import Fungi.Config.Devices
import Fungi.Daemon.AddressSync
import Fungi.Swarm.DialPlan

/-!
# Addresses that are remembered over a restart

What the task of `crates/daemon/src/connectivity.rs` saves is restored by
`hydrate_direct_address_cache` of `crates/daemon/src/daemon.rs` into the address book, from which
`crates/swarm/src/libp2p/dial_plan.rs` plans the direct dials of a peer.
-/

namespace Fungi.Daemon

open Fungi.Lib Fungi.Swarm
open Fungi.Config (DevicesConfig)

variable {PeerId : Type}

section Hydration

variable [DecidableEq PeerId] (parsePeer : String → Option PeerId)
    (parse : String → Option (Multiaddr PeerId))

end Hydration

/-! ## What a cache lists -/

namespace CachedDeviceAddresses

/-- The cache of a device has the address. -/
def Lists (self : CachedDeviceAddresses) (address : String) : Prop :=
  ∃ entry ∈ self.addresses, entry.address = address

variable {self : CachedDeviceAddresses} {now : SystemTime} {address found : String}

end CachedDeviceAddresses

namespace DirectAddressCache

/-- The cache has the address for the peer. -/
def Lists (self : DirectAddressCache) (peerId address : String) : Prop :=
  ∃ device ∈ self.devices, device.peerId = peerId ∧ device.Lists address

variable {self : DirectAddressCache} {now : SystemTime} {peerId foundPeer found : String}
  {addresses : List String}

end DirectAddressCache

/-! ## What the task lists while every save is written -/

section Ticks

variable {peerText : PeerId → String} {text : Multiaddr PeerId → String}

namespace AddressSync

/-- The file decodes to the cache in memory. -/
def Saved (self : AddressSync) : Prop := self.file = some self.cache

variable {self : AddressSync} {tick : SyncTick PeerId} {peerId address : String}

end AddressSync

end Ticks

/-! ## What a start restores -/

section Hydration

variable [DecidableEq PeerId]

/-- Every record is under its own key, of the right kind, and not expired. -/
def AllLive (book : PeerAddressBook PeerId) : Prop :=
  ∀ key record, book.peerAddressRecords key = some record →
    (record.peerId, record.address) = key ∧ record.transportKind = addressTransportKind key.2 ∧
      record.expiredAt = none

/-- A part of the start adds records under some keys, and leaves the other keys as they were. -/
structure Fills (added : PeerId × Multiaddr PeerId → Prop) (before after : PeerAddressBook PeerId) :
    Prop where
  live : AllLive before → AllLive after
  filled : ∀ key, after.peerAddressRecords key ≠ none ↔
    added key ∨ before.peerAddressRecords key ≠ none

namespace Fills

variable {before after : PeerAddressBook PeerId} {added : PeerId × Multiaddr PeerId → Prop}

omit [DecidableEq PeerId] in
theorem unchanged (nothing : ∀ key, added key → before.peerAddressRecords key ≠ none) :
    Fills added before before where
  live := id
  filled key := by
    constructor
    · exact Or.inr
    · exact fun filled => filled.elim (nothing key) id

omit [DecidableEq PeerId] in
theorem foldl {Item : Type} {body : PeerAddressBook PeerId → Item → PeerAddressBook PeerId}
    {added : Item → PeerId × Multiaddr PeerId → Prop}
    (each : ∀ book item, Fills (added item) book (body book item)) (items : List Item)
    (book : PeerAddressBook PeerId) :
    Fills (fun key => ∃ item ∈ items, added item key) book (items.foldl body book) := by
  induction items generalizing book with
  | nil => exact unchanged (by simp)
  | cons item rest inductionHypothesis =>
      have first := each book item
      have later := inductionHypothesis (body book item)
      refine ⟨later.live ∘ first.live, fun key => ?_⟩
      rw [List.foldl_cons, later.filled, first.filled, List.exists_mem_cons_iff, or_assoc,
        or_left_comm]

/-- A record put under the key of a normalised address. -/
theorem update {peerId : PeerId} {normalized : Multiaddr PeerId}
    {record : PeerAddressRecord PeerId}
    (records : after.peerAddressRecords =
      Function.update before.peerAddressRecords (peerId, normalized) (some record))
    (isLive : AllLive before → (record.peerId, record.address) = (peerId, normalized) ∧
      record.transportKind = addressTransportKind normalized ∧ record.expiredAt = none)
    (isAdded : ∀ key, added key ↔ key = (peerId, normalized)) : Fills added before after where
  live live := by
    intro key found isFound
    rw [records] at isFound
    by_cases same : key = (peerId, normalized)
    · subst same
      rw [Function.update_self, Option.some.injEq] at isFound
      subst isFound
      exact isLive live
    · rw [Function.update_of_ne same] at isFound
      exact live key found isFound
  filled key := by
    rw [records, isAdded]
    by_cases same : key = (peerId, normalized)
    · simp [same]
    · simp [same]

end Fills

variable {self : PeerAddressBook PeerId} {peerId : PeerId} {address : Multiaddr PeerId}
  {source : PeerAddressSource}

variable {parsePeer : String → Option PeerId} {parse : String → Option (Multiaddr PeerId)}

end Hydration

section Restart

variable [DecidableEq PeerId]

/-- What is known of the texts of the peers and addresses a tick finds: they are read back. -/
structure ReadsBack (peerText : PeerId → String) (text : Multiaddr PeerId → String)
    (parsePeer : String → Option PeerId) (parse : String → Option (Multiaddr PeerId))
    (connections : ConnectionIndexes PeerId) : Prop where
  peers : ∀ peerId ∈ connections.peers, parsePeer (peerText peerId) = some peerId
  addresses : ∀ peerId ∈ connections.peers, ∀ connection ∈ connections.recordsForPeer peerId,
    trim (text connection.remoteAddr) = text connection.remoteAddr ∧
      text connection.remoteAddr ≠ "" ∧
        parse (text connection.remoteAddr) = some connection.remoteAddr

end Restart

/-! ## One connection before a restart -/

/-- The address by its two texts. -/
def lanText (address : Multiaddr Nat) : String :=
  if address = PeerAddressBook.lanAddress then peerSpelling else plainSpelling

end Fungi.Daemon
