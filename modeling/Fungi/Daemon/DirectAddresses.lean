import Fungi.Daemon.CachedAddresses
import Fungi.Lib.Upsert
import Mathlib.Data.List.Dedup
import Mathlib.Data.String.Basic

/-!
# The cache of direct addresses

`DirectAddressCache` of `crates/config/src/direct_addresses.rs`: for each device the addresses a
direct connection has been made to, with how often and when.  The JSON file is modelled by the cache
it decodes to; a failed write may leave a file that decodes to anything or to nothing.
-/

namespace Fungi.Daemon

open Fungi.Lib Fungi.Swarm

/-- An entry with all its fields; `DirectAddressEntry` is what is read back at a restart. -/
structure CachedAddressEntry extends DirectAddressEntry where
  source : String
  deriving DecidableEq

/-- The addresses that the cache has of a device. -/
structure CachedDeviceAddresses where
  peerId : String
  addresses : List CachedAddressEntry
  deriving DecidableEq

/-- The direct addresses at which devices have been reached. -/
structure DirectAddressCache where
  devices : List CachedDeviceAddresses
  deriving DecidableEq

/-- Outcome of the `std::fs::write` of one save. -/
inductive CacheSave where
  | written
  | failed (left : Option DirectAddressCache)

/-- `u64::saturating_add(1)`. -/
def saturatingSucc (count : UInt64) : UInt64 :=
  if count = UInt64.ofNat (UInt64.size - 1) then count else count + 1

theorem toNat_saturatingSucc (count : UInt64) :
    (saturatingSucc count).toNat = min (UInt64.size - 1) (count.toNat + 1) := by
  have bound := count.toNat_lt
  unfold saturatingSucc
  split
  · next full =>
      rw [full]
      rfl
  · next notFull =>
      have less : count.toNat ≠ UInt64.size - 1 := by
        intro same
        apply notFull
        rw [← same, UInt64.ofNat_toNat]
      rw [UInt64.toNat_add, UInt64.toNat_one]
      unfold UInt64.size at less ⊢
      omega

namespace CachedAddressEntry

/-- One more success. -/
def succeedAgain (now : SystemTime) (self : CachedAddressEntry) : CachedAddressEntry :=
  { self with successCount := saturatingSucc self.successCount, lastSuccessAt := now }

/-- An address that has been reached for the first time. -/
def firstSuccess (now : SystemTime) (address : String) : CachedAddressEntry :=
  { address
    source := "connection"
    successCount := 1
    firstSuccessAt := now
    lastSuccessAt := now }

/-- The entry of an address after one more success, given the entry before. -/
def succeed (now : SystemTime) (address : String) (before : Option CachedAddressEntry) :
    CachedAddressEntry :=
  before.elim (firstSuccess now address) (succeedAgain now)

end CachedAddressEntry

namespace CachedDeviceAddresses

/-- The body of the loop over the addresses. -/
def recordAddress (now : SystemTime) (self : CachedDeviceAddresses) (address : String) :
    CachedDeviceAddresses :=
  { self with
    addresses := upsertFirst (fun entry => entry.address = address)
      (CachedAddressEntry.succeedAgain now) (.firstSuccess now address) self.addresses }

/-- Addresses are kept in the order of their texts. -/
def sortAddresses (self : CachedDeviceAddresses) : CachedDeviceAddresses :=
  { self with addresses := self.addresses.insertionSort fun left right =>
      left.address ≤ right.address }

/-- What happens to the device whose addresses are recorded. -/
def recordAddresses (now : SystemTime) (addresses : List String) (self : CachedDeviceAddresses) :
    CachedDeviceAddresses :=
  (addresses.foldl (recordAddress now) self).sortAddresses

/-- The entry of an address. -/
def find (self : CachedDeviceAddresses) (address : String) : Option CachedAddressEntry :=
  findKey (fun entry : CachedAddressEntry => entry.address) address self.addresses

end CachedDeviceAddresses

namespace DirectAddressCache

/-- The addresses that are recorded: trimmed, not empty, each of them once. -/
def normalizeAddresses (addresses : List String) : List String :=
  (((addresses.map trim).filter (· ≠ "")).insertionSort (· ≤ ·)).dedup

/-- The cache after a recording, before it is saved. -/
def recorded (self : DirectAddressCache) (now : SystemTime) (peerId : String)
    (addresses : List String) : DirectAddressCache :=
  let addresses := normalizeAddresses addresses
  let devices := upsertFirst (fun device => device.peerId = peerId)
    (CachedDeviceAddresses.recordAddresses now addresses)
    (CachedDeviceAddresses.recordAddresses now addresses { peerId, addresses := [] }) self.devices
  { devices := devices.insertionSort fun left right => left.peerId ≤ right.peerId }

/-- The cache that replaces the old one, unless the save fails, and what the file decodes to
afterwards.  Nothing is saved where there is nothing to record. -/
def recordSuccessfulAddresses (self : DirectAddressCache) (now : SystemTime) (peerId : String)
    (addresses : List String) (file : Option DirectAddressCache) (outcome : CacheSave) :
    Option DirectAddressCache × Option DirectAddressCache :=
  if normalizeAddresses addresses = [] then (some self, file)
  else
    let updated := self.recorded now peerId addresses
    match outcome with
    | .written => (some updated, some updated)
    | .failed left => (none, left)

/-- The entry of an address of a device. -/
def find (self : DirectAddressCache) (peerId address : String) : Option CachedAddressEntry :=
  (findKey (fun device : CachedDeviceAddresses => device.peerId) peerId self.devices).bind
    fun device =>
    device.find address

end DirectAddressCache

/-! ## What one recording changes -/

namespace CachedDeviceAddresses

variable {now : SystemTime} {self : CachedDeviceAddresses} {address found : String}

theorem find_recordAddress :
    (self.recordAddress now address).find found =
      if found = address then some (CachedAddressEntry.succeed now address (self.find address))
      else self.find found :=
  @findKey_upsertFirst _ _ _ (fun entry : CachedAddressEntry => entry.address) address found
    (CachedAddressEntry.succeedAgain now) (.firstSuccess now address) (fun _ => rfl) rfl
    self.addresses

theorem find_foldl_recordAddress {addresses : List String} (distinct : addresses.Nodup) :
    (addresses.foldl (recordAddress now) self).find found =
      if found ∈ addresses then some (CachedAddressEntry.succeed now found (self.find found))
      else self.find found := by
  induction addresses generalizing self with
  | nil => simp
  | cons first rest inductionHypothesis =>
      obtain ⟨notInRest, distinctRest⟩ := List.nodup_cons.mp distinct
      rw [List.foldl_cons, inductionHypothesis distinctRest, find_recordAddress]
      by_cases isFirst : found = first
      · subst isFirst
        simp [notInRest]
      · simp [isFirst]

theorem peerId_foldl_recordAddress (addresses : List String) :
    (addresses.foldl (recordAddress now) self).peerId = self.peerId := by
  induction addresses generalizing self with
  | nil => rfl
  | cons first rest inductionHypothesis => exact inductionHypothesis

theorem peerId_recordAddresses (addresses : List String) :
    (self.recordAddresses now addresses).peerId = self.peerId :=
  peerId_foldl_recordAddress addresses

theorem find_recordAddresses {addresses : List String} (distinct : addresses.Nodup) :
    (self.recordAddresses now addresses).find found =
      if found ∈ addresses then some (CachedAddressEntry.succeed now found (self.find found))
      else self.find found := by
  rw [← find_foldl_recordAddress distinct]
  exact findKey_insertionSort _

end CachedDeviceAddresses

namespace DirectAddressCache

variable {now : SystemTime} {self : DirectAddressCache} {peerId foundPeer found : String}
  {addresses : List String}

theorem nodup_normalizeAddresses (addresses : List String) : (normalizeAddresses addresses).Nodup :=
  List.nodup_dedup _

theorem mem_normalizeAddresses :
    found ∈ normalizeAddresses addresses ↔
      ∃ address ∈ addresses, trim address = found ∧ found ≠ "" := by
  rw [normalizeAddresses, List.mem_dedup, List.mem_insertionSort, List.mem_filter, List.mem_map,
    decide_eq_true_eq]
  constructor
  · rintro ⟨⟨address, member, rfl⟩, visible⟩
    exact ⟨address, member, rfl, visible⟩
  · rintro ⟨address, member, rfl, visible⟩
    exact ⟨⟨address, member, rfl⟩, visible⟩

/-- A recording counts one more success for each of its addresses, and changes no other entry. -/
theorem find_recorded :
    (self.recorded now peerId addresses).find foundPeer found =
      if foundPeer = peerId ∧ found ∈ normalizeAddresses addresses then
        some (CachedAddressEntry.succeed now found (self.find foundPeer found))
      else self.find foundPeer found := by
  have distinct := nodup_normalizeAddresses addresses
  unfold recorded find
  dsimp only
  rw [findKey_insertionSort, @findKey_upsertFirst _ _ _ CachedDeviceAddresses.peerId peerId
    foundPeer
    (CachedDeviceAddresses.recordAddresses now (normalizeAddresses addresses)) _
    (fun _ => CachedDeviceAddresses.peerId_recordAddresses _)
    (CachedDeviceAddresses.peerId_recordAddresses _)]
  by_cases same : foundPeer = peerId
  · subst same
    rw [if_pos rfl, Option.bind_some]
    cases before : findKey (fun device : CachedDeviceAddresses => device.peerId) foundPeer
        self.devices with
    | none =>
        rw [Option.elim_none, CachedDeviceAddresses.find_recordAddresses distinct]
        simp [CachedDeviceAddresses.find, findKey]
    | some device =>
        rw [Option.elim_some, CachedDeviceAddresses.find_recordAddresses distinct]
        simp
  · simp [same]

end DirectAddressCache

end Fungi.Daemon
