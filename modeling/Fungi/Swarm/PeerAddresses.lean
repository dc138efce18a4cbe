import Fungi.Lib.Run
import Fungi.Lib.Text
import Fungi.Swarm.Address
import Fungi.Swarm.ConnectionIndexes

/-!
# The address book of peers

The peer addresses of `ConnectivityState` in `crates/swarm/src/state/connectivity.rs`: what is
learned about a peer's addresses is normalised, filtered by where it comes from, and kept under
the peer and the normalised address.  Counters are those of a release build, which wrap around.
-/

namespace Fungi.Swarm

open Fungi.Lib

variable {PeerId : Type}

/-- Where an address is known from. -/
inductive PeerAddressSource where
  | identify
  | mdns
  | deviceConfig
  | directCache
  | manual
  | relayDerived
  | autoNat
  | other
  deriving DecidableEq

/-- What an observation has done to the book. -/
inductive PeerAddressObservation where
  | new
  | refreshed
  | ignored
  deriving DecidableEq

/-- What the book has of an address. -/
structure PeerAddressRecord (PeerId : Type) where
  peerId : PeerId
  address : Multiaddr PeerId
  transportKind : AddressTransportKind
  source : PeerAddressSource
  firstObservedAt : SystemTime
  lastObservedAt : SystemTime
  expiredAt : Option SystemTime
  observationCount : UInt64
  deriving DecidableEq

/-- Only addresses that a user has given may be local. -/
def sourceAllowsLocalAddress : PeerAddressSource → Bool
  | .deviceConfig | .manual => true
  | _ => false

/-! ## Normalisation -/

/-- `name.eq_ignore_ascii_case("localhost")`. -/
def isLocalHostname (name : String) : Bool := toAsciiLowercase name == toAsciiLowercase "localhost"

/-- Whether an IPv4 address is one of the loopback network. -/
def ip4IsLoopback (bits : Nat) : Bool := bits / 2 ^ 24 == 127

/-- Whether an IPv6 address is the loopback address. -/
def ip6IsLoopback (bits : Nat) : Bool := bits == 1

/-- The four octets, or the eight segments, are zero. -/
def isUnspecified (bits : Nat) : Bool := bits == 0

section Normalisation

variable [DecidableEq PeerId]

/-- The loop of `normalize_peer_address_with_options`, over the protocols that remain. -/
def normalizeProtocols (peerId : PeerId) (allowLocal : Bool) :
    Multiaddr PeerId → Multiaddr PeerId → Bool → Option (Multiaddr PeerId)
  | [], normalized, sawTransport => if sawTransport then some normalized else none
  | .ip4 bits :: protocols, normalized, sawTransport =>
      if isUnspecified bits || (!allowLocal && ip4IsLoopback bits) then none
      else normalizeProtocols peerId allowLocal protocols (normalized ++ [.ip4 bits]) sawTransport
  | .ip6 bits :: protocols, normalized, sawTransport =>
      if isUnspecified bits || (!allowLocal && ip6IsLoopback bits) then none
      else normalizeProtocols peerId allowLocal protocols (normalized ++ [.ip6 bits]) sawTransport
  | .dns name :: protocols, normalized, sawTransport =>
      if !allowLocal && isLocalHostname name then none
      else normalizeProtocols peerId allowLocal protocols (normalized ++ [.dns name]) sawTransport
  | .dns4 name :: protocols, normalized, sawTransport =>
      if !allowLocal && isLocalHostname name then none
      else normalizeProtocols peerId allowLocal protocols (normalized ++ [.dns4 name]) sawTransport
  | .dns6 name :: protocols, normalized, sawTransport =>
      if !allowLocal && isLocalHostname name then none
      else normalizeProtocols peerId allowLocal protocols (normalized ++ [.dns6 name]) sawTransport
  | .dnsaddr name :: protocols, normalized, sawTransport =>
      if !allowLocal && isLocalHostname name then none
      else
        normalizeProtocols peerId allowLocal protocols (normalized ++ [.dnsaddr name]) sawTransport
  | .tcp port :: protocols, normalized, _ =>
      if port = 0 then none
      else normalizeProtocols peerId allowLocal protocols (normalized ++ [.tcp port]) true
  | .udp port :: protocols, normalized, _ =>
      if port = 0 then none
      else normalizeProtocols peerId allowLocal protocols (normalized ++ [.udp port]) true
  | .quicV1 :: protocols, normalized, sawTransport =>
      normalizeProtocols peerId allowLocal protocols (normalized ++ [.quicV1]) sawTransport
  | .p2p observedPeerId :: protocols, normalized, sawTransport =>
      if observedPeerId ≠ peerId then none
      -- the loop breaks off at the peer's own id where it is the last protocol
      else if protocols.isEmpty then if sawTransport then some normalized else none
      else none
  | .p2pCircuit :: protocols, normalized, sawTransport =>
      normalizeProtocols peerId allowLocal protocols (normalized ++ [.p2pCircuit]) sawTransport
  | .other _ :: _, _, _ => none

/-- The address of the peer, if it can be dialled. -/
def normalizePeerAddressWithOptions (address : Multiaddr PeerId) (peerId : PeerId)
    (allowLocal : Bool) : Option (Multiaddr PeerId) :=
  normalizeProtocols peerId allowLocal address [] false

/-- The address of the peer, if other devices can dial it. -/
def normalizePeerAddress (address : Multiaddr PeerId) (peerId : PeerId) :
    Option (Multiaddr PeerId) :=
  normalizePeerAddressWithOptions address peerId false

/-- The address of the peer, if its source may name it. -/
def normalizePeerAddressForSource (address : Multiaddr PeerId) (peerId : PeerId)
    (source : PeerAddressSource) : Option (Multiaddr PeerId) :=
  normalizePeerAddressWithOptions address peerId (sourceAllowsLocalAddress source)

end Normalisation

/-- A loopback address or the name of the local host. -/
def Protocol.isLocal : Protocol PeerId → Bool
  | .ip4 bits => ip4IsLoopback bits
  | .ip6 bits => ip6IsLoopback bits
  | .dns name | .dns4 name | .dns6 name | .dnsaddr name => isLocalHostname name
  | _ => false

/-- Neither a zero port nor an unspecified address, and not a protocol that normalisation
removes or rejects. -/
def Protocol.isUsable : Protocol PeerId → Bool
  | .ip4 bits | .ip6 bits => !isUnspecified bits
  | .tcp port | .udp port => port != 0
  | .p2p _ | .other _ => false
  | _ => true

/-- Whether a component is a transport. -/
def Protocol.isTransport : Protocol PeerId → Bool
  | .tcp _ | .udp _ => true
  | _ => false

/-- What a normalised address looks like: it can be dialled, and is local only where that is
allowed. -/
structure Normalized (allowLocal : Bool) (address : Multiaddr PeerId) : Prop where
  usable : ∀ protocol ∈ address, protocol.isUsable = true
  isLocal : ∀ protocol ∈ address, protocol.isLocal = true → allowLocal = true
  transport : ∃ protocol ∈ address, protocol.isTransport = true

theorem Normalized.notMem {allowLocal : Bool} {address : Multiaddr PeerId}
    (normalized : Normalized allowLocal address) {protocol : Protocol PeerId}
    (unusable : protocol.isUsable = false) : protocol ∉ address := by
  intro member
  have usable := normalized.usable protocol member
  rw [unusable] at usable
  cases usable

section Normalisation

variable [DecidableEq PeerId]

/-- The protocols pass the loop one by one. -/
theorem normalizeProtocols_cons (peerId : PeerId) (allowLocal : Bool)
    {protocol : Protocol PeerId} (protocols normalized : Multiaddr PeerId) (sawTransport : Bool)
    (notPeer : ∀ observed, protocol ≠ .p2p observed) :
    normalizeProtocols peerId allowLocal (protocol :: protocols) normalized sawTransport =
      if protocol.isUsable && (allowLocal || !protocol.isLocal) then
        normalizeProtocols peerId allowLocal protocols (normalized ++ [protocol])
          (sawTransport || protocol.isTransport)
      else none := by
  cases protocol with
  | ip4 bits =>
      cases unspecified : isUnspecified bits <;> cases loopback : ip4IsLoopback bits <;>
        cases allowLocal <;>
          simp [normalizeProtocols, Protocol.isUsable, Protocol.isLocal, Protocol.isTransport,
            unspecified, loopback]
  | ip6 bits =>
      cases unspecified : isUnspecified bits <;> cases loopback : ip6IsLoopback bits <;>
        cases allowLocal <;>
          simp [normalizeProtocols, Protocol.isUsable, Protocol.isLocal, Protocol.isTransport,
            unspecified, loopback]
  | dns name | dns4 name | dns6 name | dnsaddr name =>
      cases here : isLocalHostname name <;> cases allowLocal <;>
        simp [normalizeProtocols, Protocol.isUsable, Protocol.isLocal, Protocol.isTransport, here]
  | tcp port | udp port =>
      by_cases zero : port = 0 <;>
        simp [normalizeProtocols, Protocol.isUsable, Protocol.isLocal, Protocol.isTransport, zero]
  | quicV1 | p2pCircuit =>
      simp [normalizeProtocols, Protocol.isUsable, Protocol.isLocal, Protocol.isTransport]
  | p2p observed => exact absurd rfl (notPeer observed)
  | other text => simp [normalizeProtocols, Protocol.isUsable]

/-- The loop answers what it has read, less the peer's own id at the end. -/
theorem normalizeProtocols_eq_some {peerId : PeerId} {allowLocal : Bool}
    {address normalized result : Multiaddr PeerId} {sawTransport : Bool} :
    normalizeProtocols peerId allowLocal address normalized sawTransport = some result ↔
      ∃ kept, result = normalized ++ kept ∧ (address = kept ∨ address = kept ++ [.p2p peerId]) ∧
        (∀ protocol ∈ kept, protocol.isUsable && (allowLocal || !protocol.isLocal)) ∧
        (sawTransport || kept.any Protocol.isTransport) = true := by
  induction address generalizing normalized sawTransport with
  | nil =>
      simp only [normalizeProtocols, ite_eq_iff, Option.some.injEq, reduceCtorEq, and_false,
        or_false, List.nil_eq, List.append_eq_nil_iff, List.cons_ne_self]
      constructor
      · rintro ⟨saw, rfl⟩
        exact ⟨[], by simp, by simp, by simp, by simp [saw]⟩
      · rintro ⟨kept, rfl, shape, -, saw⟩
        obtain rfl : kept = [] := by simpa using shape
        simpa using saw
  | cons protocol protocols inductionHypothesis =>
      by_cases peer : ∃ observed, protocol = .p2p observed
      · obtain ⟨observed, rfl⟩ := peer
        constructor
        · intro answered
          rw [normalizeProtocols] at answered
          split at answered
          · cases answered
          · next own =>
              rw [not_not] at own
              split at answered
              · next last =>
                  rw [List.isEmpty_iff] at last
                  rw [Option.ite_none_right_eq_some, Option.some.injEq] at answered
                  exact ⟨[], by simp [answered.2], by simp [own, last], by simp,
                    by simp [answered.1]⟩
              · cases answered
        · rintro ⟨kept, rfl, shape, each, saw⟩
          cases kept with
          | nil =>
              obtain ⟨own, last⟩ : observed = peerId ∧ protocols = [] := by simpa using shape
              have seen : sawTransport = true := by simpa using saw
              simp [normalizeProtocols, own, last, seen]
          | cons first kept =>
              obtain rfl : Protocol.p2p observed = first := by
                rcases shape with whole | whole
                · exact (List.cons.inj whole).1
                · exact (List.cons.inj whole).1
              exact absurd (each _ List.mem_cons_self) (by simp [Protocol.isUsable])
      · push Not at peer
        rw [normalizeProtocols_cons peerId allowLocal protocols normalized sawTransport peer,
          Option.ite_none_right_eq_some, inductionHypothesis]
        constructor
        · rintro ⟨passes, kept, rfl, shape, each, saw⟩
          refine ⟨protocol :: kept, by simp, ?_, ?_, ?_⟩
          · exact shape.imp (congrArg _) (congrArg _)
          · exact List.forall_mem_cons.mpr ⟨passes, each⟩
          · simpa [Bool.or_assoc] using saw
        · rintro ⟨kept, rfl, shape, each, saw⟩
          cases kept with
          | nil => exact absurd (shape.resolve_left nofun) (by simp [peer])
          | cons first kept =>
              rw [List.cons_append, List.cons.injEq, List.cons.injEq, ← and_or_left] at shape
              obtain ⟨rfl, shape⟩ := shape
              rw [List.forall_mem_cons] at each
              exact ⟨each.1, kept, by simp, shape, each.2, by simpa [Bool.or_assoc] using saw⟩

theorem normalizePeerAddressWithOptions_eq_some {address result : Multiaddr PeerId}
    {peerId : PeerId} {allowLocal : Bool} :
    normalizePeerAddressWithOptions address peerId allowLocal = some result ↔
      (address = result ∨ address = result ++ [.p2p peerId]) ∧ Normalized allowLocal result := by
  rw [normalizePeerAddressWithOptions, normalizeProtocols_eq_some]
  simp only [List.nil_append, Bool.false_or, List.any_eq_true]
  constructor
  · rintro ⟨kept, rfl, shape, each, transport⟩
    refine ⟨shape, fun protocol member => ?_, fun protocol member isLocal => ?_, transport⟩
    · exact (Bool.and_eq_true_iff.mp (each protocol member)).1
    · simpa [isLocal] using (Bool.and_eq_true_iff.mp (each protocol member)).2
  · rintro ⟨shape, normalized⟩
    refine ⟨result, rfl, shape, fun protocol member => ?_, normalized.transport⟩
    cases isLocal : protocol.isLocal with
    | false => simp [normalized.usable protocol member]
    | true => simp [normalized.usable protocol member, normalized.isLocal protocol member isLocal]

/-- Normalising again changes nothing. -/
theorem normalizePeerAddressWithOptions_idem {address result : Multiaddr PeerId}
    {peerId : PeerId} {allowLocal : Bool}
    (answered : normalizePeerAddressWithOptions address peerId allowLocal = some result) :
    normalizePeerAddressWithOptions result peerId allowLocal = some result := by
  rw [normalizePeerAddressWithOptions_eq_some] at answered ⊢
  exact ⟨Or.inl rfl, answered.2⟩

end Normalisation

/-! ## The records -/

/-- The part of `ConnectivityState` that holds the addresses of peers. -/
structure PeerAddressBook (PeerId : Type) where
  peerAddressRecords : PeerId × Multiaddr PeerId → Option (PeerAddressRecord PeerId)
  peerAddressRevision : UInt64

namespace PeerAddressBook

variable [DecidableEq PeerId]

/-- A book without records. -/
def empty : PeerAddressBook PeerId :=
  { peerAddressRecords := fun _ => none, peerAddressRevision := 0 }

/-- A record under its key, which leaves the other keys alone. -/
def put (self : PeerAddressBook PeerId) (key : PeerId × Multiaddr PeerId)
    (record : PeerAddressRecord PeerId) : PeerAddressBook PeerId :=
  { self with
    peerAddressRecords := Function.update self.peerAddressRecords key (some record) }

/-- An observation makes a record or refreshes one. -/
def recordPeerAddress (self : PeerAddressBook PeerId) (peerId : PeerId)
    (address : Multiaddr PeerId) (source : PeerAddressSource) (now : SystemTime) :
    PeerAddressObservation × PeerAddressBook PeerId :=
  match normalizePeerAddressForSource address peerId source with
  | none => (.ignored, self)
  | some normalized =>
      let key := (peerId, normalized)
      match self.peerAddressRecords key with
      | some record =>
          (.refreshed,
            self.put key
              { record with
                lastObservedAt := now
                expiredAt := none
                observationCount := record.observationCount + 1
                source })
      | none =>
          let added := self.put key
            { peerId
              address := normalized
              transportKind := addressTransportKind normalized
              source
              firstObservedAt := now
              lastObservedAt := now
              expiredAt := none
              observationCount := 1 }
          (.new, { added with peerAddressRevision := self.peerAddressRevision + 1 })

/-- A cached observation makes a record or is merged into one. -/
def restorePeerAddressRecord (self : PeerAddressBook PeerId) (peerId : PeerId)
    (address : Multiaddr PeerId) (source : PeerAddressSource)
    (firstObservedAt lastObservedAt : SystemTime) (observationCount : UInt64) :
    PeerAddressObservation × PeerAddressBook PeerId :=
  match normalizePeerAddressForSource address peerId source with
  | none => (.ignored, self)
  | some normalized =>
      let firstObservedAt := min firstObservedAt lastObservedAt
      let observationCount := max observationCount 1
      let key := (peerId, normalized)
      match self.peerAddressRecords key with
      | some record =>
          if lastObservedAt ≤ record.lastObservedAt then (.ignored, self)
          else
            (.refreshed,
              self.put key
                { record with
                  firstObservedAt := min record.firstObservedAt firstObservedAt
                  lastObservedAt
                  expiredAt := none
                  observationCount := max record.observationCount observationCount
                  source })
      | none =>
          let added := self.put key
            { peerId
              address := normalized
              transportKind := addressTransportKind normalized
              source
              firstObservedAt
              lastObservedAt
              expiredAt := none
              observationCount }
          (.new, { added with peerAddressRevision := self.peerAddressRevision + 1 })

/-- The address is looked up as one that is not local. -/
def expirePeerAddress (self : PeerAddressBook PeerId) (peerId : PeerId)
    (address : Multiaddr PeerId) (now : SystemTime) : Bool × PeerAddressBook PeerId :=
  match normalizePeerAddress address peerId with
  | none => (false, self)
  | some normalized =>
      let key := (peerId, normalized)
      match self.peerAddressRecords key with
      | none => (false, self)
      | some record =>
          if record.expiredAt.isNone then (true, self.put key { record with expiredAt := some now })
          else (true, self)

/-! Each operation on an address that is normalised, by what is stored. -/

section Stored

variable {self : PeerAddressBook PeerId} {peerId : PeerId}
  {address normalized : Multiaddr PeerId} {source : PeerAddressSource}
  {record : PeerAddressRecord PeerId} {now firstObservedAt lastObservedAt : SystemTime}
  {observationCount : UInt64}

theorem recordPeerAddress_of_none
    (normalizes : normalizePeerAddressForSource address peerId source = some normalized)
    (found : self.peerAddressRecords (peerId, normalized) = none) :
    self.recordPeerAddress peerId address source now =
      (.new, { peerAddressRecords := Function.update self.peerAddressRecords (peerId, normalized)
                 (some
                   { peerId
                     address := normalized
                     transportKind := addressTransportKind normalized
                     source
                     firstObservedAt := now
                     lastObservedAt := now
                     expiredAt := none
                     observationCount := 1 })
               peerAddressRevision := self.peerAddressRevision + 1 }) := by
  simp only [recordPeerAddress, normalizes, found, put]

theorem recordPeerAddress_of_some
    (normalizes : normalizePeerAddressForSource address peerId source = some normalized)
    (found : self.peerAddressRecords (peerId, normalized) = some record) :
    self.recordPeerAddress peerId address source now =
      (.refreshed,
        self.put (peerId, normalized)
          { record with
            lastObservedAt := now
            expiredAt := none
            observationCount := record.observationCount + 1
            source }) := by
  simp only [recordPeerAddress, normalizes, found]

theorem restorePeerAddressRecord_of_none
    (normalizes : normalizePeerAddressForSource address peerId source = some normalized)
    (found : self.peerAddressRecords (peerId, normalized) = none) :
    self.restorePeerAddressRecord peerId address source firstObservedAt lastObservedAt
        observationCount =
      (.new, { peerAddressRecords := Function.update self.peerAddressRecords (peerId, normalized)
                 (some
                   { peerId
                     address := normalized
                     transportKind := addressTransportKind normalized
                     source
                     firstObservedAt := min firstObservedAt lastObservedAt
                     lastObservedAt
                     expiredAt := none
                     observationCount := max observationCount 1 })
               peerAddressRevision := self.peerAddressRevision + 1 }) := by
  simp only [restorePeerAddressRecord, normalizes, found, put]

theorem restorePeerAddressRecord_of_some
    (normalizes : normalizePeerAddressForSource address peerId source = some normalized)
    (found : self.peerAddressRecords (peerId, normalized) = some record) :
    self.restorePeerAddressRecord peerId address source firstObservedAt lastObservedAt
        observationCount =
      if lastObservedAt ≤ record.lastObservedAt then (.ignored, self)
      else
        (.refreshed,
          self.put (peerId, normalized)
            { record with
              firstObservedAt := min record.firstObservedAt (min firstObservedAt lastObservedAt)
              lastObservedAt
              expiredAt := none
              observationCount := max record.observationCount (max observationCount 1)
              source }) := by
  simp only [restorePeerAddressRecord, normalizes, found]

theorem expirePeerAddress_of_some
    (normalizes : normalizePeerAddress address peerId = some normalized)
    (found : self.peerAddressRecords (peerId, normalized) = some record)
    (live : record.expiredAt = none) :
    self.expirePeerAddress peerId address now =
      (true, self.put (peerId, normalized) { record with expiredAt := some now }) := by
  simp [expirePeerAddress, normalizes, found, live]

end Stored

end PeerAddressBook

/-- What changes the book. -/
inductive AddressStep (PeerId : Type) where
  | record (peerId : PeerId) (address : Multiaddr PeerId) (source : PeerAddressSource)
      (now : SystemTime)
  | restore (peerId : PeerId) (address : Multiaddr PeerId) (source : PeerAddressSource)
      (firstObservedAt lastObservedAt : SystemTime) (observationCount : UInt64)
  | expire (peerId : PeerId) (address : Multiaddr PeerId) (now : SystemTime)

namespace PeerAddressBook

variable [DecidableEq PeerId]

/-- A change is a step whether or not it has an effect. -/
def step (self : PeerAddressBook PeerId) : AddressStep PeerId → Option (PeerAddressBook PeerId)
  | .record peerId address source now =>
      some (self.recordPeerAddress peerId address source now).2
  | .restore peerId address source firstObservedAt lastObservedAt observationCount =>
      some
        (self.restorePeerAddressRecord peerId address source firstObservedAt lastObservedAt
          observationCount).2
  | .expire peerId address now => some (self.expirePeerAddress peerId address now).2

/-- Neither port nor host of a stored address is a placeholder, it is local only where a device
configuration or the user gave it, and every record was observed. -/
structure Hygienic (book : PeerAddressBook PeerId) : Prop where
  normalized : ∀ key record, book.peerAddressRecords key = some record →
    normalizePeerAddressForSource record.address record.peerId record.source =
      some record.address
  noZeroPort : ∀ key record, book.peerAddressRecords key = some record →
    .tcp 0 ∉ record.address ∧ .udp 0 ∉ record.address
  noUnspecified : ∀ key record, book.peerAddressRecords key = some record →
    .ip4 0 ∉ record.address ∧ .ip6 0 ∉ record.address
  localOnlyConfigured : ∀ key record, book.peerAddressRecords key = some record →
    record.address.any Protocol.isLocal = true →
      record.source = .deviceConfig ∨ record.source = .manual
  onePerAddress : ∀ key key' record record', book.peerAddressRecords key = some record →
    book.peerAddressRecords key' = some record' →
      record.peerId = record'.peerId → record.address = record'.address → key = key'
  observed : ∀ key record, book.peerAddressRecords key = some record →
    1 ≤ record.observationCount

/-- The step does not observe an address again whose count has reached the last 64-bit number. -/
def CountsOn (self : PeerAddressBook PeerId) : AddressStep PeerId → Prop
  | .record peerId address source _ =>
      ∀ normalized, normalizePeerAddressForSource address peerId source = some normalized →
        ∀ record, self.peerAddressRecords (peerId, normalized) = some record →
          record.observationCount ≠ UInt64.ofNat (2 ^ 64 - 1)
  | _ => True

/-- The record belongs under the key: it is of that peer and address, which its source may
give. -/
structure Keeps (key : PeerId × Multiaddr PeerId) (record : PeerAddressRecord PeerId) : Prop where
  keyed : (record.peerId, record.address) = key
  normalized : normalizePeerAddressForSource key.2 key.1 record.source = some key.2

/-- Every record is kept under its own peer and address. -/
def Keyed (self : PeerAddressBook PeerId) : Prop :=
  ∀ key record, self.peerAddressRecords key = some record → Keeps key record

/-- Every record has been observed. -/
def EachObserved (self : PeerAddressBook PeerId) : Prop :=
  ∀ key record, self.peerAddressRecords key = some record → record.observationCount ≠ 0

theorem toNat_max (left right : UInt64) :
    (max left right).toNat = max left.toNat right.toNat := by
  rw [show max left right = if left ≤ right then right else left from rfl]
  simp only [UInt64.le_iff_toNat_le]
  split <;> omega

theorem max_ne_zero {left right : UInt64} (positive : right ≠ 0) : max left right ≠ 0 := by
  rw [ne_eq, ← UInt64.toNat_inj, UInt64.toNat_zero] at positive ⊢
  rw [toNat_max]
  omega

theorem succ_ne_zero_iff {count : UInt64} :
    count + 1 ≠ 0 ↔ count ≠ UInt64.ofNat (2 ^ 64 - 1) := by
  rw [not_iff_not]
  constructor
  · intro overflow
    have back : count = count + 1 - 1 := (UInt64.add_sub_cancel count 1).symm
    rw [back, overflow]
    decide
  · rintro rfl
    decide

/-- A step leaves the records alone, or puts one record where it belongs. -/
theorem step_cases {self next : PeerAddressBook PeerId} {action : AddressStep PeerId}
    (keyed : self.Keyed) (taken : step self action = some next) :
    next.peerAddressRecords = self.peerAddressRecords ∧ self.CountsOn action ∨
      ∃ key record, next.peerAddressRecords =
          Function.update self.peerAddressRecords key (some record) ∧ Keeps key record ∧
        (self.EachObserved → (record.observationCount ≠ 0 ↔ self.CountsOn action)) := by
  cases action with
  | record peerId address source now =>
      obtain rfl := Option.some.inj taken
      unfold recordPeerAddress
      cases answer : normalizePeerAddressForSource address peerId source with
      | none => exact Or.inl ⟨rfl, by simp [CountsOn, answer]⟩
      | some normalized =>
          have again := normalizePeerAddressWithOptions_idem answer
          right
          cases found : self.peerAddressRecords (peerId, normalized) with
          | none =>
              simp only [found]
              refine ⟨(peerId, normalized), _, rfl, ?_⟩
              exact ⟨⟨rfl, again⟩, fun _ => by simp [CountsOn, answer, found]⟩
          | some record =>
              simp only [found]
              refine ⟨(peerId, normalized), _, rfl, ?_⟩
              exact ⟨⟨(keyed _ _ found).keyed, again⟩,
                fun _ => by simp [CountsOn, answer, found, succ_ne_zero_iff]⟩
  | restore peerId address source firstObservedAt lastObservedAt observationCount =>
      obtain rfl := Option.some.inj taken
      have positive : max observationCount 1 ≠ 0 := max_ne_zero (by decide)
      unfold restorePeerAddressRecord
      cases answer : normalizePeerAddressForSource address peerId source with
      | none => exact Or.inl ⟨rfl, trivial⟩
      | some normalized =>
          have again := normalizePeerAddressWithOptions_idem answer
          cases found : self.peerAddressRecords (peerId, normalized) with
          | none =>
              simp only [found]
              refine Or.inr ⟨(peerId, normalized), _, rfl, ?_⟩
              exact ⟨⟨rfl, again⟩, fun _ => iff_of_true positive trivial⟩
          | some record =>
              simp only [found]
              split
              · exact Or.inl ⟨rfl, trivial⟩
              · refine Or.inr ⟨(peerId, normalized), _, rfl, ?_⟩
                exact ⟨⟨(keyed _ _ found).keyed, again⟩,
                  fun _ => iff_of_true (max_ne_zero positive) trivial⟩
  | expire peerId address now =>
      obtain rfl := Option.some.inj taken
      unfold expirePeerAddress
      cases answer : normalizePeerAddress address peerId with
      | none => exact Or.inl ⟨rfl, trivial⟩
      | some normalized =>
          cases found : self.peerAddressRecords (peerId, normalized) with
          | none => exact Or.inl ⟨by simp only [found], trivial⟩
          | some record =>
              simp only [found]
              split
              · refine Or.inr ⟨(peerId, normalized), _, rfl, ?_⟩
                have kept := keyed _ _ found
                refine ⟨⟨kept.keyed, kept.normalized⟩, fun observed => iff_of_true ?_ trivial⟩
                exact observed _ record found
              · exact Or.inl ⟨rfl, trivial⟩

theorem Keyed.step {self next : PeerAddressBook PeerId} {action : AddressStep PeerId}
    (keyed : self.Keyed) (taken : step self action = some next) : next.Keyed := by
  rcases step_cases keyed taken with ⟨unchanged, -⟩ | ⟨key, record, changed, kept, -⟩
  · rwa [Keyed, unchanged]
  · intro other found isFound
    rw [changed] at isFound
    rcases of_update isFound with ⟨rfl, same⟩ | ⟨-, before⟩
    · obtain rfl := Option.some.inj same
      exact kept
    · exact keyed other found before

/-- A step keeps every record observed exactly if it counts on. -/
theorem eachObserved_step_iff {self next : PeerAddressBook PeerId} {action : AddressStep PeerId}
    (keyed : self.Keyed) (observed : self.EachObserved) (taken : step self action = some next) :
    next.EachObserved ↔ self.CountsOn action := by
  rcases step_cases keyed taken with ⟨unchanged, counts⟩ | ⟨key, record, changed, -, counts⟩
  · rw [EachObserved, unchanged]
    exact iff_of_true observed counts
  · rw [← counts observed, EachObserved, changed]
    constructor
    · intro every
      exact every key record (Function.update_self key _ _)
    · intro positive other found isFound
      rcases of_update isFound with ⟨rfl, same⟩ | ⟨-, before⟩
      · obtain rfl := Option.some.inj same
        exact positive
      · exact observed other found before

theorem Keeps.address_normalized {key : PeerId × Multiaddr PeerId}
    {record : PeerAddressRecord PeerId} (kept : Keeps key record) :
    normalizePeerAddressForSource record.address record.peerId record.source =
      some record.address := by
  have fixed := kept.normalized
  rwa [← kept.keyed] at fixed

theorem hygienic_iff {self : PeerAddressBook PeerId} (keyed : self.Keyed) :
    self.Hygienic ↔ self.EachObserved := by
  have normalized : ∀ key record, self.peerAddressRecords key = some record →
      Normalized (sourceAllowsLocalAddress record.source) record.address := by
    intro key record found
    exact (normalizePeerAddressWithOptions_eq_some.mp
      (keyed key record found).address_normalized).2
  constructor
  · intro hygienic key record found zero
    have positive := hygienic.observed key record found
    rw [zero] at positive
    exact absurd positive (by decide)
  · intro observed
    constructor
    · exact fun key record found => (keyed key record found).address_normalized
    · intro key record found
      exact ⟨(normalized key record found).notMem rfl, (normalized key record found).notMem rfl⟩
    · intro key record found
      exact ⟨(normalized key record found).notMem rfl, (normalized key record found).notMem rfl⟩
    · intro key record found hasLocal
      obtain ⟨protocol, member, isLocal⟩ := List.any_eq_true.mp hasLocal
      have allowed := (normalized _ _ found).isLocal protocol member isLocal
      cases source : record.source <;> simp_all [sourceAllowsLocalAddress]
    · intro key key' record record' found found' samePeer sameAddress
      rw [← (keyed key record found).keyed, ← (keyed key' record' found').keyed, samePeer,
        sameAddress]
    · intro key record found
      have positive := observed key record found
      rw [UInt64.le_iff_toNat_le]
      exact Nat.one_le_iff_ne_zero.mpr fun zero => positive (UInt64.toNat_inj.mp zero)

theorem keyed_empty : (empty : PeerAddressBook PeerId).Keyed := by
  intro key record found
  cases found

theorem keyed_of_run {actions : List (AddressStep PeerId)} {final : PeerAddressBook PeerId}
    (reached : run step empty actions = some final) : final.Keyed := by
  refine run_induction (motive := fun _ state => Keyed state) keyed_empty ?_ reached
  intro actions state action next _ keyed taken
  exact keyed.step taken

theorem hygienic_empty : (empty : PeerAddressBook PeerId).Hygienic := by
  rw [hygienic_iff keyed_empty]
  intro key record found
  cases found

/-- The book is clean in every state of a run exactly if no step of it observes an address whose
count has no successor. -/
theorem peer_addresses_hygienic_iff {actions : List (AddressStep PeerId)}
    {final : PeerAddressBook PeerId} (reached : run step empty actions = some final) :
    EveryState step Hygienic (empty : PeerAddressBook PeerId) actions ↔
      EveryStep step CountsOn empty actions := by
  have keyedAfter : ∀ (state : PeerAddressBook PeerId) action next, Keyed state →
      step state action = some next → Keyed next := fun state action next keyed taken =>
    keyed.step taken
  apply everyState_iff_everyStep keyedAfter
  · intro state action next keyed hygienic taken
    rw [hygienic_iff (keyed.step taken)]
    exact eachObserved_step_iff keyed ((hygienic_iff keyed).mp hygienic) taken
  · exact keyed_empty
  · exact hygienic_empty
  · exact reached

/-- An address of the peer `7` in the local network, with its id at the end. -/
def lanAddress : Multiaddr Nat := [.ip4 0xC0A80107, .tcp 4001, .p2p 7]

/-- The address comes out of the cache with a count of successes, and is then seen once more. -/
def cachedThenSeen (successCount : UInt64) : List (AddressStep Nat) :=
  [.restore 7 lanAddress .directCache 0 0 successCount, .record 7 lanAddress .identify 1]

theorem peer_addresses_hygienic_iff_cached : ∃ final,
    run step empty (cachedThenSeen 7) = some final ∧
      EveryState step Hygienic empty (cachedThenSeen 7) := by
  refine ⟨_, rfl, (peer_addresses_hygienic_iff rfl).mpr ?_⟩
  refine ⟨trivial, fun next taken => ⟨?_, fun _ _ => trivial⟩⟩
  obtain rfl := Option.some.inj taken
  intro normalized answered record found
  obtain rfl := Option.some.inj answered
  obtain rfl := Option.some.inj found
  decide

/-- The cache saturates its counts, and the address book wraps them around to none. -/
theorem peer_address_count_wraps : ∃ final,
    run step empty (cachedThenSeen 0xFFFFFFFFFFFFFFFF) = some final ∧ ¬ final.Hygienic := by
  refine ⟨_, rfl, fun hygienic => ?_⟩
  exact absurd (hygienic.observed (7, [.ip4 0xC0A80107, .tcp 4001]) _ rfl) (by decide +kernel)

end PeerAddressBook

end Fungi.Swarm
