import Fungi.Swarm.PeerAddresses

/-!
# Expiry of addresses

What an address recorded by `crates/swarm/src/state/connectivity.rs` takes part in later: it is
expired, and then seen again.  An address is recorded as its source allows, and expired as one that
is not local.
-/

namespace Fungi.Swarm

open Fungi.Lib

variable {PeerId : Type} [DecidableEq PeerId]

/-- How an address comes into the book. -/
inductive Sighting where
  | recorded (source : PeerAddressSource) (now : SystemTime)
  | restored (source : PeerAddressSource) (firstObservedAt lastObservedAt : SystemTime)
      (observationCount : UInt64)

/-- Where an address has been seen. -/
def Sighting.source : Sighting → PeerAddressSource
  | .recorded source _ => source
  | .restored source _ _ _ => source

/-- The last number of an observation count. -/
def lastCount : UInt64 := UInt64.ofNat (2 ^ 64 - 1)

theorem toNat_lastCount : lastCount.toNat = 2 ^ 64 - 1 := rfl

theorem toNat_add_one_iff {count : UInt64} :
    (count + 1).toNat = count.toNat + 1 ↔ count ≠ lastCount := by
  have bound := count.toNat_lt
  rw [UInt64.toNat_add, show (1 : UInt64).toNat = 1 from rfl, ne_eq, ← UInt64.toNat_inj,
    toNat_lastCount]
  omega

theorem max_eq_lastCount_iff {left right : UInt64} :
    max left right = lastCount ↔ left = lastCount ∨ right = lastCount := by
  have leftBound := left.toNat_lt
  have rightBound := right.toNat_lt
  simp only [← UInt64.toNat_inj, PeerAddressBook.toNat_max, toNat_lastCount]
  omega

namespace PeerAddressBook

/-- What a sighting does to the book. -/
def sight (self : PeerAddressBook PeerId) (peerId : PeerId) (address : Multiaddr PeerId) :
    Sighting → PeerAddressObservation × PeerAddressBook PeerId
  | .recorded source now => self.recordPeerAddress peerId address source now
  | .restored source firstObservedAt lastObservedAt observationCount =>
      self.restorePeerAddressRecord peerId address source firstObservedAt lastObservedAt
        observationCount

/-- The sighting does not bring the count of the address to its last number. -/
def LeavesCount (self : PeerAddressBook PeerId) (key : PeerId × Multiaddr PeerId) :
    Sighting → Prop
  | .recorded _ _ =>
      ∀ record, self.peerAddressRecords key = some record → record.observationCount + 1 ≠ lastCount
  | .restored _ _ _ observationCount =>
      observationCount ≠ lastCount ∧
        ∀ record, self.peerAddressRecords key = some record → record.observationCount ≠ lastCount

/-- The record under the key can be expired, and be seen again after that. -/
def ExpiresAndReturns (self : PeerAddressBook PeerId) (peerId : PeerId)
    (address : Multiaddr PeerId) (key : PeerId × Multiaddr PeerId) : Prop :=
  ∀ (expiredAt seenAt : SystemTime) (source : PeerAddressSource),
    let expired := self.expirePeerAddress peerId address expiredAt
    let seen := (expired.2.recordPeerAddress peerId address source seenAt).2
    ∃ record, self.peerAddressRecords key = some record ∧ expired.1 = true ∧
      expired.2.peerAddressRecords =
        Function.update self.peerAddressRecords key
          (some { record with expiredAt := some expiredAt }) ∧
      ∃ again, seen.peerAddressRecords key = some again ∧ again.expiredAt = none ∧
        again.firstObservedAt = record.firstObservedAt ∧
          again.observationCount.toNat = record.observationCount.toNat + 1

theorem sight_of_rejected {self : PeerAddressBook PeerId} {peerId : PeerId}
    {address : Multiaddr PeerId} {sighting : Sighting}
    (rejected : normalizePeerAddressForSource address peerId sighting.source = none) :
    (self.sight peerId address sighting).1 = .ignored := by
  cases sighting with
  | recorded source now =>
      rw [Sighting.source] at rejected
      simp [sight, recordPeerAddress, rejected]
  | restored source firstObservedAt lastObservedAt observationCount =>
      rw [Sighting.source] at rejected
      simp [sight, restorePeerAddressRecord, rejected]

/-- A sighting that is not ignored leaves a record that is not expired. -/
theorem sight_cases {self : PeerAddressBook PeerId} {peerId : PeerId}
    {address : Multiaddr PeerId} {sighting : Sighting}
    (accepted : (self.sight peerId address sighting).1 ≠ .ignored) :
    ∃ normalized record,
      normalizePeerAddressForSource address peerId sighting.source = some normalized ∧
        (self.sight peerId address sighting).2.peerAddressRecords (peerId, normalized) =
          some record ∧ record.expiredAt = none ∧
            (record.observationCount ≠ lastCount ↔
              self.LeavesCount (peerId, normalized) sighting) := by
  have one : (1 : UInt64) ≠ lastCount := by decide
  obtain ⟨normalized, normalizes⟩ : ∃ normalized,
      normalizePeerAddressForSource address peerId sighting.source = some normalized := by
    apply Option.ne_none_iff_exists'.mp
    intro rejected
    exact accepted (sight_of_rejected rejected)
  cases sighting with
  | recorded source now =>
      rw [sight] at accepted ⊢
      rw [Sighting.source] at normalizes ⊢
      cases found : self.peerAddressRecords (peerId, normalized) with
      | none =>
          rw [recordPeerAddress_of_none normalizes found]
          exact ⟨normalized, _, normalizes, Function.update_self .., rfl,
            by simp [LeavesCount, found, one]⟩
      | some record =>
          rw [recordPeerAddress_of_some normalizes found]
          exact ⟨normalized, _, normalizes, Function.update_self .., rfl,
            by simp [LeavesCount, found]⟩
  | restored source firstObservedAt lastObservedAt observationCount =>
      rw [sight] at accepted ⊢
      rw [Sighting.source] at normalizes ⊢
      cases found : self.peerAddressRecords (peerId, normalized) with
      | none =>
          rw [restorePeerAddressRecord_of_none normalizes found]
          exact ⟨normalized, _, normalizes, Function.update_self .., rfl,
            by simp [LeavesCount, found, max_eq_lastCount_iff, one]⟩
      | some record =>
          rw [restorePeerAddressRecord_of_some normalizes found] at accepted ⊢
          split at accepted
          · exact absurd rfl accepted
          · next later =>
              rw [if_neg later]
              refine ⟨normalized, _, normalizes, Function.update_self .., rfl, ?_⟩
              simp only [LeavesCount, found, ne_eq, max_eq_lastCount_iff, one, Option.some.injEq,
                forall_eq']
              tauto

end PeerAddressBook

/-! ## Addresses that are not local -/

/-- An address without a local part normalises in the same way from every source. -/
theorem normalizePeerAddressWithOptions_of_not_local {address normalized : Multiaddr PeerId}
    {peerId : PeerId} {allowLocal : Bool}
    (normalizes : normalizePeerAddressWithOptions address peerId allowLocal = some normalized)
    (notLocal : address.any Protocol.isLocal = false) (allowed : Bool) :
    normalizePeerAddressWithOptions address peerId allowed = some normalized := by
  rw [normalizePeerAddressWithOptions_eq_some] at normalizes ⊢
  obtain ⟨shape, isNormalized⟩ := normalizes
  refine ⟨shape, isNormalized.usable, ?_, isNormalized.transport⟩
  intro protocol member isLocal
  have inAddress : protocol ∈ address := by
    rcases shape with rfl | rfl
    · exact member
    · exact List.mem_append_left _ member
  exact absurd isLocal (by simpa using List.any_eq_false.mp notLocal protocol inAddress)

theorem normalizePeerAddress_of_local {address : Multiaddr PeerId} (peerId : PeerId)
    (hasLocal : address.any Protocol.isLocal = true) :
    normalizePeerAddress address peerId = none := by
  cases normalizes : normalizePeerAddress address peerId with
  | none => rfl
  | some normalized =>
      obtain ⟨shape, isNormalized⟩ := normalizePeerAddressWithOptions_eq_some.mp normalizes
      obtain ⟨protocol, member, isLocal⟩ := List.any_eq_true.mp hasLocal
      have inNormalized : protocol ∈ normalized := by
        rcases shape with rfl | rfl
        · exact member
        · rcases List.mem_append.mp member with before | isPeer
          · exact before
          · rw [List.mem_singleton.mp isPeer] at isLocal
            cases isLocal
      exact absurd (isNormalized.isLocal protocol inNormalized isLocal) (by decide)

namespace PeerAddressBook

/-- An accepted address can be expired and seen again exactly if it has no local part and its count
has a successor. -/
theorem expiry_reaches_record_iff {book : PeerAddressBook PeerId} {peerId : PeerId}
    {address : Multiaddr PeerId} {sighting : Sighting}
    (accepted : (book.sight peerId address sighting).1 ≠ .ignored) :
    (∃ normalized,
        normalizePeerAddressForSource address peerId sighting.source = some normalized ∧
          (book.sight peerId address sighting).2.ExpiresAndReturns peerId address
            (peerId, normalized)) ↔
      address.any Protocol.isLocal = false ∧
        ∀ normalized,
          normalizePeerAddressForSource address peerId sighting.source = some normalized →
            book.LeavesCount (peerId, normalized) sighting := by
  obtain ⟨normalized, record, normalizes, found, live, leaves⟩ := sight_cases accepted
  generalize (book.sight peerId address sighting).2 = sighted at found ⊢
  simp only [normalizes, Option.some.injEq, exists_eq_left', forall_eq', ← leaves]
  cases isLocal : address.any Protocol.isLocal with
  | true =>
      refine iff_of_false (fun expires => ?_) nofun
      obtain ⟨_, _, answered, -⟩ := expires 0 0 sighting.source
      simp [expirePeerAddress, normalizePeerAddress_of_local peerId isLocal] at answered
  | false =>
      have everySource := normalizePeerAddressWithOptions_of_not_local normalizes isLocal
      have expired : ∀ expiredAt, sighted.expirePeerAddress peerId address expiredAt =
          (true, sighted.put (peerId, normalized) { record with expiredAt := some expiredAt }) :=
        fun _ => expirePeerAddress_of_some (everySource false) found live
      have again : ∀ expiredAt source seenAt,
          (sighted.put (peerId, normalized)
            { record with expiredAt := some expiredAt }).recordPeerAddress peerId address source
              seenAt = _ := fun expiredAt source seenAt =>
        recordPeerAddress_of_some (everySource _) (Function.update_self ..)
      simp only [ExpiresAndReturns, expired, again, true_and]
      simp only [put, Function.update_self, Option.some.injEq]
      rw [← toNat_add_one_iff]
      constructor
      · intro expires
        obtain ⟨_, stored, -, _, same, -, -, counted⟩ := expires 0 0 sighting.source
        rw [found] at stored
        cases stored
        cases same
        exact counted
      · intro counted expiredAt seenAt source
        exact ⟨record, found, rfl, _, rfl, rfl, rfl, counted⟩

/-! ## Addresses of the local host -/

/-- An address of this device only. -/
def loopbackAddress : Multiaddr Nat := [.ip4 0x7F000001, .tcp 4001]

theorem expiry_reaches_record_iff_lan :
    (∃ normalized,
        normalizePeerAddressForSource lanAddress 7 .mdns = some normalized ∧
          (empty.sight 7 lanAddress (.recorded .mdns 0)).2.ExpiresAndReturns 7 lanAddress
            (7, normalized)) := by
  have accepted : ((empty : PeerAddressBook Nat).sight 7 lanAddress (.recorded .mdns 0)).1 ≠
      .ignored := by decide
  exact (expiry_reaches_record_iff accepted).mpr ⟨by decide, fun _ _ _ found => by cases found⟩

/-- The address of a device configuration is new to the book, and expiry does not find it. -/
theorem local_address_not_expired :
    ((empty : PeerAddressBook Nat).sight 7 loopbackAddress (.recorded .deviceConfig 0)).1 = .new ∧
      ((empty : PeerAddressBook Nat).sight 7 loopbackAddress
        (.recorded .deviceConfig 0)).2.expirePeerAddress 7 loopbackAddress 1 =
          (false, (empty.sight 7 loopbackAddress (.recorded .deviceConfig 0)).2) :=
  ⟨by decide, rfl⟩

end PeerAddressBook

end Fungi.Swarm
