import Fungi.Lib.Run
import Fungi.Config.TrustedDevices
import Mathlib.Data.Finset.Dedup
import Mathlib.Data.Finset.Insert
import Mathlib.Data.Finset.Erase

/-!
# Inbound access policy

`InboundAccessPolicy` of `crates/daemon/src/inbound_access.rs`.  `authorize` and
`revoke` each update two stores under two locks: the trusted devices, on disk and
in memory, and then the runtime allow list.  The lock on the first store is
dropped before the second is taken, so the steps of concurrent calls interleave.
-/

namespace Fungi.Daemon

open Fungi.Config Fungi.Lib

variable {PeerId CallId : Type}

/-- The trusted devices, in memory and in their file, and the peers that streams are accepted
from. -/
structure InboundAccessPolicy (PeerId : Type) where
  trustedPeers : TrustedDevicesConfig PeerId
  /-- What `trusted_devices.toml` decodes to. -/
  trustedDevicesFile : List PeerId
  incomingAllowList : Finset PeerId

/-- The two operations. -/
inductive AccessOperation where
  | authorize
  | revoke
  deriving DecidableEq

/-- A call of either operation for a peer. -/
structure AccessCall (PeerId : Type) where
  operation : AccessOperation
  peerId : PeerId

namespace InboundAccessPolicy

/-- The trusted devices a restart of the daemon would load. -/
def persisted (self : InboundAccessPolicy PeerId) : List PeerId :=
  self.trustedPeers.persisted self.trustedDevicesFile

variable [LinearOrder PeerId]

/-- The policy the daemon builds at start-up: the allow list holds the trusted
devices just loaded. -/
def new (trustedPeers : TrustedDevicesConfig PeerId) : InboundAccessPolicy PeerId :=
  { trustedPeers
    trustedDevicesFile := trustedPeers.trustedDevices
    incomingAllowList := trustedPeers.trustedDevices.toFinset }

/-- The first locked step of `authorize` and `revoke`: whether it succeeds, and
the policy after it.  A failed save keeps the configuration in memory. -/
def persist (self : InboundAccessPolicy PeerId) (call : AccessCall PeerId)
    (outcome : SaveOutcome PeerId) : Bool × InboundAccessPolicy PeerId :=
  let (replacement, file) :=
    match call.operation with
    | .authorize =>
        self.trustedPeers.addTrustedDevice call.peerId self.trustedDevicesFile outcome
    | .revoke =>
        self.trustedPeers.removeTrustedDevice call.peerId self.trustedDevicesFile outcome
  match replacement with
  | some trustedPeers => (true, { self with trustedPeers, trustedDevicesFile := file })
  | none => (false, { self with trustedDevicesFile := file })

/-- The second locked step. -/
def updateAllowList (self : InboundAccessPolicy PeerId) (call : AccessCall PeerId) :
    InboundAccessPolicy PeerId :=
  { self with
    incomingAllowList :=
      match call.operation with
      | .authorize => insert call.peerId self.incomingAllowList
      | .revoke => self.incomingAllowList.erase call.peerId }

/-- One whole call, with no other call between its steps. -/
def perform (self : InboundAccessPolicy PeerId) (call : AccessCall PeerId)
    (outcome : SaveOutcome PeerId) : Bool × InboundAccessPolicy PeerId :=
  match self.persist call outcome with
  | (true, policy) => (true, policy.updateAllowList call)
  | (false, policy) => (false, policy)

/-- Revoke the access of a peer, with nothing between the two steps. -/
def revoke (self : InboundAccessPolicy PeerId) (peerId : PeerId)
    (outcome : SaveOutcome PeerId) : Bool × InboundAccessPolicy PeerId :=
  self.perform { operation := .revoke, peerId } outcome

/-- The file and the configuration in memory agree. -/
def Saved (self : InboundAccessPolicy PeerId) : Prop :=
  self.trustedPeers.Saved self.trustedDevicesFile

/-- A successful first step settles the call's peer in the trusted devices and
touches no other peer and no allow list. -/
theorem persist_true {self next : InboundAccessPolicy PeerId} {call : AccessCall PeerId}
    {outcome : SaveOutcome PeerId}
    (succeeded : self.persist call outcome = (true, next)) :
    (self.Saved → next.Saved) ∧ next.incomingAllowList = self.incomingAllowList ∧
      ∀ peer, peer ∈ next.trustedPeers.trustedDevices ↔
        if peer = call.peerId then call.operation = .authorize
        else peer ∈ self.trustedPeers.trustedDevices := by
  obtain ⟨operation, peerId⟩ := call
  cases operation with
  | authorize =>
      simp only [persist] at succeeded
      split at succeeded
      next trustedPeers replaced =>
        simp only [Prod.mk.injEq, true_and] at succeeded
        subst succeeded
        obtain ⟨inStep, members⟩ := TrustedDevicesConfig.addTrustedDevice_spec
          (Prod.ext replaced rfl)
        refine ⟨inStep, rfl, fun peer => ?_⟩
        by_cases same : peer = peerId <;> simp [members, same]
      next => simp at succeeded
  | revoke =>
      simp only [persist] at succeeded
      split at succeeded
      next trustedPeers replaced =>
        simp only [Prod.mk.injEq, true_and] at succeeded
        subst succeeded
        obtain ⟨inStep, members⟩ := TrustedDevicesConfig.removeTrustedDevice_spec
          (Prod.ext replaced rfl)
        refine ⟨fun _ => inStep, rfl, fun peer => ?_⟩
        by_cases same : peer = peerId <;> simp [members, same]
      next => simp at succeeded

/-- A failed first step changes neither the trusted devices in memory nor the
allow list. -/
theorem persist_false {self next : InboundAccessPolicy PeerId} {call : AccessCall PeerId}
    {outcome : SaveOutcome PeerId} (failed : self.persist call outcome = (false, next)) :
    next.trustedPeers = self.trustedPeers ∧
      next.incomingAllowList = self.incomingAllowList := by
  obtain ⟨operation, peerId⟩ := call
  cases operation <;>
    simp only [persist] at failed <;>
    split at failed <;>
    simp only [Prod.mk.injEq, true_and, Bool.true_eq_false, false_and] at failed <;>
    subst failed <;>
    exact ⟨rfl, rfl⟩

theorem mem_updateAllowList {self : InboundAccessPolicy PeerId} {call : AccessCall PeerId}
    {peer : PeerId} :
    peer ∈ (self.updateAllowList call).incomingAllowList ↔
      if peer = call.peerId then call.operation = .authorize
      else peer ∈ self.incomingAllowList := by
  obtain ⟨operation, peerId⟩ := call
  cases operation <;> by_cases same : peer = peerId <;> simp [updateAllowList, same]

end InboundAccessPolicy

/-! ## Concurrent calls -/

/-- Where a call stands.  A call that is `ready` has not been made. -/
inductive AccessPhase where
  | ready
  | persisted
  | returned
  | failed
  deriving DecidableEq

/-- The policy, and how far each call has come. -/
structure AccessSystem (PeerId CallId : Type) where
  policy : InboundAccessPolicy PeerId
  phase : CallId → AccessPhase

/-- A step of a call; a save may fail and leave something else in the file. -/
inductive AccessStep (PeerId CallId : Type) where
  | persist (id : CallId)
  | persistFails (id : CallId) (left : List PeerId)
  | updateAllowList (id : CallId)

namespace AccessSystem

variable [LinearOrder PeerId] [DecidableEq CallId]

/-- The policy as it is built from the trusted devices, before any call. -/
def start (trustedPeers : TrustedDevicesConfig PeerId) : AccessSystem PeerId CallId :=
  { policy := .new trustedPeers, phase := fun _ => .ready }

/-- Each call saves first and then updates the allow list. -/
def step (calls : CallId → AccessCall PeerId) (self : AccessSystem PeerId CallId) :
    AccessStep PeerId CallId → Option (AccessSystem PeerId CallId)
  | .persist id =>
      if self.phase id = .ready then
        match self.policy.persist (calls id) .written with
        | (true, policy) =>
            some { policy, phase := Function.update self.phase id .persisted }
        | (false, _) => none
      else none
  | .persistFails id left =>
      if self.phase id = .ready then
        match self.policy.persist (calls id) (.failed left) with
        | (true, _) => none
        | (false, policy) =>
            some { policy, phase := Function.update self.phase id .failed }
      else none
  | .updateAllowList id =>
      if self.phase id = .persisted then
        some
          { policy := self.policy.updateAllowList (calls id)
            phase := Function.update self.phase id .returned }
      else none

/-- Every call that was made has returned, and returned `Ok`. -/
def AllReturnedOk (self : AccessSystem PeerId CallId) : Prop :=
  ∀ id, self.phase id = .ready ∨ self.phase id = .returned

/-- The allow list admits exactly the persisted trusted devices. -/
def StoresAgree (self : AccessSystem PeerId CallId) : Prop :=
  ∀ peer, peer ∈ self.policy.incomingAllowList ↔ peer ∈ self.policy.persisted

end AccessSystem

section Schedule

variable [LinearOrder PeerId]

/-- The operation of the call whose first step for `peer` comes last. -/
def lastPersist (calls : CallId → AccessCall PeerId) (peer : PeerId)
    (schedule : List (AccessStep PeerId CallId)) : Option AccessOperation :=
  schedule.foldl (fun last step =>
    match step with
    | .persist id => if peer = (calls id).peerId then some (calls id).operation else last
    | .persistFails _ _ => last
    | .updateAllowList _ => last) none

/-- The operation of the call whose second step for `peer` comes last. -/
def lastUpdate (calls : CallId → AccessCall PeerId) (peer : PeerId)
    (schedule : List (AccessStep PeerId CallId)) : Option AccessOperation :=
  schedule.foldl (fun last step =>
    match step with
    | .persist _ => last
    | .persistFails _ _ => last
    | .updateAllowList id =>
        if peer = (calls id).peerId then some (calls id).operation else last) none

/-- For every peer, the call that persists last and the call that updates the
allow list last do the same. -/
def LastStepsAgree (calls : CallId → AccessCall PeerId)
    (schedule : List (AccessStep PeerId CallId)) : Prop :=
  ∀ peer, lastPersist calls peer schedule = lastUpdate calls peer schedule

/-- Whether a peer is admitted after `last`, given whether it was at the start. -/
def AccessOperation.Admits (initially : Prop) : Option AccessOperation → Prop
  | none => initially
  | some operation => operation = .authorize

section Snoc

variable (calls : CallId → AccessCall PeerId) (peer : PeerId)
  (schedule : List (AccessStep PeerId CallId)) (id : CallId) (left : List PeerId)

@[simp] theorem lastPersist_persist :
    lastPersist calls peer (schedule ++ [.persist id]) =
      if peer = (calls id).peerId then some (calls id).operation
      else lastPersist calls peer schedule := by
  simp [lastPersist]

@[simp] theorem lastPersist_persistFails :
    lastPersist calls peer (schedule ++ [.persistFails id left]) =
      lastPersist calls peer schedule := by
  simp [lastPersist]

@[simp] theorem lastPersist_updateAllowList :
    lastPersist calls peer (schedule ++ [.updateAllowList id]) =
      lastPersist calls peer schedule := by
  simp [lastPersist]

@[simp] theorem lastUpdate_persist :
    lastUpdate calls peer (schedule ++ [.persist id]) = lastUpdate calls peer schedule := by
  simp [lastUpdate]

@[simp] theorem lastUpdate_persistFails :
    lastUpdate calls peer (schedule ++ [.persistFails id left]) =
      lastUpdate calls peer schedule := by
  simp [lastUpdate]

@[simp] theorem lastUpdate_updateAllowList :
    lastUpdate calls peer (schedule ++ [.updateAllowList id]) =
      if peer = (calls id).peerId then some (calls id).operation
      else lastUpdate calls peer schedule := by
  simp [lastUpdate]

end Snoc

theorem AccessOperation.admits_some_iff {initially : Prop} {left right : AccessOperation}
    (same : Admits initially (some left) ↔ Admits initially (some right)) : left = right := by
  cases left <;> cases right <;> simp [Admits] at same ⊢

end Schedule

section Runs

variable [LinearOrder PeerId] [DecidableEq CallId]

/-- What a run so far has made of the two stores. -/
structure AccessHistory (calls : CallId → AccessCall PeerId)
    (trustedPeers : TrustedDevicesConfig PeerId)
    (schedule : List (AccessStep PeerId CallId))
    (state : AccessSystem PeerId CallId) : Prop where
  saved : state.policy.Saved ∨ ∃ id, state.phase id = .failed
  trusted : ∀ peer, peer ∈ state.policy.trustedPeers.trustedDevices ↔
    AccessOperation.Admits (peer ∈ trustedPeers.trustedDevices) (lastPersist calls peer schedule)
  allowed : ∀ peer, peer ∈ state.policy.incomingAllowList ↔
    AccessOperation.Admits (peer ∈ trustedPeers.trustedDevices) (lastUpdate calls peer schedule)
  pending : ∀ peer, (lastPersist calls peer schedule).isSome →
    (lastUpdate calls peer schedule).isSome ∨
      ∃ id, (calls id).peerId = peer ∧ state.phase id = .persisted
  started : ∀ peer, (lastUpdate calls peer schedule).isSome →
    (lastPersist calls peer schedule).isSome
  inFlight : ∀ id, state.phase id = .persisted →
    (lastPersist calls (calls id).peerId schedule).isSome

namespace AccessHistory

variable {calls : CallId → AccessCall PeerId} {trustedPeers : TrustedDevicesConfig PeerId}
  {schedule : List (AccessStep PeerId CallId)} {state next : AccessSystem PeerId CallId}
  {id : CallId}

omit [DecidableEq CallId] in
theorem start (calls : CallId → AccessCall PeerId)
    (trustedPeers : TrustedDevicesConfig PeerId) :
    AccessHistory calls trustedPeers [] (AccessSystem.start trustedPeers) where
  saved := Or.inl (by
    change TrustedDevicesConfig.persisted _ _ = _
    unfold TrustedDevicesConfig.persisted
    exact ite_self ..)
  trusted := fun _ => Iff.rfl
  allowed := fun peer => by
    simp [AccessSystem.start, InboundAccessPolicy.new, AccessOperation.Admits, lastUpdate]
  pending := fun _ some => by simp [lastPersist] at some
  started := fun _ some => by simp [lastUpdate] at some
  inFlight := fun _ phase => by simp [AccessSystem.start] at phase

theorem persist (history : AccessHistory calls trustedPeers schedule state)
    (taken : state.step calls (.persist id) = some next) :
    AccessHistory calls trustedPeers (schedule ++ [.persist id]) next := by
  simp only [AccessSystem.step] at taken
  split at taken <;> [skip; cases taken]
  next ready =>
  split at taken <;> [skip; cases taken]
  next policy persisted =>
  simp only [Option.some.injEq] at taken
  subst taken
  obtain ⟨saved, allowList, members⟩ := InboundAccessPolicy.persist_true persisted
  have others : ∀ other, state.phase other = .persisted ∨ state.phase other = .failed →
      Function.update state.phase id .persisted other = state.phase other := by
    intro other busy
    apply Function.update_of_ne
    rintro rfl
    simp [ready] at busy
  exact
    { saved := history.saved.imp saved fun ⟨other, failed⟩ =>
        ⟨other, (others other (.inr failed)).trans failed⟩
      trusted := fun peer => by
        rw [members, lastPersist_persist]
        split
        · rfl
        · exact history.trusted peer
      allowed := fun peer => by
        rw [allowList, lastUpdate_persist]
        exact history.allowed peer
      pending := fun peer decided => by
        rw [lastUpdate_persist]
        by_cases same : peer = (calls id).peerId
        · exact Or.inr ⟨id, same.symm, Function.update_self ..⟩
        · rw [lastPersist_persist, if_neg same] at decided
          exact (history.pending peer decided).imp_right fun ⟨other, owner, phase⟩ =>
            ⟨other, owner, (others other (.inl phase)).trans phase⟩
      started := fun peer decided => by
        rw [lastUpdate_persist] at decided
        rw [lastPersist_persist]
        split
        · rfl
        · exact history.started peer decided
      inFlight := fun other phase => by
        rw [lastPersist_persist]
        split
        · rfl
        · next different =>
            have unchanged : other ≠ id := fun same => different (by rw [same])
            exact history.inFlight other
              ((Function.update_of_ne unchanged ..).symm.trans phase) }

theorem persistFails {left : List PeerId}
    (history : AccessHistory calls trustedPeers schedule state)
    (taken : state.step calls (.persistFails id left) = some next) :
    AccessHistory calls trustedPeers (schedule ++ [.persistFails id left]) next := by
  simp only [AccessSystem.step] at taken
  split at taken <;> [skip; cases taken]
  next ready =>
  split at taken <;> [cases taken; skip]
  next policy failed =>
  simp only [Option.some.injEq] at taken
  subst taken
  obtain ⟨trustedPeersKept, allowList⟩ := InboundAccessPolicy.persist_false failed
  have others : ∀ other, state.phase other = .persisted →
      Function.update state.phase id .failed other = .persisted := by
    intro other busy
    rw [Function.update_of_ne, busy]
    rintro rfl
    simp [ready] at busy
  exact
    { saved := Or.inr ⟨id, Function.update_self ..⟩
      trusted := fun peer => by
        rw [trustedPeersKept, lastPersist_persistFails]
        exact history.trusted peer
      allowed := fun peer => by
        rw [allowList, lastUpdate_persistFails]
        exact history.allowed peer
      pending := fun peer decided => by
        rw [lastPersist_persistFails] at decided
        rw [lastUpdate_persistFails]
        exact (history.pending peer decided).imp_right fun ⟨other, owner, phase⟩ =>
          ⟨other, owner, others other phase⟩
      started := fun peer decided => by
        rw [lastUpdate_persistFails] at decided
        rw [lastPersist_persistFails]
        exact history.started peer decided
      inFlight := fun other phase => by
        rw [lastPersist_persistFails]
        apply history.inFlight other
        change Function.update state.phase id .failed other = .persisted at phase
        by_cases same : other = id
        · rw [same, Function.update_self] at phase
          cases phase
        · rwa [Function.update_of_ne same] at phase }

theorem updateAllowList (history : AccessHistory calls trustedPeers schedule state)
    (taken : state.step calls (.updateAllowList id) = some next) :
    AccessHistory calls trustedPeers (schedule ++ [.updateAllowList id]) next := by
  simp only [AccessSystem.step] at taken
  split at taken <;> [skip; cases taken]
  next persisted =>
  simp only [Option.some.injEq] at taken
  subst taken
  have others : ∀ other, other ≠ id →
      Function.update state.phase id .returned other = state.phase other :=
    fun other different => Function.update_of_ne different ..
  exact
    { saved := history.saved.imp_right fun ⟨other, failed⟩ =>
        ⟨other, (others other (by rintro rfl; simp [persisted] at failed)).trans failed⟩
      trusted := fun peer => by
        rw [lastPersist_updateAllowList]
        exact history.trusted peer
      allowed := fun peer => by
        rw [InboundAccessPolicy.mem_updateAllowList, lastUpdate_updateAllowList]
        split
        · rfl
        · exact history.allowed peer
      pending := fun peer decided => by
        rw [lastPersist_updateAllowList] at decided
        rw [lastUpdate_updateAllowList]
        by_cases same : peer = (calls id).peerId
        · rw [if_pos same]
          exact Or.inl rfl
        · rw [if_neg same]
          refine (history.pending peer decided).imp_right fun ⟨other, owner, phase⟩ =>
            ⟨other, owner, (others other ?_).trans phase⟩
          rintro rfl
          exact same owner.symm
      started := fun peer decided => by
        rw [lastPersist_updateAllowList]
        by_cases same : peer = (calls id).peerId
        · exact same ▸ history.inFlight id persisted
        · rw [lastUpdate_updateAllowList, if_neg same] at decided
          exact history.started peer decided
      inFlight := fun other phase => by
        rw [lastPersist_updateAllowList]
        apply history.inFlight other
        by_cases same : other = id
        · exact same ▸ persisted
        · exact (others other same).symm.trans phase }

/-- Every run of concurrent calls has the history its schedule says. -/
theorem of_run (reached :
      run (AccessSystem.step calls) (AccessSystem.start trustedPeers) schedule = some state) :
    AccessHistory calls trustedPeers schedule state := by
  refine run_induction (motive := AccessHistory calls trustedPeers)
    (start calls trustedPeers) ?_ reached
  intro actions before action after _ history taken
  cases action with
  | persist id => exact history.persist taken
  | persistFails id left => exact history.persistFails taken
  | updateAllowList id => exact history.updateAllowList taken

end AccessHistory

/-- Once every call has returned `Ok`, the allow list admits exactly the persisted
trusted devices if and only if, for every peer, the call that persisted last is
of the kind of the call that updated the allow list last. -/
theorem storesAgree_iff (calls : CallId → AccessCall PeerId)
    (trustedPeers : TrustedDevicesConfig PeerId)
    (schedule : List (AccessStep PeerId CallId)) (final : AccessSystem PeerId CallId)
    (reached :
      run (AccessSystem.step calls) (AccessSystem.start trustedPeers) schedule = some final)
    (returned : final.AllReturnedOk) :
    final.StoresAgree ↔ LastStepsAgree calls schedule := by
  have history := AccessHistory.of_run reached
  have saved : final.policy.Saved := by
    refine history.saved.resolve_right fun ⟨id, failed⟩ => ?_
    cases returned id with
    | inl ready => simp [ready] at failed
    | inr done => simp [done] at failed
  have persisted : final.policy.persisted = final.policy.trustedPeers.trustedDevices := saved
  have settled : ∀ peer, (lastPersist calls peer schedule).isSome →
      (lastUpdate calls peer schedule).isSome := by
    intro peer decided
    refine (history.pending peer decided).resolve_right fun ⟨id, _, phase⟩ => ?_
    cases returned id with
    | inl ready => simp [ready] at phase
    | inr done => simp [done] at phase
  simp only [AccessSystem.StoresAgree, persisted, history.trusted, history.allowed]
  constructor
  · intro agree peer
    specialize agree peer
    have settledPeer := settled peer
    have startedPeer := history.started peer
    revert agree settledPeer startedPeer
    cases lastPersist calls peer schedule <;> cases lastUpdate calls peer schedule <;> intros
    case none.none => rfl
    case none.some startedPeer => simp at startedPeer
    case some.none settledPeer _ => simp at settledPeer
    case some.some agree _ _ => exact congrArg some (AccessOperation.admits_some_iff agree).symm
  · intro agree peer
    rw [agree peer]

end Runs

/-! ## A revocation that is lost -/

/-- Call `false` authorizes peer 7 and call `true` revokes it. -/
def overlappingCalls (second : Bool) : AccessCall Nat :=
  { operation := if second then .revoke else .authorize, peerId := 7 }

/-- The authorization persists first and updates the allow list last. -/
def overlappingSchedule : List (AccessStep Nat Bool) :=
  [.persist false, .persist true, .updateAllowList true, .updateAllowList false]

/-- No device is trusted. -/
def noTrustedDevices : TrustedDevicesConfig Nat :=
  { trustedDevices := [], configFile := "trusted_devices.toml" }

private theorem overlappingSchedule_final :
    ∃ final,
      run (AccessSystem.step overlappingCalls) (AccessSystem.start noTrustedDevices)
        overlappingSchedule = some final ∧
      final.AllReturnedOk ∧ 7 ∈ final.policy.incomingAllowList ∧
        7 ∉ final.policy.persisted := by
  have observed :
      (run (AccessSystem.step overlappingCalls) (AccessSystem.start noTrustedDevices)
        overlappingSchedule).map (fun final =>
          (final.phase false, final.phase true, decide (7 ∈ final.policy.incomingAllowList),
            decide (7 ∈ final.policy.persisted))) =
        some (.returned, .returned, true, false) := by decide
  obtain ⟨final, reached, observed⟩ := Option.map_eq_some_iff.mp observed
  simp only [Prod.mk.injEq, decide_eq_true_eq, decide_eq_false_iff_not] at observed
  obtain ⟨first, second, admitted, revoked⟩ := observed
  refine ⟨final, reached, fun id => ?_, admitted, revoked⟩
  cases id with
  | false => exact Or.inr first
  | true => exact Or.inr second

/-- Every call returns `Ok` and yet the revoked peer is still admitted. -/
theorem access_revocation_lost :
    ¬ ∀ (calls : Bool → AccessCall Nat) (trustedPeers : TrustedDevicesConfig Nat)
      (schedule : List (AccessStep Nat Bool)) (final : AccessSystem Nat Bool),
      run (AccessSystem.step calls) (AccessSystem.start trustedPeers) schedule = some final →
      final.AllReturnedOk → final.StoresAgree := by
  intro always
  obtain ⟨final, reached, returned, admitted, revoked⟩ := overlappingSchedule_final
  exact revoked ((always _ _ _ final reached returned 7).mp admitted)

theorem storesAgree_iff_overlapping :
    ∃ final : AccessSystem Nat Bool,
      run (AccessSystem.step overlappingCalls) (AccessSystem.start noTrustedDevices)
        overlappingSchedule = some final ∧
      final.AllReturnedOk ∧
      (final.StoresAgree ↔ LastStepsAgree overlappingCalls overlappingSchedule) := by
  obtain ⟨final, reached, returned, -⟩ := overlappingSchedule_final
  exact ⟨final, reached, returned, storesAgree_iff _ _ _ final reached returned⟩

end Fungi.Daemon
