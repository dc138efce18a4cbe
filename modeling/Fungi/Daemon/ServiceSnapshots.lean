import Fungi.Lib.History
import Fungi.Lib.Run
import Mathlib.Logic.Function.Basic

/-!
# Cached service snapshots

`DeviceServiceSnapshots` of `crates/daemon/src/services.rs` and the three operations on
it: the refresh of a peer, the removal of a peer, and the forgetting of one service.  An
epoch is read and a snapshot is written under one lock; the remote query, and the
reading of a snapshot that is to be rewritten, hold no lock.
-/

namespace Fungi.Daemon

open Fungi.Lib

/-- An endpoint as other devices see it. -/
structure DeviceServiceEndpoint where
  name : String
  protocol : String
  deriving DecidableEq

/-- A service as other devices see it. -/
structure DeviceService where
  name : String
  endpoints : List DeviceServiceEndpoint
  deriving DecidableEq

/-- The services of a device as they were last seen. -/
structure DeviceServiceSnapshot where
  services : List DeviceService
  deriving DecidableEq

/-- Outcome of `write_atomically`: a failure before the file is replaced, or after it. -/
inductive WriteOutcome where
  | written
  | failed
  | failedToSync
  deriving DecidableEq

/-- Outcome of the removal of a snapshot: the cache directory cannot be made, the file cannot be
deleted, or neither stands in the way. -/
inductive RemoveOutcome where
  | removed
  | failedToOpen
  | failedToDelete
  deriving DecidableEq

variable {PeerId RefreshId ForgetId : Type}

/-- `cache` is what the files of the cache directory decode to. -/
structure DeviceServiceSnapshots (PeerId : Type) where
  epochs : PeerId → UInt64
  cache : PeerId → Option DeviceServiceSnapshot

namespace DeviceServiceSnapshots

variable [DecidableEq PeerId]

/-- No device has been forgotten yet. -/
def new (cache : PeerId → Option DeviceServiceSnapshot) : DeviceServiceSnapshots PeerId :=
  { epochs := fun _ => 0, cache }

/-- What the call returns, `none` for an error, and the state after it. -/
def saveIfCurrent (self : DeviceServiceSnapshots PeerId) (peerId : PeerId)
    (expectedEpoch : UInt64) (snapshot : DeviceServiceSnapshot) (outcome : WriteOutcome) :
    Option Bool × DeviceServiceSnapshots PeerId :=
  if self.epochs peerId ≠ expectedEpoch then (some false, self)
  else
    match outcome with
    | .written => (some true, { self with cache := Function.update self.cache peerId snapshot })
    | .failed => (none, self)
    | .failedToSync => (none, { self with cache := Function.update self.cache peerId snapshot })

/-- Raise the epoch of a peer. -/
def bumped (self : DeviceServiceSnapshots PeerId) (peerId : PeerId) :
    DeviceServiceSnapshots PeerId :=
  { self with epochs := Function.update self.epochs peerId (self.epochs peerId + 1) }

/-- The epoch is raised before the cache is opened. -/
def remove (self : DeviceServiceSnapshots PeerId) (peerId : PeerId) (outcome : RemoveOutcome) :
    Option Bool × DeviceServiceSnapshots PeerId :=
  if self.epochs peerId + 1 = 0 then (none, self)
  else
    match outcome, self.cache peerId with
    | .failedToOpen, _ => (none, self.bumped peerId)
    | _, none => (some false, self.bumped peerId)
    | .failedToDelete, some _ => (none, self.bumped peerId)
    | .removed, some _ =>
        (some true, { self.bumped peerId with cache := Function.update self.cache peerId none })

section Specs

variable {self : DeviceServiceSnapshots PeerId} {peerId : PeerId} {expectedEpoch : UInt64}
  {snapshot : DeviceServiceSnapshot} {outcome : WriteOutcome}

theorem saveIfCurrent_of_ne (changed : self.epochs peerId ≠ expectedEpoch) :
    self.saveIfCurrent peerId expectedEpoch snapshot outcome = (some false, self) :=
  if_pos changed

theorem saveIfCurrent_failed (current : self.epochs peerId = expectedEpoch) :
    self.saveIfCurrent peerId expectedEpoch snapshot .failed = (none, self) :=
  if_neg (not_not.mpr current)

/-- A current snapshot is stored once its file is replaced, whatever is returned. -/
theorem saveIfCurrent_stored (current : self.epochs peerId = expectedEpoch)
    (replaced : outcome ≠ .failed) :
    (self.saveIfCurrent peerId expectedEpoch snapshot outcome).1 ≠ some false ∧
      (self.saveIfCurrent peerId expectedEpoch snapshot outcome).2 =
        { self with cache := Function.update self.cache peerId snapshot } := by
  unfold saveIfCurrent
  rw [if_neg (not_not.mpr current)]
  cases outcome with
  | written => simp
  | failed => exact absurd rfl replaced
  | failedToSync => simp

private theorem toNat_succ {epoch : UInt64} (bounded : epoch + 1 ≠ 0) :
    (epoch + 1).toNat = epoch.toNat + 1 := by
  have below := epoch.toNat_lt
  have shifted : (epoch + 1).toNat = (epoch.toNat + 1) % 2 ^ 64 := by
    rw [UInt64.toNat_add]
    rfl
  rw [shifted, Nat.mod_eq_of_lt]
  by_contra overflow
  apply bounded
  apply UInt64.toNat_inj.mp
  rw [shifted]
  have top : epoch.toNat + 1 = 2 ^ 64 := by omega
  rw [top]
  rfl

/-- A removal is refused at the last epoch; else it raises the epoch and deletes the
snapshot, or fails to delete it. -/
theorem remove_cases (self : DeviceServiceSnapshots PeerId) (peerId : PeerId)
    (outcome : RemoveOutcome) :
    self.remove peerId outcome = (none, self) ∨
      self.epochs peerId + 1 ≠ 0 ∧
        (self.remove peerId outcome = (none, self.bumped peerId) ∨
          ∃ found, self.remove peerId outcome = (some found,
            { self.bumped peerId with cache := Function.update self.cache peerId none })) := by
  unfold remove
  split
  · exact Or.inl rfl
  · next bounded =>
      right
      refine ⟨bounded, ?_⟩
      split
      · exact Or.inl rfl
      · next absent =>
          have unchanged : Function.update self.cache peerId none = self.cache := by
            rw [← absent]
            exact Function.update_eq_self _ _
          refine Or.inr ⟨false, ?_⟩
          rw [unchanged]
          rfl
      · exact Or.inl rfl
      · exact Or.inr ⟨true, rfl⟩

theorem toNat_bumped (bounded : self.epochs peerId + 1 ≠ 0) :
    ((self.bumped peerId).epochs peerId).toNat = (self.epochs peerId).toNat + 1 := by
  dsimp only [bumped]
  rw [Function.update_self, toNat_succ bounded]

theorem bumped_of_ne {other : PeerId} (different : other ≠ peerId) :
    (self.bumped peerId).epochs other = self.epochs other :=
  Function.update_of_ne different _ _

theorem le_bumped (bounded : self.epochs peerId + 1 ≠ 0) (other : PeerId) :
    (self.epochs other).toNat ≤ ((self.bumped peerId).epochs other).toNat := by
  by_cases same : other = peerId
  · rw [same, toNat_bumped bounded]
    exact Nat.le_succ _
  · exact Nat.le_of_eq (by rw [bumped_of_ne same])

end Specs

end DeviceServiceSnapshots

/-- `snapshot.services.retain(..)`. -/
def DeviceServiceSnapshot.without (snapshot : DeviceServiceSnapshot) (name : String) :
    DeviceServiceSnapshot :=
  { services := snapshot.services.filter (·.name ≠ name) }

/-! ## Concurrent calls -/

/-- Where a refresh stands: its query is on the way with the epoch read before. -/
inductive RefreshPhase where
  | ready
  | querying (epoch : UInt64)
  | returned

/-- A call of `remove_cached_service`. -/
structure ForgetCall (PeerId : Type) where
  peerId : PeerId
  serviceName : String

/-- How far a call that forgets a service has come. -/
inductive ForgetPhase where
  | ready
  | epochRead (epoch : UInt64)
  | snapshotRead (epoch : UInt64) (snapshot : DeviceServiceSnapshot)
  | returned

/-- What has happened, for the statements about the order of things. -/
inductive SnapshotEvent (PeerId RefreshId ForgetId : Type) where
  | began (id : RefreshId)
  | stored (id : RefreshId) (snapshot : DeviceServiceSnapshot)
  | rejected (id : RefreshId)
  | forgot (id : ForgetId)
  | removed (peerId : PeerId) (succeeded : Bool)
  deriving DecidableEq

/-- `origins` names the refresh that a cached snapshot was obtained by. -/
structure SnapshotSystem (PeerId RefreshId ForgetId : Type) where
  snapshots : DeviceServiceSnapshots PeerId
  refreshes : RefreshId → RefreshPhase
  forgets : ForgetId → ForgetPhase
  origins : PeerId → Option RefreshId
  readOrigins : ForgetId → Option RefreshId
  log : List (SnapshotEvent PeerId RefreshId ForgetId)

/-- A step of a refresh or of a call that forgets a service, or the removal of a device. -/
inductive SnapshotStep (PeerId RefreshId ForgetId : Type) where
  | begin (id : RefreshId)
  | queryFails (id : RefreshId)
  | save (id : RefreshId) (snapshot : DeviceServiceSnapshot) (outcome : WriteOutcome)
  | readEpoch (id : ForgetId)
  | readSnapshot (id : ForgetId)
  | saveWithout (id : ForgetId) (outcome : WriteOutcome)
  | remove (peerId : PeerId) (outcome : RemoveOutcome)

/-- The calls of a run: the peer of each refresh, and each call that forgets a service. -/
structure SnapshotCalls (PeerId RefreshId ForgetId : Type) where
  peerOf : RefreshId → PeerId
  forget : ForgetId → ForgetCall PeerId

namespace SnapshotSystem

variable [DecidableEq PeerId] [DecidableEq RefreshId] [DecidableEq ForgetId]

/-- The snapshots before any call. -/
def start (cache : PeerId → Option DeviceServiceSnapshot) :
    SnapshotSystem PeerId RefreshId ForgetId :=
  { snapshots := .new cache
    refreshes := fun _ => .ready
    forgets := fun _ => .ready
    origins := fun _ => none
    readOrigins := fun _ => none
    log := [] }

/-- A snapshot of `origin` was saved, or not. -/
def settle (self : SnapshotSystem PeerId RefreshId ForgetId) (peerId : PeerId)
    (origin : Option RefreshId) (stored : SnapshotEvent PeerId RefreshId ForgetId)
    (rejected : List (SnapshotEvent PeerId RefreshId ForgetId))
    (expectedEpoch : UInt64) (snapshot : DeviceServiceSnapshot) (outcome : WriteOutcome) :
    SnapshotSystem PeerId RefreshId ForgetId :=
  let saved := self.snapshots.saveIfCurrent peerId expectedEpoch snapshot outcome
  if saved.1 = some false then { self with snapshots := saved.2, log := self.log ++ rejected }
  else if outcome = .failed then { self with snapshots := saved.2 }
  else
    { self with
      snapshots := saved.2
      origins := Function.update self.origins peerId origin
      log := self.log ++ [stored] }

section Settle

variable {self : SnapshotSystem PeerId RefreshId ForgetId} {peerId : PeerId}
  {origin : Option RefreshId} {stored : SnapshotEvent PeerId RefreshId ForgetId}
  {rejected : List (SnapshotEvent PeerId RefreshId ForgetId)} {expectedEpoch : UInt64}
  {snapshot : DeviceServiceSnapshot} {outcome : WriteOutcome}

omit [DecidableEq RefreshId] [DecidableEq ForgetId]

theorem settle_of_ne (changed : self.snapshots.epochs peerId ≠ expectedEpoch) :
    self.settle peerId origin stored rejected expectedEpoch snapshot outcome =
      { self with log := self.log ++ rejected } := by
  unfold settle
  rw [DeviceServiceSnapshots.saveIfCurrent_of_ne changed]
  exact if_pos rfl

theorem settle_failed (current : self.snapshots.epochs peerId = expectedEpoch) :
    self.settle peerId origin stored rejected expectedEpoch snapshot .failed = self := by
  unfold settle
  rw [DeviceServiceSnapshots.saveIfCurrent_failed current]
  rfl

theorem settle_stored (current : self.snapshots.epochs peerId = expectedEpoch)
    (replaced : outcome ≠ .failed) :
    self.settle peerId origin stored rejected expectedEpoch snapshot outcome =
      { self with
        snapshots := { self.snapshots with
          cache := Function.update self.snapshots.cache peerId snapshot }
        origins := Function.update self.origins peerId origin
        log := self.log ++ [stored] } := by
  obtain ⟨accepted, saved⟩ :=
    @DeviceServiceSnapshots.saveIfCurrent_stored _ _ _ _ _ snapshot _ current replaced
  unfold settle
  dsimp only
  rw [if_neg accepted, if_neg replaced, saved]

/-- Saving moves no call on. -/
theorem settle_refreshes :
    (self.settle peerId origin stored rejected expectedEpoch snapshot outcome).refreshes =
      self.refreshes := by
  unfold settle
  dsimp only
  split
  · rfl
  · split <;> rfl

theorem settle_forgets :
    (self.settle peerId origin stored rejected expectedEpoch snapshot outcome).forgets =
      self.forgets := by
  unfold settle
  dsimp only
  split
  · rfl
  · split <;> rfl

end Settle

/-- What a step does, where the call is in the phase for it. -/
def step (calls : SnapshotCalls PeerId RefreshId ForgetId)
    (self : SnapshotSystem PeerId RefreshId ForgetId) :
    SnapshotStep PeerId RefreshId ForgetId → Option (SnapshotSystem PeerId RefreshId ForgetId)
  | .begin id =>
      match self.refreshes id with
      | .ready =>
          some
            { self with
              refreshes := Function.update self.refreshes id
                (.querying (self.snapshots.epochs (calls.peerOf id)))
              log := self.log ++ [.began id] }
      | _ => none
  | .queryFails id =>
      match self.refreshes id with
      | .querying _ =>
          some { self with refreshes := Function.update self.refreshes id .returned }
      | _ => none
  | .save id snapshot outcome =>
      match self.refreshes id with
      | .querying epoch =>
          some
            { self.settle (calls.peerOf id) (some id) (.stored id snapshot) [.rejected id] epoch
                snapshot outcome with
              refreshes := Function.update self.refreshes id .returned }
      | _ => none
  | .readEpoch id =>
      match self.forgets id with
      | .ready =>
          some
            { self with
              forgets := Function.update self.forgets id
                (.epochRead (self.snapshots.epochs (calls.forget id).peerId)) }
      | _ => none
  | .readSnapshot id =>
      match self.forgets id with
      | .epochRead epoch =>
          let phase := match self.snapshots.cache (calls.forget id).peerId with
            | none => .returned
            | some snapshot =>
                if (snapshot.without (calls.forget id).serviceName).services.length =
                    snapshot.services.length then .returned
                else .snapshotRead epoch snapshot
          some
            { self with
              forgets := Function.update self.forgets id phase
              readOrigins := Function.update self.readOrigins id
                (self.origins (calls.forget id).peerId) }
      | _ => none
  | .saveWithout id outcome =>
      match self.forgets id with
      | .snapshotRead epoch snapshot =>
          some
            { self.settle (calls.forget id).peerId (self.readOrigins id) (.forgot id) [] epoch
                (snapshot.without (calls.forget id).serviceName) outcome with
              forgets := Function.update self.forgets id .returned }
      | _ => none
  | .remove peerId outcome =>
      let removed := self.snapshots.remove peerId outcome
      some
        { self with
          snapshots := removed.2
          origins := if removed.1.isSome then Function.update self.origins peerId none
            else self.origins
          log := self.log ++ [.removed peerId removed.1.isSome] }

theorem step_save {calls : SnapshotCalls PeerId RefreshId ForgetId}
    {self : SnapshotSystem PeerId RefreshId ForgetId} {id : RefreshId} {epoch : UInt64}
    (querying : self.refreshes id = .querying epoch) {snapshot : DeviceServiceSnapshot}
    {outcome : WriteOutcome} :
    self.step calls (.save id snapshot outcome) =
      some
        { self.settle (calls.peerOf id) (some id) (.stored id snapshot) [.rejected id] epoch
            snapshot outcome with
          refreshes := Function.update self.refreshes id .returned } := by
  simp only [step, querying]

end SnapshotSystem

/-! ## Forgotten peers -/

section Forgotten

variable {calls : SnapshotCalls PeerId RefreshId ForgetId}
  {log : List (SnapshotEvent PeerId RefreshId ForgetId)}
  {event : SnapshotEvent PeerId RefreshId ForgetId} {peerId : PeerId}
  {origin : Option RefreshId}

/-- Once a peer has been removed, a snapshot of it comes from a refresh that read its epoch
after every such removal. -/
def Current (calls : SnapshotCalls PeerId RefreshId ForgetId)
    (log : List (SnapshotEvent PeerId RefreshId ForgetId)) (peerId : PeerId)
    (origin : Option RefreshId) : Prop :=
  .removed peerId true ∈ log → ∃ id, origin = some id ∧ calls.peerOf id = peerId ∧
    .began id ∈ log ∧ ¬ Before log (.began id) (.removed peerId true)

theorem Current.snoc (current : Current calls log peerId origin)
    (other : event ≠ .removed peerId true) : Current calls (log ++ [event]) peerId origin := by
  intro removed
  rw [List.mem_append, List.mem_singleton] at removed
  obtain ⟨id, from_, peer, began, after⟩ :=
    current (removed.resolve_right fun same => other same.symm)
  refine ⟨id, from_, peer, List.mem_append_left _ began, ?_⟩
  intro before
  exact after (before.of_snoc_ne other.symm)

variable [DecidableEq PeerId] [DecidableEq RefreshId] [DecidableEq ForgetId]
  {state next : SnapshotSystem PeerId RefreshId ForgetId}

/-- What a run so far has made of the epochs and the cache. -/
structure SnapshotHistory (calls : SnapshotCalls PeerId RefreshId ForgetId)
    (state : SnapshotSystem PeerId RefreshId ForgetId) : Prop where
  unbegun : ∀ id, state.refreshes id = .ready → .began id ∉ state.log
  querying : ∀ id epoch, state.refreshes id = .querying epoch → .began id ∈ state.log ∧
    epoch.toNat ≤ (state.snapshots.epochs (calls.peerOf id)).toNat ∧
    (Before state.log (.began id) (.removed (calls.peerOf id) true) →
      epoch.toNat < (state.snapshots.epochs (calls.peerOf id)).toNat) ∧
    ((∀ succeeded, ¬ Before state.log (.began id) (.removed (calls.peerOf id) succeeded)) →
      epoch = state.snapshots.epochs (calls.peerOf id))
  epochRead : ∀ id epoch, state.forgets id = .epochRead epoch →
    epoch.toNat ≤ (state.snapshots.epochs (calls.forget id).peerId).toNat
  snapshotRead : ∀ id epoch snapshot, state.forgets id = .snapshotRead epoch snapshot →
    epoch.toNat ≤ (state.snapshots.epochs (calls.forget id).peerId).toNat ∧
    (epoch = state.snapshots.epochs (calls.forget id).peerId →
      Current calls state.log (calls.forget id).peerId (state.readOrigins id))
  cached : ∀ peerId snapshot, state.snapshots.cache peerId = some snapshot →
    Current calls state.log peerId (state.origins peerId)

namespace SnapshotHistory

omit [DecidableEq PeerId] [DecidableEq RefreshId] [DecidableEq ForgetId] in
theorem start (calls : SnapshotCalls PeerId RefreshId ForgetId)
    (cache : PeerId → Option DeviceServiceSnapshot) :
    SnapshotHistory calls (SnapshotSystem.start cache) := by
  constructor
  · intro id _ impossible
    cases impossible
  · intro id epoch impossible
    cases impossible
  · intro id epoch impossible
    cases impossible
  · intro id epoch snapshot impossible
    cases impossible
  · intro peerId snapshot _ removed
    cases removed

omit [DecidableEq PeerId] [DecidableEq RefreshId] [DecidableEq ForgetId] in
/-- A step that raises no epoch and logs no removal. -/
private theorem of_quiet (history : SnapshotHistory calls state)
    (events : List (SnapshotEvent PeerId RefreshId ForgetId))
    (epochs : next.snapshots.epochs = state.snapshots.epochs)
    (log : next.log = state.log ++ events) (quiet : events.length ≤ 1)
    (other : ∀ event ∈ events, ∀ peerId succeeded, event ≠ .removed peerId succeeded)
    (unbegun : ∀ id, next.refreshes id = .ready →
      state.refreshes id = .ready ∧ .began id ∉ events)
    (querying : ∀ id epoch, next.refreshes id = .querying epoch →
      state.refreshes id = .querying epoch ∨
        .began id ∈ events ∧ state.refreshes id = .ready ∧
          epoch = state.snapshots.epochs (calls.peerOf id))
    (epochRead : ∀ id epoch, next.forgets id = .epochRead epoch →
      state.forgets id = .epochRead epoch ∨
        epoch = state.snapshots.epochs (calls.forget id).peerId)
    (snapshotRead : ∀ id epoch snapshot, next.forgets id = .snapshotRead epoch snapshot →
      state.forgets id = .snapshotRead epoch snapshot ∧
          next.readOrigins id = state.readOrigins id ∨
        state.forgets id = .epochRead epoch ∧ next.readOrigins id =
          state.origins (calls.forget id).peerId ∧
          state.snapshots.cache (calls.forget id).peerId = some snapshot)
    (cached : ∀ peerId snapshot, next.snapshots.cache peerId = some snapshot →
      Current calls state.log peerId (next.origins peerId)) :
    SnapshotHistory calls next := by
  have carried : ∀ peerId origin, Current calls state.log peerId origin →
      Current calls next.log peerId origin := by
    intro peerId origin current
    rw [log]
    match events, quiet with
    | [], _ => rwa [List.append_nil]
    | [event], _ => exact current.snoc (other event List.mem_cons_self _ _)
  have earlier : ∀ first peerId succeeded,
      Before next.log first (.removed peerId succeeded) →
        Before state.log first (.removed peerId succeeded) := by
    intro first peerId succeeded before
    rw [log] at before
    match events, quiet with
    | [], _ => rwa [List.append_nil] at before
    | [event], _ => exact before.of_snoc_ne (other event List.mem_cons_self _ _).symm
  have later : ∀ first second, Before state.log first second → Before next.log first second := by
    intro first second before
    rw [log]
    exact before.trans (List.sublist_append_left _ _)
  constructor
  · intro id ready
    obtain ⟨before, absent⟩ := unbegun id ready
    rw [log, List.mem_append, not_or]
    exact ⟨history.unbegun id before, absent⟩
  · intro id epoch phase
    rw [epochs, log]
    rcases querying id epoch phase with same | begins
    · obtain ⟨began, bound, raised, kept⟩ := history.querying id epoch same
      refine ⟨List.mem_append_left _ began, bound, ?_, ?_⟩
      · intro before
        rw [← log] at before
        exact raised (earlier _ _ _ before)
      · intro none
        apply kept
        intro succeeded before
        rw [← log] at none
        exact none succeeded (later _ _ before)
    · obtain ⟨began, ready, rfl⟩ := begins
      refine ⟨List.mem_append_right _ began, Nat.le_refl _, ?_, fun _ => rfl⟩
      intro before
      rw [← log] at before
      exact absurd (earlier _ _ _ before).left_mem (history.unbegun id ready)
  · intro id epoch phase
    rw [epochs]
    rcases epochRead id epoch phase with same | now
    · exact history.epochRead id epoch same
    · exact Nat.le_of_eq (by rw [now])
  · intro id epoch snapshot phase
    rw [epochs]
    rcases snapshotRead id epoch snapshot phase with same | now
    · obtain ⟨bound, current⟩ := history.snapshotRead id epoch snapshot same.1
      refine ⟨bound, ?_⟩
      intro unchanged
      rw [same.2]
      exact carried _ _ (current unchanged)
    · refine ⟨history.epochRead id epoch now.1, ?_⟩
      intro _
      rw [now.2.1]
      exact carried _ _ (history.cached _ snapshot now.2.2)
  · intro peerId snapshot present
    exact carried _ _ (cached peerId snapshot present)

omit [DecidableEq RefreshId] [DecidableEq ForgetId] in
/-- A refresh or a forgetting that saves, or does not. -/
private theorem settle (history : SnapshotHistory calls state) {peerId : PeerId}
    {origin : Option RefreshId} {stored : SnapshotEvent PeerId RefreshId ForgetId}
    {rejected : List (SnapshotEvent PeerId RefreshId ForgetId)} {epoch : UInt64}
    {snapshot : DeviceServiceSnapshot} {outcome : WriteOutcome}
    (current : state.snapshots.epochs peerId = epoch → Current calls state.log peerId origin)
    (storedOther : ∀ other succeeded, stored ≠ .removed other succeeded)
    (storedBegan : ∀ id, stored ≠ .began id) (short : rejected.length ≤ 1)
    (rejectedOther : ∀ event ∈ rejected, ∀ other succeeded, event ≠ .removed other succeeded)
    (rejectedBegan : ∀ id, .began id ∉ rejected)
    {refreshes : RefreshId → RefreshPhase} {forgets : ForgetId → ForgetPhase}
    (unbegun : ∀ id, refreshes id = .ready → state.refreshes id = .ready)
    (querying : ∀ id epoch, refreshes id = .querying epoch →
      state.refreshes id = .querying epoch)
    (epochRead : ∀ id epoch, forgets id = .epochRead epoch → state.forgets id = .epochRead epoch)
    (snapshotRead : ∀ id epoch snapshot, forgets id = .snapshotRead epoch snapshot →
      state.forgets id = .snapshotRead epoch snapshot) :
    SnapshotHistory calls
      { state.settle peerId origin stored rejected epoch snapshot outcome with
        refreshes, forgets } := by
  by_cases same : state.snapshots.epochs peerId = epoch
  · by_cases replaced : outcome = .failed
    · rw [replaced, SnapshotSystem.settle_failed same]
      apply history.of_quiet []
      · rfl
      · exact (List.append_nil _).symm
      · exact Nat.zero_le _
      · intro event impossible
        cases impossible
      · intro id ready
        exact ⟨unbegun id ready, List.not_mem_nil⟩
      · intro id epoch phase
        exact Or.inl (querying id epoch phase)
      · intro id epoch phase
        exact Or.inl (epochRead id epoch phase)
      · intro id epoch snapshot phase
        exact Or.inl ⟨snapshotRead id epoch snapshot phase, rfl⟩
      · exact history.cached
    · rw [SnapshotSystem.settle_stored same replaced]
      apply history.of_quiet [stored]
      · rfl
      · rfl
      · exact Nat.le_refl _
      · intro event membership
        rw [List.mem_singleton.mp membership]
        exact storedOther
      · intro id ready
        refine ⟨unbegun id ready, ?_⟩
        intro membership
        exact storedBegan id (List.mem_singleton.mp membership).symm
      · intro id epoch phase
        exact Or.inl (querying id epoch phase)
      · intro id epoch phase
        exact Or.inl (epochRead id epoch phase)
      · intro id epoch snapshot phase
        exact Or.inl ⟨snapshotRead id epoch snapshot phase, rfl⟩
      · intro other found present
        dsimp only at present ⊢
        by_cases sameId : other = peerId
        · rw [sameId, Function.update_self]
          exact current same
        · rw [Function.update_of_ne sameId] at present ⊢
          exact history.cached other found present
  · rw [SnapshotSystem.settle_of_ne same]
    apply history.of_quiet rejected
    · rfl
    · rfl
    · exact short
    · exact rejectedOther
    · intro id ready
      exact ⟨unbegun id ready, rejectedBegan id⟩
    · intro id epoch phase
      exact Or.inl (querying id epoch phase)
    · intro id epoch phase
      exact Or.inl (epochRead id epoch phase)
    · intro id epoch snapshot phase
      exact Or.inl ⟨snapshotRead id epoch snapshot phase, rfl⟩
    · exact history.cached

omit [DecidableEq RefreshId] [DecidableEq ForgetId] in
/-- A removal that raises the epoch, or fails without doing so. -/
private theorem removal (history : SnapshotHistory calls state) {peerId : PeerId}
    {succeeded : Bool} (refreshes : next.refreshes = state.refreshes)
    (forgets : next.forgets = state.forgets) (reads : next.readOrigins = state.readOrigins)
    (log : next.log = state.log ++ [.removed peerId succeeded])
    (raised : next.snapshots.epochs = state.snapshots.epochs ∧ succeeded = false ∨
      state.snapshots.epochs peerId + 1 ≠ 0 ∧
        next.snapshots.epochs = (state.snapshots.bumped peerId).epochs)
    (cached : ∀ other snapshot, next.snapshots.cache other = some snapshot →
      Current calls next.log other (next.origins other)) :
    SnapshotHistory calls next := by
  have mono : ∀ other, (state.snapshots.epochs other).toNat ≤
      (next.snapshots.epochs other).toNat := by
    intro other
    rcases raised with same | bump
    · exact Nat.le_of_eq (by rw [same.1])
    · rw [bump.2]
      exact DeviceServiceSnapshots.le_bumped bump.1 other
  have above : succeeded = true → (state.snapshots.epochs peerId).toNat <
      (next.snapshots.epochs peerId).toNat := by
    intro success
    rcases raised with same | bump
    · rw [success] at same
      cases same.2
    · rw [bump.2, DeviceServiceSnapshots.toNat_bumped bump.1]
      exact Nat.lt_succ_self _
  have kept : ∀ other, other ≠ peerId →
      next.snapshots.epochs other = state.snapshots.epochs other := by
    intro other different
    rcases raised with same | bump
    · rw [same.1]
    · rw [bump.2]
      exact DeviceServiceSnapshots.bumped_of_ne different
  constructor
  · intro id ready
    rw [refreshes] at ready
    rw [log, List.mem_append, List.mem_singleton, not_or]
    exact ⟨history.unbegun id ready, by simp⟩
  · intro id epoch phase
    rw [refreshes] at phase
    obtain ⟨began, bound, raisedBefore, keptBefore⟩ := history.querying id epoch phase
    rw [log]
    refine ⟨List.mem_append_left _ began, Nat.le_trans bound (mono _), ?_, ?_⟩
    · intro before
      rcases before_snoc.mp before with earlier | now
      · exact Nat.lt_of_lt_of_le (raisedBefore earlier) (mono _)
      · have same : calls.peerOf id = peerId ∧ true = succeeded := by simpa using now.2
        rw [same.1] at bound ⊢
        exact Nat.lt_of_le_of_lt bound (above same.2.symm)
    · intro none
      have different : calls.peerOf id ≠ peerId := by
        intro same
        apply none succeeded
        rw [same]
        exact before_snoc.mpr (Or.inr ⟨began, rfl⟩)
      rw [kept _ different]
      apply keptBefore
      intro other before
      exact none other (before.snoc _)
  · intro id epoch phase
    rw [forgets] at phase
    exact Nat.le_trans (history.epochRead id epoch phase) (mono _)
  · intro id epoch snapshot phase
    rw [forgets] at phase
    obtain ⟨bound, current⟩ := history.snapshotRead id epoch snapshot phase
    refine ⟨Nat.le_trans bound (mono _), ?_⟩
    intro unchanged
    rw [reads, log]
    have still : epoch = state.snapshots.epochs (calls.forget id).peerId := by
      rw [unchanged] at bound
      rw [unchanged]
      exact UInt64.toNat_inj.mp (Nat.le_antisymm bound (mono _))
    apply (current still).snoc
    intro event
    have same : peerId = (calls.forget id).peerId ∧ succeeded = true := by simpa using event
    have strict := above same.2
    rw [same.1, ← unchanged, still] at strict
    exact absurd strict (Nat.lt_irrefl _)
  · exact cached

theorem step (history : SnapshotHistory calls state)
    {action : SnapshotStep PeerId RefreshId ForgetId}
    (taken : SnapshotSystem.step calls state action = some next) :
    SnapshotHistory calls next := by
  cases action with
  | begin id =>
      dsimp only [SnapshotSystem.step] at taken
      split at taken
      · next ready =>
          cases taken
          apply history.of_quiet [.began id]
          · rfl
          · rfl
          · exact Nat.le_refl _
          · intro event membership peerId succeeded
            rw [List.mem_singleton.mp membership]
            simp
          · intro other phase
            rcases of_update phase with same | different
            · cases same.2
            · refine ⟨different.2, ?_⟩
              intro membership
              have same : other = id := by simpa using membership
              exact different.1 same
          · intro other epoch phase
            rcases of_update phase with same | different
            · right
              rw [same.1]
              exact ⟨List.mem_singleton_self _, ready, (RefreshPhase.querying.inj same.2).symm⟩
            · exact Or.inl different.2
          · intro other epoch phase
            exact Or.inl phase
          · intro other epoch snapshot phase
            exact Or.inl ⟨phase, rfl⟩
          · exact history.cached
      · cases taken
  | queryFails id =>
      dsimp only [SnapshotSystem.step] at taken
      split at taken
      · cases taken
        apply history.of_quiet []
        · rfl
        · exact (List.append_nil _).symm
        · exact Nat.zero_le _
        · intro event impossible
          cases impossible
        · intro other phase
          rcases of_update phase with same | different
          · cases same.2
          · exact ⟨different.2, List.not_mem_nil⟩
        · intro other epoch phase
          rcases of_update phase with same | different
          · cases same.2
          · exact Or.inl different.2
        · intro other epoch phase
          exact Or.inl phase
        · intro other epoch snapshot phase
          exact Or.inl ⟨phase, rfl⟩
        · exact history.cached
      · cases taken
  | save id snapshot outcome =>
      dsimp only [SnapshotSystem.step] at taken
      split at taken
      · next epoch querying =>
          cases taken
          obtain ⟨began, -, raised, -⟩ := history.querying id epoch querying
          apply history.settle
          · intro same removed
            refine ⟨id, rfl, rfl, began, ?_⟩
            intro before
            have strict := raised before
            rw [same] at strict
            exact Nat.lt_irrefl _ strict
          · simp
          · simp
          · exact Nat.le_refl _
          · simp
          · simp
          · intro other phase
            rcases of_update phase with same | different
            · cases same.2
            · exact different.2
          · intro other epoch phase
            rcases of_update phase with same | different
            · cases same.2
            · exact different.2
          · intro other epoch phase
            rwa [SnapshotSystem.settle_forgets] at phase
          · intro other epoch snapshot phase
            rwa [SnapshotSystem.settle_forgets] at phase
      · cases taken
  | readEpoch id =>
      dsimp only [SnapshotSystem.step] at taken
      split at taken
      · cases taken
        apply history.of_quiet []
        · rfl
        · exact (List.append_nil _).symm
        · exact Nat.zero_le _
        · intro event impossible
          cases impossible
        · intro other phase
          exact ⟨phase, List.not_mem_nil⟩
        · intro other epoch phase
          exact Or.inl phase
        · intro other epoch phase
          rcases of_update phase with same | different
          · right
            rw [same.1]
            exact (ForgetPhase.epochRead.inj same.2).symm
          · exact Or.inl different.2
        · intro other epoch snapshot phase
          rcases of_update phase with same | different
          · cases same.2
          · exact Or.inl ⟨different.2, rfl⟩
        · exact history.cached
      · cases taken
  | readSnapshot id =>
      dsimp only [SnapshotSystem.step] at taken
      split at taken
      · next epoch read =>
          cases taken
          apply history.of_quiet []
          · rfl
          · exact (List.append_nil _).symm
          · exact Nat.zero_le _
          · intro event impossible
            cases impossible
          · intro other phase
            exact ⟨phase, List.not_mem_nil⟩
          · intro other epoch phase
            exact Or.inl phase
          · intro other epoch phase
            rcases of_update phase with same | different
            · split at same
              · cases same.2
              · split at same
                · cases same.2
                · cases same.2
            · exact Or.inl different.2
          · intro other epoch' snapshot phase
            rcases of_update phase with same | different
            · right
              obtain ⟨rfl, phase⟩ := same
              split at phase
              · cases phase
              · next found present =>
                  split at phase
                  · cases phase
                  · cases phase
                    exact ⟨read, Function.update_self _ _ _, present⟩
            · left
              exact ⟨different.2, Function.update_of_ne different.1 _ _⟩
          · exact history.cached
      · cases taken
  | saveWithout id outcome =>
      dsimp only [SnapshotSystem.step] at taken
      split at taken
      · next epoch snapshot read =>
          cases taken
          obtain ⟨-, current⟩ := history.snapshotRead id epoch snapshot read
          apply history.settle
          · intro same
            exact current same.symm
          · simp
          · simp
          · exact Nat.zero_le _
          · simp
          · simp
          · intro other phase
            rwa [SnapshotSystem.settle_refreshes] at phase
          · intro other epoch phase
            rwa [SnapshotSystem.settle_refreshes] at phase
          · intro other epoch phase
            rcases of_update phase with same | different
            · cases same.2
            · exact different.2
          · intro other epoch snapshot phase
            rcases of_update phase with same | different
            · cases same.2
            · exact different.2
      · cases taken
  | remove peerId outcome =>
      have moved := (Option.some.inj taken).symm
      rcases state.snapshots.remove_cases peerId outcome with refused | ⟨bounded, kept | gone⟩
      · rw [refused] at moved
        refine @removal _ _ _ _ _ state next history peerId false ?_ ?_ ?_ ?_ ?_ ?_
        · rw [moved]
        · rw [moved]
        · rw [moved]
        · rw [moved]
          rfl
        · rw [moved]
          exact Or.inl ⟨rfl, rfl⟩
        · rw [moved]
          intro other snapshot present
          exact (history.cached other snapshot present).snoc (by simp)
      · rw [kept] at moved
        refine @removal _ _ _ _ _ state next history peerId false ?_ ?_ ?_ ?_ ?_ ?_
        · rw [moved]
        · rw [moved]
        · rw [moved]
        · rw [moved]
          rfl
        · rw [moved]
          exact Or.inr ⟨bounded, rfl⟩
        · rw [moved]
          intro other snapshot present
          exact (history.cached other snapshot present).snoc (by simp)
      · obtain ⟨found, gone⟩ := gone
        rw [gone] at moved
        refine @removal _ _ _ _ _ state next history peerId true ?_ ?_ ?_ ?_ ?_ ?_
        · rw [moved]
        · rw [moved]
        · rw [moved]
        · rw [moved]
          rfl
        · rw [moved]
          exact Or.inr ⟨bounded, rfl⟩
        · rw [moved]
          intro other snapshot present
          rcases of_update present with same | different
          · cases same.2
          · have origin : (if (some found).isSome = true then
                Function.update state.origins peerId none else state.origins) other =
                  state.origins other := by
              exact Function.update_of_ne different.1 _ _
            dsimp only
            rw [origin]
            apply (history.cached other snapshot different.2).snoc
            intro event
            have same : peerId = other := by simpa using event
            exact different.1 same.symm

theorem of_run {cache : PeerId → Option DeviceServiceSnapshot}
    {schedule : List (SnapshotStep PeerId RefreshId ForgetId)}
    (reached : run (SnapshotSystem.step calls) (SnapshotSystem.start cache) schedule =
      some state) : SnapshotHistory calls state := by
  apply run_induction (motive := fun _ state => SnapshotHistory calls state) _ _ reached
  · exact SnapshotHistory.start calls cache
  · intro _ before action after _ history taken
    exact history.step taken

end SnapshotHistory

/-- After a removal of a peer has returned `Ok`, no snapshot is stored that a refresh of the
peer obtained under an epoch read before the removal; and a refresh that read its epoch
after the last removal of its peer is stored when it completes. -/
theorem forgotten_peers_stay_forgotten (calls : SnapshotCalls PeerId RefreshId ForgetId)
    (cache : PeerId → Option DeviceServiceSnapshot)
    (schedule : List (SnapshotStep PeerId RefreshId ForgetId))
    (state : SnapshotSystem PeerId RefreshId ForgetId)
    (reached : run (SnapshotSystem.step calls) (SnapshotSystem.start cache) schedule =
      some state) :
    (∀ peerId snapshot, state.snapshots.cache peerId = some snapshot →
      .removed peerId true ∈ state.log →
        ∃ id, state.origins peerId = some id ∧ calls.peerOf id = peerId ∧
          .began id ∈ state.log ∧ ¬ Before state.log (.began id) (.removed peerId true)) ∧
    ∀ id epoch, state.refreshes id = .querying epoch →
      (∀ succeeded, ¬ Before state.log (.began id) (.removed (calls.peerOf id) succeeded)) →
        ∀ snapshot, ∃ next,
          SnapshotSystem.step calls state (.save id snapshot .written) = some next ∧
            next.snapshots.cache (calls.peerOf id) = some snapshot ∧
            next.origins (calls.peerOf id) = some id := by
  have history := SnapshotHistory.of_run reached
  refine ⟨history.cached, ?_⟩
  intro id epoch querying none snapshot
  have current := (history.querying id epoch querying).2.2.2 none
  have stored := @SnapshotSystem.settle_stored _ _ _ _ state (calls.peerOf id) (some id)
    (.stored id snapshot) [.rejected id] epoch snapshot .written current.symm (by decide)
  refine ⟨_, SnapshotSystem.step_save querying, ?_⟩
  rw [stored]
  exact ⟨Function.update_self _ _ _, Function.update_self _ _ _⟩

/-- Peer 7 is refreshed, forgotten while a second refresh is under way, and refreshed again. -/
def refreshesAroundRemoval : List (SnapshotStep Nat Nat Nat) :=
  [.begin 0, .save 0 ⟨[⟨"web", []⟩]⟩ .written, .begin 1, .remove 7 .removed,
    .save 1 ⟨[⟨"web", []⟩]⟩ .written, .begin 2, .save 2 ⟨[]⟩ .written, .begin 3]

theorem forgotten_peers_stay_forgotten_once :
    ∃ state, run (SnapshotSystem.step ⟨fun _ => 7, fun _ => ⟨7, "web"⟩⟩)
        (SnapshotSystem.start fun _ => none) refreshesAroundRemoval = some state ∧
      (∃ id, state.origins 7 = some id ∧ .began id ∈ state.log ∧
        ¬ Before state.log (.began id) (.removed 7 true)) ∧
      ∃ next, SnapshotSystem.step ⟨fun _ => 7, fun _ => ⟨7, "web"⟩⟩ state
          (.save 3 ⟨[⟨"mail", []⟩]⟩ .written) = some next ∧
        next.snapshots.cache 7 = some ⟨[⟨"mail", []⟩]⟩ := by
  refine ⟨_, rfl, ?_⟩
  have settled := forgotten_peers_stay_forgotten ⟨fun _ => 7, fun _ => ⟨7, "web"⟩⟩
    (fun _ => none) refreshesAroundRemoval _ rfl
  constructor
  · obtain ⟨id, origin, -, began, after⟩ := settled.1 7 ⟨[]⟩ (by decide) (by decide)
    exact ⟨id, origin, began, after⟩
  · obtain ⟨next, saved, stored, -⟩ := settled.2 3 1 rfl (by decide) ⟨[⟨"mail", []⟩]⟩
    exact ⟨next, saved, stored⟩

end Forgotten

end Fungi.Daemon
