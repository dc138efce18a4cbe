import Fungi.Daemon.ServiceAccesses

/-!
# The operations lock

All calls but `detach` take the `operations` lock with their first step, and give it back
with their last.  Two calls never hold it at once, and a call that does not hold it adds no
rule to the table.
-/

namespace Fungi.Daemon.ServiceAccesses

open Fungi.Config Fungi.Lib Fungi.Runtime

/-- A detach takes no lock, the other removals do. -/
def RemovalPurpose.holdsLock : RemovalPurpose → Bool
  | .detach _ _ => false
  | _ => true

/-- Whether a call holds the lock in a phase. -/
def AccessPhase.holdsLock : AccessPhase → Bool
  | .ready => false
  | .listing purpose => purpose.holdsLock
  | .removing purpose _ => purpose.holdsLock
  | .returned _ => false
  | _ => true

/-- What one step does to the lock. -/
inductive LockChange (before after held held' : Bool) : Prop where
  | keeps (same : after = before) (sameHeld : held' = held)
  | takes (free : before = false) (locked : after = true) (held : held = false)
      (held' : held' = true)
  | releases (unlocked : after = false) (held : held = true) (held' : held' = false)

theorem RemovalPurpose.holdsLock_fail (purpose : RemovalPurpose) (error : Error) :
    (purpose.fail error).holdsLock = purpose.holdsLock := by
  cases purpose with
  | _ => rfl

theorem RemovalPurpose.holdsLock_proceed (purpose : RemovalPurpose) :
    purpose.proceed.holdsLock = purpose.holdsLock := by
  cases purpose with
  | _ => rfl

theorem holdsLock_failPuttingBack (removed : Option ForwardingRule) (error : Error) :
    (failPuttingBack removed error).holdsLock = true := by
  cases removed with
  | _ => rfl

namespace AccessStores

variable {self next : AccessStores} {parsers : AddressParsers} {call : AccessCall}
  {answer : AccessAnswer} {phase phase' : AccessPhase}

theorem lockChange (locks : phase.holdsLock = true)
    (locked : self.lock phase = some (next, phase')) :
    LockChange self.operations next.operations false phase'.holdsLock := by
  unfold lock at locked
  split at locked
  · cases locked
  · next free =>
      cases locked
      exact .takes (eq_false_of_ne_true free) rfl rfl locks

theorem attachNext_holdsLock (loop : AttachLoop) :
    (self.attachNext answer loop).2.holdsLock = true := by
  unfold attachNext
  split
  · rfl
  · dsimp only
    split
    · rfl
    · split
      · rfl
      · split
        · rfl
        · rfl

theorem restoreRecord_holdsLock (record : LocalServicePreference)
    (endpoint : DeviceServiceEndpoint) :
    (self.restoreRecord answer record endpoint).2.holdsLock = true := by
  unfold restoreRecord
  split
  · rfl
  · split
    · rfl
    · rfl

/-- A call takes the lock when it is free, keeps it, and gives it back. -/
theorem advance_lock (taken : self.advance parsers call answer phase = some (next, phase')) :
    LockChange self.operations next.operations phase.holdsLock phase'.holdsLock := by
  cases phase with
  | ready =>
      cases call with
      | attach peerId service entry localPort =>
          dsimp only [advance, enter] at taken
          split at taken
          · cases taken
            exact .keeps rfl rfl
          · split at taken
            · cases taken
              exact .keeps rfl rfl
            · exact lockChange rfl taken
      | detach peerId serviceName =>
          cases taken
          exact .keeps rfl rfl
      | forgetService peerId serviceName => exact lockChange rfl taken
      | forgetDevice peerId => exact lockChange rfl taken
      | restore candidate endpoint => exact lockChange rfl taken
  | locked =>
      dsimp only [advance] at taken
      unfold enterLocked at taken
      split at taken
      · split at taken
        · cases taken
          exact .keeps rfl rfl
        · cases taken
          exact .keeps rfl rfl
      · split at taken
        · cases taken
          exact .keeps rfl rfl
        · cases taken
          exact .keeps rfl rfl
      · cases taken
      · cases taken
        exact .keeps rfl rfl
      · split at taken
        · cases taken
          exact .keeps rfl rfl
        · cases taken
          exact .keeps rfl rfl
  | preferencesRead preferences =>
      dsimp only [advance] at taken
      unfold withPreferences at taken
      split at taken
      · dsimp only at taken
        split at taken
        · cases taken
          exact .keeps rfl rfl
        · cases taken
          exact .keeps rfl rfl
      · cases taken
        exact .keeps rfl rfl
      · cases taken
  | attaching loop =>
      obtain ⟨rfl, rfl⟩ := attachNext_taken taken
      exact .keeps rfl (attachNext_holdsLock loop)
  | replacing loop plan ruleId rule =>
      dsimp only [advance] at taken
      split at taken
      · cases taken
        exact .keeps rfl rfl
      · next removed =>
          cases taken
          obtain ⟨-, rfl⟩ := takeOut_eq_ok removed
          exact .keeps rfl rfl
  | starting loop plan removed =>
      dsimp only [advance] at taken
      split at taken
      · cases taken
        exact .keeps rfl (holdsLock_failPuttingBack _ _)
      · cases taken
        exact .keeps rfl rfl
  | saving loop plan removed started =>
      dsimp only [advance] at taken
      split at taken
      · split at taken
        · cases taken
          exact .keeps rfl rfl
        · cases taken
          exact .keeps rfl rfl
      · split at taken
        · cases taken
          exact .keeps rfl rfl
        · cases taken
          exact .keeps rfl (holdsLock_failPuttingBack _ _)
  | rollingBack removed started error =>
      dsimp only [advance] at taken
      split at taken
      · cases taken
        exact .keeps rfl (holdsLock_failPuttingBack _ _)
      · next erased =>
          cases taken
          obtain ⟨-, rfl⟩ := takeOut_eq_ok erased
          exact .keeps rfl (holdsLock_failPuttingBack _ _)
  | rereading loop plan =>
      cases taken
      exact .keeps rfl rfl
  | clearing access =>
      cases taken
      exact .keeps rfl rfl
  | restoring =>
      dsimp only [advance] at taken
      split at taken
      · split at taken
        · cases taken
          exact .keeps rfl rfl
        · split at taken
          · cases taken
            exact .keeps rfl rfl
          · cases taken
            exact .keeps rfl rfl
      · cases taken
  | recordRead record =>
      dsimp only [advance] at taken
      split at taken
      · obtain ⟨rfl, rfl⟩ := restoreRecord_taken taken
        exact .keeps rfl (restoreRecord_holdsLock _ _)
      · cases taken
  | restoreReplacing record ruleId rule =>
      dsimp only [advance] at taken
      split at taken
      · cases taken
        exact .keeps rfl rfl
      · next removed =>
          cases taken
          obtain ⟨-, rfl⟩ := takeOut_eq_ok removed
          exact .keeps rfl rfl
  | restoreStarting record removed =>
      dsimp only [advance] at taken
      split at taken
      · split at taken
        · cases taken
          exact .keeps rfl (holdsLock_failPuttingBack _ _)
        · cases taken
          exact .keeps rfl rfl
      · cases taken
  | retracting ruleId result =>
      dsimp only [advance] at taken
      split at taken
      · cases taken
        exact .keeps rfl rfl
      · next removed =>
          cases taken
          obtain ⟨-, rfl⟩ := takeOut_eq_ok removed
          exact .keeps rfl rfl
  | listing purpose =>
      cases taken
      exact .keeps rfl rfl
  | removing purpose ruleIds =>
      cases ruleIds with
      | nil =>
          cases taken
          exact .keeps rfl purpose.holdsLock_proceed
      | cons ruleId rest =>
          dsimp only [advance] at taken
          split at taken
          · cases taken
            exact .keeps rfl (purpose.holdsLock_fail _)
          · next removed =>
              cases taken
              obtain ⟨-, rfl⟩ := takeOut_eq_ok removed
              exact .keeps rfl rfl
  | forgetSaving updated =>
      cases taken
      exact .keeps rfl rfl
  | unlocking result =>
      cases taken
      exact .releases rfl rfl rfl
  | returned result => cases taken
  | _ =>
      -- the other phases only choose between two that hold the lock
      dsimp only [advance] at taken
      split at taken
      · cases taken
        exact .keeps rfl rfl
      · cases taken
        exact .keeps rfl rfl

/-- Without the lock, a call adds no rule. -/
theorem advance_unlocked (unlocked : phase.holdsLock = false)
    (taken : self.advance parsers call answer phase = some (next, phase')) :
    next.rules = self.rules ∨
      ∃ ruleId, phase.takes = some ruleId ∧ next.rules = self.rules.erase ruleId := by
  cases phase with
  | ready => exact Or.inl (enter_rules taken)
  | listing purpose =>
      cases taken
      exact Or.inl rfl
  | removing purpose ruleIds =>
      cases ruleIds with
      | nil =>
          cases taken
          exact Or.inl rfl
      | cons ruleId rest =>
          dsimp only [advance] at taken
          split at taken
          · cases taken
            exact Or.inl rfl
          · next removed =>
              cases taken
              obtain ⟨-, rfl⟩ := takeOut_eq_ok removed
              exact Or.inr ⟨ruleId, rfl, rfl⟩
  | returned result => cases taken
  | _ => cases unlocked

end AccessStores

/-- At most one call holds the lock. -/
def OneOperation {CallId : Type} (state : AccessSystem CallId) : Prop :=
  ∀ id, (state.phases id).holdsLock = true →
    state.stores.operations = true ∧ ∀ other, (state.phases other).holdsLock = true → other = id

namespace OneOperation

variable {CallId : Type} {parsers : AddressParsers} {calls : CallId → AccessCall}
  {state next : AccessSystem CallId}

theorem start (stores : AccessStores) :
    OneOperation (AccessSystem.start stores : AccessSystem CallId) := by
  intro id holds
  cases holds

theorem advance (one : OneOperation state) {id : CallId}
    (others : ∀ other, other ≠ id → next.phases other = state.phases other)
    (change : LockChange state.stores.operations next.stores.operations
      (state.phases id).holdsLock (next.phases id).holdsLock) : OneOperation next := by
  intro holder holds
  by_cases own : holder = id
  · subst own
    cases change with
    | keeps same sameHeld =>
        rw [sameHeld] at holds
        obtain ⟨locked, only⟩ := one holder holds
        refine ⟨same ▸ locked, ?_⟩
        intro other alsoHolds
        by_contra different
        rw [others other different] at alsoHolds
        exact different (only other alsoHolds)
    | takes free locked held held' =>
        refine ⟨locked, ?_⟩
        intro other alsoHolds
        by_contra different
        rw [others other different] at alsoHolds
        rw [(one other alsoHolds).1] at free
        cases free
    | releases unlocked held held' =>
        rw [held'] at holds
        cases holds
  · rw [others holder own] at holds
    obtain ⟨locked, only⟩ := one holder holds
    have idle : (state.phases id).holdsLock = false := by
      by_contra alsoHolds
      exact own (only id (eq_true_of_ne_false alsoHolds)).symm
    cases change with
    | keeps same sameHeld =>
        refine ⟨same ▸ locked, ?_⟩
        intro other alsoHolds
        by_cases ownOther : other = id
        · rw [ownOther, sameHeld, idle] at alsoHolds
          cases alsoHolds
        · rw [others other ownOther] at alsoHolds
          exact only other alsoHolds
    | takes free _ _ _ =>
        rw [locked] at free
        cases free
    | releases _ held _ =>
        rw [idle] at held
        cases held

theorem step [DecidableEq CallId] (one : OneOperation state) {action : AccessStep CallId}
    (taken : state.step parsers calls action = some next) : OneOperation next := by
  cases action with
  | advance id answer =>
      obtain ⟨advanced, others⟩ := AccessSystem.step_advance taken
      exact one.advance others (AccessStores.advance_lock advanced)
  | bind ruleId succeeds =>
      cases taken
      exact one

end OneOperation

end Fungi.Daemon.ServiceAccesses
