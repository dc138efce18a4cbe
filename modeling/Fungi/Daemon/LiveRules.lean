import Fungi.Daemon.Attaching
import Fungi.Daemon.Operations
import Mathlib.Data.Fintype.Basic

/-!
# Live rules

A rule enters the table before its task binds the local address, and stays there when the
bind fails.  Any calls run side by side, and binds happen at any time: what is it that keeps
the rules of the table alive, and with them the endpoints that an attach reports?
-/

namespace Fungi.Daemon.ServiceAccesses

open Fungi.Config Fungi.Lib Fungi.Runtime

variable {CallId : Type}

/-- The peer and the service that a call attaches to or restores. -/
def AccessCall.remote : AccessCall → Option (String × String)
  | .attach peerId service _ _ => some (peerId, service.name)
  | .restore candidate _ => some (candidate.remotePeerId, candidate.remoteServiceName)
  | _ => none

/-- A restore that reports success has found the rule of its record active, or leaves the rule
that it has added; or it has been skipped, since the service is detached or the record gone. -/
def AccessPhase.restores : AccessPhase → AccessPhase → Bool
  | .recordRead _, .unlocking (.ok none) => true
  | .rechecking _ _ _, .unlocking (.ok none) => true
  | _, _ => false

/-- A call that takes no step restores nothing. -/
theorem AccessPhase.restores_self (phase : AccessPhase) : phase.restores phase = false := by
  cases phase with
  | _ => rfl

/-- The calls of a run, and which of them have restored a rule. -/
structure WatchedAccesses (CallId : Type) where
  accesses : AccessSystem CallId
  restored : CallId → Bool

namespace WatchedAccesses

/-- No call has been made, and no restore has been noted. -/
def start (stores : AccessStores) : WatchedAccesses CallId :=
  { accesses := AccessSystem.start stores, restored := fun _ => false }

/-- A step of the calls.  A restore that is skipped, or that takes its rule back because the
service has been detached meanwhile, is not noted. -/
def step [DecidableEq CallId] (parsers : AddressParsers) (calls : CallId → AccessCall)
    (self : WatchedAccesses CallId) (action : AccessStep CallId) :
    Option (WatchedAccesses CallId) := do
  let next ← self.accesses.step parsers calls action
  some { accesses := next
         restored := fun id =>
          self.restored id || (self.accesses.phases id).restores (next.phases id) }

theorem step_eq_some [DecidableEq CallId] {parsers : AddressParsers}
    {calls : CallId → AccessCall} {self next : WatchedAccesses CallId}
    {action : AccessStep CallId} (taken : self.step parsers calls action = some next) :
    self.accesses.step parsers calls action = some next.accesses ∧
      ∀ id, next.restored id =
        (self.restored id || (self.accesses.phases id).restores (next.accesses.phases id)) := by
  obtain ⟨accesses, stepped, moved⟩ := Option.bind_eq_some_iff.mp taken
  cases moved
  exact ⟨stepped, fun _ => rfl⟩

end WatchedAccesses

/-- The entry for which a restore counts on a rule in the table: it has added one that it is
going to leave there, or it is about to report it. -/
def AccessPhase.restoredEntry (stores : AccessStores) (candidate : LocalServicePreference)
    (restored : Bool) : AccessPhase → List String
  | .rechecking rule _ (.ok _) =>
      if stores.isDetachedRule rule then [] else [candidate.remoteServicePortName]
  | .unlocking _ => if restored then [candidate.remoteServicePortName] else []
  | _ => []

/-- The entries for which the call counts on a rule in the table. -/
def WatchedAccesses.countsOn (self : WatchedAccesses CallId) (calls : CallId → AccessCall)
    (id : CallId) : List String :=
  match calls id with
  | .attach _ _ _ _ => (self.accesses.phases id).attached
  | .restore candidate _ =>
      (self.accesses.phases id).restoredEntry self.accesses.stores candidate (self.restored id)
  | _ => []

/-- The task of every rule in the table is starting or running. -/
def Live (rules : ForwardingRules) : Prop :=
  ∀ (ruleId : String) (rule : ForwardingRuleState), rules[ruleId]? = some rule →
    rule.task ≠ .ended

/-- A rule of the entry is in the table, and its task is starting or running. -/
def HasLiveRule (rules : ForwardingRules) (identity : String × String × String) : Prop :=
  ∃ (ruleId : String) (rule : ForwardingRuleState), rules[ruleId]? = some rule ∧
    rule.rule.IsFor identity ∧ rule.task ≠ .ended

/-- No dead rule counts as active: there is none in the table, an attach that reports success
has a live rule for each of its endpoints, and so has a restore for its record, unless it has
been skipped. -/
structure NoDeadRule (calls : CallId → AccessCall) (state : WatchedAccesses CallId) : Prop where
  live : Live state.accesses.stores.rules
  attached : ∀ id peerId service entry localPort access,
    calls id = .attach peerId service entry localPort →
    state.accesses.phases id = .unlocking (.ok access) →
    ∀ endpoint ∈ selectedEndpoints service entry,
      HasLiveRule state.accesses.stores.rules (peerId, service.name, endpoint.name)
  restored : ∀ id candidate endpoint, calls id = .restore candidate endpoint →
    state.accesses.phases id = .unlocking (.ok none) → state.restored id = true →
    HasLiveRule state.accesses.stores.rules candidate.identity

/-- No bind fails for a rule in the table.  Beside that, an attach takes no rule for one of
its endpoints that is gone, and a detach takes out no rule that an attach or a restore in
progress counts on. -/
def KeepsLive (calls : CallId → AccessCall) (state : WatchedAccesses CallId) :
    AccessStep CallId → Prop
  | .advance id answer =>
      (∀ ruleId ∈ (state.accesses.phases id).reuses answer,
        ruleId ∈ state.accesses.stores.rules) ∧
      ((state.accesses.phases id).holdsLock = false →
        ∀ ruleId ∈ (state.accesses.phases id).takes,
          ∀ rule ∈ state.accesses.stores.rules[ruleId]?,
            ∀ other, (state.accesses.phases other).holdsLock = true →
              ∀ remote ∈ (calls other).remote, ∀ name ∈ state.countsOn calls other,
                ¬ rule.rule.IsFor (remote.1, remote.2, name))
  | .bind ruleId succeeds => ∀ rule ∈ state.accesses.stores.rules[ruleId]?,
      rule.task = .starting → succeeds = true

instance decidableKeepsLive [Fintype CallId] (calls : CallId → AccessCall)
    (state : WatchedAccesses CallId) :
    (action : AccessStep CallId) → Decidable (KeepsLive calls state action)
  | .advance id answer =>
      inferInstanceAs (Decidable (
        (∀ ruleId ∈ (state.accesses.phases id).reuses answer,
          ruleId ∈ state.accesses.stores.rules) ∧
        ((state.accesses.phases id).holdsLock = false →
          ∀ ruleId ∈ (state.accesses.phases id).takes,
            ∀ rule ∈ state.accesses.stores.rules[ruleId]?,
              ∀ other, (state.accesses.phases other).holdsLock = true →
                ∀ remote ∈ (calls other).remote, ∀ name ∈ state.countsOn calls other,
                  ¬ rule.rule.IsFor (remote.1, remote.2, name))))
  | .bind ruleId succeeds =>
      inferInstanceAs (Decidable (∀ rule ∈ state.accesses.stores.rules[ruleId]?,
        rule.task = .starting → succeeds = true))

/-- A bind in a table of live rules leaves them live exactly if it does not fail. -/
theorem live_bind_iff {rules : ForwardingRules} {ruleId : String} {succeeds : Bool}
    (live : Live rules) :
    Live (rules.bind ruleId succeeds) ↔
      ∀ rule ∈ rules[ruleId]?, rule.task = .starting → succeeds = true := by
  constructor
  · intro after rule present starting
    by_contra failed
    have ended : (rules.bind ruleId succeeds)[ruleId]? =
        some { rule with task := if succeeds then .running else .ended } := by
      unfold ForwardingRules.bind
      rw [show rules[ruleId]? = some rule from present]
      dsimp only
      rw [if_pos starting, Std.ExtTreeMap.getElem?_insert_self]
    apply after _ _ ended
    exact if_neg failed
  · intro succeeded found rule present
    obtain ⟨before, existing, -, unchanged | ⟨same, starting, bound⟩⟩ :=
      ForwardingRules.getElem?_bind present
    · rw [← unchanged]
      exact live found before existing
    · rw [bound, succeeded before (same ▸ existing) starting]
      exact nofun

/-- A step leaves the table live: what it adds is starting. -/
theorem Live.change {rules next : ForwardingRules} {phase : AccessPhase} (live : Live rules)
    (change : TableChange phase rules next) : Live next := by
  intro found rule present
  cases change with
  | none same => exact live found rule (same ▸ present)
  | added ruleId added absent same =>
      rw [same, getElem?_insert] at present
      split at present
      · cases present
        exact nofun
      · exact live found rule present
  | taken ruleId takes inTable same =>
      rw [same] at present
      exact live found rule (ForwardingRules.getElem?_of_erase present).2

section Phases

variable {peerId : String} {service : DeviceService} {entry : Option String}
  {rules : ForwardingRules} {phase phase' : AccessPhase} {stores next : AccessStores}
  {parsers : AddressParsers} {call : AccessCall} {answer : AccessAnswer}

/-- Before it has the lock and after it has given it back, an attach is not concerned with
the table. -/
theorem AttachProgress.unlocked (progress : AttachProgress peerId service entry rules phase)
    (unlocked : phase.holdsLock = false) (other : ForwardingRules) :
    AttachProgress peerId service entry other phase := by
  cases phase with
  | ready => trivial
  | returned result => exact progress
  | listing purpose => cases progress
  | removing purpose ruleIds => cases progress
  | _ => cases unlocked

theorem attached_unlocked (unlocked : phase.holdsLock = false)
    (taken : stores.advance parsers call answer phase = some (next, phase')) :
    phase.attached = [] := by
  cases phase with
  | ready => rfl
  | returned result => cases taken
  | listing purpose => rfl
  | removing purpose ruleIds => rfl
  | _ => cases unlocked

theorem restoredEntry_unlocked {candidate : LocalServicePreference} {restored : Bool}
    (unlocked : phase.holdsLock = false) :
    phase.restoredEntry stores candidate restored = [] := by
  cases phase with
  | ready => rfl
  | listing purpose => rfl
  | removing purpose ruleIds => rfl
  | returned result => rfl
  | _ => cases unlocked

theorem AccessStores.lock_isDetached (locked : stores.lock phase = some (next, phase'))
    (peerId serviceName : String) :
    next.isDetached peerId serviceName = stores.isDetached peerId serviceName := by
  unfold lock at locked
  split at locked
  · cases locked
  · cases locked
    rfl

theorem AccessStores.isDetached_setDetached {peerId serviceName : String}
    (detached : stores.isDetached peerId serviceName = true) (otherPeer otherService : String) :
    (stores.setDetached otherPeer otherService true).isDetached peerId serviceName = true := by
  unfold isDetached setDetached
  dsimp only
  by_cases same : (peerId, serviceName) = (otherPeer, otherService)
  · rw [same, Function.update_self]
  · rw [Function.update_of_ne same]
    exact detached

/-- Only a call that holds the lock attaches a service again. -/
theorem AccessStores.advance_isDetached (unlocked : phase.holdsLock = false)
    (taken : stores.advance parsers call answer phase = some (next, phase'))
    {peerId serviceName : String} (detached : stores.isDetached peerId serviceName = true) :
    next.isDetached peerId serviceName = true := by
  cases phase with
  | ready =>
      cases call with
      | attach peerId service entry localPort =>
          dsimp only [advance, enter] at taken
          split at taken
          · cases taken
            exact detached
          · split at taken
            · cases taken
              exact detached
            · rw [lock_isDetached taken]
              exact detached
      | detach otherPeer otherService =>
          cases taken
          exact isDetached_setDetached detached _ _
      | forgetService peerId serviceName =>
          rw [lock_isDetached taken]
          exact detached
      | forgetDevice peerId =>
          rw [lock_isDetached taken]
          exact detached
      | restore candidate endpoint =>
          rw [lock_isDetached taken]
          exact detached
  | listing purpose =>
      cases taken
      exact detached
  | removing purpose ruleIds =>
      cases ruleIds with
      | nil =>
          cases taken
          exact detached
      | cons ruleId rest =>
          dsimp only [advance] at taken
          split at taken
          · cases taken
            exact detached
          · next removed =>
              cases taken
              obtain ⟨-, rfl⟩ := takeOut_eq_ok removed
              exact detached
  | returned result => cases taken
  | _ => cases unlocked

/-- What another call does without the lock adds no entry to those that a restore counts on. -/
theorem restoredEntry_advance {other : AccessPhase} {candidate : LocalServicePreference}
    {restored : Bool} (unlocked : phase.holdsLock = false)
    (taken : stores.advance parsers call answer phase = some (next, phase')) :
    ∀ name ∈ other.restoredEntry next candidate restored,
      name ∈ other.restoredEntry stores candidate restored := by
  intro name member
  cases other with
  | rechecking rule ruleId result =>
      cases result with
      | error error => exact member
      | ok access =>
          dsimp only [AccessPhase.restoredEntry] at member ⊢
          split at member
          · cases member
          · next attached =>
              rw [if_neg]
              · exact member
              · intro detached
                apply attached
                obtain ⟨serviceName, named, flagged⟩ :=
                  (Option.any_eq_true _ _).mp detached
                apply (Option.any_eq_true _ _).mpr
                exact ⟨serviceName, named,
                  AccessStores.advance_isDetached unlocked taken flagged⟩
  | _ => exact member

end Phases

/-! ## Restores -/

/-- What a restore has made sure of at each of its phases. -/
def RestoreProgress (candidate : LocalServicePreference) (restored : Bool) : AccessPhase → Prop
  | .ready | .locked | .restoring => restored = false
  | .recordRead record | .restoreReplacing record _ _ | .restoreStarting record _ =>
      restored = false ∧ record.identity = candidate.identity
  | .rechecking rule _ result =>
      restored = false ∧ ∀ access, result = .ok access → rule.IsFor candidate.identity
  | .retracting _ _ | .reattaching _ _ | .readding _ _ => restored = false
  | .unlocking _ | .returned _ => True
  | _ => False

section Restore

variable {stores next : AccessStores} {parsers : AddressParsers} {answer : AccessAnswer}
  {phase phase' : AccessPhase} {candidate : LocalServicePreference}
  {endpoint : DeviceServiceEndpoint} {restored : Bool}

theorem restoreProgress_failPuttingBack (removed : Option ForwardingRule) (error : Error) :
    RestoreProgress candidate false (failPuttingBack removed error) := by
  cases removed with
  | none => trivial
  | some rule => rfl

/-- A restore goes on making sure. -/
theorem RestoreProgress.advance (progress : RestoreProgress candidate restored phase)
    (taken : stores.advance parsers (.restore candidate endpoint) answer phase =
      some (next, phase')) :
    RestoreProgress candidate (restored || phase.restores phase') phase' := by
  cases phase with
  | ready =>
      dsimp only [AccessStores.advance, AccessStores.enter, AccessStores.lock] at taken
      split at taken
      · cases taken
      · cases taken
        cases progress
        rfl
  | locked =>
      dsimp only [AccessStores.advance, AccessStores.enterLocked] at taken
      split at taken
      · cases taken
        trivial
      · cases taken
        cases progress
        rfl
  | restoring =>
      dsimp only [AccessStores.advance] at taken
      split at taken
      · cases taken
        trivial
      · split at taken
        · cases taken
          trivial
        · next record found =>
            cases taken
            cases progress
            exact ⟨rfl, by simpa using List.find?_some found⟩
  | recordRead record =>
      obtain ⟨rfl, rfl⟩ := AccessStores.restoreRecord_taken taken
      obtain ⟨rfl, same⟩ := progress
      unfold AccessStores.restoreRecord
      split
      · exact ⟨rfl, same⟩
      · split
        · trivial
        · exact ⟨rfl, same⟩
  | restoreReplacing record ruleId rule =>
      obtain ⟨rfl, same⟩ := progress
      dsimp only [AccessStores.advance] at taken
      split at taken
      · cases taken
        trivial
      · cases taken
        exact ⟨rfl, same⟩
  | restoreStarting record removed =>
      obtain ⟨rfl, same⟩ := progress
      dsimp only [AccessStores.advance] at taken
      split at taken
      · cases taken
        exact restoreProgress_failPuttingBack removed _
      · cases taken
        exact ⟨rfl, fun _ _ => (recordRule_isFor _ _ _).mpr same⟩
  | rechecking rule ruleId result =>
      obtain ⟨rfl, -⟩ := progress
      dsimp only [AccessStores.advance] at taken
      split at taken
      · cases taken
        rfl
      · cases taken
        trivial
  | retracting ruleId result =>
      dsimp only [AccessStores.advance] at taken
      split at taken
      · cases taken
        trivial
      · cases taken
        trivial
  | reattaching rule error =>
      cases progress
      dsimp only [AccessStores.advance] at taken
      split at taken
      · cases taken
        trivial
      · cases taken
        rfl
  | readding rule error =>
      cases progress
      dsimp only [AccessStores.advance] at taken
      split at taken
      · cases taken
        trivial
      · cases taken
        exact ⟨rfl, nofun⟩
  | unlocking result =>
      cases taken
      trivial
  | returned result => cases taken
  | _ => cases progress

theorem restoredEntry_failPuttingBack (removed : Option ForwardingRule) (error : Error) :
    (failPuttingBack removed error).restoredEntry stores candidate false = [] := by
  cases removed with
  | _ => rfl

theorem covered_entry {rules : ForwardingRules} {ruleId : String} {state : ForwardingRuleState}
    (present : rules[ruleId]? = some state) (isFor : state.rule.IsFor candidate.identity) :
    Covered candidate.remotePeerId candidate.remoteServiceName rules
      [candidate.remoteServicePortName] := by
  intro name member
  rw [List.mem_singleton.mp member]
  exact ⟨ruleId, state, present, isFor⟩

/-- A restore that is about to report, or to leave its rule in the table, has one there. -/
theorem Covered.restore
    (covered : Covered candidate.remotePeerId candidate.remoteServiceName stores.rules
      (phase.restoredEntry stores candidate restored))
    (progress : RestoreProgress candidate restored phase)
    (taken : stores.advance parsers (.restore candidate endpoint) answer phase =
      some (next, phase')) :
    Covered candidate.remotePeerId candidate.remoteServiceName next.rules
      (phase'.restoredEntry next candidate (restored || phase.restores phase')) := by
  cases phase with
  | ready =>
      dsimp only [AccessStores.advance, AccessStores.enter, AccessStores.lock] at taken
      split at taken
      · cases taken
      · cases taken
        exact covered_nil _
  | locked =>
      cases progress
      dsimp only [AccessStores.advance, AccessStores.enterLocked] at taken
      split at taken
      · cases taken
        exact covered_nil _
      · cases taken
        exact covered_nil _
  | restoring =>
      cases progress
      dsimp only [AccessStores.advance] at taken
      split at taken
      · cases taken
        exact covered_nil _
      · split at taken
        · cases taken
          exact covered_nil _
        · cases taken
          exact covered_nil _
  | recordRead record =>
      obtain ⟨rfl, rfl⟩ := AccessStores.restoreRecord_taken taken
      obtain ⟨rfl, same⟩ := progress
      unfold AccessStores.restoreRecord
      split
      · exact covered_nil _
      · next ruleId rule found =>
          obtain ⟨listed, isFor⟩ := findActiveRule_eq_some found
          obtain ⟨task, present⟩ := ForwardingRules.mem_getForwardingRules.mp listed
          split
          · exact covered_entry present (same ▸ isFor)
          · exact covered_nil _
  | restoreReplacing record ruleId rule =>
      obtain ⟨rfl, -⟩ := progress
      dsimp only [AccessStores.advance] at taken
      split at taken
      · cases taken
        exact covered_nil _
      · cases taken
        exact covered_nil _
  | restoreStarting record removed =>
      obtain ⟨rfl, same⟩ := progress
      dsimp only [AccessStores.advance] at taken
      split at taken
      · cases taken
        rw [show (false || _) = false from by cases removed <;> rfl,
          restoredEntry_failPuttingBack]
        exact covered_nil _
      · next ruleId rules started =>
          cases taken
          obtain ⟨absent, rfl⟩ := startForwardingRule_eq_ok started
          refine (covered_entry (Std.ExtTreeMap.getElem?_insert_self)
            ((recordRule_isFor _ _ _).mpr same)).subset ?_
          intro name member
          dsimp only [AccessPhase.restoredEntry] at member
          split at member
          · cases member
          · exact member
  | rechecking rule ruleId result =>
      obtain ⟨rfl, isFor⟩ := progress
      dsimp only [AccessStores.advance] at taken
      split at taken
      · cases taken
        exact covered_nil _
      · next attached =>
          cases taken
          cases result with
          | error error => exact covered_nil _
          | ok access =>
              cases access with
              | none =>
                  dsimp only [AccessPhase.restoredEntry] at covered
                  rw [if_neg attached] at covered
                  exact covered
              | some access => exact covered_nil _
  | retracting ruleId result =>
      cases progress
      dsimp only [AccessStores.advance] at taken
      split at taken
      · cases taken
        exact covered_nil _
      · cases taken
        exact covered_nil _
  | reattaching rule error =>
      cases progress
      dsimp only [AccessStores.advance] at taken
      split at taken
      · cases taken
        exact covered_nil _
      · cases taken
        exact covered_nil _
  | readding rule error =>
      cases progress
      dsimp only [AccessStores.advance] at taken
      split at taken
      · cases taken
        exact covered_nil _
      · cases taken
        exact covered_nil _
  | unlocking result =>
      cases taken
      exact covered_nil _
  | returned result => cases taken
  | _ => cases progress

end Restore

/-! ## Runs -/

/-- What the runs that meet the condition keep. -/
structure LiveAccesses (calls : CallId → AccessCall) (state : WatchedAccesses CallId) :
    Prop where
  one : OneOperation state.accesses
  live : Live state.accesses.stores.rules
  attaching : ∀ id peerId service entry localPort,
    calls id = .attach peerId service entry localPort →
    AttachProgress peerId service entry state.accesses.stores.rules (state.accesses.phases id)
  restoring : ∀ id candidate endpoint, calls id = .restore candidate endpoint →
    RestoreProgress candidate (state.restored id) (state.accesses.phases id)
  covered : ∀ id remote, (calls id).remote = some remote →
    (state.accesses.phases id).holdsLock = true →
    Covered remote.1 remote.2 state.accesses.stores.rules (state.countsOn calls id)

namespace LiveAccesses

variable {calls : CallId → AccessCall} {parsers : AddressParsers}
  {state next : WatchedAccesses CallId}

theorem countsOn_unlocked {id : CallId}
    (unlocked : (state.accesses.phases id).holdsLock = false) {answer : AccessAnswer}
    (taken : state.accesses.stores.advance parsers (calls id) answer
      (state.accesses.phases id) = some (next.accesses.stores, next.accesses.phases id)) :
    state.countsOn calls id = [] := by
  unfold WatchedAccesses.countsOn
  split
  · exact attached_unlocked unlocked taken
  · exact restoredEntry_unlocked unlocked
  · rfl

/-- The call that takes the step goes on with its entries covered. -/
theorem covered_own (accesses : LiveAccesses calls state) {id : CallId} {answer : AccessAnswer}
    (present : ∀ ruleId ∈ (state.accesses.phases id).reuses answer,
      ruleId ∈ state.accesses.stores.rules)
    (taken : state.accesses.stores.advance parsers (calls id) answer
      (state.accesses.phases id) = some (next.accesses.stores, next.accesses.phases id))
    (noted : next.restored id = (state.restored id ||
      (state.accesses.phases id).restores (next.accesses.phases id)))
    {remote : String × String} (remotely : (calls id).remote = some remote) :
    Covered remote.1 remote.2 next.accesses.stores.rules (next.countsOn calls id) := by
  have covered : Covered remote.1 remote.2 state.accesses.stores.rules
      (state.countsOn calls id) := by
    cases held : (state.accesses.phases id).holdsLock with
    | true => exact accesses.covered id remote remotely held
    | false =>
        rw [countsOn_unlocked held taken]
        exact covered_nil _
  cases isCall : calls id with
  | attach peerId service entry localPort =>
      rw [isCall] at remotely taken
      cases remotely
      unfold WatchedAccesses.countsOn at covered ⊢
      rw [isCall] at covered ⊢
      exact covered.advance (accesses.attaching id _ _ _ _ isCall) present taken
  | restore candidate endpoint =>
      rw [isCall] at remotely taken
      cases remotely
      unfold WatchedAccesses.countsOn at covered ⊢
      rw [isCall] at covered ⊢
      dsimp only at covered ⊢
      rw [noted]
      exact covered.restore (accesses.restoring id _ _ isCall) taken
  | _ =>
      rw [isCall] at remotely
      cases remotely

/-- What another call counts on stays in the table when the step is taken without the lock. -/
theorem covered_other (accesses : LiveAccesses calls state) {id other : CallId}
    {answer : AccessAnswer} (keeps : KeepsLive calls state (.advance id answer))
    (unlocked : (state.accesses.phases id).holdsLock = false)
    (taken : state.accesses.stores.advance parsers (calls id) answer
      (state.accesses.phases id) = some (next.accesses.stores, next.accesses.phases id))
    (same : next.accesses.phases other = state.accesses.phases other)
    (sameNote : next.restored other = state.restored other)
    (holds : (state.accesses.phases other).holdsLock = true)
    {remote : String × String} (remotely : (calls other).remote = some remote) :
    Covered remote.1 remote.2 next.accesses.stores.rules (next.countsOn calls other) := by
  have fewer : ∀ name ∈ next.countsOn calls other, name ∈ state.countsOn calls other := by
    unfold WatchedAccesses.countsOn
    rw [same, sameNote]
    split
    · exact fun name member => member
    · exact restoredEntry_advance unlocked taken
    · exact fun name member => member
  apply Covered.subset _ fewer
  have covered := accesses.covered other remote remotely holds
  rcases AccessStores.advance_unlocked unlocked taken with unchanged | ⟨ruleId, takes, erased⟩
  · rw [unchanged]
    exact covered
  · rw [erased]
    apply covered.erase
    intro rule present name member
    exact keeps.2 unlocked ruleId takes rule present other holds remote remotely name member

theorem advance [DecidableEq CallId] (accesses : LiveAccesses calls state) {id : CallId}
    {answer : AccessAnswer} (keeps : KeepsLive calls state (.advance id answer))
    (taken : state.step parsers calls (.advance id answer) = some next) :
    LiveAccesses calls next := by
  obtain ⟨stepped, noted⟩ := WatchedAccesses.step_eq_some taken
  obtain ⟨advanced, others⟩ := AccessSystem.step_advance stepped
  -- an attach or a restore whose step this is not loses at most a rule that it does not count on
  have unheld (other : CallId) (different : other ≠ id)
      (holds : (state.accesses.phases other).holdsLock = true) :
      (state.accesses.phases id).holdsLock = false := by
    by_contra alsoHolds
    exact different ((accesses.one other holds).2 id (eq_true_of_ne_false alsoHolds)).symm
  have sameNote (other : CallId) (different : other ≠ id) :
      next.restored other = state.restored other := by
    rw [noted, others other different, AccessPhase.restores_self, Bool.or_false]
  refine ⟨accesses.one.step stepped, accesses.live.change (AccessStores.advance_rules advanced),
    ?_, ?_, ?_⟩
  · intro attacher peerId service entry localPort isAttach
    have progress := accesses.attaching attacher peerId service entry localPort isAttach
    by_cases own : attacher = id
    · subst own
      rw [isAttach] at advanced
      exact progress.advance advanced
    · rw [others attacher own]
      cases holds : (state.accesses.phases attacher).holdsLock with
      | false => exact progress.unlocked holds _
      | true =>
          rcases AccessStores.advance_unlocked (unheld attacher own holds) advanced with
            same | ⟨ruleId, -, erased⟩
          · rw [same]
            exact progress
          · rw [erased]
            exact progress.within (ForwardingRules.erase_within _ ruleId)
  · intro restorer candidate endpoint isRestore
    have progress := accesses.restoring restorer candidate endpoint isRestore
    by_cases own : restorer = id
    · subst own
      rw [isRestore] at advanced
      rw [noted]
      exact progress.advance advanced
    · rw [others restorer own, sameNote restorer own]
      exact progress
  · intro other remote remotely holds
    by_cases own : other = id
    · subst own
      exact accesses.covered_own keeps.1 advanced (noted other) remotely
    · rw [others other own] at holds
      exact accesses.covered_other keeps (unheld other own holds) advanced (others other own)
        (sameNote other own) holds remotely

theorem bind [DecidableEq CallId] (accesses : LiveAccesses calls state) {ruleId : String}
    {succeeds : Bool} (keeps : KeepsLive calls state (.bind ruleId succeeds))
    (taken : state.step parsers calls (.bind ruleId succeeds) = some next) :
    LiveAccesses calls next := by
  obtain ⟨stepped, noted⟩ := WatchedAccesses.step_eq_some taken
  have bound := Option.some.inj stepped
  have sameNote : next.restored = state.restored := by
    funext id
    rw [noted, ← bound, AccessPhase.restores_self, Bool.or_false]
  obtain ⟨accessed, restored⟩ := next
  cases bound
  cases sameNote
  refine ⟨accesses.one, (live_bind_iff accesses.live).mpr keeps, ?_, accesses.restoring, ?_⟩
  · intro id peerId service entry localPort isAttach
    exact (accesses.attaching id peerId service entry localPort isAttach).within
      (ForwardingRules.bind_within _ ruleId succeeds)
  · intro id remote remotely holds
    exact (accesses.covered id remote remotely holds).within
      (ForwardingRules.within_bind _ ruleId succeeds)

theorem step [DecidableEq CallId] (accesses : LiveAccesses calls state)
    {action : AccessStep CallId} (keeps : KeepsLive calls state action)
    (taken : state.step parsers calls action = some next) : LiveAccesses calls next := by
  cases action with
  | advance id answer => exact accesses.advance keeps taken
  | bind ruleId succeeds => exact accesses.bind keeps taken

theorem start {stores : AccessStores} (live : Live stores.rules) :
    LiveAccesses calls (WatchedAccesses.start stores) := by
  refine ⟨OneOperation.start stores, live, ?_, ?_, ?_⟩
  · intro id peerId service entry localPort isAttach
    trivial
  · intro id candidate endpoint isRestore
    rfl
  · intro id remote remotely holds
    cases holds

/-- A rule that the call counts on is live. -/
theorem hasLiveRule (accesses : LiveAccesses calls state) (id : CallId)
    (remote : String × String) (name : String) (remotely : (calls id).remote = some remote)
    (holds : (state.accesses.phases id).holdsLock = true)
    (counted : name ∈ state.countsOn calls id) :
    HasLiveRule state.accesses.stores.rules (remote.1, remote.2, name) := by
  obtain ⟨ruleId, rule, present, isFor⟩ := accesses.covered id remote remotely holds name counted
  exact ⟨ruleId, rule, present, isFor, accesses.live ruleId rule present⟩

theorem noDeadRule (accesses : LiveAccesses calls state) : NoDeadRule calls state := by
  refine ⟨accesses.live, ?_, ?_⟩
  · intro id peerId service entry localPort access isAttach reporting endpoint selected
    have progress := accesses.attaching id peerId service entry localPort isAttach
    rw [reporting] at progress
    obtain ⟨attached, rfl, selects⟩ := progress access rfl
    apply accesses.hasLiveRule id (peerId, service.name) endpoint.name
    · rw [isAttach]
      rfl
    · rw [reporting]
      rfl
    · unfold WatchedAccesses.countsOn
      rw [isAttach, reporting]
      exact selects.selected endpoint selected
  · intro id candidate endpoint isRestore reporting restored
    apply accesses.hasLiveRule id (candidate.remotePeerId, candidate.remoteServiceName)
      candidate.remoteServicePortName
    · rw [isRestore]
      rfl
    · rw [reporting]
      rfl
    · unfold WatchedAccesses.countsOn
      rw [isRestore, reporting, restored]
      exact List.mem_singleton_self _

end LiveAccesses

/-- As long as no bind fails for a rule in the table, no dead rule counts as active. -/
theorem noDeadRule_of_run [DecidableEq CallId] (parsers : AddressParsers)
    (calls : CallId → AccessCall) (stores : AccessStores)
    (schedule : List (AccessStep CallId)) (state : WatchedAccesses CallId)
    (live : Live stores.rules)
    (keeps : EveryStep (WatchedAccesses.step parsers calls) (KeepsLive calls)
      (WatchedAccesses.start stores) schedule)
    (reached : run (WatchedAccesses.step parsers calls) (WatchedAccesses.start stores)
      schedule = some state) :
    NoDeadRule calls state :=
  (invariant_of_everyStep (fun _ _ _ before met taken => before.step met taken)
    (LiveAccesses.start live) keeps reached).noDeadRule

/-! ## A port that is taken after the probe -/

/-- An attach of one entry of a service, a restore of the other one, a second attach of the
first, and a detach of another service. -/
inductive WebCall where
  | first
  | restore
  | again
  | other
  deriving DecidableEq

instance : Fintype WebCall where
  elems := {.first, .restore, .again, .other}
  complete call := by
    cases call with
    | _ => decide

/-- Attaches of the entry `http`, a restore of `ssh`, and a detach of another service. -/
def webCalls : WebCall → AccessCall
  | .first | .again => .attach webPeer webService (some "http") none
  | .restore => .restore (webRecord "ssh" 2222) { name := "ssh", protocol := "/web/ssh" }
  | .other => .detach webPeer "files"

/-- The rule of the entry `http`. -/
def httpRule : ForwardingRule :=
  recordRule (webRecord "http" 8080) "/web/http"

/-- The rule of the entry `ssh`. -/
def sshRule : ForwardingRule :=
  recordRule (webRecord "ssh" 2222) "/web/ssh"

/-- The rule of the other service. -/
def filesRule : ForwardingRule :=
  recordRule { webRecord "http" 9090 with remoteServiceName := "files" } "/files/http"

/-- The entries of the one service are saved, and the rule of another one is active. -/
def filesActive : AccessStores :=
  { webSaved with
    rules := (∅ : ForwardingRules).insert (generateForwardingRuleId filesRule)
      { rule := filesRule, task := .running } }

/-- The listener is bound before the attach returns, and the detach leaves the restored rule
alone. -/
private def boundInTime : List (AccessStep WebCall) :=
  List.replicate 6 (.advance .first .calm) ++
    [.bind (generateForwardingRuleId httpRule) true] ++
    List.replicate 4 (.advance .first .calm) ++ List.replicate 4 (.advance .restore .calm) ++
    List.replicate 2 (.advance .other .calm) ++ [.advance .restore .calm] ++
    List.replicate 2 (.advance .other .calm) ++ [.advance .restore .calm]

/-- The listener fails to bind after the attach has returned. -/
private def boundTooLate : List (AccessStep WebCall) :=
  List.replicate 10 (.advance .first .calm) ++
    [.bind (generateForwardingRuleId httpRule) false] ++
    List.replicate 7 (.advance .again .calm)

/-- What a call is about to report as its success: an attach its access, a restore nothing. -/
def AccessPhase.reporting : AccessPhase → Option (Option ServiceAccess)
  | .unlocking (.ok access) => some access
  | _ => none

/-- The access to the entry `http`. -/
def httpAccess : ServiceAccess :=
  { peerId := webPeer
    serviceName := "web"
    endpoints := [
      { name := "http", protocol := "/web/http", localHost := "127.0.0.1", localPort := 8080 }] }

theorem noDeadRule_of_run_boundInTime :
    ∃ state, run (WatchedAccesses.step .loopback webCalls) (WatchedAccesses.start filesActive)
        boundInTime = some state ∧
      (state.accesses.phases .first).hasReturned ∧ (state.accesses.phases .other).hasReturned ∧
      (state.accesses.phases .restore).reporting = some none ∧ state.restored .restore ∧
      state.accesses.stores.rules.toList =
        [(generateForwardingRuleId sshRule, { rule := sshRule, task := .starting }),
          (generateForwardingRuleId httpRule, { rule := httpRule, task := .running })] ∧
      NoDeadRule webCalls state := by
  have evaluated : ((run (WatchedAccesses.step .loopback webCalls)
      (WatchedAccesses.start filesActive) boundInTime).map fun state =>
        decide ((state.accesses.phases .first).hasReturned ∧
          (state.accesses.phases .other).hasReturned ∧
          (state.accesses.phases .restore).reporting = some none ∧ state.restored .restore ∧
          state.accesses.stores.rules.toList =
            [(generateForwardingRuleId sshRule, { rule := sshRule, task := .starting }),
              (generateForwardingRuleId httpRule, { rule := httpRule, task := .running })])) =
      some true := by
    decide +kernel
  obtain ⟨state, reached, facts⟩ := Option.map_eq_some_iff.mp evaluated
  obtain ⟨attached, detached, reporting, restored, rules⟩ := of_decide_eq_true facts
  refine ⟨state, reached, attached, detached, reporting, restored, rules, ?_⟩
  apply noDeadRule_of_run .loopback webCalls filesActive boundInTime state _ (by decide +kernel)
    reached
  intro ruleId rule present
  unfold filesActive at present
  rw [getElem?_insert] at present
  split at present
  · cases present
    decide
  · rw [Std.ExtTreeMap.getElem?_empty] at present
    cases present

/-- Another program takes the port between the probe and the bind.  The rule stays in the
table without a task, and the second attach reports it as active. -/
theorem dead_rule_reported :
    ∃ state, run (WatchedAccesses.step .loopback webCalls) (WatchedAccesses.start webSaved)
        boundTooLate = some state ∧
      (state.accesses.phases .again).reporting = some (some httpAccess) ∧
      state.accesses.stores.rules[generateForwardingRuleId httpRule]? =
        some { rule := httpRule, task := .ended } ∧
      (∀ entry ∈ state.accesses.stores.rules.toList,
        entry.2.rule.IsFor (webPeer, "web", "http") → entry.2.task = .ended) ∧
      ¬ NoDeadRule webCalls state := by
  have evaluated : ((run (WatchedAccesses.step .loopback webCalls)
      (WatchedAccesses.start webSaved) boundTooLate).map fun state =>
        decide ((state.accesses.phases .again).reporting = some (some httpAccess) ∧
          state.accesses.stores.rules[generateForwardingRuleId httpRule]? =
            some { rule := httpRule, task := .ended } ∧
          ∀ entry ∈ state.accesses.stores.rules.toList,
            entry.2.rule.IsFor (webPeer, "web", "http") → entry.2.task = .ended)) =
      some true := by
    decide +kernel
  obtain ⟨state, reached, facts⟩ := Option.map_eq_some_iff.mp evaluated
  obtain ⟨reporting, dead, all⟩ := of_decide_eq_true facts
  refine ⟨state, reached, reporting, dead, all, ?_⟩
  intro noDeadRule
  exact noDeadRule.live _ _ dead rfl

end Fungi.Daemon.ServiceAccesses
