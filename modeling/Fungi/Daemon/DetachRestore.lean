import Fungi.Daemon.Detaching

/-!
# Detaching against restoring

One `detach` of a service, and any number of `restore_current_record` calls for records of
that service.  A restore looks at the set of detached services again after it has added a
rule, which the source takes to be enough for every ordering to end with no rule.
-/

namespace Fungi.Daemon.ServiceAccesses

open Fungi.Config Fungi.Lib

/-- The restores of the records of one service. -/
structure ServiceRestores (peerId serviceName : String) (RestoreId : Type) where
  candidate : RestoreId → LocalServicePreference
  endpoint : RestoreId → DeviceServiceEndpoint
  ofService : ∀ id, (candidate id).remotePeerId = peerId ∧
    (candidate id).remoteServiceName = serviceName

variable {peerId serviceName : String} {RestoreId : Type}

/-- The calls of a run: the restores, and the `detach` under `none`. -/
def ServiceRestores.calls (restores : ServiceRestores peerId serviceName RestoreId) :
    Option RestoreId → AccessCall
  | none => .detach peerId serviceName
  | some id => .restore (restores.candidate id) (restores.endpoint id)

/-- The rule a restore has added and is to look at again. -/
def AccessPhase.unchecked : AccessPhase → Option String
  | .rechecking _ ruleId _ => some ruleId
  | .retracting ruleId _ => some ruleId
  | _ => none

/-- The calls have finished with no rule of the service left, and the detach did not fail. -/
def DetachedInTheEnd (peerId serviceName : String) (state : AccessSystem (Option RestoreId)) :
    Prop :=
  ∀ result, state.phases none = .returned result → result = .ok none ∧
    ((∀ id, state.phases (some id) = .ready ∨ ∃ result, state.phases (some id) = .returned result) →
      ∀ (ruleId : String) (rule : ForwardingRuleState),
        state.stores.rules[ruleId]? = some rule → ¬ rule.rule.OfService peerId serviceName)

/-- No restore takes out a rule that the detach has listed and not yet come to. -/
def KeepsListed (state : AccessSystem (Option RestoreId)) : AccessStep (Option RestoreId) → Prop
  | .advance (some id) _ => ∀ ruleId ∈ (state.phases (some id)).takes,
      ruleId ∉ (state.phases none).pending
  | _ => True

instance decidableKeepsListed (state : AccessSystem (Option RestoreId)) :
    (action : AccessStep (Option RestoreId)) → Decidable (KeepsListed state action)
  | .advance (some id) _ =>
      inferInstanceAs (Decidable (∀ ruleId ∈ (state.phases (some id)).takes,
        ruleId ∉ (state.phases none).pending))
  | .advance none _ => isTrue trivial
  | .bind _ _ => isTrue trivial

/-- Where a restore of the service can be. -/
def RestorePhase (peerId serviceName : String) : AccessPhase → Prop
  | .ready | .locked | .restoring | .retracting _ _ | .unlocking _ | .returned _ => True
  | .recordRead record =>
      record.remotePeerId = peerId ∧ record.remoteServiceName = serviceName
  | .restoreReplacing record _ rule =>
      (record.remotePeerId = peerId ∧ record.remoteServiceName = serviceName) ∧
        rule.OfService peerId serviceName
  | .restoreStarting record removed =>
      (record.remotePeerId = peerId ∧ record.remoteServiceName = serviceName) ∧
        ∀ rule ∈ removed, rule.OfService peerId serviceName
  | .rechecking rule _ _ | .reattaching rule _ | .readding rule _ =>
      rule.OfService peerId serviceName
  | _ => False

section Restore

variable {stores next : AccessStores} {parsers : AddressParsers} {answer : AccessAnswer}
  {phase phase' : AccessPhase} {candidate : LocalServicePreference}
  {endpoint : DeviceServiceEndpoint}

theorem restorePhase_failPuttingBack {removed : Option ForwardingRule} {error : Runtime.Error}
    (ofService : ∀ rule ∈ removed, rule.OfService peerId serviceName) :
    RestorePhase peerId serviceName (failPuttingBack removed error) := by
  cases removed with
  | none => trivial
  | some rule => exact ofService rule rfl

/-- A restore of the service stays one, and detaches nothing. -/
theorem restore_advance
    (ofService : candidate.remotePeerId = peerId ∧ candidate.remoteServiceName = serviceName)
    (restoring : RestorePhase peerId serviceName phase)
    (taken : stores.advance parsers (.restore candidate endpoint) answer phase =
      some (next, phase')) :
    RestorePhase peerId serviceName phase' ∧ next.detachedServices = stores.detachedServices := by
  cases phase with
  | ready =>
      dsimp only [AccessStores.advance, AccessStores.enter, AccessStores.lock] at taken
      split at taken
      · cases taken
      · cases taken
        exact ⟨trivial, rfl⟩
  | locked =>
      dsimp only [AccessStores.advance, AccessStores.enterLocked] at taken
      split at taken
      · cases taken
        exact ⟨trivial, rfl⟩
      · cases taken
        exact ⟨trivial, rfl⟩
  | restoring =>
      dsimp only [AccessStores.advance] at taken
      split at taken
      · cases taken
        exact ⟨trivial, rfl⟩
      · split at taken
        · cases taken
          exact ⟨trivial, rfl⟩
        · next record found =>
            cases taken
            have same : record.identity = candidate.identity := by
              simpa using List.find?_some found
            rw [LocalServicePreference.identity, LocalServicePreference.identity, Prod.ext_iff,
              Prod.ext_iff] at same
            exact ⟨⟨same.1.trans ofService.1, same.2.1.trans ofService.2⟩, rfl⟩
  | recordRead record =>
      obtain ⟨rfl, rfl⟩ := AccessStores.restoreRecord_taken taken
      refine ⟨?_, rfl⟩
      unfold AccessStores.restoreRecord
      split
      · exact ⟨restoring, nofun⟩
      · next ruleId rule found =>
          split
          · trivial
          · have isFor := (findActiveRule_eq_some found).2.ofService
            rw [restoring.1, restoring.2] at isFor
            exact ⟨restoring, isFor⟩
  | restoreReplacing record ruleId rule =>
      dsimp only [AccessStores.advance] at taken
      split at taken
      · cases taken
        exact ⟨trivial, rfl⟩
      · next removed =>
          cases taken
          obtain ⟨-, rfl⟩ := AccessStores.takeOut_eq_ok removed
          refine ⟨⟨restoring.1, ?_⟩, rfl⟩
          intro other same
          cases same
          exact restoring.2
  | restoreStarting record removed =>
      dsimp only [AccessStores.advance] at taken
      split at taken
      · cases taken
        exact ⟨restorePhase_failPuttingBack restoring.2, rfl⟩
      · cases taken
        exact ⟨⟨restoring.1.1, congrArg some restoring.1.2⟩, rfl⟩
  | rechecking rule ruleId result =>
      dsimp only [AccessStores.advance] at taken
      split at taken
      · cases taken
        exact ⟨trivial, rfl⟩
      · cases taken
        exact ⟨trivial, rfl⟩
  | retracting ruleId result =>
      dsimp only [AccessStores.advance] at taken
      split at taken
      · cases taken
        exact ⟨trivial, rfl⟩
      · next removed =>
          cases taken
          obtain ⟨-, rfl⟩ := AccessStores.takeOut_eq_ok removed
          exact ⟨trivial, rfl⟩
  | reattaching rule error =>
      dsimp only [AccessStores.advance] at taken
      split at taken
      · cases taken
        exact ⟨trivial, rfl⟩
      · cases taken
        exact ⟨restoring, rfl⟩
  | readding rule error =>
      dsimp only [AccessStores.advance] at taken
      split at taken
      · cases taken
        exact ⟨trivial, rfl⟩
      · cases taken
        exact ⟨restoring, rfl⟩
  | unlocking result =>
      cases taken
      exact ⟨trivial, rfl⟩
  | returned result => cases taken
  | _ => cases restoring

/-- Once the service is detached, a rule in the table was there before, and is not one that
the restore has added and gives up, or it is one that the restore is to look at again. -/
theorem restore_rules (flagged : stores.isDetached peerId serviceName = true)
    (restoring : RestorePhase peerId serviceName phase)
    (taken : stores.advance parsers (.restore candidate endpoint) answer phase =
      some (next, phase'))
    {ruleId : String} {rule : ForwardingRuleState} (present : next.rules[ruleId]? = some rule) :
    (stores.rules[ruleId]? = some rule ∧ phase.unchecked ≠ some ruleId) ∨
      phase'.unchecked = some ruleId := by
  cases phase with
  | ready =>
      have entered : stores.enter (.restore candidate endpoint) = some (next, phase') := taken
      rw [AccessStores.enter_rules entered] at present
      exact Or.inl ⟨present, nofun⟩
  | locked =>
      have entered : stores.enterLocked answer (.restore candidate endpoint) =
        some (next, phase') := taken
      rw [AccessStores.enterLocked_rules entered] at present
      exact Or.inl ⟨present, nofun⟩
  | restoring =>
      dsimp only [AccessStores.advance] at taken
      split at taken
      · cases taken
        exact Or.inl ⟨present, nofun⟩
      · split at taken
        · cases taken
          exact Or.inl ⟨present, nofun⟩
        · cases taken
          exact Or.inl ⟨present, nofun⟩
  | recordRead record =>
      obtain ⟨rfl, -⟩ := AccessStores.restoreRecord_taken taken
      exact Or.inl ⟨present, nofun⟩
  | restoreReplacing record other removed =>
      dsimp only [AccessStores.advance] at taken
      split at taken
      · cases taken
        exact Or.inl ⟨present, nofun⟩
      · next takenOut =>
          cases taken
          obtain ⟨-, rfl⟩ := AccessStores.takeOut_eq_ok takenOut
          exact Or.inl ⟨(ForwardingRules.getElem?_of_erase present).2, nofun⟩
  | restoreStarting record removed =>
      dsimp only [AccessStores.advance] at taken
      split at taken
      · cases taken
        exact Or.inl ⟨present, nofun⟩
      · next other rules started =>
          cases taken
          obtain ⟨absent, rfl⟩ := startForwardingRule_eq_ok started
          dsimp only at present
          rw [getElem?_insert] at present
          split at present
          · next same => exact Or.inr (congrArg some same)
          · exact Or.inl ⟨present, nofun⟩
  | rechecking added other result =>
      dsimp only [AccessStores.advance] at taken
      split at taken
      · cases taken
        by_cases same : other = ruleId
        · exact Or.inr (congrArg some same)
        · exact Or.inl ⟨present, fun equal => same (Option.some.inj equal)⟩
      · next attached =>
          have detached : stores.isDetachedRule added = true := by
            unfold AccessStores.isDetachedRule
            rw [restoring.1, restoring.2]
            exact flagged
          exact absurd detached attached
  | retracting other result =>
      dsimp only [AccessStores.advance] at taken
      split at taken
      · next error refused =>
          cases taken
          refine Or.inl ⟨present, ?_⟩
          intro same
          cases same
          exact AccessStores.takeOut_error refused
            (Std.ExtTreeMap.mem_iff_isSome_getElem?.mpr (present ▸ rfl))
      · next takenOut =>
          cases taken
          obtain ⟨-, rfl⟩ := AccessStores.takeOut_eq_ok takenOut
          obtain ⟨different, before⟩ := ForwardingRules.getElem?_of_erase present
          exact Or.inl ⟨before, fun equal => different (Option.some.inj equal).symm⟩
  | reattaching added error =>
      dsimp only [AccessStores.advance] at taken
      split at taken
      · cases taken
        exact Or.inl ⟨present, nofun⟩
      · cases taken
        exact Or.inl ⟨present, nofun⟩
  | readding removed error =>
      dsimp only [AccessStores.advance] at taken
      split at taken
      · cases taken
        exact Or.inl ⟨present, nofun⟩
      · next other rules added =>
          cases taken
          obtain ⟨-, absent, rfl⟩ := ForwardingRules.addForwardingRule_eq_ok added
          dsimp only at present
          rw [getElem?_insert] at present
          split at present
          · next same => exact Or.inr (congrArg some same)
          · exact Or.inl ⟨present, nofun⟩
  | unlocking result =>
      cases taken
      exact Or.inl ⟨present, nofun⟩
  | returned result => cases taken
  | _ => cases restoring

end Restore

variable {restores : ServiceRestores peerId serviceName RestoreId}
  {state next : AccessSystem (Option RestoreId)} {parsers : AddressParsers}

/-- A restore has added the rule and is to look at it again. -/
def Unchecked (state : AccessSystem (Option RestoreId)) (ruleId : String) : Prop :=
  ∃ id, (state.phases (some id)).unchecked = some ruleId

/-- What holds while one detach and any number of restores of the service run. -/
structure Detaching (peerId serviceName : String) (state : AccessSystem (Option RestoreId)) :
    Prop where
  restoring : ∀ id, RestorePhase peerId serviceName (state.phases (some id))
  flagged : state.phases none ≠ .ready → state.stores.isDetached peerId serviceName = true
  removes : RemovesAll peerId serviceName (Unchecked state) state.stores.rules (state.phases none)

namespace Detaching

theorem start (stores : AccessStores) :
    Detaching peerId serviceName (AccessSystem.start stores : AccessSystem (Option RestoreId)) := by
  constructor
  · intro id
    trivial
  · intro started
    exact absurd rfl started
  · exact RemovesAll.of_unlisted _ (Or.inl rfl)

theorem detachedInTheEnd (detaching : Detaching peerId serviceName state) :
    DetachedInTheEnd peerId serviceName state := by
  intro result returned
  constructor
  · have phase := detaching.removes.detaching
    rw [returned] at phase
    rcases phase with impossible | impossible | ⟨_, impossible⟩ | same
    · cases impossible
    · cases impossible
    · cases impossible
    · exact AccessPhase.returned.inj same
  · intro finished ruleId rule present ofService
    have listed : HasListed (state.phases none) := by
      rw [returned]
      exact ⟨nofun, nofun⟩
    rcases detaching.removes.accounted listed ruleId rule present ofService with
      pending | ⟨id, unchecked⟩
    · rw [returned] at pending
      cases pending
    · rcases finished id with ready | ⟨result, ended⟩
      · rw [ready] at unchecked
        cases unchecked
      · rw [ended] at unchecked
        cases unchecked

/-- A restore takes a step that spares the rules the detach has listed. -/
theorem restoreStep (detaching : Detaching peerId serviceName state) {id : RestoreId}
    {answer : AccessAnswer}
    (spares : ∀ ruleId, (state.phases (some id)).takes = some ruleId →
      ruleId ∉ (state.phases none).pending)
    (taken : state.stores.advance parsers (restores.calls (some id)) answer
      (state.phases (some id)) = some (next.stores, next.phases (some id)))
    (others : ∀ other, other ≠ some id → next.phases other = state.phases other) :
    Detaching peerId serviceName next := by
  have own := detaching.restoring id
  obtain ⟨restoring, detachedServices⟩ := restore_advance (restores.ofService id) own taken
  have detachPhase := others none (Option.some_ne_none id).symm
  constructor
  · intro other
    by_cases same : some other = some id
    · rw [same]
      exact restoring
    · rw [others _ same]
      exact detaching.restoring other
  · rw [detachPhase]
    intro started
    unfold AccessStores.isDetached
    rw [detachedServices]
    exact detaching.flagged started
  rw [detachPhase]
  constructor
  · exact detaching.removes.detaching
  · intro ruleId pending
    have before := detaching.removes.listed ruleId pending
    cases AccessStores.advance_rules taken with
    | none same => rwa [same]
    | added other rule absent same =>
        rw [same]
        exact Std.ExtTreeMap.mem_insert.mpr (Or.inr before)
    | taken other takes present same =>
        have different : other ≠ ruleId := by
          intro equal
          exact spares other takes (equal ▸ pending)
        rw [same]
        exact Std.ExtTreeMap.mem_erase.mpr ⟨by simpa using different, before⟩
  · exact detaching.removes.nodup
  · intro listed ruleId rule present ofService
    have flagged := detaching.flagged listed.1
    rcases restore_rules flagged own taken present with ⟨before, notOwn⟩ | unchecked
    · rcases detaching.removes.accounted listed ruleId rule before ofService with
        pending | unchecked
      · exact Or.inl pending
      · right
        obtain ⟨other, unchecked⟩ := unchecked
        refine ⟨other, ?_⟩
        have different : some other ≠ some id := by
          intro same
          rw [same] at unchecked
          exact notOwn unchecked
        rw [others _ different]
        exact unchecked
    · exact Or.inr ⟨id, unchecked⟩

theorem detachStep (detaching : Detaching peerId serviceName state) {answer : AccessAnswer}
    (taken : state.stores.advance parsers (restores.calls none) answer (state.phases none) =
      some (next.stores, next.phases none))
    (others : ∀ id, next.phases (some id) = state.phases (some id)) :
    Detaching peerId serviceName next := by
  have elsewhere : Unchecked next = Unchecked state := by
    funext ruleId
    unfold Unchecked
    simp only [others]
  constructor
  · intro id
    rw [others]
    exact detaching.restoring id
  · intro _
    rcases (DetachCall.advance (Or.inl detaching.removes.detaching) taken).2 with
      ⟨_, same, _⟩ | ⟨entered, same⟩ | ⟨_, entered, _, same⟩
    · rw [same]
      exact Function.update_self _ _ _
    · rw [same]
      exact detaching.flagged entered
    · rw [same]
      exact detaching.flagged entered
  · rw [elsewhere]
    exact detaching.removes.advance taken

theorem step [DecidableEq RestoreId] (detaching : Detaching peerId serviceName state)
    {action : AccessStep (Option RestoreId)} (keeps : KeepsListed state action)
    (taken : state.step parsers restores.calls action = some next) :
    Detaching peerId serviceName next := by
  cases action with
  | advance id answer =>
      obtain ⟨advanced, others⟩ := AccessSystem.step_advance taken
      cases id with
      | none =>
          apply detaching.detachStep advanced
          intro id
          exact others (some id) (Option.some_ne_none id)
      | some id => exact detaching.restoreStep keeps advanced others
  | bind ruleId succeeds =>
      cases taken
      exact ⟨detaching.restoring, detaching.flagged, detaching.removes.bind ruleId succeeds⟩

end Detaching

/-- In every run in which no restore takes out a rule that the detach has listed and not yet
come to, the detach does not fail, and once all calls have returned no rule of the service
is active. -/
theorem detach_converges [DecidableEq RestoreId] (parsers : AddressParsers)
    (restores : ServiceRestores peerId serviceName RestoreId) (stores : AccessStores)
    (schedule : List (AccessStep (Option RestoreId))) (state : AccessSystem (Option RestoreId))
    (keeps : EveryStep (AccessSystem.step parsers restores.calls) KeepsListed
      (AccessSystem.start stores) schedule)
    (reached : run (AccessSystem.step parsers restores.calls) (AccessSystem.start stores)
      schedule = some state) : DetachedInTheEnd peerId serviceName state := by
  apply Detaching.detachedInTheEnd
  apply invariant_of_everyStep _ (Detaching.start stores) keeps reached
  intro before action after detaching condition taken
  exact detaching.step condition taken

/-! ## A detach that a restore overtakes -/

/-- The entry `ssh` of the service is restored. -/
def sshRestore : ServiceRestores webPeer "web" Unit :=
  { candidate := fun _ => webRecord "ssh" 2222
    endpoint := fun _ => { name := "ssh", protocol := "/web/ssh" }
    ofService := fun _ => ⟨rfl, rfl⟩ }

/-- Both entries are saved, and `http` is active. -/
def httpActive : AccessStores :=
  let rule := recordRule (webRecord "http" 8080) "/web/http"
  { webSaved with
    rules := (∅ : ForwardingRules).insert (generateForwardingRuleId rule)
      { rule, task := .running } }

/-- The restore runs to its end before the detach begins. -/
private def restoreFirst : List (AccessStep (Option Unit)) :=
  List.replicate 7 (.advance (some ()) .calm) ++ List.replicate 5 (.advance none .calm)

theorem detach_converges_after_restore :
    ∃ state, run (AccessSystem.step .loopback sshRestore.calls) (AccessSystem.start httpActive)
        restoreFirst = some state ∧
      (state.phases none).hasReturned = true ∧ (state.phases (some ())).hasReturned = true ∧
      DetachedInTheEnd webPeer "web" state := by
  have evaluated : ((run (AccessSystem.step .loopback sshRestore.calls)
      (AccessSystem.start httpActive) restoreFirst).map fun state =>
        (state.phases none).hasReturned && (state.phases (some ())).hasReturned) = some true := by
    decide +kernel
  obtain ⟨state, reached, returned⟩ := Option.map_eq_some_iff.mp evaluated
  rw [Bool.and_eq_true] at returned
  exact ⟨state, reached, returned.1, returned.2,
    detach_converges .loopback sshRestore httpActive restoreFirst state (by decide +kernel) reached⟩

/-- The detach lists the rule that the restore has just added; the restore looks again and
takes the rule out; the detach does not find it, fails, and leaves the other rule active. -/
theorem detach_overtaken_by_restore :
    ∃ state, run (AccessSystem.step .loopback sshRestore.calls) (AccessSystem.start httpActive)
        [.advance (some ()) .calm, .advance (some ()) .calm, .advance (some ()) .calm,
          .advance (some ()) .calm, .advance (some ()) .calm, .advance none .calm,
          .advance none .calm, .advance (some ()) .calm, .advance (some ()) .calm,
          .advance none .calm, .advance (some ()) .calm] = some state ∧
      (state.phases none).hasFailed = true ∧ (state.phases (some ())).hasReturned = true ∧
      generateForwardingRuleId (recordRule (webRecord "http" 8080) "/web/http") ∈
        state.stores.rules ∧
      ¬ DetachedInTheEnd webPeer "web" state := by
  have evaluated : ((run (AccessSystem.step .loopback sshRestore.calls)
      (AccessSystem.start httpActive)
      [.advance (some ()) .calm, .advance (some ()) .calm, .advance (some ()) .calm,
        .advance (some ()) .calm, .advance (some ()) .calm, .advance none .calm,
        .advance none .calm, .advance (some ()) .calm, .advance (some ()) .calm,
        .advance none .calm, .advance (some ()) .calm]).map fun state =>
        (state.phases none).hasFailed && (state.phases (some ())).hasReturned &&
          decide (generateForwardingRuleId (recordRule (webRecord "http" 8080) "/web/http") ∈
            state.stores.rules)) = some true := by
    decide +kernel
  obtain ⟨state, reached, facts⟩ := Option.map_eq_some_iff.mp evaluated
  rw [Bool.and_eq_true, Bool.and_eq_true, decide_eq_true_iff] at facts
  refine ⟨state, reached, facts.1.1, facts.1.2, facts.2, ?_⟩
  intro detached
  obtain ⟨error, failed⟩ := AccessPhase.hasFailed_iff.mp facts.1.1
  have succeeded := (detached _ failed).1
  cases succeeded

end Fungi.Daemon.ServiceAccesses
