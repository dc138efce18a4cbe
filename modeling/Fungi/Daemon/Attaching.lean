import Fungi.Daemon.ServiceAccesses

/-!
# Attaching

What an `attach` counts on while it goes through the selected endpoints: the rules it has
listed are the ones in the table, as far as they are still there, and each endpoint it has
come through has a rule.
-/

namespace Fungi.Daemon.ServiceAccesses

open Fungi.Config Fungi.Lib Fungi.Runtime

/-- The endpoints that an attach is asked for. -/
def selectedEndpoints (service : DeviceService) (entry : Option String) :
    List DeviceServiceEndpoint :=
  service.endpoints.filter fun endpoint => entry.all (endpoint.name = ·)

/-- The names of the endpoints attached so far. -/
def AttachLoop.names (self : AttachLoop) : List String :=
  self.enabledEndpoints.map (·.name)

/-- The names of the endpoints of an access. -/
def ServiceAccess.names (self : ServiceAccess) : List String :=
  self.endpoints.map (·.name)

/-- The endpoints for which the attach counts on a rule in the table. -/
def AccessPhase.attached : AccessPhase → List String
  | .attaching loop => loop.names
  | .replacing loop plan _ _ => loop.names.filter (· ≠ plan.endpoint.name)
  | .starting loop plan _ => loop.names.filter (· ≠ plan.endpoint.name)
  | .saving loop plan _ _ => plan.endpoint.name :: loop.names
  | .rereading loop plan => plan.endpoint.name :: loop.names
  | .clearing access => access.names
  | .unlocking (.ok (some access)) => access.names
  | .returned (.ok (some access)) => access.names
  | _ => []

/-- The rule that the next turn of an attach takes for the one of its endpoint. -/
def AccessPhase.reuses (answer : AccessAnswer) : AccessPhase → Option String
  | .attaching loop =>
      match loop.endpoints with
      | [] => none
      | endpoint :: rest =>
          match planEndpoint { loop with endpoints := rest } endpoint answer with
          | .error _ => none
          | .ok plan =>
              if plan.activeRuleMatches then plan.existingActiveRule.map (·.1) else none
  | _ => none

/-- One turn of the loop of an attach. -/
inductive AttachTurn (answer : AccessAnswer) (loop : AttachLoop) : AccessPhase → Prop where
  | finished (ahead : loop.endpoints = []) : AttachTurn answer loop (.clearing loop.access)
  | failed (error : Error) : AttachTurn answer loop (.unlocking (.error error))
  | reusing {rest : List DeviceServiceEndpoint} {plan : AttachPlan}
      (ahead : loop.endpoints = plan.endpoint :: rest)
      (planned : plan.For { loop with endpoints := rest } plan.endpoint)
      (reuses : (AccessPhase.attaching loop).reuses answer = plan.existingActiveRule.map (·.1))
      (reused : plan.activeRuleMatches = true) :
      AttachTurn answer loop (.saving { loop with endpoints := rest } plan none none)
  | replacing {rest : List DeviceServiceEndpoint} {plan : AttachPlan} {ruleId : String}
      {rule : ForwardingRule} (ahead : loop.endpoints = plan.endpoint :: rest)
      (planned : plan.For { loop with endpoints := rest } plan.endpoint)
      (existing : plan.existingActiveRule = some (ruleId, rule))
      (mismatched : plan.activeRuleMatches ≠ true) :
      AttachTurn answer loop (.replacing { loop with endpoints := rest } plan ruleId rule)
  | starting {rest : List DeviceServiceEndpoint} {plan : AttachPlan}
      (ahead : loop.endpoints = plan.endpoint :: rest)
      (planned : plan.For { loop with endpoints := rest } plan.endpoint)
      (absent : plan.existingActiveRule = none) (mismatched : plan.activeRuleMatches ≠ true) :
      AttachTurn answer loop (.starting { loop with endpoints := rest } plan none)

theorem attachTurn_attachNext (self : AccessStores) (answer : AccessAnswer) (loop : AttachLoop) :
    AttachTurn answer loop (self.attachNext answer loop).2 := by
  unfold AccessStores.attachNext
  split
  · next finished => exact .finished finished
  · next endpoint rest selected =>
      dsimp only
      split
      · exact .failed _
      · next plan planned =>
          have forEndpoint := planEndpoint_eq_ok planned
          have chosen := forEndpoint.chosen
          rw [← chosen] at forEndpoint selected
          split
          · next reused =>
              refine .reusing selected forEndpoint ?_ reused
              dsimp only [AccessPhase.reuses]
              rw [selected]
              dsimp only
              rw [chosen, planned]
              dsimp only
              rw [if_pos reused]
          · next mismatched =>
              split
              · next existing => exact .replacing selected forEndpoint existing mismatched
              · next absent => exact .starting selected forEndpoint absent mismatched

/-- The loop is the one of the attach, and no selected endpoint is left out. -/
structure AttachLoop.Selects (loop : AttachLoop) (peerId : String) (service : DeviceService)
    (entry : Option String) (names : List String) : Prop where
  peer : loop.peerId = peerId
  named : loop.serviceName = service.name
  selected : ∀ endpoint ∈ selectedEndpoints service entry,
    endpoint.name ∈ names ∨ endpoint ∈ loop.endpoints

/-- The rules listed are the ones in the table, as far as they are still there. -/
def Listed (activeRules : List (String × ForwardingRule)) (rules : ForwardingRules) : Prop :=
  ∀ item ∈ activeRules, ∀ state : ForwardingRuleState, rules[item.1]? = some state →
    state.rule = item.2

/-- The access is the one of the attach, with every selected endpoint. -/
structure ServiceAccess.Selects (access : ServiceAccess) (peerId : String)
    (service : DeviceService) (entry : Option String) : Prop where
  peer : access.peerId = peerId
  named : access.serviceName = service.name
  selected : ∀ endpoint ∈ selectedEndpoints service entry, endpoint.name ∈ access.names

/-- What an attach has made sure of at each of its phases. -/
def AttachProgress (peerId : String) (service : DeviceService) (entry : Option String)
    (rules : ForwardingRules) : AccessPhase → Prop
  | .ready | .locked | .preferencesRead _ => True
  | .attaching loop =>
      loop.Selects peerId service entry loop.names ∧ Listed loop.activeRules rules
  | .replacing loop plan ruleId rule =>
      loop.Selects peerId service entry (plan.endpoint.name :: loop.names) ∧
        plan.For loop plan.endpoint ∧ plan.activeRuleMatches ≠ true ∧
        rule.IsFor (loop.identity plan.endpoint) ∧ Listed [(ruleId, rule)] rules
  | .starting loop plan _ =>
      loop.Selects peerId service entry (plan.endpoint.name :: loop.names) ∧
        plan.For loop plan.endpoint ∧ plan.activeRuleMatches ≠ true
  | .saving loop plan _ _ =>
      loop.Selects peerId service entry (plan.endpoint.name :: loop.names) ∧
        (plan.activeRuleMatches = true → Listed loop.activeRules rules)
  | .rereading loop plan => loop.Selects peerId service entry (plan.endpoint.name :: loop.names)
  | .clearing access => access.Selects peerId service entry
  | .rollingBack _ _ _ | .reattaching _ _ | .readding _ _ => True
  | .rechecking _ _ result | .retracting _ result => ∃ error, result = .error error
  | .unlocking result | .returned result =>
      ∀ access, result = .ok access → ∃ attached, access = some attached ∧
        attached.Selects peerId service entry
  | _ => False

/-- Each of the endpoints has a rule in the table. -/
def Covered (peerId serviceName : String) (rules : ForwardingRules) (names : List String) : Prop :=
  ∀ name ∈ names, ∃ (ruleId : String) (state : ForwardingRuleState),
    rules[ruleId]? = some state ∧ state.rule.IsFor (peerId, serviceName, name)

section Tables

variable {rules : ForwardingRules} {activeRules : List (String × ForwardingRule)}
  {peerId serviceName ruleId : String} {names : List String}

theorem listed_getForwardingRules (rules : ForwardingRules) (order : Arrangement) :
    Listed (rules.getForwardingRules order) rules := by
  intro item member state present
  obtain ⟨task, existing⟩ := ForwardingRules.mem_getForwardingRules.mp member
  rw [present] at existing
  cases existing
  rfl

theorem Listed.within (listed : Listed activeRules rules) {fewer : ForwardingRules}
    (within : fewer.Within rules) : Listed activeRules fewer := by
  intro item member state present
  obtain ⟨existing, inTable, same⟩ := within item.1 state present
  rw [← same]
  exact listed item member existing inTable

theorem Covered.subset {fewer : List String} (covered : Covered peerId serviceName rules names)
    (within : ∀ name ∈ fewer, name ∈ names) : Covered peerId serviceName rules fewer := by
  intro name member
  exact covered name (within name member)

/-- A rule that none of the endpoints counts on can go. -/
theorem Covered.erase (covered : Covered peerId serviceName rules names)
    (needless : ∀ state : ForwardingRuleState, rules[ruleId]? = some state →
      ∀ name ∈ names, ¬ state.rule.IsFor (peerId, serviceName, name)) :
    Covered peerId serviceName (rules.erase ruleId) names := by
  intro name member
  obtain ⟨found, state, present, isFor⟩ := covered name member
  refine ⟨found, state, ?_, isFor⟩
  rw [getElem?_erase, if_neg]
  · exact present
  · intro same
    rw [← same] at present
    exact needless state present name member isFor

theorem Covered.insert (covered : Covered peerId serviceName rules names)
    (absent : rules[ruleId]? = none) (state : ForwardingRuleState) :
    Covered peerId serviceName (rules.insert ruleId state) names := by
  intro name member
  obtain ⟨found, existing, present, isFor⟩ := covered name member
  refine ⟨found, existing, ?_, isFor⟩
  rw [getElem?_insert, if_neg]
  · exact present
  · intro same
    rw [same, present] at absent
    cases absent

theorem Covered.within (covered : Covered peerId serviceName rules names)
    {more : ForwardingRules} (within : rules.Within more) :
    Covered peerId serviceName more names := by
  intro name member
  obtain ⟨found, state, present, isFor⟩ := covered name member
  obtain ⟨existing, inTable, same⟩ := within found state present
  exact ⟨found, existing, inTable, same ▸ isFor⟩

end Tables

section Advance

variable {stores next : AccessStores} {parsers : AddressParsers} {answer : AccessAnswer}
  {phase phase' : AccessPhase} {peerId : String} {service : DeviceService} {entry : Option String}
  {localPort : Option UInt16} {loop : AttachLoop} {plan : AttachPlan}

theorem AttachLoop.Selects.onward (selects :
      loop.Selects peerId service entry (plan.endpoint.name :: loop.names))
    (activeRules : List (String × ForwardingRule)) :
    (loop.next plan activeRules).Selects peerId service entry
      (loop.next plan activeRules).names := by
  refine ⟨selects.peer, selects.named, ?_⟩
  intro endpoint member
  apply (selects.selected endpoint member).imp_left
  intro named
  unfold AttachLoop.names AttachLoop.next
  rw [List.map_append, List.mem_append]
  exact (List.mem_cons.mp named).symm.imp_right List.mem_singleton.mpr

theorem mem_names_next {name : String} (activeRules : List (String × ForwardingRule)) :
    name ∈ (loop.next plan activeRules).names ↔ name ∈ plan.endpoint.name :: loop.names := by
  unfold AttachLoop.names AttachLoop.next
  rw [List.map_append, List.mem_append, List.mem_cons, or_comm]
  exact or_congr_left List.mem_singleton

theorem mem_names_access {name : String} : name ∈ loop.access.names ↔ name ∈ loop.names :=
  ((List.perm_insertionSort _ _).map _).mem_iff

/-- A turn takes up an endpoint that was ahead. -/
theorem AttachLoop.Selects.turn {rest : List DeviceServiceEndpoint}
    (selects : loop.Selects peerId service entry loop.names)
    (ahead : loop.endpoints = plan.endpoint :: rest) :
    { loop with endpoints := rest }.Selects peerId service entry
      (plan.endpoint.name :: loop.names) := by
  refine ⟨selects.peer, selects.named, ?_⟩
  intro endpoint member
  rcases selects.selected endpoint member with named | remaining
  · exact Or.inl (List.mem_cons_of_mem _ named)
  · rw [ahead] at remaining
    rcases List.mem_cons.mp remaining with chosen | later
    · exact Or.inl (chosen ▸ List.mem_cons_self)
    · exact Or.inr later

theorem attachProgress_failPuttingBack {rules : ForwardingRules} (removed : Option ForwardingRule)
    (error : Error) :
    AttachProgress peerId service entry rules (failPuttingBack removed error) := by
  cases removed with
  | none => exact nofun
  | some rule => trivial

/-- An attach goes on making sure. -/
theorem AttachProgress.advance (progress : AttachProgress peerId service entry stores.rules phase)
    (taken : stores.advance parsers (.attach peerId service entry localPort) answer phase =
      some (next, phase')) :
    AttachProgress peerId service entry next.rules phase' := by
  cases phase with
  | ready =>
      dsimp only [AccessStores.advance, AccessStores.enter] at taken
      split at taken
      · cases taken
        exact nofun
      · split at taken
        · cases taken
          exact nofun
        · unfold AccessStores.lock at taken
          split at taken
          · cases taken
          · cases taken
            trivial
  | locked =>
      dsimp only [AccessStores.advance, AccessStores.enterLocked] at taken
      split at taken
      · cases taken
        exact nofun
      · cases taken
        trivial
  | preferencesRead preferences =>
      dsimp only [AccessStores.advance, AccessStores.withPreferences] at taken
      split at taken
      · cases taken
        exact nofun
      · cases taken
        exact ⟨⟨rfl, rfl, fun _ => Or.inr⟩, listed_getForwardingRules _ _⟩
  | attaching loop =>
      obtain ⟨rfl, move⟩ := AccessStores.attachNext_taken taken
      have turn := attachTurn_attachNext stores answer loop
      rw [move] at turn
      cases turn with
      | finished ahead =>
          refine ⟨progress.1.peer, progress.1.named, ?_⟩
          intro endpoint member
          apply mem_names_access.mpr
          apply (progress.1.selected endpoint member).resolve_right
          rw [ahead]
          exact List.not_mem_nil
      | failed error => exact nofun
      | reusing ahead planned reuses reused =>
          exact ⟨progress.1.turn ahead, fun _ => progress.2⟩
      | replacing ahead planned existing mismatched =>
          have found := findActiveRule_eq_some (planned.existing.symm.trans existing)
          refine ⟨progress.1.turn ahead, planned, mismatched, found.2, ?_⟩
          intro item member
          rw [List.mem_singleton.mp member]
          exact progress.2 _ found.1
      | starting ahead planned absent mismatched =>
          exact ⟨progress.1.turn ahead, planned, mismatched⟩
  | replacing loop plan ruleId rule =>
      dsimp only [AccessStores.advance] at taken
      split at taken
      · cases taken
        exact nofun
      · cases taken
        exact ⟨progress.1, progress.2.1, progress.2.2.1⟩
  | starting loop plan removed =>
      dsimp only [AccessStores.advance] at taken
      split at taken
      · cases taken
        exact attachProgress_failPuttingBack _ _
      · cases taken
        exact ⟨progress.1, fun reused => absurd reused progress.2.2⟩
  | saving loop plan removed started =>
      dsimp only [AccessStores.advance] at taken
      split at taken
      · split at taken
        · next reused =>
            cases taken
            exact ⟨progress.1.onward _, progress.2 reused⟩
        · cases taken
          exact progress.1
      · split at taken
        · cases taken
          trivial
        · cases taken
          exact attachProgress_failPuttingBack _ _
  | rollingBack removed started error =>
      dsimp only [AccessStores.advance] at taken
      split at taken
      · cases taken
        exact attachProgress_failPuttingBack _ _
      · cases taken
        exact attachProgress_failPuttingBack _ _
  | rereading loop plan =>
      cases taken
      exact ⟨progress.onward _, listed_getForwardingRules _ _⟩
  | clearing access =>
      cases taken
      intro attached same
      cases same
      exact ⟨access, rfl, progress⟩
  | rechecking rule ruleId result =>
      obtain ⟨error, rfl⟩ := progress
      dsimp only [AccessStores.advance] at taken
      split at taken
      · cases taken
        exact ⟨error, rfl⟩
      · cases taken
        exact nofun
  | retracting ruleId result =>
      obtain ⟨error, rfl⟩ := progress
      dsimp only [AccessStores.advance] at taken
      split at taken
      · cases taken
        exact nofun
      · cases taken
        exact nofun
  | reattaching rule error =>
      dsimp only [AccessStores.advance] at taken
      split at taken
      · cases taken
        exact nofun
      · cases taken
        trivial
  | readding rule error =>
      dsimp only [AccessStores.advance] at taken
      split at taken
      · cases taken
        exact nofun
      · cases taken
        exact ⟨error, rfl⟩
  | unlocking result =>
      cases taken
      exact progress
  | returned result => cases taken
  | _ => cases progress

/-- Rules that other calls take out make no difference to what an attach has listed. -/
theorem AttachProgress.within {rules fewer : ForwardingRules}
    (progress : AttachProgress peerId service entry rules phase) (within : fewer.Within rules) :
    AttachProgress peerId service entry fewer phase := by
  cases phase with
  | attaching loop => exact ⟨progress.1, progress.2.within within⟩
  | replacing loop plan found rule =>
      exact ⟨progress.1, progress.2.1, progress.2.2.1, progress.2.2.2.1,
        progress.2.2.2.2.within within⟩
  | saving loop plan removed started =>
      exact ⟨progress.1, fun reused => (progress.2 reused).within within⟩
  | _ => exact progress

theorem attached_failPuttingBack (removed : Option ForwardingRule) (error : Error) :
    (failPuttingBack removed error).attached = [] := by
  cases removed with
  | none => rfl
  | some rule => rfl

theorem attached_returned (result : AccessResult) :
    (AccessPhase.returned result).attached = (AccessPhase.unlocking result).attached := by
  cases result with
  | error error => rfl
  | ok access =>
      cases access with
      | none => rfl
      | some access => rfl

theorem covered_nil {serviceName : String} (rules : ForwardingRules) :
    Covered peerId serviceName rules [] := nofun

/-- A rule of the endpoint covers it, beside those already covered. -/
theorem Covered.cons {rules : ForwardingRules} {serviceName ruleId name : String}
    {names : List String} {state : ForwardingRuleState}
    (covered : Covered peerId serviceName rules (names.filter (· ≠ name)))
    (present : rules[ruleId]? = some state) (isFor : state.rule.IsFor (peerId, serviceName, name)) :
    Covered peerId serviceName rules (name :: names) := by
  intro other member
  by_cases same : other = name
  · exact ⟨ruleId, state, present, same ▸ isFor⟩
  · rcases List.mem_cons.mp member with chosen | further
    · exact absurd chosen same
    · exact covered other (List.mem_filter.mpr ⟨further, decide_eq_true same⟩)

/-- An attach that takes no rule for granted that is gone keeps its endpoints covered. -/
theorem Covered.advance (covered : Covered peerId service.name stores.rules phase.attached)
    (progress : AttachProgress peerId service entry stores.rules phase)
    (present : ∀ ruleId ∈ phase.reuses answer, ruleId ∈ stores.rules)
    (taken : stores.advance parsers (.attach peerId service entry localPort) answer phase =
      some (next, phase')) :
    Covered peerId service.name next.rules phase'.attached := by
  cases phase with
  | ready =>
      dsimp only [AccessStores.advance, AccessStores.enter] at taken
      split at taken
      · cases taken
        exact covered_nil _
      · split at taken
        · cases taken
          exact covered_nil _
        · unfold AccessStores.lock at taken
          split at taken
          · cases taken
          · cases taken
            exact covered_nil _
  | locked =>
      dsimp only [AccessStores.advance, AccessStores.enterLocked] at taken
      split at taken
      · cases taken
        exact covered_nil _
      · cases taken
        exact covered_nil _
  | preferencesRead preferences =>
      dsimp only [AccessStores.advance, AccessStores.withPreferences] at taken
      split at taken
      · cases taken
        exact covered_nil _
      · cases taken
        exact covered_nil _
  | attaching loop =>
      obtain ⟨rfl, move⟩ := AccessStores.attachNext_taken taken
      have turn := attachTurn_attachNext stores answer loop
      rw [move] at turn
      cases turn with
      | finished ahead => exact covered.subset fun name => mem_names_access.mp
      | failed error => exact covered_nil _
      | @reusing rest plan ahead planned reuses reused =>
          obtain ⟨item, existing, -⟩ := planned.matching reused
          rw [reuses, existing] at present
          have found := findActiveRule_eq_some (planned.existing.symm.trans existing)
          obtain ⟨state, inTable⟩ := Option.isSome_iff_exists.mp
            (Std.ExtTreeMap.mem_iff_isSome_getElem?.mp (present item.1 rfl))
          have isFor : state.rule.IsFor (peerId, service.name, plan.endpoint.name) := by
            rw [progress.2 item found.1 state inTable]
            have ofLoop := found.2
            unfold AttachLoop.identity at ofLoop
            dsimp only at ofLoop
            rw [progress.1.peer, progress.1.named] at ofLoop
            exact ofLoop
          apply Covered.cons _ inTable isFor
          exact covered.subset fun name member => (List.mem_filter.mp member).1
      | replacing ahead planned existing mismatched =>
          exact covered.subset fun name member => (List.mem_filter.mp member).1
      | starting ahead planned absent mismatched =>
          exact covered.subset fun name member => (List.mem_filter.mp member).1
  | replacing loop plan ruleId rule =>
      dsimp only [AccessStores.advance] at taken
      split at taken
      · cases taken
        exact covered_nil _
      · next removed =>
          cases taken
          obtain ⟨-, rfl⟩ := AccessStores.takeOut_eq_ok removed
          apply covered.erase
          intro state inTable name member isFor
          obtain ⟨-, -, -, ofEndpoint, listed⟩ := progress
          rw [listed _ List.mem_cons_self state inTable] at isFor
          have sameName := Option.some.inj (isFor.2.2.symm.trans ofEndpoint.2.2)
          exact of_decide_eq_true (List.mem_filter.mp member).2 sameName
  | starting loop plan removed =>
      dsimp only [AccessStores.advance] at taken
      split at taken
      · cases taken
        rw [attached_failPuttingBack]
        exact covered_nil _
      · next ruleId rules started =>
          cases taken
          obtain ⟨absent, rfl⟩ := startForwardingRule_eq_ok started
          obtain ⟨selects, planned, -⟩ := progress
          refine Covered.cons (covered.insert absent _) Std.ExtTreeMap.getElem?_insert_self ?_
          apply (recordRule_isFor _ _ _).mpr
          rw [planned.identity]
          unfold AttachLoop.identity
          rw [selects.peer, selects.named]
  | saving loop plan removed started =>
      dsimp only [AccessStores.advance] at taken
      split at taken
      · split at taken
        · cases taken
          exact covered.subset fun name => (mem_names_next _).mp
        · cases taken
          exact covered
      · split at taken
        · cases taken
          exact covered_nil _
        · cases taken
          rw [attached_failPuttingBack]
          exact covered_nil _
  | rollingBack removed started error =>
      dsimp only [AccessStores.advance] at taken
      split at taken
      · cases taken
        rw [attached_failPuttingBack]
        exact covered_nil _
      · cases taken
        rw [attached_failPuttingBack]
        exact covered_nil _
  | rereading loop plan =>
      cases taken
      exact covered.subset fun name => (mem_names_next _).mp
  | clearing access =>
      cases taken
      exact covered
  | rechecking rule ruleId result =>
      obtain ⟨error, rfl⟩ := progress
      dsimp only [AccessStores.advance] at taken
      split at taken
      · cases taken
        exact covered_nil _
      · cases taken
        exact covered_nil _
  | retracting ruleId result =>
      obtain ⟨error, rfl⟩ := progress
      dsimp only [AccessStores.advance] at taken
      split at taken
      · cases taken
        exact covered_nil _
      · cases taken
        exact covered_nil _
  | reattaching rule error =>
      dsimp only [AccessStores.advance] at taken
      split at taken
      · cases taken
        exact covered_nil _
      · cases taken
        exact covered_nil _
  | readding rule error =>
      dsimp only [AccessStores.advance] at taken
      split at taken
      · cases taken
        exact covered_nil _
      · cases taken
        exact covered_nil _
  | unlocking result =>
      cases taken
      rw [attached_returned]
      exact covered
  | returned result => cases taken
  | _ => cases progress

end Advance

end Fungi.Daemon.ServiceAccesses
