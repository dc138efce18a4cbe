import Fungi.Daemon.Attaching
import Fungi.Daemon.RecordedRules
import Mathlib.Data.Fintype.Basic

/-!
# Consistency of the access stores

Calls one after the other, over the saved records and the table of rules.  Each call breaks
the tie between the two stores on its way and restores it: an attach starts a rule before it
saves the record, and takes the rule back if the save fails.
-/

namespace Fungi.Daemon.ServiceAccesses

open Fungi.Config Fungi.Lib Fungi.Runtime

variable {CallId : Type}

/-- The rules listed are those in the table. -/
def ListsAll (activeRules : List (String × ForwardingRule)) (rules : ForwardingRules) : Prop :=
  ∀ (ruleId : String) (rule : ForwardingRule), (ruleId, rule) ∈ activeRules ↔
    ∃ task, rules[ruleId]? = some { rule, task }

/-- The table without the rule that an attach has started. -/
def withoutStarted (rules : ForwardingRules) : Option String → ForwardingRules
  | some ruleId => rules.erase ruleId
  | none => rules

/-- A removal that has read the preferences has read the saved ones. -/
def RemovalPurpose.Reads (saved : LocalPreferenceCache) : RemovalPurpose → Prop
  | .forgetDevice _ preferences => preferences = saved
  | _ => True

/-- What holds of the saved records and the table at each phase of the only call in
progress. -/
def AccessAssertion (saved : LocalPreferenceCache) (rules : ForwardingRules) :
    AccessPhase → Prop
  | .ready | .locked | .restoring | .clearing _ | .unlocking _ | .returned _ =>
      Recorded saved rules
  | .rechecking _ _ _ | .retracting _ _ => Recorded saved rules
  | .preferencesRead preferences => preferences = saved ∧ Recorded saved rules
  | .attaching loop =>
      loop.localPreferences = saved ∧ ListsAll loop.activeRules rules ∧ Recorded saved rules
  | .replacing loop plan ruleId rule =>
      loop.localPreferences = saved ∧ plan.For loop plan.endpoint ∧
        plan.activeRuleMatches ≠ true ∧ Recorded saved rules ∧
        rule.IsFor plan.record.identity ∧ ∃ task, rules[ruleId]? = some { rule, task }
  | .starting loop plan removed =>
      loop.localPreferences = saved ∧ plan.For loop plan.endpoint ∧
        plan.activeRuleMatches ≠ true ∧ Recorded saved rules ∧
        Unruled rules plan.record.identity ∧ ∀ rule ∈ removed, Fits saved rules rule
  | .saving loop plan removed started =>
      plan.updatedLocalPreferences.Apart ∧ Recorded plan.updatedLocalPreferences rules ∧
        (plan.activeRuleMatches = true → ListsAll loop.activeRules rules) ∧
        Recorded saved (withoutStarted rules started) ∧
        ∀ rule ∈ removed, Fits saved (withoutStarted rules started) rule
  | .rollingBack removed started _ =>
      (∃ records, records.Apart ∧ Recorded records rules) ∧
        Recorded saved (rules.erase started) ∧
        ∀ rule ∈ removed, Fits saved (rules.erase started) rule
  | .rereading _ plan => plan.updatedLocalPreferences = saved ∧ Recorded saved rules
  | .recordRead record => record ∈ saved ∧ Recorded saved rules
  | .restoreReplacing record ruleId rule =>
      record ∈ saved ∧ Recorded saved rules ∧ rule.IsFor record.identity ∧
        ∃ task, rules[ruleId]? = some { rule, task }
  | .restoreStarting record removed =>
      record ∈ saved ∧ Recorded saved rules ∧ Unruled rules record.identity ∧
        ∀ rule ∈ removed, Fits saved rules rule
  | .reattaching rule _ | .readding rule _ => Recorded saved rules ∧ Fits saved rules rule
  | .listing purpose => purpose.Reads saved ∧ Recorded saved rules
  | .removing purpose ruleIds =>
      purpose.Reads saved ∧ Recorded saved rules ∧
        ∀ (ruleId : String) (state : ForwardingRuleState), rules[ruleId]? = some state →
          purpose.matchesRule state.rule = true → ruleId ∈ ruleIds
  | .forgetting peerId serviceName =>
      Recorded saved rules ∧
        ∀ (ruleId : String) (state : ForwardingRuleState), rules[ruleId]? = some state →
          ¬ state.rule.OfService peerId serviceName
  | .forgetSaving updated =>
      updated.Apart ∧ Recorded updated rules ∧ Recorded saved rules

/-- The records that the file holds, or held before a save was cut short, and the rules. -/
structure Consistent (saved : LocalPreferenceCache) (stores : AccessStores)
    (phase : AccessPhase) : Prop where
  apart : saved.Apart
  file : stores.preferences = none ∨ stores.preferences = some saved
  one : OneRuleEach stores.rules
  asserted : AccessAssertion saved stores.rules phase

theorem listsAll_getForwardingRules (rules : ForwardingRules) (order : Arrangement) :
    ListsAll (rules.getForwardingRules order) rules := by
  intro ruleId rule
  exact ForwardingRules.mem_getForwardingRules

theorem ListsAll.bind {activeRules : List (String × ForwardingRule)} {rules : ForwardingRules}
    (lists : ListsAll activeRules rules) (ruleId : String) (succeeds : Bool) :
    ListsAll activeRules (rules.bind ruleId succeeds) := by
  intro found rule
  rw [lists found rule]
  constructor
  · intro present
    obtain ⟨task, present⟩ := present
    obtain ⟨⟨after, task'⟩, existing, same⟩ :=
      ForwardingRules.within_bind rules ruleId succeeds found _ present
    cases same
    exact ⟨task', existing⟩
  · intro present
    obtain ⟨task, present⟩ := present
    obtain ⟨⟨before, task'⟩, existing, same⟩ :=
      ForwardingRules.bind_within rules ruleId succeeds found _ present
    cases same
    exact ⟨task', existing⟩

theorem withoutStarted_bind_within (rules : ForwardingRules) (started : Option String)
    (ruleId : String) (succeeds : Bool) :
    (withoutStarted (rules.bind ruleId succeeds) started).Within
      (withoutStarted rules started) := by
  cases started with
  | none => exact ForwardingRules.bind_within rules ruleId succeeds
  | some started => exact (ForwardingRules.bind_within rules ruleId succeeds).erase started

section Assertions

variable {saved : LocalPreferenceCache} {rules : ForwardingRules} {phase : AccessPhase}

/-- A bind changes no rule, and so no assertion. -/
theorem AccessAssertion.bind (asserted : AccessAssertion saved rules phase) (ruleId : String)
    (succeeds : Bool) : AccessAssertion saved (rules.bind ruleId succeeds) phase := by
  have within := ForwardingRules.bind_within rules ruleId succeeds
  cases phase with
  | preferencesRead preferences => exact ⟨asserted.1, asserted.2.within within⟩
  | attaching loop =>
      exact ⟨asserted.1, asserted.2.1.bind ruleId succeeds, asserted.2.2.within within⟩
  | replacing loop plan found rule =>
      obtain ⟨same, planned, mismatched, recorded, isFor, task, present⟩ := asserted
      obtain ⟨⟨after, task'⟩, existing, sameRule⟩ :=
        ForwardingRules.within_bind rules ruleId succeeds found _ present
      cases sameRule
      exact ⟨same, planned, mismatched, recorded.within within, isFor, task', existing⟩
  | starting loop plan removed =>
      obtain ⟨same, planned, mismatched, recorded, unruled, fits⟩ := asserted
      exact ⟨same, planned, mismatched, recorded.within within, unruled.within within,
        fun rule member => (fits rule member).within within⟩
  | saving loop plan removed started =>
      obtain ⟨apart, updated, lists, recorded, fits⟩ := asserted
      have without := withoutStarted_bind_within rules started ruleId succeeds
      exact ⟨apart, updated.within within, fun reused => (lists reused).bind ruleId succeeds,
        recorded.within without, fun rule member => (fits rule member).within without⟩
  | rollingBack removed started error =>
      obtain ⟨⟨records, apart, updated⟩, recorded, fits⟩ := asserted
      have without := withoutStarted_bind_within rules (some started) ruleId succeeds
      exact ⟨⟨records, apart, updated.within within⟩, recorded.within without,
        fun rule member => (fits rule member).within without⟩
  | rereading loop plan => exact ⟨asserted.1, asserted.2.within within⟩
  | recordRead record => exact ⟨asserted.1, asserted.2.within within⟩
  | restoreReplacing record found rule =>
      obtain ⟨member, recorded, isFor, task, present⟩ := asserted
      obtain ⟨⟨after, task'⟩, existing, sameRule⟩ :=
        ForwardingRules.within_bind rules ruleId succeeds found _ present
      cases sameRule
      exact ⟨member, recorded.within within, isFor, task', existing⟩
  | restoreStarting record removed =>
      obtain ⟨member, recorded, unruled, fits⟩ := asserted
      exact ⟨member, recorded.within within, unruled.within within,
        fun rule member => (fits rule member).within within⟩
  | reattaching rule error => exact ⟨asserted.1.within within, asserted.2.within within⟩
  | readding rule error => exact ⟨asserted.1.within within, asserted.2.within within⟩
  | listing purpose => exact ⟨asserted.1, asserted.2.within within⟩
  | removing purpose ruleIds =>
      obtain ⟨reads, recorded, ahead⟩ := asserted
      refine ⟨reads, recorded.within within, ?_⟩
      intro found state present matching
      obtain ⟨existing, inTable, same⟩ := within found state present
      rw [← same] at matching
      exact ahead found existing inTable matching
  | forgetting peerId serviceName =>
      refine ⟨asserted.1.within within, ?_⟩
      intro found state present ofService
      obtain ⟨existing, inTable, same⟩ := within found state present
      rw [← same] at ofService
      exact asserted.2 found existing inTable ofService
  | forgetSaving updated =>
      exact ⟨asserted.1, asserted.2.1.within within, asserted.2.2.within within⟩
  | _ => exact Recorded.within asserted within

/-- At every phase, some records that are apart account for the rules. -/
theorem AccessAssertion.recorded (asserted : AccessAssertion saved rules phase)
    (apart : saved.Apart) : ∃ records, records.Apart ∧ Recorded records rules := by
  cases phase with
  | preferencesRead preferences => exact ⟨saved, apart, asserted.2⟩
  | attaching loop => exact ⟨saved, apart, asserted.2.2⟩
  | replacing loop plan ruleId rule => exact ⟨saved, apart, asserted.2.2.2.1⟩
  | starting loop plan removed => exact ⟨saved, apart, asserted.2.2.2.1⟩
  | saving loop plan removed started => exact ⟨_, asserted.1, asserted.2.1⟩
  | rollingBack removed started error => exact asserted.1
  | rereading loop plan => exact ⟨saved, apart, asserted.2⟩
  | recordRead record => exact ⟨saved, apart, asserted.2⟩
  | restoreReplacing record ruleId rule => exact ⟨saved, apart, asserted.2.1⟩
  | restoreStarting record removed => exact ⟨saved, apart, asserted.2.1⟩
  | reattaching rule error => exact ⟨saved, apart, asserted.1⟩
  | readding rule error => exact ⟨saved, apart, asserted.1⟩
  | listing purpose => exact ⟨saved, apart, asserted.2⟩
  | removing purpose ruleIds => exact ⟨saved, apart, asserted.2.1⟩
  | forgetting peerId serviceName => exact ⟨saved, apart, asserted.1⟩
  | forgetSaving updated => exact ⟨saved, apart, asserted.2.2⟩
  | _ => exact ⟨saved, apart, asserted⟩

theorem accessAssertion_failPuttingBack {removed : Option ForwardingRule} {error : Error}
    (recorded : Recorded saved rules) (fits : ∀ rule ∈ removed, Fits saved rules rule) :
    AccessAssertion saved rules (failPuttingBack removed error) := by
  cases removed with
  | none => exact recorded
  | some rule => exact ⟨recorded, fits rule rfl⟩

theorem accessAssertion_fail {purpose : RemovalPurpose} {error : Error}
    (recorded : Recorded saved rules) : AccessAssertion saved rules (purpose.fail error) := by
  cases purpose with
  | _ => exact recorded

end Assertions

section Advance

variable {saved : LocalPreferenceCache} {stores next : AccessStores} {parsers : AddressParsers}
  {call : AccessCall} {answer : AccessAnswer} {phase phase' : AccessPhase}

theorem localPreferences_eq_ok {preferences : LocalPreferenceCache}
    (read : stores.localPreferences answer = .ok preferences)
    (file : stores.preferences = none ∨ stores.preferences = some saved) : preferences = saved := by
  unfold AccessStores.localPreferences at read
  split at read
  · next existing _ =>
      cases read
      rcases file with missing | same
      · rw [missing] at existing
        cases existing
      · exact Option.some.inj (existing.symm.trans same)
  · cases read
  · cases read

/-- A step that changes neither the records nor the table keeps what it keeps asserted. -/
theorem Consistent.move (consistent : Consistent saved stores phase)
    (rules : next.rules = stores.rules) (preferences : next.preferences = stores.preferences)
    (asserted : AccessAssertion saved stores.rules phase') : Consistent saved next phase' := by
  refine ⟨consistent.apart, ?_, ?_, ?_⟩
  · rw [preferences]
    exact consistent.file
  · rw [rules]
    exact consistent.one
  · rw [rules]
    exact asserted

/-- A step that takes a rule out. -/
theorem Consistent.taken (consistent : Consistent saved stores phase) {ruleId : String}
    (removed : stores.takeOut ruleId = .ok next)
    (asserted : AccessAssertion saved (stores.rules.erase ruleId) phase') :
    Consistent saved next phase' := by
  obtain ⟨-, rfl⟩ := AccessStores.takeOut_eq_ok removed
  exact ⟨consistent.apart, consistent.file,
    consistent.one.within (ForwardingRules.erase_within _ ruleId), asserted⟩

/-- A save leaves the new records, the old ones or an unreadable file. -/
theorem Consistent.saveToFile (consistent : Consistent saved stores phase)
    {updated : LocalPreferenceCache} {outcome : PreferenceSave} (apart : updated.Apart)
    (succeeded : (updated.saveToFile stores.preferences outcome).1 = true →
      AccessAssertion updated stores.rules phase')
    (failed : (updated.saveToFile stores.preferences outcome).1 ≠ true →
      AccessAssertion saved stores.rules phase') :
    ∃ saved, Consistent saved
      { stores with preferences := (updated.saveToFile stores.preferences outcome).2 } phase' := by
  cases outcome with
  | written => exact ⟨updated, apart, Or.inr rfl, consistent.one, succeeded rfl⟩
  | refused => exact ⟨saved, consistent.apart, consistent.file, consistent.one, failed nofun⟩
  | cutShort => exact ⟨saved, consistent.apart, Or.inl rfl, consistent.one, failed nofun⟩

theorem Consistent.attachTurn {loop : AttachLoop}
    (consistent : Consistent saved stores (.attaching loop))
    (turn : AttachTurn answer loop phase') : AccessAssertion saved stores.rules phase' := by
  obtain ⟨same, lists, recorded⟩ := consistent.asserted
  cases turn with
  | finished ahead => exact recorded
  | failed error => exact recorded
  | @reusing rest plan ahead planned reuses reused =>
      have apart := consistent.apart
      rw [← same] at apart recorded
      have upserted := planned.upserted
      refine ⟨apart.withUpsertedRecord upserted, recorded.upserted apart upserted ?_,
        fun _ => lists, same ▸ recorded, nofun⟩
      intro ruleId state present isFor
      obtain ⟨item, existing, host, port, -⟩ := planned.matching reused
      have found := findActiveRule_eq_some (planned.existing.symm.trans existing)
      obtain ⟨task, itemPresent⟩ := (lists item.1 item.2).mp found.1
      have itemFor := found.2
      rw [← planned.identity] at itemFor
      have sameId := consistent.one plan.record.identity ruleId item.1 state _ present itemPresent
        isFor itemFor
      rw [sameId, itemPresent] at present
      cases present
      exact Prod.ext host port
  | @replacing rest plan ruleId rule ahead planned existing mismatched =>
      have found := findActiveRule_eq_some (planned.existing.symm.trans existing)
      refine ⟨same, planned, mismatched, recorded, ?_, (lists ruleId rule).mp found.1⟩
      rw [planned.identity]
      exact found.2
  | @starting rest plan ahead planned absent mismatched =>
      refine ⟨same, planned, mismatched, recorded, ?_, nofun⟩
      intro ruleId state present isFor
      rw [planned.identity] at isFor
      exact findActiveRule_eq_none (planned.existing.symm.trans absent)
        ((lists ruleId state.rule).mpr ⟨state.task, present⟩) isFor

theorem Consistent.locks {holding : AccessPhase} (consistent : Consistent saved stores phase)
    (entered : stores.lock holding = some (next, phase'))
    (asserted : AccessAssertion saved stores.rules holding) : Consistent saved next phase' := by
  unfold AccessStores.lock at entered
  split at entered
  · cases entered
  · cases entered
    exact consistent.move rfl rfl asserted

theorem Consistent.enter (consistent : Consistent saved stores .ready)
    (entered : stores.enter call = some (next, phase')) : Consistent saved next phase' := by
  cases call with
  | attach peerId service entry localPort =>
      dsimp only [AccessStores.enter] at entered
      split at entered
      · cases entered
        exact consistent.move rfl rfl consistent.asserted
      · split at entered
        · cases entered
          exact consistent.move rfl rfl consistent.asserted
        · exact consistent.locks entered consistent.asserted
  | detach peerId serviceName =>
      cases entered
      exact consistent.move rfl rfl ⟨trivial, consistent.asserted⟩
  | forgetService peerId serviceName => exact consistent.locks entered consistent.asserted
  | forgetDevice peerId => exact consistent.locks entered consistent.asserted
  | restore candidate endpoint => exact consistent.locks entered consistent.asserted

theorem Consistent.enterLocked (consistent : Consistent saved stores .locked)
    (entered : stores.enterLocked answer call = some (next, phase')) :
    Consistent saved next phase' := by
  unfold AccessStores.enterLocked at entered
  split at entered
  · split at entered
    · cases entered
      exact consistent.move rfl rfl consistent.asserted
    · next read =>
        cases entered
        exact consistent.move rfl rfl
          ⟨localPreferences_eq_ok read consistent.file, consistent.asserted⟩
  · split at entered
    · cases entered
      exact consistent.move rfl rfl consistent.asserted
    · next read =>
        cases entered
        exact consistent.move rfl rfl
          ⟨localPreferences_eq_ok read consistent.file, consistent.asserted⟩
  · cases entered
  · cases entered
    exact consistent.move rfl rfl ⟨trivial, consistent.asserted⟩
  · split at entered
    · cases entered
      exact consistent.move rfl rfl consistent.asserted
    · cases entered
      exact consistent.move rfl rfl consistent.asserted

theorem Consistent.withPreferences {preferences : LocalPreferenceCache}
    (consistent : Consistent saved stores (.preferencesRead preferences))
    (entered : stores.withPreferences answer preferences call = some (next, phase')) :
    Consistent saved next phase' := by
  obtain ⟨same, recorded⟩ := consistent.asserted
  unfold AccessStores.withPreferences at entered
  split at entered
  · dsimp only at entered
    split at entered
    · cases entered
      exact consistent.move rfl rfl recorded
    · cases entered
      exact consistent.move rfl rfl ⟨same, listsAll_getForwardingRules _ _, recorded⟩
  · cases entered
    exact consistent.move rfl rfl ⟨same, recorded⟩
  · cases entered

theorem Consistent.restoreRecord {record : LocalServicePreference}
    {endpoint : DeviceServiceEndpoint}
    (consistent : Consistent saved stores (.recordRead record)) :
    AccessAssertion saved stores.rules (stores.restoreRecord answer record endpoint).2 := by
  obtain ⟨member, recorded⟩ := consistent.asserted
  unfold AccessStores.restoreRecord
  split
  · next absent =>
      refine ⟨member, recorded, ?_, nofun⟩
      intro ruleId state present
      exact findActiveRule_eq_none absent
        ((listsAll_getForwardingRules _ _ ruleId state.rule).mpr ⟨state.task, present⟩)
  · next ruleId rule existing =>
      split
      · exact recorded
      · have found := findActiveRule_eq_some existing
        exact ⟨member, recorded, found.2, (listsAll_getForwardingRules _ _ _ _).mp found.1⟩

/-- What is left to do after a removal relies on there being no matching rule. -/
theorem accessAssertion_proceed {rules : ForwardingRules} {purpose : RemovalPurpose}
    (apart : saved.Apart) (reads : purpose.Reads saved) (recorded : Recorded saved rules)
    (removed : ∀ (ruleId : String) (state : ForwardingRuleState), rules[ruleId]? = some state →
      purpose.matchesRule state.rule ≠ true) :
    AccessAssertion saved rules purpose.proceed := by
  cases purpose with
  | detach peerId serviceName => exact recorded
  | forgetService peerId serviceName =>
      refine ⟨recorded, ?_⟩
      intro ruleId state present ofService
      exact removed ruleId state present (decide_eq_true ofService)
  | forgetDevice peerId preferences =>
      dsimp only [RemovalPurpose.Reads] at reads
      subst reads
      refine ⟨apart.sublist List.filter_sublist, recorded.filter ?_, recorded⟩
      intro ruleId state present record member isFor
      apply decide_eq_true
      intro same
      exact removed ruleId state present (decide_eq_true (isFor.1.trans same))

/-- A step of the only call in progress ties the two stores together as its next phase
says. -/
theorem Consistent.advance (consistent : Consistent saved stores phase)
    (taken : stores.advance parsers call answer phase = some (next, phase')) :
    ∃ saved, Consistent saved next phase' := by
  have asserted := consistent.asserted
  cases phase with
  | ready => exact ⟨saved, consistent.enter taken⟩
  | locked => exact ⟨saved, consistent.enterLocked taken⟩
  | preferencesRead preferences => exact ⟨saved, consistent.withPreferences taken⟩
  | attaching loop =>
      obtain ⟨rfl, move⟩ := AccessStores.attachNext_taken taken
      have turn := attachTurn_attachNext stores answer loop
      rw [move] at turn
      exact ⟨saved, consistent.move rfl rfl (consistent.attachTurn turn)⟩
  | replacing loop plan ruleId rule =>
      obtain ⟨same, planned, mismatched, recorded, isFor, task, present⟩ := asserted
      dsimp only [AccessStores.advance] at taken
      split at taken
      · cases taken
        exact ⟨saved, consistent.move rfl rfl recorded⟩
      · next removed =>
          cases taken
          refine ⟨saved, consistent.taken removed ⟨same, planned, mismatched,
            recorded.within (ForwardingRules.erase_within _ _),
            unruled_erase consistent.one present isFor, ?_⟩⟩
          intro other member
          cases member
          exact fits_erase recorded consistent.one present
  | starting loop plan removed =>
      obtain ⟨same, planned, mismatched, recorded, unruled, fits⟩ := asserted
      dsimp only [AccessStores.advance] at taken
      split at taken
      · cases taken
        exact ⟨saved, consistent.move rfl rfl (accessAssertion_failPuttingBack recorded fits)⟩
      · next ruleId rules started =>
          cases taken
          obtain ⟨absent, rfl⟩ := startForwardingRule_eq_ok started
          have apart := consistent.apart
          have upserted := planned.upserted
          rw [same] at upserted
          have updated : Recorded plan.updatedLocalPreferences stores.rules := by
            apply recorded.upserted apart upserted
            intro found state present isFor
            exact absurd isFor (unruled found state present)
          have member : plan.record ∈ plan.updatedLocalPreferences :=
            (mem_withUpsertedRecord apart upserted).mpr (Or.inl rfl)
          have ownFits := fits_recordRule plan.endpoint.protocol member unruled
          refine ⟨saved, apart, consistent.file, consistent.one.insert ownFits _,
            apart.withUpsertedRecord upserted, updated.insert ownFits _,
            fun reused => absurd reused mismatched, ?_⟩
          dsimp only [withoutStarted]
          rw [ForwardingRules.erase_insert absent]
          exact ⟨recorded, fits⟩
  | saving loop plan removed started =>
      obtain ⟨apart, updated, lists, recorded, fits⟩ := asserted
      dsimp only [AccessStores.advance] at taken
      split at taken
      · next succeeded =>
          split at taken
          · next reused =>
              cases taken
              exact consistent.saveToFile apart (fun _ => ⟨rfl, lists reused, updated⟩)
                (fun failed => absurd succeeded failed)
          · cases taken
            exact consistent.saveToFile apart (fun _ => ⟨rfl, updated⟩)
              (fun failed => absurd succeeded failed)
      · next failed =>
          split at taken
          · cases taken
            exact consistent.saveToFile apart (fun succeeded => absurd succeeded failed)
              (fun _ => ⟨⟨_, apart, updated⟩, recorded, fits⟩)
          · cases taken
            exact consistent.saveToFile apart (fun succeeded => absurd succeeded failed)
              (fun _ => accessAssertion_failPuttingBack recorded fits)
  | rollingBack removed started error =>
      obtain ⟨-, recorded, fits⟩ := asserted
      dsimp only [AccessStores.advance] at taken
      split at taken
      · next refused =>
          cases taken
          have gone : stores.rules.erase started = stores.rules :=
            ForwardingRules.erase_of_not_mem (AccessStores.takeOut_error refused)
          rw [gone] at recorded fits
          exact ⟨saved, consistent.move rfl rfl (accessAssertion_failPuttingBack recorded fits)⟩
      · next erased =>
          cases taken
          exact ⟨saved, consistent.taken erased (accessAssertion_failPuttingBack recorded fits)⟩
  | rereading loop plan =>
      cases taken
      exact ⟨saved, consistent.move rfl rfl
        ⟨asserted.1, listsAll_getForwardingRules _ _, asserted.2⟩⟩
  | clearing access =>
      cases taken
      exact ⟨saved, consistent.move rfl rfl asserted⟩
  | restoring =>
      dsimp only [AccessStores.advance] at taken
      split at taken
      · split at taken
        · cases taken
          exact ⟨saved, consistent.move rfl rfl asserted⟩
        · next preferences read =>
            have same := localPreferences_eq_ok read consistent.file
            split at taken
            · cases taken
              exact ⟨saved, consistent.move rfl rfl asserted⟩
            · next record found =>
                cases taken
                exact ⟨saved, consistent.move rfl rfl
                  ⟨same ▸ List.mem_of_find?_eq_some found, asserted⟩⟩
      · cases taken
  | recordRead record =>
      dsimp only [AccessStores.advance] at taken
      split at taken
      · obtain ⟨rfl, rfl⟩ := AccessStores.restoreRecord_taken taken
        exact ⟨saved, consistent.move rfl rfl consistent.restoreRecord⟩
      · cases taken
  | restoreReplacing record ruleId rule =>
      obtain ⟨member, recorded, isFor, task, present⟩ := asserted
      dsimp only [AccessStores.advance] at taken
      split at taken
      · cases taken
        exact ⟨saved, consistent.move rfl rfl recorded⟩
      · next removed =>
          cases taken
          refine ⟨saved, consistent.taken removed ⟨member,
            recorded.within (ForwardingRules.erase_within _ _),
            unruled_erase consistent.one present isFor, ?_⟩⟩
          intro other taken
          cases taken
          exact fits_erase recorded consistent.one present
  | restoreStarting record removed =>
      obtain ⟨member, recorded, unruled, fits⟩ := asserted
      dsimp only [AccessStores.advance] at taken
      split at taken
      · split at taken
        · cases taken
          exact ⟨saved, consistent.move rfl rfl (accessAssertion_failPuttingBack recorded fits)⟩
        · next endpoint _ ruleId rules started =>
            cases taken
            obtain ⟨-, rfl⟩ := startForwardingRule_eq_ok started
            have ownFits := fits_recordRule endpoint.protocol member unruled
            exact ⟨saved, consistent.apart, consistent.file, consistent.one.insert ownFits _,
              recorded.insert ownFits _⟩
      · cases taken
  | rechecking rule ruleId result =>
      dsimp only [AccessStores.advance] at taken
      split at taken
      · cases taken
        exact ⟨saved, consistent.move rfl rfl asserted⟩
      · cases taken
        exact ⟨saved, consistent.move rfl rfl asserted⟩
  | retracting ruleId result =>
      dsimp only [AccessStores.advance] at taken
      split at taken
      · cases taken
        exact ⟨saved, consistent.move rfl rfl asserted⟩
      · next removed =>
          cases taken
          exact ⟨saved, consistent.taken removed
            (Recorded.within asserted (ForwardingRules.erase_within _ _))⟩
  | reattaching rule error =>
      dsimp only [AccessStores.advance] at taken
      split at taken
      · cases taken
        exact ⟨saved, consistent.move rfl rfl asserted.1⟩
      · cases taken
        exact ⟨saved, consistent.move rfl rfl asserted⟩
  | readding rule error =>
      dsimp only [AccessStores.advance] at taken
      split at taken
      · cases taken
        exact ⟨saved, consistent.move rfl rfl asserted.1⟩
      · next added =>
          cases taken
          obtain ⟨-, -, rfl⟩ := ForwardingRules.addForwardingRule_eq_ok added
          exact ⟨saved, consistent.apart, consistent.file, consistent.one.insert asserted.2 _,
            asserted.1.insert asserted.2 _⟩
  | listing purpose =>
      cases taken
      refine ⟨saved, consistent.move rfl rfl ⟨asserted.1, asserted.2, ?_⟩⟩
      intro ruleId state present matching
      exact List.mem_map.mpr ⟨(ruleId, state.rule), List.mem_filter.mpr
        ⟨(listsAll_getForwardingRules _ _ _ _).mpr ⟨state.task, present⟩, matching⟩, rfl⟩
  | removing purpose ruleIds =>
      obtain ⟨reads, recorded, ahead⟩ := asserted
      cases ruleIds with
      | nil =>
          cases taken
          refine ⟨saved, consistent.move rfl rfl
            (accessAssertion_proceed consistent.apart reads recorded ?_)⟩
          intro ruleId state present matching
          exact List.not_mem_nil (ahead ruleId state present matching)
      | cons ruleId rest =>
          dsimp only [AccessStores.advance] at taken
          split at taken
          · cases taken
            exact ⟨saved, consistent.move rfl rfl (accessAssertion_fail recorded)⟩
          · next removed =>
              cases taken
              refine ⟨saved, consistent.taken removed
                ⟨reads, recorded.within (ForwardingRules.erase_within _ _), ?_⟩⟩
              intro found state present matching
              obtain ⟨different, before⟩ := ForwardingRules.getElem?_of_erase present
              exact List.mem_of_ne_of_mem different (ahead found state before matching)
  | forgetting peerId serviceName =>
      dsimp only [AccessStores.advance] at taken
      split at taken
      · cases taken
        exact ⟨saved, consistent.move rfl rfl asserted.1⟩
      · next preferences read =>
          have same := localPreferences_eq_ok read consistent.file
          subst same
          cases taken
          refine ⟨_, consistent.move rfl rfl
            ⟨consistent.apart.sublist List.filter_sublist, asserted.1.filter ?_, asserted.1⟩⟩
          intro ruleId state present record member isFor
          apply decide_eq_true
          intro ofService
          apply asserted.2 ruleId state present
          rw [← ofService.1, ← ofService.2]
          exact isFor.ofService
  | forgetSaving updated =>
      obtain ⟨apart, after, before⟩ := asserted
      cases taken
      exact consistent.saveToFile apart (fun _ => after) (fun _ => before)
  | unlocking result =>
      cases taken
      exact ⟨saved, consistent.move rfl rfl asserted⟩
  | returned result => cases taken

end Advance

/-! ## Sequential runs -/

/-- A call is in progress from its first step until it returns. -/
def AccessPhase.idle : AccessPhase → Bool
  | .ready => true
  | .returned _ => true
  | _ => false

/-- No other call is in progress. -/
def Alone (state : AccessSystem CallId) : AccessStep CallId → Prop
  | .advance id _ => ∀ other, other ≠ id → (state.phases other).idle = true
  | .bind _ _ => True

instance decidableAlone [Fintype CallId] [DecidableEq CallId] (state : AccessSystem CallId) :
    (action : AccessStep CallId) → Decidable (Alone state action)
  | .advance id _ =>
      inferInstanceAs (Decidable (∀ other, other ≠ id → (state.phases other).idle = true))
  | .bind _ _ => isTrue trivial

/-- The invariant of the stores.  Between two calls, each rule has exactly one record, and
its local port is that of the record. -/
structure AccessStoresConsistent (state : AccessSystem CallId) : Prop where
  saved : ∀ records, state.stores.preferences = some records →
    (records.map (·.identity)).Nodup ∧ (records.map (·.address)).Nodup
  one : OneRuleEach state.stores.rules
  addresses : ∀ (left right : String) (leftState rightState : ForwardingRuleState)
    (leftIdentity rightIdentity : String × String × String),
    state.stores.rules[left]? = some leftState → state.stores.rules[right]? = some rightState →
    leftState.rule.IsFor leftIdentity → rightState.rule.IsFor rightIdentity →
    leftState.rule.address = rightState.rule.address → left = right
  recorded : (∀ id, (state.phases id).idle = true) →
    ∀ records, state.stores.preferences = some records →
    ∀ (ruleId : String) (rule : ForwardingRuleState) (identity : String × String × String),
    state.stores.rules[ruleId]? = some rule → rule.rule.IsFor identity →
    (∃! record, record ∈ records ∧ record.identity = identity) ∧
      ∃ record ∈ records, record.identity = identity ∧ record.localHost = rule.rule.localHost ∧
        record.localPort = rule.rule.localPort

theorem accessAssertion_idle_iff {saved : LocalPreferenceCache} {rules : ForwardingRules}
    {phase : AccessPhase} (idle : phase.idle = true) :
    AccessAssertion saved rules phase ↔ Recorded saved rules := by
  cases phase with
  | ready => exact Iff.rfl
  | returned result => exact Iff.rfl
  | _ => cases idle

/-- What a sequential run keeps: `saved` are the records as of the last save. -/
structure ConsistentRun (saved : LocalPreferenceCache) (state : AccessSystem CallId) : Prop where
  apart : saved.Apart
  file : state.stores.preferences = none ∨ state.stores.preferences = some saved
  one : OneRuleEach state.stores.rules
  accounted : ∃ records, records.Apart ∧ Recorded records state.stores.rules
  asserted : ∀ id, (∀ other, other ≠ id → (state.phases other).idle = true) →
    AccessAssertion saved state.stores.rules (state.phases id)
  between : (∀ id, (state.phases id).idle = true) → Recorded saved state.stores.rules

namespace ConsistentRun

variable {saved : LocalPreferenceCache} {state next : AccessSystem CallId}
  {parsers : AddressParsers} {calls : CallId → AccessCall}

theorem start {stores : AccessStores} (file : stores.preferences = some saved)
    (apart : saved.Apart)
    (inactive : ∀ (ruleId : String) (rule : ForwardingRuleState) identity,
      stores.rules[ruleId]? = some rule → ¬ rule.rule.IsFor identity) :
    ConsistentRun saved (AccessSystem.start stores : AccessSystem CallId) := by
  have recorded : Recorded saved stores.rules := by
    intro ruleId rule identity present isFor
    exact absurd isFor (inactive ruleId rule identity present)
  refine ⟨apart, Or.inr file, ?_, ⟨saved, apart, recorded⟩, fun _ _ => recorded,
    fun _ => recorded⟩
  intro identity left right leftState rightState leftPresent _ leftFor
  exact absurd leftFor (inactive left leftState identity leftPresent)

/-- The call in progress takes its next step. -/
theorem advance [DecidableEq CallId] (consistent : ConsistentRun saved state) {id : CallId}
    {answer : AccessAnswer} (alone : Alone state (.advance id answer))
    (taken : state.step parsers calls (.advance id answer) = some next) :
    ∃ saved, ConsistentRun saved next := by
  obtain ⟨advanced, others⟩ := AccessSystem.step_advance taken
  have own : Consistent saved state.stores (state.phases id) :=
    ⟨consistent.apart, consistent.file, consistent.one, consistent.asserted id alone⟩
  obtain ⟨records, after⟩ := own.advance advanced
  have othersIdle (other : CallId) (different : other ≠ id) :
      (next.phases other).idle = true := by
    rw [others other different]
    exact alone other different
  refine ⟨records, after.apart, after.file, after.one, after.asserted.recorded after.apart, ?_, ?_⟩
  · intro caller onlyOne
    by_cases same : caller = id
    · rw [same]
      exact after.asserted
    · have idle := onlyOne id (Ne.symm same)
      apply (accessAssertion_idle_iff (othersIdle caller same)).mpr
      exact (accessAssertion_idle_iff idle).mp after.asserted
  · intro idle
    exact (accessAssertion_idle_iff (idle id)).mp after.asserted

theorem bind (consistent : ConsistentRun saved state) (ruleId : String) (succeeds : Bool) :
    ConsistentRun saved { state with stores := { state.stores with
      rules := state.stores.rules.bind ruleId succeeds } } := by
  have within := ForwardingRules.bind_within state.stores.rules ruleId succeeds
  obtain ⟨records, apart, recorded⟩ := consistent.accounted
  exact ⟨consistent.apart, consistent.file, consistent.one.within within,
    ⟨records, apart, recorded.within within⟩,
    fun id others => (consistent.asserted id others).bind ruleId succeeds,
    fun idle => (consistent.between idle).within within⟩

theorem step [DecidableEq CallId] (consistent : ∃ saved, ConsistentRun saved state)
    {action : AccessStep CallId} (alone : Alone state action)
    (taken : state.step parsers calls action = some next) :
    ∃ saved, ConsistentRun saved next := by
  obtain ⟨saved, consistent⟩ := consistent
  cases action with
  | advance id answer => exact consistent.advance alone taken
  | bind ruleId succeeds =>
      cases taken
      exact ⟨saved, consistent.bind ruleId succeeds⟩

theorem consistent (consistent : ConsistentRun saved state) : AccessStoresConsistent state := by
  have same {records : LocalPreferenceCache}
      (readable : state.stores.preferences = some records) : records = saved := by
    rcases consistent.file with missing | file
    · rw [missing] at readable
      cases readable
    · exact Option.some.inj (readable.symm.trans file)
  refine ⟨?_, consistent.one, ?_, ?_⟩
  · intro records readable
    rw [same readable]
    exact ⟨consistent.apart.identities, consistent.apart.addresses⟩
  · intro left right leftState rightState leftIdentity rightIdentity
    obtain ⟨records, apart, recorded⟩ := consistent.accounted
    exact recorded.addresses apart consistent.one
  · intro idle records readable ruleId rule identity present isFor
    obtain ⟨record, member, isRecord, address⟩ :=
      consistent.between idle ruleId rule identity present isFor
    rw [same readable]
    refine ⟨⟨record, ⟨member, isRecord⟩, ?_⟩, record, member, isRecord,
      congrArg Prod.fst address, congrArg Prod.snd address⟩
    intro other also
    exact List.inj_on_of_nodup_map consistent.apart.identities also.1 member
      (also.2.trans isRecord.symm)

end ConsistentRun

/-- Over every sequential run, the saved records and the active rules stay consistent. -/
theorem accessStoresConsistent_of_alone [DecidableEq CallId] (parsers : AddressParsers)
    (calls : CallId → AccessCall) (stores : AccessStores) (saved : LocalPreferenceCache)
    (schedule : List (AccessStep CallId)) (state : AccessSystem CallId)
    (file : stores.preferences = some saved)
    (identities : (saved.map (·.identity)).Nodup) (addresses : (saved.map (·.address)).Nodup)
    (inactive : ∀ (ruleId : String) (rule : ForwardingRuleState) identity,
      stores.rules[ruleId]? = some rule → ¬ rule.rule.IsFor identity)
    (sequential : EveryStep (AccessSystem.step parsers calls) Alone (AccessSystem.start stores)
      schedule)
    (reached : run (AccessSystem.step parsers calls) (AccessSystem.start stores) schedule =
      some state) :
    AccessStoresConsistent state := by
  have initially : ∃ saved, ConsistentRun saved (AccessSystem.start stores : AccessSystem CallId) :=
    ⟨saved, ConsistentRun.start file ⟨identities, addresses⟩ inactive⟩
  obtain ⟨_, consistent⟩ := invariant_of_everyStep
    (fun _ _ _ before alone taken => ConsistentRun.step before alone taken)
    initially sequential reached
  exact consistent.consistent

/-! ## Two records on one port -/

/-- The local ports of the active rules are pairwise distinct. -/
def LocalPortsDistinct (rules : ForwardingRules) : Prop :=
  ∀ (left right : String) (leftState rightState : ForwardingRuleState),
    rules[left]? = some leftState → rules[right]? = some rightState →
    leftState.rule.localPort = rightState.rule.localPort → left = right

/-- The entries are saved on the same port of two local addresses. -/
def loopbackRecords : LocalPreferenceCache :=
  [webRecord "http" 8080, { webRecord "ssh" 8080 with localHost := "127.0.0.2" }]

/-- Nothing runs yet, and both records are saved. -/
def loopbackSaved : AccessStores :=
  { webSaved with preferences := some loopbackRecords }

/-- Both records are restored. -/
def restoreBoth : Bool → AccessCall
  | false => .restore (webRecord "http" 8080) { name := "http", protocol := "/web/http" }
  | true => .restore (webRecord "ssh" 8080) { name := "ssh", protocol := "/web/ssh" }

/-- The rule of the entry `http`. -/
def httpLoopbackRule : ForwardingRule :=
  recordRule (webRecord "http" 8080) "/web/http"

/-- The rule of the entry `ssh`, at another loopback address. -/
def sshLoopbackRule : ForwardingRule :=
  recordRule { webRecord "ssh" 8080 with localHost := "127.0.0.2" } "/web/ssh"

/-- Each restore runs to its end before the next one begins. -/
private def restoresInTurn : List (AccessStep Bool) :=
  List.replicate 7 (.advance false .calm) ++ List.replicate 7 (.advance true .calm)

theorem accessStoresConsistent_of_alone_restores :
    ∃ state, run (AccessSystem.step .loopback restoreBoth) (AccessSystem.start loopbackSaved)
        restoresInTurn = some state ∧
      state.stores.rules[generateForwardingRuleId sshLoopbackRule]? =
        some { rule := sshLoopbackRule, task := .starting } ∧ AccessStoresConsistent state := by
  have evaluated : ((run (AccessSystem.step .loopback restoreBoth)
      (AccessSystem.start loopbackSaved) restoresInTurn).map fun state =>
        decide (state.stores.rules[generateForwardingRuleId sshLoopbackRule]? =
          some { rule := sshLoopbackRule, task := .starting })) = some true := by
    decide +kernel
  obtain ⟨state, reached, active⟩ := Option.map_eq_some_iff.mp evaluated
  exact ⟨state, reached, of_decide_eq_true active,
    accessStoresConsistent_of_alone .loopback restoreBoth loopbackSaved loopbackRecords
      restoresInTurn state rfl (by decide) (by decide)
      (by
        intro ruleId rule identity present
        exact absurd present (by rw [show loopbackSaved.rules = ∅ from rfl]; simp))
      (by decide +kernel) reached⟩

/-- The records are apart, and so are the local addresses of their rules, but not their local
ports. -/
theorem restores_share_local_port :
    EveryStep (AccessSystem.step .loopback restoreBoth) Alone (AccessSystem.start loopbackSaved)
        restoresInTurn ∧
      ∃ state, run (AccessSystem.step .loopback restoreBoth) (AccessSystem.start loopbackSaved)
          restoresInTurn = some state ∧
        (∀ id, (state.phases id).idle = true) ∧ ¬ LocalPortsDistinct state.stores.rules := by
  refine ⟨by decide +kernel, ?_⟩
  have evaluated : ((run (AccessSystem.step .loopback restoreBoth)
      (AccessSystem.start loopbackSaved) restoresInTurn).map fun state =>
        decide ((∀ id, (state.phases id).idle = true) ∧
          state.stores.rules[generateForwardingRuleId httpLoopbackRule]? =
            some { rule := httpLoopbackRule, task := .starting } ∧
          state.stores.rules[generateForwardingRuleId sshLoopbackRule]? =
            some { rule := sshLoopbackRule, task := .starting })) = some true := by
    decide +kernel
  obtain ⟨state, reached, facts⟩ := Option.map_eq_some_iff.mp evaluated
  obtain ⟨idle, http, ssh⟩ := of_decide_eq_true facts
  refine ⟨state, reached, idle, ?_⟩
  intro distinct
  have same := distinct _ _ _ _ http ssh rfl
  revert same
  decide +kernel

/-- Both entries are attached, one after the other. -/
def attachBoth : Bool → AccessCall
  | false => .attach webPeer webService (some "http") (some 8080)
  | true => .attach webPeer webService (some "ssh") (some 2222)

/-- An attach up to the save of its first record. -/
private def attachUpToSave : List (AccessStep Bool) :=
  List.replicate 5 (.advance false .calm)

/-- The disk is full when the second record is saved. -/
private def attachCutShort : List (AccessStep Bool) :=
  List.replicate 10 (.advance false .calm) ++ List.replicate 5 (.advance true .calm) ++
    [.advance true { AccessAnswer.calm with saved := .cutShort }] ++
    List.replicate 2 (.advance true .calm)

/-- Within an attach, the rule is active before its record is saved. -/
theorem rule_before_record :
    EveryStep (AccessSystem.step .loopback attachBoth) Alone (AccessSystem.start nothingSaved)
        attachUpToSave ∧
      ∃ state, run (AccessSystem.step .loopback attachBoth) (AccessSystem.start nothingSaved)
          attachUpToSave = some state ∧
        state.stores.preferences = some [] ∧
        state.stores.rules[generateForwardingRuleId httpLoopbackRule]? =
          some { rule := httpLoopbackRule, task := .starting } := by
  refine ⟨by decide +kernel, ?_⟩
  have evaluated : ((run (AccessSystem.step .loopback attachBoth)
      (AccessSystem.start nothingSaved) attachUpToSave).map fun state =>
        decide (state.stores.preferences = some [] ∧
          state.stores.rules[generateForwardingRuleId httpLoopbackRule]? =
            some { rule := httpLoopbackRule, task := .starting })) = some true := by
    decide +kernel
  obtain ⟨state, reached, facts⟩ := Option.map_eq_some_iff.mp evaluated
  exact ⟨state, reached, of_decide_eq_true facts⟩

/-- After a save that was cut short, a rule is active and no record can be read. -/
theorem rule_without_file :
    EveryStep (AccessSystem.step .loopback attachBoth) Alone (AccessSystem.start nothingSaved)
        attachCutShort ∧
      ∃ state, run (AccessSystem.step .loopback attachBoth) (AccessSystem.start nothingSaved)
          attachCutShort = some state ∧
        (∀ id, (state.phases id).idle = true) ∧ state.stores.preferences = none ∧
        state.stores.rules[generateForwardingRuleId httpLoopbackRule]? =
          some { rule := httpLoopbackRule, task := .starting } := by
  refine ⟨by decide +kernel, ?_⟩
  have evaluated : ((run (AccessSystem.step .loopback attachBoth)
      (AccessSystem.start nothingSaved) attachCutShort).map fun state =>
        decide ((∀ id, (state.phases id).idle = true) ∧ state.stores.preferences = none ∧
          state.stores.rules[generateForwardingRuleId httpLoopbackRule]? =
            some { rule := httpLoopbackRule, task := .starting })) = some true := by
    decide +kernel
  obtain ⟨state, reached, facts⟩ := Option.map_eq_some_iff.mp evaluated
  exact ⟨state, reached, of_decide_eq_true facts⟩

/-- Two active rules share a local port; a rule is active before its record is saved; and a
rule stays active when the file has been cut short. -/
theorem accessStores_inconsistent :
    ((loopbackRecords.map (·.identity)).Nodup ∧ (loopbackRecords.map (·.address)).Nodup ∧
      EveryStep (AccessSystem.step .loopback restoreBoth) Alone
        (AccessSystem.start loopbackSaved) restoresInTurn ∧
      ∃ state, run (AccessSystem.step .loopback restoreBoth) (AccessSystem.start loopbackSaved)
          restoresInTurn = some state ∧
        (∀ id, (state.phases id).idle = true) ∧ ¬ LocalPortsDistinct state.stores.rules) ∧
    (EveryStep (AccessSystem.step .loopback attachBoth) Alone (AccessSystem.start nothingSaved)
        attachUpToSave ∧
      ∃ state, run (AccessSystem.step .loopback attachBoth) (AccessSystem.start nothingSaved)
          attachUpToSave = some state ∧
        state.stores.preferences = some [] ∧
        state.stores.rules[generateForwardingRuleId httpLoopbackRule]? =
          some { rule := httpLoopbackRule, task := .starting }) ∧
    (EveryStep (AccessSystem.step .loopback attachBoth) Alone (AccessSystem.start nothingSaved)
        attachCutShort ∧
      ∃ state, run (AccessSystem.step .loopback attachBoth) (AccessSystem.start nothingSaved)
          attachCutShort = some state ∧
        (∀ id, (state.phases id).idle = true) ∧ state.stores.preferences = none ∧
        state.stores.rules[generateForwardingRuleId httpLoopbackRule]? =
          some { rule := httpLoopbackRule, task := .starting }) :=
  ⟨⟨by decide, by decide, restores_share_local_port⟩, rule_before_record, rule_without_file⟩

end Fungi.Daemon.ServiceAccesses
