import Fungi.Daemon.ServiceAccesses

/-!
# Recorded rules

What ties the table of rules to the saved records: each rule of a service access has a
record with its identity and its local address, and no two rules have one identity.
-/

namespace Fungi.Daemon.ServiceAccesses

open Fungi.Config Fungi.Lib

/-- Each rule of a service access has a record of its identity with its local address. -/
def Recorded (records : LocalPreferenceCache) (rules : ForwardingRules) : Prop :=
  ∀ (ruleId : String) (state : ForwardingRuleState) (identity : String × String × String),
    rules[ruleId]? = some state → state.rule.IsFor identity →
    ∃ record ∈ records, record.identity = identity ∧ record.address = state.rule.address

/-- There is no rule of the identity. -/
def Unruled (rules : ForwardingRules) (identity : String × String × String) : Prop :=
  ∀ (ruleId : String) (state : ForwardingRuleState), rules[ruleId]? = some state →
    ¬ state.rule.IsFor identity

/-- No two rules have one identity. -/
def OneRuleEach (rules : ForwardingRules) : Prop :=
  ∀ (identity : String × String × String) (left right : String)
    (leftState rightState : ForwardingRuleState), rules[left]? = some leftState →
    rules[right]? = some rightState → leftState.rule.IsFor identity →
    rightState.rule.IsFor identity → left = right

/-- The rule can be put in: it has a record, and there is no other of its identity. -/
def Fits (records : LocalPreferenceCache) (rules : ForwardingRules) (rule : ForwardingRule) :
    Prop :=
  ∀ identity, rule.IsFor identity → Unruled rules identity ∧
    ∃ record ∈ records, record.identity = identity ∧ record.address = rule.address

section Tables

variable {records : LocalPreferenceCache} {rules : ForwardingRules} {rule : ForwardingRule}
  {state : ForwardingRuleState} {ruleId : String} {identity : String × String × String}

theorem Recorded.within (recorded : Recorded records rules) {fewer : ForwardingRules}
    (within : fewer.Within rules) : Recorded records fewer := by
  intro found state identity present isFor
  obtain ⟨existing, inTable, same⟩ := within found state present
  rw [← same] at isFor ⊢
  exact recorded found existing identity inTable isFor

theorem OneRuleEach.within (one : OneRuleEach rules) {fewer : ForwardingRules}
    (within : fewer.Within rules) : OneRuleEach fewer := by
  intro identity left right leftState rightState leftPresent rightPresent leftFor rightFor
  obtain ⟨leftExisting, leftInTable, leftSame⟩ := within left leftState leftPresent
  obtain ⟨rightExisting, rightInTable, rightSame⟩ := within right rightState rightPresent
  rw [← leftSame] at leftFor
  rw [← rightSame] at rightFor
  exact one identity left right leftExisting rightExisting leftInTable rightInTable leftFor
    rightFor

theorem Unruled.within (unruled : Unruled rules identity) {fewer : ForwardingRules}
    (within : fewer.Within rules) : Unruled fewer identity := by
  intro found state present isFor
  obtain ⟨existing, inTable, same⟩ := within found state present
  rw [← same] at isFor
  exact unruled found existing inTable isFor

theorem Fits.within (fits : Fits records rules rule) {fewer : ForwardingRules}
    (within : fewer.Within rules) : Fits records fewer rule := by
  intro identity isFor
  exact ⟨(fits identity isFor).1.within within, (fits identity isFor).2⟩

/-- A rule that fits keeps the table recorded. -/
theorem Recorded.insert (recorded : Recorded records rules) (fits : Fits records rules rule)
    (task : ForwardingTask) : Recorded records (rules.insert ruleId { rule, task }) := by
  intro found state identity present isFor
  rw [getElem?_insert] at present
  split at present
  · cases present
    exact (fits identity isFor).2
  · exact recorded found state identity present isFor

theorem OneRuleEach.insert (one : OneRuleEach rules) (fits : Fits records rules rule)
    (task : ForwardingTask) : OneRuleEach (rules.insert ruleId { rule, task }) := by
  intro identity left right leftState rightState leftPresent rightPresent leftFor rightFor
  rw [getElem?_insert] at leftPresent rightPresent
  split at leftPresent
  · next leftNew =>
      split at rightPresent
      · next rightNew => exact leftNew.symm.trans rightNew
      · cases leftPresent
        exact absurd rightFor ((fits identity leftFor).1 right rightState rightPresent)
  · split at rightPresent
    · cases rightPresent
      exact absurd leftFor ((fits identity rightFor).1 left leftState leftPresent)
    · exact one identity left right leftState rightState leftPresent rightPresent leftFor rightFor

/-- A rule that has been taken out fits. -/
theorem fits_erase (recorded : Recorded records rules) (one : OneRuleEach rules)
    (present : rules[ruleId]? = some state) : Fits records (rules.erase ruleId) state.rule := by
  intro identity isFor
  refine ⟨?_, recorded ruleId state identity present isFor⟩
  intro found other inTable otherFor
  obtain ⟨different, before⟩ := ForwardingRules.getElem?_of_erase inTable
  exact different (one identity found ruleId other state before present otherFor isFor)

theorem unruled_erase (one : OneRuleEach rules) (present : rules[ruleId]? = some state)
    (isFor : state.rule.IsFor identity) : Unruled (rules.erase ruleId) identity := by
  intro found other inTable otherFor
  obtain ⟨different, before⟩ := ForwardingRules.getElem?_of_erase inTable
  exact different (one identity found ruleId other state before present otherFor isFor)

/-- Distinct rules have distinct local addresses, since their records have. -/
theorem Recorded.addresses (recorded : Recorded records rules) (apart : records.Apart)
    (one : OneRuleEach rules) {left right : String} {leftState rightState : ForwardingRuleState}
    {leftIdentity rightIdentity : String × String × String}
    (leftPresent : rules[left]? = some leftState) (rightPresent : rules[right]? = some rightState)
    (leftFor : leftState.rule.IsFor leftIdentity) (rightFor : rightState.rule.IsFor rightIdentity)
    (same : leftState.rule.address = rightState.rule.address) : left = right := by
  obtain ⟨leftRecord, leftSaved, leftSame, leftAddress⟩ :=
    recorded left leftState leftIdentity leftPresent leftFor
  obtain ⟨rightRecord, rightSaved, rightSame, rightAddress⟩ :=
    recorded right rightState rightIdentity rightPresent rightFor
  have sameRecord : leftRecord = rightRecord :=
    List.inj_on_of_nodup_map apart.addresses leftSaved rightSaved
      (leftAddress.trans (same.trans rightAddress.symm))
  rw [sameRecord] at leftSame
  rw [← leftSame, rightSame] at leftFor
  exact one rightIdentity left right leftState rightState leftPresent rightPresent leftFor rightFor

end Tables

section Records

variable {saved updated : LocalPreferenceCache} {rules : ForwardingRules}
  {record : LocalServicePreference}

/-- The rule of a saved record fits where there is none of its identity. -/
theorem fits_recordRule (remoteProtocol : String) (member : record ∈ saved)
    (unruled : Unruled rules record.identity) :
    Fits saved rules (recordRule record remoteProtocol) := by
  intro identity isFor
  have same := (recordRule_isFor _ _ _).mp isFor
  exact ⟨same ▸ unruled, record, member, same, rfl⟩

theorem mem_withUpsertedRecord {found : LocalServicePreference} (apart : saved.Apart)
    (upserted : saved.withUpsertedRecord record = .ok updated) :
    found ∈ updated ↔ found = record ∨ found ∈ saved ∧ found.identity ≠ record.identity := by
  obtain ⟨-, perm⟩ := LocalPreferenceCache.withUpsertedRecord_eq_ok apart.identities upserted
  rw [perm.mem_iff, List.mem_cons, List.mem_filter, decide_eq_true_eq]

/-- Without a rule of the identity, an upsert makes no difference to the rules. -/
theorem Recorded.upserted (recorded : Recorded saved rules) (apart : saved.Apart)
    (upserted : saved.withUpsertedRecord record = .ok updated)
    (ofRecord : ∀ (ruleId : String) (state : ForwardingRuleState), rules[ruleId]? = some state →
      state.rule.IsFor record.identity → state.rule.address = record.address) :
    Recorded updated rules := by
  intro ruleId state identity present isFor
  by_cases same : identity = record.identity
  · rw [same] at isFor ⊢
    exact ⟨record, (mem_withUpsertedRecord apart upserted).mpr (Or.inl rfl), rfl,
      (ofRecord ruleId state present isFor).symm⟩
  · obtain ⟨existing, member, sameIdentity, address⟩ :=
      recorded ruleId state identity present isFor
    exact ⟨existing,
      (mem_withUpsertedRecord apart upserted).mpr (Or.inr ⟨member, sameIdentity ▸ same⟩),
      sameIdentity, address⟩

/-- Records without a rule can go. -/
theorem Recorded.filter (recorded : Recorded saved rules) {keep : LocalServicePreference → Bool}
    (ruled : ∀ (ruleId : String) (state : ForwardingRuleState), rules[ruleId]? = some state →
      ∀ record ∈ saved, state.rule.IsFor record.identity → keep record = true) :
    Recorded (saved.filter keep) rules := by
  intro ruleId state identity present isFor
  obtain ⟨record, member, same, address⟩ := recorded ruleId state identity present isFor
  refine ⟨record, List.mem_filter.mpr ⟨member, ?_⟩, same, address⟩
  exact ruled ruleId state present record member (same ▸ isFor)

end Records

end Fungi.Daemon.ServiceAccesses
