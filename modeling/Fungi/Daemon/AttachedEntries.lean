import Fungi.Daemon.Attaching
import Fungi.Daemon.RecordedRules

/-!
# Attached entries

What an attach makes of the saved records and of the table of rules, one endpoint after another:
each endpoint it has come through has a record and a rule at the same local address, and the
records and rules of other entries are what they were.
-/

namespace Fungi.Daemon

open Fungi.Config Fungi.Lib Fungi.Runtime

/-! ## Tables without their tasks -/

/-- The rule under each id. -/
abbrev RuleListing := String → Option ForwardingRule

/-- Each rule is under its own id and passes the check. -/
def RuleListing.Registered (parsers : AddressParsers) (rules : RuleListing) : Prop :=
  ∀ ruleId rule, rules ruleId = some rule →
    ruleId = generateForwardingRuleId rule ∧ checkForwardingRule parsers rule = .ok ()

/-- No two rules are of one entry. -/
def RuleListing.OneEach (rules : RuleListing) : Prop :=
  ∀ identity left right leftRule rightRule, rules left = some leftRule →
    rules right = some rightRule → leftRule.IsFor identity → rightRule.IsFor identity →
    left = right

namespace ForwardingRules

/-- The rule that the table lists under an id. -/
def ruleAt (self : ForwardingRules) : RuleListing :=
  fun ruleId => self[ruleId]?.map (·.rule)

/-- The tables that adding and removing rules build, whose tasks bind in between. -/
inductive Built (parsers : AddressParsers) : ForwardingRules → Prop where
  | empty : Built parsers ∅
  | added {rules next : ForwardingRules} {rule : ForwardingRule} {ruleId : String} :
      Built parsers rules → rules.addForwardingRule parsers rule = .ok (ruleId, next) →
      Built parsers next
  | removed {rules next : ForwardingRules} {ruleId : String} :
      Built parsers rules → rules.removeForwardingRule ruleId = .ok next → Built parsers next
  | bound {rules : ForwardingRules} (ruleId : String) (succeeds : Bool) :
      Built parsers rules → Built parsers (rules.bind ruleId succeeds)

variable {self next : ForwardingRules} {parsers : AddressParsers} {rule : ForwardingRule}
  {ruleId : String}

theorem ruleAt_eq_some :
    self.ruleAt ruleId = some rule ↔ ∃ task, self[ruleId]? = some { rule, task } := by
  unfold ruleAt
  constructor
  · intro listed
    obtain ⟨state, present, rfl⟩ := Option.map_eq_some_iff.mp listed
    exact ⟨state.task, present⟩
  · rintro ⟨task, present⟩
    rw [present, Option.map_some]

theorem ruleAt_insert {state : ForwardingRuleState} :
    ruleAt (self.insert ruleId state) = Function.update self.ruleAt ruleId (some state.rule) := by
  funext found
  rw [ruleAt, getElem?_insert, Function.update_apply]
  simp only [eq_comm]
  split
  · rfl
  · rfl

theorem ruleAt_erase :
    ruleAt (self.erase ruleId) = Function.update self.ruleAt ruleId none := by
  funext found
  rw [ruleAt, getElem?_erase, Function.update_apply]
  simp only [eq_comm]
  split
  · rfl
  · rfl

theorem ruleAt_bind {succeeds : Bool} : (self.bind ruleId succeeds).ruleAt = self.ruleAt := by
  funext found
  cases before : self.ruleAt found with
  | none =>
      rw [ruleAt, Option.map_eq_none_iff] at before ⊢
      by_contra present
      obtain ⟨state, inTable⟩ := Option.ne_none_iff_exists'.mp present
      obtain ⟨existing, absent, -⟩ := bind_within self ruleId succeeds found state inTable
      rw [before] at absent
      cases absent
  | some rule =>
      obtain ⟨task, present⟩ := ruleAt_eq_some.mp before
      obtain ⟨state, inTable, same⟩ := within_bind self ruleId succeeds found _ present
      rw [ruleAt, inTable, Option.map_some, same]

theorem ruleAt_eq_none : self.ruleAt ruleId = none ↔ ruleId ∉ self := by
  rw [ruleAt, Option.map_eq_none_iff, Std.ExtTreeMap.mem_iff_isSome_getElem?,
    Option.not_isSome_iff_eq_none]

theorem mem_getForwardingRules_iff {order : Arrangement} :
    (ruleId, rule) ∈ self.getForwardingRules order ↔ self.ruleAt ruleId = some rule := by
  rw [mem_getForwardingRules, ruleAt_eq_some]

theorem addForwardingRule_registered (registered : self.ruleAt.Registered parsers)
    (added : self.addForwardingRule parsers rule = .ok (ruleId, next)) :
    next.ruleAt.Registered parsers := by
  unfold addForwardingRule at added
  dsimp only at added
  split at added
  · cases added
  · obtain ⟨⟨⟩, checked, same⟩ := bind_eq_ok.mp added
    cases same
    intro found rule listed
    rw [ruleAt_insert, Function.update_apply] at listed
    split at listed
    · next same =>
        cases listed
        exact ⟨same, checked⟩
    · exact registered found rule listed

theorem Built.registered (built : Built parsers self) : self.ruleAt.Registered parsers := by
  induction built with
  | empty =>
      intro ruleId rule listed
      simp [ruleAt] at listed
  | added before added registered => exact addForwardingRule_registered registered added
  | removed before removed registered =>
      obtain ⟨-, rfl⟩ := removeForwardingRule_eq_ok removed
      intro found rule listed
      rw [ruleAt_erase, Function.update_apply] at listed
      split at listed
      · cases listed
      · exact registered found rule listed
  | bound ruleId succeeds before registered =>
      rwa [ruleAt_bind]

end ForwardingRules

/-! ## Records -/

section Records

variable {self next : LocalPreferenceCache} {record : LocalServicePreference}

theorem mem_replaceOrPush (record : LocalServicePreference) (self : LocalPreferenceCache) :
    record ∈ self.replaceOrPush record := by
  induction self with
  | nil => exact List.mem_singleton_self _
  | cons existing rest inductionHypothesis =>
      unfold LocalPreferenceCache.replaceOrPush
      split
      · exact List.mem_cons_self
      · exact List.mem_cons_of_mem _ inductionHypothesis

theorem filter_replaceOrPush {keep : LocalServicePreference → Bool}
    (others : ∀ other, keep other → other.identity ≠ record.identity) :
    (self.replaceOrPush record).filter keep = self.filter keep := by
  have dropped : ∀ other : LocalServicePreference, other.identity = record.identity →
      ¬ keep other := fun other same kept => others other kept same
  induction self with
  | nil => simp [LocalPreferenceCache.replaceOrPush, dropped record rfl]
  | cons existing rest inductionHypothesis =>
      unfold LocalPreferenceCache.replaceOrPush
      split
      · next same =>
          rw [List.filter_cons_of_neg (dropped record rfl),
            List.filter_cons_of_neg (dropped _ same)]
      · rw [List.filter_cons, List.filter_cons, inductionHypothesis]

/-- An upsert puts its record in, and leaves those of other identities alone. -/
theorem withUpsertedRecord_spec (upserted : self.withUpsertedRecord record = .ok next) :
    record.validate = .ok () ∧ record ∈ next ∧
      ∀ keep : LocalServicePreference → Bool,
        (∀ other, keep other → other.identity ≠ record.identity) →
          (next.filter keep).Perm (self.filter keep) := by
  obtain ⟨⟨⟩, valid, stored⟩ := bind_eq_ok.mp upserted
  split at stored
  · cases stored
  · cases stored
    have sorted : (self.replaceOrPush record).sortRecords.Perm (self.replaceOrPush record) :=
      List.perm_insertionSort _ _
    refine ⟨valid, sorted.mem_iff.mpr (mem_replaceOrPush record self), fun keep others => ?_⟩
    exact (sorted.filter keep).trans (List.Perm.of_eq (filter_replaceOrPush others))

/-- Identities that are apart stay apart. -/
theorem nodup_identities_withUpsertedRecord (identities : (self.map (·.identity)).Nodup)
    (upserted : self.withUpsertedRecord record = .ok next) : (next.map (·.identity)).Nodup := by
  have perm := (LocalPreferenceCache.withUpsertedRecord_eq_ok identities upserted).2
  rw [(perm.map _).nodup_iff, List.map_cons, List.nodup_cons]
  refine ⟨fun member => ?_, identities.sublist (List.filter_sublist.map _)⟩
  obtain ⟨other, kept, same⟩ := List.mem_map.mp member
  exact of_decide_eq_true (List.mem_filter.mp kept).2 same

end Records

namespace ServiceAccesses

/-! ## Entries -/

/-- What the stores hold, without the tasks of the rules and the lock. -/
structure AccessContent where
  rules : RuleListing
  preferences : Option LocalPreferenceCache
  detachedServices : String × String → Bool

/-- The content of the stores. -/
def AccessStores.content (self : AccessStores) : AccessContent :=
  { rules := self.rules.ruleAt
    preferences := self.preferences
    detachedServices := self.detachedServices }

theorem AccessStores.content_bind (self : AccessStores) (ruleId : String) (succeeds : Bool) :
    { self with rules := self.rules.bind ruleId succeeds }.content = self.content := by
  unfold AccessStores.content
  rw [ForwardingRules.ruleAt_bind]

/-- The saved records, none where the file does not decode. -/
def AccessContent.records (self : AccessContent) : LocalPreferenceCache :=
  self.preferences.getD []

/-- An attach, with what it finds in the stores. -/
structure AttachCall where
  origin : AccessContent
  peerId : String
  service : DeviceService
  entry : Option String
  localPort : Option UInt16

/-- The call as the daemon makes it. -/
def AttachCall.call (self : AttachCall) : AccessCall :=
  .attach self.peerId self.service self.entry self.localPort

/-- The endpoints that the call is about. -/
def AttachCall.selected (self : AttachCall) : List DeviceServiceEndpoint :=
  selectedEndpoints self.service self.entry

/-- The entry of the service that an endpoint is. -/
def AttachCall.identity (self : AttachCall) (endpoint : DeviceServiceEndpoint) :
    String × String × String :=
  (self.peerId, self.service.name, endpoint.name)

/-- The entry has a saved record and a rule at one local address, which is at the port if one was
asked for. -/
def EntryAttached (localPort : Option UInt16) (records : LocalPreferenceCache)
    (rules : RuleListing) (identity : String × String × String) : Prop :=
  ∃ record ∈ records, record.identity = identity ∧
    (∀ port ∈ localPort, record.localPort = port) ∧
    ∃ ruleId rule, rules ruleId = some rule ∧ rule.IsFor identity ∧
      rule.address = record.address

/-- The endpoints are attached, and the records and rules of other entries are as they were. -/
structure AttachedUpTo (attach : AttachCall) (done : List DeviceServiceEndpoint)
    (stores : AccessContent) : Prop where
  attached : ∀ endpoint ∈ done,
    EntryAttached attach.localPort stores.records stores.rules (attach.identity endpoint)
  otherRecords : ∀ keep : LocalServicePreference → Bool,
    (∀ record, keep record → ∀ endpoint ∈ done, record.identity ≠ attach.identity endpoint) →
    (stores.records.filter keep).Perm (attach.origin.records.filter keep)
  otherRules : ∀ ruleId rule, (∀ endpoint ∈ done, ¬ rule.IsFor (attach.identity endpoint)) →
    (stores.rules ruleId = some rule ↔ attach.origin.rules ruleId = some rule)
  flags : stores.detachedServices = attach.origin.detachedServices
  decodes : stores.preferences.isSome = attach.origin.preferences.isSome
  first : done = [] → stores = attach.origin
  identities : (attach.origin.records.map (·.identity)).Nodup →
    (stores.records.map (·.identity)).Nodup
  one : attach.origin.rules.OneEach → stores.rules.OneEach

/-- After the turn of an entry it has a rule at the address, and other rules are as before. -/
structure Turned (before after : RuleListing) (identity : String × String × String)
    (address : String × UInt16) : Prop where
  own : ∃ ruleId rule, after ruleId = some rule ∧ rule.IsFor identity ∧ rule.address = address
  others : ∀ ruleId rule, ¬ rule.IsFor identity →
    (after ruleId = some rule ↔ before ruleId = some rule)
  one : before.OneEach → after.OneEach

/-- The rule of the entry has been taken out of the table, if there was one. -/
def Taken (base rules : RuleListing) (identity : String × String × String) :
    Option ForwardingRule → Prop
  | none => rules = base ∧
      ∀ ruleId rule, base ruleId = some rule → ¬ rule.IsFor identity
  | some removed => ∃ ruleId, base ruleId = some removed ∧ removed.IsFor identity ∧
      rules = Function.update base ruleId none

section Taking

variable {base taken rules : RuleListing} {identity : String × String × String}
  {address : String × UInt16} {removed : Option ForwardingRule} {rule started : ForwardingRule}
  {ruleId : String} {parsers : AddressParsers}

theorem Taken.others (isTaken : Taken base taken identity removed) {other : ForwardingRule}
    {otherId : String} (elsewhere : ¬ other.IsFor identity) :
    taken otherId = some other ↔ base otherId = some other := by
  cases removed with
  | none => rw [isTaken.1]
  | some removed =>
      obtain ⟨removedId, listed, isFor, same⟩ := isTaken
      rw [same, Function.update_apply]
      split
      · next sameId =>
          rw [sameId, listed]
          refine iff_of_false nofun fun isOther => ?_
          exact elsewhere (Option.some.inj isOther ▸ isFor)
      · rfl

theorem Taken.registered (isTaken : Taken base taken identity removed)
    (registered : base.Registered parsers) : taken.Registered parsers := by
  intro ruleId rule listed
  apply registered
  cases removed with
  | none => rwa [isTaken.1] at listed
  | some removed =>
      obtain ⟨removedId, -, -, same⟩ := isTaken
      rw [same, Function.update_apply] at listed
      split at listed
      · cases listed
      · exact listed

/-- A rule in place of the one that was taken out. -/
theorem Taken.turned (isTaken : Taken base taken identity removed)
    (absent : taken ruleId = none) (isFor : started.IsFor identity)
    (same : rules = Function.update taken ruleId (some started)) :
    Turned base rules identity started.address := by
  constructor
  · exact ⟨ruleId, started, by rw [same, Function.update_self], isFor, rfl⟩
  · intro otherId other elsewhere
    rw [← isTaken.others elsewhere, same, Function.update_apply]
    split
    · next sameId =>
        rw [sameId, absent]
        exact iff_of_false (fun isOther => elsewhere (Option.some.inj isOther ▸ isFor)) nofun
    · rfl
  · intro one
    -- what the entry had is gone, so the new rule is its only one
    have alone : ∀ otherId other, taken otherId = some other → ¬ other.IsFor identity := by
      intro otherId other listed
      cases removed with
      | none => exact isTaken.2 otherId other (by rwa [← isTaken.1])
      | some removed =>
          obtain ⟨removedId, wasListed, wasFor, sameTaken⟩ := isTaken
          rw [sameTaken, Function.update_apply] at listed
          split at listed
          · cases listed
          · next different =>
              exact fun isOther => different
                (one identity otherId removedId other removed listed wasListed isOther wasFor)
    have within : ∀ otherId other, taken otherId = some other →
        base otherId = some other := fun otherId other listed =>
      (isTaken.others (alone otherId other listed)).mp listed
    intro entry left right leftRule rightRule leftListed rightListed leftFor rightFor
    rw [same, Function.update_apply] at leftListed rightListed
    split at leftListed
    · next isLeft =>
        cases leftListed
        split at rightListed
        · next isRight => rw [isLeft, isRight]
        · exact absurd (isFor.unique leftFor ▸ rightFor) (alone right rightRule rightListed)
    · split at rightListed
      · cases rightListed
        exact absurd (isFor.unique rightFor ▸ leftFor) (alone left leftRule leftListed)
      · exact one entry left right leftRule rightRule (within left leftRule leftListed)
          (within right rightRule rightListed) leftFor rightFor

theorem turned_self (listed : rules ruleId = some rule) (isFor : rule.IsFor identity)
    (atAddress : rule.address = address) : Turned rules rules identity address :=
  ⟨⟨ruleId, rule, listed, isFor, atAddress⟩, fun _ _ _ => Iff.rfl, id⟩

/-- The rule that was taken out can be put back under its id. -/
theorem Taken.readd {table : ForwardingRules}
    (isTaken : Taken base table.ruleAt identity (some rule))
    (registered : base.Registered parsers) :
    ∃ ruleId next, table.addForwardingRule parsers rule = .ok (ruleId, next) ∧
      next.ruleAt = base := by
  obtain ⟨ruleId, listed, isFor, same⟩ := isTaken
  obtain ⟨rfl, checked⟩ := registered ruleId rule listed
  have absent : generateForwardingRuleId rule ∉ table := by
    rw [← ForwardingRules.ruleAt_eq_none, same, Function.update_self]
  refine ⟨generateForwardingRuleId rule,
    table.insert (generateForwardingRuleId rule) { rule, task := .starting }, ?_, ?_⟩
  · rw [ForwardingRules.addForwardingRule]
    rw [if_neg absent, checked]
    rfl
  · rw [ForwardingRules.ruleAt_insert, same, Function.update_idem]
    exact Function.update_eq_self_iff.mpr listed.symm

end Taking

section Turns

variable {attach : AttachCall} {done : List DeviceServiceEndpoint}
  {endpoint : DeviceServiceEndpoint} {before after : AccessContent}
  {updated : LocalPreferenceCache} {record : LocalServicePreference}

theorem attachedUpTo_nil : AttachedUpTo attach [] attach.origin where
  attached := nofun
  otherRecords := fun _ _ => List.Perm.refl _
  otherRules := fun _ _ _ => Iff.rfl
  flags := rfl
  decodes := rfl
  first := fun _ => rfl
  identities := id
  one := id

/-- The turn of one more endpoint. -/
theorem AttachedUpTo.turn (upTo : AttachedUpTo attach done before)
    (decodes : before.preferences.isSome = true) (saved : after.preferences = some updated)
    (flags : after.detachedServices = before.detachedServices)
    (upserted : before.records.withUpsertedRecord record = .ok updated)
    (identity : record.identity = attach.identity endpoint)
    (port : ∀ port ∈ attach.localPort, record.localPort = port)
    (turned : Turned before.rules after.rules (attach.identity endpoint) record.address) :
    AttachedUpTo attach (done ++ [endpoint]) after := by
  have records : after.records = updated := by
    unfold AccessContent.records
    rw [saved, Option.getD_some]
  obtain ⟨-, stored, kept⟩ := withUpsertedRecord_spec upserted
  rw [← records] at stored kept
  have own : EntryAttached attach.localPort after.records after.rules (attach.identity endpoint) :=
    ⟨record, stored, identity, port, turned.own⟩
  constructor
  · intro other member
    by_cases same : attach.identity other = attach.identity endpoint
    · exact same ▸ own
    · have earlier : other ∈ done := by
        rcases List.mem_append.mp member with earlier | last
        · exact earlier
        · exact absurd (by rw [List.mem_singleton.mp last]) same
      obtain ⟨saved, inFile, isOther, savedPort, ruleId, rule, listed, isFor, address⟩ :=
        upTo.attached other earlier
      have elsewhere : ¬ rule.IsFor (attach.identity endpoint) :=
        fun isEndpoint => same (isFor.unique isEndpoint)
      refine ⟨saved, ?_, isOther, savedPort, ruleId, rule,
        (turned.others ruleId rule elsewhere).mpr listed, isFor, address⟩
      have survives := kept (fun kept => decide (kept.identity = attach.identity other))
        (fun kept isKept => by rw [of_decide_eq_true isKept, identity]; exact same)
      have member : saved ∈ after.records.filter
          fun kept => decide (kept.identity = attach.identity other) :=
        survives.mem_iff.mpr (List.mem_filter.mpr ⟨inFile, decide_eq_true isOther⟩)
      exact List.mem_of_mem_filter member
  · intro keep others
    have own : ∀ other, keep other → other.identity ≠ record.identity := by
      intro other isKept
      rw [identity]
      exact others other isKept endpoint (by simp)
    exact (kept keep own).trans (upTo.otherRecords keep fun other isKept earlier member =>
      others other isKept earlier (List.mem_append_left _ member))
  · intro ruleId rule others
    rw [turned.others ruleId rule (others endpoint (by simp))]
    exact upTo.otherRules ruleId rule fun earlier member =>
      others earlier (List.mem_append_left _ member)
  · exact flags.trans upTo.flags
  · rw [saved, ← upTo.decodes, decodes]
    rfl
  · simp
  · intro identities
    rw [records]
    exact nodup_identities_withUpsertedRecord (upTo.identities identities) upserted
  · exact fun one => turned.one (upTo.one one)

end Turns

end ServiceAccesses

end Fungi.Daemon
