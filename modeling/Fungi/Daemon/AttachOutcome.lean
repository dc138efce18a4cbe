import Fungi.Daemon.AttachedEntries

/-!
# Outcome of an attach

An attach that no other call interferes with goes through the selected endpoints in turn.  Each
turn changes the rules and saves the records before the next one begins, and a turn that fails
puts the rule of its own endpoint back; the endpoints before it stay attached.
-/

namespace Fungi.Daemon.ServiceAccesses

open Fungi.Config Fungi.Lib Fungi.Runtime

/-! ## The loop -/

/-- The listing has the rules of the table. -/
def Lists (activeRules : List (String × ForwardingRule)) (rules : RuleListing) : Prop :=
  ∀ ruleId rule, (ruleId, rule) ∈ activeRules ↔ rules ruleId = some rule

/-- The loop of the attach, which has come through some endpoints and has others ahead. -/
structure AttachLoop.At (loop : AttachLoop) (attach : AttachCall)
    (done ahead : List DeviceServiceEndpoint) : Prop where
  peer : loop.peerId = attach.peerId
  named : loop.serviceName = attach.service.name
  port : loop.localPort = attach.localPort
  selected : attach.selected = done ++ ahead
  reported : loop.names = done.map (·.name)
  ports : ∀ enabled ∈ loop.enabledEndpoints, ∀ port ∈ attach.localPort, enabled.localPort = port

/-- A turn of the loop, with what the stores held before it. -/
structure InTurn (attach : AttachCall) (parsers : AddressParsers) (loop : AttachLoop)
    (plan : AttachPlan) (done : List DeviceServiceEndpoint) (before stores : AccessContent) :
    Prop where
  position : loop.At attach done (plan.endpoint :: loop.endpoints)
  upTo : AttachedUpTo attach done before
  saved : before.preferences = some loop.localPreferences
  registered : before.rules.Registered parsers
  planned : plan.For loop plan.endpoint
  port : ∀ port ∈ attach.localPort, plan.record.localPort = port
  preferences : stores.preferences = before.preferences
  flags : stores.detachedServices = before.detachedServices

/-- A turn has failed, and the rule it has taken out is not back.  A save that was cut short has
left no records. -/
def Failing (attach : AttachCall) (parsers : AddressParsers) (cut : Prop) (stores : AccessContent)
    (removed : Option ForwardingRule) : Prop :=
  ∃ done endpoint rest before, attach.selected = done ++ endpoint :: rest ∧
    AttachedUpTo attach done before ∧ before.rules.Registered parsers ∧
    Taken before.rules stores.rules (attach.identity endpoint) removed ∧
    (stores.preferences = before.preferences ∨ cut ∧ stores.preferences = none) ∧
    stores.detachedServices = before.detachedServices

/-- What a failed attach leaves: the endpoints before the failing turn are attached, and the
stores are as they were before that turn.  The rule of the failing endpoint is missing only if
the service is detached, and the records only if a save was cut short. -/
def Failed (attach : AttachCall) (cut : Prop) (stores : AccessContent) : Prop :=
  ∃ done rest before, attach.selected = done ++ rest ∧ (done = [] ∨ rest ≠ []) ∧
    AttachedUpTo attach done before ∧
    (stores.rules = before.rules ∨
      attach.origin.detachedServices (attach.peerId, attach.service.name) = true ∧
        ∃ endpoint ∈ rest.head?, ∃ removed,
          Taken before.rules stores.rules (attach.identity endpoint) (some removed)) ∧
    (stores.preferences = before.preferences ∨ cut ∧ stores.preferences = none) ∧
    stores.detachedServices = before.detachedServices

/-- What a successful attach leaves and reports. -/
structure Succeeded (attach : AttachCall) (access : ServiceAccess) (stores : AccessContent) :
    Prop where
  peer : access.peerId = attach.peerId
  named : access.serviceName = attach.service.name
  upTo : ∃ attached, AttachedUpTo attach attach.selected attached ∧
    stores.rules = attached.rules ∧ stores.preferences = attached.preferences
  reported : access.names.Perm (attach.selected.map (·.name))
  ports : ∀ enabled ∈ access.endpoints, ∀ port ∈ attach.localPort, enabled.localPort = port

/-- Each reported endpoint is attached. -/
theorem Succeeded.entry {attach : AttachCall} {access : ServiceAccess} {stores : AccessContent}
    (succeeded : Succeeded attach access stores) {reported : ServiceAccessEndpoint}
    (member : reported ∈ access.endpoints) :
    EntryAttached attach.localPort stores.records stores.rules
      (access.peerId, access.serviceName, reported.name) := by
  obtain ⟨attached, upTo, rules, preferences⟩ := succeeded.upTo
  have isSelected : reported.name ∈ attach.selected.map (·.name) :=
    succeeded.reported.mem_iff.mp (List.mem_map_of_mem member)
  obtain ⟨endpoint, selected, sameName⟩ := List.mem_map.mp isSelected
  have entry := upTo.attached endpoint selected
  unfold AccessContent.records at entry ⊢
  rw [rules, preferences, succeeded.peer, succeeded.named, ← sameName]
  exact entry

/-- What an attach has made of the stores at each of its phases. -/
def AttachOutcome (attach : AttachCall) (parsers : AddressParsers) (cut : Prop)
    (stores : AccessContent) : AccessPhase → Prop
  | .ready | .locked => stores = attach.origin ∧ stores.rules.Registered parsers
  | .preferencesRead preferences => stores = attach.origin ∧ stores.rules.Registered parsers ∧
      stores.preferences = some preferences
  | .attaching loop => ∃ done, loop.At attach done loop.endpoints ∧
      AttachedUpTo attach done stores ∧ stores.rules.Registered parsers ∧
      stores.preferences = some loop.localPreferences ∧ Lists loop.activeRules stores.rules
  | .replacing loop plan ruleId rule => ∃ done, InTurn attach parsers loop plan done stores stores ∧
      plan.activeRuleMatches ≠ true ∧ stores.rules ruleId = some rule ∧
      rule.IsFor (attach.identity plan.endpoint)
  | .starting loop plan removed => ∃ done before,
      InTurn attach parsers loop plan done before stores ∧ plan.activeRuleMatches ≠ true ∧
      Taken before.rules stores.rules (attach.identity plan.endpoint) removed
  | .saving loop plan removed none => ∃ done, InTurn attach parsers loop plan done stores stores ∧
      plan.activeRuleMatches = true ∧ removed = none ∧ Lists loop.activeRules stores.rules ∧
      Turned stores.rules stores.rules (attach.identity plan.endpoint) plan.record.address
  | .saving loop plan removed (some started) => ∃ done before taken,
      InTurn attach parsers loop plan done before stores ∧ plan.activeRuleMatches ≠ true ∧
      Taken before.rules taken (attach.identity plan.endpoint) removed ∧ taken started = none ∧
      stores.rules.Registered parsers ∧ stores.rules = Function.update taken started
        (some (recordRule plan.record plan.endpoint.protocol))
  | .rollingBack removed started _ => ∃ taken rule,
      Failing attach parsers cut { stores with rules := taken } removed ∧ taken started = none ∧
      stores.rules = Function.update taken started (some rule)
  | .rereading loop plan => ∃ done, loop.At attach done (plan.endpoint :: loop.endpoints) ∧
      (∀ port ∈ attach.localPort, plan.record.localPort = port) ∧
      AttachedUpTo attach (done ++ [plan.endpoint]) stores ∧ stores.rules.Registered parsers ∧
      stores.preferences = some plan.updatedLocalPreferences
  | .clearing access => Succeeded attach access stores
  | .reattaching rule _ => Failing attach parsers cut stores (some rule)
  | .readding rule _ => Failing attach parsers cut stores (some rule) ∧
      attach.origin.detachedServices (attach.peerId, attach.service.name) ≠ true
  | .rechecking rule _ result => Failed attach cut stores ∧ (∃ error, result = .error error) ∧
      rule.OfService attach.peerId attach.service.name ∧
      stores.detachedServices (attach.peerId, attach.service.name) ≠ true
  | .unlocking result | .returned result =>
      match result with
      | .error _ => Failed attach cut stores
      | .ok (some access) => Succeeded attach access stores
      | .ok none => False
  | _ => False

/-! ## Steps -/

section Steps

variable {attach : AttachCall} {parsers : AddressParsers} {cut : Prop} {stores : AccessContent}
  {loop : AttachLoop} {plan : AttachPlan} {done : List DeviceServiceEndpoint}
  {before after : AccessContent} {removed : Option ForwardingRule} {error : Error}

theorem lists_getForwardingRules (rules : ForwardingRules) (order : Arrangement) :
    Lists (rules.getForwardingRules order) rules.ruleAt := fun _ _ =>
  ForwardingRules.mem_getForwardingRules_iff

/-- A requested port is the one of the record. -/
theorem planEndpoint_localPort {endpoint : DeviceServiceEndpoint} {answer : AccessAnswer}
    (planned : planEndpoint loop endpoint answer = .ok plan) :
    ∀ port ∈ loop.localPort, plan.record.localPort = port := by
  intro port asked
  unfold planEndpoint at planned
  obtain ⟨selected, chosen, planned⟩ := bind_eq_ok.mp planned
  have isAsked : selected = port := by
    rw [asked] at chosen
    cases chosen
    rfl
  dsimp only at planned
  split at planned
  all_goals
    obtain ⟨-, -, planned⟩ := bind_eq_ok.mp planned
    obtain ⟨updated, upserted, planned⟩ := bind_eq_ok.mp planned
    cases planned
    exact isAsked

theorem AttachLoop.At.identity (position : loop.At attach done ahead)
    (endpoint : DeviceServiceEndpoint) : loop.identity endpoint = attach.identity endpoint := by
  unfold AttachLoop.identity AttachCall.identity
  rw [position.peer, position.named]

theorem AttachLoop.At.onward (position : loop.At attach done (plan.endpoint :: loop.endpoints))
    (port : ∀ port ∈ attach.localPort, plan.record.localPort = port)
    (activeRules : List (String × ForwardingRule)) :
    (loop.next plan activeRules).At attach (done ++ [plan.endpoint]) loop.endpoints where
  peer := position.peer
  named := position.named
  port := position.port
  selected := by rw [position.selected, List.append_assoc, List.singleton_append]
  reported := by
    have reported := position.reported
    unfold AttachLoop.names at reported ⊢
    rw [AttachLoop.next, List.map_append, reported, List.map_append]
    rfl
  ports := by
    intro enabled member
    rcases List.mem_append.mp member with earlier | last
    · exact position.ports enabled earlier
    · rw [List.mem_singleton.mp last]
      exact port

theorem InTurn.records (turn : InTurn attach parsers loop plan done before stores) :
    before.records = loop.localPreferences := by
  unfold AccessContent.records
  rw [turn.saved, Option.getD_some]

/-- The record of the turn saved, once its entry has its rule. -/
theorem InTurn.attached (turn : InTurn attach parsers loop plan done before stores)
    (saved : after.preferences = some plan.updatedLocalPreferences)
    (flags : after.detachedServices = before.detachedServices)
    (turned : Turned before.rules after.rules (attach.identity plan.endpoint)
      plan.record.address) :
    AttachedUpTo attach (done ++ [plan.endpoint]) after := by
  apply turn.upTo.turn (by rw [turn.saved, Option.isSome_some]) saved flags _ _ turn.port turned
  · rw [turn.records]
    exact turn.planned.upserted
  · rw [turn.planned.identity, turn.position.identity]

theorem InTurn.failing (turn : InTurn attach parsers loop plan done before stores)
    (isTaken : Taken before.rules stores.rules (attach.identity plan.endpoint) removed) :
    Failing attach parsers cut stores removed :=
  ⟨done, plan.endpoint, loop.endpoints, before, turn.position.selected, turn.upTo,
    turn.registered, isTaken, Or.inl turn.preferences, turn.flags⟩

/-- A turn whose rule is back. -/
theorem Failing.failed (failing : Failing attach parsers cut stores none) :
    Failed attach cut stores := by
  obtain ⟨done, endpoint, rest, before, selected, upTo, -, isTaken, preferences, flags⟩ := failing
  exact ⟨done, endpoint :: rest, before, selected, Or.inr (List.cons_ne_nil _ _), upTo,
    Or.inl isTaken.1, preferences, flags⟩

/-- The rule stays out if the service is detached. -/
theorem Failing.failed_of_detached {rule : ForwardingRule}
    (failing : Failing attach parsers cut stores (some rule))
    (detached : attach.origin.detachedServices (attach.peerId, attach.service.name) = true) :
    Failed attach cut stores := by
  obtain ⟨done, endpoint, rest, before, selected, upTo, -, isTaken, preferences, flags⟩ := failing
  exact ⟨done, endpoint :: rest, before, selected, Or.inr (List.cons_ne_nil _ _), upTo,
    Or.inr ⟨detached, endpoint, rfl, rule, isTaken⟩, preferences, flags⟩

theorem Failing.ofService {rule : ForwardingRule}
    (failing : Failing attach parsers cut stores (some rule)) :
    rule.OfService attach.peerId attach.service.name := by
  obtain ⟨-, endpoint, -, before, -, -, -, ⟨ruleId, -, isFor, -⟩, -, -⟩ := failing
  exact ⟨isFor.1, isFor.2.1⟩

theorem Failing.flags (failing : Failing attach parsers cut stores removed) :
    stores.detachedServices = attach.origin.detachedServices := by
  obtain ⟨done, endpoint, rest, before, -, upTo, -, -, -, flags⟩ := failing
  exact flags.trans upTo.flags

theorem Failing.outcome (failing : Failing attach parsers cut stores removed) (error : Error) :
    AttachOutcome attach parsers cut stores (failPuttingBack removed error) := by
  cases removed with
  | none => exact failing.failed
  | some rule => exact failing

theorem failed_origin : Failed attach cut attach.origin :=
  ⟨[], attach.selected, attach.origin, rfl, Or.inl rfl, attachedUpTo_nil, Or.inl rfl, Or.inl rfl,
    rfl⟩

variable {self next : AccessStores} {answer : AccessAnswer} {phase phase' : AccessPhase}

theorem isDetachedRule_eq {rule : ForwardingRule} {peerId serviceName : String}
    (ofService : rule.OfService peerId serviceName) :
    self.isDetachedRule rule = self.detachedServices (peerId, serviceName) := by
  unfold AccessStores.isDetachedRule
  rw [ofService.2, ofService.1]
  rfl

/-- The turn that takes up the next endpoint. -/
theorem AttachOutcome.attachNext
    (outcome : AttachOutcome attach parsers cut self.content (.attaching loop)) :
    AttachOutcome attach parsers cut self.content (self.attachNext answer loop).2 := by
  obtain ⟨done, position, upTo, registered, saved, lists⟩ := outcome
  unfold AccessStores.attachNext
  split
  · next finished =>
      rw [finished] at position
      have all : attach.selected = done := by rw [position.selected, List.append_nil]
      refine ⟨position.peer, position.named, ⟨self.content, all ▸ upTo, rfl, rfl⟩, ?_, ?_⟩
      · rw [all, ← position.reported]
        exact (List.perm_insertionSort _ _).map _
      · intro enabled member
        exact position.ports enabled ((List.perm_insertionSort _ _).mem_iff.mp member)
  · next endpoint rest ahead =>
      dsimp only
      split
      · exact ⟨done, loop.endpoints, self.content, position.selected,
          Or.inr (ahead ▸ List.cons_ne_nil _ _), upTo, Or.inl rfl, Or.inl rfl, rfl⟩
      · next plan planned =>
          have forEndpoint := planEndpoint_eq_ok planned
          have asked := planEndpoint_localPort planned
          obtain rfl := forEndpoint.chosen
          have position' : { loop with endpoints := rest }.At attach done
              (plan.endpoint :: rest) := ahead ▸ { position with }
          have turn : InTurn attach parsers { loop with endpoints := rest } plan done self.content
              self.content :=
            ⟨position', upTo, saved, registered, forEndpoint, position.port ▸ asked, rfl, rfl⟩
          have sameIdentity := position'.identity plan.endpoint
          split
          · next reused =>
              refine ⟨done, turn, reused, rfl, lists, ?_⟩
              obtain ⟨item, existing, host, port, -⟩ := forEndpoint.matching reused
              have found := findActiveRule_eq_some (forEndpoint.existing.symm.trans existing)
              rw [sameIdentity] at found
              exact turned_self ((lists item.1 item.2).mp found.1) found.2 (Prod.ext host port)
          · next mismatched =>
              split
              · next ruleId rule existing =>
                  have found := findActiveRule_eq_some (forEndpoint.existing.symm.trans existing)
                  rw [sameIdentity] at found
                  exact ⟨done, turn, mismatched, (lists ruleId rule).mp found.1, found.2⟩
              · next absent =>
                  refine ⟨done, self.content, turn, mismatched, rfl, ?_⟩
                  intro ruleId rule listed
                  rw [← sameIdentity]
                  exact findActiveRule_eq_none (forEndpoint.existing.symm.trans absent)
                    ((lists ruleId rule).mpr listed)

/-- What the first step finds is what there was. -/
theorem AttachOutcome.enter (outcome : AttachOutcome attach parsers cut self.content .ready)
    (entered : self.enter attach.call = some (next, phase')) :
    AttachOutcome attach parsers cut next.content phase' := by
  obtain ⟨same, registered⟩ := outcome
  dsimp only [AccessStores.enter, AttachCall.call] at entered
  split at entered
  · cases entered
    rw [same]
    exact failed_origin
  · split at entered
    · cases entered
      rw [same]
      exact failed_origin
    · unfold AccessStores.lock at entered
      split at entered
      · cases entered
      · cases entered
        exact ⟨same, registered⟩

theorem AttachOutcome.save {started : Option String}
    (outcome : AttachOutcome attach parsers cut self.content (.saving loop plan removed started))
    (cutShort : answer.saved = .cutShort → cut)
    (taken : self.advance parsers attach.call answer (.saving loop plan removed started) =
      some (next, phase')) :
    AttachOutcome attach parsers cut next.content phase' := by
  dsimp only [AccessStores.advance] at taken
  split at taken
  · next succeeded =>
      -- the records are saved only where the write has gone through
      have written : answer.saved = .written := by
        cases outcomeOfSave : answer.saved with
        | written => rfl
        | refused => simp [LocalPreferenceCache.saveToFile, outcomeOfSave] at succeeded
        | cutShort => simp [LocalPreferenceCache.saveToFile, outcomeOfSave] at succeeded
      rw [written] at taken
      split at taken
      · next reused =>
          cases taken
          cases started with
          | none =>
              obtain ⟨done, turn, -, -, lists, turned⟩ := outcome
              exact ⟨_, turn.position.onward turn.port _, turn.attached rfl rfl turned,
                turn.registered, rfl, lists⟩
          | some started =>
              obtain ⟨-, -, -, -, mismatched, -⟩ := outcome
              exact absurd reused mismatched
      · next mismatched =>
          cases taken
          cases started with
          | none =>
              obtain ⟨-, -, reused, -⟩ := outcome
              exact absurd reused mismatched
          | some started =>
              obtain ⟨done, before, table, turn, -, isTaken, absent, registered, same⟩ := outcome
              have isFor : (recordRule plan.record plan.endpoint.protocol).IsFor
                  (attach.identity plan.endpoint) := by
                rw [recordRule_isFor, turn.planned.identity, turn.position.identity]
              exact ⟨done, turn.position, turn.port,
                turn.attached rfl turn.flags (isTaken.turned absent isFor same), registered, rfl⟩
  · next failed =>
      have lost : (plan.updatedLocalPreferences.saveToFile self.preferences answer.saved).2 =
          self.preferences ∨
          cut ∧ (plan.updatedLocalPreferences.saveToFile self.preferences answer.saved).2 =
            none := by
        cases outcomeOfSave : answer.saved with
        | written => simp [LocalPreferenceCache.saveToFile, outcomeOfSave] at failed
        | refused => exact Or.inl rfl
        | cutShort => exact Or.inr ⟨cutShort outcomeOfSave, rfl⟩
      split at taken
      · next started =>
          cases taken
          obtain ⟨done, before, table, turn, -, isTaken, absent, registered, same⟩ := outcome
          refine ⟨table, recordRule plan.record plan.endpoint.protocol, ?_, absent, same⟩
          exact ⟨done, plan.endpoint, loop.endpoints, before, turn.position.selected, turn.upTo,
            turn.registered, isTaken, lost.imp_left (·.trans turn.preferences), turn.flags⟩
      · cases taken
        obtain ⟨done, turn, -, rfl, lists, turned⟩ := outcome
        refine ⟨done, plan.endpoint :: loop.endpoints, self.content, turn.position.selected,
          Or.inr (List.cons_ne_nil _ _), turn.upTo, Or.inl rfl, lost, rfl⟩

/-- A step of the attach does to the stores what its phase says. -/
theorem AttachOutcome.advance (outcome : AttachOutcome attach parsers cut self.content phase)
    (cutShort : answer.saved = .cutShort → cut)
    (taken : self.advance parsers attach.call answer phase = some (next, phase')) :
    AttachOutcome attach parsers cut next.content phase' := by
  cases phase with
  | ready => exact outcome.enter taken
  | locked =>
      obtain ⟨same, registered⟩ := outcome
      dsimp only [AccessStores.advance, AccessStores.enterLocked, AttachCall.call] at taken
      split at taken
      · cases taken
        rw [same]
        exact failed_origin
      · next preferences readable =>
          cases taken
          refine ⟨same, registered, ?_⟩
          unfold AccessStores.localPreferences at readable
          split at readable
          · next saved _ =>
              cases readable
              exact saved
          · cases readable
          · cases readable
  | preferencesRead preferences =>
      obtain ⟨same, registered, saved⟩ := outcome
      dsimp only [AccessStores.advance, AccessStores.withPreferences, AttachCall.call] at taken
      split at taken
      · cases taken
        rw [same]
        exact failed_origin
      · cases taken
        refine ⟨[], ⟨rfl, rfl, rfl, rfl, rfl, nofun⟩, same ▸ attachedUpTo_nil, registered, saved,
          ?_⟩
        exact lists_getForwardingRules _ _
  | attaching loop =>
      obtain ⟨rfl, rfl⟩ := AccessStores.attachNext_taken taken
      exact outcome.attachNext
  | replacing loop plan ruleId rule =>
      obtain ⟨done, turn, mismatched, listed, isFor⟩ := outcome
      dsimp only [AccessStores.advance] at taken
      split at taken
      · next refused =>
          have absent := ForwardingRules.ruleAt_eq_none.mpr (AccessStores.takeOut_error refused)
          cases listed.symm.trans absent
      · next removed =>
          cases taken
          obtain ⟨-, rfl⟩ := AccessStores.takeOut_eq_ok removed
          refine ⟨done, self.content, { turn with }, mismatched, ruleId, listed, isFor, ?_⟩
          exact ForwardingRules.ruleAt_erase
  | starting loop plan removed =>
      obtain ⟨done, before, turn, mismatched, isTaken⟩ := outcome
      dsimp only [AccessStores.advance] at taken
      split at taken
      · cases taken
        exact (turn.failing isTaken).outcome _
      · next ruleId rules started =>
          cases taken
          obtain ⟨-, -, added⟩ := bind_eq_ok.mp started
          obtain ⟨-, absent, same⟩ := ForwardingRules.addForwardingRule_eq_ok added
          have registered := ForwardingRules.addForwardingRule_registered
            (isTaken.registered turn.registered) added
          refine ⟨done, before, self.content.rules, { turn with }, mismatched, isTaken, ?_,
            registered, ?_⟩
          · exact Option.map_eq_none_iff.mpr absent
          · rw [AccessStores.content, same]
            exact ForwardingRules.ruleAt_insert
  | saving loop plan removed started => exact outcome.save cutShort taken
  | rollingBack removed started error =>
      obtain ⟨table, rule, failing, absent, same⟩ := outcome
      dsimp only [AccessStores.advance] at taken
      split at taken
      · next refused =>
          have gone := ForwardingRules.ruleAt_eq_none.mpr (AccessStores.takeOut_error refused)
          have listed := congrFun same started
          rw [Function.update_self] at listed
          cases listed.symm.trans gone
      · next erased =>
          cases taken
          obtain ⟨-, rfl⟩ := AccessStores.takeOut_eq_ok erased
          have back : ForwardingRules.ruleAt (self.rules.erase started) = table := by
            rw [ForwardingRules.ruleAt_erase]
            refine (congrArg (Function.update · started none) same).trans ?_
            rw [Function.update_idem]
            exact Function.update_eq_self_iff.mpr absent.symm
          have failing' : Failing attach parsers cut
              { self with rules := self.rules.erase started }.content removed := by
            rw [AccessStores.content, back]
            exact failing
          exact failing'.outcome error
  | rereading loop plan =>
      cases taken
      obtain ⟨done, position, port, upTo, registered, saved⟩ := outcome
      exact ⟨_, position.onward port _, upTo, registered, saved, lists_getForwardingRules _ _⟩
  | clearing access =>
      cases taken
      exact { outcome with }
  | rechecking rule ruleId result =>
      obtain ⟨failed, ⟨error, rfl⟩, ofService, detached⟩ := outcome
      dsimp only [AccessStores.advance] at taken
      split at taken
      · next isDetached =>
          rw [isDetachedRule_eq ofService] at isDetached
          exact absurd isDetached detached
      · cases taken
        exact failed
  | retracting ruleId result => cases outcome
  | reattaching rule error =>
      have ofService := outcome.ofService
      have flags : self.isDetachedRule rule =
          attach.origin.detachedServices (attach.peerId, attach.service.name) := by
        rw [isDetachedRule_eq ofService, ← outcome.flags]
        rfl
      dsimp only [AccessStores.advance] at taken
      rw [flags] at taken
      split at taken
      · next given =>
          cases taken
          apply outcome.failed_of_detached
          apply given.resolve_left
          rw [ofService.2]
          nofun
      · next attached =>
          cases taken
          exact ⟨outcome, fun detached => attached (Or.inr detached)⟩
  | readding rule error =>
      obtain ⟨failing, detached⟩ := outcome
      have ofService := failing.ofService
      have flags := failing.flags
      obtain ⟨done, endpoint, rest, before, selected, upTo, registered, isTaken, kept, same⟩ :=
        failing
      obtain ⟨ruleId, rules, added, back⟩ := isTaken.readd registered
      dsimp only [AccessStores.advance] at taken
      rw [added] at taken
      cases taken
      refine ⟨?_, ⟨error, rfl⟩, ofService, ?_⟩
      · exact ⟨done, endpoint :: rest, before, selected, Or.inr (List.cons_ne_nil _ _), upTo,
          Or.inl back, kept, same⟩
      · exact flags ▸ detached
  | unlocking result =>
      cases taken
      exact outcome
  | returned result => cases taken
  | _ => cases outcome

end Steps

/-! ## Runs -/

/-- What a run of an attach alone has made of the stores. -/
theorem AttachOutcome.of_run (attach : AttachCall) {parsers : AddressParsers}
    {stores : AccessStores} {schedule : List (AccessStep Unit)} {final : AccessSystem Unit}
    (built : stores.rules.Built parsers) (origin : attach.origin = stores.content)
    (reached : run (AccessSystem.step parsers fun _ => attach.call) (AccessSystem.start stores)
      schedule = some final) :
    AttachOutcome attach parsers
      (∃ answer, AccessStep.advance () answer ∈ schedule ∧ answer.saved = .cutShort)
      final.stores.content (final.phases ()) := by
  refine (run_induction (motive := fun taken state => (∀ step ∈ taken, step ∈ schedule) →
    AttachOutcome attach parsers
      (∃ answer, AccessStep.advance () answer ∈ schedule ∧ answer.saved = .cutShort)
      state.stores.content (state.phases ())) ?_ ?_ reached) fun _ member => member
  · exact fun _ => ⟨origin.symm, built.registered⟩
  · intro earlier state action after _ outcome taken within
    have before := outcome fun step member => within step (List.mem_append_left _ member)
    cases action with
    | advance id answer =>
        have moved := (AccessSystem.step_advance taken).1
        refine before.advance (fun cutShort => ⟨answer, within _ ?_, cutShort⟩) moved
        exact List.mem_append_right _ (List.mem_singleton_self _)
    | bind ruleId succeeds =>
        cases taken
        rw [AccessStores.content_bind]
        exact before

/-- A failed attach leaves the detached flags alone.  The endpoints before the one that fails
stay attached, the records and rules of all other entries are as they were before the call, and
if it fails at the first endpoint nothing has changed.  Only the rule of the failing endpoint may
be gone where the service was detached, and only a save that is cut short loses the records. -/
theorem attach_failed (parsers : AddressParsers) (peerId : String) (service : DeviceService)
    (entry : Option String) (localPort : Option UInt16) (stores : AccessStores)
    (schedule : List (AccessStep Unit)) (final : AccessSystem Unit) (error : Error)
    (built : stores.rules.Built parsers)
    (reached : run (AccessSystem.step parsers fun _ => .attach peerId service entry localPort)
      (AccessSystem.start stores) schedule = some final)
    (returned : final.phases () = .returned (.error error)) :
    Failed { origin := stores.content, peerId, service, entry, localPort }
      (∃ answer, AccessStep.advance () answer ∈ schedule ∧ answer.saved = .cutShort)
      final.stores.content := by
  have outcome := AttachOutcome.of_run
    { origin := stores.content, peerId, service, entry, localPort } built rfl reached
  rw [returned] at outcome
  exact outcome

/-- The free port is the one offered. -/
def AccessAnswer.offering (port : UInt16) : AccessAnswer :=
  { AccessAnswer.calm with freePort := fun _ => some port }

/-- A port is offered for the first endpoint, and none for the second. -/
private def secondFails : List (AccessStep Unit) :=
  List.replicate 3 (.advance () .calm) ++ [.advance () (.offering 8080)] ++
    List.replicate 5 (.advance () .calm)

theorem attach_failed_second :
    ∃ final error, run (AccessSystem.step .loopback fun _ => .attach webPeer webService none none)
        (AccessSystem.start nothingSaved) secondFails = some final ∧
      final.phases () = .returned (.error error) ∧
      Failed { origin := nothingSaved.content, peerId := webPeer, service := webService,
               entry := none, localPort := none }
        (∃ answer, AccessStep.advance () answer ∈ secondFails ∧ answer.saved = .cutShort)
        final.stores.content := by
  have evaluated : ((run (AccessSystem.step .loopback fun _ => .attach webPeer webService none none)
      (AccessSystem.start nothingSaved) secondFails).map fun final =>
        (final.phases ()).hasFailed) = some true := by
    decide +kernel
  obtain ⟨final, reached, failed⟩ := Option.map_eq_some_iff.mp evaluated
  obtain ⟨error, returned⟩ := AccessPhase.hasFailed_iff.mp failed
  exact ⟨final, error, reached, returned, attach_failed .loopback webPeer webService none none
    nothingSaved secondFails final error .empty reached returned⟩

/-- The rule of the entry `http` at a port. -/
def httpEntryRule (localPort : UInt16) : ForwardingRule :=
  recordRule (webRecord "http" localPort) "/web/http"

/-- The entry `http` is active on a service that is detached. -/
def httpDetached : AccessStores :=
  { webSaved with
    rules := (∅ : ForwardingRules).insert (generateForwardingRuleId (httpEntryRule 8080))
      { rule := httpEntryRule 8080, task := .starting }
    detachedServices := fun key => key = (webPeer, "web") }

theorem httpDetached_built : httpDetached.rules.Built .loopback := by
  have started : (∅ : ForwardingRules).addForwardingRule .loopback (httpEntryRule 8080) =
      .ok (generateForwardingRuleId (httpEntryRule 8080), httpDetached.rules) := by
    rw [ForwardingRules.addForwardingRule, if_neg (by simp)]
    rfl
  exact .added .empty started

/-- The save after some steps comes out as given. -/
private def savedAfter (steps : Nat) (outcome : PreferenceSave) (rest : Nat) :
    List (AccessStep Unit) :=
  List.replicate steps (.advance () .calm) ++
    [.advance () { AccessAnswer.calm with saved := outcome }] ++
    List.replicate rest (.advance () .calm)

/-- The second endpoint finds no port, and the first stays attached with its record and its rule.
A detached service loses the rule that was to be replaced.  A save cut short leaves no records. -/
theorem attach_failed_not_restored :
    (∃ final, run (AccessSystem.step .loopback fun _ => .attach webPeer webService none none)
        (AccessSystem.start nothingSaved) secondFails = some final ∧
      (final.phases ()).hasFailed = true ∧
      final.stores.preferences = some [webRecord "http" 8080] ∧
      final.stores.content.rules (generateForwardingRuleId (httpEntryRule 8080)) =
        some (httpEntryRule 8080)) ∧
    (httpDetached.rules.Built .loopback ∧ ∃ final, run (AccessSystem.step .loopback fun _ =>
          .attach webPeer webService (some "http") (some 9090))
        (AccessSystem.start httpDetached) (savedAfter 6 .refused 3) = some final ∧
      (final.phases ()).hasFailed = true ∧
      httpDetached.content.rules (generateForwardingRuleId (httpEntryRule 8080)) =
        some (httpEntryRule 8080) ∧
      final.stores.content.rules (generateForwardingRuleId (httpEntryRule 8080)) = none) ∧
    ∃ final, run (AccessSystem.step .loopback fun _ =>
          .attach webPeer webService (some "http") none)
        (AccessSystem.start webSaved) (savedAfter 5 .cutShort 2) = some final ∧
      (final.phases ()).hasFailed = true ∧ final.stores.preferences = none := by
  refine ⟨?_, ?_, ?_⟩
  · have evaluated : ((run (AccessSystem.step .loopback fun _ =>
        .attach webPeer webService none none) (AccessSystem.start nothingSaved) secondFails).map
        fun final => decide ((final.phases ()).hasFailed = true ∧
          final.stores.preferences = some [webRecord "http" 8080] ∧
          final.stores.content.rules (generateForwardingRuleId (httpEntryRule 8080)) =
            some (httpEntryRule 8080))) = some true := by
      decide +kernel
    obtain ⟨final, reached, facts⟩ := Option.map_eq_some_iff.mp evaluated
    exact ⟨final, reached, of_decide_eq_true facts⟩
  · have evaluated : ((run (AccessSystem.step .loopback fun _ =>
        .attach webPeer webService (some "http") (some 9090)) (AccessSystem.start httpDetached)
        (savedAfter 6 .refused 3)).map fun final => decide ((final.phases ()).hasFailed = true ∧
          httpDetached.content.rules (generateForwardingRuleId (httpEntryRule 8080)) =
            some (httpEntryRule 8080) ∧
          final.stores.content.rules (generateForwardingRuleId (httpEntryRule 8080)) = none)) =
        some true := by
      decide +kernel
    obtain ⟨final, reached, facts⟩ := Option.map_eq_some_iff.mp evaluated
    exact ⟨httpDetached_built, final, reached, of_decide_eq_true facts⟩
  · have evaluated : ((run (AccessSystem.step .loopback fun _ =>
        .attach webPeer webService (some "http") none) (AccessSystem.start webSaved)
        (savedAfter 5 .cutShort 2)).map fun final => decide ((final.phases ()).hasFailed = true ∧
          final.stores.preferences = none)) = some true := by
      decide +kernel
    obtain ⟨final, reached, facts⟩ := Option.map_eq_some_iff.mp evaluated
    exact ⟨final, reached, of_decide_eq_true facts⟩

end Fungi.Daemon.ServiceAccesses
