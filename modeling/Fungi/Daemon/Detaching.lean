import Fungi.Daemon.ServiceAccesses

/-!
# Detaching

What one `detach` does to the rules of its service, whatever other calls do beside it: it
lists them and takes them out one by one, and fails at the first that is gone.
-/

namespace Fungi.Daemon.ServiceAccesses

open Fungi.Config Fungi.Lib

variable {peerId serviceName : String}

/-- The rules that a removal has listed and not yet come to. -/
def AccessPhase.pending : AccessPhase → List String
  | .removing _ ruleIds => ruleIds
  | _ => []

/-- Where the detach can be as long as it has not failed. -/
def DetachPhase (peerId serviceName : String) (phase : AccessPhase) : Prop :=
  phase = .ready ∨ phase = .listing (.detach peerId serviceName) ∨
    (∃ ruleIds, phase = .removing (.detach peerId serviceName) ruleIds) ∨
    phase = .returned (.ok none)

/-- Where the detach can be. -/
def DetachCall (peerId serviceName : String) (phase : AccessPhase) : Prop :=
  DetachPhase peerId serviceName phase ∨ ∃ error, phase = .returned (.error error)

/-- What one step of a detach does to the stores. -/
inductive DetachChange (peerId serviceName : String) (stores : AccessStores)
    (phase : AccessPhase) (next : AccessStores) (phase' : AccessPhase) : Prop where
  | flags (ready : phase = .ready) (same : next = stores.setDetached peerId serviceName true)
      (listing : phase' = .listing (.detach peerId serviceName))
  | keeps (entered : phase ≠ .ready) (same : next = stores)
  | takes (ruleId : String) (entered : phase ≠ .ready) (takes : phase.takes = some ruleId)
      (same : next = { stores with rules := stores.rules.erase ruleId })

theorem DetachCall.advance {stores next : AccessStores} {parsers : AddressParsers}
    {answer : AccessAnswer} {phase phase' : AccessPhase}
    (detaching : DetachCall peerId serviceName phase)
    (taken : stores.advance parsers (.detach peerId serviceName) answer phase =
      some (next, phase')) :
    DetachCall peerId serviceName phase' ∧
      DetachChange peerId serviceName stores phase next phase' := by
  rcases detaching with (ready | listing | ⟨ruleIds, removing⟩ | returned) | ⟨error, failed⟩
  · rw [ready] at taken
    cases taken
    exact ⟨Or.inl (Or.inr (Or.inl rfl)), .flags ready rfl rfl⟩
  · rw [listing] at taken
    cases taken
    exact ⟨Or.inl (Or.inr (Or.inr (Or.inl ⟨_, rfl⟩))), .keeps (by rw [listing]; nofun) rfl⟩
  · have entered : phase ≠ .ready := by
      rw [removing]
      nofun
    cases ruleIds with
    | nil =>
        rw [removing] at taken
        cases taken
        exact ⟨Or.inl (Or.inr (Or.inr (Or.inr rfl))), .keeps entered rfl⟩
    | cons ruleId rest =>
        have takes : phase.takes = some ruleId := by
          rw [removing]
          rfl
        rw [removing] at taken
        dsimp only [AccessStores.advance] at taken
        split at taken
        · cases taken
          exact ⟨Or.inr ⟨_, rfl⟩, .keeps entered rfl⟩
        · next removed =>
            cases taken
            obtain ⟨-, rfl⟩ := AccessStores.takeOut_eq_ok removed
            exact ⟨Or.inl (Or.inr (Or.inr (Or.inl ⟨_, rfl⟩))), .takes ruleId entered takes rfl⟩
  · rw [returned] at taken
    cases taken
  · rw [failed] at taken
    cases taken

/-- The rules have been listed by the detach. -/
def HasListed (phase : AccessPhase) : Prop :=
  phase ≠ .ready ∧ ∀ purpose, phase ≠ .listing purpose

/-- The rules listed are in the table, and no rule of the service is left out, save those
that are `elsewhere`. -/
structure RemovesAll (peerId serviceName : String) (elsewhere : String → Prop)
    (rules : ForwardingRules) (phase : AccessPhase) : Prop where
  detaching : DetachPhase peerId serviceName phase
  listed : ∀ ruleId ∈ phase.pending, ruleId ∈ rules
  nodup : phase.pending.Nodup
  accounted : HasListed phase → ∀ (ruleId : String) (rule : ForwardingRuleState),
    rules[ruleId]? = some rule → rule.rule.OfService peerId serviceName →
      ruleId ∈ phase.pending ∨ elsewhere ruleId

namespace RemovesAll

variable {elsewhere : String → Prop} {stores next : AccessStores} {phase phase' : AccessPhase}
  {parsers : AddressParsers} {answer : AccessAnswer}

/-- Before it has listed anything, a detach has nothing to account for. -/
theorem of_unlisted (rules : ForwardingRules)
    (unlisted : phase = .ready ∨ phase = .listing (.detach peerId serviceName)) :
    RemovesAll peerId serviceName elsewhere rules phase := by
  rcases unlisted with ready | listing
  · rw [ready]
    refine ⟨Or.inl rfl, nofun, List.nodup_nil, ?_⟩
    intro listed
    exact absurd rfl listed.1
  · rw [listing]
    refine ⟨Or.inr (Or.inl rfl), nofun, List.nodup_nil, ?_⟩
    intro listed
    exact absurd rfl (listed.2 _)

/-- A detach takes its next step, which cannot fail. -/
theorem advance (removes : RemovesAll peerId serviceName elsewhere stores.rules phase)
    (taken : stores.advance parsers (.detach peerId serviceName) answer phase =
      some (next, phase')) :
    RemovesAll peerId serviceName elsewhere next.rules phase' := by
  rcases removes.detaching with ready | listing | ⟨ruleIds, removing⟩ | returned
  · rw [ready] at taken
    cases taken
    exact of_unlisted _ (Or.inr rfl)
  · rw [listing] at taken
    cases taken
    refine ⟨Or.inr (Or.inr (Or.inl ⟨_, rfl⟩)), ?_, ?_, ?_⟩
    · intro ruleId pending
      obtain ⟨item, member, rfl⟩ := List.mem_map.mp pending
      obtain ⟨task, present⟩ := ForwardingRules.mem_getForwardingRules.mp
        (List.mem_filter.mp member).1
      exact Std.ExtTreeMap.mem_iff_isSome_getElem?.mpr (present ▸ rfl)
    · exact (ForwardingRules.nodup_getForwardingRules _ answer.order).sublist
        (List.filter_sublist.map _)
    · intro _ ruleId rule present ofService
      left
      apply List.mem_map.mpr
      refine ⟨(ruleId, rule.rule), List.mem_filter.mpr ⟨?_, ?_⟩, rfl⟩
      · exact ForwardingRules.mem_getForwardingRules.mpr ⟨rule.task, present⟩
      · exact decide_eq_true ofService
  · have listed := removes.listed
    have nodup := removes.nodup
    have accounted := removes.accounted (by rw [removing]; exact ⟨nofun, nofun⟩)
    rw [removing] at taken listed nodup accounted
    cases ruleIds with
    | nil =>
        cases taken
        exact ⟨Or.inr (Or.inr (Or.inr rfl)), nofun, List.nodup_nil, fun _ => accounted⟩
    | cons ruleId rest =>
        have present := listed ruleId List.mem_cons_self
        obtain ⟨fresh, nodupRest⟩ := List.nodup_cons.mp nodup
        dsimp only [AccessStores.advance] at taken
        rw [AccessStores.takeOut_of_mem present] at taken
        cases taken
        refine ⟨Or.inr (Or.inr (Or.inl ⟨rest, rfl⟩)), ?_, nodupRest, ?_⟩
        · intro other member
          have different : ruleId ≠ other := by
            intro same
            exact fresh (same ▸ member)
          exact Std.ExtTreeMap.mem_erase.mpr
            ⟨by simpa using different, listed other (List.mem_cons_of_mem _ member)⟩
        · intro _ other rule found ofService
          obtain ⟨different, before⟩ := ForwardingRules.getElem?_of_erase found
          exact (accounted other rule before ofService).imp_left
            (List.mem_of_ne_of_mem different)
  · rw [returned] at taken
    cases taken

/-- The task of a rule binds its address, or fails to. -/
theorem bind {rules : ForwardingRules}
    (removes : RemovesAll peerId serviceName elsewhere rules phase) (ruleId : String)
    (succeeds : Bool) : RemovesAll peerId serviceName elsewhere (rules.bind ruleId succeeds)
      phase := by
  refine { removes with listed := ?_, accounted := ?_ }
  · intro listed pending
    exact ForwardingRules.mem_bind.mpr (removes.listed listed pending)
  · intro listed found rule present ofService
    obtain ⟨before, existing, same, -⟩ := ForwardingRules.getElem?_bind present
    rw [← same] at ofService
    exact removes.accounted listed found before existing ofService

end RemovesAll

end Fungi.Daemon.ServiceAccesses
