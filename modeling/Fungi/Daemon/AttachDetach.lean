import Fungi.Daemon.Attaching
import Fungi.Daemon.Detaching

/-!
# Attaching against detaching

One `attach` of a service and one `detach` of it, with their steps in any order.  An attach
holds the `operations` lock, and a detach does not take it.  A restore looks at the set of
detached services again after it has added a rule; an attach does not.
-/

namespace Fungi.Daemon.ServiceAccesses

open Fungi.Config Fungi.Lib Fungi.Runtime

/-- The two calls. -/
inductive AttachOrDetach where
  | attach
  | detach
  deriving DecidableEq

/-- The two calls of a run, for one service of one peer. -/
def AttachOrDetach.call (peerId : String) (service : DeviceService) (entry : Option String)
    (localPort : Option UInt16) : AttachOrDetach → AccessCall
  | .attach => .attach peerId service entry localPort
  | .detach => .detach peerId service.name

/-- The attach has cleared the detached flag. -/
def AccessPhase.hasCleared : AccessPhase → Bool
  | .unlocking (.ok (some _)) => true
  | .returned (.ok (some _)) => true
  | _ => false

/-- The outcome of the attach after the detach: every selected endpoint has a rule. -/
def Attached (peerId : String) (service : DeviceService) (entry : Option String)
    (stores : AccessStores) : Prop :=
  (∀ endpoint ∈ selectedEndpoints service entry, ∃ (ruleId : String) (rule : ForwardingRuleState),
    stores.rules[ruleId]? = some rule ∧
      rule.rule.IsFor (peerId, service.name, endpoint.name)) ∧
    stores.isDetached peerId service.name = false

/-- The outcome of the detach after the attach: no rule of the service is left. -/
def Detached (peerId serviceName : String) (stores : AccessStores) : Prop :=
  (∀ (ruleId : String) (rule : ForwardingRuleState), stores.rules[ruleId]? = some rule →
    ¬ rule.rule.OfService peerId serviceName) ∧
    stores.isDetached peerId serviceName = true

/-- Once the attach has succeeded and the detach has returned, the outcome is that of one
after the other. -/
def AttachedOrDetached (peerId : String) (service : DeviceService) (entry : Option String)
    (state : AccessSystem AttachOrDetach) : Prop :=
  ∀ access result, state.phases .attach = .returned (.ok (some access)) →
    state.phases .detach = .returned result →
    Attached peerId service entry state.stores ∨ Detached peerId service.name state.stores

/-- The attach takes no rule for one of its endpoint that is gone, and the detach takes out no
rule that the attach counts on, unless the attach had cleared the flag before. -/
def KeepsAttached (peerId serviceName : String) (state : AccessSystem AttachOrDetach) :
    AccessStep AttachOrDetach → Prop
  | .advance .attach answer =>
      ∀ ruleId ∈ (state.phases .attach).reuses answer, ruleId ∈ state.stores.rules
  | .advance .detach _ => ∀ ruleId ∈ (state.phases .detach).takes,
      ((state.phases .attach).hasCleared = true ∧
        state.stores.isDetached peerId serviceName = true) ∨
      ∀ rule ∈ state.stores.rules[ruleId]?, ∀ name ∈ (state.phases .attach).attached,
        ¬ rule.rule.IsFor (peerId, serviceName, name)
  | .bind _ _ => True

instance decidableKeepsAttached (peerId serviceName : String)
    (state : AccessSystem AttachOrDetach) :
    (action : AccessStep AttachOrDetach) →
      Decidable (KeepsAttached peerId serviceName state action)
  | .advance .attach answer =>
      inferInstanceAs (Decidable (∀ ruleId ∈ (state.phases .attach).reuses answer,
        ruleId ∈ state.stores.rules))
  | .advance .detach _ =>
      inferInstanceAs (Decidable (∀ ruleId ∈ (state.phases .detach).takes,
        ((state.phases .attach).hasCleared = true ∧
          state.stores.isDetached peerId serviceName = true) ∨
        ∀ rule ∈ state.stores.rules[ruleId]?, ∀ name ∈ (state.phases .attach).attached,
          ¬ rule.rule.IsFor (peerId, serviceName, name)))
  | .bind _ _ => isTrue trivial

section Clearing

variable {stores next : AccessStores} {parsers : AddressParsers} {answer : AccessAnswer}
  {phase phase' : AccessPhase} {peerId : String} {service : DeviceService} {entry : Option String}
  {localPort : Option UInt16}

theorem hasCleared_failPuttingBack (removed : Option ForwardingRule) (error : Error) :
    (failPuttingBack removed error).hasCleared = false := by
  cases removed with
  | none => rfl
  | some rule => rfl

theorem hasCleared_returned (result : AccessResult) :
    (AccessPhase.returned result).hasCleared = (AccessPhase.unlocking result).hasCleared := by
  cases result with
  | error error => rfl
  | ok access =>
      cases access with
      | none => rfl
      | some access => rfl

/-- The flag is cleared in one step, after which the attach only returns. -/
theorem hasCleared_advance
    (taken : stores.advance parsers (.attach peerId service entry localPort) answer phase =
      some (next, phase'))
    (progress : AttachProgress peerId service entry stores.rules phase)
    (cleared : phase'.hasCleared = true) :
    next.isDetached peerId service.name = false ∨
      phase.hasCleared = true ∧ next.rules = stores.rules ∧
        next.detachedServices = stores.detachedServices := by
  cases phase with
  | ready =>
      dsimp only [AccessStores.advance, AccessStores.enter] at taken
      split at taken
      · cases taken
        cases cleared
      · split at taken
        · cases taken
          cases cleared
        · unfold AccessStores.lock at taken
          split at taken
          · cases taken
          · cases taken
            cases cleared
  | locked =>
      dsimp only [AccessStores.advance, AccessStores.enterLocked] at taken
      split at taken
      · cases taken
        cases cleared
      · cases taken
        cases cleared
  | preferencesRead preferences =>
      dsimp only [AccessStores.advance, AccessStores.withPreferences] at taken
      split at taken
      · cases taken
        cases cleared
      · cases taken
        cases cleared
  | attaching loop =>
      have move := congrArg Prod.snd (Option.some.inj taken)
      have turn := attachTurn_attachNext stores answer loop
      dsimp only at move
      rw [move] at turn
      cases turn with
      | _ => cases cleared
  | replacing loop plan ruleId rule =>
      dsimp only [AccessStores.advance] at taken
      split at taken
      · cases taken
        cases cleared
      · cases taken
        cases cleared
  | starting loop plan removed =>
      dsimp only [AccessStores.advance] at taken
      split at taken
      · cases taken
        rw [hasCleared_failPuttingBack] at cleared
        cases cleared
      · cases taken
        cases cleared
  | saving loop plan removed started =>
      dsimp only [AccessStores.advance] at taken
      split at taken
      · split at taken
        · cases taken
          cases cleared
        · cases taken
          cases cleared
      · split at taken
        · cases taken
          cases cleared
        · cases taken
          rw [hasCleared_failPuttingBack] at cleared
          cases cleared
  | rollingBack removed started error =>
      dsimp only [AccessStores.advance] at taken
      split at taken
      · cases taken
        rw [hasCleared_failPuttingBack] at cleared
        cases cleared
      · cases taken
        rw [hasCleared_failPuttingBack] at cleared
        cases cleared
  | rereading loop plan =>
      cases taken
      cases cleared
  | clearing access =>
      cases taken
      left
      rw [← progress.peer, ← progress.named]
      exact Function.update_self _ _ _
  | rechecking rule ruleId result =>
      obtain ⟨error, rfl⟩ := progress
      dsimp only [AccessStores.advance] at taken
      split at taken
      · cases taken
        cases cleared
      · cases taken
        cases cleared
  | retracting ruleId result =>
      obtain ⟨error, rfl⟩ := progress
      dsimp only [AccessStores.advance] at taken
      split at taken
      · cases taken
        cases cleared
      · cases taken
        cases cleared
  | reattaching rule error =>
      dsimp only [AccessStores.advance] at taken
      split at taken
      · cases taken
        cases cleared
      · cases taken
        cases cleared
  | readding rule error =>
      dsimp only [AccessStores.advance] at taken
      split at taken
      · cases taken
        cases cleared
      · cases taken
        cases cleared
  | unlocking result =>
      cases taken
      right
      exact ⟨hasCleared_returned result ▸ cleared, rfl, rfl⟩
  | returned result => cases taken
  | _ => cases progress

/-- An attach that has cleared the flag has only to return. -/
theorem hasCleared_stays {call : AccessCall}
    (taken : stores.advance parsers call answer phase = some (next, phase'))
    (cleared : phase.hasCleared = true) :
    phase'.hasCleared = true ∧ next.detachedServices = stores.detachedServices := by
  cases phase with
  | unlocking result =>
      cases taken
      exact ⟨hasCleared_returned result ▸ cleared, rfl⟩
  | returned result => cases taken
  | _ => cases cleared

end Clearing

/-- The detach has begun after the attach was done. -/
def DetachedLast (peerId serviceName : String) (state : AccessSystem AttachOrDetach) : Prop :=
  (state.phases .attach).hasCleared = true ∧ state.stores.isDetached peerId serviceName = true

/-- As long as the detach has not begun last, what the attach counts on is in the table; and
if it has, it takes out all the rules. -/
structure AttachingAndDetaching (peerId : String) (service : DeviceService) (entry : Option String)
    (state : AccessSystem AttachOrDetach) : Prop where
  progress : AttachProgress peerId service entry state.stores.rules (state.phases .attach)
  detaching : DetachCall peerId service.name (state.phases .detach)
  covered : ¬ DetachedLast peerId service.name state →
    Covered peerId service.name state.stores.rules (state.phases .attach).attached
  removes : DetachedLast peerId service.name state →
    RemovesAll peerId service.name (fun _ => False) state.stores.rules (state.phases .detach)

namespace AttachingAndDetaching

variable {peerId : String} {service : DeviceService} {entry : Option String}
  {localPort : Option UInt16} {parsers : AddressParsers}
  {state next : AccessSystem AttachOrDetach} {answer : AccessAnswer}

theorem start (peerId : String) (service : DeviceService) (entry : Option String)
    (stores : AccessStores) :
    AttachingAndDetaching peerId service entry (AccessSystem.start stores) := by
  refine ⟨trivial, Or.inl (Or.inl rfl), fun _ => covered_nil _, ?_⟩
  intro last
  cases last.1

theorem attachStep (both : AttachingAndDetaching peerId service entry state)
    (present : ∀ ruleId ∈ (state.phases .attach).reuses answer, ruleId ∈ state.stores.rules)
    (taken : state.stores.advance parsers (.attach peerId service entry localPort) answer
      (state.phases .attach) = some (next.stores, next.phases .attach))
    (other : next.phases .detach = state.phases .detach) :
    AttachingAndDetaching peerId service entry next := by
  refine ⟨both.progress.advance taken, other ▸ both.detaching, ?_, ?_⟩
  · intro notLast
    have notBefore : ¬ DetachedLast peerId service.name state := by
      intro last
      obtain ⟨cleared, flags⟩ := hasCleared_stays taken last.1
      apply notLast
      refine ⟨cleared, ?_⟩
      have flagged := last.2
      unfold AccessStores.isDetached at flagged ⊢
      rw [flags]
      exact flagged
    exact (both.covered notBefore).advance both.progress present taken
  · intro last
    rcases hasCleared_advance taken both.progress last.1 with cleared | ⟨before, rules, flags⟩
    · rw [last.2] at cleared
      cases cleared
    · have lastBefore : DetachedLast peerId service.name state := by
        refine ⟨before, ?_⟩
        have flagged := last.2
        unfold AccessStores.isDetached at flagged ⊢
        rw [← flags]
        exact flagged
      rw [rules, other]
      exact both.removes lastBefore

theorem detachStep (both : AttachingAndDetaching peerId service entry state)
    (keeps : KeepsAttached peerId service.name state (.advance .detach answer))
    (taken : state.stores.advance parsers (.detach peerId service.name) answer
      (state.phases .detach) = some (next.stores, next.phases .detach))
    (other : next.phases .attach = state.phases .attach) :
    AttachingAndDetaching peerId service entry next := by
  obtain ⟨detaching, change⟩ := both.detaching.advance taken
  cases change with
  | flags ready same listing =>
      have rules : next.stores.rules = state.stores.rules := by
        rw [same]
        rfl
      refine ⟨?_, detaching, ?_, ?_⟩
      · rw [rules, other]
        exact both.progress
      · intro notLast
        rw [rules, other]
        apply both.covered
        intro last
        apply notLast
        refine ⟨other ▸ last.1, ?_⟩
        rw [same]
        exact Function.update_self _ _ _
      · intro last
        exact RemovesAll.of_unlisted _ (Or.inr listing)
  | keeps entered same =>
      have lastIff : DetachedLast peerId service.name next ↔
          DetachedLast peerId service.name state := by
        unfold DetachedLast
        rw [other, same]
      refine ⟨?_, detaching, ?_, ?_⟩
      · rw [same, other]
        exact both.progress
      · intro notLast
        rw [same, other]
        exact both.covered (mt lastIff.mpr notLast)
      · intro last
        exact (both.removes (lastIff.mp last)).advance taken
  | takes ruleId entered takes same =>
      have lastIff : DetachedLast peerId service.name next ↔
          DetachedLast peerId service.name state := by
        unfold DetachedLast
        rw [other, same]
        rfl
      have rules : next.stores.rules = state.stores.rules.erase ruleId := by rw [same]
      refine ⟨?_, detaching, ?_, ?_⟩
      · rw [rules, other]
        exact both.progress.within (ForwardingRules.erase_within _ ruleId)
      · intro notLast
        rw [rules, other]
        apply (both.covered (mt lastIff.mpr notLast)).erase
        intro rule present
        exact (keeps ruleId takes).resolve_left (mt lastIff.mpr notLast) rule present
      · intro last
        exact (both.removes (lastIff.mp last)).advance taken

theorem bind (both : AttachingAndDetaching peerId service entry state) (ruleId : String)
    (succeeds : Bool) :
    AttachingAndDetaching peerId service entry
      { state with stores := { state.stores with
          rules := state.stores.rules.bind ruleId succeeds } } :=
  ⟨both.progress.within (ForwardingRules.bind_within _ ruleId succeeds), both.detaching,
    fun notLast => (both.covered notLast).within (ForwardingRules.within_bind _ ruleId succeeds),
    fun last => (both.removes last).bind ruleId succeeds⟩

theorem step (both : AttachingAndDetaching peerId service entry state)
    {action : AccessStep AttachOrDetach} (keeps : KeepsAttached peerId service.name state action)
    (taken : state.step parsers (AttachOrDetach.call peerId service entry localPort) action =
      some next) : AttachingAndDetaching peerId service entry next := by
  cases action with
  | advance id answer =>
      obtain ⟨advanced, others⟩ := AccessSystem.step_advance taken
      cases id with
      | attach => exact both.attachStep keeps advanced (others .detach nofun)
      | detach => exact both.detachStep keeps advanced (others .attach nofun)
  | bind ruleId succeeds =>
      cases taken
      exact both.bind ruleId succeeds

end AttachingAndDetaching

/-- Where the detach takes out nothing that the attach counts on, the two calls end as one
after the other would. -/
theorem attach_detach_serializable (parsers : AddressParsers) (peerId : String)
    (service : DeviceService) (entry : Option String) (localPort : Option UInt16)
    (stores : AccessStores) (schedule : List (AccessStep AttachOrDetach))
    (state : AccessSystem AttachOrDetach)
    (keeps : EveryStep
      (AccessSystem.step parsers (AttachOrDetach.call peerId service entry localPort))
      (KeepsAttached peerId service.name) (AccessSystem.start stores) schedule)
    (reached : run (AccessSystem.step parsers
        (AttachOrDetach.call peerId service entry localPort))
      (AccessSystem.start stores) schedule = some state) :
    AttachedOrDetached peerId service entry state := by
  have both : AttachingAndDetaching peerId service entry state :=
    invariant_of_everyStep (fun _ _ _ before met taken => before.step met taken)
      (AttachingAndDetaching.start peerId service entry stores) keeps reached
  intro access result attached detached
  have progress := both.progress
  rw [attached] at progress
  obtain ⟨_, same, selects⟩ := progress access rfl
  cases same
  by_cases flagged : state.stores.isDetached peerId service.name = true
  · right
    have removes := both.removes ⟨by rw [attached]; rfl, flagged⟩
    have accounted := removes.accounted (by rw [detached]; exact ⟨nofun, nofun⟩)
    refine ⟨?_, flagged⟩
    intro ruleId rule present ofService
    rcases accounted ruleId rule present ofService with pending | elsewhere
    · rw [detached] at pending
      cases pending
    · exact elsewhere
  · left
    have covered := both.covered fun last => flagged last.2
    rw [attached] at covered
    refine ⟨?_, eq_false_of_ne_true flagged⟩
    intro endpoint selected
    exact covered endpoint.name (selects.selected endpoint selected)

/-! ## A detach in the middle -/

/-- What a call that has returned gives to its caller. -/
def AccessPhase.access : AccessPhase → Option ServiceAccess
  | .returned (.ok (some access)) => some access
  | _ => none

theorem AccessPhase.access_eq_some {phase : AccessPhase} {access : ServiceAccess}
    (returned : phase.access = some access) : phase = .returned (.ok (some access)) := by
  unfold AccessPhase.access at returned
  split at returned
  · cases returned
    rfl
  · cases returned

theorem AccessPhase.hasReturned_iff {phase : AccessPhase} :
    phase.hasReturned = true ↔ ∃ result, phase = .returned result := by
  constructor
  · intro returned
    unfold AccessPhase.hasReturned at returned
    split at returned
    · next result => exact ⟨result, rfl⟩
    · cases returned
  · intro returned
    obtain ⟨result, rfl⟩ := returned
    rfl

/-- The access to both entries of the service. -/
def webAccess : ServiceAccess :=
  { peerId := webPeer
    serviceName := "web"
    endpoints := [
      { name := "http", protocol := "/web/http", localHost := "127.0.0.1", localPort := 8080 },
      { name := "ssh", protocol := "/web/ssh", localHost := "127.0.0.1", localPort := 2222 }] }

/-- The detach runs to its end before the attach begins. -/
private def detachFirst : List (AccessStep AttachOrDetach) :=
  List.replicate 3 (.advance .detach .calm) ++ List.replicate 14 (.advance .attach .calm)

/-- The detach runs between two steps of the attach. -/
private def detachBetween : List (AccessStep AttachOrDetach) :=
  List.replicate 7 (.advance .attach .calm) ++ List.replicate 4 (.advance .detach .calm) ++
    List.replicate 7 (.advance .attach .calm)

theorem attach_detach_serializable_detachFirst :
    ∃ state, run (AccessSystem.step .loopback (AttachOrDetach.call webPeer webService none none))
        (AccessSystem.start webSaved) detachFirst = some state ∧
      (state.phases .attach).access = some webAccess ∧
      (state.phases .detach).hasReturned = true ∧
      AttachedOrDetached webPeer webService none state := by
  have evaluated : ((run (AccessSystem.step .loopback
      (AttachOrDetach.call webPeer webService none none)) (AccessSystem.start webSaved)
      detachFirst).map fun state => decide ((state.phases .attach).access = some webAccess) &&
        (state.phases .detach).hasReturned) = some true := by
    decide +kernel
  obtain ⟨state, reached, facts⟩ := Option.map_eq_some_iff.mp evaluated
  rw [Bool.and_eq_true, decide_eq_true_iff] at facts
  exact ⟨state, reached, facts.1, facts.2,
    attach_detach_serializable .loopback webPeer webService none none webSaved detachFirst state
      (by decide +kernel) reached⟩

/-- The detach comes after the first endpoint has been attached and before the second.  The
attach goes on and clears the flag: the service is attached in part. -/
theorem attach_survives_detach_in_part :
    ∃ state, run (AccessSystem.step .loopback (AttachOrDetach.call webPeer webService none none))
        (AccessSystem.start webSaved) detachBetween = some state ∧
      (state.phases .attach).access = some webAccess ∧
      (state.phases .detach).hasReturned = true ∧
      state.stores.isDetached webPeer "web" = false ∧
      (∃ entry ∈ state.stores.rules.toList, entry.2.rule.IsFor (webPeer, "web", "ssh")) ∧
      (∀ entry ∈ state.stores.rules.toList, ¬ entry.2.rule.IsFor (webPeer, "web", "http")) ∧
      ¬ AttachedOrDetached webPeer webService none state := by
  have evaluated : ((run (AccessSystem.step .loopback
      (AttachOrDetach.call webPeer webService none none)) (AccessSystem.start webSaved)
      detachBetween).map fun state => decide ((state.phases .attach).access = some webAccess ∧
        (state.phases .detach).hasReturned = true ∧
        state.stores.isDetached webPeer "web" = false ∧
        (∃ entry ∈ state.stores.rules.toList, entry.2.rule.IsFor (webPeer, "web", "ssh")) ∧
        ∀ entry ∈ state.stores.rules.toList, ¬ entry.2.rule.IsFor (webPeer, "web", "http"))) =
      some true := by
    decide +kernel
  obtain ⟨state, reached, facts⟩ := Option.map_eq_some_iff.mp evaluated
  obtain ⟨attached, returned, cleared, second, first⟩ := of_decide_eq_true facts
  refine ⟨state, reached, attached, returned, cleared, second, first, ?_⟩
  intro serial
  obtain ⟨result, detached⟩ := AccessPhase.hasReturned_iff.mp returned
  rcases serial _ result (AccessPhase.access_eq_some attached) detached with both | neither
  · obtain ⟨ruleId, rule, present, isFor⟩ :=
      both.1 { name := "http", protocol := "/web/http" } (by decide)
    exact first (ruleId, rule) (Std.ExtTreeMap.mem_toList_iff_getElem?_eq_some.mpr present) isFor
  · have flagged := neither.2
    rw [show webService.name = "web" from rfl, cleared] at flagged
    cases flagged

end Fungi.Daemon.ServiceAccesses
