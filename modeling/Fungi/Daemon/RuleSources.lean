import Fungi.Daemon.PublishedServices
import Fungi.Daemon.ServiceAccesses

/-!
# Where forwarding rules come from

Every rule for a device has the protocol that the names in the rule are assigned, as long as the
services that are attached and restored have such endpoints.  A call keeps rules beside the table
while it replaces one, so that the fact is about the table and about the calls.
-/

namespace Fungi.Daemon.ServiceAccesses

open Fungi.Config Fungi.Lib Fungi.Runtime Fungi.Util

variable {device : String} {parsers : AddressParsers}

/-- A rule for the device leads to the endpoint that it names. -/
def Leads (device : String) (rule : ForwardingRule) : Prop :=
  rule.remotePeerId = device → ∃ serviceName portName,
    rule.remoteServiceName = some serviceName ∧ rule.remoteServicePortName = some portName ∧
      rule.remoteProtocol = some (servicePortProtocol serviceName portName)

/-- Every rule for the device leads to an endpoint as the device names it. -/
def RulesLead (device : String) (rules : ForwardingRules) : Prop :=
  ∀ (ruleId : String) (state : ForwardingRuleState), rules[ruleId]? = some state →
    Leads device state.rule

/-- A record for the device has the protocol that it names. -/
def RecordLeads (device : String) (record : LocalServicePreference) (protocol : String) : Prop :=
  record.remotePeerId = device →
    protocol = servicePortProtocol record.remoteServiceName record.remoteServicePortName

/-- The call is given endpoints with their protocols. -/
def AccessCall.Leads (device : String) : AccessCall → Prop
  | .attach peerId service _ _ => peerId = device → service.Named
  | .restore candidate endpoint => RecordLeads device candidate endpoint.protocol
  | _ => True

/-- The endpoints and the rules that an attach works with lead where they should. -/
structure AttachLoop.Leads (device : String) (loop : AttachLoop) : Prop where
  endpoints : loop.peerId = device → ∀ endpoint ∈ loop.endpoints,
    endpoint.protocol = servicePortProtocol loop.serviceName endpoint.name
  active : ∀ item ∈ loop.activeRules, ServiceAccesses.Leads device item.2

/-- The record and the protocol of a plan lead where they should. -/
def AttachPlan.Leads (device : String) (plan : AttachPlan) : Prop :=
  RecordLeads device plan.record plan.endpoint.protocol

/-- The record is the one that is to be restored. -/
def Restores (record : LocalServicePreference) (call : AccessCall) : Prop :=
  ∀ candidate endpoint, call = .restore candidate endpoint → record.identity = candidate.identity

/-- The rules and endpoints that a call has in hand. -/
def AccessPhase.Leads (device : String) (call : AccessCall) : AccessPhase → Prop
  | .attaching loop | .rereading loop _ => loop.Leads device
  | .replacing loop plan _ rule =>
      loop.Leads device ∧ plan.Leads device ∧ ServiceAccesses.Leads device rule
  | .starting loop plan removed =>
      loop.Leads device ∧ plan.Leads device ∧ ∀ rule ∈ removed, ServiceAccesses.Leads device rule
  | .saving loop _ removed _ =>
      loop.Leads device ∧ ∀ rule ∈ removed, ServiceAccesses.Leads device rule
  | .rollingBack removed _ _ => ∀ rule ∈ removed, ServiceAccesses.Leads device rule
  | .recordRead record => Restores record call
  | .restoreReplacing record _ rule => Restores record call ∧ ServiceAccesses.Leads device rule
  | .restoreStarting record removed =>
      Restores record call ∧ ∀ rule ∈ removed, ServiceAccesses.Leads device rule
  | .reattaching rule _ | .readding rule _ => ServiceAccesses.Leads device rule
  | _ => True

/-! ## Rules -/

theorem leads_recordRule {record : LocalServicePreference} {protocol : String}
    (leads : RecordLeads device record protocol) : Leads device (recordRule record protocol) := by
  intro isDevice
  exact ⟨_, _, rfl, rfl, congrArg some (leads isDevice)⟩

/-- Records of one identity have one protocol. -/
theorem RecordLeads.of_identity {record other : LocalServicePreference} {protocol : String}
    (leads : RecordLeads device record protocol) (same : other.identity = record.identity) :
    RecordLeads device other protocol := by
  obtain ⟨peer, names⟩ := Prod.mk.inj same
  obtain ⟨service, port⟩ := Prod.mk.inj names
  unfold RecordLeads
  rw [peer, service, port]
  exact leads

theorem RulesLead.listed {rules : ForwardingRules} (lead : RulesLead device rules)
    (order : Arrangement) : ∀ item ∈ rules.getForwardingRules order, Leads device item.2 := by
  rintro ⟨ruleId, rule⟩ member
  obtain ⟨task, found⟩ := ForwardingRules.mem_getForwardingRules.mp member
  exact lead ruleId _ found

theorem RulesLead.erase {rules : ForwardingRules} (lead : RulesLead device rules)
    (ruleId : String) : RulesLead device (rules.erase ruleId) :=
  fun found state present => lead found state (ForwardingRules.getElem?_of_erase present).2

theorem RulesLead.insert {rules : ForwardingRules} (lead : RulesLead device rules)
    {ruleId : String} {state : ForwardingRuleState} (leads : Leads device state.rule) :
    RulesLead device (rules.insert ruleId state) := by
  intro found other present
  rw [getElem?_insert] at present
  split at present
  · exact Option.some.inj present ▸ leads
  · exact lead found other present

theorem RulesLead.bind {rules : ForwardingRules} (lead : RulesLead device rules)
    (ruleId : String) (succeeds : Bool) : RulesLead device (rules.bind ruleId succeeds) := by
  intro found state present
  obtain ⟨before, inTable, same, -⟩ := ForwardingRules.getElem?_bind present
  exact same ▸ lead found before inTable

/-! ## Steps -/

variable {self next : AccessStores} {call : AccessCall} {answer : AccessAnswer}
  {phase phase' : AccessPhase} {loop : AttachLoop} {plan : AttachPlan}

theorem leads_failPuttingBack {removed : Option ForwardingRule} {error : Error}
    (lead : ∀ rule ∈ removed, Leads device rule) :
    (failPuttingBack removed error).Leads device call := by
  cases removed with
  | none => trivial
  | some rule => exact lead rule rfl

/-- The next endpoint of an attach. -/
theorem leads_attachNext (leads : loop.Leads device) :
    (self.attachNext answer loop).2.Leads device call := by
  unfold AccessStores.attachNext
  split
  · trivial
  · next endpoint rest selected =>
      dsimp only
      have remaining : AttachLoop.Leads device { loop with endpoints := rest } := by
        refine ⟨fun isDevice other member => ?_, leads.active⟩
        exact leads.endpoints isDevice other (selected ▸ List.mem_cons_of_mem _ member)
      split
      · trivial
      · next plan planned =>
          have forEndpoint := planEndpoint_eq_ok planned
          obtain ⟨peer, names⟩ := Prod.mk.inj forEndpoint.identity
          obtain ⟨service, port⟩ := Prod.mk.inj names
          have planLeads : plan.Leads device := by
            intro isDevice
            rw [forEndpoint.chosen, service, port]
            exact leads.endpoints (peer.symm.trans isDevice) endpoint
              (selected ▸ List.mem_cons_self)
          split
          · exact ⟨remaining, nofun⟩
          · split
            · next ruleId rule existing =>
                have search := forEndpoint.existing.symm.trans existing
                exact ⟨remaining, planLeads,
                  leads.active _ (findActiveRule_eq_some search).1⟩
            · exact ⟨remaining, planLeads, nofun⟩

theorem leads_withPreferences {preferences : LocalPreferenceCache}
    (offered : call.Leads device) (lead : RulesLead device self.rules)
    (taken : self.withPreferences answer preferences call = some (next, phase')) :
    phase'.Leads device call := by
  unfold AccessStores.withPreferences at taken
  split at taken
  · next peerId service entry localPort =>
      dsimp only at taken
      split at taken
      · cases taken
        trivial
      · cases taken
        refine ⟨fun isDevice endpoint member => ?_, lead.listed answer.order⟩
        exact offered isDevice endpoint (List.mem_filter.mp member).1
  · cases taken
    trivial
  · cases taken

theorem leads_lock (locked : self.lock phase = some (next, phase'))
    (leads : phase.Leads device call) : phase'.Leads device call := by
  unfold AccessStores.lock at locked
  split at locked
  · cases locked
  · cases locked
    exact leads

theorem leads_enter (taken : self.enter call = some (next, phase')) :
    phase'.Leads device call := by
  unfold AccessStores.enter at taken
  split at taken
  · split at taken
    · cases taken
      trivial
    · split at taken
      · cases taken
        trivial
      · exact leads_lock taken trivial
  · cases taken
    trivial
  · exact leads_lock taken trivial
  · exact leads_lock taken trivial
  · exact leads_lock taken trivial

theorem leads_enterLocked (taken : self.enterLocked answer call = some (next, phase')) :
    phase'.Leads device call := by
  unfold AccessStores.enterLocked at taken
  split at taken
  · split at taken
    · cases taken
      trivial
    · cases taken
      trivial
  · split at taken
    · cases taken
      trivial
    · cases taken
      trivial
  · cases taken
  · cases taken
    trivial
  · split at taken
    · cases taken
      trivial
    · cases taken
      trivial

/-- A step leaves only rules behind that lead to the endpoints they name. -/
theorem leads_advance (offered : call.Leads device) (lead : RulesLead device self.rules)
    (leads : phase.Leads device call)
    (taken : self.advance parsers call answer phase = some (next, phase')) :
    RulesLead device next.rules ∧ phase'.Leads device call := by
  cases phase with
  | ready => exact ⟨AccessStores.enter_rules taken ▸ lead, leads_enter taken⟩
  | locked => exact ⟨AccessStores.enterLocked_rules taken ▸ lead, leads_enterLocked taken⟩
  | preferencesRead preferences =>
      exact ⟨AccessStores.withPreferences_rules taken ▸ lead,
        leads_withPreferences offered lead taken⟩
  | attaching loop =>
      obtain ⟨rfl, rfl⟩ := AccessStores.attachNext_taken taken
      exact ⟨lead, leads_attachNext leads⟩
  | replacing loop plan ruleId rule =>
      obtain ⟨loopLeads, planLeads, ruleLeads⟩ := leads
      dsimp only [AccessStores.advance] at taken
      split at taken
      · cases taken
        exact ⟨lead, trivial⟩
      · next removed =>
          cases taken
          obtain ⟨-, rfl⟩ := AccessStores.takeOut_eq_ok removed
          refine ⟨lead.erase ruleId, loopLeads, planLeads, ?_⟩
          rintro _ ⟨⟩
          exact ruleLeads
  | starting loop plan removed =>
      obtain ⟨loopLeads, planLeads, removedLead⟩ := leads
      dsimp only [AccessStores.advance] at taken
      split at taken
      · cases taken
        exact ⟨lead, leads_failPuttingBack removedLead⟩
      · next ruleId rules started =>
          cases taken
          obtain ⟨-, rfl⟩ := startForwardingRule_eq_ok started
          exact ⟨lead.insert (leads_recordRule planLeads), loopLeads, removedLead⟩
  | saving loop plan removed started =>
      obtain ⟨loopLeads, removedLead⟩ := leads
      dsimp only [AccessStores.advance] at taken
      split at taken
      · split at taken
        · cases taken
          exact ⟨lead, loopLeads.endpoints, loopLeads.active⟩
        · cases taken
          exact ⟨lead, loopLeads⟩
      · split at taken
        · cases taken
          exact ⟨lead, removedLead⟩
        · cases taken
          exact ⟨lead, leads_failPuttingBack removedLead⟩
  | rollingBack removed started error =>
      dsimp only [AccessStores.advance] at taken
      split at taken
      · cases taken
        exact ⟨lead, leads_failPuttingBack leads⟩
      · next erased =>
          cases taken
          obtain ⟨-, rfl⟩ := AccessStores.takeOut_eq_ok erased
          exact ⟨lead.erase started, leads_failPuttingBack leads⟩
  | rereading loop plan =>
      cases taken
      exact ⟨lead, leads.endpoints, lead.listed answer.order⟩
  | clearing access =>
      cases taken
      exact ⟨lead, trivial⟩
  | restoring =>
      dsimp only [AccessStores.advance] at taken
      split at taken
      · next candidate endpoint =>
          split at taken
          · cases taken
            exact ⟨lead, trivial⟩
          · split at taken
            · cases taken
              exact ⟨lead, trivial⟩
            · next record found =>
                cases taken
                refine ⟨lead, ?_⟩
                rintro _ _ ⟨⟩
                simpa using List.find?_some found
      · cases taken
  | recordRead record =>
      dsimp only [AccessStores.advance] at taken
      split at taken
      · next candidate endpoint =>
          obtain ⟨rfl, rfl⟩ := AccessStores.restoreRecord_taken taken
          refine ⟨lead, ?_⟩
          unfold AccessStores.restoreRecord
          split
          · exact ⟨leads, nofun⟩
          · next ruleId rule existing =>
              split
              · trivial
              · exact ⟨leads, lead.listed answer.order _ (findActiveRule_eq_some existing).1⟩
      · cases taken
  | restoreReplacing record ruleId rule =>
      obtain ⟨restores, ruleLeads⟩ := leads
      dsimp only [AccessStores.advance] at taken
      split at taken
      · cases taken
        exact ⟨lead, trivial⟩
      · next removed =>
          cases taken
          obtain ⟨-, rfl⟩ := AccessStores.takeOut_eq_ok removed
          refine ⟨lead.erase ruleId, restores, ?_⟩
          rintro _ ⟨⟩
          exact ruleLeads
  | restoreStarting record removed =>
      obtain ⟨restores, removedLead⟩ := leads
      dsimp only [AccessStores.advance] at taken
      split at taken
      · next candidate endpoint =>
          split at taken
          · cases taken
            exact ⟨lead, leads_failPuttingBack removedLead⟩
          · next ruleId rules started =>
              cases taken
              obtain ⟨-, rfl⟩ := startForwardingRule_eq_ok started
              have recordLeads : RecordLeads device record endpoint.protocol :=
                RecordLeads.of_identity offered (restores candidate endpoint rfl)
              exact ⟨lead.insert (leads_recordRule recordLeads), trivial⟩
      · cases taken
  | rechecking rule ruleId result =>
      dsimp only [AccessStores.advance] at taken
      split at taken
      · cases taken
        exact ⟨lead, trivial⟩
      · cases taken
        exact ⟨lead, trivial⟩
  | retracting ruleId result =>
      dsimp only [AccessStores.advance] at taken
      split at taken
      · cases taken
        exact ⟨lead, trivial⟩
      · next removed =>
          cases taken
          obtain ⟨-, rfl⟩ := AccessStores.takeOut_eq_ok removed
          exact ⟨lead.erase ruleId, trivial⟩
  | reattaching rule error =>
      dsimp only [AccessStores.advance] at taken
      split at taken
      · cases taken
        exact ⟨lead, trivial⟩
      · cases taken
        exact ⟨lead, leads⟩
  | readding rule error =>
      dsimp only [AccessStores.advance] at taken
      split at taken
      · cases taken
        exact ⟨lead, trivial⟩
      · next ruleId rules added =>
          cases taken
          obtain ⟨-, -, rfl⟩ := ForwardingRules.addForwardingRule_eq_ok added
          exact ⟨lead.insert leads, trivial⟩
  | listing purpose =>
      cases taken
      exact ⟨lead, trivial⟩
  | removing purpose ruleIds =>
      cases ruleIds with
      | nil =>
          cases taken
          refine ⟨lead, ?_⟩
          cases purpose <;> trivial
      | cons ruleId rest =>
          dsimp only [AccessStores.advance] at taken
          split at taken
          · cases taken
            refine ⟨lead, ?_⟩
            cases purpose <;> trivial
          · next removed =>
              cases taken
              obtain ⟨-, rfl⟩ := AccessStores.takeOut_eq_ok removed
              exact ⟨lead.erase ruleId, trivial⟩
  | forgetting peerId serviceName =>
      dsimp only [AccessStores.advance] at taken
      split at taken
      · cases taken
        exact ⟨lead, trivial⟩
      · cases taken
        exact ⟨lead, trivial⟩
  | forgetSaving updated =>
      cases taken
      exact ⟨lead, trivial⟩
  | unlocking result =>
      cases taken
      exact ⟨lead, trivial⟩
  | returned result => cases taken

end Fungi.Daemon.ServiceAccesses
