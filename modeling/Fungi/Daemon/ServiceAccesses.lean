import Fungi.Daemon.ForwardingRules
import Fungi.Lib.Run
import Mathlib.Logic.Function.Basic

/-!
# Service accesses

`ServiceAccesses` of `crates/daemon/src/service_accesses.rs`: calls that attach, detach,
forget and restore local accesses to remote services, over the saved preferences, the
forwarding rules and the set of detached services.  Each of the three is read and written
under a lock of its own, one access at a time; the `operations` lock keeps all calls but
`detach` apart.  A call is a phase that says what it does next, so the calls of a run can be
interleaved at each access.
-/

namespace Fungi.Daemon.ServiceAccesses

open Fungi.Config Fungi.Lib Fungi.Runtime

/-- An endpoint of an access, and the local address it is reached at. -/
structure ServiceAccessEndpoint where
  name : String
  protocol : String
  localHost : String
  localPort : UInt16
  deriving DecidableEq

/-- What an attach returns. -/
structure ServiceAccess where
  peerId : String
  serviceName : String
  endpoints : List ServiceAccessEndpoint
  deriving DecidableEq

/-- The calls that change service accesses. -/
inductive AccessCall where
  | attach (peerId : String) (service : DeviceService) (entry : Option String)
      (localPort : Option UInt16)
  | detach (peerId serviceName : String)
  | forgetService (peerId serviceName : String)
  | forgetDevice (peerId : String)
  | restore (candidate : LocalServicePreference) (endpoint : DeviceServiceEndpoint)

/-- What a call finds outside at one step: the order of the rules it lists, whether the
preference file can be read, the ports a bind to port 0 yields, whether a port can be bound,
and what becomes of a save. -/
structure AccessAnswer where
  order : Arrangement
  readable : Bool
  freePort : Nat → Option UInt16
  bindable : Bool
  saved : PreferenceSave

/-- Nothing outside stands in the way, except that no free port is offered. -/
def AccessAnswer.calm : AccessAnswer :=
  { order := { arrange := id, perm := fun _ => List.Perm.refl _ }
    readable := true
    freePort := fun _ => none
    bindable := true
    saved := .written }

/-- The shared state: `preferences` is what the preference file decodes to, and `operations`
says whether the lock is taken. -/
structure AccessStores where
  rules : ForwardingRules
  preferences : Option LocalPreferenceCache
  detachedServices : String × String → Bool
  operations : Bool

/-! ## Attaching -/

/-- The loop of `attach`, before its next endpoint.  The reserved ports are a set. -/
structure AttachLoop where
  peerId : String
  serviceName : String
  localPort : Option UInt16
  endpoints : List DeviceServiceEndpoint
  localPreferences : LocalPreferenceCache
  activeRules : List (String × ForwardingRule)
  reservedLocalPorts : List UInt16
  enabledEndpoints : List ServiceAccessEndpoint

/-- What one turn of the loop is to do for its endpoint. -/
structure AttachPlan where
  endpoint : DeviceServiceEndpoint
  existingActiveRule : Option (String × ForwardingRule)
  activeRuleMatches : Bool
  record : LocalServicePreference
  updatedLocalPreferences : LocalPreferenceCache
  reservedLocalPorts : List UInt16

/-- A free port that is not reserved, from as many attempts as allowed. -/
def allocateFreeLocalPort (reservedPorts : List UInt16) (freePort : Nat → Option UInt16) :
    Nat → Except Error UInt16
  | 0 => .error (.message "failed to allocate a free local TCP port for remote service access")
  | attempts + 1 =>
      match freePort attempts with
      | none => .error (.message "no port to bind")
      | some port =>
          if port ∈ reservedPorts then allocateFreeLocalPort reservedPorts freePort attempts
          else .ok port

/-- A port that is asked for must be neither reserved nor in use. -/
def ensureLocalPortAvailable (port : UInt16) (reservedPorts : List UInt16) (bindable : Bool) :
    Except Error Unit :=
  if port ∈ reservedPorts then
    .error (.message s!"local port is already reserved by another service access: {port}")
  else if bindable then .ok ()
  else .error (.message s!"local port {port} is not available")

/-- The port of the endpoint: the one asked for, the saved one, or a free one. -/
def selectLocalPort (localPort : Option UInt16) (existingRecord : Option LocalServicePreference)
    (reservedPorts : List UInt16) (freePort : Nat → Option UInt16) : Except Error UInt16 :=
  match localPort, existingRecord with
  | some localPort, _ => .ok localPort
  | none, some record => .ok record.localPort
  | none, none => allocateFreeLocalPort reservedPorts freePort 32

/-- The identity of an endpoint's record. -/
def AttachLoop.identity (self : AttachLoop) (endpoint : DeviceServiceEndpoint) :
    String × String × String :=
  (self.peerId, self.serviceName, endpoint.name)

/-- The ports reserved by others than the endpoint. -/
def AttachLoop.reservedByOthers (self : AttachLoop) (endpoint : DeviceServiceEndpoint) :
    List UInt16 :=
  let existingRecord := self.localPreferences.findRecord (self.identity endpoint)
  let existingActiveRule := findActiveRule self.activeRules (self.identity endpoint)
  self.reservedLocalPorts.filter fun port =>
    existingRecord.all (·.localPort ≠ port) ∧ existingActiveRule.all (·.2.localPort ≠ port)

/-- What is to be done for an endpoint: its port, its record, and the rule it has already. -/
def planEndpoint (loop : AttachLoop) (endpoint : DeviceServiceEndpoint) (answer : AccessAnswer) :
    Except Error AttachPlan := do
  let existingRecord := loop.localPreferences.findRecord (loop.identity endpoint)
  let existingActiveRule := findActiveRule loop.activeRules (loop.identity endpoint)
  let reservedLocalPorts := loop.reservedByOthers endpoint
  let selectedLocalPort ←
    selectLocalPort loop.localPort existingRecord reservedLocalPorts answer.freePort
  let localPortSource :=
    if loop.localPort.isSome then .user
    else (existingRecord.map (·.localPortSource)).getD .auto
  let activeRuleOwnsSelectedPort := existingActiveRule.any fun item =>
    item.2.localHost = "127.0.0.1" ∧ item.2.localPort = selectedLocalPort
  let activeRuleMatches := existingActiveRule.any fun item =>
    item.2.localHost = "127.0.0.1" ∧ item.2.localPort = selectedLocalPort ∧
      item.2.remoteProtocol = some endpoint.protocol
  if activeRuleOwnsSelectedPort then .ok ()
  else ensureLocalPortAvailable selectedLocalPort reservedLocalPorts answer.bindable
  let record : LocalServicePreference :=
    { remotePeerId := loop.peerId
      remoteServiceName := loop.serviceName
      remoteServicePortName := endpoint.name
      localHost := "127.0.0.1"
      localPort := selectedLocalPort
      localPortSource }
  let updatedLocalPreferences ← loop.localPreferences.withUpsertedRecord record
  .ok { endpoint, existingActiveRule, activeRuleMatches, record, updatedLocalPreferences,
        reservedLocalPorts }

/-- What a turn of the loop has settled about its endpoint. -/
structure AttachPlan.For (plan : AttachPlan) (loop : AttachLoop)
    (endpoint : DeviceServiceEndpoint) : Prop where
  chosen : plan.endpoint = endpoint
  existing : plan.existingActiveRule = findActiveRule loop.activeRules (loop.identity endpoint)
  identity : plan.record.identity = loop.identity endpoint
  localHost : plan.record.localHost = "127.0.0.1"
  upserted : loop.localPreferences.withUpsertedRecord plan.record =
    .ok plan.updatedLocalPreferences
  matching : plan.activeRuleMatches = true → ∃ item, plan.existingActiveRule = some item ∧
    item.2.localHost = plan.record.localHost ∧ item.2.localPort = plan.record.localPort ∧
    item.2.remoteProtocol = some endpoint.protocol

theorem planEndpoint_eq_ok {loop : AttachLoop} {endpoint : DeviceServiceEndpoint}
    {answer : AccessAnswer} {plan : AttachPlan}
    (planned : planEndpoint loop endpoint answer = .ok plan) : plan.For loop endpoint := by
  unfold planEndpoint at planned
  obtain ⟨port, -, planned⟩ := bind_eq_ok.mp planned
  dsimp only at planned
  -- whether the port had to be free makes no difference to the plan
  split at planned
  all_goals
    obtain ⟨-, -, planned⟩ := bind_eq_ok.mp planned
    obtain ⟨updated, upserted, planned⟩ := bind_eq_ok.mp planned
    cases planned
    refine ⟨rfl, rfl, rfl, rfl, upserted, ?_⟩
    intro found
    obtain ⟨item, existing, facts⟩ := (Option.any_eq_true _ _).mp found
    exact ⟨item, existing, of_decide_eq_true facts⟩

/-- The loop after an endpoint has been saved. -/
def AttachLoop.next (self : AttachLoop) (plan : AttachPlan)
    (activeRules : List (String × ForwardingRule)) : AttachLoop :=
  { self with
    localPreferences := plan.updatedLocalPreferences
    activeRules
    reservedLocalPorts := plan.record.localPort :: plan.reservedLocalPorts
    enabledEndpoints := self.enabledEndpoints ++
      [{ name := plan.endpoint.name, protocol := plan.endpoint.protocol
         localHost := plan.record.localHost, localPort := plan.record.localPort }] }

/-- The loop of `attach` before its first endpoint. -/
def AttachLoop.begin (peerId : String) (service : DeviceService) (entry : Option String)
    (localPort : Option UInt16) (localPreferences : LocalPreferenceCache)
    (activeRules : List (String × ForwardingRule)) : AttachLoop :=
  { peerId
    serviceName := service.name
    localPort
    endpoints := service.endpoints.filter fun endpoint => entry.all (endpoint.name = ·)
    localPreferences
    activeRules
    reservedLocalPorts := localPreferences.map (·.localPort) ++ activeRules.map (·.2.localPort)
    enabledEndpoints := [] }

/-- What the attach returns, its endpoints in the order of their names. -/
def AttachLoop.access (self : AttachLoop) : ServiceAccess :=
  { peerId := self.peerId
    serviceName := self.serviceName
    endpoints := self.enabledEndpoints.insertionSort fun left right => left.name ≤ right.name }

/-! ## Phases of a call -/

/-- What `remove_matching_rules` is called for, and what is left to do after it. -/
inductive RemovalPurpose where
  | detach (peerId serviceName : String)
  | forgetService (peerId serviceName : String)
  | forgetDevice (peerId : String) (preferences : LocalPreferenceCache)

/-- What a call returns: only an attach has an access to return. -/
abbrev AccessResult := Except Error (Option ServiceAccess)

/-- What a call does next.  `removed` is the rule a call has taken out of the table and is
to put back if it fails. -/
inductive AccessPhase where
  | ready
  | locked
  | preferencesRead (preferences : LocalPreferenceCache)
  | attaching (loop : AttachLoop)
  | replacing (loop : AttachLoop) (plan : AttachPlan) (ruleId : String) (rule : ForwardingRule)
  | starting (loop : AttachLoop) (plan : AttachPlan) (removed : Option ForwardingRule)
  | saving (loop : AttachLoop) (plan : AttachPlan) (removed : Option ForwardingRule)
      (started : Option String)
  | rollingBack (removed : Option ForwardingRule) (started : String) (error : Error)
  | rereading (loop : AttachLoop) (plan : AttachPlan)
  | clearing (access : ServiceAccess)
  | restoring
  | recordRead (record : LocalServicePreference)
  | restoreReplacing (record : LocalServicePreference) (ruleId : String) (rule : ForwardingRule)
  | restoreStarting (record : LocalServicePreference) (removed : Option ForwardingRule)
  | rechecking (rule : ForwardingRule) (ruleId : String) (result : AccessResult)
  | retracting (ruleId : String) (result : AccessResult)
  | reattaching (rule : ForwardingRule) (error : Error)
  | readding (rule : ForwardingRule) (error : Error)
  | listing (purpose : RemovalPurpose)
  | removing (purpose : RemovalPurpose) (ruleIds : List String)
  | forgetting (peerId serviceName : String)
  | forgetSaving (preferences : LocalPreferenceCache)
  | unlocking (result : AccessResult)
  | returned (result : AccessResult)

/-- The rules that a removal is about. -/
def RemovalPurpose.matchesRule (self : RemovalPurpose) (rule : ForwardingRule) : Bool :=
  match self with
  | .detach peerId serviceName | .forgetService peerId serviceName =>
      rule.remotePeerId = peerId ∧ rule.remoteServiceName = some serviceName
  | .forgetDevice peerId _ => rule.remotePeerId = peerId

/-- `detach` holds no lock that it would have to release. -/
def RemovalPurpose.fail (self : RemovalPurpose) (error : Error) : AccessPhase :=
  match self with
  | .detach _ _ => .returned (.error error)
  | _ => .unlocking (.error error)

/-- What follows the removal of all matching rules. -/
def RemovalPurpose.proceed (self : RemovalPurpose) : AccessPhase :=
  match self with
  | .detach _ _ => .returned (.ok none)
  | .forgetService peerId serviceName => .forgetting peerId serviceName
  | .forgetDevice peerId preferences => .forgetSaving (preferences.withoutDevice peerId)

/-- A failed attach or restore puts back the rule it has taken out. -/
def failPuttingBack (removed : Option ForwardingRule) (error : Error) : AccessPhase :=
  match removed with
  | some rule => .reattaching rule error
  | none => .unlocking (.error error)

namespace AccessStores

/-- The saved records; the file may be missing, damaged or unreadable. -/
def localPreferences (self : AccessStores) (answer : AccessAnswer) :
    Except Error LocalPreferenceCache :=
  match self.preferences, answer.readable with
  | some preferences, true => .ok preferences
  | none, true => .error (.message "failed to parse local preference cache")
  | _, false => .error (.message "failed to read local preference cache")

/-- Whether a service is flagged as detached. -/
def isDetached (self : AccessStores) (peerId serviceName : String) : Bool :=
  self.detachedServices (peerId, serviceName)

/-- Set or clear the flag of a service. -/
def setDetached (self : AccessStores) (peerId serviceName : String) (detached : Bool) :
    AccessStores :=
  { self with
    detachedServices := Function.update self.detachedServices (peerId, serviceName) detached }

/-- The services of all records of the peer are detached under one lock. -/
def detachDevice (self : AccessStores) (preferences : LocalPreferenceCache) (peerId : String) :
    AccessStores :=
  { self with
    detachedServices := fun key => self.detachedServices key ||
      preferences.any fun record =>
        record.remotePeerId = peerId ∧ key = (peerId, record.remoteServiceName) }

/-- Whether a rule belongs to a service that is flagged as detached. -/
def isDetachedRule (self : AccessStores) (rule : ForwardingRule) : Bool :=
  rule.remoteServiceName.any fun serviceName => self.isDetached rule.remotePeerId serviceName

/-- Take the `operations` lock, or wait for it. -/
def lock (self : AccessStores) (phase : AccessPhase) : Option (AccessStores × AccessPhase) :=
  if self.operations then none else some ({ self with operations := true }, phase)

/-- Take a rule out of the table. -/
def takeOut (self : AccessStores) (ruleId : String) : Except Error AccessStores := do
  let rules ← self.rules.removeForwardingRule ruleId
  .ok { self with rules }

/-- The first step of a call. -/
def enter (self : AccessStores) : AccessCall → Option (AccessStores × AccessPhase)
  | .attach _ service entry localPort =>
      if service.endpoints = [] then
        some (self, .returned (.error
          (.message s!"remote service exposes no named TCP endpoints: {service.name}")))
      else if localPort.isSome ∧ 1 < service.endpoints.length ∧ entry = none then
        some (self, .returned (.error
          (.message "choose a service entry before assigning a fixed local port")))
      else self.lock .locked
  | .detach peerId serviceName =>
      some (self.setDetached peerId serviceName true, .listing (.detach peerId serviceName))
  | .forgetService _ _ => self.lock .locked
  | .forgetDevice _ => self.lock .locked
  | .restore _ _ => self.lock .locked

/-- The first step under the lock. -/
def enterLocked (self : AccessStores) (answer : AccessAnswer) :
    AccessCall → Option (AccessStores × AccessPhase)
  | .attach _ _ _ _ | .forgetDevice _ =>
      match self.localPreferences answer with
      | .error error => some (self, .unlocking (.error error))
      | .ok preferences => some (self, .preferencesRead preferences)
  | .detach _ _ => none
  | .forgetService peerId serviceName =>
      some (self.setDetached peerId serviceName true, .listing (.forgetService peerId serviceName))
  | .restore candidate _ =>
      if self.isDetached candidate.remotePeerId candidate.remoteServiceName then
        some (self, .unlocking (.ok none))
      else some (self, .restoring)

/-- The step that follows the reading of the preferences. -/
def withPreferences (self : AccessStores) (answer : AccessAnswer)
    (preferences : LocalPreferenceCache) : AccessCall → Option (AccessStores × AccessPhase)
  | .attach peerId service entry localPort =>
      let loop := AttachLoop.begin peerId service entry localPort preferences
        (self.rules.getForwardingRules answer.order)
      if loop.endpoints = [] then
        let entry := entry.getD "default"
        some (self, .unlocking (.error (.message s!"remote service entry not found: {entry}")))
      else some (self, .attaching loop)
  | .forgetDevice peerId =>
      some (self.detachDevice preferences peerId, .listing (.forgetDevice peerId preferences))
  | _ => none

/-- One turn of the loop of `attach`, up to its first access to the stores. -/
def attachNext (self : AccessStores) (answer : AccessAnswer) (loop : AttachLoop) :
    AccessStores × AccessPhase :=
  match loop.endpoints with
  | [] => (self, .clearing loop.access)
  | endpoint :: rest =>
      let loop := { loop with endpoints := rest }
      match planEndpoint loop endpoint answer with
      | .error error => (self, .unlocking (.error error))
      | .ok plan =>
          if plan.activeRuleMatches then (self, .saving loop plan none none)
          else
            match plan.existingActiveRule with
            | some (ruleId, rule) => (self, .replacing loop plan ruleId rule)
            | none => (self, .starting loop plan none)

/-- `restore_forwarding_record`, up to its first change of the table. -/
def restoreRecord (self : AccessStores) (answer : AccessAnswer) (record : LocalServicePreference)
    (endpoint : DeviceServiceEndpoint) : AccessStores × AccessPhase :=
  match findActiveRule (self.rules.getForwardingRules answer.order) record.identity with
  | none => (self, .restoreStarting record none)
  | some (ruleId, rule) =>
      if rule.localHost = record.localHost ∧ rule.localPort = record.localPort ∧
          rule.remoteProtocol = some endpoint.protocol then
        (self, .unlocking (.ok none))
      else (self, .restoreReplacing record ruleId rule)

/-- One step of a call, or `none` where it waits or has returned. -/
def advance (self : AccessStores) (parsers : AddressParsers) (call : AccessCall)
    (answer : AccessAnswer) : AccessPhase → Option (AccessStores × AccessPhase)
  | .ready => self.enter call
  | .locked => self.enterLocked answer call
  | .preferencesRead preferences => self.withPreferences answer preferences call
  | .attaching loop => some (self.attachNext answer loop)
  | .replacing loop plan ruleId rule =>
      match self.takeOut ruleId with
      | .error error => some (self, .unlocking (.error error))
      | .ok next => some (next, .starting loop plan (some rule))
  | .starting loop plan removed =>
      match startForwardingRule self.rules parsers plan.record plan.endpoint.protocol with
      | .error error => some (self, failPuttingBack removed error)
      | .ok (ruleId, rules) => some ({ self with rules }, .saving loop plan removed (some ruleId))
  | .saving loop plan removed started =>
      let (succeeded, preferences) :=
        plan.updatedLocalPreferences.saveToFile self.preferences answer.saved
      let next := { self with preferences }
      let error := Error.message "failed to write local preference cache"
      if succeeded then
        if plan.activeRuleMatches then some (next, .attaching (loop.next plan loop.activeRules))
        else some (next, .rereading loop plan)
      else
        match started with
        | some ruleId => some (next, .rollingBack removed ruleId error)
        | none => some (next, failPuttingBack removed error)
  | .rollingBack removed started error =>
      match self.takeOut started with
      | .error _ => some (self, failPuttingBack removed error)
      | .ok next => some (next, failPuttingBack removed error)
  | .rereading loop plan =>
      some (self, .attaching (loop.next plan (self.rules.getForwardingRules answer.order)))
  | .clearing access =>
      some (self.setDetached access.peerId access.serviceName false, .unlocking (.ok (some access)))
  | .restoring =>
      match call with
      | .restore candidate _ =>
          match self.localPreferences answer with
          | .error error => some (self, .unlocking (.error error))
          | .ok preferences =>
              match preferences.findRecord candidate.identity with
              | none => some (self, .unlocking (.ok none))
              | some record => some (self, .recordRead record)
      | _ => none
  | .recordRead record =>
      match call with
      | .restore _ endpoint => some (self.restoreRecord answer record endpoint)
      | _ => none
  | .restoreReplacing record ruleId rule =>
      match self.takeOut ruleId with
      | .error error => some (self, .unlocking (.error error))
      | .ok next => some (next, .restoreStarting record (some rule))
  | .restoreStarting record removed =>
      match call with
      | .restore _ endpoint =>
          match startForwardingRule self.rules parsers record endpoint.protocol with
          | .error error => some (self, failPuttingBack removed error)
          | .ok (ruleId, rules) =>
              some ({ self with rules },
                .rechecking (recordRule record endpoint.protocol) ruleId (.ok none))
      | _ => none
  | .rechecking rule ruleId result =>
      if self.isDetachedRule rule then some (self, .retracting ruleId result)
      else some (self, .unlocking result)
  | .retracting ruleId result =>
      match self.takeOut ruleId with
      | .error _ => some (self, .unlocking result)
      | .ok next => some (next, .unlocking result)
  | .reattaching rule error =>
      if rule.remoteServiceName.isNone ∨ self.isDetachedRule rule then
        some (self, .unlocking (.error error))
      else some (self, .readding rule error)
  | .readding rule error =>
      match self.rules.addForwardingRule parsers rule with
      | .error _ => some (self, .unlocking (.error error))
      | .ok (ruleId, rules) => some ({ self with rules }, .rechecking rule ruleId (.error error))
  | .listing purpose =>
      let rulesToRemove := (self.rules.getForwardingRules answer.order).filter
        fun item => purpose.matchesRule item.2
      some (self, .removing purpose (rulesToRemove.map (·.1)))
  | .removing purpose [] => some (self, purpose.proceed)
  | .removing purpose (ruleId :: rest) =>
      match self.takeOut ruleId with
      | .error error => some (self, purpose.fail error)
      | .ok next => some (next, .removing purpose rest)
  | .forgetting peerId serviceName =>
      match self.localPreferences answer with
      | .error error => some (self, .unlocking (.error error))
      | .ok preferences =>
          some (self, .forgetSaving (preferences.withoutService peerId serviceName))
  | .forgetSaving updated =>
      let (succeeded, preferences) := updated.saveToFile self.preferences answer.saved
      let result : AccessResult := if succeeded then .ok none
        else .error (.message "failed to write local preference cache")
      some ({ self with preferences }, .unlocking result)
  | .unlocking result => some ({ self with operations := false }, .returned result)
  | .returned _ => none

end AccessStores

/-- The rule a phase is about to take out of the table. -/
def AccessPhase.takes : AccessPhase → Option String
  | .replacing _ _ ruleId _ => some ruleId
  | .rollingBack _ ruleId _ => some ruleId
  | .restoreReplacing _ ruleId _ => some ruleId
  | .retracting ruleId _ => some ruleId
  | .removing _ (ruleId :: _) => some ruleId
  | _ => none

/-- The call has returned. -/
def AccessPhase.hasReturned : AccessPhase → Bool
  | .returned _ => true
  | _ => false

/-- The call has returned an error. -/
def AccessPhase.hasFailed : AccessPhase → Bool
  | .returned (.error _) => true
  | _ => false

theorem AccessPhase.hasFailed_iff {phase : AccessPhase} :
    phase.hasFailed = true ↔ ∃ error, phase = .returned (.error error) := by
  constructor
  · intro failed
    unfold hasFailed at failed
    split at failed
    · next error => exact ⟨error, rfl⟩
    · cases failed
  · intro failed
    obtain ⟨error, rfl⟩ := failed
    rfl

/-- What one step does to the table of rules. -/
inductive TableChange (phase : AccessPhase) (before after : ForwardingRules) : Prop where
  | none (same : after = before)
  | added (ruleId : String) (rule : ForwardingRule) (absent : before[ruleId]? = Option.none)
      (same : after = before.insert ruleId { rule, task := .starting })
  | taken (ruleId : String) (takes : phase.takes = some ruleId) (present : ruleId ∈ before)
      (same : after = before.erase ruleId)

namespace AccessStores

variable {self next : AccessStores} {parsers : AddressParsers} {call : AccessCall}
  {answer : AccessAnswer} {phase phase' : AccessPhase}

theorem takeOut_eq_ok {ruleId : String} (taken : self.takeOut ruleId = .ok next) :
    ruleId ∈ self.rules ∧ next = { self with rules := self.rules.erase ruleId } := by
  obtain ⟨rules, removed, same⟩ := bind_eq_ok.mp taken
  obtain ⟨present, erased⟩ := ForwardingRules.removeForwardingRule_eq_ok removed
  cases same
  rw [erased]
  exact ⟨present, rfl⟩

theorem takeOut_of_mem {ruleId : String} (present : ruleId ∈ self.rules) :
    self.takeOut ruleId = .ok { self with rules := self.rules.erase ruleId } := by
  unfold takeOut
  rw [ForwardingRules.removeForwardingRule_of_mem present]
  rfl

theorem takeOut_error {ruleId : String} {error : Error}
    (refused : self.takeOut ruleId = .error error) : ruleId ∉ self.rules := by
  intro present
  rw [takeOut_of_mem present] at refused
  cases refused

theorem lock_rules (locked : self.lock phase = some (next, phase')) : next.rules = self.rules := by
  unfold lock at locked
  split at locked
  · cases locked
  · cases locked
    rfl

theorem enter_rules (entered : self.enter call = some (next, phase')) :
    next.rules = self.rules := by
  cases call with
  | attach peerId service entry localPort =>
      dsimp only [enter] at entered
      split at entered
      · cases entered
        rfl
      · split at entered
        · cases entered
          rfl
        · exact lock_rules entered
  | detach peerId serviceName =>
      cases entered
      rfl
  | forgetService peerId serviceName => exact lock_rules entered
  | forgetDevice peerId => exact lock_rules entered
  | restore candidate endpoint => exact lock_rules entered

theorem enterLocked_rules (entered : self.enterLocked answer call = some (next, phase')) :
    next.rules = self.rules := by
  unfold enterLocked at entered
  split at entered
  · split at entered
    · cases entered
      rfl
    · cases entered
      rfl
  · split at entered
    · cases entered
      rfl
    · cases entered
      rfl
  · cases entered
  · cases entered
    rfl
  · split at entered
    · cases entered
      rfl
    · cases entered
      rfl

theorem withPreferences_rules {preferences : LocalPreferenceCache}
    (entered : self.withPreferences answer preferences call = some (next, phase')) :
    next.rules = self.rules := by
  unfold withPreferences at entered
  split at entered
  · dsimp only at entered
    split at entered
    · cases entered
      rfl
    · cases entered
      rfl
  · cases entered
    rfl
  · cases entered

theorem attachNext_stores (loop : AttachLoop) : (self.attachNext answer loop).1 = self := by
  unfold attachNext
  split
  · rfl
  · dsimp only
    split
    · rfl
    · split
      · rfl
      · split
        · rfl
        · rfl

theorem restoreRecord_stores (record : LocalServicePreference) (endpoint : DeviceServiceEndpoint) :
    (self.restoreRecord answer record endpoint).1 = self := by
  unfold restoreRecord
  split
  · rfl
  · split
    · rfl
    · rfl

/-- The choice of the next endpoint leaves the stores alone. -/
theorem attachNext_taken {loop : AttachLoop}
    (taken : some (self.attachNext answer loop) = some (next, phase')) :
    self = next ∧ (self.attachNext answer loop).2 = phase' := by
  have moved := Option.some.inj taken
  exact ⟨(attachNext_stores loop).symm.trans (congrArg Prod.fst moved), congrArg Prod.snd moved⟩

theorem restoreRecord_taken {record : LocalServicePreference} {endpoint : DeviceServiceEndpoint}
    (taken : some (self.restoreRecord answer record endpoint) = some (next, phase')) :
    self = next ∧ (self.restoreRecord answer record endpoint).2 = phase' := by
  have moved := Option.some.inj taken
  exact ⟨(restoreRecord_stores record endpoint).symm.trans (congrArg Prod.fst moved),
    congrArg Prod.snd moved⟩

/-- A step leaves the table alone, adds a rule that was absent, or takes one out. -/
theorem advance_rules (taken : self.advance parsers call answer phase = some (next, phase')) :
    TableChange phase self.rules next.rules := by
  cases phase with
  | ready => exact .none (enter_rules taken)
  | locked => exact .none (enterLocked_rules taken)
  | preferencesRead preferences => exact .none (withPreferences_rules taken)
  | attaching loop =>
      obtain ⟨rfl, -⟩ := attachNext_taken taken
      exact .none rfl
  | replacing loop plan ruleId rule =>
      dsimp only [advance] at taken
      split at taken
      · cases taken
        exact .none rfl
      · next removed =>
          cases taken
          obtain ⟨present, rfl⟩ := takeOut_eq_ok removed
          exact .taken ruleId rfl present rfl
  | starting loop plan removed =>
      dsimp only [advance] at taken
      split at taken
      · cases taken
        exact .none rfl
      · next ruleId rules started =>
          cases taken
          obtain ⟨absent, same⟩ := startForwardingRule_eq_ok started
          exact .added ruleId _ absent same
  | saving loop plan removed started =>
      dsimp only [advance] at taken
      split at taken
      · split at taken
        · cases taken
          exact .none rfl
        · cases taken
          exact .none rfl
      · split at taken
        · cases taken
          exact .none rfl
        · cases taken
          exact .none rfl
  | rollingBack removed started error =>
      dsimp only [advance] at taken
      split at taken
      · cases taken
        exact .none rfl
      · next erased =>
          cases taken
          obtain ⟨present, rfl⟩ := takeOut_eq_ok erased
          exact .taken started rfl present rfl
  | rereading loop plan =>
      cases taken
      exact .none rfl
  | clearing access =>
      cases taken
      exact .none rfl
  | restoring =>
      dsimp only [advance] at taken
      split at taken
      · split at taken
        · cases taken
          exact .none rfl
        · split at taken
          · cases taken
            exact .none rfl
          · cases taken
            exact .none rfl
      · cases taken
  | recordRead record =>
      dsimp only [advance] at taken
      split at taken
      · next candidate endpoint =>
          obtain ⟨rfl, -⟩ := restoreRecord_taken taken
          exact .none rfl
      · cases taken
  | restoreReplacing record ruleId rule =>
      dsimp only [advance] at taken
      split at taken
      · cases taken
        exact .none rfl
      · next removed =>
          cases taken
          obtain ⟨present, rfl⟩ := takeOut_eq_ok removed
          exact .taken ruleId rfl present rfl
  | restoreStarting record removed =>
      dsimp only [advance] at taken
      split at taken
      · split at taken
        · cases taken
          exact .none rfl
        · next ruleId rules started =>
            cases taken
            obtain ⟨absent, same⟩ := startForwardingRule_eq_ok started
            exact .added ruleId _ absent same
      · cases taken
  | rechecking rule ruleId result =>
      dsimp only [advance] at taken
      split at taken
      · cases taken
        exact .none rfl
      · cases taken
        exact .none rfl
  | retracting ruleId result =>
      dsimp only [advance] at taken
      split at taken
      · cases taken
        exact .none rfl
      · next removed =>
          cases taken
          obtain ⟨present, rfl⟩ := takeOut_eq_ok removed
          exact .taken ruleId rfl present rfl
  | reattaching rule error =>
      dsimp only [advance] at taken
      split at taken
      · cases taken
        exact .none rfl
      · cases taken
        exact .none rfl
  | readding rule error =>
      dsimp only [advance] at taken
      split at taken
      · cases taken
        exact .none rfl
      · next ruleId rules added =>
          cases taken
          obtain ⟨-, absent, same⟩ := ForwardingRules.addForwardingRule_eq_ok added
          exact .added ruleId _ absent same
  | listing purpose =>
      cases taken
      exact .none rfl
  | removing purpose ruleIds =>
      cases ruleIds with
      | nil =>
          cases taken
          exact .none rfl
      | cons ruleId rest =>
          dsimp only [advance] at taken
          split at taken
          · cases taken
            exact .none rfl
          · next removed =>
              cases taken
              obtain ⟨present, rfl⟩ := takeOut_eq_ok removed
              exact .taken ruleId rfl present rfl
  | forgetting peerId serviceName =>
      dsimp only [advance] at taken
      split at taken
      · cases taken
        exact .none rfl
      · cases taken
        exact .none rfl
  | forgetSaving updated =>
      cases taken
      exact .none rfl
  | unlocking result =>
      cases taken
      exact .none rfl
  | returned result => cases taken

end AccessStores

/-! ## Calls side by side -/

/-- The stores, and how far each call has come. -/
structure AccessSystem (CallId : Type) where
  stores : AccessStores
  phases : CallId → AccessPhase

/-- A call takes its next step, or the task of a rule tries to bind its local address. -/
inductive AccessStep (CallId : Type) where
  | advance (id : CallId) (answer : AccessAnswer)
  | bind (ruleId : String) (succeeds : Bool)

namespace AccessSystem

variable {CallId : Type} [DecidableEq CallId]

/-- No call has been made, and the lock is free. -/
def start (stores : AccessStores) : AccessSystem CallId :=
  { stores := { stores with operations := false }, phases := fun _ => .ready }

/-- A step of a call, or the bind of a rule's listener. -/
def step (parsers : AddressParsers) (calls : CallId → AccessCall) (self : AccessSystem CallId) :
    AccessStep CallId → Option (AccessSystem CallId)
  | .advance id answer => do
      let (stores, phase) ← self.stores.advance parsers (calls id) answer (self.phases id)
      some { stores, phases := Function.update self.phases id phase }
  | .bind ruleId succeeds =>
      some { self with
        stores := { self.stores with rules := self.stores.rules.bind ruleId succeeds } }

theorem step_advance {parsers : AddressParsers} {calls : CallId → AccessCall}
    {self next : AccessSystem CallId} {id : CallId} {answer : AccessAnswer}
    (taken : self.step parsers calls (.advance id answer) = some next) :
    self.stores.advance parsers (calls id) answer (self.phases id) =
        some (next.stores, next.phases id) ∧
      ∀ other, other ≠ id → next.phases other = self.phases other := by
  dsimp only [step] at taken
  obtain ⟨⟨stores, phase⟩, advanced, moved⟩ := Option.bind_eq_some_iff.mp taken
  cases moved
  refine ⟨?_, ?_⟩
  · rw [advanced]
    dsimp only
    rw [Function.update_self]
  · intro other different
    exact Function.update_of_ne different _ _

end AccessSystem

/-! ## A service with two entries -/

/-- The text of the id of an Ed25519 key. -/
def webPeer : String := "12D3KooWJGXfQ3X6E3FJxMeYpPvVhDhxDBBkYDpAJrYaHsxkUTdT"

/-- The record of an entry of the service `web`. -/
def webRecord (entry : String) (localPort : UInt16) : LocalServicePreference :=
  { remotePeerId := webPeer, remoteServiceName := "web", remoteServicePortName := entry
    localHost := "127.0.0.1", localPort, localPortSource := .auto }

/-- A service with two entries. -/
def webService : DeviceService :=
  { name := "web"
    endpoints := [{ name := "http", protocol := "/web/http" },
      { name := "ssh", protocol := "/web/ssh" }] }

/-- Both entries are saved, and none is active. -/
def webSaved : AccessStores :=
  { rules := ∅
    preferences := some [webRecord "http" 8080, webRecord "ssh" 2222]
    detachedServices := fun _ => false
    operations := false }

/-- Nothing is saved. -/
def nothingSaved : AccessStores :=
  { webSaved with preferences := some [] }

end Fungi.Daemon.ServiceAccesses
