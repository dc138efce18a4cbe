import Fungi.Daemon.ControlFrames
import Fungi.Daemon.LocalServices
import Fungi.Daemon.RuleSources

/-!
# What an access reaches

A device operates its services and answers what it is asked about them, while another device
attaches services that it has read in such answers, however old.  A connection to a forwarding rule
opens a stream of the rule's protocol, and the device forwards the stream by its listening rules.
-/

namespace Fungi.Daemon.ServiceAccesses

open Fungi.Lib Fungi.Runtime Fungi.Util ServiceRuns

variable {CallId : Type}

/-- The call has not been made yet. -/
def AccessPhase.isReady : AccessPhase → Bool
  | .ready => true
  | _ => false

/-- The device, all that it has answered, and the calls of the device that asks. -/
structure DeviceAccess (CallId : Type) where
  server : LocalServices
  managed : List (List ServiceInstance)
  published : List (List ObservedService)
  client : AccessSystem CallId

/-- A step on either device: a local operation, an answer to the other device, or a step of a
call. -/
inductive DeviceStep (CallId : Type) where
  | operate (operation : LocalOperation)
  | answerManaged
  | answerPublished
  | access (step : AccessStep CallId)

namespace DeviceAccess

/-- The client has no forwarding rules when it starts. -/
def start (server : LocalServices) (stores : AccessStores) : DeviceAccess CallId :=
  { server, managed := [], published := []
    client := AccessSystem.start { stores with rules := ∅ } }

section Steps

variable (setup : RuntimeSetup) (answers : ProviderAnswers) (parsers : AddressParsers)
  (calls : CallId → AccessCall)

/-- An answer that fails is empty. -/
def answered {Value : Type} (outcome : Except Error (List Value)) : List Value :=
  match outcome with
  | .ok values => values
  | .error _ => []

/-- What a step does to the two devices. -/
def step [DecidableEq CallId] (self : DeviceAccess CallId) :
    DeviceStep CallId → Option (DeviceAccess CallId)
  | .operate operation => do
      let server ← self.server.step setup operation
      some { self with server }
  | .answerManaged =>
      let (outcome, host) := RuntimeControl.listServices setup answers self.server.host
      some { self with server := { self.server with host }
                       managed := answered outcome :: self.managed }
  | .answerPublished =>
      let (outcome, host) := listPublishedDeviceServices setup answers self.server.host
      some { self with server := { self.server with host }
                       published := answered outcome :: self.published }
  | .access step => do
      let client ← self.client.step parsers calls step
      some { self with client }

end Steps

/-- The service is in a snapshot that two answers of the device were merged to. -/
def Observed (self : DeviceAccess CallId) (service : DeviceService) : Prop :=
  ∃ managed ∈ self.managed, ∃ published ∈ self.published,
    ∃ observed ∈ mergeDeviceServiceSnapshot managed published, observed.toDeviceService = service

instance (self : DeviceAccess CallId) (service : DeviceService) :
    Decidable (self.Observed service) :=
  inferInstanceAs (Decidable (∃ managed ∈ self.managed, _))

/-- What the call attaches or restores at the device was observed. -/
def Offers (self : DeviceAccess CallId) (device : String) : AccessCall → Prop
  | .attach peerId service _ _ => peerId = device → self.Observed service
  | .restore candidate endpoint => candidate.remotePeerId = device →
      ∃ managed ∈ self.managed, ∃ published ∈ self.published,
        ∃ observed ∈ mergeDeviceServiceSnapshot managed published,
          observed.name = candidate.remoteServiceName ∧ endpoint ∈ observed.endpoints ∧
            endpoint.name = candidate.remoteServicePortName
  | _ => True

/-- The operations keep the listeners with the services, and a call begins with what was
observed. -/
def Meets (setup : RuntimeSetup) (device : String) (calls : CallId → AccessCall)
    (self : DeviceAccess CallId) : DeviceStep CallId → Prop
  | .operate operation => operation.Meets setup self.server
  | .access (.advance id _) => (self.client.phases id).isReady → self.Offers device (calls id)
  | _ => True

instance decidableOffers (self : DeviceAccess CallId) (device : String) :
    (call : AccessCall) → Decidable (self.Offers device call)
  | .attach peerId service _ _ =>
      inferInstanceAs (Decidable (peerId = device → self.Observed service))
  | .restore candidate _ =>
      inferInstanceAs (Decidable (candidate.remotePeerId = device → ∃ managed ∈ self.managed, _))
  | .detach .. | .forgetService .. | .forgetDevice .. => inferInstanceAs (Decidable True)

instance decidableMeets (setup : RuntimeSetup) (device : String) (calls : CallId → AccessCall)
    (self : DeviceAccess CallId) :
    (taken : DeviceStep CallId) → Decidable (self.Meets setup device calls taken)
  | .operate operation => inferInstanceAs (Decidable (operation.Meets setup self.server))
  | .access (.advance id _) =>
      inferInstanceAs (Decidable ((self.client.phases id).isReady → self.Offers device (calls id)))
  | .access (.bind ..) | .answerManaged | .answerPublished => inferInstanceAs (Decidable True)

end DeviceAccess

/-! ## The invariant -/

/-- The listeners follow the services, and all that the client has in hand leads to the endpoints
it names. -/
structure Sound (device : String) (calls : CallId → AccessCall) (system : DeviceAccess CallId) :
    Prop where
  settled : Settled system.server
  published : ∀ services ∈ system.published, ∀ service ∈ services, service.Named
  offered : ∀ id, system.client.phases id = .ready ∨ (calls id).Leads device
  rules : RulesLead device system.client.stores.rules
  phases : ∀ id, (system.client.phases id).Leads device (calls id)

section Sound

variable {setup : RuntimeSetup} {answers : ProviderAnswers} {parsers : AddressParsers}
  {device : String} {calls : CallId → AccessCall} {system next final : DeviceAccess CallId}

theorem sound_start {server : LocalServices} (settled : Settled server) (stores : AccessStores) :
    Sound device calls (.start server stores) where
  settled := settled
  published := nofun
  offered _ := Or.inl rfl
  rules := by
    intro ruleId state found
    simp [DeviceAccess.start, AccessSystem.start] at found
  phases _ := trivial

/-- A call that begins with what was observed is given endpoints with their protocols. -/
theorem Sound.leads (sound : Sound device calls system) {call : AccessCall}
    (offers : system.Offers device call) : call.Leads device := by
  have named : ∀ managed ∈ system.managed, ∀ published ∈ system.published,
      ∀ observed ∈ mergeDeviceServiceSnapshot managed published, observed.Named :=
    fun managed _ published member =>
      named_mergeDeviceServiceSnapshot (sound.published published member)
  cases call with
  | attach peerId service entry localPort =>
      intro isDevice
      obtain ⟨managed, isManaged, published, isPublished, observed, member, rfl⟩ := offers isDevice
      exact named managed isManaged published isPublished observed member
  | restore candidate endpoint =>
      intro isDevice
      obtain ⟨managed, isManaged, published, isPublished, observed, member, service, entry, port⟩ :=
        offers isDevice
      rw [named managed isManaged published isPublished observed member endpoint entry, service,
        port]
  | detach peerId serviceName => trivial
  | forgetService peerId serviceName => trivial
  | forgetDevice peerId => trivial

variable [DecidableEq CallId]

theorem Sound.step {taken : DeviceStep CallId} (sound : Sound device calls system)
    (meets : system.Meets setup device calls taken)
    (moved : system.step setup answers parsers calls taken = some next) :
    Sound device calls next := by
  cases taken with
  | operate operation =>
      simp only [DeviceAccess.step, Option.bind_eq_bind, Option.bind_eq_some_iff] at moved
      obtain ⟨server, operated, same⟩ := moved
      cases same
      exact { sound with settled := sound.settled.step meets operated }
  | answerManaged =>
      cases moved
      have same : Program.Within recordsFrame (RuntimeControl.listServices setup answers) :=
        listServices_records
      exact { sound with settled := sound.settled.of_same (same system.server.host) }
  | answerPublished =>
      cases moved
      have yields := @listPublishedDeviceServices_yields setup answers system.server.host trivial
      refine { sound with settled := sound.settled.of_same yields.within, published := ?_ }
      intro services member
      rcases List.mem_cons.mp member with rfl | earlier
      · unfold DeviceAccess.answered
        split
        · next values outcome => exact yields.returned values outcome
        · exact nofun
      · exact sound.published services earlier
  | access taken =>
      simp only [DeviceAccess.step, Option.bind_eq_bind, Option.bind_eq_some_iff] at moved
      obtain ⟨client, advanced, same⟩ := moved
      cases same
      cases taken with
      | advance id answer =>
          obtain ⟨stepped, others⟩ := AccessSystem.step_advance advanced
          have leads : (calls id).Leads device := by
            rcases sound.offered id with ready | leads
            · apply sound.leads
              exact meets (by rw [ready]; rfl)
            · exact leads
          obtain ⟨rules, phase⟩ := leads_advance leads sound.rules (sound.phases id) stepped
          refine { sound with offered := ?_, rules := rules, phases := ?_ }
          · intro other
            by_cases own : other = id
            · exact Or.inr (own ▸ leads)
            · rw [others other own]
              exact sound.offered other
          · intro other
            by_cases own : other = id
            · exact own ▸ phase
            · rw [others other own]
              exact sound.phases other
      | bind ruleId succeeds =>
          cases advanced
          exact { sound with rules := sound.rules.bind ruleId succeeds }

end Sound

/-! ## What a connection reaches -/

/-- A service that is to be running serves the entry at the port.  Names that differ only in what a
protocol leaves out of them are not told apart. -/
def Serves (host : Host) (serviceName portName : String) (port : UInt16) : Prop :=
  ∃ (name : String) (manifest : ServiceManifest),
    host.serviceManifests[name]? = some manifest ∧
      RuntimeControl.desiredStateOf host name = .running ∧
      protocolComponent manifest.name = protocolComponent serviceName ∧
      ∃ endpoint ∈ serviceExposeEndpointBindings manifest, endpoint.hostPort = port ∧
        protocolComponent endpoint.name = protocolComponent portName

theorem listens_iff_serves {server : LocalServices} (settled : Settled server)
    (serviceName portName : String) (port : UInt16) :
    Listens server.tunneling (servicePortProtocol serviceName portName) port ↔
      Serves server.host serviceName portName port := by
  rw [settled.listenersFollow]
  unfold Serves
  refine exists_congr fun name => exists_congr fun manifest =>
    and_congr_right fun _ => and_congr_right fun _ => ?_
  constructor
  · rintro ⟨endpoint, member, protocol, atPort⟩
    rw [protocol_of_mem_bindings member, servicePortProtocol_eq_iff] at protocol
    exact ⟨protocol.1, endpoint, member, atPort, protocol.2⟩
  · rintro ⟨service, endpoint, member, atPort, entry⟩
    refine ⟨endpoint, member, ?_, atPort⟩
    rw [protocol_of_mem_bindings member, servicePortProtocol_eq_iff]
    exact ⟨service, entry⟩

/-- A connection through a forwarding rule for the device is forwarded to the port at which the
device serves the rule's entry now, and nowhere else, however old the answer is that the service
was attached from. -/
theorem access_reaches_service [DecidableEq CallId] {setup : RuntimeSetup}
    {answers : ProviderAnswers} {parsers : AddressParsers} {device : String}
    {calls : CallId → AccessCall} {server : LocalServices} {stores : AccessStores}
    {steps : List (DeviceStep CallId)} {final : DeviceAccess CallId} (settled : Settled server)
    (met : EveryStep (DeviceAccess.step setup answers parsers calls)
      (DeviceAccess.Meets setup device calls) (.start server stores) steps)
    (reached : run (DeviceAccess.step setup answers parsers calls) (.start server stores) steps =
      some final)
    {ruleId : String} {state : ForwardingRuleState}
    (active : final.client.stores.rules[ruleId]? = some state)
    (toDevice : state.rule.remotePeerId = device) :
    ∃ serviceName portName protocol, state.rule.remoteServiceName = some serviceName ∧
      state.rule.remoteServicePortName = some portName ∧
      targetProtocolName state.rule = .ok protocol ∧
      ∀ port, Listens final.server.tunneling protocol port ↔
        Serves final.server.host serviceName portName port := by
  have sound : Sound device calls final :=
    invariant_of_everyStep (fun _ _ _ sound meets moved => sound.step meets moved)
      (sound_start settled stores) met reached
  obtain ⟨serviceName, portName, service, port, protocol⟩ :=
    sound.rules ruleId state active toDevice
  refine ⟨serviceName, portName, servicePortProtocol serviceName portName, service, port, ?_, ?_⟩
  · unfold targetProtocolName
    rw [protocol]
  · exact listens_iff_serves sound.settled serviceName portName

/-- An attach of the service at a given port. -/
private def demoCalls (_ : Unit) : AccessCall :=
  .attach webPeer
    { name := "demo"
      endpoints := [{ name := "main", protocol := servicePortProtocol "demo" "main" }] }
    none (some 8000)

/-- The service moves to another port after it was observed and attached. -/
private def demoSteps : List (DeviceStep Unit) :=
  [.operate (.apply "fungi: old" "/base"), .operate (.start "demo"), .answerManaged,
    .answerPublished] ++ List.replicate 5 (.access (.advance () .calm)) ++
    [.operate (.apply "fungi: new" "/base")]

theorem access_reaches_moved_demo :
    ∃ final ∈ run (DeviceAccess.step movedSetup noAnswers .loopback demoCalls)
        (.start (withoutServices []) nothingSaved) demoSteps,
      ∃ rule ∈ final.client.stores.rules.toList,
        ∃ serviceName portName protocol, rule.2.rule.remoteServiceName = some serviceName ∧
          rule.2.rule.remoteServicePortName = some portName ∧
          targetProtocolName rule.2.rule = .ok protocol ∧
          ∀ port, Listens final.server.tunneling protocol port ↔
            Serves final.server.host serviceName portName port := by
  have evaluated : ((run (DeviceAccess.step movedSetup noAnswers .loopback demoCalls)
      (.start (withoutServices []) nothingSaved) demoSteps).map fun final =>
        decide (∃ rule ∈ final.client.stores.rules.toList,
          rule.2.rule.remotePeerId = webPeer)) = some true := by
    decide +kernel
  obtain ⟨final, reached, found⟩ := Option.map_eq_some_iff.mp evaluated
  obtain ⟨rule, listed, toDevice⟩ := of_decide_eq_true found
  refine ⟨final, reached, rule, listed, ?_⟩
  exact access_reaches_service (settled_of_empty rfl) (by decide +kernel) reached
    (Std.ExtTreeMap.mem_toList_iff_getElem?_eq_some.mp listed) toDevice

end Fungi.Daemon.ServiceAccesses
