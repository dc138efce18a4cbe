import Fungi.Lib.OrderedMap
import Fungi.Lib.Run
import Fungi.Daemon.TcpTunneling
import Fungi.Runtime.ManifestRoundTrip

/-!
# Service endpoints

`crates/daemon/src/service_endpoints.rs`: enabling a service adds one listening rule
for each of its endpoints, disabling it removes them.  Endpoints meet in the
registry, which knows them by protocol only, so services stay apart exactly when
their normalised names do.
-/

namespace Fungi.Daemon

open Fungi.Lib Fungi.Util Fungi.Config Fungi.Runtime

/-- The listening rule of an endpoint. -/
def endpointRule (endpoint : ServiceExposeEndpointBinding) : ListeningRule :=
  { host := "127.0.0.1", port := endpoint.hostPort, protocol := some endpoint.protocol }

/-- The rule that already serves the endpoint. -/
def existingRuleId (rules : BTreeMap String ListeningRule)
    (endpoint : ServiceExposeEndpointBinding) : Option String :=
  (rules.toList.find? fun item =>
    item.2.port = endpoint.hostPort ∧ item.2.protocol = some endpoint.protocol).map (·.1)

/-- The loop of the synchronisation, over the endpoints that remain.  `rules` are the
listening rules read before the loop; the first failure ends it. -/
def syncEndpoints (rules : BTreeMap String ListeningRule) (enabled : Bool) :
    List ServiceExposeEndpointBinding → TcpTunnelingControl →
      TcpTunnelingControl × Except Error Unit
  | [], tunneling => (tunneling, .ok ())
  | endpoint :: rest, tunneling =>
      match existingRuleId rules endpoint, enabled with
      | none, true =>
          match tunneling.addListeningRule (endpointRule endpoint) with
          | .error error => (tunneling, .error error)
          | .ok next => syncEndpoints rules enabled rest next
      | some ruleId, false =>
          match tunneling.removeListeningRule ruleId with
          | (next, .error error) => (next, .error error)
          | (next, .ok ()) => syncEndpoints rules enabled rest next
      | _, _ => syncEndpoints rules enabled rest tunneling

/-- Listen for the endpoints of a manifest, or stop listening; without one there is nothing to
do. -/
def syncServiceEndpointListenersForManifest (tunneling : TcpTunnelingControl)
    (manifest : Option ServiceManifest) (enabled : Bool) :
    TcpTunnelingControl × Except Error Unit :=
  match manifest with
  | none => (tunneling, .ok ())
  | some manifest =>
      syncEndpoints tunneling.listeningRules enabled (serviceExposeEndpointBindings manifest)
        tunneling

/-! ## Bindings -/

/-- An endpoint is known by the normalised names of its service and its entry. -/
theorem protocol_of_mem_bindings {manifest : ServiceManifest}
    {endpoint : ServiceExposeEndpointBinding}
    (membership : endpoint ∈ serviceExposeEndpointBindings manifest) :
    endpoint.protocol = servicePortProtocol manifest.name endpoint.name := by
  unfold serviceExposeEndpointBindings at membership
  split at membership
  · cases membership
  · split at membership
    · cases membership
    · dsimp only at membership
      rw [List.mem_insertionSort, List.mem_filterMap] at membership
      obtain ⟨port, -, bound⟩ := membership
      rw [Option.bind_eq_some_iff] at bound
      obtain ⟨name, -, bound⟩ := bound
      split at bound
      · cases bound
      · cases bound
        rfl

/-! ## Registered endpoints -/

section Registered

variable {Service : Type} {services : Service → ServiceManifest}

/-- The normalised names keep the endpoints of a family of services apart. -/
structure NormalizedApart (services : Service → ServiceManifest) : Prop where
  names : ∀ left right, protocolComponent (services left).name =
    protocolComponent (services right).name → left = right
  entries : ∀ service, ((serviceExposeEndpointBindings (services service)).map fun endpoint =>
    protocolComponent endpoint.name).Nodup

/-- An endpoint of one of the services. -/
def IsEndpoint (services : Service → ServiceManifest)
    (endpoint : ServiceExposeEndpointBinding) : Prop :=
  ∃ service, endpoint ∈ serviceExposeEndpointBindings (services service)

theorem NormalizedApart.protocol_injective (apart : NormalizedApart services)
    {left right : Service} {endpoint endpoint' : ServiceExposeEndpointBinding}
    (membership : endpoint ∈ serviceExposeEndpointBindings (services left))
    (membership' : endpoint' ∈ serviceExposeEndpointBindings (services right))
    (same : endpoint.protocol = endpoint'.protocol) : left = right ∧ endpoint = endpoint' := by
  rw [protocol_of_mem_bindings membership, protocol_of_mem_bindings membership',
    servicePortProtocol_eq_iff] at same
  have owner := apart.names left right same.1
  subst owner
  exact ⟨rfl, List.inj_on_of_nodup_map (apart.entries left) membership membership' same.2⟩

/-- The rules are rules of endpoints, and the registry follows them. -/
structure Consistent (services : Service → ServiceManifest)
    (tunneling : TcpTunnelingControl) : Prop where
  rules : ∀ ruleId rule, tunneling.listeningRules[ruleId]? = some rule →
    ruleId = generateListeningRuleId rule ∧
      ∃ endpoint, IsEndpoint services endpoint ∧ rule = endpointRule endpoint
  listeners : ∀ protocol address, tunneling.listeners[protocol]? = some address ↔
    ∃ (ruleId : String) (rule : ListeningRule), tunneling.listeningRules[ruleId]? = some rule ∧
      rule.protocol = some protocol ∧ address = (rule.host, rule.port)

theorem consistent_new : Consistent services .new where
  rules := by
    intro ruleId rule found
    simp [TcpTunnelingControl.new] at found
  listeners := by
    intro protocol address
    simp [TcpTunnelingControl.new]

theorem listeningProtocol_endpointRule {endpoint : ServiceExposeEndpointBinding}
    (isEndpoint : IsEndpoint services endpoint) :
    listeningProtocol (endpointRule endpoint) = .ok endpoint.protocol := by
  obtain ⟨service, membership⟩ := isEndpoint
  unfold listeningProtocol endpointRule
  dsimp only [Option.getD_some]
  rw [if_neg]
  rw [protocol_of_mem_bindings membership, not_not]
  simp [servicePortProtocol, fungiServicePortProtocolPrefix]

/-- A registered protocol of an endpoint is registered by the endpoint's own rule. -/
theorem Consistent.rule_of_registered {tunneling : TcpTunnelingControl}
    (apart : NormalizedApart services) (consistent : Consistent services tunneling)
    {endpoint : ServiceExposeEndpointBinding} (isEndpoint : IsEndpoint services endpoint)
    {address : String × UInt16}
    (registered : tunneling.listeners[endpoint.protocol]? = some address) :
    ∃ ruleId : String, tunneling.listeningRules[ruleId]? = some (endpointRule endpoint) ∧
      address = ("127.0.0.1", endpoint.hostPort) := by
  obtain ⟨ruleId, rule, found, protocol, rfl⟩ :=
    (consistent.listeners endpoint.protocol address).mp registered
  obtain ⟨-, endpoint', ⟨service', membership'⟩, rfl⟩ := consistent.rules ruleId rule found
  obtain ⟨service, membership⟩ := isEndpoint
  obtain ⟨-, rfl⟩ := apart.protocol_injective membership' membership (Option.some.inj protocol)
  exact ⟨ruleId, found, rfl⟩

end Registered

/-! ## One rule -/

section Steps

variable {Service : Type} {services : Service → ServiceManifest}
  {tunneling next : TcpTunnelingControl} {endpoint : ServiceExposeEndpointBinding}

theorem addListeningRule_eq_ok (isEndpoint : IsEndpoint services endpoint) :
    tunneling.addListeningRule (endpointRule endpoint) = .ok next ↔
      generateListeningRuleId (endpointRule endpoint) ∉ tunneling.listeningRules ∧
        endpoint.protocol ∉ tunneling.listeners ∧
        next =
          { listeningRules := tunneling.listeningRules.insert
              (generateListeningRuleId (endpointRule endpoint)) (endpointRule endpoint)
            listeners := tunneling.listeners.insert endpoint.protocol
              ("127.0.0.1", endpoint.hostPort) } := by
  unfold TcpTunnelingControl.addListeningRule
  rw [listeningProtocol_endpointRule isEndpoint]
  dsimp only
  rw [guard_eq_ok, guard_eq_ok, Except.ok.injEq, eq_comm (b := next)]
  rfl

theorem Consistent.add (consistent : Consistent services tunneling)
    (isEndpoint : IsEndpoint services endpoint)
    (added : tunneling.addListeningRule (endpointRule endpoint) = .ok next) :
    Consistent services next := by
  obtain ⟨newId, newProtocol, rfl⟩ := (addListeningRule_eq_ok isEndpoint).mp added
  have unregistered : ∀ (ruleId : String) (rule : ListeningRule),
      tunneling.listeningRules[ruleId]? = some rule →
      rule.protocol ≠ some endpoint.protocol := by
    intro ruleId rule found protocol
    have registered := (consistent.listeners endpoint.protocol _).mpr
      ⟨ruleId, rule, found, protocol, rfl⟩
    apply newProtocol
    rw [Std.ExtTreeMap.mem_iff_isSome_getElem?, registered]
    rfl
  constructor
  · intro ruleId rule found
    rw [getElem?_insert] at found
    split at found
    · next same =>
        cases found
        exact ⟨same.symm, endpoint, isEndpoint, rfl⟩
    · exact consistent.rules ruleId rule found
  · intro protocol address
    rw [getElem?_insert]
    constructor
    · intro registered
      split at registered
      · next same =>
          cases registered
          refine ⟨generateListeningRuleId (endpointRule endpoint), endpointRule endpoint, ?_,
            congrArg some same, rfl⟩
          rw [getElem?_insert, if_pos rfl]
      · obtain ⟨ruleId, rule, found, owner, rfl⟩ :=
          (consistent.listeners protocol address).mp registered
        refine ⟨ruleId, rule, ?_, owner, rfl⟩
        rw [getElem?_insert, if_neg]
        · exact found
        · rintro rfl
          apply newId
          rw [Std.ExtTreeMap.mem_iff_isSome_getElem?, found]
          rfl
    · rintro ⟨ruleId, rule, found, owner, rfl⟩
      rw [getElem?_insert] at found
      split at found
      · cases found
        rw [if_pos (Option.some.inj owner)]
        rfl
      · rw [if_neg]
        · exact (consistent.listeners protocol _).mpr ⟨ruleId, rule, found, owner, rfl⟩
        · rintro rfl
          exact unregistered ruleId rule found owner

/-- Removing a rule keeps the registry in step, found or not. -/
theorem Consistent.remove (apart : NormalizedApart services)
    (consistent : Consistent services tunneling) (ruleId : String) :
    Consistent services (tunneling.removeListeningRule ruleId).1 := by
  unfold TcpTunnelingControl.removeListeningRule
  cases found : tunneling.listeningRules[ruleId]? with
  | none => exact consistent
  | some rule =>
      obtain ⟨rfl, endpoint, isEndpoint, rfl⟩ := consistent.rules ruleId rule found
      dsimp only
      rw [listeningProtocol_endpointRule isEndpoint]
      constructor
      · intro otherId other kept
        rw [getElem?_erase] at kept
        split at kept
        · cases kept
        · exact consistent.rules otherId other kept
      · intro protocol address
        dsimp only
        rw [getElem?_erase]
        constructor
        · intro registered
          split at registered
          · cases registered
          · next different =>
              obtain ⟨otherId, other, kept, owner, rfl⟩ :=
                (consistent.listeners protocol address).mp registered
              refine ⟨otherId, other, ?_, owner, rfl⟩
              rw [getElem?_erase, if_neg]
              · exact kept
              · rintro rfl
                rw [found] at kept
                cases kept
                exact different (Option.some.inj owner)
        · rintro ⟨otherId, other, kept, owner, rfl⟩
          rw [getElem?_erase] at kept
          split at kept
          · cases kept
          · next different =>
              rw [if_neg]
              · exact (consistent.listeners protocol _).mpr ⟨otherId, other, kept, owner, rfl⟩
              · rintro rfl
                obtain ⟨rfl, endpoint', ⟨service', membership'⟩, rfl⟩ :=
                  consistent.rules otherId other kept
                obtain ⟨service, membership⟩ := isEndpoint
                obtain ⟨-, rfl⟩ := apart.protocol_injective membership' membership
                  (Option.some.inj owner)
                exact different rfl

end Steps

/-! ## One synchronisation -/

section Sync

variable {Service : Type} {services : Service → ServiceManifest}
  {tunneling next : TcpTunnelingControl} {rules : BTreeMap String ListeningRule}

theorem Consistent.syncEndpoints (apart : NormalizedApart services)
    (consistent : Consistent services tunneling) (enabled : Bool)
    (endpoints : List ServiceExposeEndpointBinding)
    (owned : ∀ endpoint ∈ endpoints, IsEndpoint services endpoint) :
    Consistent services (syncEndpoints rules enabled endpoints tunneling).1 := by
  induction endpoints generalizing tunneling with
  | nil => exact consistent
  | cons endpoint rest inductionHypothesis =>
      have isEndpoint := owned endpoint List.mem_cons_self
      have ownedRest : ∀ endpoint ∈ rest, IsEndpoint services endpoint := by
        intro endpoint membership
        exact owned endpoint (List.mem_cons_of_mem _ membership)
      unfold Fungi.Daemon.syncEndpoints
      split
      · split
        · exact consistent
        · next next added => exact inductionHypothesis (consistent.add isEndpoint added) ownedRest
      · next ruleId _ =>
          have removed := consistent.remove apart ruleId
          split
          · next next error outcome =>
              rw [outcome] at removed
              exact removed
          · next next outcome =>
              rw [outcome] at removed
              exact inductionHypothesis removed ownedRest
      · exact inductionHypothesis consistent ownedRest

/-- The endpoints that remain to be enabled and have no rule yet. -/
def Fresh (rules : BTreeMap String ListeningRule) (tunneling : TcpTunnelingControl)
    (endpoints : List ServiceExposeEndpointBinding) : Prop :=
  ∀ endpoint ∈ endpoints, existingRuleId rules endpoint = none →
    ∀ ruleId : String, tunneling.listeningRules[ruleId]? ≠ some (endpointRule endpoint)

theorem fresh_start (endpoints : List ServiceExposeEndpointBinding) :
    Fresh tunneling.listeningRules tunneling endpoints := by
  intro endpoint _ absent ruleId found
  unfold existingRuleId at absent
  rw [Option.map_eq_none_iff, List.find?_eq_none] at absent
  have membership := Std.ExtTreeMap.mem_toList_iff_getElem?_eq_some.mpr found
  apply absent _ membership
  simp [endpointRule]

private theorem alreadyExists_ne_alreadyRegistered (ruleId : String) :
    Error.message s!"Listening rule already exists: {ruleId}" ≠ alreadyRegistered := by
  intro same
  injection same with texts
  have first := congrArg (fun text => text.toList.head?) texts
  rw [String.toList_append, List.head?_append_of_ne_nil] at first
  · revert first
    decide
  · decide

/-- Enabling the endpoints of one service never meets a registered protocol. -/
theorem syncEndpoints_ne_alreadyRegistered (apart : NormalizedApart services)
    (consistent : Consistent services tunneling) {service : Service}
    (endpoints : List ServiceExposeEndpointBinding) (distinct : endpoints.Nodup)
    (owned : ∀ endpoint ∈ endpoints,
      endpoint ∈ serviceExposeEndpointBindings (services service))
    (fresh : Fresh rules tunneling endpoints) :
    (syncEndpoints rules true endpoints tunneling).2 ≠ .error alreadyRegistered := by
  induction endpoints generalizing tunneling with
  | nil =>
      intro impossible
      cases impossible
  | cons endpoint rest inductionHypothesis =>
      have membership := owned endpoint List.mem_cons_self
      have isEndpoint : IsEndpoint services endpoint := ⟨service, membership⟩
      have ownedRest : ∀ other ∈ rest,
          other ∈ serviceExposeEndpointBindings (services service) := by
        intro other inside
        exact owned other (List.mem_cons_of_mem _ inside)
      rw [List.nodup_cons] at distinct
      unfold Fungi.Daemon.syncEndpoints
      split
      · next absent _ =>
          split
          · next error refused =>
              rintro ⟨⟩
              unfold TcpTunnelingControl.addListeningRule at refused
              rw [listeningProtocol_endpointRule isEndpoint] at refused
              dsimp only at refused
              split at refused
              · exact alreadyExists_ne_alreadyRegistered _ (Except.error.inj refused)
              · split at refused
                · next registered =>
                    rw [Std.ExtTreeMap.mem_iff_isSome_getElem?, Option.isSome_iff_exists]
                      at registered
                    obtain ⟨address, registered⟩ := registered
                    obtain ⟨ruleId, found, -⟩ :=
                      consistent.rule_of_registered apart isEndpoint registered
                    exact fresh endpoint List.mem_cons_self absent ruleId found
                · cases refused
          · next next added =>
              apply inductionHypothesis (consistent.add isEndpoint added) distinct.2 ownedRest
              intro other inside absentOther ruleId found
              obtain ⟨-, -, rfl⟩ := (addListeningRule_eq_ok isEndpoint).mp added
              rw [getElem?_insert] at found
              split at found
              · have protocols := congrArg ListeningRule.protocol (Option.some.inj found)
                obtain ⟨-, rfl⟩ := apart.protocol_injective membership (ownedRest other inside)
                  (Option.some.inj protocols)
                exact distinct.1 inside
              · exact fresh other (List.mem_cons_of_mem _ inside) absentOther ruleId found
      · next impossible => cases impossible
      · apply inductionHypothesis consistent distinct.2 ownedRest
        intro other inside
        exact fresh other (List.mem_cons_of_mem _ inside)

end Sync

/-! ## Runs -/

section Runs

variable {Service : Type} {services : Service → ServiceManifest}

/-- Enable or disable the endpoints of one service. -/
structure SyncAction (Service : Type) where
  service : Service
  enabled : Bool

/-- One synchronisation, whether it succeeds or not. -/
def syncStep (services : Service → ServiceManifest) (tunneling : TcpTunnelingControl)
    (action : SyncAction Service) : Option TcpTunnelingControl :=
  some (syncServiceEndpointListenersForManifest tunneling (services action.service)
    action.enabled).1

theorem consistent_of_run (apart : NormalizedApart services) {final : TcpTunnelingControl}
    {actions : List (SyncAction Service)}
    (reached : run (syncStep services) .new actions = some final) : Consistent services final := by
  refine run_induction (motive := fun _ => Consistent services) consistent_new ?_ reached
  intro actions state action next _ consistent taken
  cases taken
  apply consistent.syncEndpoints apart
  intro endpoint membership
  exact ⟨action.service, membership⟩

/-- Two endpoints share a protocol exactly when their service names and their entry
names normalise to the same components.  Services that normalisation keeps apart
therefore never share one: whatever synchronisations have run, a registered
protocol leads to its own endpoint's host port, and enabling a service does not
find a protocol of its endpoints registered by another. -/
theorem endpoint_protocols_injective (services : Service → ServiceManifest) :
    (∀ service service' entry entry',
      servicePortProtocol service entry = servicePortProtocol service' entry' ↔
        protocolComponent service = protocolComponent service' ∧
          protocolComponent entry = protocolComponent entry') ∧
    (NormalizedApart services →
      (∀ left right endpoint endpoint',
        endpoint ∈ serviceExposeEndpointBindings (services left) →
        endpoint' ∈ serviceExposeEndpointBindings (services right) →
        endpoint.protocol = endpoint'.protocol → left = right ∧ endpoint = endpoint') ∧
      ∀ actions tunneling, run (syncStep services) .new actions = some tunneling →
        (∀ service, ∀ endpoint ∈ serviceExposeEndpointBindings (services service),
          ∀ address, tunneling.listeners[endpoint.protocol]? = some address →
            address = ("127.0.0.1", endpoint.hostPort)) ∧
        ∀ service, (syncServiceEndpointListenersForManifest tunneling (services service) true).2 ≠
          .error alreadyRegistered) := by
  refine ⟨fun _ _ _ _ => servicePortProtocol_eq_iff, ?_⟩
  intro apart
  refine ⟨fun _ _ _ _ => apart.protocol_injective, ?_⟩
  intro actions tunneling reached
  have consistent := consistent_of_run apart reached
  constructor
  · intro service endpoint membership address registered
    obtain ⟨_, -, forwarded⟩ :=
      consistent.rule_of_registered apart ⟨service, membership⟩ registered
    exact forwarded
  · intro service
    apply syncEndpoints_ne_alreadyRegistered apart consistent _ (apart.entries service).of_map
    · intro endpoint membership
      exact membership
    · exact fresh_start _

end Runs

/-! ## Names that normalisation merges -/

/-- Two services whose names become one in a protocol. -/
def mergingYaml : SerdeYaml :=
  .ofTable
    [("fungi: first", publishingDocument "My App" [("web", 8080)]),
      ("fungi: second", publishingDocument "my-app" [("web", 8081)])]
    (by decide +kernel) (by decide +kernel)

/-- Two services with different names whose endpoints share a protocol. -/
theorem endpoint_protocols_collide :
    ¬ ∀ (yaml : SerdeYaml) (content content' baseDir : String) (paths : FungiPaths)
      (usedHostPorts usedHostPorts' : Finset UInt16) (answers answers' rest rest' : List UInt16)
      (manifest manifest' : ServiceManifest),
      parseServiceManifestYaml yaml content baseDir paths usedHostPorts answers =
        .ok (manifest, rest) →
      parseServiceManifestYaml yaml content' baseDir paths usedHostPorts' answers' =
        .ok (manifest', rest') →
      manifest.name ≠ manifest'.name →
      ∀ endpoint ∈ serviceExposeEndpointBindings manifest,
        ∀ endpoint' ∈ serviceExposeEndpointBindings manifest',
          endpoint.protocol ≠ endpoint'.protocol := by
  intro always
  refine always mergingYaml "fungi: first" "fungi: second" "/base"
    (.fromFungiHomeForChannel "/home/fungi" .stable) ∅ ∅ [] [] [] []
    (publishingManifest "My App" [("web", 8080)]) (publishingManifest "my-app" [("web", 8081)])
    (by decide +kernel) (by decide +kernel) (by decide)
    { name := "web", protocol := "/fungi/service-port/my-app/web/0.1.0", hostPort := 8080,
      servicePort := 8080 } (by decide +kernel)
    { name := "web", protocol := "/fungi/service-port/my-app/web/0.1.0", hostPort := 8081,
      servicePort := 8081 } (by decide +kernel) rfl

/-- One of two services that are told apart. -/
def demoServices (second : Bool) : ServiceManifest :=
  if second then publishingManifest "photos" [("web", 8081)]
  else publishingManifest "notes" [("web", 8080)]

private theorem normalizedApart_demoServices : NormalizedApart demoServices := by
  constructor
  · decide +kernel
  · decide +kernel

/-- With `notes` enabled, `photos` can be enabled too. -/
theorem endpoint_protocols_injective_demo :
    (syncServiceEndpointListenersForManifest
      (syncServiceEndpointListenersForManifest .new (demoServices false) true).1
      (demoServices true) true).2 ≠ .error alreadyRegistered :=
  (((endpoint_protocols_injective demoServices).2 normalizedApart_demoServices).2
    [{ service := false, enabled := true }] _ rfl).2 true

end Fungi.Daemon
