import Fungi.Daemon.ServiceEndpoints
import Fungi.Daemon.ServiceSnapshots
import Fungi.Lib.Triples
import Fungi.Runtime.Instances
import Fungi.Runtime.Records

/-!
# Published services

What a device answers about its services in `crates/daemon/src/runtime/control.rs`, and how
another device merges the two answers in `crates/daemon/src/services.rs`.  The time of the merge is
left out.
-/

namespace Fungi.Daemon

open Fungi.Lib Fungi.Runtime Fungi.Runtime.RuntimeControl Fungi.Util

/-- How a service is shown to other devices. -/
structure DeviceServiceMetadata where
  usage : Option ServiceExposeUsage
  iconUrl : Option String
  deriving DecidableEq

/-- A service with all that a snapshot says of it. -/
structure ObservedService extends DeviceService where
  runtime : RuntimeKind
  metadata : DeviceServiceMetadata
  status : ServiceStatus
  deriving DecidableEq

/-! ## The device itself -/

section Publishing

variable (setup : RuntimeSetup) (answers : ProviderAnswers)

/-- The published service of an exposed manifest. -/
def publishedService (manifest : ServiceManifest) (expose : ServiceExpose)
    (service : ServiceInstance) : ObservedService :=
  { name := manifest.name
    runtime := manifest.runtime
    metadata := { usage := expose.usage, iconUrl := expose.iconUrl }
    endpoints := (serviceExposeEndpointBindings manifest).map fun endpoint =>
      { name := endpoint.name, protocol := endpoint.protocol }
    status := service.status }

/-- The loop of `list_published_device_services`. -/
def publishInstances : List ServiceManifest → Action (List ObservedService)
  | [] => return []
  | manifest :: rest =>
      match manifest.expose with
      | none => publishInstances rest
      | some expose => do
          let inspected ←
            Program.attempt (inspectInstance setup answers manifest.runtime manifest.name)
          match inspected with
          | .error _ => publishInstances rest
          | .ok service =>
              if service.status.phase = .running then do
                let services ← publishInstances rest
                return publishedService manifest expose service :: services
              else publishInstances rest

/-- The published services in the order of their names. -/
def listPublishedDeviceServices : Action (List ObservedService) := do
  let manifests ← Program.gets fun host => host.serviceManifests.toList.map (·.2)
  let services ← publishInstances setup answers manifests
  return services.mergeSort fun left right => left.name ≤ right.name

end Publishing

/-! ## The device that asks -/

/-- What is shown of a service that is managed but not published. -/
def deviceServiceFromInstance (service : ServiceInstance) : ObservedService :=
  { name := service.name
    runtime := service.runtime
    metadata := { usage := none, iconUrl := none }
    endpoints := []
    status := service.status }

/-- A published service beside the managed one of its name. -/
def mergePublished (services : BTreeMap String ObservedService) (service : ObservedService) :
    BTreeMap String ObservedService :=
  match services[service.name]? with
  | some existing =>
      services.insert service.name
        { existing with metadata := service.metadata, endpoints := service.endpoints }
  | none => services.insert service.name service

/-- Managed services, completed or replaced by the published ones of the same names. -/
def mergeDeviceServiceSnapshot (managed : List ServiceInstance)
    (published : List ObservedService) : List ObservedService :=
  let servicesByName := managed.foldl
    (fun services service => services.insert service.name (deviceServiceFromInstance service)) ∅
  (published.foldl mergePublished servicesByName).toList.map (·.2)

/-! ## Named endpoints -/

/-- The endpoints have the protocols that their names are assigned. -/
def DeviceService.Named (service : DeviceService) : Prop :=
  ∀ endpoint ∈ service.endpoints,
    endpoint.protocol = servicePortProtocol service.name endpoint.name

theorem named_publishedService (manifest : ServiceManifest) (expose : ServiceExpose)
    (service : ServiceInstance) : (publishedService manifest expose service).Named := by
  intro endpoint member
  obtain ⟨binding, isBinding, rfl⟩ := List.mem_map.mp member
  exact protocol_of_mem_bindings isBinding

/-! ## What the answers leave alone -/

section Answers

variable {setup : RuntimeSetup} {answers : ProviderAnswers}

theorem providerInstance_within (runtime : RuntimeKind) (name : String) :
    Program.Within anyFrame (providerInstance setup answers runtime name) := by
  unfold providerInstance
  apply (Program.within_gets _).bind
  intro manifests
  cases runtime with
  | docker =>
      apply dockerProvider_within.bind
      intro policy
      apply (Program.within_gets _).bind
      intro handle
      unfold DockerAgent.inspectContainer
      apply (ensureManaged_within policy handle).attempt.bind
      intro outcome
      cases outcome with
      | ok _ =>
          apply (Program.within_gets _).bind
          intro containers
          dsimp only
          split
          · exact Program.within_pure _
          · exact Program.within_fail _
      | error error =>
          dsimp only
          split
          · exact Program.Within.ite (Program.within_pure _) (Program.within_fail _)
          · exact Program.within_fail _
  | wasmtime =>
      apply within_getService
      intro state held
      apply (refreshChildState_within (governs_any name) held).bind
      intro _
      exact Program.within_pure _
  | external =>
      dsimp only
      split
      · apply (Program.within_gets _).bind
        intro store
        exact Program.within_pure _
      · exact Program.within_fail _

theorem inspectInstance_records (runtime : RuntimeKind) (name : String) :
    Program.Within recordsFrame (inspectInstance setup answers runtime name) := by
  apply records_of_provider
  unfold inspectInstance
  apply (ensureRuntimeService_within runtime name).attempt.bind
  intro outcome
  cases outcome with
  | ok _ => exact providerInstance_within runtime name
  | error error =>
      apply (Program.within_gets _).bind
      intro manifests
      split
      · exact Program.within_pure _
      · exact Program.within_fail _

theorem listServices_records : Program.Within recordsFrame (listServices setup answers) := by
  have instances : ∀ manifests : List ServiceManifest,
      Program.Within recordsFrame (listInstances setup answers manifests) := by
    intro manifests
    induction manifests with
    | nil => exact Program.within_pure _
    | cons manifest rest inductionHypothesis =>
        apply (inspectInstance_records manifest.runtime manifest.name).attempt.bind
        intro inspected
        apply inductionHypothesis.bind
        intro services
        exact Program.within_pure _
  apply (Program.within_gets _).bind
  intro manifests
  apply (instances manifests).bind
  intro services
  exact Program.within_pure _

/-- The answer to a discovery request changes no record, and names the endpoints it lists. -/
theorem listPublishedDeviceServices_yields :
    Program.Yields recordsFrame (fun _ => True)
      (fun services => ∀ service ∈ services, service.Named)
      (listPublishedDeviceServices setup answers) := by
  have instances : ∀ manifests : List ServiceManifest,
      Program.Yields recordsFrame (fun _ => True)
        (fun services => ∀ service ∈ services, service.Named)
        (publishInstances setup answers manifests) := by
    intro manifests
    induction manifests with
    | nil => exact Program.yields_pure nofun
    | cons manifest rest inductionHypothesis =>
        unfold publishInstances
        split
        · exact inductionHypothesis
        · next expose _ =>
            have inspected : Program.Within recordsFrame
                (inspectInstance setup answers manifest.runtime manifest.name) :=
              inspectInstance_records _ _
            apply (inspected.attempt.yields fun _ _ _ _ => trivial).bind
            intro outcome _
            cases outcome with
            | error error => exact inductionHypothesis
            | ok service =>
                dsimp only
                split
                · apply inductionHypothesis.bind
                  intro services named
                  apply Program.yields_pure
                  exact List.forall_mem_cons.mpr
                    ⟨named_publishedService manifest expose service, named⟩
                · exact inductionHypothesis
  unfold listPublishedDeviceServices
  apply ((Program.within_gets _).yields fun _ _ _ _ => trivial).bind
  intro manifests _
  apply (instances manifests).bind
  intro services named
  apply Program.yields_pure
  intro service member
  exact named service (List.mem_mergeSort.mp member)

end Answers

/-! ## Merging -/

/-- The services of a map stand under their names, and their endpoints have their protocols. -/
def AllNamed (services : BTreeMap String ObservedService) : Prop :=
  ∀ (name : String) (service : ObservedService), services[name]? = some service →
    service.name = name ∧ service.Named

theorem allNamed_insert {services : BTreeMap String ObservedService} {service : ObservedService}
    (named : AllNamed services) (isNamed : service.Named) :
    AllNamed (services.insert service.name service) := by
  intro name other found
  rw [getElem?_insert] at found
  split at found
  · next same =>
      obtain rfl := Option.some.inj found
      exact ⟨same, isNamed⟩
  · exact named name other found

theorem allNamed_managed (managed : List ServiceInstance)
    {services : BTreeMap String ObservedService} (named : AllNamed services) :
    AllNamed (managed.foldl (fun services service =>
      services.insert service.name (deviceServiceFromInstance service)) services) := by
  induction managed generalizing services with
  | nil => exact named
  | cons service rest inductionHypothesis =>
      apply inductionHypothesis
      exact @allNamed_insert services (deviceServiceFromInstance service) named nofun

theorem allNamed_mergePublished {services : BTreeMap String ObservedService}
    {service : ObservedService} (named : AllNamed services) (isNamed : service.Named) :
    AllNamed (mergePublished services service) := by
  unfold mergePublished
  split
  · next existing found =>
      have sameName := (named _ _ found).1
      rw [← sameName]
      exact @allNamed_insert services
        { existing with metadata := service.metadata, endpoints := service.endpoints } named
        fun endpoint member => by
          rw [isNamed endpoint member, ← sameName]
  · exact allNamed_insert named isNamed

/-- Whatever a device says about its managed services, the endpoints in a snapshot are published
ones. -/
theorem named_mergeDeviceServiceSnapshot {managed : List ServiceInstance}
    {published : List ObservedService} (isNamed : ∀ service ∈ published, service.Named) :
    ∀ service ∈ mergeDeviceServiceSnapshot managed published, service.Named := by
  have merged : ∀ (rest : List ObservedService) (services : BTreeMap String ObservedService),
      (∀ service ∈ rest, service.Named) → AllNamed services →
      AllNamed (rest.foldl mergePublished services) := by
    intro rest
    induction rest with
    | nil => exact fun services _ named => named
    | cons service rest inductionHypothesis =>
        intro services restNamed named
        exact inductionHypothesis _
          (fun other member => restNamed other (List.mem_cons_of_mem _ member))
          (allNamed_mergePublished named (restNamed service List.mem_cons_self))
  intro service member
  obtain ⟨⟨name, found⟩, isEntry, rfl⟩ := List.mem_map.mp member
  have empty : AllNamed (∅ : BTreeMap String ObservedService) := by
    intro name service found
    simp at found
  exact (merged published _ isNamed (allNamed_managed managed empty) name found
    (Std.ExtTreeMap.mem_toList_iff_getElem?_eq_some.mp isEntry)).2

end Fungi.Daemon
