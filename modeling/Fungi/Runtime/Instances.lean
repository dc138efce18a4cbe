import Fungi.Lib.Json
import Fungi.Runtime.Control

/-!
# Service instances

What `RuntimeControl::list_services` says about each service, and how a service is written
as JSON.  What the Docker engine knows of a container beyond the model of it, and the log
texts that a provider reads, are parameters.
-/

namespace Fungi.Runtime

open Fungi.Lib

/-! ## Instances -/

/-- The phase that a service is in. -/
inductive ServicePhase where
  | running
  | stopped
  | exited
  | missing
  | unknown
  deriving DecidableEq

/-- The phase of a service, with what its runtime says of it. -/
structure ServiceStatus where
  phase : ServicePhase
  detail : Option String
  deriving DecidableEq

/-- A service as it is listed. -/
structure ServiceInstance where
  id : String
  runtime : RuntimeKind
  name : String
  definitionId : Option String
  source : String
  labels : BTreeMap String String
  ports : List ServicePort
  exposedEndpoints : List ServiceExposeEndpointBinding
  status : ServiceStatus
  deriving DecidableEq

/-- The details of a container that the engine chooses: its id and the word for its state. -/
structure ContainerDetails where
  id : String
  state : String

/-- A text, and whether something was cut off from it. -/
structure BoundedLogText where
  text : String
  truncated : Bool

/-- What the providers answer from outside the daemon. -/
structure ProviderAnswers where
  containerDetails : String → Container → ContainerDetails
  /-- The log text of a service: the name of its container or its log file, the lines asked
  for, and the bytes allowed. -/
  logs : Host → String → Nat → Nat → Except Error BoundedLogText
  /-- The text of an HTTP status. -/
  statusText : Nat → String

/-- The text of a failure. -/
def Error.text (answers : ProviderAnswers) : Error → String
  | .message text => text
  | .dockerApi status text => s!"docker api error ({answers.statusText status}): {text}"

/-- The names of the runtimes. -/
def runtimeName : RuntimeKind → String
  | .docker => "docker"
  | .wasmtime => "wasmtime"
  | .external => "external"

/-- The id of a service that its runtime gives none. -/
def serviceInstanceId (runtime : RuntimeKind) (name : String) : String :=
  s!"{runtimeName runtime}:{name}"

/-- The service of a manifest that its runtime does not have. -/
def missingInstanceFromManifest (manifest : ServiceManifest) : ServiceInstance :=
  { id := serviceInstanceId manifest.runtime manifest.name
    runtime := manifest.runtime
    name := manifest.name
    definitionId := manifest.definitionId
    source := sourceDisplay manifest.source
    labels := manifest.labels
    ports := manifest.ports
    exposedEndpoints := serviceExposeEndpointBindings manifest
    status := { phase := .missing, detail := none } }

/-- What a runtime says of a service, completed from the manifest. -/
def enrichInstanceFromManifest (service : ServiceInstance) (manifest : ServiceManifest) :
    ServiceInstance :=
  { service with
    id := if service.id = "" then serviceInstanceId manifest.runtime manifest.name else service.id
    name := manifest.name
    definitionId := manifest.definitionId
    ports := manifest.ports
    exposedEndpoints := serviceExposeEndpointBindings manifest }

/-- The service of a manifest that runs outside the daemon. -/
def externalInstanceFromManifest (manifest : ServiceManifest) (running : Bool) : ServiceInstance :=
  { id := s!"external:{manifest.name}"
    runtime := .external
    name := manifest.name
    definitionId := manifest.definitionId
    source := match manifest.source with
      | .existingTcp host port => s!"{host}:{port}"
      | _ => "external"
    labels := manifest.labels
    ports := manifest.ports
    exposedEndpoints := serviceExposeEndpointBindings manifest
    status := { phase := if running then .running else .stopped, detail := none } }

/-- The phase that a container's state stands for. -/
def dockerServiceStatus (runtimeState : String) (running : Bool) : ServiceStatus :=
  { phase :=
      if running then .running
      else if runtimeState = "created" then .stopped
      else if runtimeState = "exited" ∨ runtimeState = "dead" then .exited
      else .unknown
    detail := some runtimeState }

/-- A service from what the engine says of its container. -/
def mapDockerInstance (details : ContainerDetails) (container : Container) : ServiceInstance :=
  { id := details.id
    runtime := .docker
    name := container.spec.name.getD ""
    definitionId := none
    source := container.spec.image
    labels := container.spec.labels
    ports := []
    exposedEndpoints := []
    status := dockerServiceStatus details.state container.running }

/-- A service from what is in memory of it. -/
def mapWasmtimeInstance (handle : String) (state : WasmtimeServiceState) : ServiceInstance :=
  { id := s!"wasmtime:{handle}"
    runtime := .wasmtime
    name := state.manifest.name
    definitionId := state.manifest.definitionId
    source := state.sourceDisplay
    labels := state.manifest.labels
    ports := []
    exposedEndpoints := []
    status :=
      if state.child.isSome then { phase := .running, detail := none }
      else match state.lastExitCode with
        | some code => { phase := .exited, detail := some s!"exited({code})" }
        | none => { phase := .stopped, detail := none } }

/-! ## Listing -/

namespace RuntimeControl

variable (setup : RuntimeSetup) (answers : ProviderAnswers)

/-- The instance that a provider reports. -/
def providerInstance (runtime : RuntimeKind) (name : String) : Action ServiceInstance := do
  let manifests ← Program.gets (·.serviceManifests)
  match runtime with
  | .docker => do
      let policy ← dockerProvider setup
      let handle ← dockerRuntimeHandleOrName name
      match ← Program.attempt (DockerAgent.inspectContainer policy handle) with
      | .ok () => do
          let containers ← Program.gets (·.containers)
          match containers[handle]? with
          | some container =>
              let service := mapDockerInstance (answers.containerDetails handle container) container
              return (manifests[name]?.map (enrichInstanceFromManifest service)).getD service
          | none => Program.fail (noSuchContainer handle)
      | .error error =>
          match manifests[name]? with
          | some manifest =>
              if isMissingDockerContainerError error then
                return missingInstanceFromManifest manifest
              else Program.fail error
          | none => Program.fail error
  | .wasmtime => do
      let state ← WasmtimeRuntimeProvider.getService name
      let state ← WasmtimeRuntimeProvider.refreshChildState name state
      let service := mapWasmtimeInstance name state
      return (manifests[name]?.map (enrichInstanceFromManifest service)).getD service
  | .external =>
      match manifests[name]? with
      | some manifest => do
          let store ← Program.gets (·.serviceState)
          let running := (store.persistedService name).map (·.desiredState) = some .running
          return externalInstanceFromManifest manifest running
      | none => Program.fail (serviceMissing name)

/-- `inspect` with the instance it returns. -/
def inspectInstance (runtime : RuntimeKind) (name : String) : Action ServiceInstance := do
  match ← Program.attempt (ensureRuntimeService setup runtime name) with
  | .ok () => providerInstance setup answers runtime name
  | .error error => do
      let manifests ← Program.gets (·.serviceManifests)
      match manifests[name]? with
      | some manifest => return missingInstanceFromManifest manifest
      | none => Program.fail error

/-- The instances of the managed services, in order. -/
def listInstances : List ServiceManifest → Action (List ServiceInstance)
  | [] => return []
  | manifest :: rest => do
      let inspected ← Program.attempt (inspectInstance setup answers manifest.runtime manifest.name)
      let service := match inspected with
        | .ok service => service
        | .error _ => missingInstanceFromManifest manifest
      let services ← listInstances rest
      return enrichInstanceFromManifest service manifest :: services

/-- All services in the order of their names. -/
def listServices : Action (List ServiceInstance) := do
  let manifests ← Program.gets fun host => host.serviceManifests.toList.map (·.2)
  let services ← listInstances setup answers manifests
  return services.mergeSort fun left right => left.name ≤ right.name

/-- The end of the logs of a service, from the runtime that runs it. -/
def logsTextByNameBounded (name : String) (tail maxBytes : Nat) : Action BoundedLogText := do
  let runtime ← resolveRuntime name
  ensureRuntimeEnabled setup runtime
  ensureRuntimeService setup runtime name
  match runtime with
  | .docker => do
      let policy ← dockerProvider setup
      let handle ← dockerRuntimeHandleOrName name
      DockerAgent.ensureManaged policy handle
      let host ← Program.gets id
      Program.ofExcept (answers.logs host handle tail maxBytes)
  | .wasmtime => do
      let state ← WasmtimeRuntimeProvider.getService name
      let host ← Program.gets id
      Program.ofExcept (answers.logs host state.logFilePath tail maxBytes)
  | .external => Program.fail (.message "external TCP services do not have runtime logs")

end RuntimeControl

/-! ## As JSON -/

namespace ServiceInstance

open Json

/-- The phases by the names in JSON. -/
def encodePhase : ServicePhase → Encoded
  | .running => string "running"
  | .stopped => string "stopped"
  | .exited => string "exited"
  | .missing => string "missing"
  | .unknown => string "unknown"

/-- A status in JSON, its detail left out where there is none. -/
def encodeStatus (status : ServiceStatus) : Encoded :=
  object (field "phase" (encodePhase status.phase) ::
    optionalField "detail" string status.detail)

/-- The allocations by the names in JSON. -/
def encodeAllocation : ServicePortAllocation → Encoded
  | .auto => string "auto"
  | .fixed => string "fixed"

/-- The protocols by the names in JSON. -/
def encodeProtocol : ServicePortProtocol → Encoded
  | .tcp => string "tcp"
  | .udp => string "udp"

/-- A port in JSON. -/
def encodePort (port : ServicePort) : Encoded :=
  object
    [field "name" (option string port.name),
      field "host_port" (number port.hostPort.toNat),
      field "host_port_allocation" (encodeAllocation port.hostPortAllocation),
      field "service_port" (number port.servicePort.toNat),
      field "protocol" (encodeProtocol port.protocol)]

/-- A published endpoint in JSON. -/
def encodeEndpoint (endpoint : ServiceExposeEndpointBinding) : Encoded :=
  object
    [field "name" (string endpoint.name),
      field "protocol" (string endpoint.protocol),
      field "host_port" (number endpoint.hostPort.toNat),
      field "service_port" (number endpoint.servicePort.toNat)]

/-- The fields before the definition id, which is left out when there is none. -/
def leadingFields (service : ServiceInstance) : List Encoded :=
  [field "id" (string service.id),
    field "runtime" (string (runtimeName service.runtime)),
    field "name" (string service.name)]

/-- The fields after the definition id. -/
def trailingFields (service : ServiceInstance) : List Encoded :=
  [field "source" (string service.source),
    field "labels" (object (service.labels.toList.map fun label => field label.1 (string label.2))),
    field "ports" (array (service.ports.map encodePort)),
    field "exposed_endpoints" (array (service.exposedEndpoints.map encodeEndpoint)),
    field "status" (encodeStatus service.status)]

/-- A service in JSON. -/
def encode (service : ServiceInstance) : Encoded :=
  object (service.leadingFields ++ optionalField "definition_id" string service.definitionId ++
    service.trailingFields)

end ServiceInstance

end Fungi.Runtime
