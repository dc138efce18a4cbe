import Fungi.Runtime.Wasmtime

/-!
# The runtime control

`RuntimeControl` of `crates/daemon/src/runtime/control.rs`: starting, stopping and
removing services over the two providers, and what a restart restores.  The instance
descriptions that the calls return are left out.
-/

namespace Fungi.Runtime

open Fungi.Lib Fungi.Config

namespace RuntimeControl

/-! ## Helpers -/

/-- The policy of the Docker provider, where Docker is configured. -/
def dockerProvider (setup : RuntimeSetup) : Action AgentPolicy :=
  match setup.docker with
  | some policy => pure policy
  | none => Program.fail (.message "docker runtime is not enabled in config")

/-- Only an enabled runtime takes services. -/
def ensureRuntimeEnabled (setup : RuntimeSetup) (runtime : RuntimeKind) : Action Unit :=
  match runtime with
  | .docker =>
      if setup.docker.isNone then Program.fail (.message "docker runtime is not available")
      else return ()
  | .wasmtime =>
      if ¬ setup.wasmtimeEnabled then
        Program.fail (.message "wasmtime runtime is disabled in config")
      else return ()
  | .external => return ()

/-- The container of a service: its local service id, or its name. -/
def dockerRuntimeHandleOrName (name : String) : Action String :=
  Program.gets fun host => (host.serviceState.nameIndex[name]?).getD name

/-- The id of a service in the store. -/
def localServiceIdOf (name : String) : Action String := do
  let store ← Program.gets (·.serviceState)
  Program.ofExcept (store.lookupLocalServiceId name)

/-- The error for a service that nothing is known of. -/
def serviceMissing (name : String) : Error := .message s!"service not found: {name}"

/-- The runtime of a service in the index. -/
def resolveRuntime (name : String) : Action RuntimeKind := do
  let index ← Program.gets (·.serviceIndex)
  match index[name]? with
  | some runtime => return runtime
  | none => Program.fail (serviceMissing name)

/-- `reserved_host_ports_except`. -/
def reservedHostPortsExcept (host : Host) (serviceName : String) : Finset UInt16 :=
  ((host.serviceManifests.values.filter (·.name ≠ serviceName)).flatMap fun manifest =>
    manifest.ports.map (·.hostPort)).toFinset

/-- A Wasmtime service that is known but not in memory is restored from its manifest. -/
def ensureRuntimeService (setup : RuntimeSetup) (runtime : RuntimeKind) (name : String) :
    Action Unit := do
  let host ← Program.gets id
  if runtime ≠ .wasmtime ∨ name ∈ host.wasmtimeServices then return ()
  else
    match host.serviceManifests[name]? with
    | none => Program.fail (serviceMissing name)
    | some manifest => do
        let localServiceId ← localServiceIdOf name
        WasmtimeRuntimeProvider.restore setup manifest localServiceId

/-- Go on when a container is missing. -/
def ignoreMissingContainer (runtime : RuntimeKind) (action : Action Unit) : Action Unit := do
  match ← Program.attempt action with
  | .ok () => return ()
  | .error error =>
      if runtime = .docker ∧ isMissingDockerContainerError error then return ()
      else Program.fail error

/-! ## Starting, stopping and removing -/

/-- Start the runtime of a service. -/
def startRuntime (setup : RuntimeSetup) (runtime : RuntimeKind) (name : String) : Action Unit :=
  match runtime with
  | .docker => do
      let policy ← dockerProvider setup
      let handle ← dockerRuntimeHandleOrName name
      DockerAgent.startContainer policy handle
  | .wasmtime => WasmtimeRuntimeProvider.start setup name
  | .external => return ()

/-- Start a service, and record that it is to run. -/
def start (setup : RuntimeSetup) (runtime : RuntimeKind) (name : String) : Action Unit := do
  ensureRuntimeEnabled setup runtime
  ensureRuntimeService setup runtime name
  startRuntime setup runtime name
  setDesiredState setup.toPlatform name .running

/-- Stop the runtime of a service. -/
def stopRuntime (setup : RuntimeSetup) (runtime : RuntimeKind) (name : String) : Action Unit :=
  match runtime with
  | .docker => do
      let policy ← dockerProvider setup
      let handle ← dockerRuntimeHandleOrName name
      DockerAgent.stopContainer policy handle
  | .wasmtime => WasmtimeRuntimeProvider.stop name
  | .external => return ()

/-- Stop a service, and record that it is to be stopped. -/
def stop (setup : RuntimeSetup) (runtime : RuntimeKind) (name : String) : Action Unit := do
  Program.ignoring (ensureRuntimeService setup runtime name)
  ignoreMissingContainer runtime (stopRuntime setup runtime name)
  setDesiredState setup.toPlatform name .stopped

/-- Remove the container, or the Wasmtime service with its files. -/
def removeRuntime (setup : RuntimeSetup) (runtime : RuntimeKind) (name : String) : Action Unit :=
  match runtime with
  | .docker => do
      let policy ← dockerProvider setup
      let handle ← dockerRuntimeHandleOrName name
      DockerAgent.removeContainer policy handle
  | .wasmtime => do
      let localServiceId ← localServiceIdOf name
      WasmtimeRuntimeProvider.removeWithLocalServiceId setup name localServiceId
  | .external => return ()

/-- Remove a service from its runtime, from memory and from the store. -/
def remove (setup : RuntimeSetup) (runtime : RuntimeKind) (name : String) : Action Unit := do
  ignoreMissingContainer runtime (removeRuntime setup runtime name)
  Program.modify fun host => { host with serviceIndex := host.serviceIndex.erase name }
  Program.modify fun host => { host with serviceManifests := host.serviceManifests.erase name }
  removeService name

/-- Remove a service, whose runtime is in the index. -/
def removeByName (setup : RuntimeSetup) (name : String) : Action Unit := do
  let runtime ← resolveRuntime name
  remove setup runtime name

/-- Start a service, whose runtime is in the index. -/
def startByName (setup : RuntimeSetup) (name : String) : Action Unit := do
  let runtime ← resolveRuntime name
  start setup runtime name

/-- Stop a service, whose runtime is in the index. -/
def stopByName (setup : RuntimeSetup) (name : String) : Action Unit := do
  let runtime ← resolveRuntime name
  stop setup runtime name

/-- The provider's part of `inspect`, as far as it fails and what it changes. -/
def inspectRuntime (setup : RuntimeSetup) (runtime : RuntimeKind) (name : String) :
    Action Unit := do
  let manifests ← Program.gets (·.serviceManifests)
  match runtime with
  | .docker => do
      let policy ← dockerProvider setup
      let handle ← dockerRuntimeHandleOrName name
      match ← Program.attempt (DockerAgent.inspectContainer policy handle) with
      | .ok () => return ()
      | .error error =>
          if isMissingDockerContainerError error ∧ name ∈ manifests then return ()
          else Program.fail error
  | .wasmtime => WasmtimeRuntimeProvider.inspect name
  | .external => if name ∈ manifests then return () else Program.fail (serviceMissing name)

/-- A service that is known is no failure, even where its runtime has lost it. -/
def inspect (setup : RuntimeSetup) (runtime : RuntimeKind) (name : String) : Action Unit := do
  match ← Program.attempt (ensureRuntimeService setup runtime name) with
  | .ok () => inspectRuntime setup runtime name
  | .error error => do
      let manifests ← Program.gets (·.serviceManifests)
      if name ∈ manifests then return () else Program.fail error

/-! ## Restarting -/

/-- The directories that every service needs. -/
def ensureServicesRootExists (setup : RuntimeSetup) : Action Unit := do
  createDirAll "Failed to create services root directory" setup.paths.servicesRoot
  createDirAll "Failed to create service appdata root directory" setup.paths.serviceAppdataRoot
  createDirAll "Failed to create service artifacts root directory"
    setup.paths.serviceArtifactsRoot
  createDirAll "Failed to create Fungi user workspace" setup.paths.userHome

/-- `RuntimeControl::new` in a new process: everything in memory starts empty, and the
children of the old process are gone. -/
def new (setup : RuntimeSetup) (entries : List String) : Action Unit := do
  ensureServicesRootExists setup
  let store ← load setup.toPlatform setup.paths.servicesRoot entries
  Program.modify fun host =>
    { host with wasmtimeServices := ∅
                serviceIndex := ∅
                serviceManifests := ∅
                serviceState := store }

/-- The in-memory insert of a service. -/
def insertService (manifest : ServiceManifest) : Action Unit :=
  Program.modify fun host =>
    { host with serviceIndex := host.serviceIndex.insert manifest.name manifest.runtime
                serviceManifests := host.serviceManifests.insert manifest.name manifest }

/-- One turn of the loop of `restore_persisted_state`; its failures are only logged. -/
def restoreService (setup : RuntimeSetup) (service : PersistedService) : Action Unit := do
  insertService service.manifest
  Program.when (service.manifest.runtime = .wasmtime ∧ setup.wasmtimeEnabled) <|
    Program.ignoring
      (WasmtimeRuntimeProvider.restore setup service.manifest service.localServiceId)
  Program.when (service.desiredState = .running) <|
    Program.ignoring (start setup service.manifest.runtime service.manifest.name)

/-- Restore every service of the store, whatever fails on the way. -/
def restorePersistedState (setup : RuntimeSetup) : Action Unit := do
  let store ← Program.gets (·.serviceState)
  Program.forEach (restoreService setup) store.persistedServices

/-- What the start of the daemon does with its services. -/
def restart (setup : RuntimeSetup) (entries : List String) : Action Unit := do
  new setup entries
  restorePersistedState setup

end RuntimeControl

end Fungi.Runtime
