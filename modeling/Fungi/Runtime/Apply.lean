import Fungi.Runtime.Control

/-!
# Applying a manifest

`RuntimeControl::apply_with_local_service_id` and `apply_manifest_yaml`, cut where the
source awaits or takes another lock: prepare, retire the old runtime, pull the new one,
insert it in memory, persist it, and start it.
-/

namespace Fungi.Runtime

open Fungi.Lib Fungi.Config

namespace RuntimeControl

/-- A service made from one definition is not overwritten with another one. -/
def ensureDefinitionIdCompatible (previous next : ServiceManifest) : Except Error Unit :=
  match previous.definitionId, next.definitionId with
  | some previousId, some nextId =>
      if previousId ≠ nextId then
        .error (.message <|
          s!"service '{next.name}' was created from definition id '{previousId}' and cannot " ++
            s!"be overwritten with definition id '{nextId}'; use a different service name or " ++
            "remove the existing service first")
      else .ok ()
  | some previousId, none =>
      .error (.message <|
        s!"service '{next.name}' was created from definition id '{previousId}' and cannot " ++
          "be overwritten by a manifest without a definition id; use a matching .fungi.md " ++
          "service file or remove the existing service first")
  | none, _ => .ok ()

/-- What is known before anything changes. -/
structure Prepared where
  localServiceId : String
  previousManifest : Option ServiceManifest
  desiredState : DesiredServiceState
  previousRuntime : Option RuntimeKind
  replacingExisting : Bool
  deriving DecidableEq

/-- What an apply returns: the name of the instance, which is that of the manifest, and what
was known before. -/
structure AppliedService where
  name : String
  previousManifest : Option ServiceManifest
  desiredState : DesiredServiceState
  deriving DecidableEq

/-- The local service id of the record, or the requested one, or a new one. -/
def resolveLocalServiceId (name : String) (previousService : Option PersistedService)
    (localServiceId : Option String) : Action String :=
  match previousService with
  | some service =>
      let given := localServiceId.getD ""
      if localServiceId.any (· ≠ service.localServiceId) then
        Program.fail (.message <|
          s!"local_service_id mismatch for service '{name}': expected " ++
            s!"'{service.localServiceId}', got '{given}'")
      else return service.localServiceId
  | none =>
      match localServiceId with
      | some localServiceId => return localServiceId
      | none => previewLocalServiceId name

/-- What an apply reads of the service it may replace. -/
def previousManifestOf (host : Host) (name : String) : Option ServiceManifest :=
  ((host.serviceState.persistedService name).map (·.manifest)).or host.serviceManifests[name]?

/-- The runtime that a service has been run by, from its manifest or from the index. -/
def previousRuntimeOf (host : Host) (name : String) : Option RuntimeKind :=
  ((previousManifestOf host name).map (·.runtime)).or host.serviceIndex[name]?

/-- A new service is stopped. -/
def desiredStateOf (host : Host) (name : String) : DesiredServiceState :=
  ((host.serviceState.persistedService name).map (·.desiredState)).getD .stopped

/-- Everything that `apply` finds out before it changes anything. -/
def prepare (setup : RuntimeSetup) (manifest : ServiceManifest)
    (localServiceId : Option String) : Action Prepared := do
  ensureRuntimeEnabled setup manifest.runtime
  let host ← Program.gets id
  let previousService := host.serviceState.persistedService manifest.name
  let previousManifest := previousManifestOf host manifest.name
  let previousRuntime := previousRuntimeOf host manifest.name
  Program.ofExcept <| match previousManifest with
    | some previous => ensureDefinitionIdCompatible previous manifest
    | none => .ok ()
  let resolved ← resolveLocalServiceId manifest.name previousService localServiceId
  return { localServiceId := resolved
           previousManifest
           desiredState := desiredStateOf host manifest.name
           previousRuntime
           replacingExisting :=
             previousService.isSome || previousManifest.isSome || previousRuntime.isSome }

/-! ## Retiring the old runtime -/

/-- Whether an error is the one for a service that Wasmtime does not have. -/
def isWasmtimeServiceNotFound : Error → Bool
  | .message text => decide ("wasmtime service not found".toList <:+: text.toList)
  | .dockerApi _ _ => false

/-- Stop the old runtime, if there is anything to stop. -/
def stopRuntimeOnly (setup : RuntimeSetup) (runtime : RuntimeKind) (name : String) :
    Action Unit := do
  match ← Program.attempt (stopRuntime setup runtime name) with
  | .ok () => return ()
  | .error error =>
      if runtime = .docker ∧ isMissingDockerContainerError error then return ()
      else if runtime = .wasmtime ∧ isWasmtimeServiceNotFound error then return ()
      else Program.fail error

/-- Remove the old runtime, if there is anything to remove. -/
def removeRuntimeOnly (setup : RuntimeSetup) (runtime : RuntimeKind)
    (name localServiceId : String) : Action Unit :=
  ignoreMissingContainer runtime <| match runtime with
    | .docker => do
        let policy ← dockerProvider setup
        DockerAgent.removeContainer policy localServiceId
    | .wasmtime => WasmtimeRuntimeProvider.removeWithLocalServiceId setup name localServiceId
    | .external => return ()

/-- Stop and remove the old runtime of a service, if it has one. -/
def retire (setup : RuntimeSetup) (name : String) (prepared : Prepared) : Action Unit :=
  match prepared.previousRuntime with
  | none => return ()
  | some runtime => do
      Program.when (prepared.desiredState = .running) (stopRuntimeOnly setup runtime name)
      removeRuntimeOnly setup runtime name prepared.localServiceId

/-! ## The new runtime -/

/-- The provider's pull. -/
def pullRuntime (setup : RuntimeSetup) (manifest : ServiceManifest) (prepared : Prepared) :
    Action Unit :=
  match manifest.runtime with
  | .docker => do
      let policy ← dockerProvider setup
      DockerRuntimeProvider.pullWithContainerName policy manifest prepared.localServiceId
  | .wasmtime =>
      if prepared.replacingExisting then
        WasmtimeRuntimeProvider.replaceWithLocalServiceId setup manifest prepared.localServiceId
      else WasmtimeRuntimeProvider.pullWithLocalServiceId setup manifest prepared.localServiceId
  | .external => return ()

/-- Write the new manifest under the id and the desired state of the service. -/
def persistService (setup : RuntimeSetup) (manifest : ServiceManifest) (prepared : Prepared) :
    Action Unit := do
  let _ ← upsertServiceWithLocalServiceId setup.toPlatform manifest prepared.desiredState
    (some prepared.localServiceId)
  return ()

/-- Start a service that should be running. -/
def reconcile (setup : RuntimeSetup) (manifest : ServiceManifest) (prepared : Prepared) :
    Action Unit :=
  Program.when (prepared.desiredState = .running) do
    start setup manifest.runtime manifest.name
    inspect setup manifest.runtime manifest.name

/-- Check, retire the old runtime, pull the new one, record the manifest, and start what is to
run. -/
def applyWithLocalServiceId (setup : RuntimeSetup) (manifest : ServiceManifest)
    (localServiceId : Option String) : Action AppliedService := do
  let prepared ← prepare setup manifest localServiceId
  retire setup manifest.name prepared
  pullRuntime setup manifest prepared
  insertService manifest
  persistService setup manifest prepared
  reconcile setup manifest prepared
  return { name := manifest.name
           previousManifest := prepared.previousManifest
           desiredState := prepared.desiredState }

/-- Apply under the id that the service has, or a new one. -/
def apply (setup : RuntimeSetup) (manifest : ServiceManifest) : Action AppliedService :=
  applyWithLocalServiceId setup manifest none

/-! ## Applying a text -/

/-- Parse a manifest against the host ports in use. -/
def resolveManifest (setup : RuntimeSetup) (content baseDir localServiceId : String)
    (usedHostPorts : Finset UInt16) : Action ServiceManifest := fun host =>
  match parseServiceManifestYamlForServicePaths setup.yaml content baseDir
      (.forLocalServiceId setup.paths localServiceId) usedHostPorts host.freePorts with
  | .ok (manifest, freePorts) => (.ok manifest, { host with freePorts })
  | .error error => (.error error, host)

/-- `apply_manifest_yaml`; its callers pass the home of the daemon. -/
def applyManifestYaml (setup : RuntimeSetup) (content baseDir : String) :
    Action AppliedService := do
  let name ← Program.ofExcept (peekServiceManifestName setup.yaml content)
  let localServiceId ← previewLocalServiceId name
  let host ← Program.gets id
  let manifest ← resolveManifest setup content baseDir localServiceId
    (reservedHostPortsExcept host name)
  applyWithLocalServiceId setup manifest (some localServiceId)

end RuntimeControl

end Fungi.Runtime
