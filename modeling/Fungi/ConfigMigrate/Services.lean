import Fungi.ConfigMigrate.Steps

/-!
# Migrating managed services

`crates/config-migrate/src/services.rs`: each service of `services-state.json` gets a local id, its
data directory moves below that id, and its manifest is written in the current format.
-/

namespace Fungi.ConfigMigrate

open Fungi.Lib Fungi.Runtime FileSystem

/-! ## Paths in manifests -/

/-- `Path::components`, with the root and a leading `.` as components of their own. -/
def components (path : String) : List Name :=
  if Path.isAbsolute path then ['/'] :: Path.names path
  else if (Path.splitSlash path.toList).head? = some ['.'] then ['.'] :: Path.names path
  else Path.names path

/-- `Path::strip_prefix`: the components that follow those of the base. -/
def stripPrefix (path base : String) : Option (List Name) :=
  if components base <+: components path then
    some ((components path).drop (components base).length)
  else none

/-- Path components joined by slashes. -/
def slashed (names : List Name) : String := String.intercalate "/" (names.map String.ofList)

/-- A path in the old data directory is rewritten relative to the new one. -/
def rewriteLegacyManagedManifestPath (path oldRoot : String) : String :=
  if components path = components oldRoot then "$fungi.service.data"
  else
    match stripPrefix path oldRoot with
    | some suffix => s!"$fungi.service.data/{slashed suffix}"
    | none => path

/-! ## Manifests -/

/-- The uses keep their names. -/
def legacyUsageToCurrentClientKind : LegacyServiceExposeUsageKind → String
  | .web => "web"
  | .ssh => "ssh"
  | .raw => "raw"

/-- The runtimes keep their names. -/
def LegacyRuntimeKind.provider : LegacyRuntimeKind → CurrentServiceProvider
  | .docker => .docker
  | .wasmtime => .wasmtime

/-- The desired states keep their names. -/
def LegacyDesiredServiceState.current : LegacyDesiredServiceState → DesiredServiceState
  | .running => .running
  | .stopped => .stopped

/-- How a migrated entry is shown: `none` if the legacy manifest says nothing about it. -/
def migratedClient (expose : Option LegacyServiceExpose) : Option CurrentServiceClient :=
  let usage := expose.bind (·.usage)
  let kind := usage.map fun usage => legacyUsageToCurrentClientKind usage.kind
  let path := usage.bind fun usage => normalizeOptional usage.path
  let iconUrl := expose.bind fun expose => normalizeOptional expose.iconUrl
  if kind.isSome || path.isSome || iconUrl.isSome then some { kind, path, iconUrl } else none

/-- The name of an entry is that of the port, or one made from its position. -/
def entryName (index : Nat) (port : LegacyServicePort) : String :=
  port.name.getD (if index = 0 then "main" else s!"main-{index}")

/-- The port that a legacy port becomes: where Wasmtime listened, it was the host port. -/
def currentPort (runtime : LegacyRuntimeKind) (port : LegacyServicePort) : UInt16 :=
  match runtime with
  | .docker => port.servicePort
  | .wasmtime => if port.hostPort = 0 then port.servicePort else port.hostPort

/-- The entry that a legacy port becomes. -/
def migratedEntry (manifest : LegacyServiceManifest) (port : LegacyServicePort) :
    CurrentServicePublishEntry :=
  { tcp := { port := currentPort manifest.runtime port }, client := migratedClient manifest.expose }

/-- The entries of all ports of a legacy manifest. -/
def publishEntries (manifest : LegacyServiceManifest) :
    List (String × CurrentServicePublishEntry) :=
  manifest.ports.mapIdx fun index port => (entryName index port, migratedEntry manifest port)

/-- The published entries, which must be there and use TCP. -/
def migratedPublish (manifest : LegacyServiceManifest) :
    Except Error (BTreeMap String CurrentServicePublishEntry) :=
  if manifest.ports.any fun port => port.protocol ≠ .tcp then
    .error "Legacy UDP service ports cannot be represented by fungi: service/v1"
  else if manifest.ports.isEmpty then
    .error <| s!"Legacy managed service '{manifest.name}' has no published TCP ports and " ++
      "cannot be represented by fungi: service/v1"
  else .ok (Std.ExtTreeMap.ofList (publishEntries manifest) compare)

/-- A legacy mount, with its host path rewritten. -/
def migratedMount (oldServiceDataDir : String) (mount : LegacyServiceMount) :
    CurrentServiceMount :=
  { fromPath := rewriteLegacyManagedManifestPath mount.hostPath oldServiceDataDir
    toPath := mount.runtimePath }

/-- The manifest that a legacy manifest becomes. -/
def migratedDocument (manifest : LegacyServiceManifest) (oldServiceDataDir : String)
    (source : CurrentServiceSource) (publish : BTreeMap String CurrentServicePublishEntry) :
    CurrentServiceManifestDocument :=
  { fungi := "service/v1"
    id := manifest.name
    run :=
      { provider := manifest.runtime.provider
        mode := if manifest.runtime = .wasmtime then some .http else none
        source
        args := manifest.command
        env := manifest.env
        mounts := manifest.mounts.map (migratedMount oldServiceDataDir) }
    publish }

/-- A component below the old data directory, which has moved, becomes an artifact. -/
def migrateWasmtimeComponent
    (component oldServiceDataDir newServiceAppdataDir newServiceArtifactsDir : String) :
    Migration String :=
  match stripPrefix component oldServiceDataDir with
  | none => pure component
  | some relativePath => do
      let stagedComponent := Path.join newServiceAppdataDir (slashed relativePath)
      let artifactComponent := Path.join newServiceArtifactsDir "component.wasm"
      createDirAll none "Failed to create migrated service artifacts directory"
        newServiceArtifactsDir
      copyFile
        s!"Failed to migrate Wasmtime component from {stagedComponent} to {artifactComponent}"
        stagedComponent artifactComponent
      removeFile
        s!"Failed to remove migrated Wasmtime component from appdata: {stagedComponent}"
        stagedComponent
      return "$fungi.service.artifacts/component.wasm"

/-- The source of a migrated service, with its component moved to where it now belongs. -/
def migrateSource (source : LegacyServiceSource)
    (oldServiceDataDir newServiceAppdataDir newServiceArtifactsDir : String) :
    Migration CurrentServiceSource :=
  match source with
  | .docker image => pure { image := some image }
  | .wasmtimeFile component => do
      let file ← migrateWasmtimeComponent component oldServiceDataDir newServiceAppdataDir
        newServiceArtifactsDir
      return { file := some file }
  | .wasmtimeUrl url => pure { url := some url }

/-- Migrate one manifest, and the component that it uses. -/
def migrateLegacyServiceManifest (manifest : LegacyServiceManifest)
    (oldServiceDataDir newServiceAppdataDir newServiceArtifactsDir : String) :
    Migration CurrentServiceManifestDocument := do
  let source ← migrateSource manifest.source oldServiceDataDir newServiceAppdataDir
    newServiceArtifactsDir
  let publish ← Program.ofExcept (migratedPublish manifest)
  return migratedDocument manifest oldServiceDataDir source publish

/-! ## Services -/

/-- An id of a service is made from a ulid. -/
def candidateId (ulid : Ulid) : String := s!"svc_{toAsciiLowercase ulid.text}"

/-- The loop of `generate_unique_local_service_id`, with the attempts left; the ULIDs that were not
drawn are returned too. -/
def generateUniqueLocalServiceId (allocated : List String) (ulids : Nat → Ulid) :
    Nat → Except Error (String × (Nat → Ulid))
  | 0 => .error "failed to allocate unique local_service_id during migration"
  | attempts + 1 =>
      let rest := fun index => ulids (index + 1)
      if candidateId (ulids 0) ∈ allocated then
        generateUniqueLocalServiceId allocated rest attempts
      else .ok (candidateId (ulids 0), rest)

/-- Move the data of a service to its new place, or create it there. -/
def moveOrCreateServiceDataDir (oldPath newPath : String) : Migration Unit := do
  let taken ← Program.gets fun files => files.pathExists newPath
  if taken then
    Program.fail <|
      s!"Refusing to overwrite migrated service data directory in staging: {newPath}"
  else
    let found ← Program.gets fun files => files.pathExists oldPath
    if found then
      createParent (fun parent =>
        s!"Failed to create migrated service data parent directory in staging: {parent}") newPath
      renamePath none
        s!"Failed to move legacy service data directory from {oldPath} to {newPath}"
        oldPath newPath
    else
      createDirAll none "Failed to create migrated service data directory in staging" newPath

section Staged

variable (formats : Formats) (stagingRoot liveRoot : String)

/-- Write the manifest and the state of a migrated service. -/
def writeMigratedService (localServiceId updatedAt : String)
    (document : CurrentServiceManifestDocument) (desiredState : DesiredServiceState) :
    Migration Unit := do
  let serviceDir := Path.join (Path.join stagingRoot servicesRootDir) localServiceId
  createDirAll none "Failed to create migrated managed service directory in staging" serviceDir
  let manifestPath := Path.join serviceDir "service.yaml"
  let manifestYaml ← ofOption "Failed to encode migrated managed service manifest YAML"
    (formats.manifestToString document)
  writeFile s!"Failed to write migrated managed service manifest in staging: {manifestPath}"
    manifestPath manifestYaml
  let statePath := Path.join serviceDir "state.json"
  let stateBytes ← ofOption "Failed to encode migrated managed service state.json"
    (formats.serviceStateToString
      { schemaVersion := currentServiceStateSchemaVersion, localServiceId, updatedAt
        desiredState })
  writeFile s!"Failed to write migrated managed service state in staging: {statePath}"
    statePath stateBytes

/-- One turn of the loop of `migrate_legacy_services_state`. -/
def migrateService (updatedAt localServiceId serviceName : String)
    (service : LegacyPersistedService) : Migration Unit := do
  let oldServiceDataDir := Path.join (Path.join stagingRoot servicesRootDir) serviceName
  let oldLiveServiceDataDir := Path.join (Path.join liveRoot servicesRootDir) serviceName
  let newServiceAppdataDir :=
    Path.join (Path.join stagingRoot appdataServicesRootDir) localServiceId
  let newServiceArtifactsDir :=
    Path.join (Path.join stagingRoot artifactsServicesRootDir) localServiceId
  moveOrCreateServiceDataDir oldServiceDataDir newServiceAppdataDir
  let document ← migrateLegacyServiceManifest service.manifest oldLiveServiceDataDir
    newServiceAppdataDir newServiceArtifactsDir
  writeMigratedService formats stagingRoot localServiceId updatedAt document
    service.desiredState.current

/-- The name of an entry, if it is that of its manifest. -/
def checkedServiceName (key : String) (service : LegacyPersistedService) : Except Error String := do
  let serviceName ← normalizeNonEmpty service.manifest.name "legacy manifest.name"
  if key ≠ serviceName then
    throw s!"Legacy services-state entry '{key}' does not match manifest name '{serviceName}'"
  return serviceName

/-- Migrate the services one by one, each under an id that none of those before it has. -/
def migrateServices (updatedAt : String) :
    List String → (Nat → Ulid) → List (String × LegacyPersistedService) → Migration Unit
  | _, _, [] => pure ()
  | allocated, ulids, (key, service) :: rest => do
      let serviceName ← Program.ofExcept (checkedServiceName key service)
      let (localServiceId, ulids) ←
        Program.ofExcept (generateUniqueLocalServiceId allocated ulids 16)
      migrateService formats stagingRoot liveRoot updatedAt localServiceId serviceName service
      migrateServices updatedAt (localServiceId :: allocated) ulids rest

/-- Migrate the staged state file of all services, and remove it. -/
def migrateLegacyServicesState (moment : Moment) : Migration Unit := do
  let legacyStatePath := Path.join stagingRoot legacyServiceStateFile
  let found ← Program.gets fun files => files.pathExists legacyStatePath
  if found then
    let content ← readFile
      s!"Failed to read legacy services-state.json from staging directory: {legacyStatePath}"
      legacyStatePath
    let legacyState ← ofOption "Failed to parse legacy services-state.json in staging"
      (formats.legacyServiceState content)
    if legacyState.schemaVersion ≠ legacyServiceStateSchemaVersion then
      Program.fail <| s!"Unsupported legacy service state schema version " ++
        s!"{legacyState.schemaVersion} in {legacyStatePath}"
    else
      let updatedAt := (normalizeOptional (some legacyState.updatedAt)).getD moment.rfc3339
      migrateServices formats stagingRoot liveRoot updatedAt [] moment.ulids
        legacyState.services.toList
      removeFile
        s!"Failed to remove legacy services-state.json from staging directory: {legacyStatePath}"
        legacyStatePath
  else pure ()

end Staged

end Fungi.ConfigMigrate
