import Fungi.Lib.Fallible
import Fungi.Lib.OrderedMap
import Fungi.Runtime.Host

/-!
# The service state store

`ServiceStateStore` of `crates/daemon/src/service_state.rs`: a directory per
managed service with the manifest in `service.yaml` and the desired state in
`state.json`, mirrored in memory.  `serde_json` is a parameter.  The time stamp of
a state file is left out; nothing reads it.
-/

namespace Fungi.Runtime

open Fungi.Lib Fungi.Config

/-! ## State files -/

/-- The content of `state.json`. -/
structure ServiceStateFile where
  schemaVersion : UInt32
  localServiceId : String
  desiredState : DesiredServiceState
  deriving DecidableEq

/-- `serde_json` on state files: it reads back what it writes. -/
structure SerdeJson where
  fromStr : String → Option ServiceStateFile
  toStringPretty : ServiceStateFile → String
  fromStr_toStringPretty : ∀ file, fromStr (toStringPretty file) = some file

/-- A codec that spells the schema version in unary. -/
def SerdeJson.unary : SerdeJson :=
  { fromStr := fun text =>
      match text.toList with
      | state :: rest =>
          some
            { schemaVersion := UInt32.ofNat (rest.takeWhile (· = '1')).length
              localServiceId := String.ofList ((rest.dropWhile (· = '1')).drop 1)
              desiredState := if state = 'r' then .running else .stopped }
      | [] => none
    toStringPretty := fun file => String.ofList <|
      (if file.desiredState = .running then 'r' else 's') ::
        (List.replicate file.schemaVersion.toNat '1' ++ '/' :: file.localServiceId.toList)
    fromStr_toStringPretty := by
      intro file
      have letter : (if (if file.desiredState = .running then 'r' else 's') = 'r' then
          DesiredServiceState.running else .stopped) = file.desiredState := by
        cases file.desiredState <;> decide
      have ones : ∀ one ∈ List.replicate file.schemaVersion.toNat '1', decide (one = '1') := by
        intro one membership
        rw [List.eq_of_mem_replicate membership]
        decide
      simp only [String.toList_ofList, letter, List.takeWhile_append_of_pos ones,
        List.dropWhile_append_of_pos ones]
      simp }

/-- What the daemon is built with. -/
structure Platform where
  yaml : SerdeYaml
  json : SerdeJson
  channel : DistChannel

/-- The version of the state files that are written. -/
def serviceStateSchemaVersion : UInt32 := 2

/-- The state of a service directory without `state.json`. -/
def ServiceStateFile.defaultForLocalServiceId (localServiceId : String) : ServiceStateFile :=
  { schemaVersion := serviceStateSchemaVersion, localServiceId, desiredState := .stopped }

/-- The characters of ids. -/
def isIdCharacter (character : Char) : Bool :=
  character.isAlphanum ∨ character = '-' ∨ character = '_'

/-- An id without the whitespace around it, in the characters of ids. -/
def normalizeLocalServiceId (value fieldName : String) : Except Error String :=
  if trim value = "" then .error (.message s!"{fieldName} must not be empty")
  else if ¬ (trim value).toList.all isIdCharacter then
    .error (.message s!"{fieldName} must contain only ASCII letters, numbers, '-' or '_'")
  else .ok (trim value)

/-- `Context::with_context`, as far as the message goes. -/
def withContext {Value : Type} (context : String) : Except Error Value → Except Error Value
  | .ok value => .ok value
  | .error _ => .error (.message context)

/-- `load_service_state_file`; `entry` is the file name of the service directory. -/
def loadServiceStateFile (platform : Platform) (files : FileSystem) (path entry : String) :
    Except Error ServiceStateFile := do
  let localServiceId ← normalizeLocalServiceId entry "service directory name"
  if ¬ files.pathExists path then
    return .defaultForLocalServiceId localServiceId
  else
    match files.readToString path with
    | none => throw (.message s!"Failed to read service state file: {path}")
    | some content =>
        match platform.json.fromStr content with
        | none => throw (.message s!"Failed to parse service state file: {path}")
        | some state =>
            if state.schemaVersion ≠ serviceStateSchemaVersion then
              throw (.message
                s!"Unsupported service state schema version {state.schemaVersion} in {path}")
            else
              let normalized ← normalizeLocalServiceId state.localServiceId "local_service_id"
              if normalized ≠ localServiceId then
                throw (.message <|
                  s!"Managed service state local_service_id '{normalized}' does not match " ++
                    s!"directory '{localServiceId}'")
              else return { state with localServiceId := normalized }

/-! ## Loading -/

/-- The fungi home that a services directory belongs to. -/
def fungiHomeOf (servicesRoot : String) : String := (Path.parent servicesRoot).getD "."

/-- The paths of the fungi home that a services directory is in. -/
def pathsOf (platform : Platform) (servicesRoot : String) : FungiPaths :=
  .fromFungiHomeForChannel (fungiHomeOf servicesRoot) platform.channel

/-- One turn of the loop of `ServiceStateStore::load`: the service an entry of the
services directory holds, if any, and the unused port answers. -/
def loadEntry (platform : Platform) (files : FileSystem) (servicesRoot entry : String)
    (answers : List UInt16) : Except Error (Option PersistedService × List UInt16) :=
  let serviceDir := Path.join servicesRoot entry
  let manifestPath := Path.join serviceDir "service.yaml"
  if ¬ files.isDir serviceDir then .ok (none, answers)
  else if ¬ files.pathExists manifestPath then .ok (none, answers)
  else
    match files.readToString manifestPath with
    | none => .error (.message s!"Failed to read managed service manifest: {manifestPath}")
    | some manifestYaml => do
        let stateFile ← loadServiceStateFile platform files
          (Path.join serviceDir "state.json") entry
        let (manifest, answers) ← withContext
          s!"Failed to parse managed service manifest: {manifestPath}"
          (parseManagedServiceManifestYaml platform.yaml manifestYaml serviceDir
            (pathsOf platform servicesRoot) stateFile.localServiceId answers)
        return (some { localServiceId := stateFile.localServiceId, manifest,
                       desiredState := stateFile.desiredState }, answers)

/-- Load the service directories one by one; the first that cannot be read fails them all. -/
def loadEntries (platform : Platform) (files : FileSystem) :
    List String → ServiceStateStore → List UInt16 →
      Except Error (ServiceStateStore × List UInt16)
  | [], store, answers => .ok (store, answers)
  | entry :: rest, store, answers => do
      match ← loadEntry platform files store.servicesRoot entry answers with
      | (none, answers) => loadEntries platform files rest store answers
      | (some service, answers) =>
          let id := service.localServiceId
          match store.nameIndex[service.manifest.name]? with
          | some existing =>
              throw (.message <|
                s!"Duplicate managed service name '{service.manifest.name}' for local ids " ++
                  s!"'{existing}' and '{id}'")
          | none =>
              if id ∈ store.state then
                throw (.message
                  s!"Duplicate managed service local id in {store.servicesRoot}")
              else
                loadEntries platform files rest
                  { store with state := store.state.insert id service
                               nameIndex := store.nameIndex.insert service.manifest.name id }
                  answers

/-- A store without services. -/
def emptyStore (servicesRoot : String) : ServiceStateStore :=
  { servicesRoot, state := ∅, nameIndex := ∅ }

/-- The services in the given directories. -/
def readServices (platform : Platform) (servicesRoot : String) (entries : List String) :
    Action ServiceStateStore := fun host =>
  match loadEntries platform host.files entries (emptyStore servicesRoot) host.freePorts with
  | .ok (store, freePorts) => (.ok store, { host with freePorts })
  | .error error => (.error error, host)

/-- `ServiceStateStore::load`, given the order in which `read_dir` lists the entries. -/
def load (platform : Platform) (servicesRoot : String) (entries : List String) :
    Action ServiceStateStore := do
  createDirAll "Failed to create services directory" servicesRoot
  readServices platform servicesRoot entries

/-! ## Lookup -/

namespace ServiceStateStore

/-- The stored services in the order of their ids. -/
def persistedServices (self : ServiceStateStore) : List PersistedService := self.state.values

/-- The stored service of a name. -/
def persistedService (self : ServiceStateStore) (serviceName : String) :
    Option PersistedService :=
  self.nameIndex[serviceName]?.bind fun localServiceId => self.state[localServiceId]?

/-- The id of a name, or an error. -/
def lookupLocalServiceId (self : ServiceStateStore) (serviceName : String) :
    Except Error String :=
  match self.nameIndex[serviceName]? with
  | some localServiceId => .ok localServiceId
  | none => .error (.message s!"persisted service not found: {serviceName}")

/-- The directory of a service. -/
def serviceDir (self : ServiceStateStore) (localServiceId : String) : String :=
  Path.join self.servicesRoot localServiceId

/-- The data directory of a service. -/
def serviceAppdataDir (self : ServiceStateStore) (platform : Platform)
    (localServiceId : String) : String :=
  (pathsOf platform self.servicesRoot).serviceAppdataDir localServiceId

end ServiceStateStore

/-! ## Local service ids -/

/-- `Ulid::new`. -/
def newUlid : Action Ulid := fun host =>
  (.ok (host.ulids 0), { host with ulids := fun index => host.ulids (index + 1) })

/-- An id is made from a ulid. -/
def candidateId (ulid : Ulid) : String := s!"svc_{toAsciiLowercase ulid.text}"

/-- The loop of `generate_unique_local_service_id`, with the attempts left. -/
def generateUniqueLocalServiceId (store : ServiceStateStore) : Nat → Action String
  | 0 => Program.fail (.message "failed to allocate unique local_service_id")
  | attempts + 1 => do
      let ulid ← newUlid
      if candidateId ulid ∈ store.state then generateUniqueLocalServiceId store attempts
      else return candidateId ulid

/-- The id that an apply of the service would use. -/
def previewLocalServiceId (serviceName : String) : Action String := do
  let store ← Program.gets (·.serviceState)
  match store.nameIndex[serviceName]? with
  | some localServiceId => return localServiceId
  | none => generateUniqueLocalServiceId store 16

/-- The id to store a service under: the requested one must be that of the name and of no other. -/
def resolveUpsertLocalServiceId (serviceName : String)
    (requestedLocalServiceId : Option String) : Action String := do
  let store ← Program.gets (·.serviceState)
  let requested ← Program.ofExcept <| match requestedLocalServiceId with
    | some value => (normalizeLocalServiceId value "local_service_id").map some
    | none => .ok none
  match store.nameIndex[serviceName]?, requested with
  | some existing, some requested =>
      if requested ≠ existing then
        Program.fail (.message <|
          s!"local_service_id mismatch for service '{serviceName}': expected '{existing}', " ++
            s!"got '{requested}'")
      else return existing
  | some existing, none => return existing
  | none, some requested =>
      match store.state[requested]? with
      | some service =>
          if service.manifest.name ≠ serviceName then
            Program.fail (.message <|
              s!"local_service_id '{requested}' is already assigned to service " ++
                s!"'{service.manifest.name}'")
          else return requested
      | none => return requested
  | none, none => generateUniqueLocalServiceId store 16

/-! ## Saving -/

/-- Create the directory of a service and its application data directory. -/
def createServiceDirs (platform : Platform) (store : ServiceStateStore)
    (localServiceId : String) : Action Unit := do
  createDirAll "Failed to create managed service directory" (store.serviceDir localServiceId)
  createDirAll "Failed to create service appdata directory"
    (store.serviceAppdataDir platform localServiceId)

/-- Write the two files of a service. -/
def writeServiceFiles (platform : Platform) (store : ServiceStateStore)
    (localServiceId : String) (service : PersistedService) : Action Unit := do
  let serviceDir := store.serviceDir localServiceId
  let manifestYaml ← Program.ofExcept (serviceManifestToYaml platform.yaml service.manifest)
  atomicWrite (Path.join serviceDir "service.yaml") manifestYaml
  atomicWrite (Path.join serviceDir "state.json") <| platform.json.toStringPretty
    { schemaVersion := serviceStateSchemaVersion, localServiceId,
      desiredState := service.desiredState }

/-- Write a service of the store to its directory. -/
def saveService (platform : Platform) (localServiceId : String) : Action Unit := do
  let store ← Program.gets (·.serviceState)
  match store.state[localServiceId]? with
  | none => Program.fail (.message s!"persisted service not found: {localServiceId}")
  | some service => do
      createServiceDirs platform store localServiceId
      writeServiceFiles platform store localServiceId service

/-- Put a service into the store, and write it. -/
def upsertServiceWithLocalServiceId (platform : Platform) (manifest : ServiceManifest)
    (desiredState : DesiredServiceState) (requestedLocalServiceId : Option String) :
    Action String := do
  let localServiceId ← resolveUpsertLocalServiceId manifest.name requestedLocalServiceId
  Program.modify fun host =>
    { host with serviceState :=
        { host.serviceState with
          nameIndex := host.serviceState.nameIndex.insert manifest.name localServiceId
          state := host.serviceState.state.insert localServiceId
            { localServiceId, manifest, desiredState } } }
  saveService platform localServiceId
  return localServiceId

/-- Set the desired state of a service, and write it. -/
def setDesiredState (platform : Platform) (serviceName : String)
    (desiredState : DesiredServiceState) : Action Unit := do
  let store ← Program.gets (·.serviceState)
  let localServiceId ← Program.ofExcept (store.lookupLocalServiceId serviceName)
  match store.state[localServiceId]? with
  | none => Program.fail (.message s!"persisted service not found: {serviceName}")
  | some service => do
      Program.modify fun host =>
        { host with serviceState :=
            { host.serviceState with
              state := host.serviceState.state.insert localServiceId
                { service with desiredState } } }
      saveService platform localServiceId

/-- Take a service out of the store, and remove its directory. -/
def removeService (serviceName : String) : Action Unit := do
  let store ← Program.gets (·.serviceState)
  match store.nameIndex[serviceName]? with
  | none => return ()
  | some localServiceId => do
      Program.modify fun host =>
        { host with serviceState :=
            { host.serviceState with
              nameIndex := host.serviceState.nameIndex.erase serviceName
              state := host.serviceState.state.erase localServiceId } }
      let host ← Program.gets id
      let serviceDir := store.serviceDir localServiceId
      if host.files.pathExists serviceDir then
        removeDirAll "Failed to remove managed service directory" serviceDir
      else return ()

end Fungi.Runtime
