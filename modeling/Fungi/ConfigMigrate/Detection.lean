import Fungi.ConfigMigrate.Model

/-!
# Detecting legacy layouts

`crates/config-migrate/src/detection.rs`: the version in `config.toml`, and the plan that the
hints found in a fungi directory call for.
-/

namespace Fungi.ConfigMigrate

open Fungi.Lib

/-! ## The configuration file -/

/-- The table that a file consists of. -/
def rootTable (formats : Formats) (parseFailure notTable content : String) :
    Except Error Toml.Table :=
  match formats.toml.fromStr content with
  | none => .error parseFailure
  | some value =>
      match value.asTable with
      | none => .error notTable
      | some table => .ok table

/-- The version that a table names. -/
def tableVersion (table : Toml.Table) : Except Error DetectedVersion :=
  match table.get "version" with
  | none => .ok .legacyNoVersion
  | some version =>
      match version.asInteger with
      | none => .error "config.toml version must be an integer for migration detection"
      | some version =>
          if version < 0 then
            .error "config.toml version must not be negative for migration detection"
          -- `as u32` keeps the low bits
          else .ok (.version (UInt32.ofNat version.toNat))

/-- The version of the text of a `config.toml`. -/
def detectSourceVersionFromTomlStr (formats : Formats) (content : String) :
    Except Error DetectedVersion := do
  let table ← rootTable formats "Failed to parse config.toml during migration detection"
    "config.toml root must be a TOML table for migration detection" content
  tableVersion table

/-- The version of a fungi directory. -/
def detectSourceVersion (formats : Formats) (files : FileSystem) (fungiDir : String) :
    Except Error DetectedVersion :=
  let configPath := Path.join fungiDir configFile
  if ¬ files.pathExists configPath then .ok .missingConfig
  else
    match files.readToString configPath with
    | none =>
        .error s!"Failed to read Fungi config file during migration detection: {configPath}"
    | some content => detectSourceVersionFromTomlStr formats content

/-- The table of the `config.toml` of a directory, for one of the checks below. -/
def readConfigTable (formats : Formats) (files : FileSystem) (fungiDir action : String) :
    Except Error Toml.Table :=
  let configPath := Path.join fungiDir configFile
  match files.readToString configPath with
  | none => .error s!"Failed to read Fungi config file while {action}: {configPath}"
  | some content =>
      rootTable formats s!"Failed to parse config.toml while {action}"
        s!"config.toml root must be a TOML table while {action}" content

/-! ## Hints -/

/-- The table at a key of another table. -/
def subtable (table : Toml.Table) (key : String) : Option Toml.Table :=
  (table.get key).bind Toml.Value.asTable

/-- Whether a table lists peers in the way of old versions. -/
def hasLegacyIncomingAllowedPeers (table : Toml.Table) : Bool :=
  table.containsKey "incoming_allowed_peers" ||
    (subtable table "network").any fun network => network.containsKey "incoming_allowed_peers"

/-- The RPC addresses that old versions wrote. -/
def isLegacyRpcAddress (value : Toml.Value) : Bool :=
  value.asStr.any fun address => address = "127.0.0.1:5405" ∨ address = "127.0.0.1:5406"

/-- Whether the RPC settings are those of an old version. -/
def hasLegacyRpcAddress (rpc : Toml.Table) : Bool :=
  (rpc.get "listen_address").any isLegacyRpcAddress

/-- The path of the legacy services directory, as a path on an allowlist. -/
def isLegacyServicesPath (fungiDir : String) (value : Toml.Value) : Bool :=
  value.asStr.any fun raw =>
    normalizeFsPath raw = normalizeFsPath (Path.join fungiDir servicesRootDir)

/-- Whether the services directory of old versions is among the allowed paths. -/
def hasLegacyServicesAllowlist (fungiDir : String) (runtime : Toml.Table) : Bool :=
  ((runtime.get "allowed_host_paths").bind Toml.Value.asArray).any fun paths =>
    paths.any (isLegacyServicesPath fungiDir)

/-- Whether something in a table has to be rewritten. -/
def requiresCurrentNormalization (fungiDir : String) (table : Toml.Table) : Bool :=
  if ¬ table.containsKey "version" then true
  else if table.containsKey "tcp_tunneling" || table.containsKey "file_transfer" then true
  else if (subtable table "rpc").any hasLegacyRpcAddress then true
  else
    match subtable table "runtime" with
    | none => false
    | some runtime =>
        if runtime.containsKey "allowed_ports" || runtime.containsKey "allowed_port_ranges" then
          true
        else hasLegacyServicesAllowlist fungiDir runtime

section Plan

variable (formats : Formats) (readDir : ReadDir) (files : FileSystem) (fungiDir : String)
  (sourceVersion : DetectedVersion)

/-- A directory without `config.toml` has no legacy peers. -/
def configHasLegacyIncomingAllowedPeers : Except Error Bool :=
  if sourceVersion = .missingConfig then .ok false
  else
    (readConfigTable formats files fungiDir "detecting legacy incoming peer allowlist").map
      hasLegacyIncomingAllowedPeers

/-- A directory without `config.toml` has nothing to rewrite, and one of the previous version always
has. -/
def configRequiresCurrentNormalization : Except Error Bool :=
  if sourceVersion = .missingConfig then .ok false
  else if sourceVersion = .version previousFungiDirVersion then .ok true
  else
    (readConfigTable formats files fungiDir "building migration plan").map
      (requiresCurrentNormalization fungiDir)

/-- The legacy state is refused where a service of the current layout is there already. -/
def ensureNoMixedManagedServiceLayout : Except Error Unit :=
  let servicesRoot := Path.join fungiDir servicesRootDir
  if ¬ files.pathExists servicesRoot then .ok ()
  else if ¬ files.isDir servicesRoot then
    .error s!"Failed to inspect services directory while planning migration: {servicesRoot}"
  else if (readDir.list files servicesRoot).any fun entry =>
      let path := Path.join servicesRoot entry
      files.isDir path && (files.pathExists (Path.join path "service.yaml") ||
        files.pathExists (Path.join path "state.json")) then
    .error <| s!"Unsupported mixed managed service layouts detected in {servicesRoot}. " ++
      "Legacy services-state.json cannot be merged automatically with current " ++
        "services/<local_service_id>/ entries yet."
  else .ok ()

/-- The refusal of legacy files without a configuration. -/
def missingConfigError : Error :=
  s!"Found legacy Fungi side files without config.toml in {fungiDir}. " ++
    "Initialize or restore the fungi-dir before migrating."

/-- The plan, given which paths exist, whether the configuration is to be normalized and whether it
lists incoming peers. -/
def planFor (found : String → Bool) (requires migrateIncomingAllowedPeers : Bool) :
    MigrationPlan :=
  let legacyAddressBookExists := found legacyAddressBookFile
  let legacyServiceStateExists := found legacyServiceStateFile
  let legacyLocalAccessExists := found legacyLocalAccessFile
  let legacyRemoteServicesCacheExists := found legacyRemoteServicesCacheDir
  let legacyManagedServicesCacheExists := found legacyManagedServicesCacheDir
  let updateConfig := requires || migrateIncomingAllowedPeers
  let touched := [(updateConfig, configFile), (migrateIncomingAllowedPeers, trustedDevicesFile),
    (legacyLocalAccessExists, legacyLocalAccessFile),
    (legacyLocalAccessExists, localPreferencesFile),
    (legacyRemoteServicesCacheExists, legacyRemoteServicesCacheDir),
    (legacyManagedServicesCacheExists, legacyManagedServicesCacheDir),
    (legacyAddressBookExists, legacyAddressBookFile), (legacyAddressBookExists, devicesFile),
    (legacyServiceStateExists, legacyServiceStateFile),
    (legacyServiceStateExists, servicesRootDir),
    (legacyServiceStateExists, appdataServicesRootDir),
    (legacyServiceStateExists, artifactsServicesRootDir)]
  { updateConfig
    migrateIncomingAllowedPeers
    migrateLegacyLocalAccess := legacyLocalAccessExists
    removeLegacyServiceCaches := legacyRemoteServicesCacheExists || legacyManagedServicesCacheExists
    migrateAddressBook := legacyAddressBookExists
    migrateLegacyManagedServices := legacyServiceStateExists
    touchedPaths := touchablePaths.filter fun path => touched.contains (true, path) }

/-- What has to be migrated, from the version and from the files that are there. -/
def buildMigrationPlan : Except Error MigrationPlan :=
  let found := fun path => files.pathExists (Path.join fungiDir path)
  if sourceVersion = .missingConfig ∧
      (found legacyAddressBookFile || found legacyServiceStateFile) then
    .error (missingConfigError fungiDir)
  else do
    if found legacyServiceStateFile then ensureNoMixedManagedServiceLayout readDir files fungiDir
    let migrateIncomingAllowedPeers ←
      configHasLegacyIncomingAllowedPeers formats files fungiDir sourceVersion
    let requires ← configRequiresCurrentNormalization formats files fungiDir sourceVersion
    return planFor found requires migrateIncomingAllowedPeers

end Plan

end Fungi.ConfigMigrate
