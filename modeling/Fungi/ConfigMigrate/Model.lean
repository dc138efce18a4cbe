import Fungi.ConfigMigrate.Apply
import Fungi.Lib.Text
import Fungi.Lib.Toml
import Fungi.Runtime.Host

/-!
# The data of a migration

The names, versions and plans of `crates/config-migrate/src/model.rs`, the legacy files as they
are read, and the parameters of a migration: the encodings and what the clock, the ULIDs and
`read_dir` answer.
-/

namespace Fungi.ConfigMigrate

open Fungi.Lib Fungi.Runtime

/-- The version that a migration leads to. -/
def currentFungiDirVersion : UInt32 := 3

/-- The version before the current one, whose `config.toml` is always rewritten. -/
def previousFungiDirVersion : UInt32 := 2

/-- The configuration of a fungi directory. -/
def configFile : String := "config.toml"

/-- The directory of the backups. -/
def backupRootDir : String := "bk"

/-- What the names of staging directories begin with. -/
def stagingDirPrefix : String := ".fungi-migrate-staging-"

/-- The legacy list of known peers. -/
def legacyAddressBookFile : String := "address_book.toml"

/-- The devices that the user has saved. -/
def devicesFile : String := "devices.toml"

/-- The peers that may connect. -/
def trustedDevicesFile : String := "trusted_devices.toml"

/-- The legacy list of local addresses. -/
def legacyLocalAccessFile : String := "access/local_access.json"

/-- The local addresses that the user's services are reached at. -/
def localPreferencesFile : String := "cache/local_preferences.json"

/-- What old versions knew of the services of other devices. -/
def legacyRemoteServicesCacheDir : String := "cache/remote_services"

/-- What old versions knew of the services they managed on other devices. -/
def legacyManagedServicesCacheDir : String := "cache/device_managed_services"

/-- The legacy state of all services in one file. -/
def legacyServiceStateFile : String := "services-state.json"

/-- The directory with one directory for each service. -/
def servicesRootDir : String := "services"

/-- The directory with the data of each service. -/
def appdataServicesRootDir : String := "appdata/services"

/-- The directory with the artifacts of each service. -/
def artifactsServicesRootDir : String := "artifacts/services"

/-- The version of the state files that a migration writes. -/
def currentServiceStateSchemaVersion : UInt32 := 2

/-- The version of the state file that a migration reads. -/
def legacyServiceStateSchemaVersion : UInt32 := 1

/-! ## Versions, plans and reports -/

/-- The version that a fungi directory is found to have. -/
inductive DetectedVersion where
  | missingConfig
  | legacyNoVersion
  | version (number : UInt32)
  deriving DecidableEq

/-- A version in the name of a backup. -/
def DetectedVersion.backupLabel : DetectedVersion → String
  | .missingConfig => "missing-config"
  | .legacyNoVersion => "legacy-no-version"
  | .version number => s!"v{number}"

/-- A version in the texts of errors. -/
def DetectedVersion.display : DetectedVersion → String
  | .missingConfig => "missing config"
  | .legacyNoVersion => "legacy config without version"
  | .version number => s!"v{number}"

/-- What a migration tells its caller. -/
structure MigrationReport where
  sourceVersion : DetectedVersion
  targetVersion : UInt32
  backupDir : Option String
  stagingDir : Option String
  migratedPaths : List String
  changed : Bool
  deriving DecidableEq

/-- The report where nothing had to be done. -/
def MigrationReport.noChanges (sourceVersion : DetectedVersion) : MigrationReport :=
  { sourceVersion, targetVersion := currentFungiDirVersion, backupDir := none, stagingDir := none
    migratedPaths := [], changed := false }

/-- What has to be migrated. -/
structure MigrationPlan where
  updateConfig : Bool
  migrateIncomingAllowedPeers : Bool
  migrateLegacyLocalAccess : Bool
  removeLegacyServiceCaches : Bool
  migrateAddressBook : Bool
  migrateLegacyManagedServices : Bool
  touchedPaths : List String
  deriving DecidableEq

/-- A plan that touches no path is empty. -/
def MigrationPlan.isEmpty (plan : MigrationPlan) : Bool := plan.touchedPaths.isEmpty

/-- The paths a plan may touch, in the order in which a `BTreeSet<PathBuf>` lists them. -/
def touchablePaths : List String :=
  [legacyLocalAccessFile, legacyAddressBookFile, appdataServicesRootDir, artifactsServicesRootDir,
    legacyManagedServicesCacheDir, localPreferencesFile, legacyRemoteServicesCacheDir, configFile,
    devicesFile, servicesRootDir, legacyServiceStateFile, trustedDevicesFile]

/-! ## Texts and paths -/

/-- A text without the whitespace around it, which must leave something. -/
def normalizeNonEmpty (value fieldName : String) : Except Error String :=
  if trim value = "" then .error s!"{fieldName} must not be empty" else .ok (trim value)

/-- A text of whitespace counts as none. -/
def normalizeOptional (value : Option String) : Option String :=
  value.bind fun value => if trim value = "" then none else some (trim value)

/-- A normalized path: whether it starts at the root, and its components. -/
def normalizeFsPath (path : String) : Bool × List Name := (Path.isAbsolute path, Path.resolve path)

/-! ## Legacy files -/

/-- A local address as old versions kept it. -/
structure LegacyLocalAccessRecord where
  remotePeerId : String
  remoteServiceName : String
  remoteServicePortName : String
  localHost : String
  localPort : UInt16
  localPortSource : String
  deriving DecidableEq

/-- A local address as it is kept now. -/
structure LocalPreference where
  remotePeerId : String
  remoteServiceName : String
  remoteServicePortName : String
  localHost : String
  localPort : UInt16
  localPortSource : String
  deriving DecidableEq

/-- The runtimes of a legacy service. -/
inductive LegacyRuntimeKind where
  | docker
  | wasmtime
  deriving DecidableEq

/-- Where a legacy service comes from. -/
inductive LegacyServiceSource where
  | docker (image : String)
  | wasmtimeFile (component : String)
  | wasmtimeUrl (url : String)
  deriving DecidableEq

/-- The use that a legacy service announces. -/
inductive LegacyServiceExposeUsageKind where
  | web
  | ssh
  | raw
  deriving DecidableEq

/-- The use of a legacy service, with the path that it is found under. -/
structure LegacyServiceExposeUsage where
  kind : LegacyServiceExposeUsageKind
  path : Option String
  deriving DecidableEq

/-- What a legacy service shows to other devices. -/
structure LegacyServiceExpose where
  usage : Option LegacyServiceExposeUsage
  iconUrl : Option String
  deriving DecidableEq

/-- A host directory that a legacy service mounts. -/
structure LegacyServiceMount where
  hostPath : String
  runtimePath : String
  deriving DecidableEq

/-- The transport of a legacy port. -/
inductive LegacyServicePortProtocol where
  | tcp
  | udp
  deriving DecidableEq

/-- A port of a legacy service. -/
structure LegacyServicePort where
  name : Option String
  hostPort : UInt16
  servicePort : UInt16
  protocol : LegacyServicePortProtocol
  deriving DecidableEq

/-- The manifest of a legacy service. -/
structure LegacyServiceManifest where
  name : String
  runtime : LegacyRuntimeKind
  source : LegacyServiceSource
  expose : Option LegacyServiceExpose
  env : BTreeMap String String
  mounts : List LegacyServiceMount
  ports : List LegacyServicePort
  command : List String
  deriving DecidableEq

/-- Whether a legacy service was to be running. -/
inductive LegacyDesiredServiceState where
  | running
  | stopped
  deriving DecidableEq

/-- A service in the legacy state file. -/
structure LegacyPersistedService where
  manifest : LegacyServiceManifest
  desiredState : LegacyDesiredServiceState
  deriving DecidableEq

/-- The legacy state file. -/
structure LegacyServiceStateFile where
  schemaVersion : UInt32
  updatedAt : String
  services : BTreeMap String LegacyPersistedService
  deriving DecidableEq

/-! ## Current files -/

/-- The state file of one service. -/
structure CurrentServiceStateFile where
  schemaVersion : UInt32
  localServiceId : String
  updatedAt : String
  desiredState : DesiredServiceState
  deriving DecidableEq

/-- The runtimes of a current manifest. -/
inductive CurrentServiceProvider where
  | docker
  | wasmtime
  deriving DecidableEq

/-- The mode of a current Wasmtime service. -/
inductive CurrentServiceRunMode where
  | http
  deriving DecidableEq

/-- Where a current service comes from. -/
structure CurrentServiceSource where
  file : Option String := none
  url : Option String := none
  image : Option String := none
  deriving DecidableEq

/-- `from` and `to` of one mount. -/
structure CurrentServiceMount where
  fromPath : String
  toPath : String
  deriving DecidableEq

/-- How an entry is shown to other devices. -/
structure CurrentServiceClient where
  kind : Option String
  path : Option String
  iconUrl : Option String
  deriving DecidableEq

/-- The port of an entry. -/
structure CurrentServiceTcp where
  port : UInt16
  deriving DecidableEq

/-- An entry that a service publishes. -/
structure CurrentServicePublishEntry where
  tcp : CurrentServiceTcp
  client : Option CurrentServiceClient
  deriving DecidableEq

/-- How a service is run. -/
structure CurrentServiceRun where
  provider : CurrentServiceProvider
  mode : Option CurrentServiceRunMode
  source : CurrentServiceSource
  args : List String
  env : BTreeMap String String
  mounts : List CurrentServiceMount
  deriving DecidableEq

/-- The manifest that a migration writes. -/
structure CurrentServiceManifestDocument where
  fungi : String
  id : String
  run : CurrentServiceRun
  publish : BTreeMap String CurrentServicePublishEntry
  deriving DecidableEq

/-! ## What a migration depends on -/

/-- The encodings: `toml`, and `serde_json` and `serde_yaml` at the types they are used at. -/
structure Formats where
  toml : Toml.Codec
  legacyLocalAccess : String → Option (List LegacyLocalAccessRecord)
  localPreferences : String → Option (List LocalPreference)
  localPreferencesToString : List LocalPreference → Option String
  legacyServiceState : String → Option LegacyServiceStateFile
  serviceStateToString : CurrentServiceStateFile → Option String
  manifestToString : CurrentServiceManifestDocument → Option String

/-- `read_dir`: the names of the entries of a directory. -/
structure ReadDir where
  list : FileSystem → String → List String
  plain : ∀ {files directory name}, name ∈ list files directory → Path.Plain name

/-- When a migration runs, as `%Y%m%dT%H%M%SZ` and as RFC 3339, and the ULIDs to come. -/
structure Moment where
  timestamp : String
  alphanumeric : timestamp.toList.all Char.isAlphanum
  rfc3339 : String
  ulids : Nat → Ulid

end Fungi.ConfigMigrate
