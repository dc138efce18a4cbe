import Fungi.ConfigMigrate.ConfigFiles
import Fungi.ConfigMigrate.LocalPreferences
import Fungi.ConfigMigrate.Services

/-!
# Migrating a fungi directory

`migrate_if_needed` of `crates/config-migrate/src/lib.rs`: the touched paths are copied to a
staging directory, migrated and validated there, and applied.
-/

namespace Fungi.ConfigMigrate

open Fungi.Lib FileSystem

/-! ## Directories of a transaction -/

/-- How the creation of a directory that must be new ends. -/
inductive CreateDirOutcome where
  | created
  | alreadyExists
  | failed

/-- `fs::create_dir`. -/
def createDir (path : String) : Migration CreateDirOutcome := fun files =>
  let place := Path.resolve path
  if files place ≠ none then (.ok .alreadyExists, files)
  else if files place.dropLast = some .directory then (.ok .created, files.makeDirs [place])
  else (.ok .failed, files)

/-- A second directory of the same moment gets a number. -/
def attemptSuffix (attempt : Nat) : String := if attempt = 0 then "" else s!"-{attempt}"

/-- The loop of `allocate_transaction_dirs`, with the attempts left and the next one. -/
def allocateTransactionDirs (backupRoot fungiDir backupDirName stagingDirName : String) :
    Nat → Nat → Migration (String × String)
  | 0, _ =>
      Program.fail s!"Failed to allocate a unique migration backup directory under {backupRoot}"
  | attempts + 1, attempt => do
      let again :=
        allocateTransactionDirs backupRoot fungiDir backupDirName stagingDirName attempts
          (attempt + 1)
      let backupDir := Path.join backupRoot (backupDirName ++ attemptSuffix attempt)
      let stagingDir := Path.join fungiDir (stagingDirName ++ attemptSuffix attempt)
      let taken ← Program.gets fun files =>
        files.pathExists backupDir || files.pathExists stagingDir
      if taken then again
      else
        match ← createDir backupDir with
        | .alreadyExists => again
        | .failed => Program.fail s!"Failed to create migration backup directory: {backupDir}"
        | .created =>
            match ← createDir stagingDir with
            | .created => return (backupDir, stagingDir)
            | .alreadyExists => do
                Program.ignoring (removeDirAll ioError backupDir)
                again
            | .failed => do
                Program.ignoring (removeDirAll ioError backupDir)
                Program.fail s!"Failed to create migration staging directory: {stagingDir}"

/-- A backup is named by its moment and the version it was made from. -/
def backupDirName (moment : Moment) (sourceVersion : DetectedVersion) : String :=
  moment.timestamp ++ "-from-" ++ sourceVersion.backupLabel ++ "-to-v3"

/-- A staging directory is named by its moment. -/
def stagingDirName (moment : Moment) : String := stagingDirPrefix ++ moment.timestamp ++ "-v3"

/-- `MigrationTransaction::prepare` for the current version: the backup directory and the staging
directory. -/
def prepare (moment : Moment) (fungiDir : String) (sourceVersion : DetectedVersion) :
    Migration (String × String) := do
  let backupRoot := Path.join fungiDir backupRootDir
  createDirAll none "Failed to create migration backup root directory" backupRoot
  allocateTransactionDirs backupRoot fungiDir (backupDirName moment sourceVersion)
    (stagingDirName moment) 1000 0

/-! ## Copies -/

section Copies

variable (readDir : ReadDir)

/-- `depth` bounds how deep directories are nested; a copy that would go deeper fails. -/
def copyPathRecursively : Nat → String → String → Migration Unit
  | 0, source, _ => Program.fail s!"Failed to read file metadata during migration: {source}"
  | depth + 1, source, target => do
      let node ← Program.gets fun files => files (Path.resolve source)
      match node with
      | none => Program.fail s!"Failed to read file metadata during migration: {source}"
      | some .directory => do
          createDirAll none "Failed to create target directory during migration copy" target
          let entries ← Program.gets fun files => readDir.list files source
          Program.forEach (fun entry =>
            copyPathRecursively depth (Path.join source entry) (Path.join target entry)) entries
      | some (.file _) => do
          createParent
            (fun parent => s!"Failed to create parent directory during migration copy: {parent}")
            target
          copyFile s!"Failed to copy file during migration from {source} to {target}" source target

/-- Copy the paths that exist from one directory to another. -/
def copySelectedPaths (depth : Nat) (sourceRoot targetRoot : String)
    (relativePaths : List String) : Migration Unit :=
  Program.forEach (fun relativePath =>
    if Path.isAbsolute relativePath then
      Program.fail s!"Migration path must be relative to the fungi-dir root: {relativePath}"
    else do
      let source := Path.join sourceRoot relativePath
      let found ← Program.gets fun files => files.pathExists source
      Program.when found <|
        copyPathRecursively readDir depth source (Path.join targetRoot relativePath)) relativePaths

/-- What a snapshot leaves out: earlier backups, and staging directories. -/
def isTransactionEntry (name : String) : Bool :=
  name = backupRootDir ∨ stagingDirPrefix.toList.isPrefixOf name.toList

/-- Copy a directory without the entries that migrations make. -/
def copyBackupSnapshot (depth : Nat) (sourceRoot targetRoot : String) : Migration Unit := do
  let isDirectory ← Program.gets fun files => files.isDir sourceRoot
  if isDirectory then
    let entries ← Program.gets fun files => readDir.list files sourceRoot
    Program.forEach (fun entry =>
      if isTransactionEntry entry then pure ()
      else
        copyPathRecursively readDir depth (Path.join sourceRoot entry) (Path.join targetRoot entry))
      entries
  else
    Program.fail s!"Failed to read source directory during migration backup: {sourceRoot}"

end Copies

/-! ## Validation -/

/-- A check of a validation, and what it says when it fails. -/
def require (condition : Bool) (failure : Error) : Except Error Unit :=
  if condition then .ok () else .error failure

/-- The migrated configuration has the current version. -/
def validateMigratedConfig (formats : Formats) (files : FileSystem) (stagingRoot : String) :
    Except Error Unit := do
  let version ← detectSourceVersion formats files stagingRoot
  require (version = .version currentFungiDirVersion)
    s!"Migration validation failed; expected v3 but found {version.display}"

/-- Nothing that was to be migrated is left in staging. -/
def validateMigratedDir (formats : Formats) (files : FileSystem) (stagingRoot : String)
    (plan : MigrationPlan) : Except Error Unit :=
  let found := fun path => files.pathExists (Path.join stagingRoot path)
  do
  (if plan.updateConfig then validateMigratedConfig formats files stagingRoot else .ok ())
  require (!(plan.migrateAddressBook && found legacyAddressBookFile))
    "Migration validation failed; legacy address_book.toml still exists in staging"
  require (!(plan.migrateAddressBook && !found devicesFile))
    "Migration validation failed; devices.toml was not created in staging"
  require (!(plan.migrateIncomingAllowedPeers && !found trustedDevicesFile))
    "Migration validation failed; trusted_devices.toml was not created in staging"
  require (!(plan.migrateLegacyLocalAccess && found legacyLocalAccessFile))
    "Migration validation failed; legacy local_access.json still exists in staging"
  require (!(plan.migrateLegacyLocalAccess && !found localPreferencesFile))
    "Migration validation failed; local_preferences.json was not created in staging"
  require (!(plan.removeLegacyServiceCaches &&
      (found legacyRemoteServicesCacheDir || found legacyManagedServicesCacheDir)))
    "Migration validation failed; obsolete remote service caches still exist in staging"
  require (!(plan.migrateLegacyManagedServices && found legacyServiceStateFile))
    "Migration validation failed; legacy services-state.json still exists in staging"

/-! ## The migration -/

/-- Remove the caches of old versions from staging. -/
def removeLegacyServiceCaches (stagingRoot : String) : Migration Unit :=
  Program.forEach (fun relativePath => do
    let path := Path.join stagingRoot relativePath
    let found ← Program.gets fun files => files.pathExists path
    Program.when found <| removeDirAll ioError path)
    [legacyRemoteServicesCacheDir, legacyManagedServicesCacheDir]

section Migrate

variable (formats : Formats) (readDir : ReadDir) (depth : Nat) (moment : Moment)
  (faults : Faults) (fungiDir : String)

/-- The migrations of a plan, in the staging directory. -/
def migrateStaged (plan : MigrationPlan) (stagingDir : String) : Migration Unit := do
  Program.when plan.migrateIncomingAllowedPeers <|
    migrateLegacyIncomingAllowedPeers formats stagingDir
  Program.when plan.migrateLegacyLocalAccess <| migrateLegacyLocalAccess formats stagingDir
  Program.when plan.removeLegacyServiceCaches <| removeLegacyServiceCaches stagingDir
  Program.when plan.updateConfig <| migrateConfigTomlToCurrent formats stagingDir fungiDir
  Program.when plan.migrateAddressBook <| migrateLegacyAddressBook formats stagingDir
  Program.when plan.migrateLegacyManagedServices <|
    migrateLegacyServicesState formats stagingDir fungiDir moment

/-- Migrate by a plan: back up, stage, rewrite, check, and apply. -/
def migrateWithPlan (sourceVersion : DetectedVersion) (plan : MigrationPlan) :
    Migration MigrationReport :=
  if plan.isEmpty then pure (.noChanges sourceVersion)
  else do
    let (backupDir, stagingDir) ← prepare moment fungiDir sourceVersion
    copyBackupSnapshot readDir depth fungiDir backupDir
    copySelectedPaths readDir depth fungiDir stagingDir plan.touchedPaths
    migrateStaged formats moment fungiDir plan stagingDir
    let files ← Program.gets id
    Program.ofExcept (validateMigratedDir formats files stagingDir plan)
    applyStagedPaths faults stagingDir fungiDir plan.touchedPaths
    removeDirAll ioError stagingDir
    return { sourceVersion, targetVersion := currentFungiDirVersion, backupDir := some backupDir
             stagingDir := none, migratedPaths := plan.touchedPaths, changed := true }

/-- Migrate a fungi directory if it has to be. -/
def migrateIfNeeded : Migration MigrationReport := do
  let files ← Program.gets id
  let sourceVersion ← Program.ofExcept (detectSourceVersion formats files fungiDir)
  let plan ← Program.ofExcept (buildMigrationPlan formats readDir files fungiDir sourceVersion)
  match sourceVersion with
  | .missingConfig =>
      if plan.isEmpty then return .noChanges sourceVersion
      else Program.fail (missingConfigError fungiDir)
  | .legacyNoVersion =>
      migrateWithPlan formats readDir depth moment faults fungiDir sourceVersion plan
  | .version number =>
      if number = currentFungiDirVersion ∧ plan.isEmpty then return .noChanges sourceVersion
      else if number = previousFungiDirVersion ∨ number = currentFungiDirVersion then
        migrateWithPlan formats readDir depth moment faults fungiDir sourceVersion plan
      else
        Program.fail <| s!"Unsupported fungi-dir version {number}; " ++
          "no migration path to v3 is implemented yet"

end Migrate

end Fungi.ConfigMigrate
