import Mathlib.Data.String.Basic
import Fungi.ConfigMigrate.Steps

/-!
# Migrating local access records

`crates/config-migrate/src/local_preferences.rs`: the records of `access/local_access.json` become
preferences, unless there is one for the same port of the same service already.
-/

namespace Fungi.ConfigMigrate

open Fungi.Lib FileSystem

/-- A legacy record as a preference. -/
def LegacyLocalAccessRecord.preference (record : LegacyLocalAccessRecord) : LocalPreference :=
  { remotePeerId := record.remotePeerId
    remoteServiceName := record.remoteServiceName
    remoteServicePortName := record.remoteServicePortName
    localHost := record.localHost
    localPort := record.localPort
    localPortSource := record.localPortSource }

/-- Preferences are told apart by their service and port name. -/
def LocalPreference.key (preference : LocalPreference) : String × String × String :=
  (preference.remotePeerId, preference.remoteServiceName, preference.remoteServicePortName)

/-- Keys are compared one component after the other. -/
def keyAtMost (left right : String × String × String) : Bool :=
  if left.1 ≠ right.1 then left.1 ≤ right.1
  else if left.2.1 ≠ right.2.1 then left.2.1 ≤ right.2.1
  else left.2.2 ≤ right.2.2

/-- A preference that is there already wins over a record. -/
def addPreference (preferences : List LocalPreference) (record : LegacyLocalAccessRecord) :
    List LocalPreference :=
  if preferences.any fun existing => existing.key = record.preference.key then preferences
  else preferences ++ [record.preference]

/-- The preferences with the records added, in the order of their keys. -/
def mergePreferences (preferences : List LocalPreference)
    (records : List LegacyLocalAccessRecord) : List LocalPreference :=
  (records.foldl addPreference preferences).mergeSort fun left right => keyAtMost left.key right.key

section Staged

variable (formats : Formats) (stagingRoot : String)

/-- The staged preferences, or none where there is no file. -/
def readStagedPreferences : Migration (List LocalPreference) := do
  let preferencesPath := Path.join stagingRoot localPreferencesFile
  let found ← Program.gets fun files => files.pathExists preferencesPath
  if found then
    let content ← readFile ioError preferencesPath
    ofOption "Failed to parse existing local preferences during migration"
      (formats.localPreferences content)
  else return []

/-- Add the legacy records to the staged preferences, and remove their file. -/
def migrateLegacyLocalAccess : Migration Unit := do
  let legacyPath := Path.join stagingRoot legacyLocalAccessFile
  let content ← readFile s!"Failed to read legacy local access file: {legacyPath}" legacyPath
  let legacy ← ofOption "Failed to parse legacy local access records"
    (formats.legacyLocalAccess content)
  let preferencesPath := Path.join stagingRoot localPreferencesFile
  let preferences ← readStagedPreferences formats stagingRoot
  createParent (fun _ => ioError) preferencesPath
  let encoded ← ofOption ioError
    (formats.localPreferencesToString (mergePreferences preferences legacy))
  writeFile ioError preferencesPath encoded
  removeFile ioError legacyPath

end Staged

end Fungi.ConfigMigrate
