import Fungi.ConfigMigrate.Migrate
import Fungi.Runtime.ServiceStateSpec

/-!
# What a migration may change

Before it is applied, a migration makes something new only in the backup directory and below the
touched paths of the staging directory.
-/

namespace Fungi.ConfigMigrate

open Fungi.Lib FileSystem Fungi.Runtime

/-! ## The region of a migration -/

/-- The backups, and the given entries of the staging directory. -/
def Workspace (fungiDir stagingDir : String) (heads : List String) (place : List Name) : Prop :=
  Path.resolve fungiDir ++ [backupRootDir.toList] <+: place ∨
    ∃ head ∈ heads, Path.resolve stagingDir ++ [head.toList] <+: place

/-- A relative path without `..` that starts with one of the names. -/
structure Headed (heads : List String) (path : String) : Prop where
  relative : Path.isAbsolute path = false
  direct : Path.Direct path
  starts : ∃ head ∈ heads, [head.toList] <+: Path.names path

instance (heads : List String) (path : String) : Decidable (Headed heads path) :=
  decidable_of_iff (Path.isAbsolute path = false ∧ Path.Direct path ∧
      ∃ head ∈ heads, [head.toList] <+: Path.names path)
    ⟨fun ⟨relative, direct, starts⟩ => ⟨relative, direct, starts⟩,
      fun headed => ⟨headed.relative, headed.direct, headed.starts⟩⟩

/-- The entries of the staging directory that a migration uses, without `config.toml`. -/
def sideHeads : List String :=
  ["access", "address_book.toml", "appdata", "artifacts", "cache", "devices.toml", "services",
    "services-state.json", "trusted_devices.toml"]

/-- The first components of the paths that a migration writes in staging. -/
def stagedHeads : List String := "config.toml" :: sideHeads

theorem headed_touchablePaths : ∀ path ∈ touchablePaths, Headed stagedHeads path := by decide

section Regions

variable {fungiDir stagingDir path : String} {heads : List String} {place : List Name}

theorem Headed.resolve_join (headed : Headed heads path) (stagingDir : String) :
    Path.resolve (Path.join stagingDir path) = Path.resolve stagingDir ++ Path.names path :=
  Path.resolve_join headed.relative headed.direct

theorem Headed.direct_join (headed : Headed heads path) (direct : Path.Direct stagingDir) :
    Path.Direct (Path.join stagingDir path) := by
  unfold Path.Direct
  rw [Path.names_join headed.relative, List.mem_append, not_or]
  exact ⟨direct, headed.direct⟩

/-- A staged path may be made. -/
theorem Headed.admits (headed : Headed heads path) (fungiDir stagingDir : String) :
    Admits (Path.resolve stagingDir) (Workspace fungiDir stagingDir heads)
      (Path.resolve (Path.join stagingDir path)) := by
  obtain ⟨head, member, rest, same⟩ := headed.starts
  have entry : Admits (Path.resolve stagingDir) (Workspace fungiDir stagingDir heads)
      (Path.resolve stagingDir ++ [head.toList]) := by
    apply admits_of_entry (List.prefix_refl _)
    intro rest
    exact Or.inr ⟨head, member, by simp [List.prefix_append_right_inj]⟩
  have extended := entry.append rest
  rwa [List.append_assoc, same, ← headed.resolve_join stagingDir] at extended

/-- A place below a backup may be made. -/
theorem admits_backup (isAbove : Path.resolve fungiDir <+: Path.resolve stagingDir) :
    Admits (Path.resolve stagingDir) (Workspace fungiDir stagingDir heads)
      (Path.resolve fungiDir ++ [backupRootDir.toList]) := by
  apply admits_of_entry isAbove
  intro rest
  exact Or.inl (by simp [List.prefix_append_right_inj])

theorem Headed.below (headed : Headed heads path) (stagingDir : String) :
    Path.resolve stagingDir <+: Path.resolve (Path.join stagingDir path) := by
  rw [headed.resolve_join]
  exact List.prefix_append _ _

theorem Headed.ne (headed : Headed heads path) (stagingDir : String) :
    Path.resolve stagingDir ≠ Path.resolve (Path.join stagingDir path) := by
  obtain ⟨head, _, rest, same⟩ := headed.starts
  rw [headed.resolve_join, ← same]
  simp

end Regions

/-! ## Copies -/

section Copies

variable {base : List Name} {region : List Name → Prop} (readDir : ReadDir)

/-- The entries that are read name entries of a directory. -/
theorem ReadDir.plain_of_gets (directory : String) (files : FileSystem) (entries : List String)
    (final : FileSystem)
    (listed : (Program.gets fun files => readDir.list files directory : Migration (List String))
      files = (.ok entries, final)) : ∀ entry ∈ entries, Path.Plain entry := by
  cases listed
  exact fun entry member => readDir.plain member

theorem within_copyPathRecursively (depth : Nat) {source target : String}
    (direct : Path.Direct target) (admits : Admits base region (Path.resolve target)) :
    Program.Within (confinement base region) (copyPathRecursively readDir depth source target) := by
  induction depth generalizing source target with
  | zero => exact Program.within_fail _
  | succ depth inductionHypothesis =>
      apply (Program.within_gets _).bind
      intro node
      match node with
      | none => exact Program.within_fail _
      | some .directory =>
          apply (within_createDirAll _ direct admits).bind
          intro _
          apply (Program.within_gets _).bind_of_value (readDir.plain_of_gets source)
          intro entries plain
          apply Program.Within.forEach
          intro entry member
          apply inductionHypothesis (Path.direct_join direct (plain entry member))
          rw [Path.resolve_join_plain (plain entry member)]
          exact admits.append _
      | some (.file content) =>
          apply (within_createParent _ direct admits).bind
          intro _
          exact within_copyFile _ admits

theorem within_copySelectedPaths (depth : Nat) {sourceRoot targetRoot : String}
    {relativePaths : List String} (direct : ∀ path ∈ relativePaths,
      Path.Direct (Path.join targetRoot path))
    (admits : ∀ path ∈ relativePaths,
      Admits base region (Path.resolve (Path.join targetRoot path))) :
    Program.Within (confinement base region)
      (copySelectedPaths readDir depth sourceRoot targetRoot relativePaths) := by
  apply Program.Within.forEach
  intro path member
  apply Program.Within.ite
  · exact Program.within_fail _
  · apply (Program.within_gets _).bind
    intro found
    apply Program.Within.when
    intro _
    exact within_copyPathRecursively readDir depth (direct path member) (admits path member)

theorem within_copyBackupSnapshot (depth : Nat) {sourceRoot targetRoot : String}
    (direct : Path.Direct targetRoot) (admits : Admits base region (Path.resolve targetRoot)) :
    Program.Within (confinement base region)
      (copyBackupSnapshot readDir depth sourceRoot targetRoot) := by
  apply (Program.within_gets _).bind
  intro isDirectory
  apply Program.Within.ite
  · apply (Program.within_gets _).bind_of_value (readDir.plain_of_gets sourceRoot)
    intro entries plain
    apply Program.Within.forEach
    intro entry member
    apply Program.Within.ite
    · exact Program.within_pure ()
    · apply within_copyPathRecursively readDir depth
        (Path.direct_join direct (plain entry member))
      rw [Path.resolve_join_plain (plain entry member)]
      exact admits.append _
  · exact Program.within_fail _

end Copies

/-! ## Migrations in the staging directory -/

section Staged

variable (formats : Formats) {fungiDir stagingDir path : String} {heads : List String}
  {base : List Name} {region : List Name → Prop}

theorem within_readStagedConfig (root : String) :
    Program.Within (confinement base region) (readStagedConfig formats root) := by
  apply (within_readFile _ _).bind
  intro content
  exact Program.within_ofExcept _

theorem within_writeTable {path : String} (encodeFailure writeFailure : String)
    (table : Toml.Table) (admits : Admits base region (Path.resolve path)) :
    Program.Within (confinement base region)
      (writeTable formats encodeFailure writeFailure path table) := by
  apply (within_ofOption _ _).bind
  intro updated
  exact within_writeFile _ _ admits

theorem within_readStagedToml (readFailure parseFailure path : String) :
    Program.Within (confinement base region)
      (readStagedToml formats readFailure parseFailure path) := by
  apply (Program.within_gets _).bind
  intro found
  apply Program.Within.ite
  · apply (within_readFile _ _).bind
    intro existing
    exact within_ofOption _ _
  · exact Program.within_pure _

theorem within_migrateConfigTomlToCurrent (headed : Headed heads configFile) :
    Program.Within (confinement (Path.resolve stagingDir) (Workspace fungiDir stagingDir heads))
      (migrateConfigTomlToCurrent formats stagingDir fungiDir) := by
  apply (within_readStagedConfig formats stagingDir).bind
  intro table
  exact within_writeTable formats _ _ _ (headed.admits fungiDir stagingDir)

theorem within_migrateLegacyIncomingAllowedPeers (headed : Headed heads trustedDevicesFile) :
    Program.Within (confinement (Path.resolve stagingDir) (Workspace fungiDir stagingDir heads))
      (migrateLegacyIncomingAllowedPeers formats stagingDir) := by
  apply (within_readStagedConfig formats stagingDir).bind
  intro table
  apply (Program.within_ofExcept _).bind
  intro peers
  apply (within_readStagedToml formats _ _ _).bind
  intro value
  apply (Program.within_ofExcept _).bind
  intro field
  exact within_writeTable formats _ _ _ (headed.admits fungiDir stagingDir)

theorem within_migrateLegacyAddressBook (headed : Headed heads devicesFile) :
    Program.Within (confinement (Path.resolve stagingDir) (Workspace fungiDir stagingDir heads))
      (migrateLegacyAddressBook formats stagingDir) := by
  apply (Program.within_gets _).bind
  intro found
  apply Program.Within.ite
  · apply (within_readFile _ _).bind
    intro content
    have writes : Program.Within
        (confinement (Path.resolve stagingDir) (Workspace fungiDir stagingDir heads))
          (writeDevices formats stagingDir content) := by
      apply (within_ofOption _ _).bind
      intro addressBook
      apply (within_readStagedToml formats _ _ _).bind
      intro value
      apply (Program.within_ofExcept _).bind
      intro field
      apply (Program.within_ofExcept _).bind
      intro devices
      exact within_writeTable formats _ _ _ (headed.admits fungiDir stagingDir)
    apply writes.bind
    intro _
    exact within_removeFile _ _
  · exact Program.within_pure _

theorem within_migrateLegacyLocalAccess (headed : Headed heads localPreferencesFile)
    (direct : Path.Direct stagingDir) :
    Program.Within (confinement (Path.resolve stagingDir) (Workspace fungiDir stagingDir heads))
      (migrateLegacyLocalAccess formats stagingDir) := by
  apply (within_readFile _ _).bind
  intro content
  apply (within_ofOption _ _).bind
  intro legacy
  have reads : Program.Within
      (confinement (Path.resolve stagingDir) (Workspace fungiDir stagingDir heads))
        (readStagedPreferences formats stagingDir) := by
    apply (Program.within_gets _).bind
    intro found
    apply Program.Within.ite
    · apply (within_readFile _ _).bind
      intro content
      exact within_ofOption _ _
    · exact Program.within_pure _
  apply reads.bind
  intro preferences
  apply (within_createParent _ (headed.direct_join direct) (headed.admits fungiDir stagingDir)).bind
  intro _
  apply (within_ofOption _ _).bind
  intro encoded
  apply (within_writeFile _ _ (headed.admits fungiDir stagingDir)).bind
  intro _
  exact within_removeFile _ _

theorem within_removeLegacyServiceCaches
    (headed : ∀ path ∈ [legacyRemoteServicesCacheDir, legacyManagedServicesCacheDir],
      Headed heads path) :
    Program.Within (confinement (Path.resolve stagingDir) (Workspace fungiDir stagingDir heads))
      (removeLegacyServiceCaches stagingDir) := by
  apply Program.Within.forEach
  intro path member
  apply (Program.within_gets _).bind
  intro found
  apply Program.Within.when
  intro _
  apply within_removeDirAll
  intro above
  have below := (headed path member).below stagingDir
  exact (headed path member).ne stagingDir (below.eq_of_length_le above.length_le)

/-! ## Services -/

theorem localId_candidateId (ulid : Ulid) : LocalId (candidateId ulid) :=
  Runtime.localId_candidateId ulid

theorem generateUniqueLocalServiceId_eq_ok {allocated : List String} {ulids rest : Nat → Ulid}
    {attempts : Nat} {localServiceId : String}
    (generated : generateUniqueLocalServiceId allocated ulids attempts =
      .ok (localServiceId, rest)) :
    (∃ ulid, localServiceId = candidateId ulid) ∧ localServiceId ∉ allocated := by
  induction attempts generalizing ulids with
  | zero => cases generated
  | succ attempts inductionHypothesis =>
      unfold generateUniqueLocalServiceId at generated
      dsimp only at generated
      split at generated
      · exact inductionHypothesis generated
      · next fresh =>
          cases generated
          exact ⟨⟨_, rfl⟩, fresh⟩

/-- The staged directories of a service. -/
theorem Headed.admits_service (headed : Headed heads path) (fungiDir stagingDir : String)
    {localServiceId : String} (plain : Path.Plain localServiceId) :
    Admits (Path.resolve stagingDir) (Workspace fungiDir stagingDir heads)
      (Path.resolve (Path.join (Path.join stagingDir path) localServiceId)) := by
  rw [Path.resolve_join_plain plain]
  exact (headed.admits fungiDir stagingDir).append _

/-- The entries of the staging directory in which services are kept. -/
def serviceRoots : List String :=
  [servicesRootDir, appdataServicesRootDir, artifactsServicesRootDir]

section Services

variable (headed : ∀ path ∈ serviceRoots, Headed heads path) (direct : Path.Direct stagingDir)
  {localServiceId : String} (plain : Path.Plain localServiceId)

include headed direct plain

theorem within_moveOrCreateServiceDataDir (oldPath : String) :
    Program.Within (confinement (Path.resolve stagingDir) (Workspace fungiDir stagingDir heads))
      (moveOrCreateServiceDataDir oldPath
        (Path.join (Path.join stagingDir appdataServicesRootDir) localServiceId)) := by
  have appdata := headed appdataServicesRootDir (by decide)
  have newDirect := Path.direct_join (appdata.direct_join direct) plain
  have admits := appdata.admits_service fungiDir stagingDir plain
  apply (Program.within_gets _).bind
  intro taken
  apply Program.Within.ite
  · exact Program.within_fail _
  · apply (Program.within_gets _).bind
    intro found
    apply Program.Within.ite
    · apply (within_createParent _ newDirect admits).bind
      intro _
      apply within_renamePath _ _ _ admits
      · rw [Path.resolve_join_plain plain]
        exact (appdata.below stagingDir).trans (List.prefix_append _ _)
      · rw [Path.resolve_join_plain plain]
        intro same
        have shorter := (appdata.below stagingDir).length_le
        rw [same, List.length_append] at shorter
        simp at shorter
    · exact within_createDirAll _ newDirect admits

theorem within_migrateSource (source : LegacyServiceSource)
    (oldServiceDataDir appdataDir : String) :
    Program.Within (confinement (Path.resolve stagingDir) (Workspace fungiDir stagingDir heads))
      (migrateSource source oldServiceDataDir appdataDir
        (Path.join (Path.join stagingDir artifactsServicesRootDir) localServiceId)) := by
  have artifacts := headed artifactsServicesRootDir (by decide)
  have newDirect := Path.direct_join (artifacts.direct_join direct) plain
  have admits := artifacts.admits_service fungiDir stagingDir plain
  cases source with
  | docker image => exact Program.within_pure _
  | wasmtimeUrl url => exact Program.within_pure _
  | wasmtimeFile component =>
      have moves : Program.Within
          (confinement (Path.resolve stagingDir) (Workspace fungiDir stagingDir heads))
            (migrateWasmtimeComponent component oldServiceDataDir appdataDir
              (Path.join (Path.join stagingDir artifactsServicesRootDir) localServiceId)) := by
        unfold migrateWasmtimeComponent
        split
        · exact Program.within_pure _
        · apply (within_createDirAll _ newDirect admits).bind
          intro _
          have target : Path.Plain "component.wasm" := by decide
          apply (within_copyFile _ (by
            rw [Path.resolve_join_plain target]
            exact admits.append _)).bind
          intro _
          apply (within_removeFile _ _).bind
          intro _
          exact Program.within_pure _
      apply moves.bind
      intro file
      exact Program.within_pure _

theorem within_writeMigratedService (updatedAt : String)
    (document : CurrentServiceManifestDocument) (desiredState : DesiredServiceState) :
    Program.Within (confinement (Path.resolve stagingDir) (Workspace fungiDir stagingDir heads))
      (writeMigratedService formats stagingDir localServiceId updatedAt document desiredState) := by
  have services := headed servicesRootDir (by decide)
  have newDirect := Path.direct_join (services.direct_join direct) plain
  have admits := services.admits_service fungiDir stagingDir plain
  have admitsFile : ∀ {name : String}, Path.Plain name →
      Admits (Path.resolve stagingDir) (Workspace fungiDir stagingDir heads)
        (Path.resolve (Path.join (Path.join (Path.join stagingDir servicesRootDir) localServiceId)
          name)) := by
    intro name plainName
    rw [Path.resolve_join_plain plainName]
    exact admits.append _
  apply (within_createDirAll _ newDirect admits).bind
  intro _
  apply (within_ofOption _ _).bind
  intro manifestYaml
  apply (within_writeFile _ _ (admitsFile (by decide))).bind
  intro _
  apply (within_ofOption _ _).bind
  intro stateBytes
  exact within_writeFile _ _ (admitsFile (by decide))

theorem within_migrateService (liveRoot updatedAt serviceName : String)
    (service : LegacyPersistedService) :
    Program.Within (confinement (Path.resolve stagingDir) (Workspace fungiDir stagingDir heads))
      (migrateService formats stagingDir liveRoot updatedAt localServiceId serviceName
        service) := by
  apply (within_moveOrCreateServiceDataDir headed direct plain _).bind
  intro _
  have manifest : Program.Within
      (confinement (Path.resolve stagingDir) (Workspace fungiDir stagingDir heads))
        (migrateLegacyServiceManifest service.manifest
          (Path.join (Path.join liveRoot servicesRootDir) serviceName)
          (Path.join (Path.join stagingDir appdataServicesRootDir) localServiceId)
          (Path.join (Path.join stagingDir artifactsServicesRootDir) localServiceId)) := by
    apply (within_migrateSource headed direct plain _ _ _).bind
    intro source
    apply (Program.within_ofExcept _).bind
    intro publish
    exact Program.within_pure _
  apply manifest.bind
  intro document
  exact within_writeMigratedService formats headed direct plain _ _ _

omit plain in
theorem within_migrateServices (liveRoot updatedAt : String) (allocated : List String)
    (ulids : Nat → Ulid) (services : List (String × LegacyPersistedService)) :
    Program.Within (confinement (Path.resolve stagingDir) (Workspace fungiDir stagingDir heads))
      (migrateServices formats stagingDir liveRoot updatedAt allocated ulids services) := by
  induction services generalizing allocated ulids with
  | nil => exact Program.within_pure ()
  | cons entry rest inductionHypothesis =>
      obtain ⟨key, service⟩ := entry
      apply (Program.within_ofExcept _).bind
      intro serviceName
      have generates : ∀ files (generated : String × (Nat → Ulid)) final,
          (Program.ofExcept (generateUniqueLocalServiceId allocated ulids 16) :
            Migration (String × (Nat → Ulid))) files = (.ok generated, final) →
              Path.Plain generated.1 := by
        intro files generated final succeeded
        have ok := ((Program.ofExcept_eq_ok files).mp succeeded).1
        obtain ⟨⟨ulid, same⟩, _⟩ := generateUniqueLocalServiceId_eq_ok ok
        rw [same]
        exact (localId_candidateId ulid).plain
      apply (Program.within_ofExcept _).bind_of_value generates
      intro generated plain
      apply (within_migrateService formats headed direct plain _ _ _ _).bind
      intro _
      exact inductionHypothesis _ _

omit plain in
theorem within_migrateLegacyServicesState (liveRoot : String) (moment : Moment) :
    Program.Within (confinement (Path.resolve stagingDir) (Workspace fungiDir stagingDir heads))
      (migrateLegacyServicesState formats stagingDir liveRoot moment) := by
  apply (Program.within_gets _).bind
  intro found
  apply Program.Within.ite
  · apply (within_readFile _ _).bind
    intro content
    apply (within_ofOption _ _).bind
    intro legacyState
    apply Program.Within.ite
    · exact Program.within_fail _
    · apply (within_migrateServices formats headed direct _ _ _ _ _).bind
      intro _
      exact within_removeFile _ _
  · exact Program.within_pure ()

end Services

/-! ## All migrations -/

/-- Nothing is made outside the entries that a migration uses. -/
theorem within_migrateStaged (direct : Path.Direct stagingDir) (moment : Moment)
    (plan : MigrationPlan) :
    Program.Within
      (confinement (Path.resolve stagingDir) (Workspace fungiDir stagingDir stagedHeads))
        (migrateStaged formats moment fungiDir plan stagingDir) := by
  have headed := headed_touchablePaths
  apply (Program.Within.when fun _ => within_migrateLegacyIncomingAllowedPeers formats
    (headed trustedDevicesFile (by decide))).bind
  intro _
  apply (Program.Within.when fun _ => within_migrateLegacyLocalAccess formats
    (headed localPreferencesFile (by decide)) direct).bind
  intro _
  apply (Program.Within.when fun _ => within_removeLegacyServiceCaches fun path member =>
    headed path (by revert path; decide)).bind
  intro _
  apply (Program.Within.when fun _ => within_migrateConfigTomlToCurrent formats
    (headed configFile (by decide))).bind
  intro _
  apply (Program.Within.when fun _ => within_migrateLegacyAddressBook formats
    (headed devicesFile (by decide))).bind
  intro _
  apply Program.Within.when
  intro _
  exact within_migrateLegacyServicesState formats
    (fun path member => headed path (by revert path; decide)) direct _ _

end Staged

end Fungi.ConfigMigrate
