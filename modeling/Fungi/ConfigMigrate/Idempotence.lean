import Fungi.ConfigMigrate.Confinement
import Fungi.ConfigMigrate.Settled
import Fungi.ConfigMigrate.StagedApply

/-!
# Migrating twice

After a migration that has applied its changes, no legacy file is left and the configuration is up
to date, so the next migration finds nothing to do.
-/

namespace Fungi.ConfigMigrate

open Fungi.Lib FileSystem Fungi.Runtime

/-! ## Names of the transaction's directories -/

/-- Three or more characters without a separator name an entry of a directory. -/
theorem plain_of_long {name : String} (long : 3 ≤ name.toList.length)
    (noSlash : '/' ∉ name.toList) : Path.Plain name where
  nonempty empty := by simp [empty] at long
  notDot dot := by simp [dot] at long
  notDotDot dotDot := by simp [dotDot] at long
  noSlash := noSlash

theorem noSlash_repr (number : Nat) : '/' ∉ (Nat.repr number).toList := by
  intro slash
  rw [Nat.repr_eq_ofList_toDigits, String.toList_ofList] at slash
  exact absurd (Nat.isDigit_of_mem_toDigits (by decide) (by decide) slash) (by decide)

theorem noSlash_attemptSuffix (attempt : Nat) : '/' ∉ (attemptSuffix attempt).toList := by
  unfold attemptSuffix
  split
  · decide
  · have digits := noSlash_repr attempt
    simpa [toString] using digits

theorem Moment.noSlash_timestamp (moment : Moment) : '/' ∉ moment.timestamp.toList := by
  intro slash
  exact absurd (List.all_eq_true.mp moment.alphanumeric '/' slash) (by decide)

theorem plain_backupDirName (moment : Moment) (sourceVersion : DetectedVersion) (attempt : Nat) :
    Path.Plain (backupDirName moment sourceVersion ++ attemptSuffix attempt) := by
  have label : '/' ∉ sourceVersion.backupLabel.toList := by
    cases sourceVersion with
    | missingConfig => decide
    | legacyNoVersion => decide
    | version number =>
        have digits := noSlash_repr number.toNat
        simpa [DetectedVersion.backupLabel, toString] using digits
  apply plain_of_long
  · simp [backupDirName]
    omega
  · simp [backupDirName, moment.noSlash_timestamp, noSlash_attemptSuffix, label]

theorem plain_stagingDirName (moment : Moment) (attempt : Nat) :
    Path.Plain (stagingDirName moment ++ attemptSuffix attempt) := by
  apply plain_of_long
  · simp [stagingDirName]
    omega
  · simp [stagingDirName, stagingDirPrefix, moment.noSlash_timestamp, noSlash_attemptSuffix]

theorem isTransactionEntry_stagingDirName (moment : Moment) (attempt : Nat) :
    isTransactionEntry (stagingDirName moment ++ attemptSuffix attempt) = true := by
  simp [isTransactionEntry, stagingDirName, List.append_assoc]

/-! ## Preparing -/

/-- What the transaction has to itself in a fungi directory. -/
def Hidden (fungiDir : String) (place : List Name) : Prop :=
  ∃ name, isTransactionEntry name = true ∧ Path.resolve fungiDir ++ [name.toList] <+: place

/-- The directories of a transaction; the staging directory is empty. -/
structure Allocated (fungiDir backupDir stagingDir : String) (files : FileSystem) : Prop where
  backup : ∃ name, Path.Plain name ∧ backupDir = Path.join (Path.join fungiDir backupRootDir) name
  staging : ∃ name, Path.Plain name ∧ isTransactionEntry name = true ∧ name ≠ backupRootDir ∧
    stagingDir = Path.join fungiDir name
  isDirectory : files (Path.resolve stagingDir) = some .directory
  empty : ∀ name rest, files (Path.resolve stagingDir ++ name :: rest) = none

section Preparing

variable {files final : FileSystem} {base : List Name} {region : List Name → Prop}
  {fungiDir path backupDir stagingDir : String}

theorem confined_makeDir (tree : files.IsTree) (kept : files base = some .directory)
    {place : List Name} (absent : files place = none)
    (parent : files place.dropLast = some .directory) (inside : region place) :
    Confined base region files (files.makeDirs [place]) := by
  have notBase : base ≠ place := by
    rintro rfl
    rw [kept] at absent
    cases absent
  have elsewhere : ∀ {other}, other ≠ place → files.makeDirs [place] other = files other :=
    fun different => makeDirs_of_notMem (by simpa using different)
  refine ⟨?_, ?_, ?_⟩
  · intro above name present
    have directory : files above = some .directory := by
      by_cases same : above ++ [name] = place
      · rwa [← same, List.dropLast_concat] at parent
      · rw [elsewhere same] at present
        exact tree above name present
    rw [makeDirs_of_isSome (by simp [directory]), directory]
  · rw [elsewhere notBase, kept]
  · intro other outside
    left
    apply elsewhere
    rintro rfl
    exact outside inside

theorem createDir_cases (path : String) (files : FileSystem) :
    (∃ outcome, createDir path files = (.ok outcome, files) ∧ outcome ≠ .created) ∨
      createDir path files = (.ok .created, files.makeDirs [Path.resolve path]) ∧
        files (Path.resolve path) = none ∧
          files (Path.resolve path).dropLast = some .directory := by
  unfold createDir
  dsimp only
  split
  · exact Or.inl ⟨_, rfl, nofun⟩
  · next absent =>
      split
      · next parent => exact Or.inr ⟨rfl, not_not.mp absent, parent⟩
      · exact Or.inl ⟨_, rfl, nofun⟩

theorem within_createDir (inside : region (Path.resolve path)) :
    Program.Within (confinement base region) (createDir path) := by
  intro files tree kept
  rcases createDir_cases path files with ⟨outcome, ran, _⟩ | ⟨ran, absent, parent⟩
  · rw [ran]
    exact Confined.of_same tree kept
  · rw [ran]
    exact confined_makeDir tree kept absent parent inside

theorem hidden_join {name : String} (plain : Path.Plain name)
    (transaction : isTransactionEntry name = true) (rest : List Name) :
    Hidden fungiDir (Path.resolve (Path.join fungiDir name) ++ rest) := by
  rw [Path.resolve_join_plain plain]
  exact ⟨name, transaction, List.prefix_append _ _⟩

theorem hidden_backup (rest : List Name) :
    Hidden fungiDir (Path.resolve (Path.join fungiDir backupRootDir) ++ rest) :=
  hidden_join (by decide) (by decide) rest

variable (moment : Moment) (sourceVersion : DetectedVersion)

/-- The directories of an attempt. -/
def backupDirAt (fungiDir : String) (attempt : Nat) : String :=
  Path.join (Path.join fungiDir backupRootDir)
    (backupDirName moment sourceVersion ++ attemptSuffix attempt)

/-- The staging directory of an attempt. -/
def stagingDirAt (fungiDir : String) (attempt : Nat) : String :=
  Path.join fungiDir (stagingDirName moment ++ attemptSuffix attempt)

theorem hidden_backupDirAt (fungiDir : String) (moment : Moment) (sourceVersion : DetectedVersion)
    (attempt : Nat) :
    Hidden fungiDir (Path.resolve (backupDirAt moment sourceVersion fungiDir attempt)) := by
  rw [backupDirAt, Path.resolve_join_plain (plain_backupDirName moment sourceVersion attempt)]
  exact hidden_backup _

theorem hidden_stagingDirAt (fungiDir : String) (moment : Moment) (attempt : Nat) :
    Hidden fungiDir (Path.resolve (stagingDirAt moment fungiDir attempt)) := by
  simpa [stagingDirAt] using hidden_join (plain_stagingDirName moment attempt)
    (isTransactionEntry_stagingDirName moment attempt) []

theorem within_removeBackupDir (fungiDir : String) (moment : Moment)
    (sourceVersion : DetectedVersion) (attempt : Nat) :
    Program.Within (confinement (Path.resolve fungiDir) (Hidden fungiDir))
      (Program.ignoring
        (removeDirAll ioError (backupDirAt moment sourceVersion fungiDir attempt))) := by
  apply Program.Within.ignoring
  apply within_removeDirAll
  rw [backupDirAt, Path.resolve_join_plain (plain_backupDirName moment sourceVersion attempt),
    Path.resolve_join_plain (by decide)]
  intro above
  have shorter := above.length_le
  simp only [List.length_append, List.length_singleton] at shorter
  omega

theorem within_allocateTransactionDirs (fungiDir : String) (moment : Moment)
    (sourceVersion : DetectedVersion) (attempts attempt : Nat) :
    Program.Within (confinement (Path.resolve fungiDir) (Hidden fungiDir))
      (allocateTransactionDirs (Path.join fungiDir backupRootDir) fungiDir
        (backupDirName moment sourceVersion) (stagingDirName moment) attempts attempt) := by
  induction attempts generalizing attempt with
  | zero => exact Program.within_fail _
  | succ attempts inductionHypothesis =>
      have removes := within_removeBackupDir fungiDir moment sourceVersion attempt
      unfold allocateTransactionDirs
      apply (Program.within_gets _).bind
      intro taken
      apply Program.Within.ite
      · exact inductionHypothesis (attempt + 1)
      · apply (within_createDir (hidden_backupDirAt fungiDir moment sourceVersion attempt)).bind
        intro backup
        cases backup with
        | alreadyExists => exact inductionHypothesis (attempt + 1)
        | failed => exact Program.within_fail _
        | created =>
            apply (within_createDir (hidden_stagingDirAt fungiDir moment attempt)).bind
            intro staging
            cases staging with
            | created => exact Program.within_pure _
            | alreadyExists =>
                apply removes.bind
                intro _
                exact inductionHypothesis (attempt + 1)
            | failed =>
                apply removes.bind
                intro _
                exact Program.within_fail _

/-- A staging directory that was just made is empty. -/
theorem allocated_of_created (attempt : Nat) (tree : files.IsTree)
    (created : createDir (stagingDirAt moment fungiDir attempt) files = (.ok .created, final)) :
    Allocated fungiDir (backupDirAt moment sourceVersion fungiDir attempt)
      (stagingDirAt moment fungiDir attempt) final := by
  rcases createDir_cases (stagingDirAt moment fungiDir attempt) files with
    ⟨outcome, ran, other⟩ | ⟨ran, absent, _⟩
  · rw [ran] at created
    cases created
    exact absurd rfl other
  · rw [ran] at created
    cases created
    refine ⟨⟨_, plain_backupDirName moment sourceVersion attempt, rfl⟩,
      ⟨_, plain_stagingDirName moment attempt, isTransactionEntry_stagingDirName moment attempt,
        ?_, rfl⟩, ?_, ?_⟩
    · intro same
      have first := congrArg (fun name => name.toList.head?) same
      simp [stagingDirName, stagingDirPrefix, backupRootDir] at first
    · simp [makeDirs, absent]
    · intro name rest
      have nothing := congrFun (subtree_eq_none tree absent) (name :: rest)
      rw [subtree] at nothing
      rw [makeDirs_of_notMem (by simp), nothing]

/-- The directories that are returned have just been made. -/
theorem allocateTransactionDirs_ok (attempts attempt : Nat) (tree : files.IsTree)
    (kept : files (Path.resolve fungiDir) = some .directory)
    (ran : allocateTransactionDirs (Path.join fungiDir backupRootDir) fungiDir
      (backupDirName moment sourceVersion) (stagingDirName moment) attempts attempt files =
        (.ok (backupDir, stagingDir), final)) : Allocated fungiDir backupDir stagingDir final := by
  induction attempts generalizing attempt files with
  | zero => cases ran
  | succ attempts inductionHypothesis =>
      unfold allocateTransactionDirs at ran
      obtain ⟨taken, same, read, ran⟩ := (Program.bind_eq_ok files).mp ran
      cases read
      split at ran
      · exact inductionHypothesis (attempt + 1) tree kept ran
      · obtain ⟨backup, middle, ranBackup, ran⟩ := (Program.bind_eq_ok _).mp ran
        have first := within_createDir (hidden_backupDirAt fungiDir moment sourceVersion attempt)
          files tree kept
        rw [backupDirAt, ranBackup] at first
        cases backup with
        | alreadyExists => exact inductionHypothesis (attempt + 1) first.tree first.kept ran
        | failed => cases ran
        | created =>
            obtain ⟨staging, last, ranStaging, ran⟩ := (Program.bind_eq_ok _).mp ran
            have second := within_createDir (hidden_stagingDirAt fungiDir moment attempt) middle
              first.tree first.kept
            rw [stagingDirAt, ranStaging] at second
            cases staging with
            | created =>
                cases ran
                exact allocated_of_created moment sourceVersion attempt first.tree ranStaging
            | alreadyExists =>
                obtain ⟨_, after, removed, ran⟩ := (Program.bind_eq_ok _).mp ran
                have third := within_removeBackupDir fungiDir moment sourceVersion
                  attempt last second.tree second.kept
                rw [backupDirAt, removed] at third
                exact inductionHypothesis (attempt + 1) third.tree third.kept ran
            | failed =>
                obtain ⟨_, after, _, ran⟩ := (Program.bind_eq_ok _).mp ran
                cases ran

/-- Preparing makes something new only in what the transaction has to itself. -/
theorem prepare_ok (direct : Path.Direct fungiDir) (tree : files.IsTree)
    (kept : files (Path.resolve fungiDir) = some .directory)
    (ran : prepare moment fungiDir sourceVersion files = (.ok (backupDir, stagingDir), final)) :
    Confined (Path.resolve fungiDir) (Hidden fungiDir) files final ∧
      Allocated fungiDir backupDir stagingDir final := by
  obtain ⟨_, middle, created, ran⟩ := (Program.bind_eq_ok _).mp ran
  have rootAdmits : Admits (Path.resolve fungiDir) (Hidden fungiDir)
      (Path.resolve (Path.join fungiDir backupRootDir)) := by
    rw [Path.resolve_join_plain (by decide)]
    apply admits_of_entry (List.prefix_refl _)
    intro rest
    exact ⟨backupRootDir, by decide, by simp [List.prefix_append_right_inj]⟩
  have first := within_createDirAll "Failed to create migration backup root directory"
    (Path.direct_join direct (by decide)) rootAdmits files tree kept
  rw [created] at first
  have second := within_allocateTransactionDirs fungiDir moment sourceVersion 1000 0
    middle first.tree first.kept
  rw [ran] at second
  exact ⟨first.trans second,
    allocateTransactionDirs_ok moment sourceVersion 1000 0 first.tree first.kept ran⟩

end Preparing

/-! ## Places of touchable paths -/

section Places

variable {fungiDir backupDir stagingDir path other : String} {files : FileSystem}
  {heads : List String}

/-- No touchable path starts with an entry that belongs to a transaction. -/
theorem apart_transaction {name : String} (member : path ∈ touchablePaths)
    (transaction : isTransactionEntry name = true) :
    Path.Apart [name.toList] (Path.names path) := by
  have starts : ∀ path ∈ touchablePaths, ((Path.names path).head?.any fun head =>
      !isTransactionEntry (String.ofList head)) = true := by decide
  have first := starts path member
  cases shape : Path.names path with
  | nil =>
      rw [shape] at first
      cases first
  | cons head rest =>
      rw [shape] at first
      have different : name.toList ≠ head := by
        rintro rfl
        simp [transaction] at first
      simp [Path.Apart, List.cons_prefix_cons, different, Ne.symm different]

theorem resolve_touchable (member : path ∈ touchablePaths) (root : String) :
    Path.resolve (Path.join root path) = Path.resolve root ++ Path.names path :=
  (headed_touchablePaths path member).resolve_join root

theorem not_hidden (member : path ∈ touchablePaths) :
    ¬ Hidden fungiDir (Path.resolve (Path.join fungiDir path)) := by
  rintro ⟨name, transaction, below⟩
  rw [resolve_touchable member, List.prefix_append_right_inj] at below
  exact (apart_transaction member transaction).1 below

theorem Allocated.apart (allocated : Allocated fungiDir backupDir stagingDir files)
    (member : path ∈ touchablePaths) :
    Path.Apart (Path.resolve stagingDir) (Path.resolve (Path.join fungiDir path)) := by
  obtain ⟨name, plain, transaction, _, rfl⟩ := allocated.staging
  rw [Path.resolve_join_plain plain, resolve_touchable member, Path.apart_append_iff]
  exact apart_transaction member transaction

theorem Allocated.not_workspace (allocated : Allocated fungiDir backupDir stagingDir files)
    (member : path ∈ touchablePaths) :
    ¬ Workspace fungiDir stagingDir heads (Path.resolve (Path.join fungiDir path)) := by
  rintro (backup | ⟨head, _, staged⟩)
  · exact not_hidden member ⟨backupRootDir, by decide, backup⟩
  · exact (allocated.apart member).1 ((List.prefix_append _ _).trans staged)

/-- An entry of the staging directory that is not used. -/
theorem Allocated.not_workspace_entry (allocated : Allocated fungiDir backupDir stagingDir files)
    {name : String} (unused : name ∉ heads) :
    ¬ Workspace fungiDir stagingDir heads (Path.resolve stagingDir ++ [name.toList]) := by
  rintro (backup | ⟨head, member, below⟩)
  · obtain ⟨staging, plain, _, notBackup, rfl⟩ := allocated.staging
    rw [Path.resolve_join_plain plain, List.append_assoc, List.prefix_append_right_inj] at backup
    simp only [List.singleton_append, List.cons_prefix_cons] at backup
    exact notBackup (String.toList_inj.mp backup.1.symm)
  · rw [List.prefix_append_right_inj, List.cons_prefix_cons] at below
    exact unused (String.toList_inj.mp below.1 ▸ member)

theorem Allocated.direct (allocated : Allocated fungiDir backupDir stagingDir files)
    (direct : Path.Direct fungiDir) : Path.Direct stagingDir ∧ Path.Direct backupDir := by
  obtain ⟨staging, stagingPlain, _, _, rfl⟩ := allocated.staging
  obtain ⟨backup, backupPlain, rfl⟩ := allocated.backup
  exact ⟨Path.direct_join direct stagingPlain,
    Path.direct_join (Path.direct_join direct (by decide)) backupPlain⟩

theorem Allocated.above (allocated : Allocated fungiDir backupDir stagingDir files) :
    Path.resolve fungiDir <+: Path.resolve stagingDir := by
  obtain ⟨staging, plain, _, _, rfl⟩ := allocated.staging
  rw [Path.resolve_join_plain plain]
  exact List.prefix_append _ _

theorem Allocated.admits_backup (allocated : Allocated fungiDir backupDir stagingDir files) :
    Admits (Path.resolve stagingDir) (Workspace fungiDir stagingDir heads)
      (Path.resolve backupDir) := by
  have admits : Admits _ (Workspace fungiDir stagingDir heads) _ :=
    ConfigMigrate.admits_backup allocated.above
  obtain ⟨backup, plain, rfl⟩ := allocated.backup
  rw [Path.resolve_join_plain plain, Path.resolve_join_plain (by decide)]
  exact admits.append _

end Places

/-! ## The staged configuration -/

section StagedConfig

variable {formats : Formats} {files final : FileSystem} {fungiDir stagingDir : String}

/-- The content is that of an up-to-date configuration. -/
def UpToDateContent (formats : Formats) (fungiDir content : String) : Prop :=
  ∃ table, formats.toml.fromStr content = some (.table table) ∧ UpToDate fungiDir table

theorem migrateConfigTomlToCurrent_ok
    (ran : migrateConfigTomlToCurrent formats stagingDir fungiDir files = (.ok (), final)) :
    ∃ content, final (Path.resolve (Path.join stagingDir configFile)) = some (.file content) ∧
      UpToDateContent formats fungiDir content := by
  obtain ⟨table, middle, _, ran⟩ := (Program.bind_eq_ok files).mp ran
  obtain ⟨content, last, encoded, written⟩ := (Program.bind_eq_ok middle).mp ran
  cases updated : formats.toml.toStringPretty (.table (normalizeConfig fungiDir table)) with
  | none =>
      rw [updated] at encoded
      cases encoded
  | some text =>
      rw [updated] at encoded
      cases encoded
      refine ⟨content, ?_, _, formats.toml.fromStr_toStringPretty updated,
        upToDate_normalizeConfig fungiDir table⟩
      unfold writeFile step fileStep at written
      dsimp only at written
      split at written
      · next next result =>
          cases written
          obtain ⟨_, rfl⟩ := writeFile_eq_some result
          simp
      · cases written

/-- What follows the normalization does not write the configuration again. -/
theorem migrateStaged_config {backupDir : String} {moment : Moment} {plan : MigrationPlan}
    {before : FileSystem} (allocated : Allocated fungiDir backupDir stagingDir before)
    (direct : Path.Direct stagingDir) (update : plan.updateConfig = true) (tree : files.IsTree)
    (kept : files (Path.resolve stagingDir) = some .directory)
    (ran : migrateStaged formats moment fungiDir plan stagingDir files = (.ok (), final)) :
    ∃ content, UpToDateContent formats fungiDir content ∧
      (final (Path.resolve (Path.join stagingDir configFile)) = some (.file content) ∨
        final (Path.resolve (Path.join stagingDir configFile)) = none) := by
  have headed := headed_touchablePaths
  have sideHeaded : ∀ path ∈ devicesFile :: serviceRoots, Headed sideHeads path := by decide
  obtain ⟨_, first, ranPeers, ran⟩ := (Program.bind_eq_ok _).mp ran
  obtain ⟨_, second, ranAccess, ran⟩ := (Program.bind_eq_ok _).mp ran
  obtain ⟨_, third, ranCaches, ran⟩ := (Program.bind_eq_ok _).mp ran
  obtain ⟨_, fourth, ranConfig, ran⟩ := (Program.bind_eq_ok _).mp ran
  have peers : Confined _ (Workspace fungiDir stagingDir stagedHeads) files first :=
    confined_of_ran tree kept (Program.Within.when fun _ =>
      within_migrateLegacyIncomingAllowedPeers formats
        (headed trustedDevicesFile (by decide))) ranPeers
  have access : Confined _ (Workspace fungiDir stagingDir stagedHeads) first second :=
    confined_of_ran peers.tree peers.kept (Program.Within.when fun _ =>
      within_migrateLegacyLocalAccess formats (headed localPreferencesFile (by decide)) direct)
      ranAccess
  have caches : Confined _ (Workspace fungiDir stagingDir stagedHeads) second third :=
    confined_of_ran access.tree access.kept (Program.Within.when fun _ =>
      within_removeLegacyServiceCaches fun path member => headed path (by revert path; decide))
      ranCaches
  have config : Confined _ (Workspace fungiDir stagingDir stagedHeads) third fourth :=
    confined_of_ran caches.tree caches.kept (Program.Within.when fun _ =>
      within_migrateConfigTomlToCurrent formats (headed configFile (by decide))) ranConfig
  rw [Program.when, if_pos update] at ranConfig
  obtain ⟨content, found, upToDate⟩ := migrateConfigTomlToCurrent_ok ranConfig
  have rest : Confined _ (Workspace fungiDir stagingDir sideHeads) fourth final :=
    confined_of_ran config.tree config.kept ((Program.Within.when fun _ =>
      within_migrateLegacyAddressBook formats (sideHeaded devicesFile (by decide))).bind fun _ =>
        Program.Within.when fun _ => within_migrateLegacyServicesState formats
          (fun path member => sideHeaded path (List.mem_cons_of_mem _ member)) direct _ _) ran
  have unused : ¬ Workspace fungiDir stagingDir sideHeads
      (Path.resolve (Path.join stagingDir configFile)) := by
    rw [Path.resolve_join_plain (by decide)]
    exact allocated.not_workspace_entry (by decide)
  refine ⟨content, upToDate, ?_⟩
  rw [← found]
  exact rest.outside _ unused

end StagedConfig

/-! ## From the staging directory to the fungi directory -/

section Applying

variable {formats : Formats} {readDir : ReadDir} {depth : Nat} {moment : Moment} {faults : Faults}
  {files prepared staged final : FileSystem} {fungiDir backupDir stagingDir path : String}
  {touched : List String} {plan : MigrationPlan} {sourceVersion : DetectedVersion}

/-- The touchable paths lie next to each other, and none is the directory for what is moved
aside. -/
theorem apart_touchablePaths :
    touchablePaths.Pairwise (fun left right => Path.Apart (Path.names left) (Path.names right)) ∧
      ∀ path ∈ touchablePaths, Path.Apart (Path.names path) [applyRollbackDirName.toList] := by
  decide

theorem Allocated.layout (allocated : Allocated fungiDir backupDir stagingDir prepared)
    (direct : Path.Direct fungiDir) (sublist : touched.Sublist touchablePaths)
    (confined : Confined (Path.resolve stagingDir) (Workspace fungiDir stagingDir stagedHeads)
      prepared staged) : Layout staged stagingDir fungiDir touched where
  tree := confined.tree
  stagingDirect := (allocated.direct direct).1
  liveDirect := direct
  staging := confined.kept
  fresh := by
    rw [resolve_asideRoot]
    exact confined.absent (allocated.not_workspace_entry (by decide)) (allocated.empty _ [])
  relative path member :=
    have headed := headed_touchablePaths path (sublist.subset member)
    ⟨headed.relative, headed.direct⟩
  apart := apart_touchablePaths.1.sublist sublist
  notAside path member := apart_touchablePaths.2 path (sublist.subset member)
  outside path member := allocated.apart (sublist.subset member)

/-- Applying puts the staged versions where they belong and leaves the other paths. -/
theorem applied_places (allocated : Allocated fungiDir backupDir stagingDir prepared)
    (sublist : touched.Sublist touchablePaths)
    (layout : Layout staged stagingDir fungiDir touched)
    (ran : applyStagedPaths faults stagingDir fungiDir touched staged = (.ok (), final))
    (member : path ∈ touchablePaths) :
    final (Path.resolve (Path.join fungiDir path)) =
      if path ∈ touched then staged (Path.resolve (Path.join stagingDir path))
      else staged (Path.resolve (Path.join fungiDir path)) := by
  obtain ⟨all, same, standing⟩ := standing_of_applied layout faults ran
  split
  · next isTouched =>
      exact apply_eq_of_subtree (standing.done path (same.mem_iff.mpr isTouched)).1
  · next untouched =>
      have symmetric : Std.Symm fun left right => Path.Apart (Path.names left) (Path.names right) :=
        ⟨fun _ _ => Path.Apart.symm⟩
      have apart : ∀ other ∈ touched,
          Path.Apart (place stagingDir fungiDir other .live)
            (Path.resolve (Path.join fungiDir path)) := by
        intro other isTouched
        have different : other ≠ path := by
          rintro rfl
          exact untouched isTouched
        have otherMember := sublist.subset isTouched
        rw [layout.place_eq isTouched, resolve_touchable member]
        exact Path.apart_append_iff.mpr
          (apart_touchablePaths.1.forall otherMember member different)
      rcases standing.surroundings.outside _ (allocated.apart member).1
        fun other isTouched => (apart other isTouched).1 with
        unchanged | ⟨_, _, other, isTouched, above⟩
      · exact unchanged
      · exact absurd (above.trans (List.dropLast_prefix _)) (apart other isTouched).2

/-- What a migration that has applied its changes leaves behind. -/
structure Migrated (formats : Formats) (fungiDir : String) (plan : MigrationPlan)
    (files final : FileSystem) : Prop where
  validated : ∃ staged stagingDir, validateMigratedDir formats staged stagingDir plan = .ok () ∧
    (∀ path ∈ plan.touchedPaths, final (Path.resolve (Path.join fungiDir path)) =
      staged (Path.resolve (Path.join stagingDir path))) ∧
        (plan.updateConfig = true → ∃ content, UpToDateContent formats fungiDir content ∧
          (staged (Path.resolve (Path.join stagingDir configFile)) = some (.file content) ∨
            staged (Path.resolve (Path.join stagingDir configFile)) = none))
  untouched : ∀ path ∈ touchablePaths, path ∉ plan.touchedPaths →
    final (Path.resolve (Path.join fungiDir path)) =
        files (Path.resolve (Path.join fungiDir path)) ∨
      final (Path.resolve (Path.join fungiDir path)) = none

theorem migrateWithPlan_ok {report : MigrationReport} (direct : Path.Direct fungiDir)
    (tree : files.IsTree) (kept : files (Path.resolve fungiDir) = some .directory)
    (sublist : plan.touchedPaths.Sublist touchablePaths) (nonempty : plan.isEmpty = false)
    (ran : migrateWithPlan formats readDir depth moment faults fungiDir sourceVersion plan files =
      (.ok report, final)) : Migrated formats fungiDir plan files final := by
  unfold migrateWithPlan at ran
  rw [if_neg (by simp [nonempty])] at ran
  obtain ⟨⟨backupDir, stagingDir⟩, prepared, ranPrepare, ran⟩ := (Program.bind_eq_ok _).mp ran
  obtain ⟨preparing, allocated⟩ := prepare_ok moment sourceVersion direct tree kept ranPrepare
  obtain ⟨stagingDirect, backupDirect⟩ := allocated.direct direct
  obtain ⟨_, backed, ranBackup, ran⟩ := (Program.bind_eq_ok _).mp ran
  have backup : Confined _ (Workspace fungiDir stagingDir stagedHeads) prepared backed :=
    confined_of_ran preparing.tree allocated.isDirectory
      (within_copyBackupSnapshot readDir depth backupDirect allocated.admits_backup) ranBackup
  obtain ⟨_, copied, ranCopy, ran⟩ := (Program.bind_eq_ok _).mp ran
  have copy : Confined _ (Workspace fungiDir stagingDir stagedHeads) backed copied :=
    confined_of_ran backup.tree backup.kept
      (within_copySelectedPaths readDir depth
        (fun path member => (headed_touchablePaths path (sublist.subset member)).direct_join
          stagingDirect)
        fun path member => (headed_touchablePaths path (sublist.subset member)).admits _ _) ranCopy
  obtain ⟨_, staged, ranStaged, ran⟩ := (Program.bind_eq_ok _).mp ran
  have staging : Confined _ (Workspace fungiDir stagingDir stagedHeads) copied staged :=
    confined_of_ran copy.tree copy.kept
      (within_migrateStaged formats stagingDirect moment plan) ranStaged
  obtain ⟨_, _, read, ran⟩ := (Program.bind_eq_ok _).mp ran
  cases read
  obtain ⟨_, _, ranValidate, ran⟩ := (Program.bind_eq_ok _).mp ran
  obtain ⟨validated, rfl⟩ := (Program.ofExcept_eq_ok _).mp ranValidate
  obtain ⟨_, applied, ranApply, ran⟩ := (Program.bind_eq_ok _).mp ran
  obtain ⟨_, cleaned, ranRemove, ran⟩ := (Program.bind_eq_ok _).mp ran
  cases ran
  have confined := (backup.trans copy).trans staging
  have layout := allocated.layout direct sublist confined
  have places := fun {path} (member : path ∈ touchablePaths) =>
    applied_places allocated sublist layout ranApply member
  -- removing the staging directory leaves the paths alone
  have cleans : ∀ path ∈ touchablePaths, final (Path.resolve (Path.join fungiDir path)) =
      applied (Path.resolve (Path.join fungiDir path)) := by
    intro path member
    unfold removeDirAll step fileStep at ranRemove
    dsimp only at ranRemove
    split at ranRemove
    · next result =>
        cases ranRemove
        exact removeDirAll_frame result (allocated.apart member).1
    · cases ranRemove
  refine ⟨⟨staged, stagingDir, validated, ?_, ?_⟩, ?_⟩
  · intro path isTouched
    have member := sublist.subset isTouched
    rw [cleans path member, places member, if_pos isTouched]
  · intro update
    exact migrateStaged_config allocated stagingDirect update copy.tree copy.kept ranStaged
  · intro path member untouched
    rw [cleans path member, places member, if_neg untouched]
    rcases confined.outside _ (allocated.not_workspace member) with same | gone
    · rw [same]
      exact preparing.outside _ (not_hidden member)
    · exact Or.inr gone

end Applying

/-! ## Idempotence -/

section Plans

variable {formats : Formats} {readDir : ReadDir} {files : FileSystem} {fungiDir path : String}
  {version : DetectedVersion} {plan : MigrationPlan}

/-- The paths that a plan touches are in order. -/
theorem touchedPaths_sublist (found : String → Bool) (requires peers : Bool) :
    (planFor found requires peers).touchedPaths.Sublist touchablePaths :=
  List.filter_sublist

theorem mem_touchedPaths_config (found : String → Bool) (requires peers : Bool) :
    configFile ∈ (planFor found requires peers).touchedPaths ↔
      (planFor found requires peers).updateConfig = true := by
  simp [planFor, touchablePaths, configFile, trustedDevicesFile, legacyLocalAccessFile,
    localPreferencesFile, legacyRemoteServicesCacheDir, legacyManagedServicesCacheDir,
    legacyAddressBookFile, devicesFile, legacyServiceStateFile, servicesRootDir,
    appdataServicesRootDir, artifactsServicesRootDir]

theorem mem_touchedPaths_legacy (found : String → Bool) (requires peers : Bool)
    (member : path ∈ legacyPaths) :
    path ∈ (planFor found requires peers).touchedPaths ↔ found path = true := by
  simp only [legacyPaths, List.mem_cons, List.not_mem_nil, or_false] at member
  rcases member with rfl | rfl | rfl | rfl | rfl <;>
    simp [planFor, touchablePaths, configFile, trustedDevicesFile, legacyLocalAccessFile,
      localPreferencesFile, legacyRemoteServicesCacheDir, legacyManagedServicesCacheDir,
      legacyAddressBookFile, devicesFile, legacyServiceStateFile, servicesRootDir,
      appdataServicesRootDir, artifactsServicesRootDir]

theorem require_eq_ok {condition : Bool} {failure : Error} :
    require condition failure = .ok () ↔ condition = true := by
  unfold require
  cases condition <;> simp

/-- What validation makes sure of: no legacy path that was found is in the staging directory, and
the configuration has the current version. -/
theorem validateMigratedDir_eq_ok {found : String → Bool} {requires peers : Bool}
    {staged : FileSystem} {stagingDir : String}
    (validated : validateMigratedDir formats staged stagingDir (planFor found requires peers) =
      .ok ()) :
    ((planFor found requires peers).updateConfig = true →
        staged.pathExists (Path.join stagingDir configFile) = true) ∧
      ∀ path ∈ legacyPaths, found path = true →
        staged.pathExists (Path.join stagingDir path) = false := by
  unfold validateMigratedDir at validated
  obtain ⟨_, config, validated⟩ := bind_eq_ok.mp validated
  obtain ⟨_, addressBook, validated⟩ := bind_eq_ok.mp validated
  obtain ⟨_, _, validated⟩ := bind_eq_ok.mp validated
  obtain ⟨_, _, validated⟩ := bind_eq_ok.mp validated
  obtain ⟨_, localAccess, validated⟩ := bind_eq_ok.mp validated
  obtain ⟨_, _, validated⟩ := bind_eq_ok.mp validated
  obtain ⟨_, caches, services⟩ := bind_eq_ok.mp validated
  rw [require_eq_ok] at addressBook localAccess caches services
  constructor
  · intro update
    rw [if_pos update] at config
    obtain ⟨detected, detects, current⟩ := bind_eq_ok.mp config
    rw [require_eq_ok] at current
    have isCurrent : detected = .version currentFungiDirVersion := by simpa using current
    by_contra absent
    rw [detectSourceVersion, if_pos absent, isCurrent] at detects
    cases detects
  · intro path member isFound
    simp only [legacyPaths, List.mem_cons, List.not_mem_nil, or_false] at member
    rcases member with rfl | rfl | rfl | rfl | rfl
    · simpa [planFor, isFound] using addressBook
    · simpa [planFor, isFound] using services
    · simpa [planFor, isFound] using localAccess
    · simp only [planFor, isFound] at caches
      simp at caches
      exact caches.1
    · simp only [planFor, isFound] at caches
      simp at caches
      exact caches.2

theorem buildMigrationPlan_eq_ok
    (built : buildMigrationPlan formats readDir files fungiDir version = .ok plan) :
    ∃ requires peers,
      configHasLegacyIncomingAllowedPeers formats files fungiDir version = .ok peers ∧
        configRequiresCurrentNormalization formats files fungiDir version = .ok requires ∧
          plan =
            planFor (fun path => files.pathExists (Path.join fungiDir path)) requires peers := by
  unfold buildMigrationPlan at built
  dsimp only at built
  rw [guard_eq_ok] at built
  have rest := built.2
  split at rest
  · obtain ⟨_, _, rest⟩ := bind_eq_ok.mp rest
    obtain ⟨peers, hasPeers, rest⟩ := bind_eq_ok.mp rest
    obtain ⟨requires, requiresIt, rest⟩ := bind_eq_ok.mp rest
    exact ⟨requires, peers, hasPeers, requiresIt, (pure_eq_ok.mp rest).symm⟩
  · obtain ⟨peers, hasPeers, rest⟩ := bind_eq_ok.mp rest
    obtain ⟨requires, requiresIt, rest⟩ := bind_eq_ok.mp rest
    exact ⟨requires, peers, hasPeers, requiresIt, (pure_eq_ok.mp rest).symm⟩

/-- A configuration that needs no normalization is up to date. -/
theorem upToDate_of_planned {table : Toml.Table} {content : String}
    (found : files (Path.resolve (Path.join fungiDir configFile)) = some (.file content))
    (parsed : formats.toml.fromStr content = some (.table table))
    (tabled : tableVersion table = .ok version)
    (supported : version = .legacyNoVersion ∨ version = .version previousFungiDirVersion ∨
      version = .version currentFungiDirVersion)
    (noPeers : configHasLegacyIncomingAllowedPeers formats files fungiDir version = .ok false)
    (normal : configRequiresCurrentNormalization formats files fungiDir version = .ok false) :
    UpToDate fungiDir table := by
  have reads := readConfigTable_eq_ok found parsed
  have notMissing : version ≠ .missingConfig := by
    rcases supported with rfl | rfl | rfl <;> decide
  rw [configHasLegacyIncomingAllowedPeers, if_neg notMissing, reads] at noPeers
  rw [configRequiresCurrentNormalization, if_neg notMissing] at normal
  split at normal
  · cases normal
  · next notPrevious =>
      rw [reads] at normal
      have normalTable : requiresCurrentNormalization fungiDir table = false := by
        simpa [Except.map] using normal
      refine ⟨?_, by simpa [Except.map] using noPeers, normalTable⟩
      unfold tableVersion at tabled
      cases versioned : table.get "version" with
      | none =>
          rw [requiresCurrentNormalization, if_pos (by simp [Toml.Table.containsKey, versioned])]
            at normalTable
          cases normalTable
      | some value =>
          rw [versioned] at tabled
          cases value with
          | integer number =>
              simp only [Toml.Value.asInteger, guard_eq_ok] at tabled
              refine ⟨number, rfl, not_lt.mp tabled.1, ?_⟩
              rcases supported with rfl | rfl | rfl
              · exact absurd tabled.2 (by simp)
              · exact absurd rfl notPrevious
              · simpa using tabled.2
          | string text => cases tabled
          | float text => cases tabled
          | boolean flag => cases tabled
          | datetime text => cases tabled
          | array items => cases tabled
          | table entries => cases tabled

/-- After the changes of a plan have been applied, nothing is left to do. -/
theorem Migrated.settled {final : FileSystem}
    (detects : detectSourceVersion formats files fungiDir = .ok version)
    (supported : version = .legacyNoVersion ∨ version = .version previousFungiDirVersion ∨
      version = .version currentFungiDirVersion)
    (built : buildMigrationPlan formats readDir files fungiDir version = .ok plan)
    (migrated : Migrated formats fungiDir plan files final) : Settled formats fungiDir final := by
  obtain ⟨requires, peers, hasPeers, requiresIt, rfl⟩ := buildMigrationPlan_eq_ok built
  obtain ⟨staged, stagingDir, validated, touched, updated⟩ := migrated.validated
  obtain ⟨configStaged, legacyGone⟩ := validateMigratedDir_eq_ok validated
  have absent : ∀ {files : FileSystem} {path}, files.pathExists path = false →
      files (Path.resolve path) = none := fun missing => by simpa [pathExists] using missing
  constructor
  · intro path member
    have touchable : path ∈ touchablePaths := by
      revert path
      decide
    cases found : files.pathExists (Path.join fungiDir path) with
    | true =>
        rw [touched path ((mem_touchedPaths_legacy _ _ _ member).mpr found)]
        exact absent (legacyGone path member found)
    | false =>
        have untouched : path ∉ (planFor (fun path => files.pathExists (Path.join fungiDir path))
            requires peers).touchedPaths := by
          rw [mem_touchedPaths_legacy _ _ _ member, found]
          exact Bool.false_ne_true
        rcases migrated.untouched path touchable untouched with same | gone
        · rw [same]
          exact absent found
        · exact gone
  · by_cases update : (planFor (fun path => files.pathExists (Path.join fungiDir path)) requires
      peers).updateConfig = true
    · obtain ⟨content, ⟨table, parsed, upToDate⟩, written | gone⟩ := updated update
      · right
        rw [touched configFile ((mem_touchedPaths_config _ _ _).mpr update)]
        exact ⟨content, table, written, parsed, upToDate⟩
      · have remains := configStaged update
        rw [pathExists, gone] at remains
        cases remains
    · rcases migrated.untouched configFile (by decide)
        (mt (mem_touchedPaths_config _ _ _).mp update) with same | gone
      · have flags : requires = false ∧ peers = false := by simpa [planFor] using update
        rw [flags.1] at requiresIt
        rw [flags.2] at hasPeers
        have notMissing : version ≠ .missingConfig := by
          rcases supported with rfl | rfl | rfl <;> decide
        obtain ⟨content, table, found, parsed, tabled⟩ :=
          detectSourceVersion_eq_ok notMissing detects
        right
        rw [same]
        exact ⟨content, table, found, parsed,
          upToDate_of_planned found parsed tabled supported hasPeers requiresIt⟩
      · exact Or.inl gone

end Plans

section Idempotence

variable {formats : Formats} {readDir : ReadDir} {depth : Nat} {moment : Moment} {faults : Faults}
  {files final : FileSystem} {fungiDir : String} {report : MigrationReport}

/-- A migration that changes something carries out the plan for a supported version. -/
theorem migrateIfNeeded_eq_ok (changed : report.changed = true)
    (ran : migrateIfNeeded formats readDir depth moment faults fungiDir files =
      (.ok report, final)) :
    ∃ version plan, detectSourceVersion formats files fungiDir = .ok version ∧
      buildMigrationPlan formats readDir files fungiDir version = .ok plan ∧
        (version = .legacyNoVersion ∨ version = .version previousFungiDirVersion ∨
          version = .version currentFungiDirVersion) ∧
            plan.isEmpty = false ∧
              migrateWithPlan formats readDir depth moment faults fungiDir version plan files =
                (.ok report, final) := by
  obtain ⟨_, _, read, ran⟩ := (Program.bind_eq_ok _).mp ran
  cases read
  obtain ⟨version, _, ranDetect, ran⟩ := (Program.bind_eq_ok _).mp ran
  obtain ⟨detects, rfl⟩ := (Program.ofExcept_eq_ok _).mp ranDetect
  obtain ⟨plan, _, ranPlan, ran⟩ := (Program.bind_eq_ok _).mp ran
  obtain ⟨built, rfl⟩ := (Program.ofExcept_eq_ok _).mp ranPlan
  refine ⟨version, plan, detects, built, ?_⟩
  have notEmpty : ∀ {sourceVersion},
      migrateWithPlan formats readDir depth moment faults fungiDir sourceVersion plan files =
        (.ok report, final) → plan.isEmpty = false := by
    intro sourceVersion ran
    by_contra isEmpty
    rw [migrateWithPlan, if_pos (by simpa using isEmpty)] at ran
    cases ran
    cases changed
  cases version with
  | missingConfig =>
      dsimp only at ran
      split at ran
      · cases ran
        cases changed
      · cases ran
  | legacyNoVersion => exact ⟨Or.inl rfl, notEmpty ran, ran⟩
  | version number =>
      dsimp only at ran
      split at ran
      · cases ran
        cases changed
      · split at ran
        · next isSupported =>
            refine ⟨?_, notEmpty ran, ran⟩
            rcases isSupported with rfl | rfl
            · exact Or.inr (Or.inl rfl)
            · exact Or.inr (Or.inr rfl)
        · cases ran

/-- After a migration that has applied changes, no legacy layout is detected, and migrating again
changes no file and reports that nothing was needed. -/
theorem migrateIfNeeded_idempotent (tree : files.IsTree) (direct : Path.Direct fungiDir)
    (changed : report.changed = true)
    (ran : migrateIfNeeded formats readDir depth moment faults fungiDir files =
      (.ok report, final)) :
    Settled formats fungiDir final ∧
      ∀ readDir' depth' moment' faults', ∃ version, version.isSettled ∧
        migrateIfNeeded formats readDir' depth' moment' faults' fungiDir final =
          (.ok (.noChanges version), final) := by
  obtain ⟨version, plan, detects, built, supported, nonempty, migrates⟩ :=
    migrateIfNeeded_eq_ok changed ran
  have notMissing : version ≠ .missingConfig := by
    rcases supported with rfl | rfl | rfl <;> decide
  obtain ⟨content, table, found, _, _⟩ := detectSourceVersion_eq_ok notMissing detects
  have kept : files (Path.resolve fungiDir) = some .directory := by
    apply tree _ configFile.toList
    rw [← Path.resolve_join_plain (by decide), found]
    simp
  have sublist : plan.touchedPaths.Sublist touchablePaths := by
    obtain ⟨requires, peers, _, _, rfl⟩ := buildMigrationPlan_eq_ok built
    exact touchedPaths_sublist _ _ _
  have migrated := migrateWithPlan_ok direct tree kept sublist nonempty migrates
  have settled := migrated.settled detects supported built
  exact ⟨settled, fun readDir depth moment faults =>
    settled.migrateIfNeeded readDir depth moment faults⟩

end Idempotence

/-- The codec of a legacy and an up-to-date configuration. -/
def configCodec : Toml.Codec where
  fromStr text :=
    if text = "[tcp_tunneling]\n" then some (.table [("tcp_tunneling", .table [])])
    else if text = "version = 3\n" then some (.table [("version", .integer 3)])
    else none
  toStringPretty
    | .table [("version", .integer 3)] => some "version = 3\n"
    | _ => none
  fromStr_toStringPretty := by
    intro value text encoded
    split at encoded
    · cases encoded
      rfl
    · cases encoded

/-- The formats as far as a `config.toml` needs them. -/
def configFormats : Formats :=
  { toml := configCodec
    legacyLocalAccess := fun _ => none
    localPreferences := fun _ => none
    localPreferencesToString := fun _ => none
    legacyServiceState := fun _ => none
    serviceStateToString := fun _ => none
    manifestToString := fun _ => none }

/-- `read_dir` where only some names are used. -/
def ReadDir.among (names : List String) (plain : ∀ name ∈ names, Path.Plain name) : ReadDir where
  list files directory :=
    names.filter fun name => (files (Path.resolve directory ++ [name.toList])).isSome
  plain member := plain _ (List.mem_of_mem_filter member)

/-- The first moment of a year. -/
def newYear : Moment :=
  { timestamp := "20260101T000000Z"
    alphanumeric := by decide
    rfc3339 := "2026-01-01T00:00:00+00:00"
    ulids := fun _ => { text := "01ARZ3NDEKTSV4RRFFQ69G5FAV", alphanumeric := by decide } }

/-- A fungi directory with a legacy configuration. -/
def legacyFiles : FileSystem :=
  FileSystem.ofList
    [([], .directory), (["f".toList], .directory),
      (["f".toList, "config.toml".toList], .file "[tcp_tunneling]\n")]

/-- The report of the migration of a `config.toml` without a version. -/
def configReport : MigrationReport :=
  { sourceVersion := .legacyNoVersion
    targetVersion := 3
    backupDir := some "/f/bk/20260101T000000Z-from-legacy-no-version-to-v3"
    stagingDir := none
    migratedPaths := ["config.toml"]
    changed := true }

theorem eq_ok_of_toOption {State Value : Type} {ran : Except Error Value × State} {value : Value}
    (succeeded : ran.1.toOption = some value) : ran = (.ok value, ran.2) := by
  obtain ⟨outcome, final⟩ := ran
  cases outcome with
  | error error => cases succeeded
  | ok result =>
      cases succeeded
      rfl

/-- The legacy configuration is migrated once. -/
theorem migrateIfNeeded_idempotent_demo :
    Settled configFormats "/f" (migrateIfNeeded configFormats
        (.among ["config.toml"] (by decide)) 2 newYear (fun _ => none) "/f" legacyFiles).2 ∧
      ∀ readDir' depth' moment' faults', ∃ version, version.isSettled ∧
        migrateIfNeeded configFormats readDir' depth' moment' faults' "/f"
            (migrateIfNeeded configFormats (.among ["config.toml"] (by decide)) 2 newYear
              (fun _ => none) "/f" legacyFiles).2 =
          (.ok (.noChanges version), (migrateIfNeeded configFormats
            (.among ["config.toml"] (by decide)) 2 newYear (fun _ => none) "/f"
            legacyFiles).2) := by
  have succeeded : (migrateIfNeeded configFormats (.among ["config.toml"] (by decide)) 2 newYear
      (fun _ => none) "/f" legacyFiles).1.toOption = some configReport := by decide +kernel
  have tree : legacyFiles.IsTree := isTree_ofList (by decide +kernel)
  have direct : Path.Direct "/f" := by decide
  exact migrateIfNeeded_idempotent tree direct rfl (eq_ok_of_toOption succeeded)

end Fungi.ConfigMigrate
