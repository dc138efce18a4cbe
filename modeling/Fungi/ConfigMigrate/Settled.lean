import Fungi.ConfigMigrate.Migrate
import Fungi.Lib.Fallible

/-!
# Fungi directories that need no migration

A configuration that has been normalized gives no hint any more, and a directory without hints is
left as it is.
-/

namespace Fungi.ConfigMigrate

open Fungi.Lib FileSystem Toml

/-! ## Normalized configurations -/

/-- The table has the current version and no legacy keys. -/
structure UpToDate (fungiDir : String) (table : Table) : Prop where
  version : ∃ number : Int, table.get "version" = some (.integer number) ∧ 0 ≤ number ∧
    UInt32.ofNat number.toNat = currentFungiDirVersion
  noPeers : hasLegacyIncomingAllowedPeers table = false
  normal : requiresCurrentNormalization fungiDir table = false

section Subtables

variable (table : Table) {key other : String} (value : Value) (change : Table → Table)

theorem subtable_congr {left right : Table} (same : left.get key = right.get key) :
    subtable left key = subtable right key := by
  rw [subtable, subtable, same]

theorem subtable_updateTable_self :
    subtable (table.updateTable key change) key = (subtable table key).map change :=
  Table.asTable_updateTable table key change

end Subtables

theorem hasLegacyRpcAddress_normalizeRpc (rpc : Table) :
    hasLegacyRpcAddress (normalizeRpc rpc) = false := by
  unfold normalizeRpc
  cases legacy : hasLegacyRpcAddress rpc with
  | false => simpa using legacy
  | true =>
      simp only [if_true]
      rw [hasLegacyRpcAddress, Table.get_insert_self]
      decide

section Runtime

variable (fungiDir : String) (runtime : Table)

theorem get_removeLegacyServicesAllowlist {key : String}
    (different : "allowed_host_paths" ≠ key) :
    (removeLegacyServicesAllowlist fungiDir runtime).get key = runtime.get key := by
  unfold removeLegacyServicesAllowlist
  split
  · rfl
  · next paths found =>
      dsimp only
      split
      · exact Table.get_remove_of_ne _ different
      · exact Table.get_insert_of_ne _ _ different

theorem hasLegacyServicesAllowlist_remove :
    hasLegacyServicesAllowlist fungiDir (removeLegacyServicesAllowlist fungiDir runtime) =
      false := by
  unfold removeLegacyServicesAllowlist
  split
  · next absent => simp [hasLegacyServicesAllowlist, absent]
  · next paths found =>
      dsimp only
      split
      · simp [hasLegacyServicesAllowlist]
      · simp [hasLegacyServicesAllowlist, Value.asArray]

theorem containsKey_normalizeRuntime {key : String}
    (isLegacy : key = "allowed_ports" ∨ key = "allowed_port_ranges") :
    (normalizeRuntime fungiDir runtime).containsKey key = false := by
  have different : "allowed_host_paths" ≠ key := by
    rcases isLegacy with rfl | rfl <;> decide
  rw [Table.containsKey, normalizeRuntime, get_removeLegacyServicesAllowlist _ _ different]
  rcases isLegacy with rfl | rfl
  · rw [Table.get_remove_of_ne _ (by decide), Table.get_remove_self]
    rfl
  · rw [Table.get_remove_self]
    rfl

end Runtime

section Normalize

variable (fungiDir : String) (table : Table)

/-- The keys that are set or removed at the top. -/
theorem get_normalizeConfig_of_ne {key : String}
    (different : "rpc" ≠ key ∧ "network" ≠ key ∧ "runtime" ≠ key) :
    (normalizeConfig fungiDir table).get key =
      ((((table.insert "version" (.integer currentFungiDirVersion.toNat)).remove
        "incoming_allowed_peers").remove "tcp_tunneling").remove "file_transfer").get key := by
  rw [normalizeConfig, Table.get_updateTable_of_ne _ _ different.2.2,
    Table.get_updateTable_of_ne _ _ different.2.1, Table.get_updateTable_of_ne _ _ different.1]

theorem get_version_normalizeConfig :
    (normalizeConfig fungiDir table).get "version" =
      some (.integer currentFungiDirVersion.toNat) := by
  rw [get_normalizeConfig_of_ne _ _ (by decide), Table.get_remove_of_ne _ (by decide),
    Table.get_remove_of_ne _ (by decide), Table.get_remove_of_ne _ (by decide),
    Table.get_insert_self]

theorem containsKey_normalizeConfig {key : String}
    (isLegacy : key = "incoming_allowed_peers" ∨ key = "tcp_tunneling" ∨ key = "file_transfer") :
    (normalizeConfig fungiDir table).containsKey key = false := by
  have different : "rpc" ≠ key ∧ "network" ≠ key ∧ "runtime" ≠ key := by
    rcases isLegacy with rfl | rfl | rfl <;> decide
  rw [Table.containsKey, get_normalizeConfig_of_ne _ _ different]
  simp only [Table.get_remove]
  rcases isLegacy with rfl | rfl | rfl <;> simp

theorem exists_subtable_rpc : ∃ before : Option Table,
    subtable (normalizeConfig fungiDir table) "rpc" = before.map normalizeRpc := by
  rw [normalizeConfig, subtable_congr (Table.get_updateTable_of_ne _ _ (by decide)),
    subtable_congr (Table.get_updateTable_of_ne _ _ (by decide)), subtable_updateTable_self]
  exact ⟨_, rfl⟩

theorem exists_subtable_network : ∃ before : Option Table,
    subtable (normalizeConfig fungiDir table) "network" =
      before.map fun network => Table.remove "incoming_allowed_peers" network := by
  rw [normalizeConfig, subtable_congr (Table.get_updateTable_of_ne _ _ (by decide)),
    subtable_updateTable_self]
  exact ⟨_, rfl⟩

theorem exists_subtable_runtime : ∃ before : Option Table,
    subtable (normalizeConfig fungiDir table) "runtime" =
      before.map (normalizeRuntime fungiDir) :=
  ⟨_, subtable_updateTable_self _ _⟩

/-- A normalized configuration gives no hint. -/
theorem upToDate_normalizeConfig : UpToDate fungiDir (normalizeConfig fungiDir table) where
  version := ⟨_, get_version_normalizeConfig fungiDir table, by decide, by decide⟩
  noPeers := by
    obtain ⟨before, network⟩ := exists_subtable_network fungiDir table
    rw [hasLegacyIncomingAllowedPeers, containsKey_normalizeConfig _ _ (Or.inl rfl), network]
    cases before <;> simp [Table.containsKey]
  normal := by
    obtain ⟨rpcBefore, rpc⟩ := exists_subtable_rpc fungiDir table
    obtain ⟨runtimeBefore, runtime⟩ := exists_subtable_runtime fungiDir table
    have versioned : (normalizeConfig fungiDir table).containsKey "version" = true := by
      rw [Table.containsKey, get_version_normalizeConfig]
      rfl
    have noRpc : (rpcBefore.map normalizeRpc).any hasLegacyRpcAddress = false := by
      cases rpcBefore with
      | none => rfl
      | some inner => exact hasLegacyRpcAddress_normalizeRpc inner
    rw [requiresCurrentNormalization, versioned,
      containsKey_normalizeConfig _ _ (Or.inr (Or.inl rfl)),
      containsKey_normalizeConfig _ _ (Or.inr (Or.inr rfl)), rpc, noRpc, runtime]
    cases runtimeBefore with
    | none => rfl
    | some inner =>
        have noAllowlist := hasLegacyServicesAllowlist_remove fungiDir
          ((inner.remove "allowed_ports").remove "allowed_port_ranges")
        rw [← normalizeRuntime] at noAllowlist
        simp [containsKey_normalizeRuntime, noAllowlist]

end Normalize

/-! ## Directories without hints -/

/-- The paths that only legacy versions use. -/
def legacyPaths : List String :=
  [legacyAddressBookFile, legacyServiceStateFile, legacyLocalAccessFile,
    legacyRemoteServicesCacheDir, legacyManagedServicesCacheDir]

/-- There are no legacy files, and the configuration is up to date or missing. -/
structure Settled (formats : Formats) (fungiDir : String) (files : FileSystem) : Prop where
  noLegacy : ∀ path ∈ legacyPaths, files (Path.resolve (Path.join fungiDir path)) = none
  config : files (Path.resolve (Path.join fungiDir configFile)) = none ∨
    ∃ content table,
      files (Path.resolve (Path.join fungiDir configFile)) = some (.file content) ∧
        formats.toml.fromStr content = some (.table table) ∧ UpToDate fungiDir table

/-- The versions that need no migration. -/
def DetectedVersion.isSettled (version : DetectedVersion) : Prop :=
  version = .missingConfig ∨ version = .version currentFungiDirVersion

section Settled

variable {formats : Formats} {files : FileSystem} {fungiDir : String}

theorem rootTable_eq_ok {parseFailure notTable content : String} {table : Table} :
    rootTable formats parseFailure notTable content = .ok table ↔
      formats.toml.fromStr content = some (.table table) := by
  unfold rootTable
  cases formats.toml.fromStr content with
  | none => simp
  | some value =>
      cases value with
      | table entries => simp [Value.asTable]
      | string text => simp [Value.asTable]
      | integer number => simp [Value.asTable]
      | float text => simp [Value.asTable]
      | boolean flag => simp [Value.asTable]
      | datetime text => simp [Value.asTable]
      | array items => simp [Value.asTable]

theorem readConfigTable_eq_ok {content : String} {table : Table}
    (found : files (Path.resolve (Path.join fungiDir configFile)) = some (.file content))
    (parsed : formats.toml.fromStr content = some (.table table)) (action : String) :
    readConfigTable formats files fungiDir action = .ok table := by
  simp only [readConfigTable, readToString, found]
  exact rootTable_eq_ok.mpr parsed

/-- A version is read from the table of the configuration. -/
theorem detectSourceVersion_eq_ok {version : DetectedVersion}
    (notMissing : version ≠ .missingConfig)
    (detects : detectSourceVersion formats files fungiDir = .ok version) :
    ∃ content table,
      files (Path.resolve (Path.join fungiDir configFile)) = some (.file content) ∧
        formats.toml.fromStr content = some (.table table) ∧ tableVersion table = .ok version := by
  unfold detectSourceVersion readToString at detects
  dsimp only at detects
  split at detects
  · cases detects
    exact absurd rfl notMissing
  · cases found : files (Path.resolve (Path.join fungiDir configFile)) with
    | none =>
        rw [found] at detects
        cases detects
    | some node =>
        rw [found] at detects
        cases node with
        | directory => cases detects
        | file content =>
            obtain ⟨table, parsed, version⟩ := bind_eq_ok.mp detects
            exact ⟨content, table, rfl, rootTable_eq_ok.mp parsed, version⟩

theorem Settled.detects (settled : Settled formats fungiDir files) :
    ∃ version, detectSourceVersion formats files fungiDir = .ok version ∧ version.isSettled ∧
      configHasLegacyIncomingAllowedPeers formats files fungiDir version = .ok false ∧
        configRequiresCurrentNormalization formats files fungiDir version = .ok false := by
  rcases settled.config with missing | ⟨content, table, found, parsed, upToDate⟩
  · refine ⟨.missingConfig, ?_, Or.inl rfl, rfl, rfl⟩
    simp [detectSourceVersion, pathExists, missing]
  · obtain ⟨number, version, notNegative, current⟩ := upToDate.version
    have reads := readConfigTable_eq_ok found parsed
    refine ⟨.version currentFungiDirVersion, ?_, Or.inr rfl, ?_, ?_⟩
    · have detected : tableVersion table = .ok (.version currentFungiDirVersion) := by
        simp [tableVersion, version, Value.asInteger, Int.not_lt.mpr notNegative, current]
      simp only [detectSourceVersion, pathExists, found, readToString]
      exact bind_eq_ok.mpr ⟨table, rootTable_eq_ok.mpr parsed, detected⟩
    · rw [configHasLegacyIncomingAllowedPeers, reads, if_neg (by decide)]
      exact congrArg Except.ok upToDate.noPeers
    · rw [configRequiresCurrentNormalization, reads, if_neg (by decide), if_neg (by decide)]
      exact congrArg Except.ok upToDate.normal

/-- The plan for such a directory touches nothing. -/
theorem Settled.plan (settled : Settled formats fungiDir files) (readDir : ReadDir)
    {version : DetectedVersion}
    (noPeers : configHasLegacyIncomingAllowedPeers formats files fungiDir version = .ok false)
    (normal : configRequiresCurrentNormalization formats files fungiDir version = .ok false) :
    ∃ plan, buildMigrationPlan formats readDir files fungiDir version = .ok plan ∧
      plan.isEmpty = true := by
  have absent : ∀ path ∈ legacyPaths, files.pathExists (Path.join fungiDir path) = false := by
    intro path member
    simp [pathExists, settled.noLegacy path member]
  refine ⟨planFor (fun path => files.pathExists (Path.join fungiDir path)) false false, ?_, ?_⟩
  · unfold buildMigrationPlan
    rw [noPeers, normal, if_neg]
    · simp [absent legacyServiceStateFile (by decide), bind, Except.bind, pure, Except.pure]
    · simp [absent legacyAddressBookFile (by decide), absent legacyServiceStateFile (by decide)]
  · simp only [planFor, absent legacyAddressBookFile (by decide),
      absent legacyServiceStateFile (by decide), absent legacyLocalAccessFile (by decide),
      absent legacyRemoteServicesCacheDir (by decide),
      absent legacyManagedServicesCacheDir (by decide)]
    decide

/-- Nothing is migrated in such a directory, and nothing changes. -/
theorem Settled.migrateIfNeeded (settled : Settled formats fungiDir files) (readDir : ReadDir)
    (depth : Nat) (moment : Moment) (faults : Faults) :
    ∃ version, version.isSettled ∧
      migrateIfNeeded formats readDir depth moment faults fungiDir files =
        (.ok (.noChanges version), files) := by
  obtain ⟨version, detects, isSettled, noPeers, normal⟩ := settled.detects
  obtain ⟨plan, planned, isEmpty⟩ := settled.plan readDir noPeers normal
  refine ⟨version, isSettled, ?_⟩
  unfold ConfigMigrate.migrateIfNeeded
  refine (Program.bind_of_ok (Program.gets_apply files id) _).trans ?_
  rw [id, detects]
  refine (Program.bind_of_ok (Program.pure_apply files version) _).trans ?_
  rw [planned]
  refine (Program.bind_of_ok (Program.pure_apply files plan) _).trans ?_
  rcases isSettled with rfl | rfl
  · simp [isEmpty]
  · simp [isEmpty]

end Settled

end Fungi.ConfigMigrate
