import Fungi.ConfigMigrate.Idempotence

/-!
# Versions of a configuration

A version is a 64-bit integer in `config.toml` and an unsigned 32-bit one after its detection.
Which versions a migration carries out, and which it refuses, follows from the low 32 bits.
-/

namespace Fungi.ConfigMigrate

open Fungi.Lib FileSystem

/-- The versions with a migration path. -/
def IsSupported (number : UInt32) : Prop :=
  number = previousFungiDirVersion ∨ number = currentFungiDirVersion

instance (number : UInt32) : Decidable (IsSupported number) :=
  inferInstanceAs (Decidable (_ ∨ _))

/-- The refusal of a version. -/
def unsupportedVersion (number : UInt32) : Error :=
  s!"Unsupported fungi-dir version {number}; " ++ "no migration path to v3 is implemented yet"

/-- The configuration is a table with this version. -/
def HasVersion (formats : Formats) (files : FileSystem) (fungiDir : String) (version : Int) :
    Prop :=
  ∃ content, ∃ table : Toml.Table,
    files (Path.resolve (Path.join fungiDir configFile)) = some (.file content) ∧
      formats.toml.fromStr content = some (.table table) ∧
        table.get "version" = some (.integer version)

/-- The planning of a migration does not refuse the layout of the managed services. -/
def PlansLayout (readDir : ReadDir) (files : FileSystem) (fungiDir : String) : Prop :=
  files.pathExists (Path.join fungiDir legacyServiceStateFile) = true →
    ensureNoMixedManagedServiceLayout readDir files fungiDir = .ok ()

section Migrate

variable (formats : Formats) (readDir : ReadDir) (depth : Nat) (moment : Moment)
  (faults : Faults) (fungiDir : String)

/-- The `match` of `migrate_if_needed`. -/
def migrateDetected (sourceVersion : DetectedVersion) (plan : MigrationPlan) :
    Migration MigrationReport :=
  match sourceVersion with
  | .missingConfig =>
      if plan.isEmpty then pure (.noChanges sourceVersion)
      else Program.fail (missingConfigError fungiDir)
  | .legacyNoVersion =>
      migrateWithPlan formats readDir depth moment faults fungiDir sourceVersion plan
  | .version number =>
      if number = currentFungiDirVersion ∧ plan.isEmpty then pure (.noChanges sourceVersion)
      else if number = previousFungiDirVersion ∨ number = currentFungiDirVersion then
        migrateWithPlan formats readDir depth moment faults fungiDir sourceVersion plan
      else Program.fail (unsupportedVersion number)

/-- The files are taken for those of a version: it is the one detected, and whatever is planned for
it is carried out. -/
structure TreatsAs (files : FileSystem) (number : UInt32) : Prop where
  detected : detectSourceVersion formats files fungiDir = .ok (.version number)
  carriesOut : ∀ plan,
    migrateDetected formats readDir depth moment faults fungiDir (.version number) plan =
      migrateWithPlan formats readDir depth moment faults fungiDir (.version number) plan

/-- A version is taken for itself when it is supported, and otherwise for no version; one from the
future is refused, and no file changes. -/
structure RejectsTheFuture (files : FileSystem) (version : Int) : Prop where
  treated : ∀ number : UInt32,
    TreatsAs formats readDir depth moment faults fungiDir files number ↔
      version = number.toNat ∧ IsSupported number
  refused : currentFungiDirVersion.toNat < version → ∃ number,
    migrateIfNeeded formats readDir depth moment faults fungiDir files =
      (.error (unsupportedVersion number), files)

end Migrate

section Versions

variable {formats : Formats} {readDir : ReadDir} {depth : Nat} {moment : Moment} {faults : Faults}
  {files : FileSystem} {fungiDir : String} {version : Int}

/-! ## Detection -/

/-- The number that `as u32` makes of a version. -/
def detectedNumber (version : Int) : UInt32 := UInt32.ofNat version.toNat

theorem detectSourceVersion_of_hasVersion (configured : HasVersion formats files fungiDir version) :
    detectSourceVersion formats files fungiDir =
      if version < 0 then
        .error "config.toml version must not be negative for migration detection"
      else .ok (.version (detectedNumber version)) := by
  obtain ⟨content, table, found, parsed, versioned⟩ := configured
  simp only [detectSourceVersion, pathExists, readToString, found]
  have root : rootTable formats "Failed to parse config.toml during migration detection"
      "config.toml root must be a TOML table for migration detection" content = .ok table :=
    rootTable_eq_ok.mpr parsed
  simp only [detectSourceVersionFromTomlStr, root, ok_bind]
  simp [tableVersion, versioned, Toml.Value.asInteger, detectedNumber]

theorem detected_iff (configured : HasVersion formats files fungiDir version) {number : UInt32} :
    detectSourceVersion formats files fungiDir = .ok (.version number) ↔
      0 ≤ version ∧ detectedNumber version = number := by
  rw [detectSourceVersion_of_hasVersion configured, guard_eq_ok]
  simp

/-! ## Planning -/

/-- Nothing but the layout of the managed services stands in the way of a plan. -/
theorem exists_plan (configured : HasVersion formats files fungiDir version)
    (planned : PlansLayout readDir files fungiDir) (number : UInt32) :
    ∃ plan, buildMigrationPlan formats readDir files fungiDir (.version number) = .ok plan := by
  obtain ⟨content, table, found, parsed, -⟩ := configured
  have reads := readConfigTable_eq_ok found parsed
  have hasPeers : ∃ peers, configHasLegacyIncomingAllowedPeers formats files fungiDir
      (.version number) = .ok peers := by
    rw [configHasLegacyIncomingAllowedPeers, if_neg (by simp), reads]
    exact ⟨_, rfl⟩
  have requires : ∃ requires, configRequiresCurrentNormalization formats files fungiDir
      (.version number) = .ok requires := by
    rw [configRequiresCurrentNormalization, if_neg (by simp)]
    split
    · exact ⟨_, rfl⟩
    · rw [reads]
      exact ⟨_, rfl⟩
  obtain ⟨peers, hasPeers⟩ := hasPeers
  obtain ⟨requires, requiresIt⟩ := requires
  rw [buildMigrationPlan, hasPeers, requiresIt, if_neg (by simp)]
  split
  · next legacyState =>
      rw [planned legacyState]
      exact ⟨_, rfl⟩
  · exact ⟨_, rfl⟩

theorem uninspectable_ne (servicesRoot : String) (number : UInt32) :
    s!"Failed to inspect services directory while planning migration: {servicesRoot}" ≠
      unsupportedVersion number := by
  unfold unsupportedVersion
  simp only [String.append_assoc]
  exact append_ne_append 0 rfl rfl (by decide) _ _

theorem mixed_ne (servicesRoot : String) (number : UInt32) :
    s!"Unsupported mixed managed service layouts detected in {servicesRoot}. " ++
        "Legacy services-state.json cannot be merged automatically with current " ++
          "services/<local_service_id>/ entries yet." ≠ unsupportedVersion number := by
  unfold unsupportedVersion
  simp only [String.append_assoc]
  exact append_ne_append 12 rfl rfl (by decide) _ _

/-- The refusals of a layout are told from those of a version by their texts. -/
theorem ensureNoMixedManagedServiceLayout_ne {failure : Error}
    (refuses : ensureNoMixedManagedServiceLayout readDir files fungiDir = .error failure)
    (number : UInt32) : failure ≠ unsupportedVersion number := by
  unfold ensureNoMixedManagedServiceLayout at refuses
  dsimp only at refuses
  split at refuses
  · cases refuses
  · split at refuses
    · rw [← Except.error.inj refuses]
      exact uninspectable_ne _ number
    · split at refuses
      · rw [← Except.error.inj refuses]
        exact mixed_ne _ number
      · cases refuses

theorem planning_fails (refuses : ¬ PlansLayout readDir files fungiDir) (number : UInt32) :
    ∃ failure, buildMigrationPlan formats readDir files fungiDir (.version number) =
        .error failure ∧ ∀ other, failure ≠ unsupportedVersion other := by
  obtain ⟨legacyState, refusesLayout⟩ := Classical.not_imp.mp refuses
  cases outcome : ensureNoMixedManagedServiceLayout readDir files fungiDir with
  | ok _ => exact absurd outcome refusesLayout
  | error failure =>
      refine ⟨failure, ?_, ensureNoMixedManagedServiceLayout_ne outcome⟩
      rw [buildMigrationPlan, if_neg (by simp), if_pos legacyState, outcome]
      rfl

/-! ## The migration -/

theorem migrateIfNeeded_of_detected {sourceVersion : DetectedVersion}
    (detected : detectSourceVersion formats files fungiDir = .ok sourceVersion) :
    migrateIfNeeded formats readDir depth moment faults fungiDir files =
      match buildMigrationPlan formats readDir files fungiDir sourceVersion with
      | .ok plan =>
          migrateDetected formats readDir depth moment faults fungiDir sourceVersion plan files
      | .error failure => (.error failure, files) := by
  unfold migrateIfNeeded
  refine (Program.bind_of_ok (Program.gets_apply files id) _).trans ?_
  rw [id, detected]
  refine (Program.bind_of_ok (Program.pure_apply files sourceVersion) _).trans ?_
  cases buildMigrationPlan formats readDir files fungiDir sourceVersion with
  | error failure => rfl
  | ok plan => rfl

theorem migrateDetected_unsupported {number : UInt32} (unsupported : ¬ IsSupported number)
    (plan : MigrationPlan) :
    migrateDetected formats readDir depth moment faults fungiDir (.version number) plan =
      Program.fail (unsupportedVersion number) := by
  have notCurrent : ¬ (number = currentFungiDirVersion ∧ plan.isEmpty) :=
    fun both => unsupported (Or.inr both.1)
  simp only [migrateDetected]
  rw [if_neg notCurrent]
  exact if_neg unsupported

theorem carriesOut_iff {number : UInt32} :
    (∀ plan, migrateDetected formats readDir depth moment faults fungiDir (.version number) plan =
      migrateWithPlan formats readDir depth moment faults fungiDir (.version number) plan) ↔
        IsSupported number := by
  constructor
  · intro carriesOut
    by_contra unsupported
    -- an empty plan would be carried out by doing nothing
    have same := carriesOut (planFor (fun _ => false) false false)
    rw [migrateDetected_unsupported unsupported, migrateWithPlan, if_pos (by decide)] at same
    have outcomes := congrArg Prod.fst (congrFun same fun _ => none)
    cases outcomes
  · intro supported plan
    simp only [migrateDetected]
    split
    · next both => rw [migrateWithPlan, if_pos both.2]
    · exact if_pos supported

/-! ## Numbers -/

theorem toNat_detectedNumber (version : Int) :
    (detectedNumber version).toNat = version.toNat % 4294967296 := by
  simp [detectedNumber]

theorem detectedNumber_eq_iff (notNegative : 0 ≤ version) (number : UInt32) :
    detectedNumber version = number ↔ version % 4294967296 = number.toNat := by
  rw [← UInt32.toNat_inj, toNat_detectedNumber]
  omega

theorem isSupported_detectedNumber (notNegative : 0 ≤ version) :
    IsSupported (detectedNumber version) ↔
      version % 4294967296 = 2 ∨ version % 4294967296 = 3 := by
  unfold IsSupported
  rw [detectedNumber_eq_iff notNegative, detectedNumber_eq_iff notNegative]
  rfl

/-- Below 2^32 a number is the version itself. -/
theorem eq_detectedNumber (notNegative : 0 ≤ version) (small : version < 4294967296) :
    version = (detectedNumber version).toNat := by
  rw [toNat_detectedNumber]
  omega

/-- The versions are taken for what they are exactly when their low 32 bits do not make an
unsupported one of 2^32 or more a supported one. -/
theorem treated_iff (configured : HasVersion formats files fungiDir version) :
    (∀ number : UInt32, TreatsAs formats readDir depth moment faults fungiDir files number ↔
        version = number.toNat ∧ IsSupported number) ↔
      version < 4294967296 ∨ version % 4294967296 ≠ 2 ∧ version % 4294967296 ≠ 3 := by
  constructor
  · intro treated
    by_contra wraps
    obtain ⟨large, low⟩ := not_or.mp wraps
    have notNegative : 0 ≤ version := by omega
    have supported : IsSupported (detectedNumber version) :=
      (isSupported_detectedNumber notNegative).mpr (by omega)
    have treatedAs := (treated (detectedNumber version)).mp
      ⟨(detected_iff configured).mpr ⟨notNegative, rfl⟩, carriesOut_iff.mpr supported⟩
    have bound := (detectedNumber version).toNat_lt
    omega
  · intro kept number
    constructor
    · rintro ⟨detected, carriesOut⟩
      obtain ⟨notNegative, rfl⟩ := (detected_iff configured).mp detected
      have supported := carriesOut_iff.mp carriesOut
      refine ⟨eq_detectedNumber notNegative ?_, supported⟩
      have low := (isSupported_detectedNumber notNegative).mp supported
      omega
    · rintro ⟨rfl, supported⟩
      refine ⟨(detected_iff configured).mpr ⟨by omega, ?_⟩, carriesOut_iff.mpr supported⟩
      have bound := number.toNat_lt
      rw [detectedNumber_eq_iff (by omega)]
      omega

/-- A version that is not supported is refused once a plan is made, and no file changes. -/
theorem migrateIfNeeded_unsupported (configured : HasVersion formats files fungiDir version)
    (notNegative : 0 ≤ version) (unsupported : ¬ IsSupported (detectedNumber version))
    (planned : PlansLayout readDir files fungiDir) :
    migrateIfNeeded formats readDir depth moment faults fungiDir files =
      (.error (unsupportedVersion (detectedNumber version)), files) := by
  obtain ⟨plan, made⟩ := exists_plan configured planned (detectedNumber version)
  rw [migrateIfNeeded_of_detected ((detected_iff configured).mpr ⟨notNegative, rfl⟩), made]
  exact congrFun (migrateDetected_unsupported unsupported plan) files

/-- A refused layout is not the refusal of a version. -/
theorem migrateIfNeeded_ne_unsupported (configured : HasVersion formats files fungiDir version)
    (notNegative : 0 ≤ version) (refuses : ¬ PlansLayout readDir files fungiDir) (number : UInt32) :
    migrateIfNeeded formats readDir depth moment faults fungiDir files ≠
      (.error (unsupportedVersion number), files) := by
  obtain ⟨failure, failed, different⟩ := planning_fails refuses (detectedNumber version)
  rw [migrateIfNeeded_of_detected ((detected_iff configured).mpr ⟨notNegative, rfl⟩), failed]
  intro same
  exact different number (Except.error.inj (congrArg Prod.fst same))

/-- A version is rejected or taken for itself unless its low 32 bits make another one of it, or the
layout of the managed services is refused before the version. -/
theorem rejectsTheFuture_iff (configured : HasVersion formats files fungiDir version) :
    RejectsTheFuture formats readDir depth moment faults fungiDir files version ↔
      (version < 4294967296 ∨ version % 4294967296 ≠ 2 ∧ version % 4294967296 ≠ 3) ∧
        (3 < version → PlansLayout readDir files fungiDir) := by
  constructor
  · intro law
    refine ⟨(treated_iff configured).mp law.treated, ?_⟩
    intro future
    by_contra refuses
    obtain ⟨number, refused⟩ := law.refused future
    exact migrateIfNeeded_ne_unsupported configured (by omega) refuses number refused
  · rintro ⟨kept, planned⟩
    refine ⟨(treated_iff configured).mpr kept, ?_⟩
    intro future
    have later : 3 < version := future
    have unsupported : ¬ IsSupported (detectedNumber version) := by
      rw [isSupported_detectedNumber (by omega)]
      omega
    exact ⟨_, migrateIfNeeded_unsupported configured (by omega) unsupported (planned later)⟩

end Versions

/-- The codec of a version from the future, of one that `as u32` makes the previous one, and of the
current one. -/
def versionCodec : Toml.Codec where
  fromStr text :=
    if text = "version = 7\n" then some (.table [("version", .integer 7)])
    else if text = "version = 4294967298\n" then
      some (.table [("version", .integer 4294967298)])
    else if text = "version = 3\n" then some (.table [("version", .integer 3)])
    else none
  toStringPretty
    | .table [("version", .integer 3)] => some "version = 3\n"
    | _ => none
  fromStr_toStringPretty := by
    intro value text encoded
    split at encoded
    · cases encoded
      rfl
    · cases encoded

/-- Formats that read a `config.toml` with nothing but a version. -/
def versionFormats : Formats := { configFormats with toml := versionCodec }

/-- A fungi directory with this configuration alone. -/
def configured (content : String) : FileSystem :=
  FileSystem.ofList
    [([], .directory), (["f".toList], .directory),
      (["f".toList, "config.toml".toList], .file content)]

theorem rejectsTheFuture_seven :
    RejectsTheFuture versionFormats (.among ["config.toml"] (by decide)) 2 newYear (fun _ => none)
      "/f" (configured "version = 7\n") 7 := by
  have versioned : HasVersion versionFormats (configured "version = 7\n") "/f" 7 :=
    ⟨"version = 7\n", [("version", .integer 7)], by decide +kernel, rfl, rfl⟩
  apply (rejectsTheFuture_iff versioned).mpr
  refine ⟨by decide, ?_⟩
  intro _ legacyState
  exact absurd legacyState (by decide +kernel)

/-- The report of a migration from version 2. -/
def wrappedReport : MigrationReport :=
  { sourceVersion := .version 2
    targetVersion := 3
    backupDir := some "/f/bk/20260101T000000Z-from-v2-to-v3"
    stagingDir := none
    migratedPaths := ["config.toml"]
    changed := true }

/-- Version 4294967298 is migrated as version 2. -/
theorem not_rejectsTheFuture_wrapped :
    HasVersion versionFormats (configured "version = 4294967298\n") "/f" 4294967298 ∧
      ¬ RejectsTheFuture versionFormats (.among ["config.toml"] (by decide)) 2 newYear
        (fun _ => none) "/f" (configured "version = 4294967298\n") 4294967298 := by
  have succeeded : (migrateIfNeeded versionFormats (.among ["config.toml"] (by decide)) 2 newYear
      (fun _ => none) "/f" (configured "version = 4294967298\n")).1.toOption =
        some wrappedReport := by decide +kernel
  refine ⟨⟨"version = 4294967298\n", [("version", .integer 4294967298)], by decide +kernel, rfl,
    rfl⟩, ?_⟩
  intro law
  obtain ⟨number, refused⟩ := law.refused (by decide)
  rw [refused] at succeeded
  cases succeeded

end Fungi.ConfigMigrate
