import Fungi.Lib.FileTree
import Fungi.Lib.Program

/-!
# Applying a staged migration

`apply_staged_paths` of `crates/config-migrate/src/apply.rs`: each touched path is moved aside
and its staged version moved into its place; when that fails, the paths done so far are rolled
back.  A fault may strike any of these steps but the renames of the rollback.
-/

namespace Fungi.ConfigMigrate

open Fungi.Lib

/-- An `anyhow` error by its outermost message. -/
abbrev Error := String

/-- A step of the migration: it works on the file system and fails with a text. -/
abbrev Migration := Program FileSystem Error

/-- The directory in staging that keeps what has been moved aside. -/
def applyRollbackDirName : String := ".apply-rollback"

/-! ## Steps on the file system -/

/-- The steps of `apply_staged_paths` that may fail, by the path they are for. -/
inductive ApplyStep where
  | createRollbackRoot
  | createRollbackParent (relativePath : String)
  | moveLiveAside (relativePath : String)
  | createLiveParent (relativePath : String)
  | moveStagedIntoPlace (relativePath : String)
  | removeApplied (relativePath : String)
  | createRestoredParent (relativePath : String)
  deriving DecidableEq

/-- A failing step: how many directories it made, and what it deleted. -/
structure Fault where
  made : Nat := 0
  deleted : List (List Name) := []

/-- Which steps of the apply are disturbed, and how. -/
abbrev Faults := ApplyStep → Option Fault

/-- A step on the file system, which fails if it is disturbed or has no effect. -/
def fileStep (fault : Option Fault) (failure : Error) (effect : FileSystem → Option FileSystem)
    (interrupted : Fault → FileSystem → FileSystem) : Migration Unit := fun files =>
  match fault with
  | some fault => (.error failure, interrupted fault files)
  | none =>
      match effect files with
      | some next => (.ok (), next)
      | none => (.error failure, files)

/-- A disturbed creation has made some of the missing directories. -/
def createDirAll (fault : Option Fault) (context path : String) : Migration Unit :=
  fileStep fault s!"{context}: {path}" (·.createDirAll path)
    fun fault files => files.makeDirs ((Path.ancestors path).take fault.made)

/-- A failing rename changes nothing. -/
def renamePath (fault : Option Fault) (failure : Error) (source target : String) :
    Migration Unit :=
  fileStep fault failure (·.rename source target) fun _ files => files

/-- The parent of a path, created where it is missing. -/
def ensureParentDir (fault : Option Fault) (path : String) : Migration Unit :=
  match Path.parent path with
  | some parent =>
      createDirAll fault "Failed to create parent directory during migration finalize" parent
  | none => pure ()

/-- A disturbed removal of a directory has deleted some of its entries. -/
def removePathIfExists (fault : Option Fault) (path : String) : Migration Unit := do
  let found ← Program.gets fun files => files (Path.resolve path)
  match found with
  | none => pure ()
  | some .directory =>
      fileStep fault s!"Failed to remove directory while rolling back migration finalize: {path}"
        (·.removeDirAll path) fun fault files => files.removeEntries path fault.deleted
  | some (.file _) =>
      fileStep fault s!"Failed to remove file while rolling back migration finalize: {path}"
        (·.removeFile path) fun _ files => files

/-! ## Applying and rolling back -/

/-- What has been done with a path, which is what the roll-back undoes. -/
structure AppliedPath where
  relativePath : String
  movedLiveToRollback : Bool
  movedStagedToLive : Bool
  deriving DecidableEq

section Roots

variable (faults : Faults) (stagingRoot liveRoot rollbackRoot : String)

/-- Move the live version of a path into the roll-back directory. -/
def moveAside (relativePath : String) : Migration Unit := do
  let livePath := Path.join liveRoot relativePath
  let rollbackPath := Path.join rollbackRoot relativePath
  ensureParentDir (faults (.createRollbackParent relativePath)) rollbackPath
  renamePath (faults (.moveLiveAside relativePath))
    s!"Failed to move live path aside during migration finalize: {livePath}" livePath rollbackPath

/-- Only the rename puts the live path back when it fails. -/
def moveIntoPlace (relativePath : String) (movedLiveToRollback : Bool) : Migration Unit := do
  let stagedPath := Path.join stagingRoot relativePath
  let livePath := Path.join liveRoot relativePath
  let rollbackPath := Path.join rollbackRoot relativePath
  ensureParentDir (faults (.createLiveParent relativePath)) livePath
  let moved ← Program.attempt <| renamePath (faults (.moveStagedIntoPlace relativePath))
    s!"Failed to move staged path into place during migration finalize: {livePath}"
    stagedPath livePath
  match moved with
  | .ok () => pure ()
  | .error error =>
      Program.when movedLiveToRollback <| Program.ignoring <|
        renamePath none "" rollbackPath livePath
      Program.fail error

/-- Put the staged version of a path in the place of the live one. -/
def applyOneStagedPath (relativePath : String) : Migration AppliedPath := do
  let liveExists ← Program.gets fun files => files.pathExists (Path.join liveRoot relativePath)
  let stagedExists ← Program.gets fun files =>
    files.pathExists (Path.join stagingRoot relativePath)
  Program.when liveExists <| moveAside faults liveRoot rollbackRoot relativePath
  Program.when stagedExists <|
    moveIntoPlace faults stagingRoot liveRoot rollbackRoot relativePath liveExists
  return { relativePath, movedLiveToRollback := liveExists, movedStagedToLive := stagedExists }

/-- Remove what was put in place, and put back what was moved aside. -/
def rollbackAppliedPath (appliedPath : AppliedPath) : Migration Unit := do
  let livePath := Path.join liveRoot appliedPath.relativePath
  let rollbackPath := Path.join rollbackRoot appliedPath.relativePath
  Program.when appliedPath.movedStagedToLive <|
    removePathIfExists (faults (.removeApplied appliedPath.relativePath)) livePath
  Program.when appliedPath.movedLiveToRollback do
    ensureParentDir (faults (.createRestoredParent appliedPath.relativePath)) livePath
    renamePath none s!"Failed to restore live path during migration rollback: {livePath}"
      rollbackPath livePath

/-- The last path that was applied is rolled back first. -/
def rollbackAppliedPaths (appliedPaths : List AppliedPath) : Migration Unit :=
  Program.forEach (rollbackAppliedPath faults liveRoot rollbackRoot) appliedPaths.reverse

/-- The loop of `apply_staged_paths`. -/
def applyEach : List AppliedPath → List String → Migration Unit
  | _, [] => pure ()
  | appliedPaths, relativePath :: rest => do
      let applied ← Program.attempt
        (applyOneStagedPath faults stagingRoot liveRoot rollbackRoot relativePath)
      match applied with
      | .ok appliedPath => applyEach (appliedPaths ++ [appliedPath]) rest
      | .error error =>
          let rolledBack ← Program.attempt
            (rollbackAppliedPaths faults liveRoot rollbackRoot appliedPaths)
          match rolledBack with
          | .ok () => Program.fail error
          | .error rollbackError =>
              Program.fail
                s!"Additionally failed to roll back migration apply: {rollbackError}"

/-- Apply the paths one by one; the first failure rolls back those applied before it. -/
def applyStagedPaths (migratedPaths : List String) : Migration Unit := do
  let rollbackRoot := Path.join stagingRoot applyRollbackDirName
  createDirAll (faults .createRollbackRoot)
    "Failed to create migration apply rollback directory in staging" rollbackRoot
  applyEach faults stagingRoot liveRoot rollbackRoot [] migratedPaths

end Roots

/-! ## What a step does -/

section Steps

variable {files next : FileSystem} {path : String} {outcome : Except Error Unit}

/-- No file stands in the way of a directory at the place. -/
def Free (files : FileSystem) (place : List Name) : Prop :=
  ∀ above, above <+: place → files above = none ∨ files above = some .directory

instance (files : FileSystem) (place : List Name) : Decidable (Free files place) :=
  decidable_of_iff
    (∀ above ∈ place.inits, files above = none ∨ files above = some .directory)
    (by simp [Free, List.mem_inits])

theorem createDirAll_isSome_iff (direct : Path.Direct path) :
    (files.createDirAll path).isSome = true ↔ Free files (Path.resolve path) := by
  unfold FileSystem.createDirAll Free
  split
  · next free =>
      simp only [List.all_eq_true, decide_eq_true_eq] at free
      refine iff_of_true rfl ?_
      intro above isAbove
      exact free above ((Path.mem_ancestors_of_direct direct).mpr isAbove)
  · next blocked =>
      simp only [List.all_eq_true, decide_eq_true_eq] at blocked
      refine iff_of_false (by simp) ?_
      intro free
      apply blocked
      intro above member
      exact free above ((Path.mem_ancestors_of_direct direct).mp member)

/-- Parents are made as far as they were missing; whether they all are depends on the fault and on
files in the way. -/
structure EnsuresParent (fault : Option Fault) (files : FileSystem) (place : List Name)
    (outcome : Except Error Unit) (next : FileSystem) : Prop where
  made : ∃ directories, next = files.makeDirs directories ∧
    ∀ directory ∈ directories, directory <+: place.dropLast
  ok_iff : outcome = .ok () ↔ fault = none ∧ Free files place.dropLast
  directory : outcome = .ok () → next place.dropLast = some .directory

theorem ensureParentDir_spec (direct : Path.Direct path) (below : Path.names path ≠ [])
    (fault : Option Fault) :
    EnsuresParent fault files (Path.resolve path) (ensureParentDir fault path files).1
      (ensureParentDir fault path files).2 := by
  unfold ensureParentDir
  cases isParent : Path.parent path with
  | none => exact absurd (Path.names_eq_nil_of_parent isParent) below
  | some parent =>
      have parentNames := Path.names_parent isParent
      have parentDirect : Path.Direct parent := by
        apply Path.direct_of_subset direct
        rw [parentNames]
        exact List.dropLast_subset _
      have parentPlace : Path.resolve parent = (Path.resolve path).dropLast := by
        rw [Path.resolve_of_direct parentDirect, Path.resolve_of_direct direct, parentNames]
      have above : ∀ directory ∈ Path.ancestors parent,
          directory <+: (Path.resolve path).dropLast := by
        intro directory member
        rw [← parentPlace]
        exact (Path.mem_ancestors_of_direct parentDirect).mp member
      have possible : (files.createDirAll parent).isSome = true ↔ _ :=
        createDirAll_isSome_iff parentDirect
      rw [parentPlace] at possible
      dsimp only
      unfold createDirAll fileStep
      cases fault with
      | some fault =>
          refine ⟨⟨_, rfl, ?_⟩, by simp, nofun⟩
          intro directory member
          exact above directory (List.mem_of_mem_take member)
      | none =>
          dsimp only
          cases created : files.createDirAll parent with
          | none =>
              rw [created] at possible
              refine ⟨⟨[], ?_, nofun⟩, ?_, nofun⟩
              · symm
                exact FileSystem.makeDirs_of_present nofun
              · exact iff_of_false nofun fun both => by simpa using possible.mpr both.2
          | some next =>
              rw [created] at possible
              refine ⟨⟨_, (FileSystem.createDirAll_eq_some created).1, above⟩, ?_, ?_⟩
              · exact iff_of_true rfl ⟨rfl, possible.mp rfl⟩
              · intro _
                rw [← parentPlace]
                exact FileSystem.isDir_of_createDirAll created

theorem renamePath_of_fault (fault : Fault) (failure : Error) (source target : String) :
    renamePath (some fault) failure source target files = (.error failure, files) := rfl

theorem renamePath_of_free {source target : String} (failure : Error)
    (present : files (Path.resolve source) ≠ none) (free : files (Path.resolve target) = none)
    (parent : files (Path.resolve target).dropLast = some .directory)
    (apart : Path.Apart (Path.resolve source) (Path.resolve target)) :
    renamePath none failure source target files =
      (.ok (), files.moved (Path.resolve source) (Path.resolve target)) := by
  unfold renamePath fileStep
  dsimp only
  rw [FileSystem.rename_of_free present free parent apart]

end Steps

end Fungi.ConfigMigrate
