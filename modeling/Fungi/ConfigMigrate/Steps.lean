import Fungi.ConfigMigrate.Detection
import Fungi.Lib.FileGrowth

/-!
# Steps on the staged files

Reading, writing, moving and removing as the migration functions do it, each with the failure it
reports, and what each may change.
-/

namespace Fungi.ConfigMigrate

open Fungi.Lib FileSystem

/-- The text of an error of the operating system that is passed on as it is. -/
def ioError : Error := "I/O error"

/-- A step on the file system that nothing disturbs. -/
def step (failure : Error) (effect : FileSystem → Option FileSystem) : Migration Unit :=
  fileStep none failure effect fun _ files => files

/-- Read a file whole. -/
def readFile (failure : Error) (path : String) : Migration String := do
  let content ← Program.gets fun files => files.readToString path
  match content with
  | some content => return content
  | none => Program.fail failure

/-- Write a file whole. -/
def writeFile (failure : Error) (path content : String) : Migration Unit :=
  step failure (·.writeFile path content)

/-- Remove a file. -/
def removeFile (failure : Error) (path : String) : Migration Unit :=
  step failure (·.removeFile path)

/-- Remove a directory and all in it. -/
def removeDirAll (failure : Error) (path : String) : Migration Unit :=
  step failure (·.removeDirAll path)

/-- `fs::copy`. -/
def copyFile (failure : Error) (source target : String) : Migration Unit :=
  step failure fun files => (files.readToString source).bind (files.writeFile target)

/-- Make the parent of a path, if it has one. -/
def createParent (failure : String → Error) (path : String) : Migration Unit :=
  match Path.parent path with
  | some parent => step (failure parent) (·.createDirAll parent)
  | none => pure ()

/-- A failure with a value that is not there. -/
def ofOption {Value : Type} (failure : Error) (value : Option Value) : Migration Value :=
  match value with
  | some value => pure value
  | none => Program.fail failure

/-! ## What the steps may change -/

section Confinement

variable {base : List Name} {region : List Name → Prop} {path : String}

theorem within_step {effect : FileSystem → Option FileSystem} (failure : Error)
    (confined : ∀ {files next}, files.IsTree → files base = some .directory →
      effect files = some next → Confined base region files next) :
    Program.Within (confinement base region) (step failure effect) := by
  intro files tree kept
  unfold step fileStep
  dsimp only
  cases result : effect files with
  | none => exact Confined.of_same tree kept
  | some next => exact confined tree kept result

theorem within_readFile (failure : Error) (path : String) :
    Program.Within (confinement base region) (readFile failure path) := by
  apply (Program.within_gets _).bind
  intro content
  cases content with
  | none => exact Program.within_fail failure
  | some content => exact Program.within_pure content

theorem within_ofOption {Value : Type} (failure : Error) (value : Option Value) :
    Program.Within (confinement base region) (ofOption failure value) := by
  cases value with
  | none => exact Program.within_fail failure
  | some value => exact Program.within_pure value

theorem within_writeFile (failure : Error) (content : String)
    (admits : Admits base region (Path.resolve path)) :
    Program.Within (confinement base region) (writeFile failure path content) :=
  within_step failure fun tree kept written => confined_writeFile tree kept admits.self written

theorem within_removeFile (failure : Error) (path : String) :
    Program.Within (confinement base region) (removeFile failure path) :=
  within_step failure confined_removeFile

theorem within_removeDirAll (failure : Error) (notBase : ¬ Path.resolve path <+: base) :
    Program.Within (confinement base region) (removeDirAll failure path) :=
  within_step failure fun tree kept removed => confined_removeDirAll tree kept notBase removed

theorem within_copyFile {source : String} (failure : Error)
    (admits : Admits base region (Path.resolve path)) :
    Program.Within (confinement base region) (copyFile failure source path) := by
  apply within_step failure
  intro files next tree kept copied
  obtain ⟨content, _, written⟩ := Option.bind_eq_some_iff.mp copied
  exact confined_writeFile tree kept admits.self written

theorem within_createDirAll (context : String) (direct : Path.Direct path)
    (admits : Admits base region (Path.resolve path)) :
    Program.Within (confinement base region) (createDirAll none context path) :=
  within_step _ fun tree kept created =>
    confined_createDirAll tree kept direct admits.above created

theorem within_createParent (failure : String → Error) (direct : Path.Direct path)
    (admits : Admits base region (Path.resolve path)) :
    Program.Within (confinement base region) (createParent failure path) := by
  unfold createParent
  cases isParent : Path.parent path with
  | none => exact Program.within_pure ()
  | some parent =>
      have parentNames := Path.names_parent isParent
      have parentDirect : Path.Direct parent := by
        apply Path.direct_of_subset direct
        rw [parentNames]
        exact List.dropLast_subset _
      apply within_step
      intro files next tree kept created
      apply confined_createDirAll tree kept parentDirect _ created
      intro above isAbove
      rw [Path.resolve_of_direct parentDirect, parentNames,
        ← Path.resolve_of_direct direct] at isAbove
      exact admits.above above (isAbove.trans (List.dropLast_prefix _))

theorem within_renamePath {source target : String} (failure : Error)
    (below : base <+: Path.resolve target) (strict : base ≠ Path.resolve target)
    (admits : Admits base region (Path.resolve target)) :
    Program.Within (confinement base region) (renamePath none failure source target) :=
  within_step failure fun tree kept renamed =>
    confined_rename tree kept below strict admits.below renamed

end Confinement

end Fungi.ConfigMigrate
