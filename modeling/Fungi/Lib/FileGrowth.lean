import Fungi.Lib.FileTree
import Fungi.Lib.Program

/-!
# Changes confined to a region

A program may put something new only inside a region, and keeps a directory that it works in;
outside the region things stay as they are or go.
-/

namespace Fungi.Lib

namespace FileSystem

open Path

variable {files next : FileSystem} {base source target place : List Name} {path : String}
  {region : List Name → Prop}

/-! ## Trees stay trees -/

theorem IsTree.createDirAll (tree : files.IsTree) (direct : Direct path)
    (created : files.createDirAll path = some next) : next.IsTree := by
  obtain ⟨rfl, free⟩ := createDirAll_eq_some created
  intro place name present
  have directory : place ∈ ancestors path →
      files.makeDirs (ancestors path) place = some .directory := by
    intro member
    rcases free place member with absent | isDirectory
    · simp [makeDirs, absent, member]
    · rw [makeDirs_of_isSome (by simp [isDirectory]), isDirectory]
  rcases @makeDirs_cases files (place ++ [name]) (ancestors path) with same | ⟨member, _⟩
  · rw [same] at present
    have isDirectory := tree place name present
    rw [makeDirs_of_isSome (by simp [isDirectory]), isDirectory]
  · apply directory
    rw [mem_ancestors_of_direct direct] at member ⊢
    exact (List.prefix_append place [name]).trans member

theorem IsTree.writeFile {content : String} (tree : files.IsTree)
    (written : files.writeFile path content = some next) : next.IsTree := by
  unfold FileSystem.writeFile at written
  dsimp only at written
  split at written
  · next possible =>
      cases written
      intro place name present
      dsimp only at present ⊢
      have parent : files place = some .directory := by
        by_cases isTarget : place ++ [name] = resolve path
        · have below := possible.1
          rwa [← isTarget, List.dropLast_concat] at below
        · rw [if_neg isTarget] at present
          exact tree place name present
      have notTarget : place ≠ resolve path := by
        intro same
        exact possible.2 (same ▸ parent)
      rw [if_neg notTarget, parent]
  · cases written

theorem IsTree.removed (tree : files.IsTree) (gone : List Name) : (files.removed gone).IsTree := by
  intro place name present
  by_cases below : gone <+: place ++ [name]
  · simp [FileSystem.removed, below] at present
  · have above : ¬ gone <+: place := fun under => below (under.trans (List.prefix_append _ _))
    rw [removed_apply_outside below] at present
    rw [removed_apply_outside above]
    exact tree place name present

theorem IsTree.moved (tree : files.IsTree) (apart : Apart source target)
    (parent : files target.dropLast = some .directory) : (files.moved source target).IsTree := by
  intro place name present
  by_cases under : target <+: place
  · obtain ⟨rest, rfl⟩ := under
    rw [List.append_assoc] at present
    have movedHere : ∀ below, files.moved source target (target ++ below) =
        files (source ++ below) := congrFun subtree_moved_target
    rw [movedHere, ← List.append_assoc] at present
    rw [movedHere]
    exact tree (source ++ rest) name present
  · by_cases isTarget : target = place ++ [name]
    · have notSource : ¬ source <+: place := fun below =>
        apart.1 (isTarget ▸ below.trans (List.prefix_append _ _))
      rw [moved_apply_outside notSource under]
      rwa [isTarget, List.dropLast_concat] at parent
    · have notTarget : ¬ target <+: place ++ [name] := by
        rw [List.prefix_concat_iff, not_or]
        exact ⟨isTarget, under⟩
      by_cases below : source <+: place ++ [name]
      · simp [FileSystem.moved, notTarget, below] at present
      · have notSource : ¬ source <+: place := fun isBelow =>
          below (isBelow.trans (List.prefix_append _ _))
        rw [moved_apply_outside below notTarget] at present
        rw [moved_apply_outside notSource under]
        exact tree place name present

/-! ## Confined changes -/

/-- The directory `base` is kept in a tree, and what is new lies inside the region. -/
structure Confined (base : List Name) (region : List Name → Prop) (files next : FileSystem) :
    Prop where
  tree : next.IsTree
  kept : next base = some .directory
  outside : ∀ place, ¬ region place → next place = files place ∨ next place = none

theorem Confined.trans {last : FileSystem} (first : Confined base region files next)
    (second : Confined base region next last) : Confined base region files last := by
  refine ⟨second.tree, second.kept, ?_⟩
  intro place outside
  rcases second.outside place outside with same | gone
  · rw [same]
    exact first.outside place outside
  · exact Or.inr gone

/-- What was not there outside the region is not there. -/
theorem Confined.absent (confined : Confined base region files next) (outside : ¬ region place)
    (absent : files place = none) : next place = none := by
  rcases confined.outside place outside with same | gone
  · rw [same, absent]
  · exact gone

theorem Confined.of_same (tree : files.IsTree) (kept : files base = some .directory) :
    Confined base region files files :=
  ⟨tree, kept, fun _ _ => Or.inl rfl⟩

section Operations

variable (tree : files.IsTree) (kept : files base = some .directory)

include tree kept

theorem confined_createDirAll (direct : Direct path)
    (inside : ∀ above, above <+: resolve path → above <+: base ∨ region above)
    (created : files.createDirAll path = some next) : Confined base region files next := by
  refine ⟨tree.createDirAll direct created, ?_, ?_⟩
  · rw [createDirAll_keeps created (by simp [kept]), kept]
  · intro place outside
    obtain ⟨rfl, _⟩ := createDirAll_eq_some created
    rcases @makeDirs_cases files place (ancestors path) with same | ⟨member, absent, _⟩
    · exact Or.inl same
    · rw [mem_ancestors_of_direct direct] at member
      rcases inside place member with above | isInside
      · by_cases isBase : place = base
        · rw [isBase, kept] at absent
          cases absent
        · have directory := tree.directory_of_prefix (by simp [kept]) above isBase
          rw [directory] at absent
          cases absent
      · exact absurd isInside outside

theorem confined_writeFile {content : String} (inside : region (resolve path))
    (written : files.writeFile path content = some next) : Confined base region files next := by
  refine ⟨tree.writeFile written, ?_, ?_⟩
  · have notBase : base ≠ resolve path := by
      intro same
      exact (writeFile_eq_some written).1 (same ▸ kept)
    rw [writeFile_frame written notBase, kept]
  · intro place outside
    left
    apply writeFile_frame written
    intro same
    exact outside (same ▸ inside)

theorem confined_removed {gone : List Name} (notBase : ¬ gone <+: base) :
    Confined base region files (files.removed gone) := by
  refine ⟨tree.removed gone, ?_, ?_⟩
  · rw [removed_apply_outside notBase, kept]
  · intro place _
    unfold removed
    split
    · exact Or.inr rfl
    · exact Or.inl rfl

theorem confined_removeFile (removed : files.removeFile path = some next) :
    Confined base region files next := by
  unfold removeFile at removed
  split at removed
  · next content found =>
      cases removed
      apply confined_removed tree kept
      intro above
      by_cases isBase : resolve path = base
      · rw [isBase, kept] at found
        cases found
      · rw [tree.directory_of_prefix (by simp [kept]) above isBase] at found
        cases found
  · cases removed

theorem confined_removeDirAll (notBase : ¬ resolve path <+: base)
    (removed : files.removeDirAll path = some next) : Confined base region files next := by
  obtain ⟨_, rfl⟩ := removeDirAll_eq_some removed
  exact confined_removed tree kept notBase

theorem confined_rename {sourcePath targetPath : String} (below : base <+: resolve targetPath)
    (strict : base ≠ resolve targetPath) (inside : ∀ rest, region (resolve targetPath ++ rest))
    (renamed : files.rename sourcePath targetPath = some next) :
    Confined base region files next := by
  by_cases same : resolve sourcePath = resolve targetPath
  · unfold rename at renamed
    dsimp only at renamed
    rw [if_pos same, Option.map_eq_some_iff] at renamed
    obtain ⟨_, _, rfl⟩ := renamed
    exact Confined.of_same tree kept
  · obtain ⟨_, parent, apart, rfl⟩ := rename_eq_some same renamed
    have notSource : ¬ resolve sourcePath <+: base := fun above => apart.1 (above.trans below)
    have notTarget : ¬ resolve targetPath <+: base := fun above =>
      strict (below.eq_of_length_le above.length_le)
    refine ⟨tree.moved apart parent, ?_, ?_⟩
    · rw [moved_apply_outside notSource notTarget, kept]
    · intro place outside
      have notInTarget : ¬ resolve targetPath <+: place := by
        rintro ⟨rest, rfl⟩
        exact outside (inside rest)
      unfold moved
      rw [if_neg notInTarget]
      split
      · exact Or.inr rfl
      · exact Or.inl rfl

end Operations

/-! ## Places that may be made -/

/-- The place and what is below it lie in the region; so does what is above it, as far as it is not
above the base. -/
structure Admits (base : List Name) (region : List Name → Prop) (place : List Name) : Prop where
  above : ∀ above, above <+: place → above <+: base ∨ region above
  below : ∀ rest, region (place ++ rest)

theorem Admits.self (admits : Admits base region place) : region place := by
  simpa using admits.below []

theorem Admits.append (admits : Admits base region place) (rest : List Name) :
    Admits base region (place ++ rest) where
  above above isAbove := by
    rcases List.prefix_or_prefix_of_prefix isAbove (List.prefix_append place rest) with onto | under
    · exact admits.above above onto
    · obtain ⟨suffix, rfl⟩ := under
      exact Or.inr (admits.below suffix)
  below further := by
    rw [List.append_assoc]
    exact admits.below (rest ++ further)

/-- A region that contains an entry of a directory above the base with all below it. -/
theorem admits_of_entry {root : List Name} {name : Name} (isAbove : root <+: base)
    (contains : ∀ rest, region (root ++ name :: rest)) : Admits base region (root ++ [name]) where
  above above isPrefix := by
    rw [List.prefix_concat_iff] at isPrefix
    rcases isPrefix with rfl | onto
    · exact Or.inr (contains [])
    · exact Or.inl (onto.trans isAbove)
  below rest := by simpa using contains rest

/-! ## Programs that are confined -/

/-- The frame of the changes that are confined to a region. -/
def confinement (base : List Name) (region : List Name → Prop) : Program.Frame FileSystem where
  Allows before after := before.IsTree → before base = some .directory →
    Confined base region before after
  refl _ tree kept := Confined.of_same tree kept
  trans first second := fun tree kept =>
    have before := first tree kept
    before.trans (second before.tree before.kept)

theorem confined_of_ran {Failure Value : Type} {program : Program FileSystem Failure Value}
    {outcome : Except Failure Value} (tree : files.IsTree) (kept : files base = some .directory)
    (within : Program.Within (confinement base region) program)
    (ran : program files = (outcome, next)) : Confined base region files next := by
  have confined := within files tree kept
  rwa [ran] at confined

end FileSystem

end Fungi.Lib
