import Fungi.Lib.FileSystem

/-!
# Trees of files

What is found below a path, and the operations of `std::fs` that move or remove all of it.  Places
of which neither lies below the other do not see each other's changes.
-/

namespace Fungi.Lib

namespace Path

/-- Neither place lies below the other. -/
def Apart (left right : List Name) : Prop := ¬ left <+: right ∧ ¬ right <+: left

instance (left right : List Name) : Decidable (Apart left right) :=
  inferInstanceAs (Decidable (_ ∧ _))

theorem Apart.symm {left right : List Name} (apart : Apart left right) : Apart right left :=
  ⟨apart.2, apart.1⟩

theorem Apart.not_prefix_append {left right : List Name} (apart : Apart left right)
    (rest : List Name) : ¬ left <+: right ++ rest := by
  intro below
  rcases List.prefix_or_prefix_of_prefix below (List.prefix_append right rest) with under | onto
  · exact apart.1 under
  · exact apart.2 onto

theorem Apart.append {left right : List Name} (apart : Apart left right)
    (leftRest rightRest : List Name) : Apart (left ++ leftRest) (right ++ rightRest) := by
  constructor
  · intro below
    exact apart.not_prefix_append rightRest ((List.prefix_append left leftRest).trans below)
  · intro below
    exact apart.symm.not_prefix_append leftRest ((List.prefix_append right rightRest).trans below)

theorem apart_append_iff {place left right : List Name} :
    Apart (place ++ left) (place ++ right) ↔ Apart left right := by
  simp [Apart, List.prefix_append_right_inj]

end Path

namespace FileSystem

open Path

variable {files next : FileSystem} {source target place : List Name}

/-! ## Operations -/

/-- What is found below a place. -/
def subtree (files : FileSystem) (place : List Name) : FileSystem :=
  fun rest => files (place ++ rest)

/-- What exists lies in a directory. -/
def IsTree (files : FileSystem) : Prop :=
  ∀ place name, files (place ++ [name]) ≠ none → files place = some .directory

/-- All that is below the source is below the target instead. -/
def moved (files : FileSystem) (source target : List Name) : FileSystem := fun place =>
  if target <+: place then files (source ++ place.drop target.length)
  else if source <+: place then none
  else files place

/-- Nothing is below the place any more. -/
def removed (files : FileSystem) (gone : List Name) : FileSystem := fun place =>
  if gone <+: place then none else files place

/-- A file may replace a file; a directory in the way is always refused. -/
def replaces : Option Node → Option Node → Bool
  | some _, none => true
  | some (.file _), some (.file _) => true
  | _, _ => false

/-- `rename`. -/
def rename (files : FileSystem) (source target : String) : Option FileSystem :=
  let source := resolve source
  let target := resolve target
  if source = target then (files source).map fun _ => files
  else if replaces (files source) (files target) ∧ files target.dropLast = some .directory ∧
      Apart source target then
    some (files.moved source target)
  else none

/-- `remove_file`. -/
def removeFile (files : FileSystem) (path : String) : Option FileSystem :=
  match files (resolve path) with
  | some (.file _) => some (files.removed (resolve path))
  | _ => none

/-! ## Subtrees -/

theorem subtree_eq_none (tree : files.IsTree) (absent : files place = none) :
    files.subtree place = fun _ => none := by
  funext rest
  induction rest using List.reverseRecOn with
  | nil => simpa [subtree] using absent
  | append_singleton front name inductionHypothesis =>
      by_contra present
      have directory := tree (place ++ front) name (by simpa [subtree] using present)
      have free : files (place ++ front) = none := inductionHypothesis
      rw [free] at directory
      cases directory

/-- The ancestors of what exists are directories. -/
theorem IsTree.directory_of_prefix (tree : files.IsTree) (present : files place ≠ none)
    {above : List Name} (isAbove : above <+: place) (strict : above ≠ place) :
    files above = some .directory := by
  obtain ⟨rest, rfl⟩ := isAbove
  induction rest using List.reverseRecOn with
  | nil => simp at strict
  | append_singleton front name inductionHypothesis =>
      have parent := tree (above ++ front) name (by simpa using present)
      cases front with
      | nil => simpa using parent
      | cons first others =>
          apply inductionHypothesis
          · simp [parent]
          · simp

/-- Equal subtrees have equal roots. -/
theorem apply_eq_of_subtree {other : FileSystem} {otherPlace : List Name}
    (same : files.subtree place = other.subtree otherPlace) : files place = other otherPlace := by
  have atRoot := congrFun same []
  simpa [subtree] using atRoot

theorem apply_eq_none_of_subtree (nothing : files.subtree place = fun _ => none) :
    files place = none := by
  have atRoot := congrFun nothing []
  simpa [subtree] using atRoot

theorem subtree_moved_target : (files.moved source target).subtree target =
    files.subtree source := by
  funext rest
  simp [subtree, moved]

theorem subtree_moved_source (apart : Apart source target) :
    (files.moved source target).subtree source = fun _ => none := by
  funext rest
  simp [subtree, moved, apart.symm.not_prefix_append rest]

theorem subtree_moved_apart (fromSource : Apart source place) (fromTarget : Apart target place) :
    (files.moved source target).subtree place = files.subtree place := by
  funext rest
  simp [subtree, moved, fromSource.not_prefix_append rest, fromTarget.not_prefix_append rest]

theorem moved_apply_outside (notSource : ¬ source <+: place) (notTarget : ¬ target <+: place) :
    files.moved source target place = files place := by
  simp [moved, notSource, notTarget]

theorem subtree_removed_self : (files.removed source).subtree source = fun _ => none := by
  funext rest
  simp [subtree, removed]

theorem subtree_removed_apart (apart : Apart source place) :
    (files.removed source).subtree place = files.subtree place := by
  funext rest
  simp [subtree, removed, apart.not_prefix_append rest]

theorem removed_apply_outside (outside : ¬ source <+: place) :
    files.removed source place = files place := by
  simp [removed, outside]

/-- Making directories around a place leaves alone what is below it. -/
theorem subtree_makeDirs {directories : List (List Name)}
    (outside : ∀ directory ∈ directories, ¬ place <+: directory) :
    (files.makeDirs directories).subtree place = files.subtree place := by
  funext rest
  apply makeDirs_of_notMem
  intro member
  exact outside _ member (List.prefix_append place rest)

/-! ## Success and failure -/

theorem rename_eq_some {source target : String} (apart : resolve source ≠ resolve target)
    (renamed : files.rename source target = some next) :
    replaces (files (resolve source)) (files (resolve target)) = true ∧
      files (resolve target).dropLast = some .directory ∧
        Apart (resolve source) (resolve target) ∧
          next = files.moved (resolve source) (resolve target) := by
  unfold rename at renamed
  dsimp only at renamed
  rw [if_neg apart] at renamed
  split at renamed
  · next possible =>
      cases renamed
      exact ⟨possible.1, possible.2.1, possible.2.2, rfl⟩
  · cases renamed

/-- What exists can be moved to where nothing is. -/
theorem rename_of_free {source target : String} (present : files (resolve source) ≠ none)
    (free : files (resolve target) = none)
    (parent : files (resolve target).dropLast = some .directory)
    (apart : Apart (resolve source) (resolve target)) :
    files.rename source target = some (files.moved (resolve source) (resolve target)) := by
  have different : resolve source ≠ resolve target := by
    intro same
    exact apart.1 (same ▸ List.prefix_refl _)
  have possible : replaces (files (resolve source)) (files (resolve target)) = true := by
    rw [free]
    cases found : files (resolve source) with
    | none => exact absurd found present
    | some node => rfl
  unfold rename
  dsimp only
  rw [if_neg different, if_pos ⟨possible, parent, apart⟩]

/-- A listed file system is a tree if the parent of each entry is listed as a directory. -/
theorem isTree_ofList {items : List (List Name × Node)}
    (parents : ∀ item ∈ items, item.1 ≠ [] → ofList items item.1.dropLast = some .directory) :
    (ofList items).IsTree := by
  intro place name present
  have listed : (items.find? fun item => item.1 = place ++ [name]) ≠ none := by
    simpa [ofList] using present
  obtain ⟨item, found⟩ := Option.ne_none_iff_exists'.mp listed
  have same : item.1 = place ++ [name] := by simpa using List.find?_some found
  have parent := parents item (List.mem_of_find?_eq_some found) (by simp [same])
  rwa [same, List.dropLast_concat] at parent

end FileSystem

end Fungi.Lib
