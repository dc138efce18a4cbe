import Fungi.Lib.Path

/-!
# File systems

A file system says what is found under each list of names from the root.  The
operations are those of `std::fs`; each may also be interrupted by a fault, which
leaves part of its effect behind.
-/

namespace Fungi.Lib

/-- What stands at a place. -/
inductive Node where
  | directory
  | file (content : String)
  deriving DecidableEq

/-- A file system gives what stands at each place. -/
abbrev FileSystem := List Name → Option Node

namespace FileSystem

variable {files next : FileSystem} {path : String} {place : List Name}

/-- Whether something stands at a path. -/
def pathExists (files : FileSystem) (path : String) : Bool :=
  (files (Path.resolve path)).isSome

/-- Whether a directory stands at a path. -/
def isDir (files : FileSystem) (path : String) : Bool :=
  files (Path.resolve path) = some .directory

/-- The content of the file at a path. -/
def readToString (files : FileSystem) (path : String) : Option String :=
  match files (Path.resolve path) with
  | some (.file content) => some content
  | _ => none

/-- Make the given directories, as far as they do not exist. -/
def makeDirs (files : FileSystem) (directories : List (List Name)) : FileSystem :=
  fun place => if files place = none ∧ place ∈ directories then some .directory else files place

/-- `create_dir_all`: fails when a file is in the way. -/
def createDirAll (files : FileSystem) (path : String) : Option FileSystem :=
  if (Path.ancestors path).all fun place => files place = none ∨ files place = some .directory then
    some (files.makeDirs (Path.ancestors path))
  else none

/-- Write a file into an existing directory. -/
def writeFile (files : FileSystem) (path content : String) : Option FileSystem :=
  let target := Path.resolve path
  if files target.dropLast = some .directory ∧ files target ≠ some .directory then
    some fun place => if place = target then some (.file content) else files place
  else none

/-- Remove the entries among `deleted` that are below the path. -/
def removeEntries (files : FileSystem) (path : String) (deleted : List (List Name)) : FileSystem :=
  fun place => if Path.resolve path <+: place ∧ place ∈ deleted then none else files place

/-- `remove_dir_all`. -/
def removeDirAll (files : FileSystem) (path : String) : Option FileSystem :=
  if files.isDir path then
    some fun place => if Path.resolve path <+: place then none else files place
  else none

/-- `read_dir` lists the entries of a directory, in any order. -/
structure Lists (files : FileSystem) (directory : String) (entries : List String) : Prop where
  nodup : entries.Nodup
  mem_iff : ∀ name, name ∈ entries ↔
    Path.Plain name ∧ (files (Path.resolve directory ++ [name.toList])).isSome

/-! ## Rules for changes -/

/-- How what is found at a place may change: a relation that composes. -/
structure ChangeRule where
  Allows : List Name → Option Node → Option Node → Prop
  refl : ∀ place node, Allows place node node
  trans : ∀ {place first second third}, Allows place first second → Allows place second third →
    Allows place first third

/-- Every change is allowed. -/
def ChangeRule.any : ChangeRule where
  Allows _ _ _ := True
  refl _ _ := trivial
  trans _ _ := trivial

/-- Nothing in `region` changes, and nothing in `kept` that exists. -/
def ChangeRule.leaving (region kept : List Name → Prop) : ChangeRule where
  Allows place before after :=
    (region place → after = before) ∧ (kept place → before ≠ none → after = before)
  refl _ _ := ⟨fun _ => rfl, fun _ _ => rfl⟩
  trans := by
    intro place first second third before after
    refine ⟨?_, ?_⟩
    · intro inside
      rw [after.1 inside, before.1 inside]
    · intro inside found
      have same := before.2 inside found
      rw [after.2 inside (same ▸ found), same]

/-- What is protected does not change, and nothing that exists goes. -/
def ChangeRule.protecting (isProtected : List Name → Option Node → Prop) : ChangeRule where
  Allows place before after :=
    (isProtected place before → after = before) ∧ (before ≠ none → after ≠ none)
  refl _ _ := ⟨fun _ => rfl, id⟩
  trans := by
    intro place first second third before after
    refine ⟨?_, after.2 ∘ before.2⟩
    intro inside
    have same := before.1 inside
    rw [after.1 (same ▸ inside), same]

section Leaving

variable {region kept : List Name → Prop}

theorem ChangeRule.leaving_made (outside : ¬ region place) :
    (ChangeRule.leaving region kept).Allows place none (some .directory) := by
  refine ⟨fun inside => absurd inside outside, ?_⟩
  intro _ found
  exact absurd rfl found

theorem ChangeRule.leaving_changed (outside : ¬ region place ∧ ¬ kept place)
    (before after : Option Node) : (ChangeRule.leaving region kept).Allows place before after :=
  ⟨fun inside => absurd inside outside.1, fun inside => absurd inside outside.2⟩

end Leaving

/-! ## What an operation leaves alone -/

theorem makeDirs_of_isSome {directories : List (List Name)} (found : files place ≠ none) :
    files.makeDirs directories place = files place := by
  unfold makeDirs
  rw [if_neg]
  intro both
  exact found both.1

theorem makeDirs_of_notMem {directories : List (List Name)} (elsewhere : place ∉ directories) :
    files.makeDirs directories place = files place := by
  unfold makeDirs
  rw [if_neg]
  intro both
  exact elsewhere both.2

theorem makeDirs_cases {directories : List (List Name)} :
    files.makeDirs directories place = files place ∨
      place ∈ directories ∧ files place = none ∧
        files.makeDirs directories place = some .directory := by
  unfold makeDirs
  split
  · next both => exact Or.inr ⟨both.2, both.1, rfl⟩
  · exact Or.inl rfl

/-- Making directories puts no file anywhere. -/
theorem makeDirs_ne_file {directories : List (List Name)} {content : String}
    (noFile : files place ≠ some (.file content)) :
    files.makeDirs directories place ≠ some (.file content) := by
  rcases @makeDirs_cases files place directories with same | made
  · rw [same]
    exact noFile
  · rw [made.2.2]
    simp

theorem createDirAll_eq_some (created : files.createDirAll path = some next) :
    next = files.makeDirs (Path.ancestors path) ∧
      ∀ place ∈ Path.ancestors path, files place = none ∨ files place = some .directory := by
  unfold createDirAll at created
  split at created
  · next free =>
      cases created
      refine ⟨rfl, ?_⟩
      intro place membership
      simpa using List.all_eq_true.mp free place membership
  · cases created

/-- Creating a directory keeps what exists. -/
theorem createDirAll_keeps (created : files.createDirAll path = some next)
    (found : files place ≠ none) : next place = files place := by
  obtain ⟨rfl, -⟩ := createDirAll_eq_some created
  exact makeDirs_of_isSome found

theorem resolve_mem_ancestors (path : String) : Path.resolve path ∈ Path.ancestors path := by
  unfold Path.ancestors Path.resolve
  apply List.mem_map_of_mem
  rw [List.mem_inits]

/-- The created directory exists afterwards. -/
theorem isDir_of_createDirAll (created : files.createDirAll path = some next) :
    next (Path.resolve path) = some .directory := by
  obtain ⟨rfl, free⟩ := createDirAll_eq_some created
  unfold makeDirs
  rcases free _ (resolve_mem_ancestors path) with absent | present
  · rw [if_pos ⟨absent, resolve_mem_ancestors path⟩]
  · rw [present]
    split
    · rfl
    · rfl

theorem writeFile_eq_some {content : String} (written : files.writeFile path content = some next) :
    files (Path.resolve path) ≠ some .directory ∧
      next = fun place =>
        if place = Path.resolve path then some (.file content) else files place := by
  unfold writeFile at written
  dsimp only at written
  split at written
  · next both =>
      cases written
      exact ⟨both.2, rfl⟩
  · cases written

theorem removeDirAll_eq_some (removed : files.removeDirAll path = some next) :
    files.isDir path ∧
      next = fun place => if Path.resolve path <+: place then none else files place := by
  unfold removeDirAll at removed
  split at removed
  · next directory =>
      cases removed
      exact ⟨directory, rfl⟩
  · cases removed

theorem writeFile_frame {content : String}
    (written : files.writeFile path content = some next) (other : place ≠ Path.resolve path) :
    next place = files place := by
  obtain ⟨-, rfl⟩ := writeFile_eq_some written
  exact if_neg other

/-- No file is found at a place that is free or a directory. -/
theorem ne_file_of_free (free : files place = none ∨ files place = some .directory)
    (content : String) : files place ≠ some (.file content) := by
  rcases free with absent | directory
  · rw [absent]
    simp
  · rw [directory]
    simp

theorem createDirAll_of_free
    (free : ∀ place ∈ Path.ancestors path, ∀ content, files place ≠ some (.file content)) :
    files.createDirAll path = some (files.makeDirs (Path.ancestors path)) := by
  unfold createDirAll
  rw [if_pos]
  rw [List.all_eq_true]
  intro place membership
  rw [decide_eq_true_eq]
  have noFile := free place membership
  cases found : files place with
  | none => exact Or.inl rfl
  | some node =>
      cases node with
      | directory => exact Or.inr rfl
      | file content => exact absurd found (noFile content)

theorem removeDirAll_frame (removed : files.removeDirAll path = some next)
    (outside : ¬ Path.resolve path <+: place) : next place = files place := by
  obtain ⟨-, rfl⟩ := removeDirAll_eq_some removed
  exact if_neg outside

theorem removeEntries_frame {deleted : List (List Name)}
    (outside : ¬ Path.resolve path <+: place) :
    files.removeEntries path deleted place = files place := by
  unfold removeEntries
  rw [if_neg]
  intro both
  exact outside both.1

/-! ## File systems given by a list -/

/-- The file system with these nodes alone. -/
def ofList (items : List (List Name × Node)) : FileSystem :=
  fun place => (items.find? (·.1 = place)).map (·.2)

theorem makeDirs_of_present {directories : List (List Name)}
    (present : ∀ place ∈ directories, files place ≠ none) : files.makeDirs directories = files := by
  funext place
  unfold makeDirs
  rw [if_neg]
  intro both
  exact present place both.2 both.1

theorem lists_ofList {items : List (List Name × Node)} {directory : String}
    {entries : List String} (nodup : entries.Nodup)
    (listed : ∀ entry ∈ entries, Path.Plain entry ∧
      (ofList items (Path.resolve directory ++ [entry.toList])).isSome)
    (complete : ∀ item ∈ items, ∀ last ∈ item.1.getLast?, item.1.dropLast = Path.resolve directory →
      String.ofList last ∈ entries) :
    (ofList items).Lists directory entries := by
  refine ⟨nodup, ?_⟩
  intro name
  refine ⟨listed name, ?_⟩
  intro both
  have found := both.2
  unfold ofList at found
  rw [Option.isSome_map, List.find?_isSome] at found
  obtain ⟨item, membership, same⟩ := found
  rw [decide_eq_true_eq] at same
  have last := complete item membership name.toList (by simp [same]) (by simp [same])
  rwa [String.ofList_toList] at last

end FileSystem

end Fungi.Lib
