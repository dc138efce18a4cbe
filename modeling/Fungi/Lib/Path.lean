import Mathlib.Data.List.Infix

/-!
# Unix paths and the directories they name

Paths are texts, joined as `std::path::PathBuf::push` joins them.  The directory
an absolute path names is the list of names from the root to it, with `.` and
empty names skipped and `..` leading back up; symbolic links are outside this
model.
-/

namespace Fungi.Lib

/-- A component of a path. -/
abbrev Name := List Char

/-- Places are compared name by name. -/
instance : LawfulBEq (List Name) := inferInstance

namespace Path

/-- Whether a path starts at the root. -/
def isAbsolute (path : String) : Bool := path.toList.head? = some '/'

/-- `Path::join`: an absolute path replaces the base. -/
def join (base path : String) : String :=
  if isAbsolute path then path
  else if base = "" ∨ base.toList.getLast? = some '/' then base ++ path
  else base ++ "/" ++ path

/-- Drop trailing separators and `.` components from a reversed path. -/
def dropTrailing : List Char → List Char
  | '/' :: next :: rest => dropTrailing (next :: rest)
  | '.' :: '/' :: rest => dropTrailing ('/' :: rest)
  | reversed => reversed

/-- `Path::parent`. -/
def parent (path : String) : Option String :=
  match dropTrailing path.toList.reverse with
  | [] => none
  | ['/'] => none
  | reversed =>
      some (String.ofList (dropTrailing (reversed.dropWhile (· ≠ '/'))).reverse)

/-- The texts between the separators. -/
def splitSlash : List Char → List Name
  | [] => [[]]
  | character :: rest =>
      if character = '/' then [] :: splitSlash rest
      else
        match splitSlash rest with
        | [] => [[character]]
        | head :: tail => (character :: head) :: tail

/-- The components of a path other than the root. -/
def names (path : String) : List Name :=
  (splitSlash path.toList).filter fun name => name ≠ [] ∧ name ≠ ['.']

/-- The directory reached from `directory` through one component. -/
def enter (directory : List Name) (name : Name) : List Name :=
  if name = ['.', '.'] then directory.dropLast else directory ++ [name]

/-- The directory an absolute path names. -/
def resolve (path : String) : List Name :=
  (names path).foldl enter []

/-- The directories `create_dir_all` makes sure of: the path and all its
ancestors. -/
def ancestors (path : String) : List (List Name) :=
  (names path).inits.map fun components => components.foldl enter []

/-- A single component that names an entry of the directory it is joined to. -/
structure Plain (name : String) : Prop where
  nonempty : name ≠ ""
  notDot : name ≠ "."
  notDotDot : name ≠ ".."
  noSlash : '/' ∉ name.toList

instance (name : String) : Decidable (Plain name) :=
  decidable_of_iff (name ≠ "" ∧ name ≠ "." ∧ name ≠ ".." ∧ '/' ∉ name.toList)
    ⟨fun ⟨nonempty, notDot, notDotDot, noSlash⟩ => ⟨nonempty, notDot, notDotDot, noSlash⟩,
      fun plain => ⟨plain.nonempty, plain.notDot, plain.notDotDot, plain.noSlash⟩⟩

/-- A path joined to an absolute base is absolute. -/
theorem isAbsolute_join {base : String} (absolute : isAbsolute base) (path : String) :
    isAbsolute (join base path) := by
  have first : base.toList.head? = some '/' := by simpa [isAbsolute] using absolute
  unfold join
  split
  · assumption
  · split
    · simp [isAbsolute, List.head?_append, first]
    · simp [isAbsolute, List.head?_append, first]

theorem isAbsolute_join_iff {base path : String} (relative : isAbsolute path = false) :
    isAbsolute (join base path) ↔ isAbsolute base := by
  constructor
  · unfold join
    rw [if_neg (by simp [relative])]
    split
    · next joined =>
        rcases joined with empty | slash
        · simp [empty, relative]
        · cases shape : base.toList with
          | nil => simp [shape] at slash
          | cons first rest => simp [isAbsolute, shape]
    · next notJoined =>
        cases shape : base.toList with
        | nil =>
            rw [String.toList_eq_nil_iff] at shape
            exact absurd (.inl shape) notJoined
        | cons first rest => simp [isAbsolute, shape]
  · exact fun absolute => isAbsolute_join absolute path

private theorem getLast?_dropTrailing {reversed : List Char}
    (rooted : reversed.getLast? = some '/') :
    (dropTrailing reversed).getLast? = some '/' := by
  fun_induction dropTrailing reversed with
  | case1 next rest inductionHypothesis =>
      apply inductionHypothesis
      simpa using rooted
  | case2 rest inductionHypothesis =>
      apply inductionHypothesis
      simpa using rooted
  | case3 => exact rooted

private theorem getLast?_dropWhile_ne_slash {reversed : List Char}
    (rooted : reversed.getLast? = some '/') :
    (reversed.dropWhile (· ≠ '/')).getLast? = some '/' := by
  induction reversed with
  | nil => cases rooted
  | cons character rest inductionHypothesis =>
      rw [List.dropWhile_cons]
      split
      · next other =>
          apply inductionHypothesis
          cases rest with
          | nil =>
              rw [List.getLast?_singleton, Option.some.injEq] at rooted
              rw [rooted] at other
              exact absurd other (by decide)
          | cons next rest => simpa using rooted
      · exact rooted

/-- The parent of an absolute path is absolute. -/
theorem isAbsolute_parent {path directory : String} (absolute : isAbsolute path)
    (above : parent path = some directory) : isAbsolute directory := by
  have rooted : path.toList.reverse.getLast? = some '/' := by
    simpa [isAbsolute] using absolute
  have kept := getLast?_dropTrailing rooted
  unfold parent at above
  split at above
  · cases above
  · cases above
  · rw [Option.some.injEq] at above
    rw [← above]
    simpa [isAbsolute] using getLast?_dropTrailing (getLast?_dropWhile_ne_slash kept)

theorem splitSlash_ne_nil (characters : List Char) : splitSlash characters ≠ [] := by
  cases characters with
  | nil => simp [splitSlash]
  | cons character rest =>
      unfold splitSlash
      split
      · simp
      · split <;> simp

theorem splitSlash_append (left right : List Char) :
    splitSlash (left ++ '/' :: right) = splitSlash left ++ splitSlash right := by
  induction left with
  | nil => simp [splitSlash]
  | cons character rest inductionHypothesis =>
      rw [List.cons_append, splitSlash, splitSlash, inductionHypothesis]
      split
      · rfl
      · cases shape : splitSlash rest with
        | nil => exact absurd shape (splitSlash_ne_nil rest)
        | cons head tail => rfl

theorem splitSlash_of_noSlash {characters : List Char} (noSlash : '/' ∉ characters) :
    splitSlash characters = [characters] := by
  induction characters with
  | nil => rfl
  | cons character rest inductionHypothesis =>
      rw [List.mem_cons, not_or] at noSlash
      rw [splitSlash, if_neg (Ne.symm noSlash.1), inductionHypothesis noSlash.2]

/-- The components of a joined relative path follow those of the base. -/
theorem names_join {base path : String} (relative : isAbsolute path = false) :
    names (join base path) = names base ++ names path := by
  unfold join names
  rw [if_neg (by simp [relative])]
  split
  · next joined =>
      rcases joined with empty | slash
      · rw [empty, String.empty_append]
        simp [splitSlash]
      · obtain ⟨front, shape⟩ := List.getLast?_eq_some_iff.mp slash
        rw [String.toList_append, shape, List.append_assoc, List.singleton_append,
          splitSlash_append, splitSlash_append]
        simp [splitSlash]
  · rw [String.toList_append, String.toList_append]
    change List.filter _ (splitSlash ((base.toList ++ ['/']) ++ path.toList)) = _
    rw [List.append_assoc, List.singleton_append, splitSlash_append, List.filter_append]

theorem names_of_plain {name : String} (plain : Plain name) : names name = [name.toList] := by
  have nonempty : name.toList ≠ [] := by simpa using plain.nonempty
  have notDot : name.toList ≠ ['.'] := by
    intro same
    exact plain.notDot (String.toList_inj.mp (by simpa using same))
  simp [names, splitSlash_of_noSlash plain.noSlash, nonempty, notDot]

theorem isAbsolute_of_plain {name : String} (plain : Plain name) : isAbsolute name = false := by
  have noSlash := plain.noSlash
  unfold isAbsolute
  cases shape : name.toList with
  | nil => simp
  | cons first rest =>
      rw [shape, List.mem_cons, not_or] at noSlash
      simpa using Ne.symm noSlash.1

theorem names_join_plain {base name : String} (plain : Plain name) :
    names (join base name) = names base ++ [name.toList] := by
  rw [names_join (isAbsolute_of_plain plain), names_of_plain plain]

/-- A plain name joined to a base is an entry of the directory the base names. -/
theorem resolve_join_plain {base name : String} (plain : Plain name) :
    resolve (join base name) = resolve base ++ [name.toList] := by
  have notDotDot : name.toList ≠ ['.', '.'] := by
    intro same
    exact plain.notDotDot (String.toList_inj.mp (by simpa using same))
  rw [resolve, names_join (isAbsolute_of_plain plain), names_of_plain plain,
    List.foldl_append]
  simp [resolve, enter, notDotDot]

theorem resolve_congr {left right : String} (same : names left = names right) :
    resolve left = resolve right := by
  rw [resolve, resolve, same]

theorem ancestors_congr {left right : String} (same : names left = names right) :
    ancestors left = ancestors right := by
  rw [ancestors, ancestors, same]

/-! ## Paths without `..` -/

/-- The path never leads back up. -/
def Direct (path : String) : Prop := ['.', '.'] ∉ names path

instance (path : String) : Decidable (Direct path) := inferInstanceAs (Decidable (_ ∉ _))

theorem direct_of_subset {path other : String} (direct : Direct path)
    (fewer : names other ⊆ names path) : Direct other :=
  fun upward => direct (fewer upward)

theorem foldl_enter_of_direct {components directory : List Name}
    (direct : ['.', '.'] ∉ components) :
    components.foldl enter directory = directory ++ components := by
  induction components generalizing directory with
  | nil => simp
  | cons name rest inductionHypothesis =>
      rw [List.mem_cons, not_or] at direct
      rw [List.foldl_cons, inductionHypothesis direct.2, enter, if_neg (Ne.symm direct.1),
        List.append_assoc, List.singleton_append]

theorem resolve_of_direct {path : String} (direct : Direct path) : resolve path = names path :=
  foldl_enter_of_direct direct

/-- A relative path without `..` is found below what it is joined to. -/
theorem resolve_join {base path : String} (relative : isAbsolute path = false)
    (direct : Direct path) : resolve (join base path) = resolve base ++ names path := by
  rw [resolve, names_join relative, List.foldl_append]
  exact foldl_enter_of_direct direct

/-- The directories on the way to such a path are those it lies below. -/
theorem mem_ancestors_of_direct {path : String} (direct : Direct path) {place : List Name} :
    place ∈ ancestors path ↔ place <+: resolve path := by
  have unchanged : ∀ components ∈ (names path).inits, components.foldl enter [] = components := by
    intro components membership
    apply foldl_enter_of_direct
    intro upward
    exact direct ((List.mem_inits _ _).mp membership |>.subset upward)
  rw [ancestors, List.map_congr_left unchanged, List.map_id', List.mem_inits,
    resolve_of_direct direct]

/-- The directories on the way to a path below another one lie on the way to that one, or in it. -/
theorem mem_ancestors_below {base path : String} {below place : List Name}
    (extended : names path = names base ++ below) (direct : ['.', '.'] ∉ below)
    (member : place ∈ ancestors path) : place ∈ ancestors base ∨ resolve base <+: place := by
  unfold ancestors at member ⊢
  obtain ⟨components, isPrefix, rfl⟩ := List.mem_map.mp member
  rw [List.mem_inits, extended] at isPrefix
  rcases List.prefix_or_prefix_of_prefix isPrefix (List.prefix_append _ below) with onto | under
  · exact Or.inl (List.mem_map_of_mem ((List.mem_inits _ _).mpr onto))
  · right
    obtain ⟨rest, rfl⟩ := under
    rw [List.prefix_append_right_inj] at isPrefix
    rw [List.foldl_append, foldl_enter_of_direct fun upward => direct (isPrefix.subset upward)]
    exact List.prefix_append _ _

theorem direct_join {base name : String} (direct : Direct base) (plain : Plain name) :
    Direct (join base name) := by
  unfold Direct
  rw [names_join (isAbsolute_of_plain plain), names_of_plain plain, List.mem_append,
    List.mem_singleton, not_or]
  refine ⟨direct, ?_⟩
  intro same
  exact plain.notDotDot (String.toList_inj.mp (by simpa using same.symm))

/-! ## Parents -/

private theorem names_dropTrailing (reversed : List Char) :
    (splitSlash (dropTrailing reversed).reverse).filter (fun name => name ≠ [] ∧ name ≠ ['.']) =
      (splitSlash reversed.reverse).filter fun name => name ≠ [] ∧ name ≠ ['.'] := by
  fun_induction dropTrailing reversed with
  | case1 next rest inductionHypothesis =>
      rw [inductionHypothesis, List.reverse_cons (a := '/'), splitSlash_append]
      simp [splitSlash]
  | case2 rest inductionHypothesis =>
      rw [inductionHypothesis, List.reverse_cons, List.reverse_cons, List.reverse_cons,
        List.append_assoc, List.singleton_append, splitSlash_append, splitSlash_append]
      simp [splitSlash]
  | case3 => rfl

private theorem dropTrailing_fixed (reversed : List Char) :
    (∀ next rest, dropTrailing reversed ≠ '/' :: next :: rest) ∧
      ∀ rest, dropTrailing reversed ≠ '.' :: '/' :: rest := by
  fun_induction dropTrailing reversed with
  | case1 next rest inductionHypothesis => exact inductionHypothesis
  | case2 rest inductionHypothesis => exact inductionHypothesis
  | case3 reversed notSlash notDot =>
      exact ⟨notSlash, notDot⟩

/-- The names of a parent are those of the path but the last one. -/
theorem names_parent {path above : String} (isParent : parent path = some above) :
    names above = (names path).dropLast := by
  have whole : (splitSlash (dropTrailing path.toList.reverse).reverse).filter
      (fun name => name ≠ [] ∧ name ≠ ['.']) = names path := by
    rw [names_dropTrailing, List.reverse_reverse, names]
  obtain ⟨notSlash, notDot⟩ := dropTrailing_fixed path.toList.reverse
  unfold parent at isParent
  generalize dropTrailing path.toList.reverse = reversed at isParent whole notSlash notDot
  split at isParent
  · cases isParent
  · cases isParent
  · next nonempty notRoot =>
      cases isParent
      rw [names, String.toList_ofList, names_dropTrailing, ← whole]
      have parts := List.takeWhile_append_dropWhile (p := fun character => decide (character ≠ '/'))
        (l := reversed)
      have noSlash : '/' ∉ (reversed.takeWhile (· ≠ '/')).reverse := by
        intro member
        rw [List.mem_reverse] at member
        have kept := List.all_takeWhile (p := fun character => decide (character ≠ '/'))
          (l := reversed)
        simpa using List.all_eq_true.mp kept _ member
      generalize reversed.takeWhile (· ≠ '/') = last at parts noSlash
      cases shape : reversed.dropWhile (· ≠ '/') with
      | nil =>
          rw [shape, List.append_nil] at parts
          rw [← parts, splitSlash_of_noSlash noSlash]
          simp only [List.filter_cons, List.filter_nil]
          split <;> rfl
      | cons slash rest =>
          have isSlash : slash = '/' := by
            have head :=
              List.head?_dropWhile_not (fun character => decide (character ≠ '/')) reversed
            rw [shape] at head
            simpa using head
          subst isSlash
          rw [shape] at parts
          -- the last component is a name: the trailing separators and dots are gone
          have named : last.reverse ≠ [] ∧ last.reverse ≠ ['.'] := by
            constructor
            · intro empty
              rw [List.reverse_eq_nil_iff.mp empty, List.nil_append] at parts
              cases rest with
              | nil => exact notRoot parts.symm
              | cons next others => exact notSlash next others parts.symm
            · intro dot
              have isDot : last = ['.'] := by simpa using congrArg List.reverse dot
              rw [isDot] at parts
              exact notDot rest parts.symm
          rw [← parts, List.reverse_append, List.reverse_cons, List.append_assoc,
            List.singleton_append, splitSlash_append, splitSlash_append,
            splitSlash_of_noSlash noSlash]
          simp [splitSlash, named]

theorem names_eq_nil_of_parent {path : String} (isRoot : parent path = none) : names path = [] := by
  have whole : (splitSlash (dropTrailing path.toList.reverse).reverse).filter
      (fun name => name ≠ [] ∧ name ≠ ['.']) = names path := by
    rw [names_dropTrailing, List.reverse_reverse, names]
  unfold parent at isRoot
  split at isRoot
  · next empty =>
      rw [← whole, empty]
      rfl
  · next root =>
      rw [← whole, root]
      rfl
  · cases isRoot

/-- The parent of an entry of a directory is that directory. -/
theorem names_parent_join {base name : String} (plain : Plain name) :
    ∃ above, parent (join base name) = some above ∧ names above = names base := by
  have joined : names (join base name) = _ := names_join_plain plain
  cases isParent : parent (join base name) with
  | none =>
      rw [names_eq_nil_of_parent isParent] at joined
      simp at joined
  | some above =>
      refine ⟨above, rfl, ?_⟩
      rw [names_parent isParent, joined, List.dropLast_concat]

/-! ## Normalised paths -/

/-- A name that can be an entry of a directory. -/
structure Entry (name : Name) : Prop where
  nonempty : name ≠ []
  notDot : name ≠ ['.']
  notDotDot : name ≠ ['.', '.']
  noSlash : '/' ∉ name

/-- The text of a normalised path. -/
def display (place : List Name) : String :=
  if place = [] then "/" else String.ofList (place.flatMap fun name => '/' :: name)

theorem noSlash_of_mem_splitSlash {characters : List Char} :
    ∀ name ∈ splitSlash characters, '/' ∉ name := by
  induction characters with
  | nil => simp [splitSlash]
  | cons character rest inductionHypothesis =>
      unfold splitSlash
      split
      · simpa using inductionHypothesis
      · next other =>
          cases shape : splitSlash rest with
          | nil => simpa using Ne.symm other
          | cons head tail =>
              rw [shape] at inductionHypothesis
              simpa [Ne.symm other] using inductionHypothesis

/-- Normalising leaves names of entries only. -/
theorem entry_of_mem_resolve {path : String} : ∀ name ∈ resolve path, Entry name := by
  have kept : ∀ components : List Name, components ⊆ names path → ∀ directory : List Name,
      (∀ name ∈ directory, Entry name) → ∀ name ∈ components.foldl enter directory, Entry name := by
    intro components
    induction components with
    | nil => exact fun _ _ entries => entries
    | cons component rest inductionHypothesis =>
        intro among directory entries
        rw [List.cons_subset] at among
        apply inductionHypothesis among.2
        obtain ⟨split, named⟩ := List.mem_filter.mp among.1
        unfold enter
        split
        · exact fun name member => entries name (List.dropLast_subset _ member)
        · next notDotDot =>
            intro name member
            rcases List.mem_append.mp member with old | new
            · exact entries name old
            · obtain rfl := List.mem_singleton.mp new
              have named : name ≠ [] ∧ name ≠ ['.'] := of_decide_eq_true named
              exact ⟨named.1, named.2, notDotDot, noSlash_of_mem_splitSlash name split⟩
  exact kept _ (List.Subset.refl _) [] nofun

theorem isAbsolute_display (place : List Name) : isAbsolute (display place) := by
  cases place with
  | nil => decide
  | cons name rest => simp [display, isAbsolute]

private theorem splitSlash_flatMap {place : List Name} (entries : ∀ name ∈ place, Entry name) :
    (splitSlash (place.flatMap fun name => '/' :: name)).filter
      (fun name => name ≠ [] ∧ name ≠ ['.']) = place := by
  induction place with
  | nil => simp [splitSlash]
  | cons name rest inductionHypothesis =>
      have entry := entries name List.mem_cons_self
      have others :=
        inductionHypothesis fun name member => entries name (List.mem_cons_of_mem _ member)
      cases rest with
      | nil => simp [splitSlash, splitSlash_of_noSlash entry.noSlash, entry.nonempty, entry.notDot]
      | cons next rest =>
          rw [List.flatMap_cons, List.cons_append, splitSlash, if_pos rfl]
          rw [List.flatMap_cons, List.cons_append, splitSlash, if_pos rfl] at others
          rw [List.flatMap_cons, List.cons_append, splitSlash_append,
            splitSlash_of_noSlash entry.noSlash]
          simpa [entry.nonempty, entry.notDot] using others

/-- A place is what its text names. -/
theorem resolve_display {place : List Name} (entries : ∀ name ∈ place, Entry name) :
    resolve (display place) = place := by
  have spelled : names (display place) = place := by
    unfold display
    split
    · next root =>
        rw [root]
        decide
    · rw [names, String.toList_ofList, splitSlash_flatMap entries]
  have direct : Direct (display place) := by
    intro upward
    rw [spelled] at upward
    exact (entries _ upward).notDotDot rfl
  rw [resolve_of_direct direct, spelled]

/-! ## Sorted paths -/

/-- A component of a path, in the order in which the kinds of components compare. -/
inductive Component where
  | rootDir
  | curDir
  | parentDir
  | normal (name : Name)
  deriving DecidableEq, Ord

/-- `Path::components`. -/
def components (path : String) : List Component :=
  (if isAbsolute path then [.rootDir]
    else if (splitSlash path.toList).head? = some ['.'] then [.curDir]
    else []) ++
  (names path).map fun name => if name = ['.', '.'] then .parentDir else .normal name

/-- Paths compare by their components. -/
def atMost (left right : String) : Bool := (compare (components left) (components right)).isLE

/-- `sort` and `dedup` of a vector of paths. -/
def sortDedup (paths : List String) : List String :=
  (paths.mergeSort atMost).eraseRepsBy fun left right => components left = components right

/-- The name that a component is joined under. -/
private def Component.name? : Component → Option Name
  | .parentDir => some ['.', '.']
  | .normal name => some name
  | _ => none

theorem isAbsolute_eq_of_components {left right : String}
    (same : components left = components right) : isAbsolute left = isAbsolute right := by
  have absolute : ∀ path, isAbsolute path = decide (Component.rootDir ∈ components path) := by
    intro path
    have named : Component.rootDir ∉ (names path).map fun name =>
        if name = ['.', '.'] then Component.parentDir else .normal name := by
      intro member
      obtain ⟨name, -, impossible⟩ := List.mem_map.mp member
      split at impossible <;> cases impossible
    unfold components
    split <;> simp_all
  rw [absolute, absolute, same]

theorem resolve_eq_of_components {left right : String}
    (same : components left = components right) : resolve left = resolve right := by
  have spelled : ∀ path, (components path).filterMap Component.name? = names path := by
    intro path
    have each : Component.name? ∘ (fun name : Name =>
        if name = ['.', '.'] then Component.parentDir else .normal name) = some := by
      funext name
      simp only [Function.comp_apply]
      split
      · next up => rw [up, Component.name?]
      · rfl
    rw [components, List.filterMap_append, List.filterMap_map, each, List.filterMap_some]
    split
    · rfl
    · split <;> rfl
  apply resolve_congr
  rw [← spelled, ← spelled, same]

private theorem exists_mem_eraseRepsBy_loop {Item : Type} {same : Item → Item → Bool}
    {holds : Item → Prop} (respects : ∀ left right, same left right → (holds left ↔ holds right))
    (item : Item) (items done : List Item) :
    (∃ found ∈ List.eraseRepsBy.loop same item items done, holds found) ↔
      (∃ found ∈ done, holds found) ∨ ∃ found ∈ item :: items, holds found := by
  induction items generalizing item done with
  | nil => simp [List.eraseRepsBy.loop, or_comm]
  | cons next rest inductionHypothesis =>
      rw [List.eraseRepsBy.loop]
      split
      · next repeated =>
          rw [inductionHypothesis]
          simp only [List.exists_mem_cons_iff, respects _ _ repeated, or_self_left]
      · rw [inductionHypothesis]
        simp only [List.exists_mem_cons_iff, or_assoc, or_left_comm]

/-- Sorting loses no path up to its spelling. -/
theorem exists_mem_sortDedup (holds : String → Prop)
    (respects : ∀ left right, components left = components right → (holds left ↔ holds right))
    (paths : List String) :
    (∃ path ∈ sortDedup paths, holds path) ↔ ∃ path ∈ paths, holds path := by
  have sorted := List.mergeSort_perm paths atMost
  rw [sortDedup]
  generalize List.mergeSort _ _ = arranged at sorted
  calc
    _ ↔ ∃ path ∈ arranged, holds path := by
      cases arranged with
      | nil => rfl
      | cons path rest =>
          rw [List.eraseRepsBy, exists_mem_eraseRepsBy_loop]
          · simp
          · exact fun left right same => respects left right (of_decide_eq_true same)
    _ ↔ _ := by simp only [sorted.mem_iff]

end Path

end Fungi.Lib
