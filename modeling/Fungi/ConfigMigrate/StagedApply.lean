import Mathlib.Data.List.Pairwise
import Mathlib.Data.List.Perm.Subperm
import Fungi.ConfigMigrate.Apply

/-!
# What applying leaves behind

A failing apply puts every path back, unless the failure strikes where the live version of a path
has been moved aside and the directory for its staged version is made again, or strikes the
rollback itself.
-/

namespace Fungi.ConfigMigrate

open Fungi.Lib Path

/-! ## The touched paths -/

/-- The directory the live versions are moved to. -/
def asideRoot (stagingRoot : String) : String := join stagingRoot applyRollbackDirName

/-- The staging directory is fresh, and of the touched paths and the directories none lies below
another. -/
structure Layout (files : FileSystem) (stagingRoot liveRoot : String) (paths : List String) :
    Prop where
  tree : files.IsTree
  stagingDirect : Direct stagingRoot
  liveDirect : Direct liveRoot
  staging : files (resolve stagingRoot) = some .directory
  fresh : files (resolve (asideRoot stagingRoot)) = none
  relative : ∀ path ∈ paths, isAbsolute path = false ∧ Direct path
  apart : paths.Pairwise fun left right => Apart (names left) (names right)
  notAside : ∀ path ∈ paths, Apart (names path) [applyRollbackDirName.toList]
  outside : ∀ path ∈ paths, Apart (resolve stagingRoot) (resolve (join liveRoot path))

theorem resolve_asideRoot (stagingRoot : String) :
    resolve (asideRoot stagingRoot) = resolve stagingRoot ++ [applyRollbackDirName.toList] :=
  Path.resolve_join_plain (by decide)

namespace Layout

variable {files : FileSystem} {stagingRoot liveRoot : String} {paths : List String}
  {path other : String}

theorem names_ne_nil (layout : Layout files stagingRoot liveRoot paths) (member : path ∈ paths) :
    names path ≠ [] := by
  intro empty
  have apart := (layout.notAside path member).1
  rw [empty] at apart
  exact apart List.nil_prefix

theorem resolve_join (layout : Layout files stagingRoot liveRoot paths) (member : path ∈ paths)
    (root : String) : resolve (join root path) = resolve root ++ names path :=
  have both := layout.relative path member
  Path.resolve_join both.1 both.2

theorem names_join (layout : Layout files stagingRoot liveRoot paths) (member : path ∈ paths)
    (root : String) : names (join root path) = names root ++ names path :=
  Path.names_join (layout.relative path member).1

theorem direct_join (layout : Layout files stagingRoot liveRoot paths) (member : path ∈ paths)
    {root : String} (direct : Direct root) : Direct (join root path) := by
  unfold Direct
  rw [layout.names_join member, List.mem_append, not_or]
  exact ⟨direct, (layout.relative path member).2⟩

theorem names_join_ne_nil (layout : Layout files stagingRoot liveRoot paths)
    (member : path ∈ paths) (root : String) : names (join root path) ≠ [] := by
  rw [layout.names_join member]
  simp [layout.names_ne_nil member]

theorem asideRoot_direct (layout : Layout files stagingRoot liveRoot paths) :
    Direct (asideRoot stagingRoot) :=
  Path.direct_join layout.stagingDirect (by decide)

end Layout

/-! ## Where a path is found -/

section Places

variable {files current next : FileSystem} {stagingRoot liveRoot : String}
  {paths done rest : List String} {path other : String}

/-- The versions of a path: live, staged and moved aside. -/
inductive Version where
  | live
  | staged
  | aside
  deriving DecidableEq

/-- The directory that a version of a path is found in. -/
def Version.root (stagingRoot liveRoot : String) : Version → String
  | .live => liveRoot
  | .staged => stagingRoot
  | .aside => asideRoot stagingRoot

/-- Where a version of a path is. -/
def place (stagingRoot liveRoot path : String) (version : Version) : List Name :=
  resolve (join (version.root stagingRoot liveRoot) path)

namespace Layout

/-- Different touched paths are apart. -/
theorem names_apart (layout : Layout files stagingRoot liveRoot paths) (member : path ∈ paths)
    (otherMember : other ∈ paths) (different : other ≠ path) :
    Apart (names other) (names path) := by
  have symmetric : Std.Symm fun left right => Apart (names left) (names right) :=
    ⟨fun _ _ => Apart.symm⟩
  exact layout.apart.forall otherMember member different

/-- The path that is next is apart from all others. -/
theorem apart_of_split (layout : Layout files stagingRoot liveRoot paths)
    (split : (done ++ path :: rest).Subperm paths) :
    path ∈ paths ∧ ∀ other ∈ done ++ rest, other ∈ paths ∧ Apart (names other) (names path) := by
  obtain ⟨listed, perm, sublist⟩ := List.perm_middle.symm.subperm.trans split
  have pairwise := (perm.pairwise_iff fun apart => Apart.symm apart).mp
    (layout.apart.sublist sublist)
  rw [List.pairwise_cons] at pairwise
  have among := fun other (member : other ∈ path :: (done ++ rest)) =>
    sublist.subset (perm.mem_iff.mpr member)
  refine ⟨among path List.mem_cons_self, ?_⟩
  intro other member
  exact ⟨among other (List.mem_cons_of_mem _ member), (pairwise.1 other member).symm⟩

theorem place_eq (layout : Layout files stagingRoot liveRoot paths) (member : path ∈ paths)
    (version : Version) : place stagingRoot liveRoot path version =
      resolve (version.root stagingRoot liveRoot) ++ names path :=
  layout.resolve_join member _

theorem staging_prefix (layout : Layout files stagingRoot liveRoot paths) (member : path ∈ paths)
    (version : Version) (notLive : version ≠ .live) :
    resolve stagingRoot <+: place stagingRoot liveRoot path version := by
  rw [layout.place_eq member]
  cases version with
  | live => exact absurd rfl notLive
  | staged => exact List.prefix_append _ _
  | aside =>
      show _ <+: resolve (asideRoot stagingRoot) ++ names path
      rw [resolve_asideRoot, List.append_assoc]
      exact List.prefix_append _ _

/-- The directory of the staged and the moved versions lies below none of them. -/
theorem not_prefix_staging (layout : Layout files stagingRoot liveRoot paths)
    (member : path ∈ paths) (version : Version) :
    ¬ place stagingRoot liveRoot path version <+: resolve stagingRoot := by
  by_cases live : version = .live
  · subst live
    exact (layout.outside path member).2
  · obtain ⟨suffix, same⟩ := layout.staging_prefix member version live
    intro below
    have shorter := below.length_le
    have named := List.length_pos_iff.mpr (layout.names_ne_nil member)
    rw [← same, List.length_append] at shorter
    have noSuffix : suffix = [] := List.eq_nil_of_length_eq_zero (by omega)
    rw [noSuffix, List.append_nil, layout.place_eq member] at same
    have longer := congrArg List.length same
    cases version with
    | live => exact live rfl
    | staged =>
        simp only [Version.root, List.length_append] at longer
        omega
    | aside =>
        simp only [Version.root, resolve_asideRoot, List.length_append] at longer
        omega

/-- Versions of different paths, and different versions of any paths, are apart. -/
theorem place_apart (layout : Layout files stagingRoot liveRoot paths) (member : path ∈ paths)
    (otherMember : other ∈ paths) {version otherVersion : Version}
    (different : version ≠ otherVersion ∨ Apart (names path) (names other)) :
    Apart (place stagingRoot liveRoot path version)
      (place stagingRoot liveRoot other otherVersion) := by
  have liveOutside : ∀ {path other}, path ∈ paths → other ∈ paths → ∀ {version : Version},
      version ≠ .live →
        Apart (place stagingRoot liveRoot path .live)
          (place stagingRoot liveRoot other version) := by
    intro path other member otherMember version notLive
    have below := layout.staging_prefix otherMember version notLive
    obtain ⟨suffix, same⟩ := below
    have outside := (layout.outside path member).symm.append [] suffix
    rw [List.append_nil, same] at outside
    exact outside
  have stagedAside : ∀ {path other}, path ∈ paths → other ∈ paths →
      Apart (place stagingRoot liveRoot path .staged)
        (place stagingRoot liveRoot other .aside) := by
    intro path other member otherMember
    rw [layout.place_eq member, layout.place_eq otherMember]
    show Apart (resolve stagingRoot ++ _) (resolve (asideRoot stagingRoot) ++ _)
    rw [resolve_asideRoot, List.append_assoc, apart_append_iff]
    simpa using (layout.notAside path member).append [] (names other)
  by_cases same : version = otherVersion
  · subst same
    have namesApart := different.resolve_left fun other => other rfl
    rw [layout.place_eq member, layout.place_eq otherMember, apart_append_iff]
    exact namesApart
  · cases version with
    | live => exact liveOutside member otherMember (Ne.symm same)
    | staged =>
        cases otherVersion with
        | live => exact (liveOutside otherMember member same).symm
        | staged => exact absurd rfl same
        | aside => exact stagedAside member otherMember
    | aside =>
        cases otherVersion with
        | live => exact (liveOutside otherMember member same).symm
        | staged => exact (stagedAside otherMember member).symm
        | aside => exact absurd rfl same

/-- Moving one version to another leaves the third alone. -/
theorem subtree_moved (layout : Layout files stagingRoot liveRoot paths) (member : path ∈ paths)
    {source target own : Version} (notSource : source ≠ own) (notTarget : target ≠ own) :
    (current.moved (place stagingRoot liveRoot path source)
        (place stagingRoot liveRoot path target)).subtree (place stagingRoot liveRoot path own) =
      current.subtree (place stagingRoot liveRoot path own) :=
  FileSystem.subtree_moved_apart (layout.place_apart member member (Or.inl notSource))
    (layout.place_apart member member (Or.inl notTarget))

end Layout

/-! ## What a step for one path touches -/

/-- Outside the versions of the path, only directories above them are made. -/
def Touches (stagingRoot liveRoot path : String) (current next : FileSystem) : Prop :=
  ∀ spot, (∀ version, ¬ place stagingRoot liveRoot path version <+: spot) →
    next spot = current spot ∨ current spot = none ∧ next spot = some .directory ∧
      ∃ version, spot <+: (place stagingRoot liveRoot path version).dropLast

theorem Touches.refl (files : FileSystem) : Touches stagingRoot liveRoot path files files :=
  fun _ _ => Or.inl rfl

theorem Touches.trans {last : FileSystem} (first : Touches stagingRoot liveRoot path current next)
    (second : Touches stagingRoot liveRoot path next last) :
    Touches stagingRoot liveRoot path current last := by
  intro spot outside
  rcases second spot outside with same | ⟨wasNone, isDirectory, isAbove⟩
  · rw [same]
    exact first spot outside
  · rcases first spot outside with unchanged | ⟨_, made, _⟩
    · exact Or.inr ⟨unchanged ▸ wasNone, isDirectory, isAbove⟩
    · rw [wasNone] at made
      cases made

theorem touches_makeDirs {directories : List (List Name)} {version : Version}
    (isAbove : ∀ directory ∈ directories,
      directory <+: (place stagingRoot liveRoot path version).dropLast) :
    Touches stagingRoot liveRoot path files (files.makeDirs directories) := by
  intro spot _
  rcases @FileSystem.makeDirs_cases files spot directories with same | ⟨member, absent, made⟩
  · exact Or.inl same
  · exact Or.inr ⟨absent, made, version, isAbove spot member⟩

theorem touches_moved (files : FileSystem) (source target : Version) :
    Touches stagingRoot liveRoot path files
      (files.moved (place stagingRoot liveRoot path source)
        (place stagingRoot liveRoot path target)) :=
  fun _ outside => Or.inl (FileSystem.moved_apply_outside (outside source) (outside target))

theorem touches_of_frame
    (frame : ∀ spot, ¬ place stagingRoot liveRoot path .live <+: spot → next spot = files spot) :
    Touches stagingRoot liveRoot path files next :=
  fun spot outside => Or.inl (frame spot (outside .live))

/-- A directory above a place does not lie below what is apart from the place. -/
theorem not_prefix_dropLast {spot directory left : List Name} (apart : Apart left spot)
    (isAbove : directory <+: spot.dropLast) : ¬ left <+: directory :=
  fun below => apart.1 ((below.trans isAbove).trans (List.dropLast_prefix spot))

/-- The other paths do not notice. -/
theorem Touches.subtree (layout : Layout files stagingRoot liveRoot paths) (member : path ∈ paths)
    (touches : Touches stagingRoot liveRoot path current next) (otherMember : other ∈ paths)
    (apart : Apart (names other) (names path)) (version : Version) :
    next.subtree (place stagingRoot liveRoot other version) =
      current.subtree (place stagingRoot liveRoot other version) := by
  have away : ∀ mine, Apart (place stagingRoot liveRoot other version)
      (place stagingRoot liveRoot path mine) :=
    fun mine => layout.place_apart otherMember member (Or.inr apart)
  funext below
  rcases touches (place stagingRoot liveRoot other version ++ below)
    (fun mine => (away mine).symm.not_prefix_append below) with same | ⟨_, _, mine, isAbove⟩
  · exact same
  · exact absurd (List.prefix_append _ below) (not_prefix_dropLast (away mine) isAbove)

theorem EnsuresParent.touches {fault : Option Fault} {version : Version}
    {outcome : Except Error Unit}
    (ensures : EnsuresParent fault current (place stagingRoot liveRoot path version) outcome next) :
    Touches stagingRoot liveRoot path current next := by
  obtain ⟨directories, rfl, isAbove⟩ := ensures.made
  exact touches_makeDirs isAbove

theorem Layout.ensuresParent (layout : Layout files stagingRoot liveRoot paths)
    (member : path ∈ paths) (version : Version) (fault : Option Fault) (current : FileSystem) :
    ∃ outcome next,
      ensureParentDir fault (join (version.root stagingRoot liveRoot) path) current =
          (outcome, next) ∧
        EnsuresParent fault current (place stagingRoot liveRoot path version) outcome next := by
  refine ⟨_, _, rfl, ensureParentDir_spec ?_ (layout.names_join_ne_nil member _) fault⟩
  apply layout.direct_join member
  cases version with
  | live => exact layout.liveDirect
  | staged => exact layout.stagingDirect
  | aside => exact layout.asideRoot_direct

/-- Making directories above a version changes no version of the path. -/
theorem EnsuresParent.subtree (layout : Layout files stagingRoot liveRoot paths)
    (member : path ∈ paths) {fault : Option Fault} {version : Version}
    {outcome : Except Error Unit}
    (ensures : EnsuresParent fault current (place stagingRoot liveRoot path version) outcome next)
    (own : Version) : next.subtree (place stagingRoot liveRoot path own) =
      current.subtree (place stagingRoot liveRoot path own) := by
  obtain ⟨directories, rfl, isAbove⟩ := ensures.made
  apply FileSystem.subtree_makeDirs
  intro directory isMade
  by_cases same : own = version
  · subst same
    intro below
    have shorter := (below.trans (isAbove directory isMade)).length_le
    have named := List.length_pos_iff.mpr (layout.names_ne_nil member)
    rw [List.length_dropLast, layout.place_eq member, List.length_append] at shorter
    omega
  · exact not_prefix_dropLast (layout.place_apart member member (Or.inl same))
      (isAbove directory isMade)

/-- A version that is there is moved to where nothing is. -/
theorem Layout.renamePath_of_free (layout : Layout files stagingRoot liveRoot paths)
    (member : path ∈ paths) (source target : Version) (different : source ≠ target)
    (present : current (place stagingRoot liveRoot path source) ≠ none)
    (free : current.subtree (place stagingRoot liveRoot path target) = fun _ => none)
    (parent : current (place stagingRoot liveRoot path target).dropLast = some .directory)
    (failure : Error) :
    renamePath none failure (join (source.root stagingRoot liveRoot) path)
        (join (target.root stagingRoot liveRoot) path) current =
      (.ok (), current.moved (place stagingRoot liveRoot path source)
        (place stagingRoot liveRoot path target)) := by
  apply ConfigMigrate.renamePath_of_free failure present
  · exact FileSystem.apply_eq_none_of_subtree free
  · exact parent
  · exact layout.place_apart member member (Or.inl different)

/-- What is found around the touched paths: outside the staging directory what was there and
directories made for the paths, and in the directory for the live versions only directories. -/
structure Surroundings (files : FileSystem) (stagingRoot liveRoot : String) (paths : List String)
    (current : FileSystem) : Prop where
  outside : ∀ spot, ¬ resolve stagingRoot <+: spot →
    (∀ path ∈ paths, ¬ place stagingRoot liveRoot path .live <+: spot) →
      current spot = files spot ∨ files spot = none ∧ current spot = some .directory ∧
        ∃ path ∈ paths, spot <+: (place stagingRoot liveRoot path .live).dropLast
  aside : ∀ spot, resolve (asideRoot stagingRoot) <+: spot →
    (∀ path ∈ paths, ¬ place stagingRoot liveRoot path .aside <+: spot) →
      current spot = none ∨ current spot = some .directory
  staging : current (resolve stagingRoot) = some .directory

theorem Surroundings.touch (layout : Layout files stagingRoot liveRoot paths)
    (surroundings : Surroundings files stagingRoot liveRoot paths current) (member : path ∈ paths)
    (touches : Touches stagingRoot liveRoot path current next) :
    Surroundings files stagingRoot liveRoot paths next where
  outside spot notStaging notLive := by
    have apartFromAll : ∀ version, ¬ place stagingRoot liveRoot path version <+: spot := by
      intro version below
      cases version with
      | live => exact notLive path member below
      | staged => exact notStaging ((layout.staging_prefix member .staged nofun).trans below)
      | aside => exact notStaging ((layout.staging_prefix member .aside nofun).trans below)
    rcases touches spot apartFromAll with same | ⟨wasNone, isDirectory, version, isAbove⟩
    · rw [same]
      exact surroundings.outside spot notStaging notLive
    · rcases surroundings.outside spot notStaging notLive with before | ⟨_, made, _⟩
      · have wasNoneFirst : files spot = none := before ▸ wasNone
        refine Or.inr ⟨wasNoneFirst, isDirectory, path, member, ?_⟩
        by_cases live : version = .live
        · exact live ▸ isAbove
        · -- above the staging directory every directory is there already
          have onWay := isAbove.trans (List.dropLast_prefix _)
          have above : spot <+: resolve stagingRoot :=
            (List.prefix_or_prefix_of_prefix onWay
              (layout.staging_prefix member version live)).resolve_right notStaging
          have present : files (resolve stagingRoot) ≠ none := by simp [layout.staging]
          have directory := layout.tree.directory_of_prefix present above
            fun same => notStaging (same ▸ List.prefix_refl _)
          rw [wasNoneFirst] at directory
          cases directory
      · rw [wasNone] at made
        cases made
  aside spot inAside notAside := by
    have apartFromAll : ∀ version, ¬ place stagingRoot liveRoot path version <+: spot := by
      obtain ⟨suffix, rfl⟩ := inAside
      intro version
      cases version with
      | live =>
          rw [resolve_asideRoot, List.append_assoc]
          exact (layout.outside path member).symm.not_prefix_append _
      | staged =>
          rw [layout.place_eq member, resolve_asideRoot, List.append_assoc]
          show ¬ resolve stagingRoot ++ _ <+: _
          rw [List.prefix_append_right_inj]
          exact (layout.notAside path member).not_prefix_append suffix
      | aside => exact notAside path member
    rcases touches spot apartFromAll with same | ⟨_, isDirectory, _⟩
    · rw [same]
      exact surroundings.aside spot inAside notAside
    · exact Or.inr isDirectory
  staging := by
    rcases touches _ (layout.not_prefix_staging member) with same | ⟨wasNone, _⟩
    · rw [same, surroundings.staging]
    · rw [surroundings.staging] at wasNone
      cases wasNone

/-- No file is in the way of the live version now that was not there before. -/
theorem Surroundings.free_live_iff (layout : Layout files stagingRoot liveRoot paths)
    (surroundings : Surroundings files stagingRoot liveRoot paths current)
    (member : path ∈ paths) :
    Free current (place stagingRoot liveRoot path .live).dropLast ↔
      Free files (place stagingRoot liveRoot path .live).dropLast := by
  apply forall₂_congr
  intro above isAbove
  have onWay := isAbove.trans (List.dropLast_prefix _)
  have notStaging : ¬ resolve stagingRoot <+: above :=
    fun below => (layout.outside path member).1 (below.trans onWay)
  have notLive : ∀ other ∈ paths, ¬ place stagingRoot liveRoot other .live <+: above := by
    intro other otherMember below
    by_cases same : other = path
    · subst same
      have shorter := (below.trans isAbove).length_le
      have named := List.length_pos_iff.mpr (layout.names_ne_nil member)
      rw [List.length_dropLast, layout.place_eq member, List.length_append] at shorter
      omega
    · exact (layout.place_apart otherMember member
        (Or.inr (layout.names_apart member otherMember same))).1 (below.trans onWay)
  rcases surroundings.outside above notStaging notLive with same | ⟨wasNone, isDirectory, _⟩
  · rw [same]
  · simp [wasNone, isDirectory]

/-- Nothing is in the way of a directory for the live version that is moved aside. -/
theorem Surroundings.free_aside (layout : Layout files stagingRoot liveRoot paths)
    (surroundings : Surroundings files stagingRoot liveRoot paths current)
    (member : path ∈ paths) :
    Free current (place stagingRoot liveRoot path .aside).dropLast := by
  intro above isAbove
  have onWay := isAbove.trans (List.dropLast_prefix _)
  have inAside : ∀ {spot}, resolve (asideRoot stagingRoot) <+: spot →
      spot <+: (place stagingRoot liveRoot path .aside).dropLast →
        current spot = none ∨ current spot = some .directory := by
    intro spot below spotAbove
    apply surroundings.aside spot below
    intro other otherMember under
    by_cases same : other = path
    · subst same
      have shorter := (under.trans spotAbove).length_le
      have named := List.length_pos_iff.mpr (layout.names_ne_nil member)
      rw [List.length_dropLast, layout.place_eq member, List.length_append] at shorter
      omega
    · exact (layout.place_apart otherMember member
        (Or.inr (layout.names_apart member otherMember same))).1
          ((under.trans spotAbove).trans (List.dropLast_prefix _))
  have asidePlace := layout.place_eq member .aside
  have comparable := List.prefix_or_prefix_of_prefix
    (asidePlace ▸ List.prefix_append (resolve (asideRoot stagingRoot)) (names path)) onWay
  rcases comparable with below | onto
  · exact inAside below isAbove
  · rw [resolve_asideRoot, List.prefix_concat_iff] at onto
    rcases onto with same | under
    · apply inAside _ isAbove
      rw [same, resolve_asideRoot]
    · by_cases isStaging : above = resolve stagingRoot
      · exact Or.inr (isStaging ▸ surroundings.staging)
      · have present : files (resolve stagingRoot) ≠ none := by simp [layout.staging]
        have directory := layout.tree.directory_of_prefix present under isStaging
        have notStaging : ¬ resolve stagingRoot <+: above :=
          fun below => isStaging (under.eq_of_length_le below.length_le)
        have notLive : ∀ other ∈ paths, ¬ place stagingRoot liveRoot other .live <+: above :=
          fun other otherMember below => layout.not_prefix_staging otherMember .live
            (below.trans under)
        rcases surroundings.outside above notStaging notLive with unchanged | ⟨wasNone, _⟩
        · exact Or.inr (unchanged.trans directory)
        · rw [directory] at wasNone
          cases wasNone

/-! ## How far the paths have come -/

/-- A path that is done has its staged version, and its live version lies aside; a path that is
kept is as it was. -/
structure Standing (files : FileSystem) (stagingRoot liveRoot : String)
    (paths done kept : List String) (current : FileSystem) : Prop where
  surroundings : Surroundings files stagingRoot liveRoot paths current
  done : ∀ path ∈ done,
    current.subtree (place stagingRoot liveRoot path .live) =
        files.subtree (place stagingRoot liveRoot path .staged) ∧
      current.subtree (place stagingRoot liveRoot path .aside) =
        files.subtree (place stagingRoot liveRoot path .live)
  kept : ∀ path ∈ kept, current.subtree (place stagingRoot liveRoot path .live) =
    files.subtree (place stagingRoot liveRoot path .live)

/-- The staged version of each path is there, and nothing is where its live version goes. -/
def Waiting (files : FileSystem) (stagingRoot liveRoot : String) (rest : List String)
    (current : FileSystem) : Prop :=
  ∀ path ∈ rest,
    current.subtree (place stagingRoot liveRoot path .staged) =
        files.subtree (place stagingRoot liveRoot path .staged) ∧
      current.subtree (place stagingRoot liveRoot path .aside) = fun _ => none

/-- The live version of the path, if there was one, lies aside. -/
structure Aside (files : FileSystem) (stagingRoot liveRoot path : String)
    (paths done rest : List String) (current : FileSystem) : Prop where
  standing : Standing files stagingRoot liveRoot paths done rest current
  waiting : Waiting files stagingRoot liveRoot rest current
  live : current.subtree (place stagingRoot liveRoot path .live) = fun _ => none
  staged : current.subtree (place stagingRoot liveRoot path .staged) =
    files.subtree (place stagingRoot liveRoot path .staged)
  aside : current.subtree (place stagingRoot liveRoot path .aside) =
    files.subtree (place stagingRoot liveRoot path .live)

section Steps

variable (layout : Layout files stagingRoot liveRoot paths)
  (split : (done ++ path :: rest).Subperm paths)

include layout split

theorem Standing.touch (standing : Standing files stagingRoot liveRoot paths done rest current)
    (touches : Touches stagingRoot liveRoot path current next) :
    Standing files stagingRoot liveRoot paths done rest next := by
  obtain ⟨member, others⟩ := layout.apart_of_split split
  have unchanged : ∀ other ∈ done ++ rest, ∀ version,
      next.subtree (place stagingRoot liveRoot other version) =
        current.subtree (place stagingRoot liveRoot other version) := by
    intro other isOther version
    have both := others other isOther
    exact touches.subtree layout member both.1 both.2 version
  refine ⟨standing.surroundings.touch layout member touches, ?_, ?_⟩
  · intro other isDone
    rw [unchanged other (List.mem_append_left _ isDone),
      unchanged other (List.mem_append_left _ isDone)]
    exact standing.done other isDone
  · intro other isKept
    rw [unchanged other (List.mem_append_right _ isKept)]
    exact standing.kept other isKept

theorem Waiting.touch (waiting : Waiting files stagingRoot liveRoot rest current)
    (touches : Touches stagingRoot liveRoot path current next) :
    Waiting files stagingRoot liveRoot rest next := by
  obtain ⟨member, others⟩ := layout.apart_of_split split
  intro other isWaiting
  have both := others other (List.mem_append_right _ isWaiting)
  rw [touches.subtree layout member both.1 both.2, touches.subtree layout member both.1 both.2]
  exact waiting other isWaiting

omit layout split in
theorem Standing.mono {fewer : List String}
    (standing : Standing files stagingRoot liveRoot paths done rest current)
    (among : fewer ⊆ rest) : Standing files stagingRoot liveRoot paths done fewer current :=
  ⟨standing.surroundings, standing.done, fun path member => standing.kept path (among member)⟩

omit split in
/-- A path without a live version need not be moved aside. -/
theorem aside_of_absent
    (standing : Standing files stagingRoot liveRoot paths done (path :: rest) current)
    (waiting : Waiting files stagingRoot liveRoot (path :: rest) current)
    (absent : files (place stagingRoot liveRoot path .live) = none) :
    Aside files stagingRoot liveRoot path paths done rest current := by
  have nothing := FileSystem.subtree_eq_none layout.tree absent
  have own := waiting path List.mem_cons_self
  refine ⟨standing.mono (List.subset_cons_self _ _), ?_, ?_, own.1, ?_⟩
  · exact fun other member => waiting other (List.mem_cons_of_mem _ member)
  · rw [standing.kept path List.mem_cons_self, nothing]
  · rw [own.2, nothing]

omit split in
/-- A path that was not there live is as it was, whatever directories have been made. -/
theorem Aside.kept_of_absent (aside : Aside files stagingRoot liveRoot path paths done rest current)
    (absent : files (place stagingRoot liveRoot path .live) = none) :
    Standing files stagingRoot liveRoot paths done (path :: rest) current := by
  refine ⟨aside.standing.surroundings, aside.standing.done, ?_⟩
  intro other member
  rcases List.mem_cons.mp member with rfl | isKept
  · rw [aside.live, FileSystem.subtree_eq_none layout.tree absent]
  · exact aside.standing.kept other isKept

theorem moveAside_spec (faults : Faults)
    (standing : Standing files stagingRoot liveRoot paths done (path :: rest) current)
    (waiting : Waiting files stagingRoot liveRoot (path :: rest) current)
    (present : files (place stagingRoot liveRoot path .live) ≠ none) :
    if faults (.createRollbackParent path) = none ∧ faults (.moveLiveAside path) = none then
      ∃ next, moveAside faults liveRoot (asideRoot stagingRoot) path current = (.ok (), next) ∧
        Aside files stagingRoot liveRoot path paths done rest next
    else
      ∃ error next,
        moveAside faults liveRoot (asideRoot stagingRoot) path current = (.error error, next) ∧
          Standing files stagingRoot liveRoot paths done (path :: rest) next := by
  obtain ⟨member, others⟩ := layout.apart_of_split split
  obtain ⟨outcome, middle, ensured, ensures⟩ := layout.ensuresParent member .aside
    (faults (.createRollbackParent path)) current
  have own := ensures.subtree layout member
  -- the directories made so far leave all paths as they were
  have stood : Standing files stagingRoot liveRoot paths done (path :: rest) middle := by
    have others := (standing.mono (List.subset_cons_self path rest)).touch layout split
      ensures.touches
    refine ⟨others.surroundings, others.done, ?_⟩
    intro other isKept
    rcases List.mem_cons.mp isKept with rfl | isOther
    · rw [own .live]
      exact standing.kept other List.mem_cons_self
    · exact others.kept other isOther
  by_cases noFault : faults (.createRollbackParent path) = none
  · obtain rfl := ensures.ok_iff.mpr ⟨noFault, standing.surroundings.free_aside layout member⟩
    have ran : moveAside faults liveRoot (asideRoot stagingRoot) path current =
        renamePath (faults (.moveLiveAside path)) _ (join liveRoot path)
          (join (asideRoot stagingRoot) path) middle := Program.bind_of_ok ensured _
    cases moveFault : faults (.moveLiveAside path) with
    | some fault =>
        rw [if_neg (by simp)]
        rw [moveFault] at ran
        exact ⟨_, middle, ran, stood⟩
    | none =>
        rw [if_pos ⟨noFault, rfl⟩]
        rw [moveFault] at ran
        have live := (own .live).trans (standing.kept path List.mem_cons_self)
        have renamed := layout.renamePath_of_free member .live .aside nofun
          (FileSystem.apply_eq_of_subtree live ▸ present)
          ((own .aside).trans (waiting path List.mem_cons_self).2) (ensures.directory rfl)
        have touches := ensures.touches.trans (touches_moved middle .live .aside)
        refine ⟨_, ran.trans (renamed _), ?_, ?_, ?_, ?_, ?_⟩
        · exact (standing.mono (List.subset_cons_self path rest)).touch layout split touches
        · exact Waiting.touch layout split
            (fun other isOther => waiting other (List.mem_cons_of_mem _ isOther)) touches
        · exact FileSystem.subtree_moved_source
            (layout.place_apart member member (Or.inl nofun))
        · rw [layout.subtree_moved member (by decide) (by decide), own .staged]
          exact (waiting path List.mem_cons_self).1
        · exact FileSystem.subtree_moved_target.trans live
  · rw [if_neg (fun both => noFault both.1)]
    cases outcome with
    | ok done => exact absurd (ensures.ok_iff.mp rfl).1 noFault
    | error error =>
        exact ⟨error, middle, (Program.bind_eq_error _).mpr (Or.inl ensured), stood⟩

/-- Making directories leaves the path where it is. -/
theorem Aside.ensures (aside : Aside files stagingRoot liveRoot path paths done rest current)
    {fault : Option Fault} {version : Version} {outcome : Except Error Unit}
    (ensures : EnsuresParent fault current (place stagingRoot liveRoot path version) outcome next) :
    Aside files stagingRoot liveRoot path paths done rest next := by
  have own := ensures.subtree layout (layout.apart_of_split split).1
  refine ⟨aside.standing.touch layout split ensures.touches,
    aside.waiting.touch layout split ensures.touches, ?_, ?_, ?_⟩
  · rw [own .live, aside.live]
  · rw [own .staged, aside.staged]
  · rw [own .aside, aside.aside]

/-- Without its parent directory nothing is moved back. -/
theorem moveIntoPlace_of_noParent (faults : Faults) (movedLiveToRollback : Bool)
    (aside : Aside files stagingRoot liveRoot path paths done rest current)
    (noParent : ¬ (faults (.createLiveParent path) = none ∧
      Free files (place stagingRoot liveRoot path .live).dropLast)) :
    ∃ error next,
      moveIntoPlace faults stagingRoot liveRoot (asideRoot stagingRoot) path movedLiveToRollback
          current = (.error error, next) ∧
        Aside files stagingRoot liveRoot path paths done rest next := by
  have member := (layout.apart_of_split split).1
  obtain ⟨outcome, middle, ensured, ensures⟩ := layout.ensuresParent member .live
    (faults (.createLiveParent path)) current
  rw [← aside.standing.surroundings.free_live_iff layout member] at noParent
  cases outcome with
  | ok value => exact absurd (ensures.ok_iff.mp rfl) noParent
  | error error =>
      exact ⟨error, middle, (Program.bind_eq_error _).mpr (Or.inl ensured),
        aside.ensures layout split ensures⟩

omit layout split in
/-- Once the parent directory is there, the rename decides. -/
theorem moveIntoPlace_apply {faults : Faults} (stagingRoot rollbackRoot : String) (moved : Bool)
    (ensured : ensureParentDir (faults (.createLiveParent path)) (join liveRoot path) current =
      (.ok (), next)) :
    moveIntoPlace faults stagingRoot liveRoot rollbackRoot path moved current =
      match renamePath (faults (.moveStagedIntoPlace path))
        s!"Failed to move staged path into place during migration finalize: {join liveRoot path}"
        (join stagingRoot path) (join liveRoot path) next with
      | (.ok (), last) => (.ok (), last)
      | (.error error, last) =>
          (.error error,
            if moved then (renamePath none "" (join rollbackRoot path) (join liveRoot path) last).2
            else last) := by
  refine (Program.bind_of_ok ensured _).trans ?_
  rw [Program.bind_apply, Program.attempt_apply]
  cases renamePath (faults (.moveStagedIntoPlace path)) _ (join stagingRoot path)
      (join liveRoot path) next with
  | mk outcome last =>
      cases outcome with
      | ok value => rfl
      | error error =>
          cases moved with
          | true => rfl
          | false => rfl

/-- With its parent directory the staged version is moved into place, or the live version back. -/
theorem moveIntoPlace_of_parent (faults : Faults) {movedLiveToRollback : Bool}
    (aside : Aside files stagingRoot liveRoot path paths done rest current)
    (staged : files (place stagingRoot liveRoot path .staged) ≠ none)
    (live : movedLiveToRollback = true ↔ files (place stagingRoot liveRoot path .live) ≠ none)
    (noFault : faults (.createLiveParent path) = none)
    (free : Free files (place stagingRoot liveRoot path .live).dropLast) :
    if faults (.moveStagedIntoPlace path) = none then
      ∃ next,
        moveIntoPlace faults stagingRoot liveRoot (asideRoot stagingRoot) path movedLiveToRollback
            current = (.ok (), next) ∧
          Standing files stagingRoot liveRoot paths (path :: done) rest next ∧
            Waiting files stagingRoot liveRoot rest next
    else
      ∃ error next,
        moveIntoPlace faults stagingRoot liveRoot (asideRoot stagingRoot) path movedLiveToRollback
            current = (.error error, next) ∧
          Standing files stagingRoot liveRoot paths done (path :: rest) next := by
  have member := (layout.apart_of_split split).1
  obtain ⟨outcome, middle, ensured, ensures⟩ := layout.ensuresParent member .live
    (faults (.createLiveParent path)) current
  obtain rfl := ensures.ok_iff.mpr
    ⟨noFault, (aside.standing.surroundings.free_live_iff layout member).mpr free⟩
  have asideNow := aside.ensures layout split ensures
  have parent := ensures.directory rfl
  have ran := moveIntoPlace_apply stagingRoot (asideRoot stagingRoot) movedLiveToRollback ensured
  simp only [Version.root] at ran
  cases moveFault : faults (.moveStagedIntoPlace path) with
  | none =>
      rw [if_pos rfl]
      have renamed := layout.renamePath_of_free member .staged .live (by decide)
        (FileSystem.apply_eq_of_subtree asideNow.staged ▸ staged) asideNow.live parent
      simp only [Version.root] at renamed
      have touches : Touches stagingRoot liveRoot path middle _ :=
        touches_moved middle .staged .live
      have standing := asideNow.standing.touch layout split touches
      rw [moveFault, renamed] at ran
      refine ⟨_, ran, ⟨standing.surroundings, ?_, standing.kept⟩,
        asideNow.waiting.touch layout split touches⟩
      · intro other isDone
        rcases List.mem_cons.mp isDone with rfl | isOther
        · rw [FileSystem.subtree_moved_target, asideNow.staged,
            layout.subtree_moved member (by decide) (by decide), asideNow.aside]
          exact ⟨rfl, rfl⟩
        · exact standing.done other isOther
  | some fault =>
      rw [if_neg (by simp)]
      rw [moveFault, renamePath_of_fault] at ran
      cases moved : movedLiveToRollback with
      | false =>
          have absent : files (place stagingRoot liveRoot path .live) = none := by
            simpa [moved] using live
          rw [moved] at ran
          exact ⟨_, middle, ran, asideNow.kept_of_absent layout absent⟩
      | true =>
          have present := live.mp moved
          have renamed := layout.renamePath_of_free member .aside .live (by decide)
            (FileSystem.apply_eq_of_subtree asideNow.aside ▸ present) asideNow.live parent
          simp only [Version.root] at renamed
          have touches : Touches stagingRoot liveRoot path middle _ :=
            touches_moved middle .aside .live
          have standing := asideNow.standing.touch layout split touches
          rw [moved] at ran
          simp only [renamed, if_true] at ran
          refine ⟨_, _, ran, standing.surroundings, standing.done, ?_⟩
          intro other isKept
          rcases List.mem_cons.mp isKept with rfl | isOther
          · rw [FileSystem.subtree_moved_target, asideNow.aside]
          · exact standing.kept other isOther

end Steps

/-! ## One path -/

/-- One of the steps for the path fails. -/
def Fails (files : FileSystem) (faults : Faults) (stagingRoot liveRoot path : String) : Prop :=
  files (place stagingRoot liveRoot path .live) ≠ none ∧
      (faults (.createRollbackParent path) ≠ none ∨ faults (.moveLiveAside path) ≠ none) ∨
    files (place stagingRoot liveRoot path .staged) ≠ none ∧
      (faults (.createLiveParent path) ≠ none ∨
        ¬ Free files (place stagingRoot liveRoot path .live).dropLast ∨
          faults (.moveStagedIntoPlace path) ≠ none)

/-- The step that fails for the path is the making of the live parent directory, with the live
version moved aside. -/
def LosesLive (files : FileSystem) (faults : Faults) (stagingRoot liveRoot path : String) : Prop :=
  files (place stagingRoot liveRoot path .live) ≠ none ∧
    files (place stagingRoot liveRoot path .staged) ≠ none ∧
      faults (.createRollbackParent path) = none ∧ faults (.moveLiveAside path) = none ∧
        faults (.createLiveParent path) ≠ none

instance (files : FileSystem) (faults : Faults) (stagingRoot liveRoot path : String) :
    Decidable (Fails files faults stagingRoot liveRoot path) :=
  inferInstanceAs (Decidable (_ ∧ _ ∨ _ ∧ _))

instance (files : FileSystem) (faults : Faults) (stagingRoot liveRoot path : String) :
    Decidable (LosesLive files faults stagingRoot liveRoot path) :=
  inferInstanceAs (Decidable (_ ∧ _ ∧ _ ∧ _ ∧ _))

/-- What is recorded of a path that is applied. -/
def appliedPath (files : FileSystem) (stagingRoot liveRoot path : String) : AppliedPath :=
  { relativePath := path
    movedLiveToRollback := files.pathExists (join liveRoot path)
    movedStagedToLive := files.pathExists (join stagingRoot path) }

/-- The path is moved aside if it is there, and then replaced if it is staged. -/
theorem applyOneStagedPath_apply (faults : Faults) (stagingRoot liveRoot rollbackRoot path : String)
    (current : FileSystem) :
    applyOneStagedPath faults stagingRoot liveRoot rollbackRoot path current =
      match (if current.pathExists (join liveRoot path) then
          moveAside faults liveRoot rollbackRoot path current else (.ok (), current)) with
      | (.error error, next) => (.error error, next)
      | (.ok (), next) =>
          match (if current.pathExists (join stagingRoot path) then
              moveIntoPlace faults stagingRoot liveRoot rollbackRoot path
                (current.pathExists (join liveRoot path)) next else (.ok (), next)) with
          | (.error error, next) => (.error error, next)
          | (.ok (), next) => (.ok (appliedPath current stagingRoot liveRoot path), next) := by
  unfold applyOneStagedPath appliedPath
  simp only [Program.bind_apply, Program.gets_apply, Program.when]
  cases current.pathExists (join liveRoot path) with
  | false =>
      cases current.pathExists (join stagingRoot path) with
      | false => rfl
      | true =>
          simp only [if_true, Bool.false_eq_true, if_false, Program.pure_apply]
          rcases moveIntoPlace faults stagingRoot liveRoot rollbackRoot path false current with
            ⟨_ | _, _⟩ <;> rfl
  | true =>
      simp only [if_true]
      rcases moveAside faults liveRoot rollbackRoot path current with ⟨_ | _, next⟩
      · rfl
      · cases current.pathExists (join stagingRoot path) with
        | false => rfl
        | true =>
            simp only [if_true]
            rcases moveIntoPlace faults stagingRoot liveRoot rollbackRoot path true next with
              ⟨_ | _, _⟩ <;> rfl

section Outcomes

variable (layout : Layout files stagingRoot liveRoot paths)
  (split : (done ++ path :: rest).Subperm paths) (faults : Faults)
  (standing : Standing files stagingRoot liveRoot paths done (path :: rest) current)
  (waiting : Waiting files stagingRoot liveRoot (path :: rest) current)

include standing waiting in
/-- What is there of a path that is next is what was there before. -/
theorem pathExists_next :
    current.pathExists (join liveRoot path) = files.pathExists (join liveRoot path) ∧
      current.pathExists (join stagingRoot path) = files.pathExists (join stagingRoot path) := by
  have live := FileSystem.apply_eq_of_subtree (standing.kept path List.mem_cons_self)
  have staged := FileSystem.apply_eq_of_subtree (waiting path List.mem_cons_self).1
  exact ⟨congrArg Option.isSome live, congrArg Option.isSome staged⟩

theorem pathExists_iff (files : FileSystem) (stagingRoot liveRoot path : String)
    (version : Version) :
    files.pathExists (join (version.root stagingRoot liveRoot) path) = true ↔
      files (place stagingRoot liveRoot path version) ≠ none :=
  Option.isSome_iff_ne_none

include layout split standing waiting

/-- Moving the path aside is the first half of applying it. -/
theorem applyOneStagedPath_aside :
    if files (place stagingRoot liveRoot path .live) ≠ none ∧
        (faults (.createRollbackParent path) ≠ none ∨ faults (.moveLiveAside path) ≠ none) then
      ∃ error next, applyOneStagedPath faults stagingRoot liveRoot (asideRoot stagingRoot) path
          current = (.error error, next) ∧
        Standing files stagingRoot liveRoot paths done (path :: rest) next
    else
      ∃ middle, Aside files stagingRoot liveRoot path paths done rest middle ∧
        applyOneStagedPath faults stagingRoot liveRoot (asideRoot stagingRoot) path current =
          match (if files.pathExists (join stagingRoot path) then
              moveIntoPlace faults stagingRoot liveRoot (asideRoot stagingRoot) path
                (files.pathExists (join liveRoot path)) middle else (.ok (), middle)) with
          | (.error error, next) => (.error error, next)
          | (.ok (), next) => (.ok (appliedPath files stagingRoot liveRoot path), next) := by
  obtain ⟨liveSame, stagedSame⟩ := pathExists_next standing waiting
  have applied : appliedPath current stagingRoot liveRoot path =
      appliedPath files stagingRoot liveRoot path := by
    rw [appliedPath, appliedPath, liveSame, stagedSame]
  rw [applyOneStagedPath_apply, liveSame, stagedSame, applied]
  have present := pathExists_iff files stagingRoot liveRoot path .live
  simp only [Version.root] at present
  by_cases isLive : files (place stagingRoot liveRoot path .live) = none
  · have noLive : files.pathExists (join liveRoot path) = false := by
      simpa [isLive] using present
    rw [if_neg (fun both => both.1 isLive), noLive]
    exact ⟨current, aside_of_absent layout standing waiting isLive, rfl⟩
  · have spec := moveAside_spec layout split faults standing waiting isLive
    rw [if_pos (present.mpr isLive)]
    split at spec
    · next noFault =>
        obtain ⟨middle, moved, aside⟩ := spec
        rw [if_neg (by simp [noFault]), moved]
        exact ⟨middle, aside, rfl⟩
    · next faulted =>
        obtain ⟨error, next, moved, stood⟩ := spec
        rw [if_pos ⟨isLive, by simpa [or_iff_not_imp_left] using faulted⟩, moved]
        exact ⟨error, next, rfl, stood⟩

omit split standing waiting in
/-- What is there lies in directories. -/
theorem Layout.free_of_present (member : path ∈ paths)
    (present : files (place stagingRoot liveRoot path .live) ≠ none) :
    Free files (place stagingRoot liveRoot path .live).dropLast := by
  intro above isAbove
  refine Or.inr (layout.tree.directory_of_prefix present
    (isAbove.trans (List.dropLast_prefix _)) ?_)
  rintro rfl
  have shorter := isAbove.length_le
  have named := List.length_pos_iff.mpr (layout.names_ne_nil member)
  rw [List.length_dropLast, layout.place_eq member, List.length_append] at shorter
  omega

omit split standing waiting in
/-- A path that is not staged is done once it is moved aside. -/
theorem Aside.done_of_unstaged
    (aside : Aside files stagingRoot liveRoot path paths done rest current)
    (unstaged : files (place stagingRoot liveRoot path .staged) = none) :
    Standing files stagingRoot liveRoot paths (path :: done) rest current := by
  refine ⟨aside.standing.surroundings, ?_, aside.standing.kept⟩
  intro other isDone
  rcases List.mem_cons.mp isDone with rfl | isOther
  · refine ⟨?_, aside.aside⟩
    rw [aside.live, FileSystem.subtree_eq_none layout.tree unstaged]
  · exact aside.standing.done other isOther

theorem applyOneStagedPath_spec :
    if Fails files faults stagingRoot liveRoot path then
      ∃ error next, applyOneStagedPath faults stagingRoot liveRoot (asideRoot stagingRoot) path
          current = (.error error, next) ∧
        if LosesLive files faults stagingRoot liveRoot path then
          Aside files stagingRoot liveRoot path paths done rest next
        else Standing files stagingRoot liveRoot paths done (path :: rest) next
    else
      ∃ next, applyOneStagedPath faults stagingRoot liveRoot (asideRoot stagingRoot) path
          current = (.ok (appliedPath files stagingRoot liveRoot path), next) ∧
        Standing files stagingRoot liveRoot paths (path :: done) rest next ∧
          Waiting files stagingRoot liveRoot rest next := by
  have member := (layout.apart_of_split split).1
  have first := applyOneStagedPath_aside layout split faults standing waiting
  have liveIff := pathExists_iff files stagingRoot liveRoot path .live
  have stagedIff := pathExists_iff files stagingRoot liveRoot path .staged
  simp only [Version.root] at liveIff stagedIff
  split at first
  · next faulted =>
      obtain ⟨error, next, ran, stood⟩ := first
      have fails : Fails files faults stagingRoot liveRoot path := Or.inl faulted
      rw [if_pos fails]
      refine ⟨error, next, ran, ?_⟩
      rw [if_neg]
      · exact stood
      · intro loses
        rcases faulted.2 with parent | move
        · exact parent loses.2.2.1
        · exact move loses.2.2.2.1
  · next movedAside =>
      obtain ⟨middle, aside, ran⟩ := first
      by_cases staged : files (place stagingRoot liveRoot path .staged) = none
      · have noStaged : files.pathExists (join stagingRoot path) = false := by
          simpa [staged] using stagedIff
        rw [if_neg (fun fails => fails.elim movedAside fun both => both.1 staged)]
        rw [noStaged] at ran
        exact ⟨middle, ran, aside.done_of_unstaged layout staged, aside.waiting⟩
      · rw [if_pos (stagedIff.mpr staged)] at ran
        by_cases parent : faults (.createLiveParent path) = none ∧
            Free files (place stagingRoot liveRoot path .live).dropLast
        · have spec := moveIntoPlace_of_parent layout split faults aside staged liveIff
            parent.1 parent.2
          split at spec
          · next noFault =>
              obtain ⟨next, moved, stood, waits⟩ := spec
              rw [if_neg]
              · rw [moved] at ran
                exact ⟨next, ran, stood, waits⟩
              · intro fails
                rcases fails with faulted | ⟨_, noParent | blocked | noMove⟩
                · exact movedAside faulted
                · exact noParent parent.1
                · exact blocked parent.2
                · exact noMove noFault
          · next moveFault =>
              obtain ⟨error, next, moved, stood⟩ := spec
              rw [moved] at ran
              have fails : Fails files faults stagingRoot liveRoot path :=
                Or.inr ⟨staged, Or.inr (Or.inr moveFault)⟩
              rw [if_pos fails]
              refine ⟨error, next, ran, ?_⟩
              rw [if_neg (fun loses => loses.2.2.2.2 parent.1)]
              exact stood
        · obtain ⟨error, next, moved, stillAside⟩ := moveIntoPlace_of_noParent layout split faults
            (files.pathExists (join liveRoot path)) aside parent
          rw [moved] at ran
          have fails : Fails files faults stagingRoot liveRoot path := by
            rw [not_and_or] at parent
            exact Or.inr ⟨staged, parent.elim Or.inl fun blocked => Or.inr (Or.inl blocked)⟩
          rw [if_pos fails]
          refine ⟨error, next, ran, ?_⟩
          split
          · exact stillAside
          · next keeps =>
              apply stillAside.kept_of_absent layout
              by_contra present
              apply keeps
              have noFaults := not_and.mp movedAside present
              rw [not_or, not_not, not_not] at noFaults
              refine ⟨present, staged, noFaults.1, noFaults.2, ?_⟩
              intro noParent
              exact parent ⟨noParent, layout.free_of_present member present⟩

end Outcomes

/-! ## Rolling back -/

/-- What a failing removal leaves of a staged version that is in place. -/
def leftover (files : FileSystem) (fault : Fault) (stagingRoot liveRoot path : String) :
    FileSystem := fun below =>
  if files (place stagingRoot liveRoot path .staged) = some .directory ∧
      place stagingRoot liveRoot path .live ++ below ∈ fault.deleted then none
  else files (place stagingRoot liveRoot path .staged ++ below)

/-- No step of rolling the path back fails. -/
def Rollable (files : FileSystem) (faults : Faults) (stagingRoot liveRoot path : String) : Prop :=
  (files (place stagingRoot liveRoot path .staged) = none ∨ faults (.removeApplied path) = none) ∧
    (files (place stagingRoot liveRoot path .live) = none ∨
      faults (.createRestoredParent path) = none)

instance (files : FileSystem) (faults : Faults) (stagingRoot liveRoot path : String) :
    Decidable (Rollable files faults stagingRoot liveRoot path) :=
  inferInstanceAs (Decidable (_ ∧ _))

/-- The removal of the staged version fails, and what it leaves is the live version. -/
def LeavesLive (files : FileSystem) (faults : Faults) (stagingRoot liveRoot path : String) : Prop :=
  files (place stagingRoot liveRoot path .staged) ≠ none ∧
    ∃ fault, faults (.removeApplied path) = some fault ∧
      leftover files fault stagingRoot liveRoot path =
        files.subtree (place stagingRoot liveRoot path .live)

/-- Rolling back the paths, the one applied last first, restores the live version of each, or what
is left where a step fails happens to be the same. -/
def RollsBack (files : FileSystem) (faults : Faults) (stagingRoot liveRoot : String) :
    List String → Prop
  | [] => True
  | path :: earlier =>
      if Rollable files faults stagingRoot liveRoot path then
        RollsBack files faults stagingRoot liveRoot earlier
      else
        LeavesLive files faults stagingRoot liveRoot path ∧
          ∀ other ∈ earlier, files.subtree (place stagingRoot liveRoot other .staged) =
            files.subtree (place stagingRoot liveRoot other .live)

theorem removePathIfExists_of_present {path : String} (present : current (resolve path) ≠ none) :
    removePathIfExists none path current = (.ok (), current.removed (resolve path)) := by
  unfold removePathIfExists
  rw [Program.bind_apply, Program.gets_apply]
  cases found : current (resolve path) with
  | none => exact absurd found present
  | some node =>
      cases node with
      | directory =>
          have removes : current.removeDirAll path = some (current.removed (resolve path)) :=
            if_pos (by simp [FileSystem.isDir, found])
          simp [fileStep, removes]
      | file content =>
          have removes : current.removeFile path = some (current.removed (resolve path)) := by
            simp [FileSystem.removeFile, found]
          simp [fileStep, removes]

theorem removePathIfExists_of_fault {path : String} (present : current (resolve path) ≠ none)
    (fault : Fault) :
    ∃ error next, removePathIfExists (some fault) path current = (.error error, next) ∧
      (∀ spot, ¬ resolve path <+: spot → next spot = current spot) ∧
        next.subtree (resolve path) = fun below =>
          if current (resolve path) = some .directory ∧ resolve path ++ below ∈ fault.deleted then
            none
          else current (resolve path ++ below) := by
  unfold removePathIfExists
  rw [Program.bind_apply, Program.gets_apply]
  cases found : current (resolve path) with
  | none => exact absurd found present
  | some node =>
      cases node with
      | directory =>
          refine ⟨_, _, rfl, fun spot outside => FileSystem.removeEntries_frame outside, ?_⟩
          funext below
          simp [FileSystem.subtree, FileSystem.removeEntries]
      | file content =>
          refine ⟨_, _, rfl, fun _ _ => rfl, ?_⟩
          funext below
          simp [FileSystem.subtree]

/-- What rolling one path back comes to. -/
structure RolledBack (files : FileSystem) (faults : Faults) (stagingRoot liveRoot path : String)
    (current : FileSystem) (outcome : Except Error Unit) (next : FileSystem) : Prop where
  touches : Touches stagingRoot liveRoot path current next
  ok_iff : outcome = .ok () ↔ Rollable files faults stagingRoot liveRoot path
  restores_iff : next.subtree (place stagingRoot liveRoot path .live) =
      files.subtree (place stagingRoot liveRoot path .live) ↔
    Rollable files faults stagingRoot liveRoot path ∨
      LeavesLive files faults stagingRoot liveRoot path

section Restoring

variable (layout : Layout files stagingRoot liveRoot paths) (member : path ∈ paths)
  (faults : Faults)

include layout member

/-- The second half of rolling a path back: its live version is moved from aside. -/
theorem restore_spec (surroundings : Surroundings files stagingRoot liveRoot paths current)
    (live : current.subtree (place stagingRoot liveRoot path .live) = fun _ => none)
    (aside : current.subtree (place stagingRoot liveRoot path .aside) =
      files.subtree (place stagingRoot liveRoot path .live)) (failure : Error) :
    ∃ outcome next,
      Program.when (files.pathExists (join liveRoot path) = true) (do
        ensureParentDir (faults (.createRestoredParent path)) (join liveRoot path)
        renamePath none failure (join (asideRoot stagingRoot) path) (join liveRoot path))
          current = (outcome, next) ∧
        Touches stagingRoot liveRoot path current next ∧
          if files (place stagingRoot liveRoot path .live) = none ∨
              faults (.createRestoredParent path) = none then
            outcome = .ok () ∧ next.subtree (place stagingRoot liveRoot path .live) =
              files.subtree (place stagingRoot liveRoot path .live)
          else
            outcome ≠ .ok () ∧
              next.subtree (place stagingRoot liveRoot path .live) = fun _ => none := by
  have liveIff := pathExists_iff files stagingRoot liveRoot path .live
  simp only [Version.root] at liveIff
  unfold Program.when
  by_cases absent : files (place stagingRoot liveRoot path .live) = none
  · rw [if_neg (by simp [liveIff, absent])]
    refine ⟨.ok (), current, rfl, Touches.refl current, ?_⟩
    rw [if_pos (Or.inl absent), live, FileSystem.subtree_eq_none layout.tree absent]
    exact ⟨rfl, rfl⟩
  · rw [if_pos (liveIff.mpr absent)]
    obtain ⟨outcome, middle, ensured, ensures⟩ := layout.ensuresParent member .live
      (faults (.createRestoredParent path)) current
    have own := ensures.subtree layout member
    have free := (surroundings.free_live_iff layout member).mpr
      (layout.free_of_present member absent)
    by_cases noFault : faults (.createRestoredParent path) = none
    · obtain rfl := ensures.ok_iff.mpr ⟨noFault, free⟩
      have present : middle (place stagingRoot liveRoot path .aside) ≠ none :=
        FileSystem.apply_eq_of_subtree ((own .aside).trans aside) ▸ absent
      have renamed := layout.renamePath_of_free member .aside .live (by decide) present
        ((own .live).trans live) (ensures.directory rfl) failure
      refine ⟨.ok (), _, (Program.bind_of_ok ensured _).trans renamed,
        ensures.touches.trans (touches_moved middle .aside .live), ?_⟩
      rw [if_pos (Or.inr noFault), FileSystem.subtree_moved_target, own .aside, aside]
      exact ⟨rfl, rfl⟩
    · cases outcome with
      | ok value => exact absurd (ensures.ok_iff.mp rfl).1 noFault
      | error error =>
          refine ⟨.error error, middle, (Program.bind_eq_error _).mpr (Or.inl ensured),
            ensures.touches, ?_⟩
          rw [if_neg (by simp [absent, noFault]), own .live, live]
          exact ⟨nofun, rfl⟩

/-- A path that is rolled back is live as it was, unless a step fails. -/
theorem rollbackAppliedPath_spec
    (standing : Standing files stagingRoot liveRoot paths (path :: done) [] current) :
    ∃ outcome next,
      rollbackAppliedPath faults liveRoot (asideRoot stagingRoot)
          (appliedPath files stagingRoot liveRoot path) current = (outcome, next) ∧
        RolledBack files faults stagingRoot liveRoot path current outcome next := by
  have stagedIff := pathExists_iff files stagingRoot liveRoot path .staged
  simp only [Version.root] at stagedIff
  obtain ⟨inPlace, aside⟩ := standing.done path List.mem_cons_self
  have livePlace : current (place stagingRoot liveRoot path .live) =
      files (place stagingRoot liveRoot path .staged) := FileSystem.apply_eq_of_subtree inPlace
  have asideApart : Apart (place stagingRoot liveRoot path .live)
      (place stagingRoot liveRoot path .aside) :=
    layout.place_apart member member (Or.inl (by decide))
  -- once the live path is cleared, what is left is to restore it
  have finish : ∀ middle,
      Program.when (files.pathExists (join stagingRoot path) = true)
        (removePathIfExists (faults (.removeApplied path)) (join liveRoot path)) current =
          (.ok (), middle) →
      (files (place stagingRoot liveRoot path .staged) = none ∨
        faults (.removeApplied path) = none) →
      Touches stagingRoot liveRoot path current middle →
      middle.subtree (place stagingRoot liveRoot path .live) = (fun _ => none) →
      middle.subtree (place stagingRoot liveRoot path .aside) =
        files.subtree (place stagingRoot liveRoot path .live) →
      ∃ outcome next,
        rollbackAppliedPath faults liveRoot (asideRoot stagingRoot)
            (appliedPath files stagingRoot liveRoot path) current = (outcome, next) ∧
          RolledBack files faults stagingRoot liveRoot path current outcome next := by
    intro middle cleared clears touches live aside
    obtain ⟨outcome, next, restored, touchesMore, result⟩ := restore_spec layout member faults
      (standing.surroundings.touch layout member touches) live aside
      s!"Failed to restore live path during migration rollback: {join liveRoot path}"
    refine ⟨outcome, next, (Program.bind_of_ok cleared _).trans restored, ?_⟩
    have notLeft : ¬ LeavesLive files faults stagingRoot liveRoot path := by
      rintro ⟨staged, fault, isFault, _⟩
      rcases clears with absent | noFault
      · exact staged absent
      · rw [noFault] at isFault
        cases isFault
    split at result
    · next restores =>
        have rollable : Rollable files faults stagingRoot liveRoot path := ⟨clears, restores⟩
        exact ⟨touches.trans touchesMore, iff_of_true result.1 rollable,
          iff_of_true result.2 (Or.inl rollable)⟩
    · next stuck =>
        have notRollable : ¬ Rollable files faults stagingRoot liveRoot path :=
          fun rollable => stuck rollable.2
        refine ⟨touches.trans touchesMore, iff_of_false result.1 notRollable, iff_of_false ?_ ?_⟩
        · intro same
          have absent := FileSystem.apply_eq_none_of_subtree (same.symm.trans result.2)
          exact stuck (Or.inl absent)
        · exact fun either => either.elim notRollable notLeft
  by_cases staged : files (place stagingRoot liveRoot path .staged) = none
  · apply finish current
    · rw [Program.when, if_neg (by simp [stagedIff, staged])]
      rfl
    · exact Or.inl staged
    · exact Touches.refl current
    · rw [inPlace, FileSystem.subtree_eq_none layout.tree staged]
    · exact aside
  · have present : current (resolve (join liveRoot path)) ≠ none := fun absent =>
      staged (livePlace.symm.trans absent)
    cases removes : faults (.removeApplied path) with
    | none =>
        apply finish (current.removed (place stagingRoot liveRoot path .live))
        · rw [Program.when, if_pos (stagedIff.mpr staged), removes]
          exact removePathIfExists_of_present present
        · exact Or.inr removes
        · exact touches_of_frame fun spot outside => FileSystem.removed_apply_outside outside
        · exact FileSystem.subtree_removed_self
        · rw [FileSystem.subtree_removed_apart asideApart, aside]
    | some fault =>
        obtain ⟨error, next, failed, frame, left⟩ := removePathIfExists_of_fault present fault
        have notRollable : ¬ Rollable files faults stagingRoot liveRoot path := by
          rintro ⟨absent | noFault, _⟩
          · exact staged absent
          · rw [removes] at noFault
            cases noFault
        have leaves : next.subtree (place stagingRoot liveRoot path .live) =
            leftover files fault stagingRoot liveRoot path := by
          refine left.trans ?_
          funext below
          have spot : current (place stagingRoot liveRoot path .live ++ below) =
              files (place stagingRoot liveRoot path .staged ++ below) := congrFun inPlace below
          unfold leftover
          rw [← livePlace, ← spot]
          rfl
        refine ⟨.error error, next, ?_, touches_of_frame frame,
          iff_of_false nofun notRollable, ?_⟩
        · apply (Program.bind_eq_error _).mpr
          left
          rw [appliedPath, Program.when, if_pos (stagedIff.mpr staged), removes]
          exact failed
        · rw [leaves]
          constructor
          · exact fun same => Or.inr ⟨staged, fault, removes, same⟩
          · rintro (rollable | ⟨_, other, isFault, same⟩)
            · exact absurd rollable notRollable
            · rw [removes] at isFault
              cases isFault
              exact same

end Restoring

/-- Rolling back restores the paths exactly if none of its steps fails where that shows, and
leaves alone all other touched paths. -/
theorem rollback_spec (layout : Layout files stagingRoot liveRoot paths) (faults : Faults)
    (split : done.Subperm paths)
    (standing : Standing files stagingRoot liveRoot paths done [] current) :
    ∃ outcome final,
      Program.forEach (rollbackAppliedPath faults liveRoot (asideRoot stagingRoot))
          (done.map (appliedPath files stagingRoot liveRoot)) current = (outcome, final) ∧
        (∀ other ∈ paths, (∀ path ∈ done, Apart (names other) (names path)) →
          final.subtree (place stagingRoot liveRoot other .live) =
            current.subtree (place stagingRoot liveRoot other .live)) ∧
          ((∀ path ∈ done, final.subtree (place stagingRoot liveRoot path .live) =
              files.subtree (place stagingRoot liveRoot path .live)) ↔
            RollsBack files faults stagingRoot liveRoot done) := by
  induction done generalizing current with
  | nil => exact ⟨.ok (), current, rfl, fun _ _ _ => rfl, by simp [RollsBack]⟩
  | cons path earlier inductionHypothesis =>
      have alone : ([] ++ path :: earlier).Subperm paths := split
      obtain ⟨member, rest⟩ := layout.apart_of_split alone
      rw [List.nil_append] at rest
      obtain ⟨outcome, next, ran, touches, succeeds, restores⟩ :=
        rollbackAppliedPath_spec layout member faults standing
      have standingNext : Standing files stagingRoot liveRoot paths earlier [] next := by
        refine ⟨standing.surroundings.touch layout member touches, ?_, nofun⟩
        intro other isDone
        obtain ⟨otherMember, apart⟩ := rest other isDone
        rw [touches.subtree layout member otherMember apart,
          touches.subtree layout member otherMember apart]
        exact standing.done other (List.mem_cons_of_mem _ isDone)
      by_cases rollable : Rollable files faults stagingRoot liveRoot path
      · obtain rfl := succeeds.mpr rollable
        obtain ⟨last, final, ranRest, alone, exactly⟩ := inductionHypothesis
          (((List.sublist_cons_self path earlier).subperm).trans split) standingNext
        refine ⟨last, final, (Program.bind_of_ok ran _).trans ranRest, ?_, ?_⟩
        · intro other otherMember apart
          rw [alone other otherMember fun done isDone => apart done (List.mem_cons_of_mem _ isDone)]
          exact touches.subtree layout member otherMember (apart path List.mem_cons_self) .live
        · have restored := (alone path member fun other isDone => (rest other isDone).2.symm).trans
            (restores.mpr (Or.inl rollable))
          rw [RollsBack, if_pos rollable, ← exactly]
          simp [restored]
      · cases outcome with
        | ok value => exact absurd (succeeds.mp rfl) rollable
        | error error =>
            refine ⟨.error error, next, (Program.bind_eq_error _).mpr (Or.inl ran), ?_, ?_⟩
            · intro other otherMember apart
              exact touches.subtree layout member otherMember (apart path List.mem_cons_self) .live
            · rw [RollsBack, if_neg rollable, List.forall_mem_cons, restores]
              refine and_congr (by simp [rollable]) ?_
              apply forall₂_congr
              intro other isDone
              rw [(standingNext.done other isDone).1]

/-! ## All paths -/

/-- The first failure, if there is one, loses no live version, and the paths applied before it,
listed with the last one first, are rolled back. -/
def KeepsLive (files : FileSystem) (faults : Faults) (stagingRoot liveRoot : String) :
    List String → List String → Prop
  | _, [] => True
  | done, path :: rest =>
      if Fails files faults stagingRoot liveRoot path then
        ¬ LosesLive files faults stagingRoot liveRoot path ∧
          RollsBack files faults stagingRoot liveRoot done
      else KeepsLive files faults stagingRoot liveRoot (path :: done) rest

/-- An error leaves every live version as it was; success puts every staged version in its place,
and nothing where there is none. -/
structure AllOrNothing (files : FileSystem) (stagingRoot liveRoot : String) (paths : List String)
    (ran : Except Error Unit × FileSystem) : Prop where
  applied : ran.1 = .ok () → ∀ path ∈ paths,
    ran.2.subtree (place stagingRoot liveRoot path .live) =
      files.subtree (place stagingRoot liveRoot path .staged)
  restored : ran.1 ≠ .ok () → ∀ path ∈ paths,
    ran.2.subtree (place stagingRoot liveRoot path .live) =
      files.subtree (place stagingRoot liveRoot path .live)

/-- How the loop ends that has come so far. -/
structure LoopEnds (files : FileSystem) (faults : Faults) (stagingRoot liveRoot : String)
    (paths done rest : List String) (outcome : Except Error Unit) (final : FileSystem) : Prop where
  ok : outcome = .ok () → KeepsLive files faults stagingRoot liveRoot done rest ∧
    ∃ all, all.Perm paths ∧ Standing files stagingRoot liveRoot paths all [] final
  error : outcome ≠ .ok () →
    ((∀ path ∈ paths, final.subtree (place stagingRoot liveRoot path .live) =
        files.subtree (place stagingRoot liveRoot path .live)) ↔
      KeepsLive files faults stagingRoot liveRoot done rest)

section Loop

variable (layout : Layout files stagingRoot liveRoot paths) (faults : Faults)

include layout

/-- What follows a path that fails. -/
theorem applyEach_of_fails {error : Error} (split : (done ++ path :: rest).Perm paths)
    (fails : Fails files faults stagingRoot liveRoot path)
    (ran : applyOneStagedPath faults stagingRoot liveRoot (asideRoot stagingRoot) path current =
      (.error error, next))
    (left : if LosesLive files faults stagingRoot liveRoot path then
        Aside files stagingRoot liveRoot path paths done rest next
      else Standing files stagingRoot liveRoot paths done (path :: rest) next) :
    ∃ outcome final,
      applyEach faults stagingRoot liveRoot (asideRoot stagingRoot)
          (done.map (appliedPath files stagingRoot liveRoot)).reverse (path :: rest) current =
          (outcome, final) ∧
        LoopEnds files faults stagingRoot liveRoot paths done (path :: rest) outcome final := by
  obtain ⟨member, others⟩ := layout.apart_of_split split.subperm
  have doneStands : Standing files stagingRoot liveRoot paths done [] next := by
    split at left
    · exact left.standing.mono (List.nil_subset _)
    · exact left.mono (List.nil_subset _)
  obtain ⟨rolled, final, rolledBack, alone, exactly⟩ := rollback_spec layout faults
    ((List.sublist_append_left done _).subperm.trans split.subperm) doneStands
  have fromDone : ∀ other ∈ path :: rest,
      ∀ applied ∈ done, Apart (names other) (names applied) := by
    intro other isOther applied isDone
    have pairwise := (split.pairwise_iff fun apart => Apart.symm apart).mpr layout.apart
    exact ((List.pairwise_append.mp pairwise).2.2 applied isDone other isOther).symm
  refine ⟨.error (match rolled with
    | .ok () => error
    | .error rollbackError =>
        s!"Additionally failed to roll back migration apply: {rollbackError}"), final, ?_, ?_⟩
  · refine (Program.bind_of_ok (by rw [Program.attempt_apply, ran]) _).trans ?_
    have rolls : Program.attempt (rollbackAppliedPaths faults liveRoot (asideRoot stagingRoot)
        (done.map (appliedPath files stagingRoot liveRoot)).reverse) next =
          (.ok rolled, final) := by
      rw [Program.attempt_apply, rollbackAppliedPaths, List.reverse_reverse, rolledBack]
    refine (Program.bind_of_ok rolls _).trans ?_
    cases rolled with
    | ok value => rfl
    | error rollbackError => rfl
  · refine ⟨nofun, fun _ => ?_⟩
    rw [KeepsLive, if_pos fails, ← exactly]
    constructor
    · intro kept
      refine ⟨?_, fun other isDone => kept other (split.mem_iff.mp (List.mem_append_left _ isDone))⟩
      intro loses
      rw [if_pos loses] at left
      have lost := alone path member (fromDone path List.mem_cons_self)
      rw [kept path member, left.live] at lost
      exact loses.1 (FileSystem.apply_eq_none_of_subtree lost)
    · rintro ⟨keeps, restored⟩ other otherMember
      rw [if_neg keeps] at left
      rcases List.mem_append.mp (split.mem_iff.mpr otherMember) with isDone | isOther
      · exact restored other isDone
      · rw [alone other otherMember (fromDone other isOther)]
        exact left.kept other isOther

/-- What holds of the loop from where it stands. -/
theorem applyEach_spec (split : (done ++ rest).Perm paths)
    (standing : Standing files stagingRoot liveRoot paths done rest current)
    (waiting : Waiting files stagingRoot liveRoot rest current) :
    ∃ outcome final,
      applyEach faults stagingRoot liveRoot (asideRoot stagingRoot)
          (done.map (appliedPath files stagingRoot liveRoot)).reverse rest current =
          (outcome, final) ∧
        LoopEnds files faults stagingRoot liveRoot paths done rest outcome final := by
  induction rest generalizing done current with
  | nil =>
      refine ⟨.ok (), current, rfl, fun _ => ⟨trivial, done, by simpa using split, standing⟩, ?_⟩
      exact fun failed => absurd rfl failed
  | cons path rest inductionHypothesis =>
      have spec := applyOneStagedPath_spec layout split.subperm faults standing waiting
      by_cases fails : Fails files faults stagingRoot liveRoot path
      · rw [if_pos fails] at spec
        obtain ⟨error, next, ran, left⟩ := spec
        exact applyEach_of_fails layout faults split fails ran left
      · rw [if_neg fails] at spec
        obtain ⟨next, ran, standingNext, waitingNext⟩ := spec
        obtain ⟨outcome, final, ranRest, ends⟩ := inductionHypothesis
          (List.perm_middle.symm.trans split) standingNext waitingNext
        refine ⟨outcome, final, ?_, ?_, ?_⟩
        · refine (Program.bind_of_ok (by rw [Program.attempt_apply, ran]) _).trans ?_
          rw [List.map_cons, List.reverse_cons] at ranRest
          exact ranRest
        · rw [KeepsLive, if_neg fails]
          exact ends.ok
        · rw [KeepsLive, if_neg fails]
          exact ends.error

/-- The directories for the live versions that are moved aside are made around the paths. -/
theorem subtree_makeDirs_aside (member : path ∈ paths) {directories : List (List Name)}
    (made : ∀ directory ∈ directories, directory <+: resolve (asideRoot stagingRoot))
    (version : Version) :
    (files.makeDirs directories).subtree (place stagingRoot liveRoot path version) =
      files.subtree (place stagingRoot liveRoot path version) := by
  apply FileSystem.subtree_makeDirs
  intro directory isMade below
  have above := below.trans (made directory isMade)
  rw [resolve_asideRoot] at above
  cases version with
  | live => exact (layout.outside path member).symm.not_prefix_append _ above
  | staged =>
      rw [layout.place_eq member] at above
      exact (layout.notAside path member).1 ((List.prefix_append_right_inj _).mp above)
  | aside =>
      have shorter := above.length_le
      have named := List.length_pos_iff.mpr (layout.names_ne_nil member)
      rw [layout.place_eq member, List.length_append] at shorter
      simp only [Version.root, resolve_asideRoot] at shorter
      omega

omit layout in
theorem mem_ancestors_asideRoot (direct : Direct stagingRoot) {directory : List Name} :
    directory ∈ ancestors (asideRoot stagingRoot) ↔
      directory <+: resolve (asideRoot stagingRoot) :=
  Path.mem_ancestors_of_direct (Path.direct_join direct (by decide))

/-- Nothing is in the way of that directory, and all paths wait. -/
theorem applyStagedPaths_starts :
    ∃ current, files.createDirAll (asideRoot stagingRoot) = some current ∧
      Standing files stagingRoot liveRoot paths [] paths current ∧
        Waiting files stagingRoot liveRoot paths current := by
  have asidePlace : resolve (asideRoot stagingRoot) = _ := resolve_asideRoot stagingRoot
  have aboveStaging : ∀ above, above <+: resolve stagingRoot → files above = some .directory := by
    intro above isAbove
    by_cases same : above = resolve stagingRoot
    · rw [same, layout.staging]
    · exact layout.tree.directory_of_prefix (by simp [layout.staging]) isAbove same
  have possible : (files.createDirAll (asideRoot stagingRoot)).isSome = true := by
    rw [createDirAll_isSome_iff layout.asideRoot_direct]
    intro above isAbove
    rw [resolve_asideRoot, List.prefix_concat_iff] at isAbove
    rcases isAbove with rfl | isAbove
    · exact Or.inl (asidePlace ▸ layout.fresh)
    · exact Or.inr (aboveStaging above isAbove)
  obtain ⟨current, created⟩ := Option.isSome_iff_exists.mp possible
  obtain ⟨rfl, _⟩ := FileSystem.createDirAll_eq_some created
  have around := fun path (member : path ∈ paths) => subtree_makeDirs_aside layout member
    (fun directory => (mem_ancestors_asideRoot layout.stagingDirect).mp)
  have nothingAside := FileSystem.subtree_eq_none layout.tree layout.fresh
  refine ⟨_, created, ⟨⟨?_, ?_, ?_⟩, nofun, ?_⟩, ?_⟩
  · intro spot notStaging _
    rcases @FileSystem.makeDirs_cases files spot (ancestors (asideRoot stagingRoot)) with
      same | ⟨isMade, absent, _⟩
    · exact Or.inl same
    · rw [mem_ancestors_asideRoot layout.stagingDirect, asidePlace,
        List.prefix_concat_iff] at isMade
      rcases isMade with rfl | isAbove
      · exact absurd (List.prefix_append _ _) notStaging
      · rw [aboveStaging spot isAbove] at absent
        cases absent
  · rintro spot ⟨below, rfl⟩ _
    have free : files (resolve (asideRoot stagingRoot) ++ below) = none :=
      congrFun nothingAside below
    rcases @FileSystem.makeDirs_cases files (resolve (asideRoot stagingRoot) ++ below)
      (ancestors (asideRoot stagingRoot)) with same | ⟨_, _, isDirectory⟩
    · exact Or.inl (same.trans free)
    · exact Or.inr isDirectory
  · rw [FileSystem.makeDirs_of_isSome]
    · exact layout.staging
    · simp [layout.staging]
  · exact fun path member => around path member .live
  · intro path member
    refine ⟨around path member .staged, ?_⟩
    rw [around path member .aside]
    funext below
    have none := congrFun nothingAside (names path ++ below)
    rw [FileSystem.subtree, layout.place_eq member]
    simpa [FileSystem.subtree, Version.root, asideRoot, List.append_assoc] using none

/-- What holds at the end. -/
theorem applyStagedPaths_spec (noFault : faults .createRollbackRoot = none) :
    ∃ outcome final, applyStagedPaths faults stagingRoot liveRoot paths files = (outcome, final) ∧
      LoopEnds files faults stagingRoot liveRoot paths [] paths outcome final := by
  obtain ⟨current, created, standing, waiting⟩ := applyStagedPaths_starts layout
  have none : ([] ++ paths).Perm paths := List.Perm.refl paths
  obtain ⟨outcome, final, ran, ends⟩ := applyEach_spec layout faults none standing waiting
  have root : createDirAll (faults .createRollbackRoot)
      "Failed to create migration apply rollback directory in staging" (asideRoot stagingRoot)
        files = (.ok (), current) := by
    rw [noFault, createDirAll, fileStep, created]
  exact ⟨outcome, final, (Program.bind_of_ok root _).trans ran, ends⟩

omit layout in
/-- Without the directory for what is moved aside nothing is applied. -/
theorem applyStagedPaths_of_rootFault {fault : Fault}
    (rootFault : faults .createRollbackRoot = some fault) :
    ∃ error, applyStagedPaths faults stagingRoot liveRoot paths files =
      (.error error, files.makeDirs ((ancestors (asideRoot stagingRoot)).take fault.made)) :=
  ⟨_, (Program.bind_eq_error _).mpr (Or.inl (by rw [rootFault]; rfl))⟩

/-- After a success every path is done. -/
theorem standing_of_applied {final : FileSystem}
    (ran : applyStagedPaths faults stagingRoot liveRoot paths files = (.ok (), final)) :
    ∃ all, all.Perm paths ∧ Standing files stagingRoot liveRoot paths all [] final := by
  cases rootFault : faults .createRollbackRoot with
  | some fault =>
      obtain ⟨error, failed⟩ := applyStagedPaths_of_rootFault faults rootFault
      rw [failed] at ran
      cases ran
  | none =>
      obtain ⟨outcome, last, ranToo, ends⟩ := applyStagedPaths_spec layout faults rootFault
      rw [ranToo] at ran
      cases ran
      exact (ends.ok rfl).2

end Loop

/-- Applying is all or nothing exactly if the first step that fails does not leave a live version
aside, and the rollback that follows restores what has been applied. -/
theorem applyStagedPaths_allOrNothing_iff (layout : Layout files stagingRoot liveRoot paths)
    (faults : Faults) :
    AllOrNothing files stagingRoot liveRoot paths
        (applyStagedPaths faults stagingRoot liveRoot paths files) ↔
      (faults .createRollbackRoot = none →
        KeepsLive files faults stagingRoot liveRoot [] paths) := by
  cases rootFault : faults .createRollbackRoot with
  | some fault =>
      refine iff_of_true ?_ nofun
      obtain ⟨error, ran⟩ := applyStagedPaths_of_rootFault faults rootFault
      rw [ran]
      refine ⟨nofun, fun _ path member => ?_⟩
      exact subtree_makeDirs_aside layout member (fun directory isMade =>
        (mem_ancestors_asideRoot layout.stagingDirect).mp (List.mem_of_mem_take isMade)) .live
  | none =>
      obtain ⟨outcome, final, ran, ends⟩ := applyStagedPaths_spec layout faults rootFault
      rw [ran]
      cases outcome with
      | error error =>
          have exactly := ends.error nofun
          constructor
          · exact fun whole _ => exactly.mp (whole.restored nofun)
          · exact fun keeps => ⟨nofun, fun _ => exactly.mpr (keeps rfl)⟩
      | ok value =>
          obtain ⟨keeps, all, same, stands⟩ := ends.ok rfl
          refine iff_of_true ⟨fun _ path member => ?_, fun failed => absurd rfl failed⟩
            fun _ => keeps
          exact (stands.done path (same.mem_iff.mpr member)).1

/-- A fungi directory whose `config.toml` is replaced and whose address book becomes the list of
devices. -/
def stagedFiles : FileSystem :=
  let below (names : List String) := names.map String.toList
  let staging := ".fungi-migrate-staging-1"
  FileSystem.ofList
    [(below [], .directory), (below ["f"], .directory),
      (below ["f", "address_book.toml"], .file "peers"), (below ["f", "config.toml"], .file "old"),
      (below ["f", staging], .directory), (below ["f", staging, "config.toml"], .file "new"),
      (below ["f", staging, "devices.toml"], .file "devices")]

/-- The paths of that directory. -/
def stagedPaths : List String := ["address_book.toml", "config.toml", "devices.toml"]

theorem layout_stagedFiles :
    Layout stagedFiles "/f/.fungi-migrate-staging-1" "/f" stagedPaths where
  tree := FileSystem.isTree_ofList (by decide +kernel)
  stagingDirect := by decide +kernel
  liveDirect := by decide +kernel
  staging := by decide +kernel
  fresh := by decide +kernel
  relative := by decide +kernel
  apart := by decide +kernel
  notAside := by decide +kernel
  outside := by decide +kernel

/-- An error that leaves a live version missing. -/
theorem not_allOrNothing_of_missing {ran : Except Error Unit × FileSystem} (member : path ∈ paths)
    (present : files (place stagingRoot liveRoot path .live) ≠ none)
    (missing : ran.1.toOption = none ∧ ran.2 (place stagingRoot liveRoot path .live) = none) :
    ¬ AllOrNothing files stagingRoot liveRoot paths ran := by
  intro whole
  have failed : ran.1 ≠ .ok () := by
    intro succeeded
    rw [succeeded] at missing
    cases missing.1
  have same := FileSystem.apply_eq_of_subtree (whole.restored failed path member)
  exact present (same.symm.trans missing.2)

/-- One step fails, and it changes nothing. -/
def failsAt (failing : ApplyStep) : Faults := fun step => if step = failing then some {} else none

/-- The directory of `config.toml` cannot be made sure of a second time. -/
theorem config_missing_not_allOrNothing :
    Layout stagedFiles "/f/.fungi-migrate-staging-1" "/f" stagedPaths ∧
      ¬ AllOrNothing stagedFiles "/f/.fungi-migrate-staging-1" "/f" stagedPaths
        (applyStagedPaths (failsAt (.createLiveParent "config.toml"))
          "/f/.fungi-migrate-staging-1" "/f" stagedPaths stagedFiles) := by
  refine ⟨layout_stagedFiles, ?_⟩
  have member : "config.toml" ∈ stagedPaths := by decide
  exact not_allOrNothing_of_missing member (by decide +kernel) (by decide +kernel)

/-- The last path cannot be moved into place, and the ones before it are rolled back. -/
theorem applyStagedPaths_allOrNothing_iff_demo :
    AllOrNothing stagedFiles "/f/.fungi-migrate-staging-1" "/f" stagedPaths
      (applyStagedPaths (failsAt (.moveStagedIntoPlace "devices.toml"))
        "/f/.fungi-migrate-staging-1" "/f" stagedPaths stagedFiles) := by
  have addressBook : ¬ Fails stagedFiles (failsAt (.moveStagedIntoPlace "devices.toml"))
      "/f/.fungi-migrate-staging-1" "/f" "address_book.toml" := by decide +kernel
  have config : ¬ Fails stagedFiles (failsAt (.moveStagedIntoPlace "devices.toml"))
      "/f/.fungi-migrate-staging-1" "/f" "config.toml" := by decide +kernel
  have devices : Fails stagedFiles (failsAt (.moveStagedIntoPlace "devices.toml"))
      "/f/.fungi-migrate-staging-1" "/f" "devices.toml" := by decide +kernel
  have keeps : ¬ LosesLive stagedFiles (failsAt (.moveStagedIntoPlace "devices.toml"))
      "/f/.fungi-migrate-staging-1" "/f" "devices.toml" := by decide +kernel
  have configBack : Rollable stagedFiles (failsAt (.moveStagedIntoPlace "devices.toml"))
      "/f/.fungi-migrate-staging-1" "/f" "config.toml" := by decide +kernel
  have addressBookBack : Rollable stagedFiles (failsAt (.moveStagedIntoPlace "devices.toml"))
      "/f/.fungi-migrate-staging-1" "/f" "address_book.toml" := by decide +kernel
  refine (applyStagedPaths_allOrNothing_iff layout_stagedFiles _).mpr fun _ => ?_
  rw [stagedPaths, KeepsLive, if_neg addressBook, KeepsLive, if_neg config, KeepsLive,
    if_pos devices]
  refine ⟨keeps, ?_⟩
  rw [RollsBack, if_pos configBack, RollsBack, if_pos addressBookBack, RollsBack]
  exact True.intro

end Places

end Fungi.ConfigMigrate
