import Fungi.Runtime.ManifestSpec

/-!
# Manifest paths

A manifest path is resolved by replacing its `$fungi` variables and joining what is
still relative to the manifest's directory.  A resolved path is resolved once more
when the daemon restarts; this file says which paths survive that unchanged.
-/

namespace Fungi.Runtime

open Fungi.Lib Fungi.Config

/-- The variables, in the order that they are expanded. -/
def pathVariables : List String :=
  ["$fungi.service.artifacts", "$fungi.service.data", "$fungi.workspace", "$fungi.root"]

/-- A path variable occurs in the path. -/
def HasPathVariable (path : String) : Prop :=
  ∃ variableName ∈ pathVariables, variableName.toList <:+: path.toList

instance (path : String) : Decidable (HasPathVariable path) :=
  inferInstanceAs (Decidable (∃ variableName ∈ pathVariables, _))

/-- The values of the path variables do not start like a path variable. -/
structure ManifestPathRoots.Usable (roots : ManifestPathRoots) : Prop where
  artifacts : ∃ first rest, roots.serviceArtifactsDir.toList = first :: rest ∧ first ≠ '$'
  appdata : ∃ first rest, roots.serviceAppdataDir.toList = first :: rest ∧ first ≠ '$'
  userHome : ∃ first rest, roots.userHomeDir.toList = first :: rest ∧ first ≠ '$'
  userRoot : ∃ first rest, roots.userRootDir.toList = first :: rest ∧ first ≠ '$'

/-! ## Roots -/

private theorem starts_of_absolute {path : String} (absolute : Path.isAbsolute path) :
    ∃ first rest, path.toList = first :: rest ∧ first ≠ '$' := by
  unfold Path.isAbsolute at absolute
  rw [decide_eq_true_eq, List.head?_eq_some_iff] at absolute
  obtain ⟨rest, shape⟩ := absolute
  exact ⟨'/', rest, shape, by decide⟩

private theorem starts_join {base path : String}
    (usable : ∃ first rest, base.toList = first :: rest ∧ first ≠ '$')
    (plain : path.toList.head? ≠ some '$') (nonempty : path ≠ "") :
    ∃ first rest, (Path.join base path).toList = first :: rest ∧ first ≠ '$' := by
  obtain ⟨first, rest, shape, different⟩ := usable
  unfold Path.join
  split
  · cases characters : path.toList with
    | nil => exact absurd (String.toList_inj.mp characters) nonempty
    | cons head tail =>
        refine ⟨head, tail, rfl, ?_⟩
        intro marker
        rw [characters, marker] at plain
        exact plain rfl
  · split
    · exact ⟨first, rest ++ path.toList, by simp [shape], different⟩
    · exact ⟨first, rest ++ '/' :: path.toList, by simp [shape], different⟩

theorem usable_forLocalServiceId {fungiHome : String} (absolute : Path.isAbsolute fungiHome)
    (channel : DistChannel) (localServiceId : String) :
    (ManifestPathRoots.forLocalServiceId
      (.fromFungiHomeForChannel fungiHome channel) localServiceId).Usable := by
  have root : ∃ first rest, ((Path.parent fungiHome).getD ".").toList = first :: rest ∧
      first ≠ '$' := by
    cases above : Path.parent fungiHome with
    | none => exact ⟨'.', [], rfl, by decide⟩
    | some directory => exact starts_of_absolute (Path.isAbsolute_parent absolute above)
  have userRoot := @starts_join _ (userRootDirNameForChannel channel) root
    (by cases channel <;> decide) (by cases channel <;> decide)
  constructor
  · apply starts_of_absolute
    exact Path.isAbsolute_join (Path.isAbsolute_join (Path.isAbsolute_join absolute _) _) _
  · apply starts_of_absolute
    exact Path.isAbsolute_join (Path.isAbsolute_join (Path.isAbsolute_join absolute _) _) _
  · exact starts_join userRoot (by decide) (by decide)
  · exact userRoot

/-! ## Resolving -/

section Resolve

variable {roots : ManifestPathRoots} {path baseDir : String}

theorem isAbsolute_resolveManifestPath (absolute : Path.isAbsolute baseDir) :
    Path.isAbsolute (resolveManifestPath path baseDir roots) := by
  unfold resolveManifestPath
  dsimp only
  split
  · assumption
  · exact Path.isAbsolute_join absolute _

/-- One replacement leaves a text alone, or loses a `$`. -/
private theorem expandVariable_cases {variableName value : String}
    {pattern text : List Char} (marked : variableName.toList = '$' :: pattern)
    (usable : ∃ first rest, value.toList = first :: rest ∧ first ≠ '$') :
    (expandVariable variableName value text = text ∧ ¬ variableName.toList <:+: text) ∨
      Lost '$' text (expandVariable variableName value text) := by
  obtain ⟨first, rest, shape, different⟩ := usable
  unfold expandVariable
  rw [marked, shape]
  exact replaceAll_cases different text

private theorem unchanged_or_lost_trans {first second third : List Char}
    {earlier : List String} {variableName : String}
    (before : (second = first ∧ ∀ name ∈ earlier, ¬ name.toList <:+: first) ∨
      Lost '$' first second)
    (after : (third = second ∧ ¬ variableName.toList <:+: second) ∨ Lost '$' second third) :
    (third = first ∧ ∀ name ∈ variableName :: earlier, ¬ name.toList <:+: first) ∨
      Lost '$' first third := by
  rcases before with ⟨rfl, missing⟩ | lost
  · rcases after with ⟨rfl, absent⟩ | lost
    · left
      refine ⟨rfl, ?_⟩
      intro name membership
      rcases List.mem_cons.mp membership with rfl | later
      · exact absent
      · exact missing name later
    · exact Or.inr lost
  · rcases after with ⟨rfl, -⟩ | lost'
    · exact Or.inr lost
    · exact Or.inr (lost.trans lost')

/-- Expanding a path leaves it alone when it has no variable, and loses a `$`
otherwise. -/
theorem expandManifestPath_cases (usable : roots.Usable) (path : String) :
    (expandManifestPath roots path = path ∧ ¬ HasPathVariable path) ∨
      Lost '$' path.toList (expandManifestPath roots path).toList := by
  have nothing : (path.toList = path.toList ∧
      ∀ name ∈ ([] : List String), ¬ name.toList <:+: path.toList) ∨
      Lost '$' path.toList path.toList := Or.inl ⟨rfl, fun name impossible => by cases impossible⟩
  have artifacts := unchanged_or_lost_trans nothing
    (@expandVariable_cases "$fungi.service.artifacts" _ _ _ rfl usable.artifacts)
  have appdata := unchanged_or_lost_trans artifacts
    (@expandVariable_cases "$fungi.service.data" _ _ _ rfl usable.appdata)
  have userHome := unchanged_or_lost_trans appdata
    (@expandVariable_cases "$fungi.workspace" _ _ _ rfl usable.userHome)
  have userRoot := unchanged_or_lost_trans userHome
    (@expandVariable_cases "$fungi.root" _ _ _ rfl usable.userRoot)
  rw [expandManifestPath, String.toList_ofList]
  refine userRoot.imp_left ?_
  rintro ⟨unchanged, absent⟩
  constructor
  · rw [unchanged, String.ofList_toList]
  · rintro ⟨variableName, membership, occurrence⟩
    refine absent variableName ?_ occurrence
    clear occurrence
    revert variableName
    decide

theorem expandManifestPath_of_absent (absent : ¬ HasPathVariable path) :
    expandManifestPath roots path = path := by
  have kept : ∀ variableName ∈ pathVariables, ∀ value,
      expandVariable variableName value path.toList = path.toList := by
    intro variableName membership value
    apply replaceAll_of_not_infix
    intro occurrence
    exact absent ⟨variableName, membership, occurrence⟩
  rw [expandManifestPath, kept _ (by decide), kept _ (by decide), kept _ (by decide),
    kept _ (by decide), String.ofList_toList]

/-- The first character of a path survives unless it starts a variable. -/
private theorem isAbsolute_expandManifestPath (absolute : Path.isAbsolute path) :
    Path.isAbsolute (expandManifestPath roots path) := by
  have kept : ∀ (variableName value : String) (pattern text : List Char),
      variableName.toList = '$' :: pattern → text.head? = some '/' →
      (expandVariable variableName value text).head? = some '/' := by
    intro variableName value pattern text marked first
    obtain ⟨rest, shape⟩ := List.head?_eq_some_iff.mp first
    rw [expandVariable, marked, shape]
    exact head?_replaceAll (by decide)
  unfold Path.isAbsolute at absolute ⊢
  rw [decide_eq_true_eq] at absolute ⊢
  rw [expandManifestPath, String.toList_ofList]
  apply kept _ _ _ _ rfl
  apply kept _ _ _ _ rfl
  apply kept _ _ _ _ rfl
  exact kept _ _ _ _ rfl absolute

theorem resolveManifestPath_of_absolute (absolute : Path.isAbsolute path) :
    resolveManifestPath path baseDir roots = expandManifestPath roots path := by
  unfold resolveManifestPath
  exact if_pos (isAbsolute_expandManifestPath absolute)

/-- Trimming an absolute path only shortens it at its end. -/
theorem trim_of_isAbsolute (absolute : Path.isAbsolute path) :
    (trim path).toList <+: path.toList ∧ Path.isAbsolute (trim path) := by
  unfold Path.isAbsolute at absolute ⊢
  rw [decide_eq_true_eq, List.head?_eq_some_iff] at absolute
  obtain ⟨rest, shape⟩ := absolute
  have kept : path.toList.dropWhile isWhitespace = path.toList := by
    rw [shape]
    rfl
  have before : (trim path).toList <+: path.toList := by
    rw [trim, String.toList_ofList, kept]
    exact List.rdropWhile_prefix ..
  refine ⟨before, ?_⟩
  rw [decide_eq_true_eq]
  cases trimmed : (trim path).toList with
  | nil =>
      rw [trim, String.toList_ofList, kept, List.rdropWhile_eq_nil_iff] at trimmed
      exact absurd (trimmed '/' (by simp [shape])) (by decide)
  | cons first others =>
      rw [trimmed, shape, List.cons_prefix_cons] at before
      rw [before.1]
      rfl

/-- Resolving an absolute path again keeps it exactly when it has no variable. -/
theorem resolveManifestPath_eq_self_iff (usable : roots.Usable)
    (absolute : Path.isAbsolute path) :
    resolveManifestPath path baseDir roots = path ↔ ¬ HasPathVariable path := by
  rw [resolveManifestPath_of_absolute absolute]
  constructor
  · intro same
    rcases expandManifestPath_cases usable path with ⟨-, absent⟩ | lost
    · exact absent
    · rw [same] at lost
      exact absurd rfl lost.ne
  · exact expandManifestPath_of_absent

/-- A resolved path that is trimmed before it is resolved again is kept exactly
when it has no variable and does not end in whitespace. -/
theorem resolveManifestPath_trim_eq_iff (usable : roots.Usable)
    (absolute : Path.isAbsolute path) :
    resolveManifestPath (trim path) baseDir roots = path ↔
      trim path = path ∧ ¬ HasPathVariable path := by
  obtain ⟨before, absoluteTrim⟩ := trim_of_isAbsolute absolute
  rw [resolveManifestPath_of_absolute absoluteTrim]
  constructor
  · intro same
    rcases expandManifestPath_cases usable (trim path) with ⟨unchanged, absent⟩ | lost
    · have trimmed : trim path = path := unchanged.symm.trans same
      exact ⟨trimmed, trimmed ▸ absent⟩
    · rw [same] at lost
      exact absurd before lost.not_prefix
  · rintro ⟨trimmed, absent⟩
    rw [trimmed, expandManifestPath_of_absent absent]

end Resolve

end Fungi.Runtime
