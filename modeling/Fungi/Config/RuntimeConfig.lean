import Fungi.Config.Paths
import Fungi.Lib.Fallible
import Fungi.Runtime.Model

/-!
# Allowed host paths

`crates/config/src/runtime.rs`: the roots below which services may mount host directories.  The
control plane is what lies in the fungi home but not in its application data.
-/

namespace Fungi.Config

open Fungi.Lib Fungi.Runtime

/-- The host directories that services may mount. -/
structure RuntimeConfig where
  allowedHostPaths : List String

/-- The place belongs to the keys and the configuration of the daemon. -/
def InControlPlane (channel : DistChannel) (fungiDir : String) (place : List Name) : Prop :=
  Path.resolve fungiDir <+: place ∧
    ¬ Path.resolve (FungiPaths.fromFungiHomeForChannel fungiDir channel).appdataRoot <+: place

instance (channel : DistChannel) (fungiDir : String) (place : List Name) :
    Decidable (InControlPlane channel fungiDir place) := inferInstanceAs (Decidable (_ ∧ _))

namespace RuntimeConfig

/-- Relative paths are refused, and `.` and `..` are resolved. -/
def normalizeAbsolutePath (path : String) : Except Error (List Name) :=
  if Path.isAbsolute path then .ok (Path.resolve path)
  else .error (.message s!"host path must be absolute: {path}")

/-- Whether a path is in the fungi home but not among the data of the services. -/
def isSensitiveFungiPath (channel : DistChannel) (path : List Name) (fungiDir : String) :
    Except Error Bool := do
  let fungiHome ← normalizeAbsolutePath fungiDir
  let appdataRoot ← normalizeAbsolutePath
    (FungiPaths.fromFungiHomeForChannel (Path.display fungiHome) channel).appdataRoot
  return fungiHome.isPrefixOf path && !appdataRoot.isPrefixOf path

/-- The error for a path of the control plane. -/
def refusingControlPlane (path appdataRoot : List Name) : Error :=
  .message <|
    s!"refusing to allow fungi home control-plane path: {Path.display path}. " ++
    s!"Use {Path.display appdataRoot} or a directory outside fungi home"

/-- The roots that can be added to the configuration. -/
def validateAllowedHostPath (channel : DistChannel) (path fungiDir : String) :
    Except Error (List Name) := do
  let normalized ← normalizeAbsolutePath path
  let sensitive ← isSensitiveFungiPath channel normalized fungiDir
  if sensitive then do
    let appdataRoot ← normalizeAbsolutePath
      (FungiPaths.fromFungiHomeForChannel fungiDir channel).appdataRoot
    throw (refusingControlPlane normalized appdataRoot)
  else return normalized

/-- The roots that are always there. -/
def defaultAllowedHostPaths (channel : DistChannel) (fungiDir : String) : List String :=
  let paths := FungiPaths.fromFungiHomeForChannel fungiDir channel
  [paths.appdataRoot, paths.userRoot]

/-- `add_runtime_allowed_host_path`, up to the write of the file. -/
def addAllowedHostPath (channel : DistChannel) (fungiDir : String) (self : RuntimeConfig)
    (path : String) : Except Error RuntimeConfig := do
  let path := Path.display (← validateAllowedHostPath channel path fungiDir)
  if self.allowedHostPaths.any fun entry => Path.components entry = Path.components path then
    return self
  else
    return { self with
      allowedHostPaths := (self.allowedHostPaths ++ [path]).mergeSort Path.atMost }

/-- `remove_runtime_allowed_host_path`, up to the write of the file. -/
def removeAllowedHostPath (self : RuntimeConfig) (path : String) : RuntimeConfig :=
  { self with
    allowedHostPaths := self.allowedHostPaths.filter fun entry =>
      Path.components entry ≠ Path.components path }

/-- A configuration that the two operations built from the default one. -/
inductive Built (channel : DistChannel) (fungiDir : String) : RuntimeConfig → Prop where
  | default : Built channel fungiDir { allowedHostPaths := [] }
  | added {config next : RuntimeConfig} {path : String} : Built channel fungiDir config →
      addAllowedHostPath channel fungiDir config path = .ok next → Built channel fungiDir next
  | removed {config : RuntimeConfig} {path : String} : Built channel fungiDir config →
      Built channel fungiDir (removeAllowedHostPath config path)

/-- The root passes `validate_allowed_host_path`. -/
def Accepted (channel : DistChannel) (fungiDir root : String) : Prop :=
  ∃ normalized, validateAllowedHostPath channel root fungiDir = .ok normalized

/-! ## Accepted roots -/

variable {channel : DistChannel} {fungiDir : String}

theorem resolve_appdataRoot :
    Path.resolve (FungiPaths.fromFungiHomeForChannel fungiDir channel).appdataRoot =
      Path.resolve fungiDir ++ ["appdata".toList] :=
  Path.resolve_join_plain (by decide)

theorem inControlPlane_iff {place : List Name} :
    InControlPlane channel fungiDir place ↔
      Path.resolve fungiDir <+: place ∧
        ¬ Path.resolve fungiDir ++ ["appdata".toList] <+: place := by
  rw [InControlPlane, resolve_appdataRoot]

theorem normalizeAbsolutePath_eq_ok {path : String} {place : List Name} :
    normalizeAbsolutePath path = .ok place ↔
      Path.isAbsolute path ∧ place = Path.resolve path := by
  unfold normalizeAbsolutePath
  split
  · next absolute => simp [absolute, eq_comm]
  · next relative => simp [relative]

theorem isSensitiveFungiPath_eq_ok {place : List Name} {sensitive : Bool} :
    isSensitiveFungiPath channel place fungiDir = .ok sensitive ↔
      Path.isAbsolute fungiDir ∧ sensitive = decide (InControlPlane channel fungiDir place) := by
  have appdata : Path.resolve (FungiPaths.fromFungiHomeForChannel
      (Path.display (Path.resolve fungiDir)) channel).appdataRoot =
        Path.resolve fungiDir ++ ["appdata".toList] := by
    rw [resolve_appdataRoot, Path.resolve_display Path.entry_of_mem_resolve]
  have rooted : Path.isAbsolute (FungiPaths.fromFungiHomeForChannel
      (Path.display (Path.resolve fungiDir)) channel).appdataRoot :=
    Path.isAbsolute_join (Path.isAbsolute_display _) _
  have prefixes : ∀ root : List Name, root.isPrefixOf place = decide (root <+: place) := by
    intro root
    rw [Bool.eq_iff_iff, decide_eq_true_iff, List.isPrefixOf_iff_prefix]
  unfold isSensitiveFungiPath normalizeAbsolutePath
  by_cases absolute : Path.isAbsolute fungiDir
  · rw [if_pos absolute, ok_bind, if_pos rooted, ok_bind, appdata, pure_eq_ok, prefixes, prefixes]
    simp only [absolute, true_and, inControlPlane_iff, Bool.decide_and, decide_not]
    exact eq_comm
  · rw [if_neg absolute]
    simp [absolute, Bind.bind, Except.bind]

theorem validateAllowedHostPath_eq_ok {path : String} {normalized : List Name} :
    validateAllowedHostPath channel path fungiDir = .ok normalized ↔
      Path.isAbsolute path ∧ Path.isAbsolute fungiDir ∧
        ¬ InControlPlane channel fungiDir (Path.resolve path) ∧ normalized = Path.resolve path := by
  unfold validateAllowedHostPath
  simp only [bind_eq_ok, normalizeAbsolutePath_eq_ok, isSensitiveFungiPath_eq_ok]
  constructor
  · rintro ⟨_, ⟨absolute, rfl⟩, _, ⟨rooted, rfl⟩, accepted⟩
    split at accepted
    · obtain ⟨appdataRoot, -, refused⟩ := bind_eq_ok.mp accepted
      exact (throw_eq_ok.mp refused).elim
    · next outside =>
        exact ⟨absolute, rooted, by simpa using outside, (pure_eq_ok.mp accepted).symm⟩
  · rintro ⟨absolute, rooted, outside, rfl⟩
    refine ⟨_, ⟨absolute, rfl⟩, _, ⟨rooted, rfl⟩, ?_⟩
    rw [if_neg (by simpa using outside), pure_eq_ok]

theorem accepted_iff {root : String} :
    Accepted channel fungiDir root ↔
      Path.isAbsolute root ∧ Path.isAbsolute fungiDir ∧
        ¬ InControlPlane channel fungiDir (Path.resolve root) := by
  simp [Accepted, validateAllowedHostPath_eq_ok]

/-- The operations keep accepted roots only. -/
theorem Built.accepted {config : RuntimeConfig} (built : Built channel fungiDir config) :
    ∀ root ∈ config.allowedHostPaths, Accepted channel fungiDir root := by
  induction built with
  | default => exact nofun
  | @added config next path built added inductionHypothesis =>
      unfold addAllowedHostPath at added
      obtain ⟨normalized, validated, saved⟩ := bind_eq_ok.mp added
      obtain ⟨absolute, rooted, outside, rfl⟩ := validateAllowedHostPath_eq_ok.mp validated
      dsimp only at saved
      split at saved
      · obtain rfl := pure_eq_ok.mp saved
        exact inductionHypothesis
      · obtain rfl := pure_eq_ok.mp saved
        intro root member
        rw [List.mem_mergeSort, List.mem_append, List.mem_singleton] at member
        rcases member with old | rfl
        · exact inductionHypothesis root old
        · rw [accepted_iff, Path.resolve_display Path.entry_of_mem_resolve]
          exact ⟨Path.isAbsolute_display _, rooted, outside⟩
  | removed built inductionHypothesis =>
      intro root member
      exact inductionHypothesis root (List.mem_of_mem_filter member)

theorem inControlPlane_home : InControlPlane channel fungiDir (Path.resolve fungiDir) := by
  rw [inControlPlane_iff]
  exact ⟨List.prefix_rfl, fun longer => absurd longer.length_le (by simp)⟩

/-- A root opens the control plane when it lies in it or leads to the fungi home. -/
theorem opens_iff {root : List Name} :
    (∃ place, root <+: place ∧ InControlPlane channel fungiDir place) ↔
      root <+: Path.resolve fungiDir ∨ InControlPlane channel fungiDir root := by
  constructor
  · rintro ⟨place, below, inHome, outside⟩
    rcases List.prefix_or_prefix_of_prefix below inHome with above | inside
    · exact .inl above
    · exact .inr ⟨inside, fun appdata => outside (appdata.trans below)⟩
  · rintro (above | inside)
    · exact ⟨Path.resolve fungiDir, above, inControlPlane_home⟩
    · exact ⟨root, List.prefix_rfl, inside⟩

end RuntimeConfig

end Fungi.Config
