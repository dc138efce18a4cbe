import Fungi.Config.RuntimeConfig
import Fungi.Runtime.Wasmtime

/-!
# Mount roots and the control plane

The two checks of a mount, in `crates/daemon/src/runtime/helpers.rs` and in the policy of
`crates/docker-agent`, under the roots that `providers.rs` and `controls/docker.rs` make of the
default and the configured ones.
-/

namespace Fungi.Runtime

open Fungi.Lib Fungi.Config

/-- The roots of the wasmtime provider. -/
def withDefaultMountRoots (channel : DistChannel) (fungiHome : String) (paths : List String) :
    List String :=
  Path.sortDedup (paths ++ RuntimeConfig.defaultAllowedHostPaths channel fungiHome)

/-- The policy of the Docker provider. -/
def buildAgentPolicy (config : RuntimeConfig) (defaultAllowedHostPaths : List String) :
    AgentPolicy :=
  { managedLabelKey := "managed_by"
    managedLabelValue := "fungi"
    allowedHostPaths := Path.sortDedup (defaultAllowedHostPaths ++ config.allowedHostPaths)
    allowedPorts := [] }

/-- No mount that one of the two checks admits is of the control plane. -/
def MountsSpareControlPlane (channel : DistChannel) (fungiHome : String)
    (config : RuntimeConfig) : Prop :=
  (∀ manifest : ServiceManifest,
    validateAllowedHostPaths manifest
        (withDefaultMountRoots channel fungiHome config.allowedHostPaths) = .ok () →
      ∀ mount ∈ manifest.mounts,
        ¬ InControlPlane channel fungiHome (Path.resolve mount.hostPath)) ∧
  ∀ spec : ContainerSpec,
    (buildAgentPolicy config
        (RuntimeConfig.defaultAllowedHostPaths channel fungiHome)).validateCreateSpec spec =
          .ok () →
      ∀ mount ∈ spec.mounts,
        ¬ InControlPlane channel fungiHome (Path.resolve mount.hostPath)

/-- Neither the default user root nor a configured root leads to the fungi home, and the user root
is not in the control plane, unless the fungi home has no parent directory. -/
def RootsSpareControlPlane (channel : DistChannel) (fungiHome : String)
    (config : RuntimeConfig) : Prop :=
  Path.isAbsolute fungiHome → Path.parent fungiHome ≠ none →
    let userRoot := (FungiPaths.fromFungiHomeForChannel fungiHome channel).userRoot
    ¬ Path.resolve userRoot <+: Path.resolve fungiHome ∧
      ¬ InControlPlane channel fungiHome (Path.resolve userRoot) ∧
      ∀ root ∈ config.allowedHostPaths, ¬ Path.resolve root <+: Path.resolve fungiHome

/-! ## What the checks admit -/

/-- All the roots are absolute, and the path lies below one of them. -/
structure Admitted (roots : List String) (hostPath : String) : Prop where
  rooted : ∀ root ∈ roots, Path.isAbsolute root
  absolute : Path.isAbsolute hostPath
  below : ∃ root ∈ roots, Path.resolve root <+: Path.resolve hostPath

theorem normalizeAbsolutePath_eq_ok (path : String) (place : List Name) :
    normalizeAbsolutePath path = .ok place ↔
      Path.isAbsolute path ∧ place = Path.resolve path := by
  unfold normalizeAbsolutePath
  split
  · next absolute => simp [absolute, eq_comm]
  · next relative => simp [relative]

theorem normalizePath_eq_ok (path : String) (place : List Name) :
    AgentPolicy.normalizePath path = .ok place ↔
      Path.isAbsolute path ∧ place = Path.resolve path := by
  unfold AgentPolicy.normalizePath
  split
  · next absolute => simp [absolute, eq_comm]
  · next relative => simp [relative]

theorem any_isPrefixOf_iff {roots : List String} {place : List Name} :
    (roots.map Path.resolve).any (·.isPrefixOf place) ↔
      ∃ root ∈ roots, Path.resolve root <+: place := by
  simp

theorem validateMounts_eq_ok {roots : List String} {mounts : List ServiceMount} :
    validateMounts (roots.map Path.resolve) mounts = .ok () ↔
      ∀ mount ∈ mounts, Path.isAbsolute mount.hostPath ∧
        ∃ root ∈ roots, Path.resolve root <+: Path.resolve mount.hostPath := by
  induction mounts with
  | nil => simp [validateMounts]
  | cons mount rest inductionHypothesis =>
      rw [validateMounts, bind_eq_ok, List.forall_mem_cons, ← inductionHypothesis]
      constructor
      · rintro ⟨place, normalized, accepted⟩
        obtain ⟨absolute, rfl⟩ := (normalizeAbsolutePath_eq_ok _ _).mp normalized
        split at accepted
        · next below => exact ⟨⟨absolute, any_isPrefixOf_iff.mp below⟩, accepted⟩
        · exact (throw_eq_ok.mp accepted).elim
      · rintro ⟨⟨absolute, below⟩, accepted⟩
        refine ⟨_, (normalizeAbsolutePath_eq_ok _ _).mpr ⟨absolute, rfl⟩, ?_⟩
        rw [if_pos (any_isPrefixOf_iff.mpr below), accepted]

theorem validateAllowedHostPaths_eq_ok {manifest : ServiceManifest} {roots : List String} :
    validateAllowedHostPaths manifest roots = .ok () ↔
      (∀ root ∈ roots, Path.isAbsolute root) ∧
        ∀ mount ∈ manifest.mounts, Path.isAbsolute mount.hostPath ∧
          ∃ root ∈ roots, Path.resolve root <+: Path.resolve mount.hostPath := by
  simp only [validateAllowedHostPaths, bind_eq_ok, mapM_eq_ok normalizeAbsolutePath_eq_ok]
  constructor
  · rintro ⟨_, ⟨absolute, rfl⟩, accepted⟩
    exact ⟨absolute, validateMounts_eq_ok.mp accepted⟩
  · rintro ⟨absolute, accepted⟩
    exact ⟨_, ⟨absolute, rfl⟩, validateMounts_eq_ok.mpr accepted⟩

/-- A container is created only with admitted mounts. -/
theorem AgentPolicy.admitted_of_validateCreateSpec {policy : AgentPolicy} {spec : ContainerSpec}
    (accepted : policy.validateCreateSpec spec = .ok ()) :
    ∀ mount ∈ spec.mounts, Admitted policy.allowedHostPaths mount.hostPath := by
  intro mount member
  obtain ⟨-, named⟩ := guard_eq_ok.mp accepted
  obtain ⟨-, validated⟩ := guard_eq_ok.mp named
  obtain ⟨_, mounts, -⟩ := bind_eq_ok.mp validated
  obtain ⟨_, valid⟩ := exists_of_mapM_eq_ok mounts mount member
  obtain ⟨-, checked⟩ := guard_eq_ok.mp valid
  obtain ⟨place, normalized, compared⟩ := bind_eq_ok.mp checked
  obtain ⟨absolute, rfl⟩ := (normalizePath_eq_ok _ _).mp normalized
  obtain ⟨places, roots, among⟩ := bind_eq_ok.mp compared
  obtain ⟨rooted, rfl⟩ := (mapM_eq_ok normalizePath_eq_ok).mp roots
  split at among
  · next below => exact ⟨rooted, absolute, any_isPrefixOf_iff.mp below⟩
  · exact (throw_eq_ok.mp among).elim

/-- Sorting the roots changes nothing. -/
theorem admitted_sortDedup {roots : List String} {hostPath : String} :
    Admitted (Path.sortDedup roots) hostPath ↔ Admitted roots hostPath := by
  have rooted : (∀ root ∈ Path.sortDedup roots, Path.isAbsolute root) ↔
      ∀ root ∈ roots, Path.isAbsolute root := by
    have relative := Path.exists_mem_sortDedup (fun root => ¬ Path.isAbsolute root)
      (fun left right same => by rw [Path.isAbsolute_eq_of_components same]) roots
    simpa only [not_exists, not_and, not_not] using not_congr relative
  have below := Path.exists_mem_sortDedup
    (fun root => Path.resolve root <+: Path.resolve hostPath)
    (fun left right same => by rw [Path.resolve_eq_of_components same]) roots
  constructor
  · exact fun admitted =>
      ⟨rooted.mp admitted.rooted, admitted.absolute, below.mp admitted.below⟩
  · exact fun admitted =>
      ⟨rooted.mpr admitted.rooted, admitted.absolute, below.mpr admitted.below⟩

/-! ## The roots -/

section Roots

variable {channel : DistChannel} {fungiHome : String} {config : RuntimeConfig}

/-- A path that one of the two providers may mount. -/
theorem admitted_withDefaultMountRoots {hostPath : String} :
    Admitted (withDefaultMountRoots channel fungiHome config.allowedHostPaths) hostPath ↔
      Admitted (RuntimeConfig.defaultAllowedHostPaths channel fungiHome ++
        config.allowedHostPaths) hostPath := by
  rw [withDefaultMountRoots, admitted_sortDedup]
  constructor <;>
  · intro admitted
    refine ⟨?_, admitted.absolute, ?_⟩
    · simpa only [List.mem_append, or_comm] using admitted.rooted
    · simpa only [List.mem_append, or_comm] using admitted.below

/-- The default roots are absolute exactly below a fungi home with a parent directory. -/
theorem defaults_absolute_iff :
    (∀ root ∈ RuntimeConfig.defaultAllowedHostPaths channel fungiHome, Path.isAbsolute root) ↔
      Path.isAbsolute fungiHome ∧ Path.parent fungiHome ≠ none := by
  have relative : ∀ channel, Path.isAbsolute (userRootDirNameForChannel channel) = false := by
    intro channel
    cases channel <;> decide
  have userRoot : Path.isAbsolute (FungiPaths.fromFungiHomeForChannel fungiHome channel).userRoot ↔
      Path.isAbsolute ((Path.parent fungiHome).getD ".") :=
    Path.isAbsolute_join_iff (relative channel)
  have appdata : Path.isAbsolute
      (FungiPaths.fromFungiHomeForChannel fungiHome channel).appdataRoot ↔
        Path.isAbsolute fungiHome := Path.isAbsolute_join_iff (by decide)
  simp only [RuntimeConfig.defaultAllowedHostPaths, List.forall_mem_cons, appdata, userRoot]
  cases isParent : Path.parent fungiHome with
  | none => simp [Path.isAbsolute]
  | some above =>
      simp only [Option.getD_some, List.not_mem_nil, false_imp_iff, implies_true, and_true, ne_eq,
        reduceCtorEq, not_false_eq_true]
      exact ⟨fun both => both.1, fun absolute =>
        ⟨absolute, Path.isAbsolute_parent absolute isParent⟩⟩

/-- A component that mounts one host path. -/
def mounting (hostPath : String) : ServiceManifest :=
  { name := "files"
    definitionId := none
    runtime := .wasmtime
    runMode := .command
    source := .wasmtimeFile "/files.wasm"
    expose := none
    env := ∅
    mounts := [{ hostPath, runtimePath := "/data" }]
    ports := []
    command := []
    entrypoint := []
    workingDir := none
    labels := ∅ }

/-- Both checks admit below the same roots. -/
theorem mountsSpareControlPlane_iff :
    MountsSpareControlPlane channel fungiHome config ↔
      ∀ hostPath, Admitted (RuntimeConfig.defaultAllowedHostPaths channel fungiHome ++
          config.allowedHostPaths) hostPath →
        ¬ InControlPlane channel fungiHome (Path.resolve hostPath) := by
  constructor
  · rintro ⟨spared, -⟩ hostPath admitted
    obtain ⟨rooted, absolute, below⟩ := admitted_withDefaultMountRoots.mpr admitted
    apply spared (mounting hostPath) _ { hostPath, runtimePath := "/data" } (by simp [mounting])
    rw [validateAllowedHostPaths_eq_ok]
    refine ⟨rooted, fun mount member => ?_⟩
    obtain rfl := List.mem_singleton.mp member
    exact ⟨absolute, below⟩
  · intro spared
    constructor
    · intro manifest validated mount member
      obtain ⟨rooted, mounts⟩ := validateAllowedHostPaths_eq_ok.mp validated
      obtain ⟨absolute, below⟩ := mounts mount member
      exact spared _ (admitted_withDefaultMountRoots.mp ⟨rooted, absolute, below⟩)
    · intro spec validated mount member
      have admitted := AgentPolicy.admitted_of_validateCreateSpec validated mount member
      exact spared _ (admitted_sortDedup.mp admitted)

/-- Accepted roots keep the mounts out of the control plane exactly if no root leads to the fungi
home and the default user root is not in the control plane itself. -/
theorem mountsSpareControlPlane_iff_roots
    (accepted : ∀ root ∈ config.allowedHostPaths, RuntimeConfig.Accepted channel fungiHome root) :
    MountsSpareControlPlane channel fungiHome config ↔
      RootsSpareControlPlane channel fungiHome config := by
  simp only [RuntimeConfig.accepted_iff] at accepted
  rw [mountsSpareControlPlane_iff]
  constructor
  · intro spared absolute hasParent
    have rooted : ∀ root ∈ RuntimeConfig.defaultAllowedHostPaths channel fungiHome ++
        config.allowedHostPaths, Path.isAbsolute root := by
      intro root member
      rcases List.mem_append.mp member with default | extra
      · exact defaults_absolute_iff.mpr ⟨absolute, hasParent⟩ root default
      · exact (accepted root extra).1
    have closed : ∀ root ∈ RuntimeConfig.defaultAllowedHostPaths channel fungiHome ++
        config.allowedHostPaths, ¬ Path.resolve root <+: Path.resolve fungiHome ∧
          ¬ InControlPlane channel fungiHome (Path.resolve root) := by
      intro root member
      constructor
      · intro above
        exact spared fungiHome ⟨rooted, absolute, root, member, above⟩
          RuntimeConfig.inControlPlane_home
      · exact spared root ⟨rooted, rooted root member, root, member, List.prefix_rfl⟩
    have userRoot := closed (FungiPaths.fromFungiHomeForChannel fungiHome channel).userRoot
      (by simp [RuntimeConfig.defaultAllowedHostPaths])
    exact ⟨userRoot.1, userRoot.2, fun root member =>
      (closed root (List.mem_append_right _ member)).1⟩
  · intro closed hostPath admitted inside
    obtain ⟨rooted, -, root, member, below⟩ := admitted
    obtain ⟨absolute, hasParent⟩ := defaults_absolute_iff.mp fun root default =>
      rooted root (List.mem_append_left _ default)
    obtain ⟨userRootAbove, userRootInside, extraAbove⟩ := closed absolute hasParent
    have opened := RuntimeConfig.opens_iff.mp ⟨_, below, inside⟩
    rcases List.mem_append.mp member with default | extra
    · rcases List.mem_pair.mp default with rfl | rfl
      · exact inside.2 below
      · exact opened.elim userRootAbove userRootInside
    · exact opened.elim (extraAbove root extra) (accepted root extra).2.2

end Roots

/-- A configured root next to the fungi home. -/
theorem mountsSpareControlPlane_iff_roots_data :
    MountsSpareControlPlane .stable "/home/user/.fungi" { allowedHostPaths := ["/srv/data"] } := by
  apply (mountsSpareControlPlane_iff_roots _).mpr
  · intro _ _
    decide +kernel
  · intro root member
    obtain rfl := List.mem_singleton.mp member
    rw [RuntimeConfig.accepted_iff]
    decide +kernel

/-- The home directory of the user is accepted as a root, and opens the fungi home in it. -/
theorem mounts_reach_control_plane :
    RuntimeConfig.Accepted .stable "/home/user/.fungi" "/home/user" ∧
      ¬ MountsSpareControlPlane .stable "/home/user/.fungi"
        { allowedHostPaths := ["/home/user"] } := by
  constructor
  · rw [RuntimeConfig.accepted_iff]
    decide +kernel
  · rw [mountsSpareControlPlane_iff]
    intro spared
    apply spared "/home/user/.fungi/.keys"
    · exact ⟨by decide +kernel, by decide +kernel, by decide +kernel⟩
    · decide +kernel

end Fungi.Runtime
