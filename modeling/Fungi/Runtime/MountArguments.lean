import Fungi.Runtime.MountRoots

/-!
# Mounts of a component

The `--dir` arguments of `build_wasmtime_command` in `crates/daemon/src/runtime/helpers.rs`.  They
join the host path that was checked and the path of the guest, and wasmtime splits them again.
-/

namespace Fungi.Runtime

open Fungi.Lib

/-- The host part of the value of `--dir`, and the guest part where there is one. -/
def readDirArgument (argument : String) : String × Option String :=
  match splitAtFirst "::".toList argument.toList with
  | some parts => (String.ofList parts.1, some (String.ofList parts.2))
  | none => (argument, none)

/-- The path of the guest, relative to its root. -/
def guestPath (mount : ServiceMount) : String := trimStartSlashes (trim mount.runtimePath)

/-- The argument that follows `--dir`. -/
def dirArgument (mount : ServiceMount) : String :=
  if guestPath mount = "" then mount.hostPath else mount.hostPath ++ "::" ++ guestPath mount

theorem mountArguments_eq (mount : ServiceMount) :
    mountArguments mount = ["--dir", dirArgument mount] := rfl

/-- Every mount has its argument among those of the command. -/
theorem dirArgument_among {setup : RuntimeSetup} {state : WasmtimeServiceState}
    {arguments : List String} (built : buildWasmtimeCommand setup state = .ok arguments)
    {mount : ServiceMount} (member : mount ∈ state.manifest.mounts) :
    ["--dir", dirArgument mount] <:+: arguments := by
  obtain ⟨options, joined⟩ : ∃ options, arguments = options ++
      state.manifest.mounts.flatMap mountArguments ++
        (state.stagedComponentPath :: state.manifest.command) := by
    dsimp only [buildWasmtimeCommand] at built
    generalize (if hasTcpPorts state.manifest then _ else _ : List String) = network at built
    split at built
    · split at built
      · cases built
        exact ⟨_, List.append_assoc _ _ _⟩
      · cases built
    · cases built
      exact ⟨_, List.append_assoc _ _ _⟩
  have mounts : ["--dir", dirArgument mount] <:+: state.manifest.mounts.flatMap mountArguments := by
    obtain ⟨before, after, split⟩ := List.append_of_mem member
    rw [split, List.flatMap_append, List.flatMap_cons, mountArguments_eq]
    exact ⟨_, _, List.append_assoc _ _ _⟩
  rw [joined]
  exact mounts.trans (List.infix_append _ _ _)

/-- Wasmtime reads the host path that was admitted, and the path of the guest if there is one. -/
structure MountFaithful (allowedHostPaths : List String) (mount : ServiceMount)
    (argument : String) : Prop where
  host : (readDirArgument argument).1 = mount.hostPath
  guest : guestPath mount ≠ "" → (readDirArgument argument).2 = some (guestPath mount)
  admitted : Admitted allowedHostPaths (readDirArgument argument).1

/-- The host path does not hold the separator, nor end in the first half of the one before the path
of the guest. -/
def Separable (mount : ServiceMount) : Prop :=
  ¬ "::".toList <:+: mount.hostPath.toList ∧
    (guestPath mount ≠ "" → mount.hostPath.toList.getLast? ≠ some ':')

instance (mount : ServiceMount) : Decidable (Separable mount) := inferInstanceAs (Decidable (_ ∧ _))

theorem readDirArgument_whole {path : String} :
    (readDirArgument path).1 = path ↔ ¬ "::".toList <:+: path.toList := by
  unfold readDirArgument
  rw [← splitAtFirst_eq_none (by decide)]
  cases split : splitAtFirst "::".toList path.toList with
  | none => simp
  | some parts =>
      refine iff_of_false (fun same => ?_) nofun
      -- what stands before a separator is shorter than the text
      have shorter := congrArg List.length (splitAtFirst_eq_some split)
      rw [← same] at shorter
      simp at shorter

theorem readDirArgument_joined {host guest : String} :
    readDirArgument (host ++ "::" ++ guest) = (host, some guest) ↔
      ¬ "::".toList <:+: host.toList ∧ host.toList.getLast? ≠ some ':' := by
  have separator : "::".toList = [':', ':'] := rfl
  have joined : (host ++ "::" ++ guest).toList = host.toList ++ ([':', ':'] ++ guest.toList) := by
    simp [String.toList_append]
  rw [ne_eq, separator, ← not_or, ← doubled_infix_snoc,
    ← @splitAtFirst_joined ':' host.toList guest.toList, readDirArgument, separator, joined]
  cases splitAtFirst [':', ':'] (host.toList ++ ([':', ':'] ++ guest.toList)) with
  | none => simp
  | some parts =>
      obtain ⟨front, back⟩ := parts
      simp [← String.toList_inj]

/-- A service is built from a manifest whose host paths were all admitted. -/
theorem buildWasmtimeState_validated {setup : RuntimeSetup} {serviceArtifactsDir : String}
    {allowedHostPaths : List String} {manifest : ServiceManifest} {restageComponent : Bool}
    {host final : Host} {state : WasmtimeServiceState}
    (accepted : buildWasmtimeState setup serviceArtifactsDir allowedHostPaths manifest
      restageComponent host = (.ok state, final)) :
    state.manifest = manifest ∧ validateAllowedHostPaths manifest allowedHostPaths = .ok () := by
  unfold buildWasmtimeState at accepted
  obtain ⟨_, _, -, accepted⟩ := (Program.bind_eq_ok _).mp accepted
  obtain ⟨_, _, validated, accepted⟩ := (Program.bind_eq_ok _).mp accepted
  obtain ⟨_, _, -, accepted⟩ := (Program.bind_eq_ok _).mp accepted
  obtain ⟨_, _, -, accepted⟩ := (Program.bind_eq_ok _).mp accepted
  obtain ⟨_, _, -, accepted⟩ := (Program.bind_eq_ok _).mp accepted
  obtain ⟨_, _, -, accepted⟩ := (Program.bind_eq_ok _).mp accepted
  cases accepted
  exact ⟨rfl, ((Program.ofExcept_eq_ok _).mp validated).1⟩

/-- Wasmtime opens the directory that was checked, under the name that was given, exactly when the
host path can be told apart from the rest of the argument. -/
theorem mountArguments_faithful_iff {setup : RuntimeSetup} {serviceArtifactsDir : String}
    {allowedHostPaths : List String} {manifest : ServiceManifest} {restageComponent : Bool}
    {host final : Host} {state : WasmtimeServiceState} {arguments : List String}
    (accepted : buildWasmtimeState setup serviceArtifactsDir allowedHostPaths manifest
      restageComponent host = (.ok state, final))
    (built : buildWasmtimeCommand setup state = .ok arguments) :
    ∀ mount ∈ manifest.mounts,
      ["--dir", dirArgument mount] <:+: arguments ∧
        (MountFaithful allowedHostPaths mount (dirArgument mount) ↔ Separable mount) := by
  obtain ⟨rfl, validated⟩ := buildWasmtimeState_validated accepted
  intro mount member
  refine ⟨dirArgument_among built member, ?_⟩
  obtain ⟨rooted, mounts⟩ := validateAllowedHostPaths_eq_ok.mp validated
  obtain ⟨absolute, below⟩ := mounts mount member
  have admitted : Admitted allowedHostPaths mount.hostPath := ⟨rooted, absolute, below⟩
  unfold Separable dirArgument
  by_cases unnamed : guestPath mount = ""
  · rw [if_pos unnamed]
    constructor
    · intro faithful
      exact ⟨readDirArgument_whole.mp faithful.host, fun named => absurd unnamed named⟩
    · rintro ⟨separable, -⟩
      have whole := readDirArgument_whole.mpr separable
      exact ⟨whole, fun named => absurd unnamed named, whole.symm ▸ admitted⟩
  · rw [if_neg unnamed]
    constructor
    · intro faithful
      have both := readDirArgument_joined.mp (Prod.ext faithful.host (faithful.guest unnamed))
      exact ⟨both.1, fun _ => both.2⟩
    · rintro ⟨separable, notHalf⟩
      have read := (@readDirArgument_joined mount.hostPath (guestPath mount)).mpr
        ⟨separable, notHalf unnamed⟩
      constructor
      · rw [read]
      · intro _
        rw [read]
      · rw [read]
        exact admitted

/-- A daemon on a machine with one component. -/
def componentSetup : RuntimeSetup :=
  { yaml := .ofTable [] (by decide) (by decide)
    json := .unary
    channel := .stable
    fungiHome := "/f"
    docker := none
    wasmtimeEnabled := true }

/-- A machine with nothing but a component. -/
def componentMachine : Host :=
  .fresh (.ofList [([], .directory), (["files.wasm".toList], .file "wasm")]) []

/-- What is built for a component that mounts the host path. -/
def mountingState (hostPath : String) : WasmtimeServiceState :=
  { manifest := mounting hostPath
    sourceDisplay := "/files.wasm"
    stagedComponentPath := "/f/artifacts/component.wasm"
    serviceDir := "/f/artifacts"
    runtimeDir := "/f/runtime/wasmtime/files"
    logFilePath := "/f/runtime/wasmtime/files/runtime.log"
    child := none
    lastExitCode := none }

theorem mountArguments_faithful_iff_data :
    MountFaithful ["/srv"] { hostPath := "/srv/data", runtimePath := "/data" }
      "/srv/data::data" := by
  have accepted : (buildWasmtimeState componentSetup "/f/artifacts" ["/srv"] (mounting "/srv/data")
      true componentMachine).1 = .ok (mountingState "/srv/data") := by decide +kernel
  have argument : dirArgument { hostPath := "/srv/data", runtimePath := "/data" } =
      "/srv/data::data" := by decide +kernel
  have built : buildWasmtimeCommand componentSetup (mountingState "/srv/data") =
      .ok ["--fungi-dir", "/f", "run", "-Scli", "--dir", "/srv/data::data",
        "/f/artifacts/component.wasm"] := by decide +kernel
  have both := mountArguments_faithful_iff (Prod.ext accepted rfl) built
    { hostPath := "/srv/data", runtimePath := "/data" } (by decide)
  rw [argument] at both
  exact both.2.mpr (by decide +kernel)

/-- The directory before the separator of an accepted host path is opened in its place. -/
theorem mount_argument_reads_other_path :
    (buildWasmtimeState componentSetup "/f/artifacts" ["/srv"] (mounting "/srv/a::b") true
        componentMachine).1 = .ok (mountingState "/srv/a::b") ∧
      readDirArgument (dirArgument { hostPath := "/srv/a::b", runtimePath := "/data" }) =
        ("/srv/a", some "b::data") ∧
      ¬ MountFaithful ["/srv"] { hostPath := "/srv/a::b", runtimePath := "/data" }
        (dirArgument { hostPath := "/srv/a::b", runtimePath := "/data" }) := by
  have read : readDirArgument (dirArgument { hostPath := "/srv/a::b", runtimePath := "/data" }) =
      ("/srv/a", some "b::data") := by decide +kernel
  refine ⟨by decide +kernel, read, fun faithful => ?_⟩
  have host := faithful.host
  rw [read] at host
  exact absurd host (by decide)

end Fungi.Runtime
