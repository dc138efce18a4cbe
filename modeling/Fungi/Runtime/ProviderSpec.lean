import Fungi.Runtime.Apply

/-!
# What the providers change

The providers act on files, containers and child processes and on nothing else of the
daemon.  Which files they change follows from a rule for changes and from what holds of
every service in the Wasmtime provider's map; each function is verified once against any
such pair.
-/

namespace Fungi.Runtime

open Fungi.Lib Fungi.Config

/-! ## The frame -/

/-- Every service of the Wasmtime provider is as `good` says. -/
def EveryService (good : String → WasmtimeServiceState → Prop) (host : Host) : Prop :=
  ∀ (name : String) state, host.wasmtimeServices[name]? = some state → good name state

/-- Files change by the rule, and good services stay good. -/
def providerFrame (rule : FileSystem.ChangeRule) (good : String → WasmtimeServiceState → Prop) :
    Program.Frame Host where
  Allows before after := EveryService good before → EveryService good after ∧
    (∀ place, rule.Allows place (before.files place) (after.files place)) ∧
    after =
      { before with
        files := after.files, outcomes := after.outcomes, containers := after.containers
        wasmtimeServices := after.wasmtimeServices }
  refl host every := ⟨every, fun place => rule.refl place _, rfl⟩
  trans := by
    intro first second third before after every
    obtain ⟨everySecond, filesSecond, onlySecond⟩ := before every
    obtain ⟨everyThird, filesThird, onlyThird⟩ := after everySecond
    refine ⟨everyThird, fun place => rule.trans (filesSecond place) (filesThird place), ?_⟩
    rw [onlyThird, onlySecond]

/-- What the rule must allow for a service in the map, and what keeps it good. -/
structure Governs (rule : FileSystem.ChangeRule)
    (good : String → WasmtimeServiceState → Prop) (name : String) : Prop where
  refreshed : ∀ {state}, good name state → ∀ child lastExitCode,
    good name { state with child, lastExitCode }
  logged : ∀ {state}, good name state → ∀ node content,
    rule.Allows (Path.resolve state.logFilePath) node (some (.file content))
  removed : ∀ {state}, good name state → ∀ place,
    Path.resolve state.serviceDir <+: place ∨ Path.resolve state.runtimeDir <+: place →
      ∀ node, rule.Allows place node none

/-- The provider keeps a service where its name and local service id say. -/
structure Located (setup : RuntimeSetup) (name localServiceId : String)
    (state : WasmtimeServiceState) : Prop where
  serviceDir : state.serviceDir = setup.serviceArtifactsDir localServiceId
  runtimeDir : state.runtimeDir = setup.runtimeDir name
  logFilePath : state.logFilePath = Path.join (setup.runtimeDir name) "runtime.log"

/-- What the rule must allow for a service that is built or removed. -/
structure Admits (setup : RuntimeSetup) (rule : FileSystem.ChangeRule)
    (good : String → WasmtimeServiceState → Prop) (name localServiceId : String) : Prop where
  made : ∀ place, place ∈ Path.ancestors (setup.serviceArtifactsDir localServiceId) ∨
    place ∈ Path.ancestors (setup.runtimeDir name) → rule.Allows place none (some .directory)
  staged : ∀ node content, rule.Allows
    (Path.resolve (Path.join (setup.serviceArtifactsDir localServiceId) "component.wasm")) node
    (some (.file content))
  logged : ∀ node content, rule.Allows
    (Path.resolve (Path.join (setup.runtimeDir name) "runtime.log")) node (some (.file content))
  removed : ∀ place, Path.resolve (setup.serviceArtifactsDir localServiceId) <+: place ∨
    Path.resolve (setup.runtimeDir name) <+: place → ∀ node, rule.Allows place node none
  built : ∀ state, Located setup name localServiceId state → good name state

/-- The rule allows the mount directories of a manifest to be made. -/
def MountsMade (rule : FileSystem.ChangeRule) (manifest : ServiceManifest) : Prop :=
  ∀ mount ∈ manifest.mounts, ∀ place ∈ Path.ancestors mount.hostPath,
    rule.Allows place none (some .directory)

section Frame

variable {rule : FileSystem.ChangeRule} {good : String → WasmtimeServiceState → Prop}
  {setup : RuntimeSetup} {name localServiceId : String} {manifest : ServiceManifest}

theorem within_of_files {Value : Type} {action : Action Value}
    (within : Program.Within (filesFrame rule) action) :
    Program.Within (providerFrame rule good) action := by
  apply within.mono
  intro before after allowed every
  refine ⟨?_, allowed.1, ?_⟩
  · rw [allowed.2]
    exact every
  · rw [allowed.2]

/-! ## The Docker provider -/

theorem engineStep_within
    (effect : BTreeMap String Container → Except Error (BTreeMap String Container)) :
    Program.Within (providerFrame rule good) (engineStep effect) := by
  have changed : ∀ host outcomes containers,
      (providerFrame rule good).Allows host { host with outcomes, containers } := by
    intro host outcomes containers every
    exact ⟨every, fun place => rule.refl place _, rfl⟩
  intro host
  unfold engineStep externalStep
  split
  · dsimp only
    split
    · exact changed host _ _
    · exact changed host _ _
  · dsimp only
    cases effect host.containers with
    | ok containers => exact changed host _ _
    | error error => exact changed host _ host.containers

theorem ensureManaged_within (policy : AgentPolicy) (name : String) :
    Program.Within (providerFrame rule good) (DockerAgent.ensureManaged policy name) := by
  unfold DockerAgent.ensureManaged inspectRequest changeContainer DockerAgent.ensureManagedLabels
  apply Program.Within.bind
  · apply (engineStep_within _).bind
    intro _
    apply (Program.within_gets _).bind
    intro host
    cases host.containers[name]? with
    | none => exact Program.within_fail _
    | some container => exact Program.within_pure _
  · intro container
    exact Program.Within.ite (Program.within_pure _) (Program.within_fail _)

theorem createOrPull_within (policy : AgentPolicy) (spec : ContainerSpec) :
    Program.Within (providerFrame rule good) (DockerAgent.createOrPull policy spec) := by
  unfold DockerAgent.createOrPull
  apply (engineStep_within _).attempt.bind
  intro outcome
  cases outcome with
  | ok _ => exact Program.within_pure _
  | error error =>
      cases error with
      | message text => exact Program.within_fail _
      | dockerApi status text =>
          apply Program.Within.ite
          · exact (engineStep_within _).bind fun _ => engineStep_within _
          · exact Program.within_fail _

theorem createContainer_within (policy : AgentPolicy) (spec : ContainerSpec) :
    Program.Within (providerFrame rule good) (DockerAgent.createContainer policy spec) := by
  unfold DockerAgent.createContainer DockerAgent.inspectContainer
  apply (Program.within_ofExcept _).bind
  intro _
  apply (createOrPull_within policy spec).bind
  intro _
  exact ensureManaged_within policy _

theorem ensureManifestMountDirs_within (mounts : MountsMade rule manifest) :
    Program.Within (filesFrame rule) (ensureManifestMountDirs manifest) := by
  unfold ensureManifestMountDirs
  apply Program.Within.forEach
  intro mount membership
  exact createDirAll_within (mounts mount membership)

theorem pullWithContainerName_within (mounts : MountsMade rule manifest) (policy : AgentPolicy)
    (containerName : String) :
    Program.Within (providerFrame rule good)
      (DockerRuntimeProvider.pullWithContainerName policy manifest containerName) := by
  unfold DockerRuntimeProvider.pullWithContainerName
  apply (within_of_files (ensureManifestMountDirs_within mounts)).bind
  intro _
  apply (Program.within_ofExcept _).bind
  intro spec
  exact createContainer_within policy spec

/-- A request on a container that is checked to be managed. -/
theorem managedRequest_within (policy : AgentPolicy) (name : String)
    (change : Container → Except Error (Option Container)) :
    Program.Within (providerFrame rule good) (do
      DockerAgent.ensureManaged policy name
      changeContainer name change) := by
  apply (ensureManaged_within policy name).bind
  intro _
  exact engineStep_within _

/-! ## The Wasmtime provider -/

open WasmtimeRuntimeProvider

theorem putService_within {state : WasmtimeServiceState} (held : good name state) :
    Program.Within (providerFrame rule good) (putService name state) := by
  intro host every
  refine ⟨?_, fun place => rule.refl place _, rfl⟩
  intro other found present
  dsimp only [putService, Program.modify] at present
  rw [getElem?_insert] at present
  split at present
  · next same =>
      cases present
      rw [← same]
      exact held
  · exact every other found present

theorem getService_apply (name : String) (host : Host) :
    getService name host =
      match host.wasmtimeServices[name]? with
      | some state => (.ok state, host)
      | none => (.error (serviceNotFound name), host) := by
  unfold getService
  rw [Program.bind_of_ok (Program.gets_apply _ _)]
  cases host.wasmtimeServices[name]? with
  | none => rfl
  | some state => rfl

theorem within_getService {Value : Type} {next : WasmtimeServiceState → Action Value}
    (rest : ∀ state, good name state → Program.Within (providerFrame rule good) (next state)) :
    Program.Within (providerFrame rule good) (getService name >>= next) := by
  intro host every
  rw [Program.bind_apply, getService_apply]
  cases present : host.wasmtimeServices[name]? with
  | none => exact (providerFrame rule good).refl host every
  | some state => exact rest state (every name state present) host every

theorem refreshChildState_within (governs : Governs rule good name) {state : WasmtimeServiceState}
    (held : good name state) :
    Program.Within (providerFrame rule good) (refreshChildState name state) := by
  unfold refreshChildState
  cases state.child with
  | none => exact Program.within_pure _
  | some child =>
      apply (within_of_files unseenStep_within).bind
      intro _
      cases child.exited with
      | none => exact Program.within_pure _
      | some code =>
          apply (putService_within (governs.refreshed held _ _)).bind
          intro _
          exact Program.within_pure _

/-- Refreshing changes the child and the exit code of a state only. -/
theorem refreshChildState_eq_ok {state refreshed : WasmtimeServiceState} {host final : Host}
    (succeeded : refreshChildState name state host = (.ok refreshed, final)) :
    ∃ child lastExitCode, refreshed = { state with child, lastExitCode } := by
  unfold refreshChildState at succeeded
  cases child : state.child with
  | none =>
      rw [child] at succeeded
      cases succeeded
      exact ⟨state.child, state.lastExitCode, rfl⟩
  | some running =>
      rw [child] at succeeded
      dsimp only at succeeded
      obtain ⟨_, _, -, succeeded⟩ := (Program.bind_eq_ok _).mp succeeded
      cases exited : running.exited with
      | none =>
          rw [exited] at succeeded
          cases succeeded
          exact ⟨state.child, state.lastExitCode, rfl⟩
      | some code =>
          rw [exited] at succeeded
          obtain ⟨_, _, -, succeeded⟩ := (Program.bind_eq_ok _).mp succeeded
          cases succeeded
          exact ⟨none, code, rfl⟩

theorem within_refreshed {Value : Type} {next : WasmtimeServiceState → Action Value}
    (governs : Governs rule good name) {state : WasmtimeServiceState} (held : good name state)
    (rest : ∀ state, good name state → Program.Within (providerFrame rule good) (next state)) :
    Program.Within (providerFrame rule good) (refreshChildState name state >>= next) := by
  apply (refreshChildState_within governs held).bind_of_value _ rest
  intro host refreshed final succeeded
  obtain ⟨child, lastExitCode, rfl⟩ := refreshChildState_eq_ok succeeded
  exact governs.refreshed held child lastExitCode

theorem wasmtimeStart_within (governs : Governs rule good name) :
    Program.Within (providerFrame rule good) (WasmtimeRuntimeProvider.start setup name) := by
  unfold WasmtimeRuntimeProvider.start
  apply within_getService
  intro stored heldStored
  apply within_refreshed governs heldStored
  intro state held
  apply Program.Within.ite
  · exact Program.within_fail _
  · apply (Program.within_ofExcept _).bind
    intro arguments
    apply (within_of_files (openAppend_within (governs.logged held))).bind
    intro _
    apply (within_of_files (openAppend_within (governs.logged held))).bind
    intro _
    apply (within_of_files unseenStep_within).bind
    intro _
    exact putService_within (governs.refreshed held _ _)

theorem wasmtimeStop_within (governs : Governs rule good name) :
    Program.Within (providerFrame rule good) (WasmtimeRuntimeProvider.stop name) := by
  unfold WasmtimeRuntimeProvider.stop
  apply within_getService
  intro stored heldStored
  apply within_refreshed governs heldStored
  intro state held
  cases state.child with
  | none => exact Program.within_pure _
  | some child =>
      apply (putService_within (governs.refreshed held _ _)).bind
      intro _
      apply (within_of_files unseenStep_within).bind
      intro _
      apply (within_of_files unseenStep_within).bind
      intro _
      exact putService_within (governs.refreshed held _ _)

theorem wasmtimeInspect_within (governs : Governs rule good name) :
    Program.Within (providerFrame rule good) (WasmtimeRuntimeProvider.inspect name) := by
  unfold WasmtimeRuntimeProvider.inspect
  apply within_getService
  intro state held
  apply (refreshChildState_within governs held).bind
  intro _
  exact Program.within_pure _

theorem removeDirIfExists_within {context path : String}
    (removed : ∀ place, Path.resolve path <+: place → ∀ node, rule.Allows place node none) :
    Program.Within (filesFrame rule) (removeDirIfExists context path) := by
  unfold removeDirIfExists
  apply (Program.within_gets _).bind
  intro existing
  exact Program.Within.ite (removeDirAll_within removed) (Program.within_pure _)

theorem removeWithLocalServiceId_within (governs : Governs rule good name)
    (admits : Admits setup rule good name localServiceId) :
    Program.Within (providerFrame rule good)
      (removeWithLocalServiceId setup name localServiceId) := by
  unfold removeWithLocalServiceId removeArtifactsAndRuntime
  apply (wasmtimeStop_within governs).ignoring.bind
  intro _ host every
  rw [Program.bind_of_ok (Program.gets_apply _ _)]
  have removed : ∀ place,
      Path.resolve (serviceDirs setup name (some localServiceId)
        host.wasmtimeServices[name]?).1 <+: place ∨
      Path.resolve (serviceDirs setup name (some localServiceId)
        host.wasmtimeServices[name]?).2 <+: place →
      ∀ node, rule.Allows place node none := by
    cases present : host.wasmtimeServices[name]? with
    | none => exact admits.removed
    | some state => exact governs.removed (every name state present)
  have erased : Program.Within (providerFrame rule good) (Program.modify fun host : Host =>
      { host with wasmtimeServices := host.wasmtimeServices.erase name } :
      Action Unit) := by
    apply Program.within_modify
    intro before everyBefore
    refine ⟨?_, fun place => rule.refl place _, rfl⟩
    intro other found present
    dsimp only at present
    rw [getElem?_erase] at present
    split at present
    · cases present
    · exact everyBefore other found present
  apply erased.bind _ host every
  intro _
  apply (within_of_files (removeDirIfExists_within fun place below =>
    removed place (Or.inl below))).bind
  intro _
  exact within_of_files (removeDirIfExists_within fun place below =>
    removed place (Or.inr below))

/-! ### Building a service -/

theorem ensureStagedComponent_within {artifactsDir : String}
    (staged : ∀ node content, rule.Allows
      (Path.resolve (Path.join artifactsDir "component.wasm")) node (some (.file content)))
    (restageComponent : Bool) :
    Program.Within (filesFrame rule)
      (ensureStagedComponent manifest artifactsDir restageComponent) := by
  unfold ensureStagedComponent stageWasmtimeComponent
  apply (Program.within_gets _).bind
  intro existing
  apply Program.Within.ite
  · dsimp only
    cases manifest.source with
    | wasmtimeFile component =>
        exact (copyFile_within staged).bind fun _ => Program.within_pure _
    | wasmtimeUrl url =>
        apply unseenStep_within.bind
        intro _
        apply unseenStep_within.bind
        intro _
        apply unseenStep_within.bind
        intro _
        apply (Program.within_gets _).bind
        intro bytes
        exact (writeFile_within staged).bind fun _ => Program.within_pure _
    | docker image => exact Program.within_fail _
    | existingTcp host port => exact Program.within_fail _
  · exact Program.within_pure _

theorem createRuntimeDir_within {directory : String}
    (made : ∀ place ∈ Path.ancestors directory, rule.Allows place none (some .directory))
    (logged : ∀ node content, rule.Allows
      (Path.resolve (Path.join directory "runtime.log")) node (some (.file content))) :
    Program.Within (filesFrame rule) (createRuntimeDir directory) := by
  unfold createRuntimeDir
  apply (createDirAll_within made).bind
  intro _
  apply (Program.within_gets _).bind
  intro existing
  apply Program.Within.ite
  · exact Program.within_pure _
  · exact (writeFile_within logged).bind fun _ => Program.within_pure _

theorem createRuntimeDir_eq_ok {directory path : String} {host final : Host}
    (succeeded : createRuntimeDir directory host = (.ok path, final)) :
    path = Path.join directory "runtime.log" := by
  unfold createRuntimeDir at succeeded
  obtain ⟨_, _, -, succeeded⟩ := (Program.bind_eq_ok _).mp succeeded
  obtain ⟨existing, _, -, succeeded⟩ := (Program.bind_eq_ok _).mp succeeded
  split at succeeded
  · cases succeeded
    rfl
  · obtain ⟨_, _, -, succeeded⟩ := (Program.bind_eq_ok _).mp succeeded
    cases succeeded
    rfl

variable {allowedHostPaths : List String} {restageComponent : Bool}

theorem buildWasmtimeState_within
    (admits : Admits setup rule good manifest.name localServiceId)
    (mounts : MountsMade rule manifest) :
    Program.Within (filesFrame rule)
      (buildWasmtimeState setup (setup.serviceArtifactsDir localServiceId) allowedHostPaths
        manifest restageComponent) := by
  unfold buildWasmtimeState
  apply (Program.within_ofExcept _).bind
  intro _
  apply (Program.within_ofExcept _).bind
  intro _
  apply (createDirAll_within fun place ancestor => admits.made place (Or.inl ancestor)).bind
  intro _
  apply (ensureManifestMountDirs_within mounts).bind
  intro _
  apply (ensureStagedComponent_within admits.staged _).bind
  intro stagedComponentPath
  apply (createRuntimeDir_within
    (fun place ancestor => admits.made place (Or.inr ancestor)) admits.logged).bind
  intro logFilePath
  exact Program.within_pure _

theorem buildWasmtimeState_eq_ok {host final : Host} {state : WasmtimeServiceState}
    (succeeded : buildWasmtimeState setup (setup.serviceArtifactsDir localServiceId)
      allowedHostPaths manifest restageComponent host = (.ok state, final)) :
    Located setup manifest.name localServiceId state ∧ state.child = none := by
  unfold buildWasmtimeState at succeeded
  obtain ⟨_, _, -, succeeded⟩ := (Program.bind_eq_ok _).mp succeeded
  obtain ⟨_, _, -, succeeded⟩ := (Program.bind_eq_ok _).mp succeeded
  obtain ⟨_, _, -, succeeded⟩ := (Program.bind_eq_ok _).mp succeeded
  obtain ⟨_, _, -, succeeded⟩ := (Program.bind_eq_ok _).mp succeeded
  obtain ⟨_, _, -, succeeded⟩ := (Program.bind_eq_ok _).mp succeeded
  obtain ⟨logFilePath, _, logged, succeeded⟩ := (Program.bind_eq_ok _).mp succeeded
  cases succeeded
  exact ⟨⟨rfl, rfl, createRuntimeDir_eq_ok logged⟩, rfl⟩

theorem restore_within (admits : Admits setup rule good manifest.name localServiceId)
    (mounts : MountsMade rule manifest) :
    Program.Within (providerFrame rule good)
      (WasmtimeRuntimeProvider.restore setup manifest localServiceId) := by
  unfold WasmtimeRuntimeProvider.restore
  apply (Program.within_gets _).bind
  intro allowedHostPaths
  apply (within_of_files (buildWasmtimeState_within admits mounts)).bind_of_value
    (fun _ _ _ succeeded => (buildWasmtimeState_eq_ok succeeded).1)
  intro state built
  apply (Program.within_gets _).bind
  intro services
  apply Program.Within.ite
  · exact Program.within_pure _
  · exact putService_within (admits.built state built)

theorem addService_within (admits : Admits setup rule good manifest.name localServiceId)
    (mounts : MountsMade rule manifest) :
    Program.Within (providerFrame rule good) (addService setup manifest localServiceId) := by
  unfold addService
  apply (Program.within_gets _).bind
  intro allowedHostPaths
  apply (within_of_files (buildWasmtimeState_within admits mounts)).bind_of_value
    (fun _ _ _ succeeded => (buildWasmtimeState_eq_ok succeeded).1)
  intro state built
  apply (Program.within_gets _).bind
  intro services
  apply Program.Within.ite
  · exact Program.within_fail _
  · exact putService_within (admits.built state built)

theorem wasmtimeApply_within (governs : Governs rule good manifest.name)
    (admits : Admits setup rule good manifest.name localServiceId)
    (mounts : MountsMade rule manifest) (replaceExisting : Bool) :
    Program.Within (providerFrame rule good)
      (WasmtimeRuntimeProvider.applyWithLocalServiceId setup manifest localServiceId
        replaceExisting) := by
  unfold WasmtimeRuntimeProvider.applyWithLocalServiceId
  apply (Program.Within.when fun _ => removeWithLocalServiceId_within governs admits).bind
  intro _
  apply (addService_within admits mounts).bind
  intro _
  exact wasmtimeInspect_within governs

/-! ## Both providers -/

open RuntimeControl

theorem dockerProvider_within :
    Program.Within (providerFrame rule good) (dockerProvider setup) := by
  unfold dockerProvider
  cases setup.docker with
  | none => exact Program.within_fail _
  | some policy => exact Program.within_pure _

theorem stopRuntime_within (governs : Governs rule good name) (runtime : RuntimeKind) :
    Program.Within (providerFrame rule good) (stopRuntime setup runtime name) := by
  cases runtime with
  | docker =>
      apply dockerProvider_within.bind
      intro policy
      apply (Program.within_gets _).bind
      intro handle
      exact managedRequest_within policy handle _
  | wasmtime => exact wasmtimeStop_within governs
  | external => exact Program.within_pure _

theorem startRuntime_within (governs : Governs rule good name) (runtime : RuntimeKind) :
    Program.Within (providerFrame rule good) (startRuntime setup runtime name) := by
  cases runtime with
  | docker =>
      apply dockerProvider_within.bind
      intro policy
      apply (Program.within_gets _).bind
      intro handle
      exact managedRequest_within policy handle _
  | wasmtime => exact wasmtimeStart_within governs
  | external => exact Program.within_pure _

theorem ignoreMissingContainer_within {runtime : RuntimeKind} {action : Action Unit}
    (within : Program.Within (providerFrame rule good) action) :
    Program.Within (providerFrame rule good) (ignoreMissingContainer runtime action) := by
  unfold ignoreMissingContainer
  apply within.attempt.bind
  intro outcome
  cases outcome with
  | ok _ => exact Program.within_pure _
  | error error => exact Program.Within.ite (Program.within_pure _) (Program.within_fail _)

theorem stopRuntimeOnly_within (governs : Governs rule good name) (runtime : RuntimeKind) :
    Program.Within (providerFrame rule good) (stopRuntimeOnly setup runtime name) := by
  unfold stopRuntimeOnly
  apply (stopRuntime_within governs runtime).attempt.bind
  intro outcome
  cases outcome with
  | ok _ => exact Program.within_pure _
  | error error =>
      apply Program.Within.ite
      · exact Program.within_pure _
      · exact Program.Within.ite (Program.within_pure _) (Program.within_fail _)

theorem removeRuntimeOnly_within (governs : Governs rule good name)
    (admits : Admits setup rule good name localServiceId) (runtime : RuntimeKind) :
    Program.Within (providerFrame rule good)
      (removeRuntimeOnly setup runtime name localServiceId) := by
  unfold removeRuntimeOnly
  apply ignoreMissingContainer_within
  cases runtime with
  | docker =>
      apply dockerProvider_within.bind
      intro policy
      exact managedRequest_within policy _ _
  | wasmtime => exact removeWithLocalServiceId_within governs admits
  | external => exact Program.within_pure _

theorem retire_within {prepared : Prepared} (governs : Governs rule good name)
    (admits : Admits setup rule good name prepared.localServiceId) :
    Program.Within (providerFrame rule good) (retire setup name prepared) := by
  unfold retire
  cases prepared.previousRuntime with
  | none => exact Program.within_pure _
  | some runtime =>
      apply (Program.Within.when fun _ => stopRuntimeOnly_within governs runtime).bind
      intro _
      exact removeRuntimeOnly_within governs admits runtime

theorem pullRuntime_within {prepared : Prepared} (governs : Governs rule good manifest.name)
    (admits : Admits setup rule good manifest.name prepared.localServiceId)
    (mounts : MountsMade rule manifest) :
    Program.Within (providerFrame rule good) (pullRuntime setup manifest prepared) := by
  unfold pullRuntime
  cases manifest.runtime with
  | docker =>
      apply dockerProvider_within.bind
      intro policy
      exact pullWithContainerName_within mounts policy _
  | wasmtime =>
      apply Program.Within.ite
      · exact wasmtimeApply_within governs admits mounts true
      · exact wasmtimeApply_within governs admits mounts false
  | external => exact Program.within_pure _

end Frame

end Fungi.Runtime
