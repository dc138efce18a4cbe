import Fungi.Lib.Run
import Fungi.Runtime.Records

/-!
# Runs of the runtime control

The daemon is started, and its calls follow one after the other.  In between, files,
containers and child processes may change on their own.
-/

namespace Fungi.Runtime

open Fungi.Lib RuntimeControl

/-- A call of `RuntimeControl`, with the host ports the operating system answers while it
runs, or a change from outside. -/
inductive ControlCall where
  | restart (entries : List String) (answers : List UInt16)
  | apply (manifest : ServiceManifest)
  | applyYaml (content baseDir : String) (answers : List UInt16)
  | start (runtime : RuntimeKind) (name : String)
  | stop (runtime : RuntimeKind) (name : String)
  | remove (runtime : RuntimeKind) (name : String)
  | outside (files : FileSystem) (containers : BTreeMap String Container)
  | exits (handle : String) (code : Option Int)

/-- A child process ends. -/
def Host.childExits (host : Host) (handle : String) (code : Option Int) : Host :=
  match host.wasmtimeServices[handle]? with
  | none => host
  | some state =>
      let child := state.child.map fun child => { child with exited := some code }
      { host with wasmtimeServices := host.wasmtimeServices.insert handle { state with child } }

/-- A call runs to its end, whether it succeeds or fails; only a failing start of the daemon
ends the run. -/
def controlStep (setup : RuntimeSetup) (host : Host) : ControlCall → Option Host
  | .restart entries answers =>
      match restart setup entries { host with freePorts := answers } with
      | (.ok _, started) => some started
      | (.error _, _) => none
  | .apply manifest => some (RuntimeControl.apply setup manifest host).2
  | .applyYaml content baseDir answers =>
      some (applyManifestYaml setup content baseDir { host with freePorts := answers }).2
  | .start runtime name => some (start setup runtime name host).2
  | .stop runtime name => some (stop setup runtime name host).2
  | .remove runtime name => some (remove setup runtime name host).2
  | .outside files containers => some { host with files, containers }
  | .exits handle code => some (host.childExits handle code)

/-- A state that the calls lead to once the daemon has been started on some machine. -/
def Reachable (setup : RuntimeSetup) (host : Host) : Prop :=
  ∃ machine entries answers calls,
    run (controlStep setup) machine (.restart entries answers :: calls) = some host

/-! ## The store stays sound -/

/-- The store of a machine is sound. -/
def StoreSound (host : Host) : Prop := host.serviceState.Sound

section Sound

variable {setup : RuntimeSetup} {manifest : ServiceManifest} {Value : Type}
  {action : Action Value} {host started : Host}

theorem sound_of_records (within : Program.Within recordsFrame action) :
    Program.Keeps StoreSound action := by
  intro host sound
  have same := within host
  exact show (action host).2.serviceState.Sound from same.state ▸ sound

theorem setDesiredState_sound (platform : Platform) (name : String)
    (desiredState : DesiredServiceState) :
    Program.Keeps StoreSound (setDesiredState platform name desiredState) := by
  intro host sound
  rcases setDesiredState_cases sound rfl with ⟨_, _, same⟩ | ⟨_, _, stored, _⟩
  · exact show ServiceStateStore.Sound _ from same.state ▸ sound
  · exact stored.sound

theorem start_sound (runtime : RuntimeKind) (name : String) :
    Program.Keeps StoreSound (start setup runtime name) := by
  rw [start_eq]
  apply (sound_of_records (records_of_provider (bringUp_within runtime name))).bind
  intro _
  exact setDesiredState_sound _ _ _

theorem stop_sound (runtime : RuntimeKind) (name : String) :
    Program.Keeps StoreSound (stop setup runtime name) := by
  rw [stop_eq]
  apply (sound_of_records (records_of_provider (bringDown_within runtime name))).bind
  intro _
  exact setDesiredState_sound _ _ _

theorem remove_sound (runtime : RuntimeKind) (name : String) :
    Program.Keeps StoreSound (remove setup runtime name) := by
  change Program.Keeps StoreSound
    (ignoreMissingContainer runtime (removeRuntime setup runtime name) >>= fun _ => forget name)
  apply (sound_of_records (records_of_provider
    (ignoreMissingContainer_within (removeRuntime_within runtime name)))).bind
  intro _ host sound
  exact (forget_forgotten sound name).sound

theorem recordService_sound (prepared : Prepared) :
    Program.Keeps StoreSound (recordService setup manifest prepared) := by
  intro host sound
  rcases (recordService_cases sound rfl).2.2 with ⟨_, _, _, _, _, same⟩ | ⟨_, -, replaced⟩
  · exact show ServiceStateStore.Sound _ from same ▸ sound
  · exact replaced.sound

theorem reconcile_sound (prepared : Prepared) :
    Program.Keeps StoreSound (reconcile setup manifest prepared) := by
  apply Program.Within.when
  intro _
  apply (start_sound _ _).bind
  intro _
  exact sound_of_records (inspect_records _ _)

theorem applyWithLocalServiceId_sound (localServiceId : Option String) :
    Program.Keeps StoreSound (applyWithLocalServiceId setup manifest localServiceId) := by
  rw [applyWithLocalServiceId_eq]
  apply (sound_of_records (replaceRuntime_records localServiceId)).bind
  intro prepared
  apply (recordService_sound prepared).bind
  intro _
  apply (reconcile_sound prepared).bind
  intro _
  exact Program.within_pure _

theorem applyManifestYaml_sound (content baseDir : String) :
    Program.Keeps StoreSound (applyManifestYaml setup content baseDir) := by
  rw [applyManifestYaml_eq]
  apply (sound_of_records (resolveYaml_records content baseDir)).bind
  intro resolved
  exact applyWithLocalServiceId_sound _

theorem restoreService_sound (service : PersistedService) :
    Program.Keeps StoreSound (restoreService setup service) := by
  unfold restoreService insertService
  apply (Program.within_modify fun _ sound => sound).bind
  intro _
  apply Program.Within.bind
  · apply Program.Within.when
    intro _
    exact (sound_of_records (records_of_provider
      (restore_within (admits_any setup _ _) (mountsMade_any service.manifest)))).ignoring
  · intro _
    apply Program.Within.when
    intro _
    exact (start_sound _ _).ignoring

theorem restorePersistedState_sound : Program.Keeps StoreSound (restorePersistedState setup) := by
  unfold restorePersistedState
  apply (Program.within_gets _).bind
  intro store
  apply Program.Within.forEach
  intro service _
  exact restoreService_sound service

/-- What a load reads is sound. -/
theorem load_sound {platform : Platform} {servicesRoot : String} {entries : List String}
    {store : ServiceStateStore}
    (loaded : load platform servicesRoot entries host = (.ok store, started)) : store.Sound := by
  unfold load at loaded
  obtain ⟨_, created, -, loaded⟩ := (Program.bind_eq_ok _).mp loaded
  unfold readServices at loaded
  split at loaded
  · next final freePorts read =>
      cases loaded
      obtain ⟨-, indexed, -, -, origin⟩ :=
        loadEntries_eq_ok (ServiceStateStore.Indexed.empty servicesRoot) read
      refine ⟨indexed, ?_⟩
      intro id record present
      rcases origin id record present with impossible | ⟨same, entry, -, _, _, fromEntry⟩
      · simp [emptyStore] at impossible
      · obtain ⟨-, _, stateFile, _, -, state, -, rfl⟩ := loadEntry_eq_ok_some.mp fromEntry
        obtain ⟨trimmed, valid, -⟩ := loadServiceStateFile_eq_ok state
        rw [← same]
        exact show LocalId stateFile.localServiceId from trimmed ▸ valid
  · cases loaded

/-- In a new process nothing is in memory but the store. -/
theorem new_eq_ok {entries : List String} (ran : new setup entries host = (.ok (), started)) :
    ∃ created loaded,
      ensureServicesRootExists setup host = (.ok (), created) ∧
      load setup.toPlatform setup.paths.servicesRoot entries created =
        (.ok started.serviceState, loaded) ∧
      started =
        { loaded with
          wasmtimeServices := ∅, serviceIndex := ∅, serviceManifests := ∅
          serviceState := started.serviceState } := by
  unfold new at ran
  obtain ⟨_, created, roots, ran⟩ := (Program.bind_eq_ok _).mp ran
  obtain ⟨store, loaded, read, ran⟩ := (Program.bind_eq_ok _).mp ran
  cases ran
  exact ⟨created, loaded, roots, read, rfl⟩

theorem restart_sound {entries : List String}
    (ran : restart setup entries host = (.ok (), started)) : StoreSound started := by
  unfold restart at ran
  obtain ⟨_, fresh, made, restored⟩ := (Program.bind_eq_ok _).mp ran
  obtain ⟨_, _, -, loaded, -⟩ := new_eq_ok made
  have kept := @restorePersistedState_sound setup fresh (load_sound loaded)
  rw [restored] at kept
  exact kept

theorem controlStep_sound {call : ControlCall} {next : Host} (sound : StoreSound host)
    (taken : controlStep setup host call = some next) : StoreSound next := by
  cases call with
  | restart entries answers =>
      dsimp only [controlStep] at taken
      split at taken
      · next ran =>
          cases taken
          exact restart_sound ran
      · cases taken
  | apply manifest =>
      cases taken
      exact applyWithLocalServiceId_sound none host sound
  | applyYaml content baseDir answers =>
      cases taken
      exact applyManifestYaml_sound content baseDir { host with freePorts := answers } sound
  | start runtime name =>
      cases taken
      exact start_sound runtime name host sound
  | stop runtime name =>
      cases taken
      exact stop_sound runtime name host sound
  | remove runtime name =>
      cases taken
      exact remove_sound runtime name host sound
  | outside files containers =>
      cases taken
      exact sound
  | exits handle code =>
      cases taken
      unfold Host.childExits
      split
      · exact sound
      · exact sound

/-- In every reachable state the store is sound. -/
theorem Reachable.sound (reachable : Reachable setup host) : StoreSound host := by
  obtain ⟨machine, entries, answers, calls, reached⟩ := reachable
  rw [run_cons, Option.bind_eq_some_iff] at reached
  obtain ⟨started, first, remaining⟩ := reached
  have initially : StoreSound started := by
    dsimp only [controlStep] at first
    split at first
    · next ran =>
        cases first
        exact restart_sound ran
    · cases first
  apply @run_induction _ _ _ _ (fun _ state => StoreSound state) initially _ _ _ remaining
  intro _ state call next _ sound taken
  exact controlStep_sound sound taken

end Sound

end Fungi.Runtime
