import Fungi.Runtime.ControlRuns
import Fungi.Runtime.ManifestRoundTrip

/-!
# The identity of a service

A service keeps its local service id and its definition id from its first apply until it is
removed.  A manifest with another definition id is refused before anything changes.
-/

namespace Fungi.Runtime

open Fungi.Lib RuntimeControl

/-- What a service keeps for as long as it is not removed. -/
structure ServiceIdentity where
  name : String
  localServiceId : String
  definitionId : String

namespace ServiceIdentity

/-- A record belongs to the service. -/
structure Identifies (identity : ServiceIdentity) (record : PersistedService) : Prop where
  name : record.manifest.name = identity.name
  localServiceId : record.localServiceId = identity.localServiceId
  definitionId : record.manifest.definitionId = some identity.definitionId

/-- The store has a record of the service under its name. -/
structure Held (identity : ServiceIdentity) (host : Host) : Prop where
  sound : StoreSound host
  stored : ∃ record, host.serviceState.persistedService identity.name = some record ∧
    identity.Identifies record

end ServiceIdentity

section Calls

variable {setup : RuntimeSetup} {manifest : ServiceManifest} {Value : Type}
  {action : Action Value} {identity : ServiceIdentity} {host started final : Host}

theorem held_of_records (within : Program.Within recordsFrame action) :
    Program.Keeps identity.Held action := by
  intro host held
  obtain ⟨record, persisted, identified⟩ := held.stored
  have same := within host
  refine ⟨sound_of_records within host held.sound, record, ?_, identified⟩
  rw [show (action host).2.serviceState = host.serviceState from same.state, persisted]

/-! ## Starting, stopping and removing -/

theorem setDesiredState_held (platform : Platform) (name : String)
    (desiredState : DesiredServiceState) :
    Program.Keeps identity.Held (setDesiredState platform name desiredState) := by
  intro host held
  obtain ⟨record, persisted, identified⟩ := held.stored
  cases ran : setDesiredState platform name desiredState host with
  | mk outcome final =>
      rcases setDesiredState_cases held.sound ran with
        ⟨_, _, same⟩ | ⟨changed, present, stored, _⟩
      · exact ⟨show ServiceStateStore.Sound _ from same.state ▸ held.sound, record,
          same.state ▸ persisted, identified⟩
      · refine ⟨stored.sound, ?_⟩
        rw [stored.state]
        dsimp only
        rw [held.sound.indexed.named present]
        by_cases own : name = identity.name
        · rw [own, persisted] at present
          cases present
          rw [if_pos own]
          exact ⟨_, rfl, identified.name, identified.localServiceId, identified.definitionId⟩
        · rw [if_neg own]
          exact held.stored

theorem start_held (runtime : RuntimeKind) (name : String) :
    Program.Keeps identity.Held (start setup runtime name) := by
  rw [start_eq]
  apply (held_of_records (records_of_provider (bringUp_within runtime name))).bind
  intro _
  exact setDesiredState_held _ _ _

theorem stop_held (runtime : RuntimeKind) (name : String) :
    Program.Keeps identity.Held (stop setup runtime name) := by
  rw [stop_eq]
  apply (held_of_records (records_of_provider (bringDown_within runtime name))).bind
  intro _
  exact setDesiredState_held _ _ _

/-- Another service may be removed. -/
theorem remove_held (runtime : RuntimeKind) {name : String} (other : name ≠ identity.name) :
    Program.Keeps identity.Held (remove setup runtime name) := by
  change Program.Keeps identity.Held
    (ignoreMissingContainer runtime (removeRuntime setup runtime name) >>= fun _ => forget name)
  apply (held_of_records (records_of_provider
    (ignoreMissingContainer_within (removeRuntime_within runtime name)))).bind
  intro _ host held
  have forgotten := forget_forgotten held.sound name
  refine ⟨forgotten.sound, ?_⟩
  rw [forgotten.state, if_neg other]
  exact held.stored

/-! ## Applying -/

/-- What the definition id of a service allows to be applied. -/
def Compatible (identity : ServiceIdentity) (manifest : ServiceManifest) : Prop :=
  manifest.name = identity.name → manifest.definitionId = some identity.definitionId

theorem ensureDefinitionIdCompatible_eq_ok {previous next : ServiceManifest} {id : String}
    (defined : previous.definitionId = some id) :
    ensureDefinitionIdCompatible previous next = .ok () ↔ next.definitionId = some id := by
  unfold ensureDefinitionIdCompatible
  rw [defined]
  cases next.definitionId with
  | none => simp
  | some nextId =>
      dsimp only
      rw [ite_not, Option.some.injEq]
      split
      · next same => exact iff_of_true rfl same.symm
      · next different => exact iff_of_false (by simp) fun same => different same.symm

theorem ServiceIdentity.Held.previousManifest (held : identity.Held host) :
    ∃ previous, previousManifestOf host identity.name = some previous ∧
      previous.definitionId = some identity.definitionId := by
  obtain ⟨record, persisted, identified⟩ := held.stored
  refine ⟨record.manifest, ?_, identified.definitionId⟩
  unfold previousManifestOf
  rw [persisted]
  rfl

theorem replaceRuntime_compatible {localServiceId : Option String} {prepared : Prepared}
    (held : identity.Held host)
    (ran : replaceRuntime setup manifest localServiceId host = (.ok prepared, final)) :
    Compatible identity manifest := by
  intro own
  obtain ⟨previous, known, defined⟩ := held.previousManifest
  unfold replaceRuntime prepare at ran
  obtain ⟨_, _, prepares, -⟩ := (Program.bind_eq_ok _).mp ran
  obtain ⟨_, middle, enabled, rest⟩ := (Program.bind_eq_ok _).mp prepares
  rw [(ensureRuntimeEnabled_within _).eq_of_same enabled,
    Program.bind_of_ok (Program.gets_apply _ _)] at rest
  obtain ⟨_, _, checks, -⟩ := (Program.bind_eq_ok _).mp rest
  have compatible := ((Program.ofExcept_eq_ok _).mp checks).1
  simp only [id, own, known] at compatible
  exact (ensureDefinitionIdCompatible_eq_ok defined).mp compatible

theorem prepare_refused {localServiceId : Option String} (held : identity.Held host)
    (incompatible : ¬ Compatible identity manifest) :
    ∃ error, prepare setup manifest localServiceId host = (.error error, host) := by
  obtain ⟨own, different⟩ := Classical.not_imp.mp incompatible
  obtain ⟨previous, known, defined⟩ := held.previousManifest
  unfold prepare
  cases enables : ensureRuntimeEnabled setup manifest.runtime host with
  | mk outcome middle =>
      rw [(ensureRuntimeEnabled_within _).eq_of_same enables] at enables
      cases outcome with
      | error error => exact ⟨error, by rw [Program.bind_apply, enables]⟩
      | ok _ =>
          rw [Program.bind_of_ok enables, Program.bind_of_ok (Program.gets_apply _ _)]
          simp only [id, own, known]
          cases checked : ensureDefinitionIdCompatible previous manifest with
          | error error => exact ⟨error, rfl⟩
          | ok _ =>
              exact absurd ((ensureDefinitionIdCompatible_eq_ok defined).mp checked) different

/-- A manifest with another definition id is refused, and nothing has changed. -/
theorem applyWithLocalServiceId_refused {localServiceId : Option String} (held : identity.Held host)
    (incompatible : ¬ Compatible identity manifest) :
    ∃ error, applyWithLocalServiceId setup manifest localServiceId host = (.error error, host) := by
  obtain ⟨error, refused⟩ := @prepare_refused setup _ _ _ localServiceId held incompatible
  refine ⟨error, ?_⟩
  unfold applyWithLocalServiceId
  rw [Program.bind_apply, refused]

theorem recordService_held {prepared : Prepared} (compatible : Compatible identity manifest) :
    Program.Keeps identity.Held (recordService setup manifest prepared) := by
  intro host held
  obtain ⟨record, persisted, identified⟩ := held.stored
  cases ran : recordService setup manifest prepared host with
  | mk outcome final =>
      rcases (recordService_cases held.sound ran).2.2 with
        ⟨_, _, _, _, _, same⟩ | ⟨localServiceId, assignable, replaced⟩
      · exact ⟨show ServiceStateStore.Sound _ from same ▸ held.sound, record, same ▸ persisted,
          identified⟩
      · refine ⟨replaced.sound, ?_⟩
        rw [replaced.state]
        dsimp only
        by_cases own : manifest.name = identity.name
        · obtain ⟨id, listed, found⟩ := ServiceStateStore.persistedService_eq_some.mp persisted
          rw [← own] at listed
          have sameId : localServiceId = identity.localServiceId := by
            rw [← assignable.own id listed, ← identified.localServiceId]
            exact (held.sound.indexed.ids id record found).symm
          rw [if_pos own]
          exact ⟨_, rfl, own, sameId, compatible own⟩
        · rw [if_neg own]
          exact held.stored

theorem reconcile_held (prepared : Prepared) :
    Program.Keeps identity.Held (reconcile setup manifest prepared) := by
  apply Program.Within.when
  intro _
  apply (start_held _ _).bind
  intro _
  exact held_of_records (inspect_records _ _)

theorem applyWithLocalServiceId_held (localServiceId : Option String) :
    Program.Keeps identity.Held (applyWithLocalServiceId setup manifest localServiceId) := by
  intro host held
  have replaced := @held_of_records _ _ identity
    (@replaceRuntime_records setup manifest localServiceId) host held
  rw [applyWithLocalServiceId_eq, Program.bind_apply]
  cases ran : replaceRuntime setup manifest localServiceId host with
  | mk outcome middle =>
      rw [ran] at replaced
      cases outcome with
      | error error => exact replaced
      | ok prepared =>
          have recorded : Program.Keeps identity.Held (do
              recordService setup manifest prepared
              reconcile setup manifest prepared
              return { name := manifest.name
                       previousManifest := prepared.previousManifest
                       desiredState := prepared.desiredState } : Action AppliedService) := by
            apply (recordService_held (replaceRuntime_compatible held ran)).bind
            intro _
            apply (reconcile_held prepared).bind
            intro _
            exact Program.within_pure _
          exact recorded middle replaced

theorem applyManifestYaml_held (content baseDir : String) :
    Program.Keeps identity.Held (applyManifestYaml setup content baseDir) := by
  rw [applyManifestYaml_eq]
  apply (held_of_records (resolveYaml_records content baseDir)).bind
  intro resolved
  exact applyWithLocalServiceId_held _

end Calls

/-! ## Restarting -/

/-- The name and the definition id in the manifest file of a service. -/
def writtenIdentity (setup : RuntimeSetup) (localServiceId : String) (files : FileSystem) :
    Option (String × String) := do
  let text ← files.readToString (manifestPathOf setup.paths.servicesRoot localServiceId)
  let document ← (parseRequiredFungiServiceDocument setup.yaml text).toOption
  let name ← document.serviceName.toOption
  let definitionId ← document.definitionId.toOption
  return (name, definitionId)

/-- A start of the daemon finds the service in its directory. -/
structure OnDisk (setup : RuntimeSetup) (identity : ServiceIdentity) (entries : List String)
    (files : FileSystem) : Prop where
  listed : identity.localServiceId ∈ entries
  directory : files.isDir (Path.join setup.paths.servicesRoot identity.localServiceId)
  written : writtenIdentity setup identity.localServiceId files =
    some (identity.name, identity.definitionId)

instance {setup : RuntimeSetup} {identity : ServiceIdentity} {entries : List String}
    {files : FileSystem} : Decidable (OnDisk setup identity entries files) :=
  decidable_of_iff
    (identity.localServiceId ∈ entries ∧
      files.isDir (Path.join setup.paths.servicesRoot identity.localServiceId) ∧
      writtenIdentity setup identity.localServiceId files =
        some (identity.name, identity.definitionId))
    ⟨fun ⟨listed, directory, written⟩ => ⟨listed, directory, written⟩,
      fun onDisk => ⟨onDisk.listed, onDisk.directory, onDisk.written⟩⟩

section Restarting

variable {setup : RuntimeSetup} {identity : ServiceIdentity} {entries : List String}
  {host final started : Host} {files : FileSystem}

theorem writtenIdentity_eq_some {localServiceId name definitionId : String} :
    writtenIdentity setup localServiceId files = some (name, definitionId) ↔
      ∃ text document,
        files.readToString (manifestPathOf setup.paths.servicesRoot localServiceId) =
          some text ∧
        parseRequiredFungiServiceDocument setup.yaml text = .ok document ∧
        document.serviceName = .ok name ∧ document.definitionId = .ok definitionId := by
  have toOption_eq_some : ∀ {Value : Type} {outcome : Except Error Value} {value : Value},
      outcome.toOption = some value ↔ outcome = .ok value := by
    intro Value outcome value
    cases outcome with
    | error _ => simp [Except.toOption]
    | ok _ => simp [Except.toOption]
  unfold writtenIdentity
  simp only [Option.bind_eq_bind, Option.bind_eq_some_iff, toOption_eq_some]
  simp

theorem OnDisk.makeDirs (onDisk : OnDisk setup identity entries files)
    (directories : List (List Name)) :
    OnDisk setup identity entries (files.makeDirs directories) := by
  have kept : ∀ {place node}, files place = some node →
      files.makeDirs directories place = some node := by
    intro place node present
    rcases @FileSystem.makeDirs_cases files place directories with same | ⟨-, absent, -⟩
    · rw [same, present]
    · rw [absent] at present
      cases present
  obtain ⟨text, document, read, parsed⟩ := writtenIdentity_eq_some.mp onDisk.written
  refine ⟨onDisk.listed, ?_, writtenIdentity_eq_some.mpr ⟨text, document, ?_, parsed⟩⟩
  · exact decide_eq_true (kept (of_decide_eq_true onDisk.directory))
  · unfold FileSystem.readToString at read ⊢
    split at read
    · next present =>
        rw [kept present]
        exact read
    · cases read

theorem OnDisk.created {context path : String} (onDisk : OnDisk setup identity entries host.files)
    (created : createDirAll context path host = (.ok (), final)) :
    OnDisk setup identity entries final.files := by
  rw [(createDirAll_eq_ok created).1]
  exact onDisk.makeDirs _

theorem OnDisk.ensured (onDisk : OnDisk setup identity entries host.files)
    (ensured : ensureServicesRootExists setup host = (.ok (), final)) :
    OnDisk setup identity entries final.files := by
  unfold ensureServicesRootExists at ensured
  obtain ⟨_, _, services, ensured⟩ := (Program.bind_eq_ok _).mp ensured
  obtain ⟨_, _, appdata, ensured⟩ := (Program.bind_eq_ok _).mp ensured
  obtain ⟨_, _, artifacts, workspace⟩ := (Program.bind_eq_ok _).mp ensured
  exact (((onDisk.created services).created appdata).created artifacts).created workspace

/-- What the entry of the service is read as. -/
theorem OnDisk.loadEntry {answers rest : List UInt16} {result : Option PersistedService}
    (onDisk : OnDisk setup identity entries files) (valid : LocalId identity.localServiceId)
    (loaded : Runtime.loadEntry setup.toPlatform files setup.paths.servicesRoot
      identity.localServiceId answers = .ok (result, rest)) :
    ∃ record, result = some record ∧ identity.Identifies record := by
  obtain ⟨text, document, read, parsed, named, defined⟩ :=
    writtenIdentity_eq_some.mp onDisk.written
  cases result with
  | none =>
      rcases (loadEntry_eq_ok_none.mp loaded).1 with noDirectory | absent
      · exact absurd onDisk.directory noDirectory
      · unfold FileSystem.readToString at read
        unfold FileSystem.pathExists at absent
        split at read
        · next present => simp [present] at absent
        · cases read
  | some record =>
      obtain ⟨-, _, stateFile, manifest, readAgain, state, converted, rfl⟩ :=
        loadEntry_eq_ok_some.mp loaded
      refine ⟨_, rfl, ?_⟩
      rw [read] at readAgain
      cases readAgain
      obtain ⟨_, parsedAgain, converted⟩ := bind_eq_ok.mp converted
      rw [parsed] at parsedAgain
      cases parsedAgain
      obtain ⟨-, _, _, _, _, -, -, -, rfl⟩ :=
        FungiServiceDocument.intoServiceManifest_eq_ok.mp converted
      have ofName := (FungiServiceDocument.serviceName_eq_ok.mp named).2
      have ofId := (FungiServiceDocument.definitionId_eq_ok.mp defined).2
      have ofEntry := (loadServiceStateFile_eq_ok state).1
      exact ⟨ofName.symm, ofEntry.trans valid.trim_eq, congrArg some ofId.symm⟩

/-- The store that a load reads has the service. -/
theorem load_held {store : ServiceStateStore} (onDisk : OnDisk setup identity entries host.files)
    (valid : LocalId identity.localServiceId)
    (loaded : load setup.toPlatform setup.paths.servicesRoot entries host = (.ok store, final)) :
    ∃ record, store.persistedService identity.name = some record ∧
      identity.Identifies record := by
  unfold load at loaded
  obtain ⟨_, _, created, loaded⟩ := (Program.bind_eq_ok _).mp loaded
  have onDisk := onDisk.created created
  unfold readServices at loaded
  split at loaded
  · next read =>
      cases loaded
      obtain ⟨-, indexed, each, -, -⟩ :=
        loadEntries_eq_ok (ServiceStateStore.Indexed.empty _) read
      obtain ⟨_, _, result, entry, stored⟩ := each _ onDisk.listed
      obtain ⟨record, rfl, identified⟩ := onDisk.loadEntry valid entry
      refine ⟨record, ?_, identified⟩
      have present := stored record rfl
      apply ServiceStateStore.persistedService_eq_some.mpr
      refine ⟨_, ?_, present⟩
      exact (indexed.names _ _).mpr ⟨record, present, identified.name⟩
  · cases loaded

theorem restoreService_held (service : PersistedService) :
    Program.Keeps identity.Held (restoreService setup service) := by
  unfold restoreService insertService
  apply (Program.within_modify fun _ held => ⟨held.sound, held.stored⟩).bind
  intro _
  apply Program.Within.bind
  · apply Program.Within.when
    intro _
    exact (held_of_records (records_of_provider
      (restore_within (admits_any setup _ _) (mountsMade_any service.manifest)))).ignoring
  · intro _
    apply Program.Within.when
    intro _
    exact (start_held _ _).ignoring

theorem restorePersistedState_held :
    Program.Keeps identity.Held (restorePersistedState setup) := by
  unfold restorePersistedState
  apply (Program.within_gets _).bind
  intro store
  apply Program.Within.forEach
  intro service _
  exact restoreService_held service

theorem restart_held (onDisk : OnDisk setup identity entries host.files)
    (valid : LocalId identity.localServiceId)
    (ran : restart setup entries host = (.ok (), started)) : identity.Held started := by
  unfold restart at ran
  obtain ⟨_, fresh, made, restored⟩ := (Program.bind_eq_ok _).mp ran
  obtain ⟨created, loaded, ensured, reads, -⟩ := new_eq_ok made
  have held : identity.Held fresh :=
    ⟨load_sound reads, load_held (onDisk.ensured ensured) valid reads⟩
  have kept := @restorePersistedState_held setup identity fresh held
  rw [restored] at kept
  exact kept

end Restarting

/-! ## Runs -/

/-- The call does not remove the service, and a restart finds it in its directory. -/
def ControlCall.Spares (setup : RuntimeSetup) (identity : ServiceIdentity) (host : Host) :
    ControlCall → Prop
  | .restart entries _ => OnDisk setup identity entries host.files
  | .remove _ name => name ≠ identity.name
  | _ => True

instance {setup : RuntimeSetup} {identity : ServiceIdentity} {host : Host} (call : ControlCall) :
    Decidable (call.Spares setup identity host) :=
  match call with
  | .restart _ _ => inferInstanceAs (Decidable (OnDisk _ _ _ _))
  | .remove _ _ => inferInstanceAs (Decidable (_ ≠ _))
  | .apply _ | .applyYaml _ _ _ | .start _ _ | .stop _ _ | .outside _ _ | .exits _ _ =>
      inferInstanceAs (Decidable True)

section Runs

variable {setup : RuntimeSetup} {identity : ServiceIdentity} {start host next final : Host}
  {calls : List ControlCall} {record : PersistedService}

theorem ServiceIdentity.Held.localId (held : identity.Held host) :
    LocalId identity.localServiceId := by
  obtain ⟨record, persisted, identified⟩ := held.stored
  obtain ⟨id, -, found⟩ := ServiceStateStore.persistedService_eq_some.mp persisted
  rw [← identified.localServiceId, held.sound.indexed.ids id record found]
  exact held.sound.ids id record found

theorem controlStep_held {call : ControlCall} (held : identity.Held host)
    (spares : call.Spares setup identity host) (taken : controlStep setup host call = some next) :
    identity.Held next := by
  cases call with
  | restart entries answers =>
      dsimp only [controlStep] at taken
      split at taken
      · next ran =>
          cases taken
          exact @restart_held setup identity entries { host with freePorts := answers } _ spares
            held.localId ran
      · cases taken
  | apply manifest =>
      cases taken
      exact applyWithLocalServiceId_held none host held
  | applyYaml content baseDir answers =>
      cases taken
      exact applyManifestYaml_held content baseDir { host with freePorts := answers }
        ⟨held.sound, held.stored⟩
  | start runtime name =>
      cases taken
      exact start_held runtime name host held
  | stop runtime name =>
      cases taken
      exact stop_held runtime name host held
  | remove runtime name =>
      cases taken
      exact remove_held runtime spares host held
  | outside files containers =>
      cases taken
      exact ⟨held.sound, held.stored⟩
  | exits handle code =>
      cases taken
      unfold Host.childExits
      split
      · exact held
      · exact ⟨held.sound, held.stored⟩

/-- Until it is removed a service keeps its local service id and its definition id, over failing
calls and over restarts that find it in its directory; a manifest with another definition id is
refused, and nothing but the parsing of a text has changed anything. -/
theorem serviceIdentity_of_run (reachable : Reachable setup start)
    (persisted : start.serviceState.persistedService identity.name = some record)
    (identified : identity.Identifies record)
    (spares : EveryStep (controlStep setup) (fun host call => call.Spares setup identity host)
      start calls)
    (reached : run (controlStep setup) start calls = some final) :
    (∃ later, final.serviceState.persistedService identity.name = some later ∧
      identity.Identifies later) ∧
    ∀ manifest, ¬ Compatible identity manifest →
      (∀ localServiceId, ∃ error,
        applyWithLocalServiceId setup manifest localServiceId final = (.error error, final)) ∧
      ∀ content baseDir localServiceId resolved,
        resolveYaml setup content baseDir final = (.ok (manifest, localServiceId), resolved) →
        ∃ error, applyManifestYaml setup content baseDir final = (.error error, resolved) := by
  have held : identity.Held final :=
    invariant_of_everyStep (fun _ _ _ held spares taken => controlStep_held held spares taken)
      ⟨reachable.sound, record, persisted, identified⟩ spares reached
  refine ⟨held.stored, fun manifest incompatible => ⟨?_, ?_⟩⟩
  · intro localServiceId
    exact applyWithLocalServiceId_refused held incompatible
  · intro content baseDir localServiceId resolved resolves
    have kept := held_of_records (@resolveYaml_records setup content baseDir) final held
    rw [resolves] at kept
    rw [applyManifestYaml_eq, Program.bind_of_ok resolves]
    exact applyWithLocalServiceId_refused kept incompatible

end Runs

/-- Another definition under the name of the first service. -/
private def renamed : FungiServiceDocument :=
  { publishingDocument "mail" [("main", 9090)] with instanceName := some "notes" }

/-- The documents of the two definitions. -/
def notesPlatform : Platform :=
  { yaml := .ofTable
      [("fungi: notes", publishingDocument "notes" [("main", 8080)]),
        ("fungi: mail", renamed),
        ("fungi: written", manifestDocument (publishingManifest "notes" [("main", 8080)]))]
      (by decide +kernel) (by decide +kernel)
    json := .unary
    channel := .stable }

/-- A daemon with Wasmtime alone. -/
def notesSetup : RuntimeSetup :=
  { toPlatform := notesPlatform, fungiHome := "/f", docker := none, wasmtimeEnabled := true }

/-- A machine without services. -/
private def emptyMachine : Host :=
  Host.fresh (.ofList [([], .directory), (["f".toList], .directory)]) []

/-- The run that the service comes from. -/
private def applying : List ControlCall :=
  [.restart [] [], .applyYaml "fungi: notes" "/base" []]

/-- What is tried on the service. -/
private def afterwards : List ControlCall :=
  [.applyYaml "fungi: mail" "/base" [], .restart ["svc_0"] [], .start .wasmtime "notes"]

/-- The service of the example. -/
def notesIdentity : ServiceIdentity :=
  { name := "notes", localServiceId := "svc_0", definitionId := "notes" }

/-- A text with another definition id, a restart and a start leave the service what it is. -/
theorem serviceIdentity_of_run_notes :
    ∃ start ∈ run (controlStep notesSetup) emptyMachine applying,
      ∃ final ∈ run (controlStep notesSetup) start afterwards,
        ∃ later, final.serviceState.persistedService "notes" = some later ∧
          notesIdentity.Identifies later := by
  have evaluated : ((run (controlStep notesSetup) emptyMachine applying).map fun start =>
      ((start.serviceState.persistedService "notes").map fun record =>
          (record.manifest.name, record.localServiceId, record.manifest.definitionId),
        decide (EveryStep (controlStep notesSetup)
          (fun host call => call.Spares notesSetup notesIdentity host) start afterwards),
        (run (controlStep notesSetup) start afterwards).isSome)) =
      some (some ("notes", "svc_0", some "notes"), true, true) := by
    decide +kernel
  obtain ⟨start, applied, facts⟩ := Option.map_eq_some_iff.mp evaluated
  obtain ⟨ofRecord, ofRun⟩ := Prod.mk.inj facts
  obtain ⟨spares, runs⟩ := Prod.mk.inj ofRun
  obtain ⟨record, persisted, same⟩ := Option.map_eq_some_iff.mp ofRecord
  obtain ⟨final, reached⟩ := Option.isSome_iff_exists.mp runs
  have identified : notesIdentity.Identifies record :=
    ⟨congrArg (·.1) same, congrArg (·.2.1) same, congrArg (·.2.2) same⟩
  have kept := serviceIdentity_of_run ⟨emptyMachine, [], [], _, applied⟩ persisted identified
    (of_decide_eq_true spares) reached
  exact ⟨start, applied, final, reached, kept.1⟩

end Fungi.Runtime
