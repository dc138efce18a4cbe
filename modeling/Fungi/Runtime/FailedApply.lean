import Fungi.Runtime.ControlRuns
import Fungi.Runtime.ManifestRoundTrip

/-!
# Applies that fail

An apply checks the manifest, stops the old runtime, removes it, pulls the new one, stores the
service and starts it.  Nothing is rolled back, so the step at which it fails decides how much
of the old service is left.
-/

namespace Fungi.Runtime

open Fungi.Lib RuntimeControl WasmtimeRuntimeProvider

/-! ## The steps of an apply -/

/-- The steps at which an apply can fail. -/
inductive ApplyStep where
  | check
  | stop
  | remove
  | pull
  | persist
  | reconcile

/-- The first half of `retire`. -/
def stopOld (setup : RuntimeSetup) (name : String) (prepared : Prepared) : Action Unit :=
  match prepared.previousRuntime with
  | none => return ()
  | some runtime =>
      Program.when (prepared.desiredState = .running) (stopRuntimeOnly setup runtime name)

/-- The second half of `retire`. -/
def removeOld (setup : RuntimeSetup) (name : String) (prepared : Prepared) : Action Unit :=
  match prepared.previousRuntime with
  | none => return ()
  | some runtime => removeRuntimeOnly setup runtime name prepared.localServiceId

theorem retire_eq (setup : RuntimeSetup) (name : String) (prepared : Prepared) :
    retire setup name prepared =
      stopOld setup name prepared >>= fun _ => removeOld setup name prepared := by
  unfold retire stopOld removeOld
  cases prepared.previousRuntime with
  | none => rfl
  | some runtime => rfl

/-- The apply fails in the given step, with the error and in the state it returns. -/
inductive FailsAt (setup : RuntimeSetup) (manifest : ServiceManifest)
    (localServiceId : Option String) (host : Host) : ApplyStep → Error → Host → Prop where
  | check {error final} (failed : prepare setup manifest localServiceId host =
      (.error error, final)) : FailsAt setup manifest localServiceId host .check error final
  | stop {error final prepared checked}
      (known : prepare setup manifest localServiceId host = (.ok prepared, checked))
      (failed : stopOld setup manifest.name prepared checked = (.error error, final)) :
      FailsAt setup manifest localServiceId host .stop error final
  | remove {error final prepared checked stopped}
      (known : prepare setup manifest localServiceId host = (.ok prepared, checked))
      (stops : stopOld setup manifest.name prepared checked = (.ok (), stopped))
      (failed : removeOld setup manifest.name prepared stopped = (.error error, final)) :
      FailsAt setup manifest localServiceId host .remove error final
  | pull {error final prepared checked retired}
      (known : prepare setup manifest localServiceId host = (.ok prepared, checked))
      (retires : retire setup manifest.name prepared checked = (.ok (), retired))
      (failed : pullRuntime setup manifest prepared retired = (.error error, final)) :
      FailsAt setup manifest localServiceId host .pull error final
  | persist {error final prepared replaced}
      (replaces : replaceRuntime setup manifest localServiceId host = (.ok prepared, replaced))
      (failed : recordService setup manifest prepared replaced = (.error error, final)) :
      FailsAt setup manifest localServiceId host .persist error final
  | reconcile {error final prepared replaced recorded}
      (replaces : replaceRuntime setup manifest localServiceId host = (.ok prepared, replaced))
      (records : recordService setup manifest prepared replaced = (.ok (), recorded))
      (failed : reconcile setup manifest prepared recorded = (.error error, final)) :
      FailsAt setup manifest localServiceId host .reconcile error final

theorem failsAt_of_error {setup : RuntimeSetup} {manifest : ServiceManifest}
    {localServiceId : Option String} {host final : Host} {error : Error}
    (failed : applyWithLocalServiceId setup manifest localServiceId host =
      (.error error, final)) :
    ∃ step, FailsAt setup manifest localServiceId host step error final := by
  rw [applyWithLocalServiceId_eq] at failed
  rcases (Program.bind_eq_error _).mp failed with replacing | ⟨prepared, replaced, replaces, rest⟩
  · unfold replaceRuntime at replacing
    rcases (Program.bind_eq_error _).mp replacing with checking | ⟨prepared, checked, known, rest⟩
    · exact ⟨.check, .check checking⟩
    · rcases (Program.bind_eq_error _).mp rest with retiring | ⟨_, retired, retires, pulling⟩
      · rw [retire_eq] at retiring
        rcases (Program.bind_eq_error _).mp retiring with stopping | ⟨_, stopped, stops, removing⟩
        · exact ⟨.stop, .stop known stopping⟩
        · exact ⟨.remove, .remove known stops removing⟩
      · rcases (Program.bind_eq_error _).mp pulling with pulls | ⟨_, _, _, returned⟩
        · exact ⟨.pull, .pull known retires pulls⟩
        · cases returned
  · rcases (Program.bind_eq_error _).mp rest with recording | ⟨_, recorded, records, starting⟩
    · exact ⟨.persist, .persist replaces recording⟩
    · rcases (Program.bind_eq_error _).mp starting with starts | ⟨_, _, _, returned⟩
      · exact ⟨.reconcile, .reconcile replaces records starts⟩
      · cases returned

/-! ## The check -/

section Check

variable {setup : RuntimeSetup} {manifest : ServiceManifest} {record : PersistedService}
  {localServiceId : Option String} {host final : Host} {outcome : Except Error Prepared}

/-- Checking a manifest for a stored service changes nothing. -/
theorem prepare_unchanged
    (persisted : host.serviceState.persistedService manifest.name = some record)
    (ran : prepare setup manifest localServiceId host = (outcome, final)) :
    final = host ∧ ∀ prepared, outcome = .ok prepared →
      prepared.localServiceId = record.localServiceId ∧
        prepared.desiredState = record.desiredState := by
  unfold prepare at ran
  rcases Program.bind_cases _ ran with ⟨_, rfl, stopped⟩ | ⟨_, middle, enabled, rest⟩
  · exact ⟨(ensureRuntimeEnabled_within _).eq_of_same stopped,
      fun _ impossible => by cases impossible⟩
  · rw [(ensureRuntimeEnabled_within _).eq_of_same enabled,
      Program.bind_of_ok (Program.gets_apply _ _)] at rest
    dsimp only [id_eq] at rest
    rw [persisted] at rest
    rcases Program.bind_cases _ rest with ⟨_, rfl, refused⟩ | ⟨_, checked, compatible, resolving⟩
    · exact ⟨(Program.within_ofExcept _).eq_of_same refused,
        fun _ impossible => by cases impossible⟩
    · rw [(Program.within_ofExcept _).eq_of_same compatible] at resolving
      unfold resolveLocalServiceId at resolving
      dsimp only at resolving
      split at resolving
      · cases resolving
        exact ⟨rfl, fun _ impossible => by cases impossible⟩
      · cases resolving
        refine ⟨rfl, ?_⟩
        intro prepared returned
        cases returned
        refine ⟨rfl, ?_⟩
        unfold desiredStateOf
        rw [persisted]
        rfl

end Check

/-! ## Stopping the old runtime -/

/-- The Wasmtime service without its process. -/
def withoutProcess (state : WasmtimeServiceState) : WasmtimeServiceState :=
  { state with child := none, lastExitCode := none }

/-- Files, containers and Wasmtime services are still there; only processes may have changed. -/
structure SameEntities (before after : Host) : Prop where
  files : after.files = before.files
  containers : ∀ name : String,
    after.containers[name]?.map (·.spec) = before.containers[name]?.map (·.spec)
  services : ∀ name : String,
    after.wasmtimeServices[name]?.map withoutProcess =
      before.wasmtimeServices[name]?.map withoutProcess

/-- The frame of the programs that keep files, containers and services. -/
def entitiesFrame : Program.Frame Host where
  Allows := SameEntities
  refl _ := ⟨rfl, fun _ => rfl, fun _ => rfl⟩
  trans before after := by
    constructor
    · rw [after.files, before.files]
    · intro name
      rw [after.containers, before.containers]
    · intro name
      rw [after.services, before.services]

section Stop

variable {setup : RuntimeSetup} {name : String} {prepared : Prepared}

/-- A request that keeps the specs of the containers. -/
theorem engineStep_entities
    {effect : BTreeMap String Container → Except Error (BTreeMap String Container)}
    (kept : ∀ containers next, effect containers = .ok next → ∀ other : String,
      next[other]?.map (·.spec) = containers[other]?.map (·.spec)) :
    Program.Within entitiesFrame (engineStep effect) := by
  intro host
  unfold engineStep externalStep
  split
  · dsimp only
    split
    · next carried => exact ⟨rfl, kept _ _ carried, fun _ => rfl⟩
    · exact ⟨rfl, fun _ => rfl, fun _ => rfl⟩
  · dsimp only
    cases carried : effect host.containers with
    | ok containers => exact ⟨rfl, kept _ _ carried, fun _ => rfl⟩
    | error error => exact ⟨rfl, fun _ => rfl, fun _ => rfl⟩

/-- A request that keeps the container and its spec. -/
theorem changeContainer_entities {change : Container → Except Error (Option Container)}
    (kept : ∀ container, ∃ running, change container = .ok (some { container with running })) :
    Program.Within entitiesFrame (changeContainer name change) := by
  apply engineStep_entities
  intro containers next effect other
  cases present : containers[name]? with
  | none =>
      rw [present] at effect
      cases effect
  | some container =>
      obtain ⟨running, changed⟩ := kept container
      rw [present] at effect
      dsimp only at effect
      rw [changed] at effect
      cases effect
      rw [getElem?_insert]
      split
      · next same =>
          rw [← same, present]
          rfl
      · rfl

theorem stopContainer_entities (policy : AgentPolicy) :
    Program.Within entitiesFrame (DockerAgent.stopContainer policy name) := by
  unfold DockerAgent.stopContainer DockerAgent.ensureManaged inspectRequest
  apply Program.Within.bind
  · apply Program.Within.bind
    · apply (changeContainer_entities fun container => ⟨container.running, rfl⟩).bind
      intro _
      apply (Program.within_gets _).bind
      intro host
      cases host.containers[name]? with
      | none => exact Program.within_fail _
      | some container => exact Program.within_pure _
    · intro container
      exact Program.Within.ite (Program.within_pure _) (Program.within_fail _)
  · intro _
    exact changeContainer_entities fun container => ⟨false, rfl⟩

theorem unseenStep_entities {failure : String} :
    Program.Within entitiesFrame (unseenStep failure) := by
  apply within_fileStep
  · intro host files outcomes same
    cases same
    exact ⟨rfl, fun _ => rfl, fun _ => rfl⟩
  · intro host fault outcomes
    exact ⟨rfl, fun _ => rfl, fun _ => rfl⟩
  · intro host outcomes
    exact ⟨rfl, fun _ => rfl, fun _ => rfl⟩

/-- As `entitiesFrame`, from states in which the service is the given one. -/
def serviceFrame (name : String) (state : WasmtimeServiceState) : Program.Frame Host where
  Allows before after :=
    before.wasmtimeServices[name]?.map withoutProcess = some (withoutProcess state) →
      SameEntities before after
  refl _ _ := entitiesFrame.refl _
  trans before after here := by
    have first := before here
    exact entitiesFrame.trans first (after ((first.services _).trans here))

variable {state : WasmtimeServiceState}

theorem within_serviceFrame {Value : Type} {action : Action Value}
    (within : Program.Within entitiesFrame action) :
    Program.Within (serviceFrame name state) action :=
  within.mono fun _ _ allowed _ => allowed

theorem putService_entities {next : WasmtimeServiceState}
    (same : withoutProcess next = withoutProcess state) :
    Program.Within (serviceFrame name state) (putService name next) := by
  apply Program.within_modify
  intro host here
  refine ⟨rfl, fun _ => rfl, ?_⟩
  intro other
  dsimp only
  rw [getElem?_insert]
  split
  · next isOther =>
      rw [← isOther, here, ← same]
      rfl
  · rfl

theorem refreshChildState_entities :
    Program.Within (serviceFrame name state) (refreshChildState name state) := by
  unfold refreshChildState
  cases state.child with
  | none => exact Program.within_pure _
  | some child =>
      apply (within_serviceFrame unseenStep_entities).bind
      intro _
      cases child.exited with
      | none => exact Program.within_pure _
      | some code =>
          apply Program.Within.bind
          · exact putService_entities rfl
          · intro _
            exact Program.within_pure _

theorem wasmtimeStop_entities :
    Program.Within entitiesFrame (WasmtimeRuntimeProvider.stop name) := by
  unfold WasmtimeRuntimeProvider.stop
  intro host
  rw [Program.bind_apply, getService_apply]
  cases present : host.wasmtimeServices[name]? with
  | none => exact entitiesFrame.refl host
  | some state =>
      dsimp only
      refine refreshChildState_entities.bind_of_value
        (fun _ _ _ succeeded => refreshChildState_eq_ok succeeded) ?_ host (by rw [present]; rfl)
      intro refreshed changed
      obtain ⟨child, lastExitCode, rfl⟩ := changed
      cases child with
      | none => exact Program.within_pure _
      | some running =>
          apply Program.Within.bind
          · exact putService_entities rfl
          · intro _
            apply (within_serviceFrame unseenStep_entities).bind
            intro _
            apply (within_serviceFrame unseenStep_entities).bind
            intro _
            exact putService_entities rfl

theorem stopOld_entities : Program.Within entitiesFrame (stopOld setup name prepared) := by
  unfold stopOld
  cases prepared.previousRuntime with
  | none => exact Program.within_pure _
  | some runtime =>
      apply Program.Within.when
      intro _
      unfold stopRuntimeOnly
      apply Program.Within.bind
      · apply Program.Within.attempt
        cases runtime with
        | docker =>
            unfold stopRuntime dockerProvider
            apply Program.Within.bind
            · cases setup.docker with
              | none => exact Program.within_fail _
              | some policy => exact Program.within_pure _
            · intro policy
              apply (Program.within_gets _).bind
              intro handle
              exact stopContainer_entities policy
        | wasmtime => exact wasmtimeStop_entities
        | external => exact Program.within_pure _
      · intro stopped
        cases stopped with
        | ok _ => exact Program.within_pure _
        | error error =>
            apply Program.Within.ite
            · exact Program.within_pure _
            · exact Program.Within.ite (Program.within_pure _) (Program.within_fail _)

end Stop

/-! ## Removing the old runtime and pulling the new one -/

/-- The directories of a service, and those the Wasmtime provider keeps for it. -/
def ownDirectories (setup : RuntimeSetup) (host : Host) (name localServiceId : String) :
    List String :=
  setup.serviceArtifactsDir localServiceId :: setup.runtimeDir name ::
    match host.wasmtimeServices[name]? with
    | none => []
    | some state => [state.serviceDir, state.runtimeDir, state.logFilePath]

/-- The place is in one of the directories. -/
def InDirectories (directories : List String) (place : List Name) : Prop :=
  ∃ directory ∈ directories, Path.resolve directory <+: place

section Replace

variable {setup : RuntimeSetup} {manifest : ServiceManifest} {name localServiceId : String}
  {host final : Host} {prepared : Prepared} {directories : List String}

/-- What exists outside the directories stays. -/
def keepingOutside (directories : List String) : FileSystem.ChangeRule :=
  .leaving (fun _ => False) fun place => ¬ InDirectories directories place

theorem keepingOutside_allows {place : List Name} (inside : InDirectories directories place)
    (before after : Option Node) : (keepingOutside directories).Allows place before after :=
  FileSystem.ChangeRule.leaving_changed ⟨not_false, not_not.mpr inside⟩ before after

/-- The services of the name stay in the directories. -/
def KeptIn (directories : List String) (name other : String) (state : WasmtimeServiceState) :
    Prop :=
  other = name → ∀ directory ∈ [state.serviceDir, state.runtimeDir, state.logFilePath],
    ∀ place, Path.resolve directory <+: place → InDirectories directories place

theorem keptIn_own (host : Host) (name localServiceId : String) :
    EveryService (KeptIn (ownDirectories setup host name localServiceId) name) host := by
  intro other state present same directory membership place below
  refine ⟨directory, ?_, below⟩
  unfold ownDirectories
  rw [← same, present]
  exact List.mem_cons_of_mem _ (List.mem_cons_of_mem _ membership)

theorem governs_own : Governs (keepingOutside directories) (KeptIn directories name) name where
  refreshed held _ _ := held
  logged held node content := keepingOutside_allows
    (held rfl _ (by simp) _ (List.prefix_refl _)) node _
  removed held place below node := by
    apply keepingOutside_allows
    rcases below with service | runtime
    · exact held rfl _ (by simp) _ service
    · exact held rfl _ (by simp) _ runtime

theorem admits_own (artifacts : setup.serviceArtifactsDir localServiceId ∈ directories)
    (runtime : setup.runtimeDir name ∈ directories) :
    Admits setup (keepingOutside directories) (KeptIn directories name) name localServiceId := by
  have logged : InDirectories directories
      (Path.resolve (Path.join (setup.runtimeDir name) "runtime.log")) := by
    refine ⟨_, runtime, ?_⟩
    rw [Path.resolve_join_plain (by decide)]
    exact List.prefix_append _ _
  constructor
  · intro place _
    exact FileSystem.ChangeRule.leaving_made not_false
  · intro node content
    apply keepingOutside_allows
    refine ⟨_, artifacts, ?_⟩
    rw [Path.resolve_join_plain (by decide)]
    exact List.prefix_append _ _
  · intro node content
    exact keepingOutside_allows logged node _
  · intro place below node
    apply keepingOutside_allows
    rcases below with inArtifacts | inRuntime
    · exact ⟨_, artifacts, inArtifacts⟩
    · exact ⟨_, runtime, inRuntime⟩
  · intro state located _ directory membership place below
    rw [located.serviceDir, located.runtimeDir, located.logFilePath] at membership
    simp only [List.mem_cons, List.not_mem_nil, or_false] at membership
    rcases membership with rfl | rfl | rfl
    · exact ⟨_, artifacts, below⟩
    · exact ⟨_, runtime, below⟩
    · obtain ⟨directory, listed, prefixed⟩ := logged
      exact ⟨directory, listed, prefixed.trans below⟩

theorem mountsMade_own : MountsMade (keepingOutside directories) manifest :=
  fun _ _ _ _ => FileSystem.ChangeRule.leaving_made not_false

/-- Retiring the old runtime and pulling the new one leave what is outside the service's
directories. -/
theorem keptOutside {Value : Type} {action : Action Value}
    (within : Program.Within (providerFrame
      (keepingOutside (ownDirectories setup host name localServiceId))
      (KeptIn (ownDirectories setup host name localServiceId) name)) action)
    {place : List Name} (outside : ¬ InDirectories (ownDirectories setup host name localServiceId)
      place) (found : host.files place ≠ none) :
    (action host).2.files place = host.files place :=
  ((within host (keptIn_own host name localServiceId)).2.1 place).2 outside found

theorem retire_own (known : prepared.localServiceId = localServiceId) :
    Program.Within (providerFrame
      (keepingOutside (ownDirectories setup host name localServiceId))
      (KeptIn (ownDirectories setup host name localServiceId) name))
      (retire setup name prepared) := by
  apply retire_within governs_own
  rw [known]
  exact admits_own List.mem_cons_self (List.mem_cons_of_mem _ List.mem_cons_self)

theorem pullRuntime_own (known : prepared.localServiceId = localServiceId) :
    Program.Within (providerFrame
      (keepingOutside (ownDirectories setup host manifest.name localServiceId))
      (KeptIn (ownDirectories setup host manifest.name localServiceId) manifest.name))
      (pullRuntime setup manifest prepared) := by
  apply pullRuntime_within governs_own _ mountsMade_own
  rw [known]
  exact admits_own List.mem_cons_self (List.mem_cons_of_mem _ List.mem_cons_self)

end Replace

/-! ## What a failed apply leaves -/

/-- What is left of the service when an apply fails in the step. -/
def ApplyStep.Leaves (setup : RuntimeSetup) (manifest : ServiceManifest)
    (record : PersistedService) (host final : Host) : ApplyStep → Prop
  | .check => final = host
  | .stop => SameRecords host final ∧ SameEntities host final
  | .remove | .pull => SameRecords host final ∧ ∀ place,
      ¬ InDirectories (ownDirectories setup host manifest.name record.localServiceId) place →
        host.files place ≠ none → final.files place = host.files place
  | .persist | .reconcile =>
      final.serviceIndex = host.serviceIndex.insert manifest.name manifest.runtime ∧
        Replaced { record with manifest } host final

section Leaves

variable {setup : RuntimeSetup} {manifest : ServiceManifest} {localServiceId : Option String}
  {host final replaced : Host} {record : PersistedService} {error : Error} {prepared : Prepared}
  {step : ApplyStep}

theorem resolveUpsertLocalServiceId_of_listed {name id : String} (valid : LocalId id)
    (listed : host.serviceState.nameIndex[name]? = some id) :
    resolveUpsertLocalServiceId name (some id) host = (.ok id, host) := by
  unfold resolveUpsertLocalServiceId
  rw [Program.bind_of_ok (Program.gets_apply _ _), listed]
  dsimp only
  rw [normalizeLocalServiceId_of_localId valid]
  dsimp only [Except.map]
  rw [Program.bind_of_ok ((Program.ofExcept_eq_ok _).mpr ⟨rfl, rfl⟩)]
  exact congrFun (if_neg (not_not.mpr rfl)) host

/-- The manifest of a stored service is replaced, whether saving it succeeds or fails. -/
theorem recordService_replaces {outcome : Except Error Unit} (sound : host.serviceState.Sound)
    (persisted : host.serviceState.persistedService manifest.name = some record)
    (same : prepared.localServiceId = record.localServiceId)
    (desired : prepared.desiredState = record.desiredState)
    (ran : recordService setup manifest prepared host = (outcome, final)) :
    final.serviceIndex = host.serviceIndex.insert manifest.name manifest.runtime ∧
      Replaced { record with manifest } host final := by
  obtain ⟨id, listed, present⟩ := ServiceStateStore.persistedService_eq_some.mp persisted
  have own := sound.indexed.ids id record present
  rw [← own] at listed
  obtain ⟨index, -, stored⟩ := recordService_cases sound ran
  refine ⟨index, ?_⟩
  rcases stored with ⟨_, inserted, -, sameStore, refused, -⟩ | ⟨newId, assignable, isReplaced⟩
  · rw [same, resolveUpsertLocalServiceId_of_listed (own ▸ sound.ids id record present)
      (sameStore ▸ listed)] at refused
    cases refused
  · rw [← assignable.own _ listed, desired] at isReplaced
    exact isReplaced

theorem replaceRuntime_keeps
    (persisted : host.serviceState.persistedService manifest.name = some record)
    (replaces : replaceRuntime setup manifest localServiceId host = (.ok prepared, replaced)) :
    SameRecords host replaced ∧ prepared.localServiceId = record.localServiceId ∧
      prepared.desiredState = record.desiredState := by
  have same := @replaceRuntime_records setup manifest localServiceId host
  rw [replaces] at same
  refine ⟨same, ?_⟩
  unfold replaceRuntime at replaces
  obtain ⟨_, _, known, rest⟩ := (Program.bind_eq_ok _).mp replaces
  obtain ⟨_, _, -, rest⟩ := (Program.bind_eq_ok _).mp rest
  obtain ⟨_, _, -, returned⟩ := (Program.bind_eq_ok _).mp rest
  cases returned
  exact (prepare_unchanged persisted known).2 _ rfl

theorem stopOld_records (name : String) :
    Program.Within recordsFrame (stopOld setup name prepared) := by
  apply records_of_provider
  unfold stopOld
  cases prepared.previousRuntime with
  | none => exact Program.within_pure _
  | some runtime =>
      apply Program.Within.when
      intro _
      exact stopRuntimeOnly_within (governs_any name) runtime

/-- An action of the providers that ends here leaves the records and what is outside the
service's directories. -/
theorem leaves_of_within {Value : Type} {action : Action Value} {outcome : Except Error Value}
    (records : Program.Within recordsFrame action)
    (within : Program.Within (providerFrame
      (keepingOutside (ownDirectories setup host manifest.name record.localServiceId))
      (KeptIn (ownDirectories setup host manifest.name record.localServiceId) manifest.name))
      action)
    (ran : action host = (outcome, final)) :
    ApplyStep.remove.Leaves setup manifest record host final := by
  have same := records host
  rw [ran] at same
  refine ⟨same, ?_⟩
  intro place outside found
  have kept := keptOutside within outside found
  rw [ran] at kept
  exact kept

theorem FailsAt.leaves (sound : host.serviceState.Sound)
    (persisted : host.serviceState.persistedService manifest.name = some record)
    (fails : FailsAt setup manifest localServiceId host step error final) :
    step.Leaves setup manifest record host final := by
  cases fails with
  | check failed => exact (prepare_unchanged persisted failed).1
  | @stop _ _ prepared _ known failed =>
      rw [(prepare_unchanged persisted known).1] at failed
      have same := @stopOld_records setup prepared manifest.name host
      have present := @stopOld_entities setup manifest.name prepared host
      rw [failed] at same present
      exact ⟨same, present⟩
  | @remove _ _ prepared _ _ known stops failed =>
      obtain ⟨unchanged, facts⟩ := prepare_unchanged persisted known
      rw [unchanged] at stops
      have retires : retire setup manifest.name prepared host = (.error error, final) := by
        rw [retire_eq]
        exact (Program.bind_eq_error _).mpr (Or.inr ⟨_, _, stops, failed⟩)
      exact leaves_of_within
        (records_of_provider (retire_within (governs_any _) (admits_any setup _ _)))
        (retire_own (facts _ rfl).1) retires
  | @pull _ _ prepared _ _ known retires failed =>
      obtain ⟨unchanged, facts⟩ := prepare_unchanged persisted known
      rw [unchanged] at retires
      have pulls : (retire setup manifest.name prepared >>= fun _ =>
          pullRuntime setup manifest prepared) host = (.error error, final) :=
        (Program.bind_eq_error _).mpr (Or.inr ⟨_, _, retires, failed⟩)
      refine leaves_of_within ?_ ?_ pulls
      · apply (records_of_provider (retire_within (governs_any _) (admits_any setup _ _))).bind
        intro _
        exact records_of_provider (pullRuntime_within (governs_any _) (admits_any setup _ _)
          (mountsMade_any manifest))
      · apply (retire_own (facts _ rfl).1).bind
        intro _
        exact pullRuntime_own (facts _ rfl).1
  | persist replaces failed =>
      obtain ⟨same, sameId, desired⟩ := replaceRuntime_keeps persisted replaces
      obtain ⟨index, isReplaced⟩ := recordService_replaces (same.state ▸ sound)
        (same.state ▸ persisted) sameId desired failed
      exact ⟨same.index ▸ index, isReplaced.of_same same⟩
  | @reconcile _ _ prepared _ recorded replaces records failed =>
      obtain ⟨same, sameId, desired⟩ := replaceRuntime_keeps persisted replaces
      obtain ⟨index, isReplaced⟩ := recordService_replaces (same.state ▸ sound)
        (same.state ▸ persisted) sameId desired records
      have running : prepared.desiredState = .running := by
        by_contra stopped
        unfold RuntimeControl.reconcile Program.when at failed
        rw [if_neg stopped] at failed
        cases failed
      have stored := reconcile_stored isReplaced.sound
        ((isReplaced.state _).trans (if_pos rfl)) (desired ▸ running) failed
      refine ⟨stored.index.trans (same.index ▸ index), ?_, ?_, stored.sound⟩
      · rw [stored.manifests, isReplaced.manifests, same.manifests]
      · intro name
        rw [stored.state, isReplaced.state, same.state]
        split
        · rfl
        · rfl

/-- The service keeps its id and its desired state in every case. -/
theorem ApplyStep.Leaves.keeps_desiredState (step : ApplyStep)
    (persisted : host.serviceState.persistedService manifest.name = some record)
    (leaves : step.Leaves setup manifest record host final) :
    ∃ kept, final.serviceState.persistedService manifest.name = some kept ∧
      kept.localServiceId = record.localServiceId ∧ kept.desiredState = record.desiredState := by
  have unchanged (same : final.serviceState = host.serviceState) :
      ∃ kept, final.serviceState.persistedService manifest.name = some kept ∧
        kept.localServiceId = record.localServiceId ∧
          kept.desiredState = record.desiredState :=
    ⟨record, same ▸ persisted, rfl, rfl⟩
  have newManifest (isReplaced : Replaced { record with manifest } host final) :
      ∃ kept, final.serviceState.persistedService manifest.name = some kept ∧
        kept.localServiceId = record.localServiceId ∧
          kept.desiredState = record.desiredState :=
    ⟨_, (isReplaced.state _).trans (if_pos rfl), rfl, rfl⟩
  cases step with
  | check => exact unchanged (congrArg Host.serviceState leaves)
  | stop => exact unchanged leaves.1.state
  | remove => exact unchanged leaves.1.state
  | pull => exact unchanged leaves.1.state
  | persist => exact newManifest leaves.2
  | reconcile => exact newManifest leaves.2

/-- An apply for a stored service that fails keeps the id and the desired state of the service.
How much else it keeps depends on the step that fails. -/
theorem failed_apply_leaves (reachable : Reachable setup host)
    (persisted : host.serviceState.persistedService manifest.name = some record)
    (failed : applyWithLocalServiceId setup manifest localServiceId host =
      (.error error, final)) :
    (∃ kept, final.serviceState.persistedService manifest.name = some kept ∧
      kept.localServiceId = record.localServiceId ∧ kept.desiredState = record.desiredState) ∧
    ∃ step, FailsAt setup manifest localServiceId host step error final ∧
      step.Leaves setup manifest record host final := by
  obtain ⟨step, fails⟩ := failsAt_of_error failed
  have leaves := fails.leaves reachable.sound persisted
  exact ⟨leaves.keeps_desiredState step persisted, step, fails, leaves⟩

end Leaves

/-! ## What it may lose -/

/-- The records of a service are those from before the apply. -/
structure KeepsRecords (name : String) (record : PersistedService) (host final : Host) : Prop where
  persisted : final.serviceState.persistedService name = some record
  manifest : final.serviceManifests[name]? = host.serviceManifests[name]?
  index : final.serviceIndex[name]? = host.serviceIndex[name]?

/-- The process, the container and the artifacts directory of the service are as before. -/
structure KeepsEntity (setup : RuntimeSetup) (name : String) (record : PersistedService)
    (host final : Host) : Prop where
  process : final.wasmtimeServices[name]? = host.wasmtimeServices[name]?
  container : final.containers[record.localServiceId]? = host.containers[record.localServiceId]?
  artifacts : host.files.pathExists (setup.serviceArtifactsDir record.localServiceId) →
    final.files.pathExists (setup.serviceArtifactsDir record.localServiceId)

/-- Every apply that fails for a stored service has the property. -/
def EveryFailedApply (property : RuntimeSetup → String → PersistedService → Host → Host → Prop) :
    Prop :=
  ∀ (setup : RuntimeSetup) (manifest : ServiceManifest) (localServiceId : Option String)
    (host final : Host) (record : PersistedService) (error : Error), Reachable setup host →
      host.serviceState.persistedService manifest.name = some record →
      applyWithLocalServiceId setup manifest localServiceId host = (.error error, final) →
      property setup manifest.name record host final

/-- A Docker service with one port. -/
def containerManifest (image : String) (mounts : List ServiceMount) : ServiceManifest :=
  { name := "demo"
    definitionId := some "demo"
    runtime := .docker
    runMode := .command
    source := .docker image
    expose := some { transport := .tcp, usage := none, iconUrl := none }
    env := ∅
    mounts
    ports :=
      [{ name := some "main", hostPort := 8080, hostPortAllocation := .auto, servicePort := 80,
         protocol := .tcp }]
    command := []
    entrypoint := []
    workingDir := none
    labels := ∅ }

/-- A mount that lies below none of the default roots. -/
def foreignMount : ServiceMount :=
  { hostPath := "/etc", runtimePath := "/etc" }

/-- The Docker policy of the daemon, with the default roots. -/
def containerSetup : RuntimeSetup :=
  { yaml := .ofTable [("fungi: demo", manifestDocument (containerManifest "demo" []))]
      (by decide +kernel) (by decide +kernel)
    json := .unary
    channel := .stable
    fungiHome := "/f"
    docker := some
      { managedLabelKey := "managed_by", managedLabelValue := "fungi"
        allowedHostPaths := ["/Fungi", "/f/appdata"], allowedPorts := [] }
    wasmtimeEnabled := false }

/-- A step that fails once it has been carried out. -/
private def lateFault : Option Fault :=
  some { made := 0, deleted := [], left := none, carriedOut := true, reply := .message "" }

/-- A machine with a stored Docker service that is to be running, and its running container.
The start of the daemon fails to inspect the container. -/
def containerMachine (outcomes : List (Option Fault)) : Host :=
  { Host.fresh (.ofList
      [([], .directory),
        (["f".toList], .directory),
        (["f".toList, "services".toList], .directory),
        (["f".toList, "services".toList, "svc_a".toList], .directory),
        (["f".toList, "services".toList, "svc_a".toList, "service.yaml".toList],
          .file "fungi: demo"),
        (["f".toList, "services".toList, "svc_a".toList, "state.json".toList],
          .file "r11/svc_a")])
      (List.replicate 5 none ++ lateFault :: outcomes) with
    containers := (∅ : BTreeMap String Container).insert "svc_a"
      { spec :=
          { name := some "svc_a", image := "demo", env := ∅, mounts := []
            ports := [{ hostPort := 8080, containerPort := 80, protocol := .tcp }], command := []
            entrypoint := [], workingDir := none
            labels := (∅ : BTreeMap String String).insert "managed_by" "fungi" }
        running := true } }

/-- The daemon is started and the service is to be replaced. -/
private def replacing (manifest : ServiceManifest) (outcomes : List (Option Fault)) :
    Option (Host × PersistedService × Except Error AppliedService × Host) := do
  let host ← run (controlStep containerSetup) (containerMachine outcomes)
    [.restart ["svc_a"] [8080]]
  let record ← host.serviceState.persistedService manifest.name
  let ran := applyWithLocalServiceId containerSetup manifest none host
  return (host, record, ran.1, ran.2)

private theorem not_everyFailedApply
    {property : RuntimeSetup → String → PersistedService → Host → Host → Prop}
    {facts : Host → PersistedService → Host → Bool} (manifest : ServiceManifest)
    (outcomes : List (Option Fault))
    (evaluated : ((replacing manifest outcomes).map fun ran =>
      ran.2.2.1.toOption.isNone && facts ran.1 ran.2.1 ran.2.2.2) = some true)
    (refutes : ∀ {host record final}, facts host record final = true →
      ¬ property containerSetup manifest.name record host final) : ¬ EveryFailedApply property := by
  intro every
  obtain ⟨ran, replaced, found⟩ := Option.map_eq_some_iff.mp evaluated
  obtain ⟨host, reached, replaced⟩ := Option.bind_eq_some_iff.mp replaced
  obtain ⟨record, persisted, replaced⟩ := Option.bind_eq_some_iff.mp replaced
  cases replaced
  obtain ⟨failed, holds⟩ := Bool.and_eq_true_iff.mp found
  cases outcome : applyWithLocalServiceId containerSetup manifest none host with
  | mk result final =>
      rw [outcome] at failed holds
      cases result with
      | ok applied => cases failed
      | error error =>
          exact refutes holds (every containerSetup _ none host final record error
            ⟨_, _, _, _, reached⟩ persisted outcome)

/-- The new container is refused for its mount once the old one is gone; the new manifest is in
memory when it cannot be saved; the old container has been stopped when the request to stop it
fails. -/
theorem failed_apply_loses :
    ¬ EveryFailedApply (fun setup name record host final =>
        KeepsRecords name record host final ∧ KeepsEntity setup name record host final) ∧
      ¬ EveryFailedApply (fun _ => KeepsRecords) ∧
      ¬ EveryFailedApply (fun _ name record host final => KeepsRecords name record host final →
        final.containers[record.localServiceId]?.isSome) ∧
      ¬ EveryFailedApply (fun setup name record host final =>
        final.containers[record.localServiceId]?.isSome → KeepsRecords name record host final →
          KeepsEntity setup name record host final) := by
  have recordsLost : ¬ EveryFailedApply (fun _ => KeepsRecords) := by
    apply @not_everyFailedApply _ (fun host _ final =>
        decide (final.serviceManifests["demo"]? ≠ host.serviceManifests["demo"]?))
      (containerManifest "other" [])
      (List.replicate 6 none ++ [lateFault])
      (by decide +kernel)
    intro host record final facts kept
    exact of_decide_eq_true facts kept.manifest
  refine ⟨?_, recordsLost, ?_, ?_⟩
  · intro every
    apply recordsLost
    intro setup manifest localServiceId host final record error reachable persisted failed
    exact (every setup manifest localServiceId host final record error reachable persisted
      failed).1
  · apply @not_everyFailedApply _ (fun host record final =>
        decide (final.serviceState.persistedService "demo" = some record ∧
          final.serviceManifests["demo"]? = host.serviceManifests["demo"]? ∧
          final.serviceIndex["demo"]? = host.serviceIndex["demo"]? ∧
          ¬ final.containers[record.localServiceId]?.isSome))
      (containerManifest "demo" [foreignMount]) [] (by decide +kernel)
    intro host record final facts implied
    obtain ⟨persisted, manifest, index, lost⟩ := of_decide_eq_true facts
    exact lost (implied ⟨persisted, manifest, index⟩)
  · apply @not_everyFailedApply _ (fun host record final =>
        decide (final.serviceState.persistedService "demo" = some record ∧
          final.serviceManifests["demo"]? = host.serviceManifests["demo"]? ∧
          final.serviceIndex["demo"]? = host.serviceIndex["demo"]? ∧
          final.containers[record.localServiceId]?.isSome ∧
          final.containers[record.localServiceId]? ≠ host.containers[record.localServiceId]?))
      (containerManifest "demo" []) [none, lateFault] (by decide +kernel)
    intro host record final facts implied
    obtain ⟨persisted, manifest, index, present, changed⟩ := of_decide_eq_true facts
    exact changed (implied present ⟨persisted, manifest, index⟩).container

/-- The refused container costs the old one, and nothing else outside its directories. -/
theorem failed_apply_leaves_demo :
    ∃ (host final : Host) (record : PersistedService) (error : Error),
      run (controlStep containerSetup) (containerMachine []) [.restart ["svc_a"] [8080]] =
        some host ∧
      host.serviceState.persistedService "demo" = some record ∧
      (∃ kept, final.serviceState.persistedService "demo" = some kept ∧
        kept.localServiceId = record.localServiceId ∧
          kept.desiredState = record.desiredState) ∧
      ∃ step,
        FailsAt containerSetup (containerManifest "demo" [foreignMount]) none host step error
          final ∧
        step.Leaves containerSetup (containerManifest "demo" [foreignMount]) record host final := by
  have evaluated : ((replacing (containerManifest "demo" [foreignMount]) []).map fun ran =>
      ran.2.2.1.toOption.isNone) = some true := by
    decide +kernel
  obtain ⟨ran, replaced, failed⟩ := Option.map_eq_some_iff.mp evaluated
  obtain ⟨host, reached, replaced⟩ := Option.bind_eq_some_iff.mp replaced
  obtain ⟨record, persisted, replaced⟩ := Option.bind_eq_some_iff.mp replaced
  cases replaced
  cases outcome : applyWithLocalServiceId containerSetup
      (containerManifest "demo" [foreignMount]) none host with
  | mk result final =>
      rw [outcome] at failed
      cases result with
      | ok applied => cases failed
      | error error =>
          exact ⟨host, final, record, error, reached, persisted,
            failed_apply_leaves ⟨_, _, _, _, reached⟩ persisted outcome⟩

end Fungi.Runtime
