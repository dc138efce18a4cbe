import Fungi.Runtime.ProviderSpec
import Fungi.Runtime.ServiceStateSpec

/-!
# Records

The daemon keeps three records of its services: the index and the manifests in memory, and
the service state store.  The providers leave all three alone.  The calls of `RuntimeControl`
change them at a few places only, which this file names.
-/

namespace Fungi.Runtime

open Fungi.Lib Fungi.Config RuntimeControl

/-! ## Calls that leave the records alone -/

/-- The index, the manifests and the store are as before. -/
structure SameRecords (before after : Host) : Prop where
  index : after.serviceIndex = before.serviceIndex
  manifests : after.serviceManifests = before.serviceManifests
  state : after.serviceState = before.serviceState

/-- The frame of the programs that keep the records. -/
def recordsFrame : Program.Frame Host where
  Allows := SameRecords
  refl _ := ⟨rfl, rfl, rfl⟩
  trans before after := by
    constructor
    · rw [after.index, before.index]
    · rw [after.manifests, before.manifests]
    · rw [after.state, before.state]

section SameRecords

variable {setup : RuntimeSetup} {manifest : ServiceManifest} {name localServiceId : String}

theorem SameRecords.desiredStateOf {before after : Host} (same : SameRecords before after)
    (name : String) :
    RuntimeControl.desiredStateOf after name = RuntimeControl.desiredStateOf before name := by
  unfold RuntimeControl.desiredStateOf
  rw [same.state]

/-- The least that is known of what a provider does. -/
abbrev anyFrame : Program.Frame Host := providerFrame .any fun _ _ => True

theorem governs_any (name : String) : Governs .any (fun _ _ => True) name where
  refreshed _ _ _ := trivial
  logged _ _ _ := trivial
  removed _ _ _ _ := trivial

theorem admits_any (setup : RuntimeSetup) (name localServiceId : String) :
    Admits setup .any (fun _ _ => True) name localServiceId where
  made _ _ := trivial
  staged _ _ := trivial
  logged _ _ := trivial
  removed _ _ _ := trivial
  built _ _ := trivial

theorem mountsMade_any (manifest : ServiceManifest) : MountsMade .any manifest :=
  fun _ _ _ _ => trivial

variable {Value : Type} {action : Action Value}

theorem records_of_files (within : Program.Within (filesFrame .any) action) :
    Program.Within recordsFrame action := by
  apply within.mono
  intro before after allowed
  rw [allowed.2]
  exact ⟨rfl, rfl, rfl⟩

theorem records_of_provider (within : Program.Within anyFrame action) :
    Program.Within recordsFrame action := by
  apply within.mono
  intro before after allowed
  rw [(allowed fun _ _ _ => trivial).2.2]
  exact ⟨rfl, rfl, rfl⟩

theorem records_of_ulids (within : Program.Within ulidFrame action) :
    Program.Within recordsFrame action := by
  apply within.mono
  intro before after allowed
  rw [show after = _ from allowed]
  exact ⟨rfl, rfl, rfl⟩

theorem ensureRuntimeEnabled_within {frame : Program.Frame Host} (runtime : RuntimeKind) :
    Program.Within frame (ensureRuntimeEnabled setup runtime) := by
  unfold ensureRuntimeEnabled
  cases runtime with
  | docker => exact Program.Within.ite (Program.within_fail _) (Program.within_pure _)
  | wasmtime => exact Program.Within.ite (Program.within_fail _) (Program.within_pure _)
  | external => exact Program.within_pure _

theorem localServiceIdOf_within {frame : Program.Frame Host} (name : String) :
    Program.Within frame (localServiceIdOf name) := by
  unfold localServiceIdOf
  apply (Program.within_gets _).bind
  intro store
  exact Program.within_ofExcept _

theorem ensureRuntimeService_within (runtime : RuntimeKind) (name : String) :
    Program.Within anyFrame (ensureRuntimeService setup runtime name) := by
  unfold ensureRuntimeService
  apply (Program.within_gets _).bind
  intro host
  apply Program.Within.ite
  · exact Program.within_pure _
  · cases host.serviceManifests[name]? with
    | none => exact Program.within_fail _
    | some manifest =>
        apply (localServiceIdOf_within name).bind
        intro localServiceId
        exact restore_within (admits_any setup _ _) (mountsMade_any manifest)

theorem inspectRuntime_within (runtime : RuntimeKind) (name : String) :
    Program.Within anyFrame (inspectRuntime setup runtime name) := by
  unfold inspectRuntime
  apply (Program.within_gets _).bind
  intro manifests
  cases runtime with
  | docker =>
      apply dockerProvider_within.bind
      intro policy
      apply (Program.within_gets _).bind
      intro handle
      unfold DockerAgent.inspectContainer
      apply (ensureManaged_within policy handle).attempt.bind
      intro outcome
      cases outcome with
      | ok _ => exact Program.within_pure _
      | error error => exact Program.Within.ite (Program.within_pure _) (Program.within_fail _)
  | wasmtime => exact wasmtimeInspect_within (governs_any name)
  | external => exact Program.Within.ite (Program.within_pure _) (Program.within_fail _)

theorem inspect_records (runtime : RuntimeKind) (name : String) :
    Program.Within recordsFrame (inspect setup runtime name) := by
  apply records_of_provider
  unfold inspect
  apply (ensureRuntimeService_within runtime name).attempt.bind
  intro outcome
  cases outcome with
  | ok _ => exact inspectRuntime_within runtime name
  | error error =>
      apply (Program.within_gets _).bind
      intro manifests
      exact Program.Within.ite (Program.within_pure _) (Program.within_fail _)

theorem saveService_files (platform : Platform) (localServiceId : String) :
    Program.Within (filesFrame .any) (saveService platform localServiceId) := by
  unfold saveService
  apply (Program.within_gets _).bind
  intro store
  cases store.state[localServiceId]? with
  | none => exact Program.within_fail _
  | some service =>
      unfold createServiceDirs writeServiceFiles
      apply Program.Within.bind
      · exact (createDirAll_within fun _ _ => trivial).bind fun _ =>
          createDirAll_within fun _ _ => trivial
      · intro _
        apply (Program.within_ofExcept _).bind
        intro text
        apply (atomicWrite_within (by decide) (fun _ _ => trivial) fun _ _ => trivial).bind
        intro _
        exact atomicWrite_within (by decide) (fun _ _ => trivial) fun _ _ => trivial

theorem saveService_records (platform : Platform) (localServiceId : String) :
    Program.Within recordsFrame (saveService platform localServiceId) :=
  records_of_files (saveService_files platform localServiceId)

end SameRecords

/-! ## Storing a record -/

namespace ServiceStateStore

variable {store : ServiceStateStore} {record : PersistedService} {name id : String}

theorem Indexed.add (indexed : store.Indexed)
    (assignable : Assignable store record.manifest.name record.localServiceId) :
    (store.add record).Indexed :=
  indexed.insert record assignable.own assignable.renamed

theorem persistedService_eq_some :
    store.persistedService name = some record ↔
      ∃ id, store.nameIndex[name]? = some id ∧ store.state[id]? = some record :=
  Option.bind_eq_some_iff

theorem Indexed.named (indexed : store.Indexed)
    (persisted : store.persistedService name = some record) : record.manifest.name = name := by
  obtain ⟨id, listed, found⟩ := persistedService_eq_some.mp persisted
  obtain ⟨same, present, named⟩ := (indexed.names _ _).mp listed
  rw [found] at present
  cases present
  exact named

theorem persistedService_add (indexed : store.Indexed)
    (assignable : Assignable store record.manifest.name record.localServiceId) (name : String) :
    (store.add record).persistedService name =
      if record.manifest.name = name then some record else store.persistedService name := by
  unfold persistedService ServiceStateStore.add
  dsimp only
  rw [getElem?_insert]
  split
  · rw [Option.bind_some, getElem?_insert, if_pos rfl]
  · next other =>
      cases listed : store.nameIndex[name]? with
      | none => rfl
      | some id =>
          rw [Option.bind_some, Option.bind_some, getElem?_insert, if_neg]
          intro same
          obtain ⟨existing, present, named⟩ := (indexed.names _ _).mp listed
          exact other ((assignable.renamed existing (same ▸ present)).symm.trans named)

/-- A new desired state is stored as a record under the same name and id. -/
theorem add_desiredState (indexed : store.Indexed) (listed : store.nameIndex[name]? = some id)
    (found : store.state[id]? = some record) (desiredState : DesiredServiceState) :
    store.add { record with desiredState } =
      { store with state := store.state.insert id { record with desiredState } } := by
  obtain ⟨same, present, named⟩ := (indexed.names _ _).mp listed
  rw [found] at present
  cases present
  have own := indexed.ids id record found
  have sameIndex : store.nameIndex.insert record.manifest.name record.localServiceId =
      store.nameIndex := by
    apply Std.ExtTreeMap.ext_getElem?
    intro other
    rw [getElem?_insert]
    split
    · next isOther => rw [← isOther, named, listed, own]
    · rfl
  unfold ServiceStateStore.add
  dsimp only
  rw [sameIndex, own]

theorem persistedService_erase (indexed : store.Indexed)
    (listed : store.nameIndex[name]? = some id) (other : String) :
    ServiceStateStore.persistedService
      { store with nameIndex := store.nameIndex.erase name, state := store.state.erase id }
      other = if name = other then none else store.persistedService other := by
  unfold persistedService
  dsimp only
  rw [getElem?_erase]
  split
  · rfl
  · next different =>
      cases listedOther : store.nameIndex[other]? with
      | none => rfl
      | some otherId =>
          rw [Option.bind_some, Option.bind_some, getElem?_erase, if_neg]
          intro same
          obtain ⟨existing, present, named⟩ := (indexed.names _ _).mp listed
          obtain ⟨_, presentOther, namedOther⟩ := (indexed.names _ _).mp listedOther
          rw [← same, present] at presentOther
          cases presentOther
          exact different (named.symm.trans namedOther)

/-- The store is indexed, and its ids are local service ids. -/
structure Sound (store : ServiceStateStore) : Prop where
  indexed : store.Indexed
  ids : ∀ (id : String) record, store.state[id]? = some record → LocalId id

theorem Sound.add (sound : store.Sound)
    (assignable : Assignable store record.manifest.name record.localServiceId) :
    (store.add record).Sound := by
  refine ⟨sound.indexed.add assignable, ?_⟩
  intro id found present
  unfold ServiceStateStore.add at present
  rw [getElem?_insert] at present
  split at present
  · next same => exact same ▸ assignable.valid
  · exact sound.ids id found present

theorem Sound.erase (sound : store.Sound) (listed : store.nameIndex[name]? = some id) :
    ServiceStateStore.Sound
      { store with nameIndex := store.nameIndex.erase name, state := store.state.erase id } := by
  refine ⟨sound.indexed.erase listed, ?_⟩
  intro other found present
  rw [getElem?_erase] at present
  split at present
  · cases present
  · exact sound.ids other found present

end ServiceStateStore

/-! ## Calls that change the records -/

section Calls

variable {setup : RuntimeSetup} {platform : Platform} {manifest : ServiceManifest}
  {name localServiceId : String} {host final : Host} {record : PersistedService}
  {desiredState : DesiredServiceState} {runtime : RuntimeKind} {outcome : Except Error Unit}

/-- The record is stored under the name of its manifest, and all else is as before. -/
structure Stored (record : PersistedService) (before after : Host) : Prop where
  index : after.serviceIndex = before.serviceIndex
  manifests : after.serviceManifests = before.serviceManifests
  state : ∀ name, after.serviceState.persistedService name =
    if record.manifest.name = name then some record else before.serviceState.persistedService name
  sound : after.serviceState.Sound

theorem Stored.of_same {before : Host} (same : SameRecords before host)
    (stored : Stored record host final) : Stored record before final where
  index := stored.index.trans same.index
  manifests := stored.manifests.trans same.manifests
  state := by
    intro name
    rw [stored.state, same.state]
  sound := stored.sound

theorem stored_add (record : PersistedService) (sound : host.serviceState.Sound)
    (assignable : Assignable host.serviceState record.manifest.name record.localServiceId)
    (same : SameRecords { host with serviceState := host.serviceState.add record } final) :
    Stored record host final where
  index := same.index
  manifests := same.manifests
  state := by
    intro name
    rw [same.state]
    exact ServiceStateStore.persistedService_add sound.indexed assignable name
  sound := by
    rw [same.state]
    exact sound.add assignable

/-- Saving the record does not fail once it is in memory. -/
def SavesRecord (platform : Platform) (host : Host) (record : PersistedService) : Prop :=
  (saveService platform record.localServiceId
    { host with serviceState := host.serviceState.add record }).1 = .ok ()

instance : Decidable (SavesRecord platform host record) :=
  inferInstanceAs (Decidable (_ = _))

theorem setDesiredState_cases (sound : host.serviceState.Sound)
    (ran : setDesiredState platform name desiredState host = (outcome, final)) :
    (∃ error, outcome = .error error ∧ SameRecords host final) ∨
      ∃ record, host.serviceState.persistedService name = some record ∧
        Stored { record with desiredState } host final ∧
        (outcome = .ok () ↔ SavesRecord platform host { record with desiredState }) := by
  unfold setDesiredState ServiceStateStore.lookupLocalServiceId at ran
  rw [Program.bind_of_ok (Program.gets_apply _ _)] at ran
  cases listed : host.serviceState.nameIndex[name]? with
  | none =>
      rw [listed] at ran
      cases ran
      exact Or.inl ⟨_, rfl, rfl, rfl, rfl⟩
  | some id =>
      rw [listed, Program.bind_of_ok ((Program.ofExcept_eq_ok _).mpr ⟨rfl, rfl⟩)] at ran
      cases found : host.serviceState.state[id]? with
      | none =>
          rw [found] at ran
          cases ran
          exact Or.inl ⟨_, rfl, rfl, rfl, rfl⟩
      | some record =>
          have own := sound.indexed.ids id record found
          subst own
          have persisted : host.serviceState.persistedService name = some record :=
            ServiceStateStore.persistedService_eq_some.mpr ⟨_, listed, found⟩
          have assignable := assignable_of_listed sound.indexed sound.ids listed
          rw [← sound.indexed.named persisted] at assignable
          rw [found] at ran
          dsimp only at ran
          rw [Program.bind_of_ok (Program.modify_apply _ _),
            ← ServiceStateStore.add_desiredState sound.indexed listed found] at ran
          right
          refine ⟨record, persisted, ?_, ?_⟩
          · apply stored_add { record with desiredState } sound assignable
            have same := saveService_records platform record.localServiceId
              { host with serviceState := host.serviceState.add { record with desiredState } }
            rw [ran] at same
            exact same
          · unfold SavesRecord
            dsimp only
            rw [ran]

theorem setDesiredState_eq_ok
    (ran : setDesiredState platform name desiredState host = (.ok (), final)) :
    final.serviceManifests = host.serviceManifests ∧
      final.wasmtimeServices = host.wasmtimeServices ∧
      desiredStateOf final name = desiredState := by
  unfold setDesiredState ServiceStateStore.lookupLocalServiceId at ran
  rw [Program.bind_of_ok (Program.gets_apply _ _)] at ran
  cases listed : host.serviceState.nameIndex[name]? with
  | none =>
      rw [listed] at ran
      cases ran
  | some id =>
      rw [listed, Program.bind_of_ok ((Program.ofExcept_eq_ok _).mpr ⟨rfl, rfl⟩)] at ran
      cases found : host.serviceState.state[id]? with
      | none =>
          rw [found] at ran
          cases ran
      | some record =>
          rw [found] at ran
          dsimp only at ran
          rw [Program.bind_of_ok (Program.modify_apply _ _)] at ran
          have saved := (saveService_files platform id
            { host with serviceState :=
                { host.serviceState with
                  state := host.serviceState.state.insert id { record with desiredState } } }).2
          rw [ran] at saved
          dsimp only at saved
          rw [saved]
          refine ⟨rfl, rfl, ?_⟩
          unfold desiredStateOf ServiceStateStore.persistedService
          rw [listed, Option.bind_some, Std.ExtTreeMap.getElem?_insert_self]
          rfl

/-! ## Start, stop and remove -/

/-- The provider's part of a start. -/
def bringUp (setup : RuntimeSetup) (runtime : RuntimeKind) (name : String) : Action Unit := do
  ensureRuntimeEnabled setup runtime
  ensureRuntimeService setup runtime name
  startRuntime setup runtime name

/-- The provider's part of a stop. -/
def bringDown (setup : RuntimeSetup) (runtime : RuntimeKind) (name : String) : Action Unit := do
  Program.ignoring (ensureRuntimeService setup runtime name)
  ignoreMissingContainer runtime (stopRuntime setup runtime name)

/-- What a remove does once the provider has removed the service. -/
def forget (name : String) : Action Unit := do
  Program.modify fun host => { host with serviceIndex := host.serviceIndex.erase name }
  Program.modify fun host => { host with serviceManifests := host.serviceManifests.erase name }
  removeService name

theorem start_eq (setup : RuntimeSetup) (runtime : RuntimeKind) (name : String) :
    start setup runtime name =
      bringUp setup runtime name >>= fun _ => setDesiredState setup.toPlatform name .running := by
  unfold start bringUp
  rw [Program.bind_assoc]
  congr 1
  funext _
  rw [Program.bind_assoc]

theorem stop_eq (setup : RuntimeSetup) (runtime : RuntimeKind) (name : String) :
    stop setup runtime name =
      bringDown setup runtime name >>= fun _ => setDesiredState setup.toPlatform name .stopped := by
  unfold stop bringDown
  rw [Program.bind_assoc]

theorem bringUp_within (runtime : RuntimeKind) (name : String) :
    Program.Within anyFrame (bringUp setup runtime name) := by
  unfold bringUp
  apply (ensureRuntimeEnabled_within runtime).bind
  intro _
  apply (ensureRuntimeService_within runtime name).bind
  intro _
  exact startRuntime_within (governs_any name) runtime

theorem bringDown_within (runtime : RuntimeKind) (name : String) :
    Program.Within anyFrame (bringDown setup runtime name) := by
  unfold bringDown
  apply (ensureRuntimeService_within runtime name).ignoring.bind
  intro _
  exact ignoreMissingContainer_within (stopRuntime_within (governs_any name) runtime)

theorem removeRuntime_within (runtime : RuntimeKind) (name : String) :
    Program.Within anyFrame (removeRuntime setup runtime name) := by
  cases runtime with
  | docker =>
      apply dockerProvider_within.bind
      intro policy
      apply (Program.within_gets _).bind
      intro handle
      exact managedRequest_within policy handle _
  | wasmtime =>
      apply (localServiceIdOf_within name).bind
      intro localServiceId
      exact removeWithLocalServiceId_within (governs_any name) (admits_any setup name _)
  | external => exact Program.within_pure _

/-- A provider's part that is followed by a new desired state. -/
theorem changeState_cases {action : Action Unit} (within : Program.Within recordsFrame action)
    (sound : host.serviceState.Sound)
    (ran : (action >>= fun _ => setDesiredState platform name desiredState) host =
      (outcome, final)) :
    (∃ error, outcome = .error error ∧ SameRecords host final) ∨
      ∃ middle record, action host = (.ok (), middle) ∧
        host.serviceState.persistedService name = some record ∧
        Stored { record with desiredState } host final ∧
        (outcome = .ok () ↔ SavesRecord platform middle { record with desiredState }) := by
  have reached := within host
  rcases Program.bind_cases _ ran with ⟨error, failed, stopped⟩ | ⟨_, middle, done, rest⟩
  · rw [stopped] at reached
    exact Or.inl ⟨error, failed, reached⟩
  · rw [done] at reached
    have same : SameRecords host middle := reached
    rcases setDesiredState_cases (same.state ▸ sound) rest with
      ⟨error, failed, unchanged⟩ | ⟨record, persisted, stored, saves⟩
    · exact Or.inl ⟨error, failed, recordsFrame.trans same unchanged⟩
    · rw [same.state] at persisted
      exact Or.inr ⟨middle, record, done, persisted, stored.of_same same, saves⟩

theorem resolveRuntime_apply (name : String) (host : Host) :
    resolveRuntime name host = match host.serviceIndex[name]? with
      | some runtime => (.ok runtime, host)
      | none => (.error (serviceMissing name), host) := by
  unfold resolveRuntime
  rw [Program.bind_of_ok (Program.gets_apply _ _)]
  cases host.serviceIndex[name]? with
  | some runtime => rfl
  | none => rfl

/-- A call by name fails at once, or it is the call for the runtime of the service. -/
theorem byName_cases {call : RuntimeKind → Action Unit}
    (ran : (resolveRuntime name >>= call) host = (outcome, final)) :
    (∃ error, outcome = .error error ∧ SameRecords host final) ∨
      ∃ runtime, host.serviceIndex[name]? = some runtime ∧
        call runtime host = (outcome, final) := by
  rw [Program.bind_apply, resolveRuntime_apply] at ran
  cases listed : host.serviceIndex[name]? with
  | none =>
      rw [listed] at ran
      cases ran
      exact Or.inl ⟨_, rfl, rfl, rfl, rfl⟩
  | some runtime =>
      rw [listed] at ran
      exact Or.inr ⟨runtime, rfl, ran⟩

theorem startByName_cases (sound : host.serviceState.Sound)
    (ran : startByName setup name host = (outcome, final)) :
    (∃ error, outcome = .error error ∧ SameRecords host final) ∨
      ∃ runtime middle record, host.serviceIndex[name]? = some runtime ∧
        bringUp setup runtime name host = (.ok (), middle) ∧
        host.serviceState.persistedService name = some record ∧
        Stored { record with desiredState := .running } host final ∧
        (outcome = .ok () ↔
          SavesRecord setup.toPlatform middle { record with desiredState := .running }) := by
  rcases byName_cases ran with failed | ⟨runtime, listed, starts⟩
  · exact Or.inl failed
  · rw [start_eq] at starts
    rcases changeState_cases (records_of_provider (bringUp_within _ _)) sound starts with
      failed | ⟨middle, record, up, persisted, stored, saves⟩
    · exact Or.inl failed
    · exact Or.inr ⟨runtime, middle, record, listed, up, persisted, stored, saves⟩

theorem stopByName_cases (sound : host.serviceState.Sound)
    (ran : stopByName setup name host = (outcome, final)) :
    (∃ error, outcome = .error error ∧ SameRecords host final) ∨
      ∃ runtime middle record, host.serviceIndex[name]? = some runtime ∧
        bringDown setup runtime name host = (.ok (), middle) ∧
        host.serviceState.persistedService name = some record ∧
        Stored { record with desiredState := .stopped } host final ∧
        (outcome = .ok () ↔
          SavesRecord setup.toPlatform middle { record with desiredState := .stopped }) := by
  rcases byName_cases ran with failed | ⟨runtime, listed, stops⟩
  · exact Or.inl failed
  · rw [stop_eq] at stops
    rcases changeState_cases (records_of_provider (bringDown_within _ _)) sound stops with
      failed | ⟨middle, record, down, persisted, stored, saves⟩
    · exact Or.inl failed
    · exact Or.inr ⟨runtime, middle, record, listed, down, persisted, stored, saves⟩

/-- The service is gone from the records, and all others are as before. -/
structure Forgotten (name : String) (before after : Host) : Prop where
  manifests : after.serviceManifests = before.serviceManifests.erase name
  state : ∀ other, after.serviceState.persistedService other =
    if name = other then none else before.serviceState.persistedService other
  sound : after.serviceState.Sound

theorem removeServiceDir_records (serviceDir : String) :
    Program.Within recordsFrame (do
      let host : Host ← Program.gets id
      if host.files.pathExists serviceDir then
        removeDirAll "Failed to remove managed service directory" serviceDir
      else return ()) := by
  apply (Program.within_gets _).bind
  intro host
  apply Program.Within.ite
  · exact records_of_files (removeDirAll_within fun _ _ _ => trivial)
  · exact Program.within_pure _

theorem removeService_spec (sound : host.serviceState.Sound) (name : String) :
    (removeService name host).2.serviceManifests = host.serviceManifests ∧
      (∀ other, (removeService name host).2.serviceState.persistedService other =
        if name = other then none else host.serviceState.persistedService other) ∧
      (removeService name host).2.serviceState.Sound := by
  unfold removeService
  rw [Program.bind_of_ok (Program.gets_apply _ _)]
  cases listed : host.serviceState.nameIndex[name]? with
  | none =>
      have absent : host.serviceState.persistedService name = none := by
        rw [ServiceStateStore.persistedService, listed]
        rfl
      refine ⟨rfl, ?_, sound⟩
      intro other
      split
      · next same => exact same ▸ absent
      · rfl
  | some id =>
      dsimp only
      rw [Program.bind_of_ok (Program.modify_apply _ _)]
      have same := removeServiceDir_records (host.serviceState.serviceDir id)
        { host with serviceState := { host.serviceState with
            nameIndex := host.serviceState.nameIndex.erase name
            state := host.serviceState.state.erase id } }
      refine ⟨same.manifests, ?_, ?_⟩
      · intro other
        rw [same.state]
        exact ServiceStateStore.persistedService_erase sound.indexed listed other
      · rw [same.state]
        exact sound.erase listed

theorem forget_forgotten (sound : host.serviceState.Sound) (name : String) :
    Forgotten name host (forget name host).2 := by
  unfold forget
  rw [Program.bind_of_ok (Program.modify_apply _ _), Program.bind_of_ok (Program.modify_apply _ _)]
  obtain ⟨manifests, state, soundAfter⟩ := @removeService_spec
    { host with serviceIndex := host.serviceIndex.erase name
                serviceManifests := host.serviceManifests.erase name } sound name
  exact ⟨manifests, state, soundAfter⟩

theorem removeByName_cases (sound : host.serviceState.Sound)
    (ran : removeByName setup name host = (outcome, final)) :
    (∃ error, outcome = .error error ∧ SameRecords host final) ∨
      ∃ runtime middle, host.serviceIndex[name]? = some runtime ∧
        ignoreMissingContainer runtime (removeRuntime setup runtime name) host =
          (.ok (), middle) ∧
        Forgotten name host final ∧ (forget name middle).1 = outcome := by
  rcases byName_cases ran with failed | ⟨runtime, listed, removes⟩
  · exact Or.inl failed
  · have reached : SameRecords host
        (ignoreMissingContainer runtime (removeRuntime setup runtime name) host).2 :=
      records_of_provider (ignoreMissingContainer_within (removeRuntime_within runtime name)) host
    rcases Program.bind_cases _ removes with ⟨error, failed, stopped⟩ | ⟨_, middle, done, rest⟩
    · rw [stopped] at reached
      exact Or.inl ⟨error, failed, reached⟩
    · rw [done] at reached
      have same : SameRecords host middle := reached
      have forgotten := forget_forgotten (same.state ▸ sound) name
      rw [show forget name middle = (outcome, final) from rest] at forgotten
      refine Or.inr
        ⟨runtime, middle, listed, done, ⟨?_, ?_, forgotten.sound⟩, congrArg Prod.fst rest⟩
      · rw [forgotten.manifests, same.manifests]
      · intro other
        rw [forgotten.state, same.state]

/-! ## Applying -/

/-- The part of an apply before the records change. -/
def replaceRuntime (setup : RuntimeSetup) (manifest : ServiceManifest)
    (localServiceId : Option String) : Action Prepared := do
  let prepared ← prepare setup manifest localServiceId
  retire setup manifest.name prepared
  pullRuntime setup manifest prepared
  return prepared

/-- The part of an apply that changes the records. -/
def recordService (setup : RuntimeSetup) (manifest : ServiceManifest) (prepared : Prepared) :
    Action Unit := do
  insertService manifest
  persistService setup manifest prepared

theorem applyWithLocalServiceId_eq (setup : RuntimeSetup) (manifest : ServiceManifest)
    (localServiceId : Option String) :
    applyWithLocalServiceId setup manifest localServiceId =
      replaceRuntime setup manifest localServiceId >>= fun prepared =>
        recordService setup manifest prepared >>= fun _ => do
          reconcile setup manifest prepared
          return { name := manifest.name
                   previousManifest := prepared.previousManifest
                   desiredState := prepared.desiredState } := by
  unfold applyWithLocalServiceId replaceRuntime recordService
  simp only [Program.bind_assoc]
  rfl

theorem prepare_records (localServiceId : Option String) :
    Program.Within recordsFrame (prepare setup manifest localServiceId) := by
  unfold prepare
  apply (ensureRuntimeEnabled_within _).bind
  intro _
  apply (Program.within_gets _).bind
  intro host
  apply (Program.within_ofExcept _).bind
  intro _
  apply Program.Within.bind
  · unfold resolveLocalServiceId
    cases host.serviceState.persistedService manifest.name with
    | some service => exact Program.Within.ite (Program.within_fail _) (Program.within_pure _)
    | none =>
        cases localServiceId with
        | some localServiceId => exact Program.within_pure _
        | none => exact records_of_ulids (previewLocalServiceId_within _)
  · intro resolved
    exact Program.within_pure _

theorem prepare_eq_ok {localServiceId : Option String} {prepared : Prepared}
    (ran : prepare setup manifest localServiceId host = (.ok prepared, final)) :
    prepared.previousManifest = previousManifestOf host manifest.name ∧
      prepared.desiredState = desiredStateOf host manifest.name := by
  unfold prepare at ran
  obtain ⟨_, middle, enabled, rest⟩ := (Program.bind_eq_ok _).mp ran
  have same : middle = host := (ensureRuntimeEnabled_within _).eq_of_same enabled
  rw [same, Program.bind_of_ok (Program.gets_apply _ _)] at rest
  obtain ⟨_, _, -, rest⟩ := (Program.bind_eq_ok _).mp rest
  obtain ⟨_, _, -, rest⟩ := (Program.bind_eq_ok _).mp rest
  cases rest
  exact ⟨rfl, rfl⟩

theorem replaceRuntime_records (localServiceId : Option String) :
    Program.Within recordsFrame (replaceRuntime setup manifest localServiceId) := by
  unfold replaceRuntime
  apply (prepare_records localServiceId).bind
  intro prepared
  apply (records_of_provider (retire_within (governs_any _) (admits_any setup _ _))).bind
  intro _
  apply (records_of_provider
    (pullRuntime_within (governs_any _) (admits_any setup _ _) (mountsMade_any manifest))).bind
  intro _
  exact Program.within_pure _

theorem replaceRuntime_eq_ok {localServiceId : Option String} {prepared : Prepared}
    (ran : replaceRuntime setup manifest localServiceId host = (.ok prepared, final)) :
    prepared.previousManifest = previousManifestOf host manifest.name ∧
      prepared.desiredState = desiredStateOf host manifest.name := by
  unfold replaceRuntime at ran
  obtain ⟨_, _, known, ran⟩ := (Program.bind_eq_ok _).mp ran
  obtain ⟨_, _, -, ran⟩ := (Program.bind_eq_ok _).mp ran
  obtain ⟨_, _, -, ran⟩ := (Program.bind_eq_ok _).mp ran
  cases ran
  exact prepare_eq_ok known

/-- The manifest is in memory under its name, and the record stored under it. -/
structure Replaced (record : PersistedService) (before after : Host) : Prop where
  manifests : after.serviceManifests =
    before.serviceManifests.insert record.manifest.name record.manifest
  state : ∀ name, after.serviceState.persistedService name =
    if record.manifest.name = name then some record else before.serviceState.persistedService name
  sound : after.serviceState.Sound

theorem Replaced.of_same {before : Host} (same : SameRecords before host)
    (replaced : Replaced record host final) : Replaced record before final where
  manifests := by
    rw [replaced.manifests, same.manifests]
  state := by
    intro name
    rw [replaced.state, same.state]
  sound := replaced.sound

/-- An upsert fails to resolve the id, or the store has the record even when saving it fails. -/
theorem upsertServiceWithLocalServiceId_cases {requested : Option String}
    {outcome : Except Error String} (sound : host.serviceState.Sound)
    (ran : upsertServiceWithLocalServiceId platform manifest desiredState requested host =
      (outcome, final)) :
    (∃ error, outcome = .error error ∧
      resolveUpsertLocalServiceId manifest.name requested host = (.error error, final) ∧
      SameRecords host final) ∨
    ∃ localServiceId, Assignable host.serviceState manifest.name localServiceId ∧
      Stored { localServiceId, manifest, desiredState } host final := by
  unfold upsertServiceWithLocalServiceId at ran
  have drawing : SameRecords host (resolveUpsertLocalServiceId manifest.name requested host).2 :=
    records_of_ulids (resolveUpsertLocalServiceId_within manifest.name requested) host
  rcases Program.bind_cases _ ran with
    ⟨error, failed, refused⟩ | ⟨localServiceId, drawn, resolved, rest⟩
  · rw [refused] at drawing
    exact Or.inl ⟨error, failed, refused, drawing⟩
  · rw [resolved] at drawing
    have same : SameRecords host drawn := drawing
    have assignable := resolveUpsertLocalServiceId_eq_ok sound.indexed sound.ids resolved
    rw [Program.bind_of_ok (Program.modify_apply _ _)] at rest
    have kept := saveService_records platform localServiceId
      { drawn with
        serviceState := drawn.serviceState.add { localServiceId, manifest, desiredState } }
    unfold ServiceStateStore.add at kept
    refine Or.inr ⟨localServiceId, assignable, ?_⟩
    apply (stored_add { localServiceId, manifest, desiredState } (same.state ▸ sound)
      (same.state ▸ assignable) _).of_same same
    rcases Program.bind_cases _ rest with ⟨_, _, stopped⟩ | ⟨_, _, saved, returned⟩
    · rw [stopped] at kept
      exact kept
    · rw [saved] at kept
      cases returned
      exact kept

/-- The manifest is put in memory; then the store refuses the requested id, or it has the new
record even when saving it fails. -/
theorem recordService_cases {prepared : Prepared} (sound : host.serviceState.Sound)
    (ran : recordService setup manifest prepared host = (outcome, final)) :
    final.serviceIndex = host.serviceIndex.insert manifest.name manifest.runtime ∧
      final.serviceManifests = host.serviceManifests.insert manifest.name manifest ∧
      ((∃ error inserted, outcome = .error error ∧
        inserted.serviceState = host.serviceState ∧
        resolveUpsertLocalServiceId manifest.name (some prepared.localServiceId) inserted =
          (.error error, final) ∧ final.serviceState = host.serviceState) ∨
        ∃ localServiceId, Assignable host.serviceState manifest.name localServiceId ∧ Replaced
          { localServiceId, manifest, desiredState := prepared.desiredState } host final) := by
  unfold recordService insertService persistService at ran
  rw [Program.bind_of_ok (Program.modify_apply _ _)] at ran
  generalize inserted : Host.mk _ _ _ _ _ _ _ _ _ _ _ = middle at ran
  have soundMiddle : middle.serviceState.Sound := inserted ▸ sound
  obtain ⟨upserted, upserts, returned⟩ : ∃ upserted : Except Error String,
      upsertServiceWithLocalServiceId setup.toPlatform manifest prepared.desiredState
        (some prepared.localServiceId) middle = (upserted, final) ∧
      outcome = upserted.map fun _ => () := by
    rcases Program.bind_cases _ ran with ⟨error, failed, stopped⟩ | ⟨id, _, stored, rest⟩
    · exact ⟨.error error, stopped, failed⟩
    · cases rest
      exact ⟨.ok id, stored, rfl⟩
  rcases upsertServiceWithLocalServiceId_cases soundMiddle upserts with
    ⟨error, failed, refused, same⟩ | ⟨localServiceId, assignable, stored⟩
  · have unchanged : middle.serviceState = host.serviceState := inserted ▸ rfl
    refine ⟨?_, ?_, Or.inl ⟨error, middle, ?_, unchanged, refused, same.state.trans unchanged⟩⟩
    · rw [same.index, ← inserted]
    · rw [same.manifests, ← inserted]
    · rw [returned, failed]
      rfl
  · subst inserted
    exact ⟨stored.index, stored.manifests,
      Or.inr ⟨localServiceId, assignable, stored.manifests, stored.state, stored.sound⟩⟩

/-- The part of `apply_manifest_yaml` that resolves the manifest and its local service id. -/
def resolveYaml (setup : RuntimeSetup) (content baseDir : String) :
    Action (ServiceManifest × String) := do
  let name ← Program.ofExcept (peekServiceManifestName setup.yaml content)
  let localServiceId ← previewLocalServiceId name
  let host ← Program.gets id
  let manifest ← resolveManifest setup content baseDir localServiceId
    (reservedHostPortsExcept host name)
  return (manifest, localServiceId)

theorem applyManifestYaml_eq (setup : RuntimeSetup) (content baseDir : String) :
    applyManifestYaml setup content baseDir =
      resolveYaml setup content baseDir >>= fun resolved =>
        applyWithLocalServiceId setup resolved.1 (some resolved.2) := by
  unfold applyManifestYaml resolveYaml
  simp only [Program.bind_assoc]
  rfl

theorem resolveYaml_records (content baseDir : String) :
    Program.Within recordsFrame (resolveYaml setup content baseDir) := by
  unfold resolveYaml
  apply (Program.within_ofExcept _).bind
  intro name
  apply (records_of_ulids (previewLocalServiceId_within name)).bind
  intro localServiceId
  apply (Program.within_gets _).bind
  intro host
  apply Program.Within.bind
  · intro before
    unfold resolveManifest
    split
    · exact ⟨rfl, rfl, rfl⟩
    · exact ⟨rfl, rfl, rfl⟩
  · intro manifest
    exact Program.within_pure _

/-- Starting a service that is to be running leaves its record as it is. -/
theorem reconcile_stored {prepared : Prepared} (sound : host.serviceState.Sound)
    (persisted : host.serviceState.persistedService manifest.name = some record)
    (running : record.desiredState = .running)
    (ran : reconcile setup manifest prepared host = (outcome, final)) :
    Stored record host final := by
  have named := sound.indexed.named persisted
  have unchanged {after : Host} (same : SameRecords host after) : Stored record host after := by
    refine ⟨same.index, same.manifests, ?_, same.state ▸ sound⟩
    intro name
    rw [same.state]
    split
    · next isName => rw [← isName, named, persisted]
    · rfl
  unfold reconcile Program.when at ran
  split at ran
  · have started : ∀ {outcome : Except Error Unit} {after : Host},
        start setup manifest.runtime manifest.name host = (outcome, after) →
          Stored record host after := by
      intro outcome after starts
      rw [start_eq] at starts
      rcases changeState_cases (records_of_provider (bringUp_within _ _)) sound starts with
        ⟨error, -, same⟩ | ⟨middle, found, -, present, stored, -⟩
      · exact unchanged same
      · rw [persisted] at present
        cases present
        rw [← running] at stored
        exact stored
    rcases Program.bind_cases _ ran with ⟨error, -, failed⟩ | ⟨_, middle, starts, inspected⟩
    · exact started failed
    · have stored := started starts
      have same := @inspect_records setup manifest.runtime manifest.name middle
      rw [inspected] at same
      refine ⟨same.index.trans stored.index, same.manifests.trans stored.manifests, ?_,
        same.state ▸ stored.sound⟩
      intro name
      rw [same.state]
      exact stored.state name
  · cases ran
    exact unchanged ⟨rfl, rfl, rfl⟩

theorem SameRecords.previousManifestOf {before after : Host} (same : SameRecords before after)
    (name : String) : RuntimeControl.previousManifestOf after name =
      RuntimeControl.previousManifestOf before name := by
  unfold RuntimeControl.previousManifestOf
  rw [same.state, same.manifests]

/-- An apply fails before it changes the records, or it replaces the runtime and goes on to
store the service and to start it. -/
theorem applyManifestYaml_cases {content baseDir : String} {outcome : Except Error AppliedService}
    (ran : applyManifestYaml setup content baseDir host = (outcome, final)) :
    (∃ error, outcome = .error error ∧ SameRecords host final) ∨
      ∃ manifest localServiceId resolved prepared replaced,
        resolveYaml setup content baseDir host = (.ok (manifest, localServiceId), resolved) ∧
        replaceRuntime setup manifest (some localServiceId) resolved = (.ok prepared, replaced) ∧
        SameRecords host replaced ∧
        prepared.previousManifest = previousManifestOf host manifest.name ∧
        prepared.desiredState = desiredStateOf host manifest.name ∧
        (recordService setup manifest prepared >>= fun _ => (do
          reconcile setup manifest prepared
          return { name := manifest.name
                   previousManifest := prepared.previousManifest
                   desiredState := prepared.desiredState } : Action AppliedService)) replaced =
          (outcome, final) := by
  rw [applyManifestYaml_eq] at ran
  have resolving : SameRecords host (resolveYaml setup content baseDir host).2 :=
    resolveYaml_records content baseDir host
  rcases Program.bind_cases _ ran with
    ⟨error, failed, stopped⟩ | ⟨⟨manifest, id⟩, middle, resolved, rest⟩
  · rw [stopped] at resolving
    exact Or.inl ⟨error, failed, resolving⟩
  · rw [resolved] at resolving
    have sameMiddle : SameRecords host middle := resolving
    rw [applyWithLocalServiceId_eq] at rest
    have replacing : SameRecords middle (replaceRuntime setup manifest (some id) middle).2 :=
      replaceRuntime_records (some id) middle
    rcases Program.bind_cases _ rest with
      ⟨error, failed, stopped⟩ | ⟨prepared, replaced, done, last⟩
    · rw [stopped] at replacing
      exact Or.inl ⟨error, failed, recordsFrame.trans sameMiddle replacing⟩
    · rw [done] at replacing
      obtain ⟨previous, desired⟩ := replaceRuntime_eq_ok done
      rw [sameMiddle.previousManifestOf] at previous
      rw [sameMiddle.desiredStateOf] at desired
      exact Or.inr ⟨manifest, id, middle, prepared, replaced, resolved, done,
        recordsFrame.trans sameMiddle replacing, previous, desired, last⟩

end Calls

end Fungi.Runtime
