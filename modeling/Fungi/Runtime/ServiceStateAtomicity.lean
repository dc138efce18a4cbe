import Fungi.Lib.Run
import Fungi.Runtime.ManifestRoundTrip
import Fungi.Runtime.ServiceStateSpec

/-!
# Memory and disk of the service state store

Every operation of the store changes its memory first and the disk afterwards.  This
file says under which conditions the two stay in step over any sequence of calls, and
shows a call that leaves them apart.
-/

namespace Fungi.Runtime

open Fungi.Lib Fungi.Config

/-! ## Calls and restarts -/

/-- The calls that change the store. -/
inductive StoreCall where
  | upsert (manifest : ServiceManifest) (desiredState : DesiredServiceState)
      (requestedLocalServiceId : Option String)
  | setDesiredState (serviceName : String) (desiredState : DesiredServiceState)
  | removeService (serviceName : String)

/-- What a call does. -/
def StoreCall.perform (platform : Platform) : StoreCall → Action Unit
  | .upsert manifest desiredState requested => do
      let _ ← upsertServiceWithLocalServiceId platform manifest desiredState requested
      return ()
  | .setDesiredState serviceName desiredState =>
      Runtime.setDesiredState platform serviceName desiredState
  | .removeService serviceName => Runtime.removeService serviceName

/-- A call is a step whether it succeeds or fails. -/
def storeStep (platform : Platform) (host : Host) (call : StoreCall) : Option Host :=
  some (call.perform platform host).2

/-- What loading the services directory of the host returns, were it done now without
faults and with the given listing and port answers. -/
def reload (platform : Platform) (entries : List String) (answers : List UInt16) (host : Host) :
    Except Error ServiceStateStore :=
  (load platform host.serviceState.servicesRoot entries
    { host with outcomes := [], freePorts := answers }).1

/-- The entries `read_dir` may list once the services directory has been created. -/
def Listing (host : Host) (entries : List String) : Prop :=
  (host.files.makeDirs (Path.ancestors host.serviceState.servicesRoot)).Lists
    host.serviceState.servicesRoot entries

/-- A restart would read the services in memory. -/
def MemoryMatchesDisk (platform : Platform) (host : Host) : Prop :=
  ∀ entries answers, Listing host entries →
    reload platform entries answers host = .ok host.serviceState

/-- A failed call has changed neither the memory nor what a restart would read. -/
def UnchangedOnError (platform : Platform) (host : Host) (call : StoreCall) : Prop :=
  ∀ failure after, call.perform platform host = (.error failure, after) →
    after.serviceState = host.serviceState ∧
      ∀ entries answers, (∀ entry ∈ entries, Path.Plain entry) →
        reload platform entries answers after = reload platform entries answers host

/-! ## The condition on a call -/

/-- The manifest can be written, and what is written parses back to it. -/
def WritesBack (platform : Platform) (fungiHome localServiceId : String)
    (manifest : ServiceManifest) : Prop :=
  ∃ text, serviceManifestToYaml platform.yaml manifest = .ok text ∧
    ∀ answers, parseManagedServiceManifestYaml platform.yaml text
      (Path.join (Path.join fungiHome "services") localServiceId)
      (pathsOf platform (Path.join fungiHome "services")) localServiceId answers =
        .ok (manifest, answers)

/-- No file-system step of saving the service fails. -/
def SavesUndisturbed (platform : Platform) (host : Host) (localServiceId : String) : Prop :=
  host.Calm 12 ∧ Unobstructed platform host.serviceState localServiceId host.files

/-- A record may be stored: it writes back, and its file-system steps do not fail unless
it is the record in memory already. -/
def MayStore (platform : Platform) (fungiHome : String) (host : Host)
    (record : PersistedService) : Prop :=
  WritesBack platform fungiHome record.localServiceId record.manifest ∧
    (host.serviceState.state[record.localServiceId]? = some record ∨
      SavesUndisturbed platform host record.localServiceId)

/-- The condition on a call, in the state before it. -/
def StoreCall.Safe (platform : Platform) (fungiHome : String) (host : Host) : StoreCall → Prop
  | .upsert manifest desiredState requested =>
      ∀ localServiceId after,
        resolveUpsertLocalServiceId manifest.name requested host = (.ok localServiceId, after) →
          MayStore platform fungiHome host { localServiceId, manifest, desiredState }
  | .setDesiredState serviceName desiredState =>
      ∀ record, host.serviceState.persistedService serviceName = some record →
        MayStore platform fungiHome host { record with desiredState }
  | .removeService serviceName =>
      ∀ record, host.serviceState.persistedService serviceName = some record → host.Calm 1

/-! ## The invariant -/

/-- Each settled entry of the services directory holds the service that memory has under
its name. -/
structure InStepFor (platform : Platform) (fungiHome : String) (settled : String → Prop)
    (host : Host) : Prop where
  root : host.serviceState.servicesRoot = Path.join fungiHome "services"
  indexed : host.serviceState.Indexed
  ids : ∀ (id : String) record, host.serviceState.state[id]? = some record → LocalId id
  directories : ∀ place, place <+: servicesPlace fungiHome → host.files place = some .directory
  entries : ∀ entry, settled entry → Path.Plain entry → ∀ answers,
    loadEntry platform host.files (Path.join fungiHome "services") entry answers =
      .ok (host.serviceState.state[entry]?, answers)

/-- Memory and disk are in step. -/
abbrev InStep (platform : Platform) (fungiHome : String) (host : Host) : Prop :=
  InStepFor platform fungiHome (fun _ => True) host

section Reload

variable {platform : Platform} {fungiHome : String} {host : Host}
  (direct : Path.Direct fungiHome)

include direct

private theorem ancestors_services {place : List Name} :
    place ∈ Path.ancestors (Path.join fungiHome "services") ↔
      place <+: servicesPlace fungiHome := by
  rw [Path.mem_ancestors_of_direct (Path.direct_join direct (by decide)),
    resolve_servicesRoot direct]

private theorem makeDirs_services (inStep : InStep platform fungiHome host) :
    host.files.makeDirs (Path.ancestors host.serviceState.servicesRoot) = host.files := by
  funext place
  rcases @FileSystem.makeDirs_cases host.files place
    (Path.ancestors host.serviceState.servicesRoot) with same | made
  · exact same
  · have there := inStep.directories place
      ((ancestors_services direct).mp (inStep.root ▸ made.1))
    rw [made.2.1] at there
    cases there

/-- In step, a load creates nothing and reads the entries. -/
theorem reload_of_inStep (inStep : InStep platform fungiHome host) (entries : List String)
    (answers : List UInt16) :
    reload platform entries answers host =
      (loadEntries platform host.files entries
        (emptyStore (Path.join fungiHome "services")) answers).map (·.1) := by
  have free : ∀ place ∈ Path.ancestors host.serviceState.servicesRoot, ∀ content,
      host.files place ≠ some (.file content) := by
    intro place touched content
    rw [inStep.directories place ((ancestors_services direct).mp (inStep.root ▸ touched))]
    simp
  obtain ⟨created, first, -⟩ := @createDirAll_of_calm
    { host with outcomes := [], freePorts := answers } host.serviceState.servicesRoot
    "Failed to create services directory" 0 (by intro _ membership; simp at membership) free
  have only := (createDirAll_eq_ok first).1
  dsimp only at only
  rw [makeDirs_services direct inStep] at only
  unfold reload load
  rw [Program.bind_of_ok first, only]
  unfold readServices
  dsimp only
  rw [inStep.root]
  cases loadEntries platform host.files entries (emptyStore (Path.join fungiHome "services"))
    answers with
  | ok result => rfl
  | error failure => rfl

theorem inStep_matches (inStep : InStep platform fungiHome host) :
    MemoryMatchesDisk platform host := by
  intro entries answers listed
  unfold Listing at listed
  rw [makeDirs_services direct inStep, inStep.root] at listed
  have expected : Expected fun entry result => result = host.serviceState.state[entry]? := by
    constructor
    · intro entry record found
      exact inStep.indexed.ids entry record found.symm
    · intro entry record entry' record' found found' same
      exact inStep.indexed.eq_of_name found.symm found'.symm same
  obtain ⟨final, rest, succeeded, root, indexed, holds, kept⟩ :=
    @loadEntries_of_each platform host.files (fun _ _ => True) (fun _ => 0) _ expected entries
      (emptyStore (Path.join fungiHome "services")) answers listed.nodup
      (by
        intro entry membership later answers _
        exact ⟨_, _, inStep.entries entry trivial ((listed.mem_iff entry).mp membership).1 answers,
          rfl, trivial⟩)
      trivial (ServiceStateStore.Indexed.empty _) (by simp [emptyStore]) (by simp [emptyStore])
  rw [reload_of_inStep direct inStep, succeeded]
  have sameState : ∀ id : String, final.state[id]? = host.serviceState.state[id]? := by
    intro id
    by_cases membership : id ∈ entries
    · exact holds id membership
    · rw [kept id membership]
      cases present : host.serviceState.state[id]? with
      | none => simp [emptyStore]
      | some record =>
          -- A service in memory is read from an entry, so the entry is listed.
          have plain := (inStep.ids id record present).plain
          have read := inStep.entries id trivial plain []
          rw [present] at read
          have directory := (loadEntry_eq_ok_some.mp read).1
          rw [FileSystem.isDir, resolve_entryDir direct plain, decide_eq_true_eq] at directory
          refine absurd ((listed.mem_iff id).mpr ⟨plain, ?_⟩) membership
          rw [resolve_servicesRoot direct, directory]
          rfl
  rw [indexed.eq_of_state inStep.indexed (root.trans inStep.root.symm) sameState]
  rfl

/-- Two states in step with the same services reload alike. -/
theorem reload_eq_of_inStep {after : Host} (inStep : InStep platform fungiHome host)
    (inStepAfter : InStep platform fungiHome after)
    (same : after.serviceState = host.serviceState) {entries : List String}
    (plain : ∀ entry ∈ entries, Path.Plain entry) (answers : List UInt16) :
    reload platform entries answers after = reload platform entries answers host := by
  rw [reload_of_inStep direct inStep, reload_of_inStep direct inStepAfter]
  apply congrArg
  apply loadEntries_congr
  intro entry membership answers
  have isPlain := plain entry membership
  dsimp only [emptyStore]
  rw [inStep.entries entry trivial isPlain, inStepAfter.entries entry trivial isPlain, same]

end Reload

/-! ## Keeping in step -/

section Keeping

variable {platform : Platform} {fungiHome localServiceId : String} {settled : String → Prop}
  {host after : Host} {record : PersistedService}

theorem InStepFor.congr (inStep : InStepFor platform fungiHome settled host)
    (files : after.files = host.files) (store : after.serviceState = host.serviceState) :
    InStepFor platform fungiHome settled after := by
  constructor
  · rw [store]
    exact inStep.root
  · rw [store]
    exact inStep.indexed
  · rw [store]
    exact inStep.ids
  · rw [files]
    exact inStep.directories
  · rw [files, store]
    exact inStep.entries

/-- An operation on one service leaves the other entries in step. -/
theorem InStepFor.frame (direct : Path.Direct fungiHome)
    (inStep : InStepFor platform fungiHome settled host)
    (within : (entryFrame fungiHome localServiceId).Allows host after) :
    InStepFor platform fungiHome (fun entry => settled entry ∧ entry ≠ localServiceId) after := by
  obtain ⟨changes, only⟩ := within
  have store : after.serviceState = host.serviceState := by rw [only]
  constructor
  · rw [store]
    exact inStep.root
  · rw [store]
    exact inStep.indexed
  · rw [store]
    exact inStep.ids
  · intro place above
    have there := inStep.directories place above
    rw [(changes place).2 _ (by rw [there]; simp), there]
    intro inside
    have bound := (inside.trans above).length_le
    simp at bound
  · intro entry both plain answers
    rw [store, ← inStep.entries entry both.1 plain answers]
    apply loadEntry_congr direct plain
    intro below
    apply (changes _).1
    refine ⟨entry.toList, below, ?_, rfl⟩
    intro same
    exact both.2 (String.toList_inj.mp same)

/-- The entry itself is in step once what it holds has been read. -/
theorem InStepFor.settle (inStep : InStepFor platform fungiHome
      (fun entry => settled entry ∧ entry ≠ localServiceId) host)
    (read : ∀ answers, loadEntry platform host.files (Path.join fungiHome "services")
      localServiceId answers = .ok (host.serviceState.state[localServiceId]?, answers)) :
    InStepFor platform fungiHome settled host := by
  refine ⟨inStep.root, inStep.indexed, inStep.ids, inStep.directories, ?_⟩
  intro entry settledEntry plain answers
  by_cases own : entry = localServiceId
  · rw [own]
    exact read answers
  · exact inStep.entries entry ⟨settledEntry, own⟩ plain answers

variable (direct : Path.Direct fungiHome)
  (found : host.serviceState.state[localServiceId]? = some record)
  (writes : WritesBack platform fungiHome localServiceId record.manifest)

include direct found writes

/-- A saved record brings its entry in step. -/
theorem saveService_settles
    (inStep : InStepFor platform fungiHome
      (fun entry => settled entry ∧ entry ≠ localServiceId) host)
    (saved : saveService platform localServiceId host = (.ok (), after)) :
    InStepFor platform fungiHome settled after := by
  have valid := inStep.ids localServiceId record found
  have within := saveService_within direct valid inStep.root platform
  rw [saved] at within
  dsimp only at within
  have framed := inStep.frame direct within
  obtain ⟨text, encoded, files⟩ := saveService_eq_ok direct valid inStep.root found saved
  obtain ⟨text', encoded', parses⟩ := writes
  rw [encoded, Except.ok.injEq] at encoded'
  have store : after.serviceState = host.serviceState := by rw [within.2]
  have id : record.localServiceId = localServiceId := inStep.indexed.ids _ _ found
  have others : InStepFor platform fungiHome
      (fun entry => settled entry ∧ entry ≠ localServiceId) after := by
    refine ⟨framed.root, framed.indexed, framed.ids, framed.directories, ?_⟩
    intro entry both
    exact framed.entries entry ⟨both, both.2⟩
  apply others.settle
  intro answers
  rw [store, found, ← id]
  rw [← id] at files valid parses
  exact files.loadEntry direct valid (encoded' ▸ parses answers)

end Keeping

/-! ## Saving what is there already -/

/-- The entry of a service holds the given record. -/
structure EntryReads (platform : Platform) (fungiHome : String) (record : PersistedService)
    (files : FileSystem) : Prop where
  directory : files (servicesPlace fungiHome ++ [record.localServiceId.toList]) = some .directory
  manifest : ∃ text, files (entryPlace fungiHome record.localServiceId "service.yaml") =
      some (.file text) ∧
    ∀ answers, parseManagedServiceManifestYaml platform.yaml text
      (Path.join (Path.join fungiHome "services") record.localServiceId)
      (pathsOf platform (Path.join fungiHome "services")) record.localServiceId answers =
        .ok (record.manifest, answers)
  state : loadServiceStateFile platform files
      (statePathOf (Path.join fungiHome "services") record.localServiceId)
      record.localServiceId =
    .ok { schemaVersion := serviceStateSchemaVersion, localServiceId := record.localServiceId,
          desiredState := record.desiredState }

section Saving

variable {platform : Platform} {fungiHome : String} {host : Host} {record : PersistedService}
  (direct : Path.Direct fungiHome) (valid : LocalId record.localServiceId)

include direct valid

theorem entryReads_iff {files : FileSystem} : EntryReads platform fungiHome record files ↔
    ∀ answers, loadEntry platform files (Path.join fungiHome "services") record.localServiceId
      answers = .ok (some record, answers) := by
  have directory := resolve_entryDir direct valid.plain
  have manifestFile := resolve_entryFile direct valid.plain "service.yaml" (by decide)
  constructor
  · intro reads answers
    obtain ⟨text, content, parses⟩ := reads.manifest
    rw [loadEntry_eq_ok_some]
    refine ⟨?_, text, _, record.manifest, ?_, reads.state, parses answers, rfl⟩
    · rw [FileSystem.isDir, directory, reads.directory]
      decide
    · rw [FileSystem.readToString, manifestPathOf, manifestFile, content]
  · intro loads
    obtain ⟨isDirectory, text, stateFile, manifest, content, state, -, same⟩ :=
      loadEntry_eq_ok_some.mp (loads [])
    obtain ⟨id, -, version⟩ := loadServiceStateFile_eq_ok state
    rw [valid.trim_eq] at id
    have stateOf : stateFile =
        { schemaVersion := serviceStateSchemaVersion
          localServiceId := record.localServiceId
          desiredState := record.desiredState } := by
      cases stateFile
      dsimp only at id version
      rw [id, version, same]
    rw [FileSystem.isDir, directory, decide_eq_true_eq] at isDirectory
    refine ⟨isDirectory, ⟨text, ?_, ?_⟩, stateOf ▸ state⟩
    · rw [FileSystem.readToString, manifestPathOf, manifestFile] at content
      split at content
      · next found =>
          rw [Option.some.injEq] at content
          rw [found, content]
      · cases content
    · intro answers
      obtain ⟨-, text', stateFile', manifest', content', state', parsed, same'⟩ :=
        loadEntry_eq_ok_some.mp (loads answers)
      rw [content, Option.some.injEq] at content'
      rw [state, Except.ok.injEq] at state'
      rw [← content', ← state', stateOf] at parsed
      rw [parsed, same']

/-- What an entry holds does not depend on other places. -/
theorem EntryReads.congr {files files' : FileSystem}
    (reads : EntryReads platform fungiHome record files)
    (directory : files' (servicesPlace fungiHome ++ [record.localServiceId.toList]) =
      files (servicesPlace fungiHome ++ [record.localServiceId.toList]))
    (manifest : files' (entryPlace fungiHome record.localServiceId "service.yaml") =
      files (entryPlace fungiHome record.localServiceId "service.yaml"))
    (state : files' (entryPlace fungiHome record.localServiceId "state.json") =
      files (entryPlace fungiHome record.localServiceId "state.json")) :
    EntryReads platform fungiHome record files' := by
  refine ⟨directory ▸ reads.directory, ?_, ?_⟩
  · rw [manifest]
    exact reads.manifest
  · rw [← reads.state]
    apply loadServiceStateFile_congr
    rw [statePathOf, resolve_entryFile direct valid.plain "state.json" (by decide)]
    exact state

variable {store : ServiceStateStore} (root : store.servicesRoot = Path.join fungiHome "services")

include root

private theorem createServiceDirs_keeps :
    Program.Keeps (fun host : Host => EntryReads platform fungiHome record host.files)
      (createServiceDirs platform store record.localServiceId) := by
  have framed : Program.Within (filesFrame (.leaving
      (fun place => ∃ fileName, place = entryPlace fungiHome record.localServiceId fileName)
      (fun place => place = servicesPlace fungiHome ++ [record.localServiceId.toList])))
      (createServiceDirs platform store record.localServiceId) := by
    unfold createServiceDirs
    apply (createDirAll_within _).bind
    · intro _
      apply createDirAll_within
      intro place touched
      apply FileSystem.ChangeRule.leaving_made
      intro file
      obtain ⟨fileName, rfl⟩ := file
      exact serviceAppdataDir_avoids direct valid root touched rfl
    · intro place touched
      apply FileSystem.ChangeRule.leaving_made
      intro file
      obtain ⟨fileName, rfl⟩ := file
      exact serviceFile_notMem_serviceDir direct valid root fileName touched
  intro state reads
  have changes := (framed state).1
  apply reads.congr direct valid
  · apply (changes _).2 rfl
    rw [reads.directory]
    simp
  · exact (changes _).1 ⟨_, rfl⟩
  · exact (changes _).1 ⟨_, rfl⟩

private theorem atomicWrite_entryFrame (fileName content : String) (file : Path.Plain fileName) :
    Program.Within (filesFrame (.leaving
      (fun place => ∃ other, other ≠ fileName ∧
        place = entryPlace fungiHome record.localServiceId other)
      (fun place => place = servicesPlace fungiHome ++ [record.localServiceId.toList])))
      (atomicWrite (Path.join (store.serviceDir record.localServiceId) fileName) content) := by
  apply atomicWrite_within file
  · intro place touched
    apply FileSystem.ChangeRule.leaving_made
    intro other
    obtain ⟨otherName, -, rfl⟩ := other
    exact serviceFile_notMem_serviceDir direct valid root otherName touched
  · rw [resolve_serviceFile direct valid root fileName file]
    intro node content
    apply FileSystem.ChangeRule.leaving_changed
    constructor
    · intro other
      obtain ⟨otherName, different, same⟩ := other
      refine different (String.toList_inj.mp ?_)
      simpa [entryPlace] using same.symm
    · simp [entryPlace]

/-- Writing the record that the entry holds already changes nothing that is read, however
far it gets. -/
private theorem writeServiceFiles_keeps
    (writes : WritesBack platform fungiHome record.localServiceId record.manifest) :
    Program.Keeps (fun host : Host => EntryReads platform fungiHome record host.files)
      (writeServiceFiles platform store record.localServiceId record) := by
  have directory : Path.Direct (store.serviceDir record.localServiceId) := by
    rw [ServiceStateStore.serviceDir, root]
    exact Path.direct_join (Path.direct_join direct (by decide)) valid.plain
  have manifestFile := resolve_serviceFile direct valid root "service.yaml" (by decide)
  have stateFile := resolve_serviceFile direct valid root "state.json" (by decide)
  have notState : "service.yaml" ≠ "state.json" := by decide
  obtain ⟨text, encoded, parses⟩ := writes
  have manifestKeeps : Program.Keeps
      (fun host : Host => EntryReads platform fungiHome record host.files)
      (atomicWrite (Path.join (store.serviceDir record.localServiceId) "service.yaml") text) := by
    intro state reads
    have changes :=
      (atomicWrite_entryFrame direct valid root "service.yaml" text (by decide) state).1
    have sameDirectory := (changes _).2 rfl (by rw [reads.directory]; simp)
    have sameState := (changes _).1 ⟨"state.json", notState.symm, rfl⟩
    rcases atomicWrite_target "service.yaml" text (by decide) directory state with
      same | written
    · rw [manifestFile] at same
      exact reads.congr direct valid sameDirectory same sameState
    · rw [manifestFile] at written
      refine ⟨sameDirectory.trans reads.directory, ⟨text, written, parses⟩, ?_⟩
      rw [← reads.state]
      apply loadServiceStateFile_congr
      rw [statePathOf, resolve_entryFile direct valid.plain "state.json" (by decide)]
      exact sameState
  have stateKeeps : Program.Keeps
      (fun host : Host => EntryReads platform fungiHome record host.files)
      (atomicWrite (Path.join (store.serviceDir record.localServiceId) "state.json")
        (platform.json.toStringPretty
          { schemaVersion := serviceStateSchemaVersion
            localServiceId := record.localServiceId
            desiredState := record.desiredState })) := by
    intro state reads
    have changes :=
      (atomicWrite_entryFrame direct valid root "state.json" (platform.json.toStringPretty
        { schemaVersion := serviceStateSchemaVersion
          localServiceId := record.localServiceId
          desiredState := record.desiredState }) (by decide) state).1
    have sameDirectory := (changes _).2 rfl (by rw [reads.directory]; simp)
    have sameManifest := (changes _).1 ⟨"service.yaml", notState, rfl⟩
    rcases atomicWrite_target "state.json" _ (by decide) directory state with same | written
    · rw [stateFile] at same
      exact reads.congr direct valid sameDirectory sameManifest same
    · rw [stateFile] at written
      refine ⟨sameDirectory.trans reads.directory, ?_, ?_⟩
      · rw [sameManifest]
        exact reads.manifest
      · apply loadServiceStateFile_written valid
        rw [statePathOf, resolve_entryFile direct valid.plain "state.json" (by decide)]
        exact written
  intro state reads
  unfold writeServiceFiles
  rw [Program.bind_of_ok ((Program.ofExcept_eq_ok _).mpr ⟨encoded, rfl⟩)]
  exact (manifestKeeps.bind fun _ => stateKeeps) state reads

omit root

/-- Saving the record that is in memory and on disk already keeps both in step. -/
theorem saveService_keeps (inStep : InStep platform fungiHome host)
    (found : host.serviceState.state[record.localServiceId]? = some record)
    (writes : WritesBack platform fungiHome record.localServiceId record.manifest) :
    InStep platform fungiHome (saveService platform record.localServiceId host).2 := by
  have within := saveService_within direct valid inStep.root platform
  have store : (saveService platform record.localServiceId host).2.serviceState =
      host.serviceState := by rw [within.2]
  have framed := inStep.frame direct within
  apply framed.settle
  intro answers
  rw [store, found]
  revert answers
  rw [← entryReads_iff direct valid]
  have reads : EntryReads platform fungiHome record host.files := by
    rw [entryReads_iff direct valid]
    intro answers
    rw [← found]
    exact inStep.entries _ trivial valid.plain answers
  unfold saveService
  rw [Program.bind_of_ok (Program.gets_apply _ _), found]
  exact ((createServiceDirs_keeps direct valid inStep.root).bind fun _ =>
    writeServiceFiles_keeps direct valid inStep.root writes) host reads

end Saving

/-! ## Calls -/

section Calls

variable {platform : Platform} {fungiHome : String} {host after : Host}
  {record : PersistedService} (direct : Path.Direct fungiHome)
  (inStep : InStep platform fungiHome host)

include direct inStep

/-- Changing one record in memory and saving it. -/
private theorem storeRecord_keeps {changed : Host} (files : changed.files = host.files)
    (outcomes : changed.outcomes = host.outcomes)
    (root : changed.serviceState.servicesRoot = host.serviceState.servicesRoot)
    (indexed : changed.serviceState.Indexed)
    (lookup : ∀ id : String, changed.serviceState.state[id]? =
      if record.localServiceId = id then some record else host.serviceState.state[id]?)
    (valid : LocalId record.localServiceId) (may : MayStore platform fungiHome host record) :
    InStep platform fungiHome (saveService platform record.localServiceId changed).2 ∧
      ∀ failure after,
        saveService platform record.localServiceId changed = (.error failure, after) →
          after.serviceState = host.serviceState := by
  have found : changed.serviceState.state[record.localServiceId]? = some record := by
    rw [lookup, if_pos rfl]
  have changedRoot := root.trans inStep.root
  obtain ⟨writes, same | undisturbed⟩ := may
  · have sameStore : changed.serviceState = host.serviceState := by
      apply indexed.eq_of_state inStep.indexed root
      intro id
      rw [lookup]
      split
      · next own => rw [← own, same]
      · rfl
    have changedInStep := inStep.congr files sameStore
    refine ⟨saveService_keeps direct valid changedInStep found writes, ?_⟩
    intro failure after failed
    have within := saveService_within direct valid changedRoot platform
    rw [failed] at within
    dsimp only at within
    rw [within.2]
    exact sameStore
  · have changedInStep : InStepFor platform fungiHome
        (fun entry => True ∧ entry ≠ record.localServiceId) changed := by
      refine ⟨changedRoot, indexed, ?_, ?_, ?_⟩
      · intro id other present
        rw [lookup] at present
        split at present
        · next own => exact own ▸ valid
        · exact inStep.ids id other present
      · rw [files]
        exact inStep.directories
      · intro entry both plain answers
        rw [files, inStep.entries entry trivial plain, lookup, if_neg (Ne.symm both.2)]
    obtain ⟨text, encoded, -⟩ := id writes
    have calm : changed.Calm 12 := by
      unfold Host.Calm
      rw [outcomes]
      exact undisturbed.1
    have clear : Unobstructed platform changed.serviceState record.localServiceId
        changed.files := by
      rw [files]
      exact undisturbed.2.congr root
    obtain ⟨final, saved⟩ := saveService_of_calm direct valid changedRoot found encoded clear calm
    have settled := saveService_settles direct found writes changedInStep saved
    rw [saved]
    refine ⟨settled, ?_⟩
    intro failure after failed
    cases failed

private theorem upsert_keeps {manifest : ServiceManifest} {desiredState : DesiredServiceState}
    {requested : Option String}
    (safe : (StoreCall.upsert manifest desiredState requested).Safe platform fungiHome host) :
    InStep platform fungiHome (upsertServiceWithLocalServiceId platform manifest desiredState
        requested host).2 ∧
      ∀ failure after, upsertServiceWithLocalServiceId platform manifest desiredState requested
          host = (.error failure, after) →
        after.serviceState = host.serviceState := by
  have only := resolveUpsertLocalServiceId_within manifest.name requested host
  unfold upsertServiceWithLocalServiceId
  cases resolved : resolveUpsertLocalServiceId manifest.name requested host with
  | mk outcome drawn =>
      rw [resolved] at only
      change drawn = { host with ulids := drawn.ulids } at only
      rw [Program.bind_apply, resolved]
      cases outcome with
      | error failure =>
          refine ⟨?_, ?_⟩
          · apply inStep.congr
            · rw [only]
            · rw [only]
          · intro failure' after failed
            cases failed
            rw [only]
      | ok localServiceId =>
          have assigned := resolveUpsertLocalServiceId_eq_ok inStep.indexed inStep.ids resolved
          have may := safe localServiceId drawn resolved
          have saved := @storeRecord_keeps platform fungiHome host
            { localServiceId, manifest, desiredState } direct inStep
            { drawn with serviceState :=
              { drawn.serviceState with
                nameIndex := drawn.serviceState.nameIndex.insert manifest.name localServiceId
                state := drawn.serviceState.state.insert localServiceId
                  { localServiceId, manifest, desiredState } } }
            (by rw [only]) (by rw [only]) (by rw [only])
            (by
              rw [only]
              exact inStep.indexed.insert { localServiceId, manifest, desiredState }
                assigned.own assigned.renamed)
            (by
              intro id
              rw [only]
              exact getElem?_insert)
            assigned.valid may
          dsimp only at saved ⊢
          rw [Program.bind_of_ok (Program.modify_apply _ _), Program.bind_apply]
          split
          · next value final outcome =>
              rw [outcome] at saved
              refine ⟨saved.1, ?_⟩
              intro failure after failed
              cases failed
          · next failure final outcome =>
              rw [outcome] at saved
              refine ⟨saved.1, ?_⟩
              intro failure' after failed
              cases failed
              exact saved.2 _ _ rfl

private theorem setDesiredState_keeps {serviceName : String} {desiredState : DesiredServiceState}
    (safe : (StoreCall.setDesiredState serviceName desiredState).Safe platform fungiHome host) :
    InStep platform fungiHome (setDesiredState platform serviceName desiredState host).2 ∧
      ∀ failure after,
        setDesiredState platform serviceName desiredState host = (.error failure, after) →
          after.serviceState = host.serviceState := by
  unfold setDesiredState ServiceStateStore.lookupLocalServiceId
  rw [Program.bind_of_ok (Program.gets_apply _ _)]
  cases listed : host.serviceState.nameIndex[serviceName]? with
  | none =>
      refine ⟨inStep, ?_⟩
      intro failure after failed
      cases failed
      rfl
  | some localServiceId =>
      obtain ⟨service, present, named⟩ := (inStep.indexed.names _ _).mp listed
      have own := inStep.indexed.ids _ _ present
      subst own
      have persisted : host.serviceState.persistedService serviceName = some service := by
        rw [ServiceStateStore.persistedService, listed]
        exact present
      rw [Program.bind_of_ok ((Program.ofExcept_eq_ok _).mpr ⟨rfl, rfl⟩), present]
      dsimp only
      rw [Program.bind_of_ok (Program.modify_apply _ _)]
      have assigned := assignable_of_listed inStep.indexed inStep.ids listed
      have inserted := inStep.indexed.insert { service with desiredState }
        (fun existing found => assigned.own existing (named ▸ found))
        (fun other found => (assigned.renamed other found).trans named.symm)
      -- The name index already lists the service, so only the record changes.
      have sameIndex : host.serviceState.nameIndex.insert service.manifest.name
          service.localServiceId = host.serviceState.nameIndex := by
        apply Std.ExtTreeMap.ext_getElem?
        intro name
        rw [getElem?_insert]
        split
        · next same => rw [← same, named, listed]
        · rfl
      dsimp only at inserted
      rw [sameIndex] at inserted
      exact @storeRecord_keeps platform fungiHome host { service with desiredState } direct inStep
        { host with serviceState :=
          { host.serviceState with
            state := host.serviceState.state.insert service.localServiceId
              { service with desiredState } } }
        rfl rfl rfl inserted (fun other => getElem?_insert) assigned.valid
        (safe service persisted)

private theorem removeService_keeps {serviceName : String}
    (safe : (StoreCall.removeService serviceName).Safe platform fungiHome host) :
    InStep platform fungiHome (removeService serviceName host).2 ∧
      ∀ failure after, removeService serviceName host = (.error failure, after) →
        after.serviceState = host.serviceState := by
  unfold removeService
  rw [Program.bind_of_ok (Program.gets_apply _ _)]
  cases listed : host.serviceState.nameIndex[serviceName]? with
  | none =>
      refine ⟨inStep, ?_⟩
      intro failure after failed
      cases failed
  | some localServiceId =>
      obtain ⟨service, present, named⟩ := (inStep.indexed.names _ _).mp listed
      have valid := inStep.ids _ _ present
      have persisted : host.serviceState.persistedService serviceName = some service := by
        rw [ServiceStateStore.persistedService, listed]
        exact present
      have read := inStep.entries localServiceId trivial valid.plain []
      rw [present] at read
      have directory := (loadEntry_eq_ok_some.mp read).1
      have resolved := resolve_entryDir direct valid.plain
      have place : Path.resolve (host.serviceState.serviceDir localServiceId) =
          servicesPlace fungiHome ++ [localServiceId.toList] := by
        rw [ServiceStateStore.serviceDir, inStep.root]
        exact resolved
      dsimp only
      rw [Program.bind_of_ok (Program.modify_apply _ _),
        Program.bind_of_ok (Program.gets_apply _ _)]
      rw [FileSystem.isDir, decide_eq_true_eq, resolved, ← place] at directory
      have existing : host.files.pathExists (host.serviceState.serviceDir localServiceId) := by
        rw [FileSystem.pathExists, directory]
        rfl
      have isDirectory : host.files.isDir (host.serviceState.serviceDir localServiceId) := by
        rw [FileSystem.isDir, directory]
        decide
      have possible : host.files.removeDirAll (host.serviceState.serviceDir localServiceId) =
          some fun other => if Path.resolve (host.serviceState.serviceDir localServiceId) <+: other
            then none else host.files other := by
        rw [FileSystem.removeDirAll, if_pos isDirectory]
      dsimp only [id]
      rw [if_pos existing, removeDirAll, @fileStep_of_calm _ _ _
        { host with serviceState :=
          { host.serviceState with
            state := host.serviceState.state.erase localServiceId
            nameIndex := host.serviceState.nameIndex.erase serviceName } }
        0 _ (safe service persisted) possible]
      refine ⟨⟨inStep.root, inStep.indexed.erase listed, ?_, ?_, ?_⟩, ?_⟩
      · intro other record found
        dsimp only [Host.stepped] at found
        rw [getElem?_erase] at found
        split at found
        · cases found
        · exact inStep.ids other record found
      · intro above shorter
        dsimp only [Host.stepped]
        rw [if_neg]
        · exact inStep.directories above shorter
        · rw [place]
          intro inside
          have bound := (inside.trans shorter).length_le
          simp at bound
      · intro entry _ plain answers
        dsimp only [Host.stepped]
        rw [getElem?_erase]
        split
        · next own =>
            rw [loadEntry_eq_ok_none]
            refine ⟨Or.inl ?_, rfl⟩
            rw [← own, FileSystem.isDir, resolved, place, if_pos List.prefix_rfl]
            simp
        · next other =>
            rw [← inStep.entries entry trivial plain answers]
            apply loadEntry_congr direct plain
            intro below
            rw [if_neg]
            rw [place, List.prefix_append_right_inj, List.cons_prefix_cons]
            intro same
            exact other (String.toList_inj.mp same.1)
      · intro failure after failed
        cases failed

/-- A call that meets its condition keeps memory and disk in step, and changes nothing
when it fails. -/
theorem perform_keeps {call : StoreCall} (safe : call.Safe platform fungiHome host) :
    InStep platform fungiHome (call.perform platform host).2 ∧
      UnchangedOnError platform host call := by
  have kept : InStep platform fungiHome (call.perform platform host).2 ∧
      ∀ failure after, call.perform platform host = (.error failure, after) →
        after.serviceState = host.serviceState := by
    cases call with
    | upsert manifest desiredState requested =>
        have stored := upsert_keeps direct inStep safe
        have performed : (StoreCall.upsert manifest desiredState requested).perform platform host =
            (upsertServiceWithLocalServiceId platform manifest desiredState requested >>=
              fun _ => pure ()) host := rfl
        rw [performed, Program.bind_apply]
        split
        · next localServiceId final outcome =>
            rw [outcome] at stored
            refine ⟨stored.1, ?_⟩
            intro failure after failed
            cases failed
        · next failure final outcome =>
            rw [outcome] at stored
            refine ⟨stored.1, ?_⟩
            intro failure' after failed
            cases failed
            exact stored.2 _ _ rfl
    | setDesiredState serviceName desiredState => exact setDesiredState_keeps direct inStep safe
    | removeService serviceName => exact removeService_keeps direct inStep safe
  refine ⟨kept.1, ?_⟩
  intro failure after failed
  have same := kept.2 failure after failed
  have inStepAfter := kept.1
  rw [failed] at inStepAfter
  exact ⟨same, fun entries answers plain => reload_eq_of_inStep direct inStep inStepAfter same
    plain answers⟩

end Calls

/-! ## Runs -/

section Runs

variable {platform : Platform} {fungiHome : String} {start loaded : Host}
  {entries : List String} {store : ServiceStateStore}

/-- A load puts memory in step with the disk when every service directory is named by
the id it holds and no service runs in Docker. -/
theorem inStep_of_load (direct : Path.Direct fungiHome)
    (listed : (start.files.makeDirs (Path.ancestors (Path.join fungiHome "services"))).Lists
      (Path.join fungiHome "services") entries)
    (loads : load platform (Path.join fungiHome "services") entries start = (.ok store, loaded))
    (named : ∀ entry ∈ entries, ¬ Skipped loaded.files (Path.join fungiHome "services") entry →
      trim entry = entry)
    (fixed : ∀ (id : String) record, store.state[id]? = some record →
      record.manifest.runtime ≠ .docker) :
    InStep platform fungiHome { loaded with serviceState := store } := by
  unfold load at loads
  obtain ⟨_, created, first, loads⟩ := (Program.bind_eq_ok _).mp loads
  obtain ⟨only, directories⟩ := createDirAll_eq_ok first
  unfold readServices at loads
  split at loads
  · next final freePorts read =>
      cases loads
      have files : created.files =
          start.files.makeDirs (Path.ancestors (Path.join fungiHome "services")) := by rw [only]
      rw [← files] at listed
      obtain ⟨root, indexed, eachRead, -, origin⟩ :=
        loadEntries_eq_ok (ServiceStateStore.Indexed.empty _) read
      -- The record under an id was read from the entry of that name.
      have source : ∀ (id : String) record, store.state[id]? = some record →
          LocalId id ∧ id ∈ entries ∧ ∃ before after,
            loadEntry platform created.files (Path.join fungiHome "services") id before =
              .ok (some record, after) := by
        intro id record present
        rcases origin id record present with impossible | fromEntry
        · simp [emptyStore] at impossible
        · obtain ⟨sameId, entry, membership, before, after, loadedEntry⟩ := fromEntry
          obtain ⟨directory, text, stateFile, manifest, content, state, -, same⟩ :=
            loadEntry_eq_ok_some.mp loadedEntry
          obtain ⟨trimmed, valid, -⟩ := loadServiceStateFile_eq_ok state
          have notSkipped : ¬ Skipped created.files (Path.join fungiHome "services") entry := by
            intro skipped
            have nothing := (@loadEntry_eq_ok_none platform _ _ _ before before).mpr ⟨skipped, rfl⟩
            dsimp only [emptyStore] at loadedEntry
            rw [loadedEntry] at nothing
            cases nothing
          have bare := named entry membership notSkipped
          have own : entry = id := by
            rw [← bare, ← trimmed, ← sameId, same]
          rw [bare, own] at valid
          rw [own] at membership loadedEntry
          exact ⟨valid, membership, before, after, loadedEntry⟩
      refine ⟨root, indexed, fun id record present => (source id record present).1, ?_, ?_⟩
      · intro place above
        exact directories place ((ancestors_services direct).mpr above)
      · intro entry _ plain answers
        dsimp only
        cases present : store.state[entry]? with
        | some record =>
            obtain ⟨-, -, before, after, loadedEntry⟩ := source entry record present
            rw [loadEntry_eq_ok_some] at loadedEntry ⊢
            obtain ⟨directory, text, stateFile, manifest, content, state, parsed, same⟩ :=
              loadedEntry
            have noDocker := fixed entry record present
            rw [same] at noDocker
            exact ⟨directory, text, stateFile, manifest, content, state,
              parseManagedServiceManifestYaml_fixed parsed noDocker answers, same⟩
        | none =>
            rw [loadEntry_eq_ok_none]
            refine ⟨?_, rfl⟩
            by_cases membership : entry ∈ entries
            · obtain ⟨before, after, result, loadedEntry, kept⟩ := eachRead entry membership
              dsimp only [emptyStore] at loadedEntry
              cases result with
              | none => exact (loadEntry_eq_ok_none.mp loadedEntry).1
              | some record =>
                  have found := kept record rfl
                  obtain ⟨_, _, stateFile, _, _, state, _, same⟩ :=
                    loadEntry_eq_ok_some.mp loadedEntry
                  have trimmed := (loadServiceStateFile_eq_ok state).1
                  by_contra notSkipped
                  rw [named entry membership notSkipped] at trimmed
                  rw [same] at found
                  dsimp only at found
                  rw [trimmed, present] at found
                  cases found
            · left
              intro directory
              rw [FileSystem.isDir, resolve_entryDir direct plain, decide_eq_true_eq] at directory
              refine membership ((listed.mem_iff entry).mpr ⟨plain, ?_⟩)
              rw [resolve_servicesRoot direct, directory]
              rfl
  · cases loads

/-- Every run of calls that meet the condition, from a store that a load has put in step,
keeps memory and disk in step; a further such call changes nothing when it fails. -/
theorem serviceStateStore_atomic (platform : Platform) {fungiHome : String}
    (direct : Path.Direct fungiHome) {start loaded final : Host} {entries : List String}
    {store : ServiceStateStore} {calls : List StoreCall}
    (listed : (start.files.makeDirs (Path.ancestors (Path.join fungiHome "services"))).Lists
      (Path.join fungiHome "services") entries)
    (loads : load platform (Path.join fungiHome "services") entries start = (.ok store, loaded))
    (named : ∀ entry ∈ entries, ¬ Skipped loaded.files (Path.join fungiHome "services") entry →
      trim entry = entry)
    (fixed : ∀ (id : String) record, store.state[id]? = some record →
      record.manifest.runtime ≠ .docker)
    (safe : EveryStep (storeStep platform) (fun host call => call.Safe platform fungiHome host)
      { loaded with serviceState := store } calls)
    (reached : run (storeStep platform) { loaded with serviceState := store } calls =
      some final) :
    MemoryMatchesDisk platform final ∧
      ∀ call : StoreCall, call.Safe platform fungiHome final →
        UnchangedOnError platform final call := by
  have inStep : InStep platform fungiHome final := by
    apply invariant_of_everyStep _ (inStep_of_load direct listed loads named fixed) safe reached
    intro host call next inStep safe taken
    cases taken
    exact (perform_keeps direct inStep safe).1
  exact ⟨inStep_matches direct inStep,
    fun call safe => (perform_keeps direct inStep safe).2⟩

end Runs

/-! ## A call that leaves memory and disk apart -/

/-- The document of one service. -/
def singlePlatform : Platform :=
  { yaml := .ofTable
      [("fungi: demo", manifestDocument (publishingManifest "demo" [("main", 8080)]))]
      (by decide +kernel) (by decide +kernel)
    json := .unary
    channel := .stable }

/-- A services directory with one stopped service. -/
def singleServiceFiles : FileSystem :=
  .ofList
    [([], .directory),
      (["f".toList], .directory),
      (["f".toList, "services".toList], .directory),
      (["f".toList, "services".toList, "svc_a".toList], .directory),
      (["f".toList, "services".toList, "svc_a".toList, "service.yaml".toList],
        .file "fungi: demo")]

/-- A stored service. -/
def singleService : PersistedService :=
  { localServiceId := "svc_a"
    manifest := publishingManifest "demo" [("main", 8080)]
    desiredState := .stopped }

/-- A store with one service. -/
def singleStore : ServiceStateStore :=
  { servicesRoot := "/f/services"
    state := Std.ExtTreeMap.ofList [("svc_a", singleService)] compare
    nameIndex := Std.ExtTreeMap.ofList [("demo", "svc_a")] compare }

private theorem singleService_listed :
    (singleServiceFiles.makeDirs (Path.ancestors "/f/services")).Lists "/f/services" ["svc_a"] := by
  rw [FileSystem.makeDirs_of_present (by decide +kernel)]
  exact FileSystem.lists_ofList (by decide) (by decide +kernel) (by decide +kernel)

/-- A start on that directory, with the given outcomes of the steps to come. -/
def singleServiceStart (outcomes : List (Option Fault)) : Host :=
  Host.fresh singleServiceFiles outcomes

private theorem singleService_loads (outcomes : List (Option Fault))
    (loads : (load singlePlatform "/f/services" ["svc_a"] (singleServiceStart outcomes)).1 =
      .ok singleStore) :
    load singlePlatform (Path.join "/f" "services") ["svc_a"] (singleServiceStart outcomes) =
      (.ok singleStore,
        (load singlePlatform "/f/services" ["svc_a"] (singleServiceStart outcomes)).2) :=
  Prod.ext loads rfl

/-- The seventh step on the file system fails. -/
def flushFails : List (Option Fault) :=
  [none, none, none, none, none, none,
    some { made := 0, deleted := [], left := none, carriedOut := false, reply := .message "" }]

/-- The temporary file of the manifest cannot be flushed while the desired state is being
changed: the call fails, and memory has changed. -/
theorem serviceStateStore_diverges :
    ¬ ∀ (platform : Platform) (fungiHome : String) (start loaded final : Host)
      (entries : List String) (store : ServiceStateStore) (calls : List StoreCall),
      Path.Direct fungiHome →
      (start.files.makeDirs (Path.ancestors (Path.join fungiHome "services"))).Lists
        (Path.join fungiHome "services") entries →
      load platform (Path.join fungiHome "services") entries start = (.ok store, loaded) →
      run (storeStep platform) { loaded with serviceState := store } calls = some final →
      MemoryMatchesDisk platform final ∧
        ∀ call : StoreCall, UnchangedOnError platform final call := by
  intro always
  have loads := singleService_loads flushFails (by decide +kernel)
  obtain ⟨-, unchanged⟩ := always singlePlatform "/f" (singleServiceStart flushFails) _ _ ["svc_a"]
    singleStore [] (by decide) singleService_listed loads rfl
  have failed : (setDesiredState singlePlatform "demo" .running
      { (load singlePlatform "/f/services" ["svc_a"] (singleServiceStart flushFails)).2 with
        serviceState := singleStore }).1 =
      .error (.message "Failed to flush temporary service state file") := by decide +kernel
  have same := (unchanged (.setDesiredState "demo" .running) _ _ (Prod.ext failed rfl)).1
  revert same
  decide +kernel

/-- The daemon once it has loaded that directory. -/
def singleServiceHost : Host :=
  { (load singlePlatform "/f/services" ["svc_a"] (singleServiceStart [])).2 with
    serviceState := singleStore }

private theorem singleService_mayStore : MayStore singlePlatform "/f" singleServiceHost
    { singleService with desiredState := .running } := by
  have free : (∀ place ∈ Path.ancestors (singleServiceHost.serviceState.serviceDir "svc_a"),
        singleServiceHost.files place = none ∨ singleServiceHost.files place = some .directory) ∧
      ∀ place ∈ Path.ancestors
          (singleServiceHost.serviceState.serviceAppdataDir singlePlatform "svc_a"),
        singleServiceHost.files place = none ∨ singleServiceHost.files place = some .directory := by
    decide +kernel
  refine ⟨⟨"fungi: demo", by decide +kernel, ?_⟩, Or.inr ⟨by decide +kernel, ?_⟩⟩
  · intro answers
    have parsed : parseManagedServiceManifestYaml singlePlatform.yaml "fungi: demo"
        (Path.join (Path.join "/f" "services") "svc_a")
        (pathsOf singlePlatform (Path.join "/f" "services")) "svc_a" [] =
          .ok (singleService.manifest, []) := by decide +kernel
    exact parseManagedServiceManifestYaml_fixed parsed (by decide) answers
  · constructor
    · intro place touched
      exact FileSystem.ne_file_of_free (free.1 place touched)
    · intro place touched
      exact FileSystem.ne_file_of_free (free.2 place touched)
    · decide +kernel
    · decide +kernel

/-- Without the fault the same call keeps memory and disk in step. -/
theorem serviceStateStore_atomic_demo :
    MemoryMatchesDisk singlePlatform ((StoreCall.setDesiredState "demo" .running).perform
        singlePlatform singleServiceHost).2 ∧
      ∀ call : StoreCall,
        call.Safe singlePlatform "/f" ((StoreCall.setDesiredState "demo" .running).perform
          singlePlatform singleServiceHost).2 →
        UnchangedOnError singlePlatform ((StoreCall.setDesiredState "demo" .running).perform
          singlePlatform singleServiceHost).2 call := by
  apply @serviceStateStore_atomic singlePlatform "/f" (by decide) (singleServiceStart []) _ _
    ["svc_a"] singleStore [.setDesiredState "demo" .running] singleService_listed
    (singleService_loads [] (by decide +kernel))
  · intro entry membership _
    rw [List.mem_singleton.mp membership]
    decide +kernel
  · intro id record found
    have only := mem_of_mem_toList_ofList
      ((Std.ExtTreeMap.mem_toList_iff_getElem?_eq_some).mpr found)
    rw [List.mem_singleton] at only
    cases only
    decide
  · refine ⟨?_, fun _ _ => trivial⟩
    intro record found
    have only : singleServiceHost.serviceState.persistedService "demo" = some singleService := by
      decide +kernel
    have same := only.symm.trans found
    cases same
    exact singleService_mayStore
  · rfl

end Fungi.Runtime
