import Mathlib.Algebra.GroupWithZero.Nat
import Fungi.Runtime.ManifestReload
import Fungi.Runtime.ServiceState

/-!
# What the store reads and writes

The services directory is read entry by entry, and an entry is read from three
places only.  Saving a service touches its own entry and nothing else that is read,
so the two operations compose.
-/

namespace Fungi.Runtime

open Fungi.Lib Fungi.Config

/-! ## Local service ids -/

/-- A nonempty text of ASCII letters, digits, `-` and `_`. -/
structure LocalId (id : String) : Prop where
  nonempty : id ≠ ""
  characters : ∀ character ∈ id.toList, isIdCharacter character

private theorem isAlphanum_iff {character : Char} : character.isAlphanum ↔
    (65 ≤ character.toNat ∧ character.toNat ≤ 90) ∨
      (97 ≤ character.toNat ∧ character.toNat ≤ 122) ∨
        (48 ≤ character.toNat ∧ character.toNat ≤ 57) := by
  delta Char.isAlphanum Char.isAlpha Char.isUpper Char.isLower Char.isDigit
  simp only [Bool.or_eq_true, Bool.and_eq_true, decide_eq_true_eq, UInt32.le_iff_toNat_le,
    ge_iff_le, or_assoc]
  exact Iff.rfl

private theorem isIdCharacter_bare {character : Char} (allowed : isIdCharacter character) :
    isWhitespace character = false := by
  unfold isIdCharacter at allowed
  rw [decide_eq_true_eq, isAlphanum_iff] at allowed
  rcases allowed with alphanumeric | rfl | rfl
  · simp only [isWhitespace, Bool.or_eq_false_iff, Bool.and_eq_false_iff, decide_eq_false_iff_not]
    omega
  · decide
  · decide

private theorem isAlphanum_toLower {character : Char} (alphanumeric : character.isAlphanum) :
    character.toLower.isAlphanum := by
  unfold Char.toLower
  split
  · next upper =>
      have low := UInt32.le_iff_toNat_le.mp upper.1
      have high := UInt32.le_iff_toNat_le.mp upper.2
      have shifted : (character.val + 32).toNat = character.val.toNat + 32 := by
        rw [UInt32.toNat_add]
        simp at low high ⊢
        omega
      rw [isAlphanum_iff]
      right
      left
      change 97 ≤ (character.val + 32).toNat ∧ (character.val + 32).toNat ≤ 122
      rw [shifted, Char.toNat_val]
      simp at low high
      omega
  · exact alphanumeric

namespace LocalId

variable {id : String}

theorem trim_eq (valid : LocalId id) : trim id = id := by
  rw [trim_eq_self_iff]
  constructor
  · intro character first
    exact isIdCharacter_bare (valid.characters character (List.mem_of_head? first))
  · intro character last
    exact isIdCharacter_bare (valid.characters character (List.mem_of_getLast? last))

private theorem notMem (valid : LocalId id) {character : Char}
    (excluded : isIdCharacter character = false) : character ∉ id.toList := by
  intro membership
  have allowed := valid.characters character membership
  rw [excluded] at allowed
  cases allowed

/-- A local service id names an entry of the directory it is joined to. -/
theorem plain (valid : LocalId id) : Path.Plain id := by
  have noDot := @notMem id valid '.' (by decide)
  constructor
  · exact valid.nonempty
  · intro same
    rw [same] at noDot
    exact noDot (by decide)
  · intro same
    rw [same] at noDot
    exact noDot (by decide)
  · exact valid.notMem (by decide)

end LocalId

theorem normalizeLocalServiceId_eq_ok {value fieldName id : String} :
    normalizeLocalServiceId value fieldName = .ok id ↔ trim value = id ∧ LocalId id := by
  unfold normalizeLocalServiceId
  rw [guard_eq_ok, guard_eq_ok, Except.ok.injEq, not_not, List.all_eq_true]
  constructor
  · intro accepted
    obtain ⟨nonempty, characters, rfl⟩ := accepted
    exact ⟨rfl, nonempty, characters⟩
  · intro accepted
    obtain ⟨rfl, valid⟩ := accepted
    exact ⟨valid.nonempty, valid.characters, rfl⟩

theorem normalizeLocalServiceId_of_localId {id fieldName : String} (valid : LocalId id) :
    normalizeLocalServiceId id fieldName = .ok id :=
  normalizeLocalServiceId_eq_ok.mpr ⟨valid.trim_eq, valid⟩

theorem localId_candidateId (ulid : Ulid) : LocalId (candidateId ulid) := by
  constructor
  · simp [candidateId, toString]
  · intro character membership
    have shape : character ∈ ['s', 'v', 'c', '_'] ∨
        ∃ letter ∈ ulid.text.toList, letter.toLower = character := by
      simpa [candidateId, toString, toAsciiLowercase, or_assoc] using membership
    rcases shape with fixed | drawn
    · simp only [List.mem_cons, List.not_mem_nil, or_false] at fixed
      rcases fixed with rfl | rfl | rfl | rfl
      · decide
      · decide
      · decide
      · decide
    · obtain ⟨letter, inText, rfl⟩ := drawn
      have alphanumeric := List.all_eq_true.mp ulid.alphanumeric letter inText
      simp [isIdCharacter, isAlphanum_toLower alphanumeric]

/-! ## Places of the services directory -/

/-- The services directory of a fungi home, as a place. -/
def servicesPlace (fungiHome : String) : List Name := Path.names fungiHome ++ ["services".toList]

/-- A file of a service's directory, as a place. -/
def entryPlace (fungiHome entry fileName : String) : List Name :=
  servicesPlace fungiHome ++ [entry.toList, fileName.toList]

section Places

variable {fungiHome entry : String} (direct : Path.Direct fungiHome)

include direct

theorem resolve_servicesRoot :
    Path.resolve (Path.join fungiHome "services") = servicesPlace fungiHome := by
  rw [Path.resolve_join_plain (by decide), Path.resolve_of_direct direct]
  rfl

theorem resolve_entryDir (plain : Path.Plain entry) :
    Path.resolve (Path.join (Path.join fungiHome "services") entry) =
      servicesPlace fungiHome ++ [entry.toList] := by
  rw [Path.resolve_join_plain plain, resolve_servicesRoot direct]

theorem resolve_entryFile (plain : Path.Plain entry) (fileName : String)
    (file : Path.Plain fileName) :
    Path.resolve (Path.join (Path.join (Path.join fungiHome "services") entry) fileName) =
      entryPlace fungiHome entry fileName := by
  rw [Path.resolve_join_plain file, resolve_entryDir direct plain, entryPlace,
    List.append_assoc]
  rfl

theorem mem_ancestors_entryDir (plain : Path.Plain entry) {place : List Name} :
    place ∈ Path.ancestors (Path.join (Path.join fungiHome "services") entry) ↔
      place <+: servicesPlace fungiHome ++ [entry.toList] := by
  rw [Path.mem_ancestors_of_direct (Path.direct_join (Path.direct_join direct (by decide)) plain),
    resolve_entryDir direct plain]

end Places

theorem names_fungiHomeOf (fungiHome : String) :
    Path.names (fungiHomeOf (Path.join fungiHome "services")) = Path.names fungiHome := by
  obtain ⟨above, parent, same⟩ :=
    @Path.names_parent_join fungiHome "services" (by decide)
  rw [fungiHomeOf, parent]
  exact same

/-! ## Reading an entry -/

section Reading

variable {platform : Platform} {files files' : FileSystem} {servicesRoot fungiHome entry : String}
  {answers rest : List UInt16} {record : PersistedService}

theorem withContext_eq_ok {Value : Type} {context : String} {outcome : Except Error Value}
    {value : Value} : withContext context outcome = .ok value ↔ outcome = .ok value := by
  cases outcome with
  | ok _ => exact Iff.rfl
  | error _ =>
      constructor
      · intro impossible
        cases impossible
      · intro impossible
        cases impossible

/-- The manifest file of an entry. -/
def manifestPathOf (servicesRoot entry : String) : String :=
  Path.join (Path.join servicesRoot entry) "service.yaml"

/-- The state file of an entry. -/
def statePathOf (servicesRoot entry : String) : String :=
  Path.join (Path.join servicesRoot entry) "state.json"

private theorem pathExists_of_readToString {path text : String}
    (found : files.readToString path = some text) : files.pathExists path := by
  unfold FileSystem.readToString at found
  unfold FileSystem.pathExists
  split at found
  · next shape => simp [shape]
  · cases found

theorem loadEntry_eq_ok_some :
    loadEntry platform files servicesRoot entry answers = .ok (some record, rest) ↔
      files.isDir (Path.join servicesRoot entry) ∧ ∃ text stateFile manifest,
        files.readToString (manifestPathOf servicesRoot entry) = some text ∧
        loadServiceStateFile platform files (statePathOf servicesRoot entry) entry =
          .ok stateFile ∧
        parseManagedServiceManifestYaml platform.yaml text (Path.join servicesRoot entry)
          (pathsOf platform servicesRoot) stateFile.localServiceId answers =
            .ok (manifest, rest) ∧
        record = { localServiceId := stateFile.localServiceId, manifest,
                   desiredState := stateFile.desiredState } := by
  unfold loadEntry
  dsimp only
  constructor
  · intro loaded
    split at loaded
    · cases loaded
    · next directory =>
        split at loaded
        · cases loaded
        · split at loaded
          · cases loaded
          · next text found =>
              simp only [bind_eq_ok, withContext_eq_ok, pure_eq_ok, Prod.exists, Prod.mk.injEq,
                Option.some.injEq] at loaded
              obtain ⟨stateFile, state, manifest, _, parsed, same, rfl⟩ := loaded
              exact ⟨not_not.mp directory, text, stateFile, manifest, found, state, parsed,
                same.symm⟩
  · intro reads
    obtain ⟨directory, text, stateFile, manifest, found, state, parsed, rfl⟩ := reads
    have existing := pathExists_of_readToString found
    unfold manifestPathOf at found existing
    unfold statePathOf at state
    rw [if_neg (not_not.mpr directory), if_neg (not_not.mpr existing), found]
    simp only [bind_eq_ok, withContext_eq_ok, pure_eq_ok, Prod.exists]
    exact ⟨stateFile, state, manifest, rest, parsed, rfl⟩

/-- The entry holds no service. -/
def Skipped (files : FileSystem) (servicesRoot entry : String) : Prop :=
  ¬ files.isDir (Path.join servicesRoot entry) ∨
    ¬ files.pathExists (manifestPathOf servicesRoot entry)

theorem loadEntry_eq_ok_none :
    loadEntry platform files servicesRoot entry answers = .ok (none, rest) ↔
      Skipped files servicesRoot entry ∧ rest = answers := by
  have refused : (.ok (none, answers) : Except Error (Option PersistedService × _)) =
      .ok (none, rest) ↔
      rest = answers := by
    rw [Except.ok.injEq, Prod.mk.injEq, eq_comm (a := answers)]
    exact and_iff_right rfl
  unfold loadEntry Skipped manifestPathOf
  dsimp only
  split
  · next noDirectory => rw [refused, and_iff_right (Or.inl noDirectory)]
  · next directory =>
      split
      · next absent => rw [refused, and_iff_right (Or.inr absent)]
      · next existing =>
          constructor
          · intro loaded
            split at loaded
            · cases loaded
            · simp only [bind_eq_ok, pure_eq_ok, Prod.exists, Prod.mk.injEq] at loaded
              obtain ⟨_, _, _, _, _, impossible, _⟩ := loaded
              cases impossible
          · intro skipped
            rcases skipped.1 with noDirectory | absent
            · exact absurd noDirectory directory
            · exact absurd absent existing

/-- A written state file is read back. -/
theorem loadServiceStateFile_written {path localServiceId : String}
    {desiredState : DesiredServiceState} (valid : LocalId localServiceId)
    (written : files (Path.resolve path) = some (.file (platform.json.toStringPretty
      { schemaVersion := serviceStateSchemaVersion, localServiceId, desiredState }))) :
    loadServiceStateFile platform files path localServiceId =
      .ok { schemaVersion := serviceStateSchemaVersion, localServiceId, desiredState } := by
  have existing : files.pathExists path := by
    rw [FileSystem.pathExists, written]
    rfl
  have content : files.readToString path = some (platform.json.toStringPretty
      { schemaVersion := serviceStateSchemaVersion, localServiceId, desiredState }) := by
    rw [FileSystem.readToString, written]
  have normalized := fun fieldName =>
    @normalizeLocalServiceId_of_localId localServiceId fieldName valid
  unfold loadServiceStateFile
  rw [normalized, ok_bind, if_neg (not_not.mpr existing), content]
  dsimp only
  rw [platform.json.fromStr_toStringPretty]
  dsimp only
  rw [if_neg (not_not.mpr rfl), normalized, ok_bind, if_neg (not_not.mpr rfl)]
  rfl

theorem loadServiceStateFile_eq_ok {path : String} {stateFile : ServiceStateFile}
    (loaded : loadServiceStateFile platform files path entry = .ok stateFile) :
    stateFile.localServiceId = trim entry ∧ LocalId (trim entry) ∧
      stateFile.schemaVersion = serviceStateSchemaVersion := by
  unfold loadServiceStateFile at loaded
  rw [bind_eq_ok] at loaded
  obtain ⟨id, normalized, loaded⟩ := loaded
  obtain ⟨rfl, valid⟩ := normalizeLocalServiceId_eq_ok.mp normalized
  split at loaded
  · rw [pure_eq_ok] at loaded
    rw [← loaded]
    exact ⟨rfl, valid, rfl⟩
  · split at loaded
    · cases loaded
    · split at loaded
      · cases loaded
      · simp only [throw_guard_eq_ok, bind_eq_ok, pure_eq_ok, not_not] at loaded
        obtain ⟨version, id, -, same, rfl⟩ := loaded
        exact ⟨same, valid, version⟩

/-- An entry is read from its own directory and the files in it. -/
theorem loadEntry_congr (direct : Path.Direct fungiHome) (plain : Path.Plain entry)
    (same : ∀ below, files' (servicesPlace fungiHome ++ entry.toList :: below) =
      files (servicesPlace fungiHome ++ entry.toList :: below)) :
    loadEntry platform files' (Path.join fungiHome "services") entry answers =
      loadEntry platform files (Path.join fungiHome "services") entry answers := by
  have directory : files'.isDir (Path.join (Path.join fungiHome "services") entry) =
      files.isDir (Path.join (Path.join fungiHome "services") entry) := by
    rw [FileSystem.isDir, FileSystem.isDir, resolve_entryDir direct plain, same]
  have existing : ∀ fileName, Path.Plain fileName →
      files'.pathExists (Path.join (Path.join (Path.join fungiHome "services") entry) fileName) =
        files.pathExists
          (Path.join (Path.join (Path.join fungiHome "services") entry) fileName) := by
    intro fileName file
    rw [FileSystem.pathExists, FileSystem.pathExists, resolve_entryFile direct plain fileName file,
      entryPlace, same]
  have content : ∀ fileName, Path.Plain fileName →
      files'.readToString (Path.join (Path.join (Path.join fungiHome "services") entry) fileName) =
        files.readToString
          (Path.join (Path.join (Path.join fungiHome "services") entry) fileName) := by
    intro fileName file
    rw [FileSystem.readToString, FileSystem.readToString,
      resolve_entryFile direct plain fileName file, entryPlace, same]
  unfold loadEntry loadServiceStateFile
  dsimp only
  rw [directory, existing "service.yaml" (by decide), existing "state.json" (by decide),
    content "service.yaml" (by decide), content "state.json" (by decide)]

theorem loadServiceStateFile_congr {path : String}
    (same : files' (Path.resolve path) = files (Path.resolve path)) :
    loadServiceStateFile platform files' path entry =
      loadServiceStateFile platform files path entry := by
  have existing : files'.pathExists path = files.pathExists path := by
    rw [FileSystem.pathExists, FileSystem.pathExists, same]
  have content : files'.readToString path = files.readToString path := by
    rw [FileSystem.readToString, FileSystem.readToString, same]
  unfold loadServiceStateFile
  rw [existing, content]

/-- A manifest that does not run in Docker takes no automatic port, so every restart
parses it alike. -/
theorem parseManagedServiceManifestYaml_fixed {yaml : SerdeYaml}
    {text baseDir localServiceId : String} {paths : FungiPaths} {manifest : ServiceManifest}
    (parsed : parseManagedServiceManifestYaml yaml text baseDir paths localServiceId answers =
      .ok (manifest, rest)) (fixed : manifest.runtime ≠ .docker) (answers' : List UInt16) :
    parseManagedServiceManifestYaml yaml text baseDir paths localServiceId answers' =
      .ok (manifest, answers') := by
  unfold parseManagedServiceManifestYaml parseServiceManifestYamlForServicePaths at parsed ⊢
  rw [bind_eq_ok] at parsed ⊢
  obtain ⟨document, required, parsed⟩ := parsed
  refine ⟨document, required, ?_⟩
  rw [FungiServiceDocument.intoServiceManifest_eq_ok] at parsed ⊢
  obtain ⟨header, run, ports, reserved, expose, parsedRun, parsedPorts, parsedExpose, rfl⟩ := parsed
  obtain ⟨entriesOk, distinct, free, rfl, -⟩ :=
    (parseFungiPublishEntries_fixed_eq_ok fixed).mp parsedPorts
  exact ⟨header, run, _, _, expose, parsedRun,
    (parseFungiPublishEntries_fixed_eq_ok fixed).mpr ⟨entriesOk, distinct, free, rfl, rfl⟩,
    parsedExpose, rfl⟩

end Reading

/-! ## Reading all entries -/

/-- The two maps of a store describe the same services. -/
structure ServiceStateStore.Indexed (store : ServiceStateStore) : Prop where
  ids : ∀ (id : String) record, store.state[id]? = some record → record.localServiceId = id
  names : ∀ (name id : String), store.nameIndex[name]? = some id ↔
    ∃ record, store.state[id]? = some record ∧ record.manifest.name = name

namespace ServiceStateStore.Indexed

variable {store : ServiceStateStore}

theorem empty (servicesRoot : String) : (emptyStore servicesRoot).Indexed := by
  constructor
  · intro id record found
    simp [emptyStore] at found
  · intro name id
    simp [emptyStore]

/-- Services of one name are the same service. -/
theorem eq_of_name (indexed : store.Indexed) {id id' : String} {record record' : PersistedService}
    (found : store.state[id]? = some record) (found' : store.state[id']? = some record')
    (same : record.manifest.name = record'.manifest.name) : id = id' := by
  have first := (indexed.names _ _).mpr ⟨record, found, same⟩
  have second := (indexed.names _ _).mpr ⟨record', found', rfl⟩
  rw [first, Option.some.injEq] at second
  exact second

/-- A store is determined by its services. -/
theorem eq_of_state {store' : ServiceStateStore} (indexed : store.Indexed)
    (indexed' : store'.Indexed) (root : store.servicesRoot = store'.servicesRoot)
    (state : ∀ id : String, store.state[id]? = store'.state[id]?) : store = store' := by
  have sameState : store.state = store'.state := Std.ExtTreeMap.ext_getElem? fun {id} => state id
  have sameIndex : store.nameIndex = store'.nameIndex := by
    apply Std.ExtTreeMap.ext_getElem?
    intro name
    apply Option.ext
    intro id
    rw [indexed.names, indexed'.names, sameState]
  cases store
  cases store'
  dsimp only at root sameState sameIndex
  rw [root, sameState, sameIndex]

/-- Insert a service whose name is new or its own. -/
theorem insert (indexed : store.Indexed) (record : PersistedService)
    (own : ∀ existing, store.nameIndex[record.manifest.name]? = some existing →
      existing = record.localServiceId)
    (renamed : ∀ existing, store.state[record.localServiceId]? = some existing →
      existing.manifest.name = record.manifest.name) :
    ServiceStateStore.Indexed
      { store with
        state := store.state.insert record.localServiceId record
        nameIndex := store.nameIndex.insert record.manifest.name record.localServiceId } := by
  constructor
  · intro id found present
    rw [getElem?_insert] at present
    split at present
    · next same =>
        rw [Option.some.injEq] at present
        rw [← present, same]
    · exact indexed.ids id found present
  · intro name id
    dsimp only
    rw [getElem?_insert, getElem?_insert]
    by_cases sameId : record.localServiceId = id
    · subst sameId
      simp only [if_pos, Option.some.injEq, exists_eq_left']
      constructor
      · intro listed
        split at listed
        · next sameName => exact sameName
        · obtain ⟨existing, present, rfl⟩ := (indexed.names _ _).mp listed
          exact (renamed existing present).symm
      · intro sameName
        rw [if_pos sameName]
    · rw [if_neg sameId]
      constructor
      · intro listed
        split at listed
        · next sameName =>
            rw [Option.some.injEq] at listed
            exact absurd listed sameId
        · exact (indexed.names _ _).mp listed
      · intro present
        have listed := (indexed.names _ _).mpr present
        rw [if_neg]
        · exact listed
        · intro sameName
          rw [← sameName] at listed
          exact sameId (own id listed).symm

theorem erase (indexed : store.Indexed) {name id : String}
    (listed : store.nameIndex[name]? = some id) :
    ServiceStateStore.Indexed
      { store with state := store.state.erase id, nameIndex := store.nameIndex.erase name } := by
  obtain ⟨removed, present, rfl⟩ := (indexed.names _ _).mp listed
  constructor
  · intro other record found
    rw [getElem?_erase] at found
    split at found
    · cases found
    · exact indexed.ids other record found
  · intro otherName other
    dsimp only
    rw [getElem?_erase, getElem?_erase]
    by_cases sameId : id = other
    · subst sameId
      simp only [if_pos, reduceCtorEq, false_and, exists_false, iff_false]
      split
      · simp
      · next otherwise =>
          intro found
          obtain ⟨record, found, named⟩ := (indexed.names _ _).mp found
          rw [present, Option.some.injEq] at found
          rw [found] at otherwise
          exact otherwise named
    · rw [if_neg sameId]
      split
      · next sameName =>
          constructor
          · intro impossible
            cases impossible
          · intro found
            obtain ⟨record, found, named⟩ := found
            exact absurd (indexed.eq_of_name present found (sameName.trans named.symm)) sameId
      · exact indexed.names _ _

end ServiceStateStore.Indexed

section Loading

variable {platform : Platform} {files : FileSystem}

/-- The store after the loop has read one more service. -/
def ServiceStateStore.add (store : ServiceStateStore) (record : PersistedService) :
    ServiceStateStore :=
  { store with
    state := store.state.insert record.localServiceId record
    nameIndex := store.nameIndex.insert record.manifest.name record.localServiceId }

theorem loadEntries_cons_none {entry : String} {rest : List String} {store : ServiceStateStore}
    {answers answers' : List UInt16}
    (skipped : loadEntry platform files store.servicesRoot entry answers = .ok (none, answers')) :
    loadEntries platform files (entry :: rest) store answers =
      loadEntries platform files rest store answers' := by
  rw [loadEntries, skipped]
  rfl

theorem loadEntries_cons_some {entry : String} {rest : List String} {store : ServiceStateStore}
    {answers answers' : List UInt16} {record : PersistedService}
    (read : loadEntry platform files store.servicesRoot entry answers =
      .ok (some record, answers'))
    (newName : store.nameIndex[record.manifest.name]? = none)
    (newId : store.state[record.localServiceId]? = none) :
    loadEntries platform files (entry :: rest) store answers =
      loadEntries platform files rest (store.add record) answers' := by
  have absent : record.localServiceId ∉ store.state := by
    rw [Std.ExtTreeMap.mem_iff_isSome_getElem?, newId]
    simp
  rw [loadEntries, read, ok_bind]
  dsimp only
  rw [newName]
  dsimp only
  rw [if_neg absent]
  rfl

theorem loadEntries_congr {files' : FileSystem} {entries : List String}
    {store : ServiceStateStore} {answers : List UInt16}
    (same : ∀ entry ∈ entries, ∀ answers,
      loadEntry platform files' store.servicesRoot entry answers =
        loadEntry platform files store.servicesRoot entry answers) :
    loadEntries platform files' entries store answers =
      loadEntries platform files entries store answers := by
  induction entries generalizing store answers with
  | nil => rfl
  | cons entry rest inductionHypothesis =>
      have others : ∀ other ∈ rest, _ := fun other membership =>
        same other (List.mem_cons_of_mem _ membership)
      rw [loadEntries, loadEntries, same entry List.mem_cons_self]
      apply bind_congr
      intro result
      obtain ⟨read, answers⟩ := result
      cases read with
      | none => exact inductionHypothesis others
      | some record =>
          dsimp only
          split
          · rfl
          · split
            · rfl
            · exact inductionHypothesis others

/-- What the loop has read of an entry is what the caller expects of it. -/
structure Expected (holds : String → Option PersistedService → Prop) : Prop where
  ids : ∀ entry record, holds entry (some record) → record.localServiceId = entry
  names : ∀ entry record entry' record', holds entry (some record) →
    holds entry' (some record') → record.manifest.name = record'.manifest.name → entry = entry'

/-- When every entry can be read in turn, the loop succeeds and returns what was read.
`supply` says what the port answers must be good for. -/
theorem loadEntries_of_each {supply : Nat → List UInt16 → Prop} {cost : String → Nat}
    {holds : String → Option PersistedService → Prop} (expected : Expected holds)
    {entries : List String} {store : ServiceStateStore} {answers : List UInt16}
    (nodup : entries.Nodup)
    (each : ∀ entry ∈ entries, ∀ later answers, supply (cost entry + later) answers →
      ∃ result rest, loadEntry platform files store.servicesRoot entry answers =
          .ok (result, rest) ∧ holds entry result ∧ supply later rest)
    (supplied : supply (entries.map cost).sum answers) (indexed : store.Indexed)
    (fresh : ∀ entry ∈ entries, store.state[entry]? = none)
    (read : ∀ (id : String) record, store.state[id]? = some record → holds id (some record)) :
    ∃ final rest, loadEntries platform files entries store answers = .ok (final, rest) ∧
      final.servicesRoot = store.servicesRoot ∧ final.Indexed ∧
      (∀ entry ∈ entries, holds entry final.state[entry]?) ∧
      ∀ entry ∉ entries, final.state[entry]? = store.state[entry]? := by
  induction entries generalizing store answers with
  | nil => exact ⟨store, answers, rfl, rfl, indexed, by simp, fun _ _ => rfl⟩
  | cons entry others inductionHypothesis =>
      rw [List.nodup_cons] at nodup
      obtain ⟨result, rest, loaded, held, remaining⟩ :=
        each entry List.mem_cons_self _ answers supplied
      have eachOther : ∀ other ∈ others, _ := fun other membership =>
        each other (List.mem_cons_of_mem _ membership)
      cases result with
      | none =>
          obtain ⟨final, rest', succeeded, root, finalIndexed, holdsOthers, kept⟩ :=
            inductionHypothesis nodup.2 eachOther remaining indexed
              (fun other membership => fresh other (List.mem_cons_of_mem _ membership)) read
          refine ⟨final, rest', ?_, root, finalIndexed, ?_, ?_⟩
          · rw [loadEntries_cons_none loaded]
            exact succeeded
          · intro other membership
            rcases List.mem_cons.mp membership with rfl | later
            · rw [kept other nodup.1, fresh other List.mem_cons_self]
              exact held
            · exact holdsOthers other later
          · intro other elsewhere
            exact kept other (fun later => elsewhere (List.mem_cons_of_mem _ later))
      | some record =>
          have id : record.localServiceId = entry := expected.ids entry record held
          have newId : store.state[record.localServiceId]? = none := by
            rw [id]
            exact fresh entry List.mem_cons_self
          have newName : store.nameIndex[record.manifest.name]? = none := by
            cases listed : store.nameIndex[record.manifest.name]? with
            | none => rfl
            | some existing =>
                obtain ⟨other, present, sameName⟩ := (indexed.names _ _).mp listed
                have same := expected.names _ _ _ _ (read existing other present) held sameName
                rw [same, fresh entry List.mem_cons_self] at present
                cases present
          have addedIndexed : (store.add record).Indexed := by
            apply indexed.insert record
            · intro existing listed
              rw [newName] at listed
              cases listed
            · intro existing present
              rw [newId] at present
              cases present
          have lookup : ∀ other : String, (store.add record).state[other]? =
              if entry = other then some record else store.state[other]? := by
            intro other
            rw [← id]
            exact getElem?_insert
          obtain ⟨final, rest', succeeded, root, finalIndexed, holdsOthers, kept⟩ :=
            @inductionHypothesis (store.add record) rest nodup.2 eachOther remaining addedIndexed
              (by
                intro other membership
                rw [lookup, if_neg]
                · exact fresh other (List.mem_cons_of_mem _ membership)
                · intro same
                  exact nodup.1 (same ▸ membership))
              (by
                intro other found present
                rw [lookup] at present
                split at present
                · next same =>
                    rw [Option.some.injEq] at present
                    rw [← same, ← present]
                    exact held
                · exact read other found present)
          refine ⟨final, rest', ?_, root, finalIndexed, ?_, ?_⟩
          · rw [loadEntries_cons_some loaded newName newId]
            exact succeeded
          · intro other membership
            rcases List.mem_cons.mp membership with rfl | later
            · rw [kept other nodup.1, lookup, if_pos rfl]
              exact held
            · exact holdsOthers other later
          · intro other elsewhere
            rw [List.mem_cons, not_or] at elsewhere
            rw [kept other elsewhere.2, lookup, if_neg (Ne.symm elsewhere.1)]

/-- A successful load has read every entry, and every service it returns comes from an
entry. -/
theorem loadEntries_eq_ok {entries : List String} {store final : ServiceStateStore}
    {answers rest : List UInt16} (indexed : store.Indexed)
    (succeeded : loadEntries platform files entries store answers = .ok (final, rest)) :
    final.servicesRoot = store.servicesRoot ∧ final.Indexed ∧
      (∀ entry ∈ entries, ∃ before after result,
        loadEntry platform files store.servicesRoot entry before = .ok (result, after) ∧
          ∀ record, result = some record → final.state[record.localServiceId]? = some record) ∧
      (∀ (id : String) record, store.state[id]? = some record → final.state[id]? = some record) ∧
      ∀ (id : String) record, final.state[id]? = some record → store.state[id]? = some record ∨
        record.localServiceId = id ∧ ∃ entry ∈ entries, ∃ before after,
          loadEntry platform files store.servicesRoot entry before =
            .ok (some record, after) := by
  induction entries generalizing store answers with
  | nil =>
      cases succeeded
      exact ⟨rfl, indexed, by simp, fun _ _ present => present, fun _ _ present => Or.inl present⟩
  | cons entry others inductionHypothesis =>
      obtain ⟨⟨result, middle⟩, loaded, remaining⟩ := bind_eq_ok.mp succeeded
      cases result with
      | none =>
          obtain ⟨root, finalIndexed, read, kept, origin⟩ :=
            inductionHypothesis indexed remaining
          refine ⟨root, finalIndexed, ?_, kept, ?_⟩
          · intro other membership
            rcases List.mem_cons.mp membership with rfl | later
            · exact ⟨_, _, _, loaded, by simp⟩
            · exact read other later
          · intro id record present
            rcases origin id record present with earlier | later
            · exact Or.inl earlier
            · obtain ⟨same, other, membership, rest⟩ := later
              exact Or.inr ⟨same, other, List.mem_cons_of_mem _ membership, rest⟩
      | some record =>
          dsimp only at remaining
          split at remaining
          · cases remaining
          · next newName =>
              rw [throw_guard_eq_ok] at remaining
              obtain ⟨absent, remaining⟩ := remaining
              have newId : store.state[record.localServiceId]? = none := by
                rw [Std.ExtTreeMap.mem_iff_isSome_getElem?] at absent
                simpa using absent
              have lookup : ∀ other : String, (store.add record).state[other]? =
                  if record.localServiceId = other then some record else store.state[other]? := by
                intro other
                exact getElem?_insert
              have addedIndexed : (store.add record).Indexed := by
                apply indexed.insert record
                · intro existing listed
                  rw [newName] at listed
                  cases listed
                · intro existing present
                  rw [newId] at present
                  cases present
              obtain ⟨root, finalIndexed, read, kept, origin⟩ :=
                inductionHypothesis addedIndexed remaining
              refine ⟨root, finalIndexed, ?_, ?_, ?_⟩
              · intro other membership
                rcases List.mem_cons.mp membership with rfl | later
                · refine ⟨_, _, _, loaded, ?_⟩
                  intro found same
                  cases same
                  exact kept _ _ (by rw [lookup, if_pos rfl])
                · exact read other later
              · intro id found present
                apply kept
                rw [lookup, if_neg]
                · exact present
                · intro same
                  rw [same, present] at newId
                  cases newId
              · intro id found present
                rcases origin id found present with earlier | later
                · rw [lookup] at earlier
                  split at earlier
                  · next same =>
                      rw [Option.some.injEq] at earlier
                      refine Or.inr ⟨earlier ▸ same, entry, List.mem_cons_self, answers, middle, ?_⟩
                      rw [← earlier]
                      exact loaded
                  · exact Or.inl earlier
                · obtain ⟨same, other, membership, rest⟩ := later
                  exact Or.inr ⟨same, other, List.mem_cons_of_mem _ membership, rest⟩

end Loading

/-! ## Saving -/

section Saving

variable {platform : Platform} {fungiHome localServiceId : String} {host final : Host}
  {store : ServiceStateStore} {record : PersistedService}

/-- What the entries other than a service's own are read from. -/
def OtherEntries (fungiHome localServiceId : String) (place : List Name) : Prop :=
  ∃ entry below, entry ≠ localServiceId.toList ∧
    place = servicesPlace fungiHome ++ entry :: below

/-- What lies outside a service's own entry. -/
def OutsideEntry (fungiHome localServiceId : String) (place : List Name) : Prop :=
  ¬ servicesPlace fungiHome ++ [localServiceId.toList] <+: place

/-- What an operation on one service may change. -/
def entryFrame (fungiHome localServiceId : String) : Program.Frame Host :=
  filesFrame <|
    .leaving (OtherEntries fungiHome localServiceId) (OutsideEntry fungiHome localServiceId)

theorem names_serviceAppdataDir (valid : LocalId localServiceId)
    (root : store.servicesRoot = Path.join fungiHome "services") :
    Path.names (store.serviceAppdataDir platform localServiceId) =
      Path.names fungiHome ++ ["appdata".toList, "services".toList, localServiceId.toList] := by
  unfold ServiceStateStore.serviceAppdataDir pathsOf FungiPaths.serviceAppdataDir
    FungiPaths.serviceAppdataRoot FungiPaths.appdataRoot FungiPaths.fromFungiHomeForChannel
  rw [root, Path.names_join_plain valid.plain, @Path.names_join_plain _ "services" (by decide),
    @Path.names_join_plain _ "appdata" (by decide), names_fungiHomeOf]
  simp

theorem direct_serviceAppdataDir (direct : Path.Direct fungiHome) (valid : LocalId localServiceId)
    (root : store.servicesRoot = Path.join fungiHome "services") :
    Path.Direct (store.serviceAppdataDir platform localServiceId) := by
  unfold Path.Direct
  rw [names_serviceAppdataDir valid root, List.mem_append, not_or]
  refine ⟨direct, ?_⟩
  have notUp : localServiceId.toList ≠ ['.', '.'] := by
    intro same
    exact valid.plain.notDotDot (String.toList_inj.mp (by simpa using same))
  simp [notUp.symm]

variable (direct : Path.Direct fungiHome) (valid : LocalId localServiceId)
  (root : store.servicesRoot = Path.join fungiHome "services")

include direct valid root

theorem mem_ancestors_serviceDir {place : List Name} :
    place ∈ Path.ancestors (store.serviceDir localServiceId) ↔
      place <+: servicesPlace fungiHome ++ [localServiceId.toList] := by
  rw [ServiceStateStore.serviceDir, root]
  exact mem_ancestors_entryDir direct valid.plain

theorem mem_ancestors_serviceAppdataDir {place : List Name} :
    place ∈ Path.ancestors (store.serviceAppdataDir platform localServiceId) ↔
      place <+: Path.names fungiHome ++
        ["appdata".toList, "services".toList, localServiceId.toList] := by
  rw [Path.mem_ancestors_of_direct (direct_serviceAppdataDir direct valid root),
    Path.resolve_of_direct (direct_serviceAppdataDir direct valid root),
    names_serviceAppdataDir valid root]

theorem resolve_serviceFile (fileName : String) (file : Path.Plain fileName) :
    Path.resolve (Path.join (store.serviceDir localServiceId) fileName) =
      entryPlace fungiHome localServiceId fileName := by
  rw [ServiceStateStore.serviceDir, root]
  exact resolve_entryFile direct valid.plain fileName file

private theorem serviceDir_avoids {place : List Name}
    (touched : place ∈ Path.ancestors (store.serviceDir localServiceId)) :
    ¬ OtherEntries fungiHome localServiceId place := by
  rw [mem_ancestors_serviceDir direct valid root] at touched
  intro other
  obtain ⟨entry, below, different, rfl⟩ := other
  rw [List.prefix_append_right_inj, List.cons_prefix_cons] at touched
  exact different touched.1

theorem serviceAppdataDir_avoids {place : List Name}
    (touched : place ∈ Path.ancestors (store.serviceAppdataDir platform localServiceId))
    {below : List Name} : place ≠ servicesPlace fungiHome ++ below := by
  rw [mem_ancestors_serviceAppdataDir direct valid root] at touched
  intro same
  rw [same, servicesPlace, List.append_assoc, List.prefix_append_right_inj,
    List.singleton_append, List.cons_prefix_cons] at touched
  exact absurd touched.1 (by decide)

private theorem serviceFile_avoids {fileName : String} (file : Path.Plain fileName) :
    ¬ OtherEntries fungiHome localServiceId
        (Path.resolve (Path.join (store.serviceDir localServiceId) fileName)) ∧
      ¬ OutsideEntry fungiHome localServiceId
        (Path.resolve (Path.join (store.serviceDir localServiceId) fileName)) := by
  rw [resolve_serviceFile direct valid root _ file, entryPlace]
  constructor
  · intro other
    obtain ⟨entry, below, different, same⟩ := other
    rw [List.append_cancel_left_eq] at same
    injection same with same
    exact different same.symm
  · intro outside
    apply outside
    rw [List.prefix_append_right_inj, List.cons_prefix_cons]
    exact ⟨rfl, List.nil_prefix⟩

theorem createServiceDirs_within :
    Program.Within (entryFrame fungiHome localServiceId)
      (createServiceDirs platform store localServiceId) := by
  unfold createServiceDirs
  apply (createDirAll_within _).bind
  · intro _
    apply createDirAll_within
    intro place touched
    apply FileSystem.ChangeRule.leaving_made
    intro other
    obtain ⟨entry, below, -, same⟩ := other
    exact serviceAppdataDir_avoids direct valid root touched same
  · intro place touched
    exact FileSystem.ChangeRule.leaving_made (serviceDir_avoids direct valid root touched)

theorem writeServiceFiles_within :
    Program.Within (entryFrame fungiHome localServiceId)
      (writeServiceFiles platform store localServiceId record) := by
  have made : ∀ place ∈ Path.ancestors (store.serviceDir localServiceId),
      (FileSystem.ChangeRule.leaving (OtherEntries fungiHome localServiceId)
        (OutsideEntry fungiHome localServiceId)).Allows place none (some .directory) := by
    intro place touched
    exact FileSystem.ChangeRule.leaving_made (serviceDir_avoids direct valid root touched)
  unfold writeServiceFiles
  apply (Program.within_ofExcept _).bind
  intro text
  apply (atomicWrite_within (by decide) made _).bind
  · intro _
    apply atomicWrite_within (by decide) made
    intro node content
    exact FileSystem.ChangeRule.leaving_changed
      (serviceFile_avoids direct valid root (by decide)) _ _
  · intro node content
    exact FileSystem.ChangeRule.leaving_changed
      (serviceFile_avoids direct valid root (by decide)) _ _

/-- The files a saved service leaves in its directory. -/
structure EntryFiles (platform : Platform) (files : FileSystem) (fungiHome localServiceId : String)
    (text : String) (desiredState : DesiredServiceState) : Prop where
  directory : files (servicesPlace fungiHome ++ [localServiceId.toList]) = some .directory
  manifest : files (entryPlace fungiHome localServiceId "service.yaml") = some (.file text)
  state : files (entryPlace fungiHome localServiceId "state.json") =
    some (.file (platform.json.toStringPretty
      { schemaVersion := serviceStateSchemaVersion, localServiceId, desiredState }))

theorem createServiceDirs_eq_ok
    (created : createServiceDirs platform store localServiceId host = (.ok (), final)) :
    final.files (servicesPlace fungiHome ++ [localServiceId.toList]) = some .directory := by
  unfold createServiceDirs at created
  obtain ⟨_, made, first, second⟩ := (Program.bind_eq_ok _).mp created
  have there := (createDirAll_eq_ok first).2 (servicesPlace fungiHome ++ [localServiceId.toList])
    ((mem_ancestors_serviceDir direct valid root).mpr List.prefix_rfl)
  rw [(createDirAll_eq_ok second).1]
  dsimp only
  rw [FileSystem.makeDirs_of_isSome, there]
  rw [there]
  simp

theorem writeServiceFiles_eq_ok
    (directory : host.files (servicesPlace fungiHome ++ [localServiceId.toList]) =
      some .directory)
    (written : writeServiceFiles platform store localServiceId record host = (.ok (), final)) :
    ∃ text, serviceManifestToYaml platform.yaml record.manifest = .ok text ∧
      EntryFiles platform final.files fungiHome localServiceId text record.desiredState := by
  unfold writeServiceFiles at written
  obtain ⟨text, _, first, written⟩ := (Program.bind_eq_ok _).mp written
  obtain ⟨_, middle, manifestWritten, stateWritten⟩ := (Program.bind_eq_ok _).mp written
  have manifestFile := resolve_serviceFile direct valid root "service.yaml" (by decide)
  have stateFile := resolve_serviceFile direct valid root "state.json" (by decide)
  have different : entryPlace fungiHome localServiceId "service.yaml" ≠
      entryPlace fungiHome localServiceId "state.json" := by simp [entryPlace]
  have directoryOther : ∀ fileName : String,
      servicesPlace fungiHome ++ [localServiceId.toList] ≠
        entryPlace fungiHome localServiceId fileName := by simp [entryPlace]
  obtain ⟨encoding, rfl⟩ := (Program.ofExcept_eq_ok _).mp first
  have afterManifest := atomicWrite_eq_ok (by decide) manifestWritten
  have afterState := atomicWrite_eq_ok (by decide) stateWritten
  rw [manifestFile] at afterManifest
  rw [stateFile] at afterState
  have middleDirectory : middle.files (servicesPlace fungiHome ++ [localServiceId.toList]) =
      some .directory := by
    rw [afterManifest]
    dsimp only
    rw [if_neg (directoryOther _), FileSystem.makeDirs_of_isSome, directory]
    rw [directory]
    simp
  have middleManifest : middle.files (entryPlace fungiHome localServiceId "service.yaml") =
      some (.file text) := by
    rw [afterManifest]
    exact if_pos rfl
  refine ⟨text, encoding, ?_, ?_, ?_⟩
  · rw [afterState]
    dsimp only
    rw [if_neg (directoryOther _), FileSystem.makeDirs_of_isSome, middleDirectory]
    rw [middleDirectory]
    simp
  · rw [afterState]
    dsimp only
    rw [if_neg different, FileSystem.makeDirs_of_isSome, middleManifest]
    rw [middleManifest]
    simp
  · rw [afterState]
    exact if_pos rfl

/-- Nothing is in the way of saving a service. -/
structure Unobstructed (platform : Platform) (store : ServiceStateStore) (localServiceId : String)
    (files : FileSystem) : Prop where
  serviceDir : ∀ place ∈ Path.ancestors (store.serviceDir localServiceId), ∀ content,
    files place ≠ some (.file content)
  appdataDir : ∀ place ∈ Path.ancestors (store.serviceAppdataDir platform localServiceId),
    ∀ content, files place ≠ some (.file content)
  manifest : files (Path.resolve (Path.join (store.serviceDir localServiceId) "service.yaml")) ≠
    some .directory
  state : files (Path.resolve (Path.join (store.serviceDir localServiceId) "state.json")) ≠
    some .directory

omit direct valid root in
theorem Unobstructed.congr {store' : ServiceStateStore} {files : FileSystem}
    (clear : Unobstructed platform store localServiceId files)
    (same : store'.servicesRoot = store.servicesRoot) :
    Unobstructed platform store' localServiceId files := by
  have dir : store'.serviceDir localServiceId = store.serviceDir localServiceId := by
    rw [ServiceStateStore.serviceDir, same]
    rfl
  have appdata : store'.serviceAppdataDir platform localServiceId =
      store.serviceAppdataDir platform localServiceId := by
    rw [ServiceStateStore.serviceAppdataDir, same]
    rfl
  constructor
  · rw [dir]
    exact clear.serviceDir
  · rw [appdata]
    exact clear.appdataDir
  · rw [dir]
    exact clear.manifest
  · rw [dir]
    exact clear.state

theorem serviceFile_notMem_serviceDir (fileName : String) :
    entryPlace fungiHome localServiceId fileName ∉
      Path.ancestors (store.serviceDir localServiceId) := by
  rw [mem_ancestors_serviceDir direct valid root, entryPlace]
  intro shorter
  have bound := shorter.length_le
  simp at bound

/-- The two files can be written once their directory is there. -/
private theorem writeServiceFiles_of_calm {text : String}
    (encoded : serviceManifestToYaml platform.yaml record.manifest = .ok text)
    (free : ∀ place ∈ Path.ancestors (store.serviceDir localServiceId), ∀ content,
      host.files place ≠ some (.file content))
    (manifestFree : host.files (entryPlace fungiHome localServiceId "service.yaml") ≠
      some .directory)
    (stateFree : host.files (entryPlace fungiHome localServiceId "state.json") ≠ some .directory)
    (calm : host.Calm 10) :
    ∃ final, writeServiceFiles platform store localServiceId record host = (.ok (), final) := by
  have manifestFile := resolve_serviceFile direct valid root "service.yaml" (by decide)
  have stateFile := resolve_serviceFile direct valid root "state.json" (by decide)
  have directory : Path.Direct (store.serviceDir localServiceId) := by
    rw [ServiceStateStore.serviceDir, root]
    exact Path.direct_join (Path.direct_join direct (by decide)) valid.plain
  obtain ⟨middle, first, calm⟩ := @atomicWrite_of_calm host text _ "service.yaml" (by decide)
    directory 5 calm free (by rw [manifestFile]; exact manifestFree)
  have afterFirst := atomicWrite_eq_ok (by decide) first
  rw [manifestFile] at afterFirst
  have stillFree : ∀ place ∈ Path.ancestors (store.serviceDir localServiceId), ∀ content,
      middle.files place ≠ some (.file content) := by
    intro place touched content
    rw [afterFirst]
    dsimp only
    rw [if_neg]
    · exact FileSystem.makeDirs_ne_file (free place touched content)
    · intro same
      exact serviceFile_notMem_serviceDir direct valid root _ (same ▸ touched)
  have stateStillFree : middle.files (entryPlace fungiHome localServiceId "state.json") ≠
      some .directory := by
    rw [afterFirst]
    dsimp only
    rw [if_neg (by simp [entryPlace]), FileSystem.makeDirs_of_notMem
      (serviceFile_notMem_serviceDir direct valid root _)]
    exact stateFree
  obtain ⟨final, second, -⟩ := @atomicWrite_of_calm middle (platform.json.toStringPretty
      { schemaVersion := serviceStateSchemaVersion, localServiceId,
        desiredState := record.desiredState }) _ "state.json" (by decide) directory 0 calm
    stillFree (by rw [stateFile]; exact stateStillFree)
  refine ⟨final, ?_⟩
  unfold writeServiceFiles
  rw [Program.bind_of_ok ((Program.ofExcept_eq_ok _).mpr ⟨encoded, rfl⟩), Program.bind_of_ok first]
  exact second

omit direct valid root in
theorem createServiceDirs_of_calm (clear : Unobstructed platform store localServiceId host.files)
    (calm : host.Calm 12) :
    ∃ final, createServiceDirs platform store localServiceId host = (.ok (), final) ∧
      final.Calm 10 ∧ final.files =
        (host.files.makeDirs (Path.ancestors (store.serviceDir localServiceId))).makeDirs
          (Path.ancestors (store.serviceAppdataDir platform localServiceId)) := by
  obtain ⟨middle, first, calm⟩ := @createDirAll_of_calm _ _
    "Failed to create managed service directory" _ calm clear.serviceDir
  have afterFirst := (createDirAll_eq_ok first).1
  obtain ⟨final, second, calm⟩ := @createDirAll_of_calm middle
    (store.serviceAppdataDir platform localServiceId)
    "Failed to create service appdata directory" 10 calm (by
      intro place touched content
      rw [afterFirst]
      exact FileSystem.makeDirs_ne_file (clear.appdataDir place touched content))
  refine ⟨final, ?_, calm, ?_⟩
  · unfold createServiceDirs
    rw [Program.bind_of_ok first]
    exact second
  · rw [(createDirAll_eq_ok second).1, afterFirst]

omit root

/-- A saved service is read back with whatever manifest its text parses to. -/
theorem EntryFiles.loadEntry {files : FileSystem} {text : String}
    {desiredState : DesiredServiceState} {manifest : ServiceManifest}
    {answers rest : List UInt16}
    (saved : EntryFiles platform files fungiHome localServiceId text desiredState)
    (parsed : parseManagedServiceManifestYaml platform.yaml text
      (Path.join (Path.join fungiHome "services") localServiceId)
      (pathsOf platform (Path.join fungiHome "services")) localServiceId answers =
        .ok (manifest, rest)) :
    Runtime.loadEntry platform files (Path.join fungiHome "services") localServiceId answers =
      .ok (some { localServiceId, manifest, desiredState }, rest) := by
  have manifestFile := resolve_entryFile direct valid.plain "service.yaml" (by decide)
  rw [loadEntry_eq_ok_some]
  refine ⟨?_, text, { schemaVersion := serviceStateSchemaVersion, localServiceId, desiredState },
    manifest, ?_, ?_, parsed, rfl⟩
  · rw [FileSystem.isDir, resolve_entryDir direct valid.plain, saved.directory]
    decide
  · rw [FileSystem.readToString, manifestPathOf, manifestFile, saved.manifest]
  · apply loadServiceStateFile_written valid
    rw [statePathOf, resolve_entryFile direct valid.plain "state.json" (by decide)]
    exact saved.state

end Saving

section SaveService

variable {platform : Platform} {fungiHome localServiceId : String} {host final : Host}
  {record : PersistedService} (direct : Path.Direct fungiHome) (valid : LocalId localServiceId)
  (root : host.serviceState.servicesRoot = Path.join fungiHome "services")

include direct valid root

/-- Saving a service touches none of the other entries and only files. -/
theorem saveService_within (platform : Platform) :
    (entryFrame fungiHome localServiceId).Allows host
      (saveService platform localServiceId host).2 := by
  unfold saveService
  rw [Program.bind_of_ok (Program.gets_apply _ _)]
  cases host.serviceState.state[localServiceId]? with
  | none => exact Program.within_fail _ host
  | some record =>
      apply (createServiceDirs_within direct valid root).bind
      intro _
      exact writeServiceFiles_within direct valid root

theorem saveService_eq_ok (found : host.serviceState.state[localServiceId]? = some record)
    (saved : saveService platform localServiceId host = (.ok (), final)) :
    ∃ text, serviceManifestToYaml platform.yaml record.manifest = .ok text ∧
      EntryFiles platform final.files fungiHome localServiceId text record.desiredState := by
  unfold saveService at saved
  rw [Program.bind_of_ok (Program.gets_apply _ _), found] at saved
  obtain ⟨_, made, created, written⟩ := (Program.bind_eq_ok _).mp saved
  exact writeServiceFiles_eq_ok direct valid root
    (createServiceDirs_eq_ok direct valid root created) written

/-- Saving succeeds when the manifest can be encoded, nothing is in the way and no fault
strikes. -/
theorem saveService_of_calm (found : host.serviceState.state[localServiceId]? = some record)
    {text : String} (encoded : serviceManifestToYaml platform.yaml record.manifest = .ok text)
    (clear : Unobstructed platform host.serviceState localServiceId host.files)
    (calm : host.Calm 12) :
    ∃ final, saveService platform localServiceId host = (.ok (), final) := by
  obtain ⟨made, created, calm, files⟩ := createServiceDirs_of_calm clear calm
  have manifestFile := resolve_serviceFile direct valid root "service.yaml" (by decide)
  have stateFile := resolve_serviceFile direct valid root "state.json" (by decide)
  have untouched : ∀ fileName, made.files (entryPlace fungiHome localServiceId fileName) =
      host.files (entryPlace fungiHome localServiceId fileName) := by
    intro fileName
    rw [files, FileSystem.makeDirs_of_notMem, FileSystem.makeDirs_of_notMem
      (serviceFile_notMem_serviceDir direct valid root _)]
    intro touched
    exact serviceAppdataDir_avoids direct valid root touched rfl
  obtain ⟨final, written⟩ := @writeServiceFiles_of_calm platform fungiHome localServiceId made
    host.serviceState record direct valid root text encoded
    (by
      intro place touched content
      rw [files]
      exact FileSystem.makeDirs_ne_file
        (FileSystem.makeDirs_ne_file (clear.serviceDir place touched content)))
    (by
      rw [untouched, ← manifestFile]
      exact clear.manifest)
    (by
      rw [untouched, ← stateFile]
      exact clear.state) calm
  refine ⟨final, ?_⟩
  unfold saveService
  rw [Program.bind_of_ok (Program.gets_apply _ _), found]
  dsimp only
  rw [Program.bind_of_ok created]
  exact written

end SaveService

/-! ## Choosing local service ids -/

/-- Only ULIDs are drawn. -/
def ulidFrame : Program.Frame Host where
  Allows before after := after = { before with ulids := after.ulids }
  refl _ := rfl
  trans before after := by rw [after, before]

section Ids

variable {host after : Host} {store : ServiceStateStore} {serviceName id : String}

theorem generateUniqueLocalServiceId_within (store : ServiceStateStore) (attempts : Nat) :
    Program.Within ulidFrame (generateUniqueLocalServiceId store attempts) := by
  induction attempts with
  | zero => exact Program.within_fail _
  | succ attempts inductionHypothesis =>
      have drawn : Program.Within ulidFrame newUlid := fun _ => rfl
      exact drawn.bind fun _ => Program.Within.ite inductionHypothesis (Program.within_pure _)

theorem generateUniqueLocalServiceId_eq_ok {attempts : Nat}
    (generated : generateUniqueLocalServiceId store attempts host = (.ok id, after)) :
    LocalId id ∧ store.state[id]? = none := by
  induction attempts generalizing host with
  | zero => cases generated
  | succ attempts inductionHypothesis =>
      unfold generateUniqueLocalServiceId at generated
      obtain ⟨ulid, drawn, -, generated⟩ := (Program.bind_eq_ok _).mp generated
      split at generated
      · exact inductionHypothesis generated
      · next absent =>
          cases generated
          rw [Std.ExtTreeMap.mem_iff_isSome_getElem?] at absent
          exact ⟨localId_candidateId ulid, by simpa using absent⟩

theorem previewLocalServiceId_within (serviceName : String) :
    Program.Within ulidFrame (previewLocalServiceId serviceName) := by
  unfold previewLocalServiceId
  apply (Program.within_gets _).bind
  intro store
  cases store.nameIndex[serviceName]? with
  | some existing => exact Program.within_pure _
  | none => exact generateUniqueLocalServiceId_within store 16

theorem resolveUpsertLocalServiceId_within (serviceName : String) (requested : Option String) :
    Program.Within ulidFrame (resolveUpsertLocalServiceId serviceName requested) := by
  unfold resolveUpsertLocalServiceId
  apply (Program.within_gets _).bind
  intro store
  apply (Program.within_ofExcept _).bind
  intro requested
  cases store.nameIndex[serviceName]? with
  | some existing =>
      cases requested with
      | some requested => exact Program.Within.ite (Program.within_fail _) (Program.within_pure _)
      | none => exact Program.within_pure _
  | none =>
      cases requested with
      | some requested =>
          dsimp only
          cases store.state[requested]? with
          | none => exact Program.within_pure _
          | some service =>
              exact Program.Within.ite (Program.within_fail _) (Program.within_pure _)
      | none => exact generateUniqueLocalServiceId_within store 16

/-- An id a service of this name may be stored under. -/
structure Assignable (store : ServiceStateStore) (serviceName id : String) : Prop where
  valid : LocalId id
  own : ∀ existing, store.nameIndex[serviceName]? = some existing → existing = id
  renamed : ∀ record, store.state[id]? = some record → record.manifest.name = serviceName

theorem assignable_of_listed (indexed : store.Indexed)
    (ids : ∀ (id : String) record, store.state[id]? = some record → LocalId id)
    (listed : store.nameIndex[serviceName]? = some id) : Assignable store serviceName id := by
  obtain ⟨record, present, named⟩ := (indexed.names _ _).mp listed
  constructor
  · exact ids id record present
  · intro existing found
    rw [listed, Option.some.injEq] at found
    exact found.symm
  · intro other found
    rw [present, Option.some.injEq] at found
    rw [← found, named]

theorem assignable_of_fresh (valid : LocalId id) (absent : store.state[id]? = none)
    (unnamed : store.nameIndex[serviceName]? = none) : Assignable store serviceName id := by
  constructor
  · exact valid
  · intro existing found
    rw [unnamed] at found
    cases found
  · intro record found
    rw [absent] at found
    cases found

theorem resolveUpsertLocalServiceId_eq_ok {requested : Option String}
    (indexed : host.serviceState.Indexed)
    (ids : ∀ (id : String) record, host.serviceState.state[id]? = some record → LocalId id)
    (resolved : resolveUpsertLocalServiceId serviceName requested host = (.ok id, after)) :
    Assignable host.serviceState serviceName id := by
  unfold resolveUpsertLocalServiceId at resolved
  rw [Program.bind_of_ok (Program.gets_apply _ _)] at resolved
  obtain ⟨normalized, _, first, resolved⟩ := (Program.bind_eq_ok _).mp resolved
  obtain ⟨normal, rfl⟩ := (Program.ofExcept_eq_ok _).mp first
  cases listed : host.serviceState.nameIndex[serviceName]? with
  | some existing =>
      have assigned := assignable_of_listed indexed ids listed
      rw [listed] at resolved
      cases normalized with
      | none =>
          cases resolved
          exact assigned
      | some requestedId =>
          dsimp only at resolved
          split at resolved
          · cases resolved
          · cases resolved
            exact assigned
  | none =>
      rw [listed] at resolved
      cases normalized with
      | none =>
          have generated := generateUniqueLocalServiceId_eq_ok resolved
          exact assignable_of_fresh generated.1 generated.2 listed
      | some requestedId =>
          have valid : LocalId requestedId := by
            cases requested with
            | none => cases normal
            | some value =>
                dsimp only at normal
                cases outcome : normalizeLocalServiceId value "local_service_id" with
                | error failure =>
                    rw [outcome] at normal
                    cases normal
                | ok id =>
                    rw [outcome] at normal
                    cases normal
                    exact (normalizeLocalServiceId_eq_ok.mp outcome).2
          dsimp only at resolved
          cases present : host.serviceState.state[requestedId]? with
          | some service =>
              rw [present] at resolved
              dsimp only at resolved
              split at resolved
              · cases resolved
              · next named =>
                  cases resolved
                  constructor
                  · exact valid
                  · intro existing found
                    rw [listed] at found
                    cases found
                  · intro record found
                    rw [present, Option.some.injEq] at found
                    rw [← found]
                    exact not_not.mp named
          | none =>
              rw [present] at resolved
              cases resolved
              exact assignable_of_fresh valid present listed

end Ids

end Fungi.Runtime
