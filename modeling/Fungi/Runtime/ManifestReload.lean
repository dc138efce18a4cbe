import Fungi.Runtime.ManifestPaths

/-!
# Reading a written manifest back

A managed manifest is kept on disk as the document `service_manifest_to_yaml`
writes, and every restart parses that document again.  The manifest may come from
anywhere, so this file says for every manifest whether the parse succeeds and what
it returns.
-/

namespace Fungi.Runtime

open Fungi.Lib Fungi.Config

/-! ## The written text -/

section Text

variable {yaml : SerdeYaml} {manifest : ServiceManifest} {text : String}

/-- The fields the dialect cannot express are not set. -/
structure ServiceManifest.Expressible (manifest : ServiceManifest) : Prop where
  entrypoint : manifest.entrypoint = []
  workingDir : manifest.workingDir = none
  labels : manifest.labels = ∅

theorem serviceManifestToYaml_eq_ok :
    serviceManifestToYaml yaml manifest = .ok text ↔
      manifest.Expressible ∧ yaml.toString (manifestDocument manifest) = .ok text := by
  unfold serviceManifestToYaml
  rw [guard_eq_ok, guard_eq_ok, guard_eq_ok]
  simp only [ne_eq, not_not, Bool.not_eq_true, Option.isSome_eq_false_iff,
    Option.isNone_iff_eq_none, Std.ExtTreeMap.isEmpty_iff]
  cases yaml.toString (manifestDocument manifest) with
  | error failure =>
      constructor
      · rintro ⟨-, -, -, impossible⟩
        cases impossible
      · rintro ⟨-, impossible⟩
        cases impossible
  | ok written =>
      rw [Except.ok.injEq, Except.ok.injEq]
      constructor
      · rintro ⟨entrypoint, workingDir, labels, same⟩
        exact ⟨⟨entrypoint, workingDir, labels⟩, same⟩
      · rintro ⟨expressible, same⟩
        exact ⟨expressible.entrypoint, expressible.workingDir, expressible.labels, same⟩

private theorem startsWith_iff {text start : String} :
    startsWith text start ↔ start.toList <+: text.toList :=
  List.isPrefixOf_iff_prefix

section Encoded

variable {document : FungiServiceDocument} (encoded : yaml.toString document = .ok text)
include encoded

/-- A written document starts with its first field. -/
theorem toList_encoded : ∃ rest, text.toList = 'f' :: ("ungi:".toList ++ rest) := by
  obtain ⟨rest, shape⟩ := yaml.toString_starts _ _ encoded
  exact ⟨rest, shape.symm⟩

theorem stripPrefix_encoded {fence : String} (dash : fence.toList.head? = some '-') :
    stripPrefix text fence = none := by
  obtain ⟨rest, first⟩ := toList_encoded encoded
  obtain ⟨others, fenceShape⟩ := List.head?_eq_some_iff.mp dash
  rw [stripPrefix, startsWith, first, fenceShape, if_neg]
  simp [List.isPrefixOf]

theorem splitFrontMatter_encoded : splitFrontMatter yaml text = .ok none := by
  unfold splitFrontMatter
  rw [stripPrefix_encoded encoded (by decide), stripPrefix_encoded encoded (by decide)]
  rfl

/-- A written document is recognised as a Fungi service document. -/
theorem shouldParseAsFungiServiceYaml_encoded : shouldParseAsFungiServiceYaml yaml text = true := by
  obtain ⟨rest, first⟩ := toList_encoded encoded
  have trimmed : trimStart text = text := by
    rw [trimStart, first, List.dropWhile_cons, if_neg (by decide), ← first,
      String.ofList_toList]
  unfold shouldParseAsFungiServiceYaml
  dsimp only
  rw [trimmed, if_pos (startsWith_iff.mpr (yaml.toString_starts _ _ encoded))]

end Encoded

/-- A written manifest is recognised as a Fungi service document. -/
theorem parseRequiredFungiServiceDocument_written
    (written : serviceManifestToYaml yaml manifest = .ok text) :
    parseRequiredFungiServiceDocument yaml text = .ok (manifestDocument manifest) := by
  obtain ⟨-, encoded⟩ := serviceManifestToYaml_eq_ok.mp written
  have decoded : parseFungiServiceYaml yaml text "Fungi service YAML" =
      .ok (manifestDocument manifest) := by
    unfold parseFungiServiceYaml
    rw [yaml.fromStr_toString _ _ encoded]
  have found : parseFungiServiceDocument yaml text = .ok (some (manifestDocument manifest)) := by
    rw [parseFungiServiceDocument, bind_eq_ok]
    refine ⟨none, splitFrontMatter_encoded encoded, ?_⟩
    dsimp only
    rw [if_pos (shouldParseAsFungiServiceYaml_encoded encoded), bind_eq_ok]
    exact ⟨_, decoded, rfl⟩
  rw [parseRequiredFungiServiceDocument, bind_eq_ok]
  exact ⟨_, found, rfl⟩

/-- Reloading a written manifest parses the document it was written from. -/
theorem parseManagedServiceManifestYaml_written
    (written : serviceManifestToYaml yaml manifest = .ok text) (baseDir : String)
    (paths : FungiPaths) (localServiceId : String) (answers : List UInt16) :
    parseManagedServiceManifestYaml yaml text baseDir paths localServiceId answers =
      (manifestDocument manifest).intoServiceManifest baseDir
        (.forLocalServiceId paths localServiceId) ∅ answers := by
  unfold parseManagedServiceManifestYaml parseServiceManifestYamlForServicePaths
  rw [parseRequiredFungiServiceDocument_written written, ok_bind]

end Text

/-! ## The written document -/

section Document

variable {manifest : ServiceManifest}

/-- The id a manifest is written under. -/
def ServiceManifest.writtenId (manifest : ServiceManifest) : String :=
  manifest.definitionId.getD manifest.name

/-- The entries a manifest is published under, after those with equal keys have
been collapsed. -/
def ServiceManifest.writtenEntries (manifest : ServiceManifest) :
    List (String × FungiServicePublishEntry) :=
  (manifestDocument manifest).publish.toList

@[simp] theorem manifestDocument_nameField :
    (manifestDocument manifest).nameField = manifest.name := by
  unfold FungiServiceDocument.nameField manifestDocument
  dsimp only
  split
  · rfl
  · next same => exact (not_not.mp same).symm

theorem mem_publishItems {item : String × FungiServicePublishEntry} :
    item ∈ publishItems manifest ↔ ∃ index port, manifest.ports[index]? = some port ∧
      item = (publishName index port, publishEntry manifest port) := by
  rw [publishItems, List.mem_mapIdx]
  constructor
  · rintro ⟨index, bound, rfl⟩
    exact ⟨index, _, List.getElem?_eq_getElem bound, rfl⟩
  · rintro ⟨index, port, found, rfl⟩
    obtain ⟨bound, rfl⟩ := List.getElem?_eq_some_iff.mp found
    exact ⟨index, bound, rfl⟩

theorem mem_publishItems_of_written {item : String × FungiServicePublishEntry}
    (membership : item ∈ manifest.writtenEntries) : item ∈ publishItems manifest :=
  mem_of_mem_toList_ofList membership

theorem writtenEntries_ne_nil : manifest.writtenEntries ≠ [] ↔ manifest.ports ≠ [] := by
  have empty : manifestPublishToFungi manifest = ∅ ↔ manifest.ports = [] := by
    unfold manifestPublishToFungi
    rw [Std.ExtTreeMap.ofList_eq_empty_iff, publishItems, List.mapIdx_eq_nil_iff]
  change (manifestPublishToFungi manifest).toList ≠ [] ↔ _
  rw [Ne, Std.ExtTreeMap.toList_eq_nil_iff, empty]

theorem headerOk_manifestDocument :
    (manifestDocument manifest).HeaderOk ↔
      trim manifest.writtenId ≠ "" ∧ trim manifest.name ≠ "" ∧ manifest.ports ≠ [] := by
  rw [← writtenEntries_ne_nil]
  constructor
  · intro header
    refine ⟨header.id, ?_, header.publish⟩
    simpa using header.name
  · rintro ⟨id, name, published⟩
    exact ⟨rfl, id, by simpa using name, published⟩

/-- The expose block a written manifest comes back with. -/
def ServiceManifest.reloadedExpose (manifest : ServiceManifest) : ServiceExpose :=
  (fungiClientExposeMetadata
    { tcp := { host := none, port := 0 }, client := manifestClientToFungi manifest.expose }).expose

theorem parseFungiPublishExpose_written {expose : Option ServiceExpose}
    (published : manifest.ports ≠ []) :
    parseFungiPublishExpose (manifestDocument manifest).publish = .ok expose ↔
      expose = some manifest.reloadedExpose := by
  have nonempty := writtenEntries_ne_nil.mpr published
  have shared : ∀ item ∈ manifest.writtenEntries, fungiClientExposeMetadata item.2 =
      fungiClientExposeMetadata
        { tcp := { host := none, port := 0 },
          client := manifestClientToFungi manifest.expose } := by
    intro item membership
    obtain ⟨index, port, -, rfl⟩ := mem_publishItems.mp (mem_publishItems_of_written membership)
    rfl
  rw [parseFungiPublishExpose_eq_ok nonempty]
  constructor
  · rintro ⟨metadata, same, rfl⟩
    obtain ⟨item, membership⟩ := List.exists_mem_of_ne_nil _ nonempty
    rw [← same item membership, shared item membership]
    rfl
  · rintro rfl
    exact ⟨_, shared, rfl⟩

end Document

/-! ## The reloaded manifest -/

/-- The runtime that goes with a source. -/
def ServiceSource.runtime : ServiceSource → RuntimeKind
  | .docker _ => .docker
  | .wasmtimeFile _ => .wasmtime
  | .wasmtimeUrl _ => .wasmtime
  | .existingTcp _ _ => .external

namespace ServiceManifest

variable {manifest : ServiceManifest} {baseDir : String} {roots : ManifestPathRoots}

/-- The source a written manifest comes back with. -/
def reloadedSource (manifest : ServiceManifest) (baseDir : String)
    (roots : ManifestPathRoots) : ServiceSource :=
  match manifest.source with
  | .docker image => .docker (trim image)
  | .wasmtimeFile component =>
      .wasmtimeFile (resolveManifestPath (trim component) baseDir roots)
  | .wasmtimeUrl url => .wasmtimeUrl (trim url)
  | .existingTcp host port => .existingTcp (trim host) port

/-- The mounts of a manifest once it is written and read again. -/
def reloadedMounts (manifest : ServiceManifest) (baseDir : String)
    (roots : ManifestPathRoots) : List ServiceMount :=
  manifest.mounts.map fun mount =>
    { mount with hostPath := resolveManifestPath mount.hostPath baseDir roots }

/-- The run a written manifest comes back with. -/
def reloadedRun (manifest : ServiceManifest) (baseDir : String)
    (roots : ManifestPathRoots) : ParsedRun :=
  let runtimeAndSource : RuntimeAndSource :=
    { runtime := manifest.source.runtime
      runMode := if manifest.source.runtime = .wasmtime then manifest.runMode else .command
      source := manifest.reloadedSource baseDir roots }
  if manifest.source.runtime = .external then
    { runtimeAndSource, env := ∅, mounts := [], command := [] }
  else
    { runtimeAndSource
      env := manifest.env
      mounts := manifest.reloadedMounts baseDir roots
      command := manifest.command }

/-- A manifest once it is written and read again. -/
def reloaded (manifest : ServiceManifest) (baseDir : String) (roots : ManifestPathRoots)
    (ports : List ServicePort) : ServiceManifest :=
  (manifestDocument manifest).assemble (manifest.reloadedRun baseDir roots) ports
    (some manifest.reloadedExpose)

/-- The source of a written manifest is accepted again. -/
def SourceReloads (manifest : ServiceManifest) : Prop :=
  match manifest.source with
  | .docker image => trim image ≠ ""
  | .wasmtimeFile component => trim component ≠ ""
  | .wasmtimeUrl url => trim url ≠ ""
  | .existingTcp host _ =>
      isLoopbackHost (trim host) ∧ ∃ item, manifest.writtenEntries = [item]

instance (manifest : ServiceManifest) : Decidable manifest.SourceReloads := by
  unfold SourceReloads
  cases manifest.source with
  | existingTcp host port =>
      exact decidable_of_iff (isLoopbackHost (trim host) ∧ manifest.writtenEntries.length = 1)
        (and_congr_right fun _ => List.length_eq_one_iff)
  | _ => exact inferInstanceAs (Decidable (_ ≠ _))

private theorem normalizeOptional_eq_some_iff {value text : String} :
    normalizeOptional (some value) = some text ↔ trim value ≠ "" ∧ text = trim value := by
  rw [normalizeOptional_some]
  split
  · next empty => simp [empty]
  · next nonempty => simp [nonempty, eq_comm]

private theorem parseFungiRun_written_wasmtime
    {publish : BTreeMap String FungiServicePublishEntry} {source : FungiServiceSource}
    {parsed : RuntimeAndSource} :
    parseFungiRun (wasmtimeRunToFungi manifest source) publish baseDir roots = .ok parsed ↔
      (∀ item ∈ publish.toList, item.2.tcp.port ≠ 0) ∧ ∃ result,
        wasmtimeSource source baseDir roots = .ok result ∧
          parsed = { runtime := .wasmtime, runMode := manifest.runMode, source := result } := by
  have mode : wasmtimeRunMode (if manifest.runMode = .http then some .http else none) =
      manifest.runMode := by
    cases manifest.runMode <;> rfl
  rw [parseFungiRun_wasmtime_eq_ok rfl, wasmtimeRunToFungi, mode]

private theorem wasmtimeSource_file {component : String} {result : ServiceSource} :
    wasmtimeSource { url := none, file := some component, image := none } baseDir roots =
        .ok result ↔
      trim component ≠ "" ∧
        result = .wasmtimeFile (resolveManifestPath (trim component) baseDir roots) := by
  rw [wasmtimeSource_eq_ok]
  simp only [normalizeOptional_eq_some_iff]
  constructor
  · rintro (⟨_, ⟨nonempty, rfl⟩, -, -, rfl⟩ | ⟨_, impossible, -⟩)
    · exact ⟨nonempty, rfl⟩
    · cases impossible
  · rintro ⟨nonempty, rfl⟩
    exact Or.inl ⟨_, ⟨nonempty, rfl⟩, rfl, rfl, rfl⟩

private theorem wasmtimeSource_url {url : String} {result : ServiceSource} :
    wasmtimeSource { url := some url, file := none, image := none } baseDir roots =
        .ok result ↔
      trim url ≠ "" ∧ result = .wasmtimeUrl (trim url) := by
  rw [wasmtimeSource_eq_ok]
  simp only [normalizeOptional_eq_some_iff]
  constructor
  · rintro (⟨_, impossible, -⟩ | ⟨_, ⟨nonempty, rfl⟩, -, -, rfl⟩)
    · cases impossible
    · exact ⟨nonempty, rfl⟩
  · rintro ⟨nonempty, rfl⟩
    exact Or.inr ⟨_, ⟨nonempty, rfl⟩, rfl, rfl, rfl⟩

theorem parseRunSection_written {parsed : ParsedRun} :
    parseRunSection (manifestDocument manifest) baseDir roots = .ok parsed ↔
      manifest.SourceReloads ∧ (∀ item ∈ manifest.writtenEntries, item.2.tcp.port ≠ 0) ∧
        parsed = manifest.reloadedRun baseDir roots := by
  have document : (manifestDocument manifest).run = manifestRunToFungi manifest := rfl
  unfold parseRunSection SourceReloads reloadedRun reloadedSource
  rw [document, manifestRunToFungi]
  cases source : manifest.source with
  | docker image =>
      simp only [bind_eq_ok, pure_eq_ok, parseFungiRun_docker_eq_ok,
        exactlyOneSourceImage_eq_ok, normalizeOptional_eq_some_iff]
      constructor
      · rintro ⟨_, ⟨nonzero, -, _, ⟨⟨nonempty, rfl⟩, -⟩, rfl⟩, rfl⟩
        refine ⟨nonempty, nonzero, ?_⟩
        simp [ServiceSource.runtime, reloadedMounts, manifestMountsToFungi]
      · rintro ⟨nonempty, nonzero, rfl⟩
        refine ⟨_, ⟨nonzero, trivial, _, ⟨⟨nonempty, rfl⟩, rfl, rfl⟩, rfl⟩, ?_⟩
        simp [ServiceSource.runtime, reloadedMounts, manifestMountsToFungi]
  | wasmtimeFile component =>
      simp only [bind_eq_ok, pure_eq_ok, parseFungiRun_written_wasmtime, wasmtimeSource_file]
      constructor
      · rintro ⟨_, ⟨nonzero, _, ⟨nonempty, rfl⟩, rfl⟩, rfl⟩
        refine ⟨nonempty, nonzero, ?_⟩
        simp [ServiceSource.runtime, reloadedMounts, wasmtimeRunToFungi, manifestMountsToFungi]
      · rintro ⟨nonempty, nonzero, rfl⟩
        refine ⟨_, ⟨nonzero, _, ⟨nonempty, rfl⟩, rfl⟩, ?_⟩
        simp [ServiceSource.runtime, reloadedMounts, wasmtimeRunToFungi, manifestMountsToFungi]
  | wasmtimeUrl url =>
      simp only [bind_eq_ok, pure_eq_ok, parseFungiRun_written_wasmtime, wasmtimeSource_url]
      constructor
      · rintro ⟨_, ⟨nonzero, _, ⟨nonempty, rfl⟩, rfl⟩, rfl⟩
        refine ⟨nonempty, nonzero, ?_⟩
        simp [ServiceSource.runtime, reloadedMounts, wasmtimeRunToFungi, manifestMountsToFungi]
      · rintro ⟨nonempty, nonzero, rfl⟩
        refine ⟨_, ⟨nonzero, _, ⟨nonempty, rfl⟩, rfl⟩, ?_⟩
        simp [ServiceSource.runtime, reloadedMounts, wasmtimeRunToFungi, manifestMountsToFungi]
  | existingTcp host port =>
      -- Every written entry repeats the host and the port of the source.
      have repeated : ∀ item ∈ manifest.writtenEntries,
          item.2.tcp = { host := some host, port } := by
        intro item membership
        obtain ⟨index, published, -, rfl⟩ :=
          mem_publishItems.mp (mem_publishItems_of_written membership)
        simp only [publishEntry, source]
      simp only [bind_eq_ok, pure_eq_ok, parseFungiExistingTcpRun_eq_ok]
      change (∃ _, (∃ item, manifest.writtenEntries = [item] ∧ _) ∧ _) ↔ _
      constructor
      · rintro ⟨_, ⟨item, single, loopback, nonzero, rfl⟩, rfl⟩
        rw [repeated item (by simp [single])] at loopback nonzero ⊢
        refine ⟨⟨loopback, item, single⟩, ?_, ?_⟩
        · intro other membership
          rw [repeated other membership]
          exact nonzero
        · simp [ServiceSource.runtime, tcpHost]
      · rintro ⟨⟨loopback, item, single⟩, nonzero, rfl⟩
        have membership : item ∈ manifest.writtenEntries := by simp [single]
        have tcp := repeated item membership
        refine ⟨_, ⟨item, single, ?_, nonzero item membership, rfl⟩, ?_⟩
        · rw [tcp]
          exact loopback
        · rw [tcp]
          simp [ServiceSource.runtime, tcpHost]

theorem intoServiceManifest_written_eq_ok {usedHostPorts : Finset UInt16}
    {answers rest : List UInt16} {result : ServiceManifest} :
    (manifestDocument manifest).intoServiceManifest baseDir roots usedHostPorts answers =
        .ok (result, rest) ↔
      (trim manifest.writtenId ≠ "" ∧ trim manifest.name ≠ "" ∧ manifest.ports ≠ []) ∧
        manifest.SourceReloads ∧ (∀ item ∈ manifest.writtenEntries, item.2.tcp.port ≠ 0) ∧
        ∃ ports reserved, parseFungiPublishEntries manifest.source.runtime
            manifest.writtenEntries { reserved := usedHostPorts, answers } =
              .ok (ports, { reserved, answers := rest }) ∧
          result = manifest.reloaded baseDir roots ports := by
  have runtime : (manifest.reloadedRun baseDir roots).runtimeAndSource.runtime =
      manifest.source.runtime := by
    unfold reloadedRun
    dsimp only
    split
    · rfl
    · rfl
  rw [FungiServiceDocument.intoServiceManifest_eq_ok, headerOk_manifestDocument]
  constructor
  · rintro ⟨header, parsed, ports, reserved, expose, parsedRun, parsedPorts, parsedExpose, rfl⟩
    obtain ⟨sourceOk, nonzero, rfl⟩ := parseRunSection_written.mp parsedRun
    rw [runtime] at parsedPorts
    rw [(parseFungiPublishExpose_written header.2.2).mp parsedExpose]
    exact ⟨header, sourceOk, nonzero, ports, reserved, parsedPorts, rfl⟩
  · rintro ⟨header, sourceOk, nonzero, ports, reserved, parsedPorts, rfl⟩
    refine ⟨header, _, ports, reserved, _, parseRunSection_written.mpr ⟨sourceOk, nonzero, rfl⟩,
      ?_, (parseFungiPublishExpose_written header.2.2).mpr rfl, rfl⟩
    rw [runtime]
    exact parsedPorts

end ServiceManifest

end Fungi.Runtime
