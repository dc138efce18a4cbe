import Fungi.Runtime.ManifestReload

/-!
# Round trip of managed manifests

A manifest with fixed ports, once accepted, is written to disk and parsed again at
every restart.  It comes back unchanged exactly when trimming its publish keys
keeps them distinct and in order, and when its resolved paths contain no path
variable any more.
-/

namespace Fungi.Runtime

open Fungi.Lib Fungi.Config

/-- Two manifests describe the same service. -/
structure SameService (left right : ServiceManifest) : Prop where
  name : left.name = right.name
  definitionId : left.definitionId = right.definitionId
  runMode : left.runMode = right.runMode
  source : left.source = right.source
  env : left.env = right.env
  mounts : left.mounts = right.mounts
  command : left.command = right.command
  expose : left.expose = right.expose
  ports : left.ports = right.ports

/-- The manifest parser accepts the text as `document`, for a service that is not
managed yet or for the service with the given local id. -/
def AcceptedManifest (yaml : SerdeYaml) (content baseDir : String) (paths : FungiPaths)
    (localServiceId : String) (usedHostPorts : Finset UInt16) (answers : List UInt16)
    (document : FungiServiceDocument) (result : ServiceManifest × List UInt16) : Prop :=
  parseRequiredFungiServiceDocument yaml content = .ok document ∧
    (parseServiceManifestYamlForServicePaths yaml content baseDir
        (.forLocalServiceId paths localServiceId) usedHostPorts answers = .ok result ∨
      parseServiceManifestYaml yaml content baseDir paths usedHostPorts answers = .ok result ∧
        document.serviceName = .ok localServiceId)

theorem AcceptedManifest.intoServiceManifest {yaml : SerdeYaml} {content baseDir : String}
    {paths : FungiPaths} {localServiceId : String} {usedHostPorts : Finset UInt16}
    {answers : List UInt16} {document : FungiServiceDocument}
    {result : ServiceManifest × List UInt16}
    (accepted : AcceptedManifest yaml content baseDir paths localServiceId usedHostPorts answers
      document result) :
    document.intoServiceManifest baseDir (.forLocalServiceId paths localServiceId)
      usedHostPorts answers = .ok result := by
  obtain ⟨parsed, managed | ⟨unmanaged, name⟩⟩ := accepted
  · rwa [parseServiceManifestYamlForServicePaths, parsed, ok_bind] at managed
  · rwa [parseServiceManifestYaml, parsed, ok_bind, name, ok_bind] at unmanaged

/-- The documents whose manifests survive the round trip. -/
structure FungiServiceDocument.WritesBack (document : FungiServiceDocument) (baseDir : String)
    (roots : ManifestPathRoots) : Prop where
  /-- The trimmed publish keys are distinct and in the order of the keys. -/
  keys : (document.publish.toList.map fun item => trim item.1).Pairwise (· < ·)
  mounts : ∀ run, document.run = some run → ∀ mount ∈ run.mounts,
    ¬ HasPathVariable (resolveManifestPath mount.fromPath baseDir roots)
  component : ∀ run, document.run = some run →
    ∀ file, normalizeOptional run.source.file = some file →
      ¬ HasPathVariable (resolveManifestPath file baseDir roots) ∧
        trim (resolveManifestPath file baseDir roots) = resolveManifestPath file baseDir roots

/-! ## Expose metadata -/

private theorem normalizeOptional_usageText (kind : ServiceExposeUsageKind) :
    (normalizeOptional (some (exposeUsageKindText kind))).map exposeUsageKind = some kind := by
  cases kind <;> decide +kernel

/-- Metadata whose fields are normalised. -/
structure FungiClientExposeMetadata.Normalized (metadata : FungiClientExposeMetadata) : Prop where
  path : normalizeOptional metadata.path = metadata.path
  iconUrl : normalizeOptional metadata.iconUrl = metadata.iconUrl
  web : metadata.usage ≠ some .web → metadata.path = none

theorem normalized_fungiClientExposeMetadata (entry : FungiServicePublishEntry) :
    (fungiClientExposeMetadata entry).Normalized := by
  obtain ⟨_, client⟩ := entry
  cases client with
  | none => exact ⟨rfl, rfl, fun _ => rfl⟩
  | some client =>
      constructor
      · change normalizeOptional (if _ then _ else none) = if _ then _ else none
        split
        · exact normalizeOptional_idem _
        · rfl
      · exact normalizeOptional_idem _
      · intro other
        change (if _ then _ else none) = none
        exact if_neg other

/-- Normalised metadata survive being written and read again. -/
theorem fungiClientExposeMetadata_written {metadata : FungiClientExposeMetadata}
    (normalized : metadata.Normalized) (tcp : FungiServiceTcp) :
    fungiClientExposeMetadata
      { tcp, client := manifestClientToFungi (some metadata.expose) } = metadata := by
  obtain ⟨usage, path, iconUrl⟩ := metadata
  have icons := normalized.iconUrl
  cases usage with
  | none =>
      have noPath : path = none := normalized.web (by simp)
      subst noPath
      cases iconUrl with
      | none => rfl
      | some icon =>
          obtain ⟨trimmed, nonempty⟩ := normalizeOptional_eq_some icons
          simp [fungiClientExposeMetadata, manifestClientToFungi,
            FungiClientExposeMetadata.expose, normalizeOptional, trimmed, nonempty]
  | some kind =>
      have read := normalizeOptional_usageText kind
      have written : manifestClientToFungi
          (some (FungiClientExposeMetadata.expose { usage := some kind, path, iconUrl })) =
          some
            { kind := some (exposeUsageKindText kind)
              path := if kind = .web then path else none
              iconUrl } := by
        simp [manifestClientToFungi, FungiClientExposeMetadata.expose]
      rw [written]
      simp only [fungiClientExposeMetadata, Option.bind_some, read, Option.some.injEq, icons,
        FungiClientExposeMetadata.mk.injEq, true_and, and_true]
      by_cases web : kind = .web
      · rw [if_pos web, if_pos web]
        exact normalized.path
      · rw [if_neg web]
        exact (normalized.web (by simpa using web)).symm

/-! ## Accepted manifests with fixed ports -/

/-- The source of an accepted manifest with fixed ports. -/
def AcceptedSource (manifest : ServiceManifest)
    (items : List (String × FungiServicePublishEntry)) : Prop :=
  match manifest.source with
  | .docker _ => False
  | .wasmtimeFile component => Path.isAbsolute component
  | .wasmtimeUrl url => trim url = url ∧ url ≠ ""
  | .existingTcp host port =>
      (trim host = host ∧ isLoopbackHost host) ∧ (∃ item, items = [item] ∧ item.2.tcp.port = port) ∧
        manifest.runMode = .command ∧ manifest.env = ∅ ∧ manifest.mounts = [] ∧
        manifest.command = []

/-- What an accepted manifest with fixed ports looks like, for the entries it was
parsed from. -/
structure AcceptedShape (manifest : ServiceManifest)
    (items : List (String × FungiServicePublishEntry)) : Prop where
  expressible : manifest.Expressible
  name : trim manifest.name = manifest.name ∧ manifest.name ≠ ""
  definitionId : ∃ id, manifest.definitionId = some id ∧ trim id = id ∧ id ≠ ""
  runtime : manifest.runtime = manifest.source.runtime
  source : AcceptedSource manifest items
  mounts : ∀ mount ∈ manifest.mounts, Path.isAbsolute mount.hostPath
  nonempty : items ≠ []
  ports : manifest.ports = items.map fixedServicePort
  entries : ∀ item ∈ items, FixedEntryOk item
  distinct : (items.map (·.2.tcp.port)).Nodup
  expose : ∃ metadata : FungiClientExposeMetadata, metadata.Normalized ∧
    manifest.expose = some metadata.expose

private theorem absolute_parsedMounts {run : FungiServiceRun} {source : ServiceSource}
    {baseDir : String} {roots : ManifestPathRoots} (absolute : Path.isAbsolute baseDir) :
    ∀ mount ∈ (wasmtimeParsedRun run source baseDir roots).mounts,
      Path.isAbsolute mount.hostPath := by
  intro mount membership
  obtain ⟨written, -, rfl⟩ := List.mem_map.mp membership
  dsimp only
  exact isAbsolute_resolveManifestPath absolute

theorem acceptedShape {document : FungiServiceDocument} {baseDir : String}
    {roots : ManifestPathRoots} {usedHostPorts : Finset UInt16} {answers rest : List UInt16}
    {manifest : ServiceManifest} (absolute : Path.isAbsolute baseDir)
    (accepted : document.intoServiceManifest baseDir roots usedHostPorts answers =
      .ok (manifest, rest))
    (fixed : manifest.runtime ≠ .docker) : AcceptedShape manifest document.publish.toList := by
  obtain ⟨header, parsed, ports, reserved, expose, parsedRun, parsedPorts, parsedExpose, rfl⟩ :=
    FungiServiceDocument.intoServiceManifest_eq_ok.mp accepted
  obtain ⟨entries, distinct, -, rfl, -⟩ :=
    (parseFungiPublishEntries_fixed_eq_ok fixed).mp parsedPorts
  obtain ⟨metadata, shared, rfl⟩ := (parseFungiPublishExpose_eq_ok header.publish).mp parsedExpose
  have normalized : metadata.Normalized := by
    obtain ⟨item, membership⟩ := List.exists_mem_of_ne_nil _ header.publish
    rw [← shared item membership]
    exact normalized_fungiClientExposeMetadata item.2
  have run : parsed.runtimeAndSource.runtime = parsed.runtimeAndSource.source.runtime ∧
      AcceptedSource (document.assemble parsed (document.publish.toList.map fixedServicePort)
        (some metadata.expose)) document.publish.toList ∧
      ∀ mount ∈ parsed.mounts, Path.isAbsolute mount.hostPath := by
    rcases parseRunSection_fixed_cases parsedRun fixed with
      ⟨run, file, -, -, rfl⟩ | ⟨run, url, -, -, present, rfl⟩ | ⟨item, -, single, loopback, rfl⟩
    · refine ⟨rfl, isAbsolute_resolveManifestPath absolute, ?_⟩
      exact absolute_parsedMounts absolute
    · refine ⟨rfl, normalizeOptional_eq_some present, ?_⟩
      exact absolute_parsedMounts absolute
    · refine ⟨rfl, ⟨⟨trim_trim _, loopback⟩, ⟨item, single, rfl⟩, rfl, rfl, rfl, rfl⟩, ?_⟩
      intro mount impossible
      cases impossible
  exact
    { expressible := ⟨rfl, rfl, rfl⟩
      name := ⟨trim_trim _, header.name⟩
      definitionId := ⟨_, rfl, trim_trim _, header.id⟩
      runtime := run.1
      source := run.2.1
      mounts := run.2.2
      nonempty := header.publish
      ports := rfl
      entries
      distinct
      expose := ⟨metadata, normalized, rfl⟩ }

/-! ## Entries of an accepted manifest -/

section Entries

variable {manifest : ServiceManifest} {items : List (String × FungiServicePublishEntry)}

/-- The entry an accepted port is written as. -/
def writtenItem (manifest : ServiceManifest) (item : String × FungiServicePublishEntry) :
    String × FungiServicePublishEntry :=
  (trim item.1, publishEntry manifest (fixedServicePort item))

namespace AcceptedShape

theorem publishItems (shape : AcceptedShape manifest items) :
    Fungi.Runtime.publishItems manifest = items.map (writtenItem manifest) := by
  apply List.ext_getElem
  · simp [Fungi.Runtime.publishItems, shape.ports]
  · intro index bound bound'
    simp [Fungi.Runtime.publishItems, shape.ports, publishName, fixedServicePort, writtenItem]

theorem writtenItem_tcp (shape : AcceptedShape manifest items)
    {item : String × FungiServicePublishEntry} (membership : item ∈ items) :
    (writtenItem manifest item).2.tcp.port = item.2.tcp.port ∧
      isLoopbackHost (tcpHost (writtenItem manifest item).2.tcp.host) := by
  have source := shape.source
  unfold AcceptedSource at source
  unfold writtenItem publishEntry
  dsimp only
  split at source
  · exact source.elim
  · next component found =>
      rw [found]
      exact ⟨rfl, isLoopbackHost_default⟩
  · next url found =>
      rw [found]
      exact ⟨rfl, isLoopbackHost_default⟩
  · next host port found =>
      obtain ⟨⟨trimmed, loopback⟩, ⟨single, rfl, rfl⟩, -⟩ := source
      rw [found, List.mem_singleton.mp membership]
      refine ⟨rfl, ?_⟩
      rw [tcpHost, Option.getD_some, trimmed]
      exact loopback

theorem mem_writtenEntries (shape : AcceptedShape manifest items)
    {written : String × FungiServicePublishEntry}
    (membership : written ∈ manifest.writtenEntries) :
    ∃ item ∈ items, written = writtenItem manifest item := by
  have published := mem_publishItems_of_written membership
  rw [shape.publishItems, List.mem_map] at published
  obtain ⟨item, inside, rfl⟩ := published
  exact ⟨item, inside, rfl⟩

/-- Every written entry can be parsed again. -/
theorem fixedEntryOk_written (shape : AcceptedShape manifest items) :
    ∀ written ∈ manifest.writtenEntries, FixedEntryOk written := by
  intro written membership
  obtain ⟨item, inside, rfl⟩ := shape.mem_writtenEntries membership
  obtain ⟨port, host⟩ := shape.writtenItem_tcp inside
  have accepted := shape.entries item inside
  constructor
  · rw [writtenItem, trim_trim]
    exact accepted.key
  · rw [port]
    exact accepted.port
  · exact host

theorem nodup_writtenPorts (shape : AcceptedShape manifest items) :
    (manifest.writtenEntries.map (·.2.tcp.port)).Nodup := by
  apply List.Nodup.map_on _ (sortedKeys_toList (manifestDocument manifest).publish).nodup
  intro left leftMember right rightMember same
  obtain ⟨leftItem, leftInside, rfl⟩ := shape.mem_writtenEntries leftMember
  obtain ⟨rightItem, rightInside, rfl⟩ := shape.mem_writtenEntries rightMember
  rw [(shape.writtenItem_tcp leftInside).1, (shape.writtenItem_tcp rightInside).1] at same
  rw [List.inj_on_of_nodup_map shape.distinct leftInside rightInside same]

/-- The ports of the reloaded manifest are those of the accepted one exactly when
the trimmed keys are in order. -/
theorem reloadedPorts_eq_iff (shape : AcceptedShape manifest items) :
    manifest.writtenEntries.map fixedServicePort = manifest.ports ↔
      (items.map fun item => trim item.1).Pairwise (· < ·) := by
  have keys : ∀ written ∈ manifest.writtenEntries, trim written.1 = written.1 := by
    intro written membership
    obtain ⟨item, -, rfl⟩ := shape.mem_writtenEntries membership
    exact trim_trim item.1
  constructor
  · intro same
    have names : manifest.writtenEntries.map (·.1) = items.map fun item => trim item.1 := by
      have portNames := congrArg (List.map ServicePort.name) same
      rw [shape.ports, List.map_map, List.map_map] at portNames
      have trimmed : manifest.writtenEntries.map (fun written => trim written.1) =
          items.map fun item => trim item.1 := by
        apply List.map_injective_iff.mpr (Option.some_injective String)
        rw [List.map_map, List.map_map]
        exact portNames
      rw [← trimmed]
      apply List.map_congr_left
      intro written membership
      exact (keys written membership).symm
    rw [← names, List.pairwise_map]
    apply List.Pairwise.imp _ (sortedKeys_toList (manifestDocument manifest).publish)
    intro left right before
    exact compare_lt_iff_lt.mp before
  · intro sorted
    have written : manifest.writtenEntries = items.map (writtenItem manifest) := by
      rw [← shape.publishItems]
      apply toList_ofList_of_sorted
      rw [shape.publishItems, SortedKeys, List.pairwise_map]
      rw [List.pairwise_map] at sorted
      apply List.Pairwise.imp _ sorted
      intro left right before
      exact compare_lt_iff_lt.mpr before
    rw [written, shape.ports, List.map_map]
    apply List.map_congr_left
    intro item membership
    rw [Function.comp_apply, fixedServicePort, (shape.writtenItem_tcp membership).1, writtenItem,
      trim_trim]
    rfl

end AcceptedShape

end Entries

/-! ## Reloading an accepted manifest -/

section Reload

variable {manifest : ServiceManifest} {items : List (String × FungiServicePublishEntry)}
  {baseDir : String} {roots : ManifestPathRoots}

/-- Resolving the paths of the manifest once more changes none of them. -/
structure ServiceManifest.PathsSettled (manifest : ServiceManifest) : Prop where
  mounts : ∀ mount ∈ manifest.mounts, ¬ HasPathVariable mount.hostPath
  component : ∀ component, manifest.source = .wasmtimeFile component →
    ¬ HasPathVariable component ∧ trim component = component

namespace AcceptedShape

theorem sourceReloads (shape : AcceptedShape manifest items) : manifest.SourceReloads := by
  have source := shape.source
  unfold AcceptedSource at source
  unfold ServiceManifest.SourceReloads
  cases found : manifest.source with
  | docker image =>
      rw [found] at source
      exact source.elim
  | wasmtimeFile component =>
      rw [found] at source
      intro empty
      have absolute := (trim_of_isAbsolute source).2
      rw [empty] at absolute
      cases absolute
  | wasmtimeUrl url =>
      rw [found] at source
      dsimp only
      rw [source.1]
      exact source.2
  | existingTcp host port =>
      rw [found] at source
      obtain ⟨⟨trimmed, loopback⟩, ⟨item, rfl, -⟩, -⟩ := source
      dsimp only
      rw [trimmed]
      refine ⟨loopback, writtenItem manifest item, ?_⟩
      change (Std.ExtTreeMap.ofList (Fungi.Runtime.publishItems manifest) compare).toList = _
      rw [shape.publishItems]
      exact toList_ofList_of_sorted (List.pairwise_singleton ..)

/-- An accepted manifest with fixed ports can always be parsed again. -/
theorem reloads (shape : AcceptedShape manifest items) (answers : List UInt16) :
    (manifestDocument manifest).intoServiceManifest baseDir roots ∅ answers =
      .ok (manifest.reloaded baseDir roots (manifest.writtenEntries.map fixedServicePort),
        answers) := by
  obtain ⟨id, written, trimmed, nonempty⟩ := shape.definitionId
  have fixed : manifest.source.runtime ≠ .docker := by
    have source := shape.source
    unfold AcceptedSource at source
    cases found : manifest.source with
    | docker image =>
        rw [found] at source
        exact source.elim
    | _ => simp [ServiceSource.runtime]
  rw [ServiceManifest.intoServiceManifest_written_eq_ok]
  refine ⟨⟨?_, ?_, ?_⟩, shape.sourceReloads, ?_, _, _,
    (parseFungiPublishEntries_fixed_eq_ok fixed).mpr ⟨shape.fixedEntryOk_written,
      shape.nodup_writtenPorts, ?_, rfl, rfl⟩, rfl⟩
  · rw [ServiceManifest.writtenId, written, Option.getD_some, trimmed]
    exact nonempty
  · rw [shape.name.1]
    exact shape.name.2
  · rw [shape.ports, Ne, List.map_eq_nil_iff]
    exact shape.nonempty
  · intro item membership
    exact (shape.fixedEntryOk_written item membership).port
  · intro item membership
    exact Finset.notMem_empty _

theorem reloadedExpose (shape : AcceptedShape manifest items) :
    manifest.expose = some manifest.reloadedExpose := by
  obtain ⟨metadata, normalized, found⟩ := shape.expose
  rw [ServiceManifest.reloadedExpose, found, fungiClientExposeMetadata_written normalized]

theorem reloadedSource_eq_iff (shape : AcceptedShape manifest items) (usable : roots.Usable) :
    manifest.reloadedSource baseDir roots = manifest.source ↔
      ∀ component, manifest.source = .wasmtimeFile component →
        ¬ HasPathVariable component ∧ trim component = component := by
  have source := shape.source
  unfold AcceptedSource at source
  unfold ServiceManifest.reloadedSource
  split at source
  · exact source.elim
  · next component found =>
      simp only [found, ServiceSource.wasmtimeFile.injEq,
        resolveManifestPath_trim_eq_iff usable source]
      constructor
      · rintro ⟨trimmed, absent⟩ _ rfl
        exact ⟨absent, trimmed⟩
      · intro settled
        exact (settled component rfl).symm
  · next url found =>
      simp [found, source.1]
  · next host port found =>
      simp [found, source.1.1]

theorem reloadedMounts_eq_iff (shape : AcceptedShape manifest items) (usable : roots.Usable) :
    manifest.reloadedMounts baseDir roots = manifest.mounts ↔
      ∀ mount ∈ manifest.mounts, ¬ HasPathVariable mount.hostPath := by
  have unchanged : ∀ mount ∈ manifest.mounts,
      { mount with hostPath := resolveManifestPath mount.hostPath baseDir roots } = mount ↔
        ¬ HasPathVariable mount.hostPath := by
    intro mount membership
    have kept := @resolveManifestPath_eq_self_iff roots mount.hostPath baseDir usable
      (shape.mounts mount membership)
    rw [← kept]
    cases mount
    simp
  have settled := List.map_inj_left (l := manifest.mounts) (g := id)
    (f := fun mount =>
      { mount with hostPath := resolveManifestPath mount.hostPath baseDir roots })
  rw [List.map_id] at settled
  rw [ServiceManifest.reloadedMounts, settled]
  constructor
  · intro same mount membership
    exact (unchanged mount membership).mp (same mount membership)
  · intro absent mount membership
    exact (unchanged mount membership).mpr (absent mount membership)

theorem reloadedRun (shape : AcceptedShape manifest items) :
    manifest.reloadedRun baseDir roots =
      { runtimeAndSource :=
          { runtime := manifest.runtime, runMode := manifest.runMode
            source := manifest.reloadedSource baseDir roots }
        env := manifest.env
        mounts := manifest.reloadedMounts baseDir roots
        command := manifest.command } := by
  have source := shape.source
  unfold AcceptedSource at source
  unfold ServiceManifest.reloadedRun
  rw [shape.runtime]
  split at source
  · exact source.elim
  · next component found => simp [found, ServiceSource.runtime]
  · next url found => simp [found, ServiceSource.runtime]
  · next host port found =>
      obtain ⟨-, -, runMode, env, mounts, command⟩ := source
      simp [found, ServiceSource.runtime, ServiceManifest.reloadedMounts, runMode, env, mounts,
        command]

/-- The reloaded manifest is the accepted one exactly when its paths are settled
and the trimmed keys are in order. -/
theorem sameService_reloaded_iff (shape : AcceptedShape manifest items) (usable : roots.Usable) :
    SameService manifest
        (manifest.reloaded baseDir roots (manifest.writtenEntries.map fixedServicePort)) ↔
      (items.map fun item => trim item.1).Pairwise (· < ·) ∧ manifest.PathsSettled := by
  obtain ⟨id, written, trimmed, -⟩ := shape.definitionId
  rw [ServiceManifest.reloaded, shape.reloadedRun]
  constructor
  · intro same
    refine ⟨shape.reloadedPorts_eq_iff.mp same.ports.symm, ?_, ?_⟩
    · exact (shape.reloadedMounts_eq_iff usable).mp same.mounts.symm
    · exact (shape.reloadedSource_eq_iff usable).mp same.source.symm
  · rintro ⟨sorted, settled⟩
    exact
      { name := by simp [FungiServiceDocument.assemble, shape.name.1]
        definitionId := by
          change manifest.definitionId = some (trim manifest.writtenId)
          rw [ServiceManifest.writtenId, written, Option.getD_some, trimmed]
        runMode := rfl
        source := ((shape.reloadedSource_eq_iff usable).mpr settled.component).symm
        env := rfl
        mounts := ((shape.reloadedMounts_eq_iff usable).mpr settled.mounts).symm
        command := rfl
        expose := shape.reloadedExpose
        ports := (shape.reloadedPorts_eq_iff.mpr sorted).symm }

end AcceptedShape

/-- The document's condition, read off the manifest it was accepted as. -/
theorem FungiServiceDocument.writesBack_iff {document : FungiServiceDocument}
    {usedHostPorts : Finset UInt16} {answers rest : List UInt16}
    (accepted : document.intoServiceManifest baseDir roots usedHostPorts answers =
      .ok (manifest, rest))
    (fixed : manifest.runtime ≠ .docker) :
    document.WritesBack baseDir roots ↔
      (document.publish.toList.map fun item => trim item.1).Pairwise (· < ·) ∧
        manifest.PathsSettled := by
  obtain ⟨-, parsed, ports, reserved, expose, parsedRun, -, -, rfl⟩ :=
    intoServiceManifest_eq_ok.mp accepted
  rcases parseRunSection_fixed_cases parsedRun fixed with
    ⟨run, file, found, present, rfl⟩ | ⟨run, url, found, absent, present, rfl⟩ |
      ⟨item, found, -, -, rfl⟩
  · constructor
    · intro writesBack
      refine ⟨writesBack.keys, ?_, ?_⟩
      · intro mount membership
        obtain ⟨written, inside, rfl⟩ := List.mem_map.mp membership
        exact writesBack.mounts run found written inside
      · intro component same
        cases same
        exact writesBack.component run found file present
    · rintro ⟨sorted, settled⟩
      refine ⟨sorted, ?_, ?_⟩
      · intro run' found' mount membership
        cases found.symm.trans found'
        exact settled.mounts _ (List.mem_map_of_mem membership)
      · intro run' found' file' present'
        cases found.symm.trans found'
        cases present.symm.trans present'
        exact settled.component _ rfl
  · constructor
    · intro writesBack
      refine ⟨writesBack.keys, ?_, ?_⟩
      · intro mount membership
        obtain ⟨written, inside, rfl⟩ := List.mem_map.mp membership
        exact writesBack.mounts run found written inside
      · intro component same
        cases same
    · rintro ⟨sorted, settled⟩
      refine ⟨sorted, ?_, ?_⟩
      · intro run' found' mount membership
        cases found.symm.trans found'
        exact settled.mounts _ (List.mem_map_of_mem membership)
      · intro run' found' file' present'
        cases found.symm.trans found'
        cases absent.symm.trans present'
  · constructor
    · intro writesBack
      refine ⟨writesBack.keys, ?_, ?_⟩
      · intro mount impossible
        cases impossible
      · intro component same
        cases same
    · rintro ⟨sorted, -⟩
      refine ⟨sorted, ?_, ?_⟩
      · intro run' found'
        cases found.symm.trans found'
      · intro run' found'
        cases found.symm.trans found'

/-- The manifest is written as `text`, and the managed-service parser reads the same
service back from it. -/
def RoundTrips (yaml : SerdeYaml) (text serviceDir : String) (paths : FungiPaths)
    (localServiceId : String) (answers : List UInt16) (manifest : ServiceManifest) : Prop :=
  serviceManifestToYaml yaml manifest = .ok text ∧ ∃ reloaded unused,
    parseManagedServiceManifestYaml yaml text serviceDir paths localServiceId answers =
      .ok (reloaded, unused) ∧ SameService manifest reloaded

/-- Writing an accepted manifest with fixed ports and parsing it again returns the
same service exactly when trimming the document's publish keys keeps them distinct
and in order and none of its resolved paths is changed by a second resolution. -/
theorem managed_round_trip_iff (yaml : SerdeYaml)
    (content text baseDir serviceDir fungiHome : String) (channel : DistChannel)
    (localServiceId managedId : String) (usedHostPorts : Finset UInt16)
    (answers rest reloadAnswers : List UInt16) (document : FungiServiceDocument)
    (manifest : ServiceManifest) (absoluteBase : Path.isAbsolute baseDir)
    (absoluteHome : Path.isAbsolute fungiHome)
    (accepted : AcceptedManifest yaml content baseDir (.fromFungiHomeForChannel fungiHome channel)
      localServiceId usedHostPorts answers document (manifest, rest))
    (fixed : manifest.runtime ≠ .docker)
    (encodes : yaml.toString (manifestDocument manifest) = .ok text) :
    RoundTrips yaml text serviceDir (.fromFungiHomeForChannel fungiHome channel) managedId
        reloadAnswers manifest ↔
      document.WritesBack baseDir
        (.forLocalServiceId (.fromFungiHomeForChannel fungiHome channel) localServiceId) := by
  have parsed := accepted.intoServiceManifest
  have shape := acceptedShape absoluteBase parsed fixed
  have usable := usable_forLocalServiceId absoluteHome channel managedId
  have written : serviceManifestToYaml yaml manifest = .ok text :=
    serviceManifestToYaml_eq_ok.mpr ⟨shape.expressible, encodes⟩
  rw [RoundTrips, FungiServiceDocument.writesBack_iff parsed fixed,
    ← shape.sameService_reloaded_iff usable]
  constructor
  · rintro ⟨-, reloaded, unused, parsedAgain, same⟩
    rw [parseManagedServiceManifestYaml_written written, shape.reloads] at parsedAgain
    cases parsedAgain
    exact same
  · intro same
    refine ⟨written, _, reloadAnswers, ?_, same⟩
    rw [parseManagedServiceManifestYaml_written written, shape.reloads]

end Reload

/-! ## A port that is dropped -/

/-- A Wasmtime service with the given published ports. -/
def publishingDocument (id : String) (publish : List (String × UInt16)) :
    FungiServiceDocument :=
  { fungi := "service/v1"
    id
    instanceName := none
    run := some
      { provider := .wasmtime
        mode := none
        source := { url := some "https://example.test/demo.wasm", file := none, image := none }
        args := []
        env := ∅
        mounts := [] }
    publish := Std.ExtTreeMap.ofList
      (publish.map fun item =>
        (item.1, { tcp := { host := none, port := item.2 }, client := none }))
      compare }

/-- The manifest such a service is accepted as. -/
def publishingManifest (name : String) (ports : List (String × UInt16)) : ServiceManifest :=
  { name
    definitionId := some name
    runtime := .wasmtime
    runMode := .command
    source := .wasmtimeUrl "https://example.test/demo.wasm"
    expose := some { transport := .tcp, usage := none, iconUrl := none }
    env := ∅
    mounts := []
    ports := ports.map fun port =>
      { name := some port.1, hostPort := port.2, hostPortAllocation := .fixed,
        servicePort := port.2, protocol := .tcp }
    command := []
    entrypoint := []
    workingDir := none
    labels := ∅ }

/-- Two keys that are equal once trimmed. -/
def collidingYaml : SerdeYaml :=
  .ofTable
    [("fungi: source", publishingDocument "demo" [(" a", 8080), ("a", 9090)]),
      ("fungi: written", manifestDocument (publishingManifest "demo" [("a", 8080), ("a", 9090)]))]
    (by decide +kernel) (by decide +kernel)

/-- A document and the one that its manifest is written as. -/
def demoYaml : SerdeYaml :=
  .ofTable
    [("fungi: source", publishingDocument "demo" [("admin", 9090), ("http ", 8080)]),
      ("fungi: written",
        manifestDocument (publishingManifest "demo" [("admin", 9090), ("http", 8080)]))]
    (by decide +kernel) (by decide +kernel)

/-- The manifest publishes two ports, and its written form only one of them. -/
theorem managed_round_trip_drops_port :
    ¬ ∀ (yaml : SerdeYaml) (content text baseDir serviceDir fungiHome : String)
      (channel : DistChannel) (localServiceId managedId : String)
      (usedHostPorts : Finset UInt16) (answers rest reloadAnswers : List UInt16)
      (document : FungiServiceDocument) (manifest : ServiceManifest),
      Path.isAbsolute baseDir → Path.isAbsolute fungiHome →
      AcceptedManifest yaml content baseDir (.fromFungiHomeForChannel fungiHome channel)
        localServiceId usedHostPorts answers document (manifest, rest) →
      manifest.runtime ≠ .docker → yaml.toString (manifestDocument manifest) = .ok text →
      RoundTrips yaml text serviceDir (.fromFungiHomeForChannel fungiHome channel) managedId
        reloadAnswers manifest := by
  intro always
  obtain ⟨-, reloaded, unused, parsedAgain, same⟩ :=
    always collidingYaml "fungi: source" "fungi: written" "/base" "/home/fungi/services/svc"
      "/home/fungi" .stable "svc" "svc" ∅ [] [] []
      (publishingDocument "demo" [(" a", 8080), ("a", 9090)])
      (publishingManifest "demo" [("a", 8080), ("a", 9090)]) (by decide) (by decide)
      ⟨by decide +kernel, Or.inl (by decide +kernel)⟩ (by decide) (by decide +kernel)
  have once : parseManagedServiceManifestYaml collidingYaml "fungi: written"
      "/home/fungi/services/svc" (.fromFungiHomeForChannel "/home/fungi" .stable) "svc" [] =
      .ok (publishingManifest "demo" [("a", 9090)], []) := by decide +kernel
  rw [once] at parsedAgain
  cases parsedAgain
  have ports := same.ports
  revert ports
  decide

theorem managed_round_trip_demo :
    RoundTrips demoYaml "fungi: written" "/home/fungi/services/svc"
        (.fromFungiHomeForChannel "/home/fungi" .stable) "svc" []
        (publishingManifest "demo" [("admin", 9090), ("http", 8080)]) ↔
      (publishingDocument "demo" [("admin", 9090), ("http ", 8080)]).WritesBack "/base"
        (.forLocalServiceId (.fromFungiHomeForChannel "/home/fungi" .stable) "svc") :=
  managed_round_trip_iff demoYaml "fungi: source" "fungi: written" "/base"
    "/home/fungi/services/svc" "/home/fungi" .stable "svc" "svc" ∅ [] [] []
    (publishingDocument "demo" [("admin", 9090), ("http ", 8080)])
    (publishingManifest "demo" [("admin", 9090), ("http", 8080)]) (by decide) (by decide)
    ⟨by decide +kernel, Or.inl (by decide +kernel)⟩ (by decide) (by decide +kernel)

end Fungi.Runtime
