import Fungi.Lib.Fallible
import Fungi.Lib.OrderedMap
import Fungi.Runtime.Manifest
import Mathlib.Data.Finset.Dedup
import Mathlib.Data.Finset.Union

/-!
# What the manifest parser accepts

One lemma for each parser function: exactly when it succeeds, and with what
value.  The parser's callers are verified from these lemmas alone.
-/

namespace Fungi.Runtime

open Fungi.Lib Fungi.Config Fungi.Util

/-! ## Normalised fields -/

section Fields

variable {value fieldName text : String}

theorem normalizeNonEmpty_eq_ok :
    normalizeNonEmpty value fieldName = .ok text ↔ trim value ≠ "" ∧ text = trim value := by
  rw [normalizeNonEmpty, guard_eq_ok, Except.ok.injEq, eq_comm (a := text)]

theorem normalizeOptional_some :
    normalizeOptional (some value) = if trim value = "" then none else some (trim value) := rfl

/-- A normalised optional field is trimmed and not empty. -/
theorem normalizeOptional_eq_some {optional : Option String}
    (present : normalizeOptional optional = some text) : trim text = text ∧ text ≠ "" := by
  cases optional with
  | none => cases present
  | some value =>
      rw [normalizeOptional_some] at present
      split at present
      · cases present
      · next nonempty =>
          cases present
          exact ⟨trim_trim value, nonempty⟩

/-- Normalising a second time changes nothing. -/
theorem normalizeOptional_idem (optional : Option String) :
    normalizeOptional (normalizeOptional optional) = normalizeOptional optional := by
  cases present : normalizeOptional optional with
  | none => rfl
  | some text =>
      obtain ⟨trimmed, nonempty⟩ := normalizeOptional_eq_some present
      rw [normalizeOptional_some, trimmed, if_neg nonempty]

/-- The host an entry is reached at. -/
def tcpHost (host : Option String) : String := trim (host.getD "127.0.0.1")

theorem tcpHost_none : tcpHost none = "127.0.0.1" := by decide +kernel

theorem isLoopbackHost_default : isLoopbackHost (tcpHost none) := by
  rw [tcpHost_none]
  decide

theorem normalizeFungiTcpHost_eq_ok {host : Option String} :
    normalizeFungiTcpHost host fieldName = .ok text ∧ isLoopbackHost text ↔
      isLoopbackHost (tcpHost host) ∧ text = tcpHost host := by
  cases host with
  | none =>
      rw [normalizeFungiTcpHost, Except.ok.injEq, tcpHost_none]
      constructor
      · rintro ⟨rfl, loopback⟩
        exact ⟨loopback, rfl⟩
      · rintro ⟨loopback, rfl⟩
        exact ⟨rfl, loopback⟩
  | some value =>
      rw [normalizeFungiTcpHost, normalizeNonEmpty_eq_ok, tcpHost, Option.getD_some]
      constructor
      · rintro ⟨⟨-, rfl⟩, loopback⟩
        exact ⟨loopback, rfl⟩
      · rintro ⟨loopback, rfl⟩
        refine ⟨⟨?_, rfl⟩, loopback⟩
        intro empty
        rw [empty] at loopback
        exact absurd loopback (by decide)

end Fields

/-! ## Documents -/

namespace FungiServiceDocument

/-- The text the service name is taken from. -/
def nameField (self : FungiServiceDocument) : String := self.instanceName.getD self.id

theorem definitionId_eq_ok {self : FungiServiceDocument} {text : String} :
    self.definitionId = .ok text ↔ trim self.id ≠ "" ∧ text = trim self.id :=
  normalizeNonEmpty_eq_ok

theorem serviceName_eq_ok {self : FungiServiceDocument} {text : String} :
    self.serviceName = .ok text ↔ trim self.nameField ≠ "" ∧ text = trim self.nameField := by
  unfold serviceName nameField
  cases self.instanceName with
  | none => exact definitionId_eq_ok
  | some instanceName => exact normalizeNonEmpty_eq_ok

/-- The manifest of a document whose parts have been parsed. -/
def assemble (self : FungiServiceDocument) (parsed : ParsedRun) (ports : List ServicePort)
    (expose : Option ServiceExpose) : ServiceManifest :=
  { name := trim self.nameField
    definitionId := some (trim self.id)
    runtime := parsed.runtimeAndSource.runtime
    runMode := parsed.runtimeAndSource.runMode
    source := parsed.runtimeAndSource.source
    expose
    env := parsed.env
    mounts := parsed.mounts
    ports
    command := parsed.command
    entrypoint := []
    workingDir := none
    labels := ∅ }

/-- The checks on the header of a document. -/
structure HeaderOk (document : FungiServiceDocument) : Prop where
  format : document.fungi = "service/v1"
  id : trim document.id ≠ ""
  name : trim document.nameField ≠ ""
  publish : document.publish.toList ≠ []

theorem intoServiceManifest_eq_ok {self : FungiServiceDocument} {baseDir : String}
    {roots : ManifestPathRoots} {usedHostPorts : Finset UInt16} {answers rest : List UInt16}
    {manifest : ServiceManifest} :
    self.intoServiceManifest baseDir roots usedHostPorts answers = .ok (manifest, rest) ↔
      self.HeaderOk ∧ ∃ parsed ports reserved expose,
        parseRunSection self baseDir roots = .ok parsed ∧
        parseFungiPublishEntries parsed.runtimeAndSource.runtime self.publish.toList
          { reserved := usedHostPorts, answers } = .ok (ports, { reserved, answers := rest }) ∧
        parseFungiPublishExpose self.publish = .ok expose ∧
        manifest = self.assemble parsed ports expose := by
  rw [intoServiceManifest]
  simp only [bind_eq_ok, throw_guard_eq_ok, pure_eq_ok, definitionId_eq_ok, serviceName_eq_ok,
    Prod.mk.injEq, ne_eq, not_not]
  constructor
  · intro accepted
    obtain ⟨format, _, ⟨id, rfl⟩, _, ⟨name, rfl⟩, published, parsed, parsedRun, ⟨ports, pool⟩,
      parsedPorts, expose, parsedExpose, rfl, rfl⟩ := accepted
    refine ⟨⟨format, id, name, ?_⟩, parsed, ports, pool.reserved, expose, parsedRun, parsedPorts,
      parsedExpose, rfl⟩
    simpa [Std.ExtTreeMap.isEmpty_iff] using published
  · intro accepted
    obtain ⟨header, parsed, ports, reserved, expose, parsedRun, parsedPorts, parsedExpose, rfl⟩ :=
      accepted
    refine ⟨header.format, _, ⟨header.id, rfl⟩, _, ⟨header.name, rfl⟩, ?_, parsed, parsedRun, _,
      parsedPorts, expose, parsedExpose, rfl, rfl⟩
    simpa [Std.ExtTreeMap.isEmpty_iff] using header.publish

end FungiServiceDocument

/-! ## Published entries -/

section Publish

variable {name : String} {entry : FungiServicePublishEntry} {runtime : RuntimeKind}
  {port : ServicePort} {pool pool' : PortPool}

/-- An entry whose service port is also its host port. -/
structure FixedEntryOk (item : String × FungiServicePublishEntry) : Prop where
  key : trim item.1 ≠ ""
  port : item.2.tcp.port ≠ 0
  host : isLoopbackHost (tcpHost item.2.tcp.host)

/-- The port of an entry that is served at its own number. -/
def fixedServicePort (item : String × FungiServicePublishEntry) : ServicePort :=
  { name := some (trim item.1), hostPort := item.2.tcp.port, hostPortAllocation := .fixed,
    servicePort := item.2.tcp.port, protocol := .tcp }

/-- An entry whose host port the operating system chooses. -/
structure AutoEntryOk (item : String × FungiServicePublishEntry) : Prop where
  key : trim item.1 ≠ ""
  port : item.2.tcp.port ≠ 0
  host : item.2.tcp.host = none

/-- The port of an entry that is served at a free host port. -/
def autoServicePort (item : String × FungiServicePublishEntry) (hostPort : UInt16) :
    ServicePort :=
  { name := some (trim item.1), hostPort, hostPortAllocation := .auto,
    servicePort := item.2.tcp.port, protocol := .tcp }

theorem parseFungiPublishEntry_fixed_eq_ok (fixed : runtime ≠ .docker) :
    parseFungiPublishEntry name entry runtime pool = .ok (port, pool') ↔
      FixedEntryOk (name, entry) ∧ entry.tcp.port ∉ pool.reserved ∧
        port = fixedServicePort (name, entry) ∧
        pool' = { pool with reserved := insert entry.tcp.port pool.reserved } := by
  unfold parseFungiPublishEntry
  cases runtime with
  | docker => exact absurd rfl fixed
  | wasmtime | external =>
      simp only [bind_eq_ok, throw_guard_eq_ok, pure_eq_ok, normalizeNonEmpty_eq_ok,
        Prod.mk.injEq, Bool.not_eq_true', Bool.not_eq_false]
      constructor
      · rintro ⟨_, ⟨key, rfl⟩, nonzero, host, parsedHost, loopback, free, rfl, rfl⟩
        have accepted := normalizeFungiTcpHost_eq_ok.mp ⟨parsedHost, loopback⟩
        exact ⟨⟨key, nonzero, accepted.1⟩, free, rfl, rfl⟩
      · rintro ⟨entryOk, free, rfl, rfl⟩
        have accepted := (@normalizeFungiTcpHost_eq_ok s!"publish.{trim name}.tcp.host" _ _).mpr
          ⟨entryOk.host, rfl⟩
        exact ⟨_, ⟨entryOk.key, rfl⟩, entryOk.port, _, accepted.1, accepted.2, free, rfl, rfl⟩

theorem parseFungiPublishEntry_auto_eq_ok :
    parseFungiPublishEntry name entry .docker pool = .ok (port, pool') ↔
      AutoEntryOk (name, entry) ∧ ∃ hostPort,
        allocateAutoHostPort .tcp 64 pool = .ok (hostPort, pool') ∧
          port = autoServicePort (name, entry) hostPort := by
  unfold parseFungiPublishEntry
  simp only [bind_eq_ok, throw_guard_eq_ok, pure_eq_ok, normalizeNonEmpty_eq_ok, Prod.mk.injEq,
    Prod.exists, autoServicePort]
  constructor
  · intro accepted
    obtain ⟨_, ⟨key, rfl⟩, nonzero, noHost, hostPort, _, allocated, rfl, rfl⟩ := accepted
    exact ⟨⟨key, nonzero, by simpa using noHost⟩, hostPort, allocated, rfl⟩
  · intro accepted
    obtain ⟨entryOk, hostPort, allocated, rfl⟩ := accepted
    exact ⟨_, ⟨entryOk.key, rfl⟩, entryOk.port,
      by simp [show entry.tcp.host = none from entryOk.host], hostPort, _, allocated, rfl, rfl⟩

theorem parseFungiPublishEntries_cons_eq_ok
    {rest : List (String × FungiServicePublishEntry)} {ports : List ServicePort} :
    parseFungiPublishEntries runtime ((name, entry) :: rest) pool = .ok (ports, pool') ↔
      ∃ port middle others, parseFungiPublishEntry name entry runtime pool = .ok (port, middle) ∧
        parseFungiPublishEntries runtime rest middle = .ok (others, pool') ∧
        ports = port :: others := by
  rw [parseFungiPublishEntries]
  simp only [bind_eq_ok, pure_eq_ok, Prod.exists, Prod.mk.injEq]
  constructor
  · intro accepted
    obtain ⟨port, middle, first, others, _, remaining, rfl, rfl⟩ := accepted
    exact ⟨port, middle, others, first, remaining, rfl⟩
  · intro accepted
    obtain ⟨port, middle, others, first, remaining, rfl⟩ := accepted
    exact ⟨port, middle, first, others, _, remaining, rfl, rfl⟩

/-- Fixed ports are published when every entry is acceptable and no port is used
twice. -/
theorem parseFungiPublishEntries_fixed_eq_ok (fixed : runtime ≠ .docker)
    {items : List (String × FungiServicePublishEntry)} {ports : List ServicePort} :
    parseFungiPublishEntries runtime items pool = .ok (ports, pool') ↔
      (∀ item ∈ items, FixedEntryOk item) ∧ (items.map (·.2.tcp.port)).Nodup ∧
        (∀ item ∈ items, item.2.tcp.port ∉ pool.reserved) ∧ ports = items.map fixedServicePort ∧
        pool' = { pool with
          reserved := (items.map (·.2.tcp.port)).toFinset ∪ pool.reserved } := by
  induction items generalizing pool ports with
  | nil =>
      simp only [parseFungiPublishEntries, Except.ok.injEq, Prod.mk.injEq]
      simp [eq_comm]
  | cons item rest inductionHypothesis =>
      obtain ⟨name, entry⟩ := item
      simp only [parseFungiPublishEntries_cons_eq_ok,
        parseFungiPublishEntry_fixed_eq_ok fixed, inductionHypothesis]
      constructor
      · intro accepted
        obtain ⟨_, _, _, ⟨entryOk, free, rfl, rfl⟩, ⟨entriesOk, distinct, others, rfl, rfl⟩, rfl⟩ :=
          accepted
        refine ⟨?_, ?_, ?_, rfl, ?_⟩
        · intro item membership
          rcases List.mem_cons.mp membership with rfl | later
          · exact entryOk
          · exact entriesOk item later
        · rw [List.map_cons, List.nodup_cons]
          refine ⟨?_, distinct⟩
          intro repeated
          obtain ⟨item, membership, same⟩ := List.mem_map.mp repeated
          exact others item membership (by simp [same])
        · intro item membership
          rcases List.mem_cons.mp membership with rfl | later
          · exact free
          · intro taken
            exact others item later (Finset.mem_insert_of_mem taken)
        · simp [Finset.insert_union, Finset.union_insert]
      · intro accepted
        obtain ⟨entriesOk, distinct, others, rfl, rfl⟩ := accepted
        rw [List.map_cons, List.nodup_cons] at distinct
        refine ⟨_, _, _, ⟨entriesOk _ List.mem_cons_self, others _ List.mem_cons_self, rfl, rfl⟩,
          ⟨?_, distinct.2, ?_, rfl, ?_⟩, rfl⟩
        · intro item membership
          exact entriesOk item (List.mem_cons_of_mem _ membership)
        · intro item membership taken
          rcases Finset.mem_insert.mp taken with same | taken
          · exact distinct.1 (List.mem_map.mpr ⟨item, membership, same⟩)
          · exact others item (List.mem_cons_of_mem _ membership) taken
        · simp [Finset.insert_union, Finset.union_insert]

end Publish

/-! ## Run sections -/

section Run

variable {run : FungiServiceRun} {publish : BTreeMap String FungiServicePublishEntry}
  {baseDir : String} {roots : ManifestPathRoots} {parsed : RuntimeAndSource}

theorem exactlyOneSourceImage_eq_ok {source : FungiServiceSource} {image : String} :
    exactlyOneSourceImage source = .ok image ↔
      normalizeOptional source.image = some image ∧ normalizeOptional source.url = none ∧
        normalizeOptional source.file = none := by
  unfold exactlyOneSourceImage
  cases normalizeOptional source.url <;> cases normalizeOptional source.file <;>
    cases normalizeOptional source.image <;> simp

theorem wasmtimeSource_eq_ok {source : FungiServiceSource} {result : ServiceSource} :
    wasmtimeSource source baseDir roots = .ok result ↔
      (∃ file, normalizeOptional source.file = some file ∧
        normalizeOptional source.url = none ∧ normalizeOptional source.image = none ∧
        result = .wasmtimeFile (resolveManifestPath file baseDir roots)) ∨
      (∃ url, normalizeOptional source.url = some url ∧
        normalizeOptional source.file = none ∧ normalizeOptional source.image = none ∧
        result = .wasmtimeUrl url) := by
  unfold wasmtimeSource
  cases normalizeOptional source.url <;> cases normalizeOptional source.file <;>
    cases normalizeOptional source.image <;> simp [eq_comm]

private theorem publishedPorts_nonzero :
    (publish.toList.find? fun item => item.2.tcp.port = 0) = none ↔
      ∀ item ∈ publish.toList, item.2.tcp.port ≠ 0 := by
  simp [List.find?_eq_none]

theorem parseFungiRun_docker_eq_ok (provider : run.provider = .docker) :
    parseFungiRun run publish baseDir roots = .ok parsed ↔
      (∀ item ∈ publish.toList, item.2.tcp.port ≠ 0) ∧ run.mode = none ∧ ∃ image,
        exactlyOneSourceImage run.source = .ok image ∧
          parsed = { runtime := .docker, runMode := .command, source := .docker image } := by
  rw [parseFungiRun, ← publishedPorts_nonzero, provider]
  cases publish.toList.find? fun item => item.2.tcp.port = 0 with
  | some item => simp
  | none =>
      simp only [guard_eq_ok, bind_eq_ok, pure_eq_ok, eq_comm (a := parsed)]
      simp

/-- How a Wasmtime component is run. -/
def wasmtimeRunMode : Option FungiServiceRunMode → ServiceRunMode
  | some .http => .http
  | none => .command

theorem parseFungiRun_wasmtime_eq_ok (provider : run.provider = .wasmtime) :
    parseFungiRun run publish baseDir roots = .ok parsed ↔
      (∀ item ∈ publish.toList, item.2.tcp.port ≠ 0) ∧ ∃ source,
        wasmtimeSource run.source baseDir roots = .ok source ∧
          parsed = { runtime := .wasmtime, runMode := wasmtimeRunMode run.mode, source } := by
  rw [parseFungiRun, ← publishedPorts_nonzero, provider]
  cases publish.toList.find? fun item => item.2.tcp.port = 0 with
  | some item => simp
  | none =>
      simp only [bind_eq_ok, pure_eq_ok, eq_comm (a := parsed), true_and]
      rfl

theorem parseFungiExistingTcpRun_eq_ok :
    parseFungiExistingTcpRun publish = .ok parsed ↔ ∃ item,
      publish.toList = [item] ∧ isLoopbackHost (tcpHost item.2.tcp.host) ∧
        item.2.tcp.port ≠ 0 ∧
        parsed = { runtime := .external, runMode := .command,
                   source := .existingTcp (tcpHost item.2.tcp.host) item.2.tcp.port } := by
  unfold parseFungiExistingTcpRun
  split
  · next name entry single =>
      rw [single]
      simp only [bind_eq_ok, throw_guard_eq_ok, pure_eq_ok, Bool.not_eq_true',
        Bool.not_eq_false]
      constructor
      · rintro ⟨host, parsedHost, loopback, nonzero, rfl⟩
        obtain ⟨accepted, rfl⟩ := normalizeFungiTcpHost_eq_ok.mp ⟨parsedHost, loopback⟩
        exact ⟨(name, entry), rfl, accepted, nonzero, rfl⟩
      · rintro ⟨item, same, loopback, nonzero, rfl⟩
        cases same
        have accepted := (@normalizeFungiTcpHost_eq_ok s!"publish.{name}.tcp.host" _ _).mpr
          ⟨loopback, rfl⟩
        exact ⟨_, accepted.1, accepted.2, nonzero, rfl⟩
  · next several =>
      constructor
      · intro impossible
        cases impossible
      · rintro ⟨⟨name, entry⟩, single, -⟩
        exact absurd single (several name entry)

/-- The parsed run section of a Wasmtime service with the given source. -/
def wasmtimeParsedRun (run : FungiServiceRun) (source : ServiceSource) (baseDir : String)
    (roots : ManifestPathRoots) : ParsedRun :=
  { runtimeAndSource := { runtime := .wasmtime, runMode := wasmtimeRunMode run.mode, source }
    env := run.env
    mounts := run.mounts.map fun mount =>
      { hostPath := resolveManifestPath mount.fromPath baseDir roots
        runtimePath := mount.toPath }
    command := run.args }

/-- The parsed run section of a service file without one. -/
def existingTcpParsedRun (tcp : FungiServiceTcp) : ParsedRun :=
  { runtimeAndSource :=
      { runtime := .external, runMode := .command,
        source := .existingTcp (tcpHost tcp.host) tcp.port }
    env := ∅, mounts := [], command := [] }

/-- The run sections that are not for Docker. -/
theorem parseRunSection_fixed_cases {document : FungiServiceDocument} {parsed : ParsedRun}
    (accepted : parseRunSection document baseDir roots = .ok parsed)
    (fixed : parsed.runtimeAndSource.runtime ≠ .docker) :
    (∃ run file, document.run = some run ∧ normalizeOptional run.source.file = some file ∧
      parsed = wasmtimeParsedRun run (.wasmtimeFile (resolveManifestPath file baseDir roots))
        baseDir roots) ∨
    (∃ run url, document.run = some run ∧ normalizeOptional run.source.file = none ∧
      normalizeOptional run.source.url = some url ∧
      parsed = wasmtimeParsedRun run (.wasmtimeUrl url) baseDir roots) ∨
    (∃ item, document.run = none ∧ document.publish.toList = [item] ∧
      isLoopbackHost (tcpHost item.2.tcp.host) ∧ parsed = existingTcpParsedRun item.2.tcp) := by
  unfold parseRunSection at accepted
  cases runSection : document.run with
  | none =>
      rw [runSection, bind_eq_ok] at accepted
      obtain ⟨runtimeAndSource, parsedRun, same⟩ := accepted
      obtain ⟨item, single, loopback, -, rfl⟩ := parseFungiExistingTcpRun_eq_ok.mp parsedRun
      cases same
      exact Or.inr (Or.inr ⟨item, rfl, single, loopback, rfl⟩)
  | some run =>
      rw [runSection, bind_eq_ok] at accepted
      obtain ⟨runtimeAndSource, parsedRun, same⟩ := accepted
      cases same
      cases provider : run.provider with
      | docker =>
          obtain ⟨-, -, image, -, rfl⟩ := (parseFungiRun_docker_eq_ok provider).mp parsedRun
          exact absurd rfl fixed
      | wasmtime =>
          obtain ⟨-, source, parsedSource, rfl⟩ :=
            (parseFungiRun_wasmtime_eq_ok provider).mp parsedRun
          rcases wasmtimeSource_eq_ok.mp parsedSource with
            ⟨file, present, -, -, rfl⟩ | ⟨url, present, absent, -, rfl⟩
          · exact Or.inl ⟨run, file, rfl, present, rfl⟩
          · exact Or.inr (Or.inl ⟨run, url, rfl, absent, present, rfl⟩)

end Run

/-! ## Expose metadata -/

/-- The expose block of entries that share their client metadata. -/
def FungiClientExposeMetadata.expose (metadata : FungiClientExposeMetadata) : ServiceExpose :=
  { transport := .tcp
    usage := metadata.usage.map fun kind => { kind, path := metadata.path }
    iconUrl := metadata.iconUrl }

theorem parseFungiPublishExpose_eq_ok {publish : BTreeMap String FungiServicePublishEntry}
    {expose : Option ServiceExpose} (published : publish.toList ≠ []) :
    parseFungiPublishExpose publish = .ok expose ↔ ∃ metadata : FungiClientExposeMetadata,
      (∀ item ∈ publish.toList, fungiClientExposeMetadata item.2 = metadata) ∧
        expose = some metadata.expose := by
  unfold parseFungiPublishExpose
  cases items : publish.toList with
  | nil => exact absurd items published
  | cons first rest =>
      obtain ⟨firstName, firstEntry⟩ := first
      dsimp only
      split
      · next name entry found =>
          constructor
          · intro impossible
            cases impossible
          · rintro ⟨metadata, same, -⟩
            have different := List.find?_some found
            have membership := List.mem_of_find?_eq_some found
            rw [decide_eq_true_eq] at different
            refine absurd ?_ different
            rw [same _ (List.mem_cons_of_mem _ membership), same _ List.mem_cons_self]
      · next same =>
          rw [List.find?_eq_none] at same
          simp only [ne_eq, decide_not, Bool.not_eq_true, Bool.not_eq_false', decide_eq_true_eq]
            at same
          constructor
          · intro accepted
            refine ⟨fungiClientExposeMetadata firstEntry, ?_, ?_⟩
            · intro item membership
              rcases List.mem_cons.mp membership with rfl | later
              · rfl
              · exact same item later
            · cases accepted
              rfl
          · rintro ⟨metadata, shared, rfl⟩
            cases shared _ List.mem_cons_self
            rfl

end Fungi.Runtime
