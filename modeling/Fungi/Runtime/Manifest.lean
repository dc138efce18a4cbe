import Fungi.Lib.Lines
import Fungi.Lib.Text
import Fungi.Lib.Path
import Fungi.Config.Paths
import Fungi.Util.Protocols
import Fungi.Runtime.Model
import Mathlib.Data.Finset.Insert
import Mathlib.Data.List.Sort
import Mathlib.Data.String.Basic

/-!
# Manifest files

The YAML dialect `fungi: service/v1` of `crates/daemon/src/runtime/manifest.rs`:
its documents, the parser from a text to a `ServiceManifest`, and the encoder that
writes a managed manifest back.  `serde_yaml` is a parameter.
-/

namespace Fungi.Runtime

open Fungi.Lib Fungi.Config Fungi.Util

/-! ## Documents -/

/-- The runtimes that a document can name. -/
inductive FungiServiceProvider where
  | docker
  | wasmtime
  deriving DecidableEq

/-- The modes that a document can name. -/
inductive FungiServiceRunMode where
  | http
  deriving DecidableEq

/-- The sources that a document can name; a run needs exactly one. -/
structure FungiServiceSource where
  url : Option String
  file : Option String
  image : Option String
  deriving DecidableEq

/-- `from` and `to` of one mount. -/
structure FungiServiceMount where
  fromPath : String
  toPath : String
  deriving DecidableEq

/-- How a service is run. -/
structure FungiServiceRun where
  provider : FungiServiceProvider
  mode : Option FungiServiceRunMode
  source : FungiServiceSource
  args : List String
  env : BTreeMap String String
  mounts : List FungiServiceMount
  deriving DecidableEq

/-- The TCP port of an entry. -/
structure FungiServiceTcp where
  host : Option String
  port : UInt16
  deriving DecidableEq

/-- How an entry is shown to other devices. -/
structure FungiServiceClient where
  kind : Option String
  path : Option String
  iconUrl : Option String
  deriving DecidableEq

/-- An entry that a service publishes. -/
structure FungiServicePublishEntry where
  tcp : FungiServiceTcp
  client : Option FungiServiceClient
  deriving DecidableEq

/-- The field `instance` of the source is `instanceName` here. -/
structure FungiServiceDocument where
  fungi : String
  id : String
  instanceName : Option String
  run : Option FungiServiceRun
  publish : BTreeMap String FungiServicePublishEntry
  deriving DecidableEq

/-- What the parser looks at in an untyped YAML value. -/
inductive YamlValue where
  | mapping (stringKeys : List String)
  | other

/-- An error of the YAML parser. -/
structure YamlError where
  location : Option (Nat × Nat)
  text : String
  deriving DecidableEq

/-- `serde_yaml`: it reads back the documents it writes, and writes the fields in
the order they are declared. -/
structure SerdeYaml where
  fromStr : String → Except YamlError FungiServiceDocument
  fromStrValue : String → Except YamlError YamlValue
  toString : FungiServiceDocument → Except YamlError String
  fromStr_toString : ∀ document text, toString document = .ok text → fromStr text = .ok document
  toString_starts : ∀ document text, toString document = .ok text →
    "fungi:".toList <+: text.toList

/-- The codec of finitely many documents, each under a text of its own. -/
def SerdeYaml.ofTable (table : List (String × FungiServiceDocument))
    (distinct : (table.map (·.1)).Nodup)
    (starts : ∀ item ∈ table, "fungi:".toList <+: item.1.toList) : SerdeYaml :=
  { fromStr := fun text =>
      match table.find? (·.1 = text) with
      | some item => .ok item.2
      | none => .error { location := none, text := "unknown document" }
    fromStrValue := fun text =>
      if table.any (·.1 = text) then .ok (.mapping ["fungi"])
      else .error { location := none, text := "unknown document" }
    toString := fun document =>
      match table.find? (·.2 = document) with
      | some item => .ok item.1
      | none => .error { location := none, text := "unknown document" }
    fromStr_toString := by
      intro document text written
      split at written
      · next item found =>
          have membership := List.mem_of_find?_eq_some found
          have same := List.find?_some found
          rw [decide_eq_true_eq] at same
          cases written
          split
          · next item' found' =>
              have same' := List.find?_some found'
              rw [decide_eq_true_eq] at same'
              rw [List.inj_on_of_nodup_map distinct (List.mem_of_find?_eq_some found')
                membership same', same]
          · next absent =>
              rw [List.find?_eq_none] at absent
              exact absurd (decide_eq_true rfl) (absent item membership)
      · cases written
    toString_starts := by
      intro document text written
      split at written
      · next item found =>
          cases written
          exact starts item (List.mem_of_find?_eq_some found)
      · cases written }

/-- A text without the whitespace around it, which must leave something. -/
def normalizeNonEmpty (value fieldName : String) : Except Error String :=
  if trim value = "" then .error (.message s!"{fieldName} must not be empty")
  else .ok (trim value)

/-- A text of whitespace counts as none. -/
def normalizeOptional (value : Option String) : Option String :=
  value.bind fun value => if trim value = "" then none else some (trim value)

/-! ## Front matter -/

/-- A document in front of a text, and that text. -/
structure FrontMatter where
  yaml : String
  body : String

/-- Whether a text begins with another. -/
def startsWith (text start : String) : Bool := start.toList.isPrefixOf text.toList

/-- The rest of a text after its beginning. -/
def stripPrefix (text start : String) : Option String :=
  if startsWith text start then some (String.ofList (text.toList.drop start.toList.length))
  else none

/-- `split_inclusive('\n')`. -/
def splitInclusive : List Char → List (List Char)
  | [] => []
  | character :: rest =>
      if character = '\n' then [character] :: splitInclusive rest
      else
        match splitInclusive rest with
        | [] => [[character]]
        | line :: lines => (character :: line) :: lines

theorem splitInclusive_eq (text : List Char) : splitInclusive text = Lines.split '\n' text := by
  induction text with
  | nil => rfl
  | cons character rest inductionHypothesis =>
      rw [splitInclusive, Lines.split, inductionHypothesis]
      cases Lines.split '\n' rest <;> rfl

/-- A line without its end; a carriage return is part of an end only before the newline. -/
def withoutLineEnd (line : List Char) : List Char :=
  if line.getLast? = some '\n' then
    let line := line.dropLast
    if line.getLast? = some '\r' then line.dropLast else line
  else line

/-- `str::lines`. -/
def textLines (text : String) : List String :=
  (splitInclusive text.toList).map fun line => String.ofList (withoutLineEnd line)

/-- The characters that end a line. -/
def isLineEnd (character : Char) : Bool := character = '\r' ∨ character = '\n'

/-- Split the lines at the closing fence. -/
def splitAtFence : List Char → List (List Char) → Option FrontMatter
  | _, [] => none
  | before, line :: lines =>
      if line.rdropWhile isLineEnd = "---".toList then
        some { yaml := String.ofList before, body := String.ofList lines.flatten }
      else splitAtFence (before ++ line) lines

/-- The YAML between two fences at the top, and what follows.  A fence that is not closed is an
error, unless the text as a whole is YAML. -/
def splitFrontMatter (yaml : SerdeYaml) (content : String) :
    Except Error (Option FrontMatter) :=
  match (stripPrefix content "---\n").orElse fun _ => stripPrefix content "---\r\n" with
  | none => .ok none
  | some rest =>
      match splitAtFence [] (splitInclusive rest.toList) with
      | some frontMatter => .ok (some frontMatter)
      | none =>
          match yaml.fromStrValue content with
          | .ok _ => .ok none
          | .error _ =>
              .error (.message "Fungi service file front matter is missing closing ---")

/-- The error for a YAML text, with its place where the parser knows it. -/
def formatYamlParseError (label : String) (error : YamlError) : Error :=
  match error.location with
  | some (line, column) =>
      .message s!"Failed to parse {label} at line {line}, column {column}: {error.text}"
  | none => .message s!"Failed to parse {label}: {error.text}"

/-- Parse a YAML text as a document. -/
def parseFungiServiceYaml (yaml : SerdeYaml) (text label : String) :
    Except Error FungiServiceDocument :=
  match yaml.fromStr text with
  | .ok document => .ok document
  | .error error => .error (formatYamlParseError label error)

/-- Whether a text without front matter is meant as a document. -/
def shouldParseAsFungiServiceYaml (yaml : SerdeYaml) (content : String) : Bool :=
  let trimmed := trimStart content
  if startsWith trimmed "fungi:" then true
  else if !startsWith trimmed "---" then false
  else
    match yaml.fromStrValue content with
    | .ok (.mapping keys) => keys.contains "fungi"
    | .ok .other => false
    | .error _ =>
        ((textLines trimmed).take 32).any fun line => startsWith (trimStart line) "fungi:"

/-- The document of a text, in front of it or as the whole of it. -/
def parseFungiServiceDocument (yaml : SerdeYaml) (content : String) :
    Except Error (Option FungiServiceDocument) := do
  match ← splitFrontMatter yaml content with
  | some frontMatter =>
      let document ← parseFungiServiceYaml yaml frontMatter.yaml "Fungi service front matter"
      return some document
  | none =>
      if shouldParseAsFungiServiceYaml yaml content then
        let document ← parseFungiServiceYaml yaml content "Fungi service YAML"
        return some document
      else return none

/-- A manifest must be a document. -/
def parseRequiredFungiServiceDocument (yaml : SerdeYaml) (content : String) :
    Except Error FungiServiceDocument := do
  match ← parseFungiServiceDocument yaml content with
  | some document => return document
  | none => throw (.message "service manifest must use fungi: service/v1")

namespace FungiServiceDocument

/-- The id of the definition that a service is made from. -/
def definitionId (self : FungiServiceDocument) : Except Error String :=
  normalizeNonEmpty self.id "id"

/-- The name of a service: its instance name, else the id of its definition. -/
def serviceName (self : FungiServiceDocument) : Except Error String :=
  match self.instanceName with
  | some instanceName => normalizeNonEmpty instanceName "instance"
  | none => self.definitionId

end FungiServiceDocument

/-- The name of the service in a manifest text. -/
def peekServiceManifestName (yaml : SerdeYaml) (content : String) : Except Error String := do
  let document ← parseRequiredFungiServiceDocument yaml content
  document.serviceName

/-! ## Paths -/

/-- The directories that the variables in paths stand for. -/
structure ManifestPathRoots where
  serviceAppdataDir : String
  serviceArtifactsDir : String
  userRootDir : String
  userHomeDir : String

/-- The directories of a service. -/
def ManifestPathRoots.forLocalServiceId (paths : FungiPaths) (localServiceId : String) :
    ManifestPathRoots :=
  { serviceAppdataDir := paths.serviceAppdataDir localServiceId
    serviceArtifactsDir := paths.serviceArtifactsDir localServiceId
    userRootDir := paths.userRoot
    userHomeDir := paths.userHome }

/-- Replace one `$fungi` path variable. -/
def expandVariable (variableName value : String) (path : List Char) : List Char :=
  replaceAll variableName.toList value.toList path

/-- The four path variables, replaced one after the other. -/
@[irreducible] def expandManifestPath (roots : ManifestPathRoots) (path : String) : String :=
  String.ofList <|
    expandVariable "$fungi.root" roots.userRootDir <|
    expandVariable "$fungi.workspace" roots.userHomeDir <|
    expandVariable "$fungi.service.data" roots.serviceAppdataDir <|
    expandVariable "$fungi.service.artifacts" roots.serviceArtifactsDir path.toList

/-- A path with its variables expanded, below the base directory if it is relative. -/
@[irreducible] def resolveManifestPath (path baseDir : String) (roots : ManifestPathRoots) :
    String :=
  let expanded := expandManifestPath roots path
  if Path.isAbsolute expanded then expanded else Path.join baseDir expanded

/-! ## Host ports -/

/-- The host ports a manifest may not use, and the operating system's answers to
the automatic allocations still to come. -/
structure PortPool where
  reserved : Finset UInt16
  answers : List UInt16

/-- Bind port 0, read the port and release it.  Without an answer the bind fails. -/
def reserveEphemeralHostPort (protocol : ServicePortProtocol) (pool : PortPool) :
    Except Error (UInt16 × PortPool) :=
  match pool.answers with
  | [] =>
      .error (.message (match protocol with
        | .tcp => "failed to reserve an automatic TCP host port"
        | .udp => "failed to reserve an automatic UDP host port"))
  | port :: answers => .ok (port, { pool with answers })

/-- The loop of `allocate_auto_host_port`, with the attempts left. -/
def allocateAutoHostPort (protocol : ServicePortProtocol) :
    Nat → PortPool → Except Error (UInt16 × PortPool)
  | 0, _ =>
      .error (.message "failed to allocate host port automatically from the operating system")
  | attempts + 1, pool => do
      let (port, pool) ← reserveEphemeralHostPort protocol pool
      if port ∈ pool.reserved then allocateAutoHostPort protocol attempts pool
      else return (port, { pool with reserved := insert port pool.reserved })

/-- A host that is not given is the loopback address. -/
def normalizeFungiTcpHost (value : Option String) (fieldName : String) : Except Error String :=
  match value with
  | some value => normalizeNonEmpty value fieldName
  | none => .ok "127.0.0.1"

/-- Services outside the daemon are only reached on this device. -/
def isLoopbackHost (host : String) : Bool := host = "127.0.0.1" ∨ host = "localhost"

/-- The port of one entry; Docker services get a free host port from the pool. -/
def parseFungiPublishEntry (name : String) (entry : FungiServicePublishEntry)
    (runtime : RuntimeKind) (pool : PortPool) : Except Error (ServicePort × PortPool) := do
  let name ← normalizeNonEmpty name "publish entry key"
  let servicePort := entry.tcp.port
  if servicePort = 0 then
    throw (.message s!"publish.{name}.tcp.port must be greater than 0")
  else
    match runtime with
    | .docker =>
        if entry.tcp.host.isSome then
          throw (.message s!"publish.{name}.tcp.host is not used with provider: docker; omit it")
        else
          let (port, pool) ← allocateAutoHostPort .tcp 64 pool
          return ({ name := some name, hostPort := port, hostPortAllocation := .auto,
                    servicePort, protocol := .tcp }, pool)
    | .wasmtime | .external =>
        let host ← normalizeFungiTcpHost entry.tcp.host s!"publish.{name}.tcp.host"
        if !isLoopbackHost host then
          throw (.message
            s!"publish.{name}.tcp.host currently supports only 127.0.0.1 or localhost")
        else if servicePort ∈ pool.reserved then
          throw (.message s!"publish.{name}.tcp.port {servicePort} is already reserved")
        else
          return ({ name := some name, hostPort := servicePort, hostPortAllocation := .fixed,
                    servicePort, protocol := .tcp },
                  { pool with reserved := insert servicePort pool.reserved })

/-- `parse_fungi_publish_entries`, over the entries in key order. -/
def parseFungiPublishEntries (runtime : RuntimeKind) :
    List (String × FungiServicePublishEntry) → PortPool →
      Except Error (List ServicePort × PortPool)
  | [], pool => .ok ([], pool)
  | (name, entry) :: rest, pool => do
      let (port, pool) ← parseFungiPublishEntry name entry runtime pool
      let (ports, pool) ← parseFungiPublishEntries runtime rest pool
      return (port :: ports, pool)

/-! ## Running and exposing -/

/-- How a service is run, and where it comes from. -/
structure RuntimeAndSource where
  runtime : RuntimeKind
  runMode : ServiceRunMode
  source : ServiceSource

/-- The image of a Docker service, as its only source. -/
def exactlyOneSourceImage (source : FungiServiceSource) : Except Error String :=
  let url := normalizeOptional source.url
  let file := normalizeOptional source.file
  let image := normalizeOptional source.image
  if url.isSome.toNat + file.isSome.toNat + image.isSome.toNat ≠ 1 then
    .error (.message "run.source must set exactly one of url, file, or image")
  else
    match image with
    | some image => .ok image
    | none =>
        .error (.message
          "provider: docker requires source.image, not source.url or source.file")

/-- The component of a Wasmtime service, as its only source. -/
def wasmtimeSource (source : FungiServiceSource) (baseDir : String)
    (roots : ManifestPathRoots) : Except Error ServiceSource :=
  match normalizeOptional source.file, normalizeOptional source.url,
      normalizeOptional source.image with
  | some file, none, none => .ok (.wasmtimeFile (resolveManifestPath file baseDir roots))
  | none, some url, none => .ok (.wasmtimeUrl url)
  | none, none, some _ =>
      .error (.message
        "provider: wasmtime requires source.url or source.file, not source.image")
  | none, none, none =>
      .error (.message "provider: wasmtime requires source.url or source.file")
  | _, _, _ =>
      .error (.message "provider: wasmtime accepts exactly one of source.url or source.file")

/-- The run section of a document with one. -/
def parseFungiRun (run : FungiServiceRun) (publish : BTreeMap String FungiServicePublishEntry)
    (baseDir : String) (roots : ManifestPathRoots) : Except Error RuntimeAndSource :=
  match publish.toList.find? fun item => item.2.tcp.port = 0 with
  | some (name, _) => .error (.message s!"publish.{name}.tcp.port must be greater than 0")
  | none =>
      match run.provider with
      | .docker =>
          if run.mode.isSome then
            .error (.message "run.mode is currently supported only with provider: wasmtime")
          else do
            let image ← exactlyOneSourceImage run.source
            return { runtime := .docker, runMode := .command, source := .docker image }
      | .wasmtime => do
          let source ← wasmtimeSource run.source baseDir roots
          return { runtime := .wasmtime
                   runMode := match run.mode with
                     | some .http => .http
                     | none => .command
                   source }

/-- A document without a run section publishes one port of this device. -/
def parseFungiExistingTcpRun (publish : BTreeMap String FungiServicePublishEntry) :
    Except Error RuntimeAndSource :=
  match publish.toList with
  | [(name, entry)] => do
      let host ← normalizeFungiTcpHost entry.tcp.host s!"publish.{name}.tcp.host"
      if !isLoopbackHost host then
        throw (.message
          s!"publish.{name}.tcp.host currently supports only 127.0.0.1 or localhost")
      else if entry.tcp.port = 0 then
        throw (.message s!"publish.{name}.tcp.port must be greater than 0")
      else
        return { runtime := .external, runMode := .command,
                 source := .existingTcp host entry.tcp.port }
  | _ =>
      .error (.message
        "service files without run currently support exactly one publish entry")

/-- How an entry is shown, normalized. -/
structure FungiClientExposeMetadata where
  usage : Option ServiceExposeUsageKind
  path : Option String
  iconUrl : Option String
  deriving DecidableEq

/-- Any other kind of use is raw. -/
def exposeUsageKind (kind : String) : ServiceExposeUsageKind :=
  if toAsciiLowercase kind = "web" then .web
  else if toAsciiLowercase kind = "ssh" then .ssh
  else .raw

/-- How an entry is shown; a path is kept for web services only. -/
def fungiClientExposeMetadata (entry : FungiServicePublishEntry) : FungiClientExposeMetadata :=
  let usage := entry.client.bind fun client =>
    (normalizeOptional client.kind).map exposeUsageKind
  { usage
    path := entry.client.bind fun client =>
      if usage = some .web then normalizeOptional client.path else none
    iconUrl := entry.client.bind fun client => normalizeOptional client.iconUrl }

/-- All entries of a service are shown alike. -/
def parseFungiPublishExpose (publish : BTreeMap String FungiServicePublishEntry) :
    Except Error (Option ServiceExpose) :=
  match publish.toList with
  | [] => .ok none
  | (firstName, firstEntry) :: rest =>
      let metadata := fungiClientExposeMetadata firstEntry
      match rest.find? fun item => fungiClientExposeMetadata item.2 ≠ metadata with
      | some (name, _) =>
          .error (.message <|
            s!"publish.{name}.client metadata must match publish.{firstName}.client; " ++
              "per-entry client handling is not supported yet")
      | none =>
          .ok (some
            { transport := .tcp
              usage := metadata.usage.map fun kind => { kind, path := metadata.path }
              iconUrl := metadata.iconUrl })

/-! ## Documents to manifests -/

/-- The parts of a manifest that its `run` section decides. -/
structure ParsedRun where
  runtimeAndSource : RuntimeAndSource
  env : BTreeMap String String
  mounts : List ServiceMount
  command : List String

/-- The run section of a document, or the port it stands for. -/
def parseRunSection (document : FungiServiceDocument) (baseDir : String)
    (roots : ManifestPathRoots) : Except Error ParsedRun :=
  match document.run with
  | some run => do
      let runtimeAndSource ← parseFungiRun run document.publish baseDir roots
      return { runtimeAndSource
               env := run.env
               mounts := run.mounts.map fun mount =>
                 { hostPath := resolveManifestPath mount.fromPath baseDir roots
                   runtimePath := mount.toPath }
               command := run.args }
  | none => do
      let runtimeAndSource ← parseFungiExistingTcpRun document.publish
      return { runtimeAndSource, env := ∅, mounts := [], command := [] }

/-- `into_service_manifest_for_node_with_service_paths`.  Besides the manifest it
returns the operating system's unused answers. -/
def FungiServiceDocument.intoServiceManifest (self : FungiServiceDocument) (baseDir : String)
    (roots : ManifestPathRoots) (usedHostPorts : Finset UInt16) (answers : List UInt16) :
    Except Error (ServiceManifest × List UInt16) := do
  if self.fungi ≠ "service/v1" then
    throw (.message s!"unsupported fungi service format: {self.fungi}")
  else
    let definitionId ← self.definitionId
    let serviceName ← self.serviceName
    if self.publish.isEmpty then
      throw (.message "service file requires at least one publish entry")
    else
      let parsed ← parseRunSection self baseDir roots
      let (ports, pool) ← parseFungiPublishEntries parsed.runtimeAndSource.runtime
        self.publish.toList { reserved := usedHostPorts, answers }
      let expose ← parseFungiPublishExpose self.publish
      return ({ name := serviceName
                definitionId := some definitionId
                runtime := parsed.runtimeAndSource.runtime
                runMode := parsed.runtimeAndSource.runMode
                source := parsed.runtimeAndSource.source
                expose
                env := parsed.env
                mounts := parsed.mounts
                ports
                command := parsed.command
                entrypoint := []
                workingDir := none
                labels := ∅ }, pool.answers)

/-- Parse a manifest text for a service whose directories are known. -/
def parseServiceManifestYamlForServicePaths (yaml : SerdeYaml) (content baseDir : String)
    (roots : ManifestPathRoots) (usedHostPorts : Finset UInt16) (answers : List UInt16) :
    Except Error (ServiceManifest × List UInt16) := do
  let document ← parseRequiredFungiServiceDocument yaml content
  document.intoServiceManifest baseDir roots usedHostPorts answers

/-- `parse_service_manifest_yaml_with_policy`: the path variables of a manifest
that is not managed yet use its name in place of a local service id. -/
def parseServiceManifestYaml (yaml : SerdeYaml) (content baseDir : String) (paths : FungiPaths)
    (usedHostPorts : Finset UInt16) (answers : List UInt16) :
    Except Error (ServiceManifest × List UInt16) := do
  let document ← parseRequiredFungiServiceDocument yaml content
  let serviceName ← document.serviceName
  document.intoServiceManifest baseDir (.forLocalServiceId paths serviceName) usedHostPorts
    answers

/-- Parse the manifest text of a stored service. -/
def parseManagedServiceManifestYaml (yaml : SerdeYaml) (content baseDir : String)
    (paths : FungiPaths) (localServiceId : String) (answers : List UInt16) :
    Except Error (ServiceManifest × List UInt16) :=
  parseServiceManifestYamlForServicePaths yaml content baseDir
    (.forLocalServiceId paths localServiceId) ∅ answers

/-! ## Manifests to documents -/

/-- The mounts of a manifest in a document. -/
def manifestMountsToFungi (mounts : List ServiceMount) : List FungiServiceMount :=
  mounts.map fun mount => { fromPath := mount.hostPath, toPath := mount.runtimePath }

/-- The kinds of use by the names that documents have for them. -/
def exposeUsageKindText : ServiceExposeUsageKind → String
  | .web => "web"
  | .ssh => "ssh"
  | .raw => "raw"

/-- How a manifest is shown, in a document. -/
def manifestClientToFungi (expose : Option ServiceExpose) : Option FungiServiceClient :=
  expose.bind fun expose =>
    let kind := expose.usage.map fun usage => exposeUsageKindText usage.kind
    let path := expose.usage.bind fun usage => if usage.kind = .web then usage.path else none
    if kind = none ∧ path = none ∧ expose.iconUrl = none then none
    else some { kind, path, iconUrl := expose.iconUrl }

/-- The key under which the port at position `index` is published. -/
def publishName (index : Nat) (port : ServicePort) : String :=
  port.name.getD (if index = 0 then "main" else s!"main-{index}")

/-- The entry of a port in a document. -/
def publishEntry (manifest : ServiceManifest) (port : ServicePort) : FungiServicePublishEntry :=
  { tcp := match manifest.source with
      | .existingTcp host port => { host := some host, port }
      | _ => { host := none, port := port.servicePort }
    client := manifestClientToFungi manifest.expose }

/-- The entries of all ports. -/
def publishItems (manifest : ServiceManifest) : List (String × FungiServicePublishEntry) :=
  manifest.ports.mapIdx fun index port => (publishName index port, publishEntry manifest port)

/-- The entries of a manifest in a document. -/
def manifestPublishToFungi (manifest : ServiceManifest) :
    BTreeMap String FungiServicePublishEntry :=
  Std.ExtTreeMap.ofList (publishItems manifest) compare

/-- The `run` section of a Wasmtime manifest with the given source. -/
def wasmtimeRunToFungi (manifest : ServiceManifest) (source : FungiServiceSource) :
    FungiServiceRun :=
  { provider := .wasmtime
    mode := if manifest.runMode = .http then some .http else none
    source
    args := manifest.command
    env := manifest.env
    mounts := manifestMountsToFungi manifest.mounts }

/-- The run section of a manifest, if it has one. -/
def manifestRunToFungi (manifest : ServiceManifest) : Option FungiServiceRun :=
  match manifest.source with
  | .docker image =>
      some { provider := .docker
             mode := none
             source := { url := none, file := none, image := some image }
             args := manifest.command
             env := manifest.env
             mounts := manifestMountsToFungi manifest.mounts }
  | .wasmtimeFile component =>
      some (wasmtimeRunToFungi manifest { url := none, file := some component, image := none })
  | .wasmtimeUrl url =>
      some (wasmtimeRunToFungi manifest { url := some url, file := none, image := none })
  | .existingTcp _ _ => none

/-- The document `service_manifest_to_yaml` encodes. -/
def manifestDocument (manifest : ServiceManifest) : FungiServiceDocument :=
  let id := manifest.definitionId.getD manifest.name
  { fungi := "service/v1"
    id
    instanceName := if manifest.name ≠ id then some manifest.name else none
    run := manifestRunToFungi manifest
    publish := manifestPublishToFungi manifest }

/-- A manifest as a document; what a document cannot say is refused. -/
def serviceManifestToYaml (yaml : SerdeYaml) (manifest : ServiceManifest) :
    Except Error String :=
  if manifest.entrypoint ≠ [] then
    .error (.message "fungi: service/v1 does not support entrypoint")
  else if manifest.workingDir.isSome then
    .error (.message "fungi: service/v1 does not support working_dir")
  else if ¬ manifest.labels.isEmpty then
    .error (.message "fungi: service/v1 does not support labels")
  else
    match yaml.toString (manifestDocument manifest) with
    | .ok text => .ok text
    | .error _ => .error (.message "Failed to encode Fungi service YAML")

/-! ## Exposed endpoints -/

/-- The endpoints that other devices can reach. -/
def serviceExposeEndpointBindings (manifest : ServiceManifest) :
    List ServiceExposeEndpointBinding :=
  match manifest.expose with
  | none => []
  | some expose =>
      if expose.transport ≠ .tcp then []
      else
        let endpoints := (manifest.ports.filter (·.protocol = .tcp)).filterMap fun port =>
          port.name.bind fun name =>
            let name := trim name
            if name = "" then none
            else some { name, protocol := servicePortProtocol manifest.name name,
                        hostPort := port.hostPort, servicePort := port.servicePort }
        endpoints.insertionSort (fun left right => left.name ≤ right.name)

end Fungi.Runtime
