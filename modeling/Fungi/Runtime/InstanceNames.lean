import Fungi.Runtime.ManifestReload

/-!
# Naming an instance

`service_manifest_with_instance_name` of `crates/daemon/src/runtime/manifest.rs` writes the document
of a manifest again under another name, and puts it back in front of its body.
-/

namespace Fungi.Runtime

open Fungi.Lib

/-! ## The rewrite -/

/-- Give a document an instance name. -/
def FungiServiceDocument.setInstanceName (document : FungiServiceDocument) (serviceName : String) :
    FungiServiceDocument :=
  { document with instanceName := some serviceName }

/-- A text without the line that starts a document, ended by a line break. -/
def yamlWithoutDocumentStart (yaml : String) : String :=
  let yaml := ((stripPrefix yaml "---\n").orElse fun _ => stripPrefix yaml "---\r\n").getD yaml
  if yaml.toList.getLast? = some '\n' then yaml else yaml.push '\n'

/-- A manifest text under another instance name; a body behind the front matter is kept. -/
def serviceManifestWithInstanceName (yaml : SerdeYaml) (content serviceName : String) :
    Except Error String := do
  let serviceName ← normalizeNonEmpty serviceName "service name"
  match ← splitFrontMatter yaml content with
  | some frontMatter =>
      let document ← parseFungiServiceYaml yaml frontMatter.yaml "Fungi service front matter"
      match yaml.toString (document.setInstanceName serviceName) with
      | .ok text => return "---\n" ++ yamlWithoutDocumentStart text ++ "---\n" ++ frontMatter.body
      | .error _ => throw (.message "Failed to encode Fungi service front matter")
  | none =>
      if shouldParseAsFungiServiceYaml yaml content then
        let document ← parseFungiServiceYaml yaml content "Fungi service YAML"
        match yaml.toString (document.setInstanceName serviceName) with
        | .ok text => return text
        | .error _ => throw (.message "Failed to encode Fungi service YAML")
      else throw (.message "service manifest must use fungi: service/v1")

/-! ## Documents and bodies -/

/-- What the parser finds in a text: a document, and the body behind it if it is front matter. -/
inductive Reads (yaml : SerdeYaml) (content : String) :
    FungiServiceDocument → Option String → Prop
  | frontMatter {frontMatter : FrontMatter} {document : FungiServiceDocument}
      (splits : splitFrontMatter yaml content = .ok (some frontMatter))
      (decoded : yaml.fromStr frontMatter.yaml = .ok document) :
      Reads yaml content document (some frontMatter.body)
  | alone {document : FungiServiceDocument} (splits : splitFrontMatter yaml content = .ok none)
      (recognised : shouldParseAsFungiServiceYaml yaml content = true)
      (decoded : yaml.fromStr content = .ok document) : Reads yaml content document none

/-- The text of a document in front of its body. -/
def layOut (text : String) : Option String → String
  | some body => "---\n" ++ text ++ "---\n" ++ body
  | none => text

/-- The text behind the front matter. -/
def frontMatterBody (yaml : SerdeYaml) (content : String) : Except Error (Option String) :=
  (splitFrontMatter yaml content).map fun frontMatter => frontMatter.map (·.body)

/-- A line that ends front matter. -/
def IsFence (line : List Char) : Prop := line.rdropWhile isLineEnd = "---".toList

instance (line : List Char) : Decidable (IsFence line) := inferInstanceAs (Decidable (_ = _))

/-- What `serde_yaml` writes may stand between fences: its last line is ended, and no line of it is
a fence. -/
structure SerdeYaml.WritesFrontMatter (yaml : SerdeYaml) : Prop where
  ended : ∀ {document text}, yaml.toString document = .ok text → text.toList.getLast? = some '\n'
  noFence : ∀ {document text}, yaml.toString document = .ok text →
    ∀ line ∈ splitInclusive text.toList, ¬ IsFence line

section Texts

variable {yaml : SerdeYaml} {content text : String} {document : FungiServiceDocument}
  {body : Option String}

theorem parseFungiServiceYaml_eq_ok {label : String} :
    parseFungiServiceYaml yaml text label = .ok document ↔ yaml.fromStr text = .ok document := by
  unfold parseFungiServiceYaml
  cases yaml.fromStr text with
  | ok found => simp
  | error failure => simp

/-- The parser accepts what it finds. -/
theorem parseRequiredFungiServiceDocument_eq_ok :
    parseRequiredFungiServiceDocument yaml content = .ok document ↔
      ∃ body, Reads yaml content document body := by
  rw [parseRequiredFungiServiceDocument, bind_eq_ok]
  constructor
  · rintro ⟨found, parsed, required⟩
    cases found with
    | none => cases required
    | some found =>
        obtain rfl := pure_eq_ok.mp required
        rw [parseFungiServiceDocument, bind_eq_ok] at parsed
        obtain ⟨split, splits, parsed⟩ := parsed
        cases split with
        | some frontMatter =>
            obtain ⟨document, decoded, same⟩ := bind_eq_ok.mp parsed
            obtain rfl := Option.some.inj (pure_eq_ok.mp same)
            exact ⟨_, .frontMatter splits (parseFungiServiceYaml_eq_ok.mp decoded)⟩
        | none =>
            dsimp only at parsed
            split at parsed
            · next recognised =>
                obtain ⟨document, decoded, same⟩ := bind_eq_ok.mp parsed
                obtain rfl := Option.some.inj (pure_eq_ok.mp same)
                exact ⟨_, .alone splits recognised (parseFungiServiceYaml_eq_ok.mp decoded)⟩
            · cases pure_eq_ok.mp parsed
  · rintro ⟨body, reads⟩
    refine ⟨some document, ?_, rfl⟩
    rw [parseFungiServiceDocument, bind_eq_ok]
    cases reads with
    | frontMatter splits decoded =>
        refine ⟨_, splits, ?_⟩
        dsimp only
        rw [parseFungiServiceYaml_eq_ok.mpr decoded]
        rfl
    | alone splits recognised decoded =>
        refine ⟨_, splits, ?_⟩
        dsimp only
        rw [if_pos recognised, parseFungiServiceYaml_eq_ok.mpr decoded]
        rfl

theorem Reads.frontMatterBody (reads : Reads yaml content document body) :
    frontMatterBody yaml content = .ok body := by
  unfold Runtime.frontMatterBody
  cases reads with
  | frontMatter splits decoded =>
      rw [splits]
      rfl
  | alone splits recognised decoded =>
      rw [splits]
      rfl

/-! ## Fences -/

theorem splitAtFence_fence {line : List Char} (isFence : IsFence line) (before : List Char)
    (lines : List (List Char)) :
    splitAtFence before (line :: lines) =
      some { yaml := String.ofList before, body := String.ofList lines.flatten } :=
  if_pos isFence

theorem splitAtFence_line {line : List Char} (noFence : ¬ IsFence line) (before : List Char)
    (lines : List (List Char)) :
    splitAtFence before (line :: lines) = splitAtFence (before ++ line) lines :=
  if_neg noFence

/-- The first fence ends the front matter. -/
theorem splitAtFence_append {fence : List Char} (isFence : IsFence fence)
    {lines : List (List Char)} (noFence : ∀ line ∈ lines, ¬ IsFence line)
    (before : List Char) (rest : List (List Char)) :
    splitAtFence before (lines ++ fence :: rest) =
      some { yaml := String.ofList (before ++ lines.flatten)
             body := String.ofList rest.flatten } := by
  induction lines generalizing before with
  | nil =>
      rw [List.nil_append, splitAtFence_fence isFence, List.flatten_nil, List.append_nil]
  | cons line lines inductionHypothesis =>
      rw [List.forall_mem_cons] at noFence
      rw [List.cons_append, splitAtFence_line noFence.1, inductionHypothesis noFence.2,
        List.flatten_cons, List.append_assoc]

/-- The lines of a document, the fence behind it and its body. -/
theorem splitInclusive_laidOut {front : List Char} (ended : front.getLast? = some '\n')
    (body : List Char) :
    splitInclusive (front ++ "---\n".toList ++ body) =
      splitInclusive front ++ "---\n".toList :: splitInclusive body := by
  obtain ⟨lines, rfl⟩ := List.getLast?_eq_some_iff.mp ended
  simp only [splitInclusive_eq]
  have regrouped : lines ++ ['\n'] ++ "---\n".toList ++ body =
      lines ++ '\n' :: ("---".toList ++ '\n' :: body) := by simp
  rw [regrouped, Lines.split_append, Lines.split_append "---".toList]
  rfl

theorem stripPrefix_append (start rest : String) :
    stripPrefix (start ++ rest) start = some rest := by
  rw [stripPrefix, startsWith, String.toList_append, if_pos, List.drop_left, String.ofList_toList]
  exact List.isPrefixOf_iff_prefix.mpr (List.prefix_append _ _)

variable (writes : yaml.WritesFrontMatter)
include writes

/-- What is laid out in front of a body is split off it again. -/
theorem splitFrontMatter_laidOut (encoded : yaml.toString document = .ok text) (body : String) :
    splitFrontMatter yaml (layOut text (some body)) = .ok (some { yaml := text, body }) := by
  have stripped : stripPrefix (layOut text (some body)) "---\n" =
      some (text ++ "---\n" ++ body) := by
    rw [layOut, String.append_assoc, String.append_assoc, stripPrefix_append, String.append_assoc]
  unfold splitFrontMatter
  rw [stripped]
  dsimp only [Option.orElse]
  rw [String.toList_append, String.toList_append, splitInclusive_laidOut (writes.ended encoded),
    splitAtFence_append (by decide) (writes.noFence encoded)]
  simp only [splitInclusive_eq, Lines.flatten_split, List.nil_append, String.ofList_toList]

/-- What is laid out is read again, with the body it was laid out with. -/
theorem reads_layOut (encoded : yaml.toString document = .ok text) (body : Option String) :
    Reads yaml (layOut text body) document body := by
  have decoded := yaml.fromStr_toString _ _ encoded
  cases body with
  | some body => exact .frontMatter (splitFrontMatter_laidOut writes encoded body) decoded
  | none =>
      exact .alone (splitFrontMatter_encoded encoded)
        (shouldParseAsFungiServiceYaml_encoded encoded) decoded

theorem yamlWithoutDocumentStart_encoded (encoded : yaml.toString document = .ok text) :
    yamlWithoutDocumentStart text = text := by
  unfold yamlWithoutDocumentStart
  rw [stripPrefix_encoded encoded (by decide), stripPrefix_encoded encoded (by decide)]
  exact if_pos (writes.ended encoded)

/-- The document is written under its new name, and laid out as before. -/
theorem Reads.rename {name : String} (reads : Reads yaml content document body)
    (named : trim name ≠ "")
    (encoded : yaml.toString (document.setInstanceName (trim name)) = .ok text) :
    serviceManifestWithInstanceName yaml content name = .ok (layOut text body) := by
  rw [serviceManifestWithInstanceName, normalizeNonEmpty, if_neg named, ok_bind]
  cases reads with
  | frontMatter splits decoded =>
      rw [splits, ok_bind]
      dsimp only
      rw [parseFungiServiceYaml_eq_ok.mpr decoded, ok_bind, encoded]
      dsimp only
      rw [yamlWithoutDocumentStart_encoded writes encoded]
      rfl
  | alone splits recognised decoded =>
      rw [splits, ok_bind]
      dsimp only
      rw [if_pos recognised, parseFungiServiceYaml_eq_ok.mpr decoded, ok_bind, encoded]
      rfl

end Texts

/-! ## Names and manifests -/

section Names

variable {document : FungiServiceDocument} {name : String}

theorem serviceName_setInstanceName (named : trim name ≠ "") :
    (document.setInstanceName (trim name)).serviceName = .ok (trim name) := by
  rw [FungiServiceDocument.serviceName, FungiServiceDocument.setInstanceName]
  dsimp only
  rw [normalizeNonEmpty, trim_trim, if_neg named]

theorem nameField_setInstanceName :
    (document.setInstanceName (trim name)).nameField = trim name := rfl

theorem assemble_setInstanceName (parsed : ParsedRun) (ports : List ServicePort)
    (expose : Option ServiceExpose) :
    (document.setInstanceName (trim name)).assemble parsed ports expose =
      { document.assemble parsed ports expose with name := trim name } := by
  unfold FungiServiceDocument.assemble
  rw [nameField_setInstanceName, trim_trim]
  rfl

/-- Every field of a manifest but its name comes from the other fields of the document. -/
theorem intoServiceManifest_setInstanceName (named : trim name ≠ "") {baseDir : String}
    {roots : ManifestPathRoots} {usedHostPorts : Finset UInt16} {answers rest : List UInt16}
    {manifest : ServiceManifest}
    (converted : document.intoServiceManifest baseDir roots usedHostPorts answers =
      .ok (manifest, rest)) :
    (document.setInstanceName (trim name)).intoServiceManifest baseDir roots usedHostPorts answers =
      .ok ({ manifest with name := trim name }, rest) := by
  rw [FungiServiceDocument.intoServiceManifest_eq_ok] at converted ⊢
  obtain ⟨header, parsed, ports, reserved, expose, parsedRun, parsedPorts, parsedExpose, rfl⟩ :=
    converted
  refine ⟨⟨header.format, header.id, ?_, header.publish⟩, parsed, ports, reserved, expose,
    parsedRun, parsedPorts, parsedExpose, ?_⟩
  · rwa [nameField_setInstanceName, trim_trim]
  · exact (assemble_setInstanceName parsed ports expose).symm

end Names

/-! ## What a rewrite changes -/

section Rewrite

variable (yaml : SerdeYaml) (content renamed : String) (document : FungiServiceDocument)
  (name : String)

/-- A rewritten text differs in the name alone, and is not changed by the same rewrite. -/
structure ChangesNameOnly : Prop where
  peeked : peekServiceManifestName yaml renamed = .ok (trim name)
  document : parseRequiredFungiServiceDocument yaml renamed =
    .ok { document with instanceName := some (trim name) }
  manifest : ∀ {baseDir roots usedHostPorts answers manifest rest},
    parseServiceManifestYamlForServicePaths yaml content baseDir roots usedHostPorts answers =
        .ok (manifest, rest) →
      parseServiceManifestYamlForServicePaths yaml renamed baseDir roots usedHostPorts answers =
        .ok ({ manifest with name := trim name }, rest)
  body : frontMatterBody yaml renamed = frontMatterBody yaml content
  again : serviceManifestWithInstanceName yaml renamed name = .ok renamed

variable {yaml content renamed document name}

theorem Reads.changesNameOnly {text : String} {body : Option String}
    (writes : yaml.WritesFrontMatter) (reads : Reads yaml content document body)
    (named : trim name ≠ "")
    (encoded : yaml.toString (document.setInstanceName (trim name)) = .ok text) :
    ChangesNameOnly yaml content (layOut text body) document name := by
  have readsAgain := reads_layOut writes encoded body
  have parsed := parseRequiredFungiServiceDocument_eq_ok.mpr ⟨_, reads⟩
  have parsedAgain := parseRequiredFungiServiceDocument_eq_ok.mpr ⟨_, readsAgain⟩
  refine ⟨?_, parsedAgain, ?_, ?_, readsAgain.rename writes named encoded⟩
  · rw [peekServiceManifestName, parsedAgain, ok_bind, serviceName_setInstanceName named]
  · intro baseDir roots usedHostPorts answers manifest rest converted
    rw [parseServiceManifestYamlForServicePaths, parsed, ok_bind] at converted
    rw [parseServiceManifestYamlForServicePaths, parsedAgain, ok_bind]
    exact intoServiceManifest_setInstanceName named converted
  · rw [readsAgain.frontMatterBody, reads.frontMatterBody]

/-- A manifest under another name is the same manifest but for its name. -/
theorem serviceManifestWithInstanceName_changesNameOnly (writes : yaml.WritesFrontMatter)
    (accepted : parseRequiredFungiServiceDocument yaml content = .ok document)
    (named : trim name ≠ "")
    (encodes : ∃ text, yaml.toString (document.setInstanceName (trim name)) = .ok text) :
    ∃ renamed, serviceManifestWithInstanceName yaml content name = .ok renamed ∧
      ChangesNameOnly yaml content renamed document name := by
  obtain ⟨body, reads⟩ := parseRequiredFungiServiceDocument_eq_ok.mp accepted
  obtain ⟨text, encoded⟩ := encodes
  exact ⟨layOut text body, reads.rename writes named encoded,
    reads.changesNameOnly writes named encoded⟩

end Rewrite

/-- A codec of finitely many texts, each fit for front matter. -/
theorem SerdeYaml.writesFrontMatter_ofTable {table : List (String × FungiServiceDocument)}
    {distinct : (table.map (·.1)).Nodup}
    {starts : ∀ item ∈ table, "fungi:".toList <+: item.1.toList}
    (ended : ∀ item ∈ table, item.1.toList.getLast? = some '\n')
    (noFence : ∀ item ∈ table, ∀ line ∈ splitInclusive item.1.toList, ¬ IsFence line) :
    (SerdeYaml.ofTable table distinct starts).WritesFrontMatter := by
  have written : ∀ {document text},
      (SerdeYaml.ofTable table distinct starts).toString document = .ok text →
        ∃ item ∈ table, item.1 = text := by
    intro document text encoded
    simp only [SerdeYaml.ofTable] at encoded
    split at encoded
    · next item found => exact ⟨item, List.mem_of_find?_eq_some found, Except.ok.inj encoded⟩
    · cases encoded
  constructor
  · intro document text encoded
    obtain ⟨item, member, rfl⟩ := written encoded
    exact ended item member
  · intro document text encoded
    obtain ⟨item, member, rfl⟩ := written encoded
    exact noFence item member

/-- The text of a service of one port, with the line of its instance. -/
def docsText (instanceLine : String) : String :=
  "fungi: service/v1\nid: docs\n" ++ instanceLine ++
    "publish:\n  main:\n    tcp:\n      port: 8080\n"

/-- The document of a service that publishes one port. -/
def docsDocument (instanceName : Option String) : FungiServiceDocument :=
  { fungi := "service/v1"
    id := "docs"
    instanceName
    run := none
    publish := Std.ExtTreeMap.ofList
      [("main", { tcp := { host := none, port := 8080 }, client := none })] compare }

/-- The documents without and with an instance name. -/
def docsYaml : SerdeYaml :=
  .ofTable
    [(docsText "", docsDocument none),
      (docsText "instance: published-docs\n", docsDocument (some "published-docs"))]
    (by decide +kernel) (by decide +kernel)

/-- Front matter with fences of either line end, and a body. -/
theorem serviceManifestWithInstanceName_docs :
    ∃ renamed, serviceManifestWithInstanceName docsYaml
        ("---\r\n" ++ docsText "" ++ "---\n\n# Docs\n") " published-docs " = .ok renamed ∧
      ChangesNameOnly docsYaml ("---\r\n" ++ docsText "" ++ "---\n\n# Docs\n") renamed
        (docsDocument none) " published-docs " := by
  have writes : docsYaml.WritesFrontMatter :=
    SerdeYaml.writesFrontMatter_ofTable (by decide +kernel) (by decide +kernel)
  refine serviceManifestWithInstanceName_changesNameOnly writes (by decide +kernel)
    (by decide +kernel) ⟨docsText "instance: published-docs\n", ?_⟩
  decide +kernel

end Fungi.Runtime
