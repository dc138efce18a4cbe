import Fungi.Config.Devices
import Fungi.Lib.Triples
import Fungi.Runtime.Host

/-!
# The recipe cache

`crates/config/src/recipe_cache.rs` keeps the official recipes below the fungi directory, by
release: an index, the assets that were fetched, and the manifests that were made of them.
-/

namespace Fungi.Config

open Fungi.Lib FileSystem
open Fungi.Runtime (Ulid)

/-! ## What the cache stands on -/

/-- A name that stays in the directory it is joined to, or is blank. -/
structure IsSegment (name : String) : Prop where
  noSlash : '/' ∉ name.toList
  notDotDot : name ≠ ".."

/-- A segment of the path of a URL, whose dot segments are gone. -/
abbrev PathSegment := { name : String // IsSegment name }

/-- A response as the recipe requests see it. -/
structure Response where
  /-- The URL that answered, after all redirects. -/
  url : String
  pathSegments : List PathSegment
  isError : Bool
  /-- `none` if the connection breaks while the body is read. -/
  body : Option String

/-- How a request ends. -/
inductive Answer where
  | noClient
  | unreachable
  | response (response : Response)

/-- A failing step: how many directories it made, and how much it wrote into its file. -/
structure WriteFault where
  made : Nat
  written : Option Nat
  deriving DecidableEq

/-- The content of `latest.json`. -/
structure CachedOfficialRelease where
  releaseVersion : String
  updatedAt : SystemTime
  deriving DecidableEq

/-- The first characters of a text. -/
def cut (content : String) (length : Nat) : String := String.ofList (content.toList.take length)

/-- `serde_json` on `latest.json`: it reads back what it writes, and refuses what was cut short. -/
structure ReleaseJson where
  fromStr : String → Option CachedOfficialRelease
  toStringPretty : CachedOfficialRelease → String
  fromStr_toStringPretty : ∀ release, fromStr (toStringPretty release) = some release
  fromStr_cut : ∀ release length, length < (toStringPretty release).toList.length →
    fromStr (cut (toStringPretty release) length) = none

/-- What answers the requests, which steps on files fail, and what is new at each time. -/
structure Environment where
  server : Nat → String → Answer
  fault : Nat → Option WriteFault
  ulid : Nat → Ulid
  now : Nat → SystemTime
  json : ReleaseJson

/-- The files, and how many requests, file-system steps and ulids have been used up. -/
structure RecipeHost where
  files : FileSystem
  requests : Nat
  steps : Nat
  ulids : Nat

/-- A program of the recipe cache, which fails with a text. -/
abbrev RecipeAction := Program RecipeHost String

variable (environment : Environment)

/-- A step on the file system, which a fault may cut short. -/
def fileStep (failure : String) (effect : FileSystem → Option FileSystem)
    (interrupted : WriteFault → FileSystem → FileSystem) : RecipeAction Unit := fun host =>
  match environment.fault host.steps with
  | some fault =>
      (.error failure, { host with files := interrupted fault host.files, steps := host.steps + 1 })
  | none =>
      match effect host.files with
      | some files => (.ok (), { host with files, steps := host.steps + 1 })
      | none => (.error failure, { host with steps := host.steps + 1 })

/-- Create a directory and the missing ones above it. -/
def createDirAll (failure path : String) : RecipeAction Unit :=
  fileStep environment failure (·.createDirAll path)
    fun fault files => files.makeDirs ((Path.ancestors path).take fault.made)

/-- `fs::write`, which truncates the file before it writes. -/
def writeFile (failure path content : String) : RecipeAction Unit :=
  fileStep environment failure (·.writeFile path content) fun fault files =>
    match fault.written with
    | none => files
    | some length => (files.writeFile path (cut content length)).getD files

/-- Read a file whole. -/
def readFile (failure path : String) : RecipeAction String := do
  match ← Program.gets fun host => host.files.readToString path with
  | some content => return content
  | none => Program.fail failure

/-- Draw the next ulid. -/
def nextUlid : RecipeAction Ulid := fun host =>
  (.ok (environment.ulid host.ulids), { host with ulids := host.ulids + 1 })

/-! ## Names -/

/-- An asset is one plain file name. -/
def validateAssetName (assetName : String) : Except String String :=
  if assetName = "" then .error "recipe asset name cannot be empty"
  else if '/' ∈ assetName.toList ∨ '\\' ∈ assetName.toList then
    .error s!"recipe asset name must be a single file name: `{assetName}`"
  else
    match Path.components assetName with
    | [.normal _] => .ok assetName
    | _ => .error s!"recipe asset name must be a single file name: `{assetName}`"

/-- The characters that a file name keeps. -/
def isFileCharacter (character : Char) : Bool :=
  (character.isAlphanum) || character = '-' || character = '_'

/-- Any other character becomes a dash. -/
def sanitizeFileComponent (value : String) : String :=
  value.map fun character => if isFileCharacter character then character else '-'

/-! ## The cache -/

/-- The directory of the cache in the fungi directory. -/
def recipeCacheDir : String := "cache/recipes"

/-- The directory of the official recipes. -/
def officialSourceDir : String := "official"

/-- The file that names the latest release. -/
def latestReleaseFile : String := "latest.json"

/-- The cache of the official recipes. -/
structure RecipeCache where
  rootDir : String

/-- The cache of a fungi directory, whether or not it is there. -/
def RecipeCache.ofDir (fungiDir : String) : RecipeCache :=
  { rootDir := Path.join (Path.join fungiDir recipeCacheDir) officialSourceDir }

/-- The cache of a fungi directory, created where it is missing. -/
def RecipeCache.applyFromDir (fungiDir : String) : RecipeAction RecipeCache := do
  let cache := RecipeCache.ofDir fungiDir
  createDirAll environment s!"failed to create recipe cache directory: {cache.rootDir}"
    cache.rootDir
  return cache

namespace RecipeCache

variable (self : RecipeCache) (releaseVersion : String)

/-- The directory of a release. -/
def releaseDir : String := Path.join self.rootDir releaseVersion

/-- The directory of the assets of a release. -/
def assetsDir : String := Path.join (self.releaseDir releaseVersion) "assets"

/-- The directory of the manifests that have been resolved from a release. -/
def resolvedDir : String := Path.join (self.releaseDir releaseVersion) "resolved"

/-- The index of a release. -/
def indexPath : String := Path.join (self.releaseDir releaseVersion) "index.json"

/-- The file that names the latest release. -/
def latestPath : String := Path.join self.rootDir latestReleaseFile

/-- The file of an asset, whose name is checked. -/
def assetPath (assetName : String) : Except String String := do
  let assetName ← validateAssetName assetName
  return Path.join (self.assetsDir releaseVersion) assetName

/-- The latest release in the cache, or `none` if there is no `latest.json`. -/
def latestReleaseVersion : RecipeAction (Option String) := do
  let path := self.latestPath
  if ← Program.gets fun host => host.files.pathExists path then
    let raw ← readFile s!"failed to read recipe cache metadata: {path}" path
    match environment.json.fromStr raw with
    | some entry => return some entry.releaseVersion
    | none => Program.fail s!"failed to parse recipe cache metadata: {path}"
  else return none

/-- Make a release the latest one. -/
def setLatestReleaseVersion : RecipeAction Unit := do
  createDirAll environment s!"failed to create recipe cache directory: {self.rootDir}" self.rootDir
  let updatedAt ← Program.gets fun host => environment.now host.steps
  let path := self.latestPath
  writeFile environment s!"failed to write recipe cache metadata: {path}" path
    (environment.json.toStringPretty { releaseVersion, updatedAt })

/-- Write a file of the cache, and its directory where it is missing. -/
def writeBytes (path content : String) : RecipeAction Unit := do
  match Path.parent path with
  | some parent =>
      createDirAll environment s!"failed to create recipe cache directory: {parent}" parent
  | none => pure ()
  writeFile environment s!"failed to write recipe cache file: {path}" path content

/-- Put the index of a release into the cache. -/
def writeIndex (content : String) : RecipeAction String := do
  let path := self.indexPath releaseVersion
  writeBytes environment path content
  return path

/-- Put an asset of a release into the cache. -/
def writeAsset (assetName content : String) : RecipeAction String := do
  let path ← Program.ofExcept (self.assetPath releaseVersion assetName)
  writeBytes environment path content
  return path

/-- The name of a resolved manifest, which its ulid makes unique. -/
def resolvedFileName (recipeId serviceName : String) (ulid : Ulid) : String :=
  s!"{sanitizeFileComponent recipeId}-{sanitizeFileComponent serviceName}-{ulid.text}.yaml"

/-- Put a resolved manifest under a new name. -/
def writeResolvedManifest (recipeId serviceName manifestYaml : String) : RecipeAction String := do
  let ulid ← nextUlid environment
  let path := Path.join (self.resolvedDir releaseVersion)
    (resolvedFileName recipeId serviceName ulid)
  writeBytes environment path manifestYaml
  return path

/-- The directory of the assets, created where it is missing. -/
def ensureAssetDir : RecipeAction String := do
  let dir := self.assetsDir releaseVersion
  createDirAll environment s!"failed to create recipe asset cache directory: {dir}" dir
  return dir

end RecipeCache

/-! ## Places of the cache -/

section Names

variable {name : String}

theorem IsSegment.relative (segment : IsSegment name) : Path.isAbsolute name = false := by
  have noSlash := segment.noSlash
  unfold Path.isAbsolute
  cases shape : name.toList with
  | nil => simp
  | cons first rest =>
      rw [shape, List.mem_cons, not_or] at noSlash
      simpa using Ne.symm noSlash.1

theorem IsSegment.direct (segment : IsSegment name) : Path.Direct name := by
  unfold Path.Direct Path.names
  rw [Path.splitSlash_of_noSlash segment.noSlash]
  intro upward
  rw [List.mem_filter, List.mem_singleton] at upward
  exact segment.notDotDot (String.toList_inj.mp upward.1.symm)

/-- An asset name that is accepted is the name of a file. -/
theorem validateAssetName_eq_ok {assetName : String}
    (valid : validateAssetName assetName = .ok name) : name = assetName ∧ Path.Plain assetName := by
  unfold validateAssetName at valid
  split at valid
  · cases valid
  · next nonempty =>
      split at valid
      · cases valid
      · next noSeparator =>
          rw [not_or] at noSeparator
          split at valid
          · next component isNormal =>
              refine ⟨(Except.ok.inj valid).symm, nonempty, ?_, ?_, noSeparator.1⟩
              · rintro rfl
                cases (by decide : Path.components "." = [.curDir]).symm.trans isNormal
              · rintro rfl
                cases (by decide : Path.components ".." = [.parentDir]).symm.trans isNormal
          · cases valid

theorem noSlash_sanitizeFileComponent (value : String) :
    '/' ∉ (sanitizeFileComponent value).toList := by
  unfold sanitizeFileComponent
  rw [String.toList_map, List.mem_map]
  rintro ⟨character, _, same⟩
  split at same
  · next isFile =>
      subst same
      revert isFile
      decide
  · cases same

theorem noSlash_ulid (ulid : Ulid) : '/' ∉ ulid.text.toList := by
  intro slash
  have alphanumeric := List.all_eq_true.mp ulid.alphanumeric _ slash
  revert alphanumeric
  decide

theorem plain_resolvedFileName (recipeId serviceName : String) (ulid : Ulid) :
    Path.Plain (RecipeCache.resolvedFileName recipeId serviceName ulid) := by
  have letters : 'y' ∈ (RecipeCache.resolvedFileName recipeId serviceName ulid).toList := by
    simp [RecipeCache.resolvedFileName, String.toList_append, toString]
  refine ⟨?_, ?_, ?_, ?_⟩
  · intro same
    rw [same] at letters
    revert letters
    decide
  · intro same
    rw [same] at letters
    revert letters
    decide
  · intro same
    rw [same] at letters
    revert letters
    decide
  · simp [RecipeCache.resolvedFileName, String.toList_append, toString,
      noSlash_sanitizeFileComponent, noSlash_ulid]

end Names

namespace RecipeCache

variable {self : RecipeCache} {version name : String} {place : List Name}

/-- The place of a file of a release. -/
def placeOf (self : RecipeCache) (version : String) (below : List String) : List Name :=
  Path.resolve self.rootDir ++ Path.names version ++ below.map String.toList

/-- The place of `latest.json` once links and dots are resolved. -/
def latestPlace (self : RecipeCache) : List Name :=
  Path.resolve self.rootDir ++ [latestReleaseFile.toList]

theorem plain_latestReleaseFile : Path.Plain latestReleaseFile :=
  ⟨by decide, by decide, by decide, by decide⟩

theorem resolve_latestPath : Path.resolve self.latestPath = self.latestPlace :=
  Path.resolve_join_plain plain_latestReleaseFile

theorem names_releaseDir (segment : IsSegment version) :
    Path.names (self.releaseDir version) = Path.names self.rootDir ++ Path.names version :=
  Path.names_join segment.relative

theorem resolve_releaseDir (segment : IsSegment version) :
    Path.resolve (self.releaseDir version) = self.placeOf version [] := by
  rw [releaseDir, Path.resolve_join segment.relative segment.direct, placeOf, List.map_nil,
    List.append_nil]

theorem below_placeOf (below : List String) :
    Path.resolve self.rootDir <+: self.placeOf version below := by
  rw [placeOf, List.append_assoc]
  exact List.prefix_append _ _

/-- Two files of releases are the same only if they are called the same in their releases. -/
theorem placeOf_inj {other : String} {below others : List String}
    (sameLength : below.length = others.length)
    (same : self.placeOf version below = self.placeOf other others) :
    Path.names version = Path.names other ∧ below = others := by
  unfold placeOf at same
  rw [List.append_assoc, List.append_assoc, List.append_cancel_left_eq] at same
  obtain ⟨sameNames, sameBelow⟩ := List.append_inj' same (by simpa using sameLength)
  exact ⟨sameNames, List.map_injective_iff.mpr (fun _ _ => String.toList_inj.mp) sameBelow⟩

theorem length_names (segment : IsSegment version) : (Path.names version).length ≤ 1 := by
  unfold Path.names
  rw [Path.splitSlash_of_noSlash segment.noSlash]
  exact List.length_filter_le _ _

theorem length_placeOf (below : List String) : (self.placeOf version below).length =
    (Path.resolve self.rootDir).length + (Path.names version).length + below.length := by
  simp [placeOf, Nat.add_assoc]

theorem latestPlace_eq : self.latestPlace = self.placeOf "" [latestReleaseFile] := by
  have noName : Path.names "" = [] := by decide
  rw [latestPlace, placeOf, noName, List.append_nil]
  rfl

theorem resolve_below {directory : String} {below : List String}
    (isDirectory : Path.resolve directory = self.placeOf version below) (plain : Path.Plain name) :
    Path.resolve (Path.join directory name) = self.placeOf version (below ++ [name]) := by
  rw [Path.resolve_join_plain plain, isDirectory, placeOf, placeOf, List.map_append,
    List.append_assoc]
  rfl

theorem plain_index : Path.Plain "index.json" := ⟨by decide, by decide, by decide, by decide⟩

theorem plain_assets : Path.Plain "assets" := ⟨by decide, by decide, by decide, by decide⟩

theorem plain_resolved : Path.Plain "resolved" := ⟨by decide, by decide, by decide, by decide⟩

theorem resolve_indexPath (segment : IsSegment version) :
    Path.resolve (self.indexPath version) = self.placeOf version ["index.json"] :=
  resolve_below (resolve_releaseDir segment) plain_index

theorem resolve_assetsDir (segment : IsSegment version) :
    Path.resolve (self.assetsDir version) = self.placeOf version ["assets"] :=
  resolve_below (resolve_releaseDir segment) plain_assets

theorem resolve_resolvedDir (segment : IsSegment version) :
    Path.resolve (self.resolvedDir version) = self.placeOf version ["resolved"] :=
  resolve_below (resolve_releaseDir segment) plain_resolved

/-- The directories made for a release lie on the way to the cache, or in it. -/
theorem mem_ancestors_of_names {directory : String} (below : List String)
    (segment : IsSegment version) (extended : Path.names directory =
      Path.names (self.releaseDir version) ++ below.map String.toList)
    (direct : ".." ∉ below) (member : place ∈ Path.ancestors directory) :
    place ∈ Path.ancestors self.rootDir ∨ Path.resolve self.rootDir <+: place := by
  rw [names_releaseDir segment, List.append_assoc] at extended
  apply Path.mem_ancestors_below extended _ member
  rw [List.mem_append, not_or]
  refine ⟨segment.direct, ?_⟩
  rw [List.mem_map]
  rintro ⟨name, isMember, same⟩
  exact direct (String.toList_inj.mp (same.trans (by decide : _ = "..".toList)) ▸ isMember)

theorem mem_ancestors_releaseDir (segment : IsSegment version)
    (member : place ∈ Path.ancestors (self.releaseDir version)) :
    place ∈ Path.ancestors self.rootDir ∨ Path.resolve self.rootDir <+: place :=
  mem_ancestors_of_names [] segment (List.append_nil _).symm List.not_mem_nil member

theorem mem_ancestors_assetsDir (segment : IsSegment version)
    (member : place ∈ Path.ancestors (self.assetsDir version)) :
    place ∈ Path.ancestors self.rootDir ∨ Path.resolve self.rootDir <+: place :=
  mem_ancestors_of_names ["assets"] segment (Path.names_join_plain plain_assets) (by decide) member

theorem mem_ancestors_resolvedDir (segment : IsSegment version)
    (member : place ∈ Path.ancestors (self.resolvedDir version)) :
    place ∈ Path.ancestors self.rootDir ∨ Path.resolve self.rootDir <+: place :=
  mem_ancestors_of_names ["resolved"] segment (Path.names_join_plain plain_resolved) (by decide)
    member

end RecipeCache

/-! ## What a step changes -/

/-- Files change by the rule. -/
def filesFrame (rule : ChangeRule) : Program.Frame RecipeHost where
  Allows before after := ∀ place, rule.Allows place (before.files place) (after.files place)
  refl _ place := rule.refl place _
  trans first second place := rule.trans (first place) (second place)

/-- What is found in a file after its content was written, or a part of it. -/
def Environment.Writes (content part : String) : Prop :=
  part = content ∨ ∃ step fault length, environment.fault step = some fault ∧
    fault.written = some length ∧ part = cut content length

section Steps

variable {environment} {rule : ChangeRule}

theorem within_fileStep {failure : String} {effect : FileSystem → Option FileSystem}
    {interrupted : WriteFault → FileSystem → FileSystem}
    (carried : ∀ files next, effect files = some next →
      ∀ place, rule.Allows place (files place) (next place))
    (faulted : ∀ step fault files, environment.fault step = some fault →
      ∀ place, rule.Allows place (files place) (interrupted fault files place)) :
    Program.Within (filesFrame rule) (fileStep environment failure effect interrupted) := by
  intro host
  unfold fileStep
  split
  · next fault isFault => exact faulted _ fault _ isFault
  · split
    · next files possible => exact carried _ files possible
    · exact fun place => rule.refl place _

theorem makeDirs_allowed {files : FileSystem} {directories : List (List Name)}
    (makes : ∀ place ∈ directories, rule.Allows place none (some .directory)) (place : List Name) :
    rule.Allows place (files place) (files.makeDirs directories place) := by
  rcases @makeDirs_cases files place directories with same | ⟨member, absent, made⟩
  · rw [same]
    exact rule.refl place _
  · rw [absent, made]
    exact makes place member

theorem within_createDirAll {failure path : String}
    (makes : ∀ place ∈ Path.ancestors path, rule.Allows place none (some .directory)) :
    Program.Within (filesFrame rule) (createDirAll environment failure path) := by
  apply within_fileStep
  · intro files next created
    obtain ⟨rfl, -⟩ := createDirAll_eq_some created
    exact makeDirs_allowed makes
  · intro step fault files _
    apply makeDirs_allowed
    intro place member
    exact makes place (List.mem_of_mem_take member)

theorem writeFile_allowed {files next : FileSystem} {path content : String}
    (writes : ∀ before, before ≠ some .directory →
      rule.Allows (Path.resolve path) before (some (.file content)))
    (written : files.writeFile path content = some next) (place : List Name) :
    rule.Allows place (files place) (next place) := by
  by_cases isTarget : place = Path.resolve path
  · obtain ⟨noDirectory, rfl⟩ := writeFile_eq_some written
    subst isTarget
    dsimp only
    rw [if_pos rfl]
    exact writes _ noDirectory
  · rw [writeFile_frame written isTarget]
    exact rule.refl place _

theorem within_writeFile {failure path content : String}
    (writes : ∀ before part, before ≠ some .directory → environment.Writes content part →
      rule.Allows (Path.resolve path) before (some (.file part))) :
    Program.Within (filesFrame rule) (writeFile environment failure path content) := by
  apply within_fileStep
  · intro files next written
    exact writeFile_allowed (fun before noDirectory => writes before _ noDirectory (Or.inl rfl))
      written
  · intro step fault files isFault place
    cases isPart : fault.written with
    | none => exact rule.refl place _
    | some length =>
        dsimp only
        cases written : files.writeFile path (cut content length) with
        | none => exact rule.refl place _
        | some next =>
            apply writeFile_allowed _ written
            intro before noDirectory
            exact writes before _ noDirectory (Or.inr ⟨step, fault, length, isFault, isPart, rfl⟩)

theorem within_readFile (failure path : String) :
    Program.Within (filesFrame rule) (readFile failure path) := by
  apply (Program.within_gets _).bind
  intro content
  cases content with
  | some content => exact Program.within_pure content
  | none => exact Program.within_fail failure

theorem readToString_eq_some {files : FileSystem} {path content : String} :
    files.readToString path = some content ↔
      files (Path.resolve path) = some (.file content) := by
  unfold readToString
  cases files (Path.resolve path) with
  | none => simp
  | some node =>
      cases node with
      | directory => simp
      | file found => simp

theorem readFile_eq_ok {failure path content : String} {host final : RecipeHost} :
    readFile failure path host = (.ok content, final) ↔
      host.files (Path.resolve path) = some (.file content) ∧ final = host := by
  unfold readFile
  rw [Program.bind_eq_ok, ← readToString_eq_some]
  constructor
  · rintro ⟨found, middle, read, rest⟩
    obtain ⟨isFound, rfl⟩ := Prod.mk.inj read
    cases found with
    | none => cases rest
    | some other =>
        cases rest
        exact ⟨Except.ok.inj isFound, rfl⟩
  · rintro ⟨isFile, rfl⟩
    exact ⟨some content, final, by rw [Program.gets_apply, isFile], rfl⟩

theorem within_nextUlid : Program.Within (filesFrame rule) (nextUlid environment) :=
  fun _ place => rule.refl place _

theorem RecipeCache.within_writeBytes {directory name content : String} (plain : Path.Plain name)
    (makes : ∀ place ∈ Path.ancestors directory, rule.Allows place none (some .directory))
    (writes : ∀ before part, before ≠ some .directory → environment.Writes content part →
      rule.Allows (Path.resolve (Path.join directory name)) before (some (.file part))) :
    Program.Within (filesFrame rule)
      (writeBytes environment (Path.join directory name) content) := by
  obtain ⟨parent, isParent, sameNames⟩ := @Path.names_parent_join directory name plain
  unfold writeBytes
  rw [isParent]
  apply Program.Within.bind
  · apply within_createDirAll
    rwa [Path.ancestors_congr sameNames]
  · intro _
    exact within_writeFile writes

end Steps

end Fungi.Config
