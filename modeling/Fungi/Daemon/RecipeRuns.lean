import Fungi.Daemon.Recipes

/-!
# Runs of recipe requests

Whatever the release server answers and whichever writes fail, the recipe functions write below the
cache only, an asset in the cache is what the URL of that asset served, and a recipe that was
fetched once is found again without a request.
-/

namespace Fungi.Daemon

open Fungi.Lib FileSystem Fungi.Config

/-! ## Requests -/

/-- The requests for recipes. -/
inductive RecipeOperation where
  | list (refresh : Bool)
  | get (recipeId : String) (refresh : Bool)
  | resolve (recipeId : String) (serviceName : Option String) (refresh : Bool)

namespace RecipeOperation

/-- Whether the latest release is to be looked up. -/
def refresh : RecipeOperation → Bool
  | list refresh | get _ refresh | resolve _ _ refresh => refresh

variable (environment : RecipeEnvironment) (fungiDir : String)

/-- A request, whatever it returns. -/
def perform : RecipeOperation → RecipeAction Unit
  | list refresh => do
      let _ ← listOfficialServiceRecipes environment fungiDir refresh
      return ()
  | get recipeId refresh => do
      let _ ← getOfficialServiceRecipe environment fungiDir recipeId refresh
      return ()
  | resolve recipeId serviceName refresh => do
      let _ ← resolveOfficialServiceRecipe environment fungiDir recipeId serviceName refresh
      return ()

/-- One request after the other, whether they fail or not. -/
def performAll (operations : List RecipeOperation) : RecipeAction Unit :=
  Program.forEach (fun operation => Program.ignoring (operation.perform environment fungiDir))
    operations

end RecipeOperation

/-- The body of a successful answer. -/
def RecipeEnvironment.Serves (environment : RecipeEnvironment) (url body : String) : Prop :=
  ∃ request response, environment.server request url = .response response ∧
    response.isError = false ∧ response.body = some body

/-! ## What may be written -/

section Rules

variable (environment : RecipeEnvironment) (cache : RecipeCache)

/-- What may be found in a file of the cache after a write. -/
structure Placed (place : List Name) (part : String) : Prop where
  below : Path.resolve cache.rootDir <+: place
  asset : ∀ version assetName, Path.Plain version →
    place = cache.placeOf version ["assets", assetName] →
      ∃ url body, releaseAssetUrl version assetName = .ok url ∧ environment.Serves url body ∧
        environment.Writes body part
  latest : place = cache.latestPlace → ∀ release, environment.json.fromStr part = some release →
    IsSegment release.releaseVersion

/-- What a recipe request may change: it makes directories for the cache, and writes files in it. -/
def cacheRule : ChangeRule where
  Allows place before after := after = before ∨
    (before = none ∧ after = some .directory ∧
      (place ∈ Path.ancestors cache.rootDir ∨ Path.resolve cache.rootDir <+: place)) ∨
    before ≠ some .directory ∧ ∃ part, after = some (.file part) ∧
      Placed environment cache place part
  refl _ _ := Or.inl rfl
  trans := by
    rintro place first second third before (rfl | ⟨rfl, made, inside⟩ | ⟨noDirectory, written⟩)
    · exact before
    · rcases before with same | ⟨_, isDirectory, _⟩ | ⟨_, part, isFile, _⟩
      · exact Or.inr (Or.inl ⟨same.symm, made, inside⟩)
      · cases isDirectory
      · cases isFile
    · rcases before with same | ⟨_, isDirectory, _⟩ | ⟨wasNoDirectory, _⟩
      · exact Or.inr (Or.inr ⟨same ▸ noDirectory, written⟩)
      · exact absurd isDirectory noDirectory
      · exact Or.inr (Or.inr ⟨wasNoDirectory, written⟩)

/-- The release that `latest.json` names, if it names one, is a name in the cache. -/
def Safe (host : RecipeHost) : Prop :=
  ∀ content release, host.files cache.latestPlace = some (.file content) →
    environment.json.fromStr content = some release → IsSegment release.releaseVersion

end Rules

section Writing

variable {environment : RecipeEnvironment} {cache : RecipeCache} {version : String}

open RecipeCache

theorem latestPlace_ne_placeOf {below : List String} (long : 2 ≤ below.length) :
    cache.placeOf version below ≠ cache.latestPlace := by
  intro same
  have lengths := congrArg List.length same
  rw [latestPlace_eq, length_placeOf, length_placeOf, List.length_singleton] at lengths
  have blank : (Path.names "").length = 0 := by decide
  omega

theorem placed_index (segment : IsSegment version) (part : String) :
    Placed environment cache (cache.placeOf version ["index.json"]) part where
  below := below_placeOf _
  asset other assetName plain same := by
    have lengths := congrArg List.length same
    have short := length_names segment
    rw [length_placeOf, length_placeOf, Path.names_of_plain plain] at lengths
    simp only [List.length_cons, List.length_nil] at lengths
    omega
  latest same := by
    rw [latestPlace_eq] at same
    have names := (placeOf_inj (by simp) same).2
    simp [latestReleaseFile] at names

theorem placed_resolved (name part : String) :
    Placed environment cache (cache.placeOf version ["resolved", name]) part where
  below := below_placeOf _
  asset other assetName plain same := by
    have names := (placeOf_inj (by simp) same).2
    simp at names
  latest same := absurd same (latestPlace_ne_placeOf (by simp))

theorem placed_asset (segment : IsSegment version) {assetName url body part : String}
    (isUrl : releaseAssetUrl version assetName = .ok url) (serves : environment.Serves url body)
    (writes : environment.Writes body part) :
    Placed environment cache (cache.placeOf version ["assets", assetName]) part where
  below := below_placeOf _
  asset other otherAsset plain same := by
    obtain ⟨sameVersion, sameAsset⟩ := placeOf_inj (by simp) same
    simp only [List.cons.injEq, true_and, and_true] at sameAsset
    have isVersion : version = other := by
      rw [Path.names_of_plain plain] at sameVersion
      unfold Path.names at sameVersion
      rw [Path.splitSlash_of_noSlash segment.noSlash] at sameVersion
      have member : other.toList ∈ [version.toList] :=
        List.mem_of_mem_filter (sameVersion ▸ List.mem_singleton_self _)
      exact (String.toList_inj.mp (List.mem_singleton.mp member)).symm
    subst isVersion sameAsset
    exact ⟨url, body, isUrl, serves, writes⟩
  latest same := absurd same (latestPlace_ne_placeOf (by simp))

/-- What is left of `latest.json` after a write that is cut short names no release. -/
theorem placed_latest (segment : IsSegment version) {updatedAt : SystemTime} {part : String}
    (writes : environment.Writes
      (environment.json.toStringPretty { releaseVersion := version, updatedAt }) part) :
    Placed environment cache cache.latestPlace part where
  below := by
    rw [latestPlace_eq]
    exact below_placeOf _
  asset other assetName plain same := absurd same.symm (latestPlace_ne_placeOf (by simp))
  latest _ release isRelease := by
    have whole : part = environment.json.toStringPretty { releaseVersion := version, updatedAt } →
        IsSegment release.releaseVersion := by
      rintro rfl
      rw [environment.json.fromStr_toStringPretty] at isRelease
      cases isRelease
      exact segment
    rcases writes with same | ⟨step, fault, length, _, _, rfl⟩
    · exact whole same
    · apply whole
      by_cases isCut : length <
          (environment.json.toStringPretty { releaseVersion := version, updatedAt }).toList.length
      · rw [environment.json.fromStr_cut _ _ isCut] at isRelease
        cases isRelease
      · rw [cut, List.take_of_length_le (by omega), String.ofList_toList]

/-! ## The cache functions -/

theorem makes_of_root {place : List Name} (member : place ∈ Path.ancestors cache.rootDir) :
    (cacheRule environment cache).Allows place none (some .directory) :=
  Or.inr (Or.inl ⟨rfl, rfl, Or.inl member⟩)

theorem makes_of_inside {place : List Name}
    (inside : place ∈ Path.ancestors cache.rootDir ∨ Path.resolve cache.rootDir <+: place) :
    (cacheRule environment cache).Allows place none (some .directory) :=
  Or.inr (Or.inl ⟨rfl, rfl, inside⟩)

theorem writes_of_placed {place : List Name} {part : String} {before : Option Node}
    (noDirectory : before ≠ some .directory) (placed : Placed environment cache place part) :
    (cacheRule environment cache).Allows place before (some (.file part)) :=
  Or.inr (Or.inr ⟨noDirectory, part, rfl, placed⟩)

theorem within_applyFromDir (fungiDir : String) :
    Program.Within (filesFrame (cacheRule environment (RecipeCache.ofDir fungiDir)))
      (RecipeCache.applyFromDir environment.toEnvironment fungiDir) := by
  apply Program.Within.bind
  · exact within_createDirAll fun place => makes_of_root
  · exact fun _ => Program.within_pure _

theorem within_writeIndex (segment : IsSegment version) (content : String) :
    Program.Within (filesFrame (cacheRule environment cache))
      (cache.writeIndex environment.toEnvironment version content) := by
  apply Program.Within.bind
  · apply within_writeBytes plain_index
    · exact fun place member => makes_of_inside (mem_ancestors_releaseDir segment member)
    · intro before part noDirectory _
      rw [resolve_below (resolve_releaseDir segment) plain_index]
      exact writes_of_placed noDirectory (placed_index segment part)
  · exact fun _ => Program.within_pure _

theorem within_setLatestReleaseVersion (segment : IsSegment version) :
    Program.Within (filesFrame (cacheRule environment cache))
      (cache.setLatestReleaseVersion environment.toEnvironment version) := by
  apply Program.Within.bind
  · exact within_createDirAll fun place => makes_of_root
  · intro _
    apply (Program.within_gets _).bind
    intro updatedAt
    apply within_writeFile
    intro before part noDirectory writes
    rw [resolve_latestPath]
    exact writes_of_placed noDirectory (placed_latest segment writes)

theorem assetPath_eq_ok {assetName path : String}
    (isPath : cache.assetPath version assetName = .ok path) :
    Path.Plain assetName ∧ path = Path.join (cache.assetsDir version) assetName := by
  obtain ⟨name, valid, same⟩ := bind_eq_ok.mp isPath
  obtain ⟨rfl, plain⟩ := validateAssetName_eq_ok valid
  exact ⟨plain, (pure_eq_ok.mp same).symm⟩

theorem within_writeAsset (segment : IsSegment version) {assetName url body : String}
    (isUrl : releaseAssetUrl version assetName = .ok url) (serves : environment.Serves url body) :
    Program.Within (filesFrame (cacheRule environment cache))
      (cache.writeAsset environment.toEnvironment version assetName body) := by
  apply (Program.within_ofExcept _).bind_of_value
  · intro state path final isPath
    exact assetPath_eq_ok ((Program.ofExcept_eq_ok state).mp isPath).1
  · rintro path ⟨plain, rfl⟩
    apply Program.Within.bind
    · apply within_writeBytes plain
      · exact fun place member => makes_of_inside (mem_ancestors_assetsDir segment member)
      · intro before part noDirectory writes
        rw [resolve_below (resolve_assetsDir segment) plain]
        exact writes_of_placed noDirectory (placed_asset segment isUrl serves writes)
    · exact fun _ => Program.within_pure _

theorem within_writeResolvedManifest (segment : IsSegment version)
    (recipeId serviceName content : String) :
    Program.Within (filesFrame (cacheRule environment cache))
      (cache.writeResolvedManifest environment.toEnvironment version recipeId serviceName
        content) := by
  apply within_nextUlid.bind
  intro ulid
  have plain := plain_resolvedFileName recipeId serviceName ulid
  apply Program.Within.bind
  · apply within_writeBytes plain
    · exact fun place member => makes_of_inside (mem_ancestors_resolvedDir segment member)
    · intro before part noDirectory _
      rw [resolve_below (resolve_resolvedDir segment) plain]
      exact writes_of_placed noDirectory (placed_resolved _ part)
  · exact fun _ => Program.within_pure _

theorem within_ensureAssetDir (segment : IsSegment version) :
    Program.Within (filesFrame (cacheRule environment cache))
      (cache.ensureAssetDir environment.toEnvironment version) := by
  apply Program.Within.bind
  · apply within_createDirAll
    exact fun place member => makes_of_inside (mem_ancestors_assetsDir segment member)
  · exact fun _ => Program.within_pure _

end Writing

/-! ## What a request changes -/

section Yielding

variable {environment : RecipeEnvironment} {cache : RecipeCache} {version : String}

/-- A program that writes within the cache and keeps it safe. -/
abbrev WithinCache {Value : Type} (environment : RecipeEnvironment) (cache : RecipeCache)
    (property : Value → Prop) (program : RecipeAction Value) : Prop :=
  Program.Yields (filesFrame (cacheRule environment cache)) (Safe environment cache) property
    program

theorem Safe.of_allowed {before after : RecipeHost}
    (allowed : (filesFrame (cacheRule environment cache)).Allows before after)
    (safe : Safe environment cache before) : Safe environment cache after := by
  intro content release found isRelease
  rcases allowed cache.latestPlace with same | ⟨_, isDirectory, _⟩ | ⟨_, part, isFile, placed⟩
  · exact safe content release (same ▸ found) isRelease
  · rw [found] at isDirectory
    cases isDirectory
  · rw [found] at isFile
    cases isFile
    exact placed.latest rfl release isRelease

theorem withinCache {Value : Type} {program : RecipeAction Value}
    (within : Program.Within (filesFrame (cacheRule environment cache)) program) :
    WithinCache environment cache (fun _ => True) program :=
  within.yields fun _ _ => Safe.of_allowed

theorem within_send {rule : ChangeRule} (url failure statusFailure : String) :
    Program.Within (filesFrame rule) (send environment url failure statusFailure) := by
  intro host place
  unfold send
  split
  · exact rule.refl place _
  · exact rule.refl place _
  · exact rule.refl place _

theorem send_eq_ok {url failure statusFailure : String} {host final : RecipeHost}
    {response : Response}
    (sent : send environment url failure statusFailure host = (.ok response, final)) :
    environment.server host.requests url = .response response ∧ response.isError = false ∧
      final.files = host.files := by
  unfold send at sent
  split at sent
  · cases sent
  · cases sent
  · next answer isAnswer =>
      obtain ⟨outcome, rfl⟩ := Prod.mk.inj sent
      split at outcome
      · cases outcome
      · next noError =>
          cases outcome
          exact ⟨isAnswer, Bool.eq_false_iff.mpr noError, rfl⟩

theorem within_fetch {rule : ChangeRule} (url failure statusFailure bodyFailure : String) :
    Program.Within (filesFrame rule)
      (fetch environment url failure statusFailure bodyFailure) := by
  apply (within_send _ _ _).bind
  intro response
  cases response.body with
  | some body => exact Program.within_pure body
  | none => exact Program.within_fail bodyFailure

theorem fetch_eq_ok {url failure statusFailure bodyFailure body : String}
    {host final : RecipeHost}
    (fetched : fetch environment url failure statusFailure bodyFailure host = (.ok body, final)) :
    environment.Serves url body ∧ final.files = host.files := by
  obtain ⟨response, middle, sent, rest⟩ := (Program.bind_eq_ok _).mp fetched
  obtain ⟨isAnswer, noError, unchanged⟩ := send_eq_ok sent
  cases isBody : response.body with
  | none =>
      rw [isBody] at rest
      cases rest
  | some found =>
      rw [isBody] at rest
      cases rest
      exact ⟨⟨host.requests, response, isAnswer, noError, isBody⟩, unchanged⟩

theorem fetch_withinCache (url failure statusFailure bodyFailure : String) :
    WithinCache environment cache (environment.Serves url)
      (fetch environment url failure statusFailure bodyFailure) := by
  intro host safe
  have within := @within_fetch environment (cacheRule environment cache) url failure statusFailure
    bodyFailure host
  refine ⟨within, safe.of_allowed within, ?_⟩
  intro body fetched
  exact (fetch_eq_ok (Prod.ext fetched rfl)).1

theorem refreshLatestOfficialRecipeIndex_withinCache :
    WithinCache environment cache IsSegment
      (refreshLatestOfficialRecipeIndex environment cache) := by
  apply (withinCache (within_send _ _ _)).bind
  intro response _
  apply (Program.yields_ofExcept fun _ _ => trivial).bind
  intro segment _
  apply (Program.yields_ofExcept fun _ _ => trivial).bind
  intro url _
  apply (fetch_withinCache _ _ _ _).bind
  intro body _
  apply (withinCache (within_writeIndex segment.property body)).bind
  intro _ _
  apply (withinCache (within_setLatestReleaseVersion segment.property)).bind
  intro _ _
  exact Program.yields_pure segment.property

theorem ensureCachedAsset_withinCache (segment : IsSegment version) (assetName : String) :
    WithinCache environment cache (fun _ => True)
      (ensureCachedAsset environment cache version assetName) := by
  apply (Program.yields_ofExcept fun _ _ => trivial).bind
  intro path _
  apply (withinCache (Program.within_gets _)).bind
  intro cached _
  split
  · exact Program.yields_pure trivial
  · apply (Program.yields_ofExcept fun _ isUrl => isUrl).bind
    intro url isUrl
    apply (fetch_withinCache _ _ _ _).bind
    intro body serves
    exact withinCache (within_writeAsset segment isUrl serves)

theorem within_latestReleaseVersion {rule : ChangeRule} :
    Program.Within (filesFrame rule) (cache.latestReleaseVersion environment.toEnvironment) := by
  apply (Program.within_gets _).bind
  intro present
  apply Program.Within.ite
  · apply (within_readFile _ _).bind
    intro raw
    cases environment.json.fromStr raw with
    | some entry => exact Program.within_pure _
    | none => exact Program.within_fail _
  · exact Program.within_pure none

/-- `latest.json` names a release. -/
def Names (environment : RecipeEnvironment) (cache : RecipeCache) (version : String)
    (files : FileSystem) : Prop :=
  ∃ content release, files cache.latestPlace = some (.file content) ∧
    environment.json.fromStr content = some release ∧ release.releaseVersion = version

theorem latestReleaseVersion_eq_ok {host final : RecipeHost} {found : Option String}
    (succeeded : cache.latestReleaseVersion environment.toEnvironment host = (.ok found, final)) :
    final = host ∧ ∀ version ∈ found, Names environment cache version host.files := by
  obtain ⟨present, _, checked, rest⟩ := (Program.bind_eq_ok _).mp succeeded
  cases checked
  split at rest
  · obtain ⟨raw, _, read, parsed⟩ := (Program.bind_eq_ok _).mp rest
    obtain ⟨isFile, rfl⟩ := readFile_eq_ok.mp read
    rw [RecipeCache.resolve_latestPath] at isFile
    cases isEntry : environment.json.fromStr raw with
    | none =>
        rw [isEntry] at parsed
        cases parsed
    | some entry =>
        rw [isEntry] at parsed
        cases parsed
        refine ⟨rfl, ?_⟩
        rintro version isVersion
        cases isVersion
        exact ⟨raw, entry, isFile, isEntry, rfl⟩
  · cases rest
    exact ⟨rfl, nofun⟩

/-- Under a safe cache the release read from `latest.json` is a name. -/
theorem latestReleaseVersion_withinCache :
    WithinCache environment cache (fun found => ∀ version ∈ found, IsSegment version)
      (cache.latestReleaseVersion environment.toEnvironment) := by
  intro host safe
  have within := @within_latestReleaseVersion environment cache (cacheRule environment cache) host
  refine ⟨within, safe.of_allowed within, ?_⟩
  intro found succeeded version isVersion
  obtain ⟨content, release, isFile, isRelease, rfl⟩ :=
    (latestReleaseVersion_eq_ok (Prod.ext succeeded rfl)).2 version isVersion
  exact safe content release isFile isRelease

theorem currentReleaseVersion_withinCache (refresh : Bool) :
    WithinCache environment cache IsSegment (currentReleaseVersion environment cache refresh) := by
  have read : WithinCache environment cache (fun found => ∀ version ∈ found, IsSegment version)
      (cachedReleaseVersion environment cache refresh) := by
    unfold cachedReleaseVersion
    split
    · exact Program.yields_pure nofun
    · exact latestReleaseVersion_withinCache
  apply read.bind
  intro found segments
  have kept : WithinCache environment cache (fun indexed => ∀ version ∈ indexed, IsSegment version)
      (Program.gets fun host => found.filter fun releaseVersion =>
        host.files.pathExists (cache.indexPath releaseVersion)) := by
    apply Program.yields_gets
    intro host _ version isIndexed
    exact segments version (Option.mem_filter_iff.mp isIndexed).1
  apply kept.bind
  intro indexed isSegment
  cases indexed with
  | some version => exact Program.yields_pure (isSegment version rfl)
  | none => exact refreshLatestOfficialRecipeIndex_withinCache

theorem loadOfficialRecipeIndex_withinCache (fungiDir : String) (refresh : Bool) :
    WithinCache environment (RecipeCache.ofDir fungiDir)
      (fun loaded => loaded.cache = RecipeCache.ofDir fungiDir ∧ IsSegment loaded.releaseVersion)
      (loadOfficialRecipeIndex environment fungiDir refresh) := by
  have opened : WithinCache environment (RecipeCache.ofDir fungiDir)
      (fun cache => cache = RecipeCache.ofDir fungiDir)
      (RecipeCache.applyFromDir environment.toEnvironment fungiDir) :=
    (withinCache (within_createDirAll fun place => makes_of_root)).bind
      fun _ _ => Program.yields_pure rfl
  apply opened.bind
  rintro cache rfl
  apply (currentReleaseVersion_withinCache refresh).bind
  intro version segment
  apply (withinCache (within_readFile _ _)).bind
  intro raw _
  cases environment.parseIndex raw with
  | some index => exact Program.yields_pure ⟨rfl, segment⟩
  | none => exact Program.yields_fail _

theorem ensureCachedReadme_withinCache {loaded : LoadedOfficialRecipeIndex}
    (segment : IsSegment loaded.releaseVersion) (recipe : OfficialRecipeRecord) :
    WithinCache environment loaded.cache (fun _ => True)
      (ensureCachedReadme environment loaded recipe) := by
  unfold ensureCachedReadme
  cases recipe.readmeAsset with
  | none => exact Program.yields_pure trivial
  | some readmeAsset =>
      apply (ensureCachedAsset_withinCache segment readmeAsset).bind
      exact fun _ _ => Program.yields_pure trivial

theorem buildRecipeDetail_withinCache {loaded : LoadedOfficialRecipeIndex}
    (segment : IsSegment loaded.releaseVersion) (recipe : OfficialRecipeRecord) :
    WithinCache environment loaded.cache (fun _ => True)
      (buildRecipeDetail environment loaded recipe) := by
  apply (withinCache (Program.within_ofExcept _)).bind
  intro summary _
  apply (ensureCachedAsset_withinCache segment _).bind
  intro manifestPath _
  apply (ensureCachedReadme_withinCache segment recipe).bind
  intro readmePath _
  apply withinCache
  apply (Program.within_ofExcept _).bind
  intro manifestUrl
  apply (Program.within_ofExcept _).bind
  intro readmeUrl
  exact Program.within_pure _

theorem within_resolveRecipe {loaded : LoadedOfficialRecipeIndex}
    (segment : IsSegment loaded.releaseVersion) (recipe : OfficialRecipeRecord)
    (detail : ServiceRecipeDetail) (serviceName : Option String) :
    Program.Within (filesFrame (cacheRule environment loaded.cache))
      (resolveRecipe environment loaded recipe detail serviceName) := by
  apply (within_readFile _ _).bind
  intro manifestYaml
  apply (Program.within_ofExcept _).bind
  intro resolvedManifestYaml
  apply (Program.within_ofExcept _).bind
  intro resolvedName
  apply (within_writeResolvedManifest segment _ _ _).bind
  intro resolvedManifestPath
  apply (within_ensureAssetDir segment).bind
  intro manifestBaseDir
  exact Program.within_pure _

theorem perform_withinCache (fungiDir : String) (operation : RecipeOperation) :
    WithinCache environment (RecipeCache.ofDir fungiDir) (fun _ => True)
      (operation.perform environment fungiDir) := by
  cases operation with
  | list refresh =>
      apply Program.Yields.dropped
      apply (loadOfficialRecipeIndex_withinCache fungiDir refresh).bind
      intro loaded _
      exact withinCache (Program.within_ofExcept _)
  | get recipeId refresh =>
      apply Program.Yields.dropped
      apply (loadOfficialRecipeIndex_withinCache fungiDir refresh).bind
      rintro ⟨version, index, _⟩ ⟨rfl, segment⟩
      apply (withinCache (Program.within_ofExcept _)).bind
      intro recipe _
      exact buildRecipeDetail_withinCache segment recipe
  | resolve recipeId serviceName refresh =>
      apply Program.Yields.dropped
      apply (loadOfficialRecipeIndex_withinCache fungiDir refresh).bind
      rintro ⟨version, index, _⟩ ⟨rfl, segment⟩
      apply (withinCache (Program.within_ofExcept _)).bind
      intro recipe _
      apply (buildRecipeDetail_withinCache segment recipe).bind
      intro detail _
      exact withinCache (within_resolveRecipe segment recipe detail serviceName)

theorem performAll_withinCache (fungiDir : String) (operations : List RecipeOperation) :
    WithinCache environment (RecipeCache.ofDir fungiDir) (fun _ => True)
      (RecipeOperation.performAll environment fungiDir operations) :=
  Program.Yields.forEach fun operation _ => (perform_withinCache fungiDir operation).ignoring

end Yielding

/-! ## Runs -/

theorem resolve_ofDir (fungiDir : String) : Path.resolve (RecipeCache.ofDir fungiDir).rootDir =
    Path.resolve fungiDir ++ ["cache", "recipes", "official"].map String.toList := by
  rw [RecipeCache.ofDir, Path.resolve_join (by decide) (by decide),
    Path.resolve_join (by decide) (by decide), List.append_assoc]
  rfl

section Runs

variable {environment : RecipeEnvironment} {fungiDir : String} {host : RecipeHost}

/-- Whatever the server answers and whichever steps fail, a run of recipe requests changes nothing
outside the cache, except that it makes the directories the cache lies in. -/
theorem files_outside_of_recipe_requests (operations : List RecipeOperation)
    (safe : Safe environment (RecipeCache.ofDir fungiDir) host) {place : List Name}
    (outside : ¬ Path.resolve fungiDir ++ ["cache", "recipes", "official"].map String.toList <+:
      place) :
    let final := (RecipeOperation.performAll environment fungiDir operations host).2
    final.files place = host.files place ∨
      host.files place = none ∧ final.files place = some .directory ∧
        place ∈ Path.ancestors (RecipeCache.ofDir fungiDir).rootDir := by
  intro final
  have changed := (performAll_withinCache fungiDir operations host safe).within place
  rw [← resolve_ofDir] at outside
  rcases changed with same | ⟨absent, made, onTheWay | inside⟩ | ⟨_, part, _, placed⟩
  · exact Or.inl same
  · exact Or.inr ⟨absent, made, onTheWay⟩
  · exact absurd inside outside
  · exact absurd placed.below outside

/-- After any run of recipe requests, an asset that the cache holds of a release with a plain name
was there before, or is what the URL of that asset of that release served, or the part of it that
was written by a write that failed. -/
theorem cached_asset_of_recipe_requests (operations : List RecipeOperation)
    (safe : Safe environment (RecipeCache.ofDir fungiDir) host) {version assetName content : String}
    (plain : Path.Plain version) :
    let place := (RecipeCache.ofDir fungiDir).placeOf version ["assets", assetName]
    let final := (RecipeOperation.performAll environment fungiDir operations host).2
    final.files place = some (.file content) →
      host.files place = some (.file content) ∨
        ∃ url body, releaseAssetUrl version assetName = .ok url ∧ environment.Serves url body ∧
          environment.Writes body content := by
  intro place final found
  have changed := (performAll_withinCache fungiDir operations host safe).within place
  rcases changed with same | ⟨_, made, _⟩ | ⟨_, part, isFile, placed⟩
  · exact Or.inl (same ▸ found)
  · cases found.symm.trans made
  · cases found.symm.trans isFile
    exact Or.inr (placed.asset version assetName plain rfl)

end Runs

/-! ## A release with one recipe -/

/-- Each character is announced, then come the ticks of the clock and an end mark. -/
def spellRelease : List Char → SystemTime → List Char
  | [], 0 => ['e']
  | [], ticks + 1 => 't' :: spellRelease [] ticks
  | character :: rest, ticks => 'c' :: character :: spellRelease rest ticks

/-- Read a release from its marked characters. -/
def readRelease : List Char → Option (List Char × SystemTime)
  | ['e'] => some ([], 0)
  | 't' :: rest => (readRelease rest).map fun read => (read.1, read.2 + 1)
  | 'c' :: character :: rest => (readRelease rest).map fun read => (character :: read.1, read.2)
  | _ => none

theorem readRelease_spellRelease (version : List Char) (ticks : SystemTime) :
    readRelease (spellRelease version ticks) = some (version, ticks) := by
  fun_induction spellRelease version ticks with
  | case1 => rfl
  | case2 ticks inductionHypothesis => simp [readRelease, inductionHypothesis]
  | case3 character rest ticks inductionHypothesis => simp [readRelease, inductionHypothesis]

/-- Without its end mark nothing is read. -/
theorem readRelease_take (version : List Char) (ticks : SystemTime) (length : Nat)
    (isCut : length < (spellRelease version ticks).length) :
    readRelease ((spellRelease version ticks).take length) = none := by
  fun_induction spellRelease version ticks generalizing length with
  | case1 =>
      obtain rfl : length = 0 := by simpa using isCut
      rfl
  | case2 ticks inductionHypothesis =>
      cases length with
      | zero => rfl
      | succ length => simp [readRelease, inductionHypothesis length (by simpa using isCut)]
  | case3 character rest ticks inductionHypothesis =>
      match length with
      | 0 => rfl
      | 1 => rfl
      | length + 2 => simp [readRelease, inductionHypothesis length (by simpa using isCut)]

/-- Releases in a spelling that can be read back. -/
def ReleaseJson.spelled : ReleaseJson :=
  { fromStr := fun text => (readRelease text.toList).map fun read =>
      { releaseVersion := String.ofList read.1, updatedAt := read.2 }
    toStringPretty := fun release =>
      String.ofList (spellRelease release.releaseVersion.toList release.updatedAt)
    fromStr_toStringPretty := by
      intro release
      simp [readRelease_spellRelease]
    fromStr_cut := by
      intro release length isCut
      rw [String.toList_ofList] at isCut
      simp [cut, readRelease_take _ _ _ isCut] }

/-- A recipe. -/
def demoRecipe : OfficialRecipeRecord :=
  { id := "ssh"
    name := "SSH"
    description := "A tunnel"
    runtime := "tcp"
    manifestAsset := "ssh.yaml"
    readmeAsset := none
    homepage := none
    tags := []
    stability := "stable" }

/-- The server of a release `v1` with one recipe. -/
def demoServer (url : String) : Answer :=
  if url = officialRecipeLatestReleaseUrl then
    .response {
      url
      pathSegments := [⟨"tag", by decide, by decide⟩, ⟨"v1", by decide, by decide⟩]
      isError := false
      body := some "" }
  else
    .response {
      url
      pathSegments := []
      isError := false
      body := some "recipe" }

theorem zero_alphanumeric : "0".toList.all Char.isAlphanum := by decide

/-- No manifest is parsed. -/
def noDocuments : List (String × Runtime.FungiServiceDocument) := []

theorem noDocuments_distinct : (noDocuments.map (·.1)).Nodup := List.nodup_nil

theorem noDocuments_start : ∀ item ∈ noDocuments, "fungi:".toList <+: item.1.toList := nofun

/-- A server with one release, and a file system that never fails. -/
def demoEnvironment : RecipeEnvironment :=
  { server := fun _ => demoServer
    fault := fun _ => none
    ulid := fun _ => { text := "0", alphanumeric := zero_alphanumeric }
    now := fun _ => 0
    json := ReleaseJson.spelled
    parseIndex := fun text => if text = "recipe" then some { recipes := [demoRecipe] } else none
    yaml := Runtime.SerdeYaml.ofTable noDocuments noDocuments_distinct noDocuments_start }

/-- An empty machine. -/
def demoHost : RecipeHost :=
  { files := FileSystem.ofList [([], .directory)], requests := 0, steps := 0, ulids := 0 }

theorem safe_demoHost : Safe demoEnvironment (RecipeCache.ofDir "/fungi") demoHost := by
  intro content release found
  have absent : demoHost.files (RecipeCache.ofDir "/fungi").latestPlace = none := by decide +kernel
  cases absent.symm.trans found

theorem files_outside_of_recipe_requests_first :
    (RecipeOperation.performAll demoEnvironment "/fungi" [.get "ssh" false] demoHost).2.files
      ["etc".toList] = none := by
  rcases @files_outside_of_recipe_requests demoEnvironment "/fungi" demoHost [.get "ssh" false]
    safe_demoHost ["etc".toList] (by decide +kernel) with same | ⟨_, _, onTheWay⟩
  · exact same
  · revert onTheWay
    decide +kernel

theorem cached_asset_of_recipe_requests_first :
    ∃ url body, releaseAssetUrl "v1" "ssh.yaml" = .ok url ∧ demoEnvironment.Serves url body ∧
      demoEnvironment.Writes body "recipe" := by
  have stored : (RecipeOperation.performAll demoEnvironment "/fungi" [.get "ssh" false]
      demoHost).2.files ((RecipeCache.ofDir "/fungi").placeOf "v1" ["assets", "ssh.yaml"]) =
        some (.file "recipe") := by decide +kernel
  have absent : demoHost.files
      ((RecipeCache.ofDir "/fungi").placeOf "v1" ["assets", "ssh.yaml"]) = none := by
    decide +kernel
  rcases cached_asset_of_recipe_requests [.get "ssh" false] safe_demoHost
    ⟨by decide, by decide, by decide, by decide⟩ stored with before | served
  · cases absent.symm.trans before
  · exact served

end Fungi.Daemon
