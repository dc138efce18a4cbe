import Fungi.Config.RecipeCache
import Fungi.Runtime.InstanceNames

/-!
# Official recipes

`crates/daemon/src/recipes.rs` lists the recipes of a release, and fetches what the cache does not
hold.
-/

namespace Fungi.Daemon

open Fungi.Lib Fungi.Config
open Fungi.Runtime (SerdeYaml serviceManifestWithInstanceName peekServiceManifestName)

/-- The repository of the official recipes. -/
def officialRecipeSourceLabel : String := "enbop/fungi-service-recipes"

/-- The page that redirects to the latest release. -/
def officialRecipeLatestReleaseUrl : String :=
  "https://github.com/enbop/fungi-service-recipes/releases/latest"

/-- The runtimes that a recipe can name. -/
inductive ServiceRecipeRuntime where
  | docker
  | wasmtime
  | tcp
  deriving DecidableEq

/-- A recipe in a list. -/
structure ServiceRecipeSummary where
  id : String
  name : String
  description : String
  runtime : ServiceRecipeRuntime
  stability : String
  sourceLabel : String
  releaseVersion : String
  deriving DecidableEq

/-- A recipe with its files in the cache. -/
structure ServiceRecipeDetail where
  summary : ServiceRecipeSummary
  tags : List String
  homepage : Option String
  cachedManifestPath : String
  cachedReadmePath : Option String
  remoteManifestUrl : String
  remoteReadmeUrl : Option String
  deriving DecidableEq

/-- A recipe made into the manifest of a service. -/
structure ResolvedServiceRecipe where
  detail : ServiceRecipeDetail
  manifestYaml : String
  manifestBaseDir : String
  resolvedManifestPath : String
  warnings : List String
  deriving DecidableEq

/-- A recipe as the index has it. -/
structure OfficialRecipeRecord where
  id : String
  name : String
  description : String
  runtime : String
  manifestAsset : String
  readmeAsset : Option String
  homepage : Option String
  tags : List String
  stability : String
  deriving DecidableEq

/-- The index of a release. -/
structure OfficialRecipeIndex where
  recipes : List OfficialRecipeRecord
  deriving DecidableEq

/-- The index of the release in use. -/
structure LoadedOfficialRecipeIndex where
  releaseVersion : String
  index : OfficialRecipeIndex
  cache : RecipeCache

/-- What the recipe functions stand on; `parseIndex` is `serde_json` on an index. -/
structure RecipeEnvironment extends Environment where
  parseIndex : String → Option OfficialRecipeIndex
  yaml : SerdeYaml

variable (environment : RecipeEnvironment)

/-! ## Requests -/

/-- Send a request, and refuse an answer with an error status. -/
def send (url failure statusFailure : String) : RecipeAction Response := fun host =>
  match environment.server host.requests url with
  | .noClient => (.error "failed to build HTTP client", host)
  | .unreachable => (.error failure, { host with requests := host.requests + 1 })
  | .response response =>
      (if response.isError then .error statusFailure else .ok response,
        { host with requests := host.requests + 1 })

/-- Send a request, and read the body of the answer. -/
def fetch (url failure statusFailure bodyFailure : String) : RecipeAction String := do
  let response ← send environment url failure statusFailure
  match response.body with
  | some body => return body
  | none => Program.fail bodyFailure

/-- Where a release keeps an asset, whose name is checked. -/
def releaseAssetUrl (releaseVersion assetName : String) : Except String String := do
  let assetName ← validateAssetName assetName
  return "https://github.com/" ++ officialRecipeSourceLabel ++ "/releases/download/" ++
    releaseVersion ++ "/" ++ assetName

/-- The segment after the first one that reads `tag`. -/
def releaseVersionFromReleasePageUrl (response : Response) : Except String PathSegment :=
  match (response.pathSegments.dropWhile fun segment => segment.val ≠ "tag")[1]? with
  | some releaseVersion => .ok releaseVersion
  | none => .error s!"failed to determine recipe release version from {response.url}"

/-- Look up the latest release and fetch its index; the release is recorded last. -/
def refreshLatestOfficialRecipeIndex (cache : RecipeCache) : RecipeAction String := do
  let latestReleaseResponse ← send environment officialRecipeLatestReleaseUrl
    "failed to resolve latest official recipe release"
    "latest official recipe release request failed"
  let releaseVersion ← Program.ofExcept (releaseVersionFromReleasePageUrl latestReleaseResponse)
  let url ← Program.ofExcept (releaseAssetUrl releaseVersion.val "index.json")
  let body ← fetch environment url "failed to fetch official recipe index"
    "official recipe index request failed" "failed to read official recipe index response body"
  let _ ← cache.writeIndex environment.toEnvironment releaseVersion.val body
  cache.setLatestReleaseVersion environment.toEnvironment releaseVersion.val
  return releaseVersion.val

/-- A file that is not empty, or a directory, which has a length of its own. -/
def isCached (files : FileSystem) (path : String) : Bool :=
  match files (Path.resolve path) with
  | some (.file content) => content ≠ ""
  | some .directory => true
  | none => false

/-- Fetch an asset that is not in the cache. -/
def fetchAsset (cache : RecipeCache) (releaseVersion assetName : String) :
    RecipeAction String := do
  let url ← Program.ofExcept (releaseAssetUrl releaseVersion assetName)
  let body ← fetch environment url s!"failed to fetch recipe asset `{assetName}`"
    s!"recipe asset request failed for `{assetName}`"
    s!"failed to read recipe asset `{assetName}`"
  cache.writeAsset environment.toEnvironment releaseVersion assetName body

/-- The file of an asset, fetched unless it is in the cache. -/
def ensureCachedAsset (cache : RecipeCache) (releaseVersion assetName : String) :
    RecipeAction String := do
  let path ← Program.ofExcept (cache.assetPath releaseVersion assetName)
  if ← Program.gets fun host => isCached host.files path then return path
  else fetchAsset environment cache releaseVersion assetName

/-! ## Recipes -/

/-- The release that the cache knows as the latest, unless it is to be looked up. -/
def cachedReleaseVersion (cache : RecipeCache) (refresh : Bool) : RecipeAction (Option String) :=
  if refresh then pure none else cache.latestReleaseVersion environment.toEnvironment

/-- The release to use: the latest one in the cache, unless it is to be looked up or its index is
not there. -/
def currentReleaseVersion (cache : RecipeCache) (refresh : Bool) : RecipeAction String := do
  let releaseVersion ← cachedReleaseVersion environment cache refresh
  let indexed ← Program.gets fun host =>
    releaseVersion.filter fun releaseVersion =>
      host.files.pathExists (cache.indexPath releaseVersion)
  match indexed with
  | some releaseVersion => return releaseVersion
  | none => refreshLatestOfficialRecipeIndex environment cache

/-- The index of the release in use, read from the cache. -/
def loadOfficialRecipeIndex (fungiDir : String) (refresh : Bool) :
    RecipeAction LoadedOfficialRecipeIndex := do
  let cache ← RecipeCache.applyFromDir environment.toEnvironment fungiDir
  let releaseVersion ← currentReleaseVersion environment cache refresh
  let indexPath := cache.indexPath releaseVersion
  let raw ← readFile s!"failed to read cached recipe index: {indexPath}" indexPath
  match environment.parseIndex raw with
  | some index => return { releaseVersion, index, cache }
  | none => Program.fail s!"failed to parse cached recipe index: {indexPath}"

/-- The runtime of a recipe, whatever its case. -/
def parseRecipeRuntime (value : String) : Except String ServiceRecipeRuntime :=
  let other := toAsciiLowercase (trim value)
  if other = "docker" then .ok .docker
  else if other = "wasmtime" then .ok .wasmtime
  else if other = "tcp" then .ok .tcp
  else .error s!"unsupported recipe runtime `{other}`"

/-- The summary of a recipe, whose runtime must be known. -/
def buildRecipeSummary (recipe : OfficialRecipeRecord) (releaseVersion : String) :
    Except String ServiceRecipeSummary := do
  let runtime ← parseRecipeRuntime recipe.runtime
  return {
    id := recipe.id
    name := recipe.name
    description := recipe.description
    runtime
    stability := recipe.stability
    sourceLabel := officialRecipeSourceLabel
    releaseVersion }

/-- The recipe of an id. -/
def LoadedOfficialRecipeIndex.findRecipe (self : LoadedOfficialRecipeIndex) (recipeId : String) :
    Except String OfficialRecipeRecord :=
  match self.index.recipes.find? fun recipe => recipe.id = recipeId with
  | some recipe => .ok recipe
  | none => .error s!"unknown recipe `{recipeId}`"

/-- The file of the readme, if the recipe has one. -/
def ensureCachedReadme (loaded : LoadedOfficialRecipeIndex) (recipe : OfficialRecipeRecord) :
    RecipeAction (Option String) :=
  match recipe.readmeAsset with
  | some readmeAsset => do
      let path ← ensureCachedAsset environment loaded.cache loaded.releaseVersion readmeAsset
      return some path
  | none => pure none

/-- A recipe with its manifest and its readme in the cache. -/
def buildRecipeDetail (loaded : LoadedOfficialRecipeIndex) (recipe : OfficialRecipeRecord) :
    RecipeAction ServiceRecipeDetail := do
  let summary ← Program.ofExcept (buildRecipeSummary recipe loaded.releaseVersion)
  let cachedManifestPath ← ensureCachedAsset environment loaded.cache loaded.releaseVersion
    recipe.manifestAsset
  let cachedReadmePath ← ensureCachedReadme environment loaded recipe
  let remoteManifestUrl ← Program.ofExcept
    (releaseAssetUrl loaded.releaseVersion recipe.manifestAsset)
  let remoteReadmeUrl ← Program.ofExcept
    (recipe.readmeAsset.mapM (releaseAssetUrl loaded.releaseVersion))
  return {
    summary
    tags := recipe.tags
    homepage := recipe.homepage
    cachedManifestPath
    cachedReadmePath
    remoteManifestUrl
    remoteReadmeUrl }

/-- The name for the service: the given one, else the id of the recipe. -/
def resolvedServiceName (recipe : OfficialRecipeRecord) (serviceName : Option String) : String :=
  let value := trim (serviceName.getD "")
  if value = "" then recipe.id else value

/-- All recipes of the release. -/
def listOfficialServiceRecipes (fungiDir : String) (refresh : Bool) :
    RecipeAction (List ServiceRecipeSummary) := do
  let loaded ← loadOfficialRecipeIndex environment fungiDir refresh
  Program.ofExcept
    (loaded.index.recipes.mapM fun recipe => buildRecipeSummary recipe loaded.releaseVersion)

/-- One recipe of the release, with its files. -/
def getOfficialServiceRecipe (fungiDir recipeId : String) (refresh : Bool) :
    RecipeAction ServiceRecipeDetail := do
  let loaded ← loadOfficialRecipeIndex environment fungiDir refresh
  let recipe ← Program.ofExcept (loaded.findRecipe recipeId)
  buildRecipeDetail environment loaded recipe

/-- An error is told by its context. -/
def withContext {Failure Value : Type} (context : String) (outcome : Except Failure Value) :
    Except String Value :=
  outcome.mapError fun _ => context

/-- The manifest of a recipe under the name of the service, written to the cache. -/
def resolveRecipe (loaded : LoadedOfficialRecipeIndex) (recipe : OfficialRecipeRecord)
    (detail : ServiceRecipeDetail) (serviceName : Option String) :
    RecipeAction ResolvedServiceRecipe := do
  let path := detail.cachedManifestPath
  let manifestYaml ← readFile s!"failed to read cached recipe manifest: {path}" path
  let resolvedManifestYaml ← Program.ofExcept <|
    withContext s!"failed to resolve recipe manifest: {path}" <|
      serviceManifestWithInstanceName environment.yaml manifestYaml
        (resolvedServiceName recipe serviceName)
  let resolvedName ← Program.ofExcept <|
    withContext "failed to read resolved recipe service name" <|
      peekServiceManifestName environment.yaml resolvedManifestYaml
  let resolvedManifestPath ← loaded.cache.writeResolvedManifest environment.toEnvironment
    loaded.releaseVersion recipe.id resolvedName resolvedManifestYaml
  let manifestBaseDir ← loaded.cache.ensureAssetDir environment.toEnvironment
    loaded.releaseVersion
  return {
    detail
    manifestYaml := resolvedManifestYaml
    manifestBaseDir
    resolvedManifestPath
    warnings := [] }

/-- One recipe as a manifest under the name for the service, written to the cache. -/
def resolveOfficialServiceRecipe (fungiDir recipeId : String) (serviceName : Option String)
    (refresh : Bool) : RecipeAction ResolvedServiceRecipe := do
  let loaded ← loadOfficialRecipeIndex environment fungiDir refresh
  let recipe ← Program.ofExcept (loaded.findRecipe recipeId)
  let detail ← buildRecipeDetail environment loaded recipe
  resolveRecipe environment loaded recipe detail serviceName

end Fungi.Daemon
