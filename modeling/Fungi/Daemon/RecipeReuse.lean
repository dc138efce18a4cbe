import Fungi.Daemon.RecipeRuns

/-!
# Recipes without the network

A recipe that was fetched once is found again offline, whatever requests without a refresh come in
between.
-/

namespace Fungi.Daemon

open Fungi.Lib FileSystem Fungi.Config RecipeCache

/-- No server answers, and no step on files fails. -/
def RecipeEnvironment.offline (environment : RecipeEnvironment) : RecipeEnvironment :=
  { environment with
    server := fun _ _ => .unreachable
    fault := fun _ => none }

/-! ## What requests keep -/

/-- Directories stay, and of a release its index and the assets that are not empty. -/
def keepsRelease (cache : RecipeCache) (version : String) : ChangeRule :=
  .protecting fun place before => before ≠ none ∧
    (before = some .directory ∨ place = cache.latestPlace ∨
      place = cache.placeOf version ["index.json"] ∨
        before ≠ some (.file "") ∧ ∃ assetName, place = cache.placeOf version ["assets", assetName])

/-- Everything stays but one asset. -/
def exceptAsset (cache : RecipeCache) (version assetName : String) : ChangeRule :=
  .protecting fun place before => before ≠ none ∧
    (before = some .directory ∨ place ≠ cache.placeOf version ["assets", assetName])

section Keeping

variable {environment : RecipeEnvironment} {cache : RecipeCache} {version : String}

theorem protecting_makes {rule : Option Node → List Name → Prop} {place : List Name} :
    (ChangeRule.protecting fun place before => before ≠ none ∧ rule before place).Allows place none
      (some .directory) :=
  ⟨fun inside => absurd rfl inside.1, fun found => absurd rfl found⟩

theorem isCached_iff {files : FileSystem} {path : String} : isCached files path = true ↔
    files (Path.resolve path) ≠ none ∧ files (Path.resolve path) ≠ some (.file "") := by
  unfold isCached
  cases files (Path.resolve path) with
  | none => simp
  | some node =>
      cases node with
      | directory => simp
      | file content => simp

theorem within_fetchAsset (segment : IsSegment version) (assetName : String) :
    Program.Within (filesFrame (exceptAsset cache version assetName))
      (fetchAsset environment cache version assetName) := by
  apply (Program.within_ofExcept _).bind
  intro url
  apply (within_fetch _ _ _ _).bind
  intro body
  apply (Program.within_ofExcept _).bind_of_value
  · intro state path final isPath
    exact assetPath_eq_ok ((Program.ofExcept_eq_ok state).mp isPath).1
  · rintro path ⟨plain, rfl⟩
    apply Program.Within.bind
    · apply within_writeBytes plain
      · exact fun _ _ => protecting_makes
      · intro before part noDirectory _
        rw [resolve_below (resolve_assetsDir segment) plain]
        refine ⟨?_, fun _ => by simp⟩
        rintro ⟨_, isDirectory | elsewhere⟩
        · exact absurd isDirectory noDirectory
        · exact absurd rfl elsewhere
    · exact fun _ => Program.within_pure _

/-- An asset is only fetched where none is in the cache. -/
theorem within_ensureCachedAsset (segment : IsSegment version) (assetName : String) :
    Program.Within (filesFrame (keepsRelease cache version))
      (ensureCachedAsset environment cache version assetName) := by
  apply (Program.within_ofExcept _).bind_of_value
  · intro state path final isPath
    exact assetPath_eq_ok ((Program.ofExcept_eq_ok state).mp isPath).1
  · rintro path ⟨plain, rfl⟩ host
    rw [Program.bind_apply, Program.gets_apply]
    dsimp only
    split
    · exact (filesFrame _).refl host
    · next missing =>
        intro place
        obtain ⟨kept, stays⟩ := @within_fetchAsset environment cache _ segment assetName host place
        refine ⟨?_, stays⟩
        rintro ⟨found, isProtected⟩
        apply kept
        refine ⟨found, ?_⟩
        rcases isProtected with isDirectory | isLatest | isIndex | ⟨nonempty, other, isAsset⟩
        · exact Or.inl isDirectory
        · right
          rw [isLatest]
          exact (latestPlace_ne_placeOf (by simp)).symm
        · right
          rw [isIndex]
          intro same
          have lengths := congrArg List.length same
          rw [length_placeOf, length_placeOf] at lengths
          simp at lengths
        · right
          rintro rfl
          rw [isCached_iff, resolve_below (resolve_assetsDir segment) plain] at missing
          exact missing ⟨found, nonempty⟩

theorem within_ensureCachedReadme {loaded : LoadedOfficialRecipeIndex}
    (segment : IsSegment loaded.releaseVersion) (recipe : OfficialRecipeRecord) :
    Program.Within (filesFrame (keepsRelease loaded.cache loaded.releaseVersion))
      (ensureCachedReadme environment loaded recipe) := by
  unfold ensureCachedReadme
  cases recipe.readmeAsset with
  | none => exact Program.within_pure _
  | some readmeAsset =>
      apply (within_ensureCachedAsset segment readmeAsset).bind
      exact fun _ => Program.within_pure _

theorem within_buildRecipeDetail {loaded : LoadedOfficialRecipeIndex}
    (segment : IsSegment loaded.releaseVersion) (recipe : OfficialRecipeRecord) :
    Program.Within (filesFrame (keepsRelease loaded.cache loaded.releaseVersion))
      (buildRecipeDetail environment loaded recipe) := by
  apply (Program.within_ofExcept _).bind
  intro summary
  apply (within_ensureCachedAsset segment _).bind
  intro manifestPath
  apply (within_ensureCachedReadme segment recipe).bind
  intro readmePath
  apply (Program.within_ofExcept _).bind
  intro manifestUrl
  apply (Program.within_ofExcept _).bind
  intro readmeUrl
  exact Program.within_pure _

theorem resolved_ne_index (name : String) :
    cache.placeOf version ["resolved", name] ≠ cache.placeOf version ["index.json"] := by
  intro same
  have lengths := congrArg List.length same
  rw [length_placeOf, length_placeOf] at lengths
  simp at lengths

theorem within_resolveRecipe_keeping {loaded : LoadedOfficialRecipeIndex}
    (segment : IsSegment loaded.releaseVersion) (recipe : OfficialRecipeRecord)
    (detail : ServiceRecipeDetail) (serviceName : Option String) :
    Program.Within (filesFrame (keepsRelease loaded.cache loaded.releaseVersion))
      (resolveRecipe environment loaded recipe detail serviceName) := by
  apply (within_readFile _ _).bind
  intro manifestYaml
  apply (Program.within_ofExcept _).bind
  intro resolvedManifestYaml
  apply (Program.within_ofExcept _).bind
  intro resolvedName
  apply Program.Within.bind
  · apply within_nextUlid.bind
    intro ulid
    have plain := plain_resolvedFileName recipe.id resolvedName ulid
    apply Program.Within.bind
    · apply within_writeBytes plain
      · exact fun _ _ => protecting_makes
      · intro before part noDirectory _
        rw [resolve_below (resolve_resolvedDir segment) plain]
        refine ⟨?_, fun _ => by simp⟩
        rintro ⟨_, isDirectory | isLatest | isIndex | ⟨_, assetName, isAsset⟩⟩
        · exact absurd isDirectory noDirectory
        · exact absurd isLatest (latestPlace_ne_placeOf (by simp))
        · exact absurd isIndex (resolved_ne_index _)
        · have names := (placeOf_inj (by simp) isAsset).2
          simp at names
    · exact fun _ => Program.within_pure _
  · intro resolvedManifestPath
    apply Program.Within.bind
    · apply Program.Within.bind
      · exact within_createDirAll fun _ _ => protecting_makes
      · exact fun _ => Program.within_pure _
    · exact fun _ => Program.within_pure _

end Keeping

/-! ## A release in the cache -/

/-- The cache holds the index of the release that `latest.json` names. -/
structure Available (environment : RecipeEnvironment) (cache : RecipeCache) (version : String)
    (index : OfficialRecipeIndex) (host : RecipeHost) : Prop where
  root : ∀ place ∈ Path.ancestors cache.rootDir, host.files place = some .directory
  latest : Names environment cache version host.files
  index : ∃ content, host.files (cache.placeOf version ["index.json"]) = some (.file content) ∧
    environment.parseIndex content = some index

section Availability

variable {environment : RecipeEnvironment} {cache : RecipeCache} {version : String}
  {index : OfficialRecipeIndex} {host : RecipeHost} {fungiDir : String}

theorem Available.of_kept {after : RecipeHost}
    (available : Available environment cache version index host)
    (kept : (filesFrame (keepsRelease cache version)).Allows host after) :
    Available environment cache version index after where
  root place member := by
    have isDirectory := available.root place member
    rw [(kept place).1 ⟨by simp [isDirectory], Or.inl isDirectory⟩, isDirectory]
  latest := by
    obtain ⟨content, release, isFile, isRelease⟩ := available.latest
    refine ⟨content, release, ?_, isRelease⟩
    rw [(kept _).1 ⟨by simp [isFile], Or.inr (Or.inl rfl)⟩, isFile]
  index := by
    obtain ⟨content, isFile, isIndex⟩ := available.index
    refine ⟨content, ?_, isIndex⟩
    rw [(kept _).1 ⟨by simp [isFile], Or.inr (Or.inr (Or.inl rfl))⟩, isFile]

/-- Where all directories are there, making them changes no file. -/
theorem createDirAll_of_present {environment : Environment} {failure path : String}
    (present : ∀ place ∈ Path.ancestors path, host.files place = some .directory) :
    Config.createDirAll environment failure path host =
      (match environment.fault host.steps with
        | some _ => .error failure
        | none => .ok (), { host with steps := host.steps + 1 }) := by
  have made : ∀ directories, (∀ place ∈ directories, place ∈ Path.ancestors path) →
      host.files.makeDirs directories = host.files := by
    intro directories among
    apply makeDirs_of_present
    intro place member
    simp [present place (among place member)]
  unfold Config.createDirAll fileStep
  cases isFault : environment.fault host.steps with
  | some fault =>
      dsimp only
      rw [made _ fun place => List.mem_of_mem_take]
  | none =>
      dsimp only
      rw [createDirAll_of_free, made _ fun _ => id]
      intro place member content
      simp [present place member]

theorem latestReleaseVersion_of_available
    (available : Available environment cache version index host) :
    cache.latestReleaseVersion environment.toEnvironment host = (.ok (some version), host) := by
  obtain ⟨content, release, isFile, isRelease, rfl⟩ := available.latest
  rw [← resolve_latestPath] at isFile
  have present : host.files.pathExists cache.latestPath = true := by
    simp [pathExists, isFile]
  unfold latestReleaseVersion
  rw [Program.bind_apply, Program.gets_apply]
  dsimp only
  rw [if_pos present, Program.bind_of_ok (readFile_eq_ok.mpr ⟨isFile, rfl⟩), isRelease]
  rfl

theorem currentReleaseVersion_of_available (segment : IsSegment version)
    (available : Available environment cache version index host) :
    currentReleaseVersion environment cache false host = (.ok version, host) := by
  obtain ⟨content, isFile, _⟩ := available.index
  have present : host.files.pathExists (cache.indexPath version) = true := by
    simp [pathExists, resolve_indexPath segment, isFile]
  have read : cachedReleaseVersion environment cache false host = (.ok (some version), host) :=
    latestReleaseVersion_of_available available
  have indexed : (some version).filter (fun releaseVersion =>
      host.files.pathExists (cache.indexPath releaseVersion)) = some version := by
    simp [present]
  unfold currentReleaseVersion
  rw [Program.bind_of_ok read, Program.bind_apply, Program.gets_apply]
  dsimp only
  rw [indexed]
  rfl

/-- Such a release is loaded from the cache alone. -/
theorem loadOfficialRecipeIndex_of_available (segment : IsSegment version)
    (available : Available environment (RecipeCache.ofDir fungiDir) version index host) :
    (environment.fault host.steps ≠ none ∧ ∃ failure,
      loadOfficialRecipeIndex environment fungiDir false host =
        (.error failure, { host with steps := host.steps + 1 })) ∨
      environment.fault host.steps = none ∧
        loadOfficialRecipeIndex environment fungiDir false host =
          (.ok { releaseVersion := version, index, cache := RecipeCache.ofDir fungiDir },
            { host with steps := host.steps + 1 }) := by
  have opened := @createDirAll_of_present host environment.toEnvironment
    ("failed to create recipe cache directory: " ++ (RecipeCache.ofDir fungiDir).rootDir)
    (RecipeCache.ofDir fungiDir).rootDir available.root
  have later : Available environment (RecipeCache.ofDir fungiDir) version index
      { host with steps := host.steps + 1 } :=
    ⟨available.root, available.latest, available.index⟩
  cases isFault : environment.fault host.steps with
  | some fault =>
      left
      rw [isFault] at opened
      have failed : RecipeCache.applyFromDir environment.toEnvironment fungiDir host =
        (.error _, _) :=
        (Program.bind_eq_error host).mpr (Or.inl opened)
      exact ⟨by simp, _, (Program.bind_eq_error host).mpr (Or.inl failed)⟩
  | none =>
      right
      refine ⟨rfl, ?_⟩
      rw [isFault] at opened
      have applied : RecipeCache.applyFromDir environment.toEnvironment fungiDir host =
          (.ok (RecipeCache.ofDir fungiDir), { host with steps := host.steps + 1 }) := by
        unfold RecipeCache.applyFromDir
        exact Program.bind_of_ok opened _
      obtain ⟨content, isFile, isIndex⟩ := later.index
      rw [← resolve_indexPath segment] at isFile
      unfold loadOfficialRecipeIndex
      rw [Program.bind_of_ok applied,
        Program.bind_of_ok (currentReleaseVersion_of_available segment later),
        Program.bind_of_ok (readFile_eq_ok.mpr ⟨isFile, rfl⟩), isIndex]
      rfl

/-- A request that does not refresh keeps the release. -/
theorem load_bind_keeps {Value : Type} {rest : LoadedOfficialRecipeIndex → RecipeAction Value}
    (segment : IsSegment version)
    (available : Available environment (RecipeCache.ofDir fungiDir) version index host)
    (within : Program.Within (filesFrame (keepsRelease (RecipeCache.ofDir fungiDir) version))
      (rest { releaseVersion := version, index, cache := RecipeCache.ofDir fungiDir })) :
    (filesFrame (keepsRelease (RecipeCache.ofDir fungiDir) version)).Allows host
      ((loadOfficialRecipeIndex environment fungiDir false >>= rest) host).2 := by
  rcases loadOfficialRecipeIndex_of_available segment available with
    ⟨_, failure, failed⟩ | ⟨_, loaded⟩
  · rw [Program.bind_apply, failed]
    exact (filesFrame _).refl host
  · rw [Program.bind_of_ok loaded]
    exact within { host with steps := host.steps + 1 }

theorem perform_keeps (segment : IsSegment version)
    (available : Available environment (RecipeCache.ofDir fungiDir) version index host)
    {operation : RecipeOperation} (quiet : operation.refresh = false) :
    (filesFrame (keepsRelease (RecipeCache.ofDir fungiDir) version)).Allows host
      (operation.perform environment fungiDir host).2 := by
  have loadedSegment : IsSegment (LoadedOfficialRecipeIndex.mk version index
    (RecipeCache.ofDir fungiDir)).releaseVersion := segment
  cases operation with
  | list refresh =>
      obtain rfl : refresh = false := quiet
      have same : ((RecipeOperation.list false).perform environment fungiDir host).2 = _ :=
        Program.final_dropped _ host
      rw [same]
      apply load_bind_keeps segment available
      exact Program.within_ofExcept _
  | get recipeId refresh =>
      obtain rfl : refresh = false := quiet
      have same : ((RecipeOperation.get recipeId false).perform environment fungiDir host).2 = _ :=
        Program.final_dropped _ host
      rw [same]
      apply load_bind_keeps segment available
      apply (Program.within_ofExcept _).bind
      intro recipe
      exact within_buildRecipeDetail loadedSegment recipe
  | resolve recipeId serviceName refresh =>
      obtain rfl : refresh = false := quiet
      have same : ((RecipeOperation.resolve recipeId serviceName false).perform environment fungiDir
        host).2 = _ := Program.final_dropped _ host
      rw [same]
      apply load_bind_keeps segment available
      apply (Program.within_ofExcept _).bind
      intro recipe
      apply (within_buildRecipeDetail loadedSegment recipe).bind
      intro detail
      exact within_resolveRecipe_keeping loadedSegment recipe detail serviceName

theorem performAll_keeps (segment : IsSegment version) {operations : List RecipeOperation}
    (available : Available environment (RecipeCache.ofDir fungiDir) version index host)
    (quiet : ∀ operation ∈ operations, operation.refresh = false) :
    (filesFrame (keepsRelease (RecipeCache.ofDir fungiDir) version)).Allows host
      (RecipeOperation.performAll environment fungiDir operations host).2 := by
  induction operations generalizing host with
  | nil => exact (filesFrame _).refl host
  | cons operation rest inductionHypothesis =>
      have first := perform_keeps segment available (quiet operation List.mem_cons_self)
      apply (filesFrame _).trans first
      apply inductionHypothesis (available.of_kept first)
      intro other member
      exact quiet other (List.mem_cons_of_mem _ member)

/-! ## What a request leaves in the cache -/

theorem fileStep_eq_ok {environment : Environment} {failure : String}
    {effect : FileSystem → Option FileSystem} {interrupted : WriteFault → FileSystem → FileSystem}
    {final : RecipeHost}
    (carried : fileStep environment failure effect interrupted host = (.ok (), final)) :
    effect host.files = some final.files := by
  unfold fileStep at carried
  split at carried
  · cases carried
  · split at carried
    · next files possible =>
        cases carried
        exact possible
    · cases carried

theorem createDirAll_eq_ok {environment : Environment} {failure path : String}
    {final : RecipeHost}
    (created : Config.createDirAll environment failure path host = (.ok (), final)) :
    ∀ place ∈ Path.ancestors path, final.files place = some .directory := by
  obtain ⟨made, free⟩ := createDirAll_eq_some (fileStep_eq_ok created)
  intro place member
  rw [made]
  unfold makeDirs
  rcases free place member with absent | isDirectory
  · rw [if_pos ⟨absent, member⟩]
  · rw [if_neg (by simp [isDirectory]), isDirectory]

theorem writeFile_eq_ok {environment : Environment} {failure path content : String}
    {final : RecipeHost}
    (written : Config.writeFile environment failure path content host = (.ok (), final)) :
    final.files (Path.resolve path) = some (.file content) := by
  obtain ⟨_, made⟩ := writeFile_eq_some (fileStep_eq_ok written)
  rw [made]
  exact if_pos rfl

theorem names_of_refresh {final : RecipeHost}
    (refreshed : refreshLatestOfficialRecipeIndex environment cache host = (.ok version, final)) :
    Names environment cache version final.files := by
  unfold refreshLatestOfficialRecipeIndex at refreshed
  obtain ⟨_, _, _, refreshed⟩ := (Program.bind_eq_ok _).mp refreshed
  obtain ⟨segment, _, _, refreshed⟩ := (Program.bind_eq_ok _).mp refreshed
  obtain ⟨_, _, _, refreshed⟩ := (Program.bind_eq_ok _).mp refreshed
  obtain ⟨_, _, _, refreshed⟩ := (Program.bind_eq_ok _).mp refreshed
  obtain ⟨_, _, _, refreshed⟩ := (Program.bind_eq_ok _).mp refreshed
  obtain ⟨_, _, stored, returned⟩ := (Program.bind_eq_ok _).mp refreshed
  cases returned
  obtain ⟨_, _, _, stored⟩ := (Program.bind_eq_ok _).mp stored
  obtain ⟨updatedAt, _, _, written⟩ := (Program.bind_eq_ok _).mp stored
  have found := writeFile_eq_ok written
  rw [resolve_latestPath] at found
  exact ⟨_, _, found, environment.json.fromStr_toStringPretty _, rfl⟩

theorem names_of_current {refresh : Bool} {final : RecipeHost}
    (current : currentReleaseVersion environment cache refresh host = (.ok version, final)) :
    Names environment cache version final.files := by
  obtain ⟨found, middle, cached, rest⟩ := (Program.bind_eq_ok _).mp current
  obtain ⟨indexed, _, filtered, rest⟩ := (Program.bind_eq_ok _).mp rest
  obtain ⟨isIndexed, rfl⟩ := Prod.mk.inj filtered
  cases indexed with
  | none => exact names_of_refresh rest
  | some other =>
      cases rest
      have isFound := (Option.filter_eq_some_iff.mp (Except.ok.inj isIndexed)).1
      unfold cachedReleaseVersion at cached
      split at cached
      · cases cached
        cases isFound
      · obtain ⟨rfl, names⟩ := latestReleaseVersion_eq_ok cached
        exact names _ isFound

/-- A release that was loaded is in the cache. -/
theorem available_of_loaded {refresh : Bool} {final : RecipeHost}
    {found : LoadedOfficialRecipeIndex}
    (safe : Safe environment (RecipeCache.ofDir fungiDir) host)
    (loaded : loadOfficialRecipeIndex environment fungiDir refresh host = (.ok found, final)) :
    found.cache = RecipeCache.ofDir fungiDir ∧ IsSegment found.releaseVersion ∧
      Available environment (RecipeCache.ofDir fungiDir) found.releaseVersion found.index
        final := by
  have returned := (loadOfficialRecipeIndex_withinCache fungiDir refresh host safe).returned found
    (by rw [loaded])
  refine ⟨returned.1, returned.2, ?_⟩
  obtain ⟨cache, opened, applied, loaded⟩ := (Program.bind_eq_ok _).mp loaded
  have safeOpened : Safe environment (RecipeCache.ofDir fungiDir) opened := by
    have allowed := @within_applyFromDir environment fungiDir host
    rw [applied] at allowed
    exact safe.of_allowed allowed
  obtain ⟨_, _, created, applied⟩ := (Program.bind_eq_ok _).mp applied
  cases applied
  have directories := createDirAll_eq_ok created
  obtain ⟨version, middle, current, loaded⟩ := (Program.bind_eq_ok _).mp loaded
  obtain ⟨raw, _, read, parsed⟩ := (Program.bind_eq_ok _).mp loaded
  obtain ⟨isFile, rfl⟩ := readFile_eq_ok.mp read
  obtain ⟨within, _, segments⟩ := currentReleaseVersion_withinCache refresh opened safeOpened
  rw [current] at within segments
  have segment := segments version rfl
  rw [resolve_indexPath segment] at isFile
  cases isIndex : environment.parseIndex raw with
  | none =>
      rw [isIndex] at parsed
      cases parsed
  | some index =>
      rw [isIndex] at parsed
      cases parsed
      refine ⟨?_, names_of_current current, raw, isFile, isIndex⟩
      intro place member
      have isDirectory := directories place member
      rcases within place with same | ⟨absent, _⟩ | ⟨noDirectory, _⟩
      · rw [same, isDirectory]
      · cases absent.symm.trans isDirectory
      · exact absurd isDirectory noDirectory

theorem writeBytes_eq_ok {environment : Environment} {directory name content : String}
    {final : RecipeHost} (plain : Path.Plain name)
    (written : writeBytes environment (Path.join directory name) content host = (.ok (), final)) :
    final.files (Path.resolve (Path.join directory name)) = some (.file content) := by
  obtain ⟨parent, isParent, _⟩ := @Path.names_parent_join directory name plain
  unfold writeBytes at written
  rw [isParent] at written
  obtain ⟨_, _, _, stored⟩ := (Program.bind_eq_ok _).mp written
  exact writeFile_eq_ok stored

theorem ensureCachedAsset_eq_ok {assetName path : String} {final : RecipeHost}
    (ensured : ensureCachedAsset environment cache version assetName host = (.ok path, final)) :
    cache.assetPath version assetName = .ok path ∧ final.files (Path.resolve path) ≠ none := by
  obtain ⟨found, _, asked, rest⟩ := (Program.bind_eq_ok _).mp ensured
  obtain ⟨isPath, rfl⟩ := (Program.ofExcept_eq_ok _).mp asked
  obtain ⟨cached, _, checked, rest⟩ := (Program.bind_eq_ok _).mp rest
  obtain ⟨isFound, rfl⟩ := Prod.mk.inj checked
  split at rest
  · next present =>
      cases rest
      refine ⟨isPath, (isCached_iff.mp ?_).1⟩
      rw [← present]
      exact Except.ok.inj isFound
  · obtain ⟨url, _, _, rest⟩ := (Program.bind_eq_ok _).mp rest
    obtain ⟨body, _, _, rest⟩ := (Program.bind_eq_ok _).mp rest
    obtain ⟨other, _, asked, rest⟩ := (Program.bind_eq_ok _).mp rest
    obtain ⟨isOther, rfl⟩ := (Program.ofExcept_eq_ok _).mp asked
    obtain ⟨_, _, written, returned⟩ := (Program.bind_eq_ok _).mp rest
    cases returned
    refine ⟨isOther, ?_⟩
    obtain ⟨plain, rfl⟩ := assetPath_eq_ok isOther
    rw [writeBytes_eq_ok plain written]
    simp

theorem ensureCachedAsset_of_cached {assetName path : String}
    (isPath : cache.assetPath version assetName = .ok path)
    (cached : isCached host.files path = true) :
    ensureCachedAsset environment cache version assetName host = (.ok path, host) := by
  unfold ensureCachedAsset
  rw [Program.bind_of_ok ((Program.ofExcept_eq_ok host).mpr ⟨isPath, rfl⟩), Program.bind_apply,
    Program.gets_apply]
  dsimp only
  rw [if_pos cached]
  rfl

theorem ensureCachedReadme_eq_ok {loaded : LoadedOfficialRecipeIndex}
    {recipe : OfficialRecipeRecord} {readmePath : Option String} {final : RecipeHost}
    (ensured : ensureCachedReadme environment loaded recipe host = (.ok readmePath, final)) :
    recipe.readmeAsset.mapM (loaded.cache.assetPath loaded.releaseVersion) = .ok readmePath ∧
      ∀ path ∈ readmePath, final.files (Path.resolve path) ≠ none := by
  unfold ensureCachedReadme at ensured
  cases isAsset : recipe.readmeAsset with
  | none =>
      rw [isAsset] at ensured
      cases ensured
      exact ⟨rfl, nofun⟩
  | some readmeAsset =>
      rw [isAsset] at ensured
      obtain ⟨path, _, fetched, returned⟩ := (Program.bind_eq_ok _).mp ensured
      cases returned
      obtain ⟨isPath, present⟩ := ensureCachedAsset_eq_ok fetched
      constructor
      · simp [isPath]
      · intro found isFound
        cases isFound
        exact present

theorem ensureCachedReadme_of_cached {loaded : LoadedOfficialRecipeIndex}
    {recipe : OfficialRecipeRecord} {readmePath : Option String}
    (isPath : recipe.readmeAsset.mapM (loaded.cache.assetPath loaded.releaseVersion) =
      .ok readmePath)
    (cached : ∀ path ∈ readmePath, isCached host.files path = true) :
    ensureCachedReadme environment loaded recipe host = (.ok readmePath, host) := by
  unfold ensureCachedReadme
  cases isAsset : recipe.readmeAsset with
  | none =>
      rw [isAsset] at isPath
      cases isPath
      rfl
  | some readmeAsset =>
      rw [isAsset] at isPath
      obtain ⟨path, isAssetPath, returned⟩ := bind_eq_ok.mp isPath
      cases returned
      exact Program.bind_of_ok (ensureCachedAsset_of_cached isAssetPath (cached path rfl)) _

theorem buildRecipeDetail_eq_ok {loaded : LoadedOfficialRecipeIndex}
    {recipe : OfficialRecipeRecord} {detail : ServiceRecipeDetail} {final : RecipeHost} :
    buildRecipeDetail environment loaded recipe host = (.ok detail, final) ↔
      ∃ summary middle manifestUrl readmeUrl,
        buildRecipeSummary recipe loaded.releaseVersion = .ok summary ∧
        ensureCachedAsset environment loaded.cache loaded.releaseVersion recipe.manifestAsset host =
          (.ok detail.cachedManifestPath, middle) ∧
        ensureCachedReadme environment loaded recipe middle = (.ok detail.cachedReadmePath, final) ∧
        releaseAssetUrl loaded.releaseVersion recipe.manifestAsset = .ok manifestUrl ∧
        recipe.readmeAsset.mapM (releaseAssetUrl loaded.releaseVersion) = .ok readmeUrl ∧
        detail =
          { summary, tags := recipe.tags, homepage := recipe.homepage
            cachedManifestPath := detail.cachedManifestPath
            cachedReadmePath := detail.cachedReadmePath
            remoteManifestUrl := manifestUrl
            remoteReadmeUrl := readmeUrl } := by
  unfold buildRecipeDetail
  constructor
  · intro built
    obtain ⟨summary, _, asked, built⟩ := (Program.bind_eq_ok _).mp built
    obtain ⟨isSummary, rfl⟩ := (Program.ofExcept_eq_ok _).mp asked
    obtain ⟨manifestPath, middle, manifest, built⟩ := (Program.bind_eq_ok _).mp built
    obtain ⟨readmePath, after, readme, built⟩ := (Program.bind_eq_ok _).mp built
    obtain ⟨manifestUrl, _, asked, built⟩ := (Program.bind_eq_ok _).mp built
    obtain ⟨isManifestUrl, rfl⟩ := (Program.ofExcept_eq_ok _).mp asked
    obtain ⟨readmeUrl, _, asked, returned⟩ := (Program.bind_eq_ok _).mp built
    obtain ⟨isReadmeUrl, rfl⟩ := (Program.ofExcept_eq_ok _).mp asked
    cases returned
    exact ⟨summary, middle, manifestUrl, readmeUrl, isSummary, manifest, readme, isManifestUrl,
      isReadmeUrl, rfl⟩
  · rintro ⟨summary, middle, manifestUrl, readmeUrl, isSummary, manifest, readme, isManifestUrl,
      isReadmeUrl, whole⟩
    rw [Program.bind_of_ok ((Program.ofExcept_eq_ok host).mpr ⟨isSummary, rfl⟩),
      Program.bind_of_ok manifest, Program.bind_of_ok readme,
      Program.bind_of_ok ((Program.ofExcept_eq_ok final).mpr ⟨isManifestUrl, rfl⟩),
      Program.bind_of_ok ((Program.ofExcept_eq_ok final).mpr ⟨isReadmeUrl, rfl⟩), whole]
    rfl

/-- What is cached of a release stays as it is. -/
theorem cached_of_kept {assetName path : String} {after : RecipeHost}
    (segment : IsSegment version) (isPath : cache.assetPath version assetName = .ok path)
    (cached : isCached host.files path = true)
    (kept : (filesFrame (keepsRelease cache version)).Allows host after) :
    after.files (Path.resolve path) = host.files (Path.resolve path) := by
  obtain ⟨plain, rfl⟩ := assetPath_eq_ok isPath
  obtain ⟨present, nonempty⟩ := isCached_iff.mp cached
  apply (kept _).1
  refine ⟨present, Or.inr (Or.inr (Or.inr ⟨nonempty, assetName, ?_⟩))⟩
  exact resolve_below (resolve_assetsDir segment) plain

/-- The paths of a recipe in the cache. -/
def ServiceRecipeDetail.cachedPaths (detail : ServiceRecipeDetail) : List String :=
  detail.cachedManifestPath :: detail.cachedReadmePath.toList

theorem cached_of_built {loaded : LoadedOfficialRecipeIndex} {recipe : OfficialRecipeRecord}
    {detail : ServiceRecipeDetail} {final : RecipeHost}
    (segment : IsSegment loaded.releaseVersion)
    (built : buildRecipeDetail environment loaded recipe host = (.ok detail, final))
    (filled : ∀ path ∈ detail.cachedPaths, final.files.readToString path ≠ some "") :
    ∀ path ∈ detail.cachedPaths, isCached final.files path = true ∧
      ∃ assetName, loaded.cache.assetPath loaded.releaseVersion assetName = .ok path := by
  obtain ⟨_, middle, _, _, _, manifest, readme, _⟩ := buildRecipeDetail_eq_ok.mp built
  obtain ⟨isManifest, manifestPresent⟩ := ensureCachedAsset_eq_ok manifest
  obtain ⟨isReadme, readmePresent⟩ := ensureCachedReadme_eq_ok readme
  have stays := @within_ensureCachedReadme environment loaded segment recipe middle
  rw [readme] at stays
  intro path member
  have nonempty : final.files (Path.resolve path) ≠ some (.file "") :=
    fun empty => filled path member (readToString_eq_some.mpr empty)
  rcases List.mem_cons.mp member with rfl | isReadmePath
  · exact ⟨isCached_iff.mpr ⟨(stays _).2 manifestPresent, nonempty⟩, _, isManifest⟩
  · rw [Option.mem_toList] at isReadmePath
    refine ⟨isCached_iff.mpr ⟨readmePresent path isReadmePath, nonempty⟩, ?_⟩
    cases isAsset : recipe.readmeAsset with
    | none =>
        rw [isAsset] at isReadme
        cases (Except.ok.inj isReadme).trans isReadmePath
    | some readmeAsset =>
        rw [isAsset] at isReadme
        obtain ⟨found, isPath, returned⟩ := bind_eq_ok.mp isReadme
        cases (Except.ok.inj returned).trans isReadmePath
        exact ⟨readmeAsset, isPath⟩

end Availability

/-! ## Offline -/

section Offline

variable {environment : RecipeEnvironment} {fungiDir : String} {host after : RecipeHost}

/-- After a recipe was fetched, and after any requests that do not refresh, whatever the server
answers to them and whichever of their steps fail, the recipe is found again without the network:
with the same detail, and with the same files. -/
theorem recipe_found_offline {recipeId : String} {refresh : Bool} {detail : ServiceRecipeDetail}
    (safe : Safe environment (RecipeCache.ofDir fungiDir) host)
    (fetched : getOfficialServiceRecipe environment fungiDir recipeId refresh host =
      (.ok detail, after))
    (filled : ∀ path ∈ detail.cachedPaths, after.files.readToString path ≠ some "")
    (operations : List RecipeOperation)
    (quiet : ∀ operation ∈ operations, operation.refresh = false) :
    let final := (RecipeOperation.performAll environment fungiDir operations after).2
    getOfficialServiceRecipe environment.offline fungiDir recipeId false final =
        (.ok detail, { final with steps := final.steps + 1 }) ∧
      ∀ path ∈ detail.cachedPaths,
        final.files.readToString path = after.files.readToString path := by
  intro final
  obtain ⟨⟨version, index, cache⟩, middle, isLoaded, rest⟩ := (Program.bind_eq_ok _).mp fetched
  obtain ⟨recipe, _, asked, built⟩ := (Program.bind_eq_ok _).mp rest
  obtain ⟨isRecipe, rfl⟩ := (Program.ofExcept_eq_ok _).mp asked
  obtain ⟨rfl, segment, available⟩ := available_of_loaded safe isLoaded
  -- The release is still there after the run, and so are the files of the recipe.
  have builtWithin := @within_buildRecipeDetail environment ⟨version, index, _⟩ segment recipe
    middle
  rw [built] at builtWithin
  have availableAfter := available.of_kept builtWithin
  have kept := performAll_keeps segment availableAfter quiet
  have cached := cached_of_built segment built filled
  have sameFile : ∀ path ∈ detail.cachedPaths,
      final.files (Path.resolve path) = after.files (Path.resolve path) := by
    intro path member
    obtain ⟨isCached, assetName, isPath⟩ := cached path member
    exact cached_of_kept segment isPath isCached kept
  refine ⟨?_, ?_⟩
  · have finally' := availableAfter.of_kept kept
    have offlineAvailable : Available environment.offline (RecipeCache.ofDir fungiDir) version index
        final := ⟨finally'.root, finally'.latest, finally'.index⟩
    have stillCached : ∀ path ∈ detail.cachedPaths, isCached final.files path = true := by
      intro path member
      rw [isCached_iff, sameFile path member, ← isCached_iff]
      exact (cached path member).1
    obtain ⟨summary, between, manifestUrl, readmeUrl, isSummary, manifest, readme, isManifestUrl,
      isReadmeUrl, whole⟩ := buildRecipeDetail_eq_ok.mp built
    rcases loadOfficialRecipeIndex_of_available segment offlineAvailable with
      ⟨faulty, _⟩ | ⟨_, loadedAgain⟩
    · exact absurd rfl faulty
    · unfold getOfficialServiceRecipe
      rw [Program.bind_of_ok loadedAgain,
        Program.bind_of_ok ((Program.ofExcept_eq_ok _).mpr ⟨isRecipe, rfl⟩)]
      apply buildRecipeDetail_eq_ok.mpr
      refine ⟨summary, { final with steps := final.steps + 1 }, manifestUrl, readmeUrl, isSummary,
        ?_, ?_, isManifestUrl, isReadmeUrl, whole⟩
      · apply ensureCachedAsset_of_cached (ensureCachedAsset_eq_ok manifest).1
        exact stillCached _ List.mem_cons_self
      · apply ensureCachedReadme_of_cached (ensureCachedReadme_eq_ok readme).1
        intro path isReadme
        exact stillCached path (List.mem_cons_of_mem _ (Option.mem_toList.mpr isReadme))
  · intro path member
    unfold FileSystem.readToString
    rw [sameFile path member]

end Offline

/-- The recipe is looked up with a refresh, then listed, then found offline. -/
theorem recipe_found_offline_demo : ∃ detail after,
    let final := (RecipeOperation.performAll demoEnvironment "/fungi" [.list false] after).2
    (getOfficialServiceRecipe demoEnvironment.offline "/fungi" "ssh" false final).1 =
        .ok detail ∧ detail.summary.releaseVersion = "v1" := by
  have found : (getOfficialServiceRecipe demoEnvironment "/fungi" "ssh" true
    demoHost).1.toOption.any
      (fun detail => detail.summary.releaseVersion = "v1" ∧
        detail.cachedPaths = ["/fungi/cache/recipes/official/v1/assets/ssh.yaml"]) := by
    decide +kernel
  have stored : (getOfficialServiceRecipe demoEnvironment "/fungi" "ssh" true
      demoHost).2.files.readToString "/fungi/cache/recipes/official/v1/assets/ssh.yaml" =
        some "recipe" := by decide +kernel
  obtain ⟨detail, isDetail, isVersion⟩ := (Option.any_eq_true _ _).mp found
  obtain ⟨version, paths⟩ := of_decide_eq_true isVersion
  refine ⟨detail, (getOfficialServiceRecipe demoEnvironment "/fungi" "ssh" true demoHost).2, ?_,
    version⟩
  have outcome : (getOfficialServiceRecipe demoEnvironment "/fungi" "ssh" true demoHost).1 =
      .ok detail := by
    cases outcome : (getOfficialServiceRecipe demoEnvironment "/fungi" "ssh" true demoHost).1 with
    | error failure =>
        rw [outcome] at isDetail
        cases isDetail
    | ok other =>
        rw [outcome] at isDetail
        cases isDetail
        rfl
  have again := recipe_found_offline safe_demoHost (Prod.ext outcome rfl)
    (by rw [paths]; simp [stored]) [.list false] (by simp [RecipeOperation.refresh])
  rw [again.1]

end Fungi.Daemon
