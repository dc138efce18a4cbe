import Fungi.Runtime.MountRoots
import Fungi.Runtime.ProviderSpec

/-!
# Rejected pulls

What a pull of a Docker service leaves of its mount directories.  The provider in
`crates/daemon/src/runtime/providers.rs` makes the directories of all mounts before the policy of
`crates/docker-agent` sees the manifest.
-/

namespace Fungi.Runtime

open Fungi.Lib

/-! ## Making the mount directories -/

/-- No file is in the way of the directory. -/
def Free (files : FileSystem) (path : String) : Prop :=
  ∀ place ∈ Path.ancestors path, ∀ content, files place ≠ some (.file content)

/-- The file systems differ in directories that are new. -/
def Makes (before after : FileSystem) (place : List Name) : Prop :=
  before place = none ∧ after place = some .directory

theorem Free.of_makes {before after : FileSystem} {path : String} (free : Free after path)
    (made : ∀ place, after place = before place ∨ Makes before after place) :
    Free before path := by
  intro place member content found
  apply free place member content
  rcases made place with same | new
  · rw [same, found]
  · rw [new.1] at found
    cases found

/-- What fails where a directory of a mount cannot be made. -/
def mountDirContext : String := "Failed to create service host mount directory"

/-- A step that makes a directory adds directories on the way to it, and succeeds only if no file is
there. -/
theorem createDirAll_cases {context path : String} {host final : Host}
    {outcome : Except Error Unit} (ran : createDirAll context path host = (outcome, final)) :
    (∀ place, final.files place = host.files place ∨
        place ∈ Path.ancestors path ∧ Makes host.files final.files place) ∧
      (outcome = .ok () ∧ Free host.files path ∨
        outcome = .error (.message s!"{context}: {path}")) := by
  have directories : ∀ (files : FileSystem) (places : List (List Name)),
      places ⊆ Path.ancestors path → ∀ place, files.makeDirs places place = files place ∨
        place ∈ Path.ancestors path ∧ Makes files (files.makeDirs places) place := by
    intro files places among place
    rcases @FileSystem.makeDirs_cases files place places with same | new
    · exact Or.inl same
    · exact Or.inr ⟨among new.1, new.2⟩
  unfold createDirAll fileStep externalStep at ran
  split at ran
  · cases ran
    exact ⟨directories _ _ (List.take_subset _ _), Or.inr rfl⟩
  · dsimp only at ran
    cases possible : host.files.createDirAll path with
    | none =>
        rw [possible] at ran
        cases ran
        exact ⟨fun _ => Or.inl rfl, Or.inr rfl⟩
    | some files =>
        rw [possible] at ran
        cases ran
        obtain ⟨rfl, free⟩ := FileSystem.createDirAll_eq_some possible
        refine ⟨directories _ _ (List.Subset.refl _), Or.inl ⟨rfl, ?_⟩⟩
        intro place member content
        exact FileSystem.ne_file_of_free (free place member) content

/-- The mount is reached: no file is in the way of the mounts before it. -/
def Reached (files : FileSystem) (mounts : List ServiceMount) (mount : ServiceMount) : Prop :=
  ∃ before after, mounts = before ++ mount :: after ∧
    ∀ earlier ∈ before, Free files earlier.hostPath

theorem Reached.head (files : FileSystem) (mount : ServiceMount) (mounts : List ServiceMount) :
    Reached files (mount :: mounts) mount := ⟨[], mounts, rfl, nofun⟩

theorem Reached.cons {before after : FileSystem} {mount other : ServiceMount}
    {mounts : List ServiceMount} (free : Free before mount.hostPath)
    (made : ∀ place, after place = before place ∨ Makes before after place)
    (reached : Reached after mounts other) : Reached before (mount :: mounts) other := by
  obtain ⟨front, back, rfl, frontFree⟩ := reached
  refine ⟨mount :: front, back, rfl, List.forall_mem_cons.mpr ⟨free, fun earlier member => ?_⟩⟩
  exact (frontFree earlier member).of_makes made

/-- Making the mount directories adds directories on the way to the mounts that are reached, and
succeeds only if no file is on the way to any. -/
theorem ensureMounts_cases {mounts : List ServiceMount} {host final : Host}
    {outcome : Except Error Unit}
    (ran : Program.forEach (fun mount : ServiceMount =>
      createDirAll mountDirContext mount.hostPath) mounts host = (outcome, final)) :
    (∀ place, final.files place = host.files place ∨
        (∃ mount, Reached host.files mounts mount ∧ place ∈ Path.ancestors mount.hostPath) ∧
          Makes host.files final.files place) ∧
      (outcome = .ok () ∧ (∀ mount ∈ mounts, Free host.files mount.hostPath) ∨
        ∃ path : String, outcome = .error (.message s!"{mountDirContext}: {path}")) := by
  induction mounts generalizing host with
  | nil =>
      cases ran
      exact ⟨fun _ => Or.inl rfl, Or.inl ⟨rfl, nofun⟩⟩
  | cons mount mounts inductionHypothesis =>
      rw [Program.forEach] at ran
      rcases Program.bind_cases host ran with ⟨failure, rfl, first⟩ | ⟨⟨⟩, middle, first, rest⟩
      · obtain ⟨places, outcomes⟩ := createDirAll_cases first
        refine ⟨fun place => (places place).imp_right ?_, Or.inr ⟨mount.hostPath, ?_⟩⟩
        · exact fun new => ⟨⟨mount, Reached.head .., new.1⟩, new.2⟩
        · exact outcomes.resolve_left fun impossible => by cases impossible.1
      · obtain ⟨places, outcomes⟩ := createDirAll_cases first
        have free : Free host.files mount.hostPath := by
          rcases outcomes with ⟨-, free⟩ | impossible
          · exact free
          · cases impossible
        have made : ∀ place, middle.files place = host.files place ∨
            Makes host.files middle.files place :=
          fun place => (places place).imp_right And.right
        obtain ⟨later, laterOutcomes⟩ := inductionHypothesis rest
        constructor
        · intro place
          rcases later place with same | ⟨⟨other, reached, onTheWay⟩, new⟩
          · rw [Makes, same]
            exact (places place).imp_right fun new => ⟨⟨mount, Reached.head .., new.1⟩, new.2⟩
          · rcases made place with before | impossible
            · exact Or.inr ⟨⟨other, reached.cons free made, onTheWay⟩, before ▸ new.1, new.2⟩
            · have absent := new.1
              rw [impossible.2] at absent
              cases absent
        · refine laterOutcomes.imp_left fun succeeded => ⟨succeeded.1, ?_⟩
          exact List.forall_mem_cons.mpr
            ⟨free, fun other member => (succeeded.2 other member).of_makes made⟩

/-! ## Runs that make every directory -/

/-- The directories on the way to the mounts that were not there exist. -/
def AllMade (before after : FileSystem) (mounts : List ServiceMount) : Prop :=
  ∀ mount ∈ mounts, ∀ place ∈ Path.ancestors mount.hostPath,
    before place = none → after place = some .directory

theorem ensureMounts_of_calm {mounts : List ServiceMount} {host : Host}
    (calm : host.Calm mounts.length) (free : ∀ mount ∈ mounts, Free host.files mount.hostPath) :
    ∃ final, Program.forEach (fun mount : ServiceMount =>
        createDirAll mountDirContext mount.hostPath) mounts host = (.ok (), final) ∧
      final.outcomes = host.outcomes.drop mounts.length ∧
        AllMade host.files final.files mounts := by
  induction mounts generalizing host with
  | nil => exact ⟨host, rfl, rfl, nofun⟩
  | cons mount mounts inductionHypothesis =>
      rw [List.forall_mem_cons] at free
      have possible := FileSystem.createDirAll_of_free free.1
      have first : createDirAll mountDirContext mount.hostPath host = _ :=
        fileStep_of_calm calm possible
      have stillFree : ∀ other ∈ mounts, Free
          (host.stepped (host.files.makeDirs (Path.ancestors mount.hostPath))).files
            other.hostPath := fun other member place onTheWay content =>
        FileSystem.makeDirs_ne_file (free.2 other member place onTheWay content)
      obtain ⟨final, rest, outcomes, made⟩ := inductionHypothesis (calm.stepped _) stillFree
      refine ⟨final, ?_, ?_, ?_⟩
      · rw [Program.forEach, Program.bind_of_ok first]
        exact rest
      · rw [outcomes, Host.stepped, List.length_cons, List.drop_tail]
      · have kept : ∀ place, host.files.makeDirs (Path.ancestors mount.hostPath) place =
            some .directory → final.files place = some .directory := by
          intro place directory
          rcases (ensureMounts_cases rest).1 place with same | new
          · exact same.trans directory
          · exact new.2.2
        intro other member place onTheWay absent
        rcases List.mem_cons.mp member with rfl | later
        · apply kept
          rw [FileSystem.makeDirs, if_pos ⟨absent, onTheWay⟩]
        · rcases @FileSystem.makeDirs_cases host.files place (Path.ancestors mount.hostPath)
            with same | new
          · exact made other later place onTheWay (same.trans absent)
          · exact kept place new.2.2

/-- A fault that strikes once every directory on the way to a mount is made leaves them behind. -/
theorem ensureMounts_of_fault {before after : List ServiceMount} {mount : ServiceMount}
    {host : Host} {fault : Fault}
    (outcomes : host.outcomes = List.replicate before.length none ++ [some fault])
    (free : ∀ earlier ∈ before, Free host.files earlier.hostPath)
    (all : (Path.ancestors mount.hostPath).length ≤ fault.made) {place : List Name}
    (onTheWay : place ∈ Path.ancestors mount.hostPath) (absent : host.files place = none) :
    (Program.forEach (fun mount : ServiceMount => createDirAll mountDirContext mount.hostPath)
      (before ++ mount :: after) host).2.files place = some .directory := by
  have calm : host.Calm before.length := by
    intro outcome member
    rw [outcomes, List.take_left' List.length_replicate] at member
    exact List.eq_of_mem_replicate member
  obtain ⟨middle, first, left, -⟩ := ensureMounts_of_calm calm free
  rw [outcomes, List.drop_left' List.length_replicate] at left
  have struck : createDirAll mountDirContext mount.hostPath middle =
      (.error (.message s!"{mountDirContext}: {mount.hostPath}"), { middle with
        files := middle.files.makeDirs ((Path.ancestors mount.hostPath).take fault.made)
        outcomes := [] }) := by
    unfold createDirAll fileStep externalStep
    rw [left]
  rw [Program.forEach_append, Program.bind_of_ok first, Program.forEach, Program.bind_apply, struck]
  dsimp only
  rw [List.take_of_length_le all]
  rcases (ensureMounts_cases first).1 place with same | new
  · rw [FileSystem.makeDirs, if_pos ⟨same.trans absent, onTheWay⟩]
  · have directory := new.2.2
    have present : middle.files place ≠ none := by simp [directory]
    rw [FileSystem.makeDirs_of_isSome present, directory]

/-! ## Pulls -/

/-- The pull ends in the error with which the policy rejects the manifest. -/
def Rejected (policy : AgentPolicy) (manifest : ServiceManifest) (containerName : String)
    (outcome : Except Error Unit) : Prop :=
  ∃ spec error, dockerSpecFromManifestWithName manifest containerName = .ok spec ∧
    policy.validateCreateSpec spec = .error error ∧ outcome = .error error

/-- The place is under one of the allowed roots. -/
def UnderRoots (policy : AgentPolicy) (place : List Name) : Prop :=
  ∃ root ∈ policy.allowedHostPaths, Path.isAbsolute root ∧ Path.resolve root <+: place

/-- Whatever fails, a rejected pull makes no directory, and every directory made is under an allowed
root. -/
structure SparesHost (policy : AgentPolicy) (manifest : ServiceManifest) (containerName : String)
    (files : FileSystem) : Prop where
  rejected : ∀ host : Host, host.files = files →
    Rejected policy manifest containerName
        (DockerRuntimeProvider.pullWithContainerName policy manifest containerName host).1 →
      ∀ place, ¬ Makes files
        (DockerRuntimeProvider.pullWithContainerName policy manifest containerName host).2.files
          place
  underRoots : ∀ host : Host, host.files = files → ∀ place,
    Makes files
        (DockerRuntimeProvider.pullWithContainerName policy manifest containerName host).2.files
        place →
      UnderRoots policy place

/-- Nothing is missing on the way to a mount that is reached but what is under the allowed roots,
and nothing at all where the policy rejects the manifest and every mount is reached. -/
structure NothingMissing (policy : AgentPolicy) (manifest : ServiceManifest)
    (containerName : String) (files : FileSystem) : Prop where
  underRoots : ∀ mount, Reached files manifest.mounts mount →
    ∀ place ∈ Path.ancestors mount.hostPath, files place = none → UnderRoots policy place
  rejected : ∀ spec error, dockerSpecFromManifestWithName manifest containerName = .ok spec →
    policy.validateCreateSpec spec = .error error →
      (∀ mount ∈ manifest.mounts, Free files mount.hostPath) →
        ∀ mount ∈ manifest.mounts, ∀ place ∈ Path.ancestors mount.hostPath, files place ≠ none

section Pull

variable {policy : AgentPolicy} {manifest : ServiceManifest} {containerName : String}

/-- The engine leaves the files as they are. -/
theorem files_pullWithContainerName (host : Host) :
    (DockerRuntimeProvider.pullWithContainerName policy manifest containerName host).2.files =
      (ensureManifestMountDirs manifest host).2.files := by
  let fixed := FileSystem.ChangeRule.leaving (fun _ => True) (fun _ => False)
  have rest : Program.Within (providerFrame fixed fun _ _ => True) (do
      let spec ← Program.ofExcept (dockerSpecFromManifestWithName manifest containerName)
      DockerAgent.createContainer policy spec) :=
    (Program.within_ofExcept _).bind fun spec => createContainer_within policy spec
  rw [DockerRuntimeProvider.pullWithContainerName, Program.bind_apply]
  split
  · next value middle made =>
      rw [made]
      funext place
      exact ((rest middle fun _ _ _ => trivial).2.1 place).1 trivial
  · next failure final made => rw [made]

theorem makes_of_pull {host : Host} {place : List Name}
    (makes : Makes host.files
      (DockerRuntimeProvider.pullWithContainerName policy manifest containerName host).2.files
        place) :
    ∃ mount, Reached host.files manifest.mounts mount ∧ place ∈ Path.ancestors mount.hostPath := by
  rw [files_pullWithContainerName] at makes
  rcases (ensureMounts_cases (Prod.eta (ensureManifestMountDirs manifest host)).symm).1 place
    with same | new
  · rw [Makes, same, makes.1] at makes
    cases makes.2
  · exact new.1

/-- The policy rejects a spec as invalid or as denied. -/
def IsRejection (error : Error) : Prop :=
  ∃ text, error = invalidSpec text ∨ error = policyDenied text

theorem isRejection_of_normalizePath {path : String} {error : Error}
    (rejects : AgentPolicy.normalizePath path = .error error) : IsRejection error := by
  unfold AgentPolicy.normalizePath at rejects
  split at rejects
  · cases rejects
  · exact ⟨_, Or.inl (Except.error.inj rejects).symm⟩

theorem isRejection_of_validateMount {mount : BindMount} {error : Error}
    (rejects : policy.validateMount mount = .error error) : IsRejection error := by
  unfold AgentPolicy.validateMount at rejects
  split at rejects
  · exact ⟨_, Or.inl (Except.error.inj rejects).symm⟩
  · rcases bind_eq_error.mp rejects with host | ⟨hostPath, -, rejects⟩
    · exact isRejection_of_normalizePath host
    · rcases bind_eq_error.mp rejects with roots | ⟨allowedRoots, -, rejects⟩
      · obtain ⟨root, -, refused⟩ := exists_of_mapM_eq_error roots
        exact isRejection_of_normalizePath refused
      · split at rejects
        · cases rejects
        · exact ⟨_, Or.inr (Except.error.inj rejects).symm⟩

theorem isRejection_of_validatePort {port : PortBinding} {error : Error}
    (rejects : policy.validatePort port = .error error) : IsRejection error := by
  unfold AgentPolicy.validatePort at rejects
  split at rejects
  · exact ⟨_, Or.inl (Except.error.inj rejects).symm⟩
  · split at rejects
    · exact ⟨_, Or.inr (Except.error.inj rejects).symm⟩
    · cases rejects

theorem isRejection_of_validateCreateSpec {spec : ContainerSpec} {error : Error}
    (rejects : policy.validateCreateSpec spec = .error error) : IsRejection error := by
  unfold AgentPolicy.validateCreateSpec at rejects
  split at rejects
  · exact ⟨_, Or.inl (Except.error.inj rejects).symm⟩
  · split at rejects
    · exact ⟨_, Or.inl (Except.error.inj rejects).symm⟩
    · rcases bind_eq_error.mp rejects with mounts | ⟨-, -, rejects⟩
      · obtain ⟨mount, -, refused⟩ := exists_of_mapM_eq_error mounts
        exact isRejection_of_validateMount refused
      · rcases bind_eq_error.mp rejects with ports | ⟨-, -, impossible⟩
        · obtain ⟨port, -, refused⟩ := exists_of_mapM_eq_error ports
          exact isRejection_of_validatePort refused
        · cases impossible

/-- The text of a rejection is not that of a directory that could not be made. -/
theorem not_isRejection_mountDir (path : String) :
    ¬ IsRejection (.message s!"{mountDirContext}: {path}") := by
  rintro ⟨text, invalid | denied⟩
  · have heads := congrArg (fun message : String => message.toList.head?)
      (Error.message.inj invalid)
    simp [mountDirContext, toString] at heads
  · have heads := congrArg (fun message : String => message.toList.head?)
      (Error.message.inj denied)
    simp [mountDirContext, toString] at heads

/-- A rejected pull has made the directories of all mounts. -/
theorem Rejected.free {host : Host}
    (rejected : Rejected policy manifest containerName
      (DockerRuntimeProvider.pullWithContainerName policy manifest containerName host).1) :
    ∀ mount ∈ manifest.mounts, Free host.files mount.hostPath := by
  obtain ⟨spec, error, -, rejects, failed⟩ := rejected
  rw [DockerRuntimeProvider.pullWithContainerName, Program.bind_apply] at failed
  rcases (ensureMounts_cases (Prod.eta (ensureManifestMountDirs manifest host)).symm).2
    with ⟨-, free⟩ | ⟨path, stopped⟩
  · exact free
  · split at failed
    · next value middle made =>
        rw [made] at stopped
        cases stopped
    · next failure final made =>
        rw [made] at stopped
        cases stopped
        rw [← Except.error.inj failed] at rejects
        exact absurd (isRejection_of_validateCreateSpec rejects) (not_isRejection_mountDir path)

theorem pull_of_rejects {host : Host} {spec : ContainerSpec} {error : Error}
    (calm : host.Calm manifest.mounts.length)
    (free : ∀ mount ∈ manifest.mounts, Free host.files mount.hostPath)
    (built : dockerSpecFromManifestWithName manifest containerName = .ok spec)
    (rejects : policy.validateCreateSpec spec = .error error) :
    ∃ final, DockerRuntimeProvider.pullWithContainerName policy manifest containerName host =
        (.error error, final) ∧ AllMade host.files final.files manifest.mounts := by
  obtain ⟨final, made, -, all⟩ := ensureMounts_of_calm calm free
  have first : ensureManifestMountDirs manifest host = (.ok (), final) := made
  refine ⟨final, ?_, all⟩
  have refused : DockerAgent.createContainer policy spec final = (.error error, final) := by
    unfold DockerAgent.createContainer
    rw [rejects]
    rfl
  rw [DockerRuntimeProvider.pullWithContainerName, Program.bind_of_ok first, built]
  exact refused

/-- A pull spares the host exactly if nothing is missing that it would make out of place. -/
theorem pull_sparesHost_iff (files : FileSystem) :
    SparesHost policy manifest containerName files ↔
      NothingMissing policy manifest containerName files := by
  constructor
  · intro spares
    constructor
    · rintro mount ⟨before, after, split, free⟩ place onTheWay absent
      let fault : Fault :=
        { made := (Path.ancestors mount.hostPath).length
          deleted := []
          left := none
          carriedOut := false
          reply := .message "" }
      apply spares.underRoots
        (Host.fresh files (List.replicate before.length none ++ [some fault])) rfl
      refine ⟨absent, ?_⟩
      rw [files_pullWithContainerName, ensureManifestMountDirs, split]
      exact ensureMounts_of_fault rfl free le_rfl onTheWay absent
    · intro spec error built rejects free mount member place onTheWay absent
      have calm : (Host.fresh files []).Calm manifest.mounts.length := by
        intro outcome isNext
        simp [Host.fresh] at isNext
      obtain ⟨final, ran, all⟩ := pull_of_rejects calm free built rejects
      have none := spares.rejected (Host.fresh files []) rfl
        (by rw [ran]; exact ⟨spec, error, built, rejects, rfl⟩) place
      rw [ran] at none
      exact none ⟨absent, all mount member place onTheWay absent⟩
  · intro nothing
    constructor
    · rintro host rfl rejected place makes
      obtain ⟨mount, ⟨before, after, split, -⟩, onTheWay⟩ := makes_of_pull makes
      have free := rejected.free
      obtain ⟨spec, error, built, rejects, -⟩ := rejected
      exact nothing.rejected spec error built rejects free mount (by simp [split]) place onTheWay
        makes.1
    · rintro host rfl place makes
      obtain ⟨mount, reached, onTheWay⟩ := makes_of_pull makes
      exact nothing.underRoots mount reached place onTheWay makes.1

end Pull

/-- A host with an empty root directory. -/
def emptyRoot : FileSystem := fun place => if place = [] then some .directory else none

/-- A container that mounts a path outside the roots of the policy. -/
def mountingEtc : ServiceManifest :=
  { mounting "/etc/files" with runtime := .docker, source := .docker "files:latest" }

/-- The policy rejects the mount after its directory is made. -/
theorem rejected_pull_makes_directory :
    let policy := buildAgentPolicy { allowedHostPaths := [] } ["/srv"]
    let pulled := DockerRuntimeProvider.pullWithContainerName policy mountingEtc "files"
      (Host.fresh emptyRoot [])
    pulled.1 = .error (policyDenied "host path is outside allowed roots: /etc/files") ∧
      Makes emptyRoot pulled.2.files ["etc".toList, "files".toList] ∧
        ¬ SparesHost policy mountingEtc "files" emptyRoot := by
  intro policy pulled
  have ends : pulled.1 =
      .error (policyDenied "host path is outside allowed roots: /etc/files") := by decide +kernel
  have makes : Makes emptyRoot pulled.2.files ["etc".toList, "files".toList] := by
    unfold Makes
    decide +kernel
  refine ⟨ends, makes, fun spares => ?_⟩
  refine spares.rejected (Host.fresh emptyRoot []) rfl ?_ _ makes
  exact ⟨_, _, rfl, by decide +kernel, ends⟩

end Fungi.Runtime
