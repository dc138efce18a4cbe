import Fungi.Lib.FileSystem
import Fungi.Lib.Program
import Fungi.Runtime.Manifest

/-!
# The daemon and what it runs on

The state of `RuntimeControl` together with the file system, the Docker engine and
the child processes it acts on.  Every step that leaves the daemon asks for one
outcome of the environment: it is carried out, or a fault interrupts it.
-/

namespace Fungi.Runtime

open Fungi.Lib

/-! ## Services on disk and in memory -/

/-- Whether a service is to run. -/
inductive DesiredServiceState where
  | running
  | stopped
  deriving DecidableEq

/-- What is stored of a service. -/
structure PersistedService where
  localServiceId : String
  manifest : ServiceManifest
  desiredState : DesiredServiceState
  deriving DecidableEq

/-- The stored services, by their ids, and the ids by the names. -/
structure ServiceStateStore where
  servicesRoot : String
  state : BTreeMap String PersistedService
  nameIndex : BTreeMap String String
  deriving DecidableEq

/-! ## Runtime entities -/

/-- A spawned process: its arguments, and its exit status once it has ended. -/
structure Child where
  arguments : List String
  exited : Option (Option Int)
  deriving DecidableEq

/-- A Wasmtime service in memory. -/
structure WasmtimeServiceState where
  manifest : ServiceManifest
  sourceDisplay : String
  stagedComponentPath : String
  serviceDir : String
  runtimeDir : String
  logFilePath : String
  child : Option Child
  lastExitCode : Option Int
  deriving DecidableEq

/-- A host directory and where a container sees it. -/
structure BindMount where
  hostPath : String
  containerPath : String
  deriving DecidableEq

/-- A host port and the container port it leads to. -/
structure PortBinding where
  hostPort : UInt16
  containerPort : UInt16
  protocol : ServicePortProtocol
  deriving DecidableEq

/-- A container as the agent asks for it. -/
structure ContainerSpec where
  name : Option String
  image : String
  env : BTreeMap String String
  mounts : List BindMount
  ports : List PortBinding
  command : List String
  entrypoint : List String
  workingDir : Option String
  labels : BTreeMap String String
  deriving DecidableEq

/-- A container of the Docker engine. -/
structure Container where
  spec : ContainerSpec
  running : Bool
  deriving DecidableEq

/-! ## The environment -/

/-- A failing step: how many directories it made, what it deleted, what it left in the
file it was writing, whether the engine carried it out, and the reply of the engine. -/
structure Fault where
  made : Nat
  deleted : List (List Name)
  left : Option String
  carriedOut : Bool
  reply : Error

/-- A ULID as text. -/
structure Ulid where
  text : String
  alphanumeric : text.toList.all Char.isAlphanum

/-- The machine: its files, its runtimes, what the daemon keeps in memory, and what is to come. -/
structure Host where
  files : FileSystem
  /-- The outcomes of the external steps to come; past the end none fails. -/
  outcomes : List (Option Fault)
  /-- The answers to the automatic port allocations to come. -/
  freePorts : List UInt16
  /-- The ULIDs to come. -/
  ulids : Nat → Ulid
  /-- What a component URL serves. -/
  downloads : String → String
  containers : BTreeMap String Container
  wasmtimeServices : BTreeMap String WasmtimeServiceState
  allowedHostPaths : List String
  serviceIndex : BTreeMap String RuntimeKind
  serviceManifests : BTreeMap String ServiceManifest
  serviceState : ServiceStateStore

/-- A program of the runtimes. -/
abbrev Action := Program Host Error

/-- A daemon that manages no service yet. -/
def Host.fresh (files : FileSystem) (outcomes : List (Option Fault)) : Host :=
  { files
    outcomes
    freePorts := []
    ulids := fun _ => { text := "0", alphanumeric := by decide }
    downloads := fun _ => ""
    containers := ∅
    wasmtimeServices := ∅
    allowedHostPaths := []
    serviceIndex := ∅
    serviceManifests := ∅
    serviceState := { servicesRoot := "", state := ∅, nameIndex := ∅ } }

/-- One step outside the daemon: `effect` when it is carried out, unless it cannot be,
and `interrupted` when a fault strikes. -/
def externalStep (effect : Host → Except Error Host) (interrupted : Fault → Host → Host)
    (failure : Fault → Error) : Action Unit := fun host =>
  match host.outcomes with
  | some fault :: outcomes =>
      (.error (failure fault), interrupted fault { host with outcomes })
  | _ =>
      match effect { host with outcomes := host.outcomes.tail } with
      | .ok next => (.ok (), next)
      | .error error => (.error error, { host with outcomes := host.outcomes.tail })

/-- A step on the file system. -/
def fileStep (effect : FileSystem → Option FileSystem)
    (interrupted : Fault → FileSystem → FileSystem) (failure : String) : Action Unit :=
  externalStep
    (fun host =>
      match effect host.files with
      | some files => .ok { host with files }
      | none => .error (.message failure))
    (fun fault host => { host with files := interrupted fault host.files })
    (fun _ => .message failure)

/-- A disturbed creation has made some of the missing directories. -/
def createDirAll (context path : String) : Action Unit :=
  fileStep (·.createDirAll path)
    (fun fault files => files.makeDirs ((Path.ancestors path).take fault.made))
    s!"{context}: {path}"

/-- A disturbed removal has deleted some of the entries. -/
def removeDirAll (context path : String) : Action Unit :=
  fileStep (·.removeDirAll path) (fun fault files => files.removeEntries path fault.deleted)
    s!"{context}: {path}"

/-- What a fault leaves of a file that is being written in place. -/
def leftBehind (path : String) (fault : Fault) (files : FileSystem) : FileSystem :=
  match fault.left with
  | none => files
  | some content => (files.writeFile path content).getD files

/-- Write a file in place. -/
def writeFile (failure path content : String) : Action Unit :=
  fileStep (·.writeFile path content) (leftBehind path) failure

/-- `fs::copy`. -/
def copyFile (failure source target : String) : Action Unit :=
  fileStep (fun files => (files.readToString source).bind fun content =>
      files.writeFile target content)
    (leftBehind target) failure

/-- Open a file for appending, creating it when it does not exist. -/
def openAppend (failure path : String) : Action Unit :=
  fileStep (fun files =>
      match files.readToString path with
      | some _ => some files
      | none => files.writeFile path "")
    (fun _ files => files) failure

/-- A step that may fail but changes nothing a later step sees. -/
def unseenStep (failure : String) : Action Unit :=
  fileStep some (fun _ files => files) failure

/-- `atomic_write`: the content goes to a temporary file that replaces the target in the
last step. -/
def atomicWrite (path content : String) : Action Unit := do
  let parent := (Path.parent path).getD "."
  createDirAll "Failed to create service state directory" parent
  unseenStep s!"Failed to create temporary service state file in {parent}"
  unseenStep "Failed to write temporary service state file"
  unseenStep "Failed to flush temporary service state file"
  fileStep (·.writeFile path content) (fun _ files => files)
    s!"Failed to persist service state file: {path}"

/-! ## What a step changes -/

/-- Only files change, and they change by the rule. -/
def filesFrame (rule : FileSystem.ChangeRule) : Program.Frame Host where
  Allows before after := (∀ place, rule.Allows place (before.files place) (after.files place)) ∧
    after = { before with files := after.files, outcomes := after.outcomes }
  refl host := ⟨fun place => rule.refl place _, rfl⟩
  trans := by
    intro first second third before after
    refine ⟨fun place => rule.trans (before.1 place) (after.1 place), ?_⟩
    rw [after.2, before.2]

section Steps

variable {effect : FileSystem → Option FileSystem} {interrupted : Fault → FileSystem → FileSystem}
  {failure : String} {host final : Host}

theorem within_fileStep {frame : Program.Frame Host}
    (carried : ∀ host files outcomes, effect host.files = some files →
      frame.Allows host { host with files, outcomes })
    (faulted : ∀ host fault outcomes,
      frame.Allows host { host with files := interrupted fault host.files, outcomes })
    (refused : ∀ host outcomes, frame.Allows host { host with outcomes }) :
    Program.Within frame (fileStep effect interrupted failure) := by
  intro host
  unfold fileStep externalStep
  split
  · exact faulted host _ _
  · dsimp only
    cases possible : effect host.files with
    | none => exact refused host _
    | some files => exact carried host files _ possible

theorem fileStep_eq_ok
    (succeeded : fileStep effect interrupted failure host = (.ok (), final)) :
    effect host.files = some final.files ∧
      final = { host with files := final.files, outcomes := final.outcomes } := by
  unfold fileStep externalStep at succeeded
  split at succeeded
  · cases succeeded
  · dsimp only at succeeded
    cases possible : effect host.files with
    | none =>
        rw [possible] at succeeded
        cases succeeded
    | some files =>
        rw [possible] at succeeded
        cases succeeded
        exact ⟨rfl, rfl⟩

/-- No fault strikes the next `count` steps. -/
def Host.Calm (host : Host) (count : Nat) : Prop :=
  ∀ outcome ∈ host.outcomes.take count, outcome = none

instance (host : Host) (count : Nat) : Decidable (host.Calm count) :=
  decidable_of_iff (∀ outcome ∈ host.outcomes.take count, outcome.isNone) <| by
    simp [Host.Calm]

/-- The host after a step on the file system. -/
def Host.stepped (host : Host) (files : FileSystem) : Host :=
  { host with files, outcomes := host.outcomes.tail }

theorem Host.Calm.stepped {count : Nat} (calm : host.Calm (count + 1)) (files : FileSystem) :
    (host.stepped files).Calm count := by
  intro outcome membership
  apply calm
  change outcome ∈ host.outcomes.tail.take count at membership
  cases shape : host.outcomes with
  | nil => simp [shape] at membership
  | cons first rest =>
      rw [shape] at membership
      exact List.mem_cons_of_mem _ membership

theorem fileStep_of_calm {count : Nat} {files : FileSystem} (calm : host.Calm (count + 1))
    (possible : effect host.files = some files) :
    fileStep effect interrupted failure host = (.ok (), host.stepped files) := by
  unfold fileStep externalStep Host.stepped
  split
  · next fault outcomes shape =>
      have faultless := calm (some fault) (by simp [shape])
      cases faultless
  · dsimp only
    rw [possible]

variable {rule : FileSystem.ChangeRule} {path content : String}

private theorem filesFrame_outcomes (host : Host) (outcomes : List (Option Fault)) :
    (filesFrame rule).Allows host { host with outcomes } :=
  ⟨fun place => rule.refl place _, rfl⟩

theorem createDirAll_within {context : String}
    (made : ∀ place ∈ Path.ancestors path, rule.Allows place none (some .directory)) :
    Program.Within (filesFrame rule) (createDirAll context path) := by
  have directories : ∀ (files : FileSystem) (places : List (List Name)),
      places ⊆ Path.ancestors path → ∀ place,
        rule.Allows place (files place) (files.makeDirs places place) := by
    intro files places among place
    rcases @FileSystem.makeDirs_cases files place places with same | new
    · rw [same]
      exact rule.refl place _
    · rw [new.2.1, new.2.2]
      exact made place (among new.1)
  apply within_fileStep
  · intro host files outcomes created
    refine ⟨?_, rfl⟩
    obtain ⟨rfl, -⟩ := FileSystem.createDirAll_eq_some created
    exact directories _ _ (List.Subset.refl _)
  · intro host fault outcomes
    exact ⟨directories _ _ (List.take_subset _ _), rfl⟩
  · exact filesFrame_outcomes

theorem removeDirAll_within {context : String}
    (removed : ∀ place, Path.resolve path <+: place → ∀ node, rule.Allows place node none) :
    Program.Within (filesFrame rule) (removeDirAll context path) := by
  apply within_fileStep
  · intro host files outcomes gone
    refine ⟨?_, rfl⟩
    intro place
    by_cases inside : Path.resolve path <+: place
    · rw [(FileSystem.removeDirAll_eq_some gone).2]
      dsimp only
      rw [if_pos inside]
      exact removed place inside _
    · dsimp only
      rw [FileSystem.removeDirAll_frame gone inside]
      exact rule.refl place _
  · intro host fault outcomes
    refine ⟨?_, rfl⟩
    intro place
    by_cases inside : Path.resolve path <+: place ∧ place ∈ fault.deleted
    · dsimp only [FileSystem.removeEntries]
      rw [if_pos inside]
      exact removed place inside.1 _
    · dsimp only [FileSystem.removeEntries]
      rw [if_neg inside]
      exact rule.refl place _
  · exact filesFrame_outcomes

/-- A step that changes no place but the target of a path, where it may leave a file. -/
private theorem within_targetStep
    (written : ∀ node content, rule.Allows (Path.resolve path) node (some (.file content)))
    (carried : ∀ files next, effect files = some next → next = files ∨ ∃ content,
      next = fun place =>
        if place = Path.resolve path then some (.file content) else files place)
    (faulted : ∀ fault files, interrupted fault files = files ∨ ∃ content,
      interrupted fault files = fun place =>
        if place = Path.resolve path then some (.file content) else files place) :
    Program.Within (filesFrame rule) (fileStep effect interrupted failure) := by
  have changed : ∀ (files : FileSystem) content place, rule.Allows place (files place)
      (if place = Path.resolve path then some (.file content) else files place) := by
    intro files content place
    split
    · next target =>
        rw [target]
        exact written _ content
    · exact rule.refl place _
  apply within_fileStep
  · intro host files outcomes effected
    refine ⟨?_, rfl⟩
    rcases carried _ _ effected with same | ⟨content, left⟩
    · intro place
      rw [same]
      exact rule.refl place _
    · intro place
      rw [left]
      exact changed _ content place
  · intro host fault outcomes
    refine ⟨?_, rfl⟩
    rcases faulted fault host.files with same | ⟨content, left⟩
    · intro place
      dsimp only
      rw [same]
      exact rule.refl place _
    · intro place
      dsimp only
      rw [left]
      exact changed _ content place
  · exact filesFrame_outcomes

private theorem leftBehind_cases (path : String) (fault : Fault) (files : FileSystem) :
    leftBehind path fault files = files ∨ ∃ content, leftBehind path fault files = fun place =>
      if place = Path.resolve path then some (.file content) else files place := by
  unfold leftBehind
  cases fault.left with
  | none => exact Or.inl rfl
  | some left =>
      dsimp only
      cases effected : files.writeFile path left with
      | none => exact Or.inl rfl
      | some next => exact Or.inr ⟨left, (FileSystem.writeFile_eq_some effected).2⟩

theorem writeFile_within
    (written : ∀ node content, rule.Allows (Path.resolve path) node (some (.file content))) :
    Program.Within (filesFrame rule) (writeFile failure path content) := by
  apply within_targetStep written
  · intro files next effected
    exact Or.inr ⟨content, (FileSystem.writeFile_eq_some effected).2⟩
  · intro fault files
    exact leftBehind_cases path fault files

theorem copyFile_within {source : String}
    (written : ∀ node content, rule.Allows (Path.resolve path) node (some (.file content))) :
    Program.Within (filesFrame rule) (copyFile failure source path) := by
  apply within_targetStep written
  · intro files next effected
    obtain ⟨content, -, effected⟩ := Option.bind_eq_some_iff.mp effected
    exact Or.inr ⟨content, (FileSystem.writeFile_eq_some effected).2⟩
  · intro fault files
    exact leftBehind_cases path fault files

theorem openAppend_within
    (written : ∀ node content, rule.Allows (Path.resolve path) node (some (.file content))) :
    Program.Within (filesFrame rule) (openAppend failure path) := by
  apply within_targetStep written
  · intro files next effected
    split at effected
    · cases effected
      exact Or.inl rfl
    · exact Or.inr ⟨"", (FileSystem.writeFile_eq_some effected).2⟩
  · intro fault files
    exact Or.inl rfl

theorem createDirAll_eq_ok {context : String}
    (created : createDirAll context path host = (.ok (), final)) :
    final = { host with files := host.files.makeDirs (Path.ancestors path)
                        outcomes := final.outcomes } ∧
      ∀ place ∈ Path.ancestors path, final.files place = some .directory := by
  obtain ⟨effect, only⟩ := fileStep_eq_ok created
  obtain ⟨made, free⟩ := FileSystem.createDirAll_eq_some effect
  refine ⟨by rw [only, made], ?_⟩
  intro place membership
  rw [made]
  unfold FileSystem.makeDirs
  rcases free place membership with absent | present
  · rw [if_pos ⟨absent, membership⟩]
  · rw [if_neg, present]
    rw [present]
    simp

theorem createDirAll_of_calm {context : String} {count : Nat} (calm : host.Calm (count + 1))
    (free : ∀ place ∈ Path.ancestors path, ∀ content, host.files place ≠ some (.file content)) :
    ∃ final, createDirAll context path host = (.ok (), final) ∧ final.Calm count :=
  ⟨_, fileStep_of_calm calm (FileSystem.createDirAll_of_free free), calm.stepped _⟩

theorem unseenStep_eq_ok (succeeded : unseenStep failure host = (.ok (), final)) :
    final = { host with outcomes := final.outcomes } := by
  obtain ⟨effect, only⟩ := fileStep_eq_ok succeeded
  rw [Option.some.injEq] at effect
  rw [← effect] at only
  exact only

theorem unseenStep_files (succeeded : unseenStep failure host = (.ok (), final)) :
    final.files = host.files := by
  rw [unseenStep_eq_ok succeeded]

theorem unseenStep_of_calm {count : Nat} (calm : host.Calm (count + 1)) :
    ∃ final, unseenStep failure host = (.ok (), final) ∧ final.Calm count :=
  ⟨_, fileStep_of_calm calm rfl, calm.stepped _⟩

theorem unseenStep_within :
    Program.Within (filesFrame rule) (unseenStep failure) := by
  apply within_fileStep
  · intro host files outcomes same
    cases same
    exact filesFrame_outcomes host outcomes
  · intro host fault outcomes
    exact filesFrame_outcomes host outcomes
  · exact filesFrame_outcomes

variable {directory fileName : String}

private theorem parent_join (file : Path.Plain fileName) :
    Path.names ((Path.parent (Path.join directory fileName)).getD ".") =
      Path.names directory := by
  obtain ⟨above, parent, same⟩ := @Path.names_parent_join directory fileName file
  rw [parent]
  exact same

theorem atomicWrite_within (file : Path.Plain fileName)
    (made : ∀ place ∈ Path.ancestors directory, rule.Allows place none (some .directory))
    (written : ∀ node content,
      rule.Allows (Path.resolve (Path.join directory fileName)) node (some (.file content))) :
    Program.Within (filesFrame rule) (atomicWrite (Path.join directory fileName) content) := by
  unfold atomicWrite
  apply (createDirAll_within _).bind
  · intro _
    apply unseenStep_within.bind
    intro _
    apply unseenStep_within.bind
    intro _
    apply unseenStep_within.bind
    intro _
    apply within_targetStep written
    · intro files next effected
      exact Or.inr ⟨content, (FileSystem.writeFile_eq_some effected).2⟩
    · intro fault files
      exact Or.inl rfl
  · rw [Path.ancestors_congr (parent_join file)]
    exact made

/-- The target of an atomic write holds what it held before or the new content. -/
theorem atomicWrite_target (fileName content : String) (file : Path.Plain fileName)
    (direct : Path.Direct directory) (host : Host) :
    (atomicWrite (Path.join directory fileName) content host).2.files
        (Path.resolve (Path.join directory fileName)) =
      host.files (Path.resolve (Path.join directory fileName)) ∨
    (atomicWrite (Path.join directory fileName) content host).2.files
        (Path.resolve (Path.join directory fileName)) = some (.file content) := by
  have steady : ∀ action : Action Unit,
      Program.Within (filesFrame (.leaving
        (fun place => place = Path.resolve (Path.join directory fileName)) fun _ => False))
        action →
      Program.Keeps (fun after : Host =>
        after.files (Path.resolve (Path.join directory fileName)) =
            host.files (Path.resolve (Path.join directory fileName)) ∨
          after.files (Path.resolve (Path.join directory fileName)) = some (.file content))
        action := by
    intro action within state held
    have same := ((within state).1 _).1 rfl
    rw [same]
    exact held
  have kept : Program.Keeps (fun after : Host =>
      after.files (Path.resolve (Path.join directory fileName)) =
          host.files (Path.resolve (Path.join directory fileName)) ∨
        after.files (Path.resolve (Path.join directory fileName)) = some (.file content))
      (atomicWrite (Path.join directory fileName) content) := by
    unfold atomicWrite
    apply (steady _ (createDirAll_within _)).bind
    · intro _
      apply (steady _ unseenStep_within).bind
      intro _
      apply (steady _ unseenStep_within).bind
      intro _
      apply (steady _ unseenStep_within).bind
      intro _
      apply within_fileStep
      · intro state files outcomes written _
        right
        rw [(FileSystem.writeFile_eq_some written).2]
        exact if_pos rfl
      · intro state fault outcomes held
        exact held
      · intro state outcomes held
        exact held
    · intro place touched
      apply FileSystem.ChangeRule.leaving_made
      intro same
      rw [Path.ancestors_congr (parent_join file), Path.mem_ancestors_of_direct direct, same,
        Path.resolve_join_plain file] at touched
      have bound := touched.length_le
      simp at bound
  exact kept host (Or.inl rfl)

/-- A written file is found under its path; nothing else changes but the directories
on the way. -/
theorem atomicWrite_eq_ok (file : Path.Plain fileName)
    (succeeded : atomicWrite (Path.join directory fileName) content host = (.ok (), final)) :
    final = { host with
      files := fun place =>
        if place = Path.resolve (Path.join directory fileName) then some (.file content)
        else host.files.makeDirs (Path.ancestors directory) place
      outcomes := final.outcomes } := by
  unfold atomicWrite at succeeded
  obtain ⟨_, made, created, succeeded⟩ := (Program.bind_eq_ok _).mp succeeded
  obtain ⟨_, first, opened, succeeded⟩ := (Program.bind_eq_ok _).mp succeeded
  obtain ⟨_, second, filled, succeeded⟩ := (Program.bind_eq_ok _).mp succeeded
  obtain ⟨_, third, flushed, succeeded⟩ := (Program.bind_eq_ok _).mp succeeded
  have created := (createDirAll_eq_ok created).1
  rw [Path.ancestors_congr (parent_join file)] at created
  obtain ⟨effect, only⟩ := fileStep_eq_ok succeeded
  obtain ⟨-, written⟩ := FileSystem.writeFile_eq_some effect
  rw [only, written, unseenStep_eq_ok flushed, unseenStep_eq_ok filled, unseenStep_eq_ok opened,
    created]

theorem atomicWrite_of_calm (file : Path.Plain fileName) (direct : Path.Direct directory)
    {count : Nat} (calm : host.Calm (count + 5))
    (free : ∀ place ∈ Path.ancestors directory, ∀ content,
      host.files place ≠ some (.file content))
    (target : host.files (Path.resolve (Path.join directory fileName)) ≠ some .directory) :
    ∃ final, atomicWrite (Path.join directory fileName) content host = (.ok (), final) ∧
      final.Calm count := by
  have same := Path.ancestors_congr (@parent_join directory fileName file)
  have inside := @Path.resolve_join_plain directory fileName file
  have freeParent :
      ∀ place ∈ Path.ancestors ((Path.parent (Path.join directory fileName)).getD "."),
      ∀ content, host.files place ≠ some (.file content) := by
    rw [same]
    exact free
  obtain ⟨made, created, calm⟩ :=
    @createDirAll_of_calm _ _ "Failed to create service state directory" _ calm freeParent
  obtain ⟨first, opened, calm⟩ := unseenStep_of_calm calm
  obtain ⟨second, filled, calm⟩ := unseenStep_of_calm calm
  obtain ⟨third, flushed, calm⟩ := unseenStep_of_calm calm
  have kept : third.files = made.files := by
    rw [unseenStep_files flushed, unseenStep_files filled, unseenStep_files opened]
  have files : third.files = host.files.makeDirs (Path.ancestors directory) := by
    rw [kept, (createDirAll_eq_ok created).1, same]
  have parentMade : third.files (Path.resolve directory) = some .directory := by
    rw [kept]
    apply (createDirAll_eq_ok created).2
    rw [same]
    exact FileSystem.resolve_mem_ancestors directory
  have targetFree : third.files (Path.resolve (Path.join directory fileName)) ≠
      some .directory := by
    rw [files, FileSystem.makeDirs_of_notMem]
    · exact target
    · rw [Path.mem_ancestors_of_direct direct, inside]
      intro shorter
      have bound := shorter.length_le
      simp at bound
  have possible : third.files.writeFile (Path.join directory fileName) content =
      some fun place => if place = Path.resolve (Path.join directory fileName) then
        some (.file content) else third.files place := by
    unfold FileSystem.writeFile
    dsimp only
    rw [if_pos]
    refine ⟨?_, targetFree⟩
    rw [inside, List.dropLast_concat]
    exact parentMade
  refine ⟨third.stepped fun place => if place = Path.resolve (Path.join directory fileName) then
    some (.file content) else third.files place, ?_, calm.stepped _⟩
  unfold atomicWrite
  rw [Program.bind_of_ok created, Program.bind_of_ok opened, Program.bind_of_ok filled,
    Program.bind_of_ok flushed]
  exact fileStep_of_calm calm possible

end Steps

end Fungi.Runtime
