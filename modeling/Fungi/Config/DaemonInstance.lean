import Fungi.Lib.Locks
import Fungi.Lib.Path
import Fungi.Lib.Run
import Fungi.Lib.Text

/-!
# One daemon for a fungi directory

`DaemonInstanceLock` of `crates/config/src/daemon_lock.rs` and
`PublishedDaemonEndpoint` of `crates/config/src/rpc_endpoint.rs`, as the daemon
command uses them: the lock is taken first, the endpoint of the bound RPC listener is
published, and on the way out the endpoint is dropped before the lock.  The processes
of one fungi directory take these steps in any order, each file operation may fail,
and a process may be killed between any two of them.
-/

namespace Fungi.Config

open Fungi.Lib

/-- The id of a process. -/
abbrev Pid := Nat

/-- The file that a daemon locks for as long as it runs. -/
def daemonLockFile : String := "daemon.lock"

/-- The file in which a daemon publishes the address of its RPC server. -/
def daemonEndpointFile : String := "daemon.endpoint"

/-- Where the endpoint file stands, for the texts of errors. -/
def daemonEndpointPath (fungiDir : String) : String := Path.join fungiDir daemonEndpointFile

/-- The temporary file of the process that publishes. -/
def daemonEndpointTempFile (pid : Pid) : String :=
  "." ++ daemonEndpointFile ++ "." ++ toString pid ++ ".tmp"

/-- A socket address, its host as it is displayed. -/
structure SocketAddr where
  host : String
  port : UInt16
  deriving DecidableEq

/-- A socket address as it is printed. -/
def SocketAddr.display (self : SocketAddr) : String :=
  self.host ++ ":" ++ toString self.port.toNat

/-- The endpoint that stands for a socket address. -/
def SocketAddr.endpoint (self : SocketAddr) : String := "http://" ++ self.display

/-- The files of a fungi directory, by their names. -/
abbrev DirectoryFiles := String → Option String

/-- What a client of the daemon reads: the endpoint, with the line break behind it cut off. -/
def readDaemonEndpoint (fungiDir : String) (files : DirectoryFiles) : Except String String :=
  match files daemonEndpointFile with
  | none => .error ("Failed to read daemon endpoint from " ++ daemonEndpointPath fungiDir)
  | some content =>
      let endpoint := trim content
      if endpoint = "" then
        .error ("Daemon endpoint file is empty: " ++ daemonEndpointPath fungiDir)
      else .ok endpoint

/-- The endpoint that a daemon has published, which it takes back when it leaves. -/
structure PublishedDaemonEndpoint where
  /-- The name of its file in the fungi directory. -/
  path : String
  endpoint : String
  deriving DecidableEq

/-! ## Processes -/

/-- How far a process has come in `run` of the daemon command. -/
inductive DaemonPhase where
  | stopped
  /-- The lock is held and the daemon starts. -/
  | starting
  | bound (address : SocketAddr)
  /-- The temporary file has been created. -/
  | opened (address : SocketAddr)
  | written (address : SocketAddr)
  | synced (address : SocketAddr)
  /-- `publish` has failed and removes the temporary file. -/
  | unpublished
  | serving (published : PublishedDaemonEndpoint)
  /-- The endpoint file has been read and is about to be removed. -/
  | dropping (published : PublishedDaemonEndpoint)
  /-- The endpoint has been dropped and the lock is still held. -/
  | leaving
  deriving DecidableEq

/-- A fungi directory, the lock in it and the processes that work on it. -/
structure FungiDirectory where
  files : DirectoryFiles
  /-- The process that holds the lock on `daemon.lock`. -/
  lock : Option Pid
  phase : Pid → DaemonPhase

/-- What a process does next.  A flag says whether the file operation succeeds; a
failed write leaves some text behind. -/
inductive DaemonAction where
  | acquire (pid : Pid)
  /-- The daemon does not start, or its listener does not bind. -/
  | giveUp (pid : Pid)
  | bind (pid : Pid) (address : SocketAddr)
  | openTemp (pid : Pid) (opened : Bool)
  | writeTemp (pid : Pid)
  | writeTempFails (pid : Pid) (left : String)
  | syncTemp (pid : Pid) (synced : Bool)
  | rename (pid : Pid) (renamed : Bool)
  | removeTemp (pid : Pid) (removed : Bool)
  | dropRead (pid : Pid) (readable : Bool)
  | dropRemove (pid : Pid) (removed : Bool)
  | release (pid : Pid)
  | crash (pid : Pid)

/-- The process is not killed, and dropping its endpoint does not fail. -/
def DaemonAction.Clean : DaemonAction → Prop
  | .crash _ => False
  | .dropRead _ readable => readable
  | .dropRemove _ removed => removed
  | _ => True

namespace FungiDirectory

/-- A process goes over to another phase. -/
def setPhase (self : FungiDirectory) (pid : Pid) (phase : DaemonPhase) : FungiDirectory :=
  { self with phase := Function.update self.phase pid phase }

/-- A file is written, or removed with `none`. -/
def setFile (self : FungiDirectory) (name : String) (content : Option String) : FungiDirectory :=
  { self with files := Function.update self.files name content }

/-- `DaemonInstanceLock::acquire`: the lock file is created if need be, and a lock that is
held by another process refuses. -/
def acquire (self : FungiDirectory) (pid : Pid) : FungiDirectory :=
  let opened := self.setFile daemonLockFile (some ((self.files daemonLockFile).getD ""))
  match self.lock with
  | none => { opened.setPhase pid .starting with lock := some pid }
  | some _ => opened

/-- The operating system frees the lock of a process that drops it or ends. -/
def stop (self : FungiDirectory) (pid : Pid) : FungiDirectory :=
  { self.setPhase pid .stopped with lock := none }

/-- The last step of `publish`: the temporary file becomes the endpoint file. -/
def publish (self : FungiDirectory) (pid : Pid) (address : SocketAddr) : FungiDirectory :=
  ((self.setFile daemonEndpointFile (self.files (daemonEndpointTempFile pid))).setFile
    (daemonEndpointTempFile pid) none).setPhase pid
      (.serving { path := daemonEndpointFile, endpoint := address.endpoint })

/-- Whether `drop` finds its own endpoint in the file. -/
def holds (self : FungiDirectory) (published : PublishedDaemonEndpoint) : Bool :=
  match self.files published.path with
  | none => false
  | some current => trim current = published.endpoint

/-- What an action of a process does to the directory, where the process is in the phase for it. -/
def step (self : FungiDirectory) : DaemonAction → Option FungiDirectory
  | .acquire pid =>
      match self.phase pid with
      | .stopped => some (self.acquire pid)
      | _ => none
  | .giveUp pid =>
      match self.phase pid with
      | .starting => some (self.setPhase pid .leaving)
      | .bound _ => some (self.setPhase pid .leaving)
      | _ => none
  | .bind pid address =>
      match self.phase pid with
      | .starting => some (self.setPhase pid (.bound address))
      | _ => none
  | .openTemp pid opened =>
      match self.phase pid with
      | .bound address =>
          if opened then
            some ((self.setFile (daemonEndpointTempFile pid) (some "")).setPhase pid
              (.opened address))
          else some (self.setPhase pid .unpublished)
      | _ => none
  | .writeTemp pid =>
      match self.phase pid with
      | .opened address =>
          some ((self.setFile (daemonEndpointTempFile pid)
            (some (address.endpoint ++ "\n"))).setPhase pid (.written address))
      | _ => none
  | .writeTempFails pid left =>
      match self.phase pid with
      | .opened _ =>
          some ((self.setFile (daemonEndpointTempFile pid) (some left)).setPhase pid .unpublished)
      | _ => none
  | .syncTemp pid synced =>
      match self.phase pid with
      | .written address =>
          some (self.setPhase pid (if synced then .synced address else .unpublished))
      | _ => none
  | .rename pid renamed =>
      match self.phase pid with
      | .synced address =>
          if renamed then some (self.publish pid address)
          else some (self.setPhase pid .unpublished)
      | _ => none
  | .removeTemp pid removed =>
      match self.phase pid with
      | .unpublished =>
          if removed then
            some ((self.setFile (daemonEndpointTempFile pid) none).setPhase pid .leaving)
          else some (self.setPhase pid .leaving)
      | _ => none
  | .dropRead pid readable =>
      match self.phase pid with
      | .serving published =>
          if readable && self.holds published then some (self.setPhase pid (.dropping published))
          else some (self.setPhase pid .leaving)
      | _ => none
  | .dropRemove pid removed =>
      match self.phase pid with
      | .dropping published =>
          if removed then some ((self.setFile published.path none).setPhase pid .leaving)
          else some (self.setPhase pid .leaving)
      | _ => none
  | .release pid =>
      match self.phase pid with
      | .leaving => some (self.stop pid)
      | _ => none
  | .crash pid =>
      match self.phase pid with
      | .stopped => none
      | _ => some (self.stop pid)

/-- A fungi directory without a daemon.  An earlier daemon may have left its endpoint and
other files behind. -/
def start (files : DirectoryFiles) (stale : Option SocketAddr) : FungiDirectory :=
  { files := Function.update files daemonEndpointFile (stale.map (·.endpoint ++ "\n"))
    lock := none
    phase := fun _ => .stopped }

end FungiDirectory

/-! ## Reading what was published -/

theorem SocketAddr.bare_endpoint (self : SocketAddr) : Bare self.endpoint.toList := by
  have bare := @Bare.join "http://".toList _ ⟨by simp [isWhitespace], by simp [isWhitespace]⟩
    (bare_toString_nat self.port.toNat) (by decide) (toString_nat_ne_nil _)
    (self.host ++ ":").toList
  unfold endpoint display
  rw [String.toList_append, String.toList_append, ← List.append_assoc]
  exact bare

theorem SocketAddr.endpoint_ne_empty (self : SocketAddr) : self.endpoint ≠ "" := by
  intro empty
  have characters := congrArg String.toList empty
  unfold endpoint at characters
  rw [String.toList_append] at characters
  cases characters

theorem SocketAddr.trim_endpoint (self : SocketAddr) :
    trim (self.endpoint ++ "\n") = self.endpoint :=
  trim_append_whitespace self.bare_endpoint (by simp [isWhitespace])

/-- A reader finds exactly the endpoint that was published. -/
theorem readDaemonEndpoint_published {files : DirectoryFiles} {address : SocketAddr}
    (published : files daemonEndpointFile = some (address.endpoint ++ "\n")) (fungiDir : String) :
    readDaemonEndpoint fungiDir files = .ok address.endpoint := by
  unfold readDaemonEndpoint
  rw [published]
  dsimp only
  rw [address.trim_endpoint, if_neg address.endpoint_ne_empty]

theorem endpointTempFile_ne (pid : Pid) : daemonEndpointFile ≠ daemonEndpointTempFile pid := by
  unfold daemonEndpointTempFile
  rw [String.append_assoc, String.append_assoc, String.append_assoc]
  exact @append_ne_append "daemon" "." _ _ 0 rfl rfl (by decide) ".endpoint" _

theorem lockFile_ne_endpointFile : daemonEndpointFile ≠ daemonLockFile := by decide

theorem lockFile_ne_tempFile (pid : Pid) : daemonEndpointTempFile pid ≠ daemonLockFile := by
  unfold daemonEndpointTempFile
  rw [String.append_assoc, String.append_assoc, String.append_assoc]
  exact @append_ne_append "." "daemon" _ _ 0 rfl rfl (by decide) _ ".lock"

/-! ## What every run keeps -/

namespace DaemonPhase

/-- The address a process has bound and not yet stopped serving. -/
def address : DaemonPhase → Option SocketAddr
  | .bound address => some address
  | .opened address => some address
  | .written address => some address
  | .synced address => some address
  | _ => none

/-- The endpoint a process has published and not yet removed. -/
def published : DaemonPhase → Option PublishedDaemonEndpoint
  | .serving published => some published
  | .dropping published => some published
  | _ => none

/-- What a phase relies on: the text that was written is still in its file. -/
def Supported (files : DirectoryFiles) (pid : Pid) : DaemonPhase → Prop
  | .written address => files (daemonEndpointTempFile pid) = some (address.endpoint ++ "\n")
  | .synced address => files (daemonEndpointTempFile pid) = some (address.endpoint ++ "\n")
  | .serving published =>
      published.path = daemonEndpointFile ∧
        files daemonEndpointFile = some (published.endpoint ++ "\n")
  | .dropping published =>
      published.path = daemonEndpointFile ∧
        files daemonEndpointFile = some (published.endpoint ++ "\n")
  | _ => True

end DaemonPhase

namespace FungiDirectory

/-- The section of the lock a process is inside. -/
def inside (self : FungiDirectory) (pid : Pid) : Option Unit :=
  if self.phase pid = .stopped then none else some ()

/-- What holds of a directory in every run: the lock keeps the processes inside apart, and the
endpoint file names a known address. -/
structure Consistent (known : SocketAddr → Prop) (node : FungiDirectory) : Prop where
  guards : Guards (fun _ : Unit => node.lock) node.inside
  supported : ∀ pid, (node.phase pid).Supported node.files pid
  addressKnown : ∀ pid, ∀ address ∈ (node.phase pid).address, known address
  endpointKnown : ∀ content, node.files daemonEndpointFile = some content →
    ∃ address, known address ∧ content = address.endpoint ++ "\n"

variable {known : SocketAddr → Prop} {self next : FungiDirectory} {pid other : Pid}
  {address : SocketAddr} {phase : DaemonPhase} {files : DirectoryFiles}

@[simp] theorem setFile_files (name : String) (content : Option String) :
    (self.setFile name content).files = Function.update self.files name content := rfl

/-- The temporary file of a process is not the endpoint file. -/
theorem setTemp_endpoint (content : Option String) (phase : DaemonPhase) :
    ((self.setFile (daemonEndpointTempFile pid) content).setPhase pid phase).files
      daemonEndpointFile = self.files daemonEndpointFile :=
  Function.update_of_ne (endpointTempFile_ne pid) content self.files

theorem inside_eq_some : self.inside pid = some () ↔ self.phase pid ≠ .stopped := by
  unfold inside
  split
  · next stopped => simp [stopped]
  · next running => simp [running]

namespace Consistent

theorem exclusive (consistent : self.Consistent known) (first : self.phase pid ≠ .stopped)
    (second : self.phase other ≠ .stopped) : pid = other :=
  consistent.guards.exclusive (inside_eq_some.mpr first) (inside_eq_some.mpr second)

theorem stopped_of_ne (consistent : self.Consistent known) (running : self.phase pid ≠ .stopped)
    (different : other ≠ pid) : self.phase other = .stopped := by
  by_contra alsoRunning
  exact different (consistent.exclusive alsoRunning running)

theorem mono {known' : SocketAddr → Prop} (consistent : self.Consistent known)
    (more : ∀ address, known address → known' address) : self.Consistent known' where
  guards := consistent.guards
  supported := consistent.supported
  addressKnown pid address bound := more address (consistent.addressKnown pid address bound)
  endpointKnown content found := by
    obtain ⟨address, isKnown, same⟩ := consistent.endpointKnown content found
    exact ⟨address, more address isKnown, same⟩

/-- A process that holds the lock moves on: no other process is affected, since all the
others are stopped. -/
theorem move (consistent : self.Consistent known) (running : self.phase pid ≠ .stopped)
    (stays : phase ≠ .stopped) (supported : phase.Supported files pid)
    (addressKnown : ∀ address ∈ phase.address, known address)
    (endpointKnown : ∀ content, files daemonEndpointFile = some content →
      ∃ address, known address ∧ content = address.endpoint ++ "\n") :
    Consistent known { self with files, phase := Function.update self.phase pid phase } where
  guards := by
    apply consistent.guards.stay
    intro found
    unfold inside
    by_cases same : found = pid
    · subst same
      simp [stays, running]
    · simp [same]
  supported found := by
    by_cases same : found = pid
    · subst same
      simpa using supported
    · simp [same, consistent.stopped_of_ne running same, DaemonPhase.Supported]
  addressKnown found := by
    by_cases same : found = pid
    · subst same
      simpa using addressKnown
    · simp [same, consistent.stopped_of_ne running same, DaemonPhase.address]
  endpointKnown := endpointKnown

/-- A process moves on without touching a file. -/
theorem moveOn (consistent : self.Consistent known) (running : self.phase pid ≠ .stopped)
    (stays : phase ≠ .stopped) (supported : phase.Supported self.files pid)
    (addressKnown : ∀ address ∈ phase.address, known address) :
    Consistent known (self.setPhase pid phase) :=
  consistent.move running stays supported addressKnown consistent.endpointKnown

/-- A process moves on with another text, or none, in its temporary file. -/
theorem moveTemp (consistent : self.Consistent known) (running : self.phase pid ≠ .stopped)
    (stays : phase ≠ .stopped) {content : Option String}
    (supported : phase.Supported (Function.update self.files (daemonEndpointTempFile pid) content)
      pid)
    (addressKnown : ∀ address ∈ phase.address, known address) :
    Consistent known ((self.setFile (daemonEndpointTempFile pid) content).setPhase pid phase) := by
  apply consistent.move running stays supported addressKnown
  intro found held
  rw [Function.update_of_ne (endpointTempFile_ne pid)] at held
  exact consistent.endpointKnown found held

/-- A process gives up what it relied on. -/
theorem leaving (consistent : self.Consistent known) (running : self.phase pid ≠ .stopped) :
    Consistent known (self.setPhase pid .leaving) :=
  consistent.moveOn running (by simp) (by simp [DaemonPhase.Supported])
    (by simp [DaemonPhase.address])

theorem unpublished (consistent : self.Consistent known) (running : self.phase pid ≠ .stopped) :
    Consistent known (self.setPhase pid .unpublished) :=
  consistent.moveOn running (by simp) (by simp [DaemonPhase.Supported])
    (by simp [DaemonPhase.address])

theorem stop (consistent : self.Consistent known) (running : self.phase pid ≠ .stopped) :
    Consistent known (self.stop pid) where
  guards := by
    have left := consistent.guards.leave (inside_eq_some.mpr running)
    have holder : Function.update (fun _ : Unit => self.lock) () none = fun _ => none := by
      funext key
      simp
    rw [holder] at left
    apply left.stay
    intro found
    by_cases same : found = pid
    · subst same
      simp [inside, FungiDirectory.stop, setPhase]
    · simp [inside, FungiDirectory.stop, setPhase, same]
  supported found := by
    by_cases same : found = pid
    · subst same
      simp [FungiDirectory.stop, setPhase, DaemonPhase.Supported]
    · simp [FungiDirectory.stop, setPhase, same, consistent.stopped_of_ne running same,
        DaemonPhase.Supported]
  addressKnown found := by
    by_cases same : found = pid
    · subst same
      simp [FungiDirectory.stop, setPhase, DaemonPhase.address]
    · simp [FungiDirectory.stop, setPhase, same, consistent.stopped_of_ne running same,
        DaemonPhase.address]
  endpointKnown := consistent.endpointKnown

/-- No phase relies on the lock file. -/
theorem supported_lockFile (content : Option String) (supported : phase.Supported self.files pid) :
    phase.Supported (Function.update self.files daemonLockFile content) pid := by
  cases phase with
  | written address => exact (Function.update_of_ne (lockFile_ne_tempFile pid) _ _).trans supported
  | synced address => exact (Function.update_of_ne (lockFile_ne_tempFile pid) _ _).trans supported
  | serving published =>
      exact ⟨supported.1, (Function.update_of_ne lockFile_ne_endpointFile _ _).trans supported.2⟩
  | dropping published =>
      exact ⟨supported.1, (Function.update_of_ne lockFile_ne_endpointFile _ _).trans supported.2⟩
  | stopped => trivial
  | starting => trivial
  | bound address => trivial
  | opened address => trivial
  | unpublished => trivial
  | leaving => trivial

/-- Opening the lock file changes nothing that matters. -/
theorem openLock (consistent : self.Consistent known) (content : Option String) :
    Consistent known (self.setFile daemonLockFile content) where
  guards := consistent.guards
  supported pid := supported_lockFile content (consistent.supported pid)
  addressKnown := consistent.addressKnown
  endpointKnown found held := by
    apply consistent.endpointKnown found
    rwa [setFile_files, Function.update_of_ne lockFile_ne_endpointFile] at held

theorem acquire (consistent : self.Consistent known) (stopped : self.phase pid = .stopped) :
    Consistent known (self.acquire pid) := by
  have opened := consistent.openLock (some ((self.files daemonLockFile).getD ""))
  unfold FungiDirectory.acquire
  dsimp only
  split
  · next free =>
      refine ⟨?_, ?_, ?_, opened.endpointKnown⟩
      · have entered := consistent.guards.enter () pid free
          (by simp [inside, stopped])
        have holder : Function.update (fun _ : Unit => self.lock) () (some pid) =
            fun _ => some pid := by
          funext key
          simp
        rw [holder] at entered
        apply entered.stay
        intro found
        by_cases same : found = pid
        · subst same
          simp [inside, setPhase, setFile]
        · simp [inside, setPhase, setFile, same]
      · intro found
        by_cases same : found = pid
        · subst same
          simp [setPhase, DaemonPhase.Supported]
        · simpa [setPhase, same] using opened.supported found
      · intro found
        by_cases same : found = pid
        · subst same
          simp [setPhase, DaemonPhase.address]
        · simpa [setPhase, same] using opened.addressKnown found
  · exact opened

theorem publish (consistent : self.Consistent known) (synced : self.phase pid = .synced address) :
    Consistent known (self.publish pid address) := by
  have written := consistent.supported pid
  have isKnown := consistent.addressKnown pid address
  rw [synced] at written isKnown
  have held : (Function.update (Function.update self.files daemonEndpointFile
      (self.files (daemonEndpointTempFile pid))) (daemonEndpointTempFile pid) none)
      daemonEndpointFile = some (address.endpoint ++ "\n") := by
    rw [Function.update_of_ne (endpointTempFile_ne pid), Function.update_self]
    exact written
  apply @Consistent.move _ _ _ (.serving _) _ consistent
  · simp [synced]
  · simp
  · exact ⟨rfl, held⟩
  · simp [DaemonPhase.address]
  · intro content found
    rw [setFile_files, setFile_files, held] at found
    exact ⟨address, isKnown rfl, (Option.some.inj found).symm⟩

/-- One step of any process. -/
theorem step {action : DaemonAction} (consistent : self.Consistent known)
    (taken : self.step action = some next)
    (binds : ∀ pid address, action = .bind pid address → known address) :
    next.Consistent known := by
  cases action with
  | acquire pid =>
      simp only [FungiDirectory.step] at taken
      split at taken
      · next stopped =>
          cases taken
          exact consistent.acquire stopped
      · cases taken
  | giveUp pid =>
      simp only [FungiDirectory.step] at taken
      split at taken
      · next starting =>
          cases taken
          exact consistent.leaving (by simp [starting])
      · next bound =>
          cases taken
          exact consistent.leaving (by simp [bound])
      · cases taken
  | bind pid address =>
      simp only [FungiDirectory.step] at taken
      split at taken
      · next starting =>
          cases taken
          apply consistent.moveOn (by simp [starting]) (by simp) (by simp [DaemonPhase.Supported])
          intro found isBound
          cases isBound
          exact binds pid address rfl
      · cases taken
  | openTemp pid opened =>
      simp only [FungiDirectory.step] at taken
      split at taken
      · next address bound =>
          have isKnown := consistent.addressKnown pid
          rw [bound] at isKnown
          split at taken
          · cases taken
            exact consistent.moveTemp (by simp [bound]) (by simp) (by simp [DaemonPhase.Supported])
              isKnown
          · cases taken
            exact consistent.unpublished (by simp [bound])
      · cases taken
  | writeTemp pid =>
      simp only [FungiDirectory.step] at taken
      split at taken
      · next address opened =>
          have isKnown := consistent.addressKnown pid
          rw [opened] at isKnown
          cases taken
          exact consistent.moveTemp (by simp [opened]) (by simp) (by simp [DaemonPhase.Supported])
            isKnown
      · cases taken
  | writeTempFails pid left =>
      simp only [FungiDirectory.step] at taken
      split at taken
      · next address opened =>
          cases taken
          exact consistent.moveTemp (by simp [opened]) (by simp) (by simp [DaemonPhase.Supported])
            (by simp [DaemonPhase.address])
      · cases taken
  | syncTemp pid synced =>
      simp only [FungiDirectory.step] at taken
      split at taken
      · next address written =>
          have isKnown := consistent.addressKnown pid
          have inFile := consistent.supported pid
          rw [written] at isKnown inFile
          cases taken
          cases synced with
          | true => exact consistent.moveOn (by simp [written]) (by simp) inFile isKnown
          | false => exact consistent.unpublished (by simp [written])
      · cases taken
  | rename pid renamed =>
      simp only [FungiDirectory.step] at taken
      split at taken
      · next address synced =>
          split at taken
          · cases taken
            exact consistent.publish synced
          · cases taken
            exact consistent.unpublished (by simp [synced])
      · cases taken
  | removeTemp pid removed =>
      simp only [FungiDirectory.step] at taken
      split at taken
      · next unpublished =>
          split at taken
          · cases taken
            exact consistent.moveTemp (by simp [unpublished]) (by simp)
              (by simp [DaemonPhase.Supported]) (by simp [DaemonPhase.address])
          · cases taken
            exact consistent.leaving (by simp [unpublished])
      · cases taken
  | dropRead pid readable =>
      simp only [FungiDirectory.step] at taken
      split at taken
      · next published serving =>
          have inFile := consistent.supported pid
          rw [serving] at inFile
          split at taken
          · cases taken
            exact consistent.moveOn (by simp [serving]) (by simp) inFile
              (by simp [DaemonPhase.address])
          · cases taken
            exact consistent.leaving (by simp [serving])
      · cases taken
  | dropRemove pid removed =>
      simp only [FungiDirectory.step] at taken
      split at taken
      · next published dropping =>
          have inFile := consistent.supported pid
          rw [dropping] at inFile
          split at taken
          · cases taken
            apply consistent.move (by simp [dropping]) (by simp) (by simp [DaemonPhase.Supported])
              (by simp [DaemonPhase.address])
            intro content found
            simp [inFile.1] at found
          · cases taken
            exact consistent.leaving (by simp [dropping])
      · cases taken
  | release pid =>
      simp only [FungiDirectory.step] at taken
      split at taken
      · next leaving =>
          cases taken
          exact consistent.stop (by simp [leaving])
      · cases taken
  | crash pid =>
      simp only [FungiDirectory.step] at taken
      split at taken
      · cases taken
      · next running =>
          cases taken
          exact consistent.stop running

/-- The endpoint of a process that has published one is what a reader finds. -/
theorem read_published {published : PublishedDaemonEndpoint} (consistent : self.Consistent known)
    (pid : Pid) (isPublished : (self.phase pid).published = some published) (fungiDir : String) :
    readDaemonEndpoint fungiDir self.files = .ok published.endpoint := by
  have inFile : self.files daemonEndpointFile = some (published.endpoint ++ "\n") := by
    have supported := consistent.supported pid
    cases phase : self.phase pid with
    | serving other =>
        rw [phase] at isPublished supported
        cases isPublished
        exact supported.2
    | dropping other =>
        rw [phase] at isPublished supported
        cases isPublished
        exact supported.2
    | _ =>
        rw [phase] at isPublished
        cases isPublished
  obtain ⟨address, -, same⟩ := consistent.endpointKnown _ inFile
  have endpoint : published.endpoint = address.endpoint := by
    rw [← String.toList_inj, String.toList_append, String.toList_append] at same
    exact String.toList_inj.mp (List.append_cancel_right same)
  rw [endpoint] at inFile ⊢
  exact readDaemonEndpoint_published inFile fungiDir

/-- A serving process still finds its endpoint when it drops it. -/
theorem holds_of_serving {published : PublishedDaemonEndpoint} (consistent : self.Consistent known)
    (serving : self.phase pid = .serving published) : self.holds published = true := by
  have supported := consistent.supported pid
  rw [serving] at supported
  have isPublished : (self.phase pid).published = some published := by
    simp [serving, DaemonPhase.published]
  have found := consistent.read_published pid isPublished ""
  unfold holds
  rw [supported.1, supported.2]
  simp only [readDaemonEndpoint, supported.2] at found
  split at found
  · cases found
  · exact decide_eq_true (Except.ok.inj found)

end Consistent

theorem consistent_start (files : DirectoryFiles) (stale : Option SocketAddr)
    (isKnown : ∀ address ∈ stale, known address) : (start files stale).Consistent known where
  guards := Guards.initially (fun _ => rfl) (fun pid => by simp [inside, start])
  supported pid := trivial
  addressKnown pid := by simp [start, DaemonPhase.address]
  endpointKnown content found := by
    simp only [start, Function.update_self, Option.map_eq_some_iff] at found
    obtain ⟨address, isStale, rfl⟩ := found
    exact ⟨address, isKnown address isStale, rfl⟩

/-- The addresses that may stand in the endpoint file after a run. -/
def Announced (stale : Option SocketAddr) (actions : List DaemonAction) (address : SocketAddr) :
    Prop :=
  stale = some address ∨ ∃ pid, DaemonAction.bind pid address ∈ actions

theorem consistent_of_run {stale : Option SocketAddr} {actions : List DaemonAction}
    {final : FungiDirectory} (reached : run step (start files stale) actions = some final) :
    final.Consistent (Announced stale actions) := by
  refine run_induction (motive := fun actions state => state.Consistent (Announced stale actions))
    (consistent_start files stale fun address isStale => Or.inl isStale) ?_ reached
  intro actions state action state' _ consistent taken
  apply Consistent.step (consistent.mono _) taken
  · intro pid address isBind
    subst isBind
    exact Or.inr ⟨pid, by simp⟩
  · intro address announced
    exact announced.imp_right fun bound => bound.imp fun pid isMember => by simp [isMember]

/-- In every run of any processes, with any failures and kills: at most one process is past
the lock, a serving daemon is the one a reader finds, whatever a reader finds is a whole
endpoint that some process bound (or that was left before the run), and when no process is
running the next one gets the lock. -/
theorem endpoint_of_run (fungiDir : String) (files : DirectoryFiles) (stale : Option SocketAddr)
    {actions : List DaemonAction} {final : FungiDirectory}
    (reached : run step (start files stale) actions = some final) :
    (∀ pid other, final.phase pid ≠ .stopped → final.phase other ≠ .stopped → pid = other) ∧
      (∀ pid published, final.phase pid = .serving published →
        readDaemonEndpoint fungiDir final.files = .ok published.endpoint) ∧
      (final.files daemonEndpointFile ≠ none → ∃ address, Announced stale actions address ∧
        readDaemonEndpoint fungiDir final.files = .ok address.endpoint) ∧
      ((∀ pid, final.phase pid = .stopped) → ∀ pid, ∃ next,
        final.step (.acquire pid) = some next ∧ next.phase pid = .starting) := by
  have consistent := consistent_of_run reached
  refine ⟨fun pid other => consistent.exclusive, ?_, ?_, ?_⟩
  · intro pid published serving
    exact consistent.read_published pid (by simp [serving, DaemonPhase.published]) fungiDir
  · intro present
    obtain ⟨content, found⟩ := Option.ne_none_iff_exists'.mp present
    obtain ⟨address, announced, rfl⟩ := consistent.endpointKnown content found
    exact ⟨address, announced, readDaemonEndpoint_published found fungiDir⟩
  · intro stopped pid
    have free : final.lock = none := by
      apply (consistent.guards.free_iff ()).mpr
      intro other
      simp [inside, stopped]
    refine ⟨final.acquire pid, by simp [step, stopped], ?_⟩
    simp [acquire, free, setPhase]

/-- Process 7 is killed while it serves, and process 8 then replaces the endpoint it left. -/
def takeover : List DaemonAction :=
  [.acquire 7, .bind 7 ⟨"127.0.0.1", 61234⟩, .openTemp 7 true, .writeTemp 7, .syncTemp 7 true,
    .rename 7 true, .acquire 8, .crash 7, .acquire 8, .bind 8 ⟨"127.0.0.1", 61235⟩,
    .openTemp 8 true, .writeTemp 8, .syncTemp 8 true, .rename 8 true]

theorem endpoint_of_takeover : ∃ final,
    run step (start (fun _ => none) none) takeover = some final ∧
    readDaemonEndpoint "/fungi" final.files = .ok "http://127.0.0.1:61235" := by
  have serves : (run step (start (fun _ => none) none) takeover).any (fun final =>
      final.phase 8 = .serving ⟨daemonEndpointFile, "http://127.0.0.1:61235"⟩) := by
    decide +kernel
  obtain ⟨final, reached, serving⟩ := (Option.any_eq_true _ _).mp serves
  exact ⟨final, reached,
    (endpoint_of_run "/fungi" _ none reached).2.1 8 _ (of_decide_eq_true serving)⟩

/-! ## Runs without a kill -/

/-- Every endpoint file has a process that published it. -/
def Live (self : FungiDirectory) : Prop :=
  self.files daemonEndpointFile ≠ none → ∃ pid, (self.phase pid).published ≠ none

/-- While the process inside the lock has published nothing, there is no endpoint file. -/
theorem Live.absent (live : self.Live) (consistent : self.Consistent known)
    (running : self.phase pid ≠ .stopped) (nothing : (self.phase pid).published = none) :
    self.files daemonEndpointFile = none := by
  by_contra present
  obtain ⟨other, published⟩ := live present
  have alsoRunning : self.phase other ≠ .stopped := by
    intro stopped
    rw [stopped] at published
    exact published rfl
  rw [consistent.exclusive alsoRunning running] at published
  exact published nothing

/-- A process that has published nothing leaves the endpoint file alone. -/
theorem Live.quiet (live : self.Live) (consistent : self.Consistent known) (pid : Pid)
    (running : self.phase pid ≠ .stopped) (nothing : (self.phase pid).published = none)
    (unchanged : next.files daemonEndpointFile = self.files daemonEndpointFile) : next.Live := by
  intro present
  rw [unchanged] at present
  exact absurd (live.absent consistent running nothing) present

theorem live_of_absent (absent : self.files daemonEndpointFile = none) : self.Live :=
  fun present => absurd absent present

theorem live_of_published (pid : Pid) (published : (self.phase pid).published ≠ none) : self.Live :=
  fun _ => ⟨pid, published⟩

theorem Live.acquire (live : self.Live) (stopped : self.phase pid = .stopped) :
    (self.acquire pid).Live := by
  have same : (self.acquire pid).files daemonEndpointFile = self.files daemonEndpointFile := by
    unfold FungiDirectory.acquire
    dsimp only
    split
    · simp [setPhase, setFile, lockFile_ne_endpointFile]
    · simp [setFile, lockFile_ne_endpointFile]
  intro present
  rw [same] at present
  obtain ⟨other, published⟩ := live present
  have different : other ≠ pid := by
    intro same
    rw [same, stopped] at published
    exact published rfl
  refine ⟨other, ?_⟩
  unfold FungiDirectory.acquire
  dsimp only
  split
  · simpa [setPhase, setFile, different] using published
  · exact published

/-- A clean step of a process that is inside the lock. -/
theorem Live.step {action : DaemonAction} (live : self.Live) (consistent : self.Consistent known)
    (taken : self.step action = some next) (clean : action.Clean) : next.Live := by
  cases action with
  | acquire pid =>
      simp only [FungiDirectory.step] at taken
      split at taken
      · next stopped =>
          cases taken
          exact live.acquire stopped
      · cases taken
  | giveUp pid =>
      simp only [FungiDirectory.step] at taken
      split at taken
      · next starting =>
          cases taken
          exact live.quiet consistent pid (by simp [starting])
            (by simp [starting, DaemonPhase.published]) rfl
      · next bound =>
          cases taken
          exact live.quiet consistent pid (by simp [bound])
            (by simp [bound, DaemonPhase.published]) rfl
      · cases taken
  | bind pid address =>
      simp only [FungiDirectory.step] at taken
      split at taken
      · next starting =>
          cases taken
          exact live.quiet consistent pid (by simp [starting])
            (by simp [starting, DaemonPhase.published]) rfl
      · cases taken
  | openTemp pid opened =>
      simp only [FungiDirectory.step] at taken
      split at taken
      · next address bound =>
          have quiet := @Live.quiet _ _ next live consistent pid (by simp [bound])
            (by simp [bound, DaemonPhase.published])
          apply quiet
          split at taken
          · cases taken
            exact setTemp_endpoint _ _
          · cases taken
            rfl
      · cases taken
  | writeTemp pid =>
      simp only [FungiDirectory.step] at taken
      split at taken
      · next address opened =>
          cases taken
          exact live.quiet consistent pid (by simp [opened])
            (by simp [opened, DaemonPhase.published])
            (setTemp_endpoint _ _)
      · cases taken
  | writeTempFails pid left =>
      simp only [FungiDirectory.step] at taken
      split at taken
      · next address opened =>
          cases taken
          exact live.quiet consistent pid (by simp [opened])
            (by simp [opened, DaemonPhase.published])
            (setTemp_endpoint _ _)
      · cases taken
  | syncTemp pid synced =>
      simp only [FungiDirectory.step] at taken
      split at taken
      · next address written =>
          cases taken
          exact live.quiet consistent pid (by simp [written])
            (by simp [written, DaemonPhase.published]) rfl
      · cases taken
  | rename pid renamed =>
      simp only [FungiDirectory.step] at taken
      split at taken
      · next address synced =>
          split at taken
          · cases taken
            exact live_of_published pid (by simp [publish, setPhase, DaemonPhase.published])
          · cases taken
            exact live.quiet consistent pid (by simp [synced])
              (by simp [synced, DaemonPhase.published]) rfl
      · cases taken
  | removeTemp pid removed =>
      simp only [FungiDirectory.step] at taken
      split at taken
      · next unpublished =>
          have quiet := @Live.quiet _ _ next live consistent pid (by simp [unpublished])
            (by simp [unpublished, DaemonPhase.published])
          apply quiet
          split at taken
          · cases taken
            exact setTemp_endpoint _ _
          · cases taken
            rfl
      · cases taken
  | dropRead pid readable =>
      simp only [FungiDirectory.step] at taken
      split at taken
      · next published serving =>
          have holds := consistent.holds_of_serving serving
          have isReadable : readable = true := clean
          rw [holds, isReadable] at taken
          cases taken
          exact live_of_published pid (by simp [setPhase, DaemonPhase.published])
      · cases taken
  | dropRemove pid removed =>
      simp only [FungiDirectory.step] at taken
      split at taken
      · next published dropping =>
          have supported := consistent.supported pid
          have isRemoved : removed = true := clean
          rw [dropping] at supported
          rw [isRemoved] at taken
          cases taken
          apply live_of_absent
          simp [setPhase, supported.1]
      · cases taken
  | release pid =>
      simp only [FungiDirectory.step] at taken
      split at taken
      · next leaving =>
          cases taken
          exact live.quiet consistent pid (by simp [leaving])
            (by simp [leaving, DaemonPhase.published]) rfl
      · cases taken
  | crash pid => cases clean

theorem live_of_run (files : DirectoryFiles) {actions : List DaemonAction} {final : FungiDirectory}
    (clean : ∀ action ∈ actions, action.Clean)
    (reached : run step (start files none) actions = some final) : final.Live := by
  refine run_induction
    (motive := fun actions state => (∀ action ∈ actions, action.Clean) → state.Live) ?_ ?_ reached
      clean
  · intro _
    exact live_of_absent (by simp [start])
  · intro actions state action state' before live taken allClean
    apply Live.step (live fun earlier isEarlier => allClean earlier (by simp [isEarlier]))
      (consistent_of_run before) taken
    exact allClean action (by simp)

/-- In a run in which no process is killed and no endpoint fails to be dropped, a reader finds
an endpoint exactly while the process that published it serves, up to the step of its shutdown
that removes the file. -/
theorem endpoint_of_clean_run (fungiDir : String) (files : DirectoryFiles)
    {actions : List DaemonAction} {final : FungiDirectory}
    (clean : ∀ action ∈ actions, action.Clean)
    (reached : run step (start files none) actions = some final) (endpoint : String) :
    readDaemonEndpoint fungiDir final.files = .ok endpoint ↔
      ∃ pid published, (final.phase pid).published = some published ∧
        published.endpoint = endpoint := by
  have consistent := consistent_of_run reached
  constructor
  · intro found
    have present : final.files daemonEndpointFile ≠ none := by
      intro absent
      simp [readDaemonEndpoint, absent] at found
    obtain ⟨pid, isPublished⟩ := live_of_run files clean reached present
    obtain ⟨published, phase⟩ := Option.ne_none_iff_exists'.mp isPublished
    rw [consistent.read_published _ phase fungiDir] at found
    exact ⟨pid, published, phase, Except.ok.inj found⟩
  · rintro ⟨pid, published, phase, rfl⟩
    exact consistent.read_published _ phase fungiDir

/-- Process 7 shuts down while process 8 tries to start, and process 8 serves after it. -/
def handover : List DaemonAction :=
  [.acquire 7, .bind 7 ⟨"127.0.0.1", 61234⟩, .openTemp 7 true, .writeTemp 7, .syncTemp 7 true,
    .rename 7 true, .dropRead 7 true, .acquire 8, .dropRemove 7 true, .release 7, .acquire 8,
    .bind 8 ⟨"127.0.0.1", 61235⟩, .openTemp 8 true, .writeTemp 8, .syncTemp 8 true, .rename 8 true]

theorem endpoint_of_handover : ∃ final,
    run step (start (fun _ => none) none) handover = some final ∧
    readDaemonEndpoint "/fungi" final.files = .ok "http://127.0.0.1:61235" := by
  have serves : (run step (start (fun _ => none) none) handover).any (fun final =>
      (final.phase 8).published = some ⟨daemonEndpointFile, "http://127.0.0.1:61235"⟩) := by
    decide +kernel
  have clean : ∀ action ∈ handover, action.Clean := by simp [handover, DaemonAction.Clean]
  obtain ⟨final, reached, serving⟩ := (Option.any_eq_true _ _).mp serves
  exact ⟨final, reached, (endpoint_of_clean_run "/fungi" _ clean reached _).mpr
    ⟨8, _, of_decide_eq_true serving, rfl⟩⟩

end FungiDirectory

end Fungi.Config
