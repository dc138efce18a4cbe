import Fungi.Daemon.EndpointListeners
import Fungi.Lib.Run
import Fungi.Runtime.Records
import Fungi.Runtime.ServiceStateAtomicity

/-!
# Starting and stopping a service

`start` and `stop` of the service handle in `crates/daemon/src/services.rs`, and the requests
of the same names in `crates/daemon/src/controls/service_control.rs`, run the same steps: the
provider starts or stops the child process, the desired state is saved, and the endpoint
listeners follow.  No lock is held over the steps of one call, so the steps of several calls
interleave.
-/

namespace Fungi.Daemon.ServiceRuns

open Fungi.Lib Fungi.Runtime Fungi.Runtime.RuntimeControl

/-! ## The steps of the provider -/

/-- The stop of the provider up to the point where it has given its lock back: whether there
is a child to kill. -/
def takeChild (handle : String) : Action Bool := do
  let state ← WasmtimeRuntimeProvider.getService handle
  let state ← WasmtimeRuntimeProvider.refreshChildState handle state
  match state.child with
  | none => return false
  | some _ => do
      WasmtimeRuntimeProvider.putService handle { state with child := none }
      return true

/-- The rest of the stop, for the child that was taken. -/
def killChild (handle : String) : Action Unit := do
  unseenStep "Failed to kill fungi WASI process"
  unseenStep "Failed to wait for fungi WASI process"
  let services ← Program.gets (·.wasmtimeServices)
  match services[handle]? with
  | none => Program.fail (.message s!"wasmtime service not found after stop: {handle}")
  | some state =>
      -- The entry may hold a child that was started in the meantime.
      WasmtimeRuntimeProvider.putService handle { state with child := none, lastExitCode := none }

/-- What `ensure_runtime_service` does for a service that the provider does not have. -/
def restoreMissing (setup : RuntimeSetup) (name : String) : Action Unit := do
  let manifests ← Program.gets (·.serviceManifests)
  match manifests[name]? with
  | none => Program.fail (serviceMissing name)
  | some manifest => do
      let localServiceId ← localServiceIdOf name
      WasmtimeRuntimeProvider.restore setup manifest localServiceId

theorem ensureRuntimeService_eq (setup : RuntimeSetup) (name : String) :
    ensureRuntimeService setup .wasmtime name = (do
      let services ← Program.gets (·.wasmtimeServices)
      if name ∈ services then return () else restoreMissing setup name) := by
  funext host
  unfold ensureRuntimeService restoreMissing
  rw [Program.bind_of_ok (Program.gets_apply _ _), Program.bind_of_ok (Program.gets_apply _ _)]
  simp only [ne_eq, not_true_eq_false, false_or, id_eq]
  split
  · rfl
  · rfl

theorem killChild_of_entry {handle : String} {host : Host} {state : WasmtimeServiceState}
    (entry : host.wasmtimeServices[handle]? = some state) :
    killChild handle host = (do
      unseenStep "Failed to kill fungi WASI process"
      unseenStep "Failed to wait for fungi WASI process"
      WasmtimeRuntimeProvider.putService handle
        { state with child := none, lastExitCode := none } : Action Unit) host := by
  unfold killChild
  rw [Program.bind_apply, Program.bind_apply]
  cases killed : unseenStep "Failed to kill fungi WASI process" host with
  | mk outcome middle =>
      cases outcome with
      | error error => rfl
      | ok _ =>
          dsimp only
          rw [Program.bind_apply, Program.bind_apply]
          cases waited : unseenStep "Failed to wait for fungi WASI process" middle with
          | mk outcome last =>
              cases outcome with
              | error error => rfl
              | ok _ =>
                  have same : last.wasmtimeServices = host.wasmtimeServices := by
                    rw [unseenStep_eq_ok waited, unseenStep_eq_ok killed]
                  dsimp only
                  rw [Program.bind_of_ok (Program.gets_apply _ _), same, entry]

/-- Run without a break, the two parts are the stop of the provider. -/
theorem wasmtimeStop_eq (handle : String) :
    WasmtimeRuntimeProvider.stop handle = (do
      if ← takeChild handle then killChild handle else return ()) := by
  unfold WasmtimeRuntimeProvider.stop takeChild
  simp only [Program.bind_assoc]
  congr 1
  funext stored
  congr 1
  funext state
  cases child : state.child with
  | none => rfl
  | some running =>
      funext host
      have entry : (WasmtimeRuntimeProvider.putService handle { state with child := none }
          host).2.wasmtimeServices[handle]? = some { state with child := none } := by
        unfold WasmtimeRuntimeProvider.putService
        rw [Program.modify_apply]
        exact Std.ExtTreeMap.getElem?_insert_self
      exact (killChild_of_entry entry).symm

/-! ## The child process -/

/-- The provider has a child process of the service that has not ended. -/
def Live (host : Host) (name : String) : Prop :=
  ∃ child ∈ host.wasmtimeServices[name]?.bind (·.child), child.exited = none

instance (host : Host) (name : String) : Decidable (Live host name) :=
  inferInstanceAs (Decidable (∃ child ∈ host.wasmtimeServices[name]?.bind (·.child),
    child.exited = none))

section Provider

variable {setup : RuntimeSetup} {name : String} {host final : Host}

theorem live_of_entry {state : WasmtimeServiceState}
    (entry : host.wasmtimeServices[name]? = some state) :
    Live host name ↔ ∃ child ∈ state.child, child.exited = none := by
  unfold Live
  rw [entry]
  rfl

theorem live_congr (same : final.wasmtimeServices = host.wasmtimeServices) (name : String) :
    Live final name ↔ Live host name := by
  unfold Live
  rw [same]

theorem live_of_files {rule : FileSystem.ChangeRule} {Value : Type} {action : Action Value}
    (within : Program.Within (filesFrame rule) action) (host : Host) (name : String) :
    Live (action host).2 name ↔ Live host name := by
  apply live_congr
  rw [(within host).2]

theorem wasmtimeStart_live
    (started : WasmtimeRuntimeProvider.start setup name host = (.ok (), final)) :
    Live final name := by
  unfold WasmtimeRuntimeProvider.start at started
  obtain ⟨stored, _, -, started⟩ := (Program.bind_eq_ok _).mp started
  obtain ⟨state, _, -, started⟩ := (Program.bind_eq_ok _).mp started
  split at started
  · cases started
  · obtain ⟨arguments, _, -, started⟩ := (Program.bind_eq_ok _).mp started
    obtain ⟨_, _, -, started⟩ := (Program.bind_eq_ok _).mp started
    obtain ⟨_, _, -, started⟩ := (Program.bind_eq_ok _).mp started
    obtain ⟨_, _, -, started⟩ := (Program.bind_eq_ok _).mp started
    cases started
    exact (live_of_entry Std.ExtTreeMap.getElem?_insert_self).mpr ⟨_, rfl, rfl⟩

/-- A refresh leaves the state it returns in the map. -/
theorem refreshChildState_entry {state refreshed : WasmtimeServiceState}
    (entry : host.wasmtimeServices[name]? = some state)
    (succeeded : WasmtimeRuntimeProvider.refreshChildState name state host =
      (.ok refreshed, final)) : final.wasmtimeServices[name]? = some refreshed := by
  unfold WasmtimeRuntimeProvider.refreshChildState at succeeded
  cases child : state.child with
  | none =>
      rw [child] at succeeded
      cases succeeded
      exact entry
  | some running =>
      rw [child] at succeeded
      obtain ⟨_, middle, queried, rest⟩ := (Program.bind_eq_ok _).mp succeeded
      cases exited : running.exited with
      | none =>
          rw [exited] at rest
          cases rest
          rw [unseenStep_eq_ok queried]
          exact entry
      | some code =>
          rw [exited] at rest
          obtain ⟨_, _, put, returned⟩ := (Program.bind_eq_ok _).mp rest
          cases put
          cases returned
          exact Std.ExtTreeMap.getElem?_insert_self

theorem takeChild_notLive {taken : Bool} (ran : takeChild name host = (.ok taken, final)) :
    ¬ Live final name := by
  unfold takeChild at ran
  obtain ⟨stored, _, got, rest⟩ := (Program.bind_eq_ok _).mp ran
  obtain ⟨state, middle, refreshed, last⟩ := (Program.bind_eq_ok _).mp rest
  rw [getService_apply] at got
  cases entry : host.wasmtimeServices[name]? with
  | none =>
      rw [entry] at got
      cases got
  | some found =>
      rw [entry] at got
      cases got
      have stateEntry := refreshChildState_entry entry refreshed
      cases child : state.child with
      | none =>
          rw [child] at last
          cases last
          rw [live_of_entry stateEntry, child]
          simp
      | some running =>
          rw [child] at last
          obtain ⟨_, _, put, returned⟩ := (Program.bind_eq_ok _).mp last
          cases put
          cases returned
          rw [live_of_entry Std.ExtTreeMap.getElem?_insert_self]
          simp

theorem killChild_notLive (ran : killChild name host = (.ok (), final)) : ¬ Live final name := by
  unfold killChild at ran
  obtain ⟨_, _, -, rest⟩ := (Program.bind_eq_ok _).mp ran
  obtain ⟨_, middle, -, rest⟩ := (Program.bind_eq_ok _).mp rest
  rw [Program.bind_of_ok (Program.gets_apply _ _)] at rest
  cases entry : middle.wasmtimeServices[name]? with
  | none =>
      rw [entry] at rest
      cases rest
  | some state =>
      rw [entry] at rest
      cases rest
      rw [live_of_entry Std.ExtTreeMap.getElem?_insert_self]
      simp

/-- The child process is neither started nor stopped. -/
def livenessFrame (name : String) : Program.Frame Host where
  Allows before after := Live after name ↔ Live before name
  refl _ := Iff.rfl
  trans before after := after.trans before

theorem restore_liveness {manifest : ServiceManifest} {localServiceId : String} :
    Program.Within (livenessFrame name)
      (WasmtimeRuntimeProvider.restore setup manifest localServiceId) := by
  intro host
  unfold WasmtimeRuntimeProvider.restore
  rw [Program.bind_of_ok (Program.gets_apply _ _), Program.bind_apply]
  have unchanged := live_of_files (@buildWasmtimeState_within _ _ _ _ _ host.allowedHostPaths false
    (admits_any setup manifest.name localServiceId) (mountsMade_any manifest)) host name
  split
  · next state middle built =>
      rw [built] at unchanged
      rw [Program.bind_of_ok (Program.gets_apply _ _)]
      split
      · exact unchanged
      · next absent =>
          apply Iff.trans _ unchanged
          by_cases own : manifest.name = name
          · subst own
            have newEntry : (WasmtimeRuntimeProvider.putService manifest.name state
                middle).2.wasmtimeServices[manifest.name]? = some state :=
              Std.ExtTreeMap.getElem?_insert_self
            rw [live_of_entry newEntry, (buildWasmtimeState_eq_ok built).2]
            unfold Live
            rw [Std.ExtTreeMap.getElem?_eq_none absent]
            simp
          · unfold Live WasmtimeRuntimeProvider.putService
            rw [Program.modify_apply]
            dsimp only
            rw [getElem?_insert, if_neg own]
  · next error middle failed =>
      rw [failed] at unchanged
      exact unchanged

theorem restoreMissing_liveness :
    Program.Within (livenessFrame name) (restoreMissing setup name) := by
  unfold restoreMissing
  apply (Program.within_gets _).bind
  intro manifests
  cases manifests[name]? with
  | none => exact Program.within_fail _
  | some manifest =>
      apply (localServiceIdOf_within name).bind
      intro localServiceId
      exact restore_liveness

theorem takeChild_within : Program.Within anyFrame (takeChild name) := by
  unfold takeChild
  apply within_getService
  intro stored _
  apply within_refreshed (governs_any name) trivial
  intro state _
  cases state.child with
  | none => exact Program.within_pure _
  | some running =>
      apply (putService_within trivial).bind
      intro _
      exact Program.within_pure _

theorem killChild_within : Program.Within anyFrame (killChild name) := by
  unfold killChild
  apply (within_of_files unseenStep_within).bind
  intro _
  apply (within_of_files unseenStep_within).bind
  intro _
  apply (Program.within_gets _).bind
  intro services
  cases services[name]? with
  | none => exact Program.within_fail _
  | some state => exact putService_within trivial

theorem restoreMissing_within : Program.Within anyFrame (restoreMissing setup name) := by
  unfold restoreMissing
  apply (Program.within_gets _).bind
  intro manifests
  cases manifests[name]? with
  | none => exact Program.within_fail _
  | some manifest =>
      apply (localServiceIdOf_within name).bind
      intro localServiceId
      exact restore_within (admits_any setup _ _) (mountsMade_any manifest)

end Provider

/-! ## Calls -/

/-- The two calls. -/
inductive StartOrStop where
  | start
  | stop
  deriving DecidableEq

/-- The state that a call asks for. -/
def StartOrStop.desiredState : StartOrStop → DesiredServiceState
  | .start => .running
  | .stop => .stopped

/-- Whether the call listens for the endpoints or stops listening. -/
def StartOrStop.enabled : StartOrStop → Bool
  | .start => true
  | .stop => false

/-- What a call changes, in this order. -/
inductive ServicePart where
  | child
  | desiredState
  | listeners
  deriving DecidableEq

/-- Where a call stands. -/
inductive StartStopPhase where
  | ready
  | restoring
  | providing
  | killing
  | persisting
  | syncing
  | returned (result : Except Error Unit)
  deriving DecidableEq

/-- The daemon after one step of a call, and the part of the service the step was about. -/
structure StartStopStep where
  host : Host
  tunneling : TcpTunnelingControl
  phase : StartStopPhase
  part : Option ServicePart

/-- Go on with the value of an action, or return its error. -/
def StartStopStep.of {Value : Type} (tunneling : TcpTunnelingControl) (part : Option ServicePart)
    (next : Value → StartStopPhase) (ran : Except Error Value × Host) : StartStopStep :=
  match ran with
  | (.ok value, host) => { host, tunneling, phase := next value, part }
  | (.error error, host) => { host, tunneling, phase := .returned (.error error), part }

/-- The check that the runtime is enabled, which a stop does not make, and the question
whether the provider has the service. -/
def StartOrStop.enter (call : StartOrStop) (setup : RuntimeSetup) (name : String) :
    Action Bool := do
  Program.when (call = .start) (ensureRuntimeEnabled setup .wasmtime)
  let services ← Program.gets (·.wasmtimeServices)
  return decide (name ∈ services)

/-- One step of a call. -/
def StartOrStop.advance (call : StartOrStop) (setup : RuntimeSetup) (name : String) (host : Host)
    (tunneling : TcpTunnelingControl) : StartStopPhase → Option StartStopStep
  | .ready =>
      match resolveRuntime name host with
      | (.error error, host) =>
          some { host, tunneling, phase := .returned (.error error), part := none }
      | (.ok .wasmtime, host) =>
          some (.of tunneling none (fun served => if served then .providing else .restoring)
            (call.enter setup name host))
      -- The other providers are not cut into these steps.
      | (.ok _, _) => none
  | .restoring =>
      some <| .of tunneling none (fun _ => .providing) <| match call with
        | .start => restoreMissing setup name host
        | .stop => Program.ignoring (restoreMissing setup name) host
  | .providing =>
      match call with
      | .start =>
          some (.of tunneling (some .child) (fun _ => .persisting)
            (WasmtimeRuntimeProvider.start setup name host))
      | .stop =>
          some (.of tunneling (some .child) (fun taken => if taken then .killing else .persisting)
            (takeChild name host))
  | .killing =>
      match call with
      | .start => none
      | .stop =>
          some (.of tunneling (some .child) (fun _ => .persisting) (killChild name host))
  | .persisting =>
      some (.of tunneling (some .desiredState) (fun _ => .syncing)
        (setDesiredState setup.toPlatform name call.desiredState host))
  | .syncing =>
      match syncServiceEndpointListenersForManifest tunneling host.serviceManifests[name]?
          call.enabled with
      | (tunneling, result) =>
          some { host, tunneling, phase := .returned result, part := some .listeners }
  | .returned _ => none

/-- The daemon, the calls in progress, and the parts changed so far, newest first, each with
the kind of the call. -/
structure StartStopSystem (CallId : Type) where
  host : Host
  tunneling : TcpTunnelingControl
  phases : CallId → StartStopPhase
  log : List (ServicePart × StartOrStop)

namespace StartStopSystem

variable {CallId : Type}

/-- No call has been made. -/
def start (host : Host) (tunneling : TcpTunnelingControl) : StartStopSystem CallId :=
  { host, tunneling, phases := fun _ => .ready, log := [] }

/-- One step of one of the calls on the service. -/
def step [DecidableEq CallId] (setup : RuntimeSetup) (name : String)
    (calls : CallId → StartOrStop) (state : StartStopSystem CallId) (id : CallId) :
    Option (StartStopSystem CallId) :=
  ((calls id).advance setup name state.host state.tunneling (state.phases id)).map fun next =>
    { host := next.host
      tunneling := next.tunneling
      phases := Function.update state.phases id next.phase
      log := next.part.toList.map (·, calls id) ++ state.log }

end StartStopSystem

/-- The kind of the call that changed a part last. -/
def lastKind (part : ServicePart) (log : List (ServicePart × StartOrStop)) :
    Option StartOrStop :=
  (log.find? (·.1 = part)).map (·.2)

/-! ## Agreement -/

/-- The desired state, the child process and the listeners agree. -/
structure Agrees (name : String) (manifest : ServiceManifest) (host : Host)
    (tunneling : TcpTunnelingControl) : Prop where
  child : Live host name ↔ desiredStateOf host name = .running
  listeners : ∀ protocol port, Exposes manifest protocol port →
    (Listens tunneling protocol port ↔ desiredStateOf host name = .running)

/-- The last calls to change the child, to save the desired state and, if the service has
endpoints, to change the listeners are of one kind. -/
def LastStepsAgree (manifest : ServiceManifest) (log : List (ServicePart × StartOrStop)) : Prop :=
  lastKind .child log = lastKind .desiredState log ∧
    (serviceExposeEndpointBindings manifest ≠ [] →
      lastKind .listeners log = lastKind .desiredState log)

instance (manifest : ServiceManifest) (log : List (ServicePart × StartOrStop)) :
    Decidable (LastStepsAgree manifest log) :=
  inferInstanceAs (Decidable (_ ∧ (_ → _)))

/-- A part of the service is as calls of one kind leave it. -/
def Shows (name : String) (manifest : ServiceManifest) (part : ServicePart) (kind : StartOrStop)
    (host : Host) (tunneling : TcpTunnelingControl) : Prop :=
  match part with
  | .child => Live host name ↔ kind = .start
  | .desiredState => desiredStateOf host name = kind.desiredState
  | .listeners => ∀ protocol port, Exposes manifest protocol port →
      (Listens tunneling protocol port ↔ kind = .start)

theorem exposes_iff {manifest : ServiceManifest} :
    (∃ protocol port, Exposes manifest protocol port) ↔
      serviceExposeEndpointBindings manifest ≠ [] := by
  constructor
  · intro exposed none
    obtain ⟨protocol, port, endpoint, membership, -⟩ := exposed
    rw [none] at membership
    cases membership
  · intro some
    obtain ⟨endpoint, membership⟩ := List.exists_mem_of_ne_nil _ some
    exact ⟨endpoint.protocol, endpoint.hostPort, endpoint, membership, rfl, rfl⟩

theorem StartOrStop.desiredState_eq_running {kind : StartOrStop} :
    kind.desiredState = .running ↔ kind = .start := by
  cases kind with
  | start => exact iff_of_true rfl rfl
  | stop => exact iff_of_false nofun nofun

/-- Once each part has been changed, the parts agree exactly if they were changed last by calls
of one kind. -/
theorem agrees_iff {name : String} {manifest : ServiceManifest} {host : Host}
    {tunneling : TcpTunnelingControl} {log : List (ServicePart × StartOrStop)}
    (shows : ∀ part kind, lastKind part log = some kind →
      Shows name manifest part kind host tunneling)
    (changed : ∀ part, (lastKind part log).isSome) :
    Agrees name manifest host tunneling ↔ LastStepsAgree manifest log := by
  obtain ⟨childKind, lastChild⟩ := Option.isSome_iff_exists.mp (changed .child)
  obtain ⟨stateKind, lastState⟩ := Option.isSome_iff_exists.mp (changed .desiredState)
  obtain ⟨listenersKind, lastListeners⟩ := Option.isSome_iff_exists.mp (changed .listeners)
  have child : Live host name ↔ childKind = .start := shows _ _ lastChild
  have state : desiredStateOf host name = .running ↔ stateKind = .start := by
    rw [show desiredStateOf host name = stateKind.desiredState from shows _ _ lastState]
    exact StartOrStop.desiredState_eq_running
  have listeners : ∀ protocol port, Exposes manifest protocol port →
      (Listens tunneling protocol port ↔ listenersKind = .start) := shows _ _ lastListeners
  have sameKind (left right : StartOrStop) :
      (left = .start ↔ right = .start) ↔ left = right := by
    cases left with
    | start => cases right with
      | start => simp
      | stop => simp
    | stop => cases right with
      | start => simp
      | stop => simp
  unfold LastStepsAgree
  rw [lastChild, lastState, lastListeners, Option.some.injEq, Option.some.injEq,
    ← exposes_iff]
  constructor
  · intro agrees
    constructor
    · rw [← sameKind, ← child, ← state]
      exact agrees.child
    · intro exposed
      obtain ⟨protocol, port, exposes⟩ := exposed
      rw [← sameKind, ← listeners protocol port exposes, ← state]
      exact agrees.listeners protocol port exposes
  · intro same
    constructor
    · rw [child, state, sameKind]
      exact same.1
    · intro protocol port exposes
      rw [listeners protocol port exposes, state, sameKind]
      exact same.2 ⟨protocol, port, exposes⟩

/-! ## What one step changes -/

section Steps

variable {setup : RuntimeSetup} {name : String} {manifest : ServiceManifest}
  {call : StartOrStop} {host : Host} {tunneling : TcpTunnelingControl}
  {phase : StartStopPhase} {next : StartStopStep}

/-- The step leaves its part as its kind does, and the other parts as they are. -/
structure StepEffect (name : String) (manifest : ServiceManifest) (call : StartOrStop)
    (host : Host) (tunneling : TcpTunnelingControl) (next : StartStopStep) : Prop where
  manifests : next.host.serviceManifests = host.serviceManifests
  one : OneListenerEach next.tunneling
  shows : ∀ part ∈ next.part, Shows name manifest part call next.host next.tunneling
  keeps : ∀ part kind, part ∉ next.part → Shows name manifest part kind host tunneling →
    Shows name manifest part kind next.host next.tunneling

theorem shows_congr {part : ServicePart} {kind : StartOrStop} {host' : Host}
    {tunneling' : TcpTunnelingControl}
    (child : part = .child → (Live host' name ↔ Live host name))
    (desiredState : part = .desiredState → desiredStateOf host' name = desiredStateOf host name)
    (listeners : part = .listeners → tunneling' = tunneling)
    (shows : Shows name manifest part kind host tunneling) :
    Shows name manifest part kind host' tunneling' := by
  cases part with
  | child => exact (child rfl).trans shows
  | desiredState => exact (desiredState rfl).trans shows
  | listeners =>
      rw [listeners rfl]
      exact shows

/-- A step outside the three parts. -/
theorem effect_of_none {after : Host} (one : OneListenerEach tunneling)
    (same : SameRecords host after) (live : Live after name ↔ Live host name) :
    StepEffect name manifest call host tunneling
      { host := after, tunneling, phase, part := none } where
  manifests := same.manifests
  one := one
  shows := nofun
  keeps _ _ _ := shows_congr (fun _ => live) (fun _ => same.desiredStateOf name) fun _ => rfl

/-- A step of the provider on the child. -/
theorem effect_of_child {after : Host} (one : OneListenerEach tunneling)
    (same : SameRecords host after) (live : Live after name ↔ call = .start) :
    StepEffect name manifest call host tunneling
      { host := after, tunneling, phase, part := some .child } where
  manifests := same.manifests
  one := one
  shows := by
    intro part changed
    cases changed
    exact live
  keeps part _ other := shows_congr (fun isChild => absurd (congrArg some isChild.symm) other)
    (fun _ => same.desiredStateOf name) fun _ => rfl

theorem effect_of_desiredState {after : Host} (one : OneListenerEach tunneling)
    (ran : setDesiredState setup.toPlatform name call.desiredState host = (.ok (), after)) :
    StepEffect name manifest call host tunneling
      { host := after, tunneling, phase, part := some .desiredState } := by
  obtain ⟨manifests, services, desiredState⟩ := setDesiredState_eq_ok ran
  refine ⟨manifests, one, ?_, ?_⟩
  · intro part changed
    cases changed
    exact desiredState
  · intro part kind other
    exact shows_congr (fun _ => live_congr services name)
      (fun isState => absurd (congrArg some isState.symm) other) fun _ => rfl

theorem effect_of_listeners {after : TcpTunnelingControl} (one : OneListenerEach tunneling)
    (synced : syncServiceEndpointListenersForManifest tunneling (some manifest) call.enabled =
      (after, .ok ())) :
    StepEffect name manifest call host tunneling
      { host, tunneling := after, phase, part := some .listeners } := by
  have keeps : ∀ part kind, part ∉ some ServicePart.listeners →
      Shows name manifest part kind host tunneling →
        Shows name manifest part kind host after := by
    intro part kind other
    exact shows_congr (fun _ => Iff.rfl) (fun _ => rfl)
      fun isListeners => absurd (congrArg some isListeners.symm) other
  cases call with
  | start =>
      obtain ⟨oneAfter, listens⟩ := sync_enabled one synced
      refine ⟨rfl, oneAfter, ?_, keeps⟩
      intro part changed
      cases changed
      intro protocol port exposes
      rw [listens]
      exact iff_of_true (Or.inr exposes) rfl
  | stop =>
      obtain ⟨oneAfter, listens⟩ := sync_disabled one synced
      refine ⟨rfl, oneAfter, ?_, keeps⟩
      intro part changed
      cases changed
      intro protocol port exposes
      rw [listens]
      exact iff_of_false (fun both => both.2 exposes) nofun

/-- The parts that a call has changed by then. -/
def StartStopPhase.done : StartStopPhase → List ServicePart
  | .killing => [.child]
  | .persisting => [.child]
  | .syncing => [.child, .desiredState]
  | .returned (.ok ()) => [.child, .desiredState, .listeners]
  | _ => []

/-- A step that does not end the call with an error. -/
structure GoesOn (name : String) (manifest : ServiceManifest) (call : StartOrStop) (host : Host)
    (tunneling : TcpTunnelingControl) (phase : StartStopPhase) (next : StartStopStep) : Prop where
  effect : StepEffect name manifest call host tunneling next
  done : ∀ part ∈ next.phase.done, part ∈ phase.done ∨ part ∈ next.part

/-- The call ends with an error, or the step is what its value says. -/
theorem of_cases {Value : Type} {part : Option ServicePart} {goTo : Value → StartStopPhase}
    {ran : Except Error Value × Host}
    (goesOn : ∀ value after, ran = (.ok value, after) → GoesOn name manifest call host tunneling
      phase { host := after, tunneling, phase := goTo value, part }) :
    (∃ error, (StartStopStep.of tunneling part goTo ran).phase = .returned (.error error)) ∨
      GoesOn name manifest call host tunneling phase (.of tunneling part goTo ran) := by
  obtain ⟨outcome, after⟩ := ran
  cases outcome with
  | error error => exact Or.inl ⟨error, rfl⟩
  | ok value => exact Or.inr (goesOn value after rfl)

theorem enter_unchanged {served : Bool} {after : Host}
    (entered : call.enter setup name host = (.ok served, after)) : after = host := by
  have within : Program.Within
      { Allows := fun before after => after = before, refl := fun _ => rfl,
        trans := fun before after => after.trans before } (call.enter setup name) := by
    unfold StartOrStop.enter
    apply (Program.Within.when fun _ => ensureRuntimeEnabled_within _).bind
    intro _
    apply (Program.within_gets _).bind
    intro services
    exact Program.within_pure _
  have same := within host
  rw [entered] at same
  exact same

theorem restoring_effect {action : Action Unit} {after : Host} {outcome : Except Error Unit}
    (one : OneListenerEach tunneling) (records : Program.Within anyFrame action)
    (liveness : Program.Within (livenessFrame name) action)
    (ran : action host = (outcome, after)) :
    StepEffect name manifest call host tunneling
      { host := after, tunneling, phase, part := none } := by
  have same := records_of_provider records host
  have live := liveness host
  rw [ran] at same live
  exact effect_of_none one same live

theorem child_effect {Value : Type} {value : Value} {action : Action Value} {after : Host}
    (one : OneListenerEach tunneling) (records : Program.Within anyFrame action)
    (ran : action host = (.ok value, after)) (live : Live after name ↔ call = .start) :
    StepEffect name manifest call host tunneling
      { host := after, tunneling, phase, part := some .child } := by
  have same := records_of_provider records host
  rw [ran] at same
  exact effect_of_child one same live

theorem advance_spec (one : OneListenerEach tunneling)
    (present : host.serviceManifests[name]? = some manifest)
    (taken : call.advance setup name host tunneling phase = some next) :
    (∃ error, next.phase = .returned (.error error)) ∨
      GoesOn name manifest call host tunneling phase next := by
  cases phase with
  | ready =>
      have unchanged : (resolveRuntime name host).2 = host := by
        unfold resolveRuntime
        rw [Program.bind_of_ok (Program.gets_apply _ _)]
        cases host.serviceIndex[name]? with
        | none => rfl
        | some runtime => rfl
      dsimp only [StartOrStop.advance] at taken
      split at taken
      · cases taken
        exact Or.inl ⟨_, rfl⟩
      · next after resolved =>
          rw [resolved] at unchanged
          dsimp only at unchanged
          subst unchanged
          cases taken
          apply of_cases
          intro served last entered
          rw [enter_unchanged entered]
          refine ⟨effect_of_none one ⟨rfl, rfl, rfl⟩ Iff.rfl, ?_⟩
          intro part done
          dsimp only at done
          split at done
          · cases done
          · cases done
      · cases taken
  | restoring =>
      cases taken
      apply of_cases
      intro _ after ran
      refine ⟨?_, nofun⟩
      cases call with
      | start => exact restoring_effect one restoreMissing_within restoreMissing_liveness ran
      | stop =>
          exact restoring_effect one restoreMissing_within.ignoring
            restoreMissing_liveness.ignoring ran
  | providing =>
      cases call with
      | start =>
          cases taken
          apply of_cases
          intro _ after ran
          refine ⟨child_effect one (wasmtimeStart_within (governs_any name)) ran
            (iff_of_true (wasmtimeStart_live ran) rfl), ?_⟩
          intro part done
          exact Or.inr (congrArg some (List.mem_singleton.mp done).symm)
      | stop =>
          cases taken
          apply of_cases
          intro running after ran
          refine ⟨child_effect one takeChild_within ran
            (iff_of_false (takeChild_notLive ran) nofun), ?_⟩
          intro part done
          right
          cases running with
          | true => exact congrArg some (List.mem_singleton.mp done).symm
          | false => exact congrArg some (List.mem_singleton.mp done).symm
  | killing =>
      cases call with
      | start => cases taken
      | stop =>
          cases taken
          apply of_cases
          intro _ after ran
          exact ⟨child_effect one killChild_within ran
            (iff_of_false (killChild_notLive ran) nofun), fun part done => Or.inl done⟩
  | persisting =>
      cases taken
      apply of_cases
      intro _ after ran
      refine ⟨effect_of_desiredState one ran, ?_⟩
      intro part done
      rcases List.mem_cons.mp done with isChild | rest
      · exact Or.inl (isChild ▸ List.mem_cons_self)
      · exact Or.inr (congrArg some (List.mem_singleton.mp rest).symm)
  | syncing =>
      dsimp only [StartOrStop.advance] at taken
      rw [present] at taken
      cases synced : syncServiceEndpointListenersForManifest tunneling (some manifest)
          call.enabled with
      | mk after result =>
          rw [synced] at taken
          cases taken
          cases result with
          | error error => exact Or.inl ⟨error, rfl⟩
          | ok _ =>
              right
              refine ⟨effect_of_listeners one synced, ?_⟩
              intro part done
              rcases List.mem_cons.mp done with isChild | rest
              · exact Or.inl (isChild ▸ List.mem_cons_self)
              · rcases List.mem_cons.mp rest with isState | last
                · exact Or.inl (isState ▸ List.mem_cons_of_mem _ List.mem_cons_self)
                · exact Or.inr (congrArg some (List.mem_singleton.mp last).symm)
  | returned result => cases taken

end Steps

/-! ## Runs -/

theorem lastKind_of_changed {part : ServicePart} {changed : Option ServicePart}
    (kind : StartOrStop) (log : List (ServicePart × StartOrStop)) (membership : part ∈ changed) :
    lastKind part (changed.toList.map (·, kind) ++ log) = some kind := by
  cases membership
  simp [lastKind]

theorem lastKind_of_unchanged {part : ServicePart} {changed : Option ServicePart}
    (kind : StartOrStop) (log : List (ServicePart × StartOrStop)) (other : part ∉ changed) :
    lastKind part (changed.toList.map (·, kind) ++ log) = lastKind part log := by
  cases changed with
  | none => rfl
  | some last =>
      have different : last ≠ part := fun same => other (congrArg some same)
      simp [lastKind, different]

section Runs

variable {CallId : Type} [DecidableEq CallId] {setup : RuntimeSetup} {name : String}
  {manifest : ServiceManifest} {calls : CallId → StartOrStop} {state next : StartStopSystem CallId}

/-- Each part is as the last call that changed it left it, and the calls have changed what
they were to change. -/
structure Followed (name : String) (manifest : ServiceManifest)
    (state : StartStopSystem CallId) : Prop where
  present : state.host.serviceManifests[name]? = some manifest
  one : OneListenerEach state.tunneling
  shows : ∀ part kind, lastKind part state.log = some kind →
    Shows name manifest part kind state.host state.tunneling
  done : ∀ id, ∀ part ∈ (state.phases id).done, (lastKind part state.log).isSome

/-- A call has returned an error. -/
def SomeFailed (state : StartStopSystem CallId) : Prop :=
  ∃ id error, state.phases id = .returned (.error error)

theorem SomeFailed.step (failed : SomeFailed state) {id : CallId}
    (taken : state.step setup name calls id = some next) : SomeFailed next := by
  obtain ⟨found, error, returned⟩ := failed
  obtain ⟨change, advanced, rfl⟩ := Option.map_eq_some_iff.mp taken
  refine ⟨found, error, ?_⟩
  dsimp only
  rw [Function.update_apply]
  split
  · next same =>
      subst same
      rw [returned] at advanced
      cases advanced
  · exact returned

theorem Followed.step (followed : Followed name manifest state) {id : CallId}
    (taken : state.step setup name calls id = some next) :
    SomeFailed next ∨ Followed name manifest next := by
  obtain ⟨change, advanced, rfl⟩ := Option.map_eq_some_iff.mp taken
  rcases advance_spec followed.one followed.present advanced with ⟨error, failed⟩ | goesOn
  · left
    refine ⟨id, error, ?_⟩
    dsimp only
    rw [Function.update_self, failed]
  · right
    refine ⟨?_, goesOn.effect.one, ?_, ?_⟩
    · dsimp only
      rw [goesOn.effect.manifests]
      exact followed.present
    · intro part kind last
      by_cases changed : part ∈ change.part
      · rw [lastKind_of_changed _ _ changed] at last
        cases last
        exact goesOn.effect.shows part changed
      · rw [lastKind_of_unchanged _ _ changed] at last
        exact goesOn.effect.keeps part kind changed (followed.shows part kind last)
    · intro found part done
      by_cases changed : part ∈ change.part
      · rw [lastKind_of_changed _ _ changed]
        rfl
      · rw [lastKind_of_unchanged _ _ changed]
        dsimp only at done
        rw [Function.update_apply] at done
        split at done
        · rcases goesOn.done part done with already | isChanged
          · exact followed.done id part already
          · exact absurd isChanged changed
        · exact followed.done found part done

theorem followed_of_run {host : Host} {tunneling : TcpTunnelingControl} {actions : List CallId}
    (present : host.serviceManifests[name]? = some manifest) (one : OneListenerEach tunneling)
    (reached : run (StartStopSystem.step setup name calls) (.start host tunneling) actions =
      some state) : SomeFailed state ∨ Followed name manifest state := by
  apply run_induction (motive := fun _ state => SomeFailed state ∨ Followed name manifest state)
    _ _ reached
  · exact Or.inr ⟨present, one, nofun, nofun⟩
  · intro _ before id after _ either taken
    rcases either with failed | followed
    · exact Or.inl (failed.step taken)
    · exact followed.step taken

/-- Once all calls have returned without a failure, the desired state, the child and the
listeners agree exactly if the calls that changed them last are of one kind. -/
theorem start_stop_agree_iff (setup : RuntimeSetup) (name : String) (manifest : ServiceManifest)
    (calls : CallId → StartOrStop) (host : Host) (tunneling : TcpTunnelingControl)
    (actions : List CallId) (final : StartStopSystem CallId)
    (present : host.serviceManifests[name]? = some manifest) (one : OneListenerEach tunneling)
    (initially : Nonempty CallId ∨ Agrees name manifest host tunneling)
    (reached : run (StartStopSystem.step setup name calls) (.start host tunneling) actions =
      some final)
    (returned : ∀ id, final.phases id = .returned (.ok ())) :
    Agrees name manifest final.host final.tunneling ↔ LastStepsAgree manifest final.log := by
  rcases followed_of_run present one reached with failed | followed
  · obtain ⟨id, error, failure⟩ := failed
    rw [returned id] at failure
    cases failure
  · rcases isEmpty_or_nonempty CallId with none | ⟨⟨id⟩⟩
    · cases actions with
      | nil =>
          cases reached
          rcases initially with some | agrees
          · exact absurd some (not_nonempty_iff.mpr none)
          · exact iff_of_true agrees ⟨rfl, fun _ => rfl⟩
      | cons action rest => exact none.elim action
    · apply agrees_iff followed.shows
      intro part
      apply followed.done id part
      rw [returned id]
      cases part with
      | child => exact List.mem_cons_self
      | desiredState => exact List.mem_cons_of_mem _ List.mem_cons_self
      | listeners => exact List.mem_cons_of_mem _ (List.mem_cons_of_mem _ List.mem_cons_self)

end Runs

/-! ## A start that is overtaken by a stop -/

/-- A daemon with Wasmtime alone. -/
def singleSetup : RuntimeSetup :=
  { toPlatform := singlePlatform, fungiHome := "/f", docker := none, wasmtimeEnabled := true }

/-- A stopped service with one endpoint. -/
def singleRegistered : Host :=
  { Host.fresh singleServiceFiles [] with
    serviceIndex := Std.ExtTreeMap.ofList [("demo", .wasmtime)] compare
    serviceManifests := Std.ExtTreeMap.ofList [("demo", singleService.manifest)] compare
    serviceState := singleStore }

/-- The start has been saved when the stop comes, and opens the listeners when the stop has
closed them. -/
private def stopOvertakes : List StartOrStop :=
  List.replicate 4 .start ++ List.replicate 5 .stop ++ [.start]

/-- The start runs to its end before the stop begins. -/
private def oneAfterTheOther : List StartOrStop :=
  List.replicate 5 .start ++ List.replicate 5 .stop

theorem singleRegistered_agrees : Agrees "demo" singleService.manifest singleRegistered .new := by
  constructor
  · decide +kernel
  · intro protocol port exposes
    apply iff_of_false
    · intro listens
      obtain ⟨ruleId, rule, present, -⟩ := listens
      simp [TcpTunnelingControl.new] at present
    · decide +kernel

/-- A start and a stop that both succeed leave a stopped service that is listened for. -/
theorem start_stop_disagree :
    ∃ final, run (StartStopSystem.step singleSetup "demo" id) (.start singleRegistered .new)
        stopOvertakes = some final ∧
      (∀ call, final.phases call = .returned (.ok ())) ∧
      desiredStateOf final.host "demo" = .stopped ∧ ¬ Live final.host "demo" ∧
      ¬ Agrees "demo" singleService.manifest final.host final.tunneling := by
  have evaluated : ((run (StartStopSystem.step singleSetup "demo" id)
      (.start singleRegistered .new) stopOvertakes).map fun final => decide (
        (final.phases .start = .returned (.ok ()) ∧ final.phases .stop = .returned (.ok ())) ∧
        desiredStateOf final.host "demo" = .stopped ∧ ¬ Live final.host "demo" ∧
        ∃ rule ∈ final.tunneling.listeningRules.toList, ∃ endpoint ∈
          serviceExposeEndpointBindings singleService.manifest, rule.2.port = endpoint.hostPort ∧
            rule.2.protocol = some endpoint.protocol)) = some true := by
    decide +kernel
  obtain ⟨final, reached, facts⟩ := Option.map_eq_some_iff.mp evaluated
  obtain ⟨⟨started, stopped⟩, state, dead, rule, listed, endpoint, exposed, port, named⟩ :=
    of_decide_eq_true facts
  refine ⟨final, reached, ?_, state, dead, ?_⟩
  · intro call
    cases call with
    | start => exact started
    | stop => exact stopped
  · intro agrees
    have listens : Listens final.tunneling endpoint.protocol endpoint.hostPort :=
      ⟨rule.1, rule.2, Std.ExtTreeMap.mem_toList_iff_getElem?_eq_some.mp listed, port, named⟩
    have running := (agrees.listeners _ _ ⟨endpoint, exposed, rfl, rfl⟩).mp listens
    rw [state] at running
    cases running

theorem start_stop_agree_demo :
    ∃ final, run (StartStopSystem.step singleSetup "demo" id) (.start singleRegistered .new)
        oneAfterTheOther = some final ∧
      (Agrees "demo" singleService.manifest final.host final.tunneling ↔
        LastStepsAgree singleService.manifest final.log) := by
  have evaluated : ((run (StartStopSystem.step singleSetup "demo" id)
      (.start singleRegistered .new) oneAfterTheOther).map fun final => decide (
        final.phases .start = .returned (.ok ()) ∧ final.phases .stop = .returned (.ok ()))) =
      some true := by
    decide +kernel
  obtain ⟨final, reached, facts⟩ := Option.map_eq_some_iff.mp evaluated
  refine ⟨final, reached, start_stop_agree_iff singleSetup "demo" singleService.manifest id
    singleRegistered .new oneAfterTheOther final (by decide +kernel) oneListenerEach_new
    (Or.inr singleRegistered_agrees) reached ?_⟩
  intro call
  cases call with
  | start => exact (of_decide_eq_true facts).1
  | stop => exact (of_decide_eq_true facts).2

end Fungi.Daemon.ServiceRuns
