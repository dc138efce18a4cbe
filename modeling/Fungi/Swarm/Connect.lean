import Fungi.Lib.Run
import Fungi.Swarm.CircuitAddresses
import Fungi.Swarm.DialPlan
import Fungi.Swarm.Governance

/-!
# Connecting to peers

`SwarmControl::connect` of `crates/swarm/src/libp2p/control.rs`.  Calls run side by side and each
holds the lock of its peer from the check for connections to its end.  A direct dial is awaited, and
a relay dial is submitted by a task of its own; both reach the swarm through one queue.  A call can
be dropped where it awaits, and then its relay task runs on.
-/

namespace Fungi.Swarm

open Fungi.Lib

variable {PeerId : Type}

/-- The number of a call. -/
abbrev CallId := Nat

/-- The errors that `connect` or one of its dials ends with. -/
inductive ConnectError (PeerId : Type) where
  | dialFailed
  | swarmInvocationFailed
  | dialTimeout (peerId : PeerId)
  | noDialAddresses (peerId : PeerId)
  deriving DecidableEq

/-- Dials go straight to the peer or over a relay. -/
inductive DialKind where
  | direct
  | relay
  deriving DecidableEq

/-- A call of `swarm.dial` on its way to the swarm, with the call of `connect` it is made for. -/
structure DialRequest (PeerId : Type) where
  call : CallId
  kind : DialKind
  peerId : PeerId
  addresses : List (Multiaddr PeerId)
  deriving DecidableEq

/-- What becomes of a request: the swarm may be gone before it runs. -/
inductive DialAnswer where
  | accepted
  | refused
  | lost
  deriving DecidableEq

/-- The answer as `dial` returns it. -/
def DialAnswer.result (PeerId : Type) : DialAnswer → Except (ConnectError PeerId) Unit
  | .accepted => .ok ()
  | .refused => .error .dialFailed
  | .lost => .error .swarmInvocationFailed

/-- What `is_err` says of the answer. -/
def DialAnswer.isErr (self : DialAnswer) : Bool :=
  match self.result Unit with
  | .ok _ => false
  | .error _ => true

/-- Where a call is.  `polling` is the loop of `wait_for_state`. -/
inductive ConnectCall (PeerId : Type) where
  | idle
  | waiting (peerId : PeerId)
  | locked (peerId : PeerId)
  | checked (peerId : PeerId)
  | dialing (peerId : PeerId)
  | polling (peerId : PeerId) (untilDirect : Bool)
  | leaving (peerId : PeerId)
  | returned (peerId : PeerId)
      (result : Except (ConnectError PeerId) (List (ConnectionRecord PeerId)))
  | dropped (peerId : PeerId)

/-- Where the relay task of a call is.  A task that is aborted while it runs still sends. -/
inductive RelayDialTask (PeerId : Type) where
  | none
  | scheduled (peerId : PeerId)
  | awake (peerId : PeerId) (isAborted : Bool)
  | sent (peerId : PeerId)
  | submitted
  | failed
  | aborted
  deriving DecidableEq

/-- A task that has not finished its request does not send it any more. -/
def RelayDialTask.abort : RelayDialTask PeerId → RelayDialTask PeerId
  | .scheduled _ => .aborted
  | .awake peerId _ => .awake peerId true
  | .sent _ => .aborted
  | task => task

/-- What `connect` reads of the state of the swarm. -/
structure ConnectView (PeerId : Type) where
  indexes : ConnectionIndexes PeerId
  /-- As the map lists them. -/
  peerAddresses : List (PeerAddressRecord PeerId)
  connectivity : ConnectivityState PeerId

/-- The calls that share one `SwarmControl`, and the requests they have sent. -/
structure Connects (PeerId : Type) where
  state : ConnectView PeerId
  connectLocks : PeerId → Option CallId
  calls : CallId → ConnectCall PeerId
  relayTasks : CallId → RelayDialTask PeerId
  queue : List (DialRequest PeerId)
  served : List (DialRequest PeerId)

/-- A step of a call, of its relay task, or of the swarm. -/
inductive ConnectStep (PeerId : Type) where
  | connect (call : CallId) (peerId : PeerId)
  | acquire (call : CallId)
  | timeOut (call : CallId)
  | checkConnections (call : CallId)
  | planDial (call : CallId) (now : SystemTime)
  | poll (call : CallId) (deadlinePassed : Bool)
  | finish (call : CallId)
  | drop (call : CallId)
  | wakeRelay (call : CallId)
  | sendRelay (call : CallId)
  | serve (answer : DialAnswer)
  | changeState (state : ConnectView PeerId)

/-- How many connections to the peer there are. -/
def ConnectionIndexes.connectionLenForPeer (self : ConnectionIndexes PeerId) (peerId : PeerId) :
    Nat :=
  (self.byPeer peerId).length

/-- Whether there are no relays. -/
def RelayPeers.isEmpty (self : RelayPeers PeerId) : Bool := self.groups.isEmpty

namespace Connects

/-- No call has been made. -/
def start (state : ConnectView PeerId) : Connects PeerId where
  state
  connectLocks _ := none
  calls _ := .idle
  relayTasks _ := .none
  queue := []
  served := []

/-- All requests, in the order in which they were sent. -/
def requests (self : Connects PeerId) : List (DialRequest PeerId) := self.served ++ self.queue

/-- A call goes over to another phase. -/
def setCall (self : Connects PeerId) (call : CallId) (phase : ConnectCall PeerId) :
    Connects PeerId :=
  { self with calls := Function.update self.calls call phase }

/-- A relay task goes over to another state. -/
def setRelayTask (self : Connects PeerId) (call : CallId) (task : RelayDialTask PeerId) :
    Connects PeerId :=
  { self with relayTasks := Function.update self.relayTasks call task }

/-- A request is handed to the swarm. -/
def send (self : Connects PeerId) (request : DialRequest PeerId) : Connects PeerId :=
  { self with queue := self.queue ++ [request] }

/-- The swarm takes a request from the queue. -/
def take (self : Connects PeerId) (request : DialRequest PeerId)
    (queue : List (DialRequest PeerId)) : Connects PeerId :=
  { self with queue, served := self.served ++ [request] }

section Step

variable [DecidableEq PeerId]

/-- The call gets its guard. -/
def enter (self : Connects PeerId) (call : CallId) (peerId : PeerId) (phase : ConnectCall PeerId) :
    Connects PeerId :=
  { self.setCall call phase with
    connectLocks := Function.update self.connectLocks peerId (some call) }

/-- The call ends and drops its guard. -/
def leave (self : Connects PeerId) (call : CallId) (peerId : PeerId) (phase : ConnectCall PeerId) :
    Connects PeerId :=
  { self.setCall call phase with connectLocks := Function.update self.connectLocks peerId none }

variable (relayPeers : RelayPeers PeerId) (strategy : ConnectionSelectionStrategy)
  (peerText : PeerId → String) (text : Multiaddr PeerId → String)

/-- `get_connections_by_peer_id` and `sort_by_strategy`. -/
def connections (self : Connects PeerId) (peerId : PeerId) : List (ConnectionRecord PeerId) :=
  sortByStrategy strategy (self.state.indexes.recordsForPeer peerId)

/-- The relay task could not submit its dial. -/
def relaySubmitFailed (self : Connects PeerId) (call : CallId) : Bool :=
  match self.relayTasks call with
  | .failed => true
  | _ => false

/-- The predicates given to `wait_for_state`. -/
def predicate (self : Connects PeerId) (call : CallId) (peerId : PeerId) (untilDirect : Bool) :
    Bool :=
  if untilDirect then
    (self.state.indexes.recordsForPeer peerId).any (fun connection => !connection.isRelay) ||
      (self.relaySubmitFailed call && relayPeers.isEmpty)
  else
    decide (0 < self.state.indexes.connectionLenForPeer peerId) || self.relaySubmitFailed call

/-- The direct addresses are dialled, or else the relays; without either the call fails. -/
def planDial (self : Connects PeerId) (call : CallId) (peerId : PeerId) (now : SystemTime) :
    Connects PeerId :=
  let dialPlan := DialPlan.forPeer peerText text self.state.peerAddresses peerId now
  let directAddresses := dialPlan.directAddresses
  if directAddresses = [] then
    if relayPeers.isEmpty then self.leave call peerId
      (.returned peerId (.error (.noDialAddresses peerId)))
    else (self.setRelayTask call (.scheduled peerId)).setCall call (.polling peerId false)
  else
    (self.send { call, kind := .direct, peerId, addresses := directAddresses }).setCall call
      (.dialing peerId)

/-- The call goes on after its direct dial. -/
def afterDirectDial (self : Connects PeerId) (call : CallId) (peerId : PeerId)
    (directSubmitFailed : Bool) : Connects PeerId :=
  if directSubmitFailed && relayPeers.isEmpty then self.leave call peerId
    (.returned peerId (.ok []))
  else
    let spawned := if relayPeers.isEmpty then self else self.setRelayTask call (.scheduled peerId)
    spawned.setCall call (.polling peerId !directSubmitFailed)

/-- `dial_relay_addresses`, up to the answer of the swarm. -/
def sendRelay (self : Connects PeerId) (call : CallId) (peerId : PeerId) (isAborted : Bool) :
    Connects PeerId :=
  let addresses := relayPeers.circuitAddressesForTarget text peerId self.state.connectivity
  if relayPeers.isEmpty || addresses.isEmpty then
    self.setRelayTask call (if isAborted then .aborted else .failed)
  else
    (self.send { call, kind := .relay, peerId, addresses }).setRelayTask call
      (if isAborted then .aborted else .sent peerId)

/-- The swarm has run a request; nobody waits for the answer to one of a dropped call. -/
def answer (self : Connects PeerId) (request : DialRequest PeerId) (answer : DialAnswer) :
    Connects PeerId :=
  match request.kind with
  | .direct =>
      match self.calls request.call with
      | .dialing peerId => self.afterDirectDial relayPeers request.call peerId answer.isErr
      | _ => self
  | .relay =>
      match self.relayTasks request.call with
      | .sent _ => self.setRelayTask request.call (if answer.isErr then .failed else .submitted)
      | _ => self

/-- What a step does, where the call is in the phase for it. -/
def step (self : Connects PeerId) : ConnectStep PeerId → Option (Connects PeerId)
  | .connect call peerId =>
      match self.calls call with
      | .idle => some (self.setCall call (.waiting peerId))
      | _ => none
  | .acquire call =>
      match self.calls call with
      | .waiting peerId =>
          if self.connectLocks peerId = none then some (self.enter call peerId (.locked peerId))
          else none
      | _ => none
  | .timeOut call =>
      match self.calls call with
      | .waiting peerId =>
          some (self.setCall call (.returned peerId (.error (.dialTimeout peerId))))
      | _ => none
  | .checkConnections call =>
      match self.calls call with
      | .locked peerId =>
          let connections := self.connections strategy peerId
          some (if connections.isEmpty then self.setCall call (.checked peerId)
            else self.leave call peerId (.returned peerId (.ok connections)))
      | _ => none
  | .planDial call now =>
      match self.calls call with
      | .checked peerId => some (self.planDial relayPeers peerText text call peerId now)
      | _ => none
  | .poll call deadlinePassed =>
      match self.calls call with
      | .polling peerId untilDirect =>
          some (if self.predicate relayPeers call peerId untilDirect || deadlinePassed then
            self.setCall call (.leaving peerId) else self)
      | _ => none
  | .finish call =>
      match self.calls call with
      | .leaving peerId =>
          some ((self.setRelayTask call (self.relayTasks call).abort).leave call peerId
            (.returned peerId (.ok (self.connections strategy peerId))))
      | _ => none
  | .drop call =>
      match self.calls call with
      | .waiting peerId => some (self.setCall call (.dropped peerId))
      | .dialing peerId | .polling peerId _ => some (self.leave call peerId (.dropped peerId))
      | _ => none
  | .wakeRelay call =>
      match self.relayTasks call with
      | .scheduled peerId => some (self.setRelayTask call (.awake peerId false))
      | _ => none
  | .sendRelay call =>
      match self.relayTasks call with
      | .awake peerId isAborted => some (self.sendRelay relayPeers text call peerId isAborted)
      | _ => none
  | .serve answer =>
      match self.queue with
      | request :: queue =>
          some ((self.take request queue).answer relayPeers request answer)
      | [] => none
  | .changeState state => some { self with state }

end Step

section Fields

variable (self : Connects PeerId) (call other : CallId) (peerId : PeerId)
  (phase : ConnectCall PeerId) (task : RelayDialTask PeerId) (request : DialRequest PeerId)

/-- The requests of one call, and those of them that the swarm has not run. -/
def sentFor : List (DialRequest PeerId) := self.requests.filter fun request => request.call = call

/-- The requests of a call that the swarm has not served. -/
def queuedFor : List (DialRequest PeerId) := self.queue.filter fun request => request.call = call

@[simp] theorem setCall_calls : (self.setCall call phase).calls =
    Function.update self.calls call phase := rfl

@[simp] theorem setCall_relayTasks : (self.setCall call phase).relayTasks = self.relayTasks := rfl

@[simp] theorem setCall_connectLocks :
    (self.setCall call phase).connectLocks = self.connectLocks := rfl

@[simp] theorem setCall_queue : (self.setCall call phase).queue = self.queue := rfl

@[simp] theorem setCall_requests : (self.setCall call phase).requests = self.requests := rfl

@[simp] theorem setRelayTask_calls : (self.setRelayTask call task).calls = self.calls := rfl

@[simp] theorem setRelayTask_relayTasks : (self.setRelayTask call task).relayTasks =
    Function.update self.relayTasks call task := rfl

@[simp] theorem setRelayTask_connectLocks :
    (self.setRelayTask call task).connectLocks = self.connectLocks := rfl

@[simp] theorem setRelayTask_queue : (self.setRelayTask call task).queue = self.queue := rfl

@[simp] theorem setRelayTask_requests :
    (self.setRelayTask call task).requests = self.requests := rfl

@[simp] theorem send_calls : (self.send request).calls = self.calls := rfl

@[simp] theorem send_relayTasks : (self.send request).relayTasks = self.relayTasks := rfl

@[simp] theorem send_connectLocks : (self.send request).connectLocks = self.connectLocks := rfl

@[simp] theorem send_queue : (self.send request).queue = self.queue ++ [request] := rfl

@[simp] theorem take_calls (queue : List (DialRequest PeerId)) :
    (self.take request queue).calls = self.calls := rfl

@[simp] theorem take_relayTasks (queue : List (DialRequest PeerId)) :
    (self.take request queue).relayTasks = self.relayTasks := rfl

@[simp] theorem take_queue (queue : List (DialRequest PeerId)) :
    (self.take request queue).queue = queue := rfl

theorem take_requests {queue : List (DialRequest PeerId)} (first : self.queue = request :: queue) :
    (self.take request queue).requests = self.requests := by
  simp [requests, take, first]

@[simp] theorem send_requests : (self.send request).requests = self.requests ++ [request] := by
  simp [requests, send]

variable [DecidableEq PeerId]

@[simp] theorem leave_calls : (self.leave call peerId phase).calls =
    Function.update self.calls call phase := rfl

@[simp] theorem leave_relayTasks :
    (self.leave call peerId phase).relayTasks = self.relayTasks := rfl

@[simp] theorem leave_connectLocks : (self.leave call peerId phase).connectLocks =
    Function.update self.connectLocks peerId none := rfl

@[simp] theorem leave_queue : (self.leave call peerId phase).queue = self.queue := rfl

@[simp] theorem leave_requests : (self.leave call peerId phase).requests = self.requests := rfl

end Fields

end Connects

/-! ## What a step can do -/

/-- The changes that the steps of the calls, their relay tasks and the swarm make. -/
inductive ConnectMove [DecidableEq PeerId] (relayPeers : RelayPeers PeerId)
    (strategy : ConnectionSelectionStrategy) (self : Connects PeerId) : Connects PeerId → Prop
  | connect {call} {peerId : PeerId} (idle : self.calls call = .idle) :
      ConnectMove relayPeers strategy self (self.setCall call (.waiting peerId))
  | acquire {call} {peerId : PeerId} (waiting : self.calls call = .waiting peerId)
      (free : self.connectLocks peerId = none) :
      ConnectMove relayPeers strategy self (self.enter call peerId (.locked peerId))
  | timeOut {call} {peerId : PeerId} (waiting : self.calls call = .waiting peerId) :
      ConnectMove relayPeers strategy self
        (self.setCall call (.returned peerId (.error (.dialTimeout peerId))))
  | foundNone {call} {peerId : PeerId} (locked : self.calls call = .locked peerId)
      (none : self.state.indexes.recordsForPeer peerId = []) :
      ConnectMove relayPeers strategy self (self.setCall call (.checked peerId))
  | found {call} {peerId : PeerId} (locked : self.calls call = .locked peerId)
      (some : self.connections strategy peerId ≠ []) :
      ConnectMove relayPeers strategy self
        (self.leave call peerId (.returned peerId (.ok (self.connections strategy peerId))))
  | nothingToDial {call} {peerId : PeerId} (checked : self.calls call = .checked peerId)
      (noRelay : relayPeers.isEmpty = true) :
      ConnectMove relayPeers strategy self
        (self.leave call peerId (.returned peerId (.error (.noDialAddresses peerId))))
  | relayOnly {call} {peerId : PeerId} (checked : self.calls call = .checked peerId)
      (hasRelay : relayPeers.isEmpty = false) :
      ConnectMove relayPeers strategy self
        ((self.setRelayTask call (.scheduled peerId)).setCall call (.polling peerId false))
  | dialDirect {call} {peerId : PeerId} {addresses : List (Multiaddr PeerId)}
      (checked : self.calls call = .checked peerId) (nonempty : addresses ≠ []) :
      ConnectMove relayPeers strategy self
        ((self.send { call, kind := .direct, peerId, addresses }).setCall call (.dialing peerId))
  | stay : ConnectMove relayPeers strategy self self
  | stopPolling {call} {peerId : PeerId} {untilDirect : Bool}
      (polling : self.calls call = .polling peerId untilDirect) :
      ConnectMove relayPeers strategy self (self.setCall call (.leaving peerId))
  | finish {call} {peerId : PeerId} (leaving : self.calls call = .leaving peerId) :
      ConnectMove relayPeers strategy self
        ((self.setRelayTask call (self.relayTasks call).abort).leave call peerId
          (.returned peerId (.ok (self.connections strategy peerId))))
  | dropWaiting {call} {peerId : PeerId} (waiting : self.calls call = .waiting peerId) :
      ConnectMove relayPeers strategy self (self.setCall call (.dropped peerId))
  | dropInside {call} {peerId : PeerId}
      (awaits : self.calls call = .dialing peerId ∨
        ∃ untilDirect, self.calls call = .polling peerId untilDirect) :
      ConnectMove relayPeers strategy self (self.leave call peerId (.dropped peerId))
  | wakeRelay {call} {peerId : PeerId} (scheduled : self.relayTasks call = .scheduled peerId) :
      ConnectMove relayPeers strategy self (self.setRelayTask call (.awake peerId false))
  | failRelay {call} {peerId : PeerId} {isAborted : Bool}
      (awake : self.relayTasks call = .awake peerId isAborted) :
      ConnectMove relayPeers strategy self
        (self.setRelayTask call (if isAborted then .aborted else .failed))
  | sendRelay {call} {peerId : PeerId} {isAborted : Bool} {addresses : List (Multiaddr PeerId)}
      (awake : self.relayTasks call = .awake peerId isAborted) (nonempty : addresses ≠ []) :
      ConnectMove relayPeers strategy self
        ((self.send { call, kind := .relay, peerId, addresses }).setRelayTask call
          (if isAborted then .aborted else .sent peerId))
  | giveUpDirect {request} {queue} {peerId : PeerId} (first : self.queue = request :: queue)
      (kind : request.kind = .direct) (dialing : self.calls request.call = .dialing peerId)
      (noRelay : relayPeers.isEmpty = true) :
      ConnectMove relayPeers strategy self
        ((self.take request queue).leave request.call peerId (.returned peerId (.ok [])))
  | waitDirect {request} {queue} {peerId : PeerId} {untilDirect : Bool}
      (first : self.queue = request :: queue) (kind : request.kind = .direct)
      (dialing : self.calls request.call = .dialing peerId) :
      ConnectMove relayPeers strategy self
        ((self.take request queue).setCall request.call (.polling peerId untilDirect))
  | waitBoth {request} {queue} {peerId : PeerId} {untilDirect : Bool}
      (first : self.queue = request :: queue) (kind : request.kind = .direct)
      (dialing : self.calls request.call = .dialing peerId)
      (hasRelay : relayPeers.isEmpty = false) :
      ConnectMove relayPeers strategy self
        (((self.take request queue).setRelayTask request.call (.scheduled peerId)).setCall
          request.call (.polling peerId untilDirect))
  | answerRelay {request} {queue} {peerId : PeerId} {answer : DialAnswer}
      (first : self.queue = request :: queue) (kind : request.kind = .relay)
      (sent : self.relayTasks request.call = .sent peerId) :
      ConnectMove relayPeers strategy self
        ((self.take request queue).setRelayTask request.call
          (if answer.isErr then .failed else .submitted))
  | ignoreAnswer {request} {queue} (first : self.queue = request :: queue)
      (unasked : request.kind = .direct → ∀ peerId, self.calls request.call ≠ .dialing peerId) :
      ConnectMove relayPeers strategy self (self.take request queue)
  | changeState {state : ConnectView PeerId} :
      ConnectMove relayPeers strategy self { self with state }

section Moves

variable [DecidableEq PeerId] {relayPeers : RelayPeers PeerId}
  {strategy : ConnectionSelectionStrategy} {peerText : PeerId → String}
  {text : Multiaddr PeerId → String} {self next : Connects PeerId}

omit [DecidableEq PeerId] in
theorem Connects.connections_eq_nil_iff {peerId : PeerId} :
    self.connections strategy peerId = [] ↔ self.state.indexes.recordsForPeer peerId = [] := by
  have perm := @perm_sortByStrategy _ strategy (self.state.indexes.recordsForPeer peerId)
  unfold Connects.connections
  constructor
  · intro none
    rw [none] at perm
    exact perm.nil_eq.symm
  · intro none
    rw [none] at perm ⊢
    exact perm.eq_nil

theorem connectMove_planDial {call : CallId} {peerId : PeerId}
    (checked : self.calls call = .checked peerId) (now : SystemTime) :
    ConnectMove relayPeers strategy self
      (self.planDial relayPeers peerText text call peerId now) := by
  unfold Connects.planDial
  dsimp only
  split
  · split
    · next noRelay => exact .nothingToDial checked noRelay
    · next hasRelay => exact .relayOnly checked (Bool.eq_false_iff.mpr hasRelay)
  · next nonempty => exact .dialDirect checked nonempty

theorem connectMove_answer {request : DialRequest PeerId} {queue : List (DialRequest PeerId)}
    (first : self.queue = request :: queue) (answer : DialAnswer) :
    ConnectMove relayPeers strategy self
      ((self.take request queue).answer relayPeers request answer) := by
  unfold Connects.answer
  split
  · next direct =>
      split
      · next peerId dialing =>
          unfold Connects.afterDirectDial
          split
          · next failed =>
              exact .giveUpDirect first direct dialing (Bool.and_eq_true_iff.mp failed).2
          · dsimp only
            split
            · exact .waitDirect first direct dialing
            · next hasRelay => exact .waitBoth first direct dialing (Bool.eq_false_iff.mpr hasRelay)
      · next notDialing => exact .ignoreAnswer first fun _ => notDialing
  · next relay =>
      split
      · next peerId sent => exact .answerRelay first relay sent
      · exact .ignoreAnswer first fun direct => by rw [relay] at direct; cases direct

/-- Every step is one of these moves. -/
theorem connectMove_of_step {action : ConnectStep PeerId}
    (taken : self.step relayPeers strategy peerText text action = some next) :
    ConnectMove relayPeers strategy self next := by
  cases action with
  | connect call peerId =>
      simp only [Connects.step] at taken
      split at taken
      · next idle =>
          cases taken
          exact .connect idle
      · cases taken
  | acquire call =>
      simp only [Connects.step] at taken
      split at taken
      · next peerId waiting =>
          split at taken
          · next free =>
              cases taken
              exact .acquire waiting free
          · cases taken
      · cases taken
  | timeOut call =>
      simp only [Connects.step] at taken
      split at taken
      · next peerId waiting =>
          cases taken
          exact .timeOut waiting
      · cases taken
  | checkConnections call =>
      simp only [Connects.step] at taken
      split at taken
      · next peerId locked =>
          cases taken
          split
          · next none =>
              exact .foundNone locked
                (Connects.connections_eq_nil_iff.mp (List.isEmpty_iff.mp none))
          · next some => exact .found locked fun none => some (List.isEmpty_iff.mpr none)
      · cases taken
  | planDial call now =>
      simp only [Connects.step] at taken
      split at taken
      · next peerId checked =>
          cases taken
          exact connectMove_planDial checked now
      · cases taken
  | poll call deadlinePassed =>
      simp only [Connects.step] at taken
      split at taken
      · next peerId untilDirect polling =>
          cases taken
          split
          · exact .stopPolling polling
          · exact .stay
      · cases taken
  | finish call =>
      simp only [Connects.step] at taken
      split at taken
      · next peerId leaving =>
          cases taken
          exact .finish leaving
      · cases taken
  | drop call =>
      simp only [Connects.step] at taken
      split at taken
      · next peerId waiting =>
          cases taken
          exact .dropWaiting waiting
      · next peerId dialing =>
          cases taken
          exact .dropInside (Or.inl dialing)
      · next peerId untilDirect polling =>
          cases taken
          exact .dropInside (Or.inr ⟨untilDirect, polling⟩)
      · cases taken
  | wakeRelay call =>
      simp only [Connects.step] at taken
      split at taken
      · next peerId scheduled =>
          cases taken
          exact .wakeRelay scheduled
      · cases taken
  | sendRelay call =>
      simp only [Connects.step] at taken
      split at taken
      · next peerId isAborted awake =>
          cases taken
          unfold Connects.sendRelay
          dsimp only
          split
          · exact .failRelay awake
          · next some =>
              exact .sendRelay awake fun none => some (by simp [none])
      · cases taken
  | serve answer =>
      simp only [Connects.step] at taken
      split at taken
      · next request queue first =>
          cases taken
          exact connectMove_answer first answer
      · cases taken
  | changeState state =>
      cases taken
      exact .changeState

end Moves

end Fungi.Swarm
