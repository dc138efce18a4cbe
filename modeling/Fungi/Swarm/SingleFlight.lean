import Fungi.Lib.Locks
import Fungi.Swarm.Connect

/-!
# Single flight

What `connect` keeps while any number of calls run side by side: one live attempt for each peer, one
dial of each kind for each call, and no dial while the peer is connected.
-/

namespace Fungi.Swarm

open Fungi.Lib

variable {PeerId : Type}

/-! ## One call at a time -/

namespace ConnectCall

/-- The peer whose lock the call holds. -/
def inside : ConnectCall PeerId → Option PeerId
  | locked peerId | checked peerId | dialing peerId | polling peerId _ | leaving peerId =>
    some peerId
  | _ => none

/-- The peer that the call may have dialled directly. -/
def dialed : ConnectCall PeerId → Option PeerId
  | dialing peerId | polling peerId _ | leaving peerId | returned peerId (.ok _) | dropped peerId =>
      some peerId
  | _ => none

/-- The peer for which the call may have spawned a relay task. -/
def spawned : ConnectCall PeerId → Option PeerId
  | polling peerId _ | leaving peerId | returned peerId (.ok _) | dropped peerId => some peerId
  | _ => none

/-- The call has returned or been dropped. -/
def ended : ConnectCall PeerId → Bool
  | returned _ _ | dropped _ => true
  | _ => false

end ConnectCall

namespace Connects

/-- The peer whose lock the call holds. -/
def inside (self : Connects PeerId) (call : CallId) : Option PeerId := (self.calls call).inside

theorem inside_setCall (self : Connects PeerId) (call : CallId) (phase : ConnectCall PeerId) :
    (self.setCall call phase).inside = Function.update self.inside call phase.inside := by
  funext other
  by_cases same : other = call
  · subst same
    simp [inside]
  · simp [inside, same]

/-- The locks agree with where the calls are. -/
def Guarded (self : Connects PeerId) : Prop := Guards self.connectLocks self.inside

section Guarded

variable {self : Connects PeerId} {call : CallId} {peerId : PeerId} {phase : ConnectCall PeerId}

theorem inside_eq (isAt : self.calls call = phase) : self.inside call = phase.inside :=
  congrArg ConnectCall.inside isAt

/-- A call that neither takes nor drops a lock. -/
theorem Guarded.setCall (guarded : self.Guarded) (same : phase.inside = self.inside call) :
    (self.setCall call phase).Guarded := by
  unfold Guarded
  rw [inside_setCall, same, Function.update_eq_self]
  exact guarded

variable [DecidableEq PeerId]

theorem Guarded.leave (guarded : self.Guarded) (holds : self.inside call = some peerId)
    (outside : phase.inside = none) : (self.leave call peerId phase).Guarded := by
  have left := Guards.leave guarded holds
  rw [← outside, ← inside_setCall] at left
  exact left

theorem Guarded.enter (guarded : self.Guarded) (free : self.connectLocks peerId = none)
    (outside : self.inside call = none) (isInside : phase.inside = some peerId) :
    (self.enter call peerId phase).Guarded := by
  have entered := Guards.enter guarded peerId call free outside
  rw [← isInside, ← inside_setCall] at entered
  exact entered

theorem Guarded.move {relayPeers : RelayPeers PeerId} {strategy : ConnectionSelectionStrategy}
    {next : Connects PeerId} (guarded : self.Guarded)
    (moves : ConnectMove relayPeers strategy self next) : next.Guarded := by
  cases moves with
  | connect idle => exact guarded.setCall (inside_eq idle).symm
  | acquire waiting free =>
      exact guarded.enter free (inside_eq waiting) rfl
  | timeOut waiting => exact guarded.setCall (inside_eq waiting).symm
  | foundNone locked => exact guarded.setCall (inside_eq locked).symm
  | found locked => exact guarded.leave (inside_eq locked) rfl
  | nothingToDial checked => exact guarded.leave (inside_eq checked) rfl
  | relayOnly checked =>
      exact Guarded.setCall guarded (inside_eq checked).symm
  | dialDirect checked =>
      exact Guarded.setCall guarded (inside_eq checked).symm
  | stay => exact guarded
  | stopPolling polling => exact guarded.setCall (inside_eq polling).symm
  | finish leaving => exact Guarded.leave guarded (inside_eq leaving) rfl
  | dropWaiting waiting => exact guarded.setCall (inside_eq waiting).symm
  | dropInside awaits =>
      refine guarded.leave ?_ rfl
      rcases awaits with dialing | ⟨untilDirect, polling⟩
      · exact inside_eq dialing
      · exact inside_eq polling
  | wakeRelay | failRelay | sendRelay | answerRelay | ignoreAnswer | changeState => exact guarded
  | giveUpDirect first kind dialing =>
      exact Guarded.leave guarded (inside_eq dialing) rfl
  | waitDirect first kind dialing =>
      exact Guarded.setCall guarded (inside_eq dialing).symm
  | waitBoth first kind dialing =>
      exact Guarded.setCall guarded (inside_eq dialing).symm

end Guarded

end Connects

/-! ## What a call has asked for -/

/-- Whether the task may have sent its request. -/
def RelayDialTask.spent : RelayDialTask PeerId → Bool
  | .sent _ | .submitted | .failed | .aborted => true
  | _ => false

/-- The peer that a relay task is to dial. -/
def RelayDialTask.peer : RelayDialTask PeerId → Option PeerId
  | .scheduled peerId | .awake peerId _ | .sent peerId => some peerId
  | _ => Option.none

/-- A call, its relay task, the requests sent for it and those still in the queue. -/
structure CallSound (relayPeers : RelayPeers PeerId) (phase : ConnectCall PeerId)
    (task : RelayDialTask PeerId) (sent queued : List (DialRequest PeerId)) : Prop where
  direct : ∀ request ∈ sent, request.kind = .direct → phase.dialed = some request.peerId
  relay : ∀ request ∈ sent, request.kind = .relay →
    task.spent = true ∧ phase.spawned = some request.peerId
  spawned : task ≠ .none → relayPeers.isEmpty = false ∧
    ∃ peerId, phase.spawned = some peerId ∧ ∀ other ∈ task.peer, other = peerId
  once : (sent.map fun request => request.kind).Nodup
  awaited : ∀ request ∈ queued, request.kind = .direct →
    phase = .dialing request.peerId ∨ phase = .dropped request.peerId
  nonempty : ∀ request ∈ sent, request.addresses ≠ []
  errors : ∀ peerId error, phase = .returned peerId (.error error) →
    error = .dialTimeout peerId ∨ error = .noDialAddresses peerId ∧ relayPeers.isEmpty = true

theorem ConnectCall.dialed_of_spawned {phase : ConnectCall PeerId} {peerId : PeerId}
    (spawned : phase.spawned = some peerId) : phase.dialed = some peerId := by
  unfold ConnectCall.spawned at spawned
  unfold ConnectCall.dialed
  split at spawned
  · exact spawned
  · exact spawned
  · exact spawned
  · exact spawned
  · cases spawned

namespace CallSound

variable {relayPeers : RelayPeers PeerId} {phase next : ConnectCall PeerId}
  {task : RelayDialTask PeerId} {sent queued : List (DialRequest PeerId)} {peerId : PeerId}

theorem idle : CallSound relayPeers .idle .none [] [] where
  direct := by simp
  relay := by simp
  spawned absent := absurd rfl absent
  once := List.nodup_nil
  awaited := by simp
  nonempty := by simp
  errors := by simp

/-- A call that has not dialled has asked for nothing. -/
theorem fresh (sound : CallSound relayPeers phase task sent queued)
    (undialed : phase.dialed = none) : sent = [] ∧ task = .none := by
  have unspawned : phase.spawned = none := by
    cases spawned : phase.spawned with
    | none => rfl
    | some peerId =>
        rw [ConnectCall.dialed_of_spawned spawned] at undialed
        cases undialed
  constructor
  · apply List.eq_nil_iff_forall_not_mem.mpr
    intro request member
    cases kind : request.kind with
    | direct =>
        rw [sound.direct request member kind] at undialed
        cases undialed
    | relay =>
        rw [(sound.relay request member kind).2] at unspawned
        cases unspawned
  · by_contra spawned
    obtain ⟨-, peerId, isSpawned, -⟩ := sound.spawned spawned
    rw [isSpawned] at unspawned
    cases unspawned

/-- A call that moves on, or is dropped, while its requests stay as they are. -/
theorem follow (sound : CallSound relayPeers phase task sent queued)
    (dialed : ∀ peerId, phase.dialed = some peerId → next.dialed = some peerId)
    (spawned : ∀ peerId, phase.spawned = some peerId → next.spawned = some peerId)
    (awaited : ∀ peerId, phase = .dialing peerId ∨ phase = .dropped peerId →
      next = .dropped peerId)
    (errors : ∀ peerId error, next = .returned peerId (.error error) →
      error = .dialTimeout peerId ∨ error = .noDialAddresses peerId ∧ relayPeers.isEmpty = true) :
    CallSound relayPeers next task sent queued where
  direct request member direct := dialed _ (sound.direct request member direct)
  relay request member relay :=
    ⟨(sound.relay request member relay).1, spawned _ (sound.relay request member relay).2⟩
  spawned isSpawned := by
    obtain ⟨hasRelay, peerId, before, same⟩ := sound.spawned isSpawned
    exact ⟨hasRelay, peerId, spawned peerId before, same⟩
  once := sound.once
  awaited request member direct :=
    Or.inr (awaited _ (sound.awaited request member direct))
  nonempty := sound.nonempty
  errors := errors

/-- A relay task that moves on without a request. -/
theorem setTask {task' : RelayDialTask PeerId} (sound : CallSound relayPeers phase task sent queued)
    (spent : task.spent = true → task'.spent = true) (isSpawned : task' ≠ .none → task ≠ .none)
    (same : ∀ peerId ∈ task'.peer, peerId ∈ task.peer) :
    CallSound relayPeers phase task' sent queued where
  direct := sound.direct
  relay request member relay :=
    ⟨spent (sound.relay request member relay).1, (sound.relay request member relay).2⟩
  spawned spawned := by
    obtain ⟨hasRelay, peerId, before, only⟩ := sound.spawned (isSpawned spawned)
    exact ⟨hasRelay, peerId, before, fun other member => only other (same other member)⟩
  once := sound.once
  awaited := sound.awaited
  nonempty := sound.nonempty
  errors := sound.errors

/-- A call that waits or returns when its direct dial is answered. -/
theorem goOn (sound : CallSound relayPeers (.dialing peerId) task sent queued)
    (dialed : next.dialed = some peerId)
    (answered : ∀ request ∈ queued, request.kind ≠ .direct)
    (errors : ∀ peerId error, next ≠ .returned peerId (.error error)) :
    CallSound relayPeers next task sent queued where
  direct request member direct := by
    rw [dialed]
    exact sound.direct request member direct
  relay request member relay := nomatch (sound.relay request member relay).2
  spawned spawned := by
    obtain ⟨-, peerId, isSpawned, -⟩ := sound.spawned spawned
    cases isSpawned
  once := sound.once
  awaited request member direct := absurd direct (answered request member)
  nonempty := sound.nonempty
  errors peerId error returned := absurd returned (errors peerId error)

/-- An aborted task sends at most what it was about to send. -/
theorem abort (sound : CallSound relayPeers phase task sent queued) :
    CallSound relayPeers phase task.abort sent queued := by
  cases task with
  | none | submitted | failed | aborted => exact sound
  | scheduled => exact sound.setTask nofun (fun _ => nofun) nofun
  | awake => exact sound.setTask nofun (fun _ => nofun) (fun _ => id)
  | sent => exact sound.setTask (fun _ => rfl) (fun _ => nofun) nofun

/-- A call that spawns its relay task, having dialled directly or not. -/
theorem spawn {untilDirect : Bool} (sound : CallSound relayPeers phase task sent queued)
    (dialed : ∀ peerId', phase.dialed = some peerId' → peerId' = peerId)
    (unspawned : phase.spawned = none) (answered : ∀ request ∈ queued, request.kind ≠ .direct)
    (hasRelay : relayPeers.isEmpty = false) :
    CallSound relayPeers (.polling peerId untilDirect) (.scheduled peerId) sent queued where
  direct request member direct := by
    rw [dialed _ (sound.direct request member direct)]
    rfl
  relay request member relay := by
    rw [(sound.relay request member relay).2] at unspawned
    cases unspawned
  spawned _ := ⟨hasRelay, peerId, rfl, fun other member => (Option.some.inj member).symm⟩
  once := sound.once
  awaited request member direct := absurd direct (answered request member)
  nonempty := sound.nonempty
  errors _ _ returned := by cases returned

/-- A call that sends its direct dial. -/
theorem sendDirect {request : DialRequest PeerId} (isDirect : request.kind = .direct)
    (nonempty : request.addresses ≠ []) :
    CallSound relayPeers (.dialing request.peerId) .none [request] [request] where
  direct other member _ := by rw [List.mem_singleton.mp member]; rfl
  relay other member relay := by
    rw [List.mem_singleton.mp member, isDirect] at relay
    cases relay
  spawned absent := absurd rfl absent
  once := List.nodup_singleton _
  awaited other member _ := by rw [List.mem_singleton.mp member]; exact Or.inl rfl
  nonempty other member := by rwa [List.mem_singleton.mp member]
  errors _ _ returned := by cases returned

/-- A relay task that sends its request. -/
theorem sendRelay {request : DialRequest PeerId} {isAborted : Bool}
    (sound : CallSound relayPeers phase (.awake request.peerId isAborted) sent queued)
    (isRelay : request.kind = .relay) (nonempty : request.addresses ≠ []) :
    CallSound relayPeers phase (if isAborted then .aborted else .sent request.peerId)
      (sent ++ [request]) (queued ++ [request]) := by
  obtain ⟨hasRelay, peerId, spawned, only⟩ := sound.spawned (by simp)
  obtain rfl : request.peerId = peerId := only _ rfl
  have unsent : ∀ other ∈ sent, other.kind = .direct := by
    intro other member
    cases kind : other.kind with
    | direct => rfl
    | relay => cases (sound.relay other member kind).1
  have isSpent : (if isAborted then RelayDialTask.aborted
      else .sent request.peerId).spent = true := by
    cases isAborted with
    | false => rfl
    | true => rfl
  refine ⟨?_, ?_, ?_, ?_, ?_, ?_, sound.errors⟩
  · intro other member direct
    rcases List.mem_append.mp member with before | isNew
    · exact sound.direct other before direct
    · rw [List.mem_singleton.mp isNew, isRelay] at direct
      cases direct
  · intro other member relay
    rcases List.mem_append.mp member with before | isNew
    · rw [unsent other before] at relay
      cases relay
    · rw [List.mem_singleton.mp isNew]
      exact ⟨isSpent, spawned⟩
  · intro _
    refine ⟨hasRelay, request.peerId, spawned, fun other member => ?_⟩
    cases isAborted with
    | false => exact (Option.some.inj member).symm
    | true => cases member
  · rw [List.map_append, List.map_singleton, List.nodup_append]
    refine ⟨sound.once, List.nodup_singleton _, ?_⟩
    intro kind isBefore new isNew
    obtain ⟨other, member, rfl⟩ := List.mem_map.mp isBefore
    rw [List.mem_singleton.mp isNew, unsent other member, isRelay]
    decide
  · intro other member direct
    rcases List.mem_append.mp member with before | isNew
    · exact sound.awaited other before direct
    · rw [List.mem_singleton.mp isNew, isRelay] at direct
      cases direct
  · intro other member
    rcases List.mem_append.mp member with before | isNew
    · exact sound.nonempty other before
    · rwa [List.mem_singleton.mp isNew]

/-- The swarm takes the first request of a call from the queue. -/
theorem take {request : DialRequest PeerId}
    (sound : CallSound relayPeers phase task sent (request :: queued)) :
    CallSound relayPeers phase task sent queued where
  direct := sound.direct
  relay := sound.relay
  spawned := sound.spawned
  once := sound.once
  awaited other member := sound.awaited other (List.mem_cons_of_mem _ member)
  nonempty := sound.nonempty
  errors := sound.errors

/-- After its direct request a call has no other in the queue. -/
theorem answered {request : DialRequest PeerId}
    (sound : CallSound relayPeers phase task sent (request :: queued))
    (isSent : (request :: queued).Sublist sent) (direct : request.kind = .direct) :
    ∀ other ∈ queued, other.kind ≠ .direct := by
  have distinct := (isSent.map fun request => request.kind).nodup sound.once
  rw [List.map_cons, List.nodup_cons] at distinct
  intro other member isDirect
  apply distinct.1
  rw [direct, ← isDirect]
  exact List.mem_map_of_mem member

end CallSound

namespace Connects

section Requests

variable {self : Connects PeerId} {call other : CallId} {request : DialRequest PeerId}
  {queue : List (DialRequest PeerId)}

theorem sentFor_send (self : Connects PeerId) (request : DialRequest PeerId) :
    (self.send request).sentFor request.call = self.sentFor request.call ++ [request] := by
  simp [sentFor]

theorem sentFor_send_of_ne (isOther : other ≠ request.call) :
    (self.send request).sentFor other = self.sentFor other := by
  simp [sentFor, Ne.symm isOther]

theorem queuedFor_send (self : Connects PeerId) (request : DialRequest PeerId) :
    (self.send request).queuedFor request.call = self.queuedFor request.call ++ [request] := by
  simp [queuedFor]

theorem queuedFor_send_of_ne (isOther : other ≠ request.call) :
    (self.send request).queuedFor other = self.queuedFor other := by
  simp [queuedFor, Ne.symm isOther]

theorem sentFor_take (first : self.queue = request :: queue) :
    (self.take request queue).sentFor other = self.sentFor other := by
  rw [sentFor, take_requests self request first]
  rfl

theorem queuedFor_take (first : self.queue = request :: queue) :
    self.queuedFor request.call = request :: (self.take request queue).queuedFor request.call := by
  simp [queuedFor, first]

theorem queuedFor_take_of_ne (first : self.queue = request :: queue)
    (isOther : other ≠ request.call) :
    (self.take request queue).queuedFor other = self.queuedFor other := by
  simp [queuedFor, first, Ne.symm isOther]

theorem sublist_sentFor (self : Connects PeerId) (call : CallId) :
    (self.queuedFor call).Sublist (self.sentFor call) :=
  (List.sublist_append_right _ _).filter _

end Requests

/-- Every call is sound with its own requests. -/
def Sound (relayPeers : RelayPeers PeerId) (self : Connects PeerId) : Prop :=
  ∀ call, CallSound relayPeers (self.calls call) (self.relayTasks call) (self.sentFor call)
    (self.queuedFor call)

variable {relayPeers : RelayPeers PeerId} {self next : Connects PeerId}

/-- A step of one call leaves the others as they were. -/
theorem Sound.update (sound : self.Sound relayPeers) (call : CallId)
    (own : CallSound relayPeers (next.calls call) (next.relayTasks call) (next.sentFor call)
      (next.queuedFor call))
    (others : ∀ other ≠ call, next.calls other = self.calls other ∧
      next.relayTasks other = self.relayTasks other ∧ next.sentFor other = self.sentFor other ∧
        next.queuedFor other = self.queuedFor other) : next.Sound relayPeers := by
  intro other
  by_cases same : other = call
  · rw [same]
    exact own
  · obtain ⟨calls, tasks, sent, queued⟩ := others other same
    rw [calls, tasks, sent, queued]
    exact sound other

theorem Sound.take (sound : self.Sound relayPeers) {request : DialRequest PeerId}
    {queue : List (DialRequest PeerId)} (first : self.queue = request :: queue) :
    (self.take request queue).Sound relayPeers := by
  refine sound.update request.call ?_ fun other isOther =>
    ⟨rfl, rfl, sentFor_take first, queuedFor_take_of_ne first isOther⟩
  have own := sound request.call
  rw [queuedFor_take first] at own
  rw [sentFor_take first]
  exact own.take

theorem Sound.answered (sound : self.Sound relayPeers) {request : DialRequest PeerId}
    {queue : List (DialRequest PeerId)} (first : self.queue = request :: queue)
    (direct : request.kind = .direct) :
    ∀ other ∈ (self.take request queue).queuedFor request.call, other.kind ≠ .direct := by
  have own := sound request.call
  have isSent := self.sublist_sentFor request.call
  rw [queuedFor_take first] at own isSent
  exact own.answered isSent direct

theorem Sound.setCall (sound : self.Sound relayPeers) {call : CallId} {phase : ConnectCall PeerId}
    (own : CallSound relayPeers phase (self.relayTasks call) (self.sentFor call)
      (self.queuedFor call)) : (self.setCall call phase).Sound relayPeers := by
  refine sound.update call ?_ fun other isOther => ⟨by simp [isOther], rfl, rfl, rfl⟩
  rw [setCall_calls, Function.update_self]
  exact own

theorem Sound.setRelayTask (sound : self.Sound relayPeers) {call : CallId}
    {task : RelayDialTask PeerId} (own : CallSound relayPeers (self.calls call) task
      (self.sentFor call) (self.queuedFor call)) :
        (self.setRelayTask call task).Sound relayPeers := by
  refine sound.update call ?_ fun other isOther => ⟨rfl, by simp [isOther], rfl, rfl⟩
  rw [setRelayTask_relayTasks, Function.update_self]
  exact own

theorem Sound.setBoth (sound : self.Sound relayPeers) {call : CallId}
    {phase : ConnectCall PeerId} {task : RelayDialTask PeerId}
    (own : CallSound relayPeers phase task (self.sentFor call) (self.queuedFor call)) :
    ((self.setRelayTask call task).setCall call phase).Sound relayPeers := by
  refine sound.update call ?_ fun other isOther => ⟨by simp [isOther], by simp [isOther], rfl, rfl⟩
  rw [setCall_calls, setCall_relayTasks, setRelayTask_relayTasks, Function.update_self,
    Function.update_self]
  exact own

/-- A request is sent for a call, which moves on with its task. -/
theorem Sound.send (sound : self.Sound relayPeers) {request : DialRequest PeerId}
    (calls : ∀ other ≠ request.call, next.calls other = self.calls other)
    (tasks : ∀ other ≠ request.call, next.relayTasks other = self.relayTasks other)
    (requests : next.requests = (self.send request).requests)
    (queue : next.queue = (self.send request).queue)
    (own : CallSound relayPeers (next.calls request.call) (next.relayTasks request.call)
      (self.sentFor request.call ++ [request]) (self.queuedFor request.call ++ [request])) :
    next.Sound relayPeers := by
  have sent : ∀ other, next.sentFor other = (self.send request).sentFor other := by
    intro other
    rw [sentFor, requests]
    rfl
  have queued : ∀ other, next.queuedFor other = (self.send request).queuedFor other := by
    intro other
    rw [queuedFor, queue]
    rfl
  refine sound.update request.call ?_ fun other isOther =>
    ⟨calls other isOther, tasks other isOther, (sent other).trans (sentFor_send_of_ne isOther),
      (queued other).trans (queuedFor_send_of_ne isOther)⟩
  rw [sent, queued, sentFor_send, queuedFor_send]
  exact own

variable [DecidableEq PeerId] {strategy : ConnectionSelectionStrategy}

/-- Leaving changes the lock as well, which no call asks for. -/
theorem Sound.leave (sound : self.Sound relayPeers) {call : CallId} {peerId : PeerId}
    {phase : ConnectCall PeerId} (own : CallSound relayPeers phase (self.relayTasks call)
      (self.sentFor call) (self.queuedFor call)) :
    (self.leave call peerId phase).Sound relayPeers := sound.setCall own

theorem Sound.move (sound : self.Sound relayPeers)
    (moves : ConnectMove relayPeers strategy self next) : next.Sound relayPeers := by
  cases moves with
  | @connect call peerId idle =>
      have own := sound call
      rw [idle] at own
      exact sound.setCall (own.follow nofun nofun nofun nofun)
  | @acquire call peerId waiting =>
      have own := sound call
      rw [waiting] at own
      exact Sound.setCall sound (own.follow nofun nofun nofun nofun)
  | @timeOut call peerId waiting =>
      have own := sound call
      rw [waiting] at own
      refine sound.setCall (own.follow nofun nofun nofun ?_)
      rintro _ _ ⟨⟩
      exact Or.inl rfl
  | @foundNone call peerId locked =>
      have own := sound call
      rw [locked] at own
      exact sound.setCall (own.follow nofun nofun nofun nofun)
  | @found call peerId locked =>
      have own := sound call
      rw [locked] at own
      exact sound.leave (own.follow nofun nofun nofun nofun)
  | @nothingToDial call peerId checked noRelay =>
      have own := sound call
      rw [checked] at own
      refine sound.leave (own.follow nofun nofun nofun ?_)
      rintro _ _ ⟨⟩
      exact Or.inr ⟨rfl, noRelay⟩
  | @relayOnly call peerId checked hasRelay =>
      have own := sound call
      rw [checked] at own
      refine sound.setBoth (own.spawn nofun rfl ?_ hasRelay)
      intro request member direct
      exact (own.awaited request member direct).elim nofun nofun
  | @dialDirect call peerId addresses checked nonempty =>
      have own := sound call
      rw [checked] at own
      obtain ⟨unsent, noTask⟩ := own.fresh rfl
      have unqueued := self.sublist_sentFor call
      rw [unsent, List.sublist_nil] at unqueued
      refine @Sound.send _ _ self _ sound { call, kind := .direct, peerId, addresses } ?_ ?_ rfl
        rfl ?_
      · intro other isOther
        simp [isOther]
      · intro other _
        rfl
      · dsimp only
        rw [setCall_calls, Function.update_self, setCall_relayTasks, send_relayTasks, noTask,
          unsent,
          unqueued]
        exact @CallSound.sendDirect _ relayPeers { call, kind := .direct, peerId, addresses } rfl
          nonempty
  | stay => exact sound
  | @stopPolling call peerId untilDirect polling =>
      have own := sound call
      rw [polling] at own
      exact sound.setCall (own.follow (fun _ => id) (fun _ => id) nofun nofun)
  | @finish call peerId leaving =>
      have own := sound call
      rw [leaving] at own
      exact sound.setBoth ((own.abort).follow (fun _ => id) (fun _ => id) nofun nofun)
  | @dropWaiting call peerId waiting =>
      have own := sound call
      rw [waiting] at own
      exact sound.setCall (own.follow nofun nofun nofun nofun)
  | @dropInside call peerId awaits =>
      have own := sound call
      rcases awaits with dialing | ⟨untilDirect, polling⟩
      · rw [dialing] at own
        exact sound.leave (own.follow (fun _ => id) nofun (by simp) nofun)
      · rw [polling] at own
        exact sound.leave (own.follow (fun _ => id) (fun _ => id) (by simp) nofun)
  | @wakeRelay call peerId scheduled =>
      have own := sound call
      rw [scheduled] at own
      exact sound.setRelayTask (own.setTask nofun (fun _ => nofun) (fun _ => id))
  | @failRelay call peerId isAborted awake =>
      have own := sound call
      rw [awake] at own
      refine sound.setRelayTask (own.setTask nofun (fun _ => nofun) ?_)
      cases isAborted with
      | false => nofun
      | true => nofun
  | @sendRelay call peerId isAborted addresses awake nonempty =>
      have own := sound call
      rw [awake] at own
      refine @Sound.send _ _ self _ sound { call, kind := .relay, peerId, addresses } ?_ ?_ rfl
        rfl ?_
      · intro other _
        rfl
      · intro other isOther
        simp [isOther]
      · dsimp only
        rw [setRelayTask_calls, send_calls, setRelayTask_relayTasks, Function.update_self]
        exact @CallSound.sendRelay _ _ _ _ _ { call, kind := .relay, peerId, addresses } _ own rfl
          nonempty
  | @giveUpDirect request queue peerId first kind dialing noRelay =>
      have own := sound.take first request.call
      rw [take_calls, dialing] at own
      exact (sound.take first).leave (own.goOn rfl (sound.answered first kind) nofun)
  | @waitDirect request queue peerId untilDirect first kind dialing =>
      have own := sound.take first request.call
      rw [take_calls, dialing] at own
      exact (sound.take first).setCall (own.goOn rfl (sound.answered first kind) nofun)
  | @waitBoth request queue peerId untilDirect first kind dialing hasRelay =>
      have own := sound.take first request.call
      rw [take_calls, dialing] at own
      exact (sound.take first).setBoth
        (own.spawn (fun _ => Eq.symm ∘ Option.some.inj) rfl (sound.answered first kind) hasRelay)
  | @answerRelay request queue peerId answer first kind sent =>
      have own := sound.take first request.call
      rw [take_relayTasks, sent] at own
      refine (sound.take first).setRelayTask (own.setTask (fun _ => ?_) (fun _ => nofun) ?_)
      · split
        · rfl
        · rfl
      · split
        · nofun
        · nofun
  | ignoreAnswer first => exact sound.take first
  | changeState => exact sound

/-! ## One live attempt for each peer -/

/-- What holds of the calls at any time. -/
structure SingleFlight (relayPeers : RelayPeers PeerId) (connects : Connects PeerId) : Prop where
  /-- One call at a time is past the lock of a peer. -/
  exclusive : ∀ call other peerId, connects.inside call = some peerId →
    connects.inside other = some peerId → call = other
  /-- While it is, every other call that has dialled the peer has ended. -/
  othersEnded : ∀ call peerId, connects.inside call = some peerId → ∀ request ∈ connects.requests,
    request.peerId = peerId → request.call ≠ call → (connects.calls request.call).ended = true
  /-- A direct dial in the queue is awaited by that call, or its call was dropped. -/
  awaited : ∀ request ∈ connects.queue, request.kind = .direct →
    connects.inside request.call = some request.peerId ∨
      connects.calls request.call = .dropped request.peerId
  /-- A call dials once directly and once over relays, and only where there are relays. -/
  once : ∀ call kind, (connects.requests.filter fun request =>
    request.call = call ∧ request.kind = kind).length ≤ 1
  addresses : ∀ request ∈ connects.requests, request.addresses ≠ []
  relays : ∀ request ∈ connects.requests, request.kind = .relay → relayPeers.isEmpty = false
  /-- A call that fails has dialled nothing. -/
  failed : ∀ call peerId error, connects.calls call = .returned peerId (.error error) →
    (error = .dialTimeout peerId ∨ error = .noDialAddresses peerId ∧ relayPeers.isEmpty = true) ∧
      ∀ request ∈ connects.requests, request.call ≠ call
  /-- A call can enter as soon as no other one is inside. -/
  enters : ∀ call peerId, connects.calls call = .waiting peerId →
    (∀ other, connects.inside other ≠ some peerId) → connects.connectLocks peerId = none

omit [DecidableEq PeerId] in
theorem mem_sentFor {request : DialRequest PeerId} (member : request ∈ self.requests) :
    request ∈ self.sentFor request.call :=
  List.mem_filter.mpr ⟨member, decide_eq_true rfl⟩

omit [DecidableEq PeerId] in
/-- A request is of a call that has dialled its peer. -/
theorem Sound.dialed (sound : self.Sound relayPeers) {request : DialRequest PeerId}
    (member : request ∈ self.requests) :
    (self.calls request.call).dialed = some request.peerId := by
  have isSent := mem_sentFor member
  cases kind : request.kind with
  | direct => exact (sound request.call).direct request isSent kind
  | relay =>
      exact ConnectCall.dialed_of_spawned ((sound request.call).relay request isSent kind).2

omit [DecidableEq PeerId] in
theorem inside_or_ended {call : CallId} {peerId : PeerId}
    (dialed : (self.calls call).dialed = some peerId) :
    self.inside call = some peerId ∨ (self.calls call).ended = true := by
  unfold inside
  cases phase : self.calls call with
  | dialing | polling | leaving =>
      rw [phase] at dialed
      exact Or.inl dialed
  | returned | dropped => exact Or.inr rfl
  | idle | waiting | locked | checked =>
      rw [phase] at dialed
      cases dialed

omit [DecidableEq PeerId] in
theorem singleFlight_of_sound (guarded : self.Guarded) (sound : self.Sound relayPeers) :
    SingleFlight relayPeers self where
  exclusive call other peerId := Guards.exclusive guarded
  othersEnded call peerId inside request member ofPeer isOther := by
    have dialed := sound.dialed member
    rw [ofPeer] at dialed
    rcases inside_or_ended dialed with alsoInside | ended
    · exact absurd (Guards.exclusive guarded alsoInside inside) isOther
    · exact ended
  awaited request member direct := by
    have queued : request ∈ self.queuedFor request.call :=
      List.mem_filter.mpr ⟨member, decide_eq_true rfl⟩
    rcases (sound request.call).awaited request queued direct with dialing | dropped
    · exact Or.inl (inside_eq dialing)
    · exact Or.inr dropped
  once call kind := by
    have distinct := List.nodup_iff_count_le_one.mp (sound call).once kind
    rw [List.count_eq_length_filter, List.filter_map, List.length_map, sentFor,
      List.filter_filter] at distinct
    refine le_trans (le_of_eq (congrArg List.length (List.filter_congr ?_))) distinct
    intro request _
    rw [Function.comp_apply, Bool.decide_and, beq_eq_decide, Bool.and_comm]
  addresses request member := (sound request.call).nonempty request (mem_sentFor member)
  relays request member relay := by
    have own := sound request.call
    apply (own.spawned ?_).1
    intro none
    have spent := (own.relay request (mem_sentFor member) relay).1
    rw [none] at spent
    cases spent
  failed call peerId error returned := by
    have own := sound call
    refine ⟨own.errors peerId error returned, fun request member isCall => ?_⟩
    have dialed := sound.dialed member
    rw [isCall, returned] at dialed
    cases dialed
  enters call peerId _ outside := (Guards.free_iff guarded peerId).mpr outside

section Runs

variable {peerText : PeerId → String} {text : Multiaddr PeerId → String}

/-- Whatever calls start on whatever peers, in whatever order they, their relay tasks and the swarm
take their steps, whichever of them are dropped and whatever becomes of the state meanwhile: one
attempt at a time is live for each peer, and each call dials at most once each way. -/
theorem singleFlight_of_run {state : ConnectView PeerId} {actions : List (ConnectStep PeerId)}
    {final : Connects PeerId}
    (reached : run (step relayPeers strategy peerText text) (start state) actions = some final) :
    SingleFlight relayPeers final := by
  have kept : final.Guarded ∧ final.Sound relayPeers := by
    refine run_induction (motive := fun _ state => state.Guarded ∧ state.Sound relayPeers) ?_ ?_
      reached
    · exact ⟨Guards.initially (fun _ => rfl) fun _ => rfl, fun _ => CallSound.idle⟩
    · rintro actions before action after - ⟨guarded, sound⟩ taken
      have moves := connectMove_of_step taken
      exact ⟨guarded.move moves, sound.move moves⟩
  exact singleFlight_of_sound kept.1 kept.2

end Runs

/-! ## A connected peer is not dialled -/

/-- The relay task that has yet to send its request. -/
def pendingRelay (self : Connects PeerId) (call : CallId) : Option PeerId :=
  match self.relayTasks call with
  | .scheduled peerId | .awake peerId _ => some peerId
  | _ => none

/-- No call is past its check for the peer, and no relay task is about to dial it. -/
structure Quiet (connects : Connects PeerId) (peerId : PeerId) : Prop where
  calls : ∀ call, connects.inside call = some peerId → connects.calls call = .locked peerId
  relayTasks : ∀ call, connects.pendingRelay call ≠ some peerId

/-- The requests for a peer. -/
def requestsTo (self : Connects PeerId) (peerId : PeerId) :
    List (DialRequest PeerId) :=
  self.requests.filter fun request => request.peerId = peerId

/-- How a call ends that never got the lock, or found its peer connected: it answers with the
connections that one of the states in between records for the peer, sorted by the strategy. -/
def Reused (strategy : ConnectionSelectionStrategy) (between : Connects PeerId → Prop)
    (peerId : PeerId)
    (result : Except (ConnectError PeerId) (List (ConnectionRecord PeerId))) : Prop :=
  result = .error (.dialTimeout peerId) ∨ ∃ state, between state ∧
    state.state.indexes.recordsForPeer peerId ≠ [] ∧
      result = .ok (sortByStrategy strategy (state.state.indexes.recordsForPeer peerId))

/-- Nothing is dialled between two states, and the calls that end find the connections of the
peer. -/
structure Undisturbed (strategy : ConnectionSelectionStrategy) (between : Connects PeerId → Prop)
    (peerId : PeerId) (before after : Connects PeerId) : Prop where
  quiet : after.Quiet peerId
  requests : after.requestsTo peerId = before.requestsTo peerId
  results : ∀ call result, after.calls call = .returned peerId result →
    before.calls call = .returned peerId result ∨ Reused strategy between peerId result

namespace Undisturbed

variable {between : Connects PeerId → Prop} {before state after : Connects PeerId}
  {peerId : PeerId} {call : CallId}

theorem refl (quiet : before.Quiet peerId) : Undisturbed strategy between peerId before before :=
  ⟨quiet, rfl, fun _ _ => Or.inl⟩

theorem mono {further : Connects PeerId → Prop}
    (undisturbed : Undisturbed strategy between peerId before after)
    (more : ∀ state, between state → further state) :
    Undisturbed strategy further peerId before after where
  quiet := undisturbed.quiet
  requests := undisturbed.requests
  results call result returned := by
    rcases undisturbed.results call result returned with isOld | inVain |
      ⟨state, inBetween, connected, found⟩
    · exact Or.inl isOld
    · exact Or.inr (Or.inl inVain)
    · exact Or.inr (Or.inr ⟨state, more state inBetween, connected, found⟩)

theorem setCall {phase : ConnectCall PeerId}
    (undisturbed : Undisturbed strategy between peerId before after)
    (quiet : phase.inside = some peerId → phase = .locked peerId)
    (reused : ∀ result, phase = .returned peerId result → Reused strategy between peerId result) :
    Undisturbed strategy between peerId before (after.setCall call phase) where
  quiet :=
    { calls := by
        intro other inside
        rw [inside_setCall] at inside
        rw [setCall_calls]
        rcases of_update inside with ⟨rfl, isInside⟩ | ⟨isOther, isInside⟩
        · rw [Function.update_self]
          exact quiet isInside
        · rw [Function.update_of_ne isOther]
          exact undisturbed.quiet.calls other isInside
      relayTasks := undisturbed.quiet.relayTasks }
  requests := undisturbed.requests
  results other result returned := by
    rw [setCall_calls] at returned
    rcases of_update returned with ⟨rfl, isNew⟩ | ⟨-, isOld⟩
    · exact Or.inr (reused result isNew)
    · exact undisturbed.results other result isOld

theorem setRelayTask {task : RelayDialTask PeerId}
    (undisturbed : Undisturbed strategy between peerId before after)
    (quiet : (after.setRelayTask call task).pendingRelay call ≠ some peerId) :
    Undisturbed strategy between peerId before (after.setRelayTask call task) where
  quiet :=
    { calls := undisturbed.quiet.calls
      relayTasks := by
        intro other pending
        by_cases same : other = call
        · rw [same] at pending
          exact quiet pending
        · apply undisturbed.quiet.relayTasks other
          unfold pendingRelay at pending ⊢
          rwa [setRelayTask_relayTasks, Function.update_of_ne same] at pending }
  requests := undisturbed.requests
  results := undisturbed.results

theorem send {request : DialRequest PeerId}
    (undisturbed : Undisturbed strategy between peerId before after)
    (isOther : request.peerId ≠ peerId) :
    Undisturbed strategy between peerId before (after.send request) where
  quiet := ⟨undisturbed.quiet.calls, undisturbed.quiet.relayTasks⟩
  requests := by
    rw [← undisturbed.requests]
    simp [requestsTo, isOther]
  results := undisturbed.results

theorem take {request : DialRequest PeerId} {queue : List (DialRequest PeerId)}
    (undisturbed : Undisturbed strategy between peerId before after)
    (first : after.queue = request :: queue) :
    Undisturbed strategy between peerId before (after.take request queue) where
  quiet := ⟨undisturbed.quiet.calls, undisturbed.quiet.relayTasks⟩
  requests := by
    rw [← undisturbed.requests, requestsTo, take_requests after request first]
    rfl
  results := undisturbed.results

omit [DecidableEq PeerId] in
/-- A call inside another peer's lock is not inside this one's. -/
theorem ne_of_inside {other : PeerId} {phase : ConnectCall PeerId} (quiet : before.Quiet peerId)
    (isAt : before.calls call = phase) (inside : phase.inside = some other)
    (notLocked : phase ≠ .locked other) : other ≠ peerId := by
  rintro rfl
  exact notLocked (isAt.symm.trans (quiet.calls call ((inside_eq isAt).trans inside)))

theorem enter {other : PeerId} {phase : ConnectCall PeerId}
    (undisturbed : Undisturbed strategy between peerId before after)
    (quiet : phase.inside = some peerId → phase = .locked peerId)
    (reused : ∀ result, phase = .returned peerId result → Reused strategy between peerId result) :
    Undisturbed strategy between peerId before (after.enter call other phase) :=
  have moved := undisturbed.setCall quiet reused
  ⟨⟨moved.quiet.calls, moved.quiet.relayTasks⟩, moved.requests, moved.results⟩

theorem leave {other : PeerId} {phase : ConnectCall PeerId}
    (undisturbed : Undisturbed strategy between peerId before after)
    (quiet : phase.inside = some peerId → phase = .locked peerId)
    (reused : ∀ result, phase = .returned peerId result → Reused strategy between peerId result) :
    Undisturbed strategy between peerId before (after.leave call other phase) :=
  have moved := undisturbed.setCall quiet reused
  ⟨⟨moved.quiet.calls, moved.quiet.relayTasks⟩, moved.requests, moved.results⟩

/-- Where the peer is connected, a step dials it for no call. -/
theorem move (undisturbed : Undisturbed strategy between peerId before state)
    (inBetween : between state) (connected : state.state.indexes.recordsForPeer peerId ≠ [])
    (moves : ConnectMove relayPeers strategy state after) :
    Undisturbed strategy between peerId before after := by
  have quiet := undisturbed.quiet
  cases moves with
  | connect idle => exact undisturbed.setCall nofun nofun
  | @acquire call other waiting free =>
      refine undisturbed.enter (fun inside => ?_) nofun
      rw [Option.some.inj inside]
  | @timeOut call other waiting =>
      refine undisturbed.setCall nofun ?_
      rintro _ ⟨⟩
      exact Or.inl rfl
  | @foundNone call other locked none =>
      refine undisturbed.setCall (fun inside => ?_) nofun
      rw [Option.some.inj inside] at none
      exact absurd none connected
  | @found call other locked some =>
      refine undisturbed.leave nofun ?_
      rintro _ ⟨⟩
      exact Or.inr ⟨state, inBetween, connected, rfl⟩
  | @nothingToDial call other checked noRelay =>
      have isOther := ne_of_inside quiet checked rfl nofun
      refine undisturbed.leave nofun ?_
      rintro _ ⟨⟩
      exact absurd rfl isOther
  | @relayOnly call other checked hasRelay =>
      have isOther := ne_of_inside quiet checked rfl nofun
      refine (undisturbed.setRelayTask ?_).setCall (fun inside => ?_) nofun
      · simpa [pendingRelay] using isOther
      · exact absurd (Option.some.inj inside) isOther
  | @dialDirect call other addresses checked nonempty =>
      have isOther := ne_of_inside quiet checked rfl nofun
      refine (undisturbed.send isOther).setCall (fun inside => ?_) nofun
      exact absurd (Option.some.inj inside) isOther
  | stay => exact undisturbed
  | @stopPolling call other untilDirect polling =>
      have isOther := ne_of_inside quiet polling rfl nofun
      exact undisturbed.setCall (fun inside => absurd (Option.some.inj inside) isOther) nofun
  | @finish call other leaving =>
      have isOther := ne_of_inside quiet leaving rfl nofun
      refine (undisturbed.setRelayTask ?_).leave nofun ?_
      · have before := quiet.relayTasks call
        unfold pendingRelay at before ⊢
        rw [setRelayTask_relayTasks, Function.update_self]
        cases task : state.relayTasks call with
        | awake =>
            rw [task] at before
            exact before
        | none | scheduled | sent | submitted | failed | aborted => nofun
      · rintro _ ⟨⟩
        exact absurd rfl isOther
  | dropWaiting waiting => exact undisturbed.setCall nofun nofun
  | dropInside awaits => exact undisturbed.leave nofun nofun
  | @wakeRelay call other scheduled =>
      have before := quiet.relayTasks call
      unfold pendingRelay at before
      rw [scheduled] at before
      refine undisturbed.setRelayTask ?_
      simpa [pendingRelay] using before
  | @failRelay call other isAborted awake =>
      refine undisturbed.setRelayTask ?_
      cases isAborted with
      | false => simp [pendingRelay]
      | true => simp [pendingRelay]
  | @sendRelay call other isAborted addresses awake nonempty =>
      have before := quiet.relayTasks call
      unfold pendingRelay at before
      rw [awake] at before
      have isOther : other ≠ peerId := fun same => before (congrArg some same)
      refine (undisturbed.send isOther).setRelayTask ?_
      cases isAborted with
      | false => simp [pendingRelay]
      | true => simp [pendingRelay]
  | @giveUpDirect request queue other first kind dialing noRelay =>
      have isOther := ne_of_inside quiet dialing rfl nofun
      refine (undisturbed.take first).leave nofun ?_
      rintro _ ⟨⟩
      exact absurd rfl isOther
  | @waitDirect request queue other untilDirect first kind dialing =>
      have isOther := ne_of_inside quiet dialing rfl nofun
      exact (undisturbed.take first).setCall
        (fun inside => absurd (Option.some.inj inside) isOther) nofun
  | @waitBoth request queue other untilDirect first kind dialing hasRelay =>
      have isOther := ne_of_inside quiet dialing rfl nofun
      refine ((undisturbed.take first).setRelayTask ?_).setCall
        (fun inside => absurd (Option.some.inj inside) isOther) nofun
      simpa [pendingRelay] using isOther
  | @answerRelay request queue other answer first kind sent =>
      refine (undisturbed.take first).setRelayTask ?_
      cases answer.isErr with
      | false => simp [pendingRelay]
      | true => simp [pendingRelay]
  | ignoreAnswer first => exact undisturbed.take first
  | changeState => exact ⟨⟨quiet.calls, quiet.relayTasks⟩, undisturbed.requests,
    undisturbed.results⟩

end Undisturbed

section Runs

variable {peerText : PeerId → String} {text : Multiaddr PeerId → String}

/-- From any state in which no call is past its check for a peer: as long as the peer is connected
whenever a step is taken, no burst of calls dials it, and each call that returns meanwhile answers
with the connections of the peer recorded in a state of the run, sorted by the strategy, unless it
waited for the lock in vain. -/
theorem undisturbed_of_connected {peerId : PeerId} {before after : Connects PeerId}
    {actions : List (ConnectStep PeerId)} (quiet : before.Quiet peerId)
    (connected : EveryStep (step relayPeers strategy peerText text)
      (fun state _ => state.state.indexes.recordsForPeer peerId ≠ []) before actions)
    (reached : run (step relayPeers strategy peerText text) before actions = some after) :
    Undisturbed strategy (Visits (step relayPeers strategy peerText text) before actions) peerId
      before after := by
  revert connected
  refine run_induction (motive := fun actions after =>
    EveryStep (step relayPeers strategy peerText text)
      (fun state _ => state.state.indexes.recordsForPeer peerId ≠ []) before actions →
    Undisturbed strategy (Visits (step relayPeers strategy peerText text) before actions) peerId
      before after) ?_ ?_ reached
  · intro _
    exact Undisturbed.refl quiet
  · intro actions state action next reached undisturbed taken connected
    obtain ⟨earlier, now⟩ := (everyStep_snoc reached action).mp connected
    have onward := (undisturbed earlier).mono fun _ visits => visits.snoc action
    exact onward.move ((Visits.of_reached reached).snoc action) now (connectMove_of_step taken)

end Runs

end Connects

/-! ## A burst of calls -/

/-- One address of a peer is known, and no connection to it is open. -/
def burstView : ConnectView Nat where
  indexes := .empty
  peerAddresses :=
    [{ peerId := 7
       address := [.ip4 0xC0A80107, .tcp 4001]
       transportKind := .tcp
       source := .identify
       firstObservedAt := 0
       lastObservedAt := 0
       expiredAt := none
       observationCount := 1 }]
  connectivity := { relayEndpointStatuses := [] }

/-- A connection to the peer. -/
def burstRecord : ConnectionRecord Nat where
  peerId := 7
  connectionId := 1
  direction := .outbound
  remoteAddr := [.ip4 0xC0A80107, .tcp 4001]
  establishedAt := 0
  governance := {}

/-- There are no relays. -/
def burstRelays : RelayPeers Nat := { groups := [], allEndpoints := [] }

/-- The steps of the calls in `burst`. -/
def burstStep : Connects Nat → ConnectStep Nat → Option (Connects Nat) :=
  Connects.step burstRelays .preferDirect (fun _ => "7") fun _ => "/ip4/192.168.1.7/tcp/4001"

/-- Two calls come together; the first one dials and is awaited. -/
def burst : List (ConnectStep Nat) :=
  [.connect 1 7, .connect 2 7, .acquire 1, .checkConnections 1, .planDial 1 0]

theorem singleFlight_of_run_burst : ∃ final, run burstStep (.start burstView) burst = some final ∧
    final.requests.length = 1 ∧ Connects.SingleFlight burstRelays final := by
  obtain ⟨final, reached, dialled⟩ := (Option.any_eq_true _ _).mp
    (by decide +kernel : (run burstStep (.start burstView) burst).any
      (fun final => final.requests.length = 1))
  exact ⟨final, reached, of_decide_eq_true dialled, Connects.singleFlight_of_run reached⟩

/-- The peer is connected, and two calls come together. -/
def reuse : List (ConnectStep Nat) :=
  [.connect 1 7, .connect 2 7, .acquire 1, .checkConnections 1, .acquire 2, .checkConnections 2]

/-- The peer is connected. -/
def reuseView : ConnectView Nat :=
  { burstView with indexes := ConnectionIndexes.empty.insert burstRecord }

theorem undisturbed_of_connected_reuse : ∃ final,
    run burstStep (.start reuseView) reuse = some final ∧
    (final.calls 1).ended = true ∧ (final.calls 2).ended = true ∧
      Connects.Undisturbed .preferDirect (Visits burstStep (.start reuseView) reuse) 7
        (.start reuseView) final := by
  obtain ⟨final, reached, ended⟩ := (Option.any_eq_true _ _).mp
    (by decide +kernel : (run burstStep (.start reuseView) reuse).any
      (fun final => (final.calls 1).ended && (final.calls 2).ended))
  obtain ⟨first, second⟩ := Bool.and_eq_true_iff.mp ended
  have quiet : (Connects.start reuseView).Quiet 7 := ⟨nofun, nofun⟩
  exact ⟨final, reached, first, second,
    Connects.undisturbed_of_connected quiet (by decide +kernel) reached⟩

end Fungi.Swarm
