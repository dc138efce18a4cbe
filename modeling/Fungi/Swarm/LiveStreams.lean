import Fungi.Swarm.Governance

/-!
# Live streams under governance

The stream table of `crates/swarm/src/state/registry.rs`, `open_stream` of
`crates/swarm/src/libp2p/control.rs` and the streams that remote peers open and
`crates/daemon/src/controls/tcp_tunneling/port_listen.rs` serves.  Governance counts the streams
of the table, which a stream opened here enters after it has been opened, and one opened by the
remote peer never.
-/

namespace Fungi.Swarm

open Fungi.Lib

variable {PeerId StreamProtocol : Type}

/-- A stream that is observed. -/
structure ObservedStreamEntry (PeerId StreamProtocol : Type) where
  streamId : Nat
  peerId : PeerId
  connectionId : ConnectionId
  protocol : StreamProtocol

/-- The indexes by protocol and by peer only serve diagnostics. -/
structure StreamObservationState (PeerId StreamProtocol : Type) where
  nextStreamId : Nat
  streamsById : Nat → Option (ObservedStreamEntry PeerId StreamProtocol)
  streamIdsByConnection : ConnectionId → List Nat

namespace StreamObservationState

/-- No stream is observed. -/
def empty : StreamObservationState PeerId StreamProtocol :=
  { nextStreamId := 0, streamsById := fun _ => none, streamIdsByConnection := fun _ => [] }

/-- The id of the handle that it answers, and the table. -/
def trackOutboundStreamOpened (self : StreamObservationState PeerId StreamProtocol)
    (peerId : PeerId) (connectionId : ConnectionId) (protocol : StreamProtocol) :
    Nat × StreamObservationState PeerId StreamProtocol :=
  let streamId := self.nextStreamId + 1
  (streamId,
    { nextStreamId := streamId
      streamsById := Function.update self.streamsById streamId
        (some { streamId, peerId, connectionId, protocol })
      streamIdsByConnection := Function.update self.streamIdsByConnection connectionId
        (self.streamIdsByConnection connectionId ++ [streamId]) })

/-- The streams of a connection. -/
def activeStreamsByConnection (self : StreamObservationState PeerId StreamProtocol)
    (connectionId : ConnectionId) : List (ObservedStreamEntry PeerId StreamProtocol) :=
  (self.streamIdsByConnection connectionId).filterMap self.streamsById

/-- A closed stream leaves both maps. -/
def markStreamClosed (self : StreamObservationState PeerId StreamProtocol) (streamId : Nat) :
    StreamObservationState PeerId StreamProtocol :=
  match self.streamsById streamId with
  | some entry =>
      { self with
        streamsById := Function.update self.streamsById streamId none
        streamIdsByConnection := Function.update self.streamIdsByConnection entry.connectionId
          ((self.streamIdsByConnection entry.connectionId).filter fun id => id ≠ streamId) }
  | none => self

/-- A closed connection takes its streams with it. -/
def closeAllStreamsForConnection (self : StreamObservationState PeerId StreamProtocol)
    (connectionId : ConnectionId) : StreamObservationState PeerId StreamProtocol :=
  (self.streamIdsByConnection connectionId).foldl markStreamClosed self

end StreamObservationState

/-- Whether this node has opened a stream or been handed it. -/
inductive StreamOrigin where
  | opened
  | delivered
  deriving DecidableEq

/-- A stream and the handle that observes it, if it has one. -/
structure ApplicationStream where
  origin : StreamOrigin
  connectionId : ConnectionId
  alive : Bool
  observation : Option Nat
  deriving DecidableEq

/-- A governed swarm with the streams on its connections. -/
structure StreamedSwarm (PeerId StreamProtocol : Type) where
  governor : Governor PeerId
  used : ConnectionId → Bool
  observed : StreamObservationState PeerId StreamProtocol
  streams : List ApplicationStream

/-- A stream is named by its place in the order in which the streams came to life. -/
inductive StreamedStep (PeerId StreamProtocol : Type) where
  | tick (order : List PeerId)
  | govern (strategy : ConnectionSelectionStrategy)
  | connectionEstablished (record : ConnectionRecord PeerId)
  | connectionClosed (connectionId : ConnectionId)
  | setClock (now : SystemTime)
  | streamOpened (connectionId : ConnectionId)
  | streamTracked (stream : Nat) (peerId : PeerId) (protocol : StreamProtocol)
  | streamDelivered (connectionId : ConnectionId)
  | observationDropped (stream : Nat)
  | streamEnded (stream : Nat)

namespace StreamedSwarm

variable [DecidableEq PeerId]

/-- A swarm without connections or streams. -/
def start (now : SystemTime) : StreamedSwarm PeerId StreamProtocol :=
  { governor := { indexes := .empty, now, task := .waiting, pass := 0, history := [] }
    used := fun _ => false
    observed := .empty
    streams := [] }

/-- What a step does, where it is possible. -/
def step (self : StreamedSwarm PeerId StreamProtocol) :
    StreamedStep PeerId StreamProtocol → Option (StreamedSwarm PeerId StreamProtocol)
  | .tick order => (self.governor.tick order).map fun governor => { self with governor }
  | .govern strategy =>
      let activeStreams := fun connectionId =>
        (self.observed.activeStreamsByConnection connectionId).length
      (self.governor.govern strategy activeStreams).map fun governor => { self with governor }
  | .connectionEstablished record =>
      if self.used record.connectionId then none
      else
        let record := { record with establishedAt := self.governor.now, governance := {} }
        some
          { self with
            governor := { self.governor with indexes := self.governor.indexes.insert record }
            used := Function.update self.used record.connectionId true }
  | .connectionClosed connectionId =>
      -- the streams of a connection that is gone have ended with it
      some
        { self with
          governor := { self.governor with indexes := self.governor.indexes.remove connectionId }
          observed := self.observed.closeAllStreamsForConnection connectionId
          streams := self.streams.map fun stream =>
            if stream.connectionId = connectionId then { stream with alive := false } else stream }
  | .setClock now => some { self with governor := { self.governor with now } }
  | .streamOpened connectionId =>
      let stream := { origin := .opened, connectionId, alive := true, observation := none }
      some { self with streams := self.streams ++ [stream] }
  | .streamTracked stream peerId protocol =>
      match self.streams[stream]? with
      | some { origin := .opened, connectionId, alive, observation := none } =>
          let (streamId, observed) :=
            self.observed.trackOutboundStreamOpened peerId connectionId protocol
          let tracked :=
            { origin := .opened, connectionId, alive, observation := some streamId }
          some { self with observed, streams := self.streams.set stream tracked }
      | _ => none
  | .streamDelivered connectionId =>
      let stream := { origin := .delivered, connectionId, alive := true, observation := none }
      some { self with streams := self.streams ++ [stream] }
  | .observationDropped stream =>
      match self.streams[stream]? with
      | some ended@{ observation := some streamId, .. } =>
          some
            { self with
              observed := self.observed.markStreamClosed streamId
              streams := self.streams.set stream { ended with observation := none } }
      | _ => none
  | .streamEnded stream =>
      match self.streams[stream]? with
      | some ended =>
          some { self with streams := self.streams.set stream { ended with alive := false } }
      | none => none

/-- The stream is one of those that governance counts for its connection. -/
def Tracked (self : StreamedSwarm PeerId StreamProtocol) (stream : ApplicationStream) : Prop :=
  ∃ entry ∈ self.observed.activeStreamsByConnection stream.connectionId,
    stream.observation = some entry.streamId

/-- The close of a connection that governance issues now cuts no live stream. -/
def NothingCut (self : StreamedSwarm PeerId StreamProtocol) :
    StreamedStep PeerId StreamProtocol → Prop
  | .govern _ =>
      ∀ connectionId ∈ self.governor.task.closesNext,
        ∀ stream ∈ self.streams, stream.alive = true → stream.connectionId ≠ connectionId
  | _ => True

/-- When the streams of a connection on its way to be closed are counted, all live ones are in
the table, and no stream comes to life on a connection that the pass is about to close. -/
def Counted (self : StreamedSwarm PeerId StreamProtocol) :
    StreamedStep PeerId StreamProtocol → Prop
  | .govern _ =>
      ∀ connectionId ∈ self.governor.task.countsNext,
        ∀ stream ∈ self.streams, stream.alive = true → stream.connectionId = connectionId →
          self.Tracked stream
  | .streamOpened connectionId =>
      ∀ plan ∈ self.governor.task.plans, plan.action = .closeNow → plan.connectionId ≠ connectionId
  | .streamDelivered connectionId =>
      ∀ plan ∈ self.governor.task.plans, plan.action = .closeNow → plan.connectionId ≠ connectionId
  | _ => True

instance (self : StreamedSwarm PeerId StreamProtocol) (stream : ApplicationStream) :
    Decidable (self.Tracked stream) :=
  inferInstanceAs (Decidable (∃ _ ∈ _, _ = _))

instance (self : StreamedSwarm PeerId StreamProtocol) :
    DecidablePred self.Counted
  | .govern _ => inferInstanceAs (Decidable (∀ _ ∈ _, ∀ _ ∈ _, _ → _ → self.Tracked _))
  | .streamOpened _ => inferInstanceAs (Decidable (∀ _ ∈ _, _ → _ ≠ _))
  | .streamDelivered _ => inferInstanceAs (Decidable (∀ _ ∈ _, _ → _ ≠ _))
  | .tick _ => isTrue trivial
  | .connectionEstablished _ => isTrue trivial
  | .connectionClosed _ => isTrue trivial
  | .setClock _ => isTrue trivial
  | .streamTracked _ _ _ => isTrue trivial
  | .observationDropped _ => isTrue trivial
  | .streamEnded _ => isTrue trivial

/-- The connections that the pass is about to close carry no live stream. -/
def PendingIdle (self : StreamedSwarm PeerId StreamProtocol) : Prop :=
  ∀ plan ∈ self.governor.task.plans, plan.action = .closeNow →
    ∀ stream ∈ self.streams, stream.alive = true → stream.connectionId ≠ plan.connectionId

omit [DecidableEq PeerId] in
/-- A change of one stream that does not bring it to life, or to another connection. -/
theorem PendingIdle.set {self next : StreamedSwarm PeerId StreamProtocol}
    (idle : self.PendingIdle) (sameTask : next.governor.task = self.governor.task)
    {stream : Nat} {before after : ApplicationStream} (found : self.streams[stream]? = some before)
    (changed : next.streams = self.streams.set stream after)
    (sameConnection : after.connectionId = before.connectionId)
    (notRevived : after.alive = true → before.alive = true) : next.PendingIdle := by
  intro plan pending closes other member alive
  rw [sameTask] at pending
  rw [changed] at member
  rcases List.mem_or_eq_of_mem_set member with same | rfl
  · exact idle plan pending closes other same alive
  · rw [sameConnection]
    exact idle plan pending closes before (List.mem_of_getElem? found) (notRevived alive)

omit [DecidableEq PeerId] in
/-- A new stream comes to life on a connection that the pass is not about to close. -/
theorem PendingIdle.append {self next : StreamedSwarm PeerId StreamProtocol}
    (idle : self.PendingIdle) (sameTask : next.governor.task = self.governor.task)
    {stream : ApplicationStream} (added : next.streams = self.streams ++ [stream])
    (elsewhere : ∀ plan ∈ self.governor.task.plans, plan.action = .closeNow →
      plan.connectionId ≠ stream.connectionId) : next.PendingIdle := by
  intro plan pending closes other member alive
  rw [sameTask] at pending
  rw [added, List.mem_append, List.mem_singleton] at member
  rcases member with before | rfl
  · exact idle plan pending closes other before alive
  · exact (elsewhere plan pending closes).symm

omit [DecidableEq PeerId] in
/-- A pass plans to close only connections whose streams it has counted, and found none. -/
theorem pendingIdle_govern {self : StreamedSwarm PeerId StreamProtocol}
    {strategy : ConnectionSelectionStrategy} {governor : Governor PeerId} (idle : self.PendingIdle)
    (counted : self.Counted (.govern strategy))
    (governed : self.governor.govern strategy (fun connectionId =>
      (self.observed.activeStreamsByConnection connectionId).length) = some governor) :
    ({ self with governor } : StreamedSwarm PeerId StreamProtocol).PendingIdle := by
  intro plan pending closes stream member alive
  rcases Governor.mem_plans_govern governed pending with before | new
  · exact idle plan before closes stream member alive
  · obtain ⟨peer, rest, recommended, connectionId, left, infos, plans, stands, planned⟩ := new
    unfold closurePlan at planned
    rw [Option.map_eq_some_iff] at planned
    obtain ⟨action, next, rfl⟩ := planned
    dsimp only at closes ⊢
    subst closes
    cases info : infos connectionId with
    | none =>
        rw [info, nextGovernanceAction_none] at next
        cases next
    | some info' =>
        rw [info] at next
        obtain ⟨none_, sameReason, isClosing⟩ := nextGovernanceAction_eq_closeNow.mp next
        have counts : self.governor.task.countsNext = some connectionId := by
          rw [stands]
          exact if_pos (info ▸ ⟨isClosing, sameReason⟩)
        intro ofConnection
        obtain ⟨entry, listed, _⟩ := counted connectionId counts stream member alive ofConnection
        rw [ofConnection, List.length_eq_zero_iff.mp none_] at listed
        cases listed

theorem pendingIdle_step {self next : StreamedSwarm PeerId StreamProtocol}
    {action : StreamedStep PeerId StreamProtocol} (idle : self.PendingIdle)
    (counted : self.Counted action) (taken : self.step action = some next) : next.PendingIdle := by
  cases action with
  | tick order =>
      obtain ⟨governor, ticked, rfl⟩ := Option.map_eq_some_iff.mp taken
      intro plan pending
      rw [Governor.plans_tick ticked] at pending
      cases pending
  | govern strategy =>
      obtain ⟨governor, governed, rfl⟩ := Option.map_eq_some_iff.mp taken
      exact pendingIdle_govern idle counted governed
  | connectionEstablished record =>
      dsimp only [step] at taken
      split at taken
      · cases taken
      · cases taken
        exact idle
  | connectionClosed connectionId =>
      cases taken
      intro plan pending closes stream member alive
      obtain ⟨before, listed, rfl⟩ := List.mem_map.mp member
      split at alive
      · cases alive
      · next elsewhere =>
          rw [if_neg elsewhere]
          exact idle plan pending closes before listed alive
  | setClock now =>
      cases taken
      exact idle
  | streamOpened connectionId =>
      cases taken
      exact idle.append rfl rfl counted
  | streamTracked stream peerId protocol =>
      dsimp only [step] at taken
      split at taken
      · next found =>
          cases taken
          exact idle.set rfl found rfl rfl id
      · cases taken
  | streamDelivered connectionId =>
      cases taken
      exact idle.append rfl rfl counted
  | observationDropped stream =>
      dsimp only [step] at taken
      split at taken
      · next found =>
          cases taken
          exact idle.set rfl found rfl rfl id
      · cases taken
  | streamEnded stream =>
      dsimp only [step] at taken
      split at taken
      · next found =>
          cases taken
          exact idle.set rfl found rfl rfl nofun
      · cases taken

omit [DecidableEq PeerId] in
theorem nothingCut_of_pendingIdle {self : StreamedSwarm PeerId StreamProtocol}
    (idle : self.PendingIdle) (action : StreamedStep PeerId StreamProtocol) :
    self.NothingCut action := by
  cases action with
  | govern strategy =>
      intro connectionId closes
      obtain ⟨plan, pending, isClose, rfl⟩ := GovernanceTask.exists_plan_of_closesNext closes
      exact idle plan pending isClose
  | _ => trivial

/-- Governance cuts no live stream in a run in which it counts all live streams of a connection
that it plans to close, and no stream comes to life between the plan and the close. -/
theorem nothingCut_of_counted {now : SystemTime}
    {actions : List (StreamedStep PeerId StreamProtocol)}
    (counted : EveryStep step Counted (start now) actions) :
    EveryStep step NothingCut (start now) actions := by
  refine @EveryStep.of_invariant _ _ step Counted NothingCut PendingIdle ?_ ?_ _ _ ?_ counted
  · intro self action next idle counted taken
    exact pendingIdle_step idle counted taken
  · intro self action idle _
    exact nothingCut_of_pendingIdle idle action
  · intro plan pending
    cases pending

/-- The steps by which two direct connections to one peer, a pass each for the marks and the
closing, and the third pass up to its close come about, with `streams` taking place before. -/
def thirdPass (streams : List (StreamedStep Nat Nat)) : List (StreamedStep Nat Nat) :=
  let record (connectionId : ConnectionId) : ConnectionRecord Nat :=
    { peerId := 0
      connectionId
      direction := .inbound
      remoteAddr := [.tcp 4001]
      establishedAt := 0
      governance := {} }
  let govern (steps : Nat) := StreamedStep.tick [0] ::
    List.replicate steps (.govern .preferDirect)
  [.connectionEstablished (record 1), .connectionEstablished (record 2)] ++ streams ++
    govern 10 ++ [.setClock connectionGovernanceGracePeriod] ++ govern 10 ++ govern 7

/-- A stream that the local node has opened and closed again before the first pass. -/
theorem nothingCut_of_counted_demo :
    let actions := thirdPass [.streamOpened 2, .streamTracked 0 0 0, .observationDropped 0,
      .streamEnded 0]
    EveryStep step NothingCut (start 0) actions := by
  intro actions
  apply nothingCut_of_counted
  decide +kernel

/-- A peer opens a stream on the connection that it and governance hold for the worse one, and a
local listener serves it while governance closes the connection. -/
theorem delivered_stream_cut :
    ∃ before, run step (start 0) (thirdPass [.streamDelivered 2]) = some before ∧
      (before.step (.govern .preferDirect)).isSome = true ∧
        ¬ before.NothingCut (.govern .preferDirect) := by
  have evaluated : ((run step (start 0) (thirdPass [.streamDelivered 2])).map fun before =>
      decide (before.governor.task.closesNext = some 2 ∧
        (before.step (.govern .preferDirect)).isSome = true ∧
          ∃ stream ∈ before.streams, stream.alive = true ∧ stream.connectionId = 2)) =
        some true := by
    decide +kernel
  obtain ⟨before, reached, facts⟩ := Option.map_eq_some_iff.mp evaluated
  obtain ⟨closes, taken, stream, member, alive, ofConnection⟩ := of_decide_eq_true facts
  refine ⟨before, reached, taken, ?_⟩
  intro nothingCut
  exact nothingCut 2 closes stream member alive ofConnection

end StreamedSwarm

end Fungi.Swarm
