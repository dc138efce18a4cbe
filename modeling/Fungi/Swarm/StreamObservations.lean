import Mathlib.Data.List.Range
import Fungi.Lib.Run
import Fungi.Lib.SetIndex
import Fungi.Swarm.ConnectionIndexes

/-!
# Stream observations

The four maps of `StreamObservationState` in `crates/swarm/src/state/registry.rs`, with the two
ways in which a stream leaves them: its last handle is dropped, or its connection is closed.
Threads meet in the counter of the stream ids and in the lock of the maps, so a step is what a
thread does between two of these.
-/

namespace Fungi.Swarm.StreamObservation

open Fungi.Lib

variable {PeerId StreamProtocol : Type}

/-- The ids are those of a 64-bit counter. -/
abbrev StreamId := UInt64

/-- A stream that is observed. -/
structure ObservedStreamEntry (PeerId StreamProtocol : Type) where
  streamId : StreamId
  peerId : PeerId
  connectionId : ConnectionId
  protocol : StreamProtocol
  openedAt : SystemTime

/-- The observed streams, by their ids and by three keys. -/
structure StreamObservationState (PeerId StreamProtocol : Type) where
  streamsById : StreamId → Option (ObservedStreamEntry PeerId StreamProtocol)
  streamIdsByConnection : SetIndex ConnectionId StreamId
  streamIdsByProtocol : SetIndex StreamProtocol StreamId
  streamIdsByPeer : SetIndex PeerId StreamId

namespace StreamObservationState

/-- No stream is observed. -/
def empty : StreamObservationState PeerId StreamProtocol :=
  { streamsById := fun _ => none
    streamIdsByConnection := .empty
    streamIdsByProtocol := .empty
    streamIdsByPeer := .empty }

variable [DecidableEq PeerId] [DecidableEq StreamProtocol]

/-- The part of `track_outbound_stream_opened` that holds the lock. -/
def insert (self : StreamObservationState PeerId StreamProtocol)
    (entry : ObservedStreamEntry PeerId StreamProtocol) :
    StreamObservationState PeerId StreamProtocol :=
  { streamsById := Function.update self.streamsById entry.streamId (some entry)
    streamIdsByConnection := self.streamIdsByConnection.add entry.connectionId entry.streamId
    streamIdsByProtocol := self.streamIdsByProtocol.add entry.protocol entry.streamId
    streamIdsByPeer := self.streamIdsByPeer.add entry.peerId entry.streamId }

/-- A closed stream leaves all maps. -/
def markStreamClosed (self : StreamObservationState PeerId StreamProtocol) (streamId : StreamId) :
    StreamObservationState PeerId StreamProtocol :=
  match self.streamsById streamId with
  | none => self
  | some entry =>
      { streamsById := Function.update self.streamsById streamId none
        streamIdsByConnection := self.streamIdsByConnection.drop entry.connectionId streamId
        streamIdsByProtocol := self.streamIdsByProtocol.drop entry.protocol streamId
        streamIdsByPeer := self.streamIdsByPeer.drop entry.peerId streamId }

/-- Every live stream is in the sets of its connection, its protocol and its peer; these sets hold
no other ids, and none of them is empty. -/
structure Agree (state : StreamObservationState PeerId StreamProtocol) : Prop where
  connections : state.streamIdsByConnection.ExactFor state.streamsById
    ObservedStreamEntry.connectionId
  protocols : state.streamIdsByProtocol.ExactFor state.streamsById ObservedStreamEntry.protocol
  peers : state.streamIdsByPeer.ExactFor state.streamsById ObservedStreamEntry.peerId

omit [DecidableEq PeerId] [DecidableEq StreamProtocol] in
theorem agree_empty : (empty : StreamObservationState PeerId StreamProtocol).Agree where
  connections := SetIndex.exactFor_empty _
  protocols := SetIndex.exactFor_empty _
  peers := SetIndex.exactFor_empty _

theorem Agree.insert {self : StreamObservationState PeerId StreamProtocol} (agree : self.Agree)
    {entry : ObservedStreamEntry PeerId StreamProtocol}
    (free : self.streamsById entry.streamId = none) : (self.insert entry).Agree where
  connections := agree.connections.insert free entry
  protocols := agree.protocols.insert free entry
  peers := agree.peers.insert free entry

/-- A stream that is closed twice is only removed once. -/
theorem Agree.markStreamClosed {self : StreamObservationState PeerId StreamProtocol}
    (agree : self.Agree) (streamId : StreamId) : (self.markStreamClosed streamId).Agree := by
  unfold StreamObservationState.markStreamClosed
  cases found : self.streamsById streamId with
  | none => exact agree
  | some entry =>
      exact
        { connections := agree.connections.remove found
          protocols := agree.protocols.remove found
          peers := agree.peers.remove found }

theorem isSome_markStreamClosed {self : StreamObservationState PeerId StreamProtocol}
    {streamId other : StreamId}
    (isLive : ((self.markStreamClosed streamId).streamsById other).isSome = true) :
    (self.streamsById other).isSome = true := by
  unfold markStreamClosed at isLive
  cases found : self.streamsById streamId with
  | none => simpa [found] using isLive
  | some entry =>
      simp only [found, Function.update_apply] at isLive
      split at isLive
      · cases isLive
      · exact isLive

end StreamObservationState

/-- A stream whose id is drawn, and which is not yet in the maps. -/
structure StartedStream (PeerId StreamProtocol : Type) where
  streamId : StreamId
  peerId : PeerId
  connectionId : ConnectionId
  protocol : StreamProtocol

/-- The counter and the maps, the threads at work on them, the handles that are alive, and the ids
drawn so far. -/
structure Observer (PeerId StreamProtocol : Type) where
  nextStreamId : UInt64
  observed : StreamObservationState PeerId StreamProtocol
  starting : List (StartedStream PeerId StreamProtocol)
  closing : List (List StreamId)
  handles : List StreamId
  drawn : List StreamId

/-- Threads are named by their places in the lists of `Observer`. -/
inductive ObserverStep (PeerId StreamProtocol : Type) where
  | drawId (peerId : PeerId) (connectionId : ConnectionId) (protocol : StreamProtocol)
  | track (thread : Nat) (now : SystemTime)
  | handleDropped (streamId : StreamId)
  | connectionClosed (connectionId : ConnectionId) (order : List StreamId)
  | closeNext (thread : Nat)

/-- Whether a step draws a stream id. -/
def ObserverStep.drawsId : ObserverStep PeerId StreamProtocol → Bool
  | .drawId .. => true
  | _ => false

namespace Observer

variable [DecidableEq PeerId] [DecidableEq StreamProtocol]

/-- No stream has been opened. -/
def start : Observer PeerId StreamProtocol :=
  { nextStreamId := 0, observed := .empty, starting := [], closing := [], handles := [],
    drawn := [] }

/-- What a step does, where it is possible. -/
def step (self : Observer PeerId StreamProtocol) :
    ObserverStep PeerId StreamProtocol → Option (Observer PeerId StreamProtocol)
  | .drawId peerId connectionId protocol =>
      let streamId := self.nextStreamId + 1
      some
        { self with
          nextStreamId := streamId
          starting := self.starting ++ [{ streamId, peerId, connectionId, protocol }]
          drawn := self.drawn ++ [streamId] }
  | .track thread now =>
      match self.starting[thread]? with
      | none => none
      | some { streamId, peerId, connectionId, protocol } =>
          let entry := { streamId, peerId, connectionId, protocol, openedAt := now }
          some
            { self with
              observed := self.observed.insert entry
              starting := self.starting.eraseIdx thread
              handles := self.handles ++ [streamId] }
  | .handleDropped streamId =>
      if streamId ∈ self.handles then
        some
          { self with
            observed := self.observed.markStreamClosed streamId
            handles := self.handles.erase streamId }
      else none
  | .connectionClosed connectionId order =>
      -- the ids are read under the lock, in the order of the set, and are closed one by one
      if order.Nodup ∧ order.toFinset = self.observed.streamIdsByConnection.ids connectionId then
        some { self with closing := self.closing ++ [order] }
      else none
  | .closeNext thread =>
      match self.closing[thread]? with
      | some (streamId :: remaining) =>
          some
            { self with
              observed := self.observed.markStreamClosed streamId
              closing := self.closing.set thread remaining }
      | _ => none

/-- The ids drawn are the first ones of the counter. -/
def Counted (self : Observer PeerId StreamProtocol) : Prop :=
  self.nextStreamId = UInt64.ofNat self.drawn.length ∧
    self.drawn = (List.range self.drawn.length).map fun count => UInt64.ofNat (count + 1)

/-- The maps agree, and a stream that starts has an id of its own. -/
structure Sound (observer : Observer PeerId StreamProtocol) : Prop where
  counted : observer.Counted
  agree : observer.observed.Agree
  live_drawn : ∀ streamId, (observer.observed.streamsById streamId).isSome = true →
    streamId ∈ observer.drawn
  starting_drawn : ∀ stream ∈ observer.starting, stream.streamId ∈ observer.drawn
  starting_free : ∀ stream ∈ observer.starting,
    observer.observed.streamsById stream.streamId = none
  starting_nodup : (observer.starting.map StartedStream.streamId).Nodup

/-! ## The counter -/

omit [DecidableEq PeerId] [DecidableEq StreamProtocol] in
theorem Counted.nodup {self : Observer PeerId StreamProtocol} (counted : self.Counted)
    (bounded : self.drawn.length ≤ 2 ^ 64) : self.drawn.Nodup := by
  rw [counted.2]
  apply List.Nodup.map_on _ List.nodup_range
  intro left leftMember right rightMember same
  rw [List.mem_range] at leftMember rightMember
  have remainders := congrArg UInt64.toNat same
  simp only [UInt64.toNat_ofNat'] at remainders
  omega

omit [DecidableEq PeerId] [DecidableEq StreamProtocol] in
theorem Counted.length_le {self : Observer PeerId StreamProtocol} (counted : self.Counted)
    (distinct : self.drawn.Nodup) : self.drawn.length ≤ 2 ^ 64 := by
  by_contra longer
  rw [counted.2, List.nodup_map_iff_inj_on List.nodup_range] at distinct
  have same := distinct 0 (List.mem_range.mpr (by omega)) (2 ^ 64)
    (List.mem_range.mpr (by omega)) (by decide +kernel)
  cases same

theorem Counted.step {self next : Observer PeerId StreamProtocol}
    {action : ObserverStep PeerId StreamProtocol} (counted : self.Counted)
    (taken : step self action = some next) :
    next.Counted ∧
      next.drawn.length = self.drawn.length + [action].countP ObserverStep.drawsId := by
  cases action with
  | drawId peerId connectionId protocol =>
      obtain rfl := Option.some.inj taken
      have onward : self.nextStreamId + 1 = UInt64.ofNat (self.drawn.length + 1) := by
        rw [counted.1, UInt64.ofNat_add]
        rfl
      refine ⟨⟨by simpa using onward, ?_⟩, by simp [ObserverStep.drawsId]⟩
      simp only [List.length_append, List.length_singleton, List.range_succ, List.map_append,
        List.map_singleton, onward, ← counted.2]
  | track thread now =>
      simp only [Observer.step] at taken
      split at taken
      · cases taken
      · obtain rfl := Option.some.inj taken
        exact ⟨counted, by simp [ObserverStep.drawsId]⟩
  | handleDropped streamId =>
      simp only [Observer.step] at taken
      split at taken
      · obtain rfl := Option.some.inj taken
        exact ⟨counted, by simp [ObserverStep.drawsId]⟩
      · cases taken
  | connectionClosed connectionId order =>
      simp only [Observer.step] at taken
      split at taken
      · obtain rfl := Option.some.inj taken
        exact ⟨counted, by simp [ObserverStep.drawsId]⟩
      · cases taken
  | closeNext thread =>
      simp only [Observer.step] at taken
      split at taken
      · obtain rfl := Option.some.inj taken
        exact ⟨counted, by simp [ObserverStep.drawsId]⟩
      · cases taken

/-! ## The maps -/

theorem Sound.markStreamClosed {self : Observer PeerId StreamProtocol} (sound : self.Sound)
    (streamId : StreamId) (closing : List (List StreamId)) (handles : List StreamId) :
    Sound { self with observed := self.observed.markStreamClosed streamId, closing, handles } where
  counted := sound.counted
  agree := sound.agree.markStreamClosed streamId
  live_drawn other isLive :=
    sound.live_drawn other (StreamObservationState.isSome_markStreamClosed isLive)
  starting_drawn := sound.starting_drawn
  starting_free stream member := by
    by_contra isLive
    have before :=
      StreamObservationState.isSome_markStreamClosed (Option.isSome_iff_ne_none.mpr isLive)
    rw [sound.starting_free stream member] at before
    cases before
  starting_nodup := sound.starting_nodup

theorem Sound.drawId {self next : Observer PeerId StreamProtocol} {peerId : PeerId}
    {connectionId : ConnectionId} {protocol : StreamProtocol} (sound : self.Sound)
    (taken : step self (.drawId peerId connectionId protocol) = some next)
    (bounded : next.drawn.length ≤ 2 ^ 64) : next.Sound := by
  have counted := (sound.counted.step taken).1
  have distinct := counted.nodup bounded
  obtain rfl := Option.some.inj taken
  rw [List.nodup_append_comm, List.singleton_append, List.nodup_cons] at distinct
  have fresh : self.nextStreamId + 1 ∉ self.drawn := distinct.1
  constructor
  · exact counted
  · exact sound.agree
  · exact fun streamId isLive => List.mem_append_left _ (sound.live_drawn streamId isLive)
  · intro stream member
    rcases List.mem_append.mp member with before | new
    · exact List.mem_append_left _ (sound.starting_drawn stream before)
    · obtain rfl := List.mem_singleton.mp new
      exact List.mem_append_right _ List.mem_cons_self
  · intro stream member
    rcases List.mem_append.mp member with before | new
    · exact sound.starting_free stream before
    · obtain rfl := List.mem_singleton.mp new
      by_contra isLive
      exact fresh (sound.live_drawn _ (Option.isSome_iff_ne_none.mpr isLive))
  · rw [List.map_append, List.map_singleton, List.nodup_append_comm, List.singleton_append,
      List.nodup_cons]
    refine ⟨fun member => ?_, sound.starting_nodup⟩
    obtain ⟨stream, isStarting, same⟩ := List.mem_map.mp member
    have isDrawn := sound.starting_drawn stream isStarting
    rw [same] at isDrawn
    exact fresh isDrawn

theorem Sound.track {self next : Observer PeerId StreamProtocol} {thread : Nat} {now : SystemTime}
    (sound : self.Sound) (taken : step self (.track thread now) = some next) : next.Sound := by
  simp only [Observer.step] at taken
  split at taken
  · cases taken
  · next streamId peerId connectionId protocol found =>
      obtain rfl := Option.some.inj taken
      obtain ⟨bound, isStarted⟩ := List.getElem?_eq_some_iff.mp found
      have member : _ ∈ self.starting := List.mem_of_getElem? found
      have reordered := (List.getElem_cons_eraseIdx_perm bound).map StartedStream.streamId
      have apart := reordered.nodup_iff.mpr sound.starting_nodup
      rw [isStarted, List.map_cons, List.nodup_cons] at apart
      constructor
      · exact sound.counted
      · exact sound.agree.insert (sound.starting_free _ member)
      · intro other isLive
        by_cases same : other = streamId
        · rw [same]
          exact sound.starting_drawn _ member
        · exact sound.live_drawn other
            (by simpa [StreamObservationState.insert, same] using isLive)
      · exact fun stream remains => sound.starting_drawn stream (List.mem_of_mem_eraseIdx remains)
      · intro stream remains
        have other : stream.streamId ≠ streamId :=
          fun same => apart.1 (List.mem_map.mpr ⟨stream, remains, same⟩)
        simpa [StreamObservationState.insert, other] using
          sound.starting_free stream (List.mem_of_mem_eraseIdx remains)
      · exact apart.2

theorem Sound.step {self next : Observer PeerId StreamProtocol}
    {action : ObserverStep PeerId StreamProtocol} (sound : self.Sound)
    (taken : step self action = some next) (bounded : next.drawn.length ≤ 2 ^ 64) :
    next.Sound := by
  cases action with
  | drawId peerId connectionId protocol => exact sound.drawId taken bounded
  | track thread now => exact sound.track taken
  | handleDropped streamId =>
      simp only [Observer.step] at taken
      split at taken
      · obtain rfl := Option.some.inj taken
        exact sound.markStreamClosed streamId self.closing _
      · cases taken
  | connectionClosed connectionId order =>
      simp only [Observer.step] at taken
      split at taken
      · obtain rfl := Option.some.inj taken
        exact ⟨sound.counted, sound.agree, sound.live_drawn, sound.starting_drawn,
          sound.starting_free, sound.starting_nodup⟩
      · cases taken
  | closeNext thread =>
      simp only [Observer.step] at taken
      split at taken
      · next streamId remaining found =>
          obtain rfl := Option.some.inj taken
          exact sound.markStreamClosed streamId _ self.handles
      · cases taken

omit [DecidableEq PeerId] [DecidableEq StreamProtocol] in
theorem sound_start : (start : Observer PeerId StreamProtocol).Sound where
  counted := ⟨rfl, rfl⟩
  agree := StreamObservationState.agree_empty
  live_drawn := nofun
  starting_drawn := nofun
  starting_free := nofun
  starting_nodup := List.nodup_nil

theorem sound_of_run {actions : List (ObserverStep PeerId StreamProtocol)}
    {final : Observer PeerId StreamProtocol} (reached : run step start actions = some final) :
    final.drawn.length = actions.countP ObserverStep.drawsId ∧
      (final.drawn.length ≤ 2 ^ 64 → final.Sound) ∧ final.Counted := by
  apply run_induction (motive := fun actions state =>
    state.drawn.length = actions.countP ObserverStep.drawsId ∧
      (state.drawn.length ≤ 2 ^ 64 → state.Sound) ∧ state.Counted) _ _ reached
  · exact ⟨rfl, fun _ => sound_start, sound_start.counted⟩
  · intro actions state action next _ ⟨length, sound, counted⟩ taken
    have onward := counted.step taken
    refine ⟨?_, fun bounded => ?_, onward.1⟩
    · rw [List.countP_append, ← length, onward.2]
    · exact (sound (by omega)).step taken bounded

/-- While no more than `2 ^ 64` streams have been tracked, the four maps agree and every stream
has an id of its own. -/
theorem stream_observations_agree {actions : List (ObserverStep PeerId StreamProtocol)}
    {final : Observer PeerId StreamProtocol} (reached : run step start actions = some final)
    (bounded : actions.countP ObserverStep.drawsId ≤ 2 ^ 64) :
    final.observed.Agree ∧ final.drawn.Nodup := by
  obtain ⟨length, sound, counted⟩ := sound_of_run reached
  rw [← length] at bounded
  exact ⟨(sound bounded).agree, counted.nodup bounded⟩

/-- The connection of a stream closes, and the last handle of the stream is dropped before the
thread that has read the ids comes to it; a stream of another connection goes on. -/
def racedClose : List (ObserverStep Nat Nat) :=
  [.drawId 7 1 0, .drawId 7 2 0, .track 1 10, .track 0 11, .connectionClosed 1 [1],
    .handleDropped 1, .closeNext 0]

theorem stream_observations_agree_raced : ∃ final,
    run step start racedClose = some final ∧ (final.observed.streamsById 1).isNone = true ∧
      (final.observed.streamsById 2).isSome = true ∧ final.handles = [2] ∧
      final.observed.streamIdsByPeer.ids 7 = {2} ∧ final.observed.Agree ∧ final.drawn.Nodup := by
  obtain ⟨final, reached, facts⟩ := (Option.any_eq_true _ _).mp
    (by decide +kernel : (run step start racedClose).any fun final => decide
      ((final.observed.streamsById 1).isNone = true ∧
        (final.observed.streamsById 2).isSome = true ∧ final.handles = [2] ∧
          final.observed.streamIdsByPeer.ids 7 = {2}))
  obtain ⟨closed, live, handles, ids⟩ := of_decide_eq_true facts
  exact ⟨final, reached, closed, live, handles, ids,
    stream_observations_agree reached (by decide)⟩

/-! ## The counter wraps around -/

/-- One stream of the peer `0` is opened and its handle dropped. -/
def openAndDrop (count : Nat) : List (ObserverStep Nat Nat) :=
  [.drawId 0 0 0, .track 0 0, .handleDropped (UInt64.ofNat (count + 1))]

/-- Many streams are opened and dropped one after the other. -/
def openAndDropAll (count : Nat) : List (ObserverStep Nat Nat) :=
  (List.range count).flatMap openAndDrop

/-- The state in which every stream has come and gone. -/
def quiet (count : Nat) : Observer Nat Nat :=
  { start with
    nextStreamId := UInt64.ofNat count
    drawn := (List.range count).map fun earlier => UInt64.ofNat (earlier + 1) }

theorem markStreamClosed_insert_empty (entry : ObservedStreamEntry Nat Nat) :
    (StreamObservationState.empty.insert entry).markStreamClosed entry.streamId = .empty := by
  simp [StreamObservationState.markStreamClosed, StreamObservationState.insert,
    StreamObservationState.empty, SetIndex.drop, SetIndex.add, SetIndex.empty]

theorem run_openAndDrop (count : Nat) :
    run step (quiet count) (openAndDrop count) = some (quiet (count + 1)) := by
  have onward : UInt64.ofNat count + 1 = UInt64.ofNat (count + 1) := by
    rw [UInt64.ofNat_add]
    rfl
  have closed := markStreamClosed_insert_empty
    { streamId := UInt64.ofNat (count + 1), peerId := 0, connectionId := 0, protocol := 0,
      openedAt := 0 }
  simp only [openAndDrop, run_cons, run_nil, quiet, start, step, onward, List.nil_append,
    Option.bind_some, List.getElem?_cons_zero, List.mem_singleton, if_true, List.eraseIdx_cons_zero,
    List.erase_cons_head, closed, List.range_succ, List.map_append, List.map_singleton]

theorem run_openAndDropAll (count : Nat) :
    run step start (openAndDropAll count) = some (quiet count) := by
  induction count with
  | zero => rfl
  | succ count inductionHypothesis =>
      have once : (List.flatMap openAndDrop [count]) = openAndDrop count := by simp
      rw [openAndDropAll] at inductionHypothesis ⊢
      rw [List.range_succ, List.flatMap_append, run_append, inductionHypothesis, once]
      exact run_openAndDrop count

theorem counted_quiet (count : Nat) : (quiet count).Counted := by
  simp [Counted, quiet]

/-- After `2 ^ 64` streams have come and gone, the next one gets the id of the first. -/
theorem streamId_reused : ∃ final,
    run step start (openAndDropAll (2 ^ 64) ++ [.drawId 0 0 0]) = some final ∧
      ¬ final.drawn.Nodup := by
  obtain ⟨final, taken⟩ : ∃ final, step (quiet (2 ^ 64)) (.drawId 0 0 0) = some final :=
    ⟨_, rfl⟩
  have onward := (counted_quiet (2 ^ 64)).step taken
  refine ⟨final, ?_, fun distinct => ?_⟩
  · rw [run_append, run_openAndDropAll, Option.bind_some, run_cons, taken]
    rfl
  · have length := onward.1.length_le distinct
    rw [onward.2] at length
    simp [quiet, ObserverStep.drawsId] at length

end Observer

end Fungi.Swarm.StreamObservation
