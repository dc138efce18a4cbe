import Fungi.Lib.Run
import Fungi.Stream.Registry

/-!
# Inbound streams

An inbound stream is negotiated, authorized by the allow list of the listener that was
registered when its upgrade looked it up, and delivered to the listener registered when its
connection handler is told about it.  Registrations come and go in between.
-/

namespace Fungi.Stream

open Fungi.Lib

variable {StreamProtocol PeerSet PeerId StreamId : Type}

/-- Why a stream is refused after its negotiation. -/
inductive InboundUpgradeError where
  | unsupportedProtocol
  | unauthorized (reason : AuthorizationRejectReason)
  deriving DecidableEq

/-- Where a stream stands.  The registration is that of the listener whose allow list the
upgrade has read. -/
inductive StreamPhase (PeerSet : Type) where
  | opened
  | negotiated
  | lookedUp (listener : ListenerRegistration PeerSet)
  | passedGlobal (listener : ListenerRegistration PeerSet)
  | authorized (registration : Nat)
  | rejected (error : InboundUpgradeError)
  | handed (authorizedBy : Nat) (registration : Nat)
  | dropped

/-- The peer each stream comes from, and the protocol it asks for. -/
structure InboundStream (StreamProtocol PeerId : Type) where
  peerId : PeerId
  protocol : StreamProtocol

/-- `madeBefore` counts the registrations made before a stream's lookup.  `globallyAdmitted`
and `admittedBy` say which lists admitted its peer when its upgrade read them, the latter of
every registration made by then. -/
structure StreamSystem (StreamProtocol PeerSet PeerId StreamId : Type) where
  registry : Registry StreamProtocol PeerSet
  sets : PeerSets PeerSet PeerId
  streams : StreamId → StreamPhase PeerSet
  madeBefore : StreamId → Nat
  globallyAdmitted : StreamId → Bool
  admittedBy : StreamId → Nat → Bool

/-- What changes the registry, and the steps of the streams. -/
inductive StreamStep (StreamProtocol PeerSet PeerId StreamId : Type) where
  | registerListener (protocol : StreamProtocol) (allowList : ProtocolAllowList PeerSet)
  | unregisterListener (protocol : StreamProtocol)
  | close (registration : Nat)
  | setPeers (peers : PeerSet) (members : PeerId → Bool)
  | negotiate (id : StreamId)
  | lookUp (id : StreamId)
  | checkGlobal (id : StreamId)
  | checkProtocol (id : StreamId)
  | deliver (id : StreamId) (full : Bool)

namespace StreamSystem

variable [DecidableEq StreamProtocol] [DecidableEq PeerSet] [DecidableEq StreamId]

/-- No listener and no stream. -/
def start (globalAllowPolicy : GlobalAllowPolicy PeerSet) (sets : PeerSets PeerSet PeerId) :
    StreamSystem StreamProtocol PeerSet PeerId StreamId :=
  { registry := .new globalAllowPolicy
    sets
    streams := fun _ => .opened
    madeBefore := fun _ => 0
    globallyAdmitted := fun _ => false
    admittedBy := fun _ _ => false }

/-- A stream goes over to another phase. -/
def setPhase (self : StreamSystem StreamProtocol PeerSet PeerId StreamId) (id : StreamId)
    (phase : StreamPhase PeerSet) : StreamSystem StreamProtocol PeerSet PeerId StreamId :=
  { self with streams := Function.update self.streams id phase }

/-- What a step does, where the stream is in the phase for it. -/
def step (calls : StreamId → InboundStream StreamProtocol PeerId)
    (self : StreamSystem StreamProtocol PeerSet PeerId StreamId) :
    StreamStep StreamProtocol PeerSet PeerId StreamId →
      Option (StreamSystem StreamProtocol PeerSet PeerId StreamId)
  | .registerListener protocol allowList =>
      some { self with registry := (self.registry.registerListener protocol allowList).2 }
  | .unregisterListener protocol =>
      some { self with registry := (self.registry.unregisterListener protocol).2 }
  | .close registration => some { self with registry := self.registry.close registration }
  | .setPeers peers members =>
      some { self with sets := Function.update self.sets peers members }
  | .negotiate id =>
      match self.streams id with
      | .opened =>
          -- a protocol that is not advertised is refused by the negotiation itself
          let registry := self.registry.retainOpen
          let phase := if (registry.listeners (calls id).protocol).isSome then .negotiated
            else .rejected .unsupportedProtocol
          some ({ self with registry }.setPhase id phase)
      | _ => none
  | .lookUp id =>
      match self.streams id with
      | .negotiated =>
          let (listener, registry) := self.registry.protocolListener (calls id).protocol
          let phase := match listener with
            | some listener => .lookedUp listener
            | none => .rejected .unsupportedProtocol
          some
            ({ self with
                registry
                madeBefore := Function.update self.madeBefore id registry.made }.setPhase id phase)
      | _ => none
  | .checkGlobal id =>
      match self.streams id with
      | .lookedUp listener =>
          let admitted := self.registry.globalAllowPolicy.admits self.sets (calls id).peerId
          let phase := if admitted then .passedGlobal listener
            else .rejected (.unauthorized .rejectedByGlobalAllowList)
          some
            ({ self with
                globallyAdmitted := Function.update self.globallyAdmitted id admitted }.setPhase
              id phase)
      | _ => none
  | .checkProtocol id =>
      match self.streams id with
      | .passedGlobal listener =>
          let phase := if listener.allowList.admits self.sets (calls id).peerId then
              .authorized listener.registration
            else .rejected (.unauthorized .rejectedByProtocolAllowList)
          some
            ({ self with
                admittedBy := Function.update self.admittedBy id fun registration =>
                  decide (registration < self.registry.made) &&
                    (self.registry.allowLists registration).admits self.sets
                      (calls id).peerId }.setPhase id phase)
      | _ => none
  | .deliver id full =>
      match self.streams id with
      | .authorized authorizedBy =>
          let (receiver, registry) := self.registry.onInboundStream (calls id).protocol full
          let phase := match receiver with
            | some registration => .handed authorizedBy registration
            | none => .dropped
          some ({ self with registry }.setPhase id phase)
      | _ => none

end StreamSystem

/-- Every stream handed to a registration was authorized by it, and its allow list and the
global one admitted the peer when they were read. -/
def AuthorizedByReceiver (state : StreamSystem StreamProtocol PeerSet PeerId StreamId) : Prop :=
  ∀ id authorizedBy registration, state.streams id = .handed authorizedBy registration →
    registration = authorizedBy ∧ state.globallyAdmitted id = true ∧
      state.admittedBy id registration = true

/-- The listener a stream is handed to was registered before the stream's lookup. -/
def RegisteredBeforeLookup (calls : StreamId → InboundStream StreamProtocol PeerId)
    (state : StreamSystem StreamProtocol PeerSet PeerId StreamId) :
    StreamStep StreamProtocol PeerSet PeerId StreamId → Prop
  | .deliver id full => full = false → ∀ listener,
      state.registry.listeners (calls id).protocol = some listener →
      state.registry.closed listener.registration = false →
      listener.registration < state.madeBefore id
  | _ => True

/-- The registration by which a stream waits to be authorized or delivered. -/
structure Waiting (registry : Registry StreamProtocol PeerSet) (protocol : StreamProtocol)
    (registration madeBefore : Nat) : Prop where
  below : registration < madeBefore
  counted : madeBefore ≤ registry.made
  only : ∀ listener, registry.listeners protocol = some listener →
    listener.registration < madeBefore → listener.registration = registration

theorem Waiting.evolves {before after : Registry StreamProtocol PeerSet}
    {protocol : StreamProtocol} {registration madeBefore : Nat}
    (waiting : Waiting before protocol registration madeBefore)
    (evolves : before.Evolves after) : Waiting after protocol registration madeBefore := by
  refine ⟨waiting.below, Nat.le_trans waiting.counted evolves.made, ?_⟩
  intro listener found below
  rcases evolves.listeners protocol listener found with old | new
  · exact waiting.only listener old below
  · exact absurd (Nat.lt_of_lt_of_le below waiting.counted) (Nat.not_lt.mpr new.1)

/-- What the phase of a stream says about its lookup and the checks it has passed. -/
def PhaseTracked (registry : Registry StreamProtocol PeerSet) (protocol : StreamProtocol)
    (madeBefore : Nat) (globallyAdmitted : Bool) (admittedBy : Nat → Bool) :
    StreamPhase PeerSet → Prop
  | .lookedUp listener => Waiting registry protocol listener.registration madeBefore ∧
      registry.allowLists listener.registration = listener.allowList
  | .passedGlobal listener => Waiting registry protocol listener.registration madeBefore ∧
      registry.allowLists listener.registration = listener.allowList ∧ globallyAdmitted = true
  | .authorized registration => Waiting registry protocol registration madeBefore ∧
      globallyAdmitted = true ∧ admittedBy registration = true
  | .handed authorizedBy _ => globallyAdmitted = true ∧ admittedBy authorizedBy = true
  | _ => True

theorem PhaseTracked.evolves {before after : Registry StreamProtocol PeerSet}
    {protocol : StreamProtocol} {madeBefore : Nat} {globallyAdmitted : Bool}
    {admittedBy : Nat → Bool} {phase : StreamPhase PeerSet} (evolves : before.Evolves after)
    (tracked : PhaseTracked before protocol madeBefore globallyAdmitted admittedBy phase) :
    PhaseTracked after protocol madeBefore globallyAdmitted admittedBy phase := by
  cases phase with
  | lookedUp listener =>
      obtain ⟨waiting, list⟩ := tracked
      have below := Nat.lt_of_lt_of_le waiting.below waiting.counted
      exact ⟨waiting.evolves evolves, (evolves.allowLists _ below).trans list⟩
  | passedGlobal listener =>
      obtain ⟨waiting, list, admitted⟩ := tracked
      have below := Nat.lt_of_lt_of_le waiting.below waiting.counted
      exact ⟨waiting.evolves evolves, (evolves.allowLists _ below).trans list, admitted⟩
  | authorized registration => exact ⟨tracked.1.evolves evolves, tracked.2⟩
  | handed authorizedBy registration => exact tracked
  | opened => trivial
  | negotiated => trivial
  | rejected error => trivial
  | dropped => trivial

section Runs

variable {calls : StreamId → InboundStream StreamProtocol PeerId}
  {state next : StreamSystem StreamProtocol PeerSet PeerId StreamId}

/-- What holds of the streams in every run. -/
structure StreamsTracked (calls : StreamId → InboundStream StreamProtocol PeerId)
    (state : StreamSystem StreamProtocol PeerSet PeerId StreamId) : Prop where
  numbered : state.registry.Numbered
  phases : ∀ id, PhaseTracked state.registry (calls id).protocol (state.madeBefore id)
    (state.globallyAdmitted id) (state.admittedBy id) (state.streams id)

namespace StreamsTracked

theorem start (calls : StreamId → InboundStream StreamProtocol PeerId)
    (globalAllowPolicy : GlobalAllowPolicy PeerSet) (sets : PeerSets PeerSet PeerId) :
    StreamsTracked calls (StreamSystem.start globalAllowPolicy sets) := by
  constructor
  · intro protocol listener impossible
    cases impossible
  · intro id
    trivial

/-- A step of the registry moves no stream on. -/
theorem of_registry (tracked : StreamsTracked calls state)
    (evolves : state.registry.Evolves next.registry) (streams : next.streams = state.streams)
    (madeBefore : next.madeBefore = state.madeBefore)
    (globallyAdmitted : next.globallyAdmitted = state.globallyAdmitted)
    (admittedBy : next.admittedBy = state.admittedBy) : StreamsTracked calls next := by
  refine ⟨tracked.numbered.evolves evolves, ?_⟩
  intro id
  rw [streams, madeBefore, globallyAdmitted, admittedBy]
  exact (tracked.phases id).evolves evolves

/-- A step of one stream. -/
theorem advance (tracked : StreamsTracked calls state) (id : StreamId)
    (evolves : state.registry.Evolves next.registry)
    (others : ∀ other, other ≠ id → next.streams other = state.streams other ∧
      next.madeBefore other = state.madeBefore other ∧
      next.globallyAdmitted other = state.globallyAdmitted other ∧
      next.admittedBy other = state.admittedBy other)
    (own : PhaseTracked next.registry (calls id).protocol (next.madeBefore id)
      (next.globallyAdmitted id) (next.admittedBy id) (next.streams id)) :
    StreamsTracked calls next := by
  refine ⟨tracked.numbered.evolves evolves, ?_⟩
  intro other
  by_cases same : other = id
  · rw [same]
    exact own
  · obtain ⟨streams, madeBefore, globallyAdmitted, admittedBy⟩ := others other same
    rw [streams, madeBefore, globallyAdmitted, admittedBy]
    exact (tracked.phases other).evolves evolves

variable [DecidableEq StreamProtocol] [DecidableEq PeerSet] [DecidableEq StreamId]

theorem step (tracked : StreamsTracked calls state)
    {action : StreamStep StreamProtocol PeerSet PeerId StreamId}
    (taken : StreamSystem.step calls state action = some next) : StreamsTracked calls next := by
  cases action with
  | registerListener protocol allowList =>
      cases taken
      exact tracked.of_registry (Registry.evolves_registerListener _ _ _) rfl rfl rfl rfl
  | unregisterListener protocol =>
      cases taken
      exact tracked.of_registry (Registry.evolves_drop _ _) rfl rfl rfl rfl
  | close registration =>
      cases taken
      exact tracked.of_registry (Registry.Evolves.of_listeners rfl rfl rfl fun _ _ found => found)
        rfl rfl rfl rfl
  | setPeers peers members =>
      cases taken
      exact tracked.of_registry (Registry.Evolves.of_listeners rfl rfl rfl fun _ _ found => found)
        rfl rfl rfl rfl
  | negotiate id =>
      dsimp only [StreamSystem.step] at taken
      split at taken
      · cases taken
        apply tracked.advance id (Registry.evolves_retainOpen _)
        · intro other different
          exact ⟨Function.update_of_ne different _ _, rfl, rfl, rfl⟩
        · dsimp only [StreamSystem.setPhase]
          rw [Function.update_self]
          split
          · trivial
          · trivial
      · cases taken
  | lookUp id =>
      dsimp only [StreamSystem.step] at taken
      split at taken
      · cases taken
        apply tracked.advance id (Registry.evolves_retainOpen _)
        · intro other different
          exact ⟨Function.update_of_ne different _ _, Function.update_of_ne different _ _, rfl,
            rfl⟩
        · dsimp only [StreamSystem.setPhase, Registry.protocolListener]
          rw [Function.update_self, Function.update_self]
          have numbered := tracked.numbered.evolves (Registry.evolves_retainOpen state.registry)
          split
          · next listener found =>
              obtain ⟨below, list⟩ := numbered _ listener found
              refine ⟨⟨below, Nat.le_refl _, ?_⟩, list⟩
              intro other alsoFound _
              rw [found] at alsoFound
              cases alsoFound
              rfl
          · trivial
      · cases taken
  | checkGlobal id =>
      dsimp only [StreamSystem.step] at taken
      split at taken
      · next listener lookedUp =>
          have own := tracked.phases id
          rw [lookedUp] at own
          cases taken
          refine tracked.advance id (Registry.Evolves.refl _) ?_ ?_
          · intro other different
            exact ⟨Function.update_of_ne different _ _, rfl,
              Function.update_of_ne different _ _, rfl⟩
          · dsimp only [StreamSystem.setPhase]
            rw [Function.update_self, Function.update_self]
            split
            · next admitted => exact ⟨own.1, own.2, admitted⟩
            · trivial
      · cases taken
  | checkProtocol id =>
      dsimp only [StreamSystem.step] at taken
      split at taken
      · next listener passed =>
          have own := tracked.phases id
          rw [passed] at own
          obtain ⟨waiting, list, globally⟩ := own
          cases taken
          refine tracked.advance id (Registry.Evolves.refl _) ?_ ?_
          · intro other different
            exact ⟨Function.update_of_ne different _ _, rfl, rfl,
              Function.update_of_ne different _ _⟩
          · dsimp only [StreamSystem.setPhase]
            rw [Function.update_self, Function.update_self]
            split
            · next admitted =>
                refine ⟨waiting, globally, ?_⟩
                have made := Nat.lt_of_lt_of_le waiting.below waiting.counted
                dsimp only
                rw [list, admitted, decide_eq_true made]
                rfl
            · trivial
      · cases taken
  | deliver id full =>
      dsimp only [StreamSystem.step] at taken
      split at taken
      · next authorizedBy authorized =>
          have own := tracked.phases id
          rw [authorized] at own
          cases taken
          apply tracked.advance id (Registry.evolves_onInboundStream _ _ _)
          · intro other different
            exact ⟨Function.update_of_ne different _ _, rfl, rfl, rfl⟩
          · dsimp only [StreamSystem.setPhase]
            rw [Function.update_self]
            split
            · exact own.2
            · trivial
      · cases taken

end StreamsTracked

variable [DecidableEq StreamProtocol] [DecidableEq PeerSet] [DecidableEq StreamId]

omit [DecidableEq StreamProtocol] [DecidableEq PeerSet] [DecidableEq StreamId] in
/-- What a stream handed over has been admitted by is known, so only its receiver matters. -/
theorem authorizedByReceiver_iff (tracked : StreamsTracked calls state) :
    AuthorizedByReceiver state ↔ ∀ id authorizedBy registration,
      state.streams id = .handed authorizedBy registration → registration = authorizedBy := by
  constructor
  · intro every id authorizedBy registration given
    exact (every id authorizedBy registration given).1
  · intro every id authorizedBy registration given
    have same := every id authorizedBy registration given
    have own := tracked.phases id
    rw [given] at own
    rw [same]
    exact ⟨rfl, own⟩

omit [DecidableEq StreamProtocol] [DecidableEq PeerSet] in
/-- A stream moved on before its delivery is not handed over, nor is any other. -/
private theorem handed_update {streams : StreamId → StreamPhase PeerSet} {id : StreamId}
    {phase : StreamPhase PeerSet}
    (before : ∀ authorizedBy registration, streams id ≠ .handed authorizedBy registration)
    (after : ∀ authorizedBy registration, phase ≠ .handed authorizedBy registration)
    (other : StreamId) (authorizedBy registration : Nat) :
    Function.update streams id phase other = .handed authorizedBy registration ↔
      streams other = .handed authorizedBy registration := by
  by_cases same : other = id
  · rw [same, Function.update_self]
    exact iff_of_false (after _ _) (before _ _)
  · rw [Function.update_of_ne same]

/-- Only a delivery hands a stream over. -/
theorem handed_step {action : StreamStep StreamProtocol PeerSet PeerId StreamId}
    (taken : StreamSystem.step calls state action = some next)
    (undelivered : ∀ id full, action ≠ .deliver id full) (other : StreamId)
    (authorizedBy registration : Nat) :
    next.streams other = .handed authorizedBy registration ↔
      state.streams other = .handed authorizedBy registration := by
  cases action with
  | registerListener protocol allowList =>
      cases taken
      rfl
  | unregisterListener protocol =>
      cases taken
      rfl
  | close registration =>
      cases taken
      rfl
  | setPeers peers members =>
      cases taken
      rfl
  | negotiate id =>
      dsimp only [StreamSystem.step] at taken
      split at taken
      · next opened =>
          cases taken
          apply handed_update
          · simp [opened]
          · intro _ _
            split <;> simp
      · cases taken
  | lookUp id =>
      dsimp only [StreamSystem.step] at taken
      split at taken
      · next negotiated =>
          cases taken
          apply handed_update
          · simp [negotiated]
          · intro _ _
            split <;> simp
      · cases taken
  | checkGlobal id =>
      dsimp only [StreamSystem.step] at taken
      split at taken
      · next lookedUp =>
          cases taken
          apply handed_update
          · simp [lookedUp]
          · intro _ _
            split <;> simp
      · cases taken
  | checkProtocol id =>
      dsimp only [StreamSystem.step] at taken
      split at taken
      · next passed =>
          cases taken
          apply handed_update
          · simp [passed]
          · intro _ _
            split <;> simp
      · cases taken
  | deliver id full => exact absurd rfl (undelivered id full)

/-- A delivery hands the stream to the registration that authorized it exactly when the
listener was registered before the lookup. -/
theorem sameReceiver_deliver (tracked : StreamsTracked calls state) {id : StreamId} {full : Bool}
    (taken : StreamSystem.step calls state (.deliver id full) = some next) :
    (∀ other authorizedBy registration,
        next.streams other = .handed authorizedBy registration → registration = authorizedBy) ↔
      (∀ other authorizedBy registration,
        state.streams other = .handed authorizedBy registration → registration = authorizedBy) ∧
      RegisteredBeforeLookup calls state (.deliver id full) := by
  dsimp only [StreamSystem.step] at taken
  split at taken
  · next authorizedBy authorized =>
      have own := tracked.phases id
      rw [authorized] at own
      obtain ⟨waiting, -⟩ := own
      have others : ∀ other, other ≠ id → next.streams other = state.streams other := by
        intro other different
        cases taken
        exact Function.update_of_ne different _ _
      have self : next.streams id =
          match (state.registry.onInboundStream (calls id).protocol full).1 with
          | some registration => .handed authorizedBy registration
          | none => .dropped := by
        cases taken
        exact Function.update_self _ _ _
      constructor
      · intro same
        constructor
        · intro other byOther registration given
          have different : other ≠ id := by
            intro equal
            rw [equal, authorized] at given
            cases given
          rw [← others other different] at given
          exact same other byOther registration given
        · intro accepted listener found isOpen
          have receiver := Registry.onInboundStream_eq_some.mpr
            ⟨listener, found, isOpen, accepted, rfl⟩
          rw [receiver] at self
          rw [same id authorizedBy listener.registration self]
          exact waiting.below
      · intro both other byOther registration given
        by_cases equal : other = id
        · rw [equal, self] at given
          split at given
          · next received receiver =>
              obtain ⟨listener, found, isOpen, accepted, rfl⟩ :=
                Registry.onInboundStream_eq_some.mp receiver
              cases given
              exact waiting.only listener found (both.2 accepted listener found isOpen)
          · cases given
        · rw [others other equal] at given
          exact both.1 other byOther registration given
  · cases taken

theorem authorizedByReceiver_step (tracked : StreamsTracked calls state)
    {action : StreamStep StreamProtocol PeerSet PeerId StreamId}
    (taken : StreamSystem.step calls state action = some next) :
    AuthorizedByReceiver next ↔
      AuthorizedByReceiver state ∧ RegisteredBeforeLookup calls state action := by
  rw [authorizedByReceiver_iff tracked, authorizedByReceiver_iff (tracked.step taken)]
  by_cases delivery : ∃ id full, action = .deliver id full
  · obtain ⟨id, full, rfl⟩ := delivery
    exact sameReceiver_deliver tracked taken
  · have undelivered : ∀ id full, action ≠ .deliver id full := by
      intro id full same
      exact delivery ⟨id, full, same⟩
    have free : RegisteredBeforeLookup calls state action := by
      cases action with
      | deliver id full => exact absurd rfl (undelivered id full)
      | _ => trivial
    simp only [handed_step taken undelivered, free, and_true]

end Runs

variable [DecidableEq StreamProtocol] [DecidableEq PeerSet] [DecidableEq StreamId]

/-- A run hands every stream to the registration whose allow list authorized it exactly when
no listener accepts a stream that was registered after the stream's lookup. -/
theorem streams_reach_authorizing_listener_iff
    (calls : StreamId → InboundStream StreamProtocol PeerId)
    (globalAllowPolicy : GlobalAllowPolicy PeerSet) (sets : PeerSets PeerSet PeerId)
    (schedule : List (StreamStep StreamProtocol PeerSet PeerId StreamId))
    (state : StreamSystem StreamProtocol PeerSet PeerId StreamId)
    (reached : run (StreamSystem.step calls) (StreamSystem.start globalAllowPolicy sets) schedule =
      some state) :
    AuthorizedByReceiver state ↔
      EveryStep (StreamSystem.step calls) (RegisteredBeforeLookup calls)
        (StreamSystem.start globalAllowPolicy sets) schedule := by
  have both := run_induction
    (motive := fun schedule state => StreamsTracked calls state ∧
      (AuthorizedByReceiver state ↔
        EveryStep (StreamSystem.step calls) (RegisteredBeforeLookup calls)
          (StreamSystem.start globalAllowPolicy sets) schedule))
    ⟨StreamsTracked.start calls globalAllowPolicy sets, ?_⟩ ?_ reached
  · exact both.2
  · refine iff_of_true ?_ trivial
    intro id authorizedBy registration impossible
    cases impossible
  · intro actions before action after reachedBefore known taken
    refine ⟨known.1.step taken, ?_⟩
    rw [authorizedByReceiver_step known.1 taken, everyStep_snoc reachedBefore, known.2]

/-- Peer 1 opens a stream to protocol 21. -/
def oneInboundStream (_ : Unit) : InboundStream Nat Nat :=
  { peerId := 1, protocol := 21 }

/-- One stream from its negotiation to its delivery. -/
private def listenAndDeliver : List (StreamStep Nat Bool Nat Unit) :=
  [.registerListener 21 (.peerSet true), .negotiate (), .lookUp (), .checkGlobal (),
    .checkProtocol (), .deliver () false]

theorem streams_reach_authorizing_listener_iff_registered_once :
    ∃ state, run (StreamSystem.step oneInboundStream)
        (StreamSystem.start .allowAll fun peers _ => peers) listenAndDeliver = some state ∧
      state.streams () = .handed 0 0 ∧
      (AuthorizedByReceiver state ↔
        EveryStep (StreamSystem.step oneInboundStream) (RegisteredBeforeLookup oneInboundStream)
          (StreamSystem.start .allowAll fun peers _ => peers) listenAndDeliver) := by
  refine ⟨_, rfl, ?_, ?_⟩
  · rfl
  · exact streams_reach_authorizing_listener_iff oneInboundStream .allowAll
      (fun peers _ => peers) listenAndDeliver _ rfl

/-- The listener that admits peer 1 is replaced, after it has authorized a stream of that
peer, by one that admits nobody, and the stream is handed to the latter. -/
theorem stream_reaches_unauthorizing_listener :
    ∃ state, run (StreamSystem.step oneInboundStream)
        (StreamSystem.start .allowAll fun peers _ => peers)
        [.registerListener 21 (.peerSet true), .negotiate (), .lookUp (), .checkGlobal (),
          .checkProtocol (), .unregisterListener 21, .registerListener 21 (.peerSet false),
          .deliver () false] = some state ∧
      state.streams () = .handed 0 1 ∧ state.admittedBy () 1 = false ∧
      ¬ AuthorizedByReceiver state := by
  refine ⟨_, rfl, ?_, ?_, ?_⟩
  · rfl
  · rfl
  · intro authorized
    exact absurd (authorized () 0 1 rfl).1 (by decide)

end Fungi.Stream
