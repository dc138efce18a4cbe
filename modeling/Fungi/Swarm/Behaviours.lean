import Fungi.Lib.Program
import Fungi.Lib.Run

/-!
# The composed behaviours of a swarm

`crates/stream/src/behaviour.rs`, the connections of `crates/stream/src/registry.rs`,
`crates/swarm/src/behaviours/mod.rs` and `crates/swarm/src/behaviours/ext/behaviour.rs`: a
swarm asks the fields of its composed behaviour in turn for the handler of a new connection,
and the first of them that denies it ends the connection.  The stream behaviour comes first
and records the connection while it makes its handler.
-/

namespace Fungi.Stream

variable {ConnectionId : Type} [DecidableEq ConnectionId]

/-- The sender is told from all others by the number of its channel. -/
structure ConnectionEntry where
  outboundSender : Nat

/-- The `connections` of a `Registry`; `channels` counts the channels made for them. -/
structure Connections (ConnectionId : Type) where
  entries : ConnectionId → Option ConnectionEntry
  channels : Nat

namespace Connections

/-- No connection yet. -/
def new : Connections ConnectionId :=
  { entries := fun _ => none, channels := 0 }

/-- Answers the channel whose receiver the handler keeps. -/
def attachConnection (self : Connections ConnectionId) (connectionId : ConnectionId) :
    Nat × Connections ConnectionId :=
  (self.channels,
    { entries :=
        Function.update self.entries connectionId (some { outboundSender := self.channels })
      channels := self.channels + 1 })

/-- The channel of a connection's entry. -/
def outboundSender (self : Connections ConnectionId) (connectionId : ConnectionId) : Option Nat :=
  (self.entries connectionId).map fun entry => entry.outboundSender

/-- A closed connection loses its entry. -/
def onConnectionClosed (self : Connections ConnectionId) (connectionId : ConnectionId) :
    Connections ConnectionId :=
  { self with entries := Function.update self.entries connectionId none }

omit [DecidableEq ConnectionId] in
@[simp] theorem isSome_outboundSender (self : Connections ConnectionId)
    (connectionId : ConnectionId) :
    (self.outboundSender connectionId).isSome = (self.entries connectionId).isSome := by
  simp [outboundSender]

@[simp] theorem isSome_attachConnection (self : Connections ConnectionId)
    (connectionId found : ConnectionId) :
    ((self.attachConnection connectionId).2.entries found).isSome =
      (decide (found = connectionId) || (self.entries found).isSome) := by
  by_cases same : found = connectionId <;> simp [attachConnection, same]

@[simp] theorem isSome_onConnectionClosed (self : Connections ConnectionId)
    (connectionId found : ConnectionId) :
    ((self.onConnectionClosed connectionId).entries found).isSome =
      (!decide (found = connectionId) && (self.entries found).isSome) := by
  by_cases same : found = connectionId <;> simp [onConnectionClosed, same]

end Connections

end Fungi.Stream

namespace Fungi.Swarm

open Fungi.Lib Fungi.Lib.Program Fungi.Stream

variable {ConnectionId PeerId : Type} [DecidableEq ConnectionId]

/-- The fields between `stream` and `fungi_ext`, in the order of their declaration. -/
inductive LibraryField where
  | mdns
  | ping
  | identify
  | relay
  | dcutr
  deriving DecidableEq

/-- The behaviours of the library, in the order of the fields. -/
def LibraryField.all : List LibraryField := [.mdns, .ping, .identify, .relay, .dcutr]

theorem LibraryField.mem_all (field : LibraryField) : field ∈ LibraryField.all := by
  cases field <;> decide

/-- Which of the library's behaviours admit one connection. -/
abbrev Verdicts := LibraryField → Bool

/-- Who has denied a connection. -/
inductive ConnectionDenied (PeerId : Type) where
  | library (field : LibraryField)
  | notAllowed (peer : PeerId)

/-- The registry of the `stream` field and the allow list that `fungi_ext` shares. -/
structure FungiBehaviours (ConnectionId PeerId : Type) where
  stream : Connections ConnectionId
  incomingAllowedPeers : PeerId → Bool

/-- The events that the swarm tells its behaviours. -/
inductive FromSwarm (ConnectionId : Type) where
  | connectionClosed (connectionId : ConnectionId)
  | other

namespace FungiBehaviours

/-- The receiver goes into the handler, which no other field looks at. -/
def attach (connectionId : ConnectionId) :
    Program (FungiBehaviours ConnectionId PeerId) (ConnectionDenied PeerId) Unit :=
  modify fun self => { self with stream := (self.stream.attachConnection connectionId).2 }

/-- A behaviour of the library admits a connection or denies it. -/
def askLibrary (verdicts : Verdicts) (field : LibraryField) :
    Program (FungiBehaviours ConnectionId PeerId) (ConnectionDenied PeerId) Unit :=
  gets (fun _ => verdicts field) >>= fun admitted =>
    if admitted then pure () else fail (.library field)

/-- `handle_established_inbound_connection` of `ext::Behaviour`. -/
def askAllowList (peer : PeerId) :
    Program (FungiBehaviours ConnectionId PeerId) (ConnectionDenied PeerId) Unit :=
  gets (fun self => self.incomingAllowedPeers peer) >>= fun allowed =>
    if allowed then pure () else fail (.notAllowed peer)

/-- The stream behaviour is asked first, the allow list last. -/
def handleEstablishedInboundConnection (verdicts : Verdicts) (connectionId : ConnectionId)
    (peer : PeerId) :
    Program (FungiBehaviours ConnectionId PeerId) (ConnectionDenied PeerId) Unit := do
  attach connectionId
  forEach (askLibrary verdicts) LibraryField.all
  askAllowList peer

/-- `ext::Behaviour` denies no outbound connection. -/
def handleEstablishedOutboundConnection (verdicts : Verdicts) (connectionId : ConnectionId) :
    Program (FungiBehaviours ConnectionId PeerId) (ConnectionDenied PeerId) Unit := do
  attach connectionId
  forEach (askLibrary verdicts) LibraryField.all

/-- Only the stream behaviour keeps account of connections. -/
def onSwarmEvent (self : FungiBehaviours ConnectionId PeerId) :
    FromSwarm ConnectionId → FungiBehaviours ConnectionId PeerId
  | .connectionClosed connectionId =>
      { self with stream := self.stream.onConnectionClosed connectionId }
  | .other => self

omit [DecidableEq ConnectionId] in
theorem asks_askLibrary (verdicts : Verdicts) (field : LibraryField) :
    Asks (fun _ => verdicts field = true)
      (askLibrary verdicts field :
        Program (FungiBehaviours ConnectionId PeerId) (ConnectionDenied PeerId) Unit) :=
  asks_gets _ _

omit [DecidableEq ConnectionId] in
theorem asks_askAllowList (peer : PeerId) :
    Asks (fun self => self.incomingAllowedPeers peer = true)
      (askAllowList peer :
        Program (FungiBehaviours ConnectionId PeerId) (ConnectionDenied PeerId) Unit) :=
  asks_gets _ _

/-- Whatever the other fields answer, the stream behaviour has recorded the connection. -/
theorem handleEstablishedInboundConnection_spec (verdicts : Verdicts)
    (connectionId : ConnectionId) (peer : PeerId) (self : FungiBehaviours ConnectionId PeerId) :
    let ran := handleEstablishedInboundConnection verdicts connectionId peer self
    ran.2 = { self with stream := (self.stream.attachConnection connectionId).2 } ∧
      (ran.1 = .ok () ↔
        (∀ field, verdicts field = true) ∧ self.incomingAllowedPeers peer = true) := by
  let attached := { self with stream := (self.stream.attachConnection connectionId).2 }
  have asked := ((Asks.forEach (asks_askLibrary verdicts) LibraryField.all).bind
    (asks_askAllowList peer)) attached
  refine ⟨asked.1, asked.2.trans ?_⟩
  simp [LibraryField.mem_all, attached]

theorem handleEstablishedOutboundConnection_spec (verdicts : Verdicts)
    (connectionId : ConnectionId) (self : FungiBehaviours ConnectionId PeerId) :
    let ran := handleEstablishedOutboundConnection verdicts connectionId self
    ran.2 = { self with stream := (self.stream.attachConnection connectionId).2 } ∧
      (ran.1 = .ok () ↔ ∀ field, verdicts field = true) := by
  let attached := { self with stream := (self.stream.attachConnection connectionId).2 }
  have asked := (Asks.forEach (asks_askLibrary verdicts) LibraryField.all) attached
  refine ⟨asked.1, asked.2.trans ?_⟩
  simp [LibraryField.mem_all]

end FungiBehaviours

/-! ## The connections of the swarm -/

/-- `established` are the connections that have been established and not yet closed, `used` the
ids given out so far. -/
structure ConnectionPool (ConnectionId PeerId : Type) where
  behaviours : FungiBehaviours ConnectionId PeerId
  established : ConnectionId → Bool
  used : ConnectionId → Bool

/-- What happens to the connections of a pool. -/
inductive PoolEvent (ConnectionId PeerId : Type) where
  | inbound (verdicts : Verdicts) (connectionId : ConnectionId) (peer : PeerId)
  | outbound (verdicts : Verdicts) (connectionId : ConnectionId) (peer : PeerId)
  | connectionClosed (connectionId : ConnectionId)
  | setIncomingAllowedPeers (peers : PeerId → Bool)
  | other

namespace ConnectionPool

/-- A pool without connections. -/
def start (peers : PeerId → Bool) : ConnectionPool ConnectionId PeerId :=
  { behaviours := { stream := .new, incomingAllowedPeers := peers }
    established := fun _ => false
    used := fun _ => false }

/-- What the swarm does once its behaviour has answered: a connection that is denied is dropped,
and its failure reported as an event of another kind. -/
def settle (self : ConnectionPool ConnectionId PeerId) (connectionId : ConnectionId)
    (ran : Except (ConnectionDenied PeerId) Unit × FungiBehaviours ConnectionId PeerId) :
    ConnectionPool ConnectionId PeerId :=
  let used := Function.update self.used connectionId true
  match ran with
  | (.ok (), behaviours) =>
      { behaviours := behaviours.onSwarmEvent .other
        established := Function.update self.established connectionId true
        used }
  | (.error _, behaviours) =>
      { behaviours := behaviours.onSwarmEvent .other, established := self.established, used }

/-- No id is given out twice, and only an established connection can close. -/
def step (self : ConnectionPool ConnectionId PeerId) :
    PoolEvent ConnectionId PeerId → Option (ConnectionPool ConnectionId PeerId)
  | .inbound verdicts connectionId peer =>
      if self.used connectionId then none
      else some (self.settle connectionId
        (FungiBehaviours.handleEstablishedInboundConnection verdicts connectionId peer
          self.behaviours))
  | .outbound verdicts connectionId _ =>
      if self.used connectionId then none
      else some (self.settle connectionId
        (FungiBehaviours.handleEstablishedOutboundConnection verdicts connectionId
          self.behaviours))
  | .connectionClosed connectionId =>
      if self.established connectionId then
        some
          { self with
            behaviours := self.behaviours.onSwarmEvent (.connectionClosed connectionId)
            established := Function.update self.established connectionId false }
      else none
  | .setIncomingAllowedPeers peers =>
      some { self with behaviours := { self.behaviours with incomingAllowedPeers := peers } }
  | .other => some { self with behaviours := self.behaviours.onSwarmEvent .other }

/-- The keys of the connection table are the connections that are established. -/
def Exact (self : ConnectionPool ConnectionId PeerId) : Prop :=
  ∀ connectionId, (self.behaviours.stream.entries connectionId).isSome =
    self.established connectionId

/-- Every field of the composed behaviour admits the connection of the event. -/
def Admitted (self : ConnectionPool ConnectionId PeerId) : PoolEvent ConnectionId PeerId → Prop
  | .inbound verdicts _ peer =>
      (∀ field, verdicts field = true) ∧ self.behaviours.incomingAllowedPeers peer = true
  | .outbound verdicts _ _ => ∀ field, verdicts field = true
  | _ => True

/-- Only ids given out are established or in the table. -/
structure Fresh (pool : ConnectionPool ConnectionId PeerId) : Prop where
  established : ∀ connectionId, pool.established connectionId = true →
    pool.used connectionId = true
  attached : ∀ connectionId, (pool.behaviours.stream.entries connectionId).isSome = true →
    pool.used connectionId = true

/-- The swarm's turn after the stream behaviour has recorded the connection. -/
theorem settle_eq {self : ConnectionPool ConnectionId PeerId} {connectionId : ConnectionId}
    {ran : Except (ConnectionDenied PeerId) Unit × FungiBehaviours ConnectionId PeerId}
    {admitted : Prop} [Decidable admitted] (answer : ran.1 = .ok () ↔ admitted) :
    self.settle connectionId ran =
      { behaviours := ran.2
        established := if admitted then Function.update self.established connectionId true
          else self.established
        used := Function.update self.used connectionId true } := by
  cases ran with
  | mk outcome behaviours =>
      cases outcome with
      | ok value => simp_all [settle, FungiBehaviours.onSwarmEvent]
      | error denied => simp_all [settle, FungiBehaviours.onSwarmEvent]

section Settling

variable {self : ConnectionPool ConnectionId PeerId} {connectionId : ConnectionId}
  {ran : Except (ConnectionDenied PeerId) Unit × FungiBehaviours ConnectionId PeerId}
  {admitted : Prop}
  (recorded : ran.2 =
    { self.behaviours with stream := (self.behaviours.stream.attachConnection connectionId).2 })
  (answer : ran.1 = .ok () ↔ admitted)

include recorded answer

theorem fresh_settle (fresh : self.Fresh) : (self.settle connectionId ran).Fresh := by
  classical
  rw [settle_eq answer, recorded]
  constructor
  · intro found isEstablished
    by_cases same : found = connectionId
    · simp [same]
    · have before : self.established found = true := by
        split at isEstablished
        · simpa [same] using isEstablished
        · exact isEstablished
      simpa [same] using fresh.established found before
  · intro found isAttached
    by_cases same : found = connectionId
    · simp [same]
    · have before : (self.behaviours.stream.entries found).isSome = true := by
        simpa [same] using isAttached
      simpa [same] using fresh.attached found before

/-- A new connection keeps the table exact exactly when no field denies it. -/
theorem exact_settle (fresh : self.Fresh) (exact : self.Exact)
    (unused : self.used connectionId = false) :
    (self.settle connectionId ran).Exact ↔ admitted := by
  classical
  have notEstablished : self.established connectionId = false := by
    by_contra isEstablished
    have isUsed := fresh.established connectionId (by simpa using isEstablished)
    rw [unused] at isUsed
    cases isUsed
  rw [settle_eq answer, recorded]
  constructor
  · intro exactAfter
    by_contra denied
    have atConnection := exactAfter connectionId
    simp [denied, notEstablished] at atConnection
  · intro holds found
    by_cases same : found = connectionId
    · simp [same, holds]
    · simpa [same, holds] using exact found

end Settling

theorem fresh_step {self next : ConnectionPool ConnectionId PeerId}
    {event : PoolEvent ConnectionId PeerId} (fresh : self.Fresh)
    (taken : self.step event = some next) : next.Fresh := by
  cases event with
  | inbound verdicts connectionId peer =>
      dsimp only [step] at taken
      split at taken
      · cases taken
      · cases taken
        have answered := FungiBehaviours.handleEstablishedInboundConnection_spec verdicts
          connectionId peer self.behaviours
        exact fresh_settle answered.1 answered.2 fresh
  | outbound verdicts connectionId peer =>
      dsimp only [step] at taken
      split at taken
      · cases taken
      · cases taken
        have answered := FungiBehaviours.handleEstablishedOutboundConnection_spec verdicts
          connectionId self.behaviours
        exact fresh_settle answered.1 answered.2 fresh
  | connectionClosed connectionId =>
      dsimp only [step] at taken
      split at taken
      · cases taken
        constructor
        · intro found isEstablished
          by_cases same : found = connectionId
          · simp [same] at isEstablished
          · exact fresh.established found (by simpa [same] using isEstablished)
        · intro found isAttached
          apply fresh.attached found
          simp only [FungiBehaviours.onSwarmEvent, Connections.isSome_onConnectionClosed,
            Bool.and_eq_true] at isAttached
          exact isAttached.2
      · cases taken
  | setIncomingAllowedPeers peers =>
      cases taken
      exact ⟨fresh.established, fresh.attached⟩
  | other =>
      cases taken
      exact ⟨fresh.established, fresh.attached⟩

theorem exact_step {self next : ConnectionPool ConnectionId PeerId}
    {event : PoolEvent ConnectionId PeerId} (fresh : self.Fresh) (exact : self.Exact)
    (taken : self.step event = some next) : next.Exact ↔ self.Admitted event := by
  cases event with
  | inbound verdicts connectionId peer =>
      dsimp only [step] at taken
      split at taken
      · cases taken
      · next unused =>
          cases taken
          have answered := FungiBehaviours.handleEstablishedInboundConnection_spec verdicts
            connectionId peer self.behaviours
          exact exact_settle answered.1 answered.2 fresh exact (by simpa using unused)
  | outbound verdicts connectionId peer =>
      dsimp only [step] at taken
      split at taken
      · cases taken
      · next unused =>
          cases taken
          have answered := FungiBehaviours.handleEstablishedOutboundConnection_spec verdicts
            connectionId self.behaviours
          exact exact_settle answered.1 answered.2 fresh exact (by simpa using unused)
  | connectionClosed connectionId =>
      dsimp only [step] at taken
      split at taken
      · cases taken
        simp only [Admitted, iff_true]
        intro found
        by_cases same : found = connectionId
        · simp [FungiBehaviours.onSwarmEvent, same]
        · simpa [FungiBehaviours.onSwarmEvent, same] using exact found
      · cases taken
  | setIncomingAllowedPeers peers =>
      cases taken
      exact iff_of_true exact trivial
  | other =>
      cases taken
      exact iff_of_true exact trivial

/-- The table is exact in every state of a run exactly when no behaviour of the run's swarm
denies a connection. -/
theorem exact_iff_admitted {peers : PeerId → Bool} {events : List (PoolEvent ConnectionId PeerId)}
    {final : ConnectionPool ConnectionId PeerId}
    (reached : run step (start peers) events = some final) :
    EveryState step Exact (start peers) events ↔ EveryStep step Admitted (start peers) events := by
  refine @everyState_iff_everyStep _ _ step Admitted Fresh Exact ?_ ?_ _ _ _ ?_ ?_ reached
  · intro self event next fresh taken
    exact fresh_step fresh taken
  · intro self event next fresh exact taken
    exact exact_step fresh exact taken
  · constructor
    · intro found isEstablished
      cases isEstablished
    · intro found isAttached
      cases isAttached
  · intro found
    rfl

theorem exact_iff_admitted_demo :
    let events : List (PoolEvent Nat Bool) :=
      [.inbound (fun _ => true) 0 true, .connectionClosed 0]
    EveryState step Exact (start id) events ↔ EveryStep step Admitted (start id) events :=
  @exact_iff_admitted Nat Bool _ id _ _ rfl

/-- A peer outside the allow list connects, and is denied after its connection was recorded. -/
theorem denied_inbound_recorded :
    ∃ final, run step (start fun _ => false)
        [PoolEvent.inbound (fun _ => true) (0 : Nat) (0 : Nat)] = some final ∧
      final.behaviours.stream.outboundSender 0 = some 0 ∧ final.established 0 = false ∧
        ¬ final.Exact := by
  refine ⟨_, rfl, rfl, rfl, ?_⟩
  intro exact
  exact absurd (exact 0) (by decide)

/-! ## A denied connection is never forgotten -/

/-- The connection has an entry, and no event of it can come any more. -/
structure Leaked (pool : ConnectionPool ConnectionId PeerId) (connectionId : ConnectionId) :
    Prop where
  used : pool.used connectionId = true
  gone : pool.established connectionId = false
  attached : (pool.behaviours.stream.entries connectionId).isSome = true

theorem leaked_settle_of_denied {self : ConnectionPool ConnectionId PeerId}
    {connectionId : ConnectionId}
    {ran : Except (ConnectionDenied PeerId) Unit × FungiBehaviours ConnectionId PeerId}
    {admitted : Prop} (fresh : self.Fresh) (unused : self.used connectionId = false)
    (recorded : ran.2 =
      { self.behaviours with stream := (self.behaviours.stream.attachConnection connectionId).2 })
    (answer : ran.1 = .ok () ↔ admitted) (denied : ¬ admitted) :
    (self.settle connectionId ran).Leaked connectionId := by
  classical
  rw [settle_eq answer, recorded, if_neg denied]
  refine ⟨by simp, ?_, by simp⟩
  by_contra isEstablished
  have isUsed := fresh.established connectionId (by simpa using isEstablished)
  rw [unused] at isUsed
  cases isUsed

theorem leaked_settle {self : ConnectionPool ConnectionId PeerId}
    {connectionId other : ConnectionId}
    {ran : Except (ConnectionDenied PeerId) Unit × FungiBehaviours ConnectionId PeerId}
    {admitted : Prop} (leaked : self.Leaked connectionId) (unused : self.used other = false)
    (recorded : ran.2 =
      { self.behaviours with stream := (self.behaviours.stream.attachConnection other).2 })
    (answer : ran.1 = .ok () ↔ admitted) :
    (self.settle other ran).Leaked connectionId := by
  classical
  have apart : connectionId ≠ other := by
    intro same
    rw [← same, leaked.used] at unused
    cases unused
  rw [settle_eq answer, recorded]
  refine ⟨by simp [leaked.used, apart], ?_, by simp [leaked.attached]⟩
  split
  · simpa [apart] using leaked.gone
  · exact leaked.gone

theorem leaked_step {self next : ConnectionPool ConnectionId PeerId}
    {event : PoolEvent ConnectionId PeerId} {connectionId : ConnectionId}
    (leaked : self.Leaked connectionId) (taken : self.step event = some next) :
    next.Leaked connectionId := by
  cases event with
  | inbound verdicts other peer =>
      dsimp only [step] at taken
      split at taken
      · cases taken
      · next unused =>
          cases taken
          have answered := FungiBehaviours.handleEstablishedInboundConnection_spec verdicts
            other peer self.behaviours
          exact leaked_settle leaked (by simpa using unused) answered.1 answered.2
  | outbound verdicts other peer =>
      dsimp only [step] at taken
      split at taken
      · cases taken
      · next unused =>
          cases taken
          have answered := FungiBehaviours.handleEstablishedOutboundConnection_spec verdicts
            other self.behaviours
          exact leaked_settle leaked (by simpa using unused) answered.1 answered.2
  | connectionClosed other =>
      dsimp only [step] at taken
      split at taken
      · next isEstablished =>
          cases taken
          have apart : connectionId ≠ other := by
            intro same
            rw [← same, leaked.gone] at isEstablished
            cases isEstablished
          refine ⟨leaked.used, by simp [leaked.gone, apart], ?_⟩
          simp [FungiBehaviours.onSwarmEvent, leaked.attached, apart]
      · cases taken
  | setIncomingAllowedPeers peers =>
      cases taken
      exact ⟨leaked.used, leaked.gone, leaked.attached⟩
  | other =>
      cases taken
      exact ⟨leaked.used, leaked.gone, leaked.attached⟩

/-- Once an inbound connection has been denied, `outbound_sender` answers for it for good. -/
theorem denied_inbound_never_forgotten {self final : ConnectionPool ConnectionId PeerId}
    {verdicts : Verdicts} {connectionId : ConnectionId} {peer : PeerId}
    {events : List (PoolEvent ConnectionId PeerId)} (fresh : self.Fresh)
    (denied : ¬ self.Admitted (.inbound verdicts connectionId peer))
    (reached : run step self (.inbound verdicts connectionId peer :: events) = some final) :
    (final.behaviours.stream.outboundSender connectionId).isSome = true ∧
      final.established connectionId = false := by
  rw [run_cons, Option.bind_eq_some_iff] at reached
  obtain ⟨middle, taken, remaining⟩ := reached
  have answered := FungiBehaviours.handleEstablishedInboundConnection_spec verdicts
    connectionId peer self.behaviours
  have leaked : middle.Leaked connectionId := by
    dsimp only [step] at taken
    split at taken
    · cases taken
    · next unused =>
        cases taken
        exact leaked_settle_of_denied fresh (by simpa using unused) answered.1 answered.2 denied
  have stays : final.Leaked connectionId := by
    apply run_induction (motive := fun _ state => state.Leaked connectionId) leaked _ remaining
    intro _ state event next _ still taken
    exact leaked_step still taken
  simpa using And.intro stays.attached stays.gone

end ConnectionPool

end Fungi.Swarm
