import Mathlib.Logic.Function.Basic

/-!
# The listener registry

`crates/stream/src/registry.rs` and `crates/stream/src/policy.rs`: the listeners of a node,
the allow lists they are registered with, and the decision about an inbound stream.  A
peer set is shared and can change after the list that names it was registered.
-/

namespace Fungi.Stream

variable {StreamProtocol PeerSet PeerId : Type}

/-- The peers that may open streams of any protocol. -/
inductive GlobalAllowPolicy (PeerSet : Type) where
  | allowAll
  | peerSet (peers : PeerSet)

/-- The peers that may open streams of one protocol. -/
inductive ProtocolAllowList (PeerSet : Type) where
  | inheritGlobal
  | peerSet (peers : PeerSet)

/-- Which list has refused a peer. -/
inductive AuthorizationRejectReason where
  | rejectedByGlobalAllowList
  | rejectedByProtocolAllowList
  deriving DecidableEq

/-- What the shared peer sets hold at one moment. -/
abbrev PeerSets (PeerSet PeerId : Type) := PeerSet → PeerId → Bool

/-- The first `match` of `authorize_inbound`. -/
def GlobalAllowPolicy.admits (policy : GlobalAllowPolicy PeerSet)
    (sets : PeerSets PeerSet PeerId) (peerId : PeerId) : Bool :=
  match policy with
  | .allowAll => true
  | .peerSet peers => sets peers peerId

/-- The second `match` of `authorize_inbound`, which reads its peer set at a later moment. -/
def ProtocolAllowList.admits (allowList : ProtocolAllowList PeerSet)
    (sets : PeerSets PeerSet PeerId) (peerId : PeerId) : Bool :=
  match allowList with
  | .inheritGlobal => true
  | .peerSet peers => sets peers peerId

/-- `registration` tells one registration from every other one ever made. -/
structure ListenerRegistration (PeerSet : Type) where
  registration : Nat
  allowList : ProtocolAllowList PeerSet

/-- `closed` names the registrations whose receiver has been dropped, `made` counts the
registrations, and `allowLists` remembers the list each was made with. -/
structure Registry (StreamProtocol PeerSet : Type) where
  globalAllowPolicy : GlobalAllowPolicy PeerSet
  listeners : StreamProtocol → Option (ListenerRegistration PeerSet)
  closed : Nat → Bool
  made : Nat
  allowLists : Nat → ProtocolAllowList PeerSet

namespace Registry

/-- A registry without listeners. -/
def new (globalAllowPolicy : GlobalAllowPolicy PeerSet) : Registry StreamProtocol PeerSet :=
  { globalAllowPolicy
    listeners := fun _ => none
    closed := fun _ => false
    made := 0
    allowLists := fun _ => .inheritGlobal }

/-- `self.listeners.retain(..)`. -/
def retainOpen (self : Registry StreamProtocol PeerSet) : Registry StreamProtocol PeerSet :=
  { self with
    listeners := fun protocol =>
      (self.listeners protocol).filter fun listener => !self.closed listener.registration }

variable [DecidableEq StreamProtocol]

/-- `none` is `AlreadyRegistered`. -/
def registerListener (self : Registry StreamProtocol PeerSet) (protocol : StreamProtocol)
    (allowList : ProtocolAllowList PeerSet) : Option Nat × Registry StreamProtocol PeerSet :=
  let self := self.retainOpen
  if (self.listeners protocol).isSome then (none, self)
  else
    (some self.made,
      { self with
        listeners := Function.update self.listeners protocol
          (some { registration := self.made, allowList })
        made := self.made + 1
        allowLists := Function.update self.allowLists self.made allowList })

/-- Give up a protocol, if it is registered. -/
def unregisterListener (self : Registry StreamProtocol PeerSet) (protocol : StreamProtocol) :
    Bool × Registry StreamProtocol PeerSet :=
  ((self.listeners protocol).isSome,
    { self with listeners := Function.update self.listeners protocol none })

/-- The listener of `protocol_allow_list`, whose list is handed out. -/
def protocolListener (self : Registry StreamProtocol PeerSet) (protocol : StreamProtocol) :
    Option (ListenerRegistration PeerSet) × Registry StreamProtocol PeerSet :=
  (self.retainOpen.listeners protocol, self.retainOpen)

/-- The registration the stream is handed to, if any; `full` says whether its channel is. -/
def onInboundStream (self : Registry StreamProtocol PeerSet) (protocol : StreamProtocol)
    (full : Bool) : Option Nat × Registry StreamProtocol PeerSet :=
  match self.listeners protocol with
  | some listener =>
      if self.closed listener.registration then
        (none, { self with listeners := Function.update self.listeners protocol none })
      else if full then (none, self)
      else (some listener.registration, self)
  | none => (none, self)

/-- The receiver of a registration is dropped. -/
def close (self : Registry StreamProtocol PeerSet) (registration : Nat) :
    Registry StreamProtocol PeerSet :=
  { self with closed := Function.update self.closed registration true }

omit [DecidableEq StreamProtocol] in
theorem listeners_retainOpen {self : Registry StreamProtocol PeerSet} {protocol : StreamProtocol}
    {listener : ListenerRegistration PeerSet} :
    self.retainOpen.listeners protocol = some listener ↔
      self.listeners protocol = some listener ∧ self.closed listener.registration = false := by
  unfold retainOpen
  rw [Option.filter_eq_some_iff, Bool.not_eq_true']

theorem onInboundStream_eq_some {self : Registry StreamProtocol PeerSet}
    {protocol : StreamProtocol} {full : Bool} {registration : Nat} :
    (self.onInboundStream protocol full).1 = some registration ↔
      ∃ listener, self.listeners protocol = some listener ∧
        self.closed listener.registration = false ∧ full = false ∧
        listener.registration = registration := by
  unfold onInboundStream
  cases found : self.listeners protocol with
  | none => simp
  | some listener =>
      cases receiver : self.closed listener.registration with
      | true => simp [receiver]
      | false => cases full <;> simp [receiver]

/-- No listener below the count is new, and no registration made changes its list. -/
structure Evolves (before after : Registry StreamProtocol PeerSet) : Prop where
  made : before.made ≤ after.made
  policy : after.globalAllowPolicy = before.globalAllowPolicy
  allowLists : ∀ registration, registration < before.made →
    after.allowLists registration = before.allowLists registration
  listeners : ∀ protocol listener, after.listeners protocol = some listener →
    before.listeners protocol = some listener ∨
      before.made ≤ listener.registration ∧ listener.registration < after.made ∧
        after.allowLists listener.registration = listener.allowList

omit [DecidableEq StreamProtocol] in
/-- An operation that makes no registration. -/
theorem Evolves.of_listeners {before after : Registry StreamProtocol PeerSet}
    (made : after.made = before.made) (policy : after.globalAllowPolicy = before.globalAllowPolicy)
    (allowLists : after.allowLists = before.allowLists)
    (listeners : ∀ protocol listener, after.listeners protocol = some listener →
      before.listeners protocol = some listener) : Evolves before after := by
  refine ⟨Nat.le_of_eq made.symm, policy, ?_, ?_⟩
  · intro registration _
    rw [allowLists]
  · intro protocol listener found
    exact Or.inl (listeners protocol listener found)

omit [DecidableEq StreamProtocol] in
theorem Evolves.refl (self : Registry StreamProtocol PeerSet) : Evolves self self :=
  .of_listeners rfl rfl rfl fun _ _ found => found

omit [DecidableEq StreamProtocol] in
theorem evolves_retainOpen (self : Registry StreamProtocol PeerSet) :
    Evolves self self.retainOpen := by
  refine Evolves.of_listeners rfl rfl rfl ?_
  intro protocol listener found
  exact (listeners_retainOpen.mp found).1

theorem evolves_drop (self : Registry StreamProtocol PeerSet) (protocol : StreamProtocol) :
    Evolves self { self with listeners := Function.update self.listeners protocol none } := by
  refine Evolves.of_listeners rfl rfl rfl ?_
  intro other listener found
  dsimp only at found
  rw [Function.update_apply] at found
  split at found
  · cases found
  · exact found

theorem evolves_onInboundStream (self : Registry StreamProtocol PeerSet)
    (protocol : StreamProtocol) (full : Bool) :
    Evolves self (self.onInboundStream protocol full).2 := by
  unfold onInboundStream
  split
  · split
    · exact evolves_drop self protocol
    · split
      · exact Evolves.refl self
      · exact Evolves.refl self
  · exact Evolves.refl self

theorem evolves_registerListener (self : Registry StreamProtocol PeerSet)
    (protocol : StreamProtocol) (allowList : ProtocolAllowList PeerSet) :
    Evolves self (self.registerListener protocol allowList).2 := by
  unfold registerListener
  dsimp only
  split
  · exact evolves_retainOpen self
  · refine ⟨Nat.le_succ _, rfl, ?_, ?_⟩
    · intro registration below
      exact Function.update_of_ne (Nat.ne_of_lt below) _ _
    · intro other listener found
      dsimp only at found ⊢
      rw [Function.update_apply] at found
      split at found
      · right
        cases found
        exact ⟨Nat.le_refl _, Nat.lt_succ_self _, Function.update_self _ _ _⟩
      · exact Or.inl (listeners_retainOpen.mp found).1

/-- Every listener is one of the registrations made, with the list it was made with. -/
def Numbered (self : Registry StreamProtocol PeerSet) : Prop :=
  ∀ protocol listener, self.listeners protocol = some listener →
    listener.registration < self.made ∧
      self.allowLists listener.registration = listener.allowList

omit [DecidableEq StreamProtocol] in
theorem Numbered.evolves {before after : Registry StreamProtocol PeerSet}
    (numbered : before.Numbered) (evolves : Evolves before after) : after.Numbered := by
  intro protocol listener found
  rcases evolves.listeners protocol listener found with old | new
  · obtain ⟨below, list⟩ := numbered protocol listener old
    exact ⟨Nat.lt_of_lt_of_le below evolves.made, (evolves.allowLists _ below).trans list⟩
  · exact new.2

end Registry

end Fungi.Stream
