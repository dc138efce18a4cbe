import Fungi.Daemon.ForwardingRules
import Fungi.Lib.Run
import Fungi.Stream.Registry

/-!
# Listening rules and the listener registry

The listening rules of `TcpTunnelingControl` over the registry that the node's other components
share with it.  The rules are kept by a rule id with parts of the protocol replaced, the registry by
the protocol.
-/

namespace Fungi.Daemon.ListeningRegistry

open Fungi.Lib Fungi.Runtime Fungi.Stream

/-! ## The control -/

/-- A rule and the registration whose streams its task forwards. -/
structure ListeningRuleState where
  rule : ListeningRule
  registration : Nat

/-- `accepted` remembers the registrations that were made for the rules. -/
structure ListeningNode (PeerSet : Type) where
  listeningRules : BTreeMap String ListeningRuleState
  registry : Registry String PeerSet
  accepted : List Nat

variable {PeerSet : Type}

namespace ListeningNode

/-- A node without rules. -/
def new (globalAllowPolicy : GlobalAllowPolicy PeerSet) : ListeningNode PeerSet where
  listeningRules := ∅
  registry := .new globalAllowPolicy
  accepted := []

/-- Add a rule under its id and register its protocol, unless either is taken. -/
def addListeningRule (parsers : AddressParsers) (self : ListeningNode PeerSet)
    (rule : ListeningRule) : Except Error String × ListeningNode PeerSet :=
  let ruleId := generateListeningRuleId rule
  if ruleId ∈ self.listeningRules then
    (.error (.message s!"Listening rule already exists: {ruleId}"), self)
  else
    match parsers.socketAddr s!"{rule.host}:{rule.port}" with
    | .error error => (.error (.message s!"Invalid local socket address: {error}"), self)
    | .ok () =>
        match listeningProtocol rule with
        | .error error => (.error error, self)
        | .ok protocol =>
            match self.registry.registerListener protocol .inheritGlobal with
            | (none, registry) => (.error alreadyRegistered, { self with registry })
            | (some registration, registry) =>
                (.ok ruleId,
                  { listeningRules := self.listeningRules.insert ruleId { rule, registration }
                    registry
                    accepted := registration :: self.accepted })

/-- The protocol of the rule is given up.  Its task is aborted, and drops its receiver later. -/
def stopListening (registry : Registry String PeerSet) (state : ListeningRuleState) :
    Registry String PeerSet :=
  match listeningProtocol state.rule with
  | .error _ => registry
  | .ok protocol => (registry.unregisterListener protocol).2

/-- Take a rule out, and its protocol with it. -/
def removeListeningRule (self : ListeningNode PeerSet) (ruleId : String) :
    Except Error Unit × ListeningNode PeerSet :=
  match self.listeningRules[ruleId]? with
  | none => (.error (.message s!"Listening rule not found: {ruleId}"), self)
  | some state =>
      let listeningRules := self.listeningRules.erase ruleId
      match listeningProtocol state.rule with
      | .error error => (.error error, { self with listeningRules })
      | .ok _ =>
          (.ok (), { self with listeningRules, registry := stopListening self.registry state })

/-- The listening half of `stop_all`. -/
def stopAll (self : ListeningNode PeerSet) : ListeningNode PeerSet :=
  { self with
    listeningRules := ∅
    registry := (self.listeningRules.toList.map (·.2)).foldl stopListening self.registry }

end ListeningNode

/-! ## Runs -/

/-- What else happens to the registry: another component listens to a protocol, the receiver of a
registration is dropped, a stream comes in, or the listeners are looked up. -/
inductive OtherAction (PeerSet : Type) where
  | listen (protocol : String) (allowList : ProtocolAllowList PeerSet)
  | drop (registration : Nat)
  | inbound (protocol : String) (full : Bool)
  | lookUp

/-- What changes the rules or the registry. -/
inductive ListeningAction (PeerSet : Type) where
  | addListeningRule (rule : ListeningRule)
  | removeListeningRule (ruleId : String)
  | stopAll
  | other (action : OtherAction PeerSet)

/-- The action may register the protocol. -/
def ListeningAction.Takes (protocol : String) : ListeningAction PeerSet → Prop
  | .addListeningRule rule => listeningProtocol rule = .ok protocol
  | .other (.listen listened _) => listened = protocol
  | _ => False

namespace ListeningNode

/-- The registry after it.  A receiver that exists is dropped, but the task of a rule keeps its. -/
def others (self : ListeningNode PeerSet) :
    OtherAction PeerSet → Option (Registry String PeerSet)
  | .listen protocol allowList => some (self.registry.registerListener protocol allowList).2
  | .drop registration =>
      if self.registry.made ≤ registration ∨
          self.listeningRules.toList.any (fun item => item.2.registration = registration) then none
      else some (self.registry.close registration)
  | .inbound protocol full => some (self.registry.onInboundStream protocol full).2
  | .lookUp => some self.registry.retainOpen

/-- An action is a step whether it succeeds or fails. -/
def step (parsers : AddressParsers) (self : ListeningNode PeerSet) :
    ListeningAction PeerSet → Option (ListeningNode PeerSet)
  | .addListeningRule rule => some (self.addListeningRule parsers rule).2
  | .removeListeningRule ruleId => some (self.removeListeningRule ruleId).2
  | .stopAll => some self.stopAll
  | .other action => (self.others action).map fun registry => { self with registry }

/-- A listening rule has the protocol. -/
def HasRule (self : ListeningNode PeerSet) (ruleId protocol : String) : Prop :=
  ∃ state, self.listeningRules[ruleId]? = some state ∧ listeningProtocol state.rule = .ok protocol

/-- The registry has a listener of this protocol. -/
def Listens (self : ListeningNode PeerSet) (protocol : String)
    (listener : ListenerRegistration PeerSet) : Prop :=
  self.registry.listeners protocol = some listener ∧
    self.registry.closed listener.registration = false

/-- The protocol is registered by the control. -/
def Registers (self : ListeningNode PeerSet) (protocol : String) : Prop :=
  ∃ listener, self.Listens protocol listener ∧ listener.registration ∈ self.accepted

/-- Nobody has registered the protocol. -/
def IsFree (self : ListeningNode PeerSet) (protocol : String) : Prop :=
  ∀ listener, ¬ self.Listens protocol listener

/-- The rules and the registrations made for them correspond. -/
structure Consistent (parsers : AddressParsers) (node : ListeningNode PeerSet) : Prop where
  numbered : node.registry.Numbered
  made : ∀ registration ∈ node.accepted, registration < node.registry.made
  closed : ∀ registration, node.registry.closed registration = true →
    registration < node.registry.made
  ruleIds : ∀ (ruleId : String) (state : ListeningRuleState),
    node.listeningRules[ruleId]? = some state → generateListeningRuleId state.rule = ruleId ∧
      parsers.socketAddr s!"{state.rule.host}:{state.rule.port}" = .ok ()
  listed : ∀ (ruleId : String) (state : ListeningRuleState),
    node.listeningRules[ruleId]? = some state →
      ∃ protocol listener, listeningProtocol state.rule = .ok protocol ∧
        node.Listens protocol listener ∧ listener.registration = state.registration ∧
          state.registration ∈ node.accepted
  apart : ∀ left right protocol, node.HasRule left protocol → node.HasRule right protocol →
    left = right
  owned : ∀ protocol, node.Registers protocol → ∃ ruleId, node.HasRule ruleId protocol

/-! ## What the other components keep -/

/-- The registry has changed, but for the open registrations of the control. -/
structure Keeps (accepted : List Nat) (before after : Registry String PeerSet) : Prop where
  evolves : before.Evolves after
  kept : ∀ protocol listener, before.listeners protocol = some listener →
    before.closed listener.registration = false → listener.registration ∈ accepted →
      after.listeners protocol = some listener ∧ after.closed listener.registration = false
  opened : ∀ registration, after.closed registration = false → before.closed registration = false
  closed : ∀ registration, after.closed registration = true →
    before.closed registration = true ∨ registration < before.made

theorem keeps_self (accepted : List Nat) (registry : Registry String PeerSet) :
    Keeps accepted registry registry where
  evolves := .refl registry
  kept _ _ listed isOpen _ := ⟨listed, isOpen⟩
  opened _ isOpen := isOpen
  closed _ isClosed := Or.inl isClosed

theorem keeps_retainOpen (accepted : List Nat) (registry : Registry String PeerSet) :
    Keeps accepted registry registry.retainOpen where
  evolves := Registry.evolves_retainOpen registry
  kept _ _ listed isOpen _ := ⟨Registry.listeners_retainOpen.mpr ⟨listed, isOpen⟩, isOpen⟩
  opened _ isOpen := isOpen
  closed _ isClosed := Or.inl isClosed

theorem listeners_unregisterListener {registry : Registry String PeerSet} {protocol other : String}
    {listener : ListenerRegistration PeerSet} :
    (registry.unregisterListener protocol).2.listeners other = some listener ↔
      other ≠ protocol ∧ registry.listeners other = some listener := by
  dsimp only [Registry.unregisterListener]
  rw [Function.update_apply]
  by_cases same : other = protocol
  · simp [same]
  · simp [same]

/-- A listener is refused where the protocol has an open one, and is else the next one made. -/
theorem registerListener_cases (registry : Registry String PeerSet) (protocol : String)
    (allowList : ProtocolAllowList PeerSet) :
    (∃ listener, registry.retainOpen.listeners protocol = some listener ∧
      registry.registerListener protocol allowList = (none, registry.retainOpen)) ∨
    (registry.retainOpen.listeners protocol = none ∧
      registry.registerListener protocol allowList =
        (some registry.made,
          { registry.retainOpen with
            listeners := Function.update registry.retainOpen.listeners protocol
              (some { registration := registry.made, allowList })
            made := registry.made + 1
            allowLists := Function.update registry.allowLists registry.made allowList })) := by
  unfold Registry.registerListener
  dsimp only
  cases found : registry.retainOpen.listeners protocol with
  | none => exact Or.inr ⟨rfl, rfl⟩
  | some listener => exact Or.inl ⟨listener, rfl, rfl⟩

theorem keeps_registerListener (accepted : List Nat) (registry : Registry String PeerSet)
    (protocol : String) (allowList : ProtocolAllowList PeerSet) :
    Keeps accepted registry (registry.registerListener protocol allowList).2 := by
  have evolves := Registry.evolves_registerListener registry protocol allowList
  rcases registerListener_cases registry protocol allowList with
    ⟨listener, -, registered⟩ | ⟨free, registered⟩
  · rw [registered]
    exact keeps_retainOpen accepted registry
  · rw [registered] at evolves ⊢
    refine ⟨evolves, ?_, fun _ isOpen => isOpen, fun _ isClosed => Or.inl isClosed⟩
    intro other listener listed isOpen _
    have retained := Registry.listeners_retainOpen.mpr ⟨listed, isOpen⟩
    refine ⟨?_, isOpen⟩
    dsimp only
    rw [Function.update_of_ne, retained]
    rintro rfl
    rw [free] at retained
    cases retained

theorem keeps_onInboundStream (accepted : List Nat) (registry : Registry String PeerSet)
    (protocol : String) (full : Bool) :
    Keeps accepted registry (registry.onInboundStream protocol full).2 := by
  unfold Registry.onInboundStream
  split
  · next listener found =>
      split
      · next dropped =>
          refine ⟨Registry.evolves_drop registry protocol, ?_, fun _ isOpen => isOpen,
            fun _ isClosed => Or.inl isClosed⟩
          intro other kept listed isOpen _
          refine ⟨?_, isOpen⟩
          dsimp only
          rw [Function.update_of_ne, listed]
          rintro rfl
          rw [found] at listed
          cases listed
          rw [dropped] at isOpen
          cases isOpen
      · split
        · exact keeps_self accepted registry
        · exact keeps_self accepted registry
  · exact keeps_self accepted registry

/-! ## The invariant -/

section Invariant

variable {parsers : AddressParsers} {self : ListeningNode PeerSet}

theorem HasRule.unique {ruleId first second : String} (hasFirst : self.HasRule ruleId first)
    (hasSecond : self.HasRule ruleId second) : first = second := by
  obtain ⟨state, present, isFirst⟩ := hasFirst
  obtain ⟨other, otherPresent, isSecond⟩ := hasSecond
  rw [present] at otherPresent
  cases otherPresent
  rw [isFirst] at isSecond
  exact Except.ok.inj isSecond

theorem consistent_new (globalAllowPolicy : GlobalAllowPolicy PeerSet) :
    Consistent parsers (.new globalAllowPolicy) := by
  have noRule (ruleId : String) (state : ListeningRuleState) :
      (ListeningNode.new globalAllowPolicy).listeningRules[ruleId]? ≠ some state := by
    simp [new]
  refine ⟨?_, ?_, ?_, ?_, ?_, ?_, ?_⟩
  · intro protocol listener listed
    cases listed
  · intro registration member
    cases member
  · intro registration isClosed
    cases isClosed
  · intro ruleId state present
    exact absurd present (noRule ruleId state)
  · intro ruleId state present
    exact absurd present (noRule ruleId state)
  · rintro left right protocol ⟨state, present, -⟩
    exact absurd present (noRule left state)
  · rintro protocol ⟨listener, -, member⟩
    cases member

/-- A rule has an open registration of the control. -/
theorem Consistent.listens_of_rule (consistent : Consistent parsers self) {ruleId protocol : String}
    {state : ListeningRuleState} (present : self.listeningRules[ruleId]? = some state)
    (isProtocol : listeningProtocol state.rule = .ok protocol) :
    ∃ listener, self.Listens protocol listener ∧ listener.registration = state.registration ∧
      state.registration ∈ self.accepted := by
  obtain ⟨other, listener, isOther, listens⟩ := consistent.listed ruleId state present
  rw [isProtocol] at isOther
  cases isOther
  exact ⟨listener, listens⟩

/-- An open registration of the control is that of a rule. -/
theorem Consistent.rule_of_registers (consistent : Consistent parsers self) {protocol : String}
    {listener : ListenerRegistration PeerSet} (listens : self.Listens protocol listener)
    (member : listener.registration ∈ self.accepted) :
    ∃ (ruleId : String) (state : ListeningRuleState), self.listeningRules[ruleId]? = some state ∧
      state.registration = listener.registration := by
  obtain ⟨ruleId, state, present, isProtocol⟩ :=
    consistent.owned protocol ⟨listener, listens, member⟩
  obtain ⟨found, listensFound, same, -⟩ := consistent.listens_of_rule present isProtocol
  have equal := listens.1.symm.trans listensFound.1
  cases equal
  exact ⟨ruleId, state, present, same.symm⟩

theorem isFree_iff {protocol : String} :
    self.IsFree protocol ↔ self.registry.retainOpen.listeners protocol = none := by
  constructor
  · intro free
    cases retained : self.registry.retainOpen.listeners protocol with
    | none => rfl
    | some listener =>
        exact absurd (Registry.listeners_retainOpen.mp retained) (free listener)
  · intro none listener listens
    have retained := Registry.listeners_retainOpen.mpr listens
    rw [none] at retained
    cases retained

/-- No rule has a protocol that is free. -/
theorem Consistent.not_hasRule (consistent : Consistent parsers self) {protocol : String}
    (free : self.IsFree protocol) (ruleId : String) : ¬ self.HasRule ruleId protocol := by
  rintro ⟨state, present, isProtocol⟩
  obtain ⟨listener, listens, -⟩ := consistent.listens_of_rule present isProtocol
  exact free listener listens

/-- Other components leave the control's registrations. -/
theorem Consistent.keeps_others (consistent : Consistent parsers self)
    {action : OtherAction PeerSet} {registry : Registry String PeerSet}
    (taken : self.others action = some registry) : Keeps self.accepted self.registry registry := by
  cases action with
  | listen protocol allowList =>
      cases taken
      exact keeps_registerListener self.accepted self.registry protocol allowList
  | drop registration =>
      rw [others] at taken
      split at taken
      · cases taken
      · next unused =>
          cases taken
          rw [not_or, Nat.not_le] at unused
          refine ⟨.of_listeners rfl rfl rfl fun _ _ listed => listed, ?_, ?_, ?_⟩
          · intro protocol listener listed isOpen member
            refine ⟨listed, ?_⟩
            obtain ⟨ruleId, state, present, same⟩ :=
              consistent.rule_of_registers ⟨listed, isOpen⟩ member
            have other : listener.registration ≠ registration := by
              rintro rfl
              apply unused.2
              rw [List.any_eq_true]
              exact ⟨(ruleId, state), Std.ExtTreeMap.mem_toList_iff_getElem?_eq_some.mpr present,
                decide_eq_true same⟩
            exact (Function.update_of_ne other _ _).trans isOpen
          · intro other isOpen
            dsimp only [Registry.close] at isOpen
            rw [Function.update_apply] at isOpen
            split at isOpen
            · cases isOpen
            · exact isOpen
          · intro other isClosed
            dsimp only [Registry.close] at isClosed
            rw [Function.update_apply] at isClosed
            split at isClosed
            · next same => exact Or.inr (same ▸ unused.1)
            · exact Or.inl isClosed
  | inbound protocol full =>
      cases taken
      exact keeps_onInboundStream self.accepted self.registry protocol full
  | lookUp =>
      cases taken
      exact keeps_retainOpen self.accepted self.registry

theorem Consistent.keeps (consistent : Consistent parsers self)
    {registry : Registry String PeerSet} (keeps : Keeps self.accepted self.registry registry) :
    Consistent parsers { self with registry } where
  numbered := consistent.numbered.evolves keeps.evolves
  made registration member :=
    Nat.lt_of_lt_of_le (consistent.made registration member) keeps.evolves.made
  closed registration isClosed := by
    rcases keeps.closed registration isClosed with before | made
    · exact Nat.lt_of_lt_of_le (consistent.closed registration before) keeps.evolves.made
    · exact Nat.lt_of_lt_of_le made keeps.evolves.made
  ruleIds := consistent.ruleIds
  listed := by
    intro ruleId state present
    obtain ⟨protocol, listener, isProtocol, ⟨listed, isOpen⟩, same, member⟩ :=
      consistent.listed ruleId state present
    exact ⟨protocol, listener, isProtocol, keeps.kept protocol listener listed isOpen
      (same ▸ member), same, member⟩
  apart := consistent.apart
  owned := by
    rintro protocol ⟨listener, ⟨listed, isOpen⟩, member⟩
    apply consistent.owned protocol
    rcases keeps.evolves.listeners protocol listener listed with old | ⟨late, -⟩
    · exact ⟨listener, ⟨old, keeps.opened _ isOpen⟩, member⟩
    · exact absurd (consistent.made _ member) (Nat.not_lt.mpr late)

/-- A rule is refused, or it has a protocol that was free and a registration of its own. -/
theorem addListeningRule_cases (parsers : AddressParsers) (self : ListeningNode PeerSet)
    (rule : ListeningRule) :
    (∃ error registry, self.addListeningRule parsers rule = (.error error, { self with registry }) ∧
      Keeps self.accepted self.registry registry ∧ registry.made = self.registry.made) ∨
    ∃ protocol, generateListeningRuleId rule ∉ self.listeningRules ∧
      parsers.socketAddr s!"{rule.host}:{rule.port}" = .ok () ∧
      listeningProtocol rule = .ok protocol ∧
      self.registry.retainOpen.listeners protocol = none ∧
      self.addListeningRule parsers rule =
        (.ok (generateListeningRuleId rule),
          { listeningRules := self.listeningRules.insert (generateListeningRuleId rule)
              { rule, registration := self.registry.made }
            registry := (self.registry.registerListener protocol .inheritGlobal).2
            accepted := self.registry.made :: self.accepted }) := by
  have same := keeps_self self.accepted self.registry
  unfold addListeningRule
  dsimp only
  split
  · exact Or.inl ⟨_, self.registry, rfl, same, rfl⟩
  · next absent =>
      cases address : parsers.socketAddr s!"{rule.host}:{rule.port}" with
      | error text => exact Or.inl ⟨_, self.registry, rfl, same, rfl⟩
      | ok _ =>
          cases valid : listeningProtocol rule with
          | error error => exact Or.inl ⟨_, self.registry, rfl, same, rfl⟩
          | ok protocol =>
              dsimp only
              rcases registerListener_cases self.registry protocol .inheritGlobal with
                ⟨listener, -, registered⟩ | ⟨free, registered⟩
              · rw [registered]
                exact Or.inl ⟨_, _, rfl, keeps_retainOpen self.accepted self.registry, rfl⟩
              · rw [registered]
                refine Or.inr ⟨protocol, absent, rfl, rfl, free, ?_⟩
                rw [registered]

/-- The rules after one is inserted. -/
theorem hasRule_insert {next : ListeningNode PeerSet} {ruleId found protocol : String}
    {state : ListeningRuleState}
    (inserted : next.listeningRules = self.listeningRules.insert ruleId state) :
    next.HasRule found protocol ↔
      ruleId = found ∧ listeningProtocol state.rule = .ok protocol ∨
        ruleId ≠ found ∧ self.HasRule found protocol := by
  unfold HasRule
  rw [inserted]
  by_cases same : ruleId = found
  · simp [same]
  · simp [getElem?_insert, same]

/-- The rules after one is removed. -/
theorem hasRule_erase {next : ListeningNode PeerSet} {ruleId found protocol : String}
    (erased : next.listeningRules = self.listeningRules.erase ruleId) :
    next.HasRule found protocol ↔ ruleId ≠ found ∧ self.HasRule found protocol := by
  unfold HasRule
  rw [erased]
  by_cases same : ruleId = found
  · simp [same]
  · simp [getElem?_erase, same]

/-- A rule whose protocol no other one has keeps the rules apart. -/
theorem Consistent.apart_insert (consistent : Consistent parsers self) {protocol ruleId : String}
    (noRule : ∀ ruleId, ¬ self.HasRule ruleId protocol) {next : ListeningNode PeerSet}
    {state : ListeningRuleState}
    (inserted : next.listeningRules = self.listeningRules.insert ruleId state)
    (valid : listeningProtocol state.rule = .ok protocol)
    (left right shared : String) (hasLeft : next.HasRule left shared)
    (hasRight : next.HasRule right shared) : left = right := by
  rw [hasRule_insert inserted, valid] at hasLeft hasRight
  rcases hasLeft with ⟨isNew, isShared⟩ | ⟨-, hasLeft⟩
  · rcases hasRight with ⟨alsoNew, -⟩ | ⟨-, hasRight⟩
    · exact isNew.symm.trans alsoNew
    · cases isShared
      exact absurd hasRight (noRule right)
  · rcases hasRight with ⟨-, isShared⟩ | ⟨-, hasRight⟩
    · cases isShared
      exact absurd hasLeft (noRule left)
    · exact consistent.apart left right shared hasLeft hasRight

theorem Consistent.addListeningRule (consistent : Consistent parsers self) (rule : ListeningRule) :
    Consistent parsers (self.addListeningRule parsers rule).2 := by
  rcases addListeningRule_cases parsers self rule with
    ⟨error, registry, refused, keeps, -⟩ | ⟨protocol, absent, address, valid, free, added⟩
  · rw [refused]
    exact consistent.keeps keeps
  · have keeps := keeps_registerListener self.accepted self.registry protocol .inheritGlobal
    rcases registerListener_cases self.registry protocol .inheritGlobal with
      ⟨listener, taken, -⟩ | ⟨-, registered⟩
    · rw [free] at taken
      cases taken
    · have noRule := consistent.not_hasRule (isFree_iff.mpr free)
      have evolves := keeps.evolves
      rw [added]
      rw [registered] at keeps evolves ⊢
      dsimp only at keeps evolves ⊢
      refine ⟨consistent.numbered.evolves evolves, ?_, ?_, ?_, ?_, ?_, ?_⟩
      · intro registration member
        rcases List.mem_cons.mp member with rfl | old
        · exact Nat.lt_succ_self _
        · exact Nat.lt_succ_of_lt (consistent.made registration old)
      · intro registration isClosed
        exact Nat.lt_succ_of_lt (consistent.closed registration isClosed)
      · intro ruleId state present
        rw [getElem?_insert] at present
        split at present
        · next isNew =>
            cases present
            exact ⟨isNew, address⟩
        · exact consistent.ruleIds ruleId state present
      · intro ruleId state present
        rw [getElem?_insert] at present
        split at present
        · cases present
          refine ⟨protocol, _, valid, ⟨Function.update_self _ _ _, ?_⟩, rfl, List.mem_cons_self⟩
          rw [← Bool.not_eq_true]
          exact fun isClosed => Nat.lt_irrefl _ (consistent.closed _ isClosed)
        · obtain ⟨other, listener, isOther, ⟨listed, isOpen⟩, same, member⟩ :=
            consistent.listed ruleId state present
          exact ⟨other, listener, isOther, keeps.kept other listener listed isOpen (same ▸ member),
            same, List.mem_cons_of_mem _ member⟩
      · exact consistent.apart_insert noRule rfl valid
      · rintro other ⟨listener, ⟨listed, isOpen⟩, member⟩
        dsimp only at listed isOpen member
        rw [Function.update_apply] at listed
        split at listed
        · next isProtocol =>
            refine ⟨generateListeningRuleId rule, (hasRule_insert rfl).mpr (Or.inl ⟨rfl, ?_⟩)⟩
            rw [isProtocol]
            exact valid
        · obtain ⟨old, -⟩ := Registry.listeners_retainOpen.mp listed
          have earlier := (consistent.numbered other listener old).1
          have among : listener.registration ∈ self.accepted := by
            rcases List.mem_cons.mp member with isNew | among
            · exact absurd isNew (Nat.ne_of_lt earlier)
            · exact among
          obtain ⟨ruleId, hasRule⟩ := consistent.owned other ⟨listener, ⟨old, isOpen⟩, among⟩
          refine ⟨ruleId, (hasRule_insert rfl).mpr (Or.inr ⟨?_, hasRule⟩)⟩
          rintro rfl
          obtain ⟨state, present, -⟩ := hasRule
          rw [Std.ExtTreeMap.getElem?_eq_none absent] at present
          cases present

/-- The registry after the control has stopped listening for some rules. -/
structure Stopped (before after : Registry String PeerSet) (states : List ListeningRuleState) :
    Prop where
  made : after.made = before.made
  policy : after.globalAllowPolicy = before.globalAllowPolicy
  allowLists : after.allowLists = before.allowLists
  closed : after.closed = before.closed
  listeners : ∀ protocol listener, after.listeners protocol = some listener →
    before.listeners protocol = some listener ∧
      ∀ state ∈ states, listeningProtocol state.rule ≠ .ok protocol

theorem stopped_foldl (registry : Registry String PeerSet) (states : List ListeningRuleState) :
    Stopped registry (states.foldl stopListening registry) states := by
  induction states generalizing registry with
  | nil => exact ⟨rfl, rfl, rfl, rfl, fun _ _ listed => ⟨listed, by simp⟩⟩
  | cons state rest inductionHypothesis =>
      rw [List.foldl_cons]
      have later := inductionHypothesis (stopListening registry state)
      unfold stopListening at later ⊢
      cases valid : listeningProtocol state.rule with
      | error error =>
          rw [valid] at later
          refine ⟨later.made, later.policy, later.allowLists, later.closed, ?_⟩
          intro protocol listener listed
          obtain ⟨before, others⟩ := later.listeners protocol listener listed
          refine ⟨before, List.forall_mem_cons.mpr ⟨?_, others⟩⟩
          rw [valid]
          exact fun same => by cases same
      | ok stopped =>
          rw [valid] at later
          refine ⟨later.made, later.policy, later.allowLists, later.closed, ?_⟩
          intro protocol listener listed
          obtain ⟨before, others⟩ := later.listeners protocol listener listed
          obtain ⟨apart, before⟩ := listeners_unregisterListener.mp before
          refine ⟨before, List.forall_mem_cons.mpr ⟨?_, others⟩⟩
          rw [valid]
          exact fun same => apart (Except.ok.inj same).symm

theorem removeListeningRule_of_hasRule {ruleId protocol : String}
    (hasRule : self.HasRule ruleId protocol) :
    self.removeListeningRule ruleId =
      (.ok (), { self with
        listeningRules := self.listeningRules.erase ruleId
        registry := (self.registry.unregisterListener protocol).2 }) := by
  obtain ⟨state, present, isProtocol⟩ := hasRule
  rw [removeListeningRule, present]
  dsimp only
  rw [stopListening, isProtocol]

theorem Consistent.removeListeningRule (consistent : Consistent parsers self) (ruleId : String) :
    Consistent parsers (self.removeListeningRule ruleId).2 := by
  cases present : self.listeningRules[ruleId]? with
  | none =>
      rw [ListeningNode.removeListeningRule, present]
      exact consistent
  | some state =>
      obtain ⟨protocol, listener, isProtocol, -⟩ := consistent.listed ruleId state present
      have hasRule : self.HasRule ruleId protocol := ⟨state, present, isProtocol⟩
      rw [removeListeningRule_of_hasRule hasRule]
      have dropped := Registry.evolves_drop self.registry protocol
      refine ⟨consistent.numbered.evolves dropped, consistent.made, consistent.closed,
        ?_, ?_, ?_, ?_⟩
      · intro found other inTable
        rw [getElem?_erase] at inTable
        split at inTable
        · cases inTable
        · exact consistent.ruleIds found other inTable
      · intro found other inTable
        rw [getElem?_erase] at inTable
        split at inTable
        · cases inTable
        · next different =>
            obtain ⟨shared, kept, isShared, ⟨listed, isOpen⟩, same, member⟩ :=
              consistent.listed found other inTable
            have apart : shared ≠ protocol := by
              rintro rfl
              exact different
                (consistent.apart ruleId found shared hasRule ⟨other, inTable, isShared⟩)
            exact ⟨shared, kept, isShared,
              ⟨listeners_unregisterListener.mpr ⟨apart, listed⟩, isOpen⟩, same, member⟩
      · intro left right shared hasLeft hasRight
        exact consistent.apart left right shared ((hasRule_erase rfl).mp hasLeft).2
          ((hasRule_erase rfl).mp hasRight).2
      · rintro other ⟨kept, ⟨listed, isOpen⟩, member⟩
        obtain ⟨apart, listed⟩ := listeners_unregisterListener.mp listed
        obtain ⟨found, hasOther⟩ := consistent.owned other ⟨kept, ⟨listed, isOpen⟩, member⟩
        refine ⟨found, (hasRule_erase rfl).mpr ⟨?_, hasOther⟩⟩
        rintro rfl
        exact apart (hasOther.unique hasRule)

theorem Consistent.stopAll (consistent : Consistent parsers self) :
    Consistent parsers self.stopAll := by
  have stopped := stopped_foldl self.registry (self.listeningRules.toList.map (·.2))
  have noRule (ruleId : String) (state : ListeningRuleState) :
      self.stopAll.listeningRules[ruleId]? ≠ some state := by
    simp [ListeningNode.stopAll]
  have evolves : self.registry.Evolves self.stopAll.registry :=
    .of_listeners stopped.made stopped.policy stopped.allowLists
      fun protocol listener listed => (stopped.listeners protocol listener listed).1
  refine ⟨consistent.numbered.evolves evolves, ?_, ?_, ?_, ?_, ?_, ?_⟩
  · intro registration member
    exact Nat.lt_of_lt_of_le (consistent.made registration member) evolves.made
  · intro registration isClosed
    refine Nat.lt_of_lt_of_le (consistent.closed registration ?_) evolves.made
    rw [← stopped.closed]
    exact isClosed
  · intro ruleId state present
    exact absurd present (noRule ruleId state)
  · intro ruleId state present
    exact absurd present (noRule ruleId state)
  · rintro left right protocol ⟨state, present, -⟩
    exact absurd present (noRule left state)
  · rintro protocol ⟨listener, ⟨listed, isOpen⟩, member⟩
    obtain ⟨before, others⟩ := stopped.listeners protocol listener listed
    rw [ListeningNode.stopAll, stopped.closed] at isOpen
    obtain ⟨ruleId, state, present, isProtocol⟩ :=
      consistent.owned protocol ⟨listener, ⟨before, isOpen⟩, member⟩
    refine absurd isProtocol (others state ?_)
    exact List.mem_map.mpr ⟨(ruleId, state),
      Std.ExtTreeMap.mem_toList_iff_getElem?_eq_some.mpr present, rfl⟩

theorem Consistent.step (consistent : Consistent parsers self)
    {action : ListeningAction PeerSet} {next : ListeningNode PeerSet}
    (taken : self.step parsers action = some next) : Consistent parsers next := by
  cases action with
  | addListeningRule rule =>
      cases taken
      exact consistent.addListeningRule rule
  | removeListeningRule ruleId =>
      cases taken
      exact consistent.removeListeningRule ruleId
  | stopAll =>
      cases taken
      exact consistent.stopAll
  | other action =>
      obtain ⟨registry, after, rfl⟩ := Option.map_eq_some_iff.mp taken
      exact consistent.keeps (consistent.keeps_others after)

theorem consistent_of_run {globalAllowPolicy : GlobalAllowPolicy PeerSet}
    {actions : List (ListeningAction PeerSet)}
    (reached : run (ListeningNode.step parsers) (.new globalAllowPolicy) actions = some self) :
    Consistent parsers self :=
  invariant_of_everyStep (fun _ _ _ consistent _ taken => consistent.step taken)
    (consistent_new globalAllowPolicy) (everyStep_true _ _) reached

/-- The control has registered a protocol exactly if exactly one of its rules has it. -/
theorem Consistent.registers_iff (consistent : Consistent parsers self) (protocol : String) :
    self.Registers protocol ↔ ∃! ruleId, self.HasRule ruleId protocol := by
  constructor
  · intro registers
    obtain ⟨ruleId, hasRule⟩ := consistent.owned protocol registers
    exact ⟨ruleId, hasRule, fun other hasOther =>
      consistent.apart other ruleId protocol hasOther hasRule⟩
  · rintro ⟨ruleId, ⟨state, present, isProtocol⟩, -⟩
    obtain ⟨listener, listens, same, member⟩ := consistent.listens_of_rule present isProtocol
    exact ⟨listener, listens, same ▸ member⟩

/-! ## Free protocols -/

/-- A rule is added exactly if its id is new, its address is one and nobody has its protocol. -/
theorem addListeningRule_eq_ok_iff {rule : ListeningRule} {protocol : String}
    (valid : listeningProtocol rule = .ok protocol) :
    (self.addListeningRule parsers rule).1 = .ok (generateListeningRuleId rule) ↔
      generateListeningRuleId rule ∉ self.listeningRules ∧
        parsers.socketAddr s!"{rule.host}:{rule.port}" = .ok () ∧ self.IsFree protocol := by
  rw [isFree_iff]
  constructor
  · intro isOk
    rcases addListeningRule_cases parsers self rule with
      ⟨error, registry, refused, -⟩ | ⟨other, absent, address, isOther, free, -⟩
    · rw [refused] at isOk
      cases isOk
    · rw [valid] at isOther
      cases isOther
      exact ⟨absent, address, free⟩
  · rintro ⟨absent, address, free⟩
    unfold addListeningRule
    dsimp only
    rw [if_neg absent, address, valid]
    dsimp only
    rcases registerListener_cases self.registry protocol .inheritGlobal with
      ⟨listener, taken, -⟩ | ⟨-, registered⟩
    · rw [free] at taken
      cases taken
    · rw [registered]

/-- Where no registration is made, no listener is new. -/
theorem Keeps.listens {registry : Registry String PeerSet}
    (keeps : Keeps self.accepted self.registry registry) (made : registry.made = self.registry.made)
    {protocol : String} {listener : ListenerRegistration PeerSet}
    (listens : ({ self with registry } : ListeningNode PeerSet).Listens protocol listener) :
    self.Listens protocol listener := by
  rcases keeps.evolves.listeners protocol listener listens.1 with old | ⟨late, early, -⟩
  · exact ⟨old, keeps.opened _ listens.2⟩
  · rw [made] at early
    exact absurd early (Nat.not_lt.mpr late)

theorem listens_of_registerListener {protocol other : String}
    {listener : ListenerRegistration PeerSet} {allowList : ProtocolAllowList PeerSet}
    (different : other ≠ protocol)
    (listed : (self.registry.registerListener other allowList).2.listeners protocol =
      some listener) : self.Listens protocol listener := by
  rcases registerListener_cases self.registry other allowList with
    ⟨_, -, registered⟩ | ⟨-, registered⟩
  · rw [registered] at listed
    exact Registry.listeners_retainOpen.mp listed
  · rw [registered] at listed
    dsimp only at listed
    rw [Function.update_of_ne different.symm] at listed
    exact Registry.listeners_retainOpen.mp listed

/-- A protocol stays free until somebody registers it. -/
theorem Consistent.listens_of_step (consistent : Consistent parsers self) {protocol : String}
    {action : ListeningAction PeerSet} (spares : ¬ action.Takes protocol)
    {next : ListeningNode PeerSet} (taken : self.step parsers action = some next)
    {listener : ListenerRegistration PeerSet} (listens : next.Listens protocol listener) :
    self.Listens protocol listener := by
  cases action with
  | addListeningRule rule =>
      cases taken
      rcases addListeningRule_cases parsers self rule with
        ⟨error, registry, refused, keeps, made⟩ | ⟨other, -, -, valid, -, added⟩
      · rw [refused] at listens
        exact keeps.listens made listens
      · rw [added] at listens
        refine listens_of_registerListener ?_ listens.1
        rintro rfl
        exact spares valid
  | removeListeningRule ruleId =>
      cases taken
      cases present : self.listeningRules[ruleId]? with
      | none =>
          rw [ListeningNode.removeListeningRule, present] at listens
          exact listens
      | some state =>
          obtain ⟨removed, -, isProtocol, -⟩ := consistent.listed ruleId state present
          rw [removeListeningRule_of_hasRule ⟨state, present, isProtocol⟩] at listens
          exact ⟨(listeners_unregisterListener.mp listens.1).2, listens.2⟩
  | stopAll =>
      cases taken
      have stopped := stopped_foldl self.registry (self.listeningRules.toList.map (·.2))
      obtain ⟨listed, isOpen⟩ := listens
      rw [ListeningNode.stopAll, stopped.closed] at isOpen
      exact ⟨(stopped.listeners protocol listener listed).1, isOpen⟩
  | other action =>
      obtain ⟨registry, after, rfl⟩ := Option.map_eq_some_iff.mp taken
      have keeps := consistent.keeps_others after
      cases action with
      | listen other allowList =>
          cases after
          exact listens_of_registerListener spares listens.1
      | drop registration =>
          rw [others] at after
          split at after
          · cases after
          · cases after
            exact keeps.listens rfl listens
      | inbound other full =>
          cases after
          refine keeps.listens ?_ listens
          unfold Registry.onInboundStream
          split
          · split_ifs <;> rfl
          · rfl
      | lookUp =>
          cases after
          exact keeps.listens rfl listens

theorem isFree_of_run {protocol : String} {later : List (ListeningAction PeerSet)}
    {final : ListeningNode PeerSet} (consistent : Consistent parsers self)
    (free : self.IsFree protocol) (spares : ∀ action ∈ later, ¬ action.Takes protocol)
    (reached : run (ListeningNode.step parsers) self later = some final) :
    final.IsFree protocol := by
  induction later generalizing self with
  | nil =>
      cases reached
      exact free
  | cons action rest inductionHypothesis =>
      rw [List.forall_mem_cons] at spares
      rw [run_cons, Option.bind_eq_some_iff] at reached
      obtain ⟨next, taken, remaining⟩ := reached
      refine inductionHypothesis (consistent.step taken) ?_ spares.2 remaining
      intro listener listens
      exact free listener (consistent.listens_of_step spares.1 taken listens)

/-- Nobody has the protocol of a rule that was removed. -/
theorem isFree_removed {ruleId protocol : String} (hasRule : self.HasRule ruleId protocol) :
    (self.removeListeningRule ruleId).2.IsFree protocol := by
  rintro listener ⟨listed, -⟩
  rw [removeListeningRule_of_hasRule hasRule] at listed
  exact (listeners_unregisterListener.mp listed).1 rfl

end Invariant

/-! ## Rules and registrations -/

/-- The protocol of a rule is free again once the rule is removed: the same rule may be added again,
and later any other one with this protocol, unless its own id is taken or its address is none. -/
structure GivenUp (parsers : AddressParsers) (node : ListeningNode PeerSet)
    (ruleId protocol : String) : Prop where
  removed : (node.removeListeningRule ruleId).1 = .ok ()
  unregistered : ¬ (node.removeListeningRule ruleId).2.Registers protocol
  again : ∀ state : ListeningRuleState, node.listeningRules[ruleId]? = some state →
    ((node.removeListeningRule ruleId).2.addListeningRule parsers state.rule).1 = .ok ruleId
  later : ∀ (actions : List (ListeningAction PeerSet)) (final : ListeningNode PeerSet)
    (rule : ListeningRule),
    run (ListeningNode.step parsers) (node.removeListeningRule ruleId).2 actions = some final →
    (∀ action ∈ actions, ¬ action.Takes protocol) → listeningProtocol rule = .ok protocol →
      ((final.addListeningRule parsers rule).1 = .ok (generateListeningRuleId rule) ↔
        generateListeningRuleId rule ∉ final.listeningRules ∧
          parsers.socketAddr s!"{rule.host}:{rule.port}" = .ok ())

theorem Consistent.givenUp {parsers : AddressParsers} {node : ListeningNode PeerSet}
    (consistent : Consistent parsers node) {ruleId protocol : String}
    (hasRule : node.HasRule ruleId protocol) : GivenUp parsers node ruleId protocol where
  removed := by rw [removeListeningRule_of_hasRule hasRule]
  unregistered := by
    rintro ⟨listener, listens, -⟩
    exact isFree_removed hasRule listener listens
  again := by
    intro state present
    obtain ⟨other, otherPresent, isProtocol⟩ := hasRule
    rw [present] at otherPresent
    cases otherPresent
    have hasRule : node.HasRule ruleId protocol := ⟨state, present, isProtocol⟩
    obtain ⟨isId, address⟩ := consistent.ruleIds ruleId state present
    have added := (addListeningRule_eq_ok_iff isProtocol).mpr
      ⟨?_, address, isFree_removed hasRule⟩
    · rwa [isId] at added
    · rw [isId, removeListeningRule_of_hasRule hasRule]
      simp
  later := by
    intro actions final rule reached spares valid
    have free := isFree_of_run (consistent.removeListeningRule ruleId) (isFree_removed hasRule)
      spares reached
    rw [addListeningRule_eq_ok_iff valid, and_iff_left free]

/-- Over every run the control has registered a protocol exactly if exactly one of its rules has it,
and gives it up with the rule. -/
theorem listening_rules_mirror_registry (parsers : AddressParsers)
    (globalAllowPolicy : GlobalAllowPolicy PeerSet) (actions : List (ListeningAction PeerSet))
    (node : ListeningNode PeerSet)
    (reached : run (ListeningNode.step parsers) (.new globalAllowPolicy) actions = some node) :
    (∀ protocol, node.Registers protocol ↔ ∃! ruleId, node.HasRule ruleId protocol) ∧
      ∀ ruleId protocol, node.HasRule ruleId protocol → GivenUp parsers node ruleId protocol := by
  have consistent := consistent_of_run reached
  exact ⟨consistent.registers_iff, fun _ _ hasRule => consistent.givenUp hasRule⟩

/-- Another component has a protocol of its own; two rules with one protocol and one with the
other's are added, and the protocol of the first is added again after its removal. -/
def sharedRegistryActions : List (ListeningAction Unit) :=
  [.other (.listen "/fungi/service-control/0.1.0" .inheritGlobal),
    .addListeningRule { host := "127.0.0.1", port := 80, protocol := some "/web" },
    .addListeningRule { host := "127.0.0.1", port := 81, protocol := some "/web" },
    .addListeningRule
      { host := "127.0.0.1", port := 22, protocol := some "/fungi/service-control/0.1.0" },
    .removeListeningRule "listen_127.0.0.1:80__web",
    .addListeningRule { host := "127.0.0.1", port := 81, protocol := some "/web" }]

theorem listening_rules_mirror_registry_shared :
    ∃ node, run (ListeningNode.step .loopback) (.new .allowAll) sharedRegistryActions = some node ∧
      node.listeningRules.toList.map (·.1) = ["listen_127.0.0.1:81__web"] ∧
      (∀ protocol, node.Registers protocol ↔ ∃! ruleId, node.HasRule ruleId protocol) := by
  have evaluated : (run (ListeningNode.step .loopback) (.new .allowAll) sharedRegistryActions).map
      (fun node => node.listeningRules.toList.map (·.1)) = some ["listen_127.0.0.1:81__web"] := by
    decide +kernel
  obtain ⟨node, reached, listed⟩ := Option.map_eq_some_iff.mp evaluated
  exact ⟨node, reached, listed,
    (listening_rules_mirror_registry .loopback .allowAll sharedRegistryActions node reached).1⟩

end ListeningNode

end Fungi.Daemon.ListeningRegistry
