import Fungi.Swarm.Governance

/-!
# Governance on both sides of a connection

Two nodes govern the connections between them, each with its own ids, its own establishment
times and its own clock.  A connection that either of them closes goes down on both sides, each
side learning of it at a time of its own.
-/

namespace Fungi.Swarm

open Fungi.Lib ConnectionIndexes

variable {PeerId Link : Type}

/-- The two ends of a link. -/
inductive Side where
  | left
  | right
  deriving DecidableEq

/-- The connections between two nodes, and what each node calls them and the other node. -/
structure NodePair (PeerId Link : Type) where
  remote : Side → PeerId
  idAt : Side → Link → ConnectionId
  injective : ∀ side, Function.Injective (idAt side)

/-- The governors of the two nodes. -/
abbrev TwoNodes (PeerId : Type) := Side → Governor PeerId

/-- A side finds any stream counts when it takes a step of its pass. -/
inductive TwoSidedStep (PeerId Link : Type) where
  | tick (side : Side) (order : List PeerId)
  | govern (side : Side) (activeStreams : ConnectionId → Nat)
  | setClock (side : Side) (now : SystemTime)
  | connectionClosed (side : Side) (link : Link)

/-- The connection that an event closes. -/
def GovernanceEvent.closes : GovernanceEvent → Option ConnectionId
  | .closeIssued _ connectionId => some connectionId
  | _ => none

/-- Governance has issued the close of the connection. -/
def Governor.Closes (self : Governor PeerId) (connectionId : ConnectionId) : Prop :=
  ∃ event ∈ self.history, event.closes = some connectionId

instance (self : Governor PeerId) (connectionId : ConnectionId) :
    Decidable (self.Closes connectionId) :=
  inferInstanceAs (Decidable (∃ _ ∈ _, _ = _))

namespace TwoNodes

variable [DecidableEq PeerId]

/-- Only a connection that one of the two sides closes goes down. -/
def step (pair : NodePair PeerId Link) (strategy : ConnectionSelectionStrategy)
    (self : TwoNodes PeerId) : TwoSidedStep PeerId Link → Option (TwoNodes PeerId)
  | .tick side order =>
      ((self side).tick order).map fun governor => Function.update self side governor
  | .govern side activeStreams =>
      ((self side).govern strategy activeStreams).map fun governor =>
        Function.update self side governor
  | .setClock side now => some (Function.update self side { self side with now })
  | .connectionClosed side link =>
      if (self .left).Closes (pair.idAt .left link) ∨
          (self .right).Closes (pair.idAt .right link) then
        let governor :=
          { self side with indexes := (self side).indexes.remove (pair.idAt side link) }
        some (Function.update self side governor)
      else none

/-- The connection is neither closed nor being closed by the governance of either side. -/
def Stays (pair : NodePair PeerId Link) (self : TwoNodes PeerId) (link : Link) : Prop :=
  ∀ side, ((self side).indexes.byId (pair.idAt side link)).isSome = true ∧
    ¬ (self side).Closes (pair.idAt side link)

end TwoNodes

/-! ## The connection that a node ranks first -/

section Leading

variable [DecidableEq PeerId] {self next : Governor PeerId}
  {strategy : ConnectionSelectionStrategy} {peer : PeerId} {first : ConnectionId}

/-- The connection comes first among those to its peer. -/
def RankedFirst (indexes : ConnectionIndexes PeerId) (strategy : ConnectionSelectionStrategy)
    (peer : PeerId) (first : ConnectionId) : Prop :=
  ∃ record, indexes.byId first = some record ∧ record.peerId = peer ∧
    ∀ other ∈ indexes.recordsForPeer peer, compareByStrategy strategy record other ≠ .gt

/-- The pass has no intention of closing the connection. -/
def GovernanceTask.Spares (first : ConnectionId) : GovernanceTask PeerId → Prop
  | .recommending _ _ _ selected =>
      first ∉ selected.tail.map fun connection => connection.connectionId
  | .inspecting _ _ _ others _ _ => first ∉ others
  | .planning _ _ _ left _ plans => first ∉ left ∧ ∀ plan ∈ plans, plan.connectionId ≠ first
  | .acting _ _ plans => ∀ plan ∈ plans, plan.connectionId ≠ first
  | _ => True

/-- The node ranks the connection first, and does nothing to close it. -/
structure Leads (governor : Governor PeerId) (strategy : ConnectionSelectionStrategy)
    (peer : PeerId) (first : ConnectionId) : Prop where
  coherent : governor.indexes.Coherent fun _ => true
  ranked : RankedFirst governor.indexes strategy peer first
  spares : governor.task.Spares first
  open_ : ¬ governor.Closes first

omit [DecidableEq PeerId] in
/-- Governance is no part of the ranking. -/
theorem RankedFirst.update {indexes : ConnectionIndexes PeerId}
    (coherent : indexes.Coherent fun _ => true) (ranked : RankedFirst indexes strategy peer first)
    (now : SystemTime) (updated : ConnectionId) (state : ConnectionGovernanceState)
    (reason : Option String) :
    RankedFirst (indexes.updateConnectionGovernance now updated state reason) strategy peer
      first := by
  obtain ⟨record, found, ofPeer, before⟩ := ranked
  refine ⟨_, by rw [byId_updateConnectionGovernance, found]; rfl, ?_, ?_⟩
  · split
    · exact ofPeer
    · exact ofPeer
  · intro other member
    have coherentAfter := coherent_updateConnectionGovernance coherent now updated state reason
    obtain ⟨foundOther, otherOfPeer⟩ := (mem_recordsForPeer coherentAfter).mp member
    rw [byId_updateConnectionGovernance, Option.map_eq_some_iff] at foundOther
    obtain ⟨old, foundOld, sameOther⟩ := foundOther
    have oldId := (coherent.byId foundOld).1
    have oldMember : old ∈ indexes.recordsForPeer peer := by
      apply (mem_recordsForPeer coherent).mpr
      refine ⟨oldId ▸ foundOld, ?_⟩
      rw [← sameOther] at otherOfPeer
      split at otherOfPeer
      · exact otherOfPeer
      · exact otherOfPeer
    have ordered := before old oldMember
    rw [← sameOther]
    split <;> split <;> exact ordered

theorem RankedFirst.remove {indexes : ConnectionIndexes PeerId}
    (coherent : indexes.Coherent fun _ => true) (ranked : RankedFirst indexes strategy peer first)
    {removed : ConnectionId} (apart : removed ≠ first) :
    RankedFirst (indexes.remove removed) strategy peer first := by
  obtain ⟨record, found, ofPeer, before⟩ := ranked
  refine ⟨record, by rw [byId_remove, if_neg apart.symm, found], ofPeer, ?_⟩
  intro other member
  obtain ⟨foundOther, otherOfPeer⟩ :=
    (mem_recordsForPeer (coherent_remove coherent removed)).mp member
  rw [byId_remove] at foundOther
  split at foundOther
  · cases foundOther
  · exact before other ((mem_recordsForPeer coherent).mpr ⟨foundOther, otherOfPeer⟩)

omit [DecidableEq PeerId] in
/-- The selection of any peer has the connection in no place but the first. -/
theorem spares_selection (coherent : self.indexes.Coherent fun _ => true)
    (ranked : RankedFirst self.indexes strategy peer first) (looked : PeerId) (rest : List PeerId) :
    (GovernanceTask.recommending looked rest strategy
      (sortByStrategy strategy (self.indexes.recordsForPeer looked))).Spares first := by
  have sorted : (sortByStrategy strategy (self.indexes.recordsForPeer looked)).Perm
      (self.indexes.recordsForPeer looked) := perm_sortByStrategy _
  have distinct := (sorted.map fun record => record.connectionId).nodup_iff.mpr
    (nodup_recordsForPeer coherent looked)
  obtain ⟨record, found, ofPeer, before⟩ := ranked
  have sameId := (coherent.byId found).1
  unfold GovernanceTask.Spares
  cases selection : sortByStrategy strategy (self.indexes.recordsForPeer looked) with
  | nil => exact List.not_mem_nil
  | cons selected others =>
      intro member
      obtain ⟨other, listed, otherId⟩ := List.mem_map.mp member
      have otherListed := sorted.mem_iff.mp (selection ▸ List.mem_cons_of_mem _ listed)
      obtain ⟨foundOther, otherOfPeer⟩ := (mem_recordsForPeer coherent).mp otherListed
      have sameRecord : other = record := by
        rw [otherId, found] at foundOther
        exact (Option.some.inj foundOther).symm
      have samePeer : looked = peer := by rw [← otherOfPeer, sameRecord, ofPeer]
      subst samePeer
      have head := eq_of_head_sortByStrategy selection (sameRecord ▸ otherListed) before
      rw [selection, List.map_cons, List.nodup_cons] at distinct
      apply distinct.1
      rw [head, sameId]
      exact member

omit [DecidableEq PeerId] in
theorem not_closes_append {events : List GovernanceEvent} (open_ : ¬ self.Closes first)
    (other : ∀ event ∈ events, event.closes ≠ some first) :
    ¬ ({ self with history := self.history ++ events } : Governor PeerId).Closes first := by
  rintro ⟨event, member, closes⟩
  rcases List.mem_append.mp member with before | now
  · exact open_ ⟨event, before, closes⟩
  · exact other event now closes

omit [DecidableEq PeerId] in
theorem Leads.updateGovernance (leads : Leads self strategy peer first) (updated : ConnectionId)
    (state : ConnectionGovernanceState) (reason : String) {task : GovernanceTask PeerId}
    (spares : task.Spares first) :
    Leads { self.updateGovernance updated state reason with task } strategy peer first where
  coherent := coherent_updateConnectionGovernance leads.coherent _ _ _ _
  ranked := leads.ranked.update leads.coherent _ _ _ _
  spares := spares
  open_ := not_closes_append leads.open_ (by simp [GovernanceEvent.closes])

omit [DecidableEq PeerId] in
theorem Leads.actOn (leads : Leads self strategy peer first) {plan : ConnectionClosurePlan}
    (other : plan.connectionId ≠ first) {task : GovernanceTask PeerId}
    (spares : task.Spares first) :
    Leads { self.actOn plan with task } strategy peer first := by
  unfold Governor.actOn
  cases plan.action with
  | markDeprecated => exact leads.updateGovernance _ _ _ spares
  | markClosing => exact leads.updateGovernance _ _ _ spares
  | closeNow =>
      exact ⟨leads.coherent, leads.ranked, spares,
        not_closes_append leads.open_ (by simpa [GovernanceEvent.closes] using other)⟩

omit [DecidableEq PeerId] in
/-- A pass goes on to close other connections only. -/
theorem leads_govern {activeStreams : ConnectionId → Nat} (leads : Leads self strategy peer first)
    (taken : self.govern strategy activeStreams = some next) : Leads next strategy peer first := by
  have spares := leads.spares
  have moveOn : ∀ task : GovernanceTask PeerId, task.Spares first →
      Leads { self with task } strategy peer first :=
    fun task spares => ⟨leads.coherent, leads.ranked, spares, leads.open_⟩
  unfold Governor.govern at taken
  split at taken
  · cases taken
  · cases taken
    exact moveOn .waiting trivial
  · next looked rest stands =>
      cases taken
      exact moveOn _ (spares_selection leads.coherent leads.ranked looked rest)
  · next looked rest other stands =>
      cases taken
      exact moveOn (.nextPeer rest) trivial
  · next looked rest other recommended others stands =>
      cases taken
      apply leads.updateGovernance
      rw [stands] at spares
      split
      · trivial
      · exact spares
  · next looked rest recommended others infos stands =>
      cases taken
      rw [stands] at spares
      exact moveOn (.planning looked rest recommended others infos []) ⟨spares, by simp⟩
  · next looked rest recommended others connectionId left infos stands =>
      cases taken
      rw [stands] at spares
      exact moveOn (.inspecting looked rest recommended others left _) spares
  · next looked rest recommended infos plans stands =>
      cases taken
      rw [stands] at spares
      exact moveOn (.acting looked rest plans) spares.2
  · next looked rest recommended connectionId left infos plans stands =>
      rw [stands] at spares
      obtain ⟨notLeft, notPlanned⟩ := spares
      rw [List.mem_cons, not_or] at notLeft
      split at taken
      · next plan planned =>
          cases taken
          have ofConnection : plan.connectionId = connectionId := by
            unfold closurePlan at planned
            obtain ⟨action, _, rfl⟩ := Option.map_eq_some_iff.mp planned
            rfl
          refine ⟨leads.coherent, leads.ranked, ⟨notLeft.2, ?_⟩,
            not_closes_append leads.open_ (by simp [GovernanceEvent.closes])⟩
          intro other member
          rcases List.mem_append.mp member with before | new
          · exact notPlanned other before
          · rw [List.mem_singleton.mp new, ofConnection]
            exact Ne.symm notLeft.1
      · cases taken
        exact moveOn (.planning looked rest recommended left infos plans) ⟨notLeft.2, notPlanned⟩
  · next looked rest stands =>
      cases taken
      exact moveOn (.nextPeer rest) trivial
  · next looked rest plan plans stands =>
      cases taken
      rw [stands] at spares
      apply leads.actOn (spares plan List.mem_cons_self)
      exact fun other member => spares other (List.mem_cons_of_mem _ member)

theorem leads_tick {order : List PeerId} (leads : Leads self strategy peer first)
    (taken : self.tick order = some next) : Leads next strategy peer first := by
  unfold Governor.tick at taken
  split at taken
  · split at taken
    · cases taken
      exact ⟨leads.coherent, leads.ranked, trivial, leads.open_⟩
    · cases taken
  · cases taken

theorem leads_remove (leads : Leads self strategy peer first) {removed : ConnectionId}
    (apart : removed ≠ first) :
    Leads { self with indexes := self.indexes.remove removed } strategy peer first :=
  ⟨coherent_remove leads.coherent removed, leads.ranked.remove leads.coherent apart, leads.spares,
    leads.open_⟩

end Leading

/-! ## Runs of the two nodes -/

namespace TwoNodes

variable [DecidableEq PeerId] {pair : NodePair PeerId Link}
  {strategy : ConnectionSelectionStrategy}

/-- Both nodes wait for the first tick of governance that has closed nothing; they may know any
connections, at any marks, those of the pair among them. -/
structure Start (pair : NodePair PeerId Link) (nodes : TwoNodes PeerId) : Prop where
  coherent : ∀ side, (nodes side).indexes.Coherent fun _ => true
  connected : ∀ side connectionId, connectionId ∈ (nodes side).indexes.byPeer (pair.remote side) ↔
    ∃ link, pair.idAt side link = connectionId
  waiting : ∀ side, (nodes side).task = .waiting
  noCloses : ∀ side, (nodes side).history = []

/-- Both nodes rank this connection first among those between them. -/
def SameFirst (pair : NodePair PeerId Link) (strategy : ConnectionSelectionStrategy)
    (nodes : TwoNodes PeerId) (link : Link) : Prop :=
  ∀ side, RankedFirst (nodes side).indexes strategy (pair.remote side) (pair.idAt side link)

/-- Both sides keep the connection. -/
def Led (pair : NodePair PeerId Link) (strategy : ConnectionSelectionStrategy) (link : Link)
    (nodes : TwoNodes PeerId) : Prop :=
  ∀ side, Leads (nodes side) strategy (pair.remote side) (pair.idAt side link)

theorem led_step {link : Link} {self next : TwoNodes PeerId} {action : TwoSidedStep PeerId Link}
    (led : Led pair strategy link self) (taken : self.step pair strategy action = some next) :
    Led pair strategy link next := by
  have oneSide : ∀ side governor,
      Leads governor strategy (pair.remote side) (pair.idAt side link) →
        Led pair strategy link (Function.update self side governor) := by
    intro side governor leads other
    by_cases same : other = side
    · subst same
      rw [Function.update_self]
      exact leads
    · rw [Function.update_of_ne same]
      exact led other
  cases action with
  | tick side order =>
      obtain ⟨governor, ticked, rfl⟩ := Option.map_eq_some_iff.mp taken
      exact oneSide side governor (leads_tick (led side) ticked)
  | govern side activeStreams =>
      obtain ⟨governor, governed, rfl⟩ := Option.map_eq_some_iff.mp taken
      exact oneSide side governor (leads_govern (led side) governed)
  | setClock side now =>
      cases taken
      exact oneSide side _ ⟨(led side).coherent, (led side).ranked, (led side).spares,
        (led side).open_⟩
  | connectionClosed side closed =>
      dsimp only [step] at taken
      split at taken
      · next closes =>
          cases taken
          apply oneSide
          apply leads_remove (led side)
          intro sameId
          rw [pair.injective side sameId] at closes
          rcases closes with byLeft | byRight
          · exact (led .left).open_ byLeft
          · exact (led .right).open_ byRight
      · cases taken

omit [DecidableEq PeerId] in
theorem stays_of_led {link : Link} {nodes : TwoNodes PeerId}
    (led : Led pair strategy link nodes) : Stays pair nodes link := by
  intro side
  obtain ⟨record, found, _⟩ := (led side).ranked
  exact ⟨by rw [found]; rfl, (led side).open_⟩

/-- While both nodes rank the same connection first, governance never disconnects them: that
connection stays at every point of every run. -/
theorem connection_stays_of_sameFirst {nodes : TwoNodes PeerId} (start : Start pair nodes)
    {link : Link} (sameFirst : SameFirst pair strategy nodes link)
    (actions : List (TwoSidedStep PeerId Link)) :
    EveryState (step pair strategy) (fun nodes => ∃ link, Stays pair nodes link) nodes actions := by
  have led : Led pair strategy link nodes := by
    intro side
    refine ⟨start.coherent side, sameFirst side, ?_, ?_⟩
    · rw [start.waiting side]
      trivial
    · rintro ⟨event, member, _⟩
      rw [start.noCloses side] at member
      cases member
  have met : EveryStep (step pair strategy) (fun _ _ => True) nodes actions := everyStep_true _ _
  apply EveryStep.everyState _ _ led met
  · intro nodes action next led _ taken
    exact led_step led taken
  · intro nodes led
    exact ⟨link, stays_of_led led⟩

/-! Two nodes with two direct connections between them, which both number 1 and 2.  Where they
are `crossed`, the connection that one node calls 1 is the one that the other calls 2. -/

/-- Two links between the nodes, with equal or crossed ids. -/
def twoLinks (crossed : Bool) : NodePair Nat Bool where
  remote
    | .left => 1
    | .right => 0
  idAt
    | .left => fun link => 1 + link.toNat
    | .right => fun link => 1 + (link ^^ crossed).toNat
  injective side := by
    intro first second
    cases side <;> cases crossed <;> cases first <;> cases second <;> simp

/-- A connection over one of the links. -/
def linkRecord (remote : Nat) (connectionId : ConnectionId) : ConnectionRecord Nat :=
  { peerId := remote
    connectionId
    direction := .outbound
    remoteAddr := [.tcp 4001]
    establishedAt := connectionId
    governance := {} }

/-- The two nodes before any pass. -/
def twoLinkNodes (crossed : Bool) : TwoNodes Nat := fun side =>
  let remote := (twoLinks crossed).remote side
  { indexes := (ConnectionIndexes.empty.insert (linkRecord remote 1)).insert (linkRecord remote 2)
    now := 0
    task := .waiting
    pass := 0
    history := [] }

theorem start_twoLinkNodes (crossed : Bool) : Start (twoLinks crossed) (twoLinkNodes crossed) where
  coherent side := by
    let remote := (twoLinks crossed).remote side
    have once : (ConnectionIndexes.empty.insert (linkRecord remote 1)).Coherent _ :=
      coherent_insert (coherent_empty fun _ => false) rfl
    have twice : ((ConnectionIndexes.empty.insert (linkRecord remote 1)).insert
        (linkRecord remote 2)).Coherent _ := coherent_insert once rfl
    exact ⟨fun found => ⟨(twice.byId found).1, (twice.byId found).2.1, rfl⟩, twice.byPeer,
      twice.nodup, twice.peers, twice.nodupPeers⟩
  connected side connectionId := by
    cases side <;> cases crossed <;>
      simp [twoLinkNodes, twoLinks, linkRecord, ConnectionIndexes.insert, ConnectionIndexes.empty,
        @eq_comm _ connectionId, or_comm]
  waiting _ := rfl
  noCloses _ := rfl

/-- Three passes of one side, which find no streams. -/
def threePasses (side : Side) (remote : Nat) : List (TwoSidedStep Nat Bool) :=
  let pass := TwoSidedStep.tick side [remote] :: List.replicate 10 (.govern side fun _ => 0)
  pass ++ [.setClock side connectionGovernanceGracePeriod] ++ pass ++ pass

/-- Each node keeps the connection that it calls 1, which is the one that the other closes. -/
theorem crossed_nodes_disconnect :
    Start (twoLinks true) (twoLinkNodes true) ∧
      ∃ final, run (step (twoLinks true) .preferDirect) (twoLinkNodes true)
          (threePasses .left 1 ++ threePasses .right 0) = some final ∧
        ∀ link, ¬ Stays (twoLinks true) final link := by
  refine ⟨start_twoLinkNodes true, ?_⟩
  have evaluated : ((run (step (twoLinks true) .preferDirect) (twoLinkNodes true)
      (threePasses .left 1 ++ threePasses .right 0)).map fun final =>
        decide ((final .left).Closes 2 ∧ (final .right).Closes 2)) = some true := by
    decide +kernel
  obtain ⟨final, reached, facts⟩ := Option.map_eq_some_iff.mp evaluated
  obtain ⟨byLeft, byRight⟩ := of_decide_eq_true facts
  refine ⟨final, reached, ?_⟩
  intro link stays
  cases link with
  | false => exact (stays .right).2 byRight
  | true => exact (stays .left).2 byLeft

/-- Both nodes keep the connection that they both call 1. -/
theorem connection_stays_of_sameFirst_demo :
    EveryState (step (twoLinks false) .preferDirect)
      (fun nodes => ∃ link, Stays (twoLinks false) nodes link) (twoLinkNodes false)
      (threePasses .left 1 ++ threePasses .right 0) := by
  have sameFirst : SameFirst (twoLinks false) .preferDirect (twoLinkNodes false) false := by
    intro side
    cases side with
    | left => exact ⟨linkRecord 1 1, rfl, rfl, by decide +kernel⟩
    | right => exact ⟨linkRecord 0 1, rfl, rfl, by decide +kernel⟩
  exact connection_stays_of_sameFirst (start_twoLinkNodes false) sameFirst _

end TwoNodes

end Fungi.Swarm
