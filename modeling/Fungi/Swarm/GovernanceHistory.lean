import Fungi.Swarm.Governance

/-!
# What governance has done before it closes

A connection is closed only after an earlier pass has marked it deprecated and a later one, at
least the grace period after that mark, has moved it to closing, each time in favour of the same
connection.  The marks are stored with the connection and judged again by every pass, so the
invariant ties every mark to the decisions of the passes that made it.
-/

namespace Fungi.Swarm

open Fungi.Lib ConnectionIndexes

variable {PeerId : Type}

/-! ## Justified marks -/

/-- A pass has decided to move the connection of the plan to closing. -/
structure ClosingDecision (history : List GovernanceEvent) (pass : Nat)
    (plan : ConnectionClosurePlan) (time : SystemTime) : Prop where
  decided : .decided pass plan time ∈ history
  action : plan.action = .markClosing
  idle : plan.activeStreamCount = 0
  another : plan.connectionId ≠ plan.recommendedConnectionId
  reason : plan.reason = lowerPriorityReason plan.recommendedConnectionId
  marked : ∃ markPass markedAt, markPass < pass ∧
    .updated markPass plan.connectionId .deprecated plan.reason markedAt ∈ history ∧
      markedAt + connectionGovernanceGracePeriod ≤ time

/-- A pass before `bound` has moved the connection to closing, for the reason given. -/
def MovedToClosing (history : List GovernanceEvent) (bound : Nat) (connectionId : ConnectionId)
    (reason : String) : Prop :=
  ∃ pass plan time updatedAt, pass < bound ∧ ClosingDecision history pass plan time ∧
    plan.connectionId = connectionId ∧ plan.reason = reason ∧
      .updated pass connectionId .closing reason updatedAt ∈ history

/-- A pass before `bound` has made the mark of the connection that its governance shows. -/
def Justified (history : List GovernanceEvent) (bound : Nat) (connectionId : ConnectionId)
    (governance : ConnectionGovernanceInfo) : Prop :=
  match governance.state with
  | .deprecated =>
      ∃ reason changedAt pass, governance.reason = some reason ∧
        governance.changedAt = some changedAt ∧ pass < bound ∧
          .updated pass connectionId .deprecated reason changedAt ∈ history
  | .closing =>
      ∃ reason, governance.reason = some reason ∧
        MovedToClosing history bound connectionId reason
  | _ => True

/-- What a decision of a pass tells about the passes before it. -/
structure DecisionSound (history : List GovernanceEvent) (pass : Nat)
    (plan : ConnectionClosurePlan) (time : SystemTime) : Prop where
  another : plan.connectionId ≠ plan.recommendedConnectionId
  reason : plan.reason = lowerPriorityReason plan.recommendedConnectionId
  closing : plan.action = .markClosing → ClosingDecision history pass plan time
  closes : plan.action = .closeNow →
    plan.activeStreamCount = 0 ∧ MovedToClosing history pass plan.connectionId plan.reason

section Monotonicity

variable {history later : List GovernanceEvent} (grows : history ⊆ later)

include grows

theorem ClosingDecision.mono {pass : Nat} {plan : ConnectionClosurePlan} {time : SystemTime}
    (decision : ClosingDecision history pass plan time) : ClosingDecision later pass plan time := by
  obtain ⟨markPass, markedAt, earlier, marked, long⟩ := decision.marked
  exact ⟨grows decision.decided, decision.action, decision.idle, decision.another, decision.reason,
    markPass, markedAt, earlier, grows marked, long⟩

theorem MovedToClosing.mono {bound laterBound : Nat} {connectionId : ConnectionId}
    {reason : String} (moved : MovedToClosing history bound connectionId reason)
    (atMost : bound ≤ laterBound) : MovedToClosing later laterBound connectionId reason := by
  obtain ⟨pass, plan, time, updatedAt, earlier, decision, ofConnection, forReason, updated⟩ := moved
  exact ⟨pass, plan, time, updatedAt, Nat.lt_of_lt_of_le earlier atMost, decision.mono grows,
    ofConnection, forReason, grows updated⟩

theorem Justified.mono {bound laterBound : Nat} {connectionId : ConnectionId}
    {governance : ConnectionGovernanceInfo}
    (justified : Justified history bound connectionId governance) (atMost : bound ≤ laterBound) :
    Justified later laterBound connectionId governance := by
  unfold Justified at justified ⊢
  split at justified
  · obtain ⟨reason, changedAt, pass, forReason, since, earlier, updated⟩ := justified
    exact ⟨reason, changedAt, pass, forReason, since, Nat.lt_of_lt_of_le earlier atMost,
      grows updated⟩
  · obtain ⟨reason, forReason, moved⟩ := justified
    exact ⟨reason, forReason, moved.mono grows atMost⟩
  · trivial

theorem DecisionSound.mono {pass : Nat} {plan : ConnectionClosurePlan} {time : SystemTime}
    (sound : DecisionSound history pass plan time) : DecisionSound later pass plan time where
  another := sound.another
  reason := sound.reason
  closing isClosing := (sound.closing isClosing).mono grows
  closes isClose := by
    obtain ⟨idle, moved⟩ := sound.closes isClose
    exact ⟨idle, moved.mono grows (Nat.le_refl _)⟩

end Monotonicity

theorem justified_default (history : List GovernanceEvent) (bound : Nat)
    (connectionId : ConnectionId) : Justified history bound connectionId {} := trivial

/-- A decision taken on a justified mark is sound. -/
theorem decisionSound_closurePlan {history : List GovernanceEvent} {pass : Nat}
    {now : SystemTime} {recommended connectionId : ConnectionId}
    {governance : Option ConnectionGovernanceInfo} {activeStreamCount : Nat}
    {plan : ConnectionClosurePlan}
    (justified : ∀ info, governance = some info → Justified history pass connectionId info)
    (another : connectionId ≠ recommended)
    (planned : closurePlan now recommended connectionId governance activeStreamCount = some plan) :
    DecisionSound (history ++ [.decided pass plan now]) pass plan now := by
  have grows : history ⊆ history ++ [.decided pass plan now] := List.subset_append_left _ _
  unfold closurePlan at planned
  rw [Option.map_eq_some_iff] at planned
  obtain ⟨action, next, rfl⟩ := planned
  cases governance with
  | none =>
      have unmarked : action = .markDeprecated := by
        rw [nextGovernanceAction_none] at next
        exact (Option.some.inj next).symm
      subst unmarked
      exact ⟨another, rfl, nofun, nofun⟩
  | some info =>
      have infoJustified := justified info rfl
      unfold Justified at infoJustified
      refine ⟨another, rfl, ?_, ?_⟩
      · rintro rfl
        obtain ⟨idle, forReason, isDeprecated, changedAt, since, long⟩ :=
          nextGovernanceAction_eq_markClosing.mp next
        rw [isDeprecated] at infoJustified
        obtain ⟨reason, markedAt, markPass, markReason, markedSince, earlier, marked⟩ :=
          infoJustified
        rw [forReason] at markReason
        rw [since] at markedSince
        cases markReason
        cases markedSince
        exact ⟨by simp, rfl, idle, another, rfl, markPass, changedAt, earlier, grows marked, long⟩
      · rintro rfl
        obtain ⟨idle, forReason, isClosing⟩ := nextGovernanceAction_eq_closeNow.mp next
        rw [isClosing] at infoJustified
        obtain ⟨reason, markReason, moved⟩ := infoJustified
        rw [forReason] at markReason
        cases markReason
        exact ⟨idle, moved.mono grows (Nat.le_refl _)⟩

/-- A mark made now is justified by itself, and one made again by the mark it repeats. -/
theorem justified_updateGovernance_deprecated {history : List GovernanceEvent} {pass bound : Nat}
    {connectionId : ConnectionId} {governance : ConnectionGovernanceInfo} {now : SystemTime}
    {reason : String} (justified : Justified history bound connectionId governance)
    (inTime : pass < bound) :
    Justified (history ++ [.updated pass connectionId .deprecated reason now]) bound connectionId
      (updateGovernance governance now .deprecated (some reason)) := by
  by_cases changes : governance.state ≠ .deprecated ∨ governance.reason ≠ some reason
  · simp only [Justified, updateGovernance, changes, if_true]
    exact ⟨reason, now, pass, rfl, rfl, inTime, by simp⟩
  · have same : updateGovernance governance now .deprecated (some reason) = governance := by
      rw [not_or, not_not, not_not] at changes
      cases governance
      simp_all [updateGovernance]
    rw [same]
    exact justified.mono (List.subset_append_left _ _) (Nat.le_refl _)

theorem justified_updateGovernance_closing {history : List GovernanceEvent} {pass bound : Nat}
    {plan : ConnectionClosurePlan} {governance : ConnectionGovernanceInfo}
    {now time : SystemTime} (decision : ClosingDecision history pass plan time)
    (inTime : pass < bound) :
    Justified (history ++ [.updated pass plan.connectionId .closing plan.reason now]) bound
      plan.connectionId (updateGovernance governance now .closing (some plan.reason)) := by
  unfold Justified updateGovernance
  exact ⟨plan.reason, rfl, pass, plan, time, now, inTime,
    decision.mono (List.subset_append_left _ _), rfl, rfl, by simp⟩

/-! ## The invariant of the loop -/

namespace GovernanceTask

/-- The peers that the pass is still concerned with, the one it looks at first. -/
def peers : GovernanceTask PeerId → List PeerId
  | .waiting => []
  | .nextPeer rest => rest
  | .recommending peer rest _ _ => peer :: rest
  | .inspecting peer rest _ _ _ _ => peer :: rest
  | .planning peer rest _ _ _ _ => peer :: rest
  | .acting peer rest _ => peer :: rest

/-- The peers to whose connections the pass has made no mark yet. -/
def unmarked : GovernanceTask PeerId → List PeerId
  | .acting _ rest _ => rest
  | task => task.peers

end GovernanceTask

namespace Governor

/-- The id has been given out, and is that of a connection to the peer. -/
structure Owned (indexes : ConnectionIndexes PeerId) (used : ConnectionId → Bool)
    (connectionId : ConnectionId) (peer : PeerId) : Prop where
  used : used connectionId = true
  only : indexes.OnlyOf connectionId peer

section

variable [DecidableEq PeerId]

/-- The passes that may have made the marks of a peer's connections come before this one. -/
def bound (self : Governor PeerId) (peer : PeerId) : Nat :=
  if peer ∈ self.task.unmarked then self.pass else self.pass + 1

/-- A plan the pass has made for a connection of the peer. -/
def Planned (self : Governor PeerId) (used : ConnectionId → Bool) (peer : PeerId)
    (plan : ConnectionClosurePlan) : Prop :=
  Owned self.indexes used plan.connectionId peer ∧
    ∃ time, .decided self.pass plan time ∈ self.history

/-- What was read of the connections has a reason in the history. -/
def InfosJustified (self : Governor PeerId)
    (infos : ConnectionId → Option ConnectionGovernanceInfo) : Prop :=
  ∀ connectionId info, infos connectionId = some info →
    Justified self.history self.pass connectionId info

/-- What the loop has read so far still tells the truth. -/
def TaskSound (self : Governor PeerId) (used : ConnectionId → Bool) : GovernanceTask PeerId → Prop
  | .waiting => True
  | .nextPeer _ => True
  | .recommending peer _ _ selected =>
      (selected.map fun connection => connection.connectionId).Nodup ∧
        ∀ connection ∈ selected, Owned self.indexes used connection.connectionId peer
  | .inspecting peer _ recommended others left infos =>
      recommended ∉ others ∧ (∀ connectionId ∈ others, Owned self.indexes used connectionId peer) ∧
        (∀ connectionId ∈ left, Owned self.indexes used connectionId peer) ∧
          self.InfosJustified infos
  | .planning peer _ recommended left infos plans =>
      recommended ∉ left ∧ (∀ connectionId ∈ left, Owned self.indexes used connectionId peer) ∧
        self.InfosJustified infos ∧ ∀ plan ∈ plans, self.Planned used peer plan
  | .acting peer _ plans => ∀ plan ∈ plans, self.Planned used peer plan

/-- What holds of a governor in every run. -/
structure Sound (governor : Governor PeerId) (used : ConnectionId → Bool) : Prop where
  coherent : governor.indexes.Coherent used
  distinct : governor.task.peers.Nodup
  justified : ∀ {connectionId record}, governor.indexes.byId connectionId = some record →
    Justified governor.history (governor.bound record.peerId) connectionId record.governance
  task : governor.TaskSound used governor.task
  decisions : ∀ {pass plan time}, .decided pass plan time ∈ governor.history →
    DecisionSound governor.history pass plan time

variable {self later : Governor PeerId} {used laterUsed : ConnectionId → Bool}

omit [DecidableEq PeerId] in
theorem Planned.mono {peer : PeerId} {plan : ConnectionClosurePlan}
    (planned : self.Planned used peer plan) (grows : self.history ⊆ later.history)
    (samePass : later.pass = self.pass)
    (owned : ∀ connectionId peer, Owned self.indexes used connectionId peer →
      Owned later.indexes laterUsed connectionId peer) : later.Planned laterUsed peer plan := by
  obtain ⟨ofPeer, time, decided⟩ := planned
  exact ⟨owned _ _ ofPeer, time, samePass ▸ grows decided⟩

omit [DecidableEq PeerId] in
theorem InfosJustified.mono {infos : ConnectionId → Option ConnectionGovernanceInfo}
    (justified : self.InfosJustified infos) (grows : self.history ⊆ later.history)
    (samePass : later.pass = self.pass) : later.InfosJustified infos := by
  intro connectionId info found
  exact (justified connectionId info found).mono grows (Nat.le_of_eq samePass.symm)

omit [DecidableEq PeerId] in
/-- What the loop has read stays true while connections come and go and others are marked. -/
theorem TaskSound.mono {task : GovernanceTask PeerId} (sound : self.TaskSound used task)
    (grows : self.history ⊆ later.history) (samePass : later.pass = self.pass)
    (owned : ∀ connectionId peer, Owned self.indexes used connectionId peer →
      Owned later.indexes laterUsed connectionId peer) : later.TaskSound laterUsed task := by
  cases task with
  | waiting => trivial
  | nextPeer rest => trivial
  | recommending peer rest strategy selected =>
      exact ⟨sound.1, fun connection member => owned _ _ (sound.2 connection member)⟩
  | inspecting peer rest recommended others left infos =>
      obtain ⟨another, ofOthers, ofLeft, infosJustified⟩ := sound
      exact ⟨another, fun id member => owned _ _ (ofOthers id member),
        fun id member => owned _ _ (ofLeft id member), infosJustified.mono grows samePass⟩
  | planning peer rest recommended left infos plans =>
      obtain ⟨another, ofLeft, infosJustified, planned⟩ := sound
      exact ⟨another, fun id member => owned _ _ (ofLeft id member),
        infosJustified.mono grows samePass,
        fun plan member => (planned plan member).mono grows samePass owned⟩
  | acting peer rest plans =>
      exact fun plan member => (sound plan member).mono grows samePass owned

/-- The loop moves on to `task`. -/
theorem Sound.withTask (sound : self.Sound used) {task : GovernanceTask PeerId}
    (fewer : task.unmarked ⊆ self.task.unmarked) (distinct : task.peers.Nodup)
    (taskSound : self.TaskSound used task) : ({ self with task } : Governor PeerId).Sound used where
  coherent := sound.coherent
  distinct := distinct
  justified {connectionId record} found := by
    apply (sound.justified found).mono (List.Subset.refl _)
    unfold bound
    dsimp only
    by_cases unmarked : record.peerId ∈ task.unmarked
    · simp [unmarked, fewer unmarked]
    · rw [if_neg unmarked]
      split
      · exact Nat.le_succ _
      · exact Nat.le_refl _
  task := taskSound.mono (List.Subset.refl _) rfl fun _ _ owned => owned
  decisions := sound.decisions

/-- One more event, which is sound if it is a decision. -/
theorem Sound.log (sound : self.Sound used) {event : GovernanceEvent}
    (decision : ∀ pass plan time, event = .decided pass plan time →
      DecisionSound (self.history ++ [event]) pass plan time) :
    ({ self with history := self.history ++ [event] } : Governor PeerId).Sound used where
  coherent := sound.coherent
  distinct := sound.distinct
  justified found := (sound.justified found).mono (List.subset_append_left _ _) (Nat.le_refl _)
  task := sound.task.mono (List.subset_append_left _ _) rfl fun _ _ owned => owned
  decisions {pass plan time} member := by
    rw [List.mem_append, List.mem_singleton] at member
    rcases member with before | now
    · exact (sound.decisions before).mono (List.subset_append_left _ _)
    · exact decision pass plan time now.symm

theorem Sound.updateGovernance (sound : self.Sound used) {connectionId : ConnectionId}
    {state : ConnectionGovernanceState} {reason : String}
    (mark : ∀ record, self.indexes.byId connectionId = some record →
      Justified (self.history ++ [.updated self.pass connectionId state reason self.now])
        (self.bound record.peerId) connectionId
        (ConnectionIndexes.updateGovernance record.governance self.now state (some reason))) :
    (self.updateGovernance connectionId state reason).Sound used where
  coherent := coherent_updateConnectionGovernance sound.coherent _ _ _ _
  distinct := sound.distinct
  justified {found record} entry := by
    simp only [Governor.updateGovernance, byId_updateConnectionGovernance,
      Option.map_eq_some_iff] at entry
    obtain ⟨before, entryBefore, rfl⟩ := entry
    by_cases same : found = connectionId
    · subst same
      rw [if_pos rfl]
      exact mark before entryBefore
    · rw [if_neg same]
      exact (sound.justified entryBefore).mono (List.subset_append_left _ _) (Nat.le_refl _)
  task := by
    have grows : self.history ⊆ (self.updateGovernance connectionId state reason).history :=
      List.subset_append_left _ _
    apply sound.task.mono grows rfl
    intro id peer owned
    exact ⟨owned.used, onlyOf_updateConnectionGovernance owned.only _ _ _ _⟩
  decisions {pass plan time} member := by
    simp only [Governor.updateGovernance, List.mem_append, List.mem_singleton, reduceCtorEq,
      or_false] at member
    exact (sound.decisions member).mono (List.subset_append_left _ _)

/-! ## The steps of a pass -/

omit [DecidableEq PeerId] in
theorem owned_of_byId {indexes : ConnectionIndexes PeerId} (coherent : indexes.Coherent used)
    {connectionId : ConnectionId} {record : ConnectionRecord PeerId}
    (found : indexes.byId connectionId = some record) :
    Owned indexes used connectionId record.peerId where
  used := (coherent.byId found).2.2
  only other foundAgain := by
    rw [found] at foundAgain
    cases foundAgain
    rfl

omit [DecidableEq PeerId] in
/-- The selection of a peer lists each of its connections once. -/
theorem selection_sound (coherent : self.indexes.Coherent used)
    (strategy : ConnectionSelectionStrategy) (peer : PeerId) :
    let selected := sortByStrategy strategy (self.indexes.recordsForPeer peer)
    (selected.map fun connection => connection.connectionId).Nodup ∧
      ∀ connection ∈ selected, Owned self.indexes used connection.connectionId peer := by
  have sorted : (sortByStrategy strategy (self.indexes.recordsForPeer peer)).Perm
      (self.indexes.recordsForPeer peer) :=
    perm_sortByStrategy _
  constructor
  · exact (sorted.map _).nodup_iff.mpr (nodup_recordsForPeer coherent peer)
  · intro connection member
    obtain ⟨found, rfl⟩ := (mem_recordsForPeer coherent).mp (sorted.mem_iff.mp member)
    exact owned_of_byId coherent found

theorem Sound.recommend (sound : self.Sound used) {peer : PeerId} {rest : List PeerId}
    {strategy : ConnectionSelectionStrategy} {recommended : ConnectionRecord PeerId}
    {others : List (ConnectionRecord PeerId)}
    (stands : self.task = .recommending peer rest strategy (recommended :: others))
    (reason : String) :
    let ids := others.map fun connection => connection.connectionId
    let task := if others = [] then .nextPeer rest
      else .inspecting peer rest recommended.connectionId ids
        (recommended.connectionId :: ids) fun _ => none
    ({ self.updateGovernance recommended.connectionId .recommended reason with task } :
      Governor PeerId).Sound used := by
  intro ids task
  have marked : (self.updateGovernance recommended.connectionId .recommended reason).Sound used :=
    sound.updateGovernance fun _ _ => trivial
  have taskSound := marked.task
  have distinct := sound.distinct
  simp only [Governor.updateGovernance, stands, TaskSound, GovernanceTask.peers, List.map_cons,
    List.nodup_cons, List.forall_mem_cons] at taskSound distinct
  obtain ⟨⟨another, _⟩, ofRecommended, ofOthers⟩ := taskSound
  have owned : ∀ connectionId ∈ ids, Owned
      (self.updateGovernance recommended.connectionId .recommended reason).indexes used
      connectionId peer := by
    intro connectionId member
    obtain ⟨connection, listed, rfl⟩ := List.mem_map.mp member
    exact ofOthers connection listed
  by_cases alone : others = []
  · simp only [task, alone, if_true]
    apply marked.withTask
    · simp [Governor.updateGovernance, stands, GovernanceTask.unmarked, GovernanceTask.peers]
    · exact distinct.2
    · trivial
  · simp only [task, alone, if_false]
    apply marked.withTask
    · simp [Governor.updateGovernance, stands, GovernanceTask.unmarked, GovernanceTask.peers]
    · exact List.nodup_cons.mpr distinct
    · refine ⟨another, owned, ?_, by simp [InfosJustified]⟩
      intro connectionId member
      rcases List.mem_cons.mp member with rfl | listed
      · exact ofRecommended
      · exact owned connectionId listed

/-- What the loop reads of a connection of the peer it looks at was marked by earlier passes. -/
theorem Sound.inspect (sound : self.Sound used) {peer : PeerId} {rest : List PeerId}
    {recommended connectionId : ConnectionId} {others left : List ConnectionId}
    {infos : ConnectionId → Option ConnectionGovernanceInfo}
    (stands : self.task = .inspecting peer rest recommended others (connectionId :: left) infos) :
    let info := (self.indexes.connectionGovernanceInfo connectionId).getD {}
    let infos := Function.update infos connectionId (some info)
    ({ self with task := .inspecting peer rest recommended others left infos } :
      Governor PeerId).Sound used := by
  intro info infos
  have taskSound := sound.task
  have distinct := sound.distinct
  rw [stands] at taskSound distinct
  obtain ⟨another, ofOthers, ofLeft, infosJustified⟩ := taskSound
  rw [List.forall_mem_cons] at ofLeft
  apply sound.withTask
  · rw [stands]
    exact List.Subset.refl _
  · exact distinct
  · refine ⟨another, ofOthers, ofLeft.2, ?_⟩
    intro found foundInfo entry
    rcases of_update entry with new | old
    · obtain ⟨rfl, same⟩ := new
      rw [← Option.some.inj same]
      cases record : self.indexes.byId found with
      | none =>
          simp only [info, ConnectionIndexes.connectionGovernanceInfo, record]
          exact justified_default _ _ _
      | some record' =>
          have ofPeer := ofLeft.1.only record' record
          have justified := sound.justified record
          simpa [info, ConnectionIndexes.connectionGovernanceInfo, record, bound, stands,
            GovernanceTask.unmarked, GovernanceTask.peers, ofPeer] using justified
    · exact infosJustified found foundInfo old.2

theorem Sound.plan (sound : self.Sound used) {peer : PeerId} {rest : List PeerId}
    {recommended connectionId : ConnectionId} {left : List ConnectionId}
    {infos : ConnectionId → Option ConnectionGovernanceInfo} {plans : List ConnectionClosurePlan}
    {activeStreamCount : Nat} {plan : ConnectionClosurePlan}
    (stands : self.task = .planning peer rest recommended (connectionId :: left) infos plans)
    (planned : closurePlan self.now recommended connectionId (infos connectionId)
      activeStreamCount = some plan) :
    ({ self with
        task := .planning peer rest recommended left infos (plans ++ [plan])
        history := self.history ++ [.decided self.pass plan self.now] } :
      Governor PeerId).Sound used := by
  have taskSound := sound.task
  have distinct := sound.distinct
  rw [stands] at taskSound distinct
  obtain ⟨another, ofLeft, infosJustified, plansSound⟩ := taskSound
  rw [List.mem_cons, not_or] at another
  rw [List.forall_mem_cons] at ofLeft
  have decision : DecisionSound (self.history ++ [.decided self.pass plan self.now]) self.pass plan
      self.now :=
    decisionSound_closurePlan (fun info found => infosJustified _ info found)
      (Ne.symm another.1) planned
  have grows : self.history ⊆ self.history ++ [.decided self.pass plan self.now] :=
    List.subset_append_left _ _
  have logged : ({ self with history := self.history ++ [.decided self.pass plan self.now] } :
      Governor PeerId).Sound used := by
    apply sound.log
    intro pass plan' time same
    cases same
    exact decision
  apply logged.withTask
  · rw [stands]
    exact List.Subset.refl _
  · exact distinct
  · refine ⟨another.2, ofLeft.2, fun id info found => (infosJustified id info found).mono grows
      (Nat.le_refl _), ?_⟩
    intro other member
    rw [List.mem_append, List.mem_singleton] at member
    rcases member with before | rfl
    · exact (plansSound other before).mono grows rfl fun _ _ owned => owned
    · refine ⟨?_, self.now, by simp⟩
      have sameConnection : other.connectionId = connectionId := by
        unfold closurePlan at planned
        rw [Option.map_eq_some_iff] at planned
        obtain ⟨action, _, rfl⟩ := planned
        rfl
      rw [sameConnection]
      exact ofLeft.1

/-- Only connections of the peer that the pass has just looked at are marked. -/
theorem Sound.act (sound : self.Sound used) {peer : PeerId} {rest : List PeerId}
    {plan : ConnectionClosurePlan} {plans : List ConnectionClosurePlan}
    (stands : self.task = .acting peer rest (plan :: plans)) :
    ({ self.actOn plan with task := .acting peer rest plans } : Governor PeerId).Sound used := by
  have taskSound := sound.task
  have distinct := sound.distinct
  rw [stands] at taskSound distinct
  have planned := taskSound plan List.mem_cons_self
  obtain ⟨owned, time, decided⟩ := planned
  have decision := sound.decisions decided
  have inTime : ∀ record, self.indexes.byId plan.connectionId = some record →
      self.bound record.peerId = self.pass + 1 := by
    intro record found
    have ofPeer := owned.only record found
    have marked : peer ∉ rest := (List.nodup_cons.mp distinct).1
    simp [bound, stands, GovernanceTask.unmarked, ofPeer, marked]
  have acted : (self.actOn plan).Sound used := by
    unfold actOn
    cases action : plan.action with
    | markDeprecated =>
        apply sound.updateGovernance
        intro record found
        apply justified_updateGovernance_deprecated (sound.justified found)
        rw [inTime record found]
        exact Nat.lt_succ_self _
    | markClosing =>
        apply sound.updateGovernance
        intro record found
        apply justified_updateGovernance_closing (decision.closing action)
        rw [inTime record found]
        exact Nat.lt_succ_self _
    | closeNow => exact sound.log (by intro pass plan' time same; cases same)
  have sameTask : (self.actOn plan).task = self.task := by
    unfold actOn
    cases plan.action <;> rfl
  have moreHistory : self.history ⊆ (self.actOn plan).history := by
    unfold actOn
    cases plan.action <;> exact List.subset_append_left _ _
  have actedTask := acted.task
  rw [sameTask, stands] at actedTask
  apply acted.withTask
  · rw [sameTask, stands]
    exact List.Subset.refl _
  · exact distinct
  · exact fun other member => actedTask other (List.mem_cons_of_mem _ member)

theorem Sound.govern (sound : self.Sound used) {strategy : ConnectionSelectionStrategy}
    {activeStreams : ConnectionId → Nat} {next : Governor PeerId}
    (taken : self.govern strategy activeStreams = some next) : next.Sound used := by
  have distinct := sound.distinct
  have taskSound := sound.task
  have moveOn : ∀ task, task.unmarked ⊆ self.task.unmarked → task.peers.Nodup →
      self.TaskSound used task → ({ self with task } : Governor PeerId).Sound used :=
    fun _ fewer distinct taskSound => sound.withTask fewer distinct taskSound
  unfold Governor.govern at taken
  split at taken
  · cases taken
  · cases taken
    exact moveOn .waiting (List.nil_subset _) List.nodup_nil trivial
  · next peer rest stands =>
      cases taken
      rw [stands] at distinct moveOn
      exact moveOn (.recommending peer rest strategy _) (List.Subset.refl _) distinct
        (selection_sound sound.coherent strategy peer)
  · next peer rest strategy stands =>
      cases taken
      rw [stands] at distinct moveOn
      exact moveOn (.nextPeer rest) (List.subset_cons_self _ _) (List.nodup_cons.mp distinct).2
        trivial
  · next stands =>
      cases taken
      exact sound.recommend stands _
  · next peer rest recommended others infos stands =>
      cases taken
      rw [stands] at distinct taskSound moveOn
      obtain ⟨another, ofOthers, _, infosJustified⟩ := taskSound
      exact moveOn (.planning peer rest recommended others infos []) (List.Subset.refl _) distinct
        ⟨another, ofOthers, infosJustified, by simp⟩
  · next stands =>
      cases taken
      exact sound.inspect stands
  · next peer rest recommended infos plans stands =>
      cases taken
      rw [stands] at distinct taskSound moveOn
      exact moveOn (.acting peer rest plans) (List.subset_cons_self _ _) distinct taskSound.2.2.2
  · next peer rest recommended connectionId left infos plans stands =>
      split at taken
      · next plan planned =>
          cases taken
          exact sound.plan stands planned
      · cases taken
        rw [stands] at distinct taskSound moveOn
        obtain ⟨another, ofLeft, infosJustified, plansSound⟩ := taskSound
        exact moveOn (.planning peer rest recommended left infos plans) (List.Subset.refl _)
          distinct
          ⟨fun member => another (List.mem_cons_of_mem _ member),
            fun id member => ofLeft id (List.mem_cons_of_mem _ member), infosJustified, plansSound⟩
  · next peer rest stands =>
      cases taken
      rw [stands] at distinct moveOn
      exact moveOn (.nextPeer rest) (List.Subset.refl _) (List.nodup_cons.mp distinct).2 trivial
  · next stands =>
      cases taken
      exact sound.act stands

theorem Sound.tick (sound : self.Sound used) {order : List PeerId} {next : Governor PeerId}
    (taken : self.tick order = some next) : next.Sound used := by
  unfold Governor.tick at taken
  split at taken
  · next stands =>
      split at taken
      · next sameAsMap =>
          cases taken
          refine ⟨sound.coherent, ?_, ?_, trivial, sound.decisions⟩
          · exact sameAsMap.nodup_iff.mpr sound.coherent.nodupPeers
          · intro connectionId record found
            apply (sound.justified found).mono (List.Subset.refl _)
            unfold bound
            rw [stands, if_neg (by simp [GovernanceTask.unmarked, GovernanceTask.peers])]
            split
            · exact Nat.le_refl _
            · exact Nat.le_succ _
      · cases taken
  · cases taken

/-- Connections come and go; those that come are not marked. -/
theorem Sound.withIndexes (sound : self.Sound used) {indexes : ConnectionIndexes PeerId}
    {now : SystemTime} (coherent : indexes.Coherent laterUsed)
    (owned : ∀ connectionId peer, Owned self.indexes used connectionId peer →
      Owned indexes laterUsed connectionId peer)
    (unmarked : ∀ connectionId record, indexes.byId connectionId = some record →
      self.indexes.byId connectionId = some record ∨ record.governance = {}) :
    ({ self with indexes, now } : Governor PeerId).Sound laterUsed where
  coherent := coherent
  distinct := sound.distinct
  justified {connectionId record} found := by
    rcases unmarked connectionId record found with before | new
    · exact sound.justified before
    · rw [new]
      exact justified_default _ _ _
  task := sound.task.mono (List.Subset.refl _) rfl owned
  decisions := sound.decisions

theorem Sound.insert (sound : self.Sound used) {record : ConnectionRecord PeerId}
    (fresh : used record.connectionId = false) (unmarked : record.governance = {}) :
    ({ self with indexes := self.indexes.insert record } : Governor PeerId).Sound
      (Function.update used record.connectionId true) := by
  apply sound.withIndexes (coherent_insert sound.coherent fresh)
  · intro connectionId peer owned
    have apart : connectionId ≠ record.connectionId := by
      rintro rfl
      rw [owned.used] at fresh
      cases fresh
    refine ⟨by simp [apart, owned.used], ?_⟩
    intro other found
    exact owned.only other (by simpa [ConnectionIndexes.insert, apart] using found)
  · intro connectionId other found
    rcases of_update found with new | old
    · right
      rw [← Option.some.inj new.2]
      exact unmarked
    · exact Or.inl old.2

theorem Sound.remove (sound : self.Sound used) (connectionId : ConnectionId) :
    ({ self with indexes := self.indexes.remove connectionId } : Governor PeerId).Sound used := by
  have remains : ∀ {found record},
      (self.indexes.remove connectionId).byId found = some record →
        self.indexes.byId found = some record := by
    intro found record entry
    rw [byId_remove] at entry
    split at entry
    · cases entry
    · exact entry
  apply sound.withIndexes (coherent_remove sound.coherent connectionId)
  · intro found peer owned
    exact ⟨owned.used, fun record entry => owned.only record (remains entry)⟩
  · intro found record entry
    exact Or.inl (remains entry)

end

end Governor

/-! ## Every run -/

/-- A swarm under governance: `streams` counts the tracked streams of each connection. -/
structure GovernedSwarm (PeerId : Type) where
  governor : Governor PeerId
  streams : ConnectionId → Nat
  used : ConnectionId → Bool

/-- The strategy may differ from step to step, and so may the time the clock shows. -/
inductive GovernedStep (PeerId : Type) where
  | tick (order : List PeerId)
  | govern (strategy : ConnectionSelectionStrategy)
  | connectionEstablished (peerId : PeerId) (connectionId : ConnectionId)
      (direction : ConnectionDirection) (remoteAddr : Multiaddr PeerId)
  | connectionClosed (connectionId : ConnectionId)
  | setStreams (connectionId : ConnectionId) (count : Nat)
  | setClock (now : SystemTime)

namespace GovernedSwarm

variable [DecidableEq PeerId]

/-- A swarm without connections. -/
def start (now : SystemTime) : GovernedSwarm PeerId :=
  { governor := { indexes := .empty, now, task := .waiting, pass := 0, history := [] }
    streams := fun _ => 0
    used := fun _ => false }

/-- The record of `handle_connection_established`. -/
def newRecord (peerId : PeerId) (connectionId : ConnectionId) (direction : ConnectionDirection)
    (remoteAddr : Multiaddr PeerId) (now : SystemTime) : ConnectionRecord PeerId :=
  { peerId, connectionId, direction, remoteAddr, establishedAt := now, governance := {} }

/-- What a step does, where it is possible. -/
def step (self : GovernedSwarm PeerId) : GovernedStep PeerId → Option (GovernedSwarm PeerId)
  | .tick order => (self.governor.tick order).map fun governor => { self with governor }
  | .govern strategy =>
      (self.governor.govern strategy self.streams).map fun governor => { self with governor }
  | .connectionEstablished peerId connectionId direction remoteAddr =>
      if self.used connectionId then none
      else
        let record := newRecord peerId connectionId direction remoteAddr self.governor.now
        some
          { self with
            governor := { self.governor with indexes := self.governor.indexes.insert record }
            used := Function.update self.used connectionId true }
  | .connectionClosed connectionId =>
      some
        { self with
          governor :=
            { self.governor with indexes := self.governor.indexes.remove connectionId } }
  | .setStreams connectionId count =>
      some { self with streams := Function.update self.streams connectionId count }
  | .setClock now => some { self with governor := { self.governor with now } }

theorem sound_step {self next : GovernedSwarm PeerId} {action : GovernedStep PeerId}
    (sound : self.governor.Sound self.used) (taken : self.step action = some next) :
    next.governor.Sound next.used := by
  cases action with
  | tick order =>
      obtain ⟨governor, ticked, rfl⟩ := Option.map_eq_some_iff.mp taken
      exact sound.tick ticked
  | govern strategy =>
      obtain ⟨governor, governed, rfl⟩ := Option.map_eq_some_iff.mp taken
      exact sound.govern governed
  | connectionEstablished peerId connectionId direction remoteAddr =>
      dsimp only [step] at taken
      split at taken
      · cases taken
      · next fresh =>
          have notUsed : self.used connectionId = false := by simpa using fresh
          cases taken
          exact sound.insert notUsed rfl
  | connectionClosed connectionId =>
      cases taken
      exact sound.remove connectionId
  | setStreams connectionId count =>
      cases taken
      exact sound
  | setClock now =>
      cases taken
      exact sound.withIndexes sound.coherent (fun _ _ owned => owned) fun _ _ found => Or.inl found

theorem sound_start (now : SystemTime) :
    (start now : GovernedSwarm PeerId).governor.Sound (start now : GovernedSwarm PeerId).used where
  coherent := coherent_empty _
  distinct := List.nodup_nil
  justified found := by cases found
  task := trivial
  decisions decided := by cases decided

/-- Whenever a pass decides to close a connection, it has no tracked streams, it is not the one
the pass selects first, an earlier pass has moved it to closing while it had no tracked streams
and was not the first either, and a still earlier one had marked it deprecated at least the grace
period before, each time in favour of the same connection. -/
theorem closeNow_decided_gracefully {now : SystemTime} {actions : List (GovernedStep PeerId)}
    {final : GovernedSwarm PeerId} (reached : run step (start now) actions = some final)
    {pass : Nat} {plan : ConnectionClosurePlan} {time : SystemTime}
    (decided : .decided pass plan time ∈ final.governor.history)
    (closes : plan.action = .closeNow) :
    plan.activeStreamCount = 0 ∧ plan.connectionId ≠ plan.recommendedConnectionId ∧
      ∃ closingPass closing closingTime updatedAt markPass markedAt,
        .decided closingPass closing closingTime ∈ final.governor.history ∧
        closing.action = .markClosing ∧ closing.connectionId = plan.connectionId ∧
        closing.recommendedConnectionId = plan.recommendedConnectionId ∧
        closing.activeStreamCount = 0 ∧
        .updated closingPass plan.connectionId .closing plan.reason updatedAt ∈
          final.governor.history ∧
        .updated markPass plan.connectionId .deprecated plan.reason markedAt ∈
          final.governor.history ∧
        plan.reason = lowerPriorityReason plan.recommendedConnectionId ∧
        markedAt + connectionGovernanceGracePeriod ≤ closingTime ∧
        markPass < closingPass ∧ closingPass < pass := by
  have sound : final.governor.Sound final.used := by
    apply run_induction (motive := fun _ state => state.governor.Sound state.used)
      (sound_start now) _ reached
    intro _ state action next _ before taken
    exact sound_step before taken
  have decision := sound.decisions decided
  obtain ⟨idle, closingPass, closing, closingTime, updatedAt, earlier, closingDecision,
    ofConnection, sameReason, updated⟩ := decision.closes closes
  obtain ⟨markPass, markedAt, before, marked, long⟩ := closingDecision.marked
  have sameRecommended : closing.recommendedConnectionId = plan.recommendedConnectionId := by
    apply lowerPriorityReason_injective
    rw [← closingDecision.reason, sameReason, decision.reason]
  rw [ofConnection, sameReason] at marked
  exact ⟨idle, decision.another, closingPass, closing, closingTime, updatedAt, markPass, markedAt,
    closingDecision.decided, closingDecision.action, ofConnection, sameRecommended,
    closingDecision.idle, updated, marked, decision.reason, long, before, earlier⟩

/-- Two direct connections to one peer: the second is marked, moved to closing two minutes later
and closed by the third pass. -/
theorem closeNow_decided_gracefully_demo :
    let pass : List (GovernedStep Nat) := .tick [0] :: List.replicate 10 (.govern .preferDirect)
    let actions : List (GovernedStep Nat) :=
      [.connectionEstablished 0 1 .outbound [.tcp 4001],
        .connectionEstablished 0 2 .inbound [.tcp 4002]] ++
      pass ++ [.setClock connectionGovernanceGracePeriod] ++ pass ++ pass
    ∃ final, run step (start 0) actions = some final ∧
      .closeIssued 3 2 ∈ final.governor.history ∧
        ∃ closingPass updatedAt, closingPass < 3 ∧
          .updated closingPass 2 .closing (lowerPriorityReason 1) updatedAt ∈
            final.governor.history := by
  intro pass actions
  let plan : ConnectionClosurePlan :=
    { connectionId := 2
      recommendedConnectionId := 1
      activeStreamCount := 0
      reason := lowerPriorityReason 1
      action := .closeNow }
  have evaluated : ((run step (start 0) actions).map fun final =>
      decide (.decided 3 plan connectionGovernanceGracePeriod ∈ final.governor.history ∧
        .closeIssued 3 2 ∈ final.governor.history)) = some true := by
    decide +kernel
  obtain ⟨final, reached, facts⟩ := Option.map_eq_some_iff.mp evaluated
  obtain ⟨decided, issued⟩ := of_decide_eq_true facts
  obtain ⟨_, _, closingPass, _, _, updatedAt, _, _, _, _, _, _, _, updated, _, _, _, _, earlier⟩ :=
    closeNow_decided_gracefully reached decided rfl
  exact ⟨final, reached, issued, closingPass, updatedAt, earlier, updated⟩

end GovernedSwarm

end Fungi.Swarm
