import Mathlib.Algebra.Ring.Int.Defs
import Mathlib.Data.List.Sort
import Fungi.Lib.Text
import Fungi.Swarm.ConnectionIndexes

/-!
# Connection governance

`crates/swarm/src/libp2p/governance.rs` and `sort_by_strategy` of
`crates/swarm/src/libp2p/types.rs`: a loop that selects the best connection to each peer and
moves the others towards their close, one pass after another.  A pass takes many steps, one for
each lock it takes, and everything else may happen between two of them.
-/

namespace Fungi.Swarm

open Fungi.Lib

variable {PeerId : Type}

/-- Which connections to a peer are preferred. -/
inductive ConnectionSelectionStrategy where
  | preferDirect
  | preferRelay
  deriving DecidableEq

/-- `Duration::MAX` in nanoseconds. -/
def durationMax : Nat := (2 ^ 64 - 1) * 10 ^ 9 + 999999999

/-- The time since the epoch; a time before it counts as the longest. -/
def establishedAtKey (establishedAt : SystemTime) : Nat :=
  if 0 ≤ establishedAt then establishedAt.toNat else durationMax

/-- The text of an id is a number, which is parsed again. -/
def connIdKey (connectionId : ConnectionId) : Nat := connectionId

/-- The comparison of `sort_by_strategy`. -/
def compareByStrategy (strategy : ConnectionSelectionStrategy) (a b : ConnectionRecord PeerId) :
    Ordering :=
  let byRelay := match strategy with
    | .preferDirect => compare a.isRelay b.isRelay
    | .preferRelay => compare b.isRelay a.isRelay
  (byRelay.then
    (compare (establishedAtKey a.establishedAt) (establishedAtKey b.establishedAt))).then
    (compare (connIdKey a.connectionId) (connIdKey b.connectionId))

/-- The connections in the order of the strategy. -/
def sortByStrategy (strategy : ConnectionSelectionStrategy)
    (records : List (ConnectionRecord PeerId)) : List (ConnectionRecord PeerId) :=
  records.insertionSort fun a b => compareByStrategy strategy a b ≠ .gt

section Sorting

variable {strategy : ConnectionSelectionStrategy} {a b : ConnectionRecord PeerId}

/-- The first key of the comparison, as a number. -/
def relayRank (strategy : ConnectionSelectionStrategy) (record : ConnectionRecord PeerId) : Nat :=
  match strategy with
  | .preferDirect => record.isRelay.toNat
  | .preferRelay => (!record.isRelay).toNat

theorem compare_nat_then_ne_gt {x y : Nat} {next : Ordering} :
    (compare x y).then next ≠ .gt ↔ x < y ∨ x = y ∧ next ≠ .gt := by
  rcases Nat.lt_trichotomy x y with less | rfl | greater
  · simp [Nat.compare_eq_lt.mpr less, less]
  · simp
  · have notLess : ¬ x < y := Nat.lt_asymm greater
    have apart : x ≠ y := Nat.ne_of_gt greater
    simp [Nat.compare_eq_gt.mpr greater, notLess, apart]

theorem compareByStrategy_ne_gt :
    compareByStrategy strategy a b ≠ .gt ↔
      relayRank strategy a < relayRank strategy b ∨ relayRank strategy a = relayRank strategy b ∧
        (establishedAtKey a.establishedAt < establishedAtKey b.establishedAt ∨
          establishedAtKey a.establishedAt = establishedAtKey b.establishedAt ∧
            connIdKey a.connectionId ≤ connIdKey b.connectionId) := by
  have ids : compare (connIdKey a.connectionId) (connIdKey b.connectionId) ≠ .gt ↔
      connIdKey a.connectionId ≤ connIdKey b.connectionId := by
    rw [ne_eq, Nat.compare_eq_gt, Nat.not_lt]
  have byRank : compareByStrategy strategy a b =
      (compare (relayRank strategy a) (relayRank strategy b)).then
        ((compare (establishedAtKey a.establishedAt) (establishedAtKey b.establishedAt)).then
          (compare (connIdKey a.connectionId) (connIdKey b.connectionId))) := by
    unfold compareByStrategy relayRank
    cases strategy <;> cases a.isRelay <;> cases b.isRelay <;> rfl
  rw [byRank, compare_nat_then_ne_gt, compare_nat_then_ne_gt, ids]

instance total_compareByStrategy :
    Std.Total fun a b : ConnectionRecord PeerId => compareByStrategy strategy a b ≠ .gt where
  total a b := by
    rw [compareByStrategy_ne_gt, compareByStrategy_ne_gt]
    omega

instance trans_compareByStrategy :
    IsTrans (ConnectionRecord PeerId) fun a b => compareByStrategy strategy a b ≠ .gt where
  trans a b c := by
    rw [compareByStrategy_ne_gt, compareByStrategy_ne_gt, compareByStrategy_ne_gt]
    omega

theorem perm_sortByStrategy (records : List (ConnectionRecord PeerId)) :
    (sortByStrategy strategy records).Perm records := List.perm_insertionSort _ _

/-- A record that comes before all others is the one selected. -/
theorem eq_of_head_sortByStrategy {records rest : List (ConnectionRecord PeerId)}
    {selected : ConnectionRecord PeerId}
    (sorted : sortByStrategy strategy records = selected :: rest) (member : a ∈ records)
    (first : ∀ other ∈ records, compareByStrategy strategy a other ≠ .gt) :
    selected.connectionId = a.connectionId := by
  have ordered := List.pairwise_insertionSort
    (fun a b : ConnectionRecord PeerId => compareByStrategy strategy a b ≠ .gt) records
  unfold sortByStrategy at sorted
  rw [sorted, List.pairwise_cons] at ordered
  have isMember : ∀ other, other ∈ selected :: rest ↔ other ∈ records := by
    intro other
    rw [← sorted, List.mem_insertionSort]
  have before := first selected ((isMember selected).mp List.mem_cons_self)
  rcases List.mem_cons.mp ((isMember a).mpr member) with same | later
  · rw [same]
  · have after := ordered.1 a later
    rw [compareByStrategy_ne_gt] at before after
    have sameKey : connIdKey selected.connectionId = connIdKey a.connectionId := by omega
    exact sameKey

end Sorting

/-- Two minutes, in nanoseconds. -/
def connectionGovernanceGracePeriod : Int := 120 * 10 ^ 9

/-- What the governor does about a connection. -/
inductive GovernanceAction where
  | markDeprecated
  | markClosing
  | closeNow
  deriving DecidableEq

/-- What the governor has decided about a connection. -/
structure ConnectionClosurePlan where
  connectionId : ConnectionId
  recommendedConnectionId : ConnectionId
  activeStreamCount : Nat
  reason : String
  action : GovernanceAction
  deriving DecidableEq

/-- Why a connection is to be closed. -/
def lowerPriorityReason (recommendedConnectionId : ConnectionId) : String :=
  "lower-priority-than-connection-" ++ toString recommendedConnectionId

theorem lowerPriorityReason_injective : Function.Injective lowerPriorityReason := by
  intro left right same
  apply toString_nat_injective
  unfold lowerPriorityReason at same
  rw [← String.toList_inj, String.toList_append, String.toList_append] at same
  exact String.toList_inj.mp (List.append_cancel_left same)

/-- Whether a deprecated connection has had its time. -/
def deprecatedLongEnough (now changedAt : SystemTime) : Bool :=
  connectionGovernanceGracePeriod ≤ max (now - changedAt) 0

theorem deprecatedLongEnough_iff {now changedAt : Int} :
    deprecatedLongEnough now changedAt = true ↔
      changedAt + connectionGovernanceGracePeriod ≤ now := by
  have positive : 0 < connectionGovernanceGracePeriod := by decide
  unfold deprecatedLongEnough
  rw [decide_eq_true_iff]
  omega

/-- A connection with streams is never closed; without, it goes down one step at a time. -/
def nextGovernanceAction (now : SystemTime) (currentGovernance : Option ConnectionGovernanceInfo)
    (reason : String) (activeStreamCount : Nat) : Option GovernanceAction :=
  if 0 < activeStreamCount then some .markDeprecated
  else
    match currentGovernance with
    | none => some .markDeprecated
    | some current =>
        if current.reason ≠ some reason then some .markDeprecated
        else
          match current.state with
          | .unknown => some .markDeprecated
          | .recommended => some .markDeprecated
          | .deprecated =>
              match current.changedAt with
              | none => some .markDeprecated
              | some changedAt =>
                  if deprecatedLongEnough now changedAt then some .markClosing else none
          | .closing => some .closeNow

section NextAction

variable {now : SystemTime} {info : ConnectionGovernanceInfo} {reason : String}
  {activeStreamCount : Nat}

theorem nextGovernanceAction_none :
    nextGovernanceAction now none reason activeStreamCount = some .markDeprecated := by
  simp [nextGovernanceAction]

theorem nextGovernanceAction_eq_markClosing :
    nextGovernanceAction now (some info) reason activeStreamCount = some .markClosing ↔
      activeStreamCount = 0 ∧ info.reason = some reason ∧ info.state = .deprecated ∧
        ∃ changedAt, info.changedAt = some changedAt ∧
          changedAt + connectionGovernanceGracePeriod ≤ now := by
  unfold nextGovernanceAction
  by_cases idle : 0 < activeStreamCount
  · simp [idle, Nat.ne_of_gt idle]
  · by_cases sameReason : info.reason = some reason
    · cases state : info.state with
      | deprecated =>
          cases since : info.changedAt with
          | none => simp [idle, sameReason, state, since]
          | some changedAt =>
              simp only [idle, if_false, sameReason, state, since, ne_eq, not_true_eq_false,
                Option.some.injEq, exists_eq_left', true_and, ← deprecatedLongEnough_iff]
              cases deprecatedLongEnough now changedAt <;> simp
              omega
      | _ => simp [idle, sameReason, state]
    · simp [idle, sameReason]

theorem nextGovernanceAction_eq_closeNow :
    nextGovernanceAction now (some info) reason activeStreamCount = some .closeNow ↔
      activeStreamCount = 0 ∧ info.reason = some reason ∧ info.state = .closing := by
  unfold nextGovernanceAction
  by_cases idle : 0 < activeStreamCount
  · simp [idle, Nat.ne_of_gt idle]
  · by_cases sameReason : info.reason = some reason
    · cases state : info.state with
      | deprecated =>
          cases since : info.changedAt with
          | none => simp [idle, sameReason, state, since]
          | some changedAt =>
              cases long : deprecatedLongEnough now changedAt <;>
                simp [idle, sameReason, state, since, long]
      | closing =>
          simp only [idle, if_false, sameReason, state, ne_eq, not_true_eq_false, and_true,
            true_iff]
          omega
      | _ => simp [idle, sameReason, state]
    · simp [idle, sameReason]

end NextAction

/-- The plan for one connection that is not the recommended one. -/
def closurePlan (now : SystemTime) (recommendedConnectionId connectionId : ConnectionId)
    (currentGovernance : Option ConnectionGovernanceInfo) (activeStreamCount : Nat) :
    Option ConnectionClosurePlan :=
  let reason := lowerPriorityReason recommendedConnectionId
  (nextGovernanceAction now currentGovernance reason activeStreamCount).map fun action =>
    { connectionId, recommendedConnectionId, activeStreamCount, reason, action }

/-- Why a connection is recommended. -/
def recommendedReason (strategy : ConnectionSelectionStrategy) :
    List (ConnectionRecord PeerId) → String
  | [] => "selected-by-policy"
  | recommended :: alternatives =>
      let earlier := alternatives.any fun candidate =>
        establishedAtKey recommended.establishedAt < establishedAtKey candidate.establishedAt
      match strategy with
      | .preferDirect =>
          if !recommended.isRelay && alternatives.any fun candidate => candidate.isRelay then
            "selected-by-prefer-direct"
          else if earlier then "selected-by-earlier-established"
          else "selected-by-prefer-direct-ordering"
      | .preferRelay =>
          if recommended.isRelay && alternatives.any fun candidate => !candidate.isRelay then
            "selected-by-prefer-relay"
          else if earlier then "selected-by-earlier-established"
          else "selected-by-prefer-relay-ordering"

/-! ## The loop -/

/-- Where the loop stands.  `rest` are the peers the pass has not looked at yet, and a selection
is sorted, with the recommended connection first. -/
inductive GovernanceTask (PeerId : Type) where
  | waiting
  | nextPeer (rest : List PeerId)
  | recommending (peer : PeerId) (rest : List PeerId) (strategy : ConnectionSelectionStrategy)
      (selected : List (ConnectionRecord PeerId))
  | inspecting (peer : PeerId) (rest : List PeerId) (recommended : ConnectionId)
      (others left : List ConnectionId) (infos : ConnectionId → Option ConnectionGovernanceInfo)
  | planning (peer : PeerId) (rest : List PeerId) (recommended : ConnectionId)
      (left : List ConnectionId) (infos : ConnectionId → Option ConnectionGovernanceInfo)
      (plans : List ConnectionClosurePlan)
  | acting (peer : PeerId) (rest : List PeerId) (plans : List ConnectionClosurePlan)

/-- What the passes have done; `pass` counts the ticks of the interval. -/
inductive GovernanceEvent where
  | decided (pass : Nat) (plan : ConnectionClosurePlan) (time : SystemTime)
  | updated (pass : Nat) (connectionId : ConnectionId) (state : ConnectionGovernanceState)
      (reason : String) (time : SystemTime)
  | closeIssued (pass : Nat) (connectionId : ConnectionId)
  deriving DecidableEq

/-- The governor, the connections it sees, and what it has done. -/
structure Governor (PeerId : Type) where
  indexes : ConnectionIndexes PeerId
  now : SystemTime
  task : GovernanceTask PeerId
  pass : Nat
  history : List GovernanceEvent

namespace Governor

/-- `update_connection_governance` at the present time. -/
def updateGovernance (self : Governor PeerId) (connectionId : ConnectionId)
    (state : ConnectionGovernanceState) (reason : String) : Governor PeerId :=
  { self with
    indexes := self.indexes.updateConnectionGovernance self.now connectionId state (some reason)
    history := self.history ++ [.updated self.pass connectionId state reason self.now] }

/-- What the loop does with one plan of its closure plan. -/
def actOn (self : Governor PeerId) (plan : ConnectionClosurePlan) : Governor PeerId :=
  match plan.action with
  | .markDeprecated => self.updateGovernance plan.connectionId .deprecated plan.reason
  | .markClosing => self.updateGovernance plan.connectionId .closing plan.reason
  | .closeNow =>
      { self with history := self.history ++ [.closeIssued self.pass plan.connectionId] }

/-- The interval ticks, and the loop lists the connected peers in the order of their map. -/
def tick (self : Governor PeerId) [DecidableEq PeerId] (order : List PeerId) :
    Option (Governor PeerId) :=
  match self.task with
  | .waiting =>
      if order.Perm self.indexes.peers then
        some { self with task := .nextPeer order, pass := self.pass + 1 }
      else none
  | _ => none

/-- The next step of a pass, in which the loop finds `strategy` and `activeStreams`. -/
def govern (self : Governor PeerId) (strategy : ConnectionSelectionStrategy)
    (activeStreams : ConnectionId → Nat) : Option (Governor PeerId) :=
  match self.task with
  | .waiting => none
  | .nextPeer [] => some { self with task := .waiting }
  | .nextPeer (peer :: rest) =>
      let selected := sortByStrategy strategy (self.indexes.recordsForPeer peer)
      some { self with task := .recommending peer rest strategy selected }
  | .recommending _ rest _ [] => some { self with task := .nextPeer rest }
  | .recommending peer rest strategy (recommended :: others) =>
      let reason := recommendedReason strategy (recommended :: others)
      let ids := others.map fun connection => connection.connectionId
      let task := if others = [] then .nextPeer rest
        else .inspecting peer rest recommended.connectionId ids
          (recommended.connectionId :: ids) fun _ => none
      some { self.updateGovernance recommended.connectionId .recommended reason with task }
  | .inspecting peer rest recommended others [] infos =>
      some { self with task := .planning peer rest recommended others infos [] }
  | .inspecting peer rest recommended others (connectionId :: left) infos =>
      let info := (self.indexes.connectionGovernanceInfo connectionId).getD {}
      let infos := Function.update infos connectionId (some info)
      some { self with task := .inspecting peer rest recommended others left infos }
  | .planning peer rest _ [] _ plans => some { self with task := .acting peer rest plans }
  | .planning peer rest recommended (connectionId :: left) infos plans =>
      match closurePlan self.now recommended connectionId (infos connectionId)
          (activeStreams connectionId) with
      | some plan =>
          some
            { self with
              task := .planning peer rest recommended left infos (plans ++ [plan])
              history := self.history ++ [.decided self.pass plan self.now] }
      | none => some { self with task := .planning peer rest recommended left infos plans }
  | .acting _ rest [] => some { self with task := .nextPeer rest }
  | .acting peer rest (plan :: plans) =>
      some { self.actOn plan with task := .acting peer rest plans }

end Governor

/-- The plans the pass has made and not yet acted on. -/
def GovernanceTask.plans : GovernanceTask PeerId → List ConnectionClosurePlan
  | .planning _ _ _ _ _ plans => plans
  | .acting _ _ plans => plans
  | _ => []

/-- The connection whose close the next step of the pass issues. -/
def GovernanceTask.closesNext : GovernanceTask PeerId → Option ConnectionId
  | .acting _ _ (plan :: _) => if plan.action = .closeNow then some plan.connectionId else none
  | _ => none

/-- The mark that lets a pass close a connection on which it counts no streams. -/
def MarkedClosing (recommendedConnectionId : ConnectionId) :
    Option ConnectionGovernanceInfo → Prop
  | some info =>
      info.state = .closing ∧ info.reason = some (lowerPriorityReason recommendedConnectionId)
  | none => False

instance (recommendedConnectionId : ConnectionId) :
    DecidablePred (MarkedClosing recommendedConnectionId)
  | some _ => inferInstanceAs (Decidable (_ ∧ _))
  | none => isFalse id

/-- The connection whose streams the next step of the pass counts in order to close it. -/
def GovernanceTask.countsNext : GovernanceTask PeerId → Option ConnectionId
  | .planning _ _ recommended (connectionId :: _) infos _ =>
      if MarkedClosing recommended (infos connectionId) then some connectionId else none
  | _ => none

theorem GovernanceTask.exists_plan_of_closesNext {task : GovernanceTask PeerId}
    {connectionId : ConnectionId} (closes : task.closesNext = some connectionId) :
    ∃ plan ∈ task.plans, plan.action = .closeNow ∧ plan.connectionId = connectionId := by
  unfold closesNext at closes
  split at closes
  · next plan plans =>
      split at closes
      · next isClose => exact ⟨plan, List.mem_cons_self, isClose, Option.some.inj closes⟩
      · cases closes
  · cases closes

namespace Governor

/-- A step of a pass adds no plan but the one it makes. -/
theorem mem_plans_govern {self next : Governor PeerId} {strategy : ConnectionSelectionStrategy}
    {activeStreams : ConnectionId → Nat} (taken : self.govern strategy activeStreams = some next)
    {plan : ConnectionClosurePlan} (member : plan ∈ next.task.plans) :
    plan ∈ self.task.plans ∨
      ∃ peer rest recommended connectionId left infos plans,
        self.task = .planning peer rest recommended (connectionId :: left) infos plans ∧
          closurePlan self.now recommended connectionId (infos connectionId)
            (activeStreams connectionId) = some plan := by
  unfold govern at taken
  split at taken
  · cases taken
  · cases taken
    cases member
  · cases taken
    cases member
  · cases taken
    cases member
  · cases taken
    dsimp only at member
    split at member <;> cases member
  · cases taken
    cases member
  · cases taken
    cases member
  · next peer rest recommended infos plans stands =>
      cases taken
      rw [stands]
      exact Or.inl member
  · next peer rest recommended connectionId left infos plans stands =>
      split at taken
      · next made planned =>
          cases taken
          simp only [GovernanceTask.plans, List.mem_append, List.mem_singleton] at member
          rcases member with before | rfl
          · rw [stands]
            exact Or.inl before
          · exact Or.inr
              ⟨peer, rest, recommended, connectionId, left, infos, plans, stands, planned⟩
      · cases taken
        rw [stands]
        exact Or.inl member
  · cases taken
    cases member
  · next peer rest acted plans stands =>
      cases taken
      rw [stands]
      exact Or.inl (List.mem_cons_of_mem _ member)

theorem plans_tick [DecidableEq PeerId] {self next : Governor PeerId} {order : List PeerId}
    (taken : self.tick order = some next) : next.task.plans = [] := by
  unfold tick at taken
  split at taken
  · split at taken
    · cases taken
      rfl
    · cases taken
  · cases taken

end Governor

end Fungi.Swarm
