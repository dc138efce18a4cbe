import Fungi.Lib.Run
import Mathlib.Logic.Function.Basic

/-!
# The tasks of a tunnel rule

`forward_port_to_peer` and `listen_p2p_to_port`, the task of a forwarding and of a listening
rule: a loop that spawns one task for each connection and is to abort them when it is
cancelled.  The removal of the rule cancels the token of the loop and aborts its task.  An
aborted task is not polled again: it is dropped at the await point where it is suspended,
or at the next one where it would be.
-/

namespace Fungi.Daemon

open Fungi.Lib

/-- The two kinds of rules with a task. -/
inductive TunnelRuleKind where
  | forwarding
  | listening
  deriving DecidableEq

/-- The task of one connection. -/
inductive ConnectionTask where
  | running
  | aborted
  | finished
  deriving DecidableEq

/-- Where the rule's task stands, with the handles it holds: the connection tasks of
`active_tasks`, or those its clean-up has not come to yet. -/
inductive LoopPhase where
  | binding
  | selecting (activeTasks : List Nat)
  | cleaning (tasks : List Nat)
  | awaiting (task : Nat) (rest : List Nat)
  | returned
  | dropped

/-- How far a removal of the rule has come. -/
inductive RemovalPhase where
  | pending
  | stoppedAccepting
  | cancelled
  | returned
  deriving DecidableEq

/-- `polled` says whether the rule's task is running, and not suspended at an await point.
Connection tasks are numbered as they are spawned. -/
structure TunnelTask where
  kind : TunnelRuleKind
  phase : LoopPhase
  polled : Bool
  removal : RemovalPhase
  spawned : Nat
  connections : Nat → ConnectionTask

/-- A step of a rule's task or of one of its connections, or of a removal. -/
inductive TunnelStep where
  | poll
  | suspend
  | drop
  | bound
  | bindFails
  | accept
  | acceptFails
  | streamsEnd
  | observeCancelled
  | abortNext
  | joined
  | finish
  | connectionEnds (task : Nat)
  | stopAccepting
  | cancel
  | abort

namespace TunnelTask

/-- The task as `tokio::spawn` leaves it. -/
def start (kind : TunnelRuleKind) : TunnelTask :=
  { kind
    phase := match kind with
      | .forwarding => .binding
      | .listening => .selecting []
    polled := false
    removal := .pending
    spawned := 0
    connections := fun _ => .finished }

/-- A loop whose token has been cancelled. -/
def isCancelled (self : TunnelTask) : Bool :=
  self.removal = .cancelled ∨ self.removal = .returned

/-- The task goes over to another phase. -/
def moved (self : TunnelTask) (phase : LoopPhase) : TunnelTask := { self with phase }

/-- A connection is accepted: its task is spawned, and the finished ones are let go. -/
def accepted (self : TunnelTask) (activeTasks : List Nat) : TunnelTask :=
  let connections := Function.update self.connections self.spawned .running
  { self with
    connections
    spawned := self.spawned + 1
    phase := .selecting
      ((activeTasks ++ [self.spawned]).filter fun task => connections task ≠ .finished) }

/-- What a step does, where the task is in the phase for it. -/
def step (self : TunnelTask) : TunnelStep → Option TunnelTask
  | .poll =>
      if self.polled = false ∧ self.removal ≠ .returned then
        match self.phase with
        | .returned | .dropped => none
        | _ => some { self with polled := true }
      else none
  | .suspend =>
      if self.polled then
        match self.phase with
        | .binding | .selecting _ | .awaiting _ _ => some { self with polled := false }
        | _ => none
      else none
  | .drop =>
      -- what `abort` has asked for takes effect, and the future with its handles is dropped
      if self.polled = false ∧ self.removal = .returned then
        match self.phase with
        | .returned | .dropped => none
        | _ => some (self.moved .dropped)
      else none
  | .bound =>
      match self.phase with
      | .binding => if self.polled then some (self.moved (.selecting [])) else none
      | _ => none
  | .bindFails =>
      match self.phase with
      | .binding => if self.polled then some { self.moved .returned with polled := false } else none
      | _ => none
  | .accept =>
      match self.phase with
      | .selecting activeTasks => if self.polled then some (self.accepted activeTasks) else none
      | _ => none
  | .acceptFails =>
      match self.phase with
      | .selecting _ => if self.polled ∧ self.kind = .forwarding then some self else none
      | _ => none
  | .streamsEnd =>
      match self.phase with
      | .selecting activeTasks =>
          if self.polled ∧ self.kind = .listening then some (self.moved (.cleaning activeTasks))
          else none
      | _ => none
  | .observeCancelled =>
      match self.phase with
      | .selecting activeTasks =>
          if self.polled ∧ self.isCancelled then some (self.moved (.cleaning activeTasks))
          else none
      | _ => none
  | .abortNext =>
      match self.phase with
      | .cleaning (task :: rest) =>
          if self.polled then
            let connection := match self.connections task with
              | .finished => .finished
              | _ => .aborted
            some
              { self.moved (.awaiting task rest) with
                connections := Function.update self.connections task connection }
          else none
      | _ => none
  | .joined =>
      match self.phase with
      | .awaiting task rest =>
          if self.polled ∧ self.connections task = .finished then some (self.moved (.cleaning rest))
          else none
      | _ => none
  | .finish =>
      match self.phase with
      | .cleaning [] =>
          if self.polled then some { self.moved .returned with polled := false } else none
      | _ => none
  | .connectionEnds task =>
      if task < self.spawned then
        some { self with connections := Function.update self.connections task .finished }
      else none
  | .stopAccepting =>
      if self.kind = .listening ∧ self.removal = .pending then
        some { self with removal := .stoppedAccepting }
      else none
  | .cancel =>
      match self.kind, self.removal with
      | .forwarding, .pending | .listening, .stoppedAccepting =>
          some { self with removal := .cancelled }
      | _, _ => none
  | .abort =>
      if self.removal = .cancelled then some { self with removal := .returned } else none

end TunnelTask

/-- The connection tasks the rule's task has neither joined nor begun to abort. -/
def LoopPhase.held : LoopPhase → List Nat
  | .selecting activeTasks => activeTasks
  | .cleaning tasks => tasks
  | .awaiting _ rest => rest
  | _ => []

/-- Once the removal has returned and the rule's task has ended, every connection task has
finished or has been aborted. -/
def NoTunnelOutlivesRule (self : TunnelTask) : Prop :=
  self.removal = .returned → self.phase = .returned ∨ self.phase = .dropped →
    ∀ task, task < self.spawned → self.connections task ≠ .running

/-- The task is dropped with no handle of a running connection task. -/
def DroppedWithoutTunnels (self : TunnelTask) : TunnelStep → Prop
  | .drop => ∀ task ∈ self.phase.held, self.connections task ≠ .running
  | _ => True

/-- The rule's task holds every connection task that runs and is not being aborted. -/
structure HoldsTunnels (tunnel : TunnelTask) : Prop where
  spawned : ∀ task ∈ tunnel.phase.held, task < tunnel.spawned
  running : tunnel.phase ≠ .dropped → ∀ task, task < tunnel.spawned →
    tunnel.connections task = .running → task ∈ tunnel.phase.held
  removed : tunnel.phase = .dropped → tunnel.removal = .returned

namespace HoldsTunnels

variable {self next : TunnelTask}

theorem start (kind : TunnelRuleKind) : HoldsTunnels (TunnelTask.start kind) := by
  constructor
  · intro task member
    cases kind <;> cases member
  · intro _ task impossible
    cases impossible
  · intro impossible
    cases kind <;> cases impossible

/-- A phase with the same handles. -/
private theorem moved (holds : HoldsTunnels self) {phase : LoopPhase}
    (held : phase.held = self.phase.held) (before : self.phase ≠ .dropped)
    (after : phase ≠ .dropped) : HoldsTunnels (self.moved phase) := by
  refine ⟨?_, ?_, fun dropped => absurd dropped after⟩
  · intro task member
    exact holds.spawned task (held ▸ member)
  · intro _ task below running
    exact held.symm ▸ holds.running before task below running

private theorem accepted (holds : HoldsTunnels self) {activeTasks : List Nat}
    (phase : self.phase = .selecting activeTasks) : HoldsTunnels (self.accepted activeTasks) := by
  have spawned := holds.spawned
  have running := holds.running
  rw [phase] at spawned running
  refine ⟨?_, ?_, nofun⟩
  · intro task member
    have either := (List.mem_filter.mp member).1
    rw [List.mem_append, List.mem_singleton] at either
    rcases either with old | new
    · exact Nat.lt_succ_of_lt (spawned task old)
    · rw [new]
      exact Nat.lt_succ_self _
  · intro _ task below run
    have alive : Function.update self.connections self.spawned .running task ≠ .finished := by
      rw [show Function.update self.connections self.spawned .running task = .running from run]
      decide
    apply List.mem_filter.mpr
    refine ⟨?_, decide_eq_true alive⟩
    rw [List.mem_append, List.mem_singleton]
    rcases of_update run with new | old
    · exact Or.inr new.1
    · have earlier : task < self.spawned :=
        Nat.lt_of_le_of_ne (Nat.le_of_lt_succ below) old.1
      exact Or.inl (running nofun task earlier old.2)

/-- A connection task finishes, or the one a clean-up has come to is aborted. -/
private theorem settles (holds : HoldsTunnels self) {settled : Nat} {connection : ConnectionTask}
    {phase : LoopPhase} (stopped : connection ≠ .running) (dropped : phase = .dropped ↔
      self.phase = .dropped)
    (fewer : ∀ task ∈ phase.held, task ∈ self.phase.held)
    (most : ∀ task ∈ self.phase.held, task ≠ settled → task ∈ phase.held) :
    HoldsTunnels { self.moved phase with
      connections := Function.update self.connections settled connection } := by
  refine ⟨?_, ?_, ?_⟩
  · intro task member
    exact holds.spawned task (fewer task member)
  · intro alive task below run
    rcases of_update run with same | other
    · exact absurd same.2 stopped
    · exact most task (holds.running (alive ∘ dropped.mpr) task below other.2) other.1
  · intro now
    exact holds.removed (dropped.mp now)

theorem step (holds : HoldsTunnels self) {action : TunnelStep}
    (taken : self.step action = some next) : HoldsTunnels next := by
  cases action with
  | poll =>
      dsimp only [TunnelTask.step] at taken
      split at taken
      · split at taken
        · cases taken
        · cases taken
        · cases taken
          exact ⟨holds.spawned, holds.running, holds.removed⟩
      · cases taken
  | suspend =>
      dsimp only [TunnelTask.step] at taken
      split at taken
      · split at taken
        · cases taken
          exact ⟨holds.spawned, holds.running, holds.removed⟩
        · cases taken
          exact ⟨holds.spawned, holds.running, holds.removed⟩
        · cases taken
          exact ⟨holds.spawned, holds.running, holds.removed⟩
        · cases taken
      · cases taken
  | drop =>
      dsimp only [TunnelTask.step] at taken
      split at taken
      · next removed =>
          split at taken
          · cases taken
          · cases taken
          · cases taken
            refine ⟨?_, fun alive => absurd rfl alive, fun _ => removed.2⟩
            intro task member
            cases member
      · cases taken
  | bound =>
      dsimp only [TunnelTask.step] at taken
      split at taken
      · next binding =>
          split at taken
          · cases taken
            apply holds.moved
            · rw [binding]
              rfl
            · rw [binding]
              nofun
            · nofun
          · cases taken
      · cases taken
  | bindFails =>
      dsimp only [TunnelTask.step] at taken
      split at taken
      · next binding =>
          split at taken
          · cases taken
            have ended : HoldsTunnels (self.moved .returned) := by
              apply holds.moved
              · rw [binding]
                rfl
              · rw [binding]
                nofun
              · nofun
            exact ⟨ended.spawned, ended.running, ended.removed⟩
          · cases taken
      · cases taken
  | accept =>
      dsimp only [TunnelTask.step] at taken
      split at taken
      · next selecting =>
          split at taken
          · cases taken
            exact holds.accepted selecting
          · cases taken
      · cases taken
  | acceptFails =>
      dsimp only [TunnelTask.step] at taken
      split at taken
      · split at taken
        · cases taken
          exact holds
        · cases taken
      · cases taken
  | streamsEnd =>
      dsimp only [TunnelTask.step] at taken
      split at taken
      · next selecting =>
          split at taken
          · cases taken
            apply holds.moved
            · rw [selecting]
              rfl
            · rw [selecting]
              nofun
            · nofun
          · cases taken
      · cases taken
  | observeCancelled =>
      dsimp only [TunnelTask.step] at taken
      split at taken
      · next selecting =>
          split at taken
          · cases taken
            apply holds.moved
            · rw [selecting]
              rfl
            · rw [selecting]
              nofun
            · nofun
          · cases taken
      · cases taken
  | abortNext =>
      dsimp only [TunnelTask.step] at taken
      split at taken
      · next task rest cleaning =>
          split at taken
          · cases taken
            apply holds.settles
            · split <;> decide
            · rw [cleaning]
              simp
            · rw [cleaning]
              intro other member
              exact List.mem_cons_of_mem _ member
            · rw [cleaning]
              intro other member different
              exact List.mem_of_ne_of_mem different member
          · cases taken
      · cases taken
  | joined =>
      dsimp only [TunnelTask.step] at taken
      split at taken
      · next awaiting =>
          split at taken
          · cases taken
            apply holds.moved
            · rw [awaiting]
              rfl
            · rw [awaiting]
              nofun
            · nofun
          · cases taken
      · cases taken
  | finish =>
      dsimp only [TunnelTask.step] at taken
      split at taken
      · next cleaning =>
          split at taken
          · cases taken
            have ended : HoldsTunnels (self.moved .returned) := by
              apply holds.moved
              · rw [cleaning]
                rfl
              · rw [cleaning]
                nofun
              · nofun
            exact ⟨ended.spawned, ended.running, ended.removed⟩
          · cases taken
      · cases taken
  | connectionEnds task =>
      dsimp only [TunnelTask.step] at taken
      split at taken
      · cases taken
        exact holds.settles (by decide) Iff.rfl (fun _ member => member) fun _ member _ => member
      · cases taken
  | stopAccepting =>
      dsimp only [TunnelTask.step] at taken
      split at taken
      · next pending =>
          cases taken
          refine ⟨holds.spawned, holds.running, ?_⟩
          intro dropped
          have removed := holds.removed dropped
          rw [pending.2] at removed
          cases removed
      · cases taken
  | cancel =>
      dsimp only [TunnelTask.step] at taken
      split at taken
      · next pending =>
          cases taken
          refine ⟨holds.spawned, holds.running, ?_⟩
          intro dropped
          have removed := holds.removed dropped
          rw [pending] at removed
          cases removed
      · next stopped =>
          cases taken
          refine ⟨holds.spawned, holds.running, ?_⟩
          intro dropped
          have removed := holds.removed dropped
          rw [stopped] at removed
          cases removed
      · cases taken
  | abort =>
      dsimp only [TunnelTask.step] at taken
      split at taken
      · cases taken
        exact ⟨holds.spawned, holds.running, fun _ => rfl⟩
      · cases taken

/-- A task that has been dropped spawns nothing more. -/
private theorem of_dropped {action : TunnelStep} (taken : self.step action = some next)
    (dropped : next.phase = .dropped) (other : action ≠ .drop) :
    self.phase = .dropped ∧ next.spawned = self.spawned ∧
      ∀ task, next.connections task = .running → self.connections task = .running := by
  cases action with
  | drop => exact absurd rfl other
  | connectionEnds task =>
      dsimp only [TunnelTask.step] at taken
      split at taken
      · cases taken
        refine ⟨dropped, rfl, ?_⟩
        intro found running
        rcases of_update running with same | different
        · cases same.2
        · exact different.2
      · cases taken
  | _ => grind [TunnelTask.step, TunnelTask.moved, TunnelTask.accepted]

/-- Only the drop of a task can leave a tunnel behind. -/
theorem noTunnelOutlivesRule_step (holds : HoldsTunnels self) {action : TunnelStep}
    (before : NoTunnelOutlivesRule self) (taken : self.step action = some next) :
    NoTunnelOutlivesRule next ↔ DroppedWithoutTunnels self action := by
  by_cases dropping : action = .drop
  · subst dropping
    dsimp only [TunnelTask.step] at taken
    split at taken
    · next removed =>
        split at taken
        · cases taken
        · cases taken
        · next alive =>
            cases taken
            constructor
            · intro outlives task member
              exact outlives removed.2 (Or.inr rfl) task (holds.spawned task member)
            · intro none _ _ task below running
              exact none task (holds.running alive task below running) running
    · cases taken
  · have free : DroppedWithoutTunnels self action := by
      cases action with
      | drop => exact absurd rfl dropping
      | _ => trivial
    refine iff_of_true ?_ free
    intro removed ended task below running
    rcases ended with returned | dropped
    · have held := (holds.step taken).running (by rw [returned]; nofun) task below running
      rw [returned] at held
      cases held
    · obtain ⟨already, spawned, ran⟩ := of_dropped taken dropped dropping
      rw [spawned] at below
      exact before (holds.removed already) (Or.inr already) task below (ran task running)

end HoldsTunnels

/-- No tunnel outlives its rule in any state of a run exactly when the rule's task is never
dropped while it holds the handle of a connection task that runs. -/
theorem noTunnelOutlivesRule_iff (kind : TunnelRuleKind) (schedule : List TunnelStep)
    (final : TunnelTask)
    (reached : run TunnelTask.step (TunnelTask.start kind) schedule = some final) :
    EveryState TunnelTask.step NoTunnelOutlivesRule (TunnelTask.start kind) schedule ↔
      EveryStep TunnelTask.step DroppedWithoutTunnels (TunnelTask.start kind) schedule := by
  refine @everyState_iff_everyStep _ _ _ _ HoldsTunnels _ ?_ ?_ _ _ _ (HoldsTunnels.start kind)
    ?_ reached
  · intro state action next holds taken
    exact holds.step taken
  · intro state action next holds before taken
    exact holds.noTunnelOutlivesRule_step before taken
  · intro impossible
    cases impossible

theorem noTunnelOutlivesRule_iff_cleaned :
    ∃ final, run TunnelTask.step (TunnelTask.start .listening)
        [.poll, .accept, .stopAccepting, .cancel, .observeCancelled, .abortNext, .abort, .suspend,
          .drop] = some final ∧ final.connections 0 = .aborted ∧
      (EveryState TunnelTask.step NoTunnelOutlivesRule (TunnelTask.start .listening)
          [.poll, .accept, .stopAccepting, .cancel, .observeCancelled, .abortNext, .abort,
            .suspend, .drop] ↔
        EveryStep TunnelTask.step DroppedWithoutTunnels (TunnelTask.start .listening)
          [.poll, .accept, .stopAccepting, .cancel, .observeCancelled, .abortNext, .abort,
            .suspend, .drop]) :=
  ⟨_, rfl, rfl, noTunnelOutlivesRule_iff .listening _ _ rfl⟩

/-- A forwarding rule is removed while its loop waits for the next connection: the abort
drops the task before it has seen that its token is cancelled. -/
theorem tunnel_outlives_rule :
    ∃ final, run TunnelTask.step (TunnelTask.start .forwarding)
        [.poll, .bound, .accept, .suspend, .cancel, .abort, .drop] = some final ∧
      final.removal = .returned ∧ final.phase = .dropped ∧ final.connections 0 = .running ∧
      ¬ NoTunnelOutlivesRule final := by
  refine ⟨_, rfl, rfl, rfl, rfl, ?_⟩
  intro outlives
  exact outlives rfl (Or.inr rfl) 0 (by decide) rfl

end Fungi.Daemon
