import Mathlib.Data.List.Induction
import Mathlib.Logic.Function.Basic

/-!
# Runs of a partial step function

A system is a step function that refuses an action it cannot take.  A run folds
the step function over a list of actions.  The two rules of this file are the
only inductions over runs in the development: one proves a fact about every run
together with the actions taken, the other proves an invariant of the runs whose
every step meets a condition.
-/

namespace Fungi.Lib

variable {State Action : Type*}

/-- The state after taking `actions` in order, or `none` if one is refused. -/
def run (step : State → Action → Option State) (start : State)
    (actions : List Action) : Option State :=
  actions.foldlM step start

@[simp] theorem run_nil (step : State → Action → Option State) (start : State) :
    run step start [] = some start := rfl

@[simp] theorem run_cons (step : State → Action → Option State) (start : State)
    (action : Action) (rest : List Action) :
    run step start (action :: rest) =
      (step start action).bind fun next => run step next rest := rfl

theorem run_append (step : State → Action → Option State) (start : State)
    (actions rest : List Action) :
    run step start (actions ++ rest) =
      (run step start actions).bind fun state => run step state rest :=
  List.foldlM_append

/-- The last action of a run is taken from the state the earlier ones reach. -/
theorem run_snoc_eq_some {step : State → Action → Option State} {start final : State}
    {actions : List Action} {action : Action} :
    run step start (actions ++ [action]) = some final ↔
      ∃ state, run step start actions = some state ∧ step state action = some final := by
  simp only [run, List.foldlM_append, List.foldlM_cons, List.foldlM_nil]
  cases (actions.foldlM step start : Option State) with
  | none => simp
  | some state => simp

/-- What holds of the empty run and is kept by one more step holds of every
run.  The fact may mention the actions taken so far. -/
theorem run_induction {step : State → Action → Option State} {start : State}
    {motive : List Action → State → Prop} (empty : motive [] start)
    (next : ∀ actions state action state',
      run step start actions = some state → motive actions state →
      step state action = some state' → motive (actions ++ [action]) state')
    {actions : List Action} {final : State}
    (reached : run step start actions = some final) : motive actions final := by
  induction actions using List.reverseRecOn generalizing final with
  | nil =>
      simp only [run_nil, Option.some.injEq] at reached
      exact reached ▸ empty
  | append_singleton actions action inductionHypothesis =>
      obtain ⟨state, before, taken⟩ := run_snoc_eq_some.mp reached
      exact next actions state action final before (inductionHypothesis before) taken

/-- The run starting in `start` comes through the state. -/
def Visits (step : State → Action → Option State) (start : State) (actions : List Action)
    (state : State) : Prop :=
  ∃ earlier, earlier <+: actions ∧ run step start earlier = some state

theorem Visits.of_reached {step : State → Action → Option State} {start state : State}
    {actions : List Action} (reached : run step start actions = some state) :
    Visits step start actions state :=
  ⟨actions, List.prefix_refl actions, reached⟩

/-- A longer run comes through the same states. -/
theorem Visits.snoc {step : State → Action → Option State} {start state : State}
    {actions : List Action} (visits : Visits step start actions state) (action : Action) :
    Visits step start (actions ++ [action]) state := by
  obtain ⟨earlier, isPrefix, reached⟩ := visits
  exact ⟨earlier, isPrefix.trans (List.prefix_append actions [action]), reached⟩

/-- Every step of the run starting in `start` meets `condition`. -/
def EveryStep (step : State → Action → Option State)
    (condition : State → Action → Prop) : State → List Action → Prop
  | _, [] => True
  | state, action :: rest =>
      condition state action ∧
        ∀ next, step state action = some next → EveryStep step condition next rest

instance decidableEveryStep {step : State → Action → Option State}
    {condition : State → Action → Prop} [∀ state action, Decidable (condition state action)] :
    (state : State) → (actions : List Action) → Decidable (EveryStep step condition state actions)
  | _, [] => isTrue trivial
  | state, action :: rest =>
      match taken : step state action with
      | none => decidable_of_iff (condition state action) (by simp [EveryStep, taken])
      | some next =>
          have := @decidableEveryStep step condition _ next rest
          decidable_of_iff (condition state action ∧ EveryStep step condition next rest)
            (by simp [EveryStep, taken])

theorem everyStep_true {step : State → Action → Option State} (start : State)
    (actions : List Action) : EveryStep step (fun _ _ => True) start actions := by
  induction actions generalizing start with
  | nil => trivial
  | cons action rest inductionHypothesis => exact ⟨trivial, fun next _ => inductionHypothesis next⟩

theorem everyStep_snoc {step : State → Action → Option State}
    {condition : State → Action → Prop} {start state : State} {actions : List Action}
    (reached : run step start actions = some state) (action : Action) :
    EveryStep step condition start (actions ++ [action]) ↔
      EveryStep step condition start actions ∧ condition state action := by
  induction actions generalizing start with
  | nil =>
      cases reached
      simp [EveryStep]
  | cons first rest inductionHypothesis =>
      rw [run_cons, Option.bind_eq_some_iff] at reached
      obtain ⟨next, taken, remaining⟩ := reached
      have onward := inductionHypothesis remaining
      simp only [List.cons_append, EveryStep, taken, Option.some.injEq, forall_eq', onward,
        and_assoc]

/-- An invariant kept by the steps that meet the condition holds at the end of
every run made of such steps. -/
theorem invariant_of_everyStep {step : State → Action → Option State}
    {condition : State → Action → Prop} {invariant : State → Prop}
    (kept : ∀ state action next, invariant state → condition state action →
      step state action = some next → invariant next)
    {start final : State} {actions : List Action} (initially : invariant start)
    (met : EveryStep step condition start actions)
    (reached : run step start actions = some final) : invariant final := by
  induction actions generalizing start with
  | nil =>
      simp only [run_nil, Option.some.injEq] at reached
      exact reached ▸ initially
  | cons action rest inductionHypothesis =>
      rw [run_cons, Option.bind_eq_some_iff] at reached
      obtain ⟨next, taken, remaining⟩ := reached
      exact inductionHypothesis (kept start action next initially met.1 taken)
        (met.2 next taken) remaining

/-- A condition that keeps an invariant at every step of a run also has what the two imply. -/
theorem EveryStep.of_invariant {step : State → Action → Option State}
    {condition property : State → Action → Prop} {invariant : State → Prop}
    (kept : ∀ state action next, invariant state → condition state action →
      step state action = some next → invariant next)
    (holds : ∀ state action, invariant state → condition state action → property state action)
    {start : State} {actions : List Action} (initially : invariant start)
    (met : EveryStep step condition start actions) : EveryStep step property start actions := by
  induction actions generalizing start with
  | nil => trivial
  | cons action rest inductionHypothesis =>
      refine ⟨holds start action initially met.1, ?_⟩
      intro next taken
      exact inductionHypothesis (kept start action next initially met.1 taken) (met.2 next taken)

/-- Every state of the run starting in `state` has the property. -/
def EveryState (step : State → Action → Option State) (property : State → Prop) :
    State → List Action → Prop
  | state, [] => property state
  | state, action :: rest =>
      property state ∧ ∀ next, step state action = some next → EveryState step property next rest

theorem EveryState.initially {step : State → Action → Option State} {property : State → Prop}
    {start : State} {actions : List Action} (every : EveryState step property start actions) :
    property start := by
  cases actions with
  | nil => exact every
  | cons action rest => exact every.1

theorem EveryState.finally {step : State → Action → Option State} {property : State → Prop}
    {start final : State} {actions : List Action} (every : EveryState step property start actions)
    (reached : run step start actions = some final) : property final := by
  induction actions generalizing start with
  | nil =>
      simp only [run_nil, Option.some.injEq] at reached
      exact reached ▸ every
  | cons action rest inductionHypothesis =>
      rw [run_cons, Option.bind_eq_some_iff] at reached
      obtain ⟨next, taken, remaining⟩ := reached
      exact inductionHypothesis (every.2 next taken) remaining

/-- A property that follows from an invariant holds in every state of a run whose steps meet
the condition that keeps the invariant. -/
theorem EveryStep.everyState {step : State → Action → Option State}
    {condition : State → Action → Prop} {invariant property : State → Prop}
    (kept : ∀ state action next, invariant state → condition state action →
      step state action = some next → invariant next)
    (holds : ∀ state, invariant state → property state)
    {start : State} {actions : List Action} (initially : invariant start)
    (met : EveryStep step condition start actions) : EveryState step property start actions := by
  induction actions generalizing start with
  | nil => exact holds start initially
  | cons action rest inductionHypothesis =>
      refine ⟨holds start initially, ?_⟩
      intro next taken
      exact inductionHypothesis (kept start action next initially met.1 taken) (met.2 next taken)

/-- Where a step keeps the property exactly when it meets the condition, a run keeps it in
every state exactly when all its steps do. -/
theorem everyState_iff_everyStep {step : State → Action → Option State}
    {condition : State → Action → Prop} {invariant property : State → Prop}
    (kept : ∀ state action next, invariant state → step state action = some next →
      invariant next)
    (exactly : ∀ state action next, invariant state → property state →
      step state action = some next → (property next ↔ condition state action))
    {start final : State} {actions : List Action} (initially : invariant start)
    (holds : property start) (reached : run step start actions = some final) :
    EveryState step property start actions ↔ EveryStep step condition start actions := by
  induction actions generalizing start with
  | nil => exact iff_of_true holds trivial
  | cons action rest inductionHypothesis =>
      rw [run_cons, Option.bind_eq_some_iff] at reached
      obtain ⟨next, taken, remaining⟩ := reached
      have onward := inductionHypothesis (kept start action next initially taken)
      have met := exactly start action next initially holds taken
      simp only [EveryState, EveryStep, taken, Option.some.injEq, forall_eq', holds, true_and]
      constructor
      · intro every
        exact ⟨met.mp every.initially, (onward every.initially remaining).mp every⟩
      · intro every
        exact (onward (met.mpr every.1) remaining).mpr every.2

/-- After one entry has been updated, an entry is the new one or as before. -/
theorem of_update {Key Value : Type*} [DecidableEq Key] {entries : Key → Value}
    {key found : Key} {value result : Value}
    (updated : Function.update entries key value found = result) :
    found = key ∧ value = result ∨ found ≠ key ∧ entries found = result := by
  rw [Function.update_apply] at updated
  split at updated
  · next same => exact Or.inl ⟨same, updated⟩
  · next other => exact Or.inr ⟨other, updated⟩

end Fungi.Lib
