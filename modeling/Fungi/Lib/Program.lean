import Mathlib.Logic.Basic

/-!
# Programs that may fail

A program threads a state and returns a value or a failure; the state it has
reached is kept when it fails.  Programs are verified by one rule for each way of
building them.
-/

namespace Fungi.Lib

/-- A program changes a state and yields a value or a failure. -/
def Program (State Failure Value : Type) : Type := State → Except Failure Value × State

namespace Program

variable {State Failure Value Result : Type}

instance : Monad (Program State Failure) where
  pure value := fun state => (.ok value, state)
  bind program next := fun state =>
    match program state with
    | (.ok value, state) => next value state
    | (.error failure, state) => (.error failure, state)

/-- Fail without changing the state. -/
def fail (failure : Failure) : Program State Failure Value :=
  fun state => (.error failure, state)

/-- Read a part of the state. -/
def gets (read : State → Value) : Program State Failure Value :=
  fun state => (.ok (read state), state)

/-- Change the state. -/
def modify (change : State → State) : Program State Failure Unit :=
  fun state => (.ok (), change state)

/-- A computation that does not use the state. -/
def ofExcept : Except Failure Value → Program State Failure Value
  | .ok value => pure value
  | .error failure => fail failure

/-- Run a program and return its outcome, without failing. -/
def attempt (program : Program State Failure Value) :
    Program State Failure (Except Failure Value) :=
  fun state => (.ok (program state).1, (program state).2)

/-- Run a program whether it fails or not. -/
def ignoring (program : Program State Failure Unit) : Program State Failure Unit :=
  fun state => (.ok (), (program state).2)

/-- Run a program only under a condition. -/
def when (condition : Prop) [Decidable condition] (program : Program State Failure Unit) :
    Program State Failure Unit :=
  if condition then program else pure ()

/-- Run a program for each item in turn. -/
def forEach {Item : Type} (body : Item → Program State Failure Unit) :
    List Item → Program State Failure Unit
  | [] => pure ()
  | item :: rest => do
      body item
      forEach body rest

/-! ## Running -/

section Running

variable (state : State)

@[simp] theorem pure_apply (value : Value) :
    (pure value : Program State Failure Value) state = (.ok value, state) := rfl

@[simp] theorem fail_apply (failure : Failure) :
    (fail failure : Program State Failure Value) state = (.error failure, state) := rfl

@[simp] theorem gets_apply (read : State → Value) :
    (gets read : Program State Failure Value) state = (.ok (read state), state) := rfl

@[simp] theorem modify_apply (change : State → State) :
    (modify change : Program State Failure Unit) state = (.ok (), change state) := rfl

@[simp] theorem attempt_apply (program : Program State Failure Value) :
    attempt program state = (.ok (program state).1, (program state).2) := rfl

theorem ofExcept_eq_ok {outcome : Except Failure Value} {value : Value} {final : State} :
    (ofExcept outcome : Program State Failure Value) state = (.ok value, final) ↔
      outcome = .ok value ∧ state = final := by
  cases outcome with
  | error failure => simp [ofExcept]
  | ok found => simp [ofExcept]

theorem bind_apply (program : Program State Failure Value)
    (next : Value → Program State Failure Result) :
    (program >>= next) state =
      match program state with
      | (.ok value, state) => next value state
      | (.error failure, state) => (.error failure, state) := rfl

theorem bind_of_ok {program : Program State Failure Value} {middle : State} {value : Value}
    {state : State} (first : program state = (.ok value, middle))
    (next : Value → Program State Failure Result) :
    (program >>= next) state = next value middle := by
  rw [bind_apply, first]

theorem bind_eq_ok {program : Program State Failure Value}
    {next : Value → Program State Failure Result} {final : State} {result : Result} :
    (program >>= next) state = (.ok result, final) ↔
      ∃ value middle, program state = (.ok value, middle) ∧
        next value middle = (.ok result, final) := by
  rw [bind_apply]
  cases program state with
  | mk outcome middle =>
      cases outcome with
      | error failure => simp
      | ok value =>
          constructor
          · intro rest
            exact ⟨value, middle, rfl, rest⟩
          · intro both
            obtain ⟨_, _, first, rest⟩ := both
            cases first
            exact rest

theorem bind_eq_error {program : Program State Failure Value}
    {next : Value → Program State Failure Result} {final : State} {failure : Failure} :
    (program >>= next) state = (.error failure, final) ↔
      program state = (.error failure, final) ∨
        ∃ value middle, program state = (.ok value, middle) ∧
          next value middle = (.error failure, final) := by
  rw [bind_apply]
  cases program state with
  | mk outcome middle =>
      cases outcome with
      | error failure' => simp
      | ok value =>
          constructor
          · intro rest
            exact Or.inr ⟨value, middle, rfl, rest⟩
          · intro either
            rcases either with impossible | both
            · cases impossible
            · obtain ⟨_, _, first, rest⟩ := both
              cases first
              exact rest

/-- A sequence ends in its first program, or in its second. -/
theorem bind_cases {program : Program State Failure Value}
    {next : Value → Program State Failure Result} {final : State}
    {outcome : Except Failure Result} (ran : (program >>= next) state = (outcome, final)) :
    (∃ failure, outcome = .error failure ∧ program state = (.error failure, final)) ∨
      ∃ value middle, program state = (.ok value, middle) ∧
        next value middle = (outcome, final) := by
  cases outcome with
  | error failure =>
      rcases (bind_eq_error state).mp ran with first | second
      · exact Or.inl ⟨failure, rfl, first⟩
      · exact Or.inr second
  | ok result => exact Or.inr ((bind_eq_ok state).mp ran)

end Running

theorem bind_assoc {Last : Type} (program : Program State Failure Value)
    (next : Value → Program State Failure Result) (last : Result → Program State Failure Last) :
    (program >>= next) >>= last = program >>= fun value => next value >>= last := by
  funext state
  simp only [bind_apply]
  cases program state with
  | mk outcome middle =>
      cases outcome with
      | error failure => rfl
      | ok value => rfl

theorem forEach_append {Item : Type} (body : Item → Program State Failure Unit)
    (items rest : List Item) :
    forEach body (items ++ rest) = forEach body items >>= fun _ => forEach body rest := by
  induction items with
  | nil => rfl
  | cons item items inductionHypothesis =>
      rw [List.cons_append, forEach, forEach, inductionHypothesis, bind_assoc]

/-- If the program that ran has succeeded, its value and final state have the property. -/
def OnSuccess (ran : Except Failure Value × State) (property : Value → State → Prop) : Prop :=
  ∀ value final, ran = (.ok value, final) → property value final

instance {ran : Except Failure Value × State} {property : Value → State → Prop}
    [∀ value final, Decidable (property value final)] : Decidable (OnSuccess ran property) :=
  match ran with
  | (.ok value, final) => decidable_of_iff (property value final) <| by
      constructor
      · intro holds _ _ same
        cases same
        exact holds
      · intro succeeded
        exact succeeded value final rfl
  | (.error _, _) => isTrue nofun

/-! ## Frames -/

/-- What a program may change: a relation between the states before and after it that
composes. -/
structure Frame (State : Type) where
  Allows : State → State → Prop
  refl : ∀ state, Allows state state
  trans : ∀ {first second third}, Allows first second → Allows second third →
    Allows first third

/-- The program stays within the frame, whether it succeeds or fails. -/
def Within (frame : Frame State) (program : Program State Failure Value) : Prop :=
  ∀ state, frame.Allows state (program state).2

section Frames

variable {frame : Frame State} {program : Program State Failure Value}

theorem within_pure (value : Value) :
    Within frame (pure value : Program State Failure Value) := frame.refl

theorem within_fail (failure : Failure) :
    Within frame (fail failure : Program State Failure Value) := frame.refl

theorem within_gets (read : State → Value) :
    Within frame (gets read : Program State Failure Value) := frame.refl

theorem within_modify {change : State → State}
    (allowed : ∀ state, frame.Allows state (change state)) :
    Within frame (modify change : Program State Failure Unit) := allowed

theorem within_ofExcept (outcome : Except Failure Value) :
    Within frame (ofExcept outcome : Program State Failure Value) := by
  cases outcome with
  | ok value => exact within_pure value
  | error failure => exact within_fail failure

theorem Within.bind {next : Value → Program State Failure Result}
    (first : Within frame program) (rest : ∀ value, Within frame (next value)) :
    Within frame (program >>= next) := by
  intro state
  have afterFirst := first state
  rw [bind_apply]
  split
  · next value middle outcome =>
      rw [outcome] at afterFirst
      exact frame.trans afterFirst (rest value middle)
  · next failure final outcome =>
      rw [outcome] at afterFirst
      exact afterFirst

/-- As `Within.bind`, with a fact about the values the first program returns. -/
theorem Within.bind_of_value {holds : Value → Prop} {next : Value → Program State Failure Result}
    (first : Within frame program)
    (values : ∀ state value final, program state = (.ok value, final) → holds value)
    (rest : ∀ value, holds value → Within frame (next value)) :
    Within frame (program >>= next) := by
  intro state
  have afterFirst := first state
  rw [bind_apply]
  split
  · next value middle outcome =>
      rw [outcome] at afterFirst
      exact frame.trans afterFirst (rest value (values _ _ _ outcome) middle)
  · next failure final outcome =>
      rw [outcome] at afterFirst
      exact afterFirst

theorem Within.mono {wider : Frame State} (within : Within frame program)
    (allowed : ∀ before after, frame.Allows before after → wider.Allows before after) :
    Within wider program :=
  fun state => allowed _ _ (within state)

theorem Within.attempt (within : Within frame program) :
    Within frame (Program.attempt program) := within

theorem Within.ignoring {program : Program State Failure Unit} (within : Within frame program) :
    Within frame (Program.ignoring program) := within

theorem Within.ite {condition : Prop} [Decidable condition]
    {first second : Program State Failure Value} (thenWithin : Within frame first)
    (elseWithin : Within frame second) :
    Within frame (if condition then first else second) := by
  split
  · exact thenWithin
  · exact elseWithin

theorem Within.when {condition : Prop} [Decidable condition]
    {program : Program State Failure Unit} (within : condition → Within frame program) :
    Within frame (Program.when condition program) := by
  unfold Program.when
  split
  · next holds => exact within holds
  · exact within_pure ()

theorem Within.forEach {Item : Type} {body : Item → Program State Failure Unit}
    {items : List Item} (within : ∀ item ∈ items, Within frame (body item)) :
    Within frame (Program.forEach body items) := by
  induction items with
  | nil => exact within_pure ()
  | cons item rest inductionHypothesis =>
      apply (within item List.mem_cons_self).bind
      intro _
      apply inductionHypothesis
      intro other membership
      exact within other (List.mem_cons_of_mem _ membership)

end Frames

/-- The frame in which nothing changes. -/
def Frame.same : Frame State where
  Allows before after := after = before
  refl _ := rfl
  trans before after := after.trans before

theorem Within.eq_of_same {program : Program State Failure Value} {state final : State}
    {outcome : Except Failure Value} (within : Within .same program)
    (ran : program state = (outcome, final)) : final = state := by
  have unchanged := within state
  rw [ran] at unchanged
  exact unchanged

/-- The frame of an invariant. -/
def Frame.keeping (invariant : State → Prop) : Frame State where
  Allows before after := invariant before → invariant after
  refl _ holds := holds
  trans first second holds := second (first holds)

/-- The program keeps the invariant, whether it succeeds or fails. -/
abbrev Keeps (invariant : State → Prop) (program : Program State Failure Value) : Prop :=
  Within (Frame.keeping invariant) program

/-! ## Questions -/

/-- The program changes nothing and succeeds exactly where the condition holds. -/
def Asks (condition : State → Prop) (program : Program State Failure Unit) : Prop :=
  ∀ state, (program state).2 = state ∧ ((program state).1 = .ok () ↔ condition state)

section Questions

variable {condition : State → Prop} {program : Program State Failure Unit}

theorem asks_gets (read : State → Bool) (failure : Failure) :
    Asks (fun state => read state = true)
      (gets read >>= fun holds => if holds then pure () else fail failure) := by
  intro state
  rw [bind_apply]
  cases holds : read state with
  | true => simp [holds]
  | false => simp [holds]

theorem Asks.bind {second : State → Prop} {next : Program State Failure Unit}
    (first : Asks condition program) (rest : Asks second next) :
    Asks (fun state => condition state ∧ second state) (program >>= fun _ => next) := by
  intro state
  obtain ⟨same, meets⟩ := first state
  rw [bind_apply]
  cases ran : program state with
  | mk outcome middle =>
      simp only [ran] at same meets
      subst same
      cases outcome with
      | ok value =>
          simp only [true_iff] at meets
          simp only [meets, true_and]
          exact rest middle
      | error failure =>
          simp only [reduceCtorEq, false_iff] at meets
          simp [meets]

theorem Asks.forEach {Item : Type} {condition : Item → State → Prop}
    {body : Item → Program State Failure Unit} (each : ∀ item, Asks (condition item) (body item))
    (items : List Item) :
    Asks (fun state => ∀ item ∈ items, condition item state) (Program.forEach body items) := by
  induction items with
  | nil =>
      intro state
      simp [Program.forEach]
  | cons item rest inductionHypothesis =>
      intro state
      simpa [Program.forEach] using ((each item).bind inductionHypothesis) state

end Questions

end Program

end Fungi.Lib
