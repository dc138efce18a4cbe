import Fungi.Lib.Program

/-!
# Programs and what they return

A triple says what a program changes, from states with an invariant, and which values it may
return.  There is one rule for each way of building a program.
-/

namespace Fungi.Lib.Program

variable {State Failure Value Result : Type} {frame : Frame State} {invariant : State → Prop}
  {property : Value → Prop} {program : Program State Failure Value}

/-- From a state with the invariant the program stays within the frame, keeps the invariant, and
returns only values with the property. -/
structure YieldsFrom (frame : Frame State) (invariant : State → Prop) (property : Value → Prop)
    (program : Program State Failure Value) (state : State) : Prop where
  within : frame.Allows state (program state).2
  kept : invariant (program state).2
  returned : ∀ value, (program state).1 = .ok value → property value

/-- From every state with the invariant, the program moves within the frame to a value with the
property. -/
def Yields (frame : Frame State) (invariant : State → Prop) (property : Value → Prop)
    (program : Program State Failure Value) : Prop :=
  ∀ state, invariant state → YieldsFrom frame invariant property program state

theorem yields_pure {value : Value} (holds : property value) :
    Yields frame invariant property (pure value : Program State Failure Value) := by
  intro state valid
  refine ⟨frame.refl state, valid, ?_⟩
  intro other same
  cases same
  exact holds

theorem yields_fail (failure : Failure) :
    Yields frame invariant property (fail failure : Program State Failure Value) :=
  fun state valid => ⟨frame.refl state, valid, nofun⟩

theorem yields_gets {read : State → Value}
    (holds : ∀ state, invariant state → property (read state)) :
    Yields frame invariant property (gets read : Program State Failure Value) := by
  intro state valid
  refine ⟨frame.refl state, valid, ?_⟩
  intro value same
  cases same
  exact holds state valid

theorem yields_ofExcept {outcome : Except Failure Value}
    (holds : ∀ value, outcome = .ok value → property value) :
    Yields frame invariant property (ofExcept outcome : Program State Failure Value) := by
  cases outcome with
  | ok value => exact yields_pure (holds value rfl)
  | error failure => exact yields_fail failure

/-- A program within a frame that respects the invariant. -/
theorem Within.yields (within : Within frame program)
    (respected : ∀ before after, frame.Allows before after → invariant before → invariant after) :
    Yields frame invariant (fun _ => True) program :=
  fun state valid => ⟨within state, respected _ _ (within state) valid, fun _ _ => trivial⟩

/-- A sequence from one state, given what its second program does where the first one ends. -/
theorem YieldsFrom.bind {next : Value → Program State Failure Result} {result : Result → Prop}
    {state : State} (first : YieldsFrom frame invariant property program state)
    (rest : ∀ value, (program state).1 = .ok value → property value →
      YieldsFrom frame invariant result (next value) (program state).2) :
    YieldsFrom frame invariant result (program >>= next) state := by
  obtain ⟨within, kept, returned⟩ := first
  cases ran : program state with
  | mk outcome middle =>
      rw [ran] at within kept returned rest
      cases outcome with
      | error failure =>
          have whole : (program >>= next) state = (.error failure, middle) := by
            rw [bind_apply, ran]
          constructor
          · rwa [whole]
          · rwa [whole]
          · rw [whole]
            exact nofun
      | ok value =>
          have after := rest value rfl (returned value rfl)
          have whole : (program >>= next) state = next value middle := bind_of_ok ran next
          constructor
          · rw [whole]
            exact frame.trans within after.within
          · rw [whole]
            exact after.kept
          · rw [whole]
            exact after.returned

theorem Yields.bind {next : Value → Program State Failure Result} {result : Result → Prop}
    (first : Yields frame invariant property program)
    (rest : ∀ value, property value → Yields frame invariant result (next value)) :
    Yields frame invariant result (program >>= next) := by
  intro state valid
  have before := first state valid
  apply before.bind
  intro value _ holds
  exact rest value holds _ before.kept

theorem Yields.mono {wider : Value → Prop} (yields : Yields frame invariant property program)
    (implied : ∀ value, property value → wider value) : Yields frame invariant wider program :=
  fun state valid =>
    have from' := yields state valid
    ⟨from'.within, from'.kept, fun value same => implied value (from'.returned value same)⟩

/-- Dropping the value of a program changes nothing else. -/
theorem final_dropped (program : Program State Failure Value) (state : State) :
    ((program >>= fun _ => pure ()) state).2 = (program state).2 := by
  rw [bind_apply]
  cases program state with
  | mk outcome final =>
      cases outcome with
      | ok value => rfl
      | error failure => rfl

/-- A program whose value is dropped. -/
theorem Yields.dropped (yields : Yields frame invariant property program) :
    Yields frame invariant (fun _ => True) (program >>= fun _ => pure ()) :=
  yields.bind fun _ _ => yields_pure trivial

theorem Yields.ignoring {program : Program State Failure Unit} {property : Unit → Prop}
    (yields : Yields frame invariant property program) :
    Yields frame invariant (fun _ => True) (Program.ignoring program) :=
  fun state valid =>
    have from' := yields state valid
    ⟨from'.within, from'.kept, fun _ _ => trivial⟩

theorem Yields.forEach {Item : Type} {body : Item → Program State Failure Unit}
    {items : List Item}
    (each : ∀ item ∈ items, Yields frame invariant (fun _ => True) (body item)) :
    Yields frame invariant (fun _ => True) (Program.forEach body items) := by
  induction items with
  | nil => exact yields_pure trivial
  | cons item rest inductionHypothesis =>
      apply (each item List.mem_cons_self).bind
      intro _ _
      apply inductionHypothesis
      intro other membership
      exact each other (List.mem_cons_of_mem _ membership)

end Fungi.Lib.Program
