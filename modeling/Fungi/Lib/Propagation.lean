import Mathlib.Data.List.Basic

/-!
# Propagation of a value

A value is changed in one place and then copied to another.  Copies that are made in the order of
the changes leave the two places equal as soon as none is outstanding.
-/

namespace Fungi.Lib

variable {Value : Type*}

/-- The copy becomes the value once the outstanding copies are made, the oldest first. -/
def Propagates (value : Value) (outstanding : List Value) (copy : Value) : Prop :=
  outstanding.getLast?.getD copy = value

namespace Propagates

variable {value copy next : Value} {outstanding : List Value}

@[simp] theorem nil_iff : Propagates value [] copy ↔ copy = value := Iff.rfl

theorem refl (value : Value) : Propagates value [] value := rfl

/-- The value is changed, and the change is to be copied. -/
theorem change (next : Value) (outstanding : List Value) (copy : Value) :
    Propagates next (outstanding ++ [next]) copy := by
  unfold Propagates
  simp

/-- The oldest outstanding copy is made. -/
theorem advance (propagates : Propagates value (next :: outstanding) copy) :
    Propagates value outstanding next := by
  unfold Propagates at propagates ⊢
  rw [List.getLast?_cons, Option.getD_some] at propagates
  exact propagates

end Propagates

end Fungi.Lib
