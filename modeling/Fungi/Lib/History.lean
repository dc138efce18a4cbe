import Mathlib.Data.List.Basic
import Mathlib.Data.List.Induction

/-!
# Histories

A history lists events in the order in which they happened.  `Before` says that two
events happened in a given order.
-/

namespace Fungi.Lib

variable {Event : Type*} {history : List Event} {first second event : Event}

/-- `first` has happened, and `second` after it. -/
def Before (history : List Event) (first second : Event) : Prop :=
  [first, second].Sublist history

instance [DecidableEq Event] : Decidable (Before history first second) :=
  inferInstanceAs (Decidable ([first, second].Sublist history))

@[simp] theorem not_before_nil : ¬ Before [] first second := by
  intro before
  cases before

/-- One more event comes after all the events that have happened. -/
theorem before_snoc :
    Before (history ++ [event]) first second ↔
      Before history first second ∨ first ∈ history ∧ second = event := by
  constructor
  · intro before
    obtain ⟨left, right, same, fromHistory, fromEvent⟩ := List.sublist_append_iff.mp before
    rcases List.sublist_singleton.mp fromEvent with rfl | rfl
    · left
      rw [List.append_nil] at same
      unfold Before
      rw [same]
      exact fromHistory
    · right
      have split : [first] ++ [second] = left ++ [event] := same
      obtain ⟨firstSame, secondSame⟩ := List.append_inj' split rfl
      rw [← firstSame] at fromHistory
      exact ⟨List.singleton_sublist.mp fromHistory, List.singleton_inj.mp secondSame⟩
  · intro either
    rcases either with earlier | now
    · exact earlier.trans (List.sublist_append_left _ _)
    · rw [now.2]
      exact (List.singleton_sublist.mpr now.1).append (List.Sublist.refl _)

theorem Before.snoc (before : Before history first second) (event : Event) :
    Before (history ++ [event]) first second :=
  before_snoc.mpr (Or.inl before)

theorem Before.of_snoc_ne (before : Before (history ++ [event]) first second)
    (other : second ≠ event) : Before history first second := by
  rcases before_snoc.mp before with earlier | now
  · exact earlier
  · exact absurd now.2 other

theorem Before.left_mem (before : Before history first second) : first ∈ history :=
  before.subset List.mem_cons_self

/-- Two events that have happened did so in one of the two orders. -/
theorem before_or_before (left : first ∈ history) (right : second ∈ history)
    (different : first ≠ second) : Before history first second ∨ Before history second first := by
  induction history using List.reverseRecOn with
  | nil => cases left
  | append_singleton history event inductionHypothesis =>
      rw [List.mem_append, List.mem_singleton] at left right
      rw [before_snoc, before_snoc]
      rcases left with earlier | now
      · rcases right with alsoEarlier | last
        · exact (inductionHypothesis earlier alsoEarlier).imp Or.inl Or.inl
        · exact Or.inl (Or.inr ⟨earlier, last⟩)
      · rcases right with before | alsoNow
        · exact Or.inr (Or.inr ⟨before, now⟩)
        · exact absurd (now.trans alsoNow.symm) different

end Fungi.Lib
