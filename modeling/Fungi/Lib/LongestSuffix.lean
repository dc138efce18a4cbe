import Mathlib.Data.List.Basic

/-!
# The longest suffix with a property

A suffix of a list is found by dropping items from its front one by one.  Where the property passes
to shorter suffixes, a second property may be looked for in the suffix that was found.
-/

namespace Fungi.Lib

variable {Item : Type} {holds first second : List Item → Prop} {whole content suffix : List Item}

/-- A suffix has the property of the whole list. -/
def SuffixClosed (holds : List Item → Prop) : Prop :=
  ∀ whole suffix : List Item, suffix <:+ whole → holds whole → holds suffix

/-- Of the suffixes with the property this one is the longest. -/
structure LongestSuffix (holds : List Item → Prop) (whole suffix : List Item) : Prop where
  isSuffix : suffix <:+ whole
  held : holds suffix
  longest : ∀ other, other <:+ whole → holds other → other.length ≤ suffix.length

namespace LongestSuffix

theorem contains (found : LongestSuffix holds whole suffix) {other : List Item}
    (isSuffix : other <:+ whole) (held : holds other) : other <:+ suffix :=
  List.suffix_of_suffix_length_le isSuffix found.isSuffix (found.longest other isSuffix held)

theorem self (held : holds whole) : LongestSuffix holds whole whole where
  isSuffix := List.suffix_rfl
  held := held
  longest _ isSuffix _ := isSuffix.length_le

/-- A list without the property is looked at without its first item. -/
theorem cons {item : Item} (fails : ¬ holds (item :: whole))
    (found : LongestSuffix holds whole suffix) : LongestSuffix holds (item :: whole) suffix where
  isSuffix := found.isSuffix.trans (List.suffix_cons item whole)
  held := found.held
  longest := by
    intro other isSuffix held
    rcases List.suffix_cons_iff.mp isSuffix with rfl | shorter
    · exact absurd held fails
    · exact found.longest other shorter held

/-- The first boundary from which the property holds. -/
theorem drop {count : Nat} (held : holds (whole.drop count))
    (fails : ∀ index < count, ¬ holds (whole.drop index)) :
    LongestSuffix holds whole (whole.drop count) := by
  induction whole generalizing count with
  | nil =>
      rw [List.drop_nil] at held ⊢
      exact self held
  | cons item rest inductionHypothesis =>
      cases count with
      | zero => exact self held
      | succ count =>
          refine cons (fails 0 (Nat.zero_lt_succ count)) (inductionHypothesis held ?_)
          intro index below
          exact fails (index + 1) (Nat.succ_lt_succ below)

/-- The longest suffix with both properties is found by one after the other. -/
theorem and (closed : SuffixClosed first) (outer : LongestSuffix first whole content)
    (inner : LongestSuffix second content suffix) :
    LongestSuffix (fun list => first list ∧ second list) whole suffix where
  isSuffix := inner.isSuffix.trans outer.isSuffix
  held := ⟨closed content suffix inner.isSuffix outer.held, inner.held⟩
  longest other isSuffix held := inner.longest other (outer.contains isSuffix held.1) held.2

/-- The suffix may have a stronger property. -/
theorem narrow (found : LongestSuffix first whole suffix) (held : second suffix)
    (implies : ∀ other, other <:+ whole → second other → first other) :
    LongestSuffix second whole suffix where
  isSuffix := found.isSuffix
  held := held
  longest other isSuffix heldByOther :=
    found.longest other isSuffix (implies other isSuffix heldByOther)

end LongestSuffix

end Fungi.Lib
