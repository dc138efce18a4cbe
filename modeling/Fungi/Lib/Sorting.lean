import Mathlib.Data.List.Sort
import Mathlib.Data.Prod.Lex

/-!
# Sorting by a comparison

A sort whose comparison decides a linear order of keys.  Where the keys tell the items apart, the
result is strictly sorted and does not depend on the order the items came in.
-/

namespace Fungi.Lib

variable {α Key : Type*} [LinearOrder Key]

/-- One key after the other. -/
theorem compare_then_ne_gt_iff {left right : Key} {next : Ordering} :
    (compare left right).then next ≠ .gt ↔ left < right ∨ left = right ∧ next ≠ .gt := by
  rcases lt_trichotomy left right with less | rfl | greater
  · simp [compare_lt_iff_lt.mpr less, less]
  · simp
  · simp [compare_gt_iff_gt.mpr greater, greater.not_gt, greater.ne']

/-- The comparison accepts two items in the order of their keys. -/
def ComparesBy (accepts : α → α → Prop) (key : α → Key) : Prop :=
  ∀ left right, accepts left right ↔ key left ≤ key right

section InsertionSort

variable {accepts : α → α → Prop} [DecidableRel accepts] {key : α → Key}

theorem ComparesBy.pairwise (compares : ComparesBy accepts key) (items : List α) :
    (items.insertionSort accepts).Pairwise accepts := by
  have total : Std.Total accepts := ⟨fun left right => by
    rw [compares, compares]
    exact le_total _ _⟩
  have trans : IsTrans α accepts := ⟨fun left middle right => by
    rw [compares, compares, compares]
    exact le_trans⟩
  exact List.pairwise_insertionSort accepts items

/-- Different items with different keys stand in strict order. -/
theorem ComparesBy.pairwise_lt (compares : ComparesBy accepts key) {items : List α}
    (distinct : (items.map key).Nodup) :
    (items.insertionSort accepts).Pairwise fun left right => key left < key right := by
  have perm := List.perm_insertionSort accepts items
  have apart := List.pairwise_map.mp ((perm.map key).nodup_iff.mpr distinct)
  apply ((compares.pairwise items).and apart).imp
  rintro left right ⟨accepted, differ⟩
  exact lt_of_le_of_ne ((compares left right).mp accepted) differ

/-- The result is the same for every order of the items. -/
theorem ComparesBy.insertionSort_eq_of_perm (compares : ComparesBy accepts key)
    {items others : List α} (perm : items.Perm others) (distinct : (items.map key).Nodup) :
    items.insertionSort accepts = others.insertionSort accepts := by
  have sorted := List.perm_insertionSort accepts items
  have otherSorted := List.perm_insertionSort accepts others
  apply List.Perm.eq_of_pairwise _ (compares.pairwise items) (compares.pairwise others)
    ((sorted.trans perm).trans otherSorted.symm)
  intro left right leftMember rightMember before after
  have sameKey := le_antisymm ((compares left right).mp before) ((compares right left).mp after)
  apply List.inj_on_of_nodup_map distinct (sorted.mem_iff.mp leftMember) _ sameKey
  exact perm.mem_iff.mpr (otherSorted.mem_iff.mp rightMember)

end InsertionSort

end Fungi.Lib
