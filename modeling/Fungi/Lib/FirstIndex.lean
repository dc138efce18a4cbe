import Mathlib.Data.List.Basic
import Mathlib.Data.List.Pairwise

/-!
# The order of first occurrences

Where an item of a list occurs first, and how the order of first occurrences looks after a filter,
after the removal of repetitions and in a list that is sorted.
-/

namespace Fungi.Lib

variable {α : Type*} [BEq α] [LawfulBEq α]

theorem idxOf_filter_lt_iff (keeps : α → Bool) (items : List α) {left right : α}
    (leftKept : keeps left = true) (rightKept : keeps right = true) :
    (items.filter keeps).idxOf left < (items.filter keeps).idxOf right ↔
      items.idxOf left < items.idxOf right := by
  induction items with
  | nil => simp
  | cons item items inductionHypothesis =>
      by_cases kept : keeps item = true
      · rw [List.filter_cons_of_pos kept]
        simp only [List.idxOf_cons]
        cases isLeft : item == left <;> cases isRight : item == right <;>
          simp [inductionHypothesis]
      · have notLeft : (item == left) = false := by
          rw [beq_eq_false_iff_ne]
          rintro rfl
          exact kept leftKept
        have notRight : (item == right) = false := by
          rw [beq_eq_false_iff_ne]
          rintro rfl
          exact kept rightKept
        rw [List.filter_cons_of_neg kept]
        simp [List.idxOf_cons, notLeft, notRight, inductionHypothesis]

/-- Without repetitions the items stand in the order in which they first occurred. -/
theorem pairwise_eraseDups (items : List α) :
    items.eraseDups.Pairwise fun left right => items.idxOf left < items.idxOf right := by
  cases items with
  | nil => simp
  | cons item items =>
      have differs : ∀ other, (!(other == item)) = true → (item == other) = false := by
        intro other apart
        have notSame : other ≠ item := by simpa using apart
        simpa using notSame.symm
      rw [List.eraseDups_cons, List.pairwise_cons]
      constructor
      · intro other member
        rw [List.mem_eraseDups, List.mem_filter] at member
        simp [List.idxOf_cons, differs other member.2]
      · refine (pairwise_eraseDups (items.filter fun other => !(other == item))).imp_of_mem ?_
        intro left right leftMember rightMember before
        rw [List.mem_eraseDups, List.mem_filter] at leftMember rightMember
        rw [idxOf_filter_lt_iff (fun other => !(other == item)) items leftMember.2 rightMember.2]
          at before
        simpa [List.idxOf_cons, differs left leftMember.2, differs right rightMember.2] using before
termination_by items.length
decreasing_by exact Nat.lt_succ_of_le (List.length_filter_le _ _)

theorem nodup_eraseDups (items : List α) : items.eraseDups.Nodup :=
  (pairwise_eraseDups items).imp fun before same => by rw [same] at before; omega

theorem eraseDups_of_nodup {items : List α} (nodup : items.Nodup) : items.eraseDups = items := by
  induction items with
  | nil => rfl
  | cons item items inductionHypothesis =>
      rw [List.nodup_cons] at nodup
      have unchanged : (items.filter fun other => !(other == item)) = items := by
        apply List.filter_eq_self.mpr
        intro other member
        have apart : other ≠ item := by
          rintro rfl
          exact nodup.1 member
        simpa using apart
      rw [List.eraseDups_cons, unchanged, inductionHypothesis nodup.2]

theorem eraseDups_snoc (items : List α) (item : α) :
    (items ++ [item]).eraseDups =
      if item ∈ items then items.eraseDups else items.eraseDups ++ [item] := by
  rw [List.eraseDups_append]
  split
  · next before => simp [List.removeAll, before]
  · next isNew => simp [List.removeAll, isNew, List.eraseDups_cons]

/-- What holds of the items pairwise holds of two items that first occur one after the other. -/
theorem of_idxOf_lt {related : α → α → Prop} {items : List α} (sorted : items.Pairwise related)
    {left right : α} (member : right ∈ items)
    (before : items.idxOf left < items.idxOf right) : related left right := by
  have rightInside := List.idxOf_lt_length_of_mem member
  have leftInside := Nat.lt_trans before rightInside
  have atIndex := List.pairwise_iff_getElem.mp sorted _ _ leftInside rightInside before
  rwa [List.getElem_idxOf leftInside, List.getElem_idxOf rightInside] at atIndex

/-- The item found is the first to occur of those looked for. -/
theorem idxOf_le_of_find?_eq_some {found other : α} {wanted : α → Bool} {items : List α}
    (isFound : items.find? wanted = some found) (isWanted : wanted other = true) :
    items.idxOf found ≤ items.idxOf other := by
  induction items with
  | nil => cases isFound
  | cons item items inductionHypothesis =>
      rw [List.find?_cons] at isFound
      cases isItem : wanted item with
      | true =>
          rw [isItem] at isFound
          obtain rfl := Option.some.inj isFound
          simp
      | false =>
          rw [isItem] at isFound
          have notOther : (item == other) = false := by
            rw [beq_eq_false_iff_ne]
            rintro rfl
            rw [isItem] at isWanted
            cases isWanted
          have before := inductionHypothesis isFound
          simp only [List.idxOf_cons, notOther, cond_false]
          cases item == found with
          | true => exact Nat.zero_le _
          | false => exact Nat.succ_le_succ before

end Fungi.Lib
