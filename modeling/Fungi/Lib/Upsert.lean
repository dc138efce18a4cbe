import Mathlib.Data.List.Sort

/-!
# Lists with keys

A list whose items are found by a key: the first item with the key is the one that counts.  An
upsert changes that item or appends a new one, and a stable sort by a key keeps every item findable.
-/

namespace Fungi.Lib

variable {α Key : Type*}

/-- Change the first item that is found, or append a new one. -/
def upsertFirst (found : α → Bool) (change : α → α) (new : α) : List α → List α
  | [] => [new]
  | item :: rest =>
      if found item then change item :: rest else item :: upsertFirst found change new rest

section Keys

variable [DecidableEq Key] {key : α → Key} {target other : Key} {change : α → α} {new : α}

/-- The first item with the key. -/
def findKey (key : α → Key) (target : Key) (items : List α) : Option α :=
  items.find? fun item => key item = target

/-- An upsert by a key changes what is found under that key only. -/
theorem findKey_upsertFirst (keepsKey : ∀ item, key (change item) = key item)
    (keyOfNew : key new = target) (items : List α) :
    findKey key other (upsertFirst (fun item => key item = target) change new items) =
      if other = target then some ((findKey key target items).elim new change)
      else findKey key other items := by
  unfold findKey
  induction items with
  | nil =>
      by_cases same : other = target
      · simp [upsertFirst, keyOfNew, same]
      · simp [upsertFirst, keyOfNew, same, Ne.symm same]
  | cons first rest inductionHypothesis =>
      by_cases isFirst : key first = target
      · by_cases same : other = target
        · simp [upsertFirst, isFirst, same, keepsKey]
        · simp [upsertFirst, isFirst, same, keepsKey, Ne.symm same]
      · by_cases same : other = target
        · subst same
          simpa [upsertFirst, isFirst] using inductionHypothesis
        · by_cases isOther : key first = other
          · simp [upsertFirst, isOther, same]
          · simpa [upsertFirst, isFirst, isOther, same] using inductionHypothesis

end Keys

section Sorting

variable [LinearOrder Key] {key : α → Key} {target : Key}

theorem findKey_orderedInsert (item : α) (items : List α) :
    findKey key target (items.orderedInsert (fun left right => key left ≤ key right) item) =
      findKey key target (item :: items) := by
  unfold findKey
  induction items with
  | nil => rfl
  | cons first rest inductionHypothesis =>
      rw [List.orderedInsert_cons]
      split
      · rfl
      · next later =>
          by_cases isItem : key item = target
          · have notFirst : key first ≠ target := by
              intro isFirst
              exact later (le_of_eq (isItem.trans isFirst.symm))
            rw [List.find?_cons_of_neg (by simp [notFirst]), inductionHypothesis]
            simp [isItem]
          · by_cases isFirst : key first = target
            · simp [isFirst, isItem]
            · rw [List.find?_cons_of_neg (by simp [isFirst]), inductionHypothesis]
              simp [isFirst, isItem]

/-- Sorting by the key is stable, so it finds the same item under every key. -/
theorem findKey_insertionSort (items : List α) :
    findKey key target (items.insertionSort fun left right => key left ≤ key right) =
      findKey key target items := by
  induction items with
  | nil => rfl
  | cons first rest inductionHypothesis =>
      rw [List.insertionSort_cons, findKey_orderedInsert]
      unfold findKey at inductionHypothesis ⊢
      rw [List.find?_cons, List.find?_cons, inductionHypothesis]

end Sorting

end Fungi.Lib
