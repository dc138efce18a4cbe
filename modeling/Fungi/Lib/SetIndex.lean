import Mathlib.Data.Finset.Basic
import Mathlib.Logic.Function.Basic

/-!
# Indexes of sets

An index keeps, for each key, the set of the ids that have it, and no entry at all for a key that
no id has.  It is exact for a table of entries if the sets are those that the entries' keys give.
Adding the id of a new entry and dropping the id of a removed one keep an index exact.
-/

namespace Fungi.Lib

variable {Key Id Entry : Type*} [DecidableEq Key] [DecidableEq Id]

/-- The ids of each key that has any. -/
abbrev SetIndex (Key Id : Type*) := Key → Option (Finset Id)

namespace SetIndex

/-- No key has ids. -/
def empty : SetIndex Key Id := fun _ => none

/-- Insert the id into the set of the key, which is made where it is missing. -/
def add (index : SetIndex Key Id) (key : Key) (id : Id) : SetIndex Key Id :=
  Function.update index key (some (insert id ((index key).getD ∅)))

/-- Remove the id from the set of the key, and the set with its last id. -/
def drop (index : SetIndex Key Id) (key : Key) (id : Id) : SetIndex Key Id :=
  match index key with
  | none => index
  | some ids =>
      let kept := ids.erase id
      Function.update index key (if kept = ∅ then none else some kept)

/-- The ids under the key. -/
def ids (index : SetIndex Key Id) (key : Key) : Finset Id := (index key).getD ∅

theorem ids_add (index : SetIndex Key Id) (key other : Key) (id : Id) :
    (index.add key id).ids other = if other = key then insert id (index.ids key)
      else index.ids other := by
  unfold ids add
  by_cases same : other = key
  · subst same
    simp
  · simp [same]

theorem ids_drop (index : SetIndex Key Id) (key other : Key) (id : Id) :
    (index.drop key id).ids other = if other = key then (index.ids key).erase id
      else index.ids other := by
  unfold ids drop
  cases found : index key with
  | none =>
      by_cases same : other = key
      · simp [same, found]
      · simp [same]
  | some present =>
      by_cases same : other = key
      · subst same
        by_cases last : present.erase id = ∅ <;> simp [last]
      · simp [same]

/-- No key has an empty set. -/
def NoEmpty (index : SetIndex Key Id) : Prop := ∀ key, index key ≠ some ∅

theorem NoEmpty.add {index : SetIndex Key Id} (noEmpty : index.NoEmpty) (key : Key) (id : Id) :
    (index.add key id).NoEmpty := by
  intro other
  unfold SetIndex.add
  by_cases same : other = key
  · subst same
    simp
  · rw [Function.update_of_ne same]
    exact noEmpty other

theorem NoEmpty.drop {index : SetIndex Key Id} (noEmpty : index.NoEmpty) (key : Key) (id : Id) :
    (index.drop key id).NoEmpty := by
  intro other
  unfold SetIndex.drop
  cases found : index key with
  | none => exact noEmpty other
  | some present =>
      by_cases same : other = key
      · subst same
        by_cases last : present.erase id = ∅ <;> simp [last]
      · simp only [Function.update_of_ne same]
        exact noEmpty other

/-- The index holds the ids of the entries under the entries' keys, and nothing else. -/
structure ExactFor (index : SetIndex Key Id) (entries : Id → Option Entry) (keyOf : Entry → Key) :
    Prop where
  noEmpty : index.NoEmpty
  mem_iff : ∀ key id, id ∈ index.ids key ↔ ∃ entry, entries id = some entry ∧ keyOf entry = key

omit [DecidableEq Key] [DecidableEq Id] in
theorem exactFor_empty (keyOf : Entry → Key) :
    (empty : SetIndex Key Id).ExactFor (fun _ => none) keyOf where
  noEmpty := fun key => by simp [empty]
  mem_iff := fun key id => by simp [ids, empty]

variable {index : SetIndex Key Id} {entries : Id → Option Entry} {keyOf : Entry → Key}

/-- An entry under an id that had none. -/
theorem ExactFor.insert (exact : index.ExactFor entries keyOf) {id : Id} (free : entries id = none)
    (entry : Entry) :
    (index.add (keyOf entry) id).ExactFor (Function.update entries id (some entry)) keyOf where
  noEmpty := exact.noEmpty.add _ _
  mem_iff key other := by
    have before := exact.mem_iff key other
    rw [ids_add, Function.update_apply]
    by_cases same : other = id
    · subst same
      rw [free] at before
      by_cases ofEntry : key = keyOf entry
      · simp [ofEntry]
      · simp [ofEntry, before, Ne.symm ofEntry]
    · rw [if_neg same, ← before]
      by_cases ofEntry : key = keyOf entry
      · simp [ofEntry, same]
      · simp [ofEntry]

/-- The entry under the id is gone. -/
theorem ExactFor.remove (exact : index.ExactFor entries keyOf) {id : Id} {entry : Entry}
    (found : entries id = some entry) :
    (index.drop (keyOf entry) id).ExactFor (Function.update entries id none) keyOf where
  noEmpty := exact.noEmpty.drop _ _
  mem_iff key other := by
    have before := exact.mem_iff key other
    rw [ids_drop, Function.update_apply]
    by_cases same : other = id
    · subst same
      rw [found] at before
      by_cases ofEntry : key = keyOf entry
      · simp [ofEntry]
      · simpa [ofEntry, Ne.symm ofEntry] using before
    · rw [if_neg same, ← before]
      by_cases ofEntry : key = keyOf entry
      · simp [ofEntry, same]
      · simp [ofEntry]

end SetIndex

end Fungi.Lib
