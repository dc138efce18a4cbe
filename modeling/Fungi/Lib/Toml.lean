import Mathlib.Order.Basic

/-!
# TOML values

A table is the list of its entries in key order.  The encoding as text is a parameter.
-/

namespace Fungi.Lib

namespace Toml

/-- A value of a TOML document. -/
inductive Value where
  | string (text : String)
  | integer (value : Int)
  | float (text : String)
  | boolean (value : Bool)
  | datetime (text : String)
  | array (items : List Value)
  | table (entries : List (String × Value))

/-- A table, in the order of its keys. -/
abbrev Table := List (String × Value)

/-- The value as a string. -/
def Value.asStr : Value → Option String
  | .string text => some text
  | _ => none

/-- The value as an integer. -/
def Value.asInteger : Value → Option Int
  | .integer value => some value
  | _ => none

/-- The value as an array. -/
def Value.asArray : Value → Option (List Value)
  | .array items => some items
  | _ => none

/-- The value as a table. -/
def Value.asTable : Value → Option Table
  | .table entries => some entries
  | _ => none

/-- Encoding and decoding; what is encoded is read back. -/
structure Codec where
  fromStr : String → Option Value
  toStringPretty : Value → Option String
  fromStr_toStringPretty : ∀ {value text}, toStringPretty value = some text →
    fromStr text = some value

namespace Table

/-- The value of a key. -/
def get (table : Table) (key : String) : Option Value :=
  (table.find? fun entry => entry.1 = key).map (·.2)

/-- Whether a key has a value. -/
def containsKey (table : Table) (key : String) : Bool := (table.get key).isSome

/-- Set the value of a key. -/
def insert (key : String) (value : Value) : Table → Table
  | [] => [(key, value)]
  | entry :: rest =>
      if key = entry.1 then (key, value) :: rest
      else if key < entry.1 then (key, value) :: entry :: rest
      else entry :: insert key value rest

/-- Remove a key. -/
def remove (key : String) (table : Table) : Table := table.filter fun entry => entry.1 ≠ key

/-- Change the table at a key, if there is one. -/
def updateTable (key : String) (change : Table → Table) (table : Table) : Table :=
  match (table.get key).bind Value.asTable with
  | some inner => table.insert key (.table (change inner))
  | none => table

variable (table : Table) (key other : String) (value : Value)

theorem get_insert :
    get (insert key value table) other = if key = other then some value else get table other := by
  induction table with
  | nil => by_cases same : key = other <;> simp [insert, get, same]
  | cons entry rest inductionHypothesis =>
      unfold insert
      by_cases isKey : key = entry.1
      · rw [if_pos isKey]
        by_cases same : key = other
        · simp [get, same]
        · simp [get, same, ← isKey]
      · rw [if_neg isKey]
        by_cases before : key < entry.1
        · rw [if_pos before]
          by_cases same : key = other <;> simp [get, same]
        · rw [if_neg before]
          by_cases isOther : entry.1 = other
          · have different : key ≠ other := fun same => isKey (same.trans isOther.symm)
            simp [get, isOther, different]
          · simpa [get, isOther] using inductionHypothesis

theorem get_remove :
    get (remove key table) other = if key = other then none else get table other := by
  induction table with
  | nil => simp [remove, get]
  | cons entry rest inductionHypothesis =>
      by_cases removed : entry.1 = key
      · have shorter : remove key (entry :: rest) = remove key rest := by simp [remove, removed]
        rw [shorter, inductionHypothesis]
        by_cases same : key = other
        · simp [same]
        · simp [same, get, removed]
      · have kept : remove key (entry :: rest) = entry :: remove key rest := by
          simp [remove, removed]
        rw [kept]
        by_cases isOther : entry.1 = other
        · have different : key ≠ other := fun same => removed (isOther.trans same.symm)
          simp [get, isOther, different]
        · simpa [get, isOther] using inductionHypothesis

@[simp] theorem get_insert_self : get (insert key value table) key = some value := by
  simp [get_insert]

@[simp] theorem get_remove_self : get (remove key table) key = none := by
  simp [get_remove]

variable {key other}

theorem get_insert_of_ne (different : key ≠ other) :
    get (insert key value table) other = get table other := by
  rw [get_insert, if_neg different]

theorem get_remove_of_ne (different : key ≠ other) :
    get (remove key table) other = get table other := by
  rw [get_remove, if_neg different]

theorem get_updateTable_of_ne (change : Table → Table) (different : key ≠ other) :
    get (updateTable key change table) other = get table other := by
  unfold updateTable
  split
  · exact get_insert_of_ne table _ different
  · rfl

/-- The table at the key is the changed one. -/
theorem asTable_updateTable (key : String) (change : Table → Table) :
    (get (updateTable key change table) key).bind Value.asTable =
      ((get table key).bind Value.asTable).map change := by
  unfold updateTable
  split
  · next inner found => simp [found, Value.asTable]
  · next absent => simp [absent]

end Table

end Toml

end Fungi.Lib
