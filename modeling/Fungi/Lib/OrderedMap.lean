import Std.Data.ExtTreeMap
import Mathlib.Data.List.Induction
import Mathlib.Data.List.Sort

/-!
# Ordered maps as sorted lists

An ordered map is its list of entries in key order.  These lemmas say when
collecting a list into a map only sorts it, and when it drops entries.
-/

namespace Fungi.Lib

open Std

variable {Key Value : Type} {order : Key → Key → Ordering}

/-- The entries come in strictly increasing key order. -/
def SortedKeys (order : Key → Key → Ordering) (entries : List (Key × Value)) : Prop :=
  entries.Pairwise fun left right => order left.1 right.1 = .lt

variable [TransCmp order]

theorem sortedKeys_toList (map : ExtTreeMap Key Value order) :
    SortedKeys order map.toList :=
  ExtTreeMap.ordered_keys_toList

/-- Strictly sorted entries are determined by the entries that occur. -/
theorem SortedKeys.eq_of_mem_iff {left right : List (Key × Value)}
    (sortedLeft : SortedKeys order left) (sortedRight : SortedKeys order right)
    (same : ∀ item, item ∈ left ↔ item ∈ right) : left = right := by
  have antisymmetric : Std.Antisymm fun left right : Key × Value =>
      order left.1 right.1 = .lt := by
    constructor
    intro first second before after
    exact absurd after (OrientedCmp.not_lt_of_lt before)
  have irreflexive : Std.Irrefl fun left right : Key × Value =>
      order left.1 right.1 = .lt := by
    constructor
    intro item before
    have same : order item.1 item.1 = .eq := ReflCmp.compare_self
    rw [same] at before
    cases before
  exact List.Pairwise.eq_of_mem_iff sortedLeft sortedRight same

theorem SortedKeys.nodup {entries : List (Key × Value)} (sorted : SortedKeys order entries) :
    entries.Nodup := by
  apply List.Pairwise.imp _ sorted
  intro left right before same
  have equal : order right.1 right.1 = .eq := ReflCmp.compare_self
  rw [same, equal] at before
  cases before

theorem SortedKeys.nodup_keys {entries : List (Key × Value)} (sorted : SortedKeys order entries) :
    (entries.map (·.1)).Nodup := by
  apply List.pairwise_map.mpr
  apply List.Pairwise.imp _ sorted
  intro left right before same
  have equal : order right.1 right.1 = .eq := ReflCmp.compare_self
  rw [same, equal] at before
  cases before

theorem ofList_snoc (front : List (Key × Value)) (last : Key × Value) :
    ExtTreeMap.ofList (front ++ [last]) order =
      (ExtTreeMap.ofList front order).insert last.1 last.2 := by
  rw [ExtTreeMap.ofList_eq_insertMany_empty, ExtTreeMap.insertMany_append,
    ← ExtTreeMap.ofList_eq_insertMany_empty, ExtTreeMap.insertMany_list_singleton]

variable [LawfulEqCmp order]

/-- The entries of a collected list are entries of the list. -/
theorem mem_of_mem_toList_ofList {entries : List (Key × Value)} {item : Key × Value}
    (membership : item ∈ (ExtTreeMap.ofList entries order).toList) : item ∈ entries := by
  rw [ExtTreeMap.mem_toList_iff_getElem?_eq_some] at membership
  induction entries using List.reverseRecOn with
  | nil => simp at membership
  | append_singleton front last inductionHypothesis =>
      rw [ofList_snoc, ExtTreeMap.getElem?_insert] at membership
      rw [List.mem_append, List.mem_singleton]
      split at membership
      · next same =>
          right
          rw [LawfulEqCmp.compare_eq_iff_eq] at same
          rw [Option.some.injEq] at membership
          exact Prod.ext same.symm membership.symm
      · left
        exact inductionHypothesis membership

/-- Collecting a list that is already sorted keeps it. -/
theorem toList_ofList_of_sorted {entries : List (Key × Value)}
    (sorted : SortedKeys order entries) :
    (ExtTreeMap.ofList entries order).toList = entries := by
  apply SortedKeys.eq_of_mem_iff (sortedKeys_toList _) sorted
  intro item
  constructor
  · exact mem_of_mem_toList_ofList
  · intro membership
    rw [ExtTreeMap.mem_toList_iff_getElem?_eq_some]
    apply ExtTreeMap.getElem?_ofList_of_mem ReflCmp.compare_self _ membership
    apply List.Pairwise.imp _ sorted
    intro left right before same
    rw [before] at same
    cases same

section Lookup

variable [DecidableEq Key] {map : ExtTreeMap Key Value order} {key found : Key} {value : Value}

theorem getElem?_insert :
    (map.insert key value)[found]? = if key = found then some value else map[found]? := by
  rw [ExtTreeMap.getElem?_insert]
  simp only [LawfulEqCmp.compare_eq_iff_eq]

theorem getElem?_erase :
    (map.erase key)[found]? = if key = found then none else map[found]? := by
  rw [ExtTreeMap.getElem?_erase]
  simp only [LawfulEqCmp.compare_eq_iff_eq]

end Lookup

end Fungi.Lib
