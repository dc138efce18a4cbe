import Fungi.Lib.OrderedMap

/-!
# Groups by a key

Items collected under their keys in an ordered map, as `entry(key).or_default().push(value)` does.
-/

namespace Fungi.Lib

open Std

variable {Key Value : Type} {order : Key → Key → Ordering} [TransCmp order]

/-- `entry(key).or_default().push(value)`. -/
def pushGroup (groups : ExtTreeMap Key (List Value) order) (item : Key × Value) :
    ExtTreeMap Key (List Value) order :=
  groups.alter item.1 fun found => some (found.getD [] ++ [item.2])

/-- The values of each key, in the order of the pairs. -/
def groupPairs (order : Key → Key → Ordering) [TransCmp order] (items : List (Key × Value)) :
    ExtTreeMap Key (List Value) order :=
  items.foldl pushGroup ∅

/-- The pairs of a key with a value of its group, key by key. -/
def ungroup (groups : ExtTreeMap Key (List Value) order) : List (Key × Value) :=
  groups.toList.flatMap fun group => group.2.map fun value => (group.1, value)

/-- Mapping the groups and dropping those that become empty. -/
def mapGroups (change : List Value → List Value) (groups : ExtTreeMap Key (List Value) order) :
    ExtTreeMap Key (List Value) order :=
  groups.filterMap fun _ values => if change values = [] then none else some (change values)

theorem groupPairs_snoc (items : List (Key × Value)) (item : Key × Value) :
    groupPairs order (items ++ [item]) = pushGroup (groupPairs order items) item := by
  rw [groupPairs, List.foldl_append]
  rfl

theorem getElem?_mapGroups (change : List Value → List Value)
    (groups : ExtTreeMap Key (List Value) order) (key : Key) :
    (mapGroups change groups)[key]? =
      groups[key]?.bind fun values =>
        if change values = [] then none else some (change values) := by
  rw [mapGroups, ExtTreeMap.getElem?_filterMap]
  cases groups[key]? with
  | none => simp
  | some values => simp

variable [LawfulEqCmp order]

theorem mem_toList_iff {groups : ExtTreeMap Key (List Value) order} {key : Key}
    {values : List Value} : (key, values) ∈ groups.toList ↔ groups[key]? = some values :=
  ExtTreeMap.mem_toList_iff_getElem?_eq_some

theorem mem_ungroup {groups : ExtTreeMap Key (List Value) order} {key : Key} {value : Value} :
    (key, value) ∈ ungroup groups ↔ ∃ values, groups[key]? = some values ∧ value ∈ values := by
  simp only [ungroup, List.mem_flatMap, List.mem_map, Prod.mk.injEq, Prod.exists, mem_toList_iff]
  constructor
  · rintro ⟨_, values, found, _, member, rfl, rfl⟩
    exact ⟨values, found, member⟩
  · rintro ⟨values, found, member⟩
    exact ⟨key, values, found, value, member, rfl, rfl⟩

theorem mem_ungroup_mapGroups {change : List Value → List Value}
    {groups : ExtTreeMap Key (List Value) order} {key : Key} {value : Value} :
    (key, value) ∈ ungroup (mapGroups change groups) ↔
      ∃ values, groups[key]? = some values ∧ value ∈ change values := by
  rw [mem_ungroup, getElem?_mapGroups]
  constructor
  · rintro ⟨changed, found, member⟩
    obtain ⟨values, inGroups, kept⟩ := Option.bind_eq_some_iff.mp found
    split at kept
    · cases kept
    · cases kept
      exact ⟨values, inGroups, member⟩
  · rintro ⟨values, inGroups, member⟩
    refine ⟨change values, ?_, member⟩
    rw [inGroups, Option.bind_some, if_neg (List.ne_nil_of_mem member)]

variable [DecidableEq Key]

/-- A group holds the values of its key, in the order in which they came. -/
theorem getElem?_groupPairs (items : List (Key × Value)) (key : Key) :
    (groupPairs order items)[key]? =
      if (items.filter (·.1 = key)).map (·.2) = [] then none
      else some ((items.filter (·.1 = key)).map (·.2)) := by
  induction items using List.reverseRecOn with
  | nil => simp [groupPairs]
  | append_singleton items item inductionHypothesis =>
      rw [groupPairs_snoc, pushGroup, ExtTreeMap.getElem?_alter, List.filter_append,
        List.map_append]
      simp only [LawfulEqCmp.compare_eq_iff_eq]
      by_cases same : item.1 = key
      · subst same
        rw [if_pos rfl, inductionHypothesis]
        by_cases nothing : (items.filter (·.1 = item.1)).map (·.2) = []
        · rw [if_pos nothing, nothing]
          simp
        · rw [if_neg nothing]
          simp
      · have notItem : [item].filter (·.1 = key) = [] := by simp [same]
        rw [if_neg same, inductionHypothesis, notItem, List.map_nil, List.append_nil]

theorem mem_group_iff {items : List (Key × Value)} {key : Key} {value : Value} :
    (∃ values, (groupPairs order items)[key]? = some values ∧ value ∈ values) ↔
      (key, value) ∈ items := by
  rw [getElem?_groupPairs]
  constructor
  · rintro ⟨values, found, member⟩
    split at found
    · cases found
    · cases found
      simp only [List.mem_map, List.mem_filter, decide_eq_true_eq, Prod.exists] at member
      obtain ⟨_, _, ⟨isItem, rfl⟩, rfl⟩ := member
      exact isItem
  · intro member
    have inGroup : value ∈ (items.filter (·.1 = key)).map (·.2) := by
      simp only [List.mem_map, List.mem_filter, decide_eq_true_eq, Prod.exists]
      exact ⟨key, value, ⟨member, rfl⟩, rfl⟩
    rw [if_neg (List.ne_nil_of_mem inGroup)]
    exact ⟨_, rfl, inGroup⟩

end Fungi.Lib
