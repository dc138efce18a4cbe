import Fungi.Lib.LongestSuffix
import Mathlib.Data.List.DropRight

/-!
# Lines

A list is cut into lines, which end at a separator; only the last one may lack it.  The last lines
of a list are its longest suffix of so many lines.
-/

namespace Fungi.Lib.Lines

variable {Item : Type} [DecidableEq Item]

/-! ## Lines of a list -/

/-- The lines of a list, with their separators. -/
def split (separator : Item) : List Item → List (List Item)
  | [] => []
  | item :: rest =>
      if item = separator then [item] :: split separator rest
      else
        match split separator rest with
        | [] => [[item]]
        | line :: lines => (item :: line) :: lines

/-- The last lines of a list; all of it where it has fewer. -/
def last (separator : Item) (count : Nat) (items : List Item) : List Item :=
  ((split separator items).rtake count).flatten

/-- A list without the separator at its end. -/
def body (separator : Item) (items : List Item) : List Item :=
  if items.getLast? = some separator then items.dropLast else items

variable {separator : Item}

@[simp] theorem split_nil : split separator [] = [] := rfl

@[simp] theorem split_separator (rest : List Item) :
    split separator (separator :: rest) = [separator] :: split separator rest := if_pos rfl

@[simp] theorem split_eq_nil_iff {items : List Item} : split separator items = [] ↔ items = [] := by
  cases items with
  | nil => exact iff_of_true rfl rfl
  | cons item rest =>
      refine iff_of_false ?_ (List.cons_ne_nil item rest)
      by_cases ends : item = separator
      · subst ends
        rw [split_separator]
        exact List.cons_ne_nil _ _
      · rw [split, if_neg ends]
        cases split separator rest with
        | nil => exact List.cons_ne_nil _ _
        | cons line lines => exact List.cons_ne_nil _ _

/-- An item that is no separator joins the first line. -/
theorem split_cons {item : Item} {rest line : List Item} {lines : List (List Item)}
    (other : item ≠ separator) (splits : split separator rest = line :: lines) :
    split separator (item :: rest) = (item :: line) :: lines := by
  rw [split, if_neg other, splits]

theorem split_singleton (item : Item) : split separator [item] = [[item]] := by
  rw [split, split_nil]
  exact ite_self _

theorem flatten_split (items : List Item) : (split separator items).flatten = items := by
  induction items with
  | nil => rfl
  | cons item rest inductionHypothesis =>
      by_cases ends : item = separator
      · subst ends
        rw [split_separator, List.flatten_cons, inductionHypothesis, List.singleton_append]
      · cases splits : split separator rest with
        | nil =>
            rw [split_eq_nil_iff] at splits
            rw [splits, split_singleton, List.flatten_singleton]
        | cons line lines =>
            rw [splits, List.flatten_cons] at inductionHypothesis
            rw [split_cons ends splits, List.flatten_cons, List.cons_append, inductionHypothesis]

/-- After a separator a new line begins. -/
theorem split_append (front back : List Item) :
    split separator (front ++ separator :: back) =
      split separator (front ++ [separator]) ++ split separator back := by
  induction front with
  | nil => simp
  | cons item rest inductionHypothesis =>
      rw [List.cons_append, List.cons_append]
      by_cases ends : item = separator
      · subst ends
        rw [split_separator, split_separator, inductionHypothesis, List.cons_append]
      · cases splits : split separator (rest ++ [separator]) with
        | nil =>
            rw [split_eq_nil_iff] at splits
            exact absurd splits (List.append_ne_nil_of_right_ne_nil _ (List.cons_ne_nil _ _))
        | cons line lines =>
            rw [splits, List.cons_append] at inductionHypothesis
            rw [split_cons ends splits, split_cons ends inductionHypothesis, List.cons_append]

/-- A list has a line for each separator in it, its end apart, and one more. -/
theorem length_split {items : List Item} (nonempty : items ≠ []) :
    (split separator items).length = (body separator items).count separator + 1 := by
  induction items with
  | nil => exact absurd rfl nonempty
  | cons item rest inductionHypothesis =>
      cases rest with
      | nil =>
          by_cases ends : item = separator
          · subst ends
            simp [body]
          · rw [split_singleton]
            simp [body, ends]
      | cons next rest =>
          have next_body : body separator (item :: next :: rest) =
              item :: body separator (next :: rest) := by
            unfold body
            rw [List.getLast?_cons_cons, List.dropLast_cons_cons]
            split <;> rfl
          have counted := inductionHypothesis (List.cons_ne_nil next rest)
          rw [next_body, List.count_cons]
          by_cases ends : item = separator
          · subst ends
            rw [split_separator, List.length_cons, counted]
            simp
          · cases splits : split separator (next :: rest) with
            | nil =>
                rw [split_eq_nil_iff] at splits
                cases splits
            | cons line lines =>
                rw [splits] at counted
                rw [split_cons ends splits, List.length_cons, ← List.length_cons (a := line),
                  counted]
                simp [ends]

/-! ## The end of a list -/

theorem body_isPrefix (items : List Item) : body separator items <+: items := by
  unfold body
  split
  · exact List.dropLast_prefix items
  · exact List.prefix_rfl

theorem body_append (front : List Item) {back : List Item} (nonempty : back ≠ []) :
    body separator (front ++ back) = front ++ body separator back := by
  unfold body
  rw [List.getLast?_append_of_ne_nil front nonempty, List.dropLast_append_of_ne_nil nonempty]
  split <;> rfl

theorem body_append_separator (front : List Item) :
    body separator (front ++ [separator]) = front := by
  rw [body, if_pos List.getLast?_concat, List.dropLast_concat]

theorem body_of_ended {items : List Item} (ends : items.getLast? = some separator) :
    body separator items ++ [separator] = items := by
  rw [body, if_pos ends]
  exact List.dropLast_append_getLast? _ ends

/-! ## Lists of lines -/

/-- Each line ends at its only separator, but the last one may have none. -/
inductive AreLines (separator : Item) : List (List Item) → Prop where
  | none : AreLines separator []
  | unended {line : List Item} (nonempty : line ≠ []) (absent : separator ∉ line) :
      AreLines separator [line]
  | ended {line : List Item} {rest : List (List Item)} (absent : separator ∉ line)
      (others : AreLines separator rest) : AreLines separator ((line ++ [separator]) :: rest)

omit [DecidableEq Item] in
theorem AreLines.cons {item : Item} {line : List Item} {rest : List (List Item)}
    (other : item ≠ separator) (lines : AreLines separator (line :: rest)) :
    AreLines separator ((item :: line) :: rest) := by
  cases lines with
  | unended nonempty absent =>
      refine .unended (List.cons_ne_nil item line) ?_
      exact List.not_mem_cons_of_ne_of_not_mem (Ne.symm other) absent
  | @ended line rest absent others =>
      rw [← List.cons_append]
      exact .ended (List.not_mem_cons_of_ne_of_not_mem (Ne.symm other) absent) others

theorem areLines_split (items : List Item) : AreLines separator (split separator items) := by
  induction items with
  | nil => exact .none
  | cons item rest inductionHypothesis =>
      by_cases ends : item = separator
      · subst ends
        rw [split_separator, ← List.nil_append [item]]
        exact .ended List.not_mem_nil inductionHypothesis
      · cases splits : split separator rest with
        | nil =>
            rw [split_eq_nil_iff] at splits
            rw [splits, split_singleton]
            refine .unended (List.cons_ne_nil item []) ?_
            exact fun same => ends (List.mem_singleton.mp same).symm
        | cons line lines =>
            rw [split_cons ends splits]
            rw [splits] at inductionHypothesis
            exact inductionHypothesis.cons ends

omit [DecidableEq Item] in
theorem AreLines.drop {lines : List (List Item)} (are : AreLines separator lines) (count : Nat) :
    AreLines separator (lines.drop count) := by
  induction are generalizing count with
  | none =>
      rw [List.drop_nil]
      exact .none
  | unended nonempty absent =>
      cases count with
      | zero => exact .unended nonempty absent
      | succ count =>
          rw [List.drop_succ_cons, List.drop_nil]
          exact .none
  | ended absent others inductionHypothesis =>
      cases count with
      | zero => exact .ended absent others
      | succ count => exact inductionHypothesis count

/-- Lines joined at the separator are the list without the separator at its end. -/
theorem AreLines.intercalate_body {lines : List (List Item)} (are : AreLines separator lines) :
    [separator].intercalate (lines.map (body separator)) = body separator lines.flatten := by
  induction are with
  | none => rfl
  | unended nonempty absent =>
      rw [List.map_singleton, List.intercalate_singleton, List.flatten_singleton]
  | @ended line rest absent others inductionHypothesis =>
      rw [List.map_cons, body_append_separator, List.flatten_cons]
      cases rest with
      | nil =>
          rw [List.map_nil, List.intercalate_singleton, List.flatten_nil, List.append_nil,
            body_append_separator]
      | cons next rest =>
          have nonempty : (next :: rest).flatten ≠ [] := by
            cases others with
            | unended nonempty absent => rwa [List.flatten_singleton]
            | ended absent others => simp
          rw [List.intercalate_cons_of_ne_nil (by simp), inductionHypothesis,
            body_append _ nonempty]

/-! ## Last lines -/

theorem last_of_length_le {count : Nat} {items : List Item}
    (few : (split separator items).length ≤ count) : last separator count items = items := by
  rw [last, List.rtake, Nat.sub_eq_zero_of_le few, List.drop_zero, flatten_split]

/-- The first item of a list with more lines is not in the last ones. -/
theorem last_cons_of_lt {count : Nat} {item : Item} {rest : List Item}
    (many : count < (split separator (item :: rest)).length) :
    last separator count (item :: rest) = last separator count rest := by
  unfold last List.rtake
  by_cases ends : item = separator
  · subst ends
    rw [split_separator, List.length_cons] at many ⊢
    rw [Nat.succ_sub (Nat.lt_succ_iff.mp many), List.drop_succ_cons]
  · cases splits : split separator rest with
    | nil =>
        rw [split_eq_nil_iff] at splits
        rw [splits, split_singleton, List.length_singleton, Nat.lt_one_iff] at many
        rw [splits, split_singleton, many]
        rfl
    | cons line lines =>
        rw [split_cons ends splits, List.length_cons] at many ⊢
        rw [List.length_cons, Nat.succ_sub (Nat.lt_succ_iff.mp many), List.drop_succ_cons,
          List.drop_succ_cons]

/-- The last lines are the longest suffix of so many lines. -/
theorem longestSuffix_last (separator : Item) (count : Nat) (items : List Item) :
    LongestSuffix (fun suffix => (split separator suffix).length ≤ count) items
      (last separator count items) := by
  induction items with
  | nil =>
      rw [last_of_length_le (Nat.zero_le count)]
      exact .self (Nat.zero_le count)
  | cons item rest inductionHypothesis =>
      by_cases few : (split separator (item :: rest)).length ≤ count
      · rw [last_of_length_le few]
        exact .self few
      · rw [last_cons_of_lt (Nat.not_le.mp few)]
        exact inductionHypothesis.cons few

theorem last_ne_nil {count : Nat} {items : List Item} (positive : 0 < count)
    (nonempty : items ≠ []) : last separator count items ≠ [] := by
  obtain ⟨front, item, rfl⟩ := (List.eq_nil_or_concat' items).resolve_left nonempty
  have one : (split separator [item]).length ≤ count := by
    rw [split_singleton]
    exact positive
  intro empty
  have within := (longestSuffix_last separator count (front ++ [item])).contains
    (List.suffix_append front [item]) one
  rw [empty, List.suffix_nil] at within
  cases within

theorem last_append {count : Nat} (front : List Item) {back : List Item}
    (counted : (split separator back).length = count) :
    last separator count (front ++ separator :: back) = back := by
  rw [last, List.rtake, split_append, List.length_append, counted, Nat.add_sub_cancel,
    List.drop_left, flatten_split]

/-- A separator before the end of a list is where its last lines begin. -/
theorem last_of_body {items front back : List Item}
    (found : body separator items = front ++ separator :: back) :
    last separator (back.count separator + 1) items = items.drop (front.length + 1) := by
  obtain ⟨ending, whole⟩ := @body_isPrefix _ _ separator items
  rw [found, List.append_assoc, List.cons_append] at whole
  have nonempty : back ++ ending ≠ [] := by
    intro empty
    rw [← whole, empty, body_append_separator] at found
    exact absurd (congrArg List.length found) (by simp)
  have back_body : body separator (back ++ ending) = back := by
    rw [← whole, body_append front (List.cons_ne_nil _ _), ← List.singleton_append,
      body_append [separator] nonempty, List.singleton_append] at found
    exact (List.cons.inj (List.append_cancel_left found)).2
  have dropped : items.drop (front.length + 1) = back ++ ending := by
    rw [← whole, ← List.drop_drop, List.drop_left, List.drop_one, List.tail_cons]
  rw [dropped, ← whole]
  exact last_append front (by rw [length_split nonempty, back_body])

/-! ## Lines of encoded lists -/

theorem split_block {block rest line : List Item} {lines : List (List Item)}
    (absent : separator ∉ block) (splits : split separator rest = line :: lines) :
    split separator (block ++ rest) = (block ++ line) :: lines := by
  induction block with
  | nil => exact splits
  | cons item block inductionHypothesis =>
      rw [List.mem_cons, not_or] at absent
      exact split_cons (Ne.symm absent.1) (inductionHypothesis absent.2)

theorem split_of_not_mem {block : List Item} (nonempty : block ≠ [])
    (absent : separator ∉ block) : split separator block = [block] := by
  induction block with
  | nil => exact absurd rfl nonempty
  | cons item block inductionHypothesis =>
      rw [List.mem_cons, not_or] at absent
      by_cases empty : block = []
      · rw [empty, split_singleton]
      · exact split_cons (Ne.symm absent.1) (inductionHypothesis empty absent.2)

/-- The lines of an encoding are the encodings of the lines, if only the separator's has one. -/
theorem split_flatMap {Code : Type} [DecidableEq Code] {code : Code} {encode : Item → List Code}
    (alone : encode separator = [code])
    (others : ∀ item, item ≠ separator → encode item ≠ [] ∧ code ∉ encode item)
    (items : List Item) :
    split code (items.flatMap encode) =
      (split separator items).map fun line => line.flatMap encode := by
  induction items with
  | nil => rfl
  | cons item rest inductionHypothesis =>
      rw [List.flatMap_cons]
      by_cases ends : item = separator
      · subst ends
        rw [alone, List.singleton_append, split_separator, split_separator, List.map_cons,
          List.flatMap_singleton, alone, inductionHypothesis]
      · obtain ⟨nonempty, absent⟩ := others item ends
        cases splits : split separator rest with
        | nil =>
            rw [split_eq_nil_iff] at splits
            rw [splits, List.flatMap_nil, List.append_nil, split_singleton, List.map_singleton,
              List.flatMap_singleton, split_of_not_mem nonempty absent]
        | cons line lines =>
            rw [splits, List.map_cons] at inductionHypothesis
            rw [split_block absent inductionHypothesis, split_cons ends splits, List.map_cons,
              List.flatMap_cons]

/-- The last lines of an encoding encode the last lines. -/
theorem last_flatMap {Code : Type} [DecidableEq Code] {code : Code} {encode : Item → List Code}
    (alone : encode separator = [code])
    (others : ∀ item, item ≠ separator → encode item ≠ [] ∧ code ∉ encode item)
    (count : Nat) (items : List Item) :
    last code count (items.flatMap encode) = (last separator count items).flatMap encode := by
  unfold last List.rtake
  rw [split_flatMap alone others, List.length_map, ← List.map_drop, ← List.flatMap_def,
    ← List.flatMap_id, List.flatMap_assoc]
  rfl

end Fungi.Lib.Lines
