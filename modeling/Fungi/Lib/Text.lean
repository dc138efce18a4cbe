import Mathlib.Data.List.DropRight
import Mathlib.Data.List.Infix

/-!
# Text

Trimming and substring replacement over the characters of a string, with the
facts that decide when either leaves a text alone.  Trimming follows Unicode's
`White_Space` property.
-/

namespace Fungi.Lib

/-- Unicode's `White_Space` characters. -/
def isWhitespace (character : Char) : Bool :=
  let code := character.toNat
  (9 ≤ code && code ≤ 13) || code = 0x20 || code = 0x85 || code = 0xA0 || code = 0x1680 ||
    (0x2000 ≤ code && code ≤ 0x200A) || code = 0x2028 || code = 0x2029 || code = 0x202F ||
    code = 0x205F || code = 0x3000

/-! ## Trimming -/

/-- Drop whitespace at both ends. -/
@[irreducible] def trim (text : String) : String :=
  String.ofList ((text.toList.dropWhile isWhitespace).rdropWhile isWhitespace)

/-- A text without the whitespace at its start. -/
@[irreducible] def trimStart (text : String) : String :=
  String.ofList (text.toList.dropWhile isWhitespace)

/-- Neither the first nor the last of the characters is whitespace. -/
structure Bare (characters : List Char) : Prop where
  first : ∀ character ∈ characters.head?, isWhitespace character = false
  last : ∀ character ∈ characters.getLast?, isWhitespace character = false

theorem trim_eq_self_iff {text : String} : trim text = text ↔ Bare text.toList := by
  rw [trim, ← String.toList_inj, String.toList_ofList]
  constructor
  · intro unchanged
    have lengths := congrArg List.length unchanged
    have kept : text.toList.dropWhile isWhitespace = text.toList := by
      apply (List.dropWhile_suffix isWhitespace).eq_of_length_le
      rw [← lengths]
      exact (List.rdropWhile_prefix isWhitespace _).length_le
    rw [kept] at unchanged
    constructor
    · intro character first
      rw [Option.mem_def, List.head?_eq_some_iff] at first
      obtain ⟨rest, shape⟩ := first
      rw [shape, List.dropWhile_cons] at kept
      split at kept
      · next blank =>
          have shorter := congrArg List.length kept
          have bound := (List.dropWhile_suffix isWhitespace (l := rest)).length_le
          simp only [List.length_cons] at shorter
          omega
      · next bare => simpa using bare
    · intro character last
      rw [Option.mem_def, List.getLast?_eq_some_iff] at last
      obtain ⟨rest, shape⟩ := last
      have bare := List.rdropWhile_eq_self_iff.mp unchanged
        (by simp [shape])
      simpa [shape] using bare
  · intro bare
    have kept : text.toList.dropWhile isWhitespace = text.toList := by
      cases shape : text.toList with
      | nil => rfl
      | cons first rest =>
          rw [List.dropWhile_cons, if_neg]
          simp [bare.first first (by simp [shape])]
    rw [kept, List.rdropWhile_eq_self_iff]
    intro nonempty
    simp [bare.last _ (List.getLast_mem_getLast? nonempty)]

theorem bare_trim (text : String) : Bare (trim text).toList := by
  rw [trim, String.toList_ofList]
  constructor
  · intro character first
    have kept := List.rdropWhile_prefix isWhitespace (text.toList.dropWhile isWhitespace)
    cases shape : (text.toList.dropWhile isWhitespace).rdropWhile isWhitespace with
    | nil => simp [shape] at first
    | cons head rest =>
        rw [shape] at first kept
        simp only [List.head?_cons, Option.mem_def, Option.some.injEq] at first
        obtain ⟨suffix, whole⟩ := kept
        have bare := List.head?_dropWhile_not isWhitespace text.toList
        rw [← whole] at bare
        simpa [first] using bare
  · intro character last
    by_cases empty : (text.toList.dropWhile isWhitespace).rdropWhile isWhitespace = []
    · simp [empty] at last
    · have bare := List.rdropWhile_last_not isWhitespace _ empty
      rw [Option.mem_def, List.getLast?_eq_some_getLast empty, Option.some.injEq] at last
      simpa [last] using bare

@[simp] theorem trim_trim (text : String) : trim (trim text) = trim text :=
  trim_eq_self_iff.mpr (bare_trim text)

/-- Whitespace behind a text without any at its ends is dropped. -/
theorem trim_append_whitespace {text space : String} (bare : Bare text.toList)
    (blank : ∀ character ∈ space.toList, isWhitespace character) : trim (text ++ space) = text := by
  have trimmed := trim_eq_self_iff.mpr bare
  rw [trim, ← String.toList_inj, String.toList_ofList] at trimmed ⊢
  rw [String.toList_append]
  cases shape : text.toList with
  | nil =>
      rw [List.nil_append, List.dropWhile_eq_nil_iff.mpr blank]
      rfl
  | cons first rest =>
      have visible : isWhitespace first = false := bare.first first (by simp [shape])
      rw [shape] at trimmed
      rw [List.cons_append, List.dropWhile_cons, if_neg (by simp [visible])]
      rw [List.dropWhile_cons, if_neg (by simp [visible])] at trimmed
      rw [← List.cons_append, List.rdropWhile, List.reverse_append,
        List.dropWhile_append_of_pos (by simpa using blank)]
      exact trimmed

theorem Bare.join {left right : List Char} (leftBare : Bare left) (rightBare : Bare right)
    (leftNonempty : left ≠ []) (rightNonempty : right ≠ []) (between : List Char) :
    Bare (left ++ between ++ right) where
  first := by
    intro character first
    apply leftBare.first character
    rwa [List.append_assoc, List.head?_append_of_ne_nil _ leftNonempty] at first
  last := by
    intro character last
    apply rightBare.last character
    rwa [List.getLast?_append_of_ne_nil _ rightNonempty] at last

/-- Texts whose beginnings differ in a character differ. -/
theorem append_ne_append {left right : String} {first second : Char} (index : Nat)
    (atLeft : left.toList[index]? = some first) (atRight : right.toList[index]? = some second)
    (different : first ≠ second) (rest rest' : String) : left ++ rest ≠ right ++ rest' := by
  intro same
  have characters := congrArg (fun text => text.toList[index]?) same
  simp only [String.toList_append] at characters
  rw [List.getElem?_append_left (List.getElem?_eq_some_iff.mp atLeft).1,
    List.getElem?_append_left (List.getElem?_eq_some_iff.mp atRight).1, atLeft,
    atRight] at characters
  exact different (Option.some.inj characters)

/-! ## Replacement -/

/-- Replace occurrences of `pattern` from left to right, after skipping `skip`
characters of an occurrence already replaced. -/
def replaceFrom (pattern replacement : List Char) : Nat → List Char → List Char
  | _, [] => []
  | skip + 1, _ :: rest => replaceFrom pattern replacement skip rest
  | 0, character :: rest =>
      if pattern.isPrefixOf (character :: rest) then
        replacement ++ replaceFrom pattern replacement (pattern.length - 1) rest
      else
        character :: replaceFrom pattern replacement 0 rest

/-- `str::replace` for a pattern that is not empty. -/
def replaceAll (pattern replacement text : List Char) : List Char :=
  replaceFrom pattern replacement 0 text

/-- At the first position where the two texts differ, the first one has `marker`
and the second one has something else. -/
inductive Lost (marker : Char) : List Char → List Char → Prop where
  | here {other : Char} {left right : List Char} :
      other ≠ marker → Lost marker (marker :: left) (other :: right)
  | there {character : Char} {left right : List Char} :
      Lost marker left right → Lost marker (character :: left) (character :: right)

namespace Lost

variable {marker : Char} {left middle right : List Char}

theorem ne (lost : Lost marker left right) : left ≠ right := by
  induction lost with
  | here different =>
      intro same
      exact different (List.cons.inj same).1.symm
  | there _ inductionHypothesis =>
      intro same
      exact inductionHypothesis (List.cons.inj same).2

theorem not_prefix (lost : Lost marker left right) : ¬ left <+: right := by
  induction lost with
  | here different =>
      intro before
      exact different (List.cons_prefix_cons.mp before).1.symm
  | there _ inductionHypothesis =>
      intro before
      exact inductionHypothesis (List.cons_prefix_cons.mp before).2

theorem trans (first : Lost marker left middle) (second : Lost marker middle right) :
    Lost marker left right := by
  induction first generalizing right with
  | here different =>
      cases second with
      | here => exact absurd rfl different
      | there => exact here different
  | there _ inductionHypothesis =>
      cases second with
      | here otherDifferent => exact here otherDifferent
      | there rest => exact there (inductionHypothesis rest)

end Lost

/-- Replacing a pattern that starts with `marker` by a text that does not either
finds no occurrence or loses a marker. -/
theorem replaceAll_cases {marker other : Char} {pattern replacement : List Char}
    (different : other ≠ marker) (text : List Char) :
    (replaceAll (marker :: pattern) (other :: replacement) text = text ∧
        ¬ (marker :: pattern) <:+: text) ∨
      Lost marker text (replaceAll (marker :: pattern) (other :: replacement) text) := by
  induction text with
  | nil => simp [replaceAll, replaceFrom]
  | cons character rest inductionHypothesis =>
      unfold replaceAll replaceFrom
      split
      · next occurrence =>
          obtain ⟨suffix, shape⟩ := List.isPrefixOf_iff_prefix.mp occurrence
          simp only [List.cons_append, List.cons.injEq] at shape
          rw [← shape.1]
          exact Or.inr (Lost.here different)
      · next absent =>
          rw [List.isPrefixOf_iff_prefix] at absent
          refine inductionHypothesis.imp ?_ Lost.there
          rintro ⟨unchanged, elsewhere⟩
          refine ⟨congrArg (character :: ·) unchanged, ?_⟩
          rw [List.infix_cons_iff]
          exact not_or.mpr ⟨absent, elsewhere⟩

/-- A text without the pattern is left alone. -/
theorem replaceAll_of_not_infix {pattern replacement text : List Char}
    (absent : ¬ pattern <:+: text) : replaceAll pattern replacement text = text := by
  induction text with
  | nil => rfl
  | cons character rest inductionHypothesis =>
      rw [List.infix_cons_iff, not_or] at absent
      rw [replaceAll, replaceFrom, if_neg (by simpa using absent.1)]
      exact congrArg (character :: ·) (inductionHypothesis absent.2)

/-- The first character survives when no occurrence starts there. -/
theorem head?_replaceAll {marker character : Char} {pattern replacement rest : List Char}
    (different : character ≠ marker) :
    (replaceAll (marker :: pattern) replacement (character :: rest)).head? =
      some character := by
  rw [replaceAll, replaceFrom, if_neg]
  · rfl
  · simp [List.isPrefixOf, different.symm]

/-! ## Splitting -/

/-- `str::split_once` at a character. -/
def splitOnce (separator : Char) (text : String) : Option (String × String) :=
  match text.toList.dropWhile (· ≠ separator) with
  | [] => none
  | _ :: tail =>
      some (String.ofList (text.toList.takeWhile (· ≠ separator)), String.ofList tail)

theorem splitOnce_eq_none {separator : Char} {text : String} :
    splitOnce separator text = none ↔ separator ∉ text.toList := by
  unfold splitOnce
  cases rest : text.toList.dropWhile (· ≠ separator) with
  | nil =>
      rw [List.dropWhile_eq_nil_iff] at rest
      refine iff_of_true rfl fun member => ?_
      simpa using rest separator member
  | cons first tail =>
      refine iff_of_false nofun fun absent => ?_
      have all : text.toList.dropWhile (· ≠ separator) = [] := by
        rw [List.dropWhile_eq_nil_iff]
        intro character member
        exact decide_eq_true fun same => absent (same ▸ member)
      rw [all] at rest
      cases rest

/-- The head ends before the first separator. -/
theorem splitOnce_eq_some {separator : Char} {text head tail : String} :
    splitOnce separator text = some (head, tail) ↔
      text.toList = head.toList ++ separator :: tail.toList ∧ separator ∉ head.toList := by
  unfold splitOnce
  constructor
  · intro split
    cases rest : text.toList.dropWhile (· ≠ separator) with
    | nil =>
        rw [rest] at split
        cases split
    | cons first after =>
        simp only [rest, Option.some.injEq, Prod.mk.injEq] at split
        obtain ⟨rfl, rfl⟩ := split
        have stops := List.head?_dropWhile_not (· ≠ separator) text.toList
        have whole := List.takeWhile_append_dropWhile (p := (· ≠ separator)) (l := text.toList)
        rw [rest] at stops whole
        have isSeparator : first = separator := by simpa using stops
        subst isSeparator
        constructor
        · simpa using whole.symm
        · intro member
          rw [String.toList_ofList] at member
          simpa using List.mem_takeWhile_imp member
  · rintro ⟨shape, absent⟩
    have passes : ∀ character ∈ head.toList, decide (character ≠ separator) = true :=
      fun character member => decide_eq_true fun same => absent (same ▸ member)
    rw [shape, List.dropWhile_append_of_pos passes, List.takeWhile_append_of_pos passes]
    simp

/-- A text before the first separator goes to the head. -/
theorem splitOnce_append {separator : Char} {front : String} (absent : separator ∉ front.toList)
    (rest : String) :
    splitOnce separator (front ++ rest) =
      (splitOnce separator rest).map fun parts => (front ++ parts.1, parts.2) := by
  cases split : splitOnce separator rest with
  | none =>
      rw [splitOnce_eq_none] at split
      rw [Option.map_none, splitOnce_eq_none, String.toList_append, List.mem_append]
      exact not_or.mpr ⟨absent, split⟩
  | some parts =>
      obtain ⟨shape, absentLater⟩ := splitOnce_eq_some.mp split
      rw [Option.map_some, splitOnce_eq_some]
      simp [shape, absent, absentLater]

/-- A separator in the head splits the text before the head ends. -/
theorem splitOnce_of_mem {separator : Char} {head : String} (present : separator ∈ head.toList)
    (rest : String) :
    ∃ front tail, splitOnce separator (head ++ rest) = some (front, tail ++ rest) ∧
      front.length < head.length := by
  obtain ⟨front, tail, shape, absent⟩ := List.eq_append_cons_of_mem present
  refine ⟨String.ofList front, String.ofList tail, ?_, ?_⟩
  · rw [splitOnce_eq_some]
    simp [shape, absent]
  · rw [← String.length_toList, ← String.length_toList, shape]
    simp

/-- Split at the first occurrence of a text that is not empty. -/
def splitAtFirst (separator : List Char) : List Char → Option (List Char × List Char)
  | [] => none
  | character :: rest =>
      if separator.isPrefixOf (character :: rest) then
        some ([], (character :: rest).drop separator.length)
      else (splitAtFirst separator rest).map fun parts => (character :: parts.1, parts.2)

theorem splitAtFirst_eq_none {separator text : List Char} (nonempty : separator ≠ []) :
    splitAtFirst separator text = none ↔ ¬ separator <:+: text := by
  induction text with
  | nil => simp [splitAtFirst, nonempty]
  | cons character rest inductionHypothesis =>
      rw [splitAtFirst, List.infix_cons_iff, not_or, ← inductionHypothesis]
      by_cases here : separator <+: character :: rest
      · simp [here]
      · simp [here]

theorem splitAtFirst_eq_some {separator text head tail : List Char}
    (split : splitAtFirst separator text = some (head, tail)) :
    text = head ++ (separator ++ tail) := by
  induction text generalizing head tail with
  | nil => cases split
  | cons character rest inductionHypothesis =>
      rw [splitAtFirst] at split
      split at split
      · next here =>
          cases split
          exact (List.prefix_iff_eq_append.mp (List.isPrefixOf_iff_prefix.mp here)).symm
      · obtain ⟨parts, found, same⟩ := Option.map_eq_some_iff.mp split
        cases same
        exact congrArg (character :: ·) (inductionHypothesis found)

/-- A doubled character occurs in front of one more of it where it occurs already, or where the
text ends in it. -/
theorem doubled_infix_snoc {marker : Char} {text : List Char} :
    [marker, marker] <:+: text ++ [marker] ↔
      [marker, marker] <:+: text ∨ text.getLast? = some marker := by
  rw [List.infix_concat_iff, or_comm]
  apply or_congr_right
  rw [List.getLast?_eq_some_iff]
  constructor
  · rintro ⟨front, joined⟩
    have same : text ++ [marker] = front ++ [marker] ++ [marker] := by
      rw [← joined, List.append_assoc]
      rfl
    exact ⟨front, List.append_cancel_right same⟩
  · rintro ⟨front, rfl⟩
    exact ⟨front, by simp⟩

/-- A text is split where it was joined unless the separator occurs earlier. -/
theorem splitAtFirst_joined {marker : Char} {head tail : List Char} :
    splitAtFirst [marker, marker] (head ++ ([marker, marker] ++ tail)) = some (head, tail) ↔
      ¬ [marker, marker] <:+: head ++ [marker] := by
  induction head with
  | nil => simp [splitAtFirst, List.infix_cons_iff]
  | cons character rest inductionHypothesis =>
      have here : [marker, marker] <+: character :: (rest ++ ([marker, marker] ++ tail)) ↔
          [marker, marker] <+: character :: (rest ++ [marker]) := by
        cases rest with
        | nil => simp
        | cons next rest => simp
      show splitAtFirst _ (character :: (rest ++ ([marker, marker] ++ tail))) = _ ↔
        ¬ [marker, marker] <:+: character :: (rest ++ [marker])
      rw [splitAtFirst, List.infix_cons_iff, not_or, ← inductionHypothesis, ← here]
      split
      · next early =>
          rw [List.isPrefixOf_iff_prefix] at early
          exact iff_of_false (by simp) fun both => both.1 early
      · next late =>
          rw [List.isPrefixOf_iff_prefix] at late
          simp only [Option.map_eq_some_iff, Prod.mk.injEq, List.cons.injEq, true_and, late,
            not_false_eq_true]
          constructor
          · rintro ⟨parts, found, rfl, rfl⟩
            exact found
          · intro found
            exact ⟨_, found, rfl, rfl⟩

/-! ## ASCII -/

/-- A text with its ASCII letters in lowercase. -/
def toAsciiLowercase (text : String) : String := String.ofList (text.toList.map Char.toLower)

/-- Lowering ASCII letters makes no character ASCII. -/
theorem ascii_of_toAsciiLowercase {text : String}
    (ascii : (toAsciiLowercase text).toList.all (·.toNat < 128)) :
    text.toList.all (·.toNat < 128) := by
  have each : ∀ character : Char, character.toLower.toNat < 128 → character.toNat < 128 := by
    intro character lowered
    unfold Char.toLower at lowered
    split at lowered
    · next upper =>
        have bound : character.val ≤ 'Z'.val := upper.2
        exact Nat.lt_of_le_of_lt (UInt32.le_iff_toNat_le.mp bound) (by decide)
    · exact lowered
  simp only [toAsciiLowercase, String.toList_ofList, List.all_map, List.all_eq_true,
    Function.comp_apply, decide_eq_true_eq] at ascii ⊢
  exact fun character member => each character (ascii character member)

/-! ## Numerals -/

/-- No two numbers print alike. -/
theorem toString_nat_injective : Function.Injective (toString : Nat → String) := by
  intro left right same
  rw [Nat.toString_eq_repr, Nat.toString_eq_repr] at same
  have digits : Nat.toDigits 10 left = Nat.toDigits 10 right := by
    rw [← Nat.toList_repr, ← Nat.toList_repr, same]
  rw [← Nat.ofDigitChars_toDigits (by decide : 1 < 10) (by decide) (n := left), digits]
  exact Nat.ofDigitChars_toDigits (by decide) (by decide)

theorem isDigit_of_mem_toString {number : Nat} {character : Char}
    (member : character ∈ (toString number).toList) : character.isDigit := by
  rw [Nat.toString_eq_repr, Nat.repr_eq_ofList_toDigits, String.toList_ofList] at member
  exact Nat.isDigit_of_mem_toDigits (by decide) (by decide) member

theorem isWhitespace_of_isDigit {character : Char} (digit : character.isDigit) :
    isWhitespace character = false := by
  delta Char.isDigit at digit
  rw [Bool.and_eq_true, decide_eq_true_eq, decide_eq_true_eq, ge_iff_le,
    UInt32.le_iff_toNat_le, UInt32.le_iff_toNat_le] at digit
  have lower : 48 ≤ character.toNat := digit.1
  have upper : character.toNat ≤ 57 := digit.2
  simp only [isWhitespace, Bool.or_eq_false_iff, Bool.and_eq_false_iff, decide_eq_false_iff_not]
  omega

theorem bare_toString_nat (number : Nat) : Bare (toString number).toList where
  first _ first :=
    isWhitespace_of_isDigit (isDigit_of_mem_toString (List.mem_of_mem_head? first))
  last _ last :=
    isWhitespace_of_isDigit (isDigit_of_mem_toString (List.mem_of_getLast? last))

theorem toString_nat_ne_nil (number : Nat) : (toString number).toList ≠ [] := by
  rw [Nat.toString_eq_repr, Nat.repr_eq_ofList_toDigits, String.toList_ofList]
  exact Nat.toDigits_ne_nil

end Fungi.Lib
