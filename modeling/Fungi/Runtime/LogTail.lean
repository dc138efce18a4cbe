import Fungi.Daemon.LogResponses
import Fungi.Lib.Lines
import Fungi.Lib.Utf8

/-!
# The end of a log

`read_tail_text_bounded`, which reads the last lines of a log file within a budget of bytes, and
`tail_lines`, which takes them from the whole text.
-/

namespace Fungi.Runtime

open Fungi.Lib Fungi.Daemon.ServiceRuns

/-! ## Limited texts -/

/-- The end of a text that fits into the limit, from a character boundary on. -/
def limitTextBytesFromEnd (text : String) (maxBytes : Nat) : BoundedLogText :=
  if text.utf8ByteSize ≤ maxBytes then { text := text, truncated := false }
  else if maxBytes = 0 then { text := "", truncated := !text.isEmpty }
  else
    let start := text.utf8ByteSize - maxBytes
    { text := .ofList (dropBytes start text.toList), truncated := true }

/-! ## Reading from the end -/

/-- The bytes of a log file, whose length the file system counts in 64 bits. -/
structure LogFile where
  bytes : List UInt8
  length_lt : bytes.length < UInt64.size

/-- The byte that ends a line. -/
def newline : UInt8 := 10

/-- `raw.ends_with(b"\n")` taken off the length. -/
def scanEnd (raw : List UInt8) : Nat :=
  raw.length - if raw.getLast? = some newline then 1 else 0

/-- The newlines before an index, from the last one on: the lines that remain to be found, and where
the selected ones start. -/
def scanNewlines (raw : List UInt8) : (index remainingLines selectedStart : Nat) → Nat × Nat
  | 0, remainingLines, selectedStart => (remainingLines, selectedStart)
  | index + 1, remainingLines, selectedStart =>
      if raw[index]? = some newline then
        if remainingLines - 1 = 0 then (0, index + 1)
        else scanNewlines raw index (remainingLines - 1) selectedStart
      else scanNewlines raw index remainingLines selectedStart

/-- The last lines of a file, from as many bytes as the limit allows. -/
def readTailTextBounded (file : LogFile) (tail maxBytes : UInt64) : BoundedLogText :=
  let fileLen := file.bytes.length
  if fileLen = 0 ∨ tail = 0 ∨ maxBytes = 0 then { text := "", truncated := 0 < fileLen }
  else
    -- the addition saturates
    let readBudget := min (maxBytes.toNat + 1) (UInt64.size - 1)
    let readLen := min fileLen readBudget
    let raw := file.bytes.drop (fileLen - readLen)
    let (remainingLines, selectedStart) :=
      scanNewlines raw (scanEnd raw) tail.toNat (raw.length - maxBytes.toNat)
    let sourceExceededBudget := maxBytes.toNat < fileLen
    let incompleteRequestedLines := sourceExceededBudget ∧ 0 < remainingLines
    let text := Utf8.decodeLossy (raw.drop selectedStart)
    let bounded := limitTextBytesFromEnd (.ofList text) maxBytes.toNat
    { bounded with truncated := bounded.truncated || incompleteRequestedLines }

/-! ## Lines of the whole text -/

/-- `str::parse::<usize>`. -/
def parseUsize (text : String) : Option UInt64 :=
  let digits := if text.toList.head? = some '+' then text.toList.tail else text.toList
  if digits = [] ∨ digits.any (!·.isDigit) then none
  else
    let value := digits.foldl (fun value digit => value * 10 + (digit.toNat - '0'.toNat)) 0
    if value < UInt64.size then some (.ofNat value) else none

/-- The last lines of a text; a count that does not parse stands for all of them. -/
def tailLines (text : String) : Option String → String
  | none => text
  | some tail =>
      match parseUsize tail with
      | none => text
      | some count =>
          let lines := textLines text
          let start := lines.length - count.toNat
          let output := "\n".intercalate (lines.drop start)
          if text.toList.getLast? = some '\n' ∧ output ≠ "" then output ++ "\n" else output

example : tailLines "one\ntwo\n\nthree\n" (some "+2") = "\nthree\n" := by decide

/-! ## The scan -/

/-- The scan finds the newline that so many lines follow, or too few newlines. -/
theorem scanNewlines_cases (front back : List UInt8) {remaining : Nat} (start : Nat)
    (positive : 0 < remaining) :
    (∃ before after, front = before ++ newline :: after ∧ after.count newline + 1 = remaining ∧
      scanNewlines (front ++ back) front.length remaining start = (0, before.length + 1)) ∨
    (front.count newline < remaining ∧
      scanNewlines (front ++ back) front.length remaining start =
        (remaining - front.count newline, start)) := by
  induction front using List.reverseRecOn generalizing back remaining with
  | nil => exact Or.inr ⟨positive, rfl⟩
  | append_singleton front byte inductionHypothesis =>
      have found : (front ++ [byte] ++ back)[front.length]? = some byte := by
        rw [List.append_assoc, List.getElem?_append_right (Nat.le_refl _), Nat.sub_self]
        rfl
      rw [List.length_append, List.length_singleton, scanNewlines, found, List.append_assoc,
        List.count_append]
      by_cases ends : byte = newline
      · subst ends
        rw [if_pos rfl, List.count_singleton_self]
        by_cases last : remaining - 1 = 0
        · rw [if_pos last]
          exact Or.inl ⟨front, [], rfl, by rw [List.count_nil]; omega, rfl⟩
        · rw [if_neg last]
          rcases inductionHypothesis ([newline] ++ back) (Nat.pos_of_ne_zero last) with
            ⟨before, after, isFront, counted, scanned⟩ | ⟨few, scanned⟩
          · refine Or.inl ⟨before, after ++ [newline], ?_, ?_, scanned⟩
            · rw [isFront, List.append_assoc, List.cons_append]
            · rw [List.count_append, List.count_singleton_self]
              omega
          · refine Or.inr ⟨by omega, ?_⟩
            rw [scanned, Nat.sub_sub, Nat.add_comm 1]
      · have absent : [byte].count newline = 0 := by
          rw [List.count_eq_zero, List.mem_singleton]
          exact Ne.symm ends
        rw [if_neg (fun same => ends (Option.some_inj.mp same)), absent, Nat.add_zero]
        rcases inductionHypothesis ([byte] ++ back) positive with
          ⟨before, after, isFront, counted, scanned⟩ | ⟨few, scanned⟩
        · refine Or.inl ⟨before, after ++ [byte], ?_, ?_, scanned⟩
          · rw [isFront, List.append_assoc, List.cons_append]
          · rw [List.count_append, absent]
            exact counted
        · exact Or.inr ⟨few, scanned⟩

theorem scanEnd_eq (raw : List UInt8) : scanEnd raw = (Lines.body newline raw).length := by
  unfold scanEnd Lines.body
  split
  · rw [List.length_dropLast]
  · rfl

/-- Of the bytes read, the scan selects the last lines, or it reaches their start. -/
theorem scanNewlines_scanEnd (raw : List UInt8) {remaining : Nat} (start : Nat)
    (positive : 0 < remaining) :
    (∃ before after, Lines.body newline raw = before ++ newline :: after ∧
      after.count newline + 1 = remaining ∧
      scanNewlines raw (scanEnd raw) remaining start = (0, before.length + 1)) ∨
    ((Lines.body newline raw).count newline < remaining ∧
      scanNewlines raw (scanEnd raw) remaining start =
        (remaining - (Lines.body newline raw).count newline, start)) := by
  obtain ⟨ending, whole⟩ := @Lines.body_isPrefix _ _ newline raw
  have scanned := scanNewlines_cases (Lines.body newline raw) ending start positive
  rwa [whole, ← scanEnd_eq] at scanned

/-- Bytes read from the end of a file: the scan selects the last lines, or they reach back before
these bytes. -/
theorem scanNewlines_selects {bytes raw : List UInt8} {remaining : Nat} (start : Nat)
    (positive : 0 < remaining) (isSuffix : raw <:+ bytes) (nonempty : raw ≠ []) :
    ∃ remainingLines selectedStart,
      scanNewlines raw (scanEnd raw) remaining start = (remainingLines, selectedStart) ∧
      (remainingLines = 0 ∧ raw.drop selectedStart = Lines.last newline remaining bytes ∨
        0 < remainingLines ∧ selectedStart = start ∧
          raw <:+ Lines.last newline remaining bytes) := by
  rcases scanNewlines_scanEnd raw start positive with
    ⟨before, after, found, counted, scanned⟩ | ⟨few, scanned⟩
  · refine ⟨_, _, scanned, Or.inl ⟨rfl, ?_⟩⟩
    obtain ⟨front, rfl⟩ := isSuffix
    have foundInFile :
        Lines.body newline (front ++ raw) = (front ++ before) ++ newline :: after := by
      rw [Lines.body_append front nonempty, found, List.append_assoc]
    rw [← counted, Lines.last_of_body foundInFile, List.length_append, Nat.add_assoc,
      List.drop_append]
    simp
  · refine ⟨_, _, scanned, Or.inr ⟨Nat.sub_pos_of_lt few, rfl, ?_⟩⟩
    refine (Lines.longestSuffix_last newline remaining bytes).contains isSuffix ?_
    rw [Lines.length_split nonempty]
    exact few

/-- A file read as a whole is scanned to the start of the last lines. -/
theorem drop_scanNewlines {bytes : List UInt8} {remaining remainingLines selectedStart : Nat}
    (positive : 0 < remaining) (nonempty : bytes ≠ [])
    (scanned : scanNewlines bytes (scanEnd bytes) remaining 0 = (remainingLines, selectedStart)) :
    bytes.drop selectedStart = Lines.last newline remaining bytes := by
  obtain ⟨_, _, isScanned, selected⟩ :=
    scanNewlines_selects 0 positive List.suffix_rfl nonempty
  rw [scanned] at isScanned
  cases isScanned
  rcases selected with ⟨-, selects⟩ | ⟨-, rfl, within⟩
  · exact selects
  · have contained := (Lines.longestSuffix_last newline remaining bytes).isSuffix
    exact within.eq_of_length_le contained.length_le

/-! ## What is read -/

/-- The bytes read are the end of the file, and all of it if that fits. -/
theorem exists_raw (file : LogFile) (maxBytes : UInt64) :
    let fileLen := file.bytes.length
    let readLen := min fileLen (min (maxBytes.toNat + 1) (UInt64.size - 1))
    let raw := file.bytes.drop (fileLen - readLen)
    raw <:+ file.bytes ∧ (0 < fileLen → raw ≠ []) ∧
      (fileLen ≤ maxBytes.toNat → raw = file.bytes) := by
  have fits := file.length_lt
  have size : UInt64.size = 18446744073709551616 := rfl
  dsimp only
  refine ⟨List.drop_suffix _ _, fun nonempty empty => ?_, fun small => ?_⟩
  · rw [List.drop_eq_nil_iff] at empty
    omega
  · rw [Nat.sub_eq_zero_of_le (by omega), List.drop_zero]

/-- A limited text is the end of the text, and all of it if that is not truncated. -/
theorem limitTextBytesFromEnd_spec (text : List Char) (maxBytes : Nat) :
    (limitTextBytesFromEnd (.ofList text) maxBytes).text.utf8ByteSize ≤ maxBytes ∧
    (limitTextBytesFromEnd (.ofList text) maxBytes).text.toList <:+ text ∧
    ((limitTextBytesFromEnd (.ofList text) maxBytes).truncated = false →
      (limitTextBytesFromEnd (.ofList text) maxBytes).text.toList = text) := by
  unfold limitTextBytesFromEnd
  dsimp only
  split
  · next small => exact ⟨small, by rw [String.toList_ofList], fun _ => String.toList_ofList⟩
  · next large =>
      split
      · next none =>
          refine ⟨Nat.zero_le _, List.nil_suffix, fun whole => ?_⟩
          rw [Bool.not_eq_false', String.isEmpty_iff, ← String.toList_inj,
            String.toList_ofList] at whole
          exact whole.symm
      · rw [Json.utf8ByteSize_ofList, String.toList_ofList, String.toList_ofList]
        have longest := longestSuffix_dropBytes text maxBytes
        rw [Json.utf8ByteSize_ofList]
        refine ⟨longest.held, longest.isSuffix, fun whole => ?_⟩
        cases whole

theorem limitTextBytesFromEnd_of_le {text : String} {maxBytes : Nat}
    (small : text.utf8ByteSize ≤ maxBytes) :
    limitTextBytesFromEnd text maxBytes = { text := text, truncated := false } := if_pos small

/-- What a bounded read may return: a text within the limit, which is that of the last lines or the
end of them. -/
structure TailOf (bytes : List UInt8) (count limit : Nat) (logs : BoundedLogText) : Prop where
  bounded : logs.text.utf8ByteSize ≤ limit
  whole : logs.truncated = false →
    logs.text.toList = Utf8.decodeLossy (Lines.last newline (min count
      (Lines.split newline bytes).length) bytes)
  shortened : logs.truncated = true → ∃ suffix,
    suffix <:+ Lines.last newline (min count (Lines.split newline bytes).length) bytes ∧
      logs.text.toList <:+ Utf8.decodeLossy suffix

theorem last_min (bytes : List UInt8) (count : Nat) :
    Lines.last newline (min count (Lines.split newline bytes).length) bytes =
      Lines.last newline count bytes := by
  rcases Nat.le_total count (Lines.split newline bytes).length with few | many
  · rw [Nat.min_eq_left few]
  · rw [Nat.min_eq_right many, Lines.last_of_length_le (Nat.le_refl _),
      Lines.last_of_length_le many]

/-- Every bounded read of a log is safe, whatever the bytes are. -/
theorem readTailTextBounded_safe (file : LogFile) {tail : UInt64} (maxBytes : UInt64)
    (positive : 0 < tail) :
    TailOf file.bytes tail.toNat maxBytes.toNat (readTailTextBounded file tail maxBytes) := by
  have tailPositive : 0 < tail.toNat := UInt64.lt_iff_toNat_lt.mp positive
  unfold readTailTextBounded
  dsimp only
  split
  · next nothing =>
      refine ⟨Nat.zero_le _, fun whole => ?_, fun _ => ⟨[], List.nil_suffix, List.nil_suffix⟩⟩
      rw [decide_eq_false_iff_not, Nat.not_lt, Nat.le_zero, List.length_eq_zero_iff] at whole
      rw [whole, last_min, Lines.last_of_length_le (Nat.zero_le _)]
      rfl
  · next something =>
      rw [not_or, not_or] at something
      obtain ⟨isSuffix, nonempty, allRead⟩ := exists_raw file maxBytes
      generalize file.bytes.drop _ = raw at isSuffix nonempty allRead ⊢
      obtain ⟨remaining, start, scanned, selected⟩ := scanNewlines_selects
        (raw.length - maxBytes.toNat) tailPositive isSuffix
        (nonempty (Nat.pos_of_ne_zero something.1))
      rw [scanned]
      dsimp only
      obtain ⟨bounded, ending, whole⟩ :=
        limitTextBytesFromEnd_spec (Utf8.decodeLossy (raw.drop start)) maxBytes.toNat
      refine ⟨bounded, fun unshortened => ?_, fun _ => ⟨raw.drop start, ?_, ending⟩⟩
      · rw [Bool.or_eq_false_iff, decide_eq_false_iff_not] at unshortened
        rw [whole unshortened.1, last_min]
        rcases selected with ⟨-, selects⟩ | ⟨incomplete, -⟩
        · rw [selects]
        · -- the file is no longer than the limit, so that all of it was read
          have small : file.bytes.length ≤ maxBytes.toNat := by
            by_contra exceeded
            exact unshortened.2 ⟨Nat.not_le.mp exceeded, incomplete⟩
          rw [allRead small, Nat.sub_eq_zero_of_le small] at scanned
          rw [allRead small, drop_scanNewlines tailPositive
            (List.ne_nil_of_length_pos (Nat.pos_of_ne_zero something.1)) scanned]
      · rw [last_min]
        rcases selected with ⟨-, selects⟩ | ⟨-, -, within⟩
        · rw [selects]
        · exact (List.drop_suffix start raw).trans within

theorem readTailTextBounded_safe_invalid :
    let file : LogFile :=
      { bytes := [0x78, 0x78, 0x78, 0x0a, 0xff, 0x74, 0x0a], length_lt := by decide }
    (readTailTextBounded file 1 5).text.toList = [Utf8.replacementCharacter, 't', '\n'] ∧
      TailOf file.bytes 1 5 (readTailTextBounded file 1 5) := by
  have positive : (0 : UInt64) < 1 := by decide
  exact ⟨by decide, readTailTextBounded_safe _ 5 positive⟩

/-! ## Lines of a text -/

theorem withoutLineEnd_eq {line : List Char} (noReturns : '\r' ∉ line) :
    withoutLineEnd line = Lines.body '\n' line := by
  unfold withoutLineEnd Lines.body
  split
  · exact if_neg fun ends => noReturns (List.mem_of_mem_dropLast (List.mem_of_getLast? ends))
  · rfl

/-- The lines that are joined are the last ones, without their last newline. -/
theorem joined_lines {text : String} (noReturns : '\r' ∉ text.toList) (count : Nat) :
    ("\n".intercalate ((textLines text).drop ((textLines text).length - count))).toList =
      Lines.body '\n' (Lines.last '\n' count text.toList) := by
  have are := (@Lines.areLines_split _ _ '\n' text.toList).drop
    ((Lines.split '\n' text.toList).length - count)
  have bodies : (Lines.split '\n' text.toList).map withoutLineEnd =
      (Lines.split '\n' text.toList).map (Lines.body '\n') := by
    apply List.map_congr_left
    intro line member
    apply withoutLineEnd_eq
    intro inLine
    rw [← @Lines.flatten_split _ _ '\n' text.toList] at noReturns
    exact noReturns (List.mem_flatten_of_mem member inLine)
  rw [Lines.last, List.rtake, ← are.intercalate_body, List.map_drop, ← bodies,
    String.toList_intercalate]
  unfold textLines
  rw [splitInclusive_eq, List.length_map, List.map_drop, List.map_map]
  have texts : (String.toList ∘ fun line => String.ofList (withoutLineEnd line)) =
      withoutLineEnd := by
    funext line
    exact String.toList_ofList
  rw [texts]
  rfl

/-- The text of so many last lines is that of the lines, unless they are one blank line. -/
theorem tailLines_eq {text tail : String} {count : UInt64} (noReturns : '\r' ∉ text.toList)
    (parsed : parseUsize tail = some count) (positive : 0 < count.toNat) :
    (tailLines text (some tail)).toList =
      if Lines.last '\n' count.toNat text.toList = ['\n'] then []
      else Lines.last '\n' count.toNat text.toList := by
  have joined := joined_lines noReturns count.toNat
  have sameEnd : text.toList.getLast? =
      (Lines.last '\n' count.toNat text.toList).getLast? := by
    by_cases empty : text.toList = []
    · rw [empty, Lines.last_of_length_le (Nat.zero_le _)]
    · obtain ⟨front, whole⟩ :=
        (Lines.longestSuffix_last '\n' count.toNat text.toList).isSuffix
      rw [← List.getLast?_append_of_ne_nil front (Lines.last_ne_nil positive empty), whole]
  unfold tailLines
  dsimp only
  rw [parsed, sameEnd]
  dsimp only
  generalize "\n".intercalate _ = output at joined ⊢
  generalize Lines.last '\n' count.toNat text.toList = selected at joined ⊢
  by_cases ends : selected.getLast? = some '\n'
  · have whole := Lines.body_of_ended ends
    rw [← joined] at whole
    by_cases blank : output = ""
    · rw [blank, String.toList_empty, List.nil_append] at whole
      rw [if_neg (fun both => both.2 blank), if_pos whole.symm, blank, String.toList_empty]
    · have notBlank : selected ≠ ['\n'] := by
        rintro rfl
        exact blank (String.toList_inj.mp (List.append_cancel_right whole))
      rw [if_pos ⟨ends, blank⟩, if_neg notBlank, String.toList_append]
      exact whole
  · have notBlank : selected ≠ ['\n'] := by
      rintro rfl
      exact ends rfl
    rw [if_neg (fun both => ends both.1), if_neg notBlank, joined, Lines.body, if_neg ends]

/-- The lines asked for are one line without a character. -/
def AsksForBlankLine (text : List Char) (count : Nat) : Prop :=
  text = ['\n'] ∨ count = 1 ∧ ['\n', '\n'] <:+ text

theorem last_eq_blank_iff {text : List Char} {count : Nat} (positive : 0 < count) :
    Lines.last '\n' count text = ['\n'] ↔ AsksForBlankLine text count := by
  have longest := Lines.longestSuffix_last '\n' count text
  constructor
  · intro blank
    rw [blank] at longest
    obtain ⟨front, rfl⟩ := longest.isSuffix
    rcases List.eq_nil_or_concat' front with rfl | ⟨front, character, rfl⟩
    · exact Or.inl rfl
    · have longer : [character, '\n'] <:+ front ++ [character] ++ ['\n'] := by simp
      have more : ¬ (Lines.split '\n' [character, '\n']).length ≤ count := by
        intro few
        have within := longest.longest _ longer few
        exact absurd within (by simp)
      by_cases ends : character = '\n'
      · subst ends
        have two : (Lines.split '\n' ['\n', '\n']).length = 2 := rfl
        exact Or.inr ⟨by omega, longer⟩
      · rw [Lines.split_cons ends (Lines.split_separator [])] at more
        exact absurd positive more
  · rintro (rfl | ⟨rfl, front, rfl⟩)
    · exact Lines.last_of_length_le positive
    · exact Lines.last_append front rfl

/-! ## The two readings -/

/-- The last lines of the bytes of a text are the bytes of its last lines. -/
theorem last_encode (count : Nat) (text : List Char) :
    Lines.last newline count (Utf8.encode text) = Utf8.encode (Lines.last '\n' count text) := by
  have others (character : Char) (other : character ≠ '\n') :
      String.utf8EncodeChar character ≠ [] ∧ newline ∉ String.utf8EncodeChar character :=
    ⟨String.utf8EncodeChar_ne_nil, Utf8.not_mem_encodeChar (by decide) other⟩
  have alone : String.utf8EncodeChar '\n' = [newline] := rfl
  exact Lines.last_flatMap alone others count text

/-- A text that fits is read to the last lines. -/
theorem readTailTextBounded_of_fits {file : LogFile} {text : List Char} {tail maxBytes : UInt64}
    (contents : file.bytes = Utf8.encode text) (fits : file.bytes.length ≤ maxBytes.toNat)
    (positive : 0 < tail) :
    readTailTextBounded file tail maxBytes =
      { text := .ofList (Lines.last '\n' tail.toNat text), truncated := false } := by
  have tailPositive : 0 < tail.toNat := UInt64.lt_iff_toNat_lt.mp positive
  have size := fits
  rw [contents, Utf8.length_encode] at size
  by_cases empty : file.bytes.length = 0
  · have noText : text = [] := by
      rwa [contents, List.length_eq_zero_iff, Utf8.encode_eq_nil_iff] at empty
    unfold readTailTextBounded
    dsimp only
    rw [if_pos (Or.inl empty), empty, noText, Lines.last_of_length_le (Nat.zero_le _)]
    rfl
  · have something : ¬ (file.bytes.length = 0 ∨ tail = 0 ∨ maxBytes = 0) := by
      rintro (none | rfl | rfl)
      · exact empty none
      · exact absurd tailPositive (Nat.lt_irrefl 0)
      · exact empty (Nat.le_zero.mp fits)
    obtain ⟨-, -, allRead⟩ := exists_raw file maxBytes
    unfold readTailTextBounded
    dsimp only
    rw [if_neg something, allRead fits, Nat.sub_eq_zero_of_le fits]
    cases scanned : scanNewlines file.bytes (scanEnd file.bytes) tail.toNat 0 with
    | mk remaining start =>
        have selects := drop_scanNewlines tailPositive (List.ne_nil_of_length_pos
          (Nat.pos_of_ne_zero empty)) scanned
        have shorter : (String.ofList (Lines.last '\n' tail.toNat text)).utf8ByteSize ≤
            maxBytes.toNat := by
          rw [Json.utf8ByteSize_ofList]
          exact (Json.weigh_le_of_suffix _
            (Lines.longestSuffix_last '\n' tail.toNat text).isSuffix).trans size
        dsimp only
        rw [selects, contents, last_encode, Utf8.decodeLossy_encode,
          limitTextBytesFromEnd_of_le shorter, Utf8.length_encode,
          decide_eq_false fun exceeded => Nat.not_lt.mpr size exceeded.1]
        rfl

/-- Every requested line count and every content that fits: the bounded reading is the plain one
exactly if the lines asked for are not one blank line. -/
theorem bounded_tail_eq_plain_iff {file : LogFile} {text tail : String} {count maxBytes : UInt64}
    (contents : file.bytes = Utf8.encode text.toList) (noReturns : '\r' ∉ text.toList)
    (fits : file.bytes.length ≤ maxBytes.toNat) (parsed : parseUsize tail = some count)
    (positive : 0 < count) :
    readTailTextBounded file count maxBytes =
        { text := tailLines text (some tail), truncated := false } ↔
      ¬ AsksForBlankLine text.toList count.toNat := by
  have countPositive : 0 < count.toNat := UInt64.lt_iff_toNat_lt.mp positive
  have plain := tailLines_eq noReturns parsed countPositive
  rw [readTailTextBounded_of_fits contents fits positive, ← last_eq_blank_iff countPositive,
    BoundedLogText.mk.injEq, and_iff_left rfl, ← String.toList_inj, plain, String.toList_ofList]
  split
  · next blank =>
      rw [blank]
      exact iff_of_false (List.cons_ne_nil _ _) (fun other => other rfl)
  · next other => exact iff_of_true rfl other

theorem bounded_tail_eq_plain_iff_two_lines :
    let file : LogFile :=
      { bytes := Utf8.encode "one\ntwo\n".toList, length_lt := by decide }
    tailLines "one\ntwo\n" (some "1") = "two\n" ∧
      readTailTextBounded file 1 64 =
        { text := tailLines "one\ntwo\n" (some "1"), truncated := false } := by
  have positive : (0 : UInt64) < 1 := by decide
  have other : ¬ AsksForBlankLine "one\ntwo\n".toList 1 := by
    rintro (blank | ⟨-, blank⟩)
    · exact absurd blank (by decide)
    · exact absurd (List.isSuffixOf_iff_suffix.mpr blank) (by decide)
  exact ⟨by decide, (bounded_tail_eq_plain_iff rfl (by decide) (by decide) (by decide)
    positive).mpr other⟩

/-- A log that ends in a blank line. -/
def blankLineLog : LogFile where
  bytes := Utf8.encode "ready\n\n".toList
  length_lt := by decide

/-- The plain reading of one blank line loses its newline. -/
theorem bounded_tail_ne_plain_blank_line :
    '\r' ∉ "ready\n\n".toList ∧ blankLineLog.bytes.length ≤ UInt64.toNat 64 ∧
      parseUsize "1" = some 1 ∧ (readTailTextBounded blankLineLog 1 64).text = "\n" ∧
      tailLines "ready\n\n" (some "1") = "" ∧
      readTailTextBounded blankLineLog 1 64 ≠
        { text := tailLines "ready\n\n" (some "1"), truncated := false } := by
  have read : (readTailTextBounded blankLineLog 1 64).text = "\n" := by decide
  have plain : tailLines "ready\n\n" (some "1") = "" := by decide
  refine ⟨by decide, by decide, by decide, read, plain, fun same => ?_⟩
  rw [same, plain] at read
  exact absurd read (by decide)

end Fungi.Runtime
