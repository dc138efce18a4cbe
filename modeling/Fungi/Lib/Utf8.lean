import Fungi.Lib.Json

/-!
# UTF-8

Bytes that encode characters, and the decoder that writes a replacement character for each part it
cannot read.  The decoder never fails; it gives back a text from the encoding of the text.
-/

namespace Fungi.Lib.Utf8

/-! ## Encoding -/

/-- The bytes of a text. -/
def encode (text : List Char) : List UInt8 := text.flatMap String.utf8EncodeChar

/-- The bytes of some text. -/
def Valid (bytes : List UInt8) : Prop := ∃ text, encode text = bytes

@[simp] theorem encode_nil : encode [] = [] := rfl

@[simp] theorem encode_cons (character : Char) (rest : List Char) :
    encode (character :: rest) = String.utf8EncodeChar character ++ encode rest := rfl

@[simp] theorem encode_append (first second : List Char) :
    encode (first ++ second) = encode first ++ encode second := List.flatMap_append

theorem encode_eq_nil_iff {text : List Char} : encode text = [] ↔ text = [] := by
  rw [encode, List.flatMap_eq_nil_iff]
  refine ⟨fun none => List.eq_nil_iff_forall_not_mem.mpr fun character member => ?_, ?_⟩
  · exact String.utf8EncodeChar_ne_nil (none character member)
  · rintro rfl character member
    cases member

theorem length_encode (text : List Char) : (encode text).length = Json.size text := by
  induction text with
  | nil => rfl
  | cons character rest inductionHypothesis =>
      rw [encode_cons, List.length_append, String.length_utf8EncodeChar, inductionHypothesis,
        Json.size_cons]

/-! ## Decoding -/

/-- A byte that continues a character. -/
def IsContinuation (byte : UInt8) : Prop := 0x80 ≤ byte ∧ byte ≤ 0xbf

instance (byte : UInt8) : Decidable (IsContinuation byte) :=
  inferInstanceAs (Decidable (_ ∧ _))

/-- A character whose first bytes were read: the bytes it needs beyond the next one, the range of
the next one, and the value so far. -/
structure Partial where
  further : Nat
  low : UInt8
  high : UInt8
  value : Nat
  low_le : 0x80 ≤ low
  le_high : high ≤ 0xbf

/-- The range of a byte that is not the second one. -/
def Partial.anyOf (further value : Nat) : Partial where
  further := further
  low := 0x80
  high := 0xbf
  value := value
  low_le := by decide
  le_high := by decide

/-- What stands for bytes that are no text. -/
def replacementCharacter : Char := Char.ofNat 0xfffd

/-- The first byte of a character: the text it gives at once, and what it leaves to read. -/
def readFirst (byte : UInt8) : List Char × Option Partial :=
  let code := byte.toNat
  if code < 0x80 then ([Char.ofNat code], none)
  else if 0xc2 ≤ code ∧ code ≤ 0xdf then ([], some (.anyOf 0 (code - 0xc0)))
  else if code = 0xe0 then
    ([], some { Partial.anyOf 1 0 with low := 0xa0, low_le := by decide })
  else if code = 0xed then
    ([], some { Partial.anyOf 1 0xd with high := 0x9f, le_high := by decide })
  else if 0xe1 ≤ code ∧ code ≤ 0xef then ([], some (.anyOf 1 (code - 0xe0)))
  else if code = 0xf0 then
    ([], some { Partial.anyOf 2 0 with low := 0x90, low_le := by decide })
  else if 0xf1 ≤ code ∧ code ≤ 0xf3 then ([], some (.anyOf 2 (code - 0xf0)))
  else if code = 0xf4 then
    ([], some { Partial.anyOf 2 4 with high := 0x8f, le_high := by decide })
  else ([replacementCharacter], none)

/-- A further byte of a character. -/
def Partial.add (self : Partial) (byte : UInt8) : List Char × Option Partial :=
  let value := self.value * 64 + (byte.toNat - 0x80)
  match self.further with
  | 0 => ([Char.ofNat value], none)
  | further + 1 => ([], some (.anyOf further value))

/-- One byte.  A character that it does not continue is replaced, and the byte is a first one. -/
def read : Option Partial → UInt8 → List Char × Option Partial
  | none, byte => readFirst byte
  | some started, byte =>
      if started.low ≤ byte ∧ byte ≤ started.high then started.add byte
      else (replacementCharacter :: (readFirst byte).1, (readFirst byte).2)

/-- The text of the bytes; a character that ends too early is replaced. -/
def decodeFrom : Option Partial → List UInt8 → List Char
  | none, [] => []
  | some _, [] => [replacementCharacter]
  | state, byte :: rest => (read state byte).1 ++ decodeFrom (read state byte).2 rest

/-- `String::from_utf8_lossy`. -/
def decodeLossy (bytes : List UInt8) : List Char := decodeFrom none bytes

example : decodeLossy [0x61, 0xff, 0xe2, 0x82, 0x62, 0xe2, 0x82, 0xac] =
    ['a', replacementCharacter, replacementCharacter, 'b', '€'] := by decide

theorem decodeFrom_cons (state : Option Partial) (byte : UInt8) (rest : List UInt8) :
    decodeFrom state (byte :: rest) =
      (read state byte).1 ++ decodeFrom (read state byte).2 rest := by
  cases state <;> rfl

/-! ## Characters are read back -/

theorem toNat_byte {code : Nat} (small : code < 0x100) : (UInt8.ofNat code).toNat = code := by
  rw [UInt8.toNat_ofNat']
  exact Nat.mod_eq_of_lt small

theorem readFirst_two {value : Nat} (lower : 2 ≤ value) (upper : value < 0x20) :
    readFirst (.ofNat (value + 0xc0)) = ([], some (.anyOf 0 value)) := by
  unfold readFirst
  rw [toNat_byte (by omega)]
  dsimp only
  rw [if_neg (by omega), if_pos (by omega), Nat.add_sub_cancel]

/-- Of three bytes the second one is large after the least first byte, and small after the one of
the surrogates. -/
theorem readFirst_three {value : Nat} (small : value < 0x10) :
    ∃ started, readFirst (.ofNat (value + 0xe0)) = ([], some started) ∧
      started.further = 1 ∧ started.value = value ∧
      started.low.toNat ≤ (if value = 0 then 0xa0 else 0x80) ∧
      (if value = 0xd then 0x9f else 0xbf) ≤ started.high.toNat := by
  unfold readFirst
  rw [toNat_byte (by omega)]
  dsimp only
  rw [if_neg (by omega), if_neg (by omega)]
  by_cases least : value = 0
  · subst least
    exact ⟨_, rfl, rfl, rfl, by decide, by decide⟩
  · rw [if_neg (by omega), if_neg least]
    by_cases surrogate : value = 0xd
    · subst surrogate
      exact ⟨_, rfl, rfl, rfl, by decide, by decide⟩
    · rw [if_neg (by omega), if_pos (by omega), if_neg surrogate, Nat.add_sub_cancel]
      exact ⟨_, rfl, rfl, rfl, Nat.le_refl 0x80, Nat.le_refl 0xbf⟩

/-- Of four bytes the second one is large after the least first byte, and small after the greatest
one. -/
theorem readFirst_four {value : Nat} (small : value < 5) :
    ∃ started, readFirst (.ofNat (value + 0xf0)) = ([], some started) ∧
      started.further = 2 ∧ started.value = value ∧
      started.low.toNat ≤ (if value = 0 then 0x90 else 0x80) ∧
      (if value = 4 then 0x8f else 0xbf) ≤ started.high.toNat := by
  unfold readFirst
  rw [toNat_byte (by omega)]
  dsimp only
  rw [if_neg (by omega), if_neg (by omega), if_neg (by omega), if_neg (by omega),
    if_neg (by omega)]
  by_cases least : value = 0
  · subst least
    exact ⟨_, rfl, rfl, rfl, by decide, by decide⟩
  · rw [if_neg (by omega), if_neg least]
    by_cases greatest : value = 4
    · subst greatest
      exact ⟨_, rfl, rfl, rfl, by decide, by decide⟩
    · rw [if_pos (by omega), if_neg greatest, Nat.add_sub_cancel]
      exact ⟨_, rfl, rfl, rfl, Nat.le_refl 0x80, Nat.le_refl 0xbf⟩

/-- A byte in range continues the character. -/
theorem read_started {started : Partial} {low : Nat} (small : low < 0x40)
    (above : started.low.toNat ≤ low + 0x80) (below : low + 0x80 ≤ started.high.toNat) :
    read (some started) (.ofNat (low + 0x80)) =
      match started.further with
      | 0 => ([Char.ofNat (started.value * 64 + low)], none)
      | further + 1 => ([], some (.anyOf further (started.value * 64 + low))) := by
  have byte := toNat_byte (show low + 0x80 < 0x100 by omega)
  unfold read
  dsimp only
  rw [if_pos (by rw [UInt8.le_iff_toNat_le, UInt8.le_iff_toNat_le, byte]; exact ⟨above, below⟩),
    Partial.add, byte, Nat.add_sub_cancel]

theorem read_anyOf {further value low : Nat} (small : low < 0x40) :
    read (some (.anyOf further value)) (.ofNat (low + 0x80)) =
      match further with
      | 0 => ([Char.ofNat (value * 64 + low)], none)
      | further + 1 => ([], some (.anyOf further (value * 64 + low))) :=
  read_started small (Nat.le_add_left _ _) (by
    change low + 0x80 ≤ 0xbf
    omega)

/-- A character is read from its bytes. -/
theorem decodeFrom_encodeChar (character : Char) (rest : List UInt8) :
    decodeFrom none (String.utf8EncodeChar character ++ rest) =
      character :: decodeFrom none rest := by
  have valid : character.val.toNat < 0xd800 ∨
      0xdfff < character.val.toNat ∧ character.val.toNat < 0x110000 := character.valid
  have whole : Char.ofNat character.val.toNat = character := Char.ofNat_toNat character
  unfold String.utf8EncodeChar
  generalize character.val.toNat = code at valid whole
  dsimp only
  by_cases one : code ≤ 0x7f
  · rw [if_pos one, List.singleton_append, decodeFrom_cons, read, readFirst,
      toNat_byte (by omega)]
    dsimp only
    rw [if_pos (by omega), whole, List.singleton_append]
  by_cases two : code ≤ 0x7ff
  · have joined : code / 64 % 0x20 * 64 + code % 0x40 = code := by omega
    rw [if_neg one, if_pos two, List.cons_append, List.singleton_append, decodeFrom_cons, read,
      readFirst_two (by omega) (by omega)]
    dsimp only
    rw [List.nil_append, decodeFrom_cons, read_anyOf (by omega)]
    dsimp only
    rw [joined, whole, List.singleton_append]
  by_cases three : code ≤ 0xffff
  · obtain ⟨started, first, further, value, low, high⟩ :=
      readFirst_three (show code / 4096 % 0x10 < 0x10 by omega)
    have joined : (code / 4096 % 0x10 * 64 + code / 64 % 0x40) * 64 + code % 0x40 = code := by omega
    rw [if_neg one, if_neg two, if_pos three, List.cons_append, List.cons_append,
      List.singleton_append, decodeFrom_cons, read, first]
    dsimp only
    rw [List.nil_append, decodeFrom_cons, read_started (by omega) (by split at low <;> omega)
      (by split at high <;> omega), further, value]
    dsimp only
    rw [List.nil_append, decodeFrom_cons, read_anyOf (by omega)]
    dsimp only
    rw [joined, whole, List.singleton_append]
  · obtain ⟨started, first, further, value, low, high⟩ :=
      readFirst_four (show code / 262144 % 8 < 5 by omega)
    have joined : ((code / 262144 % 8 * 64 + code / 4096 % 0x40) * 64 + code / 64 % 0x40) * 64 +
        code % 0x40 = code := by omega
    rw [if_neg one, if_neg two, if_neg three, List.cons_append, List.cons_append, List.cons_append,
      List.singleton_append, decodeFrom_cons, read, first]
    dsimp only
    rw [List.nil_append, decodeFrom_cons, read_started (by omega) (by split at low <;> omega)
      (by split at high <;> omega), further, value]
    dsimp only
    rw [List.nil_append, decodeFrom_cons, read_anyOf (by omega)]
    dsimp only
    rw [List.nil_append, decodeFrom_cons, read_anyOf (by omega)]
    dsimp only
    rw [joined, whole, List.singleton_append]

/-- A text is read back, whatever follows. -/
theorem decodeLossy_encode_append (text : List Char) (rest : List UInt8) :
    decodeLossy (encode text ++ rest) = text ++ decodeLossy rest := by
  induction text with
  | nil => rfl
  | cons character text inductionHypothesis =>
      rw [encode_cons, List.append_assoc, decodeLossy, decodeFrom_encodeChar, List.cons_append]
      exact congrArg _ inductionHypothesis

theorem decodeLossy_encode (text : List Char) : decodeLossy (encode text) = text := by
  have decoded := decodeLossy_encode_append text []
  rw [List.append_nil] at decoded
  rw [decoded]
  exact List.append_nil text

/-! ## Where characters start -/

/-- The bytes that do not continue a character. -/
def starts (bytes : List UInt8) : Nat := bytes.countP fun byte => ¬ IsContinuation byte

theorem starts_cons (byte : UInt8) (rest : List UInt8) :
    starts (byte :: rest) = starts rest + if IsContinuation byte then 0 else 1 := by
  unfold starts
  rw [List.countP_cons]
  by_cases continues : IsContinuation byte <;> simp [continues]

theorem starts_append (front back : List UInt8) :
    starts (front ++ back) = starts front + starts back :=
  List.countP_append

theorem starts_of_forall {bytes : List UInt8} (all : ∀ byte ∈ bytes, IsContinuation byte) :
    starts bytes = 0 := by
  rw [starts, List.countP_eq_zero]
  simpa using all

theorem isContinuation_byte {low : Nat} (small : low < 0x40) :
    IsContinuation (.ofNat (low + 0x80)) := by
  rw [IsContinuation, UInt8.le_iff_toNat_le, UInt8.le_iff_toNat_le, toNat_byte (by omega)]
  change 0x80 ≤ low + 0x80 ∧ low + 0x80 ≤ 0xbf
  omega

theorem not_isContinuation_byte {code : Nat} (small : code < 0x100)
    (outside : code < 0x80 ∨ 0xbf < code) : ¬ IsContinuation (.ofNat code) := by
  rw [IsContinuation, UInt8.le_iff_toNat_le, UInt8.le_iff_toNat_le, toNat_byte small]
  change ¬ (0x80 ≤ code ∧ code ≤ 0xbf)
  omega

/-- A character has one byte, or a large one and some that continue it. -/
theorem encodeChar_cases (character : Char) :
    (character.toNat < 0x80 ∧ String.utf8EncodeChar character = [.ofNat character.toNat]) ∨
      ∃ code more, String.utf8EncodeChar character = .ofNat code :: more ∧
        0xbf < code ∧ code < 0x100 ∧ ∀ byte ∈ more, IsContinuation byte := by
  have tail (low : Nat) : IsContinuation (.ofNat (low % 0x40 + 0x80)) :=
    isContinuation_byte (Nat.mod_lt low (by decide))
  unfold String.utf8EncodeChar
  dsimp only
  split
  · next one => exact Or.inl ⟨Nat.lt_succ_of_le one, rfl⟩
  · split
    · refine Or.inr ⟨_, _, rfl, by omega, by omega, ?_⟩
      simpa only [List.forall_mem_cons, List.not_mem_nil, false_imp_iff, implies_true, and_true]
        using tail _
    · split
      · refine Or.inr ⟨_, _, rfl, by omega, by omega, ?_⟩
        simpa only [List.forall_mem_cons, List.not_mem_nil, false_imp_iff, implies_true, and_true]
          using
          And.intro (tail _) (tail _)
      · refine Or.inr ⟨_, _, rfl, by omega, by omega, ?_⟩
        simpa only [List.forall_mem_cons, List.not_mem_nil, false_imp_iff, implies_true, and_true]
          using
          And.intro (tail _) (And.intro (tail _) (tail _))

/-- Only the first byte of a character starts one. -/
theorem encodeChar_eq_cons (character : Char) :
    ∃ first more, String.utf8EncodeChar character = first :: more ∧ ¬ IsContinuation first ∧
      ∀ byte ∈ more, IsContinuation byte := by
  rcases encodeChar_cases character with ⟨small, one⟩ | ⟨code, more, several, above, below, tail⟩
  · exact ⟨_, [], one, not_isContinuation_byte (by omega) (Or.inl small), fun _ member => by
      cases member⟩
  · exact ⟨_, more, several, not_isContinuation_byte below (Or.inr above), tail⟩

/-- The byte of an ASCII character is in no other one. -/
theorem not_mem_encodeChar {separator character : Char} (ascii : separator.toNat < 0x80)
    (other : character ≠ separator) :
    UInt8.ofNat separator.toNat ∉ String.utf8EncodeChar character := by
  intro member
  have outside : ¬ IsContinuation (.ofNat separator.toNat) :=
    not_isContinuation_byte (by omega) (Or.inl ascii)
  have value := toNat_byte (show separator.toNat < 0x100 by omega)
  rcases encodeChar_cases character with ⟨small, one⟩ | ⟨code, more, several, above, below, tail⟩
  · rw [one, List.mem_singleton] at member
    rw [member, toNat_byte (by omega)] at value
    exact other (Char.toNat_inj.mp value)
  · rw [several, List.mem_cons] at member
    rcases member with first | later
    · rw [first, toNat_byte below] at value
      omega
    · exact outside (tail _ later)

theorem starts_encode (text : List Char) : starts (encode text) = text.length := by
  induction text with
  | nil => rfl
  | cons character rest inductionHypothesis =>
      obtain ⟨first, more, bytes, start, tail⟩ := encodeChar_eq_cons character
      rw [encode_cons, starts_append, inductionHypothesis, bytes, starts_cons,
        starts_of_forall tail, if_neg start, List.length_cons, Nat.add_comm]

/-- Bytes of a text are divided between two characters where the second part does not continue
one. -/
theorem encode_eq_append {text : List Char} {front back : List UInt8}
    (divided : encode text = front ++ back)
    (boundary : ∀ byte more, back = byte :: more → ¬ IsContinuation byte) :
    ∃ first second, text = first ++ second ∧ encode first = front ∧ encode second = back := by
  induction text generalizing front with
  | nil =>
      obtain ⟨noFront, noBack⟩ := List.nil_eq_append_iff.mp divided
      exact ⟨[], [], rfl, noFront.symm, noBack.symm⟩
  | cons character rest inductionHypothesis =>
      rw [encode_cons] at divided
      rcases List.append_eq_append_iff.mp divided with
        ⟨remaining, isFront, isRest⟩ | ⟨remaining, isCharacter, isBack⟩
      · obtain ⟨first, second, isText, encodesFirst, encodesSecond⟩ := inductionHypothesis isRest
        refine ⟨character :: first, second, congrArg _ isText, ?_, encodesSecond⟩
        rw [encode_cons, encodesFirst, isFront]
      · -- the boundary is before the character or within it
        obtain ⟨byte, more, bytes, _, tail⟩ := encodeChar_eq_cons character
        rw [bytes] at isCharacter
        cases front with
        | nil =>
            refine ⟨[], character :: rest, rfl, rfl, ?_⟩
            rw [encode_cons, bytes, isBack, isCharacter, List.nil_append]
        | cons start front =>
            obtain ⟨-, isMore⟩ := List.cons.inj isCharacter
            cases remaining with
            | nil =>
                refine ⟨[character], rest, rfl, ?_, isBack.symm⟩
                rw [encode_cons, encode_nil, List.append_nil, bytes, isCharacter, List.append_nil]
            | cons next remaining =>
                refine absurd (tail next ?_) (boundary next (remaining ++ encode rest) isBack)
                rw [isMore]
                exact List.mem_append_right _ List.mem_cons_self

/-! ## Decoding in pieces -/

/-- A first byte gives one character, now or later. -/
theorem count_readFirst (byte : UInt8) :
    (readFirst byte).1.length + (readFirst byte).2.isSome.toNat = 1 := by
  unfold readFirst
  dsimp only
  split_ifs <;> rfl

theorem Partial.count_add (self : Partial) (byte : UInt8) :
    (self.add byte).1.length + (self.add byte).2.isSome.toNat = 1 := by
  unfold Partial.add
  dsimp only
  split <;> rfl

theorem Partial.isContinuation (self : Partial) {byte : UInt8}
    (within : self.low ≤ byte ∧ byte ≤ self.high) : IsContinuation byte :=
  ⟨UInt8.le_trans self.low_le within.1, UInt8.le_trans within.2 self.le_high⟩

/-- A byte that starts a character gives one of its own. -/
theorem count_read (state : Option Partial) (byte : UInt8) :
    state.isSome.toNat + (if IsContinuation byte then 0 else 1) ≤
      (read state byte).1.length + (read state byte).2.isSome.toNat := by
  have first := count_readFirst byte
  cases state with
  | none =>
      rw [read, first]
      split <;> simp
  | some started =>
      rw [read]
      by_cases within : started.low ≤ byte ∧ byte ≤ started.high
      · rw [if_pos within, started.count_add, if_pos (started.isContinuation within)]
        exact Nat.le_refl 1
      · rw [if_neg within]
        dsimp only
        rw [List.length_cons]
        have one : (some started).isSome.toNat = 1 := rfl
        split <;> omega

/-- A decoded text has a character for each that starts in the bytes. -/
theorem starts_le_decodeFrom (state : Option Partial) (bytes : List UInt8) :
    state.isSome.toNat + starts bytes ≤ (decodeFrom state bytes).length := by
  induction bytes generalizing state with
  | nil => cases state <;> exact Nat.le_refl _
  | cons byte rest inductionHypothesis =>
      have now := count_read state byte
      have later := inductionHypothesis (read state byte).2
      rw [starts_cons, decodeFrom_cons, List.length_append]
      omega

theorem starts_le_decodeLossy (bytes : List UInt8) : starts bytes ≤ (decodeLossy bytes).length := by
  have counted := starts_le_decodeFrom none bytes
  rwa [Option.isSome_none, Bool.toNat_false, Nat.zero_add] at counted

/-- It has one more if the bytes start within a character. -/
theorem starts_lt_decodeLossy {byte : UInt8} (rest : List UInt8) (within : IsContinuation byte) :
    starts (byte :: rest) < (decodeLossy (byte :: rest)).length := by
  have now := count_readFirst byte
  have later := starts_le_decodeFrom (read none byte).2 rest
  rw [read] at later
  rw [starts_cons, if_pos within, decodeLossy, decodeFrom_cons, List.length_append, read]
  omega

theorem starts_flatten_le (pieces : List (List UInt8)) :
    starts pieces.flatten ≤ (pieces.flatMap decodeLossy).length := by
  induction pieces with
  | nil => exact Nat.le_refl 0
  | cons piece rest inductionHypothesis =>
      have first := starts_le_decodeLossy piece
      rw [List.flatten_cons, starts_append, List.flatMap_cons, List.length_append]
      omega

theorem starts_flatten_lt {pieces : List (List UInt8)} {byte : UInt8} {more : List UInt8}
    (first : pieces.flatten = byte :: more) (within : IsContinuation byte) :
    starts pieces.flatten < (pieces.flatMap decodeLossy).length := by
  induction pieces with
  | nil => cases first
  | cons piece rest inductionHypothesis =>
      rw [List.flatten_cons] at first
      rw [List.flatten_cons, starts_append, List.flatMap_cons, List.length_append]
      cases piece with
      | nil =>
          have others := inductionHypothesis first
          have none : starts [] = 0 := rfl
          omega
      | cons start piece =>
          obtain ⟨rfl, -⟩ := List.cons.inj first
          have strict := starts_lt_decodeLossy piece within
          have others := starts_flatten_le rest
          omega

/-- Pieces of a text that decode to no more characters are each a text. -/
theorem valid_of_decode {pieces : List (List UInt8)} {text : List Char}
    (whole : pieces.flatten = encode text)
    (few : (pieces.flatMap decodeLossy).length ≤ text.length) :
    ∀ piece ∈ pieces, Valid piece := by
  induction pieces generalizing text with
  | nil =>
      intro piece member
      cases member
  | cons piece rest inductionHypothesis =>
      rw [List.flatMap_cons, List.length_append] at few
      rw [List.flatten_cons] at whole
      have counted := starts_encode text
      rw [← whole, starts_append] at counted
      have piece_count := starts_le_decodeLossy piece
      have boundary : ∀ byte more, rest.flatten = byte :: more → ¬ IsContinuation byte := by
        intro byte more first within
        have rest_count := starts_flatten_lt first within
        omega
      obtain ⟨first, second, isText, encodesFirst, encodesSecond⟩ :=
        encode_eq_append whole.symm boundary
      rw [← encodesFirst, starts_encode] at counted piece_count
      rw [← encodesSecond, starts_encode] at counted
      rw [List.forall_mem_cons]
      refine ⟨⟨first, encodesFirst⟩, inductionHypothesis encodesSecond.symm ?_⟩
      rw [← encodesFirst] at few
      omega

theorem decodeLossy_flatten {pieces : List (List UInt8)} (valid : ∀ piece ∈ pieces, Valid piece) :
    decodeLossy pieces.flatten = pieces.flatMap decodeLossy := by
  induction pieces with
  | nil => rfl
  | cons piece rest inductionHypothesis =>
      rw [List.forall_mem_cons] at valid
      obtain ⟨⟨text, rfl⟩, restValid⟩ := valid
      rw [List.flatten_cons, List.flatMap_cons, decodeLossy_encode_append, decodeLossy_encode,
        inductionHypothesis restValid]

/-- A text decoded piece by piece is the text exactly if no piece ends within a character. -/
theorem decode_pieces_iff {pieces : List (List UInt8)} {text : List Char}
    (whole : pieces.flatten = encode text) :
    pieces.flatMap decodeLossy = text ↔ ∀ piece ∈ pieces, Valid piece := by
  constructor
  · intro decoded
    exact valid_of_decode whole (Nat.le_of_eq (congrArg List.length decoded))
  · intro valid
    rw [← decodeLossy_flatten valid, whole, decodeLossy_encode]

end Fungi.Lib.Utf8
