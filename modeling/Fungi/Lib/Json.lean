import Mathlib.Algebra.GroupWithZero.Nat
import Mathlib.Data.List.Basic

/-!
# Compact JSON

The text a JSON encoder writes without white space, and its length.  The lengths are
weighted sums over the characters: one weight counts the bytes of a text, another one
the bytes the text takes once it is itself a string of a JSON text.
-/

namespace Fungi.Lib.Json

/-- JSON as its characters. -/
abbrev Encoded := List Char

/-! ## Encoding -/

/-- The mark around strings. -/
def quotationMark : Char := Char.ofNat 0x22

/-- The mark before an escaped character. -/
def reverseSolidus : Char := Char.ofNat 0x5c

/-- The characters a string has for one of its characters. -/
def escape (character : Char) : Encoded :=
  match character.toNat with
  | 0x08 => [reverseSolidus, 'b']
  | 0x09 => [reverseSolidus, 't']
  | 0x0a => [reverseSolidus, 'n']
  | 0x0c => [reverseSolidus, 'f']
  | 0x0d => [reverseSolidus, 'r']
  | 0x22 => [reverseSolidus, quotationMark]
  | 0x5c => [reverseSolidus, reverseSolidus]
  | code =>
      if code < 0x20 then
        [reverseSolidus, 'u', '0', '0', Nat.digitChar (code / 16), Nat.digitChar (code % 16)]
      else [character]

/-- A string, with the characters escaped that must be. -/
def string (text : String) : Encoded :=
  quotationMark :: (text.toList.flatMap escape ++ [quotationMark])

/-- The value that stands for nothing. -/
def null : Encoded := ['n', 'u', 'l', 'l']

/-- A truth value. -/
def bool : Bool → Encoded
  | true => ['t', 'r', 'u', 'e']
  | false => ['f', 'a', 'l', 's', 'e']

/-- A number without a fraction. -/
def number (value : Nat) : Encoded := (Nat.repr value).toList

/-- A value, or `null`. -/
def option {Value : Type} (encode : Value → Encoded) : Option Value → Encoded
  | none => null
  | some value => encode value

/-- Items with commas between them. -/
def separated : List Encoded → Encoded
  | [] => []
  | [item] => item
  | item :: next :: rest => item ++ ',' :: separated (next :: rest)

/-- Values between square brackets. -/
def array (items : List Encoded) : Encoded := '[' :: (separated items ++ [']'])

/-- A field of an object. -/
def field (name : String) (value : Encoded) : Encoded := string name ++ ':' :: value

/-- A field that is left out when it has no value. -/
def optionalField {Value : Type} (name : String) (encode : Value → Encoded)
    (value : Option Value) : List Encoded :=
  (value.map fun value => field name (encode value)).toList

/-- Fields between braces. -/
def object (fields : List Encoded) : Encoded :=
  Char.ofNat 0x7b :: (separated fields ++ [Char.ofNat 0x7d])

/-! ## Lengths -/

/-- The sum of the weights of the characters. -/
def weigh (weight : Char → Nat) (text : List Char) : Nat := (text.map weight).sum

section Weights

variable (weight : Char → Nat)

@[simp] theorem weigh_nil : weigh weight [] = 0 := rfl

@[simp] theorem weigh_cons (character : Char) (rest : List Char) :
    weigh weight (character :: rest) = weight character + weigh weight rest := by
  simp [weigh]

@[simp] theorem weigh_append (left right : List Char) :
    weigh weight (left ++ right) = weigh weight left + weigh weight right := by
  simp [weigh]

theorem weigh_le_of_suffix {suffix text : List Char} (isSuffix : suffix <:+ text) :
    weigh weight suffix ≤ weigh weight text := by
  obtain ⟨front, rfl⟩ := isSuffix
  rw [weigh_append]
  exact Nat.le_add_left _ _

theorem weigh_replicate (count : Nat) (character : Char) :
    weigh weight (List.replicate count character) = count * weight character := by
  simp [weigh]

theorem weigh_flatMap (expand : Char → List Char) (text : List Char) :
    weigh weight (text.flatMap expand) = weigh (fun character => weigh weight (expand character))
      text := by
  induction text with
  | nil => rfl
  | cons character rest inductionHypothesis => simp [inductionHypothesis]

theorem weigh_string (text : String) :
    weigh weight (string text) = 2 * weight quotationMark +
      weigh (fun character => weigh weight (escape character)) text.toList := by
  simp only [string, weigh_cons, weigh_append, weigh_flatMap, weigh_nil]
  omega

theorem weigh_separated (items : List Encoded) :
    weigh weight (separated items) =
      (items.map (weigh weight)).sum + (items.length - 1) * weight ',' := by
  induction items using separated.induct with
  | case1 => simp [separated]
  | case2 item => simp [separated]
  | case3 item next rest inductionHypothesis =>
      rw [separated, weigh_append, weigh_cons, inductionHypothesis]
      simp only [List.map_cons, List.sum_cons, List.length_cons, Nat.add_sub_cancel]
      rw [Nat.succ_mul]
      omega

theorem weigh_field (name : String) (value : Encoded) :
    weigh weight (field name value) =
      weigh weight (string name) + weight ':' + weigh weight value := by
  simp only [field, weigh_append, weigh_cons]
  omega

theorem weigh_array (items : List Encoded) :
    weigh weight (array items) = weight '[' + weight ']' +
      ((items.map (weigh weight)).sum + (items.length - 1) * weight ',') := by
  simp only [array, weigh_cons, weigh_append, weigh_separated, weigh_nil]
  omega

theorem weigh_object (fields : List Encoded) :
    weigh weight (object fields) = weight (Char.ofNat 0x7b) + weight (Char.ofNat 0x7d) +
      ((fields.map (weigh weight)).sum + (fields.length - 1) * weight ',') := by
  simp only [object, weigh_cons, weigh_append, weigh_separated, weigh_nil]
  omega

end Weights

/-! ## Bytes -/

/-- The bytes of a text. -/
def size (text : List Char) : Nat := weigh Char.utf8Size text

theorem utf8ByteSize_ofList (text : List Char) : (String.ofList text).utf8ByteSize = size text := by
  induction text with
  | nil => rfl
  | cons character rest inductionHypothesis =>
      simp [String.ofList_cons, inductionHypothesis, size]

theorem utf8ByteSize_eq (text : String) : text.utf8ByteSize = size text.toList := by
  rw [← utf8ByteSize_ofList, String.ofList_toList]

/-- The bytes a text takes within a string of another text. -/
def embeddedSize (text : List Char) : Nat :=
  weigh (fun character => size (escape character)) text

/-- The bytes of a string. -/
def stringSize (text : String) : Nat := 2 + embeddedSize text.toList

@[simp] theorem size_cons (character : Char) (rest : List Char) :
    size (character :: rest) = character.utf8Size + size rest := weigh_cons _ character rest

@[simp] theorem size_append (left right : List Char) :
    size (left ++ right) = size left + size right := weigh_append _ left right

theorem size_string (text : String) : size (string text) = stringSize text := by
  have quoted : Char.utf8Size quotationMark = 1 := rfl
  rw [size, weigh_string, quoted]
  rfl

theorem size_option_string (text : Option String) :
    size (option string text) = text.elim 4 stringSize := by
  cases text with
  | none => rfl
  | some text => exact size_string text

theorem size_field (name : String) (value : Encoded) :
    size (field name value) = stringSize name + 1 + size value := by
  rw [size, weigh_field, ← size, ← size, size_string]
  rfl

theorem size_object (fields : List Encoded) :
    size (object fields) = 2 + ((fields.map size).sum + (fields.length - 1)) := by
  have comma : Char.utf8Size ',' = 1 := rfl
  rw [size, weigh_object, comma, Nat.mul_one]
  rfl

@[simp] theorem embeddedSize_append (left right : List Char) :
    embeddedSize (left ++ right) = embeddedSize left + embeddedSize right :=
  weigh_append _ left right

theorem embeddedSize_array (items : List Encoded) :
    embeddedSize (array items) = 2 + ((items.map embeddedSize).sum + (items.length - 1)) := by
  have comma : size (escape ',') = 1 := rfl
  rw [embeddedSize, weigh_array, comma, Nat.mul_one]
  rfl

theorem embeddedSize_object (fields : List Encoded) :
    embeddedSize (object fields) = 2 + ((fields.map embeddedSize).sum + (fields.length - 1)) := by
  have comma : size (escape ',') = 1 := rfl
  rw [embeddedSize, weigh_object, comma, Nat.mul_one]
  rfl

theorem embeddedSize_field (name : String) (value : Encoded) :
    embeddedSize (field name value) = embeddedSize (string name) + 1 + embeddedSize value := by
  rw [embeddedSize, weigh_field]
  rfl

end Fungi.Lib.Json
