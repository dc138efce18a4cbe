import Mathlib.Algebra.GroupWithZero.Nat
import Mathlib.Data.List.Basic

/-!
# Big-endian numbers

A number as a list of so many bytes, the most significant one first.
-/

namespace Fungi.Lib.BigEndian

/-- A number in so many bytes, the highest first. -/
def encode : (width value : Nat) → List UInt8
  | 0, _ => []
  | width + 1, value => encode width (value / 256) ++ [.ofNat (value % 256)]

/-- The number that the bytes spell. -/
def decode (bytes : List UInt8) : Nat :=
  bytes.foldl (fun value byte => value * 256 + byte.toNat) 0

@[simp] theorem length_encode (width value : Nat) : (encode width value).length = width := by
  induction width generalizing value with
  | zero => rfl
  | succ width inductionHypothesis =>
      rw [encode, List.length_append, inductionHypothesis, List.length_singleton]

theorem decode_snoc (bytes : List UInt8) (byte : UInt8) :
    decode (bytes ++ [byte]) = decode bytes * 256 + byte.toNat := by
  rw [decode, List.foldl_append]
  rfl

/-- A number is read back where it fits the bytes. -/
theorem decode_encode {width value : Nat} (fits : value < 256 ^ width) :
    decode (encode width value) = value := by
  induction width generalizing value with
  | zero =>
      rw [Nat.pow_zero, Nat.lt_one_iff] at fits
      rw [fits]
      rfl
  | succ width inductionHypothesis =>
      have quotient : value / 256 < 256 ^ width := by
        rw [Nat.pow_succ] at fits
        exact Nat.div_lt_of_lt_mul (by rwa [Nat.mul_comm])
      have remainder : (UInt8.ofNat (value % 256)).toNat = value % 256 := by
        rw [UInt8.toNat_ofNat']
        exact Nat.mod_mod value 256
      rw [encode, decode_snoc, inductionHypothesis quotient, remainder, Nat.mul_comm]
      exact Nat.div_add_mod value 256

end Fungi.Lib.BigEndian
