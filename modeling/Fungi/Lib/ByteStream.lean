import Mathlib.Data.List.Basic

/-!
# Streams in pieces

A stream that arrives in pieces of any length.  A read of so many items takes them from as many
pieces as it needs; what it returns does not depend on the pieces.
-/

namespace Fungi.Lib.ByteStream

variable {Item : Type}

/-- The items read, if the stream has so many before it ends, and the pieces left of it. -/
def readExact : (count : Nat) → List (List Item) → Option (List Item) × List (List Item)
  | 0, pieces => (some [], pieces)
  | _ + 1, [] => (none, [])
  | count + 1, piece :: rest =>
      if piece.length ≤ count + 1 then
        let (items, remaining) := readExact (count + 1 - piece.length) rest
        (items.map (piece ++ ·), remaining)
      else (some (piece.take (count + 1)), piece.drop (count + 1) :: rest)

/-- A read returns the front of the stream and leaves the rest. -/
theorem readExact_of_append {pieces : List (List Item)} {front back : List Item}
    (joined : pieces.flatten = front ++ back) :
    ∃ remaining, readExact front.length pieces = (some front, remaining) ∧
      remaining.flatten = back := by
  induction pieces generalizing front with
  | nil =>
      obtain ⟨rfl, rfl⟩ := List.nil_eq_append_iff.mp joined
      exact ⟨[], rfl, rfl⟩
  | cons piece rest inductionHypothesis =>
      cases front with
      | nil => exact ⟨piece :: rest, rfl, joined⟩
      | cons item front =>
          rw [List.flatten_cons] at joined
          rw [List.length_cons, readExact, ← List.length_cons (a := item)]
          rcases List.append_eq_append_iff.mp joined with
            ⟨further, isFront, isRest⟩ | ⟨excess, isPiece, isBack⟩
          · obtain ⟨remaining, read, left⟩ := inductionHypothesis isRest
            have lengths : (item :: front).length = piece.length + further.length := by
              rw [isFront, List.length_append]
            rw [if_pos (by omega), lengths, Nat.add_sub_cancel_left, read]
            exact ⟨remaining, by rw [isFront]; rfl, left⟩
          · rw [isPiece, List.length_append]
            cases excess with
            | nil =>
                rw [if_pos (by simp), List.length_nil, Nat.add_zero, Nat.sub_self, List.append_nil]
                exact ⟨rest, by simp [readExact], isBack.symm⟩
            | cons next excess =>
                rw [if_neg (by simp), List.take_left, List.drop_left]
                exact ⟨(next :: excess) :: rest, rfl, isBack.symm⟩

end Fungi.Lib.ByteStream
