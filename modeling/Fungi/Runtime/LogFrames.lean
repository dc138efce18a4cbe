import Fungi.Lib.BigEndian
import Fungi.Lib.Utf8

/-!
# Multiplexed container logs

The log of a container comes in frames: the stream, a length and a payload.  `decode_log_frames`
reads the text of each frame on its own, and takes anything else for a plain text.
-/

namespace Fungi.Runtime

open Fungi.Lib

/-! ## Frames -/

/-- A frame, whose length is written in four bytes. -/
structure LogFrame where
  stream : UInt8
  payload : List UInt8
  length_lt : payload.length < 256 ^ 4

/-- The stream, three zeros, and the length of the payload. -/
def LogFrame.header (self : LogFrame) : List UInt8 :=
  [self.stream, 0, 0, 0] ++ BigEndian.encode 4 self.payload.length

/-- A frame as the engine sends it. -/
def LogFrame.encode (self : LogFrame) : List UInt8 := self.header ++ self.payload

/-- The loop of `decode_log_frames`: where it stops, its output and whether it found a frame. -/
def decodeLogFramesFrom (bytes : List UInt8) (offset : Nat) (output : List Char)
    (parsedFrame : Bool) : Nat × List Char × Bool :=
  if 8 ≤ bytes.length - offset then
    let frameLen := BigEndian.decode ((bytes.drop (offset + 4)).take 4)
    let frameStart := offset + 8
    let frameEnd := frameStart + frameLen
    if bytes.length < frameEnd then (offset, output, parsedFrame)
    else
      let text := Utf8.decodeLossy ((bytes.drop frameStart).take frameLen)
      decodeLogFramesFrom bytes frameEnd (output ++ text) true
  else (offset, output, parsedFrame)
  termination_by bytes.length - offset

/-- Bytes that are not frames to their end are taken for plain text. -/
def decodeLogFrames (bytes : List UInt8) : List Char :=
  let (offset, output, parsedFrame) := decodeLogFramesFrom bytes 0 [] false
  if parsedFrame ∧ offset = bytes.length then output else Utf8.decodeLossy bytes

/-! ## Decoding encoded frames -/

theorem LogFrame.length_header (self : LogFrame) : self.header.length = 8 := by
  rw [header, List.length_append, BigEndian.length_encode]
  rfl

/-- The loop reads a frame and goes on behind it. -/
theorem decodeLogFramesFrom_frame (front : List UInt8) (frame : LogFrame) (back : List UInt8)
    (output : List Char) (parsedFrame : Bool) :
    decodeLogFramesFrom (front ++ (frame.encode ++ back)) front.length output parsedFrame =
      decodeLogFramesFrom (front ++ frame.encode ++ back) (front ++ frame.encode).length
        (output ++ Utf8.decodeLossy frame.payload) true := by
  have length : (front ++ (frame.encode ++ back)).length =
      front.length + (8 + frame.payload.length + back.length) := by
    rw [List.length_append, List.length_append, LogFrame.encode, List.length_append,
      frame.length_header]
  have lengthBytes : ((front ++ (frame.encode ++ back)).drop (front.length + 4)).take 4 =
      BigEndian.encode 4 frame.payload.length := by
    rw [← List.drop_drop, List.drop_left, LogFrame.encode, LogFrame.header, List.append_assoc,
      List.append_assoc]
    exact List.take_left' (BigEndian.length_encode 4 _)
  have payload : ((front ++ (frame.encode ++ back)).drop (front.length + 8)).take
      frame.payload.length = frame.payload := by
    rw [← List.drop_drop, List.drop_left, LogFrame.encode, List.append_assoc,
      List.drop_left' frame.length_header, List.take_left]
  rw [decodeLogFramesFrom, if_pos (by omega)]
  dsimp only
  rw [lengthBytes, BigEndian.decode_encode frame.length_lt, if_neg (by omega), payload]
  rw [List.append_assoc, List.length_append, LogFrame.encode, List.length_append,
    frame.length_header, Nat.add_assoc]

/-- The loop reads all frames. -/
theorem decodeLogFramesFrom_frames (front : List UInt8) (frames : List LogFrame)
    (output : List Char) (parsedFrame : Bool) :
    decodeLogFramesFrom (front ++ frames.flatMap (·.encode)) front.length output parsedFrame =
      ((front ++ frames.flatMap (·.encode)).length,
        output ++ frames.flatMap (fun frame => Utf8.decodeLossy frame.payload),
        parsedFrame || !frames.isEmpty) := by
  induction frames generalizing front output parsedFrame with
  | nil =>
      rw [decodeLogFramesFrom, if_neg (by simp)]
      simp
  | cons frame rest inductionHypothesis =>
      rw [List.flatMap_cons, decodeLogFramesFrom_frame, inductionHypothesis]
      simp

theorem decodeLogFrames_frames {frames : List LogFrame} (nonempty : frames ≠ []) :
    decodeLogFrames (frames.flatMap (·.encode)) =
      (frames.map (·.payload)).flatMap Utf8.decodeLossy := by
  have read := decodeLogFramesFrom_frames [] frames [] false
  rw [List.nil_append, List.length_nil] at read
  rw [decodeLogFrames, read]
  simp [nonempty, List.flatMap_map]

/-- Frames of a text are decoded to the text exactly if no frame ends within a character. -/
theorem decodeLogFrames_iff {frames : List LogFrame} {text : List Char} (nonempty : frames ≠ [])
    (whole : (frames.map (·.payload)).flatten = Utf8.encode text) :
    decodeLogFrames (frames.flatMap (·.encode)) = text ↔
      ∀ frame ∈ frames, Utf8.Valid frame.payload := by
  rw [decodeLogFrames_frames nonempty, Utf8.decode_pieces_iff whole, List.forall_mem_map]

/-- A frame of standard output. -/
def stdoutFrame (payload : List UInt8) (length_lt : payload.length < 256 ^ 4) : LogFrame where
  stream := 1
  payload := payload
  length_lt := length_lt

theorem decodeLogFrames_iff_two_words :
    decodeLogFrames ([stdoutFrame (Utf8.encode ['é']) (by decide),
      stdoutFrame (Utf8.encode ['\n']) (by decide)].flatMap (·.encode)) = ['é', '\n'] := by
  refine (decodeLogFrames_iff (List.cons_ne_nil _ _) rfl).mpr ?_
  rw [List.forall_mem_cons, List.forall_mem_singleton]
  exact ⟨⟨['é'], rfl⟩, ⟨['\n'], rfl⟩⟩

/-- The two bytes of one character, in a frame each. -/
def dividedFrames : List LogFrame :=
  [stdoutFrame [0xc3] (by decide), stdoutFrame [0xa9] (by decide)]

/-- A character that is divided between two frames is lost. -/
theorem decodeLogFrames_divided :
    (dividedFrames.map (·.payload)).flatten = Utf8.encode ['é'] ∧
      decodeLogFrames (dividedFrames.flatMap (·.encode)) =
        [Utf8.replacementCharacter, Utf8.replacementCharacter] ∧
      decodeLogFrames (dividedFrames.flatMap (·.encode)) ≠ ['é'] := by
  have decoded : decodeLogFrames (dividedFrames.flatMap (·.encode)) =
      [Utf8.replacementCharacter, Utf8.replacementCharacter] := by
    have nonempty : dividedFrames ≠ [] := List.cons_ne_nil _ _
    rw [decodeLogFrames_frames nonempty]
    decide
  refine ⟨by decide, decoded, ?_⟩
  rw [decoded]
  decide

end Fungi.Runtime
