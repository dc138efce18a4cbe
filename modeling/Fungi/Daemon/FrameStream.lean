import Fungi.Daemon.ControlFrames
import Fungi.Lib.BigEndian
import Fungi.Lib.ByteStream
import Fungi.Lib.Utf8

/-!
# Service-control frames on a stream

`write_frame` and `read_frame` on the bytes of a stream, which arrive in pieces of any length.
`serde_json` is a parameter for each of the two kinds of messages.
-/

namespace Fungi.Daemon.FrameStream

open Fungi.Lib Fungi.Daemon.ServiceRuns

/-! ## Writing and reading one frame -/

/-- JSON in bytes, as `serde_json` writes and reads it. -/
structure SerdeJson (Value : Type) where
  toVec : Value → Except String (List UInt8)
  fromSlice : List UInt8 → Except String Value

/-- The error for a payload over the limit. -/
def frameTooLarge (payloadLen : Nat) : String :=
  s!"Service-control frame too large: {payloadLen} bytes (max {maxControlFrameLen})"

/-- The error of `read_exact` on a stream that ends too early. -/
def unexpectedEof : String := "unexpected end of file"

section Frames

variable {Value : Type} (serde : SerdeJson Value)

/-- `write_frame` after the bytes already written to the stream, which takes every write. -/
def writeFrame (value : Value) (stream : List UInt8) : Except String Unit × List UInt8 :=
  match serde.toVec value with
  | .error error => (.error s!"Failed to serialize service-control frame: {error}", stream)
  | .ok payload =>
      if maxControlFrameLen < payload.length then (.error (frameTooLarge payload.length), stream)
      else if payload.length < UInt32.size then
        (.ok (), stream ++ BigEndian.encode 4 payload.length ++ payload)
      else (.error "Service-control frame is too large", stream)

/-- `read_frame` on the pieces that have not been read; what it leaves of them. -/
def readFrame (pieces : List (List UInt8)) : Except String Value × List (List UInt8) :=
  match ByteStream.readExact 4 pieces with
  | (none, remaining) => (.error s!"Failed to read frame length: {unexpectedEof}", remaining)
  | (some lenBuf, remaining) =>
      let payloadLen := BigEndian.decode lenBuf
      if maxControlFrameLen < payloadLen then (.error (frameTooLarge payloadLen), remaining)
      else
        match ByteStream.readExact payloadLen remaining with
        | (none, remaining) => (.error s!"Failed to read frame payload: {unexpectedEof}", remaining)
        | (some payload, remaining) =>
            match serde.fromSlice payload with
            | .error error =>
                (.error s!"Failed to decode service-control frame: {error}", remaining)
            | .ok value => (.ok value, remaining)

/-- The value can be serialized, within the limit. -/
def isSendable (value : Value) : Bool :=
  match serde.toVec value with
  | .error _ => false
  | .ok payload => payload.length ≤ maxControlFrameLen

/-- What was serialized is read as the value. -/
def RoundTrips (value : Value) : Prop :=
  ∀ payload, serde.toVec value = .ok payload → serde.fromSlice payload = .ok value

/-- The bytes of a frame. -/
def frame (value : Value) : List UInt8 := (writeFrame serde value []).2

variable {serde} {value : Value} {payload : List UInt8}

theorem isSendable_iff :
    isSendable serde value ↔
      ∃ payload, serde.toVec value = .ok payload ∧ payload.length ≤ maxControlFrameLen := by
  unfold isSendable
  cases serde.toVec value with
  | error text => simp
  | ok payload => simp

theorem writeFrame_of_le (serialized : serde.toVec value = .ok payload)
    (small : payload.length ≤ maxControlFrameLen) (stream : List UInt8) :
    writeFrame serde value stream =
      (.ok (), stream ++ BigEndian.encode 4 payload.length ++ payload) := by
  have limits : maxControlFrameLen < UInt32.size := by decide
  rw [writeFrame, serialized]
  dsimp only
  rw [if_neg (Nat.not_lt.mpr small), if_pos (small.trans_lt limits)]

theorem writeFrame_of_lt (serialized : serde.toVec value = .ok payload)
    (large : maxControlFrameLen < payload.length) (stream : List UInt8) :
    writeFrame serde value stream = (.error (frameTooLarge payload.length), stream) := by
  rw [writeFrame, serialized]
  exact if_pos large

theorem frame_of_le (serialized : serde.toVec value = .ok payload)
    (small : payload.length ≤ maxControlFrameLen) :
    frame serde value = BigEndian.encode 4 payload.length ++ payload := by
  rw [frame, writeFrame_of_le serialized small, List.nil_append]

/-- What a write adds to the stream. -/
theorem stream_writeFrame (serde : SerdeJson Value) (value : Value) (stream : List UInt8) :
    (writeFrame serde value stream).2 =
      stream ++ if isSendable serde value then frame serde value else [] := by
  by_cases sendable : isSendable serde value
  · obtain ⟨payload, serialized, small⟩ := isSendable_iff.mp sendable
    rw [if_pos sendable, writeFrame_of_le serialized small, frame_of_le serialized small,
      List.append_assoc]
  · rw [if_neg sendable, List.append_nil]
    cases serialized : serde.toVec value with
    | error text => rw [writeFrame, serialized]
    | ok payload =>
        have large : maxControlFrameLen < payload.length := by
          by_contra small
          exact sendable (isSendable_iff.mpr ⟨payload, serialized, Nat.not_lt.mp small⟩)
        rw [writeFrame_of_lt serialized large]

/-- A frame at the front of the stream is read back, and only it. -/
theorem readFrame_frame (roundTrips : RoundTrips serde value) (sendable : isSendable serde value)
    {pieces : List (List UInt8)} {rest : List UInt8}
    (joined : pieces.flatten = frame serde value ++ rest) :
    ∃ between, readFrame serde pieces = (.ok value, between) ∧ between.flatten = rest := by
  obtain ⟨payload, serialized, small⟩ := isSendable_iff.mp sendable
  have limits : maxControlFrameLen < 256 ^ 4 := by decide
  rw [frame_of_le serialized small, List.append_assoc] at joined
  obtain ⟨body, readLength, atBody⟩ := ByteStream.readExact_of_append joined
  obtain ⟨between, readPayload, left⟩ := ByteStream.readExact_of_append atBody
  rw [BigEndian.length_encode] at readLength
  refine ⟨between, ?_, left⟩
  rw [readFrame, readLength]
  dsimp only
  rw [BigEndian.decode_encode (small.trans_lt limits), if_neg (Nat.not_lt.mpr small), readPayload]
  dsimp only
  rw [roundTrips payload serialized]

/-- A header above the limit is all that is read. -/
theorem readFrame_of_announced {pieces : List (List UInt8)} {header body : List UInt8}
    (joined : pieces.flatten = header ++ body) (length : header.length = 4)
    (large : maxControlFrameLen < BigEndian.decode header) :
    ∃ after, readFrame serde pieces = (.error (frameTooLarge (BigEndian.decode header)), after) ∧
      after.flatten = body := by
  obtain ⟨after, read, left⟩ := ByteStream.readExact_of_append joined
  rw [length] at read
  refine ⟨after, ?_, left⟩
  rw [readFrame, read]
  exact if_pos large

end Frames

/-! ## Messages -/

/-- What a frame carries. -/
inductive FrameKind where
  | request
  | response
  deriving DecidableEq

/-- The messages of each kind. -/
abbrev FrameKind.Value : FrameKind → Type
  | .request => ServiceControlRequest
  | .response => ServiceControlResponse

/-- A message of either kind. -/
abbrev Message := Σ kind : FrameKind, kind.Value

section Messages

variable (serde : (kind : FrameKind) → SerdeJson kind.Value)

/-- Messages written one after the other, each with its outcome. -/
def writeAll : List Message → List UInt8 → List (Except String Unit) × List UInt8
  | [], stream => ([], stream)
  | message :: rest, stream =>
      let (outcome, stream) := writeFrame (serde message.1) message.2 stream
      let (outcomes, stream) := writeAll rest stream
      (outcome :: outcomes, stream)

/-- Reads that return the messages in order, each from the bytes of its frame and no others. -/
inductive Reads : List (List UInt8) → List Message → List (List UInt8) → Prop where
  | none {pieces : List (List UInt8)} : Reads pieces [] pieces
  | next {pieces between after : List (List UInt8)} {message : Message} {rest : List Message}
      (read : readFrame (serde message.1) pieces = (.ok message.2, between))
      (consumed : pieces.flatten = frame (serde message.1) message.2 ++ between.flatten)
      (others : Reads between rest after) : Reads pieces (message :: rest) after

variable {serde}

/-- The stream has the frames of the messages that can be sent. -/
theorem stream_writeAll (messages : List Message) (stream : List UInt8) :
    (writeAll serde messages stream).2 = stream ++
      (messages.filter fun message => isSendable (serde message.1) message.2).flatMap
        fun message => frame (serde message.1) message.2 := by
  induction messages generalizing stream with
  | nil => exact (List.append_nil stream).symm
  | cons message rest inductionHypothesis =>
      rw [writeAll]
      dsimp only
      rw [inductionHypothesis, stream_writeFrame, List.filter_cons]
      split
      · rw [List.flatMap_cons, List.append_assoc]
      · rw [List.append_nil]

/-- Frames on a stream are read in order, whatever its pieces are. -/
theorem reads_frames {messages : List Message}
    (sendable : ∀ message ∈ messages, isSendable (serde message.1) message.2)
    (roundTrips : ∀ message ∈ messages, RoundTrips (serde message.1) message.2)
    {pieces : List (List UInt8)} {rest : List UInt8}
    (joined : pieces.flatten =
      (messages.flatMap fun message => frame (serde message.1) message.2) ++ rest) :
    ∃ after, Reads serde pieces messages after ∧ after.flatten = rest := by
  induction messages generalizing pieces with
  | nil => exact ⟨pieces, .none, joined⟩
  | cons message others inductionHypothesis =>
      rw [List.forall_mem_cons] at sendable roundTrips
      rw [List.flatMap_cons, List.append_assoc] at joined
      obtain ⟨between, read, left⟩ := readFrame_frame roundTrips.1 sendable.1 joined
      obtain ⟨after, reads, atRest⟩ := inductionHypothesis sendable.2 roundTrips.2 left
      rw [← left] at joined
      exact ⟨after, .next read joined reads, atRest⟩

variable (serde) in
/-- What the frames of these messages are relied on for. -/
structure FramingHolds (messages : List Message) : Prop where
  written : ∀ message ∈ messages, ∀ stream, isSendable (serde message.1) message.2 →
    writeFrame (serde message.1) message.2 stream =
      (.ok (), stream ++ frame (serde message.1) message.2)
  rejected : ∀ message ∈ messages, ∀ payload stream,
    (serde message.1).toVec message.2 = .ok payload → maxControlFrameLen < payload.length →
      writeFrame (serde message.1) message.2 stream =
        (.error (frameTooLarge payload.length), stream)
  readBack : ∀ pieces rest, pieces.flatten = (writeAll serde messages []).2 ++ rest →
    ∃ after, Reads serde pieces
      (messages.filter fun message => isSendable (serde message.1) message.2) after ∧
        after.flatten = rest
  announced : ∀ (kind : FrameKind) pieces header body, pieces.flatten = header ++ body →
    header.length = 4 → maxControlFrameLen < BigEndian.decode header →
      ∃ after, readFrame (serde kind) pieces =
        (.error (frameTooLarge (BigEndian.decode header)), after) ∧ after.flatten = body

/-- Messages that `serde_json` gives back are framed and read back, however the stream splits
them. -/
theorem framing_round_trip (serde : (kind : FrameKind) → SerdeJson kind.Value)
    (messages : List Message)
    (roundTrips : ∀ message ∈ messages, RoundTrips (serde message.1) message.2) :
    FramingHolds serde messages where
  written message _ stream sendable := by
    obtain ⟨payload, serialized, small⟩ := isSendable_iff.mp sendable
    rw [writeFrame_of_le serialized small, frame_of_le serialized small, List.append_assoc]
  rejected message _ payload stream serialized large := writeFrame_of_lt serialized large stream
  readBack pieces rest joined := by
    rw [stream_writeAll, List.nil_append] at joined
    refine reads_frames ?_ ?_ joined
    · intro message member
      exact (List.mem_filter.mp member).2
    · intro message member
      exact roundTrips message (List.mem_filter.mp member).1
  announced kind pieces header body joined length large :=
    readFrame_of_announced joined length large

end Messages

/-! ## Messages as JSON -/

open Json

/-- A request in JSON, tagged by its action. -/
def encodeRequest (request : ServiceControlRequest) : Encoded :=
  let tagged (action : String) (fields : List Encoded) :=
    object (field "action" (string action) ::
      field "request_id" (option string request.requestId) :: fields)
  match request with
  | .pullService _ manifestYaml =>
      tagged "pull_service" [field "manifest_yaml" (string manifestYaml)]
  | .listServices _ => tagged "list_services" []
  | .getServiceLogs _ service tail =>
      tagged "get_service_logs" [field "service" (string service), field "tail" (number tail)]
  | .startService _ service => tagged "start_service" [field "service" (string service)]
  | .stopService _ service => tagged "stop_service" [field "service" (string service)]
  | .removeService _ service => tagged "remove_service" [field "service" (string service)]

/-- A message in JSON. -/
def encodeMessage : (kind : FrameKind) → kind.Value → Encoded
  | .request, request => encodeRequest request
  | .response, response => ServiceControlResponse.encode response

/-- Messages are written as compact JSON. -/
def jsonSerde (fromSlice : (kind : FrameKind) → List UInt8 → Except String kind.Value)
    (kind : FrameKind) : SerdeJson kind.Value where
  toVec value := .ok (Utf8.encode (encodeMessage kind value))
  fromSlice := fromSlice kind

/-- The frame of a response on the stream is its length and its JSON text. -/
theorem writeFrame_response
    (fromSlice : (kind : FrameKind) → List UInt8 → Except String kind.Value)
    {response : ServiceControlResponse} {controlFrame : ControlFrame}
    (written : ServiceRuns.writeFrame response = .ok controlFrame) (stream : List UInt8) :
    writeFrame (jsonSerde fromSlice .response) response stream =
      (.ok (), stream ++ BigEndian.encode 4 controlFrame.length.toNat ++
        Utf8.encode controlFrame.payload.toList) := by
  have length : (Utf8.encode response.encode).length = serializedFrameLen response := by
    rw [Utf8.length_encode, serializedFrameLen_eq]
  unfold ServiceRuns.writeFrame at written
  dsimp only at written
  split at written
  · cases written
  · next small =>
      split at written
      · next fits =>
          cases written
          have serialized : (jsonSerde fromSlice .response).toVec response =
              .ok (Utf8.encode response.encode) := rfl
          rw [writeFrame_of_le serialized (by rw [length]; exact Nat.not_lt.mp small), length,
            String.toList_ofList, UInt32.toNat_ofNat', Nat.mod_eq_of_lt fits]
      · cases written

/-- A reader that knows the text of one message of each kind. -/
def readOne : (kind : FrameKind) → List UInt8 → Except String kind.Value
  | .request, bytes =>
      if bytes = Utf8.encode (encodeRequest (.listServices none)) then .ok (.listServices none)
      else .error "expected value"
  | .response, bytes =>
      if bytes = Utf8.encode (ServiceControlResponse.success none "demo").encode then
        .ok (.success none "demo")
      else .error "expected value"

theorem framing_round_trip_two :
    let messages : List Message := [⟨.request, ServiceControlRequest.listServices none⟩,
      ⟨.response, ServiceControlResponse.success none "demo"⟩]
    (∀ message ∈ messages, isSendable (jsonSerde readOne message.1) message.2) ∧
      FramingHolds (jsonSerde readOne) messages := by
  intro messages
  refine ⟨?_, framing_round_trip (jsonSerde readOne) messages ?_⟩
  · rw [List.forall_mem_cons, List.forall_mem_singleton]
    exact ⟨by decide, by decide⟩
  · rw [List.forall_mem_cons, List.forall_mem_singleton]
    constructor
    · intro payload serialized
      cases serialized
      change readOne .request (Utf8.encode (encodeRequest (.listServices none))) = _
      rw [readOne, if_pos rfl]
    · intro payload serialized
      cases serialized
      change readOne .response (Utf8.encode (ServiceControlResponse.success none "demo").encode) = _
      rw [readOne, if_pos rfl]

end Fungi.Daemon.FrameStream
