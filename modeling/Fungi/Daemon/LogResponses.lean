import Fungi.Daemon.ControlFrames
import Fungi.Lib.LongestSuffix

/-!
# Bounded log responses

How much of a log `bounded_service_log_response` sends.  The log is first cut to the bytes of a
remote log and then to the frame; the notice that it was cut counts in both.
-/

namespace Fungi.Daemon.ServiceRuns

open Fungi.Lib Fungi.Runtime

/-! ## The two limits -/

/-- The text and the response that carries it are short enough. -/
structure MeetsLimits (requestId : Option String) (service text : String) : Prop where
  frame : fitsFrame (.successLogs requestId service text)
  bytes : text.utf8ByteSize ≤ maxRemoteServiceLogBytes

/-- What is left of a log, after the notice. -/
def noticed (suffix : List Char) : String := remoteLogTruncationNotice ++ .ofList suffix

/-- The log is whole, and it can be sent so. -/
def SentWhole (requestId : Option String) (service : String) (logs : BoundedLogText) : Prop :=
  logs.truncated = false ∧ MeetsLimits requestId service logs.text

/-- The text is the log if that can be sent, and else as much of its end as the limits leave. -/
structure Carries (requestId : Option String) (service : String) (logs : BoundedLogText)
    (text : String) : Prop where
  limits : MeetsLimits requestId service text
  whole : SentWhole requestId service logs → text = logs.text
  shortened : ¬ SentWhole requestId service logs → ∃ suffix, text = noticed suffix ∧
    LongestSuffix (fun suffix => MeetsLimits requestId service (noticed suffix)) logs.text.toList
      suffix

/-- The response to a request for the log is bounded. -/
def RespondsBounded (requestId : Option String) (service : String) (logs : BoundedLogText) :
    Prop :=
  ∃ text, boundedServiceLogResponse requestId service logs =
    .ok (.successLogs requestId service text) ∧ Carries requestId service logs text

/-- There is something to send: the log or the notice. -/
def LeavesRoom (requestId : Option String) (service : String) (logs : BoundedLogText) : Prop :=
  SentWhole requestId service logs ∨ fitsFrame (.successLogs requestId service (noticed []))

/-- Once the frame has room for the notice and an end of the log, these are within the bytes. -/
def FrameBoundsBytes (requestId : Option String) (service : String) (logs : BoundedLogText) :
    Prop :=
  ∀ suffix, suffix <:+ logs.text.toList →
    fitsFrame (.successLogs requestId service (noticed suffix)) →
      (noticed suffix).utf8ByteSize ≤ maxRemoteServiceLogBytes

/-! ## Sizes -/

section Limits

variable {requestId : Option String} {service : String} {logs : BoundedLogText}

theorem utf8ByteSize_noticed (suffix : List Char) :
    (noticed suffix).utf8ByteSize = remoteLogTruncationNotice.utf8ByteSize + Json.size suffix := by
  rw [noticed, String.utf8ByteSize_append, Json.utf8ByteSize_ofList]

theorem fitsFrame_noticed_iff {suffix : List Char} :
    fitsFrame (.successLogs requestId service (noticed suffix)) ↔
      84 + requestIdSize requestId + Json.stringSize service +
        (Json.stringSize remoteLogTruncationNotice + Json.embeddedSize suffix) ≤
          maxControlFrameLen := by
  rw [fitsFrame, decide_eq_true_eq, serializedFrameLen_successLogs, noticed, stringSize_append,
    String.toList_ofList]

theorem fitsFrame_suffixClosed :
    SuffixClosed fun suffix => fitsFrame (.successLogs requestId service (noticed suffix)) := by
  intro whole suffix isSuffix fits
  rw [fitsFrame_noticed_iff] at fits ⊢
  have shorter : Json.embeddedSize suffix ≤ Json.embeddedSize whole :=
    Json.weigh_le_of_suffix _ isSuffix
  omega

theorem bytes_suffixClosed :
    SuffixClosed fun suffix => (noticed suffix).utf8ByteSize ≤ maxRemoteServiceLogBytes := by
  intro whole suffix isSuffix small
  rw [utf8ByteSize_noticed] at small ⊢
  have shorter : Json.size suffix ≤ Json.size whole := Json.weigh_le_of_suffix _ isSuffix
  omega

/-! ## Cutting to the bytes -/

/-- The bytes dropped are those above the budget and the rest of a character. -/
theorem longestSuffix_dropBytes (text : List Char) (budget : Nat) :
    LongestSuffix (fun suffix => Json.size suffix ≤ budget) text
      (dropBytes (Json.size text - budget) text) := by
  induction text with
  | nil =>
      rw [show Json.size [] - budget = 0 from Nat.zero_sub budget, dropBytes]
      exact .self (Nat.zero_le budget)
  | cons character rest inductionHypothesis =>
      by_cases small : Json.size (character :: rest) ≤ budget
      · rw [Nat.sub_eq_zero_of_le small, dropBytes]
        exact .self small
      · obtain ⟨above, isAbove⟩ : ∃ above, Json.size (character :: rest) - budget = above + 1 :=
          ⟨Json.size (character :: rest) - budget - 1, by omega⟩
        have next : above + 1 - character.utf8Size = Json.size rest - budget := by
          rw [Json.size_cons] at isAbove
          omega
        rw [isAbove, dropBytes, next]
        exact inductionHypothesis.cons small

/-- A log that is cut, or has to be, keeps the longest end that leaves room for the notice. -/
theorem limitRemoteLogContent_of_cut
    (cut : logs.truncated ∨ maxRemoteServiceLogBytes < logs.text.utf8ByteSize) :
    ∃ content, limitRemoteLogContent logs.text logs.truncated = (.ofList content, true) ∧
      LongestSuffix (fun suffix => (noticed suffix).utf8ByteSize ≤ maxRemoteServiceLogBytes)
        logs.text.toList content := by
  have noticeFits : remoteLogTruncationNotice.utf8ByteSize ≤ maxRemoteServiceLogBytes := by decide
  have budgets : (fun suffix => (noticed suffix).utf8ByteSize ≤ maxRemoteServiceLogBytes) =
      fun suffix => Json.size suffix ≤
        maxRemoteServiceLogBytes - remoteLogTruncationNotice.utf8ByteSize := by
    funext suffix
    rw [utf8ByteSize_noticed]
    exact propext (by omega)
  rw [budgets]
  unfold limitRemoteLogContent
  dsimp only
  split
  · refine ⟨dropBytes (logs.text.utf8ByteSize - (maxRemoteServiceLogBytes -
      remoteLogTruncationNotice.utf8ByteSize)) logs.text.toList, rfl, ?_⟩
    rw [Json.utf8ByteSize_eq logs.text]
    exact longestSuffix_dropBytes _ _
  · next small =>
      rw [Nat.not_lt] at small
      have truncated : logs.truncated = true := by
        rcases cut with truncated | long
        · exact truncated
        · omega
      refine ⟨logs.text.toList, ?_, .self ?_⟩
      · rw [truncated, String.ofList_toList]
      · rw [truncated, Json.utf8ByteSize_eq] at small
        simpa using small

theorem limitRemoteLogContent_of_whole (whole : logs.truncated = false)
    (small : logs.text.utf8ByteSize ≤ maxRemoteServiceLogBytes) :
    limitRemoteLogContent logs.text logs.truncated = (logs.text, false) := by
  rw [limitRemoteLogContent, whole, if_neg]
  simpa using small

/-! ## Cutting to the frame -/

/-- No boundary before the one found fits. -/
theorem searchBoundary_least {fits : Nat → Bool}
    (upward : ∀ first second, first ≤ second → fits first → fits second) (low high : Nat) :
    ∀ index, low ≤ index → index < searchBoundary fits low high → ¬ fits index := by
  induction low, high using searchBoundary.induct fits with
  | case1 low high below middle fitting inductionHypothesis =>
      rw [searchBoundary, if_pos below, if_pos fitting]
      exact inductionHypothesis
  | case2 low high below middle large inductionHypothesis =>
      rw [searchBoundary, if_pos below, if_neg large]
      intro index above before fitting
      by_cases later : middle < index
      · exact inductionHypothesis index later before fitting
      · exact large (upward index middle (Nat.not_lt.mp later) fitting)
  | case3 low high done =>
      rw [searchBoundary, if_neg done]
      intro index above before
      omega

theorem logCandidate_eq (content : String) (boundary : Nat) :
    logCandidate requestId service content boundary =
      .successLogs requestId service (noticed (content.toList.drop boundary)) := rfl

/-- The search keeps the longest end that fits the frame. -/
theorem longestSuffix_searchBoundary (content : String)
    (room : fitsFrame (.successLogs requestId service (noticed []))) :
    LongestSuffix (fun suffix => fitsFrame (.successLogs requestId service (noticed suffix)))
      content.toList (content.toList.drop (searchBoundary
        (fun middle => fitsFrame (logCandidate requestId service content middle)) 0
        content.toList.length)) := by
  apply LongestSuffix.drop
  · apply (searchBoundary_spec
      (fun middle => fitsFrame (logCandidate requestId service content middle))
      (Nat.zero_le _)).2
    rw [logCandidate_eq, List.drop_length]
    exact room
  · intro index before
    refine searchBoundary_least ?_ 0 _ index (Nat.zero_le _) before
    intro first second below fits
    exact fitsFrame_suffixClosed _ _ (List.drop_suffix_drop_left content.toList below) fits

/-- Limited content that does not fit is searched. -/
theorem boundedServiceLogResponse_of_large {content : String} {truncated : Bool}
    (limited : limitRemoteLogContent logs.text logs.truncated = (content, truncated))
    (large : ¬ fitsFrame (.successLogs requestId service
      (renderRemoteLogText content truncated)))
    (room : fitsFrame (.successLogs requestId service (noticed []))) :
    ∃ suffix, boundedServiceLogResponse requestId service logs =
        .ok (.successLogs requestId service (noticed suffix)) ∧
      LongestSuffix (fun suffix => fitsFrame (.successLogs requestId service (noticed suffix)))
        content.toList suffix := by
  have longest := longestSuffix_searchBoundary content room
  refine ⟨_, ?_, longest⟩
  have fits := longest.held
  rw [← logCandidate_eq] at fits ⊢
  unfold boundedServiceLogResponse
  rw [limited]
  dsimp only
  rw [if_neg large, if_pos fits]

/-- A log that is cut carries the longest end within both limits. -/
theorem respondsBounded_of_cut
    (cut : logs.truncated ∨ maxRemoteServiceLogBytes < logs.text.utf8ByteSize)
    (room : LeavesRoom requestId service logs) : RespondsBounded requestId service logs := by
  have notWhole : ¬ SentWhole requestId service logs := by
    rintro ⟨whole, limits⟩
    rcases cut with truncated | long
    · rw [whole] at truncated
      cases truncated
    · exact absurd limits.bytes (Nat.not_le.mpr long)
  have noticeFits := room.resolve_left notWhole
  obtain ⟨content, limited, withinBytes⟩ := limitRemoteLogContent_of_cut cut
  obtain ⟨suffix, responds, withinFrame⟩ : ∃ suffix,
      boundedServiceLogResponse requestId service logs =
        .ok (.successLogs requestId service (noticed suffix)) ∧
      LongestSuffix (fun suffix => fitsFrame (.successLogs requestId service (noticed suffix)))
        content suffix := by
    by_cases fits : fitsFrame (.successLogs requestId service (noticed content))
    · refine ⟨content, ?_, .self fits⟩
      unfold boundedServiceLogResponse
      rw [limited]
      exact if_pos fits
    · rw [← String.toList_ofList (l := content)]
      exact boundedServiceLogResponse_of_large limited fits noticeFits
  have longest := LongestSuffix.and bytes_suffixClosed withinBytes withinFrame
  have limits : MeetsLimits requestId service (noticed suffix) :=
    ⟨longest.held.2, longest.held.1⟩
  refine ⟨noticed suffix, responds, limits, fun whole => absurd whole notWhole, fun _ => ?_⟩
  exact ⟨suffix, rfl, longest.narrow limits fun _ _ meets => ⟨meets.bytes, meets.frame⟩⟩

/-! ## Logs that need no cut for their bytes -/

section Whole

variable (whole : logs.truncated = false)
  (small : logs.text.utf8ByteSize ≤ maxRemoteServiceLogBytes)
include whole small

theorem respondsBounded_of_fits
    (fits : fitsFrame (.successLogs requestId service logs.text)) :
    RespondsBounded requestId service logs := by
  have limits : MeetsLimits requestId service logs.text := ⟨fits, small⟩
  refine ⟨logs.text, ?_, limits, fun _ => rfl, fun notWhole => absurd ⟨whole, limits⟩ notWhole⟩
  unfold boundedServiceLogResponse
  rw [limitRemoteLogContent_of_whole whole small]
  exact if_pos fits

/-- The search looks at the frame only. -/
theorem boundedServiceLogResponse_of_whole
    (large : ¬ fitsFrame (.successLogs requestId service logs.text))
    (room : fitsFrame (.successLogs requestId service (noticed []))) :
    ∃ suffix, boundedServiceLogResponse requestId service logs =
        .ok (.successLogs requestId service (noticed suffix)) ∧
      LongestSuffix (fun suffix => fitsFrame (.successLogs requestId service (noticed suffix)))
        logs.text.toList suffix := by
  exact boundedServiceLogResponse_of_large (limitRemoteLogContent_of_whole whole small) large room

theorem respondsBounded_of_large
    (large : ¬ fitsFrame (.successLogs requestId service logs.text))
    (room : fitsFrame (.successLogs requestId service (noticed [])))
    (binds : FrameBoundsBytes requestId service logs) : RespondsBounded requestId service logs := by
  obtain ⟨suffix, responds, longest⟩ := boundedServiceLogResponse_of_whole whole small large room
  have limits : MeetsLimits requestId service (noticed suffix) :=
    ⟨longest.held, binds suffix longest.isSuffix longest.held⟩
  refine ⟨noticed suffix, responds, limits, fun sent => absurd sent.2.frame large, fun _ => ?_⟩
  exact ⟨suffix, rfl, longest.narrow limits fun _ _ meets => meets.frame⟩

/-- A text longer than the limit is sent where the frame leaves more bytes than the limit. -/
theorem exists_oversized_of_large
    (large : ¬ fitsFrame (.successLogs requestId service logs.text)) {suffix : List Char}
    (isSuffix : suffix <:+ logs.text.toList)
    (fits : fitsFrame (.successLogs requestId service (noticed suffix)))
    (exceeds : maxRemoteServiceLogBytes < (noticed suffix).utf8ByteSize) :
    ∃ text, boundedServiceLogResponse requestId service logs =
      .ok (.successLogs requestId service text) ∧ maxRemoteServiceLogBytes < text.utf8ByteSize := by
  have room := fitsFrame_suffixClosed suffix [] List.nil_suffix fits
  obtain ⟨longer, responds, longest⟩ := boundedServiceLogResponse_of_whole whole small large room
  refine ⟨noticed longer, responds, ?_⟩
  have contained := longest.contains isSuffix fits
  by_contra within
  have shorter := bytes_suffixClosed longer suffix contained (Nat.not_lt.mp within)
  exact absurd exceeds (Nat.not_lt.mpr shorter)

end Whole

theorem not_respondsBounded_of_oversized {text : String}
    (responds : boundedServiceLogResponse requestId service logs =
      .ok (.successLogs requestId service text))
    (exceeds : maxRemoteServiceLogBytes < text.utf8ByteSize) :
    ¬ RespondsBounded requestId service logs := by
  rintro ⟨other, respondsOther, carries⟩
  rw [responds] at respondsOther
  cases respondsOther
  exact absurd carries.limits.bytes (Nat.not_le.mpr exceeds)

/-- A log response is bounded exactly if the log is cut for its bytes, fits the frame, or has no end
that fits the frame with the notice and has too many bytes. -/
theorem log_response_bounded_iff (room : LeavesRoom requestId service logs) :
    RespondsBounded requestId service logs ↔
      logs.truncated ∨ maxRemoteServiceLogBytes < logs.text.utf8ByteSize ∨
        fitsFrame (.successLogs requestId service logs.text) ∨
          FrameBoundsBytes requestId service logs := by
  by_cases cut : logs.truncated ∨ maxRemoteServiceLogBytes < logs.text.utf8ByteSize
  · exact iff_of_true (respondsBounded_of_cut cut room) (or_assoc.mp (Or.inl cut))
  · rw [← or_assoc, or_iff_right cut]
    rw [not_or, Bool.not_eq_true, Nat.not_lt] at cut
    obtain ⟨whole, small⟩ := cut
    by_cases fits : fitsFrame (.successLogs requestId service logs.text)
    · exact iff_of_true (respondsBounded_of_fits whole small fits) (Or.inl fits)
    · rw [or_iff_right fits]
      constructor
      · intro bounded suffix isSuffix fitsNoticed
        by_contra exceeds
        obtain ⟨text, responds, oversized⟩ := exists_oversized_of_large whole small fits isSuffix
          fitsNoticed (Nat.not_le.mp exceeds)
        exact not_respondsBounded_of_oversized responds oversized bounded
      · have noticeFits := room.resolve_left fun sent => fits sent.2.frame
        exact respondsBounded_of_large whole small fits noticeFits

end Limits

/-! ## Logs of control characters and letters -/

/-- Control characters, which take six bytes of the frame each, and letters. -/
def mixedLog (controls letters : Nat) : List Char :=
  .replicate controls (Char.ofNat 0) ++ .replicate letters 'x'

theorem size_mixedLog (controls letters : Nat) :
    Json.size (mixedLog controls letters) = controls + letters := by
  have control : Char.utf8Size (Char.ofNat 0) = 1 := rfl
  have letter : Char.utf8Size 'x' = 1 := rfl
  rw [mixedLog, Json.size_append, Json.size, Json.size, Json.weigh_replicate,
    Json.weigh_replicate, control, letter]
  omega

theorem embeddedSize_mixedLog (controls letters : Nat) :
    Json.embeddedSize (mixedLog controls letters) = 6 * controls + letters := by
  have control : Json.size (Json.escape (Char.ofNat 0)) = 6 := rfl
  have letter : Json.size (Json.escape 'x') = 1 := rfl
  rw [mixedLog, Json.embeddedSize_append, Json.embeddedSize, Json.embeddedSize,
    Json.weigh_replicate, Json.weigh_replicate, control, letter]
  omega

theorem mixedLog_suffix {fewer controls : Nat} (below : fewer ≤ controls) (letters : Nat) :
    mixedLog fewer letters <:+ mixedLog controls letters := by
  refine ⟨.replicate (controls - fewer) (Char.ofNat 0), ?_⟩
  rw [mixedLog, ← List.append_assoc, List.replicate_append_replicate, Nat.sub_add_cancel below,
    mixedLog]

/-- A log that is cut to the bytes, and then again to the frame. -/
theorem log_response_bounded_iff_cut_twice :
    let logs : BoundedLogText :=
      { text := .ofList (mixedLog 500000 100000), truncated := false }
    ¬ SentWhole none "demo" logs ∧
      ¬ fitsFrame (.successLogs none "demo" (noticed (mixedLog 424252 100000))) ∧
      RespondsBounded none "demo" logs := by
  intro logs
  have sizes : 84 + requestIdSize none + Json.stringSize "demo" = 94 ∧
      Json.stringSize remoteLogTruncationNotice = 39 ∧
      maxControlFrameLen = 2097152 ∧ maxRemoteServiceLogBytes = 524288 := by decide
  obtain ⟨header, embeddedNotice, frame, bytes⟩ := sizes
  have long : maxRemoteServiceLogBytes < logs.text.utf8ByteSize := by
    rw [Json.utf8ByteSize_ofList, size_mixedLog, bytes]
    omega
  have room : fitsFrame (.successLogs none "demo" (noticed [])) := by
    rw [fitsFrame_noticed_iff, header, embeddedNotice, frame]
    decide
  refine ⟨fun sent => absurd sent.2.bytes (Nat.not_le.mpr long), ?_,
    (log_response_bounded_iff (.inr room)).mpr (.inr (.inl long))⟩
  rw [fitsFrame_noticed_iff, header, embeddedNotice, embeddedSize_mixedLog, frame]
  omega

/-- A log of as many bytes as a remote log may have, which the frame cannot hold, is sent with more
bytes. -/
theorem log_response_exceeds_bytes :
    let logs : BoundedLogText :=
      { text := .ofList (mixedLog 314560 209728), truncated := false }
    LeavesRoom none "demo" logs ∧
      (∃ text, boundedServiceLogResponse none "demo" logs = .ok (.successLogs none "demo" text) ∧
        maxRemoteServiceLogBytes < text.utf8ByteSize) ∧
      ¬ RespondsBounded none "demo" logs := by
  intro logs
  have sizes : 84 + requestIdSize none + Json.stringSize "demo" = 94 ∧
      Json.stringSize remoteLogTruncationNotice = 39 ∧
      remoteLogTruncationNotice.utf8ByteSize = 36 ∧
      maxControlFrameLen = 2097152 ∧ maxRemoteServiceLogBytes = 524288 := by decide
  obtain ⟨header, embeddedNotice, notice, frame, bytes⟩ := sizes
  have small : logs.text.utf8ByteSize ≤ maxRemoteServiceLogBytes := by
    rw [Json.utf8ByteSize_ofList, size_mixedLog, bytes]
  have large : ¬ fitsFrame (.successLogs none "demo" logs.text) := by
    rw [fitsFrame, decide_eq_true_eq, serializedFrameLen_successLogs, header, Json.stringSize,
      String.toList_ofList, embeddedSize_mixedLog, frame]
    omega
  have fits : fitsFrame (.successLogs none "demo" (noticed (mixedLog 314548 209728))) := by
    rw [fitsFrame_noticed_iff, header, embeddedNotice, embeddedSize_mixedLog, frame]
    omega
  have isSuffix : mixedLog 314548 209728 <:+ logs.text.toList := by
    rw [String.toList_ofList]
    exact mixedLog_suffix (by omega) _
  have exceeds : maxRemoteServiceLogBytes < (noticed (mixedLog 314548 209728)).utf8ByteSize := by
    rw [utf8ByteSize_noticed, size_mixedLog, notice, bytes]
    omega
  have room : fitsFrame (.successLogs none "demo" (noticed [])) :=
    fitsFrame_suffixClosed _ [] List.nil_suffix fits
  obtain ⟨text, responds, oversized⟩ :=
    exists_oversized_of_large rfl small large isSuffix fits exceeds
  exact ⟨.inr room, ⟨text, responds, oversized⟩,
    not_respondsBounded_of_oversized responds oversized⟩

end Fungi.Daemon.ServiceRuns
