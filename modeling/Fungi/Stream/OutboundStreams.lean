import Mathlib.Data.List.Basic
import Mathlib.Data.List.Range
import Fungi.Lib.Run

/-!
# Outbound streams

The requests of `Control::open_stream_by_id` in `crates/stream/src/control.rs`, which wait for the
`Handler` of their connection in `crates/stream/src/handler.rs`.  The handler asks for one substream
at a time, and an outcome does not say which request it belongs to.
-/

namespace Fungi.Stream

open Fungi.Lib

variable {StreamProtocol Stream : Type}

/-- `response` tells the channel of a call from that of every other one. -/
structure OpenRequest (StreamProtocol : Type) where
  protocol : StreamProtocol
  response : Nat
  deriving DecidableEq

/-- An error of the connection. -/
inductive IoError where
  | timedOut
  | other (text : String)
  deriving DecidableEq

/-- How the negotiation of a stream fails. -/
inductive StreamUpgradeError where
  | timeout
  | negotiationFailed
  | io (error : IoError)
  deriving DecidableEq

/-- The errors with which the handler answers a request. -/
inductive OpenStreamError (StreamProtocol : Type) where
  | unsupportedProtocol (protocol : StreamProtocol)
  | io (error : IoError)
  deriving DecidableEq

/-- What becomes of a substream that was asked for. -/
inductive UpgradeOutcome (StreamProtocol Stream : Type) where
  | fullyNegotiatedOutbound (stream : Stream) (actualProtocol : StreamProtocol)
  | dialUpgradeError (error : StreamUpgradeError)
  deriving DecidableEq

/-- The answer to a request for the protocol. -/
def UpgradeOutcome.answer (self : UpgradeOutcome StreamProtocol Stream)
    (protocol : StreamProtocol) : Except (OpenStreamError StreamProtocol) Stream :=
  match self with
  | .fullyNegotiatedOutbound stream _ => .ok stream
  | .dialUpgradeError .timeout => .error (.io .timedOut)
  | .dialUpgradeError .negotiationFailed => .error (.unsupportedProtocol protocol)
  | .dialUpgradeError (.io error) => .error (.io error)

/-- A response on the channel of a call. -/
abbrev Response (StreamProtocol Stream : Type) :=
  Nat × Except (OpenStreamError StreamProtocol) Stream

/-- The requests that wait, and the one that is negotiated. -/
structure Handler (StreamProtocol : Type) where
  receiver : List (OpenRequest StreamProtocol)
  pendingUpgrade : Option (StreamProtocol × Nat)

namespace Handler

/-- A handler without requests. -/
def new : Handler StreamProtocol := { receiver := [], pendingUpgrade := none }

/-- Answers the protocol of the substream it asks for, if it asks for one. -/
def poll (self : Handler StreamProtocol) : Option StreamProtocol × Handler StreamProtocol :=
  if self.pendingUpgrade.isSome then (none, self)
  else
    match self.receiver with
    | request :: receiver =>
        (some request.protocol,
          { receiver, pendingUpgrade := some (request.protocol, request.response) })
    | [] => (none, self)

/-- An outcome without a pending upgrade is dropped. -/
def onConnectionEvent (self : Handler StreamProtocol)
    (outcome : UpgradeOutcome StreamProtocol Stream) :
    Option (Response StreamProtocol Stream) × Handler StreamProtocol :=
  match self.pendingUpgrade with
  | none => (none, self)
  | some (protocol, response) =>
      (some (response, outcome.answer protocol), { self with pendingUpgrade := none })

end Handler

/-! ## A connection -/

/-- A handler with its history: the requests sent to it, the substreams it asked for, the outcomes
with the substream each is of, and the responses. -/
structure OutboundStreams (StreamProtocol Stream : Type) where
  handler : Handler StreamProtocol
  opened : List (OpenRequest StreamProtocol)
  requested : List StreamProtocol
  outcomes : List (Nat × UpgradeOutcome StreamProtocol Stream)
  responses : List (Response StreamProtocol Stream)

/-- A request, a poll, or the outcome of a negotiation. -/
inductive OutboundStep (StreamProtocol Stream : Type) where
  | openStream (protocol : StreamProtocol)
  | poll
  | outcome (substream : Nat) (outcome : UpgradeOutcome StreamProtocol Stream)

/-- A substream is negotiated for the one protocol it was asked for. -/
def UpgradeOutcome.Negotiates (self : UpgradeOutcome StreamProtocol Stream)
    (protocol : StreamProtocol) : Prop :=
  match self with
  | .fullyNegotiatedOutbound _ actualProtocol => actualProtocol = protocol
  | .dialUpgradeError _ => True

instance [DecidableEq StreamProtocol] (outcome : UpgradeOutcome StreamProtocol Stream)
    (protocol : StreamProtocol) : Decidable (outcome.Negotiates protocol) :=
  match outcome with
  | .fullyNegotiatedOutbound _ actualProtocol =>
      inferInstanceAs (Decidable (actualProtocol = protocol))
  | .dialUpgradeError _ => inferInstanceAs (Decidable True)

namespace OutboundStreams

/-- Nothing has been requested. -/
def start : OutboundStreams StreamProtocol Stream :=
  { handler := Handler.new, opened := [], requested := [], outcomes := [], responses := [] }

variable [DecidableEq StreamProtocol]

/-- The substream was asked for, and has had no outcome. -/
def Awaits (self : OutboundStreams StreamProtocol Stream) (substream : Nat)
    (outcome : UpgradeOutcome StreamProtocol Stream) : Prop :=
  (∃ protocol ∈ self.requested[substream]?, outcome.Negotiates protocol) ∧
    substream ∉ self.outcomes.map Prod.fst

instance (self : OutboundStreams StreamProtocol Stream) (substream : Nat)
    (outcome : UpgradeOutcome StreamProtocol Stream) :
    Decidable (self.Awaits substream outcome) :=
  inferInstanceAs (Decidable (_ ∧ _))

/-- What a step does. -/
def step (self : OutboundStreams StreamProtocol Stream) :
    OutboundStep StreamProtocol Stream → Option (OutboundStreams StreamProtocol Stream)
  | .openStream protocol =>
      let request := { protocol, response := self.opened.length }
      some
        { self with
          handler := { self.handler with receiver := self.handler.receiver ++ [request] }
          opened := self.opened ++ [request] }
  | .poll =>
      let polled := self.handler.poll
      some
        { self with
          handler := polled.2
          requested := self.requested ++ polled.1.toList }
  | .outcome substream outcome =>
      if self.Awaits substream outcome then
        let answered := self.handler.onConnectionEvent outcome
        some
          { self with
            handler := answered.2
            outcomes := self.outcomes ++ [(substream, outcome)]
            responses := self.responses ++ answered.1.toList }
      else none

/-- Every request is answered, pending or waiting, in the order in which the requests were sent. -/
structure Paired (state : OutboundStreams StreamProtocol Stream) : Prop where
  responders : state.opened.map (fun request => request.response) = List.range state.opened.length
  requested : state.requested =
    (state.opened.take state.requested.length).map fun request => request.protocol
  waiting : state.opened.drop state.requested.length = state.handler.receiver
  substreams : state.outcomes.map Prod.fst = List.range state.outcomes.length
  responses : state.responses.length = state.outcomes.length
  answered : ∀ (index : Nat) request outcome, state.opened[index]? = some request →
    state.outcomes[index]? = some outcome →
      state.responses[index]? = some (request.response, outcome.2.answer request.protocol)
  idle : state.handler.pendingUpgrade = none → state.requested.length = state.outcomes.length
  pending : ∀ protocol response, state.handler.pendingUpgrade = some (protocol, response) →
    state.requested.length = state.outcomes.length + 1 ∧
      state.opened[state.outcomes.length]? = some { protocol, response }

omit [DecidableEq StreamProtocol] in
theorem Paired.start : Paired (start : OutboundStreams StreamProtocol Stream) where
  responders := rfl
  requested := rfl
  waiting := rfl
  substreams := rfl
  responses := rfl
  answered := nofun
  idle := fun _ => rfl
  pending := nofun

section Steps

variable {state next : OutboundStreams StreamProtocol Stream}

omit [DecidableEq StreamProtocol] in
theorem Paired.requested_length_le (paired : Paired state) :
    state.requested.length ≤ state.opened.length := by
  have lengths := congrArg List.length paired.requested
  rw [List.length_map, List.length_take] at lengths
  omega

omit [DecidableEq StreamProtocol] in
theorem Paired.outcomes_length (paired : Paired state) :
    state.outcomes.length ≤ state.requested.length ∧
      state.requested.length ≤ state.outcomes.length + 1 := by
  cases pending : state.handler.pendingUpgrade with
  | none =>
      have same := paired.idle pending
      omega
  | some upgrade =>
      have one := (paired.pending upgrade.1 upgrade.2 pending).1
      omega

theorem Paired.openStream (paired : Paired state) {protocol : StreamProtocol}
    (taken : state.step (.openStream protocol) = some next) : Paired next := by
  obtain rfl := Option.some.inj taken
  have requestedBound := paired.requested_length_le
  have outcomesBound := paired.outcomes_length.1
  have before : ∀ {index : Nat} {request last : OpenRequest StreamProtocol},
      index < state.opened.length → (state.opened ++ [last])[index]? = some request →
        state.opened[index]? = some request := by
    intro index request last inside found
    rwa [List.getElem?_append_left inside] at found
  refine ⟨?_, ?_, ?_, paired.substreams, paired.responses, ?_, paired.idle, ?_⟩
  · simp [paired.responders, List.range_succ]
  · dsimp only
    rw [List.take_append_of_le_length requestedBound]
    exact paired.requested
  · dsimp only
    rw [List.drop_append_of_le_length requestedBound, paired.waiting]
  · intro index request outcome found arrived
    have inside : index < state.outcomes.length := (List.getElem?_eq_some_iff.mp arrived).1
    exact paired.answered index request outcome (before (by omega) found) arrived
  · intro pendingProtocol response isPending
    obtain ⟨one, found⟩ := paired.pending pendingProtocol response isPending
    have inside : state.outcomes.length < state.opened.length := by omega
    refine ⟨one, ?_⟩
    dsimp only
    rw [List.getElem?_append_left inside]
    exact found

theorem Paired.poll (paired : Paired state) (taken : state.step .poll = some next) :
    Paired next := by
  obtain rfl := Option.some.inj taken
  unfold Handler.poll
  split
  · simpa using paired
  · next idle =>
      rw [Bool.not_eq_true, Option.isSome_eq_false_iff, Option.isNone_iff_eq_none] at idle
      have same := paired.idle idle
      cases waiting : state.handler.receiver with
      | nil => simpa [waiting] using paired
      | cons request receiver =>
          have dropped := paired.waiting.trans waiting
          have isNext : state.opened[state.requested.length]? = some request := by
            rw [← List.head?_drop, dropped, List.head?_cons]
          refine ⟨paired.responders, ?_, ?_, paired.substreams, paired.responses,
            paired.answered, nofun, ?_⟩
          · simp only [Option.toList_some, List.length_append, List.length_singleton]
            rw [List.take_add_one, isNext, Option.toList_some, List.map_append, ← paired.requested]
            rfl
          · simp only [Option.toList_some, List.length_append, List.length_singleton]
            rw [← List.drop_drop, dropped, List.drop_one, List.tail_cons]
          · rintro protocol response same'
            cases same'
            refine ⟨by simp [same], ?_⟩
            rw [← same]
            exact isNext

omit [DecidableEq StreamProtocol] in
/-- The substream with an outcome is the last one asked for, and its request is pending. -/
theorem Paired.pending_of_awaits (paired : Paired state) {substream : Nat}
    {outcome : UpgradeOutcome StreamProtocol Stream} (awaits : state.Awaits substream outcome) :
    substream = state.outcomes.length ∧
      ∃ upgrade, state.handler.pendingUpgrade = some upgrade := by
  obtain ⟨⟨protocol, asked, -⟩, isNew⟩ := awaits
  have inside := (List.getElem?_eq_some_iff.mp asked).1
  rw [paired.substreams, List.mem_range] at isNew
  have lengths := paired.outcomes_length
  refine ⟨by omega, Option.ne_none_iff_exists'.mp fun idle => ?_⟩
  have same := paired.idle idle
  omega

theorem Paired.outcome (paired : Paired state) {substream : Nat}
    {outcome : UpgradeOutcome StreamProtocol Stream}
    (taken : state.step (.outcome substream outcome) = some next) : Paired next := by
  obtain ⟨awaits, taken⟩ := Option.ite_none_right_eq_some.mp taken
  obtain ⟨rfl, ⟨protocol, response⟩, isPending⟩ := paired.pending_of_awaits awaits
  obtain ⟨one, isOpened⟩ := paired.pending protocol response isPending
  simp only [Handler.onConnectionEvent, isPending, Option.toList_some] at taken
  obtain rfl := Option.some.inj taken
  refine ⟨paired.responders, paired.requested, paired.waiting, ?_, ?_, ?_, fun _ => ?_, nofun⟩
  · simp [paired.substreams, List.range_succ]
  · simp [paired.responses]
  · intro index request arrived found isArrived
    dsimp only at isArrived ⊢
    rcases Nat.lt_trichotomy index state.outcomes.length with earlier | rfl | later
    · rw [List.getElem?_append_left earlier] at isArrived
      rw [List.getElem?_append_left (paired.responses ▸ earlier)]
      exact paired.answered index request arrived found isArrived
    · rw [List.getElem?_concat_length, Option.some.injEq] at isArrived
      obtain rfl := Option.some.inj (isOpened.symm.trans found)
      rw [← isArrived, ← paired.responses, List.getElem?_concat_length]
    · rw [List.getElem?_eq_none (by simpa using Nat.succ_le_of_lt later)] at isArrived
      cases isArrived
  · simpa using one

theorem Paired.step (paired : Paired state) {action : OutboundStep StreamProtocol Stream}
    (taken : state.step action = some next) : Paired next := by
  cases action with
  | openStream protocol => exact paired.openStream taken
  | poll => exact paired.poll taken
  | outcome substream outcome => exact paired.outcome taken

end Steps

/-- One substream at a time is asked for, in the order of the requests, and each request receives
exactly the response to the outcome of its own substream. -/
structure OneToOne (state : OutboundStreams StreamProtocol Stream) : Prop where
  atMostOne : state.requested.length ≤ state.outcomes.length + 1
  pending : state.handler.pendingUpgrade.isSome = true ↔
    state.requested.length = state.outcomes.length + 1
  negotiated : ∀ (index : Nat) protocol, state.requested[index]? = some protocol →
    ∃ request, state.opened[index]? = some request ∧ request.protocol = protocol
  outcomeOf : ∀ (index : Nat) outcome, state.outcomes[index]? = some outcome → outcome.1 = index
  received : ∀ (index : Nat) request, state.opened[index]? = some request →
    state.responses.filter (fun response => response.1 = request.response) =
      state.outcomes[index]?.toList.map fun outcome =>
        (request.response, outcome.2.answer request.protocol)
  onlyRequests : ∀ response ∈ state.responses,
    ∃ request ∈ state.opened, request.response = response.1
  responders : (state.opened.map fun request => request.response).Nodup
  waiting : state.opened.drop state.requested.length = state.handler.receiver

section Responses

omit [DecidableEq StreamProtocol]

variable {state : OutboundStreams StreamProtocol Stream}

/-- The calls are numbered in the order of their requests. -/
theorem Paired.response_eq (paired : Paired state) {index : Nat}
    {request : OpenRequest StreamProtocol} (found : state.opened[index]? = some request) :
    request.response = index := by
  have inside := (List.getElem?_eq_some_iff.mp found).1
  have numbered : (state.opened.map fun request => request.response)[index]? =
      some request.response := by
    rw [List.getElem?_map, found, Option.map_some]
  rw [paired.responders, List.getElem?_range inside, Option.some.injEq] at numbered
  exact numbered.symm

/-- The responses are those of the first calls, in their order. -/
theorem Paired.map_responses (paired : Paired state) :
    state.responses.map Prod.fst = List.range state.responses.length := by
  apply List.ext_getElem?
  intro index
  rcases Nat.lt_or_ge index state.responses.length with inside | outside
  · have requestedBound := paired.requested_length_le
    have outcomesBound := paired.outcomes_length.1
    have sameLength := paired.responses
    have isOpened := List.getElem?_eq_getElem (show index < state.opened.length by omega)
    have arrived := List.getElem?_eq_getElem (show index < state.outcomes.length by omega)
    rw [List.getElem?_map, paired.answered index _ _ isOpened arrived, Option.map_some,
      paired.response_eq isOpened, List.getElem?_range inside]
  · rw [List.getElem?_eq_none (by simpa using outside),
      List.getElem?_eq_none (by simpa using outside)]

theorem filter_fst_of_range {Value : Type} {items : List (Nat × Value)}
    (numbered : items.map Prod.fst = List.range items.length) (index : Nat) :
    items.filter (fun item => item.1 = index) = items[index]?.toList := by
  induction items using List.reverseRecOn with
  | nil => rfl
  | append_singleton items item inductionHypothesis =>
      rw [List.map_append, List.length_append, List.length_singleton, List.range_succ,
        List.map_singleton] at numbered
      obtain ⟨front, last⟩ := List.append_inj' numbered rfl
      have isLast : item.1 = items.length := by simpa using last
      rw [List.filter_append, inductionHypothesis front]
      rcases Nat.lt_trichotomy index items.length with earlier | rfl | later
      · have apart : items.length ≠ index := Nat.ne_of_gt earlier
        simp [List.getElem?_append_left earlier, isLast, apart]
      · simp [isLast]
      · have apart : items.length ≠ index := Nat.ne_of_lt later
        have outside : (items ++ [item]).length ≤ index := by
          rw [List.length_append]
          exact later
        simp only [List.getElem?_eq_none outside, List.getElem?_eq_none (Nat.le_of_lt later),
          List.filter_singleton, isLast, apart, decide_false, cond_false, Option.toList_none,
          List.append_nil]

end Responses

omit [DecidableEq StreamProtocol] in
theorem Paired.oneToOne {state : OutboundStreams StreamProtocol Stream} (paired : Paired state) :
    OneToOne state where
  atMostOne := paired.outcomes_length.2
  pending := by
    cases isPending : state.handler.pendingUpgrade with
    | none => simp [paired.idle isPending]
    | some upgrade => simp [(paired.pending upgrade.1 upgrade.2 isPending).1]
  negotiated := fun index protocol asked => by
    have inside := (List.getElem?_eq_some_iff.mp asked).1
    rw [paired.requested, List.getElem?_map, List.getElem?_take_of_lt inside,
      Option.map_eq_some_iff] at asked
    exact asked
  outcomeOf := fun index outcome arrived => by
    have inside := (List.getElem?_eq_some_iff.mp arrived).1
    have numbered : (state.outcomes.map Prod.fst)[index]? = some outcome.1 := by
      rw [List.getElem?_map, arrived, Option.map_some]
    rw [paired.substreams, List.getElem?_range inside, Option.some.injEq] at numbered
    exact numbered.symm
  received := fun index request found => by
    rw [paired.response_eq found, filter_fst_of_range paired.map_responses]
    cases arrived : state.outcomes[index]? with
    | none =>
        have outside := List.getElem?_eq_none_iff.mp arrived
        rw [List.getElem?_eq_none (paired.responses.trans_le outside)]
        rfl
    | some outcome =>
        rw [paired.answered index request outcome found arrived, paired.response_eq found]
        rfl
  onlyRequests := fun response member => by
    have numbered : response.1 ∈ state.responses.map Prod.fst := List.mem_map_of_mem member
    have bound := paired.outcomes_length.1.trans paired.requested_length_le
    rw [paired.map_responses, List.mem_range, paired.responses] at numbered
    have inside : response.1 < state.opened.length := by omega
    exact ⟨_, List.getElem_mem inside, paired.response_eq (List.getElem?_eq_getElem inside)⟩
  responders := by
    rw [paired.responders]
    exact List.nodup_range
  waiting := paired.waiting

/-- Whatever the order of requests, polls and outcomes, the requests are answered one to one. -/
theorem requests_answered_oneToOne {schedule : List (OutboundStep StreamProtocol Stream)}
    {state : OutboundStreams StreamProtocol Stream}
    (reached : run step start schedule = some state) : OneToOne state := by
  have paired : Paired state := by
    refine run_induction (motive := fun _ state => Paired state) Paired.start ?_ reached
    intro actions before action after _ paired taken
    exact paired.step taken
  exact paired.oneToOne

/-- Two requests, of which the first fails to negotiate after the second was sent. -/
def refusedThenOpened : List (OutboundStep Nat String) :=
  [.openStream 21, .poll, .openStream 22, .poll,
    .outcome 0 (.dialUpgradeError .negotiationFailed), .poll,
    .outcome 1 (.fullyNegotiatedOutbound "stream" 22)]

theorem requests_answered_oneToOne_refused : ∃ state,
    run step start refusedThenOpened = some state ∧
      state.responses = [(0, .error (.unsupportedProtocol 21)), (1, .ok "stream")] ∧
        OneToOne state :=
  ⟨_, rfl, rfl,
    requests_answered_oneToOne (show run step start refusedThenOpened = some _ from rfl)⟩

end OutboundStreams

end Fungi.Stream
