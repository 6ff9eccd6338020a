import EditorSession.Proofs.Channel.Correlation
import EditorSession.Proofs.Message.Unrelated

/-!
# Unrelated traffic

What a backend writes between a request and its response. Legal messages that are no response to the
request are passed over, so the request yields what it would yield without them; a response with a
textual identifier among them makes the request fail instead.
-/

namespace EditorSession

open Backend (Failure)

/-- The value that a payload denotes, if it is text and the text JSON. -/
def Incoming.datum? (payload : Octets) : Option Datum :=
  match Text.Utf8.decode payload with
  | .ok text => Json.read text
  | .error _ => none

/-- The textual identifier that a payload carries, if it is a response with one. -/
def Incoming.textualPayload? (payload : Octets) : Option String :=
  (datum? payload).bind textualId?

theorem Incoming.ordered_of_datum? {payload : Octets} {message : Datum}
    (denotes : datum? payload = some message) : message.Ordered := by
  unfold datum? at denotes
  split at denotes
  · exact Json.ordered_of_read denotes
  · cases denotes

theorem Incoming.ofFrame_of_datum? {payload : Octets} {message : Datum}
    (denotes : datum? payload = some message) :
    ofFrame (.ok payload) =
      (ofDatum message).mapError fun mismatch => .payload (.mismatched mismatch) := by
  unfold datum? at denotes
  split at denotes
  next text decoded =>
    simp only [ofFrame, decoded, parse, denotes]
    cases ofDatum message <;> rfl
  · cases denotes

namespace Channel

variable {id : Int} {channel : Channel} {rest : Octets}

/-- Messages that are passed over count, and leave nothing but notes behind. -/
theorem await_passing {frames : List (Except Frame.Failure Octets)}
    (received : Frame.receiveEach frames.length channel.stream = (frames, rest))
    (others : ∀ frame ∈ frames, PassesOver id frame) (most : Nat) :
    ∃ journal, channel.await id (frames.length + most) =
      ({ channel with stream := rest, journal } : Channel).await id most := by
  -- Each frame costs one of the messages that are looked at.
  induction frames generalizing channel with
  | nil =>
      cases received
      exact ⟨channel.journal, by rw [List.length_nil, Nat.zero_add]⟩
  | cons frame frames ih =>
      rw [List.length_cons, Frame.receiveEach_succ] at received
      rcases Prod.mk.inj received with ⟨all, left⟩
      rcases List.cons.inj all with ⟨first, later⟩
      rcases others frame (List.mem_cons_self ..) with ⟨incoming, message, noAnswer⟩
      let next : Channel := { channel with stream := (Frame.receive channel.stream).2 }
      have noted : ∃ journal, (next.note (passedOver next.session id incoming)).await id
          (frames.length + most) = ({ channel with stream := rest, journal } : Channel).await id most :=
        ih (by
          show Frame.receiveEach frames.length (Frame.receive channel.stream).2 = _
          exact Prod.ext later left)
          fun other mem => others other (List.mem_cons_of_mem frame mem)
      rcases noted with ⟨journal, noted⟩
      refine ⟨journal, ?_⟩
      rw [List.length_cons, Nat.succ_add, await_of_passing _ (first ▸ message) noAnswer]
      exact noted

/-- The frame of the response to the request of a number. -/
def IsAnswer (id : Int) (frame : Except Frame.Failure Octets) : Prop :=
  ∃ response, Incoming.ofFrame frame = .ok (.response response) ∧ response.id = some id

instance (id : Int) (frame : Except Frame.Failure Octets) : Decidable (IsAnswer id frame) :=
  decidable_of_iff (((Incoming.ofFrame frame).toOption.bind (answers id)).isSome) (by
    unfold IsAnswer
    cases Incoming.ofFrame frame with
    | error failure => simp [Except.toOption]
    | ok incoming => simp [Except.toOption, Option.isSome_iff_exists, answers_eq_some_iff])

theorem await_answered {frames : List (Except Frame.Failure Octets)} {response : Response}
    {most : Nat} (few : frames.length < most)
    (received : Frame.receiveEach frames.length channel.stream = (frames, rest))
    (others : ∀ frame ∈ frames, PassesOver id frame)
    (message : Incoming.ofFrame (Frame.receive rest).1 = .ok (.response response))
    (own : response.id = some id) : (channel.await id most).1 = .ok response := by
  obtain ⟨more, rfl⟩ : ∃ more, most = frames.length + (more + 1) :=
    ⟨most - frames.length - 1, by omega⟩
  rcases await_passing received others (more + 1) with ⟨journal, same⟩
  rw [same, await_of_answered more message own]

theorem await_broken {passed later : List (Except Frame.Failure Octets)}
    {frame : Except Frame.Failure Octets} {failure : Failure} {most : Nat}
    (few : passed.length < most)
    (received : Frame.receiveEach (passed ++ frame :: later).length channel.stream =
      (passed ++ frame :: later, rest))
    (others : ∀ other ∈ passed, PassesOver id other)
    (noMessage : Incoming.ofFrame frame = .error failure) :
    (channel.await id most).1 = .error failure := by
  rcases Frame.receiveEach_append received with ⟨middle, before, after⟩
  rw [List.length_cons, Frame.receiveEach_succ] at after
  have first : (Frame.receive middle).1 = frame := (List.cons.inj (Prod.mk.inj after).1).1
  obtain ⟨more, rfl⟩ : ∃ more, most = passed.length + (more + 1) :=
    ⟨most - passed.length - 1, by omega⟩
  rcases await_passing before others (more + 1) with ⟨journal, same⟩
  rw [same, await_of_broken more (first ▸ noMessage)]

/-- Whatever frames a wait can have heard, and whatever can have come of them: if they are what is
received, it is what comes of the wait. -/
theorem await_of_heard {frames : List (Except Frame.Failure Octets)}
    {outcome : Except Failure Response} {most : Nat}
    (received : Frame.receiveEach frames.length channel.stream = (frames, rest))
    (heard : Heard id most frames outcome) : (channel.await id most).1 = outcome := by
  cases heard with
  | broken few others noMessage => exact await_broken few received others noMessage
  | answered few others message own =>
      rcases Frame.receiveEach_append received with ⟨middle, before, after⟩
      have frame : (Frame.receive middle).1 = _ := (List.cons.inj (Prod.mk.inj after).1).1
      exact await_answered few before others (frame ▸ message) own
  | unanswered all others =>
      subst all
      rcases await_passing received others 0 with ⟨journal, same⟩
      rw [Nat.add_zero] at same
      rw [same]
      rfl

/-! ### Payloads of legal messages -/

/-- A payload that denotes a legal message which is no response to the request of a number. -/
def UnrelatedPayload (own : Int) (payload : Octets) : Prop :=
  ∃ message, Incoming.datum? payload = some message ∧ Incoming.Unrelated own message

instance (own : Int) (payload : Octets) : Decidable (UnrelatedPayload own payload) :=
  decidable_of_iff ((Incoming.datum? payload).any fun message => Incoming.Unrelated own message)
    (by simp only [Option.any_eq_true, decide_eq_true_eq, UnrelatedPayload])

section Payload

variable {payload : Octets} (unrelated : UnrelatedPayload id payload)
include unrelated

theorem UnrelatedPayload.passesOver (notTextual : Incoming.textualPayload? payload = none) :
    PassesOver id (.ok payload) := by
  rcases unrelated with ⟨message, denotes, unrelated⟩
  rw [Incoming.textualPayload?, denotes] at notTextual
  rcases Incoming.ofDatum_of_textualId?_eq_none (Incoming.ordered_of_datum? denotes) unrelated
    notTextual with ⟨incoming, sorted, other⟩
  refine ⟨incoming, ?_, other⟩
  rw [Incoming.ofFrame_of_datum? denotes, sorted]
  rfl

theorem UnrelatedPayload.broken {written : String}
    (textual : Incoming.textualPayload? payload = some written) :
    Incoming.ofFrame (.ok payload) =
      .error (.payload (.mismatched (.wrongType (.text written) .integer))) := by
  rcases unrelated with ⟨message, denotes, unrelated⟩
  rw [Incoming.textualPayload?, denotes] at textual
  rw [Incoming.ofFrame_of_datum? denotes, Incoming.ofDatum_of_textualId?_eq_some
    (Incoming.ordered_of_datum? denotes) unrelated textual]
  rfl

end Payload

theorem passesOver_of_unrelated {payloads : List Octets}
    (unrelated : ∀ payload ∈ payloads, UnrelatedPayload id payload)
    (noneTextual : ∀ payload ∈ payloads, Incoming.textualPayload? payload = none) :
    ∀ frame ∈ (payloads.map .ok : List (Except Frame.Failure Octets)), PassesOver id frame := by
  intro frame mem
  rcases List.mem_map.mp mem with ⟨payload, payloadMem, rfl⟩
  exact (unrelated payload payloadMem).passesOver (noneTextual payload payloadMem)

/-! ### Requests -/

/-- What a request yields: its message is written, and then it waits. -/
theorem requestRaw_result (channel : Channel) (method : String) (params : Datum) :
    (channel.requestRaw method params).1 =
      (channel.submit method params).1.bind fun _ =>
        ((channel.submit method params).2.await (channel.lastId + 1) patience).1.bind
          Response.accepted := by
  rcases submitted : channel.submit method params with ⟨outcome, after⟩
  cases outcome with
  | error failure =>
      rw [requestRaw_of_not_submitted submitted]
      rfl
  | ok done =>
      rw [requestRaw_of_submitted submitted]
      rfl

/--
Legal messages, no more than ninety-nine, that precede the response to a request and are no response
to it: if none of them is a response with a textual identifier, the request yields what it yields
without them; if some are, it fails once it is written, and names the first such identifier.

A message is legal here only if the reader of texts takes it. One that it refuses makes the request
fail as any other frame that is no message does (`await_broken`), also where JSON allows the text:
parameters or a result nested more than 126 deep, a number beyond all doubles such as 1e400, an
escape of half a surrogate pair.
-/
theorem request_beside_unrelated {α : Type} (channel : Channel) (payloads : List Octets)
    (rest : Octets) (few : payloads.length ≤ 99)
    (received : Frame.receiveEach payloads.length channel.stream = (payloads.map .ok, rest))
    (unrelated : ∀ payload ∈ payloads, UnrelatedPayload (channel.lastId + 1) payload)
    (answer : IsAnswer (channel.lastId + 1) (Frame.receive rest).1)
    (decode : Schema.Decoder α) (method : String) (params : Datum) :
    let alone : Channel := { channel with stream := rest }
    (payloads.findSome? Incoming.textualPayload? = none →
      (channel.requestRaw method params).1 = (alone.requestRaw method params).1 ∧
      (channel.requestAs decode method params).1 = (alone.requestAs decode method params).1) ∧
    ∀ written, payloads.findSome? Incoming.textualPayload? = some written →
      (channel.submit method params).1 = .ok () →
      let failure := Failure.payload (.mismatched (.wrongType (.text written) .integer))
      (channel.requestRaw method params).1 = .error failure ∧
      (channel.requestAs decode method params).1 = .error failure := by
  intro alone
  rcases answer with ⟨response, message, own⟩
  have asRaw {first second : Channel}
      (same : (first.requestRaw method params).1 = (second.requestRaw method params).1) :
      (first.requestAs decode method params).1 = (second.requestAs decode method params).1 := by
    rw [requestAs_eq, requestAs_eq, same]
  have counted : Frame.receiveEach (payloads.map .ok : List (Except Frame.Failure Octets)).length
      channel.stream = (payloads.map .ok, rest) := by
    rw [List.length_map]
    exact received
  constructor
  · intro noneTextual
    have others := passesOver_of_unrelated unrelated (List.findSome?_eq_none_iff.mp noneTextual)
    have enough : (payloads.map .ok : List (Except Frame.Failure Octets)).length < patience := by
      rw [List.length_map]
      exact Nat.lt_succ_of_le few
    have beside : ((channel.submit method params).2.await (channel.lastId + 1) patience).1 =
        .ok response := await_answered enough counted others message own
    have without : ((alone.submit method params).2.await (alone.lastId + 1) patience).1 =
        .ok response := congrArg Prod.fst (await_of_answered 99 (by exact message) own)
    have same : (channel.requestRaw method params).1 = (alone.requestRaw method params).1 := by
      rw [requestRaw_result, requestRaw_result, beside, without]
      rfl
    exact ⟨same, asRaw same⟩
  · intro written someTextual submitted failure
    rcases List.findSome?_eq_some_iff.mp someTextual with
      ⟨before, payload, after, rfl, textual, noneBefore⟩
    rw [List.map_append, List.map_cons] at counted
    have others := passesOver_of_unrelated
      (fun earlier mem => unrelated earlier (List.mem_append_left _ mem)) noneBefore
    have enough : (before.map .ok : List (Except Frame.Failure Octets)).length < patience := by
      rw [List.length_map]
      rw [List.length_append] at few
      exact Nat.lt_succ_of_le (Nat.le_trans (Nat.le_add_right _ _) few)
    -- The frame is refused before its identifier is compared with that of the request.
    have broken := (unrelated payload (by simp)).broken textual
    have ended : ((channel.submit method params).2.await (channel.lastId + 1) patience).1 =
        .error failure := await_broken enough counted others broken
    have failed : (channel.requestRaw method params).1 = .error failure := by
      rw [requestRaw_result, submitted, ended]
      rfl
    refine ⟨failed, ?_⟩
    rw [requestAs_eq, failed]
    rfl

/-- A notification and a response to nothing are passed over. -/
theorem request_beside_notification :
    let payloads : List Octets := [
      Text.Utf8.ofString "\x7b\"jsonrpc\":\"2.0\",\"method\":\"note\"\x7d",
      Text.Utf8.ofString "\x7b\"jsonrpc\":\"2.0\",\"id\":null,\"result\":1\x7d"]
    let rest :=
      Frame.encode (Text.Utf8.ofString "\x7b\"jsonrpc\":\"2.0\",\"id\":1,\"result\":2\x7d")
    let channel : Channel := { session := 1, stream := payloads.flatMap Frame.encode ++ rest }
    let alone : Channel := { channel with stream := rest }
    payloads.length ≤ 99 ∧
      Frame.receiveEach payloads.length channel.stream = (payloads.map .ok, rest) ∧
      (∀ payload ∈ payloads, UnrelatedPayload (channel.lastId + 1) payload) ∧
      IsAnswer (channel.lastId + 1) (Frame.receive rest).1 ∧
      payloads.findSome? Incoming.textualPayload? = none ∧
      (channel.requestRaw "ping" .null).1 = (alone.requestRaw "ping" .null).1 := by
  intro payloads rest channel alone
  have few : payloads.length ≤ 99 := by decide
  have received : Frame.receiveEach payloads.length channel.stream = (payloads.map .ok, rest) :=
    Frame.receiveEach_encode rest (by decide +kernel)
  have unrelated : ∀ payload ∈ payloads, UnrelatedPayload (channel.lastId + 1) payload := by
    decide +kernel
  have answer : IsAnswer (channel.lastId + 1) (Frame.receive rest).1 := by decide +kernel
  have noneTextual : payloads.findSome? Incoming.textualPayload? = none := by decide +kernel
  have same := (request_beside_unrelated channel payloads rest few received unrelated answer
    Schema.integer "ping" .null).1 noneTextual
  exact ⟨few, received, unrelated, answer, noneTextual, same.1⟩

/-- A legal response to something else, whose identifier is a text, makes a request fail that has its
own response right behind. -/
theorem request_fails_beside_textual_identifier :
    let other := Text.Utf8.ofString "\x7b\"jsonrpc\":\"2.0\",\"id\":\"abc\",\"result\":1\x7d"
    let rest :=
      Frame.encode (Text.Utf8.ofString "\x7b\"jsonrpc\":\"2.0\",\"id\":1,\"result\":2\x7d")
    let channel : Channel := { session := 1, stream := Frame.encode other ++ rest }
    let alone : Channel := { channel with stream := rest }
    UnrelatedPayload (channel.lastId + 1) other ∧
      Frame.receive channel.stream = (.ok other, rest) ∧
      IsAnswer (channel.lastId + 1) (Frame.receive rest).1 ∧
      (channel.requestRaw "ping" .null).1 ≠ (alone.requestRaw "ping" .null).1 := by
  intro other rest channel alone
  have received : Frame.receive channel.stream = (.ok other, rest) :=
    Frame.receive_encode rest (by decide +kernel)
  have fails : (channel.requestRaw "ping" .null).1.toOption.isSome = false := by decide +kernel
  have succeeds : (alone.requestRaw "ping" .null).1.toOption.isSome = true := by decide +kernel
  refine ⟨by decide +kernel, received, by decide +kernel, ?_⟩
  intro same
  rw [same, succeeds] at fails
  cases fails

end Channel

end EditorSession
