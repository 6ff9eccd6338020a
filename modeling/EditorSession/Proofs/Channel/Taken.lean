import EditorSession.Proofs.Channel.Unrelated
import EditorSession.Proofs.Handshake
import EditorSession.Proofs.Message.Positional

/-!
# What is taken for a response

Whoever waits for a response takes the first payload that is sorted as one and has the right number.
It denotes a record, or a list of the items of the response, and nothing else (`Channel.Takes`). So
no request is answered, and no conversation opened, by a text, a number, a truth value, null, or a
list of any other items (`Handshake.taken_records_and_items`).
-/

namespace EditorSession

open Backend (Failure)

theorem Except.isSome_toOption_iff {ε α : Type} {result : Except ε α} :
    result.toOption.isSome = true ↔ ∃ value, result = .ok value := by
  cases result <;> simp [Except.toOption]

namespace Channel

/-- The last frame that was received is a response: it denotes a record that calls no method, or a
list of the items of this response. -/
def Takes (before after : Channel) (response : Response) : Prop :=
  ∃ passed payload message,
    Frame.receiveEach (passed ++ [.ok payload]).length before.stream =
        (passed ++ [.ok payload], after.stream) ∧
      Incoming.datum? payload = some message ∧
      ((∃ members, message = .record members ∧ Members.find? "method" members = none) ∨
        Response.Positional message response)

theorem ofFrame_response {frame : Except Frame.Failure Octets} {response : Response}
    (message : Incoming.ofFrame frame = .ok (.response response)) :
    ∃ payload datum, frame = .ok payload ∧ Incoming.datum? payload = some datum ∧
      datum.member? "method" = none ∧ Response.decode .json datum = .ok response := by
  unfold Incoming.ofFrame at message
  split at message
  · cases message
  next payload =>
    split at message
    · cases message
    next text decoded =>
      rcases Incoming.decode_of_parse (Except.mapError_eq_ok_iff.mp message) with
        ⟨datum, denotes, noMethod, read⟩
      refine ⟨payload, datum, rfl, ?_, noMethod, read⟩
      rw [Incoming.datum?, decoded]
      exact denotes

variable {before after : Channel} {response : Response}

/-- A wait that ends with a response took it. -/
theorem Listens.takes {frames : List (Except Frame.Failure Octets)} {id : Int} {most : Nat}
    (listens : before.Listens after frames) (heard : Heard id most frames (.ok response)) :
    before.Takes after response := by
  cases heard with
  | @answered passed frame _ few others message own =>
      rcases ofFrame_response message with ⟨payload, datum, rfl, denotes, noMethod, read⟩
      refine ⟨passed, payload, datum, listens.received, denotes, ?_⟩
      by_cases isRecord : ∃ members, datum = .record members
      · rcases isRecord with ⟨members, rfl⟩
        exact .inl ⟨members, rfl, noMethod⟩
      · have noRecord (members : Members) : datum ≠ .record members :=
          fun same => isRecord ⟨members, same⟩
        exact .inr ((Response.decode_eq_ok_iff (Incoming.ordered_of_datum? denotes) noRecord).mp read)

theorem await_takes {id : Int} {most : Nat} (answered : (before.await id most).1 = .ok response) :
    before.Takes (before.await id most).2 response := by
  rcases await_heard id most before with ⟨frames, listens, heard⟩
  rw [answered] at heard
  exact listens.takes heard

theorem requestRaw_takes {method : String} {params : Datum}
    (answered : (before.requestRaw method params).1 = .ok response) :
    before.Takes (before.requestRaw method params).2 response ∧ response.error = none := by
  rcases submitted : before.submit method params with ⟨outcome, asked⟩
  have unread : asked.stream = before.stream := by
    rw [show asked = (before.submit method params).2 by rw [submitted]]
    rfl
  cases outcome with
  | error failure =>
      rw [requestRaw_of_not_submitted submitted] at answered
      cases answered
  | ok done =>
      rw [requestRaw_of_submitted submitted] at answered ⊢
      rcases accepted_eq_ok_iff.mp answered with ⟨awaited, noError⟩
      have taken := await_takes awaited
      rw [Takes, unread] at taken
      exact ⟨taken, noError⟩

end Channel

namespace Handshake

variable {process : Nat} {request : StartRequest} {channel : Channel}

theorem greet_introduces {answer : Answer} (welcomed : (greet process request channel).1 = .ok answer) :
    (introduce process request channel).1 = .ok answer ∧
      (greet process request channel).2.stream = (introduce process request channel).2.stream := by
  rcases introduced : introduce process request channel with ⟨outcome, after⟩
  cases outcome with
  | error failure =>
      rw [greet_of_refused process request Answer.decode introduced] at welcomed
      cases welcomed
  | ok said =>
      rw [greet, introduced] at welcomed ⊢
      simp only at welcomed ⊢
      have unread : (after.notify "initialized" (.record [])).2.stream = after.stream := rfl
      rcases notified : after.notify "initialized" (.record []) with ⟨sent, final⟩
      rw [notified] at welcomed unread
      cases sent with
      | error failure => cases welcomed
      | ok done =>
          cases welcomed
          refine ⟨rfl, ?_⟩
          simp only [Channel.foldl_note]
          exact unread

/-- An opening that succeeds took a response that carries the answer. -/
theorem greet_takes {answer : Answer}
    (welcomed : (greet process request channel).1 = .ok answer) :
    ∃ response result, channel.Takes (greet process request channel).2 response ∧
      response.error = none ∧ response.result = some result ∧
      Answer.decode .json result = .ok answer := by
  rcases greet_introduces welcomed with ⟨introduced, sameStream⟩
  rw [introduce, Channel.requestAs_eq] at introduced sameStream
  rcases Schema.bind_eq_ok_iff.mp introduced with ⟨response, answered, read⟩
  rcases Channel.requestRaw_takes answered with ⟨taken, noError⟩
  unfold Response.reading at read
  split at read
  · cases read
  next result present =>
    rw [Channel.Takes, ← sameStream] at taken
    exact ⟨response, result, taken, noError, present, Except.mapError_eq_ok_iff.mp read⟩

/--
What is taken for a message among the values that are no record. A payload that denotes one is
refused, unless it is a list of one to three items that stand for the number, the result and the
error of a response, and then it is this response. So whoever waits for a response takes a record
that calls no method or such a list, and a conversation is opened by nothing else.
-/
theorem taken_records_and_items (payload : List Char) (datum : Datum) (channel : Channel)
    (process : Nat) (request : StartRequest) :
    (Json.read payload = some datum → (∀ members, datum ≠ .record members) →
      ((∃ mismatch, Incoming.parse payload = .error (.mismatched mismatch)) ↔
        ∀ response, ¬Response.Positional datum response) ∧
      ∀ incoming, Incoming.parse payload = .ok incoming ↔
        ∃ response, incoming = .response response ∧ Response.Positional datum response) ∧
    (∀ id most response, (channel.await id most).1 = .ok response →
      channel.Takes (channel.await id most).2 response) ∧
    ∀ answer, (greet process request channel).1 = .ok answer →
      ∃ response result, channel.Takes (greet process request channel).2 response ∧
        response.error = none ∧ response.result = some result ∧
        Answer.decode .json result = .ok answer := by
  refine ⟨fun denotes noRecord => ⟨?_, fun incoming => ?_⟩, ?_, ?_⟩
  · exact Incoming.parse_eq_error_iff denotes noRecord
  · exact Incoming.parse_eq_ok_iff denotes noRecord
  · intro id most response answered
    exact Channel.await_takes answered
  · intro answer welcomed
    exact greet_takes welcomed

/-- A list of no items is refused, and a record welcomes the client. -/
theorem taken_record :
    let refused := "[]".toList
    let welcome := Text.Utf8.ofString
      "\x7b\"id\":1,\"result\":\x7b\"capabilities\":\x7b\x7d\x7d\x7d"
    let channel : Channel := { session := 1, stream := Frame.encode welcome }
    let request : StartRequest :=
      { session := 1, scope := "a", launch := default, capabilities := ⟨"vuln-lsp", {}⟩ }
    Json.read refused = some (.list []) ∧
      (∃ mismatch, Incoming.parse refused = .error (.mismatched mismatch)) ∧
      (∃ response, (channel.await 1 1).1 = .ok response ∧
        channel.Takes (channel.await 1 1).2 response) ∧
      ∃ answer response, (greet 7 request channel).1 = .ok answer ∧
        channel.Takes (greet 7 request channel).2 response := by
  intro refused welcome channel request
  have denotes : Json.read refused = some (.list []) := rfl
  have noItems (response : Response) : ¬Response.Positional (.list []) response := nofun
  have answered : (channel.await 1 1).1.toOption.isSome = true := by decide +kernel
  have welcomed : (greet 7 request channel).1.toOption.isSome = true := by decide +kernel
  rcases taken_records_and_items refused (.list []) channel 7 request with
    ⟨sorted, awaited, opened⟩
  refine ⟨denotes, (sorted denotes nofun).1.mpr noItems, ?_, ?_⟩
  · rcases Except.isSome_toOption_iff.mp answered with ⟨response, answered⟩
    exact ⟨response, answered, awaited 1 1 response answered⟩
  · rcases Except.isSome_toOption_iff.mp welcomed with ⟨answer, welcomed⟩
    rcases opened answer welcomed with ⟨response, _, taken, -⟩
    exact ⟨answer, response, welcomed, taken⟩

/-- A list of two numbers is taken for a response, and a list opens a conversation. -/
theorem taken_list :
    let payload := "[1,2]".toList
    let welcome := Text.Utf8.ofString "[1,\x7b\"capabilities\":\x7b\x7d\x7d]"
    let channel : Channel := { session := 1, stream := Frame.encode welcome }
    let request : StartRequest :=
      { session := 1, scope := "a", launch := default, capabilities := ⟨"vuln-lsp", {}⟩ }
    (∃ items, Json.read payload = some (.list items)) ∧
      (∃ incoming, Incoming.parse payload = .ok incoming) ∧
      (∃ items, Incoming.datum? welcome = some (.list items)) ∧
      ∃ answer, (greet 7 request channel).1 = .ok answer := by
  intro payload welcome channel request
  have list {datum? : Option Datum}
      (isList : datum?.map Datum.ctorIdx = some (Datum.list []).ctorIdx) :
      ∃ items, datum? = some (.list items) := by
    rcases Option.map_eq_some_iff.mp isList with ⟨datum, rfl, same⟩
    cases datum with
    | list items => exact ⟨items, rfl⟩
    | _ => cases same
  have parsed : (Incoming.parse payload).toOption.isSome = true := by decide +kernel
  have welcomed : (greet 7 request channel).1.toOption.isSome = true := by decide +kernel
  exact ⟨list (by decide +kernel), Except.isSome_toOption_iff.mp parsed,
    list (by decide +kernel), Except.isSome_toOption_iff.mp welcomed⟩

end Handshake

end EditorSession
