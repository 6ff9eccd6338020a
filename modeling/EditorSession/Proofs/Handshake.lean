import EditorSession.Handshake
import EditorSession.Proofs.Channel.Unrelated

/-!
# The life of a conversation

A client writes the opening request, then, if the backend welcomes it, the notification that it is
ready, and at the end a request and a notification that close the conversation. What it writes
depends on the backend in one point only: whether the first response to the opening request is
welcoming (`greet_of_answered`, `greet_of_refused`). What the backend writes later, and which
capabilities it advertises, does not matter (`dismiss_sink`, `lifecycle_written`). All of it holds for
any way to read the answer to the opening request.
-/

namespace EditorSession

open Backend (Failure)

theorem Frame.encode_ne_nil (payload : Octets) : Frame.encode payload ≠ [] := by
  have mem : Frame.lineFeed ∈ Frame.header payload := Frame.lineFeed_mem_encode_iff.mpr (by simp)
  exact List.ne_nil_of_mem (List.mem_append_left payload mem)

theorem Message.frames_append_ne (messages : List Message) (message : Message) :
    frames (messages ++ [message]) ≠ frames messages := by
  intro same
  apply Frame.encode_ne_nil message.encode
  simpa [frames] using same

/-- The value that a path of member names leads to. -/
def Datum.along? (names : List String) (datum : Datum) : Option Datum :=
  names.foldlM (fun value name => value.member? name) datum

theorem Except.mapError_eq_ok_iff {ε ε' α : Type} {result : Except ε α} {change : ε → ε'}
    {value : α} : result.mapError change = .ok value ↔ result = .ok value := by
  cases result <;> simp [Except.mapError]

theorem Response.content_eq_ok_iff {α : Type} {decode : Schema.Decoder α} {method : String}
    {response : Response} {value : α} :
    response.content decode method = .ok value ↔
      ∃ result, response.result = some result ∧ result ≠ .null ∧
        decode .json result = .ok value := by
  unfold content
  split
  next said => simp [said]
  next said => simp [said]
  next result notNull said =>
    rw [Except.mapError_eq_ok_iff]
    constructor
    · intro decoded
      exact ⟨result, said, notNull, decoded⟩
    · rintro ⟨same, present, -, decoded⟩
      rw [said] at present
      cases present
      exact decoded

theorem Channel.foldl_note (events : List Conversation.Event) (channel : Channel) :
    events.foldl note channel = { channel with journal := channel.journal ++ events } := by
  induction events generalizing channel with
  | nil => simp
  | cons event events ih => rw [List.foldl_cons, ih]; simp [note]

namespace Handshake

/-- A backend welcomes the request of a number: among the first hundred frames of a stream, and
before any frame that is no message, there is a response of that number, and the first one has no
error and a result, not null, that is read as an answer. -/
def Welcomes (decode : Schema.Decoder Answer) (id : Int) (stream : Octets) (answer : Answer) :
    Prop :=
  ∃ frames rest response result,
    Frame.receiveEach frames.length stream = (frames, rest) ∧
    Channel.Heard id Channel.patience frames (.ok response) ∧
    response.error = none ∧ response.result = some result ∧ result ≠ .null ∧
    decode .json result = .ok answer

/-- The message that opens a conversation. -/
def opening (id : Int) (process : Nat) (request : StartRequest) : Message :=
  .request id "initialize" (some (parameters process request))

/-- The message that follows a welcome. -/
def ready : Message := .notification "initialized" (some (.record []))

variable {channel : Channel} (process : Nat) (request : StartRequest)
  (decode : Schema.Decoder Answer)

/-! ### The opening -/

theorem introduce_eq_ok_iff (unbounded : channel.sink.room = none) {answer : Answer} :
    (introduce process request channel decode).1 = .ok answer ↔
      Welcomes decode (channel.lastId + 1) channel.stream answer := by
  rcases channel.requestRaw_listens unbounded "initialize" (parameters process request) with
    ⟨frames, outcome, listens, heard, awaited, yields⟩
  have reads : (introduce process request channel decode).1 =
      (outcome.bind Response.accepted).bind (Response.content decode "initialize") := by
    rw [introduce, Channel.requestAs_eq, yields, heard.bind_reading]
  rw [reads]
  constructor
  · intro answered
    rcases Schema.bind_eq_ok_iff.mp answered with ⟨response, accepted, content⟩
    rcases Channel.accepted_eq_ok_iff.mp accepted with ⟨same, noError⟩
    rcases Response.content_eq_ok_iff.mp content with ⟨result, present, notNull, decoded⟩
    subst same
    exact ⟨frames, _, response, result, listens.received, heard, noError, present, notNull, decoded⟩
  · rintro ⟨others, rest, response, result, received, welcoming, noError, present, notNull, decoded⟩
    -- The wait hears the welcome, since the same stream is received in one way only.
    have same : ((channel.asking "initialize" (parameters process request)).await
        (channel.lastId + 1) Channel.patience).1 = .ok response :=
      Channel.await_of_heard received welcoming
    rw [awaited] at same
    have accepted := Channel.accepted_eq_ok_iff.mpr ⟨same, noError⟩
    have content : response.content decode "initialize" = .ok answer :=
      Response.content_eq_ok_iff.mpr ⟨result, present, notNull, decoded⟩
    exact Schema.bind_eq_ok_iff.mpr ⟨response, accepted, content⟩

theorem introduce_sink (unbounded : channel.sink.room = none) :
    (introduce process request channel decode).2.sink = { channel.sink with
      written := channel.sink.written ++
        Message.frames [opening (channel.lastId + 1) process request] } := by
  rcases channel.requestRaw_listens unbounded "initialize" (parameters process request) with
    ⟨frames, outcome, listens, -, -, -⟩
  rw [introduce, Channel.requestAs_eq, listens.sink]
  simp only [Message.frames, List.flatMap_singleton]
  rfl

theorem introduce_lastId (unbounded : channel.sink.room = none) :
    (introduce process request channel decode).2.lastId = channel.lastId + 1 := by
  rcases channel.requestRaw_listens unbounded "initialize" (parameters process request) with
    ⟨frames, outcome, listens, -, -, -⟩
  rw [introduce, Channel.requestAs_eq]
  exact listens.lastId

theorem greet_of_refused {failure : Failure} {after : Channel}
    (refused : introduce process request channel decode = (.error failure, after)) :
    greet process request channel decode = (.error failure, after) := by
  rw [greet, refused]

theorem greet_of_answered {answer : Answer} {after : Channel}
    (answered : introduce process request channel decode = (.ok answer, after))
    (unbounded : after.sink.room = none) :
    greet process request channel decode = (.ok answer, { after with
      sink := { after.sink with written := after.sink.written ++ Message.frames [ready] }
      journal := after.journal ++ .sendingNotification after.session "initialized" ::
        remarks request answer }) := by
  rw [greet, answered]
  simp only [Channel.notify_eq unbounded, Channel.foldl_note]
  simp [ready, Message.meaningful, Datum.isNull]

/-! ### The closing -/

theorem noteFailure_sink {α : Type} (event : Failure → Conversation.Event)
    (result : Except Failure α) : (noteFailure event result channel).sink = channel.sink := by
  cases result <;> rfl

theorem dismiss_sink (unbounded : channel.sink.room = none) :
    (dismiss channel).sink.written = channel.sink.written ++ Message.frames
      [.request (channel.lastId + 1) "shutdown" none, .notification "exit" none] := by
  rcases channel.requestRaw_listens unbounded "shutdown" .null with
    ⟨frames, outcome, listens, -, -, -⟩
  let asked := channel.requestRaw "shutdown" .null
  let noted := noteFailure .shutdownFailed asked.1 asked.2
  have sink : noted.sink = (channel.asking "shutdown" .null).sink := by
    rw [noteFailure_sink]
    exact listens.sink
  have stillUnbounded : noted.sink.room = none := by
    rw [sink]
    exact unbounded
  have closes : dismiss channel =
      noteFailure .exitFailed (noted.notify "exit" .null).1 (noted.notify "exit" .null).2 := rfl
  rw [closes, noteFailure_sink, Channel.notify_eq stillUnbounded, sink]
  simp [Channel.asking, Message.frames, Message.meaningful, Datum.isNull]

/-! ### The whole life -/

/-- What the client says that it supports. -/
theorem client_supports (capabilities : Capability.Declaration) :
    ∃ supported : Members, capabilities.client = .record [("textDocument", .record supported)] ∧
      ∀ name, name ∈ supported.map Prod.fst ↔
        name = "publishDiagnostics" ∨
        (name = "completion" ∧ capabilities.toggles.completion = true) ∨
        (name = "definition" ∧ capabilities.toggles.definition = true) := by
  refine ⟨_, rfl, fun name => ?_⟩
  rcases capabilities with ⟨integration, completion, definition⟩
  cases completion <;> cases definition <;>
    simp [Capability.Declaration.isEnabled, Capability.Declaration.state,
      Capability.Kind.toggle?, Toggles.isEnabled, or_comm, or_left_comm]

section Greet

variable {channel : Channel} (unbounded : channel.sink.room = none)
include unbounded

theorem greet_eq_ok_iff {answer : Answer} :
    (greet process request channel decode).1 = .ok answer ↔
      Welcomes decode (channel.lastId + 1) channel.stream answer := by
  rw [← introduce_eq_ok_iff process request decode unbounded]
  have sink := introduce_sink process request decode unbounded
  rcases introduced : introduce process request channel decode with ⟨outcome, after⟩
  rw [introduced] at sink
  cases outcome with
  | error failure => rw [greet_of_refused process request decode introduced]
  | ok answer =>
      have stillUnbounded : after.sink.room = none := by rw [sink]; exact unbounded
      rw [greet_of_answered process request decode introduced stillUnbounded]

theorem greet_of_welcome {answer : Answer}
    (welcome : Welcomes decode (channel.lastId + 1) channel.stream answer) :
    ∃ after, greet process request channel decode = (.ok answer, after) ∧
      after.lastId = channel.lastId + 1 ∧
      after.sink = { channel.sink with
        written := channel.sink.written ++
          Message.frames [opening (channel.lastId + 1) process request, ready] } ∧
      ∃ noted, after.journal = noted ++ remarks request answer := by
  have answered := (introduce_eq_ok_iff process request decode unbounded).mpr welcome
  have sink := introduce_sink process request decode unbounded
  have lastId := introduce_lastId process request decode unbounded
  rcases introduced : introduce process request channel decode with ⟨outcome, after⟩
  rw [introduced] at answered sink lastId
  simp only at answered sink lastId
  subst answered
  have stillUnbounded : after.sink.room = none := by rw [sink]; exact unbounded
  rw [greet_of_answered process request decode introduced stillUnbounded]
  let before := after.journal ++ [.sendingNotification after.session "initialized"]
  refine ⟨_, rfl, lastId, ?_, before, ?_⟩
  · simp [sink, Message.frames]
  · simp [before]

theorem greet_of_no_welcome
    (noWelcome : ∀ answer, ¬Welcomes decode (channel.lastId + 1) channel.stream answer) :
    ∃ failure after, greet process request channel decode = (.error failure, after) ∧
      after.sink.written = channel.sink.written ++
        Message.frames [opening (channel.lastId + 1) process request] := by
  have sink := introduce_sink process request decode unbounded
  rcases introduced : introduce process request channel decode with ⟨outcome, after⟩
  cases outcome with
  | error failure =>
      rw [introduced] at sink
      exact ⟨failure, after, greet_of_refused process request decode introduced, by rw [sink]⟩
  | ok answer =>
      have answered : (introduce process request channel decode).1 = .ok answer := by
        rw [introduced]
      have welcomes := (introduce_eq_ok_iff process request decode unbounded).mp answered
      exact absurd welcomes (noWelcome answer)

end Greet

/--
The life of a conversation, whatever the backend writes. It opens with the request that introduces
the client by its integration and names the capabilities that are declared. If the backend welcomes
it, and only then, the opening succeeds and the client says that it is ready; otherwise it writes
nothing more. Which capabilities the backend advertises is noted and changes nothing else. The
closing request and the closing notification follow, whatever the backend writes by then.
-/
theorem lifecycle_written (stream : Octets) :
    let start : Channel := { session := request.session, stream }
    let greeted := greet process request start decode
    let opening := opening 1 process request
    opening.datum.along? ["params", "clientInfo", "name"] =
        some (.text request.launch.integration) ∧
      (∃ supported : Members, opening.datum.along? ["params", "capabilities"] =
          some (.record [("textDocument", .record supported)]) ∧
        ∀ name, name ∈ supported.map Prod.fst ↔
          name = "publishDiagnostics" ∨
          (name = "completion" ∧ request.capabilities.toggles.completion = true) ∨
          (name = "definition" ∧ request.capabilities.toggles.definition = true)) ∧
      (∀ answer, greeted.1 = .ok answer ↔ Welcomes decode 1 stream answer) ∧
      (greeted.2.sink.written = Message.frames [opening, ready] ↔
        ∃ answer, Welcomes decode 1 stream answer) ∧
      ((∀ answer, ¬Welcomes decode 1 stream answer) →
        greeted.2.sink.written = Message.frames [opening]) ∧
      ∀ answer, greeted.1 = .ok answer →
        (∃ noted, greeted.2.journal = noted ++ remarks request answer) ∧
        ∀ later, (dismiss { greeted.2 with stream := later }).sink.written =
          Message.frames
            [opening, ready, .request 2 "shutdown" none, .notification "exit" none] := by
  intro start greeted opening
  have unbounded : start.sink.room = none := rfl
  have ok {answer : Answer} : greeted.1 = .ok answer ↔ Welcomes decode 1 stream answer :=
    greet_eq_ok_iff process request decode unbounded
  have refused (noWelcome : ∀ answer, ¬Welcomes decode 1 stream answer) :
      greeted.2.sink.written = Message.frames [opening] := by
    rcases greet_of_no_welcome process request decode unbounded noWelcome with
      ⟨failure, after, result, written⟩
    rw [show greeted = (.error failure, after) from result]
    exact written
  have welcomed {answer : Answer} (welcome : Welcomes decode 1 stream answer) :
      greeted.2.lastId = 1 ∧
      greeted.2.sink = { written := Message.frames [opening, ready] } ∧
      ∃ noted, greeted.2.journal = noted ++ remarks request answer := by
    rcases greet_of_welcome process request decode unbounded welcome with
      ⟨after, result, lastId, sink, journal⟩
    rw [show greeted = (.ok answer, after) from result]
    exact ⟨lastId, sink, journal⟩
  refine ⟨rfl, ?_, fun answer => ok, ?_, refused, ?_⟩
  · rcases client_supports request.capabilities with ⟨supported, client, names⟩
    exact ⟨supported, congrArg some client, names⟩
  · constructor
    · intro written
      by_contra noWelcome
      rw [refused fun answer welcome => noWelcome ⟨answer, welcome⟩] at written
      exact Message.frames_append_ne [opening] ready written.symm
    · rintro ⟨answer, welcome⟩
      rw [(welcomed welcome).2.1]
  · intro answer answered
    rcases welcomed (ok.mp answered) with ⟨lastId, sink, journal⟩
    refine ⟨journal, fun later => ?_⟩
    rw [dismiss_sink (by rw [sink]), sink, lastId]
    simp [Message.frames]

-- A welcome may advertise nothing at all.
example :
    let request : StartRequest :=
      { session := 1, scope := "a", launch := default, capabilities := ⟨"vuln-lsp", {}⟩ }
    let answer := Text.Utf8.ofString
      "\x7b\"jsonrpc\":\"2.0\",\"id\":1,\"result\":\x7b\"capabilities\":\x7b\x7d\x7d\x7d"
    let start : Channel := { session := 1, stream := Frame.encode answer }
    (greet 7 request start).1.toOption.isSome = true := by
  decide +kernel

end Handshake

end EditorSession
