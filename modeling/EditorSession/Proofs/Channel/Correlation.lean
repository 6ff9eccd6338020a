import EditorSession.Proofs.Channel.Listening

/-!
# Requests and their responses

A conversation is a list of calls on one channel. Each call writes one message, and a request also
receives frames until its wait ends. `Exchange.Correlated` says how what a call yields follows from
the number it was given and from the frames it received. Every call is such an exchange
(`perform_exchange`), and so a conversation is made of them: their numbers count the requests, and
their frames, put together, are what was received from the stream (`converse_exchanges`).
-/

namespace EditorSession

open Backend (Failure)

/-- The number of a message: requests have one, notifications have none. -/
def Message.id? : Message → Option Int
  | request id _ _ => some id
  | notification _ _ => none

/-- Messages as they stand in a pipe. -/
def Message.frames (messages : List Message) : Octets :=
  messages.flatMap fun message => Frame.encode message.encode

theorem Message.member_id (message : Message) :
    message.datum.member? "id" = message.id?.map .integer := by
  cases message with
  | request id method params => rfl
  | notification method params =>
      cases params with
      | none => rfl
      | some params => rfl

namespace Response

/-- A response that is no error. -/
def accepted (response : Response) : Except Failure Response :=
  match response.error with
  | some error => .error (.rejected error)
  | none => .ok response

/-- What a response to a request says; it must say something, and not null. -/
def content {α : Type} (decode : Schema.Decoder α) (method : String) (response : Response) :
    Except Failure α :=
  match response.result with
  | none | some .null => .error (.unusableAnswer ("empty result in response to " ++ method))
  | some result => (decode .json result).mapError fun mismatch => .payload (.mismatched mismatch)

/-- The same, where a result of null is not told from others. -/
def reading {α : Type} (decode : Schema.Decoder α) (method : String) (response : Response) :
    Except Failure α :=
  match response.result with
  | none => .error (.unusableAnswer ("empty result in response to " ++ method))
  | some result => (decode .json result).mapError fun mismatch => .payload (.mismatched mismatch)

theorem Meaningful.reading_eq {α : Type} {decode : Schema.Decoder α} {method : String}
    {response : Response} (meaningful : response.Meaningful) :
    response.reading decode method = response.content decode method := by
  unfold reading content
  cases said : response.result with
  | none => rfl
  | some result =>
      cases result with
      | null => exact absurd said meaningful
      | _ => rfl

end Response

namespace Channel

/-- What a client may do on a channel. -/
inductive Call (α : Type)
  /-- A request whose result is read. -/
  | request (decode : Schema.Decoder α) (method : String) (params : Datum)
  /-- A request whose response is taken as it is. -/
  | requestRaw (method : String) (params : Datum)
  | notify (method : String) (params : Datum)

/-- What comes of a call. -/
inductive Reply (α : Type)
  | value (result : Except Failure α)
  | response (result : Except Failure Response)
  | sent (result : Except Failure Unit)

variable {α : Type}

/-- Whether a call waits for a response. -/
def Call.isRequest : Call α → Bool
  | request _ _ _ | requestRaw _ _ => true
  | notify _ _ => false

/-- Makes a call. -/
def perform (channel : Channel) : Call α → Reply α × Channel
  | .request decode method params =>
    let (result, channel) := channel.requestAs decode method params
    (.value result, channel)
  | .requestRaw method params =>
    let (result, channel) := channel.requestRaw method params
    (.response result, channel)
  | .notify method params =>
    let (result, channel) := channel.notify method params
    (.sent result, channel)

/-- Makes calls in turn, going on whatever comes of them. -/
def converse (channel : Channel) : List (Call α) → List (Reply α) × Channel
  | [] => ([], channel)
  | call :: calls =>
    let (reply, channel) := channel.perform call
    let (replies, channel) := channel.converse calls
    (reply :: replies, channel)

/-- A call, the message it wrote, the frames it received, and what came of it. -/
structure Exchange (α : Type) where
  call : Call α
  message : Message
  frames : List (Except Frame.Failure Octets)
  reply : Reply α

/-- What comes of a call follows from the message it wrote and the frames it received. -/
inductive Exchange.Correlated : Exchange α → Prop
  /-- The result in the response is read. -/
  | request {decode method params id frames outcome} (heard : Heard id patience frames outcome) :
      Correlated {
        call := .request decode method params
        message := .request id method (Message.meaningful params)
        frames
        reply := .value ((outcome.bind Response.accepted).bind (Response.content decode method)) }
  /-- The response is the reply. -/
  | requestRaw {method params id frames outcome} (heard : Heard id patience frames outcome) :
      Correlated {
        call := .requestRaw method params
        message := .request id method (Message.meaningful params)
        frames
        reply := .response (outcome.bind Response.accepted) }
  /-- Nothing is received. -/
  | notify {method params} :
      Correlated {
        call := .notify method params
        message := .notification method (Message.meaningful params)
        frames := []
        reply := .sent (.ok ()) }

/-- The number of an exchange, if it is one of a request. -/
def Exchange.id? (exchange : Exchange α) : Option Int := exchange.message.id?

/-- The frame that an exchange wrote. -/
def Exchange.frame (exchange : Exchange α) : Octets :=
  Frame.encode exchange.message.encode

/-- A call on a channel took it from one state to another: it wrote its message, for which a request
takes the next number, and received its frames. -/
structure Exchange.Advances (exchange : Exchange α) (before after : Channel) : Prop where
  number : exchange.id? =
    if exchange.call.isRequest then some (before.lastId + 1) else none
  lastId : after.lastId = exchange.id?.getD before.lastId
  sink : after.sink = { before.sink with written := before.sink.written ++ exchange.frame }
  received :
    Frame.receiveEach exchange.frames.length before.stream = (exchange.frames, after.stream)

/-- Calls on a channel are made of exchanges: each reply follows from what its own exchange received,
requests are numbered without a gap, whatever came of earlier ones, and the channel writes and
receives the frames of the exchanges in turn, no others. -/
structure Converses (channel : Channel) (calls : List (Call α)) (exchanges : List (Exchange α)) :
    Prop where
  made : exchanges.map Exchange.call = calls
  replies : exchanges.map Exchange.reply = (channel.converse calls).1
  correlated : ∀ exchange ∈ exchanges, exchange.Correlated
  numbers : exchanges.filterMap Exchange.id? =
    (List.range (calls.countP Call.isRequest)).map fun earlier : Nat => channel.lastId + earlier + 1
  written : (channel.converse calls).2.sink.written =
    channel.sink.written ++ exchanges.flatMap Exchange.frame
  received : Frame.receiveEach (exchanges.flatMap Exchange.frames).length channel.stream =
    (exchanges.flatMap Exchange.frames, (channel.converse calls).2.stream)

/-! ### One call -/

theorem write_eq (channel : Channel) (unbounded : channel.sink.room = none) (message : Message) :
    channel.write message = (.ok (), { channel with
      sink := { channel.sink with
        written := channel.sink.written ++ Frame.encode message.encode } }) := by
  simp only [write, Frame.Sink.send, Frame.Sink.write, unbounded, Except.mapError]

theorem Heard.meaningful {id : Int} {most : Nat} {frames : List (Except Frame.Failure Octets)}
    {response : Response} (heard : Heard id most frames (.ok response)) :
    response.Meaningful := by
  cases heard with
  | answered few others message own =>
      unfold Incoming.ofFrame at message
      split at message
      · cases message
      · split at message
        · cases message
        next text _ =>
          cases parsed : Incoming.parse text with
          | error failure =>
              rw [parsed] at message
              cases message
          | ok incoming =>
              rw [parsed] at message
              cases message
              exact Incoming.meaningful_of_parse parsed

/-- What a request does before it waits: it takes the next number and writes its message. -/
def submit (channel : Channel) (method : String) (params : Datum) :
    Except Failure Unit × Channel :=
  let id := channel.lastId + 1
  ({ channel with lastId := id }.note (.sendingRequest channel.session method id)).write
    (.request id method (Message.meaningful params))

theorem requestRaw_of_not_submitted {channel after : Channel} {method : String} {params : Datum}
    {failure : Failure} (submitted : channel.submit method params = (.error failure, after)) :
    channel.requestRaw method params = (.error failure, after) := by
  unfold submit at submitted
  simp only [requestRaw, submitted]

theorem requestRaw_of_submitted {channel after : Channel} {method : String} {params : Datum}
    (submitted : channel.submit method params = (.ok (), after)) :
    channel.requestRaw method params =
      let waited := after.await (channel.lastId + 1) patience
      (waited.1.bind Response.accepted, waited.2) := by
  unfold submit at submitted
  simp only [requestRaw, submitted]
  rcases after.await (channel.lastId + 1) patience with ⟨outcome, final⟩
  cases outcome with
  | error failure => rfl
  | ok response =>
      cases refused : response.error <;> simp [Except.bind, Response.accepted, refused]

/-- A channel once it has written its next request. -/
def asking (channel : Channel) (method : String) (params : Datum) : Channel :=
  let id := channel.lastId + 1
  let message := Message.request id method (Message.meaningful params)
  { channel with
    lastId := id
    sink := { channel.sink with
      written := channel.sink.written ++ Frame.encode message.encode }
    journal := channel.journal ++ [.sendingRequest channel.session method id] }

theorem submit_eq (channel : Channel) (unbounded : channel.sink.room = none) (method : String)
    (params : Datum) : channel.submit method params = (.ok (), channel.asking method params) := by
  exact write_eq _ (by exact unbounded) _

theorem requestAs_eq (channel : Channel) (decode : Schema.Decoder α) (method : String)
    (params : Datum) :
    channel.requestAs decode method params =
      ((channel.requestRaw method params).1.bind (Response.reading decode method),
        (channel.requestRaw method params).2) := by
  unfold requestAs request
  rcases channel.requestRaw method params with ⟨outcome, after⟩
  cases outcome with
  | error failure => rfl
  | ok response => cases said : response.result <;> simp [said, Except.bind, Response.reading]

theorem accepted_eq_ok_iff {outcome : Except Failure Response} {response : Response} :
    outcome.bind Response.accepted = .ok response ↔
      outcome = .ok response ∧ response.error = none := by
  cases outcome with
  | error failure => simp [Except.bind]
  | ok heard =>
      cases refused : heard.error with
      | none =>
          simp only [Except.bind, Response.accepted, refused, Except.ok.injEq]
          constructor
          · rintro rfl
            exact ⟨rfl, refused⟩
          · rintro ⟨same, -⟩
            exact same
      | some error =>
          simp only [Except.bind, Response.accepted, refused, reduceCtorEq, Except.ok.injEq,
            false_iff, not_and]
          rintro rfl
          simp [refused]

theorem Heard.bind_reading {id : Int} {most : Nat}
    {frames : List (Except Frame.Failure Octets)} {outcome : Except Failure Response}
    (heard : Heard id most frames outcome) (decode : Schema.Decoder α) (method : String) :
    (outcome.bind Response.accepted).bind (Response.reading decode method) =
      (outcome.bind Response.accepted).bind (Response.content decode method) := by
  cases yielded : outcome.bind Response.accepted with
  | error failure => rfl
  | ok response =>
      rw [(accepted_eq_ok_iff.mp yielded).1] at heard
      exact heard.meaningful.reading_eq

theorem notify_eq {channel : Channel} (unbounded : channel.sink.room = none) (method : String)
    (params : Datum) :
    channel.notify method params =
      (.ok (), { channel with
        sink := { channel.sink with
          written := channel.sink.written ++
            Message.frames [.notification method (Message.meaningful params)] }
        journal := channel.journal ++ [.sendingNotification channel.session method] }) := by
  rw [notify, write_eq _ (by exact unbounded)]
  simp [Message.frames, note]

/-- A request writes its message and then only listens, whatever comes of it. -/
theorem requestRaw_listens {channel : Channel} (unbounded : channel.sink.room = none) (method : String)
    (params : Datum) :
    ∃ frames outcome, (channel.asking method params).Listens
        (channel.requestRaw method params).2 frames ∧
      Heard (channel.lastId + 1) patience frames outcome ∧
      ((channel.asking method params).await (channel.lastId + 1) patience).1 = outcome ∧
      (channel.requestRaw method params).1 = outcome.bind Response.accepted := by
  rcases await_heard (channel.lastId + 1) patience (channel.asking method params) with
    ⟨frames, listens, heard⟩
  rw [requestRaw_of_submitted (submit_eq channel unbounded method params)]
  exact ⟨frames, _, listens, heard, rfl, rfl⟩

/-- Waiting writes nothing, so a request leaves the sink as its message left it. -/
theorem requestRaw_sink (channel : Channel) (method : String) (params : Datum) :
    (channel.requestRaw method params).2.sink = (channel.sink.send
      (Message.request (channel.lastId + 1) method (Message.meaningful params)).encode).2 := by
  rcases submitted : channel.submit method params with ⟨outcome, after⟩
  have sent : after.sink = (channel.sink.send
      (Message.request (channel.lastId + 1) method (Message.meaningful params)).encode).2 := by
    rw [show after = (channel.submit method params).2 by rw [submitted]]
    rfl
  cases outcome with
  | error failure => rw [requestRaw_of_not_submitted submitted, sent]
  | ok done =>
      rcases await_heard (channel.lastId + 1) patience after with ⟨frames, listens, -⟩
      rw [requestRaw_of_submitted submitted, ← sent]
      exact listens.sink

/-- A request that waits takes the next number, writes its message and receives what it hears. -/
theorem Exchange.Advances.of_waiting {channel after : Channel} {exchange : Exchange α}
    {method : String} {params : Datum} (waits : exchange.call.isRequest = true)
    (asks : exchange.message = .request (channel.lastId + 1) method (Message.meaningful params))
    (listens : (channel.asking method params).Listens after exchange.frames) :
    exchange.Advances channel after where
  number := by rw [waits, Exchange.id?, asks, if_pos rfl]; rfl
  lastId := by rw [listens.lastId, Exchange.id?, asks]; rfl
  sink := by rw [listens.sink, Exchange.frame, asks]; rfl
  received := listens.received

theorem perform_exchange (channel : Channel) (unbounded : channel.sink.room = none)
    (call : Call α) :
    ∃ exchange : Exchange α, exchange.call = call ∧ exchange.reply = (channel.perform call).1 ∧
      exchange.Correlated ∧ exchange.Advances channel (channel.perform call).2 := by
  cases call with
  | request decode method params =>
      rcases await_heard (channel.lastId + 1) patience (channel.asking method params) with
        ⟨frames, listens, heard⟩
      rw [perform, requestAs_eq,
        requestRaw_of_submitted (submit_eq channel unbounded method params)]
      dsimp only
      -- A result of null was read as no result, so it need not be told from the others here.
      rw [heard.bind_reading]
      exact ⟨⟨_, _, frames, _⟩, rfl, rfl, .request heard, .of_waiting rfl rfl listens⟩
  | requestRaw method params =>
      rcases await_heard (channel.lastId + 1) patience (channel.asking method params) with
        ⟨frames, listens, heard⟩
      rw [perform, requestRaw_of_submitted (submit_eq channel unbounded method params)]
      exact ⟨⟨_, _, frames, _⟩, rfl, rfl, .requestRaw heard, .of_waiting rfl rfl listens⟩
  | notify method params =>
      have written := write_eq (channel.note (.sendingNotification channel.session method))
        unbounded (.notification method (Message.meaningful params))
      rw [perform, notify, written]
      exact ⟨⟨_, _, [], _⟩, rfl, rfl, .notify, ⟨rfl, rfl, rfl, rfl⟩⟩

/-! ### A whole conversation -/

/-- An exchange comes before those of the calls that follow. -/
theorem Converses.cons {channel : Channel} {calls : List (Call α)} {exchange : Exchange α}
    {exchanges : List (Exchange α)}
    (reply : exchange.reply = (channel.perform exchange.call).1)
    (correlated : exchange.Correlated)
    (advances : exchange.Advances channel (channel.perform exchange.call).2)
    (others : (channel.perform exchange.call).2.Converses calls exchanges) :
    channel.Converses (exchange.call :: calls) (exchange :: exchanges) where
  made := congrArg (exchange.call :: ·) others.made
  replies := by
    rw [List.map_cons, reply, others.replies]
    rfl
  correlated := by
    intro other mem
    rcases List.mem_cons.mp mem with rfl | mem
    · exact correlated
    · exact others.correlated other mem
  numbers := by
    have rest := others.numbers
    have number := advances.number
    have lastId := advances.lastId
    cases waits : exchange.call.isRequest with
    | false =>
        rw [waits, if_neg Bool.false_ne_true] at number
        rw [number] at lastId
        rw [List.filterMap_cons_none number, List.countP_cons_of_neg (by simp [waits]), rest, lastId]
        rfl
    | true =>
        -- The numbers of the later requests are counted from this one on.
        rw [waits, if_pos rfl] at number
        rw [number] at lastId
        rw [List.filterMap_cons_some number, List.countP_cons_of_pos waits, rest, lastId,
          List.range_succ_eq_map, List.map_cons, List.map_map]
        refine List.cons_eq_cons.mpr ⟨by simp, List.map_congr_left fun earlier _ => ?_⟩
        simp only [Option.getD_some, Function.comp_apply, Nat.succ_eq_add_one, Nat.cast_add,
          Nat.cast_one]
        omega
  written := by
    have before := others.written
    rw [advances.sink] at before
    rw [List.flatMap_cons, ← List.append_assoc]
    exact before
  received := by
    -- Whoever reads next goes on where this exchange stopped.
    have rest := others.received
    rw [List.flatMap_cons, List.length_append, Frame.receiveEach_add, advances.received, rest]
    rfl

/-- Calls on a channel that takes every frame are exchanges, whatever the backend writes. -/
theorem converse_exchanges (channel : Channel) (unbounded : channel.sink.room = none)
    (calls : List (Call α)) : ∃ exchanges, channel.Converses calls exchanges := by
  induction calls generalizing channel with
  | nil => exact ⟨[], ⟨rfl, rfl, by simp, rfl, by simp [converse], rfl⟩⟩
  | cons call calls ih =>
      rcases perform_exchange channel unbounded call with
        ⟨exchange, rfl, reply, correlated, advances⟩
      have stillUnbounded : (channel.perform exchange.call).2.sink.room = none := by
        rw [advances.sink]
        exact unbounded
      rcases ih (channel.perform exchange.call).2 stillUnbounded with ⟨exchanges, others⟩
      exact ⟨exchange :: exchanges, .cons reply correlated advances others⟩

/-- The response that an exchange yields has the number of its own request. -/
theorem Exchange.Correlated.response_id {exchange : Exchange α} (correlated : exchange.Correlated)
    {response : Response} (yields : exchange.reply = .response (.ok response)) :
    response.id = exchange.id? := by
  cases correlated with
  | request heard => cases yields
  | notify => cases yields
  | @requestRaw _ _ _ _ outcome heard =>
      have yielded : outcome.bind Response.accepted = .ok response := Reply.response.inj yields
      rw [(accepted_eq_ok_iff.mp yielded).1] at heard
      cases heard with
      | answered few others message own => exact own

/--
Requests and responses are correlated, whatever a backend writes and whatever is called on a channel
in turn: the message of the request that follows so many others carries the next number for `id`,
notifications carry none; each request ends with what it heard, and thus with the first response of
its own number among a hundred messages; and what all of them heard, in turn, is what was received,
so that no frame serves two of them.
-/
theorem conversation_correlated (session : SessionId) (stream : Octets) (calls : List (Call α)) :
    let start : Channel := { session, stream }
    ∃ exchanges : List (Exchange α),
      exchanges.map Exchange.call = calls ∧
      exchanges.map Exchange.reply = (start.converse calls).1 ∧
      (∀ exchange ∈ exchanges, exchange.Correlated) ∧
      (∀ exchange ∈ exchanges, ∀ response, exchange.reply = .response (.ok response) →
        response.id = exchange.id?) ∧
      (∀ exchange ∈ exchanges,
        exchange.message.datum.member? "id" = exchange.id?.map .integer) ∧
      exchanges.filterMap Exchange.id? =
        (List.range (calls.countP Call.isRequest)).map (fun earlier : Nat => (earlier : Int) + 1) ∧
      (start.converse calls).2.sink.written = exchanges.flatMap Exchange.frame ∧
      Frame.receiveEach (exchanges.flatMap Exchange.frames).length stream =
        (exchanges.flatMap Exchange.frames, (start.converse calls).2.stream) := by
  intro start
  rcases converse_exchanges start rfl calls with ⟨exchanges, converses⟩
  have numbers := converses.numbers
  simp only [start, Int.zero_add] at numbers
  exact ⟨exchanges, converses.made, converses.replies, converses.correlated,
    fun exchange mem response yields => (converses.correlated exchange mem).response_id yields,
    fun exchange _ => exchange.message.member_id, numbers, converses.written, converses.received⟩

end Channel

end EditorSession
