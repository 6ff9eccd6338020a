import EditorSession.Backend.Event

/-!
# Channels

One conversation with a backend. Requests are numbered from one. Whoever waits for a response looks
at the messages of the backend in order: those that are no response to this request are noted and
passed over, and after a hundred of them the wait is given up.
-/

namespace EditorSession

open Backend (Failure)

/-- The client's end of a conversation. -/
structure Channel where
  session : SessionId
  /-- What the backend writes and has not been read yet. -/
  stream : Octets
  sink : Frame.Sink := {}
  /-- The number of the last request. -/
  lastId : Int := 0
  /-- What was noted, oldest first. -/
  journal : List Conversation.Event := []

namespace Channel

/-- The number of messages that are looked at for one response. -/
def patience : Nat := 100

/-- Notes an event. -/
def note (channel : Channel) (event : Conversation.Event) : Channel :=
  { channel with journal := channel.journal ++ [event] }

/-- Writes a message. -/
def write (channel : Channel) (message : Message) : Except Failure Unit × Channel :=
  let (result, sink) := channel.sink.send message.encode
  (result.mapError .frame, { channel with sink })

/-- Reads the next message of the backend. -/
def read (channel : Channel) : Except Failure Incoming × Channel :=
  let (result, stream) := Frame.receive channel.stream
  let channel := { channel with stream }
  match result with
  | .error failure => (.error (.frame failure), channel)
  | .ok payload =>
    match Text.Utf8.decode payload with
    | .error malformed => (.error (.encoding malformed), channel)
    | .ok text => ((Incoming.parse text).mapError .payload, channel)

/-- Whether a message is the response to a request. -/
def answers (id : Int) : Incoming → Option Response
  | .response response => if response.id = some id then some response else none
  | _ => none

/-- What is noted of a message that is not the awaited response. -/
def passedOver (session : SessionId) (id : Int) : Incoming → Conversation.Event
  | .response response => .skippingResponse session id response.id
  | .request _ method => .ignoringRequest session method
  | .notification method => .skippingNotification session method

/-- Waits for the response to a request, looking at so many messages at most. -/
def await (id : Int) : (messages : Nat) → Channel → Except Failure Response × Channel
  | 0, channel =>
    (.error (.unanswered id patience), channel.note (.givingUp channel.session id patience))
  | messages + 1, channel =>
    match channel.read with
    | (.error failure, channel) => (.error failure, channel)
    | (.ok incoming, channel) =>
      match answers id incoming with
      | some response => (.ok response, channel)
      | none => await id messages (channel.note (passedOver channel.session id incoming))

/-- Makes a request and waits for its response; an answer that is an error is a failure. -/
def requestRaw (channel : Channel) (method : String) (params : Datum) :
    Except Failure Response × Channel :=
  let id := channel.lastId + 1
  let channel := { channel with lastId := id }.note (.sendingRequest channel.session method id)
  match channel.write (.request id method (Message.meaningful params)) with
  | (.error failure, channel) => (.error failure, channel)
  | (.ok _, channel) =>
    match channel.await id patience with
    | (.error failure, channel) => (.error failure, channel)
    | (.ok response, channel) =>
      match response.error with
      | some error => (.error (.rejected error), channel)
      | none => (.ok response, channel)

/-- Makes a request and yields the result of its response, which must not be null. -/
def request (channel : Channel) (method : String) (params : Datum) :
    Except Failure Datum × Channel :=
  match channel.requestRaw method params with
  | (.error failure, channel) => (.error failure, channel)
  | (.ok response, channel) =>
    match response.result with
    | some result => (.ok result, channel)
    | none => (.error (.unusableAnswer ("empty result in response to " ++ method)), channel)

/-- Makes a request and reads the result of its response. -/
def requestAs {α : Type} (decode : Schema.Decoder α) (channel : Channel) (method : String)
    (params : Datum) : Except Failure α × Channel :=
  match channel.request method params with
  | (.error failure, channel) => (.error failure, channel)
  | (.ok result, channel) =>
    ((decode .json result).mapError fun mismatch => .payload (.mismatched mismatch), channel)

/-- Sends a notification, to which there is no response. -/
def notify (channel : Channel) (method : String) (params : Datum) :
    Except Failure Unit × Channel :=
  (channel.note (.sendingNotification channel.session method)).write
    (.notification method (Message.meaningful params))

end Channel

end EditorSession
