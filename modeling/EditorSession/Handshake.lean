import EditorSession.Backend.Request
import EditorSession.Channel

/-!
# Opening and closing a conversation

A conversation opens with the request `initialize`, which introduces the client and its
capabilities, and with the notification `initialized` once the backend has answered. It closes with
the request `shutdown` and the notification `exit`, which is sent whatever became of the request.
-/

namespace EditorSession.Handshake

open Backend (Failure)

/-- The version by which the client introduces itself. -/
def clientVersion : String := "0.1.0"

/-- The parameters of the opening request, for a client process of a number. -/
def parameters (process : Nat) (request : StartRequest) : Datum :=
  .record [
    ("capabilities", request.capabilities.client),
    ("clientInfo", .record [
      ("name", .text request.launch.integration), ("version", .text clientVersion)]),
    ("processId", .ofNat process),
    ("rootUri", .null)]

/-- How a backend introduces itself. -/
structure Server where
  name : String
  version : Option String
  deriving DecidableEq, Repr, Inhabited

/-- What a backend answers to the opening request. -/
structure Answer where
  server : Option Server
  advertised : Capability.Advertised
  deriving DecidableEq, Repr, Inhabited

namespace Server

/-- An introduction whose members may still be missing. -/
structure Draft where
  name : Option String := none
  version : Option String := none

/-- The members of an introduction. -/
def fields : List (Schema.Member Draft) := [
  .of "name" Schema.text fun name draft => { draft with name := some name },
  .of "version" (Schema.optional Schema.text) fun version draft => { draft with version }]

/-- What a list that is too short for an introduction lacks. -/
def wanted : Schema.Expectation := .fields "ServerInfo" 2

/-- Reads an introduction: an object, or a list of name and version. -/
def decode : Schema.Decoder Server
  | dialect, .record members => do
    let draft ← Schema.overlayKnown dialect fields members {}
    let name ← Schema.required "name" draft.name
    return { name, version := draft.version }
  | _, .list [] => .error (.tooFew 0 wanted)
  | dialect, .list [name] => do
    let _ ← Schema.text dialect name
    .error (.tooFew 1 wanted)
  | dialect, .list (name :: version :: rest) => do
    let name ← Schema.text dialect name
    let version ← Schema.optional Schema.text dialect version
    if rest.isEmpty then return { name, version } else .error (.tooMany (rest.length + 2))
  | _, found => .error (.wrongType found (.record "ServerInfo"))

end Server

namespace Answer

/-- An answer whose members may still be missing. -/
structure Draft where
  advertised : Option Capability.Advertised := none
  server : Option Server := none

/-- The members of an answer. -/
def fields : List (Schema.Member Draft) := [
  .of "capabilities" Capability.Advertised.decode
    fun advertised draft => { draft with advertised := some advertised },
  .of "serverInfo" (Schema.optional Server.decode) fun server draft => { draft with server }]

/-- What a list that is too short for an answer lacks. -/
def wanted : Schema.Expectation := .fields "InitializeResult" 2

/-- Reads an answer: an object, or a list of capabilities and introduction. -/
def decode : Schema.Decoder Answer
  | dialect, .record members => do
    let draft ← Schema.overlayKnown dialect fields members {}
    let advertised ← Schema.required "capabilities" draft.advertised
    return { server := draft.server, advertised }
  | _, .list [] => .error (.tooFew 0 wanted)
  | dialect, .list [capabilities] => do
    let _ ← Capability.Advertised.decode dialect capabilities
    .error (.tooFew 1 wanted)
  | dialect, .list (capabilities :: server :: rest) => do
    let advertised ← Capability.Advertised.decode dialect capabilities
    let server ← Schema.optional Server.decode dialect server
    if rest.isEmpty then return { server, advertised } else .error (.tooMany (rest.length + 2))
  | _, found => .error (.wrongType found (.record "InitializeResult"))

end Answer

/-- Makes the opening request and reads the answer. -/
def introduce (process : Nat) (request : StartRequest) (channel : Channel)
    (decode : Schema.Decoder Answer := Answer.decode) : Except Failure Answer × Channel :=
  channel.requestAs decode "initialize" (parameters process request)

/-- What is noted of the answer to a request. -/
def remarks (request : StartRequest) (answer : Answer) : List Conversation.Event :=
  let unsupported := request.capabilities.unsupportedBy answer.advertised
  (if unsupported.isEmpty then []
    else [.notAdvertised request.session request.launch.integration unsupported])
    ++ [.handshakeComplete request.session (answer.server.map Server.name)]

/-- Opens a conversation. -/
def greet (process : Nat) (request : StartRequest) (channel : Channel)
    (decode : Schema.Decoder Answer := Answer.decode) : Except Failure Answer × Channel :=
  match introduce process request channel decode with
  | (.error failure, channel) => (.error failure, channel)
  | (.ok answer, channel) =>
    match channel.notify "initialized" (.record []) with
    | (.error failure, channel) => (.error failure, channel)
    | (.ok _, channel) => (.ok answer, (remarks request answer).foldl Channel.note channel)

/-- Notes a failure, if there is one. -/
def noteFailure {α : Type} (event : Failure → Conversation.Event) (result : Except Failure α)
    (channel : Channel) : Channel :=
  match result with
  | .error failure => channel.note (event failure)
  | .ok _ => channel

/-- Closes a conversation; what fails is noted and does not stop the rest. -/
def dismiss (channel : Channel) : Channel :=
  let (answer, channel) := channel.requestRaw "shutdown" .null
  let channel := noteFailure .shutdownFailed answer channel
  let (sent, channel) := channel.notify "exit" .null
  noteFailure .exitFailed sent channel

end EditorSession.Handshake
