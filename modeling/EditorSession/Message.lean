import EditorSession.Json.Reader
import EditorSession.Json.Writer
import EditorSession.Schema
import EditorSession.Text.Utf8

/-!
# Messages

The JSON-RPC messages of a conversation. The client writes requests, which carry a number and expect
a response, and notifications, which do not. What a backend writes is sorted by the member `method`:
with it, it is a request or a notification of the backend's own; without it, it is a response.
-/

namespace EditorSession

open Schema (Dialect Member Result Mismatch)

/-- A message of the client. -/
inductive Message
  | request (id : Int) (method : String) (params : Option Datum)
  | notification (method : String) (params : Option Datum)
  deriving Repr

namespace Message

/-- The parameters of a message as members. -/
def paramsMember (params : Option Datum) : Members :=
  match params with
  | some params => [("params", params)]
  | none => []

/-- A message as data. -/
def datum : Message → Datum
  | request id method params =>
    .record ([("jsonrpc", .text "2.0"), ("id", .integer id), ("method", .text method)]
      ++ paramsMember params)
  | notification method params =>
    .record ([("jsonrpc", .text "2.0"), ("method", .text method)] ++ paramsMember params)

/-- The payload of a message. -/
def encode (message : Message) : Octets :=
  Text.Utf8.encode (Json.write message.datum)

/-- Parameters that are null are left out. -/
def meaningful (params : Datum) : Option Datum :=
  if params.isNull then none else some params

end Message

/-- The error that a backend answers with. -/
structure ResponseError where
  code : Int
  message : String
  deriving DecidableEq, Repr, Inhabited

/-- A response of a backend. A result of null is no result. -/
structure Response where
  id : Option Int := none
  result : Option Datum := none
  error : Option ResponseError := none
  deriving Repr, Inhabited

/-- A message of a backend. -/
inductive Incoming
  | response (response : Response)
  | request (id : Datum) (method : String)
  | notification (method : String)
  deriving Repr

/-- Why a payload is no message. -/
inductive PayloadError
  | notJson
  | mismatched (mismatch : Mismatch)
  deriving Repr

/-- What is said of a payload that is no message. -/
def PayloadError.summary : String := "malformed JSON-RPC payload"

/-- The wording of an error. -/
def PayloadError.message : PayloadError → String
  | notJson => summary
  | mismatched mismatch => summary ++ ": " ++ mismatch.message .json

namespace ResponseError

/-- A response error whose members may still be missing. -/
structure Draft where
  code : Option Int := none
  message : Option String := none

/-- The members of a response error. -/
def fields : List (Member Draft) := [
  .of "code" Schema.integer fun code draft => { draft with code := some code },
  .of "message" Schema.text fun message draft => { draft with message := some message }]

/-- What a list that is too short for a response error lacks. -/
def wanted : Schema.Expectation := .fields "JsonRpcError" 2

/-- Reads a response error: an object with both members, or a list of the two. -/
def decode : Schema.Decoder ResponseError
  | dialect, .record members => do
    let draft ← Schema.overlayKnown dialect fields members {}
    let code ← Schema.required "code" draft.code
    let message ← Schema.required "message" draft.message
    return { code, message }
  | _, .list [] => .error (.tooFew 0 wanted)
  | dialect, .list [code] => do
    let _ ← Schema.integer dialect code
    .error (.tooFew 1 wanted)
  | dialect, .list (code :: message :: rest) => do
    let code ← Schema.integer dialect code
    let message ← Schema.text dialect message
    if rest.isEmpty then return { code, message } else .error (.tooMany (rest.length + 2))
  | _, found => .error (.wrongType found (.record "JsonRpcError"))

end ResponseError

namespace Response

/-- The members of a response, in the order in which a list gives them. -/
def fields : List (Member Response) := [
  .of "id" (Schema.optional Schema.integer) fun id response => { response with id },
  .of "result" (Schema.optional fun _ datum => .ok datum)
    fun result response => { response with result },
  .of "error" (Schema.optional ResponseError.decode)
    fun error response => { response with error }]

/-- Reads a response: an object, or a list that starts with the number of the request. -/
def decode : Schema.Decoder Response
  | dialect, .record members => Schema.overlayKnown dialect fields members {}
  | _, .list [] => .error (.tooFew 0 (.fields "JsonRpcResponse" 3))
  | dialect, .list (item :: items) =>
    Schema.Shape.overlay ⟨"JsonRpcResponse", fields⟩ dialect (.list (item :: items)) {}
  | _, found => .error (.wrongType found (.record "JsonRpcResponse"))

end Response

namespace Incoming

/-- A message of the backend's own whose members may still be missing. -/
structure Draft where
  id : Option Datum := none
  method : Option String := none

/-- The members that tell such messages apart. -/
def fields : List (Member Draft) := [
  .of "id" (Schema.optional fun _ datum => .ok datum) fun id draft => { draft with id },
  .of "method" Schema.text fun method draft => { draft with method := some method }]

/-- Reads a request or a notification of a backend. -/
def ofMembers (members : Members) : Result Incoming := do
  let draft ← Schema.overlayKnown .json fields members {}
  let method ← Schema.required "method" draft.method
  match draft.id with
  | some id => return .request id method
  | none => return .notification method

/-- Sorts the value of a payload. -/
def ofDatum (datum : Datum) : Result Incoming :=
  match datum with
  | .record members =>
    match Members.find? "method" members with
    | some _ => ofMembers members
    | none => (Response.decode .json datum).map .response
  | datum => (Response.decode .json datum).map .response

/-- Reads a message of a backend from the text of its payload. -/
def parse (payload : List Char) : Except PayloadError Incoming :=
  match Json.read payload with
  | none => .error .notJson
  | some datum => (ofDatum datum).mapError .mismatched

end Incoming

end EditorSession
