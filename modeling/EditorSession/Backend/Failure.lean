import EditorSession.Frame
import EditorSession.Message

/-!
# Failures of backends

Why a backend could not be started, or why a conversation with it came to nothing. A failure has a
wording of its own and may have a cause, which has one in turn; the chain of wordings is what the
user is shown.
-/

namespace EditorSession.Backend

/-- Why a backend could not be started or driven. -/
inductive Failure
  /-- The executable, or the directory it is to work in, does not exist. -/
  | executableMissing (command : String) (cause : String)
  /-- The system did not start what was asked for. -/
  | notStarted (what : String) (cause : String)
  | frame (failure : Frame.Failure)
  | payload (error : PayloadError)
  | encoding (malformed : Text.Utf8.Malformed)
  /-- The backend answered with an error. -/
  | rejected (error : ResponseError)
  /-- The answer is there and of no use. -/
  | unusableAnswer (message : String)
  /-- No response came among a number of messages. -/
  | unanswered (request : Int) (messages : Nat)
  /-- The handshake took longer than a number of milliseconds. -/
  | timedOut (milliseconds : Nat)
  /-- The worker that ran the handshake broke down. -/
  | workerLost
  deriving Repr

namespace Failure

/-- The wording of a failure. -/
def message : Failure → String
  | executableMissing command _ => "backend executable '" ++ command ++ "' was not found"
  | notStarted what _ => "could not start backend: " ++ what
  | frame failure => "backend stdio failed: " ++ failure.message
  | payload error => error.message
  | encoding malformed => "backend output is not valid utf-8: " ++ malformed.message
  | rejected error =>
    "backend rejected the request: " ++ error.message ++ " (code " ++ toString error.code ++ ")"
  | unusableAnswer message => "initialize exchange failed: " ++ message
  | unanswered request messages =>
    "no response to request " ++ toString request ++ " after " ++ toString messages
      ++ " messages"
  | timedOut milliseconds =>
    "backend did not complete the handshake within " ++ toString milliseconds ++ "ms"
  | workerLost => "handshake thread for the backend panicked"

/-- The wordings of the causes of a failure, outermost first. -/
def causes : Failure → List String
  | executableMissing _ cause | notStarted _ cause => [cause]
  | frame (.pipe failure) => [Frame.Failure.message (.pipe failure), failure.message]
  | frame failure => [failure.message]
  | payload (.mismatched mismatch) => [mismatch.message .json]
  | payload .notJson => []
  | encoding malformed => [malformed.message]
  | _ => []

end Failure

/-- What stands behind an error of a transport. -/
inductive Origin
  | failure (failure : Failure)
  /-- Causes that are known by their wordings only, outermost first. -/
  | wordings (causes : List String)
  deriving Repr

/-- What a transport reports of a start that failed. -/
structure Error where
  message : String
  origin : Origin := .wordings []
  deriving Repr

/-- The wordings of the causes of an error, outermost first. -/
def Error.causes (error : Error) : List String :=
  match error.origin with
  | .failure failure => failure.message :: failure.causes
  | .wordings causes => causes

/-- The error of a backend that failed to start. -/
def Error.ofFailure (integration : String) (failure : Failure) : Error where
  message := integration ++ " backend did not start"
  origin := .failure failure

end EditorSession.Backend
