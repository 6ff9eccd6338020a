import EditorSession.Replay.Chain
import EditorSession.Session.Manager

/-!
# Records of a replay

What a replay tells while it goes on, one line to a record, and the console it tells it to. A
console may fail at any write; what it holds then is its own affair.
-/

namespace EditorSession.Replay

/-- Where a line goes. -/
inductive Outlet
  | output
  | errors
  deriving DecidableEq, Repr, Inhabited

/-- One thing that a replay tells. -/
inductive Record
  /-- A document did not pass the gate. -/
  | skipped (document : String)
  | opened (session : SessionId) (state : Session.State) (document : String)
  | refused (document : String) (error : Session.Error)
  /-- A session that was starting is running. -/
  | running (session : SessionId)
  | failed (scope : Scope) (error : Session.Error)

/-- An error with its causes. -/
def chainOf (error : Session.Error) : String := Chain.render error.message error.causes

namespace Record

/-- Where a record goes. -/
def outlet : Record → Outlet
  | skipped _ | opened .. | running _ => .output
  | refused .. | failed .. => .errors

/-- The text of a record. -/
def text : Record → String
  | skipped document => "skipped " ++ document
  | opened session state document =>
    "session " ++ toString session ++ " " ++ state.label ++ " " ++ document
  | refused document error => "error: " ++ document ++ ": " ++ chainOf error
  | running session => "session " ++ toString session ++ " running"
  | failed scope error => "error: scope " ++ scope ++ ": " ++ chainOf error

/-- Whether a record tells of a start that failed. -/
def isFailure : Record → Bool
  | refused .. | failed .. => true
  | skipped _ | opened .. | running _ => false

end Record

/-- A console over a state; a write that fails yields the cause. -/
structure Console (κ : Type) where
  write : Outlet → String → κ → Except String Unit × κ

namespace Console

variable {κ : Type}

/-- Writes a record on a line of its own. -/
def tell (console : Console κ) (record : Record) (state : κ) : Except String Unit × κ :=
  console.write record.outlet (record.text ++ "\n") state

end Console

/-- What was written to the two outlets. -/
structure Transcript where
  output : String := ""
  errors : String := ""
  deriving DecidableEq, Repr, Inhabited

/-- Writes one more text. -/
def Transcript.add (outlet : Outlet) (text : String) (transcript : Transcript) : Transcript :=
  match outlet with
  | .output => { transcript with output := transcript.output ++ text }
  | .errors => { transcript with errors := transcript.errors ++ text }

/-- The console that keeps all that is written. -/
def Console.keeping : Console Transcript where
  write outlet text transcript := (.ok (), transcript.add outlet text)

end EditorSession.Replay
