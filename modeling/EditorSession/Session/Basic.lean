/-!
# Sessions

A session is one backend bound to one project scope. The manager numbers sessions from one and never
uses a number twice, so a number tells a session from every other one of its manager.
-/

namespace EditorSession

/-- The workspace or project within which at most one backend runs. -/
abbrev Scope := String

/-- The number of a session. -/
abbrev SessionId := Nat

namespace Session

/-- How far the session bound to a scope has come. -/
inductive Progress
  /-- The start was made and the handshake has not ended. -/
  | starting
  | running
  /-- The last start failed; the next activation starts afresh. -/
  | failed
  deriving DecidableEq, Repr, Inhabited

/-- Whether a session of this progress keeps its scope from being started again. -/
def Progress.isLive : Progress → Bool
  | starting | running => true
  | failed => false

/-- The state that is reported of a scope or of a handle. -/
inductive State
  | unstarted
  | bound (progress : Progress)
  | terminated
  deriving DecidableEq, Repr, Inhabited

/-- The word for a progress. -/
def Progress.label : Progress → String
  | starting => "starting"
  | running => "running"
  | failed => "failed"

/-- The word for a state. -/
def State.label : State → String
  | unstarted => "unstarted"
  | bound progress => progress.label
  | terminated => "terminated"

/-- The name of a progress in journal fields. -/
def Progress.name : Progress → String
  | starting => "Starting"
  | running => "Running"
  | failed => "Failed"

end Session

end EditorSession
