import EditorSession.Capability
import EditorSession.Launch
import EditorSession.Session.Basic

/-!
# Start requests
-/

namespace EditorSession

/-- What a transport is given to start a session. -/
structure StartRequest where
  session : SessionId
  scope : Scope
  launch : LaunchSpecification
  capabilities : Capability.Declaration
  deriving DecidableEq, Repr

end EditorSession
