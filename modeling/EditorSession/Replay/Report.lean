import EditorSession.Capability
import EditorSession.Json.Writer
import EditorSession.Launch

/-!
# Reports of a dry run

Before a dry run replays anything it shows what a session would be started with.
-/

namespace EditorSession.Replay

/-- What sessions of an integration are started with. -/
def report (launch : LaunchSpecification) (declaration : Capability.Declaration) : Datum :=
  .record [
    ("integration", .text declaration.integration),
    ("launch", launch.datum),
    ("capabilities", .list (declaration.states.map Capability.State.datum))]

/-- The text of a report. -/
def reportText (launch : LaunchSpecification) (declaration : Capability.Declaration) : String :=
  Json.pretty (report launch declaration) ++ "\n"

end EditorSession.Replay
