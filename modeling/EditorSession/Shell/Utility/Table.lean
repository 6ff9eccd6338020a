import EditorSession.Shell.Utility.Awk.Run
import EditorSession.Shell.Utility.Blocks
import EditorSession.Shell.Utility.Edit
import EditorSession.Shell.Utility.Excerpt
import EditorSession.Shell.Utility.Files
import EditorSession.Shell.Utility.Lines
import EditorSession.Shell.Utility.Names
import EditorSession.Shell.Utility.Number
import EditorSession.Shell.Utility.Order
import EditorSession.Shell.Utility.Plainly
import EditorSession.Shell.Utility.Search
import EditorSession.Shell.Utility.Translation

/-!
# The programs of a system

Which program a name of the system's file tree stands for.
-/

namespace EditorSession.Shell

/-- The programs by their names. -/
def utilities : List (String × Utility) :=
  [("awk", Awk.interpret), ("basename", Names.showLast), ("cat", Lines.copy),
    ("cut", Excerpt.cut), ("dd", Blocks.copy), ("dirname", Names.showDirectory),
    ("echo", Plainly.echo), ("expr", Number.expression), ("false", Plainly.settled 1),
    ("grep", Search.grep), ("head", Excerpt.head), ("ls", Files.list), ("paste", Lines.paste),
    ("printf", Plainly.format), ("sed", Edit.stream), ("sleep", Plainly.rest),
    ("sort", Order.sort), ("tr", Translation.translate), ("true", Plainly.settled 0),
    ("wc", Lines.count)]

/-- The names of the shell itself. -/
def shellNames : List String := ["sh", "dash", "bash"]

end EditorSession.Shell
