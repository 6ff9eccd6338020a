import EditorSession.Shell.Builtin.Flow
import EditorSession.Shell.Builtin.Report
import EditorSession.Shell.Builtin.Variables

/-!
# The commands that the shell knows

Which command of the shell a name stands for, and whether a mistake in its call ends the shell.
-/

namespace EditorSession.Shell

/-- The commands of the shell by their names, each with whether it is special. -/
def builtins : List (String × Bool × Builtin) :=
  let settled (status : Nat) : Builtin := fun _ => Act.settle status
  [(".", true, Flow.runFile), (":", true, settled 0), ("[", false, Report.bracket),
    ("alias", false, Report.aliases), ("break", true, Flow.leaveLoop false),
    ("cd", false, Report.changeDirectory), ("continue", true, Flow.leaveLoop true),
    ("echo", false, Report.echo), ("eval", true, Flow.evaluate), ("exec", true, Flow.replaceShell),
    ("exit", true, Flow.exit), ("export", true, Variables.exportAll), ("false", false, settled 1),
    ("getopts", false, Variables.takeOption), ("kill", false, Flow.kill),
    ("local", true, Variables.makeLocal), ("printf", false, Report.printf),
    ("pwd", false, Report.workingDirectory), ("read", false, Variables.read),
    ("return", true, Flow.comeBack), ("set", true, Variables.set),
    ("shift", true, Variables.shift), ("test", false, Report.test), ("trap", true, Flow.trap),
    ("true", false, settled 0), ("unset", true, Variables.unset), ("wait", false, Flow.wait)]

/-- Whether a name is that of a command that the shell knows. -/
def isBuiltin (name : String) : Bool := name = "command" || (builtins.lookup name).isSome

/-- Whether the arguments of a command that bind variables are not cut. -/
def bindsVariables (name : String) : Bool := name = "export" || name = "local"

end EditorSession.Shell
