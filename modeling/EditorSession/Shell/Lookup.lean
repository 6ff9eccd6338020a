import EditorSession.FileTree
import EditorSession.Shell.Plain

/-!
# Looking programs up

How the name of a command leads to a program of the system: a name with a slash is a path, and any
other one is looked for in the directories of a search path. What is no program may not be run, and
counts for more than nothing where no program is found.
-/

namespace EditorSession.Shell

/-- Where programs are looked for if nothing else is said. -/
def defaultPath : String := "/usr/local/sbin:/usr/local/bin:/usr/sbin:/usr/bin:/sbin:/bin"

/-- The program at a path. -/
def programAt (tree : FileTree) (directory : List String) (path : String) :
    Except FileError String := do
  let place ← tree.resolveFrom directory (decoded path)
  match tree.at? place with
  | some (.program name) => return name
  | some _ => throw .permissionDenied
  | none => throw .noEntry

/-- The first of some paths at which there is a program, and the program. -/
def firstProgram (tree : FileTree) (directory : List String) (failure : FileError) :
    List String → Except FileError (String × String)
  | [] => .error failure
  | path :: rest =>
    match programAt tree directory path with
    | .ok program => .ok (path, program)
    | .error .permissionDenied => firstProgram tree directory .permissionDenied rest
    | .error _ => firstProgram tree directory failure rest

/-- The paths at which a search path looks for a name. -/
def candidates (search name : String) : List String :=
  (search.splitOn ":").map fun directory =>
    if directory.isEmpty then name
    else if directory.endsWith "/" then directory ++ name
    else directory ++ "/" ++ name

/-- The path of what a name stands for, and the program there. -/
def lookUp (tree : FileTree) (directory : List String) (search name : String) :
    Except FileError (String × String) :=
  if name.isEmpty then .error .noEntry
  else if name.toList.contains '/' then (programAt tree directory name).map (name, ·)
  else firstProgram tree directory .noEntry (candidates search name)

end EditorSession.Shell
