import EditorSession.Shell.Condition
import EditorSession.Shell.System

/-!
# Opening files

What a process meets at a path: a file of the tree, one of the devices that are no files, or one of
its own descriptors.
-/

namespace EditorSession.Shell

/-- How a file is opened. -/
inductive OpenMode
  | read
  /-- The file is emptied; one that is there may be protected. -/
  | write (overProtected : Bool)
  | append
  | readWrite
  deriving DecidableEq

/-- Why a file cannot be opened. -/
inductive OpenFailure
  | file (failure : FileError)
  /-- The file is there and protected. -/
  | exists
  | noDevice
  deriving DecidableEq

/-- Whether what is missing is the file or a directory on the way. -/
def OpenFailure.isMissing : OpenFailure → Bool
  | file .noEntry | file .notDirectory => true
  | _ => false

/-- The wording of a failure. -/
def OpenFailure.cause : OpenFailure → String
  | file failure => fileCause failure
  | .exists => "File exists"
  | noDevice => "No such device or address"

/-- What stands for something else than a file. -/
inductive Device
  | port (port : Port)
  | descriptor (number : Nat)
  | terminal
  deriving DecidableEq

/-- The device at a path. -/
def device? (directory : List String) (path : String) : Option Device :=
  let names := FileTree.names path
  let names := if path.startsWith "/" then names else directory ++ names
  match names with
  | ["dev", "null"] => some (.port .nowhere)
  | ["dev", "zero"] => some (.port .zeros)
  | ["dev", "full"] => some (.port .full)
  | ["dev", "tty"] => some .terminal
  | ["dev", "stdin"] => some (.descriptor 0)
  | ["dev", "stdout"] => some (.descriptor 1)
  | ["dev", "stderr"] => some (.descriptor 2)
  | ["dev", "fd", number] | ["proc", "self", "fd", number] =>
    (decimal? number).map .descriptor
  | _ => none

/-- A port as it is opened anew: a pipe is opened at the end that is asked for. -/
def reopened (mode : OpenMode) : Port → Port
  | .writing pipe => if mode = .read then .reading pipe else .writing pipe
  | .reading pipe =>
    match mode with
    | .write _ | .append => .writing pipe
    | _ => .reading pipe
  | port => port

namespace Act

/-- Makes a file empty, or new, and opens it. -/
def create (path : String) (overProtected keeps appends : Bool) :
    Act (Except OpenFailure Port) := do
  let turn ← get
  match turn.system.tree.placeFor turn.process.directory (decoded path) with
  | .error failure => return .error (.file failure)
  | .ok place =>
    let isThere := (turn.system.tree.at? place).isSome
    if isThere && turn.process.scope.hasFlag 'C' && !overProtected then return .error .exists
    else
      if !isThere || !keeps then
        changeSystem fun system => { system with tree := system.tree.put place (.file []) }
      return .ok (← openFile place appends)

/-- Opens what is at a path. -/
def openPath (mode : OpenMode) (path : String) : Act (Except OpenFailure Port) := do
  let turn ← get
  match device? turn.process.directory path with
  | some (.port port) => return .ok port
  | some .terminal => return .error .noDevice
  | some (.descriptor number) =>
    match turn.process.port? number with
    | some port => return .ok (reopened mode port)
    | none => return .error (.file .noEntry)
  | none =>
    match mode with
    | .read =>
      match turn.system.tree.resolveFrom turn.process.directory (decoded path) with
      | .ok place => return .ok (← openFile place false)
      | .error failure => return .error (.file failure)
    | .write overProtected => create path overProtected false false
    | .append => create path true true true
    | .readWrite => create path true true false

end Act

/-! ### Conditions -/

/-- Whether a port is a pipe. -/
def isPipe : Port → Bool
  | .reading _ | .writing _ => true
  | _ => false

/-- Whether a device without contents answers a question. -/
def portHolds (letter : Char) (port : Port) : Bool :=
  match letter with
  | 'e' | 'r' | 'w' | 'O' | 'G' => true
  | 'p' => isPipe port
  | 'c' => port = .nowhere || port = .zeros || port = .full
  | _ => false

/-- Whether something in the tree answers a question. -/
def entryHolds (tree : FileTree) (letter : Char) (place : List String) : Bool :=
  match letter, tree.at? place with
  | _, none => false
  | 'e', _ | 'r', _ | 'w', _ | 'O', _ | 'G', _ => true
  | 'd', some .directory | 'x', some .directory | 's', some .directory => true
  | 'f', some (.file _) | 'f', some (.program _) => true
  | 's', some (.file contents) => !contents.isEmpty
  | 's', some (.program _) | 'x', some (.program _) => true
  | _, _ => false

/-- What is known of files for a process. -/
def Turn.facts (turn : Turn) : Condition.Facts where
  holds letter path :=
    if letter = 't' then false
    else
      let atPlace : Bool :=
        match turn.system.tree.resolveFrom turn.process.directory (decoded path) with
        | .ok place => entryHolds turn.system.tree letter place
        | .error _ => false
      match device? turn.process.directory path with
      | some (.port port) => portHolds letter port
      | some .terminal => letter ∈ ['e', 'r', 'w', 'c']
      | some (.descriptor number) =>
        match turn.process.port? number with
        | some (.file handle) =>
          match turn.system.handles.lookup handle with
          | some handle => entryHolds turn.system.tree letter handle.place
          | none => false
        | some port => portHolds letter port
        | none => false
      | none => atPlace
  relates operator left right :=
    let place? (path : String) : Option (List String) :=
      (turn.system.tree.resolveFrom turn.process.directory (decoded path)).toOption
    match operator with
    -- All files are of the same age.
    | "-ef" => (place? left).isSome && place? left == place? right
    | _ => false

end EditorSession.Shell
