import EditorSession.Shell.Process

/-!
# The system

Processes that share files, pipes and a clock. A pipe has an end of its contents when no process can
write there any more, and a process that writes where nobody can read is ended by a signal.

A step of one process is an action on a turn: the process whose turn it is, and the system around
it, which holds the other processes.
-/

namespace EditorSession.Shell

/-- A pipe. -/
structure Pipe where
  contents : String := ""
  /-- The number of octets that it holds, which is looked up at each writing. -/
  size : Nat := contents.length
  /-- Whether someone outside of the system writes there. -/
  isFed : Bool := false
  /-- Whether someone outside of the system reads there. -/
  isHeard : Bool := false
  /-- How much it holds. -/
  capacity : Nat := 65536

namespace Pipe

/-- How much can be written to a pipe. -/
def room (pipe : Pipe) : Nat := pipe.capacity - pipe.size

/-- The pipe after a text was written to it. -/
def put (pipe : Pipe) (text : String) : Pipe :=
  { pipe with contents := pipe.contents ++ text, size := pipe.size + text.length }

/-- The pipe after so many octets were read from it. -/
def drop (pipe : Pipe) (count : Nat) : Pipe :=
  if pipe.size ≤ count then { pipe with contents := "", size := 0 }
  else
    { pipe with contents := (pipe.contents.drop count).toString, size := pipe.size - count }

end Pipe

/-- A file that was opened. -/
structure Handle where
  place : List String
  offset : Nat := 0
  appends : Bool := false

/-- The system. -/
structure System where
  /-- The time in milliseconds. -/
  now : Nat := 0
  tree : FileTree
  pipes : List (Nat × Pipe) := []
  handles : List (Nat × Handle) := []
  /-- The processes, apart from the one whose turn it is. -/
  processes : List Process := []
  /-- The number of the next pipe, handle or process. -/
  next : Nat := 1000
  /-- The steps that were made so far. -/
  spent : Nat := 0

/-- The turn of a process. -/
structure Turn where
  system : System
  process : Process

/-- A part of a turn. -/
abbrev Act := StateM Turn

/-! ### Systems -/

namespace System

/-- The process of a number. -/
def process? (system : System) (number : Nat) : Option Process :=
  system.processes.find? (·.number = number)

/-- The system with another state of a process. -/
def setProcess (system : System) (process : Process) : System :=
  { system with processes := system.processes.map fun kept =>
      if kept.number = process.number then process else kept }

/-- The pipe of a number. -/
def pipe? (system : System) (number : Nat) : Option Pipe := system.pipes.lookup number

/-- The system with another state of a pipe. -/
def setPipe (system : System) (number : Nat) (pipe : Pipe) : System :=
  { system with pipes := system.pipes.map fun kept =>
      if kept.1 = number then (number, pipe) else kept }

/-- Whether a process holds a port. -/
def isHeld (system : System) (port : Port) : Bool :=
  system.processes.any fun process => process.held.contains port

/-- The number of pipes and open files that are kept without asking whether they are of use. -/
def keptCount : Nat := 64

/-- The system without the pipes and open files that nobody can reach any more. -/
def tidy (system : System) : System :=
  if system.pipes.length + system.handles.length ≤ keptCount then system
  else
    let held := system.processes.flatMap Process.held
    { system with
      pipes := system.pipes.filter fun (number, pipe) =>
        pipe.isFed || pipe.isHeard || held.contains (.reading number)
          || held.contains (.writing number)
      handles := system.handles.filter fun (number, _) => held.contains (.file number) }

end System

/-! ### Turns -/

namespace Turn

/-- Whether a process holds a port. -/
def isHeld (turn : Turn) (port : Port) : Bool :=
  turn.process.held.contains port || turn.system.isHeld port

/-- Whether more may come through a pipe. -/
def isFed (turn : Turn) (number : Nat) : Bool :=
  ((turn.system.pipe? number).any (·.isFed)) || turn.isHeld (.writing number)

/-- Whether someone may read what goes through a pipe. -/
def isHeard (turn : Turn) (number : Nat) : Bool :=
  ((turn.system.pipe? number).any (·.isHeard)) || turn.isHeld (.reading number)

end Turn

namespace Act

/-- Changes the process whose turn it is. -/
def change (update : Process → Process) : Act Unit :=
  modify fun turn => { turn with process := update turn.process }

/-- Changes the system around the process. -/
def changeSystem (update : System → System) : Act Unit :=
  modify fun turn => { turn with system := update turn.system }

/-- The process whose turn it is. -/
def self : Act Process := return (← get).process

/-- What the parameters stand for. -/
def scope : Act Scope := return (← get).process.scope

/-- Changes what the parameters stand for. -/
def changeScope (update : Scope → Scope) : Act Unit :=
  change fun process => { process with scope := update process.scope }

/-- Puts tasks before what is left to do. -/
def push (tasks : List Task) : Act Unit :=
  change fun process => { process with tasks := tasks ++ process.tasks }

/-- Leaves a status. -/
def settle (status : Nat) : Act Unit := changeScope fun scope => { scope with status }

/-- Leaves the status of a truth value. -/
def settleTruth (holds : Bool) : Act Unit := settle (if holds then 0 else 1)

/-- A new number. -/
def newNumber : Act Nat := modifyGet fun turn =>
  (turn.system.next, { turn with system := { turn.system with next := turn.system.next + 1 } })

/-- Makes a pipe. -/
def newPipe (contents : String) : Act Nat := do
  let number ← newNumber
  changeSystem fun system => { system with pipes := (number, { contents }) :: system.pipes }
  return number

/-- Opens a file at a place. -/
def openFile (place : List String) (appends : Bool) : Act Port := do
  let number ← newNumber
  changeSystem fun system => { system with
    handles := (number, { place, appends }) :: system.handles }
  return .file number

/-! ### Ends -/

/-- Ends the process. -/
def stop (ending : Ending) : Act Unit := change (·.stop ending)

/-- The signal that ends a process that nobody listens to. -/
def brokenPipeSignal : Nat := 13


end Act

/-- The signals that nothing follows by themselves. -/
def harmlessSignals : List Nat := [17, 18, 19, 20, 21, 22, 23, 28]

/-- The process after a signal came to it. -/
def Process.receive (process : Process) (signal : Nat) : Process :=
  if process.isOver || signal = 0 then process
  else if signal = 9 then process.stop (.killed 9)
  else if process.ignored.contains signal then process
  else if (process.traps.lookup signal).isSome then
    { process with arrived := process.arrived ++ [signal] }
  else if harmlessSignals.contains signal then process
  else process.stop (.killed signal)

namespace Act

/-- Sends a signal to a process; yields whether there is one. -/
def send (signal number : Nat) : Act Bool := do
  let turn ← get
  if turn.process.number = number then
    change (·.receive signal)
    return true
  else
    match turn.system.process? number with
    | some process =>
      changeSystem (·.setProcess (process.receive signal))
      return true
    | none => return false

/-! ### Reading -/

/-- What there is to read at a port. -/
inductive Intake
  /-- Octets have come; they may be all that ever come. -/
  | came (text : String) (isAll : Bool)
  /-- Nothing has come yet. -/
  | awaited
  | failed (failure : FileError)

/-- The octets of a file from an offset on. -/
def contentsFrom (tree : FileTree) (handle : Handle) : Except FileError String :=
  match tree.at? handle.place with
  | some (.file contents) => .ok (textOf (contents.drop handle.offset))
  | some (.program name) => .ok (((encoded name).drop handle.offset).toString)
  | some .directory => .error .isDirectory
  | none => .ok ""

/-- How many zeros are read at a time. -/
def zeroCount : Nat := 4096

/-- What there is to read at a port; it is left there. -/
def peek (port : Port) : Act Intake := do
  let turn ← get
  match port with
  | .nowhere => return .came "" true
  | .zeros | .full => return .came (String.ofList (List.replicate zeroCount (Char.ofNat 0))) false
  | .reading number =>
    match turn.system.pipe? number with
    | none => return .came "" true
    | some pipe =>
      let isFed := turn.isFed number
      if pipe.contents.isEmpty && isFed then return .awaited
      else return .came pipe.contents (!isFed)
  | .writing _ => return .failed .noEntry
  | .file number =>
    match turn.system.handles.lookup number with
    | none => return .came "" true
    | some handle =>
      match contentsFrom turn.system.tree handle with
      | .ok text => return .came text true
      | .error failure => return .failed failure

/-- Takes away so many octets of what there is to read at a port. -/
def consume (port : Port) (count : Nat) : Act Unit := do
  let turn ← get
  match port with
  | .reading number =>
    match turn.system.pipe? number with
    | none => return
    | some pipe => changeSystem (·.setPipe number (pipe.drop count))
  | .file number =>
    changeSystem fun system => { system with
      handles := system.handles.map fun (kept, handle) =>
        if kept = number then (kept, { handle with offset := handle.offset + count })
        else (kept, handle) }
  | _ => return


/-! ### Writing -/

/-- What became of a text that was written. -/
inductive Delivery
  /-- So many octets were written. -/
  | written (count : Nat)
  /-- There is no room now. -/
  | crowded
  /-- Nobody listens. -/
  | broken
  | failed (cause : String)

/-- The greatest number of octets that go through a pipe together. -/
def undivided : Nat := 4096

/-- The octets of a file after a text was written at an offset. -/
def overwritten (contents : Octets) (offset : Nat) (text : Octets) : Octets :=
  let before := contents.take offset
  before ++ List.replicate (offset - before.length) 0 ++ text ++
    contents.drop (offset + text.length)

/-- Writes a text to a port as far as there is room. -/
def write (port : Port) (text : String) : Act Delivery := do
  let turn ← get
  match port with
  | .nowhere | .zeros => return .written text.length
  | .full => return .failed "No space left on device"
  | .reading _ => return .failed "Bad file descriptor"
  | .writing number =>
    match turn.system.pipe? number with
    | none => return .broken
    | some pipe =>
      if !turn.isHeard number then return .broken
      let room := pipe.room
      if text.length ≤ room then
        changeSystem (·.setPipe number (pipe.put text))
        return .written text.length
      else if room = 0 || text.length ≤ undivided then return .crowded
      else
        changeSystem (·.setPipe number (pipe.put (text.take room).toString))
        return .written room
  | .file number =>
    match turn.system.handles.lookup number with
    | none => return .failed "Bad file descriptor"
    | some handle =>
      match turn.system.tree.at? handle.place with
      | some (.file contents) =>
        let offset := if handle.appends then contents.length else handle.offset
        let octets := octetsOf text
        changeSystem fun system => { system with
          tree := system.tree.put handle.place (.file (overwritten contents offset octets))
          handles := system.handles.map fun (kept, known) =>
            if kept = number then (kept, { known with offset := offset + octets.length })
            else (kept, known) }
        return .written text.length
      | _ => return .written text.length

end Act

end EditorSession.Shell
