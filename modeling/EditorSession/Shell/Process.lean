import EditorSession.Shell.Expansion
import EditorSession.Shell.Job
import EditorSession.Shell.Source
import EditorSession.Shell.Utility.Basic

/-!
# Processes

A process of the system: where its descriptors lead, what it knows as a shell, and what is left for
it to do. What is left is a stack of tasks, each of which is done in a small step, so that processes
that wait for one another can take turns.
-/

namespace EditorSession.Shell

/-- What a descriptor leads to. -/
inductive Port
  /-- Nothing is read from here, and what is written is lost. -/
  | nowhere
  /-- Nothing but zeros is read from here, and what is written is lost. -/
  | zeros
  /-- There is no room for what is written here. -/
  | full
  | reading (pipe : Nat)
  | writing (pipe : Nat)
  /-- A file that was opened, by the number of the opening. -/
  | file (handle : Nat)
  deriving DecidableEq, Repr

/-- What a call of a function changes until it ends. -/
structure Frame where
  arguments : List String
  optionIndex : Nat
  optionOffset : Nat
  /-- The variables of the function that were others before. -/
  locals : List (String × Option Variable) := []

/-- What is left for a process to do. -/
inductive Task
  | run (command : Command)
  /-- Runs a command if the last one succeeded, or if it did not. -/
  | runIf (succeeded : Bool) (command : Command)
  /-- Turns the success of the last command into a failure, and the reverse. -/
  | invert
  | choose (accepted : Command) (rejected : Option Command)
  /-- Goes on with a loop after its condition; the status is that of its body so far. -/
  | decide (untilHolds : Bool) (condition body : Command) (status : Nat)
  /-- Goes on with a loop after its body. -/
  | again (untilHolds : Bool) (condition body : Command)
  | expandEach (line : Nat) (name : String) (values : List Word) (body : Command)
  | each (name : String) (values : List String) (body : Command)
  | expandSubject (line : Nat) (subject : Word) (cases : List (List Word × Command))
  /-- Runs the command of the first case that fits a text. -/
  | fitCases (subject : String) (cases : List (List Word × Command))
  /-- Expands the words of a command and leads its descriptors where they should lead. -/
  | prepare (line : Nat) (assignments : List (String × Word)) (words : List Word)
      (redirections : List Redirection)
  /-- Runs a command with descriptors that lead elsewhere. -/
  | enclose (command : Command) (redirections : List Redirection)
  | assign (fields : List String) (assignments : List (String × Word))
  | invoke (fields : List String)
  /-- Gives variables back what they were. -/
  | unbind (bindings : List (String × Option Variable))
  /-- Gives descriptors back what they led to. -/
  | restore (ports : List (Nat × Option Port))
  | endCall (frame : Frame)
  /-- Ends a script that was read in the place of a command. -/
  | endFile
  /-- Messages name a command from here on. -/
  | named (command : String)
  /-- Runs the rest of a script. -/
  | interpret (source : Source)
  /-- Runs a script that is read from the input, some of which has come. -/
  | interpretInput (source : Source)
  /-- Ends the shell if the last command failed and a failure ends it. -/
  | check
  /-- Ends the shell. -/
  | leave
  | settle (status : Nat)
  /-- Nothing below asks how the commands above ended. -/
  | untested
  /-- Waits for processes; the status is that of the last one. -/
  | await (numbers : List Nat)
  /-- Waits for the job of a process. -/
  | awaitJob (process : Nat)
  /-- Waits for all jobs. -/
  | awaitAll
  /-- Reads what a substitution writes. -/
  | collect (pipe child : Nat) (read : String)
  /-- Writes texts to descriptors and leaves a status. -/
  | deliver (texts : List (Nat × String)) (status : Nat) (command : Option String)
  | readLine (command : String) (keepsEscapes : Bool) (names : List String)
  | sleep (wakes : Option Nat)
  /-- Becomes a program. -/
  | become (words : List String) (program : String)
  /-- Reads sources until what was read tells what comes of it. -/
  | gather (program : String) (sources : List String) (limit : Option Nat) (inputs : List Input)
      (reading : Option String) (outcome? : List Input → Bool → Option Outcome)
  | copy (program : String) (sources : List String) (hasFailed : Bool)
  /-- Copies what comes from a port to the output. -/
  | drain (port : Port)

/-- A process. -/
structure Process where
  number : Nat
  parent : Nat
  scope : Scope
  /-- The working directory. -/
  directory : List String
  ports : List (Nat × Port) := []
  /-- The commands that have a name. -/
  definitions : List (String × Command) := []
  aliases : List (String × String) := []
  /-- What is done at signals; the number of no signal stands for the end. -/
  traps : List (Nat × String) := []
  /-- The signals that are ignored. -/
  ignored : List Nat := []
  /-- Whether it is asked how the process ends, so that a failure in it does not end it. -/
  isTested : Bool := false
  tasks : List Task
  /-- The calls of functions that are going on. -/
  depth : Nat := 0
  /-- What the substitutions of the present expansion wrote. -/
  answers : List String := []
  /-- The status of the last substitution. -/
  substituted : Option Nat := none
  /-- Signals that have come and for which something is to be done. -/
  arrived : List Nat := []
  jobs : List Job := []
  ended : Option Ending := none

/-- The ports that a task keeps open. -/
def Task.held : Task → List Port
  | restore ports => ports.filterMap Prod.snd
  | collect pipe _ _ => [.reading pipe]
  | drain port => [port]
  | _ => []

/-- The ports that a process keeps open. -/
def Process.held (process : Process) : List Port :=
  process.ports.map Prod.snd ++ process.tasks.flatMap Task.held

/-- Whether a process has ended. -/
def Process.isOver (process : Process) : Bool := process.ended.isSome

/-- The process after its end. -/
def Process.stop (process : Process) (ending : Ending) : Process :=
  { process with ended := some ending, tasks := [], ports := [], arrived := [] }

/-- What a descriptor leads to. -/
def Process.port? (process : Process) (descriptor : Nat) : Option Port :=
  process.ports.lookup descriptor

/-- The process with a descriptor that leads elsewhere. -/
def Process.setPort (process : Process) (descriptor : Nat) (port : Option Port) : Process :=
  let others := process.ports.filter fun kept => kept.1 ≠ descriptor
  { process with ports := (port.map (descriptor, ·)).toList ++ others }

/-- Whether something below a task asks how the commands above it end. -/
def isAskedIn : List Task → Option Bool
  | [] => none
  | .runIf .. :: _ | .invert :: _ | .choose .. :: _ | .decide .. :: _ => some true
  | .untested :: _ => some false
  | _ :: rest => isAskedIn rest

/-- Whether it is asked how the present command ends. -/
def Process.isAsked (process : Process) : Bool :=
  (isAskedIn process.tasks).getD process.isTested

/-- The command that messages name in general. -/
def Process.namedCommand (process : Process) : Option String :=
  process.tasks.findSome? fun task =>
    match task with
    | .named command => some command
    | _ => none

end EditorSession.Shell
