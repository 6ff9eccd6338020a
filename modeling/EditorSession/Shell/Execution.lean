import EditorSession.Shell.Opening
import EditorSession.Shell.Utility.Table

/-!
# Running programs

How a process becomes a program: what the plan of a program leaves for its process to do, and how a
shell begins with its options, its variables and its script.
-/

namespace EditorSession.Shell

/-! ### Shells that begin -/

/-- The options and operands with which a shell is called. -/
structure ShellCall where
  /-- Whether the first operand is a script. -/
  isCommand : Bool := false
  /-- Whether the script comes from the input in any case. -/
  readsInput : Bool := false
  flags : List Char := []
  operands : List String := []

namespace ShellCall

/-- The letters of options, with their names. -/
def optionNames : List (String × Char) :=
  [("errexit", 'e'), ("noglob", 'f'), ("ignoreeof", 'I'), ("interactive", 'i'), ("monitor", 'm'),
    ("noexec", 'n'), ("stdin", 's'), ("xtrace", 'x'), ("verbose", 'v'), ("vi", 'V'),
    ("emacs", 'E'), ("noclobber", 'C'), ("allexport", 'a'), ("notify", 'b'), ("nounset", 'u'),
    ("privileged", 'p')]

/-- Flags with one more that is set or not. -/
def withFlag (isSet : Bool) (letter : Char) (flags : List Char) : List Char :=
  if isSet then letter :: flags.filter (· ≠ letter) else flags.filter (· ≠ letter)

/-- The call after letters behind a sign. -/
def takeLetters (isSet : Bool) (call : ShellCall) : List Char → Except Char ShellCall
  | [] => .ok call
  | 'c' :: rest => takeLetters isSet { call with isCommand := isSet } rest
  | 's' :: rest =>
    takeLetters isSet { call with
      readsInput := isSet, flags := withFlag isSet 's' call.flags } rest
  | 'l' :: rest => takeLetters isSet call rest
  | letter :: rest =>
    if optionNames.any (·.2 = letter) then
      takeLetters isSet { call with flags := withFlag isSet letter call.flags } rest
    else .error letter

/-- The call that arguments are. -/
def ofArguments (call : ShellCall) : List String → Except String ShellCall
  | [] => .ok call
  | "--" :: rest | "-" :: rest => .ok { call with operands := rest }
  | "-o" :: name :: rest | "+o" :: name :: rest => do
    match optionNames.lookup name with
    | some letter =>
      ofArguments { call with flags := withFlag true letter call.flags } rest
    | none => throw ("Illegal option -o " ++ name)
  | argument :: rest =>
    match argument.toList with
    | sign :: letters@(_ :: _) =>
      if sign = '-' ∨ sign = '+' then do
        match takeLetters (sign = '-') call letters with
        | .ok call => ofArguments call rest
        | .error letter => throw ("Illegal option " ++ String.ofList [sign, letter])
      else .ok { call with operands := argument :: rest }
    | _ => .ok { call with operands := argument :: rest }

end ShellCall

/-- A working directory as a path. -/
def pathOfPlace (place : List String) : String :=
  encoded ("/" ++ String.intercalate "/" place)

/-- The variables with which a shell begins. -/
def firstVariables (environment : List (String × String)) (parent : Nat) (working : String) :
    List (String × Variable) :=
  let known (value : String) : Variable := { value := some value }
  let start : Scope := {
    name := ""
    bindings := [("PATH", known defaultPath), ("PS1", known "# "), ("PS2", known "> "),
      ("PS4", known "+ "), ("OPTIND", known "1"), ("IFS", known " \t\n")] }
  let start := environment.foldl (fun scope (name, value) =>
    if isName name then
      scope.setVariable name (some { value := some value, isExported := true })
    else scope) start
  let reset (scope : Scope) (name value : String) : Scope :=
    scope.setVariable name (some { (scope.known? name).getD {} with value := some value })
  let start := reset (reset start "IFS" " \t\n") "OPTIND" "1"
  let start := start.setVariable "PPID" (some (known (toString parent)))
  (start.setVariable "PWD" (some { value := some working, isExported := true })).bindings

/-- What an outcome of a program leaves to do. -/
def Outcome.tasks (outcome : Outcome) (program : String) : List Task :=
  let texts := [(1, outcome.output), (2, outcome.errors)].filter fun (_, text) => !text.isEmpty
  [.deliver texts outcome.status (some program)]

namespace Act

/-! ### Messages -/

/-- Writes a message; what does not fit is lost. -/
def say (text : String) : Act Unit := do
  match (← self).port? 2 with
  | some port => discard (write port text)
  | none => return

/-- Writes what the shell has to say of a command, or of the script. -/
def complain (command : Option String) (cause : String) : Act Unit := do
  let process ← self
  let command := (command <|> process.namedCommand).map (· ++ ": ")
  say (process.scope.name ++ ": " ++ toString process.scope.line ++ ": " ++ command.getD "" ++
    cause ++ "\n")

/-- Leaves the shell with a status. -/
def leaveWith (status : Nat) : Act Unit := do
  change fun process => { process with tasks := [.leave], answers := [] }
  settle status

/-! ### Other processes -/

/-- Starts a process that is like the present one and has other things to do. -/
def fork (tasks : List Task) (update : Process → Process) : Act Nat := do
  let number ← newNumber
  modify fun turn =>
    let self := turn.process
    let child : Process := { self with
      number
      parent := self.number
      tasks
      answers := []
      substituted := none
      arrived := []
      jobs := []
      traps := self.traps.filter fun (_, text) => text.isEmpty
      isTested := self.isAsked }
    { turn with
      process := { self with jobs := self.jobs.filter fun job => !job.isWaitedFor }
      system := { turn.system with processes := turn.system.processes ++ [update child] } }
  return number

/-- Forgets processes that have ended. -/
def forget (numbers : List Nat) : Act Unit := changeSystem fun system =>
  { system with processes := system.processes.filter fun process =>
      !(process.isOver && numbers.contains process.number) }

/-- How processes ended, if all of them have; one that is not known has ended without a word. -/
def endings? (numbers : List Nat) : Act (Option (List Ending)) := do
  let turn ← get
  return numbers.mapM fun number =>
    match turn.system.process? number with
    | some process => process.ended
    | none => some (.exited 0)

/-- Tells of processes that were killed. -/
def tellDeaths (endings : List Ending) : Act Unit :=
  endings.forM fun ending => do
    match ending.notice? with
    | some notice => say (notice ++ "\n")
    | none => return

/-- Notes which jobs have ended, and forgets their processes. -/
def reap : Act Unit := do
  let turn ← get
  let endingOf? (job : Job) : Option Ending := do
    (← turn.system.process? job.process).ended
  change fun process => { process with
    jobs := process.jobs.map fun job => { job with ending := job.ending <|> endingOf? job } }
  forget ((turn.process.jobs.filter fun job => (endingOf? job).isSome).map Job.process)

/-! ### Programs -/

/-- The process as a program that knows nothing of the shell before it. -/
def shed (name : String) (directory : List String) (process : Process) : Process :=
  let bindings : List (String × Variable) := []
  { process with
    scope := { name, bindings }
    directory
    definitions := []
    aliases := []
    traps := []
    arrived := []
    jobs := []
    answers := []
    substituted := none
    isTested := false
    depth := 0
    tasks := [] }

/-- Begins a shell that is called in a way. -/
def beginShell (words : List String) (environment : List (String × String)) : Act Unit := do
  let turn ← get
  let process := turn.process
  let name := words.head?.getD "sh"
  let bindings := firstVariables environment process.parent (pathOfPlace process.directory)
  let start (name : String) (call : ShellCall) (arguments : List String) (task : Task) :
      Act Unit := do
    changeScope fun _ =>
      { name, bindings, arguments, shell := process.number, flags := call.flags }
    push [task, .leave]
  match ShellCall.ofArguments {} words.tail with
  | .error cause =>
    say (name ++ ": 0: " ++ cause ++ "\n")
    settle 2
  | .ok call =>
    match call.isCommand, call.operands with
    | true, [] =>
      say (name ++ ": 0: -c requires an argument\n")
      settle 2
    | true, script :: operands =>
      start (operands.head?.getD name) call (operands.drop 1)
        (.interpret { text := script.toList })
    | false, [] =>
      let call := { call with flags := ShellCall.withFlag true 's' call.flags }
      start name call [] (.interpretInput { text := [] })
    | false, file :: operands =>
      if call.readsInput then start name call (file :: operands) (.interpretInput { text := [] })
      else
        match ← openPath .read file with
        | .error failure =>
          say (name ++ ": 0: cannot open " ++ file ++ ": " ++
            (if failure.isMissing then "No such file" else failure.cause) ++ "\n")
          settle 2
        | .ok port =>
          match ← peek port with
          | .came text _ => start file call operands (.interpret { text := text.toList })
          | .awaited | .failed _ => start file call operands (.interpret { text := [] })

/-- Runs a program in the place of what the process was doing. -/
def execute (words : List String) (program : String) (environment : List (String × String))
    (directory : List String) : Act Unit := do
  let name := words.head?.getD program
  change (shed name directory)
  if program ∈ shellNames then beginShell words environment
  else
    let turn ← get
    let call : Call := { name, arguments := words.tail, tree := turn.system.tree, directory }
    let plan? : Option Plan := (utilities.lookup program).map fun utility => utility call
    match plan? with
    | none => settle 127
    | some (.finish outcome) => push (outcome.tasks name)
    | some (.digest sources limit outcome?) => push [.gather name sources limit [] none outcome?]
    | some (.copy sources) => push [.copy name sources false]
    | some (.rest duration) => push [.sleep (duration.map (turn.system.now + ·))]

end Act

end EditorSession.Shell
