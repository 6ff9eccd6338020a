import EditorSession.Shell.Builtin.Basic

/-!
# Commands for the flow of a script

The commands of the shell that decide what runs next: `break`, `continue`, `return`, `exit`, `eval`,
`.`, `exec`, `trap`, `wait` and `kill`.
-/

namespace EditorSession.Shell.Flow

/-! ### Leaving loops and functions -/

/-- Whether a task stands for a loop, whose body and condition come before it. -/
def isLoop : Task → Bool
  | .decide .. | .again .. | .each .. => true
  | _ => false

/-- The process after a task was passed over. -/
def passOver (process : Process) : Task → Process
  | .restore ports =>
    ports.foldl (fun process (descriptor, port) => process.setPort descriptor port) process
  | .unbind bindings =>
    { process with
      scope := bindings.foldl (fun scope (name, known) => scope.setVariable name known)
        process.scope }
  | .endCall frame =>
    let scope := frame.locals.foldl (fun scope (name, known) => scope.setVariable name known)
      process.scope
    { process with
      depth := process.depth - 1
      scope := { scope with
        arguments := frame.arguments
        optionIndex := frame.optionIndex
        optionOffset := frame.optionOffset } }
  | _ => process

/-- The process without the tasks up to one that is sought, and that task and those below it. -/
def unwindTo (isSought : Task → Bool) (process : Process) : List Task → Process × List Task
  | [] => (process, [])
  | task :: rest =>
    if isSought task then (process, task :: rest)
    else unwindTo isSought (passOver process task) rest

/-- The number of loops around the present command, as far as its function reaches. -/
def loopDepth : List Task → Nat
  | [] => 0
  | .endCall _ :: _ => 0
  | task :: rest => (if isLoop task then 1 else 0) + loopDepth rest

/-- The process outside of so many inner loops, before the task of the next one. -/
def leaveLoops (process : Process) : Nat → Process
  | 0 => process
  | count + 1 =>
    let (process, tasks) := unwindTo isLoop process process.tasks
    match count with
    | 0 => { process with tasks }
    | count + 1 => leaveLoops { process with tasks := tasks.drop 1 } (count + 1)

/-- Leaves loops; the last of them goes on or not. -/
def leaveLoop (goesOn : Bool) : Builtin := fun calling => do
  let text := calling.arguments.head?.getD "1"
  match decimal? text with
  | none | some 0 => calling.misuse (Calling.illegalNumber text)
  | some count =>
    Act.settle 0
    let depth := loopDepth (← Act.self).tasks
    if depth ≠ 0 then
      Act.change fun process =>
        let process := leaveLoops process (min count depth)
        if goesOn then process else { process with tasks := process.tasks.drop 1 }

/-- Whether a task ends what a return comes back from. -/
def endsCall : Task → Bool
  | .endCall _ | .endFile => true
  | _ => false

/-- Goes on with the status that an argument gives. -/
def withStatus (calling : Calling) (action : Nat → Act Unit) : Act Unit := do
  match calling.arguments with
  | [] => action (← Act.scope).status
  | text :: _ => calling.withNumber text action

/-- Comes back from a function or from a file; elsewhere the shell ends. -/
def comeBack : Builtin := fun calling => withStatus calling fun status => do
  let process ← Act.self
  let (process, tasks) := unwindTo endsCall process process.tasks
  if tasks.isEmpty then Act.leaveWith status
  else
    Act.change fun _ => { process with tasks }
    Act.settle status

/-- Ends the shell. -/
def exit : Builtin := fun calling => withStatus calling fun status => Act.leaveWith (status % 256)

/-! ### Scripts -/

/-- Whether nothing but white space is in a text. -/
def isBlankText (text : String) : Bool := text.toList.all isSpace

/-- Runs what its arguments spell. -/
def evaluate : Builtin := fun calling => do
  let text := String.intercalate " " calling.arguments
  if isBlankText text then Act.settle 0
  else
    let line := (← Act.scope).line
    Act.push [.interpret { text := text.toList, line }, .named "eval"]

/-- The text of the file that a name without a slash leads to on the search path. -/
def fileOnPath? (turn : Turn) (name : String) : Option String :=
  (candidates ((turn.process.scope.valueOf? "PATH").getD "") name).find? fun path =>
    match turn.system.tree.resolveFrom turn.process.directory (decoded path) with
    | .ok place => match turn.system.tree.at? place with | some (.file _) => true | _ => false
    | .error _ => false

/-- Runs the script in a file. -/
def runFile : Builtin := fun calling => do
  match calling.arguments with
  | [] => calling.misuse "filename argument required"
  | "--" :: name :: _ | name :: _ =>
    let turn ← get
    match if name.toList.contains '/' then some name else fileOnPath? turn name with
    | none => calling.misuse (name ++ ": not found")
    | some path =>
      match ← Act.openPath .read path with
      | .error failure =>
        calling.misuse ("cannot open " ++ path ++ ": " ++
          (if failure.isMissing then "No such file" else failure.cause))
      | .ok port =>
        match ← Act.peek port with
        | .came text _ =>
          Act.settle 0
          Act.push [.interpret { text := text.toList }, .untested, .endFile, .named path]
        | .awaited | .failed _ => Act.settle 0

/-- The wording of a command that cannot be run, and its status. -/
def launchFailure (failure : FileError) : String × Nat :=
  match failure with
  | .noEntry | .notDirectory => ("not found", 127)
  | failure => (fileCause failure, if failure = .nameTooLong then 127 else 126)

/-- The search path of the shell. -/
def searchPath (scope : Scope) : String := (scope.valueOf? "PATH").getD ""

/-- Becomes a program. -/
def replaceShell : Builtin := fun calling => do
  let words := match calling.arguments with | "--" :: rest => rest | words => words
  match words with
  | [] => Act.settle 0
  | name :: _ =>
    let turn ← get
    let scope := turn.process.scope
    match lookUp turn.system.tree turn.process.directory (searchPath scope) name with
    | .ok (_, program) => Act.change fun process => { process with tasks := [.become words program] }
    | .error failure =>
      let (cause, status) := launchFailure failure
      Act.complain calling.name (name ++ ": " ++ cause)
      Act.leaveWith status

/-! ### Signals -/

/-- The names of signals, with their numbers. -/
def signalNames : List (String × Nat) :=
  [("EXIT", 0), ("HUP", 1), ("INT", 2), ("QUIT", 3), ("ILL", 4), ("TRAP", 5), ("ABRT", 6),
    ("BUS", 7), ("FPE", 8), ("KILL", 9), ("USR1", 10), ("SEGV", 11), ("USR2", 12), ("PIPE", 13),
    ("ALRM", 14), ("TERM", 15), ("16", 16), ("CHLD", 17), ("CONT", 18), ("STOP", 19),
    ("TSTP", 20), ("TTIN", 21), ("TTOU", 22), ("URG", 23), ("XCPU", 24), ("XFSZ", 25),
    ("VTALRM", 26), ("PROF", 27), ("WINCH", 28), ("IO", 29), ("PWR", 30), ("SYS", 31)]

/-- The number of a signal that a text names. -/
def signalOf? (text : String) : Option Nat :=
  match decimal? text with
  | some number => if number < 65 then some number else none
  | none => signalNames.lookup text.toUpper

/-- Sets what is done at a signal. -/
def setTrap (action : Option String) (signal : Nat) (process : Process) : Process :=
  let traps := process.traps.filter (·.1 ≠ signal)
  let ignored := process.ignored.filter (· ≠ signal)
  match action with
  | none => { process with traps, ignored }
  | some text =>
    { process with
      traps := (signal, text) :: traps
      ignored := if text.isEmpty && signal ≠ 0 then signal :: ignored else ignored }

/-- Sets what is done at signals. -/
def trap : Builtin := fun calling =>
  calling.withLetters [] fun _ arguments => do
    match arguments with
    | [] => Act.settle 0
    | [signal] =>
      Act.settle 0
      setAll none [signal]
    | action :: signals =>
      Act.settle 0
      setAll (if action = "-" then none else some action) signals
where
  /-- Sets what is done at signals in turn. -/
  setAll (action : Option String) : List String → Act Unit
    | [] => return
    | text :: rest => do
      match signalOf? text with
      | none =>
        Act.say ("trap: " ++ text ++ ": bad trap\n")
        Act.settle 1
      | some signal =>
        Act.change (setTrap action signal)
        setAll action rest

/-- Waits for jobs. -/
def wait : Builtin := fun calling => do
  match calling.arguments with
  | [] => Act.push [.awaitAll]
  | arguments =>
    match arguments.find? fun text => (decimal? text).isNone with
    | some text =>
      Act.complain "wait" (Calling.illegalNumber text)
      Act.settle Calling.misuseStatus
    | none =>
      let numbers := arguments.filterMap decimal?
      let known := (← Act.self).jobs.map Job.process
      Act.settle Act.strangerStatus
      Act.push ((numbers.filter known.contains).map .awaitJob)

/-- What is said of a call that makes no sense. -/
def killUsage : String :=
  "Usage: kill [-s sigspec | -signum | -sigspec] [pid | job]... or\nkill -l [exitstatus]"

/-- Sends a signal to processes. -/
def kill : Builtin := fun calling =>
  match calling.arguments with
  | [] => calling.misuse killUsage
  | "-s" :: name :: targets => withSignal calling name targets
  | "--" :: targets => sendAll calling 15 targets
  | first :: targets =>
    match first.toList with
    | '-' :: name@(_ :: _) =>
      let name := String.ofList name
      match signalOf? name with
      | some signal =>
        if targets.isEmpty then calling.misuse killUsage
        else sendAll calling signal (match targets with | "--" :: rest => rest | rest => rest)
      | none => calling.misuse ("Illegal option -" ++ (name.take 1).toString)
    | _ => sendAll calling 15 (first :: targets)
where
  /-- Sends the signal of a name. -/
  withSignal (calling : Calling) (name : String) (targets : List String) : Act Unit :=
    match signalOf? name with
    | some signal => sendAll calling signal targets
    | none => calling.misuse ("invalid signal number or name: " ++ name)
  /-- Sends a signal to processes in turn. -/
  sendAll (calling : Calling) (signal : Nat) (targets : List String) : Act Unit := do
    if targets.isEmpty then calling.misuse killUsage
    else
      let sent ← targets.mapM fun text => do
        match decimal? text with
        | none =>
          Act.complain calling.name (Calling.illegalNumber text)
          return none
        | some number =>
          let isSent ← Act.send signal number
          if !isSent then Act.complain calling.name "No such process\n"
          return some isSent
      if sent.any Option.isNone then Act.settle Calling.misuseStatus
      else Act.settleTruth (sent.all (· == some true))

end EditorSession.Shell.Flow
