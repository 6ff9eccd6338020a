import EditorSession.Shell.Redirecting

/-!
# Steps

A step of a process does the first of its tasks. Commands are taken apart into tasks, so that every
step is small; a step that can only wait changes nothing.
-/

namespace EditorSession.Shell

namespace Act

/-! ### Commands -/

/-- Ends the shell after a failure from here on, if failures end it and nothing asks about them. -/
def checked (tasks : List Task) : Act Unit := do
  let process ← self
  push (if process.scope.hasFlag 'e' && !process.isAsked then tasks ++ [.check] else tasks)

/-- Starts the commands of a pipeline; `input` is what the first of them reads. -/
def startPipeline (input : Option Port) (started : List Nat) : List Command → Act (List Nat)
  | [] => return started
  | command :: rest => do
    let withInput (process : Process) : Process :=
      match input with
      | some port => process.setPort 0 (some port)
      | none => process
    if rest.isEmpty then
      let child ← fork [.run command, .leave] withInput
      return started ++ [child]
    else
      let pipe ← newPipe ""
      let child ← fork [.run command, .leave] fun process =>
        (withInput process).setPort 1 (some (.writing pipe))
      startPipeline (some (.reading pipe)) (started ++ [child]) rest

/-- Begins a command. -/
def run (command : Command) : Act Unit := do
  match command with
  | .skip => return
  | .simple line assignments words redirections =>
    change fun process => { process with substituted := none }
    checked [.prepare line assignments words redirections]
  | .sequence first second => push [.run first, .run second]
  | .conjunction first second => push [.run first, .runIf true second]
  | .disjunction first second => push [.run first, .runIf false second]
  | .negation command => push [.run command, .invert]
  | .pipeline [command] => push [.run command]
  | .pipeline commands =>
    checked [.await (← startPipeline none [] commands)]
  | .background command =>
    let child ← fork [.untested, .run command, .leave] fun process =>
      { process.setPort 0 (some .nowhere) with isTested := false }
    change fun process => { process with
      jobs := process.jobs ++ [{ process := child }]
      scope := { process.scope with lastBackground := some child, status := 0 } }
  | .subshell command =>
    let child ← fork [.run command, .leave] id
    checked [.await [child]]
  | .branch condition accepted rejected => push [.run condition, .choose accepted rejected]
  | .loop untilHolds condition body =>
    push [.run condition, .decide untilHolds condition body 0]
  | .each line name values body => push [.expandEach line name values body]
  | .choice line subject cases => push [.expandSubject line subject cases]
  | .define name body =>
    change fun process => { process with
      definitions := (name, body) :: process.definitions.filter (·.1 ≠ name) }
    settle 0
  | .redirected command redirections => push [.enclose command redirections]

/-- Whether a task does nothing that shows outside of a process that ends after it. -/
def isIdle : Task → Bool
  | .restore _ | .unbind _ | .check | .leave | .untested => true
  | _ => false

/-- Whether a program may take the place of the process: one that was only started for commands, the
last of which the program is. -/
def isDispensable (process : Process) : Bool :=
  process.number ≠ process.scope.shell && process.tasks.all isIdle
    && (process.traps.lookup 0).isNone

/-- Runs a program. -/
def launch (fields : List String) (search : Option String) : Act Unit := do
  let turn ← get
  let process := turn.process
  let name := fields.head?.getD ""
  let search := search.getD (Flow.searchPath process.scope)
  match lookUp turn.system.tree process.directory search name with
  | .error failure =>
    let (cause, status) :=
      if name.isEmpty then ("Permission denied", 127) else Flow.launchFailure failure
    complain none (name ++ ": " ++ cause)
    settle status
  | .ok (_, program) =>
    if isDispensable process then
      change fun process => { process with tasks := [.become fields program] }
    else
      let child ← fork [.become fields program] id
      push [.await [child]]

/-- How many calls of functions may be going on at once. -/
def deepest : Nat := 1000

/-- Calls a function. -/
def call (body : Command) (arguments : List String) : Act Unit := do
  if deepest ≤ (← self).depth then
    complain none ("Maximum function recursion depth (" ++ toString deepest ++ ") reached")
    leaveWith 2
    return
  change fun process => { process with depth := process.depth + 1 }
  let scope ← scope
  let frame : Frame := {
    arguments := scope.arguments, optionIndex := scope.optionIndex
    optionOffset := scope.optionOffset }
  changeScope fun scope => { scope with arguments, optionIndex := 1, optionOffset := 0 }
  push [.run body, .endCall frame]

/-- Runs a command of the shell. -/
def runBuiltin (isSpecial : Bool) (builtin : Builtin) (name : String) (arguments : List String) :
    Act Unit := do
  if name = "exec" && (arguments.isEmpty || arguments = ["--"]) then
    -- The descriptors stay where they were led.
    change fun process => { process with
      tasks :=
        match process.tasks with
        | .restore _ :: rest => rest
        | tasks => tasks }
  builtin { name, arguments, isSpecial }

/-- Runs a command that is no function, without what is special about it. -/
def runPlainly (budget : Nat) (usual : Bool) (fields : List String) : Act Unit := do
  match budget, fields with
  | 0, _ | _, [] => settle 0
  | budget + 1, name :: arguments =>
    if name = "command" then
      match Calling.letters ['p', 'v'] arguments with
      | .error letter => complain name ("Illegal option -" ++ String.ofList [letter]); settle 2
      | .ok (letters, rest) =>
        if letters.contains 'v' then
          Report.tell isBuiltin { name, arguments := rest, isSpecial := false }
        else runPlainly budget (!letters.contains 'p') rest
    else
      match builtins.lookup name with
      | some (_, builtin) => runBuiltin false builtin name arguments
      | none => launch fields (if usual then none else some defaultPath)

/-- Runs a command whose words are known. -/
def invoke (fields : List String) : Act Unit := do
  match fields with
  | [] => settle ((← self).substituted.getD 0)
  | name :: arguments =>
    match builtins.lookup name, (← self).definitions.lookup name with
    | some (true, builtin), _ => runBuiltin true builtin name arguments
    | _, some body => call body arguments
    | some (false, builtin), none => runBuiltin false builtin name arguments
    | none, none => runPlainly (fields.length + 1) true fields

/-- Whether what a command binds stays bound after it. -/
def keepsBindings (fields : List String) : Bool :=
  match fields with
  | [] => true
  | name :: _ => match builtins.lookup name with | some (isSpecial, _) => isSpecial | none => false

/-- The values of assignments; each of them sees those before it. -/
def expandAssignments (isExported : Bool) :
    List (String × Word) → Expander (List (String × String))
  | [] => return []
  | (name, word) :: rest => do
    let value ← Expander.expandWhole word
    Expander.assign name value
    if isExported then
      modify fun state =>
        let known := (state.scope.known? name).getD {}
        { state with
          scope := state.scope.setVariable name (some { known with isExported := true }) }
    return (name, value) :: (← expandAssignments isExported rest)

/-- Shows a command before it runs, if that is asked for. -/
def trace (bindings : List (String × String)) (fields : List String) : Act Unit := do
  let scope ← scope
  if scope.hasFlag 'x' then
    let words := bindings.map (fun (name, value) => name ++ "=" ++ value) ++ fields
    say ((scope.valueOf? "PS4").getD "" ++ String.intercalate " " words ++ "\n")

/-- Binds the variables of a command and runs it. -/
def assign (fields : List String) (assignments : List (String × Word)) : Act Unit := do
  let stays := keepsBindings fields
  let before ← scope
  expanding (.assign fields assignments) (expandAssignments (!stays) assignments) fun bindings => do
    trace bindings fields
    let saved := bindings.map fun (name, _) => (name, before.known? name)
    push (if stays || saved.isEmpty then [.invoke fields] else [.invoke fields, .unbind saved])

/-- Expands the words of a command and leads its descriptors elsewhere. -/
def prepare (line : Nat) (assignments : List (String × Word)) (words : List Word)
    (redirections : List Redirection) : Act Unit := do
  changeScope fun scope => { scope with line }
  let expander : Expander (List String × List (Nat × Lead)) := do
    let fields ← Expander.expandCommand words
    return (fields, ← Expander.expandRedirections redirections)
  expanding (.prepare line assignments words redirections) expander fun (fields, leads) => do
    let (saved, isDone) ← redirect [] leads
    if isDone then
      let tasks := if saved.isEmpty then [] else [.restore saved]
      push (.assign fields assignments :: tasks)
    else
      restore saved
      let isSpecial := match fields.head?.bind fun name => builtins.lookup name with
        | some (isSpecial, _) => isSpecial
        | none => false
      if isSpecial then leaveWith Calling.misuseStatus else settle Calling.misuseStatus

/-- Runs a command with descriptors that lead elsewhere. -/
def enclose (command : Command) (redirections : List Redirection) : Act Unit :=
  expanding (.enclose command redirections) (Expander.expandRedirections redirections)
    fun leads => do
      let (saved, isDone) ← redirect [] leads
      if isDone then push [.run command, .restore saved]
      else
        restore saved
        settle Calling.misuseStatus

/-! ### Loops and choices -/

/-- Goes on with a loop after its condition. -/
def decide (untilHolds : Bool) (condition body : Command) (status : Nat) : Act Unit := do
  let holds := (← scope).status = 0
  if holds != untilHolds then push [.run body, .again untilHolds condition body]
  else settle status

/-- Goes on with the values of a loop. -/
def each (name : String) (values : List String) (body : Command) : Act Unit := do
  match values with
  | [] => return
  | value :: rest =>
    changeScope (·.assign name value)
    push [.run body, .each name rest body]

/-- Runs the command of the first case that fits a text. -/
def fitCases (subject : String) (cases : List (List Word × Command)) : Act Unit :=
  match cases with
  | [] => settle 0
  | ([], _) :: rest => push [.fitCases subject rest]
  | (pattern :: patterns, body) :: rest =>
    expanding (.fitCases subject cases) (Expander.expandPattern pattern) fun pattern => do
      if pattern.fits subject.toList then
        match body with
        | .skip => settle 0
        | body => push [.run body]
      else push [.fitCases subject ((patterns, body) :: rest)]

/-! ### Scripts -/

/-- Says what is wrong with a script, and leaves the shell. -/
def misread (misreading : Misreading) : Act Unit := do
  changeScope fun scope => { scope with line := misreading.line }
  complain none ("Syntax error: " ++ misreading.flaw.message)
  leaveWith Calling.misuseStatus

/-- Runs the next line of a script. -/
def interpret (source : Source) : Act Unit := do
  match Reading.line { source with aliases := (← self).aliases } with
  | .error misreading => misread misreading
  | .ok (none, _) => return
  | .ok (some command, source) => push [.run command, .interpret source]

/-- Whether a flaw may be mended by what follows. -/
def isOpen : Flaw → Bool
  | .unexpected found _ => found = "end of file"
  | .openQuote | .openBackQuote | .openBrace | .openArithmetic => true
  | _ => false

/-- Whether a text asks for a document. -/
def asksDocument : List Char → Bool
  | [] => false
  | '<' :: '<' :: _ => true
  | _ :: rest => asksDocument rest

/-- The next line of a script of which more may come, and what is left. -/
def nextLine? (source : Source) : Option (Except Misreading (Option Command × Source)) :=
  if !source.text.contains '\n' then none
  else
    match Reading.line source with
    | .error misreading => if isOpen misreading.flaw then none else some (.error misreading)
    | .ok (command, rest) =>
      let taken := source.text.take (source.text.length - rest.text.length)
      if taken.getLast? = some '\n' && !(rest.text.isEmpty && asksDocument taken) then
        some (.ok (command, rest))
      else none

/-- Runs the next line of a script that is read from the input. -/
def interpretInput (source : Source) : Act Bool := do
  let process ← self
  match nextLine? { source with aliases := process.aliases } with
  | some (.error misreading) => misread misreading; return true
  | some (.ok (command, rest)) =>
    goOn ((command.toList.map .run) ++ [.interpretInput rest])
  | none =>
    match process.port? 0 with
    | none => goOn [.interpret source]
    | some port =>
      match ← peek port with
      | .awaited => wait (.interpretInput source)
      | .failed _ => goOn [.interpret source]
      | .came text isAll =>
        consume port text.length
        let source := { source with text := source.text ++ text.toList }
        goOn [if isAll then .interpret source else .interpretInput source]

/-- Ends the shell, after what is to be done at its end. -/
def leave : Act Unit := do
  let process ← self
  let status := process.scope.status
  match process.traps.lookup 0 with
  | some text =>
    change (Flow.setTrap none 0)
    push [.interpret { text := text.toList }, .settle status, .leave]
  | none => stop (.exited (status % 256))

/-! ### Tasks -/

/-- Does a task; yields whether anything could be done. -/
def perform (task : Task) : Act Bool := do
  match task with
  | .run command =>
    if !(← scope).hasFlag 'n' then run command
    return true
  | .runIf succeeded command =>
    if ((← scope).status = 0) = succeeded then push [.run command]
    return true
  | .invert => settleTruth ((← scope).status ≠ 0); return true
  | .choose accepted rejected =>
    if (← scope).status = 0 then push [.run accepted]
    else
      match rejected with
      | some command => push [.run command]
      | none => settle 0
    return true
  | .decide untilHolds condition body status => decide untilHolds condition body status; return true
  | .again untilHolds condition body =>
    goOn [.run condition, .decide untilHolds condition body (← scope).status]
  | .expandEach line name values body =>
    changeScope fun scope => { scope with line }
    expanding task (Expander.expandWords values) fun fields => do
      if fields.isEmpty then settle 0 else push [.each name fields body]
    return true
  | .each name values body => each name values body; return true
  | .expandSubject line subject cases =>
    changeScope fun scope => { scope with line }
    expanding task (Expander.expandWhole subject) fun text => push [.fitCases text cases]
    return true
  | .fitCases subject cases => fitCases subject cases; return true
  | .prepare line assignments words redirections =>
    prepare line assignments words redirections; return true
  | .enclose command redirections => enclose command redirections; return true
  | .assign fields assignments => assign fields assignments; return true
  | .invoke fields => invoke fields; return true
  | .unbind _ | .restore _ | .endCall _ =>
    change fun process => Flow.passOver process task
    return true
  | .endFile | .named _ | .untested => return true
  | .interpret source => interpret source; return true
  | .interpretInput source => interpretInput source
  | .check =>
    let status := (← scope).status
    if status ≠ 0 then leaveWith status
    return true
  | .leave => leave; return true
  | .settle status => settle status; return true
  | .await numbers => await numbers
  | .awaitJob number => awaitJob number
  | .awaitAll => awaitAll
  | .collect pipe child read => collect pipe child read
  | .deliver texts status command => deliver texts status command
  | .readLine command keepsEscapes names => Variables.readLine command keepsEscapes names
  | .sleep wakes => sleep wakes
  | .become words program =>
    let process ← self
    execute words program process.scope.environment process.directory
    return true
  | .gather program sources limit inputs reading outcome? =>
    gather { program, sources, limit, inputs, reading, outcome? }
  | .copy program sources hasFailed => copy program sources hasFailed
  | .drain port => drain port

/-- Whether signals that have come wait until a task is done. -/
def defersSignals : Task → Bool
  | .await _ | .collect .. | .awaitJob _ | .awaitAll => true
  | .readLine .. | .deliver .. | .settle _ => true
  | _ => false

/-- Does what is to be done at a signal that has come; yields whether there was one. -/
def attend : Act Bool := do
  let process ← self
  match process.arrived, process.tasks with
  | signal :: arrived, task :: _ =>
    if defersSignals task || !process.answers.isEmpty then return false
    else
      change fun process => { process with arrived }
      match process.traps.lookup signal with
      | some text =>
        goOn [.interpret { text := text.toList }, .settle process.scope.status]
      | none => return true
  | _, _ => return false

/-- A step of a process; yields whether anything could be done. -/
def step : Act Bool := do
  let process ← self
  if process.isOver then return false
  else if ← attend then return true
  else
    match process.tasks with
    | [] => stop (.exited (process.scope.status % 256)); return true
    | task :: rest =>
      change fun process => { process with tasks := rest }
      perform task

end Act

end EditorSession.Shell
