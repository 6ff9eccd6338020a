import EditorSession.Shell.Execution

/-!
# Reading, writing and waiting

The tasks that may have to wait: for something to read, for room to write, for the end of another
process, or for a time. Each step of such a task tells whether it could do anything; one that could
not leaves its task where it was.
-/

namespace EditorSession.Shell.Act

/-- Leaves a task to be done later. -/
def wait (task : Task) : Act Bool := do
  push [task]
  return false

/-- Goes on with tasks. -/
def goOn (tasks : List Task) : Act Bool := do
  push tasks
  return true

/-! ### Writing -/

/-- The process after nobody could read what it wrote. -/
def breakOff (command : Option String) : Act Bool := do
  let process ← self
  if process.ignored.contains brokenPipeSignal then
    match command with
    | some command => complain command (command ++ ": I/O error")
    | none => pure ()
    settle 1
  else change (·.receive brokenPipeSignal)
  return true

/-- Writes texts, and leaves a status when all are written. -/
def deliver (texts : List (Nat × String)) (status : Nat) (command : Option String) : Act Bool := do
  match texts with
  | [] => settle status; return true
  | (descriptor, text) :: rest =>
    if text.isEmpty then goOn [.deliver rest status command]
    else
      match (← self).port? descriptor with
      | none =>
        match command with
        | some command => if descriptor = 1 then complain command (command ++ ": I/O error")
        | none => pure ()
        goOn [.deliver rest (if descriptor = 1 then 1 else status) command]
      | some port =>
        match ← write port text with
        | .written count =>
          if count < text.length then
            goOn [.deliver ((descriptor, (text.drop count).toString) :: rest) status command]
          else goOn [.deliver rest status command]
        | .crowded => wait (.deliver texts status command)
        | .broken => breakOff command
        | .failed _ =>
          match command with
          | some command => if descriptor = 1 then complain command (command ++ ": I/O error")
          | none => pure ()
          goOn [.deliver rest (if descriptor = 1 then 1 else status) command]

/-- Copies what comes from a port to the output. -/
def drain (port : Port) : Act Bool := do
  match ← peek port with
  | .awaited => wait (.drain port)
  | .failed failure =>
    say (complaint "cat" ("-: " ++ fileCause failure))
    settle 1
    return true
  | .came text isAll =>
    if text.isEmpty then return true
    else
      match (← self).port? 1 with
      | none => settle 1; return true
      | some target =>
        match ← write target text with
        | .written count =>
          consume port count
          if isAll && count = text.length then return true else goOn [.drain port]
        | .crowded => wait (.drain port)
        | .broken => breakOff none
        | .failed cause =>
          say (complaint "cat" ("write error: " ++ cause))
          settle 1
          return true

/-- Whether two ports lead to one file that is not empty. -/
def isSameFile (turn : Turn) (source target : Port) : Bool :=
  match source, target with
  | .file source, .file target =>
    match turn.system.handles.lookup source, turn.system.handles.lookup target with
    | some source, some target =>
      source.place == target.place &&
        (match contentsFrom turn.system.tree { source with offset := 0 } with
          | .ok text => !text.isEmpty
          | .error _ => false)
    | _, _ => false
  | _, _ => false

/-- Copies sources one after the other. -/
def copy (program : String) (sources : List String) (hasFailed : Bool) : Act Bool := do
  match sources with
  | [] => settle (if hasFailed then 1 else 0); return true
  | source :: rest =>
    let refuse (cause : String) : Act Bool := do
      say (complaint program (source ++ ": " ++ cause))
      goOn [.copy program rest true]
    let opened : Except String Port ←
      if source = "-" then
        match (← self).port? 0 with
        | some port => pure (.ok port)
        | none => pure (.error "Bad file descriptor")
      else
        match ← openPath .read source with
        | .ok port => pure (.ok port)
        | .error failure => pure (.error failure.cause)
    match opened with
    | .error cause => refuse cause
    | .ok port =>
      match ← peek port with
      | .failed failure => refuse (fileCause failure)
      | _ =>
        let turn ← get
        match turn.process.port? 1 with
        | some target =>
          if isSameFile turn port target then refuse "input file is output file"
          else goOn [.drain port, .copy program rest hasFailed]
        | none => refuse "Bad file descriptor"

/-! ### Reading -/

/-- The sources that a program reads, and what it has read of the first one. -/
structure Gathering where
  program : String
  sources : List String
  limit : Option Nat
  inputs : List Input
  reading : Option String
  outcome? : List Input → Bool → Option Outcome

/-- The task that goes on with reading. -/
def Gathering.task (gathering : Gathering) : Task :=
  .gather gathering.program gathering.sources gathering.limit gathering.inputs gathering.reading
    gathering.outcome?

/-- Gives back to a file what was read of it and not used. -/
def giveBack (port : Port) (count : Nat) : Act Unit := do
  match port with
  | .file number =>
    changeSystem fun system => { system with
      handles := system.handles.map fun (kept, handle) =>
        if kept = number then (kept, { handle with offset := handle.offset - count })
        else (kept, handle) }
  | _ => return

/-- Whether a port is a file. -/
def isFile : Port → Bool
  | .file _ => true
  | _ => false

/-- Ends reading with what comes of it. -/
def conclude (gathering : Gathering) (port : Option Port) (outcome : Outcome) : Act Bool := do
  match port with
  | some port => giveBack port outcome.unread
  | none => pure ()
  goOn (outcome.tasks gathering.program)

/-- Goes on with reading after a source, with what became of it. -/
def afterSource (gathering : Gathering) (port : Option Port) (input : Input) : Act Bool := do
  let inputs := gathering.inputs ++ [input]
  let rest := gathering.sources.drop 1
  if rest.isEmpty then
    match gathering.outcome? inputs true with
    | some outcome => conclude gathering port outcome
    | none => settle 1; return true
  else goOn [{ gathering with inputs, sources := rest, reading := none : Gathering }.task]

/-- Reads from a port as much as has come, up to a limit. -/
def takeFrom (gathering : Gathering) (name : String) (port : Port) : Act Bool := do
  let before := gathering.reading.getD ""
  match ← peek port with
  | .awaited => wait { gathering with reading := some before : Gathering }.task
  | .failed failure => afterSource gathering none { name, contents := .error failure }
  | .came text isAll =>
    let taken :=
      match gathering.limit with
      | some limit => (text.take (limit - before.length)).toString
      | none => text
    consume port taken.length
    let read := before ++ taken
    let isFull := match gathering.limit with | some limit => limit ≤ read.length | none => false
    let input : Input := { name, contents := .ok read, isFile := isFile port }
    if isFull || (isAll && taken.length = text.length) then afterSource gathering (some port) input
    else
      match gathering.outcome? (gathering.inputs ++ [input]) false with
      | some outcome => conclude gathering (some port) outcome
      | none => goOn [{ gathering with reading := some read : Gathering }.task]

/-- Reads sources until what was read tells what comes of it. -/
def gather (gathering : Gathering) : Act Bool := do
  match gathering.sources with
  | [] =>
    match gathering.outcome? gathering.inputs true with
    | some outcome => conclude gathering none outcome
    | none => settle 1; return true
  | source :: _ =>
    let turn ← get
    let own? : Option Nat :=
      if source = "-" then some 0
      else
        match device? turn.process.directory source with
        | some (.descriptor number) => some number
        | _ => none
    match own? with
    | some number =>
      match turn.process.port? number with
      | some port => takeFrom gathering source port
      | none => afterSource gathering none { name := source, contents := .error .noEntry }
    | none =>
      match ← openPath .read source with
      | .ok port => takeFrom gathering source port
      | .error (.file failure) =>
        afterSource gathering none { name := source, contents := .error failure }
      | .error _ => afterSource gathering none { name := source, contents := .error .noEntry }

/-! ### Waiting -/

/-- Waits for processes. -/
def await (numbers : List Nat) : Act Bool := do
  match ← endings? numbers with
  | none => wait (.await numbers)
  | some endings =>
    tellDeaths endings
    forget numbers
    reap
    settle ((endings.getLast?.map Ending.status).getD 0)
    return true

/-- Goes on waiting for jobs, unless a signal came for which something is to be done. -/
def waitOn (task : Task) : Act Bool := do
  match (← self).arrived with
  | signal :: _ => settle (128 + signal); return true
  | [] => wait task

/-- The status of a wait for what is no job. -/
def strangerStatus : Nat := 127

/-- Waits for the job of a process. -/
def awaitJob (number : Nat) : Act Bool := do
  let finish (ending : Ending) : Act Bool := do
    change fun process => { process with
      jobs := process.jobs.map fun job =>
        if job.process = number then { job with isWaitedFor := true } else job }
    settle ending.status
    return true
  match (← self).jobs.find? (·.process = number) with
  | none => settle strangerStatus; return true
  | some { ending := some ending, .. } => finish ending
  | some _ =>
    match ← endings? [number] with
    | some (ending :: _) =>
      tellDeaths [ending]
      reap
      finish ending
    | _ => waitOn (.awaitJob number)

/-- Waits for all jobs. -/
def awaitAll : Act Bool := do
  let running := (← self).jobs.filter fun job => job.ending.isNone
  match ← endings? (running.map Job.process) with
  | none => waitOn .awaitAll
  | some _ =>
    reap
    change fun process => { process with
      jobs := process.jobs.map ({ · with isWaitedFor := true }) }
    settle 0
    return true

/-- A text without the line ends at its end. -/
def withoutLineEnds (text : String) : String :=
  String.ofList (text.toList.reverse.dropWhile (· = '\n')).reverse

/-- Reads what a substitution writes. -/
def collect (pipe child : Nat) (read : String) : Act Bool := do
  match ← peek (.reading pipe) with
  | .awaited | .failed _ => wait (.collect pipe child read)
  | .came text isAll =>
    consume (.reading pipe) text.length
    let read := read ++ text
    if !isAll then goOn [.collect pipe child read]
    else
      match ← endings? [child] with
      | none => wait (.collect pipe child read)
      | some endings =>
        tellDeaths endings
        forget [child]
        reap
        let text := String.ofList (read.toList.filter (·.toNat ≠ 0))
        change fun process => { process with
          answers := process.answers ++ [withoutLineEnds text]
          substituted := endings.head?.map Ending.status }
        return true

/-- Waits for a time. -/
def sleep (wakes : Option Nat) : Act Bool := do
  match wakes with
  | none => wait (.sleep none)
  | some time =>
    if time ≤ (← get).system.now then settle 0; return true
    else wait (.sleep (some time))

end EditorSession.Shell.Act
