import EditorSession.Backend.Pool
import EditorSession.Handshake
import EditorSession.Shell.Schedule

/-!
# The sandbox

A host of its own: backends are programs of a file tree that the shell runs, a clock goes on only
while the pool waits, and a worker is as far as what its backend has written lets it be. What is
known of a conversation before the backend has said all is what holds however the backend goes on.
-/

namespace EditorSession

open Backend (Child Failure Host Spawning Waiting WorkerEnd)

/-- A process in the sandbox. -/
structure Sandbox.Tenant where
  /-- The number by which the sandbox knows the process. -/
  number : Nat
  /-- The number of the process in its system. -/
  process : Nat
  /-- The pipes to and from the process. -/
  input : Nat
  output : Nat
  /-- The request whose conversation a worker opens. -/
  greeting : Option StartRequest := none
  /-- The conversation that a worker closes. -/
  dismissal : Option Channel := none
  /-- The time at which a worker last began. -/
  begun : Nat := 0
  /-- How much output was there when it last did not tell a worker how to go on. -/
  lacking : Option Nat := none

/-- The sandbox at a time. -/
structure Sandbox where
  system : Shell.System
  /-- The variables that processes inherit. -/
  inherited : List (String × String) := []
  tenants : List Sandbox.Tenant := []

namespace Sandbox

/-- A sandbox over a file tree. -/
def ofTree (tree : FileTree) (inherited : List (String × String)) : Sandbox where
  system := { tree }
  inherited

/-- The time in milliseconds. -/
def now (sandbox : Sandbox) : Nat := sandbox.system.now

/-- The files. -/
def tree (sandbox : Sandbox) : FileTree := sandbox.system.tree

/-- The time that passes in a pause. -/
def tick : Nat := 20

/-- The number by which the client introduces itself. -/
def clientNumber : Nat := 0

/-! ### Tenants -/

namespace Tenant

/-- Whether a tenant may still write. -/
def mayWrite (tenant : Tenant) (system : Shell.System) : Bool :=
  system.isHeld (.writing tenant.output)

/-- What the client can rely on of the output that it has not read. -/
def stream (tenant : Tenant) (system : Shell.System) : Octets :=
  let unread := system.contentsOf tenant.output
  if tenant.mayWrite system then Frame.settled unread else unread

/-- The pipe to the input of a tenant; nothing goes in if nobody reads there. -/
def sink (tenant : Tenant) (system : Shell.System) : Frame.Sink :=
  if system.isHeld (.reading tenant.input) then {} else { room := some 0, refusal := .broken }

/-- Whether a result says that there was nothing more to read. -/
def wantsMore {α : Type} : Except Failure α → Bool
  | .error (.frame (.pipe .closed)) => true
  | _ => false

/-- How an exchange with the tenant ends, if its output tells. -/
def settle? {α : Type} (tenant : Tenant) (system : Shell.System)
    (result : Except Failure α × Channel) : Option (Except Failure α × Channel) :=
  if tenant.mayWrite system && wantsMore result.1 then none else some result

/-- How the opening of a conversation ends, if the output tells. -/
def greeted? (tenant : Tenant) (system : Shell.System) :
    Option (Except Failure Handshake.Answer × Channel) := do
  let request ← tenant.greeting
  tenant.settle? system (Handshake.greet clientNumber request
    { session := request.session, stream := tenant.stream system })

/-- How much the tenant has written that the client has not read. -/
def unread (tenant : Tenant) (system : Shell.System) : Nat :=
  (system.pipe? tenant.output).elim 0 Shell.Pipe.size

/-- Whether nothing was written since the output did not tell how to go on. Until the client reads,
output only grows, so that as much of it tells as little. -/
def isStill (tenant : Tenant) (system : Shell.System) : Bool :=
  tenant.lacking == some (tenant.unread system) && tenant.mayWrite system

/-- The tenant when its output does not tell how to go on. -/
def stilled (tenant : Tenant) (system : Shell.System) : Tenant :=
  { tenant with lacking := some (tenant.unread system) }

/-- What a client writes before it reads anything. -/
def opening (request : StartRequest) : Octets :=
  (Handshake.greet clientNumber request
    { session := request.session, stream := [] }).2.sink.written

end Tenant

/-! ### Programs -/

/-- What the sandbox says of a text with a NUL in it. -/
def nulInData : String := "nul byte found in provided data"

/-- Whether there is a NUL in texts. -/
def holdsNul (texts : List String) : Bool :=
  texts.any fun text => text.toList.contains '\x00'

/-- The directories in which programs are looked for. -/
def searchPath : List String := ["/usr/bin", "/bin"]

/-- The program of a name in the first directory that has it. A name that stands for something else
is passed over and is the failure if there is no program. -/
def searchIn (tree : FileTree) (name : String) (failure : FileError) :
    List String → Except FileError String
  | [] => .error failure
  | directory :: rest =>
    match Shell.programAt tree [] (Shell.encoded (directory ++ "/" ++ name)) with
    | .ok program => .ok program
    | .error .permissionDenied => searchIn tree name .permissionDenied rest
    | .error .nameTooLong => .error .nameTooLong
    | .error _ => searchIn tree name failure rest

/-- The program that a command names. -/
def programOf (tree : FileTree) (directory : List String) (command : String) :
    Except FileError String :=
  if command.isEmpty then .error .noEntry
  else if command.toList.contains '/' then Shell.programAt tree directory (Shell.encoded command)
  else searchIn tree command .noEntry searchPath

/-- The directory that a process works in. -/
def directoryOf (tree : FileTree) : Option String → Except FileError (List String)
  | none => .ok tree.working
  | some path => do
    let place ← tree.resolve path
    match tree.at? place with
    | some .directory => return place
    | some _ => throw .notDirectory
    | none => throw .noEntry

/-- The answer for a program that cannot be started. -/
def refusal : FileError → Spawning
  | .noEntry => .missing FileError.noEntry.message
  | failure => .refused failure.message

/-- The texts that a process is given. -/
def given (launch : LaunchSpecification) : List String :=
  launch.executable :: launch.arguments ++ launch.workingDirectory.toList

/-- The directory and the program of a specification. -/
def locate (tree : FileTree) (launch : LaunchSpecification) :
    Except FileError (List String × String) := do
  let directory ← directoryOf tree launch.workingDirectory
  let program ← programOf tree directory launch.executable
  return (directory, program)

/-! ### The host -/

/-- The tenant of a number. -/
def tenant? (sandbox : Sandbox) (number : Nat) : Option Tenant :=
  sandbox.tenants.find? fun tenant => tenant.number == number

/-- The sandbox with another state of a tenant. -/
def replace (sandbox : Sandbox) (tenant : Tenant) : Sandbox :=
  let tenants := sandbox.tenants.map fun kept =>
    if kept.number = tenant.number then tenant else kept
  { sandbox with tenants }

/-- The sandbox after all processes went on as far as they could. -/
def resume (sandbox : Sandbox) : Sandbox := { sandbox with system := sandbox.system.run }

/-- The sandbox after the client wrote octets to a tenant. -/
def feed (sandbox : Sandbox) (tenant : Tenant) (octets : Octets) : Sandbox :=
  { sandbox with system := sandbox.system.feed tenant.input octets }

/-- The sandbox after the client went away from a tenant. -/
def leaveAlone (sandbox : Sandbox) (tenant : Tenant) : Sandbox :=
  { sandbox with
    system := (sandbox.system.changePipe tenant.input ({ · with isFed := false })).changePipe
      tenant.output ({ · with isHeard := false }) }

/-- The sandbox in which the client reads what a tenant writes as it comes, or does not. -/
def listen (sandbox : Sandbox) (tenant : Tenant) (isReading : Bool) : Sandbox :=
  let capacity := if isReading then Shell.System.wideCapacity else ({} : Shell.Pipe).capacity
  { sandbox with system := sandbox.system.changePipe tenant.output ({ · with capacity }) }

/-- The clock. -/
def clock (sandbox : Sandbox) : Nat × Sandbox := (sandbox.now, sandbox)

/-- The last time that can be told: seconds are counted in 64 bits with sign. -/
def horizon : Nat := Nat.pow 2 63 * 1000 - 1

/-- Starts a process. -/
def spawn (_serial : Nat) (launch : LaunchSpecification) (sandbox : Sandbox) :
    Spawning × Sandbox :=
  if holdsNul (given launch) then (.refused nulInData, sandbox)
  else
    match locate sandbox.tree launch with
    | .error failure => (refusal failure, sandbox)
    | .ok (directory, program) =>
      let environment :=
        match launch.environment with
        | .empty => []
        | .inheritConsole => sandbox.inherited
      let words := (launch.executable :: launch.arguments).map Shell.encoded
      let ((process, input, output), system) :=
        sandbox.system.start directory environment words program
      let number := sandbox.tenants.length + 1
      let tenant : Tenant := { number, process, input, output }
      (.up number, { sandbox with system, tenants := sandbox.tenants ++ [tenant] }.resume)

/-- Starts a worker that opens a conversation. -/
def startGreeting (child : Child) (request : StartRequest) (sandbox : Sandbox) :
    Option String × Sandbox :=
  match sandbox.tenant? child.process with
  | none => (none, sandbox)
  | some tenant =>
    let tenant := { tenant with greeting := some request, begun := sandbox.now, lacking := none }
    let sandbox := (sandbox.replace tenant).listen tenant true
    (none, (sandbox.feed tenant (Tenant.opening request)).resume)

/-- Whether the worker that opens a conversation has ended. -/
def isFinished (child : Child) (sandbox : Sandbox) : Bool × Sandbox :=
  match sandbox.tenant? child.process with
  | none => (true, sandbox)
  | some tenant =>
    if tenant.isStill sandbox.system then (false, sandbox)
    else if (tenant.greeted? sandbox.system).isSome then (tenant.begun < sandbox.now, sandbox)
    else (false, sandbox.replace (tenant.stilled sandbox.system))

/-- How the worker that opens a conversation ended. -/
def join (child : Child) (sandbox : Sandbox) :
    WorkerEnd × List Conversation.Event × Sandbox :=
  match sandbox.tenant? child.process with
  | none => (.broken, [], sandbox)
  | some tenant =>
    match tenant.greeting, tenant.greeted? sandbox.system with
    | some request, some (.ok _, channel) =>
      let taken := (tenant.stream sandbox.system).length - channel.stream.length
      let written := channel.sink.written.drop (Tenant.opening request).length
      let tenant := { tenant with greeting := none }
      let sandbox := { sandbox with system := sandbox.system.take tenant.output taken }
      let sandbox := ((sandbox.replace tenant).feed tenant written).listen tenant false
      (.opened { channel with journal := [] }, channel.journal, sandbox.resume)
    | _, some (.error failure, channel) => (.failed failure, channel.journal, sandbox)
    | _, _ => (.broken, [], sandbox)

/-- Goes on with closing a conversation; yields what was noted if it is closed. -/
def dismiss (sandbox : Sandbox) (tenant : Tenant) (channel : Channel) :
    Option (List Conversation.Event × Sandbox) := do
  let channel := { channel with
    stream := tenant.stream sandbox.system
    sink := tenant.sink sandbox.system
    journal := [] }
  let asked ← tenant.settle? sandbox.system (channel.requestRaw "shutdown" .null)
  let closed := Handshake.dismiss channel
  let written := closed.sink.written.drop asked.2.sink.written.length
  let sandbox := sandbox.replace { tenant with dismissal := none }
  return (closed.journal, ((sandbox.feed tenant written).leaveAlone tenant).resume)

/-- Starts a worker that closes a conversation. -/
def startDismissal (child : Child) (channel : Channel) (sandbox : Sandbox) :
    Option String × List Conversation.Event × Sandbox :=
  match sandbox.tenant? child.process with
  | none => (none, [], sandbox)
  | some tenant =>
    let asked :=
      ({ channel with
        stream := [], sink := tenant.sink sandbox.system, journal := [] }.requestRaw
        "shutdown" .null).2
    let tenant :=
      { tenant with dismissal := some channel, begun := sandbox.now, lacking := none }
    let sandbox := (sandbox.replace tenant).listen tenant true
    let sandbox := (sandbox.feed tenant asked.sink.written).resume
    match sandbox.dismiss tenant channel with
    | some (noted, sandbox) => (none, noted, sandbox)
    | none => (none, asked.journal, sandbox)

/-- What is known of a process that should exit. -/
def tryWait (child : Child) (sandbox : Sandbox) : Waiting × Sandbox :=
  match sandbox.tenant? child.process with
  | none => (.unknown "No child processes (os error 10)", sandbox)
  | some tenant =>
    match sandbox.system.ending? tenant.process with
    | some ending =>
      (if tenant.begun < sandbox.now then .exited ending.code else .alive, sandbox)
    | none => (.alive, sandbox)

/-- The signal that kills. -/
def killSignal : Nat := 9

/-- Kills a process. -/
def kill (child : Child) (sandbox : Sandbox) : Option String × Sandbox :=
  match sandbox.tenant? child.process with
  | none => (none, sandbox)
  | some tenant =>
    let system := sandbox.system.signal tenant.process killSignal
    (none, { sandbox with system }.replace { tenant with greeting := none, dismissal := none })

/-- The sandbox after a tenant whose conversation is closed went on. -/
def wake (sandbox : Sandbox) (tenant : Tenant) : Sandbox :=
  match tenant.dismissal with
  | none => sandbox
  | some channel =>
    if tenant.isStill sandbox.system then sandbox
    else
      match sandbox.dismiss tenant channel with
      | some (_, sandbox) => sandbox
      | none => sandbox.replace (tenant.stilled sandbox.system)

/-- Lets the time of a pause pass. -/
def pause (sandbox : Sandbox) : Sandbox :=
  let system := { sandbox.system with now := sandbox.now + tick }
  sandbox.tenants.foldl wake { sandbox with system }.resume

/-- The sandbox as a host. -/
def host : Host Sandbox where
  clock := clock
  horizon := horizon
  spawn := spawn
  startGreeting := startGreeting
  isFinished := isFinished
  join := join
  startDismissal := startDismissal
  tryWait := tryWait
  kill := kill
  pause := pause

end Sandbox

end EditorSession
