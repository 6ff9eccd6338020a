import EditorSession.Backend.Host
import EditorSession.Keyed
import EditorSession.Session.Transport

/-!
# Pools of backends

The transport that runs a process for each session. A start spawns the process and leaves the
handshake to a worker; a poll settles the handshakes that have ended or whose time is up, and looks
after the processes that were told to exit. Every process that was spawned is in a slot, among those
that retire, or gone: seen to exit or killed.

A deadline that the clock cannot tell makes the call unwind that would set it. The process that the
call had in hand is lost then: it is in no slot, does not retire, and is not killed.
-/

namespace EditorSession.Backend

/-- The backend of a session. -/
inductive Slot
  /-- A worker opens the conversation; its time is up at the deadline. -/
  | handshaking (integration : String) (child : Child) (deadline : Nat)
  | ready (child : Child) (channel : Channel)

namespace Slot

/-- The process in a slot. -/
def child : Slot → Child
  | handshaking _ child _ => child
  | ready child _ => child

/-- Whether the handshake has ended. -/
def isReady : Slot → Bool
  | handshaking .. => false
  | ready .. => true

end Slot

/-- A backend that was told to exit, and the time at which it is killed. -/
structure Retiring where
  session : SessionId
  child : Child
  deadline : Nat
  deriving DecidableEq, Repr

/-- The backends of a transport, on a host in a state. -/
structure Pool (ω : Type) where
  world : ω
  slots : Keyed SessionId Slot := .empty
  retiring : List Retiring := []
  /-- The time that a handshake may take, in milliseconds. -/
  patience : Nat
  /-- The number of processes spawned so far. -/
  spawned : Nat := 0
  /-- The processes that calls had in hand when they unwound. -/
  lost : List Child := []

namespace Pool

variable {ω : Type}

/-- The time that a handshake may take unless something else is said. -/
def defaultPatience : Nat := 30000

/-- The time that a backend has to exit on its own. -/
def grace : Nat := 2000

/-- Whether the backend of a session has ended its handshake. -/
def isConnected (pool : Pool ω) (session : SessionId) : Bool :=
  match pool.slots.get? session with
  | some slot => slot.isReady
  | none => false

/-- The number of backends that have ended their handshake. -/
def connectionCount (pool : Pool ω) : Nat := pool.slots.values.countP Slot.isReady

/-- The number of backends whose handshake goes on. -/
def pendingCount (pool : Pool ω) : Nat := pool.slots.size - pool.connectionCount

/-- The number of backends that were told to exit and are still there. -/
def retiringCount (pool : Pool ω) : Nat := pool.retiring.length

/-- Kills a process. -/
def kill (host : Host ω) (pool : Pool ω) (session : SessionId) (child : Child) :
    Pool ω × List Event :=
  let (cause, world) := host.kill child pool.world
  ({ pool with world }, (cause.map (Event.killFailed session)).toList)

/-- Spawns the process of a specification. -/
def spawn (host : Host ω) (pool : Pool ω) (launch : LaunchSpecification) :
    Except Failure Child × Pool ω × List Event :=
  let asked := Event.spawning launch.integration launch.executable launch.arguments
  let (answer, world) := host.spawn (pool.spawned + 1) launch pool.world
  let pool := { pool with world }
  match answer with
  | .missing cause => (.error (.executableMissing launch.executable cause), pool, [asked])
  | .refused cause => (.error (.notStarted launch.executable cause), pool, [asked])
  | .unpiped process =>
    let child : Child := ⟨pool.spawned + 1, process⟩
    let (_, world) := host.kill child pool.world
    (.error (.notStarted (launch.executable ++ " without piped stdio") "stdio not piped"),
      { pool with world, spawned := pool.spawned + 1 }, [asked])
  | .up process =>
    (.ok ⟨pool.spawned + 1, process⟩, { pool with spawned := pool.spawned + 1 },
      [asked, .spawned launch.integration process])

/-- Spawns a process and a worker for its handshake. -/
def beginHandshake (host : Host ω) (pool : Pool ω) (request : StartRequest) :
    Handled (Except Failure (Child × Nat)) × Pool ω × List Event :=
  match pool.spawn host request.launch with
  | (.error failure, pool, events) => (.returned (.error failure), pool, events)
  | (.ok child, pool, events) =>
    match host.startGreeting child request pool.world with
    | (some cause, world) =>
      let (pool, killing) := { pool with world }.kill host request.session child
      (.returned (.error (.notStarted "handshake thread" cause)), pool, events ++ killing)
    | (none, world) =>
      match host.deadline pool.patience world with
      | (some deadline, world) =>
        (.returned (.ok (child, deadline)), { pool with world }, events)
      | (none, world) => (.unwound, { pool with world, lost := pool.lost ++ [child] }, events)

/-- Starts the backend of a session. A backend that the session already has gives way. -/
def tryStart (host : Host ω) (request : StartRequest) (pool : Pool ω) :
    Handled (Except Error StartOutcome) × Pool ω × List Event :=
  match pool.beginHandshake host request with
  | (.unwound, pool, events) => (.unwound, pool, events)
  | (.returned (.error failure), pool, events) =>
    (.returned (.error (.ofFailure request.launch.integration failure)), pool, events)
  | (.returned (.ok (child, deadline)), pool, events) =>
    let pending := Event.handshakePending request.session request.scope child.process
    let slot := Slot.handshaking request.launch.integration child deadline
    let previous := pool.slots.get? request.session
    let pool := { pool with slots := pool.slots.put request.session slot }
    match previous with
    | none => (.returned (.ok .pending), pool, events ++ [pending])
    | some previous =>
      let (pool, killing) := pool.kill host request.session previous.child
      (.returned (.ok .pending), pool, events ++ [pending] ++ killing)

/-! ### Exits -/

/-- Looks after a backend that was told to exit; yields whether it is gone. -/
def reap (host : Host ω) (now : Nat) (pool : Pool ω) (retiring : Retiring) :
    Bool × Pool ω × List Event :=
  let (answer, world) := host.tryWait retiring.child pool.world
  let pool := { pool with world }
  let overdue (events : List Event) : Bool × Pool ω × List Event :=
    if now < retiring.deadline then (false, pool, events)
    else
      let (pool, killing) := pool.kill host retiring.session retiring.child
      (true, pool, events ++ [.ignoredExit retiring.session] ++ killing)
  match answer with
  | .exited status => (true, pool, [.exited retiring.session status])
  | .alive => overdue []
  | .unknown cause => overdue [.statusUnknown retiring.session cause]

/-- Looks after backends that were told to exit; yields those that are still there. -/
def reapEach (host : Host ω) (now : Nat) :
    List Retiring → Pool ω → List Retiring × Pool ω × List Event
  | [], pool => ([], pool, [])
  | retiring :: rest, pool =>
    let (gone, pool, events) := pool.reap host now retiring
    let (kept, pool, further) := reapEach host now rest pool
    (if gone then kept else retiring :: kept, pool, events ++ further)

/-- Looks after all backends that were told to exit. -/
def reapAll (host : Host ω) (now : Nat) (pool : Pool ω) : Pool ω × List Event :=
  let (kept, pool, events) := reapEach host now pool.retiring pool
  ({ pool with retiring := kept }, events)

/-! ### Settling -/

/-- The sessions, of some slots, whose handshake has ended or is out of time. -/
def dueAmong (host : Host ω) (now : Nat) :
    List (SessionId × Slot) → ω → List SessionId × ω
  | [], world => ([], world)
  | (_, .ready ..) :: rest, world => dueAmong host now rest world
  | (session, .handshaking _ child deadline) :: rest, world =>
    let (finished, world) := host.isFinished child world
    let (due, world) := dueAmong host now rest world
    (if finished || deadline ≤ now then session :: due else due, world)

/-- What came of a handshake: the end of its worker, or that its time is up. -/
def outcome (host : Host ω) (pool : Pool ω) (child : Child) :
    Except Failure Channel × Pool ω × List Event :=
  let (finished, world) := host.isFinished child pool.world
  if finished then
    let (ended, noted, world) := host.join child world
    let result : Except Failure Channel :=
      match ended with
      | .opened channel => .ok channel
      | .failed failure => .error failure
      | .broken => .error .workerLost
    (result, { pool with world }, noted.map .conversation)
  else (.error (.timedOut pool.patience), { pool with world }, [])

/-- Settles the handshake of a session. -/
def settle (host : Host ω) (pool : Pool ω) (session : SessionId) :
    Option Completion × Pool ω × List Event :=
  match pool.slots.get? session with
  | some (.handshaking integration child _) =>
    match { pool with slots := pool.slots.erase session }.outcome host child with
    | (.ok channel, pool, events) =>
      (some ⟨session, .ok ()⟩,
        { pool with slots := pool.slots.put session (.ready child channel) },
        events ++ [.running session child.process])
    | (.error failure, pool, events) =>
      let (pool, killing) := pool.kill host session child
      (some ⟨session, .error (.ofFailure integration failure)⟩, pool,
        events ++ [.handshakeFailed session failure] ++ killing)
  | some (.ready ..) => (none, { pool with slots := pool.slots.erase session }, [])
  | none => (none, pool, [])

/-- Settles the handshakes of sessions in turn. -/
def settleEach (host : Host ω) :
    List SessionId → Pool ω → List Completion × Pool ω × List Event
  | [], pool => ([], pool, [])
  | session :: rest, pool =>
    let (completion, pool, events) := pool.settle host session
    let (completions, pool, further) := settleEach host rest pool
    (completion.toList ++ completions, pool, events ++ further)

/-- Settles the handshakes that have ended or are out of time. -/
def poll (host : Host ω) (pool : Pool ω) : List Completion × Pool ω × List Event :=
  let (now, world) := host.clock pool.world
  let (pool, exits) := { pool with world }.reapAll host now
  let (due, world) := dueAmong host now pool.slots.entries pool.world
  let (completions, pool, events) := settleEach host due { pool with world }
  (completions, pool, exits ++ events)

/-! ### Stopping -/

/-- Stops the backend of a session: one that is ready is told to exit, another one is killed. -/
def tryStop (host : Host ω) (session : SessionId) (pool : Pool ω) :
    Handled Unit × Pool ω × List Event :=
  match pool.slots.get? session with
  | none => (.returned (), pool, [.nothingToStop session])
  | some (.handshaking _ child _) =>
    let (pool, killing) :=
      { pool with slots := pool.slots.erase session }.kill host session child
    (.returned (), pool, .stoppingHandshake session :: killing)
  | some (.ready child channel) =>
    let (cause, noted, world) := host.startDismissal child channel pool.world
    let events := noted.map .conversation ++ (cause.map (Event.shutdownNotSent session)).toList
    let pool := { pool with slots := pool.slots.erase session }
    match host.deadline grace world with
    | (some deadline, world) =>
      (.returned (), { pool with world, retiring := pool.retiring ++ [⟨session, child, deadline⟩] },
        events)
    | (none, world) => (.unwound, { pool with world, lost := pool.lost ++ [child] }, events)

/-- Kills the processes in slots. -/
def killEach (host : Host ω) : List (SessionId × Slot) → Pool ω → Pool ω × List Event
  | [], pool => (pool, [])
  | (session, slot) :: rest, pool =>
    let (pool, killing) := pool.kill host session slot.child
    let (pool, further) := killEach host rest pool
    (pool, killing ++ further)

/-- Waits for a backend that was told to exit, looking so many times at most. -/
def finish (host : Host ω) (retiring : Retiring) :
    (looks : Nat) → Pool ω → Option (Pool ω × List Event)
  | 0, _ => none
  | looks + 1, pool =>
    let (now, world) := host.clock pool.world
    match { pool with world }.reap host now retiring with
    | (true, pool, events) => some (pool, events)
    | (false, pool, events) =>
      (finish host retiring looks { pool with world := host.pause pool.world }).map
        fun (pool, further) => (pool, events ++ further)

/-- Waits for backends that were told to exit. -/
def finishEach (host : Host ω) (looks : Nat) :
    List Retiring → Pool ω → Option (Pool ω × List Event)
  | [], pool => some (pool, [])
  | retiring :: rest, pool => do
    let (pool, events) ← pool.finish host retiring looks
    let (pool, further) ← finishEach host looks rest pool
    return (pool, events ++ further)

/-- Gives up all backends: those in slots are killed, and those that were told to exit are waited
for, with so many looks at each. Nothing is left; there is no answer if the looks do not suffice. -/
def close (host : Host ω) (looks : Nat) (pool : Pool ω) : Option (Pool ω × List Event) := do
  let slots := pool.slots.entries
  let (pool, killing) := killEach host slots { pool with slots := .empty }
  let retiring := pool.retiring
  let (pool, events) ← finishEach host looks retiring { pool with retiring := [] }
  return (pool, killing ++ events)

/-! ### The transport -/

/-- The transport of a pool. -/
def unwinding (host : Host ω) : UnwindingTransport (Pool ω) where
  start := tryStart host
  poll pool :=
    let (completions, pool, events) := pool.poll host
    (.returned completions, pool, events)
  stop := tryStop host

/-- The transport of a pool for a caller that is not told which calls unwind. -/
def transport (host : Host ω) : Transport (Pool ω) := (unwinding host).quiet

/-- Starts the backend of a session, for such a caller. -/
def start (host : Host ω) (request : StartRequest) (pool : Pool ω) :
    Except Error StartOutcome × Pool ω × List Event :=
  (transport host).start request pool

/-- Stops the backend of a session, for such a caller. -/
def stop (host : Host ω) (session : SessionId) (pool : Pool ω) : Pool ω × List Event :=
  (transport host).stop session pool

/-- The pool after a little time. -/
def pause (host : Host ω) (pool : Pool ω) : Pool ω :=
  { pool with world := host.pause pool.world }

end Pool

end EditorSession.Backend
