import EditorSession.Backend.Request
import EditorSession.Channel

/-!
# Hosts

The system that backend processes run on. A pool of backends asks it for processes and workers and
is told what became of them; nothing is assumed of the answers, so a statement about all hosts is a
statement about everything that processes, workers and the clock may do.
-/

namespace EditorSession.Backend

/-- A backend process. The serial number counts the processes of one pool. -/
structure Child where
  serial : Nat
  /-- The number by which the system knows the process. -/
  process : Nat
  deriving DecidableEq, Repr

/-- What the system says when it is asked for a process. -/
inductive Spawning
  | up (process : Nat)
  /-- The process runs and its input or output is no pipe. -/
  | unpiped (process : Nat)
  /-- The executable, or the directory to work in, does not exist. -/
  | missing (cause : String)
  | refused (cause : String)
  deriving DecidableEq, Repr

/-- How a worker that opens a conversation ended. -/
inductive WorkerEnd
  | opened (channel : Channel)
  | failed (failure : Failure)
  /-- The worker broke down. -/
  | broken

/-- What the system says of a process that should exit. -/
inductive Waiting
  | exited (status : Nat)
  | alive
  | unknown (cause : String)
  deriving DecidableEq, Repr

/-- A system over a state. Where an answer is an optional text, it is the cause of a failure. -/
structure Host (ω : Type) where
  /-- The time in milliseconds. -/
  clock : ω → Nat × ω
  /-- The last time that can be told. -/
  horizon : Nat
  /-- Starts the process of a specification; the number is its serial number. -/
  spawn : Nat → LaunchSpecification → ω → Spawning × ω
  /-- Starts a worker that opens the conversation with a process. -/
  startGreeting : Child → StartRequest → ω → Option String × ω
  /-- Whether that worker has ended. -/
  isFinished : Child → ω → Bool × ω
  /-- How it ended, and what it noted. -/
  join : Child → ω → WorkerEnd × List Conversation.Event × ω
  /-- Starts a worker that closes a conversation, and tells what it notes. -/
  startDismissal : Child → Channel → ω → Option String × List Conversation.Event × ω
  tryWait : Child → ω → Waiting × ω
  /-- Kills a process and waits for its end. -/
  kill : Child → ω → Option String × ω
  /-- Lets a little time pass. -/
  pause : ω → ω

/-- The time at which a span is over that begins now, if that time can be told. -/
def Host.deadline {ω : Type} (host : Host ω) (span : Nat) (world : ω) : Option Nat × ω :=
  let (now, world) := host.clock world
  (if now + span ≤ host.horizon then some (now + span) else none, world)

end EditorSession.Backend
