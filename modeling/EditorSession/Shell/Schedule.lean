import EditorSession.Shell.Step

/-!
# Taking turns

How the processes of a system go on: each in turn makes some steps, until none of them can do
anything or so many steps were made that they would hardly come to an end. Someone outside of the
system starts processes, writes what they read and reads what they write, and lets time pass.
-/

namespace EditorSession.Shell

/-! ### Running -/

/-- The steps that a process makes in its turn at most. -/
def turnLength : Nat := 500

/-- Makes steps of a turn as long as something can be done; yields whether anything could be done,
and how many steps are left. -/
def Turn.go (hasDone : Bool) (turn : Turn) : Nat → Turn × Bool × Nat
  | 0 => (turn, hasDone, 0)
  | count + 1 =>
    let (canGoOn, turn) := Act.step turn
    if canGoOn then Turn.go true turn count else (turn, hasDone, count)

namespace System

/-- How many processes are looked through as fast as one. -/
def smallCrowd : Nat := 64

/-- What a number of steps counts; in a crowd of processes each step takes longer. -/
def costOf (system : System) (steps : Nat) : Nat :=
  steps * (1 + system.processes.length / smallCrowd)

/-- Gives processes their turns until none of so many in a row could do anything. -/
def goOn (system : System) (idle : Nat) : Nat → System
  | 0 => system
  | budget + 1 =>
    match system.processes with
    | [] => system
    | process :: others =>
      if system.processes.length ≤ idle then system
      else
        let system := { system with processes := others }
        if process.isOver then
          { system with processes := others ++ [process] }.goOn (idle + 1) budget
        else
          let most := min turnLength (budget + 1)
          let (turn, hasDone, left) := Turn.go false { system, process } most
          let processes := turn.system.processes ++ [turn.process]
          let cost := turn.system.costOf (most - left)
          let spent := turn.system.spent + cost
          { turn.system with processes, spent }.tidy.goOn (if hasDone then 0 else idle + 1)
            (budget - cost)
  termination_by budget => budget

/-- The steps that are made at a time at most. -/
def stepsAtOnce : Nat := 400000

/-- The steps that are made at all; processes that need more would hardly come to an end. -/
def stepsInAll : Nat := 2000000

/-- The system after all processes went on as far as they could. -/
def run (system : System) : System := system.goOn 0 (min stepsAtOnce (stepsInAll - system.spent))

/-! ### From outside -/

/-- How much someone outside of the system leaves in a pipe before its writer has to wait. -/
def wideCapacity : Nat := 1048576

/-- The system after the start of a program in a directory, whose input and output are pipes to
someone outside; with the number of its process and those of the pipes. -/
def start (system : System) (directory : List String) (environment : List (String × String))
    (words : List String) (program : String) : (Nat × Nat × Nat) × System :=
  let number := system.next
  let input := number + 1
  let output := number + 2
  let process : Process := {
    number, parent := 1, scope := { name := "" }, directory
    ports := [(0, .reading input), (1, .writing output), (2, .nowhere)]
    tasks := [] }
  let system := { system with
    next := number + 3
    pipes := (input, { isFed := true, capacity := wideCapacity }) ::
      (output, { isHeard := true }) :: system.pipes }
  let turn := (Act.execute words program environment directory { system, process }).2
  ((number, input, output),
    { turn.system with processes := turn.system.processes ++ [turn.process] })

/-- The system with another state of a pipe, if there is such a pipe. -/
def changePipe (system : System) (number : Nat) (update : Pipe → Pipe) : System :=
  match system.pipe? number with
  | some pipe => system.setPipe number (update pipe)
  | none => system

/-- The system after someone outside wrote to a pipe. -/
def feed (system : System) (number : Nat) (octets : Octets) : System :=
  system.changePipe number (·.put (textOf octets))

/-- What someone outside can read from a pipe. -/
def contentsOf (system : System) (number : Nat) : Octets :=
  match system.pipe? number with
  | some pipe => octetsOf pipe.contents
  | none => []

/-- The system after someone outside read octets from a pipe. -/
def take (system : System) (number count : Nat) : System :=
  system.changePipe number (·.drop count)

/-- The system after a signal came to a process. -/
def signal (system : System) (number signal : Nat) : System :=
  match system.process? number with
  | some process => system.setProcess (process.receive signal)
  | none => system

/-- How a process ended, if it has. -/
def ending? (system : System) (number : Nat) : Option Ending :=
  (system.process? number).bind Process.ended

end System

end EditorSession.Shell
