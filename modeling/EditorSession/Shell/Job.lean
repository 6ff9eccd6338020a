import EditorSession.Shell.Plain

/-!
# Jobs

The commands that a shell started in the background, and how they ended. A job whose end was waited
for is forgotten as soon as the shell starts something else.
-/

namespace EditorSession.Shell

/-- How a process ended. -/
inductive Ending
  | exited (status : Nat)
  | killed (signal : Nat)
  deriving DecidableEq, Repr

namespace Ending

/-- The status of a command whose process ended. -/
def status : Ending → Nat
  | exited status => status
  | killed signal => 128 + signal

/-- The status by which the system tells how a process ended. -/
def code : Ending → Nat
  | exited status => status * 256
  | killed signal => signal

/-- The words for the ends that signals make. -/
def noticeOf (signal : Nat) : String :=
  match signal with
  | 1 => "Hangup"
  | 2 => "Interrupt"
  | 3 => "Quit"
  | 4 => "Illegal instruction"
  | 5 => "Trace/breakpoint trap"
  | 6 => "Aborted"
  | 7 => "Bus error"
  | 8 => "Floating point exception"
  | 9 => "Killed"
  | 10 => "User defined signal 1"
  | 11 => "Segmentation fault"
  | 12 => "User defined signal 2"
  | 13 => "Broken pipe"
  | 14 => "Alarm clock"
  | 15 => "Terminated"
  | signal => "Signal " ++ toString signal

/-- What a shell says of a process that was killed while it waited for it. -/
def notice? : Ending → Option String
  | exited _ => none
  | killed signal => if signal ∈ [2, 13] ∨ 15 < signal then none else some (noticeOf signal)

end Ending

/-- A command in the background. -/
structure Job where
  /-- The number of its process. -/
  process : Nat
  /-- How it ended, as far as the shell knows. -/
  ending : Option Ending := none
  /-- Whether the script waited for its end. -/
  isWaitedFor : Bool := false

end EditorSession.Shell
