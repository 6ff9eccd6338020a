import EditorSession.Shell.Builtin.Table
import EditorSession.Shell.Reader

/-!
# Preparing commands

What is done before a command runs: its words are expanded, which may have to wait for what a
substitution writes, and its descriptors are led where the redirections say.
-/

namespace EditorSession.Shell

/-- Where a redirection leads, with its words expanded. -/
inductive Lead
  | opened (mode : OpenMode) (path : String)
  | document (text : String)
  /-- Where another descriptor leads, or nowhere. -/
  | other (descriptor : Option Nat)

namespace Expander

/-- Where a redirection leads. -/
def expandDirection : Direction → Expander Lead
  | .toFile overProtected file => return .opened (.write overProtected) (← expandWhole file)
  | .atEndOf file => return .opened .append (← expandWhole file)
  | .fromFile file => return .opened .read (← expandWhole file)
  | .throughFile file => return .opened .readWrite (← expandWhole file)
  | .fromText text => return .document (← expandWhole text)
  | .likeOther descriptor => do
    let text ← expandWhole descriptor
    if text = "-" then return .other none
    else
      match decimal? text with
      | some number => return .other (some number)
      | none => fail "Bad fd number"

/-- Where redirections lead their descriptors. -/
def expandRedirections : List Redirection → Expander (List (Nat × Lead))
  | [] => return []
  | redirection :: rest => do
    let lead ← expandDirection redirection.direction
    return (redirection.descriptor, lead) :: (← expandRedirections rest)

/-- Whether a word binds a variable. -/
def isBinding : Word → Bool
  | .literal text false :: _ =>
    let name := text.toList.takeWhile (· ≠ '=')
    name.length < text.length && isName (String.ofList name)
  | _ => false

/-- The fields of the arguments of a command; words that bind variables are not cut if the command
is for variables. -/
def expandArguments (isForVariables : Bool) : List Word → Expander (List String)
  | [] => return []
  | word :: rest => do
    let first ←
      if isForVariables && isBinding word then do pure [← expandWhole word]
      else expandWord word
    return first ++ (← expandArguments isForVariables rest)

/-- The fields of a command. -/
def expandCommand : List Word → Expander (List String)
  | [] => return []
  | word :: rest => do
    let first ← expandWord word
    let rest' := if first = ["command"] then rest.drop 1 else rest
    let next ← if first = ["command"] then expandWords (rest.take 1) else pure []
    let name := if first = ["command"] then next.head? else first.head?
    return first ++ next ++ (← expandArguments (name.any bindsVariables) rest')

end Expander

namespace Act

/-! ### Expansions -/

/-- Starts the command of a substitution; what it writes is collected. -/
def substitute (command : Command) (scope : Scope) : Act Unit := do
  let pipe ← newPipe ""
  let child ← fork [.untested, .run command, .leave] fun process =>
    { process.setPort 1 (some (.writing pipe)) with scope, isTested := false }
  push [.collect pipe child ""]

/-- Goes on with what an expansion yields. If the expansion has to wait for a substitution, the task
is done again after it. -/
def expanding {α : Type} (task : Task) (expander : Expander α) (next : α → Act Unit) :
    Act Unit := do
  let turn ← get
  let process := turn.process
  let start : Expanding := {
    scope := process.scope, tree := turn.system.tree, directory := process.directory
    answers := process.answers }
  match expander start with
  | .ok (value, state) =>
    change fun process => { process with scope := state.scope, answers := [] }
    next value
  | .error (.awaits command scope) =>
    push [task]
    substitute command scope
  | .error (.fails cause) =>
    complain none cause
    leaveWith Calling.misuseStatus

/-! ### Redirections -/

/-- What is said of a file that cannot be opened. -/
def openComplaint (mode : OpenMode) (path : String) (failure : OpenFailure) : String :=
  match mode with
  | .read =>
    "cannot open " ++ path ++ ": " ++ (if failure.isMissing then "No such file" else failure.cause)
  | _ =>
    "cannot create " ++ path ++ ": " ++
      (if failure.isMissing then "Directory nonexistent" else failure.cause)

/-- The port that a redirection leads to; none closes the descriptor. -/
def portOf (lead : Lead) : Act (Except String (Option Port)) := do
  match lead with
  | .opened mode path =>
    match ← openPath mode path with
    | .ok port => return .ok (some port)
    | .error failure => return .error (openComplaint mode path failure)
  | .document text => return .ok (some (.reading (← newPipe text)))
  | .other none => return .ok none
  | .other (some number) =>
    match (← self).port? number with
    | some port => return .ok (some port)
    | none => return .error (toString number ++ ": Bad file descriptor")

/-- Leads descriptors elsewhere; yields where they led before, the last one first, and whether all
could be led. -/
def redirect (saved : List (Nat × Option Port)) :
    List (Nat × Lead) → Act (List (Nat × Option Port) × Bool)
  | [] => return (saved, true)
  | (descriptor, lead) :: rest => do
    match ← portOf lead with
    | .error cause =>
      complain none cause
      return (saved, false)
    | .ok port =>
      let before := (← self).port? descriptor
      change (·.setPort descriptor port)
      redirect ((descriptor, before) :: saved) rest

/-- Gives descriptors back what they led to. -/
def restore (saved : List (Nat × Option Port)) : Act Unit :=
  change fun process => Flow.passOver process (.restore saved)

end Act

end EditorSession.Shell
