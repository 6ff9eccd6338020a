import EditorSession.Shell.Builtin.Basic

/-!
# Commands that tell and change where the shell is

The commands of the shell that write texts, find out whether something holds, tell what names stand
for, and change the directory and the aliases of the shell: `echo`, `printf`, `test`, `cd`, `pwd`
and `alias`.
-/

namespace EditorSession.Shell.Report

/-! ### Texts -/

/-- Writes its arguments. -/
def echo : Builtin := fun calling =>
  let (endsLine, words) : Bool × List String :=
    match calling.arguments with
    | "-n" :: rest => (false, rest)
    | words => (true, words)
  let (text, goesOn) := Format.unescape (String.intercalate " " words)
  calling.answer (if endsLine && goesOn then text ++ "\n" else text) 0

/-- Writes its arguments in a format. -/
def printf : Builtin := fun calling =>
  calling.withLetters [] fun _ arguments => do
    match arguments with
    | [] => calling.misuse "usage: printf format [arg ...]"
    | format :: values =>
      let progress := Format.apply format values
      progress.errors.forM fun cause => Act.complain calling.name cause
      calling.answer progress.output progress.status

/-! ### Conditions -/

/-- Finds out whether an expression holds. -/
def condition (calling : Calling) (words : List String) : Act Unit := do
  match Condition.holds (← get).facts words with
  | .ok holds => Act.settleTruth holds
  | .error cause => calling.misuse cause

/-- Finds out whether an expression holds. -/
def test : Builtin := fun calling => condition calling calling.arguments

/-- Finds out whether an expression in brackets holds. -/
def bracket : Builtin := fun calling =>
  if calling.arguments.getLast? = some "]" then condition calling calling.arguments.dropLast
  else calling.misuse "missing ]"

/-! ### Directories -/

/-- Tells the working directory. -/
def workingDirectory : Builtin := fun calling =>
  calling.withLetters ['L', 'P'] fun _ _ => do
    calling.answer (pathOfPlace (← Act.self).directory ++ "\n") 0

/-- The directory that a path leads to. -/
def directoryAt? (turn : Turn) (path : String) : Option (List String) :=
  match turn.system.tree.resolveFrom turn.process.directory (decoded path) with
  | .ok place => if turn.system.tree.at? place = some .directory then some place else none
  | .error _ => none

/-- Goes to a directory. -/
def goTo (place : List String) : Act Unit :=
  Act.change fun process =>
    let exported (value : String) : Variable := { value := some value, isExported := true }
    let before := some (exported (pathOfPlace process.directory))
    let scope := process.scope.setVariable "OLDPWD" before
    { process with
      scope := scope.setVariable "PWD" (some (exported (pathOfPlace place)))
      directory := place }

/-- Changes the working directory. -/
def changeDirectory : Builtin := fun calling =>
  calling.withLetters ['L', 'P'] fun _ arguments => do
    let turn ← get
    let scope := turn.process.scope
    let (path, isTold) : String × Bool :=
      match arguments.head? with
      | none => ((scope.valueOf? "HOME").getD "", false)
      | some "-" => ((scope.valueOf? "OLDPWD").getD "", true)
      | some path => (path, false)
    if path.isEmpty then
      if isTold then calling.answer (pathOfPlace turn.process.directory ++ "\n") 0
      else Act.settle 0
    else
      match directoryAt? turn path with
      | none => calling.misuse ("can't cd to " ++ path)
      | some place =>
        goTo place
        calling.answer (if isTold then pathOfPlace place ++ "\n" else "") 0

/-! ### Names -/

/-- Gives names to texts. -/
def aliases : Builtin := fun calling => do
  let known ← calling.arguments.mapM fun argument => do
    match argument.splitOn "=" with
    | name :: value :: rest =>
      let text := String.intercalate "=" (value :: rest)
      Act.change fun process => { process with
        aliases := (name, text) :: process.aliases.filter (·.1 ≠ name) }
      return true
    | _ =>
      Act.say ("alias: " ++ argument ++ " not found\n")
      return false
  Act.settleTruth (known.all id)

/-- The status if a name stands for nothing. -/
def unknownStatus : Nat := 127

/-- Tells what would run for the first argument. -/
def tell (isBuiltin : String → Bool) : Builtin := fun calling => do
  let turn ← get
  let name := calling.arguments.head?.getD ""
  let search := (turn.process.scope.valueOf? "PATH").getD ""
  let isKnown := name ∈ reservedWords || (turn.process.definitions.lookup name).isSome ||
    isBuiltin name
  match turn.process.aliases.lookup name,
    lookUp turn.system.tree turn.process.directory search name with
  | some text, _ => calling.answer ("alias " ++ name ++ "=" ++ quotedText text ++ "\n") 0
  | none, .ok (path, _) => calling.answer ((if isKnown then name else path) ++ "\n") 0
  | none, .error _ =>
    if isKnown then calling.answer (name ++ "\n") 0 else Act.settle unknownStatus

end EditorSession.Shell.Report
