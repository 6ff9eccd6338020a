import EditorSession.Shell.Transfer

/-!
# Commands of the shell itself

What the commands that the shell knows by itself have in common: how they are called, how they
answer, and how they refuse. A mistake in the call of a special one ends the shell.
-/

namespace EditorSession.Shell

/-- How a command of the shell is called. -/
structure Calling where
  name : String
  arguments : List String
  /-- Whether a mistake ends the shell. -/
  isSpecial : Bool

/-- A command of the shell. -/
abbrev Builtin := Calling → Act Unit

namespace Calling

/-- The status of a call that is a mistake. -/
def misuseStatus : Nat := 2

/-- Says that a call is a mistake. -/
def misuse (calling : Calling) (cause : String) : Act Unit := do
  Act.complain calling.name cause
  if calling.isSpecial then Act.leaveWith misuseStatus else Act.settle misuseStatus

/-- Says something and leaves a status. -/
def answer (calling : Calling) (output : String) (status : Nat) : Act Unit :=
  if output.isEmpty then Act.settle status
  else Act.push [.deliver [(1, output)] status calling.name]

/-- The cause of a mistake where a number is missing. -/
def illegalNumber (text : String) : String := "Illegal number: " ++ text

/-- Goes on with the number that an argument is. -/
def withNumber (calling : Calling) (text : String) (action : Nat → Act Unit) : Act Unit :=
  match decimal? text with
  | some number => action number
  | none => calling.misuse (illegalNumber text)

/-- The letters of options in front of other arguments, and these; a letter that is not allowed is
the error. -/
def letters (allowed : List Char) : List String → Except Char (List Char × List String)
  | [] => .ok ([], [])
  | "--" :: rest => .ok ([], rest)
  | argument :: rest =>
    match argument.toList with
    | '-' :: found@(_ :: _) =>
      match found.find? (· ∉ allowed) with
      | some letter => .error letter
      | none => do
        let (more, rest) ← letters allowed rest
        return (found ++ more, rest)
    | _ => .ok ([], argument :: rest)

/-- Goes on with the letters of options and the other arguments. -/
def withLetters (calling : Calling) (allowed : List Char)
    (action : List Char → List String → Act Unit) : Act Unit :=
  match letters allowed calling.arguments with
  | .ok (found, rest) => action found rest
  | .error letter => calling.misuse ("Illegal option -" ++ String.ofList [letter])

end Calling

/-- A text in quotes, as it could stand in a script. -/
def quotedText (text : String) : String :=
  "'" ++ String.join (text.toList.map fun character =>
    if character = '\'' then "'\"'\"'" else String.ofList [character]) ++ "'"

end EditorSession.Shell
