import EditorSession.Shell.Format
import EditorSession.Shell.Utility.Basic

/-!
# Programs that read nothing

Of these programs `echo` and `printf` say what they are told, `true` and `false` only end, and
`sleep` waits.
-/

namespace EditorSession.Shell.Plainly

/-- Says what it is told. -/
def echo : Utility := fun call =>
  match call.arguments with
  | "-n" :: words => .finish { output := String.intercalate " " words }
  | words => .finish { output := String.intercalate " " words ++ "\n" }

/-- Says what it is told in a format. -/
def format : Utility := fun call =>
  match call.arguments with
  | [] | ["--"] => call.misuse "missing operand" 1
  | "--" :: shape :: arguments | shape :: arguments =>
    let progress := Format.apply shape arguments
    let errors := String.join (progress.errors.map fun cause => complaint call.name cause)
    .finish { output := progress.output, errors, status := progress.status }

/-- Ends with a status. -/
def settled (status : Nat) : Utility := fun _ => .finish { status }

/-! ### Times -/

/-- What a suffix multiplies a number of seconds by. -/
def suffixFactor? (suffix : List Char) : Option Nat :=
  match suffix with
  | [] | ['s'] => some 1
  | ['m'] => some 60
  | ['h'] => some 3600
  | ['d'] => some 86400
  | _ => none

/-- The milliseconds that a text gives; forever is none. -/
def duration? (text : String) : Option (Option Nat) :=
  if text.toLower = "infinity" ∨ text.toLower = "inf" then some none
  else
    let whole := text.toList.takeWhile isDigit
    let rest := text.toList.drop whole.length
    let (places, suffix) : List Char × List Char :=
      match rest with
      | '.' :: rest => (rest.takeWhile isDigit, rest.dropWhile isDigit)
      | rest => ([], rest)
    match suffixFactor? suffix with
    | some factor =>
      if whole.isEmpty && places.isEmpty then none
      else
        let scale := Nat.pow 10 places.length
        let exact := decimalValue (whole ++ places) * factor * 1000
        some (some ((exact + scale - 1) / scale))
    | none => none

/-- Waits. -/
def rest : Utility := withOptions {} 1 fun call options =>
  let wrong := options.operands.filter fun text => (duration? text).isNone
  if options.operands.isEmpty then call.misuse "missing operand" 1
  else if !wrong.isEmpty then
    .finish {
      errors := String.join (wrong.map fun text =>
        complaint call.name ("invalid time interval " ++ inQuotes text)) ++
        "Try '" ++ call.name ++ " --help' for more information.\n"
      status := 1 }
  else
    let durations := options.operands.filterMap duration?
    .rest <|
      if durations.any Option.isNone then none
      else some ((durations.filterMap id).foldl (· + ·) 0)

end EditorSession.Shell.Plainly
