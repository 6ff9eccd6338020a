import EditorSession.Shell.Utility.Basic

/-!
# Blocks

The program that copies blocks of octets, `dd`, which reads no more than it is asked for.
-/

namespace EditorSession.Shell.Blocks

/-- What is asked of the program. -/
structure Request where
  source : String := "-"
  size : Nat := 512
  count : Option Nat := none
  skipped : Nat := 0
  /-- Whether octets rather than blocks are counted. -/
  countsOctets : Bool := false
  isQuiet : Bool := false

/-- The number that a text gives. -/
def number? (text : String) : Option Nat :=
  let digits := text.toList.takeWhile isDigit
  let factor? : Option Nat :=
    match String.ofList (text.toList.drop digits.length) with
    | "" | "c" => some 1
    | "w" => some 2
    | "b" => some 512
    | "K" | "k" => some 1024
    | "kB" => some 1000
    | "M" => some 1048576
    | "B" => some 1
    | _ => none
  if digits.isEmpty then none else factor?.map (decimalValue digits * ·)

/-- A request with one more operand. -/
def take (request : Request) (operand : String) : Except (String × Bool) Request :=
  match operand.splitOn "=" with
  | key :: first :: others =>
    let value := String.intercalate "=" (first :: others)
    let counted (change : Nat → Request) : Except (String × Bool) Request :=
      match number? value with
      | some number => .ok (change number)
      | none => .error ("invalid number: " ++ inQuotes value, false)
    match key with
    | "if" => .ok { request with source := value }
    | "bs" | "ibs" =>
      if number? value = some 0 then .error ("invalid number: " ++ inQuotes value, false)
      else counted fun size => { request with size }
    | "count" => counted fun count => { request with
        count := some count
        countsOctets := request.countsOctets || value.endsWith "B" }
    | "skip" => counted fun skipped => { request with skipped }
    | "status" => .ok { request with isQuiet := value = "none" || value = "noxfer" }
    | _ => .error ("unrecognized operand " ++ inQuotes operand, true)
  | _ => .error ("unrecognized operand " ++ inQuotes operand, true)

/-- The request of operands. -/
def requestOf (operands : List String) : Except (String × Bool) Request :=
  operands.foldlM take {}

/-- What the program says of its work. -/
def account (request : Request) (length : Nat) : String :=
  let counts := toString (length / request.size) ++ "+" ++
    (if length % request.size = 0 then "0" else "1")
  counts ++ " records in\n" ++ counts ++ " records out\n"

/-- Copies blocks. -/
def copy : Utility := fun call =>
  match requestOf call.arguments with
  | .error (cause, isMisuse) => if isMisuse then call.misuse cause 1 else call.refuse cause 1
  | .ok request =>
    let skipped := request.skipped * request.size
    let most := request.count.map fun count =>
      if request.countsOctets then count else count * request.size
    .digest [request.source] (most.map (· + skipped)) fun inputs isAll =>
      match inputs with
      | [{ contents := .ok text, .. }] =>
        let isComplete := isAll || (match most with
          | some most => decide (skipped + most ≤ text.length)
          | none => false)
        let isOneBlock := request.count == some 1 && request.skipped == 0 && !text.isEmpty
        if isComplete || isOneBlock then
          let kept := (text.drop skipped).toString
          let kept := match most with | some most => (kept.take most).toString | none => kept
          some {
            output := kept
            errors := if request.isQuiet then "" else account request kept.length }
        else none
      | [{ contents := .error failure, .. }] =>
        some {
          errors := complaint call.name
            ("failed to open " ++ inQuotes request.source ++ ": " ++ fileCause failure)
          status := 1 }
      | _ => if isAll then some {} else none

end EditorSession.Shell.Blocks
