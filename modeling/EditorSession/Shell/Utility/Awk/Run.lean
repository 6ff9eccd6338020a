import EditorSession.Shell.Utility.Awk.Machine
import EditorSession.Shell.Utility.Awk.Reader
import EditorSession.Shell.Utility.Basic

/-!
# Running programs on records

The program `awk`: the rules for the beginning, then for each record of the input the rules that it
fits, then the rules for the end. The program is run anew on what has come of its input, and what it
leaves behind is known when it ends without asking for more.
-/

namespace EditorSession.Shell.Awk

open Decimal (Binary64)

namespace Running

/-- The functions that need no expressions but the values of their arguments. -/
def plainFunction (name : String) (values : List Value) : Running (Option Value) := do
  let texts ← values.mapM asText
  let text := (texts.head?).getD ""
  let number : Binary64 := ((values.head?).getD .unset).toNumber
  match name, values with
  | "substr", subject :: start :: rest =>
    let characters := (← asText subject).toList
    let nearest (value : Value) : Int :=
      match ((value.toNumber.add (.ofScaled false 5 (-1))).truncated?) with
      | some whole => whole
      | none => if value.toNumber.isNegative then 0 else characters.length + 1
    let first := nearest start
    let behind :=
      match rest with
      | count :: _ => first + nearest count
      | [] => characters.length + 1
    let from' := (max first 1 - 1).toNat
    return some (.text (String.ofList
      ((characters.drop from').take ((behind - 1).toNat - from'))))
  | "index", subject :: part :: _ =>
    let part := (← asText part).toList
    let rec place (offset : Nat) : List Char → Nat
      | [] => if part.isEmpty then offset else 0
      | first :: rest =>
        if part.isPrefixOf (first :: rest) then offset else place (offset + 1) rest
    return some (.ofNat (place 1 (← asText subject).toList))
  | "toupper", _ => return some (.text text.toUpper)
  | "tolower", _ => return some (.text text.toLower)
  | "int", _ =>
    return some (.number (match number.truncated? with
      | some value => .ofInteger value
      | none => number))
  | "sprintf", format :: values =>
    let format ← asText format
    match formatted (format.length + 1) (← textOf "CONVFMT") format.toList values with
    | some text => return some (.text text)
    | none => fail ("not enough arguments passed to sprintf(\"" ++ format ++ "\")")
  | _, _ => return none

mutual

/-- The value of an expression. -/
def evaluate (budget : Nat) (expression : Expression) : Running Value := do
  match budget with
  | 0 => throw .starved
  | budget + 1 =>
    match expression with
    | .number number => return .number number
    | .text text => return .text text
    | .regex source => return .ofBool (fitsIn source (← get).record)
    | .variable _ | .field _ => load (← locate budget expression)
    | .group inner => evaluate budget inner
    | .assign target operator value =>
      let place ← locate budget target
      let value ← evaluate budget value
      let value ←
        match operator with
        | some operator =>
          pure (Value.number (operator.apply (← load place).toNumber value.toNumber))
        | none => pure value
      store place value
      return value
    | .choose condition accepted rejected =>
      if (← evaluate budget condition).holds then evaluate budget accepted
      else evaluate budget rejected
    | .either first second =>
      if (← evaluate budget first).holds then return .ofBool true
      else return .ofBool (← evaluate budget second).holds
    | .both first second =>
      if (← evaluate budget first).holds then return .ofBool (← evaluate budget second).holds
      else return .ofBool false
    | .negation operand => return .ofBool (!(← evaluate budget operand).holds)
    | .negative operand =>
      return .number (Arithmetic.apply .minus (.zero false) (← evaluate budget operand).toNumber)
    | .identity operand => return .number (← evaluate budget operand).toNumber
    | .compute operator left right =>
      let left := (← evaluate budget left).toNumber
      return .number (operator.apply left (← evaluate budget right).toNumber)
    | .compare comparison left right =>
      let left ← evaluate budget left
      let right ← evaluate budget right
      return .ofBool ((left.compare? (← textOf "CONVFMT") right).any comparison.accepts)
    | .join first second =>
      let first ← asText (← evaluate budget first)
      return .text (first ++ (← asText (← evaluate budget second)))
    | .fits isNegated subject pattern =>
      let text ← asText (← evaluate budget subject)
      return .ofBool (fitsIn (← patternOf budget pattern) text != isNegated)
    | .step target isUp isBefore =>
      let place ← locate budget target
      let before := (← load place).toNumber
      let after := Arithmetic.apply (if isUp then .plus else .minus) before (.ofNat 1)
      store place (.number after)
      return .number (if isBefore then after else before)
    | .call name arguments => call budget name arguments

/-- The place that an expression names. -/
def locate (budget : Nat) (expression : Expression) : Running Place := do
  match budget with
  | 0 => throw .starved
  | budget + 1 =>
    match expression with
    | .variable name => return .variable name
    | .field index => return .field (← evaluate budget index).toInteger
    | .group inner => locate budget inner
    | _ => fail "assignment to what is no variable"

/-- The values of expressions, in order. -/
def evaluateAll (budget : Nat) (expressions : List Expression) : Running (List Value) := do
  match budget, expressions with
  | _, [] => return []
  | 0, _ => throw .starved
  | budget + 1, first :: rest =>
    let value ← evaluate budget first
    return value :: (← evaluateAll budget rest)

/-- The source of the regular expression that an expression stands for. -/
def patternOf (budget : Nat) (expression : Expression) : Running String := do
  match budget with
  | 0 => throw .starved
  | budget + 1 =>
    match expression with
    | .regex source => return source
    | .group inner => patternOf budget inner
    | expression => asText (← evaluate budget expression)

/-- Calls a function. -/
def call (budget : Nat) (name : String) (arguments : List Expression) : Running Value := do
  match budget with
  | 0 => throw .starved
  | budget + 1 =>
    match name, arguments with
    | "length", [] => return .ofNat (← get).record.length
    | "length", [subject] => return .ofNat (← asText (← evaluate budget subject)).length
    | name, arguments =>
      match ← plainFunction name (← evaluateAll budget arguments) with
      | some value => return value
      | none => fail ("function " ++ name ++ " never defined")

/-- Runs a statement. -/
def perform (budget : Nat) (statement : Statement) : Running Unit := do
  match budget with
  | 0 => throw .starved
  | budget + 1 =>
    match statement with
    | .evaluate expression => discard (evaluate budget expression)
    | .print values =>
      let text ←
        match values with
        | [] => pure (← get).record
        | values =>
          let shown ← textOf "OFMT"
          let texts := (← evaluateAll budget values).map (Value.toText shown)
          pure (String.intercalate (← textOf "OFS") texts)
      write (text ++ (← textOf "ORS"))
    | .format values =>
      match ← evaluateAll budget values with
      | [] => fail "no format"
      | format :: values =>
        let format ← asText format
        match formatted (format.length + 1) (← textOf "CONVFMT") format.toList values with
        | some text => write text
        | none => fail ("not enough arguments passed to printf(\"" ++ format ++ "\")")
    | .branch condition accepted rejected =>
      if (← evaluate budget condition).holds then perform budget accepted
      else
        match rejected with
        | some rejected => perform budget rejected
        | none => return
    | .loop condition body => repeatWhile budget (some condition) body none
    | .count start condition step body =>
      match start with
      | some start => perform budget start
      | none => pure ()
      repeatWhile budget condition body step
    | .block statements => performAll budget statements
    | .next => throw .next
    | .exit status =>
      match status with
      | some status =>
        let status := (← evaluate budget status).toInteger
        modify fun machine => { machine with status := (status % 256).toNat }
      | none => pure ()
      throw .exit

/-- Runs statements in order. -/
def performAll (budget : Nat) (statements : List Statement) : Running Unit := do
  match budget, statements with
  | _, [] => return
  | 0, _ => throw .starved
  | budget + 1, first :: rest =>
    perform budget first
    performAll budget rest

/-- Runs a statement as long as a condition holds, with a step behind each time. -/
def repeatWhile (budget : Nat) (condition : Option Expression) (body : Statement)
    (step : Option Statement) : Running Unit := do
  match budget with
  | 0 => throw .starved
  | budget + 1 =>
    let holds ←
      match condition with
      | some condition => pure (← evaluate budget condition).holds
      | none => pure true
    if !holds then return
    perform budget body
    match step with
    | some step => perform budget step
    | none => pure ()
    repeatWhile budget condition body step

end

/-! ### Rules -/

/-- The number of steps that nest or repeat in one action. -/
def limitOfAction : Nat := 400000

/-- Whether the record is one of those of a rule. -/
def selects (rule : Rule) : Running Bool := do
  match rule.pattern with
  | .start | .finish => return false
  | .always => return true
  | .holds condition => return (← evaluate limitOfAction condition).holds

/-- Does what a rule says. -/
def act (rule : Rule) : Running Unit := do
  match rule.action with
  | some action => perform limitOfAction action
  | none => perform limitOfAction (.print [])

/-- Does what the rules say for the record. -/
def actAll (rules : List Rule) : Running Unit := do
  for rule in rules do
    if ← selects rule then act rule

/-- Does what the rules say for each record that is left. -/
def forRecords (budget : Nat) (rules : List Rule) : Running Unit := do
  match budget with
  | 0 => throw .starved
  | budget + 1 =>
    match ← readRecord with
    | none => return
    | some record =>
      setRecord record
      match ← attempt (actAll rules) with
      | none | some .next => forRecords budget rules
      | some leave => throw leave

/-- Whether a rule is for the beginning. -/
def isStart (rule : Rule) : Bool :=
  match rule.pattern with
  | .start => true
  | _ => false

/-- Whether a rule is for the end. -/
def isFinish (rule : Rule) : Bool :=
  match rule.pattern with
  | .finish => true
  | _ => false

/-- Runs a part of a program; an exit ends that part alone. -/
def part (run : Running Unit) : Running Bool := do
  match ← attempt run with
  | none => return true
  | some .exit => return false
  | some leave => throw leave

/-- Runs a program; `records` is a bound for their number. -/
def program (records : Nat) (rules : List Rule) : Running Unit := do
  let goesOn ← part do
    for rule in rules.filter isStart do act rule
  let needsInput := rules.any fun rule => !isStart rule
  if goesOn && needsInput then discard (part (forRecords records rules))
  discard (part do
    for rule in rules.filter isFinish do act rule)

end Running

/-! ### The program -/

/-- The variables that a program finds. -/
def firstVariables : Keyed String Value :=
  [("FS", Value.text " "), ("OFS", .text " "), ("ORS", .text "\n"),
    ("CONVFMT", .text "%.6g"), ("OFMT", .text "%.6g"), ("NR", .ofNat 0)].foldl
      (fun values (name, value) => values.put name value) .empty

/-- The assignment that an operand is. -/
def assignment? (operand : String) : Option (String × String) :=
  let name := operand.toList.takeWhile isNameChar
  match operand.toList.drop name.length with
  | '=' :: value =>
    if isName (String.ofList name) then
      some (String.ofList name, String.ofList (unescaped (value.length + 1) value))
    else none
  | _ => none

/-- The operands as parts of the input, as far as they were read. -/
def sourcesIn (operands : List String) (inputs : List Input) : List Source :=
  match operands with
  | [] => []
  | operand :: operands =>
    match assignment? operand with
    | some (name, value) => .assignment name value :: sourcesIn operands inputs
    | none =>
      match inputs with
      | [] => []
      | input :: inputs =>
        match input.contents with
        | .ok text => .input text.toList :: sourcesIn operands inputs
        | .error failure => [.unreadable input.name (fileCause failure)]

/-- A program that is ready to run. -/
structure Setup where
  rules : List Rule
  machine : Machine
  operands : List String

/-- What comes of a program by what has come of its input. -/
def Setup.outcome? (setup : Setup) (name : String) (inputs : List Input) (isAll : Bool) :
    Option Outcome :=
  let sources := sourcesIn setup.operands inputs
  let size := inputs.foldl (fun total input =>
    total + (input.contents.toOption.map String.length).getD 0) 2
  let (ended, machine) :=
    Running.program size setup.rules { setup.machine with sources, isOpen := !isAll }
  match ended with
  | .error .starved => none
  | .error (.failed cause) =>
    some { output := machine.output, errors := complaint name cause, status := 2 }
  | _ => some { output := machine.output, status := machine.status }

/-- The options of the program. -/
def table : OptionTable where
  valued := ['F', 'v']
  mixes := false

/-- The field separator that an option gives. -/
def separatorOf (text : String) : String :=
  if text = " " then " " else String.ofList (unescaped (text.length + 1) text.toList)

/-- The program of a call, ready to run. -/
def setUp (options : Options) (text : String) (operands : List String) : Except String Setup := do
  let assigned := (options.values 'v').filterMap assignment?
  let separator := (options.values 'F').map fun text => ("FS", separatorOf text)
  let values := (separator ++ assigned).foldl
    (fun values (name, value) => values.put name (Value.ofInput value)) firstVariables
  let isInput (operand : String) : Bool := (assignment? operand).isNone
  return {
    rules := ← rulesOf text
    machine := { values }
    operands := if operands.any isInput then operands else operands ++ ["-"] }

/-- Runs a program on the records of its input. -/
def interpret : Utility := withOptions table 2 fun call options =>
  match options.operands with
  | [] => .finish { errors := "Usage: " ++ call.name ++ " [Options] [Program] [file ...]\n" }
  | text :: operands =>
    match setUp options text operands with
    | .error cause => call.refuse ("line 1: " ++ cause) 2
    | .ok setup =>
      match setup.outcome? call.name [] false with
      | some outcome => .finish outcome
      | none =>
        .digest (setup.operands.filter fun operand => (assignment? operand).isNone) none
          (setup.outcome? call.name)

end EditorSession.Shell.Awk
