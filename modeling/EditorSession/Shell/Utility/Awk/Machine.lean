import EditorSession.Keyed
import EditorSession.Shell.Utility.Awk.Value

/-!
# The state of a program on records

The variables of a program, the record it looks at with its fields, what is left of its input, and
what it has written. The fields follow the record and the record follows them: giving either a value
makes the other anew.
-/

namespace EditorSession.Shell.Awk

/-- A part of the input. -/
inductive Source
  /-- Gives a variable a value. -/
  | assignment (name value : String)
  | input (text : List Char)
  | unreadable (name cause : String)

/-- What ends a statement before its time. -/
inductive Leave
  | next
  | exit
  /-- Input is needed that has not come. -/
  | starved
  | failed (cause : String)

/-- A program at a time. -/
structure Machine where
  values : Keyed String Value
  record : String := ""
  fields : List String := []
  sources : List Source := []
  /-- Whether the input may go on behind the sources. -/
  isOpen : Bool := false
  output : String := ""
  status : Nat := 0

/-- Running a program. -/
abbrev Running := ExceptT Leave (StateM Machine)

namespace Running

/-- Ends the program with a complaint. -/
def fail {α : Type} (cause : String) : Running α := throw (.failed cause)

/-- What ends a run before its time, if anything does. -/
def attempt (run : Running Unit) : Running (Option Leave) := fun machine =>
  match run machine with
  | (.ok _, machine) => (.ok none, machine)
  | (.error leave, machine) => (.ok (some leave), machine)

/-! ### Variables -/

/-- The value of a variable; the number of fields is one. -/
def valueOf (name : String) : Running Value := do
  let machine ← get
  if name = "NF" then return .ofNat machine.fields.length
  else return (machine.values.get? name).getD .unset

/-- The text of a variable. -/
def textOf (name : String) : Running String := return (← valueOf name).toText "%.6g"

/-- A value as a text. -/
def asText (value : Value) : Running String := return value.toText (← textOf "CONVFMT")

/-- Makes a text the record. -/
def setRecord (text : String) : Running Unit := do
  let separator ← textOf "FS"
  modify fun machine => { machine with record := text, fields := partsOf separator text }

/-- Makes texts the fields of the record. -/
def setFields (fields : List String) : Running Unit := do
  let separator ← textOf "OFS"
  modify fun machine => { machine with record := String.intercalate separator fields, fields }

/-- Makes the record have so many fields. -/
def resize (count : Nat) : Running Unit := do
  let fields := (← get).fields
  setFields (fields.take count ++ List.replicate (count - fields.length) "")

/-- Gives a variable a value. -/
def setVariable (name : String) (value : Value) : Running Unit := do
  if name = "NF" then resize value.toInteger.toNat
  else modify fun machine => { machine with values := machine.values.put name value }

/-- A field; that with the number zero is the record. -/
def field (index : Int) : Running Value := do
  let machine ← get
  if index = 0 then return .ofInput machine.record
  else if index < 0 then fail ("negative field index $" ++ toString index)
  else
    match machine.fields[index.toNat - 1]? with
    | some text => return .ofInput text
    | none => return .unset

/-- Gives a field a text. -/
def setField (index : Int) (text : String) : Running Unit := do
  if index = 0 then setRecord text
  else if index < 0 then fail ("negative field index $" ++ toString index)
  else
    let place := index.toNat - 1
    let fields := (← get).fields
    setFields ((fields ++ List.replicate (place + 1 - fields.length) "").set place text)

/-- Where a value can be kept. -/
inductive Place
  | variable (name : String)
  | field (index : Int)

/-- The value at a place. -/
def load : Place → Running Value
  | .variable name => valueOf name
  | .field index => field index

/-- Keeps a value at a place. -/
def store (place : Place) (value : Value) : Running Unit := do
  match place with
  | .variable name => setVariable name value
  | .field index => setField index (← asText value)

/-! ### Input and output -/

/-- The next record of the input, if there is one. -/
def nextRecord (budget : Nat) : Running (Option String) := do
  match budget with
  | 0 => return none
  | budget + 1 =>
    let machine ← get
    match machine.sources with
    | [] => if machine.isOpen then throw .starved else return none
    | .assignment name value :: rest =>
      set { machine with sources := rest }
      setVariable name (.ofInput value)
      nextRecord budget
    | .unreadable name cause :: _ => fail ("cannot open \"" ++ name ++ "\" (" ++ cause ++ ")")
    | .input text :: rest =>
      let record := text.takeWhile (· ≠ '\n')
      match record, text.drop record.length with
      | record, _ :: text =>
        set { machine with sources := .input text :: rest }
        return some (String.ofList record)
      | record, [] =>
        if rest.isEmpty && machine.isOpen then throw .starved
        set { machine with sources := rest }
        if record.isEmpty then nextRecord budget else return some (String.ofList record)

/-- The next record of the input, if there is one; it is counted. -/
def readRecord : Running (Option String) := do
  let record? ← nextRecord ((← get).sources.length + 1)
  if record?.isSome then
    setVariable "NR" (.number ((← valueOf "NR").toNumber.add (.ofNat 1)))
  return record?

/-- Writes a text to the output. -/
def write (text : String) : Running Unit :=
  modify fun machine => { machine with output := machine.output ++ text }

end Running

end EditorSession.Shell.Awk
