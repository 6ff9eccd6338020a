import EditorSession.Shell.Arithmetic
import EditorSession.Shell.Command
import EditorSession.Shell.PathPattern
import EditorSession.Shell.Scope

/-!
# Expanding words

A word becomes fields when its command runs: parameters, arithmetic and substitutions give way to
their values, what was not quoted is cut at separators, and patterns give way to the paths they fit.

What a substitution writes is not known before its command has run. So an expansion is given the
answers that are known, stops at the first substitution beyond them, and is made again from its
start when there is one answer more. What it changes on the way, it changes in a scope of its own,
and a substitution sees the scope as it is where the substitution stands.
-/

namespace EditorSession.Shell

/-- What an expansion has at a time. -/
structure Expanding where
  scope : Scope
  tree : FileTree
  directory : List String
  /-- What the further substitutions wrote. -/
  answers : List String

/-- Why an expansion stops before its end. -/
inductive Halt
  /-- What a command writes in a scope is needed. -/
  | awaits (command : Command) (scope : Scope)
  | fails (cause : String)

/-- A step of an expansion. -/
abbrev Expander := StateT Expanding (Except Halt)

namespace Expander

/-- Ends an expansion. -/
def fail {α : Type} (cause : String) : Expander α := fun _ => .error (.fails cause)

/-- The next answer. -/
def answer (command : Command) : Expander String := fun state =>
  match state.answers with
  | answer :: answers => .ok (answer, { state with answers })
  | [] => .error (.awaits command state.scope)

/-- Gives a variable a value. -/
def assign (name value : String) : Expander Unit :=
  modify fun state => { state with scope := state.scope.assign name value }

/-- What a message says of a parameter without a value. -/
def unsetCause (name : String) : String := name ++ ": parameter not set"

/-- The value of a parameter; if it has none, an empty one, unless that is a failure. -/
def valueOf (name : String) : Expander String := do
  let scope := (← get).scope
  match scope.value? name with
  | some value => return value
  | none => if scope.hasFlag 'u' then fail (unsetCause name) else return ""

/-! ### Arithmetic -/

/-- The number that a variable holds. -/
def numberOf (name : String) : Expander Int64 := do
  let text ← valueOf name
  match Arithmetic.valueOf? text with
  | some value => return value
  | none => fail ("Illegal number: " ++ text)

/-- What a message says of an expression. -/
def faultCause (cause text : String) : String :=
  "arithmetic expression: " ++ cause ++ ": " ++ "\"" ++ text ++ "\""

/-- The value of an operator. -/
def operate (text : String) (operator : Operator) (left right : Int64) : Expander Int64 :=
  match operator.outcome? left right with
  | some value => return value
  | none => fail (faultCause "division by zero" text)

/-- The value of an expression, which a text spells. -/
def evaluate (text : String) : Arithmetic → Expander Int64
  | .number value => return value
  | .variable name => numberOf name
  | .unary operator operand => return operator.apply (← evaluate text operand)
  | .binary operator left right => do
    let left ← evaluate text left
    let right ← evaluate text right
    operate text operator left right
  | .both left right => do
    let left ← evaluate text left
    if left = 0 then return 0
    let right ← evaluate text right
    return Operator.truth (right != 0)
  | .either left right => do
    let left ← evaluate text left
    if left ≠ 0 then return 1
    let right ← evaluate text right
    return Operator.truth (right != 0)
  | .choose condition accepted rejected => do
    let condition ← evaluate text condition
    if condition = 0 then evaluate text rejected else evaluate text accepted
  | .assign name operator value => do
    let value ← evaluate text value
    let value ← match operator with
      | none => pure value
      | some operator => do operate text operator (← numberOf name) value
    assign name (toString value.toInt)
    return value

/-- The value of the expression that a text spells. -/
def calculate (text : String) : Expander String := do
  match Arithmetic.ofText text with
  | .ok expression => return toString (← evaluate text expression).toInt
  | .error fault => fail (faultCause fault.message text)

/-! ### Marks -/

/-- What a word is expanded to before it is cut. -/
inductive Mark
  /-- A character; one that is cuttable may separate fields. -/
  | char (character : Char) (quoted cuttable : Bool)
  /-- Quotes, which make a field even when nothing is in them. -/
  | quote
  /-- The gap between two arguments. -/
  | gap
  deriving DecidableEq

/-- The mark of quotes, if there are quotes. -/
def quoteIf (quoted : Bool) : List Mark := if quoted then [.quote] else []

/-- The marks of a value. -/
def marksOf (quoted : Bool) (text : String) : List Mark :=
  quoteIf quoted ++ text.toList.map fun character => .char character quoted !quoted

/-- The marks of text that stands for itself. -/
def literalMarks (text : String) (quoted cuttable : Bool) : List Mark :=
  quoteIf quoted ++ text.toList.map fun character => .char character quoted (cuttable && !quoted)

/-- The marks of arguments, each of which is a field. -/
def argumentMarks (quoted : Bool) (arguments : List String) : List Mark :=
  ((arguments.map (marksOf quoted)).intersperse [.gap]).flatten

/-- The characters of marks, each with whether it was quoted. -/
def charactersOf (joint : String) (marks : List Mark) : List (Char × Bool) :=
  marks.flatMap fun mark =>
    match mark with
    | .char character quoted _ => [(character, quoted)]
    | .quote => []
    | .gap => joint.toList.map (·, true)

/-- The text of marks. -/
def textOfMarks (joint : String) (marks : List Mark) : String :=
  String.ofList ((charactersOf joint marks).map Prod.fst)

/-- The marks of the value of a parameter. -/
def parameterMarks (name : String) (quoted : Bool) : Expander (List Mark) := do
  let scope := (← get).scope
  if name = "@" || (name = "*" && !quoted) then
    return argumentMarks quoted scope.arguments
  else return marksOf quoted (← valueOf name)

/-- The value of a parameter, if it counts as one. -/
def present? (scope : Scope) (name : String) (orEmpty : Bool) : Option String :=
  match scope.value? name with
  | some text => if text.isEmpty && orEmpty then none else some text
  | none => none

/-- The marks of the home directory of a user. -/
def homeMarks (user : String) : Expander (List Mark) := do
  let scope := (← get).scope
  let home :=
    if user.isEmpty then (scope.valueOf? "HOME").getD "~"
    else if user = "root" then "/root"
    else "~" ++ user
  return home.toList.map fun character => .char character true false

mutual

/-- The marks of a piece; text that stands for itself may be cuttable. -/
def expandPiece (cuttable : Bool) : Piece → Expander (List Mark)
  | .literal text quoted => return literalMarks text quoted cuttable
  | .home user => homeMarks user
  | .arithmetic expression quoted => do
    let marks ← expandPieces false expression
    return marksOf quoted (← calculate (textOfMarks " " marks))
  | .substitution command quoted => return marksOf quoted (← answer command)
  | .parameter name expansion quoted =>
    match expansion with
    | .malformed => fail "Bad substitution"
    | .value => parameterMarks name quoted
    | .length => do
      let text ← valueOf name
      return marksOf quoted (toString text.length)
    | .fallback orEmpty word => do
      match present? (← get).scope name orEmpty with
      | some _ => parameterMarks name quoted
      | none => return quoteIf quoted ++ (← expandPieces (!quoted) word)
    | .assigned orEmpty word => do
      match present? (← get).scope name orEmpty with
      | some _ => parameterMarks name quoted
      | none =>
        let marks ← expandPieces false word
        let value := textOfMarks (← get).scope.joint marks
        if isName name then assign name value
        else fail (name ++ ": bad variable name")
        return marksOf quoted value
    | .demanded orEmpty word => do
      match present? (← get).scope name orEmpty with
      | some _ => parameterMarks name quoted
      | none =>
        let marks ← expandPieces false word
        let cause := textOfMarks " " marks
        if word.isEmpty then
          fail (unsetCause name ++ if orEmpty then " or null" else "")
        else fail (name ++ ": " ++ cause)
    | .alternative orEmpty word => do
      match present? (← get).scope name orEmpty with
      | some _ => return quoteIf quoted ++ (← expandPieces (!quoted) word)
      | none => return quoteIf quoted
    | .without atEnd longest word => do
      let text := (← valueOf name).toList
      let marks ← expandPieces false word
      let pattern := Pattern.ofMarked (charactersOf " " marks)
      return marksOf quoted (String.ofList
        (if atEnd then pattern.withoutEnd longest text else pattern.withoutStart longest text))

/-- The marks of pieces. -/
def expandPieces (cuttable : Bool) : List Piece → Expander (List Mark)
  | [] => return []
  | piece :: rest => do
    let first ← expandPiece cuttable piece
    let others ← expandPieces cuttable rest
    return first ++ others

end

/-! ### Fields -/

/-- Fields under construction. -/
structure Fields where
  /-- The finished fields, last first. -/
  finished : List (List (Char × Bool)) := []
  /-- The characters of the open field, last first. -/
  opened : Option (List (Char × Bool)) := none
  /-- Whether blanks ended the last field, which a separator may join. -/
  afterBlank : Bool := false

namespace Fields

/-- Ends the open field, if there is one. -/
def cut (fields : Fields) (afterBlank : Bool) : Fields :=
  match fields.opened with
  | some field => ⟨field.reverse :: fields.finished, none, afterBlank⟩
  | none => fields

/-- Takes a separator. A blank ends a field, and any other separator a field that may be empty. -/
def separate (fields : Fields) (separator : Char) : Fields :=
  if isBlank separator || separator = '\n' then fields.cut true
  else if fields.opened.isSome then fields.cut false
  else if fields.afterBlank then { fields with afterBlank := false }
  else { fields with finished := [] :: fields.finished }

/-- Takes a mark. -/
def add (separators : List Char) (fields : Fields) : Mark → Fields
  | .quote => { fields with opened := some (fields.opened.getD []), afterBlank := false }
  | .gap => fields.cut false
  | .char character quoted cuttable =>
    if cuttable && separators.contains character then fields.separate character
    else
      { fields with
        opened := some ((character, quoted) :: fields.opened.getD [])
        afterBlank := false }

/-- All fields in order. -/
def toList (fields : Fields) : List (List (Char × Bool)) := (fields.cut false).finished.reverse

end Fields

/-- The paths that a field fits, or the field itself. -/
def spread (state : Expanding) (field : List (Char × Bool)) : List String :=
  let isPattern := (Pattern.ofMarked field).isGeneral && !state.scope.hasFlag 'f'
  let paths := if isPattern then pathsOf state.tree state.directory field else []
  if paths.isEmpty then [String.ofList (field.map Prod.fst)] else paths

/-- A word in which only a tilde at its start stands for a directory. -/
def withoutInnerHomes : Word → Word
  | [] => []
  | first :: rest => first :: rest.map fun piece =>
    match piece with
    | .home user => .literal ("~" ++ user) false
    | piece => piece

/-- The fields of a word. -/
def expandWord (word : Word) : Expander (List String) := do
  let marks ← expandPieces false (withoutInnerHomes word)
  let state ← get
  let fields := marks.foldl (Fields.add state.scope.separators) {}
  return fields.toList.flatMap (spread state)

/-- The fields of words. -/
def expandWords : List Word → Expander (List String)
  | [] => return []
  | word :: rest => do
    let first ← expandWord word
    let others ← expandWords rest
    return first ++ others

/-- The text of a word that is not cut. -/
def expandWhole (word : Word) : Expander String := do
  let marks ← expandPieces false word
  return textOfMarks (← get).scope.joint marks

/-- The pattern of a word. -/
def expandPattern (word : Word) : Expander Pattern := do
  let marks ← expandPieces false word
  return Pattern.ofMarked (charactersOf " " marks)

end Expander

end EditorSession.Shell
