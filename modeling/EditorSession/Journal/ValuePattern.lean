/-!
# Values that filters ask for

A filter may ask that a field has a value, which is a truth value, a number or a pattern. Only
whether a text is one of these matters here: a pattern has to be closed where it was opened, and
whatever is repeated, escaped or ranged over in it has to be there.
-/

namespace EditorSession.Journal.ValuePattern

/-! ### Numbers -/

/-- What is left of a text behind decimal digits, if there are some. -/
def behindDigits? (text : List Char) : Option (List Char) :=
  match text with
  | first :: rest => if first.isDigit then some (rest.dropWhile Char.isDigit) else none
  | [] => none

/-- Whether a text is nothing or a power of ten that a number is multiplied by. -/
def isExponent : List Char → Bool
  | [] => true
  | mark :: rest =>
    let digits :=
      match rest with
      | '+' :: digits | '-' :: digits => digits
      | digits => digits
    (mark = 'e' || mark = 'E') && behindDigits? digits = some []

/-- Whether a text is a number without a sign. -/
def isUnsigned (text : List Char) : Bool :=
  if (String.ofList text).toLower ∈ ["inf", "infinity", "nan"] then true
  else
    match text with
    | '.' :: rest => (behindDigits? rest).any isExponent
    | _ =>
      match behindDigits? text with
      | none => false
      | some ('.' :: rest) => isExponent (rest.dropWhile Char.isDigit)
      | some rest => isExponent rest

/-! ### Patterns -/

/-- What stood last in a class of characters. -/
inductive Item
  | nothing
  | character (value : Nat)
  /-- A class, which is no end of a range. -/
  | several
  deriving DecidableEq, Repr

/-- How far a pattern is read. -/
inductive Stage
  /-- Outside of classes; tells whether something stands there that can be repeated. -/
  | outside (isRepeatable : Bool)
  /-- Behind the parenthesis that opens a group. -/
  | opened
  /-- In the settings of a group, which are kept for what follows if the group has nothing else. -/
  | settings (isNegated : Bool) (names : List Char)
  /-- In front of the name of a group. -/
  | naming
  | name (known : List Char)
  /-- Behind a backslash. -/
  | escaped
  /-- In the number of a character, with the digits that are still needed. -/
  | number (digits : Nat) (value : Nat)
  /-- In front of the letter of a kind of characters. -/
  | kind
  /-- In a class of characters. -/
  | within
  deriving DecidableEq, Repr

/-- A pattern that is read. -/
structure State where
  stage : Stage := .outside false
  /-- The groups that are open. -/
  groups : Nat := 0
  /-- The classes that are open, one in the other. -/
  classes : Nat := 0
  /-- Whether nothing but signs stands in the class so far. -/
  isFresh : Bool := false
  /-- Whether a class could still be turned into what it leaves out. -/
  isTurnable : Bool := false
  last : Item := .nothing
  /-- The start of a range whose end comes next. -/
  range : Option Item := none

namespace State

/-- The state behind an item, outside of classes or in one. -/
def behind (state : State) (item : Item) : Option State :=
  if state.classes = 0 then some { state with stage := .outside true }
  else
    let state := { state with stage := .within, isFresh := false, isTurnable := false }
    match state.range with
    | none => some { state with last := item }
    | some first =>
      match first, item with
      | .character first, .character last =>
        if first ≤ last then some { state with last := .nothing, range := none } else none
      | _, _ => none

/-- The state in a new class. -/
def openClass (state : State) : State :=
  { state with
    stage := .within
    classes := state.classes + 1
    isFresh := true
    isTurnable := true
    last := .nothing
    range := none }

/-- The state behind the end of a class. -/
def closeClass (state : State) : State :=
  { state with
    stage := if state.classes = 1 then .outside true else .within
    classes := state.classes - 1
    isFresh := false
    last := .nothing
    range := none }

/-- The letters of characters that are written with a backslash. -/
def namedLetters : List Char := ['a', 'f', 't', 'n', 'r', 'v']

/-- The letters of classes of characters. -/
def classLetters : List Char := ['d', 's', 'w', 'D', 'S', 'W']

/-- The letters of kinds of characters. -/
def kindLetters : List Char := ['L', 'M', 'N', 'P', 'S', 'Z', 'C']

/-- The letters of settings. -/
def settingLetters : List Char := ['i', 'm', 's', 'U', 'u', 'R', 'x']

/-- Whether a letter stands for a place between characters. -/
def isPlace (character : Char) : Bool := character = 'A' || character = 'z'

/-- Whether a backslash before a character only takes its meaning away. -/
def isPlainEscape (character : Char) : Bool :=
  character.toNat < 128 && !character.isAlphanum && character ≠ '<' && character ≠ '>'

/-- Whether a character may be in the name of a group; a name does not start with a digit. -/
def isOfName (known : List Char) (character : Char) : Bool :=
  character = '_' || character.isAlpha
    || !known.isEmpty && (character.isDigit || character ∈ ['.', '[', ']'])

/-- Reads a character behind a backslash. -/
def readEscaped (state : State) (character : Char) : Option State :=
  if character = 'x' then some { state with stage := .number 2 0 }
  else if character = 'u' then some { state with stage := .number 4 0 }
  else if character = 'U' then some { state with stage := .number 8 0 }
  else if character = 'p' || character = 'P' then some { state with stage := .kind }
  else if character ∈ classLetters then state.behind .several
  else if isPlace character then if state.classes = 0 then state.behind .several else none
  else if character ∈ namedLetters || isPlainEscape character then
    state.behind (.character character.toNat)
  else none

/-- Reads a character in a class. -/
def readWithin (state : State) (character : Char) : Option State :=
  if character = '\\' then some { state with stage := .escaped }
  else if state.isTurnable && character = '^' then some { state with isTurnable := false }
  else if state.isFresh && character = '-' then
    some { state with isTurnable := false, last := .character character.toNat }
  else
    match state.range with
    | some first =>
      if character = ']' then some state.closeClass
      else if character = '-' then some { state with last := .nothing, range := none }
      else { state with range := some first }.behind (.character character.toNat)
    | none =>
      if character = ']' then
        if state.isFresh && state.last = .nothing then state.behind (.character character.toNat)
        else some state.closeClass
      else if character = '[' then some state.openClass
      else if character = '-' && state.last ≠ .nothing then
        some { state with range := some state.last, last := .nothing }
      else state.behind (.character character.toNat)

/-- The value of a hexadecimal digit. -/
def digit? (character : Char) : Option Nat :=
  if character.isDigit then some (character.toNat - 48)
  else if 'a' ≤ character ∧ character ≤ 'f' then some (character.toNat - 87)
  else if 'A' ≤ character ∧ character ≤ 'F' then some (character.toNat - 55)
  else none

/-- Reads a character outside of classes. -/
def readOutside (state : State) (isRepeatable : Bool) (character : Char) : Option State :=
  match character with
  | '\\' => some { state with stage := .escaped }
  | '(' => some { state with stage := .opened, groups := state.groups + 1 }
  | ')' =>
    if state.groups = 0 then none
    else some { state with stage := .outside true, groups := state.groups - 1 }
  | '|' => some { state with stage := .outside false }
  | '[' => some state.openClass
  | '?' | '*' | '+' => if isRepeatable then some { state with stage := .outside true } else none
  | '\x7b' => none
  | _ => some { state with stage := .outside true }

/-- Reads a character of the settings of a group. -/
def readSettings (state : State) (isNegated : Bool) (names : List Char) (character : Char) :
    Option State :=
  if character = ':' then some { state with stage := .outside false }
  else if character = ')' then
    if names.isEmpty then none
    else some { state with stage := .outside false, groups := state.groups - 1 }
  else if character = '-' then
    if isNegated then none else some { state with stage := .settings true names }
  else if character ∈ settingLetters && !names.contains character then
    some { state with stage := .settings isNegated (character :: names) }
  else none

/-- Reads a character. -/
def read (state : State) (character : Char) : Option State :=
  match state.stage with
  | .outside isRepeatable => state.readOutside isRepeatable character
  | .opened =>
    if character = '?' then some { state with stage := .settings false [] }
    else state.readOutside false character
  | .settings isNegated names =>
    if names.isEmpty && !isNegated && character = 'P' then some { state with stage := .naming }
    else if names.isEmpty && !isNegated && character = '<' then
      some { state with stage := .name [] }
    else state.readSettings isNegated names character
  | .naming => if character = '<' then some { state with stage := .name [] } else none
  | .name known =>
    if character = '>' && !known.isEmpty then some { state with stage := .outside false }
    else if isOfName known character then some { state with stage := .name (character :: known) }
    else none
  | .escaped => state.readEscaped character
  | .number digits value =>
    match digit? character with
    | none => none
    | some digit =>
      let value := value * 16 + digit
      if digits ≤ 1 then if value.isValidChar then state.behind (.character value) else none
      else some { state with stage := .number (digits - 1) value }
  | .kind => if character ∈ kindLetters then state.behind .several else none
  | .within => state.readWithin character

/-- Whether a pattern may end here. -/
def isDone (state : State) : Bool :=
  match state.stage with
  | .outside _ => state.groups = 0
  | _ => false

end State

/-- Whether a text is a pattern. -/
def isPattern (text : List Char) : Bool := (text.foldlM State.read {}).any State.isDone

/-- Whether a text is a value that can be asked for. -/
def isValue (text : List Char) : Bool :=
  match text with
  | '+' :: rest => isUnsigned rest
  | _ => isPattern text

end EditorSession.Journal.ValuePattern
