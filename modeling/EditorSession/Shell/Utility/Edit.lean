import EditorSession.Shell.Regex
import EditorSession.Shell.Utility.Basic

/-!
# Editing lines

The program `sed` reads line after line, runs its commands on it, and writes what the line then is.
Commands have addresses, and replace parts of lines (`s`), write them (`p`), give them up (`d`) or
end the program (`q`).
-/

namespace EditorSession.Shell.Edit

/-! ### Scripts -/

/-- What line a command is for. -/
inductive Address
  | line (number : Nat)
  | lastLine
  | fits (regex : Regex) (ignoresCase : Bool)

/-- The lines that a command is for. -/
inductive Lines
  | all
  | one (address : Address)
  | range (first last : Address)

/-- A part of a replacement. -/
inductive Replacement
  | text (text : List Char)
  /-- What a group took; the group of number zero is the whole match. -/
  | group (number : Nat)

/-- How matches are replaced. -/
structure Substitution where
  regex : Regex
  replacement : List Replacement
  ignoresCase : Bool := false
  isGlobal : Bool := false
  /-- The first match to replace. -/
  occurrence : Nat := 1
  prints : Bool := false

/-- What a command does. -/
inductive Action
  | substitute (substitution : Substitution)
  | print
  | delete
  | quit

/-- A command. -/
structure Instruction where
  lines : Lines
  isNegated : Bool
  action : Action

/-- A step of reading a script, which fails with a cause. -/
abbrev Reader := StateT (List Char) (Except String)

namespace Reader

/-- Takes characters as long as they satisfy a condition. -/
def takeWhile (accepts : Char → Bool) : Reader (List Char) :=
  modifyGet fun text => text.span accepts

/-- Takes blanks. -/
def skipBlanks : Reader Unit := discard (takeWhile isBlank)

/-- The text up to a delimiter, which a backslash may protect, and the rest; in brackets of an
expression the delimiter counts for nothing. -/
def splitAt (budget : Nat) (delimiter : Char) (isRegex inSet : Bool) (read : List Char) :
    List Char → Option (List Char × List Char)
  | [] => none
  | first :: rest =>
    match budget with
    | 0 => none
    | budget + 1 =>
      match first, rest with
      | '\\', next :: rest =>
        if inSet then splitAt budget delimiter isRegex inSet ('\\' :: read) (next :: rest)
        else if next = delimiter then splitAt budget delimiter isRegex inSet (next :: read) rest
        else splitAt budget delimiter isRegex inSet (next :: '\\' :: read) rest
      | first, rest =>
        if first = delimiter && !inSet then some (read.reverse, rest)
        else if isRegex && !inSet && first = '[' then
          match rest with
          | '^' :: ']' :: rest =>
            splitAt budget delimiter isRegex true (']' :: '^' :: '[' :: read) rest
          | ']' :: rest => splitAt budget delimiter isRegex true (']' :: '[' :: read) rest
          | rest => splitAt budget delimiter isRegex true ('[' :: read) rest
        else splitAt budget delimiter isRegex (inSet && first ≠ ']') (first :: read) rest

/-- Takes text up to a delimiter. -/
def upTo (delimiter : Char) (isRegex : Bool) (cause : String) : Reader (List Char) := do
  let text ← get
  match splitAt (text.length + 1) delimiter isRegex false [] text with
  | some (taken, rest) => set rest; return taken
  | none => throw cause

/-- The expression that a text writes. -/
def regexOf (isExtended : Bool) (text : List Char) : Reader Regex :=
  match Regex.ofText { isExtended, hasControls := true } (String.ofList text) with
  | .ok regex => pure regex
  | .error flaw => throw flaw.message

/-- An address, if there is one. -/
def address? (isExtended : Bool) : Reader (Option Address) := do
  match ← get with
  | '$' :: rest => set rest; return some .lastLine
  | '/' :: rest =>
    set rest
    let regex ← regexOf isExtended (← upTo '/' true "unterminated address regex")
    return some (.fits regex !(← takeWhile (· = 'I')).isEmpty)
  | first :: _ =>
    if isDigit first then return some (.line (decimalValue (← takeWhile isDigit)))
    else return none
  | [] => return none

/-- The lines that a command is for. -/
def lines (isExtended : Bool) : Reader Lines := do
  match ← address? isExtended with
  | none => return .all
  | some first =>
    match ← get with
    | ',' :: rest =>
      set rest
      match ← address? isExtended with
      | some last => return .range first last
      | none => throw "unexpected ,"
    | _ => return .one first

/-- The parts of a replacement. -/
def replacementOf : List Char → List Replacement
  | [] | ['\\'] => []
  | '\\' :: letter :: rest =>
    (if isDigit letter then .group (letter.toNat - 48)
      else .text [(Regex.escapedControl? letter).getD letter]) :: replacementOf rest
  | '&' :: rest => .group 0 :: replacementOf rest
  | first :: rest => .text [first] :: replacementOf rest

/-- The flags behind a substitution. -/
def flags (budget : Nat) (substitution : Substitution) : Reader Substitution := do
  match budget, ← get with
  | 0, _ | _, [] => return substitution
  | budget + 1, first :: rest =>
    let goOn (substitution : Substitution) : Reader Substitution := do
      set rest
      flags budget substitution
    match first with
    | 'g' => goOn { substitution with isGlobal := true }
    | 'p' => goOn { substitution with prints := true }
    | 'i' | 'I' => goOn { substitution with ignoresCase := true }
    | _ =>
      if !isDigit first then return substitution
      let occurrence := decimalValue (← takeWhile isDigit)
      if occurrence = 0 then throw "number option to s command may not be zero"
      flags budget { substitution with occurrence }

/-- A substitution behind its letter. -/
def substitution (isExtended : Bool) : Reader Substitution := do
  match ← get with
  | [] => throw "unterminated s command"
  | delimiter :: rest =>
    set rest
    let pattern ← upTo delimiter true "unterminated s command"
    let replacement ← upTo delimiter false "unterminated s command"
    flags (rest.length + 1) {
      regex := ← regexOf isExtended pattern, replacement := replacementOf replacement }

/-- What the letter of a command asks for. -/
def action (isExtended : Bool) : Reader Action := do
  match ← get with
  | [] => throw "missing command"
  | letter :: rest =>
    set rest
    match letter with
    | 's' => return .substitute (← substitution isExtended)
    | 'p' => return .print
    | 'd' => return .delete
    | 'q' => return .quit
    | _ => throw ("unknown command: '" ++ String.ofList [letter] ++ "'")

/-- Commands up to the end of the script. -/
def instructions (isExtended : Bool) : (budget : Nat) → Reader (List Instruction)
  | 0 => return []
  | budget + 1 => do
    discard (takeWhile fun character => isSpace character || character = ';')
    if (← get).isEmpty then return []
    let lines ← lines isExtended
    skipBlanks
    let isNegated := !(← takeWhile (· = '!')).isEmpty
    skipBlanks
    let action ← action isExtended
    skipBlanks
    match ← get, action with
    | [], _ | '\n' :: _, _ | ';' :: _, _ =>
      return { lines, isNegated, action } :: (← instructions isExtended budget)
    | _, .substitute _ => throw "unknown option to 's'"
    | _, _ => throw "extra characters after command"

end Reader

/-- The commands of a script. -/
def read (isExtended : Bool) (text : String) : Except String (List Instruction) :=
  (Reader.instructions isExtended (text.length + 1)).run' text.toList

/-! ### The editor -/

/-- The editor at a time. -/
structure Editor where
  /-- The lines that were not read. -/
  rest : List String
  /-- Whether the last line has an end. -/
  isEnded : Bool
  /-- Whether more lines may come. -/
  isOpen : Bool
  number : Nat := 0
  output : String := ""
  /-- Whether the output lacks the end of its last line. -/
  lacksEnd : Bool := false
  /-- The ranges that lines are in, by the places of their commands. -/
  ranges : List Nat := []
  hasQuit : Bool := false

namespace Editor

/-- Whether the present line is the last one. -/
def isLast (editor : Editor) : Bool := editor.rest.isEmpty && !editor.isOpen

/-- Writes a line. The last line has an end only if it was read with one. -/
def putLine (editor : Editor) (line : String) : Editor :=
  let lacksEnd := editor.isLast && !editor.isEnded
  { editor with
    output := editor.output ++ (if editor.lacksEnd then "\n" else "") ++ line ++
      (if lacksEnd then "" else "\n")
    lacksEnd }

/-- Whether a line is the one of an address. -/
def isAt (editor : Editor) (line : String) : Address → Bool
  | .line number => editor.number = number
  | .lastLine => editor.isLast
  | .fits regex ignoresCase => (regex.find? ignoresCase line.toList.toArray 0).isSome

/-- Whether a line is one of the lines of a command at a place. -/
def isAmong (editor : Editor) (place : Nat) (line : String) : Lines → Bool × Editor
  | .all => (true, editor)
  | .one address => (editor.isAt line address, editor)
  | .range first last =>
    let left : Editor := { editor with ranges := editor.ranges.filter (· ≠ place) }
    let entered : Editor := { left with ranges := place :: left.ranges }
    if editor.ranges.contains place then
      match last with
      | .line number =>
        -- A range whose last line is behind may begin again at this very line.
        if number < editor.number then (left.isAt line first, left)
        else (true, if number = editor.number then left else editor)
      | last => (true, if editor.isAt line last then left else editor)
    else if !editor.isAt line first then (false, editor)
    else
      match last with
      | .line number => (true, if number ≤ editor.number then editor else entered)
      | _ => (true, entered)

/-- The text that replaces a match. -/
def replacementText (text : Array Char) (found : Regex.Found) (parts : List Replacement) :
    List Char :=
  parts.flatMap fun part =>
    match part with
    | .text inner => inner
    | .group 0 => (text.extract found.start found.finish).toList
    | .group number =>
      match found.groups.lookup number with
      | some (first, last) => (text.extract first last).toList
      | none => []

/-- A text with its matches from an offset on replaced, and how many were found; an empty match
right behind another one does not count. -/
def replaceFrom (budget : Nat) (substitution : Substitution) (text : Array Char)
    (offset count : Nat) (last : Option Nat) (made : List Char) : List Char × Nat :=
  let restOf (offset : Nat) : List Char := (text.extract offset text.size).toList
  match budget with
  | 0 => (made ++ restOf offset, count)
  | budget + 1 =>
    match substitution.regex.find? substitution.ignoresCase text offset with
    | none => (made ++ restOf offset, count)
    | some found =>
      let made := made ++ (text.extract offset found.start).toList
      let isEmpty := found.finish = found.start
      if isEmpty && last = some found.start then
        match text[found.start]? with
        | some character =>
          replaceFrom budget substitution text (found.start + 1) count none (made ++ [character])
        | none => (made, count)
      else
        let count := count + 1
        let isChosen := if substitution.isGlobal then substitution.occurrence ≤ count
          else substitution.occurrence = count
        let made := made ++
          if isChosen then replacementText text found substitution.replacement
          else (text.extract found.start found.finish).toList
        if isChosen && !substitution.isGlobal then (made ++ restOf found.finish, count)
        else if isEmpty then
          match text[found.finish]? with
          | some character =>
            replaceFrom budget substitution text (found.finish + 1) count none
              (made ++ [character])
          | none => (made, count)
        else replaceFrom budget substitution text found.finish count (some found.finish) made

/-- Runs commands on a line; yields what the line is then, unless it was given up. -/
def runLine (editor : Editor) (line : String) : List (Instruction × Nat) → Option String × Editor
  | [] => (some line, editor)
  | (instruction, place) :: rest =>
    let (isAmong, editor) := editor.isAmong place line instruction.lines
    if isAmong == instruction.isNegated then editor.runLine line rest
    else
      match instruction.action with
      | .substitute substitution =>
        let text := line.toList.toArray
        let (made, count) := replaceFrom (text.size + 2) substitution text 0 0 none []
        if count < substitution.occurrence then editor.runLine line rest
        else
          let line := String.ofList made
          (if substitution.prints then editor.putLine line else editor).runLine line rest
      | .print => (editor.putLine line).runLine line rest
      | .delete => (none, editor)
      | .quit => (some line, { editor with hasQuit := true })

/-- Runs commands on lines in turn. -/
def runLines (isQuiet : Bool) (instructions : List (Instruction × Nat)) (editor : Editor) :
    (lines : List String) → Editor
  | [] => editor
  | line :: rest =>
    let editor := { editor with rest, number := editor.number + 1 }
    let (line?, editor) := editor.runLine line instructions
    let editor :=
      match line? with
      | some line => if isQuiet then editor else editor.putLine line
      | none => editor
    if editor.hasQuit then editor else runLines isQuiet instructions editor rest

end Editor

/-! ### The program -/

/-- The options of the program. -/
def table : OptionTable where
  plain := ['n', 'E', 'r']
  valued := ['e']

/-- What comes of running commands on inputs as one text. -/
def edit (call : Call) (isQuiet : Bool) (instructions : List Instruction) (inputs : List Input)
    (isAll : Bool) : Option Outcome :=
  let (lines, isEnded) := linesOf (wholeText inputs)
  let lines := if isAll || isEnded then lines else lines.dropLast
  let start : Editor := { rest := lines, isEnded := isEnded || !isAll, isOpen := !isAll }
  let editor := start.runLines isQuiet instructions.zipIdx lines
  if isAll || editor.hasQuit then
    let failures := inputs.filter fun input => input.contents.toOption.isNone
    some {
      output := editor.output
      errors := inputErrors call.name (failures.map fun input =>
        { input with name := "can't read " ++ input.name })
      status := if failures.isEmpty then 0 else 2 }
  else none

/-- Edits lines. -/
def stream : Utility := withOptions table 1 fun call options =>
  let (script?, files) : Option String × List String :=
    match options.values 'e', options.operands with
    | [], [] => (none, [])
    | [], script :: files => (some script, files)
    | scripts, files => (some (String.intercalate "\n" scripts), files)
  match script? with
  | none =>
    let usage := "[OPTION]... \x7bscript-only-if-no-other-script\x7d [input-file]...\n"
    .finish { errors := "Usage: " ++ call.name ++ " " ++ usage, status := 1 }
  | some script =>
    match read (options.has 'E' || options.has 'r') script with
    | .error cause =>
      call.refuse ("-e expression #1, char " ++ toString script.length ++ ": " ++ cause) 1
    | .ok instructions =>
      .digest (sourcesOf files) none (edit call (options.has 'n') instructions)

end EditorSession.Shell.Edit
