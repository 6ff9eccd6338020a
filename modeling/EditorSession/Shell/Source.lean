import EditorSession.Shell.Command
import EditorSession.Shell.Plain

/-!
# Sources

What is left of a script while it is read: its characters, the line they begin at, and what was
looked at and not yet taken. Documents that stand below the line that asks for them are cut out as
soon as they are asked for, so that the end of the line leads past them.
-/

namespace EditorSession.Shell

/-! ### Tokens -/

/-- A part of a line. -/
inductive Token
  | word (pieces : Word)
  | operator (symbol : String)
  /-- The symbol of a redirection, and the digit before it. -/
  | redirection (digit : Option Nat) (symbol : String)
  | lineEnd
  | finish
  deriving Inhabited

/-- The reserved words. -/
def reservedWords : List String :=
  ["!", "case", "do", "done", "elif", "else", "esac", "fi", "for", "if", "in", "then", "until",
    "while", "\x7b", "\x7d"]

/-- The reserved word that a token is. -/
def Token.reserved? : Token → Option String
  | word pieces =>
    match plainText? pieces with
    | some text => if text ∈ reservedWords then some text else none
    | none => none
  | _ => none

/-- A text in the marks in which messages show it. -/
def marked (text : String) : String := "\"" ++ text ++ "\""

/-- How messages name a token. -/
def Token.shown (token : Token) : String :=
  match token.reserved?, token with
  | some text, _ => marked text
  | none, word _ => "word"
  | none, operator symbol => marked symbol
  | none, redirection .. => "redirection"
  | none, lineEnd => "newline"
  | none, finish => "end of file"

/-- Whether a token is the end of the script. -/
def Token.isFinish : Token → Bool
  | finish => true
  | _ => false

/-! ### Errors -/

/-- What is wrong with a script. -/
inductive Flaw
  | unexpected (found : String) (expected : Option String)
  | openQuote
  | openBackQuote
  | openBrace
  | openArithmetic
  | loopVariable
  | functionName
  | descriptor
  deriving DecidableEq, Repr

/-- The wording of what is wrong with a script. -/
def Flaw.message : Flaw → String
  | unexpected found none => found ++ " unexpected"
  | unexpected found (some expected) => found ++ " unexpected (expecting " ++ expected ++ ")"
  | openQuote => "Unterminated quoted string"
  | openBackQuote => "EOF in backquote substitution"
  | openBrace => "Missing '\x7d'"
  | openArithmetic => "Missing '))'"
  | loopVariable => "Bad for loop variable"
  | functionName => "Bad function name"
  | descriptor => "Bad fd number"

/-- What is wrong with a script, and at which line. -/
structure Misreading where
  line : Nat
  flaw : Flaw
  deriving DecidableEq, Repr

/-! ### Sources -/

/-- What is left of a script. -/
structure Source where
  text : List Char
  line : Nat := 1
  /-- A token that was looked at. -/
  ahead : Option Token := none
  /-- What follows the documents below the present line, and the line it begins at. -/
  beyond : Option (List Char × Nat) := none
  /-- Names that stand for other texts where a command begins. -/
  aliases : List (String × String) := []
  /-- Names in whose text the reading is, with what is left behind each text. -/
  inUse : List (String × Nat) := []

/-- Reading from a source. -/
abbrev Reading := StateT Source (Except Misreading)

/-- Ends the reading. -/
def Reading.fail {α : Type} (flaw : Flaw) : Reading α := fun source =>
  .error ⟨source.line, flaw⟩

/-- What is left after the end of the present line was taken. -/
def Source.nextLine (source : Source) (rest : List Char) : Source :=
  match source.beyond with
  | some (text, line) => { source with text, line, beyond := none }
  | none => { source with text := rest, line := source.line + 1 }

/-- What is left after a character was taken. -/
def Source.after (source : Source) (first : Char) (rest : List Char) : Source :=
  if first = '\n' then source.nextLine rest else { source with text := rest }

/-- The number of line ends in a text. -/
def lineEndsIn (text : List Char) : Nat := text.countP (· = '\n')

/-! ### Characters -/

/-- Whether a character is the quote that encloses a command by itself. -/
def isBackQuote (character : Char) : Bool := character.toNat = 0x60

/-- Whether a character ends a word that is not quoted. -/
def isBreak (character : Char) : Bool :=
  isBlank character || character = '\n' || character = ';' || character = '&'
    || character = '|' || character = '<' || character = '>' || character = '('
    || character = ')'

/-- Whether a character is a parameter by itself. -/
def isSpecial (character : Char) : Bool :=
  isDigit character || character = '*' || character = '@' || character = '#' || character = '?'
    || character = '$' || character = '!' || character = '-'

/-- The text without blanks, joined lines and a remark at its start, and how many lines were
joined. -/
def skipBlanks (budget joined : Nat) (text : List Char) : List Char × Nat :=
  match budget with
  | 0 => (text, joined)
  | budget + 1 =>
    match text with
    | '\\' :: '\n' :: rest => skipBlanks budget (joined + 1) rest
    | '#' :: rest => (rest.dropWhile (· ≠ '\n'), joined)
    | first :: rest => if isBlank first then skipBlanks budget joined rest else (text, joined)
    | [] => ([], joined)

/-- The symbols of operators, longer ones first. -/
def operatorSymbols : List String := [";;", ";", "&&", "&", "||", "|", "(", ")"]

/-- The symbols of redirections, longer ones first. -/
def redirectionSymbols : List String := ["<<-", "<<", "<&", "<>", "<", ">>", ">&", ">|", ">"]

/-- The first of some symbols that a text starts with, and the rest. -/
def takeSymbol? (symbols : List String) (text : List Char) : Option (String × List Char) :=
  (symbols.find? fun symbol => symbol.toList.isPrefixOf text).map fun symbol =>
    (symbol, text.drop symbol.length)

/-! ### Documents -/

/-- The lines of a text after its first line end that is not quoted. -/
def belowLine (quote : Option Char) : List Char → Nat → List Char × Nat
  | [], lines => ([], lines)
  | '\\' :: next :: rest, lines =>
    if quote = some '\'' then
      belowLine (if next = '\'' then none else quote) rest
        (if next = '\n' then lines + 1 else lines)
    else belowLine quote rest (if next = '\n' then lines + 1 else lines)
  | first :: rest, lines =>
    match quote with
    | some mark =>
      belowLine (if first = mark then none else quote) rest
        (if first = '\n' then lines + 1 else lines)
    | none =>
      if first = '\n' then (rest, lines + 1)
      else belowLine (if first = '\'' ∨ first = '"' then some first else none) rest lines

/-- The lines of a document up to the one that ends it, what follows it, and how many lines that
were. -/
def documentLines (budget : Nat) (mark : List Char) (withoutTabs : Bool) (text : List Char) :
    List Char × List Char × Nat :=
  match budget with
  | 0 => ([], text, 0)
  | budget + 1 =>
    if text.isEmpty then ([], [], 0)
    else
      let raw := text.takeWhile (· ≠ '\n')
      let line := if withoutTabs then raw.dropWhile (· = '\t') else raw
      let rest := (text.drop raw.length).drop 1
      let ended := text.length = raw.length
      if line = mark then ([], rest, 1)
      else
        let (further, rest, lines) := documentLines budget mark withoutTabs rest
        (line ++ (if ended then [] else '\n' :: further), rest, lines + 1)

/-- Takes the document that a mark ends from below the present line. -/
def takeDocument (mark : List Char) (withoutTabs : Bool) : Reading (List Char × Nat) :=
  fun source =>
    let (text, line) := source.beyond.getD (belowLine none source.text source.line)
    let (document, rest, lines) := documentLines (text.length + 1) mark withoutTabs text
    .ok ((document, line), { source with beyond := some (rest, line + lines) })

end EditorSession.Shell
