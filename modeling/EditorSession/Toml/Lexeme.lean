import EditorSession.Json.Reader

/-!
# Lexemes of TOML

Blanks, comments, line ends, keys and the four kinds of strings. A reader takes a text and yields
what it read with the rest of the text, or nothing where the text does not start that way.
-/

namespace EditorSession.Toml

/-- Blanks within a line. -/
def isGap (character : Char) : Bool :=
  character = ' ' || character = '\t'

/-- The rest of a text after the blanks of its line. -/
def skipGap (text : List Char) : List Char :=
  text.dropWhile isGap

/-- Whether a character may stand in a comment or in a literal string. -/
def isPlain (character : Char) : Bool :=
  character = '\t' || (0x20 ≤ character.toNat && character.toNat ≠ 0x7F)

/-- The rest of a text after a line end. -/
def readLineEnd : List Char → Option (List Char)
  | '\n' :: rest => some rest
  | '\r' :: '\n' :: rest => some rest
  | _ => none

/-- The rest of a text after the comment it may start with. -/
def skipComment : List Char → List Char
  | '#' :: rest => rest.dropWhile isPlain
  | text => text

/-- The rest of a text after what may follow an expression on its line. -/
def finishLine (text : List Char) : Option (List Char) :=
  match skipComment (skipGap text) with
  | [] => some []
  | rest => readLineEnd rest

/-- The rest of a text after blanks, line ends and comments. -/
def skipLines (budget : Nat) (text : List Char) : List Char :=
  match budget with
  | 0 => text
  | budget + 1 =>
    match text with
    | ' ' :: rest | '\t' :: rest | '\n' :: rest | '\r' :: '\n' :: rest => skipLines budget rest
    | '#' :: rest => skipLines budget (rest.dropWhile isPlain)
    | text => text

/-- The rest of a text after blanks and line ends. -/
def skipBlankLines : List Char → List Char
  | ' ' :: rest | '\t' :: rest | '\n' :: rest | '\r' :: '\n' :: rest => skipBlankLines rest
  | text => text

/-- The character that a one-letter escape names. -/
def namedEscape? (letter : Char) : Option Char :=
  match letter with
  | '"' => some '"'
  | '\\' => some '\\'
  | 'b' => some '\x08'
  | 'f' => some '\x0c'
  | 'n' => some '\n'
  | 'r' => some '\r'
  | 't' => some '\t'
  | _ => none

/-- The character of a code point, unless it is a surrogate or too large. -/
def scalar? (code : Nat) : Option Char :=
  if code.isValidChar then some (Char.ofNat code) else none

/-- An escape after its backslash. -/
def readEscape : List Char → Option (Char × List Char)
  | 'u' :: first :: second :: third :: fourth :: rest => do
    let code ← Json.hexQuad? first second third fourth
    let character ← scalar? code
    return (character, rest)
  | 'U' :: first :: second :: third :: fourth :: fifth :: sixth :: seventh :: eighth :: rest => do
    let high ← Json.hexQuad? first second third fourth
    let low ← Json.hexQuad? fifth sixth seventh eighth
    let character ← scalar? (high * 0x10000 + low)
    return (character, rest)
  | letter :: rest => (namedEscape? letter).map fun character => (character, rest)
  | [] => none

/-- A string of one line after its opening mark. -/
def readBasic (budget : Nat) (read : List Char) (text : List Char) :
    Option (String × List Char) :=
  match budget with
  | 0 => none
  | budget + 1 =>
    match text with
    | [] => none
    | '"' :: rest => some (String.ofList read.reverse, rest)
    | '\\' :: rest =>
      match readEscape rest with
      | none => none
      | some (character, rest) => readBasic budget (character :: read) rest
    | character :: rest =>
      if isPlain character then readBasic budget (character :: read) rest else none

/-- A literal string of one line after its opening mark. -/
def readLiteral (text : List Char) : Option (String × List Char) :=
  let isInside := fun character => isPlain character && character ≠ '\''
  match text.dropWhile isInside with
  | '\'' :: rest => some (String.ofList (text.takeWhile isInside), rest)
  | _ => none

/-- The rest of a text after the first line end, if it starts with one. -/
def dropFirstLineEnd (text : List Char) : List Char :=
  (readLineEnd text).getD text

/-- The marks that end a string of several lines: up to two more may belong to the string. -/
def readClosing (mark : Char) (text : List Char) : Option (Nat × List Char) :=
  let marks := (text.takeWhile (· = mark)).length
  if marks < 3 then none else some (min marks 5 - 3, text.drop (min marks 5))

/-- A string of several lines after its opening marks. A backslash at the end of a line joins it to
the next line that is not blank. -/
def readBasicLines (budget : Nat) (read : List Char) (text : List Char) :
    Option (String × List Char) :=
  match budget with
  | 0 => none
  | budget + 1 =>
    match readClosing '"' text with
    | some (extra, rest) =>
      some (String.ofList (read.reverse ++ List.replicate extra '"'), rest)
    | none =>
      match text with
      | [] => none
      | '"' :: rest => readBasicLines budget ('"' :: read) rest
      | '\n' :: rest | '\r' :: '\n' :: rest => readBasicLines budget ('\n' :: read) rest
      | '\\' :: rest =>
        match readLineEnd (skipGap rest) with
        | some rest => readBasicLines budget read (skipBlankLines rest)
        | none =>
          match readEscape rest with
          | none => none
          | some (character, rest) => readBasicLines budget (character :: read) rest
      | character :: rest =>
        if isPlain character then readBasicLines budget (character :: read) rest else none

/-- A literal string of several lines after its opening marks. -/
def readLiteralLines (budget : Nat) (read : List Char) (text : List Char) :
    Option (String × List Char) :=
  match budget with
  | 0 => none
  | budget + 1 =>
    match readClosing '\'' text with
    | some (extra, rest) =>
      some (String.ofList (read.reverse ++ List.replicate extra '\''), rest)
    | none =>
      match text with
      | [] => none
      | '\n' :: rest | '\r' :: '\n' :: rest => readLiteralLines budget ('\n' :: read) rest
      | character :: rest =>
        if isPlain character then readLiteralLines budget (character :: read) rest else none

/-- A string of any kind. -/
def readString (text : List Char) : Option (String × List Char) :=
  let budget := text.length + 1
  match text with
  | '"' :: '"' :: '"' :: rest => readBasicLines budget [] (dropFirstLineEnd rest)
  | '\'' :: '\'' :: '\'' :: rest => readLiteralLines budget [] (dropFirstLineEnd rest)
  | '"' :: rest => readBasic budget [] rest
  | '\'' :: rest => readLiteral rest
  | _ => none

/-- Whether a character may stand in a key without marks. -/
def isBare (character : Char) : Bool :=
  ('a' ≤ character && character ≤ 'z') || ('A' ≤ character && character ≤ 'Z')
    || ('0' ≤ character && character ≤ '9') || character = '_' || character = '-'

/-- One segment of a key. -/
def readSegment (text : List Char) : Option (String × List Char) :=
  match text with
  | '"' :: rest => readBasic (text.length + 1) [] rest
  | '\'' :: rest => readLiteral rest
  | text =>
    let segment := text.takeWhile isBare
    if segment.isEmpty then none else some (String.ofList segment, text.dropWhile isBare)

/-- The segments of a key, between points. -/
def readSegments (budget : Nat) (text : List Char) : Option (List String × List Char) :=
  match budget with
  | 0 => none
  | budget + 1 =>
    match readSegment (skipGap text) with
    | none => none
    | some (segment, rest) =>
      match skipGap rest with
      | '.' :: rest =>
        (readSegments budget rest).map fun (segments, rest) => (segment :: segments, rest)
      | rest => some ([segment], rest)

/-- The number of levels at which a document is refused: of brackets, and of segments of a key. -/
def nestingLimit : Nat := 80

/-- A key: the segments before the last, and the last. -/
def readKey (text : List Char) : Option (List String × String × List Char) :=
  match readSegments (text.length + 1) text with
  | none => none
  | some (segments, rest) =>
    if nestingLimit ≤ segments.length then none
    else segments.getLast?.map fun last => (segments.dropLast, last, rest)

end EditorSession.Toml
