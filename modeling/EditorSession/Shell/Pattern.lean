import EditorSession.Shell.Plain

/-!
# Patterns

Patterns fit whole texts: a star fits any text, a question mark any character, and brackets one of
the characters that they name by themselves, in ranges or by the class they belong to. What was
quoted fits itself alone.
-/

namespace EditorSession.Shell

/-- Whether a character belongs to the class of a name. -/
def isInClass (name : String) (character : Char) : Bool :=
  let code := character.toNat
  let isUpper := 'A' ≤ character && character ≤ 'Z'
  let isLower := 'a' ≤ character && character ≤ 'z'
  let isGraphic := 0x21 ≤ code && code ≤ 0x7E
  match name with
  | "alpha" => isUpper || isLower
  | "digit" => isDigit character
  | "alnum" => isUpper || isLower || isDigit character
  | "upper" => isUpper
  | "lower" => isLower
  | "space" => isSpace character
  | "blank" => isBlank character
  | "cntrl" => code < 0x20 || code == 0x7F
  | "graph" => isGraphic
  | "print" => isGraphic || code == 0x20
  | "punct" => isGraphic && !(isUpper || isLower || isDigit character)
  | "xdigit" => isDigitOf 16 character
  | _ => false

/-- The names of the classes of characters. -/
def classNames : List String :=
  ["alpha", "digit", "alnum", "upper", "lower", "space", "blank", "cntrl", "graph", "print",
    "punct", "xdigit"]

/-- A part of a set of characters. -/
inductive CharacterSet.Part
  | range (first last : Char)
  | ofClass (name : String)
  deriving DecidableEq, Repr

/-- A set of characters: those in one of the parts, or those in none of them. -/
structure CharacterSet where
  isExcluded : Bool
  parts : List CharacterSet.Part
  deriving DecidableEq, Repr

namespace CharacterSet

/-- Whether a character is in a part of a set. -/
def Part.contains : Part → Char → Bool
  | range first last, character => first ≤ character && character ≤ last
  | ofClass name, character => isInClass name character

/-- Whether a character is in a set. -/
def contains (set : CharacterSet) (character : Char) : Bool :=
  set.isExcluded != set.parts.any (·.contains character)

/-- The class that the text behind an opening bracket names, and the rest behind its closing
bracket. -/
def classAt? (text : List (Char × Bool)) : Option (String × List (Char × Bool)) :=
  match text with
  | (':', false) :: rest =>
    let name := String.ofList ((rest.takeWhile (·.1 ≠ ':')).map Prod.fst)
    match rest.dropWhile (·.1 ≠ ':') with
    | (':', false) :: (']', false) :: after =>
      if name ∈ classNames then some (name, after) else none
    | _ => none
  | _ => none

/-- The parts of a set up to its closing bracket, and the rest behind it. A bracket at the start
stands for itself. -/
def readParts (budget : Nat) (isStart : Bool) (found : List Part) (text : List (Char × Bool)) :
    Option (List Part × List (Char × Bool)) :=
  match budget with
  | 0 => none
  | budget + 1 =>
    match text with
    | [] => none
    | ('[', false) :: rest =>
      match classAt? rest with
      | some (name, after) => readParts budget false (.ofClass name :: found) after
      | none => readRange budget '[' found rest
    | (']', false) :: rest =>
      if isStart then readRange budget ']' found rest else some (found.reverse, rest)
    | ('\\', false) :: (first, _) :: rest => readRange budget first found rest
    | (first, _) :: rest => readRange budget first found rest
where
  /-- A character, or the range that it begins. -/
  readRange (budget : Nat) (first : Char) (found : List Part) (rest : List (Char × Bool)) :
      Option (List Part × List (Char × Bool)) :=
    match rest with
    | ('-', false) :: (last, isQuoted) :: after =>
      if last = ']' ∧ !isQuoted then readParts budget false (.range first first :: found) rest
      else readParts budget false (.range first last :: found) after
    | _ => readParts budget false (.range first first :: found) rest

end CharacterSet

/-- A part of a pattern. -/
inductive Pattern.Element
  | exactly (character : Char)
  | anyCharacter
  | anyText
  | oneOf (set : CharacterSet)
  deriving DecidableEq, Repr

/-- A pattern. -/
abbrev Pattern := List Pattern.Element

namespace Pattern

/-- Whether a part that stands for one character fits a character. -/
def Element.accepts : Element → Char → Bool
  | exactly expected, character => expected = character
  | anyCharacter, _ => true
  | anyText, _ => false
  | oneOf set, character => set.contains character

/-- The ends of a text, the whole text first. -/
def endsOf : List Char → List (List Char)
  | [] => [[]]
  | first :: rest => (first :: rest) :: endsOf rest

/-- Whether a pattern fits a whole text. -/
def fits : Pattern → List Char → Bool
  | [], text => text.isEmpty
  | [.anyText], _ => true
  | .anyText :: rest, text => (endsOf text).any (fits rest)
  | _ :: _, [] => false
  | element :: rest, character :: text => element.accepts character && fits rest text

/-- The pattern that characters make; each of them comes with whether it was quoted. -/
def ofCharacters (budget : Nat) (characters : List (Char × Bool)) : Pattern :=
  match budget with
  | 0 => []
  | budget + 1 =>
    match characters with
    | [] => []
    | ('*', false) :: rest => .anyText :: ofCharacters budget rest
    | ('?', false) :: rest => .anyCharacter :: ofCharacters budget rest
    | ('\\', false) :: (character, _) :: rest =>
      .exactly character :: ofCharacters budget rest
    | ('[', false) :: rest =>
      let (isExcluded, inner) : Bool × List (Char × Bool) :=
        match rest with
        | ('!', false) :: inner => (true, inner)
        | inner => (false, inner)
      match CharacterSet.readParts (inner.length + 1) true [] inner with
      | some (parts, after) => .oneOf ⟨isExcluded, parts⟩ :: ofCharacters budget after
      | none => .exactly '[' :: ofCharacters budget rest
    | (character, _) :: rest => .exactly character :: ofCharacters budget rest

/-- The pattern that characters make. -/
def ofMarked (characters : List (Char × Bool)) : Pattern :=
  ofCharacters (characters.length + 1) characters

/-- Whether a pattern fits more than one text. -/
def isGeneral (pattern : Pattern) : Bool :=
  pattern.any fun element =>
    match element with
    | .exactly _ => false
    | _ => true

/-- What is left of a text without the shortest or the longest start that a pattern fits. -/
def withoutStart (pattern : Pattern) (longest : Bool) (text : List Char) : List Char :=
  let lengths := List.range (text.length + 1)
  let lengths := if longest then lengths.reverse else lengths
  match lengths.find? fun length => pattern.fits (text.take length) with
  | some length => text.drop length
  | none => text

/-- What is left of a text without the shortest or the longest end that a pattern fits. -/
def withoutEnd (pattern : Pattern) (longest : Bool) (text : List Char) : List Char :=
  let lengths := List.range (text.length + 1)
  let lengths := if longest then lengths else lengths.reverse
  match lengths.find? fun length => pattern.fits (text.drop length) with
  | some length => text.take length
  | none => text

end Pattern

end EditorSession.Shell
