import EditorSession.Shell.Pattern

/-!
# Regular expressions

Regular expressions in the two notations of POSIX: the basic one, in which brackets count only
behind a backslash, and the extended one, in which they count without. Of the matches that begin
first in a text, the longest is found; of two ways to make it, the one whose earlier parts are
longer.
-/

namespace EditorSession.Shell

/-- A regular expression. -/
inductive Regex
  | empty
  | any
  | exactly (character : Char)
  | oneOf (set : CharacterSet)
  | followed (first second : Regex)
  | either (first second : Regex)
  | repeated (body : Regex) (least : Nat) (most : Option Nat)
  | group (number : Nat) (body : Regex)
  /-- The text that a group took. -/
  | again (number : Nat)
  | start
  | finish
  /-- The edge of a word, or a place that is none. -/
  | edge (isEdge : Bool)
  | wordStart
  | wordFinish
  deriving Inhabited

namespace Regex

/-- The number of parts of an expression. -/
def size : Regex → Nat
  | followed first second | either first second => first.size + second.size + 1
  | repeated body least most => (body.size + 2) * (1 + least + most.getD 0)
  | group _ body => body.size + 2
  | _ => 1

/-! ### Matching -/

/-- The places that groups took, as the offsets at which they begin and end. -/
abbrev Groups := List (Nat × Nat × Nat)

/-- A match: the offsets at which it begins and ends, and its groups. -/
structure Found where
  start : Nat
  finish : Nat
  groups : Groups
  deriving Inhabited

/-- What is left to match. -/
inductive Demand
  | part (part : Regex)
  /-- The end of a group that began at an offset. -/
  | close (number start : Nat)
  /-- Something must have been taken since an offset. -/
  | progress (start : Nat)

/-- Whether a character belongs to a word. -/
def isWordChar (character : Char) : Bool := isNameChar character

/-- Whether a word ends or begins at an offset. -/
def wordSides (text : Array Char) (offset : Nat) : Bool × Bool :=
  let before := if offset = 0 then none else text[offset - 1]?
  ((before.map isWordChar).getD false, ((text[offset]?).map isWordChar).getD false)

/-- A character without regard to case. -/
def folded (ignoresCase : Bool) (character : Char) : Char :=
  if ignoresCase then character.toLower else character

/-- Whether a set has a character, perhaps in its other case. -/
def setAccepts (ignoresCase : Bool) (set : CharacterSet) (character : Char) : Bool :=
  if ignoresCase then
    let found :=
      set.parts.any fun part => part.contains character.toLower || part.contains character.toUpper
    set.isExcluded != found
  else set.contains character

/-- Whether two stretches of a text are equal. -/
def sameText (text : Array Char) (ignoresCase : Bool) (first second length : Nat) : Bool :=
  (List.range length).all fun step =>
    (text[first + step]?).map (folded ignoresCase) ==
      (text[second + step]?).map (folded ignoresCase)

/-- The longest match from an offset on that meets demands, or one that was found before. -/
def explore (budget : Nat) (ignoresCase : Bool) (text : Array Char) (start offset : Nat)
    (groups : Groups) (demands : List Demand) (best : Option Found) : Option Found :=
  match budget with
  | 0 => best
  | budget + 1 =>
    if (best.map (·.finish == text.size)).getD false then best
    else
      match demands with
      | [] =>
        match best with
        | some found =>
          if found.finish < offset then some ⟨start, offset, groups⟩ else best
        | none => some ⟨start, offset, groups⟩
      | .close number first :: rest =>
        let groups := (number, first, offset) :: groups.filter fun kept => kept.1 ≠ number
        explore budget ignoresCase text start offset groups rest best
      | .progress before :: rest =>
        if before = offset then best
        else explore budget ignoresCase text start offset groups rest best
      | .part part :: rest =>
        let goOn (offset : Nat) := explore budget ignoresCase text start offset groups rest best
        match part with
        | .empty => goOn offset
        | .any => if offset < text.size then goOn (offset + 1) else best
        | .exactly expected =>
          match text[offset]? with
          | some character =>
            if folded ignoresCase character = folded ignoresCase expected then goOn (offset + 1)
            else best
          | none => best
        | .oneOf set =>
          match text[offset]? with
          | some character =>
            if setAccepts ignoresCase set character then goOn (offset + 1) else best
          | none => best
        | .followed first second =>
          explore budget ignoresCase text start offset groups
            (.part first :: .part second :: rest) best
        | .either first second =>
          let best := explore budget ignoresCase text start offset groups
            (.part first :: rest) best
          explore budget ignoresCase text start offset groups (.part second :: rest) best
        | .repeated body least most =>
          let best :=
            if most = some 0 then best
            else
              let further := Demand.part (.repeated body (least - 1) (most.map (· - 1)))
              let demands :=
                if least = 0 then .part body :: .progress offset :: further :: rest
                else .part body :: further :: rest
              explore budget ignoresCase text start offset groups demands best
          if least = 0 then explore budget ignoresCase text start offset groups rest best
          else best
        | .group number body =>
          explore budget ignoresCase text start offset groups
            (.part body :: .close number offset :: rest) best
        | .again number =>
          match groups.lookup number with
          | some (first, last) =>
            if sameText text ignoresCase first offset (last - first) then
              goOn (offset + (last - first))
            else best
          | none => best
        | .start => if offset = 0 then goOn offset else best
        | .finish => if offset = text.size then goOn offset else best
        | .edge isEdge =>
          let (before, after) := wordSides text offset
          if (before != after) == isEdge then goOn offset else best
        | .wordStart =>
          let (before, after) := wordSides text offset
          if !before && after then goOn offset else best
        | .wordFinish =>
          let (before, after) := wordSides text offset
          if before && !after then goOn offset else best

/-- The longest match that begins at an offset. -/
def matchAt? (regex : Regex) (ignoresCase : Bool) (text : Array Char) (offset : Nat) :
    Option Found :=
  explore ((regex.size + 4) * (text.size + 4)) ignoresCase text offset offset [] [.part regex] none

/-- The first of the longest matches from an offset on, looking at so many offsets. -/
def findFrom? (regex : Regex) (ignoresCase : Bool) (text : Array Char) (offset : Nat) :
    Nat → Option Found
  | 0 => none
  | count + 1 =>
    match regex.matchAt? ignoresCase text offset with
    | some found => some found
    | none => regex.findFrom? ignoresCase text (offset + 1) count

/-- The first match from an offset on. -/
def find? (regex : Regex) (ignoresCase : Bool) (text : Array Char) (offset : Nat) : Option Found :=
  regex.findFrom? ignoresCase text offset (text.size + 1 - offset)

/-! ### Reading -/

/-- What is wrong with an expression. -/
inductive Flaw
  | openBracket
  | openGroup
  | unopenedGroup
  | trailingBackslash
  | missingGroup
  | badRepetition
  deriving DecidableEq, Repr

/-- The wording of what is wrong with an expression. -/
def Flaw.message : Flaw → String
  | openBracket => "unterminated address regex"
  | openGroup => "Unmatched ( or \\("
  | unopenedGroup => "Unmatched ) or \\)"
  | trailingBackslash => "Trailing backslash"
  | missingGroup => "Invalid back reference"
  | badRepetition => "Invalid preceding regular expression"

/-- The set of characters that a letter behind a backslash stands for. -/
def escapedSet? (letter : Char) : Option CharacterSet :=
  let word : List CharacterSet.Part := [.ofClass "alnum", .range '_' '_']
  match letter with
  | 'w' => some ⟨false, word⟩
  | 'W' => some ⟨true, word⟩
  | 's' => some ⟨false, [.ofClass "space"]⟩
  | 'S' => some ⟨true, [.ofClass "space"]⟩
  | _ => none

/-- The place that a letter behind a backslash stands for. -/
def escapedPlace? (letter : Char) : Option Regex :=
  match letter with
  | 'b' => some (.edge true)
  | 'B' => some (.edge false)
  | '<' => some .wordStart
  | '>' => some .wordFinish
  | _ => none

/-- The control character that a letter behind a backslash stands for. -/
def escapedControl? (letter : Char) : Option Char :=
  match letter with
  | 'n' => some '\n'
  | 't' => some '\t'
  | 'r' => some '\r'
  | 'f' => some (Char.ofNat 0x0C)
  | 'v' => some (Char.ofNat 0x0B)
  | 'a' => some (Char.ofNat 0x07)
  | _ => none

/-- The set between brackets, and the rest behind it. With `hasControls` letters behind a backslash
are control characters there too. -/
def setAt? (hasControls : Bool) (text : List Char) : Option (CharacterSet × List Char) :=
  let rec mark : List Char → List (Char × Bool)
    | '\\' :: letter :: rest =>
      match hasControls, escapedControl? letter with
      | true, some control => (control, true) :: mark rest
      | _, _ => ('\\', true) :: mark (letter :: rest)
    | first :: rest => (first, first = '\\') :: mark rest
    | [] => []
  let (isExcluded, inner) : Bool × List Char :=
    match text with
    | '^' :: inner => (true, inner)
    | inner => (false, inner)
  match CharacterSet.readParts (inner.length + 1) true [] (mark inner) with
  | some (parts, after) => some (⟨isExcluded, parts⟩, after.map Prod.fst)
  | none => none

/-- The bounds between the brackets of a repetition, and the rest behind them. -/
def boundsAt? (isExtended : Bool) (text : List Char) :
    Option ((Nat × Option Nat) × List Char) :=
  let least := text.takeWhile isDigit
  let rest := text.drop least.length
  let (bounds, rest) : (Nat × Option Nat) × List Char :=
    match rest with
    | ',' :: rest =>
      let most := rest.takeWhile isDigit
      ((decimalValue least, if most.isEmpty then none else some (decimalValue most)),
        rest.drop most.length)
    | rest => ((decimalValue least, some (decimalValue least)), rest)
  match isExtended, rest with
  | true, '\x7d' :: rest => some (bounds, rest)
  | false, '\\' :: '\x7d' :: rest => some (bounds, rest)
  | _, _ => none

/-- How an expression is read. -/
structure Notation where
  isExtended : Bool
  /-- Whether letters behind a backslash are control characters. -/
  hasControls : Bool := false

/-- The state of reading an expression. -/
structure Rest where
  text : List Char
  /-- The number of groups that were opened. -/
  opened : Nat := 0

/-- A sign of an expression. -/
inductive Sign
  | single (regex : Regex)
  | opening | closing | bar
  | star | plus | question
  | bounds (least : Nat) (most : Option Nat)
  | caret | dollar
  | backReference (number : Nat)

/-- The next sign, and the text behind it. -/
def signAt? (style : Notation) (text : List Char) : Except Flaw (Option (Sign × List Char)) :=
  match text with
  | [] => .ok none
  | ['\\'] => .error .trailingBackslash
  | '\\' :: letter :: rest =>
    let single (regex : Regex) : Except Flaw (Option (Sign × List Char)) :=
      .ok (some (.single regex, rest))
    if '1' ≤ letter ∧ letter ≤ '9' then
      .ok (some (.backReference (letter.toNat - 48), rest))
    else
      match style.isExtended, letter with
      | false, '(' => .ok (some (.opening, rest))
      | false, ')' => .ok (some (.closing, rest))
      | false, '|' => .ok (some (.bar, rest))
      | false, '+' => .ok (some (.plus, rest))
      | false, '?' => .ok (some (.question, rest))
      | false, '\x7b' =>
        match boundsAt? false rest with
        | some ((least, most), rest) => .ok (some (.bounds least most, rest))
        | none => .error .badRepetition
      | _, _ =>
        match escapedSet? letter, escapedPlace? letter,
            (if style.hasControls then escapedControl? letter else none) with
        | some set, _, _ => single (.oneOf set)
        | _, some place, _ => single place
        | _, _, some control => single (.exactly control)
        | _, _, _ => single (.exactly letter)
  | '[' :: rest =>
    match setAt? style.hasControls rest with
    | some (set, rest) => .ok (some (.single (.oneOf set), rest))
    | none => .error .openBracket
  | '.' :: rest => .ok (some (.single .any, rest))
  | '*' :: rest => .ok (some (.star, rest))
  | '^' :: rest => .ok (some (.caret, rest))
  | '$' :: rest => .ok (some (.dollar, rest))
  | first :: rest =>
    match style.isExtended, first with
    | true, '(' => .ok (some (.opening, rest))
    | true, ')' => .ok (some (.closing, rest))
    | true, '|' => .ok (some (.bar, rest))
    | true, '+' => .ok (some (.plus, rest))
    | true, '?' => .ok (some (.question, rest))
    | true, '\x7b' =>
      match boundsAt? true rest with
      | some ((least, most), rest) => .ok (some (.bounds least most, rest))
      | none => .ok (some (.single (.exactly first), rest))
    | _, _ => .ok (some (.single (.exactly first), rest))

/-- Two expressions one after the other. -/
def join (first second : Regex) : Regex :=
  match first with
  | .empty => second
  | first => .followed first second

/-- Whether a branch of a basic expression ends before a text. -/
def endsBranch (style : Notation) (text : List Char) : Bool :=
  match text with
  | [] => true
  | '\\' :: ')' :: _ | '\\' :: '|' :: _ => !style.isExtended
  | _ => style.isExtended

mutual

/-- Branches, and the text behind them. -/
def readBranches (budget : Nat) (style : Notation) (rest : Rest) : Except Flaw (Regex × Rest) :=
  match budget with
  | 0 => .error .openGroup
  | budget + 1 => do
    let (first, rest) ← readBranch budget style .empty none true rest
    match ← signAt? style rest.text with
    | some (.bar, text) =>
      let (second, rest) ← readBranches budget style { rest with text }
      return (.either first second, rest)
    | _ => return (first, rest)

/-- A branch; `done` is what is read before `last`, which a repetition may still take. -/
def readBranch (budget : Nat) (style : Notation) (done : Regex) (last : Option Regex)
    (isStart : Bool) (rest : Rest) : Except Flaw (Regex × Rest) :=
  match budget with
  | 0 => .error .openGroup
  | budget + 1 => do
    let finished :=
      match last with
      | some last => join done last
      | none => done
    let goOn (next : Regex) (text : List Char) :=
      readBranch budget style finished (some next) false { rest with text }
    let repeatLast (least : Nat) (most : Option Nat) (sign : Char) (text : List Char) :=
      match last with
      | some last =>
        readBranch budget style done (some (.repeated last least most)) false { rest with text }
      | none =>
        if style.isExtended && !isStart then throw .badRepetition
        else if style.isExtended then readBranch budget style done none isStart { rest with text }
        else readBranch budget style finished (some (.exactly sign)) false { rest with text }
    match ← signAt? style rest.text with
    | none => return (finished, rest)
    | some (sign, text) =>
      match sign with
      | .single regex => goOn regex text
      | .star => repeatLast 0 none '*' text
      | .plus => repeatLast 1 none '+' text
      | .question => repeatLast 0 (some 1) '?' text
      | .bounds least most => repeatLast least most '\x7b' text
      | .caret =>
        if style.isExtended || isStart then
          readBranch budget style (join finished .start) none (!style.isExtended && isStart)
            { rest with text }
        else goOn (.exactly '^') text
      | .dollar =>
        if endsBranch style text then
          readBranch budget style (join finished .finish) none false { rest with text }
        else goOn (.exactly '$') text
      | .backReference number =>
        if number ≤ rest.opened then goOn (.again number) text else throw .missingGroup
      | .opening =>
        let number := rest.opened + 1
        let (inner, rest) ← readBranches budget style { text, opened := number }
        match ← signAt? style rest.text with
        | some (.closing, text) =>
          readBranch budget style finished (some (.group number inner)) false { rest with text }
        | _ => throw .openGroup
      | .closing | .bar => return (finished, rest)

end

/-- The expression that a text writes. -/
def ofText (style : Notation) (text : String) : Except Flaw Regex := do
  let (regex, rest) ← readBranches (4 * text.length + 20) style { text := text.toList }
  if rest.text.isEmpty then return regex else throw .unopenedGroup

end Regex

end EditorSession.Shell
