import EditorSession.Shell.Plain

/-!
# Conditions

The expressions of `test`. Words are read from left to right, and a word that could be an operator
is an operand where the number of words leaves nothing else; every part of an expression is looked
at, even when an earlier part has decided it.
-/

namespace EditorSession.Shell.Condition

/-- The part that a word may play. -/
inductive Role
  /-- Asks about the word behind it. -/
  | asks
  /-- Compares the words around it. -/
  | compares
  | negates
  | both
  | either
  | opening
  | closing
  deriving DecidableEq, Repr

/-- The operators that compare two words. -/
def comparisons : List String :=
  ["=", "!=", "<", ">", "-eq", "-ne", "-gt", "-ge", "-lt", "-le", "-nt", "-ot", "-ef"]

/-- The letters of the operators that ask about one word. -/
def questions : List Char :=
  ['r', 'w', 'x', 'e', 'f', 'd', 'c', 'b', 'p', 'u', 'g', 'k', 's', 't', 'z', 'n', 'h', 'L', 'S',
    'O', 'G']

/-- The part that a word may play. -/
def role? (word : String) : Option Role :=
  match word with
  | "!" => some .negates
  | "-a" => some .both
  | "-o" => some .either
  | "(" => some .opening
  | ")" => some .closing
  | _ =>
    if word ∈ comparisons then some .compares
    else
      match word.toList with
      | ['-', letter] => if letter ∈ questions then some .asks else none
      | _ => none

/-- What is known of files and descriptors. -/
structure Facts where
  /-- Whether a question about a path is to be answered with yes. -/
  holds : Char → String → Bool
  /-- Whether two paths compare as an operator says. -/
  relates : String → String → String → Bool

/-- Whether the first of some words is an operand although it could ask. -/
def isOperand (words : List String) : Bool :=
  match words with
  | [_] | [] => true
  | [_, _] => false
  | _ :: next :: _ => role? next == some .compares

/-- The part that the first of some words plays; an operand plays none. -/
def roleOf (words : List String) : Option Role :=
  match words with
  | [] => none
  | word :: rest =>
    match role? word with
    | some .asks => if isOperand words then none else some .asks
    | some .opening => if rest.isEmpty then none else some .opening
    | role => role

/-- The number that a word is. -/
def numberOf (word : String) : Except String Int :=
  let refused : Except String Int := .error ("Illegal number: " ++ word)
  let text := word.toList.dropWhile isSpace
  let (isNegative, digits) : Bool × List Char :=
    match text with
    | '-' :: digits => (true, digits)
    | '+' :: digits => (false, digits)
    | digits => (false, digits)
  let found := digits.takeWhile isDigit
  let rest := digits.drop found.length
  let value : Int := decimalValue found
  if found.isEmpty || !rest.all isSpace || 9223372036854775807 < value then refused
  else .ok (if isNegative then -value else value)

/-- Whether two words compare as an operator says. -/
def compare (facts : Facts) (operator left right : String) : Except String Bool :=
  let numbers (holds : Int → Int → Bool) : Except String Bool := do
    return holds (← numberOf left) (← numberOf right)
  match operator with
  | "=" => .ok (left == right)
  | "!=" => .ok (left != right)
  | "<" => .ok (left < right)
  | ">" => .ok (right < left)
  | "-eq" => numbers fun left right => left == right
  | "-ne" => numbers fun left right => left != right
  | "-gt" => numbers fun left right => right < left
  | "-ge" => numbers fun left right => right ≤ left
  | "-lt" => numbers fun left right => left < right
  | "-le" => numbers fun left right => left ≤ right
  | _ => .ok (facts.relates operator left right)

mutual

/-- Alternatives, and the words from the last one read on. -/
def alternatives (budget : Nat) (facts : Facts) (result : Bool) (role : Option Role)
    (words : List String) : Except String (Bool × List String) :=
  match budget with
  | 0 => .ok (result, words)
  | budget + 1 => do
    let (found, words) ← conjuncts budget facts true role words
    let result := result || found
    if roleOf (words.drop 1) = some .either then
      alternatives budget facts result (roleOf (words.drop 2)) (words.drop 2)
    else return (result, words)

/-- Conjuncts, and the words from the last one read on. -/
def conjuncts (budget : Nat) (facts : Facts) (result : Bool) (role : Option Role)
    (words : List String) : Except String (Bool × List String) :=
  match budget with
  | 0 => .ok (result, words)
  | budget + 1 => do
    let (found, words) ← negated budget facts role words
    let result := result && found
    if roleOf (words.drop 1) = some .both then
      conjuncts budget facts result (roleOf (words.drop 2)) (words.drop 2)
    else return (result, words)

/-- A primary that may be negated. -/
def negated (budget : Nat) (facts : Facts) (role : Option Role) (words : List String) :
    Except String (Bool × List String) :=
  match budget with
  | 0 => .ok (false, words)
  | budget + 1 =>
    if role = some .negates then
      match words.drop 1 with
      | [] => .ok (true, words)
      | rest => do
        let (found, rest) ← negated budget facts (roleOf rest) rest
        return (!found, rest)
    else primary budget facts role words

/-- A question, a comparison, an expression in brackets or a single word. -/
def primary (budget : Nat) (facts : Facts) (role : Option Role) (words : List String) :
    Except String (Bool × List String) :=
  match budget with
  | 0 => .ok (false, words)
  | budget + 1 =>
    match words with
    | [] => .ok (false, [])
    | word :: rest =>
      match role with
      | some .opening =>
        if roleOf rest = some .closing then .ok (false, rest)
        else do
          let (found, rest) ← alternatives budget facts false (roleOf rest) rest
          if roleOf (rest.drop 1) = some .closing then return (found, rest.drop 1)
          else throw "closing paren expected"
      | some .asks =>
        match rest, word.toList with
        | [], _ => .error (word ++ ": argument expected")
        | operand :: _, ['-', letter] =>
          if letter = 'z' then .ok (operand.isEmpty, rest)
          else if letter = 'n' then .ok (!operand.isEmpty, rest)
          else .ok (facts.holds letter operand, rest)
        | _, _ => .ok (false, rest)
      | _ =>
        if roleOf rest = some .compares then
          match rest with
          | operator :: right :: after =>
            (compare facts operator word right).map fun found => (found, right :: after)
          | [operator] => .error (operator ++ ": argument expected")
          | [] => .ok (!word.isEmpty, words)
        else .ok (!word.isEmpty, words)

end

/-- Whether the expression of words holds, with the part that the first one plays. -/
def evaluateFrom (facts : Facts) (role : Option Role) (words : List String) :
    Except String Bool := do
  let (found, rest) ← alternatives (8 * words.length + 20) facts false role words
  match rest with
  | word :: _ :: _ => throw (word ++ ": unexpected operator")
  | _ => return found

/-- Whether an expression holds, or does not if it is negated. -/
def evaluate (budget : Nat) (facts : Facts) (negated : Bool) (words : List String) :
    Except String Bool :=
  match budget with
  | 0 => .ok negated
  | budget + 1 =>
    let all (role : Option Role) (words : List String) : Except String Bool :=
      (evaluateFrom facts role words).map (· != negated)
    match words with
    | [] => .ok negated
    | [_, operator, _] =>
      if role? operator = some .compares then all none words else grouped budget facts negated words
    | [_, _, _, _] => grouped budget facts negated words
    | _ => all (roleOf words) words
where
  /-- An expression of three or four words, the outer ones of which may be brackets. -/
  grouped (budget : Nat) (facts : Facts) (negated : Bool) (words : List String) :
      Except String Bool :=
    let inner := words.drop 1
    if words.head? = some "(" ∧ words.getLast? = some ")" then
      (evaluateFrom facts (roleOf inner.dropLast) inner.dropLast).map (· != negated)
    else if words.head? = some "!" then evaluate budget facts (!negated) inner
    else (evaluateFrom facts (roleOf words) words).map (· != negated)

/-- Whether the expression of words holds. -/
def holds (facts : Facts) (words : List String) : Except String Bool :=
  evaluate (words.length + 1) facts false words

end EditorSession.Shell.Condition
