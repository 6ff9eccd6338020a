import EditorSession.Shell.Plain

/-!
# Arithmetic

An arithmetic expansion holds an expression of numbers, variables and operators. Its values are
words of 64 bits, which wrap around. The operators of one level bind equally tightly and are taken
from left to right; a choice and an assignment are taken from right to left.
-/

namespace EditorSession.Shell

/-- An operator of two values. -/
inductive Operator
  | times | divided | remainder
  | plus | minus
  | shiftLeft | shiftRight
  | less | atMost | greater | atLeast
  | equal | different
  | bitAnd | bitXor | bitOr
  deriving DecidableEq, Repr

/-- An operator of one value. -/
inductive PrefixOperator
  | identity | negative | complement | negation
  deriving DecidableEq, Repr

/-- An arithmetic expression. -/
inductive Arithmetic
  | number (value : Int64)
  | variable (name : String)
  | unary (operator : PrefixOperator) (operand : Arithmetic)
  | binary (operator : Operator) (left right : Arithmetic)
  | both (left right : Arithmetic)
  | either (left right : Arithmetic)
  | choose (condition accepted rejected : Arithmetic)
  /-- Gives a variable a value, which an operator may make from the value it has. -/
  | assign (name : String) (operator : Option Operator) (value : Arithmetic)
  deriving Inhabited

namespace Operator

/-- The number for a truth value. -/
def truth (value : Bool) : Int64 := if value then 1 else 0

/-- The value of an operator, which division by zero has not. Division goes toward zero. -/
def outcome? (operator : Operator) (left right : Int64) : Option Int64 :=
  match operator with
  | times => some (left * right)
  | divided => if right = 0 then none else some (left / right)
  | remainder => if right = 0 then none else some (left % right)
  | plus => some (left + right)
  | minus => some (left - right)
  | shiftLeft => some (left <<< right)
  | shiftRight => some (left >>> right)
  | less => some (truth (left < right))
  | atMost => some (truth (left ≤ right))
  | greater => some (truth (right < left))
  | atLeast => some (truth (right ≤ left))
  | equal => some (truth (left == right))
  | different => some (truth (left != right))
  | bitAnd => some (left &&& right)
  | bitXor => some (left ^^^ right)
  | bitOr => some (left ||| right)

/-- How tightly an operator binds; lower levels bind more tightly. -/
def level : Operator → Nat
  | times | divided | remainder => 0
  | plus | minus => 1
  | shiftLeft | shiftRight => 2
  | less | atMost | greater | atLeast => 3
  | equal | different => 4
  | bitAnd => 5
  | bitXor => 6
  | bitOr => 7

end Operator

/-- The value of an operator of one value. -/
def PrefixOperator.apply (operator : PrefixOperator) (operand : Int64) : Int64 :=
  match operator with
  | identity => operand
  | negative => -operand
  | complement => ~~~operand
  | negation => Operator.truth (operand == 0)

namespace Arithmetic

/-! ### Symbols -/

/-- A symbol of an expression. -/
inductive Symbol
  | number (value : Int64)
  | name (name : String)
  | operator (operator : Operator)
  /-- An assignment, with an operator or without. -/
  | assignment (operator : Option Operator)
  | bitNot | not | and | or | question | colon | opening | closing
  /-- Something that is no symbol; nothing is read behind it. -/
  | unknown
  deriving DecidableEq, Repr

/-- The spellings of symbols, longer ones first. -/
def spellings : List (String × Symbol) :=
  [("<<=", .assignment (some .shiftLeft)), (">>=", .assignment (some .shiftRight)),
    ("<<", .operator .shiftLeft), (">>", .operator .shiftRight), ("<=", .operator .atMost),
    (">=", .operator .atLeast), ("==", .operator .equal), ("!=", .operator .different),
    ("&&", .and), ("||", .or), ("*=", .assignment (some .times)),
    ("/=", .assignment (some .divided)), ("%=", .assignment (some .remainder)),
    ("+=", .assignment (some .plus)), ("-=", .assignment (some .minus)),
    ("&=", .assignment (some .bitAnd)), ("^=", .assignment (some .bitXor)),
    ("|=", .assignment (some .bitOr)), ("=", .assignment none), ("*", .operator .times),
    ("/", .operator .divided), ("%", .operator .remainder), ("+", .operator .plus),
    ("-", .operator .minus), ("<", .operator .less), (">", .operator .greater),
    ("&", .operator .bitAnd), ("^", .operator .bitXor), ("|", .operator .bitOr), ("~", .bitNot),
    ("!", .not), ("?", .question), (":", .colon), ("(", .opening), (")", .closing)]

/-- The largest value. -/
def largest : Nat := 9223372036854775807

/-- The symbols of an expression, if there is nothing else in it. -/
def symbols (budget : Nat) (text : List Char) : Option (List Symbol) :=
  match budget with
  | 0 => none
  | budget + 1 =>
    match text.dropWhile isSpace with
    | [] => some []
    | first :: rest =>
      if isDigit first then
        match leadingNumber (first :: rest) with
        | some (value, rest) =>
          (symbols budget rest).map (.number (Int64.ofNat (min value largest)) :: ·)
        | none => none
      else if isNameStart first then
        let name := (first :: rest).takeWhile isNameChar
        (symbols budget ((first :: rest).drop name.length)).map
          (.name (String.ofList name) :: ·)
      else
        match spellings.find? fun (text, _) => text.toList.isPrefixOf (first :: rest) with
        | some (text, symbol) =>
          (symbols budget ((first :: rest).drop text.length)).map (symbol :: ·)
        | none => some [.unknown]

/-! ### Expressions -/

/-- What is wrong with an expression. -/
inductive Fault
  | noPrimary
  | noEnd
  | noClosing
  | noColon
  deriving DecidableEq, Repr

/-- The wording of what is wrong with an expression. -/
def Fault.message : Fault → String
  | noPrimary => "expecting primary"
  | noEnd => "expecting EOF"
  | noClosing => "expecting ')'"
  | noColon => "expecting ':'"

mutual

/-- An assignment or a choice. -/
def assignment (budget : Nat) (text : List Symbol) : Except Fault (Arithmetic × List Symbol) :=
  match budget with
  | 0 => .error .noPrimary
  | budget + 1 =>
    match text with
    | .name name :: .assignment operator :: rest => do
      let (value, rest) ← assignment budget rest
      return (.assign name operator value, rest)
    | text => choice budget text

/-- A disjunction, or the choice that it decides. -/
def choice (budget : Nat) (text : List Symbol) : Except Fault (Arithmetic × List Symbol) :=
  match budget with
  | 0 => .error .noPrimary
  | budget + 1 => do
    let (condition, rest) ← disjunction budget text
    match rest with
    | .question :: rest =>
      let (accepted, rest) ← assignment budget rest
      match rest with
      | .colon :: rest =>
        let (rejected, rest) ← choice budget rest
        return (.choose condition accepted rejected, rest)
      | _ => throw .noColon
    | rest => return (condition, rest)

/-- Expressions one of which holds. -/
def disjunction (budget : Nat) (text : List Symbol) : Except Fault (Arithmetic × List Symbol) :=
  match budget with
  | 0 => .error .noPrimary
  | budget + 1 => do
    let (left, rest) ← conjunction budget text
    match rest with
    | .or :: rest =>
      let (right, rest) ← disjunction budget rest
      return (.either left right, rest)
    | rest => return (left, rest)

/-- Expressions all of which hold. -/
def conjunction (budget : Nat) (text : List Symbol) : Except Fault (Arithmetic × List Symbol) :=
  match budget with
  | 0 => .error .noPrimary
  | budget + 1 => do
    let (left, rest) ← operation budget 7 text
    match rest with
    | .and :: rest =>
      let (right, rest) ← conjunction budget rest
      return (.both left right, rest)
    | rest => return (left, rest)

/-- An expression of operators up to a level. -/
def operation (budget : Nat) (level : Nat) (text : List Symbol) :
    Except Fault (Arithmetic × List Symbol) :=
  match budget with
  | 0 => .error .noPrimary
  | budget + 1 => do
    let (left, rest) ← match level with
      | 0 => primary budget text
      | level + 1 => operation budget level text
    operations budget level left rest

/-- The further operands of operators of a level. -/
def operations (budget : Nat) (level : Nat) (left : Arithmetic) (text : List Symbol) :
    Except Fault (Arithmetic × List Symbol) :=
  match budget with
  | 0 => .error .noPrimary
  | budget + 1 =>
    match text with
    | .operator operator :: rest =>
      if operator.level = level then do
        let (right, rest) ← match level with
          | 0 => primary budget rest
          | level + 1 => operation budget level rest
        operations budget level (.binary operator left right) rest
      else .ok (left, text)
    | text => .ok (left, text)

/-- A number, a variable, an expression in brackets, or one behind an operator. -/
def primary (budget : Nat) (text : List Symbol) : Except Fault (Arithmetic × List Symbol) :=
  match budget with
  | 0 => .error .noPrimary
  | budget + 1 =>
    match text with
    | .number value :: rest => .ok (.number value, rest)
    | .name name :: rest => .ok (.variable name, rest)
    | .opening :: rest => do
      let (inner, rest) ← assignment budget rest
      match rest with
      | .closing :: rest => return (inner, rest)
      | _ => throw .noClosing
    | .operator .plus :: rest => behind budget .identity rest
    | .operator .minus :: rest => behind budget .negative rest
    | .bitNot :: rest => behind budget .complement rest
    | .not :: rest => behind budget .negation rest
    | _ => .error .noPrimary

/-- What stands behind an operator of one value. -/
def behind (budget : Nat) (operator : PrefixOperator) (text : List Symbol) :
    Except Fault (Arithmetic × List Symbol) :=
  match budget with
  | 0 => .error .noPrimary
  | budget + 1 => do
    let (operand, rest) ← primary budget text
    return (.unary operator operand, rest)

end

/-- The expression that a text spells. No text at all is zero. -/
def ofText (text : String) : Except Fault Arithmetic :=
  match symbols (text.length + 1) text.toList with
  | none => .error .noPrimary
  | some [] => .ok (.number 0)
  | some symbols => do
    let (expression, rest) ← assignment (20 * symbols.length + 20) symbols
    if rest.isEmpty then return expression else throw .noEnd

/-- The value that a variable has in an expression, if its text is a number. -/
def valueOf? (text : String) : Option Int64 :=
  if text.toList.all isSpace then some 0
  else
    match leadingInteger text.toList with
    | some (value, rest) =>
      if rest.all isSpace ∧ -(largest : Int) - 1 ≤ value ∧ value ≤ largest then
        some (Int64.ofInt value)
      else none
    | none => none

end Arithmetic

end EditorSession.Shell
