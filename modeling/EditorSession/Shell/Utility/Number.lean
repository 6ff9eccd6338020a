import EditorSession.Shell.Regex
import EditorSession.Shell.Utility.Basic

/-!
# Expressions of words

The program `expr`, which computes the value of an expression of words.
-/

namespace EditorSession.Shell.Number

/-- The integer that a word is. -/
def integer? (word : String) : Option Int :=
  match word.toList with
  | '-' :: digits => (decimal? (String.ofList digits)).map fun value => -(value : Int)
  | _ => (decimal? word).map fun value => (value : Int)

/-- Whether a word counts as false. -/
def isNull (word : String) : Bool :=
  word.isEmpty || integer? word == some 0

/-- The integers that two words are. -/
def integers (left right : String) : Except String (Int × Int) :=
  match integer? left, integer? right with
  | some left, some right => .ok (left, right)
  | _, _ => .error "non-integer argument"

/-- The order of two words, as numbers if both are. -/
def wordOrder (left right : String) : Ordering :=
  match integer? left, integer? right with
  | some left, some right => compare left right
  | _, _ => compare left right

/-- What a comparison makes of an order. -/
def comparison? (operator : String) : Option (Ordering → Bool) :=
  match operator with
  | "<" => some (· == .lt)
  | "<=" => some (· != .gt)
  | "=" | "==" => some (· == .eq)
  | "!=" => some (· != .eq)
  | ">=" => some (· != .lt)
  | ">" => some (· == .gt)
  | _ => none

/-- What a word makes of an expression that fits its start: the group in it, or its length. -/
def fit (word pattern : String) : Except String String :=
  let hasGroup := (pattern.splitOn "\\(").length > 1
  match Regex.ofText { isExtended := false } pattern with
  | .error flaw => .error flaw.message
  | .ok regex =>
    match regex.matchAt? false word.toList.toArray 0 with
    | none => .ok (if hasGroup then "" else "0")
    | some found =>
      if hasGroup then
        match found.groups.lookup 1 with
        | some (first, last) =>
          .ok (String.ofList ((word.toList.drop first).take (last - first)))
        | none => .ok ""
      else .ok (toString found.finish)

/-- The cause of failure where a word is missing. -/
def missingAfter (word : String) : String :=
  "syntax error: missing argument after " ++ inQuotes word

/-- The operators of each level, those that bind least first. -/
def levels : List (List String) :=
  [["|"], ["&"], ["<", "<=", "=", "==", "!=", ">=", ">"], ["+", "-"], ["*", "/", "%"], [":"]]

/-- The value of an operator. -/
def operate (operator left right : String) : Except String String := do
  match comparison? operator with
  | some holds => return if holds (wordOrder left right) then "1" else "0"
  | none =>
    match operator with
    | "|" => return if isNull left then (if isNull right then "0" else right) else left
    | "&" => return if isNull left || isNull right then "0" else left
    | ":" => fit left right
    | _ =>
      let (left, right) ← integers left right
      match operator with
      | "+" => return toString (left + right)
      | "-" => return toString (left - right)
      | "*" => return toString (left * right)
      | _ =>
        if right = 0 then throw "division by zero"
        else if operator = "/" then return toString (left.tdiv right)
        else return toString (left.tmod right)

mutual

/-- The value of an expression of the operators of some levels, and the words behind it. -/
def operation (budget : Nat) (last : String) (words : List String) :
    List (List String) → Except String (String × List String)
  | [] =>
    match budget with
    | 0 => .error "syntax error"
    | budget + 1 => primary budget last words
  | level :: tighter =>
    match budget with
    | 0 => .error "syntax error"
    | budget + 1 => do
      let (left, rest) ← operation budget last words tighter
      operations budget left rest level tighter

/-- The further operands of the operators of a level. -/
def operations (budget : Nat) (left : String) (words : List String) (level : List String)
    (tighter : List (List String)) : Except String (String × List String) :=
  match budget with
  | 0 => .error "syntax error"
  | budget + 1 =>
    match words with
    | operator :: rest =>
      if operator ∈ level then do
        let (right, rest) ← operation budget operator rest tighter
        operations budget (← operate operator left right) rest level tighter
      else .ok (left, words)
    | [] => .ok (left, [])

/-- The value of a word, of a function of words, or of an expression in brackets. -/
def primary (budget : Nat) (last : String) (words : List String) :
    Except String (String × List String) :=
  match budget with
  | 0 => .error "syntax error"
  | budget + 1 =>
    match words with
    | [] => .error (missingAfter last)
    | "(" :: rest => do
      let (value, rest) ← operation budget "(" rest levels
      match rest with
      | ")" :: rest => return (value, rest)
      | [] => throw ("syntax error: expecting ')' after " ++ inQuotes value)
      | word :: _ => throw ("syntax error: expecting ')' instead of " ++ inQuotes word)
    | ")" :: _ => .error "syntax error: unexpected ')'"
    | "+" :: word :: rest => .ok (word, rest)
    | "length" :: rest@(_ :: _) => do
      let (value, rest) ← primary budget "length" rest
      return (toString value.length, rest)
    | "match" :: rest@(_ :: _) => do
      let (value, rest) ← primary budget "match" rest
      let (pattern, rest) ← primary budget value rest
      return (← fit value pattern, rest)
    | "index" :: rest@(_ :: _) => do
      let (value, rest) ← primary budget "index" rest
      let (signs, rest) ← primary budget value rest
      match value.toList.findIdx? fun character => character ∈ signs.toList with
      | some place => return (toString (place + 1), rest)
      | none => return ("0", rest)
    | "substr" :: rest@(_ :: _) => do
      let (value, rest) ← primary budget "substr" rest
      let (start, rest) ← primary budget value rest
      let (length, rest) ← primary budget start rest
      match integer? start, integer? length with
      | some start, some length =>
        if start ≤ 0 ∨ length ≤ 0 then return ("", rest)
        else
          let part := (value.toList.drop (start.toNat - 1)).take length.toNat
          return (String.ofList part, rest)
      | _, _ => return ("", rest)
    | word :: rest => .ok (word, rest)

end

/-- Computes the value of an expression. -/
def expression : Utility := fun call =>
  let words := match call.arguments with | "--" :: rest => rest | words => words
  if words.isEmpty then call.misuse "missing operand" 2
  else
    match operation (20 * words.length + 20) "" words levels with
    | .error cause => call.refuse cause (if cause = "syntax error" then 3 else 2)
    | .ok (value, []) =>
      .finish { output := value ++ "\n", status := if isNull value then 1 else 0 }
    | .ok (_, word :: _) =>
      call.refuse ("syntax error: unexpected argument " ++ inQuotes word) 2

end EditorSession.Shell.Number
