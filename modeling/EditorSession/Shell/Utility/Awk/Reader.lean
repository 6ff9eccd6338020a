import EditorSession.Shell.Utility.Awk.Program

/-!
# Reading programs on records

Tokens are read into rules. Operators bind as tightly as their level says, and values that stand
next to one another are joined.
-/

namespace EditorSession.Shell.Awk

open Decimal (Binary64)

/-- Reading from tokens. -/
abbrev Reading := StateT (List Token) (Except String)

namespace Reading

/-- Ends the reading. -/
def fail {α : Type} : Reading α := fun tokens =>
  .error ("syntax error at or near " ++
    match tokens.head? with
    | none => "end of file"
    | some (.number text) | some (.name text) | some (.keyword text) | some (.symbol text) => text
    | some (.function text) => text
    | some (.text string) => "\"" ++ string ++ "\""
    | some (.regex source) => "/" ++ source ++ "/"
    | some .lineEnd => "end of line")

/-- The next token, which is left there. -/
def peek : Reading (Option Token) := return (← get).head?

/-- Takes the next token. -/
def skip : Reading Unit := modify List.tail

/-- Takes a symbol if it is next; yields whether it is. -/
def takes (symbol : String) : Reading Bool := do
  if (← peek) = some (.symbol symbol) then skip; return true else return false

/-- Takes a symbol. -/
def expect (symbol : String) : Reading Unit := do
  if !(← takes symbol) then fail

/-- Takes line ends. -/
def skipLineEnds : Reading Unit := modify fun tokens => tokens.dropWhile (· = .lineEnd)

/-- Takes line ends and semicolons. -/
def skipSeparators : Reading Unit := modify fun tokens =>
  tokens.dropWhile fun token => token = .lineEnd || token = .symbol ";"

/-- The comparison that a symbol stands for. -/
def comparison? : String → Option Comparison
  | "<" => some .less
  | "<=" => some .atMost
  | "==" => some .equal
  | "!=" => some .different
  | ">" => some .greater
  | ">=" => some .atLeast
  | _ => none

/-- The operator of an assignment. -/
def assignment? : String → Option (Option Arithmetic)
  | "=" => some none
  | "+=" => some (some .plus)
  | "-=" => some (some .minus)
  | "*=" => some (some .times)
  | "/=" => some (some .divided)
  | "%=" => some (some .remainder)
  | _ => none

/-- Whether an expression can be given a value. -/
def isTarget : Expression → Bool
  | .variable _ | .field _ => true
  | _ => false

/-- Whether a token may begin a value that is joined to the one before it. -/
def beginsValue : Token → Bool
  | .number _ | .text _ | .regex _ | .function _ | .name _ => true
  | .symbol symbol =>
    symbol = "$" || symbol = "!" || symbol = "(" || symbol = "++" || symbol = "--"
  | .keyword _ | .lineEnd => false

/-- The number that digits write. -/
def numberOf (text : String) : Binary64 :=
  match text.toList with
  | digits =>
    let whole := digits.takeWhile isDigit
    let rest := digits.drop whole.length
    let (places, rest) : List Char × List Char :=
      match rest with
      | '.' :: rest => (rest.takeWhile isDigit, rest.dropWhile isDigit)
      | rest => ([], rest)
    let (exponent, _) := Format.exponentAt rest
    .ofScaled false (decimalValue (whole ++ places)) (exponent - places.length)

mutual

/-- An expression. -/
def expression (budget : Nat) : Reading Expression := do
  match budget with
  | 0 => fail
  | budget + 1 =>
    let first ← alternatives budget
    match ← peek with
    | some (.symbol "?") =>
      skip
      skipLineEnds
      let accepted ← expression budget
      skipLineEnds
      expect ":"
      skipLineEnds
      return .choose first accepted (← expression budget)
    | some (.symbol symbol) =>
      match assignment? symbol with
      | some operator =>
        if isTarget first then
          skip
          skipLineEnds
          return .assign first operator (← expression budget)
        else return first
      | none => return first
    | _ => return first

/-- Expressions one of which has to hold. -/
def alternatives (budget : Nat) : Reading Expression := do
  match budget with
  | 0 => fail
  | budget + 1 =>
    let first ← conjuncts budget
    if ← takes "||" then
      skipLineEnds
      return .either first (← alternatives budget)
    else return first

/-- Expressions all of which have to hold. -/
def conjuncts (budget : Nat) : Reading Expression := do
  match budget with
  | 0 => fail
  | budget + 1 =>
    let first ← matching budget
    if ← takes "&&" then
      skipLineEnds
      return .both first (← conjuncts budget)
    else return first

/-- An expression that may be compared with a pattern. -/
def matching (budget : Nat) : Reading Expression := do
  match budget with
  | 0 => fail
  | budget + 1 => patterns budget (← comparing budget)

/-- The patterns that a value is compared with. -/
def patterns (budget : Nat) (subject : Expression) : Reading Expression := do
  match budget with
  | 0 => fail
  | budget + 1 =>
    if ← takes "~" then
      patterns budget (.fits false subject (← comparing budget))
    else if ← takes "!~" then
      patterns budget (.fits true subject (← comparing budget))
    else return subject

/-- An expression that may be compared with another one. -/
def comparing (budget : Nat) : Reading Expression := do
  match budget with
  | 0 => fail
  | budget + 1 =>
    let first ← joined budget
    match ← peek with
    | some (.symbol symbol) =>
      match comparison? symbol with
      | some comparison =>
        skip
        return .compare comparison first (← joined budget)
      | none => return first
    | _ => return first

/-- Values that stand next to one another. -/
def joined (budget : Nat) : Reading Expression := do
  match budget with
  | 0 => fail
  | budget + 1 => joinedTo budget (← sum budget)

/-- The further values that stand next to one. -/
def joinedTo (budget : Nat) (first : Expression) : Reading Expression := do
  match budget with
  | 0 => fail
  | budget + 1 =>
    match ← peek with
    | some token =>
      if beginsValue token then joinedTo budget (.join first (← sum budget))
      else return first
    | none => return first

/-- A sum. -/
def sum (budget : Nat) : Reading Expression := do
  match budget with
  | 0 => fail
  | budget + 1 => sumFrom budget (← product budget)

/-- The further terms of a sum. -/
def sumFrom (budget : Nat) (first : Expression) : Reading Expression := do
  match budget with
  | 0 => fail
  | budget + 1 =>
    if ← takes "+" then sumFrom budget (.compute .plus first (← product budget))
    else if ← takes "-" then
      sumFrom budget (.compute .minus first (← product budget))
    else return first

/-- A product. -/
def product (budget : Nat) : Reading Expression := do
  match budget with
  | 0 => fail
  | budget + 1 => productFrom budget (← signed budget)

/-- The further factors of a product. -/
def productFrom (budget : Nat) (first : Expression) : Reading Expression := do
  match budget with
  | 0 => fail
  | budget + 1 =>
    if ← takes "*" then
      productFrom budget (.compute .times first (← signed budget))
    else if ← takes "/" then
      productFrom budget (.compute .divided first (← signed budget))
    else if ← takes "%" then
      productFrom budget (.compute .remainder first (← signed budget))
    else return first

/-- An expression that may have a sign. -/
def signed (budget : Nat) : Reading Expression := do
  match budget with
  | 0 => fail
  | budget + 1 =>
    if ← takes "!" then return .negation (← signed budget)
    else if ← takes "-" then return .negative (← signed budget)
    else if ← takes "+" then return .identity (← signed budget)
    else stepped budget

/-- A target that may be counted up or down, or another value. -/
def stepped (budget : Nat) : Reading Expression := do
  match budget with
  | 0 => fail
  | budget + 1 =>
    if ← takes "++" then return .step (← value budget) true true
    else if ← takes "--" then return .step (← value budget) false true
    else
      let found ← value budget
      if !isTarget found then return found
      else if ← takes "++" then return .step found true false
      else if ← takes "--" then return .step found false false
      else return found

/-- A value. -/
def value (budget : Nat) : Reading Expression := do
  match budget with
  | 0 => fail
  | budget + 1 =>
    match ← peek with
    | some (.number text) => skip; return .number (numberOf text)
    | some (.text string) => skip; return .text string
    | some (.regex source) => skip; return .regex source
    | some (.symbol "$") =>
      skip
      if ← takes "++" then return .field (.step (← value budget) true true)
      else if ← takes "-" then return .field (.negative (← value budget))
      else return .field (← value budget)
    | some (.symbol "(") =>
      skip
      let inner ← expression budget
      expect ")"
      return .group inner
    | some (.function name) =>
      skip
      expect "("
      let arguments ← list budget ")"
      expect ")"
      return .call name arguments
    | some (.name name) =>
      skip
      return if name = "length" then .call name [] else .variable name
    | _ => fail

/-- The further expressions of a list that has begun. -/
def further (budget : Nat) : Reading (List Expression) := do
  match budget with
  | 0 => fail
  | budget + 1 =>
    if ← takes "," then
      skipLineEnds
      let next ← expression budget
      return next :: (← further budget)
    else return []

/-- Expressions up to a symbol. -/
def list (budget : Nat) (finish : String) : Reading (List Expression) := do
  match budget with
  | 0 => fail
  | budget + 1 =>
    skipLineEnds
    if (← peek) = some (.symbol finish) then return []
    else
      let first ← expression budget
      return first :: (← further budget)

end

/-! ### Statements -/

/-- Takes the end of a statement. -/
def endStatement : Reading Unit := do
  match ← peek with
  | some (.symbol ";") | some .lineEnd => skipSeparators
  | some (.symbol "\x7d") | none => return
  | some _ => fail

/-- Whether nothing more of a statement follows. -/
def isAtEnd : Reading Bool := do
  match ← peek with
  | none | some .lineEnd | some (.symbol ";") | some (.symbol "\x7d") => return true
  | some _ => return false

/-- The values behind a word that writes; brackets may stand around all of them. -/
def written (budget : Nat) : Reading (List Expression) := do
  let start ← get
  if ← takes "(" then
    let values ← list budget ")"
    if ← takes ")" then
      if ← isAtEnd then return values
    set start
  if ← isAtEnd then return []
  else
    let first ← expression budget
    return first :: (← further budget)

/-- A statement without those inside of it. -/
def simple (budget : Nat) : Reading Statement := do
  match ← peek with
  | some (.keyword "print") => skip; return .print (← written budget)
  | some (.keyword "printf") => skip; return .format (← written budget)
  | _ => return .evaluate (← expression budget)

/-- An expression, unless the statement ends here. -/
def optional (budget : Nat) : Reading (Option Expression) := do
  if ← isAtEnd then return none else some <$> expression budget

mutual

/-- A statement with its end. -/
def statement (budget : Nat) : Reading Statement := do
  match budget with
  | 0 => fail
  | budget + 1 =>
    match ← peek with
    | some (.symbol "\x7b") => skip; return .block (← statements budget)
    | some (.symbol ";") => skip; return .block []
    | some (.keyword "if") =>
      skip
      let condition ← bracketed budget
      let accepted ← statement budget
      let before ← get
      skipSeparators
      if (← peek) = some (.keyword "else") then
        skip
        skipLineEnds
        return .branch condition accepted (some (← statement budget))
      else
        set before
        return .branch condition accepted none
    | some (.keyword "while") =>
      skip
      let condition ← bracketed budget
      return .loop condition (← statement budget)
    | some (.keyword "for") =>
      skip
      expect "("
      counting budget
    | some (.keyword "next") => skip; endStatement; return .next
    | some (.keyword "exit") =>
      skip
      let status ← optional budget
      endStatement
      return .exit status
    | _ =>
      let found ← simple budget
      endStatement
      return found

/-- A condition in brackets. -/
def bracketed (budget : Nat) : Reading Expression := do
  match budget with
  | 0 => fail
  | budget + 1 =>
    expect "("
    let condition ← expression budget
    expect ")"
    skipLineEnds
    return condition

/-- The rest of a counting loop behind its bracket. -/
def counting (budget : Nat) : Reading Statement := do
  match budget with
  | 0 => fail
  | budget + 1 =>
    let start ← if ← takes ";" then pure none
      else do
        let found ← simple budget
        expect ";"
        pure (some found)
    skipLineEnds
    let condition ← optional budget
    expect ";"
    skipLineEnds
    let step ← if (← peek) = some (.symbol ")") then pure none else some <$> simple budget
    expect ")"
    skipLineEnds
    return .count start condition step (← statement budget)

/-- Statements up to the end of their block. -/
def statements (budget : Nat) : Reading (List Statement) := do
  match budget with
  | 0 => fail
  | budget + 1 =>
    skipSeparators
    if ← takes "\x7d" then return []
    else
      let first ← statement budget
      return first :: (← statements budget)

end

/-! ### Rules -/

/-- An action, if there is one. -/
def action (budget : Nat) : Reading (Option Statement) := do
  if ← takes "\x7b" then return some (.block (← statements budget)) else return none

/-- All rules. -/
def rules (budget : Nat) : (count : Nat) → Reading (List Rule)
  | 0 => fail
  | count + 1 => do
    skipSeparators
    let add (pattern : Pattern) : Reading (List Rule) := do
      let action ← action budget
      return { pattern, action } :: (← rules budget count)
    match ← peek with
    | none => return []
    | some (.keyword "BEGIN") => skip; skipLineEnds; add .start
    | some (.keyword "END") => skip; skipLineEnds; add .finish
    | some (.symbol "\x7b") => add .always
    | some _ => add (.holds (← expression budget))

end Reading

/-- The rules that a text writes. -/
def rulesOf (text : String) : Except String (List Rule) := do
  let tokens ← tokens (text.length + 1) none text.toList
  let (rules, _) ← Reading.rules (30 * tokens.length + 100) (tokens.length + 1) tokens
  return rules

end EditorSession.Shell.Awk
