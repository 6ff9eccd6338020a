import EditorSession.Shell.Source

/-!
# Reading scripts

A script is read one line of commands at a time, so that the lines before a mistake have run when it
is found. Quotes keep characters from meaning something, a dollar sign begins an expansion, and a
word that is reserved where a command may start opens or closes a compound command.

The functions call one another as deep as the script is nested; a budget bounds the depth, and one
that grows with the length of the script is never used up.
-/

namespace EditorSession.Shell

/-- What a run of pieces is enclosed in. -/
inductive Enclosure
  /-- A word ends at a blank or an operator. -/
  | word
  | double
  /-- The word of an expansion, which may itself stand between double quotes. -/
  | brace (inDouble : Bool)
  | document
  /-- An expression, in so many round brackets of its own. -/
  | arithmetic (depth : Nat)
  deriving DecidableEq

/-- Whether characters in an enclosure are quoted by it. -/
def Enclosure.quotes : Enclosure → Bool
  | word | brace false => false
  | _ => true

/-- Whether a backslash keeps a character from meaning something. -/
def Enclosure.escapes (enclosure : Enclosure) (character : Char) : Bool :=
  !enclosure.quotes || character = '$' || character = '\\' || isBackQuote character
    || (character = '"' && enclosure != document) || (character = '\x7d' && enclosure == brace true)

/-- Text read as it stands, last character first, added to the pieces before it, last one first. -/
def addLiteral (read : List Char) (quoted : Bool) (pieces : Word) : Word :=
  if read.isEmpty then pieces else .literal (String.ofList read.reverse) quoted :: pieces

/-- Whether the characters read so far, last one first, are those of an assignment. -/
def opensValue (read : List Char) : Bool :=
  let name := read.reverse.takeWhile (· ≠ '=')
  name.length < read.length && isName (String.ofList name)

/-- The user whose home directory a tilde stands for, and the rest, if it stands for one: at the
start of a word, and in an assignment at the start of the value and behind a colon. -/
def homeAt? (pieces : Word) (read rest : List Char) : Option (String × List Char) :=
  let inValue :=
    match pieces.getLast? with
    | none => opensValue read
    | some (.literal text false) => opensValue text.toList.reverse
    | some _ => false
  let isStart :=
    (pieces.isEmpty && (read.isEmpty || (inValue && read.head? == some '='))) ||
      (inValue && read.head? == some ':')
  let user := rest.takeWhile isNameChar
  let after := rest.drop user.length
  let isEnd :=
    match after with
    | [] => true
    | next :: _ => next = '/' || isBreak next || (inValue && next = ':')
  if isStart && isEnd then some (String.ofList user, after) else none

/-- The command in back quotes, without the backslashes that hide quotes in it, and the rest. In
double quotes the backslash hides a double quote too. -/
def splitQuoted (inDouble : Bool) (read : List Char) :
    List Char → Option (List Char × List Char)
  | [] => none
  | '\\' :: next :: rest =>
    if next = '\\' ∨ next = '$' ∨ isBackQuote next ∨ (inDouble ∧ next = '"') then
      splitQuoted inDouble (next :: read) rest
    else splitQuoted inDouble (next :: '\\' :: read) rest
  | first :: rest =>
    if isBackQuote first then some (read.reverse, rest)
    else splitQuoted inDouble (first :: read) rest

/-- The name of a parameter in brackets, and the rest. -/
def parameterName? (text : List Char) : Option (String × List Char) :=
  match text with
  | [] => none
  | first :: rest =>
    if isNameStart first then
      some (String.ofList (text.takeWhile isNameChar), text.dropWhile isNameChar)
    else if isDigit first then
      some (String.ofList (text.takeWhile isDigit), text.dropWhile isDigit)
    else if isSpecial first then some (String.ofList [first], rest)
    else none

/-- The expansion that the characters behind the name of a parameter begin, as what makes it of its
word, and the rest. -/
def expansionAt? (text : List Char) : Option ((Word → Expansion) × List Char) :=
  match text with
  | ':' :: '-' :: rest => some (.fallback true, rest)
  | ':' :: '=' :: rest => some (.assigned true, rest)
  | ':' :: '?' :: rest => some (.demanded true, rest)
  | ':' :: '+' :: rest => some (.alternative true, rest)
  | '-' :: rest => some (.fallback false, rest)
  | '=' :: rest => some (.assigned false, rest)
  | '?' :: rest => some (.demanded false, rest)
  | '+' :: rest => some (.alternative false, rest)
  | '%' :: '%' :: rest => some (.without true true, rest)
  | '%' :: rest => some (.without true false, rest)
  | '#' :: '#' :: rest => some (.without false true, rest)
  | '#' :: rest => some (.without false false, rest)
  | _ => none

/-- Whether the word of an expansion is a pattern, which quotes of its own may protect. -/
def Expansion.takesPattern : Expansion → Bool
  | .without .. => true
  | _ => false

/-- The name and the word of an assignment. -/
def assignmentOf? (word : Word) : Option (String × Word) :=
  match word with
  | .literal text false :: rest =>
    let name := String.ofList (text.toList.takeWhile isNameChar)
    match text.toList.drop name.length with
    | '=' :: value =>
      if isName name then
        let start : Word :=
          if value.isEmpty then [] else [.literal (String.ofList value) false]
        some (name, start ++ rest)
      else none
    | _ => none
  | _ => none

/-- The text of a word whose quotes are taken off, and whether it had any. -/
def unquoted (word : Word) : String × Bool :=
  word.foldl (fun (text, isQuoted) piece =>
    match piece with
    | .literal part quoted => (text ++ part, isQuoted || quoted)
    | .home user => (text ++ "~" ++ user, isQuoted)
    | .parameter name _ quoted => (text ++ "$" ++ name, isQuoted || quoted)
    | .arithmetic .. | .substitution .. => (text, isQuoted)) ("", false)

/-- Whether a token ends a list of commands. -/
def Token.closes (token : Token) : Bool :=
  match token with
  | .finish | .operator ")" | .operator ";;" => true
  | token =>
    match token.reserved? with
    | some text => text ∈ ["then", "elif", "else", "fi", "do", "done", "esac", "\x7d"]
    | none => false

/-- The arguments of the script, which a loop goes over when no words are named. -/
def allArguments : List Word := [[.parameter "@" .value true]]

namespace Reading

/-- Takes a token that was looked at. -/
def skip : Reading Unit := modify fun source => { source with ahead := none }

/-- Goes on behind characters of one line. -/
def goOn (rest : List Char) : Reading Unit := modify fun source => { source with text := rest }

/-- Goes on behind a line end that does not end the line of commands. -/
def join (rest : List Char) : Reading Unit :=
  modify fun source => { source with text := rest, line := source.line + 1 }

/-- Goes on behind a character. -/
def pass (first : Char) (rest : List Char) : Reading Unit :=
  if first = '\n' then join rest else goOn rest

/-- Goes on behind some text. -/
def passAll (taken rest : List Char) : Reading Unit :=
  modify fun source => { source with text := rest, line := source.line + lineEndsIn taken }

/-- What the whole of a text is read as, apart from the source. -/
def apart {α : Type} (reading : Reading α) (text : List Char) (line : Nat) : Reading α :=
  fun source =>
    match reading { text, line, aliases := source.aliases } with
    | .ok (read, _) => .ok (read, source)
    | .error problem => .error problem

/-- Puts the text that a name stands for in its place. -/
def replaceAlias (name text : String) : Reading Unit :=
  modify fun source =>
    { source with
      ahead := none
      text := text.toList ++ source.text
      inUse := (name, source.text.length) :: source.inUse }

/-- The text that a name stands for, unless the reading is in that text. -/
def alias? (name : String) : Reading (Option String) := do
  let source ← get
  let isOpen := source.inUse.any fun (used, left) =>
    used == name && left < source.text.length
  return if isOpen then none else source.aliases.lookup name

/-- Refuses a token. -/
def refuse {α : Type} (token : Token) (expected : Option String) : Reading α :=
  fail (.unexpected token.shown expected)

mutual

/-- Pieces up to the end of what encloses them; `read` holds the text of the present piece. -/
def pieces (budget : Nat) (enclosure : Enclosure) (found : Word) (read : List Char) :
    Reading Word := do
  match budget with
  | 0 => fail .openQuote
  | budget + 1 =>
    let quoted := enclosure.quotes
    let finished := (addLiteral read quoted found).reverse
    match (← get).text with
    | [] =>
      match enclosure with
      | .word | .document => return finished
      | .double => fail .openQuote
      | .brace _ => fail .openBrace
      | .arithmetic _ => fail .openArithmetic
    | '\\' :: '\n' :: rest => join rest; pieces budget enclosure found read
    | ['\\'] => goOn []; pieces budget enclosure found ('\\' :: read)
    | '\\' :: next :: rest =>
      pass next rest
      if enclosure.escapes next then
        if quoted then pieces budget enclosure found (next :: read)
        else
          let literal := Piece.literal (String.ofList [next]) true
          pieces budget enclosure (literal :: addLiteral read false found) []
      else pieces budget enclosure found (next :: '\\' :: read)
    | '$' :: rest =>
      goOn rest
      let piece ← dollar budget quoted
      pieces budget enclosure (piece :: addLiteral read quoted found) []
    | first :: rest =>
      if isBackQuote first then
        match splitQuoted (enclosure == .double) [] rest with
        | none => passAll rest []; fail .openBackQuote
        | some (script, after) =>
          let command ← apart (allCommands budget) script (← get).line
          passAll (rest.take (rest.length - after.length)) after
          pieces budget enclosure (.substitution command quoted :: addLiteral read quoted found) []
      else
        match enclosure, first with
        | .double, '"' => goOn rest; return finished
        | .brace _, '\x7d' => goOn rest; return finished
        | .arithmetic 0, ')' =>
          match rest with
          | ')' :: rest => goOn rest; return finished
          | _ => fail .openArithmetic
        | .arithmetic (depth + 1), ')' =>
          goOn rest
          pieces budget (.arithmetic depth) found (first :: read)
        | .arithmetic depth, '(' =>
          goOn rest
          pieces budget (.arithmetic (depth + 1)) found (first :: read)
        | .word, '\'' | .brace false, '\'' =>
          let inner := rest.takeWhile (· ≠ '\'')
          match rest.drop inner.length with
          | [] => passAll inner []; fail .openQuote
          | _ :: after =>
            passAll inner after
            let literal := Piece.literal (String.ofList inner) true
            pieces budget enclosure (literal :: addLiteral read quoted found) []
        | .word, '"' | .brace _, '"' =>
          goOn rest
          let inner ← pieces budget .double [] []
          let inner : Word := if inner.isEmpty then [.literal "" true] else inner
          pieces budget enclosure (inner.reverse ++ addLiteral read quoted found) []
        | .word, '~' =>
          match homeAt? found read rest with
          | some (user, after) =>
            goOn after
            pieces budget enclosure (.home user :: addLiteral read quoted found) []
          | none => goOn rest; pieces budget enclosure found (first :: read)
        | .word, _ =>
          if isBreak first then return finished
          else goOn rest; pieces budget enclosure found (first :: read)
        | _, _ => pass first rest; pieces budget enclosure found (first :: read)

/-- An expansion after its dollar sign. -/
def dollar (budget : Nat) (quoted : Bool) : Reading Piece := do
  match budget with
  | 0 => fail .openBrace
  | budget + 1 =>
    match (← get).text with
    | '(' :: '(' :: rest =>
      goOn rest
      return .arithmetic (← pieces budget (.arithmetic 0) [] []) quoted
    | '(' :: rest =>
      goOn rest
      let command ← sequence budget true
      expectOperator budget ")"
      return .substitution command quoted
    | '\x7b' :: rest => goOn rest; inBraces budget quoted
    | first :: rest =>
      if isNameStart first then
        let name := (first :: rest).takeWhile isNameChar
        goOn ((first :: rest).dropWhile isNameChar)
        return .parameter (String.ofList name) .value quoted
      else if isSpecial first then
        goOn rest
        return .parameter (String.ofList [first]) .value quoted
      else return .literal "$" quoted
    | [] => return .literal "$" quoted

/-- An expansion in brackets. -/
def inBraces (budget : Nat) (quoted : Bool) : Reading Piece := do
  match budget with
  | 0 => fail .openBrace
  | budget + 1 =>
    let malformed (rest : List Char) : Reading Piece := do
      goOn rest
      let _ ← pieces budget (.brace quoted) [] []
      return .parameter "" .malformed quoted
    let opened (name : String) (after : List Char) : Reading Piece := do
      match after with
      | '\x7d' :: rest => goOn rest; return .parameter name .value quoted
      | _ =>
        match expansionAt? after with
        | some (expansion, rest) => goOn rest; expansionOf budget name expansion quoted
        | none => malformed (after.drop (if after.head? == some ':' then 2 else 1))
    match (← get).text with
    | '#' :: '\x7d' :: rest => goOn rest; return .parameter "#" .value quoted
    | '#' :: first :: inner =>
      match parameterName? (first :: inner) with
      | some (name, '\x7d' :: rest) => goOn rest; return .parameter name .length quoted
      | some (_, after) =>
        if isNameChar first then malformed after else opened "#" (first :: inner)
      | none =>
        if inner.head? == some '\x7d' then malformed inner else opened "#" (first :: inner)
    | text =>
      match parameterName? text with
      | some (name, after) => opened name after
      | none => malformed (text.drop (if text.head? == some '\x7d' then 0 else 1))

/-- The rest of an expansion with a word. -/
def expansionOf (budget : Nat) (name : String) (expansion : Word → Expansion) (quoted : Bool) :
    Reading Piece := do
  match budget with
  | 0 => fail .openBrace
  | budget + 1 =>
    let inDouble := quoted && !(expansion []).takesPattern
    let word ← pieces budget (.brace inDouble) [] []
    return .parameter name (expansion word) quoted

/-- A token. -/
def token (budget : Nat) : Reading Token := do
  match budget with
  | 0 => fail .openQuote
  | budget + 1 =>
    let source ← get
    let (text, joined) := skipBlanks (source.text.length + 1) 0 source.text
    set { source with text, line := source.line + joined }
    match text with
    | [] => return .finish
    | '\n' :: rest =>
      modify fun source => source.nextLine rest
      return .lineEnd
    | first :: rest =>
      match takeSymbol? operatorSymbols text with
      | some (symbol, rest) => goOn rest; return .operator symbol
      | none =>
        match takeSymbol? redirectionSymbols text with
        | some (symbol, rest) => goOn rest; return .redirection none symbol
        | none =>
          match isDigit first, takeSymbol? redirectionSymbols rest with
          | true, some (symbol, rest) =>
            goOn rest
            return .redirection (digitValue? first) symbol
          | _, _ => return .word (← pieces budget .word [] [])

/-- Looks at the next token. -/
def peek (budget : Nat) : Reading Token := do
  match budget with
  | 0 => fail .openQuote
  | budget + 1 =>
    match (← get).ahead with
    | some token => return token
    | none =>
      let token ← token budget
      modify fun source => { source with ahead := some token }
      return token

/-- Takes an operator. -/
def expectOperator (budget : Nat) (symbol : String) : Reading Unit := do
  match budget with
  | 0 => fail .openQuote
  | budget + 1 =>
    match ← peek budget with
    | .operator found =>
      if found = symbol then skip else refuse (.operator found) (some (marked symbol))
    | token => refuse token (some (marked symbol))

/-- Takes a reserved word. -/
def expectWord (budget : Nat) (text : String) : Reading Unit := do
  match budget with
  | 0 => fail .openQuote
  | budget + 1 =>
    let token ← peek budget
    if token.reserved? = some text then skip else refuse token (some (marked text))

/-- Takes line ends. -/
def skipLineEnds (budget : Nat) : Reading Unit := do
  match budget with
  | 0 => return
  | budget + 1 =>
    match ← peek budget with
    | .lineEnd => skip; skipLineEnds budget
    | _ => return

/-- A redirection after its symbol. -/
def redirection (budget : Nat) (digit : Option Nat) (symbol : String) : Reading Redirection := do
  match budget with
  | 0 => fail .descriptor
  | budget + 1 =>
    match ← peek budget with
    | .word word =>
      skip
      let descriptor := digit.getD (if symbol.startsWith "<" then 0 else 1)
      let isDocument := symbol == "<<" || symbol == "<<-"
      let direction : Direction ←
        if isDocument then do
          let (mark, isQuoted) := unquoted word
          let (document, line) ← takeDocument mark.toList (symbol == "<<-")
          if isQuoted then pure (.fromText [.literal (String.ofList document) true])
          else do
            let text ← apart (pieces budget .document [] []) document line
            pure (.fromText text)
        else
          pure (match symbol with
            | ">" => .toFile false word
            | ">|" => .toFile true word
            | ">>" => .atEndOf word
            | "<" => .fromFile word
            | "<>" => .throughFile word
            | _ => .likeOther word)
      return .mk descriptor direction
    | token => refuse token none

/-- Redirections. -/
def redirections (budget : Nat) (found : List Redirection) : Reading (List Redirection) := do
  match budget with
  | 0 => return found
  | budget + 1 =>
    match ← peek budget with
    | .redirection digit symbol =>
      skip
      let next ← redirection budget digit symbol
      redirections budget (found ++ [next])
    | _ => return found

/-- A simple command, or the definition of a command with a name. -/
def simple (budget line : Nat) (assignments : List (String × Word)) (words : List Word)
    (found : List Redirection) : Reading Command := do
  match budget with
  | 0 => fail .openQuote
  | budget + 1 =>
    match ← peek budget with
    | .word word =>
      skip
      match words, assignmentOf? word with
      | [], some assignment => simple budget line (assignments ++ [assignment]) [] found
      | _, _ => simple budget line assignments (words ++ [word]) found
    | .redirection digit symbol =>
      skip
      let next ← redirection budget digit symbol
      simple budget line assignments words (found ++ [next])
    | .operator "(" =>
      match assignments, words, found with
      | [], [name], [] =>
        skip
        expectOperator budget ")"
        match plainText? name with
        | some name =>
          if isName name then
            skipLineEnds budget
            return .define name (← command budget)
          else fail .functionName
        | none => fail .functionName
      | _, _, _ => return .simple line assignments words found
    | _ => return .simple line assignments words found

/-- A list of commands up to a token that closes it. -/
def sequence (budget : Nat) (mayBeEmpty : Bool) : Reading Command := do
  match budget with
  | 0 => fail .openQuote
  | budget + 1 =>
    skipLineEnds budget
    let token ← peek budget
    if token.isFinish || (mayBeEmpty && token.closes) then return .skip
    else
      let first ← conjunction budget
      match ← peek budget with
      | .operator ";" | .lineEnd => skip; return .sequence first (← sequence budget true)
      | .operator "&" => skip; return .sequence (.background first) (← sequence budget true)
      | _ => return first

/-- Commands joined by conjunctions and disjunctions, taken from left to right. -/
def conjunction (budget : Nat) : Reading Command := do
  match budget with
  | 0 => fail .openQuote
  | budget + 1 =>
    let first ← pipeline budget
    conjuncts budget first

/-- The further commands of conjunctions and disjunctions. -/
def conjuncts (budget : Nat) (first : Command) : Reading Command := do
  match budget with
  | 0 => fail .openQuote
  | budget + 1 =>
    match ← peek budget with
    | .operator "&&" =>
      skip
      skipLineEnds budget
      let second ← pipeline budget
      conjuncts budget (.conjunction first second)
    | .operator "||" =>
      skip
      skipLineEnds budget
      let second ← pipeline budget
      conjuncts budget (.disjunction first second)
    | _ => return first

/-- Commands each of which reads what the one before it writes, or the negation of that. -/
def pipeline (budget : Nat) : Reading Command := do
  match budget with
  | 0 => fail .openQuote
  | budget + 1 =>
    let isNegated := (← peek budget).reserved? = some "!"
    if isNegated then skip
    let first ← command budget
    let others ← stages budget
    let whole := if others.isEmpty then first else .pipeline (first :: others)
    return if isNegated then .negation whole else whole

/-- The further commands of a pipeline. -/
def stages (budget : Nat) : Reading (List Command) := do
  match budget with
  | 0 => return []
  | budget + 1 =>
    match ← peek budget with
    | .operator "|" =>
      skip
      skipLineEnds budget
      let next ← command budget
      return next :: (← stages budget)
    | _ => return []

/-- A compound command with its redirections, or a simple command. -/
def command (budget : Nat) : Reading Command := do
  match budget with
  | 0 => fail .openQuote
  | budget + 1 =>
    let token ← peek budget
    match token.reserved?, token with
    | some text, _ =>
      match text with
      | "if" => skip; redirected budget (← branch budget)
      | "while" => skip; redirected budget (← loop budget false)
      | "until" => skip; redirected budget (← loop budget true)
      | "for" => skip; redirected budget (← each budget)
      | "case" => skip; redirected budget (← choice budget)
      | "\x7b" =>
        skip
        let body ← sequence budget false
        expectWord budget "\x7d"
        redirected budget body
      | _ => refuse token none
    | none, .operator "(" =>
      skip
      let body ← sequence budget false
      expectOperator budget ")"
      redirected budget (.subshell body)
    | none, .word word =>
      match plainText? word with
      | some name =>
        match ← alias? name with
        | some text => replaceAlias name text; command budget
        | none => simple budget (← get).line [] [] []
      | none => simple budget (← get).line [] [] []
    | none, .redirection .. => simple budget (← get).line [] [] []
    | none, token => refuse token none

/-- A compound command and the redirections behind it. -/
def redirected (budget : Nat) (inner : Command) : Reading Command := do
  match budget with
  | 0 => return inner
  | budget + 1 =>
    match ← redirections budget [] with
    | [] => return inner
    | found => return .redirected inner found

/-- A conditional command after its first word. -/
def branch (budget : Nat) : Reading Command := do
  match budget with
  | 0 => fail .openQuote
  | budget + 1 =>
    let condition ← sequence budget false
    expectWord budget "then"
    let accepted ← sequence budget false
    match (← peek budget).reserved? with
    | some "elif" => skip; return .branch condition accepted (some (← branch budget))
    | some "else" =>
      skip
      let rejected ← sequence budget false
      expectWord budget "fi"
      return .branch condition accepted (some rejected)
    | _ => expectWord budget "fi"; return .branch condition accepted none

/-- A loop with a condition, after its first word. -/
def loop (budget : Nat) (untilHolds : Bool) : Reading Command := do
  match budget with
  | 0 => fail .openQuote
  | budget + 1 =>
    let condition ← sequence budget false
    expectWord budget "do"
    let body ← sequence budget false
    expectWord budget "done"
    return .loop untilHolds condition body

/-- The words that a loop goes over. -/
def values (budget : Nat) : Reading (List Word) := do
  match budget with
  | 0 => return []
  | budget + 1 =>
    match ← peek budget with
    | .word word => skip; return word :: (← values budget)
    | .operator ";" | .lineEnd => skip; return []
    | token => refuse token none

/-- A loop over values, after its first word. -/
def each (budget : Nat) : Reading Command := do
  match budget with
  | 0 => fail .openQuote
  | budget + 1 =>
    let line := (← get).line
    match ← peek budget with
    | .word word =>
      match plainText? word with
      | some name =>
        if isName name then
          skip
          let words ← head budget
          skipLineEnds budget
          expectWord budget "do"
          let body ← sequence budget false
          expectWord budget "done"
          return .each line name words body
        else fail .loopVariable
      | none => fail .loopVariable
    | _ => fail .loopVariable

/-- The words that a loop goes over, after its variable. -/
def head (budget : Nat) : Reading (List Word) := do
  match budget with
  | 0 => return []
  | budget + 1 =>
    match ← peek budget with
    | .operator ";" => skip; return allArguments
    | _ =>
      skipLineEnds budget
      if (← peek budget).reserved? = some "in" then skip; values budget
      else return allArguments

/-- A choice between commands, after its first word. -/
def choice (budget : Nat) : Reading Command := do
  match budget with
  | 0 => fail .openQuote
  | budget + 1 =>
    let line := (← get).line
    match ← peek budget with
    | .word subject =>
      skip
      skipLineEnds budget
      expectWord budget "in"
      return .choice line subject (← cases budget)
    | token => refuse token (some "word")

/-- The cases of a choice. -/
def cases (budget : Nat) : Reading (List (List Word × Command)) := do
  match budget with
  | 0 => return []
  | budget + 1 =>
    skipLineEnds budget
    let token ← peek budget
    if token.reserved? = some "esac" then skip; return []
    else
      match token with
      | .operator "(" => skip
      | _ => pure ()
      let patterns ← patterns budget
      let body ← sequence budget true
      match ← peek budget with
      | .operator ";;" => skip; return (patterns, body) :: (← cases budget)
      | token =>
        if token.reserved? = some "esac" then skip; return [(patterns, body)]
        else refuse token (some (marked ";;"))

/-- The patterns of a case, up to the bracket after them. -/
def patterns (budget : Nat) : Reading (List Word) := do
  match budget with
  | 0 => return []
  | budget + 1 =>
    match ← peek budget with
    | .word word =>
      skip
      match ← peek budget with
      | .operator "|" => skip; return word :: (← patterns budget)
      | _ => expectOperator budget ")"; return [word]
    | token => refuse token none

/-- All commands up to the end of the source. -/
def allCommands (budget : Nat) : Reading Command := do
  match budget with
  | 0 => fail .openQuote
  | budget + 1 =>
    let command ← sequence budget true
    match ← peek budget with
    | .finish => return command
    | token => refuse token none

end

/-- The budget for what is left of a script. -/
def budgetFor (text : List Char) : Nat := 10 * text.length + 100

/-- The commands of a line; none is left at the end of the script. -/
def line : Reading (Option Command) := do
  let budget := budgetFor (← get).text
  match ← peek budget with
  | .finish => return none
  | .lineEnd => skip; return some .skip
  | _ => some <$> commands budget budget
where
  /-- Commands up to the end of the line. -/
  commands (budget : Nat) : Nat → Reading Command
    | 0 => fail .openQuote
    | count + 1 => do
      let first ← conjunction budget
      match ← peek budget with
      | .finish => return first
      | .lineEnd => skip; return first
      | .operator ";" => skip; next budget count first
      | .operator "&" => skip; next budget count (.background first)
      | token => refuse token none
  /-- What follows a command on its line. -/
  next (budget count : Nat) (first : Command) : Reading Command := do
    match ← peek budget with
    | .finish => return first
    | .lineEnd => skip; return first
    | _ => return .sequence first (← commands budget count)

end Reading

end EditorSession.Shell
