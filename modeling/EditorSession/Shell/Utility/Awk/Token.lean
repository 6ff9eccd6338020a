import EditorSession.Shell.Format

/-!
# Tokens of programs on records

A program of `awk` as a row of tokens. A slash begins a regular expression where a value may stand,
and divides elsewhere; a line that ends where it cannot end goes on in the next one.
-/

namespace EditorSession.Shell.Awk

/-- A token. -/
inductive Token
  | number (text : String)
  | text (string : String)
  | regex (source : String)
  /-- A name that a bracket follows at once. -/
  | function (name : String)
  | name (name : String)
  | keyword (word : String)
  | symbol (symbol : String)
  | lineEnd
  deriving DecidableEq, Repr

/-- The words with a meaning of their own. -/
def keywords : List String :=
  ["BEGIN", "END", "if", "else", "while", "for", "next", "exit", "print", "printf"]

/-- The symbols, longer ones first. -/
def symbols : List String :=
  ["&&", "||", "++", "--", "+=", "-=", "*=", "/=", "%=", "==", "<=", ">=", "!=",
    "!~", "\x7b", "\x7d", "(", ")", ";", ",", "+", "-", "*", "/", "%", "!", ">", "<", "?", ":",
    "~", "$", "="]

/-- Whether a slash after a token divides. -/
def Token.endsValue : Token → Bool
  | number _ | text _ | regex _ | name _ => true
  | symbol sign => sign = ")" || sign = "++" || sign = "--"
  | function _ | keyword _ | lineEnd => false

/-- The characters of a text up to a mark, with the backslashes in it, and the rest behind the
mark. -/
def upTo (mark : Char) (read : List Char) : List Char → Option (List Char × List Char)
  | [] => none
  | '\\' :: next :: rest => upTo mark (next :: '\\' :: read) rest
  | first :: rest =>
    if first = mark then some (read.reverse, rest)
    else if first = '\n' then none
    else upTo mark (first :: read) rest

/-- A text with its escapes replaced. -/
def unescaped (budget : Nat) (text : List Char) : List Char :=
  match budget with
  | 0 => []
  | budget + 1 =>
    match text with
    | [] => []
    | '\\' :: '"' :: rest => '"' :: unescaped budget rest
    | '\\' :: '\n' :: rest => unescaped budget rest
    | '\\' :: rest =>
      let (found, rest) := Format.escapeAt rest
      found ++ unescaped budget rest
    | first :: rest => first :: unescaped budget rest

/-- The source of a regular expression without the backslashes before slashes. -/
def regexSource : List Char → List Char
  | '\\' :: '/' :: rest => '/' :: regexSource rest
  | '\\' :: next :: rest => '\\' :: next :: regexSource rest
  | first :: rest => first :: regexSource rest
  | [] => []

/-- The digits of a number at the start of a text, and the rest. -/
def numberAt (text : List Char) : List Char × List Char :=
  let whole := text.takeWhile isDigit
  let rest := text.drop whole.length
  let (places, rest) : List Char × List Char :=
    match rest with
    | '.' :: rest =>
      let digits := rest.takeWhile isDigit
      ('.' :: digits, rest.drop digits.length)
    | rest => ([], rest)
  let power : List Char :=
    match rest with
    | mark :: sign :: digits =>
      if mark ≠ 'e' ∧ mark ≠ 'E' then []
      else if isDigit sign then mark :: sign :: digits.takeWhile isDigit
      else if sign = '-' ∨ sign = '+' then
        let found := digits.takeWhile isDigit
        if found.isEmpty then [] else mark :: sign :: found
      else []
    | _ => []
  (whole ++ places ++ power, rest.drop power.length)

/-- The tokens of a program; `last` is the one before. -/
def tokens (budget : Nat) (last : Option Token) (text : List Char) :
    Except String (List Token) :=
  match budget with
  | 0 => .ok []
  | budget + 1 =>
    let goOn (token : Token) (rest : List Char) : Except String (List Token) := do
      return token :: (← tokens budget (some token) rest)
    match text with
    | [] => .ok []
    | '\\' :: '\n' :: rest => tokens budget last rest
    | '\n' :: rest => goOn .lineEnd rest
    | '#' :: rest => tokens budget last (rest.dropWhile (· ≠ '\n'))
    | '"' :: rest =>
      match upTo '"' [] rest with
      | some (found, rest) =>
        goOn (.text (String.ofList (unescaped (found.length + 1) found))) rest
      | none => .error "unterminated string"
    | first :: rest =>
      if first = ' ' ∨ first = '\t' ∨ first = '\r' then tokens budget last rest
      else if isDigit first || (first = '.' && (rest.head?).any isDigit) then
        let (digits, rest) := numberAt text
        goOn (.number (String.ofList digits)) rest
      else if isNameStart first then
        let name := text.takeWhile isNameChar
        let rest := text.drop name.length
        let word := String.ofList name
        if word ∈ keywords then goOn (.keyword word) rest
        else if rest.head? = some '(' then goOn (.function word) rest
        else goOn (.name word) rest
      else if first = '/' && !last.any Token.endsValue then
        match upTo '/' [] rest with
        | some (found, rest) => goOn (.regex (String.ofList (regexSource found))) rest
        | none => .error "unterminated regular expression"
      else
        match symbols.find? fun symbol => symbol.toList.isPrefixOf text with
        | some symbol => goOn (.symbol symbol) (text.drop symbol.length)
        | none => .error ("unexpected character " ++ String.ofList [first])

end EditorSession.Shell.Awk
