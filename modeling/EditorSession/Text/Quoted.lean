import EditorSession.Text.Printable

/-!
# Quoted text

A text between quotation marks, as messages and journal fields show it. The mark itself and the
backslash are escaped, line breaks and tabs have names, and every other character that is not
printable is given by its code point in hexadecimal digits.
-/

namespace EditorSession.Text

/-- The hexadecimal digits of a number, in lower case. -/
def hexDigits (number : Nat) : List Char :=
  Nat.toDigits 16 number

/-- One character inside quotation marks. -/
def quoteChar (character : Char) : List Char :=
  if character = '"' then ['\\', '"']
  else if character = '\\' then ['\\', '\\']
  else if character = '\n' then ['\\', 'n']
  else if character = '\r' then ['\\', 'r']
  else if character = '\t' then ['\\', 't']
  else if character.toNat = 0 then ['\\', '0']
  else if isPrintable character then [character]
  else ['\\', 'u', '\x7b'] ++ hexDigits character.toNat ++ ['\x7d']

/-- A text between quotation marks. -/
def quoted (text : String) : String :=
  String.ofList (('"' :: text.toList.flatMap quoteChar) ++ ['"'])

/-- A list of texts, each between quotation marks. -/
def quotedList (texts : List String) : String :=
  "[" ++ String.intercalate ", " (texts.map quoted) ++ "]"

/-- An optional value, as journal fields show it. -/
def quotedOption (value : Option String) : String :=
  match value with
  | some shown => "Some(" ++ shown ++ ")"
  | none => "None"

end EditorSession.Text
