import EditorSession.Datum
import EditorSession.Decimal.Shortest

/-!
# Writing JSON

The compact form has no blank; the pretty form puts each item and member on a line of its own, two
blanks deeper than its bracket, and writes an empty list as two brackets. Of strings only the
quotation mark, the backslash and the control characters below the blank are escaped.
-/

namespace EditorSession.Json

/-- The character of a hexadecimal digit, in lower case. -/
def hexDigit (digit : Nat) : Char :=
  Char.ofNat (if digit < 10 then 48 + digit else 87 + digit)

/-- One character inside a string. -/
def writeChar (character : Char) : List Char :=
  if character = '"' then ['\\', '"']
  else if character = '\\' then ['\\', '\\']
  else if 0x20 ≤ character.toNat then [character]
  else if character = '\n' then ['\\', 'n']
  else if character = '\r' then ['\\', 'r']
  else if character = '\t' then ['\\', 't']
  else if character.toNat = 0x08 then ['\\', 'b']
  else if character.toNat = 0x0C then ['\\', 'f']
  else ['\\', 'u', '0', '0', hexDigit (character.toNat / 16), hexDigit (character.toNat % 16)]

/-- A string between quotation marks. -/
def writeText (text : String) : List Char :=
  '"' :: (text.toList.flatMap writeChar ++ ['"'])

/-- An integer in decimal digits. -/
def writeInteger (value : Int) : List Char :=
  if 0 ≤ value then Nat.toDigits 10 value.toNat else '-' :: Nat.toDigits 10 (-value).toNat

/-- An exponent of ten: its sign and its digits. -/
def writeExponent (exponent : Int) : List Char :=
  (if exponent < 0 then '-' else '+') :: Nat.toDigits 10 exponent.natAbs

/-- A decimal: positional while its first digit stands between `10 ^ (-5)` and `10 ^ 15`, with an
exponent otherwise. -/
def writeDecimal (decimal : Decimal.Scaled) : List Char :=
  let leading := decimal.leading
  if -5 ≤ leading ∧ leading < 16 then decimal.positional
  else
    match decimal.digits with
    | [] => []
    | [digit] => digit :: 'e' :: writeExponent leading
    | digit :: rest => digit :: '.' :: (rest ++ 'e' :: writeExponent leading)

/-- A double in the fewest digits that read back; what is not finite has no form but null. -/
def writeReal : Decimal.Binary64 → List Char
  | .finite negative significand exponent =>
    let written := writeDecimal (Decimal.shortest significand exponent)
    if negative then '-' :: written else written
  | .infinite _ | .undefined => "null".toList

mutual

/-- The compact form of a value. -/
def write : Datum → List Char
  | .null => "null".toList
  | .flag true => "true".toList
  | .flag false => "false".toList
  | .integer value => writeInteger value
  | .real value => writeReal value
  | .text value => writeText value
  | .stamp written => writeText written
  | .list items | .tables items => '[' :: (writeItems items ++ [']'])
  | .record members => '\x7b' :: (writeMembers members ++ ['\x7d'])

/-- Items between commas. -/
def writeItems : List Datum → List Char
  | [] => []
  | item :: rest =>
    write item ++ (if rest.isEmpty then [] else ',' :: writeItems rest)

/-- Members between commas. -/
def writeMembers : List (String × Datum) → List Char
  | [] => []
  | (name, value) :: rest =>
    writeText name ++ ':' ::
      (write value ++ (if rest.isEmpty then [] else ',' :: writeMembers rest))

end

/-- The start of a line at a depth. -/
def newLine (depth : Nat) : List Char :=
  '\n' :: List.replicate (2 * depth) ' '

mutual

/-- The pretty form of a value whose brackets stand at a depth. -/
def writePretty (depth : Nat) : Datum → List Char
  | .list [] | .tables [] => ['[', ']']
  | .record [] => ['\x7b', '\x7d']
  | .list items | .tables items =>
    '[' :: (writePrettyItems (depth + 1) items ++ newLine depth ++ [']'])
  | .record members =>
    '\x7b' :: (writePrettyMembers (depth + 1) members ++ newLine depth ++ ['\x7d'])
  | value => write value

/-- Items on lines of their own. -/
def writePrettyItems (depth : Nat) : List Datum → List Char
  | [] => []
  | item :: rest =>
    newLine depth ++ writePretty depth item
      ++ (if rest.isEmpty then [] else ',' :: writePrettyItems depth rest)

/-- Members on lines of their own. -/
def writePrettyMembers (depth : Nat) : List (String × Datum) → List Char
  | [] => []
  | (name, value) :: rest =>
    newLine depth ++ writeText name ++ ':' :: ' ' :: (writePretty depth value
      ++ (if rest.isEmpty then [] else ',' :: writePrettyMembers depth rest))

end

/-- The compact form as a string. -/
def compact (datum : Datum) : String := String.ofList (write datum)

/-- The pretty form as a string. -/
def pretty (datum : Datum) : String := String.ofList (writePretty 0 datum)

end EditorSession.Json
