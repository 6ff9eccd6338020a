import EditorSession.Text.Utf8

/-!
# Texts of octets

The shell knows texts only as octets: it counts them, cuts between any two of them, and passes them
on as they are. Here such a text is a string each of whose characters has the number of an octet, so
that a character stands for one octet and not for what several of them encode.
-/

namespace EditorSession.Shell

/-- The text of octets. -/
def textOf (octets : Octets) : String :=
  String.ofList (octets.map fun octet => Char.ofNat octet.toNat)

/-- The octets of a text. -/
def octetsOf (text : String) : Octets :=
  text.toList.map fun character => UInt8.ofNat character.toNat

/-- The octets that encode a string, as a text. -/
def encoded (string : String) : String := textOf (Text.Utf8.ofString string)

/-- The string that the octets of a text encode. -/
def decoded (text : String) : String := Text.Utf8.display (octetsOf text)

/-! ### Characters -/

/-- Whether a character may start the name of a variable. -/
def isNameStart (character : Char) : Bool :=
  ('a' ≤ character && character ≤ 'z') || ('A' ≤ character && character ≤ 'Z')
    || character = '_'

/-- Whether a character is a decimal digit. -/
def isDigit (character : Char) : Bool :=
  '0' ≤ character && character ≤ '9'

/-- Whether a character may stand in the name of a variable. -/
def isNameChar (character : Char) : Bool :=
  isNameStart character || isDigit character

/-- Whether a text is the name of a variable. -/
def isName (text : String) : Bool :=
  match text.toList with
  | [] => false
  | first :: rest => isNameStart first && rest.all isNameChar

/-- Whether a character is a blank between words. -/
def isBlank (character : Char) : Bool := character = ' ' || character = '\t'

/-- Whether a character is white space. -/
def isSpace (character : Char) : Bool :=
  character = ' ' || (0x09 ≤ character.toNat && character.toNat ≤ 0x0D)

/-- The value of decimal digits. -/
def decimalValue (digits : List Char) : Nat :=
  digits.foldl (fun total digit => total * 10 + (digit.toNat - 48)) 0

/-- The number that decimal digits write, if a text has nothing else. -/
def decimal? (text : String) : Option Nat :=
  if text.isEmpty || !text.toList.all isDigit then none else some (decimalValue text.toList)

/-- The value of a digit in bases up to 36. -/
def digitValue? (digit : Char) : Option Nat :=
  if isDigit digit then some (digit.toNat - 48)
  else if 'a' ≤ digit ∧ digit ≤ 'z' then some (digit.toNat - 87)
  else if 'A' ≤ digit ∧ digit ≤ 'Z' then some (digit.toNat - 55)
  else none

/-- Whether a character is a digit in a base. -/
def isDigitOf (base : Nat) (character : Char) : Bool :=
  match digitValue? character with
  | some value => value < base
  | none => false

/-- The value of digits in a base. -/
def valueIn (base : Nat) (digits : List Char) : Nat :=
  digits.foldl (fun total digit => total * base + (digitValue? digit).getD 0) 0

/-- The base that the start of a number names, and its digits. -/
def baseOf : List Char → Nat × List Char
  | '0' :: 'x' :: rest | '0' :: 'X' :: rest =>
    match rest with
    | digit :: _ => if isDigitOf 16 digit then (16, rest) else (8, '0' :: 'x' :: rest)
    | [] => (8, ['0', 'x'])
  | '0' :: rest => (8, '0' :: rest)
  | digits => (10, digits)

/-- The number at the start of a text, in the base that its start names, and the rest. -/
def leadingNumber (text : List Char) : Option (Nat × List Char) :=
  let (base, digits) := baseOf text
  match digits.takeWhile (isDigitOf base) with
  | [] => none
  | found => some (valueIn base found, digits.dropWhile (isDigitOf base))

/-- The signed number at the start of a text after white space, and the rest. -/
def leadingInteger (text : List Char) : Option (Int × List Char) :=
  match text.dropWhile isSpace with
  | '-' :: rest => (leadingNumber rest).map fun (value, rest) => (-(value : Int), rest)
  | '+' :: rest => (leadingNumber rest).map fun (value, rest) => ((value : Int), rest)
  | rest => (leadingNumber rest).map fun (value, rest) => ((value : Int), rest)

end EditorSession.Shell
