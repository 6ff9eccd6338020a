import EditorSession.Toml.Lexeme

/-!
# Numbers, dates and times of TOML

Integers of 64 bits in four bases, with underscores between digits; doubles, rounded to the nearest;
dates, times and date-times, each in its range. An integer that does not fit and a double beyond the
greatest one are no values.
-/

namespace EditorSession.Toml

open Decimal (Binary64)
open Json (isDigit digitValue hexValue?)

/-- Digits of a class, with single underscores between them. -/
def readDigits (isOf : Char → Bool) : List Char → List Char × List Char
  | [] => ([], [])
  | '_' :: digit :: rest =>
    if isOf digit then
      let (digits, rest) := readDigits isOf rest
      (digit :: digits, rest)
    else ([], '_' :: digit :: rest)
  | digit :: rest =>
    if isOf digit then
      let (digits, rest) := readDigits isOf rest
      (digit :: digits, rest)
    else ([], digit :: rest)

/-- Digits that start with a digit and do not stop at an underscore. -/
def readWhole (isOf : Char → Bool) (text : List Char) : Option (List Char × List Char) :=
  match text with
  | first :: rest =>
    if isOf first then
      let (digits, rest) := readDigits isOf rest
      if rest.head? = some '_' then none else some (first :: digits, rest)
    else none
  | [] => none

/-- The value of digits in a base. -/
def valueOf (base : Nat) (digits : List Char) : Nat :=
  digits.foldl (fun total digit => total * base + (hexValue? digit).getD 0) 0

/-- The greatest integer. -/
def greatestInteger : Nat := Nat.pow 2 63 - 1

/-- An integer in a base other than ten, after the two characters that announce it. -/
def readBased (base : Nat) (isOf : Char → Bool) (text : List Char) :
    Option (Datum × List Char) :=
  match readWhole isOf text with
  | none => none
  | some (digits, rest) =>
    let value := valueOf base digits
    if value ≤ greatestInteger then some (.integer value, rest) else none

/-- A double from its decimal parts. Beyond four hundred places the answer is known without the
power of ten. -/
def realOf (negative : Bool) (whole fraction : List Char) (exponent : Int) : Binary64 :=
  let coefficient := valueOf 10 (whole ++ fraction)
  let exponent := exponent - (fraction.length : Int)
  let leading := exponent + ((Nat.toDigits 10 coefficient).length : Int)
  if coefficient = 0 ∨ leading < -400 then Binary64.zero negative
  else if 400 < leading then .infinite negative
  else Binary64.ofScaled negative coefficient exponent

/-- The sign that a number may start with. -/
def readSign : List Char → Bool × List Char
  | '-' :: rest => (true, rest)
  | '+' :: rest => (false, rest)
  | text => (false, text)

/-- Digits that may start with zeros. -/
def readExponent (text : List Char) : Option (Int × List Char) :=
  let (negative, rest) := readSign text
  (readWhole isDigit rest).map fun (digits, rest) =>
    let value := (valueOf 10 digits : Int)
    (if negative then -value else value, rest)

/-- A number in base ten, with or without fraction and exponent, after its sign. -/
def readDecimal (negative : Bool) (text : List Char) : Option (Datum × List Char) :=
  let whole? :=
    match text with
    | '0' :: rest => some (['0'], rest)
    | text => readWhole isDigit text
  match whole? with
  | none => none
  | some (whole, rest) =>
    let finish (fraction : List Char) (exponent : Int) (rest : List Char) :=
      match realOf negative whole fraction exponent with
      | .infinite false => none
      | value => some (Datum.real value, rest)
    let withExponent (fraction : List Char) (rest : List Char) :=
      match readExponent rest with
      | none => none
      | some (exponent, rest) => finish fraction exponent rest
    match rest with
    | '.' :: rest =>
      match readWhole isDigit rest with
      | none => none
      | some (fraction, 'e' :: rest) => withExponent fraction rest
      | some (fraction, 'E' :: rest) => withExponent fraction rest
      | some (fraction, rest) => finish fraction 0 rest
    | 'e' :: rest | 'E' :: rest => withExponent [] rest
    | rest =>
      let value := valueOf 10 whole
      if negative then
        if value ≤ greatestInteger + 1 then some (.integer (-(value : Int)), rest) else none
      else if value ≤ greatestInteger then some (.integer value, rest)
      else none

/-- A number. -/
def readNumber (text : List Char) : Option (Datum × List Char) :=
  match text with
  | '0' :: 'x' :: rest => readBased 16 (fun digit => (hexValue? digit).isSome) rest
  | '0' :: 'o' :: rest => readBased 8 (fun digit => '0' ≤ digit && digit ≤ '7') rest
  | '0' :: 'b' :: rest => readBased 2 (fun digit => digit = '0' || digit = '1') rest
  | text =>
    let (negative, rest) := readSign text
    match rest with
    | 'i' :: 'n' :: 'f' :: rest => some (.real (.infinite negative), rest)
    | 'n' :: 'a' :: 'n' :: rest => some (.real .undefined, rest)
    | rest => readDecimal negative rest

/-- A number of exactly so many digits, within bounds. -/
def readField (width low high : Nat) (text : List Char) : Option (Nat × List Char) :=
  let digits := text.take width
  if digits.length = width ∧ digits.all isDigit then
    let value := valueOf 10 digits
    if low ≤ value ∧ value ≤ high then some (value, text.drop width) else none
  else none

/-- The rest of a text after a character. -/
def readMark (mark : Char) : List Char → Option (List Char)
  | first :: rest => if first = mark then some rest else none
  | [] => none

/-- The days of a month. -/
def daysIn (year month : Nat) : Nat :=
  if month = 2 then
    if year % 4 = 0 ∧ (year % 100 ≠ 0 ∨ year % 400 = 0) then 29 else 28
  else if month = 4 ∨ month = 6 ∨ month = 9 ∨ month = 11 then 30
  else 31

/-- The rest of a text after a date. -/
def readDate (text : List Char) : Option (List Char) := do
  let (year, rest) ← readField 4 0 9999 text
  let rest ← readMark '-' rest
  let (month, rest) ← readField 2 1 12 rest
  let rest ← readMark '-' rest
  let (_, rest) ← readField 2 1 (daysIn year month) rest
  return rest

/-- The rest of a text after a time of day. -/
def readTime (text : List Char) : Option (List Char) := do
  let (_, rest) ← readField 2 0 23 text
  let rest ← readMark ':' rest
  let (_, rest) ← readField 2 0 59 rest
  let rest ← readMark ':' rest
  let (_, rest) ← readField 2 0 60 rest
  match rest with
  | '.' :: rest => if (rest.takeWhile isDigit).isEmpty then none else some (rest.dropWhile isDigit)
  | rest => some rest

/-- The rest of a text after the offset that a time may have. -/
def skipOffset (text : List Char) : List Char :=
  let numeric (rest : List Char) : Option (List Char) := do
    let (_, rest) ← readField 2 0 23 rest
    let rest ← readMark ':' rest
    let (_, rest) ← readField 2 0 59 rest
    return rest
  match text with
  | 'Z' :: rest | 'z' :: rest => rest
  | '+' :: rest | '-' :: rest => (numeric rest).getD text
  | text => text

/-- The rest of a text after a date, a time or both. -/
def readMoment (text : List Char) : Option (List Char) :=
  match readDate text with
  | none => readTime text
  | some rest =>
    match rest with
    | 'T' :: time | 't' :: time | ' ' :: time =>
      match readTime time with
      | some rest => some (skipOffset rest)
      | none => some rest
    | rest => some rest

/-- A date, a time, both, or a number. -/
def readScalar (text : List Char) : Option (Datum × List Char) :=
  match readMoment text with
  | some rest =>
    some (.stamp (String.ofList (text.take (text.length - rest.length))), rest)
  | none => readNumber text

end EditorSession.Toml
