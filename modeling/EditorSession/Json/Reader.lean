import EditorSession.Datum

/-!
# Reading JSON

The strict grammar: no comments, no trailing commas, no leading zeros, no lone surrogates, no
control characters in strings. Lists and records may be nested up to a limit. The members of a
record come out in the order of their names, the last of equal names winning. A number without
fraction and exponent is an integer while it fits 64 bits; every other number is a double, computed
from the digits that fit an unsigned 64-bit significand and a table of powers of ten.
-/

namespace EditorSession.Json

open Decimal (Binary64)

/-- The deepest nesting of a payload. -/
def nestingLimit : Nat := 127

/-- Blanks between the parts of a document. -/
def isGap (character : Char) : Bool :=
  character = ' ' || character = '\t' || character = '\n' || character = '\r'

/-- The rest of a document after blanks. -/
def skipGap (text : List Char) : List Char :=
  text.dropWhile isGap

/-- The value of a hexadecimal digit of either case. -/
def hexValue? (character : Char) : Option Nat :=
  if '0' ≤ character ∧ character ≤ '9' then some (character.toNat - 48)
  else if 'a' ≤ character ∧ character ≤ 'f' then some (character.toNat - 87)
  else if 'A' ≤ character ∧ character ≤ 'F' then some (character.toNat - 55)
  else none

/-- The value of four hexadecimal digits. -/
def hexQuad? (first second third fourth : Char) : Option Nat := do
  let first ← hexValue? first
  let second ← hexValue? second
  let third ← hexValue? third
  let fourth ← hexValue? fourth
  return ((first * 16 + second) * 16 + third) * 16 + fourth

/-- The character that a one-letter escape names. -/
def namedEscape? (letter : Char) : Option Char :=
  match letter with
  | '"' => some '"'
  | '\\' => some '\\'
  | '/' => some '/'
  | 'b' => some '\x08'
  | 'f' => some '\x0c'
  | 'n' => some '\n'
  | 'r' => some '\r'
  | 't' => some '\t'
  | _ => none

/-- A string after its opening mark; `read` holds its characters so far, last first. -/
def readText (read : List Char) : List Char → Option (String × List Char)
  | [] => none
  | '"' :: rest => some (String.ofList read.reverse, rest)
  | '\\' :: 'u' :: first :: second :: third :: fourth :: rest =>
    match hexQuad? first second third fourth with
    | none => none
    | some unit =>
      if 0xD800 ≤ unit ∧ unit < 0xDC00 then
        match rest with
        | '\\' :: 'u' :: fifth :: sixth :: seventh :: eighth :: rest =>
          match hexQuad? fifth sixth seventh eighth with
          | none => none
          | some trail =>
            if 0xDC00 ≤ trail ∧ trail < 0xE000 then
              readText
                (Char.ofNat (0x10000 + (unit - 0xD800) * 0x400 + (trail - 0xDC00)) :: read) rest
            else none
        | _ => none
      else if 0xDC00 ≤ unit ∧ unit < 0xE000 then none
      else readText (Char.ofNat unit :: read) rest
  | '\\' :: letter :: rest =>
    match namedEscape? letter with
    | none => none
    | some character => readText (character :: read) rest
  | character :: rest =>
    if character.toNat < 0x20 ∨ character = '\\' then none else readText (character :: read) rest

/-- The value of a decimal digit. -/
def digitValue (digit : Char) : Nat := digit.toNat - 48

/-- The greatest unsigned 64-bit number. -/
def greatestWord : Nat := Nat.pow 2 64 - 1

/-- Digits taken into a significand while it fits 64 bits, and the number of digits left over. -/
def accumulate (significand : Nat) : List Char → Nat × Nat
  | [] => (significand, 0)
  | digit :: rest =>
    let next := significand * 10 + digitValue digit
    if next ≤ greatestWord then accumulate next rest else (significand, rest.length + 1)

/-- A double divided by ten to a power beyond the table, a table's length at a time. -/
def scaleDown (value : Binary64) (power : Nat) : Binary64 :=
  if power ≤ 308 then value.divide (Binary64.powerOfTen power)
  else if value.isZero then value
  else scaleDown (value.divide (Binary64.powerOfTen 308)) (power - 308)
termination_by power

/-- A significand times a power of ten; nothing where that is beyond the doubles. -/
def scale? (significand : Nat) (exponent : Int) : Option Binary64 :=
  let value := Binary64.ofNat significand
  if 0 ≤ exponent then
    if exponent ≤ 308 then
      match value.multiply (Binary64.powerOfTen exponent.toNat) with
      | .infinite _ => none
      | product => some product
    else if value.isZero then some value
    else none
  else some (scaleDown value (-exponent).toNat)

/-- The parts of a number as written. -/
structure Numeral where
  negative : Bool
  whole : List Char
  fraction : List Char
  /-- Whether the exponent is negative, and its digits. -/
  exponent : Option (Bool × List Char)
  /-- Whether the number has neither fraction nor exponent. -/
  plain : Bool

/-- The double that a numeral denotes. -/
def Numeral.real? (numeral : Numeral) : Option Binary64 :=
  let (significand, surplus) := accumulate 0 numeral.whole
  let (significand, unused) := accumulate significand numeral.fraction
  let shift : Int := (surplus : Int) - ((numeral.fraction.length - unused : Nat) : Int)
  let value? :=
    match numeral.exponent with
    | none => scale? significand shift
    | some (negative, digits) =>
      let exponent := digits.foldl (fun total digit => total * 10 + digitValue digit) 0
      if exponent < Nat.pow 2 31 then
        scale? significand (if negative then shift - exponent else shift + exponent)
      else if significand ≠ 0 ∧ !negative then none
      else some (Binary64.zero false)
  value?.map fun value => if numeral.negative then value.negate else value

/-- The value that a numeral denotes. -/
def Numeral.datum? (numeral : Numeral) : Option Datum :=
  let (significand, surplus) := accumulate 0 numeral.whole
  if numeral.plain ∧ surplus = 0 then
    if !numeral.negative then some (.integer significand)
    else if 0 < significand ∧ significand ≤ Nat.pow 2 63 then
      some (.integer (-(significand : Int)))
    else some (.real (Binary64.ofNat significand).negate)
  else numeral.real?.map .real

/-- Whether a character is a decimal digit. -/
def isDigit (character : Char) : Bool :=
  '0' ≤ character && character ≤ '9'

/-- A fraction, if the text starts with one. -/
def readFraction (text : List Char) : Option (Option (List Char) × List Char) :=
  match text with
  | '.' :: rest =>
    let digits := rest.takeWhile isDigit
    if digits.isEmpty then none else some (some digits, rest.dropWhile isDigit)
  | _ => some (none, text)

/-- An exponent, if the text starts with one. -/
def readExponent (text : List Char) : Option (Option (Bool × List Char) × List Char) :=
  match text with
  | mark :: rest =>
    if mark = 'e' ∨ mark = 'E' then
      let (negative, rest) :=
        match rest with
        | '-' :: rest => (true, rest)
        | '+' :: rest => (false, rest)
        | rest => (false, rest)
      let digits := rest.takeWhile isDigit
      if digits.isEmpty then none else some (some (negative, digits), rest.dropWhile isDigit)
    else some (none, text)
  | [] => some (none, [])

/-- A number at the start of a text. -/
def readNumber (text : List Char) : Option (Datum × List Char) :=
  let (negative, text) :=
    match text with
    | '-' :: rest => (true, rest)
    | text => (false, text)
  let whole := text.takeWhile isDigit
  if whole.isEmpty ∨ (whole.head? = some '0' ∧ 1 < whole.length) then none
  else
    match readFraction (text.dropWhile isDigit) with
    | none => none
    | some (fraction, rest) =>
      match readExponent rest with
      | none => none
      | some (exponent, rest) =>
        let numeral : Numeral :=
          { negative, whole, fraction := fraction.getD [], exponent
            plain := fraction.isNone && exponent.isNone }
        numeral.datum?.map fun datum => (datum, rest)

/-- A literal word and what it denotes. -/
def readWord (text : List Char) : Option (Datum × List Char) :=
  match text with
  | 'n' :: 'u' :: 'l' :: 'l' :: rest => some (.null, rest)
  | 't' :: 'r' :: 'u' :: 'e' :: rest => some (.flag true, rest)
  | 'f' :: 'a' :: 'l' :: 's' :: 'e' :: rest => some (.flag false, rest)
  | _ => none

mutual

/-- A value at the start of a text, with `depth` levels of nesting left. -/
def readValue (budget depth : Nat) (text : List Char) : Option (Datum × List Char) :=
  match budget with
  | 0 => none
  | budget + 1 =>
    match skipGap text with
    | '"' :: rest => (readText [] rest).map fun (read, rest) => (.text read, rest)
    | '[' :: rest =>
      match depth with
      | 0 => none
      | depth + 1 =>
        match skipGap rest with
        | ']' :: rest => some (.list [], rest)
        | rest => (readItems budget depth rest).map fun (items, rest) => (.list items, rest)
    | '\x7b' :: rest =>
      match depth with
      | 0 => none
      | depth + 1 =>
        match skipGap rest with
        | '\x7d' :: rest => some (.record [], rest)
        | rest => (readMembers budget depth [] rest).map fun (read, rest) => (.record read, rest)
    | first :: rest =>
      if first = '-' ∨ isDigit first then readNumber (first :: rest) else readWord (first :: rest)
    | [] => none

/-- The items of a list up to its closing bracket. -/
def readItems (budget depth : Nat) (text : List Char) : Option (List Datum × List Char) :=
  match budget with
  | 0 => none
  | budget + 1 =>
    match readValue budget depth text with
    | none => none
    | some (item, rest) =>
      match skipGap rest with
      | ',' :: rest => (readItems budget depth rest).map fun (items, rest) => (item :: items, rest)
      | ']' :: rest => some ([item], rest)
      | _ => none

/-- The members of a record up to its closing bracket, added to those already read. -/
def readMembers (budget depth : Nat) (read : Members) (text : List Char) :
    Option (Members × List Char) :=
  match budget with
  | 0 => none
  | budget + 1 =>
    match skipGap text with
    | '"' :: rest =>
      match readText [] rest with
      | none => none
      | some (name, rest) =>
        match skipGap rest with
        | ':' :: rest =>
          match readValue budget depth rest with
          | none => none
          | some (value, rest) =>
            let read := read.insertSorted name value
            match skipGap rest with
            | ',' :: rest => readMembers budget depth read rest
            | '\x7d' :: rest => some (read, rest)
            | _ => none
        | _ => none
    | _ => none

end

/-- The value that a whole text denotes, nested no deeper than a limit. Every step of the reader
that goes deeper or further consumes a character, so two steps for each are enough. -/
def readWithin (limit : Nat) (text : List Char) : Option Datum :=
  match readValue (2 * text.length + 2) limit text with
  | some (datum, rest) => if (skipGap rest).isEmpty then some datum else none
  | none => none

/-- The value that a payload denotes. -/
def read (text : List Char) : Option Datum :=
  readWithin nestingLimit text

end EditorSession.Json
