import EditorSession.Decimal.Shortest
import EditorSession.Shell.Plain

/-!
# Formatted output

The formats of `printf` and the escapes of `echo`. A format is used again as long as there are
arguments that it has not consumed. An argument that is no number is complained of and counts for as
much of it as is one; an unknown conversion ends the output.
-/

namespace EditorSession.Shell.Format

/-! ### Escapes -/

/-- The number of the octet that a letter after a backslash stands for. -/
def escapeCode? (letter : Char) : Option Nat :=
  match letter with
  | '\\' => some 0x5C
  | 'a' => some 0x07
  | 'b' => some 0x08
  | 'e' => some 0x1B
  | 'f' => some 0x0C
  | 'n' => some 0x0A
  | 'r' => some 0x0D
  | 't' => some 0x09
  | 'v' => some 0x0B
  | _ => none

/-- Up to so many octal digits at the start of a text, and the rest. -/
def octalDigits (most : Nat) (text : List Char) : List Char × List Char :=
  let digits := (text.take most).takeWhile (isDigitOf 8)
  (digits, text.drop digits.length)

/-- The character that octal digits write. -/
def octalChar (digits : List Char) : Char := Char.ofNat (valueIn 8 digits % 256)

/-- The characters for an escape after its backslash, and the rest of the text. -/
def escapeAt (text : List Char) : List Char × List Char :=
  match text with
  | [] => (['\\'], [])
  | letter :: rest =>
    match escapeCode? letter, octalDigits 3 text with
    | some code, _ => ([Char.ofNat code], rest)
    | none, ([], _) => (['\\', letter], rest)
    | none, (digits, rest) => ([octalChar digits], rest)

/-- A text with its escapes replaced; yields whether output goes on after it. -/
def unescapeFrom (budget : Nat) (read : List Char) (text : List Char) : List Char × Bool :=
  match budget with
  | 0 => (read.reverse, true)
  | budget + 1 =>
    match text with
    | [] => (read.reverse, true)
    | '\\' :: 'c' :: _ => (read.reverse, false)
    | '\\' :: '0' :: rest =>
      let (digits, rest) := octalDigits 3 rest
      unescapeFrom budget (octalChar digits :: read) rest
    | '\\' :: rest =>
      let (found, rest) := escapeAt rest
      unescapeFrom budget (found.reverse ++ read) rest
    | character :: rest => unescapeFrom budget (character :: read) rest

/-- A text with its escapes replaced; yields whether output goes on after it. -/
def unescape (text : String) : String × Bool :=
  let (characters, goesOn) := unescapeFrom (text.length + 1) [] text.toList
  (String.ofList characters, goesOn)

/-! ### Numbers -/

/-- What is wrong with an argument that should be a number. -/
inductive Misfit
  | noNumber
  | incomplete
  | outOfRange
  deriving DecidableEq

/-- The wording of what is wrong with an argument. -/
def Misfit.message : Misfit → String
  | noNumber => "expected numeric value"
  | .incomplete => "not completely converted"
  | outOfRange => "Numerical result out of range"

/-- The integer that an argument is, within bounds, and what is wrong with it. A quote stands before
a character whose number is meant. -/
def integerOf (least greatest : Int) (argument : String) : Int × Option Misfit :=
  match argument.toList with
  | '\'' :: character :: _ | '"' :: character :: _ => (character.toNat, none)
  | text =>
    if text.isEmpty then (0, none)
    else
      match leadingInteger text with
      | none => (0, some .noNumber)
      | some (value, rest) =>
        if value < least then (least, some .outOfRange)
        else if greatest < value then (greatest, some .outOfRange)
        else (value, if rest.isEmpty then none else some .incomplete)

/-- A number that is not an integer. -/
inductive Real
  | finite (isNegative : Bool) (numerator denominator : Nat)
  | infinite (isNegative : Bool)
  | undefined (isNegative : Bool)

/-- The number that a double is. -/
def Real.ofBinary : Decimal.Binary64 → Real
  | .finite isNegative significand exponent =>
    let (numerator, denominator) := Decimal.shiftRatio significand 1 exponent
    .finite isNegative numerator denominator
  | .infinite isNegative => .infinite isNegative
  | .undefined => .undefined false

/-- The exponent behind a number, and the rest. -/
def exponentAt (text : List Char) : Int × List Char :=
  match text with
  | mark :: rest =>
    if mark = 'e' ∨ mark = 'E' then
      let (isNegative, digits) : Bool × List Char :=
        match rest with
        | '-' :: rest => (true, rest)
        | '+' :: rest => (false, rest)
        | rest => (false, rest)
      match digits.takeWhile isDigit with
      | [] => (0, text)
      | found =>
        let value : Int := decimalValue (found.take 6)
        (if isNegative then -value else value, digits.drop found.length)
    else (0, text)
  | [] => (0, [])

/-- The number at the start of a text without its sign, and the rest. -/
def magnitudeAt? (isNegative : Bool) (text : List Char) : Option (Real × List Char) :=
  let lower := text.map Char.toLower
  if "infinity".toList.isPrefixOf lower then some (.infinite isNegative, text.drop 8)
  else if "inf".toList.isPrefixOf lower then some (.infinite isNegative, text.drop 3)
  else if "nan".toList.isPrefixOf lower then some (.undefined isNegative, text.drop 3)
  else
    match text with
    | '0' :: 'x' :: digit :: rest | '0' :: 'X' :: digit :: rest =>
      if isDigitOf 16 digit then
        let digits := (digit :: rest).takeWhile (isDigitOf 16)
        some (.ofBinary (.ofRatio isNegative (valueIn 16 digits) 1),
          (digit :: rest).drop digits.length)
      else some (.finite isNegative 0 1, 'x' :: digit :: rest)
    | text =>
      let whole := text.takeWhile isDigit
      let rest := text.drop whole.length
      let (places, rest) : List Char × List Char :=
        match rest with
        | '.' :: rest => (rest.takeWhile isDigit, rest.dropWhile isDigit)
        | rest => ([], rest)
      if whole.isEmpty && places.isEmpty then none
      else
        let (exponent, rest) := exponentAt rest
        some (.ofBinary (.ofScaled isNegative (decimalValue (whole ++ places))
          (exponent - places.length)), rest)

/-- The number that an argument is, and what is wrong with it. -/
def realOf (argument : String) : Real × Option Misfit :=
  match argument.toList with
  | '\'' :: character :: _ | '"' :: character :: _ => (.finite false character.toNat 1, none)
  | text =>
    if text.isEmpty then (.finite false 0 1, none)
    else
      let found :=
        match text.dropWhile isSpace with
        | '-' :: rest => magnitudeAt? true rest
        | '+' :: rest => magnitudeAt? false rest
        | rest => magnitudeAt? false rest
      match found with
      | none => (.finite false 0 1, some .noNumber)
      | some (.infinite isNegative, rest) =>
        (.infinite isNegative,
          if text.any isDigit then some .outOfRange
          else if rest.isEmpty then none
          else some .incomplete)
      | some (value, rest) => (value, if rest.isEmpty then none else some .incomplete)

/-! ### Conversions -/

/-- How a conversion is to look. -/
structure Style where
  toLeft : Bool := false
  withZeros : Bool := false
  /-- What stands before a number that is not negative. -/
  plus : String := ""
  isAlternate : Bool := false
  width : Nat := 0
  precision : Option Nat := none

/-- Digits with zeros before them, up to a length. -/
def padDigits (length : Nat) (digits : List Char) : List Char :=
  List.replicate (length - digits.length) '0' ++ digits

/-- A text filled up to the width, with zeros behind what stands before the number if they may. -/
def Style.fill (style : Style) (mayHaveZeros : Bool) (before text : String) : String :=
  let missing := style.width - (before.length + text.length)
  let blanks (sign : Char) := String.ofList (List.replicate missing sign)
  if style.toLeft then before ++ text ++ blanks ' '
  else if style.withZeros && mayHaveZeros then before ++ blanks '0' ++ text
  else blanks ' ' ++ before ++ text

/-- What stands before a number by its sign. -/
def Style.sign (style : Style) (isNegative : Bool) : String :=
  if isNegative then "-" else style.plus

/-- The digits of an integer in a base. -/
def digitsIn (base : Nat) (value : Nat) (precision : Option Nat) : List Char :=
  if value = 0 ∧ precision = some 0 then []
  else padDigits (precision.getD 1) (Nat.toDigits base value)

/-- A signed integer. -/
def signed (style : Style) (value : Int) : String :=
  style.fill style.precision.isNone (style.sign (value < 0))
    (String.ofList (digitsIn 10 value.natAbs style.precision))

/-- An integer without a sign in a base. -/
def unsigned (style : Style) (conversion : Char) (value : Nat) : String :=
  let base := if conversion = 'o' then 8 else if conversion = 'u' then 10 else 16
  let digits := digitsIn base value style.precision
  let isMarked := style.isAlternate && value != 0
  let before := if isMarked && base == 16 then "0x" else ""
  let digits := if style.isAlternate && base == 8 && digits.head? != some '0' then
      '0' :: digits else digits
  let text := style.fill style.precision.isNone before (String.ofList digits)
  if conversion = 'X' then text.toUpper else text

/-- The digits of a positive number with so many places. -/
def fixedDigits (places numerator denominator : Nat) : List Char × List Char :=
  let scaled := Decimal.divideToEven (numerator * Nat.pow 10 places) denominator
  let digits := padDigits (places + 1) (Nat.toDigits 10 scaled)
  (digits.take (digits.length - places), digits.drop (digits.length - places))

/-- A number with so many places behind the point. -/
def fixed (isAlternate : Bool) (places numerator denominator : Nat) : String :=
  let (whole, fraction) := fixedDigits places numerator denominator
  String.ofList (whole ++ (if places = 0 && !isAlternate then [] else '.' :: fraction))

/-- The first digit, so many places and the exponent of a number. -/
def scientificDigits (places numerator denominator : Nat) : List Char × Int :=
  if numerator = 0 then (List.replicate (places + 1) '0', 0)
  else
    let exponent := Decimal.decade numerator denominator
    let power : Int := places - exponent
    let scaled :=
      if 0 ≤ power then
        Decimal.divideToEven (numerator * Nat.pow 10 power.toNat) denominator
      else Decimal.divideToEven numerator (denominator * Nat.pow 10 (-power).toNat)
    let digits := Nat.toDigits 10 scaled
    if digits.length = places + 2 then (digits.take (places + 1), exponent + 1)
    else (digits, exponent)

/-- Digits with an exponent behind them. -/
def withExponent (isAlternate : Bool) (digits : List Char) (exponent : Int) : String :=
  let fraction := digits.drop 1
  let point := if fraction.isEmpty && !isAlternate then [] else '.' :: fraction
  let power := padDigits 2 (Nat.toDigits 10 exponent.natAbs)
  String.ofList (digits.take 1 ++ point ++ 'e' :: (if exponent < 0 then '-' else '+') :: power)

/-- Digits without the zeros at their end. -/
def withoutZeros (digits : List Char) : List Char :=
  (digits.reverse.dropWhile (· = '0')).reverse

/-- A number with so many digits, in the notation that suits it. -/
def general (isAlternate : Bool) (precision numerator denominator : Nat) : String :=
  let count := max precision 1
  let (digits, exponent) := scientificDigits (count - 1) numerator denominator
  if exponent < -4 ∨ (count : Int) ≤ exponent then
    withExponent isAlternate
      (if isAlternate then digits else digits.take 1 ++ withoutZeros (digits.drop 1)) exponent
  else
    let places := ((count : Int) - 1 - exponent).toNat
    let (whole, fraction) := fixedDigits places numerator denominator
    let fraction := if isAlternate then fraction else withoutZeros fraction
    String.ofList (whole ++
      (if fraction.isEmpty && !isAlternate then [] else '.' :: fraction))

/-- A number that is not an integer. -/
def real (style : Style) (conversion : Char) (value : Real) : String :=
  let lower := conversion.toLower
  let text :=
    match value with
    | .infinite isNegative => style.fill false (style.sign isNegative) "inf"
    | .undefined isNegative => style.fill false (style.sign isNegative) "nan"
    | .finite isNegative numerator denominator =>
      let precision := style.precision.getD 6
      let digits :=
        if lower = 'f' then fixed style.isAlternate precision numerator denominator
        else if lower = 'e' then
          let (digits, exponent) := scientificDigits precision numerator denominator
          withExponent style.isAlternate digits exponent
        else general style.isAlternate precision numerator denominator
      style.fill true (style.sign isNegative) digits
  if conversion = lower then text else text.toUpper

/-! ### Formats -/

/-- What a format has made so far. -/
structure Progress where
  output : String := ""
  errors : List String := []
  /-- The arguments that are left. -/
  arguments : List String
  /-- The status with which the output ended before its time. -/
  ended : Option Nat := none

namespace Progress

/-- The next argument, if there is one. -/
def next (progress : Progress) : Option String × Progress :=
  (progress.arguments.head?, { progress with arguments := progress.arguments.drop 1 })

/-- Writes a text. -/
def write (progress : Progress) (text : String) : Progress :=
  { progress with output := progress.output ++ text }

/-- Complains of an argument. -/
def complain (progress : Progress) (argument : String) (misfit : Option Misfit) : Progress :=
  match misfit with
  | some misfit =>
    { progress with errors := progress.errors ++ [argument ++ ": " ++ misfit.message] }
  | none => progress

/-- Ends the output with a complaint. -/
def refuse (progress : Progress) (cause : String) : Progress :=
  { progress with errors := progress.errors ++ [cause], ended := some 2 }

/-- The integer that the next argument is, within bounds. -/
def nextInteger (progress : Progress) (least greatest : Int) : Int × Progress :=
  let (argument, progress) := progress.next
  match argument with
  | none => (0, progress)
  | some argument =>
    let (value, misfit) := integerOf least greatest argument
    (value, progress.complain argument misfit)

end Progress

/-- The least and the greatest integer of 64 bits with a sign. -/
def leastSigned : Int := -9223372036854775808

/-- The greatest integer of 64 bits with a sign. -/
def greatestSigned : Int := 9223372036854775807

/-- The greatest integer of 64 bits without a sign. -/
def greatestUnsigned : Int := 18446744073709551615

/-- Writes the next argument by a conversion. -/
def convert (progress : Progress) (style : Style) (shown : String) (conversion : Char) :
    Progress :=
  let cut (text : String) : String :=
    match style.precision with
    | some most => (text.take most).toString
    | none => text
  match conversion with
  | 's' =>
    let (argument, progress) := progress.next
    progress.write (style.fill false "" (cut (argument.getD "")))
  | 'b' =>
    let (argument, progress) := progress.next
    let (text, goesOn) := unescape (argument.getD "")
    let progress := progress.write (style.fill false "" (cut text))
    if goesOn then progress else { progress with ended := some 0 }
  | 'c' =>
    let (argument, progress) := progress.next
    let character := ((argument.getD "").toList.head?).getD (Char.ofNat 0)
    progress.write (style.fill false "" (String.ofList [character]))
  | 'd' | 'i' =>
    let (value, progress) := progress.nextInteger leastSigned greatestSigned
    progress.write (signed style value)
  | 'u' | 'o' | 'x' | 'X' =>
    let (value, progress) := progress.nextInteger leastSigned greatestUnsigned
    let value := if value < 0 then value + greatestUnsigned + 1 else value
    progress.write (unsigned style conversion value.toNat)
  | 'f' | 'F' | 'e' | 'E' | 'g' | 'G' =>
    let (argument, progress) := progress.next
    let (value, misfit) := realOf (argument.getD "")
    (progress.complain (argument.getD "") misfit).write (real style conversion value)
  | _ => progress.refuse (shown ++ String.ofList [conversion] ++ ": invalid directive")

/-- The style that flags ask for. -/
def styleOf (flags : List Char) : Style where
  toLeft := flags.contains '-'
  withZeros := flags.contains '0'
  plus := if flags.contains '+' then "+" else if flags.contains ' ' then " " else ""
  isAlternate := flags.contains '#'

/-- Whether a character is a flag of a conversion. -/
def isFlag (character : Char) : Bool :=
  character = '-' || character = '0' || character = '+' || character = ' ' || character = '#'

/-- The width at the start of a text, which an argument may give. -/
def widthAt (progress : Progress) (style : Style) (text : List Char) :
    Progress × Style × List Char :=
  match text with
  | '*' :: rest =>
    let (value, progress) := progress.nextInteger leastSigned greatestSigned
    (progress, { style with width := value.natAbs, toLeft := style.toLeft || value < 0 }, rest)
  | text =>
    let digits := text.takeWhile isDigit
    (progress, { style with width := decimalValue digits }, text.drop digits.length)

/-- The precision at the start of a text, which an argument may give. -/
def precisionAt (progress : Progress) (style : Style) (text : List Char) :
    Progress × Style × List Char :=
  match text with
  | '.' :: '*' :: rest =>
    let (value, progress) := progress.nextInteger leastSigned greatestSigned
    let precision := if value < 0 then none else some value.toNat
    (progress, { style with precision }, rest)
  | '.' :: rest =>
    let digits := rest.takeWhile isDigit
    (progress, { style with precision := some (decimalValue digits) }, rest.drop digits.length)
  | text => (progress, style, text)

/-- One pass of a format. -/
def pass (budget : Nat) (progress : Progress) (format : List Char) : Progress :=
  match budget with
  | 0 => progress
  | budget + 1 =>
    if progress.ended.isSome then progress
    else
      match format with
      | [] => progress
      | '\\' :: rest =>
        let (found, rest) := escapeAt rest
        pass budget (progress.write (String.ofList found)) rest
      | '%' :: '%' :: rest => pass budget (progress.write "%") rest
      | '%' :: rest =>
        let flags := rest.takeWhile isFlag
        let (progress, style, text) := widthAt progress (styleOf flags) (rest.drop flags.length)
        let (progress, style, text) := precisionAt progress style text
        match text with
        | [] => progress.refuse "missing format character"
        | conversion :: text =>
          let shown := String.ofList ('%' :: rest.take (rest.length - text.length - 1))
          pass budget (convert progress style shown conversion) text
      | character :: rest =>
        pass budget (progress.write (String.ofList [character])) rest

/-- The passes of a format over its arguments. -/
def passes (budget : Nat) (format : String) (progress : Progress) : Progress :=
  match budget with
  | 0 => progress
  | budget + 1 =>
    let after := pass (format.length + 1) progress format.toList
    if after.ended.isSome ∨ after.arguments.isEmpty
        ∨ after.arguments.length = progress.arguments.length then
      after
    else passes budget format after

/-- What a format makes of arguments. -/
def apply (format : String) (arguments : List String) : Progress :=
  passes (arguments.length + 1) format { arguments }

/-- The status of a program that a format ends. -/
def Progress.status (progress : Progress) : Nat :=
  match progress.ended with
  | some status => max status (if progress.errors.isEmpty then 0 else 1)
  | none => if progress.errors.isEmpty then 0 else 1

end EditorSession.Shell.Format
