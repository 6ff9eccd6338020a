import EditorSession.Decimal.Arithmetic
import EditorSession.Shell.Regex
import EditorSession.Shell.Utility.Awk.Program

/-!
# Values of programs on records

A value is a number or a text, and what comes from the input and looks like a number is both: it is
compared as a number with numbers, and written as it was read. A variable that was given nothing is
zero and the empty text.
-/

namespace EditorSession.Shell.Awk

open Decimal (Binary64)

/-- A value. -/
inductive Value
  | unset
  | number (number : Binary64)
  | text (text : String)
  /-- A text of the input that looks like a number. -/
  | numeral (text : String) (number : Binary64)
  deriving Inhabited

/-! ### Numbers and texts -/

/-- The double that a number of the formats is. -/
def binaryOf : Format.Real → Binary64
  | .finite isNegative numerator denominator => .ofRatio isNegative numerator denominator
  | .infinite isNegative => .infinite isNegative
  | .undefined _ => .undefined

/-- The number at the start of a text after white space, and the rest. -/
def numberIn (text : List Char) : Option (Binary64 × List Char) :=
  let found :=
    match text.dropWhile isSpace with
    | '-' :: rest => Format.magnitudeAt? true rest
    | '+' :: rest => Format.magnitudeAt? false rest
    | rest => Format.magnitudeAt? false rest
  found.map fun (value, rest) => (binaryOf value, rest)

/-- The number that a text counts for. -/
def numberOfText (text : String) : Binary64 :=
  match numberIn text.toList with
  | some (number, _) => number
  | none => .zero false

/-- The greatest integer that is written with all of its digits. -/
def greatestPlain : Int := 9223372036854775808

/-- The style of a format for numbers, such as `%.6g`, and its letter. -/
def styleIn (format : String) : Option (Format.Style × Char) :=
  match format.toList with
  | '%' :: rest =>
    let flags := rest.takeWhile Format.isFlag
    let (_, style, rest) :=
      Format.widthAt { arguments := [] } (Format.styleOf flags) (rest.drop flags.length)
    let (_, style, rest) := Format.precisionAt { arguments := [] } style rest
    rest.head?.map fun letter => (style, letter)
  | _ => none

/-- A number as a conversion writes it. -/
def writtenBy (style : Format.Style) (letter : Char) (number : Binary64) : Option String :=
  match letter with
  | 'd' | 'i' => some (Format.signed style (number.truncated?.getD 0))
  | 'o' | 'x' | 'X' | 'u' =>
    let value := number.truncated?.getD 0
    let value := if value < 0 then value + Format.greatestUnsigned + 1 else value
    some (Format.unsigned style letter value.toNat)
  | 'f' | 'F' | 'e' | 'E' | 'g' | 'G' => some (Format.real style letter (.ofBinary number))
  | _ => none

/-- A number as a text: an integer with its digits, another number as a format says. -/
def textOfNumber (format : String) (number : Binary64) : String :=
  match number.truncated?, number.isInteger with
  | some value, true =>
    if value.natAbs ≤ greatestPlain.natAbs then toString value
    else Format.real {} 'g' (.ofBinary number)
  | _, _ =>
    match styleIn format with
    | some (style, letter) => (writtenBy style letter number).getD ""
    | none => Format.real {} 'g' (.ofBinary number)

namespace Value

/-- A text of the input as a value. -/
def ofInput (text : String) : Value :=
  match numberIn text.toList with
  | some (amount, rest) => if rest.all isSpace then .numeral text amount else .text text
  | none => .text text

/-- The number that a value counts for. -/
def toNumber : Value → Binary64
  | .unset => .zero false
  | .number amount => amount
  | .text written => numberOfText written
  | .numeral _ amount => amount

/-- A value as a text; numbers are written as a format says. -/
def toText (format : String) : Value → String
  | .unset => ""
  | .number amount => textOfNumber format amount
  | .text written => written
  | .numeral written _ => written

/-- Whether a value holds as a condition. -/
def holds : Value → Bool
  | .unset => false
  | .number amount => !amount.isZero
  | .text written => !written.isEmpty
  | .numeral _ amount => !amount.isZero

/-- The value of a condition. -/
def ofBool (holds : Bool) : Value := .number (.ofNat (if holds then 1 else 0))

/-- The value of a natural number. -/
def ofNat (count : Nat) : Value := .number (.ofNat count)

/-- The integer that a value counts for. -/
def toInteger (value : Value) : Int := value.toNumber.truncated?.getD 0

/-- How two values compare: as numbers, unless one of them is a text. -/
def compare? (format : String) (left right : Value) : Option Ordering :=
  match left, right with
  | .text left, right => some (compare left (right.toText format))
  | left, .text right => some (compare (left.toText format) right)
  | left, right => left.toNumber.compare? right.toNumber

end Value

/-- Whether a comparison holds of values that compare in a way. -/
def Comparison.accepts : Comparison → Ordering → Bool
  | .less, order => order == .lt
  | .atMost, order => order != .gt
  | .equal, order => order == .eq
  | .different, order => order != .eq
  | .greater, order => order == .gt
  | .atLeast, order => order != .lt

/-- The result of an operator. -/
def Arithmetic.apply (operator : Arithmetic) (left right : Binary64) : Binary64 :=
  match operator with
  | .plus => left.add right
  | .minus => left.add right.negate
  | .times => left.multiply right
  | .divided => left.divide right
  | .remainder => left.remainder right

/-! ### Parts of texts -/

/-- Whether an expression fits a part of a text. -/
def fitsIn (source text : String) : Bool :=
  match Regex.ofText { isExtended := true, hasControls := true } source with
  | .ok regex => (regex.find? false text.toList.toArray 0).isSome
  | .error _ => false

/-- The words between white space. -/
def wordsIn (text : List Char) : List String :=
  let (words, last) := text.foldr (fun character (words, word) =>
    if isSpace character then
      (if word.isEmpty then words else String.ofList word :: words, [])
    else (words, character :: word)) (([], []) : List String × List Char)
  if last.isEmpty then words else String.ofList last :: words

/-- The parts of a text by a separator: words for a blank, and what stands between two of it for
another one. -/
def partsOf (separator : String) (text : String) : List String :=
  if text.isEmpty then []
  else if separator = " " then wordsIn text.toList
  else text.splitOn separator

/-! ### Formats -/

/-- The character that a value stands for: the one with its number, or the first one of its text. -/
def characterOf (value : Value) : String :=
  match value with
  | .number number => String.ofList [Char.ofNat ((number.truncated?.getD 0) % 256).toNat]
  | value => String.ofList [((value.toText "%.6g").toList.head?).getD (Char.ofNat 0)]

/-- What a format makes of values, or nothing if there are too few of them. -/
def formatted (budget : Nat) (conversion : String) (format : List Char) (values : List Value) :
    Option String :=
  match budget with
  | 0 => some ""
  | budget + 1 =>
    match format with
    | [] => some ""
    | '%' :: '%' :: rest => ("%" ++ ·) <$> formatted budget conversion rest values
    | '%' :: rest =>
      let flags := rest.takeWhile Format.isFlag
      let arguments := values.map fun value => toString value.toInteger
      let (progress, style, rest) :=
        Format.widthAt { arguments } (Format.styleOf flags) (rest.drop flags.length)
      let (progress, style, rest) := Format.precisionAt progress style rest
      match values.drop (values.length - progress.arguments.length), rest with
      | _, [] => some (String.ofList format)
      | [], _ => none
      | value :: values, letter :: rest => do
        let shown ←
          match letter with
          | 's' =>
            let text := value.toText conversion
            let text := match style.precision with
              | some most => (text.take most).toString
              | none => text
            some (style.fill false "" text)
          | 'c' => some (style.fill false "" (characterOf value))
          | letter => writtenBy style letter value.toNumber
        (shown ++ ·) <$> formatted budget conversion rest values
    | first :: rest => (String.ofList [first] ++ ·) <$> formatted budget conversion rest values

end EditorSession.Shell.Awk
