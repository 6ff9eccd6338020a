import EditorSession.Shell.Format
import EditorSession.Shell.Pattern
import EditorSession.Shell.Utility.Basic

/-!
# Translating characters

The program `tr`: it puts characters in the place of others, leaves characters out, or makes one of
several equal ones in a row. The characters of the first set correspond to those of the second one
in order; the last one of the second set stands for all that it lacks.
-/

namespace EditorSession.Shell.Translation

/-- A part of a set as it is written. -/
inductive Part
  | single (character : Char)
  | range (first last : Char)
  | ofClass (name : String)
  /-- A character so many times, or as often as needed. -/
  | times (character : Char) (count : Option Nat)

/-- All octets in order. -/
def allOctets : List Char := (List.range 256).map Char.ofNat

/-- A character at the start of a text, perhaps behind a backslash, and the rest. -/
def characterAt : List Char → Option (Char × List Char)
  | [] => none
  | ['\\'] => some ('\\', [])
  | '\\' :: letter :: rest =>
    match Format.octalDigits 3 (letter :: rest), Format.escapeCode? letter with
    | ([], _), some code => some (Char.ofNat code, rest)
    | ([], _), none => some (letter, rest)
    | (digits, rest), _ => some (Format.octalChar digits, rest)
  | first :: rest => some (first, rest)

/-- The class between brackets at the start of a text, and the rest. -/
def classAt? (text : List Char) : Option (String × List Char) :=
  match text with
  | '[' :: ':' :: rest =>
    let name := rest.takeWhile (· ≠ ':')
    match rest.drop name.length with
    | ':' :: ']' :: after =>
      if String.ofList name ∈ classNames then some (String.ofList name, after) else none
    | _ => none
  | _ => none

/-- The repetition between brackets at the start of a text, and the rest. -/
def timesAt? (text : List Char) : Option (Part × List Char) :=
  match text with
  | '[' :: rest =>
    match characterAt rest with
    | some (character, '*' :: rest) =>
      let digits := rest.takeWhile isDigit
      match rest.drop digits.length with
      | ']' :: after =>
        let count :=
          if digits.isEmpty ∨ decimalValue digits = 0 then none
          else if digits.head? = some '0' then some (valueIn 8 digits)
          else some (decimalValue digits)
        some (.times character count, after)
      | _ => none
    | _ => none
  | _ => none

/-- The parts of a set. -/
def partsOf (budget : Nat) (text : List Char) : List Part :=
  match budget with
  | 0 => []
  | budget + 1 =>
    match classAt? text, timesAt? text, text with
    | some (name, rest), _, _ => .ofClass name :: partsOf budget rest
    | none, some (part, rest), _ => part :: partsOf budget rest
    | none, none, '[' :: '=' :: single :: '=' :: ']' :: rest =>
      .single single :: partsOf budget rest
    | none, none, text =>
      match characterAt text with
      | none => []
      | some (first, '-' :: rest) =>
        match characterAt rest with
        | some (last, after) => .range first last :: partsOf budget after
        | none => .single first :: .single '-' :: []
      | some (first, rest) => .single first :: partsOf budget rest

/-- The characters of a part, which fills up to a length if it may. -/
def Part.expand (missing : Nat) : Part → List Char
  | single character => [character]
  | range first last =>
    (List.range (last.toNat + 1 - first.toNat)).map fun step => Char.ofNat (first.toNat + step)
  | ofClass name => allOctets.filter (isInClass name)
  | times character count => List.replicate (count.getD missing) character

/-- The characters of a set, which fills up to a length if it may. -/
def setOf (length : Nat) (text : String) : List Char :=
  let parts := partsOf (text.length + 1) text.toList
  let fixed := (parts.flatMap (Part.expand 0)).length
  parts.flatMap (Part.expand (length - fixed))

/-- Makes one of equal characters in a row that a set has. -/
def squeeze (set : List Char) (last : Option Char) : List Char → List Char
  | [] => []
  | first :: rest =>
    if last = some first ∧ first ∈ set then squeeze set last rest
    else first :: squeeze set (some first) rest

/-- The character that takes the place of another one. -/
def translateOne (pairs : List (Char × Char)) (character : Char) : Char :=
  (pairs.lookup character).getD character

/-- The options of the program. -/
def table : OptionTable where
  plain := ['c', 'C', 'd', 's', 't']
  mixes := false

/-- The pairs of characters that a translation uses; of pairs for one character, the last counts. -/
def pairsOf (truncates : Bool) (first second : List Char) : List (Char × Char) :=
  let first := if truncates then first.take second.length else first
  let last := second.getLast?.getD '\x00'
  let second := second ++ List.replicate (first.length - second.length) last
  (first.zip second).reverse

/-- Translates characters. -/
def translate : Utility := withOptions table 1 fun call options =>
  let complements := options.has 'c' || options.has 'C'
  let firstSet (text : String) : List Char :=
    let set := setOf 0 text
    if complements then allOctets.filter fun octet => octet ∉ set else set
  let deletes := options.has 'd'
  let squeezes := options.has 's'
  let transform (change : List Char → List Char) : Plan :=
    call.transform [] fun texts => String.ofList (change (String.join texts).toList)
  match options.operands with
  | [] => call.misuse "missing operand" 1
  | [first] =>
    let set := firstSet first
    if deletes && !squeezes then transform fun text => text.filter fun octet => octet ∉ set
    else if squeezes && !deletes then transform (squeeze set none)
    else
      call.misuse ("missing operand after " ++ inQuotes first ++ "\n" ++
        (if deletes then "Two strings must be given when both deleting and squeezing repeats."
          else "Two strings must be given when translating.")) 1
  | [first, second] =>
    let set := firstSet first
    if deletes && !squeezes then
      call.misuse ("extra operand " ++ inQuotes second ++ "\n" ++
        "Only one string may be given when deleting without squeezing repeats.") 1
    else if deletes then
      transform fun text =>
        squeeze (setOf 0 second) none (text.filter fun octet => octet ∉ set)
    else
      let target := setOf set.length second
      let pairs := pairsOf (options.has 't') set target
      let change (text : List Char) : List Char := text.map (translateOne pairs)
      if squeezes then transform fun text => squeeze target none (change text)
      else transform change
  | _ :: _ :: third :: _ => call.misuse ("extra operand " ++ inQuotes third) 1

end EditorSession.Shell.Translation
