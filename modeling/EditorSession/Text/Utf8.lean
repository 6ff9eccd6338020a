/-!
# UTF-8

Characters as octets, and octets read back one at a time. The reader stands either between two
characters or inside one; inside it knows how many octets are owed and which range the next one
must lie in, so overlong forms, surrogates and values beyond the last code point are refused at the
first octet that rules them out. A refusal names the place where the character began.
-/

namespace EditorSession

/-- Octets as they come from a file, a pipe or the command line. -/
abbrev Octets := List UInt8

namespace Text.Utf8

/-- The octets of one character. -/
def encodeChar (character : Char) : Octets :=
  let code := character.toNat
  if code < 0x80 then [UInt8.ofNat code]
  else if code < 0x800 then
    [UInt8.ofNat (0xC0 + code / 0x40), UInt8.ofNat (0x80 + code % 0x40)]
  else if code < 0x10000 then
    [UInt8.ofNat (0xE0 + code / 0x1000), UInt8.ofNat (0x80 + code / 0x40 % 0x40),
      UInt8.ofNat (0x80 + code % 0x40)]
  else
    [UInt8.ofNat (0xF0 + code / 0x40000), UInt8.ofNat (0x80 + code / 0x1000 % 0x40),
      UInt8.ofNat (0x80 + code / 0x40 % 0x40), UInt8.ofNat (0x80 + code % 0x40)]

/-- The octets of a text. -/
def encode (text : List Char) : Octets :=
  text.flatMap encodeChar

/-- The octets of a string. -/
def ofString (text : String) : Octets :=
  encode text.toList

/-- Where the reader stands between two octets. -/
inductive Standing
  /-- Between characters. -/
  | boundary
  /-- Inside a character: how many octets are owed, the range of the next one, the value read so
  far and the number of octets it took. -/
  | inside (owed : Nat) (low high : UInt8) (value taken : Nat)
  deriving DecidableEq, Repr

/-- What one octet does. -/
inductive Step
  /-- The character goes on. -/
  | more (standing : Standing)
  /-- The octet completes a character. -/
  | complete (character : Char)
  /-- No character goes on this way. -/
  | refused
  deriving DecidableEq, Repr

/-- The first octet of a character. -/
def lead (octet : UInt8) : Step :=
  let value := octet.toNat
  if octet ≤ 0x7F then .complete (Char.ofNat value)
  else if octet < 0xC2 then .refused
  else if octet ≤ 0xDF then .more (.inside 1 0x80 0xBF (value - 0xC0) 1)
  else if octet = 0xE0 then .more (.inside 2 0xA0 0xBF 0 1)
  else if octet = 0xED then .more (.inside 2 0x80 0x9F 0xD 1)
  else if octet ≤ 0xEF then .more (.inside 2 0x80 0xBF (value - 0xE0) 1)
  else if octet = 0xF0 then .more (.inside 3 0x90 0xBF 0 1)
  else if octet ≤ 0xF3 then .more (.inside 3 0x80 0xBF (value - 0xF0) 1)
  else if octet = 0xF4 then .more (.inside 3 0x80 0x8F 4 1)
  else .refused

/-- One octet, read where the reader stands. -/
def step : Standing → UInt8 → Step
  | .boundary, octet => lead octet
  | .inside owed low high value taken, octet =>
    if low ≤ octet ∧ octet ≤ high then
      let value := value * 0x40 + (octet.toNat - 0x80)
      if owed ≤ 1 then .complete (Char.ofNat value)
      else .more (.inside (owed - 1) 0x80 0xBF value (taken + 1))
    else .refused

/-- The number of octets of the character in progress. -/
def Standing.taken : Standing → Nat
  | .boundary => 0
  | .inside _ _ _ _ taken => taken

/-- Why octets are not UTF-8. -/
structure Malformed where
  /-- The number of octets, from the start, that are well formed. -/
  validUpTo : Nat
  /-- The number of octets after those that no character goes on from; absent where the octets end
  inside a character. -/
  errorLength : Option Nat
  deriving DecidableEq, Repr

/-- Reads octets where the reader stands; `start` is the place of the character in progress and
`read` holds the characters before it, last first. -/
def decodeFrom (standing : Standing) (start : Nat) (read : List Char) :
    Octets → Except Malformed (List Char)
  | [] =>
    match standing with
    | .boundary => .ok read.reverse
    | .inside .. => .error ⟨start, none⟩
  | octet :: rest =>
    match step standing octet with
    | .more next => decodeFrom next start read rest
    | .complete character =>
      decodeFrom .boundary (start + standing.taken + 1) (character :: read) rest
    | .refused => .error ⟨start, some (max 1 standing.taken)⟩

/-- The text that octets spell. -/
def decode (octets : Octets) : Except Malformed (List Char) :=
  decodeFrom .boundary 0 [] octets

/-- The string that octets spell. -/
def toString? (octets : Octets) : Option String :=
  match decode octets with
  | .ok text => some (String.ofList text)
  | .error _ => none

/-- The wording of a refusal. -/
def Malformed.message (malformed : Malformed) : String :=
  match malformed.errorLength with
  | some length =>
    "invalid utf-8 sequence of " ++ toString length ++ " bytes from index "
      ++ toString malformed.validUpTo
  | none =>
    "incomplete utf-8 byte sequence from index " ++ toString malformed.validUpTo

/-- The character that stands for octets which spell none. -/
def replacement : Char := '\uFFFD'

/-- Reads octets as far as they go: each stretch that starts a character and cannot go on becomes
one replacement character. -/
def decodeLossyFrom (standing : Standing) (read : List Char) : Octets → List Char
  | [] =>
    match standing with
    | .boundary => read.reverse
    | .inside .. => (replacement :: read).reverse
  | octet :: rest =>
    match step standing octet with
    | .more next => decodeLossyFrom next read rest
    | .complete character => decodeLossyFrom .boundary (character :: read) rest
    | .refused =>
      match standing with
      | .boundary => decodeLossyFrom .boundary (replacement :: read) rest
      | .inside .. =>
        match lead octet with
        | .more next => decodeLossyFrom next (replacement :: read) rest
        | .complete character =>
          decodeLossyFrom .boundary (character :: replacement :: read) rest
        | .refused => decodeLossyFrom .boundary (replacement :: replacement :: read) rest

/-- The string shown for octets of a path. -/
def display (octets : Octets) : String :=
  String.ofList (decodeLossyFrom .boundary [] octets)

end Text.Utf8

end EditorSession
