import EditorSession.Frame
import EditorSession.Proofs.Text.Utf8
import Mathlib.Data.List.Basic
import Mathlib.Data.Nat.Digits.Defs

/-!
# The header of a frame is read back

The decimal length in a header is the number it was written for (`lengthOf?_toDigits`), the line
that holds it says so whatever blanks stand around it, and a reader of a header takes one line at a
time and stops right after the blank one (`readHeader_line`). Together: after the header of a
payload, the reader knows its length and has the payload before it (`readHeader_header`).
-/

namespace EditorSession

namespace Text

theorem dropWhile_isBlank_of_head {text : List Char}
    (starts : ∀ character ∈ text.head?, isBlank character = false) :
    text.dropWhile isBlank = text := by
  cases text with
  | nil => rfl
  | cons character rest =>
      have notBlank : isBlank character = false := starts character rfl
      exact List.dropWhile_cons_of_neg (by simp [notBlank])

/-- Blanks around a text that neither starts nor ends with one are all that is trimmed. -/
theorem trimBlank_around (before text after : List Char)
    (blankBefore : ∀ character ∈ before, isBlank character = true)
    (blankAfter : ∀ character ∈ after, isBlank character = true)
    (starts : ∀ character ∈ text.head?, isBlank character = false)
    (ends : ∀ character ∈ text.getLast?, isBlank character = false) :
    trimBlank (before ++ (text ++ after)) = text := by
  have dropped : (text ++ after).dropWhile isBlank = text ++ after ∨ text = [] := by
    cases text with
    | nil => exact Or.inr rfl
    | cons character rest => exact Or.inl (dropWhile_isBlank_of_head starts)
  rw [trimBlank, List.dropWhile_append_of_pos blankBefore]
  rcases dropped with same | rfl
  · rw [same, List.reverse_append, List.dropWhile_append_of_pos (by simpa using blankAfter),
      dropWhile_isBlank_of_head (by simpa using ends), List.reverse_reverse]
  · have nothing : (after ++ []).dropWhile isBlank = _ :=
      List.dropWhile_append_of_pos blankAfter
    rw [List.append_nil] at nothing
    rw [List.nil_append, nothing]
    rfl

end Text

namespace Frame

variable {line rest : Octets} {declared : Option Nat}

/-! ### Decimal lengths -/

theorem digitsValue_eq_ofDigitChars (digits : List Char) :
    digitsValue digits = Nat.ofDigitChars 10 digits 0 := by
  rw [digitsValue, Nat.ofDigitChars_eq_foldl]
  simp only [Nat.mul_comm 10]
  rfl

theorem digitsValue_toDigits (number : Nat) : digitsValue (Nat.toDigits 10 number) = number := by
  rw [digitsValue_eq_ofDigitChars, Nat.ofDigitChars_ten_toDigits]

theorem isDigit_toDigits {number : Nat} {digit : Char} (mem : digit ∈ Nat.toDigits 10 number) :
    '0' ≤ digit ∧ digit ≤ '9' := by
  have isDigit := Nat.isDigit_of_mem_toDigits (by decide) (by decide) mem
  simpa [Char.isDigit, Char.le_def] using isDigit

theorem lengthOf?_of_digits {digits : List Char} (nonempty : digits ≠ [])
    (decimal : ∀ digit ∈ digits, '0' ≤ digit ∧ digit ≤ '9') :
    lengthOf? digits =
      if digitsValue digits < Nat.pow 2 64 then some (digitsValue digits) else none := by
  have all : digits.all (fun digit => '0' ≤ digit ∧ digit ≤ '9') = true := by
    simpa [List.all_eq_true] using decimal
  cases digits with
  | nil => exact absurd rfl nonempty
  | cons first others =>
      have unsigned : first ≠ '+' := by
        rintro rfl
        exact absurd (decimal '+' (by simp)) (by decide)
      simp only [lengthOf?]
      split
      next signed => exact absurd (List.cons.inj signed).1 unsigned
      next => exact if_neg (by simp only [all, List.isEmpty_cons]; decide)

/-- A length is read back as long as it fits 64 bits. -/
theorem lengthOf?_toDigits {number : Nat} (fits : number < Nat.pow 2 64) :
    lengthOf? (Nat.toDigits 10 number) = some number := by
  rw [lengthOf?_of_digits Nat.toDigits_ne_nil fun digit mem => isDigit_toDigits mem,
    digitsValue_toDigits, if_pos fits]

/-! ### Lines -/

theorem dropStart?_append (start text : List Char) : dropStart? start (start ++ text) = some text := by
  induction start with
  | nil => rfl
  | cons first start ih => simp [dropStart?, ih]

/-- What is left of the reading once a line has said what it says: the answer, or more lines. -/
def afterLine (declared : Option Nat) (rest : Octets) :
    Except Failure HeaderLine → Except Failure Nat × Octets
  | .ok .blank => (declaredLength declared, rest)
  | .ok (.length length) => readHeader [] (some length) rest
  | .ok .other => readHeader [] declared rest
  | .error failure => (.error failure, rest)

/-- A reader that stands inside a line without an end takes the line as a whole. -/
theorem readHeader_line (seen : Octets) (inside : lineFeed ∉ line) :
    readHeader seen declared (line ++ lineFeed :: rest) =
      afterLine declared rest (HeaderLine.ofOctets (seen.reverse ++ line ++ [lineFeed])) := by
  -- Over the line, for every part of it that the reader has collected so far.
  induction line generalizing seen with
  | nil =>
      rw [List.nil_append, List.append_nil, readHeader, if_pos rfl, List.reverse_cons]
      rfl
  | cons octet line ih =>
      simp only [List.mem_cons, not_or] at inside
      rw [List.cons_append, readHeader, if_neg (Ne.symm inside.1), ih _ inside.2]
      simp

theorem lineFeed_mem_encode_iff {text : List Char} :
    lineFeed ∈ Text.Utf8.encode text ↔ '\n' ∈ text :=
  Text.Utf8.mem_encode_iff_of_ascii '\n' (by decide)

theorem ofOctets_encode (text : List Char) :
    HeaderLine.ofOctets (Text.Utf8.encode text) = HeaderLine.ofText text := by
  rw [HeaderLine.ofOctets, Text.Utf8.decode_encode]

/-- A line of which the name and a readable length remain once it is trimmed gives that length. -/
theorem ofText_of_trimmed {text value : List Char} {number : Nat}
    (named : Text.trimBlank text = lengthName ++ value)
    (read : lengthOf? (Text.trimBlank value) = some number) :
    HeaderLine.ofText text = .ok (.length number) := by
  have nonempty : (lengthName ++ value).isEmpty = false := rfl
  unfold HeaderLine.ofText
  simp only [named, nonempty, Bool.false_eq_true, ↓reduceIte, dropStart?_append, read]

theorem not_isBlank_of_digit {digit : Char} (isDigit : '0' ≤ digit ∧ digit ≤ '9') :
    Text.isBlank digit = false := by
  have least : 48 ≤ digit.toNat := isDigit.1
  have most : digit.toNat ≤ 57 := isDigit.2
  unfold Text.isBlank
  generalize digit.toNat = code at least most
  interval_cases code <;> rfl

/-- The line that is written of a length says the length. -/
theorem ofText_length {number : Nat} (fits : number < Nat.pow 2 64) :
    HeaderLine.ofText (lengthName ++ ' ' :: Nat.toDigits 10 number ++ ['\r', '\n']) =
      .ok (.length number) := by
  have digitNotBlank : ∀ digit ∈ Nat.toDigits 10 number, Text.isBlank digit = false :=
    fun digit mem => not_isBlank_of_digit (isDigit_toDigits mem)
  have last : ∀ digit ∈ (Nat.toDigits 10 number).getLast?, Text.isBlank digit = false :=
    fun digit mem => digitNotBlank digit (List.mem_of_getLast? mem)
  have line : Text.trimBlank (lengthName ++ ' ' :: Nat.toDigits 10 number ++ ['\r', '\n']) =
      lengthName ++ ' ' :: Nat.toDigits 10 number := by
    have ends : (lengthName ++ [' '] ++ Nat.toDigits 10 number).getLast? =
        (Nat.toDigits 10 number).getLast? :=
      List.getLast?_append_of_ne_nil _ Nat.toDigits_ne_nil
    rw [List.append_assoc] at ends
    have lineEnd : ∀ character ∈ ['\r', '\n'], Text.isBlank character = true := by
      intro character mem
      rcases List.mem_pair.mp mem with rfl | rfl <;> rfl
    exact Text.trimBlank_around [] _ ['\r', '\n'] (by simp) lineEnd
      (fun character mem => by cases mem; decide) (ends ▸ last)
  have value : Text.trimBlank (' ' :: Nat.toDigits 10 number) = Nat.toDigits 10 number := by
    simpa using Text.trimBlank_around [' '] _ [] (List.forall_mem_singleton.mpr rfl) (by simp)
      (fun digit mem => digitNotBlank digit (List.mem_of_mem_head? mem)) last
  exact ofText_of_trimmed line (by rw [value, lengthOf?_toDigits fits])

/-- After the header of a payload, its length is known and the payload stands next. -/
theorem readHeader_header {payload : Octets} (fits : payload.length < Nat.pow 2 64) :
    readHeader [] none (header payload ++ rest) = (.ok payload.length, rest) := by
  let line := Text.Utf8.encode (lengthName ++ ' ' :: Nat.toDigits 10 payload.length ++ ['\r'])
  have lines : header payload ++ rest = line ++ lineFeed :: ([0x0D] ++ lineFeed :: rest) := by
    have split : lengthName ++ ' ' :: Nat.toDigits 10 payload.length ++ "\r\n\r\n".toList =
        (lengthName ++ ' ' :: Nat.toDigits 10 payload.length ++ ['\r']) ++ ['\n', '\r', '\n'] := by
      simp
    rw [header, split, Text.Utf8.encode_append, List.append_assoc]
    rfl
  have inside : lineFeed ∉ line := by
    rw [lineFeed_mem_encode_iff]
    intro mem
    simp only [List.mem_append, List.mem_cons, List.not_mem_nil, or_false] at mem
    rcases mem with (name | blank | digit) | final
    · exact absurd name (by decide)
    · exact absurd blank (by decide)
    · exact absurd (isDigit_toDigits digit) (by decide)
    · exact absurd final (by decide)
  have gives : HeaderLine.ofOctets (line ++ [lineFeed]) = .ok (.length payload.length) := by
    have whole : line ++ [lineFeed] = Text.Utf8.encode
        (lengthName ++ ' ' :: Nat.toDigits 10 payload.length ++ ['\r'] ++ ['\n']) :=
      (Text.Utf8.encode_append _ ['\n']).symm
    rw [whole, ofOctets_encode, List.append_assoc, List.singleton_append, ofText_length fits]
  have ends : HeaderLine.ofOctets ([0x0D] ++ [lineFeed]) = .ok .blank := by decide
  rw [lines, readHeader_line [] inside, List.reverse_nil, List.nil_append, gives, afterLine,
    readHeader_line [] (by decide), List.reverse_nil, List.nil_append, ends]
  rfl

end Frame

end EditorSession
