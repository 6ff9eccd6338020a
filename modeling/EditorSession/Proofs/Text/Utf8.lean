import EditorSession.Text.Utf8
import Mathlib.Tactic.IntervalCases

/-!
# Octets of a text are read back

Whatever the characters of a text are, reading its octets yields the text again, and what follows
them is read as if the text had not been there (`decodeFrom_encode`). One lemma for each form of a
first octet says which octets may come second; the rest of a character is six bits at a time.
-/

namespace EditorSession.Text.Utf8

variable {low high : UInt8} {value taken start : Nat} {read : List Char} {rest : Octets}

theorem toNat_valid (character : Char) :
    character.toNat < 0xD800 ∨ 0xDFFF < character.toNat ∧ character.toNat < 0x110000 :=
  character.valid

/-- An octet that goes on with a character holds six bits of it. -/
theorem step_inside {owed bits : Nat} (least : low.toNat ≤ 0x80 + bits)
    (most : 0x80 + bits ≤ high.toNat) (small : bits < 0x40) :
    step (.inside owed low high value taken) (UInt8.ofNat (0x80 + bits)) =
      if owed ≤ 1 then .complete (Char.ofNat (value * 0x40 + bits))
      else .more (.inside (owed - 1) 0x80 0xBF (value * 0x40 + bits) (taken + 1)) := by
  have octet : (UInt8.ofNat (0x80 + bits)).toNat = 0x80 + bits := by
    rw [UInt8.toNat_ofNat', Nat.mod_eq_of_lt (by omega)]
  have within : low ≤ UInt8.ofNat (0x80 + bits) ∧ UInt8.ofNat (0x80 + bits) ≤ high := by
    rw [UInt8.le_iff_toNat_le, UInt8.le_iff_toNat_le, octet]
    exact ⟨least, most⟩
  simp only [step, within, and_self, ↓reduceIte, octet, Nat.add_sub_cancel_left]

theorem step_lead_one {code : Nat} (small : code < 0x80) :
    step .boundary (UInt8.ofNat code) = .complete (Char.ofNat code) := by
  have octet : (UInt8.ofNat code).toNat = code := by
    rw [UInt8.toNat_ofNat', Nat.mod_eq_of_lt (by omega)]
  have ascii : UInt8.ofNat code ≤ 0x7F := by
    rw [UInt8.le_iff_toNat_le, octet]
    exact Nat.le_of_lt_succ small
  simp only [step, lead, ascii, ↓reduceIte, octet]

theorem step_lead_two {top : Nat} (least : 2 ≤ top) (most : top < 0x20) :
    step .boundary (UInt8.ofNat (0xC0 + top)) = .more (.inside 1 0x80 0xBF top 1) := by
  interval_cases top <;> rfl

/-- Which octets may come second is what keeps overlong forms and surrogates out. -/
theorem step_lead_three {top : Nat} (most : top < 0x10) :
    step .boundary (UInt8.ofNat (0xE0 + top)) = .more (.inside 2 (if top = 0 then 0xA0 else 0x80)
      (if top = 0xD then 0x9F else 0xBF) top 1) := by
  interval_cases top <;> rfl

theorem step_lead_four {top : Nat} (most : top ≤ 4) :
    step .boundary (UInt8.ofNat (0xF0 + top)) = .more (.inside 3 (if top = 0 then 0x90 else 0x80)
      (if top = 4 then 0x8F else 0xBF) top 1) := by
  interval_cases top <;> rfl

theorem decodeFrom_more {standing next : Standing} {octet : UInt8}
    (goesOn : step standing octet = .more next) :
    decodeFrom standing start read (octet :: rest) = decodeFrom next start read rest := by
  rw [decodeFrom, goesOn]

theorem decodeFrom_complete {standing : Standing} {octet : UInt8} {character : Char}
    (ends : step standing octet = .complete character) :
    decodeFrom standing start read (octet :: rest) =
      decodeFrom .boundary (start + standing.taken + 1) (character :: read) rest := by
  rw [decodeFrom, ends]

theorem decodeFrom_encodeChar (character : Char) :
    decodeFrom .boundary start read (encodeChar character ++ rest) =
      decodeFrom .boundary (start + (encodeChar character).length) (character :: read) rest := by
  have valid := toNat_valid character
  have back := Char.ofNat_toNat character
  rw [encodeChar]
  generalize character.toNat = code at valid back ⊢
  -- A case for each number of octets that a character may take.
  by_cases one : code < 0x80
  · simp only [one, ↓reduceIte, List.cons_append, List.nil_append]
    rw [decodeFrom_complete (step_lead_one one), back]
    rfl
  by_cases two : code < 0x800
  · have first := @step_lead_two (code / 0x40) (by omega) (by omega)
    have value : code / 0x40 * 0x40 + code % 0x40 = code := by omega
    simp only [one, two, ↓reduceIte, List.cons_append, List.nil_append]
    rw [decodeFrom_more first, decodeFrom_complete
      (step_inside (by simp) (by simp; omega) (Nat.mod_lt _ (by decide))), value, back]
    rfl
  by_cases three : code < 0x10000
  · have first := @step_lead_three (code / 0x1000) (by omega)
    have value : (code / 0x1000 * 0x40 + code / 0x40 % 0x40) * 0x40 + code % 0x40 = code := by omega
    simp only [one, two, three, ↓reduceIte, List.cons_append, List.nil_append]
    rw [decodeFrom_more first, decodeFrom_more
      (step_inside (by split <;> simp; omega) (by split <;> simp <;> omega) (by omega)),
      decodeFrom_complete
      (step_inside (by simp) (by simp; omega) (Nat.mod_lt _ (by decide))), value, back]
    rfl
  · have first := @step_lead_four (code / 0x40000) (by omega)
    have value : ((code / 0x40000 * 0x40 + code / 0x1000 % 0x40) * 0x40 + code / 0x40 % 0x40) * 0x40
        + code % 0x40 = code := by omega
    simp only [one, two, three, ↓reduceIte, List.cons_append, List.nil_append]
    rw [decodeFrom_more first, decodeFrom_more
      (step_inside (by split <;> simp; omega) (by split <;> simp <;> omega) (by omega)),
      decodeFrom_more (step_inside (by simp) (by simp; omega) (by omega)),
      decodeFrom_complete
      (step_inside (by simp) (by simp; omega) (Nat.mod_lt _ (by decide))), value, back]
    rfl

/-- What was read of a text stands before what follows it. -/
theorem decodeFrom_encode (text : List Char) :
    decodeFrom .boundary start read (encode text ++ rest) =
      decodeFrom .boundary (start + (encode text).length) (text.reverse ++ read) rest := by
  induction text generalizing start read with
  | nil => rfl
  | cons character text ih =>
      have split : encode (character :: text) = encodeChar character ++ encode text := rfl
      rw [split, List.append_assoc, decodeFrom_encodeChar, ih, List.length_append, Nat.add_assoc,
        List.reverse_cons, List.append_assoc, List.singleton_append]

theorem decode_encode (text : List Char) : decode (encode text) = .ok text := by
  have whole : decodeFrom .boundary 0 [] (encode text ++ []) = _ := decodeFrom_encode text
  simpa [decode, decodeFrom] using whole

theorem encode_append (first second : List Char) :
    encode (first ++ second) = encode first ++ encode second :=
  List.flatMap_append

/-- An octet of seven bits stands for the character of that code, and for no part of another. -/
theorem mem_encodeChar_iff_of_ascii {character : Char} {octet : UInt8} (ascii : octet < 0x80) :
    octet ∈ encodeChar character ↔ character.toNat = octet.toNat := by
  rw [UInt8.lt_iff_toNat_lt] at ascii
  have small : octet.toNat < 0x80 := ascii
  have valid := toNat_valid character
  have only {code : Nat} (fits : code < 0x100) : octet = UInt8.ofNat code ↔ octet.toNat = code := by
    rw [← UInt8.toNat_inj, UInt8.toNat_ofNat', Nat.mod_eq_of_lt fits]
  rw [encodeChar]
  generalize character.toNat = code at valid ⊢
  by_cases one : code < 0x80
  · simp only [one, ↓reduceIte, List.mem_singleton, only (show code < 0x100 by omega), eq_comm]
  by_cases two : code < 0x800
  · simp only [one, two, ↓reduceIte, List.mem_cons, List.not_mem_nil, or_false,
      only (show 0xC0 + code / 0x40 < 0x100 by omega),
      only (show 0x80 + code % 0x40 < 0x100 by omega)]
    omega
  by_cases three : code < 0x10000
  · simp only [one, two, three, ↓reduceIte, List.mem_cons, List.not_mem_nil, or_false,
      only (show 0xE0 + code / 0x1000 < 0x100 by omega),
      only (show 0x80 + code / 0x40 % 0x40 < 0x100 by omega),
      only (show 0x80 + code % 0x40 < 0x100 by omega)]
    omega
  · simp only [one, two, three, ↓reduceIte, List.mem_cons, List.not_mem_nil, or_false,
      only (show 0xF0 + code / 0x40000 < 0x100 by omega),
      only (show 0x80 + code / 0x1000 % 0x40 < 0x100 by omega),
      only (show 0x80 + code / 0x40 % 0x40 < 0x100 by omega),
      only (show 0x80 + code % 0x40 < 0x100 by omega)]
    omega

/-- A character of seven bits is in a text if its octet is among those of the text. -/
theorem mem_encode_iff_of_ascii (character : Char) {text : List Char}
    (ascii : character.toNat < 0x80) :
    UInt8.ofNat character.toNat ∈ encode text ↔ character ∈ text := by
  have octet : (UInt8.ofNat character.toNat).toNat = character.toNat := by
    rw [UInt8.toNat_ofNat', Nat.mod_eq_of_lt (by omega)]
  have small : UInt8.ofNat character.toNat < 0x80 := by
    rw [UInt8.lt_iff_toNat_lt, octet]
    exact ascii
  have same (other : Char) : other.toNat = character.toNat ↔ other = character := by
    constructor
    · intro code
      rw [← Char.ofNat_toNat other, code, Char.ofNat_toNat]
    · rintro rfl
      rfl
  simp only [encode, List.mem_flatMap, mem_encodeChar_iff_of_ascii small, octet, same,
    exists_eq_right]

end EditorSession.Text.Utf8
