import EditorSession.Proofs.Text.Utf8
import Mathlib.Data.List.Basic

/-!
# Only the octets of a text are read

A reader that stands inside a character has read a start of its octets: whatever may follow there
completes them to the octets of the character that they spell (`Standing.Holds`). Every step keeps
this, so octets are read as a text only if they are the octets of this text (`decode_eq_ok_iff`).
-/

namespace EditorSession.Text.Utf8

variable {octet : UInt8} {top second third fourth taken start : Nat} {seen octets : Octets}

/-! ### Characters by the bits of their octets -/

theorem toNat_ofNat {code : Nat} (valid : code.isValidChar) : (Char.ofNat code).toNat = code := by
  rw [Char.ofNat, dif_pos valid]
  rfl

theorem encodeChar_two (least : 2 ≤ top) (most : top < 0x20) (bits : second < 0x40) :
    encodeChar (Char.ofNat (top * 0x40 + second)) =
      [UInt8.ofNat (0xC0 + top), UInt8.ofNat (0x80 + second)] := by
  rw [encodeChar, toNat_ofNat (.inl (by omega))]
  generalize code : top * 0x40 + second = value
  have first : value / 0x40 = top := by omega
  have last : value % 0x40 = second := by omega
  simp only [show ¬value < 0x80 by omega, show value < 0x800 by omega, ↓reduceIte, first, last]

theorem encodeChar_three (most : top < 0x10) (long : 0x20 ≤ top * 0x40 + second)
    (noSurrogate : top = 0xD → second < 0x20) (bits : second < 0x40) (others : third < 0x40) :
    encodeChar (Char.ofNat ((top * 0x40 + second) * 0x40 + third)) =
      [UInt8.ofNat (0xE0 + top), UInt8.ofNat (0x80 + second), UInt8.ofNat (0x80 + third)] := by
  rw [encodeChar, toNat_ofNat (by unfold Nat.isValidChar; omega)]
  generalize code : (top * 0x40 + second) * 0x40 + third = value
  have first : value / 0x1000 = top := by omega
  have middle : value / 0x40 % 0x40 = second := by omega
  have last : value % 0x40 = third := by omega
  simp only [show ¬value < 0x80 by omega, show ¬value < 0x800 by omega,
    show value < 0x10000 by omega, ↓reduceIte, first, middle, last]

theorem encodeChar_four (long : 0x10 ≤ top * 0x40 + second) (most : top * 0x40 + second < 0x110)
    (bits : second < 0x40) (others : third < 0x40) (last : fourth < 0x40) :
    encodeChar (Char.ofNat (((top * 0x40 + second) * 0x40 + third) * 0x40 + fourth)) =
      [UInt8.ofNat (0xF0 + top), UInt8.ofNat (0x80 + second), UInt8.ofNat (0x80 + third),
        UInt8.ofNat (0x80 + fourth)] := by
  rw [encodeChar, toNat_ofNat (by unfold Nat.isValidChar; omega)]
  generalize code : ((top * 0x40 + second) * 0x40 + third) * 0x40 + fourth = value
  have first : value / 0x40000 = top := by omega
  have afterFirst : value / 0x1000 % 0x40 = second := by omega
  have beforeLast : value / 0x40 % 0x40 = third := by omega
  have atEnd : value % 0x40 = fourth := by omega
  simp only [show ¬value < 0x80 by omega, show ¬value < 0x800 by omega,
    show ¬value < 0x10000 by omega, ↓reduceIte, first, afterFirst, beforeLast, atEnd]

/-! ### Where a reader stands -/

/-- The value that octets spell after one that was read, six bits each. -/
def extend (value : Nat) (octets : Octets) : Nat :=
  octets.foldl (fun value octet => value * 0x40 + (octet.toNat - 0x80)) value

theorem extend_nil (value : Nat) : extend value [] = value := rfl

theorem extend_cons (value : Nat) (octet : UInt8) (octets : Octets) :
    extend value (octet :: octets) = extend (value * 0x40 + (octet.toNat - 0x80)) octets := by
  rw [extend, List.foldl_cons, ← extend]

/-- An octet that goes on with a character. -/
def GoesOn (octet : UInt8) : Prop := 0x80 ≤ octet.toNat ∧ octet.toNat < 0xC0

/-- The octets that were read of a character in progress, as the reader remembers them: what is owed
completes them to the octets of the character that is spelled then. -/
def Standing.Holds (seen : Octets) : Standing → Prop
  | .boundary => seen = []
  | .inside owed low high value _ => 0 < owed ∧
    ∀ next others, low ≤ next → next ≤ high → (∀ octet ∈ others, GoesOn octet) →
      others.length + 1 = owed →
      encodeChar (Char.ofNat (extend value (next :: others))) = seen ++ next :: others

theorem eq_ofNat_add {base : Nat} (least : base ≤ octet.toNat) :
    UInt8.ofNat (base + (octet.toNat - base)) = octet := by
  rw [Nat.add_sub_cancel' least, UInt8.ofNat_toNat]

theorem GoesOn.eq_ofNat (goesOn : GoesOn octet) :
    UInt8.ofNat (0x80 + (octet.toNat - 0x80)) = octet :=
  eq_ofNat_add goesOn.1

theorem GoesOn.bits_lt (goesOn : GoesOn octet) : octet.toNat - 0x80 < 0x40 := by
  rcases goesOn with ⟨least, most⟩
  omega

theorem goesOn_of_between {low high : UInt8} (least : 0x80 ≤ low.toNat) (most : high.toNat < 0xC0)
    (lowest : low ≤ octet) (highest : octet ≤ high) : GoesOn octet :=
  ⟨Nat.le_trans least lowest, Nat.lt_of_le_of_lt highest most⟩

theorem holds_two (least : 0xC2 ≤ octet.toNat) (most : octet.toNat ≤ 0xDF) :
    (Standing.inside 1 0x80 0xBF (octet.toNat - 0xC0) taken).Holds [octet] := by
  refine ⟨by decide, fun next others lowest highest goOn enough => ?_⟩
  obtain rfl : others = [] := List.length_eq_zero_iff.mp (by omega)
  have goesOn : GoesOn next := goesOn_of_between (by decide) (by decide) lowest highest
  have encoded := @encodeChar_two (octet.toNat - 0xC0) _ (by omega) (by omega) goesOn.bits_lt
  rw [eq_ofNat_add (by omega), goesOn.eq_ofNat] at encoded
  exact encoded

section Second

variable {low high : UInt8} (least : 0x80 ≤ low.toNat) (greatest : high.toNat < 0xC0)
include least greatest

theorem holds_three (lead : UInt8.ofNat (0xE0 + top) = octet) (most : top < 0x10)
    (long : 0x20 ≤ top * 0x40 + (low.toNat - 0x80)) (noSurrogate : top = 0xD → high.toNat < 0xA0) :
    (Standing.inside 2 low high top taken).Holds [octet] := by
  refine ⟨by decide, fun next others lowest highest goOn enough => ?_⟩
  obtain ⟨last, rfl⟩ : ∃ last, others = [last] := List.length_eq_one_iff.mp (by omega)
  have goesOn : GoesOn next := goesOn_of_between least greatest lowest highest
  have ends := goOn last (List.mem_singleton_self last)
  rw [UInt8.le_iff_toNat_le] at lowest highest
  have encoded := encodeChar_three most (by omega) (by omega) goesOn.bits_lt ends.bits_lt
  rw [goesOn.eq_ofNat, ends.eq_ofNat, lead] at encoded
  exact encoded

theorem holds_four (lead : UInt8.ofNat (0xF0 + top) = octet)
    (long : 0x10 ≤ top * 0x40 + (low.toNat - 0x80))
    (most : top * 0x40 + (high.toNat - 0x80) < 0x110) :
    (Standing.inside 3 low high top taken).Holds [octet] := by
  refine ⟨by decide, fun next others lowest highest goOn enough => ?_⟩
  obtain ⟨third, last, rfl⟩ : ∃ third last, others = [third, last] :=
    List.length_eq_two.mp (by omega)
  have goesOn : GoesOn next := goesOn_of_between least greatest lowest highest
  have between := goOn third (by simp)
  have ends := goOn last (by simp)
  rw [UInt8.le_iff_toNat_le] at lowest highest
  have notOverlong : 0x10 ≤ top * 0x40 + (next.toNat - 0x80) := by omega
  have notBeyond : top * 0x40 + (next.toNat - 0x80) < 0x110 := by omega
  have encoded :=
    encodeChar_four notOverlong notBeyond goesOn.bits_lt between.bits_lt ends.bits_lt
  rw [goesOn.eq_ofNat, between.eq_ofNat, ends.eq_ofNat, lead] at encoded
  exact encoded

end Second

/-! ### Steps -/

theorem holds_of_lead {next : Standing} (more : lead octet = .more next) : next.Holds [octet] := by
  unfold lead at more
  simp only [UInt8.le_iff_toNat_le, UInt8.lt_iff_toNat_lt, UInt8.reduceToNat] at more
  split at more
  · cases more
  split at more
  · cases more
  split at more
  · cases more
    exact holds_two (by omega) (by omega)
  -- Three octets: the second is bounded below after the least first octet, and above after `0xED`.
  split at more
  next lead =>
    cases more
    exact holds_three (by decide) (by decide) lead.symm (by decide) (by decide) (by decide)
  split at more
  next lead =>
    cases more
    exact holds_three (by decide) (by decide) lead.symm (by decide) (by decide) (by decide)
  split at more
  next notLeast notSurrogates most =>
    cases more
    rw [← UInt8.toNat_inj] at notLeast notSurrogates
    simp only [UInt8.reduceToNat] at notLeast notSurrogates
    exact holds_three (by decide) (by decide) (eq_ofNat_add (by omega)) (by omega) (by simp; omega)
      (by omega)
  -- Four octets: the same after the least and the greatest first octet.
  split at more
  next lead =>
    cases more
    exact holds_four (by decide) (by decide) lead.symm (by decide) (by decide)
  split at more
  next notLeast most =>
    cases more
    rw [← UInt8.toNat_inj] at notLeast
    simp only [UInt8.reduceToNat] at notLeast
    exact holds_four (by decide) (by decide) (eq_ofNat_add (by omega)) (by simp; omega)
      (by simp; omega)
  split at more
  next lead =>
    cases more
    exact holds_four (by decide) (by decide) lead.symm (by decide) (by decide)
  · cases more

theorem encodeChar_of_lead {character : Char} (complete : lead octet = .complete character) :
    encodeChar character = [octet] := by
  unfold lead at complete
  split at complete
  next ascii =>
    cases complete
    rw [UInt8.le_iff_toNat_le] at ascii
    have small : octet.toNat < 0x80 := Nat.lt_succ_of_le ascii
    rw [encodeChar, toNat_ofNat (.inl (by omega))]
    simp only [small, ↓reduceIte, UInt8.ofNat_toNat]
  next =>
    repeat' split at complete
    all_goals cases complete

/-- An octet that leaves a character unfinished is one more of those that were read of it. -/
theorem Standing.Holds.more {standing next : Standing} (holds : standing.Holds seen)
    (more : step standing octet = .more next) : next.Holds (seen ++ [octet]) := by
  cases standing with
  | boundary =>
      rw [show seen = [] from holds]
      exact holds_of_lead more
  | inside owed low high value taken =>
      rw [step] at more
      split at more
      next within =>
        split at more
        · cases more
        next owesMore =>
          cases more
          refine ⟨by omega, fun next others lowest highest goOn enough => ?_⟩
          have following : ∀ other ∈ next :: others, GoesOn other := by
            intro other mem
            rcases List.mem_cons.mp mem with rfl | mem
            · exact goesOn_of_between (by decide) (by decide) lowest highest
            · exact goOn other mem
          have spelled := holds.2 octet (next :: others) within.1 within.2 following
            (by rw [List.length_cons]; omega)
          rw [List.append_assoc, List.singleton_append, ← spelled, extend_cons value octet]
      · cases more

/-- An octet that ends a character is the last one of its octets. -/
theorem Standing.Holds.complete {standing : Standing} {character : Char}
    (holds : standing.Holds seen) (complete : step standing octet = .complete character) :
    encodeChar character = seen ++ [octet] := by
  cases standing with
  | boundary =>
      rw [show seen = [] from holds]
      exact encodeChar_of_lead complete
  | inside owed low high value taken =>
      rw [step] at complete
      split at complete
      next within =>
        split at complete
        next owesOne =>
          have owes := holds.1
          have spelled := holds.2 octet [] within.1 within.2 (by simp)
            (by rw [List.length_nil]; omega)
          rw [← Step.complete.inj complete, ← spelled, extend_cons, extend_nil]
        · cases complete
      · cases complete

/-! ### Texts -/

theorem holds_boundary : Standing.boundary.Holds [] := rfl

theorem encode_of_decodeFrom {standing : Standing} {read text : List Char}
    (holds : standing.Holds seen) (decoded : decodeFrom standing start read octets = .ok text) :
    encode text = encode read.reverse ++ (seen ++ octets) := by
  induction octets generalizing standing start read seen with
  | nil =>
      cases standing with
      | boundary =>
          cases decoded
          rw [show seen = [] from holds]
          simp
      | inside owed low high value taken => cases decoded
  | cons octet octets ih =>
      rw [decodeFrom] at decoded
      cases stepped : step standing octet with
      | more next =>
          rw [stepped] at decoded
          simpa using ih (holds.more stepped) decoded
      | complete character =>
          rw [stepped] at decoded
          have rest := ih holds_boundary decoded
          have last : encode [character] = seen ++ [octet] := by
            simp [encode, holds.complete stepped]
          rw [List.reverse_cons, encode_append, last] at rest
          simpa using rest
      | refused =>
          rw [stepped] at decoded
          cases decoded

/-- Octets spell a text if and only if they are the octets of the text. -/
theorem decode_eq_ok_iff {text : List Char} : decode octets = .ok text ↔ octets = encode text := by
  constructor
  · intro decoded
    have encoded := encode_of_decodeFrom holds_boundary decoded
    simpa [encode] using encoded.symm
  · rintro rfl
    exact decode_encode text

theorem toString?_eq_some_iff {text : String} :
    toString? octets = some text ↔ octets = ofString text := by
  unfold toString?
  rw [ofString, ← decode_eq_ok_iff]
  split
  next read decoded =>
    rw [decoded, Option.some.injEq, Except.ok.injEq]
    constructor
    · rintro rfl
      rw [String.toList_ofList]
    · rintro rfl
      rw [String.ofList_toList]
  next failed => rw [failed]; simp

end EditorSession.Text.Utf8
