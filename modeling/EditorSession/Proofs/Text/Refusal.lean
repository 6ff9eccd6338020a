import EditorSession.Proofs.Text.Decoding
import Mathlib.Order.Bounds.Basic

/-!
# Why octets are no text

What is reported of octets that are no text does not depend on how they are read:
`Malformed.Describes` says it of the octets alone, by the texts and the characters whose octets begin
as these do. A reader inside a character stands behind a start of one (`Reached.unfinished`) and
refuses an octet only if no character goes on with it (`Reached.not_prefix`), so what it reports is
what there is to be reported, and nothing else (`decode_exact`).
-/

namespace EditorSession.Text.Utf8

variable {octet : UInt8} {start : Nat} {read : List Char} {seen octets : Octets}
  {standing next : Standing} {malformed : Malformed}

/-! ### What is there to be reported -/

/-- Octets that a character begins with, and that are not yet all of it. -/
def Unfinished (octets : Octets) : Prop :=
  ∃ character, octets <+: encodeChar character ∧ octets ≠ encodeChar character

/-- The octets behind those that are well formed. -/
def Malformed.rest (malformed : Malformed) (octets : Octets) : Octets :=
  octets.drop malformed.validUpTo

/-- What is to be reported of octets that are no text. -/
structure Malformed.Describes (malformed : Malformed) (octets : Octets) : Prop where
  /-- As many octets as possible are well formed, which is to say that they are a text. -/
  longest : IsGreatest {length | ∃ text, encode text <+: octets ∧ (encode text).length = length}
    malformed.validUpTo
  /-- There are others behind them. -/
  short : malformed.validUpTo < octets.length
  /-- There is no error length exactly if a character begins with all of the others. -/
  unfinished_iff : malformed.errorLength = none ↔
    malformed.rest octets ≠ [] ∧ Unfinished (malformed.rest octets)
  /-- Otherwise it is the number of the others, from the first, that some character begins with, but
  at least one. -/
  refused : ∀ length, malformed.errorLength = some length →
    ∃ taken, IsGreatest {taken | ∃ part, part <+: malformed.rest octets ∧ Unfinished part ∧
      part.length = taken} taken ∧ length = max 1 taken

/-- Only one report describes what is wrong. -/
theorem Malformed.Describes.unique {other : Malformed} (describes : malformed.Describes octets)
    (otherDescribes : other.Describes octets) : malformed = other := by
  have same : malformed.validUpTo = other.validUpTo :=
    describes.longest.unique otherDescribes.longest
  have sameRest : malformed.rest octets = other.rest octets := by rw [rest, rest, same]
  rcases malformed with ⟨validUpTo, errorLength⟩
  rcases other with ⟨_, otherLength⟩
  obtain rfl : validUpTo = _ := same
  congr 1
  cases errorLength with
  | none =>
      have ends := describes.unfinished_iff.mp rfl
      rw [sameRest] at ends
      exact (otherDescribes.unfinished_iff.mpr ends).symm
  | some length =>
      cases otherLength with
      | none =>
          have ends := otherDescribes.unfinished_iff.mp rfl
          rw [← sameRest] at ends
          exact describes.unfinished_iff.mpr ends
      | some otherLength =>
          rcases describes.refused _ rfl with ⟨taken, greatest, rfl⟩
          rcases otherDescribes.refused _ rfl with ⟨_, otherGreatest, rfl⟩
          rw [sameRest] at greatest
          rw [greatest.unique otherGreatest]

/-! ### Where a reader gets to -/

/-- A reader that was between characters took these octets and stands here now, with no character
completed on the way. -/
inductive Reached : Octets → Standing → Prop
  | boundary : Reached [] .boundary
  | more {seen : Octets} {standing next : Standing} {octet : UInt8}
      (reached : Reached seen standing) (more : step standing octet = .more next) :
      Reached (seen ++ [octet]) next

/-- A character that goes on counts one more octet and leaves a choice for the next one. -/
theorem inside_of_more (more : step standing octet = .more next) :
    ∃ owed low high value, next = .inside owed low high value (standing.taken + 1) ∧
      low ≤ high := by
  cases standing with
  | boundary =>
      rw [step, lead] at more
      repeat' split at more
      all_goals cases more
      all_goals exact ⟨_, _, _, _, rfl, by decide⟩
  | inside owed low high value taken =>
      rw [step] at more
      split at more
      · split at more
        · cases more
        · cases more
          exact ⟨_, _, _, _, rfl, by decide⟩
      · cases more

theorem Reached.holds (reached : Reached seen standing) : standing.Holds seen := by
  induction reached with
  | boundary => exact holds_boundary
  | more reached more ih => exact ih.more more

theorem Reached.taken_eq (reached : Reached seen standing) : standing.taken = seen.length := by
  induction reached with
  | boundary => rfl
  | more reached more ih =>
      rcases inside_of_more more with ⟨owed, low, high, value, rfl, -⟩
      rw [List.length_append, ← ih]
      rfl

theorem Reached.ne_nil {owed value taken : Nat} {low high : UInt8}
    (reached : Reached seen (.inside owed low high value taken)) : seen ≠ [] := by
  cases reached with
  | more reached more => simp

/-- What was taken is read again wherever a reader is between characters. -/
theorem Reached.decodeFrom_append (reached : Reached seen standing) (rest : Octets) :
    decodeFrom .boundary start read (seen ++ rest) = decodeFrom standing start read rest := by
  induction reached generalizing rest with
  | boundary => rfl
  | more reached more ih =>
      rw [List.append_assoc, List.singleton_append, ih, decodeFrom_more more]

/-- Some character begins with what was taken: the least of the octets that may follow complete it. -/
theorem Reached.unfinished (reached : Reached seen standing) : Unfinished seen := by
  have begun : ∃ character rest, rest ≠ [] ∧ encodeChar character = seen ++ rest := by
    cases reached with
    | boundary => exact ⟨'a', [0x61], by decide, by decide⟩
    | more reached more =>
        have holds := reached.holds.more more
        rcases inside_of_more more with ⟨owed, low, high, value, rfl, least⟩
        refine ⟨_, low :: List.replicate (owed - 1) 0x80, List.cons_ne_nil _ _,
          holds.2 low _ (UInt8.le_refl low) least (fun octet octetMem => ?_) ?_⟩
        · rw [List.eq_of_mem_replicate octetMem]
          exact ⟨by decide, by decide⟩
        · have owes := holds.1
          rw [List.length_replicate]
          omega
  rcases begun with ⟨character, rest, others, encoded⟩
  refine ⟨character, encoded ▸ List.prefix_append _ _, fun whole => others ?_⟩
  rw [← whole] at encoded
  exact List.append_right_eq_self.mp encoded.symm

/-- No character goes on with an octet that is refused. -/
theorem Reached.not_prefix (reached : Reached seen standing)
    (refused : step standing octet = .refused) (character : Char) :
    ¬seen ++ [octet] <+: encodeChar character := by
  rintro ⟨rest, encoded⟩
  have whole : decode (encodeChar character) = .ok [character] := by
    simpa [encode] using decode_encode [character]
  rw [decode, ← encoded, List.append_assoc, reached.decodeFrom_append, List.singleton_append,
    decodeFrom, refused] at whole
  cases whole

/-! ### What is reported -/

/-- Why a reader does not get on with octets: they end inside a character, or one is refused. -/
inductive Stuck : Octets → Option Nat → Prop
  | ended {seen : Octets} {standing : Standing} (reached : Reached seen standing)
      (inside : seen ≠ []) : Stuck seen none
  | refused {seen : Octets} {standing : Standing} {octet : UInt8} (rest : Octets)
      (reached : Reached seen standing) (refused : step standing octet = .refused) :
      Stuck (seen ++ octet :: rest) (some (max 1 seen.length))

theorem exists_stuck (reached : Reached seen standing)
    (failed : decodeFrom standing start read octets = .error malformed) :
    ∃ text rest, seen ++ octets = encode text ++ rest ∧
      malformed.validUpTo = start + (encode text).length ∧ Stuck rest malformed.errorLength := by
  induction octets generalizing standing start read seen with
  | nil =>
      cases standing with
      | boundary => cases failed
      | inside owed low high value taken =>
          cases failed
          exact ⟨[], seen, List.append_nil seen, rfl, .ended reached reached.ne_nil⟩
  | cons octet octets ih =>
      rw [decodeFrom] at failed
      cases stepped : step standing octet with
      | more next =>
          rw [stepped] at failed
          simpa using ih (reached.more stepped) failed
      | complete character =>
          rw [stepped, reached.taken_eq] at failed
          rcases ih .boundary failed with ⟨text, rest, split, valid, stuck⟩
          have first : encodeChar character = seen ++ [octet] := reached.holds.complete stepped
          have encoded : encode (character :: text) = encodeChar character ++ encode text := rfl
          refine ⟨character :: text, rest, ?_, ?_, stuck⟩
          · rw [List.nil_append] at split
            simp [encoded, first, split]
          · rw [valid, encoded, first]
            simp
            omega
      | refused =>
          rw [stepped, reached.taken_eq] at failed
          cases failed
          exact ⟨[], seen ++ octet :: octets, rfl, rfl, .refused octets reached stepped⟩

/-- No text that octets begin with is longer than what is reported to be well formed. -/
theorem length_le_validUpTo (failed : decode octets = .error malformed) {text : List Char}
    (begins : encode text <+: octets) : (encode text).length ≤ malformed.validUpTo := by
  rcases begins with ⟨rest, rfl⟩
  -- The reader gets behind the text, and only counts on from there.
  rw [decode, decodeFrom_encode, Nat.zero_add] at failed
  rcases exists_stuck .boundary failed with ⟨_, _, -, valid, -⟩
  exact valid ▸ Nat.le_add_right _ _

namespace Stuck

variable {errorLength : Option Nat}

theorem ne_nil (stuck : Stuck octets errorLength) : octets ≠ [] := by
  cases stuck with
  | ended reached inside => exact inside
  | refused rest reached refused => simp

theorem errorLength_eq_none_iff (stuck : Stuck octets errorLength) :
    errorLength = none ↔ octets ≠ [] ∧ Unfinished octets := by
  cases stuck with
  | ended reached inside => simp [inside, reached.unfinished]
  | @refused seen standing octet rest reached refused =>
      constructor
      · nofun
      · rintro ⟨-, character, begins, -⟩
        have part : seen ++ [octet] <+: seen ++ octet :: rest := ⟨rest, by simp⟩
        exact absurd (part.trans begins) (reached.not_prefix refused character)

/-- Exactly the octets before the one that is refused are a start of a character, and no more. -/
theorem exists_greatest {length : Nat} (stuck : Stuck octets (some length)) :
    ∃ taken, IsGreatest {taken | ∃ part, part <+: octets ∧ Unfinished part ∧ part.length = taken}
      taken ∧ length = max 1 taken := by
  cases stuck with
  | @refused seen standing octet rest reached refused =>
      refine ⟨seen.length, ⟨⟨seen, List.prefix_append _ _, reached.unfinished, rfl⟩, ?_⟩, rfl⟩
      rintro _ ⟨part, begins, ⟨character, starts, -⟩, rfl⟩
      by_contra longer
      have inside : seen ++ [octet] <+: seen ++ octet :: rest := ⟨rest, by simp⟩
      have within : seen ++ [octet] <+: part := by
        refine List.prefix_of_prefix_length_le inside begins ?_
        rw [List.length_append]
        exact Nat.lt_of_not_le longer
      exact reached.not_prefix refused character (within.trans starts)

end Stuck

/-- What is reported of octets describes what is wrong with them. -/
theorem describes_of_decode (failed : decode octets = .error malformed) :
    malformed.Describes octets := by
  rcases exists_stuck .boundary failed with ⟨text, rest, split, valid, stuck⟩
  rw [List.nil_append] at split
  rw [Nat.zero_add] at valid
  have behind : malformed.rest octets = rest := by
    rw [Malformed.rest, split, valid, List.drop_left]
  constructor
  · refine ⟨⟨text, split ▸ List.prefix_append _ _, valid.symm⟩, ?_⟩
    rintro _ ⟨other, begins, rfl⟩
    exact length_le_validUpTo failed begins
  · rw [split, valid, List.length_append]
    exact Nat.lt_add_of_pos_right (List.length_pos_iff.mpr stuck.ne_nil)
  · rw [behind]
    exact stuck.errorLength_eq_none_iff
  · intro length refused
    rw [behind]
    exact (refused ▸ stuck).exists_greatest

/--
Octets are read as a text exactly if they are the octets of that text. Otherwise what is reported is
the one thing that describes what is wrong with them: the length of the longest text they begin with,
and how far some character goes on behind it.
-/
theorem decode_exact (octets : Octets) :
    (∀ text, decode octets = .ok text ↔ octets = encode text) ∧
      ∀ malformed, decode octets = .error malformed ↔ malformed.Describes octets := by
  refine ⟨fun text => decode_eq_ok_iff, fun malformed => ⟨describes_of_decode, ?_⟩⟩
  intro describes
  cases read : decode octets with
  | ok text =>
      obtain rfl : octets = encode text := decode_eq_ok_iff.mp read
      have longest := describes.longest.2 ⟨text, List.prefix_refl _, rfl⟩
      exact absurd describes.short (Nat.not_lt.mpr longest)
  | error other => rw [(describes_of_decode read).unique describes]

/-- A surrogate is refused at its second octet, and the octets may end inside a character. -/
example : decode [0x61, 0xED, 0xA0, 0x80] = .error ⟨1, some 1⟩ ∧
    decode [0x61, 0xF0, 0x9F, 0x98] = .error ⟨1, none⟩ := by decide

end EditorSession.Text.Utf8
