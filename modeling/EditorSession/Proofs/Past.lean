import Mathlib.Data.List.Induction

/-!
# What happened, and was not undone since

A past is a list of what happened, oldest first, and grows at its end. `Since` says that something
happened and that nothing after it undid it; `since_append_singleton` is what one more entry does
to that.
-/

namespace EditorSession

variable {α : Type} {happened undone : α → Prop} {past : List α}

/-- An entry of a past with one more is the new one, or one of those before. -/
theorem split_append_singleton {earlier later : List α} {entry other : α}
    (split : past ++ [entry] = earlier ++ other :: later) :
    (earlier = past ∧ other = entry ∧ later = []) ∨
      ∃ rest, past = earlier ++ other :: rest ∧ later = rest ++ [entry] := by
  rcases List.eq_nil_or_concat later with rfl | ⟨rest, last, rfl⟩
  · left
    have same := List.append_inj' split rfl
    exact ⟨same.1.symm, (List.cons.inj same.2).1.symm, rfl⟩
  · right
    rw [List.concat_eq_append, ← List.cons_append, ← List.append_assoc] at split
    have same := List.append_inj' split rfl
    refine ⟨rest, same.1, ?_⟩
    rw [List.concat_eq_append, (List.cons.inj same.2).1]

/-- Something happened, and nothing after it undid it. -/
def Since (happened undone : α → Prop) (past : List α) : Prop :=
  ∃ earlier entry later, past = earlier ++ entry :: later ∧ happened entry ∧
    ∀ other ∈ later, ¬undone other

theorem not_since_nil : ¬Since happened undone [] := by
  rintro ⟨earlier, entry, later, split, _⟩
  simp at split

theorem since_append_singleton {entry : α} :
    Since happened undone (past ++ [entry]) ↔
      happened entry ∨ (Since happened undone past ∧ ¬undone entry) := by
  constructor
  · rintro ⟨earlier, first, later, split, happens, lasting⟩
    rcases split_append_singleton split with ⟨rfl, rfl, _⟩ | ⟨rest, inPast, rfl⟩
    · exact Or.inl happens
    · right
      refine ⟨⟨earlier, first, rest, inPast, happens, ?_⟩, lasting entry (by simp)⟩
      intro other otherMem
      exact lasting other (by simp [otherMem])
  · rintro (happens | ⟨⟨earlier, first, later, rfl, happens, lasting⟩, kept⟩)
    · exact ⟨past, entry, [], by simp, happens, by simp⟩
    · refine ⟨earlier, first, later ++ [entry], by simp, happens, ?_⟩
      intro other otherMem
      rcases List.mem_append.mp otherMem with laterMem | lastMem
      · exact lasting other laterMem
      · exact List.mem_singleton.mp lastMem ▸ kept

/-- Where entries are added that are not of the kind, only what they do not undo remains. -/
theorem since_append_iff {added : List α} (nothing : ∀ entry ∈ added, ¬happened entry) :
    Since happened undone (past ++ added) ↔
      Since happened undone past ∧ ∀ entry ∈ added, ¬undone entry := by
  induction added using List.reverseRecOn with
  | nil => simp
  | append_singleton added entry ih =>
      have before := ih fun other otherMem => nothing other (by simp [otherMem])
      have notNow := nothing entry (by simp)
      rw [← List.append_assoc, since_append_singleton, before]
      simp only [notNow, false_or, List.mem_append, List.mem_singleton, or_imp, forall_and,
        forall_eq, and_assoc]

end EditorSession
