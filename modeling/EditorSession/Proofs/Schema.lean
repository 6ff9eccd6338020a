import EditorSession.Schema

/-!
# Decoding records

A record is decoded by laying data over it, one field at a time. So what every field keeps, whatever
is laid over it, holds of the record that comes out (`overlayKnown_keeps`, `overlayItems_keeps`). If
each member fits its field, there is a record, and it has what some member brings about and the
others keep (`overlayKnown_attains`); if one member does not fit, its mismatch is what is reported
(`overlayKnown_refuses`). And what a record has that was not there before, some member brought about
(`addresses_of_overlayKnown`).
-/

namespace EditorSession.Schema

/-- The step that yields a value, and the one that takes it. -/
theorem bind_eq_ok_iff {ε α β : Type} {first : Except ε α} {next : α → Except ε β} {result : β} :
    (first >>= next) = .ok result ↔ ∃ value, first = .ok value ∧ next value = .ok result := by
  cases first with
  | error failure => simp [bind, Except.bind]
  | ok value => simp [bind, Except.bind]

theorem map_eq_ok_iff {ε α β : Type} {result : Except ε α} {change : α → β} {value : β} :
    result.map change = .ok value ↔ ∃ before, result = .ok before ∧ change before = value := by
  cases result with
  | error failure => simp [Except.map]
  | ok before => simp [Except.map]

/-- What a field of a record takes is decoded and then put in its place. -/
theorem Member.of_assign_eq_ok_iff {α β : Type} {name : String} {decode : Decoder β}
    {put : β → α → α} {dialect : Dialect} {datum : Datum} {before after : α} :
    (Member.of name decode put).assign dialect datum before = .ok after ↔
      ∃ value, decode dialect datum = .ok value ∧ put value before = after :=
  map_eq_ok_iff

/-- A value that may be null is read if the value itself is. -/
theorem optional_reads {α : Type} {decode : Decoder α} {dialect : Dialect} {datum : Datum}
    (reads : ∃ value, decode dialect datum = .ok value) :
    ∃ value, optional decode dialect datum = .ok value := by
  rcases reads with ⟨value, read⟩
  cases datum with
  | null => exact ⟨none, rfl⟩
  | _ => exact ⟨some value, map_eq_ok_iff.mpr ⟨value, read, rfl⟩⟩

theorem required_eq_ok_iff {α : Type} {name : String} {found : Option α} {value : α} :
    required name found = .ok value ↔ found = some value := by
  cases found <;> simp [required]

variable {α : Type} {dialect : Dialect} {fields : List (Member α)} {property : α → Prop}
  {before after : α}

/-- Whatever datum is laid over a field, the record keeps a property. -/
def Member.Keeps (property : α → Prop) (field : Member α) : Prop :=
  ∀ {dialect datum before after}, property before → field.assign dialect datum before = .ok after →
    property after

theorem overlayKnown_keeps (kept : ∀ field ∈ fields, field.Keeps property) {members : Members}
    (holds : property before)
    (laid : overlayKnown dialect fields members before = .ok after) : property after := by
  induction members generalizing before with
  | nil =>
      cases laid
      exact holds
  | cons member members ih =>
      simp only [overlayKnown, List.foldlM_cons, bind_eq_ok_iff] at laid
      rcases laid with ⟨middle, first, others⟩
      refine ih ?_ others
      cases found : fields.find? fun field => field.name == member.1 with
      | none =>
          rw [found] at first
          cases first
          exact holds
      | some field =>
          rw [found] at first
          exact kept field (List.mem_of_find?_eq_some found) holds first

theorem overlayItems_keeps (kept : ∀ field ∈ fields, field.Keeps property) {items : List Datum}
    (holds : property before)
    (laid : Shape.overlayItems dialect fields items before = .ok after) : property after := by
  induction fields generalizing items before with
  | nil =>
      cases laid
      exact holds
  | cons field fields ih =>
      cases items with
      | nil =>
          cases laid
          exact holds
      | cons item items =>
          simp only [Shape.overlayItems, bind_eq_ok_iff] at laid
          rcases laid with ⟨middle, first, others⟩
          exact ih (fun other mem => kept other (List.mem_cons_of_mem _ mem))
            (kept field (List.mem_cons_self ..) holds first) others

theorem overlayKnown_cons (member : String × Datum) (members : Members) (before : α) :
    overlayKnown dialect fields (member :: members) before =
      (match fields.find? fun field => field.name == member.1 with
        | some field => field.assign dialect member.2 before
        | none => .ok before) >>= overlayKnown dialect fields members := rfl

/-- Some member of a record has a field, of which `takes` holds together with the datum. -/
def Addresses (fields : List (Member α)) (members : Members) (takes : Member α → Datum → Prop) :
    Prop :=
  ∃ member ∈ members, ∃ field,
    (fields.find? fun field => field.name == member.1) = some field ∧ takes field member.2

section Addresses

variable {member : String × Datum} {members : Members} {takes : Member α → Datum → Prop}

theorem Addresses.of_unknown (addresses : Addresses fields (member :: members) takes)
    (unknown : (fields.find? fun field => field.name == member.1) = none) :
    Addresses fields members takes := by
  rcases addresses with ⟨other, mem, field, known, taken⟩
  rcases List.mem_cons.mp mem with rfl | mem
  · rw [unknown] at known
    cases known
  · exact ⟨other, mem, field, known, taken⟩

theorem Addresses.of_known (addresses : Addresses fields (member :: members) takes)
    {field : Member α} (known : (fields.find? fun field => field.name == member.1) = some field) :
    takes field member.2 ∨ Addresses fields members takes := by
  rcases addresses with ⟨other, mem, otherField, otherKnown, taken⟩
  rcases List.mem_cons.mp mem with rfl | mem
  · rw [known] at otherKnown
    cases otherKnown
    exact .inl taken
  · exact .inr ⟨other, mem, otherField, otherKnown, taken⟩

end Addresses

variable (property) in
/-- What holds afterwards and did not before comes about by some member. -/
theorem addresses_of_overlayKnown {members : Members}
    (laid : overlayKnown dialect fields members before = .ok after) (notYet : ¬property before)
    (holds : property after) :
    Addresses fields members fun field datum => ∃ before after, ¬property before ∧
      field.assign dialect datum before = .ok after ∧ property after := by
  induction members generalizing before with
  | nil =>
      cases laid
      exact absurd holds notYet
  | cons member members ih =>
      rw [overlayKnown_cons, bind_eq_ok_iff] at laid
      rcases laid with ⟨middle, first, others⟩
      by_cases already : property middle
      · -- The first member did it, and so it has a field.
        cases found : fields.find? fun field => field.name == member.1 with
        | none =>
            rw [found] at first
            cases first
            exact absurd already notYet
        | some field =>
            rw [found] at first
            exact ⟨member, List.mem_cons_self .., field, found, before, middle, notYet, first, already⟩
      · rcases ih others already with ⟨other, mem, field, known, brought⟩
        exact ⟨other, List.mem_cons_of_mem _ mem, field, known, brought⟩

variable (property) in
theorem overlayKnown_attains {members : Members}
    (fits : ∀ member ∈ members, ∀ field ∈ fields, field.name = member.1 → ∀ before, ∃ after,
      field.assign dialect member.2 before = .ok after ∧ (property before → property after))
    (attained : property before ∨ Addresses fields members fun field datum =>
      ∀ before after, field.assign dialect datum before = .ok after → property after) :
    ∃ after, overlayKnown dialect fields members before = .ok after ∧ property after := by
  induction members generalizing before with
  | nil =>
      rcases attained with holds | ⟨member, mem, -⟩
      · exact ⟨before, rfl, holds⟩
      · cases mem
  | cons member members ih =>
      have others := fun other mem => fits other (List.mem_cons_of_mem member mem)
      rw [overlayKnown_cons]
      cases found : fields.find? fun field => field.name == member.1 with
      | none => exact ih others (attained.imp_right fun addresses => addresses.of_unknown found)
      | some field =>
          have sameName : field.name = member.1 := by simpa using List.find?_some found
          rcases fits member (List.mem_cons_self ..) field (List.mem_of_find?_eq_some found)
            sameName before with ⟨middle, assigned, kept⟩
          simp only [assigned]
          -- The property is there already, or comes about now, or later.
          rcases attained with holds | addresses
          · exact ih others (.inl (kept holds))
          · rcases addresses.of_known found with attains | later
            · exact ih others (.inl (attains before middle assigned))
            · exact ih others (.inr later)

theorem overlayKnown_refuses {members : Members} {mismatch : Mismatch}
    (fits : ∀ member ∈ members, ∀ field ∈ fields, field.name = member.1 → ∀ before,
      (∃ after, field.assign dialect member.2 before = .ok after) ∨
        field.assign dialect member.2 before = .error mismatch)
    (refused : Addresses fields members fun field datum =>
      ∀ before, field.assign dialect datum before = .error mismatch) :
    overlayKnown dialect fields members before = .error mismatch := by
  induction members generalizing before with
  | nil =>
      rcases refused with ⟨member, mem, -⟩
      cases mem
  | cons member members ih =>
      have others := fun other mem => fits other (List.mem_cons_of_mem member mem)
      rw [overlayKnown_cons]
      cases found : fields.find? fun field => field.name == member.1 with
      | none => exact ih others (refused.of_unknown found)
      | some field =>
          have sameName : field.name = member.1 := by simpa using List.find?_some found
          rcases fits member (List.mem_cons_self ..) field (List.mem_of_find?_eq_some found)
            sameName before with ⟨middle, assigned⟩ | failed
          · simp only [assigned]
            rcases refused.of_known found with refuses | later
            · rw [refuses before] at assigned
              cases assigned
            · exact ih others later
          · simp only [failed]
            rfl

end EditorSession.Schema
