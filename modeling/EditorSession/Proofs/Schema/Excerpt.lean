import EditorSession.Proofs.Schema
import Mathlib.Data.List.Nodup

/-!
# Excerpts of records

An excerpt of a value has some of the members of its records, in any order (`Datum.Excerpt`). A
shape overlays a record if laying one of its members over a preset puts this member in its place,
whatever else is in place already (`Shape.Overlays`). Then laying any excerpt over the preset yields
the record at the members that the excerpt has and the preset elsewhere (`overlay_excerpt`), and one
member that does not fit spoils it (`overlay_refused`).
-/

namespace EditorSession

/-- A choice among the members of a value, and among the members of these, by the names that lead
to them. -/
abbrev Keys := List String → Bool

namespace Keys

/-- What is chosen inside the member of a name. -/
def below (keys : Keys) (name : String) : Keys := fun path => keys (name :: path)

/-- The same choice inside the members, with another one among the members themselves. -/
def withTop (keys : Keys) (chosen : String → Bool) : Keys
  | [name] => chosen name
  | path => keys path

/-- One of two values, as a key is chosen or not. -/
def pick {α : Type} (keys : Keys) (name : String) (own preset : α) : α :=
  bif keys [name] then own else preset

@[simp]
theorem pick_withTop {α : Type} (keys : Keys) (chosen : String → Bool) (name : String)
    (own preset : α) :
    (keys.withTop chosen).pick name own preset = bif chosen name then own else preset := rfl

theorem withTop_self (keys : Keys) : keys.withTop (fun name => keys [name]) = keys := by
  funext path
  unfold withTop
  split <;> rfl

end Keys

/-- An excerpt of a value has the chosen ones among its members and among theirs. -/
inductive Datum.Excerpt : Keys → Datum → Datum → Prop
  /-- A value without members is there as it is. -/
  | plain {keys datum} (noRecord : ∀ members, datum ≠ .record members) : Excerpt keys datum datum
  /-- The chosen members may be in any order, and those that are null may be left out. -/
  | record {keys all written}
      (chosen : ∀ member ∈ written, member.1 ∈ all.map Prod.fst ∧ keys [member.1] = true)
      (complete : ∀ member ∈ all, keys [member.1] = true →
        member.1 ∈ written.map Prod.fst ∨ member.2 = .null)
      (inside : ∀ member ∈ all, ∀ other ∈ written, other.1 = member.1 →
        Excerpt (keys.below member.1) member.2 other.2) :
      Excerpt keys (.record all) (.record written)

/-- Adding one more member to a record inside a value, to which a path of names leads. -/
inductive Datum.Adds (name : String) (value : Datum) : Datum → List String → Datum → Prop
  | here {before after : Members} :
      Adds name value (.record (before ++ after)) [] (.record (before ++ (name, value) :: after))
  | inside {key path datum grown} {before after : Members}
      (deeper : Adds name value datum path grown) :
      Adds name value (.record (before ++ (key, datum) :: after)) (key :: path)
        (.record (before ++ (key, grown) :: after))

namespace Datum.Excerpt

variable {keys : Keys} {datum part : Datum} {all written : Members}

theorem eq_of_plain (excerpt : datum.Excerpt keys part)
    (plain : ∀ members, datum ≠ .record members) : part = datum := by
  cases excerpt with
  | plain noRecord => rfl
  | record chosen complete inside => exact absurd rfl (plain _)

theorem exists_record (excerpt : (Datum.record all).Excerpt keys part) :
    ∃ written, part = .record written := by
  cases excerpt with
  | plain noRecord => exact absurd rfl (noRecord all)
  | record chosen complete inside => exact ⟨_, rfl⟩

/-- Each member of an excerpt is an excerpt of a member. -/
theorem parts (excerpt : (Datum.record all).Excerpt keys (.record written)) :
    ∀ other ∈ written, ∃ member ∈ all, other.1 = member.1 ∧
      member.2.Excerpt (keys.below member.1) other.2 := by
  cases excerpt with
  | plain noRecord => exact absurd rfl (noRecord all)
  | record chosen complete inside =>
      intro other mem
      rcases List.mem_map.mp (chosen other mem).1 with ⟨member, memberMem, same⟩
      exact ⟨member, memberMem, same.symm, inside member memberMem other mem same.symm⟩

theorem of_mem (excerpt : (Datum.record all).Excerpt keys (.record written)) {name : String}
    (mem : (name, datum) ∈ all) (partMem : (name, part) ∈ written) :
    datum.Excerpt (keys.below name) part := by
  cases excerpt with
  | plain noRecord => exact absurd rfl (noRecord all)
  | record chosen complete inside => exact inside _ mem _ partMem rfl

/-- An excerpt has a member of a name if it is chosen, unless it is null. -/
theorem names (excerpt : (Datum.record all).Excerpt keys (.record written)) :
    ∀ member ∈ all, member.2 ≠ .null →
      (written.map Prod.fst).contains member.1 = keys [member.1] := by
  cases excerpt with
  | plain noRecord => exact absurd rfl (noRecord all)
  | record chosen complete inside =>
      intro member mem notNull
      rw [Bool.eq_iff_iff, List.contains_iff_mem]
      constructor
      · intro present
        rcases List.mem_map.mp present with ⟨other, otherMem, same⟩
        rw [← same]
        exact (chosen other otherMem).2
      · intro isChosen
        exact (complete member mem isChosen).resolve_right notNull

end Datum.Excerpt

/-- Values in whose records no two members have the same name. -/
inductive Datum.Distinct : Datum → Prop
  | plain {datum} (noRecord : ∀ members, datum ≠ .record members) : Distinct datum
  | record {members} (names : (members.map Prod.fst).Nodup)
      (each : ∀ member ∈ members, Distinct member.2) : Distinct (.record members)

namespace Datum.Distinct

variable {datum : Datum}

/-- Whatever is chosen, there is an excerpt: the chosen members, cut down to what is chosen in
them. -/
theorem exists_excerpt (distinct : datum.Distinct) (keys : Keys) :
    ∃ part, datum.Excerpt keys part := by
  induction distinct generalizing keys with
  | plain noRecord => exact ⟨_, .plain noRecord⟩
  | @record members names each ih =>
      have cut (member : String × Datum) :
          ∃ part, member ∈ members → member.2.Excerpt (keys.below member.1) part := by
        by_cases mem : member ∈ members
        · rcases ih member mem (keys.below member.1) with ⟨part, excerpt⟩
          exact ⟨part, fun _ => excerpt⟩
        · exact ⟨member.2, fun present => absurd present mem⟩
      choose part excerpt using cut
      let kept := members.filter fun member => keys [member.1]
      refine ⟨.record (kept.map fun member => (member.1, part member)), .record ?_ ?_ ?_⟩
      · intro other mem
        rcases List.mem_map.mp mem with ⟨member, keptMem, rfl⟩
        rcases List.mem_filter.mp keptMem with ⟨memberMem, isChosen⟩
        exact ⟨List.mem_map.mpr ⟨member, memberMem, rfl⟩, isChosen⟩
      · intro member mem isChosen
        have keptMem : member ∈ kept := List.mem_filter.mpr ⟨mem, isChosen⟩
        refine .inl (List.mem_map.mpr ⟨(member.1, part member), ?_, rfl⟩)
        exact List.mem_map.mpr ⟨member, keptMem, rfl⟩
      · intro member mem other otherMem same
        rcases List.mem_map.mp otherMem with ⟨source, keptMem, rfl⟩
        have sourceMem := (List.mem_filter.mp keptMem).1
        obtain rfl := List.inj_on_of_nodup_map names sourceMem mem same
        exact excerpt source sourceMem

/-- With everything chosen, a value is an excerpt of itself. -/
theorem excerpt_self (distinct : datum.Distinct) : datum.Excerpt (fun _ => true) datum := by
  induction distinct with
  | plain noRecord => exact .plain noRecord
  | record names each ih =>
      refine .record ?_ ?_ ?_
      · intro member mem
        exact ⟨List.mem_map_of_mem mem, rfl⟩
      · intro member mem _
        exact .inl (List.mem_map_of_mem mem)
      · intro member mem other otherMem same
        obtain rfl := List.inj_on_of_nodup_map names otherMem mem same
        exact ih other mem

end Datum.Distinct

namespace Schema

variable {α : Type} {shape : Shape α} {dialect : Dialect} {all : Members} {mix : Keys → α}
  {keys : Keys}

/-- A shape reads a record member by member: `mix` says what record comes of the chosen ones. -/
structure Shape.Overlays (shape : Shape α) (dialect : Dialect) (all : Members) (mix : Keys → α) :
    Prop where
  /-- Laying an excerpt of a member over the others puts this member in its place. -/
  adds : ∀ member ∈ all, ∀ (keys : Keys) (chosen : String → Bool) (part : Datum),
    member.2.Excerpt (keys.below member.1) part →
    shape.overlayMember dialect (mix (keys.withTop chosen)) (member.1, part) =
      .ok (mix (keys.withTop fun name => chosen name || name == member.1))
  /-- Only these members matter, and those that are null do not. -/
  agrees : ∀ (keys : Keys) (chosen other : String → Bool),
    (∀ member ∈ all, member.2 ≠ .null → chosen member.1 = other member.1) →
    mix (keys.withTop chosen) = mix (keys.withTop other)

section Field

variable {β : Type} {name : String} {decode : Decoder β} {put : β → α → α} {datum : Datum}
  (known : shape.field? name = some (.of name decode put))
include known

theorem Shape.overlayMember_of_ok {value : β} (read : decode dialect datum = .ok value)
    (record : α) : shape.overlayMember dialect record (name, datum) = .ok (put value record) := by
  simp only [overlayMember, known, Member.of, read, Except.map]

theorem Shape.overlayMember_of_error {mismatch : Mismatch}
    (refused : decode dialect datum = .error mismatch) (record : α) :
    shape.overlayMember dialect record (name, datum) = .error mismatch := by
  simp only [overlayMember, known, Member.of, refused, Except.map]

/-- A field whose value has no members puts it in its place. -/
theorem Shape.adds_of_plain {value : β} (read : decode dialect datum = .ok value)
    (plain : ∀ members, datum ≠ .record members)
    (places : ∀ (keys : Keys) chosen, put value (mix (keys.withTop chosen)) =
      mix (keys.withTop fun other => chosen other || other == name))
    (keys : Keys) (chosen : String → Bool) (part : Datum)
    (excerpt : datum.Excerpt (keys.below name) part) :
    shape.overlayMember dialect (mix (keys.withTop chosen)) (name, part) =
      .ok (mix (keys.withTop fun other => chosen other || other == name)) := by
  obtain rfl := excerpt.eq_of_plain plain
  rw [shape.overlayMember_of_ok known read, places]

end Field

namespace Shape.Overlays

theorem foldlM_parts (overlays : shape.Overlays dialect all mix) {written : Members}
    (parts : ∀ other ∈ written, ∃ member ∈ all, other.1 = member.1 ∧
      member.2.Excerpt (keys.below member.1) other.2) (chosen : String → Bool) :
    written.foldlM (shape.overlayMember dialect) (mix (keys.withTop chosen)) =
      .ok (mix (keys.withTop fun name =>
        chosen name || (written.map Prod.fst).contains name)) := by
  induction written generalizing chosen with
  | nil => simp [pure, Except.pure]
  | cons first written ih =>
      rcases parts first (List.mem_cons_self ..) with ⟨member, mem, same, excerpt⟩
      have laid := overlays.adds member mem keys chosen first.2 excerpt
      rw [← same] at laid
      have others := ih (fun other otherMem => parts other (List.mem_cons_of_mem first otherMem))
        fun name => chosen name || name == first.1
      rw [List.foldlM_cons, show first = (first.1, first.2) from rfl, laid]
      simp only [bind, Except.bind]
      rw [others]
      simp only [List.map_cons, List.contains_cons, Bool.or_assoc]

/-- An excerpt of a record yields the record at the chosen members and the preset elsewhere. -/
theorem overlay_excerpt (overlays : shape.Overlays dialect all mix) {part : Datum}
    (excerpt : (Datum.record all).Excerpt keys part) :
    shape.overlay dialect part (mix (keys.withTop fun _ => false)) = .ok (mix keys) := by
  rcases excerpt.exists_record with ⟨written, rfl⟩
  have chosen := overlays.agrees keys _ (fun name => keys [name]) excerpt.names
  rw [keys.withTop_self] at chosen
  rw [overlay, overlays.foldlM_parts excerpt.parts, ← chosen]
  simp only [Bool.false_or]

/-- A member that does not fit is reported if all before it do. -/
theorem overlay_refused (overlays : shape.Overlays dialect all mix) {before after : Members}
    {member : String × Datum} {mismatch : Mismatch}
    (parts : ∀ other ∈ before, ∃ member ∈ all, other.1 = member.1 ∧
      member.2.Excerpt (keys.below member.1) other.2)
    (refused : ∀ record, shape.overlayMember dialect record member = .error mismatch) :
    shape.overlay dialect (.record (before ++ member :: after))
      (mix (keys.withTop fun _ => false)) = .error mismatch := by
  rw [overlay, List.foldlM_append, overlays.foldlM_parts parts]
  simp only [bind, Except.bind, List.foldlM_cons, refused]

/-- A member of a name that the record does not know is reported. -/
theorem overlay_adds (overlays : shape.Overlays dialect all mix) {name : String}
    {value tree grown : Datum} (excerpt : (Datum.record all).Excerpt keys tree)
    (adds : Datum.Adds name value tree [] grown) (unknown : name ∉ shape.known) :
    shape.overlay dialect grown (mix (keys.withTop fun _ => false)) =
      .error (.unknownField name shape.known) := by
  have noField : shape.field? name = none := by
    rw [field?, List.find?_eq_none]
    intro field mem same
    exact unknown (List.mem_map.mpr ⟨field, mem, beq_iff_eq.mp same⟩)
  cases adds with
  | here =>
      have unread (record : α) : shape.overlayMember dialect record (name, value) =
          .error (.unknownField name shape.known) := by rw [overlayMember, noField]
      exact overlays.overlay_refused
        (fun other mem => excerpt.parts other (List.mem_append_left _ mem)) unread

/-- What is wrong inside a member is reported. -/
theorem overlay_adds_inside (overlays : shape.Overlays dialect all mix) {β : Type}
    {name key : String} {path : List String} {decode : Decoder β} {put : β → α → α}
    {value whole tree grown : Datum} {mismatch : Mismatch}
    (known : shape.field? key = some (.of key decode put)) (mem : (key, whole) ∈ all)
    (excerpt : (Datum.record all).Excerpt keys tree)
    (adds : Datum.Adds name value tree (key :: path) grown)
    (refused : ∀ part grown, whole.Excerpt (keys.below key) part →
      Datum.Adds name value part path grown → decode dialect grown = .error mismatch) :
    shape.overlay dialect grown (mix (keys.withTop fun _ => false)) = .error mismatch := by
  cases adds with
  | inside deeper =>
      have inside := excerpt.of_mem mem (List.mem_append_right _ (List.mem_cons_self ..))
      exact overlays.overlay_refused
        (fun other mem => excerpt.parts other (List.mem_append_left _ mem))
        (shape.overlayMember_of_error known (refused _ _ inside deeper))

end Shape.Overlays

end Schema

end EditorSession
