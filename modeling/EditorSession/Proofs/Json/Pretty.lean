import EditorSession.Proofs.Json.RoundTrip

/-!
# What is written as pretty JSON is read back

The pretty form is a layout whose gaps are new lines, and a space in front of the value of a member.
So the reader undoes the pretty writer as it undoes the compact one (`read_pretty`), up to the order
of members: those of every record come back in the order of their names.
-/

namespace EditorSession

mutual

/-- A value with the members of all its records in the order of their names. -/
def Datum.arranged : Datum → Datum
  | .list items => .list (Datum.arrangedItems items)
  | .record members => .record (Datum.arrangedMembers members).arranged
  | datum => datum

/-- Items each of which is arranged. -/
def Datum.arrangedItems : List Datum → List Datum
  | [] => []
  | item :: rest => item.arranged :: Datum.arrangedItems rest

/-- Members, in the order in which they stand, the values of which are arranged. -/
def Datum.arrangedMembers : Members → Members
  | [] => []
  | (name, value) :: rest => (name, value.arranged) :: Datum.arrangedMembers rest

end

@[simp]
theorem Datum.arrangedItems_eq_map (items : List Datum) :
    Datum.arrangedItems items = items.map Datum.arranged := by
  induction items with
  | nil => rfl
  | cons item rest ih => rw [arrangedItems, ih, List.map_cons]

@[simp]
theorem Datum.arrangedMembers_eq_map (members : Members) :
    Datum.arrangedMembers members = members.map fun member => (member.1, member.2.arranged) := by
  induction members with
  | nil => rfl
  | cons member rest ih => rw [arrangedMembers, ih, List.map_cons]

/-- The values that JSON text carries without loss, but for the order of members, and that are
nested no deeper than so many levels. -/
inductive Datum.Expressible : (depth : Nat) → Datum → Prop
  | null {depth} : Expressible depth .null
  | flag {depth} (value : Bool) : Expressible depth (.flag value)
  | integer {depth value} (least : -2 ^ 63 ≤ value) (most : value < 2 ^ 64) :
      Expressible depth (.integer value)
  | text {depth} (value : String) : Expressible depth (.text value)
  | list {depth items} (each : ∀ item ∈ items, Expressible depth item) :
      Expressible (depth + 1) (.list items)
  | record {depth members} (each : ∀ member ∈ members, Expressible depth member.2) :
      Expressible (depth + 1) (.record members)

namespace Members

@[simp]
theorem find?_cons (name other : String) (value : Datum) (rest : Members) :
    find? name ((other, value) :: rest) = if name = other then some value else find? name rest := by
  by_cases same : name = other
  · simp [find?, same]
  · simp only [find?, List.lookup_cons, beq_eq_false_iff_ne.mpr same, if_neg same]

theorem find?_insertSorted (members : Members) (name other : String) (value : Datum) :
    (members.insertSorted other value).find? name =
      if name = other then some value else members.find? name := by
  induction members with
  | nil => rw [insertSorted, find?_cons]
  | cons head rest ih =>
      rcases head with ⟨first, kept⟩
      rw [insertSorted]
      split
      · rw [find?_cons]
      split
      next sameName => subst sameName; by_cases same : name = other <;> simp [same]
      next otherName =>
        rw [find?_cons, ih, find?_cons]
        by_cases same : name = first
        · subst same
          simp [Ne.symm otherName]
        · simp [same]

/-- The last of several members of one name is found. -/
theorem find?_arranged (members : Members) (name : String) :
    members.arranged.find? name = find? name members.reverse := by
  suffices general : ∀ read : Members,
      find? name (members.foldl (fun read member => read.insertSorted member.1 member.2) read) =
        find? name (members.reverse ++ read) by
    rw [arranged, general, List.append_nil]
  induction members with
  | nil => simp
  | cons member rest ih =>
      intro read
      rw [List.foldl_cons, ih]
      simp only [find?, List.lookup_append, List.reverse_cons, List.append_assoc,
        List.singleton_append]
      congr 1
      exact (find?_insertSorted ..).trans (find?_cons ..).symm

theorem find?_map (change : Datum → Datum) (members : Members) (name : String) :
    find? name (members.map fun member => (member.1, change member.2)) =
      (find? name members).map change := by
  induction members with
  | nil => rfl
  | cons member rest ih =>
      rw [List.map_cons, find?_cons, ih, find?_cons]
      split <;> rfl

end Members

/-- Arranging a record arranges the member of each name. -/
theorem Datum.member?_arranged (members : Members) (name : String) :
    (Datum.record members).arranged.member? name =
      (Members.find? name members.reverse).map Datum.arranged := by
  rw [arranged, arrangedMembers_eq_map, member?, Members.find?_arranged, ← List.map_reverse,
    Members.find?_map]

namespace Json

variable {depth : Nat}

theorem writePrettyItems_eq (level : Nat) (items : List Datum) :
    writePrettyItems level items =
      separated (items.map fun item => newLine level ++ writePretty level item) := by
  induction items with
  | nil => rfl
  | cons item rest ih => rw [writePrettyItems, ih, List.map_cons, separated, List.isEmpty_map]

theorem writePrettyMembers_eq (level : Nat) (members : Members) :
    writePrettyMembers level members =
      separated (members.map fun member =>
        newLine level ++ (writeText member.1 ++ ':' :: (' ' :: writePretty level member.2))) := by
  induction members with
  | nil => rfl
  | cons member rest ih =>
      rw [writePrettyMembers, ih, List.map_cons, separated, List.isEmpty_map]
      simp only [List.append_assoc, List.cons_append]

/-- A value is read back from its pretty form at any level, whatever may follow a value. -/
def ReadsPretty (depth : Nat) (datum : Datum) : Prop :=
  ∀ level, ReadsAs depth (writePretty level datum) datum.arranged

theorem readsPretty_list {items : List Datum} (each : ∀ item ∈ items, ReadsPretty depth item) :
    ReadsPretty (depth + 1) (.list items) := by
  intro level
  cases items with
  | nil => exact readsAs_emptyList
  | cons item items =>
      rw [Datum.arranged, Datum.arrangedItems_eq_map, writePretty, writePrettyItems_eq,
        List.append_assoc]
      · exact readsAs_list (.newLine (level + 1)) (.newLine level) (List.cons_ne_nil _ _)
          fun item mem => each item mem (level + 1)
      · simp

theorem readsPretty_record {members : Members}
    (each : ∀ member ∈ members, ReadsPretty depth member.2) :
    ReadsPretty (depth + 1) (.record members) := by
  intro level
  cases members with
  | nil => exact readsAs_emptyRecord
  | cons member members =>
      have space : Blank [' '] := by simp [Blank, isGap]
      let behindName (value : Datum) := ' ' :: writePretty (level + 1) value
      have values : ∀ other ∈ member :: members,
          ReadsAs depth (behindName other.2) other.2.arranged :=
        fun other mem => (each other mem (level + 1)).behind space
      have reads := @readsAs_record depth _ _ (.newLine (level + 1)) (.newLine level) behindName
        Datum.arranged (member :: members) (List.cons_ne_nil _ _) values
      rw [Datum.arranged, Datum.arrangedMembers_eq_map, writePretty, writePrettyMembers_eq,
        List.append_assoc]
      · exact reads
      · simp

/-- Every value that JSON carries but for the order of members is read back from its pretty form. -/
theorem readsPretty_of_expressible {datum : Datum} (expressible : datum.Expressible depth) :
    ReadsPretty depth datum := by
  induction expressible with
  | null => exact fun _ => readsBack_of_portable .null
  | flag value =>
      intro level
      cases value <;> exact readsBack_of_portable (.flag _)
  | text value => exact fun _ => readsBack_text value
  | integer least most => exact fun _ => readsBack_integer least most
  | list each ih => exact readsPretty_list ih
  | record each ih => exact readsPretty_record ih

/-- A pretty document is read back from its lines. -/
theorem read_pretty {datum : Datum} (expressible : datum.Expressible nestingLimit) :
    read ((pretty datum ++ "\n").toList) = some datum.arranged := by
  have text : (pretty datum ++ "\n").toList = writePretty 0 datum ++ ['\n'] := by
    simp [pretty]
  have value := readsPretty_of_expressible expressible 0
    (2 * (writePretty 0 datum ++ ['\n']).length + 2) ['\n']
    (by rw [List.length_append]; omega) (.cons (by decide))
  rw [text, read, readWithin, value]
  rfl

end Json

end EditorSession
