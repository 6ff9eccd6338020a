import EditorSession.Json.Reader
import Mathlib.Data.String.Basic

/-!
# Names of members are read in order

A reader of JSON inserts every member of a record at the place of its name. So the names of what it
reads are in strict order, in every record at every depth (`ordered_of_read`), and looking a name up
finds the only member there is of it.
-/

namespace EditorSession

namespace Members

/-- The names are in strict order. -/
def Ordered (members : Members) : Prop :=
  members.Pairwise fun earlier later => earlier.1 < later.1

theorem mem_insertSorted {name : String} {value : Datum} {members : Members}
    {member : String × Datum} (mem : member ∈ members.insertSorted name value) :
    member = (name, value) ∨ member ∈ members := by
  induction members with
  | nil => exact .inl (by simpa [insertSorted] using mem)
  | cons head rest ih =>
      unfold insertSorted at mem
      split at mem
      · exact List.mem_cons.mp mem
      · split at mem
        · exact (List.mem_cons.mp mem).imp_right (List.mem_cons_of_mem head)
        · rcases List.mem_cons.mp mem with rfl | mem
          · exact .inr (List.mem_cons_self ..)
          · exact (ih mem).imp_right (List.mem_cons_of_mem head)

theorem Ordered.insertSorted {members : Members} (ordered : members.Ordered) (name : String)
    (value : Datum) : (members.insertSorted name value).Ordered := by
  induction members with
  | nil => exact List.pairwise_singleton _ _
  | cons head rest ih =>
      rcases List.pairwise_cons.mp ordered with ⟨after, rest_ordered⟩
      unfold Members.insertSorted
      split
      next before =>
          refine List.pairwise_cons.mpr ⟨?_, ordered⟩
          intro member mem
          rcases List.mem_cons.mp mem with rfl | mem
          · exact before
          · exact lt_trans before (after member mem)
      next notBefore =>
        -- The name is in place already, or belongs further down.
        split
        next same => exact List.pairwise_cons.mpr ⟨same ▸ after, rest_ordered⟩
        next other =>
          refine List.pairwise_cons.mpr ⟨?_, ih rest_ordered⟩
          intro member mem
          rcases mem_insertSorted mem with rfl | mem
          · exact lt_of_le_of_ne (not_lt.mp notBefore) (Ne.symm other)
          · exact after member mem

/-- Among members in strict order, the one that a name finds is the only one of that name. -/
theorem Ordered.find?_eq_some_iff {members : Members} (ordered : members.Ordered) {name : String}
    {value : Datum} : members.find? name = some value ↔ (name, value) ∈ members := by
  induction members with
  | nil => simp [find?]
  | cons head rest ih =>
      rcases List.pairwise_cons.mp ordered with ⟨after, rest_ordered⟩
      rcases head with ⟨first, kept⟩
      by_cases same : name = first
      · subst same
        have absent : (name, value) ∉ rest := fun mem => lt_irrefl name (after _ mem)
        simp [find?, absent, eq_comm]
      · have skipped : find? name ((first, kept) :: rest) = find? name rest := by
          simp only [find?, List.lookup_cons, beq_eq_false_iff_ne.mpr same]
        rw [skipped, ih rest_ordered]
        simp [same]

end Members

/-- In every record of a datum, the names of the members are in strict order. -/
inductive Datum.Ordered : Datum → Prop
  | null : Ordered .null
  | flag (value : Bool) : Ordered (.flag value)
  | integer (value : Int) : Ordered (.integer value)
  | real (value : Decimal.Binary64) : Ordered (.real value)
  | text (value : String) : Ordered (.text value)
  | list {items : List Datum} (each : ∀ item ∈ items, Ordered item) : Ordered (.list items)
  | record {members : Members} (names : members.Ordered)
      (each : ∀ member ∈ members, Ordered member.2) : Ordered (.record members)

theorem Datum.Ordered.names {members : Members} (ordered : (Datum.record members).Ordered) :
    members.Ordered := by
  cases ordered with
  | record names _ => exact names

theorem Datum.Ordered.each {members : Members} (ordered : (Datum.record members).Ordered)
    {member : String × Datum} (mem : member ∈ members) : member.2.Ordered := by
  cases ordered with
  | record _ each => exact each member mem

namespace Json

theorem Numeral.ordered_of_datum? {numeral : Numeral} {datum : Datum}
    (denotes : numeral.datum? = some datum) : datum.Ordered := by
  unfold Numeral.datum? at denotes
  simp only at denotes
  split at denotes
  · split at denotes
    · cases denotes
      exact .integer _
    · split at denotes
      · cases denotes
        exact .integer _
      · cases denotes
        exact .real _
  · rcases Option.map_eq_some_iff.mp denotes with ⟨value, -, rfl⟩
    exact .real value

theorem ordered_of_readNumber {text rest : List Char} {datum : Datum}
    (number : readNumber text = some (datum, rest)) : datum.Ordered := by
  unfold readNumber at number
  split at number
  dsimp only at number
  split at number
  · cases number
  · split at number
    · cases number
    · split at number
      · cases number
      · rcases Option.map_eq_some_iff.mp number with ⟨read, denotes, same⟩
        cases same
        exact Numeral.ordered_of_datum? denotes

theorem ordered_of_readWord {text rest : List Char} {datum : Datum}
    (word : readWord text = some (datum, rest)) : datum.Ordered := by
  unfold readWord at word
  split at word
  · cases word
    exact .null
  · cases word
    exact .flag true
  · cases word
    exact .flag false
  · cases word

/-- What each of the readers yields with so much budget is in order. -/
structure ReadsOrdered (budget : Nat) : Prop where
  value {depth : Nat} {text rest : List Char} {datum : Datum} :
    readValue budget depth text = some (datum, rest) → datum.Ordered
  items {depth : Nat} {text rest : List Char} {items : List Datum} :
    readItems budget depth text = some (items, rest) → ∀ item ∈ items, item.Ordered
  members {depth : Nat} {text rest : List Char} {read members : Members} :
    (read.Ordered ∧ ∀ member ∈ read, member.2.Ordered) →
      readMembers budget depth read text = some (members, rest) →
        members.Ordered ∧ ∀ member ∈ members, member.2.Ordered

section Step

variable {budget depth : Nat} {text rest : List Char}

theorem ReadsOrdered.readValue_succ (reads : ReadsOrdered budget) {datum : Datum}
    (read : readValue (budget + 1) depth text = some (datum, rest)) : datum.Ordered := by
  unfold readValue at read
  split at read
  · rcases Option.map_eq_some_iff.mp read with ⟨⟨written, after⟩, -, same⟩
    cases same
    exact .text written
  · split at read
    · cases read
    · split at read
      · cases read
        exact .list (by simp)
      · rcases Option.map_eq_some_iff.mp read with ⟨⟨items, after⟩, each, same⟩
        cases same
        exact .list (reads.items each)
  · split at read
    · cases read
    · split at read
      · cases read
        exact .record List.Pairwise.nil (by simp)
      · rcases Option.map_eq_some_iff.mp read with ⟨⟨members, after⟩, each, same⟩
        cases same
        rcases reads.members ⟨List.Pairwise.nil, by simp⟩ each with ⟨names, each⟩
        exact .record names each
  · split at read
    · exact ordered_of_readNumber read
    · exact ordered_of_readWord read
  · cases read

theorem ReadsOrdered.readItems_succ (reads : ReadsOrdered budget) {items : List Datum}
    (read : readItems (budget + 1) depth text = some (items, rest)) :
    ∀ item ∈ items, item.Ordered := by
  unfold readItems at read
  split at read
  · cases read
  next first after value =>
    have firstOrdered := reads.value value
    split at read
    · rcases Option.map_eq_some_iff.mp read with ⟨⟨others, after⟩, each, same⟩
      cases same
      exact List.forall_mem_cons.mpr ⟨firstOrdered, reads.items each⟩
    · cases read
      exact List.forall_mem_singleton.mpr firstOrdered
    · cases read

theorem ReadsOrdered.readMembers_succ (reads : ReadsOrdered budget) {before members : Members}
    (ordered : before.Ordered ∧ ∀ member ∈ before, member.2.Ordered)
    (read : readMembers (budget + 1) depth before text = some (members, rest)) :
    members.Ordered ∧ ∀ member ∈ members, member.2.Ordered := by
  unfold readMembers at read
  split at read
  · split at read
    · cases read
    next name after _ =>
      split at read
      · split at read
        · cases read
        next value after valueRead =>
          have inserted : (before.insertSorted name value).Ordered ∧
              ∀ member ∈ before.insertSorted name value, member.2.Ordered := by
            refine ⟨ordered.1.insertSorted name value, ?_⟩
            intro member mem
            rcases Members.mem_insertSorted mem with rfl | mem
            · exact reads.value valueRead
            · exact ordered.2 member mem
          simp only at read
          split at read
          · exact reads.members inserted read
          · cases read
            exact inserted
          · cases read
      · cases read
  · cases read

end Step

theorem readsOrdered (budget : Nat) : ReadsOrdered budget := by
  induction budget with
  | zero =>
      constructor
      · intro depth text rest datum read
        cases read
      · intro depth text rest items read
        cases read
      · intro depth text rest before members _ read
        cases read
  | succ budget ih =>
      constructor
      · exact ih.readValue_succ
      · exact ih.readItems_succ
      · exact ih.readMembers_succ

/-- What a payload denotes is in order. -/
theorem ordered_of_read {text : List Char} {datum : Datum} (denotes : read text = some datum) :
    datum.Ordered := by
  unfold read readWithin at denotes
  split at denotes
  next value rest readValue =>
    split at denotes
    · cases denotes
      exact (readsOrdered _).value readValue
    · cases denotes
  · cases denotes

end Json

end EditorSession
