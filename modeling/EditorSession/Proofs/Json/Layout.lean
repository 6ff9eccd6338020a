import EditorSession.Json.Writer
import EditorSession.Proofs.Json.Ordered
import Mathlib.Data.List.DropRight
import Mathlib.Tactic.IntervalCases

/-!
# Layouts of JSON text

A writer may put gaps between the parts of a document as it likes, since the reader skips them
wherever they stand. `ReadsAs` says that a text is read as a value in front of whatever may follow a
value. Lists and records are read as their items and members are, for any gaps in front of these and
of the closing bracket (`readsAs_list`, `readsAs_record`), so a statement about one layout only has
to say what its gaps are.
-/

namespace EditorSession

/-- Members put in the order of their names, the last of equal names winning. -/
def Members.arranged (members : Members) : Members :=
  members.foldl (fun read member => read.insertSorted member.1 member.2) []

namespace Json

variable {depth budget : Nat} {rest : List Char}

/-! ### Strings -/

theorem hexQuad?_hexDigit {code : Nat} (control : code < 0x20) :
    hexQuad? '0' '0' (hexDigit (code / 16)) (hexDigit (code % 16)) = some code := by
  interval_cases code <;> rfl

theorem readText_writeChar (read : List Char) (character : Char) :
    readText read (writeChar character ++ rest) = readText (character :: read) rest := by
  unfold writeChar
  split
  next same => subst same; simp [readText, namedEscape?]
  split
  next same => subst same; simp [readText, namedEscape?]
  split
  next notMark notEscape plain =>
    rw [List.singleton_append, readText.eq_def]
    split
    next nothing => cases nothing
    next mark => cases mark; exact absurd rfl notMark
    next escape => cases escape; exact absurd rfl notEscape
    next escape => cases escape; exact absurd rfl notEscape
    next same =>
      cases same
      rw [if_neg]
      rintro (control | escape)
      · omega
      · exact notEscape escape
  next notMark notEscape control =>
    split
    next same => subst same; simp [readText, namedEscape?]
    split
    next same => subst same; simp [readText, namedEscape?]
    split
    next same => subst same; simp [readText, namedEscape?]
    split
    next code =>
      obtain rfl : character = '\x08' := by rw [← Char.ofNat_toNat character, code]
      simp [readText, namedEscape?]
    split
    next code =>
      obtain rfl : character = '\x0c' := by rw [← Char.ofNat_toNat character, code]
      simp [readText, namedEscape?]
    next =>
      have small : character.toNat < 0x20 := by omega
      simp only [List.cons_append, List.nil_append]
      rw [readText, hexQuad?_hexDigit small]
      simp only
      rw [if_neg (by omega), if_neg (by omega), Char.ofNat_toNat]

/-- A string is read back up to its closing mark. -/
theorem readText_writeText (rest read text : List Char) :
    readText read (text.flatMap writeChar ++ '"' :: rest) =
      some (String.ofList (read.reverse ++ text), rest) := by
  induction text generalizing read with
  | nil => simp [readText]
  | cons character text ih =>
      rw [List.flatMap_cons, List.append_assoc, readText_writeChar, ih]
      simp

/-! ### Gaps -/

/-- What may stand right after a value: nothing, a blank, or a mark that ends it. -/
def Delimited (rest : List Char) : Prop :=
  ∀ next ∈ rest.head?, next ∈ [',', ']', '\x7d', ' ', '\t', '\n', '\r']

theorem Delimited.cons {mark : Char} (isMark : mark ∈ [',', ']', '\x7d', ' ', '\t', '\n', '\r']) :
    Delimited (mark :: rest) := by
  intro next mem
  cases mem
  exact isMark

theorem skipGap_cons (first : Char) :
    skipGap (first :: rest) = if isGap first then skipGap rest else first :: rest :=
  List.dropWhile_cons

theorem skipGap_of_head {first : Char} (notGap : isGap first = false) :
    skipGap (first :: rest) = first :: rest := by
  rw [skipGap_cons, notGap]
  rfl

theorem skipGap_skipGap (text : List Char) : skipGap (skipGap text) = skipGap text :=
  List.dropWhile_idempotent isGap text

/-- There are only blanks. -/
def Blank (gap : List Char) : Prop :=
  ∀ character ∈ gap, isGap character = true

theorem Blank.nil : Blank [] := List.forall_mem_nil _

theorem Blank.newLine (level : Nat) : Blank (newLine level) := by
  intro character mem
  rcases List.mem_cons.mp mem with rfl | blank
  · rfl
  · rw [List.eq_of_mem_replicate blank]
    rfl

theorem Blank.skipGap_append {gap : List Char} (blank : Blank gap) (text : List Char) :
    skipGap (gap ++ text) = skipGap text :=
  List.dropWhile_append_of_pos blank

theorem Blank.delimited {gap : List Char} (blank : Blank gap) {mark : Char}
    (isMark : mark ∈ [',', ']', '\x7d', ' ', '\t', '\n', '\r']) :
    Delimited (gap ++ mark :: rest) := by
  cases gap with
  | nil => exact .cons isMark
  | cons first gap =>
      have isBlank := blank first (List.mem_cons_self ..)
      simp only [isGap, Bool.or_eq_true, decide_eq_true_eq] at isBlank
      rcases isBlank with ((rfl | rfl) | rfl) | rfl <;> exact .cons (by decide)

/-- A gap in front of a value does not matter. -/
theorem readValue_of_skipGap {first second : List Char} (same : skipGap first = skipGap second) :
    readValue budget depth first = readValue budget depth second := by
  cases budget with
  | zero => simp only [readValue]
  | succ budget => simp only [readValue, same]

theorem readItems_of_skipGap {first second : List Char} (same : skipGap first = skipGap second) :
    readItems budget depth first = readItems budget depth second := by
  cases budget with
  | zero => simp only [readItems]
  | succ budget => simp only [readItems, readValue_of_skipGap same]

theorem readMembers_of_skipGap {first second : List Char} (same : skipGap first = skipGap second)
    (read : Members) :
    readMembers budget depth read first = readMembers budget depth read second := by
  cases budget with
  | zero => simp only [readMembers]
  | succ budget => simp only [readMembers, same]

/-! ### Values -/

/-- A text is read as a value, whatever may follow a value. -/
def ReadsAs (depth : Nat) (text : List Char) (datum : Datum) : Prop :=
  ∀ budget rest, text.length ≤ budget → Delimited rest →
    readValue budget depth (text ++ rest) = some (datum, rest)

theorem ReadsAs.behind {gap text : List Char} {datum : Datum} (reads : ReadsAs depth text datum)
    (blank : Blank gap) : ReadsAs depth (gap ++ text) datum := by
  intro budget rest enough delimited
  rw [List.length_append] at enough
  rw [List.append_assoc, readValue_of_skipGap (blank.skipGap_append _)]
  exact reads budget rest (by omega) delimited

/-- What is read as a value starts, after blanks, with a character that closes no list. -/
theorem ReadsAs.start {text : List Char} {datum : Datum} (reads : ReadsAs depth text datum)
    (more : List Char) :
    ∃ first others, skipGap (text ++ more) = first :: others ∧ first ≠ ']' := by
  have read := reads (text.length + 1) [] (by omega) (by simp [Delimited])
  rw [List.append_nil, readValue] at read
  cases found : skipGap text with
  | nil =>
      rw [found] at read
      cases read
  | cons first others =>
      refine ⟨first, others ++ more, ?_, ?_⟩
      · have same : text.dropWhile isGap = first :: others := found
        simp [skipGap, List.dropWhile_append, same]
      · rintro rfl
        rw [found] at read
        cases read

/-! ### Lists and records -/

/-- Parts of a list or a record between commas. -/
def separated : List (List Char) → List Char
  | [] => []
  | part :: rest => part ++ (if rest.isEmpty then [] else ',' :: separated rest)

section Parts

/-! Items and members have a layout each, behind a gap; another gap stands in front of the closing
bracket. -/

variable {lead close : List Char} (blank : Blank lead) (blankClose : Blank close)
  {layout : Datum → List Char} {denotes : Datum → Datum}

include blank blankClose

theorem readItems_separated (rest : List Char) {items : List Datum} (notEmpty : items ≠ [])
    (each : ∀ item ∈ items, ReadsAs depth (layout item) (denotes item)) :
    let text := separated (items.map fun item => lead ++ layout item)
    text.length < budget →
    readItems budget depth (text ++ (close ++ ']' :: rest)) =
      some (items.map denotes, rest) := by
  induction items generalizing budget with
  | nil => exact absurd rfl notEmpty
  | cons item items ih =>
      intro text enough
      obtain ⟨budget, rfl⟩ : ∃ less, budget = less + 1 := ⟨budget - 1, by omega⟩
      have first := (each item (List.mem_cons_self ..)).behind blank budget
      cases items with
      | nil =>
          have value := first (close ++ ']' :: rest)
            (by simpa [text, separated, Nat.lt_succ_iff] using enough)
            (blankClose.delimited (by decide))
          simp only [text, List.map_cons, List.map_nil, separated, List.isEmpty_nil, ↓reduceIte,
            List.append_nil]
          rw [readItems, value]
          simp [blankClose.skipGap_append, skipGap_cons, isGap]
      | cons next items =>
          let others := separated ((next :: items).map fun item => lead ++ layout item)
          have parts : text = (lead ++ layout item) ++ ',' :: others := rfl
          rw [parts, List.length_append, List.length_cons] at enough
          have value := first (',' :: (others ++ (close ++ ']' :: rest))) (by omega)
            (.cons (by decide))
          have enoughLater : others.length < budget := by omega
          have later : readItems budget depth (others ++ (close ++ ']' :: rest)) = _ :=
            ih (by simp) (fun other mem => each other (List.mem_cons_of_mem item mem)) enoughLater
          rw [parts, List.append_assoc, List.cons_append, readItems, value]
          simp [skipGap_cons, isGap, later]

theorem readMembers_separated (rest : List Char) {members : Members} (notEmpty : members ≠ [])
    (each : ∀ member ∈ members, ReadsAs depth (layout member.2) (denotes member.2))
    (read : Members) :
    let text := separated (members.map fun member =>
      lead ++ (writeText member.1 ++ ':' :: layout member.2))
    text.length < budget →
    readMembers budget depth read (text ++ (close ++ '\x7d' :: rest)) =
      some ((members.map fun member => (member.1, denotes member.2)).foldl
        (fun read member => read.insertSorted member.1 member.2) read, rest) := by
  induction members generalizing budget read with
  | nil => exact absurd rfl notEmpty
  | cons member members ih =>
      intro text enough
      obtain ⟨budget, rfl⟩ : ∃ less, budget = less + 1 := ⟨budget - 1, by omega⟩
      rcases member with ⟨name, value⟩
      have first : ReadsAs depth (layout value) (denotes value) :=
        each (name, value) (List.mem_cons_self ..)
      cases members with
      | nil =>
          have parts : text = lead ++ (writeText name ++ ':' :: layout value) := by
            simp [text, separated]
          rw [parts] at enough ⊢
          simp only [writeText, List.length_append, List.length_cons] at enough
          have written := first budget (close ++ '\x7d' :: rest) (by omega)
            (blankClose.delimited (by decide))
          rw [List.append_assoc, readMembers_of_skipGap (blank.skipGap_append _), writeText,
            List.cons_append, List.cons_append, readMembers, skipGap_of_head rfl]
          simp [readText_writeText, skipGap_cons, isGap, written, blankClose.skipGap_append]
      | cons next members =>
          let others := separated ((next :: members).map fun member =>
            lead ++ (writeText member.1 ++ ':' :: layout member.2))
          have parts : text =
              lead ++ (writeText name ++ ':' :: layout value) ++ ',' :: others := rfl
          rw [parts] at enough ⊢
          simp only [writeText, List.length_append, List.length_cons] at enough
          have written := first budget (',' :: (others ++ (close ++ '\x7d' :: rest))) (by omega)
            (.cons (by decide))
          have enoughLater : others.length < budget := by omega
          have later : readMembers budget depth _ (others ++ (close ++ '\x7d' :: rest)) = _ :=
            ih (by simp) (fun other mem => each other (List.mem_cons_of_mem _ mem))
              (read.insertSorted name (denotes value)) enoughLater
          rw [List.append_assoc, List.append_assoc,
            readMembers_of_skipGap (blank.skipGap_append _), writeText,
            List.cons_append, List.cons_append, readMembers, skipGap_of_head rfl]
          simp [readText_writeText, skipGap_cons, isGap, written, later]

/-- A list is read as what its items are read as. -/
theorem readsAs_list {items : List Datum} (notEmpty : items ≠ [])
    (each : ∀ item ∈ items, ReadsAs depth (layout item) (denotes item)) :
    ReadsAs (depth + 1)
      ('[' :: (separated (items.map fun item => lead ++ layout item) ++ (close ++ [']'])))
      (.list (items.map denotes)) := by
  intro budget rest enough delimited
  cases budget with
  | zero => simp at enough
  | succ budget =>
      simp only [List.length_cons, List.length_append] at enough
      have enoughItems :
          (separated (items.map fun item => lead ++ layout item)).length < budget := by omega
      have read := readItems_separated blank blankClose rest notEmpty each enoughItems
      obtain ⟨item, others, rfl⟩ := List.exists_cons_of_ne_nil notEmpty
      have starts := ((each item (List.mem_cons_self ..)).behind blank).start
      obtain ⟨first, tail, start, notEnd⟩ : ∃ first tail,
          skipGap (separated ((item :: others).map fun item => lead ++ layout item) ++
            (close ++ ']' :: rest)) = first :: tail ∧ first ≠ ']' := by
        rw [List.map_cons, separated, List.append_assoc]
        exact starts _
      have skipped : skipGap (first :: tail) = skipGap _ :=
        (congrArg skipGap start.symm).trans (skipGap_skipGap _)
      rw [← readItems_of_skipGap skipped] at read
      rw [List.cons_append, List.append_assoc, List.append_assoc, readValue, skipGap_of_head rfl]
      simp only [List.singleton_append, start]
      simp [notEnd, read]

/-- A record is read as what its values are read as, its members in the order of their names. -/
theorem readsAs_record {members : Members} (notEmpty : members ≠ [])
    (each : ∀ member ∈ members, ReadsAs depth (layout member.2) (denotes member.2)) :
    ReadsAs (depth + 1)
      ('\x7b' :: (separated (members.map fun member =>
        lead ++ (writeText member.1 ++ ':' :: layout member.2)) ++ (close ++ ['\x7d'])))
      (.record (Members.arranged (members.map fun member => (member.1, denotes member.2)))) := by
  intro budget rest enough delimited
  cases budget with
  | zero => simp at enough
  | succ budget =>
      simp only [List.length_cons, List.length_append] at enough
      have enoughMembers : (separated (members.map fun member =>
          lead ++ (writeText member.1 ++ ':' :: layout member.2))).length < budget := by omega
      have read := readMembers_separated blank blankClose rest notEmpty each [] enoughMembers
      obtain ⟨member, others, rfl⟩ := List.exists_cons_of_ne_nil notEmpty
      obtain ⟨tail, start⟩ : ∃ tail, skipGap (separated ((member :: others).map fun member =>
          lead ++ (writeText member.1 ++ ':' :: layout member.2)) ++
            (close ++ '\x7d' :: rest)) = '"' :: tail := by
        rw [List.map_cons, separated, List.append_assoc, List.append_assoc,
          blank.skipGap_append]
        exact ⟨_, skipGap_of_head rfl⟩
      have skipped : skipGap ('"' :: tail) = skipGap _ :=
        (congrArg skipGap start.symm).trans (skipGap_skipGap _)
      rw [← readMembers_of_skipGap skipped] at read
      rw [List.cons_append, List.append_assoc, List.append_assoc, readValue, skipGap_of_head rfl]
      simp only [List.singleton_append, start]
      simp [read, Members.arranged]

end Parts

theorem readsAs_emptyList : ReadsAs (depth + 1) ['[', ']'] (.list []) := by
  intro budget rest enough delimited
  cases budget with
  | zero => simp at enough
  | succ budget =>
      rw [List.cons_append, readValue, skipGap_of_head rfl]
      simp [skipGap_cons, isGap]

theorem readsAs_emptyRecord : ReadsAs (depth + 1) ['\x7b', '\x7d'] (.record []) := by
  intro budget rest enough delimited
  cases budget with
  | zero => simp at enough
  | succ budget =>
      rw [List.cons_append, readValue, skipGap_of_head rfl]
      simp [skipGap_cons, isGap]

end Json

end EditorSession
