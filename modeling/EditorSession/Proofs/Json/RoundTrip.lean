import EditorSession.Proofs.Frame.Header
import EditorSession.Proofs.Json.Layout

/-!
# What is written as JSON is read back

The reader undoes the compact writer on every value that JSON carries without loss
(`readsBack_of_portable`): strings of any characters, integers of 64 bits with or without a sign,
lists and records to any depth below the limit. The members of a record come back in the order of
their names (`read_write_record`). A reader knows that a number has ended by the mark or the blank
that follows it, so all of this is said of a value in front of one.
-/

namespace EditorSession.Json

variable {rest : List Char}

/-! ### Integers -/

theorem isDigit_of_mem_toDigits {number : Nat} {digit : Char}
    (mem : digit ∈ Nat.toDigits 10 number) : isDigit digit = true := by
  simpa [isDigit] using Frame.isDigit_toDigits mem

theorem Delimited.head_not_digit (delimited : Delimited rest) :
    ∀ next ∈ rest.head?, isDigit next = false := by
  intro next mem
  have marks := delimited next mem
  simp only [List.mem_cons, List.not_mem_nil, or_false] at marks
  rcases marks with rfl | rfl | rfl | rfl | rfl | rfl | rfl <;> rfl

theorem takeWhile_digits {digits : List Char} (decimal : ∀ digit ∈ digits, isDigit digit = true)
    (delimited : Delimited rest) :
    (digits ++ rest).takeWhile isDigit = digits ∧ (digits ++ rest).dropWhile isDigit = rest := by
  rw [List.takeWhile_append_of_pos decimal, List.dropWhile_append_of_pos decimal]
  cases rest with
  | nil => simp
  | cons next rest => simp [delimited.head_not_digit next rfl]

theorem readFraction_of_delimited (delimited : Delimited rest) :
    readFraction rest = some (none, rest) := by
  cases rest with
  | nil => rfl
  | cons next rest =>
      have marks := delimited next rfl
      simp only [List.mem_cons, List.not_mem_nil, or_false] at marks
      rcases marks with rfl | rfl | rfl | rfl | rfl | rfl | rfl <;> rfl

theorem readExponent_of_delimited (delimited : Delimited rest) :
    readExponent rest = some (none, rest) := by
  cases rest with
  | nil => rfl
  | cons next rest =>
      have marks := delimited next rfl
      simp only [List.mem_cons, List.not_mem_nil, or_false] at marks
      rcases marks with rfl | rfl | rfl | rfl | rfl | rfl | rfl <;> rfl

theorem le_foldl_digits (digits : List Char) (start : Nat) :
    start ≤ digits.foldl (fun total digit => total * 10 + digitValue digit) start := by
  induction digits generalizing start with
  | nil => exact Nat.le_refl start
  | cons digit digits ih =>
      have further := ih (start * 10 + digitValue digit)
      rw [List.foldl_cons]
      omega

theorem accumulate_of_fits {digits : List Char} {start : Nat}
    (fits : digits.foldl (fun total digit => total * 10 + digitValue digit) start ≤ greatestWord) :
    accumulate start digits =
      (digits.foldl (fun total digit => total * 10 + digitValue digit) start, 0) := by
  induction digits generalizing start with
  | nil => rfl
  | cons digit digits ih =>
      rw [List.foldl_cons] at fits ⊢
      have next := Nat.le_trans (le_foldl_digits digits (start * 10 + digitValue digit)) fits
      rw [accumulate]
      simp only [next, ↓reduceIte]
      exact ih fits

theorem accumulate_toDigits {number : Nat} (fits : number ≤ greatestWord) :
    accumulate 0 (Nat.toDigits 10 number) = (number, 0) := by
  have value : (Nat.toDigits 10 number).foldl
      (fun total digit => total * 10 + digitValue digit) 0 = number :=
    Frame.digitsValue_toDigits number
  rw [accumulate_of_fits (by rw [value]; exact fits), value]

/-- No number but zero is written with a leading zero. -/
theorem eq_zero_of_head?_toDigits {number : Nat}
    (leading : (Nat.toDigits 10 number).head? = some '0') : number = 0 := by
  induction number using Nat.strongRecOn with
  | ind number ih =>
      rw [Nat.toDigits_eq_if (by decide)] at leading
      split at leading
      next => simpa [Nat.digitChar_eq_zero] using leading
      next large =>
        rw [List.head?_append_of_ne_nil _ Nat.toDigits_ne_nil] at leading
        have := ih (number / 10) (by omega) leading
        omega

theorem readNumber_of_digits {text : List Char} {number : Nat} (negative : Bool)
    (fits : number ≤ greatestWord) (delimited : Delimited rest)
    (written : text = (if negative then ['-'] else []) ++ Nat.toDigits 10 number) :
    readNumber (text ++ rest) =
      (if negative then
        if 0 < number ∧ number ≤ Nat.pow 2 63 then some (.integer (-(number : Int)))
        else some (.real (Decimal.Binary64.ofNat number).negate)
      else some (.integer number)).map fun datum => (datum, rest) := by
  have decimal : ∀ digit ∈ Nat.toDigits 10 number, isDigit digit = true :=
    fun digit mem => isDigit_of_mem_toDigits mem
  rcases takeWhile_digits decimal delimited with ⟨taken, dropped⟩
  have shape : ¬((Nat.toDigits 10 number).isEmpty = true ∨
      (Nat.toDigits 10 number).head? = some '0' ∧ 1 < (Nat.toDigits 10 number).length) := by
    rintro (empty | ⟨leading, long⟩)
    · exact Nat.toDigits_ne_nil (List.isEmpty_iff.mp empty)
    · rw [eq_zero_of_head?_toDigits leading] at long
      exact absurd long (by decide)
  unfold readNumber
  split
  next sign stripped parted =>
    have parts : (sign, stripped) = (negative, Nat.toDigits 10 number ++ rest) := by
      rw [← parted, written]
      cases negative with
      | true => rfl
      | false =>
          cases digits : Nat.toDigits 10 number with
          | nil => exact absurd digits Nat.toDigits_ne_nil
          | cons first others =>
              have notSign : first ≠ '-' := by
                rintro rfl
                exact absurd (decimal '-' (by simp [digits])) (by decide)
              simp [notSign]
    cases parts
    simp only [taken, dropped, shape, ↓reduceIte, readFraction_of_delimited delimited,
      readExponent_of_delimited delimited, Numeral.datum?, accumulate_toDigits fits]
    cases negative <;> simp

/-- An integer of 64 bits, with or without a sign, is read back. -/
theorem readNumber_writeInteger {value : Int} (least : -2 ^ 63 ≤ value) (most : value < 2 ^ 64)
    (delimited : Delimited rest) :
    readNumber (writeInteger value ++ rest) = some (.integer value, rest) := by
  have greatest : greatestWord = 18446744073709551615 := rfl
  have half : Nat.pow 2 63 = 9223372036854775808 := rfl
  by_cases natural : 0 ≤ value
  · have fits : value.toNat ≤ greatestWord := by omega
    have written : writeInteger value = [] ++ Nat.toDigits 10 value.toNat := by
      simp [writeInteger, natural]
    rw [readNumber_of_digits false fits delimited written]
    simp [natural]
  · have fits : (-value).toNat ≤ greatestWord := by omega
    have within : 0 < (-value).toNat ∧ (-value).toNat ≤ Nat.pow 2 63 := by omega
    have written : writeInteger value = ['-'] ++ Nat.toDigits 10 (-value).toNat := by
      simp [writeInteger, natural]
    rw [readNumber_of_digits true fits delimited written, if_pos rfl, if_pos within]
    simp only [Option.map_some, Option.some.injEq, Prod.mk.injEq, Datum.integer.injEq, and_true]
    omega

end EditorSession.Json

namespace EditorSession

/-- The values that JSON text carries without loss and that are nested no deeper than so many
levels: their integers fit 64 bits, with or without a sign, the members of their records stand in
the order of their names, and there is no double among them. -/
inductive Datum.Portable : (depth : Nat) → Datum → Prop
  | null {depth} : Portable depth .null
  | flag {depth} (value : Bool) : Portable depth (.flag value)
  | integer {depth value} (least : -2 ^ 63 ≤ value) (most : value < 2 ^ 64) :
      Portable depth (.integer value)
  | text {depth} (value : String) : Portable depth (.text value)
  | list {depth items} (each : ∀ item ∈ items, Portable depth item) :
      Portable (depth + 1) (.list items)
  | record {depth members} (names : Members.Ordered members)
      (each : ∀ member ∈ members, Portable depth member.2) : Portable (depth + 1) (.record members)

theorem Datum.Portable.mono {depth deeper : Nat} {datum : Datum} (portable : datum.Portable depth)
    (more : depth ≤ deeper) : datum.Portable deeper := by
  induction portable generalizing deeper with
  | null => exact .null
  | flag value => exact .flag value
  | integer least most => exact .integer least most
  | text value => exact .text value
  | list each ih =>
      obtain ⟨deeper, rfl⟩ := Nat.exists_eq_add_of_le' (Nat.le_trans (Nat.le_add_left 1 _) more)
      exact .list fun item mem => ih item mem (Nat.le_of_succ_le_succ more)
  | record names each ih =>
      obtain ⟨deeper, rfl⟩ := Nat.exists_eq_add_of_le' (Nat.le_trans (Nat.le_add_left 1 _) more)
      exact .record names fun member mem => ih member mem (Nat.le_of_succ_le_succ more)

namespace Members

theorem insertSorted_of_last {members : Members} {name : String} (value : Datum)
    (last : ∀ member ∈ members, member.1 < name) :
    members.insertSorted name value = members ++ [(name, value)] := by
  induction members with
  | nil => rfl
  | cons head members ih =>
      have before : head.1 < name := last head (List.mem_cons_self ..)
      rw [insertSorted, if_neg (lt_asymm before), if_neg (ne_of_gt before),
        ih fun member mem => last member (List.mem_cons_of_mem head mem)]
      rfl

theorem foldl_insertSorted_of_ordered (read : Members) {members : Members}
    (ordered : (read ++ members).Ordered) :
    members.foldl (fun read member => read.insertSorted member.1 member.2) read =
      read ++ members := by
  induction members generalizing read with
  | nil => simp
  | cons member members ih =>
      have last : ∀ earlier ∈ read, earlier.1 < member.1 := by
        intro earlier mem
        exact (List.pairwise_append.mp ordered).2.2 earlier mem member (List.mem_cons_self ..)
      rw [List.foldl_cons, insertSorted_of_last member.2 last, ih _ (by simpa using ordered)]
      simp

theorem Ordered.arranged_eq {members : Members} (ordered : members.Ordered) :
    members.arranged = members :=
  foldl_insertSorted_of_ordered [] ordered

end Members

namespace Json

variable {depth budget : Nat} {rest : List Char}

theorem exists_writeInteger_cons (value : Int) :
    ∃ first others, writeInteger value = first :: others ∧ (first = '-' ∨ isDigit first = true) := by
  unfold writeInteger
  split
  next =>
    cases digits : Nat.toDigits 10 value.toNat with
    | nil => exact absurd digits Nat.toDigits_ne_nil
    | cons first others =>
        have mem : first ∈ Nat.toDigits 10 value.toNat := by simp [digits]
        exact ⟨first, others, rfl, .inr (isDigit_of_mem_toDigits mem)⟩
  next => exact ⟨'-', _, rfl, .inl rfl⟩

theorem ne_of_starts_number {first : Char} (starts : first = '-' ∨ isDigit first = true)
    (other : Char) (foreign : other ≠ '-' ∧ isDigit other = false) : first ≠ other := by
  rintro rfl
  rcases starts with sign | digit
  · exact foreign.1 sign
  · rw [foreign.2] at digit
    cases digit

theorem not_isGap_of_starts_number {first : Char} (starts : first = '-' ∨ isDigit first = true) :
    isGap first = false := by
  have other := ne_of_starts_number starts
  simp [isGap, other ' ' (by decide), other '\t' (by decide), other '\n' (by decide),
    other '\r' (by decide)]

/-- A value is read back from its compact form, whatever may follow a value. -/
def ReadsBack (depth : Nat) (datum : Datum) : Prop :=
  ReadsAs depth (write datum) datum

theorem readsBack_integer {value : Int} (least : -2 ^ 63 ≤ value) (most : value < 2 ^ 64) :
    ReadsBack depth (.integer value) := by
  intro budget rest enough delimited
  have number := readNumber_writeInteger least most delimited
  rcases exists_writeInteger_cons value with ⟨first, others, written, starts⟩
  rw [write, written] at enough ⊢
  rw [written, List.cons_append] at number
  cases budget with
  | zero => simp at enough
  | succ budget =>
      rw [List.cons_append, readValue, skipGap_of_head (not_isGap_of_starts_number starts)]
      split
      next mark => cases mark; exact absurd rfl (ne_of_starts_number starts _ (by decide))
      next mark => cases mark; exact absurd rfl (ne_of_starts_number starts _ (by decide))
      next mark => cases mark; exact absurd rfl (ne_of_starts_number starts _ (by decide))
      next same => cases same; rw [if_pos starts, number]
      next nothing => cases nothing

theorem readsBack_text (value : String) : ReadsBack depth (.text value) := by
  intro budget rest enough delimited
  have text := readText_writeText rest [] value.toList
  cases budget with
  | zero => simp [write, writeText] at enough
  | succ budget =>
      simp only [write, writeText, List.cons_append, List.append_assoc, List.nil_append]
      rw [readValue, skipGap_of_head rfl]
      simp [text]

theorem readValue_word {first : Char} {text : List Char}
    (starts : first = 'n' ∨ first = 't' ∨ first = 'f') :
    readValue (budget + 1) depth (first :: text) = readWord (first :: text) := by
  rcases starts with rfl | rfl | rfl <;> rw [readValue, skipGap_of_head rfl] <;> rfl

theorem writeItems_eq (items : List Datum) : writeItems items = separated (items.map write) := by
  induction items with
  | nil => rfl
  | cons item rest ih => rw [writeItems, ih, List.map_cons, separated, List.isEmpty_map]

theorem writeMembers_eq (members : Members) :
    writeMembers members =
      separated (members.map fun member => writeText member.1 ++ ':' :: write member.2) := by
  induction members with
  | nil => rfl
  | cons member rest ih =>
      rw [writeMembers, ih, List.map_cons, separated, List.isEmpty_map, List.append_assoc,
        List.cons_append]

theorem readsBack_list {items : List Datum} (each : ∀ item ∈ items, ReadsBack depth item) :
    ReadsBack (depth + 1) (.list items) := by
  rw [ReadsBack, write, writeItems_eq]
  by_cases empty : items = []
  · subst empty
    exact readsAs_emptyList
  · have reads := readsAs_list .nil .nil empty each
    rwa [List.map_id'] at reads

theorem readsBack_record {members : Members} (each : ∀ member ∈ members, ReadsBack depth member.2) :
    ReadsAs (depth + 1) (write (.record members)) (.record members.arranged) := by
  rw [write, writeMembers_eq]
  by_cases empty : members = []
  · subst empty
    exact readsAs_emptyRecord
  · have reads := @readsAs_record depth _ _ .nil .nil write id members empty each
    have same : members.map (fun member => (member.1, id member.2)) = members := List.map_id' _
    rw [same] at reads
    exact reads

theorem readsBack_of_word {datum : Datum} {first : Char} {others : List Char}
    (written : write datum = first :: others) (starts : first = 'n' ∨ first = 't' ∨ first = 'f')
    (word : ∀ rest, readWord (write datum ++ rest) = some (datum, rest)) :
    ReadsBack depth datum := by
  intro budget rest enough delimited
  have read := word rest
  rw [written] at enough read ⊢
  cases budget with
  | zero => simp at enough
  | succ budget => rw [List.cons_append, readValue_word starts, ← List.cons_append, read]

/-- Every value that JSON carries without loss is read back. -/
theorem readsBack_of_portable {datum : Datum} (portable : datum.Portable depth) :
    ReadsBack depth datum := by
  induction portable with
  | null => exact readsBack_of_word rfl (.inl rfl) fun rest => rfl
  | flag value =>
      cases value with
      | false => exact readsBack_of_word rfl (.inr (.inr rfl)) fun rest => rfl
      | true => exact readsBack_of_word rfl (.inr (.inl rfl)) fun rest => rfl
  | text value => exact readsBack_text value
  | integer least most => exact readsBack_integer least most
  | list each ih => exact readsBack_list ih
  | record names each ih =>
      intro budget rest enough delimited
      rw [readsBack_record ih budget rest enough delimited, names.arranged_eq]

/-- A record of values that JSON carries without loss is read back with its members in order. -/
theorem read_write_record {members : Members}
    (each : ∀ member ∈ members, member.2.Portable 126) :
    read (write (.record members)) = some (.record members.arranged) := by
  have enough : (write (.record members)).length ≤ 2 * (write (.record members)).length + 2 := by
    omega
  have readsBack : ∀ member ∈ members, ReadsBack 126 member.2 :=
    fun member mem => readsBack_of_portable (each member mem)
  have value := readsBack_record readsBack _ [] enough (by simp [Delimited])
  rw [List.append_nil] at value
  have limit : nestingLimit = 127 := rfl
  rw [read, readWithin, limit, value]
  rfl

end Json

end EditorSession
