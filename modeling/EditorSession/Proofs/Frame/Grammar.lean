import EditorSession.Proofs.Frame.Header
import EditorSession.Proofs.Text.Decoding
import Mathlib.Data.List.TakeWhile

/-!
# The grammar of frames

Which streams start with a frame, said without a reader: header lines, none of them blank, a line
that is blank, and as many octets as the last line with a length announces (`Framed`). Every other
stream has a first fault (`Fault`). A reader receives the payload of the former and reports the fault
of the latter, and leaves what follows either of them (`receive_iff`).
-/

namespace EditorSession

namespace Text

/-- A core is what remains of a text when the blanks around it are taken away. -/
structure TrimsTo (text core : List Char) : Prop where
  around : ∃ before after, text = before ++ (core ++ after) ∧
    (∀ character ∈ before, isBlank character = true) ∧
    ∀ character ∈ after, isBlank character = true
  starts : ∀ character ∈ core.head?, isBlank character = false
  ends : ∀ character ∈ core.getLast?, isBlank character = false

theorem TrimsTo.trimBlank_eq {text core : List Char} (trims : TrimsTo text core) :
    trimBlank text = core := by
  rcases trims.around with ⟨before, after, rfl, blankBefore, blankAfter⟩
  exact trimBlank_around before core after blankBefore blankAfter trims.starts trims.ends

theorem isBlank_of_mem_takeWhile {text : List Char} :
    ∀ character ∈ text.takeWhile isBlank, isBlank character = true :=
  fun _ mem => List.mem_takeWhile_imp mem

theorem head?_dropWhile_isBlank (text : List Char) :
    ∀ character ∈ (text.dropWhile isBlank).head?, isBlank character = false := by
  intro character mem
  have stops := List.head?_dropWhile_not isBlank text
  rw [Option.mem_def.mp mem] at stops
  simpa using stops

theorem trimsTo_trimBlank (text : List Char) : TrimsTo text (trimBlank text) := by
  let left := text.dropWhile isBlank
  have whole : left = trimBlank text ++ (left.reverse.takeWhile isBlank).reverse := by
    have parts := congrArg List.reverse (List.takeWhile_append_dropWhile (p := isBlank)
      (l := left.reverse))
    rw [List.reverse_append, List.reverse_reverse] at parts
    exact parts.symm
  refine ⟨⟨text.takeWhile isBlank, (left.reverse.takeWhile isBlank).reverse, ?_,
    isBlank_of_mem_takeWhile, ?_⟩, ?_, ?_⟩
  · rw [← whole]
    exact List.takeWhile_append_dropWhile.symm
  · intro character mem
    exact isBlank_of_mem_takeWhile character (List.mem_reverse.mp mem)
  · intro character mem
    apply head?_dropWhile_isBlank text character
    -- What is left starts as the core does, unless the core is empty.
    show character ∈ left.head?
    rw [whole, List.head?_append, Option.mem_def.mp mem]
    rfl
  · intro character mem
    rw [trimBlank, List.getLast?_reverse] at mem
    exact head?_dropWhile_isBlank _ character mem

end Text

namespace Frame

open Text (TrimsTo)

/-! ### Header lines -/

/-- A text is a number of 64 bits in decimal digits, with or without a plus sign before them. -/
def Denotes (text : List Char) (number : Nat) : Prop :=
  ∃ sign digits, text = sign ++ digits ∧ (sign = [] ∨ sign = ['+']) ∧ digits ≠ [] ∧
    (∀ digit ∈ digits, '0' ≤ digit ∧ digit ≤ '9') ∧ Nat.ofDigitChars 10 digits 0 = number ∧
    number < 2 ^ 64

/-- What the octets of a line say, or the fault in them. -/
inductive Means : Octets → Except Failure HeaderLine → Prop
  | blank {text} (empty : TrimsTo text []) : Means (Text.Utf8.encode text) (.ok .blank)
  | other {text core} (trimmed : TrimsTo text core) (present : core ≠ [])
      (unnamed : ¬lengthName <+: core) : Means (Text.Utf8.encode text) (.ok .other)
  | length {text value numeral number} (named : TrimsTo text (lengthName ++ value))
      (trimmed : TrimsTo value numeral) (denotes : Denotes numeral number) :
      Means (Text.Utf8.encode text) (.ok (.length number))
  /-- A line that announces a length and gives none. -/
  | malformed {text value numeral} (named : TrimsTo text (lengthName ++ value))
      (trimmed : TrimsTo value numeral) (senseless : ∀ number, ¬Denotes numeral number) :
      Means (Text.Utf8.encode text) (.error .malformedLength)
  | notText {line} (noText : ∀ text, line ≠ Text.Utf8.encode text) :
      Means line (.error (.pipe .notText))

/-- A line and what follows it: the line ends with its only line feed, or with the stream. -/
inductive Line : Octets → Octets → Prop
  | ended {body rest} (inside : lineFeed ∉ body) : Line (body ++ [lineFeed]) rest
  | last {line} (some : line ≠ []) (inside : lineFeed ∉ line) : Line line []

/-- Lines of a header before the blank one, and the last length that they announce. -/
inductive HeaderLines : Octets → Option Nat → Prop
  | start : HeaderLines [] none
  | other {lines declared body} (before : HeaderLines lines declared) (inside : lineFeed ∉ body)
      (means : Means (body ++ [lineFeed]) (.ok .other)) :
      HeaderLines (lines ++ (body ++ [lineFeed])) declared
  | length {lines declared body number} (before : HeaderLines lines declared)
      (inside : lineFeed ∉ body) (means : Means (body ++ [lineFeed]) (.ok (.length number))) :
      HeaderLines (lines ++ (body ++ [lineFeed])) (some number)

/-- A header that ends with its blank line, the last length that it announces, and what follows. -/
inductive Header : Octets → Option Nat → Octets → Prop
  | intro {lines declared line rest} (before : HeaderLines lines declared) (ends : Line line rest)
      (blank : Means line (.ok .blank)) : Header (lines ++ line) declared rest

/-! ### Frames -/

/-- A stream, the payload of the frame that it starts with, and what follows the frame. -/
inductive Framed : Octets → Octets → Octets → Prop
  | intro {octets payload rest} (header : Header octets (some payload.length) (payload ++ rest))
      (bounded : payload.length ≤ payloadLimit) : Framed (octets ++ payload ++ rest) payload rest

/-- A stream, its first fault, and what follows the place of the fault. -/
inductive Fault : Octets → Failure → Octets → Prop
  /-- The stream ends where a line of the header should start. -/
  | ended {lines declared} (before : HeaderLines lines declared) : Fault lines (.pipe .closed) []
  /-- The stream ends inside a line of the header. -/
  | endedInside {lines declared line said} (before : HeaderLines lines declared) (some : line ≠ [])
      (inside : lineFeed ∉ line) (means : Means line (.ok said)) (notBlank : said ≠ .blank) :
      Fault (lines ++ line) (.pipe .closed) []
  /-- A line of the header is no text, or announces a length and gives none. -/
  | line {lines declared line rest failure} (before : HeaderLines lines declared)
      (next : Line line rest) (means : Means line (.error failure)) :
      Fault (lines ++ line ++ rest) failure rest
  | missingLength {octets rest} (header : Header octets none rest) :
      Fault (octets ++ rest) .missingLength rest
  | tooLarge {octets number rest} (header : Header octets (some number) rest)
      (longer : payloadLimit < number) : Fault (octets ++ rest) (.tooLarge number) rest
  /-- The stream ends inside the payload. -/
  | cutShort {octets number payload} (header : Header octets (some number) payload)
      (bounded : number ≤ payloadLimit) (short : payload.length < number) :
      Fault (octets ++ payload) (.pipe .cutShort) []

/-! ### What a line means -/

variable {line lines rest stream octets payload : Octets} {declared : Option Nat}
  {said : Except Failure HeaderLine} {failure : Failure}

/-- The numbers that digits without a sign denote. -/
theorem digits_eq_some_iff {digits : List Char} {number : Nat} :
    (if digits.isEmpty ∨ ¬digits.all (fun digit => '0' ≤ digit ∧ digit ≤ '9') then none
      else if digitsValue digits < Nat.pow 2 64 then some (digitsValue digits) else none) =
        some number ↔
      digits ≠ [] ∧ (∀ digit ∈ digits, '0' ≤ digit ∧ digit ≤ '9') ∧
        Nat.ofDigitChars 10 digits 0 = number ∧ number < 2 ^ 64 := by
  rw [digitsValue_eq_ofDigitChars]
  simp only [Option.ite_none_left_eq_some, Option.ite_none_right_eq_some, Option.some.injEq,
    not_or, not_not, List.isEmpty_iff, List.all_eq_true, decide_eq_true_eq, and_assoc]
  constructor
  · rintro ⟨present, decimal, fits, rfl⟩
    exact ⟨present, decimal, rfl, fits⟩
  · rintro ⟨present, decimal, rfl, fits⟩
    exact ⟨present, decimal, fits, rfl⟩

/-- A length is read exactly from the texts that denote one. -/
theorem lengthOf?_eq_some_iff {text : List Char} {number : Nat} :
    lengthOf? text = some number ↔ Denotes text number := by
  constructor
  · intro read
    by_cases signed : ∃ digits, text = '+' :: digits
    · rcases signed with ⟨digits, rfl⟩
      rcases digits_eq_some_iff.mp read with ⟨present, decimal, value, fits⟩
      exact ⟨['+'], digits, rfl, .inr rfl, present, decimal, value, fits⟩
    · simp only [lengthOf?] at read
      split at read
      next digits => exact absurd ⟨digits, rfl⟩ signed
      next =>
        rcases digits_eq_some_iff.mp read with ⟨present, decimal, value, fits⟩
        exact ⟨[], text, rfl, .inl rfl, present, decimal, value, fits⟩
  · rintro ⟨sign, digits, rfl, rfl | rfl, present, decimal, value, fits⟩
    · rw [List.nil_append, lengthOf?_of_digits present decimal, digitsValue_eq_ofDigitChars, value]
      exact if_pos fits
    · exact digits_eq_some_iff.mpr ⟨present, decimal, value, fits⟩

theorem dropStart?_eq_some_iff {start text value : List Char} :
    dropStart? start text = some value ↔ text = start ++ value := by
  constructor
  · intro dropped
    induction start generalizing text with
    | nil => exact Option.some.inj dropped
    | cons expected start ih =>
        cases text with
        | nil => cases dropped
        | cons first text =>
            rw [dropStart?] at dropped
            split at dropped
            next same => rw [same, ih dropped, List.cons_append]
            · cases dropped
  · rintro rfl
    exact dropStart?_append start value

theorem ofText_of_blank {text : List Char} (empty : TrimsTo text []) :
    HeaderLine.ofText text = .ok .blank := by
  simp only [HeaderLine.ofText, empty.trimBlank_eq, List.isEmpty_nil, ↓reduceIte]

theorem ofText_of_kept {text core : List Char} (trimmed : TrimsTo text core) (present : core ≠ [])
    (kept : dropStart? lengthName core = none) : HeaderLine.ofText text = .ok .other := by
  have nonempty : core.isEmpty = false := List.isEmpty_eq_false_iff.mpr present
  simp only [HeaderLine.ofText, trimmed.trimBlank_eq, nonempty, Bool.false_eq_true, ↓reduceIte, kept]

theorem ofText_of_unread {text value : List Char} (named : TrimsTo text (lengthName ++ value))
    (unread : lengthOf? (Text.trimBlank value) = none) :
    HeaderLine.ofText text = .error .malformedLength := by
  have nonempty : (lengthName ++ value).isEmpty = false := rfl
  simp only [HeaderLine.ofText, named.trimBlank_eq, nonempty, Bool.false_eq_true, ↓reduceIte,
    dropStart?_append, unread]

theorem dropStart?_eq_none_iff {start text : List Char} :
    dropStart? start text = none ↔ ¬start <+: text := by
  simp only [Option.eq_none_iff_forall_ne_some, ne_eq, dropStart?_eq_some_iff, List.IsPrefix,
    not_exists, @eq_comm _ text]

theorem lengthOf?_eq_none_iff {text : List Char} :
    lengthOf? text = none ↔ ∀ number, ¬Denotes text number := by
  simp only [Option.eq_none_iff_forall_ne_some, ne_eq, lengthOf?_eq_some_iff]

theorem Means.ofOctets_eq (means : Means line said) : HeaderLine.ofOctets line = said := by
  cases means with
  | blank empty => rw [ofOctets_encode, ofText_of_blank empty]
  | other trimmed present unnamed =>
      rw [ofOctets_encode, ofText_of_kept trimmed present (dropStart?_eq_none_iff.mpr unnamed)]
  | length named trimmed denotes =>
      have read := lengthOf?_eq_some_iff.mpr denotes
      rw [← trimmed.trimBlank_eq] at read
      rw [ofOctets_encode, ofText_of_trimmed named.trimBlank_eq read]
  | malformed named trimmed senseless =>
      have unread := lengthOf?_eq_none_iff.mpr senseless
      rw [← trimmed.trimBlank_eq] at unread
      rw [ofOctets_encode, ofText_of_unread named unread]
  | notText noText =>
      rw [HeaderLine.ofOctets]
      split
      next text decoded => exact absurd (Text.Utf8.decode_eq_ok_iff.mp decoded) (noText text)
      · rfl

/-- Every text means something. -/
theorem means_ofText (text : List Char) :
    Means (Text.Utf8.encode text) (HeaderLine.ofText text) := by
  have trimmed := Text.trimsTo_trimBlank text
  cases shown : Text.trimBlank text with
  | nil =>
      rw [shown] at trimmed
      rw [ofText_of_blank trimmed]
      exact .blank trimmed
  | cons first others =>
      have present : Text.trimBlank text ≠ [] := by simp [shown]
      cases dropped : dropStart? lengthName (Text.trimBlank text) with
      | none =>
          rw [ofText_of_kept trimmed present dropped]
          exact .other trimmed present (dropStart?_eq_none_iff.mp dropped)
      | some value =>
          rw [dropStart?_eq_some_iff.mp dropped] at trimmed
          have numeral := Text.trimsTo_trimBlank value
          cases read : lengthOf? (Text.trimBlank value) with
          | none =>
              rw [ofText_of_unread trimmed read]
              exact .malformed trimmed numeral (lengthOf?_eq_none_iff.mp read)
          | some number =>
              rw [ofText_of_trimmed trimmed.trimBlank_eq read]
              exact .length trimmed numeral (lengthOf?_eq_some_iff.mp read)

theorem means_ofOctets (line : Octets) : Means line (HeaderLine.ofOctets line) := by
  rw [HeaderLine.ofOctets]
  split
  next text decoded =>
    obtain rfl := Text.Utf8.decode_eq_ok_iff.mp decoded
    exact means_ofText text
  next malformed failed =>
    refine .notText ?_
    rintro text rfl
    rw [Text.Utf8.decode_encode] at failed
    cases failed

theorem ofOctets_eq_iff : HeaderLine.ofOctets line = said ↔ Means line said := by
  constructor
  · rintro rfl
    exact means_ofOctets line
  · exact Means.ofOctets_eq

/-! ### What a reader does with it -/

/-- What is left of the reading once the last line has ended with the stream. -/
def afterLast (declared : Option Nat) : Except Failure HeaderLine → Except Failure Nat × Octets
  | .ok .blank => (declaredLength declared, [])
  | .ok _ => (.error (.pipe .closed), [])
  | .error failure => (.error failure, [])

theorem readHeader_last {seen : Octets} (present : seen.reverse ++ line ≠ [])
    (inside : lineFeed ∉ line) :
    readHeader seen declared line =
      afterLast declared (HeaderLine.ofOctets (seen.reverse ++ line)) := by
  induction line generalizing seen with
  | nil =>
      have nonempty : seen.isEmpty = false := by simpa using present
      rw [List.append_nil, readHeader, nonempty]
      simp only [Bool.false_eq_true, ↓reduceIte]
      cases HeaderLine.ofOctets seen.reverse with
      | error failure => rfl
      | ok said => cases said <;> rfl
  | cons octet line ih =>
      simp only [List.mem_cons, not_or] at inside
      rw [readHeader, if_neg (Ne.symm inside.1), ih (by simp) inside.2]
      simp

theorem readHeader_ended (inside : lineFeed ∉ line) (means : Means (line ++ [lineFeed]) said) :
    readHeader [] declared (line ++ [lineFeed] ++ rest) = afterLine declared rest said := by
  rw [List.append_assoc, List.singleton_append, readHeader_line [] inside, List.reverse_nil,
    List.nil_append, means.ofOctets_eq]

theorem readHeader_unended (present : line ≠ []) (inside : lineFeed ∉ line)
    (means : Means line said) : readHeader [] declared line = afterLast declared said := by
  rw [readHeader_last (by simpa using present) inside, List.reverse_nil, List.nil_append,
    means.ofOctets_eq]

/-- A line that ends the header, or has a fault, is the last one that is read. -/
theorem readHeader_next (next : Line line rest) (means : Means line said)
    (stops : ∀ found, said = .ok found → found = .blank) :
    readHeader [] declared (line ++ rest) = afterLine declared rest said := by
  cases next with
  | ended inside => exact readHeader_ended inside means
  | last present inside =>
      rw [List.append_nil, readHeader_unended present inside means]
      cases said with
      | error failure => rfl
      | ok found => rw [stops found rfl, afterLast, afterLine]

/-- A reader takes the lines of a header one by one and keeps the last length. -/
theorem readHeader_lines (header : HeaderLines lines declared) (rest : Octets) :
    readHeader [] none (lines ++ rest) = readHeader [] declared rest := by
  induction header generalizing rest with
  | start => rfl
  | other before inside means ih =>
      rw [List.append_assoc, ih, readHeader_ended inside means, afterLine]
  | length before inside means ih =>
      rw [List.append_assoc, ih, readHeader_ended inside means, afterLine]

theorem Header.readHeader_eq (header : Header octets declared rest) :
    readHeader [] none (octets ++ rest) = (declaredLength declared, rest) := by
  cases header with
  | intro before ends blank =>
      rw [List.append_assoc, readHeader_lines before,
        readHeader_next ends blank fun _ same => (Except.ok.inj same).symm, afterLine]

theorem Framed.receive_eq (framed : Framed stream payload rest) :
    receive stream = (.ok payload, rest) := by
  cases framed with
  | intro header bounded =>
      simp only [receive, List.append_assoc, header.readHeader_eq, declaredLength,
        Nat.not_lt.mpr bounded, ↓reduceIte, List.take_left, List.drop_left]

theorem receive_of_readHeader_error
    (failed : readHeader [] none stream = (.error failure, rest)) :
    receive stream = (.error failure, rest) := by
  rw [receive, failed]

theorem Fault.receive_eq (fault : Fault stream failure rest) :
    receive stream = (.error failure, rest) := by
  cases fault with
  | ended before =>
      apply receive_of_readHeader_error
      rw [← List.append_nil stream, readHeader_lines before]
      rfl
  | @endedInside lines declared line said before present inside means notBlank =>
      apply receive_of_readHeader_error
      rw [readHeader_lines before, readHeader_unended present inside means]
      cases said with
      | blank => contradiction
      | length _ => rfl
      | other => rfl
  | line before next means =>
      apply receive_of_readHeader_error
      rw [List.append_assoc, readHeader_lines before, readHeader_next next means nofun, afterLine]
  | missingLength header =>
      apply receive_of_readHeader_error
      rw [header.readHeader_eq, declaredLength]
  | tooLarge header longer =>
      simp only [receive, header.readHeader_eq, declaredLength, longer, ↓reduceIte]
  | cutShort header bounded short =>
      have lacks := (Nat.min_eq_right (Nat.le_of_lt short)).trans_ne (Nat.ne_of_lt short)
      simp only [receive, header.readHeader_eq, declaredLength, Nat.not_lt.mpr bounded, ↓reduceIte,
        List.length_take, lacks]

/-! ### Every stream is one or the other -/

/-- A stream that is not at its end goes on with a line. -/
theorem exists_line (present : stream ≠ []) : ∃ line rest, stream = line ++ rest ∧ Line line rest := by
  by_cases ends : lineFeed ∈ stream
  · rcases List.eq_append_cons_of_mem ends with ⟨body, rest, rfl, inside⟩
    exact ⟨body ++ [lineFeed], rest, by simp, .ended inside⟩
  · exact ⟨stream, [], by simp, .last present ends⟩

theorem framed_or_fault_of_header (header : Header octets declared rest) :
    (∃ payload left, Framed (octets ++ rest) payload left) ∨
      ∃ failure left, Fault (octets ++ rest) failure left := by
  cases declared with
  | none => exact .inr ⟨_, _, .missingLength header⟩
  | some number =>
      by_cases longer : payloadLimit < number
      · exact .inr ⟨_, _, .tooLarge header longer⟩
      · have bounded := Nat.le_of_not_lt longer
        by_cases short : rest.length < number
        · exact .inr ⟨_, _, .cutShort header bounded short⟩
        · have length : (rest.take number).length = number :=
            List.length_take_of_le (Nat.le_of_not_lt short)
          have parts : rest = rest.take number ++ rest.drop number :=
            (List.take_append_drop number rest).symm
          have framed : Framed (octets ++ rest.take number ++ rest.drop number) (rest.take number)
              (rest.drop number) := .intro (by rwa [length, ← parts]) (by rwa [length])
          rw [List.append_assoc, ← parts] at framed
          exact .inl ⟨_, _, framed⟩

/-- Whatever lines of a header were read, the stream starts with a frame or has a first fault. -/
theorem framed_or_fault_after (before : HeaderLines lines declared) (rest : Octets) :
    (∃ payload left, Framed (lines ++ rest) payload left) ∨
      ∃ failure left, Fault (lines ++ rest) failure left := by
  -- On the length of what was not read yet: a line that does not end the header leaves less of it.
  induction size : rest.length using Nat.strong_induction_on generalizing lines declared rest with
  | _ count ih =>
      by_cases present : rest = []
      · subst present
        exact .inr ⟨_, _, by rw [List.append_nil]; exact .ended before⟩
      rcases exists_line present with ⟨line, left, rfl, next⟩
      rw [← List.append_assoc]
      cases means : HeaderLine.ofOctets line with
      | error failure =>
          exact .inr ⟨_, _, .line before next (ofOctets_eq_iff.mp means)⟩
      | ok said =>
          have means := ofOctets_eq_iff.mp means
          cases next with
          | last nonempty inside =>
              by_cases blank : said = .blank
              · subst blank
                exact framed_or_fault_of_header (.intro before (.last nonempty inside) means)
              · rw [List.append_nil]
                exact .inr ⟨_, _, .endedInside before nonempty inside means blank⟩
          | ended inside =>
              have less : left.length < count := by
                rw [← size]
                simp only [List.length_append, List.length_singleton]
                omega
              cases said with
              | blank => exact framed_or_fault_of_header (.intro before (.ended inside) means)
              | length number => exact ih _ less (.length before inside means) left rfl
              | other => exact ih _ less (.other before inside means) left rfl

theorem framed_or_fault (stream : Octets) :
    (∃ payload rest, Framed stream payload rest) ∨ ∃ failure rest, Fault stream failure rest :=
  framed_or_fault_after .start stream

/--
A reader receives exactly what the grammar has: a payload with the rest of the stream if the stream
starts with a frame of this payload before this rest, and a failure with the rest of the stream if
that is the first fault of the stream and what follows it.
-/
theorem receive_iff (stream rest : Octets) :
    (∀ payload, receive stream = (.ok payload, rest) ↔ Framed stream payload rest) ∧
      ∀ failure, receive stream = (.error failure, rest) ↔ Fault stream failure rest := by
  refine ⟨fun payload => ⟨fun received => ?_, Framed.receive_eq⟩,
    fun failure => ⟨fun received => ?_, Fault.receive_eq⟩⟩
  · rcases framed_or_fault stream with ⟨_, _, framed⟩ | ⟨_, _, fault⟩
    · rw [framed.receive_eq] at received
      cases received
      exact framed
    · rw [fault.receive_eq] at received
      cases received
  · rcases framed_or_fault stream with ⟨_, _, framed⟩ | ⟨_, _, fault⟩
    · rw [framed.receive_eq] at received
      cases received
    · rw [fault.receive_eq] at received
      cases received
      exact fault

end Frame

end EditorSession
