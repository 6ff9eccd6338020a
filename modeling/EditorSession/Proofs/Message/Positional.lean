import EditorSession.Proofs.Message
import EditorSession.Proofs.Message.Unrelated

/-!
# Responses that are lists

A response need not be a record: a list of the values of its members, in their order, is read as one
as well. `Response.Positional` says which lists are read so, and as which response; an item that is
an error may in turn be a record or a list (`ResponseError.Reports`). Every other value that is no
record is refused, whatever its kind (`Incoming.parse_eq_ok_iff`, `Incoming.parse_eq_error_iff`).
-/

namespace EditorSession

open Incoming (integer_eq_ok_iff)

/-- The integers that are not beyond the largest one of 64 bits with sign. -/
def IsSmall (number : Int) : Prop := number < Int.ofNat (Nat.pow 2 63)

namespace ResponseError

/-- What an error is read from. -/
inductive Reports : Datum → ResponseError → Prop
  | record {members : Members} {code wording}
      (coded : members.find? "code" = some (.integer code)) (small : IsSmall code)
      (worded : members.find? "message" = some (.text wording)) :
      Reports (.record members) ⟨code, wording⟩
  | list {code wording} (small : IsSmall code) :
      Reports (.list [.integer code, .text wording]) ⟨code, wording⟩

theorem text_eq_ok_iff {dialect : Schema.Dialect} {datum : Datum} {written : String} :
    Schema.text dialect datum = .ok written ↔ datum = .text written := by
  cases datum <;> simp [Schema.text]

section Record

variable {members : Members} {draft : Draft}

/-- What a draft has, some field brought about, from the member of its name. -/
theorem exists_field_of_laid (ordered : members.Ordered) (property : Draft → Prop)
    (laid : Schema.overlayKnown .json fields members {} = .ok draft) (notYet : ¬property {})
    (holds : property draft) :
    ∃ field ∈ fields, ∃ value, members.find? field.name = some value ∧
      ∃ before after, ¬property before ∧ field.assign .json value before = .ok after ∧
        property after := by
  rcases Schema.addresses_of_overlayKnown property laid notYet holds with
    ⟨⟨name, value⟩, mem, field, known, brought⟩
  obtain rfl : field.name = name := by simpa using List.find?_some known
  exact ⟨field, List.mem_of_find?_eq_some known, value, ordered.find?_eq_some_iff.mpr mem, brought⟩

/-- A draft has the code that the members have. -/
theorem find?_of_code (ordered : members.Ordered) {code : Int}
    (laid : Schema.overlayKnown .json fields members {} = .ok draft)
    (hasCode : draft.code = some code) :
    members.find? "code" = some (.integer code) ∧ IsSmall code := by
  rcases exists_field_of_laid ordered (fun draft : Draft => draft.code = some code) laid nofun
    hasCode with ⟨field, known, value, found, before, after, notYet, assigned, holds⟩
  simp only [fields, List.mem_cons, List.not_mem_nil, or_false] at known
  rcases known with rfl | rfl
  · rcases Schema.Member.of_assign_eq_ok_iff.mp assigned with ⟨read, decoded, rfl⟩
    cases holds
    rcases integer_eq_ok_iff.mp decoded with ⟨rfl, small⟩
    exact ⟨found, small⟩
  · rcases Schema.Member.of_assign_eq_ok_iff.mp assigned with ⟨read, -, rfl⟩
    exact absurd holds notYet

/-- A draft has the wording that the members have. -/
theorem find?_of_message (ordered : members.Ordered) {wording : String}
    (laid : Schema.overlayKnown .json fields members {} = .ok draft)
    (hasMessage : draft.message = some wording) :
    members.find? "message" = some (.text wording) := by
  rcases exists_field_of_laid ordered (fun draft : Draft => draft.message = some wording) laid nofun
    hasMessage with ⟨field, known, value, found, before, after, notYet, assigned, holds⟩
  simp only [fields, List.mem_cons, List.not_mem_nil, or_false] at known
  rcases known with rfl | rfl
  · rcases Schema.Member.of_assign_eq_ok_iff.mp assigned with ⟨read, -, rfl⟩
    exact absurd holds notYet
  · rcases Schema.Member.of_assign_eq_ok_iff.mp assigned with ⟨read, decoded, rfl⟩
    cases holds
    rcases text_eq_ok_iff.mp decoded with rfl
    exact found

theorem reports_of_decode_record (ordered : members.Ordered) {error : ResponseError}
    (decoded : decode .json (.record members) = .ok error) : Reports (.record members) error := by
  rcases Schema.bind_eq_ok_iff.mp decoded with ⟨draft, laid, decoded⟩
  rcases Schema.bind_eq_ok_iff.mp decoded with ⟨code, hasCode, decoded⟩
  rcases Schema.bind_eq_ok_iff.mp decoded with ⟨wording, hasMessage, same⟩
  cases same
  rcases find?_of_code ordered laid (Schema.required_eq_ok_iff.mp hasCode) with ⟨coded, small⟩
  exact .record coded small
    (find?_of_message ordered laid (Schema.required_eq_ok_iff.mp hasMessage))

end Record

theorem Reports.unique {datum : Datum} {error other : ResponseError} (reports : Reports datum error)
    (reportsToo : Reports datum other) : error = other := by
  cases reports with
  | list small => cases reportsToo; rfl
  | record coded small worded =>
      cases reportsToo with
      | record codedToo smallToo wordedToo =>
          rw [coded] at codedToo
          rw [worded] at wordedToo
          cases codedToo
          cases wordedToo
          rfl

theorem decode_list_eq_ok_iff {items : List Datum} {error : ResponseError} :
    decode .json (.list items) = .ok error ↔ Reports (.list items) error := by
  constructor
  · intro decoded
    match items with
    | [] => cases decoded
    | [code] =>
        rcases Schema.bind_eq_ok_iff.mp decoded with ⟨number, -, tooFew⟩
        cases tooFew
    | code :: message :: rest =>
        rcases Schema.bind_eq_ok_iff.mp decoded with ⟨number, numbered, wordingRead⟩
        rcases Schema.bind_eq_ok_iff.mp wordingRead with ⟨wording, worded, ended⟩
        rcases integer_eq_ok_iff.mp numbered with ⟨rfl, small⟩
        rcases text_eq_ok_iff.mp worded with rfl
        cases rest with
        | nil =>
            cases ended
            exact .list small
        | cons item rest => cases ended
  · intro reports
    cases reports with
    | list small =>
        exact Schema.bind_eq_ok_iff.mpr ⟨_, integer_eq_ok_iff.mpr ⟨rfl, small⟩, rfl⟩

/-- An error is read from what reports it, and from nothing else. -/
theorem decode_eq_ok_iff {datum : Datum} (ordered : datum.Ordered) {error : ResponseError} :
    decode .json datum = .ok error ↔ Reports datum error := by
  cases datum with
  | list items => exact decode_list_eq_ok_iff
  | record members =>
      refine ⟨reports_of_decode_record ordered.names, fun reports => ?_⟩
      have found : ∃ other, decode .json (.record members) = .ok other := by
        cases reports with
        | record coded small worded => exact Incoming.decode_error ordered.names coded small worded
      rcases found with ⟨other, decoded⟩
      rw [decoded, reports.unique (reports_of_decode_record ordered.names decoded)]
  | _ =>
      constructor
      · nofun
      · nofun

end ResponseError

namespace Response

/-- What may stand for the number of a request. -/
inductive Numbers : Datum → Option Int → Prop
  | null : Numbers .null none
  | integer {number} (small : IsSmall number) : Numbers (.integer number) (some number)

/-- What may stand for an error, or for none. -/
inductive MayReport : Datum → Option ResponseError → Prop
  | null : MayReport .null none
  | error {datum error} (reports : ResponseError.Reports datum error) : MayReport datum (some error)

/-- The lists that are read as responses: one to three items, for the members in order. -/
inductive Positional : Datum → Response → Prop
  | number {first id} (numbers : Numbers first id) : Positional (.list [first]) { id }
  | result {first id second} (numbers : Numbers first id) :
      Positional (.list [first, second]) { id, result := Message.meaningful second }
  | error {first id second third error} (numbers : Numbers first id)
      (report : MayReport third error) :
      Positional (.list [first, second, third])
        { id, result := Message.meaningful second, error }

theorem optional_integer_eq_ok_iff {datum : Datum} {id : Option Int} :
    Schema.optional Schema.integer .json datum = .ok id ↔ Numbers datum id := by
  constructor
  · intro decoded
    cases datum with
    | null =>
        cases decoded
        exact .null
    | integer number =>
        rcases Schema.map_eq_ok_iff.mp decoded with ⟨read, isInteger, rfl⟩
        rcases integer_eq_ok_iff.mp isInteger with ⟨same, small⟩
        cases same
        exact .integer small
    | _ => cases decoded
  · intro numbers
    cases numbers with
    | null => rfl
    | integer small =>
        exact Schema.map_eq_ok_iff.mpr ⟨_, integer_eq_ok_iff.mpr ⟨rfl, small⟩, rfl⟩

theorem optional_any_eq (datum : Datum) :
    Schema.optional (fun _ datum => .ok datum) .json datum = .ok (Message.meaningful datum) := by
  cases datum <;> rfl

theorem optional_error_eq_ok_iff {datum : Datum} (ordered : datum.Ordered)
    {error : Option ResponseError} :
    Schema.optional ResponseError.decode .json datum = .ok error ↔ MayReport datum error := by
  have other (notNull : datum ≠ .null) :
      Schema.optional ResponseError.decode .json datum =
        (ResponseError.decode .json datum).map some := by
    cases datum with
    | null => exact absurd rfl notNull
    | _ => rfl
  constructor
  · intro decoded
    by_cases isNull : datum = .null
    · subst isNull
      cases decoded
      exact .null
    · rw [other isNull] at decoded
      rcases Schema.map_eq_ok_iff.mp decoded with ⟨read, isError, rfl⟩
      exact .error ((ResponseError.decode_eq_ok_iff ordered).mp isError)
  · intro report
    cases report with
    | null => rfl
    | error reports =>
        have notNull : datum ≠ .null := by
          rintro rfl
          cases reports
        rw [other notNull, (ResponseError.decode_eq_ok_iff ordered).mpr reports]
        rfl

/-- A list is read as a response if its items are those of one. -/
theorem decode_list_eq_ok_iff {items : List Datum} (ordered : ∀ item ∈ items, item.Ordered)
    {response : Response} :
    decode .json (.list items) = .ok response ↔ Positional (.list items) response := by
  rcases items with _ | ⟨first, _ | ⟨second, _ | ⟨third, _ | ⟨fourth, rest⟩⟩⟩⟩
  · constructor
    · intro decoded
      cases decoded
    · intro positional
      cases positional
  · have read : decode .json (.list [first]) = .ok response ↔
        ∃ id, Numbers first id ∧ { id } = response := by
      simp [decode, Schema.Shape.overlay, fields, Schema.Shape.overlayItems,
        Schema.bind_eq_ok_iff, Schema.Member.of_assign_eq_ok_iff, optional_integer_eq_ok_iff]
    rw [read]
    constructor
    · rintro ⟨id, numbers, rfl⟩
      exact .number numbers
    · rintro ⟨numbers⟩
      exact ⟨_, numbers, rfl⟩
  · have read : decode .json (.list [first, second]) = .ok response ↔
        ∃ id, Numbers first id ∧ { id, result := Message.meaningful second } = response := by
      simp [decode, Schema.Shape.overlay, fields, Schema.Shape.overlayItems,
        Schema.bind_eq_ok_iff, Schema.Member.of_assign_eq_ok_iff, optional_integer_eq_ok_iff,
        optional_any_eq]
    rw [read]
    constructor
    · rintro ⟨id, numbers, rfl⟩
      exact .result numbers
    · intro positional
      cases positional with
      | result numbers => exact ⟨_, numbers, rfl⟩
  · have read : decode .json (.list [first, second, third]) = .ok response ↔
        ∃ id, Numbers first id ∧ ∃ error, MayReport third error ∧
          { id, result := Message.meaningful second, error } = response := by
      simp [decode, Schema.Shape.overlay, fields, Schema.Shape.overlayItems,
        Schema.bind_eq_ok_iff, Schema.Member.of_assign_eq_ok_iff, optional_integer_eq_ok_iff,
        optional_any_eq, optional_error_eq_ok_iff (ordered third (by simp))]
    rw [read]
    constructor
    · rintro ⟨id, numbers, error, report, rfl⟩
      exact .error numbers report
    · intro positional
      cases positional with
      | error numbers report => exact ⟨_, numbers, _, report, rfl⟩
  · have tooMany : decode .json (.list (first :: second :: third :: fourth :: rest)) ≠
        .ok response := by
      simp [decode, Schema.Shape.overlay, fields, Schema.Shape.overlayItems, Schema.bind_eq_ok_iff]
    constructor
    · intro decoded
      exact absurd decoded tooMany
    · intro positional
      cases positional

/-- Among the values that are no record, only lists of the right items are read. -/
theorem decode_eq_ok_iff {datum : Datum} (ordered : datum.Ordered)
    (noRecord : ∀ members, datum ≠ .record members) {response : Response} :
    decode .json datum = .ok response ↔ Positional datum response := by
  cases ordered with
  | list each => exact decode_list_eq_ok_iff each
  | record names each => exact absurd rfl (noRecord _)
  | _ =>
      constructor
      · nofun
      · nofun

end Response

namespace Incoming

variable {payload : List Char} {datum : Datum} (denotes : Json.read payload = some datum)
include denotes

theorem parse_eq_of_noRecord (noRecord : ∀ members, datum ≠ .record members) :
    parse payload = ((Response.decode .json datum).map .response).mapError .mismatched := by
  rw [parse, denotes]
  cases datum with
  | record members => exact absurd rfl (noRecord members)
  | _ => rfl

variable (noRecord : ∀ members, datum ≠ .record members)
include noRecord

/-- What is no record is no message, or a response by its items. -/
theorem parse_eq_ok_iff {incoming : Incoming} :
    parse payload = .ok incoming ↔
      ∃ response, incoming = .response response ∧ Response.Positional datum response := by
  rw [parse_eq_of_noRecord denotes noRecord]
  simp only [← Response.decode_eq_ok_iff (Json.ordered_of_read denotes) noRecord]
  cases decoded : Response.decode .json datum with
  | error mismatch => simp [Except.map, Except.mapError]
  | ok response => simp [Except.map, Except.mapError, eq_comm]

theorem parse_eq_error_iff :
    (∃ mismatch, parse payload = .error (.mismatched mismatch)) ↔
      ∀ response, ¬Response.Positional datum response := by
  rw [parse_eq_of_noRecord denotes noRecord]
  simp only [← Response.decode_eq_ok_iff (Json.ordered_of_read denotes) noRecord]
  cases decoded : Response.decode .json datum with
  | error mismatch => simp [Except.map, Except.mapError]
  | ok response => simp [Except.map, Except.mapError]

end Incoming

end EditorSession
