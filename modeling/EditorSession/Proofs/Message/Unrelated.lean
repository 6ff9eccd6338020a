import EditorSession.Message
import EditorSession.Proofs.Json.Ordered
import EditorSession.Proofs.Schema

/-!
# The legal messages of a backend

JSON-RPC 2.0 lets a backend write notifications, requests of its own, and responses. `Unrelated`
says which of them are no response to a certain request, by what their members are. Each of them is
sorted as what it is, unless it is a response whose identifier is a text: JSON-RPC allows that, and
the type of a response does not (`ofDatum_of_textualId?_eq_none`, `ofDatum_of_textualId?_eq_some`).
-/

namespace EditorSession.Incoming

/-- The numbers that an identifier or an error code may be. -/
def IsWord (number : Int) : Prop :=
  -Int.ofNat (Nat.pow 2 63) ≤ number ∧ number < Int.ofNat (Nat.pow 2 63)

instance (number : Int) : Decidable (IsWord number) := inferInstanceAs (Decidable (_ ∧ _))

/-- An identifier of JSON-RPC. -/
inductive Identifier : Datum → Prop
  | null : Identifier .null
  | text (written : String) : Identifier (.text written)
  | number {value : Int} (word : IsWord value) : Identifier (.integer value)

/-- A response has a result, or an error that has a code and a message. -/
inductive HasOutcome (message : Datum) : Prop
  | result {result : Datum} (present : message.member? "result" = some result)
      (noError : message.member? "error" = none)
  | error {error : Datum} {code : Int} {wording : String}
      (present : message.member? "error" = some error)
      (coded : error.member? "code" = some (.integer code)) (word : IsWord code)
      (worded : error.member? "message" = some (.text wording))
      (noResult : message.member? "result" = none)

/-- A message of JSON-RPC 2.0 that is no response to the request of a number. -/
inductive Unrelated (own : Int) (message : Datum) : Prop
  /-- A notification, or a request of the backend's own; its number, if any, does not matter. -/
  | call {method : String} (version : message.member? "jsonrpc" = some (.text "2.0"))
      (called : message.member? "method" = some (.text method))
  /-- A response to something else. -/
  | response {id : Datum} (version : message.member? "jsonrpc" = some (.text "2.0"))
      (noCall : message.member? "method" = none) (identified : message.member? "id" = some id)
      (legal : Identifier id) (foreign : id ≠ .integer own) (outcome : HasOutcome message)

/-- The identifier of a response, if it is a text. -/
def textualId? (message : Datum) : Option String :=
  match message.member? "method", message.member? "id" with
  | none, some (.text written) => some written
  | _, _ => none

/-! ### Deciding legality -/

/-- Whether a datum is a certain text. -/
def isText (expected : String) : Datum → Bool
  | .text written => written == expected
  | _ => false

/-- Whether a datum is an identifier other than a number. -/
def isForeign (own : Int) : Datum → Bool
  | .null | .text _ => true
  | .integer value => decide (IsWord value) && value != own
  | _ => false

/-- Whether a message has the outcome of a response. -/
def hasOutcome (message : Datum) : Bool :=
  match message.member? "result", message.member? "error" with
  | some _, none => true
  | none, some error =>
    match error.member? "code", error.member? "message" with
    | some (.integer code), some (.text _) => decide (IsWord code)
    | _, _ => false
  | _, _ => false

/-- Whether a message is legal and no response to the request of a number. -/
def isUnrelated (own : Int) (message : Datum) : Bool :=
  (message.member? "jsonrpc").any (isText "2.0") &&
    match message.member? "method" with
    | some (.text _) => true
    | some _ => false
    | none => (message.member? "id").any (isForeign own) && hasOutcome message

theorem isText_iff {expected : String} {datum : Datum} :
    isText expected datum ↔ datum = .text expected := by
  cases datum <;> simp [isText]

theorem isForeign_iff {own : Int} {id : Datum} :
    isForeign own id ↔ Identifier id ∧ id ≠ .integer own := by
  constructor
  · intro holds
    cases id with
    | null => exact ⟨.null, nofun⟩
    | text written => exact ⟨.text written, nofun⟩
    | integer value =>
        simp only [isForeign, Bool.and_eq_true, decide_eq_true_eq, bne_iff_ne] at holds
        exact ⟨.number holds.1, fun same => holds.2 (Datum.integer.inj same)⟩
    | _ => cases holds
  · rintro ⟨legal, foreign⟩
    cases legal with
    | null => rfl
    | text written => rfl
    | number word =>
        simp only [isForeign, Bool.and_eq_true, decide_eq_true_eq, bne_iff_ne]
        exact ⟨word, fun same => foreign (congrArg Datum.integer same)⟩

theorem hasOutcome_iff {message : Datum} : hasOutcome message ↔ HasOutcome message := by
  constructor
  · intro holds
    unfold hasOutcome at holds
    split at holds
    next present noError => exact .result present noError
    next error noResult present =>
      split at holds
      next coded worded => exact .error present coded (of_decide_eq_true holds) worded noResult
      · cases holds
    · cases holds
  · intro outcome
    cases outcome with
    | result present noError => simp only [hasOutcome, present, noError]
    | error present coded word worded noResult =>
        simp only [hasOutcome, present, noResult, coded, worded, word, decide_true]

theorem isUnrelated_iff {own : Int} {message : Datum} :
    isUnrelated own message ↔ Unrelated own message := by
  simp only [isUnrelated, Bool.and_eq_true, Option.any_eq_true, isText_iff]
  constructor
  · rintro ⟨⟨version, written, rfl⟩, rest⟩
    split at rest
    next called => exact .call written called
    · cases rest
    next noCall =>
      simp only [Bool.and_eq_true, Option.any_eq_true, isForeign_iff, hasOutcome_iff] at rest
      rcases rest with ⟨⟨id, identified, legal, foreign⟩, outcome⟩
      exact .response written noCall identified legal foreign outcome
  · intro unrelated
    cases unrelated with
    | call version called => simp [version, called]
    | response version noCall identified legal foreign outcome =>
        simp [version, noCall, identified, isForeign_iff, legal, foreign, hasOutcome_iff, outcome]

instance (own : Int) (message : Datum) : Decidable (Unrelated own message) :=
  decidable_of_iff _ isUnrelated_iff

/-! ### Sorting messages -/

theorem integer_eq_ok_iff {datum : Datum} {number : Int} :
    Schema.integer .json datum = .ok number ↔
      datum = .integer number ∧ number < Int.ofNat (Nat.pow 2 63) := by
  cases datum with
  | integer value =>
      simp only [Schema.integer, Datum.integer.injEq]
      split
      next small =>
        rw [Except.ok.injEq]
        constructor
        · rintro rfl
          exact ⟨rfl, small⟩
        · exact And.left
      next large =>
        simp only [reduceCtorEq, false_iff, not_and]
        rintro rfl
        exact large
  | _ => simp [Schema.integer]

theorem integer_of_isWord {number : Int} (word : IsWord number) :
    Schema.integer .json (.integer number) = .ok number :=
  integer_eq_ok_iff.mpr ⟨rfl, word.2⟩

section Record

variable {members : Members}

theorem eq_of_mem (ordered : members.Ordered) {member : String × Datum} (mem : member ∈ members)
    {name : String} {value : Datum} (found : members.find? name = some value)
    (same : name = member.1) : member.2 = value := by
  subst same
  have own := ordered.find?_eq_some_iff.mpr mem
  rw [own] at found
  exact Option.some.inj found

/-- What a draft that has a method stands for. -/
theorem ofMembers_of_draft {draft : Draft} {method : String}
    (laid : Schema.overlayKnown .json fields members {} = .ok draft)
    (hasMethod : draft.method = some method) :
    ofMembers members = .ok (draft.id.elim (.notification method) (.request · method)) := by
  have named : Schema.required "method" draft.method = .ok method := by
    rw [hasMethod, Schema.required]
  refine Schema.bind_eq_ok_iff.mpr ⟨draft, laid, Schema.bind_eq_ok_iff.mpr ⟨method, named, ?_⟩⟩
  cases draft.id <;> rfl

/-- A record that has a method that is a text is a call. -/
theorem ofMembers_of_method (ordered : members.Ordered) {method : String}
    (called : members.find? "method" = some (.text method)) :
    ∃ incoming, ofMembers members = .ok incoming ∧ ∀ response, incoming ≠ .response response := by
  have fits : ∀ member ∈ members, ∀ field ∈ fields, field.name = member.1 → ∀ before, ∃ after,
      field.assign .json member.2 before = .ok after ∧
        (before.method.isSome → after.method.isSome) := by
    intro member mem field known sameName before
    simp only [fields, List.mem_cons, List.not_mem_nil, or_false] at known
    rcases known with rfl | rfl
    · cases shape : member.2 <;> exact ⟨_, rfl, id⟩
    · rw [eq_of_mem ordered mem called sameName]
      exact ⟨_, rfl, fun _ => rfl⟩
  have named : Schema.Addresses fields members fun field datum =>
      ∀ before after, field.assign .json datum before = .ok after → after.method.isSome := by
    refine ⟨_, ordered.find?_eq_some_iff.mp called, _, rfl, ?_⟩
    intro before after assigned
    cases assigned
    rfl
  rcases Schema.overlayKnown_attains (fun draft : Draft => draft.method.isSome) fits (.inr named)
    with ⟨draft, laid, hasMethod⟩
  rcases Option.isSome_iff_exists.mp hasMethod with ⟨read, hasMethod⟩
  refine ⟨_, ofMembers_of_draft laid hasMethod, fun response => ?_⟩
  cases draft.id <;> nofun

theorem decode_error (ordered : members.Ordered) {code : Int} {wording : String}
    (coded : members.find? "code" = some (.integer code))
    (small : code < Int.ofNat (Nat.pow 2 63))
    (worded : members.find? "message" = some (.text wording)) :
    ∃ error, ResponseError.decode .json (.record members) = .ok error := by
  have fits : ∀ member ∈ members, ∀ field ∈ ResponseError.fields, field.name = member.1 →
      ∀ before, ∃ after, field.assign .json member.2 before = .ok after ∧
        (before.code.isSome → after.code.isSome) ∧
        (before.message.isSome → after.message.isSome) := by
    intro member mem field known sameName before
    simp only [ResponseError.fields, List.mem_cons, List.not_mem_nil, or_false] at known
    rcases known with rfl | rfl
    · rw [eq_of_mem ordered mem coded sameName]
      refine ⟨{ before with code := some code }, ?_, fun _ => rfl, id⟩
      simp [Schema.Member.of, integer_eq_ok_iff.mpr ⟨rfl, small⟩, Except.map]
    · rw [eq_of_mem ordered mem worded sameName]
      exact ⟨_, rfl, id, fun _ => rfl⟩
  have hasCode : ∃ draft, Schema.overlayKnown .json ResponseError.fields members {} = .ok draft ∧
      draft.code.isSome := by
    refine Schema.overlayKnown_attains (fun draft : ResponseError.Draft => draft.code.isSome) ?_
      (.inr ⟨_, ordered.find?_eq_some_iff.mp coded, _, rfl, ?_⟩)
    · intro member mem field known sameName before
      rcases fits member mem field known sameName before with ⟨after, assigned, kept, -⟩
      exact ⟨after, assigned, kept⟩
    · intro before after assigned
      rcases Schema.map_eq_ok_iff.mp assigned with ⟨_, -, rfl⟩
      rfl
  have hasMessage : ∃ draft, Schema.overlayKnown .json ResponseError.fields members {} = .ok draft ∧
      draft.message.isSome := by
    refine Schema.overlayKnown_attains (fun draft : ResponseError.Draft => draft.message.isSome) ?_
      (.inr ⟨_, ordered.find?_eq_some_iff.mp worded, _, rfl, ?_⟩)
    · intro member mem field known sameName before
      rcases fits member mem field known sameName before with ⟨after, assigned, -, kept⟩
      exact ⟨after, assigned, kept⟩
    · intro before after assigned
      cases assigned
      rfl
  -- Both are had by the one draft that the members make.
  rcases hasCode with ⟨draft, laid, hasCode⟩
  rcases hasMessage with ⟨same, laidToo, hasMessage⟩
  rw [laid] at laidToo
  cases laidToo
  rcases Option.isSome_iff_exists.mp hasCode with ⟨code, hasCode⟩
  rcases Option.isSome_iff_exists.mp hasMessage with ⟨wording, hasMessage⟩
  have hasCode : Schema.required "code" draft.code = .ok code := by rw [hasCode, Schema.required]
  have hasMessage : Schema.required "message" draft.message = .ok wording := by
    rw [hasMessage, Schema.required]
  exact ⟨⟨code, wording⟩, Schema.bind_eq_ok_iff.mpr ⟨draft, laid,
    Schema.bind_eq_ok_iff.mpr ⟨code, hasCode,
      Schema.bind_eq_ok_iff.mpr ⟨wording, hasMessage, rfl⟩⟩⟩⟩

/-- The member `error` of a legal response is absent or can be read. -/
theorem decode_error_of_outcome (ordered : (Datum.record members).Ordered)
    (outcome : HasOutcome (.record members)) {value : Datum}
    (present : members.find? "error" = some value) :
    ∃ error, ResponseError.decode .json value = .ok error := by
  cases outcome with
  | result _ noError =>
      rw [Datum.member?, present] at noError
      cases noError
  | error present' coded word worded _ =>
      rw [Datum.member?, present] at present'
      cases present'
      have orderedError := ordered.each (ordered.names.find?_eq_some_iff.mp present)
      cases orderedError with
      | record names _ => exact decode_error names coded word.2 worded
      | _ => cases coded

/-- Members of a response other than its identifier are read, whatever they are. -/
theorem assign_of_ne_id (ordered : (Datum.record members).Ordered)
    (outcome : HasOutcome (.record members)) {member : String × Datum} (mem : member ∈ members)
    {field : Schema.Member Response} (known : field ∈ Response.fields)
    (sameName : field.name = member.1) (other : field.name ≠ "id") (before : Response) :
    ∃ after, field.assign .json member.2 before = .ok after ∧ after.id = before.id := by
  simp only [Response.fields, List.mem_cons, List.not_mem_nil, or_false] at known
  rcases known with rfl | rfl | rfl
  · exact absurd rfl other
  · have reads : ∃ result, Schema.optional (fun _ datum => .ok datum) .json member.2 = .ok result :=
      Schema.optional_reads ⟨member.2, rfl⟩
    rcases reads with ⟨result, read⟩
    exact ⟨_, Schema.map_eq_ok_iff.mpr ⟨result, read, rfl⟩, rfl⟩
  · have present : members.find? "error" = some member.2 := by
      rw [show "error" = member.1 from sameName]
      exact ordered.names.find?_eq_some_iff.mpr mem
    rcases Schema.optional_reads (decode_error_of_outcome ordered outcome present) with
      ⟨error, read⟩
    exact ⟨_, Schema.map_eq_ok_iff.mpr ⟨error, read, rfl⟩, rfl⟩

/-- The field `id` of a response takes an integer or null. -/
theorem assign_of_id {field : Schema.Member Response} (known : field ∈ Response.fields)
    (isId : field.name = "id") (datum : Datum) (before : Response) :
    field.assign .json datum before =
      (Schema.optional Schema.integer .json datum).map fun id => { before with id } := by
  simp only [Response.fields, List.mem_cons, List.not_mem_nil, or_false] at known
  rcases known with rfl | rfl | rfl
  · rfl
  · exact absurd isId (by decide)
  · exact absurd isId (by decide)

/-- A response whose identifier is no text is read, and its identifier with it. -/
theorem decode_of_identifier {own : Int} (ordered : (Datum.record members).Ordered)
    (outcome : HasOutcome (.record members)) {id : Datum}
    (identified : members.find? "id" = some id) (legal : Identifier id) (foreign : id ≠ .integer own)
    (notText : ∀ written, id ≠ .text written) :
    ∃ response, Response.decode .json (.record members) = .ok response ∧
      response.id ≠ some own := by
  have readId : ∃ number : Option Int, Schema.optional Schema.integer .json id = .ok number ∧
      number ≠ some own := by
    cases legal with
    | null => exact ⟨none, rfl, nofun⟩
    | text written => exact absurd rfl (notText written)
    | @number value word =>
        refine ⟨some value, Schema.map_eq_ok_iff.mpr ⟨value, integer_of_isWord word, rfl⟩, ?_⟩
        rintro same
        cases same
        exact foreign rfl
  rcases readId with ⟨number, read, other⟩
  refine Schema.overlayKnown_attains (fun response : Response => response.id ≠ some own) ?_
    (.inl nofun)
  intro member mem field known sameName before
  by_cases isId : field.name = "id"
  · rw [eq_of_mem ordered.names mem identified (isId ▸ sameName), assign_of_id known isId, read]
    exact ⟨_, rfl, fun _ => other⟩
  · rcases assign_of_ne_id ordered outcome mem known sameName isId before with
      ⟨after, assigned, same⟩
    exact ⟨after, assigned, fun holds => same ▸ holds⟩

/-- A response whose identifier is a text is refused. -/
theorem decode_of_textual (ordered : (Datum.record members).Ordered)
    (outcome : HasOutcome (.record members)) {written : String}
    (identified : members.find? "id" = some (.text written)) :
    Response.decode .json (.record members) = .error (.wrongType (.text written) .integer) := by
  have refuses (field : Schema.Member Response) (known : field ∈ Response.fields)
      (isId : field.name = "id") (before : Response) :
      field.assign .json (.text written) before = .error (.wrongType (.text written) .integer) := by
    rw [assign_of_id known isId]
    rfl
  have present : ("id", .text written) ∈ members := ordered.names.find?_eq_some_iff.mp identified
  show Schema.overlayKnown .json Response.fields members {} = _
  refine Schema.overlayKnown_refuses ?_
    ⟨_, present, _, rfl, refuses _ (List.mem_cons_self ..) rfl⟩
  intro member mem field known sameName before
  by_cases isId : field.name = "id"
  · right
    rw [eq_of_mem ordered.names mem identified (isId ▸ sameName)]
    exact refuses field known isId before
  · left
    rcases assign_of_ne_id ordered outcome mem known sameName isId before with
      ⟨after, assigned, -⟩
    exact ⟨after, assigned⟩

/-! ### Sorting unrelated messages -/

variable {own : Int} {message : Datum}

theorem exists_record_of_member? {name : String} {value : Datum}
    (found : message.member? name = some value) : ∃ members, message = .record members := by
  cases message with
  | record members => exact ⟨members, rfl⟩
  | _ => cases found

theorem ofDatum_of_textualId?_eq_none (ordered : message.Ordered) (unrelated : Unrelated own message)
    (notText : textualId? message = none) :
    ∃ incoming, ofDatum message = .ok incoming ∧
      ∀ response, incoming = .response response → response.id ≠ some own := by
  cases unrelated with
  | call version called =>
      rcases exists_record_of_member? called with ⟨members, rfl⟩
      rcases ofMembers_of_method ordered.names called with ⟨incoming, sorted, noResponse⟩
      refine ⟨incoming, ?_, fun response same => absurd same (noResponse response)⟩
      rw [← sorted, ofDatum, show Members.find? "method" members = _ from called]
  | @response id version noCall identified legal foreign outcome =>
      rcases exists_record_of_member? identified with ⟨members, rfl⟩
      have notTextual : ∀ written, id ≠ .text written := by
        rintro written rfl
        rw [textualId?, noCall, identified] at notText
        cases notText
      rcases decode_of_identifier ordered outcome identified legal foreign notTextual with
        ⟨response, read, other⟩
      refine ⟨.response response, ?_, ?_⟩
      · rw [ofDatum, show Members.find? "method" members = _ from noCall]
        exact Schema.map_eq_ok_iff.mpr ⟨response, read, rfl⟩
      · rintro _ ⟨⟩
        exact other

theorem ofDatum_of_textualId?_eq_some (ordered : message.Ordered)
    (unrelated : Unrelated own message) {written : String}
    (textual : textualId? message = some written) :
    ofDatum message = .error (.wrongType (.text written) .integer) := by
  unfold textualId? at textual
  split at textual
  next text noCall identified =>
    cases textual
    cases unrelated with
    | call version called =>
        rw [noCall] at called
        cases called
    | response version _ _ legal foreign outcome =>
        rcases exists_record_of_member? identified with ⟨members, rfl⟩
        rw [ofDatum, show Members.find? "method" members = _ from noCall]
        simp only [decode_of_textual ordered outcome identified]
        rfl
  · cases textual

end Record

end EditorSession.Incoming
