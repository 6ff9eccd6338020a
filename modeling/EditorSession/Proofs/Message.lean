import EditorSession.Message
import EditorSession.Proofs.Schema

/-!
# Messages of a conversation

What is known of a response once it was read: it never carries a result of null, since that is read
as no result; and the payload that it was read from has no method (`Incoming.decode_of_parse`).
-/

namespace EditorSession

open Schema (Dialect)

namespace Response

/-- If there is a result, it is not null. -/
def Meaningful (response : Response) : Prop := response.result ≠ some .null

theorem fields_keep_meaningful : ∀ field ∈ fields, field.Keeps Meaningful := by
  intro field mem
  simp only [fields, List.mem_cons, List.not_mem_nil, or_false] at mem
  rcases mem with rfl | rfl | rfl
  · intro dialect datum before after holds assigned
    rcases Schema.map_eq_ok_iff.mp assigned with ⟨id, -, rfl⟩
    exact holds
  · intro dialect datum before after _ assigned
    rcases Schema.map_eq_ok_iff.mp assigned with ⟨result, read, rfl⟩
    show result ≠ some .null
    rintro rfl
    cases datum <;> cases read
  · intro dialect datum before after holds assigned
    rcases Schema.map_eq_ok_iff.mp assigned with ⟨error, -, rfl⟩
    exact holds

theorem meaningful_of_decode {dialect : Dialect} {datum : Datum} {response : Response}
    (decoded : decode dialect datum = .ok response) : response.Meaningful := by
  have start : Meaningful {} := by simp [Meaningful]
  unfold decode at decoded
  split at decoded
  · exact Schema.overlayKnown_keeps fields_keep_meaningful start decoded
  · cases decoded
  · rcases Schema.bind_eq_ok_iff.mp decoded with ⟨laid, items, last⟩
    split at last
    · cases last
    · cases last
      exact Schema.overlayItems_keeps fields_keep_meaningful start items
  · cases decoded

end Response

namespace Incoming

/-- A payload that is sorted as a response has no method and is read as one. -/
theorem decode_of_parse {payload : List Char} {response : Response}
    (parsed : parse payload = .ok (.response response)) :
    ∃ datum, Json.read payload = some datum ∧ datum.member? "method" = none ∧
      Response.decode .json datum = .ok response := by
  unfold parse at parsed
  split at parsed
  · cases parsed
  next datum denotes =>
    refine ⟨datum, denotes, ?_⟩
    cases sorted : ofDatum datum with
    | error mismatch =>
        rw [sorted] at parsed
        cases parsed
    | ok incoming =>
        rw [sorted] at parsed
        cases parsed
        unfold ofDatum at sorted
        split at sorted
        · split at sorted
          · rcases Schema.bind_eq_ok_iff.mp sorted with ⟨draft, -, sorted⟩
            rcases Schema.bind_eq_ok_iff.mp sorted with ⟨method, -, sorted⟩
            split at sorted <;> cases sorted
          next noMethod =>
            rcases Schema.map_eq_ok_iff.mp sorted with ⟨read, decoded, same⟩
            cases same
            exact ⟨noMethod, decoded⟩
        next noRecord =>
          rcases Schema.map_eq_ok_iff.mp sorted with ⟨read, decoded, same⟩
          cases same
          refine ⟨?_, decoded⟩
          cases datum with
          | record members => exact absurd rfl (noRecord members)
          | _ => rfl

theorem meaningful_of_parse {payload : List Char} {response : Response}
    (parsed : parse payload = .ok (.response response)) : response.Meaningful := by
  rcases decode_of_parse parsed with ⟨datum, -, -, decoded⟩
  exact Response.meaningful_of_decode decoded

end Incoming

end EditorSession
