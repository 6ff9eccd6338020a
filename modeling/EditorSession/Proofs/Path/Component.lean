import EditorSession.Proofs.Path
import Mathlib.Data.List.DropRight

/-!
# The last component of a path

The file name of a path can be read off its octets: cut the path at its slashes, drop what is empty
or a single point from the end, and take the last component that is left, unless it is two points
(`fileName?_eq_some_iff`). How the path starts does not matter for that, though a root and a point at
the very start are parts of it.
-/

namespace EditorSession.Path

/-- Whether a component at the end of a path stands for nothing. -/
def isVoid (component : Octets) : Bool := component = [] || component = [point]

/-- The last component of a path that stands for something. -/
def lastComponent? (path : Octets) : Option Octets :=
  ((path.splitOn slash).rdropWhile isVoid).getLast?

variable {path segment name ending : Octets}

theorem segments_eq_splitOn (path : Octets) : segments path = path.splitOn slash := by
  induction path with
  | nil => rfl
  | cons octet path ih =>
      rcases segments_cons octet path with ⟨first, others, segmented, next⟩
      rw [next, List.splitOn_cons_eq_if_modifyHead, ← ih, segmented]
      simp

theorem partOf?_eq_some_name_iff :
    partOf? segment = some (.name name) ↔
      segment = name ∧ isVoid segment = false ∧ segment ≠ [point, point] := by
  unfold partOf? isVoid
  split
  next void =>
    rcases void with rfl | rfl <;> simp
  next filled =>
    rw [not_or] at filled
    split
    next parent => simp [parent]
    next other => simp [filled, other]

theorem partOf?_eq_none_iff : partOf? segment = none ↔ isVoid segment = true := by
  unfold partOf? isVoid
  split
  next void => simpa using void
  next filled => split <;> simpa using filled

/-- The last part among segments comes from the last of them that stands for something. -/
theorem getLast?_filterMap_partOf? (segments : List Octets) :
    (segments.filterMap partOf?).getLast? = (segments.rdropWhile isVoid).getLast?.bind partOf? := by
  induction segments using List.reverseRecOn with
  | nil => rfl
  | append_singleton segments last ih =>
      cases part : partOf? last with
      | none =>
          have void := partOf?_eq_none_iff.mp part
          rw [List.rdropWhile_concat_pos _ _ _ void, ← ih]
          simp [part]
      | some own =>
          have filled : ¬isVoid last = true := by
            rw [← partOf?_eq_none_iff, part]
            nofun
          rw [List.rdropWhile_concat_neg _ _ _ filled]
          simp [part]

/-- The start of a path counts as a name if it is one, and never instead of one. -/
theorem getLast?_parts_eq_some_name_iff :
    (parts path).getLast? = some (.name name) ↔
      ((segments path).filterMap partOf?).getLast? = some (.name name) := by
  unfold parts
  split
  next empty => simp [empty]
  next first rest segmented =>
    let start : List Part :=
      if first = [] then (if rest.isEmpty then [] else [.root])
      else if first = [point] then [.here]
      else (partOf? first).toList
    have start_iff : start.getLast? = some (.name name) ↔
        (partOf? first).toList.getLast? = some (.name name) := by
      by_cases empty : first = []
      · by_cases only : rest.isEmpty = true <;> simp [start, partOf?, empty, only]
      · by_cases single : first = [point] <;> simp [start, partOf?, empty, single]
    have whole : (first :: rest).filterMap partOf? =
        (partOf? first).toList ++ rest.filterMap partOf? := by
      cases part : partOf? first <;> simp [part]
    rw [segmented, whole, List.getLast?_append, List.getLast?_append]
    cases (rest.filterMap partOf?).getLast? with
    | none => exact start_iff
    | some last => exact Iff.rfl

theorem fileName?_eq_some_iff :
    fileName? path = some name ↔ lastComponent? path = some name ∧ name ≠ [point, point] := by
  have last : fileName? path = some name ↔ (parts path).getLast? = some (.name name) := by
    unfold fileName?
    split
    next octets found => simp [found]
    next other => simpa using other name
  rw [last, getLast?_parts_eq_some_name_iff, getLast?_filterMap_partOf?, segments_eq_splitOn,
    Option.bind_eq_some_iff]
  constructor
  · rintro ⟨component, found, part⟩
    rcases partOf?_eq_some_name_iff.mp part with ⟨rfl, -, notParent⟩
    exact ⟨found, notParent⟩
  · rintro ⟨found, notParent⟩
    refine ⟨name, found, partOf?_eq_some_name_iff.mpr ⟨rfl, ?_, notParent⟩⟩
    -- What is left at the end stands for something.
    rcases List.getLast?_eq_some_iff.mp found with ⟨before, kept⟩
    have stops := List.rdropWhile_last_not isVoid (path.splitOn slash) (by simp [kept])
    simpa [kept] using stops

end EditorSession.Path
