import EditorSession.Path
import Mathlib.Data.List.TakeWhile

/-!
# File names and their extensions

The names that a path is made of hold no slash, and a path without one is a single name. An
extension is what stands after the last point of a name, if something stands before it
(`extensionOf?_eq_some_iff`). So the extensions that file names have at all are those without a
point and without a slash (`exists_extension?_iff`).
-/

namespace EditorSession.Path

variable {path segment name ending : Octets}

/-! ### Segments -/

theorem segments_cons (octet : UInt8) (path : Octets) :
    ∃ first others, segments path = first :: others ∧
      segments (octet :: path) =
        if octet = slash then [] :: first :: others else (octet :: first) :: others := by
  have some_segment : ∃ first others, segments path = first :: others := by
    cases path with
    | nil => exact ⟨_, _, rfl⟩
    | cons octet path =>
        rw [segments]
        split
        · exact ⟨_, _, rfl⟩
        · split <;> exact ⟨_, _, rfl⟩
  rcases some_segment with ⟨first, others, segmented⟩
  refine ⟨first, others, segmented, ?_⟩
  rw [segments, segmented]

theorem slash_not_mem_of_mem_segments (mem : segment ∈ segments path) : slash ∉ segment := by
  induction path generalizing segment with
  | nil =>
      rw [segments, List.mem_singleton] at mem
      simp [mem]
  | cons octet path ih =>
      rcases segments_cons octet path with ⟨first, others, segmented, next⟩
      rw [segmented] at ih
      rw [next] at mem
      split at mem
      · rcases List.mem_cons.mp mem with rfl | mem
        · simp
        · exact ih mem
      next notSlash =>
        rcases List.mem_cons.mp mem with rfl | mem
        · have inside := @ih first (List.mem_cons_self ..)
          simp [inside, Ne.symm notSlash]
        · exact ih (List.mem_cons_of_mem _ mem)

theorem segments_of_slash_not_mem (noSlash : slash ∉ path) : segments path = [path] := by
  induction path with
  | nil => rfl
  | cons octet path ih =>
      rw [List.mem_cons, not_or] at noSlash
      rw [segments, ih noSlash.2, if_neg (Ne.symm noSlash.1)]

/-! ### File names -/

theorem eq_of_partOf? (part : partOf? segment = some (.name name)) : name = segment := by
  unfold partOf? at part
  split at part
  · cases part
  split at part
  · cases part
  · cases part
    rfl

theorem mem_segments_of_mem_parts (mem : .name name ∈ parts path) : name ∈ segments path := by
  unfold parts at mem
  split at mem
  · cases mem
  next first rest segmented =>
    rw [segmented]
    rcases List.mem_append.mp mem with start | later
    · have own : partOf? first = some (.name name) := by
        split at start
        · split at start <;> simp at start
        · split at start
          · simp at start
          · exact Option.mem_toList.mp start
      rw [eq_of_partOf? own]
      exact List.mem_cons_self ..
    · rcases List.mem_filterMap.mp later with ⟨segment, segmentMem, part⟩
      rw [eq_of_partOf? part]
      exact List.mem_cons_of_mem _ segmentMem

theorem slash_not_mem_of_fileName? (named : fileName? path = some name) : slash ∉ name := by
  unfold fileName? at named
  split at named
  next octets last =>
    cases named
    exact slash_not_mem_of_mem_segments (mem_segments_of_mem_parts (List.mem_of_getLast? last))
  · cases named

theorem fileName?_of_slash_not_mem (noSlash : slash ∉ path)
    (part : partOf? path = some (.name path)) : fileName? path = some path := by
  have notEmpty : path ≠ [] := by
    rintro rfl
    cases part
  have notHere : path ≠ [point] := by
    rintro rfl
    cases part
  have only : parts path = [.name path] := by
    simp [parts, segments_of_slash_not_mem noSlash, notEmpty, notHere, part]
  rw [fileName?, only]
  rfl

/-! ### Extensions -/

/-- The extension of a name is what stands after its last point, if that is not the first octet. -/
theorem extensionOf?_eq_some_iff :
    extensionOf? name = some ending ↔
      ∃ stem, stem ≠ [] ∧ name = stem ++ point :: ending ∧ point ∉ ending := by
  constructor
  · intro found
    have whole : name.reverse.takeWhile (· ≠ point) ++ name.reverse.dropWhile (· ≠ point) =
        name.reverse := List.takeWhile_append_dropWhile
    unfold extensionOf? at found
    dsimp only at found
    split at found
    · cases found
    · cases found
    next notEmpty notSingle =>
      cases found
      cases dropped : name.reverse.dropWhile (· ≠ point) with
      | nil => exact absurd dropped notEmpty
      | cons first stem =>
          have isPoint : first = point := by
            have stops := List.head?_dropWhile_not (· ≠ point) name.reverse
            rw [dropped] at stops
            simpa using stops
          have someStem : stem ≠ [] := by
            rintro rfl
            exact notSingle first dropped
          refine ⟨stem.reverse, by simpa using someStem, ?_, ?_⟩
          · rw [dropped, isPoint] at whole
            have back := congrArg List.reverse whole
            simpa using back.symm
          · intro mem
            have before := List.mem_takeWhile_imp (List.mem_reverse.mp mem)
            simp at before
  · rintro ⟨stem, someStem, rfl, noPoint⟩
    have inside : ∀ octet ∈ ending.reverse, decide (octet ≠ point) = true := by
      intro octet mem
      rw [decide_eq_true_eq]
      rintro rfl
      exact noPoint (List.mem_reverse.mp mem)
    have turned : (stem ++ point :: ending).reverse = ending.reverse ++ point :: stem.reverse := by
      simp
    unfold extensionOf?
    dsimp only
    rw [turned, List.dropWhile_append_of_pos inside, List.takeWhile_append_of_pos inside]
    cases before : stem.reverse with
    | nil => exact absurd (List.reverse_eq_nil_iff.mp before) someStem
    | cons last others => simp

/-- The endings of names that are extensions of some file. -/
theorem exists_extension?_iff :
    (∃ path, extension? path = some ending) ↔ point ∉ ending ∧ slash ∉ ending := by
  constructor
  · rintro ⟨path, found⟩
    rcases Option.bind_eq_some_iff.mp found with ⟨name, named, found⟩
    rcases extensionOf?_eq_some_iff.mp found with ⟨stem, -, rfl, noPoint⟩
    have noSlash := slash_not_mem_of_fileName? named
    exact ⟨noPoint, fun mem => noSlash (by simp [mem])⟩
  · rintro ⟨noPoint, noSlash⟩
    -- Any stem will do that is not made of points alone.
    let path : Octets := [0x61] ++ point :: ending
    have part : partOf? path = some (.name path) := by
      simp [partOf?, path, point]
    have inside : slash ∉ path := by
      simp only [path, List.mem_append, List.mem_cons, noSlash, or_false]
      decide
    refine ⟨path, Option.bind_eq_some_iff.mpr ⟨path, fileName?_of_slash_not_mem inside part, ?_⟩⟩
    exact extensionOf?_eq_some_iff.mpr ⟨[0x61], by simp, rfl, noPoint⟩

end EditorSession.Path
