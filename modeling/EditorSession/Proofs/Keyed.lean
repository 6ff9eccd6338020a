import EditorSession.Keyed
import Mathlib.Data.List.Nodup
import Mathlib.Data.List.Perm.Subperm

/-!
# Looking values up in keyed collections

What `get?` finds after each change of a collection, and how the values of a collection are counted.
All of it rests on `get?_eq_some_iff`: since keys are distinct, a value is found for a key exactly
when the pair of them is an entry.
-/

namespace EditorSession.Keyed

variable {κ ι α β : Type}

section Lookup

variable [DecidableEq κ]

/-- An entry among entries with distinct keys is the one that its key finds. -/
theorem find?_eq_some_of_mem {entries : List (κ × α)} {key : κ} {value : α}
    (distinct : (entries.map Prod.fst).Nodup) (entryMem : (key, value) ∈ entries) :
    entries.find? (fun entry => entry.1 = key) = some (key, value) := by
  have present : (entries.find? fun entry => entry.1 = key).isSome :=
    List.find?_isSome.mpr ⟨_, entryMem, by simp⟩
  rcases Option.isSome_iff_exists.mp present with ⟨entry, located⟩
  have sameKey : entry.1 = key := by simpa using List.find?_some located
  rw [located, List.inj_on_of_nodup_map distinct (List.mem_of_find?_eq_some located) entryMem
    sameKey]

theorem get?_eq_some_iff {keyed : Keyed κ α} {key : κ} {value : α} :
    keyed.get? key = some value ↔ (key, value) ∈ keyed.entries := by
  constructor
  · intro found
    simp only [get?, Option.map_eq_some_iff] at found
    rcases found with ⟨entry, located, rfl⟩
    have same : entry.1 = key := by simpa using List.find?_some located
    exact same ▸ List.mem_of_find?_eq_some located
  · intro entryMem
    simp [get?, find?_eq_some_of_mem keyed.distinct entryMem]

@[simp]
theorem get?_empty (key : κ) : (empty : Keyed κ α).get? key = none := rfl

theorem get?_erase (keyed : Keyed κ α) (key other : κ) :
    (keyed.erase key).get? other = if other = key then none else keyed.get? other := by
  apply Option.ext
  intro value
  rw [get?_eq_some_iff]
  by_cases same : other = key
  · simp [erase, same]
  · simp [erase, same, get?_eq_some_iff]

theorem get?_put (keyed : Keyed κ α) (key other : κ) (value : α) :
    (keyed.put key value).get? other = if other = key then some value else keyed.get? other := by
  apply Option.ext
  intro found
  rw [get?_eq_some_iff]
  by_cases same : other = key
  · simp [put, erase, same, eq_comm]
  · simp [put, erase, same, get?_eq_some_iff]

theorem get?_modify (keyed : Keyed κ α) (key other : κ) (change : α → α) :
    (keyed.modify key change).get? other =
      if other = key then (keyed.get? key).map change else keyed.get? other := by
  apply Option.ext
  intro found
  rw [get?_eq_some_iff]
  by_cases same : other = key
  · subst same
    simp only [modify, List.mem_map, ↓reduceIte, Option.map_eq_some_iff, get?_eq_some_iff]
    constructor
    · rintro ⟨entry, entryMem, changed⟩
      by_cases hit : entry.1 = other
      · simp only [hit, ↓reduceIte, Prod.mk.injEq, true_and] at changed
        exact ⟨entry.2, hit ▸ entryMem, changed⟩
      · simp only [hit, ↓reduceIte] at changed
        exact absurd (by rw [changed]) hit
    · rintro ⟨value, entryMem, changed⟩
      exact ⟨(other, value), entryMem, by simp [changed]⟩
  · simp only [modify, List.mem_map, same, ↓reduceIte, get?_eq_some_iff]
    constructor
    · rintro ⟨entry, entryMem, kept⟩
      by_cases hit : entry.1 = key
      · simp only [hit, ↓reduceIte, Prod.mk.injEq] at kept
        exact absurd kept.1.symm same
      · simp only [hit, ↓reduceIte] at kept
        exact kept ▸ entryMem
    · intro entryMem
      exact ⟨(other, found), entryMem, by simp [same]⟩

theorem entries_erase_of_absent {keyed : Keyed κ α} {key : κ} (absent : keyed.get? key = none) :
    (keyed.erase key).entries = keyed.entries := by
  apply List.filter_eq_self.mpr
  intro entry entryMem
  have apart : entry.1 ≠ key := by
    rintro rfl
    rw [get?_eq_some_iff.mpr entryMem] at absent
    cases absent
  simpa using apart

theorem entries_perm_of_found {keyed : Keyed κ α} {key : κ} {value : α}
    (found : keyed.get? key = some value) :
    keyed.entries.Perm ((key, value) :: (keyed.erase key).entries) := by
  have fresh : (key, value) ∉ (keyed.erase key).entries := by simp [erase]
  rw [List.perm_ext_iff_of_nodup (List.Nodup.of_map _ keyed.distinct)
    (List.nodup_cons.mpr ⟨fresh, List.Nodup.of_map _ (keyed.erase key).distinct⟩)]
  rintro ⟨other, value'⟩
  by_cases same : other = key
  · subst same
    simp only [← get?_eq_some_iff, found, Option.some.injEq, List.mem_cons, Prod.mk.injEq,
      true_and, get?_erase, ↓reduceIte, reduceCtorEq, or_false]
    exact eq_comm
  · simp [erase, same]

theorem entries_put_perm (keyed : Keyed κ α) (key : κ) (value : α) :
    (keyed.put key value).entries.Perm ((key, value) :: (keyed.erase key).entries) :=
  List.perm_append_comm

theorem mem_values_iff {keyed : Keyed κ α} {value : α} :
    value ∈ keyed.values ↔ ∃ key, keyed.get? key = some value := by
  simp [values, get?_eq_some_iff]

end Lookup

theorem countP_values (keyed : Keyed κ α) (chosen : α → Bool) :
    keyed.values.countP chosen = (keyed.entries.filter fun entry => chosen entry.2).length := by
  rw [values, List.countP_map, List.countP_eq_length_filter]
  rfl

/-- There are no more chosen values than before when each of them has the key of one that was
chosen before. -/
theorem countP_values_le [DecidableEq κ] {before : Keyed κ α} {after : Keyed κ β}
    {chosen : α → Bool} {chosen' : β → Bool}
    (kept : ∀ {key value}, after.get? key = some value → chosen' value →
      ∃ former, before.get? key = some former ∧ chosen former) :
    after.values.countP chosen' ≤ before.values.countP chosen := by
  have distinct : ((after.entries.filter fun entry => chosen' entry.2).map Prod.fst).Nodup :=
    after.distinct.sublist (List.filter_sublist.map Prod.fst)
  have inside : (after.entries.filter fun entry => chosen' entry.2).map Prod.fst ⊆
      (before.entries.filter fun entry => chosen entry.2).map Prod.fst := by
    intro key keyMem
    rcases List.mem_map.mp keyMem with ⟨entry, entryMem, rfl⟩
    rcases List.mem_filter.mp entryMem with ⟨entryMem, isChosen⟩
    rcases kept (get?_eq_some_iff.mpr entryMem) isChosen with ⟨former, found, wasChosen⟩
    exact List.mem_map.mpr ⟨(entry.1, former),
      List.mem_filter.mpr ⟨get?_eq_some_iff.mp found, wasChosen⟩, rfl⟩
  have fewer := (distinct.subperm inside).length_le
  simpa [countP_values] using fewer

/--
Two collections have equally many chosen values when the names of the chosen values of the first,
each of which belongs to one key only, are the keys of the chosen values of the second.
-/
theorem countP_values_eq [DecidableEq κ] [DecidableEq ι] {first : Keyed κ α} {second : Keyed ι β}
    {chosen : α → Bool} {chosen' : β → Bool} (name : α → ι)
    (apart : ∀ {key key' value value'}, first.get? key = some value →
      first.get? key' = some value' → name value = name value' → key = key')
    (same : ∀ id, (∃ key value, first.get? key = some value ∧ name value = id ∧ chosen value) ↔
      ∃ value, second.get? id = some value ∧ chosen' value) :
    first.values.countP chosen = second.values.countP chosen' := by
  have namesNodup : ((first.entries.filter fun entry => chosen entry.2).map
      fun entry => name entry.2).Nodup := by
    apply List.Nodup.map_on
    · intro left leftMem right rightMem sameName
      have leftFound := get?_eq_some_iff.mpr (List.mem_filter.mp leftMem).1
      have rightFound := get?_eq_some_iff.mpr (List.mem_filter.mp rightMem).1
      have sameKey : left.1 = right.1 := apart leftFound rightFound sameName
      rw [sameKey, rightFound] at leftFound
      exact Prod.ext sameKey (Option.some.inj leftFound).symm
    · exact (List.Nodup.of_map _ first.distinct).filter _
  have keysNodup : ((second.entries.filter fun entry => chosen' entry.2).map Prod.fst).Nodup :=
    second.distinct.sublist (List.filter_sublist.map Prod.fst)
  have perm : ((first.entries.filter fun entry => chosen entry.2).map
      fun entry => name entry.2).Perm
        ((second.entries.filter fun entry => chosen' entry.2).map Prod.fst) := by
    rw [List.perm_ext_iff_of_nodup namesNodup keysNodup]
    intro id
    have names := same id
    simp only [get?_eq_some_iff] at names
    simp only [List.mem_map, List.mem_filter, Prod.exists, exists_and_right, exists_eq_right]
    rw [← names]
    constructor
    · rintro ⟨key, value, ⟨entryMem, isChosen⟩, named⟩
      exact ⟨key, value, entryMem, named, isChosen⟩
    · rintro ⟨key, value, entryMem, named, isChosen⟩
      exact ⟨key, value, ⟨entryMem, isChosen⟩, named⟩
  simpa [countP_values] using perm.length_eq

end EditorSession.Keyed
