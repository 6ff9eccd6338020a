/-!
# Keyed collections

A collection that holds at most one value for each key. The keys are distinct by construction, so a
value is found in one way only; the order, in which values came in, is for listings.
-/

namespace EditorSession

/-- Values by keys. -/
structure Keyed (κ α : Type) where
  entries : List (κ × α)
  distinct : (entries.map Prod.fst).Nodup

namespace Keyed

variable {κ α : Type}

/-- No value at all. -/
def empty : Keyed κ α := ⟨[], by simp⟩

instance : Inhabited (Keyed κ α) := ⟨empty⟩

/-- The keys that have a value. -/
def keys (keyed : Keyed κ α) : List κ := keyed.entries.map Prod.fst

/-- The values. -/
def values (keyed : Keyed κ α) : List α := keyed.entries.map Prod.snd

/-- The number of values. -/
def size (keyed : Keyed κ α) : Nat := keyed.entries.length

variable [DecidableEq κ]

/-- The value of a key. -/
def get? (keyed : Keyed κ α) (key : κ) : Option α :=
  (keyed.entries.find? fun entry => entry.1 = key).map Prod.snd

/-- The collection without a key. -/
def erase (keyed : Keyed κ α) (key : κ) : Keyed κ α where
  entries := keyed.entries.filter fun entry => entry.1 ≠ key
  distinct := keyed.distinct.sublist (List.filter_sublist.map Prod.fst)

/-- The collection with a value for a key, in the place of the one it had. -/
def put (keyed : Keyed κ α) (key : κ) (value : α) : Keyed κ α where
  entries := (keyed.erase key).entries ++ [(key, value)]
  distinct := by
    rw [List.map_append, List.nodup_append]
    refine ⟨(keyed.erase key).distinct, by simp, ?_⟩
    intro first hfirst second hsecond
    simp only [List.map_cons, List.map_nil, List.mem_singleton] at hsecond
    simp only [erase, List.mem_map, List.mem_filter, decide_eq_true_eq] at hfirst
    obtain ⟨entry, ⟨-, hne⟩, rfl⟩ := hfirst
    exact hsecond ▸ hne

/-- The collection with the value of a key changed, if it has one. -/
def modify (keyed : Keyed κ α) (key : κ) (change : α → α) : Keyed κ α where
  entries := keyed.entries.map fun entry =>
    if entry.1 = key then (entry.1, change entry.2) else entry
  distinct := by
    have hkeys : (keyed.entries.map fun entry =>
        if entry.1 = key then (entry.1, change entry.2) else entry).map Prod.fst
        = keyed.entries.map Prod.fst := by
      rw [List.map_map]
      apply List.map_congr_left
      intro entry _
      by_cases h : entry.1 = key <;> simp [h]
    rw [hkeys]
    exact keyed.distinct

end Keyed

end EditorSession
