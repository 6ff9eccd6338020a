import EditorSession.Proofs.Session.Conduct
import Mathlib.Logic.Equiv.Fintype

/-!
# Renaming the sessions of one run to those of another

Two runs that start as many sessions for every scope may give them other numbers, since all scopes
draw them from one counter. Then a permutation of all numbers takes the first, second, … session of
each scope in the one run to that in the other (`exists_renaming`).
-/

namespace EditorSession.Transport

/-- A place among the sessions of a scope. -/
structure Place (calls : List Call) where
  scope : Scope
  index : Nat
  within : index < (sessionsOf calls scope).length

section Places

variable {calls : List Call}

/-- The session at a place. -/
def Place.session (place : Place calls) : SessionId :=
  (sessionsOf calls place.scope).get ⟨place.index, place.within⟩

theorem mem_startedSessions_iff {session : SessionId} :
    session ∈ startedSessions calls ↔ ∃ scope, session ∈ sessionsOf calls scope := by
  constructor
  · intro mem
    simp only [startedSessions, List.mem_map, List.mem_filterMap] at mem
    rcases mem with ⟨request, ⟨call, callMem, begun⟩, rfl⟩
    cases call with
    | started request' answer =>
        cases begun
        exact ⟨_, mem_sessionsOf_iff.mpr ⟨request, answer, callMem, rfl, rfl⟩⟩
    | polled completions => cases begun
    | stopped session => cases begun
  · rintro ⟨scope, mem⟩
    exact (sessionsOf_sublist calls scope).subset mem

theorem Place.session_injective (distinct : (startedSessions calls).Nodup) :
    Function.Injective fun place : Place calls => place.session := by
  rintro ⟨scope, index, within⟩ ⟨other, otherIndex, otherWithin⟩ same
  have own : (sessionsOf calls scope)[index] ∈ sessionsOf calls scope := List.getElem_mem _
  have owned : (sessionsOf calls scope)[index] ∈ sessionsOf calls other := by
    have same : (sessionsOf calls scope)[index] = (sessionsOf calls other)[otherIndex] := same
    rw [same]
    exact List.getElem_mem _
  have sameScope : scope = other := scope_unique distinct own owned
  subst sameScope
  have nodup : (sessionsOf calls scope).Nodup := distinct.sublist (sessionsOf_sublist calls scope)
  have sameIndex : index = otherIndex := nodup.getElem_inj_iff.mp same
  subst sameIndex
  rfl

theorem Place.finite (distinct : (startedSessions calls).Nodup) : Finite (Place calls) := by
  have started (place : Place calls) : place.session ∈ startedSessions calls :=
    mem_startedSessions_iff.mpr ⟨place.scope, List.getElem_mem _⟩
  let locate (place : Place calls) : { session // session ∈ startedSessions calls } :=
    ⟨place.session, started place⟩
  have locate_injective : Function.Injective locate := by
    intro place other same
    exact Place.session_injective distinct (congrArg Subtype.val same)
  exact Finite.of_injective locate locate_injective

end Places

/-- If two runs start as many sessions for every scope, their sessions differ in their numbers
only. -/
theorem exists_renaming {first second : List Call} (distinct : (startedSessions first).Nodup)
    (distinctToo : (startedSessions second).Nodup)
    (same : ∀ scope, (sessionsOf first scope).length = (sessionsOf second scope).length) :
    ∃ renumber : Equiv.Perm SessionId,
      ∀ scope, sessionsOf second scope = (sessionsOf first scope).map renumber := by
  have := Place.finite distinct
  let counterpart (place : Place first) : Place second :=
    ⟨place.scope, place.index, same place.scope ▸ place.within⟩
  have counterpart_injective : Function.Injective counterpart := by
    rintro ⟨scope, index, within⟩ ⟨other, otherIndex, otherWithin⟩ equal
    cases equal
    rfl
  -- Two injective assignments of numbers to finitely many places differ by a permutation.
  rcases Equiv.Perm.exists_extending_pair Place.session (fun place => (counterpart place).session)
    (Place.session_injective distinct)
    ((Place.session_injective distinctToo).comp counterpart_injective) with ⟨renumber, carries⟩
  refine ⟨renumber, fun scope => List.ext_getElem (by simp [same]) fun index within _ => ?_⟩
  rw [List.getElem_map]
  exact (carries ⟨scope, index, same scope ▸ within⟩).symm

/-- The sessions of all scopes together are the same under the other numbers. -/
theorem startedSessions_perm {first second : List Call} (distinct : (startedSessions first).Nodup)
    (distinctToo : (startedSessions second).Nodup) {renumber : Equiv.Perm SessionId}
    (carries : ∀ scope, sessionsOf second scope = (sessionsOf first scope).map renumber) :
    (startedSessions second).Perm ((startedSessions first).map renumber) := by
  refine (List.perm_ext_iff_of_nodup distinctToo (distinct.map renumber.injective)).mpr ?_
  intro session
  rw [mem_startedSessions_iff, List.mem_map]
  constructor
  · rintro ⟨scope, mem⟩
    rw [carries, List.mem_map] at mem
    rcases mem with ⟨former, formerMem, rfl⟩
    exact ⟨former, mem_startedSessions_iff.mpr ⟨scope, formerMem⟩, rfl⟩
  · rintro ⟨former, formerMem, rfl⟩
    rcases mem_startedSessions_iff.mp formerMem with ⟨scope, mem⟩
    exact ⟨scope, carries scope ▸ List.mem_map_of_mem mem⟩

end EditorSession.Transport
