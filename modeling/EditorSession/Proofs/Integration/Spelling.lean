import EditorSession.Proofs.Activation
import EditorSession.Proofs.Integration.Openings
import EditorSession.Proofs.Path.Component
import EditorSession.Session.Scripted

/-!
# Spellings of a path

The gate and the documents look at a path in two ways, by the extension of its file name and by its
parts. Both agree with what a reader of the octets sees: a document is admitted if and only if the
last component of its path that stands for something ends in a point and the extension, with
something before them (`Gate.admits_iff_lastComponent?`). So two spellings with the same parts are
one document in every respect: whatever is opened under one of them could have been opened under the
other, and nothing but the notes would tell (`opened_by_last_component`).
-/

namespace EditorSession

open Session (Handle Entry Progress)

namespace Gate

variable {gate : Gate} {document other : Document}

/-- A gate for an extension without a point looks at the end of the last component, and nowhere
else. -/
theorem admits_iff_lastComponent? (dotless : '.' ∉ gate.targetExtension.toList) :
    gate.admits document = true ↔ ∃ stem last,
      Path.lastComponent? document.path = some last ∧ last ≠ [Path.point, Path.point] ∧
        last = stem ++ Path.point :: Text.Utf8.ofString gate.targetExtension ∧ stem ≠ [] := by
  have noPoint : Path.point ∉ Text.Utf8.ofString gate.targetExtension := by
    rw [Text.Utf8.ofString]
    exact fun mem => dotless ((Text.Utf8.mem_encode_iff_of_ascii '.' (by decide)).mp mem)
  rw [admits_iff, Path.extension?, Option.bind_eq_some_iff]
  simp only [Path.fileName?_eq_some_iff, Path.extensionOf?_eq_some_iff]
  constructor
  · rintro ⟨last, ⟨found, notParent⟩, stem, someStem, same, -⟩
    exact ⟨stem, last, found, notParent, same, someStem⟩
  · rintro ⟨stem, last, found, notParent, same, someStem⟩
    exact ⟨last, ⟨found, notParent⟩, stem, someStem, same, noPoint⟩

-- With nothing before the point, there is no extension.
example : Gate.admits ⟨"xml"⟩ ⟨Text.Utf8.ofString "repo/.xml", none⟩ = false := by
  decide +kernel

/-- The language does not matter, nor does the spelling of the path. -/
theorem admits_eq_of_parts (same : Path.parts other.path = Path.parts document.path) :
    gate.admits other = gate.admits document := by
  simp only [admits, Document.extension?, Path.extension?, Path.fileName?, same]

end Gate

/-- A manager without its notes. -/
def Manager.silent {σ : Type} (manager : Manager σ) : Manager σ := { manager with journal := [] }

/-- An integration without its notes. -/
def Integration.silent {σ : Type} (integration : Integration σ) : Integration σ :=
  { integration with manager := integration.manager.silent }

section Silent

variable {σ : Type}

@[simp]
theorem Manager.silent_noteAll (manager : Manager σ) (notes : List Event) :
    (manager.noteAll notes).silent = manager.silent := rfl

/-- The manager never looks at its own notes. -/
theorem Manager.silent_ensureStarted (transport : Transport σ) (manager : Manager σ)
    (scope : Scope) (journal : List Event) :
    let other : Manager σ := { manager with journal }
    (other.ensureStarted transport scope).1 = (manager.ensureStarted transport scope).1 ∧
      (other.ensureStarted transport scope).2.silent =
        (manager.ensureStarted transport scope).2.silent := by
  intro other
  have sameEntry : other.entry? scope = manager.entry? scope := rfl
  have starts (idle : manager.reuse? scope = none) (idleToo : other.reuse? scope = none) :
      (other.ensureStarted transport scope).1 = (manager.ensureStarted transport scope).1 ∧
        (other.ensureStarted transport scope).2.silent =
          (manager.ensureStarted transport scope).2.silent := by
    rcases called : transport.start ((manager.enrol scope).2.request (manager.enrol scope).1)
        (manager.enrol scope).2.transport with ⟨answer, state, events⟩
    have calledToo : transport.start ((other.enrol scope).2.request (other.enrol scope).1)
        (other.enrol scope).2.transport = (answer, state, events) := called
    simp only [ensureStarted, idle, idleToo, called, calledToo]
    rcases answer with cause | outcome
    · exact ⟨rfl, rfl⟩
    · cases outcome <;> exact ⟨rfl, rfl⟩
  cases found : manager.entry? scope with
  | none => exact starts (by simp [reuse?, found]) (by simp [reuse?, sameEntry, found])
  | some entry =>
      cases live : entry.progress.isLive with
      | false =>
          exact starts (by simp [reuse?, found, live]) (by simp [reuse?, sameEntry, found, live])
      | true =>
          simp only [ensureStarted, reuse?, sameEntry, found, live, ↓reduceIte, true_and]
          rfl

namespace Integration

theorem silent_withManager {integration other : Integration σ} {manager managerToo : Manager σ}
    (same : other.silent = integration.silent) (sameManager : managerToo.silent = manager.silent) :
    (other.withManager managerToo).silent = (integration.withManager manager).silent := by
  cases other
  cases integration
  simp only [silent, mk.injEq] at same
  simp only [silent, withManager, sameManager, same]

/-- Which of two spellings is associated can be told from the notes alone. -/
theorem silent_associate {integration other : Integration σ} (handle : Handle) (scope : Scope)
    {document spelling : Document} (same : other.silent = integration.silent)
    (sameParts : Path.parts spelling.path = Path.parts document.path) :
    (other.associate handle scope spelling).silent =
      (integration.associate handle scope document).silent := by
  cases other with | mk otherGate otherManager otherDocuments
  cases integration with | mk gate manager documents
  simp only [silent, mk.injEq] at same
  rcases same with ⟨rfl, sameManager, rfl⟩
  cases found : otherDocuments.get? scope with
  | none => simp [associate, note, silent, found, sameParts, sameManager]
  | some linked =>
      by_cases own : linked.handle.id = handle.id <;>
        simp [associate, note, silent, found, own, sameParts, sameManager]

/-- The answer to an opened document and all that becomes of the integration, but for the notes, is
the same for two spellings of its path. -/
theorem documentOpened_eq_of_parts (transport : Transport σ) (integration : Integration σ)
    (scope : Scope) {document other : Document}
    (same : Path.parts other.path = Path.parts document.path) :
    (integration.documentOpened transport scope other).1 =
        (integration.documentOpened transport scope document).1 ∧
      (integration.documentOpened transport scope other).2.silent =
        (integration.documentOpened transport scope document).2.silent := by
  let consulted := (integration.consult document).2
  let consultedToo := (integration.consult other).2
  have silent : consultedToo.silent = consulted.silent := rfl
  rcases consulted.manager.silent_ensureStarted transport scope consultedToo.manager.journal with
    ⟨sameAnswer, sameManager⟩
  rw [documentOpened_eq, documentOpened_eq, Gate.admits_eq_of_parts same]
  cases integration.gate.admits document with
  | false => exact ⟨rfl, silent⟩
  | true =>
      simp only [↓reduceIte]
      cases answer : (consulted.manager.ensureStarted transport scope).1 with
      | error error =>
          have answerToo : (consultedToo.manager.ensureStarted transport scope).1 = .error error :=
            sameAnswer.trans answer
          simp only [consultedToo] at answerToo
          simp only [answerToo, true_and]
          exact silent_withManager silent sameManager
      | ok handle =>
          have answerToo : (consultedToo.manager.ensureStarted transport scope).1 = .ok handle :=
            sameAnswer.trans answer
          simp only [consultedToo] at answerToo
          simp only [answerToo, true_and]
          exact silent_associate handle scope (silent_withManager silent sameManager) same

/--
The gate decides by the last component of a path, read off its octets: a document passes if and only
if this component is not two points and ends in a point and the extension, with something before
them, whatever its language. Opening a document activates the integration if and only if it passes.
Another document whose path has the same parts is the same to the gate and to the table of documents,
and opening it instead is answered in the same way and leaves the same behind, but for the notes.
-/
theorem opened_by_last_component (transport : Transport σ) (integration : Integration σ)
    (dotless : '.' ∉ integration.gate.targetExtension.toList) (scope : Scope)
    (document : Document) :
    let opened (document : Document) := integration.documentOpened transport scope document
    (integration.gate.admits document = true ↔ ∃ stem last,
      Path.lastComponent? document.path = some last ∧ last ≠ [Path.point, Path.point] ∧
        last = stem ++ Path.point :: Text.Utf8.ofString integration.gate.targetExtension ∧
        stem ≠ []) ∧
    ((opened document).1 ≠ .ok none ↔ integration.gate.admits document = true) ∧
    ∀ other : Document, Path.parts other.path = Path.parts document.path →
      integration.gate.admits other = integration.gate.admits document ∧
      integration.sessionFor? scope other.path = integration.sessionFor? scope document.path ∧
      (opened other).1 = (opened document).1 ∧
      (opened other).2.silent = (opened document).2.silent := by
  intro opened
  refine ⟨Gate.admits_iff_lastComponent? dotless, ?_, fun other same => ?_⟩
  · rw [Ne, documentOpened_eq_none_iff, Bool.not_eq_false]
  · refine ⟨Gate.admits_eq_of_parts same, ?_, documentOpened_eq_of_parts transport _ scope same⟩
    rw [sessionFor?, sessionFor?, same]

/-- A manifest under two spellings and in two languages. -/
theorem opened_manifest :
    let integration : Integration Unit := fresh ⟨"xml"⟩ default ⟨"vuln-lsp", {}⟩ ()
    let document : Document := ⟨Text.Utf8.ofString "repo/pom.xml", none⟩
    let other : Document := ⟨Text.Utf8.ofString "repo//./pom.xml/.", some "toml"⟩
    '.' ∉ integration.gate.targetExtension.toList ∧
      Path.parts other.path = Path.parts document.path ∧
      integration.gate.admits other = true ∧
      (integration.documentOpened Transport.rehearsal "a" other).1 =
        (integration.documentOpened Transport.rehearsal "a" document).1 := by
  intro integration document other
  have dotless : '.' ∉ integration.gate.targetExtension.toList := by decide
  have same : Path.parts other.path = Path.parts document.path := by decide +kernel
  have last : Path.lastComponent? document.path = some (Text.Utf8.ofString "pom.xml") := by
    decide +kernel
  rcases opened_by_last_component Transport.rehearsal integration dotless "a" document with
    ⟨byComponent, -, spellings⟩
  have admitted : integration.gate.admits document = true :=
    byComponent.mpr ⟨Text.Utf8.ofString "pom", _, last, by decide, by decide, by decide⟩
  rcases spellings other same with ⟨sameGate, -, sameAnswer, -⟩
  exact ⟨dotless, same, sameGate.trans admitted, sameAnswer⟩

end Integration

end Silent

end EditorSession
