import EditorSession.Proofs.Json.Pretty
import EditorSession.Replay.Report

/-!
# Reports are read back

A report is JSON text for whoever looks at a dry run. Read back member by member it yields all that
sessions are started with: the launch specification, and the state of every capability
(`readReport_reportText`).
-/

namespace EditorSession

namespace Datum

/-- The characters of a text. -/
def text? : Datum → Option String
  | text value => some value
  | _ => none

/-- The truth value of a flag. -/
def flag? : Datum → Option Bool
  | flag value => some value
  | _ => none

/-- The items of a list. -/
def items? : Datum → Option (List Datum)
  | list items => some items
  | _ => none

/-- A text, or nothing where there is null. -/
def optional? : Datum → Option (Option String)
  | null => some none
  | text value => some (some value)
  | _ => none

end Datum

/-- Reads a selector from the members that are shown of it. -/
def DocumentSelector.ofShown? (shown : Datum) : Option DocumentSelector := do
  let scheme ← (← shown.member? "scheme").text?
  let pattern ← (← shown.member? "pattern").text?
  return { scheme, pattern }

/-- Reads a specification from the members that are shown of it. -/
def LaunchSpecification.ofShown? (shown : Datum) : Option LaunchSpecification := do
  let integration ← (← shown.member? "integration").text?
  let executable ← (← shown.member? "executable").text?
  let arguments ← (← (← shown.member? "args").items?).mapM Datum.text?
  let environment ← Vocabulary.ofName? Environment (← (← shown.member? "environment").text?)
  let encoding ← (← shown.member? "encoding").text?
  let selector ← DocumentSelector.ofShown? (← shown.member? "document_selector")
  let workingDirectory ← (← shown.member? "working_dir").optional?
  if encoding = encodingLabel then
    return { integration, executable, arguments, environment, selector, workingDirectory }
  else none

namespace Capability

/-- The reason of a wording. -/
def Source.ofLabel? (written : String) : Option Source :=
  [alwaysOn, enabledByIntegration, disabledByIntegration].find? fun source =>
    source.label == written

/-- Reads a state from the members that are shown of it. -/
def State.ofShown? (shown : Datum) : Option State := do
  let kind ← Kind.ofKey? (← (← shown.member? "key").text?)
  let enabled ← (← shown.member? "enabled").flag?
  let source ← Source.ofLabel? (← (← shown.member? "source").text?)
  return { kind, enabled, source }

end Capability

namespace Replay

/-- What a report shows. -/
structure Shown where
  integration : String
  launch : LaunchSpecification
  capabilities : List Capability.State
  deriving DecidableEq, Repr

/-- Reads what the members of a report show. -/
def Shown.ofDatum? (shown : Datum) : Option Shown := do
  let integration ← (← shown.member? "integration").text?
  let launch ← LaunchSpecification.ofShown? (← shown.member? "launch")
  let capabilities ←
    (← (← shown.member? "capabilities").items?).mapM Capability.State.ofShown?
  return { integration, launch, capabilities }

/-- What the text of a report shows. -/
def readReport (text : String) : Option Shown :=
  (Json.read text.toList).bind Shown.ofDatum?

end Replay

/-! ### What is shown is read back -/

@[simp]
theorem Datum.arranged_text (value : String) : (Datum.text value).arranged = .text value := rfl

@[simp]
theorem Datum.arranged_flag (value : Bool) : (Datum.flag value).arranged = .flag value := rfl

@[simp]
theorem Datum.arranged_list (items : List Datum) :
    (Datum.list items).arranged = .list (items.map arranged) := by
  rw [arranged, arrangedItems_eq_map]

@[simp]
theorem Datum.arranged_ofTexts (texts : List String) :
    (Datum.ofTexts texts).arranged = .ofTexts texts := by
  simp [ofTexts]

@[simp]
theorem Datum.arranged_ofOption (value : Option String) :
    (Datum.ofOption value).arranged = .ofOption value := by
  cases value <;> rfl

theorem DocumentSelector.ofShown?_datum (selector : DocumentSelector) :
    ofShown? selector.datum.arranged = some selector := by
  simp [ofShown?, datum, Datum.member?_arranged, Datum.text?]

/-- A list is read back if each of its items is. -/
theorem Datum.mapM_eq_some {α : Type} {write : α → Datum} {read : Datum → Option α}
    (undoes : ∀ value, read (write value) = some value) (values : List α) :
    values.mapM (read ∘ write) = some values := by
  have each : read ∘ write = fun value => pure (id value) := funext undoes
  rw [each, List.mapM_pure, List.map_id]
  rfl

@[simp]
theorem Datum.items?_ofTexts (texts : List String) :
    (Datum.ofTexts texts).items? = some (texts.map .text) := rfl

@[simp]
theorem Datum.mapM_text? (texts : List String) :
    texts.mapM (Datum.text? ∘ Datum.text) = some texts :=
  @mapM_eq_some _ text text? (fun _ => rfl) texts

@[simp]
theorem Datum.optional?_ofOption (value : Option String) :
    (Datum.ofOption value).optional? = some value := by
  cases value <;> rfl

theorem LaunchSpecification.ofShown?_datum (specification : LaunchSpecification) :
    ofShown? specification.datum.arranged = some specification := by
  have environment : Vocabulary.ofName? Environment (Vocabulary.name specification.environment) =
      some specification.environment := by
    cases specification.environment <;> rfl
  simp [ofShown?, datum, Datum.member?_arranged, Datum.text?, environment,
    DocumentSelector.ofShown?_datum]

theorem Capability.State.ofShown?_datum (state : State) :
    ofShown? state.datum.arranged = some state := by
  have kind : Kind.ofKey? state.kind.key = some state.kind := by
    cases state.kind <;> rfl
  have source : Source.ofLabel? state.source.label = some state.source := by
    cases state.source <;> rfl
  simp [ofShown?, datum, Datum.member?_arranged, Datum.text?, Datum.flag?, kind, source]

theorem Replay.Shown.ofDatum?_report (launch : LaunchSpecification)
    (declaration : Capability.Declaration) :
    ofDatum? (report launch declaration).arranged =
      some ⟨declaration.integration, launch, declaration.states⟩ := by
  have states : declaration.states.mapM
      (Capability.State.ofShown? ∘ Datum.arranged ∘ Capability.State.datum) =
        some declaration.states :=
    Datum.mapM_eq_some Capability.State.ofShown?_datum declaration.states
  simp [ofDatum?, report, Datum.member?_arranged, Datum.text?, Datum.items?,
    LaunchSpecification.ofShown?_datum, states]

/-! ### What is shown is JSON -/

section Expressible

variable (depth : Nat)

theorem Datum.expressible_ofTexts (texts : List String) :
    (Datum.ofTexts texts).Expressible (depth + 1) := by
  refine .list fun item mem => ?_
  rcases List.mem_map.mp mem with ⟨text, -, rfl⟩
  exact .text text

theorem Datum.expressible_ofOption (value : Option String) :
    (Datum.ofOption value).Expressible depth := by
  cases value with
  | none => exact .null
  | some text => exact .text text

theorem DocumentSelector.expressible (selector : DocumentSelector) :
    selector.datum.Expressible (depth + 1) := by
  refine .record ?_
  simp [Datum.Expressible.text]

theorem LaunchSpecification.expressible (specification : LaunchSpecification) :
    specification.datum.Expressible (depth + 2) := by
  refine .record ?_
  simp [Datum.Expressible.text, Datum.expressible_ofTexts, Datum.expressible_ofOption,
    DocumentSelector.expressible]

theorem Capability.State.expressible (state : State) : state.datum.Expressible (depth + 1) := by
  refine .record ?_
  simp [Datum.Expressible.text, Datum.Expressible.flag]

theorem Replay.expressible_report (launch : LaunchSpecification)
    (declaration : Capability.Declaration) :
    (report launch declaration).Expressible (depth + 3) := by
  refine .record ?_
  have states : (Datum.list (declaration.states.map Capability.State.datum)).Expressible
      (depth + 2) := by
    refine .list fun item mem => ?_
    rcases List.mem_map.mp mem with ⟨state, -, rfl⟩
    exact state.expressible depth
  simp [Datum.Expressible.text, LaunchSpecification.expressible, states]

end Expressible

/-- A report shows what sessions are started with. -/
theorem Replay.readReport_reportText (launch : LaunchSpecification)
    (declaration : Capability.Declaration) :
    readReport (reportText launch declaration) =
      some ⟨declaration.integration, launch, declaration.states⟩ := by
  rw [readReport, reportText, Json.read_pretty (expressible_report 124 launch declaration)]
  exact Shown.ofDatum?_report launch declaration

end EditorSession
