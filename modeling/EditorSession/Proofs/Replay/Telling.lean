import EditorSession.Proofs.Integration.Openings
import EditorSession.Replay.Run

/-!
# What a replay tells

A console that never fails takes every record, so what a replay does is what it does to its
integration, and what it tells is a list of records that the integration alone determines.
`Setup.openEach_eq` says so of the documents that are opened, and `Setup.poll_eq` of a poll.
-/

namespace EditorSession.Replay

variable {σ κ : Type}

/-- No write to the console fails. -/
def Console.Reliable (console : Console κ) : Prop :=
  ∀ outlet text screen, (console.write outlet text screen).1 = .ok ()

/-- What is on the console after records were told in turn. -/
def Console.after (console : Console κ) (records : List Record) (screen : κ) : κ :=
  records.foldl (fun screen record => (console.tell record screen).2) screen

theorem Console.after_append (console : Console κ) (first second : List Record) (screen : κ) :
    console.after (first ++ second) screen = console.after second (console.after first screen) :=
  List.foldl_append

namespace Setup

/-- The stage after records were told in turn and none of them failed. -/
def telling (setup : Setup σ κ) (records : List Record) (stage : Stage σ κ) : Stage σ κ where
  integration := stage.integration
  console := setup.console.after records stage.console
  hasFailures := stage.hasFailures || records.any Record.isFailure

variable {setup : Setup σ κ}

@[simp]
theorem telling_nil (stage : Stage σ κ) : setup.telling [] stage = stage := by
  simp [telling, Console.after]

theorem telling_append (first second : List Record) (stage : Stage σ κ) :
    setup.telling (first ++ second) stage = setup.telling second (setup.telling first stage) := by
  simp [telling, Console.after_append, Bool.or_assoc]

theorem tell_eq (reliable : setup.console.Reliable) (record : Record) (stage : Stage σ κ) :
    setup.tell record stage = (.ok (), setup.telling [record] stage) := by
  have written := reliable record.outlet (record.text ++ "\n") stage.console
  simp [tell, telling, Console.after, Console.tell, written, Except.mapError]

theorem tellEach_eq (reliable : setup.console.Reliable) (records : List Record)
    (stage : Stage σ κ) : setup.tellEach records stage = (.ok (), setup.telling records stage) := by
  induction records generalizing stage with
  | nil => simp [tellEach]
  | cons record rest ih =>
      rw [tellEach, tell_eq reliable]
      exact (ih _).trans (congrArg (Prod.mk _) (telling_append [record] rest stage).symm)

/-! ### Documents that are opened -/

/-- A document as the editor names it. -/
def documentOf (document : String) : Document :=
  { path := Text.Utf8.ofString document, language := none }

/-- The integration after documents were opened in a scope. -/
def opened (transport : Transport σ) (scope : Scope) (integration : Integration σ)
    (documents : List String) : Integration σ :=
  (integration.openAll transport (documents.map fun document => ⟨scope, documentOf document⟩)).2

/-- The record of a document that is opened next. -/
def recordOf (transport : Transport σ) (scope : Scope) (integration : Integration σ)
    (document : String) : Record :=
  let (result, after) := integration.documentOpened transport scope (documentOf document)
  openingRecord after.manager document result

/-- The records of documents that are opened in a scope. -/
def openingRecords (transport : Transport σ) (scope : Scope) (integration : Integration σ) :
    List String → List Record
  | [] => []
  | document :: rest =>
    recordOf transport scope integration document ::
      openingRecords transport scope
        (integration.documentOpened transport scope (documentOf document)).2 rest

theorem openEach_eq (reliable : setup.console.Reliable) (documents : List String)
    (stage : Stage σ κ) :
    let integration := opened setup.transport setup.scope stage.integration documents
    setup.openEach documents stage =
      (.ok (), setup.telling
        (openingRecords setup.transport setup.scope stage.integration documents)
        { stage with integration }) := by
  induction documents generalizing stage with
  | nil => simp [openEach, openingRecords, opened, Integration.openAll]
  | cons document rest ih =>
      rw [openEach, openDocument]
      dsimp only
      rw [tell_eq reliable]
      dsimp only
      rw [ih]
      simp [openingRecords, recordOf, opened, Integration.openAll, telling, Console.after,
        documentOf, Bool.or_assoc]

theorem poll_eq (reliable : setup.console.Reliable) (stage : Stage σ κ) :
    setup.poll stage =
      (.ok (), setup.telling
        ((stage.integration.manager.poll setup.transport).1.map (settledRecord setup.scope))
        { stage with integration := (stage.integration.pollStarts setup.transport).2 }) := by
  rw [poll]
  exact tellEach_eq reliable _ _

end Setup

end EditorSession.Replay
