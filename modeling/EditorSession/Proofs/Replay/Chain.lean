import EditorSession.Replay.Chain
import Mathlib.Data.List.Infix

/-!
# A chain of causes is shown in full

The text of an error only grows while its causes are added, so what is part of it once stays part of
it: no cause gets lost (`part_render`), and one that comes again is left out (`render_padded`).
-/

namespace EditorSession.Chain

variable {top shown cause : String} {causes later longer : List String}

theorem occursIn_iff {part text : List Char} : occursIn part text = true ↔ part <:+: text := by
  induction text with
  | nil => simp [occursIn]
  | cons first rest ih =>
      rw [occursIn, Bool.or_eq_true, List.isPrefixOf_iff_prefix, ih, List.infix_cons_iff]

/-! ### One cause -/

theorem append_of_part (part : cause.toList <:+: shown.toList) : append shown cause = shown :=
  if_pos (occursIn_iff.mpr part)

theorem append_of_not_part (part : ¬cause.toList <:+: shown.toList) :
    append shown cause = shown ++ ": " ++ cause :=
  if_neg fun occurs => part (occursIn_iff.mp occurs)

theorem prefix_append (shown cause : String) : shown.toList <+: (append shown cause).toList := by
  by_cases part : cause.toList <:+: shown.toList
  · rw [append_of_part part]
  · rw [append_of_not_part part, String.append_assoc, String.toList_append]
    exact List.prefix_append _ _

theorem part_append (shown cause : String) : cause.toList <:+: (append shown cause).toList := by
  by_cases part : cause.toList <:+: shown.toList
  · rwa [append_of_part part]
  · rw [append_of_not_part part, String.toList_append]
    exact (List.suffix_append _ _).isInfix

/-! ### All causes -/

theorem render_cons (top cause : String) (causes : List String) :
    render top (cause :: causes) = render (append top cause) causes := rfl

theorem render_append (top : String) (first second : List String) :
    render top (first ++ second) = render (render top first) second :=
  List.foldl_append

theorem prefix_render (top : String) (causes : List String) :
    top.toList <+: (render top causes).toList := by
  induction causes generalizing top with
  | nil => exact List.prefix_refl _
  | cons cause causes ih => exact (prefix_append top cause).trans (ih _)

theorem part_render (causeMem : cause ∈ causes) :
    cause.toList <:+: (render top causes).toList := by
  rcases List.append_of_mem causeMem with ⟨before, later, rfl⟩
  rw [render_append, render_cons]
  exact (part_append _ cause).trans (prefix_render _ later).isInfix

/-- Nothing is added exactly if every cause is part of the text already. -/
theorem render_eq_top_iff :
    render top causes = top ↔ ∀ cause ∈ causes, cause.toList <:+: top.toList := by
  constructor
  · intro same cause causeMem
    have part : cause.toList <:+: (render top causes).toList := part_render causeMem
    rwa [same] at part
  · intro parts
    induction causes with
    | nil => rfl
    | cons cause causes ih =>
        rw [render_cons, append_of_part (parts cause List.mem_cons_self)]
        exact ih fun other otherMem => parts other (List.mem_cons_of_mem _ otherMem)

/-- A list with copies of a text put in anywhere. -/
inductive Padded (text : String) : List String → List String → Prop
  | nil : Padded text [] []
  | kept (other : String) {later longer : List String} (rest : Padded text later longer) :
      Padded text (other :: later) (other :: longer)
  | added {later longer : List String} (rest : Padded text later longer) :
      Padded text later (text :: longer)

/-- Behind a text that a cause is part of, the cause adds nothing, however often it comes. -/
theorem render_padded (padded : Padded cause later longer)
    (part : cause.toList <:+: shown.toList) : render shown longer = render shown later := by
  induction padded generalizing shown with
  | nil => rfl
  | kept other rest ih => exact ih (part.trans (prefix_append shown other).isInfix)
  | added rest ih =>
      rw [render_cons, append_of_part part]
      exact ih part

/--
The text of an error starts with its own wording and has the wording of every cause as a part. It is
its own wording alone exactly if all the causes are parts of that, and a cause may come again
anywhere behind itself without a change.
-/
theorem render_keeps_each_cause (top : String) (causes : List String) :
    top.toList <+: (render top causes).toList ∧
      (∀ cause ∈ causes, cause.toList <:+: (render top causes).toList) ∧
      (render top causes = top ↔ ∀ cause ∈ causes, cause.toList <:+: top.toList) ∧
      ∀ before cause later longer, causes = before ++ cause :: later → Padded cause later longer →
        render top (before ++ cause :: longer) = render top causes := by
  refine ⟨prefix_render top causes, fun cause causeMem => part_render causeMem,
    render_eq_top_iff, ?_⟩
  rintro before cause later longer rfl padded
  rw [render_append, render_append, render_cons, render_cons]
  exact render_padded padded (part_append _ cause)

/-- A cause that comes again, once behind itself and once behind a part of it. -/
theorem render_repeated_cause :
    "exit".toList <:+: (render "no start" ["exit 1", "exit", ""]).toList ∧
      render "no start" ["exit 1", "exit 1", "exit", "exit 1", ""] = "no start: exit 1" := by
  rcases render_keeps_each_cause "no start" ["exit 1", "exit", ""] with ⟨-, parts, -, repeats⟩
  have again := repeats [] "exit 1" ["exit", ""] ["exit 1", "exit", "exit 1", ""] rfl
    (.added (.kept _ (.added (.kept _ .nil))))
  have shown : render "no start" ["exit 1", "exit", ""] = "no start: exit 1" := by decide
  exact ⟨parts "exit" (by decide), again.trans shown⟩

end EditorSession.Chain
