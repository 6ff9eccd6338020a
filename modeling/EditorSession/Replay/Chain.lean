/-!
# Chains of causes

An error is shown with the wordings of its causes behind its own, outermost first. A cause whose
wording has been shown already, as part of something else, is left out.
-/

namespace EditorSession.Chain

/-- Whether a text occurs in another one. -/
def occursIn (part : List Char) : List Char → Bool
  | [] => part.isEmpty
  | first :: rest => part.isPrefixOf (first :: rest) || occursIn part rest

/-- The text so far with one more cause. -/
def append (shown : String) (cause : String) : String :=
  if occursIn cause.toList shown.toList then shown else shown ++ ": " ++ cause

/-- The text of an error and of its causes. -/
def render (top : String) (causes : List String) : String := causes.foldl append top

end EditorSession.Chain
