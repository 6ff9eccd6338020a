/-!
# Closed vocabularies

A vocabulary is a type whose values have names: launch modes, log levels, capabilities. A document
must use the name exactly; the command line takes names in any mixture of ASCII cases, and further
spellings where a value has some.
-/

namespace EditorSession

/-- A type with finitely many named values, in the order in which messages list them. -/
class Vocabulary (α : Type) where
  all : List α
  name : α → String
  /-- Further spellings that the command line takes. -/
  spellings : α → List String := fun _ => []

namespace Vocabulary

/-- The names of a vocabulary. -/
def names (α : Type) [Vocabulary α] : List String :=
  (all : List α).map name

/-- The value of a name. -/
def ofName? (α : Type) [Vocabulary α] (written : String) : Option α :=
  (all : List α).find? fun value => name value == written

/-- A text with its ASCII letters in lower case. -/
def foldCase (text : String) : List Char :=
  text.toList.map Char.toLower

/-- Whether a text is a name or another spelling of a value, up to the case of ASCII letters. -/
def spells {α : Type} [Vocabulary α] (value : α) (written : String) : Bool :=
  (name value :: spellings value).any fun spelling => foldCase spelling == foldCase written

/-- The value that a text spells. -/
def parse? (α : Type) [Vocabulary α] (written : String) : Option α :=
  (all : List α).find? fun value => spells value written

/-- What is said of a text that spells no value. -/
def unmatched : String := "Matching variant not found"

end Vocabulary

end EditorSession
