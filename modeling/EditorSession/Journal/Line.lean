import EditorSession.Datum
import EditorSession.Journal
import EditorSession.Json.Writer

/-!
# Lines of the journal

The two forms in which entries are written, one entry to a line: as a JSON object, or in words with
the fields behind the message.
-/

namespace EditorSession.Journal

/-- The content of a field as data. -/
def Content.datum : Content → Datum
  | shown text | words text => .text text
  | number value => .integer value
  | flag value => .flag value

/-- The content of a field in words. -/
def Content.compact : Content → String
  | shown text => text
  | words text => Text.quoted text
  | number value => toString value
  | flag value => toString value

namespace Entry

/-- An entry as data. -/
def datum (entry : Entry) : Datum :=
  .record ([("level", .text entry.level.name), ("message", .text entry.message)]
    ++ entry.fields.map (fun (name, content) => (name, content.datum))
    ++ [("target", .text entry.target)])

/-- An entry as a JSON object. -/
def json (entry : Entry) : String := Json.compact entry.datum

/-- An entry in words. -/
def compact (entry : Entry) : String :=
  entry.level.name ++ " " ++ entry.target ++ ": " ++ entry.message
    ++ String.join (entry.fields.map fun (name, content) => " " ++ name ++ "=" ++ content.compact)

end Entry

end EditorSession.Journal
