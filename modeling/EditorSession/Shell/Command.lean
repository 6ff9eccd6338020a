/-!
# Commands of the shell

Backends may be scripts of the POSIX shell. Here is the language that such scripts are read into: a
word is made of pieces, which are expanded when a command runs, and commands are joined by operators
and compound commands.
-/

namespace EditorSession.Shell

mutual

/-- A piece of a word. -/
inductive Piece
  /-- Text that stands for itself; quoted text makes a field even when it is empty. -/
  | literal (text : String) (quoted : Bool)
  /-- The home directory of a user; no name is the one who runs the shell. -/
  | home (user : String)
  | parameter (name : String) (expansion : Expansion) (quoted : Bool)
  /-- The value of the expression that pieces spell. -/
  | arithmetic (expression : List Piece) (quoted : Bool)
  /-- What a command writes. -/
  | substitution (command : Command) (quoted : Bool)

/-- What is made of the value of a parameter. With `orEmpty` an empty value counts as none. -/
inductive Expansion
  | value
  | length
  /-- Another word where there is no value. -/
  | fallback (orEmpty : Bool) (word : List Piece)
  /-- Another word where there is no value, which becomes the value. -/
  | assigned (orEmpty : Bool) (word : List Piece)
  /-- A failure, which a word explains, where there is no value. -/
  | demanded (orEmpty : Bool) (word : List Piece)
  /-- Another word where there is a value. -/
  | alternative (orEmpty : Bool) (word : List Piece)
  /-- The value without a start or an end that a pattern fits. -/
  | without (atEnd longest : Bool) (pattern : List Piece)
  /-- No expansion at all. -/
  | malformed

/-- Where a redirection leads a descriptor. -/
inductive Direction
  /-- Into a file, which is emptied; one that is there may be protected. -/
  | toFile (overProtected : Bool) (file : List Piece)
  | atEndOf (file : List Piece)
  | fromFile (file : List Piece)
  /-- Into and out of a file. -/
  | throughFile (file : List Piece)
  /-- Out of a text in the script. -/
  | fromText (text : List Piece)
  /-- Where another descriptor leads, or nowhere for a dash. -/
  | likeOther (descriptor : List Piece)

/-- A redirection of a descriptor. -/
inductive Redirection
  | mk (descriptor : Nat) (direction : Direction)

/-- A command. -/
inductive Command
  /-- Assignments and words at a line of a script. -/
  | simple (line : Nat) (assignments : List (String × List Piece)) (words : List (List Piece))
      (redirections : List Redirection)
  | sequence (first second : Command)
  | conjunction (first second : Command)
  | disjunction (first second : Command)
  | negation (command : Command)
  /-- Commands each of which reads what the one before it writes. -/
  | pipeline (commands : List Command)
  /-- A command that the shell does not wait for. -/
  | background (command : Command)
  /-- Runs a command that changes nothing of what the shell knows. -/
  | subshell (command : Command)
  | branch (condition accepted : Command) (rejected : Option Command)
  /-- Repeats while the condition holds, or until it holds. -/
  | loop (untilHolds : Bool) (condition body : Command)
  | each (line : Nat) (name : String) (values : List (List Piece)) (body : Command)
  /-- Runs the first command one of whose patterns fits a word. -/
  | choice (line : Nat) (subject : List Piece) (cases : List (List (List Piece) × Command))
  /-- Gives a name to a command. -/
  | define (name : String) (body : Command)
  | redirected (command : Command) (redirections : List Redirection)
  /-- Does nothing. -/
  | skip

end

/-- A word: pieces next to one another. -/
abbrev Word := List Piece

instance : Inhabited Piece := ⟨.literal "" false⟩

instance : Inhabited Command := ⟨.skip⟩

/-- The descriptor of a redirection. -/
def Redirection.descriptor : Redirection → Nat
  | mk descriptor _ => descriptor

/-- Where a redirection leads its descriptor. -/
def Redirection.direction : Redirection → Direction
  | mk _ direction => direction

/-- The text of a word without quotes and expansions. -/
def plainText? : Word → Option String
  | [.literal text false] => some text
  | _ => none

end EditorSession.Shell
