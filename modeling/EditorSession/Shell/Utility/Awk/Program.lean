import EditorSession.Decimal.Binary64
import EditorSession.Shell.Utility.Awk.Token

/-!
# Programs on records

The programs of `awk`: rules that say what is done for which records, with expressions and
statements. There are no arrays and no functions of a program's own, and all that is written goes to
the output.
-/

namespace EditorSession.Shell.Awk

open Decimal (Binary64)

/-- An operator of two numbers. -/
inductive Arithmetic
  | plus
  | minus
  | times
  | divided
  | remainder
  deriving DecidableEq, Repr

/-- A comparison of two values. -/
inductive Comparison
  | less
  | atMost
  | equal
  | different
  | greater
  | atLeast
  deriving DecidableEq, Repr

/-- An expression. -/
inductive Expression
  | number (value : Binary64)
  | text (string : String)
  /-- Whether the record fits a regular expression. -/
  | regex (source : String)
  | variable (name : String)
  | field (index : Expression)
  /-- Gives a variable or a field a value, perhaps that of an operator on it. -/
  | assign (target : Expression) (operator : Option Arithmetic) (value : Expression)
  | choose (condition accepted rejected : Expression)
  | either (first second : Expression)
  | both (first second : Expression)
  | negation (operand : Expression)
  /-- An expression in brackets. -/
  | group (inner : Expression)
  | negative (operand : Expression)
  | identity (operand : Expression)
  | compute (operator : Arithmetic) (left right : Expression)
  | compare (comparison : Comparison) (left right : Expression)
  | join (first second : Expression)
  | fits (isNegated : Bool) (subject pattern : Expression)
  /-- Adds one to a target or takes it away; the value is that before or after it. -/
  | step (target : Expression) (isUp isAfter : Bool)
  | call (name : String) (arguments : List Expression)
  deriving Inhabited

/-- A statement. -/
inductive Statement
  | evaluate (expression : Expression)
  | print (values : List Expression)
  | format (values : List Expression)
  | branch (condition : Expression) (accepted : Statement) (rejected : Option Statement)
  | loop (condition : Expression) (body : Statement)
  | count (start : Option Statement) (condition : Option Expression) (step : Option Statement)
      (body : Statement)
  | block (statements : List Statement)
  | next
  | exit (status : Option Expression)
  deriving Inhabited

/-- When the action of a rule is done. -/
inductive Pattern
  | start
  | finish
  | always
  | holds (condition : Expression)

/-- A rule; without an action the record is written. -/
structure Rule where
  pattern : Pattern
  action : Option Statement

end EditorSession.Shell.Awk
