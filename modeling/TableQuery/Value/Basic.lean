import TableQuery.Binary64.Arithmetic
import TableQuery.Binary64.Format
import TableQuery.Text.Hidden
import TableQuery.Text.Quoted

/-!
The values of table cells and of computed columns.

Cells read from a file are always texts. Numbers arise when a literal is read as
one and as results of aggregates.
-/

namespace TableQuery

/-- The value of a cell. -/
inductive Value
  | null
  | integer (n : Int)
  | float (x : Binary64)
  | text (s : String)
deriving DecidableEq, Inhabited

namespace Value

/-- The text of a value as it is shown and as patterns see it. -/
def display : Value → String
  | null => "NULL"
  | integer n => String.ofList (Text.intText n)
  | float x => String.ofList (x.text .shown)
  | text s => s

/-- The text of a value as a cell of a file; null is the empty cell. -/
def stored : Value → String
  | null => ""
  | integer n => String.ofList (Text.intText n)
  | float x => String.ofList (x.text .stored)
  | text s => s

/-- The number that an integer or float is. -/
def number? : Value → Option Binary64
  | integer n => some (Binary64.ofInt n)
  | float x => some x
  | _ => none

/-- A value for the result of a computation: an integer when it is a whole number
of less than fifty-four binary digits. -/
def ofBinary64 (x : Binary64) : Value :=
  match x.exactInteger? with
  | some n => integer n
  | none => float x

/-- What a value holds in brackets behind the name of its kind. -/
def tagged (kind : String) (content : List Char) : String :=
  kind ++ "(" ++ String.ofList content ++ ")"

/-- The text of a value with its kind. Rows are grouped by these texts, and repeated
rows are found by them. -/
def debugText : Value → String
  | null => "Null"
  | integer n => tagged "Integer" (Text.intText n)
  | float x => tagged "Float" (x.text .debug)
  | text s => tagged "String" (Text.quoted Text.isHidden s.toList)

end Value

end TableQuery
