import TableQuery.NameMap
import TableQuery.Text.Split
import TableQuery.Value.Basic
import TableQuery.Error

/-!
Rows and the names by which their cells are read.

A column is named bare or qualified, as `table.column`. A row answers to the exact
name of a cell; a qualified name that it does not know is tried again without its
qualifier.
-/

namespace TableQuery

/-! ## Column names -/

/-- The qualified name of a column. -/
def qualified (table column : String) : String :=
  table ++ "." ++ column

/-- The part of a name after its first dot, when it has a dot. -/
def unqualified? (name : String) : Option String :=
  (Text.splitFirst? '.' name.toList).map fun parts => String.ofList parts.2

/-- The part of a name after its last dot: the bare name of the column. -/
def bareName (name : String) : String :=
  String.ofList (Text.afterLast '.' name.toList)

/-- Two names mean the same column of a grouped query: they are the same, or their
bare names are. -/
def sameColumn (a b : String) : Bool :=
  a == b || bareName a == bareName b

/-! ## Rows -/

/-- A row: the value under each name. -/
abbrev Row := NameMap Value

namespace Row

/-- The value a name reads from a row, if any. -/
def lookup? (row : Row) (name : String) : Option Value :=
  match row.get? name with
  | some value => some value
  | none => (unqualified? name).bind row.get?

/-- The value a name reads from a row, which must have it. -/
def lookup (row : Row) (name : String) : Except Fault Value :=
  match row.lookup? name with
  | some value => .ok value
  | none => .error (.field (.unknown name))

end Row

end TableQuery
