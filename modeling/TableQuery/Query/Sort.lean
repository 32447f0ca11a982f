import TableQuery.Row
import TableQuery.Statement.Basic
import TableQuery.Text.Split
import TableQuery.Value.Literal
import TableQuery.Value.Order

/-!
Sorting rows by several keys.

The sort is stable, and a descending key turns around its own order alone. Cells are
read as literals before they are compared. The keys of all rows are read before any
two rows are compared, so a key that some row does not have is a fault.
-/

namespace TableQuery

/-- Compares key values in order of the keys; the first difference decides. -/
def compareKeys : List Direction → List Value → List Value → Ordering
  | direction :: directions, a :: as, b :: bs =>
    let first := match direction with
      | .asc => a.sortCompare b
      | .desc => (a.sortCompare b).swap
    first.then (compareKeys directions as bs)
  | _, _, _ => .eq

/-- The key values of a row, with the row. -/
def keyed (keys : List SortKey) (row : Row) : Except Fault (List Value × Row) := do
  let values ← keys.mapM fun key => (row.lookup key.1).map Value.coerce
  return (values, row)

/-- Sorts rows by some keys. -/
def sortRows (keys : List SortKey) (rows : List Row) : Except Fault (List Row) := do
  let directions := keys.map (·.2)
  let keyedRows ← rows.mapM (keyed keys)
  let sorted := keyedRows.mergeSort fun a b => (compareKeys directions a.1 b.1).isLE
  return sorted.map (·.2)

/-! ## Keys that name aggregates -/

/-- ASCII letters in lower case, other characters as they are. -/
def lowerAscii (cs : List Char) : List Char :=
  cs.map Char.toLower

/-- Whether two labels are the same aggregate: the names before the parenthesis agree
up to the case of ASCII letters, and what follows agrees exactly. -/
def sameAggregate (a b : String) : Bool :=
  match Text.splitFirst? '(' a.toList, Text.splitFirst? '(' b.toList with
  | some (nameA, restA), some (nameB, restB) =>
    lowerAscii nameA == lowerAscii nameB && restA == restB
  | _, _ => false

/-- The column that a sort key means: the one of its name, or else the first column
that is the same aggregate, or else none but its own name. -/
def sortColumn (columns : List String) (field : String) : String :=
  if columns.contains field then field
  else (columns.find? (sameAggregate field)).getD field

end TableQuery
