import TableQuery.Row
import TableQuery.Statement.Basic

/-!
Projecting rows on a select list, and dropping rows that repeat.
-/

namespace TableQuery

/-! ## Projection -/

/-- The labels of a select list, with `*` standing for all columns. -/
def outputColumns (columns : List String) (items : List Expression) : List String :=
  items.flatMap fun
    | .all => columns
    | item => [item.label]

/-- The cells of a row under some labels, each of which the row must have. -/
def projectRow (labels : List String) (row : Row) : Except Fault Row := do
  let cells ← labels.mapM fun label => (row.lookup label).map fun value => (label, value)
  return NameMap.ofList cells

/-! ## Repeated rows -/

/-- The values that a row shows for a select list. `*` shows every value, and a
label the row does not have shows null. -/
def shownValues (items : List Expression) (row : Row) : List Value :=
  items.flatMap fun
    | .all => row.values
    | item => [(row.lookup? item.label).getD .null]

/-- Keeps the first of the elements with equal keys, other than those whose keys were
seen before. -/
def firstByKey {α κ : Type} [BEq κ] (key : α → κ) (seen : List κ) : List α → List α
  | [] => []
  | a :: rest =>
    if seen.contains (key a) then firstByKey key seen rest
    else a :: firstByKey key (key a :: seen) rest

/-- Drops the rows that show the same values as an earlier one. Values are told apart by
their texts. -/
def distinctRows (items : List Expression) (rows : List Row) : List Row :=
  firstByKey (fun row => (shownValues items row).map Value.debugText) [] rows

end TableQuery
