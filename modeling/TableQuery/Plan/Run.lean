import TableQuery.Plan.Basic
import TableQuery.Query.Condition
import TableQuery.Query.Group
import TableQuery.Query.Join
import TableQuery.Query.Projection
import TableQuery.Query.Sort
import TableQuery.Store.Basic

/-!
Running plans against a store.

Every step is a function on columns and rows; running a plan runs its sources, hands
their rows to the step, and carries the store along. The store is kept when a step
fails, so what a source has written stays written.
-/

namespace TableQuery

/-! ## Results -/

/-- Columns and rows. -/
structure Rows where
  columns : List String
  rows : List Row
deriving DecidableEq

/-- The result of a plan. -/
inductive Result
  | rows (rows : Rows)
  | inserted (count : Nat)
  | deleted (count : Nat)
deriving DecidableEq

/-- The status line of a change; rows have none. -/
def Result.message? : Result → Option String
  | rows _ => none
  | inserted _ => some "Row inserted successfully."
  | deleted _ => some "Rows deleted successfully."

/-- The rows of a result, which must have some. -/
def Result.toRows : Result → Except Fault Rows
  | rows found => .ok found
  | _ => .error (.internal .notRows)

/-! ## Steps on rows -/

namespace Rows

/-- The fields that a join makes: all columns of both tables when they are asked for,
then the requested ones, each once. -/
def joinFields (base other : Table) (fields : List String) (all : Bool) : List String :=
  fields.foldl (fun seen field => if seen.contains field then seen else seen ++ [field])
    (if all then base.qualifiedColumns ++ other.qualifiedColumns else [])

/-- Joins the rows of two tables. -/
def joined (base other : Table) (join : Join) (fields : List String) (all : Bool) :
    Except Fault Rows := do
  let layout ← JoinLayout.ofTables base other join (joinFields base other fields all)
  return ⟨layout.columns base join.kind, layout.rows base other join.kind⟩

/-- Keeps the rows that meet every condition. -/
def filtered (conditions : List Condition) (source : Rows) : Except Fault Rows := do
  let (kept, _) ← splitRows conditions source.rows
  return { source with rows := kept }

/-- Makes the one row of the aggregates of a select list. -/
def aggregated (items : List Expression) (source : Rows) : Except Fault Rows := do
  let row ← aggregateRow source.rows items
  return ⟨(items.filter Expression.isAggregate).map Expression.label, [row]⟩

/-- Groups the rows by some fields. -/
def grouped (fields : List String) (items : List Expression) (source : Rows) :
    Except Fault Rows := do
  let rows ← groupRows source.rows fields items
  return ⟨groupColumns fields items, rows⟩

/-- Sorts the rows. -/
def ordered (keys : List SortKey) (source : Rows) : Except Fault Rows := do
  let keys := keys.map fun (field, direction) => (sortColumn source.columns field, direction)
  let rows ← sortRows keys source.rows
  return { source with rows }

/-- Keeps the first rows. -/
def limited (count : Nat) (source : Rows) : Except Fault Rows :=
  .ok { source with rows := source.rows.take count }

/-- Drops the rows that repeat an earlier one. -/
def distinct (items : List Expression) (source : Rows) : Except Fault Rows :=
  .ok { source with rows := distinctRows items source.rows }

/-- Keeps the selected items. -/
def projected (items : List Expression) (source : Rows) : Except Fault Rows := do
  let labels := outputColumns source.columns items
  let rows ← source.rows.mapM (projectRow labels)
  return ⟨labels, rows⟩

end Rows

/-! ## Changes of a table -/

namespace Table

/-- The row of an insert: null in every column but the given ones. -/
def rowOfValues (table : Table) (columns : List String) (values : List Value) :
    Except Fault Row :=
  if columns.length ≠ values.length then .error (.internal .countMismatch)
  else
    match columns.find? fun column => !table.hasColumn column with
    | some column => .error (.field (.unknownInTable column table.name))
    | none => .ok (table.nullRow.insertAll (columns.zip values))

/-- The table with one more row at the end. A table without a header takes that of
the row. -/
def insertRow (table : Table) (columns : List String) (values : List Value) :
    Except Fault Table := do
  let table := if table.columns = [] then { table with columns } else table
  let row ← table.rowOfValues columns values
  return { table with rows := table.rows ++ [row] }

/-- The table without the rows that meet every condition, and their number. Without
conditions all rows go. -/
def deleteRows (table : Table) (conditions : List Condition) : Except Fault (Table × Nat) := do
  if conditions = [] then return ({ table with rows := [] }, table.rows.length)
  let (dropped, kept) ← splitRows conditions table.rows
  return ({ table with rows := kept }, dropped.length)

end Table

/-! ## Plans -/

namespace Plan

variable {σ : Type} [Store σ]

/-- Hands the rows of a result on to a step, when there are any. -/
def andThen (outcome : Except Fault Result × σ) (step : Rows → Except Fault Rows) :
    Except Fault Result × σ :=
  (outcome.1 >>= Result.toRows >>= step >>= fun rows => .ok (.rows rows), outcome.2)

/-- Reads a table of the store. -/
def scanTable (store : σ) (name : String) : Except Fault Rows :=
  (Store.read store name).map fun table => ⟨table.columns, table.rows⟩

/-- Adds a row to a table of the store. -/
def insertInto (store : σ) (name : String) (columns : List String) (values : List Value) :
    Except Fault σ := do
  let table ← Store.read store name
  let table ← table.insertRow columns values
  Store.write store table

/-- Deletes rows from a table of the store, and counts them. -/
def deleteFrom (store : σ) (name : String) (conditions : List Condition) :
    Except Fault (σ × Nat) := do
  let table ← Store.read store name
  let (table, count) ← table.deleteRows conditions
  let store ← Store.write store table
  return (store, count)

/-- Runs a plan: its result or fault, and the store after it. -/
def run : Plan → σ → Except Fault Result × σ
  | scan table, store => ((scanTable store table).map .rows, store)
  | join base other table clause fields all, store =>
    match run base store with
    | (.error fault, store) => (.error fault, store)
    | (.ok result, store) =>
      match result.toRows with
      | .error fault => (.error fault, store)
      | .ok baseRows =>
        andThen (run other store) fun otherRows =>
          Rows.joined ⟨table, baseRows.columns, baseRows.rows⟩
            ⟨clause.table, otherRows.columns, otherRows.rows⟩ clause fields all
  | filter source conditions, store => andThen (run source store) (Rows.filtered conditions)
  | aggregate source items, store => andThen (run source store) (Rows.aggregated items)
  | groupBy source fields items, store => andThen (run source store) (Rows.grouped fields items)
  | order source keys, store => andThen (run source store) (Rows.ordered keys)
  | limit source count, store => andThen (run source store) (Rows.limited count)
  | distinct source items, store => andThen (run source store) (Rows.distinct items)
  | project source items, store => andThen (run source store) (Rows.projected items)
  | insert table columns values, store =>
    match insertInto store table columns values with
    | .ok store => (.ok (.inserted 1), store)
    | .error fault => (.error fault, store)
  | delete table conditions, store =>
    match deleteFrom store table conditions with
    | .ok (store, count) => (.ok (.deleted count), store)
    | .error fault => (.error fault, store)

end Plan

end TableQuery
