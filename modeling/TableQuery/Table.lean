import TableQuery.Row

/-!
Tables: a name, a header and rows.

The header is the list of column names in the order of the file; it keeps its
meaning when there are no rows. A row need not have a cell for every column.
-/

namespace TableQuery

/-- A named table. -/
structure Table where
  name : String
  columns : List String
  rows : List Row
deriving DecidableEq, Inhabited

namespace Table

/-- A row made of cell texts in the order of some columns. Extra cells are dropped,
and of two cells under one name the later counts. -/
def rowOfTexts (columns : List String) (cells : List String) : Row :=
  NameMap.ofList ((columns.zip cells).map fun (column, cell) => (column, Value.text cell))

theorem rowOfTexts_eq (columns cells : List String) :
    rowOfTexts columns cells =
      NameMap.ofList ((columns.zip cells).map fun entry => (entry.1, Value.text entry.2)) :=
  rfl

/-- A table from its header and its records of cell texts. -/
def ofRecords (name : String) (columns : List String) (records : List (List String)) :
    Table :=
  ⟨name, columns, records.map (rowOfTexts columns)⟩

/-- Whether the header has a column. -/
def hasColumn (table : Table) (column : String) : Bool :=
  table.columns.contains column

/-- The values of a row in the order of the header, null where the row has none. -/
def record (table : Table) (row : Row) : List Value :=
  table.columns.map fun column => (row.get? column).getD .null

/-- The row that has null in every column. -/
def nullRow (table : Table) : Row :=
  NameMap.ofList (table.columns.map fun column => (column, Value.null))

/-- The header with every column qualified by the table. -/
def qualifiedColumns (table : Table) : List String :=
  table.columns.map (qualified table.name)

end Table

end TableQuery
