import TableQuery.Proofs.WholeTable

/-!
The row that an insert statement makes.

The row has a cell for every column of the header and for nothing else: the literal that
the statement gives to the column, and null where it gives none (`Insertion.row`). A
table that has no header takes that of the statement. An insert succeeds when the
statement names only columns of the header, and what it leaves is the table with this row
at the end (`Table.insertRow_eq_ok`, `Table.insertRow_of_known`).
-/

namespace TableQuery

/-! ## Literals of an insert -/

namespace Insertion

/-- The literal that an insert statement gives to a column; of two for one column the later
counts. -/
def literal? (insertion : Insertion) (column : String) : Option Constant :=
  (NameMap.ofList (insertion.columns.zip insertion.values)).get? column

/-- An insert statement gives a column a literal that is not null. -/
def Supplies (insertion : Insertion) (column : String) : Prop :=
  ∃ constant ∈ insertion.literal? column, constant ≠ .null

instance (insertion : Insertion) (column : String) : Decidable (insertion.Supplies column) :=
  inferInstanceAs (Decidable (∃ constant ∈ insertion.literal? column, constant ≠ .null))

/-- The header of a table behind an insert: the columns of the statement become the header
of a table that has none. -/
def header (insertion : Insertion) (table : Table) : List String :=
  if table.columns = [] then insertion.columns else table.columns

/-- What an insert statement puts into a column: null where it gives no literal. -/
def cell (insertion : Insertion) (column : String) : Value :=
  ((insertion.literal? column).map Constant.toValue).getD .null

/-- The row of an insert statement under some header. -/
def row (insertion : Insertion) (columns : List String) : Row :=
  NameMap.ofList (columns.map fun column => (column, insertion.cell column))

/-- A stored literal is a text or null. -/
theorem cell_cases (insertion : Insertion) (column : String) :
    insertion.cell column = .null ∨ ∃ text, insertion.cell column = .text text := by
  rw [cell]
  cases insertion.literal? column with
  | none => exact Or.inl rfl
  | some constant =>
    cases constant with
    | null => exact Or.inl rfl
    | number digits => exact Or.inr ⟨digits, rfl⟩
    | text s => exact Or.inr ⟨s, rfl⟩

theorem exists_text_of_supplies {insertion : Insertion} {column : String}
    (supplies : insertion.Supplies column) : ∃ text, insertion.cell column = .text text := by
  obtain ⟨constant, given, notNull⟩ := supplies
  rw [cell, Option.mem_def.mp given]
  cases constant with
  | null => exact absurd rfl notNull
  | number digits => exact ⟨digits, rfl⟩
  | text s => exact ⟨s, rfl⟩

theorem get?_row (insertion : Insertion) (columns : List String) (name : String) :
    (insertion.row columns).get? name =
      if name ∈ columns then some (insertion.cell name) else none :=
  NameMap.get?_ofList_map columns insertion.cell name

theorem fills_row (insertion : Insertion) (columns : List String) :
    (insertion.row columns).Fills columns := by
  intro name
  rw [get?_row]
  split <;> simp_all

end Insertion

/-! ## Inserting into a table -/

namespace Table

/-- The literals of a statement over the nulls of a table are the row of the statement. -/
theorem insertAll_nullRow {table : Table} {insertion : Insertion}
    (known : ∀ column ∈ insertion.columns, column ∈ table.columns) :
    table.nullRow.insertAll (insertion.columns.zip (insertion.values.map Constant.toValue)) =
      insertion.row table.columns := by
  have values : insertion.columns.zip (insertion.values.map Constant.toValue) =
      (insertion.columns.zip insertion.values).map
        fun entry => (entry.1, entry.2.toValue) := by
    rw [List.zip_map_right]
    rfl
  refine NameMap.ext_get? fun name => ?_
  rw [NameMap.get?_insertAll, values, NameMap.get?_ofList_mapValues, ← Insertion.literal?,
    nullRow, NameMap.get?_ofList_map, Insertion.get?_row, Insertion.cell]
  by_cases member : name ∈ table.columns
  · rw [if_pos member, if_pos member]
    cases insertion.literal? name <;> rfl
  · have noLiteral : insertion.literal? name = none := by
      cases found : insertion.literal? name with
      | none => rfl
      | some constant =>
        rcases NameMap.mem_of_get?_insertAll found with absent | given
        · cases absent
        · exact absurd (known name (List.of_mem_zip given).1) member
    rw [if_neg member, if_neg member, noLiteral]
    rfl

theorem rowOfValues_eq_ok {table : Table} {columns : List String} {values : List Value} {row : Row}
    (made : table.rowOfValues columns values = .ok row) :
    columns.length = values.length ∧ (∀ column ∈ columns, column ∈ table.columns) ∧
      row = table.nullRow.insertAll (columns.zip values) := by
  unfold rowOfValues at made
  split at made
  · cases made
  · rename_i sameLength
    split at made
    · cases made
    · rename_i known
      cases made
      refine ⟨Decidable.not_not.mp sameLength, fun column member => ?_, rfl⟩
      simpa [hasColumn] using List.find?_eq_none.mp known column member

/-- A table without a header takes that of the statement before the row is made. -/
theorem insertRow_eq (table : Table) (insertion : Insertion) :
    table.insertRow insertion.columns (insertion.values.map Constant.toValue) =
      ({ table with columns := insertion.header table }.rowOfValues insertion.columns
        (insertion.values.map Constant.toValue)).map fun row =>
          ⟨table.name, insertion.header table, table.rows ++ [row]⟩ := by
  have headed : (if table.columns = [] then { table with columns := insertion.columns }
      else table) = { table with columns := insertion.header table } := by
    unfold Insertion.header
    split <;> rfl
  unfold insertRow
  rw [headed]
  dsimp only
  cases { table with columns := insertion.header table }.rowOfValues insertion.columns
    (insertion.values.map Constant.toValue) <;> rfl

/-- An insert that succeeds names columns of the header and leaves its row at the end. -/
theorem insertRow_eq_ok {table written : Table} {insertion : Insertion}
    (inserted : table.insertRow insertion.columns (insertion.values.map Constant.toValue) =
      .ok written) :
    (∀ column ∈ insertion.columns, column ∈ insertion.header table) ∧
      written = ⟨table.name, insertion.header table,
        table.rows ++ [insertion.row (insertion.header table)]⟩ := by
  rw [insertRow_eq] at inserted
  obtain ⟨row, made, rfl⟩ := map_eq_ok inserted
  obtain ⟨_, known, rfl⟩ := rowOfValues_eq_ok made
  refine ⟨known, ?_⟩
  rw [insertAll_nullRow known]

/-- An insert that names columns of the header succeeds. -/
theorem insertRow_of_known {table : Table} {insertion : Insertion}
    (sameLength : insertion.columns.length = insertion.values.length)
    (known : ∀ column ∈ insertion.columns, column ∈ insertion.header table) :
    table.insertRow insertion.columns (insertion.values.map Constant.toValue) =
      .ok ⟨table.name, insertion.header table,
        table.rows ++ [insertion.row (insertion.header table)]⟩ := by
  have found : insertion.columns.find? (fun column =>
      !{ table with columns := insertion.header table }.hasColumn column) = none :=
    List.find?_eq_none.mpr fun column member => by simpa [hasColumn] using known column member
  have made : { table with columns := insertion.header table }.rowOfValues insertion.columns
      (insertion.values.map Constant.toValue) = .ok (insertion.row (insertion.header table)) := by
    rw [rowOfValues, if_neg (by simpa using sameLength), found]
    exact congrArg Except.ok (insertAll_nullRow known)
  rw [insertRow_eq, made]
  rfl

/-! ## What an insert keeps -/

section Kept

variable {table written : Table} {insertion : Insertion}

/-- The rows fill the header behind an insert: a table that takes its header from the
statement has no earlier rows. -/
theorem filled_insertRow (filled : table.Filled) (headless : table.columns = [] → table.rows = [])
    (inserted : table.insertRow insertion.columns (insertion.values.map Constant.toValue) =
      .ok written) : written.Filled := by
  obtain ⟨_, rfl⟩ := insertRow_eq_ok inserted
  intro row member
  rcases List.mem_append.mp member with old | new
  · have sameHeader : insertion.header table = table.columns := by
      refine if_neg fun none => ?_
      rw [headless none] at old
      cases old
    rw [sameHeader]
    exact filled row old
  · cases List.mem_singleton.mp new
    exact insertion.fills_row _

/-- What all cells meet is met behind an insert when the new cells meet it. -/
theorem cells_insertRow {holds : Value → Prop}
    (cells : ∀ row ∈ table.rows, ∀ name value, row.get? name = some value → holds value)
    (new : ∀ column ∈ insertion.header table, holds (insertion.cell column))
    (inserted : table.insertRow insertion.columns (insertion.values.map Constant.toValue) =
      .ok written) :
    ∀ row ∈ written.rows, ∀ name value, row.get? name = some value → holds value := by
  obtain ⟨_, rfl⟩ := insertRow_eq_ok inserted
  intro row member name value given
  rcases List.mem_append.mp member with old | last
  · exact cells row old name value given
  · cases List.mem_singleton.mp last
    rw [Insertion.get?_row] at given
    split at given
    · rename_i inHeader
      cases given
      exact new name inHeader
    · cases given

theorem columns_insertRow_ne_nil (someColumn : insertion.columns ≠ [])
    (inserted : table.insertRow insertion.columns (insertion.values.map Constant.toValue) =
      .ok written) : written.columns ≠ [] := by
  obtain ⟨_, rfl⟩ := insertRow_eq_ok inserted
  show insertion.header table ≠ []
  unfold Insertion.header
  split <;> assumption

end Kept

end Table

end TableQuery
