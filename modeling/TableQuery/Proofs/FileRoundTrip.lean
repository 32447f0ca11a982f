import TableQuery.Proofs.DelimitedRoundTrip
import TableQuery.Proofs.Outcome
import TableQuery.Store.File

/-!
Tables that are written to a file are read back.

The file of a table holds its header and its rows as records of texts, so by
`Delimited.readRecords_writeRecords` the same cells are read again. Two things are left
to see: the first bytes of the file are no byte order mark, and whatever the rows were,
the rows that are read have exactly the columns of the header, with the text of each
value.
-/

namespace TableQuery

open Delimited

/-! ## The byte order mark -/

/-- Only a text that starts with the mark's character has the bytes of the mark. -/
theorem Text.head?_of_byteOrderMark {text : String}
    (marked : byteOrderMark <+: Text.toBytes text) : text.toList.head? = some '\ufeff' := by
  obtain ⟨rest, shape⟩ := marked
  have mark : byteOrderMark = String.utf8EncodeChar '\ufeff' := rfl
  have bytes : text.toByteArray =
      (String.utf8EncodeChar '\ufeff').toByteArray ++ rest.toByteArray := by
    rw [← mark, ← List.toByteArray_append, shape, Text.toBytes]
    refine ByteArray.ext ?_
    rw [List.data_toByteArray, Array.toArray_toList]
    rfl
  have first : text.toByteArray.utf8DecodeChar? 0 = some '\ufeff' := by
    rw [bytes, ByteArray.utf8DecodeChar?_utf8EncodeChar_append]
  rw [← String.ofList_toList (s := text), String.toByteArray_ofList] at first
  cases chars : text.toList with
  | nil =>
    rw [chars] at first
    cases first
  | cons c rest =>
    rw [chars, List.utf8DecodeChar?_utf8Encode_cons] at first
    exact first

/-- The mark's bytes are above all others that a file can start with. -/
theorem mark_prefix_append {cell : Cell} {last : UInt8} {tail : List UInt8}
    (below : last < 0x80) (marked : byteOrderMark <+: cell ++ last :: tail) :
    byteOrderMark <+: cell := by
  have notLast : last ∉ byteOrderMark := by
    intro member
    simp only [byteOrderMark, List.mem_cons, List.not_mem_nil, or_false] at member
    rcases member with rfl | rfl | rfl <;> exact absurd below (by decide)
  have split : cell ++ [last] <+: cell ++ last :: tail := ⟨tail, by simp⟩
  rcases List.prefix_or_prefix_of_prefix marked split with inside | around
  · rcases List.prefix_concat_iff.mp inside with same | inCell
    · exact absurd (same ▸ List.mem_append_right cell List.mem_cons_self) notLast
    · exact inCell
  · exact absurd (around.subset (List.mem_append_right cell List.mem_cons_self)) notLast

theorem dropMark_writeRecords {delimiter : UInt8} (ascii : delimiter < 0x80) {first : String}
    (unmarked : first.toList.head? ≠ some '\ufeff') (others : List Cell)
    (records : List (List Cell)) :
    dropMark (writeRecords delimiter ((Text.toBytes first :: others) :: records)) =
      writeRecords delimiter ((Text.toBytes first :: others) :: records) := by
  have noMark : ¬ byteOrderMark <+:
      writeRecords delimiter ((Text.toBytes first :: others) :: records) := by
    intro marked
    rw [writeRecords, List.flatMap_cons] at marked
    rcases writeRecord_cases delimiter (Text.toBytes first) others with
      ⟨tail, shape⟩ | ⟨_, last, tail, shape, ends⟩
    · rw [shape, List.cons_append] at marked
      exact absurd (List.cons_prefix_cons.mp marked).1 (by decide)
    · rw [shape, List.append_assoc, List.cons_append] at marked
      have below : last < 0x80 := by
        rcases ends with rfl | ⟨rfl, _⟩
        · exact ascii
        · decide
      exact unmarked (Text.head?_of_byteOrderMark (mark_prefix_append below marked))
  rw [dropMark, if_neg fun found => noMark (List.isPrefixOf_iff_prefix.mp found)]

/-! ## Cells and rows -/

namespace FileStore

/-- The text of a cell that is one. -/
def textOfCell (cell : Cell) : String :=
  (Text.ofBytes cell).toOption.getD ""

theorem map_textOfCell (texts : List String) : (cellsOfTexts texts).map textOfCell = texts := by
  rw [cellsOfTexts, List.map_map]
  refine (List.map_congr_left fun text _ => ?_).trans (List.map_id texts)
  rw [Function.comp_apply, textOfCell, Text.ofBytes_toBytes]
  rfl

theorem textsOfCells_cellsOfTexts (position : Position) (texts : List String) :
    textsOfCells position (cellsOfTexts texts) = .ok texts := by
  have back : (cellsOfTexts texts).zipIdx.map (textOfCell ∘ Prod.fst) = texts := by
    rw [← List.map_map, List.zipIdx_map_fst, map_textOfCell]
  rw [textsOfCells]
  refine (mapM_eq_ok fun entry member => ?_).trans (congrArg Except.ok back)
  obtain ⟨cell, index⟩ := entry
  obtain ⟨text, _, rfl⟩ : ∃ text ∈ texts, Text.toBytes text = cell :=
    List.mem_map.mp (List.fst_mem_of_mem_zipIdx member)
  simp only [Function.comp_apply, textOfCell, Text.ofBytes_toBytes]
  rfl

theorem rowOfRecord_cellsOfTexts {columns texts : List String} (position : Position)
    (sameLength : texts.length = columns.length) :
    rowOfRecord columns position (cellsOfTexts texts) = .ok (Table.rowOfTexts columns texts) := by
  have cells : (cellsOfTexts texts).length = columns.length := by
    rw [cellsOfTexts, List.length_map, sameLength]
  rw [rowOfRecord, if_pos cells, textsOfCells_cellsOfTexts]
  rfl

/-- Records of texts are read as rows of these texts, wherever they stand. -/
theorem rowOfRecord_positions {columns : List String} {rows : List (List String)}
    (sameLength : ∀ texts ∈ rows, texts.length = columns.length) {records : List Record}
    (cells : records.map (·.cells) = rows.map cellsOfTexts) (position : Position) :
    ((positions position records).zip records).mapM
        (fun (position, record) => rowOfRecord columns position record.cells) =
      .ok (rows.map (Table.rowOfTexts columns)) := by
  induction rows generalizing records position with
  | nil =>
    rw [List.map_nil, List.map_eq_nil_iff] at cells
    rw [cells]
    rfl
  | cons texts rows ih =>
    obtain ⟨record, later, rfl, first, others⟩ := List.map_eq_cons_iff.mp cells
    have rest := ih (fun texts member => sameLength texts (List.mem_cons_of_mem _ member)) others
      ⟨position.record + 1, position.file, record.rest⟩
    have row := rowOfRecord_cellsOfTexts position (sameLength texts List.mem_cons_self)
    rw [positions, List.zip_cons_cons, List.mapM_cons, rest]
    simp only [first, row]
    rfl

/-! ## Tables -/

/-- A table that keeps its header in a file. -/
structure Storable (table : Table) : Prop where
  someColumn : table.columns ≠ []
  trimmed : ∀ column ∈ table.columns, columnName column = column
  unmarked : ∀ column ∈ table.columns.head?, column.toList.head? ≠ some '\ufeff'

/-- The row that is read for a row that was written. -/
def storedRow (table : Table) (row : Row) : Row :=
  Table.rowOfTexts table.columns ((table.record row).map Value.stored)

theorem get?_rowOfTexts_map (columns : List String) (cell : String → String) (name : String) :
    (Table.rowOfTexts columns (columns.map cell)).get? name =
      if name ∈ columns then some (.text (cell name)) else none := by
  have entries : (columns.zip (columns.map cell)).map
      (fun entry => (entry.1, Value.text entry.2)) =
        columns.map fun column => (column, Value.text (cell column)) := by
    induction columns with
    | nil => rfl
    | cons column columns ih =>
      rw [List.map_cons, List.zip_cons_cons, List.map_cons, ih]
      rfl
  rw [Table.rowOfTexts_eq, entries]
  exact NameMap.get?_ofList_map columns _ name

/-- A written row is read with the text of its value in every column. -/
theorem get?_storedRow (table : Table) (row : Row) (name : String) :
    (storedRow table row).get? name =
      if name ∈ table.columns then some (.text ((row.get? name).getD .null).stored) else none := by
  rw [storedRow, Table.record, List.map_map]
  exact get?_rowOfTexts_map table.columns _ name

/-- The records of a table with a header are texts. -/
theorem recordsOfTable_eq {table : Table} (someColumn : table.columns ≠ []) :
    recordsOfTable table = cellsOfTexts table.columns ::
      (table.rows.map fun row => (table.record row).map Value.stored).map cellsOfTexts := by
  rw [recordsOfTable, if_neg someColumn, List.map_map]
  rfl

/-- Under a header no record is without cells. -/
theorem rowCells_ne_nil {table : Table} (someColumn : table.columns ≠ []) :
    ∀ cells ∈ (table.rows.map fun row => (table.record row).map Value.stored).map cellsOfTexts,
      cells ≠ [] := by
  intro cells member none
  obtain ⟨texts, given, rfl⟩ := List.mem_map.mp member
  obtain ⟨row, _, rfl⟩ := List.mem_map.mp given
  rw [cellsOfTexts, Table.record, List.map_eq_nil_iff, List.map_eq_nil_iff,
    List.map_eq_nil_iff] at none
  exact someColumn none

/-- A table is read back from the bytes of its file, when these do not start with the mark. -/
theorem tableOfBytes_of_unmarked {delimiter : UInt8} (separates : IsDelimiter delimiter)
    {table : Table} (storable : Storable table)
    (marked : dropMark (bytesOfTable delimiter table) = bytesOfTable delimiter table) :
    tableOfBytes delimiter table.name (bytesOfTable delimiter table) =
      .ok { table with rows := table.rows.map (storedRow table) } := by
  obtain ⟨first, others, columns⟩ := List.exists_cons_of_ne_nil storable.someColumn
  have records := recordsOfTable_eq storable.someColumn
  have someCell : ∀ cells ∈ recordsOfTable table, cells ≠ [] := by
    rw [records, columns]
    exact List.forall_mem_cons.mpr
      ⟨List.cons_ne_nil _ _, rowCells_ne_nil storable.someColumn⟩
  have read := readRecords_writeRecords separates someCell
  rw [← bytesOfTable, records] at read
  obtain ⟨header, found, whole, headerCells, rowCells⟩ := List.map_eq_cons_iff.mp read
  have trimmed : table.columns.map columnName = table.columns.map id :=
    List.map_congr_left storable.trimmed
  rw [List.map_id] at trimmed
  have sameLength : ∀ texts ∈ table.rows.map fun row => (table.record row).map Value.stored,
      texts.length = table.columns.length := by
    intro texts member
    obtain ⟨row, _, rfl⟩ := List.mem_map.mp member
    rw [List.length_map, Table.record, List.length_map]
  have rowsRead := rowOfRecord_positions sameLength rowCells
    ⟨1, bytesOfTable delimiter table, header.rest⟩
  rw [tableOfBytes, recordsOfFile, marked, whole]
  simp only [headerCells, textsOfCells_cellsOfTexts, bind, Except.bind, trimmed] at rowsRead ⊢
  rw [rowsRead, List.map_map]
  rfl

/-- A table is read back from the bytes of its file. -/
theorem tableOfBytes_bytesOfTable {delimiter : UInt8} (separates : IsDelimiter delimiter)
    (ascii : delimiter < 0x80) {table : Table} (storable : Storable table) :
    tableOfBytes delimiter table.name (bytesOfTable delimiter table) =
      .ok { table with rows := table.rows.map (storedRow table) } := by
  refine tableOfBytes_of_unmarked separates storable ?_
  obtain ⟨first, others, columns⟩ := List.exists_cons_of_ne_nil storable.someColumn
  have unmarked := storable.unmarked first (by rw [columns]; rfl)
  rw [bytesOfTable, recordsOfTable_eq storable.someColumn, columns]
  exact dropMark_writeRecords ascii unmarked _ _

end FileStore

/-! ## The store -/

/-- A disk takes a file at a path: its folder is there, and no folder is in its place. -/
def Disk.Accepts (disk : Disk) (path : String) : Prop :=
  ∃ place, disk.place path = .ok place ∧ disk.at? place ≠ some .folder ∧
    (disk.folders.get? place.parent.path).isSome = true

/-- A disk takes a file at a path exactly when it can be written there. -/
theorem Disk.accepts_iff {disk : Disk} {path : String} (bytes : List UInt8) :
    disk.Accepts path ↔ ∃ written, disk.write path bytes = .ok written := by
  constructor
  · rintro ⟨place, found, noFolder, parent⟩
    obtain ⟨folder, given⟩ := Option.isSome_iff_exists.mp parent
    rw [Ne, at?_eq_folder_iff, Option.not_isSome_iff_eq_none] at noFolder
    exact ⟨_, write_eq_ok.mpr ⟨place, folder, found, noFolder, given, rfl⟩⟩
  · rintro ⟨written, write⟩
    obtain ⟨place, folder, found, noFolder, given, _⟩ := write_eq_ok.mp write
    refine ⟨place, found, ?_, Option.isSome_iff_exists.mpr ⟨folder, given⟩⟩
    rw [Ne, at?_eq_folder_iff, Option.not_isSome_iff_eq_none]
    exact noFolder

/-- A table that is written to a file is read back with its header and all its rows, each
of which has in every column the text of the value that was written. -/
theorem FileStore.write_then_read {store : FileStore} {table : Table}
    (separates : IsDelimiter store.delimiter) (ascii : store.delimiter < 0x80)
    (storable : Storable table) (accepts : store.disk.Accepts (store.path table.name)) :
    ∃ after, store.write table = .ok after ∧
      after.read table.name = .ok { table with rows := table.rows.map (storedRow table) } ∧
      ∀ row ∈ table.rows, ∀ name, (storedRow table row).get? name =
        if name ∈ table.columns then some (.text ((row.get? name).getD .null).stored)
        else none := by
  obtain ⟨disk, saved⟩ := (Disk.accepts_iff (bytesOfTable store.delimiter table)).mp accepts
  refine ⟨{ store with disk }, write_eq_ok.mpr ⟨disk, saved, rfl⟩, read_eq_ok.mpr ?_,
    fun row _ name => get?_storedRow table row name⟩
  exact ⟨_, Disk.read_write saved, tableOfBytes_bytesOfTable separates ascii storable⟩

/-- A table with a quote, a delimiter and a line end in one cell, a null, a number and a cell that
is not there, in a fresh folder. -/
theorem FileStore.write_then_read_quoted :
    let store : FileStore := ⟨.empty, ".", 0x2c⟩
    let table : Table := ⟨"t", ["a", "b"],
      [.ofList [("a", .text "x,\x22y\x22\n"), ("b", .null)], .ofList [("b", .integer (-7))]]⟩
    ∃ after, store.write table = .ok after ∧
      after.read "t" = .ok ⟨"t", ["a", "b"],
        [.ofList [("a", .text "x,\x22y\x22\n"), ("b", .text "")],
          .ofList [("a", .text ""), ("b", .text "-7")]]⟩ := by
  intro store table
  have storable : Storable table := ⟨by decide, by decide, by decide⟩
  have path : store.path table.name = "./t.csv" := by decide
  have steps : Path.steps "./t.csv" = ["t.csv"] := by decide
  have accepts : store.disk.Accepts (store.path table.name) := by
    refine ⟨⟨false, ["t.csv"]⟩, ?_, by decide, by decide⟩
    rw [path, Disk.place, steps, Disk.follow]
    rfl
  obtain ⟨after, written, read, _⟩ :=
    write_then_read ⟨by decide, by decide⟩ (by decide) storable accepts
  have cells : table.rows.map (storedRow table) =
      [.ofList [("a", .text "x,\x22y\x22\n"), ("b", .text "")],
        .ofList [("a", .text ""), ("b", .text "-7")]] := by
    decide +kernel
  rw [cells] at read
  exact ⟨after, written, read⟩

end TableQuery
