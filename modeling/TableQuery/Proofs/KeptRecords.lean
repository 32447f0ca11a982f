import TableQuery.Proofs.Names
import TableQuery.Proofs.StatementEffect
import TableQuery.Proofs.StoreAgreement

/-!
What an insert or a delete leaves of the records of a file.

Either statement writes the whole file again, and each record goes through a row, which
is a map from column names to texts. So the records after it are those that it keeps, in
their order, and what becomes of a record is a question of the header alone: every column
gets the last cell that stands under its name (`FileStore.keptCells`). Where the trimmed
names of the header are different, that is the record itself. `Session.records_kept` says
this for every statement text and every file, also for one whose header starts with a
byte order mark: when it is read again only the header is another one.
-/

namespace TableQuery

open Delimited

/-! ## The records of a file -/

namespace FileStore

/-- The records behind the header, as lists of cells. -/
def dataRecords (delimiter : UInt8) (bytes : List UInt8) : List (List Cell) :=
  ((recordsOfFile delimiter bytes).map (·.cells)).tail

/-- The records behind the header in the file of a table. -/
def recordsOf (store : FileStore) (name : String) : Except FileFault (List (List Cell)) :=
  (store.disk.read (store.path name)).map (dataRecords store.delimiter)

/-- The row of a record whose cells are texts. -/
def rowOfCells (columns : List String) (cells : List Cell) : Row :=
  Table.rowOfTexts columns (cells.map textOfCell)

/-- What is written for a record that was read: every column has the last cell that stood
under its name. -/
def keptCells (columns : List String) (cells : List Cell) : List Cell :=
  columns.map fun column => ((columns.zip cells).reverse.lookup column).getD []

theorem rowOfCells_cellsOfTexts (columns texts : List String) :
    rowOfCells columns (cellsOfTexts texts) = Table.rowOfTexts columns texts := by
  rw [rowOfCells, map_textOfCell]

/-- Under different names every cell stays where it is. -/
theorem keptCells_of_nodup {columns : List String} {cells : List Cell} (distinct : columns.Nodup)
    (sameLength : cells.length = columns.length) : keptCells columns cells = cells := by
  have names : (columns.zip cells).map (·.1) = columns :=
    List.map_fst_zip (Nat.le_of_eq sameLength.symm)
  refine List.ext_getElem (by rw [keptCells, List.length_map, sameLength]) fun i _ there => ?_
  have inZip : (columns[i], cells[i]) ∈ columns.zip cells :=
    List.mem_iff_getElem.mpr ⟨i, by simpa [sameLength] using there, List.getElem_zip⟩
  have found := NameMap.get?_ofList_of_mem (names.symm ▸ distinct) inZip
  rw [NameMap.get?_ofList] at found
  simp only [keptCells, List.getElem_map, found, Option.getD_some]

/-- The row of a record is written as the last cells under the names of the header. -/
theorem cells_record_rowOfTexts (name : String) (columns texts : List String)
    (rows : List Row) :
    cellsOfTexts ((Table.record ⟨name, columns, rows⟩ (Table.rowOfTexts columns texts)).map
      Value.stored) = keptCells columns (cellsOfTexts texts) := by
  rw [cellsOfTexts, Table.record, keptCells, List.map_map, List.map_map]
  refine List.map_congr_left fun column _ => ?_
  rw [cellsOfTexts, List.zip_map_right, ← NameMap.get?_ofList, Table.rowOfTexts_eq,
    Function.comp_apply, Function.comp_apply, NameMap.get?_ofList_mapValues]
  refine Eq.trans ?_ (congrArg (Option.getD · []) (NameMap.get?_ofList_mapValues
    Text.toBytes (columns.zip texts) column).symm)
  cases (NameMap.ofList (columns.zip texts)).get? column <;> rfl

end FileStore

/-! ## Reading a file -/

/-- A record has a cell. -/
theorem Delimited.readRecord_ne_nil (delimiter : UInt8) (mode : Mode) (bytes : List UInt8) :
    (readRecord delimiter mode bytes).1 ≠ [] := by
  have extended (b : UInt8) (read : List Cell × List UInt8) : (extendCell b read).1 ≠ [] := by
    obtain ⟨_ | ⟨cell, cells⟩, rest⟩ := read <;> exact List.cons_ne_nil _ _
  fun_induction readRecord delimiter mode bytes
  case case2 ih | case4 ih => exact ih
  case case3 | case5 | case8 => exact extended _ _
  case case1 | case6 | case7 => exact List.cons_ne_nil _ _

theorem Delimited.cells_ne_nil_of_readRecords {delimiter : UInt8} {bytes : List UInt8}
    {first : Record} {others : List Record}
    (read : readRecords delimiter bytes = first :: others) : first.cells ≠ [] := by
  rw [readRecords] at read
  split at read
  · cases read
  · cases read
    exact readRecord_ne_nil _ _ _

namespace FileStore

theorem textsOfCells_eq_ok {position : Position} {cells : List Cell} {texts : List String}
    (read : textsOfCells position cells = .ok texts) : cells = cellsOfTexts texts := by
  unfold textsOfCells at read
  generalize 0 = start at read
  induction cells generalizing texts start with
  | nil =>
    cases read
    rfl
  | cons cell cells ih =>
    rw [List.zipIdx_cons, List.mapM_cons] at read
    obtain ⟨text, first, read⟩ := bind_eq_ok read
    obtain ⟨others, later, read⟩ := bind_eq_ok read
    cases read
    rw [ih _ later, cellsOfTexts, cellsOfTexts, List.map_cons]
    dsimp only at first
    split at first
    · rename_i found
      cases first
      rw [Text.toBytes_of_ofBytes found]
    · cases first

/-- Records that are read as rows are texts, as many as there are columns. -/
theorem rows_of_rowOfRecord {columns : List String} {records : List Record} {rows : List Row}
    {position : Position}
    (read : ((positions position records).zip records).mapM
      (fun (position, record) => rowOfRecord columns position record.cells) = .ok rows) :
    ∃ texts : List (List String), records.map (·.cells) = texts.map cellsOfTexts ∧
      (∀ record ∈ texts, record.length = columns.length) ∧
      rows = texts.map (Table.rowOfTexts columns) := by
  induction records generalizing position rows with
  | nil =>
    cases read
    exact ⟨[], rfl, by simp, rfl⟩
  | cons record records ih =>
    rw [positions, List.zip_cons_cons, List.mapM_cons] at read
    obtain ⟨row, first, read⟩ := bind_eq_ok read
    obtain ⟨others, later, read⟩ := bind_eq_ok read
    cases read
    obtain ⟨texts, cells, lengths, rfl⟩ := ih later
    dsimp only [rowOfRecord] at first
    split at first
    · rename_i sameLength
      obtain ⟨record, own, rfl⟩ := map_eq_ok first
      have cellsOwn := textsOfCells_eq_ok own
      rw [cellsOwn, cellsOfTexts, List.length_map] at sameLength
      refine ⟨record :: texts, ?_, List.forall_mem_cons.mpr ⟨sameLength, lengths⟩, rfl⟩
      rw [List.map_cons, List.map_cons, cells, cellsOwn]
    · cases first

/-- A file that is read is a table of the texts of its records. -/
theorem tableOfBytes_eq_ok {delimiter : UInt8} {name : String} {bytes : List UInt8}
    {table : Table} (read : tableOfBytes delimiter name bytes = .ok table) :
    ∃ columns records, table = Table.ofRecords name columns records ∧
      dataRecords delimiter bytes = records.map cellsOfTexts ∧
      (∀ record ∈ records, record.length = columns.length) ∧
      (columns = [] → records = []) := by
  unfold tableOfBytes at read
  unfold dataRecords
  split at read
  · rename_i none
    cases read
    rw [none]
    exact ⟨[], [], rfl, rfl, by simp, fun _ => rfl⟩
  · rename_i header records whole
    obtain ⟨names, headerRead, read⟩ := bind_eq_ok read
    obtain ⟨rows, rowsRead, read⟩ := bind_eq_ok read
    cases read
    obtain ⟨texts, cells, lengths, rfl⟩ := rows_of_rowOfRecord rowsRead
    rw [whole, List.map_cons, List.tail_cons]
    refine ⟨_, texts, rfl, cells, lengths, fun none => ?_⟩
    have someCell := cells_ne_nil_of_readRecords whole
    rw [textsOfCells_eq_ok headerRead, List.map_eq_nil_iff.mp none] at someCell
    exact absurd rfl someCell

/-- A table that is read is one of the texts of the records in its file. -/
theorem recordsOf_of_read {store : FileStore} {name : String} {table : Table}
    (read : store.read name = .ok table) :
    ∃ columns records, table = Table.ofRecords name columns records ∧
      store.recordsOf name = .ok (records.map cellsOfTexts) ∧
      (∀ record ∈ records, record.length = columns.length) ∧
      (columns = [] → records = []) := by
  obtain ⟨bytes, file, content⟩ := read_eq_ok.mp read
  obtain ⟨columns, records, made, cells, lengths, headless⟩ := tableOfBytes_eq_ok content
  refine ⟨columns, records, made, ?_, lengths, headless⟩
  rw [recordsOf, file, ← cells]
  rfl

end FileStore

/-! ## Writing a file -/

theorem Delimited.writeCell_of_plain {delimiter : UInt8} {cell : Cell}
    (plain : ∀ b ∈ cell, needsQuotes delimiter b = false) : writeCell delimiter cell = cell := by
  rw [writeCell, if_neg (by simpa using plain)]

/-- Bytes that need no quotes may be put in front of a record, except where it would be an
empty line. -/
theorem Delimited.writeRecord_append {delimiter : UInt8} {front : List UInt8} {cell : Cell}
    {others : List Cell} (plain : ∀ b ∈ front ++ cell, needsQuotes delimiter b = false)
    (notLone : cell :: others ≠ [[]]) :
    writeRecord delimiter ((front ++ cell) :: others) =
      front ++ writeRecord delimiter (cell :: others) := by
  have whole := writeCell_of_plain plain
  have part := writeCell_of_plain fun b member => plain b (List.mem_append_right front member)
  have notLoneWhole : (front ++ cell) :: others ≠ [[]] := by
    intro lone
    obtain ⟨empty, rfl⟩ := List.cons.inj lone
    exact notLone (by rw [(List.append_eq_nil_iff.mp empty).2])
  rw [writeRecord, writeRecord, if_neg notLone, if_neg notLoneWhole]
  cases others with
  | nil => rw [writeCells, writeCells, whole, part, List.append_assoc]
  | cons next others =>
    rw [writeCells_cons_cons, writeCells_cons_cons, whole, part, List.append_assoc,
      List.append_assoc, List.append_assoc]

theorem Text.toBytes_of_marked {text : String} {rest : List Char}
    (marked : text.toList = '\ufeff' :: rest) :
    Text.toBytes text = byteOrderMark ++ Text.toBytes (String.ofList rest) := by
  rw [toBytes_eq, toBytes_eq, marked, String.toList_ofList, List.flatMap_cons]
  rfl

theorem Text.eq_empty_of_toBytes {text : String} (empty : Text.toBytes text = []) :
    text = "" := by
  have read := ofBytes_toBytes text
  rw [empty] at read
  exact (Except.ok.inj read).symm

namespace FileStore

/-- A header without quotes whose first name starts with the mark. -/
theorem writeRecord_of_marked {delimiter : UInt8} {first : String} {rest : List Char}
    (chars : first.toList = '\ufeff' :: rest)
    (plain : ∀ b ∈ Text.toBytes first, needsQuotes delimiter b = false) (others : List String) :
    writeRecord delimiter (cellsOfTexts (first :: others)) =
      byteOrderMark ++ (if rest = [] ∧ others = [] then [lineFeed]
        else writeRecord delimiter (cellsOfTexts (String.ofList rest :: others))) := by
  have bytes := Text.toBytes_of_marked chars
  rw [bytes] at plain
  rw [cellsOfTexts, List.map_cons, bytes]
  split
  · rename_i lone
    obtain ⟨rfl, rfl⟩ := lone
    rw [List.map_nil, writeRecord, if_neg (by simp [byteOrderMark]), writeCells,
      writeCell_of_plain plain]
    rfl
  · rename_i notLone
    refine writeRecord_append plain fun lone => notLone ?_
    obtain ⟨empty, noOthers⟩ := List.cons.inj lone
    have noRest := congrArg String.toList (Text.eq_empty_of_toBytes empty)
    rw [String.toList_ofList] at noRest
    exact ⟨noRest, List.map_eq_nil_iff.mp noOthers⟩

/-- The mark at the start of a file that was written is taken from its header. The line is
passed over when nothing else is in it. -/
theorem dropMark_cases (delimiter : UInt8) (first : String) (others : List String)
    (records : List (List Cell)) :
    (∃ header, header ≠ [] ∧
      dropMark (writeRecords delimiter (cellsOfTexts (first :: others) :: records)) =
        writeRecords delimiter (header :: records)) ∨
    first :: others = ["\ufeff"] ∧
      dropMark (writeRecords delimiter (cellsOfTexts (first :: others) :: records)) =
        lineFeed :: writeRecords delimiter records := by
  by_cases marked : first.toList.head? = some '\ufeff'
  · obtain ⟨rest, chars⟩ := List.head?_eq_some_iff.mp marked
    rcases writeRecord_cases delimiter (Text.toBytes first) (others.map Text.toBytes) with
      ⟨tail, quoted⟩ | ⟨plain, _⟩
    · -- the quote before the first cell hides the mark
      refine Or.inl ⟨cellsOfTexts (first :: others), List.cons_ne_nil _ _, ?_⟩
      rw [writeRecords, List.flatMap_cons, cellsOfTexts, List.map_cons, quoted]
      rfl
    · rw [writeRecords, List.flatMap_cons, writeRecord_of_marked chars plain]
      split
      · rename_i lone
        obtain ⟨rfl, rfl⟩ := lone
        cases (String.toList_inj.mp chars : first = "\ufeff")
        exact Or.inr ⟨rfl, rfl⟩
      · exact Or.inl ⟨cellsOfTexts (String.ofList rest :: others), List.cons_ne_nil _ _, rfl⟩
  · exact Or.inl ⟨_, List.cons_ne_nil _ _, dropMark_writeTexts delimiter marked others records⟩

/-- The records of a file that was written are the rows of its table, unless the line of the
header is passed over. -/
theorem dataRecords_bytesOfTable {delimiter : UInt8} (separates : IsDelimiter delimiter)
    {table : Table} (headless : table.columns = [] → table.rows = [])
    (visible : table.columns = ["\ufeff"] → table.rows = []) :
    dataRecords delimiter (bytesOfTable delimiter table) =
      table.rows.map fun row => cellsOfTexts ((table.record row).map Value.stored) := by
  cases columns : table.columns with
  | nil =>
    rw [dataRecords, bytesOfTable, recordsOfTable, if_pos columns, headless columns, recordsOfFile,
      readRecords]
    rfl
  | cons first others =>
    have someColumn : table.columns ≠ [] := by
      rw [columns]
      exact List.cons_ne_nil _ _
    rw [dataRecords, bytesOfTable, recordsOfTable_eq someColumn, columns, recordsOfFile]
    rcases dropMark_cases delimiter first others
      ((table.rows.map fun row => (table.record row).map Value.stored).map cellsOfTexts) with
      ⟨header, someCell, same⟩ | ⟨lone, same⟩
    · have allCells : ∀ cells ∈ header ::
          (table.rows.map fun row => (table.record row).map Value.stored).map cellsOfTexts,
            cells ≠ [] :=
        List.forall_mem_cons.mpr ⟨someCell, rowCells_ne_nil someColumn⟩
      rw [same, readRecords_writeRecords separates allCells, List.tail_cons, List.map_map]
      rfl
    · rw [same, visible (columns.trans lone), readRecords]
      rfl

theorem recordsOf_of_write {store after : FileStore} {table : Table}
    (write : store.write table = .ok after) :
    after.recordsOf table.name =
      .ok (dataRecords store.delimiter (bytesOfTable store.delimiter table)) := by
  obtain ⟨disk, saved, rfl⟩ := write_eq_ok.mp write
  have file := Disk.read_write saved
  unfold recordsOf
  rw [path] at file ⊢
  rw [file]
  rfl

end FileStore

/-! ## Changes of a table of records -/

/-- No condition can be evaluated on the rows of a header that is the mark. -/
theorem Condition.evaluate_of_marked {condition : Condition}
    (written : isColumn condition.field = true) (texts : List String) :
    ∃ fault, condition.evaluate (Table.rowOfTexts ["\ufeff"] texts) = .error fault := by
  have absent {name : String} (unmarked : '\ufeff' ∉ name.toList) :
      (Table.rowOfTexts ["\ufeff"] texts).get? name = none := by
    cases found : (Table.rowOfTexts ["\ufeff"] texts).get? name with
    | none => rfl
    | some value =>
      rcases NameMap.mem_of_get?_insertAll found with none | given
      · cases none
      · obtain ⟨entry, member, same⟩ := List.mem_map.mp given
        cases same
        rw [List.mem_singleton.mp (List.of_mem_zip member).1] at unmarked
        exact absurd List.mem_cons_self unmarked
  have unmarked : '\ufeff' ∉ condition.field.toList :=
    not_mem_of_isColumn written (by decide +kernel) (by decide)
  have unknown : (Table.rowOfTexts ["\ufeff"] texts).lookup? condition.field = none := by
    rw [Row.lookup?, absent unmarked, unqualified?]
    cases split : Text.splitFirst? '.' condition.field.toList with
    | none => rfl
    | some parts =>
      obtain ⟨shape, _⟩ := Text.splitFirst?_eq_some split
      rw [shape, List.mem_append, List.mem_cons, not_or, not_or] at unmarked
      exact absent (by rw [String.toList_ofList]; exact unmarked.2.2)
  exact ⟨_, by rw [evaluate, Row.lookup, unknown]; rfl⟩

/-- The record that an insert statement adds under some header: the texts of its literals, and
the empty cell where it gives none. -/
def Insertion.record (insertion : Insertion) (columns : List String) : List Cell :=
  FileStore.cellsOfTexts (columns.map fun column => (insertion.cell column).stored)

theorem Insertion.cells_record_row (insertion : Insertion) (name : String)
    (columns : List String) (rows : List Row) :
    FileStore.cellsOfTexts ((Table.record ⟨name, columns, rows⟩ (insertion.row columns)).map
      Value.stored) = insertion.record columns := by
  rw [Table.record, List.map_map, Insertion.record]
  refine congrArg FileStore.cellsOfTexts (List.map_congr_left fun column member => ?_)
  rw [Function.comp_apply, get?_row, if_pos member, Option.getD_some]

section Changes

variable {delimiter : UInt8} {name : String} {columns : List String}
  {records : List (List String)} {written : Table}

open FileStore

/-- Behind an insert the records are the earlier ones, each as it is kept, and the new one. -/
theorem dataRecords_insertRow (separates : IsDelimiter delimiter)
    (headless : columns = [] → records = []) {insertion : Insertion}
    (parsed : (Statement.insert insertion).Parsed)
    (inserted : (Table.ofRecords name columns records).insertRow insertion.columns
      (insertion.values.map Constant.toValue) = .ok written) :
    dataRecords delimiter (bytesOfTable delimiter written) =
      (records.map cellsOfTexts).map (keptCells columns) ++
        [insertion.record (insertion.header (Table.ofRecords name columns records))] := by
  have wellFormed : insertion.WellFormed := parsed.wellFormed
  obtain ⟨column, member⟩ := List.exists_mem_of_ne_nil _ wellFormed.someColumn
  have named := parsed.bareColumns insertion rfl column member
  obtain ⟨known, rfl⟩ := Table.insertRow_eq_ok inserted
  have inHeader := known column member
  -- a column of the statement is in the header, and no name is the mark
  rw [dataRecords_bytesOfTable separates (fun none => absurd none (List.ne_nil_of_mem inHeader))
    fun lone => ?visible]
  case visible =>
    have lone : insertion.header (Table.ofRecords name columns records) = ["\ufeff"] := lone
    rw [lone, List.mem_singleton] at inHeader
    exact absurd (by rw [inHeader]; rfl) (head?_ne_of_isName named)
  rw [List.map_append, List.map_singleton, Insertion.cells_record_row, Table.ofRecords,
    List.map_map, List.map_map]
  refine congrArg (· ++ _) (List.map_congr_left fun texts given => ?_)
  have sameHeader : insertion.header (Table.ofRecords name columns records) = columns :=
    if_neg fun none => absurd (headless none) (List.ne_nil_of_mem given)
  rw [Function.comp_apply, Function.comp_apply, ← Table.ofRecords, sameHeader,
    cells_record_rowOfTexts]

/-- Behind a delete the records are those that do not meet the conditions, each as it is kept.
Where the header is the mark alone, and so will be passed over, no row is left. -/
theorem dataRecords_deleteRows (separates : IsDelimiter delimiter)
    (headless : columns = [] → records = []) {deletion : Deletion}
    (parsed : (Statement.delete deletion).Parsed) {count : Nat}
    (deleted : (Table.ofRecords name columns records).deleteRows deletion.conditions =
      .ok (written, count)) :
    dataRecords delimiter (bytesOfTable delimiter written) =
      ((records.map cellsOfTexts).filter fun cells =>
        !Condition.meets deletion.conditions (rowOfCells columns cells)).map
          (keptCells columns) := by
  have wellFormed : deletion.WellFormed := parsed.wellFormed
  obtain ⟨decides, shape, _⟩ := Table.deleteRows_eq_ok deleted
  have kept : written = Table.ofRecords name columns (records.filter fun texts =>
      !Condition.meets deletion.conditions (Table.rowOfTexts columns texts)) :=
    shape.trans (congrArg (Table.mk name columns) List.filter_map)
  rw [kept, dataRecords_bytesOfTable separates (fun none => ?headless) fun lone => ?visible]
  case headless =>
    rw [Table.ofRecords, headless none]
    rfl
  case visible =>
    cases (lone : columns = ["\ufeff"])
    refine List.map_eq_nil_iff.mpr (List.filter_eq_nil_iff.mpr fun texts member => ?_)
    have decided := decides _ (List.mem_map_of_mem member)
    cases conditions : deletion.conditions with
    | nil => exact Bool.false_ne_true
    | cons condition rest =>
      have written := wellFormed.conditions condition (by rw [conditions]; exact List.mem_cons_self)
      obtain ⟨fault, fails⟩ := Condition.evaluate_of_marked written texts
      rw [Condition.Decides, conditions, Condition.evaluateAll, fails] at decided
      cases decided
  rw [List.filter_map, Table.ofRecords, List.map_map, List.map_map]
  have sameRow : ((fun cells => !Condition.meets deletion.conditions (rowOfCells columns cells)) ∘
      cellsOfTexts) = fun texts =>
        !Condition.meets deletion.conditions (Table.rowOfTexts columns texts) := by
    funext texts
    rw [Function.comp_apply, rowOfCells_cellsOfTexts]
  rw [sameRow]
  exact List.map_congr_left fun texts _ => cells_record_rowOfTexts name columns texts _

end Changes

/-! ## Statements on a file -/

/-- What an insert or a delete that succeeds leaves of the records of its file, whatever the
header is: those it keeps, in their order, and behind them the new record. Where the names of
the header are different a record is kept as it is; else the last cell under a name is put
into every column of that name. The delimiter can be told apart from quotes and line ends. -/
theorem Session.records_kept {store after : FileStore} {sql name : String} {table : Table}
    {result : Result} (separates : IsDelimiter store.delimiter)
    (read : store.read name = .ok table) (ran : executeText store sql = (.ok result, after)) :
    ∃ records, store.recordsOf name = .ok records ∧
      (table.columns.Nodup →
        ∀ cells ∈ records, FileStore.keptCells table.columns cells = cells) ∧
      (∀ insertion, Statement.ofText sql = .ok (.insert insertion) → insertion.table = name →
        after.recordsOf name = .ok (records.map (FileStore.keptCells table.columns) ++
          [insertion.record (insertion.header table)])) ∧
      ∀ deletion, Statement.ofText sql = .ok (.delete deletion) → deletion.table = name →
        after.recordsOf name = .ok ((records.filter fun cells =>
          !Condition.meets deletion.conditions (FileStore.rowOfCells table.columns cells)).map
            (FileStore.keptCells table.columns)) := by
  obtain ⟨columns, records, rfl, before, lengths, headless⟩ := FileStore.recordsOf_of_read read
  have effect := Session.effect store sql
  rw [ran] at effect
  refine ⟨_, before, fun distinct cells member => ?kept, ?inserted, ?deleted⟩
  case kept =>
    obtain ⟨texts, given, rfl⟩ := List.mem_map.mp member
    exact FileStore.keptCells_of_nodup distinct (by
      rw [FileStore.cellsOfTexts, List.length_map, lengths texts given]
      rfl)
  case inserted =>
    rintro insertion parsed rfl
    cases effect with
    | selected other => cases parsed.symm.trans other
    | deleted other => cases parsed.symm.trans other
    | inserted other found changed saved =>
      cases parsed.symm.trans other
      cases read.symm.trans found
      have written := FileStore.recordsOf_of_write saved
      rw [Table.name_of_insertRow changed] at written
      exact written.trans (congrArg Except.ok
        (dataRecords_insertRow separates headless (Statement.parsed_of_ofText parsed) changed))
  case deleted =>
    rintro deletion parsed rfl
    cases effect with
    | selected other => cases parsed.symm.trans other
    | inserted other => cases parsed.symm.trans other
    | deleted other found changed saved =>
      cases parsed.symm.trans other
      cases read.symm.trans found
      have written := FileStore.recordsOf_of_write saved
      rw [Table.name_of_deleteRows changed] at written
      exact written.trans (congrArg Except.ok
        (dataRecords_deleteRows separates headless (Statement.parsed_of_ofText parsed) changed))

/-- A record with a delimiter, a line end and quotes in one cell outlives the delete of another
record; the header is trimmed. -/
theorem Session.records_kept_quoted :
    let files (text : String) : FileStore :=
      ⟨⟨NameMap.ofList [("/", .empty), ("", NameMap.ofList [("t.csv", Text.toBytes text)])]⟩,
        FileStore.defaultFolder, FileStore.defaultDelimiter⟩
    let store := files "id, name\n1,Ada\n\n2,\x22x,\n\x22\x22y\x22\x22\x22\r\n"
    let after := files "id,name\n2,\x22x,\n\x22\x22y\x22\x22\x22\n"
    IsDelimiter store.delimiter ∧
      store.read "t" = .ok (Table.ofRecords "t" ["id", "name"]
        [["1", "Ada"], ["2", "x,\n\x22y\x22"]]) ∧
      executeText store "DELETE FROM t WHERE id = 1" = (.ok (.deleted 1), after) ∧
      ∃ records, store.recordsOf "t" = .ok records ∧ records.length = 2 ∧
        after.recordsOf "t" = .ok (records.drop 1) := by
  intro files store after
  have separates : IsDelimiter store.delimiter := ⟨by decide, by decide⟩
  have read : store.read "t" = .ok (Table.ofRecords "t" ["id", "name"]
      [["1", "Ada"], ["2", "x,\n\x22y\x22"]]) := by decide +kernel
  have ran : executeText store "DELETE FROM t WHERE id = 1" = (.ok (.deleted 1), after) := by
    decide +kernel
  have parsed : Statement.ofText "DELETE FROM t WHERE id = 1" =
      .ok (.delete ⟨"t", [⟨"id", .equal, "1"⟩]⟩) := by decide +kernel
  have there : store.recordsOf "t" = .ok ([["1", "Ada"], ["2", "x,\n\x22y\x22"]].map
      FileStore.cellsOfTexts) := by decide +kernel
  obtain ⟨records, before, kept, _, deleted⟩ := records_kept separates read ran
  cases before.symm.trans there
  refine ⟨separates, read, ran, _, there, rfl, (deleted _ parsed rfl).trans (congrArg _ ?_)⟩
  refine (List.map_congr_left fun cells member =>
    kept (by decide) cells (List.mem_filter.mp member).1).trans ?_
  decide +kernel

/-- What the conditions keep out. Under equal names, also where only trimming makes them equal,
a delete of no record writes other ones; and with a quote or a line end as the delimiter the
record of an insert is not the one that is read. -/
theorem Session.records_altered :
    let files (delimiter : UInt8) (text : String) : FileStore :=
      ⟨⟨NameMap.ofList [("/", .empty), ("", NameMap.ofList [("t.csv", Text.toBytes text)])]⟩,
        FileStore.defaultFolder, delimiter⟩
    let altered (text : String) : Prop :=
      let store := files FileStore.defaultDelimiter text
      let done := executeText store "DELETE FROM t WHERE a = 9"
      done.1 = .ok (.deleted 0) ∧ done.2.recordsOf "t" ≠ store.recordsOf "t"
    let lost (delimiter : UInt8) (text insert : String) (record : List String) : Prop :=
      let store := files delimiter text
      let done := executeText store insert
      done.1 = .ok (.inserted 1) ∧ store.recordsOf "t" = .ok [] ∧
        done.2.recordsOf "t" ≠ .ok [FileStore.cellsOfTexts record]
    altered "a,a\n1,2\n" ∧ altered "a, a\n1,2\n" ∧
      lost quote "a\x22b\n" "INSERT INTO t (a, b) VALUES ('x\x22', 'y')" ["x\x22", "y"] ∧
      lost carriageReturn "a\rb\n" "INSERT INTO t (a, b) VALUES ('', 'y')" ["", "y"] ∧
      lost lineFeed "a" "INSERT INTO t (a) VALUES ('x')" ["x"] := by
  intro files altered lost
  refine ⟨⟨?_, ?_⟩, ⟨?_, ?_⟩, ⟨?_, ?_, ?_⟩, ⟨?_, ?_, ?_⟩, ⟨?_, ?_, ?_⟩⟩ <;> decide +kernel

end TableQuery
