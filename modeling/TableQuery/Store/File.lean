import TableQuery.Delimited.Reader
import TableQuery.Delimited.Writer
import TableQuery.Store.Basic
import TableQuery.Store.Disk
import TableQuery.Text.Blank
import TableQuery.Text.Utf8

/-!
The store that keeps each table as a file of delimited text.

The first record of a file is the header, whose names are trimmed. Every other record
has as many cells as the header and is a row of texts. A table is written as a whole,
and one without columns as an empty file.
-/

namespace TableQuery

/-- A folder of table files. -/
structure FileStore where
  disk : Disk
  folder : String
  delimiter : UInt8
deriving DecidableEq

namespace FileStore

/-- The folder of a store that names none: the current one. -/
def defaultFolder : String := "."

/-- The delimiter of a store that names none: the comma. -/
def defaultDelimiter : UInt8 := 0x2c

/-! ## Names and bytes of files -/

/-- The path of the file of a table in a folder. -/
def pathOf (folder name : String) : String :=
  Path.inFolder folder (name ++ ".csv")

/-- The path of the file of a table. -/
def path (store : FileStore) (name : String) : String :=
  pathOf store.folder name

/-- The cells of a header or a row as bytes. -/
def cellsOfTexts (texts : List String) : List Delimited.Cell :=
  texts.map Text.toBytes

/-- The records of a table: its header, then its rows. -/
def recordsOfTable (table : Table) : List (List Delimited.Cell) :=
  if table.columns = [] then []
  else
    cellsOfTexts table.columns ::
      table.rows.map fun row => cellsOfTexts ((table.record row).map Value.stored)

/-- The bytes of a table's file. -/
def bytesOfTable (delimiter : UInt8) (table : Table) : List UInt8 :=
  Delimited.writeRecords delimiter (recordsOfTable table)

/-! ## Tables of files -/

/-- The texts of a record's cells. The fault tells the first cell that is not a text. -/
def textsOfCells (position : Delimited.Position) (cells : List Delimited.Cell) :
    Except FileFault (List String) :=
  cells.zipIdx.mapM fun (cell, index) =>
    match Text.ofBytes cell with
    | .ok text => .ok text
    | .error valid =>
      .error (.notUtf8 position.record position.line position.byte index valid)

/-- The header name that a cell text is. -/
def columnName (text : String) : String :=
  String.ofList (Text.trim text.toList)

/-- The row of a record, which must have a cell for every column. -/
def rowOfRecord (columns : List String) (position : Delimited.Position)
    (cells : List Delimited.Cell) : Except FileFault Row :=
  if cells.length = columns.length then
    (textsOfCells position cells).map (Table.rowOfTexts columns)
  else
    .error <| .unequalLengths position.record position.line position.byte
      cells.length columns.length

/-- The table of a file. -/
def tableOfBytes (delimiter : UInt8) (name : String) (bytes : List UInt8) :
    Except FileFault Table :=
  match Delimited.recordsOfFile delimiter bytes with
  | [] => .ok ⟨name, [], []⟩
  | header :: records => do
    let texts ← textsOfCells ⟨0, bytes, bytes⟩ header.cells
    let columns := texts.map columnName
    let positions := Delimited.positions ⟨1, bytes, header.rest⟩ records
    let rows ← (positions.zip records).mapM fun (position, record) =>
      rowOfRecord columns position record.cells
    return ⟨name, columns, rows⟩

/-! ## The store -/

/-- The table of a name. -/
def read (store : FileStore) (name : String) : Except Fault Table :=
  (store.disk.read (store.path name) >>= tableOfBytes store.delimiter name).mapError
    (.file (store.path name))

/-- The store with a table in place of the one of its name. -/
def write (store : FileStore) (table : Table) : Except Fault FileStore :=
  match store.disk.write (store.path table.name) (bytesOfTable store.delimiter table) with
  | .ok disk => .ok { store with disk }
  | .error fault => .error (.file (store.path table.name) fault)

instance : Store FileStore where
  read := read
  write := write

theorem read_of_file {store : FileStore} {name : String} {bytes : List UInt8}
    (file : store.disk.read (store.path name) = .ok bytes) :
    store.read name =
      (tableOfBytes store.delimiter name bytes).mapError (.file (store.path name)) := by
  unfold read
  rw [file]
  rfl

/-- A table is read when its file is, and the file's bytes are those of a table. -/
theorem read_eq_ok {store : FileStore} {name : String} {table : Table} :
    store.read name = .ok table ↔
      ∃ bytes, store.disk.read (store.path name) = .ok bytes ∧
        tableOfBytes store.delimiter name bytes = .ok table := by
  constructor
  · intro found
    cases file : store.disk.read (store.path name) with
    | error fault =>
      unfold read at found
      rw [file] at found
      cases found
    | ok bytes =>
      rw [read_of_file file] at found
      cases decoded : tableOfBytes store.delimiter name bytes with
      | error fault =>
        rw [decoded] at found
        cases found
      | ok given =>
        rw [decoded] at found
        cases found
        exact ⟨bytes, rfl, decoded⟩
  · rintro ⟨bytes, file, decoded⟩
    rw [read_of_file file, decoded]
    rfl

/-- A table is written when the disk takes its file. -/
theorem write_eq_ok {store written : FileStore} {table : Table} :
    store.write table = .ok written ↔
      ∃ disk, store.disk.write (store.path table.name) (bytesOfTable store.delimiter table) =
        .ok disk ∧ { store with disk } = written := by
  unfold write
  split
  · rename_i disk saved
    simp [saved]
  · rename_i fault failed
    simp [failed]

end FileStore

end TableQuery
