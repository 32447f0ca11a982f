import TableQuery.Proofs.Atomicity
import TableQuery.Proofs.FileRoundTrip
import TableQuery.Proofs.Spelling
import TableQuery.Proofs.WholeTable

/-!
The files of the tables of one folder.

A path that a table is written to ends in a name of its own, whatever the folder is, so
writing one table leaves the files of the others alone (`FileStore.read_of_write_other`).
A table whose cells are all texts and whose rows fill its header (`Table.Plain`) is the
table that is read from the file written for it, whatever the delimiter is, and
also when it has no header at all (`FileStore.read_of_write`).
-/

namespace TableQuery

/-! ## The last name of a path -/

namespace Path

theorem names_ne_nil (cs : List Char) : names cs ≠ [] := by
  cases cs with
  | nil => exact List.cons_ne_nil _ _
  | cons c rest =>
    rw [names]
    split
    · exact List.cons_ne_nil _ _
    · split <;> exact List.cons_ne_nil _ _

theorem names_append_slash (front back : List Char) :
    names (front ++ '/' :: back) = names front ++ names back := by
  induction front with
  | nil => rfl
  | cons c front ih =>
    rw [List.cons_append, names, names, ih]
    split
    · rfl
    · cases shape : names front with
      | nil => exact absurd shape (names_ne_nil front)
      | cons name later => rfl

theorem names_of_noSlash {cs : List Char} (noSlash : '/' ∉ cs) : names cs = [cs] := by
  induction cs with
  | nil => rfl
  | cons c rest ih =>
    rw [List.mem_cons, not_or] at noSlash
    rw [names, if_neg (Ne.symm noSlash.1), ih noSlash.2]

/-- A name that leads somewhere is the last on the way to it in a folder. -/
theorem steps_inFolder {name : String} (noSlash : '/' ∉ name.toList)
    (leads : name.toList ≠ [] ∧ name.toList ≠ ['.']) (folder : String) :
    ∃ before, steps (inFolder folder name) = before ++ [name] := by
  have alone : steps name = [name] := by
    rw [steps, names_of_noSlash noSlash]
    simp [leads, String.ofList_toList]
  have behind {path : String} {front : List Char}
      (shape : path.toList = front ++ '/' :: name.toList) :
      ∃ before, steps path = before ++ [name] := by
    rw [steps, shape, names_append_slash, List.filter_append, List.map_append]
    exact ⟨_, congrArg _ alone⟩
  unfold inFolder
  split
  · exact ⟨[], alone⟩
  · split
    · rename_i slash
      obtain ⟨front, shape⟩ := List.getLast?_eq_some_iff.mp slash
      exact behind (by rw [String.toList_append, shape, List.append_assoc]; rfl)
    · exact behind (by rw [String.toList_append, String.toList_append, List.append_assoc]; rfl)

end Path

namespace Disk

theorem lastName_of_follow {disk : Disk} {names : List String} {last : String} {here place : Place}
    (proper : last ≠ "..") (followed : disk.follow here (names ++ [last]) = .ok place) :
    place.lastName = last := by
  induction names generalizing here with
  | nil =>
    cases followed
    rw [Place.step, if_neg proper, Place.lastName, List.getLastD_concat]
  | cons name names ih =>
    obtain ⟨next, later, shape⟩ : ∃ next later, names ++ [last] = next :: later :=
      List.exists_cons_of_ne_nil (by simp)
    rw [List.cons_append, shape, follow, ← shape] at followed
    · split at followed
      · exact ih followed
      · cases followed
      · cases followed
    · exact List.cons_ne_nil _ _

/-! ## Reading behind a write -/

theorem at?_eq_file_iff {disk : Disk} {place : Place} {bytes : List UInt8} :
    disk.at? place = some (.file bytes) ↔ disk.folders.get? place.path = none ∧
      disk.file? place.parent.path place.lastName = some bytes := by
  unfold at? file?
  cases disk.folders.get? place.path with
  | some folder => simp
  | none =>
    cases (disk.folders.get? place.parent.path).bind (·.get? place.lastName) <;> simp

/-- What is read is a file of its folder, and no folder is in its place. -/
theorem read_eq_ok {disk : Disk} {path : String} {bytes : List UInt8} :
    disk.read path = .ok bytes ↔ ∃ place, disk.place path = .ok place ∧
      disk.folders.get? place.path = none ∧
      disk.file? place.parent.path place.lastName = some bytes := by
  simp only [← at?_eq_file_iff]
  unfold Disk.read
  cases disk.place path with
  | error fault => simp [bind, Except.bind]
  | ok place =>
    rcases entry : disk.at? place with _ | _ | _ <;>
      simp [bind, Except.bind, pure, Except.pure, entry]

/-- A path takes a file when one can be read there. -/
theorem accepts_of_read {disk : Disk} {path : String} {bytes : List UInt8}
    (read : disk.read path = .ok bytes) : disk.Accepts path := by
  obtain ⟨place, found, noFolder, file⟩ := read_eq_ok.mp read
  refine ⟨place, found, ?_, ?_⟩
  · rw [Ne, at?_eq_folder_iff, noFolder]
    exact Bool.false_ne_true
  · obtain ⟨folder, there, _⟩ := Option.bind_eq_some_iff.mp file
    rw [there]
    rfl

/-- A file is read as before when a file of another name was written. -/
theorem read_of_write_other {disk written : Disk} {path other : String}
    {bytes old : List UInt8} (write : disk.write path bytes = .ok written)
    (read : disk.read other = .ok old)
    (apart : ∀ {place otherPlace}, disk.place path = .ok place →
      disk.place other = .ok otherPlace → otherPlace.lastName ≠ place.lastName) :
    written.read other = .ok old := by
  obtain ⟨place, folder, found, _, parent, rfl⟩ := write_eq_ok.mp write
  obtain ⟨otherPlace, otherFound, noFolder, file⟩ := read_eq_ok.mp read
  have folders := at?_eq_folder_insert parent (folder.insert place.lastName bytes)
  refine read_eq_ok.mpr ⟨otherPlace, follow_eq_of_folders folders otherFound, ?_, ?_⟩
  · have kept := folders otherPlace
    rw [at?_eq_folder_iff, at?_eq_folder_iff, noFolder] at kept
    simpa using kept
  · rw [file?_insert parent, if_neg, file]
    intro same
    exact apart found otherFound (Prod.mk.inj same).2

end Disk

/-! ## The byte order mark -/

theorem Text.toBytes_eq (text : String) :
    Text.toBytes text = text.toList.flatMap String.utf8EncodeChar := by
  have bytes : text.toByteArray = (text.toList.flatMap String.utf8EncodeChar).toByteArray := by
    rw [← List.utf8Encode, ← String.toByteArray_ofList, String.ofList_toList]
  have same : Text.toBytes text = text.toByteArray.data.toList := rfl
  rw [same, bytes, List.data_toByteArray]

/-- The first byte of a character is no continuing byte, and tells how many of them follow. -/
theorem Text.utf8EncodeChar_cases (c : Char) :
    ∃ b more, String.utf8EncodeChar c = b :: more ∧
      (b.toNat < 0x80 ∨ 0xc0 ≤ b.toNat) ∧ (0xe0 ≤ b.toNat → 2 ≤ more.length) := by
  unfold String.utf8EncodeChar
  dsimp only
  generalize c.val.toNat = code
  split
  · exact ⟨_, _, rfl, by simp; omega, by simp; omega⟩
  · split
    · exact ⟨_, _, rfl, by simp; omega, by simp; omega⟩
    · split
      · exact ⟨_, _, rfl, by simp; omega, by simp⟩
      · exact ⟨_, _, rfl, by simp; omega, by simp⟩

theorem Text.toBytes_cases (text : String) :
    Text.toBytes text = [] ∨ ∃ b more, Text.toBytes text = b :: more ∧
      (b.toNat < 0x80 ∨ 0xc0 ≤ b.toNat) ∧ (0xe0 ≤ b.toNat → 2 ≤ more.length) := by
  rw [toBytes_eq]
  cases text.toList with
  | nil => exact Or.inl rfl
  | cons c rest =>
    obtain ⟨b, more, bytes, starts, long⟩ := utf8EncodeChar_cases c
    refine Or.inr ⟨b, more ++ rest.flatMap String.utf8EncodeChar, ?_, starts, fun high => ?_⟩
    · rw [List.flatMap_cons, bytes, List.cons_append]
    · have enough := long high
      rw [List.length_append]
      omega

open Delimited

/-- The first byte of some cells as they are written is the start of a character or the
delimiter. -/
theorem FileStore.head_writeCells {delimiter : UInt8} {texts : List String} {b : UInt8}
    {rest : List UInt8}
    (shape : writeCells delimiter (cellsOfTexts texts) ++ [lineFeed] = b :: rest) :
    b = delimiter ∨ b.toNat < 0x80 ∨ 0xc0 ≤ b.toNat := by
  cases texts with
  | nil =>
    cases shape
    exact Or.inr (Or.inl (by decide))
  | cons first others =>
    -- the first cell is followed by a delimiter or by the end of the record
    obtain ⟨last, tail, cells, ends⟩ : ∃ last tail,
        writeCells delimiter (cellsOfTexts (first :: others)) ++ [lineFeed] =
          writeCell delimiter (Text.toBytes first) ++ last :: tail ∧
        (last = delimiter ∨ last = lineFeed) := by
      cases others with
      | nil => exact ⟨_, _, rfl, Or.inr rfl⟩
      | cons next others =>
        refine ⟨delimiter, writeCells delimiter (cellsOfTexts (next :: others)) ++ [lineFeed],
          ?_, Or.inl rfl⟩
        simp [cellsOfTexts, writeCells_cons_cons]
    rw [cells, writeCell] at shape
    split at shape
    · cases shape
      exact Or.inr (Or.inl (by decide))
    · rcases Text.toBytes_cases first with empty | ⟨c, more, bytes, starts, _⟩
      · rw [empty] at shape
        cases shape
        rcases ends with same | same
        · exact Or.inl same
        · exact Or.inr (Or.inl (by rw [same]; decide))
      · rw [bytes] at shape
        cases shape
        exact Or.inr starts

/-- The file of some texts does not start with the mark, unless the first of them does. -/
theorem FileStore.dropMark_writeTexts (delimiter : UInt8) {first : String}
    (unmarked : first.toList.head? ≠ some '\ufeff') (others : List String)
    (records : List (List Cell)) :
    dropMark (writeRecords delimiter (cellsOfTexts (first :: others) :: records)) =
      writeRecords delimiter (cellsOfTexts (first :: others) :: records) := by
  have noMark : ¬ byteOrderMark <+:
      writeRecords delimiter (cellsOfTexts (first :: others) :: records) := by
    intro marked
    rw [writeRecords, List.flatMap_cons, cellsOfTexts, List.map_cons] at marked
    rcases Text.toBytes_cases first with empty | ⟨b, more, bytes, _, long⟩
    · -- the mark would start with the delimiter, and the next cell with a continuing byte
      rw [empty] at marked
      cases others with
      | nil => exact absurd (List.cons_prefix_cons.mp marked).1 (by decide)
      | cons next others =>
        have shape : writeRecord delimiter
            ([] :: List.map Text.toBytes (next :: others)) =
              delimiter :: (writeCells delimiter (cellsOfTexts (next :: others)) ++
                [lineFeed]) := by
          rw [writeRecord, if_neg (by simp)]
          rfl
        rw [shape, List.cons_append] at marked
        obtain ⟨same, marked⟩ := List.cons_prefix_cons.mp marked
        cases cells : writeCells delimiter (cellsOfTexts (next :: others)) ++ [lineFeed] with
        | nil => simp at cells
        | cons b tail =>
          rw [cells, List.cons_append] at marked
          obtain ⟨rfl, _⟩ := List.cons_prefix_cons.mp marked
          rcases head_writeCells cells with again | low | high
          · rw [← same] at again
            exact absurd again (by decide)
          · exact absurd low (by decide)
          · exact absurd high (by decide)
    · have whole : byteOrderMark <+: Text.toBytes first := by
        rcases writeRecord_cases delimiter (Text.toBytes first)
          (others.map Text.toBytes) with ⟨tail, shape⟩ | ⟨_, last, tail, shape, _⟩
        · rw [shape, List.cons_append] at marked
          exact absurd (List.cons_prefix_cons.mp marked).1 (by decide)
        · rw [shape, List.append_assoc] at marked
          refine List.prefix_of_prefix_length_le marked (List.prefix_append _ _) ?_
          rw [bytes, List.cons_append] at marked
          obtain ⟨rfl, _⟩ := List.cons_prefix_cons.mp marked
          have enough := long (by decide)
          rw [bytes, List.length_cons]
          exact Nat.succ_le_succ enough
      exact unmarked (Text.head?_of_byteOrderMark whole)
  rw [dropMark, if_neg fun found => noMark (List.isPrefixOf_iff_prefix.mp found)]

/-! ## Tables of texts -/

/-- A table that its file tells completely: the header is one that a file keeps, and every
row has a text in every column and nothing else. Without a header there is no row. -/
structure Table.Plain (table : Table) : Prop where
  trimmed : ∀ column ∈ table.columns, FileStore.columnName column = column
  unmarked : ∀ column ∈ table.columns.head?, column.toList.head? ≠ some '\ufeff'
  filled : table.Filled
  texts : ∀ row ∈ table.rows, ∀ name value, row.get? name = some value →
    ∃ text, value = .text text
  headless : table.columns = [] → table.rows = []

/-- A table of records that are as long as its header is one of texts. -/
theorem Table.plain_ofRecords {name : String} {columns : List String}
    {records : List (List String)}
    (trimmed : ∀ column ∈ columns, FileStore.columnName column = column)
    (unmarked : ∀ column ∈ columns.head?, column.toList.head? ≠ some '\ufeff')
    (sameLength : ∀ record ∈ records, record.length = columns.length)
    (headless : columns = [] → records = []) : (Table.ofRecords name columns records).Plain where
  trimmed := trimmed
  unmarked := unmarked
  filled := filled_ofRecords fun record member => Nat.le_of_eq (sameLength record member).symm
  texts row member name value found := by
    obtain ⟨record, _, rfl⟩ := List.mem_map.mp member
    rcases NameMap.mem_of_get?_insertAll found with absent | given
    · cases absent
    · obtain ⟨entry, _, same⟩ := List.mem_map.mp given
      exact ⟨entry.2, (Prod.mk.inj same).2.symm⟩
  headless none := by
    rw [ofRecords, headless none, List.map_nil]

namespace FileStore

theorem storedRow_of_plain {table : Table} (plain : table.Plain) {row : Row}
    (member : row ∈ table.rows) : storedRow table row = row := by
  refine NameMap.ext_get? fun name => ?_
  rw [get?_storedRow]
  have present := plain.filled row member name
  cases found : row.get? name with
  | none =>
    rw [found] at present
    have absent : name ∉ table.columns := fun inHeader => by
      cases present.mpr inHeader
    rw [if_neg absent]
  | some value =>
    obtain ⟨text, rfl⟩ := plain.texts row member name value found
    rw [found] at present
    rw [if_pos (present.mp rfl)]
    rfl

theorem tableOfBytes_of_plain {delimiter : UInt8} (separates : IsDelimiter delimiter)
    {table : Table} (plain : table.Plain) :
    tableOfBytes delimiter table.name (bytesOfTable delimiter table) = .ok table := by
  by_cases someColumn : table.columns = []
  · have noRows := plain.headless someColumn
    have read : recordsOfFile delimiter (bytesOfTable delimiter table) = [] := by
      rw [bytesOfTable, recordsOfTable, if_pos someColumn, recordsOfFile, readRecords]
      rfl
    obtain ⟨name, columns, rows⟩ := table
    cases someColumn
    cases noRows
    rw [tableOfBytes, read]
  · have storable : Storable table := ⟨someColumn, plain.trimmed, plain.unmarked⟩
    have unmarked : dropMark (bytesOfTable delimiter table) = bytesOfTable delimiter table := by
      obtain ⟨first, others, columns⟩ := List.exists_cons_of_ne_nil someColumn
      have unmarked := plain.unmarked first (by rw [columns]; rfl)
      rw [bytesOfTable, recordsOfTable_eq someColumn, columns]
      exact dropMark_writeTexts delimiter unmarked others _
    have same : table.rows.map (storedRow table) = table.rows :=
      (List.map_congr_left fun row member => storedRow_of_plain plain member).trans
        (List.map_id _)
    rw [tableOfBytes_of_unmarked separates storable unmarked, same]

/-! ## Tables of one folder -/

/-- The file of a table has a name of its own. -/
theorem lastName_of_place {store : FileStore} {name : String} (named : isName name = true)
    {place : Place} (found : store.disk.place (store.path name) = .ok place) :
    place.lastName = name ++ ".csv" := by
  have noSlash : '/' ∉ (name ++ ".csv").toList := by
    rw [String.toList_append, List.mem_append, not_or]
    exact ⟨not_mem_of_isName named (by decide), by decide⟩
  have long : 4 ≤ (name ++ ".csv").toList.length := by
    simp
  have leads : (name ++ ".csv").toList ≠ [] ∧ (name ++ ".csv").toList ≠ ['.'] := by
    constructor <;> intro same <;> rw [same] at long <;> simp at long
  obtain ⟨before, steps⟩ := Path.steps_inFolder noSlash leads store.folder
  have proper : name ++ ".csv" ≠ ".." := fun same => by
    rw [same] at long
    revert long
    decide
  rw [Disk.place, path, pathOf, steps] at found
  exact Disk.lastName_of_follow proper found

/-- A table that can be read can be written. -/
theorem exists_write_of_read {store : FileStore} {table old : Table}
    (read : store.read table.name = .ok old) : ∃ after, store.write table = .ok after := by
  obtain ⟨_, file, _⟩ := read_eq_ok.mp read
  obtain ⟨disk, saved⟩ := (Disk.accepts_iff (bytesOfTable store.delimiter table)).mp
    (Disk.accepts_of_read file)
  exact ⟨_, write_eq_ok.mpr ⟨disk, saved, rfl⟩⟩

/-- A table of texts is read back as it was written. -/
theorem read_of_write {store after : FileStore} (separates : IsDelimiter store.delimiter)
    {table : Table} (plain : table.Plain) (write : store.write table = .ok after) :
    after.read table.name = .ok table := by
  obtain ⟨disk, saved, rfl⟩ := write_eq_ok.mp write
  exact read_eq_ok.mpr ⟨_, Disk.read_write saved, tableOfBytes_of_plain separates plain⟩

/-- A table is read as before when another one was written. -/
theorem read_of_write_other {store after : FileStore} {table found : Table} {name : String}
    (tableNamed : isName table.name = true) (named : isName name = true)
    (different : name ≠ table.name) (write : store.write table = .ok after)
    (read : store.read name = .ok found) : after.read name = .ok found := by
  obtain ⟨disk, saved, rfl⟩ := write_eq_ok.mp write
  obtain ⟨bytes, file, content⟩ := read_eq_ok.mp read
  refine read_eq_ok.mpr ⟨bytes, Disk.read_of_write_other saved file ?_, content⟩
  intro place otherPlace written kept same
  rw [lastName_of_place tableNamed written, lastName_of_place named kept] at same
  rw [← String.toList_inj, String.toList_append, String.toList_append] at same
  exact different (String.toList_inj.mp (List.append_cancel_right same))

end FileStore

end TableQuery
