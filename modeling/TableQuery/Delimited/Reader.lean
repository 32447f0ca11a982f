import TableQuery.Delimited.Basic

/-!
Reading delimited text into records.

A record is read byte by byte; `Mode` tells where in a cell the reader stands. Empty
lines between records are passed over. A record's place in the file is that of the
byte after the one that ended the record before, so the line feed of a pair of
carriage return and line feed belongs to the record that follows.
-/

namespace TableQuery.Delimited

/-- Where in a cell the reader stands. -/
inductive Mode
  /-- Before the first byte of a cell. -/
  | start
  /-- Outside of quotes. -/
  | plain
  /-- Inside of quotes. -/
  | quoted
  /-- After a quote inside of quotes. -/
  | closing
deriving DecidableEq

/-- Puts a byte in front of the first cell. -/
def extendCell (b : UInt8) : List Cell × List UInt8 → List Cell × List UInt8
  | ([], rest) => ([[b]], rest)
  | (cell :: cells, rest) => ((b :: cell) :: cells, rest)

/-- The cells up to the end of the record, and the bytes after it. -/
def readRecord (delimiter : UInt8) : Mode → List UInt8 → List Cell × List UInt8
  | _, [] => ([[]], [])
  | .quoted, b :: rest =>
    if b = quote then readRecord delimiter .closing rest
    else extendCell b (readRecord delimiter .quoted rest)
  | mode, b :: rest =>
    if mode = .start ∧ b = quote then readRecord delimiter .quoted rest
    else if mode = .closing ∧ b = quote then
      extendCell b (readRecord delimiter .quoted rest)
    else if b = delimiter then
      let (cells, rest) := readRecord delimiter .start rest
      ([] :: cells, rest)
    else if isBreak b then ([[]], rest)
    else extendCell b (readRecord delimiter .plain rest)

/-- The bytes from the next record on. -/
def skipBreaks (bytes : List UInt8) : List UInt8 :=
  bytes.dropWhile isBreak

theorem extendCell_rest (b : UInt8) (read : List Cell × List UInt8) :
    (extendCell b read).2 = read.2 := by
  obtain ⟨_ | ⟨cell, cells⟩, rest⟩ := read <;> rfl

/-- Reading goes forward. -/
theorem readRecord_length (delimiter : UInt8) (mode : Mode) (bytes : List UInt8) :
    (readRecord delimiter mode bytes).2.length ≤ bytes.length - 1 := by
  induction bytes generalizing mode with
  | nil => simp [readRecord]
  | cons b rest ih =>
    have shorter : ∀ mode, (readRecord delimiter mode rest).2.length ≤ rest.length :=
      fun mode => Nat.le_trans (ih mode) (Nat.sub_le _ _)
    unfold readRecord
    split
    · simp_all
    · rename_i eq
      cases eq
      split <;> simp [extendCell_rest, shorter]
    · rename_i eq
      cases eq
      split
      · simp [shorter]
      · split
        · simp [extendCell_rest, shorter]
        · split
          · simp [shorter]
          · split
            · simp
            · simp [extendCell_rest, shorter]

/-- A record. -/
structure Record where
  cells : List Cell
  /-- The bytes after it. -/
  rest : List UInt8
deriving DecidableEq

/-- A record leaves fewer bytes than there were before it. -/
theorem readRecord_shorter {bytes rest : List UInt8} {b : UInt8} (delimiter : UInt8)
    (skipped : skipBreaks bytes = b :: rest) :
    (readRecord delimiter .start (b :: rest)).2.length < bytes.length := by
  have read := readRecord_length delimiter .start (b :: rest)
  have skip := (List.dropWhile_suffix isBreak (l := bytes)).sublist.length_le
  rw [skipBreaks] at skipped
  rw [skipped] at skip
  simp only [List.length_cons, Nat.add_sub_cancel] at read skip
  omega

/-- The records of some bytes. -/
def readRecords (delimiter : UInt8) (bytes : List UInt8) : List Record :=
  match skipped : skipBreaks bytes with
  | [] => []
  | b :: rest =>
    have := readRecord_shorter delimiter skipped
    let read := readRecord delimiter .start (b :: rest)
    ⟨read.1, read.2⟩ :: readRecords delimiter read.2
termination_by bytes.length

/-- The bytes after the byte order mark, if there is one. -/
def dropMark (bytes : List UInt8) : List UInt8 :=
  if byteOrderMark.isPrefixOf bytes then bytes.drop byteOrderMark.length else bytes

/-- The records of a file. -/
def recordsOfFile (delimiter : UInt8) (bytes : List UInt8) : List Record :=
  readRecords delimiter (dropMark bytes)

/-! ## Positions -/

/-- Where a record of a file starts. -/
structure Position where
  /-- The number of the record; the header has number zero. -/
  record : Nat
  file : List UInt8
  /-- The bytes of the file that are left when the record is read. -/
  left : List UInt8

namespace Position

/-- The number of bytes before the record. -/
def byte (position : Position) : Nat :=
  position.file.length - position.left.length

/-- The line of the record, counted from one. -/
def line (position : Position) : Nat :=
  1 + (position.file.take position.byte).count lineFeed

end Position

/-- The positions of records that follow one another, from a given one on. -/
def positions (position : Position) : List Record → List Position
  | [] => []
  | record :: records =>
    position :: positions ⟨position.record + 1, position.file, record.rest⟩ records

end TableQuery.Delimited
