import TableQuery.Delimited.Reader
import TableQuery.Delimited.Writer

/-!
Records that are written are read back.

A written cell stands either between quotes or holds no byte that means something to
the reader. Either way the reader comes to its end with the bytes of the cell and
nothing else, and there it does not matter any more how it got there. A written record
is never an empty line, so none is passed over.
-/

namespace TableQuery.Delimited

/-- A byte that can separate cells: it is neither a quote nor a record end. -/
structure IsDelimiter (delimiter : UInt8) : Prop where
  notQuote : delimiter ≠ quote
  notBreak : isBreak delimiter = false

theorem IsDelimiter.ne_lineFeed {delimiter : UInt8} (separates : IsDelimiter delimiter) :
    lineFeed ≠ delimiter := by
  rintro rfl
  exact absurd separates.notBreak (by decide)

/-- Puts bytes in front of the first cell. -/
def extendCells (bytes : List UInt8) (read : List Cell × List UInt8) : List Cell × List UInt8 :=
  bytes.foldr extendCell read

theorem extendCells_cons (bytes : List UInt8) (cell : Cell) (cells : List Cell)
    (rest : List UInt8) :
    extendCells bytes (cell :: cells, rest) = ((bytes ++ cell) :: cells, rest) := by
  induction bytes with
  | nil => rfl
  | cons b bytes ih =>
    rw [extendCells, List.foldr_cons, ← extendCells, ih]
    rfl

section Reading

variable {delimiter : UInt8}

/-! ## Cells -/

/-- A byte at which the reader ends a cell. -/
def EndsCell (delimiter b : UInt8) : Prop :=
  b = delimiter ∨ isBreak b = true

theorem EndsCell.ne_quote {b : UInt8} (ends : EndsCell delimiter b)
    (separates : IsDelimiter delimiter) : b ≠ quote := by
  rintro rfl
  rcases ends with same | isBreak
  · exact separates.notQuote same.symm
  · cases isBreak

/-- Outside of quotes all modes read a byte alike, unless it is a quote. -/
theorem readRecord_outside {mode : Mode} (outside : mode ≠ .quoted) {b : UInt8}
    (notQuote : b ≠ quote) (rest : List UInt8) :
    readRecord delimiter mode (b :: rest) =
      if b = delimiter then
        ([] :: (readRecord delimiter .start rest).1, (readRecord delimiter .start rest).2)
      else if isBreak b then ([[]], rest)
      else extendCell b (readRecord delimiter .plain rest) := by
  cases mode with
  | quoted => exact absurd rfl outside
  | start => simp [readRecord, notQuote]
  | plain => simp [readRecord]
  | closing => simp [readRecord, notQuote]

theorem readRecord_plain (separates : IsDelimiter delimiter) {cell : Cell}
    (plain : ∀ b ∈ cell, needsQuotes delimiter b = false) {mode : Mode}
    (outside : mode ≠ .quoted) {last : UInt8} (ends : EndsCell delimiter last)
    (rest : List UInt8) :
    readRecord delimiter mode (cell ++ last :: rest) =
      extendCells cell (readRecord delimiter .start (last :: rest)) := by
  induction cell generalizing mode with
  | nil =>
    have notQuote := ends.ne_quote separates
    rw [List.nil_append, readRecord_outside outside notQuote, extendCells, List.foldr_nil,
      readRecord_outside (by decide) notQuote]
  | cons b cell ih =>
    have first := plain b List.mem_cons_self
    simp only [needsQuotes, Bool.or_eq_false_iff, beq_eq_false_iff_ne] at first
    obtain ⟨⟨notDelimiter, notQuote⟩, notBreak⟩ := first
    have later : readRecord delimiter .plain (cell ++ last :: rest) =
        extendCells cell (readRecord delimiter .start (last :: rest)) :=
      ih (fun b member => plain b (List.mem_cons_of_mem _ member)) (by decide)
    rw [List.cons_append, readRecord_outside outside notQuote, if_neg notDelimiter,
      if_neg (Bool.eq_false_iff.mp notBreak), later]
    rfl

theorem readRecord_escaped (separates : IsDelimiter delimiter) (cell : Cell) {last : UInt8}
    (ends : EndsCell delimiter last) (rest : List UInt8) :
    readRecord delimiter .quoted (escaped cell ++ quote :: last :: rest) =
      extendCells cell (readRecord delimiter .start (last :: rest)) := by
  have notQuote := ends.ne_quote separates
  induction cell with
  | nil =>
    have closed : readRecord delimiter .quoted (quote :: last :: rest) =
        readRecord delimiter .closing (last :: rest) := by
      simp [readRecord]
    rw [escaped, List.flatMap_nil, List.nil_append, closed,
      readRecord_outside (by decide) notQuote, extendCells, List.foldr_nil,
      readRecord_outside (by decide) notQuote]
  | cons b cell ih =>
    rw [escaped, List.flatMap_cons, ← escaped]
    by_cases isQuote : b = quote
    · subst isQuote
      simp only [if_true, List.cons_append, List.nil_append]
      have doubled (more : List UInt8) : readRecord delimiter .quoted (quote :: quote :: more) =
          extendCell quote (readRecord delimiter .quoted more) := by
        simp [readRecord]
      rw [doubled, ih]
      rfl
    · rw [if_neg isQuote, List.singleton_append, List.cons_append, readRecord, if_neg isQuote, ih]
      rfl

/-- A written cell is read back as far as it reaches. -/
theorem readRecord_writeCell (separates : IsDelimiter delimiter) (cell : Cell) {last : UInt8}
    (ends : EndsCell delimiter last) (rest : List UInt8) :
    readRecord delimiter .start (writeCell delimiter cell ++ last :: rest) =
      extendCells cell (readRecord delimiter .start (last :: rest)) := by
  unfold writeCell
  split
  · have opened (more : List UInt8) : readRecord delimiter .start (quote :: more) =
        readRecord delimiter .quoted more := by
      simp [readRecord]
    rw [List.cons_append, List.cons_append, List.append_assoc, List.singleton_append, opened,
      readRecord_escaped separates cell ends]
  · rename_i noNeed
    have plain : ∀ b ∈ cell, needsQuotes delimiter b = false := by
      simpa using noNeed
    exact readRecord_plain separates plain (by decide) ends rest

/-! ## Records -/

theorem readRecord_lineFeed (separates : IsDelimiter delimiter) {mode : Mode}
    (outside : mode ≠ .quoted) (rest : List UInt8) :
    readRecord delimiter mode (lineFeed :: rest) = ([[]], rest) := by
  have isBreak : isBreak lineFeed = true := by decide
  rw [readRecord_outside outside (by decide), if_neg separates.ne_lineFeed, if_pos isBreak]

theorem writeCells_cons_cons (delimiter : UInt8) (cell next : Cell) (others : List Cell) :
    writeCells delimiter (cell :: next :: others) =
      writeCell delimiter cell ++ delimiter :: writeCells delimiter (next :: others) :=
  rfl

theorem readRecord_writeCells (separates : IsDelimiter delimiter) {cells : List Cell}
    (someCell : cells ≠ []) (rest : List UInt8) :
    readRecord delimiter .start (writeCells delimiter cells ++ lineFeed :: rest) =
      (cells, rest) := by
  induction cells with
  | nil => exact absurd rfl someCell
  | cons cell cells ih =>
    cases cells with
    | nil =>
      rw [writeCells, readRecord_writeCell separates cell (Or.inr rfl),
        readRecord_lineFeed separates (by decide), extendCells_cons, List.append_nil]
    | cons next cells =>
      have later := ih (List.cons_ne_nil _ _)
      rw [writeCells_cons_cons, List.append_assoc, List.cons_append,
        readRecord_writeCell separates cell (Or.inl rfl),
        readRecord_outside (by decide) separates.notQuote, if_pos rfl, later, extendCells_cons,
        List.append_nil]

/-- A written record is read back. -/
theorem readRecord_writeRecord (separates : IsDelimiter delimiter) {cells : List Cell}
    (someCell : cells ≠ []) (rest : List UInt8) :
    readRecord delimiter .start (writeRecord delimiter cells ++ rest) = (cells, rest) := by
  unfold writeRecord
  split
  · rename_i lone
    subst lone
    have opened : readRecord delimiter .start ([quote, quote] ++ [lineFeed] ++ rest) =
        readRecord delimiter .closing (lineFeed :: rest) := by
      simp [readRecord]
    rw [opened, readRecord_lineFeed separates (by decide)]
  · rw [List.append_assoc, List.singleton_append]
    exact readRecord_writeCells separates someCell rest

/-- How a written record starts: with a quote, or with the first cell as it is and the
byte that ends it. An empty cell ends at a delimiter. -/
theorem writeRecord_cases (delimiter : UInt8) (cell : Cell) (others : List Cell) :
    (∃ tail, writeRecord delimiter (cell :: others) = quote :: tail) ∨
      (∀ b ∈ cell, needsQuotes delimiter b = false) ∧
      ∃ last tail, writeRecord delimiter (cell :: others) = cell ++ last :: tail ∧
        (last = delimiter ∨ last = lineFeed ∧ cell ≠ []) := by
  unfold writeRecord
  split
  · exact Or.inl ⟨_, rfl⟩
  · rename_i notLone
    by_cases needed : cell.any (needsQuotes delimiter) = true
    · have quoted : writeCell delimiter cell = quote :: (escaped cell ++ [quote]) := by
        rw [writeCell, if_pos needed]
        rfl
      refine Or.inl ?_
      cases others with
      | nil => exact ⟨_, by rw [writeCells, quoted, List.cons_append]⟩
      | cons next others =>
        exact ⟨_, by rw [writeCells_cons_cons, quoted, List.cons_append, List.cons_append]⟩
    · have plain : ∀ b ∈ cell, needsQuotes delimiter b = false := by
        simpa using needed
      have bare : writeCell delimiter cell = cell := by
        rw [writeCell, if_neg needed]
      refine Or.inr ⟨plain, ?_⟩
      cases others with
      | nil =>
        have notEmpty : cell ≠ [] := fun empty => notLone (empty ▸ rfl)
        exact ⟨lineFeed, [], by rw [writeCells, bare], Or.inr ⟨rfl, notEmpty⟩⟩
      | cons next others =>
        exact ⟨delimiter, _, by rw [writeCells_cons_cons, bare, List.append_assoc, List.cons_append],
          Or.inl rfl⟩

/-- A written record starts with a byte that ends no record. -/
theorem writeRecord_eq_cons (separates : IsDelimiter delimiter) {cells : List Cell}
    (someCell : cells ≠ []) :
    ∃ b more, writeRecord delimiter cells = b :: more ∧ isBreak b = false := by
  obtain ⟨cell, others, rfl⟩ := List.exists_cons_of_ne_nil someCell
  rcases writeRecord_cases delimiter cell others with ⟨tail, shape⟩ | ⟨plain, last, tail, shape, ends⟩
  · exact ⟨quote, tail, shape, by decide⟩
  · cases cell with
    | nil =>
      rcases ends with rfl | ⟨_, notEmpty⟩
      · exact ⟨last, tail, shape, separates.notBreak⟩
      · exact absurd rfl notEmpty
    | cons b cell =>
      have first := plain b List.mem_cons_self
      rw [needsQuotes, Bool.or_eq_false_iff] at first
      exact ⟨b, _, shape, first.2⟩

theorem readRecords_cons {bytes rest : List UInt8} {b : UInt8}
    (skipped : skipBreaks bytes = b :: rest) :
    readRecords delimiter bytes =
      ⟨(readRecord delimiter .start (b :: rest)).1, (readRecord delimiter .start (b :: rest)).2⟩ ::
        readRecords delimiter (readRecord delimiter .start (b :: rest)).2 := by
  rw [readRecords]
  split
  · rename_i none
    rw [skipped] at none
    cases none
  · rename_i found
    rw [skipped] at found
    cases found
    rfl

/-- The records of a written file are those that were written. -/
theorem readRecords_writeRecords (separates : IsDelimiter delimiter) {records : List (List Cell)}
    (someCell : ∀ cells ∈ records, cells ≠ []) :
    (readRecords delimiter (writeRecords delimiter records)).map (·.cells) = records := by
  induction records with
  | nil =>
    rw [writeRecords, List.flatMap_nil, readRecords]
    rfl
  | cons cells records ih =>
    have first := someCell cells List.mem_cons_self
    have later := ih fun cells member => someCell cells (List.mem_cons_of_mem _ member)
    obtain ⟨b, more, shape, notBreak⟩ := writeRecord_eq_cons separates first
    have read := readRecord_writeRecord separates first (writeRecords delimiter records)
    rw [writeRecords, List.flatMap_cons, ← writeRecords]
    rw [shape, List.cons_append] at read ⊢
    have skipped : skipBreaks (b :: (more ++ writeRecords delimiter records)) =
        b :: (more ++ writeRecords delimiter records) := by
      rw [skipBreaks, List.dropWhile_cons, notBreak]
      rfl
    rw [readRecords_cons skipped, read, List.map_cons, later]

end Reading

end TableQuery.Delimited
