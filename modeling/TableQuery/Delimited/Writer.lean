import TableQuery.Delimited.Basic

/-!
Writing records as delimited text.

A cell is quoted only when it holds a delimiter, a quote or a record end. A record
that is one empty cell is written as a pair of quotes, since an empty line would be
passed over.
-/

namespace TableQuery.Delimited

/-- A byte that cannot stand in a cell without quotes. -/
def needsQuotes (delimiter b : UInt8) : Bool :=
  b == delimiter || b == quote || isBreak b

/-- The inside of a quoted cell, with every quote doubled. -/
def escaped (cell : Cell) : List UInt8 :=
  cell.flatMap fun b => if b = quote then [quote, quote] else [b]

/-- A cell as it is written. -/
def writeCell (delimiter : UInt8) (cell : Cell) : List UInt8 :=
  if cell.any (needsQuotes delimiter) then quote :: escaped cell ++ [quote] else cell

/-- Cells as they are written, with delimiters between them. -/
def writeCells (delimiter : UInt8) : List Cell → List UInt8
  | [] => []
  | [cell] => writeCell delimiter cell
  | cell :: cells => writeCell delimiter cell ++ delimiter :: writeCells delimiter cells

/-- A record as it is written. -/
def writeRecord (delimiter : UInt8) (cells : List Cell) : List UInt8 :=
  (if cells = [[]] then [quote, quote] else writeCells delimiter cells) ++ [lineFeed]

/-- A file of some records. -/
def writeRecords (delimiter : UInt8) (records : List (List Cell)) : List UInt8 :=
  records.flatMap (writeRecord delimiter)

end TableQuery.Delimited
