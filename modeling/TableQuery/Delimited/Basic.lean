/-!
Delimited text: records of cells as bytes.

Cells are separated by a delimiter and records end with a line feed, a carriage
return or both. A cell that starts with a quote reaches to the closing quote and may
hold anything, a quote inside it being doubled.
-/

namespace TableQuery.Delimited

/-- The bytes of a cell. -/
abbrev Cell := List UInt8

/-- The double quote. -/
def quote : UInt8 := 0x22

/-- The line feed. -/
def lineFeed : UInt8 := 0x0a

/-- The carriage return. -/
def carriageReturn : UInt8 := 0x0d

/-- A byte that ends a record. -/
def isBreak (b : UInt8) : Bool :=
  b == lineFeed || b == carriageReturn

/-- The mark that a text may start with. -/
def byteOrderMark : List UInt8 := [0xef, 0xbb, 0xbf]

end TableQuery.Delimited
