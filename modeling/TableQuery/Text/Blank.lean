import TableQuery.Text.Ranges

/-!
Blank characters (the Unicode property `White_Space`) and trimming.

Blanks separate the tokens of a statement, and they are cut from both ends of
header names and of number texts.
-/

namespace TableQuery.Text

/-- Code point ranges of the property `White_Space`. -/
def blankRanges : CodeRanges :=
  [(0x9, 0xd), (0x20, 0x20), (0x85, 0x85), (0xa0, 0xa0), (0x1680, 0x1680),
    (0x2000, 0x200a), (0x2028, 0x2029), (0x202f, 0x202f), (0x205f, 0x205f),
    (0x3000, 0x3000)]

/-- A space, tab, line end or other blank character. -/
def isBlank (c : Char) : Bool :=
  blankRanges.contains c.toNat

/-- A text without the blanks at both of its ends. -/
def trim (cs : List Char) : List Char :=
  ((cs.dropWhile isBlank).reverse.dropWhile isBlank).reverse

/-- Nothing but blanks, or nothing at all. -/
def allBlank (cs : List Char) : Bool :=
  cs.all isBlank

end TableQuery.Text
