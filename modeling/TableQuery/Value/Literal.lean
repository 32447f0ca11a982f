import TableQuery.Value.Basic
import TableQuery.Binary64.Decimal
import TableQuery.Text.Blank

/-!
Reading a literal text as a value.

One pair of quotes around the text is dropped. What is left is a number when all
of it, blanks at the ends aside, is a number text, and otherwise a text. Integers
are read exactly as long as they fit into 64 bits; larger ones and decimals become
the nearest float, and a number too large for that stays a text.
-/

namespace TableQuery.Value

/-- Drops one pair of a given quote from around a text. -/
def unquote? (quote : Char) : List Char → Option (List Char)
  | [] => none
  | first :: rest =>
    if first = quote ∧ rest.getLast? = some quote then some rest.dropLast else none

/-- Drops one pair of single quotes, or else of double quotes, from around a text. -/
def stripQuotes (cs : List Char) : List Char :=
  match unquote? '\x27' cs with
  | some inner => inner
  | none => (unquote? '\x22' cs).getD cs

/-- Whether an integer fits into 64 bits. -/
def fitsInt64 (n : Int) : Bool :=
  -0x8000000000000000 ≤ n ∧ n < 0x8000000000000000

/-- Reads an optional sign and digits as an integer of 64 bits. -/
def integer? (cs : List Char) : Option Int :=
  let (negative, digits) := Decimal.splitSign cs
  match Text.natural? digits with
  | some n =>
    let n : Int := if negative then -n else n
    if fitsInt64 n then some n else none
  | none => none

/-- Reads a number text, blanks at its ends aside. -/
def numeral? (cs : List Char) : Option Value :=
  let cs := Text.trim cs
  match integer? cs with
  | some n => some (integer n)
  | none =>
    match (Decimal.ofText? cs).map Decimal.toBinary64 with
    | some x => if x.isFinite then some (float x) else none
    | none => none

/-- The value of a literal text. -/
def ofLiteral (literal : String) : Value :=
  let cs := stripQuotes literal.toList
  (numeral? cs).getD (text (String.ofList cs))

/-- A text read as a literal; every other value is itself. -/
def coerce : Value → Value
  | text s => ofLiteral s
  | v => v

end TableQuery.Value
