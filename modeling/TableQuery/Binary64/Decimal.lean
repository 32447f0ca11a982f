import TableQuery.Binary64.Rounding
import TableQuery.Text.Digits

/-!
Reading a decimal number text as the nearest 64-bit floating point number.

The grammar is an optional sign, digits with an optional point (at least one digit
before or after it), and an optional exponent with at least one digit.
-/

namespace TableQuery

/-- A number in decimal notation: `±significand * 10 ^ exponent`. -/
structure Decimal where
  negative : Bool
  significand : Nat
  exponent : Int
deriving DecidableEq

namespace Decimal

/-- Splits a sign from a text; no sign reads as plus. -/
def splitSign : List Char → Bool × List Char
  | '-' :: rest => (true, rest)
  | '+' :: rest => (false, rest)
  | cs => (false, cs)

/-- Reads what follows the digits of a number: nothing, or an exponent. -/
def exponent? : List Char → Option Int
  | [] => some 0
  | c :: rest =>
    if c = 'e' ∨ c = 'E' then
      let (negative, digits) := splitSign rest
      (Text.natural? digits).map fun n => if negative then -(n : Int) else n
    else none

/-- Reads a decimal number text. -/
def ofText? (cs : List Char) : Option Decimal :=
  let (negative, cs) := splitSign cs
  let whole := cs.takeWhile Char.isDigit
  let (fraction, rest) :=
    match cs.dropWhile Char.isDigit with
    | '.' :: rest => (rest.takeWhile Char.isDigit, rest.dropWhile Char.isDigit)
    | rest => ([], rest)
  if whole ++ fraction = [] then none
  else (exponent? rest).map fun exponent =>
    ⟨negative, Text.digitsValue (whole ++ fraction), exponent - fraction.length⟩

/-- The nearest floating point number. Magnitudes of `10 ^ 310` and more are
infinite and those below `10 ^ -330` are zero, whatever their digits. -/
def toBinary64 (d : Decimal) : Binary64 :=
  let size := d.exponent + (Text.natText d.significand).length
  if d.significand = 0 ∨ size < -330 then Binary64.zero d.negative
  else if 310 < size then Binary64.infinity d.negative
  else
    Binary64.nearest d.negative
      (d.significand * Nat.pow 10 d.exponent.toNat * Binary64.unitsPerOne)
      (Nat.pow 10 (-d.exponent).toNat)

end Decimal

end TableQuery
