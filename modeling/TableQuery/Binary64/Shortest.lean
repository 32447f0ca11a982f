import TableQuery.Binary64.Basic
import TableQuery.Text.Digits

/-!
The shortest decimal digits that read back as a given floating point number.

A finite magnitude owns the decimals that round to it: those between the midpoints
to its two neighbours, ends included when its rank is even. For one digit, two
digits and so on, the two points of the decimal grid around the magnitude are
tried; the first grid with a point in the interval wins, the nearer of two points,
and an exact tie is decided by the caller.
-/

namespace TableQuery.Binary64

/-- Which of two equally near decimals is taken. -/
inductive Tie
  | up
  | even
deriving DecidableEq

/-- Decimal digits after a point: `0.d₁d₂… * 10 ^ point`. -/
structure Digits where
  digits : List Char
  point : Int
deriving DecidableEq

/-- The exponent `p` with `10 ^ (p - 1) ≤ magnitude < 10 ^ p`. The least positive
magnitude has its first digit at place 324 after the point. -/
def decimalPoint (units : Nat) : Int :=
  (Text.natText (units * Nat.pow 10 324 / unitsPerOne)).length - 324

/-- Whether `c * 10 ^ place` reads back as the number of the given rank. -/
def owned (rank : Nat) (place : Int) (c : Nat) : Bool :=
  let scale := Nat.pow 10 (-place).toNat
  let den := unitsPerOne * Nat.pow 10 place.toNat
  let low := (unitsOfRank rank + unitsOfRank (rank - 1)) * scale
  let high := (unitsOfRank rank + unitsOfRank (rank + 1)) * scale
  if rank % 2 = 0 then low ≤ 2 * c * den ∧ 2 * c * den ≤ high
  else low < 2 * c * den ∧ 2 * c * den < high

/-- A point of the grid with `count` digits that reads back as the number of the
given rank. -/
def onGrid? (tie : Tie) (rank count : Nat) : Option Nat :=
  let place := decimalPoint (unitsOfRank rank) - count
  let num := unitsOfRank rank * Nat.pow 10 (-place).toNat
  let den := unitsPerOne * Nat.pow 10 place.toNat
  let below := num / den
  let above := below + 1
  if owned rank place below then
    if owned rank place above then
      match compare (2 * num) ((below + above) * den) with
      | .lt => some below
      | .gt => some above
      | .eq => if tie = .even ∧ below % 2 = 0 then some below else some above
    else some below
  else if owned rank place above then some above
  else none

/-- The shortest digits of the positive number of a rank. Seventeen digits always
suffice. -/
def shortest (tie : Tie) (rank : Nat) : Digits :=
  let found := (List.range 17).findSome? fun i =>
    (onGrid? tie rank (i + 1)).map fun c => (i + 1, c)
  match found with
  | some (count, c) =>
    let digits := Text.natText c
    { digits := (digits.reverse.dropWhile (· = '0')).reverse
      point := decimalPoint (unitsOfRank rank) - count + digits.length }
  | none => ⟨[], 0⟩

end TableQuery.Binary64
