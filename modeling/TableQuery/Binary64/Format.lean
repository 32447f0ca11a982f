import TableQuery.Binary64.Shortest

/-!
Text forms of floating point numbers.

All forms write the shortest digits that read back. They differ in the range in
which the point is written in place, in the ending of whole numbers and in the
choice between two equally near decimals; `Format` holds these decisions.
-/

namespace TableQuery.Binary64

/-- How the digits of a number are laid out. -/
structure Format where
  /-- The decimal taken when two are equally near. -/
  tie : Tie
  /-- What follows the digits of a whole number. -/
  wholeEnding : List Char
  /-- Whether the point at this place is written in place; otherwise the number
  is written with one digit before the point and an exponent. -/
  inPlace : Int → Bool

/-- As a value is shown: never with an exponent, and whole numbers without a
point. -/
def Format.shown : Format where
  tie := .up
  wholeEnding := []
  inPlace := fun _ => true

/-- As a cell is stored: with an exponent below `10 ^ -5` and from `10 ^ 16`, and
whole numbers ending in `.0`. -/
def Format.stored : Format where
  tie := .even
  wholeEnding := ['.', '0']
  inPlace := fun point => -5 < point ∧ point ≤ 16

/-- As a value is written with its kind: with an exponent below `10 ^ -4` and from
`10 ^ 16`, and whole numbers ending in `.0`. -/
def Format.debug : Format where
  tie := .up
  wholeEnding := ['.', '0']
  inPlace := fun point => -4 < point ∧ point ≤ 16

/-- The text of a positive number from its digits. -/
def Format.layOut (format : Format) (number : Digits) : List Char :=
  let count := number.digits.length
  if format.inPlace number.point then
    if number.point ≤ 0 then
      ['0', '.'] ++ List.replicate (-number.point).toNat '0' ++ number.digits
    else if count ≤ number.point then
      number.digits ++ List.replicate (number.point.toNat - count) '0' ++ format.wholeEnding
    else
      number.digits.take number.point.toNat ++ ['.'] ++ number.digits.drop number.point.toNat
  else
    let fraction := number.digits.drop 1
    number.digits.take 1 ++ (if fraction = [] then [] else '.' :: fraction) ++
      ['e'] ++ Text.intText (number.point - 1)

/-- The text of a number. -/
def text (format : Format) (x : Binary64) : List Char :=
  if x.isNaN then ['N', 'a', 'N']
  else
    let magnitude :=
      if x.isInfinite then ['i', 'n', 'f']
      else if x.rank = 0 then '0' :: format.wholeEnding
      else format.layOut (shortest format.tie x.rank)
    if x.negative then '-' :: magnitude else magnitude

end TableQuery.Binary64
