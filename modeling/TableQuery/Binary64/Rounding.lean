import TableQuery.Binary64.Basic

/-!
Rounding an exact magnitude to a 64-bit floating point number.

A magnitude is a quotient of natural numbers, in units. Around it the floating
point numbers form a grid of step `2 ^ e` units, where `e` leaves fifty-three
binary digits; the magnitude goes to the nearest point of the grid, halfway cases
to the even one, and beyond the largest finite number to infinity.
-/

namespace TableQuery.Binary64

/-- The natural number nearest to a quotient, and the even one of two. -/
def roundHalfEven (num den : Nat) : Nat :=
  let quotient := num / den
  let remainder := num % den
  if 2 * remainder < den then quotient
  else if den < 2 * remainder then quotient + 1
  else if quotient % 2 = 0 then quotient
  else quotient + 1

/-- The power of two that is the step of the grid at a magnitude: what is left of
its binary digits after the leading fifty-three. -/
def gridExponent (units : Nat) : Nat := units.log2 - 52

/-- The point of the grid nearest to a magnitude. -/
def nearestUnits (num den : Nat) : Nat :=
  let step := Nat.pow 2 (gridExponent (num / den))
  roundHalfEven num (den * step) * step

/-- The rank of a magnitude that lies on the grid. -/
def rankOfUnits (units : Nat) : Nat :=
  let e := gridExponent units
  e * fractionCount + units / Nat.pow 2 e

/-- The number with a sign and a rank, ranks above infinity counting as it. -/
def ofRank (negative : Bool) (rank : Nat) : Binary64 where
  negative := negative
  rank := min rank infinityRank
  rank_lt := Nat.lt_of_le_of_lt (Nat.min_le_right _ _) (by decide)

/-- The floating point number nearest to a magnitude of `num / den` units. -/
def nearest (negative : Bool) (num den : Nat) : Binary64 :=
  ofRank negative (rankOfUnits (nearestUnits num den))

/-- The floating point number nearest to an integer. -/
def ofInt (n : Int) : Binary64 :=
  nearest (decide (n < 0)) (n.natAbs * unitsPerOne) 1

end TableQuery.Binary64
