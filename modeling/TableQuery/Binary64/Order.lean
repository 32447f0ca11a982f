import TableQuery.Binary64.Basic

/-!
The two orders on floating point numbers.

`compare?` orders by value: both zeros are equal and what is not a number has no
place. `totalCompare` orders by bits: the negative numbers in reverse, then the
positive ones, with `-0` before `0` and not-a-number beyond infinity on the side
of its sign.
-/

namespace TableQuery.Binary64

/-- The place of a number by value. -/
def valueKey (x : Binary64) : Int :=
  if x.negative then -x.rank else x.rank

/-- The place of a number by bits. -/
def bitsKey (x : Binary64) : Int :=
  if x.negative then -x.rank - 1 else x.rank

/-- Comparison by value; none when a side is not a number. -/
def compare? (a b : Binary64) : Option Ordering :=
  if a.isNaN || b.isNaN then none else some (compare a.valueKey b.valueKey)

/-- Comparison by bits. -/
def totalCompare (a b : Binary64) : Ordering :=
  compare a.bitsKey b.bitsKey

/-- The smaller of two numbers: the second one when they are equal or the first
is not a number, the first one when the second is not a number. -/
def least (a b : Binary64) : Binary64 :=
  if b.isNaN || compare? a b == some .lt then a else b

/-- The larger of two numbers: the second one when they are equal or the first
is not a number, the first one when the second is not a number. -/
def greatest (a b : Binary64) : Binary64 :=
  if b.isNaN || compare? a b == some .gt then a else b

end TableQuery.Binary64
