import TableQuery.Binary64.Rounding

/-!
Sum and quotient of floating point numbers, and the whole numbers among them.

Finite operands are combined exactly in units and rounded once. The sum of two
opposite infinities and the quotients `0 / 0` and `∞ / ∞` are not numbers; they
carry the negative sign.
-/

namespace TableQuery.Binary64

/-- The rounded sum. A sum of zero is negative only when both operands are. -/
def add (a b : Binary64) : Binary64 :=
  if a.isNaN then a
  else if b.isNaN then b
  else if a.isInfinite then
    if b.isInfinite && a.negative != b.negative then nan true else a
  else if b.isInfinite then b
  else
    let sum := a.signedUnits + b.signedUnits
    if sum = 0 then zero (a.negative && b.negative)
    else nearest (decide (sum < 0)) sum.natAbs 1

/-- The rounded quotient. -/
def div (a b : Binary64) : Binary64 :=
  let negative := a.negative != b.negative
  if a.isNaN then a
  else if b.isNaN then b
  else if a.isInfinite then
    if b.isInfinite then nan true else infinity negative
  else if b.isInfinite then zero negative
  else if b.units = 0 then
    if a.units = 0 then nan true else infinity negative
  else nearest negative (a.units * unitsPerOne) b.units

instance : Add Binary64 := ⟨add⟩

instance : Div Binary64 := ⟨div⟩

/-- The bound below which every integer is a floating point number and no two
integers share one: fifty-three binary digits. -/
def exactBound : Nat := 0x20000000000000

/-- The integer that a number is, for integers below the exact bound. -/
def exactInteger? (x : Binary64) : Option Int :=
  if x.isFinite ∧ x.units % unitsPerOne = 0 ∧ x.units / unitsPerOne < exactBound then
    some (if x.negative then -↑(x.units / unitsPerOne) else ↑(x.units / unitsPerOne))
  else none

end TableQuery.Binary64
