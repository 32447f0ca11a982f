/-!
Floating point numbers of 64 bits: a sign and a rank.

The rank is the number that the low 63 bits spell. Ranks below that of infinity
belong to the finite numbers, and a larger rank is a larger magnitude, so
comparing numbers is comparing ranks. Every finite number is a whole number of
*units* of `2 ^ -1074`, the least positive magnitude; `unitsOfRank` gives that
count, and all arithmetic is exact arithmetic on units followed by one rounding.
-/

namespace TableQuery

/-- A floating point number in the 64-bit interchange format. -/
structure Binary64 where
  /-- The sign bit. -/
  negative : Bool
  /-- The low 63 bits: eleven of the exponent above fifty-two of the fraction. -/
  rank : Nat
  rank_lt : rank < 0x8000000000000000 := by decide
deriving DecidableEq

namespace Binary64

/-! ## Bits -/

/-- The number with the given bits. -/
def ofBits (bits : UInt64) : Binary64 where
  negative := decide (0x8000000000000000 ≤ bits.toNat)
  rank := bits.toNat % 0x8000000000000000
  rank_lt := Nat.mod_lt _ (by decide)

/-- The bits of a number. -/
def toBits (x : Binary64) : UInt64 :=
  UInt64.ofNat (x.rank + if x.negative then 0x8000000000000000 else 0)

@[simp] theorem ofBits_toBits (x : Binary64) : ofBits x.toBits = x := by
  obtain ⟨negative, rank, rank_lt⟩ := x
  cases negative <;>
    simp [ofBits, toBits, UInt64.toNat_ofNat'] <;> omega

@[simp] theorem toBits_ofBits (bits : UInt64) : (ofBits bits).toBits = bits := by
  have bound := bits.toNat_lt
  apply UInt64.toNat_inj.mp
  simp only [ofBits, toBits, UInt64.toNat_ofNat', decide_eq_true_eq]
  split <;> omega

/-! ## Classes -/

/-- The rank of infinity; larger ranks are not numbers. -/
def infinityRank : Nat := 0x7ff0000000000000

/-- Zero with the given sign. -/
def zero (negative : Bool) : Binary64 := ⟨negative, 0, by decide⟩

/-- Infinity with the given sign. -/
def infinity (negative : Bool) : Binary64 := ⟨negative, infinityRank, by decide⟩

/-- The value that is not a number, with the given sign. -/
def nan (negative : Bool) : Binary64 := ⟨negative, 0x7ff8000000000000, by decide⟩

/-- Not a number. -/
def isNaN (x : Binary64) : Bool := infinityRank < x.rank

/-- Infinity of either sign. -/
def isInfinite (x : Binary64) : Bool := x.rank = infinityRank

/-- Neither infinite nor not-a-number. -/
def isFinite (x : Binary64) : Bool := x.rank < infinityRank

/-! ## Units -/

/-- The number of units in one. -/
def unitsPerOne : Nat := Nat.pow 2 1074

/-- The number of fractions to one exponent: the fraction has fifty-two bits. -/
def fractionCount : Nat := 0x10000000000000

/-- The magnitude of a rank in units: the fraction alone where the exponent bits
are zero, else the fraction under a leading one, doubled once for each further
step of the exponent. -/
def unitsOfRank (rank : Nat) : Nat :=
  let exponent := rank / fractionCount
  let fraction := rank % fractionCount
  if exponent = 0 then fraction
  else (fractionCount + fraction) * Nat.pow 2 (exponent - 1)

/-- The magnitude of a finite number in units. -/
def units (x : Binary64) : Nat := unitsOfRank x.rank

/-- A finite number in units, with its sign. -/
def signedUnits (x : Binary64) : Int :=
  if x.negative then -x.units else x.units

end Binary64

end TableQuery
