import Mathlib.Algebra.GroupWithZero.Nat
import Mathlib.Order.Lattice
import Mathlib.Order.Monotone.Basic
import TableQuery.Binary64.Arithmetic
import TableQuery.Binary64.Order

/-!
Whole numbers among the floating point numbers.

The rank of a magnitude on the grid gives the magnitude back (`unitsOfRank_rankOfUnits`), and
a larger rank is a larger magnitude (`unitsOfRank_strictMono`). An integer up to the exact
bound lies on the grid, so it is a floating point number, and such integers are ordered as
the numbers that they are (`totalCompare_ofInt`).
-/

namespace TableQuery.Binary64

/-! ## Ranks and magnitudes -/

theorem unitsOfRank_subnormal {fraction : Nat} (small : fraction < fractionCount) :
    unitsOfRank fraction = fraction := by
  rw [unitsOfRank, Nat.div_eq_of_lt small, if_pos rfl, Nat.mod_eq_of_lt small]

theorem unitsOfRank_normal (exponent : Nat) {fraction : Nat} (small : fraction < fractionCount) :
    unitsOfRank ((exponent + 1) * fractionCount + fraction) =
      (fractionCount + fraction) * 2 ^ exponent := by
  have quotient : ((exponent + 1) * fractionCount + fraction) / fractionCount = exponent + 1 := by
    rw [Nat.mul_comm, Nat.mul_add_div (by decide), Nat.div_eq_of_lt small, Nat.add_zero]
  have remainder : ((exponent + 1) * fractionCount + fraction) % fractionCount = fraction := by
    rw [Nat.mul_comm, Nat.mul_add_mod, Nat.mod_eq_of_lt small]
  rw [unitsOfRank, quotient, remainder, if_neg (Nat.succ_ne_zero _)]
  rfl

/-- Every rank is a fraction alone, or a fraction with an exponent. -/
theorem rank_cases (rank : Nat) :
    (∃ fraction, fraction < fractionCount ∧ rank = fraction) ∨
      ∃ exponent fraction, fraction < fractionCount ∧
        rank = (exponent + 1) * fractionCount + fraction := by
  have small : rank % fractionCount < fractionCount := Nat.mod_lt _ (by decide)
  have parts := Nat.div_add_mod' rank fractionCount
  cases exponents : rank / fractionCount with
  | zero =>
    rw [exponents, Nat.zero_mul, Nat.zero_add] at parts
    exact Or.inl ⟨_, small, parts.symm⟩
  | succ exponent =>
    rw [exponents] at parts
    exact Or.inr ⟨exponent, _, small, parts.symm⟩

/-- A larger rank is a larger magnitude. -/
theorem unitsOfRank_strictMono : StrictMono unitsOfRank := by
  have positive : 0 < fractionCount := by decide
  refine strictMono_nat_of_lt_succ fun rank => ?_
  rcases rank_cases rank with ⟨fraction, small, rfl⟩ | ⟨exponent, fraction, small, rfl⟩
  · rw [unitsOfRank_subnormal small]
    by_cases last : rank + 1 < fractionCount
    · rw [unitsOfRank_subnormal last]
      exact Nat.lt_succ_self _
    · have next : rank + 1 = (0 + 1) * fractionCount + 0 := by omega
      rw [next, unitsOfRank_normal 0 positive, Nat.pow_zero, Nat.mul_one]
      exact small
  · have scale : 0 < 2 ^ exponent := Nat.two_pow_pos exponent
    rw [unitsOfRank_normal exponent small]
    by_cases last : fraction + 1 < fractionCount
    · rw [Nat.add_assoc, unitsOfRank_normal exponent last]
      exact Nat.mul_lt_mul_of_pos_right (by omega) scale
    · have next : (exponent + 1) * fractionCount + fraction + 1 =
          (exponent + 1 + 1) * fractionCount + 0 := by
        rw [Nat.add_mul (exponent + 1)]
        omega
      rw [next, unitsOfRank_normal (exponent + 1) positive, Nat.pow_succ', ← Nat.mul_assoc]
      exact Nat.mul_lt_mul_of_pos_right (by omega) scale

/-- A magnitude of up to fifty-three binary digits is on the finest grid. -/
theorem gridExponent_of_lt {units : Nat} (small : units < 2 * fractionCount) :
    gridExponent units = 0 := by
  by_cases none : units = 0
  · rw [none]
    rfl
  · have digits : units.log2 < 53 := (Nat.log2_lt none).mpr small
    unfold gridExponent
    omega

/-- The points of the grid at a larger magnitude have fifty-three binary digits. -/
theorem gridExponent_bounds {units : Nat} (large : fractionCount ≤ units) :
    fractionCount * 2 ^ gridExponent units ≤ units ∧
      units < 2 * fractionCount * 2 ^ gridExponent units := by
  have some : units ≠ 0 := Nat.ne_of_gt (Nat.lt_of_lt_of_le (by decide) large)
  have digits : 52 ≤ units.log2 := (Nat.le_log2 some).mpr large
  obtain ⟨low, high⟩ := (Nat.log2_eq_iff some).mp rfl
  have exponent : units.log2 = 52 + gridExponent units := by
    unfold gridExponent
    omega
  rw [exponent, Nat.pow_add] at low
  rw [exponent, Nat.add_right_comm, Nat.pow_add] at high
  exact ⟨low, high⟩

/-- The rank of a magnitude on the grid gives the magnitude back. -/
theorem unitsOfRank_rankOfUnits {units : Nat} (onGrid : 2 ^ gridExponent units ∣ units) :
    unitsOfRank (rankOfUnits units) = units := by
  obtain ⟨point, grid⟩ := onGrid
  have scale : 0 < 2 ^ gridExponent units := Nat.two_pow_pos _
  have quotient : units / 2 ^ gridExponent units = point := by
    conv => lhs; lhs; rw [grid]
    exact Nat.mul_div_cancel_left point scale
  have rank : rankOfUnits units = gridExponent units * fractionCount + point := by
    rw [← quotient]
    rfl
  rw [rank]
  by_cases small : units < fractionCount
  · have finest : gridExponent units = 0 := gridExponent_of_lt (by omega)
    rw [finest, Nat.pow_zero, Nat.one_mul] at grid
    rw [finest, Nat.zero_mul, Nat.zero_add, ← grid, unitsOfRank_subnormal small]
  · obtain ⟨low, high⟩ := gridExponent_bounds (Nat.le_of_not_lt small)
    have turned : units = point * 2 ^ gridExponent units := grid.trans (Nat.mul_comm _ _)
    have low : fractionCount ≤ point :=
      Nat.le_of_mul_le_mul_right (low.trans (Nat.le_of_eq turned)) scale
    have high : point < 2 * fractionCount :=
      Nat.lt_of_mul_lt_mul_right (Nat.lt_of_le_of_lt (Nat.le_of_eq turned.symm) high)
    obtain ⟨fraction, rfl⟩ := Nat.exists_eq_add_of_le low
    rw [← Nat.add_assoc, ← Nat.succ_mul, unitsOfRank_normal _ (by omega), Nat.mul_comm]
    exact grid.symm

/-! ## Integers up to the exact bound -/

theorem roundHalfEven_mul (n : Nat) {den : Nat} (positive : 0 < den) :
    roundHalfEven (n * den) den = n := by
  rw [roundHalfEven, Nat.mul_mod_left, Nat.mul_div_cancel n positive, if_pos positive]

/-- A magnitude on the grid is the nearest one to itself, however it is written as a quotient. -/
theorem nearestUnits_mul {units den : Nat} (onGrid : 2 ^ gridExponent units ∣ units)
    (positive : 0 < den) : nearestUnits (units * den) den = units := by
  have whole : units * den / den = units := Nat.mul_div_cancel units positive
  obtain ⟨point, grid⟩ := onGrid
  have scale : 0 < den * 2 ^ gridExponent units := Nat.mul_pos positive (Nat.two_pow_pos _)
  have rounded : roundHalfEven (units * den) (den * 2 ^ gridExponent units) = point := by
    have turned : units * den = point * (den * 2 ^ gridExponent units) :=
      calc units * den = 2 ^ gridExponent units * point * den := congrArg (· * den) grid
        _ = point * (den * 2 ^ gridExponent units) := by ac_rfl
    rw [turned]
    exact roundHalfEven_mul point scale
  have nearest : nearestUnits (units * den) den =
      roundHalfEven (units * den) (den * 2 ^ gridExponent (units * den / den)) *
        2 ^ gridExponent (units * den / den) := rfl
  rw [nearest, whole, rounded, Nat.mul_comm]
  exact grid.symm

/-- A number of up to fifty-three binary digits, or the one behind these, is on the grid at
every scale. -/
theorem onGrid_scaled (scale : Nat) {n : Nat} (bounded : n ≤ exactBound) :
    2 ^ gridExponent (n * 2 ^ scale) ∣ n * 2 ^ scale := by
  have digits {n : Nat} (some : n ≠ 0) : (n * 2 ^ scale).log2 = n.log2 + scale := by
    obtain ⟨low, high⟩ := (Nat.log2_eq_iff some).mp rfl
    refine (Nat.log2_eq_iff (Nat.mul_ne_zero some (Nat.two_pow_pos scale).ne')).mpr ⟨?_, ?_⟩
    · rw [Nat.pow_add]
      exact Nat.mul_le_mul_right _ low
    · rw [Nat.add_right_comm, Nat.pow_add]
      exact Nat.mul_lt_mul_of_pos_right high (Nat.two_pow_pos scale)
  by_cases none : n = 0
  · rw [none, Nat.zero_mul]
    exact Nat.dvd_zero _
  · rw [gridExponent, digits none]
    rcases Nat.lt_or_eq_of_le bounded with below | rfl
    · have few : n.log2 < 53 := (Nat.log2_lt none).mpr below
      exact Nat.dvd_mul_left_of_dvd (Nat.pow_dvd_pow 2 (by omega)) n
    · have many : exactBound.log2 = 53 := by decide +kernel
      have next : exactBound.log2 + scale - 52 = 1 + scale := by omega
      rw [next, Nat.pow_add]
      exact Nat.mul_dvd_mul_right (by decide) _

theorem unitsPerOne_eq : ∃ scale, scale ≤ 1074 ∧ unitsPerOne = 2 ^ scale := by
  unfold unitsPerOne
  generalize 1074 = scale
  exact ⟨scale, Nat.le_refl scale, rfl⟩

section Exact

variable {n : Int} (bounded : n.natAbs ≤ exactBound)

include bounded

theorem onGrid_whole :
    2 ^ gridExponent (n.natAbs * unitsPerOne) ∣ n.natAbs * unitsPerOne := by
  obtain ⟨scale, _, isScale⟩ := unitsPerOne_eq
  rw [isScale]
  exact onGrid_scaled scale bounded

/-- Infinity is far above the exact bound. -/
theorem rankOfUnits_whole_lt : rankOfUnits (n.natAbs * unitsPerOne) < infinityRank := by
  obtain ⟨scale, small, isScale⟩ := unitsPerOne_eq
  obtain ⟨top, far, isTop⟩ : ∃ top, 1076 ≤ top ∧ infinityRank = (top + 1) * fractionCount + 0 :=
    ⟨2046, by decide, rfl⟩
  apply unitsOfRank_strictMono.lt_iff_lt.mp
  rw [unitsOfRank_rankOfUnits (onGrid_whole bounded), isTop, unitsOfRank_normal top (by decide),
    isScale, Nat.add_zero]
  calc n.natAbs * 2 ^ scale ≤ (2 * fractionCount) * 2 ^ scale := Nat.mul_le_mul_right _ bounded
    _ = fractionCount * 2 ^ (scale + 1) := by
      rw [Nat.pow_succ', Nat.mul_comm 2, Nat.mul_assoc]
    _ < fractionCount * 2 ^ top :=
      Nat.mul_lt_mul_of_pos_left (Nat.pow_lt_pow_right (by decide) (by omega)) (by decide)

/-- An integer up to the exact bound is the number nearest to it, however it is written as a
quotient. -/
theorem nearest_whole {den : Nat} (positive : 0 < den) :
    nearest (decide (n < 0)) (n.natAbs * unitsPerOne * den) den = ofInt n := by
  have alone := nearestUnits_mul (onGrid_whole bounded) Nat.one_pos
  rw [Nat.mul_one] at alone
  rw [ofInt, nearest, nearest, nearestUnits_mul (onGrid_whole bounded) positive, alone]

theorem rank_ofInt : (ofInt n).rank = rankOfUnits (n.natAbs * unitsPerOne) := by
  rw [← nearest_whole bounded Nat.one_pos, nearest,
    nearestUnits_mul (onGrid_whole bounded) Nat.one_pos]
  exact Nat.min_eq_left (Nat.le_of_lt (rankOfUnits_whole_lt bounded))

/-- An integer up to the exact bound is a floating point number. -/
theorem unitsOfRank_ofInt : unitsOfRank (ofInt n).rank = n.natAbs * unitsPerOne := by
  rw [rank_ofInt bounded, unitsOfRank_rankOfUnits (onGrid_whole bounded)]

end Exact

section Order

variable {m n : Int}

theorem rank_ofInt_lt_iff (left : m.natAbs ≤ exactBound) (right : n.natAbs ≤ exactBound) :
    (ofInt m).rank < (ofInt n).rank ↔ m.natAbs < n.natAbs := by
  obtain ⟨scale, _, isScale⟩ := unitsPerOne_eq
  have positive : 0 < unitsPerOne := isScale ▸ Nat.two_pow_pos scale
  rw [← unitsOfRank_strictMono.lt_iff_lt, unitsOfRank_ofInt left, unitsOfRank_ofInt right,
    Nat.mul_lt_mul_right positive]

theorem bitsKey_ofInt_lt_iff (left : m.natAbs ≤ exactBound) (right : n.natAbs ≤ exactBound) :
    (ofInt m).bitsKey < (ofInt n).bitsKey ↔ m < n := by
  have key (n : Int) : (ofInt n).bitsKey =
      if n < 0 then -((ofInt n).rank : Int) - 1 else (ofInt n).rank := by
    have sign : (ofInt n).negative = decide (n < 0) := rfl
    simp only [bitsKey, sign, decide_eq_true_eq]
  -- negative integers are turned around, and stand below the others
  have below := rank_ofInt_lt_iff left right
  have above := rank_ofInt_lt_iff right left
  rw [key, key]
  split <;> split <;> omega

/-- Two elements compare as two others when they are less and greater as these are. -/
theorem compare_congr {α β : Type} [LinearOrder α] [LinearOrder β] {a b : α} {m n : β}
    (less : a < b ↔ m < n) (greater : b < a ↔ n < m) : compare a b = compare m n := by
  rcases lt_trichotomy m n with lt | same | gt
  · rw [compare_lt_iff_lt.mpr lt, compare_lt_iff_lt.mpr (less.mpr lt)]
  · have notLess : ¬ a < b := fun below => same.not_lt (less.mp below)
    have notGreater : ¬ b < a := fun above => same.not_gt (greater.mp above)
    rw [compare_eq_iff_eq.mpr same,
      compare_eq_iff_eq.mpr (le_antisymm (not_lt.mp notGreater) (not_lt.mp notLess))]
  · rw [compare_gt_iff_gt.mpr gt, compare_gt_iff_gt.mpr (greater.mpr gt)]

/-- Integers up to the exact bound are ordered as the numbers that they are. -/
theorem totalCompare_ofInt (left : m.natAbs ≤ exactBound) (right : n.natAbs ≤ exactBound) :
    totalCompare (ofInt m) (ofInt n) = compare m n :=
  compare_congr (bitsKey_ofInt_lt_iff left right) (bitsKey_ofInt_lt_iff right left)

end Order

end TableQuery.Binary64
