import Mathlib.Algebra.Order.Ring.Int
import TableQuery.Proofs.WholeNumbers
import TableQuery.Value.Basic

/-!
Arithmetic on integers up to the exact bound is exact.

Such an integer has its own magnitude in units (`signedUnits_ofInt`), so a sum of two of them is
rounded at a magnitude that is on the grid, and a quotient of a multiple by its divisor too. Both
give the integer back, as do the comparisons, and what comes out is again shown as an integer
(`ofBinary64_ofInt`).
-/

namespace TableQuery.Binary64

/-! ## What integers are as floating point numbers -/

theorem unitsPerOne_pos : 0 < unitsPerOne := by
  obtain ⟨scale, _, isScale⟩ := unitsPerOne_eq
  rw [isScale]
  exact Nat.two_pow_pos scale

theorem isNaN_ofInt (n : Int) : (ofInt n).isNaN = false :=
  decide_eq_false (Nat.not_lt.mpr (Nat.min_le_right _ _))

theorem negative_ofInt (n : Int) : (ofInt n).negative = decide (n < 0) := rfl

theorem zero_eq_ofInt : zero false = ofInt 0 := by decide +kernel

/-- A positive factor keeps the sign. -/
theorem decide_mul_neg (n : Int) {factor : Int} (positive : 0 < factor) :
    decide (n * factor < 0) = decide (n < 0) := by
  have scaled : n * factor < 0 * factor ↔ n < 0 := Int.mul_lt_mul_right positive
  rw [Int.zero_mul] at scaled
  exact decide_eq_decide.mpr scaled

section Exact

variable {n : Int} (bounded : n.natAbs ≤ exactBound)

include bounded

theorem rank_ofInt_lt : (ofInt n).rank < infinityRank := by
  rw [rank_ofInt bounded]
  exact rankOfUnits_whole_lt bounded

theorem isInfinite_ofInt : (ofInt n).isInfinite = false :=
  decide_eq_false (Nat.ne_of_lt (rank_ofInt_lt bounded))

theorem units_ofInt : (ofInt n).units = n.natAbs * unitsPerOne :=
  unitsOfRank_ofInt bounded

theorem signedUnits_ofInt : (ofInt n).signedUnits = n * unitsPerOne := by
  rw [signedUnits, units_ofInt bounded, negative_ofInt, Int.natCast_mul]
  by_cases negative : n < 0
  · rw [if_pos (decide_eq_true negative), ← Int.neg_mul]
    congr 1
    omega
  · rw [if_neg (by simpa using negative)]
    congr 1
    omega

end Exact

/-- An integer below the exact bound is shown as the integer that it is. -/
theorem ofBinary64_ofInt {n : Int} (small : n.natAbs < exactBound) :
    Value.ofBinary64 (ofInt n) = .integer n := by
  have bounded := Nat.le_of_lt small
  have finite : (ofInt n).isFinite = true := decide_eq_true (rank_ofInt_lt bounded)
  have quotient : (ofInt n).units / unitsPerOne = n.natAbs := by
    rw [units_ofInt bounded]
    exact Nat.mul_div_cancel _ unitsPerOne_pos
  have remainder : (ofInt n).units % unitsPerOne = 0 := by
    rw [units_ofInt bounded]
    exact Nat.mul_mod_left _ _
  have exact : exactInteger? (ofInt n) = some n := by
    rw [exactInteger?, quotient, if_pos ⟨finite, remainder, small⟩, negative_ofInt]
    congr 1
    by_cases negative : n < 0
    · rw [if_pos (decide_eq_true negative)]
      omega
    · rw [if_neg (by simpa using negative)]
      omega
  rw [Value.ofBinary64, exact]

/-! ## Sums -/

theorem add_of_finite {a b : Binary64} (left : a.isNaN = false) (right : b.isNaN = false)
    (leftFinite : a.isInfinite = false) (rightFinite : b.isInfinite = false) :
    a + b = if a.signedUnits + b.signedUnits = 0 then zero (a.negative && b.negative)
      else nearest (decide (a.signedUnits + b.signedUnits < 0))
        (a.signedUnits + b.signedUnits).natAbs 1 := by
  show add a b = _
  simp only [add, left, right, leftFinite, rightFinite, Bool.false_eq_true, if_false]

theorem add_ofInt {m n : Int} (left : m.natAbs ≤ exactBound) (right : n.natAbs ≤ exactBound)
    (sum : (m + n).natAbs ≤ exactBound) : ofInt m + ofInt n = ofInt (m + n) := by
  have units : (ofInt m).signedUnits + (ofInt n).signedUnits = (m + n) * unitsPerOne := by
    rw [signedUnits_ofInt left, signedUnits_ofInt right, Int.add_mul]
  have positive : (0 : Int) < unitsPerOne := Int.natCast_pos.mpr unitsPerOne_pos
  rw [add_of_finite (isNaN_ofInt m) (isNaN_ofInt n) (isInfinite_ofInt left)
    (isInfinite_ofInt right), units]
  by_cases none : m + n = 0
  · -- opposite numbers are not both negative, and zero is positive
    have sign : ((ofInt m).negative && (ofInt n).negative) = false := by
      rw [negative_ofInt, negative_ofInt, Bool.and_eq_false_iff, decide_eq_false_iff_not,
        decide_eq_false_iff_not]
      omega
    rw [if_pos (by rw [none, Int.zero_mul]), sign, none, zero_eq_ofInt]
  · have magnitude : ((m + n) * (unitsPerOne : Int)).natAbs = (m + n).natAbs * unitsPerOne := by
      rw [Int.natAbs_mul, Int.natAbs_natCast]
    have whole := nearest_whole sum Nat.one_pos
    rw [Nat.mul_one] at whole
    rw [if_neg (mul_ne_zero none (ne_of_gt positive)), decide_mul_neg _ positive, magnitude, whole]

/-! ## Quotients -/

theorem two_pow_gridExponent_le {units : Nat} (some : units ≠ 0) :
    2 ^ gridExponent units ≤ units :=
  calc 2 ^ gridExponent units ≤ 2 ^ units.log2 :=
        Nat.pow_le_pow_right (by decide) (Nat.sub_le _ _)
    _ ≤ units := Nat.log2_self_le some

theorem rankOfUnits_pos {units : Nat} (some : units ≠ 0) : 0 < rankOfUnits units := by
  have scale : 0 < 2 ^ gridExponent units := Nat.two_pow_pos _
  have point : 0 < units / 2 ^ gridExponent units :=
    Nat.div_pos (two_pow_gridExponent_le some) scale
  exact Nat.lt_of_lt_of_le point (Nat.le_add_left _ _)

theorem div_le_roundHalfEven (num den : Nat) : num / den ≤ roundHalfEven num den := by
  unfold roundHalfEven
  dsimp only
  split_ifs <;> omega

theorem nearestUnits_pos {units : Nat} (some : units ≠ 0) : 0 < nearestUnits units 1 := by
  have scale : 0 < 2 ^ gridExponent units := Nat.two_pow_pos _
  have point : 0 < roundHalfEven units (2 ^ gridExponent units) :=
    Nat.lt_of_lt_of_le (Nat.div_pos (two_pow_gridExponent_le some) scale)
      (div_le_roundHalfEven _ _)
  have product : nearestUnits units 1 =
      roundHalfEven units (1 * 2 ^ gridExponent (units / 1)) * 2 ^ gridExponent (units / 1) := rfl
  rw [product, Nat.div_one, Nat.one_mul]
  exact Nat.mul_pos point scale

/-- No integer but zero is rounded to zero. -/
theorem rank_ofInt_pos {n : Int} (some : n ≠ 0) : 0 < (ofInt n).rank := by
  have magnitude : n.natAbs * unitsPerOne ≠ 0 :=
    Nat.mul_ne_zero (Int.natAbs_ne_zero.mpr some) unitsPerOne_pos.ne'
  have rank : 0 < rankOfUnits (nearestUnits (n.natAbs * unitsPerOne) 1) :=
    rankOfUnits_pos (nearestUnits_pos magnitude).ne'
  exact Nat.lt_min.mpr ⟨rank, by decide⟩

theorem div_of_finite {a b : Binary64} (left : a.isNaN = false) (right : b.isNaN = false)
    (leftFinite : a.isInfinite = false) (rightFinite : b.isInfinite = false)
    (some : b.units ≠ 0) :
    a / b = nearest (a.negative != b.negative) (a.units * unitsPerOne) b.units := by
  show div a b = _
  simp only [div, left, right, leftFinite, rightFinite, some, Bool.false_eq_true, if_false]

theorem zero_div {x : Binary64} (number : x.isNaN = false) (sign : x.negative = false)
    (some : 0 < x.rank) : ofInt 0 / x = ofInt 0 := by
  have bounded : (0 : Int).natAbs ≤ exactBound := by decide
  have units : 0 < x.units := by
    have larger := unitsOfRank_strictMono some
    exact Nat.lt_of_le_of_lt (Nat.zero_le _) larger
  have none : (ofInt 0).units = 0 := by rw [units_ofInt bounded, Int.natAbs_zero, Nat.zero_mul]
  have positive : ((ofInt 0).negative != x.negative) = false := by rw [sign]; rfl
  cases finite : x.isInfinite with
  | true =>
    show div (ofInt 0) x = _
    simp only [div, isNaN_ofInt, isInfinite_ofInt bounded, number, positive, finite,
      Bool.false_eq_true, if_false, if_true, zero_eq_ofInt]
  | false =>
    have whole := nearest_whole bounded units
    rw [Int.natAbs_zero, Nat.zero_mul, Nat.zero_mul] at whole
    rw [div_of_finite (isNaN_ofInt 0) number (isInfinite_ofInt bounded) finite units.ne', positive,
      none, Nat.zero_mul]
    exact whole

/-- A multiple is divided exactly, whatever number of times zero is divided by. -/
theorem div_ofInt {q : Int} {count : Nat} (positive : 0 < count)
    (bounded : (q * count).natAbs ≤ exactBound) :
    ofInt (q * count) / ofInt count = ofInt q := by
  have plus : (ofInt count).negative = false := by
    rw [negative_ofInt]
    exact decide_eq_false (Int.not_lt.mpr (Int.natCast_nonneg count))
  by_cases none : q = 0
  · rw [none, Int.zero_mul]
    exact zero_div (isNaN_ofInt _) plus (rank_ofInt_pos (Int.natCast_ne_zero.mpr positive.ne'))
  · rw [Int.natAbs_mul, Int.natAbs_natCast] at bounded
    have divisor : (count : Int).natAbs ≤ exactBound :=
      (Nat.le_mul_of_pos_left count (Int.natAbs_pos.mpr none)).trans bounded
    have quotient : q.natAbs ≤ exactBound :=
      (Nat.le_mul_of_pos_right q.natAbs positive).trans bounded
    have dividend : (q * count).natAbs ≤ exactBound := by
      rwa [Int.natAbs_mul, Int.natAbs_natCast]
    have sign : ((ofInt (q * count)).negative != (ofInt count).negative) = decide (q < 0) := by
      rw [negative_ofInt, decide_mul_neg q (Int.natCast_pos.mpr positive), plus, Bool.bne_false]
    have units : 0 < count * unitsPerOne := Nat.mul_pos positive unitsPerOne_pos
    have divides : (ofInt count).units = count * unitsPerOne := by
      rw [units_ofInt divisor, Int.natAbs_natCast]
    have magnitude : (q * (count : Int)).natAbs * unitsPerOne * unitsPerOne =
        q.natAbs * unitsPerOne * (count * unitsPerOne) := by
      rw [Int.natAbs_mul, Int.natAbs_natCast]
      generalize unitsPerOne = unit
      ac_rfl
    rw [div_of_finite (isNaN_ofInt _) (isNaN_ofInt _) (isInfinite_ofInt dividend)
      (isInfinite_ofInt divisor) (divides ▸ units.ne'), sign, units_ofInt dividend, magnitude,
      divides]
    exact nearest_whole quotient units

/-! ## Comparisons -/

section Order

variable {m n : Int} (left : m.natAbs ≤ exactBound) (right : n.natAbs ≤ exactBound)

include left right

theorem valueKey_ofInt_lt_iff : (ofInt m).valueKey < (ofInt n).valueKey ↔ m < n := by
  have key (n : Int) : (ofInt n).valueKey =
      if n < 0 then -((ofInt n).rank : Int) else (ofInt n).rank := by
    simp only [valueKey, negative_ofInt, decide_eq_true_eq]
  have below := rank_ofInt_lt_iff left right
  have above := rank_ofInt_lt_iff right left
  -- a negative integer has a rank, so it is below zero
  have some : m < 0 → 0 < (ofInt m).rank := fun negative => rank_ofInt_pos (by omega)
  rw [key, key]
  split <;> split <;> omega

theorem compare?_ofInt : compare? (ofInt m) (ofInt n) = some (compare m n) := by
  rw [compare?, isNaN_ofInt, isNaN_ofInt]
  exact congrArg some (compare_congr (valueKey_ofInt_lt_iff left right)
    (valueKey_ofInt_lt_iff right left))

theorem least_ofInt : least (ofInt m) (ofInt n) = ofInt (min m n) := by
  rw [least, compare?_ofInt left right, isNaN_ofInt, Bool.false_or]
  by_cases less : m < n
  · rw [compare_lt_iff_lt.mpr less, min_eq_left less.le]
    rfl
  · have other : compare m n ≠ .lt := fun lt => less (compare_lt_iff_lt.mp lt)
    rw [if_neg (by simpa using other), min_eq_right (not_lt.mp less)]

theorem greatest_ofInt : greatest (ofInt m) (ofInt n) = ofInt (max m n) := by
  rw [greatest, compare?_ofInt left right, isNaN_ofInt, Bool.false_or]
  by_cases greater : n < m
  · rw [compare_gt_iff_gt.mpr greater, max_eq_left greater.le]
    rfl
  · have other : compare m n ≠ .gt := fun gt => greater (compare_gt_iff_gt.mp gt)
    rw [if_neg (by simpa using other), max_eq_right (not_lt.mp greater)]

end Order

end TableQuery.Binary64
