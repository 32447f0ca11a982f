import Mathlib.Data.Nat.Dist
import TableQuery.Proofs.ExactArithmetic

/-!
Rounding gives the nearest number.

At a magnitude the floating point numbers are the multiples of the step of the grid, and all
that are not stand below the grid's first point of fifty-three binary digits
(`unitsOfRank_cases`). So the nearest multiple of the step is the nearest magnitude
(`dist_nearestUnits`), and of two equally near ones the even multiple has the even rank. It is
finite unless the magnitude reaches the middle between the largest finite number and the power
of two above it (`rankOfUnits_lt_infinityRank_iff`). For integers this says which of them are
finite as floating point numbers, and that these are the nearest ones (`isNearest_ofInt`).
-/

namespace TableQuery.Binary64

/-! ## The nearest multiple -/

section Multiples

variable {num den : Nat}

theorem roundHalfEven_cases (num den : Nat) :
    roundHalfEven num den = num / den ∧ 2 * (num % den) ≤ den ∨
      roundHalfEven num den = num / den + 1 ∧ den ≤ 2 * (num % den) := by
  unfold roundHalfEven
  dsimp only
  split_ifs <;> omega

/-- Halfway between two multiples the even one is taken. -/
theorem even_roundHalfEven_of_half (half : 2 * (num % den) = den) :
    roundHalfEven num den % 2 = 0 := by
  unfold roundHalfEven
  dsimp only
  split_ifs <;> omega

/-- A multiple lies at or below the one before a number, is the one behind it, or lies beyond
that one. -/
theorem multiple_cases (k quotient den : Nat) :
    k * den + den ≤ quotient * den ∨ k = quotient ∨ k = quotient + 1 ∨
      quotient * den + 2 * den ≤ k * den := by
  rcases Nat.lt_or_ge k quotient with below | above
  · have bound := Nat.mul_le_mul_right den (Nat.succ_le_of_lt below)
    rw [Nat.succ_mul] at bound
    exact Or.inl bound
  · rcases Nat.lt_or_ge (quotient + 1) k with beyond | near
    · have bound := Nat.mul_le_mul_right den (Nat.succ_le_of_lt beyond)
      rw [Nat.succ_mul, Nat.succ_mul] at bound
      omega
    · omega

/-- No multiple is nearer than the one that rounding takes. -/
theorem dist_roundHalfEven (num : Nat) {den : Nat} (positive : 0 < den) (k : Nat) :
    Nat.dist num (roundHalfEven num den * den) ≤ Nat.dist num (k * den) := by
  have parts := Nat.div_add_mod' num den
  have remainder := Nat.mod_lt num positive
  have next : (num / den + 1) * den = num / den * den + den := Nat.succ_mul _ _
  unfold Nat.dist
  rcases roundHalfEven_cases num den with ⟨taken, half⟩ | ⟨taken, half⟩ <;>
    rw [taken] <;>
    rcases multiple_cases k (num / den) den with below | rfl | rfl | beyond <;> omega

/-- When another multiple is as near, rounding takes an even one. -/
theorem even_roundHalfEven (positive : 0 < den) {k : Nat} (other : k ≠ roundHalfEven num den)
    (tie : Nat.dist num (k * den) = Nat.dist num (roundHalfEven num den * den)) :
    roundHalfEven num den % 2 = 0 := by
  have parts := Nat.div_add_mod' num den
  have remainder := Nat.mod_lt num positive
  have next : (num / den + 1) * den = num / den * den + den := Nat.succ_mul _ _
  refine even_roundHalfEven_of_half ?_
  unfold Nat.dist at tie
  rcases roundHalfEven_cases num den with ⟨taken, half⟩ | ⟨taken, half⟩ <;>
    rw [taken] at other tie <;>
    rcases multiple_cases k (num / den) den with below | rfl | rfl | beyond <;> omega

/-- Above an odd multiple the middle is rounded away from it. -/
theorem roundHalfEven_le_iff (num : Nat) {den : Nat} (positive : 0 < den) {k : Nat}
    (odd : k % 2 = 1) :
    roundHalfEven num den ≤ k ↔ 2 * num < 2 * (k * den) + den := by
  have parts := Nat.div_add_mod' num den
  have remainder := Nat.mod_lt num positive
  rcases Nat.lt_trichotomy (num / den) k with below | same | above
  · have rounded : roundHalfEven num den ≤ k := by
      rcases roundHalfEven_cases num den with ⟨taken, _⟩ | ⟨taken, _⟩ <;> omega
    have bound := Nat.mul_le_mul_right den (Nat.succ_le_of_lt below)
    rw [Nat.succ_mul] at bound
    exact iff_of_true rounded (by omega)
  · subst same
    unfold roundHalfEven
    dsimp only
    split_ifs <;> omega
  · have rounded := div_le_roundHalfEven num den
    have bound := Nat.mul_le_mul_right den (Nat.succ_le_of_lt above)
    rw [Nat.succ_mul] at bound
    exact iff_of_false (by omega) (by omega)

end Multiples

/-! ## Points of the grid -/

/-- The points of a grid with fifty-three binary digits, and all those of the finest one. -/
theorem unitsOfRank_point {exponent point : Nat} (normal : exponent = 0 ∨ fractionCount ≤ point)
    (bounded : point ≤ 2 * fractionCount) :
    unitsOfRank (exponent * fractionCount + point) = point * 2 ^ exponent := by
  have positive : 0 < fractionCount := by decide
  rcases Nat.lt_or_ge point fractionCount with small | large
  · have finest : exponent = 0 := normal.resolve_right (Nat.not_le.mpr small)
    rw [finest, Nat.zero_mul, Nat.zero_add, unitsOfRank_subnormal small, Nat.pow_zero, Nat.mul_one]
  · rcases Nat.lt_or_eq_of_le bounded with below | rfl
    · obtain ⟨fraction, rfl⟩ := Nat.exists_eq_add_of_le large
      rw [← Nat.add_assoc, ← Nat.succ_mul, unitsOfRank_normal _ (by omega)]
    · -- the point behind the last one is the first one of the next grid
      have rank : exponent * fractionCount + 2 * fractionCount =
          (exponent + 1 + 1) * fractionCount + 0 := by
        rw [Nat.add_assoc, Nat.add_mul, Nat.add_zero]
      rw [rank, unitsOfRank_normal _ positive, Nat.add_zero, Nat.pow_succ']
      ac_rfl

theorem rankOfUnits_point {exponent point : Nat} (normal : exponent = 0 ∨ fractionCount ≤ point)
    (bounded : point ≤ 2 * fractionCount) :
    rankOfUnits (point * 2 ^ exponent) = exponent * fractionCount + point := by
  apply unitsOfRank_strictMono.injective
  rw [unitsOfRank_point normal bounded,
    unitsOfRank_rankOfUnits (onGrid_scaled exponent (bounded.trans_eq (by decide)))]

/-- A magnitude is a point of the grid, or lies below the first point of fifty-three digits. -/
theorem unitsOfRank_cases (exponent rank : Nat) :
    (∃ k, unitsOfRank rank = k * 2 ^ exponent) ∨
      0 < exponent ∧ unitsOfRank rank < fractionCount * 2 ^ exponent := by
  rcases Nat.eq_zero_or_pos exponent with rfl | positive
  · exact Or.inl ⟨_, (Nat.mul_one _).symm⟩
  · rcases rank_cases rank with ⟨fraction, small, rfl⟩ | ⟨own, fraction, small, rfl⟩
    · rw [unitsOfRank_subnormal small]
      exact Or.inr ⟨positive, small.trans_le (Nat.le_mul_of_pos_right _ (Nat.two_pow_pos _))⟩
    · rw [unitsOfRank_normal own small]
      rcases Nat.lt_or_ge own exponent with finer | coarser
      · refine Or.inr ⟨positive, ?_⟩
        calc (fractionCount + fraction) * 2 ^ own
            < (2 * fractionCount) * 2 ^ own :=
              Nat.mul_lt_mul_of_pos_right (by omega) (Nat.two_pow_pos own)
          _ = fractionCount * 2 ^ (own + 1) := by
              rw [Nat.pow_succ', Nat.mul_comm 2, Nat.mul_assoc]
          _ ≤ fractionCount * 2 ^ exponent :=
              Nat.mul_le_mul_left _ (Nat.pow_le_pow_right (by decide) finer)
      · refine Or.inl ⟨(fractionCount + fraction) * 2 ^ (own - exponent), ?_⟩
        rw [Nat.mul_assoc, ← Nat.pow_add, Nat.sub_add_cancel coarser]

/-! ## Rounding of magnitudes -/

section Rounding

variable (num : Nat) {den : Nat} (positive : 0 < den)

/-- The point of the grid at a magnitude that rounding takes. -/
def nearestPoint (num den : Nat) : Nat :=
  roundHalfEven num (den * 2 ^ gridExponent (num / den))

theorem nearestUnits_eq (num den : Nat) :
    nearestUnits num den = nearestPoint num den * 2 ^ gridExponent (num / den) := rfl

theorem gridExponent_eq_zero_or (units : Nat) :
    gridExponent units = 0 ∨ fractionCount * 2 ^ gridExponent units ≤ units := by
  rcases Nat.lt_or_ge units fractionCount with small | large
  · exact Or.inl (gridExponent_of_lt (by omega))
  · exact Or.inr (gridExponent_bounds large).1

theorem lt_gridExponent (units : Nat) : units < 2 * fractionCount * 2 ^ gridExponent units := by
  rcases Nat.lt_or_ge units fractionCount with small | large
  · exact (by omega : units < 2 * fractionCount).trans_le
      (Nat.le_mul_of_pos_right _ (Nat.two_pow_pos _))
  · exact (gridExponent_bounds large).2

include positive

theorem step_pos : 0 < den * 2 ^ gridExponent (num / den) :=
  Nat.mul_pos positive (Nat.two_pow_pos _)

/-- Beyond the finest grid a magnitude is at least the first point of fifty-three digits. -/
theorem first_point_le :
    gridExponent (num / den) = 0 ∨
      fractionCount * (den * 2 ^ gridExponent (num / den)) ≤ num := by
  refine (gridExponent_eq_zero_or (num / den)).imp_right fun first => ?_
  rw [Nat.mul_left_comm, Nat.mul_comm]
  exact (Nat.le_div_iff_mul_le positive).mp first

theorem lt_last_point : num < 2 * fractionCount * (den * 2 ^ gridExponent (num / den)) := by
  rw [Nat.mul_left_comm, Nat.mul_comm]
  exact (Nat.div_lt_iff_lt_mul positive).mp (lt_gridExponent (num / den))

theorem nearestPoint_normal :
    gridExponent (num / den) = 0 ∨ fractionCount ≤ nearestPoint num den := by
  have step := step_pos num positive
  refine (first_point_le num positive).imp_right fun first => ?_
  exact ((Nat.le_div_iff_mul_le step).mpr first).trans (div_le_roundHalfEven _ _)

theorem nearestPoint_le : nearestPoint num den ≤ 2 * fractionCount := by
  have step := step_pos num positive
  have quotient := (Nat.div_lt_iff_lt_mul step).mpr (lt_last_point num positive)
  have rounded := roundHalfEven_cases num (den * 2 ^ gridExponent (num / den))
  unfold nearestPoint
  omega

theorem rankOfUnits_nearestUnits :
    rankOfUnits (nearestUnits num den) =
      gridExponent (num / den) * fractionCount + nearestPoint num den := by
  rw [nearestUnits_eq,
    rankOfUnits_point (nearestPoint_normal num positive) (nearestPoint_le num positive)]

theorem unitsOfRank_nearestUnits :
    unitsOfRank (rankOfUnits (nearestUnits num den)) = nearestUnits num den := by
  rw [rankOfUnits_nearestUnits num positive, nearestUnits_eq,
    unitsOfRank_point (nearestPoint_normal num positive) (nearestPoint_le num positive)]

/-- A magnitude below the first point of fifty-three digits is farther away than this point. -/
theorem dist_nearestUnits_lt {units : Nat} (coarse : 0 < gridExponent (num / den))
    (below : units < fractionCount * 2 ^ gridExponent (num / den)) :
    Nat.dist num (nearestUnits num den * den) < Nat.dist num (units * den) := by
  have step := step_pos num positive
  have first := (first_point_le num positive).resolve_left coarse.ne'
  have nearer := dist_roundHalfEven num step fractionCount
  have farther : units * den < fractionCount * (den * 2 ^ gridExponent (num / den)) := by
    rw [Nat.mul_left_comm, Nat.mul_comm]
    exact Nat.mul_lt_mul_of_pos_left below positive
  rw [nearestUnits_eq, Nat.mul_assoc, Nat.mul_comm _ den, nearestPoint]
  refine nearer.trans_lt ?_
  unfold Nat.dist
  omega

/-- No magnitude is nearer than the one that rounding takes. -/
theorem dist_nearestUnits (rank : Nat) :
    Nat.dist num (nearestUnits num den * den) ≤ Nat.dist num (unitsOfRank rank * den) := by
  have step := step_pos num positive
  rcases unitsOfRank_cases (gridExponent (num / den)) rank with ⟨k, onGrid⟩ | ⟨coarse, below⟩
  · rw [onGrid, nearestUnits_eq, Nat.mul_assoc, Nat.mul_assoc, Nat.mul_comm _ den]
    exact dist_roundHalfEven num step k
  · exact (dist_nearestUnits_lt num positive coarse below).le

/-- When another magnitude is as near, rounding takes one of even rank. -/
theorem even_rankOfUnits_nearestUnits (rank : Nat)
    (other : unitsOfRank rank ≠ nearestUnits num den)
    (tie : Nat.dist num (unitsOfRank rank * den) = Nat.dist num (nearestUnits num den * den)) :
    rankOfUnits (nearestUnits num den) % 2 = 0 := by
  have step := step_pos num positive
  rcases unitsOfRank_cases (gridExponent (num / den)) rank with ⟨k, onGrid⟩ | ⟨coarse, below⟩
  · rw [onGrid, nearestUnits_eq, Nat.mul_assoc, Nat.mul_assoc, Nat.mul_comm _ den] at tie
    have different : k ≠ nearestPoint num den := by
      rintro rfl
      exact other onGrid
    have even : nearestPoint num den % 2 = 0 := even_roundHalfEven step different tie
    have whole : fractionCount % 2 = 0 := by decide
    rw [rankOfUnits_nearestUnits num positive, Nat.add_mod, Nat.mul_mod, whole, even]
    rfl
  · exact absurd tie (dist_nearestUnits_lt num positive coarse below).ne'

/-- A magnitude is rounded to a finite number when it lies below the middle between the largest
one, of `2 * fractionCount - 1` steps, and the next point of its grid. -/
theorem rankOfUnits_lt_infinityRank_iff :
    rankOfUnits (nearestUnits num den) < infinityRank ↔
      num < (4 * fractionCount - 1) * (den * 2 ^ 2044) := by
  have infinite : infinityRank = 2047 * fractionCount := by decide
  have normal := nearestPoint_normal num positive
  have bounded := nearestPoint_le num positive
  have first := first_point_le num positive
  have last := lt_last_point num positive
  rw [rankOfUnits_nearestUnits num positive, infinite]
  unfold nearestPoint at normal bounded ⊢
  generalize gridExponent (num / den) = exponent at *
  generalize isTop : 2044 = top
  rcases Nat.lt_trichotomy exponent (top + 1) with finer | rfl | coarser
  · have scale : den * 2 ^ exponent ≤ den * 2 ^ top :=
      Nat.mul_le_mul_left den (Nat.pow_le_pow_right (by decide) (Nat.le_of_lt_succ finer))
    generalize den * 2 ^ exponent = step at *
    generalize den * 2 ^ top = unit at *
    unfold fractionCount at *
    refine iff_of_true ?_ ?_ <;> omega
  · have scale : den * 2 ^ (top + 1) = 2 * (den * 2 ^ top) := by
      rw [Nat.pow_succ', Nat.mul_left_comm]
    have odd : (2 * fractionCount - 1) % 2 = 1 := by decide
    have middle := roundHalfEven_le_iff num
      (Nat.mul_pos positive (Nat.two_pow_pos (top + 1))) odd
    generalize den * 2 ^ (top + 1) = step at *
    generalize den * 2 ^ top = unit at *
    unfold fractionCount at *
    omega
  · have scale : 4 * (den * 2 ^ top) ≤ den * 2 ^ exponent :=
      calc 4 * (den * 2 ^ top) = den * 2 ^ (top + 2) := by
            rw [Nat.pow_add, Nat.mul_comm 4, Nat.mul_assoc]
        _ ≤ den * 2 ^ exponent :=
            Nat.mul_le_mul_left den (Nat.pow_le_pow_right (by decide) coarser)
    generalize den * 2 ^ exponent = step at *
    generalize den * 2 ^ top = unit at *
    unfold fractionCount at *
    refine iff_of_false ?_ ?_ <;> omega

end Rounding

/-! ## Integers -/

/-- The magnitude from which integers are rounded to infinity: the middle between the largest
finite number and the power of two above it (`lt_finiteBound_iff`). -/
def finiteBound : Nat := 2 ^ 1024 - 2 ^ 970

/-- A finite number is nearest to an integer when no finite one is nearer, and it is the one
with the even fraction when another one is as near. -/
structure IsNearest (n : Int) (x : Binary64) : Prop where
  finite : x.isFinite = true
  nearest : ∀ y : Binary64, y.isFinite = true →
    (x.signedUnits - n * unitsPerOne).natAbs ≤ (y.signedUnits - n * unitsPerOne).natAbs
  even : ∀ y : Binary64, y.isFinite = true → y.signedUnits ≠ x.signedUnits →
    (y.signedUnits - n * unitsPerOne).natAbs = (x.signedUnits - n * unitsPerOne).natAbs →
    x.rank % 2 = 0

theorem unitsPerOne_eq_two_pow : unitsPerOne = 2 ^ 1074 := by
  unfold unitsPerOne
  generalize 1074 = scale
  rfl

theorem middle_mul (low scale : Nat) :
    (2 ^ (54 + low) - 2 ^ low) * 2 ^ scale = (4 * fractionCount - 1) * 2 ^ (low + scale) := by
  rw [Nat.pow_add, ← Nat.sub_one_mul, Nat.mul_assoc, ← Nat.pow_add]
  rfl

theorem finiteBound_mul :
    finiteBound * unitsPerOne = (4 * fractionCount - 1) * (1 * 2 ^ 2044) := by
  have parts : 1024 = 54 + 970 ∧ 2044 = 970 + 1074 := by decide
  rw [finiteBound, unitsPerOne_eq_two_pow, parts.1, middle_mul, Nat.one_mul, parts.2]

/-- Below the bound the largest finite magnitude is nearer than the power of two that follows it,
the magnitude in whose place infinity stands. -/
theorem lt_finiteBound_iff (n : Int) : n.natAbs < finiteBound ↔
    Nat.dist (n.natAbs * unitsPerOne) (unitsOfRank (infinityRank - 1)) <
      Nat.dist (n.natAbs * unitsPerOne) (unitsOfRank infinityRank) := by
  have largest : infinityRank - 1 = (2044 + 1 + 1) * fractionCount + (fractionCount - 1) := by
    decide
  have behind : infinityRank = (2044 + 2 + 1) * fractionCount + 0 := by decide
  have bound := finiteBound_mul
  rw [← Nat.mul_lt_mul_right unitsPerOne_pos, bound, largest, behind,
    unitsOfRank_normal _ (by decide), unitsOfRank_normal _ (by decide), Nat.one_mul]
  generalize 2044 = scale
  rw [Nat.pow_add 2 scale 1, Nat.pow_add 2 scale 2]
  generalize n.natAbs * unitsPerOne = magnitude
  generalize 2 ^ scale = unit
  unfold fractionCount Nat.dist
  omega

theorem isFinite_ofInt_iff (n : Int) : (ofInt n).isFinite = true ↔ n.natAbs < finiteBound := by
  have rank : (ofInt n).rank =
      min (rankOfUnits (nearestUnits (n.natAbs * unitsPerOne) 1)) infinityRank := rfl
  rw [isFinite, decide_eq_true_eq, rank, min_lt_iff, or_iff_left (Nat.lt_irrefl _),
    rankOfUnits_lt_infinityRank_iff _ Nat.one_pos, ← finiteBound_mul,
    Nat.mul_lt_mul_right unitsPerOne_pos]

/-- A magnitude with the sign of an integer. -/
theorem natAbs_mul_unitsPerOne (n : Int) : n * unitsPerOne =
    if n < 0 then -((n.natAbs * unitsPerOne : Nat) : Int) else (n.natAbs * unitsPerOne : Nat) := by
  rw [Int.natCast_mul]
  split
  · rw [← Int.neg_mul]
    congr 1
    omega
  · congr 1
    omega

/-- The magnitudes are not farther apart than the numbers. -/
theorem dist_units_le (n : Int) (y : Binary64) :
    Nat.dist (n.natAbs * unitsPerOne) y.units ≤ (y.signedUnits - n * unitsPerOne).natAbs := by
  rw [natAbs_mul_unitsPerOne, signedUnits]
  generalize n.natAbs * unitsPerOne = magnitude
  unfold Nat.dist
  split_ifs <;> omega

section Integer

variable {n : Int} (small : n.natAbs < finiteBound)

include small

theorem rank_ofInt_of_small :
    (ofInt n).rank = rankOfUnits (nearestUnits (n.natAbs * unitsPerOne) 1) := by
  have finite : (ofInt n).rank < infinityRank :=
    of_decide_eq_true ((isFinite_ofInt_iff n).mpr small)
  rcases min_choice (rankOfUnits (nearestUnits (n.natAbs * unitsPerOne) 1)) infinityRank
    with taken | infinite
  · exact taken
  · exact absurd infinite finite.ne

theorem units_ofInt_of_small :
    (ofInt n).units = nearestUnits (n.natAbs * unitsPerOne) 1 := by
  rw [units, rank_ofInt_of_small small, unitsOfRank_nearestUnits _ Nat.one_pos]

/-- Numbers of the same sign are as far apart as their magnitudes. -/
theorem dist_ofInt : ((ofInt n).signedUnits - n * unitsPerOne).natAbs =
    Nat.dist (n.natAbs * unitsPerOne) (nearestUnits (n.natAbs * unitsPerOne) 1) := by
  have exact := natAbs_mul_unitsPerOne n
  rw [signedUnits, negative_ofInt, units_ofInt_of_small small]
  generalize n.natAbs * unitsPerOne = magnitude at *
  generalize n * (unitsPerOne : Int) = units at *
  simp only [decide_eq_true_eq, Nat.dist]
  split_ifs <;> omega

/-- Of two opposite numbers only one is nearest, unless they are zeros. -/
theorem units_ne_of_tie {y : Binary64} (different : y.signedUnits ≠ (ofInt n).signedUnits)
    (tie : (y.signedUnits - n * unitsPerOne).natAbs =
      ((ofInt n).signedUnits - n * unitsPerOne).natAbs) :
    y.units ≠ nearestUnits (n.natAbs * unitsPerOne) 1 := by
  intro same
  have exact := natAbs_mul_unitsPerOne n
  have zero := dist_nearestUnits (n.natAbs * unitsPerOne) Nat.one_pos 0
  rw [unitsOfRank_subnormal (by decide), Nat.mul_one, Nat.mul_one] at zero
  rw [signedUnits, signedUnits, same, negative_ofInt, units_ofInt_of_small small] at different tie
  generalize n.natAbs * unitsPerOne = magnitude at *
  generalize n * (unitsPerOne : Int) = units at *
  generalize nearestUnits magnitude 1 = nearest at *
  simp only [decide_eq_true_eq, Nat.dist] at different tie zero
  split_ifs at different tie exact <;> omega

/-- An integer that is not too large is rounded to the finite number nearest to it. -/
theorem isNearest_ofInt : IsNearest n (ofInt n) := by
  have nearer (rank : Nat) := dist_nearestUnits (n.natAbs * unitsPerOne) Nat.one_pos rank
  have even (rank : Nat) :=
    even_rankOfUnits_nearestUnits (n.natAbs * unitsPerOne) Nat.one_pos rank
  simp only [Nat.mul_one] at nearer even
  refine ⟨(isFinite_ofInt_iff n).mpr small, fun y _ => ?_, fun y _ different tie => ?_⟩
  · rw [dist_ofInt small]
    exact (nearer y.rank).trans (dist_units_le n y)
  · have opposite := units_ne_of_tie small different tie
    rw [dist_ofInt small] at tie
    rw [rank_ofInt_of_small small]
    exact even y.rank opposite (((dist_units_le n y).trans_eq tie).antisymm (nearer y.rank))

end Integer

end TableQuery.Binary64
