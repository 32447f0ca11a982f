import Mathlib.Algebra.Order.Field.Basic
import Mathlib.Data.List.DropRight
import Mathlib.Data.Rat.Cast.Order
import Mathlib.Tactic.Linarith
import Mathlib.Tactic.Ring
import TableQuery.Binary64.Shortest
import TableQuery.Proofs.NearestNumbers
import TableQuery.Proofs.Spelling

/-!
The shortest digits of a number belong to no other one.

A magnitude owns the decimals between the middles to its two neighbours (`Owns`). Two such parts
have at most one middle in common, and of two neighbours only one has an even rank, so no decimal
has two owners (`Owns.unique`). The grid of seventeen digits has a point in every part
(`onGrid?_seventeen`), so the search for the shortest digits ends, with a decimal of the
magnitude's own part (`shortest_eq`).
-/

namespace TableQuery

/-! ## Digits -/

namespace Text

theorem digitsValue_append (front back : List Char) :
    digitsValue (front ++ back) = digitsValue front * 10 ^ back.length + digitsValue back := by
  have value (cs : List Char) : digitsValue cs = Nat.ofDigitChars 10 cs 0 :=
    Nat.ofDigitChars_eq_foldl.symm
  rw [value, value, value, Nat.ofDigitChars_append, Nat.ofDigitChars_eq_ofDigitChars_zero,
    Nat.mul_comm]

theorem digitsValue_zeros (count : Nat) : digitsValue (List.replicate count '0') = 0 := by
  have value : Nat.ofDigitChars 10 (List.replicate count '0') 0 = 10 ^ count * 0 :=
    Nat.ofDigitChars_replicate_zero
  rwa [Nat.ofDigitChars_eq_foldl, Nat.mul_zero] at value

/-- What is dropped from the end of digits are zeros. -/
theorem exists_zeros (digits : List Char) :
    ∃ count, digits = digits.rdropWhile (· = '0') ++ List.replicate count '0' := by
  have zeros : ∀ c ∈ digits.rtakeWhile (· = '0'), c = '0' := fun c member => by
    simpa using List.mem_rtakeWhile_imp member
  refine ⟨(digits.rtakeWhile (· = '0')).length, ?_⟩
  rw [← List.eq_replicate_of_mem zeros, List.rdropWhile_append_rtakeWhile]

end Text

namespace Binary64

/-! ## The decimals of a magnitude -/

/-- A decimal that is rounded to the magnitude of a rank: it lies between the middles to the two
neighbours, or is one of these when the rank is even. -/
def Owns (rank : Nat) (value : ℚ) : Prop :=
  let low : ℚ := (unitsOfRank rank + unitsOfRank (rank - 1) : Nat)
  let high : ℚ := (unitsOfRank rank + unitsOfRank (rank + 1) : Nat)
  if rank % 2 = 0 then low ≤ 2 * value * unitsPerOne ∧ 2 * value * unitsPerOne ≤ high
  else low < 2 * value * unitsPerOne ∧ 2 * value * unitsPerOne < high

namespace Owns

variable {rank other : Nat} {value : ℚ}

theorem bounds (owns : Owns rank value) :
    ((unitsOfRank rank + unitsOfRank (rank - 1) : Nat) : ℚ) ≤ 2 * value * unitsPerOne ∧
      2 * value * unitsPerOne ≤ (unitsOfRank rank + unitsOfRank (rank + 1) : Nat) := by
  unfold Owns at owns
  split at owns
  · exact owns
  · exact ⟨owns.1.le, owns.2.le⟩

theorem strict (owns : Owns rank value) (odd : rank % 2 ≠ 0) :
    ((unitsOfRank rank + unitsOfRank (rank - 1) : Nat) : ℚ) < 2 * value * unitsPerOne ∧
      2 * value * unitsPerOne < (unitsOfRank rank + unitsOfRank (rank + 1) : Nat) := by
  unfold Owns at owns
  rwa [if_neg odd] at owns

/-- The larger of two ranks owns nothing that the smaller one owns. -/
theorem not_of_lt (owns : Owns rank value) (less : rank < other) : ¬ Owns other value := by
  intro owned
  have next : unitsOfRank (rank + 1) ≤ unitsOfRank other :=
    unitsOfRank_strictMono.monotone less
  have before : unitsOfRank rank ≤ unitsOfRank (other - 1) :=
    unitsOfRank_strictMono.monotone (by omega)
  have middles : unitsOfRank other + unitsOfRank (other - 1) ≤
      unitsOfRank rank + unitsOfRank (rank + 1) := by
    exact_mod_cast owned.bounds.1.trans owns.bounds.2
  -- only the middle between two neighbours is left, and one of their ranks is odd
  have neighbours : other = rank + 1 :=
    (unitsOfRank_strictMono.injective (by omega : unitsOfRank (rank + 1) = unitsOfRank other)).symm
  subst neighbours
  have middle : unitsOfRank (rank + 1) + unitsOfRank (rank + 1 - 1) =
      unitsOfRank rank + unitsOfRank (rank + 1) := Nat.add_comm _ _
  rcases Nat.mod_two_eq_zero_or_one rank with even | odd
  · have apart := (owned.strict (by omega)).1.trans_le owns.bounds.2
    exact absurd apart (middle ▸ lt_irrefl _)
  · have apart := owned.bounds.1.trans_lt (owns.strict (by omega)).2
    exact absurd apart (middle ▸ lt_irrefl _)

/-- No decimal has two owners. -/
theorem unique (owns : Owns rank value) (owned : Owns other value) : rank = other := by
  rcases Nat.lt_trichotomy rank other with less | same | greater
  · exact absurd owned (owns.not_of_lt less)
  · exact same
  · exact absurd owns (owned.not_of_lt greater)

theorem zero : Owns 0 0 := by
  have least : unitsOfRank 0 = 0 := unitsOfRank_subnormal (by decide)
  unfold Owns
  dsimp only
  rw [if_pos rfl, mul_zero, zero_mul, Nat.zero_sub, least]
  exact ⟨le_of_eq Nat.cast_zero, Nat.cast_nonneg _⟩

theorem pos (owns : Owns rank value) (positive : 0 < rank) : 0 < value := by
  have units : 0 < unitsOfRank rank := Nat.lt_of_le_of_lt (Nat.zero_le _)
    (unitsOfRank_strictMono positive)
  have low : (0 : ℚ) < 2 * value * unitsPerOne :=
    lt_of_lt_of_le (by exact_mod_cast Nat.add_pos_left units _) owns.bounds.1
  have one : (0 : ℚ) < unitsPerOne := by exact_mod_cast unitsPerOne_pos
  linarith [pos_of_mul_pos_left low one.le]

end Owns

/-- A power of ten as a quotient of natural numbers. -/
theorem ten_zpow (place : Int) :
    (10 : ℚ) ^ place = (Nat.pow 10 place.toNat : Nat) / (Nat.pow 10 (-place).toNat : Nat) := by
  rcases Int.le_total 0 place with whole | fraction
  · obtain ⟨n, rfl⟩ := Int.eq_ofNat_of_zero_le whole
    simp
  · obtain ⟨n, same⟩ := Int.eq_ofNat_of_zero_le (Int.neg_nonneg.mpr fraction)
    obtain rfl : place = -n := by omega
    simp

theorem owned_iff {rank : Nat} {place : Int} {c : Nat} :
    owned rank place c = true ↔ Owns rank (c * 10 ^ place) := by
  have positive : (0 : ℚ) < (Nat.pow 10 (-place).toNat : Nat) := by
    exact_mod_cast Nat.pow_pos (by decide)
  have value : 2 * (c * (10 : ℚ) ^ place) * unitsPerOne =
      (2 * c * (unitsPerOne * Nat.pow 10 place.toNat) : Nat) /
        (Nat.pow 10 (-place).toNat : Nat) := by
    rw [ten_zpow]
    push_cast
    ring
  unfold owned Owns
  dsimp only
  rw [value]
  split
  · rw [le_div_iff₀ positive, div_le_iff₀ positive]
    norm_cast
    exact decide_eq_true_iff
  · rw [lt_div_iff₀ positive, div_lt_iff₀ positive]
    norm_cast
    exact decide_eq_true_iff

/-! ## The width of a part -/

/-- Every rank is a point of its own grid: one of fifty-three digits, or any on the finest. -/
theorem rank_point_cases (rank : Nat) :
    ∃ exponent point, (exponent = 0 ∨ fractionCount ≤ point) ∧ point < 2 * fractionCount ∧
      rank = exponent * fractionCount + point := by
  rcases rank_cases rank with ⟨fraction, small, rfl⟩ | ⟨exponent, fraction, small, rfl⟩
  · exact ⟨0, rank, Or.inl rfl, by omega, by omega⟩
  · refine ⟨exponent, fractionCount + fraction, Or.inr (by omega), by omega, ?_⟩
    rw [Nat.succ_mul, Nat.add_assoc]

/-- The magnitude below one is a step of its grid away. Below the first point of fifty-three
digits the grid is finer, and the magnitude is half a step away. -/
theorem unitsOfRank_below {exponent point : Nat} (positive : 0 < exponent * fractionCount + point)
    (normal : exponent = 0 ∨ fractionCount ≤ point) (bounded : point < 2 * fractionCount) :
    unitsOfRank (exponent * fractionCount + point - 1) + 2 ^ exponent = point * 2 ^ exponent ∨
      point = fractionCount ∧ 2 * unitsOfRank (exponent * fractionCount + point - 1) +
        2 ^ exponent = 2 * (point * 2 ^ exponent) := by
  by_cases same : exponent = 0 ∨ fractionCount ≤ point - 1
  · have some : 1 ≤ point := by
      rcases same with rfl | few <;> omega
    rw [Nat.add_sub_assoc some, unitsOfRank_point same (by omega), ← Nat.succ_mul,
      Nat.succ_eq_add_one, Nat.sub_add_cancel some]
    exact Or.inl rfl
  · obtain ⟨coarse, few⟩ := not_or.mp same
    obtain ⟨finer, rfl⟩ := Nat.exists_eq_succ_of_ne_zero coarse
    have first : point = fractionCount := by omega
    have rank : finer.succ * fractionCount + point - 1 =
        finer * fractionCount + (2 * fractionCount - 1) := by
      rw [Nat.succ_mul]
      omega
    have last : (2 * fractionCount - 1) * 2 ^ finer + 2 ^ finer =
        2 * fractionCount * 2 ^ finer := by
      rw [← Nat.succ_mul]
      rfl
    rw [rank, unitsOfRank_point (Or.inr (by omega)) (by omega), first, Nat.pow_succ']
    exact Or.inr ⟨rfl, by linarith⟩

/-- A magnitude with the two beside it, in steps of its grid. -/
theorem neighbours_cases {rank : Nat} (positive : 0 < rank) :
    ∃ point step, 0 < step ∧ point < 2 * fractionCount ∧
      unitsOfRank rank = point * step ∧ unitsOfRank (rank + 1) = point * step + step ∧
      (unitsOfRank (rank - 1) + step = point * step ∨
        point = fractionCount ∧ 2 * unitsOfRank (rank - 1) + step = 2 * (point * step)) := by
  obtain ⟨exponent, point, normal, bounded, rfl⟩ := rank_point_cases rank
  refine ⟨point, 2 ^ exponent, Nat.two_pow_pos _, bounded, unitsOfRank_point normal bounded.le,
    ?_, unitsOfRank_below positive normal bounded⟩
  rw [Nat.add_assoc, unitsOfRank_point (normal.imp_right Nat.le_succ_of_le) bounded, Nat.succ_mul]

/-- The part of a magnitude is wider than the magnitude over `10 ^ 16`. -/
theorem magnitude_lt_width {rank : Nat} (positive : 0 < rank) :
    2 * unitsOfRank rank + unitsOfRank (rank - 1) * 10 ^ 16 <
      unitsOfRank (rank + 1) * 10 ^ 16 := by
  obtain ⟨point, step, scale, bounded, own, above, below⟩ := neighbours_cases positive
  have bound : point * step < 2 * fractionCount * step := Nat.mul_lt_mul_of_pos_right bounded scale
  have count : fractionCount = 4503599627370496 := rfl
  rw [own, above]
  rcases below with below | ⟨rfl, below⟩
  · rw [count] at bound
    rw [← below] at bound ⊢
    linarith
  · rw [count] at bound below ⊢
    linarith

/-! ## Points of the decimal grid -/

/-- Only points of the grid that read back are found, and none is found only when neither of the
two points around the magnitude does. -/
theorem onGrid?_cases (tie : Tie) (rank count : Nat) :
    let place := decimalPoint (unitsOfRank rank) - count
    let below := unitsOfRank rank * Nat.pow 10 (-place).toNat /
      (unitsPerOne * Nat.pow 10 place.toNat)
    (∃ c, onGrid? tie rank count = some c ∧ owned rank place c = true) ∨
      onGrid? tie rank count = none ∧
        owned rank place below = false ∧ owned rank place (below + 1) = false := by
  intro place below
  unfold onGrid?
  dsimp only
  generalize compare (2 * (unitsOfRank rank * _)) _ = ordering
  cases first : owned rank place below with
  | true =>
    left
    cases second : owned rank place (below + 1) with
    | true =>
      cases ordering with
      | lt => exact ⟨below, rfl, first⟩
      | gt => exact ⟨below + 1, rfl, second⟩
      | eq =>
        by_cases even : tie = .even ∧ below % 2 = 0
        · exact ⟨below, if_pos even, first⟩
        · exact ⟨below + 1, if_neg even, second⟩
    | false => exact ⟨below, rfl, first⟩
  | false =>
    cases second : owned rank place (below + 1) with
    | true => exact Or.inl ⟨below + 1, rfl, second⟩
    | false => exact Or.inr ⟨rfl, rfl, rfl⟩

theorem owns_of_onGrid? {tie : Tie} {rank count c : Nat} (found : onGrid? tie rank count = some c) :
    Owns rank (c * 10 ^ (decimalPoint (unitsOfRank rank) - count)) := by
  rcases onGrid?_cases tie rank count with ⟨_, other, own⟩ | ⟨none, _⟩
  · cases found.symm.trans other
    exact owned_iff.mp own
  · cases found.symm.trans none

/-! ## Seventeen digits -/

/-- A number is at least the power of ten with as many digits. -/
theorem ten_pow_le_of_length {n length : Nat} (positive : 0 < n)
    (digits : (Text.natText n).length = length + 1) : 10 ^ length ≤ n := by
  rcases Nat.eq_zero_or_pos length with rfl | some
  · exact positive
  · refine Nat.le_of_not_lt fun small => ?_
    have short := (Nat.length_toDigits_le_iff (by decide) some).mpr small
    exact absurd (digits.symm.trans_le short) (by omega)

/-- The first digit of a magnitude is at its decimal point. -/
theorem ten_pow_decimalPoint {units : Nat} (positive : 0 < units) :
    ∃ length : Nat, decimalPoint units = length + 1 - 324 ∧
      unitsPerOne * 10 ^ length ≤ units * Nat.pow 10 324 := by
  have scale : unitsPerOne ≤ Nat.pow 10 324 := by decide +kernel
  have least := scale.trans (Nat.le_mul_of_pos_left _ positive)
  unfold decimalPoint
  generalize units * Nat.pow 10 324 = shifted at *
  have some : 0 < shifted / unitsPerOne := Nat.div_pos least unitsPerOne_pos
  obtain ⟨length, digits⟩ := Nat.exists_eq_succ_of_ne_zero
    (Nat.length_toDigits_pos (b := 10) (n := shifted / unitsPerOne)).ne'
  refine ⟨length, ?_, ?_⟩
  · rw [Text.natText, digits]
    rfl
  · rw [Nat.mul_comm]
    exact (Nat.le_div_iff_mul_le unitsPerOne_pos).mp (ten_pow_le_of_length some digits)

/-- The grid of seventeen digits is finer than the part of a magnitude. -/
theorem seventeen_fine {units : Nat} (positive : 0 < units) {place : Int}
    (places : place = decimalPoint units - (17 : Nat)) :
    unitsPerOne * Nat.pow 10 place.toNat * 10 ^ 16 ≤ units * Nat.pow 10 (-place).toNat := by
  obtain ⟨length, point, first⟩ := ten_pow_decimalPoint positive
  have shifts : length + (-place).toNat = place.toNat + 16 + 324 := by
    clear first
    omega
  clear point
  generalize 324 = scale at *
  refine Nat.le_of_mul_le_mul_right ?_ (Nat.pow_pos (by decide) : 0 < 10 ^ scale)
  calc unitsPerOne * 10 ^ place.toNat * 10 ^ 16 * 10 ^ scale
      = unitsPerOne * 10 ^ length * 10 ^ (-place).toNat := by
        rw [Nat.mul_assoc, Nat.mul_assoc, ← Nat.pow_add, ← Nat.pow_add, Nat.mul_assoc,
          ← Nat.pow_add, shifts, Nat.add_assoc]
    _ ≤ units * 10 ^ scale * 10 ^ (-place).toNat := Nat.mul_le_mul_right _ first
    _ = units * 10 ^ (-place).toNat * 10 ^ scale := Nat.mul_right_comm _ _ _

theorem owned_of_lt {rank : Nat} {place : Int} {c : Nat}
    (low : (unitsOfRank rank + unitsOfRank (rank - 1)) * Nat.pow 10 (-place).toNat <
      2 * c * (unitsPerOne * Nat.pow 10 place.toNat))
    (high : 2 * c * (unitsPerOne * Nat.pow 10 place.toNat) <
      (unitsOfRank rank + unitsOfRank (rank + 1)) * Nat.pow 10 (-place).toNat) :
    owned rank place c = true := by
  unfold owned
  dsimp only
  split
  · exact decide_eq_true ⟨low.le, high.le⟩
  · exact decide_eq_true ⟨low, high⟩

/-- On a grid that is fine enough, one of the two points around a magnitude is in its part. -/
theorem owned_around {rank : Nat} (positive : 0 < rank) {place : Int} {num den : Nat}
    (isNum : num = unitsOfRank rank * Nat.pow 10 (-place).toNat)
    (isDen : den = unitsPerOne * Nat.pow 10 place.toNat) (fine : den * 10 ^ 16 ≤ num) :
    owned rank place (num / den) = true ∨ owned rank place (num / den + 1) = true := by
  have scale : 0 < Nat.pow 10 (-place).toNat := Nat.pow_pos (by decide)
  have some : 0 < den := isDen ▸ Nat.mul_pos unitsPerOne_pos (Nat.pow_pos (by decide))
  have wide := Nat.mul_lt_mul_of_pos_right (magnitude_lt_width positive) scale
  have before := Nat.mul_lt_mul_of_pos_right
    (unitsOfRank_strictMono (Nat.sub_one_lt_of_lt positive)) scale
  have behind := Nat.mul_lt_mul_of_pos_right (unitsOfRank_strictMono (Nat.lt_succ_self rank)) scale
  have parts := Nat.div_add_mod' num den
  have remainder := Nat.mod_lt num some
  rw [Nat.succ_eq_add_one] at behind
  -- the part reaches over more than a step of this grid, so what is not below is above
  rcases Nat.lt_or_ge ((unitsOfRank rank + unitsOfRank (rank - 1)) * Nat.pow 10 (-place).toNat)
    (2 * (num / den) * den) with inside | outside
  · refine Or.inl (owned_of_lt ?_ ?_) <;> rw [← isDen]
    · exact inside
    · linarith [Nat.div_mul_le_self num den]
  · refine Or.inr (owned_of_lt ?_ ?_) <;> rw [← isDen]
    · linarith
    · linarith

theorem onGrid?_seventeen (tie : Tie) {rank : Nat} (positive : 0 < rank) :
    ∃ c, onGrid? tie rank 17 = some c := by
  have units : 0 < unitsOfRank rank :=
    Nat.lt_of_le_of_lt (Nat.zero_le _) (unitsOfRank_strictMono positive)
  rcases onGrid?_cases tie rank 17 with ⟨c, found, _⟩ | ⟨_, below, above⟩
  · exact ⟨c, found⟩
  · rcases owned_around positive rfl rfl (seventeen_fine units rfl) with inPart | inPart
    · exact absurd (below.symm.trans inPart) Bool.false_ne_true
    · exact absurd (above.symm.trans inPart) Bool.false_ne_true

/-! ## The shortest digits -/

/-- The search ends with a decimal of the magnitude, whose digits are taken without the zeros at
their end. -/
theorem shortest_eq (tie : Tie) {rank : Nat} (positive : 0 < rank) :
    ∃ (c : Nat) (place : Int), Owns rank (c * 10 ^ place) ∧
      shortest tie rank =
        ⟨(Text.natText c).rdropWhile (· = '0'), place + (Text.natText c).length⟩ := by
  obtain ⟨last, seventeen⟩ := onGrid?_seventeen tie positive
  obtain ⟨⟨count, c⟩, found⟩ : ∃ found, ((List.range 17).findSome? fun i =>
      (onGrid? tie rank (i + 1)).map fun c => (i + 1, c)) = some found := by
    refine Option.isSome_iff_exists.mp (List.findSome?_isSome_iff.mpr ⟨16, by decide, ?_⟩)
    rw [seventeen]
    rfl
  obtain ⟨i, _, point⟩ := List.exists_of_findSome?_eq_some found
  obtain ⟨_, onGrid, same⟩ := Option.map_eq_some_iff.mp point
  cases same
  refine ⟨c, _, owns_of_onGrid? onGrid, ?_⟩
  rw [shortest, found]
  rfl

/-- The shortest digits of a number stand for a decimal of its own. -/
theorem owns_shortest (tie : Tie) {rank : Nat} (positive : 0 < rank) :
    IsDigits (shortest tie rank).digits ∧
      Owns rank (Text.digitsValue (shortest tie rank).digits *
        10 ^ ((shortest tie rank).point - (shortest tie rank).digits.length)) := by
  obtain ⟨c, place, owns, isShortest⟩ := shortest_eq tie positive
  obtain ⟨zeros, digits⟩ := Text.exists_zeros (Text.natText c)
  rw [isShortest]
  generalize (Text.natText c).rdropWhile (· = '0') = kept at digits
  have value : Text.digitsValue kept * 10 ^ zeros = c := by
    rw [← Text.digitsValue_natText c, digits, Text.digitsValue_append, Text.digitsValue_zeros,
      List.length_replicate, Nat.add_zero]
  have exponent : place + (Text.natText c).length - kept.length = zeros + place := by
    rw [digits, List.length_append, List.length_replicate]
    push_cast
    ring
  have same : (c : ℚ) * 10 ^ place =
      Text.digitsValue kept * 10 ^ (place + (Text.natText c).length - kept.length) := by
    rw [exponent, zpow_add₀ (by norm_num), zpow_natCast, ← value]
    push_cast
    ring
  refine ⟨⟨?_, fun d member => ?_⟩, same ▸ owns⟩
  · rintro rfl
    have none : c = 0 := by simpa [Text.digitsValue] using value.symm
    exact absurd (owns.pos positive) (by simp [none])
  · exact (isDigits_natText c).2 d (digits ▸ List.mem_append_left _ member)

end Binary64

end TableQuery
