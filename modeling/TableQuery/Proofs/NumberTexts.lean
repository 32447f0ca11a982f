import TableQuery.Proofs.IntegerLiterals
import TableQuery.Proofs.ShortestDigits

/-!
The texts of floating point numbers.

A text is read as the decimal that its digits and its exponent stand for
(`Decimal.ofText?_of_splitSign`), wherever the point is written (`Digits.spells_layOut`). So the
text of a finite number is read as its sign and a decimal of its own (`Binary64.ofText?_text`), and
those of infinity and of what is not a number are not read at all. Numbers with the same text are
therefore the same number, or both not a number (`Binary64.text_eq_iff`).
-/

namespace TableQuery

/-! ## Reading decimals -/

/-- The magnitude of a decimal. -/
def Decimal.magnitude (d : Decimal) : ℚ :=
  d.significand * 10 ^ d.exponent

/-- The texts of an exponent, which is zero when there is none. -/
inductive SpellsExponent : Int → List Char → Prop
  | absent : SpellsExponent 0 []
  | present (n : Int) : SpellsExponent n ('e' :: Text.intText n)

/-- The texts of a decimal: digits, perhaps a point with digits, and perhaps an exponent. -/
inductive SpellsDecimal : Decimal → List Char → Prop
  | whole {digits : List Char} {exponent : Int} {ending : List Char} :
    IsDigits digits → SpellsExponent exponent ending →
    SpellsDecimal ⟨false, Text.digitsValue digits, exponent⟩ (digits ++ ending)
  | point {digits fraction : List Char} {exponent : Int} {ending : List Char} :
    IsDigits digits → (∀ c ∈ fraction, c.isDigit = true) → SpellsExponent exponent ending →
    SpellsDecimal ⟨false, Text.digitsValue (digits ++ fraction), exponent - fraction.length⟩
      (digits ++ '.' :: (fraction ++ ending))

namespace Decimal

theorem splitSign_of_isDigits {digits : List Char} (isDigits : IsDigits digits)
    (rest : List Char) : splitSign (digits ++ rest) = (false, digits ++ rest) := by
  obtain ⟨d, more, rfl⟩ := List.exists_cons_of_ne_nil isDigits.1
  have digit := isDigits.2 d List.mem_cons_self
  have notMinus : d ≠ '-' := by
    rintro rfl
    exact absurd digit (by decide)
  have notPlus : d ≠ '+' := by
    rintro rfl
    exact absurd digit (by decide)
  unfold splitSign
  split
  · rename_i same
    exact absurd (List.cons.inj same).1 notMinus
  · rename_i same
    exact absurd (List.cons.inj same).1 notPlus
  · rfl

theorem exponent?_of_spells {exponent : Int} {ending : List Char}
    (spelled : SpellsExponent exponent ending) : exponent? ending = some exponent := by
  cases spelled with
  | absent => rfl
  | present =>
    obtain ⟨negative, digits, split, isDigits, value⟩ := (SpellsInteger.intText exponent).splitSign
    rw [exponent?, if_pos (Or.inl rfl), split]
    simp only [Text.natural?_of_isDigits isDigits, digitsValue_eq_decimal]
    exact congrArg some value.symm

/-- An exponent starts with no digit. -/
theorem head?_ending {exponent : Int} {ending : List Char}
    (spelled : SpellsExponent exponent ending) : ∀ c ∈ ending.head?, c.isDigit = false := by
  cases spelled with
  | absent => simp
  | present => exact Token.forall_head?_cons (by decide) _

theorem splitSign_of_spells {d : Decimal} {cs : List Char} (spelled : SpellsDecimal d cs) :
    splitSign cs = (false, cs) := by
  cases spelled with
  | whole isDigits => exact splitSign_of_isDigits isDigits _
  | point isDigits => exact splitSign_of_isDigits isDigits _

/-- A decimal is read behind its sign. -/
theorem ofText?_of_splitSign {d : Decimal} {negative : Bool} {cs signed : List Char}
    (spelled : SpellsDecimal d cs) (sign : splitSign signed = (negative, cs)) :
    ofText? signed = some { d with negative } := by
  rw [ofText?, sign]
  cases spelled with
  | @whole digits exponent ending isDigits spells =>
    obtain ⟨taken, left⟩ := Token.span_append isDigits.2 (head?_ending spells)
    have noPoint : ending.head? ≠ some '.' := by
      cases spells <;> simp
    have value := exponent?_of_spells spells
    simp only [taken, left]
    split
    · exact absurd rfl noPoint
    · simp [value, isDigits.1]
  | @point digits fraction exponent ending isDigits fractions spells =>
    have stop : ∀ c ∈ ('.' :: (fraction ++ ending)).head?, c.isDigit = false := by simp
    obtain ⟨taken, left⟩ := Token.span_append isDigits.2 stop
    obtain ⟨others, last⟩ := Token.span_append fractions (head?_ending spells)
    simp only [taken, left, others, last, exponent?_of_spells spells]
    rw [if_neg (by simp [isDigits.1])]
    rfl

end Decimal

namespace Binary64

/-! ## Laying out digits -/

/-- A text of a decimal of the magnitude that some digits have at their place. -/
def Digits.Spells (number : Digits) (cs : List Char) : Prop :=
  ∃ d, SpellsDecimal d cs ∧
    d.magnitude = Text.digitsValue number.digits * 10 ^ (number.point - number.digits.length)

theorem zeros_isDigit (count : Nat) : ∀ c ∈ List.replicate count '0', c.isDigit = true :=
  fun c member => by
    rw [List.eq_of_mem_replicate member]
    rfl

namespace Digits

variable {number : Digits}

theorem spells_of {cs : List Char} {significand : Nat} {exponent : Int}
    (spelled : SpellsDecimal ⟨false, significand, exponent⟩ cs)
    (value : (significand : ℚ) * 10 ^ exponent =
      Text.digitsValue number.digits * 10 ^ (number.point - number.digits.length)) :
    number.Spells cs :=
  ⟨_, spelled, value⟩

variable (digits : IsDigits number.digits)

include digits

/-- The digits stand behind the point and some zeros. -/
theorem spells_small (small : number.point ≤ 0) : number.Spells
    (['0', '.'] ++ List.replicate (-number.point).toNat '0' ++ number.digits) := by
  have whole : IsDigits ['0'] := ⟨by simp, by simp⟩
  have fractions : ∀ c ∈ List.replicate (-number.point).toNat '0' ++ number.digits,
      c.isDigit = true := fun c member =>
    (List.mem_append.mp member).elim (zeros_isDigit _ c) (digits.2 c)
  have value : Text.digitsValue (['0'] ++ (List.replicate (-number.point).toNat '0' ++
      number.digits)) = Text.digitsValue number.digits := by
    rw [Text.digitsValue_append, Text.digitsValue_append, Text.digitsValue_zeros]
    simp [Text.digitsValue, Text.digitValue]
  have exponent : (0 : Int) - (List.replicate (-number.point).toNat '0' ++ number.digits).length =
      number.point - number.digits.length := by
    rw [List.length_append, List.length_replicate]
    omega
  have spelled := SpellsDecimal.point whole fractions .absent
  rw [value, exponent, List.append_nil] at spelled
  exact spells_of spelled rfl

/-- The digits and some zeros stand before the point. -/
theorem spells_large (large : (number.digits.length : Int) ≤ number.point) : number.Spells
    (number.digits ++ List.replicate (number.point.toNat - number.digits.length) '0' ++
      ['.', '0']) := by
  obtain ⟨count, place⟩ := Int.eq_ofNat_of_zero_le (Int.sub_nonneg.mpr large)
  have zeros : number.point.toNat - number.digits.length = count := by omega
  rw [zeros]
  have whole : IsDigits (number.digits ++ List.replicate count '0') :=
    ⟨by simp [digits.1], fun c member =>
      (List.mem_append.mp member).elim (digits.2 c) (zeros_isDigit _ c)⟩
  have fractions : ∀ c ∈ ['0'], c.isDigit = true := by simp
  have spelled := SpellsDecimal.point whole fractions .absent
  have value : Text.digitsValue (number.digits ++ List.replicate count '0' ++ ['0']) =
      Text.digitsValue number.digits * 10 ^ (count + 1) := by
    rw [List.append_assoc, ← List.replicate_succ', Text.digitsValue_append, Text.digitsValue_zeros,
      List.length_replicate, Nat.add_zero]
  refine spells_of spelled ?_
  rw [value, place]
  push_cast
  rw [mul_assoc, ← zpow_natCast, ← zpow_add₀ (by norm_num)]
  norm_num

/-- The point stands among the digits. -/
theorem spells_among (positive : 0 < number.point) (small : number.point < number.digits.length) :
    number.Spells (number.digits.take number.point.toNat ++ ['.'] ++
      number.digits.drop number.point.toNat) := by
  have whole : IsDigits (number.digits.take number.point.toNat) := by
    refine ⟨List.ne_nil_of_length_pos ?_, fun c member => digits.2 c (List.mem_of_mem_take member)⟩
    rw [List.length_take]
    omega
  have fractions : ∀ c ∈ number.digits.drop number.point.toNat, c.isDigit = true :=
    fun c member => digits.2 c (List.mem_of_mem_drop member)
  have spelled := SpellsDecimal.point whole fractions .absent
  rw [List.take_append_drop, List.append_nil, List.length_drop] at spelled
  rw [List.append_assoc]
  refine spells_of spelled ?_
  congr 2
  omega

/-- The point stands behind the first digit, before an exponent. -/
theorem spells_scientific : number.Spells (number.digits.take 1 ++
    (if number.digits.drop 1 = [] then [] else '.' :: number.digits.drop 1) ++
      ['e'] ++ Text.intText (number.point - 1)) := by
  obtain ⟨first, others, cons⟩ := List.exists_cons_of_ne_nil digits.1
  rw [cons] at digits
  have whole : IsDigits [first] := ⟨by simp, fun c member =>
    digits.2 c (List.mem_singleton.mp member ▸ List.mem_cons_self)⟩
  have ending := SpellsExponent.present (number.point - 1)
  cases others with
  | nil =>
    have spelled := SpellsDecimal.whole whole ending
    rw [cons]
    exact spells_of spelled (by rw [cons]; rfl)
  | cons second rest =>
    have fractions : ∀ c ∈ second :: rest, c.isDigit = true := fun c member =>
      digits.2 c (List.mem_cons_of_mem first member)
    have spelled := SpellsDecimal.point whole fractions ending
    have text : number.digits.take 1 ++ (if number.digits.drop 1 = [] then []
        else '.' :: number.digits.drop 1) ++ ['e'] ++ Text.intText (number.point - 1) =
          [first] ++ '.' :: (second :: rest ++ 'e' :: Text.intText (number.point - 1)) := by
      simp [cons]
    rw [text]
    refine spells_of spelled ?_
    rw [cons]
    congr 2
    simp only [List.length_cons]
    omega

theorem spells_layOut {format : Format} (ending : format.wholeEnding = ['.', '0']) :
    number.Spells (format.layOut number) := by
  unfold Format.layOut
  dsimp only
  split
  · split_ifs with small large
    · exact spells_small digits small
    · rw [ending]
      exact spells_large digits large
    · exact spells_among digits (by omega) (by omega)
  · exact spells_scientific digits

end Digits

/-! ## Texts of numbers -/

section Text

variable {format : Format}

/-- What is not finite has a text that is no number. -/
theorem text_of_not_isFinite (format : Format) {x : Binary64} (infinite : x.isFinite = false) :
    x.isNaN = true ∧ x.text format = ['N', 'a', 'N'] ∨
      x = infinity x.negative ∧
        x.text format = if x.negative then ['-', 'i', 'n', 'f'] else ['i', 'n', 'f'] := by
  have large : infinityRank ≤ x.rank := Nat.not_lt.mp (of_decide_eq_false infinite)
  rcases Nat.lt_or_eq_of_le large with beyond | same
  · have noNumber : x.isNaN = true := decide_eq_true beyond
    exact Or.inl ⟨noNumber, if_pos noNumber⟩
  · obtain ⟨negative, rank, small⟩ := x
    subst same
    exact Or.inr ⟨rfl, rfl⟩

theorem ofText?_text_eq_none {x : Binary64} (infinite : x.isFinite = false) :
    Decimal.ofText? (x.text format) = none := by
  rcases text_of_not_isFinite format infinite with ⟨_, shape⟩ | ⟨_, shape⟩
  · rw [shape]
    rfl
  · rw [shape]
    cases x.negative <;> rfl

/-- The three texts of what is not finite are different. -/
theorem eq_or_isNaN_of_text_eq {x y : Binary64} (left : x.isFinite = false)
    (right : y.isFinite = false) (same : x.text format = y.text format) :
    x = y ∨ x.isNaN = true ∧ y.isNaN = true := by
  rcases text_of_not_isFinite format left with ⟨first, shape⟩ | ⟨first, shape⟩ <;>
    rcases text_of_not_isFinite format right with ⟨second, shape'⟩ | ⟨second, shape'⟩ <;>
    rw [shape, shape'] at same
  · exact Or.inr ⟨first, second⟩
  · cases sign : y.negative <;> simp [sign] at same
  · cases sign : x.negative <;> simp [sign] at same
  · have signs : x.negative = y.negative := by
      cases sign : x.negative <;> cases sign' : y.negative <;> simp [sign, sign'] at same ⊢
    rw [first, second, signs]
    exact Or.inl rfl

variable (ending : format.wholeEnding = ['.', '0']) {x y : Binary64}

include ending

/-- The text of a finite number is that of a decimal of its own, behind its sign. -/
theorem exists_text (finite : x.isFinite = true) :
    ∃ d cs, x.text format = (if x.negative then '-' :: cs else cs) ∧ SpellsDecimal d cs ∧
      Owns x.rank d.magnitude := by
  have small : x.rank < infinityRank := of_decide_eq_true finite
  have number : ¬ x.isNaN = true := by
    simpa [isNaN] using small.le
  have notInfinite : ¬ x.isInfinite = true := by
    simpa [isInfinite] using small.ne
  rw [text, if_neg number]
  simp only [if_neg notInfinite]
  rcases Nat.eq_zero_or_pos x.rank with zero | positive
  · have digits : IsDigits ['0'] := ⟨by simp, by simp⟩
    have spelled := SpellsDecimal.point digits digits.2 .absent
    refine ⟨_, '0' :: format.wholeEnding, by rw [if_pos zero], ending ▸ spelled, ?_⟩
    have nothing : Text.digitsValue (['0'] ++ ['0']) = 0 := rfl
    rw [zero, Decimal.magnitude, nothing, Nat.cast_zero, zero_mul]
    exact Owns.zero
  · obtain ⟨digits, owns⟩ := owns_shortest format.tie positive
    obtain ⟨d, spelled, magnitude⟩ := Digits.spells_layOut digits ending
    exact ⟨d, _, by rw [if_neg positive.ne'], spelled, magnitude ▸ owns⟩

/-- A finite number is read as its sign and a decimal of its own. -/
theorem ofText?_text (finite : x.isFinite = true) :
    ∃ d, Decimal.ofText? (x.text format) = some d ∧ d.negative = x.negative ∧
      Owns x.rank d.magnitude := by
  obtain ⟨d, cs, shape, spelled, owns⟩ := exists_text ending finite
  refine ⟨{ d with negative := x.negative }, Decimal.ofText?_of_splitSign spelled ?_, rfl, owns⟩
  rw [shape]
  cases x.negative with
  | false => exact Decimal.splitSign_of_spells spelled
  | true => rfl

/-- Numbers have the same text when they are the same number or both not a number. -/
theorem text_eq_iff :
    x.text format = y.text format ↔ x = y ∨ x.isNaN = true ∧ y.isNaN = true := by
  constructor
  · intro same
    cases first : x.isFinite <;> cases second : y.isFinite
    · exact eq_or_isNaN_of_text_eq first second same
    · obtain ⟨d, read, _⟩ := ofText?_text ending second
      cases (ofText?_text_eq_none first).symm.trans (same ▸ read)
    · obtain ⟨d, read, _⟩ := ofText?_text ending first
      cases (ofText?_text_eq_none second).symm.trans (same ▸ read)
    · obtain ⟨d, read, sign, owns⟩ := ofText?_text ending first
      obtain ⟨d', read', sign', owns'⟩ := ofText?_text ending second
      rw [same] at read
      cases read.symm.trans read'
      obtain ⟨negative, rank, small⟩ := x
      obtain ⟨negative', rank', small'⟩ := y
      cases sign.symm.trans sign'
      cases owns.unique owns'
      exact Or.inl rfl
  · rintro (rfl | ⟨first, second⟩)
    · rfl
    · rw [text, if_pos first, text, if_pos second]

end Text

end Binary64

end TableQuery
