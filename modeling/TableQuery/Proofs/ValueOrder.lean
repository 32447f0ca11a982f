import Mathlib.Algebra.Group.Int.Defs
import Mathlib.Data.Set.Insert
import TableQuery.Proofs.SortedRows

/-!
The sorting order of values.

Sorting compares integers exactly, floating point numbers by their bits, and the one with the
other as floating point numbers, which forgets the last digits of large integers. On values
without such integers, or without floating point numbers, the three rules agree, and the
comparison is a total preorder with null below the numbers and these below the texts
(`Value.sortCompare_preorder`).
-/

namespace TableQuery

/-! ## The order of the bits -/

namespace Binary64

/-- Comparison of two numbers by their bits: those with a sign come first, and among them a
larger word is a smaller number. -/
def wordCompare (x y : Binary64) : Ordering :=
  match x.negative, y.negative with
  | false, false => compare x.toBits.toNat y.toBits.toNat
  | false, true => .gt
  | true, false => .lt
  | true, true => compare y.toBits.toNat x.toBits.toNat

/-- The word of a number is its rank under its sign. -/
theorem toNat_toBits (x : Binary64) :
    x.toBits.toNat = x.rank + if x.negative then 0x8000000000000000 else 0 := by
  have bound := x.rank_lt
  rw [toBits, UInt64.toNat_ofNat']
  split <;> omega

theorem totalCompare_eq_wordCompare (x y : Binary64) : totalCompare x y = wordCompare x y := by
  have left := toNat_toBits x
  have right := toNat_toBits y
  rw [totalCompare, bitsKey, bitsKey, wordCompare]
  cases signX : x.negative <;> cases signY : y.negative <;>
    simp only [signX, signY, if_true, if_false, Bool.false_eq_true] at left right ⊢
  · exact compare_congr (by omega) (by omega)
  · exact compare_gt_iff_gt.mpr (by omega)
  · exact compare_lt_iff_lt.mpr (by omega)
  · exact compare_congr (by omega) (by omega)

end Binary64

/-! ## The order of values -/

namespace Value

theorem sortCompare_self (a : Value) : a.sortCompare a = .eq := by
  cases a with
  | null => rfl
  | integer n => exact Std.ReflOrd.compare_self
  | float x => exact Std.ReflOrd.compare_self
  | text s => exact Std.ReflOrd.compare_self

/-- Three values among which no large integer stands beside a floating point number. -/
theorem sortCompare_trans {a b c : Value} (unmixed : Unmixed [a, b, c])
    (first : (a.sortCompare b).isLE = true) (second : (b.sortCompare c).isLE = true) :
    (a.sortCompare c).isLE = true := by
  obtain ⟨cmp, preorder, same⟩ := unmixed.exists_transCmp
  have inA : a ∈ [a, b, c] := by simp
  have inB : b ∈ [a, b, c] := by simp
  have inC : c ∈ [a, b, c] := by simp
  rw [same a inA b inB] at first
  rw [same b inB c inC] at second
  rw [same a inA c inC]
  exact preorder.isLE_trans first second

/-- Sorting compares values by a total preorder, as long as no floating point number stands
among them or no integer is larger than the bound up to which all are such numbers. -/
theorem sortCompare_preorder :
    (∀ a b : Value, a.sortCompare a = .eq ∧ b.sortCompare a = (a.sortCompare b).swap) ∧
    (∀ values : Set Value,
      (∀ x, .float x ∉ values) ∨ (∀ n, .integer n ∈ values → n.natAbs ≤ 2 ^ 53) →
      ∀ a ∈ values, ∀ b ∈ values, ∀ c ∈ values,
        (a.sortCompare b).isLE = true → (b.sortCompare c).isLE = true →
        (a.sortCompare c).isLE = true) ∧
    (∀ number s, number.number?.isSome = true →
      null.sortCompare number = .lt ∧ number.sortCompare (text s) = .lt) ∧
    ∀ x y, (float x).sortCompare (float y) = x.wordCompare y := by
  refine ⟨fun a b => ⟨a.sortCompare_self, sortCompare_swap b a⟩, ?_, ?_, ?_⟩
  · intro values small a inA b inB c inC
    have inside : ∀ value ∈ [a, b, c], value ∈ values := by simp [inA, inB, inC]
    refine sortCompare_trans fun n x isInteger isFloat => ?_
    rcases small with noFloat | bounded
    · exact absurd (inside _ isFloat) (noFloat x)
    · exact bounded n (inside _ isInteger)
  · intro number s isNumber
    cases number with
    | null => cases isNumber
    | text t => cases isNumber
    | integer n => exact ⟨rfl, rfl⟩
    | float x => exact ⟨rfl, rfl⟩
  · exact Binary64.totalCompare_eq_wordCompare

/-- The largest integers that are floating point numbers, beside these, both zeros, and what is not
a number with either sign. -/
theorem sortCompare_preorder_mixed :
    let bound : Value := .integer (2 ^ 53)
    let same : Value := .float (Binary64.ofInt (2 ^ 53))
    let least : Value := .float (Binary64.nan true)
    let values : Set Value :=
      {least, bound, same, .integer 0, .float (.zero true), .float (.nan false)}
    (∀ n, .integer n ∈ values → n.natAbs ≤ 2 ^ 53) ∧
      (least.sortCompare bound).isLE = true ∧ (bound.sortCompare same).isLE = true ∧
      (least.sortCompare same).isLE = true ∧
      same.sortCompare bound = (bound.sortCompare same).swap ∧
      null.sortCompare least = .lt ∧ least.sortCompare (text "") = .lt ∧
      (float (.zero true)).sortCompare (float (.zero false)) =
        (Binary64.zero true).wordCompare (.zero false) := by
  intro bound same least values
  obtain ⟨reverses, ascends, ranks, bits⟩ := sortCompare_preorder
  have small : ∀ n, .integer n ∈ values → n.natAbs ≤ 2 ^ 53 := by
    intro n member
    simp only [values, bound, same, least, Set.mem_insert_iff, Set.mem_singleton_iff,
      Value.integer.injEq, reduceCtorEq, false_or, or_false] at member
    rcases member with rfl | rfl <;> decide
  have first : (least.sortCompare bound).isLE = true := by decide +kernel
  have second : (bound.sortCompare same).isLE = true := by decide +kernel
  have both := ascends values (Or.inr small) least (by simp [values]) bound (by simp [values])
    same (by simp [values]) first second
  obtain ⟨below, above⟩ := ranks least "" rfl
  exact ⟨small, first, second, both, (reverses bound same).2, below, above, bits _ _⟩

/-- The first integer that is no floating point number breaks the order. -/
example : (integer (2 ^ 53 + 1)).sortCompare (float (Binary64.ofInt (2 ^ 53))) = .eq ∧
    (float (Binary64.ofInt (2 ^ 53))).sortCompare (integer (2 ^ 53)) = .eq ∧
    (integer (2 ^ 53 + 1)).sortCompare (integer (2 ^ 53)) = .gt := by
  decide +kernel

end Value

end TableQuery
