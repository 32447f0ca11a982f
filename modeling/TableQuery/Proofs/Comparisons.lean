import TableQuery.Proofs.ExactArithmetic
import TableQuery.Proofs.GroupParts
import TableQuery.Proofs.InsertSelect

/-!
What the comparison operators say of one another.

A cell and a literal are both read as literals and meet in one ordering, or in none, and
every operator is a reading of that ordering. So the six agree with each other on every
pair of kinds, and a condition of equality and its denial cut any rows in the same two
parts. Null has no ordering of its own: it is told apart before, and no literal reads as
null.
-/

namespace TableQuery

/-! ## Six readings of one ordering -/

/-- Two values are both numbers or both texts. -/
def Value.comparable : Value → Value → Bool
  | .text _, .text _ => true
  | left, right => left.number?.isSome && right.number?.isSome

namespace Operator

/-- The verdicts of the comparison operators hang together: `!=` denies `=`, `<=` and `>=`
widen `<` and `>` by `=`, and of `<`, `=` and `>` one holds when the sides are comparable
and none when they are not. -/
structure Coherent (verdict : Operator → Bool) (comparable : Bool) : Prop where
  notEqual : verdict notEqual = !verdict equal
  lessOrEqual : verdict lessOrEqual = (verdict less || verdict equal)
  greaterOrEqual : verdict greaterOrEqual = (verdict greater || verdict equal)
  exactlyOne : [less, equal, greater].countP verdict = if comparable then 1 else 0

theorem coherent_accepts (ordering : Option Ordering) :
    Coherent (accepts ordering) ordering.isSome := by
  rcases ordering with _ | _ | _ | _ <;> constructor <;> decide

end Operator

theorem Binary64.isSome_compare? {a b : Binary64} (left : a.isNaN = false)
    (right : b.isNaN = false) : (compare? a b).isSome = true := by
  rw [compare?, left, right]
  rfl

namespace Value

variable {left right : Value}

/-- Two values that are not null have an ordering when they are comparable. -/
theorem isSome_compare? (leftSome : left ≠ null) (rightSome : right ≠ null)
    (leftNumber : left.isNaN = false) (rightNumber : right.isNaN = false) :
    (left.compare? right).isSome = left.comparable right := by
  cases left with
  | null => exact absurd rfl leftSome
  | integer m =>
    cases right with
    | null => exact absurd rfl rightSome
    | integer n => rfl
    | float y => exact Binary64.isSome_compare? (Binary64.isNaN_ofInt m) rightNumber
    | text t => rfl
  | float x =>
    cases right with
    | null => exact absurd rfl rightSome
    | integer n => exact Binary64.isSome_compare? leftNumber (Binary64.isNaN_ofInt n)
    | float y => exact Binary64.isSome_compare? leftNumber rightNumber
    | text t => rfl
  | text s =>
    cases right with
    | null => exact absurd rfl rightSome
    | integer n => rfl
    | float y => rfl
    | text t => rfl

theorem holds_of_ne_null (leftSome : left ≠ null) (rightSome : right ≠ null)
    (operator : Operator) :
    operator.holds left right = operator.accepts (left.compare? right) := by
  cases left <;> cases right <;> first | exact absurd rfl leftSome | exact absurd rfl rightSome | rfl

/-- Null is equal to nothing else and has no order. -/
theorem holds_null_left (rightSome : right ≠ null) (operator : Operator) :
    operator.holds null right = (operator == .notEqual) := by
  cases right with
  | null => exact absurd rfl rightSome
  | integer _ | float _ | text _ => rfl

/-- The operators agree with each other on every value and every right side that is not
null. -/
theorem coherent_holds (rightSome : right ≠ null) (leftNumber : left.isNaN = false)
    (rightNumber : right.isNaN = false) :
    Operator.Coherent (fun operator => operator.holds left right) (left.comparable right) := by
  by_cases leftNull : left = null
  · subst leftNull
    have apart : null.comparable right = false := by cases right <;> rfl
    simp only [holds_null_left rightSome, apart]
    constructor <;> rfl
  · simp only [holds_of_ne_null leftNull rightSome]
    rw [← isSome_compare? leftNull rightSome leftNumber rightNumber]
    exact Operator.coherent_accepts (left.compare? right)

/-- `!=` denies `=` on all values, also where a side is not a number. -/
theorem holds_notEqual (left right : Value) :
    Operator.notEqual.holds left right = !Operator.equal.holds left right := by
  by_cases leftNull : left = null
  · subst leftNull
    cases right <;> rfl
  by_cases rightNull : right = null
  · subst rightNull
    cases left <;> rfl
  rw [holds_of_ne_null leftNull rightNull, holds_of_ne_null leftNull rightNull]
  exact (Operator.coherent_accepts _).notEqual

/-! ## What literals read as -/

theorem ofLiteral_ne_null (literal : String) : ofLiteral literal ≠ null := by
  rcases ofLiteral_cases literal with ⟨n, read⟩ | ⟨x, read, -⟩ | ⟨s, read⟩ <;> rw [read] <;>
    intro same <;> cases same

theorem isNaN_ofLiteral (literal : String) : (ofLiteral literal).isNaN = false := by
  cases read : ofLiteral literal with
  | float x => exact isNaN_of_ofLiteral read
  | null | integer _ | text _ => rfl

theorem isNaN_coerce {value : Value} (number : value.isNaN = false) :
    value.coerce.isNaN = false := by
  cases value with
  | text s => exact isNaN_ofLiteral s
  | null | integer _ | float _ => exact number

end Value

/-! ## Conditions and tables -/

namespace Condition

variable {field : String} {row : Row} {value : Value}

theorem evaluate_of_ne_like (found : row.lookup field = .ok value) {operator : Operator}
    (notLike : operator ≠ .like) (literal : String) :
    evaluate ⟨field, operator, literal⟩ row =
      .ok (operator.holds value.coerce (Value.ofLiteral literal)) := by
  have tested : test ⟨field, operator, literal⟩ value =
      operator.holds value.coerce (Value.ofLiteral literal) := if_neg notLike
  rw [evaluate, found, ← tested]
  rfl

end Condition

open Condition

/-- What two conditions do to a table when they part it: a select by one of them shows what
a select by the other leaves out, and a delete by one of them leaves what a select by the
other shows. -/
structure Table.PartedBy (table : Table) (condition other : Condition) (picks : Row → Bool) :
    Prop where
  selected : Rows.filtered [condition] ⟨table.columns, table.rows⟩ =
    .ok ⟨table.columns, table.rows.filter picks⟩
  unselected : Rows.filtered [other] ⟨table.columns, table.rows⟩ =
    .ok ⟨table.columns, table.rows.filter fun row => !picks row⟩
  deleted : table.deleteRows [condition] =
    .ok ({ table with rows := table.rows.filter fun row => !picks row },
      (table.rows.filter picks).length)
  undeleted : table.deleteRows [other] =
    .ok ({ table with rows := table.rows.filter picks },
      (table.rows.filter fun row => !picks row).length)

/-- Conditions part the rows on which they can be evaluated and are never both true nor both
false. -/
theorem Table.partedBy_of_opposite {table : Table} {condition other : Condition}
    {picks : Row → Bool}
    (opposite : ∀ row ∈ table.rows,
      condition.evaluate row = .ok (picks row) ∧ other.evaluate row = .ok (!picks row)) :
    table.PartedBy condition other picks := by
  have cut : splitRows [condition] table.rows =
      .ok (table.rows.filter picks, table.rows.filter fun row => !picks row) :=
    splitRows_singleton fun row member => (opposite row member).1
  have cutOther : splitRows [other] table.rows =
      .ok (table.rows.filter fun row => !picks row, table.rows.filter picks) := by
    rw [splitRows_singleton fun row member => (opposite row member).2]
    simp only [Bool.not_not]
  constructor
  · rw [Rows.filtered, cut]
    rfl
  · rw [Rows.filtered, cutOther]
    rfl
  · rw [deleteRows_eq, cut]
    rfl
  · rw [deleteRows_eq, cutOther]
    rfl

/-- The comparison operators agree with each other on every cell but a float that is not a
number, and every cell that is a text is equal to that text read as a literal. Rows that
have a field are parted by whether it is equal to a literal. -/
theorem comparisons_coherent :
    (∀ (row : Row) (field literal : String) (value : Value),
      row.lookup field = .ok value → value.isNaN = false →
        ∃ verdict : Operator → Bool,
          (∀ operator : Operator, operator ≠ .like →
            Condition.evaluate ⟨field, operator, literal⟩ row = .ok (verdict operator)) ∧
          Operator.Coherent verdict (value.coerce.comparable (Value.ofLiteral literal))) ∧
    (∀ (row : Row) (field s : String), row.lookup field = .ok (.text s) →
      Condition.evaluate ⟨field, .equal, s⟩ row = .ok true) ∧
    ∀ (table : Table) (field literal : String),
      (∀ row ∈ table.rows, ∃ value, row.lookup field = .ok value) →
        ∃ picks, table.PartedBy ⟨field, .equal, literal⟩ ⟨field, .notEqual, literal⟩ picks := by
  refine ⟨?coherent, ?reflexive, ?parted⟩
  case coherent =>
    intro row field literal value found number
    refine ⟨fun operator => operator.holds value.coerce (Value.ofLiteral literal),
      fun operator notLike => evaluate_of_ne_like found notLike literal, ?_⟩
    exact Value.coherent_holds (Value.ofLiteral_ne_null literal) (Value.isNaN_coerce number)
      (Value.isNaN_ofLiteral literal)
  case reflexive =>
    intro row field s found
    have same : Operator.equal.holds (Value.text s).coerce (Value.ofLiteral s) = true :=
      Value.holds_ofLiteral s
    rw [evaluate_of_ne_like found (by decide), same]
  case parted =>
    intro table field literal resolves
    refine ⟨meets [⟨field, .equal, literal⟩], Table.partedBy_of_opposite fun row member => ?_⟩
    obtain ⟨value, found⟩ := resolves row member
    have equal := evaluate_of_ne_like found (by decide : Operator.equal ≠ .like) literal
    have notEqual := evaluate_of_ne_like found (by decide : Operator.notEqual ≠ .like) literal
    have picks : meets [⟨field, .equal, literal⟩] row =
        Operator.equal.holds value.coerce (Value.ofLiteral literal) := by
      rw [meets, evaluateAll_singleton equal]
    rw [picks, ← Value.holds_notEqual]
    exact ⟨equal, notEqual⟩

/-- A text that is a number, minus zero, and null next to a literal that is no null. In the
table one cell is equal to the literal, though it is written in another way. -/
theorem comparisons_coherent_kinds :
    let row : Row := .ofList [("a", .text " 22 "), ("b", .float (.zero true)), ("c", .null)]
    let table := Table.ofRecords "t" ["a", "b"] [["22.0", "x"], ["abc", "y"], ["NaN", "z"]]
    (∃ verdict : Operator → Bool,
      (∀ operator : Operator, operator ≠ .like →
        Condition.evaluate ⟨"a", operator, "'22.5'"⟩ row = .ok (verdict operator)) ∧
      Operator.Coherent verdict true) ∧
    (∃ verdict : Operator → Bool,
      (∀ operator : Operator, operator ≠ .like →
        Condition.evaluate ⟨"b", operator, "0"⟩ row = .ok (verdict operator)) ∧
      Operator.Coherent verdict true) ∧
    (∃ verdict : Operator → Bool,
      (∀ operator : Operator, operator ≠ .like →
        Condition.evaluate ⟨"c", operator, "NULL"⟩ row = .ok (verdict operator)) ∧
      Operator.Coherent verdict false) ∧
    Condition.evaluate ⟨"a", .equal, " 22 "⟩ row = .ok true ∧
    ∃ picks, table.PartedBy ⟨"a", .equal, "22"⟩ ⟨"a", .notEqual, "22"⟩ picks := by
  intro row table
  have a : row.lookup "a" = .ok (.text " 22 ") := by decide +kernel
  have b : row.lookup "b" = .ok (.float (.zero true)) := by decide +kernel
  have c : row.lookup "c" = .ok .null := by decide +kernel
  have number : (Value.text " 22 ").coerce.comparable (Value.ofLiteral "'22.5'") = true := by
    decide +kernel
  have filled : table.Filled := Table.filled_ofRecords (by decide)
  have resolves : ∀ row ∈ table.rows, ∃ value, row.lookup "a" = .ok value := by
    intro row member
    obtain ⟨value, found⟩ := Option.isSome_iff_exists.mp ((filled row member "a").mpr (by decide))
    exact ⟨value, by rw [Row.lookup, Row.lookup?, found]⟩
  refine ⟨?_, ?_, ?_, comparisons_coherent.2.1 row "a" " 22 " a,
    comparisons_coherent.2.2 table "a" "22" resolves⟩
  · rw [← number]
    exact comparisons_coherent.1 row "a" "'22.5'" _ a rfl
  · exact comparisons_coherent.1 row "b" "0" _ b (by decide)
  · exact comparisons_coherent.1 row "c" "NULL" _ c rfl

end TableQuery
