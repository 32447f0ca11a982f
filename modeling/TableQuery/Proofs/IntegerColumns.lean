import Mathlib.Algebra.BigOperators.Group.List.Basic
import Mathlib.Data.List.TakeWhile
import TableQuery.Proofs.ExactArithmetic
import TableQuery.Proofs.IntegerLiterals
import TableQuery.Proofs.SeparateAggregates

/-!
Aggregates of a column of integers are exact.

The numbers of such a column are its integers as floating point numbers. As long as their
magnitudes add up to less than the exact bound every partial sum is exact
(`Binary64.foldl_add_ofInt`), and the least and the greatest are picked from the cells themselves
(`Binary64.foldl_ofInt`). So each aggregate is said by the integers alone, and neither sum nor
number, least or greatest depends on the order of the rows.
-/

namespace TableQuery

/-! ## Folds over integers -/

namespace Binary64

/-- Integers are added exactly when all partial sums stay in the exact range. -/
theorem foldl_add_ofInt {cells : List Int} {start : Int}
    (small : start.natAbs + (cells.map Int.natAbs).sum ≤ exactBound) :
    (cells.map ofInt).foldl (· + ·) (ofInt start) = ofInt (start + cells.sum) := by
  induction cells generalizing start with
  | nil => rw [List.map_nil, List.foldl_nil, List.sum_nil, Int.add_zero]
  | cons n cells ih =>
    rw [List.map_cons, List.sum_cons] at small
    have sum : ofInt start + ofInt n = ofInt (start + n) :=
      add_ofInt (by omega) (by omega) (by omega)
    rw [List.map_cons, List.foldl_cons, sum, ih (by omega), List.sum_cons, Int.add_assoc]

/-- An operation that picks one of two integers picks one of a list. -/
theorem foldl_ofInt {operation : Binary64 → Binary64 → Binary64} {pick : Int → Int → Int}
    (exact : ∀ {m n : Int}, m.natAbs ≤ exactBound → n.natAbs ≤ exactBound →
      operation (ofInt m) (ofInt n) = ofInt (pick m n))
    (picks : ∀ m n, pick m n = m ∨ pick m n = n) {first : Int} {cells : List Int}
    (bounded : ∀ n ∈ first :: cells, n.natAbs ≤ exactBound) :
    (cells.map ofInt).foldl operation (ofInt first) = ofInt (cells.foldl pick first) := by
  induction cells generalizing first with
  | nil => rfl
  | cons n cells ih =>
    obtain ⟨left, later⟩ := List.forall_mem_cons.mp bounded
    obtain ⟨right, later⟩ := List.forall_mem_cons.mp later
    have picked : (pick first n).natAbs ≤ exactBound := by
      rcases picks first n with same | same
      · rwa [same]
      · rwa [same]
    rw [List.map_cons, List.foldl_cons, exact left right,
      ih (List.forall_mem_cons.mpr ⟨picked, later⟩), List.foldl_cons]

end Binary64

theorem natAbs_le_sum {n : Int} {cells : List Int} (member : n ∈ cells) :
    n.natAbs ≤ (cells.map Int.natAbs).sum := by
  induction cells with
  | nil => cases member
  | cons m cells ih =>
    rw [List.map_cons, List.sum_cons]
    rcases List.mem_cons.mp member with rfl | later
    · omega
    · have := ih later
      omega

theorem natAbs_sum_le (cells : List Int) :
    cells.sum.natAbs ≤ (cells.map Int.natAbs).sum := by
  induction cells with
  | nil => exact Nat.le_refl 0
  | cons n cells ih =>
    rw [List.sum_cons, List.map_cons, List.sum_cons]
    omega

/-! ## Columns of integers -/

/-- The integer that a cell is, or that its text reads as. -/
def Value.whole? (value : Value) : Option Int :=
  match value.coerce with
  | .integer n => some n
  | _ => none

/-- A cell of a column of integers: null, a blank text, or an integer, itself or as a text. -/
inductive Value.IsWholeOrBlank : Value → Prop
  | null : IsWholeOrBlank .null
  | blank {s : String} : Text.allBlank s.toList = true → IsWholeOrBlank (.text s)
  | whole {value : Value} {n : Int} : value.whole? = some n → IsWholeOrBlank value

/-- The integers that a column has in some rows, in their order. -/
def wholeCells (field : String) (rows : List Row) : List Int :=
  rows.filterMap fun row => (row.operandCell? field).bind Value.whole?

/-- A blank text is no number. -/
theorem Value.whole?_of_allBlank {s : String} (blank : Text.allBlank s.toList = true) :
    (text s).whole? = none := by
  have stripped : stripQuotes s.toList = s.toList :=
    stripQuotes_of_encloses .bare fun c member =>
      Token.isQuote_of_isBlank (List.all_eq_true.mp blank c member)
  have trimmed : Text.trim s.toList = [] := by
    have dropped : s.toList.dropWhile Text.isBlank = [] :=
      List.dropWhile_eq_nil_iff.mpr fun c member => List.all_eq_true.mp blank c member
    rw [Text.trim, dropped]
    rfl
  have none : numeral? s.toList = none := by
    rw [numeral?, trimmed]
    rfl
  rw [whole?, coerce, ofLiteral, stripped, none]
  rfl

namespace Value.IsWholeOrBlank

variable {value : Value}

/-- A cell of a column of integers adds its integer, if it has one, and nothing else. -/
theorem contribution (cell : IsWholeOrBlank value) :
    value.contribution = match value.whole? with
      | some n => .number (Binary64.ofInt n)
      | none => .nothing := by
  cases cell with
  | null => rfl
  | blank blank =>
    rw [whole?_of_allBlank blank]
    exact if_pos blank
  | @whole _ n whole =>
    rw [whole]
    cases value with
    | null => cases whole
    | integer m =>
      cases whole
      rfl
    | float x => cases whole
    | text s =>
      have visible : ¬ Text.allBlank s.toList = true := by
        intro blank
        rw [whole?_of_allBlank blank] at whole
        cases whole
      have read : ofLiteral s = .integer n := by
        unfold whole? coerce at whole
        dsimp only at whole
        split at whole
        · rename_i found
          cases whole
          exact found
        · cases whole
      simp [Value.contribution, visible, read, number?]

theorem isSummable (cell : IsWholeOrBlank value) : value.isSummable = true := by
  rw [Value.isSummable, cell.contribution]
  cases value.whole? <;> rfl

theorem summand? (cell : IsWholeOrBlank value) :
    value.summand? = value.whole?.map Binary64.ofInt := by
  rw [Value.summand?, cell.contribution]
  cases value.whole? <;> rfl

end Value.IsWholeOrBlank

/-- The numbers of a column of integers are its integers. -/
theorem summands_eq {field : String} {rows : List Row}
    (cells : ∀ row ∈ rows, ∃ value,
      row.operandCell? field = some value ∧ value.IsWholeOrBlank) :
    rows.filterMap (Row.summand? field) = (wholeCells field rows).map Binary64.ofInt := by
  rw [wholeCells, List.map_filterMap]
  refine List.filterMap_congr fun row member => ?_
  obtain ⟨value, cell, whole⟩ := cells row member
  rw [Row.summand?, cell, Option.bind_some, Option.bind_some, whole.summand?]

/-! ## Aggregates of integers -/

/-- The value of an aggregate function over rows, of which there are `count`, with the given
integers under its operand. -/
def AggregateFunction.ofIntegers (count : Nat) (cells : List Int) : AggregateFunction → Value
  | .count => .integer count
  | .sum => .integer cells.sum
  | .min => (cells.min?.map .integer).getD .null
  | .max => (cells.max?.map .integer).getD .null
  | .avg => if cells = [] then .null
    else .ofBinary64 (Binary64.ofInt cells.sum / Binary64.ofInt cells.length)

/-- Integers whose magnitudes add up to less than the exact bound are aggregated exactly. -/
theorem AggregateFunction.ofNumbers_ofInt (function : AggregateFunction) (count : Nat)
    {cells : List Int} (small : (cells.map Int.natAbs).sum < Binary64.exactBound) :
    function.ofNumbers count (cells.map Binary64.ofInt) = function.ofIntegers count cells := by
  cases cells with
  | nil => cases function <;> rfl
  | cons first cells =>
    have bounded : ∀ n ∈ first :: cells, n.natAbs < Binary64.exactBound := fun n member =>
      Nat.lt_of_le_of_lt (natAbs_le_sum member) small
    have most : ∀ n ∈ first :: cells, n.natAbs ≤ Binary64.exactBound := fun n member =>
      Nat.le_of_lt (bounded n member)
    have sum : ((first :: cells).map Binary64.ofInt).foldl (· + ·) (Binary64.zero false) =
        Binary64.ofInt (first :: cells).sum := by
      rw [Binary64.zero_eq_ofInt, Binary64.foldl_add_ofInt, Int.zero_add]
      rw [Int.natAbs_zero, Nat.zero_add]
      exact Nat.le_of_lt small
    have total : (first :: cells).sum.natAbs < Binary64.exactBound :=
      Nat.lt_of_le_of_lt (natAbs_sum_le _) small
    cases function with
    | count => rfl
    | sum =>
      rw [List.map_cons, ofNumbers, ← List.map_cons, sum, Binary64.ofBinary64_ofInt total, ofIntegers]
    | avg =>
      rw [List.map_cons, ofNumbers, ← List.map_cons, sum, List.length_map, ofIntegers,
        if_neg (List.cons_ne_nil first cells)]
    | min =>
      have least := Binary64.foldl_ofInt Binary64.least_ofInt min_choice most
      have member : (first :: cells).min? = some (cells.foldl Min.min first) := List.min?_cons'
      rw [List.map_cons, ofNumbers, least,
        Binary64.ofBinary64_ofInt (bounded _ (List.min?_mem member)), ofIntegers, member]
      rfl
    | max =>
      have greatest := Binary64.foldl_ofInt Binary64.greatest_ofInt max_choice most
      have member : (first :: cells).max? = some (cells.foldl Max.max first) := List.max?_cons'
      rw [List.map_cons, ofNumbers, greatest,
        Binary64.ofBinary64_ofInt (bounded _ (List.max?_mem member)), ofIntegers, member]
      rfl

/-- The average is an integer when the sum is a multiple of the number of cells. -/
theorem AggregateFunction.ofIntegers_avg {count : Nat} {cells : List Int} {q : Int}
    (small : (cells.map Int.natAbs).sum < Binary64.exactBound) (some : cells ≠ [])
    (multiple : cells.sum = q * cells.length) : avg.ofIntegers count cells = .integer q := by
  have positive : 0 < cells.length := List.length_pos_of_ne_nil some
  have total : (q * cells.length).natAbs < Binary64.exactBound := by
    rw [← multiple]
    exact Nat.lt_of_le_of_lt (natAbs_sum_le _) small
  have quotient : q.natAbs < Binary64.exactBound := by
    rw [Int.natAbs_mul, Int.natAbs_natCast] at total
    exact Nat.lt_of_le_of_lt (Nat.le_mul_of_pos_right _ positive) total
  rw [ofIntegers, if_neg some, multiple, Binary64.div_ofInt positive (Nat.le_of_lt total),
    Binary64.ofBinary64_ofInt quotient]

/-- The order of the integers does not count. -/
theorem AggregateFunction.ofIntegers_perm (function : AggregateFunction) (count : Nat)
    {cells others : List Int} (perm : others.Perm cells) :
    function.ofIntegers count others = function.ofIntegers count cells := by
  cases function with
  | count => rfl
  | sum => rw [ofIntegers, ofIntegers, perm.sum_eq]
  | avg =>
    have none : others = [] ↔ cells = [] := by
      rw [← List.length_eq_zero_iff, perm.length_eq, List.length_eq_zero_iff]
    simp only [ofIntegers, perm.sum_eq, perm.length_eq, none]
  | min =>
    have same : others.min? = cells.min? := by
      apply Option.ext
      intro n
      simp only [List.min?_eq_some_iff, perm.mem_iff]
    rw [ofIntegers, ofIntegers, same]
  | max =>
    have same : others.max? = cells.max? := by
      apply Option.ext
      intro n
      simp only [List.max?_eq_some_iff, perm.mem_iff]
    rw [ofIntegers, ofIntegers, same]

/-- What an aggregate function is when it is exact, over rows of which there are `count` and the
integers that a column has in them. -/
def AggregateFunction.Exact (count : Nat) (cells : List Int) (value : Value) :
    AggregateFunction → Prop
  | .count => value = .integer count
  | .sum => value = .integer cells.sum
  | .min => (cells = [] → value = .null) ∧ ∀ n, cells.min? = some n → value = .integer n
  | .max => (cells = [] → value = .null) ∧ ∀ n, cells.max? = some n → value = .integer n
  | .avg => (cells = [] → value = .null) ∧
    ∀ q : Int, cells ≠ [] → cells.sum = q * cells.length → value = .integer q

theorem AggregateFunction.exact_ofIntegers (function : AggregateFunction) (count : Nat)
    {cells : List Int} (small : (cells.map Int.natAbs).sum < Binary64.exactBound) :
    function.Exact count cells (function.ofIntegers count cells) := by
  cases function with
  | count => exact rfl
  | sum => exact rfl
  | avg => exact ⟨fun none => if_pos none, fun q some multiple =>
      ofIntegers_avg small some multiple⟩
  | min =>
    refine ⟨fun none => ?_, fun n least => ?_⟩
    · rw [none]
      rfl
    · rw [ofIntegers, least]
      rfl
  | max =>
    refine ⟨fun none => ?_, fun n greatest => ?_⟩
    · rw [none]
      rfl
    · rw [ofIntegers, greatest]
      rfl

/-- Aggregates of a column of integers are exact. When the column has in every row null, a blank
or an integer, and the magnitudes of the integers add up to less than `2 ^ 53`, each function has
one value that is exact, and it is made of the column in any select list and in any order of the
rows. -/
theorem aggregateRow_integers {field : String} {rows : List Row}
    (cells : ∀ row ∈ rows, ∃ value,
      row.operandCell? field = some value ∧ value.IsWholeOrBlank)
    (small : ((wholeCells field rows).map Int.natAbs).sum < 2 ^ 53) :
    (∀ others : List Row, others.Perm rows → ∀ items : List Expression,
      (∀ name operand, .call name operand ∈ items →
        operand = field ∧ (AggregateFunction.ofName? name).isSome = true) →
      ∃ found, aggregateRow others items = .ok found) ∧
    ∀ function : AggregateFunction, ∃ value,
      function.Exact rows.length (wholeCells field rows) value ∧
      ∀ others : List Row, others.Perm rows → ∀ items found,
        aggregateRow others items = .ok found → ∀ name, .call name field ∈ items →
        AggregateFunction.ofName? name = some function →
        found.get? (Expression.label (.call name field)) = some value := by
  have bound : ((wholeCells field rows).map Int.natAbs).sum < Binary64.exactBound := small
  constructor
  · intro others perm items ofField
    apply exists_aggregateRow_iff.mpr
    intro name operand selected
    obtain ⟨rfl, known⟩ := ofField name operand selected
    obtain ⟨function, named⟩ := Option.isSome_iff_exists.mp known
    refine ⟨function, named, fun row member => ?_⟩
    obtain ⟨value, cell, whole⟩ := cells row (perm.mem_iff.mp member)
    exact .summed cell whole.isSummable
  · intro function
    refine ⟨_, function.exact_ofIntegers rows.length bound, ?_⟩
    intro others perm items found made name selected named
    obtain ⟨other, otherNamed, here⟩ := get?_aggregateRow made selected
    cases named.symm.trans otherNamed
    have same : (wholeCells field others).Perm (wholeCells field rows) := perm.filterMap _
    have otherBound : ((wholeCells field others).map Int.natAbs).sum < Binary64.exactBound := by
      rwa [(same.map Int.natAbs).sum_eq]
    have numbers : others.filterMap (Row.summand? field) =
        (wholeCells field others).map Binary64.ofInt :=
      summands_eq fun row member => cells row (perm.mem_iff.mp member)
    rw [here, numbers, function.ofNumbers_ofInt others.length otherBound, perm.length_eq,
      function.ofIntegers_perm rows.length same]

/-- Integers of both signs as numbers and as texts, one in quotes, between a null and a blank, read
by a qualified name: the sum is a multiple of the number of integers. -/
theorem aggregateRow_integers_mixed :
    let column : List Value :=
      [.text " -5 ", .null, .integer 10, .text "", .text "'+4'", .text "003"]
    let rows : List Row := column.map fun cell => .ofList [("a", cell)]
    let items := ["count", "SUM", "Min", "MAX", "AVG"].map fun name => Expression.call name "t.a"
    wholeCells "t.a" rows = [-5, 10, 4, 3] ∧
      ∃ found, aggregateRow rows.reverse items = .ok found ∧
        found.get? "count(t.a)" = some (.integer 6) ∧ found.get? "SUM(t.a)" = some (.integer 12) ∧
        found.get? "Min(t.a)" = some (.integer (-5)) ∧
        found.get? "MAX(t.a)" = some (.integer 10) ∧ found.get? "AVG(t.a)" = some (.integer 3) := by
  intro column rows items
  have integers : wholeCells "t.a" rows = [-5, 10, 4, 3] := by decide +kernel
  have found : ∀ cell ∈ column,
      Row.operandCell? "t.a" (.ofList [("a", cell)]) = some cell := by
    decide +kernel
  have whole : ∀ cell ∈ column, cell.IsWholeOrBlank := by
    intro cell given
    simp only [column, List.mem_cons, List.not_mem_nil, or_false] at given
    rcases given with rfl | rfl | rfl | rfl | rfl | rfl
    · exact .whole (by decide +kernel : Value.whole? _ = some (-5))
    · exact .null
    · exact .whole (by decide : Value.whole? _ = some 10)
    · exact .blank (by decide)
    · exact .whole (by decide +kernel : Value.whole? _ = some 4)
    · exact .whole (by decide +kernel : Value.whole? _ = some 3)
  have cells : ∀ row ∈ rows, ∃ value,
      row.operandCell? "t.a" = some value ∧ value.IsWholeOrBlank := by
    intro row member
    obtain ⟨cell, given, rfl⟩ := List.mem_map.mp member
    exact ⟨cell, found cell given, whole cell given⟩
  have small : ((wholeCells "t.a" rows).map Int.natAbs).sum < 2 ^ 53 := by
    rw [integers]
    decide
  have ofField : ∀ name operand, .call name operand ∈ items →
      operand = "t.a" ∧ (AggregateFunction.ofName? name).isSome = true := by
    intro name operand selected
    obtain ⟨other, given, same⟩ := List.mem_map.mp selected
    cases same
    refine ⟨rfl, ?_⟩
    simp only [List.mem_cons, List.not_mem_nil, or_false] at given
    rcases given with rfl | rfl | rfl | rfl | rfl <;> decide
  obtain ⟨makes, valued⟩ := aggregateRow_integers cells small
  obtain ⟨found, made⟩ := makes rows.reverse rows.reverse_perm items ofField
  refine ⟨integers, found, made, ?_⟩
  rw [integers] at valued
  have shown (function : AggregateFunction) (name : String) (selected : .call name "t.a" ∈ items)
      (named : AggregateFunction.ofName? name = some function) :
      ∃ value, found.get? (Expression.label (.call name "t.a")) = some value ∧
        function.Exact 6 [-5, 10, 4, 3] value := by
    obtain ⟨value, isExact, shows⟩ := valued function
    exact ⟨value, shows rows.reverse rows.reverse_perm items found made name selected named,
      isExact⟩
  obtain ⟨_, count, rfl⟩ := shown .count "count" (by decide) (by decide)
  obtain ⟨_, sum, rfl⟩ := shown .sum "SUM" (by decide) (by decide)
  obtain ⟨_, least, _, isLeast⟩ := shown .min "Min" (by decide) (by decide)
  obtain ⟨_, greatest, _, isGreatest⟩ := shown .max "MAX" (by decide) (by decide)
  obtain ⟨_, mean, _, isMean⟩ := shown .avg "AVG" (by decide) (by decide)
  rw [isLeast (-5) rfl] at least
  rw [isGreatest 10 rfl] at greatest
  rw [isMean 3 (by decide) (by decide)] at mean
  exact ⟨count, sum, least, greatest, mean⟩

end TableQuery
