import Mathlib.Data.List.Induction
import TableQuery.Proofs.ResultRows

/-!
Every aggregate of a select list is what it is alone.

Aggregates of one operand share a tally, and a row adds its cell to it once, for the first of
them that needs a number. What one aggregate does with a row is said by `addCells_cons` and
`addCells_cons_fails`; from there the row has only to be read. After some rows the tally of an
operand is that of the numbers that the rows have under it (`Accumulator.Holds`), whichever
aggregates ask for it, so an aggregate is a function of the rows and of these numbers.
-/

namespace TableQuery

/-! ## The cells of operands -/

/-- Whether a cell can be part of a sum: it is passed over, or it is a number. -/
def Value.isSummable (value : Value) : Bool :=
  match value.contribution with
  | .notNumeric => false
  | _ => true

/-- The number that a cell adds to a tally, if it adds one. -/
def Value.summand? (value : Value) : Option Binary64 :=
  match value.contribution with
  | .number x => some x
  | _ => none

/-- The cell that an aggregate of an operand reads. `*` stands for whole rows and names no
cell. -/
def Row.operandCell? (operand : String) (row : Row) : Option Value :=
  if operand = "*" then none else row.lookup? operand

/-- The number that a row adds to the tally of an operand, if it adds one. -/
def Row.summand? (operand : String) (row : Row) : Option Binary64 :=
  (row.operandCell? operand).bind Value.summand?

theorem Row.lookup?_of_operandCell? {row : Row} {operand : String} {value : Value}
    (cell : row.operandCell? operand = some value) :
    operand ≠ "*" ∧ row.lookup operand = .ok value := by
  unfold operandCell? at cell
  split at cell
  · cases cell
  · rename_i named
    exact ⟨named, lookup_eq_ok.mpr cell⟩

/-- A row has what an aggregate asks for. A count of rows asks for nothing, any other aggregate
for a cell, and unless it only counts, for one that can be part of a sum. -/
inductive AggregateFunction.Reads (row : Row) : AggregateFunction → String → Prop
  | rows : Reads row .count "*"
  | counted {operand : String} {value : Value} :
    row.operandCell? operand = some value → Reads row .count operand
  | summed {function : AggregateFunction} {operand : String} {value : Value} :
    row.operandCell? operand = some value → value.isSummable = true →
    Reads row function operand

theorem AggregateFunction.Reads.summable {row : Row} {function : AggregateFunction}
    {operand : String} (reads : function.Reads row operand) (numeric : function ≠ .count) :
    ∃ value, row.operandCell? operand = some value ∧ value.isSummable = true := by
  cases reads with
  | rows => exact absurd rfl numeric
  | counted cell => exact absurd rfl numeric
  | summed cell summable => exact ⟨_, cell, summable⟩

/-- The operands whose numbers some aggregates need. -/
def talliedOperands (aggregates : List Aggregate) : List String :=
  (aggregates.filter Aggregate.isNumeric).map (·.operand)

theorem mem_talliedOperands {aggregates : List Aggregate} {aggregate : Aggregate}
    (member : aggregate ∈ aggregates) (numeric : aggregate.isNumeric = true) :
    aggregate.operand ∈ talliedOperands aggregates :=
  List.mem_map_of_mem (List.mem_filter.mpr ⟨member, numeric⟩)

theorem talliedOperands_cons (aggregate : Aggregate) (aggregates : List Aggregate) :
    talliedOperands (aggregate :: aggregates) =
      if aggregate.isNumeric = true then aggregate.operand :: talliedOperands aggregates
      else talliedOperands aggregates := by
  rw [talliedOperands, List.filter_cons]
  split <;> rfl

/-! ## Tallies of numbers -/

/-- A tally with what one more row adds, if it adds anything. -/
def Tally.more? : Option Tally → Option Binary64 → Option Tally
  | tally, none => tally
  | none, some x => some (single x)
  | some tally, some x => some (tally.add x)

/-- The tally of some numbers, if there are any. -/
def Tally.ofNumbers? (numbers : List Binary64) : Option Tally :=
  numbers.foldl (fun tally x => more? tally (some x)) none

theorem Tally.ofNumbers?_append (numbers : List Binary64) (more : Option Binary64) :
    ofNumbers? (numbers ++ more.toList) = more? (ofNumbers? numbers) more := by
  rw [ofNumbers?, List.foldl_append, ← ofNumbers?]
  cases more with
  | none => cases ofNumbers? numbers <;> rfl
  | some x => rfl

/-- Each part of the tally of some numbers is one fold over them. -/
theorem Tally.ofNumbers?_cons (x : Binary64) (numbers : List Binary64) :
    ofNumbers? (x :: numbers) =
      some ⟨(x :: numbers).foldl (· + ·) (Binary64.zero false), (x :: numbers).length,
        numbers.foldl Binary64.least x, numbers.foldl Binary64.greatest x⟩ := by
  have folded (tally : Tally) : numbers.foldl (fun tally x => more? tally (some x)) (some tally) =
      some ⟨numbers.foldl (· + ·) tally.sum, tally.count + numbers.length,
        numbers.foldl Binary64.least tally.least,
        numbers.foldl Binary64.greatest tally.greatest⟩ := by
    induction numbers generalizing tally with
    | nil => rfl
    | cons y numbers ih =>
      rw [List.foldl_cons, more?, ih, List.length_cons, Nat.add_comm numbers.length, ← Nat.add_assoc]
      rfl
  rw [ofNumbers?, List.foldl_cons, more?, folded, List.length_cons, Nat.add_comm numbers.length]
  rfl

/-- The value of an aggregate function over rows, of which there are `count`, that have the given
numbers under its operand. -/
def AggregateFunction.ofNumbers (function : AggregateFunction) (count : Nat)
    (numbers : List Binary64) : Value :=
  match function, numbers with
  | .count, _ => .integer count
  | .sum, [] => .integer 0
  | _, [] => .null
  | .sum, x :: numbers => .ofBinary64 ((x :: numbers).foldl (· + ·) (Binary64.zero false))
  | .avg, x :: numbers => .ofBinary64
    ((x :: numbers).foldl (· + ·) (Binary64.zero false) / Binary64.ofInt (x :: numbers).length)
  | .min, x :: numbers => .ofBinary64 (numbers.foldl Binary64.least x)
  | .max, x :: numbers => .ofBinary64 (numbers.foldl Binary64.greatest x)

/-- Adds to the tally of an operand what a row has for it. -/
def Tallies.addSummand (tallies : Tallies) (operand : String) : Option Binary64 → Tallies
  | none => tallies
  | some x => tallies.add operand x

theorem Tallies.get?_addSummand (tallies : Tallies) (operand other : String)
    (summand : Option Binary64) :
    (tallies.addSummand operand summand).get? other =
      if operand = other then Tally.more? (tallies.get? other) summand
      else tallies.get? other := by
  cases summand with
  | none => cases found : tallies.get? other <;> simp [addSummand, Tally.more?, found]
  | some x =>
    rw [addSummand, add, NameMap.get?_insert]
    refine if_ctx_congr Iff.rfl (fun same => ?_) fun _ => rfl
    subst same
    cases tallies.get? operand <;> rfl

/-! ## One row -/

namespace Accumulator

section Cells

variable {row : Row} {aggregate : Aggregate} (seen : List String) (tallies : Tallies)
  (rest : List Aggregate)

/-- What an aggregate does with a row that has what it asks for: the first one that needs
numbers of an operand adds the cell, all others leave the tallies as they are. -/
theorem addCells_cons (reads : aggregate.function.Reads row aggregate.operand) :
    addCells row seen tallies (aggregate :: rest) =
      if aggregate.isNumeric = true ∧ aggregate.operand ∉ seen then
        addCells row (aggregate.operand :: seen)
          (tallies.addSummand aggregate.operand (row.summand? aggregate.operand)) rest
      else addCells row seen tallies rest := by
  obtain ⟨label, function, operand⟩ := aggregate
  cases reads with
  | rows => simp [addCells, Aggregate.isNumeric]
  | counted cell =>
    obtain ⟨named, read⟩ := Row.lookup?_of_operandCell? cell
    simp [addCells, Aggregate.isNumeric, named, read]
  | @summed _ _ value cell summable =>
    obtain ⟨named, read⟩ := Row.lookup?_of_operandCell? cell
    simp only at named read cell
    rw [addCells]
    simp only [if_neg named, read]
    by_cases asks : Aggregate.isNumeric ⟨label, function, operand⟩ = true ∧ operand ∉ seen
    · obtain ⟨numeric, unseen⟩ := asks
      have adds : row.summand? operand = value.summand? := by
        rw [Row.summand?, cell, Option.bind_some]
      simp only [numeric, unseen, not_false_eq_true, and_self, if_true, adds, Value.summand?]
      unfold Value.isSummable at summable
      cases given : value.contribution with
      | nothing => simp [unseen, Tallies.addSummand]
      | number x => simp [unseen, Tallies.addSummand]
      | notNumeric => simp [given] at summable
    · have skips : (!Aggregate.isNumeric ⟨label, function, operand⟩ ||
          seen.contains operand) = true := by
        rw [Bool.or_eq_true, Bool.not_eq_true', List.contains_iff_mem, ← Bool.not_eq_true]
        by_cases numeric : Aggregate.isNumeric ⟨label, function, operand⟩ = true
        · exact Or.inr (not_not.mp fun unseen => asks ⟨numeric, unseen⟩)
        · exact Or.inl numeric
      rw [if_pos skips, if_neg asks]

/-- An aggregate fails on a row that lacks what it asks for, unless the cell was added for
another one, which can only be when it can be part of a sum. -/
theorem addCells_cons_fails (lacks : ¬ aggregate.function.Reads row aggregate.operand)
    (added : ∀ operand ∈ seen, ∃ value,
      row.operandCell? operand = some value ∧ value.isSummable = true) :
    ∃ fault, (addCells row seen tallies (aggregate :: rest)).2 = .error fault := by
  obtain ⟨label, function, operand⟩ := aggregate
  have unseen : operand ∉ seen := by
    intro known
    obtain ⟨value, cell, summable⟩ := added operand known
    exact lacks (.summed cell summable)
  rw [addCells]
  by_cases star : operand = "*"
  · subst star
    have numeric : Aggregate.isNumeric ⟨label, function, "*"⟩ = true := by
      refine decide_eq_true fun count => lacks ?_
      cases count
      exact .rows
    simp [numeric]
  · simp only [if_neg star]
    cases read : row.lookup operand with
    | error fault => exact ⟨fault, rfl⟩
    | ok value =>
      have cell : row.operandCell? operand = some value := by
        rw [Row.operandCell?, if_neg star]
        exact Row.lookup_eq_ok.mp read
      have numeric : Aggregate.isNumeric ⟨label, function, operand⟩ = true := by
        refine decide_eq_true fun count => lacks ?_
        cases count
        exact .counted cell
      have notSummable : ¬ value.isSummable = true := fun summable => lacks (.summed cell summable)
      have given : value.contribution = .notNumeric := by
        unfold Value.isSummable at notSummable
        split at notSummable
        · assumption
        · exact absurd rfl notSummable
      simp [numeric, unseen, given]

end Cells

variable {aggregates : List Aggregate} {row : Row}

/-- A row is added when it has what all aggregates ask for. -/
theorem addCells_eq_ok_iff {seen : List String}
    (added : ∀ operand ∈ seen, ∃ value,
      row.operandCell? operand = some value ∧ value.isSummable = true) (tallies : Tallies) :
    (addCells row seen tallies aggregates).2 = .ok () ↔
      ∀ aggregate ∈ aggregates, aggregate.function.Reads row aggregate.operand := by
  induction aggregates generalizing seen tallies with
  | nil => simp [addCells]
  | cons aggregate rest ih =>
    by_cases reads : aggregate.function.Reads row aggregate.operand
    · rw [addCells_cons seen tallies rest reads, List.forall_mem_cons,
        and_iff_right reads]
      split
      · rename_i asks
        refine ih (fun operand member => ?_) _
        rcases List.mem_cons.mp member with rfl | known
        · exact reads.summable (of_decide_eq_true asks.1)
        · exact added operand known
      · exact ih added tallies
    · obtain ⟨fault, fails⟩ := addCells_cons_fails seen tallies rest reads added
      rw [fails]
      constructor
      · intro done
        cases done
      · intro all
        exact absurd (all aggregate List.mem_cons_self) reads

/-- A row that has what all aggregates ask for adds its number to the tally of every operand
that needs one, once. -/
theorem get?_addCells
    (reads : ∀ aggregate ∈ aggregates, aggregate.function.Reads row aggregate.operand)
    (seen : List String) (tallies : Tallies) (operand : String) :
    (addCells row seen tallies aggregates).1.get? operand =
      if operand ∈ talliedOperands aggregates ∧ operand ∉ seen then
        Tally.more? (tallies.get? operand) (row.summand? operand)
      else tallies.get? operand := by
  induction aggregates generalizing seen tallies with
  | nil => simp [addCells, talliedOperands]
  | cons aggregate rest ih =>
    obtain ⟨first, later⟩ := List.forall_mem_cons.mp reads
    rw [addCells_cons seen tallies rest first, talliedOperands_cons]
    by_cases asks : aggregate.isNumeric = true ∧ aggregate.operand ∉ seen
    · rw [if_pos asks, if_pos asks.1, ih later, Tallies.get?_addSummand]
      by_cases same : aggregate.operand = operand
      · subst same
        rw [if_pos rfl, if_neg (fun both => both.2 List.mem_cons_self),
          if_pos ⟨List.mem_cons_self, asks.2⟩]
      · have apart : operand ≠ aggregate.operand := Ne.symm same
        simp [same, apart]
    · rw [if_neg asks, ih later]
      refine if_congr ?_ rfl rfl
      split
      · rename_i numeric
        refine and_congr_left fun unseen => ?_
        have apart : operand ≠ aggregate.operand := by
          rintro rfl
          exact asks ⟨numeric, unseen⟩
        simp [apart]
      · exact Iff.rfl

theorem addRow?_eq_ok {state next : Accumulator} :
    state.addRow? aggregates row = .ok next ↔
      (∀ aggregate ∈ aggregates, aggregate.function.Reads row aggregate.operand) ∧
        next = ⟨state.count + 1, (addCells row [] state.tallies aggregates).1⟩ := by
  have reads : (addCells row [] state.tallies aggregates).2 = .ok () ↔ _ :=
    addCells_eq_ok_iff (fun _ member => absurd member List.not_mem_nil) state.tallies
  rw [← reads, addRow?, addRow]
  cases outcome : (addCells row [] state.tallies aggregates).2 with
  | error fault => simp [outcome, Except.map]
  | ok done => simp [outcome, Except.map, eq_comm]

/-! ## All rows -/

/-- What an accumulator holds after some rows. -/
structure Holds (aggregates : List Aggregate) (rows : List Row) (state : Accumulator) :
    Prop where
  count : state.count = rows.length
  tallies : ∀ operand, state.tallies.get? operand =
    if operand ∈ talliedOperands aggregates then
      Tally.ofNumbers? (rows.filterMap (Row.summand? operand))
    else none

variable {rows : List Row} {state next : Accumulator}

/-- The step: one more row. -/
theorem Holds.addRow (holds : Holds aggregates rows state)
    (added : state.addRow? aggregates row = .ok next) :
    Holds aggregates (rows ++ [row]) next := by
  obtain ⟨reads, rfl⟩ := addRow?_eq_ok.mp added
  refine ⟨by simp [holds.count], fun operand => ?_⟩
  have more : (rows ++ [row]).filterMap (Row.summand? operand) =
      rows.filterMap (Row.summand? operand) ++ (row.summand? operand).toList := by
    rw [List.filterMap_append]
    cases found : row.summand? operand <;> simp [found]
  rw [get?_addCells reads, holds.tallies, more, Tally.ofNumbers?_append]
  split <;> simp_all

/-- Rows are added when each of them has what all aggregates ask for. -/
theorem exists_addRows?_iff :
    (∃ state, start.addRows? aggregates rows = .ok state) ↔
      ∀ row ∈ rows, ∀ aggregate ∈ aggregates,
        aggregate.function.Reads row aggregate.operand := by
  generalize start = first
  induction rows generalizing first with
  | nil => simp [addRows?, pure, Except.pure]
  | cons row rows ih =>
    rw [addRows?, List.foldlM_cons, List.forall_mem_cons]
    constructor
    · rintro ⟨state, added⟩
      obtain ⟨middle, one, rest⟩ := bind_eq_ok added
      exact ⟨(addRow?_eq_ok.mp one).1, (ih middle).mp ⟨state, rest⟩⟩
    · rintro ⟨reads, later⟩
      obtain ⟨state, rest⟩ := (ih _).mpr later
      exact ⟨state, by rw [addRow?_eq_ok.mpr ⟨reads, rfl⟩]; exact rest⟩

/-- The run: any rows, from the start. -/
theorem holds_of_addRows? (added : start.addRows? aggregates rows = .ok state) :
    Holds aggregates rows state := by
  induction rows using List.reverseRecOn generalizing state with
  | nil =>
    cases added
    exact ⟨rfl, fun operand => (ite_self none).symm⟩
  | append_singleton rows row ih =>
    rw [addRows?, List.foldlM_append] at added
    obtain ⟨middle, first, last⟩ := bind_eq_ok added
    obtain ⟨next, one, same⟩ := bind_eq_ok last
    cases same
    exact (ih first).addRow one

/-- An aggregate is a function of the number of rows and of the numbers in its operand. -/
theorem Holds.value (holds : Holds aggregates rows state) {aggregate : Aggregate}
    (member : aggregate ∈ aggregates) :
    aggregate.value state = aggregate.function.ofNumbers rows.length
      (rows.filterMap (Row.summand? aggregate.operand)) := by
  by_cases numeric : aggregate.isNumeric = true
  · have tally := holds.tallies aggregate.operand
    rw [if_pos (mem_talliedOperands member numeric)] at tally
    obtain ⟨label, function, operand⟩ := aggregate
    simp only at tally ⊢
    cases numbers : rows.filterMap (Row.summand? operand) with
    | nil =>
      rw [numbers] at tally
      cases function with
      | count => exact absurd rfl (of_decide_eq_true numeric)
      | sum | avg | min | max => simp [Aggregate.value, tally]; rfl
    | cons x later =>
      rw [numbers, Tally.ofNumbers?_cons] at tally
      cases function with
      | count => exact absurd rfl (of_decide_eq_true numeric)
      | sum | avg | min | max => simp only [Aggregate.value, tally]; rfl
  · have counts : aggregate.function = .count := by simpa [Aggregate.isNumeric] using numeric
    simp [Aggregate.value, AggregateFunction.ofNumbers, counts, holds.count]

end Accumulator

/-! ## Select lists -/

/-- A select list has aggregates when all the functions that it calls are known. -/
theorem Aggregate.exists_ofItems {items : List Expression}
    (known : ∀ name operand, .call name operand ∈ items →
      (AggregateFunction.ofName? name).isSome = true) :
    ∃ aggregates, ofItems items = .ok aggregates := by
  have each : ∀ item ∈ items, ∃ found, ofExpression? item = .ok found := by
    intro item member
    cases item with
    | all => exact ⟨none, rfl⟩
    | column name => exact ⟨none, rfl⟩
    | call name operand =>
      obtain ⟨function, named⟩ := Option.isSome_iff_exists.mp (known name operand member)
      exact ⟨_, by rw [ofExpression?, named]⟩
  obtain ⟨found, all⟩ := exists_mapM_eq_ok each
  exact ⟨found.filterMap id, by rw [ofItems, all]; rfl⟩

section Items

variable {rows : List Row} {items : List Expression}

/-- Aggregates are made when all functions are known and every row has what each of them asks
for. -/
theorem exists_aggregateRow_iff :
    (∃ whole, aggregateRow rows items = .ok whole) ↔
      ∀ name operand, .call name operand ∈ items → ∃ function,
        AggregateFunction.ofName? name = some function ∧
          ∀ row ∈ rows, function.Reads row operand := by
  constructor
  · rintro ⟨whole, made⟩ name operand selected
    obtain ⟨aggregates, known, made⟩ := bind_eq_ok made
    obtain ⟨state, added, _⟩ := bind_eq_ok made
    obtain ⟨function, named, member⟩ := (Aggregate.mem_ofItems known).1 name operand selected
    exact ⟨function, named, fun row given =>
      Accumulator.exists_addRows?_iff.mp ⟨state, added⟩ row given _ member⟩
  · intro each
    obtain ⟨aggregates, known⟩ := Aggregate.exists_ofItems fun name operand selected => by
      obtain ⟨function, named, _⟩ := each name operand selected
      exact Option.isSome_of_eq_some named
    have reads : ∀ row ∈ rows, ∀ aggregate ∈ aggregates,
        aggregate.function.Reads row aggregate.operand := by
      intro row given aggregate member
      obtain ⟨name, function, operand, selected, named, rfl⟩ :=
        (Aggregate.mem_ofItems known).2 aggregate member
      obtain ⟨other, otherNamed, reads⟩ := each name operand selected
      cases named.symm.trans otherNamed
      exact reads row given
    obtain ⟨state, added⟩ := Accumulator.exists_addRows?_iff.mpr reads
    exact ⟨_, by rw [aggregateRow, known]; simp only [bind, Except.bind, added]; rfl⟩

/-- The aggregate that is made under a label is its function over the rows and the numbers of its
operand. -/
theorem get?_aggregateRow {whole : Row} (made : aggregateRow rows items = .ok whole)
    {name operand : String} (selected : .call name operand ∈ items) :
    ∃ function, AggregateFunction.ofName? name = some function ∧
      whole.get? (Expression.label (.call name operand)) =
        some (function.ofNumbers rows.length (rows.filterMap (Row.summand? operand))) := by
  obtain ⟨aggregates, known, made⟩ := bind_eq_ok made
  obtain ⟨state, added, same⟩ := bind_eq_ok made
  cases same
  obtain ⟨function, named, member⟩ := (Aggregate.mem_ofItems known).1 name operand selected
  obtain ⟨other, otherNamed, found⟩ := get?_aggregateCells known selected state
  cases named.symm.trans otherNamed
  have holds := Accumulator.holds_of_addRows? added
  exact ⟨function, named, found.trans (congrArg some (holds.value member))⟩

/-- Select lists with the same aggregates make the same row of them. -/
theorem aggregateRow_eq_of_same {others : List Expression} {whole : Row}
    (made : aggregateRow rows items = .ok whole)
    (same : ∀ item : Expression, item.isAggregate = true → (item ∈ others ↔ item ∈ items)) :
    aggregateRow rows others = .ok whole := by
  have each := exists_aggregateRow_iff.mp ⟨whole, made⟩
  obtain ⟨found, otherMade⟩ := exists_aggregateRow_iff.mpr fun name operand selected =>
    each name operand ((same (.call name operand) rfl).mp selected)
  have labels (name : String) :
      (found.get? name).isSome = true ↔ (whole.get? name).isSome = true := by
    rw [fills_aggregateRow otherMade, fills_aggregateRow made]
    simp only [List.mem_map, List.mem_filter]
    refine exists_congr fun item => and_congr_left fun _ => and_congr_left fun isAggregate => ?_
    exact same item isAggregate
  have equal : found = whole := by
    apply NameMap.ext_get?
    intro name
    cases there : whole.get? name with
    | none =>
      have absent := mt (labels name).mp (by simp [there])
      exact Option.not_isSome_iff_eq_none.mp absent
    | some value =>
      obtain ⟨item, given, rfl⟩ := List.mem_map.mp
        ((fills_aggregateRow made name).mp (Option.isSome_of_eq_some there))
      obtain ⟨selected, isAggregate⟩ := List.mem_filter.mp given
      cases item with
      | all => cases isAggregate
      | column name => cases isAggregate
      | call name operand =>
        obtain ⟨function, named, here⟩ := get?_aggregateRow made selected
        obtain ⟨other, otherNamed, otherHere⟩ :=
          get?_aggregateRow otherMade ((same _ isAggregate).mpr selected)
        cases named.symm.trans otherNamed
        rw [← there, here, otherHere]
  rw [otherMade, equal]

end Items

/-- What the aggregates of a select list are when each of them is what it is alone. -/
structure MadeSeparately (rows : List Row) (items : List Expression) (whole : Row) : Prop where
  labels : whole.Fills ((items.filter Expression.isAggregate).map Expression.label)
  alone : ∀ item ∈ items, item.isAggregate = true → ∃ row value,
    aggregateRow rows [item] = .ok row ∧ row.get? item.label = some value ∧
      whole.get? item.label = some value
  /-- No number of an operand is counted twice, and none is left out. -/
  numbers : ∀ name operand, .call name operand ∈ items → ∃ function,
    AggregateFunction.ofName? name = some function ∧
      whole.get? (Expression.label (.call name operand)) =
        some (function.ofNumbers rows.length (rows.filterMap (Row.summand? operand)))
  /-- Neither the order of the items nor repeated ones count. -/
  regardless : ∀ others : List Expression,
    (∀ item : Expression, item.isAggregate = true → (item ∈ others ↔ item ∈ items)) →
      aggregateRow rows others = .ok whole

/-- Aggregates do not influence each other. They are made when each of them is made alone, and
then each of them is what it is alone, a function of the rows and of the numbers in its operand,
whatever other aggregates share the operand. -/
theorem aggregateRow_separately (rows : List Row) (items : List Expression) :
    ((∃ whole, aggregateRow rows items = .ok whole) ↔
      ∀ item ∈ items, item.isAggregate = true → ∃ alone, aggregateRow rows [item] = .ok alone) ∧
    ∀ whole, aggregateRow rows items = .ok whole → MadeSeparately rows items whole := by
  have single (name operand : String) :
      (∃ alone, aggregateRow rows [.call name operand] = .ok alone) ↔ ∃ function,
        AggregateFunction.ofName? name = some function ∧
          ∀ row ∈ rows, function.Reads row operand := by
    rw [exists_aggregateRow_iff]
    constructor
    · exact fun each => each name operand (List.mem_singleton_self _)
    · intro one _ _ member
      cases List.mem_singleton.mp member
      exact one
  have whenMade : (∃ whole, aggregateRow rows items = .ok whole) ↔
      ∀ item ∈ items, item.isAggregate = true →
        ∃ alone, aggregateRow rows [item] = .ok alone := by
    rw [exists_aggregateRow_iff]
    constructor
    · intro each item member isAggregate
      cases item with
      | all => cases isAggregate
      | column name => cases isAggregate
      | call name operand => exact (single name operand).mpr (each name operand member)
    · intro each name operand member
      exact (single name operand).mp (each _ member rfl)
  refine ⟨whenMade, fun whole made => ?_⟩
  refine ⟨fills_aggregateRow made, fun item member isAggregate => ?_,
    fun name operand selected => get?_aggregateRow made selected,
    fun others same => aggregateRow_eq_of_same made same⟩
  obtain ⟨row, alone⟩ := whenMade.mp ⟨whole, made⟩ item member isAggregate
  cases item with
  | all => cases isAggregate
  | column name => cases isAggregate
  | call name operand =>
    obtain ⟨function, named, here⟩ := get?_aggregateRow made member
    obtain ⟨other, otherNamed, there⟩ := get?_aggregateRow alone (List.mem_singleton_self _)
    cases named.symm.trans otherNamed
    exact ⟨row, _, alone, there, here⟩

/-- Aggregates of one column, bare and qualified, one of them twice and a count among them, with
a blank cell. -/
theorem aggregateRow_separately_shared :
    let rows : List Row := ["4", "2.5", " "].map fun cell => .ofList [("a", .text cell)]
    let items : List Expression := [.call "SUM" "a", .call "count" "a", .column "b",
      .call "AVG" "t.a", .call "SUM" "a", .call "MIN" "a"]
    let whole : Row := .ofList [("SUM(a)", .float ⟨false, 0x401a000000000000, by decide⟩),
      ("count(a)", .integer 3), ("AVG(t.a)", .float ⟨false, 0x400a000000000000, by decide⟩),
      ("MIN(a)", .float ⟨false, 0x4004000000000000, by decide⟩)]
    aggregateRow rows items = .ok whole ∧ MadeSeparately rows items whole := by
  intro rows items whole
  have made : aggregateRow rows items = .ok whole := by decide +kernel
  exact ⟨made, (aggregateRow_separately rows items).2 whole made⟩

end TableQuery
