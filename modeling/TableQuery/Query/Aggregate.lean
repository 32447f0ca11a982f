import TableQuery.Row
import TableQuery.Statement.Basic
import TableQuery.Text.Blank
import TableQuery.Value.Literal
import TableQuery.Value.Order

/-!
Aggregates over rows.

An accumulator counts rows and keeps one tally for each operand, so aggregates of one
operand share it: a row adds to the tally once, however many aggregates ask for it.
Null and blank cells are passed over; any other cell must be a number.
-/

namespace TableQuery

/-! ## Aggregates of a select list -/

/-- An aggregate: the label of its output column, its function and its operand. -/
structure Aggregate where
  label : String
  function : AggregateFunction
  operand : String
deriving DecidableEq

namespace Aggregate

/-- The aggregate that an item is, if it is one. -/
def ofExpression? : Expression → Except Fault (Option Aggregate)
  | .call name operand =>
    match AggregateFunction.ofName? name with
    | some function => .ok (some ⟨Expression.label (.call name operand), function, operand⟩)
    | none => .error (.internal (.unknownAggregate name))
  | _ => .ok none

/-- The aggregates of a select list, in order. -/
def ofItems (items : List Expression) : Except Fault (List Aggregate) := do
  let found ← items.mapM ofExpression?
  return found.filterMap id

/-- Whether the function needs numbers. -/
def isNumeric (aggregate : Aggregate) : Bool :=
  aggregate.function ≠ .count

end Aggregate

/-! ## Tallies -/

/-- What is known of the numbers of one operand. -/
structure Tally where
  sum : Binary64
  count : Nat
  least : Binary64
  greatest : Binary64
deriving DecidableEq

namespace Tally

/-- The tally of one number. The sum starts from zero. -/
def single (x : Binary64) : Tally :=
  ⟨Binary64.zero false + x, 1, x, x⟩

/-- The tally with one more number. -/
def add (tally : Tally) (x : Binary64) : Tally :=
  ⟨tally.sum + x, tally.count + 1, tally.least.least x, tally.greatest.greatest x⟩

end Tally

/-- What a cell adds to a tally. -/
inductive Contribution
  /-- Null or blank: nothing. -/
  | nothing
  | number (x : Binary64)
  /-- A text that is not a number. -/
  | notNumeric

/-- What a value adds to a tally. -/
def Value.contribution (value : Value) : Contribution :=
  match value with
  | .null => .nothing
  | .text s =>
    if Text.allBlank s.toList then .nothing
    else match (Value.ofLiteral s).number? with
      | some x => .number x
      | none => .notNumeric
  | value =>
    match value.number? with
    | some x => .number x
    | none => .notNumeric

/-! ## Accumulators -/

/-- The tallies of the operands seen so far. -/
abbrev Tallies := NameMap Tally

/-- Adds a number to the tally of an operand. -/
def Tallies.add (tallies : Tallies) (operand : String) (x : Binary64) : Tallies :=
  tallies.insert operand <|
    match tallies.get? operand with
    | some tally => tally.add x
    | none => Tally.single x

/-- The running state of one group: its rows and the tallies of its operands. -/
structure Accumulator where
  count : Nat
  tallies : Tallies
deriving DecidableEq

namespace Accumulator

/-- The state before any row. -/
def start : Accumulator := ⟨0, .empty⟩

/-- Adds the cells of a row for each aggregate in turn. Operands in `seen` have had
their cell. Ends at the first fault and keeps what was added until then. -/
def addCells (row : Row) (seen : List String) (tallies : Tallies) :
    List Aggregate → Tallies × Except Fault Unit
  | [] => (tallies, .ok ())
  | aggregate :: rest =>
    let operand := aggregate.operand
    if operand = "*" then
      if aggregate.isNumeric then (tallies, .error (.internal (.notNumeric operand)))
      else addCells row seen tallies rest
    else
      match row.lookup operand with
      | .error fault => (tallies, .error fault)
      | .ok value =>
        if !aggregate.isNumeric || seen.contains operand then addCells row seen tallies rest
        else
          match value.contribution with
          | .nothing => addCells row (operand :: seen) tallies rest
          | .number x => addCells row (operand :: seen) (tallies.add operand x) rest
          | .notNumeric => (tallies, .error (.internal (.notNumeric operand)))

/-- Adds a row: the state after it, and whether it went well. -/
def addRow (aggregates : List Aggregate) (state : Accumulator) (row : Row) :
    Accumulator × Except Fault Unit :=
  let (tallies, outcome) := addCells row [] state.tallies aggregates
  (⟨state.count + 1, tallies⟩, outcome)

/-- Adds a row that must go well. -/
def addRow? (aggregates : List Aggregate) (state : Accumulator) (row : Row) :
    Except Fault Accumulator :=
  let (next, outcome) := state.addRow aggregates row
  outcome.map fun () => next

/-- Adds rows that must all go well. -/
def addRows? (aggregates : List Aggregate) (state : Accumulator) (rows : List Row) :
    Except Fault Accumulator :=
  rows.foldlM (addRow? aggregates) state

end Accumulator

/-- The value of an aggregate in a state. Without any number a sum is zero and the
other functions give null; a count is that of all rows. -/
def Aggregate.value (aggregate : Aggregate) (state : Accumulator) : Value :=
  match aggregate.function with
  | .count => .integer state.count
  | function =>
    match state.tallies.get? aggregate.operand with
    | none => if function = .sum then .integer 0 else .null
    | some tally =>
      match function with
      | .sum => .ofBinary64 tally.sum
      | .avg => .ofBinary64 (tally.sum / Binary64.ofInt tally.count)
      | .min => .ofBinary64 tally.least
      | _ => .ofBinary64 tally.greatest

/-- The labels and values of some aggregates in a state. -/
def aggregateCells (aggregates : List Aggregate) (state : Accumulator) :
    List (String × Value) :=
  aggregates.map fun aggregate => (aggregate.label, aggregate.value state)

/-- The row of the aggregates of a select list over all rows. -/
def aggregateRow (rows : List Row) (items : List Expression) : Except Fault Row := do
  let aggregates ← Aggregate.ofItems items
  let state ← Accumulator.start.addRows? aggregates rows
  return NameMap.ofList (aggregateCells aggregates state)

end TableQuery
