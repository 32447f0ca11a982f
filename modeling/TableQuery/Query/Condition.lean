import TableQuery.Query.Pattern
import TableQuery.Row
import TableQuery.Statement.Basic
import TableQuery.Value.Literal
import TableQuery.Value.Order

/-!
Testing rows against conditions.

The cell and the literal are both read as literals and compared; a pattern is held
against the cell's text as it is. A condition on a name that the row does not have
is a fault, not false.
-/

namespace TableQuery

namespace Operator

/-- Whether an ordering of two sides satisfies an operator; none is given when they
cannot be compared. -/
def accepts (ordering : Option Ordering) : Operator → Bool
  | equal => ordering == some .eq
  | notEqual => ordering != some .eq
  | greater => ordering == some .gt
  | less => ordering == some .lt
  | greaterOrEqual => ordering == some .gt || ordering == some .eq
  | lessOrEqual => ordering == some .lt || ordering == some .eq
  | like => false

/-- Whether two values satisfy an operator. Null equals null alone and has no order. -/
def holds (operator : Operator) (left right : Value) : Bool :=
  match left, right with
  | .null, .null => operator == equal
  | .null, _ => operator == notEqual
  | _, .null => operator == notEqual
  | left, right => operator.accepts (left.compare? right)

end Operator

namespace Condition

/-- Whether a value satisfies the condition. A pattern is always prepared here: it is one
below the size, many thousand characters, from which preparing it is refused. -/
def test (condition : Condition) (value : Value) : Bool :=
  if condition.operator = .like then
    value ≠ .null && (Pattern.ofText condition.literal).matchesText value.display
  else condition.operator.holds value.coerce (Value.ofLiteral condition.literal)

/-- Whether a row satisfies the condition. -/
def evaluate (condition : Condition) (row : Row) : Except Fault Bool :=
  (row.lookup condition.field).map condition.test

/-- Whether a row satisfies all conditions; those after the first that fails are not
looked at. -/
def evaluateAll (row : Row) : List Condition → Except Fault Bool
  | [] => .ok true
  | condition :: rest =>
    match condition.evaluate row with
    | .ok true => evaluateAll row rest
    | .ok false => .ok false
    | .error fault => .error fault

end Condition

/-- The rows that satisfy all conditions, in order, and the others. -/
def splitRows (conditions : List Condition) : List Row → Except Fault (List Row × List Row)
  | [] => .ok ([], [])
  | row :: rest => do
    let holds ← Condition.evaluateAll row conditions
    let (kept, dropped) ← splitRows conditions rest
    return if holds then (row :: kept, dropped) else (kept, row :: dropped)

end TableQuery
