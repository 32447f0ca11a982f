import TableQuery.Text.Capitals

/-!
Statements: what a text asks for, with the names as they are written.

`AND` and `OR` both join conditions that must all hold, so a statement keeps one
list of conditions.
-/

namespace TableQuery

/-! ## Expressions -/

/-- The aggregate functions. -/
inductive AggregateFunction
  | count | sum | avg | min | max
deriving DecidableEq

/-- The function of a name, in whatever case it is written. -/
def AggregateFunction.ofName? (name : String) : Option AggregateFunction :=
  match Text.capitals name with
  | "COUNT" => some count
  | "SUM" => some sum
  | "AVG" => some avg
  | "MIN" => some min
  | "MAX" => some max
  | _ => none

/-- An item of a select list. -/
inductive Expression
  /-- Every column. -/
  | all
  | column (name : String)
  /-- An aggregate function of a column or of `*`, with the name as written. -/
  | call (function operand : String)
deriving DecidableEq

namespace Expression

/-- The name of the output column. -/
def label : Expression → String
  | all => "*"
  | column name => name
  | call function operand => function ++ "(" ++ operand ++ ")"

/-- Whether the item is an aggregate. -/
def isAggregate : Expression → Bool
  | call _ _ => true
  | _ => false

end Expression

/-! ## Conditions -/

/-- The comparison operators. -/
inductive Operator
  | equal | notEqual | greater | less | greaterOrEqual | lessOrEqual | like
deriving DecidableEq

namespace Operator

/-- The operator of a text. -/
def ofText? (text : String) : Option Operator :=
  match Text.capitals text with
  | "=" => some equal
  | "!=" => some notEqual
  | "<>" => some notEqual
  | ">" => some greater
  | "<" => some less
  | ">=" => some greaterOrEqual
  | "<=" => some lessOrEqual
  | "LIKE" => some like
  | _ => none

/-- The operator as it is shown. -/
def display : Operator → String
  | equal => "="
  | notEqual => "!="
  | greater => ">"
  | less => "<"
  | greaterOrEqual => ">="
  | lessOrEqual => "<="
  | like => "LIKE"

/-- What is shown is read back. -/
theorem ofText?_display (operator : Operator) :
    ofText? operator.display = some operator := by
  cases operator <;> decide

end Operator

/-- A comparison of a field with a literal, whose quotes are dropped. -/
structure Condition where
  field : String
  operator : Operator
  literal : String
deriving DecidableEq

/-! ## Clauses -/

/-- The kinds of join. -/
inductive JoinKind
  | inner | left | right
deriving DecidableEq

/-- A join with another table on the equality of two qualified columns. -/
structure Join where
  kind : JoinKind
  table : String
  left : String
  right : String
deriving DecidableEq

/-- The directions of sorting. -/
inductive Direction
  | asc | desc
deriving DecidableEq

/-- A sort key: a field or an aggregate's label, and its direction. -/
abbrev SortKey := String × Direction

/-! ## Statements -/

/-- A select statement. -/
structure Query where
  fields : List Expression
  table : String
  join : Option Join
  conditions : List Condition
  groupBy : Option (List String)
  /-- Some field is an aggregate although there is no `GROUP BY`. -/
  aggregatesAll : Bool
  orderBy : Option (List SortKey)
  limit : Option Nat
  distinct : Bool
deriving DecidableEq

/-- A literal of an insert statement. -/
inductive Constant
  | null
  /-- A number as it is written. -/
  | number (digits : String)
  | text (s : String)
deriving DecidableEq

/-- An insert statement. -/
structure Insertion where
  table : String
  columns : List String
  values : List Constant
deriving DecidableEq

/-- A delete statement. -/
structure Deletion where
  table : String
  conditions : List Condition
deriving DecidableEq

/-- A statement. -/
inductive Statement
  | select (query : Query)
  | insert (insertion : Insertion)
  | delete (deletion : Deletion)
deriving DecidableEq

end TableQuery
