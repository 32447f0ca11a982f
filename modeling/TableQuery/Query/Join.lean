import TableQuery.Statement.Basic
import TableQuery.Table
import TableQuery.Value.Order

/-!
Joining two tables on the equality of a column of each.

A layout says where the two keys and every requested field come from; it is made
from the headers alone. An inner join has a row for each matching pair, with just
the requested fields. A left join keeps every base row and a right join every other
row, with null where nothing matches, and their rows hold all base columns as well.
-/

namespace TableQuery

/-- The table that a field is read from. -/
inductive Side
  | base
  | other
deriving DecidableEq

/-- A requested field: its label, and where it is read. -/
structure JoinField where
  label : String
  side : Side
  column : String
deriving DecidableEq

/-- Where the keys and fields of a join come from. -/
structure JoinLayout where
  baseKey : String
  otherKey : String
  fields : List JoinField
deriving DecidableEq

namespace JoinLayout

/-- Finds the column that a field names: by its qualifier when it has one, else in
the base table first. -/
def resolve (base other : Table) (field : String) : Except Fault (Side × String) :=
  let found :=
    match Text.splitFirst? '.' field.toList with
    | some (table, column) =>
      let table := String.ofList table
      let column := String.ofList column
      if table = base.name ∧ base.hasColumn column then some (Side.base, column)
      else if table = other.name ∧ other.hasColumn column then some (Side.other, column)
      else none
    | none =>
      if base.hasColumn field then some (Side.base, field)
      else if other.hasColumn field then some (Side.other, field)
      else none
  match found with
  | some place => .ok place
  | none => .error (.field (.unknown field))

/-- The layout of a join. Its condition may name the two tables in either order but
must name both. -/
def ofTables (base other : Table) (join : Join) (fields : List String) :
    Except Fault JoinLayout := do
  let left ← resolve base other join.left
  let right ← resolve base other join.right
  let (baseKey, otherKey) ←
    match left, right with
    | (.base, l), (.other, r) => Except.ok (l, r)
    | (.other, l), (.base, r) => Except.ok (r, l)
    | _, _ =>
      Except.error (.field (.oneSidedJoin join.left join.right base.name other.name))
  let fields ← fields.mapM fun label => do
    let (side, column) ← resolve base other label
    return (⟨label, side, column⟩ : JoinField)
  return { baseKey, otherKey, fields }

/-- Whether two rows have equal keys. Null matches nothing. -/
def matchesRows (layout : JoinLayout) (base other : Row) : Bool :=
  match base.get? layout.baseKey, other.get? layout.otherKey with
  | some b, some o => b ≠ .null && b.equals o
  | _, _ => false

/-- The value of a field in a pair of rows, null where a row is missing or lacks it. -/
def value (base other : Option Row) (field : JoinField) : Value :=
  let row := match field.side with
    | .base => base
    | .other => other
  (row.bind (·.get? field.column)).getD .null

/-- The labels and values of the requested fields. -/
def cells (layout : JoinLayout) (base other : Option Row) : List (String × Value) :=
  layout.fields.map fun field => (field.label, value base other field)

/-- The row of the requested fields. -/
def innerRow (layout : JoinLayout) (base other : Row) : Row :=
  NameMap.ofList (layout.cells (some base) (some other))

/-- The row of all columns of the base table, qualified, and the requested fields. -/
def outerRow (layout : JoinLayout) (table : Table) (base : Row) (other : Option Row) : Row :=
  (NameMap.ofList (table.qualifiedColumns.zip (table.record base))).insertAll
    (layout.cells (some base) other)

/-- The rows of an inner join for one base row. -/
def innerRows (layout : JoinLayout) (other : Table) (base : Row) : List Row :=
  (other.rows.filter (layout.matchesRows base)).map (layout.innerRow base)

/-- The rows of a left join for one base row: one for each match, or one without. -/
def leftRows (layout : JoinLayout) (table other : Table) (base : Row) : List Row :=
  match other.rows.filter (layout.matchesRows base) with
  | [] => [layout.outerRow table base none]
  | partners => partners.map fun partner => layout.outerRow table base (some partner)

/-- The row of a right join for one other row, with the first base row that matches. -/
def rightRow (layout : JoinLayout) (table : Table) (other : Row) : Row :=
  let base := (table.rows.find? (layout.matchesRows · other)).getD table.nullRow
  layout.outerRow table base (some other)

/-- The rows of a join. -/
def rows (layout : JoinLayout) (base other : Table) : JoinKind → List Row
  | .inner => base.rows.flatMap (layout.innerRows other)
  | .left => base.rows.flatMap (layout.leftRows base other)
  | .right => other.rows.map (layout.rightRow base)

/-- The columns of a join: for outer joins those of the base table, then the labels
of the requested fields, each once. -/
def columns (layout : JoinLayout) (base : Table) (kind : JoinKind) : List String :=
  let start := if kind = .inner then [] else base.qualifiedColumns
  layout.fields.foldl
    (fun columns field =>
      if columns.contains field.label then columns else columns ++ [field.label])
    start

end JoinLayout

/-- The rows of a join with the requested fields. -/
def joinRows (base other : Table) (join : Join) (fields : List String) :
    Except Fault (List Row) :=
  (JoinLayout.ofTables base other join fields).map fun layout =>
    layout.rows base other join.kind

end TableQuery
