import TableQuery.Query.Aggregate

/-!
Grouping rows by the values of some fields.

Groups come in the order in which their values first appear. The row of a group has
the group fields, the selected columns under the names they are selected by, and
the aggregates.
-/

namespace TableQuery

/-- A group: the values of the group fields and the state of its aggregates. -/
structure Group where
  values : List Value
  state : Accumulator
deriving DecidableEq

namespace Group

/-- Whether a group is the one of some values, which are told apart by their texts. -/
def hasValues (group : Group) (values : List Value) : Bool :=
  group.values.map Value.debugText == values.map Value.debugText

/-- Adds a row to the group of its values, which starts at the end when it is new. -/
def place (aggregates : List Aggregate) (values : List Value) (row : Row) :
    List Group → Except Fault (List Group)
  | [] => do
    let state ← Accumulator.start.addRow? aggregates row
    return [⟨values, state⟩]
  | group :: groups =>
    if group.hasValues values then do
      let state ← group.state.addRow? aggregates row
      return { group with state } :: groups
    else do
      let groups ← place aggregates values row groups
      return group :: groups

/-- Adds a row to the groups of some fields. -/
def addRow (aggregates : List Aggregate) (fields : List String) (groups : List Group)
    (row : Row) : Except Fault (List Group) := do
  let values ← fields.mapM row.lookup
  place aggregates values row groups

/-- The cell of a selected column: the value of the first group field that is the
same column. -/
def selectedCell? (fields : List String) (group : Group) : Expression → Option (String × Value)
  | .column name =>
    ((fields.zip group.values).find? fun (field, _) => sameColumn field name).map
      fun (_, value) => (name, value)
  | _ => none

/-- The row of a group. -/
def row (fields : List String) (items : List Expression) (aggregates : List Aggregate)
    (group : Group) : Row :=
  NameMap.ofList <|
    fields.zip group.values ++
    items.filterMap (selectedCell? fields group) ++
    aggregateCells aggregates group.state

end Group

/-- The rows of the groups of some fields. -/
def groupRows (rows : List Row) (fields : List String) (items : List Expression) :
    Except Fault (List Row) := do
  let aggregates ← Aggregate.ofItems items
  let groups ← rows.foldlM (Group.addRow aggregates fields) []
  return groups.map (Group.row fields items aggregates)

/-- The columns of grouped rows: the group fields, then the other selected labels. -/
def groupColumns (fields : List String) (items : List Expression) : List String :=
  items.foldl
    (fun columns item =>
      if columns.contains item.label then columns else columns ++ [item.label])
    fields

end TableQuery
