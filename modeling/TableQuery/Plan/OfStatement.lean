import TableQuery.Plan.Basic

/-!
The plan of a statement.

A select statement reads its table, joins, filters and groups; then it sorts, cuts
off at the limit, drops repeated rows and projects. An aggregate over all rows is a
single row, so nothing follows it, and grouped rows hold just their own columns, so
they are not projected.
-/

namespace TableQuery

namespace Constant

/-- The value that an insert statement stores for a literal: cells are texts. -/
def toValue : Constant → Value
  | null => .null
  | number digits => .text digits
  | text s => .text s

end Constant

namespace Query

/-- Whether an item may be selected beside some group fields: aggregates may, and
columns that are one of the fields. -/
def checkGrouped (groupBy : List String) : Expression → Except Fault Unit
  | .all => .error (.parse .groupedAll)
  | .column name =>
    if groupBy.any (sameColumn · name) then .ok ()
    else .error (.parse (.ungroupedColumn name))
  | .call _ _ => .ok ()

/-- The names of a list, each at its first place. -/
def firstMentions (names : List String) : List String :=
  names.foldl (fun seen name => if seen.contains name then seen else seen ++ [name]) []

/-- The column an item reads, if any. -/
def itemColumn? : Expression → Option String
  | .all => none
  | .column name => some name
  | .call _ operand => if operand = "*" then none else some operand

/-- The columns that the sort keys read. A key with a parenthesis is the label of
an aggregate, which is computed and not read. -/
def sortColumns (keys : List SortKey) : List String :=
  (keys.map (·.1)).filter fun field => !field.toList.contains '('

/-- Every column that the statement reads from the joined rows, in the order of
first mention. -/
def referencedFields (query : Query) : List String :=
  firstMentions <|
    query.fields.filterMap itemColumn? ++
    query.conditions.map (·.field) ++
    query.groupBy.getD [] ++
    sortColumns (query.orderBy.getD [])

/-- The steps that gather rows: the scan and the join. -/
def planSource (query : Query) : Plan :=
  match query.join with
  | none => .scan query.table
  | some join =>
    .join (.scan query.table) (.scan join.table) query.table join
      query.referencedFields (query.fields.contains .all)

/-- The steps that gather rows and keep those that meet the conditions. -/
def planFiltered (query : Query) : Plan :=
  if query.conditions = [] then query.planSource
  else .filter query.planSource query.conditions

/-- Adds a step when the statement has its clause. -/
def addStep {α : Type} (step : Plan → α → Plan) (clause : Option α) (plan : Plan) : Plan :=
  match clause with
  | some a => step plan a
  | none => plan

/-- The steps of a select statement. -/
def steps (query : Query) : Plan :=
  if query.aggregatesAll then .aggregate query.planFiltered query.fields
  else
    let grouped := addStep (fun plan fields => .groupBy plan fields query.fields)
      query.groupBy query.planFiltered
    let limited := addStep .limit query.limit (addStep .order query.orderBy grouped)
    let distinct := if query.distinct then .distinct limited query.fields else limited
    if query.groupBy.isSome then distinct else .project distinct query.fields

/-- Whether every selected item may stand beside the group fields, if there are any. -/
def checkGroups (query : Query) : Except Fault Unit :=
  match query.groupBy with
  | some groupBy => query.fields.forM (checkGrouped groupBy)
  | none => .ok ()

/-- The plan of a select statement. -/
def toPlan (query : Query) : Except Fault Plan := do
  query.checkGroups
  return query.steps

end Query

/-- The plan of a statement. -/
def Statement.toPlan : Statement → Except Fault Plan
  | .select query => query.toPlan
  | .insert insertion =>
    .ok (.insert insertion.table insertion.columns
      (insertion.values.map Constant.toValue))
  | .delete deletion => .ok (.delete deletion.table deletion.conditions)

end TableQuery
