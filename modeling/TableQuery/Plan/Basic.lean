import TableQuery.Row
import TableQuery.Statement.Basic

/-!
Plans: trees of the steps that carry out a statement.

The source of a step gives it columns and rows. Steps that change a table have no
source.
-/

namespace TableQuery

/-- A step of a statement, over the steps before it. -/
inductive Plan
  /-- Reads a whole table. -/
  | scan (table : String)
  /-- Joins the base table with another one. The requested fields are those that
  later steps read; `all` asks for every column of both tables. -/
  | join (base other : Plan) (table : String) (join : Join) (fields : List String) (all : Bool)
  /-- Keeps the rows that meet every condition. -/
  | filter (source : Plan) (conditions : List Condition)
  /-- Makes one row of the aggregates over all rows. -/
  | aggregate (source : Plan) (items : List Expression)
  /-- Makes a row for each group of rows with equal group fields. -/
  | groupBy (source : Plan) (fields : List String) (items : List Expression)
  | order (source : Plan) (keys : List SortKey)
  | limit (source : Plan) (count : Nat)
  /-- Drops rows that repeat an earlier one in the selected items. -/
  | distinct (source : Plan) (items : List Expression)
  /-- Keeps the selected items. -/
  | project (source : Plan) (items : List Expression)
  | insert (table : String) (columns : List String) (values : List Value)
  | delete (table : String) (conditions : List Condition)
deriving DecidableEq

end TableQuery
