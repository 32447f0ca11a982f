import TableQuery.Statement.Clause
import TableQuery.Token.Scan

/-!
Reading a statement from its tokens and from its text.
-/

namespace TableQuery

open Phrase Clause

/-- Reads a select statement: the clauses behind the table, then what is left. -/
def Query.ofTokens (tokens : List Token) : Except Fault Query := do
  let (distinct, tokens) := takeDistinct tokens
  let (limit, tokens) ← takeLimit tokens
  let (orderBy, tokens) ← takeOrderBy tokens
  let (restriction, tokens) ← takeRestriction tokens
  let (join, tokens) ← takeJoin tokens
  let tokens ← expect (.keyword .select) tokens
  let (fields, tokens) ← separated expression expression_consumes tokens
  let tokens ← expect (.keyword .from) tokens
  let (table, tokens) ← ident tokens
  finish tokens
  return {
    fields, table, join, orderBy, limit, distinct
    conditions := restriction.conditions
    groupBy := restriction.groupBy
    aggregatesAll := restriction.groupBy.isNone && fields.any Expression.isAggregate }

/-- Reads an insert statement, with as many values as columns. -/
def Insertion.ofTokens (tokens : List Token) : Except Fault Insertion := do
  let tokens ← expect (.keyword .insert) tokens
  let tokens ← expect (.keyword .into) tokens
  let (table, tokens) ← ident tokens
  let (columns, tokens) ← parenthesized ident ident_consumes tokens
  let tokens ← expect (.keyword .values) tokens
  let (values, tokens) ← parenthesized constant constant_consumes tokens
  finish tokens
  if columns.length = values.length then return { table, columns, values }
  else .error (.parse .countMismatch)

/-- Reads a delete statement. -/
def Deletion.ofTokens (tokens : List Token) : Except Fault Deletion := do
  let tokens ← expect (.keyword .delete) tokens
  let tokens ← expect (.keyword .from) tokens
  let (table, tokens) ← ident tokens
  match tokens with
  | .keyword .where :: rest => return { table, conditions := ← Clause.conditions rest }
  | _ =>
    finish tokens
    return { table, conditions := [] }

/-- Drops one semicolon from the end of a statement. -/
def dropSemicolon (tokens : List Token) : List Token :=
  if tokens.getLast? = some .semicolon then tokens.dropLast else tokens

namespace Statement

/-- Reads a statement from its tokens; the first one tells its kind. -/
def ofTokens (tokens : List Token) : Except Fault Statement :=
  match dropSemicolon tokens with
  | [] => .error (.parse .endOfInput)
  | .keyword .select :: rest => .select <$> Query.ofTokens (.keyword .select :: rest)
  | .keyword .insert :: rest => .insert <$> Insertion.ofTokens (.keyword .insert :: rest)
  | .keyword .delete :: rest => .delete <$> Deletion.ofTokens (.keyword .delete :: rest)
  | token :: _ => .error (.parse (.unexpected token))

/-- Reads a statement from its text. -/
def ofText (sql : String) : Except Fault Statement :=
  Token.ofText sql >>= ofTokens

end Statement

/-- Reads a text that must be a select statement. -/
def Query.ofText (sql : String) : Except Fault Query := do
  match ← Statement.ofText sql with
  | .select query => return query
  | _ => .error (.parse .notSelect)

/-- Reads a text that must be an insert statement. -/
def Insertion.ofText (sql : String) : Except Fault Insertion := do
  match ← Statement.ofText sql with
  | .insert insertion => return insertion
  | _ => .error (.parse .notInsert)

/-- Reads a text that must be a delete statement. -/
def Deletion.ofText (sql : String) : Except Fault Deletion := do
  match ← Statement.ofText sql with
  | .delete deletion => return deletion
  | _ => .error (.parse .notDelete)

end TableQuery
