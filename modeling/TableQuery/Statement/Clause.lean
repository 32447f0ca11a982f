import TableQuery.Statement.Phrase
import TableQuery.Text.Digits

/-!
The clauses of a select statement, cut from its token list.

A clause is found by its keywords, wherever they stand, and reaches to the end of
the tokens that are left. So clauses are taken from the back: the limit, the sort
keys, then the conditions with the group fields behind them, and last the join.
-/

namespace TableQuery.Clause

open Phrase

/-! ## Cutting token lists -/

/-- The tokens before and after the first occurrence of a keyword. -/
def cutKeyword? (k : Keyword) : List Token → Option (List Token × List Token)
  | [] => none
  | token :: rest =>
    if token = .keyword k then some ([], rest)
    else (cutKeyword? k rest).map fun (before, after) => (token :: before, after)

/-- Whether a list starts with one of some keywords and then the given one. -/
def startsPair (isFirst : Keyword → Bool) (second : Keyword) : List Token → Bool
  | .keyword a :: .keyword b :: _ => isFirst a && b == second
  | _ => false

/-- The tokens before the first pair of keywords, and those from the pair on. -/
def cutPair? (isFirst : Keyword → Bool) (second : Keyword) :
    List Token → Option (List Token × List Token)
  | [] => none
  | token :: rest =>
    if startsPair isFirst second (token :: rest) then some ([], token :: rest)
    else (cutPair? isFirst second rest).map fun (before, pair) => (token :: before, pair)

/-- Puts a token in front of the first segment. -/
def extendFirst (token : Token) : List (List Token) → List (List Token)
  | [] => [[token]]
  | segment :: segments => (token :: segment) :: segments

/-- The segments between the separators that stand outside of parentheses, of which
`depth` are open. A closing parenthesis without an open one counts for nothing. -/
def segments (separates : Token → Bool) (depth : Nat) : List Token → List (List Token)
  | [] => [[]]
  | .openParen :: rest => extendFirst .openParen (segments separates (depth + 1) rest)
  | .closeParen :: rest => extendFirst .closeParen (segments separates (depth - 1) rest)
  | token :: rest =>
    if depth = 0 && separates token then [] :: segments separates depth rest
    else extendFirst token (segments separates depth rest)

/-! ## Distinct and limit -/

/-- Takes `DISTINCT` from its place after the first token. -/
def takeDistinct : List Token → Bool × List Token
  | first :: .keyword .distinct :: rest => (true, first :: rest)
  | tokens => (false, tokens)

/-- Row counts have 64 bits. -/
def limitBound : Nat := 0x10000000000000000

/-- The row count of a number text. -/
def rowCount? (digits : String) : Option Nat :=
  (Text.natural? digits.toList).filter (· < limitBound)

/-- Takes the first `LIMIT` and the row count after it. -/
def takeLimit (tokens : List Token) : Except Fault (Option Nat × List Token) :=
  match cutKeyword? .limit tokens with
  | none => .ok (none, tokens)
  | some (_, []) => .error (.parse (.badLimit none))
  | some (before, .number digits :: after) =>
    match rowCount? digits with
    | some n => .ok (some n, before ++ after)
    | none => .error (.parse (.badLimit (some (.number digits))))
  | some (_, token :: _) => .error (.parse (.badLimit (some token)))

/-! ## Sort keys -/

/-- Reads the direction of a sort key; without one it ascends. -/
def direction : List Token → Except Fault (Direction × List Token)
  | [] => .ok (.asc, [])
  | .keyword .desc :: rest => .ok (.desc, rest)
  | .keyword .asc :: rest => .ok (.asc, rest)
  | token :: _ => .error (.parse (.unexpected token))

/-- Reads one sort key. -/
def sortKey (tokens : List Token) : Except Fault SortKey := do
  let (item, rest) ← expression tokens
  if item = .all then .error (.parse .orderByAll)
  let (direction, rest) ← direction rest
  finish rest
  return (item.label, direction)

/-- Takes the first `ORDER BY` and the sort keys after it. -/
def takeOrderBy (tokens : List Token) : Except Fault (Option (List SortKey) × List Token) :=
  match cutPair? (· == .order) .by tokens with
  | none => .ok (none, tokens)
  | some (before, pair) => do
    let keys ← (segments (· == .comma) 0 (pair.drop 2)).mapM sortKey
    return (some keys, before)

/-! ## Conditions and group fields -/

/-- Reads one group field. -/
def groupField (tokens : List Token) : Except Fault String := do
  let (name, rest) ← column tokens
  finish rest
  return name

/-- Takes the first `GROUP BY` and the group fields after it. -/
def takeGroupBy (tokens : List Token) : Except Fault (Option (List String) × List Token) :=
  match cutPair? (· == .group) .by tokens with
  | none => .ok (none, tokens)
  | some (before, pair) => do
    let fields ← (segments (· == .comma) 0 (pair.drop 2)).mapM groupField
    return (some fields, before)

/-- Reads one condition: a column, an operator and a literal. Whatever breaks it,
the whole condition is reported, unless what stands for the operator is none. -/
def condition (tokens : List Token) : Except Fault Condition :=
  match column tokens with
  | .ok (field, sign :: rest) =>
    match Operator.ofText? sign.display with
    | none => .error (.operator sign.display)
    | some operator =>
      match literal rest with
      | .ok (value, []) => .ok ⟨field, operator, value⟩
      | _ => .error (.parse (.badCondition tokens))
  | _ => .error (.parse (.badCondition tokens))

/-- The words between two conditions. -/
def isConnective (token : Token) : Bool :=
  token == .keyword .and || token == .keyword .or

/-- Reads conditions between connectives, at least one. -/
def conditions (tokens : List Token) : Except Fault (List Condition) :=
  if tokens = [] then .error (.parse .emptyCondition)
  else (segments isConnective 0 tokens).mapM condition

/-- The conditions and group fields of a statement. -/
structure Restriction where
  groupBy : Option (List String)
  conditions : List Condition

/-- Takes the first `WHERE` with the conditions after it and the group fields behind
them; without `WHERE` takes the group fields alone. -/
def takeRestriction (tokens : List Token) : Except Fault (Restriction × List Token) :=
  match cutKeyword? .where tokens with
  | some (before, tail) => do
    let (groupBy, tail) ← takeGroupBy tail
    let conditions ← conditions tail
    return (⟨groupBy, conditions⟩, before)
  | none => do
    let (groupBy, tokens) ← takeGroupBy tokens
    return (⟨groupBy, []⟩, tokens)

/-! ## Join -/

/-- The kind of join that a token names. -/
def joinKind? : Token → Option JoinKind
  | .keyword .inner => some .inner
  | .keyword .left => some .left
  | .keyword .right => some .right
  | _ => none

/-- Reads a join, from its kind to its condition. -/
def join : List Token → Except Fault Join
  | [] => .error (.parse .endOfInput)
  | token :: rest => do
    match joinKind? token with
    | none => .error (.parse (.unsupportedJoin (some token)))
    | some kind =>
      let rest ← expect (.keyword .join) rest
      let (table, rest) ← ident rest
      let rest ← expect (.keyword .on) rest
      let (left, rest) ← qualifiedColumn rest
      let rest ← expect .equal rest
      let (right, rest) ← qualifiedColumn rest
      finish rest
      return ⟨kind, table, left, right⟩

/-- Takes the first join of a supported kind; no other `JOIN` may be left. -/
def takeJoin (tokens : List Token) : Except Fault (Option Join × List Token) := do
  let (join, tokens) ←
    match cutPair? (fun k => k == .inner || k == .left || k == .right) .join tokens with
    | none => Except.ok (none, tokens)
    | some (before, clause) => do
      let join ← join clause
      Except.ok (some join, before)
  match cutKeyword? .join tokens with
  | none => return (join, tokens)
  | some (before, _) => .error (.parse (.unsupportedJoin before.getLast?))

end TableQuery.Clause
