import TableQuery.Proofs.Spelling
import TableQuery.Statement.Clause

/-!
Writing a statement as a text.

A `Wording` is a part of a statement with its text and the tokens that this text is
made of. `Statement.wording` puts the wordings of a statement's parts together in the
order of the grammar, with single spaces between them and every text in quotes.
The text of a well-formed statement is read as its tokens (`Statement.reads_render`).
-/

namespace TableQuery

/-! ## Wordings -/

/-- A part of a statement: its text and its tokens. -/
structure Wording where
  text : String
  tokens : List Token
deriving DecidableEq

namespace Wording

/-- The text is read as the tokens. -/
def Faithful (wording : Wording) : Prop :=
  Token.Reads wording.text wording.tokens

/-- A keyword. -/
def word (k : Keyword) : Wording := ⟨k.word, [.keyword k]⟩

/-- The name of a table. -/
def name (name : String) : Wording := ⟨name, [.ident name]⟩

/-- A text in quotes. -/
def quoted (mark : Char) (s : String) : Wording := ⟨Token.inQuotes mark s, [.text s]⟩

/-- Wordings with a separator between them. -/
def joined (separator : Wording) (parts : List Wording) : Wording :=
  ⟨separator.text.intercalate (parts.map text),
    separator.tokens.intercalate (parts.map tokens)⟩

/-- Wordings with spaces between them. -/
def spaced : List Wording → Wording :=
  joined ⟨" ", []⟩

/-- Wordings with commas between them. -/
def listed : List Wording → Wording :=
  joined ⟨", ", [.comma]⟩

/-- Wordings with the word `AND` between them. -/
def connected : List Wording → Wording :=
  joined ⟨" AND ", [.keyword .and]⟩

/-- A wording in parentheses. -/
def inParens (inner : Wording) : Wording :=
  ⟨"(" ++ inner.text ++ ")", .openParen :: inner.tokens ++ [.closeParen]⟩

end Wording

/-! ## Columns, items and sort keys -/

/-- A column as a statement names it: a name, or two with a dot between them. -/
def isColumn (column : String) : Bool :=
  match Text.splitFirst? '.' column.toList with
  | none => isName column
  | some (table, column) => isName (String.ofList table) && isName (String.ofList column)

/-- The tokens of a column. -/
def columnTokens (column : String) : List Token :=
  match Text.splitFirst? '.' column.toList with
  | none => [.ident column]
  | some (table, column) =>
    [.ident (String.ofList table), .period, .ident (String.ofList column)]

/-- No name has a dot. -/
theorem splitFirst?_of_isName {name : String} (named : isName name = true) :
    Text.splitFirst? '.' name.toList = none :=
  Text.splitFirst?_eq_none_iff.mpr (not_mem_of_isName named (by decide))

theorem columnTokens_of_isName {name : String} (named : isName name = true) :
    columnTokens name = [.ident name] := by
  rw [columnTokens, splitFirst?_of_isName named]

/-- A column that is no name is two names with a dot. -/
theorem columnTokens_of_qualified {column : String} (written : isColumn column = true)
    (dotted : isName column = false) :
    ∃ table name, columnTokens column = [.ident table, .period, .ident name] := by
  unfold isColumn at written
  unfold columnTokens
  split at written
  · rw [dotted] at written
    cases written
  · rename_i table name split
    exact ⟨_, _, rfl⟩

/-- A column, bare or qualified. -/
def Wording.column (column : String) : Wording := ⟨column, columnTokens column⟩

namespace Expression

/-- Whether an item can be written in a select list. -/
def wellFormed : Expression → Bool
  | all => true
  | column name => isColumn name
  | call function operand =>
    (AggregateFunction.ofName? function).isSome && (operand == "*" || isColumn operand)

/-- The tokens of an item. -/
def tokens : Expression → List Token
  | all => [.asterisk]
  | column name => columnTokens name
  | call function operand =>
    .ident function :: .openParen ::
      (if operand = "*" then [.asterisk] else columnTokens operand) ++ [.closeParen]

/-- An item is written as its label. -/
def wording (item : Expression) : Wording := ⟨item.label, item.tokens⟩

/-- The item that a label names: an aggregate when it has a parenthesis. -/
def ofLabel (label : String) : Expression :=
  match Text.splitFirst? '(' label.toList with
  | none => column label
  | some (function, rest) => call (String.ofList function) (String.ofList rest.dropLast)

end Expression

/-- Whether a text can be a sort key: a column or the label of an aggregate. -/
def isSortField (field : String) : Bool :=
  (Expression.ofLabel field).wellFormed && (Expression.ofLabel field).label == field

/-- The word of a direction. -/
def Direction.keyword : Direction → Keyword
  | asc => .asc
  | desc => .desc

/-- A sort key with its direction. -/
def SortKey.wording (key : SortKey) : Wording :=
  .spaced [(Expression.ofLabel key.1).wording, .word key.2.keyword]

/-! ## Conditions and constants -/

/-- The token of an operator. -/
def Operator.token : Operator → Token
  | equal => .equal
  | notEqual => .notEqual
  | greater => .greater
  | less => .less
  | greaterOrEqual => .greaterOrEqual
  | lessOrEqual => .lessOrEqual
  | like => .keyword .like

/-- A condition, with its literal in quotes. -/
def Condition.wording (mark : Char) (condition : Condition) : Wording :=
  .spaced [.column condition.field,
    ⟨condition.operator.display, [condition.operator.token]⟩,
    .quoted mark condition.literal]

namespace Constant

/-- Whether a constant can be written: a number has at most one sign, a minus. -/
def WellFormed : Constant → Prop
  | number digits => IsNumberText digits ∨ ∃ text, IsNumberText text ∧ digits = "-" ++ text
  | _ => True

/-- The tokens of a number with a minus or without. -/
def numberTokens (digits : String) : List Token :=
  match digits.toList with
  | '-' :: rest => [.minus, .number (String.ofList rest)]
  | _ => [.number digits]

theorem numberTokens_of_plain {text : String} (plain : IsNumberText text) :
    numberTokens text = [.number text] := by
  obtain ⟨d, rest, shape, digit⟩ := plain.exists_cons
  unfold numberTokens
  split
  · rename_i signed
    rw [shape] at signed
    cases signed
    exact absurd digit (by decide)
  · rfl

theorem numberTokens_minus (text : String) :
    numberTokens ("-" ++ text) = [.minus, .number text] := by
  have shape : ("-" ++ text).toList = '-' :: text.toList := by simp
  rw [numberTokens, shape]
  simp only [String.ofList_toList]

/-- A constant, with texts in quotes. -/
def wording (mark : Char) : Constant → Wording
  | null => .word .null
  | number digits => ⟨digits, numberTokens digits⟩
  | text s => .quoted mark s

end Constant

/-! ## Clauses -/

/-- The word of a kind of join. -/
def JoinKind.keyword : JoinKind → Keyword
  | inner => .inner
  | left => .left
  | right => .right

namespace Clause

/-- The parts of a join. -/
def joinParts : Option Join → List Wording
  | none => []
  | some join =>
    [.word join.kind.keyword, .word .join, .name join.table, .word .on, .column join.left,
      ⟨"=", [.equal]⟩, .column join.right]

/-- The parts of a list of conditions; without conditions there is no `WHERE`. -/
def whereParts (mark : Char) (conditions : List Condition) : List Wording :=
  if conditions = [] then []
  else [.word .where, .connected (conditions.map (Condition.wording mark))]

/-- The parts of the group fields. -/
def groupParts : Option (List String) → List Wording
  | none => []
  | some fields => [.word .group, .word .by, .listed (fields.map .column)]

/-- The parts of the sort keys. -/
def orderParts : Option (List SortKey) → List Wording
  | none => []
  | some keys => [.word .order, .word .by, .listed (keys.map SortKey.wording)]

/-- The parts of a row count. -/
def limitParts : Option Nat → List Wording
  | none => []
  | some n =>
    let digits := String.ofList (Text.natText n)
    [.word .limit, ⟨digits, [.number digits]⟩]

end Clause

/-! ## Statements -/

open Clause

namespace Query

/-- What makes a select statement one that can be written. -/
structure WellFormed (query : Query) : Prop where
  someField : query.fields ≠ []
  fields : ∀ item ∈ query.fields, item.wellFormed = true
  table : isName query.table = true
  joinTable : ∀ join ∈ query.join, isName join.table = true
  joinSides : ∀ join ∈ query.join, ∀ side ∈ [join.left, join.right],
    isColumn side = true ∧ '.' ∈ side.toList
  conditions : ∀ condition ∈ query.conditions, isColumn condition.field = true
  groupBy : ∀ fields ∈ query.groupBy, fields ≠ [] ∧ ∀ field ∈ fields, isColumn field = true
  orderBy : ∀ keys ∈ query.orderBy, keys ≠ [] ∧ ∀ key ∈ keys, isSortField key.1 = true
  limit : ∀ n ∈ query.limit, n < limitBound
  aggregatesAll : query.aggregatesAll =
    (query.groupBy.isNone && query.fields.any Expression.isAggregate)

/-- A select statement, clause after clause. -/
def wording (mark : Char) (query : Query) : Wording :=
  .spaced <|
    [.word .select] ++ (if query.distinct then [.word .distinct] else []) ++
    [.listed (query.fields.map Expression.wording), .word .from, .name query.table] ++
    joinParts query.join ++ whereParts mark query.conditions ++
    groupParts query.groupBy ++ orderParts query.orderBy ++ limitParts query.limit

end Query

namespace Insertion

/-- What makes an insert statement one that can be written. -/
structure WellFormed (insertion : Insertion) : Prop where
  table : isName insertion.table = true
  someColumn : insertion.columns ≠ []
  columns : ∀ column ∈ insertion.columns, isColumn column = true
  values : ∀ value ∈ insertion.values, value.WellFormed
  sameLength : insertion.columns.length = insertion.values.length

/-- An insert statement. -/
def wording (mark : Char) (insertion : Insertion) : Wording :=
  .spaced [.word .insert, .word .into, .name insertion.table,
    .inParens (.listed (insertion.columns.map .column)), .word .values,
    .inParens (.listed (insertion.values.map (Constant.wording mark)))]

end Insertion

namespace Deletion

/-- What makes a delete statement one that can be written. -/
structure WellFormed (deletion : Deletion) : Prop where
  table : isName deletion.table = true
  conditions : ∀ condition ∈ deletion.conditions, isColumn condition.field = true

/-- A delete statement. -/
def wording (mark : Char) (deletion : Deletion) : Wording :=
  .spaced <|
    [.word .delete, .word .from, .name deletion.table] ++
    whereParts mark deletion.conditions

end Deletion

namespace Statement

/-- What makes a statement one that can be written. -/
def WellFormed : Statement → Prop
  | select query => query.WellFormed
  | insert insertion => insertion.WellFormed
  | delete deletion => deletion.WellFormed

/-- A statement, with every text between two of the given quotes. -/
def wording (mark : Char) : Statement → Wording
  | select query => query.wording mark
  | insert insertion => insertion.wording mark
  | delete deletion => deletion.wording mark

/-- The text of a statement. -/
def render (mark : Char) (statement : Statement) : String :=
  (statement.wording mark).text

/-- The tokens of a statement. -/
def tokens (mark : Char) (statement : Statement) : List Token :=
  (statement.wording mark).tokens

end Statement

end TableQuery
