import Mathlib.Control.Monad.Basic
import TableQuery.Proofs.ParsedStatement
import TableQuery.Proofs.StatementRoundTrip

/-!
The canonical text of a statement that was read.

Whatever text a statement is read from, it can be written: its names are names, its columns are
made of them, and its lists are not empty where the grammar has no empty list
(`Statement.parsed_of_ofText`). So it has a canonical text, with its clauses in the order of the
grammar and every literal in quotes, and this text is read as the same statement
(`Statement.ofText_canonical`). Two texts that are read as one statement have one canonical text.
-/

namespace TableQuery

/-! ## Columns of a statement -/

/-- One name, or the names of a table and of a column with a dot between them. -/
def IsColumnName (column : String) : Prop :=
  isName column = true ∨
    ∃ table name, isName table = true ∧ isName name = true ∧ column = qualified table name

/-- The columns that an item names. -/
def Expression.columns : Expression → List String
  | all => []
  | column name => [name]
  | call _ operand => if operand = "*" then [] else [operand]

/-- The two sides of the join of a statement, if it has one. -/
def Query.joinSides (query : Query) : List String :=
  query.join.toList.flatMap fun join => [join.left, join.right]

/-- The columns that a select statement names, in any of its clauses. -/
def Query.columns (query : Query) : List String :=
  query.fields.flatMap Expression.columns ++ query.joinSides ++
    query.conditions.map Condition.field ++ query.groupBy.getD [] ++
    (query.orderBy.getD []).flatMap fun key => (Expression.ofLabel key.1).columns

namespace Statement

/-- The columns that a statement names. -/
def columns : Statement → List String
  | select query => query.columns
  | insert insertion => insertion.columns
  | delete deletion => deletion.conditions.map Condition.field

/-- The sides of the join of a statement. -/
def joinSides : Statement → List String
  | select query => query.joinSides
  | _ => []

end Statement

/-- The items of a select list that can be written name columns only. -/
theorem Expression.isColumnName {item : Expression} (written : item.wellFormed = true)
    {column : String} (member : column ∈ item.columns) : IsColumnName column := by
  cases item with
  | all => cases member
  | column name =>
    cases List.mem_singleton.mp member
    exact isColumn_cases written
  | call function operand =>
    rw [Expression.wellFormed, Bool.and_eq_true, Bool.or_eq_true, beq_iff_eq] at written
    rw [Expression.columns] at member
    split at member
    · cases member
    · rename_i different
      cases List.mem_singleton.mp member
      exact isColumn_cases (written.2.resolve_left different)

namespace Query.WellFormed

variable {query : Query} (wellFormed : query.WellFormed)

include wellFormed

theorem joinSide {side : String} (member : side ∈ query.joinSides) :
    isColumn side = true ∧ '.' ∈ side.toList := by
  obtain ⟨join, given, isSide⟩ := List.mem_flatMap.mp member
  exact wellFormed.joinSides join (Option.mem_toList.mp given) side isSide

theorem isColumnName {column : String} (member : column ∈ query.columns) :
    IsColumnName column := by
  simp only [Query.columns, List.mem_append, List.mem_flatMap, List.mem_map] at member
  rcases member with (((⟨item, given, named⟩ | side) | ⟨condition, given, rfl⟩) | grouped) |
    ⟨key, given, named⟩
  · exact Expression.isColumnName (wellFormed.fields item given) named
  · exact isColumn_cases (wellFormed.joinSide side).1
  · exact isColumn_cases (wellFormed.conditions condition given)
  · cases groupBy : query.groupBy with
    | none =>
      rw [groupBy] at grouped
      cases grouped
    | some fields =>
      rw [groupBy] at grouped
      exact isColumn_cases ((wellFormed.groupBy fields groupBy).2 column grouped)
  · cases orderBy : query.orderBy with
    | none =>
      rw [orderBy] at given
      cases given
    | some keys =>
      rw [orderBy] at given
      have sortable := (wellFormed.orderBy keys orderBy).2 key given
      rw [isSortField, Bool.and_eq_true] at sortable
      exact Expression.isColumnName sortable.1 named

end Query.WellFormed

theorem Statement.WellFormed.isColumnName {statement : Statement}
    (wellFormed : statement.WellFormed) {column : String} (member : column ∈ statement.columns) :
    IsColumnName column := by
  cases statement with
  | select query => exact Query.WellFormed.isColumnName wellFormed member
  | insert insertion =>
    exact isColumn_cases (Insertion.WellFormed.columns wellFormed column member)
  | delete deletion =>
    obtain ⟨condition, given, rfl⟩ := List.mem_map.mp member
    exact isColumn_cases (Deletion.WellFormed.conditions wellFormed condition given)

/-- A column with a dot has only one. -/
theorem count_dot_of_isColumn {column : String} (written : isColumn column = true)
    (dotted : '.' ∈ column.toList) : column.toList.count '.' = 1 := by
  have undotted {name : String} (named : isName name = true) : name.toList.count '.' = 0 :=
    List.count_eq_zero.mpr (not_mem_of_isName named (by decide))
  rcases isColumn_cases written with named | ⟨table, name, first, second, rfl⟩
  · exact absurd dotted (not_mem_of_isName named (by decide))
  · rw [toList_qualified, List.count_append, List.count_cons_self, undotted first, undotted second]

theorem Statement.WellFormed.count_dot {statement : Statement}
    (wellFormed : statement.WellFormed) {side : String} (member : side ∈ statement.joinSides) :
    side.toList.count '.' = 1 := by
  cases statement with
  | select query =>
    obtain ⟨written, dotted⟩ := Query.WellFormed.joinSide wellFormed member
    exact count_dot_of_isColumn written dotted
  | insert insertion => cases member
  | delete deletion => cases member

/-! ## Canonical texts -/

/-- The canonical text of a statement that can be read is read as this statement. -/
theorem Statement.Parsed.reads_canonical {statement : Statement} (parsed : statement.Parsed)
    {mark : Char} (quote : Token.isQuote mark = true) {ending : String}
    (closing : ending ∈ ["", ";"]) :
    Statement.ofText (statement.render mark ++ ending) = .ok statement := by
  have bare : statement.bareColumns = true := by
    cases statement with
    | insert insertion => exact List.all_eq_true.mpr (parsed.bareColumns insertion rfl)
    | select query => rfl
    | delete deletion => rfl
  obtain ⟨tokens, scanned, closed⟩ := scan?_render quote parsed.wellFormed closing
  rw [ofText, Token.ofText, scanned]
  exact (ofTokens_tokens parsed.wellFormed closed).trans (if_pos bare)

/-- Every statement that is read from a text can be written: all of its columns are names or
pairs of names, those that are joined are pairs, and its canonical text is read as the same
statement. -/
theorem Statement.ofText_canonical {sql : String} {statement : Statement}
    (read : ofText sql = .ok statement) :
    statement.Parsed ∧
      (∀ column ∈ statement.columns, IsColumnName column) ∧
      (∀ side ∈ statement.joinSides, side.toList.count '.' = 1) ∧
      ∀ mark, Token.isQuote mark = true → ∀ ending ∈ ["", ";"],
        ofText (statement.render mark ++ ending) = .ok statement := by
  have parsed := parsed_of_ofText read
  exact ⟨parsed, fun _ member => parsed.wellFormed.isColumnName member,
    fun _ member => parsed.wellFormed.count_dot member,
    fun _ quote _ closing => parsed.reads_canonical quote closing⟩

/-- A text in mixed case with its limit before the conditions, `OR` between these, a bare word for
a literal and quotes of the other kind: its canonical text is another one. -/
theorem Statement.ofText_canonical_limitFirst :
    let sql := "select Distinct t.a,sum(b) FROM t LEFT join u on t.a=u.a limit 3 " ++
      "WHERE b like \x22it's\x22 or c<>x GROUP BY t.a ORDER BY sum(b) desc;"
    let query : Query := {
      fields := [.column "t.a", .call "sum" "b"], table := "t"
      join := some ⟨.left, "u", "t.a", "u.a"⟩
      conditions := [⟨"b", .like, "it's"⟩, ⟨"c", .notEqual, "x"⟩]
      groupBy := some ["t.a"], orderBy := some [("sum(b)", .desc)]
      limit := some 3, distinct := true, aggregatesAll := false }
    ofText sql = .ok (.select query) ∧ (select query).Parsed ∧
      query.columns = ["t.a", "b", "t.a", "u.a", "b", "c", "t.a", "b"] ∧
      (∀ column ∈ query.columns, IsColumnName column) ∧
      ofText ("SELECT DISTINCT t.a, sum(b) FROM t LEFT JOIN u ON t.a = u.a " ++
        "WHERE b LIKE 'it''s' AND c != 'x' GROUP BY t.a ORDER BY sum(b) DESC LIMIT 3") =
          .ok (.select query) := by
  intro sql query
  have read : ofText sql = .ok (.select query) := by decide +kernel
  obtain ⟨parsed, columns, -, again⟩ := ofText_canonical read
  have text : (select query).render '\x27' ++ "" =
      "SELECT DISTINCT t.a, sum(b) FROM t LEFT JOIN u ON t.a = u.a " ++
        "WHERE b LIKE 'it''s' AND c != 'x' GROUP BY t.a ORDER BY sum(b) DESC LIMIT 3" := by
    decide +kernel
  have canonical := again '\x27' (by decide) "" (by decide)
  rw [text] at canonical
  exact ⟨read, parsed, by decide +kernel, columns, canonical⟩

end TableQuery
