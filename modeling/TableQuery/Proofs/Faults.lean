import TableQuery.Proofs.ParsedStatement
import TableQuery.Proofs.StatementEffect

/-!
The faults that a statement text can have.

A text that is not read is at fault as a text, and a step on rows is at fault for a name it
does not find or a cell it cannot count: `Fault.Ordinary` says which faults these are. What
else the steps report as internal is kept out by what the reader has made sure of, known
aggregate functions and as many values as columns, and by the plan, whose steps are only
put on steps that give rows. What is left is a table that is not there
(`Session.internal_fault`).
-/

namespace TableQuery

open Phrase Clause

/-! ## Steps with some faults only -/

/-- The faults of texts and of steps on rows. -/
inductive Fault.Ordinary : Fault → Prop
  | parse (fault : ParseFault) : Ordinary (.parse fault)
  | field (fault : FieldFault) : Ordinary (.field fault)
  | operator (text : String) : Ordinary (.operator text)
  | notNumeric (operand : String) : Ordinary (.internal (.notNumeric operand))

/-- A step that has only some of the faults, if any. -/
def FaultsIn {α : Type} (allowed : Fault → Prop) (step : Except Fault α) : Prop :=
  ∀ fault, step = .error fault → allowed fault

namespace FaultsIn

variable {α β : Type} {allowed more : Fault → Prop} {step : Except Fault α}

theorem ok (a : α) : FaultsIn allowed (.ok a) := nofun

theorem error {fault : Fault} (given : allowed fault) :
    FaultsIn allowed (.error fault : Except Fault α) := by
  intro other same
  cases same
  exact given

theorem parse (fault : ParseFault) :
    FaultsIn Fault.Ordinary (.error (.parse fault) : Except Fault α) :=
  error (.parse fault)

theorem mono (faults : FaultsIn allowed step) (fewer : ∀ fault, allowed fault → more fault) :
    FaultsIn more step :=
  fun fault failed => fewer fault (faults fault failed)

theorem bind {next : α → Except Fault β} (first : FaultsIn allowed step)
    (later : ∀ a, step = .ok a → FaultsIn allowed (next a)) : FaultsIn allowed (step >>= next) := by
  cases step with
  | error fault =>
    intro other same
    cases same
    exact first fault rfl
  | ok a => exact later a rfl

theorem map (f : α → β) (faults : FaultsIn allowed step) : FaultsIn allowed (step.map f) := by
  cases step with
  | error fault =>
    intro other same
    cases same
    exact faults fault rfl
  | ok a => exact ok (f a)

theorem mapM {each : α → Except Fault β} {xs : List α}
    (faults : ∀ x ∈ xs, FaultsIn allowed (each x)) : FaultsIn allowed (xs.mapM each) := by
  induction xs with
  | nil => exact ok []
  | cons x xs ih =>
    rw [List.mapM_cons]
    refine (faults x List.mem_cons_self).bind fun y _ => ?_
    refine (ih fun other member => faults other (List.mem_cons_of_mem _ member)).bind fun ys _ => ?_
    exact ok (y :: ys)

theorem forM {each : α → Except Fault Unit} (faults : ∀ x, FaultsIn allowed (each x))
    (xs : List α) : FaultsIn allowed (xs.forM each) := by
  induction xs with
  | nil => exact ok ()
  | cons x xs ih => exact (faults x).bind fun _ _ => ih

theorem foldlM {each : β → α → Except Fault β} {xs : List α}
    (faults : ∀ b, ∀ a ∈ xs, FaultsIn allowed (each b a)) (start : β) :
    FaultsIn allowed (xs.foldlM each start) := by
  induction xs generalizing start with
  | nil => exact ok start
  | cons x xs ih =>
    rw [List.foldlM_cons]
    refine (faults start x List.mem_cons_self).bind fun next _ => ?_
    exact ih (fun b a member => faults b a (List.mem_cons_of_mem _ member)) next

end FaultsIn

/-! ## Reading a text -/

namespace Phrase

theorem finish_faults (tokens : List Token) : FaultsIn Fault.Ordinary (finish tokens) := by
  cases tokens with
  | nil => exact .ok ()
  | cons token rest => exact .parse _

theorem expect_faults (expected : Token) (tokens : List Token) :
    FaultsIn Fault.Ordinary (expect expected tokens) := by
  unfold expect
  split
  · exact .parse _
  · split
    · exact .ok _
    · exact .parse _

theorem ident_faults (tokens : List Token) : FaultsIn Fault.Ordinary (ident tokens) := by
  unfold ident
  split
  · exact .parse _
  · exact .ok _
  · exact .parse _

theorem columnEnd_faults (first : String) (tokens : List Token) :
    FaultsIn Fault.Ordinary (columnEnd first tokens) := by
  unfold columnEnd
  split
  · exact (ident_faults _).bind fun _ _ => .ok _
  · exact .ok _

theorem column_faults (tokens : List Token) : FaultsIn Fault.Ordinary (column tokens) :=
  (ident_faults tokens).bind fun found _ => columnEnd_faults found.1 found.2

theorem qualifiedColumn_faults (tokens : List Token) :
    FaultsIn Fault.Ordinary (qualifiedColumn tokens) := by
  refine (column_faults tokens).bind fun found _ => ?_
  dsimp only
  split
  · exact .ok _
  · exact .parse _

theorem operand_faults (tokens : List Token) : FaultsIn Fault.Ordinary (operand tokens) := by
  unfold operand
  split
  · exact .ok _
  · exact column_faults _

theorem expression_faults (tokens : List Token) : FaultsIn Fault.Ordinary (expression tokens) := by
  unfold expression
  split
  · exact .parse _
  · exact .ok _
  · split
    · exact .parse _
    · refine (operand_faults _).bind fun found _ => ?_
      exact (expect_faults _ found.2).bind fun _ _ => .ok _
  · exact (columnEnd_faults _ _).bind fun _ _ => .ok _
  · exact .parse _

theorem constant_faults (tokens : List Token) : FaultsIn Fault.Ordinary (constant tokens) := by
  unfold constant
  split <;> first | exact .ok _ | exact .parse _

section Lists

variable {α : Type} {phrase : List Token → Except Fault (α × List Token)}

theorem separated_faults (faults : ∀ tokens, FaultsIn Fault.Ordinary (phrase tokens))
    (consumes : Consumes phrase) (tokens : List Token) :
    FaultsIn Fault.Ordinary (separated phrase consumes tokens) := by
  fun_induction separated phrase @consumes tokens with
  | case1 tokens fault failed => exact .error (faults tokens fault failed)
  | case2 tokens first rest read _ fault failed ih => exact .error (ih fault failed)
  | case3 => exact .ok _
  | case4 => exact .ok _

theorem parenthesized_faults (faults : ∀ tokens, FaultsIn Fault.Ordinary (phrase tokens))
    (consumes : Consumes phrase) (tokens : List Token) :
    FaultsIn Fault.Ordinary (parenthesized phrase consumes tokens) := by
  refine (expect_faults _ tokens).bind fun rest _ => ?_
  refine (separated_faults faults consumes rest).bind fun found _ => ?_
  dsimp only
  split
  · exact .parse _
  · exact .ok _
  · exact .parse _

end Lists

end Phrase

namespace Clause

theorem takeLimit_faults (tokens : List Token) : FaultsIn Fault.Ordinary (takeLimit tokens) := by
  unfold takeLimit
  split
  · exact .ok _
  · exact .parse _
  · split
    · exact .ok _
    · exact .parse _
  · exact .parse _

theorem direction_faults (tokens : List Token) : FaultsIn Fault.Ordinary (direction tokens) := by
  unfold direction
  split <;> first | exact .ok _ | exact .parse _

theorem sortKey_faults (tokens : List Token) : FaultsIn Fault.Ordinary (sortKey tokens) := by
  refine (expression_faults tokens).bind fun found _ => ?_
  dsimp only
  split
  · exact .parse _
  · refine (direction_faults found.2).bind fun ordered _ => ?_
    exact (finish_faults ordered.2).bind fun _ _ => .ok _

theorem takeOrderBy_faults (tokens : List Token) :
    FaultsIn Fault.Ordinary (takeOrderBy tokens) := by
  unfold takeOrderBy
  split
  · exact .ok _
  · exact (FaultsIn.mapM fun segment _ => sortKey_faults segment).bind fun _ _ => .ok _

theorem groupField_faults (tokens : List Token) : FaultsIn Fault.Ordinary (groupField tokens) :=
  (column_faults tokens).bind fun found _ => (finish_faults found.2).bind fun _ _ => .ok _

theorem takeGroupBy_faults (tokens : List Token) :
    FaultsIn Fault.Ordinary (takeGroupBy tokens) := by
  unfold takeGroupBy
  split
  · exact .ok _
  · exact (FaultsIn.mapM fun segment _ => groupField_faults segment).bind fun _ _ => .ok _

theorem condition_faults (tokens : List Token) : FaultsIn Fault.Ordinary (condition tokens) := by
  unfold condition
  split
  · split
    · exact .error (.operator _)
    · split
      · exact .ok _
      · exact .parse _
  · exact .parse _

theorem conditions_faults (tokens : List Token) : FaultsIn Fault.Ordinary (conditions tokens) := by
  unfold conditions
  split
  · exact .parse _
  · exact FaultsIn.mapM fun segment _ => condition_faults segment

theorem takeRestriction_faults (tokens : List Token) :
    FaultsIn Fault.Ordinary (takeRestriction tokens) := by
  unfold takeRestriction
  split
  · refine (takeGroupBy_faults _).bind fun grouped _ => ?_
    exact (conditions_faults grouped.2).bind fun _ _ => .ok _
  · exact (takeGroupBy_faults _).bind fun _ _ => .ok _

theorem join_faults (tokens : List Token) : FaultsIn Fault.Ordinary (join tokens) := by
  unfold join
  split
  · exact .parse _
  · split
    · exact .parse _
    · refine (expect_faults _ _).bind fun rest _ => ?_
      refine (ident_faults rest).bind fun table _ => ?_
      refine (expect_faults _ table.2).bind fun rest _ => ?_
      refine (qualifiedColumn_faults rest).bind fun left _ => ?_
      refine (expect_faults _ left.2).bind fun rest _ => ?_
      refine (qualifiedColumn_faults rest).bind fun right _ => ?_
      exact (finish_faults right.2).bind fun _ _ => .ok _

theorem takeJoin_faults (tokens : List Token) : FaultsIn Fault.Ordinary (takeJoin tokens) := by
  unfold takeJoin
  dsimp only
  split
  · refine FaultsIn.bind (.ok _) fun found _ => ?_
    split
    · exact .ok _
    · exact .parse _
  · refine (join_faults _).bind fun clause _ => FaultsIn.bind (.ok _) fun found _ => ?_
    split
    · exact .ok _
    · exact .parse _

end Clause

theorem Query.ofTokens_faults (tokens : List Token) :
    FaultsIn Fault.Ordinary (Query.ofTokens tokens) := by
  refine (takeLimit_faults _).bind fun limit _ => ?_
  refine (takeOrderBy_faults limit.2).bind fun orderBy _ => ?_
  refine (takeRestriction_faults orderBy.2).bind fun restriction _ => ?_
  refine (takeJoin_faults restriction.2).bind fun join _ => ?_
  refine (expect_faults _ join.2).bind fun rest _ => ?_
  refine (separated_faults expression_faults _ rest).bind fun fields _ => ?_
  refine (expect_faults _ fields.2).bind fun rest _ => ?_
  refine (ident_faults rest).bind fun table _ => ?_
  exact (finish_faults table.2).bind fun _ _ => .ok _

theorem Insertion.ofTokens_faults (tokens : List Token) :
    FaultsIn Fault.Ordinary (Insertion.ofTokens tokens) := by
  refine (expect_faults _ tokens).bind fun rest _ => ?_
  refine (expect_faults _ rest).bind fun rest _ => ?_
  refine (ident_faults rest).bind fun table _ => ?_
  refine (parenthesized_faults ident_faults _ table.2).bind fun columns _ => ?_
  refine (expect_faults _ columns.2).bind fun rest _ => ?_
  refine (parenthesized_faults constant_faults _ rest).bind fun values _ => ?_
  refine (finish_faults values.2).bind fun _ _ => ?_
  split
  · exact .ok _
  · exact .parse _

theorem Deletion.ofTokens_faults (tokens : List Token) :
    FaultsIn Fault.Ordinary (Deletion.ofTokens tokens) := by
  refine (expect_faults _ tokens).bind fun rest _ => ?_
  refine (expect_faults _ rest).bind fun rest _ => ?_
  refine (ident_faults rest).bind fun table _ => ?_
  dsimp only
  split
  · exact (conditions_faults _).bind fun _ _ => .ok _
  · exact (finish_faults _).bind fun _ _ => .ok _

/-- A text that is not read as a statement is at fault as a text. -/
theorem Statement.ofText_faults (sql : String) :
    FaultsIn Fault.Ordinary (Statement.ofText sql) := by
  have scanned : FaultsIn Fault.Ordinary (Token.ofText sql) := by
    unfold Token.ofText
    split
    · exact .ok _
    · exact .parse _
  refine scanned.bind fun tokens _ => ?_
  unfold ofTokens
  split
  · exact .parse _
  · exact (Query.ofTokens_faults _).map _
  · exact (Insertion.ofTokens_faults _).map _
  · exact (Deletion.ofTokens_faults _).map _
  · exact .parse _

/-! ## Steps on rows -/

theorem Row.lookup_faults (row : Row) (name : String) :
    FaultsIn Fault.Ordinary (row.lookup name) := by
  unfold lookup
  split
  · exact .ok _
  · exact .error (.field _)

theorem Condition.evaluateAll_faults (row : Row) (conditions : List Condition) :
    FaultsIn Fault.Ordinary (evaluateAll row conditions) := by
  induction conditions with
  | nil => exact .ok true
  | cons condition rest ih =>
    have evaluated : FaultsIn Fault.Ordinary (condition.evaluate row) :=
      (row.lookup_faults condition.field).map condition.test
    unfold evaluateAll
    split
    · exact ih
    · exact .ok false
    · rename_i fault failed
      exact .error (evaluated fault failed)

theorem splitRows_faults (conditions : List Condition) (rows : List Row) :
    FaultsIn Fault.Ordinary (splitRows conditions rows) := by
  induction rows with
  | nil => exact .ok _
  | cons row rest ih =>
    refine (Condition.evaluateAll_faults row conditions).bind fun holds _ => ?_
    exact ih.bind fun _ _ => .ok _

theorem JoinLayout.resolve_faults (base other : Table) (field : String) :
    FaultsIn Fault.Ordinary (resolve base other field) := by
  unfold resolve
  dsimp only
  split
  · exact .ok _
  · exact .error (.field _)

theorem JoinLayout.ofTables_faults (base other : Table) (join : Join) (fields : List String) :
    FaultsIn Fault.Ordinary (ofTables base other join fields) := by
  have placed (label : String) : FaultsIn Fault.Ordinary ((resolve base other label).map
      fun place => JoinField.mk label place.1 place.2) :=
    (resolve_faults base other label).map _
  have labels := FaultsIn.mapM fun label (_ : label ∈ fields) => placed label
  refine (resolve_faults base other join.left).bind fun left _ => ?_
  refine (resolve_faults base other join.right).bind fun right _ => ?_
  dsimp only
  split
  · exact labels.bind fun _ _ => .ok _
  · exact labels.bind fun _ _ => .ok _
  · exact .error (.field _)

section Counting

variable {allowed : Fault → Prop} {row : Row} {aggregates : List Aggregate} {names : List String}

/-- Counting the cells of a row has the faults of reading the operands, and that a cell is no
number. -/
theorem Accumulator.addCells_faults
    (uncounted : ∀ operand, allowed (.internal (.notNumeric operand)))
    (read : ∀ aggregate ∈ aggregates, aggregate.operand ≠ "*" →
      FaultsIn allowed (row.lookup aggregate.operand)) (seen : List String) (tallies : Tallies) :
    FaultsIn allowed (addCells row seen tallies aggregates).2 := by
  induction aggregates generalizing seen tallies with
  | nil => exact .ok ()
  | cons aggregate rest ih =>
    have later := ih fun other member => read other (List.mem_cons_of_mem _ member)
    unfold addCells
    dsimp only
    split
    · split
      · exact .error (uncounted _)
      · exact later seen tallies
    · rename_i notStar
      split
      · rename_i fault missing
        exact .error (read aggregate List.mem_cons_self notStar fault missing)
      · split
        · exact later seen tallies
        · split
          · exact later _ tallies
          · exact later _ _
          · exact .error (uncounted _)

theorem Group.place_faults
    (added : ∀ state : Accumulator, FaultsIn allowed (state.addRow? aggregates row))
    (values : List Value) (groups : List Group) :
    FaultsIn allowed (place aggregates values row groups) := by
  induction groups with
  | nil => exact (added _).bind fun _ _ => .ok _
  | cons group groups ih =>
    unfold place
    split
    · exact (added _).bind fun _ _ => .ok _
    · exact ih.bind fun _ _ => .ok _

variable {items : List Expression}

/-- The functions of items that were read are known. -/
theorem Aggregate.ofItems_faults (written : ∀ item ∈ items, item.wellFormed = true) :
    FaultsIn allowed (ofItems items) := by
  refine FaultsIn.bind (FaultsIn.mapM fun item member => ?_) fun _ _ => .ok _
  cases item with
  | all => exact .ok none
  | column name => exact .ok none
  | call function operand =>
    have known := written _ member
    rw [Expression.wellFormed, Bool.and_eq_true] at known
    obtain ⟨found, isFunction⟩ := Option.isSome_iff_exists.mp known.1
    rw [ofExpression?, isFunction]
    exact .ok _

theorem Accumulator.addRow?_faults (known : Aggregate.ofItems items = .ok aggregates)
    (uncounted : ∀ operand, allowed (.internal (.notNumeric operand)))
    (operands : ReadsOperands items names)
    (read : ∀ name ∈ names, FaultsIn allowed (row.lookup name)) (state : Accumulator) :
    FaultsIn allowed (state.addRow? aggregates row) := by
  refine (addCells_faults uncounted (fun aggregate member notStar => ?_) [] state.tallies).map _
  obtain ⟨function, _, operand, call, _, rfl⟩ := (Aggregate.mem_ofItems known).2 _ member
  exact read operand (operands function operand call notStar)

variable {rows : List Row}

theorem aggregateRow_faults (written : ∀ item ∈ items, item.wellFormed = true)
    (uncounted : ∀ operand, allowed (.internal (.notNumeric operand)))
    (operands : ReadsOperands items names)
    (read : ∀ row ∈ rows, ∀ name ∈ names, FaultsIn allowed (row.lookup name)) :
    FaultsIn allowed (aggregateRow rows items) := by
  refine (Aggregate.ofItems_faults written).bind fun aggregates known => ?_
  refine FaultsIn.bind (FaultsIn.foldlM (fun state row member => ?_) Accumulator.start)
    fun _ _ => .ok _
  exact state.addRow?_faults known uncounted operands (read row member)

theorem groupRows_faults (written : ∀ item ∈ items, item.wellFormed = true)
    (uncounted : ∀ operand, allowed (.internal (.notNumeric operand)))
    (operands : ReadsOperands items names) {fields : List String}
    (grouped : ∀ field ∈ fields, field ∈ names)
    (read : ∀ row ∈ rows, ∀ name ∈ names, FaultsIn allowed (row.lookup name)) :
    FaultsIn allowed (groupRows rows fields items) := by
  refine (Aggregate.ofItems_faults written).bind fun aggregates known => ?_
  refine FaultsIn.bind (FaultsIn.foldlM (fun groups row member => ?_) []) fun _ _ => .ok _
  refine FaultsIn.bind (FaultsIn.mapM fun field inFields =>
    read row member field (grouped field inFields)) fun values _ => ?_
  exact Group.place_faults
    (Accumulator.addRow?_faults known uncounted operands (read row member)) values groups

end Counting

section Reading

variable {allowed : Fault → Prop}

theorem sortRows_faults {keys : List SortKey} {rows : List Row}
    (read : ∀ row ∈ rows, ∀ key ∈ keys, FaultsIn allowed (row.lookup key.1)) :
    FaultsIn allowed (sortRows keys rows) := by
  refine FaultsIn.bind (FaultsIn.mapM fun row member => ?_) fun _ _ => .ok _
  refine FaultsIn.bind (FaultsIn.mapM fun key given => ?_) fun _ _ => .ok _
  exact (read row member key given).map _

theorem projectRow_faults {labels : List String} {row : Row}
    (read : ∀ label ∈ labels, FaultsIn allowed (row.lookup label)) :
    FaultsIn allowed (projectRow labels row) :=
  (FaultsIn.mapM fun label member => (read label member).map _).bind fun _ _ => .ok _

end Reading

/-! ## Select statements -/

theorem Rows.optionally_faults {α : Type} {allowed : Fault → Prop}
    {step : α → Rows → Except Fault Rows} {clause : Option α} {source : Rows}
    (faults : ∀ a, clause = some a → FaultsIn allowed (step a source)) :
    FaultsIn allowed (optionally step clause source) := by
  cases clause with
  | none => exact .ok source
  | some a => exact faults a rfl

namespace Query

variable {query : Query}

theorem checkGroups_faults {allowed : Fault → Prop} (refused : ∀ cause, allowed (.parse cause))
    (query : Query) : FaultsIn allowed query.checkGroups := by
  have check (groupBy : List String) (item : Expression) :
      FaultsIn allowed (checkGrouped groupBy item) := by
    unfold checkGrouped
    split
    · exact .error (refused _)
    · split
      · exact .ok _
      · exact .error (refused _)
    · exact .ok _
  unfold checkGroups
  split
  · exact FaultsIn.forM (check _) _
  · exact .ok _

theorem arranged_faults (query : Query) (source : Rows) :
    FaultsIn Fault.Ordinary (query.arranged source) := by
  have sorted (source : Rows) :
      FaultsIn Fault.Ordinary (Rows.optionally Rows.ordered query.orderBy source) :=
    Rows.optionally_faults fun keys _ =>
      (sortRows_faults fun row _ key _ => row.lookup_faults key.1).bind fun _ _ => .ok _
  have cut (source : Rows) :
      FaultsIn Fault.Ordinary (Rows.optionally Rows.limited query.limit source) :=
    Rows.optionally_faults fun _ _ => .ok _
  have distinct (source : Rows) : FaultsIn Fault.Ordinary (query.deduplicated source) := by
    unfold deduplicated
    split
    · exact .ok _
    · exact .ok _
  have projected (source : Rows) : FaultsIn Fault.Ordinary (query.selected source) := by
    unfold selected
    split
    · exact .ok _
    · refine FaultsIn.bind (FaultsIn.mapM fun row _ => ?_) fun _ _ => .ok _
      exact projectRow_faults fun label _ => row.lookup_faults label
  refine (sorted source).bind fun ordered _ => ?_
  refine (cut ordered).bind fun limited _ => ?_
  exact (distinct limited).bind fun unlike _ => projected unlike

/-- What a select does with the rows of its source has only the faults of steps on rows. -/
theorem afterSource_faults (wellFormed : query.WellFormed) (source : Rows) :
    FaultsIn Fault.Ordinary (query.afterSource source) := by
  have met : FaultsIn Fault.Ordinary (Rows.filtered query.conditions source) :=
    (splitRows_faults _ source.rows).bind fun _ _ => .ok _
  refine met.bind fun kept _ => ?_
  split
  · exact (aggregateRow_faults wellFormed.fields .notNumeric query.readsOperands
      fun row _ name _ => row.lookup_faults name).bind fun _ _ => .ok _
  · refine FaultsIn.bind (Rows.optionally_faults fun fields grouped => ?_) fun grouped _ =>
      query.arranged_faults grouped
    exact (groupRows_faults wellFormed.fields .notNumeric query.readsOperands
      (fun _ => mem_referencedFields_of_group grouped)
      fun row _ name _ => row.lookup_faults name).bind fun _ _ => .ok _

end Query

/-! ## Statement texts -/

namespace MemoryStore

/-- The faults of a statement text: the ordinary ones, and that a table is not stored. -/
def Explains (store : MemoryStore) (fault : Fault) : Prop :=
  fault.Ordinary ∨ ∃ name, fault = .internal (.noTable name) ∧ store.tables.get? name = none

variable {store : MemoryStore} {α : Type} {step : Except Fault α}

theorem explains_of_ordinary (faults : FaultsIn Fault.Ordinary step) :
    FaultsIn store.Explains step :=
  faults.mono fun _ => Or.inl

theorem read_faults (store : MemoryStore) (name : String) :
    FaultsIn store.Explains (Store.read store name) := by
  show FaultsIn store.Explains (store.read name)
  unfold read
  split
  · exact .ok _
  · rename_i missing
    exact .error (Or.inr ⟨name, rfl, missing⟩)

theorem scanTable_faults (store : MemoryStore) (name : String) :
    FaultsIn store.Explains (Plan.scanTable store name) :=
  (store.read_faults name).map _

theorem sourceRows_faults (store : MemoryStore) (query : Query) :
    FaultsIn store.Explains (query.sourceRows store) := by
  unfold Query.sourceRows
  split
  · exact store.scanTable_faults _
  · refine (store.scanTable_faults query.table).bind fun base _ => ?_
    refine (store.scanTable_faults _).bind fun other _ => ?_
    exact explains_of_ordinary ((JoinLayout.ofTables_faults _ _ _ _).bind fun _ _ => .ok _)

theorem deleteFrom_faults (store : MemoryStore) (name : String) (conditions : List Condition) :
    FaultsIn store.Explains (Plan.deleteFrom store name conditions) := by
  refine (store.read_faults name).bind fun table _ => ?_
  refine FaultsIn.bind ?_ fun _ _ => .ok _
  rw [Table.deleteRows_eq]
  exact (explains_of_ordinary (splitRows_faults conditions table.rows)).map _

/-- An insert that was read has as many values as columns. -/
theorem insertInto_faults (store : MemoryStore) {insertion : Insertion}
    (wellFormed : insertion.WellFormed) :
    FaultsIn store.Explains (Plan.insertInto store insertion.table insertion.columns
      (insertion.values.map Constant.toValue)) := by
  have sameLength : ¬ insertion.columns.length ≠
      (insertion.values.map Constant.toValue).length := by
    simpa using wellFormed.sameLength
  have made (table : Table) : FaultsIn Fault.Ordinary
      (table.rowOfValues insertion.columns (insertion.values.map Constant.toValue)) := by
    unfold Table.rowOfValues
    rw [if_neg sameLength]
    split
    · exact .error (.field _)
    · exact .ok _
  refine (store.read_faults _).bind fun table _ => ?_
  refine FaultsIn.bind ?_ fun _ _ => .ok _
  exact (explains_of_ordinary (made _)).bind fun _ _ => .ok _

end MemoryStore

namespace Session

variable {store : MemoryStore} {sql : String}

/-- What fails when a statement text is carried out is the execution, by a fault of the text,
by one of a step on rows, or because a table is not stored. -/
theorem explains_of_error {error : Error} (failed : (executeText store sql).1 = .error error) :
    ∃ fault, error = .execution fault ∧ store.Explains fault := by
  cases parsed : Statement.ofText sql with
  | error fault =>
    rw [executeText_of_error store parsed] at failed
    cases failed
    exact ⟨fault, rfl, Or.inl (Statement.ofText_faults sql fault parsed)⟩
  | ok statement =>
    have wellFormed := (Statement.parsed_of_ofText parsed).wellFormed
    rw [executeText_of_ok store parsed] at failed
    cases statement with
    | select query =>
      have faults : FaultsIn store.Explains
          (query.checkGroups >>= fun _ => query.sourceRows store >>= query.afterSource) := by
        have checks : FaultsIn store.Explains query.checkGroups :=
          MemoryStore.explains_of_ordinary (query.checkGroups_faults .parse)
        refine checks.bind fun _ _ => ?_
        refine (store.sourceRows_faults query).bind fun source _ => ?_
        exact MemoryStore.explains_of_ordinary (Query.afterSource_faults wellFormed source)
      rw [execute_select] at failed
      cases outcome : query.checkGroups >>= fun _ =>
          query.sourceRows store >>= query.afterSource with
      | error fault =>
        rw [outcome] at failed
        cases failed
        exact ⟨fault, rfl, faults fault outcome⟩
      | ok rows =>
        rw [outcome] at failed
        cases failed
    | insert insertion =>
      have faults := store.insertInto_faults wellFormed
      simp only [execute, runStatement_eq, Statement.toPlan, bind, Except.bind, Plan.run] at failed
      split at failed
      · cases failed
      · rename_i fault outcome
        cases failed
        exact ⟨fault, rfl, faults fault outcome⟩
    | delete deletion =>
      have faults := store.deleteFrom_faults deletion.table deletion.conditions
      simp only [execute, runStatement_eq, Statement.toPlan, bind, Except.bind, Plan.run] at failed
      split at failed
      · cases failed
      · rename_i fault outcome
        cases failed
        exact ⟨fault, rfl, faults fault outcome⟩

/-- No statement text breaks an invariant of the steps: an internal fault is that a table is
not stored, or that the operand of an aggregate cannot be counted. -/
theorem internal_fault {error : Error} {fault : InternalFault}
    (failed : (executeText store sql).1 = .error error)
    (isInternal : error.fault = .internal fault) :
    error = .execution (.internal fault) ∧
      ((∃ name, fault = .noTable name ∧ store.tables.get? name = none) ∨
        ∃ operand, fault = .notNumeric operand) := by
  obtain ⟨cause, rfl, explains⟩ := explains_of_error failed
  cases isInternal
  refine ⟨rfl, ?_⟩
  rcases explains with ordinary | ⟨name, same, missing⟩
  · cases ordinary with
    | notNumeric operand => exact Or.inr ⟨operand, rfl⟩
  · cases same
    exact Or.inl ⟨name, rfl, missing⟩

/-- A table that is not stored, and a sum over a cell that is no number. -/
theorem internal_fault_twice :
    let store := MemoryStore.ofTables [Table.ofRecords "t" ["a"] [["x"]]]
    ∃ missing uncounted,
      (executeText store "SELECT * FROM u").1 = .error (.execution (.internal missing)) ∧
      (executeText store "SELECT Sum(a) FROM t").1 =
        .error (.execution (.internal uncounted)) ∧
      ((∃ name, missing = .noTable name ∧ store.tables.get? name = none) ∨
        ∃ operand, missing = .notNumeric operand) ∧
      ((∃ name, uncounted = .noTable name ∧ store.tables.get? name = none) ∨
        ∃ operand, uncounted = .notNumeric operand) := by
  intro store
  have first : (executeText store "SELECT * FROM u").1 =
      .error (.execution (.internal (.noTable "u"))) := by decide +kernel
  have second : (executeText store "SELECT Sum(a) FROM t").1 =
      .error (.execution (.internal (.notNumeric "a"))) := by decide +kernel
  exact ⟨_, _, first, second, (internal_fault first rfl).2, (internal_fault second rfl).2⟩

end Session

end TableQuery
