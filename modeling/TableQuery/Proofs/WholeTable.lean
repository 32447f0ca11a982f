import TableQuery.Proofs.Outcome
import TableQuery.Session
import TableQuery.Store.Memory

/-!
Selecting every column of a table, and deleting its rows.

Both statements cut the rows of the table in two by their conditions. When these can be
evaluated on every row, the cut is a filter and its complement, so what one statement
shows is what the other takes away.
-/

namespace TableQuery

/-! ## Rows that fill a header -/

/-- A row with a cell for each of some columns and for nothing else. -/
def Row.Fills (columns : List String) (row : Row) : Prop :=
  ∀ name, (row.get? name).isSome = true ↔ name ∈ columns

/-- A table whose rows fill its header. -/
def Table.Filled (table : Table) : Prop :=
  ∀ row ∈ table.rows, row.Fills table.columns

theorem Row.fills_ofList {cells : List (String × Value)} {columns : List String}
    (same : ∀ name, name ∈ cells.map (·.1) ↔ name ∈ columns) :
    Row.Fills columns (NameMap.ofList cells) := by
  intro name
  rw [NameMap.ofList, NameMap.isSome_get?_insertAll, ← same name]
  simp

theorem Table.fills_rowOfTexts {columns cells : List String}
    (enough : columns.length ≤ cells.length) : (rowOfTexts columns cells).Fills columns := by
  rw [rowOfTexts_eq]
  refine Row.fills_ofList fun name => ?_
  have named : ((columns.zip cells).map fun entry => (entry.1, Value.text entry.2)).map
      (·.1) = columns := by
    rw [List.map_map]
    exact List.map_fst_zip enough
  rw [named]

/-- A table of records fills its header when no record is short. -/
theorem Table.filled_ofRecords {name : String} {columns : List String}
    {records : List (List String)}
    (enough : ∀ record ∈ records, columns.length ≤ record.length) :
    (Table.ofRecords name columns records).Filled := by
  intro row member
  obtain ⟨record, given, rfl⟩ := List.mem_map.mp member
  exact fills_rowOfTexts (enough record given)

/-- A row that fills a header is projected on itself. -/
theorem projectRow_of_fills {columns : List String} {row : Row} (fills : row.Fills columns) :
    projectRow columns row = .ok row := by
  have cell : ∀ column ∈ columns, (row.lookup column).map (fun value => (column, value)) =
      .ok (column, (row.get? column).getD .null) := by
    intro column member
    obtain ⟨value, found⟩ := Option.isSome_iff_exists.mp ((fills column).mpr member)
    simp only [Row.lookup, Row.lookup?, found]
    rfl
  have same : NameMap.ofList (columns.map fun column => (column, (row.get? column).getD .null)) =
      row := by
    refine NameMap.ofList_eq (fun entry member => ?_) fun name present => ?_
    · obtain ⟨column, given, rfl⟩ := List.mem_map.mp member
      obtain ⟨value, found⟩ := Option.isSome_iff_exists.mp ((fills column).mpr given)
      simp [found]
    · simpa using (fills name).mp present
  rw [projectRow, mapM_eq_ok cell]
  exact congrArg Except.ok same

/-! ## Cutting rows in two -/

namespace Condition

/-- Whether all conditions can be evaluated on a row and hold. -/
def meets (conditions : List Condition) (row : Row) : Bool :=
  match evaluateAll row conditions with
  | .ok holds => holds
  | .error _ => false

/-- All conditions can be evaluated on a row. -/
def Decides (conditions : List Condition) (row : Row) : Prop :=
  evaluateAll row conditions = .ok (meets conditions row)

theorem decides_of_evaluateAll {conditions : List Condition} {row : Row} {holds : Bool}
    (evaluated : evaluateAll row conditions = .ok holds) : Decides conditions row := by
  rw [Decides, meets, evaluated]

theorem evaluateAll_singleton {condition : Condition} {row : Row} {holds : Bool}
    (evaluated : condition.evaluate row = .ok holds) :
    evaluateAll row [condition] = .ok holds := by
  rw [evaluateAll, evaluated]
  cases holds <;> rfl

end Condition

open Condition

theorem splitRows_of_decides {conditions : List Condition} {rows : List Row}
    (decides : ∀ row ∈ rows, Decides conditions row) :
    splitRows conditions rows =
      .ok (rows.filter (meets conditions), rows.filter fun row => !meets conditions row) := by
  induction rows with
  | nil => rfl
  | cons row rest ih =>
    have first := decides row List.mem_cons_self
    have later := ih fun row member => decides row (List.mem_cons_of_mem _ member)
    rw [splitRows, first, later, List.filter_cons, List.filter_cons]
    cases meets conditions row <;> rfl

theorem splitRows_singleton {condition : Condition} {rows : List Row} {picks : Row → Bool}
    (evaluated : ∀ row ∈ rows, condition.evaluate row = .ok (picks row)) :
    splitRows [condition] rows =
      .ok (rows.filter picks, rows.filter fun row => !picks row) := by
  have each : ∀ row ∈ rows, evaluateAll row [condition] = .ok (picks row) :=
    fun row member => evaluateAll_singleton (evaluated row member)
  have same : ∀ row ∈ rows, meets [condition] row = picks row := by
    intro row member
    rw [meets, each row member]
  have opposite : ∀ row ∈ rows, (!meets [condition] row) = !picks row :=
    fun row member => congrArg not (same row member)
  rw [splitRows_of_decides fun row member => decides_of_evaluateAll (each row member),
    List.filter_congr same, List.filter_congr opposite]

/-- Rows that are cut in two are filtered, and the conditions can be evaluated on all
of them. -/
theorem splitRows_eq_ok {conditions : List Condition} {rows kept dropped : List Row}
    (cut : splitRows conditions rows = .ok (kept, dropped)) :
    (∀ row ∈ rows, Decides conditions row) ∧ kept = rows.filter (meets conditions) ∧
      dropped = rows.filter fun row => !meets conditions row := by
  have decides : ∀ row ∈ rows, Decides conditions row := by
    induction rows generalizing kept dropped with
    | nil => exact fun row member => absurd member List.not_mem_nil
    | cons row rest ih =>
      rw [splitRows] at cut
      cases first : evaluateAll row conditions with
      | error fault =>
        rw [first] at cut
        cases cut
      | ok holds =>
        cases later : splitRows conditions rest with
        | error fault =>
          rw [first, later] at cut
          cases cut
        | ok parts =>
          intro found member
          rcases List.mem_cons.mp member with rfl | inRest
          · exact decides_of_evaluateAll first
          · exact ih later found inRest
  rw [splitRows_of_decides decides] at cut
  cases cut
  exact ⟨decides, rfl, rfl⟩

theorem splitRows_nil (rows : List Row) : splitRows [] rows = .ok (rows, []) := by
  have cut : splitRows [] rows =
      .ok (rows.filter fun _ => true, rows.filter fun _ => false) :=
    splitRows_of_decides fun _ _ => rfl
  rw [cut]
  simp

/-- A delete keeps what does not meet the conditions, also when there are none. -/
theorem Table.deleteRows_eq (table : Table) (conditions : List Condition) :
    table.deleteRows conditions = (splitRows conditions table.rows).map fun (dropped, kept) =>
      ({ table with rows := kept }, dropped.length) := by
  unfold deleteRows
  by_cases none : conditions = []
  · subst none
    rw [splitRows_nil]
    rfl
  · rw [if_neg none]
    cases splitRows conditions table.rows <;> rfl

theorem Table.deleteRows_eq_ok {table written : Table} {conditions : List Condition} {count : Nat}
    (deleted : table.deleteRows conditions = .ok (written, count)) :
    (∀ row ∈ table.rows, Decides conditions row) ∧
      written = { table with rows := table.rows.filter fun row => !meets conditions row } ∧
      count = (table.rows.filter (meets conditions)).length := by
  rw [deleteRows_eq] at deleted
  obtain ⟨⟨dropped, kept⟩, cut, same⟩ := map_eq_ok deleted
  cases same
  obtain ⟨decides, rfl, rfl⟩ := splitRows_eq_ok cut
  exact ⟨decides, rfl, rfl⟩

/-! ## The two statements -/

/-- The select statement of every column of a table. -/
def Query.selectAll (table : String) (conditions : List Condition) : Query :=
  { fields := [.all], table, conditions, join := none, groupBy := none, aggregatesAll := false
    orderBy := none, limit := none, distinct := false }

section Statements

variable {σ : Type} [Store σ]

/-- What a select keeps is one cut of the rows of its table. -/
theorem Query.run_planFiltered (store : σ) (name : String) (conditions : List Condition) :
    (Query.selectAll name conditions).planFiltered.run store =
      (Store.read store name >>= fun table => (splitRows conditions table.rows).map
        fun (kept, _) => .rows ⟨table.columns, kept⟩, store) := by
  have steps : (Query.selectAll name conditions).planFiltered =
      if conditions = [] then .scan name else .filter (.scan name) conditions := rfl
  have scan : (Plan.scan name).run store = ((Plan.scanTable store name).map .rows, store) := by
    rw [Plan.run]
  rw [steps]
  by_cases none : conditions = []
  · subst none
    rw [if_pos rfl, scan, Plan.scanTable]
    simp only [splitRows_nil]
    cases Store.read store name <;> rfl
  · rw [if_neg none, Plan.run, scan, Plan.scanTable]
    cases Store.read store name with
    | error fault => rfl
    | ok table =>
      have filtered : Rows.filtered conditions ⟨table.columns, table.rows⟩ =
          (splitRows conditions table.rows).map fun (kept, _) => ⟨table.columns, kept⟩ := by
        rw [Rows.filtered]
        cases splitRows conditions table.rows <;> rfl
      simp only [Plan.andThen, Except.map, Result.toRows, bind, Except.bind, filtered]
      cases splitRows conditions table.rows <;> rfl

theorem Rows.projected_all {columns : List String} {rows : List Row}
    (fill : ∀ row ∈ rows, row.Fills columns) :
    Rows.projected [.all] ⟨columns, rows⟩ = .ok ⟨columns, rows⟩ := by
  have labels : outputColumns columns [.all] = columns := by
    simp [outputColumns]
  have same : rows.mapM (projectRow columns) = .ok (rows.map id) :=
    mapM_eq_ok fun row member => projectRow_of_fills (fill row member)
  rw [Rows.projected, labels, same, List.map_id]
  rfl

/-- A table whose rows fill its header is shown as it is, without the rows that do not
meet the conditions. -/
theorem Session.execute_selectAll {store : σ} {name : String}
    (filled : ∀ table, Store.read store name = .ok table → table.Filled)
    (conditions : List Condition) :
    Session.execute store (.select (.selectAll name conditions)) =
      ((Store.read store name >>= fun table => (splitRows conditions table.rows).map
        fun (kept, _) => .rows ⟨table.columns, kept⟩).mapError .execution, store) := by
  have plan : (Statement.select (.selectAll name conditions)).toPlan =
      .ok (.project (Query.selectAll name conditions).planFiltered [.all]) := rfl
  simp only [execute, runStatement_eq, bind, Except.bind, plan, Plan.run, Query.run_planFiltered]
  cases read : Store.read store name with
  | error fault => rfl
  | ok table =>
    cases cut : splitRows conditions table.rows with
    | error fault =>
      simp only [cut]
      rfl
    | ok parts =>
      obtain ⟨kept, dropped⟩ := parts
      obtain ⟨_, rfl, _⟩ := splitRows_eq_ok cut
      have fill : ∀ row ∈ table.rows.filter (meets conditions), row.Fills table.columns :=
        fun row member => filled table read row (List.mem_filter.mp member).1
      have projected := Rows.projected_all fill
      simp only [cut, Except.map, Plan.andThen, Result.toRows, bind, Except.bind, projected]

/-- A stored table is shown with the rows that meet the conditions. -/
theorem Session.execute_selectAll_of_decides {store : σ} {name : String} {table : Table}
    {conditions : List Condition} (read : Store.read store name = .ok table)
    (filled : table.Filled) (decides : ∀ row ∈ table.rows, Decides conditions row) :
    Session.execute store (.select (.selectAll name conditions)) =
      (.ok (.rows ⟨table.columns, table.rows.filter (meets conditions)⟩), store) := by
  have each : ∀ found, Store.read store name = .ok found → found.Filled := by
    intro found same
    cases read.symm.trans same
    exact filled
  rw [execute_selectAll each, read]
  simp only [bind, Except.bind, splitRows_of_decides decides]
  rfl

/-- Without conditions a stored table is shown as it is. -/
theorem Session.execute_selectAll_of_filled {store : σ} {name : String} {table : Table}
    (read : Store.read store name = .ok table) (filled : table.Filled) :
    Session.execute store (.select (.selectAll name [])) =
      (.ok (.rows ⟨table.columns, table.rows⟩), store) := by
  have decides : ∀ row ∈ table.rows, Decides [] row := fun _ _ => rfl
  have every : table.rows.filter (meets []) = table.rows :=
    List.filter_eq_self.mpr fun _ _ => rfl
  rw [execute_selectAll_of_decides read filled decides, every]

theorem Session.execute_delete_of_missing {store : σ} {name : String} {fault : Fault}
    (missing : Store.read store name = .error fault) (conditions : List Condition) :
    Session.execute store (.delete ⟨name, conditions⟩) = (.error (.execution fault), store) := by
  simp only [execute, runStatement_eq, Statement.toPlan, bind, Except.bind, Plan.run,
    Plan.deleteFrom, missing]
  rfl

end Statements

/-- A delete from a stored table leaves the rows that do not meet the conditions. -/
theorem Session.execute_delete {store : MemoryStore} {name : String} {table : Table}
    (read : store.read name = .ok table) (conditions : List Condition) :
    Session.execute store (.delete ⟨name, conditions⟩) =
      match splitRows conditions table.rows with
      | .error fault => (.error (.execution fault), store)
      | .ok (dropped, kept) =>
        (.ok (.deleted dropped.length), store.write { table with rows := kept }) := by
  have stored : Store.read store name = .ok table := read
  simp only [execute, runStatement_eq, Statement.toPlan, bind, Except.bind, Plan.run,
    Plan.deleteFrom, stored, Table.deleteRows_eq]
  cases splitRows conditions table.rows <;> rfl

end TableQuery
