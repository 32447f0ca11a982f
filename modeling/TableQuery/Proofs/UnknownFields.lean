import TableQuery.Proofs.StatementEffect

/-!
Conditions on columns that a table does not have.

In rows that fill a header the names that can be read are those that the header resolves,
exactly or without their qualifier. A condition on another name is a fault where it is
looked at, and conditions are looked at row by row up to the first that does not hold. So
the conditions before the first unknown name decide: when they hold on some row, a select
and a delete report that name, and when they hold on none, it is never looked at.
-/

namespace TableQuery

open Condition

/-! ## Names in filled rows -/

/-- Whether a header resolves a name: as one of its columns, or as one behind a qualifier. -/
def resolves (columns : List String) (name : String) : Bool :=
  columns.contains name || (unqualified? name).any columns.contains

theorem Row.isSome_get?_of_fills {columns : List String} {row : Row} (fills : row.Fills columns)
    (name : String) : (row.get? name).isSome = columns.contains name := by
  rw [Bool.eq_iff_iff, fills name, List.contains_iff_mem]

theorem Row.isSome_lookup?_of_fills {columns : List String} {row : Row}
    (fills : row.Fills columns) (name : String) :
    (row.lookup? name).isSome = resolves columns name := by
  rw [resolves, ← isSome_get?_of_fills fills]
  unfold lookup?
  cases row.get? name with
  | some value => rfl
  | none =>
    cases unqualified? name with
    | none => rfl
    | some bare => exact isSome_get?_of_fills fills bare

theorem resolves_of_mem {columns : List String} {name : String} (known : name ∈ columns) :
    resolves columns name = true := by
  rw [resolves, List.contains_iff_mem.mpr known, Bool.true_or]

theorem Row.lookup_of_resolved {columns : List String} {row : Row} (fills : row.Fills columns)
    {name : String} (resolved : resolves columns name = true) :
    row.lookup name = .ok ((row.lookup? name).getD .null) := by
  rw [← isSome_lookup?_of_fills fills] at resolved
  obtain ⟨value, found⟩ := Option.isSome_iff_exists.mp resolved
  rw [lookup, found]
  rfl

theorem Row.lookup_of_unresolved {columns : List String} {row : Row} (fills : row.Fills columns)
    {name : String} (unresolved : resolves columns name = false) :
    row.lookup name = .error (.field (.unknown name)) := by
  have none : row.lookup? name = none := by
    rw [← Option.not_isSome_iff_eq_none, isSome_lookup?_of_fills fills, unresolved]
    exact Bool.false_ne_true
  rw [lookup, none]

/-! ## Conditions up to the first unknown name -/

namespace Condition

variable {row : Row} {columns : List String}

/-- The conditions of a list are looked at until one of them does not hold or fails. -/
theorem evaluateAll_append (row : Row) (front back : List Condition) :
    evaluateAll row (front ++ back) =
      match evaluateAll row front with
      | .ok true => evaluateAll row back
      | .ok false => .ok false
      | .error fault => .error fault := by
  induction front with
  | nil => rfl
  | cons condition front ih =>
    rw [List.cons_append, evaluateAll, evaluateAll]
    cases condition.evaluate row with
    | error fault => rfl
    | ok holds =>
      cases holds with
      | false => rfl
      | true => exact ih

/-- Conditions on names that a header resolves can be evaluated on the rows that fill it. -/
theorem decides_of_resolved (fills : row.Fills columns) {conditions : List Condition}
    (resolved : ∀ condition ∈ conditions, resolves columns condition.field = true) :
    Decides conditions row := by
  suffices evaluated : ∃ holds, evaluateAll row conditions = .ok holds by
    obtain ⟨holds, evaluated⟩ := evaluated
    exact decides_of_evaluateAll evaluated
  induction conditions with
  | nil => exact ⟨true, rfl⟩
  | cons condition rest ih =>
    let value := (row.lookup? condition.field).getD .null
    have tested : condition.evaluate row = .ok (condition.test value) := by
      rw [evaluate, Row.lookup_of_resolved fills (resolved condition List.mem_cons_self)]
      rfl
    rw [evaluateAll, tested]
    cases condition.test value with
    | false => exact ⟨false, rfl⟩
    | true => exact ih fun other member => resolved other (List.mem_cons_of_mem _ member)

/-- What conditions come to on a row when the first unknown name stands behind some of
them: a fault where those hold, and false where they do not. -/
theorem evaluateAll_unresolved (fills : row.Fills columns) {front : List Condition}
    {bad : Condition} (back : List Condition)
    (resolved : ∀ condition ∈ front, resolves columns condition.field = true)
    (unresolved : resolves columns bad.field = false) :
    evaluateAll row (front ++ bad :: back) =
      if meets front row then .error (.field (.unknown bad.field)) else .ok false := by
  have failed : bad.evaluate row = .error (.field (.unknown bad.field)) := by
    rw [evaluate, Row.lookup_of_unresolved fills unresolved]
    rfl
  have decided : evaluateAll row front = .ok (meets front row) := decides_of_resolved fills resolved
  rw [evaluateAll_append, decided, evaluateAll, failed]
  cases meets front row <;> rfl

end Condition

/-- Rows on which conditions are false or fail alike: one that fails makes the cut fail, and
without one no row is taken. -/
theorem splitRows_of_failing {conditions : List Condition} {rows : List Row} {fault : Fault}
    {fails : Row → Bool}
    (each : ∀ row ∈ rows,
      evaluateAll row conditions = if fails row then .error fault else .ok false) :
    splitRows conditions rows = if rows.any fails then .error fault else .ok ([], rows) := by
  induction rows with
  | nil => rfl
  | cons row rest ih =>
    have later := ih fun row member => each row (List.mem_cons_of_mem _ member)
    rw [splitRows, each row List.mem_cons_self, later, List.any_cons]
    cases fails row with
    | true => rfl
    | false => cases rest.any fails <;> rfl

/-- The first condition on an unknown name. -/
theorem exists_first_unresolved {columns : List String} {conditions : List Condition}
    (missing : ∃ condition ∈ conditions, resolves columns condition.field = false) :
    ∃ front bad back, conditions = front ++ bad :: back ∧
      (∀ condition ∈ front, resolves columns condition.field = true) ∧
      resolves columns bad.field = false := by
  induction conditions with
  | nil => simp at missing
  | cons condition rest ih =>
    cases here : resolves columns condition.field with
    | false => exact ⟨[], condition, rest, rfl, by simp, here⟩
    | true =>
      have later : ∃ condition ∈ rest, resolves columns condition.field = false := by
        simpa [here] using missing
      obtain ⟨front, bad, back, rfl, resolved, unresolved⟩ := ih later
      exact ⟨condition :: front, bad, back, rfl,
        List.forall_mem_cons.mpr ⟨here, resolved⟩, unresolved⟩

/-! ## The two statements -/

section Statements

variable {table : Table} {front : List Condition} {bad : Condition}

/-- The cut of a table's rows by conditions of which one has an unknown name. -/
theorem splitRows_of_unresolved (filled : table.Filled) (back : List Condition)
    (resolved : ∀ condition ∈ front, resolves table.columns condition.field = true)
    (unresolved : resolves table.columns bad.field = false) :
    splitRows (front ++ bad :: back) table.rows =
      if table.rows.any (meets front) then .error (.field (.unknown bad.field))
      else .ok ([], table.rows) :=
  splitRows_of_failing fun row member =>
    evaluateAll_unresolved (filled row member) back resolved unresolved

theorem Query.sourceRows_of_read {σ : Type} [Store σ] {store : σ} {query : Query}
    (read : Store.read store query.table = .ok table) (alone : query.join = none) :
    query.sourceRows store = .ok ⟨table.columns, table.rows⟩ := by
  rw [sourceRows, alone]
  simp only [Plan.scanTable, read]
  rfl

/-- A select fails when its conditions cannot be evaluated on the rows of its source. -/
theorem Query.afterSource_of_failed {query : Query} {source : Rows} {fault : Fault}
    (failed : splitRows query.conditions source.rows = .error fault) :
    query.afterSource source = .error fault := by
  rw [afterSource, Rows.filtered, failed]
  rfl

/-- A select that keeps no row goes on as if there had been none. -/
theorem Query.afterSource_of_none {query : Query} {source : Rows}
    (none : splitRows query.conditions source.rows = .ok ([], source.rows)) :
    query.afterSource source = query.afterSource { source with rows := [] } := by
  have empty : splitRows query.conditions [] = .ok ([], []) := rfl
  rw [afterSource, afterSource, Rows.filtered, Rows.filtered, none, empty]
  rfl

namespace Session

/-- A select and a delete with a condition on a name that the table does not resolve, exactly
or without its qualifier. The first such name is reported by both when some row meets the
conditions before it. When none does, the select shows what it shows of the table without
its rows, and the delete takes none away. The store stays as it is in either case. -/
theorem execute_unresolved {store : MemoryStore} {name : String} {conditions : List Condition}
    (read : store.read name = .ok table) (filled : table.Filled)
    (missing : ∃ condition ∈ conditions, resolves table.columns condition.field = false) :
    ∃ front bad back, conditions = front ++ bad :: back ∧
      (∀ condition ∈ front, resolves table.columns condition.field = true) ∧
      resolves table.columns bad.field = false ∧
      ((∃ row ∈ table.rows, meets front row = true) →
        execute store (.delete ⟨name, conditions⟩) =
          (.error (.execution (.field (.unknown bad.field))), store) ∧
        ∀ query : Query, query.table = name → query.join = none →
          query.conditions = conditions → query.checkGroups = .ok () →
          execute store (.select query) =
            (.error (.execution (.field (.unknown bad.field))), store)) ∧
      ((∀ row ∈ table.rows, meets front row = false) →
        execute store (.delete ⟨name, conditions⟩) = (.ok (.deleted 0), store) ∧
        ∀ query : Query, query.table = name → query.join = none →
          query.conditions = conditions →
          execute store (.select query) =
            ((execute (store.write { table with rows := [] }) (.select query)).1, store)) := by
  obtain ⟨front, bad, back, rfl, resolved, unresolved⟩ := exists_first_unresolved missing
  have cut := splitRows_of_unresolved filled back resolved unresolved
  have delete := execute_delete read (front ++ bad :: back)
  refine ⟨front, bad, back, rfl, resolved, unresolved, fun met => ?_, fun unmet => ?_⟩
  · rw [if_pos (List.any_eq_true.mpr met)] at cut
    rw [cut] at delete
    refine ⟨delete, fun query named alone same checked => ?_⟩
    subst named
    have stored : Store.read store query.table = .ok table := read
    have source := Query.sourceRows_of_read stored alone
    have failed : query.afterSource ⟨table.columns, table.rows⟩ =
        .error (.field (.unknown bad.field)) := Query.afterSource_of_failed (same ▸ cut)
    rw [execute_select, checked, source]
    simp only [bind, Except.bind, failed]
    rfl
  · have noRow : ¬ table.rows.any (meets front) = true := by
      simpa [List.any_eq_true] using unmet
    rw [if_neg noRow] at cut
    rw [cut] at delete
    refine ⟨delete.trans ?_, fun query named alone same => ?_⟩
    · exact congrArg _ (MemoryStore.write_of_read read)
    · subst named
      have stored : Store.read store query.table = .ok table := read
      have emptied : Store.read (store.write { table with rows := [] }) query.table =
          .ok { table with rows := [] } :=
        (store.read_write _ _).trans (if_pos (MemoryStore.name_of_read read))
      have source := Query.sourceRows_of_read stored alone
      have noSource := Query.sourceRows_of_read emptied alone
      have shown : query.afterSource ⟨table.columns, table.rows⟩ =
          query.afterSource ⟨table.columns, []⟩ := Query.afterSource_of_none (same ▸ cut)
      rw [execute_select, execute_select, source, noSource]
      simp only [bind, Except.bind, shown]

/-- The first condition holds on the one row, so the second one is looked at. -/
theorem execute_unresolved_second :
    let store := MemoryStore.ofTables [Table.ofRecords "t" ["a"] [["1"]]]
    execute store (.delete ⟨"t", [⟨"a", .equal, "1"⟩, ⟨"nosuch", .equal, "1"⟩]⟩) =
        (.error (.execution (.field (.unknown "nosuch"))), store) ∧
      execute store
          (.select (.selectAll "t" [⟨"a", .equal, "1"⟩, ⟨"nosuch", .equal, "1"⟩])) =
        (.error (.execution (.field (.unknown "nosuch"))), store) := by
  intro store
  have read : store.read "t" = .ok (Table.ofRecords "t" ["a"] [["1"]]) := rfl
  have filled : (Table.ofRecords "t" ["a"] [["1"]]).Filled := Table.filled_ofRecords (by decide)
  have missing : ∃ condition ∈ [Condition.mk "a" .equal "1", ⟨"nosuch", .equal, "1"⟩],
      resolves ["a"] condition.field = false := by decide
  obtain ⟨front, bad, back, split, resolved, unresolved, failing, _⟩ :=
    execute_unresolved read filled missing
  rcases front with _ | ⟨first, _ | ⟨second, more⟩⟩
  · cases split
    exact absurd unresolved (by decide)
  · cases split
    obtain ⟨deleted, selected⟩ := failing (by decide +kernel)
    exact ⟨deleted, selected _ rfl rfl rfl rfl⟩
  · have both := (List.cons.inj (List.cons.inj split).2).1
    have second := resolved second (by simp)
    rw [← both] at second
    exact absurd second (by decide)

/-- Behind a condition that holds on no row an unknown name is overlooked, and in front of it
it is not. -/
theorem executeText_unresolved_overlooked :
    let table := Table.ofRecords "t" ["a"] [["1"]]
    let store := MemoryStore.ofTables [table]
    store.read "t" = .ok table ∧ table.rows ≠ [] ∧ table.Filled ∧
      resolves table.columns "nosuch" = false ∧
      executeText store "SELECT * FROM t WHERE a = 2 AND nosuch = 1" =
        (.ok (.rows ⟨["a"], []⟩), store) ∧
      executeText store "DELETE FROM t WHERE a = 2 AND nosuch = 1" = (.ok (.deleted 0), store) ∧
      executeText store "SELECT * FROM t WHERE nosuch = 1 AND a = 2" =
        (.error (.execution (.field (.unknown "nosuch"))), store) ∧
      executeText store "DELETE FROM t WHERE nosuch = 1 AND a = 2" =
        (.error (.execution (.field (.unknown "nosuch"))), store) := by
  intro table store
  refine ⟨rfl, by decide, Table.filled_ofRecords (by decide), by decide, ?_, ?_, ?_, ?_⟩ <;>
    decide +kernel

end Session

end Statements

end TableQuery
