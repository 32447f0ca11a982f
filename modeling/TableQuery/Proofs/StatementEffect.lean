import TableQuery.Proofs.SelectSteps
import TableQuery.Proofs.StatementRoundTrip

/-!
What a statement text does to a store, one case for each kind of statement.

A text that fails leaves the store as it was, and so does a select, whose rows are those
that its steps make of the rows of its source. An insert and a delete read the table they
name, change it and write it back. `Session.effect` says this of every text, so what is
kept by a text is shown by going through the cases of `Session.Effect`.
-/

namespace TableQuery

variable {σ : Type} [Store σ]

/-! ## The cases -/

/-- What a statement text can give for a store: an outcome, and the store behind it. -/
inductive Session.Effect (store : σ) (sql : String) : Except Error Result × σ → Prop
  | failed (fault : Fault) : Effect store sql (.error (.execution fault), store)
  | selected {query : Query} {rows : Rows}
      (parsed : Statement.ofText sql = .ok (.select query))
      (checked : query.checkGroups = .ok ())
      (found : query.sourceRows store >>= query.afterSource = .ok rows) :
      Effect store sql (.ok (.rows rows), store)
  | inserted {insertion : Insertion} {table written : Table} {after : σ}
      (parsed : Statement.ofText sql = .ok (.insert insertion))
      (read : Store.read store insertion.table = .ok table)
      (changed : table.insertRow insertion.columns (insertion.values.map Constant.toValue) =
        .ok written)
      (saved : Store.write store written = .ok after) :
      Effect store sql (.ok (.inserted 1), after)
  | deleted {deletion : Deletion} {table written : Table} {count : Nat} {after : σ}
      (parsed : Statement.ofText sql = .ok (.delete deletion))
      (read : Store.read store deletion.table = .ok table)
      (changed : table.deleteRows deletion.conditions = .ok (written, count))
      (saved : Store.write store written = .ok after) :
      Effect store sql (.ok (.deleted count), after)

namespace Session

variable {store : σ} {sql : String}

/-- A select is checked, and what it shows is made of the rows of its source. -/
theorem execute_select (store : σ) (query : Query) :
    execute store (.select query) =
      (((query.checkGroups >>= fun _ => query.sourceRows store >>= query.afterSource).map
        .rows).mapError .execution, store) := by
  simp only [execute, runStatement_eq, Statement.toPlan, Query.toPlan, bind, Except.bind]
  cases query.checkGroups with
  | error fault => rfl
  | ok _ =>
    simp only [pure, Except.pure, query.run_steps]
    rfl

theorem effect_select {query : Query} (parsed : Statement.ofText sql = .ok (.select query)) :
    Effect store sql (execute store (.select query)) := by
  rw [execute_select]
  cases checked : query.checkGroups with
  | error fault => exact .failed fault
  | ok _ =>
    cases found : query.sourceRows store >>= query.afterSource with
    | error fault => exact .failed fault
    | ok rows => exact .selected parsed checked found

theorem effect_insert {insertion : Insertion}
    (parsed : Statement.ofText sql = .ok (.insert insertion)) :
    Effect store sql (execute store (.insert insertion)) := by
  simp only [execute, runStatement_eq, Statement.toPlan, bind, Except.bind, Plan.run,
    Plan.insertInto]
  cases read : Store.read store insertion.table with
  | error fault => exact .failed fault
  | ok table =>
    cases changed : table.insertRow insertion.columns
        (insertion.values.map Constant.toValue) with
    | error fault =>
      simp only [changed]
      exact .failed fault
    | ok written =>
      simp only [changed]
      cases saved : Store.write store written with
      | error fault => exact .failed fault
      | ok after => exact .inserted parsed read changed saved

theorem effect_delete {deletion : Deletion}
    (parsed : Statement.ofText sql = .ok (.delete deletion)) :
    Effect store sql (execute store (.delete deletion)) := by
  simp only [execute, runStatement_eq, Statement.toPlan, bind, Except.bind, Plan.run,
    Plan.deleteFrom]
  cases read : Store.read store deletion.table with
  | error fault => exact .failed fault
  | ok table =>
    cases changed : table.deleteRows deletion.conditions with
    | error fault =>
      simp only [changed]
      exact .failed fault
    | ok result =>
      obtain ⟨written, count⟩ := result
      simp only [changed]
      cases saved : Store.write store written with
      | error fault => exact .failed fault
      | ok after => exact .deleted parsed read changed saved

/-- Every statement text has one of the effects. -/
theorem effect (store : σ) (sql : String) : Effect store sql (executeText store sql) := by
  cases parsed : Statement.ofText sql with
  | error fault =>
    rw [executeText_of_error store parsed]
    exact .failed fault
  | ok statement =>
    rw [executeText_of_ok store parsed]
    cases statement with
    | select query => exact effect_select parsed
    | insert insertion => exact effect_insert parsed
    | delete deletion => exact effect_delete parsed

/-- A select that shows rows makes them of the rows of its source. -/
theorem execute_select_eq_ok {query : Query} {rows : Rows} :
    (execute store (.select query)).1 = .ok (.rows rows) ↔ query.checkGroups = .ok () ∧
      ∃ source, query.sourceRows store = .ok source ∧ query.afterSource source = .ok rows := by
  rw [execute_select]
  cases query.checkGroups with
  | error fault => exact ⟨nofun, nofun⟩
  | ok _ =>
    cases read : query.sourceRows store with
    | error fault => exact ⟨nofun, nofun⟩
    | ok source =>
      cases made : query.afterSource source with
      | error fault =>
        refine ⟨fun shown => ?_, ?_⟩
        · simp [bind, Except.bind, made, Except.map, Except.mapError] at shown
        · rintro ⟨_, _, same, other⟩
          cases same
          cases made.symm.trans other
      | ok found =>
        simp [bind, Except.bind, made, Except.map, Except.mapError]

theorem select_eq_ok {query : Query} {rows : Rows}
    (parsed : Statement.ofText sql = .ok (.select query))
    (shown : (executeText store sql).1 = .ok (.rows rows)) :
    query.checkGroups = .ok () ∧
      ∃ source, query.sourceRows store = .ok source ∧ query.afterSource source = .ok rows := by
  rw [executeText_of_ok store parsed] at shown
  exact execute_select_eq_ok.mp shown

end Session

end TableQuery
