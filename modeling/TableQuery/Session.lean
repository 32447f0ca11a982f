import TableQuery.Plan.OfStatement
import TableQuery.Plan.Run
import TableQuery.Statement.Reader

/-!
Sessions: statements carried out one after the other against one store.

Whatever goes wrong with a statement is reported as a failure of its execution.
-/

namespace TableQuery.Session

variable {σ : Type} [Store σ]

/-- Plans and runs a statement that may already have failed. -/
def runStatement (store : σ) (statement : Except Fault Statement) :
    Except Error Result × σ :=
  let (outcome, store) : Except Fault Result × σ :=
    match statement >>= Statement.toPlan with
    | .error fault => (.error fault, store)
    | .ok plan => plan.run store
  (outcome.mapError fun fault => (Error.plain fault).executing, store)

/-- A statement that fails before it runs leaves the store; each failure is marked once. -/
theorem runStatement_eq (store : σ) (statement : Except Fault Statement) :
    runStatement store statement =
      match statement >>= Statement.toPlan with
      | .error fault => (.error (.execution fault), store)
      | .ok plan => ((plan.run store).1.mapError .execution, (plan.run store).2) := by
  unfold runStatement
  cases statement >>= Statement.toPlan <;> rfl

/-- Carries out a statement. -/
def execute (store : σ) (statement : Statement) : Except Error Result × σ :=
  runStatement store (.ok statement)

/-- Carries out a statement text. -/
def executeText (store : σ) (sql : String) : Except Error Result × σ :=
  runStatement store (Statement.ofText sql)

theorem executeText_of_ok (store : σ) {sql : String} {statement : Statement}
    (parsed : Statement.ofText sql = .ok statement) :
    executeText store sql = execute store statement := by
  rw [executeText, parsed, execute]

theorem executeText_of_error (store : σ) {sql : String} {fault : Fault}
    (refused : Statement.ofText sql = .error fault) :
    executeText store sql = (.error (.execution fault), store) := by
  rw [executeText, refused, runStatement_eq]
  rfl

end TableQuery.Session
