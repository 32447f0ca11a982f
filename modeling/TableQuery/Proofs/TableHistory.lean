import TableQuery.Proofs.DeleteSelect
import TableQuery.Proofs.InsertedRows
import TableQuery.Proofs.ParsedStatement
import TableQuery.Proofs.StatementEffect

/-!
Tables over whole sessions.

`Table.WellFormed` is what every statement text keeps of a stored table: its rows fill
its header with texts and nulls, and it has no rows as long as it has no header. A header
that is there stays; a table without one takes the columns of the first insert that
succeeds (`adopted`). One text is dealt with in `Session.read_executeText`, by the cases of
its effect, and a whole session by induction on its texts (`Session.read_after`). A
well-formed table is shown by `SELECT *` as it is stored, so a table can be read after any
session.
-/

namespace TableQuery

/-! ## Well-formed tables -/

/-- A table whose rows fill its header, with cells that are texts or null. A table without a
header has no rows. -/
structure Table.WellFormed (table : Table) : Prop where
  filled : table.Filled
  cells : ∀ row ∈ table.rows, ∀ name value, row.get? name = some value →
    value = .null ∨ ∃ text, value = .text text
  headless : table.columns = [] → table.rows = []

/-- A store of well-formed tables. -/
def MemoryStore.WellFormed (store : MemoryStore) : Prop :=
  ∀ name table, store.read name = .ok table → table.WellFormed

theorem MemoryStore.wellFormed_ofTables {tables : List Table}
    (each : ∀ table ∈ tables, table.WellFormed) : (ofTables tables).WellFormed :=
  fun _ table read => each table (mem_of_read_ofTables read)

/-- What is read behind the write of a changed table: the changed table under its own name,
and what was there under the others. -/
theorem MemoryStore.read_of_write {store : MemoryStore} {target name : String}
    {table written next : Table} (found : store.read target = .ok table)
    (renamed : written.name = table.name)
    (read : (store.write written).read name = .ok next) :
    (target = name ∧ store.read name = .ok table ∧ next = written) ∨
      (target ≠ name ∧ store.read name = .ok next) := by
  rw [name_of_read found] at renamed
  rw [store.read_write, renamed] at read
  split at read
  · rename_i here
    cases read
    exact Or.inl ⟨here, here ▸ found, rfl⟩
  · rename_i other
    exact Or.inr ⟨other, read⟩

namespace Table

/-- A table of records is well-formed when no record is short, and without a header there is
none. -/
theorem wellFormed_ofRecords {name : String} {columns : List String}
    {records : List (List String)}
    (enough : ∀ record ∈ records, columns.length ≤ record.length)
    (headless : columns = [] → records = []) : (ofRecords name columns records).WellFormed where
  filled := filled_ofRecords enough
  cells row member name value found := by
    obtain ⟨record, _, rfl⟩ := List.mem_map.mp member
    rcases NameMap.mem_of_get?_insertAll found with absent | given
    · cases absent
    · obtain ⟨entry, _, same⟩ := List.mem_map.mp given
      cases same
      exact Or.inr ⟨entry.2, rfl⟩
  headless none := by
    rw [ofRecords, headless none]
    rfl

theorem wellFormed_insertRow {table written : Table} {insertion : Insertion}
    (wellFormed : table.WellFormed) (someColumn : insertion.columns ≠ [])
    (inserted : table.insertRow insertion.columns (insertion.values.map Constant.toValue) =
      .ok written) : written.WellFormed where
  filled := filled_insertRow wellFormed.filled wellFormed.headless inserted
  cells := cells_insertRow wellFormed.cells (fun column _ => insertion.cell_cases column) inserted
  headless none := absurd none (columns_insertRow_ne_nil someColumn inserted)

theorem wellFormed_deleteRows {table written : Table} {conditions : List Condition} {count : Nat}
    (wellFormed : table.WellFormed)
    (deleted : table.deleteRows conditions = .ok (written, count)) : written.WellFormed := by
  obtain ⟨_, rfl, _⟩ := deleteRows_eq_ok deleted
  exact {
    filled := fun row member => wellFormed.filled row (List.mem_filter.mp member).1
    cells := fun row member => wellFormed.cells row (List.mem_filter.mp member).1
    headless := fun none => by
      rw [wellFormed.headless none]
      rfl }

end Table

/-! ## Headers that are taken from an insert -/

/-- A header behind an insert of some columns, if there was one: a header that is there
stays. -/
def adopted (header : List String) (columns? : Option (List String)) : List String :=
  if header = [] then columns?.getD [] else header

theorem adopted_none (header : List String) : adopted header none = header := by
  unfold adopted
  split
  · rename_i none
    exact none.symm
  · rfl

theorem adopted_of_ne_nil {header : List String} (some : header ≠ [])
    (columns? : Option (List String)) : adopted header columns? = header :=
  if_neg some

/-- Of two inserts the first one counts. -/
theorem adopted_adopted (header : List String) {first second : Option (List String)}
    (someColumn : ∀ columns ∈ first, columns ≠ []) :
    adopted (adopted header first) second = adopted header (first.or second) := by
  by_cases none : header = []
  · subst none
    cases first with
    | none => rfl
    | some columns => exact adopted_of_ne_nil (someColumn columns rfl) second
  · rw [adopted_of_ne_nil none, adopted_of_ne_nil none, adopted_of_ne_nil none]

/-! ## One statement text -/

namespace Session

/-- The store behind some statement texts that are carried out one after the other. -/
def after {σ : Type} [Store σ] (store : σ) (sqls : List String) : σ :=
  sqls.foldl (fun store sql => (executeText store sql).2) store

/-- The columns of a statement text that inserts into a table and succeeds. -/
def columnsInserted? (store : MemoryStore) (name sql : String) : Option (List String) :=
  match Statement.ofText sql, (executeText store sql).1 with
  | .ok (.insert insertion), .ok _ =>
    if insertion.table = name then some insertion.columns else none
  | _, _ => none

/-- The columns of the first insert into a table that succeeds, among some statement
texts. -/
def firstColumns? (store : MemoryStore) (name : String) : List String → Option (List String)
  | [] => none
  | sql :: rest =>
    (columnsInserted? store name sql).or (firstColumns? (executeText store sql).2 name rest)

variable {store : MemoryStore} {name : String}

theorem columnsInserted?_ne_nil (sql : String) :
    ∀ columns ∈ columnsInserted? store name sql, columns ≠ [] := by
  intro columns inserted
  unfold columnsInserted? at inserted
  split at inserted
  · rename_i insertion _ parsed _
    have wellFormed : insertion.WellFormed := (Statement.parsed_of_ofText parsed).wellFormed
    split at inserted
    · cases inserted
      exact wellFormed.someColumn
    · cases inserted
  · cases inserted

/-- What a statement text leaves under a name comes from the table that was stored there: it
is well-formed if that one was, and its header is kept or taken from the insert. -/
theorem read_executeText {sql : String} {next : Table}
    (read : (executeText store sql).2.read name = .ok next) :
    ∃ table, store.read name = .ok table ∧ (table.WellFormed → next.WellFormed) ∧
      next.columns = adopted table.columns (columnsInserted? store name sql) := by
  have cases := effect store sql
  unfold columnsInserted?
  cases outcome : executeText store sql with
  | mk result stored =>
  rw [outcome] at cases read
  cases cases with
  | failed fault =>
    refine ⟨next, read, id, ?_⟩
    split
    · contradiction
    · exact (adopted_none _).symm
  | selected parsed _ found =>
    rw [parsed]
    exact ⟨next, read, id, (adopted_none _).symm⟩
  | @inserted insertion table written after parsed found changed saved =>
    cases saved
    rw [parsed]
    dsimp only
    have renamed := Table.name_of_insertRow changed
    rcases MemoryStore.read_of_write found renamed read with ⟨here, stored, rfl⟩ | ⟨other, stored⟩
    · have wellFormed : insertion.WellFormed := (Statement.parsed_of_ofText parsed).wellFormed
      refine ⟨table, stored,
        fun before => Table.wellFormed_insertRow before wellFormed.someColumn changed, ?_⟩
      obtain ⟨_, rfl⟩ := Table.insertRow_eq_ok changed
      rw [if_pos here]
      rfl
    · rw [if_neg other]
      exact ⟨next, stored, id, (adopted_none _).symm⟩
  | @deleted deletion table written count after parsed found changed saved =>
    cases saved
    rw [parsed]
    have renamed := Table.name_of_deleteRows changed
    rcases MemoryStore.read_of_write found renamed read with ⟨_, stored, rfl⟩ | ⟨_, stored⟩
    · refine ⟨table, stored, fun before => Table.wellFormed_deleteRows before changed, ?_⟩
      obtain ⟨_, rfl, _⟩ := Table.deleteRows_eq_ok changed
      exact (adopted_none _).symm
    · exact ⟨next, stored, id, (adopted_none _).symm⟩

/-! ## Whole sessions -/

theorem after_append (sqls more : List String) :
    after store (sqls ++ more) = after (after store sqls) more :=
  List.foldl_append

/-- What a session leaves under a name comes from the table that was stored there at first. -/
theorem read_after {sqls : List String} {table : Table}
    (read : (after store sqls).read name = .ok table) :
    ∃ initial, store.read name = .ok initial ∧ (initial.WellFormed → table.WellFormed) ∧
      table.columns = adopted initial.columns (firstColumns? store name sqls) := by
  induction sqls generalizing store with
  | nil => exact ⟨table, read, id, (adopted_none _).symm⟩
  | cons sql rest ih =>
    obtain ⟨second, later, laterKept, laterHeader⟩ := ih read
    obtain ⟨initial, first, kept, header⟩ := read_executeText later
    refine ⟨initial, first, laterKept ∘ kept, ?_⟩
    rw [laterHeader, header, firstColumns?, adopted_adopted _ (columnsInserted?_ne_nil sql)]

/-- A header that is there at some time of a session stays. -/
theorem columns_after {sqls more : List String} {table later : Table}
    (read : (after store sqls).read name = .ok table) (header : table.columns ≠ [])
    (readLater : (after store (sqls ++ more)).read name = .ok later) :
    later.columns = table.columns := by
  rw [after_append] at readLater
  obtain ⟨earlier, first, _, kept⟩ := read_after readLater
  cases first.symm.trans read
  rw [kept, adopted_of_ne_nil header]

/-- Whatever statement texts are carried out, with whatever outcome, a store of well-formed
tables stays one. Each table has the header that it had at first; only when that was empty
it has the columns of the first insert that succeeded, and keeps them from then on. The
select of every column shows each table as it is stored. -/
theorem stored_after {store : MemoryStore} (wellFormed : store.WellFormed) (sqls : List String) :
    let stored := after store sqls
    stored.WellFormed ∧
      ∀ name table, stored.read name = .ok table →
        (∃ initial, store.read name = .ok initial ∧
          table.columns = if initial.columns = [] then (firstColumns? store name sqls).getD []
            else initial.columns) ∧
        (∀ more later, (after store (sqls ++ more)).read name = .ok later →
          table.columns ≠ [] → later.columns = table.columns) ∧
        execute stored (.select (.selectAll name [])) =
          (.ok (.rows ⟨table.columns, table.rows⟩), stored) ∧
        (isName name = true → executeText stored ("SELECT * FROM " ++ name) =
          (.ok (.rows ⟨table.columns, table.rows⟩), stored)) := by
  intro stored
  have kept : stored.WellFormed := by
    intro name table read
    obtain ⟨initial, first, stays, _⟩ := read_after read
    exact stays (wellFormed name initial first)
  refine ⟨kept, fun name table read => ?_⟩
  obtain ⟨initial, first, _, header⟩ := read_after read
  have here : Store.read stored name = .ok table := read
  have shown := execute_selectAll_of_filled here (kept name table read).filled
  refine ⟨⟨initial, first, header⟩, fun more later readLater some => ?_, shown, fun named => ?_⟩
  · exact columns_after read some readLater
  · rw [executeText_of_ok stored (ofText_selectAll named), shown]

/-- A table with a header and one without: an insert fails, one repeats a column, the first
one into the second table gives it its header, a later one with another column fails, and a
row is deleted. -/
theorem stored_after_adopted :
    let store := MemoryStore.ofTables
      [Table.ofRecords "t" ["a", "b"] [["1", "x"], ["2", "y"]], Table.ofRecords "e" [] []]
    let sqls := ["INSERT INTO e (c) VALUES (1, 2)", "INSERT INTO t (b, b) VALUES ('p', 'q')",
      "INSERT INTO e (c, d) VALUES (NULL, '3')", "INSERT INTO e (f) VALUES (4)",
      "DELETE FROM t WHERE a = 1"]
    let stored := after store sqls
    store.WellFormed ∧ stored.WellFormed ∧
      (∃ table, stored.read "e" = .ok table ∧ table.columns = ["c", "d"] ∧
        executeText stored "SELECT * FROM e" =
          (.ok (.rows ⟨table.columns, table.rows⟩), stored)) ∧
      executeText stored "SELECT * FROM t" = (.ok (.rows ⟨["a", "b"],
        [NameMap.ofList [("a", .text "2"), ("b", .text "y")],
          NameMap.ofList [("a", .null), ("b", .text "q")]]⟩), stored) := by
  intro store sqls stored
  have wellFormed : store.WellFormed := by
    refine MemoryStore.wellFormed_ofTables fun table member => ?_
    rcases List.mem_cons.mp member with rfl | member
    · exact Table.wellFormed_ofRecords (by decide) (by decide)
    · cases List.mem_singleton.mp member
      exact Table.wellFormed_ofRecords (by decide) (by decide)
  obtain ⟨kept, tables⟩ := stored_after wellFormed sqls
  have readE : stored.read "e" = .ok ⟨"e", ["c", "d"],
      [NameMap.ofList [("c", .null), ("d", .text "3")]]⟩ := by decide +kernel
  have readT : stored.read "t" = .ok ⟨"t", ["a", "b"],
      [NameMap.ofList [("a", .text "2"), ("b", .text "y")],
        NameMap.ofList [("a", .null), ("b", .text "q")]]⟩ := by decide +kernel
  obtain ⟨_, _, _, shownE⟩ := tables "e" _ readE
  obtain ⟨_, _, _, shownT⟩ := tables "t" _ readT
  exact ⟨wellFormed, kept, ⟨_, readE, rfl, shownE (by decide)⟩, shownT (by decide)⟩

end Session

end TableQuery
