import TableQuery.Proofs.InsertedRows
import TableQuery.Proofs.ParsedStatement
import TableQuery.Proofs.SelectSteps
import TableQuery.Proofs.TableFiles

/-!
The two kinds of store do not differ on tables of texts.

`SameTables names memory files` says that two stores have the same tables under some
names and that all their cells are texts. A statement over these tables has the same
outcome in both, and leaves the same tables in both (`SameTables.executeText`): a select
sees a store only through the tables it reads, and a change computes the new table alike
and writes it. What has to be shown for a write is that the new table is one of texts
again, and this is where an insert must not leave a cell without a text: a file has no
null. From the step it follows for every list of statement texts that both stores answer
alike throughout (`Session.transcript_alike`).
-/

namespace TableQuery

/-! ## Names are header names -/

theorem Token.isBlank_of_continuesIdent {c : Char} (continues : continuesIdent c = true) :
    Text.isBlank c = false := by
  have noNumber : ∀ range ∈ Text.blankRanges,
      ∀ code ∈ List.range' range.1 (range.2 + 1 - range.1),
        Text.numericRanges.contains code = false := by decide +kernel
  refine Bool.eq_false_iff.mpr fun blank => ?_
  rw [continuesIdent, Text.isAlphabetic_of_isBlank blank, Bool.false_or, Bool.or_eq_true,
    beq_iff_eq] at continues
  rcases continues with numeric | rfl
  · obtain ⟨range, member, low, high⟩ := CodeRanges.exists_of_contains blank
    have apart := noNumber range member c.toNat (List.mem_range'_1.mpr ⟨low, by omega⟩)
    rw [Text.isNumeric, apart] at numeric
    cases numeric
  · revert blank
    decide

theorem Text.trim_of_noBlank {cs : List Char} (noBlank : ∀ c ∈ cs, isBlank c = false) :
    trim cs = cs := by
  have kept {cs : List Char} (noBlank : ∀ c ∈ cs, isBlank c = false) :
      cs.dropWhile isBlank = cs := by
    cases cs with
    | nil => rfl
    | cons c rest => simp [noBlank c List.mem_cons_self]
  rw [trim, kept noBlank, kept, List.reverse_reverse]
  simpa using noBlank

theorem FileStore.columnName_of_isName {name : String} (named : isName name = true) :
    columnName name = name := by
  have noBlank := fun c member =>
    Token.isBlank_of_continuesIdent (continuesIdent_of_isName named c member)
  rw [columnName, Text.trim_of_noBlank noBlank, String.ofList_toList]

theorem head?_ne_of_isName {name : String} (named : isName name = true) :
    name.toList.head? ≠ some '\ufeff' := fun first =>
  not_mem_of_isName named (by decide +kernel) (List.mem_of_head? first)

/-! ## Changes keep tables of texts -/

namespace Table

theorem plain_insertRow {table written : Table} {insertion : Insertion} (plain : table.Plain)
    (someColumn : insertion.columns ≠ [])
    (bare : ∀ column ∈ insertion.columns, isName column = true)
    (supplied : ∀ column ∈ insertion.header table, insertion.Supplies column)
    (inserted : table.insertRow insertion.columns (insertion.values.map Constant.toValue) =
      .ok written) : written.Plain := by
  have columns : written.columns = insertion.header table := by
    obtain ⟨_, rfl⟩ := insertRow_eq_ok inserted
    rfl
  refine {
    trimmed := ?trimmed, unmarked := ?unmarked
    filled := filled_insertRow plain.filled plain.headless inserted
    texts := cells_insertRow plain.texts
      (fun column member => Insertion.exists_text_of_supplies (supplied column member)) inserted
    headless := fun none => absurd none (columns_insertRow_ne_nil someColumn inserted) }
  case trimmed =>
    intro column member
    rw [columns, Insertion.header] at member
    split at member
    · exact FileStore.columnName_of_isName (bare column member)
    · exact plain.trimmed column member
  case unmarked =>
    intro column member
    rw [columns, Insertion.header] at member
    split at member
    · exact head?_ne_of_isName (bare column (List.mem_of_head? member))
    · exact plain.unmarked column member

theorem plain_deleteRows {table written : Table} {conditions : List Condition} {count : Nat}
    (plain : table.Plain) (deleted : table.deleteRows conditions = .ok (written, count)) :
    written.Plain := by
  obtain ⟨_, rfl, _⟩ := deleteRows_eq_ok deleted
  exact {
    trimmed := plain.trimmed
    unmarked := plain.unmarked
    filled := fun row member => plain.filled row (List.mem_filter.mp member).1
    texts := fun row member => plain.texts row (List.mem_filter.mp member).1
    headless := fun none => by
      rw [plain.headless none]
      rfl }

end Table

/-! ## Stores with the same tables -/

/-- Two stores, one of each kind, have the same tables under some names, and all cells of
these are texts. The delimiter of the files can be told apart from quotes and line ends. -/
structure SameTables (names : List String) (memory : MemoryStore) (files : FileStore) :
    Prop where
  named : ∀ name ∈ names, isName name = true
  separates : Delimited.IsDelimiter files.delimiter
  same : ∀ name ∈ names, ∃ table, Store.read memory name = .ok table ∧
    Store.read files name = .ok table ∧ table.Plain

/-- What a step gives for either kind of store: the same outcome, and the same tables. -/
structure Alike {α : Type} (names : List String) (inMemory : α × MemoryStore)
    (inFiles : α × FileStore) : Prop where
  outcome : inMemory.1 = inFiles.1
  stores : SameTables names inMemory.2 inFiles.2

/-- The tables that a statement names. -/
def Statement.tables : Statement → List String
  | select query => query.table :: (query.join.map Join.table).toList
  | insert insertion => [insertion.table]
  | delete deletion => [deletion.table]

/-- An insert statement gives every column of its table a literal that is not null. -/
def Statement.Complete (memory : MemoryStore) : Statement → Prop
  | insert insertion => ∀ table, memory.read insertion.table = .ok table →
      ∀ column ∈ insertion.header table, insertion.Supplies column
  | _ => True

instance (memory : MemoryStore) : DecidablePred (Statement.Complete memory)
  | .select _ => isTrue trivial
  | .insert insertion => inferInstanceAs (Decidable (∀ table,
      memory.read insertion.table = .ok table →
        ∀ column ∈ insertion.header table, insertion.Supplies column))
  | .delete _ => isTrue trivial

/-- A statement names only known tables, and leaves no column of a new row without a text. -/
structure Statement.Suits (names : List String) (memory : MemoryStore) (statement : Statement) :
    Prop where
  known : ∀ name ∈ statement.tables, name ∈ names
  complete : statement.Complete memory

instance (names : List String) (memory : MemoryStore) :
    DecidablePred (Statement.Suits names memory) := fun statement =>
  decidable_of_iff ((∀ name ∈ statement.tables, name ∈ names) ∧ statement.Complete memory)
    ⟨fun both => ⟨both.1, both.2⟩, fun suits => ⟨suits.known, suits.complete⟩⟩

/-- A select statement sees a store through the tables that it names. -/
theorem Query.sourceRows_congr {σ τ : Type} [Store σ] [Store τ] {query : Query} {store : σ}
    {other : τ}
    (same : ∀ name ∈ (Statement.select query).tables, Store.read store name =
      Store.read other name) :
    query.sourceRows store = query.sourceRows other := by
  have base := same query.table List.mem_cons_self
  unfold sourceRows
  cases joined : query.join with
  | none => simp only [Plan.scanTable, base]
  | some join =>
    have joinTable := same join.table (by simp [Statement.tables, joined])
    simp only [joinOf, Plan.scanTable, base, joinTable]

namespace SameTables

variable {names : List String} {memory : MemoryStore} {files : FileStore}

theorem read_eq (same : SameTables names memory files) {name : String} (known : name ∈ names) :
    Store.read memory name = Store.read files name := by
  obtain ⟨table, inMemory, inFiles, _⟩ := same.same name known
  exact inMemory.trans inFiles.symm

/-- A table of texts can be written in place of another one in both stores, and they have
the same tables then. -/
theorem write (same : SameTables names memory files) {name : String} (known : name ∈ names)
    {table written : Table} (read : Store.read memory name = .ok table)
    (renamed : written.name = table.name) (plain : written.Plain) :
    ∃ after, Store.write files written = .ok after ∧
      SameTables names (memory.write written) after := by
  have here : written.name = name := renamed.trans (MemoryStore.name_of_read read)
  subst here
  obtain ⟨_, _, there, _⟩ := same.same written.name known
  obtain ⟨after, saved⟩ := FileStore.exists_write_of_read there
  have separates : Delimited.IsDelimiter after.delimiter := by
    obtain ⟨_, _, rfl⟩ := FileStore.write_eq_ok.mp saved
    exact same.separates
  refine ⟨after, saved, same.named, separates, fun name member => ?_⟩
  have inMemory := MemoryStore.read_write memory written name
  by_cases here : written.name = name
  · subst here
    rw [if_pos rfl] at inMemory
    exact ⟨written, inMemory, FileStore.read_of_write same.separates plain saved, plain⟩
  · obtain ⟨other, kept, inFiles, otherPlain⟩ := same.same name member
    rw [if_neg here] at inMemory
    exact ⟨other, inMemory.trans kept, FileStore.read_of_write_other (same.named _ known)
      (same.named _ member) (Ne.symm here) saved inFiles, otherPlain⟩

theorem run_select (same : SameTables names memory files) {query : Query}
    (known : ∀ name ∈ (Statement.select query).tables, name ∈ names) :
    Alike names (query.steps.run memory) (query.steps.run files) := by
  have rows : query.sourceRows memory = query.sourceRows files :=
    Query.sourceRows_congr fun name member => same.read_eq (known name member)
  rw [query.run_steps, query.run_steps, rows]
  exact ⟨rfl, same⟩

theorem run_insert (same : SameTables names memory files) {insertion : Insertion}
    (parsed : (Statement.insert insertion).Parsed)
    (suits : (Statement.insert insertion).Suits names memory) :
    let plan : Plan := .insert insertion.table insertion.columns
      (insertion.values.map Constant.toValue)
    Alike names (plan.run memory) (plan.run files) := by
  intro plan
  have known := suits.known insertion.table List.mem_cons_self
  obtain ⟨table, inMemory, inFiles, plain⟩ := same.same insertion.table known
  have stored (written : Table) : Store.write memory written = .ok (memory.write written) := rfl
  cases inserted : table.insertRow insertion.columns (insertion.values.map Constant.toValue) with
  | error fault =>
    simp only [plan, Plan.run, Plan.insertInto, inMemory, inFiles, bind, Except.bind, inserted]
    exact ⟨rfl, same⟩
  | ok written =>
    have wellFormed : insertion.WellFormed := parsed.wellFormed
    have writtenPlain := Table.plain_insertRow plain wellFormed.someColumn
      (parsed.bareColumns insertion rfl) (suits.complete table inMemory) inserted
    obtain ⟨after, saved, sameAfter⟩ :=
      same.write known inMemory (Table.name_of_insertRow inserted) writtenPlain
    simp only [plan, Plan.run, Plan.insertInto, inMemory, inFiles, bind, Except.bind, inserted,
      stored, saved]
    exact ⟨rfl, sameAfter⟩

theorem run_delete (same : SameTables names memory files) {deletion : Deletion}
    (known : deletion.table ∈ names) :
    let plan : Plan := .delete deletion.table deletion.conditions
    Alike names (plan.run memory) (plan.run files) := by
  intro plan
  obtain ⟨table, inMemory, inFiles, plain⟩ := same.same deletion.table known
  have stored (written : Table) : Store.write memory written = .ok (memory.write written) := rfl
  cases deleted : table.deleteRows deletion.conditions with
  | error fault =>
    simp only [plan, Plan.run, Plan.deleteFrom, inMemory, inFiles, bind, Except.bind, deleted]
    exact ⟨rfl, same⟩
  | ok changed =>
    obtain ⟨after, saved, sameAfter⟩ := same.write known inMemory
      (Table.name_of_deleteRows deleted) (Table.plain_deleteRows plain deleted)
    simp only [plan, Plan.run, Plan.deleteFrom, inMemory, inFiles, bind, Except.bind, deleted,
      stored, saved, pure, Except.pure]
    exact ⟨rfl, sameAfter⟩

theorem run (same : SameTables names memory files) {statement : Statement}
    (parsed : statement.Parsed) (suits : statement.Suits names memory) {plan : Plan}
    (planned : statement.toPlan = .ok plan) : Alike names (plan.run memory) (plan.run files) := by
  cases statement with
  | select query =>
    obtain ⟨_, _, steps⟩ := bind_eq_ok planned
    cases steps
    exact same.run_select suits.known
  | insert insertion =>
    cases planned
    exact same.run_insert parsed suits
  | delete deletion =>
    cases planned
    exact same.run_delete (suits.known deletion.table List.mem_cons_self)

/-- A statement text has the same outcome for both stores, and leaves them with the same
tables. -/
theorem executeText (same : SameTables names memory files) {sql : String}
    (suits : ∀ statement, Statement.ofText sql = .ok statement → statement.Suits names memory) :
    Alike names (Session.executeText memory sql) (Session.executeText files sql) := by
  cases parsed : Statement.ofText sql with
  | error fault =>
    rw [Session.executeText_of_error _ parsed, Session.executeText_of_error _ parsed]
    exact ⟨rfl, same⟩
  | ok statement =>
    rw [Session.executeText_of_ok _ parsed, Session.executeText_of_ok _ parsed, Session.execute,
      Session.execute, Session.runStatement_eq, Session.runStatement_eq]
    cases planned : statement.toPlan with
    | error fault =>
      simp only [bind, Except.bind, planned]
      exact ⟨rfl, same⟩
    | ok plan =>
      have alike := same.run (Statement.parsed_of_ofText parsed) (suits statement parsed) planned
      simp only [bind, Except.bind, planned]
      exact ⟨congrArg (Except.mapError Error.execution) alike.outcome, alike.stores⟩

end SameTables

/-! ## Whole sessions -/

namespace Session

/-- The outcomes of statement texts that are carried out one after the other, each with the
store behind it. -/
def transcript {σ : Type} [Store σ] (store : σ) : List String → List (Except Error Result × σ)
  | [] => []
  | sql :: rest => executeText store sql :: transcript (executeText store sql).2 rest

/-- Every statement of some texts suits the tables that are there when it is carried out. -/
def Suits (names : List String) (memory : MemoryStore) : List String → Prop
  | [] => True
  | sql :: rest =>
    (∀ statement, Statement.ofText sql = .ok statement → statement.Suits names memory) ∧
      Suits names (executeText memory sql).2 rest

instance decidableSuits (names : List String) :
    (memory : MemoryStore) → (sqls : List String) → Decidable (Suits names memory sqls)
  | _, [] => isTrue trivial
  | memory, sql :: rest =>
    have := decidableSuits names (executeText memory sql).2 rest
    inferInstanceAs (Decidable ((∀ statement, Statement.ofText sql = .ok statement →
      statement.Suits names memory) ∧ Suits names (executeText memory sql).2 rest))

/-- Stores of either kind with the same tables answer every list of statement texts alike,
and have the same tables after each of them. -/
theorem transcript_alike {names : List String} {memory : MemoryStore} {files : FileStore}
    {sqls : List String} (same : SameTables names memory files)
    (suits : Suits names memory sqls) :
    List.Forall₂ (Alike names) (transcript memory sqls) (transcript files sqls) := by
  induction sqls generalizing memory files with
  | nil => exact .nil
  | cons sql rest ih =>
    obtain ⟨first, later⟩ := suits
    have alike := same.executeText first
    exact .cons alike (ih alike.stores later)

/-- A table with a quoted cell and one without a header: a row is inserted into each, one is
deleted and the two are joined. -/
theorem transcript_alike_visits :
    let people := Table.ofRecords "people" ["id", "name"] [["1", "Ada"], ["2", "x, \x22y\x22"]]
    let visits := Table.ofRecords "visits" [] []
    let memory := MemoryStore.ofTables [people, visits]
    let files : FileStore :=
      { disk := ⟨NameMap.ofList [("/", .empty), ("", NameMap.ofList
          [("people.csv", Text.toBytes "id,name\n1,Ada\n2,\x22x, \x22\x22y\x22\x22\x22\n"),
            ("visits.csv", [])])]⟩
        folder := FileStore.defaultFolder
        delimiter := FileStore.defaultDelimiter }
    let sqls := ["INSERT INTO visits (person, fee) VALUES (2, -1.50)",
      "INSERT INTO people (name, id) VALUES ('', '3')",
      "DELETE FROM people WHERE name LIKE '%y%'",
      "SELECT name, fee FROM people LEFT JOIN visits ON people.id = visits.person"]
    SameTables ["people", "visits"] memory files ∧ Suits ["people", "visits"] memory sqls ∧
      List.Forall₂ (Alike ["people", "visits"]) (transcript memory sqls)
        (transcript files sqls) := by
  intro people visits memory files sqls
  have peoplePlain : people.Plain :=
    Table.plain_ofRecords (by decide +kernel) (by decide) (by decide) (by decide)
  have visitsPlain : visits.Plain :=
    Table.plain_ofRecords (by decide) (by decide) (by decide) (by decide)
  have same : SameTables ["people", "visits"] memory files := by
    refine ⟨by decide +kernel, ⟨by decide, by decide⟩, fun name member => ?_⟩
    rcases List.mem_cons.mp member with rfl | member
    · exact ⟨people, by decide +kernel, by decide +kernel, peoplePlain⟩
    · cases List.mem_singleton.mp member
      exact ⟨visits, by decide +kernel, by decide +kernel, visitsPlain⟩
  have suits : Suits ["people", "visits"] memory sqls := by decide +kernel
  exact ⟨same, suits, transcript_alike same suits⟩

/-- What the conditions keep out. A null that is inserted into a table without a header is
kept in memory, but an empty text in a file; and a file whose delimiter is the quote or a
line end is not read as it was written. -/
theorem transcript_differs :
    let memory (columns : List String) := MemoryStore.ofTables [⟨"t", columns, []⟩]
    let files (delimiter : UInt8) (text : String) : FileStore :=
      ⟨⟨NameMap.ofList [("/", .empty), ("", NameMap.ofList [("t.csv", Text.toBytes text)])]⟩,
        FileStore.defaultFolder, delimiter⟩
    let differ (columns : List String) (delimiter : UInt8) (text insert : String) : Prop :=
      (memory columns).read "t" = (files delimiter text).read "t" ∧
        (transcript (memory columns) [insert, "SELECT * FROM t"]).map (·.1) ≠
          (transcript (files delimiter text) [insert, "SELECT * FROM t"]).map (·.1)
    differ [] FileStore.defaultDelimiter "" "INSERT INTO t (a) VALUES (NULL)" ∧
      differ ["a", "b"] Delimited.quote "a\x22b\n"
        "INSERT INTO t (a, b) VALUES ('x\x22', 'y')" ∧
      differ ["a", "b"] Delimited.carriageReturn "a\rb\n"
        "INSERT INTO t (a, b) VALUES ('', 'y')" ∧
      differ ["a"] Delimited.lineFeed "a" "INSERT INTO t (a) VALUES ('x')" := by
  intro memory files differ
  refine ⟨⟨?_, ?_⟩, ⟨?_, ?_⟩, ⟨?_, ?_⟩, ⟨?_, ?_⟩⟩ <;> decide +kernel

end Session

end TableQuery
