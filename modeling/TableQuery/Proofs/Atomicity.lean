import TableQuery.Proofs.Outcome
import TableQuery.Session
import TableQuery.Store.File
import TableQuery.Store.Memory

/-!
Statements are atomic: a statement that fails changes nothing, and one that succeeds
changes at most the table that it names.

Whatever the steps of a select are, none of them writes (`Plan.readsOnly`). A change
writes once, the table it has read and under the same name, and the write is the last
thing that it does (`Store.Rewrites`). What else a write can touch is a matter of the
store, and is shown for each of the two stores by itself.
-/

namespace TableQuery

/-! ## Plans that only read -/

/-- Whether no step of a plan changes a table. -/
def Plan.readsOnly : Plan → Bool
  | scan _ => true
  | join base other _ _ _ _ => base.readsOnly && other.readsOnly
  | filter source _ => source.readsOnly
  | aggregate source _ => source.readsOnly
  | groupBy source _ _ => source.readsOnly
  | order source _ => source.readsOnly
  | limit source _ => source.readsOnly
  | distinct source _ => source.readsOnly
  | project source _ => source.readsOnly
  | insert _ _ _ => false
  | delete _ _ => false

section Plans

variable {σ : Type} [Store σ]

theorem Plan.run_of_readsOnly {plan : Plan} (readsOnly : plan.readsOnly = true) (store : σ) :
    (plan.run store).2 = store := by
  induction plan generalizing store with
  | scan name => rfl
  | join base other table clause fields all baseIh otherIh =>
    rw [Plan.readsOnly, Bool.and_eq_true] at readsOnly
    have keptByBase := baseIh readsOnly.1 store
    have keptByOther := otherIh readsOnly.2 store
    rw [Plan.run]
    cases ran : base.run store with
    | mk outcome after =>
      rw [ran] at keptByBase
      subst keptByBase
      cases outcome with
      | error fault => rfl
      | ok result =>
        cases rows : result.toRows with
        | error fault => simp only [rows]
        | ok found =>
          simp only [rows]
          exact keptByOther
  | filter source conditions ih => exact ih readsOnly store
  | aggregate source items ih => exact ih readsOnly store
  | groupBy source fields items ih => exact ih readsOnly store
  | order source keys ih => exact ih readsOnly store
  | limit source count ih => exact ih readsOnly store
  | distinct source items ih => exact ih readsOnly store
  | project source items ih => exact ih readsOnly store
  | insert => cases readsOnly
  | delete => cases readsOnly

theorem Query.readsOnly_planFiltered (query : Query) : query.planFiltered.readsOnly = true := by
  have source : query.planSource.readsOnly = true := by
    unfold planSource
    split <;> rfl
  unfold planFiltered
  split
  · exact source
  · exact source

theorem Query.readsOnly_addStep {α : Type} (step : Plan → α → Plan) {plan : Plan}
    (kept : ∀ a, (step plan a).readsOnly = true) (readsOnly : plan.readsOnly = true)
    (clause : Option α) : (addStep step clause plan).readsOnly = true := by
  cases clause with
  | none => exact readsOnly
  | some a => exact kept a

theorem Query.readsOnly_steps (query : Query) : query.steps.readsOnly = true := by
  have filtered := query.readsOnly_planFiltered
  have grouped := readsOnly_addStep (fun plan fields => .groupBy plan fields query.fields)
    (fun _ => filtered) filtered query.groupBy
  have ordered := readsOnly_addStep .order (fun _ => grouped) grouped query.orderBy
  have limited := readsOnly_addStep .limit (fun _ => ordered) ordered query.limit
  unfold steps
  split
  · exact filtered
  · dsimp only
    split
    · split <;> exact limited
    · rw [Plan.readsOnly]
      split <;> exact limited

/-! ## One write at the end -/

/-- The store after is the one before with one table read and written back. -/
def Store.Rewrites (name : String) (before after : σ) : Prop :=
  ∃ table written, Store.read before name = .ok table ∧ written.name = table.name ∧
    Store.write before written = .ok after

theorem Table.name_of_insertRow {table written : Table} {columns : List String}
    {values : List Value} (inserted : table.insertRow columns values = .ok written) :
    written.name = table.name := by
  unfold insertRow at inserted
  dsimp only at inserted
  split at inserted
  all_goals
    obtain ⟨row, _, rest⟩ := bind_eq_ok inserted
    cases rest
    rfl

theorem Table.name_of_deleteRows {table written : Table} {conditions : List Condition}
    {count : Nat} (deleted : table.deleteRows conditions = .ok (written, count)) :
    written.name = table.name := by
  unfold deleteRows at deleted
  split at deleted
  · cases deleted
    rfl
  · obtain ⟨parts, _, rest⟩ := bind_eq_ok deleted
    cases rest
    rfl

theorem Plan.rewrites_of_insertInto {store after : σ} {name : String} {columns : List String}
    {values : List Value} (inserted : insertInto store name columns values = .ok after) :
    Store.Rewrites name store after := by
  obtain ⟨table, read, rest⟩ := bind_eq_ok inserted
  obtain ⟨written, changed, write⟩ := bind_eq_ok rest
  exact ⟨table, written, read, Table.name_of_insertRow changed, write⟩

theorem Plan.rewrites_of_deleteFrom {store after : σ} {name : String}
    {conditions : List Condition} {count : Nat}
    (deleted : deleteFrom store name conditions = .ok (after, count)) :
    Store.Rewrites name store after := by
  obtain ⟨table, read, rest⟩ := bind_eq_ok deleted
  obtain ⟨⟨written, _⟩, changed, rest⟩ := bind_eq_ok rest
  obtain ⟨stored, write, rest⟩ := bind_eq_ok rest
  cases rest
  exact ⟨table, written, read, Table.name_of_deleteRows changed, write⟩

/-! ## Statements -/

/-- The table that a statement changes; a select changes none. -/
def Statement.target? : Statement → Option String
  | select _ => none
  | insert insertion => some insertion.table
  | delete deletion => some deletion.table

/-- What a statement that succeeds may do to a store. -/
def Statement.Leaves (statement : Statement) (before after : σ) : Prop :=
  match statement.target? with
  | none => after = before
  | some name => Store.Rewrites name before after

/-- A statement with a plan fails and keeps the store, or it succeeds and leaves the
store as it may. -/
theorem Statement.run_cases {statement : Statement} {plan : Plan} {store after : σ}
    {outcome : Except Fault Result} (planned : statement.toPlan = .ok plan)
    (ran : plan.run store = (outcome, after)) :
    ((∃ fault, outcome = .error fault) ∧ after = store) ∨
      ((∃ result, outcome = .ok result) ∧ statement.Leaves store after) := by
  cases statement with
  | select query =>
    obtain ⟨_, _, steps⟩ := bind_eq_ok planned
    cases steps
    have kept := Plan.run_of_readsOnly query.readsOnly_steps store
    rw [ran] at kept
    cases outcome with
    | error fault => exact Or.inl ⟨⟨fault, rfl⟩, kept⟩
    | ok result => exact Or.inr ⟨⟨result, rfl⟩, kept⟩
  | insert insertion =>
    cases planned
    rw [Plan.run] at ran
    split at ran
    · rename_i inserted
      cases ran
      exact Or.inr ⟨⟨_, rfl⟩, Plan.rewrites_of_insertInto inserted⟩
    · cases ran
      exact Or.inl ⟨⟨_, rfl⟩, rfl⟩
  | delete deletion =>
    cases planned
    rw [Plan.run] at ran
    split at ran
    · rename_i deleted
      cases ran
      exact Or.inr ⟨⟨_, rfl⟩, Plan.rewrites_of_deleteFrom deleted⟩
    · cases ran
      exact Or.inl ⟨⟨_, rfl⟩, rfl⟩

/-- A statement text fails as an execution and keeps the store, or it is a statement
that succeeds and leaves the store as it may. -/
theorem Session.executeText_cases {store after : σ} {sql : String}
    {outcome : Except Error Result} (ran : executeText store sql = (outcome, after)) :
    ((∃ fault, outcome = .error (.execution fault)) ∧ after = store) ∨
      ∃ statement, Statement.ofText sql = .ok statement ∧ (∃ result, outcome = .ok result) ∧
        statement.Leaves store after := by
  rw [executeText, runStatement_eq] at ran
  cases planned : Statement.ofText sql >>= Statement.toPlan with
  | error fault =>
    rw [planned] at ran
    cases ran
    exact Or.inl ⟨⟨fault, rfl⟩, rfl⟩
  | ok plan =>
    obtain ⟨statement, parsed, steps⟩ := bind_eq_ok planned
    rw [planned] at ran
    cases inner : plan.run store with
    | mk outcome stored =>
      simp only [inner] at ran
      rcases Statement.run_cases steps inner with ⟨⟨fault, rfl⟩, kept⟩ | ⟨⟨result, rfl⟩, leaves⟩
      · cases ran
        exact Or.inl ⟨⟨fault, rfl⟩, kept⟩
      · cases ran
        exact Or.inr ⟨statement, parsed, ⟨result, rfl⟩, leaves⟩

end Plans

/-! ## What else a write can touch -/

/-- Two states of a store with the same tables, but for the content of one. -/
structure MemoryStore.ChangesOnly (before : MemoryStore) (name : String) (after : MemoryStore) :
    Prop where
  others : ∀ other, other ≠ name → after.tables.get? other = before.tables.get? other
  names : ∀ other, (after.tables.get? other).isSome = (before.tables.get? other).isSome

theorem MemoryStore.changesOnly_of_rewrites {name : String} {before after : MemoryStore}
    (rewrites : Store.Rewrites name before after) : before.ChangesOnly name after := by
  obtain ⟨table, written, read, renamed, write⟩ := rewrites
  have stored := MemoryStore.get?_of_read read
  rw [before.named stored] at renamed
  cases write
  refine ⟨fun other different => ?_, fun other => ?_⟩
  · rw [MemoryStore.write, NameMap.get?_insert_of_ne]
    exact renamed ▸ Ne.symm different
  · rw [MemoryStore.write, NameMap.get?_insert, renamed]
    split
    · rename_i same
      rw [← same, stored]
      rfl
    · rfl

/-- The bytes of a file by the path of its folder and its name. -/
def Disk.file? (disk : Disk) (folder name : String) : Option (List UInt8) :=
  (disk.folders.get? folder).bind (·.get? name)

/-- Two states of a disk with the same folders and files, but for the content of the
file at one place. -/
structure Disk.ChangesOnly (before : Disk) (place : Place) (after : Disk) : Prop where
  folders : ∀ folder, (after.folders.get? folder).isSome = (before.folders.get? folder).isSome
  others : ∀ folder name, (folder, name) ≠ (place.parent.path, place.lastName) →
    after.file? folder name = before.file? folder name
  names : ∀ folder name, (after.file? folder name).isSome = (before.file? folder name).isSome

/-- A file that can be read is one of its folder. -/
theorem Disk.file?_of_read {disk : Disk} {path : String} {bytes : List UInt8}
    (read : disk.read path = .ok bytes) :
    ∃ place, disk.place path = .ok place ∧
      disk.file? place.parent.path place.lastName = some bytes := by
  unfold Disk.read at read
  obtain ⟨place, found, rest⟩ := bind_eq_ok read
  refine ⟨place, found, ?_⟩
  split at rest
  · rename_i content here
    cases rest
    unfold Disk.at? at here
    split at here
    · cases here
    · obtain ⟨stored, file, same⟩ := Option.map_eq_some_iff.mp here
      cases same
      exact file
  · cases rest
  · cases rest

/-- The files of a disk when one of them is put in a folder that is there. -/
theorem Disk.file?_insert {disk : Disk} {path name : String} {folder : Folder}
    (there : disk.folders.get? path = some folder) (bytes : List UInt8)
    (otherPath otherName : String) :
    Disk.file? ⟨disk.folders.insert path (folder.insert name bytes)⟩ otherPath otherName =
      if (otherPath, otherName) = (path, name) then some bytes
      else disk.file? otherPath otherName := by
  rw [Disk.file?, Disk.file?, NameMap.get?_insert]
  by_cases inFolder : path = otherPath
  · subst inFolder
    rw [if_pos rfl, there, Option.bind_some, Option.bind_some, NameMap.get?_insert]
    by_cases same : name = otherName
    · simp [same]
    · simp [same, Ne.symm same]
  · have different : (otherPath, otherName) ≠ (path, name) :=
      fun same => inFolder (Prod.mk.inj same).1.symm
    rw [if_neg inFolder, if_neg different]

theorem Disk.changesOnly_of_write {before after : Disk} {path : String} {old new : List UInt8}
    (read : before.read path = .ok old) (write : before.write path new = .ok after) :
    ∃ place, before.place path = .ok place ∧ before.ChangesOnly place after := by
  obtain ⟨place, folder, found, _, parent, rfl⟩ := Disk.write_eq_ok.mp write
  obtain ⟨readPlace, readFound, present⟩ := Disk.file?_of_read read
  rw [found] at readFound
  cases readFound
  refine ⟨place, found, ?_, ?_, ?_⟩
  · intro path
    rw [NameMap.get?_insert]
    split
    · rename_i same
      rw [← same, parent]
      rfl
    · rfl
  · intro path name different
    rw [Disk.file?_insert parent, if_neg different]
  · intro path name
    rw [Disk.file?_insert parent]
    split
    · rename_i same
      cases same
      rw [present]
      rfl
    · rfl

/-- Two states of a store with the same files, but for the content of the file of one
table. -/
structure FileStore.ChangesOnly (before : FileStore) (name : String) (after : FileStore) :
    Prop where
  folder : after.folder = before.folder
  delimiter : after.delimiter = before.delimiter
  disk : ∃ place, before.disk.place (before.path name) = .ok place ∧
    before.disk.ChangesOnly place after.disk

theorem FileStore.name_of_tableOfBytes {delimiter : UInt8} {name : String} {bytes : List UInt8}
    {table : Table} (read : tableOfBytes delimiter name bytes = .ok table) :
    table.name = name := by
  unfold tableOfBytes at read
  split at read
  · cases read
    rfl
  · obtain ⟨texts, _, rest⟩ := bind_eq_ok read
    obtain ⟨rows, _, rest⟩ := bind_eq_ok rest
    cases rest
    rfl

theorem FileStore.changesOnly_of_rewrites {name : String} {before after : FileStore}
    (rewrites : Store.Rewrites name before after) : before.ChangesOnly name after := by
  obtain ⟨table, written, read, renamed, write⟩ := rewrites
  obtain ⟨bytes, file, content⟩ := FileStore.read_eq_ok.mp read
  obtain ⟨disk, saved, rfl⟩ := FileStore.write_eq_ok.mp write
  rw [renamed, FileStore.name_of_tableOfBytes content] at saved
  exact ⟨rfl, rfl, Disk.changesOnly_of_write file saved⟩

/-! ## Atomic statements -/

section Atomic

variable {σ : Type} [Store σ]

/-- What a statement text may do to a store that only a relation between its states
describes: a failure is one of execution and keeps the store, as a select does, and a
change of a table changes only that one. -/
structure Session.Atomic (changesOnly : String → σ → σ → Prop) (store : σ) (sql : String) :
    Prop where
  failed : ∀ {error after}, executeText store sql = (.error error, after) →
    (∃ fault, error = .execution fault) ∧ after = store
  selected : ∀ {query}, Statement.ofText sql = .ok (.select query) →
    (executeText store sql).2 = store
  changed : ∀ {statement name result after}, Statement.ofText sql = .ok statement →
    statement.target? = some name → executeText store sql = (.ok result, after) →
    changesOnly name store after

theorem Session.atomic_of_rewrites {changesOnly : String → σ → σ → Prop}
    (bounded : ∀ {name before after}, Store.Rewrites name before after →
      changesOnly name before after) (store : σ) (sql : String) :
    Atomic changesOnly store sql where
  failed {error after} ran := by
    rcases executeText_cases ran with ⟨⟨fault, same⟩, kept⟩ | ⟨_, _, ⟨result, same⟩, _⟩
    · cases same
      exact ⟨⟨fault, rfl⟩, kept⟩
    · cases same
  selected {query} parsed := by
    rcases executeText_cases (Prod.eta (executeText store sql)).symm with
      ⟨_, kept⟩ | ⟨statement, read, _, leaves⟩
    · exact kept
    · rw [parsed] at read
      cases read
      exact leaves
  changed {statement name result after} parsed target ran := by
    rcases executeText_cases ran with ⟨⟨fault, same⟩, _⟩ | ⟨found, read, _, leaves⟩
    · cases same
    · rw [parsed] at read
      cases read
      rw [Statement.Leaves, target] at leaves
      exact bounded leaves

/-- Every statement text is atomic for every store of either kind: for tables in memory,
and for files as far as writing one either fails at once or succeeds. -/
theorem Session.atomic (memory : MemoryStore) (files : FileStore) (sql : String) :
    Atomic (fun name before after => before.ChangesOnly name after) memory sql ∧
      Atomic (fun name before after => before.ChangesOnly name after) files sql :=
  ⟨atomic_of_rewrites MemoryStore.changesOnly_of_rewrites memory sql,
    atomic_of_rewrites FileStore.changesOnly_of_rewrites files sql⟩

end Atomic

end TableQuery
