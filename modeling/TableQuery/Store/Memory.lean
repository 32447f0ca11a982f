import TableQuery.Store.Basic

/-!
The store that keeps tables as they are, each under its own name.
-/

namespace TableQuery

/-- Tables by name. -/
structure MemoryStore where
  tables : NameMap Table
  /-- Every table is kept under its own name. -/
  named : ∀ {name : String} {table : Table}, tables.get? name = some table → table.name = name
deriving DecidableEq

namespace MemoryStore

/-- The store of some tables; of two tables of one name the later counts. -/
def ofTables (tables : List Table) : MemoryStore where
  tables := NameMap.ofList (tables.map fun table => (table.name, table))
  named := by
    intro name table found
    rcases NameMap.mem_of_get?_insertAll found with absent | member
    · cases absent
    · obtain ⟨given, _, same⟩ := List.mem_map.mp member
      cases same
      rfl

/-- The table of a name. -/
def read (store : MemoryStore) (name : String) : Except Fault Table :=
  match store.tables.get? name with
  | some table => .ok table
  | none => .error (.internal (.noTable name))

/-- The store with a table in place of the one of its name. -/
def write (store : MemoryStore) (table : Table) : MemoryStore where
  tables := store.tables.insert table.name table
  named := by
    intro name found given
    rw [NameMap.get?_insert] at given
    split at given
    · cases given
      assumption
    · exact store.named given

instance : Store MemoryStore where
  read := read
  write store table := .ok (store.write table)

/-- A written table is read back, and other names read as before. -/
theorem read_write (store : MemoryStore) (table : Table) (name : String) :
    (store.write table).read name =
      if table.name = name then .ok table else store.read name := by
  unfold read write
  by_cases same : table.name = name <;> simp [NameMap.get?_insert, same]

theorem get?_of_read {store : MemoryStore} {name : String} {table : Table}
    (found : store.read name = .ok table) : store.tables.get? name = some table := by
  unfold read at found
  split at found
  · rename_i stored
    cases found
    exact stored
  · cases found

/-- A table is found under its own name. -/
theorem name_of_read {store : MemoryStore} {name : String} {table : Table}
    (found : store.read name = .ok table) : table.name = name :=
  store.named (get?_of_read found)

/-- A store of some tables has no others. -/
theorem mem_of_read_ofTables {tables : List Table} {name : String} {table : Table}
    (found : (ofTables tables).read name = .ok table) : table ∈ tables := by
  rcases NameMap.mem_of_get?_insertAll (get?_of_read found) with absent | given
  · cases absent
  · obtain ⟨_, member, same⟩ := List.mem_map.mp given
    cases same
    exact member

/-- Writing a table as it is stored changes nothing. -/
theorem write_of_read {store : MemoryStore} {name : String} {table : Table}
    (found : store.read name = .ok table) : store.write table = store := by
  have same : (store.write table).tables = store.tables := by
    refine NameMap.ext_get? fun other => ?_
    rw [write, NameMap.get?_insert, name_of_read found]
    split
    · rename_i here
      rw [← here, get?_of_read found]
    · rfl
  cases store
  simpa [write] using same

end MemoryStore

end TableQuery
