import TableQuery.Table

/-!
Stores: what keeps tables between statements.

A store answers by the name of a table. A write that fails leaves the store as it was.
-/

namespace TableQuery

/-- A kind of store. -/
class Store (σ : Type) where
  /-- The table of a name. -/
  read : σ → String → Except Fault Table
  /-- The store with a table in place of the one of its name. -/
  write : σ → Table → Except Fault σ

end TableQuery
