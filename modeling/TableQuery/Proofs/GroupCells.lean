import TableQuery.Plan.OfStatement
import TableQuery.Proofs.GroupParts
import TableQuery.Session
import TableQuery.Store.Memory

/-!
Which value a column of a grouped query holds.

The row of a group is put together from the group fields, the selected columns and the
aggregates, and of two cells of one name the later counts. A selected column takes the
value of the first group field that is the same column (`Group.source`), and it does so
also when it is itself a group field that stands behind another one of the same bare name.
-/

namespace TableQuery

namespace Group

/-- The group field whose value a column of a group has. -/
def source (fields : List String) (items : List Expression) (name : String) : String :=
  if .column name ∈ items then (fields.find? (sameColumn · name)).getD name else name

theorem any_sameColumn {fields : List String} {name : String}
    (checked : Query.checkGrouped fields (.column name) = .ok ()) :
    fields.any (sameColumn · name) = true := by
  rw [Query.checkGrouped] at checked
  split at checked
  · assumption
  · cases checked

section Cells

variable {fields : List String} {items : List Expression} {group : Group} {name : String}

/-- The values of a group, when a function of the fields gives them, make a cell for each
field. -/
theorem zip_values {value : String → Value} (values : group.values = fields.map value) :
    fields.zip group.values = fields.map fun field => (field, value field) := by
  rw [values]
  exact List.map_prod_left_eq_zip.symm

theorem selectedCell?_column {value : String → Value} (values : group.values = fields.map value) :
    selectedCell? fields group (.column name) =
      (fields.find? (sameColumn · name)).map fun field => (name, value field) := by
  rw [selectedCell?, zip_values values, List.find?_map, Option.map_map]
  rfl

/-- The cell of a selected column has the value of the column's source. -/
theorem get?_selectedCells {value : String → Value} (values : group.values = fields.map value)
    (selected : .column name ∈ items) (grouped : fields.any (sameColumn · name) = true) :
    (NameMap.ofList (items.filterMap (selectedCell? fields group))).get? name =
      some (value (source fields items name)) := by
  obtain ⟨field, first⟩ := Option.isSome_iff_exists.mp (List.find?_isSome.mpr
    (List.any_eq_true.mp grouped))
  have cell : selectedCell? fields group (.column name) =
      some (name, value (source fields items name)) := by
    rw [selectedCell?_column values, source, if_pos selected, first]
    rfl
  have present := (NameMap.isSome_get?_insertAll .empty
    (items.filterMap (selectedCell? fields group)) name).mpr
      (Or.inr (List.mem_map.mpr ⟨_, List.mem_filterMap.mpr ⟨_, selected, cell⟩, rfl⟩))
  obtain ⟨found, there⟩ := Option.isSome_iff_exists.mp present
  rcases NameMap.mem_of_get?_insertAll there with absent | member
  · cases absent
  · obtain ⟨item, _, itemCell⟩ := List.mem_filterMap.mp member
    -- whichever item made the cell, it is the column of this name
    cases item with
    | all => cases itemCell
    | call function operand => cases itemCell
    | column other =>
      obtain ⟨_, _, same⟩ := Option.map_eq_some_iff.mp itemCell
      obtain ⟨rfl, _⟩ := Prod.mk.inj same
      rw [cell] at itemCell
      cases itemCell
      exact there

theorem not_mem_selectedCells (unselected : .column name ∉ items) :
    (NameMap.ofList (items.filterMap (selectedCell? fields group))).get? name = none := by
  rw [← Option.not_isSome_iff_eq_none, NameMap.ofList, NameMap.isSome_get?_insertAll]
  rintro (absent | member)
  · cases absent
  · obtain ⟨cell, made, rfl⟩ := List.mem_map.mp member
    obtain ⟨item, selected, itemCell⟩ := List.mem_filterMap.mp made
    cases item with
    | all => cases itemCell
    | call function operand => cases itemCell
    | column other =>
      obtain ⟨_, _, rfl⟩ := Option.map_eq_some_iff.mp itemCell
      exact unselected selected

/-- Every group field and every selected column of a group has the value of its source. -/
theorem get?_row {value : String → Value} {aggregates : List Aggregate}
    (values : group.values = fields.map value)
    (checked : ∀ item ∈ items, Query.checkGrouped fields item = .ok ())
    (named : name ∈ fields ∨ .column name ∈ items)
    (noLabel : name ∉ aggregates.map (·.label)) :
    (group.row fields items aggregates).get? name = some (value (source fields items name)) := by
  have noAggregate :
      (NameMap.ofList (aggregateCells aggregates group.state)).get? name = none := by
    rw [← Option.not_isSome_iff_eq_none, isSome_get?_aggregateCells]
    exact noLabel
  rw [row, NameMap.get?_ofList_append, noAggregate, Option.none_or, NameMap.get?_ofList_append]
  by_cases selected : .column name ∈ items
  · rw [get?_selectedCells values selected (any_sameColumn (checked _ selected))]
    rfl
  · have field := named.resolve_right selected
    rw [not_mem_selectedCells selected, Option.none_or, zip_values values,
      NameMap.get?_ofList_map, if_pos field, source, if_neg selected]

end Cells

/-- The source of a name is a group field. -/
theorem source_mem {fields : List String} {items : List Expression} {name : String}
    (checked : ∀ item ∈ items, Query.checkGrouped fields item = .ok ())
    (named : name ∈ fields ∨ .column name ∈ items) : source fields items name ∈ fields := by
  unfold source
  split
  · rename_i selected
    obtain ⟨field, first⟩ := Option.isSome_iff_exists.mp (List.find?_isSome.mpr
      (List.any_eq_true.mp (any_sameColumn (checked _ selected))))
    rw [first]
    exact List.mem_of_find?_eq_some first
  · rename_i unselected
    exact named.resolve_right unselected

/-- A name that is like no other group field is its own source. -/
theorem source_eq_self {fields : List String} {name : String} (items : List Expression)
    (alone : ∀ other ∈ fields, sameColumn other name → other = name) :
    source fields items name = name := by
  unfold source
  split
  · cases first : fields.find? (sameColumn · name) with
    | none => rfl
    | some other =>
      have like : sameColumn other name = true := by simpa using List.find?_some first
      exact alone other (List.mem_of_find?_eq_some first) like
  · rfl

namespace Tracks

variable {aggregates : List Aggregate} {fields : List String} {rows : List Row}
  {groups : List Group}

/-- The values of a group are those of each of its rows. -/
theorem lookup_of_mem (tracks : Tracks aggregates fields rows groups) {group : Group}
    (member : group ∈ groups) :
    ∃ value : String → Value, group.values = fields.map value ∧
      ∀ row ∈ rowsWith fields group.key rows, ∀ field ∈ fields, ∃ own,
        row.lookup field = .ok own ∧ own.Same (value field) := by
  obtain ⟨first, _, read⟩ := tracks.values group member
  have firstKey := Row.groupValues_of_mapM read
  refine ⟨fun field => (first.lookup? field).getD .null, Row.eq_shown_of_mapM read,
    fun row part field given => ?_⟩
  obtain ⟨inRows, sameKey⟩ := List.mem_filter.mp part
  obtain ⟨values, rowRead⟩ := tracks.resolved row inRows
  obtain ⟨each, _⟩ := mem_of_mapM_eq_ok rowRead
  obtain ⟨own, _, found⟩ := each field given
  refine ⟨own, found, ?_⟩
  -- the two rows have the same list of keys, so the same key at each field
  have keys : row.groupValues fields = first.groupValues fields :=
    (beq_iff_eq.mp sameKey).trans firstKey.symm
  have atField := List.map_inj_left.mp keys field given
  rw [Row.lookup_eq_ok.mp found] at atField
  exact Value.canonical_eq_iff.mp atField

end Tracks

end Group

/-- A group field, or a selected column, has in the row of each group the value that its
source has in every row of the group. -/
theorem groupRows_cells {rows out : List Row} {fields : List String} {items : List Expression}
    {name : String} (grouped : groupRows rows fields items = .ok out)
    (checked : ∀ item ∈ items, Query.checkGrouped fields item = .ok ())
    (named : name ∈ fields ∨ .column name ∈ items)
    (noLabel : ∀ item ∈ items, item.isAggregate = true → item.label ≠ name) :
    Group.source fields items name ∈ fields ∧
      List.Forall₂ (fun values row => ∃ value, row.get? name = some value ∧
          ∀ member ∈ rowsWith fields values rows, ∃ own,
            member.lookup (Group.source fields items name) = .ok own ∧
              own.Same value)
        (groupsOf fields rows) out := by
  obtain ⟨aggregates, known, rest⟩ := bind_eq_ok grouped
  obtain ⟨groups, added, same⟩ := bind_eq_ok rest
  cases same
  have tracks := Group.tracks_nil.addRows added
  rw [List.nil_append] at tracks
  have source := Group.source_mem checked named
  have apart : name ∉ aggregates.map (·.label) := by
    intro member
    obtain ⟨aggregate, given, rfl⟩ := List.mem_map.mp member
    obtain ⟨function, _, operand, selected, _, rfl⟩ := (Aggregate.mem_ofItems known).2 _ given
    exact noLabel _ selected rfl rfl
  refine ⟨source, ?_⟩
  rw [← tracks.keys, List.forall₂_map_left_iff, List.forall₂_map_right_iff, List.forall₂_same]
  intro group member
  obtain ⟨value, values, own⟩ := tracks.lookup_of_mem member
  exact ⟨value (Group.source fields items name), Group.get?_row values checked named apart,
    fun row part => own row part _ source⟩

/-- Of two group fields with one bare name both cells have the value of the first. -/
theorem groupRows_cells_sharedBareName :
    let rows : List Row := [.ofList [("a.id", .text "1"), ("b.id", .text "2")]]
    let fields := ["a.id", "b.id"]
    let items := [Expression.column "a.id", .column "b.id"]
    let out : List Row := [.ofList [("a.id", .text "1"), ("b.id", .text "1")]]
    groupRows rows fields items = .ok out ∧ Group.source fields items "b.id" = "a.id" ∧
      List.Forall₂ (fun values row => ∃ value, row.get? "b.id" = some value ∧
          ∀ member ∈ rowsWith fields values rows, ∃ own,
            member.lookup "a.id" = .ok own ∧ own.Same value)
        (groupsOf fields rows) out := by
  intro rows fields items out
  have grouped : groupRows rows fields items = .ok out := by decide +kernel
  have source : Group.source fields items "b.id" = "a.id" := by decide +kernel
  have second : "b.id" ∈ fields ∨ .column "b.id" ∈ items := Or.inl (by decide)
  have cells := (groupRows_cells grouped (by decide +kernel) second (by decide)).2
  rw [source] at cells
  exact ⟨grouped, source, cells⟩

/-- A query over two tables loses the second of two group fields with one bare name: the
only group has the row `1`, `2`, and shows `1`, `1`. -/
theorem Session.groupBy_sharedBareName :
    let store := MemoryStore.ofTables
      [⟨"a", ["id", "k"], [.ofList [("id", .text "1"), ("k", .text "k")]]⟩,
        ⟨"b", ["id", "k"], [.ofList [("id", .text "2"), ("k", .text "k")]]⟩]
    let joined := "FROM a INNER JOIN b ON a.k = b.k"
    (executeText store ("SELECT a.id, b.id " ++ joined)).1 =
        .ok (.rows ⟨["a.id", "b.id"], [.ofList [("a.id", .text "1"), ("b.id", .text "2")]]⟩) ∧
      (executeText store ("SELECT a.id, b.id " ++ joined ++ " GROUP BY a.id, b.id")).1 =
        .ok (.rows ⟨["a.id", "b.id"], [.ofList [("a.id", .text "1"), ("b.id", .text "1")]]⟩) := by
  decide +kernel

end TableQuery
