import TableQuery.Proofs.GroupCells
import TableQuery.Proofs.StatementEffect

/-!
The cells of a result and its columns.

The columns of a result are a list of labels and its rows are maps, and every step makes
the two on their own. `Rows.Matched` says that they belong together: each row has a cell
for every column and for nothing else. A projection and the aggregates make matched rows of
any rows, and so does grouping when the selected columns are group fields; the steps behind
them keep rows as they are. Each plan of a select statement has one of these three, so its
rows match their columns whatever the tables look like (`Session.rows_matched`).
-/

namespace TableQuery

namespace Rows

/-- The rows fill the columns. -/
def Matched (found : Rows) : Prop :=
  ∀ row ∈ found.rows, row.Fills found.columns

/-- Some of the rows fill the columns when all of them do. -/
theorem Within.matched {source found : Rows} (within : Within source found)
    (matched : source.Matched) : found.Matched := by
  intro row member
  rw [within.columns]
  exact matched row (within.rows row member)

end Rows

/-! ## Steps that make rows -/

theorem fills_projectRow {labels : List String} {row shown : Row}
    (projected : projectRow labels row = .ok shown) : shown.Fills labels := by
  obtain ⟨cells, read, same⟩ := bind_eq_ok projected
  cases same
  obtain ⟨each, only⟩ := mem_of_mapM_eq_ok read
  refine Row.fills_ofList fun name => ⟨fun member => ?_, fun member => ?_⟩
  · obtain ⟨cell, given, rfl⟩ := List.mem_map.mp member
    obtain ⟨label, inLabels, step⟩ := only cell given
    obtain ⟨_, _, rfl⟩ := map_eq_ok step
    exact inLabels
  · obtain ⟨cell, given, step⟩ := each name member
    obtain ⟨_, _, rfl⟩ := map_eq_ok step
    exact List.mem_map.mpr ⟨_, given, rfl⟩

section Aggregates

variable {items : List Expression} {aggregates : List Aggregate}

/-- The labels of the aggregates of a select list are those of its items that are some. -/
theorem Aggregate.mem_labels (known : ofItems items = .ok aggregates) (name : String) :
    name ∈ aggregates.map (·.label) ↔
      name ∈ (items.filter Expression.isAggregate).map Expression.label := by
  obtain ⟨each, only⟩ := mem_ofItems known
  constructor
  · intro member
    obtain ⟨aggregate, given, rfl⟩ := List.mem_map.mp member
    obtain ⟨function, _, operand, selected, _, rfl⟩ := only aggregate given
    exact List.mem_map.mpr ⟨.call function operand, List.mem_filter.mpr ⟨selected, rfl⟩, rfl⟩
  · intro member
    obtain ⟨item, given, rfl⟩ := List.mem_map.mp member
    obtain ⟨selected, isAggregate⟩ := List.mem_filter.mp given
    cases item with
    | all => cases isAggregate
    | column name => cases isAggregate
    | call function operand =>
      obtain ⟨_, _, there⟩ := each function operand selected
      exact List.mem_map.mpr ⟨_, there, rfl⟩

theorem map_fst_aggregateCells (state : Accumulator) :
    (aggregateCells aggregates state).map (·.1) = aggregates.map (·.label) := by
  rw [aggregateCells, List.map_map]
  rfl

theorem fills_aggregateRow {rows : List Row} {row : Row}
    (made : aggregateRow rows items = .ok row) :
    row.Fills ((items.filter Expression.isAggregate).map Expression.label) := by
  obtain ⟨aggregates, known, made⟩ := bind_eq_ok made
  obtain ⟨state, _, same⟩ := bind_eq_ok made
  cases same
  refine Row.fills_ofList fun name => ?_
  rw [map_fst_aggregateCells, Aggregate.mem_labels known]

end Aggregates

section Groups

variable {fields : List String} {items : List Expression}

theorem mem_groupColumns {name : String} :
    name ∈ groupColumns fields items ↔ name ∈ fields ∨ name ∈ items.map Expression.label := by
  rw [← mem_foldl_mention, List.foldl_map]
  rfl

/-- The selected cells of a group are those of the selected columns. -/
theorem Group.mem_selectedCells {group : Group} (sameLength : group.values.length = fields.length)
    (checked : ∀ item ∈ items, Query.checkGrouped fields item = .ok ()) {name : String} :
    name ∈ (items.filterMap (selectedCell? fields group)).map (·.1) ↔ .column name ∈ items := by
  constructor
  · intro member
    obtain ⟨cell, made, rfl⟩ := List.mem_map.mp member
    obtain ⟨item, selected, itemCell⟩ := List.mem_filterMap.mp made
    cases item with
    | all => cases itemCell
    | call function operand => cases itemCell
    | column other =>
      obtain ⟨_, _, rfl⟩ := Option.map_eq_some_iff.mp itemCell
      exact selected
  · intro selected
    -- the column is one of the fields, and each field has a value
    obtain ⟨field, given, like⟩ := List.any_eq_true.mp (any_sameColumn (checked _ selected))
    have fieldsKept : (fields.zip group.values).map (·.1) = fields :=
      List.map_fst_zip (Nat.le_of_eq sameLength.symm)
    rw [← fieldsKept] at given
    obtain ⟨entry, there, rfl⟩ := List.mem_map.mp given
    obtain ⟨first, found⟩ : ∃ first, (fields.zip group.values).find?
        (fun entry => sameColumn entry.1 name) = some first :=
      Option.isSome_iff_exists.mp (List.find?_isSome.mpr ⟨entry, there, like⟩)
    have cell : selectedCell? fields group (.column name) = some (name, first.2) := by
      rw [selectedCell?]
      exact Option.map_eq_some_iff.mpr ⟨first, found, rfl⟩
    exact List.mem_map.mpr ⟨_, List.mem_filterMap.mpr ⟨_, selected, cell⟩, rfl⟩

/-- The row of a group fills the columns of grouped rows. -/
theorem Group.fills_row {aggregates : List Aggregate} {group : Group}
    (known : Aggregate.ofItems items = .ok aggregates)
    (checked : ∀ item ∈ items, Query.checkGrouped fields item = .ok ())
    (sameLength : group.values.length = fields.length) :
    (group.row fields items aggregates).Fills (groupColumns fields items) := by
  refine Row.fills_ofList fun name => ?_
  have fieldsKept : (fields.zip group.values).map (·.1) = fields :=
    List.map_fst_zip (Nat.le_of_eq sameLength.symm)
  rw [List.map_append, List.map_append, List.mem_append, List.mem_append, fieldsKept,
    mem_selectedCells sameLength checked, map_fst_aggregateCells, Aggregate.mem_labels known,
    mem_groupColumns, or_assoc]
  refine or_congr_right ⟨fun either => ?_, fun labelled => ?_⟩
  · rcases either with selected | aggregated
    · exact List.mem_map.mpr ⟨_, selected, rfl⟩
    · obtain ⟨item, given, rfl⟩ := List.mem_map.mp aggregated
      exact List.mem_map.mpr ⟨item, (List.mem_filter.mp given).1, rfl⟩
  · obtain ⟨item, selected, rfl⟩ := List.mem_map.mp labelled
    cases item with
    | all => cases checked _ selected
    | column name => exact Or.inl selected
    | call function operand =>
      exact Or.inr (List.mem_map.mpr ⟨_, List.mem_filter.mpr ⟨selected, rfl⟩, rfl⟩)

theorem fills_groupRows {rows out : List Row} (grouped : groupRows rows fields items = .ok out)
    (checked : ∀ item ∈ items, Query.checkGrouped fields item = .ok ()) :
    ∀ row ∈ out, row.Fills (groupColumns fields items) := by
  obtain ⟨aggregates, known, rest⟩ := bind_eq_ok grouped
  obtain ⟨groups, added, same⟩ := bind_eq_ok rest
  cases same
  have tracks := Group.tracks_nil.addRows added
  intro row member
  obtain ⟨group, given, rfl⟩ := List.mem_map.mp member
  obtain ⟨first, _, read⟩ := tracks.values group given
  have sameLength : group.values.length = fields.length := by
    rw [Row.eq_shown_of_mapM read, Row.shown, List.length_map]
  exact Group.fills_row known checked sameLength

end Groups

/-! ## Select statements -/

namespace Query

variable {query : Query} {source found : Rows}

theorem checkGrouped_of_checkGroups (checked : query.checkGroups = .ok ()) {fields : List String}
    (grouped : query.groupBy = some fields) :
    ∀ item ∈ query.fields, checkGrouped fields item = .ok () := by
  rw [checkGroups, grouped] at checked
  exact forM_eq_ok checked

/-- Behind grouping the rows are kept as they are, and what is not grouped is projected. -/
theorem matched_arranged (arranged : query.arranged source = .ok found)
    (matched : query.groupBy.isSome = true → source.Matched) : found.Matched := by
  obtain ⟨kept, within, selects⟩ := arranged_eq_ok arranged
  unfold selected at selects
  split at selects
  · rename_i grouped
    cases selects
    exact within.matched (matched grouped)
  · obtain ⟨rows, projected, same⟩ := bind_eq_ok selects
    cases same
    intro row member
    obtain ⟨_, _, made⟩ := (mem_of_mapM_eq_ok projected).2 row member
    exact fills_projectRow made

theorem matched_afterSource (checked : query.checkGroups = .ok ())
    (made : query.afterSource source = .ok found) : found.Matched := by
  obtain ⟨met, _, made⟩ := bind_eq_ok made
  split at made
  · obtain ⟨row, aggregated, same⟩ := bind_eq_ok made
    cases same
    intro only member
    cases List.mem_singleton.mp member
    exact fills_aggregateRow aggregated
  · obtain ⟨grouped, groups, arranged⟩ := bind_eq_ok made
    refine matched_arranged arranged fun isGrouped => ?_
    obtain ⟨fields, isFields⟩ := Option.isSome_iff_exists.mp isGrouped
    rw [isFields] at groups
    obtain ⟨rows, rowsMade, same⟩ := bind_eq_ok groups
    cases same
    exact fills_groupRows rowsMade (checkGrouped_of_checkGroups checked isFields)

end Query

/-- Whatever a select statement text shows, each of its rows has a cell for every column of
the result and for nothing else. -/
theorem Session.rows_matched {σ : Type} [Store σ] {store : σ} {sql : String} {rows : Rows}
    (shown : (executeText store sql).1 = .ok (.rows rows)) : rows.Matched := by
  have cases := effect store sql
  cases outcome : executeText store sql with
  | mk result stored =>
  rw [outcome] at cases shown
  cases shown
  cases cases with
  | selected parsed checked found =>
    obtain ⟨source, _, made⟩ := bind_eq_ok found
    exact Query.matched_afterSource checked made

/-- Grouped rows of an outer join: the group field is selected under another name, and an
aggregate stands beside it. -/
theorem Session.rows_matched_leftJoin :
    let store := MemoryStore.ofTables
      [Table.ofRecords "a" ["k"] [["x"], ["y"], ["x"]], Table.ofRecords "b" ["k"] [["x"]]]
    let sql := "SELECT DISTINCT a.k, COUNT(b.k) FROM a LEFT JOIN b ON a.k = b.k GROUP BY k LIMIT 2"
    ∃ rows : Rows, (executeText store sql).1 = .ok (.rows rows) ∧
      rows.columns = ["k", "a.k", "COUNT(b.k)"] ∧ rows.rows.length = 2 ∧ rows.Matched := by
  intro store sql
  have shown : (executeText store sql).1 = .ok (.rows ⟨["k", "a.k", "COUNT(b.k)"],
      [NameMap.ofList [("k", .text "x"), ("a.k", .text "x"), ("COUNT(b.k)", .integer 2)],
        NameMap.ofList [("k", .text "y"), ("a.k", .text "y"), ("COUNT(b.k)", .integer 1)]]⟩) := by
    decide +kernel
  exact ⟨_, shown, rfl, rfl, rows_matched shown⟩

end TableQuery
