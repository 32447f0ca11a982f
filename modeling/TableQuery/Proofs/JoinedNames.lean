import TableQuery.Proofs.Faults
import TableQuery.Proofs.JoinPruning
import TableQuery.Proofs.ResultRows
import TableQuery.Proofs.UnknownFields

/-!
Names behind a join.

A joined row is made label by label, and where the two rows have no cell for a label it holds
null. So joined rows match the columns of their join whatever the rows of the tables hold
(`Rows.matched_joined`). A join is asked for every column that its statement refers to, and
the steps behind it read no other names but sort keys: these alone can be unknown there, and
only when they name aggregates or what a grouped result does not show
(`Session.unknown_behind_join`).
-/

namespace TableQuery

/-! ## Joined rows -/

namespace JoinLayout

variable {base other : Table}

/-- A joined row has a cell for every column of the join, and no other. -/
theorem fills_pairRow (labels : List String) (keys : String × String) (kind : JoinKind)
    (pair : Row × Option Row) :
    ((ofLabels base other labels keys).pairRow base kind pair).Fills
      ((ofLabels base other labels keys).columns base kind) := by
  intro name
  have header : (base.qualifiedColumns.zip (base.record pair.1)).map (·.1) =
      base.qualifiedColumns :=
    List.map_fst_zip (by simp [Table.qualifiedColumns, Table.record])
  have inBase := NameMap.isSome_get?_insertAll .empty
    (base.qualifiedColumns.zip (base.record pair.1)) name
  rw [header, ← NameMap.ofList, NameMap.get?_empty] at inBase
  rw [get?_pairRow, columns_ofLabels, mem_foldl_mention]
  by_cases label : name ∈ labels
  · simp [label]
  · rw [if_neg label]
    by_cases inner : kind = .inner
    · simp [label, inner]
    · rw [if_neg inner, if_neg inner, inBase]
      simp [label]

end JoinLayout

namespace Rows

variable {base other : Table} {fields : List String} {source : Rows}

/-- The rows of a join fill its columns, whatever the rows of the tables hold. -/
theorem matched_joined {join : Join} {all : Bool}
    (made : joined base other join fields all = .ok source) : source.Matched := by
  obtain ⟨keys, _, _, rfl⟩ := joined_eq_ok made
  intro row member
  rw [ofLabels, JoinLayout.rows_eq] at member
  obtain ⟨pair, _, rfl⟩ := List.mem_map.mp member
  exact JoinLayout.fills_pairRow _ keys join.kind pair

/-- Every field that a join is asked for is one of its columns. -/
theorem mem_columns_joined {join : Join} {all : Bool}
    (made : joined base other join fields all = .ok source) {field : String}
    (requested : field ∈ fields) : field ∈ source.columns := by
  obtain ⟨keys, _, _, rfl⟩ := joined_eq_ok made
  rw [ofLabels, JoinLayout.columns_ofLabels, mem_foldl_mention]
  exact Or.inr (mem_joinFields.mpr (Or.inr requested))

end Rows

/-- The columns and rows of the source of a select with a join are those of a join of two
tables. -/
theorem Query.joined_of_sourceRows {σ : Type} [Store σ] {query : Query} {join : Join} {store : σ}
    {source : Rows} (joins : query.join = some join)
    (read : query.sourceRows store = .ok source) :
    ∃ base other : Table, Rows.joined base other join query.referencedFields
      (query.fields.contains .all) = .ok source := by
  rw [sourceRows, joins] at read
  obtain ⟨base, _, read⟩ := bind_eq_ok read
  obtain ⟨other, _, made⟩ := bind_eq_ok read
  exact ⟨_, _, made⟩

/-! ## Names that are columns -/

theorem Row.lookup_faults_of_fills {allowed : Fault → Prop} {columns : List String} {row : Row}
    (fills : row.Fills columns) {name : String} (known : name ∈ columns) :
    FaultsIn allowed (row.lookup name) := by
  rw [lookup_of_resolved fills (resolves_of_mem known)]
  exact .ok _

/-- A sort key means a column, unless it is none and like none. -/
theorem sortColumn_cases (columns : List String) (field : String) :
    sortColumn columns field ∈ columns ∨ sortColumn columns field = field ∧ field ∉ columns := by
  unfold sortColumn
  split
  · rename_i known
    exact Or.inl (List.contains_iff_mem.mp known)
  · rename_i unknown
    cases like : columns.find? (sameAggregate field) with
    | some column => exact Or.inl (List.mem_of_find?_eq_some like)
    | none => exact Or.inr ⟨rfl, fun known => unknown (List.contains_iff_mem.mpr known)⟩

/-- A fault that is not about a name. -/
def Fault.Nameless (fault : Fault) : Prop :=
  ∀ cause, fault ≠ .field cause

namespace Rows

variable {source : Rows}

theorem filtered_eq_ok_of_columns (matched : source.Matched) {conditions : List Condition}
    (known : ∀ condition ∈ conditions, condition.field ∈ source.columns) :
    ∃ met, filtered conditions source = .ok met := by
  have decides : ∀ row ∈ source.rows, Condition.Decides conditions row := fun row member =>
    Condition.decides_of_resolved (matched row member) fun condition given =>
      resolves_of_mem (known condition given)
  rw [filtered, splitRows_of_decides decides]
  exact ⟨_, rfl⟩

/-- Sorting fails for a key that is no column only. -/
theorem ordered_faults (matched : source.Matched) (keys : List SortKey) :
    FaultsIn (fun fault => ∃ key ∈ keys, fault = .field (.unknown key.1) ∧
      key.1 ∉ source.columns) (ordered keys source) := by
  refine FaultsIn.bind (sortRows_faults fun row member key given => ?_) fun _ _ => .ok _
  obtain ⟨key, inKeys, rfl⟩ := List.mem_map.mp given
  rcases sortColumn_cases source.columns key.1 with known | ⟨itself, unknown⟩
  · exact Row.lookup_faults_of_fills (matched row member) known
  · dsimp only
    rw [itself, Row.lookup]
    split
    · exact .ok _
    · exact .error ⟨key, inKeys, rfl, unknown⟩

theorem projected_eq_ok_of_columns (matched : source.Matched) {items : List Expression}
    (known : ∀ label ∈ outputColumns source.columns items, label ∈ source.columns) :
    ∃ found, projected items source = .ok found := by
  have faultless : FaultsIn (fun _ => False)
      (source.rows.mapM (projectRow (outputColumns source.columns items))) :=
    FaultsIn.mapM fun row member => projectRow_faults fun label given =>
      Row.lookup_faults_of_fills (matched row member) (known label given)
  rw [projected]
  cases made : source.rows.mapM (projectRow (outputColumns source.columns items)) with
  | ok rows => exact ⟨_, rfl⟩
  | error fault => exact (faultless fault made).elim

end Rows

/-! ## The steps behind a join -/

namespace Query

/-- A sort key that can be unknown behind a join: the label of an aggregate, or of grouped rows
what is none of their columns. -/
def Unsortable (query : Query) (key : String) : Prop :=
  match query.groupBy with
  | none => ∃ function operand, key = (Expression.call function operand).label
  | some fields => key ∉ groupColumns fields query.fields

/-- The steps of a select find every name in the rows of a source. Testing the conditions and
projecting cannot fail at all, grouping and aggregating not for a name, and sorting for a name
only when that is a key of the kind that can be unknown. -/
structure NamesResolve (query : Query) (source : Rows) : Prop where
  filtered : ∃ met, Rows.filtered query.conditions source = .ok met
  aggregated : ∀ met, Rows.Within source met →
    ∀ cause, Rows.aggregated query.fields met ≠ .error (.field cause)
  grouped : ∀ fields, query.groupBy = some fields → ∀ met, Rows.Within source met →
    ∀ cause, Rows.grouped fields query.fields met ≠ .error (.field cause)
  ordered : query.checkGroups = .ok () → ∀ met, Rows.Within source met →
    ∀ grouped, Rows.optionally (Rows.grouped · query.fields) query.groupBy met = .ok grouped →
    ∀ keys, query.orderBy = some keys →
    ∀ cause, Rows.ordered keys grouped = .error (.field cause) →
      ∃ key ∈ keys, cause = .unknown key.1 ∧ query.Unsortable key.1
  projected : query.aggregatesAll = false → query.groupBy = none →
    ∀ kept, Rows.Within source kept → ∃ found, Rows.projected query.fields kept = .ok found

section Steps

variable {query : Query} {source : Rows}

/-- The labels of a select list without aggregates are columns when the columns that the
statement refers to are. -/
theorem mem_columns_of_output {columns : List String}
    (referenced : ∀ name ∈ query.referencedFields, name ∈ columns)
    (noCall : query.fields.any Expression.isAggregate = false) :
    ∀ label ∈ outputColumns columns query.fields, label ∈ columns := by
  intro label member
  obtain ⟨item, selected, shown⟩ := List.mem_flatMap.mp member
  cases item with
  | all => exact shown
  | column name =>
    cases List.mem_singleton.mp shown
    exact referenced name (mem_referencedFields_of_item selected rfl)
  | call function operand =>
    have call : query.fields.any Expression.isAggregate = true :=
      List.any_eq_true.mpr ⟨_, selected, rfl⟩
    rw [noCall] at call
    cases call

/-- Grouped rows fill their columns, and without grouping the rows are those of the source. -/
theorem matched_optionally_grouped (matched : source.Matched)
    (checked : query.checkGroups = .ok ()) {grouped : Rows}
    (groups : Rows.optionally (Rows.grouped · query.fields) query.groupBy source = .ok grouped) :
    grouped.Matched := by
  cases fields : query.groupBy with
  | none =>
    rw [fields] at groups
    cases groups
    exact matched
  | some names =>
    rw [fields] at groups
    obtain ⟨rows, made, same⟩ := bind_eq_ok groups
    cases same
    exact fills_groupRows made (checkGrouped_of_checkGroups checked fields)

/-- A sort key is unsortable when the rows that are sorted do not have it as a column. -/
theorem unsortable_of_not_mem (wellFormed : query.WellFormed)
    (referenced : ∀ name ∈ query.referencedFields, name ∈ source.columns) {grouped : Rows}
    (groups : Rows.optionally (Rows.grouped · query.fields) query.groupBy source = .ok grouped)
    {keys : List SortKey} (sorted : query.orderBy = some keys) {key : SortKey}
    (given : key ∈ keys) (unknown : key.1 ∉ grouped.columns) : query.Unsortable key.1 := by
  unfold Unsortable
  cases fields : query.groupBy with
  | none =>
    rw [fields] at groups
    cases groups
    rcases isSortField_cases ((wellFormed.orderBy keys sorted).2 key given) with
      ⟨_, noParen⟩ | ⟨function, operand, _, label⟩
    · exact absurd (referenced _ (mem_referencedFields_of_key sorted given noParen)) unknown
    · exact ⟨function, operand, label⟩
  | some names =>
    rw [fields] at groups
    obtain ⟨rows, _, same⟩ := bind_eq_ok groups
    cases same
    exact unknown

/-- Names resolve in rows that match columns among which are all that a statement refers to. -/
theorem namesResolve_of_columns (wellFormed : query.WellFormed) (matched : source.Matched)
    (referenced : ∀ name ∈ query.referencedFields, name ∈ source.columns) :
    query.NamesResolve source := by
  have reads (met : Rows) (within : Rows.Within source met) :
      ∀ row ∈ met.rows, ∀ name ∈ query.referencedFields,
        FaultsIn Fault.Nameless (row.lookup name) := fun row member name given =>
    Row.lookup_faults_of_fills (matched row (within.rows row member)) (referenced name given)
  have uncounted (operand : String) : Fault.Nameless (.internal (.notNumeric operand)) := nofun
  refine ⟨?filtered, ?aggregated, ?grouped, ?ordered, ?projected⟩
  case filtered =>
    exact Rows.filtered_eq_ok_of_columns matched fun condition given =>
      referenced _ (mem_referencedFields_of_condition given)
  case aggregated =>
    intro met within cause failed
    have faults := aggregateRow_faults wellFormed.fields uncounted query.readsOperands
      (reads met within)
    exact (faults.bind fun row _ => .ok _) _ failed cause rfl
  case grouped =>
    intro fields isGrouped met within cause failed
    have faults := groupRows_faults wellFormed.fields uncounted query.readsOperands
      (fun _ => mem_referencedFields_of_group isGrouped) (reads met within)
    exact (faults.bind fun rows _ => .ok _) _ failed cause rfl
  case ordered =>
    intro checked met within grouped groups keys sorted cause failed
    have groupedMatched := matched_optionally_grouped (within.matched matched) checked groups
    obtain ⟨key, given, same, unknown⟩ := Rows.ordered_faults groupedMatched keys _ failed
    cases same
    have inMet : ∀ name ∈ query.referencedFields, name ∈ met.columns := fun name member =>
      within.columns.symm ▸ referenced name member
    exact ⟨key, given, rfl, unsortable_of_not_mem wellFormed inMet groups sorted given unknown⟩
  case projected =>
    intro notAll ungrouped kept within
    have noCall : query.fields.any Expression.isAggregate = false := by
      have flag := wellFormed.aggregatesAll
      rw [notAll, ungrouped] at flag
      exact flag.symm
    refine Rows.projected_eq_ok_of_columns (within.matched matched) ?_
    rw [within.columns]
    exact mem_columns_of_output referenced noCall

/-- What a select does with a source in which names resolve fails for no name but a sort key
that can be unknown. -/
theorem NamesResolve.afterSource (resolve : query.NamesResolve source)
    (checked : query.checkGroups = .ok ()) :
    FaultsIn (fun fault => ∀ cause, fault = .field cause →
      ∃ key ∈ query.orderBy.getD [], cause = .unknown key.1 ∧ query.Unsortable key.1)
      (query.afterSource source) := by
  obtain ⟨met, filtered⟩ := resolve.filtered
  have within : Rows.Within source met := Rows.filtered_within filtered
  unfold Query.afterSource
  rw [filtered]
  show FaultsIn _ (if query.aggregatesAll then Rows.aggregated query.fields met else _)
  split
  · rintro fault failed cause rfl
    exact absurd failed (resolve.aggregated met within cause)
  · rename_i notAll
    refine FaultsIn.bind (Rows.optionally_faults fun fields isGrouped => ?_) fun grouped groups => ?_
    · rintro fault failed cause rfl
      exact absurd failed (resolve.grouped fields isGrouped met within cause)
    · refine FaultsIn.bind (Rows.optionally_faults fun keys sorted => ?_) fun ordered sorts => ?_
      · rintro fault failed cause rfl
        rw [sorted]
        exact resolve.ordered checked met within grouped groups keys sorted cause failed
      · refine FaultsIn.bind (Rows.optionally_faults fun count _ => .ok _) fun limited cuts => ?_
        refine FaultsIn.bind ?_ fun distinct drops => ?_
        · unfold deduplicated
          split <;> exact .ok _
        · unfold selected
          split
          · exact .ok _
          · rename_i ungrouped
            have none : query.groupBy = none := by simpa using ungrouped
            rw [none] at groups
            cases groups
            have sorted : Rows.Within met ordered :=
              Rows.optionally_within (fun _ _ => Rows.ordered_within) sorts
            have cut : Rows.Within ordered limited :=
              Rows.optionally_within (fun _ _ => Rows.limited_within) cuts
            have kept := ((within.trans sorted).trans cut).trans (deduplicated_within drops)
            obtain ⟨found, shown⟩ := resolve.projected (by simpa using notAll) none distinct kept
            rw [shown]
            exact .ok found

end Steps

end Query

/-- Behind a join that succeeds every name resolves, whatever rows the two tables hold. No step
fails for a name but the sort, and when a statement text fails for a name, that name is a sort
key: the label of an aggregate, or of grouped rows what is none of their columns. -/
theorem Session.unknown_behind_join {σ : Type} [Store σ] {store : σ} {sql : String} {query : Query}
    {join : Join} {source : Rows} (parsed : Statement.ofText sql = .ok (.select query))
    (joins : query.join = some join)
    (joined : query.planSource.run store = (.ok (.rows source), store)) :
    query.NamesResolve source ∧
      ∀ cause, (executeText store sql).1 = .error (.execution (.field cause)) →
        ∃ key ∈ query.orderBy.getD [], cause = .unknown key.1 ∧ query.Unsortable key.1 := by
  have wellFormed : query.WellFormed := (Statement.parsed_of_ofText parsed).wellFormed
  have read : query.sourceRows store = .ok source := by
    rw [Query.run_planSource] at joined
    obtain ⟨rows, read, same⟩ := map_eq_ok (Prod.mk.inj joined).1
    cases same
    exact read
  obtain ⟨base, other, made⟩ := Query.joined_of_sourceRows joins read
  have resolve := Query.namesResolve_of_columns wellFormed (Rows.matched_joined made)
    fun name member => Rows.mem_columns_joined made member
  refine ⟨resolve, fun cause failed => ?_⟩
  rw [executeText_of_ok store parsed, execute_select, read] at failed
  cases checked : query.checkGroups with
  | error fault =>
    have refused : FaultsIn Fault.Nameless query.checkGroups :=
      query.checkGroups_faults fun _ => nofun
    rw [checked] at failed
    cases failed
    exact absurd rfl (refused _ checked cause)
  | ok _ =>
    rw [checked] at failed
    cases outcome : query.afterSource source with
    | ok rows =>
      simp only [bind, Except.bind, outcome] at failed
      cases failed
    | error fault =>
      simp only [bind, Except.bind, outcome] at failed
      cases failed
      exact resolve.afterSource checked _ outcome cause rfl

/-- Rows without some cells of their headers, joined and grouped: the only name that is not
found is a sort key that the groups do not show. -/
theorem Session.unknown_behind_join_grouped :
    let store := MemoryStore.ofTables
      [⟨"a", ["id", "k"], [.ofList [("k", .text "x")], .ofList [("id", .text "2")]]⟩,
        ⟨"b", ["k", "v"], [.ofList [("k", .text "x")], .ofList [("k", .text "z")]]⟩]
    let sql := "SELECT a.id, SUM(v) FROM a RIGHT JOIN b ON a.k = b.k " ++
      "WHERE v != 1 GROUP BY a.id ORDER BY b.v"
    ∃ query source, Statement.ofText sql = .ok (.select query) ∧
      query.planSource.run store = (.ok (.rows source), store) ∧ source.rows.length = 2 ∧
      (executeText store sql).1 = .error (.execution (.field (.unknown "b.v"))) ∧
      query.NamesResolve source ∧ query.Unsortable "b.v" := by
  intro store sql
  let query : Query :=
    { fields := [.column "a.id", .call "SUM" "v"], table := "a"
      join := some ⟨.right, "b", "a.k", "b.k"⟩, conditions := [⟨"v", .notEqual, "1"⟩]
      groupBy := some ["a.id"], aggregatesAll := false, orderBy := some [("b.v", .asc)]
      limit := none, distinct := false }
  let source : Rows := ⟨["a.id", "a.k", "v", "b.v"],
    [.ofList [("a.id", .null), ("a.k", .text "x"), ("v", .null), ("b.v", .null)],
      .ofList [("a.id", .null), ("a.k", .null), ("v", .null), ("b.v", .null)]]⟩
  have parsed : Statement.ofText sql = .ok (.select query) := by decide +kernel
  have joined : query.planSource.run store = (.ok (.rows source), store) := by decide +kernel
  have failed : (executeText store sql).1 = .error (.execution (.field (.unknown "b.v"))) := by
    decide +kernel
  obtain ⟨resolve, unknown⟩ := unknown_behind_join parsed rfl joined
  obtain ⟨key, _, same, unsortable⟩ := unknown _ failed
  rw [← FieldFault.unknown.inj same] at unsortable
  exact ⟨query, source, parsed, joined, rfl, failed, resolve, unsortable⟩

end TableQuery
