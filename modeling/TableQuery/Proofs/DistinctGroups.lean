import Mathlib.Data.List.Nodup
import TableQuery.Proofs.JoinedNames
import TableQuery.Proofs.StatementRoundTrip

/-!
Dropping repeated rows, and grouping by all that is shown.

A select that drops repeated rows keeps the first row of each list of values that it shows.
A grouped one has a group for each list of values of its fields, whose values are those of
the row that started it. So the groups are the rows that are kept
(`Group.values_of_addRows`), and when the columns have different bare names the row of a
group is the projection of the row that started it. Names that are not found are found in
no row, since the rows of a source match its columns (`Rows.Matched.reads`). So the two
statements do the same with every source (`Rows.grouped_eq_distinct`).
-/

namespace TableQuery

/-! ## Reading some names -/

/-- In rows that match their columns either all of some names are read, or the first of them
that is not found is reported by every row. -/
theorem Rows.Matched.reads {source : Rows} (matched : source.Matched) (names : List String) :
    (∀ row ∈ source.rows, names.mapM row.lookup = .ok (row.shown names)) ∨
      ∃ fault, ∀ row ∈ source.rows, names.mapM row.lookup = .error fault := by
  induction names with
  | nil => exact Or.inl fun row _ => rfl
  | cons name names ih =>
    cases known : resolves source.columns name with
    | false =>
      refine Or.inr ⟨.field (.unknown name), fun row member => ?_⟩
      rw [List.mapM_cons, Row.lookup_of_unresolved (matched row member) known]
      rfl
    | true =>
      rcases ih with all | ⟨fault, none⟩
      · refine Or.inl fun row member => ?_
        rw [List.mapM_cons, Row.lookup_of_resolved (matched row member) known, all row member]
        rfl
      · refine Or.inr ⟨fault, fun row member => ?_⟩
        rw [List.mapM_cons, Row.lookup_of_resolved (matched row member) known, none row member]
        rfl

/-- A row is projected on what it shows under the labels. -/
theorem projectRow_eq (labels : List String) (row : Row) :
    projectRow labels row =
      (labels.mapM row.lookup).map fun values => NameMap.ofList (labels.zip values) := by
  have cells : labels.mapM (fun label => (row.lookup label).map fun value => (label, value)) =
      (labels.mapM row.lookup).map labels.zip := by
    induction labels with
    | nil => rfl
    | cons label labels ih =>
      rw [List.mapM_cons, List.mapM_cons, ih]
      cases row.lookup label with
      | error fault => rfl
      | ok value => cases labels.mapM row.lookup <;> rfl
  rw [projectRow, cells]
  cases labels.mapM row.lookup <;> rfl

theorem mapM_projectRow {names : List String} {rows : List Row}
    (read : ∀ row ∈ rows, names.mapM row.lookup = .ok (row.shown names)) :
    rows.mapM (projectRow names) =
      .ok (rows.map fun row => NameMap.ofList (names.zip (row.shown names))) := by
  refine mapM_eq_ok fun row member => ?_
  rw [projectRow_eq, read row member]
  rfl

/-! ## The groups of rows -/

namespace Group

variable {aggregates : List Aggregate} {fields : List String} {groups after : List Group}

/-- A row adds its values to those of the groups, unless there is a group of them. -/
theorem values_of_addRow {row : Row}
    (added : Group.addRow aggregates fields groups row = .ok after) :
    after.map (·.values) =
      if row.groupValues fields ∈ groups.map key then groups.map (·.values)
      else groups.map (·.values) ++ [row.shown fields] := by
  obtain ⟨values, read, placed⟩ := bind_eq_ok added
  rw [Row.groupValues_of_mapM read, ← Row.eq_shown_of_mapM read]
  rcases place_cases placed with
    ⟨front, group, back, state, rfl, same, _, rfl⟩ | ⟨absent, state, _, rfl⟩
  · have known : values.map Value.canonical ∈ (front ++ group :: back).map key :=
      List.mem_map.mpr ⟨group, List.mem_append_right _ List.mem_cons_self, same⟩
    rw [if_pos known, List.map_append, List.map_append]
    rfl
  · have unknown : values.map Value.canonical ∉ groups.map key := by
      intro member
      obtain ⟨group, given, same⟩ := List.mem_map.mp member
      exact absent group given same
    rw [if_neg unknown, List.map_append]
    rfl

theorem key_eq (groups : List Group) :
    groups.map key = (groups.map (·.values)).map (List.map Value.canonical) := by
  rw [List.map_map]
  rfl

/-- The groups are those of the rows that are kept when of rows with equal values only the
first is. -/
theorem values_of_addRows {rows : List Row} {seen : List (List Value)}
    (added : rows.foldlM (Group.addRow aggregates fields) groups = .ok after)
    (known : ∀ values, values ∈ seen ↔ values ∈ groups.map key) :
    after.map (·.values) = groups.map (·.values) ++
      (firstByKey (Row.groupValues fields) seen rows).map (Row.shown fields) := by
  induction rows generalizing groups seen with
  | nil =>
    cases added
    exact (List.append_nil _).symm
  | cons row rows ih =>
    rw [List.foldlM_cons] at added
    obtain ⟨middle, first, rest⟩ := bind_eq_ok added
    have values := values_of_addRow first
    rw [firstByKey]
    by_cases here : row.groupValues fields ∈ groups.map key
    · rw [if_pos here] at values
      have same : middle.map key = groups.map key := by rw [key_eq, values, ← key_eq]
      rw [if_pos (List.contains_iff_mem.mpr ((known _).mpr here)), ih rest (same ▸ known), values]
    · rw [if_neg here] at values
      rw [if_neg fun has => here ((known _).mp (List.contains_iff_mem.mp has))]
      have grown : middle.map key = groups.map key ++ [row.groupValues fields] := by
        rw [key_eq, values, List.map_append, ← key_eq, List.map_singleton, Row.map_canonical_shown]
      have knownThere (values : List Value) :
          values ∈ row.groupValues fields :: seen ↔ values ∈ middle.map key := by
        rw [grown, List.mem_cons, List.mem_append, List.mem_singleton, known, or_comm]
      rw [ih rest knownThere, values, List.append_assoc]
      rfl

/-- Without aggregates rows are added to groups when their fields are read. -/
theorem exists_addRows {rows : List Row}
    (read : ∀ row ∈ rows, ∃ values, fields.mapM row.lookup = .ok values)
    (groups : List Group) : ∃ after, rows.foldlM (Group.addRow [] fields) groups = .ok after := by
  have places (values : List Value) (row : Row) (groups : List Group) :
      ∃ after, place [] values row groups = .ok after := by
    induction groups with
    | nil => exact ⟨_, rfl⟩
    | cons group groups ih =>
      rw [place]
      split
      · exact ⟨_, rfl⟩
      · obtain ⟨after, placed⟩ := ih
        rw [placed]
        exact ⟨_, rfl⟩
  induction rows generalizing groups with
  | nil => exact ⟨groups, rfl⟩
  | cons row rows ih =>
    obtain ⟨values, found⟩ := read row List.mem_cons_self
    obtain ⟨middle, placed⟩ := places values row groups
    have first : Group.addRow [] fields groups row = .ok middle := by
      rw [Group.addRow, found]
      exact placed
    rw [List.foldlM_cons, first]
    exact ih (fun other member => read other (List.mem_cons_of_mem _ member)) middle

end Group

/-! ## Select lists of columns -/

section Columns

variable {names : List String}

theorem Aggregate.ofItems_columns (names : List String) : ofItems (names.map .column) = .ok [] := by
  have each : (names.map Expression.column).mapM ofExpression? =
      .ok ((names.map Expression.column).map fun _ => none) := by
    refine mapM_eq_ok fun item member => ?_
    obtain ⟨name, _, rfl⟩ := List.mem_map.mp member
    rfl
  have empty : ((names.map Expression.column).map fun _ => none).filterMap id =
      ([] : List Aggregate) := by
    simp
  rw [ofItems, each]
  exact congrArg Except.ok empty

theorem groupColumns_columns (names : List String) :
    groupColumns names (names.map .column) = names := by
  rw [groupColumns, List.foldl_map]
  exact foldl_mention_of_subset fun name given => given

theorem outputColumns_columns (columns names : List String) :
    outputColumns columns (names.map .column) = names := by
  rw [Query.outputColumns_of_noStar (by simp), List.map_map]
  exact List.map_id _

theorem shownValues_columns (names : List String) (row : Row) :
    shownValues (names.map .column) row = row.shown names := by
  rw [shownValues, List.flatMap_map, Row.shown, List.map_eq_flatMap]
  rfl

/-- Keys that tell the same elements apart keep the same elements. -/
theorem firstByKey_congr {α κ κ' : Type} [BEq κ] [LawfulBEq κ] [BEq κ'] [LawfulBEq κ']
    {key : α → κ} {key' : α → κ'} (agree : ∀ a b, key a = key b ↔ key' a = key' b)
    (seen rest : List α) :
    firstByKey key (seen.map key) rest = firstByKey key' (seen.map key') rest := by
  induction rest generalizing seen with
  | nil => rfl
  | cons a rest ih =>
    have known : (seen.map key).contains (key a) = (seen.map key').contains (key' a) := by
      rw [Bool.eq_iff_iff, List.contains_iff_mem, List.contains_iff_mem, List.mem_map, List.mem_map]
      simp only [agree]
    rw [firstByKey, firstByKey, known, ih seen]
    exact congrArg (ite _ _) (congrArg (a :: ·) (ih (a :: seen)))

theorem distinctRows_columns (names : List String) (rows : List Row) :
    distinctRows (names.map .column) rows = firstByKey (Row.groupValues names) [] rows := by
  refine firstByKey_congr (fun a b => ?_) [] rows
  rw [Value.map_debugText_eq_iff, ← Value.map_canonical_eq_iff, shownValues_columns,
    shownValues_columns, Row.map_canonical_shown, Row.map_canonical_shown]

theorem Query.checkGrouped_columns :
    ∀ item ∈ names.map Expression.column, checkGrouped names item = .ok () := by
  intro item member
  obtain ⟨name, given, rfl⟩ := List.mem_map.mp member
  have like : names.any (sameColumn · name) = true :=
    List.any_eq_true.mpr ⟨name, given, by simp [sameColumn]⟩
  rw [checkGrouped, if_pos like]

/-- A group of columns with different bare names shows its values under them. -/
theorem Group.row_columns (apart : (names.map bareName).Nodup) {group : Group}
    {value : String → Value} (values : group.values = names.map value) :
    group.row names (names.map .column) [] = NameMap.ofList (names.zip group.values) := by
  refine NameMap.ext_get? fun name => ?_
  rw [zip_values values, NameMap.get?_ofList_map]
  by_cases given : name ∈ names
  · have alone : ∀ other ∈ names, sameColumn other name → other = name := by
      intro other member like
      rw [sameColumn, Bool.or_eq_true, beq_iff_eq, beq_iff_eq] at like
      exact like.elim id fun bare => List.inj_on_of_nodup_map apart member given bare
    rw [if_pos given, get?_row values Query.checkGrouped_columns (Or.inl given) List.not_mem_nil,
      source_eq_self _ alone]
  · have sameLength : group.values.length = names.length := by rw [values, List.length_map]
    have fills := fills_row (Aggregate.ofItems_columns names) Query.checkGrouped_columns sameLength
    rw [groupColumns_columns] at fills
    rw [if_neg given, ← Option.not_isSome_iff_eq_none, fills]
    exact given

/-- Groups with the values that some rows show are shown as these rows are projected. -/
theorem Group.map_row_columns (apart : (names.map bareName).Nodup) {groups : List Group}
    {rows : List Row} (values : groups.map (·.values) = rows.map (Row.shown names)) :
    groups.map (Group.row names (names.map .column) []) =
      rows.map fun row => NameMap.ofList (names.zip (row.shown names)) := by
  have shows : groups.map (Group.row names (names.map .column) []) =
      (groups.map (·.values)).map fun values => NameMap.ofList (names.zip values) := by
    rw [List.map_map]
    refine List.map_congr_left fun group member => ?_
    have given : group.values ∈ groups.map (·.values) := List.mem_map_of_mem member
    rw [values] at given
    obtain ⟨row, _, same⟩ := List.mem_map.mp given
    exact row_columns apart same.symm
  rw [shows, values, List.map_map]
  rfl

end Columns

namespace Rows

variable {names : List String} {met : Rows}

/-- Grouping rows by all that is shown of them keeps what dropping repeated ones keeps, and
fails when and as that does. -/
theorem grouped_eq_distinct (matched : met.Matched) (apart : (names.map bareName).Nodup) :
    grouped names (names.map .column) met =
      distinct (names.map .column) met >>= projected (names.map .column) := by
  rw [grouped, groupRows, Aggregate.ofItems_columns, groupColumns_columns]
  simp only [distinct, distinctRows_columns, projected, outputColumns_columns, bind, Except.bind]
  rcases matched.reads names with all | ⟨fault, none⟩
  · -- every group has the values of a row that is kept
    obtain ⟨groups, added⟩ := Group.exists_addRows (fun row member => ⟨_, all row member⟩) []
    have values : groups.map (·.values) =
        (firstByKey (Row.groupValues names) [] met.rows).map (Row.shown names) :=
      Group.values_of_addRows added fun _ => Iff.rfl
    have projects := mapM_projectRow fun row member =>
      all row ((firstByKey_sublist (Row.groupValues names) [] met.rows).subset member)
    rw [added, projects]
    simp only [Group.map_row_columns apart values]
    rfl
  · cases rows : met.rows with
    | nil => rfl
    | cons row rest =>
      -- the first row is the first to be looked at on either side
      have failed := none row (rows ▸ List.mem_cons_self)
      have adding : Group.addRow [] names [] row = .error fault := by
        rw [Group.addRow, failed]
        rfl
      have projecting : projectRow names row = .error fault := by
        rw [projectRow_eq, failed]
        rfl
      have kept : firstByKey (Row.groupValues names) [] (row :: rest) =
          row :: firstByKey (Row.groupValues names) [row.groupValues names] rest := rfl
      rw [List.foldlM_cons, adding, kept, List.mapM_cons, projecting]
      rfl

end Rows

/-! ## The two statements -/

namespace Query

/-- The select of some columns that drops repeated rows. -/
def distinctColumns (table : String) (join : Option Join) (conditions : List Condition)
    (names : List String) : Query :=
  { fields := names.map .column, table, join, conditions, groupBy := none, aggregatesAll := false
    orderBy := none, limit := none, distinct := true }

/-- The select of some columns that groups by all of them. -/
def groupedColumns (table : String) (join : Option Join) (conditions : List Condition)
    (names : List String) : Query :=
  { fields := names.map .column, table, join, conditions, groupBy := some names
    aggregatesAll := false, orderBy := none, limit := none, distinct := false }

section Statements

variable {σ : Type} [Store σ] {store : σ} {names : List String} (table : String)
  (join : Option Join) (conditions : List Condition)

/-- Group fields that are selected anyway are referred to anyway. -/
theorem referencedFields_groupedColumns :
    (groupedColumns table join conditions names).referencedFields =
      (distinctColumns table join conditions names).referencedFields := by
  have items : (names.map Expression.column).filterMap itemColumn? = names := by
    rw [List.filterMap_map]
    exact List.filterMap_some
  simp only [referencedFields, groupedColumns, distinctColumns, items, Option.getD_some,
    Option.getD_none, sortColumns, List.map_nil, List.filter_nil, List.append_nil]
  rw [firstMentions, List.foldl_append]
  refine foldl_mention_of_subset fun name given => mem_foldl_mention.mpr (Or.inr ?_)
  exact List.mem_append_left _ given

theorem sourceRows_groupedColumns :
    (groupedColumns table join conditions names).sourceRows store =
      (distinctColumns table join conditions names).sourceRows store := by
  cases join with
  | none => rfl
  | some join =>
    simp only [sourceRows, joinOf, referencedFields_groupedColumns table]
    rfl

/-- The rows that a select starts from match their columns, when the rows of the tables do. -/
theorem matched_sourceRows (filled : ∀ name table, Store.read store name = .ok table → table.Filled)
    {query : Query} {source : Rows} (read : query.sourceRows store = .ok source) :
    source.Matched := by
  cases joins : query.join with
  | none =>
    rw [sourceRows, joins] at read
    obtain ⟨table, found, rfl⟩ := map_eq_ok read
    exact filled query.table table found
  | some join =>
    obtain ⟨base, other, made⟩ := joined_of_sourceRows joins read
    exact Rows.matched_joined made

theorem afterSource_groupedColumns {source : Rows} (matched : source.Matched)
    (apart : (names.map bareName).Nodup) :
    (groupedColumns table join conditions names).afterSource source =
      (distinctColumns table join conditions names).afterSource source := by
  have grouping (met : Rows) : Rows.grouped names (names.map .column) met >>=
      (groupedColumns table join conditions names).arranged =
        Rows.grouped names (names.map .column) met :=
    bind_pure _
  unfold afterSource
  cases filtered : Rows.filtered conditions source with
  | error fault =>
    simp only [groupedColumns, distinctColumns, filtered]
    rfl
  | ok met =>
    have metMatched := (Rows.filtered_within filtered).matched matched
    have same := Rows.grouped_eq_distinct metMatched apart
    rw [← grouping met] at same
    simp only [groupedColumns, distinctColumns, filtered] at same ⊢
    exact same

theorem wellFormed_groupedColumns
    (wellFormed : (distinctColumns table join conditions names).WellFormed) :
    (groupedColumns table join conditions names).WellFormed := by
  refine { wellFormed with groupBy := ?_, orderBy := wellFormed.orderBy, aggregatesAll := rfl }
  rintro fields same
  cases same
  refine ⟨fun none => wellFormed.someField ?_, fun name given => ?_⟩
  · rw [distinctColumns, none]
    rfl
  · exact wellFormed.fields _ (List.mem_map_of_mem given)

end Statements

end Query

/-- A select of columns with different bare names that drops repeated rows and one that groups by
all the columns give the same columns and the same rows in the same order, or fail with the same
error, whatever table, join and conditions they have, when the rows of the stored tables
fill their headers. So do their texts. -/
theorem Session.execute_distinctColumns {σ : Type} [Store σ] {store : σ}
    (filled : ∀ name table, Store.read store name = .ok table → table.Filled)
    {names : List String} (apart : (names.map bareName).Nodup) (table : String)
    (join : Option Join) (conditions : List Condition) :
    let distinct := Statement.select (.distinctColumns table join conditions names)
    let grouped := Statement.select (.groupedColumns table join conditions names)
    execute store distinct = execute store grouped ∧
      (distinct.WellFormed → ∀ mark, Token.isQuote mark = true → ∀ ending ∈ ["", ";"],
        executeText store (distinct.render mark ++ ending) =
          executeText store (grouped.render mark ++ ending)) := by
  intro distinct grouped
  have executes : execute store distinct = execute store grouped := by
    have checked : (Query.groupedColumns table join conditions names).checkGroups = .ok () :=
      forM_of_forall Query.checkGrouped_columns
    have ungrouped : (Query.distinctColumns table join conditions names).checkGroups = .ok () := rfl
    rw [execute_select, execute_select, checked, ungrouped, Query.sourceRows_groupedColumns]
    cases read : (Query.distinctColumns table join conditions names).sourceRows store with
    | error fault => rfl
    | ok source =>
      have matched := Query.matched_sourceRows filled read
      have same := Query.afterSource_groupedColumns table join conditions matched apart
      simp only [bind, Except.bind, same]
  refine ⟨executes, fun wellFormed mark quote ending closing => ?_⟩
  have groupedWellFormed : grouped.WellFormed := Query.wellFormed_groupedColumns _ _ _ wellFormed
  rw [executeText_of_ok store (Statement.ofText_render_select quote wellFormed closing),
    executeText_of_ok store (Statement.ofText_render_select quote groupedWellFormed closing),
    executes]

/-- Two statement texts with a join: rows without a partner, and a repeated one. -/
theorem Session.execute_distinctColumns_rightJoin :
    let store := MemoryStore.ofTables [Table.ofRecords "a" ["id", "x"] [["1", "p"], ["2", "p"]],
      Table.ofRecords "b" ["id", "y"] [["2", "u"], ["3", "u"], ["1", "u"], ["4", "v"], ["5", "u"]]]
    let part := "a.x, b.y FROM a RIGHT JOIN b ON a.id = b.id WHERE b.id < 5"
    let shown : Rows := ⟨["a.x", "b.y"],
      [.ofList [("a.x", .text "p"), ("b.y", .text "u")], .ofList [("a.x", .null), ("b.y", .text "u")],
        .ofList [("a.x", .null), ("b.y", .text "v")]]⟩
    (executeText store ("SELECT DISTINCT " ++ part)).1 = .ok (.rows shown) ∧
      (executeText store ("SELECT " ++ part ++ " GROUP BY a.x, b.y")).1 = .ok (.rows shown) := by
  intro store part shown
  have filled : ∀ name table, Store.read store name = .ok table → table.Filled := by
    intro name table found
    have given := MemoryStore.mem_of_read_ofTables found
    simp only [List.mem_cons, List.not_mem_nil, or_false] at given
    rcases given with rfl | rfl <;> exact Table.filled_ofRecords (by decide)
  have apart : (["a.x", "b.y"].map bareName).Nodup := by decide
  have same := (execute_distinctColumns filled apart "a" (some ⟨.right, "b", "a.id", "b.id"⟩)
    [⟨"b.id", .less, "5"⟩]).1
  have distinct : Statement.ofText ("SELECT DISTINCT " ++ part) = .ok (.select (.distinctColumns
      "a" (some ⟨.right, "b", "a.id", "b.id"⟩) [⟨"b.id", .less, "5"⟩] ["a.x", "b.y"])) := by
    decide +kernel
  have grouped : Statement.ofText ("SELECT " ++ part ++ " GROUP BY a.x, b.y") =
      .ok (.select (.groupedColumns "a" (some ⟨.right, "b", "a.id", "b.id"⟩)
        [⟨"b.id", .less, "5"⟩] ["a.x", "b.y"])) := by
    decide +kernel
  have first : (executeText store ("SELECT DISTINCT " ++ part)).1 = .ok (.rows shown) := by
    decide +kernel
  refine ⟨first, ?_⟩
  rw [executeText_of_ok store grouped, ← same, ← executeText_of_ok store distinct]
  exact first

end TableQuery
