import Mathlib.Data.List.Nodup
import TableQuery.Proofs.JoinPruning
import TableQuery.Proofs.StatementEffect

/-!
The columns of a select result.

The steps behind the source of a select know its columns by name only, and of these no
more than `*` stands for. So the result has columns that the select list, the group fields
and the columns of the source tell (`Query.columns_afterSource`), whichever rows are kept,
in whatever order. The columns of a table are its header. Those of a join are the labels
that it was asked for, and a join that is asked for every column is asked for the bare
names of the statement as well, wherever these stand: they have no qualifier, so they are
none of the columns and come behind them (`Query.bareMentions`).
-/

namespace TableQuery

/-! ## Qualified columns -/

namespace Table

theorem dotted_of_mem_qualifiedColumns {table : Table} {name : String}
    (member : name ∈ table.qualifiedColumns) : '.' ∈ name.toList := by
  obtain ⟨column, _, rfl⟩ := List.mem_map.mp member
  rw [toList_qualified]
  exact List.mem_append_right _ List.mem_cons_self

theorem nodup_qualifiedColumns {table : Table} (distinct : table.columns.Nodup) :
    table.qualifiedColumns.Nodup :=
  distinct.map fun _ _ => qualified_inj

/-- Tables of different names share no qualified column. -/
theorem not_mem_qualifiedColumns {base other : Table} (different : base.name ≠ other.name)
    (baseUndotted : '.' ∉ base.name.toList) (otherUndotted : '.' ∉ other.name.toList)
    {name : String} (member : name ∈ other.qualifiedColumns) : name ∉ base.qualifiedColumns := by
  intro inBase
  obtain ⟨column, _, rfl⟩ := List.mem_map.mp member
  obtain ⟨baseColumn, _, same⟩ := List.mem_map.mp inBase
  have split := splitFirst?_qualified baseUndotted baseColumn
  rw [same, splitFirst?_qualified otherUndotted] at split
  exact different (String.toList_inj.mp (Prod.mk.inj (Option.some.inj split)).1).symm

end Table

/-! ## Columns of a join -/

namespace JoinLayout

variable {base other : Table}

/-- A qualified name that resolves is a qualified column of one of the tables. -/
theorem mem_of_resolve {field : String} {place : Side × String}
    (resolved : resolve base other field = .ok place) (dotted : '.' ∈ field.toList) :
    field ∈ base.qualifiedColumns ++ other.qualifiedColumns := by
  unfold resolve at resolved
  cases split : Text.splitFirst? '.' field.toList with
  | none => exact absurd dotted (Text.splitFirst?_eq_none_iff.mp split)
  | some parts =>
    obtain ⟨table, column⟩ := parts
    obtain ⟨shape, _⟩ := Text.splitFirst?_eq_some split
    have whole : field = qualified (String.ofList table) (String.ofList column) := by
      rw [← String.toList_inj, toList_qualified, shape, String.toList_ofList, String.toList_ofList]
    rw [split] at resolved
    dsimp only at resolved
    split at resolved
    · rename_i found here
      split at here
      · rename_i inBase
        rw [whole, inBase.1]
        exact List.mem_append_left _ (List.mem_map_of_mem (List.contains_iff_mem.mp inBase.2))
      · split at here
        · rename_i inOther
          rw [whole, inOther.1]
          exact List.mem_append_right _ (List.mem_map_of_mem (List.contains_iff_mem.mp inOther.2))
        · cases here
    · cases resolved

/-- In a join of a table with itself every name means a column of the base. -/
theorem side_of_resolve {field column : String} {side : Side} (sameName : base.name = other.name)
    (sameColumns : base.columns = other.columns)
    (resolved : resolve base other field = .ok (side, column)) : side = .base := by
  have has (name : String) : other.hasColumn name = base.hasColumn name := by
    rw [Table.hasColumn, Table.hasColumn, sameColumns]
  unfold resolve at resolved
  rw [← sameName] at resolved
  simp only [has] at resolved
  split at resolved
  · rename_i found here
    cases resolved
    split at here
    · split at here
      · cases here
        rfl
      · cases here
    · split at here
      · cases here
        rfl
      · cases here
  · cases resolved

/-- A table cannot be joined with itself. -/
theorem name_ne_of_keys {join : Join} {found : String × String}
    (resolved : keys base other join = .ok found)
    (sameColumns : base.name = other.name → base.columns = other.columns) :
    base.name ≠ other.name := by
  intro sameName
  -- every name resolves to the base table, but one side of the condition does not
  rcases keys_eq_ok.mp resolved with ⟨_, right⟩ | ⟨left, _⟩
  · cases side_of_resolve sameName (sameColumns sameName) right
  · cases side_of_resolve sameName (sameColumns sameName) left

/-- The columns that `*` shows of a join. An outer join starts with the base columns as they
are, and of the others a repeated one is shown once. -/
def allColumns (kind : JoinKind) (base other : Table) : List String :=
  (base.qualifiedColumns ++ other.qualifiedColumns).foldl
    (fun seen name => if seen.contains name then seen else seen ++ [name])
    (if kind = .inner then [] else base.qualifiedColumns)

theorem mem_allColumns {kind : JoinKind} {name : String} :
    name ∈ allColumns kind base other ↔
      name ∈ base.qualifiedColumns ++ other.qualifiedColumns := by
  rw [allColumns, mem_foldl_mention]
  refine ⟨fun either => either.elim (fun start => ?_) id, Or.inr⟩
  split at start
  · cases start
  · exact List.mem_append_left _ start

/-- Without repeated names in a header these are the columns of the base table and then those
of the other. -/
theorem allColumns_of_nodup (kind : JoinKind) (baseDistinct : base.columns.Nodup)
    (otherDistinct : other.columns.Nodup) (different : base.name ≠ other.name)
    (baseUndotted : '.' ∉ base.name.toList) (otherUndotted : '.' ∉ other.name.toList) :
    allColumns kind base other = base.qualifiedColumns ++ other.qualifiedColumns := by
  have baseNodup := Table.nodup_qualifiedColumns baseDistinct
  have otherNodup := Table.nodup_qualifiedColumns otherDistinct
  have apart : ∀ name ∈ other.qualifiedColumns, name ∉ base.qualifiedColumns :=
    fun _ => Table.not_mem_qualifiedColumns different baseUndotted otherUndotted
  have first : base.qualifiedColumns.foldl
      (fun seen name => if seen.contains name then seen else seen ++ [name])
        (if kind = .inner then [] else base.qualifiedColumns) = base.qualifiedColumns := by
    split
    · exact foldl_mention_of_nodup baseNodup fun _ _ => List.not_mem_nil
    · rw [foldl_mention_eq, foldl_mention_of_nodup baseNodup fun _ _ => List.not_mem_nil]
      simp
  rw [allColumns, List.foldl_append, first]
  exact foldl_mention_of_nodup otherNodup apart

/-- A join that is asked for every column and for some distinct fields that resolve shows
every column, and behind them the fields that are bare. -/
theorem columns_joinFields {fields : List String} (distinct : fields.Nodup)
    (resolved : unresolved? base other fields = none) (keys : String × String)
    (kind : JoinKind) :
    (ofLabels base other (Rows.joinFields base other fields true) keys).columns base kind =
      allColumns kind base other ++ fields.filter fun field => !field.toList.contains '.' := by
  have bare : (fields.filter fun field =>
      !(base.qualifiedColumns ++ other.qualifiedColumns).contains field) =
        fields.filter fun field => !field.toList.contains '.' := by
    refine List.filter_congr fun field member => congrArg _ ?_
    rw [Bool.eq_iff_iff, List.contains_iff_mem, List.contains_iff_mem]
    constructor
    · intro known
      rcases List.mem_append.mp known with inBase | inOther
      · exact Table.dotted_of_mem_qualifiedColumns inBase
      · exact Table.dotted_of_mem_qualifiedColumns inOther
    · intro dotted
      have noFault := List.findSome?_eq_none_iff.mp resolved field member
      cases found : resolve base other field with
      | ok place => exact mem_of_resolve found dotted
      | error fault =>
        rw [JoinLayout.field, found] at noFault
        cases noFault
  have labels : Rows.joinFields base other fields true =
      base.qualifiedColumns ++ other.qualifiedColumns ++
        fields.filter fun field => !field.toList.contains '.' := by
    rw [Rows.joinFields, if_pos rfl, foldl_mention_eq,
      foldl_mention_of_nodup distinct fun _ _ => List.not_mem_nil, List.nil_append, bare]
  rw [columns_ofLabels, labels, List.foldl_append, ← allColumns]
  refine foldl_mention_of_nodup (distinct.filter _) fun field member known => ?_
  have undotted : '.' ∉ field.toList := by simpa using (List.mem_filter.mp member).2
  rcases List.mem_append.mp (mem_allColumns.mp known) with inBase | inOther
  · exact undotted (Table.dotted_of_mem_qualifiedColumns inBase)
  · exact undotted (Table.dotted_of_mem_qualifiedColumns inOther)

end JoinLayout

/-! ## Columns of a result -/

namespace Query

/-- The columns that a select statement makes of those of its source. -/
def resultColumns (query : Query) (columns : List String) : List String :=
  if query.aggregatesAll then (query.fields.filter Expression.isAggregate).map Expression.label
  else
    match query.groupBy with
    | some fields => groupColumns fields query.fields
    | none => outputColumns columns query.fields

/-- The bare names that a select statement mentions, in the order of first mention. -/
def bareMentions (query : Query) : List String :=
  query.referencedFields.filter fun field => !field.toList.contains '.'

theorem columns_arranged {query : Query} {source result : Rows}
    (arranged : query.arranged source = .ok result) :
    result.columns = if query.groupBy.isSome then source.columns
      else outputColumns source.columns query.fields := by
  obtain ⟨kept, within, selects⟩ := arranged_eq_ok arranged
  unfold selected at selects
  split at selects
  · cases selects
    rw [if_pos ‹_›, within.columns]
  · obtain ⟨rows, _, same⟩ := bind_eq_ok selects
    cases same
    rw [if_neg ‹_›, within.columns]

/-- What the steps of a select do with columns. -/
theorem columns_afterSource {query : Query} {source result : Rows}
    (found : query.afterSource source = .ok result) :
    result.columns = query.resultColumns source.columns := by
  obtain ⟨met, filtered, found⟩ := bind_eq_ok found
  have metColumns : met.columns = source.columns := (Rows.filtered_within filtered).columns
  unfold resultColumns
  split at found
  · obtain ⟨row, _, same⟩ := bind_eq_ok found
    cases same
    rw [if_pos ‹_›]
  · rw [if_neg ‹_›]
    obtain ⟨grouped, groups, found⟩ := bind_eq_ok found
    have arranged := columns_arranged found
    cases fields : query.groupBy with
    | none =>
      rw [fields] at groups arranged
      cases groups
      rw [arranged, metColumns]
      rfl
    | some names =>
      rw [fields] at groups arranged
      obtain ⟨rows, _, same⟩ := bind_eq_ok groups
      cases same
      rw [arranged]
      rfl

/-- The columns of a join that is asked for every column, with the tables under the names of
the statement. -/
theorem columns_sourceRows {σ : Type} [Store σ] {query : Query} {join : Join} {store : σ}
    {source : Rows} (joined : query.join = some join) (star : .all ∈ query.fields)
    (read : query.sourceRows store = .ok source) :
    ∃ base other : Table, Store.read store query.table = .ok base ∧
      Store.read store join.table = .ok other ∧ query.table ≠ join.table ∧
      source.columns = JoinLayout.allColumns join.kind { base with name := query.table }
        { other with name := join.table } ++ query.bareMentions := by
  have all : query.fields.contains .all = true := List.contains_iff_mem.mpr star
  rw [sourceRows, joined] at read
  dsimp only at read
  rw [all] at read
  obtain ⟨baseRows, baseScan, read⟩ := bind_eq_ok read
  obtain ⟨otherRows, otherScan, made⟩ := bind_eq_ok read
  obtain ⟨base, baseRead, rfl⟩ := map_eq_ok baseScan
  obtain ⟨other, otherRead, rfl⟩ := map_eq_ok otherScan
  obtain ⟨keys, keysFound, resolved, rfl⟩ := Rows.joined_eq_ok made
  refine ⟨base, other, baseRead, otherRead, ?_, ?_⟩
  · refine JoinLayout.name_ne_of_keys keysFound fun sameName => ?_
    have sameName : query.table = join.table := sameName
    rw [sameName] at baseRead
    cases baseRead.symm.trans otherRead
    rfl
  · refine JoinLayout.columns_joinFields (nodup_foldl_mention List.nodup_nil) ?_ keys join.kind
    refine List.findSome?_eq_none_iff.mpr fun field member => ?_
    exact List.findSome?_eq_none_iff.mp resolved field (Rows.mem_joinFields.mpr (Or.inr member))

end Query

/-! ## Select lists with a star -/

theorem length_outputColumns_le {a b : List String} (le : a.length ≤ b.length)
    (items : List Expression) :
    (outputColumns a items).length ≤ (outputColumns b items).length := by
  induction items with
  | nil => exact Nat.le_refl 0
  | cons item items ih =>
    simp only [outputColumns, List.flatMap_cons, List.length_append] at ih ⊢
    cases item with
    | all => exact Nat.add_le_add le ih
    | column name => exact Nat.add_le_add_left ih 1
    | call function operand => exact Nat.add_le_add_left ih 1

/-- Columns can be told from what a select list with `*` makes of them. -/
theorem outputColumns_inj {items : List Expression} (star : .all ∈ items) {a b : List String}
    (same : outputColumns a items = outputColumns b items) : a = b := by
  obtain ⟨front, back, rfl⟩ := List.append_of_mem star
  have shape (columns : List String) : outputColumns columns (front ++ .all :: back) =
      outputColumns columns front ++ (columns ++ outputColumns columns back) := by
    simp [outputColumns]
  rw [shape, shape] at same
  have lengths := congrArg List.length same
  simp only [List.length_append] at lengths
  have atMost {a b : List String} (le : a.length ≤ b.length) :=
    And.intro (length_outputColumns_le le front) (length_outputColumns_le le back)
  have sameLength : a.length = b.length := by
    rcases Nat.lt_trichotomy a.length b.length with shorter | equal | longer
    · have := atMost (Nat.le_of_lt shorter)
      omega
    · exact equal
    · have := atMost (Nat.le_of_lt longer)
      omega
  have sameFront : (outputColumns a front).length = (outputColumns b front).length :=
    Nat.le_antisymm (atMost (Nat.le_of_eq sameLength)).1 (atMost (Nat.le_of_eq sameLength.symm)).1
  exact (List.append_inj (List.append_inj same sameFront).2 sameLength).1

/-! ## Statements that choose other rows -/

/-- A select statement that shows the columns of a join by `*`. -/
def Query.SpreadsJoin (query : Query) : Prop :=
  query.join ≠ none ∧ .all ∈ query.fields ∧ query.aggregatesAll = false ∧ query.groupBy = none

/-- A select statement of every column of a join is one of these: grouping by what is not
selected is refused. -/
theorem Query.spreadsJoin_of_star {query : Query} {clause : Join} (wellFormed : query.WellFormed)
    (checked : query.checkGroups = .ok ()) (joined : query.join = some clause)
    (star : query.fields = [.all]) : query.SpreadsJoin := by
  have noAggregates : query.aggregatesAll = false := by
    rw [wellFormed.aggregatesAll, star, Bool.and_eq_false_iff]
    exact Or.inr rfl
  have ungrouped : query.groupBy = none := by
    cases grouped : query.groupBy with
    | none => rfl
    | some names =>
      rw [Query.checkGroups, grouped, star] at checked
      cases checked
  exact ⟨by simp [joined], by simp [star], noAggregates, ungrouped⟩

namespace Session

variable {σ : Type} [Store σ] {store : σ}

/-- Without `*` over a join nothing but the header of a table tells the columns. -/
theorem columns_eq_of_not_spreadsJoin {query other : Query} {source otherSource a b : Rows}
    (fields : other.fields = query.fields) (table : other.table = query.table)
    (join : other.join = query.join) (groupBy : other.groupBy = query.groupBy)
    (aggregatesAll : other.aggregatesAll = query.aggregatesAll)
    (read : query.sourceRows store = .ok source)
    (otherRead : other.sourceRows store = .ok otherSource)
    (made : query.afterSource source = .ok a) (otherMade : other.afterSource otherSource = .ok b)
    (plain : ¬ query.SpreadsJoin) : a.columns = b.columns := by
  rw [Query.columns_afterSource made, Query.columns_afterSource otherMade, Query.resultColumns,
    Query.resultColumns, aggregatesAll, groupBy, fields]
  cases aggregates : query.aggregatesAll with
  | true => rfl
  | false =>
    cases grouped : query.groupBy with
    | some names => rfl
    | none =>
      by_cases star : .all ∈ query.fields
      · have noJoin : query.join = none := by
          by_contra joined
          exact plain ⟨joined, star, aggregates, grouped⟩
        unfold Query.sourceRows at read otherRead
        rw [noJoin] at read
        rw [join, noJoin, table] at otherRead
        cases read.symm.trans otherRead
        rfl
      · simp only [Query.outputColumns_of_noStar star]

/-- With `*` over a join the bare names stand behind the columns of the join. -/
theorem columns_eq_of_spreadsJoin {query : Query} {source rows : Rows} {clause : Join}
    (spreads : query.SpreadsJoin) (joined : query.join = some clause)
    (read : query.sourceRows store = .ok source) (made : query.afterSource source = .ok rows) :
    ∃ base other : Table, Store.read store query.table = .ok base ∧
      Store.read store clause.table = .ok other ∧ query.table ≠ clause.table ∧
      rows.columns = outputColumns (JoinLayout.allColumns clause.kind
        { base with name := query.table } { other with name := clause.table } ++
          query.bareMentions) query.fields := by
  obtain ⟨_, star, noAggregates, ungrouped⟩ := spreads
  obtain ⟨base, other, baseRead, otherRead, different, columns⟩ :=
    Query.columns_sourceRows joined star read
  refine ⟨base, other, baseRead, otherRead, different, ?_⟩
  rw [Query.columns_afterSource made, Query.resultColumns, noAggregates, ungrouped, columns]
  rfl

/-- Two statements that spread one join show the same columns when they mention the same bare
names. -/
theorem columns_eq_iff_of_spreadsJoin {query other : Query} {source otherSource a b : Rows}
    (fields : other.fields = query.fields) (table : other.table = query.table)
    (join : other.join = query.join) (spreads : query.SpreadsJoin)
    (otherSpreads : other.SpreadsJoin) (read : query.sourceRows store = .ok source)
    (otherRead : other.sourceRows store = .ok otherSource)
    (made : query.afterSource source = .ok a)
    (otherMade : other.afterSource otherSource = .ok b) :
    a.columns = b.columns ↔ query.bareMentions = other.bareMentions := by
  obtain ⟨clause, joined⟩ := Option.ne_none_iff_exists'.mp spreads.1
  obtain ⟨base, second, baseRead, secondRead, _, columns⟩ :=
    columns_eq_of_spreadsJoin spreads joined read made
  obtain ⟨otherBase, otherSecond, otherBaseRead, otherSecondRead, _, otherColumns⟩ :=
    columns_eq_of_spreadsJoin otherSpreads (join.trans joined) otherRead otherMade
  rw [table] at otherBaseRead
  cases baseRead.symm.trans otherBaseRead
  cases secondRead.symm.trans otherSecondRead
  rw [table, fields] at otherColumns
  rw [columns, otherColumns]
  refine ⟨fun same => ?_, fun same => by rw [same]⟩
  exact List.append_cancel_left (outputColumns_inj spreads.2.1 same)

/-- Two select statements with the same items, tables and group fields show the same columns,
whichever rows they choose, unless `*` stands for the columns of a join. Then the columns are
those of the base table and those of the other, each under the name of its table, and behind
them every name that the statement mentions without a table: so two such statements show the
same columns only when they mention the same bare names. -/
theorem select_columns {sql otherSql : String} {query other : Query} {a b : Rows}
    (parsed : Statement.ofText sql = .ok (.select query))
    (otherParsed : Statement.ofText otherSql = .ok (.select other))
    (fields : other.fields = query.fields) (table : other.table = query.table)
    (join : other.join = query.join) (groupBy : other.groupBy = query.groupBy)
    (shown : (executeText store sql).1 = .ok (.rows a))
    (otherShown : (executeText store otherSql).1 = .ok (.rows b)) :
    (a.columns = b.columns ↔ (query.SpreadsJoin → query.bareMentions = other.bareMentions)) ∧
      ∀ clause, query.join = some clause → query.fields = [.all] →
        ∃ base joined : Table, Store.read store query.table = .ok base ∧
          Store.read store clause.table = .ok joined ∧
          a.columns = JoinLayout.allColumns clause.kind { base with name := query.table }
            { joined with name := clause.table } ++ query.bareMentions ∧
          (base.columns.Nodup → joined.columns.Nodup →
            a.columns = base.columns.map (qualified query.table) ++
              joined.columns.map (qualified clause.table) ++ query.bareMentions) := by
  have wellFormed : query.WellFormed := (Statement.parsed_of_ofText parsed).wellFormed
  have otherWellFormed : other.WellFormed := (Statement.parsed_of_ofText otherParsed).wellFormed
  obtain ⟨checked, source, read, made⟩ := select_eq_ok parsed shown
  obtain ⟨_, otherSource, otherRead, otherMade⟩ := select_eq_ok otherParsed otherShown
  have aggregatesAll : other.aggregatesAll = query.aggregatesAll := by
    rw [wellFormed.aggregatesAll, otherWellFormed.aggregatesAll, fields, groupBy]
  refine ⟨?same, fun clause joined star => ?star⟩
  case same =>
    by_cases spreads : query.SpreadsJoin
    · have otherSpreads : other.SpreadsJoin := by
        rw [Query.SpreadsJoin, join, fields, aggregatesAll, groupBy]
        exact spreads
      have same := columns_eq_iff_of_spreadsJoin fields table join spreads otherSpreads read
        otherRead made otherMade
      exact ⟨fun columns _ => same.mp columns, fun mentions => same.mpr (mentions spreads)⟩
    · have same := columns_eq_of_not_spreadsJoin fields table join groupBy aggregatesAll read
        otherRead made otherMade spreads
      exact ⟨fun _ spreads' => absurd spreads' spreads, fun _ => same⟩
  case star =>
    have spreads := Query.spreadsJoin_of_star wellFormed checked joined star
    obtain ⟨base, second, baseRead, secondRead, different, columns⟩ :=
      columns_eq_of_spreadsJoin spreads joined read made
    have whole (columns : List String) : outputColumns columns [.all] = columns := by
      simp [outputColumns]
    rw [star, whole] at columns
    refine ⟨base, second, baseRead, secondRead, columns, fun baseNodup secondNodup => ?_⟩
    have headers : JoinLayout.allColumns clause.kind { base with name := query.table }
        { second with name := clause.table } =
          base.columns.map (qualified query.table) ++
            second.columns.map (qualified clause.table) :=
      JoinLayout.allColumns_of_nodup clause.kind baseNodup secondNodup different
        (not_mem_of_isName wellFormed.table (by decide))
        (not_mem_of_isName (wellFormed.joinTable clause joined) (by decide))
    rw [columns, headers]

/-- Two selects of one join that mention qualified names, so that their columns are those of
the two tables. -/
theorem select_columns_leftJoin :
    let store := MemoryStore.ofTables
      [Table.ofRecords "a" ["id", "k"] [["1", "x"], ["2", "y"]],
        Table.ofRecords "b" ["k", "v"] [["x", "5"]]]
    let joined := "SELECT * FROM a LEFT JOIN b ON a.k = b.k"
    ∃ a b, (executeText store (joined ++ " WHERE b.v = 5")).1 = .ok (.rows a) ∧
      (executeText store (joined ++ " WHERE a.id = 2 ORDER BY a.id LIMIT 3")).1 =
        .ok (.rows b) ∧
      a.columns = b.columns ∧ a.columns = ["a.id", "a.k", "b.k", "b.v"] := by
  intro store joined
  let query : Query :=
    { fields := [.all], table := "a", join := some ⟨.left, "b", "a.k", "b.k"⟩
      conditions := [⟨"b.v", .equal, "5"⟩], groupBy := none, aggregatesAll := false
      orderBy := none, limit := none, distinct := false }
  let other : Query :=
    { query with
      conditions := [⟨"a.id", .equal, "2"⟩], orderBy := some [("a.id", .asc)], limit := some 3 }
  have parsed : Statement.ofText (joined ++ " WHERE b.v = 5") = .ok (.select query) := by
    decide +kernel
  have otherParsed : Statement.ofText (joined ++ " WHERE a.id = 2 ORDER BY a.id LIMIT 3") =
      .ok (.select other) := by decide +kernel
  have shown : (executeText store (joined ++ " WHERE b.v = 5")).1 =
      .ok (.rows ⟨["a.id", "a.k", "b.k", "b.v"], [Table.rowOfTexts ["a.id", "a.k", "b.k", "b.v"]
        ["1", "x", "x", "5"]]⟩) := by decide +kernel
  have otherShown : (executeText store (joined ++ " WHERE a.id = 2 ORDER BY a.id LIMIT 3")).1 =
      .ok (.rows ⟨["a.id", "a.k", "b.k", "b.v"], [NameMap.ofList [("a.id", .text "2"),
        ("a.k", .text "y"), ("b.k", .null), ("b.v", .null)]]⟩) := by decide +kernel
  have columns := select_columns parsed otherParsed rfl rfl rfl rfl shown otherShown
  exact ⟨_, _, shown, otherShown, columns.1.mpr fun _ => by decide, rfl⟩

/-- A bare name in a condition or a sort key becomes one more column. -/
theorem select_columns_bareName :
    let store := MemoryStore.ofTables
      [Table.ofRecords "a" ["id", "k"] [["1", "x"]], Table.ofRecords "b" ["k", "v"] [["x", "5"]]]
    let joined := "SELECT * FROM a INNER JOIN b ON a.k = b.k"
    let columns (sql : String) : Option (List String) :=
      match (executeText store sql).1 with
      | .ok (.rows rows) => some rows.columns
      | _ => none
    columns joined = some ["a.id", "a.k", "b.k", "b.v"] ∧
      columns (joined ++ " WHERE v = \x275\x27") = some ["a.id", "a.k", "b.k", "b.v", "v"] ∧
      columns (joined ++ " ORDER BY v") = some ["a.id", "a.k", "b.k", "b.v", "v"] := by
  decide +kernel

end Session

end TableQuery
