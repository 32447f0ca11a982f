import Mathlib.Algebra.GroupWithZero.Nat
import Mathlib.Data.List.Forall2
import TableQuery.Proofs.DebugTexts
import TableQuery.Proofs.Names
import TableQuery.Proofs.Outcome
import TableQuery.Query.Group

/-!
Grouping rows is cutting them into parts and aggregating every part by itself.

The rows come one after the other, and each goes to the group of its values. All that
one row can do to the groups is said by `Group.place_cases`. What the groups are after
some rows (`Group.Tracks`) follows from it: there is one for each list of values, in the
order in which the lists first appear, and its state is that of an aggregation of the
rows with these values and no others.
-/

namespace TableQuery

/-! ## The values by which rows are grouped -/

namespace Row

/-- What a row shows under some names, null where a name reads nothing. -/
def shown (names : List String) (row : Row) : List Value :=
  names.map fun name => (row.lookup? name).getD .null

/-- The values by which some fields group a row, null where a name reads nothing. -/
def groupValues (fields : List String) (row : Row) : List Value :=
  fields.map fun field => ((row.lookup? field).getD .null).canonical

theorem map_canonical_shown (names : List String) (row : Row) :
    (row.shown names).map Value.canonical = row.groupValues names := by
  rw [shown, List.map_map]
  rfl

theorem lookup_eq_ok {row : Row} {name : String} {value : Value} :
    row.lookup name = .ok value ↔ row.lookup? name = some value := by
  unfold lookup
  cases row.lookup? name <;> simp

theorem mapM_lookup_eq_ok {row : Row} {fields : List String} {values : List Value}
    (read : fields.mapM row.lookup = .ok values) :
    fields.map row.lookup? = values.map some := by
  induction fields generalizing values with
  | nil =>
    cases read
    rfl
  | cons field fields ih =>
    rw [List.mapM_cons] at read
    obtain ⟨value, first, read⟩ := bind_eq_ok read
    obtain ⟨others, later, read⟩ := bind_eq_ok read
    cases read
    rw [List.map_cons, List.map_cons, lookup_eq_ok.mp first, ih later]

theorem eq_shown_of_mapM {row : Row} {fields : List String} {values : List Value}
    (read : fields.mapM row.lookup = .ok values) : values = row.shown fields := by
  have cells := congrArg (List.map fun cell => cell.getD Value.null) (mapM_lookup_eq_ok read)
  rw [List.map_map, List.map_map] at cells
  exact (cells.trans (List.map_id _)).symm

theorem groupValues_of_mapM {row : Row} {fields : List String} {values : List Value}
    (read : fields.mapM row.lookup = .ok values) :
    row.groupValues fields = values.map Value.canonical := by
  rw [eq_shown_of_mapM read, map_canonical_shown]

end Row

/-- The rows with the given values in some fields. -/
def rowsWith (fields : List String) (values : List Value) (rows : List Row) : List Row :=
  rows.filter fun row => row.groupValues fields == values

/-- The lists of values that some fields have in some rows, each once, in the order in
which they first appear. -/
def groupsOf (fields : List String) (rows : List Row) : List (List Value) :=
  (rows.map (Row.groupValues fields)).eraseDups

theorem groupsOf_concat (fields : List String) (rows : List Row) (row : Row) :
    groupsOf fields (rows ++ [row]) =
      if row.groupValues fields ∈ groupsOf fields rows then groupsOf fields rows
      else groupsOf fields rows ++ [row.groupValues fields] := by
  rw [groupsOf, List.map_append, List.eraseDups_append, List.map_singleton, ← groupsOf]
  have same : row.groupValues fields ∈ groupsOf fields rows ↔
      row.groupValues fields ∈ rows.map (Row.groupValues fields) :=
    List.mem_eraseDups
  by_cases known : row.groupValues fields ∈ rows.map (Row.groupValues fields)
  · rw [if_pos (same.mpr known)]
    have none : [row.groupValues fields].removeAll (rows.map (Row.groupValues fields)) = [] :=
      List.filter_eq_nil_iff.mpr fun values member => by
        rw [List.mem_singleton.mp member, Bool.not_eq_true', Bool.not_eq_false]
        exact List.elem_eq_true_of_mem known
    rw [none]
    exact List.append_nil _
  · rw [if_neg (mt same.mp known)]
    have whole : [row.groupValues fields].removeAll (rows.map (Row.groupValues fields)) =
        [row.groupValues fields] :=
      List.filter_eq_self.mpr fun values member => by
        rw [List.mem_singleton.mp member, Bool.not_eq_true', ← Bool.not_eq_true,
          List.elem_eq_mem, decide_eq_true_eq]
        exact known
    rw [whole]
    rfl

theorem rowsWith_concat (fields : List String) (values : List Value) (rows : List Row)
    (row : Row) :
    rowsWith fields values (rows ++ [row]) =
      if row.groupValues fields = values then rowsWith fields values rows ++ [row]
      else rowsWith fields values rows := by
  rw [rowsWith, List.filter_append, ← rowsWith]
  split <;> rename_i same <;> simp [same]

/-! ## Adding a row -/

namespace Accumulator

theorem addRows?_concat {aggregates : List Aggregate} {state next : Accumulator}
    {rows : List Row} {row : Row} (added : start.addRows? aggregates rows = .ok state)
    (more : state.addRow? aggregates row = .ok next) :
    start.addRows? aggregates (rows ++ [row]) = .ok next := by
  rw [addRows?, List.foldlM_append, ← addRows?, added]
  exact (bind_pure (addRow? aggregates state row)).trans more

theorem count_of_addRow? {aggregates : List Aggregate} {state next : Accumulator} {row : Row}
    (added : state.addRow? aggregates row = .ok next) : next.count = state.count + 1 := by
  obtain ⟨_, _, rfl⟩ := map_eq_ok added
  rfl

/-- An accumulator counts the rows that it takes. -/
theorem count_of_addRows? {aggregates : List Aggregate} {state next : Accumulator}
    {rows : List Row} (added : state.addRows? aggregates rows = .ok next) :
    next.count = state.count + rows.length := by
  induction rows generalizing state with
  | nil =>
    cases added
    rfl
  | cons row rows ih =>
    obtain ⟨middle, first, later⟩ := bind_eq_ok added
    rw [ih later, count_of_addRow? first, List.length_cons]
    omega

end Accumulator

namespace Group

/-- The values by which the rows of a group are grouped. -/
def key (group : Group) : List Value :=
  group.values.map Value.canonical

theorem hasValues_iff {group : Group} {values : List Value} :
    group.hasValues values = true ↔ group.key = values.map Value.canonical :=
  beq_iff_eq.trans (Value.map_debugText_eq_iff.trans Value.map_canonical_eq_iff.symm)

/-- A row is added to the first group of its values, or it starts the last one when there
is none. -/
theorem place_cases {aggregates : List Aggregate} {values : List Value} {row : Row}
    {groups after : List Group} (placed : place aggregates values row groups = .ok after) :
    (∃ front group back state, groups = front ++ group :: back ∧
      group.key = values.map Value.canonical ∧ group.state.addRow? aggregates row = .ok state ∧
      after = front ++ { group with state } :: back) ∨
    (∀ group ∈ groups, group.key ≠ values.map Value.canonical) ∧
      ∃ state, Accumulator.start.addRow? aggregates row = .ok state ∧
        after = groups ++ [⟨values, state⟩] := by
  induction groups generalizing after with
  | nil =>
    obtain ⟨state, added, same⟩ := bind_eq_ok placed
    cases same
    exact Or.inr ⟨fun group member => absurd member List.not_mem_nil, state, added, rfl⟩
  | cons group groups ih =>
    rw [place] at placed
    split at placed
    · rename_i here
      obtain ⟨state, added, same⟩ := bind_eq_ok placed
      cases same
      exact Or.inl ⟨[], group, groups, state, rfl, hasValues_iff.mp here, added, rfl⟩
    · rename_i notHere
      obtain ⟨later, found, same⟩ := bind_eq_ok placed
      cases same
      rcases ih found with
        ⟨front, other, back, state, rfl, key, added, rfl⟩ | ⟨absent, state, added, rfl⟩
      · exact Or.inl ⟨group :: front, other, back, state, rfl, key, added, rfl⟩
      · refine Or.inr ⟨fun other member => ?_, state, added, rfl⟩
        rcases List.mem_cons.mp member with rfl | member
        · exact fun same => notHere (hasValues_iff.mpr same)
        · exact absent other member

/-! ## The groups of some rows -/

/-- What the groups are after some rows. -/
structure Tracks (aggregates : List Aggregate) (fields : List String) (rows : List Row)
    (groups : List Group) : Prop where
  keys : groups.map key = groupsOf fields rows
  distinct : (groups.map key).Nodup
  states : ∀ group ∈ groups, Accumulator.start.addRows? aggregates
    (rowsWith fields group.key rows) = .ok group.state
  counted : (groups.map (·.state.count)).sum = rows.length
  /-- The values of a group are those of one of its rows. -/
  values : ∀ group ∈ groups, ∃ row ∈ rows, fields.mapM row.lookup = .ok group.values
  resolved : ∀ row ∈ rows, ∃ values, fields.mapM row.lookup = .ok values

variable {aggregates : List Aggregate} {fields : List String} {rows : List Row}
  {groups after : List Group}

theorem tracks_nil : Tracks aggregates fields [] [] :=
  ⟨rfl, List.nodup_nil, by simp, rfl, by simp, by simp⟩

section Step

variable {row : Row} {values : List Value}

theorem Tracks.resolved_concat (tracks : Tracks aggregates fields rows groups)
    (read : fields.mapM row.lookup = .ok values) :
    ∀ other ∈ rows ++ [row], ∃ values, fields.mapM other.lookup = .ok values := by
  intro other member
  rcases List.mem_append.mp member with early | last
  · exact tracks.resolved other early
  · exact ⟨values, List.mem_singleton.mp last ▸ read⟩

theorem Tracks.values_concat (tracks : Tracks aggregates fields rows groups) {group : Group}
    (member : group ∈ groups) (row : Row) :
    ∃ other ∈ rows ++ [row], fields.mapM other.lookup = .ok group.values := by
  obtain ⟨other, early, given⟩ := tracks.values group member
  exact ⟨other, List.mem_append_left _ early, given⟩

/-- A group with other values than a row keeps its rows and so its state. -/
theorem Tracks.states_concat (tracks : Tracks aggregates fields rows groups) {group : Group}
    (member : group ∈ groups) (different : group.key ≠ row.groupValues fields) :
    Accumulator.start.addRows? aggregates (rowsWith fields group.key (rows ++ [row])) =
      .ok group.state := by
  rw [rowsWith_concat, if_neg (Ne.symm different)]
  exact tracks.states group member

theorem Tracks.addToGroup {front back : List Group} {group : Group} {state : Accumulator}
    (tracks : Tracks aggregates fields rows (front ++ group :: back))
    (read : fields.mapM row.lookup = .ok values) (same : group.key = row.groupValues fields)
    (added : group.state.addRow? aggregates row = .ok state) :
    Tracks aggregates fields (rows ++ [row]) (front ++ { group with state } :: back) := by
  have here : group ∈ front ++ group :: back := List.mem_append_right _ List.mem_cons_self
  have known : row.groupValues fields ∈ groupsOf fields rows := by
    rw [← tracks.keys, ← same]
    exact List.mem_map_of_mem here
  have keys : (front ++ { group with state } :: back).map key =
      (front ++ group :: back).map key := by
    rw [List.map_append, List.map_append]
    rfl
  -- no other group has the key of the row
  have distinct := tracks.distinct
  rw [List.map_append, List.map_cons, List.nodup_append] at distinct
  obtain ⟨_, tail, apart⟩ := distinct
  have inFront : ∀ other ∈ front, other.key ≠ row.groupValues fields := fun other member =>
    same ▸ apart _ (List.mem_map_of_mem member) _ List.mem_cons_self
  have inBack : ∀ other ∈ back, other.key ≠ row.groupValues fields := fun other member found =>
    (List.nodup_cons.mp tail).1 (same.trans found.symm ▸ List.mem_map_of_mem member)
  refine ⟨?_, keys ▸ tracks.distinct, fun other member => ?_, ?_, fun other member => ?_,
    tracks.resolved_concat read⟩
  · rw [keys, groupsOf_concat, if_pos known, tracks.keys]
  · rcases List.mem_append.mp member with early | tail
    · exact tracks.states_concat (List.mem_append_left _ early) (inFront other early)
    · rcases List.mem_cons.mp tail with rfl | late
      · have sameKey : key { group with state } = group.key := rfl
        rw [sameKey, rowsWith_concat, if_pos same.symm]
        exact Accumulator.addRows?_concat (tracks.states group here) added
      · exact tracks.states_concat (List.mem_append_right _ (List.mem_cons_of_mem _ late))
          (inBack other late)
  · have counted := tracks.counted
    simp only [List.map_append, List.map_cons, List.sum_append, List.sum_cons,
      List.length_append, List.length_singleton, Accumulator.count_of_addRow? added] at counted ⊢
    omega
  · rcases List.mem_append.mp member with early | tail
    · exact tracks.values_concat (List.mem_append_left _ early) row
    · rcases List.mem_cons.mp tail with rfl | late
      · exact tracks.values_concat here row
      · exact tracks.values_concat (List.mem_append_right _ (List.mem_cons_of_mem _ late)) row

theorem Tracks.startGroup {state : Accumulator} (tracks : Tracks aggregates fields rows groups)
    (read : fields.mapM row.lookup = .ok values)
    (absent : ∀ group ∈ groups, group.key ≠ row.groupValues fields)
    (added : Accumulator.start.addRow? aggregates row = .ok state) :
    Tracks aggregates fields (rows ++ [row]) (groups ++ [⟨values, state⟩]) := by
  have rowKey : key ⟨values, state⟩ = row.groupValues fields :=
    (Row.groupValues_of_mapM read).symm
  have unknown : row.groupValues fields ∉ groupsOf fields rows := by
    rw [← tracks.keys]
    intro member
    obtain ⟨group, given, sameKey⟩ := List.mem_map.mp member
    exact absent group given sameKey
  have noRows : rowsWith fields (row.groupValues fields) rows = [] := by
    refine List.filter_eq_nil_iff.mpr fun other member sameKey => unknown ?_
    rw [← beq_iff_eq.mp sameKey]
    exact List.mem_eraseDups.mpr (List.mem_map_of_mem member)
  have keys : (groups ++ [Group.mk values state]).map key =
      groupsOf fields rows ++ [row.groupValues fields] := by
    rw [List.map_append, tracks.keys, List.map_singleton, rowKey]
  refine ⟨?_, ?_, fun other member => ?_, ?_, fun other member => ?_,
    tracks.resolved_concat read⟩
  · rw [keys, groupsOf_concat, if_neg unknown]
  · rw [keys, List.nodup_append]
    refine ⟨tracks.keys ▸ tracks.distinct, by simp, ?_⟩
    rintro _ early _ last rfl
    exact unknown (List.mem_singleton.mp last ▸ early)
  · rcases List.mem_append.mp member with early | last
    · exact tracks.states_concat early (absent other early)
    · rw [List.mem_singleton.mp last, rowKey, rowsWith_concat, if_pos rfl, noRows]
      exact Accumulator.addRows?_concat rfl added
  · have first : state.count = 1 := Accumulator.count_of_addRow? added
    simp [tracks.counted, first]
  · rcases List.mem_append.mp member with early | last
    · exact tracks.values_concat early row
    · exact ⟨row, List.mem_append_right _ List.mem_cons_self,
        List.mem_singleton.mp last ▸ read⟩

/-- The step: one more row. -/
theorem Tracks.addRow (tracks : Tracks aggregates fields rows groups)
    (added : Group.addRow aggregates fields groups row = .ok after) :
    Tracks aggregates fields (rows ++ [row]) after := by
  obtain ⟨values, read, placed⟩ := bind_eq_ok added
  have rowKey := Row.groupValues_of_mapM read
  rcases place_cases placed with
    ⟨front, group, back, state, rfl, same, more, rfl⟩ | ⟨absent, state, more, rfl⟩
  · exact tracks.addToGroup read (same.trans rowKey.symm) more
  · exact tracks.startGroup read (rowKey ▸ absent) more

end Step

/-- The run: any rows behind those that are grouped. -/
theorem Tracks.addRows {later : List Row} (tracks : Tracks aggregates fields rows groups)
    (added : later.foldlM (Group.addRow aggregates fields) groups = .ok after) :
    Tracks aggregates fields (rows ++ later) after := by
  induction later generalizing rows groups with
  | nil =>
    cases added
    rwa [List.append_nil]
  | cons row later ih =>
    rw [List.foldlM_cons] at added
    obtain ⟨middle, first, rest⟩ := bind_eq_ok added
    have whole := ih (tracks.addRow first) rest
    rwa [List.append_assoc, List.singleton_append] at whole

end Group

/-! ## Aggregates of a part -/

namespace Aggregate

theorem ofExpression?_call {name operand : String} {found : Option Aggregate}
    (read : ofExpression? (.call name operand) = .ok found) :
    ∃ function, AggregateFunction.ofName? name = some function ∧
      found = some ⟨Expression.label (.call name operand), function, operand⟩ := by
  simp only [ofExpression?] at read
  split at read
  · rename_i function known
    cases read
    exact ⟨function, known, rfl⟩
  · cases read

/-- The aggregates of a select list are those of its calls. -/
theorem mem_ofItems {items : List Expression} {aggregates : List Aggregate}
    (known : ofItems items = .ok aggregates) :
    (∀ name operand, .call name operand ∈ items → ∃ function,
      AggregateFunction.ofName? name = some function ∧
      ⟨Expression.label (.call name operand), function, operand⟩ ∈ aggregates) ∧
    ∀ aggregate ∈ aggregates, ∃ name function operand, .call name operand ∈ items ∧
      AggregateFunction.ofName? name = some function ∧
      aggregate = ⟨Expression.label (.call name operand), function, operand⟩ := by
  obtain ⟨found, read, same⟩ := bind_eq_ok known
  cases same
  obtain ⟨each, only⟩ := mem_of_mapM_eq_ok read
  constructor
  · intro name operand member
    obtain ⟨given, inFound, step⟩ := each _ member
    obtain ⟨function, known, rfl⟩ := ofExpression?_call step
    exact ⟨function, known, List.mem_filterMap.mpr ⟨_, inFound, rfl⟩⟩
  · intro aggregate member
    obtain ⟨_, inFound, rfl⟩ := List.mem_filterMap.mp member
    obtain ⟨item, inItems, step⟩ := only _ inFound
    cases item with
    | all => cases step
    | column name => cases step
    | call name operand =>
      obtain ⟨function, known, same⟩ := ofExpression?_call step
      exact ⟨name, function, operand, inItems, known, Option.some.inj same⟩

end Aggregate

section Cells

variable {items : List Expression} {aggregates : List Aggregate}

theorem isSome_get?_aggregateCells {name : String} (state : Accumulator) :
    ((NameMap.ofList (aggregateCells aggregates state)).get? name).isSome = true ↔
      name ∈ aggregates.map (·.label) := by
  rw [NameMap.ofList, NameMap.isSome_get?_insertAll, aggregateCells, List.map_map]
  simp

/-- The cell of a label is that of its aggregate, also when the label occurs twice. -/
theorem get?_aggregateCells (known : Aggregate.ofItems items = .ok aggregates)
    {name operand : String} (selected : .call name operand ∈ items) (state : Accumulator) :
    ∃ function, AggregateFunction.ofName? name = some function ∧
      (NameMap.ofList (aggregateCells aggregates state)).get?
          (Expression.label (.call name operand)) =
        some (Aggregate.value ⟨Expression.label (.call name operand), function, operand⟩
          state) := by
  obtain ⟨each, only⟩ := Aggregate.mem_ofItems known
  obtain ⟨function, named, member⟩ := each name operand selected
  refine ⟨function, named, ?_⟩
  have present := (isSome_get?_aggregateCells state).mpr
    (List.mem_map.mpr ⟨_, member, rfl⟩)
  obtain ⟨value, found⟩ := Option.isSome_iff_exists.mp present
  rcases NameMap.mem_of_get?_insertAll found with absent | cell
  · cases absent
  · obtain ⟨other, inAggregates, same⟩ := List.mem_map.mp cell
    obtain ⟨otherName, otherFunction, otherOperand, _, otherNamed, rfl⟩ := only other inAggregates
    obtain ⟨labels, rfl⟩ := Prod.mk.inj same
    obtain ⟨rfl, rfl⟩ := Expression.label_call_inj otherNamed named labels
    cases named.symm.trans otherNamed
    exact found

/-- The row of a group has the aggregates of its state. -/
theorem Group.get?_row_of_call (known : Aggregate.ofItems items = .ok aggregates)
    {name operand : String} (selected : .call name operand ∈ items) (fields : List String)
    (group : Group) :
    (group.row fields items aggregates).get? (Expression.label (.call name operand)) =
      (NameMap.ofList (aggregateCells aggregates group.state)).get?
        (Expression.label (.call name operand)) := by
  obtain ⟨_, _, found⟩ := get?_aggregateCells known selected group.state
  rw [row, NameMap.get?_ofList_append, found]
  rfl

end Cells

/-! ## Grouped rows -/

/-- What the rows of a grouped query are. There is one for each list of values that the
group fields have in some row, and its aggregates are those over the rows with these
values. -/
structure GroupedParts (fields : List String) (items : List Expression)
    (rows out : List Row) : Prop where
  resolved : ∀ row ∈ rows, ∃ values, fields.mapM row.lookup = .ok values ∧
    row.groupValues fields = values.map Value.canonical
  distinct : (groupsOf fields rows).Nodup
  aggregated : List.Forall₂
    (fun values row => ∃ whole, aggregateRow (rowsWith fields values rows) items = .ok whole ∧
      ∀ item ∈ items, item.isAggregate = true → ∃ value,
        row.get? item.label = some value ∧ whole.get? item.label = some value)
    (groupsOf fields rows) out
  counted : ∀ name operand, .call name operand ∈ items →
    AggregateFunction.ofName? name = some .count →
    out.map (·.get? (Expression.label (.call name operand))) =
      (groupsOf fields rows).map fun values =>
        some (.integer (rowsWith fields values rows).length)
  /-- Every row is in one part: the sizes of the parts add up. -/
  whole : ((groupsOf fields rows).map fun values => (rowsWith fields values rows).length).sum =
    rows.length

namespace Group.Tracks

variable {items : List Expression} {fields : List String} {rows : List Row}
  {aggregates : List Aggregate} {groups : List Group}

theorem length_rowsWith (tracks : Tracks aggregates fields rows groups) {group : Group}
    (member : group ∈ groups) :
    (rowsWith fields group.key rows).length = group.state.count := by
  have counted := Accumulator.count_of_addRows? (tracks.states group member)
  rw [counted]
  exact (Nat.zero_add _).symm

theorem groupedParts (tracks : Tracks aggregates fields rows groups)
    (known : Aggregate.ofItems items = .ok aggregates) :
    GroupedParts fields items rows (groups.map (Group.row fields items aggregates)) where
  resolved row member := by
    obtain ⟨values, read⟩ := tracks.resolved row member
    exact ⟨values, read, Row.groupValues_of_mapM read⟩
  distinct := tracks.keys ▸ tracks.distinct
  aggregated := by
    rw [← tracks.keys, List.forall₂_map_left_iff, List.forall₂_map_right_iff, List.forall₂_same]
    intro group member
    refine ⟨NameMap.ofList (aggregateCells aggregates group.state), ?_,
      fun item selected call => ?_⟩
    · rw [aggregateRow, known]
      simp only [bind, Except.bind, tracks.states group member]
      rfl
    · cases item with
      | all => cases call
      | column name => cases call
      | call name operand =>
        obtain ⟨_, _, found⟩ := get?_aggregateCells known selected group.state
        exact ⟨_, (Group.get?_row_of_call known selected fields group).trans found, found⟩
  counted name operand selected counts := by
    rw [← tracks.keys, List.map_map, List.map_map]
    refine List.map_congr_left fun group member => ?_
    obtain ⟨function, named, found⟩ := get?_aggregateCells known selected group.state
    cases named.symm.trans counts
    rw [Function.comp_apply, Group.get?_row_of_call known selected fields group, found,
      Function.comp_apply, tracks.length_rowsWith member]
    rfl
  whole := by
    rw [← tracks.keys, List.map_map, ← tracks.counted]
    exact congrArg List.sum (List.map_congr_left fun group member => tracks.length_rowsWith member)

end Group.Tracks

/-- Grouping agrees with aggregating the parts: the rows of a grouped query are those of
the lists of group values, in the order in which they first appear, each with the
aggregates over the rows that have these values. Two values are one when they are the
same or both no numbers, and the texts by which the rows are grouped tell the others apart. -/
theorem groupRows_parts {rows out : List Row} {fields : List String} {items : List Expression}
    (grouped : groupRows rows fields items = .ok out) :
    GroupedParts fields items rows out ∧
      ∀ a b : Value,
        (a.canonical = b.canonical ↔ a = b ∨ a.isNaN = true ∧ b.isNaN = true) ∧
          (a.debugText = b.debugText ↔ a = b ∨ a.isNaN = true ∧ b.isNaN = true) := by
  obtain ⟨aggregates, known, rest⟩ := bind_eq_ok grouped
  obtain ⟨groups, added, same⟩ := bind_eq_ok rest
  cases same
  exact ⟨(Group.tracks_nil.addRows added).groupedParts known,
    fun _ _ => ⟨Value.canonical_eq_iff, Value.debugText_eq_iff⟩⟩

/-- Two groups, one of which has a blank cell that only the count takes in. -/
theorem groupRows_parts_departments :
    let rows := [("x", "10"), ("y", "3"), ("x", "5"), ("y", "")].map fun (department, score) =>
      NameMap.ofList [("dept", Value.text department), ("score", .text score)]
    let items := [.column "dept", .call "COUNT" "*", .call "SUM" "score"]
    let out := [NameMap.ofList [("dept", Value.text "x"), ("COUNT(*)", .integer 2),
        ("SUM(score)", .integer 15)],
      .ofList [("dept", .text "y"), ("COUNT(*)", .integer 2), ("SUM(score)", .integer 3)]]
    groupRows rows ["dept"] items = .ok out ∧ GroupedParts ["dept"] items rows out := by
  intro rows items out
  have grouped : groupRows rows ["dept"] items = .ok out := by decide +kernel
  exact ⟨grouped, (groupRows_parts grouped).1⟩

end TableQuery
