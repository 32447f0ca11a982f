import TableQuery.Plan.OfStatement
import TableQuery.Proofs.Atomicity
import TableQuery.Proofs.RowsAgree
import TableQuery.Proofs.WholeTable

/-!
What a select statement does with the rows of its source.

The plan of a select statement is a chain of steps behind a scan or a join. So running it
is running that source and handing its rows to one function, `Query.afterSource`, which
no longer speaks of stores (`Query.run_steps`). Of its steps, conditions, sorting, the limit
and dropping repeated rows keep some of the rows as they are (`Rows.Within`). It reads no
names but the columns that the statement refers to and its sort keys, so it does not tell
rows apart that agree on these (`Query.afterSource_congr`).
-/

namespace TableQuery

/-! ## Chains of steps -/

namespace Plan

variable {σ : Type}

theorem andThen_andThen (outcome : Except Fault Result × σ) (f g : Rows → Except Fault Rows) :
    andThen (andThen outcome f) g = andThen outcome fun rows => f rows >>= g := by
  obtain ⟨result, store⟩ := outcome
  cases result with
  | error fault => rfl
  | ok result =>
    cases result with
    | rows found =>
      simp only [andThen, Result.toRows, bind, Except.bind]
      cases f found <;> rfl
    | inserted count => rfl
    | deleted count => rfl

theorem andThen_map (found : Except Fault Rows) (store : σ) (f : Rows → Except Fault Rows) :
    andThen (found.map .rows, store) f = ((found >>= f).map .rows, store) := by
  cases found with
  | error fault => rfl
  | ok rows => rfl

variable [Store σ]

/-- A plan that only reads gives rows. -/
theorem andThen_ok {plan : Plan} (readsOnly : plan.readsOnly = true) (store : σ) :
    andThen (plan.run store) .ok = plan.run store := by
  have chain (outcome : Except Fault Result × σ) (f : Rows → Except Fault Rows) :
      andThen (andThen outcome f) .ok = andThen outcome f := by
    rw [andThen_andThen]
    exact congrArg _ (funext fun rows => bind_pure (f rows))
  cases plan with
  | scan name =>
    rw [run]
    cases scanTable store name <;> rfl
  | join base other table clause fields all =>
    rw [run]
    split
    · rfl
    · split
      · rfl
      · exact chain _ _
  | filter source conditions => exact chain _ _
  | aggregate source items => exact chain _ _
  | groupBy source fields items => exact chain _ _
  | order source keys => exact chain _ _
  | limit source count => exact chain _ _
  | distinct source items => exact chain _ _
  | project source items => exact chain _ _
  | insert => cases readsOnly
  | delete => cases readsOnly

/-- A plan that hands the rows of a source to a function. -/
def RunsOn (σ : Type) [Store σ] (source : Plan) (step : Rows → Except Fault Rows)
    (plan : Plan) : Prop :=
  ∀ store : σ, plan.run store = andThen (source.run store) step

namespace RunsOn

variable {source plan : Plan} {step : Rows → Except Fault Rows}

theorem start (readsOnly : source.readsOnly = true) : RunsOn σ source .ok source :=
  fun store => (andThen_ok readsOnly store).symm

theorem congr (runs : RunsOn σ source step plan) {other : Rows → Except Fault Rows}
    (same : ∀ rows, step rows = other rows) : RunsOn σ source other plan :=
  funext same ▸ runs

/-- One more step. -/
theorem next (runs : RunsOn σ source step plan) {after : Plan}
    {more : Rows → Except Fault Rows} (one : RunsOn σ plan more after) :
    RunsOn σ source (fun rows => step rows >>= more) after := fun store => by
  rw [one store, runs store, andThen_andThen]

end RunsOn

end Plan

/-- Takes a step when the statement has its clause. -/
def Rows.optionally {α : Type} (step : α → Rows → Except Fault Rows) :
    Option α → Rows → Except Fault Rows
  | some a, source => step a source
  | none, source => .ok source

namespace Query

/-! ## Select statements -/

/-- The steps behind grouping: sorting, the limit, dropping repeated rows, projection. -/
def arrangedOn (query : Query) (source : Plan) : Plan :=
  let limited := addStep .limit query.limit (addStep .order query.orderBy source)
  let distinct := if query.distinct then .distinct limited query.fields else limited
  if query.groupBy.isSome then distinct else .project distinct query.fields

/-- The steps of a select statement behind a source. -/
def stepsOn (query : Query) (source : Plan) : Plan :=
  let filtered := if query.conditions = [] then source else .filter source query.conditions
  if query.aggregatesAll then .aggregate filtered query.fields
  else
    query.arrangedOn <|
      addStep (fun plan fields => .groupBy plan fields query.fields) query.groupBy filtered

theorem steps_eq (query : Query) : query.steps = query.stepsOn query.planSource := rfl

/-- Drops repeated rows when the statement asks for it. -/
def deduplicated (query : Query) (source : Rows) : Except Fault Rows :=
  if query.distinct then Rows.distinct query.fields source else .ok source

/-- Keeps the selected items; grouped rows have no others. -/
def selected (query : Query) (source : Rows) : Except Fault Rows :=
  if query.groupBy.isSome then .ok source else Rows.projected query.fields source

/-- What the steps behind grouping do with rows. -/
def arranged (query : Query) (source : Rows) : Except Fault Rows := do
  let ordered ← Rows.optionally Rows.ordered query.orderBy source
  let limited ← Rows.optionally Rows.limited query.limit ordered
  let distinct ← query.deduplicated limited
  query.selected distinct

/-- Everything that a select statement does with the rows of its source. -/
def afterSource (query : Query) (source : Rows) : Except Fault Rows := do
  let met ← Rows.filtered query.conditions source
  if query.aggregatesAll then Rows.aggregated query.fields met
  else
    let grouped ← Rows.optionally (Rows.grouped · query.fields) query.groupBy met
    query.arranged grouped

section Run

variable {σ : Type} [Store σ] {source plan : Plan} {before : Rows → Except Fault Rows}

theorem runsOn_addStep {α : Type} {step : Plan → α → Plan} {more : α → Rows → Except Fault Rows}
    (one : ∀ a, Plan.RunsOn σ plan (more a) (step plan a))
    (runs : Plan.RunsOn σ source before plan) (clause : Option α) :
    Plan.RunsOn σ source (fun rows => before rows >>= Rows.optionally more clause)
      (addStep step clause plan) := by
  cases clause with
  | none => exact runs.congr fun rows => (bind_pure (before rows)).symm
  | some a => exact runs.next (one a)

theorem runsOn_arrangedOn (query : Query) (readsOnly : source.readsOnly = true) :
    Plan.RunsOn σ source query.arranged (query.arrangedOn source) := by
  let sorting := addStep .order query.orderBy source
  have ordered : Plan.RunsOn σ source
      (fun rows => .ok rows >>= Rows.optionally Rows.ordered query.orderBy) sorting :=
    runsOn_addStep (fun _ _ => rfl) (.start readsOnly) query.orderBy
  let cutting := addStep .limit query.limit sorting
  have limited : Plan.RunsOn σ source
      (fun rows => Rows.optionally Rows.ordered query.orderBy rows >>=
        Rows.optionally Rows.limited query.limit) cutting :=
    runsOn_addStep (fun _ _ => rfl) ordered query.limit
  have cuttingReads : cutting.readsOnly = true :=
    readsOnly_addStep .limit (fun _ => readsOnly_addStep .order (fun _ => readsOnly) readsOnly _)
      (readsOnly_addStep .order (fun _ => readsOnly) readsOnly _) _
  have distinct : Plan.RunsOn σ cutting query.deduplicated
      (if query.distinct then .distinct cutting query.fields else cutting) := by
    unfold deduplicated
    split
    · exact fun _ => rfl
    · exact .start cuttingReads
  have projected (plan : Plan) (planReads : plan.readsOnly = true) :
      Plan.RunsOn σ plan query.selected
        (if query.groupBy.isSome then plan else .project plan query.fields) := by
    unfold selected
    split
    · exact .start planReads
    · exact fun _ => rfl
  have distinctReads : Plan.readsOnly
      (if query.distinct then .distinct cutting query.fields else cutting) = true := by
    split <;> exact cuttingReads
  exact ((limited.next distinct).next (projected _ distinctReads)).congr fun rows => by
    simp only [arranged, bind_assoc]

theorem runsOn_stepsOn (query : Query) (readsOnly : source.readsOnly = true) :
    Plan.RunsOn σ source query.afterSource (query.stepsOn source) := by
  let filtering := if query.conditions = [] then source else .filter source query.conditions
  have filteringReads : filtering.readsOnly = true := by
    unfold filtering
    split <;> exact readsOnly
  have filtered : Plan.RunsOn σ source (Rows.filtered query.conditions) filtering := by
    unfold filtering
    split
    · rename_i none
      refine (Plan.RunsOn.start readsOnly).congr fun rows => ?_
      rw [none, Rows.filtered, splitRows_nil]
      rfl
    · exact fun _ => rfl
  let grouping := addStep (fun plan fields => .groupBy plan fields query.fields)
    query.groupBy filtering
  have grouped : Plan.RunsOn σ source (fun rows => Rows.filtered query.conditions rows >>=
      Rows.optionally (Rows.grouped · query.fields) query.groupBy) grouping :=
    runsOn_addStep (fun _ _ => rfl) filtered query.groupBy
  have groupingReads : grouping.readsOnly = true :=
    readsOnly_addStep _ (fun _ => filteringReads) filteringReads _
  unfold stepsOn afterSource
  cases query.aggregatesAll with
  | true => exact filtered.next fun _ => rfl
  | false =>
    exact (grouped.next (query.runsOn_arrangedOn groupingReads)).congr fun rows => by
      simp only [bind_assoc, Bool.false_eq_true, if_false]

/-- The columns and rows of a join of two tables of a store. -/
def joinOf (query : Query) (join : Join) (all : Bool) (store : σ) : Except Fault Rows := do
  let base ← Plan.scanTable store query.table
  let other ← Plan.scanTable store join.table
  Rows.joined ⟨query.table, base.columns, base.rows⟩ ⟨join.table, other.columns, other.rows⟩
    join query.referencedFields all

theorem run_join (query : Query) (join : Join) (all : Bool) (store : σ) :
    (Plan.join (.scan query.table) (.scan join.table) query.table join query.referencedFields
      all).run store = ((query.joinOf join all store).map .rows, store) := by
  unfold joinOf
  simp only [Plan.run]
  cases Plan.scanTable store query.table with
  | error fault => rfl
  | ok base =>
    simp only [Except.map, Result.toRows]
    cases Plan.scanTable store join.table with
    | error fault => rfl
    | ok other =>
      exact Plan.andThen_map (.ok other) store _

/-- The columns and rows that a select statement starts from. -/
def sourceRows (query : Query) (store : σ) : Except Fault Rows :=
  match query.join with
  | none => Plan.scanTable store query.table
  | some join => query.joinOf join (query.fields.contains .all) store

theorem run_planSource (query : Query) (store : σ) :
    query.planSource.run store = ((query.sourceRows store).map .rows, store) := by
  unfold planSource sourceRows
  cases query.join with
  | none => rw [Plan.run]
  | some join => exact query.run_join join _ store

/-- What a select statement gives is one function of the rows that it starts from. -/
theorem run_steps (query : Query) (store : σ) :
    query.steps.run store = ((query.sourceRows store >>= query.afterSource).map .rows, store) := by
  have readsOnly : query.planSource.readsOnly = true := by
    unfold planSource
    split <;> rfl
  rw [steps_eq, query.runsOn_stepsOn readsOnly, run_planSource, Plan.andThen_map]

end Run

end Query

/-! ## Rows that are kept -/

namespace Rows

/-- Rows that are some of others, under the same columns. -/
structure Within (source found : Rows) : Prop where
  columns : found.columns = source.columns
  rows : ∀ row ∈ found.rows, row ∈ source.rows

variable {source middle found : Rows}

theorem Within.refl (source : Rows) : Within source source := ⟨rfl, fun _ => id⟩

theorem Within.trans (first : Within source middle) (second : Within middle found) :
    Within source found :=
  ⟨second.columns.trans first.columns, fun row member => first.rows row (second.rows row member)⟩

theorem filtered_within {conditions : List Condition}
    (keeps : filtered conditions source = .ok found) : Within source found := by
  obtain ⟨⟨kept, dropped⟩, cut, same⟩ := bind_eq_ok keeps
  cases same
  obtain ⟨_, rfl, _⟩ := splitRows_eq_ok cut
  exact ⟨rfl, fun row member => (List.mem_filter.mp member).1⟩

theorem mem_of_sortRows {keys : List SortKey} {rows sorted : List Row}
    (sorts : sortRows keys rows = .ok sorted) {row : Row} (member : row ∈ sorted) : row ∈ rows := by
  obtain ⟨keyedRows, read, same⟩ := bind_eq_ok sorts
  cases same
  obtain ⟨pair, inSorted, rfl⟩ := List.mem_map.mp member
  obtain ⟨source, inRows, made⟩ :=
    (mem_of_mapM_eq_ok read).2 pair (List.mem_mergeSort.mp inSorted)
  obtain ⟨values, _, same⟩ := bind_eq_ok made
  cases same
  exact inRows

theorem ordered_within {keys : List SortKey} (sorts : ordered keys source = .ok found) :
    Within source found := by
  obtain ⟨rows, sorted, same⟩ := bind_eq_ok sorts
  cases same
  exact ⟨rfl, fun row => mem_of_sortRows sorted⟩

theorem limited_within {count : Nat} (cuts : limited count source = .ok found) :
    Within source found := by
  cases cuts
  exact ⟨rfl, fun row => List.mem_of_mem_take⟩

theorem firstByKey_sublist {α κ : Type} [BEq κ] (key : α → κ) (seen : List κ) (xs : List α) :
    (firstByKey key seen xs).Sublist xs := by
  induction xs generalizing seen with
  | nil => exact .slnil
  | cons x xs ih =>
    rw [firstByKey]
    split
    · exact (ih seen).cons x
    · exact (ih _).cons_cons x

theorem distinct_within {items : List Expression} (drops : distinct items source = .ok found) :
    Within source found := by
  cases drops
  exact ⟨rfl, fun row member => (firstByKey_sublist _ [] source.rows).subset member⟩

theorem optionally_within {α : Type} {step : α → Rows → Except Fault Rows} {clause : Option α}
    (one : ∀ a {found}, step a source = .ok found → Within source found)
    (taken : optionally step clause source = .ok found) : Within source found := by
  cases clause with
  | none =>
    cases taken
    exact .refl source
  | some a => exact one a taken

end Rows

theorem Query.deduplicated_within {query : Query} {source found : Rows}
    (drops : query.deduplicated source = .ok found) : Rows.Within source found := by
  unfold deduplicated at drops
  split at drops
  · exact Rows.distinct_within drops
  · cases drops
    exact .refl source

/-- What is done with the rows that the limit leaves. -/
def Query.finished (query : Query) (limited : Rows) : Except Fault Rows := do
  let distinct ← query.deduplicated limited
  query.selected distinct

/-- What is finished behind grouping: some of the rows, as they are. -/
theorem Query.finished_of_arranged {query : Query} {source found : Rows}
    (arranged : query.arranged source = .ok found) :
    ∃ limited, Rows.Within source limited ∧ query.finished limited = .ok found := by
  obtain ⟨ordered, sorts, arranged⟩ := bind_eq_ok arranged
  obtain ⟨limited, cuts, finishes⟩ := bind_eq_ok arranged
  have sorted : Rows.Within source ordered :=
    Rows.optionally_within (fun _ _ => Rows.ordered_within) sorts
  have cut : Rows.Within ordered limited :=
    Rows.optionally_within (fun _ _ => Rows.limited_within) cuts
  exact ⟨limited, sorted.trans cut, finishes⟩

/-- What is selected behind grouping: some of the rows, as they are. -/
theorem Query.arranged_eq_ok {query : Query} {source found : Rows}
    (arranged : query.arranged source = .ok found) :
    ∃ kept, Rows.Within source kept ∧ query.selected kept = .ok found := by
  obtain ⟨limited, cut, finishes⟩ := finished_of_arranged arranged
  obtain ⟨distinct, drops, selects⟩ := bind_eq_ok finishes
  exact ⟨distinct, cut.trans (deduplicated_within drops), selects⟩

/-! ## Names that are read -/

/-- Columns and rows that agree on some names: each name reads the same from the rows, and
as a sort key it means itself. -/
structure Rows.AgreeOn (names : List String) (a b : Rows) : Prop where
  rows : RowsAgree names a.rows b.rows
  keys : ∀ name ∈ names, sortColumn a.columns name = name ∧ sortColumn b.columns name = name

namespace Rows

variable {names : List String} {a b : Rows}

theorem filtered_parallel (agree : AgreeOn names a b) {conditions : List Condition}
    (read : ∀ condition ∈ conditions, condition.field ∈ names) :
    Parallel (AgreeOn names) (filtered conditions a) (filtered conditions b) :=
  (splitRows_parallel agree.rows read).bind fun kept => .passed ⟨kept, agree.keys⟩

theorem ordered_parallel (agree : AgreeOn names a b) {keys : List SortKey}
    (read : ∀ key ∈ keys, key.1 ∈ names) :
    Parallel (AgreeOn names) (ordered keys a) (ordered keys b) := by
  have left : (keys.map fun key => (sortColumn a.columns key.1, key.2)) = keys :=
    (List.map_congr_left fun key member => by
      rw [(agree.keys _ (read key member)).1]; rfl).trans (List.map_id _)
  have right : (keys.map fun key => (sortColumn b.columns key.1, key.2)) = keys :=
    (List.map_congr_left fun key member => by
      rw [(agree.keys _ (read key member)).2]; rfl).trans (List.map_id _)
  unfold ordered
  rw [left, right]
  exact (sortRows_parallel agree.rows read).bind fun sorted => .passed ⟨sorted, agree.keys⟩

theorem limited_parallel (agree : AgreeOn names a b) (count : Nat) :
    Parallel (AgreeOn names) (limited count a) (limited count b) :=
  .passed ⟨List.forall₂_take count agree.rows, agree.keys⟩

theorem optionally_parallel {α : Type} {step : α → Rows → Except Fault Rows} {clause : Option α}
    (agree : AgreeOn names a b)
    (one : ∀ x ∈ clause, Parallel (AgreeOn names) (step x a) (step x b)) :
    Parallel (AgreeOn names) (optionally step clause a) (optionally step clause b) := by
  cases clause with
  | none => exact .passed agree
  | some x => exact one x rfl

end Rows

namespace Query

/-- The names that the steps of a select statement read: the columns that it refers to and
its sort keys. -/
def readNames (query : Query) : List String :=
  query.referencedFields ++ (query.orderBy.getD []).map (·.1)

theorem mem_firstMentions {names : List String} {name : String} :
    name ∈ firstMentions names ↔ name ∈ names := by
  rw [firstMentions, mem_foldl_mention]
  simp

variable {query : Query}

theorem mem_referencedFields_of_condition {condition : Condition}
    (member : condition ∈ query.conditions) : condition.field ∈ query.referencedFields := by
  have given : condition.field ∈ query.conditions.map (·.field) := List.mem_map_of_mem member
  simp [referencedFields, mem_firstMentions, given]

theorem mem_referencedFields_of_item {item : Expression} {name : String}
    (member : item ∈ query.fields) (reads : itemColumn? item = some name) :
    name ∈ query.referencedFields := by
  have given : name ∈ query.fields.filterMap itemColumn? :=
    List.mem_filterMap.mpr ⟨_, member, reads⟩
  simp only [referencedFields, List.mem_append, mem_firstMentions, given, true_or]

theorem mem_referencedFields_of_group {fields : List String}
    (grouped : query.groupBy = some fields) {field : String} (member : field ∈ fields) :
    field ∈ query.referencedFields := by
  simp [referencedFields, mem_firstMentions, grouped, member]

/-- A sort key without a parenthesis is a column that the statement refers to. -/
theorem mem_referencedFields_of_key {keys : List SortKey} (sorted : query.orderBy = some keys)
    {key : SortKey} (member : key ∈ keys) (noParen : '(' ∉ key.1.toList) :
    key.1 ∈ query.referencedFields := by
  have given : key.1 ∈ sortColumns keys :=
    List.mem_filter.mpr ⟨List.mem_map_of_mem member, by simpa using noParen⟩
  simp [referencedFields, mem_firstMentions, sorted, given]

theorem readsOperands (query : Query) : ReadsOperands query.fields query.referencedFields :=
  fun name operand call notStar =>
    mem_referencedFields_of_item call (by simp [itemColumn?, notStar])

theorem mem_readNames {name : String} (referenced : name ∈ query.referencedFields) :
    name ∈ query.readNames :=
  List.mem_append_left _ referenced

theorem mem_readNames_of_key {keys : List SortKey} (sorted : query.orderBy = some keys)
    {key : SortKey} (member : key ∈ keys) : key.1 ∈ query.readNames := by
  have given : key.1 ∈ keys.map (·.1) := List.mem_map_of_mem member
  rw [readNames, sorted]
  exact List.mem_append_right _ given

theorem readsOperands_readNames (query : Query) : ReadsOperands query.fields query.readNames :=
  fun name operand call notStar => mem_readNames (query.readsOperands name operand call notStar)

theorem deduplicated_parallel {a b : Rows} (agree : Rows.AgreeOn query.readNames a b)
    (noStar : .all ∉ query.fields) (labels : ∀ item ∈ query.fields, item.label ∈ query.readNames) :
    Parallel (Rows.AgreeOn query.readNames) (query.deduplicated a) (query.deduplicated b) := by
  unfold deduplicated
  split
  · exact .passed ⟨distinctRows_agree agree.rows noStar labels, agree.keys⟩
  · exact .passed agree

theorem outputColumns_of_noStar {items : List Expression} (noStar : .all ∉ items)
    (columns : List String) : outputColumns columns items = items.map Expression.label := by
  have same : items.map Expression.label = items.flatMap fun item => [item.label] :=
    List.map_eq_flatMap
  rw [same, outputColumns]
  refine List.flatMap_congr fun item member => ?_
  cases item with
  | all => exact absurd member noStar
  | column name => rfl
  | call function operand => rfl

theorem projected_congr {names : List String} {a b : Rows} (agree : Rows.AgreeOn names a b)
    {items : List Expression} (noStar : .all ∉ items)
    (labels : ∀ item ∈ items, item.label ∈ names) :
    Rows.projected items a = Rows.projected items b := by
  have read : ∀ label ∈ items.map Expression.label, label ∈ names := by simpa using labels
  have same : a.rows.mapM (projectRow (items.map Expression.label)) =
      b.rows.mapM (projectRow (items.map Expression.label)) := by
    have each := Parallel.mapM agree.rows (S := Eq)
      fun agree => .of_eq (projectRow_congr agree read)
    rw [List.forall₂_eq_eq_eq] at each
    exact each.eq
  simp only [Rows.projected, outputColumns_of_noStar noStar, same]

/-- The steps behind grouping, when there are no group fields. -/
theorem arranged_congr {a b : Rows} (agree : Rows.AgreeOn query.readNames a b)
    (noStar : .all ∉ query.fields) (labels : ∀ item ∈ query.fields, item.label ∈ query.readNames)
    (ungrouped : query.groupBy = none) : query.arranged a = query.arranged b := by
  have ordered := Rows.optionally_parallel agree fun keys sorted =>
    Rows.ordered_parallel agree fun key => mem_readNames_of_key sorted
  unfold arranged
  refine (ordered.bind (S := Eq) fun {a b} agree => ?_).eq
  have limited : Parallel (Rows.AgreeOn query.readNames)
      (Rows.optionally Rows.limited query.limit a) (Rows.optionally Rows.limited query.limit b) :=
    Rows.optionally_parallel agree fun count _ => Rows.limited_parallel agree count
  refine limited.bind fun agree => (deduplicated_parallel agree noStar labels).bind fun agree => ?_
  refine .of_eq ?_
  simp only [selected, ungrouped, Option.isSome_none, Bool.false_eq_true, if_false,
    projected_congr agree noStar labels]

/-- The rows of a source show through the names that are read alone. -/
theorem afterSource_congr {a b : Rows} (agree : Rows.AgreeOn query.readNames a b)
    (noStar : .all ∉ query.fields)
    (aggregatesAll : query.aggregatesAll =
      (query.groupBy.isNone && query.fields.any Expression.isAggregate)) :
    query.afterSource a = query.afterSource b := by
  have filtered := Rows.filtered_parallel agree
    fun _ given => mem_readNames (mem_referencedFields_of_condition given)
  refine (filtered.bind (S := Eq) fun {a b} met => ?_).eq
  cases all : query.aggregatesAll with
  | true =>
    have same := aggregateRow_congr met.rows query.readsOperands_readNames
    exact .of_eq (by simp only [if_true, Rows.aggregated, same])
  | false =>
    simp only [Bool.false_eq_true, if_false]
    cases grouped : query.groupBy with
    | some fields =>
      have same := groupRows_congr met.rows (fun _ given => mem_readNames (mem_referencedFields_of_group grouped given))
        query.readsOperands_readNames
      exact .of_eq (by simp only [Rows.optionally, Rows.grouped, same])
    | none =>
      -- without aggregates every selected item is a column, so its label is read
      have labels : ∀ item ∈ query.fields, item.label ∈ query.readNames := by
        intro item member
        cases item with
        | all => exact absurd member noStar
        | column name => exact mem_readNames (mem_referencedFields_of_item member rfl)
        | call name operand =>
          have aggregates : query.fields.any Expression.isAggregate = true :=
            List.any_eq_true.mpr ⟨_, member, rfl⟩
          rw [all, grouped, aggregates] at aggregatesAll
          cases aggregatesAll
      exact .of_eq (arranged_congr met noStar labels grouped)

end Query

end TableQuery
