import TableQuery.Plan.Run
import TableQuery.Proofs.GroupParts
import TableQuery.Proofs.Parallel

/-!
Steps read rows through names only.

Two rows agree on some names when each of the names reads the same from both. Rows that
agree on the names that a step reads go through the step alike: they meet the same
conditions, fall into the same groups with the same aggregates, are put in the same order
and are projected to the same rows. Cells under other names never show.
-/

namespace TableQuery

namespace Row

/-- Two rows of which each of some names reads the same. -/
def AgreeOn (names : List String) (a b : Row) : Prop :=
  ∀ name ∈ names, a.lookup? name = b.lookup? name

variable {names : List String} {a b : Row}

theorem AgreeOn.lookup (agree : AgreeOn names a b) {name : String} (read : name ∈ names) :
    a.lookup name = b.lookup name := by
  rw [Row.lookup, agree name read, ← Row.lookup]

theorem AgreeOn.mapM_lookup (agree : AgreeOn names a b) {fields : List String}
    (read : ∀ field ∈ fields, field ∈ names) : fields.mapM a.lookup = fields.mapM b.lookup :=
  mapM_congr fun field member => agree.lookup (read field member)

end Row

/-- Rows of two lists agree one by one. -/
abbrev RowsAgree (names : List String) : List Row → List Row → Prop :=
  List.Forall₂ (Row.AgreeOn names)

section Steps

variable {names : List String} {rows others : List Row} {a b : Row}

/-! ## Conditions -/

theorem Condition.evaluateAll_congr (agree : Row.AgreeOn names a b) {conditions : List Condition}
    (read : ∀ condition ∈ conditions, condition.field ∈ names) :
    evaluateAll a conditions = evaluateAll b conditions := by
  induction conditions with
  | nil => rfl
  | cons condition rest ih =>
    have later := ih fun other member => read other (List.mem_cons_of_mem _ member)
    rw [evaluateAll, evaluateAll, evaluate, evaluate,
      agree.lookup (read condition List.mem_cons_self), later]

theorem splitRows_parallel (agree : RowsAgree names rows others) {conditions : List Condition}
    (read : ∀ condition ∈ conditions, condition.field ∈ names) :
    Parallel (fun parts others => RowsAgree names parts.1 others.1)
      (splitRows conditions rows) (splitRows conditions others) := by
  induction agree with
  | nil => exact .passed .nil
  | cons head _ ih =>
    rw [splitRows, splitRows, Condition.evaluateAll_congr head read]
    refine (Parallel.of_eq rfl).bind fun {holds other} same => ih.bind fun kept => .passed ?_
    subst same
    cases holds with
    | true => exact .cons head kept
    | false => exact kept

/-! ## Aggregates and groups -/

theorem Accumulator.addCells_congr (agree : Row.AgreeOn names a b) {aggregates : List Aggregate}
    (read : ∀ aggregate ∈ aggregates, aggregate.operand ≠ "*" → aggregate.operand ∈ names)
    (seen : List String) (tallies : Tallies) :
    addCells a seen tallies aggregates = addCells b seen tallies aggregates := by
  induction aggregates generalizing seen tallies with
  | nil => rfl
  | cons aggregate rest ih =>
    have later := ih fun other member => read other (List.mem_cons_of_mem _ member)
    rw [addCells, addCells]
    by_cases star : aggregate.operand = "*"
    · simp only [star, if_pos, later]
    · simp only [star, if_neg, not_false_eq_true, later,
        agree.lookup (read aggregate List.mem_cons_self star)]

/-- The operands of the calls of a select list are read by the given names. -/
def ReadsOperands (items : List Expression) (names : List String) : Prop :=
  ∀ name operand, .call name operand ∈ items → operand ≠ "*" → operand ∈ names

theorem Accumulator.addRow?_congr {items : List Expression} {aggregates : List Aggregate}
    (known : Aggregate.ofItems items = .ok aggregates) (read : ReadsOperands items names)
    (agree : Row.AgreeOn names a b) (state : Accumulator) :
    state.addRow? aggregates a = state.addRow? aggregates b := by
  have operands : ∀ aggregate ∈ aggregates,
      aggregate.operand ≠ "*" → aggregate.operand ∈ names := fun aggregate member => by
    obtain ⟨name, _, operand, call, _, rfl⟩ := (Aggregate.mem_ofItems known).2 _ member
    exact read name operand call
  rw [addRow?, addRow?, addRow, addRow, addCells_congr agree operands]

theorem aggregateRow_congr (agree : RowsAgree names rows others) {items : List Expression}
    (read : ReadsOperands items names) : aggregateRow rows items = aggregateRow others items := by
  unfold aggregateRow
  cases known : Aggregate.ofItems items with
  | error fault => rfl
  | ok aggregates =>
    have same := Parallel.foldlM_eq agree
      (fun state _ _ agree => Accumulator.addRow?_congr known read agree state) .start
    simp only [bind, Except.bind, Accumulator.addRows?, same]

theorem Group.place_congr {items : List Expression} {aggregates : List Aggregate}
    (known : Aggregate.ofItems items = .ok aggregates) (read : ReadsOperands items names)
    (agree : Row.AgreeOn names a b) (values : List Value) (groups : List Group) :
    place aggregates values a groups = place aggregates values b groups := by
  induction groups with
  | nil => rw [place, place, Accumulator.addRow?_congr known read agree]
  | cons group groups ih =>
    rw [place, place, ih, Accumulator.addRow?_congr known read agree]

theorem groupRows_congr (agree : RowsAgree names rows others) {fields : List String}
    {items : List Expression} (grouped : ∀ field ∈ fields, field ∈ names)
    (read : ReadsOperands items names) :
    groupRows rows fields items = groupRows others fields items := by
  unfold groupRows
  cases known : Aggregate.ofItems items with
  | error fault => rfl
  | ok aggregates =>
    have step : ∀ groups {a b}, Row.AgreeOn names a b →
        Group.addRow aggregates fields groups a = Group.addRow aggregates fields groups b := by
      intro groups a b agree
      rw [Group.addRow, Group.addRow, agree.mapM_lookup grouped]
      exact congrArg _ (funext fun values => Group.place_congr known read agree values groups)
    have same := Parallel.foldlM_eq agree step []
    simp only [bind, Except.bind, same]

/-! ## Order, repeated rows and projection -/

theorem keyed_parallel (agree : Row.AgreeOn names a b) {keys : List SortKey}
    (read : ∀ key ∈ keys, key.1 ∈ names) :
    Parallel (fun p q => p.1 = q.1 ∧ Row.AgreeOn names p.2 q.2) (keyed keys a) (keyed keys b) := by
  have values : (keys.mapM fun key => (a.lookup key.1).map Value.coerce) =
      keys.mapM fun key => (b.lookup key.1).map Value.coerce :=
    mapM_congr fun key member => by rw [agree.lookup (read key member)]
  rw [keyed, keyed, values]
  exact (Parallel.of_eq rfl).bind fun same => .passed ⟨same, agree⟩

theorem sortRows_parallel (agree : RowsAgree names rows others) {keys : List SortKey}
    (read : ∀ key ∈ keys, key.1 ∈ names) :
    Parallel (RowsAgree names) (sortRows keys rows) (sortRows keys others) := by
  refine (Parallel.mapM agree fun agree => keyed_parallel agree read).bind fun keyed => ?_
  refine .passed (List.forall₂_map_left_iff.mpr (List.forall₂_map_right_iff.mpr ?_))
  refine (forall₂_mergeSort keyed fun first second => ?_).imp fun _ _ related => related.2
  rw [first.1, second.1]

theorem firstByKey_forall₂ {α β κ : Type} [BEq κ] {R : α → β → Prop} {key : α → κ}
    {key' : β → κ} {xs : List α} {ys : List β} (related : List.Forall₂ R xs ys)
    (same : ∀ {a b}, R a b → key a = key' b) (seen : List κ) :
    List.Forall₂ R (firstByKey key seen xs) (firstByKey key' seen ys) := by
  induction related generalizing seen with
  | nil => exact .nil
  | cons head _ ih =>
    rw [firstByKey, firstByKey, same head]
    split
    · exact ih seen
    · exact .cons head (ih _)

theorem distinctRows_agree (agree : RowsAgree names rows others) {items : List Expression}
    (noStar : .all ∉ items) (read : ∀ item ∈ items, item.label ∈ names) :
    RowsAgree names (distinctRows items rows) (distinctRows items others) := by
  refine firstByKey_forall₂ agree (fun {a b} agree => ?_) []
  have shown : shownValues items a = shownValues items b := by
    refine List.flatMap_congr fun item member => ?_
    cases item with
    | all => exact absurd member noStar
    | column name => exact congrArg (fun cell => [Option.getD cell .null]) (agree _ (read _ member))
    | call name operand =>
      exact congrArg (fun cell => [Option.getD cell .null]) (agree _ (read _ member))
  rw [shown]

theorem projectRow_congr (agree : Row.AgreeOn names a b) {labels : List String}
    (read : ∀ label ∈ labels, label ∈ names) : projectRow labels a = projectRow labels b := by
  have cells : (labels.mapM fun label => (a.lookup label).map fun value => (label, value)) =
      labels.mapM fun label => (b.lookup label).map fun value => (label, value) :=
    mapM_congr fun label member => by rw [agree.lookup (read label member)]
  rw [projectRow, projectRow, cells]

end Steps

end TableQuery
