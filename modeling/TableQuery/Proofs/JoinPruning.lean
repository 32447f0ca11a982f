import TableQuery.Proofs.JoinedRows
import TableQuery.Proofs.ParsedStatement
import TableQuery.Proofs.SelectSteps
import TableQuery.Session
import TableQuery.Store.Memory

/-!
The columns that a join leaves out are never missed.

A join asks for the columns that later steps refer to, and for no others unless `*` is
selected. The sort keys that are labels of aggregates are left out on purpose. They read
nothing from joined rows, however many columns these have, because such a label is spelled
unlike every qualified column (`Rows.lookup?_label`). So a join that asks for all columns
leads to the same result (`Query.run_widened`).
-/

namespace TableQuery

/-! ## Labels of aggregates are no qualified columns -/

/-- Two lists differ when each has a separator that does not stand before that of the other. -/
theorem append_cons_ne {α : Type} {a b : α} {xs ys as bs : List α} (different : a ≠ b)
    (noB : b ∉ xs) (noA : a ∉ ys) : xs ++ a :: as ≠ ys ++ b :: bs := by
  intro same
  rcases List.append_eq_append_iff.mp same with ⟨between, rfl, tail⟩ | ⟨between, rfl, tail⟩
  · cases between with
    | nil => exact different (List.cons.inj tail).1
    | cons c rest =>
      obtain ⟨rfl, _⟩ := List.cons.inj tail
      exact noA (List.mem_append_right _ List.mem_cons_self)
  · cases between with
    | nil => exact different (List.cons.inj tail).1.symm
    | cons c rest =>
      obtain ⟨rfl, _⟩ := List.cons.inj tail
      exact noB (List.mem_append_right _ List.mem_cons_self)

theorem dot_of_toLower {c : Char} (lower : c.toLower = '.') : c = '.' := by
  unfold Char.toLower at lower
  split at lower
  · rename_i upper
    have low : 65 ≤ c.val.toNat := UInt32.le_iff_toNat_le.mp upper.1
    have high : c.val.toNat ≤ 90 := UInt32.le_iff_toNat_le.mp upper.2
    have code : (c.val.toNat + 32) % 2 ^ 32 = 46 :=
      congrArg (fun c : Char => c.val.toNat) lower
    omega
  · exact lower

section Labels

variable {function operand table : String}

theorem label_ne_qualified (undotted : '.' ∉ function.toList) (noParen : '(' ∉ table.toList)
    (column : String) : (Expression.call function operand).label ≠ qualified table column := by
  intro same
  have chars := congrArg String.toList same
  rw [toList_label, toList_qualified] at chars
  exact append_cons_ne (by decide) undotted noParen chars

/-- A label is no way to write a qualified column, whatever characters that has. -/
theorem sameAggregate_qualified (undotted : '.' ∉ function.toList)
    (noParen : '(' ∉ function.toList) (tableNoParen : '(' ∉ table.toList) (column : String) :
    sameAggregate (Expression.call function operand).label (qualified table column) = false := by
  unfold sameAggregate
  rw [splitFirst?_label noParen]
  cases split : Text.splitFirst? '(' (qualified table column).toList with
  | none => rfl
  | some parts =>
    obtain ⟨name, rest⟩ := parts
    have chars := (Text.splitFirst?_eq_some split).1
    have dotted : '.' ∈ name := by
      by_contra noDot
      rw [toList_qualified] at chars
      exact append_cons_ne (by decide) tableNoParen noDot chars
    have different : lowerAscii function.toList ≠ lowerAscii name := by
      intro same
      have dot : '.' ∈ lowerAscii function.toList :=
        same ▸ List.mem_map.mpr ⟨'.', dotted, by decide⟩
      obtain ⟨c, member, lower⟩ := List.mem_map.mp dot
      exact undotted (dot_of_toLower lower ▸ member)
    simp [different]

/-- What is left of a label without its qualifier is the end of a qualified operand. -/
theorem unqualified?_label (written : (Expression.call function operand).wellFormed = true)
    {name : String} (rest : unqualified? (Expression.call function operand).label = some name) :
    '.' ∉ name.toList ∧ ')' ∈ name.toList := by
  rw [Expression.wellFormed, Bool.and_eq_true] at written
  obtain ⟨known, operandWritten⟩ := written
  have undotted : '.' ∉ function.toList :=
    not_mem_of_isName (isName_of_isFunction known) (by decide)
  obtain ⟨parts, split, rfl⟩ := Option.map_eq_some_iff.mp rest
  rw [toList_label] at split
  have dotted : '.' ∈ operand.toList := by
    by_contra noDot
    have none : Text.splitFirst? '.' (function.toList ++ '(' :: (operand.toList ++ [')'])) = none :=
      Text.splitFirst?_eq_none_iff.mpr (by simp [undotted, noDot])
    rw [none] at split
    cases split
  have column : isColumn operand = true := by
    rcases Bool.or_eq_true_iff.mp operandWritten with star | column
    · exact absurd dotted (by rw [beq_iff_eq.mp star]; decide)
    · exact column
  rcases isColumn_cases column with named | ⟨table, name, tableNamed, named, rfl⟩
  · exact absurd dotted (not_mem_of_isName named (by decide))
  · have tableUndotted : '.' ∉ table.toList := not_mem_of_isName tableNamed (by decide)
    have shape : function.toList ++ '(' :: ((qualified table name).toList ++ [')']) =
        (function.toList ++ '(' :: table.toList) ++ '.' :: (name.toList ++ [')']) := by
      simp [toList_qualified]
    rw [shape, Text.splitFirst?_append (by simp [undotted, tableUndotted])] at split
    cases split
    have nameUndotted : '.' ∉ name.toList := not_mem_of_isName named (by decide)
    simp [nameUndotted]

end Labels

/-! ## Joined rows -/

namespace Rows

open JoinLayout

variable {base other : Table} {fields : List String}

/-- A name that a step may read from joined rows: a requested field, or a label, which reads
nothing. -/
inductive Readable (fields : List String) : String → Prop
  | field {name : String} : name ∈ fields → isColumn name = true → Readable fields name
  | label {function operand : String} : (Expression.call function operand).wellFormed = true →
    Readable fields (Expression.call function operand).label

/-- The row of a pair under all labels that a join has. -/
abbrev joinedRow (base other : Table) (fields : List String) (all : Bool) (kind : JoinKind)
    (keys : String × String) (pair : Row × Option Row) : Row :=
  (JoinLayout.ofLabels base other (joinFields base other fields all) keys).pairRow base kind pair

theorem lookup?_field {name : String} (requested : name ∈ fields) (all : Bool) (kind : JoinKind)
    (keys : String × String) (pair : Row × Option Row) :
    (joinedRow base other fields all kind keys pair).lookup? name =
      some (shown base other pair name) := by
  rw [Row.lookup?, get?_pairRow, if_pos (mem_joinFields.mpr (Or.inr requested))]

/-- A joined row has cells under requested fields and under qualified columns only. -/
theorem get?_joinedRow_eq_none {name : String} (unrequested : name ∉ fields)
    (unqualified : name ∉ base.qualifiedColumns ++ other.qualifiedColumns) (all : Bool)
    (kind : JoinKind) (keys : String × String) (pair : Row × Option Row) :
    (joinedRow base other fields all kind keys pair).get? name = none := by
  have noLabel : name ∉ joinFields base other fields all := fun member =>
    (mem_joinFields.mp member).elim (fun given => unqualified given.2) unrequested
  rw [get?_pairRow, if_neg noLabel]
  split
  · rfl
  · rw [← Option.not_isSome_iff_eq_none, NameMap.ofList, NameMap.isSome_get?_insertAll]
    rintro (absent | member)
    · cases absent
    · obtain ⟨cell, inCells, rfl⟩ := List.mem_map.mp member
      exact unqualified (List.mem_append_left _ (List.of_mem_zip inCells).1)

section Named

variable (baseNamed : isName base.name = true) (otherNamed : isName other.name = true)
  (columns : ∀ field ∈ fields, isColumn field = true)

include baseNamed otherNamed

theorem mem_qualifiedColumns {name : String}
    (member : name ∈ base.qualifiedColumns ++ other.qualifiedColumns) :
    ∃ table column, isName table = true ∧ name = qualified table column := by
  rcases List.mem_append.mp member with inBase | inOther
  · obtain ⟨column, _, rfl⟩ := List.mem_map.mp inBase
    exact ⟨_, column, baseNamed, rfl⟩
  · obtain ⟨column, _, rfl⟩ := List.mem_map.mp inOther
    exact ⟨_, column, otherNamed, rfl⟩

include columns

/-- The label of an aggregate reads nothing from a joined row. -/
theorem lookup?_label {function operand : String}
    (written : (Expression.call function operand).wellFormed = true) (all : Bool) (kind : JoinKind)
    (keys : String × String) (pair : Row × Option Row) :
    (joinedRow base other fields all kind keys pair).lookup?
      (Expression.call function operand).label = none := by
  have known := written
  rw [Expression.wellFormed, Bool.and_eq_true] at known
  have functionNamed := isName_of_isFunction known.1
  have exact : (joinedRow base other fields all kind keys pair).get?
      (Expression.call function operand).label = none := by
    refine get?_joinedRow_eq_none (fun member => ?_) (fun member => ?_) all kind keys pair
    · have paren : '(' ∈ (Expression.call function operand).label.toList := by
        simp [toList_label]
      exact not_mem_of_isColumn (columns _ member) (by decide) (by decide) paren
    · obtain ⟨table, column, named, same⟩ := mem_qualifiedColumns baseNamed otherNamed member
      exact label_ne_qualified (not_mem_of_isName functionNamed (by decide))
        (not_mem_of_isName named (by decide)) column same
  rw [Row.lookup?, exact]
  cases rest : unqualified? (Expression.call function operand).label with
  | none => rfl
  | some name =>
    obtain ⟨undotted, paren⟩ := unqualified?_label written rest
    refine get?_joinedRow_eq_none (fun member => ?_) (fun member => ?_) all kind keys pair
    · exact not_mem_of_isColumn (columns _ member) (by decide) (by decide) paren
    · obtain ⟨table, column, _, rfl⟩ := mem_qualifiedColumns baseNamed otherNamed member
      exact undotted (by simp [toList_qualified])

/-- Among the columns of a join every name that is read means itself. -/
theorem sortColumn_of_readable {name : String} (readable : Readable fields name) (all : Bool)
    (kind : JoinKind) (keys : String × String) :
    sortColumn (Rows.ofLabels base other kind (joinFields base other fields all) keys).columns
      name = name := by
  have unlike : ∀ column ∈
      (Rows.ofLabels base other kind (joinFields base other fields all) keys).columns,
      sameAggregate name column = false := by
    intro column member
    have known : column ∈ fields ∨ column ∈ base.qualifiedColumns ++ other.qualifiedColumns := by
      rcases mem_columns member with label | inBase
      · exact (mem_joinFields.mp label).symm.imp id And.right
      · exact Or.inr (List.mem_append_left _ inBase)
    cases readable with
    | field _ written =>
      have none : Text.splitFirst? '(' name.toList = none :=
        Text.splitFirst?_eq_none_iff.mpr (not_mem_of_isColumn written (by decide) (by decide))
      simp only [sameAggregate, none]
    | @label function operand written =>
      rw [Expression.wellFormed, Bool.and_eq_true] at written
      have functionNamed := isName_of_isFunction written.1
      rcases known with requested | inHeader
      · have none : Text.splitFirst? '(' column.toList = none :=
          Text.splitFirst?_eq_none_iff.mpr
            (not_mem_of_isColumn (columns _ requested) (by decide) (by decide))
        unfold sameAggregate
        rw [none]
        split
        · rename_i contra
          cases contra
        · rfl
      · obtain ⟨table, bare, named, rfl⟩ := mem_qualifiedColumns baseNamed otherNamed inHeader
        exact sameAggregate_qualified (not_mem_of_isName functionNamed (by decide))
          (not_mem_of_isName functionNamed (by decide)) (not_mem_of_isName named (by decide)) bare
  unfold sortColumn
  split
  · rfl
  · rw [List.find?_eq_none.mpr fun column member => by rw [unlike column member]; decide]
    rfl

/-- Asking for all columns of both tables makes no difference to the names that are read. -/
theorem joined_parallel {names : List String} (readable : ∀ name ∈ names, Readable fields name)
    (join : Join) :
    Parallel (Rows.AgreeOn names) (joined base other join fields false)
      (joined base other join fields true) := by
  have baseUndotted : '.' ∉ base.name.toList := not_mem_of_isName baseNamed (by decide)
  have otherUndotted : '.' ∉ other.name.toList := not_mem_of_isName otherNamed (by decide)
  rw [joined_eq, joined_eq, unresolved?_joinFields baseUndotted otherUndotted,
    unresolved?_joinFields baseUndotted otherUndotted]
  refine (Parallel.of_eq rfl).bind fun {keys sameKeys} same => ?_
  subst same
  cases JoinLayout.unresolved? base other fields with
  | some fault => exact .failed fault
  | none =>
    refine .passed ⟨?_, fun name member => ⟨?_, ?_⟩⟩
    · simp only [Rows.ofLabels, rows_eq]
      rw [pairs_ofLabels (joinFields base other fields false) (joinFields base other fields true)]
      refine List.forall₂_map_left_iff.mpr (List.forall₂_map_right_iff.mpr
        (List.forall₂_same.mpr fun pair _ name member => ?_))
      cases readable name member with
      | field requested _ =>
        exact (lookup?_field requested false _ _ _).trans (lookup?_field requested true _ _ _).symm
      | label written =>
        exact (lookup?_label baseNamed otherNamed columns written false _ _ _).trans
          (lookup?_label baseNamed otherNamed columns written true _ _ _).symm
    · exact sortColumn_of_readable baseNamed otherNamed columns (readable name member) _ _ _
    · exact sortColumn_of_readable baseNamed otherNamed columns (readable name member) _ _ _

end Named

end Rows

/-! ## Plans -/

/-- The plan with joins that ask for every column of both tables. -/
def Plan.widened : Plan → Plan
  | scan table => .scan table
  | join base other table clause fields _ =>
    .join base.widened other.widened table clause fields true
  | filter source conditions => .filter source.widened conditions
  | aggregate source items => .aggregate source.widened items
  | groupBy source fields items => .groupBy source.widened fields items
  | order source keys => .order source.widened keys
  | limit source count => .limit source.widened count
  | distinct source items => .distinct source.widened items
  | project source items => .project source.widened items
  | insert table columns values => .insert table columns values
  | delete table conditions => .delete table conditions

namespace Query

theorem widened_addStep {α : Type} {step : Plan → α → Plan}
    (one : ∀ plan a, (step plan a).widened = step plan.widened a) (clause : Option α)
    (plan : Plan) : (addStep step clause plan).widened = addStep step clause plan.widened := by
  cases clause with
  | none => rfl
  | some a => exact one plan a

/-- The steps behind a source have no join. -/
theorem widened_stepsOn (query : Query) (source : Plan) :
    (query.stepsOn source).widened = query.stepsOn source.widened := by
  have filtered : Plan.widened (if query.conditions = [] then source
      else .filter source query.conditions) =
      if query.conditions = [] then source.widened
      else .filter source.widened query.conditions := by
    split <;> rfl
  have arranged (plan : Plan) :
      (query.arrangedOn plan).widened = query.arrangedOn plan.widened := by
    have cut : (addStep .limit query.limit (addStep .order query.orderBy plan)).widened =
        addStep .limit query.limit (addStep .order query.orderBy plan.widened) := by
      rw [widened_addStep fun _ _ => rfl, widened_addStep fun _ _ => rfl]
    unfold arrangedOn
    rw [← cut]
    cases query.distinct <;> cases query.groupBy.isSome <;> rfl
  have grouped (plan : Plan) :
      (addStep (fun plan fields => .groupBy plan fields query.fields) query.groupBy plan).widened =
        addStep (fun plan fields => .groupBy plan fields query.fields) query.groupBy
          plan.widened :=
    widened_addStep (fun _ _ => rfl) _ _
  unfold stepsOn
  cases query.aggregatesAll with
  | true => exact congrArg (Plan.aggregate · query.fields) filtered
  | false =>
    refine (arranged _).trans (congrArg _ ((grouped _).trans ?_))
    rw [filtered]

/-- A sort key that can be written is a column or the label of an aggregate. -/
theorem isSortField_cases {field : String} (written : isSortField field = true) :
    isColumn field = true ∧ '(' ∉ field.toList ∨
      ∃ function operand, (Expression.call function operand).wellFormed = true ∧
        field = (Expression.call function operand).label := by
  rw [isSortField, Bool.and_eq_true, beq_iff_eq] at written
  obtain ⟨wellFormed, label⟩ := written
  cases item : Expression.ofLabel field with
  | all =>
    unfold Expression.ofLabel at item
    split at item <;> cases item
  | column name =>
    rw [item] at wellFormed label
    cases label
    exact Or.inl ⟨wellFormed, not_mem_of_isColumn wellFormed (by decide) (by decide)⟩
  | call function operand =>
    rw [item] at wellFormed label
    exact Or.inr ⟨function, operand, wellFormed, label.symm⟩

variable {query : Query}

theorem isSortField_of_key (wellFormed : query.WellFormed) {name : String}
    (isKey : name ∈ (query.orderBy.getD []).map (·.1)) : isSortField name = true := by
  obtain ⟨key, given, rfl⟩ := List.mem_map.mp isKey
  cases keys : query.orderBy with
  | none =>
    rw [keys] at given
    cases given
  | some sorted =>
    rw [keys] at given
    exact (wellFormed.orderBy sorted keys).2 key given

/-- The fields that a well-formed statement asks its join for are columns. -/
theorem isColumn_of_referenced (wellFormed : query.WellFormed) :
    ∀ field ∈ query.referencedFields, isColumn field = true := by
  intro field member
  rw [referencedFields, mem_firstMentions] at member
  simp only [List.mem_append, or_assoc] at member
  rcases member with selected | tested | grouped | sorted
  · obtain ⟨item, given, reads⟩ := List.mem_filterMap.mp selected
    have written := wellFormed.fields item given
    cases item with
    | all => cases reads
    | column name =>
      cases reads
      exact written
    | call function operand =>
      rw [Expression.wellFormed, Bool.and_eq_true, Bool.or_eq_true, beq_iff_eq] at written
      rw [itemColumn?] at reads
      split at reads
      · cases reads
      · rename_i notStar
        cases reads
        exact written.2.resolve_left notStar
  · obtain ⟨condition, given, rfl⟩ := List.mem_map.mp tested
    exact wellFormed.conditions condition given
  · cases fields : query.groupBy with
    | none =>
      rw [fields] at grouped
      cases grouped
    | some names =>
      rw [fields] at grouped
      exact (wellFormed.groupBy names fields).2 field grouped
  · obtain ⟨isKey, noParen⟩ := List.mem_filter.mp sorted
    rcases isSortField_cases (isSortField_of_key wellFormed isKey) with
      ⟨column, _⟩ | ⟨function, operand, _, rfl⟩
    · exact column
    · simp [toList_label] at noParen

/-- The names that a well-formed statement reads are fields that it asks its join for, and
labels. -/
theorem readable_of_wellFormed (wellFormed : query.WellFormed) :
    ∀ name ∈ query.readNames, Rows.Readable query.referencedFields name := by
  intro name member
  rcases List.mem_append.mp member with requested | isKey
  · exact .field requested (isColumn_of_referenced wellFormed name requested)
  · rcases isSortField_cases (isSortField_of_key wellFormed isKey) with
      ⟨column, noParen⟩ | ⟨function, operand, written, rfl⟩
    · have sorted : name ∈ sortColumns (query.orderBy.getD []) :=
        List.mem_filter.mpr ⟨isKey, by simpa using noParen⟩
      refine .field (mem_firstMentions.mpr ?_) column
      exact List.mem_append_right _ sorted
    · exact .label written

variable {σ : Type} [Store σ]

theorem joinOf_parallel (wellFormed : query.WellFormed) {join : Join}
    (joined : query.join = some join) (store : σ) :
    Parallel (Rows.AgreeOn query.readNames) (query.joinOf join false store)
      (query.joinOf join true store) := by
  refine (Parallel.of_eq rfl).bind fun {base sameBase} same => ?_
  subst same
  refine (Parallel.of_eq rfl).bind fun {other sameOther} same => ?_
  subst same
  exact Rows.joined_parallel wellFormed.table (wellFormed.joinTable join joined)
    (isColumn_of_referenced wellFormed) (readable_of_wellFormed wellFormed) join

/-- A select statement with a join and without `*` has the same outcome when its join asks
for every column of both tables. -/
theorem run_widened {store : σ} {sql : String} {join : Join} {plan : Plan}
    (parsed : Statement.ofText sql = .ok (.select query)) (joined : query.join = some join)
    (noStar : .all ∉ query.fields) (planned : query.toPlan = .ok plan) :
    plan.widened.run store = plan.run store := by
  obtain ⟨_, _, same⟩ := bind_eq_ok planned
  cases same
  have wellFormed : query.WellFormed := (Statement.parsed_of_ofText parsed).wellFormed
  have noAll : query.fields.contains .all = false := by
    simpa using noStar
  have source : query.planSource = .join (.scan query.table) (.scan join.table) query.table join
      query.referencedFields false := by
    rw [planSource, joined, noAll]
  rw [steps_eq, widened_stepsOn, source, Plan.widened, Plan.widened, Plan.widened,
    query.runsOn_stepsOn rfl, query.runsOn_stepsOn rfl, run_join, run_join]
  have same : query.joinOf join true store >>= query.afterSource =
      query.joinOf join false store >>= query.afterSource :=
    ((joinOf_parallel wellFormed joined store).bind fun agree =>
      Parallel.of_eq (afterSource_congr agree noStar wellFormed.aggregatesAll)).eq.symm
  rw [Plan.andThen_map, Plan.andThen_map, same]

/-- A left join of three columns that joins five when it is widened: the key and the value of the
second table under their own names are read by nothing. -/
theorem run_widened_leftJoin :
    let store := MemoryStore.ofTables
      [⟨"a", ["id", "k"], [.ofList [("id", .text "1"), ("k", .text "x")],
          .ofList [("id", .text "2"), ("k", .text "y")]]⟩,
        ⟨"b", ["k", "v"], [.ofList [("k", .text "x"), ("v", .text "5")]]⟩]
    let sql := "SELECT a.id, v FROM a LEFT JOIN b ON a.k = b.k WHERE a.k != 'z'"
    let query : Query :=
      { fields := [.column "a.id", .column "v"], table := "a",
        join := some ⟨.left, "b", "a.k", "b.k"⟩, conditions := [⟨"a.k", .notEqual, "z"⟩],
        groupBy := none, aggregatesAll := false, orderBy := none, limit := none,
        distinct := false }
    let narrow : Rows := ⟨["a.id", "a.k", "v"],
      [.ofList [("a.id", .text "1"), ("a.k", .text "x"), ("v", .text "5")],
        .ofList [("a.id", .text "2"), ("a.k", .text "y"), ("v", .null)]]⟩
    let wide : Rows := ⟨["a.id", "a.k", "b.k", "b.v", "v"],
      [.ofList [("a.id", .text "1"), ("a.k", .text "x"), ("b.k", .text "x"), ("b.v", .text "5"),
          ("v", .text "5")],
        .ofList [("a.id", .text "2"), ("a.k", .text "y"), ("b.k", .null), ("b.v", .null),
          ("v", .null)]]⟩
    let shown : Rows := ⟨["a.id", "v"], [.ofList [("a.id", .text "1"), ("v", .text "5")],
      .ofList [("a.id", .text "2"), ("v", .null)]]⟩
    Statement.ofText sql = .ok (.select query) ∧ query.toPlan = .ok query.steps ∧
      query.planSource.run store = (.ok (.rows narrow), store) ∧
      query.planSource.widened.run store = (.ok (.rows wide), store) ∧
      query.steps.run store = (.ok (.rows shown), store) ∧
      query.steps.widened.run store = (.ok (.rows shown), store) := by
  intro store sql query narrow wide shown
  have parsed : Statement.ofText sql = .ok (.select query) := by decide +kernel
  have planned : query.toPlan = .ok query.steps := by decide
  have answer : query.steps.run store = (.ok (.rows shown), store) := by decide +kernel
  refine ⟨parsed, planned, by decide +kernel, by decide +kernel, answer, ?_⟩
  rw [run_widened parsed rfl (by decide) planned]
  exact answer

end Query

end TableQuery
