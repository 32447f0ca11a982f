import Mathlib.Data.List.Forall2
import TableQuery.Plan.Run
import TableQuery.Proofs.Names
import TableQuery.Proofs.Outcome

/-!
The rows of a join, said without the steps that make them.

Which rows meet is a matter of the two keys alone (`JoinLayout.pairs`), and what a pair
shows under a label is a matter of that label alone (`JoinLayout.placed`). The requested
fields say only which labels there are, and that each of them must resolve. So a join with
other requested fields has the same pairs of rows, and the labels that both joins have hold
the same values.
-/

namespace TableQuery

namespace JoinLayout

variable {base other : Table}

/-! ## Keys and fields -/

/-- The columns of the two keys. -/
def keys (base other : Table) (join : Join) : Except Fault (String × String) := do
  let left ← resolve base other join.left
  let right ← resolve base other join.right
  match left, right with
  | (.base, l), (.other, r) => .ok (l, r)
  | (.other, l), (.base, r) => .ok (r, l)
  | _, _ => .error (.field (.oneSidedJoin join.left join.right base.name other.name))

/-- The keys of a condition: its sides resolve to a column of each table. -/
theorem keys_eq_ok {join : Join} {baseKey otherKey : String} :
    keys base other join = .ok (baseKey, otherKey) ↔
      (resolve base other join.left = .ok (.base, baseKey) ∧
        resolve base other join.right = .ok (.other, otherKey)) ∨
      (resolve base other join.left = .ok (.other, otherKey) ∧
        resolve base other join.right = .ok (.base, baseKey)) := by
  unfold keys
  cases resolve base other join.left with
  | error fault => simp [bind, Except.bind]
  | ok left =>
    cases resolve base other join.right with
    | error fault => simp [bind, Except.bind]
    | ok right =>
      obtain ⟨leftSide, l⟩ := left
      obtain ⟨rightSide, r⟩ := right
      cases leftSide <;> cases rightSide <;> simp [bind, Except.bind, and_comm]

/-- The field of a label. -/
def field (base other : Table) (label : String) : Except Fault JoinField :=
  (resolve base other label).map fun place => ⟨label, place.1, place.2⟩

/-- The field of a label that resolves. -/
def placed (base other : Table) (label : String) : JoinField :=
  match resolve base other label with
  | .ok place => ⟨label, place.1, place.2⟩
  | .error _ => ⟨label, .base, label⟩

theorem label_placed (base other : Table) (label : String) :
    (placed base other label).label = label := by
  unfold placed
  split <;> rfl

theorem placed_of_resolve {label column : String} {side : Side}
    (found : resolve base other label = .ok (side, column)) :
    placed base other label = ⟨label, side, column⟩ := by
  rw [placed, found]

/-- The fault of the first label that does not resolve. -/
def unresolved? (base other : Table) (labels : List String) : Option Fault :=
  labels.findSome? fun label => fault? (field base other label)

/-- The layout of some labels with the given keys. -/
def ofLabels (base other : Table) (labels : List String) (keys : String × String) :
    JoinLayout :=
  ⟨keys.1, keys.2, labels.map (placed base other)⟩

theorem mapM_field (labels : List String) :
    labels.mapM (field base other) =
      unlessFault (unresolved? base other labels) (labels.map (placed base other)) := by
  have given : ∀ label found, field base other label = .ok found →
      found = placed base other label := by
    intro label found read
    obtain ⟨place, resolved, rfl⟩ := map_eq_ok read
    rw [placed, resolved]
  exact mapM_cases given labels

theorem ofTables_eq (join : Join) (labels : List String) :
    ofTables base other join labels =
      keys base other join >>= fun keys =>
        unlessFault (unresolved? base other labels) (ofLabels base other labels keys) := by
  have fields (read : String → Except Fault JoinField)
      (same : ∀ label, read label = field base other label) : labels.mapM read =
        unlessFault (unresolved? base other labels) (labels.map (placed base other)) := by
    rw [funext same, mapM_field]
  unfold ofTables keys
  rw [fields]
  · cases resolve base other join.left with
    | error fault => rfl
    | ok left =>
      cases resolve base other join.right with
      | error fault => rfl
      | ok right =>
        obtain ⟨leftSide, l⟩ := left
        obtain ⟨rightSide, r⟩ := right
        cases leftSide <;> cases rightSide <;>
          cases unresolved? base other labels <;> rfl
  · intro label
    rw [field]
    cases resolve base other label <;> rfl

/-- The layouts of a join are those of its keys, when every label resolves. -/
theorem ofTables_eq_ok {join : Join} {labels : List String} {layout : JoinLayout} :
    ofTables base other join labels = .ok layout ↔
      (∃ pair, keys base other join = .ok pair ∧ ofLabels base other labels pair = layout) ∧
        ∀ label ∈ labels, ∃ place, resolve base other label = .ok place := by
  have resolved : unresolved? base other labels = none ↔
      ∀ label ∈ labels, ∃ place, resolve base other label = .ok place := by
    rw [unresolved?, List.findSome?_eq_none_iff]
    refine forall₂_congr fun label _ => ?_
    unfold field
    cases resolve base other label with
    | error fault =>
      constructor
      · intro none
        cases none
      · rintro ⟨place, found⟩
        cases found
    | ok place => exact ⟨fun _ => ⟨place, rfl⟩, fun _ => rfl⟩
  rw [ofTables_eq, ← resolved]
  constructor
  · intro made
    obtain ⟨pair, found, made⟩ := bind_eq_ok made
    obtain ⟨none, same⟩ := unlessFault_eq_ok made
    exact ⟨⟨pair, found, same⟩, none⟩
  · rintro ⟨⟨pair, found, rfl⟩, none⟩
    rw [found, none]
    rfl

/-! ## Pairs of rows -/

/-- The pairs of rows that a join shows: those that match and, in a left join, the base rows
without a partner. In a right join every other row has the first base row that matches, or
else the row of nulls. -/
def pairs (layout : JoinLayout) (base other : Table) : JoinKind → List (Row × Option Row)
  | .inner => base.rows.flatMap fun row =>
      (other.rows.filter (layout.matchesRows row)).map fun partner => (row, some partner)
  | .left => base.rows.flatMap fun row =>
      match other.rows.filter (layout.matchesRows row) with
      | [] => [(row, none)]
      | partners => partners.map fun partner => (row, some partner)
  | .right => other.rows.map fun partner =>
      ((base.rows.find? (layout.matchesRows · partner)).getD base.nullRow, some partner)

/-- The row of a pair. -/
def pairRow (layout : JoinLayout) (base : Table) (kind : JoinKind) (pair : Row × Option Row) :
    Row :=
  if kind = .inner then NameMap.ofList (layout.cells (some pair.1) pair.2)
  else layout.outerRow base pair.1 pair.2

theorem rows_eq (layout : JoinLayout) (base other : Table) (kind : JoinKind) :
    layout.rows base other kind =
      (layout.pairs base other kind).map (layout.pairRow base kind) := by
  cases kind with
  | inner =>
    rw [rows, pairs, List.map_flatMap]
    refine List.flatMap_congr fun row _ => ?_
    rw [innerRows, List.map_map]
    rfl
  | left =>
    rw [rows, pairs, List.map_flatMap]
    refine List.flatMap_congr fun row _ => ?_
    rw [leftRows]
    cases other.rows.filter (layout.matchesRows row) with
    | nil => rfl
    | cons partner more =>
      rw [List.map_map]
      rfl
  | right =>
    rw [rows, pairs, List.map_map]
    rfl

/-- The pairs are those of the keys, whatever the labels are. -/
theorem pairs_ofLabels (labels others : List String) (keys : String × String) (kind : JoinKind) :
    (ofLabels base other labels keys).pairs base other kind =
      (ofLabels base other others keys).pairs base other kind := by
  cases kind <;> rfl

/-- What a pair of rows shows under a label. -/
def shown (base other : Table) (pair : Row × Option Row) (label : String) : Value :=
  value (some pair.1) pair.2 (placed base other label)

theorem cells_ofLabels (labels : List String) (keys : String × String)
    (pair : Row × Option Row) :
    (ofLabels base other labels keys).cells (some pair.1) pair.2 =
      labels.map fun label => (label, shown base other pair label) := by
  rw [cells, ofLabels, List.map_map]
  refine List.map_congr_left fun label _ => ?_
  rw [Function.comp_apply, label_placed, shown]

/-- The cell of a joined row: that of the label, or in an outer join that of the base row. -/
theorem get?_pairRow (labels : List String) (keys : String × String) (kind : JoinKind)
    (pair : Row × Option Row) (name : String) :
    ((ofLabels base other labels keys).pairRow base kind pair).get? name =
      if name ∈ labels then some (shown base other pair name)
      else if kind = .inner then none
      else (NameMap.ofList (base.qualifiedColumns.zip (base.record pair.1))).get? name := by
  unfold pairRow
  by_cases inner : kind = .inner
  · rw [if_pos inner, if_pos inner, cells_ofLabels, NameMap.get?_ofList_map]
  · rw [if_neg inner, if_neg inner, outerRow, NameMap.get?_insertAll, cells_ofLabels,
      NameMap.get?_ofList_map]
    split <;> rfl

/-! ## Columns -/

/-- The columns of an outer join are those of the base table and the labels, and of an inner
join the labels alone. -/
theorem columns_ofLabels (labels : List String) (keys : String × String) (kind : JoinKind) :
    (ofLabels base other labels keys).columns base kind =
      labels.foldl (fun seen name => if seen.contains name then seen else seen ++ [name])
        (if kind = .inner then [] else base.qualifiedColumns) := by
  have labelsOf : (labels.map (placed base other)).map (·.label) = labels := by
    rw [List.map_map]
    exact (List.map_congr_left fun label _ => label_placed base other label).trans
      (List.map_id labels)
  have fold : (ofLabels base other labels keys).columns base kind =
      ((labels.map (placed base other)).map (·.label)).foldl
        (fun seen name => if seen.contains name then seen else seen ++ [name])
        (if kind = .inner then [] else base.qualifiedColumns) := by
    rw [List.foldl_map]
    rfl
  rw [fold, labelsOf]

theorem mem_columns {labels : List String} {keys : String × String} {kind : JoinKind}
    {column : String} (member : column ∈ (ofLabels base other labels keys).columns base kind) :
    column ∈ labels ∨ column ∈ base.qualifiedColumns := by
  rw [columns_ofLabels, mem_foldl_mention] at member
  rcases member with start | label
  · split at start
    · cases start
    · exact Or.inr start
  · exact Or.inl label

/-- A column of the base table is found under its qualified name. -/
theorem resolve_base (undotted : '.' ∉ base.name.toList) {column : String}
    (known : column ∈ base.columns) :
    resolve base other (qualified base.name column) = .ok (.base, column) := by
  have has : base.hasColumn column = true := List.contains_iff_mem.mpr known
  unfold resolve
  rw [splitFirst?_qualified undotted]
  simp only [String.ofList_toList, has, and_self, if_true]

/-- A column of the other table is found under its qualified name, if perhaps in a base table
of the same name. -/
theorem resolve_other (undotted : '.' ∉ other.name.toList) {column : String}
    (known : column ∈ other.columns) :
    ∃ side, resolve base other (qualified other.name column) = .ok (side, column) := by
  have has : other.hasColumn column = true := List.contains_iff_mem.mpr known
  unfold resolve
  rw [splitFirst?_qualified undotted]
  simp only [String.ofList_toList, has, and_self, if_true]
  by_cases inBase : other.name = base.name ∧ base.hasColumn column = true
  · exact ⟨.base, by rw [if_pos inBase]⟩
  · exact ⟨.other, by rw [if_neg inBase]⟩

end JoinLayout

/-! ## Labels of a join -/

namespace Rows

variable {base other : Table} {fields : List String}

theorem mem_joinFields {all : Bool} {name : String} :
    name ∈ joinFields base other fields all ↔
      (all = true ∧ name ∈ base.qualifiedColumns ++ other.qualifiedColumns) ∨ name ∈ fields := by
  rw [joinFields, mem_foldl_mention]
  cases all <;> simp

/-- Asking for all columns adds no label that does not resolve. -/
theorem unresolved?_joinFields (baseUndotted : '.' ∉ base.name.toList)
    (otherUndotted : '.' ∉ other.name.toList) (all : Bool) :
    JoinLayout.unresolved? base other (joinFields base other fields all) =
      JoinLayout.unresolved? base other fields := by
  have start : (if all then base.qualifiedColumns ++ other.qualifiedColumns else []).findSome?
      (fun label => fault? (JoinLayout.field base other label)) = none := by
    refine List.findSome?_eq_none_iff.mpr fun label member => ?_
    cases all with
    | false => cases member
    | true =>
      rcases List.mem_append.mp member with inBase | inOther
      · obtain ⟨column, known, rfl⟩ := List.mem_map.mp inBase
        rw [JoinLayout.field, JoinLayout.resolve_base baseUndotted known]
        rfl
      · obtain ⟨column, known, rfl⟩ := List.mem_map.mp inOther
        obtain ⟨side, found⟩ : ∃ side, JoinLayout.resolve base other _ = .ok (side, column) :=
          JoinLayout.resolve_other otherUndotted known
        rw [JoinLayout.field, found]
        rfl
  rw [JoinLayout.unresolved?, joinFields, findSome?_foldl_mention, start, Option.none_or,
    ← JoinLayout.unresolved?]

/-- The columns and rows of a join with some labels. -/
def ofLabels (base other : Table) (kind : JoinKind) (labels : List String)
    (keys : String × String) : Rows :=
  let layout := JoinLayout.ofLabels base other labels keys
  ⟨layout.columns base kind, layout.rows base other kind⟩

theorem joined_eq (join : Join) (all : Bool) :
    joined base other join fields all =
      JoinLayout.keys base other join >>= fun keys =>
        unlessFault (JoinLayout.unresolved? base other (joinFields base other fields all))
          (ofLabels base other join.kind (joinFields base other fields all) keys) := by
  rw [joined, JoinLayout.ofTables_eq, bind_assoc]
  refine congrArg _ (funext fun keys => ?_)
  cases JoinLayout.unresolved? base other (joinFields base other fields all) <;> rfl

theorem joined_eq_ok {join : Join} {all : Bool} {source : Rows}
    (made : joined base other join fields all = .ok source) :
    ∃ keys, JoinLayout.keys base other join = .ok keys ∧
      JoinLayout.unresolved? base other (joinFields base other fields all) = none ∧
      ofLabels base other join.kind (joinFields base other fields all) keys = source := by
  rw [joined_eq] at made
  obtain ⟨keys, found, made⟩ := bind_eq_ok made
  obtain ⟨none, same⟩ := unlessFault_eq_ok made
  exact ⟨keys, found, none, same⟩

end Rows

end TableQuery
