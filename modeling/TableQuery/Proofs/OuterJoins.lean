import TableQuery.Proofs.JoinedRows

/-!
What the kinds of join have in common.

What a pair of rows shows under a requested field does not depend on the kind of join. So a
left join is the inner join, base row by base row, with one more row for each base row that
has no partner (`joinRows_left_inner`). And since a field that resolves to one of two tables
resolves to the same one when the two change places, a right join is a left join of the two
tables in the other order, as long as no row has several partners (`joinRows_right_left`).
-/

namespace TableQuery

/-! ## Rows under some labels -/

namespace Row

/-- The cells of a row under some labels. -/
def restrictedTo (labels : List String) (row : Row) : Row :=
  ⟨row.entries.filter (·.1 ∈ labels), row.ascending.filter _⟩

theorem get?_restrictedTo (labels : List String) (row : Row) (name : String) :
    (row.restrictedTo labels).get? name = if name ∈ labels then row.get? name else none := by
  have entries (cells : List (String × Value)) :
      NameMap.find? name (cells.filter (·.1 ∈ labels)) =
        if name ∈ labels then NameMap.find? name cells else none := by
    induction cells with
    | nil => simp [NameMap.find?]
    | cons cell cells ih =>
      obtain ⟨label, value⟩ := cell
      rw [List.filter_cons]
      by_cases same : label = name
      · subst same
        by_cases kept : label ∈ labels <;> simp [NameMap.find?, kept, ih]
      · by_cases kept : label ∈ labels <;> simp [NameMap.find?, kept, same, ih]
  exact entries row.entries

/-- A row shows a pair of rows under some labels: for each label the value of the column that
it resolves to, and null where the row of that side is missing or has no such cell. -/
def Shows (base other : Table) (labels : List String) (first second : Option Row) (row : Row) :
    Prop :=
  ∀ label ∈ labels, ∃ side column, JoinLayout.resolve base other label = .ok (side, column) ∧
    row.get? label = some (JoinLayout.value first second ⟨label, side, column⟩)

end Row

/-! ## Layouts -/

namespace JoinLayout

variable {base other : Table} {labels : List String}

/-- The row of a pair shows the pair. -/
theorem shows_pairRow (resolved : ∀ label ∈ labels, ∃ place, resolve base other label = .ok place)
    (pair : String × String) (kind : JoinKind) (rows : Row × Option Row) :
    ((ofLabels base other labels pair).pairRow base kind rows).Shows base other labels
      (some rows.1) rows.2 := by
  intro label given
  obtain ⟨⟨side, column⟩, found⟩ := resolved label given
  refine ⟨side, column, found, ?_⟩
  rw [get?_pairRow, if_pos given, shown, placed_of_resolve found]

/-! ## Left joins -/

/-- The requested fields of a row do not tell the kind of join. -/
theorem restrictedTo_pairRow (pair : String × String) (kind : JoinKind)
    (rows : Row × Option Row) :
    ((ofLabels base other labels pair).pairRow base kind rows).restrictedTo labels =
      (ofLabels base other labels pair).pairRow base .inner rows := by
  refine NameMap.ext_get? fun name => ?_
  rw [Row.get?_restrictedTo, get?_pairRow, get?_pairRow]
  by_cases given : name ∈ labels
  · rw [if_pos given, if_pos given, if_pos given]
  · rw [if_neg given, if_neg given, if_pos rfl]

/-- A row of an outer join has the cells of the base row under the qualified columns. -/
theorem get?_pairRow_qualified (undotted : '.' ∉ base.name.toList) {column : String}
    (known : column ∈ base.columns) (pair : String × String) {kind : JoinKind}
    (outer : kind ≠ .inner) (rows : Row × Option Row) :
    ((ofLabels base other labels pair).pairRow base kind rows).get? (qualified base.name column) =
      some ((rows.1.get? column).getD .null) := by
  rw [get?_pairRow]
  by_cases given : qualified base.name column ∈ labels
  · rw [if_pos given, shown, placed_of_resolve (resolve_base undotted known)]
    rfl
  · -- of several columns of one name all have the one cell
    have cells : base.qualifiedColumns.zip (base.record rows.1) = base.columns.map fun column =>
        (qualified base.name column, (rows.1.get? column).getD .null) := by
      rw [Table.qualifiedColumns, Table.record, List.zip_map']
    have named : qualified base.name column ∈
        (base.qualifiedColumns.zip (base.record rows.1)).map (·.1) := by
      rw [cells, List.map_map]
      exact List.mem_map_of_mem known
    have present := (NameMap.isSome_get?_insertAll .empty _ _).mpr (Or.inr named)
    obtain ⟨value, found⟩ := Option.isSome_iff_exists.mp present
    rw [← NameMap.ofList] at found
    rcases NameMap.mem_of_get?_insertAll found with absent | member
    · cases absent
    · rw [cells] at member
      obtain ⟨other, _, same⟩ := List.mem_map.mp member
      obtain ⟨names, rfl⟩ := Prod.mk.inj same
      rw [qualified_inj names] at found
      rw [if_neg given, if_neg outer, found]

/-! ## Left joins beside inner ones -/

/-- What a left join makes of one base row, beside what the inner join makes of it. -/
structure LeftPart (base other : Table) (labels : List String) (row : Row)
    (inner left : List Row) : Prop where
  /-- Under the requested fields the rows are those of the inner join, if it has some. -/
  matched : inner ≠ [] → left.map (Row.restrictedTo labels) = inner
  /-- Without a partner there is one row, of the base row alone. -/
  unmatched : inner = [] → ∃ only, left = [only] ∧ only.Shows base other labels (some row) none
  qualified : ∀ shown ∈ left, ∀ column ∈ base.columns,
    shown.get? (qualified base.name column) = some ((row.get? column).getD .null)

theorem innerRows_ofLabels (pair : String × String) (row : Row) :
    (ofLabels base other labels pair).innerRows other row =
      (other.rows.filter ((ofLabels base other labels pair).matchesRows row)).map fun partner =>
        (ofLabels base other labels pair).pairRow base .inner (row, some partner) :=
  rfl

/-- The rows of a left join for one base row, as pairs. -/
theorem leftRows_ofLabels (pair : String × String) (row : Row) :
    (ofLabels base other labels pair).leftRows base other row =
      (match other.rows.filter ((ofLabels base other labels pair).matchesRows row) with
        | [] => [none]
        | partners => partners.map some).map fun partner =>
          (ofLabels base other labels pair).pairRow base .left (row, partner) := by
  rw [leftRows]
  cases other.rows.filter ((ofLabels base other labels pair).matchesRows row) with
  | nil => rfl
  | cons partner partners =>
    rw [List.map_map]
    rfl

theorem leftPart (undotted : '.' ∉ base.name.toList) (pair : String × String)
    (resolved : ∀ label ∈ labels, ∃ place, resolve base other label = .ok place) (row : Row) :
    let layout := ofLabels base other labels pair
    LeftPart base other labels row (layout.innerRows other row)
      (layout.leftRows base other row) := by
  intro layout
  have inner : layout.innerRows other row = _ := innerRows_ofLabels pair row
  have left : layout.leftRows base other row = _ := leftRows_ofLabels pair row
  rw [inner, left]
  refine ⟨fun some => ?matched, fun none => ?unmatched, fun shown member column known => ?qualified⟩
  case matched =>
    cases partners : other.rows.filter ((ofLabels base other labels pair).matchesRows row) with
    | nil => simp [partners] at some
    | cons partner more =>
      rw [List.map_map, List.map_map]
      exact List.map_congr_left fun partner _ => restrictedTo_pairRow pair .left _
  case unmatched =>
    rw [List.map_eq_nil_iff.mp none]
    exact ⟨_, rfl, shows_pairRow resolved pair .left _⟩
  case qualified =>
    obtain ⟨partner, _, rfl⟩ := List.mem_map.mp member
    have outer : JoinKind.left ≠ .inner := by decide
    exact get?_pairRow_qualified undotted known pair outer (row, partner)

end JoinLayout

/-- A left join is the inner join with a row for each base row without a partner. Base row by
base row and in their order, it gives under the requested fields what the inner join of that
row alone gives, or else one row with nulls for the other table, and besides it has every
column of the base table under its qualified name. -/
theorem joinRows_left_inner {base other : Table} (undotted : '.' ∉ base.name.toList)
    {join : Join} {fields : List String} {layout : JoinLayout}
    (made : JoinLayout.ofTables base other join fields = .ok layout) :
    joinRows base other { join with kind := .inner } fields =
        .ok (base.rows.flatMap (layout.innerRows other)) ∧
      joinRows base other { join with kind := .left } fields =
        .ok (base.rows.flatMap (layout.leftRows base other)) ∧
      ∀ row, joinRows { base with rows := [row] } other { join with kind := .inner } fields =
          .ok (layout.innerRows other row) ∧
        JoinLayout.LeftPart base other fields row (layout.innerRows other row)
          (layout.leftRows base other row) := by
  obtain ⟨⟨pair, _, rfl⟩, resolved⟩ := JoinLayout.ofTables_eq_ok.mp made
  have anyKind (kind : JoinKind) : joinRows base other { join with kind } fields =
      .ok ((JoinLayout.ofLabels base other fields pair).rows base other kind) := by
    have sameLayout : JoinLayout.ofTables base other { join with kind } fields = _ := made
    rw [joinRows, sameLayout]
    rfl
  refine ⟨anyKind .inner, anyKind .left, fun row => ⟨?_, ?_⟩⟩
  · have single : JoinLayout.ofTables { base with rows := [row] } other
        { join with kind := .inner } fields = _ := made
    rw [joinRows, single]
    exact congrArg Except.ok (List.append_nil _)
  · exact JoinLayout.leftPart undotted pair resolved row

/-- A base row with two partners, and one without a partner and without a cell. -/
theorem joinRows_left_inner_twoPartners :
    let a : Table := ⟨"a", ["k", "x"], [.ofList [("k", .text "1"), ("x", .text "p")],
      .ofList [("k", .text "2")]]⟩
    let b := Table.ofRecords "b" ["k", "v"] [["1", "u"], ["3", "u"], ["1", "w"]]
    let join : Join := ⟨.left, "b", "b.k", "a.k"⟩
    ∃ layout, JoinLayout.ofTables a b join ["v", "x"] = .ok layout ∧
      (joinRows a b join ["v", "x"]).map List.length = .ok 3 ∧
      ∀ row, JoinLayout.LeftPart a b ["v", "x"] row (layout.innerRows b row)
        (layout.leftRows a b row) := by
  intro a b join
  have made : JoinLayout.ofTables a b join ["v", "x"] =
      .ok ⟨"k", "k", [⟨"v", .other, "v"⟩, ⟨"x", .base, "x"⟩]⟩ := by decide +kernel
  have undotted : '.' ∉ a.name.toList := by decide
  obtain ⟨_, _, parts⟩ := joinRows_left_inner undotted made
  exact ⟨_, made, by decide +kernel, fun row => (parts row).2⟩

/-! ## Tables that change places -/

theorem Value.equals_comm (a b : Value) : a.equals b = b.equals a := by
  cases a <;> cases b <;> try rfl
  · exact Bool.beq_comm
  · rename_i x y
    rw [equals, equals, Binary64.compare?, Binary64.compare?, Bool.or_comm]
    split
    · rfl
    · rw [Bool.eq_iff_iff, beq_iff_eq, beq_iff_eq, Option.some_inj, Option.some_inj,
        Std.LawfulEqCmp.compare_eq_iff_eq, Std.LawfulEqCmp.compare_eq_iff_eq, eq_comm]
  · exact Bool.beq_comm

/-- The side of a table when the two tables change places. -/
def Side.swap : Side → Side
  | base => other
  | other => base

/-- A bare name that is a column of both tables. -/
def Table.SharedBareName (a b : Table) (name : String) : Prop :=
  '.' ∉ name.toList ∧ a.hasColumn name = true ∧ b.hasColumn name = true

theorem Table.SharedBareName.swap {a b : Table} {name : String}
    (shared : a.SharedBareName b name) : b.SharedBareName a name :=
  ⟨shared.1, shared.2.2, shared.2.1⟩

namespace JoinLayout

variable {a b : Table}

/-- When two tables change places, a name that is not a bare one of both resolves to the same
column. -/
theorem resolve_swap (different : a.name ≠ b.name) {name : String}
    (unshared : ¬ a.SharedBareName b name) :
    resolve b a name = (resolve a b name).map fun place => (place.1.swap, place.2) := by
  unfold resolve
  cases split : Text.splitFirst? '.' name.toList with
  | some parts =>
    obtain ⟨table, column⟩ := parts
    dsimp only
    by_cases inA : String.ofList table = a.name ∧ a.hasColumn (String.ofList column) = true
    · have notInB : ¬ (String.ofList table = b.name ∧
          b.hasColumn (String.ofList column) = true) :=
        fun inB => different (inA.1.symm.trans inB.1)
      simp only [if_pos inA, if_neg notInB]
      rfl
    · by_cases inB : String.ofList table = b.name ∧ b.hasColumn (String.ofList column) = true
      · simp only [if_neg inA, if_pos inB]
        rfl
      · simp only [if_neg inA, if_neg inB]
        rfl
  | none =>
    have bare : '.' ∉ name.toList := Text.splitFirst?_eq_none_iff.mp split
    dsimp only
    cases inA : a.hasColumn name <;> cases inB : b.hasColumn name
    · rfl
    · rfl
    · rfl
    · exact absurd ⟨bare, inA, inB⟩ unshared

theorem resolve_swap_eq_ok (different : a.name ≠ b.name) {name : String}
    (unshared : ¬ a.SharedBareName b name) (side : Side) {column : String} :
    resolve b a name = .ok (side.swap, column) ↔ resolve a b name = .ok (side, column) := by
  rw [resolve_swap different unshared]
  cases resolve a b name with
  | error fault => exact ⟨nofun, nofun⟩
  | ok place =>
    obtain ⟨found, _⟩ := place
    cases side <;> cases found <;> simp [Except.map, Side.swap]

theorem resolve_of_shared {name : String} (shared : a.SharedBareName b name) :
    resolve a b name = .ok (.base, name) := by
  unfold resolve
  rw [Text.splitFirst?_eq_none_iff.mpr shared.1]
  simp only [shared.2.1, if_true]

/-- The keys of a condition are the same columns when two tables change places, and in either
order of its sides. -/
theorem keys_swap (different : a.name ≠ b.name) {join swapped : Join}
    (sides : (swapped.left, swapped.right) ∈ [(join.left, join.right), (join.right, join.left)])
    (unshared : a.SharedBareName b join.left ↔ a.SharedBareName b join.right)
    (baseKey otherKey : String) :
    keys b a swapped = .ok (otherKey, baseKey) ↔ keys a b join = .ok (baseKey, otherKey) := by
  have either : (swapped.left = join.left ∧ swapped.right = join.right) ∨
      (swapped.left = join.right ∧ swapped.right = join.left) := by simpa using sides
  rw [keys_eq_ok, keys_eq_ok]
  by_cases shared : a.SharedBareName b join.left
  · -- both sides are columns of the base table, whichever of the two it is
    have left := resolve_of_shared shared
    have right := resolve_of_shared (unshared.mp shared)
    have swappedLeft := resolve_of_shared shared.swap
    have swappedRight := resolve_of_shared (unshared.mp shared).swap
    rcases either with ⟨first, second⟩ | ⟨first, second⟩ <;>
      simp [left, right, first, second, swappedLeft, swappedRight]
  · have left := resolve_swap_eq_ok different shared
    have right := resolve_swap_eq_ok different (mt unshared.mpr shared)
    rcases either with ⟨first, second⟩ | ⟨first, second⟩
    · rw [first, second, ← left .base, ← left .other, ← right .base, ← right .other]
      exact Or.comm
    · rw [first, second, ← left .base, ← left .other, ← right .base, ← right .other]
      exact or_congr And.comm And.comm

/-- A layout of two tables is one of the two in the other order, with the keys exchanged. -/
theorem ofTables_swap (different : a.name ≠ b.name) {labels : List String}
    (qualified : ∀ label ∈ labels, '.' ∈ label.toList) {join swapped : Join}
    (sides : (swapped.left, swapped.right) ∈ [(join.left, join.right), (join.right, join.left)])
    (unshared : a.SharedBareName b join.left ↔ a.SharedBareName b join.right)
    (baseKey otherKey : String) :
    ofTables b a swapped labels = .ok (ofLabels b a labels (otherKey, baseKey)) ↔
      ofTables a b join labels = .ok (ofLabels a b labels (baseKey, otherKey)) := by
  rw [ofTables_eq_ok, ofTables_eq_ok]
  refine and_congr ?keys (forall₂_congr fun label given => ?labels)
  case keys =>
    have keyed (base other : Table) (clause : Join) (first second : String) :
        (∃ pair, keys base other clause = .ok pair ∧
          ofLabels base other labels pair = ofLabels base other labels (first, second)) ↔
          keys base other clause = .ok (first, second) := by
      refine ⟨?_, fun found => ⟨_, found, rfl⟩⟩
      rintro ⟨⟨_, _⟩, found, same⟩
      obtain ⟨rfl, rfl, _⟩ := JoinLayout.mk.inj same
      exact found
    rw [keyed, keyed]
    exact keys_swap different sides unshared baseKey otherKey
  case labels =>
    have bare : ¬ a.SharedBareName b label := fun shared => shared.1 (qualified label given)
    rw [resolve_swap different bare]
    cases resolve a b label with
    | error fault => exact ⟨nofun, nofun⟩
    | ok place => exact ⟨fun _ => ⟨place, rfl⟩, fun _ => ⟨_, rfl⟩⟩

/-- A join succeeds when it has a layout. -/
theorem isOk_joinRows {base other : Table} {join : Join} {labels : List String} :
    (joinRows base other join labels).isOk = true ↔
      ∃ pair, ofTables base other join labels = .ok (ofLabels base other labels pair) := by
  rw [joinRows]
  cases made : ofTables base other join labels with
  | error fault => exact ⟨nofun, nofun⟩
  | ok layout =>
    obtain ⟨⟨pair, _, rfl⟩, _⟩ := ofTables_eq_ok.mp made
    exact ⟨fun _ => ⟨pair, rfl⟩, fun _ => rfl⟩

/-- Whether two rows match does not depend on whose table comes first. -/
theorem matchesRows_swap (labels : List String) (baseKey otherKey : String) (first second : Row) :
    (ofLabels b a labels (otherKey, baseKey)).matchesRows second first =
      (ofLabels a b labels (baseKey, otherKey)).matchesRows first second := by
  simp only [matchesRows, ofLabels]
  cases first.get? baseKey with
  | none => cases second.get? otherKey <;> rfl
  | some x =>
    cases second.get? otherKey with
    | none => rfl
    | some y =>
      simp only [Value.equals_comm y x]
      cases x <;> cases y <;> rfl

end JoinLayout

/-- Lists that are related to one list are related to each other. -/
theorem forall₂_of_common {α β γ : Type} {R : α → β → Prop} {S : α → γ → Prop}
    {T : β → γ → Prop} {xs : List α} {ys : List β} {zs : List γ} (first : List.Forall₂ R xs ys)
    (second : List.Forall₂ S xs zs) (both : ∀ {x y z}, R x y → S x z → T y z) :
    List.Forall₂ T ys zs := by
  induction first generalizing zs with
  | nil =>
    cases second
    exact .nil
  | cons head _ ih =>
    cases second with
    | cons other rest => exact .cons (both head other) (ih rest)

namespace Row

variable {a b : Table} {labels : List String} {first second : Option Row} {row other : Row}

/-- A row that shows a pair shows it also when the two tables change places. -/
theorem Shows.swap (different : a.name ≠ b.name)
    (qualified : ∀ label ∈ labels, '.' ∈ label.toList)
    (shows : row.Shows b a labels second first) : row.Shows a b labels first second := by
  intro label given
  obtain ⟨side, column, found, cell⟩ := shows label given
  have unshared : ¬ b.SharedBareName a label := fun shared => shared.1 (qualified label given)
  refine ⟨side.swap, column, ?_, ?_⟩
  · exact (JoinLayout.resolve_swap_eq_ok different.symm unshared side).mpr found
  · rw [cell]
    cases side <;> rfl

/-- Rows that show one pair have the same cells. -/
theorem Shows.get?_eq (shows : row.Shows a b labels first second)
    (also : other.Shows a b labels first second) :
    ∀ label ∈ labels, row.get? label = other.get? label := by
  intro label given
  obtain ⟨side, column, found, cell⟩ := shows label given
  obtain ⟨_, _, again, otherCell⟩ := also label given
  cases found.symm.trans again
  rw [cell, otherCell]

/-- The row of nulls stands for a missing row. -/
theorem Shows.of_nullRow {table : Table}
    (shows : row.Shows a b labels (some (first.getD table.nullRow)) second) :
    row.Shows a b labels first second := by
  intro label given
  obtain ⟨side, column, found, cell⟩ := shows label given
  refine ⟨side, column, found, cell.trans ?_⟩
  cases side with
  | other => rfl
  | base =>
    cases first with
    | some row => rfl
    | none =>
      have null : (table.nullRow.get? column).getD .null = .null := by
        rw [Table.nullRow, NameMap.get?_ofList_map]
        split <;> rfl
      exact congrArg some null

end Row

namespace JoinLayout

variable {a b : Table} {labels : List String}

/-- A right join has a row for each other row, which shows it beside the first base row that
matches. -/
theorem shows_rightRows (resolved : ∀ label ∈ labels, ∃ place, resolve a b label = .ok place)
    (pair : String × String) :
    let layout := ofLabels a b labels pair
    List.Forall₂ (fun partner row =>
        row.Shows a b labels (a.rows.find? (layout.matchesRows · partner)) (some partner))
      b.rows (layout.rows a b .right) := by
  intro layout
  rw [rows_eq, pairs, List.map_map, List.forall₂_map_right_iff, List.forall₂_same]
  exact fun partner _ => (shows_pairRow resolved pair .right _).of_nullRow

/-- Without several partners a left join has a row for each base row. -/
theorem leftRows_of_single {layout : JoinLayout} {base other : Table} {row : Row}
    (single : (other.rows.filter (layout.matchesRows row)).length ≤ 1) :
    layout.leftRows base other row =
      [layout.outerRow base row (other.rows.find? (layout.matchesRows row))] := by
  rw [leftRows, ← List.head?_filter]
  cases partners : other.rows.filter (layout.matchesRows row) with
  | nil => rfl
  | cons partner more =>
    rw [partners, List.length_cons] at single
    have none : more = [] := List.eq_nil_of_length_eq_zero (by omega)
    rw [none]
    rfl

theorem shows_leftRows (resolved : ∀ label ∈ labels, ∃ place, resolve a b label = .ok place)
    (pair : String × String)
    (single : ∀ row ∈ a.rows,
      (b.rows.filter ((ofLabels a b labels pair).matchesRows row)).length ≤ 1) :
    let layout := ofLabels a b labels pair
    List.Forall₂ (fun row found =>
        found.Shows a b labels (some row) (b.rows.find? (layout.matchesRows row)))
      a.rows (layout.rows a b .left) := by
  intro layout
  have singles : layout.rows a b .left = a.rows.map fun row =>
      layout.outerRow a row (b.rows.find? (layout.matchesRows row)) := by
    rw [List.map_eq_flatMap]
    exact List.flatMap_congr fun row member => leftRows_of_single (single row member)
  rw [singles, List.forall₂_map_right_iff, List.forall₂_same]
  exact fun row _ => shows_pairRow resolved pair .left (row, _)

/-- Without several partners the rows of a right join and those of the left join of the two
tables in the other order have the same cells under the requested fields. -/
theorem get?_rows_swap (different : a.name ≠ b.name)
    (qualified : ∀ label ∈ labels, '.' ∈ label.toList)
    (resolved : ∀ label ∈ labels, ∃ place, resolve a b label = .ok place)
    (swappedResolved : ∀ label ∈ labels, ∃ place, resolve b a label = .ok place)
    {baseKey otherKey : String} (single : ∀ partner ∈ b.rows,
      (a.rows.filter ((ofLabels a b labels (baseKey, otherKey)).matchesRows · partner)).length ≤ 1) :
    List.Forall₂ (fun row other => ∀ label ∈ labels, row.get? label = other.get? label)
      ((ofLabels a b labels (baseKey, otherKey)).rows a b .right)
      ((ofLabels b a labels (otherKey, baseKey)).rows b a .left) := by
  have matchesAlike (partner : Row) :
      (ofLabels b a labels (otherKey, baseKey)).matchesRows partner =
        ((ofLabels a b labels (baseKey, otherKey)).matchesRows · partner) :=
    funext fun row => matchesRows_swap labels baseKey otherKey row partner
  have shownRight := shows_rightRows resolved (baseKey, otherKey)
  have shownLeft := shows_leftRows swappedResolved (otherKey, baseKey)
    fun partner member => matchesAlike partner ▸ single partner member
  simp only [matchesAlike] at shownLeft
  -- row by row both show the row of the second table beside its one partner
  exact forall₂_of_common shownRight shownLeft fun shown swapped =>
    shown.get?_eq (swapped.swap different qualified)

end JoinLayout

/-- A right join is a left join of the two tables in the other order. Whatever its condition,
it gives a row for each row of the second table, in their order, which shows under the
requested fields that row and the first row of the first table that matches, with nulls where
none does. When no side of the condition is a bare name of both tables, or both sides are,
the two joins both fail or both succeed; and when no row of the second table has several
partners, their rows have the same cells under the requested fields, one by one. -/
theorem joinRows_right_left {a b : Table} (different : a.name ≠ b.name) {fields : List String}
    (qualified : ∀ field ∈ fields, '.' ∈ field.toList) {right left : Join}
    (isRight : right.kind = .right) (isLeft : left.kind = .left)
    (sides : (left.left, left.right) ∈ [(right.left, right.right), (right.right, right.left)]) :
    (∀ layout, JoinLayout.ofTables a b right fields = .ok layout →
      ∃ rows, joinRows a b right fields = .ok rows ∧
        List.Forall₂ (fun partner row =>
            row.Shows a b fields (a.rows.find? (layout.matchesRows · partner)) (some partner))
          b.rows rows) ∧
      ((a.SharedBareName b right.left ↔ a.SharedBareName b right.right) →
        (joinRows a b right fields).isOk = (joinRows b a left fields).isOk ∧
          ∀ layout, JoinLayout.ofTables a b right fields = .ok layout →
            (∀ partner ∈ b.rows,
              (a.rows.filter (layout.matchesRows · partner)).length ≤ 1) →
            ∃ rows others, joinRows a b right fields = .ok rows ∧
              joinRows b a left fields = .ok others ∧
              List.Forall₂ (fun row other => ∀ field ∈ fields, row.get? field = other.get? field)
                rows others) := by
  have rightRows : ∀ layout, JoinLayout.ofTables a b right fields = .ok layout →
      joinRows a b right fields = .ok (layout.rows a b .right) := by
    intro layout made
    rw [joinRows, made, isRight]
    rfl
  refine ⟨fun layout made => ⟨_, rightRows layout made, ?_⟩, fun unshared => ⟨?_, ?_⟩⟩
  · obtain ⟨⟨pair, _, rfl⟩, resolved⟩ := JoinLayout.ofTables_eq_ok.mp made
    exact JoinLayout.shows_rightRows resolved pair
  · rw [Bool.eq_iff_iff, JoinLayout.isOk_joinRows, JoinLayout.isOk_joinRows]
    have swap := JoinLayout.ofTables_swap different qualified sides unshared
    exact ⟨fun ⟨(baseKey, otherKey), made⟩ => ⟨_, (swap baseKey otherKey).mpr made⟩,
      fun ⟨(otherKey, baseKey), made⟩ => ⟨_, (swap baseKey otherKey).mp made⟩⟩
  · intro layout made single
    obtain ⟨⟨⟨baseKey, otherKey⟩, _, rfl⟩, resolved⟩ := JoinLayout.ofTables_eq_ok.mp made
    have swapped := (JoinLayout.ofTables_swap different qualified sides unshared _ _).mpr made
    obtain ⟨_, swappedResolved⟩ := JoinLayout.ofTables_eq_ok.mp swapped
    have leftRows : joinRows b a left fields =
        .ok ((JoinLayout.ofLabels b a fields (otherKey, baseKey)).rows b a .left) := by
      rw [joinRows, swapped, isLeft]
      rfl
    exact ⟨_, _, rightRows _ made, leftRows,
      JoinLayout.get?_rows_swap different qualified resolved swappedResolved single⟩

/-- The sides of the condition in the other order, a row without a partner, and two with the
same one. -/
theorem joinRows_right_left_reversed :
    let a := Table.ofRecords "a" ["k", "x"] [["1", "p"], ["2", "q"]]
    let b := Table.ofRecords "b" ["k", "y"] [["2", "u"], ["3", "v"], ["2", "w"]]
    let fields := ["a.x", "b.y"]
    ∃ rows others, joinRows a b ⟨.right, "b", "a.k", "b.k"⟩ fields = .ok rows ∧
      joinRows b a ⟨.left, "a", "b.k", "a.k"⟩ fields = .ok others ∧
      List.Forall₂ (fun row other => ∀ field ∈ fields, row.get? field = other.get? field)
        rows others := by
  intro a b fields
  have made : JoinLayout.ofTables a b ⟨.right, "b", "a.k", "b.k"⟩ fields =
      .ok ⟨"k", "k", [⟨"a.x", .base, "x"⟩, ⟨"b.y", .other, "y"⟩]⟩ := by decide +kernel
  have different : a.name ≠ b.name := by decide
  have qualified : ∀ field ∈ fields, '.' ∈ field.toList := by decide
  have unshared : a.SharedBareName b "a.k" ↔ a.SharedBareName b "b.k" :=
    ⟨fun shared => absurd (by decide) shared.1, fun shared => absurd (by decide) shared.1⟩
  obtain ⟨_, mirrored⟩ := @joinRows_right_left a b different fields qualified
    ⟨.right, "b", "a.k", "b.k"⟩ ⟨.left, "a", "b.k", "a.k"⟩ rfl rfl (by decide)
  exact (mirrored unshared).2 _ made (by decide +kernel)

/-- A bare name of both tables means a column of the first one. So a condition with such a name
on one side joins two tables in one order and is refused in the other. -/
theorem joinRows_right_left_bareKey :
    let a := Table.ofRecords "a" ["k"] [["1"]]
    let b := Table.ofRecords "b" ["k", "x"] [["9", "1"]]
    let fields := ["a.k", "b.x"]
    a.name ≠ b.name ∧ (∀ field ∈ fields, '.' ∈ field.toList) ∧ a.rows.length ≤ 1 ∧
      joinRows a b ⟨.right, "b", "k", "b.x"⟩ fields =
        .ok [.ofList [("a.k", .text "1"), ("b.x", .text "1")]] ∧
      joinRows b a ⟨.left, "a", "k", "b.x"⟩ fields =
        .error (.field (.oneSidedJoin "k" "b.x" "b" "a")) ∧
      joinRows b a ⟨.left, "a", "b.x", "k"⟩ fields =
        .error (.field (.oneSidedJoin "b.x" "k" "b" "a")) := by
  decide +kernel

end TableQuery
