import Mathlib.Data.List.Perm.Basic
import Mathlib.Data.List.ProdSigma
import TableQuery.Proofs.OuterJoins

/-!
Inner joins of two tables in either order.

An inner join goes through all pairs of rows, keeps those with equal keys and shows each of
them (`JoinLayout.rows_inner`). When the tables change places the same pairs are gone through
in another order, and each has equal keys and shows the same cells as before. So the rows of
the two joins are the same up to their order, and there are as many as there are pairs with
equal keys (`joinRows_inner_swap`).
-/

namespace TableQuery

/-! ## Rows with equal keys -/

/-- Two rows have equal keys in a column of each: both have a cell there, neither cell is null,
and the cells are equal. -/
def Row.Meets (columns : String × String) (first second : Row) : Prop :=
  ∃ x y, first.get? columns.1 = some x ∧ second.get? columns.2 = some y ∧
    x ≠ .null ∧ y ≠ .null ∧ x.equals y = true

theorem Value.ne_null_of_equals {x y : Value} (some : x ≠ .null) (same : x.equals y = true) :
    y ≠ .null := by
  rintro rfl
  cases x with
  | null => exact some rfl
  | integer n => cases same
  | float x => cases same
  | text s => cases same

theorem JoinLayout.matchesRows_iff {layout : JoinLayout} {first second : Row} :
    layout.matchesRows first second = true ↔
      first.Meets (layout.baseKey, layout.otherKey) second := by
  unfold matchesRows Row.Meets
  cases first.get? layout.baseKey with
  | none => simp
  | some x =>
    cases second.get? layout.otherKey with
    | none => simp
    | some y =>
      simp only [ne_eq, Bool.and_eq_true, decide_eq_true_eq, Option.some.injEq]
      constructor
      · rintro ⟨notNull, same⟩
        exact ⟨x, y, rfl, rfl, notNull, Value.ne_null_of_equals notNull same, same⟩
      · rintro ⟨_, _, rfl, rfl, notNull, _, same⟩
        exact ⟨notNull, same⟩

instance Row.decidableMeets (columns : String × String) (first second : Row) :
    Decidable (first.Meets columns second) :=
  decidable_of_iff _ (@JoinLayout.matchesRows_iff ⟨columns.1, columns.2, []⟩ first second)

/-! ## Pairs of rows in either order -/

/-- The pairs of two lists are those of the lists in the other order, turned around. -/
theorem map_swap_product_perm {α β : Type} (xs : List α) (ys : List β) :
    ((xs ×ˢ ys).map Prod.swap).Perm (ys ×ˢ xs) := by
  induction xs with
  | nil => simp
  | cons x xs ih =>
    have front : (ys.map (Prod.mk x)).map Prod.swap = ys.map fun y => (y, x) := by
      rw [List.map_map]
      rfl
    rw [List.product_cons, List.map_append, front]
    -- for each later element, the pair with the first one comes before its other pairs
    exact (ih.append_left _).trans (List.map_append_flatMap_perm ys _ _)

namespace JoinLayout

/-- An inner join shows the pairs of rows that match. -/
theorem rows_inner (layout : JoinLayout) (base other : Table) :
    layout.rows base other .inner =
      ((base.rows ×ˢ other.rows).filter fun pair => layout.matchesRows pair.1 pair.2).map
        fun pair => layout.innerRow pair.1 pair.2 := by
  rw [rows]
  induction base.rows with
  | nil => rfl
  | cons row rest ih =>
    rw [List.flatMap_cons, ih, List.product_cons, List.filter_append, List.map_append,
      List.filter_map, List.map_map]
    rfl

/-- There are as many rows as pairs with equal keys. -/
theorem length_rows_inner (layout : JoinLayout) (base other : Table) :
    (layout.rows base other .inner).length =
      (base.rows ×ˢ other.rows).countP fun pair =>
        pair.1.Meets (layout.baseKey, layout.otherKey) pair.2 := by
  rw [rows_inner, List.length_map, ← List.countP_eq_length_filter]
  exact List.countP_congr fun pair _ => by rw [matchesRows_iff, decide_eq_true_eq]

variable {a b : Table} {labels : List String}

/-- A pair of rows shows the same when the two tables change places. -/
theorem innerRow_swap (different : a.name ≠ b.name)
    (qualified : ∀ label ∈ labels, '.' ∈ label.toList)
    (resolved : ∀ label ∈ labels, ∃ place, resolve a b label = .ok place)
    (swappedResolved : ∀ label ∈ labels, ∃ place, resolve b a label = .ok place)
    (baseKey otherKey : String) (first second : Row) :
    (ofLabels b a labels (otherKey, baseKey)).innerRow second first =
      (ofLabels a b labels (baseKey, otherKey)).innerRow first second := by
  have shows := shows_pairRow resolved (baseKey, otherKey) .inner (first, some second)
  have swapped := shows_pairRow swappedResolved (otherKey, baseKey) .inner (second, some first)
  have sameCells := (swapped.swap different qualified).get?_eq shows
  refine NameMap.ext_get? fun name => ?_
  by_cases given : name ∈ labels
  · exact sameCells name given
  · have absent (base other : Table) (keys : String × String) (rows : Row × Option Row) :
        ((ofLabels base other labels keys).pairRow base .inner rows).get? name = none := by
      rw [get?_pairRow, if_neg given, if_pos rfl]
    exact (absent b a _ (second, some first)).trans (absent a b _ (first, some second)).symm

theorem rows_inner_swap (different : a.name ≠ b.name)
    (qualified : ∀ label ∈ labels, '.' ∈ label.toList)
    (resolved : ∀ label ∈ labels, ∃ place, resolve a b label = .ok place)
    (swappedResolved : ∀ label ∈ labels, ∃ place, resolve b a label = .ok place)
    (baseKey otherKey : String) :
    ((ofLabels a b labels (baseKey, otherKey)).rows a b .inner).Perm
      ((ofLabels b a labels (otherKey, baseKey)).rows b a .inner) := by
  rw [rows_inner, rows_inner]
  have turned := ((map_swap_product_perm a.rows b.rows).filter
    fun pair => (ofLabels b a labels (otherKey, baseKey)).matchesRows pair.1 pair.2).map
    fun pair => (ofLabels b a labels (otherKey, baseKey)).innerRow pair.1 pair.2
  rw [List.filter_map, List.map_map] at turned
  have sameMatches : ((fun pair : Row × Row => (ofLabels b a labels
      (otherKey, baseKey)).matchesRows pair.1 pair.2) ∘ Prod.swap) = fun pair =>
        (ofLabels a b labels (baseKey, otherKey)).matchesRows pair.1 pair.2 :=
    funext fun pair => matchesRows_swap labels baseKey otherKey pair.1 pair.2
  have sameRows : ((fun pair : Row × Row => (ofLabels b a labels
      (otherKey, baseKey)).innerRow pair.1 pair.2) ∘ Prod.swap) = fun pair =>
        (ofLabels a b labels (baseKey, otherKey)).innerRow pair.1 pair.2 :=
    funext fun pair =>
      innerRow_swap different qualified resolved swappedResolved baseKey otherKey pair.1 pair.2
  rwa [sameMatches, sameRows] at turned

/-! ## Conditions that hold in either order -/

/-- A name cannot mean a column of the second table in either order. -/
theorem not_other_in_either_order (different : a.name ≠ b.name) {name column swappedColumn : String}
    (here : resolve a b name = .ok (.other, column)) :
    resolve b a name ≠ .ok (.other, swappedColumn) := by
  intro swapped
  by_cases shared : a.SharedBareName b name
  · cases (resolve_of_shared shared).symm.trans here
  · cases ((resolve_swap_eq_ok different shared .other).mpr here).symm.trans swapped

/-- A condition on whose sides both orders of the tables agree has no bare name of both. -/
theorem unshared_of_keys (different : a.name ≠ b.name) {join swapped : Join}
    (sides : (swapped.left, swapped.right) ∈ [(join.left, join.right), (join.right, join.left)])
    {pair swappedPair : String × String} (here : keys a b join = .ok pair)
    (there : keys b a swapped = .ok swappedPair) :
    ¬ a.SharedBareName b join.left ∧ ¬ a.SharedBareName b join.right := by
  -- a shared name is of the first table in either order, and so the other side of the second
  have refuted {name other : String} (shared : a.SharedBareName b name)
      (here : (∃ column, resolve a b name = .ok (.other, column)) ∨
        ∃ column, resolve a b other = .ok (.other, column))
      (there : (∃ column, resolve b a name = .ok (.other, column)) ∨
        ∃ column, resolve b a other = .ok (.other, column)) : False := by
    have first := resolve_of_shared shared
    have second := resolve_of_shared shared.swap
    rcases here with ⟨column, found⟩ | ⟨column, found⟩
    · cases first.symm.trans found
    · rcases there with ⟨_, again⟩ | ⟨_, again⟩
      · cases second.symm.trans again
      · exact not_other_in_either_order different found again
  have otherSide {base other : Table} {clause : Join} {keysFound : String × String}
      (found : keys base other clause = .ok keysFound) :
      (∃ column, resolve base other clause.left = .ok (.other, column)) ∨
        ∃ column, resolve base other clause.right = .ok (.other, column) := by
    rcases keys_eq_ok.mp found with ⟨_, right⟩ | ⟨left, _⟩
    · exact Or.inr ⟨_, right⟩
    · exact Or.inl ⟨_, left⟩
  have hereOther := otherSide here
  have thereOther : (∃ column, resolve b a join.left = .ok (.other, column)) ∨
      ∃ column, resolve b a join.right = .ok (.other, column) := by
    have given : (swapped.left = join.left ∧ swapped.right = join.right) ∨
        (swapped.left = join.right ∧ swapped.right = join.left) := by simpa using sides
    rcases given with ⟨left, right⟩ | ⟨left, right⟩
    · exact left ▸ right ▸ otherSide there
    · exact (left ▸ right ▸ otherSide there).symm
  exact ⟨fun shared => refuted shared hereOther thereOther,
    fun shared => refuted shared hereOther.symm thereOther.symm⟩

end JoinLayout

/-! ## The two joins -/

/-- An inner join is the same in either order of its tables, up to the order of its rows.
Whatever its condition, it has as many rows as there are pairs of rows with equal keys that
are not null, and when the joins in the two orders both succeed, the rows of the one are a
permutation of those of the other. When no side of the condition is a bare name of both
tables, or both sides are, the two joins both fail or both succeed. -/
theorem joinRows_inner_swap {a b : Table} (different : a.name ≠ b.name) {fields : List String}
    (qualified : ∀ field ∈ fields, '.' ∈ field.toList) {join swapped : Join}
    (isInner : join.kind = .inner) (swappedInner : swapped.kind = .inner)
    (sides : (swapped.left, swapped.right) ∈ [(join.left, join.right), (join.right, join.left)]) :
    (∀ rows, joinRows a b join fields = .ok rows →
      ∃ columns, JoinLayout.keys a b join = .ok columns ∧
        rows.length = (a.rows ×ˢ b.rows).countP fun pair => pair.1.Meets columns pair.2) ∧
      (∀ rows others, joinRows a b join fields = .ok rows →
        joinRows b a swapped fields = .ok others → rows.Perm others) ∧
      ((a.SharedBareName b join.left ↔ a.SharedBareName b join.right) →
        (joinRows a b join fields).isOk = (joinRows b a swapped fields).isOk) := by
  refine ⟨fun rows joined => ?count, fun rows others joined swappedJoined => ?permuted,
    fun unshared => ?outcomes⟩
  case count =>
    obtain ⟨layout, made, same⟩ := map_eq_ok joined
    obtain ⟨⟨pair, found, rfl⟩, _⟩ := JoinLayout.ofTables_eq_ok.mp made
    rw [isInner] at same
    exact ⟨pair, found, same ▸ JoinLayout.length_rows_inner _ a b⟩
  case permuted =>
    obtain ⟨layout, made, same⟩ := map_eq_ok joined
    obtain ⟨swappedLayout, swappedMade, swappedSame⟩ := map_eq_ok swappedJoined
    obtain ⟨⟨⟨baseKey, otherKey⟩, found, rfl⟩, resolved⟩ := JoinLayout.ofTables_eq_ok.mp made
    obtain ⟨⟨swappedPair, swappedFound, rfl⟩, swappedResolved⟩ :=
      JoinLayout.ofTables_eq_ok.mp swappedMade
    obtain ⟨left, right⟩ := JoinLayout.unshared_of_keys different sides found swappedFound
    have sameKeys := (JoinLayout.keys_swap different sides (iff_of_false left right) _ _).mpr found
    cases sameKeys.symm.trans swappedFound
    rw [← same, ← swappedSame, isInner, swappedInner]
    exact JoinLayout.rows_inner_swap different qualified resolved swappedResolved baseKey otherKey
  case outcomes =>
    rw [Bool.eq_iff_iff, JoinLayout.isOk_joinRows, JoinLayout.isOk_joinRows]
    have swap := JoinLayout.ofTables_swap different qualified sides unshared
    exact ⟨fun ⟨(baseKey, otherKey), made⟩ => ⟨_, (swap baseKey otherKey).mpr made⟩,
      fun ⟨(otherKey, baseKey), made⟩ => ⟨_, (swap baseKey otherKey).mp made⟩⟩

/-- Repeated keys on both sides, a null key and a missing one, and the sides of the condition in
the other order. -/
theorem joinRows_inner_swap_repeatedKeys :
    let a : Table := ⟨"a", ["k", "x"], [.ofList [("k", .text "1"), ("x", .text "p")],
      .ofList [("k", .null), ("x", .text "q")], .ofList [("k", .text "1"), ("x", .text "r")]]⟩
    let b : Table := ⟨"b", ["k", "y"], [.ofList [("k", .text "1"), ("y", .text "u")],
      .ofList [("y", .text "v")], .ofList [("k", .null)], .ofList [("k", .text "1")]]⟩
    let fields := ["b.y", "a.x"]
    ∃ rows others, joinRows a b ⟨.inner, "b", "a.k", "b.k"⟩ fields = .ok rows ∧
      joinRows b a ⟨.inner, "a", "a.k", "b.k"⟩ fields = .ok others ∧
      rows.length = 4 ∧ rows ≠ others ∧ rows.Perm others := by
  intro a b fields
  have different : a.name ≠ b.name := by decide
  have qualified : ∀ field ∈ fields, '.' ∈ field.toList := by decide
  obtain ⟨_, permuted, _⟩ := @joinRows_inner_swap a b different fields qualified
    ⟨.inner, "b", "a.k", "b.k"⟩ ⟨.inner, "a", "a.k", "b.k"⟩ rfl rfl (by decide)
  have joined : joinRows a b ⟨.inner, "b", "a.k", "b.k"⟩ fields = .ok [
      .ofList [("a.x", .text "p"), ("b.y", .text "u")], .ofList [("a.x", .text "p"), ("b.y", .null)],
      .ofList [("a.x", .text "r"), ("b.y", .text "u")],
      .ofList [("a.x", .text "r"), ("b.y", .null)]] := by
    decide +kernel
  have swapped : joinRows b a ⟨.inner, "a", "a.k", "b.k"⟩ fields = .ok [
      .ofList [("a.x", .text "p"), ("b.y", .text "u")],
      .ofList [("a.x", .text "r"), ("b.y", .text "u")], .ofList [("a.x", .text "p"), ("b.y", .null)],
      .ofList [("a.x", .text "r"), ("b.y", .null)]] := by
    decide +kernel
  exact ⟨_, _, joined, swapped, rfl, by decide +kernel, permuted _ _ joined swapped⟩

/-- A condition with a bare name of both tables on one side joins them in one order, with a row
for the pair of rows with equal keys, and is refused in the other. -/
theorem joinRows_inner_swap_bareKey :
    let a := Table.ofRecords "a" ["k"] [["1"]]
    let b := Table.ofRecords "b" ["k", "x"] [["9", "1"]]
    let fields := ["a.k", "b.x"]
    a.name ≠ b.name ∧ (∀ field ∈ fields, '.' ∈ field.toList) ∧
      joinRows a b ⟨.inner, "b", "k", "b.x"⟩ fields =
        .ok [.ofList [("a.k", .text "1"), ("b.x", .text "1")]] ∧
      joinRows b a ⟨.inner, "a", "k", "b.x"⟩ fields =
        .error (.field (.oneSidedJoin "k" "b.x" "b" "a")) ∧
      joinRows b a ⟨.inner, "a", "b.x", "k"⟩ fields =
        .error (.field (.oneSidedJoin "b.x" "k" "b" "a")) := by
  decide +kernel

end TableQuery
