import TableQuery.Proofs.DistinctGroups

/-!
Dropping repeated rows keeps the first of each kind.

`firstByKey` carries the keys of what it has kept: behind the front of a list it goes on with
these keys as seen (`firstByKey_append`). So an element is dropped exactly when one that is kept
before it has its key, which is `FirstOccurrences`, and dropping again drops nothing.

A select drops rows by the values that they show, before it projects them. A projected row
reads each label as the row does that it was made of (`get?_projectRow`), and rows that fill the
same columns list their values in the same order (`Row.map_values_congr`). So rows that
show different values stay different on the output columns (`Rows.projected_apart`).
-/

namespace TableQuery

/-! ## First occurrences -/

/-- Of the elements of a list that are the same only the first is kept. -/
structure FirstOccurrences {α : Type} (same : α → α → Prop) (xs kept : List α) : Prop where
  sublist : kept.Sublist xs
  apart : kept.Pairwise fun a b => ¬ same a b
  /-- What stands at a place is kept there, or what is kept before it has one that is the same. -/
  each : ∀ front x back, xs = front ++ x :: back → ∃ before after : List α,
    before.Sublist front ∧ after.Sublist back ∧
      (kept = before ++ x :: after ∨ kept = before ++ after ∧ ∃ earlier ∈ before, same earlier x)

section FirstByKey

variable {α κ : Type} [BEq κ] {key : α → κ}

theorem firstByKey_append (seen : List κ) (front back : List α) :
    firstByKey key seen (front ++ back) = firstByKey key seen front ++
      firstByKey key (((firstByKey key seen front).map key).reverse ++ seen) back := by
  induction front generalizing seen with
  | nil => rfl
  | cons a front ih =>
    rw [List.cons_append, firstByKey, firstByKey]
    split
    · exact ih seen
    · rw [ih, List.cons_append, List.map_cons, List.reverse_cons, List.append_assoc,
        List.singleton_append]

variable [LawfulBEq κ]

/-- What is kept has keys that were not seen. -/
theorem key_notMem_seen {seen : List κ} {xs : List α} {x : α}
    (kept : x ∈ firstByKey key seen xs) : key x ∉ seen := by
  induction xs generalizing seen with
  | nil => cases kept
  | cons a xs ih =>
    rw [firstByKey] at kept
    split at kept
    · exact ih kept
    · rename_i fresh
      rcases List.mem_cons.mp kept with rfl | later
      · exact fun member => fresh (List.contains_iff_mem.mpr member)
      · exact fun member => ih later (List.mem_cons_of_mem _ member)

theorem nodup_firstByKey (key : α → κ) (seen : List κ) (xs : List α) :
    ((firstByKey key seen xs).map key).Nodup := by
  induction xs generalizing seen with
  | nil => exact .nil
  | cons a xs ih =>
    rw [firstByKey]
    split
    · exact ih seen
    · refine List.nodup_cons.mpr ⟨fun repeated => ?_, ih _⟩
      obtain ⟨x, kept, same⟩ := List.mem_map.mp repeated
      exact key_notMem_seen kept (same ▸ List.mem_cons_self)

/-- Elements with different keys that were not seen are all kept. -/
theorem firstByKey_eq_self {seen : List κ} {xs : List α} (apart : (xs.map key).Nodup)
    (fresh : ∀ x ∈ xs, key x ∉ seen) : firstByKey key seen xs = xs := by
  induction xs generalizing seen with
  | nil => rfl
  | cons a xs ih =>
    obtain ⟨alone, apart⟩ := List.nodup_cons.mp apart
    have unseen : ¬ seen.contains (key a) = true := fun has =>
      fresh a List.mem_cons_self (List.contains_iff_mem.mp has)
    rw [firstByKey, if_neg unseen, ih apart fun x member again => ?_]
    rcases List.mem_cons.mp again with same | member'
    · exact alone (same ▸ List.mem_map_of_mem member)
    · exact fresh x (List.mem_cons_of_mem _ member) member'

theorem firstByKey_idem (key : α → κ) (xs : List α) :
    firstByKey key [] (firstByKey key [] xs) = firstByKey key [] xs :=
  firstByKey_eq_self (nodup_firstByKey key [] xs) fun _ _ => List.not_mem_nil

theorem firstOccurrences_firstByKey {same : α → α → Prop}
    (sameKey : ∀ {a b}, key a = key b ↔ same a b) (xs : List α) :
    FirstOccurrences same xs (firstByKey key [] xs) where
  sublist := Rows.firstByKey_sublist key [] xs
  apart := (List.pairwise_map.mp (nodup_firstByKey key [] xs)).imp fun apart => mt sameKey.mpr apart
  each := by
    rintro front x back rfl
    let before := firstByKey key [] front
    let seen := (before.map key).reverse ++ []
    have inFront : before.Sublist front := Rows.firstByKey_sublist key [] front
    have parts : firstByKey key [] (front ++ x :: back) =
        before ++ if seen.contains (key x) then firstByKey key seen back
          else x :: firstByKey key (key x :: seen) back :=
      firstByKey_append [] front (x :: back)
    by_cases met : seen.contains (key x) = true
    · rw [if_pos met] at parts
      have known : key x ∈ (before.map key).reverse := by
        rw [← List.append_nil (before.map key).reverse]
        exact List.contains_iff_mem.mp met
      obtain ⟨earlier, kept, like⟩ := List.mem_map.mp (List.mem_reverse.mp known)
      exact ⟨before, _, inFront, Rows.firstByKey_sublist key seen back,
        Or.inr ⟨parts, earlier, kept, sameKey.mp like⟩⟩
    · rw [if_neg met] at parts
      exact ⟨before, _, inFront, Rows.firstByKey_sublist key (key x :: seen) back, Or.inl parts⟩

end FirstByKey

/-! ## Rows that show the same -/

namespace Value

theorem optionMap_canonical_eq_iff {a b : Option Value} :
    a.map canonical = b.map canonical ↔ Option.Rel Same a b := by
  cases a <;> cases b <;> simp [canonical_eq_iff, Same]

end Value

/-- Two rows show the same list of values for a select list. -/
def Row.ShowSame (items : List Expression) (a b : Row) : Prop :=
  List.Forall₂ Value.Same (shownValues items a) (shownValues items b)

/-- Two rows have the same under each of some columns. -/
def Row.SameOn (columns : List String) (a b : Row) : Prop :=
  ∀ column ∈ columns, Option.Rel Value.Same (a.get? column) (b.get? column)

/-! ## Projection keeps rows apart -/

/-- A projected row reads a label as the row does that it was made of. -/
theorem get?_projectRow {labels : List String} {row shown : Row}
    (projected : projectRow labels row = .ok shown) {label : String} (member : label ∈ labels) :
    shown.get? label = row.lookup? label := by
  rw [projectRow_eq] at projected
  obtain ⟨values, read, rfl⟩ := map_eq_ok projected
  have cells : labels.zip (row.shown labels) =
      labels.map fun label => (label, (row.lookup? label).getD .null) :=
    List.map_prod_left_eq_zip.symm
  rw [Row.eq_shown_of_mapM read, cells, NameMap.get?_ofList_map, if_pos member]
  have found : row.lookup? label ∈ values.map some :=
    Row.mapM_lookup_eq_ok read ▸ List.mem_map_of_mem member
  obtain ⟨value, _, same⟩ := List.mem_map.mp found
  rw [← same]
  rfl

theorem Row.lookup?_of_mem {columns : List String} {row : Row} (fills : row.Fills columns)
    {name : String} (member : name ∈ columns) : row.lookup? name = row.get? name := by
  obtain ⟨value, found⟩ := Option.isSome_iff_exists.mp ((fills name).mpr member)
  rw [Row.lookup?, found]

/-- Rows that fill the same columns show the same when they read the same under the labels of
a select list. -/
theorem Row.showSame_of_lookup? {columns : List String} {items : List Expression} {a b : Row}
    (aFills : a.Fills columns) (bFills : b.Fills columns)
    (reads : ∀ label ∈ outputColumns columns items,
      (a.lookup? label).map Value.canonical = (b.lookup? label).map Value.canonical) :
    a.ShowSame items b := by
  refine Value.map_canonical_eq_iff.mp ?_
  have cell (label : String) (member : label ∈ outputColumns columns items) :
      [(a.lookup? label).getD .null].map Value.canonical =
        [(b.lookup? label).getD .null].map Value.canonical := by
    have read (row : Row) : ((row.lookup? label).getD .null).canonical =
        ((row.lookup? label).map Value.canonical).getD Value.null.canonical :=
      (Option.getD_map Value.canonical Value.null _).symm
    rw [List.map_singleton, List.map_singleton, read, read, reads label member]
  rw [shownValues, shownValues, List.map_flatMap, List.map_flatMap]
  refine List.flatMap_congr fun item selected => ?_
  cases item with
  | all =>
    refine NameMap.map_values_congr fun name => ?_
    by_cases known : name ∈ columns
    · rw [← lookup?_of_mem aFills known, ← lookup?_of_mem bFills known]
      exact reads name (List.mem_flatMap.mpr ⟨.all, selected, known⟩)
    · rw [Option.not_isSome_iff_eq_none.mp (mt (aFills name).mp known),
        Option.not_isSome_iff_eq_none.mp (mt (bFills name).mp known)]
  | column name => exact cell _ (List.mem_flatMap.mpr ⟨_, selected, List.mem_singleton_self _⟩)
  | call name operand =>
    exact cell _ (List.mem_flatMap.mpr ⟨_, selected, List.mem_singleton_self _⟩)

/-- Rows that show different values are projected on rows that differ on the output columns. -/
theorem Rows.projected_apart {items : List Expression} {source found : Rows}
    (matched : source.Matched) (apart : source.rows.Pairwise fun a b => ¬ a.ShowSame items b)
    (projects : projected items source = .ok found) :
    found.rows.Pairwise fun a b => ¬ a.SameOn found.columns b := by
  obtain ⟨rows, made, same⟩ := bind_eq_ok projects
  cases same
  refine pairwise_of_mapM made apart fun a inRows b inRows' differ left right leftMade rightMade
    same => differ ?_
  refine Row.showSame_of_lookup? (matched a inRows) (matched b inRows') fun label member => ?_
  rw [← get?_projectRow leftMade member, ← get?_projectRow rightMade member]
  exact Value.optionMap_canonical_eq_iff.mpr (same label member)

/-! ## Selects that drop repeated rows -/

theorem firstOccurrences_distinctRows (items : List Expression) (rows : List Row) :
    FirstOccurrences (Row.ShowSame items) rows (distinctRows items rows) :=
  firstOccurrences_firstByKey Value.map_debugText_eq_iff rows

theorem Query.apart_of_afterSource {query : Query} (distinct : query.distinct = true)
    (ungrouped : query.groupBy = none) {source found : Rows} (matched : source.Matched)
    (made : query.afterSource source = .ok found) :
    found.rows.Pairwise fun a b => ¬ a.SameOn found.columns b := by
  obtain ⟨met, meets, made⟩ := bind_eq_ok made
  cases all : query.aggregatesAll with
  | true =>
    rw [if_pos all] at made
    obtain ⟨row, _, same⟩ := bind_eq_ok made
    cases same
    exact List.pairwise_singleton _ _
  | false =>
    rw [if_neg (by simp [all])] at made
    obtain ⟨grouped, same, made⟩ := bind_eq_ok made
    rw [ungrouped] at same
    cases same
    obtain ⟨limited, cut, made⟩ := finished_of_arranged made
    obtain ⟨kept, drops, selects⟩ := bind_eq_ok made
    rw [deduplicated, if_pos distinct] at drops
    have within := ((Rows.filtered_within meets).trans cut).trans (Rows.distinct_within drops)
    have keptMatched := within.matched matched
    cases drops
    rw [selected, ungrouped] at selects
    exact Rows.projected_apart keptMatched (firstOccurrences_distinctRows _ _).apart selects

/-- Dropping repeated rows keeps the first of the rows that show the same for the select list, at
its place, and dropping again drops nothing. So a select without groups that drops repeated rows
shows no two rows that have the same in all columns of the result, when the rows of the
stored tables fill their headers. -/
theorem distinctRows_firstOccurrences :
    (∀ (items : List Expression) (rows : List Row),
      FirstOccurrences (Row.ShowSame items) rows (distinctRows items rows) ∧
        distinctRows items (distinctRows items rows) = distinctRows items rows) ∧
    ∀ {σ : Type} [Store σ] {store : σ},
      (∀ name table, Store.read store name = .ok table → table.Filled) →
      ∀ query : Query, query.distinct = true → query.groupBy = none →
      ∀ found, (Session.execute store (.select query)).1 = .ok (.rows found) →
        found.rows.Pairwise fun a b => ¬ a.SameOn found.columns b := by
  refine ⟨fun items rows => ⟨firstOccurrences_distinctRows items rows, firstByKey_idem _ rows⟩, ?_⟩
  intro σ _ store filled query distinct ungrouped found shown
  obtain ⟨_, source, read, made⟩ := Session.execute_select_eq_ok.mp shown
  exact Query.apart_of_afterSource distinct ungrouped (Query.matched_sourceRows filled read) made

/-- A text with `*` behind a join: rows that are repeated, also one that has no partner. With a
single column the other cells do not count: kinds and signed zeros stay apart, a missing cell
is like a null, and floats that are not numbers are alike. -/
theorem distinctRows_firstOccurrences_leftJoin :
    let store := MemoryStore.ofTables [
      Table.ofRecords "a" ["id", "x"] [["1", "p"], ["2", "q"], ["1", "p"], ["2", "q"], ["2", "p"]],
      Table.ofRecords "b" ["id", "y"] [["1", "u"], ["1", "v"]]]
    let row (id x : String) (other y : Value) : Row :=
      .ofList [("a.id", .text id), ("a.x", .text x), ("b.id", other), ("b.y", y)]
    let shown : Rows := ⟨["a.id", "a.x", "b.id", "b.y", "a.id"],
      [row "1" "p" (.text "1") (.text "u"), row "1" "p" (.text "1") (.text "v"),
        row "2" "q" .null .null, row "2" "p" .null .null]⟩
    let cell (place : Int) (n : Value) : Row := .ofList [("at", .integer place), ("n", n)]
    let fresh : List Row := [cell 0 (.integer 1), cell 1 (.text "1"), .ofList [("at", .integer 2)],
      cell 3 (.float (.nan true)), cell 4 (.float (.zero false)), cell 5 (.float (.zero true))]
    let repeated : List Row := [cell 6 (.integer 1), cell 7 (.text "1"), cell 8 .null,
      cell 9 (.float (.nan false)), cell 10 (.float (.zero true))]
    ((Session.executeText store "SELECT DISTINCT *, a.id FROM a LEFT JOIN b ON a.id = b.id").1 =
        .ok (.rows shown) ∧
      shown.rows.Pairwise fun a b => ¬ a.SameOn shown.columns b) ∧
    distinctRows [.column "n"] (fresh ++ repeated) = fresh ∧
      FirstOccurrences (Row.ShowSame [.column "n"]) (fresh ++ repeated) fresh := by
  intro store row shown cell fresh repeated
  have filled : ∀ name table, Store.read store name = .ok table → table.Filled := by
    intro name table found
    have given := MemoryStore.mem_of_read_ofTables found
    simp only [List.mem_cons, List.not_mem_nil, or_false] at given
    rcases given with rfl | rfl <;> exact Table.filled_ofRecords (by decide)
  let query : Query :=
    { fields := [.all, .column "a.id"], table := "a", join := some ⟨.left, "b", "a.id", "b.id"⟩
      conditions := [], groupBy := none, aggregatesAll := false, orderBy := none, limit := none
      distinct := true }
  have parsed : Statement.ofText "SELECT DISTINCT *, a.id FROM a LEFT JOIN b ON a.id = b.id" =
      .ok (.select query) := by
    decide +kernel
  have answer : (Session.execute store (.select query)).1 = .ok (.rows shown) := by decide +kernel
  have drops : distinctRows [.column "n"] (fresh ++ repeated) = fresh := by decide +kernel
  have first := (distinctRows_firstOccurrences.1 [.column "n"] (fresh ++ repeated)).1
  rw [drops] at first
  rw [Session.executeText_of_ok store parsed]
  exact ⟨⟨answer, distinctRows_firstOccurrences.2 filled query rfl rfl shown answer⟩, drops, first⟩

end TableQuery
