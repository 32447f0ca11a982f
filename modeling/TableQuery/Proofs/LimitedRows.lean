import TableQuery.Proofs.RepeatedRows

/-!
A limit cuts a select's result short.

The limit is applied to the sorted rows, and repeated rows are dropped and the selected items
picked behind it. What these steps make of the beginning of some rows is the beginning of
what they make of all of them: a row is dropped because of rows before it
(`firstByKey_append`), and projection takes the rows one by one, so it succeeds on a
beginning when it succeeds on the whole (`mapM_of_begins`). All that comes before the limit
does not know of it (`Session.execute_withLimit_eq_ok`).
-/

namespace TableQuery

/-! ## Beginnings -/

/-- The same columns, and the first of the rows. -/
structure Rows.Begins (front whole : Rows) : Prop where
  columns : front.columns = whole.columns
  rows : front.rows <+: whole.rows

namespace Rows

variable {front whole found : Rows}

theorem distinct_begins (begins : Begins front whole) (items : List Expression) :
    Begins { front with rows := distinctRows items front.rows }
      { whole with rows := distinctRows items whole.rows } := by
  obtain ⟨back, same⟩ := begins.rows
  refine ⟨begins.columns, ?_⟩
  rw [← same, distinctRows, distinctRows, firstByKey_append]
  exact List.prefix_append _ _

theorem projected_begins {items : List Expression} (begins : Begins front whole)
    (projects : projected items whole = .ok found) :
    ∃ first, projected items front = .ok first ∧ Begins first found := by
  obtain ⟨rows, all, same⟩ := bind_eq_ok projects
  cases same
  obtain ⟨first, read, cut⟩ := mapM_of_begins begins.rows all
  refine ⟨⟨outputColumns whole.columns items, first⟩, ?_, rfl, cut⟩
  rw [projected, begins.columns, read]
  rfl

/-- The first of the rows when there is a limit, and otherwise all of them. -/
def cut (limit : Option Nat) (source : Rows) : Rows :=
  { source with rows := match limit with
    | some count => source.rows.take count
    | none => source.rows }

theorem optionally_limited (limit : Option Nat) (source : Rows) :
    optionally limited limit source = .ok (source.cut limit) := by
  cases limit <;> rfl

theorem cut_begins (count : Nat) (source : Rows) :
    Begins (source.cut (some count)) (source.cut none) :=
  ⟨rfl, List.take_prefix count source.rows⟩

theorem cut_begins_of_le {few many : Nat} (fewer : few ≤ many) (source : Rows) :
    Begins (source.cut (some few)) (source.cut (some many)) :=
  ⟨rfl, List.take_prefix_take_left fewer⟩

end Rows

/-! ## The steps around the limit -/

namespace Query

variable {query : Query}

/-- The statement with another limit. -/
def withLimit (query : Query) (limit : Option Nat) : Query :=
  { query with limit }

/-- The rows that the limit is applied to. -/
def unlimited (query : Query) (source : Rows) : Except Fault Rows := do
  let met ← Rows.filtered query.conditions source
  let grouped ← Rows.optionally (Rows.grouped · query.fields) query.groupBy met
  Rows.optionally Rows.ordered query.orderBy grouped

theorem afterSource_withLimit (ungathered : query.aggregatesAll = false) (limit : Option Nat)
    (source : Rows) : (query.withLimit limit).afterSource source =
      query.unlimited source >>= fun rows => query.finished (rows.cut limit) := by
  simp only [withLimit, afterSource, ungathered, Bool.false_eq_true, if_false, arranged, unlimited,
    bind_assoc, Rows.optionally_limited]
  rfl

theorem deduplicated_begins {front whole found : Rows} (begins : Rows.Begins front whole)
    (drops : query.deduplicated whole = .ok found) :
    ∃ first, query.deduplicated front = .ok first ∧ Rows.Begins first found := by
  unfold deduplicated at drops ⊢
  by_cases distinct : query.distinct = true
  · rw [if_pos distinct] at drops ⊢
    cases drops
    exact ⟨_, rfl, Rows.distinct_begins begins query.fields⟩
  · rw [if_neg distinct] at drops ⊢
    cases drops
    exact ⟨front, rfl, begins⟩

theorem selected_begins {front whole found : Rows} (begins : Rows.Begins front whole)
    (selects : query.selected whole = .ok found) :
    ∃ first, query.selected front = .ok first ∧ Rows.Begins first found := by
  unfold selected at selects ⊢
  by_cases grouped : query.groupBy.isSome = true
  · rw [if_pos grouped] at selects ⊢
    cases selects
    exact ⟨front, rfl, begins⟩
  · rw [if_neg grouped] at selects ⊢
    exact Rows.projected_begins begins selects

theorem finished_begins {front whole found : Rows} (begins : Rows.Begins front whole)
    (made : query.finished whole = .ok found) :
    ∃ first, query.finished front = .ok first ∧ Rows.Begins first found := by
  obtain ⟨kept, drops, selects⟩ := bind_eq_ok made
  obtain ⟨few, firstDrops, fewBegins⟩ := deduplicated_begins begins drops
  obtain ⟨first, firstSelects, firstBegins⟩ := selected_begins fewBegins selects
  exact ⟨first, by rw [finished, firstDrops]; exact firstSelects, firstBegins⟩

theorem length_of_selected {kept found : Rows} (selects : query.selected kept = .ok found) :
    found.rows.length = kept.rows.length := by
  unfold selected at selects
  split at selects
  · cases selects
    rfl
  · obtain ⟨rows, all, same⟩ := bind_eq_ok selects
    cases same
    exact length_of_mapM all

/-- Behind the limit rows are lost only when repeated ones are dropped. -/
theorem length_of_finished {limited found : Rows} (made : query.finished limited = .ok found) :
    found.rows.length ≤ limited.rows.length ∧
      (query.distinct = false → found.rows.length = limited.rows.length) := by
  obtain ⟨kept, drops, selects⟩ := bind_eq_ok made
  rw [length_of_selected selects]
  unfold deduplicated at drops
  by_cases distinct : query.distinct = true
  · rw [if_pos distinct] at drops
    cases drops
    exact ⟨(Rows.firstByKey_sublist _ [] limited.rows).length_le,
      fun all => absurd distinct (by simp [all])⟩
  · rw [if_neg distinct] at drops
    cases drops
    exact ⟨Nat.le_refl _, fun _ => rfl⟩

end Query

/-! ## Select statements with a limit -/

namespace Session

variable {σ : Type} [Store σ] {store : σ} {query : Query}

/-- A select reads its source, makes the rows that the limit is applied to, and finishes what the
limit leaves. -/
theorem execute_withLimit_eq_ok (ungathered : query.aggregatesAll = false) {limit : Option Nat}
    {found : Rows} :
    (execute store (.select (query.withLimit limit))).1 = .ok (.rows found) ↔
      query.checkGroups = .ok () ∧ ∃ source rows, query.sourceRows store = .ok source ∧
        query.unlimited source = .ok rows ∧ query.finished (rows.cut limit) = .ok found := by
  rw [execute_select_eq_ok]
  refine and_congr Iff.rfl (exists_congr fun source => ?_)
  have same : (query.withLimit limit).sourceRows store = query.sourceRows store := rfl
  rw [same, Query.afterSource_withLimit ungathered]
  constructor
  · rintro ⟨read, made⟩
    obtain ⟨rows, before, after⟩ := bind_eq_ok made
    exact ⟨rows, read, before, after⟩
  · rintro ⟨rows, read, before, after⟩
    exact ⟨read, by rw [before]; exact after⟩

/-- A tighter limit shows the beginning of what a looser one shows. -/
theorem execute_withLimit_begins (ungathered : query.aggregatesAll = false) {few many : Option Nat}
    (tighter : ∀ rows, Rows.Begins (Rows.cut few rows) (Rows.cut many rows)) {whole : Rows}
    (shown : (execute store (.select (query.withLimit many))).1 = .ok (.rows whole)) :
    ∃ found, (execute store (.select (query.withLimit few))).1 = .ok (.rows found) ∧
      Rows.Begins found whole := by
  obtain ⟨checked, source, rows, read, before, after⟩ :=
    (execute_withLimit_eq_ok ungathered).mp shown
  obtain ⟨found, made, begins⟩ := Query.finished_begins (tighter rows) after
  exact ⟨found, (execute_withLimit_eq_ok ungathered).mpr
    ⟨checked, source, rows, read, before, made⟩, begins⟩

/-- A select other than one of aggregates alone shows with a limit, under the same columns, a
beginning of what it shows without it, at most as long as the limit and without dropped
repetitions exactly as long as that allows. A smaller limit shows a beginning of what a
larger one shows. -/
theorem execute_withLimit (store : σ) (query : Query) (ungathered : query.aggregatesAll = false) :
    (∀ whole, (execute store (.select (query.withLimit none))).1 = .ok (.rows whole) →
      ∀ count, ∃ found,
        (execute store (.select (query.withLimit (some count)))).1 = .ok (.rows found) ∧
        found.columns = whole.columns ∧ found.rows <+: whole.rows ∧ found.rows.length ≤ count ∧
        (query.distinct = false → found.rows = whole.rows.take count)) ∧
    ∀ few many, few ≤ many → ∀ more,
      (execute store (.select (query.withLimit (some many)))).1 = .ok (.rows more) →
      ∃ found, (execute store (.select (query.withLimit (some few)))).1 = .ok (.rows found) ∧
        found.columns = more.columns ∧ found.rows <+: more.rows := by
  constructor
  · intro whole shown count
    obtain ⟨found, shows, begins⟩ := execute_withLimit_begins ungathered (Rows.cut_begins count) shown
    -- both results are finished from the same rows
    obtain ⟨_, source, rows, read, before, all⟩ := (execute_withLimit_eq_ok ungathered).mp shown
    obtain ⟨_, _, _, again, same, first⟩ := (execute_withLimit_eq_ok ungathered).mp shows
    cases read.symm.trans again
    cases before.symm.trans same
    have limited : (rows.cut (.some count)).rows.length = min count rows.rows.length :=
      List.length_take
    obtain ⟨most, noneLost⟩ := Query.length_of_finished first
    have short : found.rows.length ≤ count :=
      Nat.le_trans most (limited ▸ Nat.min_le_left count rows.rows.length)
    refine ⟨found, shows, begins.columns, begins.rows, short, fun repeats => ?_⟩
    have wholeLength : whole.rows.length = rows.rows.length :=
      (Query.length_of_finished all).2 repeats
    calc found.rows
      _ = whole.rows.take found.rows.length := List.prefix_iff_eq_take.mp begins.rows
      _ = whole.rows.take (min count whole.rows.length) := by
        rw [noneLost repeats, limited, wholeLength]
      _ = whole.rows.take count := List.take_eq_take_min.symm
  · intro few many fewer more shown
    obtain ⟨found, shows, begins⟩ := execute_withLimit_begins ungathered (Rows.cut_begins_of_le fewer) shown
    exact ⟨found, shows, begins.columns, begins.rows⟩

/-- Three of four joined rows are left, and one of them is a repetition. -/
theorem execute_withLimit_rightJoin :
    let store := MemoryStore.ofTables [Table.ofRecords "a" ["id", "x"] [["1", "p"], ["2", "p"]],
      Table.ofRecords "b" ["id", "y"] [["2", "u"], ["3", "u"], ["1", "u"], ["4", "v"], ["5", "u"]]]
    let sql := "SELECT DISTINCT a.x, b.y FROM a RIGHT JOIN b ON a.id = b.id WHERE b.id < 5"
    let row (x : Value) (y : String) : Row := .ofList [("a.x", x), ("b.y", .text y)]
    let columns := ["a.x", "b.y"]
    let whole : Rows := ⟨columns, [row (.text "p") "u", row .null "u", row .null "v"]⟩
    let more : Rows := ⟨columns, [row (.text "p") "u", row .null "u"]⟩
    (executeText store sql).1 = .ok (.rows whole) ∧
      (executeText store (sql ++ " LIMIT 3")).1 = .ok (.rows more) ∧ more.rows <+: whole.rows ∧
      ∃ found, (executeText store (sql ++ " LIMIT 1")).1 = .ok (.rows found) ∧
        found.columns = columns ∧ found.rows <+: more.rows := by
  intro store sql row columns whole more
  let query : Query :=
    { fields := [.column "a.x", .column "b.y"], table := "a"
      join := some ⟨.right, "b", "a.id", "b.id"⟩, conditions := [⟨"b.id", .less, "5"⟩]
      groupBy := none, aggregatesAll := false, orderBy := none, limit := none, distinct := true }
  have parsed : Statement.ofText sql = .ok (.select (query.withLimit none)) := by decide +kernel
  have parsedThree : Statement.ofText (sql ++ " LIMIT 3") =
      .ok (.select (query.withLimit (some 3))) := by
    decide +kernel
  have parsedOne : Statement.ofText (sql ++ " LIMIT 1") =
      .ok (.select (query.withLimit (some 1))) := by
    decide +kernel
  have all : (execute store (.select (query.withLimit none))).1 = .ok (.rows whole) := by
    decide +kernel
  have three : (execute store (.select (query.withLimit (some 3)))).1 = .ok (.rows more) := by
    decide +kernel
  obtain ⟨found, shows, _, begins, _⟩ := (execute_withLimit store query rfl).1 whole all 3
  cases three.symm.trans shows
  have one := (execute_withLimit store query rfl).2 1 3 (by decide) more three
  rw [executeText_of_ok store parsed, executeText_of_ok store parsedThree,
    executeText_of_ok store parsedOne]
  exact ⟨all, three, begins, one⟩

end Session

end TableQuery
