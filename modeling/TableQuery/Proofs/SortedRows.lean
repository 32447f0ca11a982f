import Mathlib.Data.List.Perm.Basic
import TableQuery.Proofs.GroupParts
import TableQuery.Proofs.Outcome
import TableQuery.Proofs.WholeNumbers
import TableQuery.Query.Sort

/-!
Sorting by several keys.

Sorting compares the values of the keys of two rows, in the order of the keys, and keeps the
order of rows that are equal on all of them. Where no column of a key has large integers
beside floating point numbers this comparison is that of a total preorder
(`Row.exists_transCmp`), so that the sorted rows are determined by it: each row stands before
those that are greater, and before those that are equal and came later (`StablySorted`). Rows
that are sorted by some keys and then by others are therefore sorted by all of them, the last
ones first (`sortRows_stable`).
-/

namespace TableQuery

/-! ## Stable sorting -/

section Stable

variable {α : Type}

/-- Of two elements with their places in a list, the first one is less, or equal and at an
earlier place. -/
def Precedes (cmp : α → α → Ordering) (a b : α × Nat) : Prop :=
  cmp a.1 b.1 = .lt ∨ cmp a.1 b.1 = .eq ∧ a.2 < b.2

/-- A list has the elements of another one in ascending order, and equal elements in the order
of their places there. -/
def StablySorted (cmp : α → α → Ordering) (xs sorted : List α) : Prop :=
  ∃ placed : List (α × Nat), placed.Perm xs.zipIdx ∧ placed.map Prod.fst = sorted ∧
    placed.Pairwise (Precedes cmp)

/-- There is only one way to sort stably. -/
theorem StablySorted.unique {cmp : α → α → Ordering} [Std.OrientedCmp cmp] {xs first second : List α}
    (one : StablySorted cmp xs first) (other : StablySorted cmp xs second) : first = second := by
  obtain ⟨placed, perm, rfl, ascending⟩ := one
  obtain ⟨placedToo, permToo, rfl, ascendingToo⟩ := other
  have same : placed = placedToo := by
    refine List.Perm.eq_of_pairwise (fun a b _ _ before after => ?_) ascending ascendingToo
      (perm.trans permToo.symm)
    have turned : cmp b.1 a.1 = (cmp a.1 b.1).swap := Std.OrientedCmp.eq_swap
    unfold Precedes at before after
    rw [turned] at after
    rcases before with less | ⟨equal, earlier⟩
    · simp [less] at after
    · simp [equal] at after
      omega
  rw [same]

theorem StablySorted.congr {cmp other : α → α → Ordering} {xs sorted : List α}
    (isSorted : StablySorted cmp xs sorted)
    (same : ∀ a ∈ xs, ∀ b ∈ xs, cmp a b = other a b) : StablySorted other xs sorted := by
  obtain ⟨placed, perm, rfl, ascending⟩ := isSorted
  have given (a : α × Nat) (member : a ∈ placed) : a.1 ∈ xs :=
    List.fst_mem_of_mem_zipIdx (perm.mem_iff.mp member)
  refine ⟨placed, perm, rfl, ascending.imp_of_mem fun {a b} inA inB before => ?_⟩
  rwa [Precedes, ← same _ (given a inA) _ (given b inB)]

theorem transCmp_on {β : Type} (cmp : β → β → Ordering) [Std.TransCmp cmp] (f : α → β) :
    Std.TransCmp fun a b => cmp (f a) (f b) where
  eq_swap := Std.OrientedCmp.eq_swap
  isLE_trans := Std.TransCmp.isLE_trans

/-- Sorting orders equal elements by every relation that orders the list. -/
theorem pairwise_mergeSort_of_pairwise (cmp : α → α → Ordering) [Std.TransCmp cmp]
    {S : α → α → Prop} {xs : List α} (inOrder : xs.Pairwise S) :
    (xs.mergeSort fun a b => (cmp a b).isLE).Pairwise
      fun a b => cmp a b = .lt ∨ cmp a b = .eq ∧ S a b := by
  let le : α → α → Bool := fun a b => (cmp a b).isLE
  have trans : ∀ a b c, le a b = true → le b c = true → le a c = true :=
    fun _ _ _ => Std.TransCmp.isLE_trans
  have total : ∀ a b, (le a b || le b a) = true := by
    intro a b
    have turned : cmp b a = (cmp a b).swap := Std.OrientedCmp.eq_swap
    simp only [le, turned]
    cases cmp a b <;> rfl
  -- the elements are sorted together with their places, which no two of them share
  have perm := List.mergeSort_perm xs.zipIdx (List.zipIdxLE le)
  have places : ((xs.zipIdx.mergeSort (List.zipIdxLE le)).map Prod.snd).Nodup := by
    rw [(perm.map Prod.snd).nodup_iff, List.zipIdx_map_snd]
    exact List.nodup_range'
  have sorted := List.pairwise_mergeSort (List.zipIdxLE_trans trans) (List.zipIdxLE_total total)
    xs.zipIdx
  show (xs.mergeSort le).Pairwise _
  rw [← List.mergeSort_zipIdx, List.pairwise_map]
  refine (sorted.and (List.pairwise_map.mp places)).imp_of_mem ?_
  rintro ⟨a, i⟩ ⟨b, j⟩ inA inB ⟨before, different⟩
  have turned : cmp b a = (cmp a b).swap := Std.OrientedCmp.eq_swap
  simp only [List.zipIdxLE, le, turned] at before
  cases compared : cmp a b with
  | lt => exact Or.inl rfl
  | gt => simp [compared] at before
  | eq =>
    simp only [compared] at before
    have earlier : i < j := Nat.lt_of_le_of_ne (by simpa using before) different
    obtain ⟨inBounds, rfl⟩ :=
      List.getElem?_eq_some_iff.mp (List.mk_mem_zipIdx_iff_getElem?.mp (perm.mem_iff.mp inA))
    obtain ⟨inBoundsToo, rfl⟩ :=
      List.getElem?_eq_some_iff.mp (List.mk_mem_zipIdx_iff_getElem?.mp (perm.mem_iff.mp inB))
    exact Or.inr ⟨rfl, List.pairwise_iff_getElem.mp inOrder i j inBounds inBoundsToo earlier⟩

/-- Sorting elements with something attached is sorting the elements. -/
theorem map_fst_mergeSort {β : Type} (cmp : α → α → Ordering) (pairs : List (α × β)) :
    (pairs.mergeSort fun p q => (cmp p.1 q.1).isLE).map Prod.fst =
      (pairs.map Prod.fst).mergeSort fun a b => (cmp a b).isLE :=
  List.map_mergeSort fun _ _ _ _ => rfl

theorem pairwise_zipIdx (xs : List α) : xs.zipIdx.Pairwise fun p q => p.2 < q.2 := by
  have places : (xs.zipIdx.map Prod.snd).Pairwise (· < ·) := by
    rw [List.zipIdx_map_snd]
    exact List.pairwise_lt_range'
  exact List.pairwise_map.mp places

theorem stablySorted_mergeSort (cmp : α → α → Ordering) [Std.TransCmp cmp] (xs : List α) :
    StablySorted cmp xs (xs.mergeSort fun a b => (cmp a b).isLE) := by
  have := transCmp_on cmp (Prod.fst : α × Nat → α)
  refine ⟨xs.zipIdx.mergeSort fun p q => (cmp p.1 q.1).isLE, List.mergeSort_perm _ _, ?_,
    pairwise_mergeSort_of_pairwise _ (pairwise_zipIdx xs)⟩
  rw [map_fst_mergeSort, List.zipIdx_map_fst]

/-- Sorting by one order and then by another is sorting by the two of them, the last one
first. -/
theorem mergeSort_mergeSort (first later : α → α → Ordering) [Std.TransCmp first]
    [Std.TransCmp later] (xs : List α) :
    ((xs.mergeSort fun a b => (later a b).isLE).mergeSort fun a b => (first a b).isLE) =
      xs.mergeSort fun a b => (compareLex first later a b).isLE := by
  have := transCmp_on first (Prod.fst : α × Nat → α)
  have := transCmp_on later (Prod.fst : α × Nat → α)
  let middle := xs.zipIdx.mergeSort fun p q => (later p.1 q.1).isLE
  let placed := middle.mergeSort fun p q => (first p.1 q.1).isLE
  have inner : middle.map Prod.fst = xs.mergeSort fun a b => (later a b).isLE := by
    rw [map_fst_mergeSort, List.zipIdx_map_fst]
  have outer : placed.map Prod.fst =
      (xs.mergeSort fun a b => (later a b).isLE).mergeSort fun a b => (first a b).isLE := by
    rw [map_fst_mergeSort, inner]
  have ascending := pairwise_mergeSort_of_pairwise (fun p q : α × Nat => first p.1 q.1)
    (pairwise_mergeSort_of_pairwise (fun p q : α × Nat => later p.1 q.1) (pairwise_zipIdx xs))
  have twice : StablySorted (compareLex first later) xs
      ((xs.mergeSort fun a b => (later a b).isLE).mergeSort fun a b => (first a b).isLE) := by
    refine ⟨placed, (List.mergeSort_perm _ _).trans (List.mergeSort_perm _ _), outer,
      ascending.imp fun {p q} before => ?_⟩
    rw [Precedes, compareLex]
    rcases before with less | ⟨equal, less | ⟨equalToo, earlier⟩⟩
    · exact Or.inl (by rw [less]; rfl)
    · exact Or.inl (by rw [equal, less]; rfl)
    · exact Or.inr ⟨by rw [equal, equalToo]; rfl, earlier⟩
  exact twice.unique (stablySorted_mergeSort (compareLex first later) xs)

end Stable

/-! ## The order of values -/

namespace Value

/-- No integer beyond the exact bound stands beside a floating point number. -/
def Unmixed (values : List Value) : Prop :=
  ∀ n x, .integer n ∈ values → .float x ∈ values → n.natAbs ≤ Binary64.exactBound

instance decidableUnmixed (values : List Value) : Decidable (Unmixed values) :=
  decidable_of_iff (∀ a ∈ values, ∀ b ∈ values, (match a, b with
      | .integer n, .float _ => decide (n.natAbs ≤ Binary64.exactBound)
      | _, _ => true) = true) <| by
    constructor
    · exact fun each n x inN inX => of_decide_eq_true (each _ inN _ inX)
    · intro unmixed a inA b inB
      split
      · exact decide_eq_true (unmixed _ _ inA inB)
      · rfl

/-- The place of a number among numbers, when integers have the given places. -/
def numberPlace (integerPlace : Int → Int) : Value → Int
  | integer n => integerPlace n
  | float x => x.bitsKey
  | _ => 0

/-- What a text is compared by. -/
def wording : Value → String
  | text s => s
  | _ => ""

/-- Comparison by the kind, by the place of a number and by the wording of a text. -/
def placeCompare (integerPlace : Int → Int) : Value → Value → Ordering :=
  compareLex (compareOn sortRank)
    (compareLex (compareOn (numberPlace integerPlace)) (compareOn wording))

theorem sortCompare_swap (a b : Value) : a.sortCompare b = (b.sortCompare a).swap := by
  cases a with
  | null => cases b <;> rfl
  | integer m =>
    cases b with
    | integer n => exact Std.OrientedOrd.eq_swap
    | float x => exact Std.OrientedOrd.eq_swap
    | null => rfl
    | text s => rfl
  | float x =>
    cases b with
    | integer n => exact Std.OrientedOrd.eq_swap
    | float y => exact Std.OrientedOrd.eq_swap
    | null => rfl
    | text s => rfl
  | text s =>
    cases b with
    | text t => exact Std.OrientedOrd.eq_swap
    | null => rfl
    | integer n => rfl
    | float x => rfl

theorem sortCompare_eq_placeCompare {integerPlace : Int → Int} {values : List Value}
    (integers : ∀ m n, .integer m ∈ values → .integer n ∈ values →
      compare m n = compare (integerPlace m) (integerPlace n))
    (mixed : ∀ n x, .integer n ∈ values → .float x ∈ values →
      integerPlace n = (Binary64.ofInt n).bitsKey)
    {a b : Value} (inA : a ∈ values) (inB : b ∈ values) :
    a.sortCompare b = placeCompare integerPlace a b := by
  have numbers (a b : Value) (rank : a.sortRank = b.sortRank) (noText : a.wording = b.wording) :
      placeCompare integerPlace a b =
        compare (a.numberPlace integerPlace) (b.numberPlace integerPlace) := by
    simp only [placeCompare, compareLex, compareOn, rank, noText, Std.ReflCmp.compare_self,
      Ordering.eq_then, Ordering.then_eq]
  cases a with
  | null => cases b <;> rfl
  | text s =>
    cases b with
    | text t => rfl
    | null => rfl
    | integer n => rfl
    | float x => rfl
  | integer m =>
    cases b with
    | null => rfl
    | text s => rfl
    | integer n => exact (integers m n inA inB).trans (numbers (.integer m) (.integer n) rfl rfl).symm
    | float x =>
      rw [numbers (.integer m) (.float x) rfl rfl, numberPlace, mixed m x inA inB]
      rfl
  | float x =>
    cases b with
    | null => rfl
    | text s => rfl
    | float y => exact (numbers (.float x) (.float y) rfl rfl).symm
    | integer n =>
      rw [numbers (.float x) (.integer n) rfl rfl, numberPlace, numberPlace, mixed n x inB inA]
      rfl

/-- Where no large integer stands beside a floating point number, values are compared by a
total preorder. -/
theorem Unmixed.exists_transCmp {values : List Value} (unmixed : Unmixed values) :
    ∃ cmp : Value → Value → Ordering, Std.TransCmp cmp ∧
      ∀ a ∈ values, ∀ b ∈ values, a.sortCompare b = cmp a b := by
  have preorder (integerPlace : Int → Int) : Std.TransCmp (placeCompare integerPlace) :=
    inferInstanceAs (Std.TransCmp (compareLex _ (compareLex _ _)))
  by_cases someFloat : ∃ x, .float x ∈ values
  · -- the integers are small, and stand where the numbers do that they are
    obtain ⟨x, inValues⟩ := someFloat
    refine ⟨placeCompare fun n => (Binary64.ofInt n).bitsKey, preorder _, fun a inA b inB =>
      sortCompare_eq_placeCompare (fun m n inM inN => ?_) (fun _ _ _ _ => rfl) inA inB⟩
    exact (Binary64.totalCompare_ofInt (unmixed m x inM inValues) (unmixed n x inN inValues)).symm
  · refine ⟨placeCompare id, preorder id, fun a inA b inB =>
      sortCompare_eq_placeCompare (fun _ _ _ _ => rfl) (fun n x _ inValues => ?_) inA inB⟩
    exact absurd ⟨x, inValues⟩ someFloat

end Value

/-! ## The order of rows -/

/-- An ordering, turned around for a descending key. -/
def Direction.turn : Direction → Ordering → Ordering
  | .asc, ordering => ordering
  | .desc, ordering => ordering.swap

namespace Row

/-- The value by which a row is sorted under a name: its cell, read as a literal. -/
def sortValue (name : String) (row : Row) : Value :=
  ((row.lookup? name).getD .null).coerce

/-- Compares two rows by some keys. The first key on which they differ decides. -/
def compareBy : List SortKey → Row → Row → Ordering
  | [], _, _ => .eq
  | key :: keys, a, b =>
    (key.2.turn ((a.sortValue key.1).sortCompare (b.sortValue key.1))).then (compareBy keys a b)

instance orientedCmp_compareBy (keys : List SortKey) : Std.OrientedCmp (compareBy keys) where
  eq_swap {a b} := by
    induction keys with
    | nil => rfl
    | cons key keys ih =>
      obtain ⟨name, direction⟩ := key
      rw [compareBy, compareBy, Ordering.swap_then, ← ih, Value.sortCompare_swap]
      cases direction <;> rfl

theorem compareBy_append (first later : List SortKey) (a b : Row) :
    compareBy (first ++ later) a b = (compareBy first a b).then (compareBy later a b) := by
  induction first with
  | nil => rfl
  | cons key first ih => rw [List.cons_append, compareBy, compareBy, ih, Ordering.then_assoc]

/-- Rows are compared by a total preorder when every column of a key is. -/
theorem exists_transCmp {keys : List SortKey} {rows : List Row}
    (unmixed : ∀ key ∈ keys, Value.Unmixed (rows.map (sortValue key.1))) :
    ∃ cmp : Row → Row → Ordering, Std.TransCmp cmp ∧
      ∀ a ∈ rows, ∀ b ∈ rows, compareBy keys a b = cmp a b := by
  induction keys with
  | nil => exact ⟨compareOn fun _ => 0, inferInstance, fun _ _ _ _ => rfl⟩
  | cons key keys ih =>
    obtain ⟨later, laterPreorder, laterSame⟩ :=
      ih fun other member => unmixed other (List.mem_cons_of_mem _ member)
    obtain ⟨cmp, preorder, same⟩ := (unmixed key List.mem_cons_self).exists_transCmp
    have onRows := transCmp_on cmp (sortValue key.1)
    have given (row : Row) (member : row ∈ rows) :
        row.sortValue key.1 ∈ rows.map (sortValue key.1) := List.mem_map_of_mem member
    obtain ⟨first, firstPreorder, firstSame⟩ : ∃ first : Row → Row → Ordering,
        Std.TransCmp first ∧ ∀ a ∈ rows, ∀ b ∈ rows,
          key.2.turn ((a.sortValue key.1).sortCompare (b.sortValue key.1)) = first a b := by
      cases key.2 with
      | asc => exact ⟨_, onRows, fun a inA b inB => same _ (given a inA) _ (given b inB)⟩
      | desc =>
        refine ⟨_, onRows.opposite, fun a inA b inB => ?_⟩
        rw [Direction.turn, same _ (given a inA) _ (given b inB)]
        exact Std.OrientedCmp.eq_swap.symm
    refine ⟨compareLex first later, inferInstance, fun a inA b inB => ?_⟩
    rw [compareBy, firstSame a inA b inB, laterSame a inA b inB, compareLex]

end Row

/-! ## Sorted rows -/

theorem compareKeys_eq (keys : List SortKey) (a b : Row) :
    compareKeys (keys.map (·.2)) (keys.map fun key => a.sortValue key.1)
      (keys.map fun key => b.sortValue key.1) = Row.compareBy keys a b := by
  induction keys with
  | nil => rfl
  | cons key keys ih =>
    obtain ⟨name, direction⟩ := key
    rw [Row.compareBy, ← ih]
    cases direction <;> rfl

/-- The fault of the first key that a row does not have. -/
def missingKey? (keys : List SortKey) (row : Row) : Option Fault :=
  keys.findSome? fun key => fault? (row.lookup key.1)

theorem missingKey?_eq_some {keys : List SortKey} {row : Row} {fault : Fault}
    (missing : missingKey? keys row = some fault) :
    ∃ key ∈ keys, row.lookup? key.1 = none ∧ fault = .field (.unknown key.1) := by
  obtain ⟨key, given, failed⟩ := List.exists_of_findSome?_eq_some missing
  refine ⟨key, given, ?_⟩
  unfold Row.lookup at failed
  split at failed
  · cases failed
  · rename_i absent
    exact ⟨absent, (Option.some.inj failed).symm⟩

theorem missingKey?_eq_none {keys : List SortKey} {row : Row} :
    missingKey? keys row = none ↔ ∀ key ∈ keys, (row.lookup? key.1).isSome = true := by
  rw [missingKey?, List.findSome?_eq_none_iff]
  refine forall₂_congr fun key _ => ?_
  unfold Row.lookup
  cases row.lookup? key.1 <;> simp [fault?]

theorem keyed_eq (keys : List SortKey) (row : Row) :
    keyed keys row =
      unlessFault (missingKey? keys row) (keys.map fun key => row.sortValue key.1, row) := by
  have given : ∀ (key : SortKey) value, (row.lookup key.1).map Value.coerce = .ok value →
      value = row.sortValue key.1 := by
    intro key value read
    obtain ⟨cell, found, rfl⟩ := map_eq_ok read
    rw [Row.sortValue, Row.lookup_eq_ok.mp found]
    rfl
  have faults (key : SortKey) : fault? ((row.lookup key.1).map Value.coerce) =
      fault? (row.lookup key.1) := by
    cases row.lookup key.1 <;> rfl
  rw [keyed, mapM_cases given, missingKey?]
  simp only [faults]
  cases keys.findSome? fun key => fault? (row.lookup key.1) <;> rfl

/-- Sorting fails as the first row does that lacks a key. Otherwise the rows are sorted by the
order of the keys. -/
theorem sortRows_eq (keys : List SortKey) (rows : List Row) :
    sortRows keys rows = unlessFault (rows.findSome? (missingKey? keys))
      (rows.mergeSort fun a b => (Row.compareBy keys a b).isLE) := by
  let withValues : Row → List Value × Row := fun row => (keys.map fun key => row.sortValue key.1, row)
  have given : ∀ row pair, keyed keys row = .ok pair → pair = withValues row := by
    intro row pair made
    rw [keyed_eq] at made
    exact (unlessFault_eq_ok made).2.symm
  have faults : (fun row => fault? (keyed keys row)) = missingKey? keys := by
    funext row
    rw [keyed_eq]
    cases missingKey? keys row <;> rfl
  have sorted : ((rows.map withValues).mergeSort fun a b =>
      (compareKeys (keys.map (·.2)) a.1 b.1).isLE).map (·.2) =
        rows.mergeSort fun a b => (Row.compareBy keys a b).isLE := by
    have attached : (rows.mergeSort fun a b => (Row.compareBy keys a b).isLE).map withValues =
        (rows.map withValues).mergeSort fun a b =>
          (compareKeys (keys.map (·.2)) a.1 b.1).isLE :=
      List.map_mergeSort fun a _ b _ => by rw [← compareKeys_eq]
    rw [← attached, List.map_map]
    exact List.map_id _
  rw [sortRows, mapM_cases given, faults, ← sorted]
  cases rows.findSome? (missingKey? keys) <;> rfl

/-- Sorting by keys that every row has. -/
theorem sortRows_eq_ok {keys : List SortKey} {rows : List Row}
    (present : ∀ row ∈ rows, ∀ key ∈ keys, (row.lookup? key.1).isSome = true) :
    sortRows keys rows = .ok (rows.mergeSort fun a b => (Row.compareBy keys a b).isLE) := by
  have none : rows.findSome? (missingKey? keys) = none :=
    List.findSome?_eq_none_iff.mpr fun row member => missingKey?_eq_none.mpr (present row member)
  rw [sortRows_eq, none]
  rfl

/-- Rows are put into one order by a total preorder that agrees with their comparison. -/
theorem mergeSort_compareBy {keys : List SortKey} {rows : List Row}
    {cmp : Row → Row → Ordering}
    (same : ∀ a ∈ rows, ∀ b ∈ rows, Row.compareBy keys a b = cmp a b) :
    (rows.mergeSort fun a b => (Row.compareBy keys a b).isLE) =
      rows.mergeSort fun a b => (cmp a b).isLE := by
  have sorted : (rows.mergeSort fun a b => (Row.compareBy keys a b).isLE).map id =
      (rows.map id).mergeSort fun a b => (cmp a b).isLE :=
    List.map_mergeSort fun a inA b inB => congrArg Ordering.isLE (same a inA b inB)
  rwa [List.map_id, List.map_id] at sorted

/-- Rows that are sorted by some keys and then by others are sorted by all of them, the last
ones first. -/
theorem sortRows_append {first later : List SortKey} {rows : List Row}
    (present : ∀ row ∈ rows, ∀ key ∈ first ++ later, (row.lookup? key.1).isSome = true)
    (unmixed : ∀ key ∈ first ++ later, Value.Unmixed (rows.map (Row.sortValue key.1))) :
    sortRows later rows >>= sortRows first = sortRows (first ++ later) rows := by
  obtain ⟨cmp, preorder, same⟩ :=
    Row.exists_transCmp fun key given => unmixed key (List.mem_append_left later given)
  obtain ⟨laterCmp, laterPreorder, laterSame⟩ :=
    Row.exists_transCmp fun key given => unmixed key (List.mem_append_right first given)
  have both : ∀ a ∈ rows, ∀ b ∈ rows,
      Row.compareBy (first ++ later) a b = compareLex cmp laterCmp a b := by
    intro a inA b inB
    rw [Row.compareBy_append, same a inA b inB, laterSame a inA b inB, compareLex]
  have inner := sortRows_eq_ok fun row member key given =>
    present row member key (List.mem_append_right first given)
  have kept (row : Row) (member : row ∈ rows.mergeSort fun a b => (laterCmp a b).isLE) :
      row ∈ rows := List.mem_mergeSort.mp member
  rw [mergeSort_compareBy laterSame] at inner
  have outer := sortRows_eq_ok fun row member key given =>
    present row (kept row member) key (List.mem_append_left later given)
  rw [mergeSort_compareBy fun a inA b inB => same a (kept a inA) b (kept b inB),
    mergeSort_mergeSort, ← mergeSort_compareBy both] at outer
  rw [inner, sortRows_eq_ok present]
  exact outer

/-- Sorting is the stable sort by several keys. When every row has every key, and no column of
a key has an integer beyond the exact bound beside a floating point number, the rows are put
in ascending order of their key values, the first key that differs deciding and each
descending key turned around on its own, and rows that are equal on all keys stay in their
order. That is what sorting by the later keys and then by the first ones does, wherever the
keys are divided. When a row lacks a key, sorting fails with such a key. -/
theorem sortRows_stable (keys : List SortKey) (rows : List Row) :
    ((∀ row ∈ rows, ∀ key ∈ keys, (row.lookup? key.1).isSome = true) →
        (∀ key ∈ keys, Value.Unmixed (rows.map (Row.sortValue key.1))) →
        ∃ sorted, sortRows keys rows = .ok sorted ∧ sorted.Perm rows ∧
          StablySorted (Row.compareBy keys) rows sorted ∧
          ∀ first later, keys = first ++ later →
            sortRows later rows >>= sortRows first = .ok sorted) ∧
      ((∃ row ∈ rows, ∃ key ∈ keys, row.lookup? key.1 = none) →
        ∃ row ∈ rows, ∃ key ∈ keys, row.lookup? key.1 = none ∧
          sortRows keys rows = .error (.field (.unknown key.1))) := by
  refine ⟨fun present unmixed => ?sorts, fun ⟨row, member, key, given, absent⟩ => ?fails⟩
  case sorts =>
    obtain ⟨cmp, preorder, same⟩ := Row.exists_transCmp unmixed
    refine ⟨_, sortRows_eq_ok present, List.mergeSort_perm _ _, ?_, fun first later split => ?_⟩
    · rw [mergeSort_compareBy same]
      exact (stablySorted_mergeSort cmp rows).congr fun a inA b inB => (same a inA b inB).symm
    · subst split
      rw [sortRows_append present unmixed, sortRows_eq_ok present]
  case fails =>
    rw [sortRows_eq]
    cases found : rows.findSome? (missingKey? keys) with
    | none =>
      have all := missingKey?_eq_none.mp (List.findSome?_eq_none_iff.mp found row member) key given
      rw [absent] at all
      cases all
    | some fault =>
      obtain ⟨row, member, missing⟩ := List.exists_of_findSome?_eq_some found
      obtain ⟨key, given, absent, rfl⟩ := missingKey?_eq_some missing
      exact ⟨row, member, key, given, absent, rfl⟩

/-- Numbers of both kinds, texts and nulls, descending by the first key: equal numbers that are
written differently, and rows that are equal on both keys. -/
theorem sortRows_stable_descending :
    let a : Row := .ofList [("k", .text "9"), ("n", .text "b"), ("at", .text "first")]
    let b : Row := .ofList [("k", .null), ("n", .text "a")]
    let c : Row := .ofList [("k", .text "10.5"), ("n", .text "a")]
    let d : Row := .ofList [("k", .text "9.0"), ("n", .text "a")]
    let e : Row := .ofList [("k", .text "x"), ("n", .text "a")]
    let f : Row := .ofList [("k", .integer 9), ("n", .text "b"), ("at", .text "last")]
    let keys : List SortKey := [("t.k", .desc), ("n", .asc)]
    sortRows keys [a, b, c, d, e, f] = .ok [e, c, d, a, f, b] ∧
      sortRows [("n", .asc)] [a, b, c, d, e, f] >>= sortRows [("t.k", .desc)] =
        .ok [e, c, d, a, f, b] ∧
      sortRows (keys ++ [("at", .asc)]) [a, b, c, d, e, f] = .error (.field (.unknown "at")) := by
  intro a b c d e f keys
  have present : ∀ row ∈ [a, b, c, d, e, f], ∀ key ∈ keys,
      (row.lookup? key.1).isSome = true := by
    decide +kernel
  have unmixed : ∀ key ∈ keys,
      Value.Unmixed ([a, b, c, d, e, f].map (Row.sortValue key.1)) := by
    decide +kernel
  have lacking : ∃ row ∈ [a, b, c, d, e, f], ∃ key ∈ keys ++ [("at", .asc)],
      row.lookup? key.1 = none := by
    decide +kernel
  obtain ⟨sorted, sorts, _, stable, divided⟩ :=
    (sortRows_stable keys [a, b, c, d, e, f]).1 present unmixed
  have placed : StablySorted (Row.compareBy keys) [a, b, c, d, e, f] [e, c, d, a, f, b] :=
    ⟨[(e, 4), (c, 2), (d, 3), (a, 0), (f, 5), (b, 1)], by decide +kernel, rfl, by
      unfold Precedes; decide +kernel⟩
  cases stable.unique placed
  obtain ⟨row, inRows, key, given, absent, fails⟩ :=
    (sortRows_stable (keys ++ [("at", .asc)]) [a, b, c, d, e, f]).2 lacking
  have named : ∀ row ∈ [a, b, c, d, e, f], ∀ key ∈ keys ++ [("at", .asc)],
      row.lookup? key.1 = none → key.1 = "at" := by
    decide +kernel
  rw [named row inRows key given absent] at fails
  exact ⟨sorts, divided _ _ rfl, fails⟩

end TableQuery
