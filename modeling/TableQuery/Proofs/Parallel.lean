import Mathlib.Data.List.Forall2
import TableQuery.Proofs.Outcome

/-!
Two runs side by side.

`Parallel R x y` says that two steps fail alike or both succeed with results that `R`
relates. It passes through sequences of steps and through steps over lists, so of two
runs that differ in their data only, each pair of single steps has to be compared.
-/

namespace TableQuery

variable {ε α β γ δ : Type}

/-- Two steps that fail alike, or succeed with related results. -/
inductive Parallel (relates : α → β → Prop) : Except ε α → Except ε β → Prop
  | failed (fault : ε) : Parallel relates (.error fault) (.error fault)
  | passed {a : α} {b : β} : relates a b → Parallel relates (.ok a) (.ok b)

namespace Parallel

variable {R : α → β → Prop} {S : γ → δ → Prop} {x : Except ε α} {y : Except ε β}

theorem of_eq {x y : Except ε α} (same : x = y) : Parallel Eq x y := by
  subst same
  cases x with
  | error fault => exact failed fault
  | ok a => exact passed rfl

theorem eq {x y : Except ε α} (parallel : Parallel Eq x y) : x = y := by
  cases parallel with
  | failed fault => rfl
  | passed same => rw [same]

theorem bind {f : α → Except ε γ} {g : β → Except ε δ} (first : Parallel R x y)
    (next : ∀ {a b}, R a b → Parallel S (f a) (g b)) : Parallel S (x >>= f) (y >>= g) := by
  cases first with
  | failed fault => exact failed fault
  | passed related => exact next related

/-- Steps over related lists. -/
theorem mapM {f : α → Except ε γ} {g : β → Except ε δ} {xs : List α} {ys : List β}
    (related : List.Forall₂ R xs ys) (step : ∀ {a b}, R a b → Parallel S (f a) (g b)) :
    Parallel (List.Forall₂ S) (xs.mapM f) (ys.mapM g) := by
  induction related with
  | nil => exact passed .nil
  | cons head _ ih =>
    rw [List.mapM_cons, List.mapM_cons]
    exact (step head).bind fun first => ih.bind fun later => passed (.cons first later)

/-- A fold whose steps do not tell related elements apart. -/
theorem foldlM_eq {f : γ → α → Except ε γ} {g : γ → β → Except ε γ} {xs : List α}
    {ys : List β} (related : List.Forall₂ R xs ys)
    (step : ∀ state {a b}, R a b → f state a = g state b) (start : γ) :
    xs.foldlM f start = ys.foldlM g start := by
  induction related generalizing start with
  | nil => rfl
  | cons head _ ih =>
    rw [List.foldlM_cons, List.foldlM_cons, step start head]
    exact congrArg _ (funext ih)

end Parallel

/-- Lists with related elements are sorted alike by orders that do not tell related
elements apart. -/
theorem forall₂_mergeSort {R : α → β → Prop} {le : α → α → Bool} {le' : β → β → Bool}
    {xs : List α} {ys : List β} (related : List.Forall₂ R xs ys)
    (same : ∀ {a b a' b'}, R a b → R a' b' → le a a' = le' b b') :
    List.Forall₂ R (xs.mergeSort le) (ys.mergeSort le') := by
  obtain ⟨sameLength, each⟩ := List.forall₂_iff_zip.mp related
  have pairs : ∀ pair ∈ xs.zip ys, R pair.1 pair.2 := fun pair member => each member
  -- both lists are images of the list of pairs, which is sorted once
  let leOfPairs := fun p q : α × β => le p.1 q.1
  have left : ((xs.zip ys).mergeSort leOfPairs).map Prod.fst = xs.mergeSort le := by
    rw [List.map_mergeSort (s := le) fun _ _ _ _ => rfl, List.map_fst_zip (Nat.le_of_eq sameLength)]
  have right : ((xs.zip ys).mergeSort leOfPairs).map Prod.snd = ys.mergeSort le' := by
    rw [List.map_mergeSort (s := le') fun p inP q inQ => same (pairs p inP) (pairs q inQ),
      List.map_snd_zip (Nat.le_of_eq sameLength.symm)]
  rw [← left, ← right, List.forall₂_map_left_iff, List.forall₂_map_right_iff, List.forall₂_same]
  exact fun pair member => pairs pair (List.mem_mergeSort.mp member)

end TableQuery
