/-!
Steps that may fail, one after the other and over lists.
-/

namespace TableQuery

variable {ε α β : Type}

/-- What succeeds after a first step: that one succeeded too. -/
theorem bind_eq_ok {first : Except ε α} {next : α → Except ε β} {b : β}
    (both : first >>= next = .ok b) : ∃ a, first = .ok a ∧ next a = .ok b := by
  cases first with
  | error fault => cases both
  | ok a => exact ⟨a, rfl, both⟩

theorem map_eq_ok {first : Except ε α} {next : α → β} {b : β}
    (mapped : first.map next = .ok b) : ∃ a, first = .ok a ∧ next a = b := by
  cases first with
  | error fault => cases mapped
  | ok a => exact ⟨a, rfl, Except.ok.inj mapped⟩

/-- What is said of the result of a step is decided by taking the step. -/
instance decidableForallOk (step : Except ε α) (p : α → Prop) [DecidablePred p] :
    Decidable (∀ a, step = .ok a → p a) :=
  match step with
  | .ok a => decidable_of_iff (p a) ⟨fun holds _ same => Except.ok.inj same ▸ holds, (· a rfl)⟩
  | .error _ => isTrue nofun

/-- A step that succeeds on every element succeeds on the list. -/
theorem mapM_eq_ok {step : α → Except ε β} {result : α → β} {xs : List α}
    (each : ∀ x ∈ xs, step x = .ok (result x)) : xs.mapM step = .ok (xs.map result) := by
  induction xs with
  | nil => rfl
  | cons x xs ih =>
    have later := ih fun x member => each x (List.mem_cons_of_mem _ member)
    rw [List.mapM_cons, each x List.mem_cons_self, later]
    rfl

/-- Steps that succeed on every element succeed on the list, whatever they give. -/
theorem exists_mapM_eq_ok {step : α → Except ε β} {xs : List α}
    (each : ∀ x ∈ xs, ∃ y, step x = .ok y) : ∃ ys, xs.mapM step = .ok ys := by
  induction xs with
  | nil => exact ⟨[], rfl⟩
  | cons x xs ih =>
    obtain ⟨y, first⟩ := each x List.mem_cons_self
    obtain ⟨ys, later⟩ := ih fun other member => each other (List.mem_cons_of_mem _ member)
    exact ⟨y :: ys, by rw [List.mapM_cons, first, later]; rfl⟩

theorem mapM_congr {f g : α → Except ε β} {xs : List α} (same : ∀ x ∈ xs, f x = g x) :
    xs.mapM f = xs.mapM g := by
  induction xs with
  | nil => rfl
  | cons x xs ih =>
    rw [List.mapM_cons, List.mapM_cons, same x List.mem_cons_self,
      ih fun other member => same other (List.mem_cons_of_mem _ member)]

/-- What steps over a list give: something for every element, and nothing else. -/
theorem mem_of_mapM_eq_ok {step : α → Except ε β} {xs : List α} {ys : List β}
    (all : xs.mapM step = .ok ys) :
    (∀ x ∈ xs, ∃ y ∈ ys, step x = .ok y) ∧ ∀ y ∈ ys, ∃ x ∈ xs, step x = .ok y := by
  induction xs generalizing ys with
  | nil =>
    cases all
    simp
  | cons x xs ih =>
    rw [List.mapM_cons] at all
    obtain ⟨y, first, all⟩ := bind_eq_ok all
    obtain ⟨more, later, all⟩ := bind_eq_ok all
    cases all
    obtain ⟨each, only⟩ := ih later
    constructor
    · intro other member
      rcases List.mem_cons.mp member with rfl | member
      · exact ⟨y, List.mem_cons_self, first⟩
      · obtain ⟨found, given, step⟩ := each other member
        exact ⟨found, List.mem_cons_of_mem _ given, step⟩
    · intro other member
      rcases List.mem_cons.mp member with rfl | member
      · exact ⟨x, List.mem_cons_self, first⟩
      · obtain ⟨found, given, step⟩ := only other member
        exact ⟨found, List.mem_cons_of_mem _ given, step⟩

/-- Steps that succeed on a list succeed on its beginning, where they give a beginning of what
they give on the list. -/
theorem mapM_of_begins {step : α → Except ε β} {front whole : List α}
    {results : List β} (begins : front <+: whole) (all : whole.mapM step = .ok results) :
    ∃ first, front.mapM step = .ok first ∧ first <+: results := by
  obtain ⟨back, rfl⟩ := begins
  rw [List.mapM_append] at all
  obtain ⟨first, read, all⟩ := bind_eq_ok all
  obtain ⟨rest, _, same⟩ := bind_eq_ok all
  cases same
  exact ⟨first, read, rest, rfl⟩

theorem length_of_mapM {step : α → Except ε β} {xs : List α} {ys : List β}
    (all : xs.mapM step = .ok ys) : ys.length = xs.length := by
  induction xs generalizing ys with
  | nil =>
    cases all
    rfl
  | cons x xs ih =>
    rw [List.mapM_cons] at all
    obtain ⟨y, _, all⟩ := bind_eq_ok all
    obtain ⟨more, later, all⟩ := bind_eq_ok all
    cases all
    rw [List.length_cons, List.length_cons, ih later]

/-- What a step makes of elements that are apart is apart when it tells them apart. -/
theorem pairwise_of_mapM {step : α → Except ε β} {R : α → α → Prop}
    {S : β → β → Prop} {xs : List α} {ys : List β} (made : xs.mapM step = .ok ys)
    (apart : xs.Pairwise R) (tells : ∀ a ∈ xs, ∀ b ∈ xs, R a b →
      ∀ {c d}, step a = .ok c → step b = .ok d → S c d) : ys.Pairwise S := by
  induction xs generalizing ys with
  | nil =>
    cases made
    exact .nil
  | cons x xs ih =>
    rw [List.mapM_cons] at made
    obtain ⟨y, first, made⟩ := bind_eq_ok made
    obtain ⟨more, later, made⟩ := bind_eq_ok made
    cases made
    obtain ⟨alone, apart⟩ := List.pairwise_cons.mp apart
    refine List.pairwise_cons.mpr ⟨fun other member => ?_, ih later apart fun a inXs b inXs' =>
      tells a (List.mem_cons_of_mem _ inXs) b (List.mem_cons_of_mem _ inXs')⟩
    obtain ⟨source, given, step⟩ := (mem_of_mapM_eq_ok later).2 other member
    exact tells x List.mem_cons_self source (List.mem_cons_of_mem _ given) (alone source given)
      first step

theorem forM_eq_ok {each : α → Except ε Unit} {xs : List α} (all : xs.forM each = .ok ()) :
    ∀ x ∈ xs, each x = .ok () := by
  induction xs with
  | nil => simp
  | cons x xs ih =>
    obtain ⟨_, first, rest⟩ := bind_eq_ok all
    exact List.forall_mem_cons.mpr ⟨first, ih rest⟩

theorem forM_of_forall {each : α → Except ε Unit} {xs : List α}
    (all : ∀ x ∈ xs, each x = .ok ()) : xs.forM each = .ok () := by
  induction xs with
  | nil => rfl
  | cons x xs ih =>
    show (each x >>= fun _ => xs.forM each) = .ok ()
    rw [all x List.mem_cons_self]
    exact ih fun other member => all other (List.mem_cons_of_mem _ member)

/-- The fault of a step, if it fails. -/
def fault? : Except ε α → Option ε
  | .error fault => some fault
  | .ok _ => none

@[simp] theorem fault?_ok (a : α) : fault? (.ok a : Except ε α) = none := rfl

/-- Gives a result unless there is a fault. -/
def unlessFault (found : Option ε) (a : α) : Except ε α :=
  match found with
  | some fault => .error fault
  | none => .ok a

theorem unlessFault_eq_ok {found : Option ε} {a b : α} (passed : unlessFault found a = .ok b) :
    found = none ∧ a = b := by
  cases found with
  | none => exact ⟨rfl, Except.ok.inj passed⟩
  | some fault => cases passed

/-- Steps over a list fail as the first of them that fails, and otherwise give what each of
them gives. -/
theorem mapM_cases {step : α → Except ε β} {result : α → β}
    (given : ∀ x b, step x = .ok b → b = result x) (xs : List α) :
    xs.mapM step = unlessFault (xs.findSome? fun x => fault? (step x)) (xs.map result) := by
  induction xs with
  | nil => rfl
  | cons x xs ih =>
    rw [List.mapM_cons, List.findSome?_cons, ih]
    cases first : step x with
    | error fault => rfl
    | ok b =>
      rw [given x b first]
      simp only [fault?_ok]
      cases xs.findSome? fun x => fault? (step x) <;> rfl

end TableQuery
