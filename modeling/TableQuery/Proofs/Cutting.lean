import TableQuery.Statement.Clause

/-!
How clauses are cut out of a token list.

A search for a keyword or a pair of keywords stops at the first place where they
stand, so it finds a clause behind tokens that are free of its keywords, and finds
nothing where they do not occur. Segments between separators are found again when
each of them is `Solid`: no separator of it stands outside of parentheses.
-/

namespace TableQuery.Clause

/-! ## Keywords -/

theorem cutKeyword?_append {k : Keyword} {before : List Token}
    (absent : .keyword k ∉ before) (after : List Token) :
    cutKeyword? k (before ++ .keyword k :: after) = some (before, after) := by
  induction before with
  | nil => simp [cutKeyword?]
  | cons token rest ih =>
    rw [List.mem_cons, not_or] at absent
    rw [List.cons_append, cutKeyword?, if_neg (Ne.symm absent.1), ih absent.2]
    rfl

theorem cutKeyword?_eq_none {k : Keyword} {tokens : List Token}
    (absent : .keyword k ∉ tokens) : cutKeyword? k tokens = none := by
  induction tokens with
  | nil => rfl
  | cons token rest ih =>
    rw [List.mem_cons, not_or] at absent
    rw [cutKeyword?, if_neg (Ne.symm absent.1), ih absent.2]
    rfl

/-! ## Pairs of keywords -/

section Pairs

variable {isFirst : Keyword → Bool} {second : Keyword}

/-- A pair starts with its two keywords. -/
theorem exists_of_startsPair {tokens : List Token}
    (starts : startsPair isFirst second tokens = true) :
    ∃ first rest, isFirst first = true ∧
      tokens = .keyword first :: .keyword second :: rest := by
  unfold startsPair at starts
  split at starts
  · rename_i a b rest
    rw [Bool.and_eq_true, beq_iff_eq] at starts
    exact ⟨a, rest, starts.1, by rw [starts.2]⟩
  · cases starts

theorem cutPair?_append {first : Keyword} {before : List Token}
    (absent : ∀ k, isFirst k = true → .keyword k ∉ before) (isPair : isFirst first = true)
    (after : List Token) :
    cutPair? isFirst second (before ++ .keyword first :: .keyword second :: after) =
      some (before, .keyword first :: .keyword second :: after) := by
  induction before with
  | nil => simp [cutPair?, startsPair, isPair]
  | cons token rest ih =>
    have notHere : startsPair isFirst second
        (token :: (rest ++ .keyword first :: .keyword second :: after)) = false := by
      refine Bool.eq_false_iff.mpr fun starts => ?_
      obtain ⟨k, _, isK, shape⟩ := exists_of_startsPair starts
      exact absent k isK ((List.cons.inj shape).1 ▸ List.mem_cons_self)
    have later := ih fun k isK member => absent k isK (List.mem_cons_of_mem _ member)
    rw [List.cons_append, cutPair?, notHere, later]
    rfl

/-- A search for a pair fails when the pair occurs nowhere. -/
theorem cutPair?_eq_none {tokens : List Token}
    (absent : ∀ k, isFirst k = true → ¬ [.keyword k, .keyword second] <:+: tokens) :
    cutPair? isFirst second tokens = none := by
  induction tokens with
  | nil => rfl
  | cons token rest ih =>
    have notHere : startsPair isFirst second (token :: rest) = false := by
      refine Bool.eq_false_iff.mpr fun starts => ?_
      obtain ⟨k, after, isK, shape⟩ := exists_of_startsPair starts
      exact absent k isK ⟨[], after, shape ▸ rfl⟩
    have later := ih fun k isK inside => absent k isK (inside.trans (List.suffix_cons _ _).isInfix)
    rw [cutPair?, notHere, later]
    rfl

theorem cutPair?_eq_none_of_not_mem {tokens : List Token}
    (absent : ∀ k, isFirst k = true → .keyword k ∉ tokens) :
    cutPair? isFirst second tokens = none := by
  refine cutPair?_eq_none fun k isK inside => absent k isK ?_
  exact inside.subset List.mem_cons_self

end Pairs

/-! ## Clauses that are not there -/

section Absent

variable {tokens : List Token}

theorem not_pair_of_not_mem {first second : Keyword} (absent : .keyword first ∉ tokens) :
    ¬ [.keyword first, .keyword second] <:+: tokens :=
  fun inside => absent (inside.subset List.mem_cons_self)

theorem takeLimit_of_not_mem (absent : .keyword .limit ∉ tokens) :
    takeLimit tokens = .ok (none, tokens) := by
  rw [takeLimit, cutKeyword?_eq_none absent]

theorem takeOrderBy_of_not_pair (absent : ¬ [.keyword .order, .keyword .by] <:+: tokens) :
    takeOrderBy tokens = .ok (none, tokens) := by
  rw [takeOrderBy, cutPair?_eq_none]
  intro k isOrder
  rwa [eq_of_beq isOrder]

theorem takeGroupBy_of_not_pair (absent : ¬ [.keyword .group, .keyword .by] <:+: tokens) :
    takeGroupBy tokens = .ok (none, tokens) := by
  rw [takeGroupBy, cutPair?_eq_none]
  intro k isGroup
  rwa [eq_of_beq isGroup]

end Absent

/-! ## Segments -/

section Segments

variable {separates : Token → Bool}

/-- Puts tokens in front of the first segment. -/
def prepend (front : List Token) (segments : List (List Token)) : List (List Token) :=
  front.foldr extendFirst segments

theorem prepend_cons (front segment : List Token) (segments : List (List Token)) :
    prepend front (segment :: segments) = (front ++ segment) :: segments := by
  induction front with
  | nil => rfl
  | cons token front ih =>
    rw [prepend, List.foldr_cons, ← prepend, ih]
    rfl

/-- Tokens that no segment ends in, when they start outside of parentheses. -/
def Solid (separates : Token → Bool) (front : List Token) : Prop :=
  ∀ rest, segments separates 0 (front ++ rest) = prepend front (segments separates 0 rest)

theorem segments_cons {token : Token} (notOpen : token ≠ .openParen)
    (notClose : token ≠ .closeParen) (depth : Nat) (rest : List Token) :
    segments separates depth (token :: rest) =
      if depth = 0 && separates token then [] :: segments separates depth rest
      else extendFirst token (segments separates depth rest) := by
  rw [segments]
  · intro same
    exact notOpen same
  · intro same
    exact notClose same

theorem Solid.append {xs ys : List Token} (first : Solid separates xs)
    (second : Solid separates ys) : Solid separates (xs ++ ys) := by
  intro rest
  rw [List.append_assoc, first, second, prepend, prepend, prepend, List.foldr_append]

theorem Solid.of_forall {tokens : List Token}
    (plain : ∀ token ∈ tokens, token ≠ .openParen ∧ token ≠ .closeParen ∧
      separates token = false) : Solid separates tokens := by
  intro rest
  induction tokens with
  | nil => rfl
  | cons token tokens ih =>
    obtain ⟨notOpen, notClose, joins⟩ := plain token List.mem_cons_self
    have later := ih fun token member => plain token (List.mem_cons_of_mem _ member)
    rw [List.cons_append, segments_cons notOpen notClose, joins, later]
    rfl

/-- Inside of parentheses nothing separates. -/
theorem segments_succ_append {inner : List Token}
    (flat : ∀ token ∈ inner, token ≠ .openParen ∧ token ≠ .closeParen)
    (depth : Nat) (rest : List Token) :
    segments separates (depth + 1) (inner ++ rest) =
      prepend inner (segments separates (depth + 1) rest) := by
  induction inner with
  | nil => rfl
  | cons token inner ih =>
    obtain ⟨notOpen, notClose⟩ := flat token List.mem_cons_self
    have later := ih fun token member => flat token (List.mem_cons_of_mem _ member)
    rw [List.cons_append, segments_cons notOpen notClose, later]
    rfl

theorem Solid.inParens {inner : List Token}
    (flat : ∀ token ∈ inner, token ≠ .openParen ∧ token ≠ .closeParen) :
    Solid separates (.openParen :: inner ++ [.closeParen]) := by
  intro rest
  have inside : segments separates 1 (inner ++ .closeParen :: rest) =
      prepend inner (segments separates 1 (.closeParen :: rest)) :=
    segments_succ_append flat 0 _
  rw [List.cons_append, List.cons_append, List.append_assoc, List.singleton_append, segments,
    inside, segments, prepend, prepend, List.foldr_cons, List.foldr_append]
  rfl

/-- Solid segments are found again between separators. -/
theorem segments_intercalate {separator : Token} {parts : List (List Token)}
    (ends : separates separator = true)
    (notOpen : separator ≠ .openParen) (notClose : separator ≠ .closeParen)
    (some : parts ≠ []) (solid : ∀ part ∈ parts, Solid separates part) :
    segments separates 0 ([separator].intercalate parts) = parts := by
  induction parts with
  | nil => exact absurd rfl some
  | cons part rest ih =>
    have first := solid part List.mem_cons_self
    cases rest with
    | nil =>
      have alone := first []
      rw [List.append_nil, segments, prepend_cons, List.append_nil] at alone
      rw [List.intercalate_singleton, alone]
    | cons next rest =>
      have later := ih (List.cons_ne_nil _ _)
        fun part member => solid part (List.mem_cons_of_mem _ member)
      rw [List.intercalate_cons_cons, List.append_assoc, first, List.singleton_append,
        segments_cons notOpen notClose, ends, later]
      simp only [decide_true, Bool.and_self, if_true, prepend_cons, List.append_nil]

end Segments

end TableQuery.Clause
