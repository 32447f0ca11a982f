import Mathlib.Data.List.Forall2
import TableQuery.Query.Condition

/-!
What a pattern takes.

A pattern says how a text is cut: into one piece for each of its characters, in their
order and with nothing left over. The matcher looks for no cut. It answers for every
place of the text at once, each character of the pattern turning the answers of the
characters after it into its own, and the two agree by induction on the pattern and,
under `%`, on the text.
-/

namespace TableQuery

namespace Pattern

/-! ## Cutting a text by a pattern -/

/-- A character of a pattern covers a piece of a text: `%` any piece, `_` any single
character, and every other one a single character that is the same letter up to case. -/
inductive Covers : Char → List Char → Prop
  | percent (piece : List Char) : Covers '%' piece
  | underscore (d : Char) : Covers '_' [d]
  | letter {c d : Char} (notPercent : c ≠ '%') (notUnderscore : c ≠ '_')
      (same : Text.sameLetter c d = true) : Covers c [d]

/-- A text can be cut into pieces that the characters of a pattern cover one by one. -/
def Cuts (pattern text : List Char) : Prop :=
  ∃ pieces : List (List Char), pieces.flatten = text ∧ List.Forall₂ Covers pattern pieces

/-- Every character but `%` covers single characters only. -/
theorem Covers.single {c : Char} {piece : List Char} (covers : Covers c piece)
    (notPercent : c ≠ '%') : ∃ d, piece = [d] := by
  cases covers with
  | percent => exact absurd rfl notPercent
  | underscore d => exact ⟨d, rfl⟩
  | letter _ _ _ => exact ⟨_, rfl⟩

theorem covers_letter_iff {c d : Char} (notPercent : c ≠ '%') (notUnderscore : c ≠ '_') :
    Covers c [d] ↔ Text.sameLetter c d = true := by
  constructor
  · intro covers
    cases covers with
    | percent => exact absurd rfl notPercent
    | underscore => exact absurd rfl notUnderscore
    | letter _ _ same => exact same
  · exact .letter notPercent notUnderscore

theorem cuts_nil {text : List Char} : Cuts [] text ↔ text = [] := by
  constructor
  · rintro ⟨pieces, rfl, covered⟩
    cases covered
    rfl
  · rintro rfl
    exact ⟨[], rfl, .nil⟩

theorem cuts_cons {c : Char} {rest text : List Char} :
    Cuts (c :: rest) text ↔
      ∃ front back, text = front ++ back ∧ Covers c front ∧ Cuts rest back := by
  constructor
  · rintro ⟨pieces, rfl, covered⟩
    cases covered with
    | cons covers others => exact ⟨_, _, rfl, covers, _, rfl, others⟩
  · rintro ⟨front, back, rfl, covers, pieces, rfl, others⟩
    exact ⟨front :: pieces, rfl, .cons covers others⟩

theorem cuts_percent_nil {rest : List Char} : Cuts ('%' :: rest) [] ↔ Cuts rest [] := by
  rw [cuts_cons]
  constructor
  · rintro ⟨front, back, whole, _, cuts⟩
    obtain ⟨rfl, rfl⟩ := List.append_eq_nil_iff.mp whole.symm
    exact cuts
  · exact fun cuts => ⟨[], [], rfl, .percent [], cuts⟩

/-- The piece of `%` is empty or has the first character of the text. -/
theorem cuts_percent_cons {rest text : List Char} {d : Char} :
    Cuts ('%' :: rest) (d :: text) ↔ Cuts rest (d :: text) ∨ Cuts ('%' :: rest) text := by
  constructor
  · intro cuts
    obtain ⟨front, back, whole, -, others⟩ := cuts_cons.mp cuts
    cases front with
    | nil =>
      left
      rwa [whole]
    | cons e front =>
      obtain ⟨rfl, rfl⟩ := List.cons.inj whole
      exact .inr (cuts_cons.mpr ⟨front, back, rfl, .percent front, others⟩)
  · rintro (cuts | cuts)
    · exact cuts_cons.mpr ⟨[], d :: text, rfl, .percent [], cuts⟩
    · obtain ⟨front, back, rfl, -, others⟩ := cuts_cons.mp cuts
      exact cuts_cons.mpr ⟨d :: front, back, rfl, .percent (d :: front), others⟩

section Single

variable {c : Char} (notPercent : c ≠ '%')
include notPercent

theorem not_cuts_single_nil {rest : List Char} : ¬ Cuts (c :: rest) [] := by
  intro cuts
  obtain ⟨front, back, whole, covers, -⟩ := cuts_cons.mp cuts
  obtain ⟨d, rfl⟩ := covers.single notPercent
  cases whole

/-- Every character but `%` takes the first character of the text. -/
theorem cuts_single_cons {rest text : List Char} {d : Char} :
    Cuts (c :: rest) (d :: text) ↔ Covers c [d] ∧ Cuts rest text := by
  constructor
  · intro cuts
    obtain ⟨front, back, whole, covers, others⟩ := cuts_cons.mp cuts
    obtain ⟨e, rfl⟩ := covers.single notPercent
    obtain ⟨rfl, rfl⟩ := List.cons.inj whole
    exact ⟨covers, others⟩
  · rintro ⟨covers, cuts⟩
    exact cuts_cons.mpr ⟨[d], text, rfl, covers, cuts⟩

end Single

/-! ## The answers of the matcher -/

section Answers

variable (rest : Pattern) (folded : List Char)

theorem takes_end : takes [] folded = folded.map (fun _ => false) ++ [true] := rfl

theorem takes_anySequence :
    takes (.anySequence :: rest) folded = anyLater (takes rest folded) := rfl

theorem takes_anyOne :
    takes (.anyOne :: rest) folded = (takes rest folded).drop 1 ++ [false] := rfl

theorem takes_letter (c : Char) : takes (.letter c :: rest) folded =
    List.zipWith (fun d later => d == c && later) folded ((takes rest folded).drop 1) ++
      [false] := rfl

end Answers

/-- The answer of the matcher for the start of a folded text. -/
def accepts (pattern : Pattern) (folded : List Char) : Bool :=
  (takes pattern folded).headD false

/-- There is an answer for every place of a text, its end among them. -/
theorem length_takes (pattern : Pattern) (folded : List Char) :
    (takes pattern folded).length = folded.length + 1 := by
  have length_anyLater : ∀ answers : List Bool, (anyLater answers).length = answers.length := by
    intro answers
    induction answers with
    | nil => rfl
    | cons b rest ih => rw [anyLater, List.length_cons, ih, List.length_cons]
  induction pattern with
  | nil => rw [takes_end, List.length_append, List.length_map, List.length_singleton]
  | cons piece rest ih =>
    cases piece with
    | anySequence => rw [takes_anySequence, length_anyLater, ih]
    | anyOne =>
      rw [takes_anyOne, List.length_append, List.length_drop, ih, List.length_singleton]
      omega
    | letter c =>
      rw [takes_letter, List.length_append, List.length_zipWith, List.length_drop, ih,
        List.length_singleton]
      omega

/-- The first answer is that for the start of the text. -/
theorem takes_eq_cons (pattern : Pattern) (folded : List Char) :
    takes pattern folded = accepts pattern folded :: (takes pattern folded).drop 1 := by
  have long := length_takes pattern folded
  unfold accepts
  cases answers : takes pattern folded with
  | nil =>
    rw [answers, List.length_nil] at long
    omega
  | cons first later => rfl

theorem takes_nil (pattern : Pattern) : takes pattern [] = [accepts pattern []] := by
  have long := length_takes pattern []
  rw [takes_eq_cons, List.length_cons, List.length_nil] at long
  have none : (takes pattern []).drop 1 = [] := by
    apply List.eq_nil_of_length_eq_zero
    omega
  rw [takes_eq_cons, none]

/-- The other answers are those for the text without its first character. -/
theorem takes_cons (pattern : Pattern) (d : Char) (folded : List Char) :
    takes pattern (d :: folded) = accepts pattern (d :: folded) :: takes pattern folded := by
  have later : (takes pattern (d :: folded)).drop 1 = takes pattern folded := by
    induction pattern with
    | nil => rfl
    | cons piece rest ih =>
      have here : takes rest (d :: folded) = accepts rest (d :: folded) :: takes rest folded := by
        rw [takes_eq_cons, ih]
      cases piece with
      | anySequence =>
        rw [takes_anySequence, here, anyLater, List.drop_succ_cons, List.drop_zero,
          takes_anySequence]
      | anyOne =>
        rw [takes_anyOne, here, List.drop_succ_cons, List.drop_zero, takes_eq_cons rest folded,
          List.cons_append, List.drop_succ_cons, List.drop_zero, takes_anyOne]
      | letter c =>
        rw [takes_letter, here, List.drop_succ_cons, List.drop_zero, takes_eq_cons rest folded,
          List.zipWith_cons_cons, List.cons_append, List.drop_succ_cons, List.drop_zero,
          takes_letter]
  rw [takes_eq_cons, later]

section Accepts

variable (rest : Pattern) (d : Char) (folded : List Char)

theorem accepts_nil : accepts [] folded = true ↔ folded = [] := by
  cases folded with
  | nil => exact iff_of_true rfl rfl
  | cons d folded => exact iff_of_false Bool.false_ne_true (List.cons_ne_nil _ _)

theorem accepts_anySequence_nil : accepts (.anySequence :: rest) [] = accepts rest [] := by
  rw [accepts, takes_anySequence, takes_nil]
  exact Bool.or_false _

theorem accepts_anySequence_cons : accepts (.anySequence :: rest) (d :: folded) =
    (accepts rest (d :: folded) || accepts (.anySequence :: rest) folded) := by
  rw [accepts, takes_anySequence, takes_cons]
  rfl

theorem accepts_anyOne_nil : accepts (.anyOne :: rest) [] = false := by
  rw [accepts, takes_anyOne, takes_nil]
  rfl

theorem accepts_anyOne_cons : accepts (.anyOne :: rest) (d :: folded) = accepts rest folded := by
  rw [accepts, takes_anyOne, takes_cons, List.drop_succ_cons, List.drop_zero, takes_eq_cons]
  rfl

theorem accepts_letter_nil (c : Char) : accepts (.letter c :: rest) [] = false := by
  rw [accepts, takes_letter, takes_nil]
  rfl

theorem accepts_letter_cons (c : Char) : accepts (.letter c :: rest) (d :: folded) =
    (d == c && accepts rest folded) := by
  rw [accepts, takes_letter, takes_cons, List.drop_succ_cons, List.drop_zero, takes_eq_cons]
  rfl

end Accepts

theorem piece_letter {c : Char} (notPercent : c ≠ '%') (notUnderscore : c ≠ '_') :
    piece c = .letter (Text.foldCase c) := by
  unfold piece
  split
  · exact absurd rfl notPercent
  · exact absurd rfl notUnderscore
  · rfl

/-- How much `%` covers is found by a walk along the text. -/
theorem accepts_anySequence_iff {rest : List Char}
    (others : ∀ text : List Char,
      accepts (rest.map piece) (text.map Text.foldCase) = true ↔ Cuts rest text)
    (text : List Char) :
    accepts (.anySequence :: rest.map piece) (text.map Text.foldCase) = true ↔
      Cuts ('%' :: rest) text := by
  induction text with
  | nil => rw [List.map_nil, accepts_anySequence_nil, cuts_percent_nil, ← others, List.map_nil]
  | cons d text walk =>
    rw [List.map_cons, accepts_anySequence_cons, Bool.or_eq_true, walk, cuts_percent_cons,
      ← others, List.map_cons]

/-- What the matcher accepts is what the pattern cuts. -/
theorem accepts_iff_cuts (pattern text : List Char) :
    accepts (pattern.map piece) (text.map Text.foldCase) = true ↔ Cuts pattern text := by
  induction pattern generalizing text with
  | nil => rw [List.map_nil, accepts_nil, List.map_eq_nil_iff, cuts_nil]
  | cons c rest ih =>
    rw [List.map_cons]
    by_cases percent : c = '%'
    · subst percent
      exact accepts_anySequence_iff ih text
    by_cases underscore : c = '_'
    · subst underscore
      have kind : piece '_' = .anyOne := rfl
      rw [kind]
      cases text with
      | nil =>
        rw [List.map_nil, accepts_anyOne_nil]
        exact iff_of_false Bool.false_ne_true (not_cuts_single_nil percent)
      | cons d text =>
        rw [List.map_cons, accepts_anyOne_cons, ih, cuts_single_cons percent]
        exact (and_iff_right (.underscore d)).symm
    rw [piece_letter percent underscore]
    cases text with
    | nil =>
      rw [List.map_nil, accepts_letter_nil]
      exact iff_of_false Bool.false_ne_true (not_cuts_single_nil percent)
    | cons d text =>
      have same : (Text.foldCase d == Text.foldCase c) = true ↔ Covers c [d] := by
        rw [covers_letter_iff percent underscore, Text.sameLetter, beq_iff_eq, beq_iff_eq, eq_comm]
      rw [List.map_cons, accepts_letter_cons, Bool.and_eq_true, same, ih,
        cuts_single_cons percent]

theorem matchesText_iff_cuts (pattern text : String) :
    (ofText pattern).matchesText text = true ↔ Cuts pattern.toList text.toList :=
  accepts_iff_cuts pattern.toList text.toList

end Pattern

/-! ## Conditions with a pattern -/

/-- A condition with a pattern on a cell that is found holds exactly when the cell is not
null and its text, as it is shown, can be cut by the pattern. -/
theorem Condition.evaluate_like {field pattern : String} {row : Row} {value : Value}
    (found : row.lookup field = .ok value) :
    ∃ holds, Condition.evaluate ⟨field, .like, pattern⟩ row = .ok holds ∧
      (holds = true ↔ value ≠ .null ∧ Pattern.Cuts pattern.toList value.display.toList) := by
  have evaluated : evaluate ⟨field, .like, pattern⟩ row =
      .ok (test ⟨field, .like, pattern⟩ value) := by
    rw [evaluate, found]
    rfl
  refine ⟨_, evaluated, ?_⟩
  rw [test, if_pos rfl, Bool.and_eq_true, decide_eq_true_iff, Pattern.matchesText_iff_cuts]

/-- Signs that are special elsewhere stand for themselves, `%` and `_` also take line
ends, another letter at the place of one is refused, and null satisfies no pattern. -/
theorem Condition.evaluate_like_signs :
    let row : Row := .ofList [("t", .text "a.B\n(Σ]"), ("n", .null)]
    Condition.evaluate ⟨"t", .like, "A.%_%(ς]%"⟩ row = .ok true ∧
      (Condition.evaluate ⟨"t", .like, "A.%_%(τ]%"⟩ row = .ok false ∧
        ¬ Pattern.Cuts "A.%_%(τ]%".toList "a.B\n(Σ]".toList) ∧
      Condition.evaluate ⟨"n", .like, "%"⟩ row = .ok false := by
  intro row
  have text : row.lookup "t" = .ok (.text "a.B\n(Σ]") := by decide +kernel
  have null : row.lookup "n" = .ok .null := by decide +kernel
  obtain ⟨taken, evaluated, said⟩ := Condition.evaluate_like text
  obtain ⟨never, tested, denied⟩ := Condition.evaluate_like null
  have cuts : Pattern.Cuts "A.%_%(ς]%".toList (Value.text "a.B\n(Σ]").display.toList := by
    refine ⟨[['a'], ['.'], ['B'], ['\n'], [], ['('], ['Σ'], [']'], []], rfl, ?_⟩
    have letter {c d : Char} (same : (c ≠ '%' ∧ c ≠ '_') ∧ Text.sameLetter c d = true) :
        Pattern.Covers c [d] := .letter same.1.1 same.1.2 same.2
    exact .cons (letter (by decide)) (.cons (letter (by decide)) (.cons (.percent _)
      (.cons (.underscore _) (.cons (.percent _) (.cons (letter (by decide))
      (.cons (letter (by decide)) (.cons (letter (by decide)) (.cons (.percent _) .nil))))))))
  have holds : taken = true := said.mpr ⟨by decide, cuts⟩
  have fails : never = false := by
    rw [Bool.eq_false_iff]
    exact fun truth => (denied.mp truth).1 rfl
  have refused : Condition.evaluate ⟨"t", .like, "A.%_%(τ]%"⟩ row = .ok false := by decide +kernel
  obtain ⟨other, compared, cut⟩ := Condition.evaluate_like text
  cases compared.symm.trans refused
  subst holds fails
  exact ⟨evaluated, ⟨refused, fun cuts => Bool.false_ne_true (cut.mpr ⟨by decide, cuts⟩)⟩, tested⟩

end TableQuery
