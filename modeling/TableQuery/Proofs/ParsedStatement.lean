import TableQuery.Proofs.Names
import TableQuery.Proofs.Outcome
import TableQuery.Statement.Reader

/-!
Every statement that is read is well formed.

The scanner makes an identifier only of a name and a number only of a number text
(`Token.wellFormed_of_scan?`). From there on readers hand on what they were given: a
phrase that is read from well-formed tokens is well formed and leaves well-formed tokens
(`Phrase.Gives`), and clauses are cut from the list of tokens without a change to any of
them. So no statement has a name that its text could not have spelled.
-/

namespace TableQuery

/-! ## Tokens -/

namespace Token

/-- An identifier is a name, a number has the text of one, and no sign of a comparison is left
to be a token of its own. -/
structure WellFormed (token : Token) : Prop where
  name : ∀ {name}, token = ident name → isName name = true
  number : ∀ {digits}, token = number digits → IsNumberText digits
  symbol : ∀ {c}, token = other c → c ≠ '=' ∧ c ≠ '>' ∧ c ≠ '<'

theorem fractionText_fraction (cs : List Char) : FractionText (fraction cs).1 := by
  unfold fraction
  split
  · exact .point (List.all_eq_true.mp List.all_takeWhile)
  · exact .absent

theorem exponentSign_mem (cs : List Char) : (exponentSign cs).1 ∈ [[], ['+'], ['-']] := by
  unfold exponentSign
  split
  · split
    · rename_i sign
      rcases sign with rfl | rfl <;> simp
    · simp
  · simp

theorem exponentText_exponent (cs : List Char) : ExponentText (exponent cs).1 := by
  cases cs with
  | nil => exact .absent
  | cons c rest =>
    have sign := exponentSign_mem rest
    rw [exponent]
    split
    rename_i signChars digits shape
    rw [shape] at sign
    split
    · rename_i complete
      exact .present complete.1 sign ⟨complete.2, List.all_eq_true.mp List.all_takeWhile⟩
    · exact .absent

theorem wellFormed_numberLexeme {c : Char} (digit : c.isDigit = true) (rest : List Char) :
    (numberLexeme (c :: rest)).1.WellFormed := by
  have text : (numberLexeme (c :: rest)).1 = number (String.ofList
      ((c :: rest).takeWhile Char.isDigit ++
        (fraction ((c :: rest).dropWhile Char.isDigit)).1 ++
        (exponent (fraction ((c :: rest).dropWhile Char.isDigit)).2).1)) := rfl
  have whole : IsDigits ((c :: rest).takeWhile Char.isDigit) := by
    refine ⟨?_, List.all_eq_true.mp List.all_takeWhile⟩
    rw [List.takeWhile_cons_of_pos digit]
    exact List.cons_ne_nil _ _
  rw [text]
  refine ⟨nofun, fun same => ?_, nofun⟩
  cases same
  exact ⟨_, _, _, String.toList_ofList, whole, fractionText_fraction _, exponentText_exponent _⟩

theorem wellFormed_ofName {c : Char} {tail : List Char} (starts : startsIdent c = true)
    (continues : ∀ d ∈ tail, continuesIdent d = true) :
    (ofName (String.ofList (c :: tail))).WellFormed := by
  unfold ofName
  split
  · exact ⟨nofun, nofun, nofun⟩
  · rename_i noKeyword
    refine ⟨fun same => ?_, nofun, nofun⟩
    cases same
    rw [isName, String.toList_ofList]
    simp only [starts, List.all_eq_true.mpr continues, noKeyword, Option.isNone_none,
      Bool.and_self]

theorem wellFormed_symbolLexeme (c : Char) (rest : List Char) :
    (symbolLexeme c rest).1.WellFormed := by
  unfold symbolLexeme
  split
  case h_15 notEqual notGreater notLess _ _ _ _ =>
    refine ⟨nofun, nofun, fun same => ?_⟩
    cases same
    exact ⟨notEqual, notGreater, notLess⟩
  all_goals exact ⟨nofun, nofun, nofun⟩

theorem wellFormed_text (s : String) : (text s).WellFormed := ⟨nofun, nofun, nofun⟩

theorem wellFormed_of_lexeme? {c : Char} {rest after : List Char} {token : Token}
    (read : lexeme? c rest = some (token, after)) : token.WellFormed := by
  rw [lexeme?] at read
  split at read
  · obtain ⟨_, _, same⟩ := Option.map_eq_some_iff.mp read
    cases same
    exact wellFormed_text _
  · split at read
    · rename_i digit
      have number := wellFormed_numberLexeme digit rest
      rwa [Option.some.inj read] at number
    · split at read
      · rename_i starts
        rw [← (Prod.mk.inj (Option.some.inj read)).1]
        exact wellFormed_ofName starts (List.all_eq_true.mp List.all_takeWhile)
      · have symbol := wellFormed_symbolLexeme c rest
        rwa [Option.some.inj read] at symbol

/-- The tokens of a text are well formed. -/
theorem wellFormed_of_scan? {cs : List Char} {tokens : List Token}
    (read : scan? cs = some tokens) : ∀ token ∈ tokens, token.WellFormed := by
  fun_induction scan? cs generalizing tokens with
  | case1 =>
    cases read
    simp
  | case2 => cases read
  | case3 cs c rest skipped token after lexeme _ ih =>
    obtain ⟨later, scanned, rfl⟩ := Option.map_eq_some_iff.mp read
    exact List.forall_mem_cons.mpr ⟨wellFormed_of_lexeme? lexeme, ih scanned⟩

end Token

/-! ## Phrases -/

namespace Phrase

/-- All tokens are well formed. -/
def Proper (tokens : List Token) : Prop :=
  ∀ token ∈ tokens, token.WellFormed

/-- A reader that gives only phrases of some kind, and leaves proper tokens, when its
tokens are proper. -/
def Gives {α : Type} (kind : α → Prop) (phrase : List Token → Except Fault (α × List Token)) :
    Prop :=
  ∀ {tokens rest : List Token} {a : α}, Proper tokens → phrase tokens = .ok (a, rest) →
    kind a ∧ Proper rest

theorem Proper.tail {token : Token} {tokens : List Token} (proper : Proper (token :: tokens)) :
    Proper tokens := fun other member => proper other (List.mem_cons_of_mem _ member)

theorem Proper.mono {tokens fewer : List Token} (proper : Proper tokens)
    (subset : fewer ⊆ tokens) : Proper fewer := fun token member => proper token (subset member)

theorem proper_of_expect {expected : Token} {tokens rest : List Token} (proper : Proper tokens)
    (read : expect expected tokens = .ok rest) : Proper rest := by
  unfold expect at read
  split at read
  · cases read
  · split at read <;> cases read
    exact proper.tail

theorem ident_gives : Gives (isName · = true) ident := by
  intro tokens rest name proper read
  unfold ident at read
  split at read <;> cases read
  exact ⟨(proper _ List.mem_cons_self).name rfl, proper.tail⟩

theorem columnEnd_gives {first : String} (named : isName first = true) :
    Gives (isColumn · = true) (columnEnd first) := by
  intro tokens rest column proper read
  unfold columnEnd at read
  split at read
  · obtain ⟨⟨second, left⟩, inner, read⟩ := bind_eq_ok read
    cases read
    obtain ⟨secondNamed, proper⟩ := ident_gives proper.tail inner
    exact ⟨isColumn_qualified named secondNamed, proper⟩
  · cases read
    exact ⟨isColumn_of_isName named, proper⟩

theorem column_gives : Gives (isColumn · = true) column := by
  intro tokens rest name proper read
  obtain ⟨⟨first, left⟩, inner, read⟩ := bind_eq_ok read
  obtain ⟨named, proper⟩ := ident_gives proper inner
  exact columnEnd_gives named proper read

theorem qualifiedColumn_gives :
    Gives (fun column => isColumn column = true ∧ '.' ∈ column.toList) qualifiedColumn := by
  intro tokens rest name proper read
  obtain ⟨⟨found, left⟩, inner, read⟩ := bind_eq_ok read
  obtain ⟨written, proper⟩ := column_gives proper inner
  dsimp only at read
  split at read
  · rename_i dotted
    cases read
    exact ⟨⟨written, List.contains_iff_mem.mp dotted⟩, proper⟩
  · cases read

theorem operand_gives : Gives (fun operand => operand = "*" ∨ isColumn operand = true) operand := by
  intro tokens rest name proper read
  unfold operand at read
  split at read
  · cases read
    exact ⟨Or.inl rfl, proper.tail⟩
  · obtain ⟨written, proper⟩ := column_gives proper read
    exact ⟨Or.inr written, proper⟩

theorem expression_gives : Gives (·.wellFormed = true) expression := by
  intro tokens rest item proper read
  unfold expression at read
  split at read
  · cases read
  · cases read
    exact ⟨rfl, proper.tail⟩
  · rename_i name after
    split at read
    · cases read
    · rename_i known
      obtain ⟨⟨operand, left⟩, inner, read⟩ := bind_eq_ok read
      obtain ⟨closed, parens, read⟩ := bind_eq_ok read
      cases read
      obtain ⟨operandWritten, proper⟩ := operand_gives proper.tail.tail inner
      have function : (AggregateFunction.ofName? name).isSome = true := by
        simpa [Option.isSome_iff_ne_none] using known
      refine ⟨?_, proper_of_expect proper parens⟩
      rcases operandWritten with rfl | written <;> simp_all [Expression.wellFormed]
  · rename_i name after _
    obtain ⟨⟨column, left⟩, inner, read⟩ := bind_eq_ok read
    cases read
    exact columnEnd_gives ((proper _ List.mem_cons_self).name rfl) proper.tail inner
  · cases read

theorem constant_gives : Gives Constant.WellFormed constant := by
  intro tokens rest value proper read
  unfold constant at read
  split at read <;> cases read
  · exact ⟨Or.inl ((proper _ List.mem_cons_self).number rfl), proper.tail⟩
  · exact ⟨Or.inr ⟨_, (proper.tail _ List.mem_cons_self).number rfl, rfl⟩, proper.tail.tail⟩
  · exact ⟨trivial, proper.tail⟩
  · exact ⟨trivial, proper.tail⟩

section Lists

variable {α : Type} {kind : α → Prop} {phrase : List Token → Except Fault (α × List Token)}

theorem separated_gives (gives : Gives kind phrase) (consumes : Consumes phrase) :
    Gives (fun items => items ≠ [] ∧ ∀ item ∈ items, kind item)
      (separated phrase consumes) := by
  intro tokens rest items proper read
  fun_induction separated phrase @consumes tokens generalizing rest items with
  | case1 => cases read
  | case2 => cases read
  | case3 tokens first later inner _ more left laterRead ih =>
    cases read
    obtain ⟨firstKind, proper⟩ := gives proper inner
    obtain ⟨⟨_, moreKind⟩, proper⟩ := ih proper.tail laterRead
    exact ⟨⟨List.cons_ne_nil _ _, List.forall_mem_cons.mpr ⟨firstKind, moreKind⟩⟩, proper⟩
  | case4 tokens first later _ inner =>
    cases read
    obtain ⟨firstKind, proper⟩ := gives proper inner
    exact ⟨⟨List.cons_ne_nil _ _, by simpa using firstKind⟩, proper⟩

theorem parenthesized_gives (gives : Gives kind phrase) (consumes : Consumes phrase) :
    Gives (fun items => items ≠ [] ∧ ∀ item ∈ items, kind item)
      (parenthesized phrase consumes) := by
  intro tokens rest items proper read
  obtain ⟨inside, opened, read⟩ := bind_eq_ok read
  obtain ⟨⟨found, left⟩, inner, read⟩ := bind_eq_ok read
  obtain ⟨items, proper⟩ := separated_gives gives consumes (proper_of_expect proper opened) inner
  dsimp only at read
  split at read
  · cases read
  · cases read
    exact ⟨items, proper.tail⟩
  · cases read

end Lists

end Phrase

/-! ## Cutting -/

namespace Clause

open Phrase

theorem cutKeyword?_eq_some {k : Keyword} {tokens before after : List Token}
    (cut : cutKeyword? k tokens = some (before, after)) :
    tokens = before ++ .keyword k :: after := by
  induction tokens generalizing before with
  | nil => cases cut
  | cons token rest ih =>
    rw [cutKeyword?] at cut
    split at cut
    · rename_i here
      cases cut
      rw [here, List.nil_append]
    · obtain ⟨⟨front, back⟩, later, same⟩ := Option.map_eq_some_iff.mp cut
      cases same
      rw [ih later, List.cons_append]

theorem cutPair?_eq_some {isFirst : Keyword → Bool} {second : Keyword}
    {tokens before pair : List Token} (cut : cutPair? isFirst second tokens = some (before, pair)) :
    tokens = before ++ pair := by
  induction tokens generalizing before with
  | nil => cases cut
  | cons token rest ih =>
    rw [cutPair?] at cut
    split at cut
    · cases cut
      rfl
    · obtain ⟨⟨front, back⟩, later, same⟩ := Option.map_eq_some_iff.mp cut
      cases same
      rw [ih later, List.cons_append]

theorem proper_of_cutKeyword? {k : Keyword} {tokens before after : List Token}
    (proper : Proper tokens) (cut : cutKeyword? k tokens = some (before, after)) :
    Proper before ∧ Proper after := by
  rw [cutKeyword?_eq_some cut] at proper
  exact ⟨proper.mono (List.subset_append_left _ _),
    (proper.mono (List.subset_append_right _ _)).tail⟩

theorem proper_of_cutPair? {isFirst : Keyword → Bool} {second : Keyword}
    {tokens before pair : List Token} (proper : Proper tokens)
    (cut : cutPair? isFirst second tokens = some (before, pair)) :
    Proper before ∧ Proper pair := by
  rw [cutPair?_eq_some cut] at proper
  exact ⟨proper.mono (List.subset_append_left _ _), proper.mono (List.subset_append_right _ _)⟩

theorem extendFirst_ne_nil (token : Token) (segments : List (List Token)) :
    extendFirst token segments ≠ [] := by
  cases segments <;> exact List.cons_ne_nil _ _

theorem segments_ne_nil (separates : Token → Bool) (depth : Nat) (tokens : List Token) :
    segments separates depth tokens ≠ [] := by
  fun_cases segments separates depth tokens
  · exact List.cons_ne_nil _ _
  · exact extendFirst_ne_nil _ _
  · exact extendFirst_ne_nil _ _
  · exact List.cons_ne_nil _ _
  · exact extendFirst_ne_nil _ _

theorem proper_extendFirst {token : Token} {segments : List (List Token)}
    (proper : token.WellFormed) (others : ∀ segment ∈ segments, Proper segment) :
    ∀ segment ∈ extendFirst token segments, Proper segment := by
  cases segments with
  | nil => simpa [extendFirst, Proper] using proper
  | cons first more =>
    have first := others first List.mem_cons_self
    refine List.forall_mem_cons.mpr ⟨List.forall_mem_cons.mpr ⟨proper, first⟩, ?_⟩
    exact fun segment member => others segment (List.mem_cons_of_mem _ member)

theorem proper_segments {separates : Token → Bool} {depth : Nat} {tokens : List Token}
    (proper : Proper tokens) : ∀ segment ∈ segments separates depth tokens, Proper segment := by
  fun_induction segments separates depth tokens with
  | case1 => simp [Proper]
  | case2 depth rest ih =>
    exact proper_extendFirst (proper _ List.mem_cons_self) (ih proper.tail)
  | case3 depth rest ih =>
    exact proper_extendFirst (proper _ List.mem_cons_self) (ih proper.tail)
  | case4 depth token rest _ _ _ ih =>
    exact List.forall_mem_cons.mpr ⟨by simp [Proper], ih proper.tail⟩
  | case5 depth token rest _ _ _ ih =>
    exact proper_extendFirst (proper _ List.mem_cons_self) (ih proper.tail)

/-- Phrases read from the segments of proper tokens are all of their kind, and there is one
for each segment. -/
theorem segments_give {α : Type} {kind : α → Prop} {phrase : List Token → Except Fault α}
    (gives : ∀ {tokens a}, Proper tokens → phrase tokens = .ok a → kind a)
    {separates : Token → Bool} {tokens : List Token} {items : List α} (proper : Proper tokens)
    (read : (segments separates 0 tokens).mapM phrase = .ok items) :
    items ≠ [] ∧ ∀ item ∈ items, kind item := by
  obtain ⟨each, only⟩ := mem_of_mapM_eq_ok read
  constructor
  · obtain ⟨first, more, shape⟩ := List.exists_cons_of_ne_nil (segments_ne_nil separates 0 tokens)
    obtain ⟨item, member, _⟩ := each first (by rw [shape]; exact List.mem_cons_self)
    exact List.ne_nil_of_mem member
  · intro item member
    obtain ⟨segment, inside, step⟩ := only item member
    exact gives (proper_segments proper segment inside) step

/-! ## Clauses -/

theorem proper_takeDistinct {tokens : List Token} (proper : Proper tokens) :
    Proper (takeDistinct tokens).2 := by
  unfold takeDistinct
  split
  · exact List.forall_mem_cons.mpr ⟨proper _ List.mem_cons_self, proper.tail.tail⟩
  · exact proper

theorem rowCount?_lt {digits : String} {n : Nat} (read : rowCount? digits = some n) :
    n < limitBound :=
  of_decide_eq_true (Option.filter_eq_some_iff.mp read).2

theorem takeLimit_gives :
    Gives (fun limit => ∀ n ∈ limit, n < limitBound) takeLimit := by
  intro tokens rest limit proper read
  unfold takeLimit at read
  split at read
  · cases read
    exact ⟨by simp, proper⟩
  · cases read
  · rename_i before digits after cut
    split at read
    · rename_i n counted
      cases read
      obtain ⟨front, back⟩ := proper_of_cutKeyword? proper cut
      refine ⟨fun m member => ?_, List.forall_mem_append.mpr ⟨front, back.tail⟩⟩
      cases member
      exact rowCount?_lt counted
    · cases read
  · cases read

/-- The label of an item names the item. -/
theorem ofLabel_label {item : Expression} (written : item.wellFormed = true)
    (notAll : item ≠ .all) : Expression.ofLabel item.label = item := by
  cases item with
  | all => exact absurd rfl notAll
  | column name =>
    have noParen : Text.splitFirst? '(' name.toList = none :=
      Text.splitFirst?_eq_none_iff.mpr (not_mem_of_isColumn written (by decide) (by decide))
    rw [Expression.ofLabel, Expression.label, noParen]
  | call function operand =>
    rw [Expression.wellFormed, Bool.and_eq_true] at written
    obtain ⟨known, named⟩ := Option.isSome_iff_exists.mp written.1
    rw [Expression.ofLabel, splitFirst?_label (not_mem_of_function named (by decide)) operand]
    simp

theorem sortKey_gives {tokens : List Token} {key : SortKey} (proper : Proper tokens)
    (read : sortKey tokens = .ok key) : isSortField key.1 = true := by
  obtain ⟨⟨item, left⟩, inner, read⟩ := bind_eq_ok read
  obtain ⟨written, _⟩ := expression_gives proper inner
  dsimp only at read
  split at read
  · cases read
  · rename_i notAll
    obtain ⟨⟨direction, left⟩, _, read⟩ := bind_eq_ok read
    obtain ⟨_, _, read⟩ := bind_eq_ok read
    cases read
    rw [isSortField, ofLabel_label written notAll, written, beq_self_eq_true, Bool.and_self]

theorem takeOrderBy_gives : Gives
    (fun orderBy => ∀ keys ∈ orderBy, keys ≠ [] ∧ ∀ key ∈ keys, isSortField key.1 = true)
    takeOrderBy := by
  intro tokens rest orderBy proper read
  unfold takeOrderBy at read
  split at read
  · cases read
    exact ⟨by simp, proper⟩
  · rename_i before pair cut
    obtain ⟨keys, inner, read⟩ := bind_eq_ok read
    cases read
    obtain ⟨front, back⟩ := proper_of_cutPair? proper cut
    refine ⟨fun found member => ?_, front⟩
    cases member
    exact segments_give sortKey_gives (back.mono (List.drop_subset _ _)) inner

theorem groupField_gives {tokens : List Token} {field : String} (proper : Proper tokens)
    (read : groupField tokens = .ok field) : isColumn field = true := by
  obtain ⟨⟨name, left⟩, inner, read⟩ := bind_eq_ok read
  obtain ⟨_, _, read⟩ := bind_eq_ok read
  cases read
  exact (column_gives proper inner).1

theorem takeGroupBy_gives : Gives
    (fun groupBy => ∀ fields ∈ groupBy, fields ≠ [] ∧ ∀ field ∈ fields, isColumn field = true)
    takeGroupBy := by
  intro tokens rest groupBy proper read
  unfold takeGroupBy at read
  split at read
  · cases read
    exact ⟨by simp, proper⟩
  · rename_i before pair cut
    obtain ⟨fields, inner, read⟩ := bind_eq_ok read
    cases read
    obtain ⟨front, back⟩ := proper_of_cutPair? proper cut
    refine ⟨fun found member => ?_, front⟩
    cases member
    exact segments_give groupField_gives (back.mono (List.drop_subset _ _)) inner

theorem condition_gives {tokens : List Token} {found : Condition} (proper : Proper tokens)
    (read : condition tokens = .ok found) : isColumn found.field = true := by
  unfold condition at read
  split at read
  · rename_i field sign rest inner
    obtain ⟨written, _⟩ := column_gives proper inner
    split at read
    · cases read
    · split at read
      · cases read
        exact written
      · cases read
  · cases read

theorem conditions_give {tokens : List Token} {found : List Condition} (proper : Proper tokens)
    (read : conditions tokens = .ok found) :
    ∀ condition ∈ found, isColumn condition.field = true := by
  unfold conditions at read
  split at read
  · cases read
  · exact (segments_give condition_gives proper read).2

theorem takeRestriction_gives : Gives
    (fun restriction =>
      (∀ condition ∈ restriction.conditions, isColumn condition.field = true) ∧
      ∀ fields ∈ restriction.groupBy,
        fields ≠ [] ∧ ∀ field ∈ fields, isColumn field = true)
    takeRestriction := by
  intro tokens rest restriction proper read
  unfold takeRestriction at read
  split at read
  · rename_i before tail cut
    obtain ⟨⟨groupBy, tail⟩, grouped, read⟩ := bind_eq_ok read
    obtain ⟨found, inner, read⟩ := bind_eq_ok read
    cases read
    obtain ⟨front, back⟩ := proper_of_cutKeyword? proper cut
    obtain ⟨fields, left⟩ := takeGroupBy_gives back grouped
    exact ⟨⟨conditions_give left inner, fields⟩, front⟩
  · obtain ⟨⟨groupBy, left⟩, grouped, read⟩ := bind_eq_ok read
    cases read
    obtain ⟨fields, left⟩ := takeGroupBy_gives proper grouped
    exact ⟨⟨by simp, fields⟩, left⟩

/-- A join that is read names its table and two qualified columns. -/
theorem join_gives {tokens : List Token} {found : Join} (proper : Proper tokens)
    (read : join tokens = .ok found) :
    isName found.table = true ∧ ∀ side ∈ [found.left, found.right],
      isColumn side = true ∧ '.' ∈ side.toList := by
  unfold join at read
  split at read
  · cases read
  · split at read
    · cases read
    · obtain ⟨_, joined, read⟩ := bind_eq_ok read
      obtain ⟨⟨table, _⟩, tableRead, read⟩ := bind_eq_ok read
      obtain ⟨_, on, read⟩ := bind_eq_ok read
      obtain ⟨⟨left, _⟩, leftRead, read⟩ := bind_eq_ok read
      obtain ⟨_, equal, read⟩ := bind_eq_ok read
      obtain ⟨⟨right, _⟩, rightRead, read⟩ := bind_eq_ok read
      obtain ⟨_, _, read⟩ := bind_eq_ok read
      cases read
      obtain ⟨tableNamed, proper⟩ := ident_gives (proper_of_expect proper.tail joined) tableRead
      obtain ⟨leftWritten, proper⟩ :=
        qualifiedColumn_gives (proper_of_expect proper on) leftRead
      obtain ⟨rightWritten, _⟩ :=
        qualifiedColumn_gives (proper_of_expect proper equal) rightRead
      exact ⟨tableNamed, by simpa using ⟨leftWritten, rightWritten⟩⟩

theorem takeJoin_gives : Gives
    (fun clause => ∀ join ∈ clause, isName join.table = true ∧
      ∀ side ∈ [join.left, join.right], isColumn side = true ∧ '.' ∈ side.toList)
    takeJoin := by
  intro tokens rest clause proper read
  unfold takeJoin at read
  dsimp only at read
  split at read
  · obtain ⟨_, same, read⟩ := bind_eq_ok read
    cases same
    split at read <;> cases read
    exact ⟨by simp, proper⟩
  · rename_i before pair cut
    obtain ⟨found, joinRead, read⟩ := bind_eq_ok read
    obtain ⟨_, same, read⟩ := bind_eq_ok read
    cases same
    split at read <;> cases read
    obtain ⟨front, back⟩ := proper_of_cutPair? proper cut
    refine ⟨fun other member => ?_, front⟩
    cases member
    exact join_gives back joinRead

end Clause

/-! ## Statements -/

open Phrase Clause

theorem Query.wellFormed_of_ofTokens {tokens : List Token} {query : Query}
    (proper : Proper tokens) (read : ofTokens tokens = .ok query) : query.WellFormed := by
  unfold ofTokens at read
  have proper := proper_takeDistinct proper
  obtain ⟨⟨limit, _⟩, limitRead, read⟩ := bind_eq_ok read
  obtain ⟨⟨orderBy, _⟩, orderRead, read⟩ := bind_eq_ok read
  obtain ⟨⟨restriction, _⟩, restrictionRead, read⟩ := bind_eq_ok read
  obtain ⟨⟨join, _⟩, joinRead, read⟩ := bind_eq_ok read
  obtain ⟨_, select, read⟩ := bind_eq_ok read
  obtain ⟨⟨fields, _⟩, fieldsRead, read⟩ := bind_eq_ok read
  obtain ⟨_, source, read⟩ := bind_eq_ok read
  obtain ⟨⟨table, _⟩, tableRead, read⟩ := bind_eq_ok read
  obtain ⟨_, _, read⟩ := bind_eq_ok read
  cases read
  obtain ⟨limit, proper⟩ := takeLimit_gives proper limitRead
  obtain ⟨orderBy, proper⟩ := takeOrderBy_gives proper orderRead
  obtain ⟨⟨conditions, groupBy⟩, proper⟩ := takeRestriction_gives proper restrictionRead
  obtain ⟨join, proper⟩ := takeJoin_gives proper joinRead
  obtain ⟨⟨someField, fields⟩, proper⟩ :=
    separated_gives expression_gives _ (proper_of_expect proper select) fieldsRead
  obtain ⟨table, _⟩ := ident_gives (proper_of_expect proper source) tableRead
  exact {
    someField, fields, table, conditions, groupBy, orderBy, limit
    joinTable := fun clause member => (join clause member).1
    joinSides := fun clause member => (join clause member).2
    aggregatesAll := rfl }

/-- An insert statement that is read is well formed, and its columns are bare. -/
theorem Insertion.wellFormed_of_ofTokens {tokens : List Token} {insertion : Insertion}
    (proper : Proper tokens) (read : ofTokens tokens = .ok insertion) :
    insertion.WellFormed ∧ ∀ column ∈ insertion.columns, isName column = true := by
  obtain ⟨_, insert, read⟩ := bind_eq_ok read
  obtain ⟨_, into, read⟩ := bind_eq_ok read
  obtain ⟨⟨table, _⟩, tableRead, read⟩ := bind_eq_ok read
  obtain ⟨⟨columns, _⟩, columnsRead, read⟩ := bind_eq_ok read
  obtain ⟨_, word, read⟩ := bind_eq_ok read
  obtain ⟨⟨values, _⟩, valuesRead, read⟩ := bind_eq_ok read
  obtain ⟨_, _, read⟩ := bind_eq_ok read
  split at read
  · rename_i sameLength
    cases read
    have proper := proper_of_expect (proper_of_expect proper insert) into
    obtain ⟨table, proper⟩ := ident_gives proper tableRead
    obtain ⟨⟨someColumn, columns⟩, proper⟩ := parenthesized_gives ident_gives _ proper columnsRead
    obtain ⟨⟨_, values⟩, _⟩ :=
      parenthesized_gives constant_gives _ (proper_of_expect proper word) valuesRead
    have written := fun column member => isColumn_of_isName (columns column member)
    exact ⟨⟨table, someColumn, written, values, sameLength⟩, columns⟩
  · cases read

theorem Deletion.wellFormed_of_ofTokens {tokens : List Token} {deletion : Deletion}
    (proper : Proper tokens) (read : ofTokens tokens = .ok deletion) : deletion.WellFormed := by
  obtain ⟨_, delete, read⟩ := bind_eq_ok read
  obtain ⟨_, source, read⟩ := bind_eq_ok read
  obtain ⟨⟨table, left⟩, tableRead, read⟩ := bind_eq_ok read
  have proper := proper_of_expect (proper_of_expect proper delete) source
  obtain ⟨table, proper⟩ := ident_gives proper tableRead
  dsimp only at read
  split at read
  · obtain ⟨conditions, inner, read⟩ := bind_eq_ok read
    cases read
    exact ⟨table, conditions_give proper.tail inner⟩
  · obtain ⟨_, _, read⟩ := bind_eq_ok read
    cases read
    exact ⟨table, by simp⟩

theorem proper_dropSemicolon {tokens : List Token} (proper : Proper tokens) :
    Proper (dropSemicolon tokens) := by
  unfold dropSemicolon
  split
  · exact proper.mono (List.dropLast_subset _)
  · exact proper

theorem proper_of_ofText {sql : String} {tokens : List Token}
    (scanned : Token.ofText sql = .ok tokens) : Proper tokens := by
  unfold Token.ofText at scanned
  split at scanned
  · rename_i found
    cases scanned
    exact Token.wellFormed_of_scan? found
  · cases scanned

/-- What a statement that is read looks like: it can be written, and the columns of an insert
are bare. -/
structure Statement.Parsed (statement : Statement) : Prop where
  wellFormed : statement.WellFormed
  bareColumns : ∀ insertion, statement = .insert insertion →
    ∀ column ∈ insertion.columns, isName column = true

/-- Every statement that is read from a text is well formed. -/
theorem Statement.parsed_of_ofText {sql : String} {statement : Statement}
    (read : ofText sql = .ok statement) : statement.Parsed := by
  obtain ⟨tokens, scanned, read⟩ := bind_eq_ok read
  have proper := proper_dropSemicolon (proper_of_ofText scanned)
  unfold ofTokens at read
  split at read
  · cases read
  · rename_i shape
    rw [shape] at proper
    obtain ⟨query, inner, rfl⟩ := map_eq_ok read
    exact ⟨Query.wellFormed_of_ofTokens proper inner, nofun⟩
  · rename_i shape
    rw [shape] at proper
    obtain ⟨insertion, inner, rfl⟩ := map_eq_ok read
    obtain ⟨wellFormed, bare⟩ := Insertion.wellFormed_of_ofTokens proper inner
    refine ⟨wellFormed, fun other same => ?_⟩
    cases same
    exact bare
  · rename_i shape
    rw [shape] at proper
    obtain ⟨deletion, inner, rfl⟩ := map_eq_ok read
    exact ⟨Deletion.wellFormed_of_ofTokens proper inner, nofun⟩
  · cases read

end TableQuery
