import TableQuery.Proofs.ClauseKeywords
import TableQuery.Proofs.Outcome
import TableQuery.Proofs.ReadPhrases
import TableQuery.Proofs.RenderedTokens

/-!
Reading a statement back from its text.

The reader of select statements does not go from clause to clause: it searches the
whole token list for the keywords of one clause after the other, from the back, and
cuts there. The clauses in front of a cut have other keywords (`KeywordsIn`), so no
search stops inside one of them.
-/

namespace TableQuery

open Phrase Clause

/-! ## Clauses -/

/-- What is written piece by piece is read back piece by piece. -/
theorem mapM_map_ok {α β : Type} {write : α → β} {read : β → Except Fault α} {xs : List α}
    (back : ∀ x ∈ xs, read (write x) = .ok x) : (xs.map write).mapM read = .ok xs := by
  have whole : xs.mapM (fun x => read (write x)) = .ok (xs.map id) := mapM_eq_ok back
  rw [List.mapM_map]
  simpa [Function.comp_def] using whole

theorem columnTokens_plain (column : String) :
    ∀ token ∈ columnTokens column, (∃ name, token = .ident name) ∨ token = .period := by
  unfold columnTokens
  split <;> simp

theorem solid_column {separates : Token → Bool} (column : String)
    (identJoins : ∀ name, separates (.ident name) = false) (periodJoins : separates .period = false) :
    Solid separates (columnTokens column) := by
  refine Solid.of_forall fun token member => ?_
  rcases columnTokens_plain column token member with ⟨name, rfl⟩ | rfl
  · exact ⟨by simp, by simp, identJoins name⟩
  · exact ⟨by simp, by simp, periodJoins⟩

theorem solid_expression (item : Expression) : Solid (· == .comma) item.tokens := by
  cases item with
  | all => exact Solid.of_forall (by simp [Expression.tokens])
  | column name => exact solid_column name (fun _ => rfl) rfl
  | call function operand =>
    have inside : ∀ token ∈ (if operand = "*" then [.asterisk] else columnTokens operand),
        token ≠ .openParen ∧ token ≠ .closeParen := by
      split
      · simp
      · intro token member
        rcases columnTokens_plain operand token member with ⟨name, rfl⟩ | rfl <;>
          simp
    have front : Solid (· == .comma) [.ident function] := Solid.of_forall (by simp)
    exact front.append (Solid.inParens inside)

theorem solid_condition (mark : Char) (condition : Condition) :
    Solid isConnective (condition.wording mark).tokens := by
  have shape : (condition.wording mark).tokens =
      columnTokens condition.field ++ [condition.operator.token, .text condition.literal] := by
    simp [Condition.wording, Wording.spaced_tokens, partTokens, Wording.column, Wording.quoted]
  rw [shape]
  refine (solid_column condition.field (fun _ => rfl) rfl).append (Solid.of_forall ?_)
  cases condition.operator <;> simp [Operator.token, isConnective]

/-- The parts of a list between commas are found again. -/
theorem segments_listed {α : Type} {wording : α → Wording} {items : List α}
    (nonempty : items ≠ []) (solid : ∀ item ∈ items, Solid (· == .comma) (wording item).tokens) :
    segments (· == .comma) 0 (Wording.listed (items.map wording)).tokens =
      items.map fun item => (wording item).tokens := by
  have found : segments (· == .comma) 0
      ([Token.comma].intercalate (items.map fun item => (wording item).tokens)) =
        items.map fun item => (wording item).tokens :=
    segments_intercalate rfl (by simp) (by simp) (by simpa using nonempty) (by simpa using solid)
  simpa [Wording.listed, Wording.joined, Function.comp_def] using found

section Steps

variable {before : List Token}

theorem takeLimit_limitParts {limit : Option Nat} (absent : .keyword .limit ∉ before)
    (bound : ∀ n ∈ limit, n < limitBound) :
    takeLimit (before ++ partTokens (limitParts limit)) = .ok (limit, before) := by
  cases limit with
  | none =>
    rw [limitParts, partTokens, List.flatMap_nil, List.append_nil, takeLimit_of_not_mem absent]
  | some n =>
    have shape : partTokens (limitParts (some n)) =
        [.keyword .limit, .number (String.ofList (Text.natText n))] := rfl
    have count : rowCount? (String.ofList (Text.natText n)) = some n := by
      rw [rowCount?, String.toList_ofList, Text.natural?_natText]
      simpa using bound n rfl
    rw [shape, takeLimit, cutKeyword?_append absent]
    simp [count]

theorem takeOrderBy_orderParts {orderBy : Option (List SortKey)}
    (absent : .keyword .order ∉ before)
    (written : ∀ keys ∈ orderBy, keys ≠ [] ∧ ∀ key ∈ keys, isSortField key.1 = true) :
    takeOrderBy (before ++ partTokens (orderParts orderBy)) = .ok (orderBy, before) := by
  cases orderBy with
  | none =>
    rw [orderParts, partTokens, List.flatMap_nil, List.append_nil,
      takeOrderBy_of_not_pair (not_pair_of_not_mem absent)]
  | some keys =>
    obtain ⟨nonempty, fields⟩ := written keys rfl
    have shape : partTokens (orderParts (some keys)) =
        .keyword .order :: .keyword .by :: (Wording.listed (keys.map SortKey.wording)).tokens := by
      simp [orderParts, partTokens, Wording.word]
    have solid : ∀ key ∈ keys, Solid (· == .comma) (SortKey.wording key).tokens := by
      intro key _
      rw [SortKey.wording, Wording.spaced_tokens]
      have tail : Solid (· == .comma) [.keyword key.2.keyword] := Solid.of_forall (by simp)
      simpa [partTokens, Expression.wording, Wording.word] using
        (solid_expression (Expression.ofLabel key.1)).append tail
    have read : (keys.map fun key => (SortKey.wording key).tokens).mapM sortKey = .ok keys :=
      mapM_map_ok fun key member => sortKey_tokens (fields key member)
    rw [shape, takeOrderBy, cutPair?_append (by simpa using absent) rfl]
    simp only [List.drop_succ_cons, List.drop_zero, segments_listed nonempty solid, read]
    rfl

theorem takeGroupBy_groupParts {groupBy : Option (List String)}
    (absent : .keyword .group ∉ before) (nonempty : ∀ fields ∈ groupBy, fields ≠ []) :
    takeGroupBy (before ++ partTokens (groupParts groupBy)) = .ok (groupBy, before) := by
  cases groupBy with
  | none =>
    rw [groupParts, partTokens, List.flatMap_nil, List.append_nil,
      takeGroupBy_of_not_pair (not_pair_of_not_mem absent)]
  | some fields =>
    have shape : partTokens (groupParts (some fields)) =
        .keyword .group :: .keyword .by :: (Wording.listed (fields.map .column)).tokens := by
      simp [groupParts, partTokens, Wording.word]
    have solid : ∀ field ∈ fields, Solid (· == .comma) (Wording.column field).tokens :=
      fun field _ => solid_column field (fun _ => rfl) rfl
    have read : (fields.map fun field => (Wording.column field).tokens).mapM groupField =
        .ok fields := mapM_map_ok fun field _ => groupField_tokens field
    rw [shape, takeGroupBy, cutPair?_append (by simpa using absent) rfl]
    simp only [List.drop_succ_cons, List.drop_zero, segments_listed (nonempty fields rfl) solid,
      read]
    rfl

theorem conditions_connected (mark : Char) {written : List Condition} (nonempty : written ≠ []) :
    Clause.conditions (Wording.connected (written.map (Condition.wording mark))).tokens =
      .ok written := by
  have found : segments isConnective 0 ([Token.keyword .and].intercalate
      (written.map fun condition => (condition.wording mark).tokens)) =
        written.map fun condition => (condition.wording mark).tokens :=
    segments_intercalate rfl (by simp) (by simp) (by simpa using nonempty) (by
      intro part member
      obtain ⟨condition, _, rfl⟩ := List.mem_map.mp member
      exact solid_condition mark condition)
  have read : (written.map fun condition => (condition.wording mark).tokens).mapM condition =
      .ok written := mapM_map_ok fun condition _ => condition_tokens mark condition
  have shape : (Wording.connected (written.map (Condition.wording mark))).tokens =
      [Token.keyword .and].intercalate
        (written.map fun condition => (condition.wording mark).tokens) := by
    simp [Wording.connected, Wording.joined, Function.comp_def]
  have someToken : (Wording.connected (written.map (Condition.wording mark))).tokens ≠ [] := by
    -- No tokens are one empty segment, and that is no condition.
    intro empty
    rw [← shape, empty] at found
    have emptyPart : [] ∈ written.map fun condition => (condition.wording mark).tokens :=
      found ▸ List.mem_singleton.mpr rfl
    obtain ⟨condition, _, noTokens⟩ := List.mem_map.mp emptyPart
    have readNothing := condition_tokens mark condition
    rw [noTokens] at readNothing
    cases readNothing
  rw [Clause.conditions, if_neg someToken, shape, found, read]

theorem takeRestriction_parts {mark : Char} {tests : List Condition}
    {groupBy : Option (List String)} (noWhere : .keyword .where ∉ before)
    (noGroup : .keyword .group ∉ before) (nonempty : ∀ fields ∈ groupBy, fields ≠ []) :
    takeRestriction
        (before ++ (partTokens (whereParts mark tests) ++ partTokens (groupParts groupBy))) =
      .ok (⟨groupBy, tests⟩, before) := by
  by_cases none : tests = []
  · subst none
    have absent : .keyword .where ∉ before ++ partTokens (groupParts groupBy) := by
      rw [List.mem_append, not_or]
      exact ⟨noWhere, (groupParts_keywords groupBy).not_mem (by decide)⟩
    rw [whereParts, if_pos rfl, partTokens, List.flatMap_nil, List.nil_append, takeRestriction,
      cutKeyword?_eq_none absent]
    simp only [takeGroupBy_groupParts noGroup nonempty]
    rfl
  · have shape : partTokens (whereParts mark tests) = .keyword .where ::
        (Wording.connected (tests.map (Condition.wording mark))).tokens := by
      simp [whereParts, none, partTokens, Wording.word]
    have noGroupInside : .keyword .group ∉
        (Wording.connected (tests.map (Condition.wording mark))).tokens := by
      have outside := (whereParts_keywords mark tests).not_mem (by decide : Keyword.group ∉ _)
      rw [shape] at outside
      exact fun member => outside (List.mem_cons_of_mem _ member)
    rw [shape, List.cons_append, takeRestriction, cutKeyword?_append noWhere]
    simp only [takeGroupBy_groupParts noGroupInside nonempty, bind, Except.bind,
      conditions_connected mark none]
    rfl

theorem join_joinParts {written : Join}
    (sides : ∀ side ∈ [written.left, written.right], '.' ∈ side.toList) :
    Clause.join (partTokens (joinParts (some written))) = .ok written := by
  have left := sides written.left (by simp)
  have right := sides written.right (by simp)
  have shape : partTokens (joinParts (some written)) =
      .keyword written.kind.keyword :: .keyword .join :: .ident written.table :: .keyword .on ::
        (columnTokens written.left ++ .equal :: columnTokens written.right) := by
    simp [joinParts, partTokens, Wording.word, Wording.name, Wording.column]
  have kind : joinKind? (.keyword written.kind.keyword) = some written.kind := by
    cases written.kind <;> rfl
  have leftRead := qualifiedColumn_columnTokens left
    (.equal :: columnTokens written.right) (Token.forall_head?_cons (by simp) _)
  have rightRead := qualifiedColumn_columnTokens right [] (by simp)
  rw [List.append_nil] at rightRead
  rw [shape, Clause.join, kind]
  simp [expect, ident, bind, Except.bind, leftRead, rightRead, pure, Except.pure, finish]

theorem takeJoin_joinParts {clause : Option Join}
    (noKind : ∀ k ∈ [Keyword.inner, .left, .right], .keyword k ∉ before)
    (noJoin : .keyword .join ∉ before)
    (sides : ∀ join ∈ clause, ∀ side ∈ [join.left, join.right], '.' ∈ side.toList) :
    takeJoin (before ++ partTokens (joinParts clause)) = .ok (clause, before) := by
  have absent : ∀ k, (k == .inner || k == .left || k == .right) = true → .keyword k ∉ before := by
    intro k isKind
    refine noKind k ?_
    simpa [or_assoc] using isKind
  cases clause with
  | none =>
    rw [joinParts, partTokens, List.flatMap_nil, List.append_nil, takeJoin,
      cutPair?_eq_none_of_not_mem absent]
    simp [bind, Except.bind, cutKeyword?_eq_none noJoin, pure, Except.pure]
  | some join =>
    have read := join_joinParts (sides join rfl)
    obtain ⟨more, shape⟩ : ∃ more, partTokens (joinParts (some join)) =
        .keyword join.kind.keyword :: .keyword .join :: more := by
      simp [joinParts, partTokens, Wording.word]
    have isKind : (join.kind.keyword == .inner || join.kind.keyword == .left ||
        join.kind.keyword == .right) = true := by
      cases join.kind <;> rfl
    rw [shape] at read ⊢
    rw [takeJoin, cutPair?_append absent isKind]
    simp [bind, Except.bind, read, cutKeyword?_eq_none noJoin, pure, Except.pure]

end Steps

/-! ## Statements -/

section Statements

variable {mark : Char}

theorem takeDistinct_cons {first second : Token} (different : second ≠ .keyword .distinct)
    (rest : List Token) : takeDistinct (first :: second :: rest) = (false, first :: second :: rest) := by
  unfold takeDistinct
  split
  · rename_i same
    cases same
    exact absurd rfl different
  · rfl

theorem fieldTokens_ne_nil {items : List Expression} (nonempty : items ≠ []) :
    (Wording.listed (items.map Expression.wording)).tokens ≠ [] := by
  obtain ⟨item, rest, rfl⟩ := List.exists_cons_of_ne_nil nonempty
  have first : item.tokens ≠ [] := by
    cases item with
    | all => exact List.cons_ne_nil _ _
    | column name =>
      rw [Expression.tokens, columnTokens]
      split <;> exact List.cons_ne_nil _ _
    | call function operand => exact List.cons_ne_nil _ _
  cases rest <;> simp [Wording.listed, Wording.joined, Expression.wording, first]

/-! ### The tokens that are left before each cut -/

namespace Query

/-- The select list with the table. -/
def headTokens (query : Query) : List Token :=
  .keyword .select :: (Wording.listed (query.fields.map Expression.wording)).tokens ++
    [.keyword .from, .ident query.table]

def joinedTokens (query : Query) : List Token :=
  query.headTokens ++ partTokens (joinParts query.join)

def restrictedTokens (mark : Char) (query : Query) : List Token :=
  query.joinedTokens ++
    (partTokens (whereParts mark query.conditions) ++ partTokens (groupParts query.groupBy))

def orderedTokens (mark : Char) (query : Query) : List Token :=
  query.restrictedTokens mark ++ partTokens (orderParts query.orderBy)

theorem headTokens_keywords (query : Query) : KeywordsIn [.select, .from] query.headTokens := by
  have first : KeywordsIn [.select, .from] [.keyword .select] := KeywordsIn.word (by decide)
  have source : KeywordsIn [.select, .from] [.keyword .from, .ident query.table] := by
    simp [KeywordsIn]
  exact first.append ((KeywordsIn.expressions query.fields).append source)

theorem joinedTokens_keywords (query : Query) :
    KeywordsIn [.select, .from, .inner, .left, .right, .join, .on] query.joinedTokens :=
  (query.headTokens_keywords.mono (by decide)).append
    ((joinParts_keywords query.join).mono (by decide))

theorem restrictedTokens_keywords (query : Query) :
    KeywordsIn [.select, .from, .inner, .left, .right, .join, .on, .where, .and, .like, .group, .by]
      (query.restrictedTokens mark) :=
  (query.joinedTokens_keywords.mono (by decide)).append
    (((whereParts_keywords mark query.conditions).mono (by decide)).append
      ((groupParts_keywords query.groupBy).mono (by decide)))

theorem orderedTokens_keywords (query : Query) :
    KeywordsIn [.select, .from, .inner, .left, .right, .join, .on, .where, .and, .like, .group, .by,
      .order, .asc, .desc] (query.orderedTokens mark) :=
  (query.restrictedTokens_keywords.mono (by decide)).append
    ((orderParts_keywords query.orderBy).mono (by decide))

theorem takeDistinct_wording {query : Query} (someField : query.fields ≠ []) :
    takeDistinct (query.wording mark).tokens =
      (query.distinct, query.orderedTokens mark ++ partTokens (limitParts query.limit)) := by
  have shape : (query.wording mark).tokens =
      .keyword .select :: ((if query.distinct then [.keyword .distinct] else []) ++
        ((Wording.listed (query.fields.map Expression.wording)).tokens ++
        (.keyword .from :: .ident query.table :: (partTokens (joinParts query.join) ++
        (partTokens (whereParts mark query.conditions) ++ (partTokens (groupParts query.groupBy) ++
        (partTokens (orderParts query.orderBy) ++ partTokens (limitParts query.limit)))))))) := by
    rw [wording, Wording.spaced_tokens]
    simp only [partTokens_append]
    cases query.distinct <;> simp [partTokens, Wording.word, Wording.name]
  rw [shape, orderedTokens, restrictedTokens, joinedTokens, headTokens]
  cases query.distinct with
  | true => simp [takeDistinct]
  | false =>
    obtain ⟨token, later, fields⟩ := List.exists_cons_of_ne_nil (fieldTokens_ne_nil someField)
    have different : token ≠ .keyword .distinct := by
      rintro rfl
      have absent : .keyword .distinct ∉
          (Wording.listed (query.fields.map Expression.wording)).tokens :=
        (KeywordsIn.expressions query.fields).not_mem List.not_mem_nil
      exact absent (fields ▸ List.mem_cons_self)
    simp only [fields, Bool.false_eq_true, if_false, List.nil_append, List.cons_append,
      takeDistinct_cons different]
    simp

theorem ofTokens_wording {query : Query} (wellFormed : query.WellFormed) :
    Query.ofTokens (query.wording mark).tokens = .ok query := by
  have limitRead : takeLimit (query.orderedTokens mark ++ partTokens (limitParts query.limit)) =
      .ok (query.limit, query.orderedTokens mark) :=
    takeLimit_limitParts (query.orderedTokens_keywords.not_mem (by decide)) wellFormed.limit
  have orderRead : takeOrderBy (query.orderedTokens mark) =
      .ok (query.orderBy, query.restrictedTokens mark) :=
    takeOrderBy_orderParts (query.restrictedTokens_keywords.not_mem (by decide)) wellFormed.orderBy
  have restrictionRead : takeRestriction (query.restrictedTokens mark) =
      .ok (⟨query.groupBy, query.conditions⟩, query.joinedTokens) :=
    takeRestriction_parts (query.joinedTokens_keywords.not_mem (by decide))
      (query.joinedTokens_keywords.not_mem (by decide))
      fun fields given => (wellFormed.groupBy fields given).1
  have joinRead : takeJoin query.joinedTokens = .ok (query.join, query.headTokens) := by
    refine takeJoin_joinParts (fun k isKind => ?_)
      (query.headTokens_keywords.not_mem (by decide))
      (fun join given side isSide => (wellFormed.joinSides join given side isSide).2)
    simp only [List.mem_cons, List.not_mem_nil, or_false] at isKind
    rcases isKind with rfl | rfl | rfl <;> exact query.headTokens_keywords.not_mem (by decide)
  have fieldsRead : separated expression expression_consumes
      ((Wording.listed (query.fields.map Expression.wording)).tokens ++
        [.keyword .from, .ident query.table]) =
      .ok (query.fields, [.keyword .from, .ident query.table]) := by
    refine separated_listed (fun item member later stop => ?_) wellFormed.someField ?_
      (by simp)
    · exact expression_tokens (wellFormed.fields item member) stop
    · exact EndsPhrase.cons (by simp) (by simp) _
  rw [Query.ofTokens, takeDistinct_wording wellFormed.someField]
  simp only [limitRead, orderRead, restrictionRead, joinRead, bind, Except.bind]
  rw [headTokens]
  simp only [List.cons_append, expect, if_true, fieldsRead, ident, finish, pure, Except.pure,
    ← wellFormed.aggregatesAll]

end Query

/-! ### Insert and delete statements -/

/-- Whether an insert statement names bare columns only. -/
def Insertion.bareColumns (insertion : Insertion) : Bool :=
  insertion.columns.all isName

theorem Insertion.wording_tokens (insertion : Insertion) :
    (insertion.wording mark).tokens =
      .keyword .insert :: .keyword .into :: .ident insertion.table ::
        ((Wording.inParens (.listed (insertion.columns.map .column))).tokens ++
        (.keyword .values ::
          ((Wording.inParens (.listed (insertion.values.map (Constant.wording mark)))).tokens ++
            []))) := by
  rw [Insertion.wording, Wording.spaced_tokens]
  simp [partTokens, Wording.word, Wording.name]

theorem Insertion.ofTokens_wording {insertion : Insertion} (wellFormed : insertion.WellFormed)
    (bare : insertion.bareColumns = true) :
    Insertion.ofTokens (insertion.wording mark).tokens = .ok insertion := by
  rw [Insertion.bareColumns, List.all_eq_true] at bare
  have someValue : insertion.values ≠ [] := by
    intro none
    have same := wellFormed.sameLength
    rw [none, List.length_nil, List.length_eq_zero_iff] at same
    exact wellFormed.someColumn same
  have columnsRead (rest : List Token) : parenthesized ident ident_consumes
      ((Wording.inParens (.listed (insertion.columns.map .column))).tokens ++ rest) =
        .ok (insertion.columns, rest) :=
    parenthesized_listed (fun column member later _ => ident_column (bare column member) later)
      wellFormed.someColumn
  have valuesRead : parenthesized constant constant_consumes
      ((Wording.inParens (.listed (insertion.values.map (Constant.wording mark)))).tokens ++ []) =
        .ok (insertion.values, []) :=
    parenthesized_listed
      (fun value member later _ => constant_tokens (wellFormed.values value member) later)
      someValue
  rw [Insertion.ofTokens, Insertion.wording_tokens]
  simp only [expect, if_true, ident, columnsRead, valuesRead, finish, bind, Except.bind, pure,
    Except.pure, wellFormed.sameLength]

theorem Insertion.ofTokens_qualified {insertion : Insertion} (wellFormed : insertion.WellFormed)
    (notBare : insertion.bareColumns = false) :
    Insertion.ofTokens (insertion.wording mark).tokens = .error (.parse (.unexpected .period)) := by
  rw [Insertion.bareColumns, List.all_eq_false] at notBare
  obtain ⟨column, member, notName⟩ := notBare
  have columnsRead (rest : List Token) : parenthesized ident ident_consumes
      ((Wording.inParens (.listed (insertion.columns.map .column))).tokens ++ rest) =
        .error (.parse (.unexpected .period)) :=
    parenthesized_ident_qualified wellFormed.columns ⟨column, member, by simpa using notName⟩ rest
  rw [Insertion.ofTokens, Insertion.wording_tokens]
  simp only [expect, if_true, ident, columnsRead, bind, Except.bind]

theorem Deletion.ofTokens_wording (deletion : Deletion) :
    Deletion.ofTokens (deletion.wording mark).tokens = .ok deletion := by
  have shape : (deletion.wording mark).tokens =
      .keyword .delete :: .keyword .from :: .ident deletion.table ::
        partTokens (whereParts mark deletion.conditions) := by
    rw [Deletion.wording, Wording.spaced_tokens]
    simp [partTokens, Wording.word, Wording.name]
  rw [Deletion.ofTokens, shape]
  by_cases none : deletion.conditions = []
  · have noTokens : partTokens (whereParts mark deletion.conditions) = [] := by
      rw [whereParts, if_pos none]
      rfl
    rw [noTokens]
    cases deletion
    cases none
    rfl
  · have tests : partTokens (whereParts mark deletion.conditions) = .keyword .where ::
        (Wording.connected (deletion.conditions.map (Condition.wording mark))).tokens := by
      simp [whereParts, none, partTokens, Wording.word]
    rw [tests]
    simp only [expect, if_true, ident, conditions_connected mark none, bind, Except.bind, pure,
      Except.pure]

end Statements

end TableQuery
