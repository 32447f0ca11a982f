import TableQuery.Proofs.Cutting
import TableQuery.Proofs.OperatorTokens

/-!
The grammar of select statements, and what the reader takes for one.

`Grammar.Select` says which tokens spell a select statement: the clauses in one order,
each of them at most once, and nothing between them. It does not speak of readers. A
reader takes from the head of the tokens what its form has (`Phrase.Takes`), or cuts a
clause off by its keywords. Every clause but the limit reaches to the end of the tokens
that are left, so what is cut off is put together again in the one order. The limit is cut
from wherever it stands, and what stood around it closes up: with the limit moved behind
the other clauses the tokens spell the statement (`Query.ofText_select`).
-/

namespace TableQuery

open Phrase Clause

/-! ## The grammar -/

namespace Grammar

/-- A column: a name, or two names with a dot. -/
inductive Column : String → List Token → Prop
  | bare (name : String) : Column name [.ident name]
  | qualified (table name : String) :
    Column (TableQuery.qualified table name) [.ident table, .period, .ident name]

/-- The operand of an aggregate function. -/
inductive Operand : String → List Token → Prop
  | all : Operand "*" [.asterisk]
  | column {name : String} {tokens : List Token} (written : Column name tokens) :
    Operand name tokens

/-- An item of a select list. -/
inductive Item : Expression → List Token → Prop
  | all : Item .all [.asterisk]
  | column {name : String} {tokens : List Token} (written : Column name tokens) :
    Item (.column name) tokens
  | call {function operand : String} {tokens : List Token}
    (known : (AggregateFunction.ofName? function).isSome = true)
    (written : Operand operand tokens) :
    Item (.call function operand) (.ident function :: .openParen :: (tokens ++ [.closeParen]))

/-- A literal: a quoted text, a number with an optional minus, or a bare word, which may be a
reserved one. -/
inductive Literal : String → List Token → Prop
  | text (s : String) : Literal s [.text s]
  | number (digits : String) : Literal digits [.number digits]
  | negative (digits : String) : Literal ("-" ++ digits) [.minus, .number digits]
  | name (name : String) : Literal name [.ident name]
  | word (k : Keyword) : Literal k.word [.keyword k]

/-- A condition: a column, an operator and a literal. -/
inductive Test : Condition → List Token → Prop
  | mk {field value : String} {fieldTokens valueTokens : List Token} (operator : Operator)
    (column : Column field fieldTokens) (literal : Literal value valueTokens) :
    Test ⟨field, operator, value⟩ (fieldTokens ++ operator.token :: valueTokens)

/-- The direction of a sort key; without one it ascends. -/
inductive Order : Direction → List Token → Prop
  | absent : Order .asc []
  | present (direction : Direction) : Order direction [.keyword direction.keyword]

/-- A sort key: a column or an aggregate, and its direction. -/
inductive Key : SortKey → List Token → Prop
  | mk {item : Expression} {direction : Direction} {itemTokens order : List Token}
    (notAll : item ≠ .all) (written : Item item itemTokens) (ordered : Order direction order) :
    Key (item.label, direction) (itemTokens ++ order)

/-- Phrases, at least one, with a separator between any two of them. -/
inductive Listed {α : Type} (separates : Token → Bool) (form : α → List Token → Prop) :
    List α → List Token → Prop
  | one {a : α} {tokens : List Token} (first : form a tokens) : Listed separates form [a] tokens
  | more {a : α} {as : List α} {front rest : List Token} {separator : Token}
    (first : form a front) (between : separates separator = true)
    (later : Listed separates form as rest) :
    Listed separates form (a :: as) (front ++ separator :: rest)

/-- The word behind `SELECT` that drops repeated rows. -/
def distinctWord (distinct : Bool) : List Token :=
  if distinct then [.keyword .distinct] else []

/-- A join on the equality of two qualified columns. -/
inductive JoinClause : Option Join → List Token → Prop
  | absent : JoinClause none []
  | present (kind : JoinKind) (table leftTable leftName rightTable rightName : String) :
    JoinClause
      (some ⟨kind, table, qualified leftTable leftName, qualified rightTable rightName⟩)
      [.keyword kind.keyword, .keyword .join, .ident table, .keyword .on,
        .ident leftTable, .period, .ident leftName, .equal,
        .ident rightTable, .period, .ident rightName]

/-- The conditions, with `AND` and `OR` between them. -/
inductive WhereClause : List Condition → List Token → Prop
  | absent : WhereClause [] []
  | present {conditions : List Condition} {tokens : List Token}
    (listed : Listed isConnective Test conditions tokens) :
    WhereClause conditions (.keyword .where :: tokens)

/-- The group fields. -/
inductive GroupClause : Option (List String) → List Token → Prop
  | absent : GroupClause none []
  | present {fields : List String} {tokens : List Token}
    (listed : Listed (· == .comma) Column fields tokens) :
    GroupClause (some fields) (.keyword .group :: .keyword .by :: tokens)

/-- The sort keys. -/
inductive OrderClause : Option (List SortKey) → List Token → Prop
  | absent : OrderClause none []
  | present {keys : List SortKey} {tokens : List Token}
    (listed : Listed (· == .comma) Key keys tokens) :
    OrderClause (some keys) (.keyword .order :: .keyword .by :: tokens)

/-- The limit of the rows. -/
inductive LimitClause : Option Nat → List Token → Prop
  | absent : LimitClause none []
  | present {n : Nat} {digits : String} (counted : rowCount? digits = some n) :
    LimitClause (some n) [.keyword .limit, .number digits]

/-- A select statement: its clauses in their order, and nothing else. -/
inductive Select (query : Query) : List Token → Prop
  | mk {fields join conditions groupBy orderBy limit : List Token}
    (fieldsListed : Listed (· == .comma) Item query.fields fields)
    (joinClause : JoinClause query.join join)
    (whereClause : WhereClause query.conditions conditions)
    (groupClause : GroupClause query.groupBy groupBy)
    (orderClause : OrderClause query.orderBy orderBy)
    (limitClause : LimitClause query.limit limit) :
    Select query (.keyword .select :: (distinctWord query.distinct ++ fields ++
      .keyword .from :: .ident query.table ::
        (join ++ conditions ++ groupBy ++ orderBy ++ limit)))

end Grammar

open Grammar

/-! ## Phrases -/

namespace Phrase

/-- A reader that takes from the head of the tokens those of its form. -/
def Takes {α : Type} (form : α → List Token → Prop)
    (phrase : List Token → Except Fault (α × List Token)) : Prop :=
  ∀ {tokens rest : List Token} {a : α}, phrase tokens = .ok (a, rest) →
    ∃ front, tokens = front ++ rest ∧ form a front

theorem finish_eq_ok {tokens : List Token} {done : Unit} (read : finish tokens = .ok done) :
    tokens = [] := by
  cases tokens with
  | nil => rfl
  | cons token rest => cases read

theorem expect_eq_ok {expected : Token} {tokens rest : List Token}
    (read : expect expected tokens = .ok rest) : tokens = expected :: rest := by
  unfold expect at read
  split at read
  · cases read
  · split at read
    · rename_i same
      rw [same, Except.ok.inj read]
    · cases read

theorem ident_eq_ok {tokens rest : List Token} {name : String}
    (read : ident tokens = .ok (name, rest)) : tokens = .ident name :: rest := by
  unfold ident at read
  split at read <;> cases read
  rfl

theorem columnEnd_eq_ok {first name : String} {tokens rest : List Token}
    (read : columnEnd first tokens = .ok (name, rest)) :
    ∃ front, tokens = front ++ rest ∧ Column name (.ident first :: front) := by
  unfold columnEnd at read
  split at read
  · obtain ⟨⟨second, left⟩, inner, read⟩ := bind_eq_ok read
    cases read
    rw [ident_eq_ok inner]
    exact ⟨[.period, .ident second], rfl, .qualified first second⟩
  · cases read
    exact ⟨[], rfl, .bare first⟩

theorem column_takes : Takes Column column := by
  intro tokens rest name read
  obtain ⟨⟨first, left⟩, inner, read⟩ := bind_eq_ok read
  obtain ⟨front, rfl, written⟩ := columnEnd_eq_ok read
  exact ⟨.ident first :: front, ident_eq_ok inner, written⟩

/-- A column with a dot is two names, since neither of them has one. -/
theorem qualifiedColumn_eq_ok {tokens rest : List Token} {column : String}
    (proper : Proper tokens) (read : qualifiedColumn tokens = .ok (column, rest)) :
    ∃ table name, column = qualified table name ∧
      tokens = .ident table :: .period :: .ident name :: rest := by
  obtain ⟨⟨found, left⟩, inner, read⟩ := bind_eq_ok read
  dsimp only at read
  split at read
  · rename_i dotted
    cases read
    obtain ⟨front, rfl, written⟩ := column_takes inner
    cases written with
    | bare =>
      have named : isName column = true := (proper _ List.mem_cons_self).name rfl
      have undotted : '.' ∉ column.toList := not_mem_of_isName named (by decide)
      exact absurd (List.contains_iff_mem.mp dotted) undotted
    | qualified table name => exact ⟨table, name, rfl, rfl⟩
  · cases read

theorem operand_takes : Takes Operand operand := by
  intro tokens rest name read
  unfold operand at read
  split at read
  · cases read
    exact ⟨[.asterisk], rfl, .all⟩
  · obtain ⟨front, shape, written⟩ := column_takes read
    exact ⟨front, shape, .column written⟩

theorem expression_takes : Takes Item expression := by
  intro tokens rest item read
  unfold expression at read
  split at read
  · cases read
  · cases read
    exact ⟨[.asterisk], rfl, .all⟩
  · rename_i function after
    split at read
    · cases read
    · rename_i known
      obtain ⟨⟨name, left⟩, inner, read⟩ := bind_eq_ok read
      obtain ⟨closed, parens, read⟩ := bind_eq_ok read
      cases read
      obtain ⟨front, rfl, written⟩ := operand_takes inner
      have isFunction : (AggregateFunction.ofName? function).isSome = true := by
        simpa [Option.isSome_iff_ne_none] using known
      refine ⟨_, ?_, .call isFunction written⟩
      simp [expect_eq_ok parens]
  · rename_i first after _
    obtain ⟨⟨name, left⟩, inner, read⟩ := bind_eq_ok read
    cases read
    obtain ⟨front, rfl, written⟩ := columnEnd_eq_ok inner
    exact ⟨.ident first :: front, rfl, .column written⟩
  · cases read

theorem literal_takes : Takes Literal literal := by
  intro tokens rest value read
  unfold literal at read
  split at read <;> cases read
  · exact ⟨_, rfl, .text _⟩
  · exact ⟨_, rfl, .number _⟩
  · exact ⟨_, rfl, .name _⟩
  · exact ⟨_, rfl, .word _⟩
  · exact ⟨[.minus, .number _], rfl, .negative _⟩

theorem separated_takes {α : Type} {form : α → List Token → Prop}
    {phrase : List Token → Except Fault (α × List Token)} (takes : Takes form phrase)
    (consumes : Consumes phrase) :
    Takes (Listed (· == .comma) form) (separated phrase consumes) := by
  intro tokens rest items read
  fun_induction separated phrase @consumes tokens generalizing rest items with
  | case1 => cases read
  | case2 => cases read
  | case3 tokens first later inner _ more left laterRead ih =>
    cases read
    obtain ⟨front, rfl, written⟩ := takes inner
    obtain ⟨back, rfl, listed⟩ := ih laterRead
    exact ⟨front ++ .comma :: back, by simp, .more written rfl listed⟩
  | case4 tokens first later _ inner =>
    cases read
    obtain ⟨front, shape, written⟩ := takes inner
    exact ⟨front, shape, .one written⟩

end Phrase

/-! ## Segments -/

namespace Grammar.Listed

variable {separates : Token → Bool}

theorem extendFirst (token : Token) {segments : List (List Token)} {tokens : List Token}
    (listed : Listed separates Eq segments tokens) :
    Listed separates Eq (extendFirst token segments) (token :: tokens) := by
  cases listed with
  | one first => exact .one (congrArg (token :: ·) first)
  | more first between later => exact .more (congrArg (token :: ·) first) between later

/-- The segments of a list of tokens are all of its tokens but the separators. -/
theorem segments (separates : Token → Bool) (depth : Nat) (tokens : List Token) :
    Listed separates Eq (segments separates depth tokens) tokens := by
  fun_induction Clause.segments separates depth tokens with
  | case1 => exact .one rfl
  | case2 depth rest ih => exact ih.extendFirst .openParen
  | case3 depth rest ih => exact ih.extendFirst .closeParen
  | case4 depth token rest _ _ ends ih =>
    rw [Bool.and_eq_true] at ends
    have listed : Listed separates Eq ([] :: Clause.segments separates depth rest)
        ([] ++ token :: rest) := .more rfl ends.2 ih
    exact listed
  | case5 depth token rest _ _ _ ih => exact ih.extendFirst token

/-- Segments that are all read as phrases of a form list these phrases. -/
theorem of_mapM {α : Type} {form : α → List Token → Prop} {phrase : List Token → Except Fault α}
    {segments : List (List Token)} {tokens : List Token} {items : List α}
    (listed : Listed separates Eq segments tokens) (read : segments.mapM phrase = .ok items)
    (takes : ∀ segment ∈ segments, ∀ a, phrase segment = .ok a → form a segment) :
    Listed separates form items tokens := by
  induction listed generalizing items with
  | one first =>
    rw [List.mapM_cons] at read
    obtain ⟨a, here, read⟩ := bind_eq_ok read
    cases read
    exact .one (first ▸ takes _ List.mem_cons_self a here)
  | more first between later ih =>
    rw [List.mapM_cons] at read
    obtain ⟨a, here, read⟩ := bind_eq_ok read
    obtain ⟨more, rest, read⟩ := bind_eq_ok read
    cases read
    have others := ih rest fun segment member => takes segment (List.mem_cons_of_mem _ member)
    exact .more (first ▸ takes _ List.mem_cons_self a here) between others

/-- What is read from the segments of proper tokens is listed by these tokens. -/
theorem of_segments {α : Type} {form : α → List Token → Prop}
    {phrase : List Token → Except Fault α} {tokens : List Token} {items : List α}
    (proper : Proper tokens) (read : (Clause.segments separates 0 tokens).mapM phrase = .ok items)
    (takes : ∀ {segment a}, Proper segment → phrase segment = .ok a → form a segment) :
    Listed separates form items tokens :=
  of_mapM (segments separates 0 tokens) read fun segment member _ =>
    takes (proper_segments proper segment member)

end Grammar.Listed

/-! ## Clauses -/

namespace Clause

theorem takeDistinct_eq {first : Token} {tokens left : List Token} {distinct : Bool}
    (taken : takeDistinct (first :: tokens) = (distinct, left)) :
    ∃ rest, left = first :: rest ∧ tokens = distinctWord distinct ++ rest := by
  unfold takeDistinct at taken
  split at taken
  · rename_i shape
    cases shape
    cases taken
    exact ⟨_, rfl, rfl⟩
  · cases taken
    exact ⟨tokens, rfl, rfl⟩

/-- The limit is cut from anywhere behind the first token. -/
theorem takeLimit_eq_ok {first : Token} {tokens left : List Token} {limit : Option Nat}
    (other : first ≠ .keyword .limit) (read : takeLimit (first :: tokens) = .ok (limit, left)) :
    ∃ front clause back, tokens = front ++ (clause ++ back) ∧ left = first :: (front ++ back) ∧
      LimitClause limit clause := by
  unfold takeLimit at read
  split at read
  · cases read
    exact ⟨tokens, [], [], by simp, by simp, .absent⟩
  · cases read
  · rename_i before digits after cut
    split at read
    · rename_i n counted
      cases read
      have whole := cutKeyword?_eq_some cut
      cases before with
      | nil => exact absurd (List.cons.inj whole).1 other
      | cons _ front =>
        cases whole
        exact ⟨front, _, after, rfl, rfl, .present counted⟩
    · cases read
  · cases read

theorem cutPair?_starts {isFirst : Keyword → Bool} {second : Keyword}
    {tokens before pair : List Token}
    (cut : cutPair? isFirst second tokens = some (before, pair)) :
    ∃ first rest, isFirst first = true ∧ pair = .keyword first :: .keyword second :: rest := by
  induction tokens generalizing before with
  | nil => cases cut
  | cons token rest ih =>
    rw [cutPair?] at cut
    split at cut
    · rename_i starts
      cases cut
      exact exists_of_startsPair starts
    · obtain ⟨⟨front, back⟩, later, same⟩ := Option.map_eq_some_iff.mp cut
      cases same
      exact ih later

/-- What is read from the segments behind a pair of keywords is listed there. -/
theorem listed_of_cutPair? {α : Type} {form : α → List Token → Prop}
    {phrase : List Token → Except Fault α} {first second : Keyword}
    {tokens before pair : List Token} {items : List α} (proper : Proper tokens)
    (cut : cutPair? (· == first) second tokens = some (before, pair))
    (read : (segments (· == .comma) 0 (pair.drop 2)).mapM phrase = .ok items)
    (takes : ∀ {segment a}, phrase segment = .ok a → form a segment) :
    ∃ inner, tokens = before ++ .keyword first :: .keyword second :: inner ∧
      Listed (· == .comma) form items inner := by
  obtain ⟨_, proper⟩ := proper_of_cutPair? proper cut
  obtain ⟨found, inner, isFirst, rfl⟩ := cutPair?_starts cut
  rw [eq_of_beq isFirst] at cut
  exact ⟨inner, cutPair?_eq_some cut, Listed.of_segments proper.tail.tail read fun _ => takes⟩

theorem direction_eq_ok {tokens rest : List Token} {found : Direction}
    (read : direction tokens = .ok (found, rest)) :
    ∃ front, tokens = front ++ rest ∧ Order found front := by
  unfold direction at read
  split at read <;> cases read
  · exact ⟨[], rfl, .absent⟩
  · exact ⟨_, rfl, .present .desc⟩
  · exact ⟨_, rfl, .present .asc⟩

theorem sortKey_eq_ok {tokens : List Token} {key : SortKey} (read : sortKey tokens = .ok key) :
    Key key tokens := by
  obtain ⟨⟨item, left⟩, inner, read⟩ := bind_eq_ok read
  dsimp only at read
  split at read
  · cases read
  · rename_i notAll
    obtain ⟨⟨found, left⟩, ordered, read⟩ := bind_eq_ok read
    obtain ⟨_, ends, read⟩ := bind_eq_ok read
    cases read
    obtain ⟨front, rfl, written⟩ := expression_takes inner
    obtain ⟨word, rfl, order⟩ := direction_eq_ok ordered
    cases finish_eq_ok ends
    rw [List.append_nil]
    exact .mk notAll written order

theorem takeOrderBy_eq_ok {tokens rest : List Token} {orderBy : Option (List SortKey)}
    (proper : Proper tokens) (read : takeOrderBy tokens = .ok (orderBy, rest)) :
    ∃ clause, tokens = rest ++ clause ∧ OrderClause orderBy clause := by
  unfold takeOrderBy at read
  split at read
  · cases read
    exact ⟨[], (List.append_nil _).symm, .absent⟩
  · rename_i before pair cut
    obtain ⟨keys, inner, read⟩ := bind_eq_ok read
    cases read
    obtain ⟨_, shape, listed⟩ := listed_of_cutPair? proper cut inner sortKey_eq_ok
    exact ⟨_, shape, .present listed⟩

theorem groupField_eq_ok {tokens : List Token} {field : String}
    (read : groupField tokens = .ok field) : Column field tokens := by
  obtain ⟨⟨name, left⟩, inner, read⟩ := bind_eq_ok read
  obtain ⟨_, ends, read⟩ := bind_eq_ok read
  cases read
  obtain ⟨front, rfl, written⟩ := column_takes inner
  cases finish_eq_ok ends
  rw [List.append_nil]
  exact written

theorem takeGroupBy_eq_ok {tokens rest : List Token} {groupBy : Option (List String)}
    (proper : Proper tokens) (read : takeGroupBy tokens = .ok (groupBy, rest)) :
    ∃ clause, tokens = rest ++ clause ∧ GroupClause groupBy clause := by
  unfold takeGroupBy at read
  split at read
  · cases read
    exact ⟨[], (List.append_nil _).symm, .absent⟩
  · rename_i before pair cut
    obtain ⟨fields, inner, read⟩ := bind_eq_ok read
    cases read
    obtain ⟨_, shape, listed⟩ := listed_of_cutPair? proper cut inner groupField_eq_ok
    exact ⟨_, shape, .present listed⟩

theorem condition_eq_ok {tokens : List Token} {found : Condition} (proper : Proper tokens)
    (read : condition tokens = .ok found) : Test found tokens := by
  unfold condition at read
  split at read
  · rename_i field sign rest inner
    obtain ⟨front, rfl, written⟩ := column_takes inner
    split at read
    · cases read
    · rename_i operator shown
      split at read
      · rename_i value literalRead
        cases read
        obtain ⟨back, rfl, literal⟩ := literal_takes literalRead
        have wellFormed := proper sign (List.mem_append_right _ List.mem_cons_self)
        rw [wellFormed.eq_of_ofText? shown, List.append_nil]
        exact .mk operator written literal
      · cases read
  · cases read

/-- Conditions and group fields are cut off together, the group fields behind the conditions. -/
theorem takeRestriction_eq_ok {tokens rest : List Token} {restriction : Restriction}
    (proper : Proper tokens) (read : takeRestriction tokens = .ok (restriction, rest)) :
    ∃ conditions groupBy, tokens = rest ++ (conditions ++ groupBy) ∧
      WhereClause restriction.conditions conditions ∧
      GroupClause restriction.groupBy groupBy := by
  unfold takeRestriction at read
  split at read
  · rename_i before tail cut
    obtain ⟨⟨groupBy, left⟩, grouped, read⟩ := bind_eq_ok read
    obtain ⟨found, inner, read⟩ := bind_eq_ok read
    cases read
    have whole := cutKeyword?_eq_some cut
    obtain ⟨_, proper⟩ := proper_of_cutKeyword? proper cut
    obtain ⟨group, rfl, groupClause⟩ := takeGroupBy_eq_ok proper grouped
    have proper := proper.mono (List.subset_append_left _ _)
    unfold conditions at inner
    split at inner
    · cases inner
    · have listed := Listed.of_segments proper inner condition_eq_ok
      exact ⟨_, group, whole, .present listed, groupClause⟩
  · obtain ⟨⟨groupBy, left⟩, grouped, read⟩ := bind_eq_ok read
    cases read
    obtain ⟨group, shape, groupClause⟩ := takeGroupBy_eq_ok proper grouped
    exact ⟨[], group, shape, .absent, groupClause⟩

theorem joinKind?_eq_some {token : Token} {kind : JoinKind} (named : joinKind? token = some kind) :
    token = .keyword kind.keyword := by
  unfold joinKind? at named
  split at named <;> cases named <;> rfl

theorem join_eq_ok {tokens : List Token} {found : Join} (proper : Proper tokens)
    (read : join tokens = .ok found) : JoinClause (some found) tokens := by
  unfold join at read
  split at read
  · cases read
  · split at read
    · cases read
    · rename_i kind named
      obtain ⟨_, joined, read⟩ := bind_eq_ok read
      obtain ⟨⟨table, _⟩, tableRead, read⟩ := bind_eq_ok read
      obtain ⟨_, on, read⟩ := bind_eq_ok read
      obtain ⟨⟨left, _⟩, leftRead, read⟩ := bind_eq_ok read
      obtain ⟨_, equal, read⟩ := bind_eq_ok read
      obtain ⟨⟨right, _⟩, rightRead, read⟩ := bind_eq_ok read
      obtain ⟨_, ends, read⟩ := bind_eq_ok read
      cases read
      cases expect_eq_ok joined
      cases ident_eq_ok tableRead
      cases expect_eq_ok on
      have proper := proper.tail.tail.tail.tail
      obtain ⟨leftTable, leftName, rfl, rfl⟩ := qualifiedColumn_eq_ok proper leftRead
      cases expect_eq_ok equal
      have proper := proper.tail.tail.tail.tail
      obtain ⟨rightTable, rightName, rfl, rfl⟩ := qualifiedColumn_eq_ok proper rightRead
      cases finish_eq_ok ends
      cases joinKind?_eq_some named
      exact .present kind table leftTable leftName rightTable rightName

theorem takeJoin_eq_ok {tokens rest : List Token} {join : Option Join}
    (proper : Proper tokens) (read : takeJoin tokens = .ok (join, rest)) :
    ∃ clause, tokens = rest ++ clause ∧ JoinClause join clause := by
  unfold takeJoin at read
  dsimp only at read
  split at read
  · obtain ⟨_, same, read⟩ := bind_eq_ok read
    cases same
    split at read <;> cases read
    exact ⟨[], (List.append_nil _).symm, .absent⟩
  · rename_i before pair cut
    obtain ⟨found, joinRead, read⟩ := bind_eq_ok read
    obtain ⟨_, same, read⟩ := bind_eq_ok read
    cases same
    split at read <;> cases read
    obtain ⟨_, back⟩ := proper_of_cutPair? proper cut
    exact ⟨pair, cutPair?_eq_some cut, join_eq_ok back joinRead⟩

end Clause

/-! ## Select statements -/

/-- The reader of select statements takes the clauses in their order, and the limit from
anywhere behind `SELECT` and `DISTINCT`. -/
theorem Query.ofTokens_eq_ok {tokens : List Token} {query : Query}
    (proper : Proper (.keyword .select :: tokens))
    (read : ofTokens (.keyword .select :: tokens) = .ok query) :
    ∃ front limit back, tokens = distinctWord query.distinct ++ (front ++ (limit ++ back)) ∧
      LimitClause query.limit limit ∧
      Select query (.keyword .select ::
        (distinctWord query.distinct ++ (front ++ (back ++ limit)))) := by
  obtain ⟨⟨distinct, left⟩, taken⟩ : ∃ pair, takeDistinct (.keyword .select :: tokens) = pair :=
    ⟨_, rfl⟩
  have kept := proper_takeDistinct proper
  unfold ofTokens at read
  rw [taken] at kept read
  obtain ⟨rest, rfl, rfl⟩ := takeDistinct_eq taken
  obtain ⟨⟨limit, _⟩, limitRead, read⟩ := bind_eq_ok read
  obtain ⟨⟨orderBy, _⟩, orderRead, read⟩ := bind_eq_ok read
  obtain ⟨⟨restriction, _⟩, restrictionRead, read⟩ := bind_eq_ok read
  obtain ⟨⟨join, _⟩, joinRead, read⟩ := bind_eq_ok read
  obtain ⟨_, select, read⟩ := bind_eq_ok read
  obtain ⟨⟨fields, _⟩, fieldsRead, read⟩ := bind_eq_ok read
  obtain ⟨_, source, read⟩ := bind_eq_ok read
  obtain ⟨⟨table, _⟩, tableRead, read⟩ := bind_eq_ok read
  obtain ⟨_, ends, read⟩ := bind_eq_ok read
  cases read
  obtain ⟨_, kept⟩ := takeLimit_gives kept limitRead
  obtain ⟨front, limitTokens, back, rfl, rfl, limitClause⟩ := takeLimit_eq_ok (by simp) limitRead
  obtain ⟨order, whole, orderClause⟩ := takeOrderBy_eq_ok kept orderRead
  obtain ⟨_, kept⟩ := takeOrderBy_gives kept orderRead
  obtain ⟨conditions, group, rfl, whereClause, groupClause⟩ :=
    takeRestriction_eq_ok kept restrictionRead
  obtain ⟨_, kept⟩ := takeRestriction_gives kept restrictionRead
  obtain ⟨joinTokens, rfl, joinClause⟩ := takeJoin_eq_ok kept joinRead
  cases expect_eq_ok select
  obtain ⟨items, rfl, listed⟩ := separated_takes expression_takes _ fieldsRead
  cases expect_eq_ok source
  cases ident_eq_ok tableRead
  cases finish_eq_ok ends
  refine ⟨front, limitTokens, back, rfl, limitClause, ?_⟩
  -- what the clauses were cut from is what stands around the limit
  have around : front ++ back = items ++ .keyword .from :: .ident table ::
      (joinTokens ++ conditions ++ group ++ order) := by
    simpa using whole
  have inOrder : distinctWord distinct ++ (front ++ (back ++ limitTokens)) =
      distinctWord distinct ++ items ++ .keyword .from :: .ident table ::
        (joinTokens ++ conditions ++ group ++ order ++ limitTokens) := by
    rw [← List.append_assoc front, around]
    simp
  dsimp only
  rw [inOrder]
  exact .mk listed joinClause whereClause groupClause orderClause limitClause

/-- A text that is read as a select statement spells it with its limit put last: the limit
stands anywhere behind `SELECT` and `DISTINCT`, and without it the clauses are in the one
order of the grammar, each at most once, with nothing between them. -/
theorem Query.ofText_select {sql : String} {query : Query} (read : ofText sql = .ok query) :
    ∃ tokens front limit back, Token.ofText sql = .ok tokens ∧
      dropSemicolon tokens =
        .keyword .select :: (distinctWord query.distinct ++ (front ++ (limit ++ back))) ∧
      LimitClause query.limit limit ∧
      Select query (.keyword .select ::
        (distinctWord query.distinct ++ (front ++ (back ++ limit)))) := by
  obtain ⟨statement, statementRead, read⟩ := bind_eq_ok read
  obtain ⟨tokens, scanned, statementRead⟩ := bind_eq_ok statementRead
  have proper := proper_dropSemicolon (proper_of_ofText scanned)
  unfold Statement.ofTokens at statementRead
  split at statementRead
  case h_1 => cases statementRead
  case h_2 rest shape =>
    obtain ⟨found, inner, rfl⟩ := map_eq_ok statementRead
    cases read
    rw [shape] at proper
    obtain ⟨front, limit, back, rfl, limitClause, spelled⟩ := ofTokens_eq_ok proper inner
    exact ⟨tokens, front, limit, back, scanned, shape, limitClause, spelled⟩
  case h_5 => cases statementRead
  all_goals
    obtain ⟨found, _, rfl⟩ := map_eq_ok statementRead
    cases read

/-- The limit is taken from before the conditions. -/
theorem Query.ofText_select_limitFirst :
    ∃ query tokens front limit back,
      ofText "SELECT a FROM t LIMIT 1 WHERE a = 2" = .ok query ∧
      Token.ofText "SELECT a FROM t LIMIT 1 WHERE a = 2" = .ok tokens ∧
      dropSemicolon tokens =
        .keyword .select :: (distinctWord query.distinct ++ (front ++ (limit ++ back))) ∧
      LimitClause query.limit limit ∧
      Select query (.keyword .select ::
        (distinctWord query.distinct ++ (front ++ (back ++ limit)))) := by
  have read : ofText "SELECT a FROM t LIMIT 1 WHERE a = 2" = .ok
      { fields := [.column "a"], table := "t", join := none,
        conditions := [⟨"a", .equal, "2"⟩], groupBy := none, aggregatesAll := false,
        orderBy := none, limit := some 1, distinct := false } := by decide +kernel
  obtain ⟨tokens, front, limit, back, shape⟩ := ofText_select read
  exact ⟨_, tokens, front, limit, back, read, shape⟩

/-! ## A limit before another clause -/

namespace Grammar

theorem Column.keyword_not_mem {name : String} {tokens : List Token}
    (written : Column name tokens) (k : Keyword) : .keyword k ∉ tokens := by
  cases written <;> simp

theorem Item.keyword_not_mem {item : Expression} {tokens : List Token}
    (written : Item item tokens) (k : Keyword) : .keyword k ∉ tokens := by
  cases written with
  | all => simp
  | column written => exact written.keyword_not_mem k
  | call known written =>
    cases written with
    | all => simp
    | column written => simp [written.keyword_not_mem k]

theorem Listed.keyword_not_mem {items : List Expression} {tokens : List Token}
    (listed : Listed (· == .comma) Item items tokens) (k : Keyword) : .keyword k ∉ tokens := by
  induction listed with
  | one first => exact first.keyword_not_mem k
  | more first between later ih =>
    rw [eq_of_beq between]
    simp [first.keyword_not_mem k, ih]

/-- What stands behind the table is told by the first `FROM`. -/
theorem Select.clauses {query : Query} {fields rest : List Token} {table : String}
    (select : Select query (.keyword .select :: (fields ++ .keyword .from :: .ident table :: rest)))
    (noFrom : .keyword .from ∉ fields) :
    ∃ join conditions groupBy orderBy limit,
      rest = join ++ conditions ++ groupBy ++ orderBy ++ limit ∧ JoinClause query.join join ∧
      WhereClause query.conditions conditions ∧ GroupClause query.groupBy groupBy ∧
      OrderClause query.orderBy orderBy ∧ LimitClause query.limit limit := by
  generalize whole : Token.keyword .select ::
    (fields ++ .keyword .from :: .ident table :: rest) = tokens at select
  cases select with
  | mk fieldsListed joinClause whereClause groupClause orderClause limitClause =>
    have first := cutKeyword?_append noFrom (.ident table :: rest)
    rw [(List.cons.inj whole).2, cutKeyword?_append] at first
    · cases first
      exact ⟨_, _, _, _, _, rfl, joinClause, whereClause, groupClause, orderClause, limitClause⟩
    · have noDistinct : .keyword .from ∉ distinctWord query.distinct := by
        cases query.distinct <;> simp [distinctWord]
      simp [noDistinct, fieldsListed.keyword_not_mem .from]

end Grammar

/-- A text with its limit before the conditions is read, and is not in the grammar. -/
theorem Query.ofText_misplacedLimit :
    ∃ sql query tokens, ofText sql = .ok query ∧ Token.ofText sql = .ok tokens ∧
      ∀ other, ¬ Select other (dropSemicolon tokens) := by
  have read : ofText "SELECT a FROM t LIMIT 1 WHERE a = 2" = .ok
      { fields := [.column "a"], table := "t", join := none,
        conditions := [⟨"a", .equal, "2"⟩], groupBy := none, aggregatesAll := false,
        orderBy := none, limit := some 1, distinct := false } := by decide +kernel
  have scanned : Token.ofText "SELECT a FROM t LIMIT 1 WHERE a = 2" = .ok
      (.keyword .select :: ([.ident "a"] ++ .keyword .from :: .ident "t" ::
        [.keyword .limit, .number "1", .keyword .where, .ident "a", .equal, .number "2"])) := by
    decide +kernel
  refine ⟨_, _, _, read, scanned, fun other select => ?_⟩
  obtain ⟨join, conditions, groupBy, orderBy, limit, rest, joinClause, whereClause, groupClause,
    orderClause, limitClause⟩ := select.clauses (by simp)
  generalize other.join = joined at joinClause
  generalize other.conditions = tests at whereClause
  generalize other.groupBy = fields at groupClause
  generalize other.orderBy = keys at orderClause
  generalize other.limit = count at limitClause
  -- each clause has a first keyword of its own, and the limit ends the statement
  cases joinClause with
  | present kind => cases kind <;> cases rest
  | absent =>
    cases whereClause with
    | present => cases rest
    | absent =>
      cases groupClause with
      | present => cases rest
      | absent =>
        cases orderClause with
        | present => cases rest
        | absent => cases limitClause <;> cases rest

end TableQuery
