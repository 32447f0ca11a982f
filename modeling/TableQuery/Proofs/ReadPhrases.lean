import TableQuery.Proofs.Cutting
import TableQuery.Proofs.Render
import TableQuery.Statement.Reader

/-!
Reading the parts of a statement back from their tokens.

Each part is read from its own tokens, whatever comes after them, as long as that
does not continue the part. Lists are read up to their last item when no comma
follows, and refused at the first token that is neither a comma nor their end.
-/

namespace TableQuery

open Phrase Clause

/-! ## Columns and items -/

/-- The first of some tokens continues no column and no item. -/
def EndsPhrase (rest : List Token) : Prop :=
  ∀ token ∈ rest.head?, token ≠ .period ∧ token ≠ .openParen

theorem EndsPhrase.cons {token : Token} (noPeriod : token ≠ .period)
    (noParen : token ≠ .openParen) (rest : List Token) : EndsPhrase (token :: rest) :=
  Token.forall_head?_cons ⟨noPeriod, noParen⟩ rest

theorem columnEnd_of_ne_period {first : String} {rest : List Token}
    (stop : ∀ token ∈ rest.head?, token ≠ .period) :
    columnEnd first rest = .ok (first, rest) := by
  unfold columnEnd
  split
  · exact absurd rfl (stop .period rfl)
  · rfl

theorem qualified_of_split {column : String} {table name : List Char}
    (split : Text.splitFirst? '.' column.toList = some (table, name)) :
    qualified (String.ofList table) (String.ofList name) = column := by
  obtain ⟨shape, _⟩ := Text.splitFirst?_eq_some split
  rw [← String.toList_inj, qualified]
  simp [shape]

/-- The first token of a column is an identifier, and what is read from there on is
the column. -/
theorem columnTokens_read (column : String) {rest : List Token}
    (stop : ∀ token ∈ rest.head?, token ≠ .period) :
    ∃ first more, columnTokens column = .ident first :: more ∧
      columnEnd first (more ++ rest) = .ok (column, rest) ∧
      ∀ token ∈ more.head?, token ≠ .openParen := by
  unfold columnTokens
  split
  · exact ⟨column, [], rfl, columnEnd_of_ne_period stop, by simp⟩
  · rename_i table name split
    refine ⟨String.ofList table, [.period, .ident (String.ofList name)], rfl, ?_, by simp⟩
    simp only [List.cons_append, List.nil_append, columnEnd, ident, bind, Except.bind, pure,
      Except.pure, qualified_of_split split]

theorem column_columnTokens (column : String) (rest : List Token)
    (stop : ∀ token ∈ rest.head?, token ≠ .period) :
    Phrase.column (columnTokens column ++ rest) = .ok (column, rest) := by
  obtain ⟨first, more, shape, read, _⟩ := columnTokens_read column stop
  rw [shape]
  exact read

theorem qualifiedColumn_columnTokens {column : String} (dotted : '.' ∈ column.toList)
    (rest : List Token) (stop : ∀ token ∈ rest.head?, token ≠ .period) :
    qualifiedColumn (columnTokens column ++ rest) = .ok (column, rest) := by
  rw [qualifiedColumn, column_columnTokens column rest stop]
  simp [bind, Except.bind, pure, Except.pure, dotted]

theorem operand_tokens (operand : String) {rest : List Token}
    (stop : ∀ token ∈ rest.head?, token ≠ .period) :
    Phrase.operand ((if operand = "*" then [.asterisk] else columnTokens operand) ++ rest) =
      .ok (operand, rest) := by
  split
  · rename_i same
    rw [same]
    rfl
  · obtain ⟨first, more, shape, read, _⟩ := columnTokens_read operand stop
    rw [shape]
    exact read

theorem expression_tokens {item : Expression} (written : item.wellFormed = true)
    {rest : List Token} (stop : EndsPhrase rest) :
    expression (item.tokens ++ rest) = .ok (item, rest) := by
  cases item with
  | all => rfl
  | column name =>
    obtain ⟨first, more, shape, read, noCall⟩ :=
      columnTokens_read name fun token first => (stop token first).1
    have alone : ∀ later, more ++ rest = .openParen :: later → False := by
      intro later same
      cases more with
      | nil => exact (stop .openParen (by rw [← List.nil_append rest, same]; rfl)).2 rfl
      | cons token more =>
        cases same
        exact noCall .openParen rfl rfl
    rw [Expression.tokens, shape, List.cons_append, expression]
    · rw [read]
      rfl
    · exact alone
  | call function operand =>
    rw [Expression.wellFormed, Bool.and_eq_true] at written
    have known : (AggregateFunction.ofName? function).isNone = false := by
      rw [← Option.not_isSome, written.1]
      rfl
    have stops : ∀ token ∈ (Token.closeParen :: rest).head?, token ≠ .period :=
      Token.forall_head?_cons (by decide) rest
    simp only [Expression.tokens, List.cons_append, List.append_assoc, List.nil_append]
    rw [expression, known, if_neg Bool.false_ne_true, operand_tokens operand stops]
    simp [bind, Except.bind, pure, Except.pure, expect]

/-! ## Sort keys -/

theorem ofLabel_ne_all (label : String) : Expression.ofLabel label ≠ .all := by
  unfold Expression.ofLabel
  split <;> simp

theorem direction_keyword (direction : Direction) :
    Clause.direction [.keyword direction.keyword] = .ok (direction, []) := by
  cases direction <;> rfl

theorem sortKey_tokens {key : SortKey} (written : isSortField key.1 = true) :
    sortKey key.wording.tokens = .ok key := by
  rw [isSortField, Bool.and_eq_true, beq_iff_eq] at written
  have stop : EndsPhrase [.keyword key.2.keyword] := EndsPhrase.cons (by simp) (by simp) []
  have shape : key.wording.tokens =
      (Expression.ofLabel key.1).tokens ++ [.keyword key.2.keyword] := by
    simp [SortKey.wording, Wording.spaced, Wording.joined, Expression.wording, Wording.word]
  rw [sortKey, shape, expression_tokens written.1 stop]
  simp [bind, Except.bind, pure, Except.pure, ofLabel_ne_all, direction_keyword, finish,
    written.2]

/-! ## Conditions and constants -/

theorem display_token (operator : Operator) : operator.token.display = operator.display := by
  cases operator <;> rfl

theorem condition_tokens (mark : Char) (written : Condition) :
    condition (written.wording mark).tokens = .ok written := by
  have shape : (written.wording mark).tokens =
      columnTokens written.field ++ [written.operator.token, .text written.literal] := by
    simp [Condition.wording, Wording.spaced, Wording.joined, Wording.column, Wording.quoted]
  have stop : ∀ token ∈ [written.operator.token, .text written.literal].head?,
      token ≠ .period := by
    refine Token.forall_head?_cons ?_ _
    cases written.operator <;> simp [Operator.token]
  rw [condition, shape, column_columnTokens written.field _ stop]
  simp only [display_token, Operator.ofText?_display, literal]

theorem groupField_tokens (field : String) :
    groupField (Wording.column field).tokens = .ok field := by
  have read := column_columnTokens field [] (by simp)
  rw [List.append_nil] at read
  rw [groupField, Wording.column, read]
  rfl

theorem constant_tokens {mark : Char} {value : Constant} (written : value.WellFormed)
    (rest : List Token) :
    constant ((value.wording mark).tokens ++ rest) = .ok (value, rest) := by
  cases value with
  | null => rfl
  | text s => rfl
  | number digits =>
    rw [Constant.wording]
    rcases written with plain | ⟨text, _, rfl⟩
    · rw [Constant.numberTokens_of_plain plain]
      rfl
    · rw [Constant.numberTokens_minus]
      rfl

/-! ## Lists -/

section Lists

variable {α : Type} {phrase : List Token → Except Fault (α × List Token)}
  {consumes : Consumes phrase} {wording : α → Wording} {items : List α} {rest : List Token}

/-- A list goes on after a comma and ends anywhere else. -/
theorem separated_eq (tokens : List Token) :
    separated phrase @consumes tokens =
      match phrase tokens with
      | .error fault => .error fault
      | .ok (first, .comma :: rest) =>
        match separated phrase @consumes rest with
        | .error fault => .error fault
        | .ok (more, rest) => .ok (first :: more, rest)
      | .ok (first, rest) => .ok ([first], rest) := by
  rw [separated.eq_def]
  split
  · rename_i read
    simp only [read]
  · rename_i first rest read
    calc
      _ = match separated phrase @consumes rest with
          | .error fault => Except.error fault
          | .ok (more, rest) => Except.ok (first :: more, rest) := rfl
      _ = _ := by simp only [read]
  · rename_i read
    simp only [read]

theorem separated_last {tokens : List Token} {item : α}
    (read : phrase tokens = .ok (item, rest)) (noComma : rest.head? ≠ some .comma) :
    separated phrase @consumes tokens = .ok ([item], rest) := by
  rw [separated_eq, read]
  cases rest with
  | nil => rfl
  | cons token rest =>
    have different : token ≠ .comma := fun same => noComma (same ▸ rfl)
    split
    · rename_i read
      cases read
    · rename_i read
      cases read
      exact absurd rfl different
    · rename_i read
      cases read
      rfl

theorem separated_comma {tokens : List Token} {item : α} {more : List α} {after : List Token}
    (read : phrase tokens = .ok (item, .comma :: after))
    (later : separated phrase @consumes after = .ok (more, rest)) :
    separated phrase @consumes tokens = .ok (item :: more, rest) := by
  rw [separated_eq, read]
  simp only [later]

theorem separated_listed
    (reads : ∀ item ∈ items, ∀ later, EndsPhrase later →
      phrase ((wording item).tokens ++ later) = .ok (item, later))
    (nonempty : items ≠ []) (stop : EndsPhrase rest) (noComma : rest.head? ≠ some .comma) :
    separated phrase @consumes ((Wording.listed (items.map wording)).tokens ++ rest) =
      .ok (items, rest) := by
  induction items with
  | nil => exact absurd rfl nonempty
  | cons item items ih =>
    have first := reads item List.mem_cons_self
    cases items with
    | nil =>
      have read := first rest stop
      exact separated_last (by simpa [Wording.listed, Wording.joined] using read) noComma
    | cons next items =>
      have later := ih (fun item member => reads item (List.mem_cons_of_mem _ member))
        (List.cons_ne_nil _ _)
      have read := first (.comma :: ((Wording.listed ((next :: items).map wording)).tokens ++ rest))
        (EndsPhrase.cons (by simp) (by simp) _)
      refine separated_comma ?_ later
      simpa [Wording.listed, Wording.joined] using read

theorem parenthesized_listed
    (reads : ∀ item ∈ items, ∀ later, EndsPhrase later →
      phrase ((wording item).tokens ++ later) = .ok (item, later))
    (nonempty : items ≠ []) :
    parenthesized phrase @consumes
      ((Wording.inParens (.listed (items.map wording))).tokens ++ rest) = .ok (items, rest) := by
  have stop : EndsPhrase (.closeParen :: rest) := EndsPhrase.cons (by simp) (by simp) rest
  have inside : separated phrase @consumes
      ((Wording.listed (items.map wording)).tokens ++ .closeParen :: rest) =
        .ok (items, .closeParen :: rest) :=
    separated_listed reads nonempty stop (by simp)
  rw [parenthesized, Wording.inParens]
  simp only [List.cons_append, List.append_assoc, List.nil_append]
  simp [expect, bind, Except.bind, pure, Except.pure, inside]

theorem parenthesized_unexpected {tokens later : List Token} {token : Token}
    (inside : separated phrase @consumes tokens = .ok (items, token :: later))
    (different : token ≠ .closeParen) :
    parenthesized phrase @consumes (.openParen :: tokens) =
      .error (.parse (.unexpected token)) := by
  rw [parenthesized]
  simp [expect, bind, Except.bind, inside]

end Lists

/-! ## Columns of an insert statement -/

theorem ident_column {column : String} (named : isName column = true) (rest : List Token) :
    ident ((Wording.column column).tokens ++ rest) = .ok (column, rest) := by
  rw [Wording.column, columnTokens_of_isName named]
  rfl

/-- Names are read from a list of columns up to the dot of the first qualified one. -/
theorem separated_ident_qualified {columns : List String}
    (written : ∀ column ∈ columns, isColumn column = true)
    (dotted : ∃ column ∈ columns, isName column = false) (rest : List Token) :
    ∃ names later, separated ident ident_consumes
      ((Wording.listed (columns.map .column)).tokens ++ rest) = .ok (names, .period :: later) := by
  induction columns with
  | nil =>
    obtain ⟨_, member, _⟩ := dotted
    cases member
  | cons column columns ih =>
    cases named : isName column with
    | false =>
      obtain ⟨table, name, shape⟩ :=
        columnTokens_of_qualified (written column List.mem_cons_self) named
      have front : ∃ later, (Wording.listed ((column :: columns).map .column)).tokens ++ rest =
          .ident table :: .period :: later := by
        cases columns <;>
          simp [Wording.listed, Wording.joined, Wording.column, shape]
      obtain ⟨later, front⟩ := front
      exact ⟨[table], later, front ▸ separated_last rfl (by simp)⟩
    | true =>
      have others : ∃ column ∈ columns, isName column = false := by
        obtain ⟨found, member, notName⟩ := dotted
        rcases List.mem_cons.mp member with rfl | member
        · rw [named] at notName
          cases notName
        · exact ⟨found, member, notName⟩
      obtain ⟨names, later, read⟩ :=
        ih (fun column member => written column (List.mem_cons_of_mem _ member)) others
      obtain ⟨next, more, rfl⟩ : ∃ next more, columns = next :: more := by
        obtain ⟨_, member, _⟩ := others
        exact List.exists_cons_of_ne_nil (List.ne_nil_of_mem member)
      refine ⟨column :: names, later, separated_comma ?_ read⟩
      simpa [Wording.listed, Wording.joined] using ident_column named
        (.comma :: ((Wording.listed ((next :: more).map .column)).tokens ++ rest))

theorem parenthesized_ident_qualified {columns : List String}
    (written : ∀ column ∈ columns, isColumn column = true)
    (dotted : ∃ column ∈ columns, isName column = false) (rest : List Token) :
    parenthesized ident ident_consumes
      ((Wording.inParens (.listed (columns.map .column))).tokens ++ rest) =
        .error (.parse (.unexpected .period)) := by
  obtain ⟨names, later, inside⟩ :=
    separated_ident_qualified written dotted (.closeParen :: rest)
  rw [Wording.inParens, List.cons_append, List.cons_append, List.append_assoc,
    List.singleton_append]
  exact parenthesized_unexpected inside (by simp)

end TableQuery
