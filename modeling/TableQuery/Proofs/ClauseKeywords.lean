import TableQuery.Proofs.Render

/-!
The keywords of a statement's tokens.

Every clause has keywords of its own, and what stands between them, a name, a number or
a text in quotes, is no keyword whatever it says. So a search for the keyword of one
clause finds nothing in the others. No part of a statement has a semicolon either.
-/

namespace TableQuery

open Clause

/-! ## Tokens with some keywords only -/

/-- Some tokens have no other keywords than the given ones, and no semicolon. -/
def KeywordsIn (allowed : List Keyword) (tokens : List Token) : Prop :=
  ∀ token ∈ tokens, token ≠ .semicolon ∧ ∀ k, token = .keyword k → k ∈ allowed

/-- The tokens of the parts of a clause, one after the other. -/
def partTokens (parts : List Wording) : List Token :=
  parts.flatMap Wording.tokens

theorem partTokens_append (first second : List Wording) :
    partTokens (first ++ second) = partTokens first ++ partTokens second :=
  List.flatMap_append

theorem Wording.spaced_tokens (parts : List Wording) :
    (Wording.spaced parts).tokens = partTokens parts := by
  induction parts with
  | nil => rfl
  | cons part rest ih =>
    cases rest with
    | nil => simp [Wording.spaced, Wording.joined, partTokens]
    | cons next rest =>
      have both : (Wording.spaced (part :: next :: rest)).tokens =
          part.tokens ++ (Wording.spaced (next :: rest)).tokens := by
        simp [Wording.spaced, Wording.joined]
      rw [both, ih]
      rfl

namespace KeywordsIn

variable {allowed larger : List Keyword} {tokens first second : List Token} {parts : List Wording}

theorem not_mem {k : Keyword} (keywords : KeywordsIn allowed tokens) (outside : k ∉ allowed) :
    .keyword k ∉ tokens :=
  fun member => outside ((keywords _ member).2 k rfl)

theorem semicolon_not_mem (keywords : KeywordsIn allowed tokens) : .semicolon ∉ tokens :=
  fun member => (keywords _ member).1 rfl

theorem mono (keywords : KeywordsIn allowed tokens) (more : ∀ k ∈ allowed, k ∈ larger) :
    KeywordsIn larger tokens := by
  intro token member
  obtain ⟨noSemicolon, inside⟩ := keywords token member
  exact ⟨noSemicolon, fun k same => more k (inside k same)⟩

theorem nil : KeywordsIn allowed [] :=
  fun _ member => absurd member List.not_mem_nil

theorem append (front : KeywordsIn allowed first) (back : KeywordsIn allowed second) :
    KeywordsIn allowed (first ++ second) := by
  intro token member
  rcases List.mem_append.mp member with early | late
  · exact front token early
  · exact back token late

theorem word {k : Keyword} (given : k ∈ allowed) : KeywordsIn allowed (Wording.word k).tokens := by
  simpa [KeywordsIn, Wording.word] using given

theorem joined {separator : Wording} (between : KeywordsIn allowed separator.tokens)
    (inside : ∀ part ∈ parts, KeywordsIn allowed part.tokens) :
    KeywordsIn allowed (Wording.joined separator parts).tokens := by
  induction parts with
  | nil => exact nil
  | cons part rest ih =>
    have front := inside part List.mem_cons_self
    have back := ih fun part given => inside part (List.mem_cons_of_mem _ given)
    cases rest with
    | nil => simpa [Wording.joined] using front
    | cons next rest => simpa [Wording.joined] using front.append (between.append back)

theorem joined_map {α : Type} {separator : Wording} {wording : α → Wording} {items : List α}
    (between : KeywordsIn allowed separator.tokens)
    (inside : ∀ item ∈ items, KeywordsIn allowed (wording item).tokens) :
    KeywordsIn allowed (Wording.joined separator (items.map wording)).tokens := by
  refine joined between fun part given => ?_
  obtain ⟨item, member, rfl⟩ := List.mem_map.mp given
  exact inside item member

theorem inParens {wording : Wording} (inside : KeywordsIn allowed wording.tokens) :
    KeywordsIn allowed (Wording.inParens wording).tokens := by
  have opening : KeywordsIn allowed [.openParen] := by simp [KeywordsIn]
  have closing : KeywordsIn allowed [.closeParen] := by simp [KeywordsIn]
  simpa [Wording.inParens] using opening.append (inside.append closing)

theorem partTokens (inside : ∀ part ∈ parts, KeywordsIn allowed part.tokens) :
    KeywordsIn allowed (partTokens parts) := by
  intro token member
  obtain ⟨part, given, within⟩ := List.mem_flatMap.mp member
  exact inside part given token within

theorem name (table : String) : KeywordsIn allowed (Wording.name table).tokens := by
  simp [KeywordsIn, Wording.name]

theorem column (name : String) : KeywordsIn allowed (columnTokens name) := by
  unfold columnTokens
  split <;> simp [KeywordsIn]

theorem expression (item : Expression) : KeywordsIn allowed item.tokens := by
  cases item with
  | all => simp [KeywordsIn, Expression.tokens]
  | column name => exact column name
  | call function operand =>
    have inside : KeywordsIn allowed
        (if operand = "*" then [.asterisk] else columnTokens operand) := by
      split
      · simp [KeywordsIn]
      · exact column operand
    have opening : KeywordsIn allowed [.ident function, .openParen] := by simp [KeywordsIn]
    have closing : KeywordsIn allowed [.closeParen] := by simp [KeywordsIn]
    simpa [Expression.tokens] using opening.append (inside.append closing)

theorem comma : KeywordsIn allowed [.comma] := by
  simp [KeywordsIn]

theorem expressions (items : List Expression) :
    KeywordsIn allowed (Wording.listed (items.map Expression.wording)).tokens :=
  joined_map comma fun item _ => expression item

theorem columns (names : List String) :
    KeywordsIn allowed (Wording.listed (names.map .column)).tokens :=
  joined_map comma fun name _ => column name

theorem operator (operator : Operator) : KeywordsIn [.like] [operator.token] := by
  cases operator <;> simp [KeywordsIn, Operator.token]

theorem condition (mark : Char) (condition : Condition) :
    KeywordsIn [.where, .and, .like] (condition.wording mark).tokens := by
  have test : KeywordsIn [.where, .and, .like] [condition.operator.token] :=
    (operator condition.operator).mono (by decide)
  have literal : KeywordsIn [.where, .and, .like] [.text condition.literal] := by
    simp [KeywordsIn]
  simpa [Condition.wording, Wording.spaced_tokens, TableQuery.partTokens, Wording.column,
    Wording.quoted] using (column condition.field).append (test.append literal)

theorem sortKey (key : SortKey) :
    KeywordsIn [.order, .by, .asc, .desc] (SortKey.wording key).tokens := by
  have direction : KeywordsIn [.order, .by, .asc, .desc] [.keyword key.2.keyword] := by
    cases key.2 <;> simp [KeywordsIn, Direction.keyword]
  simpa [SortKey.wording, Wording.spaced_tokens, TableQuery.partTokens, Wording.word,
    Expression.wording] using (expression (Expression.ofLabel key.1)).append direction

theorem constant (mark : Char) (value : Constant) :
    KeywordsIn [.null] (value.wording mark).tokens := by
  cases value with
  | null => exact word (by decide)
  | number text =>
    have shape : ((Constant.number text).wording mark).tokens = Constant.numberTokens text := rfl
    rw [shape]
    unfold Constant.numberTokens
    split <;> simp [KeywordsIn]
  | text s => simp [KeywordsIn, Constant.wording, Wording.quoted]

end KeywordsIn

/-! ## Clauses -/

theorem joinParts_keywords (clause : Option Join) :
    KeywordsIn [.inner, .left, .right, .join, .on] (partTokens (joinParts clause)) := by
  cases clause with
  | none => exact KeywordsIn.nil
  | some join =>
    have kind : join.kind.keyword ∈ [Keyword.inner, .left, .right, .join, .on] := by
      cases join.kind <;> decide
    have front : KeywordsIn [.inner, .left, .right, .join, .on]
        [.keyword join.kind.keyword, .keyword .join, .ident join.table, .keyword .on] := by
      simpa [KeywordsIn] using kind
    have test : KeywordsIn [.inner, .left, .right, .join, .on]
        (columnTokens join.left ++ ([.equal] ++ columnTokens join.right)) :=
      (KeywordsIn.column join.left).append
        (KeywordsIn.append (by simp [KeywordsIn]) (KeywordsIn.column join.right))
    simpa [joinParts, partTokens, Wording.word, Wording.name, Wording.column] using
      front.append test

theorem whereParts_keywords (mark : Char) (conditions : List Condition) :
    KeywordsIn [.where, .and, .like] (partTokens (whereParts mark conditions)) := by
  unfold whereParts
  split
  · exact KeywordsIn.nil
  · refine KeywordsIn.partTokens fun part given => ?_
    simp only [List.mem_cons, List.not_mem_nil, or_false] at given
    rcases given with rfl | rfl
    · exact KeywordsIn.word (by decide)
    · exact KeywordsIn.joined_map (KeywordsIn.word (by decide))
        fun condition _ => KeywordsIn.condition mark condition

theorem groupParts_keywords (groupBy : Option (List String)) :
    KeywordsIn [.group, .by] (partTokens (groupParts groupBy)) := by
  cases groupBy with
  | none => exact KeywordsIn.nil
  | some fields =>
    refine KeywordsIn.partTokens fun part given => ?_
    simp only [groupParts, List.mem_cons, List.not_mem_nil, or_false] at given
    rcases given with rfl | rfl | rfl
    · exact KeywordsIn.word (by decide)
    · exact KeywordsIn.word (by decide)
    · exact KeywordsIn.columns fields

theorem orderParts_keywords (orderBy : Option (List SortKey)) :
    KeywordsIn [.order, .by, .asc, .desc] (partTokens (orderParts orderBy)) := by
  cases orderBy with
  | none => exact KeywordsIn.nil
  | some keys =>
    refine KeywordsIn.partTokens fun part given => ?_
    simp only [orderParts, List.mem_cons, List.not_mem_nil, or_false] at given
    rcases given with rfl | rfl | rfl
    · exact KeywordsIn.word (by decide)
    · exact KeywordsIn.word (by decide)
    · exact KeywordsIn.joined_map KeywordsIn.comma fun key _ => KeywordsIn.sortKey key

theorem limitParts_keywords (limit : Option Nat) :
    KeywordsIn [.limit] (partTokens (limitParts limit)) := by
  cases limit with
  | none => exact KeywordsIn.nil
  | some n => simp [KeywordsIn, partTokens, limitParts, Wording.word]

/-! ## Statements -/

section Statements

variable {mark : Char}

theorem Query.wording_keywords (query : Query) :
    KeywordsIn Keyword.all (query.wording mark).tokens := by
  have select : KeywordsIn Keyword.all (partTokens [.word .select]) := by
    simp [KeywordsIn, partTokens, Wording.word, Keyword.all]
  have distinct : KeywordsIn Keyword.all
      (partTokens (if query.distinct then [.word .distinct] else [])) := by
    cases query.distinct <;> simp [KeywordsIn, partTokens, Wording.word, Keyword.all]
  have source : KeywordsIn Keyword.all (partTokens
      [.listed (query.fields.map Expression.wording), .word .from, .name query.table]) := by
    refine KeywordsIn.partTokens fun part given => ?_
    simp only [List.mem_cons, List.not_mem_nil, or_false] at given
    rcases given with rfl | rfl | rfl
    · exact KeywordsIn.expressions query.fields
    · exact KeywordsIn.word (by decide)
    · exact KeywordsIn.name query.table
  rw [wording, Wording.spaced_tokens]
  simp only [partTokens_append]
  exact ((((((select.append distinct).append source).append
    ((joinParts_keywords query.join).mono (by decide))).append
    ((whereParts_keywords mark query.conditions).mono (by decide))).append
    ((groupParts_keywords query.groupBy).mono (by decide))).append
    ((orderParts_keywords query.orderBy).mono (by decide))).append
    ((limitParts_keywords query.limit).mono (by decide))

theorem Insertion.wording_keywords (insertion : Insertion) :
    KeywordsIn Keyword.all (insertion.wording mark).tokens := by
  rw [wording, Wording.spaced_tokens]
  refine KeywordsIn.partTokens fun part given => ?_
  simp only [List.mem_cons, List.not_mem_nil, or_false] at given
  rcases given with rfl | rfl | rfl | rfl | rfl | rfl
  · exact KeywordsIn.word (by decide)
  · exact KeywordsIn.word (by decide)
  · exact KeywordsIn.name insertion.table
  · exact KeywordsIn.inParens (KeywordsIn.columns insertion.columns)
  · exact KeywordsIn.word (by decide)
  · exact KeywordsIn.inParens (KeywordsIn.joined_map KeywordsIn.comma
      fun value _ => (KeywordsIn.constant mark value).mono (by decide))

theorem Deletion.wording_keywords (deletion : Deletion) :
    KeywordsIn Keyword.all (deletion.wording mark).tokens := by
  have front : KeywordsIn Keyword.all
      (partTokens [.word .delete, .word .from, .name deletion.table]) := by
    simp [KeywordsIn, partTokens, Wording.word, Wording.name, Keyword.all]
  rw [wording, Wording.spaced_tokens, partTokens_append]
  exact front.append ((whereParts_keywords mark deletion.conditions).mono (by decide))

theorem Statement.tokens_keywords (statement : Statement) :
    KeywordsIn Keyword.all (statement.tokens mark) := by
  cases statement with
  | select query => exact query.wording_keywords
  | insert insertion => exact insertion.wording_keywords
  | delete deletion => exact deletion.wording_keywords

end Statements

end TableQuery
