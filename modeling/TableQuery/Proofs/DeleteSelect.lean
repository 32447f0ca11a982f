import Mathlib.Data.List.Basic
import TableQuery.Proofs.StatementRoundTrip
import TableQuery.Proofs.WholeTable

/-!
A delete and the select of every column with the same condition text.

A delete reads its conditions from the first token after `WHERE` to the end. A select
searches for its clauses from the back, so it reads the same conditions only when the
text holds nothing that such a search stops at (`Clause.Unclaused`). Then the two
statements have the same conditions or the same fault, and what the select shows is
what the delete takes away.
-/

namespace TableQuery

open Clause

/-! ## Condition texts -/

namespace Clause

/-- The conditions of a text that reaches from `WHERE` to the end of a statement. -/
def conditionsOfText (text : String) : Except Fault (List Condition) :=
  Token.ofText text >>= fun tokens => conditions (dropSemicolon tokens)

/-- Tokens in which no clause starts that a select has behind its conditions. -/
structure Unclaused (tokens : List Token) : Prop where
  noLimit : .keyword .limit ∉ tokens
  noOrder : ¬ [.keyword .order, .keyword .by] <:+: tokens
  noGroup : ¬ [.keyword .group, .keyword .by] <:+: tokens

theorem prefix_of_dropSemicolon (tokens : List Token) : dropSemicolon tokens <+: tokens := by
  unfold dropSemicolon
  split
  · exact List.dropLast_prefix tokens
  · exact List.prefix_rfl

theorem Unclaused.dropSemicolon {tokens : List Token} (unclaused : Unclaused tokens) :
    Unclaused (dropSemicolon tokens) := by
  have inside := (prefix_of_dropSemicolon tokens).isInfix
  exact ⟨fun member => unclaused.noLimit (inside.subset member),
    fun pair => unclaused.noOrder (pair.trans inside),
    fun pair => unclaused.noGroup (pair.trans inside)⟩

/-- A pair that starts in some tokens or at their end occurs behind tokens that do not
have its first keyword. -/
theorem not_pair_append {first second : Keyword} {front tokens : List Token}
    (absent : .keyword first ∉ front)
    (noPair : ¬ [.keyword first, .keyword second] <:+: tokens) :
    ¬ [.keyword first, .keyword second] <:+: front ++ tokens := by
  induction front with
  | nil => exact noPair
  | cons token front ih =>
    rw [List.mem_cons, not_or] at absent
    intro inside
    rcases List.infix_cons_iff.mp inside with here | later
    · exact absent.1 (List.cons_prefix_cons.mp here).1
    · exact ih absent.2 later

theorem dropSemicolon_append_left {front : List Token} (absent : .semicolon ∉ front)
    (tokens : List Token) : dropSemicolon (front ++ tokens) = front ++ dropSemicolon tokens := by
  by_cases none : tokens = []
  · subst none
    rw [List.append_nil, dropSemicolon_of_not_mem absent]
    exact (List.append_nil front).symm
  · unfold TableQuery.dropSemicolon
    have last : (front ++ tokens).getLast? = tokens.getLast? := by
      rw [List.getLast?_append, List.getLast?_eq_some_getLast none]
      rfl
    rw [last, List.dropLast_append_of_ne_nil none]
    split <;> rfl

end Clause

/-- The tokens of a text behind a faithful wording are read by themselves. -/
theorem Wording.Faithful.ofText_append {front : Wording} (faithful : front.Faithful)
    (text : String) :
    Token.ofText (front.text ++ (" " ++ text)) =
      (Token.ofText text).map (front.tokens ++ ·) := by
  have ends : Token.EndsToken (' ' :: text.toList) := Token.EndsToken.cons (by decide) _
  have shape : (front.text ++ (" " ++ text)).toList = front.text.toList ++ ' ' :: text.toList := by
    simp
  rw [Token.ofText, Token.ofText, shape, faithful _ ends, Token.scan?_space]
  cases Token.scan? text.toList <;> rfl

/-! ## Reading the two statements -/

section Reading

variable {name : String}

/-- The words of a delete before its conditions. -/
def deleteWhere (name : String) : Wording :=
  .spaced [.word .delete, .word .from, .name name, .word .where]

/-- The words of a select of every column before its conditions. -/
def selectWhere (name : String) : Wording :=
  .spaced [.word .select, ⟨"*", [.asterisk]⟩, .word .from, .name name, .word .where]

theorem faithful_deleteWhere (named : isName name = true) : (deleteWhere name).Faithful := by
  refine Wording.Faithful.spaced fun part given => ?_
  simp only [List.mem_cons, List.not_mem_nil, or_false] at given
  rcases given with rfl | rfl | rfl | rfl
  · exact Token.Reads.ofKeyword .delete
  · exact Token.Reads.ofKeyword .from
  · exact Token.Reads.ofName named
  · exact Token.Reads.ofKeyword .where

theorem faithful_selectWhere (named : isName name = true) : (selectWhere name).Faithful := by
  refine Wording.Faithful.spaced fun part given => ?_
  simp only [List.mem_cons, List.not_mem_nil, or_false] at given
  rcases given with rfl | rfl | rfl | rfl | rfl
  · exact Token.Reads.ofKeyword .select
  · exact @Expression.faithful_wording .all rfl
  · exact Token.Reads.ofKeyword .from
  · exact Token.Reads.ofName named
  · exact Token.Reads.ofKeyword .where

theorem deleteWhere_tokens (name : String) : (deleteWhere name).tokens =
    [.keyword .delete, .keyword .from, .ident name, .keyword .where] := by
  simp [deleteWhere, Wording.spaced, Wording.joined, Wording.word, Wording.name]

theorem selectWhere_tokens (name : String) : (selectWhere name).tokens =
    [.keyword .select, .asterisk, .keyword .from, .ident name, .keyword .where] := by
  simp [selectWhere, Wording.spaced, Wording.joined, Wording.word, Wording.name]

theorem ofTokens_deleteWhere (name : String) (tokens : List Token) :
    Deletion.ofTokens ((deleteWhere name).tokens ++ tokens) =
      (conditions tokens).map fun conditions => Deletion.mk name conditions := by
  rw [deleteWhere_tokens]
  simp only [Deletion.ofTokens, List.cons_append, List.nil_append, Phrase.expect, if_true,
    Phrase.ident, bind, Except.bind]
  cases conditions tokens <;> rfl

theorem takeRestriction_selectWhere (name : String) {tokens : List Token}
    (unclaused : Unclaused tokens) :
    takeRestriction ((selectWhere name).tokens ++ tokens) =
      (conditions tokens).map fun conditions => (Restriction.mk none conditions,
        [Token.keyword .select, .asterisk, .keyword .from, .ident name]) := by
  have shape : (selectWhere name).tokens ++ tokens =
      [.keyword .select, .asterisk, .keyword .from, .ident name] ++ .keyword .where :: tokens := by
    simp [selectWhere_tokens]
  rw [shape, takeRestriction, cutKeyword?_append (by simp)]
  simp only [takeGroupBy_of_not_pair unclaused.noGroup, bind, Except.bind]
  cases conditions tokens <;> rfl

/-- A select finds its conditions behind the first `WHERE` and nothing behind them. -/
theorem ofTokens_selectWhere (name : String) {tokens : List Token}
    (unclaused : Unclaused tokens) :
    Query.ofTokens ((selectWhere name).tokens ++ tokens) =
      (conditions tokens).map (Query.selectAll name) := by
  have noLimit : .keyword .limit ∉ (selectWhere name).tokens ++ tokens := by
    simpa [selectWhere_tokens] using unclaused.noLimit
  have noOrder : ¬ [.keyword .order, .keyword .by] <:+: (selectWhere name).tokens ++ tokens :=
    not_pair_append (by simp [selectWhere_tokens]) unclaused.noOrder
  have distinct : takeDistinct ((selectWhere name).tokens ++ tokens) =
      (false, (selectWhere name).tokens ++ tokens) := by
    rw [selectWhere_tokens]
    rfl
  have join : takeJoin [.keyword .select, .asterisk, .keyword .from, .ident name] =
      .ok (none, [.keyword .select, .asterisk, .keyword .from, .ident name]) := rfl
  have fields : Phrase.separated Phrase.expression Phrase.expression_consumes
      [.asterisk, .keyword .from, .ident name] =
        .ok ([.all], [.keyword .from, .ident name]) :=
    separated_last rfl (by simp)
  rw [Query.ofTokens, distinct]
  simp only [takeLimit_of_not_mem noLimit, takeOrderBy_of_not_pair noOrder,
    takeRestriction_selectWhere name unclaused, bind, Except.bind]
  cases conditions tokens with
  | error fault => rfl
  | ok conditions =>
    simp only [Except.map, join, Phrase.expect, if_true, fields, Phrase.ident, Phrase.finish]
    rfl

theorem ofText_deleteWhere (named : isName name = true) (text : String) :
    Statement.ofText ("DELETE FROM " ++ name ++ " WHERE " ++ text) =
      (conditionsOfText text).map fun conditions => .delete ⟨name, conditions⟩ := by
  have words : "DELETE FROM " ++ name ++ " WHERE " ++ text =
      (deleteWhere name).text ++ (" " ++ text) := by
    simp [deleteWhere, Wording.spaced, Wording.joined, Wording.word, Wording.name, Keyword.word,
      ← String.toList_inj]
  have absent : .semicolon ∉ (deleteWhere name).tokens := by
    simp [deleteWhere_tokens]
  rw [words, Statement.ofText, (faithful_deleteWhere named).ofText_append, conditionsOfText]
  cases Token.ofText text with
  | error fault => rfl
  | ok tokens =>
    have read := ofTokens_deleteWhere name (dropSemicolon tokens)
    have dropped := dropSemicolon_append_left absent tokens
    rw [deleteWhere_tokens] at read dropped ⊢
    simp only [Except.map, bind, Except.bind, Statement.ofTokens, dropped]
    simp only [List.cons_append, List.nil_append] at read ⊢
    rw [read]
    cases conditions (dropSemicolon tokens) <;> rfl

/-- Every column of a table, without conditions. -/
theorem ofText_selectAll (named : isName name = true) :
    Statement.ofText ("SELECT * FROM " ++ name) = .ok (.select (.selectAll name [])) := by
  have wellFormed : (Statement.select (.selectAll name [])).WellFormed := {
    someField := by simp [Query.selectAll]
    fields := by simp [Query.selectAll, Expression.wellFormed]
    table := named
    joinTable := nofun
    joinSides := nofun
    conditions := nofun
    groupBy := nofun
    orderBy := nofun
    limit := nofun
    aggregatesAll := rfl }
  have words : "SELECT * FROM " ++ name =
      (Statement.select (.selectAll name [])).render '\x27' ++ "" := by
    simp [Statement.render, Statement.wording, Query.wording, Query.selectAll, Wording.spaced,
      Wording.joined, Wording.listed, Wording.word, Wording.name, Keyword.word,
      Expression.wording, Expression.label, joinParts, whereParts, groupParts, orderParts,
      limitParts, ← String.toList_inj]
  rw [words, Statement.ofText_render (by decide) wellFormed (by decide)]
  exact if_pos rfl

theorem ofText_selectWhere (named : isName name = true) {text : String}
    (unclaused : ∀ tokens, Token.ofText text = .ok tokens → Unclaused tokens) :
    Statement.ofText ("SELECT * FROM " ++ name ++ " WHERE " ++ text) =
      (conditionsOfText text).map fun conditions => .select (.selectAll name conditions) := by
  have words : "SELECT * FROM " ++ name ++ " WHERE " ++ text =
      (selectWhere name).text ++ (" " ++ text) := by
    simp [selectWhere, Wording.spaced, Wording.joined, Wording.word, Wording.name, Keyword.word,
      ← String.toList_inj]
  have absent : .semicolon ∉ (selectWhere name).tokens := by
    simp [selectWhere_tokens]
  rw [words, Statement.ofText, (faithful_selectWhere named).ofText_append, conditionsOfText]
  cases scanned : Token.ofText text with
  | error fault => rfl
  | ok tokens =>
    have read := ofTokens_selectWhere name (unclaused tokens scanned).dropSemicolon
    have dropped := dropSemicolon_append_left absent tokens
    rw [selectWhere_tokens] at read dropped ⊢
    simp only [Except.map, bind, Except.bind, Statement.ofTokens, dropped]
    simp only [List.cons_append, List.nil_append] at read ⊢
    rw [read]
    cases conditions (dropSemicolon tokens) <;> rfl

end Reading

/-! ## Carrying out the two statements -/

open Condition in
/-- Deleting once more the rows that meet some conditions deletes none and changes
nothing. -/
theorem Session.execute_delete_again {store : MemoryStore} {name : String} {table : Table}
    {conditions : List Condition} (read : store.read name = .ok table)
    (decides : ∀ row ∈ table.rows, Decides conditions row)
    (none : ∀ row ∈ table.rows, meets conditions row = false) :
    Session.execute store (.delete ⟨name, conditions⟩) = (.ok (.deleted 0), store) := by
  have noDropped : table.rows.filter (meets conditions) = [] :=
    List.filter_eq_nil_iff.mpr fun row member => Bool.eq_false_iff.mp (none row member)
  have allKept : (table.rows.filter fun row => !meets conditions row) = table.rows :=
    List.filter_eq_self.mpr fun row member => by rw [none row member]; rfl
  rw [Session.execute_delete read, splitRows_of_decides decides, noDropped, allKept]
  exact congrArg _ (MemoryStore.write_of_read read)

open Condition in
/-- A delete and a select with the same conditions: both fail alike, or the select shows
the rows that meet the conditions and the delete leaves the others. -/
theorem Session.execute_delete_select {store : MemoryStore} {name : String}
    (filled : ∀ table, store.read name = .ok table → table.Filled)
    (conditions : List Condition) :
    (∃ error, execute store (.delete ⟨name, conditions⟩) = (.error error, store) ∧
      execute store (.select (.selectAll name conditions)) = (.error error, store)) ∨
    ∃ table after, store.read name = .ok table ∧
      execute store (.select (.selectAll name conditions)) =
        (.ok (.rows ⟨table.columns, table.rows.filter (meets conditions)⟩), store) ∧
      execute store (.delete ⟨name, conditions⟩) =
        (.ok (.deleted (table.rows.filter (meets conditions)).length), after) ∧
      after.read name =
        .ok { table with rows := table.rows.filter fun row => !meets conditions row } ∧
      execute after (.delete ⟨name, conditions⟩) = (.ok (.deleted 0), after) := by
  have select := @Session.execute_selectAll _ _ store name filled conditions
  cases read : store.read name with
  | error fault =>
    have missing : Store.read store name = .error fault := read
    rw [missing] at select
    exact Or.inl ⟨.execution fault, Session.execute_delete_of_missing missing conditions, select⟩
  | ok table =>
    have stored : Store.read store name = .ok table := read
    have delete := Session.execute_delete read conditions
    rw [stored] at select
    simp only [bind, Except.bind] at select
    cases cut : splitRows conditions table.rows with
    | error fault =>
      rw [cut] at select delete
      exact Or.inl ⟨.execution fault, delete, select⟩
    | ok parts =>
      rw [cut] at select delete
      obtain ⟨shown, left⟩ := parts
      obtain ⟨decides, rfl, rfl⟩ := splitRows_eq_ok cut
      have after := store.read_write
        { table with rows := table.rows.filter fun row => !meets conditions row } name
      rw [if_pos (MemoryStore.name_of_read read)] at after
      refine Or.inr ⟨table, _, rfl, select, delete, after, ?_⟩
      refine Session.execute_delete_again after (fun row member => ?_) fun row member => ?_
      · exact decides row (List.mem_filter.mp member).1
      · simpa using (List.mem_filter.mp member).2

open Condition in
/-- What a select with some conditions shows is what a delete with the same conditions
takes away: both fail alike, or the shown rows and the rows that are left are those that
meet the conditions and those that do not. A second delete has nothing to do. -/
theorem Session.delete_select {store : MemoryStore} {name text : String}
    (named : isName name = true)
    (filled : ∀ table, store.read name = .ok table → table.Filled)
    (unclaused : ∀ tokens, Token.ofText text = .ok tokens → Unclaused tokens) :
    let delete := "DELETE FROM " ++ name ++ " WHERE " ++ text
    let select := "SELECT * FROM " ++ name ++ " WHERE " ++ text
    (∃ error, executeText store delete = (.error error, store) ∧
      executeText store select = (.error error, store)) ∨
    ∃ table conditions after,
      store.read name = .ok table ∧ conditionsOfText text = .ok conditions ∧
      executeText store select =
        (.ok (.rows ⟨table.columns, table.rows.filter (meets conditions)⟩), store) ∧
      executeText store delete =
        (.ok (.deleted (table.rows.filter (meets conditions)).length), after) ∧
      after.read name =
        .ok { table with rows := table.rows.filter fun row => !meets conditions row } ∧
      executeText after delete = (.ok (.deleted 0), after) := by
  intro delete select
  have deleteRead := ofText_deleteWhere named text
  have selectRead := ofText_selectWhere named unclaused
  cases parsed : conditionsOfText text with
  | error fault =>
    rw [parsed] at deleteRead selectRead
    exact Or.inl ⟨.execution fault, executeText_of_error store deleteRead,
      executeText_of_error store selectRead⟩
  | ok conditions =>
    rw [parsed] at deleteRead selectRead
    have deletes (store : MemoryStore) := executeText_of_ok store deleteRead
    have selects := executeText_of_ok store selectRead
    rcases Session.execute_delete_select filled conditions with
      ⟨error, deleteFails, selectFails⟩ | ⟨table, after, read, shown, deleted, left, again⟩
    · exact Or.inl ⟨error, (deletes store).trans deleteFails, selects.trans selectFails⟩
    · exact Or.inr ⟨table, conditions, after, read, rfl, selects.trans shown,
        (deletes store).trans deleted, left, (deletes after).trans again⟩

/-- A table of two rows, one of which is shown and taken away while the other one is left. -/
theorem Session.delete_select_quoted :
    let table (records : List (List String)) := Table.ofRecords "t" ["a", "b"] records
    let store := MemoryStore.ofTables [table [["1", "x"], ["2", "y"]]]
    let delete := "DELETE FROM t WHERE b = 'x'"
    let select := "SELECT * FROM t WHERE b = 'x'"
    ∃ after,
      executeText store select = (.ok (.rows ⟨["a", "b"], (table [["1", "x"]]).rows⟩), store) ∧
      executeText store delete = (.ok (.deleted 1), after) ∧
      after.read "t" = .ok (table [["2", "y"]]) ∧
      executeText after delete = (.ok (.deleted 0), after) := by
  intro table store delete select
  have only : store.read "t" = .ok (table [["1", "x"], ["2", "y"]]) := rfl
  have filled : ∀ table, store.read "t" = .ok table → table.Filled := by
    intro table found
    rw [only] at found
    cases found
    exact Table.filled_ofRecords (by decide)
  have scanned : Token.ofText "b = 'x'" = .ok [.ident "b", .equal, .text "x"] := by
    have faithful := @Condition.faithful_wording '\x27' (by decide) ⟨"b", .equal, "x"⟩ (by decide)
    have scanned := faithful.scan?_eq
    have text : (Condition.wording '\x27' ⟨"b", .equal, "x"⟩).text = "b = 'x'" := by decide
    rw [text] at scanned
    rw [Token.ofText, scanned]
    rfl
  have unclaused : ∀ tokens, Token.ofText "b = 'x'" = .ok tokens → Unclaused tokens := by
    intro tokens found
    rw [scanned] at found
    cases found
    exact ⟨by decide, by decide, by decide⟩
  have known : conditionsOfText "b = 'x'" = .ok [⟨"b", .equal, "x"⟩] := by decide +kernel
  have answer : (executeText store select).1 =
      .ok (.rows ⟨["a", "b"], (table [["1", "x"]]).rows⟩) := by
    decide +kernel
  rcases Session.delete_select (by decide) filled unclaused with
    ⟨error, _, fails⟩ | ⟨_, conditions, after, found, parsed, shown, deleted, left, again⟩
  · have failed : (executeText store select).1 = .error error := congrArg Prod.fst fails
    cases failed.symm.trans answer
  · cases only.symm.trans found
    cases known.symm.trans parsed
    exact ⟨after, shown, deleted, left, again⟩

end TableQuery
