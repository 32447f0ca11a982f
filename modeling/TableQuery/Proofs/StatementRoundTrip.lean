import TableQuery.Proofs.ReadBack

/-!
Whole statements, from text to text.

A statement in canonical form is read back from its text, with or without a closing
semicolon. One form of column name is not: an insert statement names the columns of
its table without the table, and a qualified name there is refused at its dot.
-/

namespace TableQuery

open Clause

/-! ## The closing semicolon -/

theorem dropSemicolon_of_not_mem {tokens : List Token} (absent : .semicolon ∉ tokens) :
    dropSemicolon tokens = tokens := by
  rw [dropSemicolon, if_neg fun last => absent (List.mem_of_getLast? last)]

theorem dropSemicolon_append (tokens : List Token) :
    dropSemicolon (tokens ++ [.semicolon]) = tokens := by
  rw [dropSemicolon, if_pos List.getLast?_concat, List.dropLast_concat]

/-! ## Reading statements -/

section Statements

variable {mark : Char}

namespace Statement

/-- Whether an insert statement names its columns without their table. -/
def bareColumns : Statement → Bool
  | insert insertion => insertion.bareColumns
  | _ => true

/-- The tokens of a statement are read back, or refused at the dot of a qualified
insert column. A closing semicolon does not matter. -/
theorem ofTokens_tokens {statement : Statement} (wellFormed : statement.WellFormed)
    {tokens : List Token}
    (closed : tokens = statement.tokens mark ∨ tokens = statement.tokens mark ++ [.semicolon]) :
    Statement.ofTokens tokens =
      if statement.bareColumns then .ok statement else .error (.parse (.unexpected .period)) := by
  have dropped : dropSemicolon tokens = statement.tokens mark := by
    rcases closed with rfl | rfl
    · exact dropSemicolon_of_not_mem statement.tokens_keywords.semicolon_not_mem
    · exact dropSemicolon_append _
  rw [ofTokens, dropped]
  cases statement with
  | select query =>
    have read : Query.ofTokens (query.wording mark).tokens = .ok query :=
      Query.ofTokens_wording wellFormed
    obtain ⟨rest, shape⟩ : ∃ rest, (query.wording mark).tokens = .keyword .select :: rest := by
      simp [Query.wording, Wording.spaced_tokens, partTokens, Wording.word]
    rw [shape] at read
    simp only [Statement.tokens, Statement.wording, shape, read, bareColumns, if_true]
    rfl
  | insert insertion =>
    have shape := @Insertion.wording_tokens mark insertion
    by_cases bare : (insert insertion).bareColumns = true
    · have read : Insertion.ofTokens (insertion.wording mark).tokens = .ok insertion :=
        Insertion.ofTokens_wording wellFormed bare
      rw [shape] at read
      rw [if_pos bare]
      simp only [Statement.tokens, Statement.wording, shape, read]
      rfl
    · have refused : Insertion.ofTokens (insertion.wording mark).tokens =
          .error (.parse (.unexpected .period)) :=
        Insertion.ofTokens_qualified wellFormed (Bool.eq_false_iff.mpr bare)
      rw [shape] at refused
      rw [if_neg bare]
      simp only [Statement.tokens, Statement.wording, shape, refused]
      rfl
  | delete deletion =>
    have read : Deletion.ofTokens (deletion.wording mark).tokens = .ok deletion :=
      deletion.ofTokens_wording
    obtain ⟨rest, shape⟩ : ∃ rest, (deletion.wording mark).tokens = .keyword .delete :: rest := by
      simp [Deletion.wording, Wording.spaced_tokens, partTokens, Wording.word]
    rw [shape] at read
    simp only [Statement.tokens, Statement.wording, shape, read, bareColumns, if_true]
    rfl

/-- A text of a statement, with or without a closing semicolon, is read as the tokens
of the statement, with or without one. -/
theorem scan?_render {statement : Statement} (quote : Token.isQuote mark = true)
    (wellFormed : statement.WellFormed) {ending : String} (closing : ending ∈ ["", ";"]) :
    ∃ tokens, Token.scan? (statement.render mark ++ ending).toList = some tokens ∧
      (tokens = statement.tokens mark ∨ tokens = statement.tokens mark ++ [.semicolon]) := by
  have reads := reads_render quote wellFormed
  simp only [List.mem_cons, List.not_mem_nil, or_false] at closing
  rcases closing with rfl | rfl
  · refine ⟨_, ?_, Or.inl rfl⟩
    rw [String.append_empty, reads.scan?_eq]
  · have ends : Token.EndsToken [';'] := Token.EndsToken.cons (by decide) []
    refine ⟨_, ?_, Or.inr rfl⟩
    rw [String.toList_append]
    show Token.scan? ((statement.render mark).toList ++ [';']) = _
    rw [reads [';'] ends, Token.scan?_semicolon, Token.scan?_nil]
    rfl

/-- A select statement is read back from its text. -/
theorem ofText_render_select {query : Query} (quote : Token.isQuote mark = true)
    (wellFormed : query.WellFormed) {ending : String} (closing : ending ∈ ["", ";"]) :
    Statement.ofText (render mark (.select query) ++ ending) = .ok (.select query) := by
  have formed : (select query).WellFormed := wellFormed
  obtain ⟨tokens, scanned, closed⟩ := scan?_render quote formed closing
  rw [ofText, Token.ofText, scanned]
  exact ofTokens_tokens formed closed

/-- Reading undoes writing: a statement is read back from its text, whichever quotes
its literals stand between. Only an insert statement with a qualified column is
refused, at the dot. -/
theorem ofText_render {statement : Statement} (quote : Token.isQuote mark = true)
    (wellFormed : statement.WellFormed) {ending : String} (closing : ending ∈ ["", ";"]) :
    Statement.ofText (statement.render mark ++ ending) =
      if statement.bareColumns then .ok statement else .error (.parse (.unexpected .period)) := by
  obtain ⟨tokens, scanned, closed⟩ := scan?_render quote wellFormed closing
  rw [ofText, Token.ofText, scanned]
  exact ofTokens_tokens wellFormed closed

/-- A select statement with every clause, and with a literal that looks like one. -/
theorem ofText_render_everyClause :
    let query : Query := {
      fields := [.column "t.a", .call "Sum" "b", .call "count" "*"], table := "t"
      join := some ⟨.left, "u", "t.a", "u.a"⟩
      conditions := [⟨"b", .like, "it's; LIMIT"⟩, ⟨"u.c", .notEqual, ""⟩]
      groupBy := some ["t.a"], orderBy := some [("count(*)", .desc), ("a", .asc)]
      limit := some 10, distinct := true, aggregatesAll := false }
    Statement.ofText (render '\x27' (.select query) ++ ";") = .ok (.select query) := by
  refine ofText_render (by decide) ?_ (by decide)
  constructor <;> decide

/-- A column may be qualified in every place but among the columns of an insert. -/
theorem ofText_render_qualifiedInsert :
    let insertion : Insertion := ⟨"t", ["a.b"], [.null]⟩
    (insert insertion).WellFormed ∧
      render '\x27' (insert insertion) = "INSERT INTO t (a.b) VALUES (NULL)" ∧
      Statement.ofText "INSERT INTO t (a.b) VALUES (NULL)" =
        .error (.parse (.unexpected .period)) ∧
      Statement.ofText (render '\x27' (insert insertion)) ≠ .ok (insert insertion) := by
  have wellFormed : (insert ⟨"t", ["a.b"], [.null]⟩).WellFormed :=
    ⟨by decide, by decide, by decide, by simp [Constant.WellFormed], rfl⟩
  have text : render '\x27' (insert ⟨"t", ["a.b"], [.null]⟩) =
      "INSERT INTO t (a.b) VALUES (NULL)" := by decide
  obtain ⟨tokens, scanned, closed⟩ :=
    @scan?_render '\x27' _ (by decide) wellFormed "" (by decide)
  have refused : Statement.ofText "INSERT INTO t (a.b) VALUES (NULL)" =
      .error (.parse (.unexpected .period)) := by
    rw [text, String.append_empty] at scanned
    rw [ofText, Token.ofText, scanned]
    exact ofTokens_tokens wellFormed closed
  refine ⟨wellFormed, text, refused, ?_⟩
  rw [text, refused]
  simp

end Statement

end Statements

end TableQuery
