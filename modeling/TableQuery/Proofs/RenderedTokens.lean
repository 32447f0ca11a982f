import TableQuery.Proofs.Render

/-!
The text of a well-formed statement is read as its tokens.

Every part of a wording is read as its own tokens, and a separator that no token can
take for a part of itself keeps it so when parts are joined (`Wording.Faithful.joined`).
What is left for a statement is a look at each of its clauses.
-/

namespace TableQuery

open Token

/-! ## Joined wordings -/

namespace Wording

/-- What comes after the separator is read as by itself, and the separator itself
extends no token. -/
structure Separates (separator : Wording) : Prop where
  reads : ∀ {text : String} {tokens : List Token}, Reads text tokens →
    Reads (separator.text ++ text) (separator.tokens ++ tokens)
  ends : ∀ text : String, EndsToken (separator.text ++ text).toList

theorem Faithful.joined {separator : Wording} (separates : separator.Separates)
    {parts : List Wording} (faithful : ∀ part ∈ parts, part.Faithful) :
    (Wording.joined separator parts).Faithful := by
  induction parts with
  | nil => exact Reads.empty
  | cons part rest ih =>
    have first := faithful part List.mem_cons_self
    cases rest with
    | nil => simpa [Wording.joined, Faithful] using first
    | cons next rest =>
      have later := ih fun part member => faithful part (List.mem_cons_of_mem _ member)
      have both := first.append (separates.ends _) (separates.reads later)
      simpa [Wording.joined, Faithful, String.append_assoc] using both

theorem separates_space : Separates ⟨" ", []⟩ where
  reads := Reads.space
  ends text := by
    rw [String.toList_append]
    exact EndsToken.cons (by decide) _

theorem separates_comma : Separates ⟨", ", [.comma]⟩ where
  reads {text tokens} reads := by
    have split : ", " ++ text = "," ++ (" " ++ text) := by
      rw [← String.append_assoc]
      rfl
    exact split ▸ reads.space.comma
  ends text := by
    rw [String.toList_append]
    exact EndsToken.cons (by decide) _

theorem separates_and : Separates ⟨" AND ", [.keyword .and]⟩ where
  reads {text tokens} reads := by
    have split : " AND " ++ text = " " ++ (Keyword.and.word ++ (" " ++ text)) := by
      rw [← String.append_assoc, ← String.append_assoc]
      rfl
    exact split ▸ ((Reads.ofKeyword .and).append (separates_space.ends text) reads.space).space
  ends text := by
    rw [String.toList_append]
    exact EndsToken.cons (by decide) _

theorem Faithful.spaced {parts : List Wording} (faithful : ∀ part ∈ parts, part.Faithful) :
    (Wording.spaced parts).Faithful :=
  Faithful.joined separates_space faithful

theorem Faithful.listed {parts : List Wording} (faithful : ∀ part ∈ parts, part.Faithful) :
    (Wording.listed parts).Faithful :=
  Faithful.joined separates_comma faithful

theorem Faithful.connected {parts : List Wording} (faithful : ∀ part ∈ parts, part.Faithful) :
    (Wording.connected parts).Faithful :=
  Faithful.joined separates_and faithful

end Wording

/-! ## Columns and items -/

theorem Wording.faithful_column {column : String} (written : isColumn column = true) :
    (Wording.column column).Faithful := by
  unfold isColumn at written
  unfold Wording.Faithful Wording.column columnTokens
  split at written
  · exact Reads.ofName written
  · rename_i table name split
    rw [Bool.and_eq_true] at written
    obtain ⟨shape, _⟩ := Text.splitFirst?_eq_some split
    intro rest ends
    have tableRead := scan?_name written.1 ('.' :: (name ++ rest))
      (forall_head?_cons (by decide) _)
    have nameRead := Reads.ofName written.2 rest ends
    rw [String.toList_ofList] at tableRead nameRead
    rw [shape, List.append_assoc, List.cons_append, tableRead, scan?_period, nameRead,
      Option.map_map, Option.map_map]
    rfl

/-- A character whose capital form is made of capital letters is a letter. -/
theorem Text.isAlphabetic_of_capital {c : Char}
    (capitals : ∀ d ∈ Text.capital c, 'A'.toNat ≤ d.toNat ∧ d.toNat ≤ 'Z'.toNat) :
    Text.isAlphabetic c = true := by
  have ascii : Text.alphabeticRanges =
      ('A'.toNat, 'Z'.toNat) :: ('a'.toNat, 'z'.toNat) :: Text.alphabeticRanges.drop 2 := rfl
  unfold Text.capital at capitals
  split at capitals <;> try decide +kernel
  have upper := capitals c.toUpper List.mem_cons_self
  rw [Text.isAlphabetic, ascii, CodeRanges.contains, CodeRanges.contains]
  unfold Char.toUpper at upper
  split at upper
  · rename_i lower
    have low : 'a'.toNat ≤ c.toNat := UInt32.le_iff_toNat_le.mp lower.1
    have high : c.toNat ≤ 'z'.toNat := UInt32.le_iff_toNat_le.mp lower.2
    have above : 'Z'.toNat < c.toNat := Nat.lt_of_lt_of_le (by decide) low
    rw [if_neg (by omega), if_neg (by omega), if_neg (by omega), if_pos high]
  · rw [if_neg (by omega), if_pos upper.2]

/-- The name of an aggregate function, in whatever case, is a name. -/
theorem isName_of_isFunction {function : String}
    (known : (AggregateFunction.ofName? function).isSome = true) : isName function = true := by
  have capitals : Text.capitals function ∈ ["COUNT", "SUM", "AVG", "MIN", "MAX"] := by
    unfold AggregateFunction.ofName? at known
    split at known <;> simp_all
  have noKeyword : Keyword.ofIdent? function = none := by
    have apart : ∀ word ∈ ["COUNT", "SUM", "AVG", "MIN", "MAX"],
        Keyword.all.find? (fun keyword => keyword.word == word) = none := by decide
    exact apart _ capitals
  have upper : ∀ c ∈ function.toList, ∀ d ∈ Text.capital c,
      'A'.toNat ≤ d.toNat ∧ d.toNat ≤ 'Z'.toNat := by
    have letters : ∀ word ∈ ["COUNT", "SUM", "AVG", "MIN", "MAX"],
        word.toList.all (fun d => 'A'.toNat ≤ d.toNat ∧ d.toNat ≤ 'Z'.toNat) = true := by decide
    intro c member d inCapital
    have inside : d ∈ (Text.capitals function).toList := by
      rw [Text.capitals, String.toList_ofList]
      exact List.mem_flatMap.mpr ⟨c, member, inCapital⟩
    simpa using List.all_eq_true.mp (letters _ capitals) d inside
  have letters : ∀ c ∈ function.toList, Text.isAlphabetic c = true :=
    fun c member => Text.isAlphabetic_of_capital (upper c member)
  unfold isName
  split
  · rename_i empty
    rw [Text.capitals, empty] at capitals
    revert capitals
    decide
  · rename_i c rest shape
    rw [shape] at letters
    simp only [noKeyword, Bool.and_eq_true, List.all_eq_true, Option.isNone_none, and_true]
    refine ⟨?_, fun d member => ?_⟩
    · rw [startsIdent, letters c List.mem_cons_self, Bool.true_or]
    · rw [continuesIdent, letters d (List.mem_cons_of_mem _ member), Bool.true_or, Bool.true_or]

theorem Expression.faithful_wording {item : Expression} (written : item.wellFormed = true) :
    item.wording.Faithful := by
  cases item with
  | all =>
    intro rest _
    exact scan?_symbol (by decide) rest
  | column name => exact Wording.faithful_column written
  | call function operand =>
    rw [Expression.wellFormed, Bool.and_eq_true] at written
    obtain ⟨known, isOperand⟩ := written
    have operandRead : Reads operand
        (if operand = "*" then [.asterisk] else columnTokens operand) := by
      split
      · rename_i same
        rw [same]
        intro rest _
        exact scan?_symbol (by decide) rest
      · rename_i different
        rw [Bool.or_eq_true, beq_iff_eq] at isOperand
        exact Wording.faithful_column (isOperand.resolve_left different)
    intro rest ends
    have shape : (Expression.label (.call function operand)).toList ++ rest =
        function.toList ++ (("(" ++ operand ++ ")").toList ++ rest) := by
      simp [Expression.label, String.append_assoc]
    have functionRead := scan?_name (isName_of_isFunction known)
      (("(" ++ operand ++ ")").toList ++ rest) (by
        intro c first
        rw [String.toList_append, String.toList_append] at first
        cases first
        decide)
    have inner := operandRead.inParens rest ends
    exact (congrArg scan? shape).trans (by
      rw [functionRead, inner, Option.map_map]
      rfl)

theorem SortKey.faithful_wording {key : SortKey} (written : isSortField key.1 = true) :
    key.wording.Faithful := by
  rw [isSortField, Bool.and_eq_true] at written
  refine Wording.Faithful.spaced fun part member => ?_
  simp only [List.mem_cons, List.not_mem_nil, or_false] at member
  rcases member with rfl | rfl
  · exact Expression.faithful_wording written.1
  · exact Reads.ofKeyword _

/-! ## Conditions and constants -/

theorem Operator.faithful_token (operator : Operator) :
    Reads operator.display [operator.token] := by
  cases operator with
  | equal =>
    intro rest _
    exact scan?_symbol (by decide) rest
  | notEqual =>
    intro rest _
    exact scan?_symbol (c := '!') (by decide) ('=' :: rest)
  | greater =>
    intro rest ends
    have alone : symbolLexeme '>' rest = (.greater, rest) := by
      cases rest with
      | nil => rfl
      | cons c rest =>
        have oneOf := ends c rfl
        simp only [List.mem_cons, List.not_mem_nil, or_false] at oneOf
        rcases oneOf with rfl | rfl | rfl | rfl <;> rfl
    have shape : Operator.greater.display.toList ++ rest = '>' :: rest := rfl
    rw [shape, scan?_symbol (by decide), alone]
    rfl
  | less =>
    intro rest ends
    have alone : symbolLexeme '<' rest = (.less, rest) := by
      cases rest with
      | nil => rfl
      | cons c rest =>
        have oneOf := ends c rfl
        simp only [List.mem_cons, List.not_mem_nil, or_false] at oneOf
        rcases oneOf with rfl | rfl | rfl | rfl <;> rfl
    have shape : Operator.less.display.toList ++ rest = '<' :: rest := rfl
    rw [shape, scan?_symbol (by decide), alone]
    rfl
  | greaterOrEqual =>
    intro rest _
    exact scan?_symbol (c := '>') (by decide) ('=' :: rest)
  | lessOrEqual =>
    intro rest _
    exact scan?_symbol (c := '<') (by decide) ('=' :: rest)
  | like => exact Reads.ofKeyword .like

theorem Condition.faithful_wording {mark : Char} (quote : isQuote mark = true)
    {condition : Condition} (written : isColumn condition.field = true) :
    (condition.wording mark).Faithful := by
  refine Wording.Faithful.spaced fun part member => ?_
  simp only [List.mem_cons, List.not_mem_nil, or_false] at member
  rcases member with rfl | rfl | rfl
  · exact Wording.faithful_column written
  · exact Operator.faithful_token _
  · exact Reads.ofQuoted quote _

theorem Constant.faithful_wording {mark : Char} (quote : isQuote mark = true)
    {constant : Constant} (written : constant.WellFormed) :
    (constant.wording mark).Faithful := by
  cases constant with
  | null => exact Reads.ofKeyword .null
  | text s => exact Reads.ofQuoted quote s
  | number digits =>
    rw [Constant.wording, Wording.Faithful]
    rcases written with plain | ⟨text, plain, rfl⟩
    · rw [Constant.numberTokens_of_plain plain]
      exact Reads.ofNumber plain
    · rw [Constant.numberTokens_minus]
      exact (Reads.ofNumber plain).minus

/-! ## Clauses -/

open Clause

section Parts

variable {mark : Char} {part : Wording}

theorem Clause.faithful_joinParts {clause : Option Join}
    (table : ∀ join ∈ clause, isName join.table = true)
    (sides : ∀ join ∈ clause, ∀ side ∈ [join.left, join.right],
      isColumn side = true ∧ '.' ∈ side.toList)
    (member : part ∈ joinParts clause) : part.Faithful := by
  cases clause with
  | none => cases member
  | some join =>
    have left := (sides join rfl join.left (by simp)).1
    have right := (sides join rfl join.right (by simp)).1
    simp only [joinParts, List.mem_cons, List.not_mem_nil, or_false] at member
    rcases member with rfl | rfl | rfl | rfl | rfl | rfl | rfl
    · exact Reads.ofKeyword _
    · exact Reads.ofKeyword _
    · exact Reads.ofName (table join rfl)
    · exact Reads.ofKeyword _
    · exact Wording.faithful_column left
    · exact Operator.faithful_token .equal
    · exact Wording.faithful_column right

theorem Clause.faithful_whereParts (quote : isQuote mark = true) {conditions : List Condition}
    (written : ∀ condition ∈ conditions, isColumn condition.field = true)
    (member : part ∈ whereParts mark conditions) : part.Faithful := by
  unfold whereParts at member
  split at member
  · cases member
  · simp only [List.mem_cons, List.not_mem_nil, or_false] at member
    rcases member with rfl | rfl
    · exact Reads.ofKeyword _
    · refine Wording.Faithful.connected fun part inside => ?_
      obtain ⟨condition, given, rfl⟩ := List.mem_map.mp inside
      exact Condition.faithful_wording quote (written condition given)

theorem Clause.faithful_groupParts {groupBy : Option (List String)}
    (written : ∀ fields ∈ groupBy, ∀ field ∈ fields, isColumn field = true)
    (member : part ∈ groupParts groupBy) : part.Faithful := by
  cases groupBy with
  | none => cases member
  | some fields =>
    simp only [groupParts, List.mem_cons, List.not_mem_nil, or_false] at member
    rcases member with rfl | rfl | rfl
    · exact Reads.ofKeyword _
    · exact Reads.ofKeyword _
    · refine Wording.Faithful.listed fun part inside => ?_
      obtain ⟨field, given, rfl⟩ := List.mem_map.mp inside
      exact Wording.faithful_column (written fields rfl field given)

theorem Clause.faithful_orderParts {orderBy : Option (List SortKey)}
    (written : ∀ keys ∈ orderBy, ∀ key ∈ keys, isSortField key.1 = true)
    (member : part ∈ orderParts orderBy) : part.Faithful := by
  cases orderBy with
  | none => cases member
  | some keys =>
    simp only [orderParts, List.mem_cons, List.not_mem_nil, or_false] at member
    rcases member with rfl | rfl | rfl
    · exact Reads.ofKeyword _
    · exact Reads.ofKeyword _
    · refine Wording.Faithful.listed fun part inside => ?_
      obtain ⟨key, given, rfl⟩ := List.mem_map.mp inside
      exact SortKey.faithful_wording (written keys rfl key given)

theorem isNumberText_natText (n : Nat) : IsNumberText (String.ofList (Text.natText n)) :=
  ⟨Text.natText n, [], [], by simp, isDigits_natText n, .absent, .absent⟩

theorem Clause.faithful_limitParts {limit : Option Nat} (member : part ∈ limitParts limit) :
    part.Faithful := by
  cases limit with
  | none => cases member
  | some n =>
    simp only [limitParts, List.mem_cons, List.not_mem_nil, or_false] at member
    rcases member with rfl | rfl
    · exact Reads.ofKeyword _
    · exact Reads.ofNumber (isNumberText_natText n)

end Parts

/-! ## Statements -/

section Statements

variable {mark : Char}

theorem Query.faithful_wording (quote : isQuote mark = true) {query : Query}
    (wellFormed : query.WellFormed) : (query.wording mark).Faithful := by
  refine Wording.Faithful.spaced fun part member => ?_
  simp only [List.mem_append] at member
  rcases member with (((((((select | distinct) | head) | join) | tests) | group) | order) | limit)
  · obtain rfl := List.mem_singleton.mp select
    exact Reads.ofKeyword _
  · split at distinct
    · obtain rfl := List.mem_singleton.mp distinct
      exact Reads.ofKeyword _
    · cases distinct
  · simp only [List.mem_cons, List.not_mem_nil, or_false] at head
    rcases head with rfl | rfl | rfl
    · refine Wording.Faithful.listed fun part inside => ?_
      obtain ⟨item, given, rfl⟩ := List.mem_map.mp inside
      exact Expression.faithful_wording (wellFormed.fields item given)
    · exact Reads.ofKeyword _
    · exact Reads.ofName wellFormed.table
  · exact faithful_joinParts wellFormed.joinTable wellFormed.joinSides join
  · exact faithful_whereParts quote wellFormed.conditions tests
  · exact faithful_groupParts (fun fields given => (wellFormed.groupBy fields given).2) group
  · exact faithful_orderParts (fun keys given => (wellFormed.orderBy keys given).2) order
  · exact faithful_limitParts limit

/-- The words of an insert statement, with any faithful wordings for its values. -/
theorem Wording.faithful_insert {table : String} {columns : List String} {values : List Wording}
    (named : isName table = true) (written : ∀ column ∈ columns, isColumn column = true)
    (faithful : ∀ value ∈ values, value.Faithful) :
    (Wording.spaced [.word .insert, .word .into, .name table,
      .inParens (.listed (columns.map .column)), .word .values,
      .inParens (.listed values)]).Faithful := by
  refine Wording.Faithful.spaced fun part member => ?_
  simp only [List.mem_cons, List.not_mem_nil, or_false] at member
  rcases member with rfl | rfl | rfl | rfl | rfl | rfl
  · exact Reads.ofKeyword _
  · exact Reads.ofKeyword _
  · exact Reads.ofName named
  · refine Reads.inParens (Wording.Faithful.listed fun part inside => ?_)
    obtain ⟨column, given, rfl⟩ := List.mem_map.mp inside
    exact Wording.faithful_column (written column given)
  · exact Reads.ofKeyword _
  · exact Reads.inParens (Wording.Faithful.listed faithful)

theorem Insertion.faithful_wording (quote : isQuote mark = true) {insertion : Insertion}
    (wellFormed : insertion.WellFormed) : (insertion.wording mark).Faithful := by
  refine Wording.faithful_insert wellFormed.table wellFormed.columns fun part inside => ?_
  obtain ⟨value, given, rfl⟩ := List.mem_map.mp inside
  exact Constant.faithful_wording quote (wellFormed.values value given)

theorem Deletion.faithful_wording (quote : isQuote mark = true) {deletion : Deletion}
    (wellFormed : deletion.WellFormed) : (deletion.wording mark).Faithful := by
  refine Wording.Faithful.spaced fun part member => ?_
  rcases List.mem_append.mp member with head | tests
  · simp only [List.mem_cons, List.not_mem_nil, or_false] at head
    rcases head with rfl | rfl | rfl
    · exact Reads.ofKeyword _
    · exact Reads.ofKeyword _
    · exact Reads.ofName wellFormed.table
  · exact faithful_whereParts quote wellFormed.conditions tests

/-- The text of a well-formed statement is read as its tokens. -/
theorem Statement.reads_render (quote : isQuote mark = true) {statement : Statement}
    (wellFormed : statement.WellFormed) :
    Reads (statement.render mark) (statement.tokens mark) := by
  cases statement with
  | select query => exact Query.faithful_wording quote wellFormed
  | insert insertion => exact Insertion.faithful_wording quote wellFormed
  | delete deletion => exact Deletion.faithful_wording quote wellFormed

end Statements

end TableQuery
