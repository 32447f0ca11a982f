import Mathlib.Data.List.Basic
import TableQuery.Proofs.DeleteSelect
import TableQuery.Proofs.InsertedRows
import TableQuery.Proofs.Names

/-!
What is inserted is found again, from text to text.

A literal takes two ways through a statement. An insert stores what it says as a text; a
condition compares what a cell says with what the literal says, both read as literals once
more. So the same literal text meets its own cell whatever it says, also when it is in
quotes once more, looks like a number or is too large for one: both sides are the same
reading of the same text, and such a value is equal to itself (`Value.holds_ofLiteral`).
-/

namespace TableQuery

open Clause

/-! ## Literals of a text -/

/-- A literal that is not null, as it is written in a statement: a text between two quotes, or
a number with a minus or without. -/
inductive Literal
  | quoted (mark : Char) (s : String)
  | number (negative : Bool) (digits : String)

namespace Literal

/-- What a literal says. -/
def content : Literal → String
  | quoted _ s => s
  | number negative digits => if negative then "-" ++ digits else digits

/-- The text of a literal: in quotes every quote is doubled. -/
def text : Literal → String
  | quoted mark s => Token.inQuotes mark s
  | number negative digits => if negative then "-" ++ digits else digits

/-- The tokens of a literal. -/
def tokens : Literal → List Token
  | quoted _ s => [.text s]
  | number negative digits => if negative then [.minus, .number digits] else [.number digits]

/-- A literal with its tokens. -/
def wording (written : Literal) : Wording := ⟨written.text, written.tokens⟩

/-- What makes a literal one that can be written. -/
def WellFormed : Literal → Prop
  | quoted mark _ => Token.isQuote mark = true
  | number _ digits => IsNumberText digits

/-- What an insert statement makes of a literal. -/
def constant : Literal → Constant
  | quoted _ s => .text s
  | number negative digits => .number (if negative then "-" ++ digits else digits)

variable {written : Literal}

theorem faithful_wording (wellFormed : written.WellFormed) : written.wording.Faithful := by
  cases written with
  | quoted mark s => exact Token.Reads.ofQuoted wellFormed s
  | number negative digits =>
    cases negative with
    | false => exact Token.Reads.ofNumber wellFormed
    | true => exact (Token.Reads.ofNumber wellFormed).minus

theorem toValue_constant (written : Literal) :
    written.constant.toValue = .text written.content := by
  cases written <;> rfl

theorem wellFormed_constant (wellFormed : written.WellFormed) : written.constant.WellFormed := by
  cases written with
  | quoted mark s => trivial
  | number negative digits =>
    cases negative with
    | false => exact Or.inl wellFormed
    | true => exact Or.inr ⟨digits, wellFormed, rfl⟩

theorem tokens_constant (wellFormed : written.WellFormed) (mark : Char) :
    (written.constant.wording mark).tokens = written.tokens := by
  cases written with
  | quoted _ s => rfl
  | number negative digits =>
    cases negative with
    | false => exact Constant.numberTokens_of_plain wellFormed
    | true => exact Constant.numberTokens_minus digits

theorem literal_tokens (written : Literal) :
    Phrase.literal written.tokens = .ok (written.content, []) := by
  cases written with
  | quoted mark s => rfl
  | number negative digits => cases negative <;> rfl

theorem plain_tokens (written : Literal) : ∀ token ∈ written.tokens,
    token ≠ .openParen ∧ token ≠ .closeParen ∧ token ≠ .semicolon ∧ ∀ k, token ≠ .keyword k := by
  cases written with
  | quoted mark s => simp [tokens]
  | number negative digits => cases negative <;> simp [tokens]

end Literal

/-! ## The insert -/

/-- The text of an insert statement of some columns with their literals. -/
def insertText (name : String) (entries : List (String × Literal)) : String :=
  "INSERT INTO " ++ name ++ " (" ++ ", ".intercalate (entries.map (·.1)) ++ ") VALUES (" ++
    ", ".intercalate (entries.map (·.2.text)) ++ ")"

/-- The insert statement of some columns with their literals. -/
def insertionOf (name : String) (entries : List (String × Literal)) : Insertion :=
  ⟨name, entries.map (·.1), entries.map (·.2.constant)⟩

section Insert

variable {name : String} {entries : List (String × Literal)}

/-- The words of an insert statement of some columns with their literals. -/
def insertWords (name : String) (entries : List (String × Literal)) : Wording :=
  .spaced [.word .insert, .word .into, .name name,
    .inParens (.listed ((entries.map (·.1)).map .column)), .word .values,
    .inParens (.listed (entries.map (·.2.wording)))]

theorem insertWords_text (name : String) (entries : List (String × Literal)) :
    (insertWords name entries).text = insertText name entries := by
  have listed {α : Type} (items : List α) (wording : α → Wording) :
      (Wording.listed (items.map wording)).text =
        ", ".intercalate (items.map fun item => (wording item).text) := by
    simp only [Wording.listed, Wording.joined, List.map_map, Function.comp_def]
  have columns : (Wording.listed ((entries.map (·.1)).map .column)).text =
      ", ".intercalate (entries.map (·.1)) := by
    rw [listed]
    exact congrArg _ (List.map_id _)
  have literals : (Wording.listed (entries.map (·.2.wording))).text =
      ", ".intercalate (entries.map (·.2.text)) := listed _ _
  have into : "INSERT INTO " = "INSERT" ++ " " ++ "INTO" ++ " " := rfl
  have values : ") VALUES (" = ")" ++ " " ++ "VALUES" ++ " " ++ "(" := rfl
  have opened : " (" = " " ++ "(" := rfl
  simp only [insertWords, Wording.spaced, Wording.joined, Wording.inParens, List.map_cons,
    List.map_nil, String.intercalate_cons_cons, String.intercalate_singleton]
  unfold insertText
  rw [columns, literals, into, values, opened]
  simp only [Wording.word, Wording.name, Keyword.word, String.append_assoc]

theorem faithful_insertWords (named : isName name = true)
    (bare : ∀ entry ∈ entries, isName entry.1 = true)
    (written : ∀ entry ∈ entries, entry.2.WellFormed) : (insertWords name entries).Faithful := by
  refine Wording.faithful_insert named (fun column member => ?_) fun value member => ?_
  · obtain ⟨entry, given, rfl⟩ := List.mem_map.mp member
    exact isColumn_of_isName (bare entry given)
  · obtain ⟨entry, given, rfl⟩ := List.mem_map.mp member
    exact Literal.faithful_wording (written entry given)

theorem insertWords_tokens (written : ∀ entry ∈ entries, entry.2.WellFormed) :
    (insertWords name entries).tokens =
      (Statement.insert (insertionOf name entries)).tokens '\x27' := by
  have values : entries.map (·.2.tokens) =
      entries.map fun entry => (entry.2.constant.wording '\x27').tokens :=
    List.map_congr_left fun entry member =>
      (Literal.tokens_constant (written entry member) '\x27').symm
  simp [insertWords, Statement.tokens, Statement.wording, Insertion.wording, insertionOf,
    Wording.spaced, Wording.joined, Wording.listed, Wording.inParens, Literal.wording,
    Function.comp_def, values]

theorem wellFormed_insertionOf (named : isName name = true) (someEntry : entries ≠ [])
    (bare : ∀ entry ∈ entries, isName entry.1 = true)
    (written : ∀ entry ∈ entries, entry.2.WellFormed) :
    (insertionOf name entries).WellFormed where
  table := named
  someColumn := by simpa [insertionOf] using someEntry
  columns column member := by
    obtain ⟨entry, given, rfl⟩ := List.mem_map.mp member
    exact isColumn_of_isName (bare entry given)
  values value member := by
    obtain ⟨entry, given, rfl⟩ := List.mem_map.mp member
    exact Literal.wellFormed_constant (written entry given)
  sameLength := by simp [insertionOf]

theorem ofText_insertText (named : isName name = true) (someEntry : entries ≠ [])
    (bare : ∀ entry ∈ entries, isName entry.1 = true)
    (written : ∀ entry ∈ entries, entry.2.WellFormed) :
    Statement.ofText (insertText name entries) = .ok (.insert (insertionOf name entries)) := by
  have wellFormed : (Statement.insert (insertionOf name entries)).WellFormed :=
    wellFormed_insertionOf named someEntry bare written
  have bareColumns : (Statement.insert (insertionOf name entries)).bareColumns = true := by
    refine List.all_eq_true.mpr fun column member => ?_
    obtain ⟨entry, given, rfl⟩ := List.mem_map.mp member
    exact bare entry given
  have read := Statement.ofTokens_tokens wellFormed (Or.inl (insertWords_tokens written))
  rw [Statement.ofText, Token.ofText, ← insertWords_text,
    (faithful_insertWords named bare written).scan?_eq]
  exact read.trans (if_pos bareColumns)

/-- Each listed column is given what its literal says. -/
theorem cell_insertionOf (distinct : (entries.map (·.1)).Nodup) {entry : String × Literal}
    (member : entry ∈ entries) :
    (insertionOf name entries).cell entry.1 = .text entry.2.content := by
  have pairs : (insertionOf name entries).columns.zip (insertionOf name entries).values =
      entries.map fun entry => (entry.1, entry.2.constant) := by
    rw [insertionOf, List.zip_map']
  have found : (insertionOf name entries).literal? entry.1 = some entry.2.constant := by
    rw [Insertion.literal?, pairs]
    refine NameMap.get?_ofList_of_mem ?_ (List.mem_map.mpr ⟨entry, member, rfl⟩)
    simpa [Function.comp_def] using distinct
  rw [Insertion.cell, found, Option.map_some, Option.getD_some, Literal.toValue_constant]

/-- Every other column is given null. -/
theorem cell_insertionOf_of_not_mem {column : String} (absent : column ∉ entries.map (·.1)) :
    (insertionOf name entries).cell column = .null := by
  have none : (insertionOf name entries).literal? column = none := by
    cases found : (insertionOf name entries).literal? column with
    | none => rfl
    | some constant =>
      rcases NameMap.mem_of_get?_insertAll found with early | given
      · cases early
      · exact absurd (List.of_mem_zip given).1 absent
  rw [Insertion.cell, none]
  rfl

/-- An insert that names columns of the header leaves its row at the end of the table. -/
theorem Session.execute_insertionOf {store : MemoryStore} {table : Table}
    (read : store.read name = .ok table) (someEntry : entries ≠ [])
    (known : ∀ entry ∈ entries, entry.1 ∈ table.columns) :
    Session.execute store (.insert (insertionOf name entries)) =
      (.ok (.inserted 1), store.write { table with
        rows := table.rows ++ [(insertionOf name entries).row table.columns] }) := by
  have header : (insertionOf name entries).header table = table.columns := by
    refine if_neg fun none => ?_
    obtain ⟨entry, rest, rfl⟩ := List.exists_cons_of_ne_nil someEntry
    have member := known entry List.mem_cons_self
    rw [none] at member
    cases member
  have sameLength :
      (insertionOf name entries).columns.length = (insertionOf name entries).values.length := by
    simp [insertionOf]
  have listed : ∀ column ∈ (insertionOf name entries).columns,
      column ∈ (insertionOf name entries).header table := by
    intro column member
    obtain ⟨entry, given, rfl⟩ := List.mem_map.mp member
    rw [header]
    exact known entry given
  have stored : Store.read store (insertionOf name entries).table = .ok table := read
  have inserted := Table.insertRow_of_known sameLength listed
  rw [header] at inserted
  simp only [execute, runStatement_eq, Statement.toPlan, bind, Except.bind, Plan.run,
    Plan.insertInto, stored, inserted]
  rfl

end Insert

/-! ## The select -/

namespace Value

/-- A value that is no float, or a float that is a number, is equal to itself. -/
theorem holds_self {value : Value} (number : ∀ x, value = .float x → x.isNaN = false) :
    Operator.equal.holds value value = true := by
  cases value with
  | null => rfl
  | integer n => simp [Operator.holds, Operator.accepts, compare?]
  | float x => simp [Operator.holds, Operator.accepts, compare?, Binary64.compare?, number x rfl]
  | text s => simp [Operator.holds, Operator.accepts, compare?]

/-- A literal reads as an integer, as a finite float or as a text. -/
theorem ofLiteral_cases (literal : String) :
    (∃ n, ofLiteral literal = .integer n) ∨
      (∃ x : Binary64, ofLiteral literal = .float x ∧ x.isFinite = true) ∨
      ∃ s, ofLiteral literal = .text s := by
  unfold ofLiteral numeral?
  dsimp only
  cases integer? (Text.trim (stripQuotes literal.toList)) with
  | some n => exact .inl ⟨n, rfl⟩
  | none =>
    cases (Decimal.ofText? (Text.trim (stripQuotes literal.toList))).map Decimal.toBinary64 with
    | none => exact .inr (.inr ⟨_, rfl⟩)
    | some x =>
      dsimp only
      by_cases finite : x.isFinite = true
      · rw [if_pos finite]
        exact .inr (.inl ⟨x, rfl, finite⟩)
      · rw [if_neg finite]
        exact .inr (.inr ⟨_, rfl⟩)

/-- No literal reads as a float that is not a number. -/
theorem isNaN_of_ofLiteral {literal : String} {x : Binary64}
    (read : ofLiteral literal = .float x) : x.isNaN = false := by
  rcases ofLiteral_cases literal with ⟨n, same⟩ | ⟨y, same, finite⟩ | ⟨s, same⟩
  · cases read.symm.trans same
  · cases read.symm.trans same
    have below := of_decide_eq_true finite
    exact decide_eq_false (Nat.not_lt.mpr (Nat.le_of_lt below))
  · cases read.symm.trans same

/-- What a literal reads as is equal to itself. -/
theorem holds_ofLiteral (literal : String) :
    Operator.equal.holds (ofLiteral literal) (ofLiteral literal) = true :=
  holds_self fun _ read => isNaN_of_ofLiteral read

end Value

/-- The condition that a column is equal to a literal. -/
def equalTo (column : String) (written : Literal) : Condition :=
  ⟨column, .equal, written.content⟩

section Select

variable {column : String} {written : Literal}

/-- The words of a condition on a column and a literal. -/
def equalToWords (column : String) (written : Literal) : Wording :=
  .spaced [.name column, ⟨"=", [.equal]⟩, written.wording]

theorem equalToWords_tokens (column : String) (written : Literal) :
    (equalToWords column written).tokens = .ident column :: .equal :: written.tokens := by
  simp [equalToWords, Wording.spaced, Wording.joined, Wording.name, Literal.wording]

theorem ofText_equalTo (named : isName column = true) (wellFormed : written.WellFormed) :
    Token.ofText (column ++ " = " ++ written.text) =
      .ok (.ident column :: .equal :: written.tokens) := by
  have faithful : (equalToWords column written).Faithful := by
    refine Wording.Faithful.spaced fun part member => ?_
    simp only [List.mem_cons, List.not_mem_nil, or_false] at member
    rcases member with rfl | rfl | rfl
    · exact Token.Reads.ofName named
    · exact Operator.faithful_token .equal
    · exact Literal.faithful_wording wellFormed
  have text : column ++ " = " ++ written.text = (equalToWords column written).text := by
    simp [equalToWords, Wording.spaced, Wording.joined, Wording.name, Literal.wording,
      ← String.toList_inj]
  rw [Token.ofText, text, faithful.scan?_eq, equalToWords_tokens]

theorem plain_equalTo (column : String) (written : Literal) :
    ∀ token ∈ Token.ident column :: .equal :: written.tokens,
      token ≠ .openParen ∧ token ≠ .closeParen ∧ token ≠ .semicolon ∧
        ∀ k, token ≠ .keyword k := by
  intro token member
  simp only [List.mem_cons] at member
  rcases member with rfl | rfl | member
  · simp
  · simp
  · exact written.plain_tokens token member

theorem conditionsOfText_equalTo (named : isName column = true)
    (wellFormed : written.WellFormed) :
    conditionsOfText (column ++ " = " ++ written.text) = .ok [equalTo column written] := by
  have plain := plain_equalTo column written
  have unclosed : dropSemicolon (.ident column :: .equal :: written.tokens) =
      .ident column :: .equal :: written.tokens :=
    dropSemicolon_of_not_mem fun member => (plain _ member).2.2.1 rfl
  have solid : Solid isConnective (.ident column :: .equal :: written.tokens) :=
    Solid.of_forall fun token member => by
      obtain ⟨notOpen, notClose, _, noKeyword⟩ := plain token member
      exact ⟨notOpen, notClose, by simp [isConnective, noKeyword]⟩
  have alone : segments isConnective 0 (.ident column :: .equal :: written.tokens) =
      [.ident column :: .equal :: written.tokens] := by
    have found := @segments_intercalate isConnective (.keyword .and)
      [.ident column :: .equal :: written.tokens] rfl (by simp) (by simp) (by simp)
      (by simpa using solid)
    simpa using found
  have read : condition (.ident column :: .equal :: written.tokens) =
      .ok (equalTo column written) := by
    have sign : Operator.ofText? Token.equal.display = some .equal := by decide
    rw [condition]
    simp only [Phrase.column, Phrase.ident, bind, Except.bind, Phrase.columnEnd, sign,
      written.literal_tokens]
    rfl
  rw [conditionsOfText, ofText_equalTo named wellFormed]
  have someToken : Token.ident column :: .equal :: written.tokens ≠ [] := List.cons_ne_nil _ _
  simp only [bind, Except.bind, unclosed, conditions, if_neg someToken, alone, List.mapM_cons,
    List.mapM_nil, read]
  rfl

theorem unclaused_equalTo (column : String) (written : Literal) :
    Unclaused (.ident column :: .equal :: written.tokens) := by
  have noKeyword (k : Keyword) : .keyword k ∉ Token.ident column :: .equal :: written.tokens :=
    fun member => (plain_equalTo column written _ member).2.2.2 k rfl
  exact ⟨noKeyword .limit, not_pair_of_not_mem (noKeyword .order),
    not_pair_of_not_mem (noKeyword .group)⟩

theorem ofText_selectEqualTo {name : String} (tableNamed : isName name = true)
    (named : isName column = true) (wellFormed : written.WellFormed) :
    Statement.ofText ("SELECT * FROM " ++ name ++ " WHERE " ++ column ++ " = " ++ written.text) =
      .ok (.select (.selectAll name [equalTo column written])) := by
  have unclaused : ∀ tokens, Token.ofText (column ++ " = " ++ written.text) = .ok tokens →
      Unclaused tokens := by
    intro tokens scanned
    rw [ofText_equalTo named wellFormed] at scanned
    cases scanned
    exact unclaused_equalTo column written
  have read := ofText_selectWhere tableNamed unclaused
  rw [conditionsOfText_equalTo named wellFormed] at read
  have text : "SELECT * FROM " ++ name ++ " WHERE " ++ column ++ " = " ++ written.text =
      "SELECT * FROM " ++ name ++ " WHERE " ++ (column ++ " = " ++ written.text) := by
    simp [← String.toList_inj]
  rw [text, read]
  rfl

open Condition

theorem evaluateAll_equalTo {row : Row} {value : Value} (found : row.get? column = some value) :
    evaluateAll row [equalTo column written] = .ok ((equalTo column written).test value) := by
  have evaluated : (equalTo column written).evaluate row =
      .ok ((equalTo column written).test value) := by
    simp only [evaluate, Row.lookup, Row.lookup?, equalTo, found]
    rfl
  exact evaluateAll_singleton evaluated

/-- The condition can be evaluated on every row of its header. -/
theorem decides_equalTo {columns : List String} {row : Row} (fills : row.Fills columns)
    (member : column ∈ columns) : Decides [equalTo column written] row := by
  obtain ⟨value, found⟩ := Option.isSome_iff_exists.mp ((fills column).mpr member)
  exact decides_of_evaluateAll (evaluateAll_equalTo found)

/-- A cell that holds what the literal says meets the condition. -/
theorem meets_equalTo {row : Row} (found : row.get? column = some (.text written.content)) :
    meets [equalTo column written] row = true := by
  have tested : (equalTo column written).test (.text written.content) = true :=
    Value.holds_ofLiteral written.content
  rw [meets, evaluateAll_equalTo found, tested]

end Select

/-! ## Both statements -/

namespace Session

open Condition

/-- What is inserted is found again. The select of every column shows the earlier rows and
behind them a row with each literal's content in its column and null in the others, and the
select by any one of the columns and its literal shows that row last. -/
theorem select_inserted {store : MemoryStore} {name : String} {table : Table}
    {entries : List (String × Literal)} (named : isName name = true)
    (read : store.read name = .ok table) (filled : table.Filled)
    (bare : ∀ column ∈ table.columns, isName column = true) (someEntry : entries ≠ [])
    (distinct : (entries.map (·.1)).Nodup)
    (known : ∀ entry ∈ entries, entry.1 ∈ table.columns)
    (written : ∀ entry ∈ entries, entry.2.WellFormed) :
    ∃ row after,
      executeText store (insertText name entries) = (.ok (.inserted 1), after) ∧
      row.Fills table.columns ∧
      (∀ entry ∈ entries, row.get? entry.1 = some (.text entry.2.content)) ∧
      (∀ column ∈ table.columns, column ∉ entries.map (·.1) → row.get? column = some .null) ∧
      executeText after ("SELECT * FROM " ++ name) =
        (.ok (.rows ⟨table.columns, table.rows ++ [row]⟩), after) ∧
      ∀ entry ∈ entries,
        executeText after
            ("SELECT * FROM " ++ name ++ " WHERE " ++ entry.1 ++ " = " ++ entry.2.text) =
          (.ok (.rows ⟨table.columns,
            table.rows.filter (meets [equalTo entry.1 entry.2]) ++ [row]⟩), after) := by
  let row := (insertionOf name entries).row table.columns
  let grown : Table := { table with rows := table.rows ++ [row] }
  have fills : row.Fills table.columns := (insertionOf name entries).fills_row table.columns
  have cell (column : String) (member : column ∈ table.columns) :
      row.get? column = some ((insertionOf name entries).cell column) :=
    ((insertionOf name entries).get?_row table.columns column).trans (if_pos member)
  have literals : ∀ entry ∈ entries, row.get? entry.1 = some (.text entry.2.content) := by
    intro entry member
    rw [cell _ (known entry member), cell_insertionOf distinct member]
  have grownFilled : grown.Filled := by
    intro found member
    rcases List.mem_append.mp member with old | new
    · exact filled found old
    · cases List.mem_singleton.mp new
      exact fills
  have grownRead : Store.read (store.write grown) name = .ok grown :=
    (store.read_write grown name).trans (if_pos (MemoryStore.name_of_read read))
  refine ⟨row, store.write grown, ?inserted, fills, literals, fun column member absent => ?nulls,
    ?all, fun entry listed => ?one⟩
  case inserted =>
    have parsed := ofText_insertText named someEntry
      (fun entry member => bare _ (known entry member)) written
    rw [executeText_of_ok store parsed, execute_insertionOf read someEntry known]
  case nulls =>
    rw [cell column member, cell_insertionOf_of_not_mem absent]
  case all =>
    rw [executeText_of_ok _ (ofText_selectAll named),
      execute_selectAll_of_filled grownRead grownFilled]
  case one =>
    have member := known entry listed
    have decides : ∀ row ∈ grown.rows, Decides [equalTo entry.1 entry.2] row :=
      fun row inside => decides_equalTo (grownFilled row inside) member
    have parsed := ofText_selectEqualTo named (bare _ member) (written entry listed)
    have last : meets [equalTo entry.1 entry.2] row = true := meets_equalTo (literals entry listed)
    rw [executeText_of_ok _ parsed, execute_selectAll_of_decides grownRead grownFilled decides,
      List.filter_append, List.filter_cons, if_pos last, List.filter_nil]

/-- A number with a minus and a text that is in quotes itself. The earlier row has the same
number in another form. -/
theorem select_inserted_quoted :
    let table := Table.ofRecords "t" ["a", "b", "c"] [["1", "x", "-2.0"], ["2", "y", "2"]]
    let store := MemoryStore.ofTables [table]
    let entries := [("c", Literal.number true "2"), ("a", .quoted '\x27' "\x27it\x22s\x27")]
    insertText "t" entries = "INSERT INTO t (c, a) VALUES (-2, \x27\x27\x27it\x22s\x27\x27\x27)" ∧
    ∃ row after,
      executeText store (insertText "t" entries) = (.ok (.inserted 1), after) ∧
      row.get? "a" = some (.text "\x27it\x22s\x27") ∧ row.get? "b" = some .null ∧
      row.get? "c" = some (.text "-2") ∧
      executeText after "SELECT * FROM t WHERE c = -2" = (.ok (.rows ⟨["a", "b", "c"],
        [Table.rowOfTexts ["a", "b", "c"] ["1", "x", "-2.0"], row]⟩), after) ∧
      executeText after "SELECT * FROM t WHERE a = \x27\x27\x27it\x22s\x27\x27\x27" =
        (.ok (.rows ⟨["a", "b", "c"], [row]⟩), after) := by
  intro table store entries
  have digits : IsNumberText "2" :=
    ⟨['2'], [], [], rfl, ⟨by decide, List.all_eq_true.mp rfl⟩, .absent, .absent⟩
  have written : ∀ entry ∈ entries, entry.2.WellFormed := by
    intro entry member
    rcases List.mem_cons.mp member with rfl | member
    · exact digits
    · cases List.mem_singleton.mp member
      exact (by decide : Token.isQuote '\x27' = true)
  obtain ⟨row, after, inserted, _, literals, nulls, _, one⟩ :=
    @select_inserted store "t" table entries (by decide) rfl
      (Table.filled_ofRecords (by decide)) (by decide) (by decide) (by decide) (by decide) written
  have byNumber := one _ List.mem_cons_self
  have byText := one _ (List.mem_cons_of_mem _ List.mem_cons_self)
  have sameNumber : table.rows.filter (meets [equalTo "c" (.number true "2")]) =
      [Table.rowOfTexts ["a", "b", "c"] ["1", "x", "-2.0"]] := by decide +kernel
  have noText : table.rows.filter (meets [equalTo "a" (.quoted '\x27' "\x27it\x22s\x27")]) =
      [] := by decide +kernel
  rw [sameNumber] at byNumber
  rw [noText] at byText
  exact ⟨by decide, row, after, inserted, literals _ (List.mem_cons_of_mem _ List.mem_cons_self),
    nulls "b" (by decide) (by decide), literals _ List.mem_cons_self, byNumber, byText⟩

/-- What the conditions keep out: an insert without columns, and a table whose name is a
keyword. Neither can be written, so there is no new row. -/
theorem select_inserted_refused :
    let store (name : String) := MemoryStore.ofTables [Table.ofRecords name ["a"] [["1"]]]
    let finds (name : String) (entries : List (String × Literal)) : Prop :=
      ∃ row, (executeText (executeText (store name) (insertText name entries)).2
        ("SELECT * FROM " ++ name)).1 =
          .ok (.rows ⟨["a"], [Table.rowOfTexts ["a"] ["1"]] ++ [row]⟩)
    insertText "t" [] = "INSERT INTO t () VALUES ()" ∧ ¬ finds "t" [] ∧
      insertText "order" [("a", .number false "2")] = "INSERT INTO order (a) VALUES (2)" ∧
      ¬ finds "order" [("a", .number false "2")] := by
  intro store finds
  refine ⟨by decide, fun ⟨row, found⟩ => ?_, by decide, fun ⟨row, found⟩ => ?_⟩
  · have kept : (executeText (executeText (store "t") (insertText "t" [])).2
        ("SELECT * FROM " ++ "t")).1 = .ok (.rows ⟨["a"], [Table.rowOfTexts ["a"] ["1"]]⟩) := by
      decide +kernel
    rw [kept] at found
    cases found
  · have refused : (executeText (executeText (store "order")
        (insertText "order" [("a", .number false "2")])).2 ("SELECT * FROM " ++ "order")).1 =
          .error (.execution (.parse (.expectedIdent (.keyword .order)))) := by
      decide +kernel
    rw [refused] at found
    cases found

end Session

end TableQuery
