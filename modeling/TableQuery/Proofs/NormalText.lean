import TableQuery.Proofs.ParsedStatement

/-!
What the tokens of a text say about the text.

`Token.SpelledAs` lists the texts that a token can be written as, and a text is `Token.Spelled`
by tokens when such texts stand in it one after another with nothing but blanks between them.
Neither speaks of scanning. A text is scanned into tokens that spell it, unless it comes to a
quote behind which every quote of its kind is doubled up to the end (`Token.Unclosed`). Tokens
are told from each other whenever they are written with spaces between them, so their normal
text is scanned into the same tokens (`Token.ofText_normalText`).
-/

namespace TableQuery.Token

/-! ## Spellings -/

/-- The tokens that are always written as they are shown: the signs. -/
def signs : List Token :=
  [openParen, closeParen, comma, semicolon, period, asterisk, minus, equal, notEqual, greater,
    greaterOrEqual, less, lessOrEqual]

/-- The characters that are signs by themselves. -/
def signChars : List Char :=
  ['(', ')', ',', ';', '.', '*', '-', '=', '>', '<']

/-- The texts that a token is written as. -/
inductive SpelledAs : Token → List Char → Prop
  /-- A reserved word, in whatever case. -/
  | keyword {k : Keyword} {c : Char} {tail : List Char} :
    startsIdent c = true → (∀ d ∈ tail, continuesIdent d = true) →
    Text.capitals (String.ofList (c :: tail)) = k.word → SpelledAs (keyword k) (c :: tail)
  | ident {name : String} : isName name = true → SpelledAs (ident name) name.toList
  /-- A text in quotes of either kind, with these quotes doubled inside. -/
  | text {mark : Char} (s : String) : isQuote mark = true →
    SpelledAs (text s) (inQuotes mark s).toList
  | number {digits : String} : IsNumberText digits → SpelledAs (number digits) digits.toList
  | sign {token : Token} : token ∈ signs → SpelledAs token token.display.toList
  | unequal : SpelledAs notEqual ['<', '>']
  /-- A character that belongs to no other token. -/
  | other {c : Char} : isSymbol c = true → c ∉ signChars → SpelledAs (other c) [c]

/-- A text that is made of spellings of tokens, in the order of these, and of blanks between
them. -/
inductive Spelled : List Token → List Char → Prop
  | blank {blanks : List Char} : Text.allBlank blanks = true → Spelled [] blanks
  | token {token : Token} {tokens : List Token} {blanks spelling rest : List Char} :
    Text.allBlank blanks = true → SpelledAs token spelling → Spelled tokens rest →
    Spelled (token :: tokens) (blanks ++ (spelling ++ rest))

/-- A text that comes, behind whole tokens, to a quote that is never closed: all quotes of its
kind behind it are doubled. -/
def Unclosed (cs : List Char) : Prop :=
  ∃ front tokens mark inner, cs = front ++ mark :: doubled mark inner ∧
    isQuote mark = true ∧ Spelled tokens front

/-! ## Lexemes spell their tokens -/

theorem doubled_cons_self (mark : Char) (cs : List Char) :
    doubled mark (mark :: cs) = mark :: mark :: doubled mark cs := by
  simp [doubled]

theorem doubled_cons_of_ne {mark c : Char} (other : c ≠ mark) (cs : List Char) :
    doubled mark (c :: cs) = c :: doubled mark cs := by
  simp [doubled, other]

/-- The inside of a quoted text ends at the first quote that is not doubled. -/
theorem quoted?_eq_some {mark : Char} {cs inner after : List Char}
    (read : quoted? mark cs = some (inner, after)) : cs = doubled mark inner ++ mark :: after := by
  fun_induction quoted? mark cs generalizing inner with
  | case1 => cases read
  | case2 =>
    cases read
    rfl
  | case3 => cases read
  | case4 rest ih =>
    obtain ⟨⟨front, back⟩, later, same⟩ := Option.map_eq_some_iff.mp read
    cases same
    rw [ih later, doubled_cons_self]
    rfl
  | case5 =>
    cases read
    rfl
  | case6 c d rest other ih =>
    obtain ⟨⟨front, back⟩, later, same⟩ := Option.map_eq_some_iff.mp read
    cases same
    rw [ih later, doubled_cons_of_ne other]
    rfl

/-- A quoted text without an end has no quote that is not doubled. -/
theorem quoted?_eq_none {mark : Char} {cs : List Char} (fails : quoted? mark cs = none) :
    ∃ inner, cs = doubled mark inner := by
  fun_induction quoted? mark cs with
  | case1 => exact ⟨[], rfl⟩
  | case2 => cases fails
  | case3 c other => exact ⟨[c], (doubled_cons_of_ne other []).symm⟩
  | case4 rest ih =>
    obtain ⟨inner, rfl⟩ := ih (Option.map_eq_none_iff.mp fails)
    exact ⟨mark :: inner, (doubled_cons_self mark inner).symm⟩
  | case5 => cases fails
  | case6 c d rest other ih =>
    obtain ⟨inner, same⟩ := ih (Option.map_eq_none_iff.mp fails)
    exact ⟨c :: inner, by rw [same, doubled_cons_of_ne other]⟩

theorem fraction_append_snd (cs : List Char) : (fraction cs).1 ++ (fraction cs).2 = cs := by
  unfold fraction
  split
  · rw [List.cons_append, List.takeWhile_append_dropWhile]
  · rfl

theorem exponentSign_append_snd (cs : List Char) :
    (exponentSign cs).1 ++ (exponentSign cs).2 = cs := by
  unfold exponentSign
  split
  · split <;> rfl
  · rfl

theorem exponent_append_snd (cs : List Char) : (exponent cs).1 ++ (exponent cs).2 = cs := by
  cases cs with
  | nil => rfl
  | cons c rest =>
    have sign := exponentSign_append_snd rest
    rw [exponent]
    split
    rename_i signChars digits shape
    rw [shape] at sign
    split
    · dsimp only at sign ⊢
      rw [← sign, List.cons_append, List.cons_append, List.append_assoc,
        List.takeWhile_append_dropWhile]
    · rfl

theorem spelledAs_numberLexeme {c : Char} (digit : c.isDigit = true) (rest : List Char) :
    ∃ spelling, SpelledAs (numberLexeme (c :: rest)).1 spelling ∧
      c :: rest = spelling ++ (numberLexeme (c :: rest)).2 := by
  have wellFormed := (wellFormed_numberLexeme digit rest).number rfl
  refine ⟨_, .number wellFormed, ?_⟩
  have whole := List.takeWhile_append_dropWhile (p := Char.isDigit) (l := c :: rest)
  have point := fraction_append_snd ((c :: rest).dropWhile Char.isDigit)
  have power := exponent_append_snd (fraction ((c :: rest).dropWhile Char.isDigit)).2
  rw [String.toList_ofList, List.append_assoc, List.append_assoc]
  exact (whole.symm.trans (congrArg _ (point.symm.trans (congrArg _ power.symm))))

theorem capitals_of_ofIdent? {name : String} {k : Keyword}
    (found : Keyword.ofIdent? name = some k) : Text.capitals name = k.word := by
  unfold Keyword.ofIdent? at found
  have same := List.find?_some found
  exact (beq_iff_eq.mp same).symm

theorem spelledAs_ofName {c : Char} {tail : List Char} (starts : startsIdent c = true)
    (continues : ∀ d ∈ tail, continuesIdent d = true) :
    SpelledAs (ofName (String.ofList (c :: tail))) (c :: tail) := by
  have wellFormed := wellFormed_ofName starts continues
  unfold ofName at wellFormed ⊢
  split
  · rename_i found
    exact .keyword starts continues (capitals_of_ofIdent? found)
  · rename_i noKeyword
    rw [noKeyword] at wellFormed
    have named := SpelledAs.ident (wellFormed.name rfl)
    rwa [String.toList_ofList] at named

/-- A symbol takes the characters that spell it. -/
theorem spelledAs_symbolLexeme {c : Char} (symbol : isSymbol c = true) (rest : List Char) :
    ∃ spelling, SpelledAs (symbolLexeme c rest).1 spelling ∧
      c :: rest = spelling ++ (symbolLexeme c rest).2 := by
  unfold symbolLexeme
  split
  case h_13 => exact ⟨_, .unequal, rfl⟩
  case h_15 => exact ⟨_, .other symbol (by simp_all [signChars]), rfl⟩
  all_goals
    dsimp only
    exact ⟨_, .sign (by simp [signs]), rfl⟩

theorem spelledAs_of_lexeme? {c : Char} {rest after : List Char} {token : Token}
    (notBlank : Text.isBlank c = false) (read : lexeme? c rest = some (token, after)) :
    ∃ spelling, SpelledAs token spelling ∧ c :: rest = spelling ++ after := by
  rw [lexeme?] at read
  split at read
  · rename_i quote
    obtain ⟨⟨inner, left⟩, closed, same⟩ := Option.map_eq_some_iff.mp read
    cases same
    refine ⟨_, .text _ quote, ?_⟩
    rw [inQuotes, String.toList_ofList, String.toList_ofList, quoted?_eq_some closed]
    simp
  · rename_i noQuote
    split at read
    · rename_i digit
      have number := spelledAs_numberLexeme digit rest
      rwa [Option.some.inj read] at number
    · rename_i noDigit
      split at read
      · rename_i starts
        obtain ⟨rfl, rfl⟩ := Prod.mk.inj (Option.some.inj read)
        refine ⟨_, spelledAs_ofName starts (List.all_eq_true.mp List.all_takeWhile), ?_⟩
        rw [List.cons_append, List.takeWhile_append_dropWhile]
      · rename_i noName
        have symbol : isSymbol c = true := by simp [isSymbol, notBlank, noQuote, noDigit, noName]
        have symbolSpelled := spelledAs_symbolLexeme symbol rest
        rwa [Option.some.inj read] at symbolSpelled

/-! ## Scanned texts -/

/-- What stands before the first character that is not blank is blank. -/
theorem exists_blanks {cs rest : List Char} {c : Char}
    (skipped : cs.dropWhile Text.isBlank = c :: rest) :
    ∃ blanks, Text.allBlank blanks = true ∧ cs = blanks ++ c :: rest ∧ Text.isBlank c = false := by
  refine ⟨cs.takeWhile Text.isBlank, List.all_takeWhile, ?_, ?_⟩
  · rw [← skipped, List.takeWhile_append_dropWhile]
  · have stops := List.head?_dropWhile_not Text.isBlank cs
    rw [skipped] at stops
    simpa using stops

/-- Scanning loses nothing of a text but blanks. -/
theorem spelled_of_scan? {cs : List Char} {tokens : List Token}
    (read : scan? cs = some tokens) : Spelled tokens cs := by
  fun_induction scan? cs generalizing tokens with
  | case1 cs skipped =>
    cases read
    have whole := List.takeWhile_append_dropWhile (p := Text.isBlank) (l := cs)
    rw [skipped, List.append_nil] at whole
    exact .blank (whole ▸ List.all_takeWhile)
  | case2 => cases read
  | case3 cs c rest skipped token after lexeme _ ih =>
    obtain ⟨later, scanned, rfl⟩ := Option.map_eq_some_iff.mp read
    obtain ⟨blanks, blank, rfl, notBlank⟩ := exists_blanks skipped
    obtain ⟨spelling, spelled, shape⟩ := spelledAs_of_lexeme? notBlank lexeme
    rw [shape]
    exact .token blank spelled (ih scanned)

theorem Unclosed.behind {token : Token} {blanks spelling rest : List Char}
    (blank : Text.allBlank blanks = true) (spelled : SpelledAs token spelling)
    (unclosed : Unclosed rest) : Unclosed (blanks ++ (spelling ++ rest)) := by
  obtain ⟨front, tokens, mark, inner, rfl, quote, before⟩ := unclosed
  exact ⟨blanks ++ (spelling ++ front), token :: tokens, mark, inner, by simp, quote,
    .token blank spelled before⟩

/-- Scanning fails at nothing but a quote that is never closed. -/
theorem unclosed_of_scan? {cs : List Char} (fails : scan? cs = none) : Unclosed cs := by
  fun_induction scan? cs with
  | case1 => cases fails
  | case2 cs c rest skipped noLexeme =>
    obtain ⟨blanks, blank, rfl, _⟩ := exists_blanks skipped
    rw [lexeme?] at noLexeme
    split at noLexeme
    · rename_i quote
      obtain ⟨inner, rfl⟩ := quoted?_eq_none (Option.map_eq_none_iff.mp noLexeme)
      exact ⟨blanks, [], c, inner, rfl, quote, .blank blank⟩
    · split at noLexeme
      · cases noLexeme
      · split at noLexeme <;> cases noLexeme
  | case3 cs c rest skipped token after lexeme _ ih =>
    obtain ⟨blanks, blank, rfl, notBlank⟩ := exists_blanks skipped
    obtain ⟨spelling, spelled, shape⟩ := spelledAs_of_lexeme? notBlank lexeme
    rw [shape]
    exact .behind blank spelled (ih (Option.map_eq_none_iff.mp fails))

/-! ## Open quotes -/

/-- The quote that is open behind a character, from the one that is open before it. A doubled
quote is taken for the end of a text and the start of another one, which leaves the same quote
open. -/
def passQuote (opened : Option Char) (c : Char) : Option Char :=
  match opened with
  | none => if isQuote c then some c else none
  | some mark => if c = mark then none else some mark

theorem foldl_passQuote_none {cs : List Char} (noQuote : ∀ c ∈ cs, isQuote c = false) :
    cs.foldl passQuote none = none := by
  induction cs with
  | nil => rfl
  | cons c rest ih =>
    obtain ⟨first, later⟩ := List.forall_mem_cons.mp noQuote
    rw [List.foldl_cons, passQuote, first]
    exact ih later

theorem foldl_passQuote_doubled (mark : Char) (inner : List Char) (quote : isQuote mark = true) :
    (doubled mark inner).foldl passQuote (some mark) = some mark := by
  induction inner with
  | nil => rfl
  | cons c rest ih =>
    by_cases same : c = mark
    · simp [same, doubled_cons_self, passQuote, quote, ih]
    · simp [same, doubled_cons_of_ne same, passQuote, ih]

theorem isQuote_of_allBlank {blanks : List Char} (blank : Text.allBlank blanks = true) :
    ∀ c ∈ blanks, isQuote c = false :=
  fun c member => isQuote_of_isBlank (List.all_eq_true.mp blank c member)

theorem isQuote_of_continuesIdent {c : Char} (continues : continuesIdent c = true) :
    isQuote c = false :=
  isQuote_eq_false continuesIdent (by decide) (by decide) continues

theorem isQuote_of_isNumberText {digits : String} (spelled : IsNumberText digits) :
    ∀ c ∈ digits.toList, isQuote c = false := by
  obtain ⟨whole, fraction, exponent, shape, isWhole, isFraction, isExponent⟩ := spelled
  intro c member
  rw [shape, List.mem_append, List.mem_append] at member
  rcases member with (inWhole | inFraction) | inExponent
  · exact isQuote_of_isDigit (isWhole.2 c inWhole)
  · cases isFraction with
    | absent => cases inFraction
    | point isDigits =>
      rcases List.mem_cons.mp inFraction with rfl | inDigits
      · decide
      · exact isQuote_of_isDigit (isDigits c inDigits)
  · cases isExponent with
    | absent => cases inExponent
    | @present mark sign digits isMark isSign isDigits =>
      rw [List.mem_append, List.mem_cons] at inExponent
      rcases inExponent with (rfl | inSign) | inDigits
      · rcases isMark with rfl | rfl <;> decide
      · simp only [List.mem_cons, List.not_mem_nil, or_false] at isSign
        rcases isSign with rfl | rfl | rfl
        · cases inSign
        all_goals
          cases List.mem_singleton.mp inSign
          decide
      · exact isQuote_of_isDigit (isDigits.2 c inDigits)

/-- No quote is open behind a whole token. -/
theorem SpelledAs.foldl_passQuote {token : Token} {spelling : List Char}
    (spelled : SpelledAs token spelling) : spelling.foldl passQuote none = none := by
  cases spelled with
  | text s quote =>
    rw [inQuotes, String.toList_ofList, List.cons_append, List.foldl_cons, List.foldl_append]
    simp [passQuote, quote, foldl_passQuote_doubled]
  | keyword starts continues =>
    refine foldl_passQuote_none (List.forall_mem_cons.mpr ⟨isQuote_of_startsIdent starts, ?_⟩)
    exact fun c member => isQuote_of_continuesIdent (continues c member)
  | ident named =>
    exact foldl_passQuote_none fun c member =>
      isQuote_of_continuesIdent (continuesIdent_of_isName named c member)
  | number digits => exact foldl_passQuote_none (isQuote_of_isNumberText digits)
  | sign member =>
    have noQuote : signs.all (·.display.toList.all fun c => !isQuote c) = true := by decide
    have ofSign := List.all_eq_true.mp noQuote _ member
    exact foldl_passQuote_none (by simpa using ofSign)
  | unequal => decide
  | other symbol =>
    simp only [isSymbol, Bool.not_eq_true', Bool.or_eq_false_iff] at symbol
    exact foldl_passQuote_none (by simpa using symbol.1.1.2)

/-- No quote is open behind whole tokens. -/
theorem Spelled.foldl_passQuote {tokens : List Token} {cs : List Char}
    (spelled : Spelled tokens cs) : cs.foldl passQuote none = none := by
  induction spelled with
  | blank blank => exact foldl_passQuote_none (isQuote_of_allBlank blank)
  | token blank first _ ih =>
    rw [List.foldl_append, List.foldl_append, foldl_passQuote_none (isQuote_of_allBlank blank),
      first.foldl_passQuote, ih]

/-- No text both is spelled by tokens and comes to a quote that is never closed. -/
theorem Spelled.not_unclosed {tokens : List Token} {cs : List Char} (spelled : Spelled tokens cs) :
    ¬ Unclosed cs := by
  rintro ⟨front, before, mark, inner, rfl, quote, frontSpelled⟩
  have closed := spelled.foldl_passQuote
  rw [List.foldl_append, frontSpelled.foldl_passQuote, List.foldl_cons] at closed
  simp [passQuote, quote, foldl_passQuote_doubled] at closed

/-! ## Normal texts -/

/-- A token in its normal form: a keyword in capitals, a text in single quotes. -/
def normal : Token → String
  | text s => inQuotes '\x27' s
  | token => token.display

/-- Tokens in their normal forms, with single spaces between them. -/
def normalText (tokens : List Token) : String :=
  " ".intercalate (tokens.map normal)

/-- A character that is no sign is a token by itself. -/
theorem symbolLexeme_other {c : Char} (noSign : c ∉ signChars) {rest : List Char}
    (ends : EndsToken rest) : symbolLexeme c rest = (other c, rest) := by
  unfold symbolLexeme
  split
  case h_15 => rfl
  case h_9 rest =>
    -- an exclamation mark is a sign only before an equals sign
    rcases ends.cases rfl with same | same | same | same <;> cases same
  all_goals exact absurd (by decide) noSign

theorem Reads.ofSign {token : Token} (member : token ∈ signs) : Reads token.display [token] := by
  cases token with
  | equal => exact Operator.faithful_token .equal
  | notEqual => exact Operator.faithful_token .notEqual
  | greater => exact Operator.faithful_token .greater
  | greaterOrEqual => exact Operator.faithful_token .greaterOrEqual
  | less => exact Operator.faithful_token .less
  | lessOrEqual => exact Operator.faithful_token .lessOrEqual
  | openParen | closeParen | comma | semicolon | period | asterisk | minus =>
    intro rest _
    exact scan?_symbol (by decide) rest
  | keyword k | ident name | text s | number digits | other c => simp [signs] at member

/-- A token that some text spells is read from its normal form. -/
theorem SpelledAs.reads_normal {token : Token} {spelling : List Char}
    (spelled : SpelledAs token spelling) : Reads token.normal [token] := by
  cases spelled with
  | keyword => exact Reads.ofKeyword _
  | ident named => exact Reads.ofName named
  | text s => exact Reads.ofQuoted (by decide) s
  | number digits => exact Reads.ofNumber digits
  | unequal => exact Operator.faithful_token .notEqual
  | sign member =>
    have shown : token.normal = token.display := by
      cases token with
      | text s => simp [signs] at member
      | _ => rfl
    rw [shown]
    exact Reads.ofSign member
  | @other c symbol noSign =>
    intro rest ends
    have shape : (normal (.other c)).toList ++ rest = c :: rest := by simp [normal, display]
    rw [shape, scan?_symbol symbol, symbolLexeme_other noSign ends]
    rfl

theorem intercalate_singletons (tokens : List Token) :
    [].intercalate (tokens.map fun token => [token]) = tokens := by
  induction tokens with
  | nil => rfl
  | cons token rest ih =>
    cases rest with
    | nil => rfl
    | cons next rest => simpa [List.intercalate_cons_cons] using ih

theorem reads_normalText {tokens : List Token}
    (reads : ∀ token ∈ tokens, Reads token.normal [token]) : Reads (normalText tokens) tokens := by
  let wordings : List Wording := tokens.map fun token => ⟨token.normal, [token]⟩
  have faithful : (Wording.spaced wordings).Faithful := by
    refine Wording.Faithful.spaced fun part member => ?_
    obtain ⟨token, given, rfl⟩ := List.mem_map.mp member
    exact reads token given
  have text : (Wording.spaced wordings).text = normalText tokens := by
    simp [wordings, Wording.spaced, Wording.joined, normalText, Function.comp_def]
  have whole : (Wording.spaced wordings).tokens = tokens := by
    simp [wordings, Wording.spaced, Wording.joined, Function.comp_def, intercalate_singletons]
  rwa [Wording.Faithful, text, whole] at faithful

theorem Spelled.reads_normal {tokens : List Token} {cs : List Char} (spelled : Spelled tokens cs) :
    ∀ token ∈ tokens, Reads token.normal [token] := by
  induction spelled with
  | blank => simp
  | token _ first _ ih => exact List.forall_mem_cons.mpr ⟨first.reads_normal, ih⟩

/-- A text is scanned unless it comes to a quote that is never closed. Its tokens and blanks
make up the whole text, and the normal text of the tokens is scanned into the same tokens. -/
theorem ofText_normalText (sql : String) :
    Unclosed sql.toList ∧ ofText sql = .error (.parse .unclosedText) ∨
      ¬ Unclosed sql.toList ∧ ∃ tokens, ofText sql = .ok tokens ∧ Spelled tokens sql.toList ∧
        ofText (normalText tokens) = .ok tokens := by
  unfold ofText
  cases scanned : scan? sql.toList with
  | none => exact Or.inl ⟨unclosed_of_scan? scanned, rfl⟩
  | some tokens =>
    have spelled := spelled_of_scan? scanned
    have again := (reads_normalText spelled.reads_normal).scan?_eq
    exact Or.inr ⟨spelled.not_unclosed, tokens, rfl, spelled, by rw [again]⟩

end TableQuery.Token
