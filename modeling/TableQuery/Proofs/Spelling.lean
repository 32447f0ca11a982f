import TableQuery.Text.Digits
import TableQuery.Token.Scan

/-!
Tokens are read back from the texts that spell them.

`Token.Reads text tokens` says that a text is read as the given tokens whatever comes
after it, as long as that starts with a character that extends no token. Texts that
are put together from names, keywords, numbers and quoted texts are read piece by
piece (`Token.Reads.append`), so a whole statement needs no look at single characters.
-/

namespace TableQuery

/-! ## Characters -/

/-- A code point of a set lies in one of its ranges. -/
theorem CodeRanges.exists_of_contains {ranges : CodeRanges} {code : Nat}
    (inside : ranges.contains code = true) :
    ∃ range ∈ ranges, range.1 ≤ code ∧ code ≤ range.2 := by
  induction ranges with
  | nil => cases inside
  | cons range rest ih =>
    rw [CodeRanges.contains] at inside
    split at inside
    · cases inside
    · rename_i notBelow
      split at inside
      · rename_i notAbove
        exact ⟨range, List.mem_cons_self, Nat.le_of_not_lt notBelow, notAbove⟩
      · obtain ⟨found, member, bounds⟩ := ih inside
        exact ⟨found, List.mem_cons_of_mem _ member, bounds⟩

/-- No blank character is a letter. -/
theorem Text.isAlphabetic_of_isBlank {c : Char} (blank : Text.isBlank c = true) :
    Text.isAlphabetic c = false := by
  have noLetter : ∀ range ∈ blankRanges,
      ∀ code ∈ List.range' range.1 (range.2 + 1 - range.1),
        alphabeticRanges.contains code = false := by decide +kernel
  obtain ⟨range, member, low, high⟩ := CodeRanges.exists_of_contains blank
  refine noLetter range member c.toNat (List.mem_range'_1.mpr ⟨low, ?_⟩)
  omega

namespace Token

/-- Names start above the digits, the quotes and nearly all symbols. -/
theorem le_toNat_of_startsIdent {c : Char} (starts : startsIdent c = true) :
    0x41 ≤ c.toNat := by
  have letters : ∀ range ∈ Text.alphabeticRanges, 0x41 ≤ range.1 := by decide +kernel
  rcases Bool.or_eq_true_iff.mp starts with letter | underscore
  · obtain ⟨range, member, low, _⟩ := CodeRanges.exists_of_contains letter
    exact Nat.le_trans (letters range member) low
  · rw [beq_iff_eq.mp underscore]
    decide

theorem isBlank_of_startsIdent {c : Char} (starts : startsIdent c = true) :
    Text.isBlank c = false := by
  refine Bool.eq_false_iff.mpr fun blank => ?_
  rcases Bool.or_eq_true_iff.mp starts with letter | underscore
  · rw [Text.isAlphabetic_of_isBlank blank] at letter
    cases letter
  · rw [beq_iff_eq.mp underscore] at blank
    revert blank
    decide

theorem isDigit_of_startsIdent {c : Char} (starts : startsIdent c = true) :
    c.isDigit = false := by
  have above := le_toNat_of_startsIdent starts
  refine Bool.eq_false_iff.mpr fun digit => ?_
  have below : c.toNat ≤ 0x39 := (Char.isDigit_iff_toNat.mp digit).2
  omega

/-- A character of a kind that neither quote is of is no quote. -/
theorem isQuote_eq_false (kind : Char → Bool) (single : kind '\x27' = false)
    (double : kind '\x22' = false) {c : Char} (holds : kind c = true) : isQuote c = false := by
  refine Bool.eq_false_iff.mpr fun mark => ?_
  rcases Bool.or_eq_true_iff.mp mark with same | same
  · rw [beq_iff_eq.mp same, single] at holds
    cases holds
  · rw [beq_iff_eq.mp same, double] at holds
    cases holds

theorem isQuote_of_startsIdent {c : Char} (starts : startsIdent c = true) : isQuote c = false :=
  isQuote_eq_false startsIdent (by decide) (by decide) starts

theorem isQuote_of_isBlank {c : Char} (blank : Text.isBlank c = true) : isQuote c = false :=
  isQuote_eq_false Text.isBlank (by decide) (by decide) blank

/-! ## One step of reading -/

/-- Reading passes over blanks and then takes one lexeme. -/
theorem scan?_eq (cs : List Char) :
    scan? cs =
      match cs.dropWhile Text.isBlank with
      | [] => some []
      | c :: rest =>
        match lexeme? c rest with
        | none => none
        | some (token, after) => (scan? after).map (token :: ·) := by
  rw [scan?]
  split
  · rename_i skipped
    simp only [skipped]
  · rename_i skipped
    split <;> rename_i read <;> simp only [skipped, read]

@[simp] theorem scan?_nil : scan? [] = some [] := by
  rw [scan?_eq]
  rfl

@[simp] theorem scan?_space (cs : List Char) : scan? (' ' :: cs) = scan? cs := by
  rw [scan?_eq, scan?_eq cs, List.dropWhile_cons_of_pos (by decide)]

theorem scan?_lexeme {c : Char} {rest after : List Char} {token : Token}
    (notBlank : Text.isBlank c = false) (read : lexeme? c rest = some (token, after)) :
    scan? (c :: rest) = (scan? after).map (token :: ·) := by
  rw [scan?_eq, List.dropWhile_cons_of_neg (by simp [notBlank])]
  simp only [read]

/-- The first characters of a list end where a character fails a test. -/
theorem span_append {p : Char → Bool} {front rest : List Char}
    (pass : ∀ c ∈ front, p c = true) (stop : ∀ c ∈ rest.head?, p c = false) :
    (front ++ rest).takeWhile p = front ∧ (front ++ rest).dropWhile p = rest := by
  rw [List.takeWhile_append_of_pos pass, List.dropWhile_append_of_pos pass]
  cases rest with
  | nil => simp
  | cons c rest => simp [stop c rfl]

/-! ## Digits -/

theorem isBlank_of_isDigit {c : Char} (digit : c.isDigit = true) : Text.isBlank c = false := by
  have bounds := Char.isDigit_iff_toNat.mp digit
  have apart : ∀ range ∈ Text.blankRanges, range.2 < '0'.toNat ∨ '9'.toNat < range.1 := by
    decide
  refine Bool.eq_false_iff.mpr fun blank => ?_
  obtain ⟨range, member, low, high⟩ := CodeRanges.exists_of_contains blank
  rcases apart range member with below | above <;> omega

theorem isQuote_of_isDigit {c : Char} (digit : c.isDigit = true) : isQuote c = false :=
  isQuote_eq_false Char.isDigit (by decide) (by decide) digit

/-! ## Names and keywords -/

end Token

/-- A text that a statement can use as the name of a table or a column: an identifier
that is no keyword. -/
def isName (name : String) : Bool :=
  match name.toList with
  | [] => false
  | c :: rest =>
    Token.startsIdent c && rest.all Token.continuesIdent && (Keyword.ofIdent? name).isNone

/-- A name is made of the characters that continue an identifier. -/
theorem continuesIdent_of_isName {name : String} (named : isName name = true) :
    ∀ c ∈ name.toList, Token.continuesIdent c = true := by
  unfold isName at named
  split at named
  · cases named
  · rename_i first rest shape
    simp only [Bool.and_eq_true, List.all_eq_true] at named
    obtain ⟨⟨starts, continues⟩, _⟩ := named
    rw [shape]
    intro c member
    rcases List.mem_cons.mp member with rfl | later
    · rcases Bool.or_eq_true_iff.mp starts with letter | underscore
      · rw [Token.continuesIdent, letter, Bool.true_or, Bool.true_or]
      · rw [Token.continuesIdent, underscore, Bool.or_true]
    · exact continues c later

theorem not_mem_of_isName {name : String} (named : isName name = true) {c : Char}
    (outside : Token.continuesIdent c = false) : c ∉ name.toList := fun member =>
  Bool.eq_false_iff.mp outside (continuesIdent_of_isName named c member)

namespace Token

theorem scan?_word {c : Char} {tail rest : List Char} (starts : startsIdent c = true)
    (continues : ∀ d ∈ tail, continuesIdent d = true)
    (stop : ∀ d ∈ rest.head?, continuesIdent d = false) :
    scan? (c :: tail ++ rest) =
      (scan? rest).map (ofName (String.ofList (c :: tail)) :: ·) := by
  obtain ⟨taken, left⟩ := span_append continues stop
  refine scan?_lexeme (isBlank_of_startsIdent starts) ?_
  rw [List.append_eq, lexeme?, isQuote_of_startsIdent starts, isDigit_of_startsIdent starts,
    starts, taken, left]
  rfl

theorem scan?_name {name : String} (named : isName name = true) (rest : List Char)
    (stop : ∀ d ∈ rest.head?, continuesIdent d = false) :
    scan? (name.toList ++ rest) = (scan? rest).map (.ident name :: ·) := by
  unfold isName at named
  split at named
  · cases named
  · rename_i c tail spelled
    simp only [Bool.and_eq_true, List.all_eq_true, Option.isNone_iff_eq_none] at named
    obtain ⟨⟨starts, continues⟩, noKeyword⟩ := named
    have whole : String.ofList (c :: tail) = name := by
      rw [← spelled, String.ofList_toList]
    rw [spelled, scan?_word starts continues stop, whole, ofName, noKeyword]

/-- Every keyword is read from its word. -/
theorem ofIdent?_word (k : Keyword) : Keyword.ofIdent? k.word = some k := by
  cases k <;> decide

theorem scan?_keyword (k : Keyword) {rest : List Char}
    (stop : ∀ d ∈ rest.head?, continuesIdent d = false) :
    scan? (k.word.toList ++ rest) = (scan? rest).map (.keyword k :: ·) := by
  have letters : ∃ c tail, k.word.toList = c :: tail ∧ startsIdent c = true ∧
      ∀ d ∈ tail, continuesIdent d = true := by
    cases k <;> exact ⟨_, _, rfl, by decide, List.all_eq_true.mp (by decide)⟩
  obtain ⟨c, tail, spelled, starts, continues⟩ := letters
  have whole : String.ofList (c :: tail) = k.word := by rw [← spelled, String.ofList_toList]
  rw [spelled, scan?_word starts continues stop, whole, ofName, ofIdent?_word]

/-! ## Quoted texts -/

/-- The inside of a quoted text as it is written, with every quote doubled. -/
def doubled (mark : Char) (cs : List Char) : List Char :=
  cs.flatMap fun c => if c = mark then [mark, mark] else [c]

/-- A text in quotes. -/
def inQuotes (mark : Char) (s : String) : String :=
  String.ofList (mark :: doubled mark s.toList ++ [mark])

theorem quoted?_doubled {mark : Char} {cs rest : List Char}
    (stop : ∀ d ∈ rest.head?, d ≠ mark) :
    quoted? mark (doubled mark cs ++ mark :: rest) = some (cs, rest) := by
  induction cs with
  | nil =>
    cases rest with
    | nil => simp [doubled, quoted?]
    | cons d rest => simp [doubled, quoted?, stop d rfl]
  | cons c cs ih =>
    by_cases same : c = mark
    · subst same
      rw [doubled, List.flatMap_cons, if_pos rfl]
      simp only [List.cons_append, List.nil_append, quoted?, if_pos]
      rw [← doubled, ih]
      rfl
    · rw [doubled, List.flatMap_cons, if_neg same, ← doubled]
      obtain ⟨d, later, inside⟩ : ∃ d later, doubled mark cs ++ mark :: rest = d :: later :=
        List.exists_cons_of_ne_nil (by simp)
      rw [inside] at ih
      rw [List.append_assoc, inside, List.singleton_append, quoted?, if_neg same, ih]
      rfl

theorem scan?_inQuotes {mark : Char} {s : String} {rest : List Char}
    (quote : isQuote mark = true) (stop : ∀ d ∈ rest.head?, d ≠ mark) :
    scan? ((inQuotes mark s).toList ++ rest) = (scan? rest).map (.text s :: ·) := by
  have notBlank : Text.isBlank mark = false := by
    rcases Bool.or_eq_true_iff.mp quote with single | double
    · rw [beq_iff_eq.mp single]
      decide
    · rw [beq_iff_eq.mp double]
      decide
  rw [inQuotes, String.toList_ofList, List.append_assoc, List.cons_append]
  refine scan?_lexeme notBlank ?_
  rw [lexeme?, if_pos quote, List.singleton_append, quoted?_doubled stop]
  simp

end Token

/-! ## Numbers -/

/-- One or more digits. -/
def IsDigits (cs : List Char) : Prop :=
  cs ≠ [] ∧ ∀ c ∈ cs, c.isDigit = true

theorem isDigits_natText (n : Nat) : IsDigits (Text.natText n) :=
  ⟨Nat.toDigits_ne_nil, fun _ member => Nat.isDigit_of_mem_toDigits (by decide) (by decide) member⟩

theorem Text.digitsValue_natText (n : Nat) : digitsValue (natText n) = n := by
  have whole := Nat.ofDigitChars_toDigits (b := 10) (n := n) (by decide) (by decide)
  rwa [Nat.ofDigitChars_eq_foldl] at whole

theorem Text.natural?_of_isDigits {cs : List Char} (digits : IsDigits cs) :
    natural? cs = some (digitsValue cs) :=
  if_pos ⟨digits.1, List.all_eq_true.mpr digits.2⟩

/-- A written number is read back. -/
theorem Text.natural?_natText (n : Nat) : natural? (natText n) = some n := by
  rw [natural?_of_isDigits (isDigits_natText n), digitsValue_natText]

/-- What may follow the whole part of a number: a point with digits, perhaps none. -/
inductive FractionText : List Char → Prop
  | absent : FractionText []
  | point {digits : List Char} :
    (∀ c ∈ digits, c.isDigit = true) → FractionText ('.' :: digits)

/-- What may stand at the end of a number: an exponent with its sign and digits. -/
inductive ExponentText : List Char → Prop
  | absent : ExponentText []
  | present {mark : Char} {sign digits : List Char} :
    mark = 'e' ∨ mark = 'E' → sign ∈ [[], ['+'], ['-']] → IsDigits digits →
    ExponentText (mark :: sign ++ digits)

/-- A number without a sign, as it may be written in a statement. -/
def IsNumberText (text : String) : Prop :=
  ∃ whole fraction exponent, text.toList = whole ++ fraction ++ exponent ∧
    IsDigits whole ∧ FractionText fraction ∧ ExponentText exponent

theorem IsNumberText.exists_cons {text : String} (spelled : IsNumberText text) :
    ∃ d rest, text.toList = d :: rest ∧ d.isDigit = true := by
  obtain ⟨whole, fraction, exponent, shape, ⟨nonempty, isDigits⟩, _, _⟩ := spelled
  obtain ⟨d, more, rfl⟩ := List.exists_cons_of_ne_nil nonempty
  exact ⟨d, more ++ fraction ++ exponent, by simp [shape], isDigits d List.mem_cons_self⟩

namespace Token

/-- What may stand after a token without being taken for a part of it. -/
def EndsToken (rest : List Char) : Prop :=
  ∀ c ∈ rest.head?, c ∈ [' ', ',', ')', ';']

theorem forall_head?_cons {α : Type} {p : α → Prop} {x : α} (holds : p x) (xs : List α) :
    ∀ y ∈ (x :: xs).head?, p y := by
  simpa using holds

theorem EndsToken.cons {c : Char} (ends : c ∈ [' ', ',', ')', ';']) (rest : List Char) :
    EndsToken (c :: rest) :=
  forall_head?_cons ends rest

theorem EndsToken.cases {rest : List Char} (ends : EndsToken rest) {c : Char}
    (first : c ∈ rest.head?) : c = ' ' ∨ c = ',' ∨ c = ')' ∨ c = ';' := by
  simpa using ends c first

theorem EndsToken.not_isDigit {rest : List Char} (ends : EndsToken rest) :
    ∀ c ∈ rest.head?, c.isDigit = false := by
  intro c first
  rcases ends.cases first with rfl | rfl | rfl | rfl <;> decide

theorem EndsToken.not_continuesIdent {rest : List Char} (ends : EndsToken rest) :
    ∀ c ∈ rest.head?, continuesIdent c = false := by
  intro c first
  rcases ends.cases first with rfl | rfl | rfl | rfl <;> decide

theorem EndsToken.not_quote {rest : List Char} {mark : Char} (ends : EndsToken rest)
    (quote : isQuote mark = true) : ∀ c ∈ rest.head?, c ≠ mark := by
  rintro c first rfl
  rcases ends.cases first with rfl | rfl | rfl | rfl <;> cases quote

theorem exponent_append {cs rest : List Char} (spelled : ExponentText cs)
    (ends : EndsToken rest) : exponent (cs ++ rest) = (cs, rest) := by
  cases spelled with
  | absent =>
    cases rest with
    | nil => rfl
    | cons c rest =>
      have noExponent : c ≠ 'e' ∧ c ≠ 'E' := by
        rcases ends.cases rfl with rfl | rfl | rfl | rfl <;> decide
      obtain ⟨notLower, notUpper⟩ := noExponent
      simp [exponent, notLower, notUpper]
  | @present mark sign digits isMark isSign isDigits =>
    obtain ⟨taken, left⟩ := span_append isDigits.2 ends.not_isDigit
    obtain ⟨d, more, shape⟩ := List.exists_cons_of_ne_nil isDigits.1
    have signRead : exponentSign (sign ++ (digits ++ rest)) = (sign, digits ++ rest) := by
      simp only [List.mem_cons, List.not_mem_nil, or_false] at isSign
      rcases isSign with rfl | rfl | rfl
      · have digit := isDigits.2 d (by simp [shape])
        have notSign : ¬ (d = '+' ∨ d = '-') := by
          rintro (rfl | rfl) <;> revert digit <;> decide
        simp [shape, exponentSign, notSign]
      · simp [exponentSign]
      · simp [exponentSign]
    rw [List.cons_append, List.cons_append, List.append_assoc, exponent, signRead]
    simp only [taken, left, isMark, isDigits.1, ne_eq, not_false_eq_true, and_self, if_true,
      List.cons_append]

theorem fraction_append {cs rest : List Char} (spelled : FractionText cs)
    (noDigit : ∀ c ∈ rest.head?, c.isDigit = false) (noPoint : ∀ c ∈ rest.head?, c ≠ '.') :
    fraction (cs ++ rest) = (cs, rest) := by
  cases spelled with
  | absent =>
    rw [List.nil_append]
    unfold fraction
    split
    · exact absurd rfl (noPoint '.' rfl)
    · rfl
  | point isDigits =>
    obtain ⟨taken, left⟩ := span_append isDigits noDigit
    rw [List.cons_append, fraction, taken, left]

/-- An exponent and what follows it start with no digit and no point. -/
theorem exponentText_head {cs rest : List Char} (spelled : ExponentText cs)
    (ends : EndsToken rest) :
    ∀ c ∈ (cs ++ rest).head?, c.isDigit = false ∧ c ≠ '.' := by
  intro c first
  cases spelled with
  | absent =>
    rcases ends.cases first with rfl | rfl | rfl | rfl <;> decide
  | present isMark _ _ =>
    cases first
    rcases isMark with rfl | rfl <;> decide

theorem numberLexeme_append {text : String} {rest : List Char} (spelled : IsNumberText text)
    (ends : EndsToken rest) : numberLexeme (text.toList ++ rest) = (.number text, rest) := by
  obtain ⟨whole, point, power, shape, isWhole, isPoint, isPower⟩ := spelled
  have afterPoint := exponentText_head isPower ends
  have afterWhole : ∀ c ∈ (point ++ (power ++ rest)).head?, c.isDigit = false := by
    intro c first
    cases isPoint with
    | absent => exact (afterPoint c first).1
    | point _ =>
      cases first
      decide
  obtain ⟨taken, left⟩ := span_append isWhole.2 afterWhole
  have whole_eq : String.ofList (whole ++ point ++ power) = text := by
    rw [← shape, String.ofList_toList]
  rw [shape, List.append_assoc, List.append_assoc, numberLexeme, taken, left,
    fraction_append isPoint (fun c first => (afterPoint c first).1)
      (fun c first => (afterPoint c first).2)]
  simp only [exponent_append isPower ends, whole_eq]

theorem scan?_number {text : String} {rest : List Char} (spelled : IsNumberText text)
    (ends : EndsToken rest) :
    scan? (text.toList ++ rest) = (scan? rest).map (.number text :: ·) := by
  have lexeme := numberLexeme_append spelled ends
  obtain ⟨d, more, shape, digit⟩ := spelled.exists_cons
  rw [shape] at lexeme ⊢
  refine scan?_lexeme (isBlank_of_isDigit digit) ?_
  rw [lexeme?, isQuote_of_isDigit digit, if_neg Bool.false_ne_true, if_pos digit]
  exact congrArg some lexeme

/-! ## Symbols -/

/-- A character that is a token by itself or with the one after it. -/
def isSymbol (c : Char) : Bool :=
  !(Text.isBlank c || isQuote c || c.isDigit || startsIdent c)

theorem scan?_symbol {c : Char} (symbol : isSymbol c = true) (rest : List Char) :
    scan? (c :: rest) =
      (scan? (symbolLexeme c rest).2).map ((symbolLexeme c rest).1 :: ·) := by
  simp only [isSymbol, Bool.not_eq_true', Bool.or_eq_false_iff] at symbol
  obtain ⟨⟨⟨notBlank, notQuote⟩, notDigit⟩, noName⟩ := symbol
  refine scan?_lexeme notBlank ?_
  rw [lexeme?, notQuote, notDigit, noName]
  rfl

theorem scan?_comma (rest : List Char) :
    scan? (',' :: rest) = (scan? rest).map (.comma :: ·) :=
  scan?_symbol (by decide) rest

theorem scan?_semicolon (rest : List Char) :
    scan? (';' :: rest) = (scan? rest).map (.semicolon :: ·) :=
  scan?_symbol (by decide) rest

theorem scan?_period (rest : List Char) :
    scan? ('.' :: rest) = (scan? rest).map (.period :: ·) :=
  scan?_symbol (by decide) rest

theorem scan?_minus (rest : List Char) :
    scan? ('-' :: rest) = (scan? rest).map (.minus :: ·) :=
  scan?_symbol (by decide) rest

theorem scan?_openParen (rest : List Char) :
    scan? ('(' :: rest) = (scan? rest).map (.openParen :: ·) :=
  scan?_symbol (by decide) rest

theorem scan?_closeParen (rest : List Char) :
    scan? (')' :: rest) = (scan? rest).map (.closeParen :: ·) :=
  scan?_symbol (by decide) rest

/-! ## Texts put together -/

/-- A text is read as some tokens, whatever follows it without extending the last. -/
def Reads (text : String) (tokens : List Token) : Prop :=
  ∀ rest, EndsToken rest → scan? (text.toList ++ rest) = (scan? rest).map (tokens ++ ·)

theorem EndsToken.append {xs ys : List Char} (first : EndsToken xs) (second : EndsToken ys) :
    EndsToken (xs ++ ys) := by
  cases xs with
  | nil => exact second
  | cons x xs => exact first

namespace Reads

variable {text first second : String} {tokens firstTokens secondTokens : List Token}

/-- A text alone is read as its tokens. -/
theorem scan?_eq (reads : Reads text tokens) : scan? text.toList = some tokens := by
  have alone := reads [] (by intro c absent; cases absent)
  simpa using alone

theorem append (left : Reads first firstTokens) (ends : EndsToken second.toList)
    (right : Reads second secondTokens) :
    Reads (first ++ second) (firstTokens ++ secondTokens) := by
  intro rest endsRest
  rw [String.toList_append, List.append_assoc, left _ (ends.append endsRest),
    right rest endsRest, Option.map_map]
  simp only [Function.comp_def, List.append_assoc]

theorem empty : Reads "" [] := by
  intro rest _
  simp

theorem space (reads : Reads text tokens) : Reads (" " ++ text) tokens := by
  intro rest ends
  rw [← reads rest ends, String.toList_append]
  exact scan?_space _

theorem comma (reads : Reads text tokens) : Reads ("," ++ text) (.comma :: tokens) := by
  intro rest ends
  have shape : ("," ++ text).toList ++ rest = ',' :: (text.toList ++ rest) := by simp
  rw [shape, scan?_comma, reads rest ends, Option.map_map]
  rfl

theorem minus (reads : Reads text tokens) : Reads ("-" ++ text) (.minus :: tokens) := by
  intro rest ends
  have shape : ("-" ++ text).toList ++ rest = '-' :: (text.toList ++ rest) := by simp
  rw [shape, scan?_minus, reads rest ends, Option.map_map]
  rfl

theorem inParens (reads : Reads text tokens) :
    Reads ("(" ++ text ++ ")") (.openParen :: tokens ++ [.closeParen]) := by
  intro rest _
  have shape : ("(" ++ text ++ ")").toList ++ rest = '(' :: (text.toList ++ ')' :: rest) := by
    simp
  have closes : EndsToken (')' :: rest) := EndsToken.cons (by decide) rest
  rw [shape, scan?_openParen, reads _ closes, scan?_closeParen, Option.map_map, Option.map_map]
  simp only [Function.comp_def, List.cons_append, List.append_assoc, List.nil_append]

theorem ofName {name : String} (named : isName name = true) : Reads name [.ident name] := by
  intro rest ends
  exact scan?_name named rest ends.not_continuesIdent

theorem ofKeyword (k : Keyword) : Reads k.word [.keyword k] := by
  intro rest ends
  exact scan?_keyword k ends.not_continuesIdent

theorem ofNumber (spelled : IsNumberText text) : Reads text [.number text] := by
  intro rest ends
  exact scan?_number spelled ends

theorem ofQuoted {mark : Char} (quote : isQuote mark = true) (s : String) :
    Reads (inQuotes mark s) [.text s] := by
  intro rest ends
  exact scan?_inQuotes quote (ends.not_quote quote)

end Reads

end Token

end TableQuery
