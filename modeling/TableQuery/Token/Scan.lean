import TableQuery.Error
import TableQuery.Text.Alphabetic
import TableQuery.Text.Blank
import TableQuery.Text.Numeric

/-!
Reading the tokens of a statement from its text.

Blanks separate tokens and are dropped. At any other character a lexeme starts,
which is as long as it can be: a quoted text up to its closing quote, a number, an
identifier or keyword, or one of the symbols. Only a quote that is never closed
has no lexeme, so `Token.scan?` fails on nothing else.
-/

namespace TableQuery.Token

/-! ## Character classes -/

/-- A character that starts an identifier. -/
def startsIdent (c : Char) : Bool :=
  Text.isAlphabetic c || c == '_'

/-- A character that continues an identifier. -/
def continuesIdent (c : Char) : Bool :=
  Text.isAlphabetic c || Text.isNumeric c || c == '_'

/-- A single or double quote. -/
def isQuote (c : Char) : Bool :=
  c == '\x27' || c == '\x22'

/-! ## Lexemes -/

/-- The inside of a quoted text after its opening quote, and the characters after
its closing quote. A doubled quote inside stands for one. -/
def quoted? (quote : Char) : List Char → Option (List Char × List Char)
  | [] => none
  | [c] => if c = quote then some ([], []) else none
  | c :: d :: rest =>
    if c = quote then
      if d = quote then
        (quoted? quote rest).map fun (inner, after) => (quote :: inner, after)
      else some ([], d :: rest)
    else (quoted? quote (d :: rest)).map fun (inner, after) => (c :: inner, after)

/-- The point and the digits after it, which a number may have. -/
def fraction : List Char → List Char × List Char
  | '.' :: rest => ('.' :: rest.takeWhile Char.isDigit, rest.dropWhile Char.isDigit)
  | cs => ([], cs)

/-- The sign that an exponent may have. -/
def exponentSign : List Char → List Char × List Char
  | c :: rest => if c = '+' ∨ c = '-' then ([c], rest) else ([], c :: rest)
  | [] => ([], [])

/-- The exponent that a number may have; it counts only when it has a digit. -/
def exponent : List Char → List Char × List Char
  | [] => ([], [])
  | c :: rest =>
    let (sign, digits) := exponentSign rest
    if (c = 'e' ∨ c = 'E') ∧ digits.takeWhile Char.isDigit ≠ [] then
      (c :: sign ++ digits.takeWhile Char.isDigit, digits.dropWhile Char.isDigit)
    else ([], c :: rest)

/-- The number at the start of a text. -/
def numberLexeme (cs : List Char) : Token × List Char :=
  let whole := cs.takeWhile Char.isDigit
  let (fraction, rest) := fraction (cs.dropWhile Char.isDigit)
  let (exponent, rest) := exponent rest
  (number (String.ofList (whole ++ fraction ++ exponent)), rest)

/-- The keyword or identifier that a name is. -/
def ofName (name : String) : Token :=
  match Keyword.ofIdent? name with
  | some k => keyword k
  | none => ident name

/-- The symbol that starts with a character. -/
def symbolLexeme (c : Char) (rest : List Char) : Token × List Char :=
  match c, rest with
  | '*', rest => (asterisk, rest)
  | '(', rest => (openParen, rest)
  | ')', rest => (closeParen, rest)
  | ',', rest => (comma, rest)
  | ';', rest => (semicolon, rest)
  | '.', rest => (period, rest)
  | '-', rest => (minus, rest)
  | '=', rest => (equal, rest)
  | '!', '=' :: rest => (notEqual, rest)
  | '>', '=' :: rest => (greaterOrEqual, rest)
  | '>', rest => (greater, rest)
  | '<', '=' :: rest => (lessOrEqual, rest)
  | '<', '>' :: rest => (notEqual, rest)
  | '<', rest => (less, rest)
  | c, rest => (other c, rest)

/-- The token that starts with a character that is not blank, and what follows it. -/
def lexeme? (c : Char) (rest : List Char) : Option (Token × List Char) :=
  if isQuote c then
    (quoted? c rest).map fun (inner, after) => (text (String.ofList inner), after)
  else if c.isDigit then some (numberLexeme (c :: rest))
  else if startsIdent c then
    some (ofName (String.ofList (c :: rest.takeWhile continuesIdent)),
      rest.dropWhile continuesIdent)
  else some (symbolLexeme c rest)

/-! ## Every lexeme takes at least its first character -/

theorem length_dropWhile_le {α : Type} (p : α → Bool) (xs : List α) :
    (xs.dropWhile p).length ≤ xs.length :=
  (List.dropWhile_suffix p).sublist.length_le

theorem quoted?_length {quote : Char} {cs inner after : List Char}
    (read : quoted? quote cs = some (inner, after)) : after.length < cs.length := by
  fun_induction quoted? quote cs generalizing inner with
  | case1 => simp at read
  | case2 => cases read; simp
  | case3 => simp at read
  | case4 _ ih =>
    obtain ⟨⟨inner', after'⟩, tail, eq⟩ := Option.map_eq_some_iff.mp read
    cases eq
    have := ih tail
    simp only [List.length_cons]
    omega
  | case5 => cases read; simp
  | case6 _ _ _ _ ih =>
    obtain ⟨⟨inner', after'⟩, tail, eq⟩ := Option.map_eq_some_iff.mp read
    cases eq
    have := ih tail
    simp only [List.length_cons] at this ⊢
    omega

theorem fraction_length (cs : List Char) : (fraction cs).2.length ≤ cs.length := by
  unfold fraction
  split
  · exact Nat.le_succ_of_le (length_dropWhile_le _ _)
  · exact Nat.le_refl _

theorem exponentSign_length (cs : List Char) :
    (exponentSign cs).2.length ≤ cs.length := by
  unfold exponentSign
  split
  · split <;> simp
  · exact Nat.le_refl _

theorem exponent_length (cs : List Char) : (exponent cs).2.length ≤ cs.length := by
  cases cs with
  | nil => exact Nat.le_refl _
  | cons c rest =>
    have sign := exponentSign_length rest
    rw [exponent]
    split
    rename_i signChars digits eq
    rw [eq] at sign
    split
    · exact Nat.le_trans (length_dropWhile_le _ _) (Nat.le_succ_of_le sign)
    · exact Nat.le_refl _

theorem numberLexeme_length {c : Char} (rest : List Char) (digit : c.isDigit = true) :
    (numberLexeme (c :: rest)).2.length ≤ rest.length := by
  have whole : ((c :: rest).dropWhile Char.isDigit).length ≤ rest.length := by
    simpa [digit] using length_dropWhile_le Char.isDigit rest
  exact Nat.le_trans (exponent_length _) (Nat.le_trans (fraction_length _) whole)

theorem symbolLexeme_length (c : Char) (rest : List Char) :
    (symbolLexeme c rest).2.length ≤ rest.length := by
  unfold symbolLexeme
  split <;> simp

theorem lexeme?_length {c : Char} {rest after : List Char} {token : Token}
    (read : lexeme? c rest = some (token, after)) : after.length ≤ rest.length := by
  rw [lexeme?] at read
  split at read
  · obtain ⟨⟨inner, after'⟩, tail, eq⟩ := Option.map_eq_some_iff.mp read
    cases eq
    exact Nat.le_of_lt (quoted?_length tail)
  · split at read
    · rename_i digit
      have bound := numberLexeme_length rest digit
      rw [Option.some.inj read] at bound
      exact bound
    · split at read
      · cases read
        exact length_dropWhile_le _ _
      · have bound := symbolLexeme_length c rest
        rw [Option.some.inj read] at bound
        exact bound

/-- What follows the first lexeme of a text is shorter than the text. -/
theorem after_shorter {cs rest after : List Char} {c : Char} {token : Token}
    (skipped : cs.dropWhile Text.isBlank = c :: rest)
    (read : lexeme? c rest = some (token, after)) : after.length < cs.length := by
  have bound := length_dropWhile_le Text.isBlank cs
  rw [skipped, List.length_cons] at bound
  exact Nat.lt_of_le_of_lt (lexeme?_length read) bound

/-! ## Texts -/

/-- The tokens of a text; none when a quote is never closed. -/
def scan? (cs : List Char) : Option (List Token) :=
  match skipped : cs.dropWhile Text.isBlank with
  | [] => some []
  | c :: rest =>
    match read : lexeme? c rest with
    | none => none
    | some (token, after) =>
      have := after_shorter skipped read
      (scan? after).map (token :: ·)
termination_by cs.length

/-- The tokens of a statement text. -/
def ofText (sql : String) : Except Fault (List Token) :=
  match scan? sql.toList with
  | some tokens => .ok tokens
  | none => .error (.parse .unclosedText)

end TableQuery.Token
