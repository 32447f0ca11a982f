import Mathlib
import TableQuery.Proofs.ParsedStatement

/-!
Which tokens stand for an operator.

A condition takes the token behind its column for an operator by the text that the token
shows, in capital form. Among the tokens of a text that is the same as taking it by its
kind: the capital form of no other text is a sign, and what could show a sign or `LIKE`
is scanned as the sign or the keyword and not as a name, a number or a text.
-/

namespace TableQuery

/-! ## Capital forms without letters -/

namespace Text

theorem toNat_bounds_of_isLower {c : Char} (lower : c.isLower = true) :
    97 ≤ c.toNat ∧ c.toNat ≤ 122 := by
  rw [Char.isLower, Bool.and_eq_true, decide_eq_true_eq, decide_eq_true_eq] at lower
  exact ⟨UInt32.le_iff_toNat_le.mp lower.1, UInt32.le_iff_toNat_le.mp lower.2⟩

/-- A capital letter is none of the characters below the letters. -/
theorem le_toNat_toUpper {c : Char} (changed : c.toUpper ≠ c) : 'A'.toNat ≤ c.toUpper.toNat := by
  by_cases lower : c.isLower
  · obtain ⟨least, most⟩ := toNat_bounds_of_isLower lower
    have valid : (c.toNat - 32).isValidChar := Or.inl (by omega)
    have letter : 'A'.toNat = 65 := rfl
    rw [letter, Char.toUpper_eq_of_isLower lower, Char.toNat_ofNat, if_pos valid]
    omega
  · exact absurd (Char.toUpper_eq_of_not_isLower lower) changed

theorem capital_ne_nil (c : Char) : capital c ≠ [] := by
  unfold capital
  split <;> exact List.cons_ne_nil _ _

/-- A capital form with a character below the letters is the character itself. -/
theorem eq_of_mem_capital {c d : Char} (member : d ∈ capital c) (low : d.toNat < 'A'.toNat) :
    capital c = [c] := by
  have letters : ∀ word ∈ [['I'], ['S'], ['S', 'S'], ['F', 'F'], ['F', 'I'], ['F', 'L'],
      ['F', 'F', 'I'], ['F', 'F', 'L'], ['S', 'T']], word.all ('A'.toNat ≤ ·.toNat) = true := by
    decide
  unfold capital at member ⊢
  split at member
  case h_11 =>
    have upper := List.mem_singleton.mp member
    have same : c.toUpper = c := by
      refine Decidable.byContradiction fun changed => ?_
      have high := le_toNat_toUpper changed
      rw [upper] at low
      omega
    rw [same]
  all_goals
    have high := List.all_eq_true.mp (letters _ (by decide)) d member
    exact absurd low (Nat.not_lt.mpr (of_decide_eq_true high))

/-- A text whose capital form has no letters is its own capital form. -/
theorem eq_of_capitals {text sign : String} (same : capitals text = sign)
    (low : ∀ d ∈ sign.toList, d.toNat < 'A'.toNat) : text = sign := by
  have chars : text.toList.flatMap capital = sign.toList := by
    rw [← same, capitals, String.toList_ofList]
  have each : ∀ c ∈ text.toList, capital c = [c] := by
    intro c member
    obtain ⟨d, inCapital⟩ := List.exists_mem_of_ne_nil _ (capital_ne_nil c)
    refine eq_of_mem_capital inCapital (low d ?_)
    rw [← chars]
    exact List.mem_flatMap.mpr ⟨c, member, inCapital⟩
  rw [← String.toList_inj, ← chars, List.flatMap_congr each, List.flatMap_singleton']

theorem capital_of_lt {c : Char} (low : c.toNat < 'A'.toNat) : capital c = [c] := by
  have letter : 'A'.toNat = 65 := rfl
  unfold capital
  split
  case h_11 =>
    have notLower : ¬ c.isLower = true := by
      intro lower
      have least := (toNat_bounds_of_isLower lower).1
      omega
    rw [Char.toUpper_eq_of_not_isLower notLower]
  all_goals exact absurd low (by decide)

/-- A text that starts below the letters has a capital form that starts alike. -/
theorem head?_capitals {text : String} {c : Char} (first : text.toList.head? = some c)
    (low : c.toNat < 'A'.toNat) : (capitals text).toList.head? = some c := by
  obtain ⟨rest, shape⟩ := List.head?_eq_some_iff.mp first
  rw [capitals, String.toList_ofList, shape, List.flatMap_cons, capital_of_lt low]
  rfl

end Text

/-! ## Tokens that show an operator -/

/-- The operators that are made of signs. -/
def Operator.signs : List String :=
  ["=", "!=", "<>", ">", "<", ">=", "<="]

namespace Operator

variable {sign : String}

/-- What signs are made of stands below the letters, and starts neither a number nor a text. -/
theorem of_mem_sign (isSign : sign ∈ signs) {d : Char} (member : d ∈ sign.toList) :
    d.toNat < 'A'.toNat ∧ d.isDigit = false ∧ d ≠ '\x27' := by
  have all : ∀ sign ∈ signs, sign.toList.all
      (fun d => d.toNat < 'A'.toNat && !d.isDigit && d != '\x27') = true := by decide
  have holds := List.all_eq_true.mp (all sign isSign) d member
  simpa [and_assoc] using holds

theorem eq_of_single_sign (isSign : sign ∈ signs) {c : Char} (single : sign.toList = [c]) :
    c = '=' ∨ c = '>' ∨ c = '<' := by
  have all : ∀ sign ∈ signs, sign.toList.length = 1 →
      sign.toList.all (fun d => d == '=' || d == '>' || d == '<') = true := by decide
  have holds := all sign isSign (by rw [single]; rfl)
  rw [single] at holds
  simpa [or_assoc] using holds

end Operator

theorem exists_cons_of_isName {name : String} (named : isName name = true) :
    ∃ c rest, name.toList = c :: rest ∧ Token.startsIdent c = true := by
  unfold isName at named
  split at named
  · cases named
  · rename_i c rest shape
    simp only [Bool.and_eq_true] at named
    exact ⟨c, rest, shape, named.1.1⟩

namespace Token.WellFormed

variable {token : Token}

/-- A token that shows a sign is the token of that sign. -/
theorem exists_of_display (wellFormed : token.WellFormed) {sign : String}
    (shown : token.display = sign) (isSign : sign ∈ Operator.signs) :
    ∃ operator : Operator, token = operator.token ∧ Operator.ofText? sign = some operator := by
  have first {c : Char} (starts : token.display.toList.head? = some c) :
      c.toNat < 'A'.toNat ∧ c.isDigit = false ∧ c ≠ '\x27' :=
    Operator.of_mem_sign isSign (shown ▸ List.mem_of_head? starts)
  cases token with
  | keyword k => cases k <;> exact absurd (first rfl).1 (by decide)
  | ident name =>
    obtain ⟨c, rest, shape, start⟩ := exists_cons_of_isName (wellFormed.name rfl)
    have starts : (Token.ident name).display.toList.head? = some c := by
      rw [Token.display, shape]
      rfl
    have low := (first starts).1
    have high := Token.le_toNat_of_startsIdent start
    have letter : 'A'.toNat = 0x41 := rfl
    omega
  | text s =>
    have mark : (Token.text s).display.toList.head? = some '\x27' := by simp [Token.display]
    exact absurd rfl (first mark).2.2
  | number digits =>
    obtain ⟨d, rest, shape, digit⟩ := (wellFormed.number rfl).exists_cons
    have starts : (Token.number digits).display.toList.head? = some d := by
      rw [Token.display, shape]
      rfl
    have noDigit := (first starts).2.1
    rw [digit] at noDigit
    cases noDigit
  | other c =>
    have symbol := wellFormed.symbol rfl
    have single : sign.toList = [c] := by simp [← shown, Token.display]
    rcases Operator.eq_of_single_sign isSign single with same | same | same
    · exact absurd same symbol.1
    · exact absurd same symbol.2.1
    · exact absurd same symbol.2.2
  | equal => exact ⟨.equal, rfl, by rw [← shown]; decide⟩
  | notEqual => exact ⟨.notEqual, rfl, by rw [← shown]; decide⟩
  | greater => exact ⟨.greater, rfl, by rw [← shown]; decide⟩
  | greaterOrEqual => exact ⟨.greaterOrEqual, rfl, by rw [← shown]; decide⟩
  | less => exact ⟨.less, rfl, by rw [← shown]; decide⟩
  | lessOrEqual => exact ⟨.lessOrEqual, rfl, by rw [← shown]; decide⟩
  | openParen | closeParen | comma | semicolon | period | asterisk | minus =>
    rw [← shown] at isSign
    exact absurd isSign (by decide)

/-- A token that shows `LIKE` in any case is the keyword. -/
theorem eq_like_of_display (wellFormed : token.WellFormed)
    (shown : Text.capitals token.display = "LIKE") : token = .keyword .like := by
  have notBelow {c : Char} (starts : token.display.toList.head? = some c) :
      ¬ c.toNat < 'A'.toNat := by
    intro low
    have first := Text.head?_capitals starts low
    rw [shown] at first
    rw [← Option.some.inj first] at low
    exact absurd low (by decide)
  cases token with
  | keyword k =>
    cases k
    case like => rfl
    all_goals exact absurd shown (by decide)
  | ident name =>
    -- the scanner makes a keyword of such a name
    have named := wellFormed.name rfl
    have keyword : Keyword.ofIdent? name = some .like := by
      rw [Token.display] at shown
      rw [Keyword.ofIdent?, shown]
      decide
    unfold isName at named
    split at named
    · cases named
    · simp [keyword] at named
  | text s =>
    have mark : (Token.text s).display.toList.head? = some '\x27' := by simp [Token.display]
    exact absurd (by decide) (notBelow mark)
  | number digits =>
    obtain ⟨d, rest, shape, digit⟩ := (wellFormed.number rfl).exists_cons
    have below : d.toNat ≤ 0x39 := (Char.isDigit_iff_toNat.mp digit).2
    have letter : 'A'.toNat = 0x41 := rfl
    have notLow := notBelow (c := d) (by rw [Token.display, shape]; rfl)
    omega
  | other c =>
    have chars : Text.capital c = ['L', 'I', 'K', 'E'] := by
      have whole := congrArg String.toList shown
      simpa [Text.capitals, Token.display] using whole
    unfold Text.capital at chars
    split at chars <;> simp at chars
  | equal | notEqual | greater | greaterOrEqual | less | lessOrEqual | openParen | closeParen
  | comma | semicolon | period | asterisk | minus => exact absurd shown (by decide)

/-- The operator that a token shows is the one it is the token of. -/
theorem eq_of_ofText? (wellFormed : token.WellFormed) {operator : Operator}
    (read : Operator.ofText? token.display = some operator) : token = operator.token := by
  have ofSign {sign : String} (same : Text.capitals token.display = sign)
      (isSign : sign ∈ Operator.signs) : token = operator.token := by
    have shown := Text.eq_of_capitals same fun _ member => (Operator.of_mem_sign isSign member).1
    obtain ⟨other, isToken, otherRead⟩ := wellFormed.exists_of_display shown isSign
    rw [shown, otherRead] at read
    cases read
    exact isToken
  unfold Operator.ofText? at read
  split at read
  case h_8 like =>
    cases read
    exact wellFormed.eq_like_of_display like
  case h_9 => cases read
  all_goals exact ofSign ‹_› (by decide)

end Token.WellFormed

end TableQuery
