import Mathlib.Data.Nat.Digits.Defs
import TableQuery.Proofs.NearestNumbers
import TableQuery.Proofs.Spelling
import TableQuery.Value.Literal

/-!
Integer literals keep their exact value.

The text of an integer is a run of digits, any number of which may be leading zeros, after an
optional sign (`SpellsInteger`). Neither a sign, a digit nor a blank is a quote, and no sign and
no digit is blank, so the quotes and the blanks around it come off and nothing else does
(`Value.stripQuotes_of_encloses`, `Text.trim_append`). Its digits are read exactly, however many
they are, and only then compared with the bounds of 64 bits; beyond these the integer is rounded
once (`Binary64.toBinary64_integer`).
-/

namespace TableQuery

/-! ## Texts of integers -/

/-- The number that digits stand for: the last one counts ones, the one before it tens. -/
def decimal (digits : List Char) : Nat :=
  Nat.ofDigits 10 (digits.reverse.map Text.digitValue)

/-- The texts of an integer. -/
inductive SpellsInteger : Int → List Char → Prop
  | plain {digits : List Char} : IsDigits digits → SpellsInteger (decimal digits) digits
  | plus {digits : List Char} : IsDigits digits → SpellsInteger (decimal digits) ('+' :: digits)
  | minus {digits : List Char} : IsDigits digits →
    SpellsInteger (-(decimal digits : Int)) ('-' :: digits)

/-- The texts of an integer with blanks around them. -/
def SpellsPadded (n : Int) (body : List Char) : Prop :=
  ∃ front core back, body = front ++ core ++ back ∧ Text.allBlank front = true ∧
    SpellsInteger n core ∧ Text.allBlank back = true

/-- A literal is a text alone or the text in one pair of quotes. -/
inductive Encloses (body : List Char) : List Char → Prop
  | bare : Encloses body body
  | quoted {mark : Char} : Token.isQuote mark = true → Encloses body (mark :: (body ++ [mark]))

/-! ## Digits -/

theorem digitsValue_eq_decimal (digits : List Char) : Text.digitsValue digits = decimal digits := by
  rw [decimal, Nat.ofDigits_eq_foldr, List.foldr_map, List.foldr_reverse, Text.digitsValue]
  simp only [Nat.cast_id, Nat.add_comm]

/-- The digits of a number without its sign, and what the sign makes of them. -/
theorem SpellsInteger.splitSign {n : Int} {core : List Char} (spelled : SpellsInteger n core) :
    ∃ negative digits, Decimal.splitSign core = (negative, digits) ∧ IsDigits digits ∧
      n = if negative = true then -(decimal digits : Int) else decimal digits := by
  cases spelled with
  | plain digits =>
    refine ⟨false, core, ?_, digits, rfl⟩
    unfold Decimal.splitSign
    split
    · exact absurd (digits.2 '-' List.mem_cons_self) (by decide)
    · exact absurd (digits.2 '+' List.mem_cons_self) (by decide)
    · rfl
  | plus digits => exact ⟨false, _, rfl, digits, rfl⟩
  | minus digits => exact ⟨true, _, rfl, digits, rfl⟩

theorem SpellsInteger.intText (n : Int) : SpellsInteger n (Text.intText n) := by
  have digits := isDigits_natText n.natAbs
  have value : decimal (Text.natText n.natAbs) = n.natAbs := by
    rw [← digitsValue_eq_decimal, Text.digitsValue_natText]
  rw [Text.intText]
  split
  · have spelled := SpellsInteger.minus digits
    rw [value] at spelled
    convert spelled using 1
    omega
  · have spelled := SpellsInteger.plain digits
    rw [value] at spelled
    convert spelled using 1
    omega

/-- No character of a number is blank or a quote. -/
theorem SpellsInteger.characters {n : Int} {core : List Char} (spelled : SpellsInteger n core) :
    core ≠ [] ∧ ∀ c ∈ core, Text.isBlank c = false ∧ Token.isQuote c = false := by
  have ofDigits {digits : List Char} (isDigits : IsDigits digits) :
      ∀ c ∈ digits, Text.isBlank c = false ∧ Token.isQuote c = false := fun c member =>
    ⟨Token.isBlank_of_isDigit (isDigits.2 c member), Token.isQuote_of_isDigit (isDigits.2 c member)⟩
  cases spelled with
  | plain digits => exact ⟨digits.1, ofDigits digits⟩
  | plus digits =>
    exact ⟨List.cons_ne_nil _ _, List.forall_mem_cons.mpr ⟨by decide, ofDigits digits⟩⟩
  | minus digits =>
    exact ⟨List.cons_ne_nil _ _, List.forall_mem_cons.mpr ⟨by decide, ofDigits digits⟩⟩

/-! ## Blanks and quotes -/

/-- Trimming takes the blanks from both ends of a text and no more. -/
theorem Text.trim_append {front core back : List Char} (before : allBlank front = true)
    (after : allBlank back = true) (nonempty : core ≠ [])
    (visible : ∀ c ∈ core, isBlank c = false) : trim (front ++ core ++ back) = core := by
  have first : (front ++ (core ++ back)).dropWhile isBlank = core ++ back := by
    refine (Token.span_append (List.all_eq_true.mp before) fun c head => ?_).2
    obtain ⟨d, rest, rfl⟩ := List.exists_cons_of_ne_nil nonempty
    cases head
    exact visible c List.mem_cons_self
  have last : (back.reverse ++ core.reverse).dropWhile isBlank = core.reverse := by
    refine (Token.span_append (fun c member => ?_) fun c head => ?_).2
    · exact List.all_eq_true.mp after c (List.mem_reverse.mp member)
    · exact visible c (List.mem_reverse.mp (List.mem_of_head? head))
  rw [trim, List.append_assoc, first, List.reverse_append, last, List.reverse_reverse]

theorem SpellsPadded.trim {n : Int} {body : List Char} (spelled : SpellsPadded n body) :
    SpellsInteger n (Text.trim body) := by
  obtain ⟨front, core, back, rfl, before, core', after⟩ := spelled
  obtain ⟨nonempty, characters⟩ := core'.characters
  rwa [Text.trim_append before after nonempty fun c member => (characters c member).1]

theorem SpellsPadded.isQuote {n : Int} {body : List Char} (spelled : SpellsPadded n body) :
    ∀ c ∈ body, Token.isQuote c = false := by
  obtain ⟨front, core, back, rfl, before, core', after⟩ := spelled
  intro c member
  rcases List.mem_append.mp member with inFront | inBack
  · rcases List.mem_append.mp inFront with blank | inCore
    · exact Token.isQuote_of_isBlank (List.all_eq_true.mp before c blank)
    · exact (core'.characters.2 c inCore).2
  · exact Token.isQuote_of_isBlank (List.all_eq_true.mp after c inBack)

namespace Value

theorem unquote?_of_ne {quote first : Char} (different : first ≠ quote) (rest : List Char) :
    unquote? quote (first :: rest) = none :=
  if_neg fun both => different both.1

theorem unquote?_quoted (quote : Char) (body : List Char) :
    unquote? quote (quote :: (body ++ [quote])) = some body := by
  simp [unquote?]

/-- One pair of quotes comes off a text that has none itself. -/
theorem stripQuotes_of_encloses {body literal : List Char} (encloses : Encloses body literal)
    (noQuote : ∀ c ∈ body, Token.isQuote c = false) : stripQuotes literal = body := by
  cases encloses with
  | bare =>
    cases body with
    | nil => rfl
    | cons first rest =>
      have marks := Bool.or_eq_false_iff.mp (noQuote first List.mem_cons_self)
      rw [stripQuotes, unquote?_of_ne (by simpa using marks.1),
        unquote?_of_ne (by simpa using marks.2)]
      rfl
  | @quoted mark quote =>
    rcases Bool.or_eq_true_iff.mp quote with single | double
    · rw [beq_iff_eq.mp single, stripQuotes, unquote?_quoted]
    · rw [beq_iff_eq.mp double, stripQuotes, unquote?_of_ne (by decide), unquote?_quoted]
      rfl

end Value

/-! ## Reading -/

theorem Value.integer?_of_spells {n : Int} {core : List Char} (spelled : SpellsInteger n core) :
    integer? core = if fitsInt64 n = true then some n else none := by
  obtain ⟨negative, digits, split, isDigits, rfl⟩ := spelled.splitSign
  rw [integer?, split]
  simp only [Text.natural?_of_isDigits isDigits, digitsValue_eq_decimal]

/-- The text of an integer is a number text with the exponent zero. -/
theorem Decimal.ofText?_of_spells {n : Int} {core : List Char} (spelled : SpellsInteger n core)
    (nonzero : n ≠ 0) : ofText? core = some ⟨decide (n < 0), n.natAbs, 0⟩ := by
  obtain ⟨negative, digits, split, isDigits, value⟩ := spelled.splitSign
  have parts : decide (n < 0) = negative ∧ n.natAbs = decimal digits := by
    rw [value] at nonzero ⊢
    cases negative
    · simp
    · simpa [Nat.pos_iff_ne_zero] using nonzero
  have ends : ∀ c ∈ ([] : List Char).head?, c.isDigit = false := by simp
  obtain ⟨taken, left⟩ := Token.span_append isDigits.2 ends
  rw [List.append_nil] at taken left
  rw [ofText?, split, parts.1, parts.2]
  simp only [taken, left, List.append_nil, isDigits.1, if_false, exponent?, Option.map_some,
    digitsValue_eq_decimal, List.length_nil, Nat.cast_zero, sub_zero]

namespace Binary64

/-- Numbers of more than three hundred and ten digits are infinite. -/
theorem finiteBound_le_of_length {n : Nat} (long : 310 < (Text.natText n).length) :
    finiteBound ≤ n := by
  have power : finiteBound ≤ 10 ^ 310 := by decide +kernel
  refine power.trans (Nat.le_of_not_lt fun small => ?_)
  have short : (Text.natText n).length ≤ 310 := Nat.toDigits_length 10 n 310 (by decide) small
  omega

theorem ofInt_of_finiteBound_le {n : Int} (large : finiteBound ≤ n.natAbs) :
    ofInt n = infinity (decide (n < 0)) := by
  have infinite : ¬ (ofInt n).rank < infinityRank := fun finite =>
    Nat.not_lt.mpr large ((isFinite_ofInt_iff n).mp (decide_eq_true finite))
  have rank : (ofInt n).rank = infinityRank :=
    (Nat.min_le_right _ _).antisymm (Nat.not_lt.mp infinite)
  unfold ofInt nearest ofRank infinity at *
  simpa using rank

/-- An integer is rounded in the same way from its number text. -/
theorem toBinary64_integer {n : Int} (nonzero : n ≠ 0) :
    Decimal.toBinary64 ⟨decide (n < 0), n.natAbs, 0⟩ = ofInt n := by
  have significand : n.natAbs ≠ 0 := Int.natAbs_ne_zero.mpr nonzero
  rw [Decimal.toBinary64]
  dsimp only
  rw [if_neg (by omega)]
  split
  · rename_i long
    rw [ofInt_of_finiteBound_le (finiteBound_le_of_length (by omega))]
  · show nearest _ (n.natAbs * 1 * unitsPerOne) 1 = _
    rw [Nat.mul_one]
    rfl

end Binary64

namespace Value

variable {n : Int} {body literal : List Char}

/-- What the text of an integer is as a number. -/
theorem numeral?_of_spells (spelled : SpellsPadded n body) :
    numeral? body =
      if fitsInt64 n = true then some (integer n)
      else if n.natAbs < Binary64.finiteBound then some (float (Binary64.ofInt n)) else none := by
  rw [numeral?, integer?_of_spells spelled.trim]
  split_ifs with fits finite
  · rfl
  all_goals
    have nonzero : n ≠ 0 := by
      rintro rfl
      exact fits rfl
    simp only [Decimal.ofText?_of_spells spelled.trim nonzero, Option.map_some,
      Binary64.toBinary64_integer nonzero, Binary64.isFinite_ofInt_iff, finite, if_true, if_false]

theorem fitsInt64_iff : fitsInt64 n = true ↔ -2 ^ 63 ≤ n ∧ n < 2 ^ 63 :=
  decide_eq_true_iff

theorem ofLiteral_of_spells {literal : String} (spelled : SpellsPadded n body)
    (encloses : Encloses body literal.toList) :
    ofLiteral literal =
      if fitsInt64 n = true then integer n
      else if n.natAbs < Binary64.finiteBound then float (Binary64.ofInt n)
      else text (String.ofList body) := by
  rw [ofLiteral, stripQuotes_of_encloses encloses spelled.isQuote]
  simp only [numeral?_of_spells spelled]
  split_ifs <;> rfl

/-- An integer literal is the integer that it spells, or the nearest number when this has more
than 64 bits, or a text when it is too large for that too; and an integer is read back from the
text that it is shown as. -/
theorem ofLiteral_integer :
    (∀ {n : Int} {body : List Char} {literal : String},
      SpellsPadded n body → Encloses body literal.toList →
        (-2 ^ 63 ≤ n ∧ n < 2 ^ 63 → ofLiteral literal = integer n) ∧
        (¬ (-2 ^ 63 ≤ n ∧ n < 2 ^ 63) →
          (n.natAbs < Binary64.finiteBound →
            Binary64.IsNearest n (Binary64.ofInt n) ∧
              ofLiteral literal = float (Binary64.ofInt n)) ∧
          (Binary64.finiteBound ≤ n.natAbs → ofLiteral literal = text (String.ofList body)))) ∧
      ∀ n : Int, -2 ^ 63 ≤ n ∧ n < 2 ^ 63 → (text (integer n).display).coerce = integer n := by
  refine ⟨fun spelled encloses => ?_, fun n fits => ?_⟩
  · have value := ofLiteral_of_spells spelled encloses
    refine ⟨fun fits => ?_, fun outside => ⟨fun finite => ?_, fun large => ?_⟩⟩
    · rw [value, if_pos (fitsInt64_iff.mpr fits)]
    · rw [value, if_neg fun fits => outside (fitsInt64_iff.mp fits), if_pos finite]
      exact ⟨Binary64.isNearest_ofInt finite, rfl⟩
    · rw [value, if_neg fun fits => outside (fitsInt64_iff.mp fits), if_neg (Nat.not_lt.mpr large)]
  · have spelled : SpellsPadded n (Text.intText n) :=
      ⟨[], Text.intText n, [], by simp, rfl, SpellsInteger.intText n, rfl⟩
    have shown : Encloses (Text.intText n) (integer n).display.toList := by
      rw [display, String.toList_ofList]
      exact .bare
    rw [coerce, ofLiteral_of_spells spelled shown, if_pos (fitsInt64_iff.mpr fits)]

/-- Leading zeros, a sign, blanks and quotes change nothing; the integer behind the last one of
64 bits is a float, and one of three hundred and ten digits stays a text, without its quotes. -/
theorem ofLiteral_integer_bounds :
    ofLiteral "\x27 +007 \x27" = integer 7 ∧
      ofLiteral "-9223372036854775808" = integer (-2 ^ 63) ∧
      ofLiteral "\x229223372036854775808\x22" = float (Binary64.ofInt (2 ^ 63)) ∧
      ofLiteral (String.ofList ('\x27' :: ('1' :: List.replicate 309 '0' ++ ['\x27']))) =
        text (String.ofList ('1' :: List.replicate 309 '0')) ∧
      (text (integer (-42)).display).coerce = integer (-42) := by
  have padded {n : Int} {core : List Char} (spelled : SpellsInteger n core) :
      SpellsPadded n core := ⟨[], core, [], by simp, rfl, spelled, rfl⟩
  have digits {cs : List Char} (nonempty : cs ≠ []) (allDigits : cs.all Char.isDigit = true) :
      IsDigits cs := ⟨nonempty, List.all_eq_true.mp allDigits⟩
  have seven : IsDigits "007".toList := digits (by decide) (by decide)
  have bound : IsDigits "9223372036854775808".toList := digits (by decide) (by decide)
  have huge : IsDigits ('1' :: List.replicate 309 '0') := digits (by decide) (by decide +kernel)
  have hugeValue : (decimal ('1' :: List.replicate 309 '0') : Int) = 10 ^ 309 := by
    decide +kernel
  refine ⟨?_, ?_, ?_, ?_, ?_⟩
  · have spelled : SpellsPadded 7 " +007 ".toList :=
      ⟨[' '], "+007".toList, [' '], rfl, rfl, .plus seven, rfl⟩
    exact (ofLiteral_integer.1 spelled (.quoted (by decide))).1 ⟨by decide, by decide⟩
  · have spelled : SpellsInteger (-2 ^ 63) "-9223372036854775808".toList := .minus bound
    exact (ofLiteral_integer.1 (padded spelled) .bare).1 ⟨by decide, by decide⟩
  · have spelled : SpellsInteger (2 ^ 63) "9223372036854775808".toList := .plain bound
    exact (((ofLiteral_integer.1 (padded spelled) (.quoted (by decide))).2 (by decide)).1
      (by decide +kernel)).2
  · have spelled := SpellsInteger.plain huge
    rw [hugeValue] at spelled
    refine ((ofLiteral_integer.1 (padded spelled) ?_).2 (by decide +kernel)).2 (by decide +kernel)
    rw [String.toList_ofList]
    exact .quoted (by decide)
  · exact ofLiteral_integer.2 (-42) ⟨by decide, by decide⟩

end Value

end TableQuery
