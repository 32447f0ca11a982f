import Mathlib.Data.List.Forall2
import TableQuery.Proofs.NumberTexts
import TableQuery.Value.Basic

/-!
Values are told apart by their texts.

The escapes of a quoted text can be cut off one after the other, since none is the beginning of
another and none starts with a quote (`Text.escape_append_inj`). So a quoted text has one meaning,
whichever characters are hidden (`Text.quoted_injective`). Integers and floats have texts of their
own too, and the name of its kind comes first in the text of a value: values have the same text
just when they are of the same kind and content (`Value.debugText_eq_iff`).
-/

namespace TableQuery

namespace Text

/-! ## Hexadecimal digits -/

theorem digitChar_inj : ∀ m < 16, ∀ n < 16, Nat.digitChar m = Nat.digitChar n → m = n := by
  decide

theorem mem_hexDigits {n : Nat} {c : Char} (member : c ∈ Nat.toDigits 16 n) :
    ∃ d, d < 16 ∧ c = Nat.digitChar d := by
  induction n using Nat.strongRecOn with
  | ind n ih =>
    rw [Nat.toDigits_eq_if (by decide)] at member
    split at member
    · rename_i small
      exact ⟨n, small, List.mem_singleton.mp member⟩
    · rename_i large
      rcases List.mem_append.mp member with front | last
      · exact ih (n / 16) (by omega) front
      · exact ⟨n % 16, Nat.mod_lt _ (by decide), List.mem_singleton.mp last⟩

theorem singleton_ne_append (c d : Char) (n : Nat) : [c] ≠ Nat.toDigits 16 n ++ [d] := by
  intro same
  have lengths := congrArg List.length same
  have some := Nat.length_toDigits_pos (b := 16) (n := n)
  rw [List.length_append, List.length_singleton, List.length_singleton] at lengths
  omega

theorem hexDigits_inj {m n : Nat} (same : Nat.toDigits 16 m = Nat.toDigits 16 n) : m = n := by
  induction m using Nat.strongRecOn generalizing n with
  | ind m ih =>
    rw [Nat.toDigits_eq_if (by decide), Nat.toDigits_eq_if (n := n) (by decide)] at same
    split_ifs at same with left right right
    · exact digitChar_inj m left n right (List.singleton_inj.mp same)
    · exact absurd same (singleton_ne_append _ _ _)
    · exact absurd same.symm (singleton_ne_append _ _ _)
    · obtain ⟨fronts, lasts⟩ := List.append_inj' same rfl
      have quotients := ih (m / 16) (by omega) fronts
      have remainders := digitChar_inj _ (Nat.mod_lt m (by decide)) _ (Nat.mod_lt n (by decide))
        (List.singleton_inj.mp lasts)
      omega

/-- A number is told from others by its digits up to a bracket. -/
theorem hexDigits_append_inj {m n : Nat} {rest rest' : List Char}
    (same : Nat.toDigits 16 m ++ '\x7d' :: rest = Nat.toDigits 16 n ++ '\x7d' :: rest') :
    m = n ∧ rest = rest' := by
  have noBracket (n : Nat) : ∀ c ∈ Nat.toDigits 16 n, (c != '\x7d') = true := by
    have chars : ∀ d < 16, (Nat.digitChar d != '\x7d') = true := by decide
    intro c member
    obtain ⟨d, small, rfl⟩ := mem_hexDigits member
    exact chars d small
  have stop (rest : List Char) : ∀ c ∈ ('\x7d' :: rest).head?, (c != '\x7d') = false :=
    Token.forall_head?_cons (by decide) rest
  obtain ⟨digits, behind⟩ := Token.span_append (noBracket m) (stop rest)
  obtain ⟨digits', behind'⟩ := Token.span_append (noBracket n) (stop rest')
  rw [same] at digits behind
  exact ⟨hexDigits_inj (digits.symm.trans digits'), (List.cons.inj (behind.symm.trans behind')).2⟩

/-! ## Escapes -/

section Escapes

variable (hidden : Char → Bool)

/-- A character is written by a letter or by its code point, behind a backslash, or as itself. -/
theorem escape_cases (c : Char) :
    (∃ letter, (c, letter) ∈ escapeLetters ∧ escape hidden c = ['\\', letter]) ∨
      escape hidden c = ['\\', 'u', '\x7b'] ++ Nat.toDigits 16 c.toNat ++ ['\x7d'] ∨
      c ≠ '\\' ∧ c ≠ '\x22' ∧ escape hidden c = [c] := by
  unfold escape
  cases known : escapeLetters.lookup c with
  | some letter =>
    obtain ⟨before, behind, parts, _⟩ := List.lookup_eq_some_iff.mp known
    exact Or.inl ⟨letter, parts ▸ List.mem_append_right _ List.mem_cons_self, rfl⟩
  | none =>
    dsimp only
    split
    · exact Or.inr (Or.inl rfl)
    · refine Or.inr (Or.inr ⟨?_, ?_, rfl⟩)
      · rintro rfl
        cases known
      · rintro rfl
        cases known

/-- The letters stand for different characters, and none of them marks a code point. -/
theorem escapeLetters_apart : ∀ p ∈ escapeLetters, p.2 ≠ 'u' ∧
    ∀ q ∈ escapeLetters, p.2 = q.2 → p.1 = q.1 := by
  decide

/-- No escape is the beginning of another one. -/
theorem escape_append_inj {c d : Char} {rest rest' : List Char}
    (same : escape hidden c ++ rest = escape hidden d ++ rest') : c = d ∧ rest = rest' := by
  rcases escape_cases hidden c with ⟨letter, known, shape⟩ | shape | ⟨noSlash, _, shape⟩ <;>
    rcases escape_cases hidden d with ⟨other, known', shape'⟩ | shape' | ⟨noSlash', _, shape'⟩ <;>
    rw [shape, shape'] at same <;>
    simp only [List.cons_append, List.nil_append, List.append_assoc, List.cons.injEq, true_and]
      at same
  · obtain ⟨rfl, rests⟩ := same
    exact ⟨(escapeLetters_apart _ known).2 _ known' rfl, rests⟩
  · exact absurd same.1 (escapeLetters_apart _ known).1
  · exact absurd same.1.symm noSlash'
  · exact absurd same.1.symm (escapeLetters_apart _ known').1
  · obtain ⟨codes, rests⟩ := hexDigits_append_inj same
    exact ⟨Char.toNat_inj.mp codes, rests⟩
  · exact absurd same.1.symm noSlash'
  · exact absurd same.1 noSlash
  · exact absurd same.1 noSlash
  · exact same

/-- No escape starts as the end of the text does. -/
theorem quote_ne_escape {c : Char} {rest rest' : List Char} :
    '\x22' :: rest ≠ escape hidden c ++ rest' := by
  intro same
  rcases escape_cases hidden c with ⟨letter, _, shape⟩ | shape | ⟨_, noQuote, shape⟩ <;>
    rw [shape] at same <;> have first := (List.cons.inj same).1
  · exact absurd first (by decide)
  · exact absurd first (by decide)
  · exact noQuote first.symm

theorem flatMap_escape_inj {cs ds : List Char}
    (same : cs.flatMap (escape hidden) ++ ['\x22'] = ds.flatMap (escape hidden) ++ ['\x22']) :
    cs = ds := by
  induction cs generalizing ds with
  | nil =>
    cases ds with
    | nil => rfl
    | cons d ds =>
      rw [List.flatMap_cons, List.append_assoc] at same
      exact absurd same (quote_ne_escape hidden)
  | cons c cs ih =>
    rw [List.flatMap_cons, List.append_assoc] at same
    cases ds with
    | nil => exact absurd same.symm (quote_ne_escape hidden)
    | cons d ds =>
      rw [List.flatMap_cons, List.append_assoc] at same
      obtain ⟨rfl, rests⟩ := escape_append_inj hidden same
      rw [ih rests]

/-- A text is told from others by what stands between the quotes. -/
theorem quoted_injective : Function.Injective (quoted hidden) := fun _ _ same =>
  flatMap_escape_inj hidden (List.cons.inj same).2

end Escapes

theorem intText_injective : Function.Injective intText := by
  intro m n same
  obtain ⟨negative, digits, split, _, value⟩ := (SpellsInteger.intText m).splitSign
  obtain ⟨negative', digits', split', _, value'⟩ := (SpellsInteger.intText n).splitSign
  rw [same] at split
  cases split.symm.trans split'
  exact value.trans value'.symm

end Text

namespace Value

/-- Whether a value is a float that is not a number. -/
def isNaN : Value → Bool
  | float x => x.isNaN
  | _ => false

theorem isNaN_iff {v : Value} : v.isNaN = true ↔ ∃ x, v = float x ∧ x.isNaN = true := by
  cases v <;> simp [isNaN]

/-- Values of the same kind and content. Floats that are not numbers have one content. -/
def Same (a b : Value) : Prop :=
  a = b ∨ a.isNaN = true ∧ b.isNaN = true

/-- The value that stands for all those that are the same as a value. -/
def canonical : Value → Value
  | float x => float (if x.isNaN then Binary64.nan false else x)
  | v => v

theorem canonical_eq_iff {a b : Value} : a.canonical = b.canonical ↔ a.Same b := by
  have noNumber : (Binary64.nan false).isNaN = true := by decide
  unfold Same
  cases a <;> cases b <;> try simp [canonical, isNaN]
  rename_i x y
  have apart : x.isNaN ≠ y.isNaN → x ≠ y := fun different same => different (congrArg _ same)
  cases first : x.isNaN <;> cases second : y.isNaN <;> simp
  · have left : x ≠ Binary64.nan false := fun same => by simp [same, noNumber] at first
    simp [left, apart (by simp [first, second])]
  · have right : Binary64.nan false ≠ y := fun same => by simp [← same, noNumber] at second
    simp [right, apart (by simp [first, second])]

theorem tagged_inj {kind : String} {cs ds : List Char} (same : tagged kind cs = tagged kind ds) :
    cs = ds := by
  have chars := congrArg String.toList same
  simpa [tagged] using chars

/-- The kind of a value is told from others by the first letter of its name. -/
theorem head?_debugText (v : Value) : v.debugText.toList.head? =
    some (match v with | null => 'N' | integer _ => 'I' | float _ => 'F' | text _ => 'S') := by
  cases v <;> simp [debugText, tagged]

/-- Values have the same text when they are of the same kind and content. -/
theorem debugText_eq_iff {a b : Value} : a.debugText = b.debugText ↔ a.Same b := by
  constructor
  · intro same
    have kinds := congrArg (·.toList.head?) same
    simp only [head?_debugText] at kinds
    cases a <;> cases b <;> simp at kinds
    · exact Or.inl rfl
    · exact Or.inl (congrArg integer (Text.intText_injective (tagged_inj same)))
    · exact ((Binary64.text_eq_iff rfl).mp (tagged_inj same)).imp_left (congrArg float)
    · have chars := Text.quoted_injective Text.isHidden (tagged_inj same)
      exact Or.inl (congrArg text (String.toList_inj.mp chars))
  · rintro (rfl | ⟨first, second⟩)
    · rfl
    · obtain ⟨x, rfl, noNumber⟩ := isNaN_iff.mp first
      obtain ⟨y, rfl, noNumber'⟩ := isNaN_iff.mp second
      exact congrArg (tagged "Float")
        ((Binary64.text_eq_iff rfl).mpr (Or.inr ⟨noNumber, noNumber'⟩))

example : [integer 1, float (.ofInt 1), text "1", text "1)", text "\x22\\"].map debugText =
    ["Integer(1)", "Float(1.0)", "String(\x221\x22)", "String(\x221)\x22)",
      "String(\x22\\\x22\\\\\x22)"] := by
  decide +kernel

theorem map_eq_iff {κ : Type} {key : Value → κ} (same : ∀ {a b}, key a = key b ↔ Same a b)
    {as bs : List Value} : as.map key = bs.map key ↔ List.Forall₂ Same as bs := by
  have isSame : Same = fun a b => key a = key b :=
    funext fun a => funext fun b => propext same.symm
  rw [isSame, ← List.forall₂_eq_eq_eq, List.forall₂_map_left_iff, List.forall₂_map_right_iff]

theorem map_debugText_eq_iff {as bs : List Value} :
    as.map debugText = bs.map debugText ↔ List.Forall₂ Same as bs :=
  map_eq_iff debugText_eq_iff

theorem map_canonical_eq_iff {as bs : List Value} :
    as.map canonical = bs.map canonical ↔ List.Forall₂ Same as bs :=
  map_eq_iff canonical_eq_iff

end Value

end TableQuery
