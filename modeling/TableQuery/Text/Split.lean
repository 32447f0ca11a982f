/-!
Splitting a text at a separator character.

A dot splits a qualified name; a parenthesis splits the label of an aggregate
into the function's name and what follows.
-/

namespace TableQuery.Text

/-- The characters before and after the first separator. -/
def splitFirst? (separator : Char) : List Char → Option (List Char × List Char)
  | [] => none
  | c :: rest =>
    if c = separator then some ([], rest)
    else (splitFirst? separator rest).map fun (before, after) => (c :: before, after)

/-- The characters after the last separator, or all when there is none. -/
def afterLast (separator : Char) (cs : List Char) : List Char :=
  (cs.reverse.takeWhile (· ≠ separator)).reverse

/-- A text with a separator falls into the parts around its first one. -/
theorem splitFirst?_eq_some {separator : Char} {cs before after : List Char}
    (split : splitFirst? separator cs = some (before, after)) :
    cs = before ++ separator :: after ∧ separator ∉ before := by
  induction cs generalizing before with
  | nil => simp [splitFirst?] at split
  | cons c rest ih =>
    rw [splitFirst?] at split
    split at split
    · rename_i same
      cases split
      simp [same]
    · rename_i different
      obtain ⟨⟨front, back⟩, tail, eq⟩ := Option.map_eq_some_iff.mp split
      cases eq
      obtain ⟨rfl, absent⟩ := ih tail
      exact ⟨rfl, by simp [Ne.symm different, absent]⟩

theorem splitFirst?_append {separator : Char} {before : List Char} (absent : separator ∉ before)
    (after : List Char) :
    splitFirst? separator (before ++ separator :: after) = some (before, after) := by
  induction before with
  | nil => simp [splitFirst?]
  | cons c rest ih =>
    rw [List.mem_cons, not_or] at absent
    rw [List.cons_append, splitFirst?, if_neg (Ne.symm absent.1), ih absent.2]
    rfl

/-- A text splits unless the separator is absent. -/
theorem splitFirst?_eq_none_iff {separator : Char} {cs : List Char} :
    splitFirst? separator cs = none ↔ separator ∉ cs := by
  induction cs with
  | nil => simp [splitFirst?]
  | cons c rest ih =>
    rw [splitFirst?]
    split
    · rename_i same
      simp [same]
    · rename_i different
      simp [ih, Ne.symm different]

end TableQuery.Text
