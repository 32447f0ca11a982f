import TableQuery.Text.CaseFold

/-!
Patterns of the `LIKE` operator.

`%` stands for any characters, `_` for any single one, and every other character
for itself in either case. A pattern must take the whole text.
-/

namespace TableQuery

/-- One character of a pattern. -/
inductive PatternPiece
  /-- Any sequence of characters, also none. -/
  | anySequence
  /-- Exactly one character. -/
  | anyOne
  /-- A character that folds to this one. -/
  | letter (folded : Char)
deriving DecidableEq

/-- A pattern: its pieces in order. -/
abbrev Pattern := List PatternPiece

namespace Pattern

/-- What a pattern character stands for. -/
def piece (c : Char) : PatternPiece :=
  match c with
  | '%' => .anySequence
  | '_' => .anyOne
  | c => .letter (Text.foldCase c)

/-- The pattern of a pattern text. -/
def ofText (text : String) : Pattern :=
  text.toList.map piece

/-- Whether an entry at this place or later is true, for every place of a list. -/
def anyLater : List Bool → List Bool
  | [] => []
  | b :: rest =>
    let later := anyLater rest
    (b || later.headD false) :: later

/-- Whether a pattern takes the rest of a folded text, for every place of the text
from its start to its end. Each piece turns the answers for the pieces after it into
its own. -/
def takes : Pattern → List Char → List Bool
  | [], folded => folded.map (fun _ => false) ++ [true]
  | .anySequence :: rest, folded => anyLater (takes rest folded)
  | .anyOne :: rest, folded => (takes rest folded).drop 1 ++ [false]
  | .letter c :: rest, folded =>
    List.zipWith (fun d later => d == c && later) folded ((takes rest folded).drop 1) ++ [false]

/-- Whether a pattern takes a whole text. -/
def matchesText (pattern : Pattern) (text : String) : Bool :=
  (takes pattern (text.toList.map Text.foldCase)).headD false

end Pattern

end TableQuery
