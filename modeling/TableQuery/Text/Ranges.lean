/-!
Sets of characters as ascending lists of code point ranges.

The property tables of the library are such lists; the one walk over them below
is all that reads them.
-/

namespace TableQuery

/-- Inclusive ranges of code points, in ascending order and without overlap. -/
abbrev CodeRanges := List (Nat × Nat)

/-- Whether a code point lies in one of the ranges. The walk ends at the first
range that starts above the code point. -/
def CodeRanges.contains : CodeRanges → Nat → Bool
  | [], _ => false
  | (low, high) :: rest, code =>
    if code < low then false
    else if code ≤ high then true
    else CodeRanges.contains rest code

end TableQuery
