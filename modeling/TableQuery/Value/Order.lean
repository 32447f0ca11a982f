import TableQuery.Value.Basic
import TableQuery.Binary64.Order

/-!
Equality and the two orders of values.

`equals` and `compare?` serve conditions: numbers and texts are never equal and
never ordered. `sortCompare` serves sorting and orders all values: null, then
numbers, then texts. An integer meets a float as the nearest float.
-/

namespace TableQuery.Value

/-- Equality of two values of one kind; floats are equal by value. -/
def equals : Value → Value → Bool
  | null, null => true
  | integer a, integer b => a == b
  | float a, float b => Binary64.compare? a b == some .eq
  | text a, text b => a == b
  | _, _ => false

/-- Comparison for conditions. Null stands below everything but itself. -/
def compare? : Value → Value → Option Ordering
  | null, null => some .eq
  | null, _ => some .lt
  | _, null => some .gt
  | integer a, integer b => some (compare a b)
  | integer a, float b => Binary64.compare? (Binary64.ofInt a) b
  | float a, integer b => Binary64.compare? a (Binary64.ofInt b)
  | float a, float b => Binary64.compare? a b
  | text a, text b => some (compare a b)
  | _, _ => none

/-- The place of the kind of a value in the sorting order. -/
def sortRank : Value → Nat
  | null => 0
  | integer _ | float _ => 1
  | text _ => 2

/-- Comparison for sorting. -/
def sortCompare : Value → Value → Ordering
  | integer a, integer b => compare a b
  | integer a, float b => Binary64.totalCompare (Binary64.ofInt a) b
  | float a, integer b => Binary64.totalCompare a (Binary64.ofInt b)
  | float a, float b => Binary64.totalCompare a b
  | text a, text b => compare a b
  | a, b => compare a.sortRank b.sortRank

end TableQuery.Value
