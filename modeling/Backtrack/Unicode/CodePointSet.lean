/-!
# Sets of code points

A set is a list of inclusive ranges in ascending order, so that a search ends at the first range
beyond the code point.
-/

namespace Backtrack

/-- A set of code points, as ranges of first and last in ascending order. -/
abbrev CodePointSet : Type := List (Nat × Nat)

namespace CodePointSet

/-- Whether one of the ranges has code point `n`. -/
def has : CodePointSet → Nat → Bool
  | [], _ => false
  | (first, last) :: rest, n => if n < first then false else n ≤ last || has rest n

end CodePointSet

end Backtrack
