import Backtrack.Unicode.CategoryTable

/-!
# The category of a code point

Looks a code point up in the category table; what no range holds is unassigned. Properties go by the
categories of Unicode 18, escapes by those of Unicode 17.
-/

namespace Backtrack

namespace GeneralCategory

/-- The category of the range that has code point `n`, in a table in ascending order. -/
def Table.lookup : Table → Nat → GeneralCategory
  | [], _ => unassigned
  | (first, last, category) :: rest, n =>
    if n < first then unassigned else if n ≤ last then category else lookup rest n

/-- The general category of a character in Unicode 17. -/
def inVersion17 (c : Char) : GeneralCategory := (Table.page (c.toNat / 4096)).lookup c.toNat

/-- The general category of a character in Unicode 18. A code point that has been assigned keeps its
category, so only the unassigned ones are looked up among the additions. -/
def of (c : Char) : GeneralCategory :=
  match inVersion17 c with
  | unassigned => Table.additions.lookup c.toNat
  | category => category

end GeneralCategory

end Backtrack
