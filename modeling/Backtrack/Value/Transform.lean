import Backtrack.Value

/-!
# Transformations of values

The named functions that a description may apply to a value. Outside the values it is meant for, a
transformation gives the unit.
-/

namespace Backtrack

/-- A named function on values. -/
inductive Transform where
  | size
  | text
  | tag (t : Text)
  | nth (k : Nat)
  | isPresent
  | isAbsent
  | value
  | unwrapOr (t : Text)
  | mapPresence (f : Transform)
  | isLeft
  | isRight
  | left
  | right
  | toPair
  | merge
  deriving DecidableEq, Repr

namespace Transform

def apply : Transform → Value → Value
  | size, v => .int v.size
  | text, v => .str v.text
  | tag t, v => .tuple [.str t, v]
  | nth k, v => v.members[k]?.getD .unit
  | isPresent, .presence p => .bool p.isPresent
  | isAbsent, .presence p => .bool p.isAbsent
  | value, .presence p => .list p.toOption.toList
  | unwrapOr t, .presence p => p.getD (.str t)
  | mapPresence f, .presence p => .presence (p.map f.apply)
  | isLeft, .branch b => .bool b.isLeft
  | isRight, .branch b => .bool b.isRight
  | left, .branch b => .presence b.left?
  | right, .branch b => .presence b.right?
  | toPair, .branch b => .tuple [.presence b.toPair.1, .presence b.toPair.2]
  | merge, .branch b => b.merge
  | _, _ => .unit

end Transform

end Backtrack
