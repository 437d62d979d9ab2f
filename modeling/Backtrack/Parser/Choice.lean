import Backtrack.Parser.Family
import Backtrack.Branch

/-!
# Choices

Parsers that try one after the other from the same place. The first one that does not miss decides,
with its match or with its error.
-/

namespace Backtrack

namespace Parser

variable {α β : Type}

/-- The second parser where the first one misses. -/
def orElse (p q : Parser α) : Parser α := fun c => do
  let r ← p c
  match r.outcome with
  | .matched _ => return r
  | .missed => return (← q (c.moveTo c.home)).after r.log
  | .failed e => return ⟨.failed e, c.home, r.log⟩

/-- The first parser of a list that does not miss. -/
def first : List (Parser α) → Parser α
  | [] => miss
  | p :: rest => orElse p (first rest)

/-- The first member of a family that does not miss. -/
def any (f : Family α) : Parser α := first f.members

/-- One of two parsers, with the side that matched. -/
def or (p : Parser α) (q : Parser β) : Parser (Branch α β) :=
  orElse (p.map .left) (attempt (q.map .right))

end Parser

end Backtrack
