import Backtrack.Presence

/-!
# Branches

The value of a choice between two, tagged by the side that matched.
-/

namespace Backtrack

/-- A value from the left or from the right. -/
inductive Branch (α β : Type) where
  | left (value : α)
  | right (value : β)
  deriving DecidableEq, Repr, Ord

namespace Branch

variable {α β : Type}

def isLeft : Branch α β → Bool
  | left _ => true
  | right _ => false

def isRight : Branch α β → Bool
  | left _ => false
  | right _ => true

def left? : Branch α β → Presence α
  | left a => .present a
  | right _ => .absent

def right? : Branch α β → Presence β
  | left _ => .absent
  | right b => .present b

/-- Both sides, of which one is there. -/
def toPair (b : Branch α β) : Presence α × Presence β := (b.left?, b.right?)

/-- The value of whichever side matched. -/
def merge : Branch α α → α
  | left a => a
  | right a => a

end Branch

end Backtrack
