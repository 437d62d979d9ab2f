/-!
# Runs and their faults

A computation on a text either answers or stops at a fault. A fault is never the answer to an
input: a slice between bounds that are not boundaries is a mistake of the code that asked for it,
and a spent budget says only that the answer was not reached.
-/

namespace Backtrack

/-- Why a run stops without an answer. -/
inductive Fault where
  /-- A slice was asked for whose bounds are out of order, past the end or inside a code point. -/
  | unaligned (start stop : Nat)
  /-- A loop used up the rounds it was given. -/
  | roundsSpent
  /-- Rules called each other deeper than allowed. -/
  | depthSpent
  /-- A rule, checkpoint or fork of that name was never set. -/
  | unknownName (name : String)
  deriving DecidableEq, Repr

/-- The result of a computation that may stop at a fault. -/
abbrev Run (α : Type) : Type := Except Fault α

end Backtrack
