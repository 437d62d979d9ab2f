import Backtrack.Parser.Basic
import Backtrack.Presence

/-!
# Looking ahead

Parsers that ask whether another parser would match, and parsers that ask for the end of the input.
-/

namespace Backtrack

namespace Parser

variable {α : Type}

/-- Matches also where the parser misses. -/
def optional (p : Parser α) : Parser (Presence α) := fun c => do
  let r ← p c
  match r.outcome with
  | .matched a => return ⟨.matched (.present a), r.stop, r.log⟩
  | .missed => return ⟨.matched .absent, c.home, r.log⟩
  | .failed e => return ⟨.failed e, c.home, r.log⟩

/-- Has the outcome of the parser and reads nothing. -/
def peek (p : Parser α) : Parser α := fun c => do
  return { ← p c with stop := c.home }

/-- Matches where the parser misses, misses where it matches, and reads nothing. -/
def not (p : Parser α) : Parser Unit := fun c => do
  let r ← p c
  match r.outcome with
  | .matched _ => return ⟨.missed, c.home, r.log⟩
  | .missed => return ⟨.matched (), c.home, r.log⟩
  | .failed e => return ⟨.failed e, c.home, r.log⟩

/-- Matches where no code point is left. -/
def eof : Parser Unit := fun c => do
  match ← c.peek 1 with
  | some _ => miss c
  | none => succeed () c

/-- Requires the parser to read the whole input; what it leaves is an error where it stopped. -/
def complete (p : Parser α) : Parser α :=
  attempt do
    let a ← p
    if ← isAtEnd then return a else raise ⟨.expectedEof, ← position, []⟩

end Parser

end Backtrack
