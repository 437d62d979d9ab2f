import Backtrack.Parser.Family

/-!
# Sequences

Parsers that run one after the other and match where all of them do. A sequence that does not match
puts the cursor back where its first member began.
-/

namespace Backtrack

namespace Parser

variable {α β : Type}

/-- Two parsers in a row. -/
def pair (p : Parser α) (q : Parser β) : Parser (α × β) :=
  attempt do
    let a ← p
    let b ← q
    return (a, b)

/-- Parsers in a row, which leave the cursor where the last one that ran did. -/
def each : List (Parser α) → Parser (List α)
  | [] => succeed []
  | p :: rest => do
    let a ← p
    let as ← each rest
    return a :: as

/-- The members of a family in a row. -/
def all (f : Family α) : Parser (List α) := attempt (each f.members)

/-- A parser made of others in a row. Unless it matches, it puts the cursor back where it began and
logs a record. -/
def sequence (p : Parser α) : Parser α := noting .sequenceMiss .sequenceError (attempt p)

/-- The parsers of a list as a sequence. -/
def seq (ps : List (Parser α)) : Parser (List α) := sequence (each ps)

end Parser

end Backtrack
