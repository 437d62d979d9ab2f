import Backtrack.Cursor
import Backtrack.ParseError
import Backtrack.Record

/-!
# Parsers

A parser looks at a cursor and replies with an outcome, the offset where it leaves the cursor and
the records it logged. An outcome is a match with a value, a miss, which leaves other parsers their
turn, or an error, which ends the parse. A parser may leave the cursor anywhere, also where it
misses; `Parser.attempt` puts the cursor back where the parser began unless it matches, and the
combinators are built on it.
-/

namespace Backtrack

/-- What a parser has to say about the input at a cursor. -/
inductive Outcome (α : Type) where
  | matched (value : α)
  | missed
  | failed (error : ParseError)
  deriving DecidableEq, Repr

namespace Outcome

variable {α β : Type}

/-- The outcome with its value replaced by an image. -/
def map (f : α → β) : Outcome α → Outcome β
  | matched a => matched (f a)
  | missed => missed
  | failed e => failed e

def isMatch : Outcome α → Bool
  | matched _ => true
  | _ => false

end Outcome

/-- The outcome of a parser, the offset where it left the cursor, and what it logged. -/
structure Reply (α : Type) where
  outcome : Outcome α
  stop : Nat
  log : List Record
  deriving DecidableEq, Repr

namespace Reply

variable {α β : Type}

/-- The reply with its value replaced by an image. -/
def map (f : α → β) (r : Reply α) : Reply β := ⟨r.outcome.map f, r.stop, r.log⟩

/-- The reply with other records in front of its own. -/
def after (log : List Record) (r : Reply α) : Reply α := ⟨r.outcome, r.stop, log ++ r.log⟩

end Reply

/-- A parser of values of a type. -/
def Parser (α : Type) : Type := Cursor → Run (Reply α)

/-- The offset at which a cursor is restored to where it is. -/
def Cursor.home (c : Cursor) : Nat := c.text.floor c.pos

namespace Parser

variable {α β : Type}

/-- Matches with a value and reads nothing. -/
def succeed (a : α) : Parser α := fun c => .ok ⟨.matched a, c.pos, []⟩

/-- Misses and reads nothing. -/
def miss : Parser α := fun c => .ok ⟨.missed, c.pos, []⟩

/-- Reports an error and reads nothing. -/
def raise (e : ParseError) : Parser α := fun c => .ok ⟨.failed e, c.pos, []⟩

/-- Logs a record and reads nothing. -/
def note (record : Record) : Parser Unit := fun c => .ok ⟨.matched (), c.pos, [record]⟩

/-- Goes on where a parser matched with another, chosen by the value. -/
def bind (p : Parser α) (next : α → Parser β) : Parser β := fun c => do
  let r ← p c
  match r.outcome with
  | .matched a => return (← next a (c.moveTo r.stop)).after r.log
  | .missed => return ⟨.missed, r.stop, r.log⟩
  | .failed e => return ⟨.failed e, r.stop, r.log⟩

/-- Replaces the value by an image. -/
def map (f : α → β) (p : Parser α) : Parser β := fun c => return (← p c).map f

instance : Monad Parser where
  pure := succeed
  bind := bind
  map := map

/-- Puts the cursor back where the parser began, unless the parser matches. -/
def attempt (p : Parser α) : Parser α := fun c => do
  let r ← p c
  match r.outcome with
  | .matched _ => return r
  | _ => return { r with stop := c.home }

/-- Logs one record where the parser misses and another where it reports an error; both are told
where the parser began. -/
def noting (onMiss onError : Nat → Record) (p : Parser α) : Parser α := fun c => do
  let r ← p c
  match r.outcome with
  | .matched _ => return r
  | .missed => return { r with log := r.log ++ [onMiss c.pos] }
  | .failed _ => return { r with log := r.log ++ [onError c.pos] }

/-- The offset reached. -/
def position : Parser Nat := fun c => .ok ⟨.matched c.pos, c.pos, []⟩

/-- Whether nothing is left to read. -/
def isAtEnd : Parser Bool := fun c => .ok ⟨.matched c.atEnd, c.pos, []⟩

/-- The text from an offset to the one reached. -/
def textSince (start : Nat) : Parser Text := fun c => do
  return ⟨.matched (← c.slice start c.pos), c.pos, []⟩

/-- The outcome of a parser at the start of a text, with what is left of the text on a match. -/
def parseText (p : Parser α) (text : Text) : Run (Outcome (α × Text)) := do
  let r ← p (.start text)
  match r.outcome with
  | .matched a => return .matched (a, ← ((Cursor.start text).moveTo r.stop).remaining)
  | .missed => return .missed
  | .failed e => return .failed e

end Parser

end Backtrack
