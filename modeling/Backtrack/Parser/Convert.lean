import Backtrack.Parser.Basic

/-!
# Values and errors of parsers

Parsers that run another parser once and change its value, judge it or replace its error, and
parsers that return the text another one read.
-/

namespace Backtrack

namespace Parser

variable {α β : Type}

/-- Replaces the value by a fixed one. -/
def withValue (b : β) (p : Parser α) : Parser β := p.map fun _ => b

/-- Replaces an error by an image. -/
def mapError (f : ParseError → ParseError) (p : Parser α) : Parser α := fun c => do
  let r ← p c
  match r.outcome with
  | .failed e => return { r with outcome := .failed (f e) }
  | _ => return r

/-- Converts the value; a conversion that fails is an error where the parser began. -/
def tryMap (f : α → Except ErrorSeed β) (p : Parser α) : Parser β :=
  attempt do
    let start ← position
    match f (← p) with
    | .ok b => return b
    | .error seed =>
      note (.conversionError start)
      raise (seed.toError start)

/-- Misses where the value does not pass the test. -/
def verify (test : α → Bool) (p : Parser α) : Parser α :=
  attempt do
    let a ← p
    if test a then return a else miss

/-- The text the parser read. -/
def recognize (p : Parser α) : Parser Text :=
  attempt do
    let start ← position
    let _ ← p
    textSince start

/-- The value and the text the parser read. -/
def spanned (p : Parser α) : Parser (α × Text) :=
  attempt do
    let start ← position
    let a ← p
    return (a, ← textSince start)

end Parser

end Backtrack
