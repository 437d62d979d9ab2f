import Backtrack.Parser.Basic

/-!
# Moves of the cursor

Parsers that read by count and parsers that move the cursor as they like. `leak` and `raiseAfter`
leave the cursor where they read to although they do not match, and `goto` may move it back.
-/

namespace Backtrack

namespace Parser

variable {α : Type}

/-- The next code points as `Cursor.peek` counts them, with nothing read. -/
def peekCount (n : Int) : Parser Text := fun c => do
  match ← c.peek n with
  | some t => succeed t c
  | none => miss c

/-- The next code points as `Cursor.take` counts them. -/
def takeCount (n : Int) : Parser Text := fun c => do
  match ← c.take n with
  | (some t, next) => return ⟨.matched t, next.pos, []⟩
  | (none, _) => miss c

/-- Reads as `Cursor.take` does, then misses there. -/
def leak (n : Int) : Parser α := fun c => do
  let (_, next) ← c.take n
  miss next

/-- Reads as `Cursor.take` does, then reports an error there. -/
def raiseAfter (n : Int) (kind : ErrorKind) (cause : Option String) : Parser α :=
  fun c => do
    let (_, next) ← c.take n
    raise ⟨kind, next.pos, cause.toList.map .told⟩ next

/-- Moves to an offset. -/
def goto (offset : Nat) : Parser Unit := fun c => succeed () (c.restore offset)

end Parser

end Backtrack
