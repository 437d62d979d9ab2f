import Backtrack.Text
import Backtrack.Text.Escape

/-!
# Cursors

A cursor is a byte offset into a text that stays as it is. Reading ahead and behind counts code
points, positions and checkpoints count bytes. `Cursor.restore` takes a cursor to any offset and
lands on the boundary at or below it, so that a cursor which starts on a boundary stays on one.
-/

namespace Backtrack

/-- A text and the byte offset reached in it. -/
structure Cursor where
  text : Text
  pos : Nat
  deriving DecidableEq, Repr

namespace Cursor

def start (text : Text) : Cursor := ⟨text, 0⟩

/-- The same text, from another offset. -/
def moveTo (c : Cursor) (pos : Nat) : Cursor := ⟨c.text, pos⟩

/-- What has not been read yet. -/
def remaining (c : Cursor) : Run Text := c.text.suffix c.pos

/-- What has been read. -/
def consumed (c : Cursor) : Run Text := c.text.slice 0 c.pos

/-- Nothing is left to read. -/
def atEnd (c : Cursor) : Bool := c.text.byteSize ≤ c.pos

/-- The offset after the next `n` code points, if there are as many. -/
def ahead (c : Cursor) (n : Nat) : Run (Option Nat) := do
  let rest ← c.remaining
  return (rest.takeChars? n).map fun seen => c.pos + seen.byteSize

/-- The offset before the last `n` code points read, if there are as many. -/
def behind (c : Cursor) (n : Nat) : Run (Option Nat) := do
  let seen ← c.consumed
  return (Text.takeChars? n seen.reverse).map fun back => c.pos - back.byteSize

/-- The next `n` code points, or for a negative count the last `-n` code points read. -/
def peek (c : Cursor) (n : Int) : Run (Option Text) := do
  if n < 0 then
    match ← c.behind n.natAbs with
    | some start => some <$> c.text.slice start c.pos
    | none => return none
  else
    match ← c.ahead n.natAbs with
    | some stop => some <$> c.text.slice c.pos stop
    | none => return none

/-- Reads the next `n` code points; a negative count, or more than are left, reads nothing. -/
def take (c : Cursor) (n : Int) : Run (Option Text × Cursor) := do
  if n < 0 then return (none, c)
  match ← c.ahead n.natAbs with
  | some stop => return (some (← c.text.slice c.pos stop), c.moveTo stop)
  | none => return (none, c)

/-- The next code point. -/
def peekChar (c : Cursor) : Run (Option Char) := do
  return (← c.remaining).head?

/-- Reads the next code point. -/
def nextChar (c : Cursor) : Run (Option Char × Cursor) := do
  match ← c.peekChar with
  | some ch => return (some ch, c.moveTo (c.pos + ch.utf8Size))
  | none => return (none, c)

/-- Moves to an offset recorded earlier, or to the boundary below it. -/
def restore (c : Cursor) (offset : Nat) : Cursor := c.moveTo (c.text.floor offset)

/-- The text between two recorded offsets, each taken down to a boundary first. Bounds out of order
give the empty text. -/
def slice (c : Cursor) (low high : Nat) : Run Text :=
  let start := c.text.floor low
  let stop := c.text.floor high
  if stop ≤ start then .ok [] else c.text.slice start stop

/-- Both halves of the text, escaped, with a bar at the cursor, and the offset. -/
def display (c : Cursor) : Run Text := do
  let before ← c.consumed
  let after ← c.remaining
  return before.escape ++ ['|'] ++ after.escape ++ s!" (offset {c.pos})".toList

end Cursor

end Backtrack
