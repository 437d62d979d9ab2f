import Backtrack.Grammar.Meaning

/-!
# Sessions

A session works on one text with a cursor, with checkpoints and with copies of the cursor, each
under a name. A step reads from the cursor, moves it or runs a parser on it; its observation is what
the step found.
-/

namespace Backtrack

/-- One operation on the cursor of a session. -/
inductive Step where
  | peek (n : Int)
  | take (n : Int)
  | peekChar
  | nextChar
  | text
  | remaining
  | consumed
  | isAtEnd
  | display
  /-- Records the position under a name. -/
  | checkpoint (name : String)
  /-- Records an offset that need not be a position of this cursor. -/
  | foreign (name : String) (offset : Nat)
  | restore (name : String)
  | slice (low high : String)
  /-- Compares two recorded offsets. -/
  | compare (a b : String)
  /-- Copies the cursor. -/
  | fork (name : String)
  /-- Exchanges the cursor and a copy. -/
  | swap (name : String)
  /-- Compares the cursor with a copy. -/
  | same (name : String)
  | parse (e : Expr)
  /-- Shows a parser of which only its interface is known. -/
  | displayErased (e : Expr)
  deriving Repr

/-- What a step found. -/
inductive Observation where
  | nothing
  | text (t : Text)
  | flag (b : Bool)
  | offset (n : Nat)
  | ordering (o : Ordering)
  | outcome (o : Outcome Value)

namespace Observation

def ofText? : Option Text → Observation
  | some t => text t
  | none => nothing

end Observation

/-- A cursor with named checkpoints and named copies of it. -/
structure Session where
  cursor : Cursor
  checkpoints : List (String × Nat)
  forks : List (String × Cursor)
  deriving DecidableEq, Repr

namespace Session

def start (t : Text) : Session := ⟨.start t, [], []⟩

/-- The session with its cursor moved. -/
def withCursor (s : Session) (c : Cursor) : Session := { s with cursor := c }

/-- The offset recorded under a name. -/
def offset (s : Session) (name : String) : Run Nat :=
  match s.checkpoints.lookup name with
  | some n => .ok n
  | none => .error (.unknownName name)

/-- The copy under a name. -/
def copy (s : Session) (name : String) : Run Cursor :=
  match s.forks.lookup name with
  | some c => .ok c
  | none => .error (.unknownName name)

/-- What a parser shows of itself where only its interface is known. -/
def erasedDisplay : Text := "Boxed \x7b .. \x7d".toList

/-- What a step finds, and the session after it. -/
def step (g : Grammar) (budget : Nat) (s : Session) : Step → Run (Observation × Session)
  | .peek n => do
    return (.ofText? (← s.cursor.peek n), s)
  | .take n => do
    let (t, c) ← s.cursor.take n
    return (.ofText? t, s.withCursor c)
  | .peekChar => do
    return (.ofText? ((← s.cursor.peekChar).map ([·])), s)
  | .nextChar => do
    let (ch, c) ← s.cursor.nextChar
    return (.ofText? (ch.map ([·])), s.withCursor c)
  | .text => return (.text s.cursor.text, s)
  | .remaining => return (.text (← s.cursor.remaining), s)
  | .consumed => return (.text (← s.cursor.consumed), s)
  | .isAtEnd => return (.flag s.cursor.atEnd, s)
  | .display => return (.text (← s.cursor.display), s)
  | .checkpoint name =>
    return (.offset s.cursor.pos, { s with checkpoints := (name, s.cursor.pos) :: s.checkpoints })
  | .foreign name offset =>
    return (.offset offset, { s with checkpoints := (name, offset) :: s.checkpoints })
  | .restore name => return (.nothing, s.withCursor (s.cursor.restore (← s.offset name)))
  | .slice low high =>
    return (.text (← s.cursor.slice (← s.offset low) (← s.offset high)), s)
  | .compare a b => return (.ordering (Ord.compare (← s.offset a) (← s.offset b)), s)
  | .fork name => return (.nothing, { s with forks := (name, s.cursor) :: s.forks })
  | .swap name => do
    let c ← s.copy name
    return (.nothing, { s with cursor := c, forks := (name, s.cursor) :: s.forks })
  | .same name => return (.flag (s.cursor == (← s.copy name)), s)
  | .parse e => do
    let r ← g.parser budget e s.cursor
    return (.outcome r.outcome, s.withCursor (s.cursor.moveTo r.stop))
  | .displayErased _ => return (.text erasedDisplay, s)

/-- What each of some steps finds, with the position after it. -/
def run (g : Grammar) (budget : Nat) : Session → List Step → Run (List (Observation × Nat))
  | _, [] => return []
  | s, step :: rest => do
    let (found, next) ← s.step g budget step
    return (found, next.cursor.pos) :: (← run g budget next rest)

end Session

end Backtrack
