import Backtrack.Parser.Convert
import Backtrack.Parser.Character

/-!
# Scans

A scan collects content up to a delimiter, which it does not read. `scanUntil` takes content before
it looks for the delimiter, `scanWhileNot` looks first; the forms that stop at the end of the input
take the end for a delimiter. A scan misses where content misses, or reads nothing and has no
delimiter behind it. Each scan is given the number of rounds it may take, a round for a run of the
content parser and one of the delimiter.
-/

namespace Backtrack

namespace Reply

variable {α : Type}

/-- The reply with an item and its records in front. -/
def cons (a : α) (log : List Record) (r : Reply (List α)) : Reply (List α) :=
  (r.map (a :: ·)).after log

end Reply

/-- When a scan first looks for its delimiter. -/
inductive ScanMode where
  /-- Content comes before the first look for a delimiter. -/
  | afterContent
  /-- A delimiter is looked for before any content. -/
  | atOnce
  deriving DecidableEq, Repr

/-- A way to scan: when it looks for a delimiter, and whether the end of the input is one. -/
structure ScanKind where
  mode : ScanMode
  stopsAtEnd : Bool
  deriving DecidableEq, Repr

namespace Parser

variable {α β : Type}

/-- The rounds of a scan from `start` that takes content first. -/
def untilLoop (content : Parser α) (delimiter : Parser β) (start : Nat) :
    Nat → Parser (List α)
  | 0, _ => .error .roundsSpent
  | rounds + 1, c => do
    let r ← content c
    match r.outcome with
    | .missed => return ⟨.missed, r.stop, r.log⟩
    | .failed e => return ⟨.failed e, r.stop, r.log⟩
    | .matched a =>
      let behind := c.moveTo r.stop
      let q ← delimiter behind
      match q.outcome with
      | .matched _ => return ⟨.matched [a], behind.home, r.log ++ q.log⟩
      | .failed e => return ⟨.failed e, behind.home, r.log ++ q.log ++ [.untilError start]⟩
      | .missed =>
        if behind.home = c.pos then return ⟨.missed, behind.home, r.log ++ q.log⟩
        else
          return (← untilLoop content delimiter start rounds (c.moveTo behind.home)).cons a
            (r.log ++ q.log)

/-- Content, then more of it up to a delimiter. -/
def scanUntil (rounds : Nat) (content : Parser α) (delimiter : Parser β) : Parser (List α) :=
  attempt fun c => untilLoop content delimiter c.pos rounds c

/-- The rounds of a scan from `start` that looks for the delimiter first. -/
def whileNotLoop (content : Parser α) (delimiter : Parser β) (start : Nat) :
    Nat → Parser (List α)
  | 0, _ => .error .roundsSpent
  | rounds + 1, c => do
    let q ← delimiter c
    match q.outcome with
    | .matched _ => return ⟨.matched [], c.home, q.log⟩
    | .failed e => return ⟨.failed e, c.home, q.log ++ [.whileNotError start]⟩
    | .missed =>
      let here := c.moveTo c.home
      let r ← content here
      match r.outcome with
      | .missed => return ⟨.missed, r.stop, q.log ++ r.log⟩
      | .failed e => return ⟨.failed e, r.stop, q.log ++ r.log⟩
      | .matched a =>
        if r.stop = here.pos then return ⟨.missed, r.stop, q.log ++ r.log⟩
        else
          return (← whileNotLoop content delimiter start rounds (c.moveTo r.stop)).cons a
            (q.log ++ r.log)

/-- Content up to a delimiter. -/
def scanWhileNot (rounds : Nat) (content : Parser α) (delimiter : Parser β) : Parser (List α) :=
  attempt fun c => whileNotLoop content delimiter c.pos rounds c

/-- Matches at the end of the input and, before it, where the delimiter does. -/
def endOr (delimiter : Parser β) : Parser Unit := fun c =>
  if c.atEnd then succeed () c else delimiter.map (fun _ => ()) c

/-- Content up to a delimiter, in one of the four ways. -/
def scan (kind : ScanKind) (rounds : Nat) (content : Parser α) (delimiter : Parser β) :
    Parser (List α) :=
  let stop := if kind.stopsAtEnd then endOr delimiter else delimiter.map fun _ => ()
  match kind.mode with
  | .afterContent => scanUntil rounds content stop
  | .atOnce => scanWhileNot rounds content stop

/-- The text of a scan that goes one code point at a time. -/
def scanText (kind : ScanKind) (rounds : Nat) (delimiter : Parser β) : Parser Text :=
  recognize (scan kind rounds anyChar delimiter)

end Parser

end Backtrack
