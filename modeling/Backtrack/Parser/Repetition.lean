import Backtrack.Parser.Basic

/-!
# Repetitions

A repetition collects items while its condition on their number holds and the item parser matches.
It needs a least number of items, and once it has them it also stops after an item that read
nothing. Items that move the cursor back may keep a repetition going, so each one is given the
number of rounds it may take, a round for a run of the item parser.
-/

namespace Backtrack

/-- The items a repetition collected, the offset behind them, the error that ended it, if one did,
and the records logged. -/
structure Harvest (α : Type) where
  items : List α
  stop : Nat
  error : Option ParseError
  log : List Record
  deriving DecidableEq, Repr

namespace Harvest

variable {α : Type}

/-- The harvest with an item and its records in front. -/
def cons (a : α) (log : List Record) (h : Harvest α) : Harvest α :=
  ⟨a :: h.items, h.stop, h.error, log ++ h.log⟩

end Harvest

namespace Parser

variable {α : Type}

/-- Collects items behind the `count` collected so far. -/
def collect (rounds min : Nat) (proceed : Nat → Bool) (item : Parser α) (count : Nat)
    (c : Cursor) : Run (Harvest α) :=
  if proceed count then
    match rounds with
    | 0 => .error .roundsSpent
    | rounds + 1 => do
      let r ← item c
      match r.outcome with
      | .missed => return ⟨[], c.home, none, r.log⟩
      | .failed e => return ⟨[], r.stop, some e, r.log⟩
      | .matched a =>
        if r.stop = c.pos ∧ min ≤ count + 1 then return ⟨[a], r.stop, none, r.log⟩
        else return (← collect rounds min proceed item (count + 1) (c.moveTo r.stop)).cons a r.log
  else .ok ⟨[], c.pos, none, []⟩

/-- Items while the condition on their number holds, at least `min` of them. -/
def repeatWhile (rounds min : Nat) (proceed : Nat → Bool) (item : Parser α) : Parser (List α) :=
  fun c => do
    let h ← collect rounds min proceed item 0 c
    let count := h.items.length
    match h.error with
    | some e => return ⟨.failed e, c.home, h.log ++ [.repetitionError count]⟩
    | none =>
      if min ≤ count && (count == 0 || proceed (count - 1)) then
        return ⟨.matched h.items, h.stop, h.log⟩
      else return ⟨.missed, c.home, h.log ++ [.repetitionShort count min c.pos]⟩

/-- From `min` to `max` items. -/
def between (rounds min max : Nat) (item : Parser α) : Parser (List α) :=
  repeatWhile rounds min (· < max) item

/-- Exactly `count` items. -/
def times (rounds count : Nat) (item : Parser α) : Parser (List α) :=
  between rounds count count item

/-- At least `min` items. -/
def atLeast (rounds min : Nat) (item : Parser α) : Parser (List α) :=
  repeatWhile rounds min (fun _ => true) item

/-- At most `max` items. -/
def atMost (rounds max : Nat) (item : Parser α) : Parser (List α) := between rounds 0 max item

/-- Any number of items. -/
def zeroOrMore (rounds : Nat) (item : Parser α) : Parser (List α) := atLeast rounds 0 item

/-- One item or more. -/
def oneOrMore (rounds : Nat) (item : Parser α) : Parser (List α) := atLeast rounds 1 item

end Parser

end Backtrack
