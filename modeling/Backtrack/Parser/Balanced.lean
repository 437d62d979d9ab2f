import Backtrack.Parser.Sequence
import Backtrack.Parser.Choice

/-!
# Sequences and choices of any length

One or more parsers, split in the middle and each half again, make a tree of pairs. A sequence is
read along the tree, and its values are found again by a tree of positions split in the same way; a
choice is a tree of choices between two.
-/

namespace Backtrack

/-- A tree with values at its leaves. -/
inductive PairTree (α : Type) where
  | leaf (value : α)
  | node (left right : PairTree α)
  deriving DecidableEq, Repr

namespace PairTree

variable {α : Type}

/-- The tree of a value and those after it, split in the middle to the given depth. -/
def splitTo : Nat → α → List α → PairTree α
  | 0, a, _ => leaf a
  | _ + 1, a, [] => leaf a
  | depth + 1, a, b :: rest =>
    let half := (rest.length + 2) / 2
    match (a :: b :: rest).drop half with
    | [] => leaf a
    | m :: more => node (splitTo depth a ((b :: rest).take (half - 1))) (splitTo depth m more)

/-- The tree of a value and those after it, split in the middle down to single values. -/
def balanced (a : α) (rest : List α) : PairTree α := splitTo rest.length a rest

/-- The tree of the position `start` and `more` after it, split to the given depth. -/
def positionsTo : Nat → Nat → Nat → PairTree Nat
  | 0, start, _ => leaf start
  | _ + 1, start, 0 => leaf start
  | depth + 1, start, more + 1 =>
    let half := (more + 2) / 2
    node (positionsTo depth start (half - 1)) (positionsTo depth (start + half) (more + 1 - half))

/-- The tree of the position 0 and `more` after it, split down to single positions. -/
def positions (more : Nat) : PairTree Nat := positionsTo more 0 more

/-- The values of a tree under the positions that a tree of its shape gives them. -/
def assign : PairTree Nat → PairTree α → List (Nat × α)
  | leaf i, leaf a => [(i, a)]
  | node p q, node s t => assign p s ++ assign q t
  | _, _ => []

/-- The values at the position 0 and at `more` after it. -/
def inOrder (more : Nat) (t : PairTree α) : List α :=
  (List.range (more + 1)).filterMap fun i => ((positions more).assign t).lookup i

end PairTree

namespace Parser

variable {α : Type}

/-- Reads along a tree, each node as a pair. -/
def pairs : PairTree (Parser α) → Parser (PairTree α)
  | .leaf p => p.map .leaf
  | .node s t => (pair (pairs s) (pairs t)).map fun (a, b) => .node a b

/-- Tries along a tree, each node as a choice between two. -/
def choices : PairTree (Parser α) → Parser α
  | .leaf p => p
  | .node s t => first [choices s, choices t]

/-- One or more parsers in a row, read along the tree. -/
def treeSeq (p : Parser α) (ps : List (Parser α)) : Parser (List α) :=
  (pairs (.balanced p ps)).map (PairTree.inOrder ps.length)

/-- The number of parsers up to which a sequence is read flat. -/
def flatLimit : Nat := 9

/-- One or more parsers in a row: a single one as it is, a few as a flat sequence, many along the
tree. -/
def chain (p : Parser α) (ps : List (Parser α)) : Parser (List α) :=
  if ps.isEmpty || flatLimit ≤ ps.length then treeSeq p ps else seq (p :: ps)

/-- One or more parsers, tried along the tree; a single one is left as it is. -/
def choice (p : Parser α) (ps : List (Parser α)) : Parser α := choices (.balanced p ps)

end Parser

end Backtrack
