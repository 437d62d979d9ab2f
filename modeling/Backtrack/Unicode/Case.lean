import Backtrack.Unicode.CaseTable

/-!
# Letter case

The lowercase and uppercase mapping of a character, each one or more characters, and the comparison
that ignores case.
-/

namespace Backtrack

/-- The image of a code point in a run that has it. -/
def CaseRun.image? (r : CaseRun) (n : Nat) : Option Nat :=
  if r.first ≤ n ∧ n ≤ r.last ∧ (n - r.first) % r.step = 0 then some (r.image + (n - r.first))
  else none

/-- A character mapped by expansions and runs; what neither has stays as it is. -/
def mapCase (expansions : List (Nat × List Nat)) (runs : List CaseRun) (c : Char) : List Char :=
  match expansions.lookup c.toNat with
  | some image => image.map Char.ofNat
  | none =>
    match runs.findSome? fun r => r.image? c.toNat with
    | some image => [Char.ofNat image]
    | none => [c]

def lowercase (c : Char) : List Char :=
  mapCase CaseTable.lowercaseExpansions CaseTable.lowercaseRuns c

def uppercase (c : Char) : List Char :=
  mapCase CaseTable.uppercaseExpansions CaseTable.uppercaseRuns c

/-- Two characters that are equal, or have the same lowercase or the same uppercase mapping. -/
def sameFold (a b : Char) : Bool :=
  a == b || lowercase a == lowercase b || uppercase a == uppercase b

theorem sameFold_refl (a : Char) : sameFold a a = true := by simp [sameFold]

theorem sameFold_comm (a b : Char) : sameFold a b = sameFold b a := by
  rw [sameFold, sameFold, BEq.comm (a := a), BEq.comm (a := lowercase a),
    BEq.comm (a := uppercase a)]

end Backtrack
