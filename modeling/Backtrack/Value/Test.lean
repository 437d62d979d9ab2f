import Backtrack.Value

/-!
# Tests of values

The named conditions that a description may put on a value.
-/

namespace Backtrack

/-- A named condition on values. -/
inductive Test where
  | always
  | sizeAbove (n : Int)
  | textIs (t : Text)
  | textHas (c : Char)
  | not (test : Test)
  deriving DecidableEq, Repr

namespace Test

def holds : Test → Value → Bool
  | always, _ => true
  | sizeAbove n, v => n < v.size
  | textIs t, v => v.text == t
  | textHas c, v => v.text.contains c
  | not test, v => !test.holds v

end Test

end Backtrack
