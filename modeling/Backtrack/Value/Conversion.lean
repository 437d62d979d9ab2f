import Backtrack.ParseError
import Backtrack.Value.Test

/-!
# Conversions of values

The named functions that a description may apply to a value and that may fail: readings of its text
as a number, a truth value or a character, and failures on a condition.
-/

namespace Backtrack

/-- A named function on values that may fail. -/
inductive Conversion where
  | int (ty : IntegerType) (radix : Nat)
  | bool
  | char
  | failIf (test : Test) (kind : ErrorKind)
  | tellIf (test : Test) (text : String)
  deriving DecidableEq, Repr

namespace Conversion

/-- The image of a value, or the seed of an error. -/
def apply : Conversion → Value → Except ErrorSeed Value
  | int ty radix, v =>
    match Number.read ty radix v.text with
    | .ok n => .ok (.int n)
    | .error e => .error (.cause (.number e))
  | bool, v =>
    if v.text = ['t', 'r', 'u', 'e'] then .ok (.bool true)
    else if v.text = ['f', 'a', 'l', 's', 'e'] then .ok (.bool false)
    else .error (.cause .notBool)
  | char, v =>
    match v.text with
    | [] => .error (.cause .noChar)
    | [c] => .ok (.char c)
    | _ => .error (.cause .manyChars)
  | failIf test kind, v => if test.holds v then .error (.kind kind) else .ok v
  | tellIf test text, v => if test.holds v then .error (.cause (.told text)) else .ok v

end Conversion

end Backtrack
