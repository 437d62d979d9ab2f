import Backtrack.Branch
import Backtrack.Number

/-!
# Values

The values of described parsers. Each has a text, which is what its leaves say one after the other,
and a size: the members of a list or tuple, otherwise the code points of the text.
-/

namespace Backtrack

/-- A value of a described parser. -/
inductive Value where
  | unit
  | int (n : Int)
  | bool (b : Bool)
  | char (c : Char)
  | str (t : Text)
  | asciiChar (c : Char)
  | asciiStr (t : Text)
  | list (members : List Value)
  | tuple (members : List Value)
  | presence (p : Presence Value)
  | branch (b : Branch Value Value)

namespace Value

instance : Inhabited Value := ⟨unit⟩

mutual

/-- What the leaves of a value say, one after the other. -/
def text : Value → Text
  | unit => []
  | int n => Number.decimal n
  | bool b => (toString b).toList
  | char c => [c]
  | str t => t
  | asciiChar c => [c]
  | asciiStr t => t
  | list vs => textAll vs
  | tuple vs => textAll vs
  | presence (.present v) => v.text
  | presence .absent => []
  | branch (.left v) => v.text
  | branch (.right v) => v.text

def textAll : List Value → Text
  | [] => []
  | v :: vs => v.text ++ textAll vs

end

/-- The number of members, or of code points of the text. -/
def size : Value → Nat
  | list vs => vs.length
  | tuple vs => vs.length
  | v => v.text.length

def members : Value → List Value
  | list vs => vs
  | tuple vs => vs
  | _ => []

end Value

end Backtrack
