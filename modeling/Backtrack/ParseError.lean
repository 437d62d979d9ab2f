import Backtrack.Number
import Backtrack.Calendar.Date

/-!
# Errors

An error is what ends a parse for good: something was there and was not valid. It has a kind, the
offset it speaks of, and the chain of its causes from the nearest to the root.
-/

namespace Backtrack

/-- The kinds of errors. -/
inductive ErrorKind where
  /-- The input matched but failed a check or a conversion. -/
  | invalidInput
  /-- The parser was done before the end of the input. -/
  | expectedEof
  deriving DecidableEq, Repr, Ord

def ErrorKind.message : ErrorKind → String
  | invalidInput => "invalid input"
  | expectedEof => "expected end of input"

def ErrorKind.messageAt (kind : ErrorKind) (position : Nat) : String :=
  kind.message ++ " at offset " ++ toString position

/-- What led to an error. -/
inductive Cause where
  | number (e : NumberError)
  | date (e : DateError)
  | notBool
  | noChar
  | manyChars
  /-- A wrapper around the next cause. -/
  | wrapped
  /-- An earlier error of the parse. -/
  | earlier (kind : ErrorKind) (position : Nat)
  /-- A failure told by its text alone. -/
  | told (text : String)
  deriving DecidableEq, Repr

def Cause.message : Cause → String
  | number e => e.message
  | date e => e.message
  | notBool => "provided string was not `true` or `false`"
  | noChar => "cannot parse char from empty string"
  | manyChars => "too many characters in string"
  | wrapped => "wrapped"
  | earlier kind position => kind.messageAt position
  | told text => text

/-- An error of a parse. -/
structure ParseError where
  kind : ErrorKind
  position : Nat
  causes : List Cause
  deriving DecidableEq, Repr

def ParseError.message (e : ParseError) : String := e.kind.messageAt e.position

/-- An error of which only the offset is open. -/
inductive ErrorSeed where
  | kind (kind : ErrorKind)
  | cause (cause : Cause)
  deriving DecidableEq, Repr

namespace ErrorSeed

/-- The error at an offset. A cause makes the input invalid. -/
def toError : ErrorSeed → Nat → ParseError
  | kind k, position => ⟨k, position, []⟩
  | cause c, position => ⟨.invalidInput, position, [c]⟩

end ErrorSeed

namespace ParseError

/-- How far from the old error a relabelled one points. -/
def relabelShift : Nat := 100

/-- A new error of another kind, further on, which the old one caused. -/
def relabel (kind : ErrorKind) (e : ParseError) : ParseError :=
  ⟨kind, e.position + relabelShift, .earlier e.kind e.position :: e.causes⟩

/-- The same error inside a wrapper. -/
def wrap (e : ParseError) : ParseError :=
  ⟨e.kind, e.position, .wrapped :: .earlier e.kind e.position :: e.causes⟩

end ParseError

end Backtrack
