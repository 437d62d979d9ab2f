import Backtrack.Text

/-!
# Whole numbers in text

Numerals in any radix up to 36, read into integer types of a fixed width. Reading goes from left to
right and stops at the first character that is no digit or that takes the number out of the type.
-/

namespace Backtrack

/-- Why a text is not a number of a type. -/
inductive NumberError where
  | empty
  | invalidDigit
  | tooLarge
  | tooSmall
  deriving DecidableEq, Repr

def NumberError.message : NumberError → String
  | empty => "cannot parse integer from empty string"
  | invalidDigit => "invalid digit found in string"
  | tooLarge => "number too large to fit in target type"
  | tooSmall => "number too small to fit in target type"

/-- An integer type of a fixed number of bits. -/
structure IntegerType where
  signed : Bool
  bits : Nat
  deriving DecidableEq, Repr

namespace IntegerType

def least (ty : IntegerType) : Int := if ty.signed then -(1 <<< (ty.bits - 1) : Nat) else 0

def greatest (ty : IntegerType) : Int :=
  (1 <<< (if ty.signed then ty.bits - 1 else ty.bits) : Nat) - 1

def unsigned32 : IntegerType := ⟨false, 32⟩

end IntegerType

namespace Number

/-- The value of a digit; letters of either case follow the nine. -/
def digitValue? (radix : Nat) (c : Char) : Option Nat :=
  let value? :=
    if '0' ≤ c ∧ c ≤ '9' then some (c.toNat - '0'.toNat)
    else if 'a' ≤ c ∧ c ≤ 'z' then some (c.toNat - 'a'.toNat + 10)
    else if 'A' ≤ c ∧ c ≤ 'Z' then some (c.toNat - 'A'.toNat + 10)
    else none
  value?.filter (· < radix)

/-- Reads digits behind a number read so far, away from zero. -/
def readUp (ty : IntegerType) (radix : Nat) : Int → Text → Except NumberError Int
  | n, [] => .ok n
  | n, c :: rest =>
    match digitValue? radix c with
    | none => .error .invalidDigit
    | some d =>
      if ty.greatest < n * radix + d then .error .tooLarge else readUp ty radix (n * radix + d) rest

/-- Reads digits behind a negative number read so far, away from zero. -/
def readDown (ty : IntegerType) (radix : Nat) : Int → Text → Except NumberError Int
  | n, [] => .ok n
  | n, c :: rest =>
    match digitValue? radix c with
    | none => .error .invalidDigit
    | some d =>
      if n * radix - d < ty.least then .error .tooSmall
      else readDown ty radix (n * radix - d) rest

/-- Reads a numeral with at most one sign in front; the minus only where the type is signed. -/
def read (ty : IntegerType) (radix : Nat) : Text → Except NumberError Int
  | [] => .error .empty
  | ['+'] | ['-'] => .error .invalidDigit
  | '+' :: rest => readUp ty radix 0 rest
  | '-' :: rest => if ty.signed then readDown ty radix 0 rest else .error .invalidDigit
  | t => readUp ty radix 0 t

def decimal (n : Int) : Text :=
  if n < 0 then '-' :: Nat.toDigits 10 n.natAbs else Nat.toDigits 10 n.natAbs

end Number

end Backtrack
