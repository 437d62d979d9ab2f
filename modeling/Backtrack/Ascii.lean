import Backtrack.Text

/-!
# ASCII

The classes of ASCII characters and the comparison of texts that ignores the case of ASCII letters.
A character outside ASCII is in no class.
-/

namespace Backtrack

namespace Ascii

/-- One of the 128 ASCII characters. -/
def isAscii (c : Char) : Bool := c.toNat < 128

/-- A digit or one of the letters `a` to `f` in either case. -/
def isHexDigit (c : Char) : Bool :=
  c.isDigit || ('a' ≤ c && c ≤ 'f') || ('A' ≤ c && c ≤ 'F')

/-- Space, tab, line feed, form feed and carriage return. -/
def isWhitespace (c : Char) : Bool :=
  c == ' ' || c == '\t' || c == '\n' || c == '\x0c' || c == '\r'

/-- A class of ASCII characters. -/
inductive Class where
  | any
  | digit
  | hexDigit
  | alphabetic
  | alphanumeric
  | whitespace
  deriving DecidableEq, Repr

def Class.contains : Class → Char → Bool
  | any => isAscii
  | digit => Char.isDigit
  | hexDigit => isHexDigit
  | alphabetic => Char.isAlpha
  | alphanumeric => Char.isAlphanum
  | whitespace => isWhitespace

/-- Every class is a part of ASCII. -/
theorem Class.isAscii_of_contains {cls : Class} {c : Char} (h : cls.contains c = true) :
    isAscii c = true := by
  have hupper (d : Char) : d.isUpper = decide (d.val ≥ 'A'.val ∧ d.val ≤ 'Z'.val) := rfl
  have hlower (d : Char) : d.isLower = (d.val ≥ 'a'.val && d.val ≤ 'z'.val) := rfl
  have halpha (d : Char) : d.isAlpha = (d.isUpper || d.isLower) := rfl
  cases cls with
  | whitespace =>
    simp only [contains, isWhitespace, Bool.or_eq_true, beq_iff_eq] at h
    rcases h with (((rfl | rfl) | rfl) | rfl) | rfl <;> decide
  | _ =>
    simp only [contains, isAscii, isHexDigit, Char.isDigit, halpha, Char.isAlphanum, hupper,
      hlower, Char.toNat, Char.le_def, UInt32.le_iff_toNat_le,
      Bool.or_eq_true, Bool.and_eq_true, decide_eq_true_eq, ge_iff_le, UInt32.reduceToNat,
      Char.reduceVal] at h ⊢
    omega

/-- Texts that are equal once their ASCII letters are lowercase. -/
def sameText (s t : Text) : Bool := s.map Char.toLower == t.map Char.toLower

end Ascii

end Backtrack
