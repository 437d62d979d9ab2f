import Backtrack.Parser.Basic
import Backtrack.Unicode.Property
import Backtrack.Ascii

/-!
# Single code points

Parsers that read one code point of a class. Each of them misses at the end of the input and where
the next code point is not in the class.
-/

namespace Backtrack

namespace Parser

/-- Any code point. -/
def anyChar : Parser Char := fun c => do
  match ← c.nextChar with
  | (some ch, next) => return ⟨.matched ch, next.pos, []⟩
  | (none, _) => miss c

/-- A code point that passes the test. -/
def charWhere (accept : Char → Bool) : Parser Char := fun c => do
  match ← c.peekChar with
  | some ch => if accept ch then anyChar c else miss c
  | none => miss c

/-- The given code point. -/
def char (expected : Char) : Parser Char := charWhere (· == expected)

/-- A code point of the given text. -/
def charIn (set : Text) : Parser Char := charWhere fun ch => set.contains ch

/-- A code point that is not in the given text. -/
def charNotIn (set : Text) : Parser Char := charWhere fun ch => !set.contains ch

/-- A code point with a Unicode property. -/
def charWithProperty (property : Property) : Parser Char := charWhere property.contains

/-- A letter of any script. -/
def letter : Parser Char := charWithProperty .letter

/-- A number of any script. -/
def digit : Parser Char := charWithProperty .number

/-- An ASCII character that passes the test. -/
def asciiWhere (accept : Char → Bool) : Parser Char :=
  charWhere fun ch => Ascii.isAscii ch && accept ch

/-- A character of an ASCII class. -/
def asciiIn (cls : Ascii.Class) : Parser Char := asciiWhere cls.contains

end Parser

end Backtrack
