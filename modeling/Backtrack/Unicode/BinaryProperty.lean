import Backtrack.Unicode.Category
import Backtrack.Unicode.BinaryTable

/-!
# Binary properties

Ten of Unicode's binary properties. The ones that the standard derives from general categories are
derived here in the same way, from the categories and a set of exceptions.
-/

namespace Backtrack

/-- A Unicode property that a character has or has not. -/
inductive BinaryProperty where
  | alphabetic
  | asciiHexDigit
  | dash
  | hexDigit
  | idContinue
  | idStart
  | lowercase
  | math
  | uppercase
  | whiteSpace
  deriving DecidableEq, Repr

namespace CodePointSet

def hasChar (s : CodePointSet) (c : Char) : Bool := s.has c.toNat

end CodePointSet

namespace BinaryProperty

/-- Lowercase letters and what looks like them. -/
def isLowercase (c : Char) : Bool :=
  GeneralCategory.of c == .lowercaseLetter || CodePointSet.otherLowercase.hasChar c

/-- Uppercase letters and what looks like them. -/
def isUppercase (c : Char) : Bool :=
  GeneralCategory.of c == .uppercaseLetter || CodePointSet.otherUppercase.hasChar c

/-- Letters, letter numbers and the marks that write vowels. -/
def isAlphabetic (c : Char) : Bool :=
  match GeneralCategory.of c with
  | .uppercaseLetter | .lowercaseLetter | .titlecaseLetter | .modifierLetter | .otherLetter
  | .letterNumber => true
  | _ => CodePointSet.otherLowercase.hasChar c || CodePointSet.otherUppercase.hasChar c
    || CodePointSet.otherAlphabetic.hasChar c

/-- What may start an identifier. -/
def isIdStart (c : Char) : Bool :=
  match GeneralCategory.of c with
  | .uppercaseLetter | .lowercaseLetter | .titlecaseLetter | .modifierLetter | .otherLetter
  | .letterNumber => !CodePointSet.patternLetters.hasChar c
  | _ => CodePointSet.otherIdStart.hasChar c

/-- What may stand inside an identifier. -/
def isIdContinue (c : Char) : Bool :=
  match GeneralCategory.of c with
  | .nonspacingMark | .spacingMark | .decimalNumber | .connectorPunctuation => true
  | _ => isIdStart c || CodePointSet.otherIdContinue.hasChar c

/-- Mathematical symbols and letters used as such. -/
def isMath (c : Char) : Bool :=
  GeneralCategory.of c == .mathSymbol || CodePointSet.otherMath.hasChar c

def contains : BinaryProperty → Char → Bool
  | alphabetic => isAlphabetic
  | asciiHexDigit => CodePointSet.asciiHexDigit.hasChar
  | dash => CodePointSet.dash.hasChar
  | hexDigit => CodePointSet.hexDigit.hasChar
  | idContinue => isIdContinue
  | idStart => isIdStart
  | lowercase => isLowercase
  | math => isMath
  | uppercase => isUppercase
  | whiteSpace => CodePointSet.whiteSpace.hasChar

end BinaryProperty

end Backtrack
