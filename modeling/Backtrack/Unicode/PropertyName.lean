import Backtrack.Unicode.Property

/-!
# Names of properties

The abbreviations of the standard for categories and their groups, the names of the binary
properties, and a few sets that are useful in grammars.
-/

namespace Backtrack

namespace Property

def categoryNames : List (String × GeneralCategory) := [
  ("Cc", .control), ("Cf", .format), ("Co", .privateUse), ("Cs", .surrogate),
  ("Ll", .lowercaseLetter), ("Lm", .modifierLetter), ("Lo", .otherLetter),
  ("Lt", .titlecaseLetter), ("Lu", .uppercaseLetter), ("Mc", .spacingMark),
  ("Me", .enclosingMark), ("Mn", .nonspacingMark), ("Nd", .decimalNumber),
  ("Nl", .letterNumber), ("No", .otherNumber), ("Pc", .connectorPunctuation),
  ("Pd", .dashPunctuation), ("Pe", .closePunctuation), ("Pf", .finalPunctuation),
  ("Pi", .initialPunctuation), ("Po", .otherPunctuation), ("Ps", .openPunctuation),
  ("Sc", .currencySymbol), ("Sk", .modifierSymbol), ("Sm", .mathSymbol), ("So", .otherSymbol),
  ("Zl", .lineSeparator), ("Zp", .paragraphSeparator), ("Zs", .spaceSeparator),
  ("Unassigned", .unassigned)]

def binaryNames : List (String × BinaryProperty) := [
  ("Alphabetic", .alphabetic), ("AsciiHexDigit", .asciiHexDigit), ("Dash", .dash),
  ("HexDigit", .hexDigit), ("IdContinue", .idContinue), ("IdStart", .idStart),
  ("Lowercase", .lowercase), ("Math", .math), ("Uppercase", .uppercase),
  ("WhiteSpace", .whiteSpace)]

/-- Characters that leave a mark on paper. -/
def visible : Property := and (not (binary .whiteSpace)) (not other)

/-- Characters of words: letters, numbers and connectors. -/
def word : Property := anyOf letter [number, category .connectorPunctuation]

/-- The groups of categories and the ready-made sets by their names. -/
def setNames : List (String × Property) := [
  ("L", letter), ("C", other), ("M", mark), ("N", number), ("P", punctuation), ("S", symbol),
  ("Z", separator),
  ("visible", visible),
  ("word", word),
  ("hex_letter", allOf (binary .alphabetic) [binary .asciiHexDigit]),
  ("upper_or_dash", or (binary .uppercase) (binary .dash)),
  ("lower_not_lu", and (binary .lowercase) (not (category .uppercaseLetter))),
  ("not_visible", not visible),
  ("ident_no_digit",
    and (or (binary .idStart) (binary .idContinue)) (not (category .decimalNumber))),
  ("math_symbol", or (and (binary .math) symbol) (category .currencySymbol)),
  ("not_not_hex", not (not (binary .hexDigit))),
  ("gc_ops",
    or (and (or (category .uppercaseLetter) (category .titlecaseLetter))
      (not (category .lowercaseLetter))) (category .letterNumber)),
  ("single", anyOf (allOf (category .otherPunctuation) []) []),
  ("not_or", and (or (not (binary .dash)) (binary .math)) (binary .whiteSpace))]

/-- The set of a given name. -/
def named? (name : String) : Option Property :=
  ((categoryNames.lookup name).map category).or <|
    ((binaryNames.lookup name).map binary).or (setNames.lookup name)

end Property

end Backtrack
