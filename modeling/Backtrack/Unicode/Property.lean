import Backtrack.Unicode.BinaryProperty

/-!
# Property expressions

Sets of characters built from general categories and binary properties with complement,
intersection and union, and the category groups of the standard as such expressions.
-/

namespace Backtrack

/-- A set of characters described by Unicode properties. -/
inductive Property where
  | category (g : GeneralCategory)
  | binary (b : BinaryProperty)
  | not (p : Property)
  | and (p q : Property)
  | or (p q : Property)
  deriving DecidableEq, Repr

namespace Property

def contains : Property → Char → Bool
  | category g, c => g == GeneralCategory.of c
  | binary b, c => b.contains c
  | not p, c => !p.contains c
  | and p q, c => p.contains c && q.contains c
  | or p q, c => p.contains c || q.contains c

/-- The union of one or more sets. -/
def anyOf : Property → List Property → Property
  | p, [] => p
  | p, q :: rest => or p (anyOf q rest)

/-- The intersection of one or more sets. -/
def allOf : Property → List Property → Property
  | p, [] => p
  | p, q :: rest => and p (allOf q rest)

/-- The union of one or more categories. -/
def categories (g : GeneralCategory) (gs : List GeneralCategory) : Property :=
  anyOf (category g) (gs.map category)

def letter : Property :=
  categories .lowercaseLetter [.uppercaseLetter, .titlecaseLetter, .modifierLetter, .otherLetter]

/-- Control, format, private use and surrogate code points; unassigned ones are not among them. -/
def other : Property := categories .control [.format, .privateUse, .surrogate]

def mark : Property := categories .spacingMark [.enclosingMark, .nonspacingMark]

def number : Property := categories .decimalNumber [.letterNumber, .otherNumber]

def punctuation : Property :=
  categories .connectorPunctuation [.dashPunctuation, .closePunctuation, .finalPunctuation,
    .initialPunctuation, .otherPunctuation, .openPunctuation]

def symbol : Property :=
  categories .currencySymbol [.modifierSymbol, .mathSymbol, .otherSymbol]

def separator : Property := categories .lineSeparator [.paragraphSeparator, .spaceSeparator]

end Property

end Backtrack
