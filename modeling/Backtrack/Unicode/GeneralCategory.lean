/-!
# General categories

The thirty values of the Unicode property `General_Category`, ordered as the standard's data files
list them after `unassigned`.
-/

namespace Backtrack

/-- The kind of character a code point is. -/
inductive GeneralCategory where
  | unassigned
  | uppercaseLetter
  | lowercaseLetter
  | titlecaseLetter
  | modifierLetter
  | otherLetter
  | nonspacingMark
  | spacingMark
  | enclosingMark
  | decimalNumber
  | letterNumber
  | otherNumber
  | spaceSeparator
  | lineSeparator
  | paragraphSeparator
  | control
  | format
  | privateUse
  | surrogate
  | dashPunctuation
  | openPunctuation
  | closePunctuation
  | connectorPunctuation
  | initialPunctuation
  | finalPunctuation
  | otherPunctuation
  | mathSymbol
  | currencySymbol
  | modifierSymbol
  | otherSymbol
  deriving DecidableEq, Repr, Ord

namespace GeneralCategory

def name : GeneralCategory → String
  | unassigned => "Unassigned"
  | uppercaseLetter => "UppercaseLetter"
  | lowercaseLetter => "LowercaseLetter"
  | titlecaseLetter => "TitlecaseLetter"
  | modifierLetter => "ModifierLetter"
  | otherLetter => "OtherLetter"
  | nonspacingMark => "NonspacingMark"
  | spacingMark => "SpacingMark"
  | enclosingMark => "EnclosingMark"
  | decimalNumber => "DecimalNumber"
  | letterNumber => "LetterNumber"
  | otherNumber => "OtherNumber"
  | spaceSeparator => "SpaceSeparator"
  | lineSeparator => "LineSeparator"
  | paragraphSeparator => "ParagraphSeparator"
  | control => "Control"
  | format => "Format"
  | privateUse => "PrivateUse"
  | surrogate => "Surrogate"
  | dashPunctuation => "DashPunctuation"
  | openPunctuation => "OpenPunctuation"
  | closePunctuation => "ClosePunctuation"
  | connectorPunctuation => "ConnectorPunctuation"
  | initialPunctuation => "InitialPunctuation"
  | finalPunctuation => "FinalPunctuation"
  | otherPunctuation => "OtherPunctuation"
  | mathSymbol => "MathSymbol"
  | currencySymbol => "CurrencySymbol"
  | modifierSymbol => "ModifierSymbol"
  | otherSymbol => "OtherSymbol"

end GeneralCategory

end Backtrack
