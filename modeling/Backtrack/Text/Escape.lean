import Backtrack.Text
import Backtrack.Unicode.Category
import Backtrack.Unicode.BinaryTable
import Backtrack.Unicode.BinaryProperty

/-!
# Escaped text

The form of a text for people: quotes, backslashes and line controls behind a backslash, and
whatever shows nothing on its own as its code point in hexadecimal. A mark that combines with the
character before it is shown by its code point only where a text starts with it.
-/

namespace Backtrack

namespace Text

/-- Whether a mark combines with the character before it: the spacing marks do if they extend a
grapheme, all other marks always. The halfwidth voicing marks extend a grapheme too, but they are
letters and show on their own. -/
def isCombining (c : Char) : Bool :=
  match GeneralCategory.inVersion17 c with
  | .nonspacingMark | .enclosingMark => true
  | .spacingMark => CodePointSet.otherGraphemeExtend.hasChar c
  | _ => false

/-- Whether a character shows on its own: any assigned one but controls, formats, separators other
than the space, and what displays ignore. -/
def isPrintable (c : Char) : Bool :=
  c == ' ' ||
    match GeneralCategory.inVersion17 c with
    | .control | .format | .surrogate | .privateUse | .unassigned | .lineSeparator
    | .paragraphSeparator | .spaceSeparator => false
    | _ => !CodePointSet.defaultIgnorable.hasChar c

/-- A code point in hexadecimal between braces. -/
def escapeCode (c : Char) : Text :=
  ['\\', 'u', '\x7b'] ++ Nat.toDigits 16 c.toNat ++ ['\x7d']

/-- One character, escaped where it has to be; `first` says whether a text starts with it. -/
def escapeChar (first : Bool) (c : Char) : Text :=
  if c == '\x00' then ['\\', '0']
  else if c == '\t' then ['\\', 't']
  else if c == '\r' then ['\\', 'r']
  else if c == '\n' then ['\\', 'n']
  else if c == '\\' || c == '\x22' || c == '\x27' then ['\\', c]
  else if first && isCombining c then escapeCode c
  else if isPrintable c then [c]
  else escapeCode c

/-- A text with its characters escaped. -/
def escape : Text → Text
  | [] => []
  | c :: rest => escapeChar true c ++ rest.flatMap (escapeChar false)

end Text

end Backtrack
