import Backtrack.Parser.Character
import Backtrack.Parser.Choice
import Backtrack.Parser.Convert
import Backtrack.Parser.Literal
import Backtrack.Parser.Repetition

/-!
# Blanks and line breaks

Runs of white space, of any kind or within a line, and the line breaks of ASCII. The value is the
text read.
-/

namespace Backtrack

namespace Parser

/-- A white space character of any kind. -/
def blank : Parser Char := charWithProperty (.binary .whiteSpace)

/-- A space or a tab. -/
def inlineBlank : Parser Char := charIn [' ', '\t']

/-- White space. -/
def whitespace (rounds : Nat) : Parser Text := recognize (oneOrMore rounds blank)

/-- White space, or nothing. -/
def optionalWhitespace (rounds : Nat) : Parser Text := recognize (zeroOrMore rounds blank)

/-- Spaces and tabs. -/
def inlineWhitespace (rounds : Nat) : Parser Text := recognize (oneOrMore rounds inlineBlank)

/-- Spaces and tabs, or nothing. -/
def optionalInlineWhitespace (rounds : Nat) : Parser Text :=
  recognize (zeroOrMore rounds inlineBlank)

/-- A carriage return. -/
def cr : Parser Text := literal ['\r']

/-- A line feed. -/
def lf : Parser Text := literal ['\n']

/-- A carriage return and a line feed. -/
def crlf : Parser Text := literal ['\r', '\n']

/-- A line feed, with or without a carriage return before it. -/
def newline : Parser Text := first [crlf, lf]

end Parser

end Backtrack
