import Backtrack.Ascii
import Backtrack.ParseError
import Backtrack.Parser.Scan
import Backtrack.Unicode.Property
import Backtrack.Value.Conversion
import Backtrack.Value.Transform

/-!
# Descriptions of parsers

A description names a parser as data: a leaf, or a combinator with the descriptions of its members.
Rules are descriptions with names, and a description may call a rule by its name.
-/

namespace Backtrack

/-- A parser of the calendar. -/
inductive CalendarField where
  | yearMonthDay
  | dayOfWeek
  | daysOfWeek
  | monthOfYear
  | monthDay
  deriving DecidableEq, Repr

/-- A parser without members. -/
inductive Leaf where
  | eof
  | anyChar
  | letter
  | digit
  | whitespace
  | inlineWhitespace
  | optionalWhitespace
  | optionalInlineWhitespace
  | cr
  | lf
  | crlf
  | newline
  /-- A character of an ASCII class. -/
  | ascii (cls : Ascii.Class)
  /-- The offset reached. -/
  | position
  | char (c : Char)
  | charIn (set : Text)
  | charNotIn (set : Text)
  /-- A code point in one of the inclusive ranges. -/
  | charWhere (ranges : List (Char × Char))
  | literal (t : Text)
  | literalInsensitive (t : Text)
  | charWithProperty (p : Property)
  /-- An ASCII character in one of the inclusive ranges. -/
  | asciiWhere (ranges : List (Char × Char))
  | asciiLiteral (t : Text)
  | asciiLiteralInsensitive (t : Text)
  | calendar (field : CalendarField)
  /-- The next code points, or the last ones for a negative count, with nothing read. -/
  | peekCount (n : Int)
  /-- The next code points. -/
  | takeCount (n : Int)
  /-- Reads code points, if there are as many, and misses where it got to. -/
  | leak (n : Int)
  /-- Reads code points, if there are as many, and reports an error where it got to. -/
  | raise (n : Int) (kind : ErrorKind) (cause : Option String)
  /-- Moves to an offset. -/
  | goto (offset : Nat)
  deriving DecidableEq, Repr

/-- How the members of a family are held. -/
inductive Container where
  | list
  | array
  | vector
  | tuple
  deriving DecidableEq, Repr

/-- A condition on the number of items under which a repetition goes on. -/
inductive Proceed where
  | below (k : Nat)
  | exceptAt (k : Nat)
  | amongst (ks : List Nat)
  deriving DecidableEq, Repr

namespace Proceed

def holds : Proceed → Nat → Bool
  | below k, count => count < k
  | exceptAt k, count => count != k
  | amongst ks, count => ks.contains count

end Proceed

/-- How often a repetition repeats its item. -/
inductive Quantity where
  | times (n : Nat)
  | between (min max : Nat)
  | atLeast (min : Nat)
  | atMost (max : Nat)
  | zeroOrMore
  | oneOrMore
  | repeatWhile (min : Nat) (proceed : Proceed)
  deriving DecidableEq, Repr

/-- A description of a parser. -/
inductive Expr where
  | leaf (l : Leaf)
  | map (f : Transform) (e : Expr)
  | tryMap (f : Conversion) (e : Expr)
  | verify (test : Test) (e : Expr)
  | withValue (t : Text) (e : Expr)
  /-- An error becomes the cause of a new one of another kind. -/
  | relabelError (kind : ErrorKind) (e : Expr)
  /-- An error is put into a wrapper. -/
  | wrapError (e : Expr)
  | optional (e : Expr)
  | recognize (e : Expr)
  | spanned (e : Expr)
  | peek (e : Expr)
  | not (e : Expr)
  | complete (e : Expr)
  /-- A parser that others use as well. -/
  | shared (e : Expr)
  /-- A parser of which only its interface is known. -/
  | erased (e : Expr)
  | pair (e f : Expr)
  | or (e f : Expr)
  | seq (es : List Expr)
  /-- One or more parsers in a row, flat or along a tree. -/
  | chain (e : Expr) (es : List Expr)
  /-- One or more alternatives, along a tree. -/
  | choice (e : Expr) (es : List Expr)
  | any (container : Container) (es : List Expr)
  | all (container : Container) (es : List Expr)
  /-- The member of a family at an index, with the number of members. -/
  | nth (container : Container) (index : Nat) (es : List Expr)
  | repeated (quantity : Quantity) (e : Expr)
  | scan (kind : ScanKind) (content delimiter : Expr)
  | scanText (kind : ScanKind) (delimiter : Expr)
  /-- The parser a rule describes. -/
  | rule (name : String)
  deriving Repr

/-- Descriptions by name. -/
abbrev Grammar : Type := List (String × Expr)

end Backtrack
