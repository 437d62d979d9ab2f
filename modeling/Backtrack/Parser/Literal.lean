import Backtrack.Parser.Basic
import Backtrack.Unicode.Case
import Backtrack.Ascii

/-!
# Literals

Parsers that read a given text, exactly or without regard to letter case. The value is the text as
it stands in the input. A literal of any characters looks at as many code points as it has, an
ASCII literal at as many bytes.
-/

namespace Backtrack

namespace Parser

/-- The next code points, as many as expected has, where they compare with it. -/
def literalBy (same : Text → Text → Bool) (expected : Text) : Parser Text := fun c => do
  match ← c.peek expected.length with
  | some candidate =>
    if same candidate expected then
      let (_, next) ← c.take expected.length
      return ⟨.matched candidate, next.pos, []⟩
    else miss c
  | none => miss c

/-- Texts whose code points fold to each other one by one. -/
def foldsTo (candidate expected : Text) : Bool :=
  (candidate.zip expected).all fun (a, b) => sameFold a b

/-- The given text. -/
def literal (expected : Text) : Parser Text := literalBy (· == ·) expected

/-- The given text in any letter case. -/
def literalInsensitive (expected : Text) : Parser Text := literalBy foldsTo expected

/-- The next bytes, as many as expected has, where they are ASCII and compare with it. -/
def asciiLiteralBy (same : Text → Text → Bool) (expected : Text) : Parser Text := fun c => do
  match (← c.remaining).takeBytes? expected.byteSize with
  | some candidate =>
    if same candidate expected && candidate.all Ascii.isAscii then
      let (_, next) ← c.take candidate.length
      return ⟨.matched candidate, next.pos, []⟩
    else miss c
  | none => miss c

/-- The given ASCII text. -/
def asciiLiteral (expected : Text) : Parser Text := asciiLiteralBy (· == ·) expected

/-- The given ASCII text in any letter case. -/
def asciiLiteralInsensitive (expected : Text) : Parser Text :=
  asciiLiteralBy Ascii.sameText expected

end Parser

end Backtrack
