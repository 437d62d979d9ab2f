import Backtrack.Calendar.Parser
import Backtrack.Grammar.Expr
import Backtrack.Parser.Balanced
import Backtrack.Parser.Blank
import Backtrack.Parser.Lookahead
import Backtrack.Parser.Move

/-!
# The parser that a description describes

Each description means a parser, built from the parsers its members mean. The meaning of a rule is
that of the description under its name; rules may call each other without end, so the meaning is
taken to a depth of calls, beyond which a run is at a fault.
-/

namespace Backtrack

def inRanges (ranges : List (Char × Char)) (c : Char) : Bool :=
  ranges.any fun (low, high) => low ≤ c && c ≤ high

namespace CalendarField

/-- The parser of a field. -/
def parser (rounds : Nat) : CalendarField → Parser Value
  | yearMonthDay =>
    (Parser.yearMonthDay rounds).map fun d => .tuple [.int d.year, .int d.month, .int d.day]
  | dayOfWeek => Parser.dayOfWeek.map fun d => .str d.name.toList
  | daysOfWeek =>
    (Parser.daysOfWeek rounds).map fun ds => .list (ds.map fun d => .str d.name.toList)
  | monthOfYear => Parser.monthOfYear.map fun m => .str m.name.toList
  | monthDay => (Parser.monthDay rounds).map fun (n : Nat) => .int n

end CalendarField

namespace Leaf

/-- The parser of a leaf. -/
def parser (rounds : Nat) : Leaf → Parser Value
  | eof => Parser.eof.withValue .unit
  | anyChar => Parser.anyChar.map .char
  | letter => Parser.letter.map .char
  | digit => Parser.digit.map .char
  | whitespace => (Parser.whitespace rounds).map .str
  | inlineWhitespace => (Parser.inlineWhitespace rounds).map .str
  | optionalWhitespace => (Parser.optionalWhitespace rounds).map .str
  | optionalInlineWhitespace => (Parser.optionalInlineWhitespace rounds).map .str
  | cr => Parser.cr.map .str
  | lf => Parser.lf.map .str
  | crlf => Parser.crlf.map .str
  | newline => Parser.newline.map .str
  | ascii cls => (Parser.asciiIn cls).map .asciiChar
  | position => Parser.position.map fun (n : Nat) => .int n
  | char c => (Parser.char c).map .char
  | charIn set => (Parser.charIn set).map .char
  | charNotIn set => (Parser.charNotIn set).map .char
  | charWhere ranges => (Parser.charWhere (inRanges ranges)).map .char
  | literal t => (Parser.literal t).map .str
  | literalInsensitive t => (Parser.literalInsensitive t).map .str
  | charWithProperty p => (Parser.charWithProperty p).map .char
  | asciiWhere ranges => (Parser.asciiWhere (inRanges ranges)).map .asciiChar
  | asciiLiteral t => (Parser.asciiLiteral t).map .asciiStr
  | asciiLiteralInsensitive t => (Parser.asciiLiteralInsensitive t).map .asciiStr
  | calendar field => field.parser rounds
  | peekCount n => (Parser.peekCount n).map .str
  | takeCount n => (Parser.takeCount n).map .str
  | leak n => Parser.leak n
  | raise n kind cause => Parser.raiseAfter n kind cause
  | goto offset => (Parser.goto offset).withValue .unit

end Leaf

namespace Container

/-- The family of some parsers in a container. -/
def family {α : Type} (ps : List (Parser α)) : Container → Family α
  | list => .ofList ps
  | array => .ofArray ps.toArray
  | vector => .ofVector ⟨ps.toArray, rfl⟩
  | tuple => .tuple ps

theorem members_family {α : Type} (ps : List (Parser α)) (container : Container) :
    (container.family ps).members = ps := by
  cases container with
  | list => exact Family.members_ofList ps
  | array => exact Family.members_ofArray ps.toArray
  | vector => exact Family.members_ofVector _
  | tuple => exact Family.members_tuple ps

theorem nth_family {α : Type} (ps : List (Parser α)) (container : Container) (i : Nat) :
    (container.family ps).nth i = ps[i]?.getD Parser.miss := by
  cases container with
  | list => rfl
  | array | vector => simp [family, Family.ofArray, Family.ofVector]
  | tuple => exact Family.nth_tuple ps i

/-- A member of a family is one of the parsers put in or misses. -/
theorem nth_family_induction {α : Type} {Q : Parser α → Prop} {ps : List (Parser α)}
    (container : Container) (i : Nat) (hmiss : Q Parser.miss) (h : ∀ p ∈ ps, Q p) :
    Q ((container.family ps).nth i) := by
  rw [nth_family]
  cases hi : ps[i]? with
  | none => exact hmiss
  | some p => exact h p (List.mem_of_getElem? hi)

theorem count_family {α : Type} (ps : List (Parser α)) (container : Container) :
    (container.family ps).count = ps.length := by
  cases container with
  | list | array | vector => rfl
  | tuple => exact Family.count_tuple ps

end Container

namespace Quantity

/-- The repetition of an item. -/
def parser {α : Type} (rounds : Nat) (item : Parser α) : Quantity → Parser (List α)
  | times n => Parser.times rounds n item
  | between min max => Parser.between rounds min max item
  | atLeast min => Parser.atLeast rounds min item
  | atMost max => Parser.atMost rounds max item
  | zeroOrMore => Parser.zeroOrMore rounds item
  | oneOrMore => Parser.oneOrMore rounds item
  | repeatWhile min proceed => Parser.repeatWhile rounds min proceed.holds item

end Quantity

namespace Expr

mutual

/-- The parser of a description, given the parsers of rules and the rounds of loops. -/
def parser (call : String → Parser Value) (rounds : Nat) : Expr → Parser Value
  | leaf l => l.parser rounds
  | map f e => (e.parser call rounds).map f.apply
  | tryMap f e => (e.parser call rounds).tryMap f.apply
  | verify test e => (e.parser call rounds).verify test.holds
  | withValue t e => (e.parser call rounds).withValue (.str t)
  | relabelError kind e => (e.parser call rounds).mapError (.relabel kind)
  | wrapError e => (e.parser call rounds).mapError .wrap
  | optional e => (e.parser call rounds).optional.map .presence
  | recognize e => (e.parser call rounds).recognize.map .str
  | spanned e => (e.parser call rounds).spanned.map fun (v, t) => .tuple [v, .str t]
  | peek e => (e.parser call rounds).peek
  | not e => (e.parser call rounds).not.withValue .unit
  | complete e => (e.parser call rounds).complete
  | shared e => e.parser call rounds
  | erased e => e.parser call rounds
  | pair e f =>
    (Parser.pair (e.parser call rounds) (f.parser call rounds)).map fun (v, w) => .tuple [v, w]
  | or e f => (Parser.or (e.parser call rounds) (f.parser call rounds)).map .branch
  | seq es => (Parser.seq (parsers call rounds es)).map .tuple
  | chain e es => (Parser.chain (e.parser call rounds) (parsers call rounds es)).map .tuple
  | choice e es => Parser.choice (e.parser call rounds) (parsers call rounds es)
  | any container es => Parser.any (container.family (parsers call rounds es))
  | all container es => (Parser.all (container.family (parsers call rounds es))).map .list
  | nth container index es =>
    let family := container.family (parsers call rounds es)
    (family.nth index).map fun v => .tuple [.int family.count, v]
  | repeated quantity e => (quantity.parser rounds (e.parser call rounds)).map .list
  | scan kind e f =>
    (Parser.scan kind rounds (e.parser call rounds) (f.parser call rounds)).map .list
  | scanText kind f => (Parser.scanText kind rounds (f.parser call rounds)).map .str
  | rule name => fun c => call name c

def parsers (call : String → Parser Value) (rounds : Nat) : List Expr → List (Parser Value)
  | [] => []
  | e :: es => e.parser call rounds :: parsers call rounds es

end

end Expr

namespace Grammar

/-- The parser of a rule, down to a depth of calls. -/
def call (g : Grammar) (rounds : Nat) : (depth : Nat) → String → Parser Value
  | 0, _, _ => .error .depthSpent
  | depth + 1, name, c =>
    match g.lookup name with
    | some e => e.parser (call g rounds depth) rounds c
    | none => .error (.unknownName name)

/-- The parser of a description whose rules are in the grammar, with a budget for the rounds of
each loop and for the depth of calls. -/
def parser (g : Grammar) (budget : Nat) (e : Expr) : Parser Value :=
  e.parser (g.call budget budget) budget

end Grammar

end Backtrack
