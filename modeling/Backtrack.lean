import Backtrack.Ascii
import Backtrack.Branch
import Backtrack.Calendar.Date
import Backtrack.Calendar.Month
import Backtrack.Calendar.Parser
import Backtrack.Calendar.Weekday
import Backtrack.Cursor
import Backtrack.Fault
import Backtrack.Grammar.Expr
import Backtrack.Grammar.Meaning
import Backtrack.Number
import Backtrack.ParseError
import Backtrack.Parser.Balanced
import Backtrack.Parser.Basic
import Backtrack.Parser.Blank
import Backtrack.Parser.Character
import Backtrack.Parser.Choice
import Backtrack.Parser.Convert
import Backtrack.Parser.Family
import Backtrack.Parser.Literal
import Backtrack.Parser.Lookahead
import Backtrack.Parser.Move
import Backtrack.Parser.Repetition
import Backtrack.Parser.Scan
import Backtrack.Parser.Sequence
import Backtrack.Presence
import Backtrack.Proofs.Alignment
import Backtrack.Proofs.AsciiLiteral
import Backtrack.Proofs.CalendarNames
import Backtrack.Proofs.CaseFolding
import Backtrack.Proofs.Clamping
import Backtrack.Proofs.ClassRun
import Backtrack.Proofs.Conduct
import Backtrack.Proofs.Counting
import Backtrack.Proofs.DateText
import Backtrack.Proofs.DayNumber
import Backtrack.Proofs.Delimiter
import Backtrack.Proofs.Dialogue
import Backtrack.Proofs.EndOfInput
import Backtrack.Proofs.Erasure
import Backtrack.Proofs.ErrorChannel
import Backtrack.Proofs.ErrorPosition
import Backtrack.Proofs.Factoring
import Backtrack.Proofs.Failing
import Backtrack.Proofs.FailureLog
import Backtrack.Proofs.Greedy
import Backtrack.Proofs.Likeness
import Backtrack.Proofs.Locality
import Backtrack.Proofs.Logging
import Backtrack.Proofs.Lookahead
import Backtrack.Proofs.Matching
import Backtrack.Proofs.Motion
import Backtrack.Proofs.Names
import Backtrack.Proofs.Nesting
import Backtrack.Proofs.Numeral
import Backtrack.Proofs.OptionalItem
import Backtrack.Proofs.OrderedChoice
import Backtrack.Proofs.PairTree
import Backtrack.Proofs.Parts
import Backtrack.Proofs.Peg
import Backtrack.Proofs.Probing
import Backtrack.Proofs.PropertyParser
import Backtrack.Proofs.Quiet
import Backtrack.Proofs.Reading
import Backtrack.Proofs.Recognition
import Backtrack.Proofs.Refusal
import Backtrack.Proofs.Rollback
import Backtrack.Proofs.Rounds
import Backtrack.Proofs.Run
import Backtrack.Proofs.Session
import Backtrack.Proofs.Site
import Backtrack.Proofs.Spelling
import Backtrack.Proofs.Termination
import Backtrack.Proofs.Token
import Backtrack.Proofs.Unrolling
import Backtrack.Record
import Backtrack.Session
import Backtrack.Text
import Backtrack.Text.Boundary
import Backtrack.Text.Escape
import Backtrack.Unicode.BinaryProperty
import Backtrack.Unicode.BinaryTable
import Backtrack.Unicode.Case
import Backtrack.Unicode.CaseTable
import Backtrack.Unicode.Category
import Backtrack.Unicode.CategoryTable
import Backtrack.Unicode.CodePointSet
import Backtrack.Unicode.GeneralCategory
import Backtrack.Unicode.Property
import Backtrack.Unicode.PropertyName
import Backtrack.Value
import Backtrack.Value.Conversion
import Backtrack.Value.Test
import Backtrack.Value.Transform
