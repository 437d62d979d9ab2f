import Backtrack.Calendar.Month
import Backtrack.Calendar.Weekday
import Backtrack.Parser.Balanced
import Backtrack.Parser.Character
import Backtrack.Parser.Convert
import Backtrack.Parser.Literal
import Backtrack.Parser.Lookahead
import Backtrack.Parser.Repetition

/-!
# Parsers of dates

Dates in numbers, names of days and months in any letter case, and numbers of days with an optional
English ordinal suffix.
-/

namespace Backtrack

namespace Parser

/-- One of some spellings in any letter case, the first that matches. -/
def spelled (spellings : List String) : Parser Text :=
  first (spellings.map fun s => literalInsensitive s.toList)

/-- The date a text writes, or the seed of an error. -/
def dateOf (t : Text) : Except ErrorSeed Date :=
  (Date.read t).mapError fun e => .cause (.date e)

/-- A year of four digits, a month and a day of two, with hyphens between them; what looks so and
is no date is an error. -/
def yearMonthDay (rounds : Nat) : Parser Date :=
  tryMap dateOf <| recognize <| sequence do
    let _ ← times rounds 4 digit
    let _ ← char '-'
    let _ ← charIn ['0', '1']
    let _ ← digit
    let _ ← char '-'
    let _ ← charIn ['0', '1', '2', '3']
    let _ ← digit
    return

def dayOfWeek : Parser Weekday :=
  let day (d : Weekday) := (spelled d.spellings).withValue d
  choice (day .monday) (Weekday.afterMonday.map day)

/-- Days of the week in a row, each with or without a space behind it. -/
def daysOfWeek (rounds : Nat) : Parser (List Weekday) :=
  oneOrMore rounds <| sequence do
    let day ← dayOfWeek
    let _ ← optional (char ' ')
    return day

def monthOfYear : Parser Month :=
  let month (m : Month) := (spelled m.spellings).withValue m
  choice (month .january) (Month.afterJanuary.map month)

/-- The number a text writes, or the seed of an error. -/
def dayNumberOf (t : Text) : Except ErrorSeed Nat :=
  match Number.read .unsigned32 10 t with
  | .ok n => .ok n.toNat
  | .error e => .error (.cause (.number e))

/-- The number of a day, with or without an ordinal suffix in any letter case. -/
def monthDay (rounds : Nat) : Parser Nat :=
  tryMap dayNumberOf <| sequence do
    let number ← recognize (oneOrMore rounds digit)
    let _ ← optional (spelled ["st", "nd", "rd", "th"])
    return number

end Parser

end Backtrack
