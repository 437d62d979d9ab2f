import Backtrack.Number

/-!
# Dates

Days of the proleptic Gregorian calendar, in which the year 0 is a leap year, and their reading
from year, month and day with hyphens between them.
-/

namespace Backtrack

/-- A day of the calendar. -/
structure Date where
  year : Nat
  month : Nat
  day : Nat
  deriving DecidableEq, Repr

/-- Why three numbers, or the text of them, are not a date. -/
inductive DateError where
  | month (month : Nat)
  | day (year month day : Nat)
  | number (e : NumberError)
  deriving DecidableEq, Repr

def twoDigits (n : Nat) : String := if n < 10 then "0" ++ toString n else toString n

def DateError.message : DateError → String
  | month m => "month " ++ toString m ++ " does not exist"
  | day y m d =>
    "day " ++ toString d ++ " is out of range for " ++ toString y ++ "-" ++ twoDigits m
  | number e => e.message

namespace Date

def isLeap (year : Nat) : Bool := year % 4 == 0 && (year % 100 != 0 || year % 400 == 0)

/-- The number of days of a month, if there is such a month. -/
def monthLength? (year month : Nat) : Option Nat :=
  match month with
  | 1 | 3 | 5 | 7 | 8 | 10 | 12 => some 31
  | 4 | 6 | 9 | 11 => some 30
  | 2 => some (if isLeap year then 29 else 28)
  | _ => none

/-- The date of three numbers. -/
def of (year month day : Nat) : Except DateError Date :=
  match monthLength? year month with
  | none => .error (.month month)
  | some length =>
    if day = 0 ∨ length < day then .error (.day year month day) else .ok ⟨year, month, day⟩

/-- The first part of a text up to a hyphen, and what follows the hyphen. -/
def splitHyphen (t : Text) : Text × Text :=
  (t.takeWhile (· != '-'), (t.dropWhile (· != '-')).drop 1)

/-- One number of a date. -/
def readPart (t : Text) : Except DateError Nat :=
  match Number.read .unsigned32 10 t with
  | .ok n => .ok n.toNat
  | .error e => .error (.number e)

/-- The date written as year, month and day with hyphens between them; a part that is missing is
empty. -/
def read (t : Text) : Except DateError Date := do
  let (yearText, rest) := splitHyphen t
  let (monthText, dayText) := splitHyphen rest
  let year ← readPart yearText
  let month ← readPart monthText
  let day ← readPart dayText
  of year month day

end Date

end Backtrack
