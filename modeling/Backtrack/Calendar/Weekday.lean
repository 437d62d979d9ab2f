/-!
# Days of the week

Their names, and the spellings under which they are read: the full name and its abbreviations, the
longest first.
-/

namespace Backtrack

/-- A day of the week. -/
inductive Weekday where
  | monday
  | tuesday
  | wednesday
  | thursday
  | friday
  | saturday
  | sunday
  deriving DecidableEq, Repr

namespace Weekday

def afterMonday : List Weekday := [tuesday, wednesday, thursday, friday, saturday, sunday]

def name : Weekday → String
  | monday => "Monday"
  | tuesday => "Tuesday"
  | wednesday => "Wednesday"
  | thursday => "Thursday"
  | friday => "Friday"
  | saturday => "Saturday"
  | sunday => "Sunday"

def spellings : Weekday → List String
  | monday => ["monday", "mon"]
  | tuesday => ["tuesday", "tues", "tue"]
  | wednesday => ["wednesday", "weds", "wed"]
  | thursday => ["thursday", "thurs", "thur", "thu"]
  | friday => ["friday", "fri"]
  | saturday => ["saturday", "sat"]
  | sunday => ["sunday", "sun"]

end Weekday

end Backtrack
