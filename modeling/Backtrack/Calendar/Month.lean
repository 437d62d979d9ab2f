/-!
# Months

Their names, and the spellings under which they are read, the longest first.
-/

namespace Backtrack

/-- A month of the year. -/
inductive Month where
  | january
  | february
  | march
  | april
  | may
  | june
  | july
  | august
  | september
  | october
  | november
  | december
  deriving DecidableEq, Repr

namespace Month

def afterJanuary : List Month :=
  [february, march, april, may, june, july, august, september, october, november, december]

def name : Month → String
  | january => "January"
  | february => "February"
  | march => "March"
  | april => "April"
  | may => "May"
  | june => "June"
  | july => "July"
  | august => "August"
  | september => "September"
  | october => "October"
  | november => "November"
  | december => "December"

def spellings : Month → List String
  | january => ["january", "jan"]
  | february => ["february", "feb"]
  | march => ["march", "mar"]
  | april => ["april", "apr"]
  | may => ["may"]
  | june => ["june", "jun"]
  | july => ["july", "jul"]
  | august => ["august", "aug"]
  | september => ["september", "sept", "sep"]
  | october => ["october", "oct"]
  | november => ["november", "nov"]
  | december => ["december", "dec"]

end Month

end Backtrack
