/-!
# Log records

What combinators note down when they roll back. Offsets are where the combinator began.
-/

namespace Backtrack

/-- One note of a combinator that rolled back. -/
inductive Record where
  /-- A member of a sequence did not match. -/
  | sequenceMiss (start : Nat)
  /-- A member of a sequence reported an error. -/
  | sequenceError (start : Nat)
  /-- The function of a conversion failed. -/
  | conversionError (start : Nat)
  /-- An item of a repetition reported an error after `count` items. -/
  | repetitionError (count : Nat)
  /-- A repetition ended with fewer items than it needs. -/
  | repetitionShort (count needed start : Nat)
  /-- The delimiter of a scan that takes content first reported an error. -/
  | untilError (start : Nat)
  /-- The delimiter of a scan that looks for it first reported an error. -/
  | whileNotError (start : Nat)
  deriving DecidableEq, Repr

def Record.message : Record → String
  | sequenceMiss start => "sequence rolled back to offset " ++ toString start
  | sequenceError start => "sequence error, rolled back to offset " ++ toString start
  | conversionError start => "conversion failed at offset " ++ toString start
  | repetitionError count => "repetition error after " ++ toString count ++ " items, rolled back"
  | repetitionShort count needed start =>
    "repetition matched " ++ toString count ++ " items, needed " ++ toString needed
      ++ ", rolled back to offset " ++ toString start
  | untilError start => "until: delimiter error, rolled back to offset " ++ toString start
  | whileNotError start => "while_not: delimiter error, rolled back to offset " ++ toString start

end Backtrack
