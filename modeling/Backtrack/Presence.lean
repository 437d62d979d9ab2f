/-!
# Presence

A value together with whether it was there in the input.
-/

namespace Backtrack

/-- A value that may or may not have been matched. -/
inductive Presence (α : Type) where
  | present (value : α)
  | absent
  deriving DecidableEq, Repr, Ord

namespace Presence

variable {α β : Type}

instance : Inhabited (Presence α) := ⟨absent⟩

def isPresent : Presence α → Bool
  | present _ => true
  | absent => false

def isAbsent : Presence α → Bool
  | present _ => false
  | absent => true

/-- The same presence of an image of the value. -/
def map (f : α → β) : Presence α → Presence β
  | present a => present (f a)
  | absent => absent

def toOption : Presence α → Option α
  | present a => some a
  | absent => none

def ofOption : Option α → Presence α
  | some a => present a
  | none => absent

/-- The value, or another one in its place. -/
def getD : Presence α → α → α
  | present a, _ => a
  | absent, d => d

theorem ofOption_toOption : ∀ p : Presence α, ofOption p.toOption = p
  | present _ => rfl
  | absent => rfl

theorem toOption_ofOption : ∀ a : Option α, (ofOption a).toOption = a
  | some _ => rfl
  | none => rfl

end Presence

end Backtrack
