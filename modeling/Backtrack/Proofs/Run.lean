import Backtrack.Fault

/-!
# Conditions on runs

`Run.Meets F Q x` says how run `x` may end: at a fault that `F` admits, or with an answer that `Q`
admits. `Meets.bind` takes such a condition through a run and what follows it.
-/

namespace Backtrack

namespace Run

variable {α β : Type} {F : Fault → Prop} {P Q : α → Prop}

@[simp] theorem ok_bind (a : α) (next : α → Run β) : (Except.ok a : Run α) >>= next = next a := rfl

@[simp] theorem error_bind (f : Fault) (next : α → Run β) :
    (Except.error f : Run α) >>= next = .error f := rfl

/-- The run stops at a fault that `F` admits or gives an answer that `Q` admits. -/
def Meets (F : Fault → Prop) (Q : α → Prop) : Run α → Prop
  | .ok a => Q a
  | .error f => F f

theorem Meets.imp {x : Run α} (h : Meets F P x) (hPQ : ∀ a, P a → Q a) : Meets F Q x := by
  cases x with
  | ok a => exact hPQ a h
  | error f => exact h

theorem Meets.bind {R : β → Prop} {x : Run α} {next : α → Run β} (h : Meets F P x)
    (hn : ∀ a, P a → Meets F R (next a)) : Meets F R (x >>= next) := by
  cases x with
  | ok a => exact hn a h
  | error f => exact h

theorem Meets.map {Q : β → Prop} {x : Run α} {f : α → β} (h : Meets F P x)
    (hf : ∀ a, P a → Q (f a)) : Meets F Q (f <$> x) := by
  cases x with
  | ok a => exact hf a h
  | error e => exact h

theorem Meets.of_eq_ok {x : Run α} {a : α} (h : Meets F Q x) (hx : x = .ok a) : Q a := by
  subst hx
  exact h

/-- Where any fault is admitted, a condition is one on the answer, if there is one. -/
theorem meets_of_forall_ok {x : Run α} (h : ∀ a, x = .ok a → Q a) : Meets (fun _ => True) Q x := by
  cases x with
  | ok a => exact h a rfl
  | error f => trivial

/-- Where any fault is admitted, what follows must end well after every answer. -/
theorem meets_bind {R : β → Prop} {x : Run α} {next : α → Run β}
    (h : ∀ a, Meets (fun _ => True) R (next a)) : Meets (fun _ => True) R (x >>= next) :=
  Meets.bind (meets_of_forall_ok (Q := fun _ => True) fun _ _ => trivial) fun a _ => h a

/-- Where no fault is admitted, there is an answer. -/
theorem meets_false_iff {x : Run α} : Meets (fun _ => False) Q x ↔ ∃ a, x = .ok a ∧ Q a := by
  cases x with
  | ok a => simp [Meets]
  | error f => simp [Meets]

end Run

end Backtrack
