import Backtrack.Parser.Sequence
import Backtrack.Proofs.Run

/-!
# Parsers without their logs

Parsers in a row may be bracketed in any way (`Parser.bind_bracket`). A quiet parser logs nothing
and is otherwise the parser it was made from. Two parsers agree if they are the same once they are
quiet and put back where they do not match; so inside of a row that is put back as a whole each of
them may take the place of the other (`Parser.AgreesAt.bind`).
-/

namespace Backtrack

namespace Reply

variable {α β : Type}

theorem after_after (log log' : List Record) (r : Reply α) :
    (r.after log').after log = r.after (log ++ log') := by
  simp [after]

/-- The reply with nothing logged. -/
def quiet (r : Reply α) : Reply α := { r with log := [] }

/-- The reply with nothing logged, at `home` unless it is a match. -/
def settle (home : Nat) (r : Reply α) : Reply α :=
  ⟨r.outcome, if r.outcome.isMatch then r.stop else home, []⟩

theorem settle_settle (home home' : Nat) (r : Reply α) :
    (r.settle home').settle home = r.settle home := by
  rcases r with ⟨a | _ | e, n, log⟩ <;> rfl

end Reply

namespace Parser

variable {α β γ : Type}

/-! ## Rows -/

section Bind

variable {p : Parser α} (next : α → Parser β) {c : Cursor} {n : Nat} {log : List Record}

theorem bind_of_matched {a : α} (h : p c = .ok ⟨.matched a, n, log⟩) :
    (p >>= next) c = Reply.after log <$> next a (c.moveTo n) := by
  show Parser.bind p next c = _
  rw [Parser.bind, h, Run.ok_bind]
  dsimp only
  rcases next a (c.moveTo n) with _ | r <;> rfl

theorem bind_of_missed (h : p c = .ok ⟨.missed, n, log⟩) :
    (p >>= next) c = .ok ⟨.missed, n, log⟩ := by
  show Parser.bind p next c = _
  rw [Parser.bind, h, Run.ok_bind]
  rfl

theorem bind_of_failed {e : ParseError} (h : p c = .ok ⟨.failed e, n, log⟩) :
    (p >>= next) c = .ok ⟨.failed e, n, log⟩ := by
  show Parser.bind p next c = _
  rw [Parser.bind, h, Run.ok_bind]
  rfl

theorem bind_of_error {f : Fault} (h : p c = .error f) : (p >>= next) c = .error f := by
  show Parser.bind p next c = _
  rw [Parser.bind, h, Run.error_bind]

end Bind

theorem pure_eq_succeed (a : α) : (pure a : Parser α) = succeed a := rfl

theorem map_eq (f : α → β) (p : Parser α) (c : Cursor) : p.map f c = Reply.map f <$> p c := by
  rw [Parser.map]
  rcases p c with _ | r <;> rfl

theorem map_self (p : Parser α) : (p.map fun a => a) = p := by
  funext c
  rw [map_eq]
  rcases p c with x | ⟨a | _ | e, n, log⟩ <;> rfl

theorem map_map (f : α → β) (g : β → γ) (p : Parser α) :
    (p.map f).map g = p.map fun a => g (f a) := by
  funext c
  rw [map_eq, map_eq, map_eq]
  rcases p c with _ | ⟨a | _ | e, n, log⟩ <;> rfl

theorem bind_succeed (p : Parser α) (f : α → β) : (p >>= fun a => succeed (f a)) = p.map f := by
  funext c
  rw [map_eq]
  rcases h : p c with x | ⟨a | _ | e, n, log⟩
  · exact bind_of_error _ h
  · rw [bind_of_matched _ h]
    show Except.ok (⟨.matched (f a), n, log ++ []⟩ : Reply β) = .ok ⟨.matched (f a), n, log⟩
    rw [List.append_nil]
  · exact bind_of_missed _ h
  · exact bind_of_failed _ h

theorem succeed_bind (a : α) (next : α → Parser β) : (succeed a >>= next) = next a := by
  funext c
  have h : succeed a c = .ok ⟨.matched a, c.pos, []⟩ := rfl
  rw [bind_of_matched next h]
  show Reply.after [] <$> next a c = next a c
  rcases next a c with _ | r <;> rfl

theorem bind_bracket (p : Parser α) (next : α → Parser β) (last : β → Parser γ) :
    (p >>= next >>= last) = p >>= fun a => next a >>= last := by
  funext c
  rcases h : p c with x | ⟨a | _ | e, n, log⟩
  · rw [bind_of_error _ h, bind_of_error _ (bind_of_error next h)]
  · rw [bind_of_matched _ h]
    have h' := bind_of_matched next h
    rcases hn : next a (c.moveTo n) with x | ⟨b | _ | e, m, log'⟩ <;> rw [hn] at h'
    · rw [bind_of_error last hn, bind_of_error last h']
      rfl
    · rw [bind_of_matched last hn, bind_of_matched last h']
      show Reply.after (log ++ log') <$> last b (c.moveTo m)
        = Reply.after log <$> Reply.after log' <$> last b (c.moveTo m)
      rcases last b (c.moveTo m) with x | r
      · rfl
      · exact congrArg Except.ok (Reply.after_after log log' r).symm
    · rw [bind_of_missed last hn, bind_of_missed last h']
      rfl
    · rw [bind_of_failed last hn, bind_of_failed last h']
      rfl
  · rw [bind_of_missed _ h, bind_of_missed _ (bind_of_missed next h)]
  · rw [bind_of_failed _ h, bind_of_failed _ (bind_of_failed next h)]

theorem each_cons (p : Parser α) (ps : List (Parser α)) :
    each (p :: ps) = p >>= fun a => (each ps).map (a :: ·) := by
  simp only [each, pure_eq_succeed, bind_succeed]

theorem each_append : ∀ ps qs : List (Parser α), each (ps ++ qs) = (do
    let as ← each ps
    let bs ← each qs
    succeed (as ++ bs))
  | [], qs => by
    rw [each, succeed_bind, bind_succeed]
    exact (map_self (each qs)).symm
  | p :: ps, qs => by
    rw [List.cons_append, each, each, each_append ps qs]
    simp only [pure_eq_succeed, bind_bracket, succeed_bind, List.cons_append]

/-! ## Quiet parsers -/

/-- The parser with nothing logged. -/
def quiet (p : Parser α) : Parser α := fun c => Reply.quiet <$> p c

theorem quiet_eq_ok {p : Parser α} {c : Cursor} {r : Reply α} (h : p c = .ok r) :
    p.quiet c = .ok r.quiet := by
  rw [quiet, h]
  rfl

theorem quiet_noting (p : Parser α) (onMiss onError : Nat → Record) :
    (p.noting onMiss onError).quiet = p.quiet := by
  funext c
  rw [quiet, quiet, noting]
  rcases p c with x | ⟨a | _ | e, n, log⟩ <;> rfl

theorem map_attempt (f : α → β) (p : Parser α) : p.attempt.map f = (p.map f).attempt := by
  funext c
  rw [map_eq, attempt, attempt, map_eq]
  rcases p c with x | ⟨a | _ | e, n, log⟩ <;> rfl

theorem pair_eq (p : Parser α) (q : Parser β) :
    pair p q = (p >>= fun a => q.map (Prod.mk a)).attempt := by
  simp only [pair, ← bind_succeed, pure_eq_succeed]

/-- Two parsers in a row whose values are put together. -/
theorem map_pair (p : Parser α) (q : Parser β) (f : α → β → γ) :
    ((pair p q).map fun v => f v.1 v.2) = (p >>= fun a => q.map (f a)).attempt := by
  rw [pair_eq, map_attempt]
  simp only [← bind_succeed, bind_bracket, succeed_bind]

section Sequence

variable {p : Parser α} {c : Cursor} {n : Nat} {log : List Record}

theorem sequence_of_matched {a : α} (h : p c = .ok ⟨.matched a, n, log⟩) :
    p.sequence c = .ok ⟨.matched a, n, log⟩ := by
  rw [sequence, noting, attempt, h]
  rfl

theorem sequence_of_missed (h : p c = .ok ⟨.missed, n, log⟩) :
    p.sequence c = .ok ⟨.missed, c.home, log ++ [.sequenceMiss c.pos]⟩ := by
  rw [sequence, noting, attempt, h]
  rfl

end Sequence

theorem attempt_attempt (p : Parser α) : p.attempt.attempt = p.attempt := by
  funext c
  rw [attempt, attempt]
  rcases p c with x | ⟨a | _ | e, n, log⟩ <;> rfl

/-! ## Parsers that agree -/

/-- From a cursor the parsers differ in what they log and in where they stop without a match, at
most. -/
def AgreesAt (c : Cursor) (p q : Parser α) : Prop :=
  Reply.settle c.home <$> p c = Reply.settle c.home <$> q c

section AgreesAt

variable {c : Cursor} {p q r : Parser α}

theorem AgreesAt.refl (c : Cursor) (p : Parser α) : AgreesAt c p p := rfl

theorem AgreesAt.trans (hpq : AgreesAt c p q) (hqr : AgreesAt c q r) : AgreesAt c p r :=
  Eq.trans hpq hqr

/-- Put back where they do not match, parsers that agree differ in what they log only. -/
theorem AgreesAt.quiet_attempt (h : AgreesAt c p q) : p.attempt.quiet c = q.attempt.quiet c := by
  have hattempt : ∀ r : Parser α, r.attempt.quiet c = Reply.settle c.home <$> r c := by
    intro r
    rw [quiet, attempt]
    rcases r c with x | ⟨a | _ | e, n, log⟩ <;> rfl
  rw [hattempt, hattempt]
  exact h

/-- In a row each parser may be replaced by one that agrees with it. -/
theorem AgreesAt.bind {next next' : α → Parser β} (h : AgreesAt c p q)
    (hn : ∀ a n log, p c = .ok ⟨.matched a, n, log⟩ → AgreesAt (c.moveTo n) (next a) (next' a)) :
    AgreesAt c (p >>= next) (q >>= next') := by
  unfold AgreesAt at h ⊢
  rcases hp : p c with x | ⟨a | _ | e, n, log⟩ <;>
    rcases hq : q c with y | ⟨b | _ | e', m, log'⟩ <;> rw [hp, hq] at h <;> cases h
  · rw [bind_of_error next hp, bind_of_error next' hq]
  · rw [bind_of_matched next hp, bind_of_matched next' hq]
    have hrest : ∀ log x, Reply.settle c.home <$> Reply.after log <$> x
        = Reply.settle c.home <$> Reply.settle (c.moveTo n).home <$> (x : Run (Reply β)) := by
      rintro log (x | r)
      · rfl
      · exact congrArg Except.ok (Reply.settle_settle c.home _ r).symm
    have hnext : Reply.settle (c.moveTo n).home <$> next a (c.moveTo n)
        = Reply.settle (c.moveTo n).home <$> next' a (c.moveTo n) := hn a n log hp
    rw [hrest, hrest, hnext]
  · rw [bind_of_missed next hp, bind_of_missed next' hq]
    rfl
  · rw [bind_of_failed next hp, bind_of_failed next' hq]
    rfl

theorem AgreesAt.map (h : AgreesAt c p q) (f : α → β) : AgreesAt c (p.map f) (q.map f) := by
  rw [← bind_succeed, ← bind_succeed]
  exact h.bind fun a n _ _ => .refl (c.moveTo n) (succeed (f a))

end AgreesAt

/-- The parsers differ in what they log and in where they stop without a match, at most. -/
def Agrees (p q : Parser α) : Prop :=
  ∀ c : Cursor, Reply.settle c.home <$> p c = Reply.settle c.home <$> q c

theorem Agrees.refl (p : Parser α) : p.Agrees p := fun _ => rfl

theorem Agrees.trans {p q r : Parser α} (hpq : p.Agrees q) (hqr : q.Agrees r) : p.Agrees r :=
  fun c => (hpq c).trans (hqr c)

theorem Agrees.quiet_attempt {p q : Parser α} (h : p.Agrees q) :
    p.attempt.quiet = q.attempt.quiet :=
  funext fun c => AgreesAt.quiet_attempt (h c)

theorem agrees_attempt (p : Parser α) : p.attempt.Agrees p := by
  intro c
  rw [attempt]
  rcases p c with x | ⟨a | _ | e, n, log⟩ <;> rfl

theorem Agrees.bind {p q : Parser α} {next next' : α → Parser β} (h : p.Agrees q)
    (hn : ∀ a, (next a).Agrees (next' a)) : (p >>= next).Agrees (q >>= next') :=
  fun c => AgreesAt.bind (h c) fun a n _ _ => hn a (c.moveTo n)

end Parser

end Backtrack
