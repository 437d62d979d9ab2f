import Backtrack.Proofs.Factoring
import Backtrack.Proofs.Matching

/-!
# Laws of looking ahead

`peek` and `not` end where they began, whatever they find, so what is asked behind them is asked of
the same text. From this follow the laws of negation: the one of a choice is a row of negations
(`Parser.not_orElse`, `Parser.not_any`), and two of them are a look (`Parser.not_not_eq_peek`); and
what a look says of a parser holds when the parser runs behind it (`Parser.agreesAt_peek_bind`,
`Parser.agreesAt_not_bind`). All of them are put together in `Parser.lookahead_laws`.
-/

namespace Backtrack

namespace Parser

variable {α β : Type}

/-! ## One look -/

section Looks

variable {p : Parser α} {c : Cursor} {n : Nat} {log : List Record}

theorem peek_of_matched {a : α} (h : p c = .ok ⟨.matched a, n, log⟩) :
    p.peek c = .ok ⟨.matched a, c.home, log⟩ := by
  rw [peek, h]
  rfl

theorem peek_of_missed (h : p c = .ok ⟨.missed, n, log⟩) :
    p.peek c = .ok ⟨.missed, c.home, log⟩ := by
  rw [peek, h]
  rfl

theorem peek_of_failed {e : ParseError} (h : p c = .ok ⟨.failed e, n, log⟩) :
    p.peek c = .ok ⟨.failed e, c.home, log⟩ := by
  rw [peek, h]
  rfl

theorem peek_of_error {f : Fault} (h : p c = .error f) : p.peek c = .error f := by
  rw [peek, h]
  rfl

theorem not_of_matched {a : α} (h : p c = .ok ⟨.matched a, n, log⟩) :
    p.not c = .ok ⟨.missed, c.home, log⟩ := by
  rw [Parser.not, h]
  rfl

theorem not_of_missed (h : p c = .ok ⟨.missed, n, log⟩) :
    p.not c = .ok ⟨.matched (), c.home, log⟩ := by
  rw [Parser.not, h]
  rfl

theorem not_of_failed {e : ParseError} (h : p c = .ok ⟨.failed e, n, log⟩) :
    p.not c = .ok ⟨.failed e, c.home, log⟩ := by
  rw [Parser.not, h]
  rfl

theorem not_of_error {f : Fault} (h : p c = .error f) : p.not c = .error f := by
  rw [Parser.not, h]
  rfl

theorem stop_of_peek {r : Reply α} (h : p.peek c = .ok r) : r.stop = c.home := by
  rcases hp : p c with f | ⟨a | _ | e, n, log⟩
  · cases (peek_of_error hp).symm.trans h
  · cases (peek_of_matched hp).symm.trans h
    rfl
  · cases (peek_of_missed hp).symm.trans h
    rfl
  · cases (peek_of_failed hp).symm.trans h
    rfl

theorem stop_of_not {r : Reply Unit} (h : p.not c = .ok r) : r.stop = c.home := by
  rcases hp : p c with f | ⟨a | _ | e, n, log⟩
  · cases (not_of_error hp).symm.trans h
  · cases (not_of_matched hp).symm.trans h
    rfl
  · cases (not_of_missed hp).symm.trans h
    rfl
  · cases (not_of_failed hp).symm.trans h
    rfl

end Looks

/-- To ask twice whether a parser does not match is to look whether it does. -/
theorem not_not_eq_peek (p : Parser α) : p.not.not = p.peek.map fun _ => () := by
  funext c
  rw [map_eq]
  rcases hp : p c with f | ⟨a | _ | e, n, log⟩
  · rw [not_of_error (not_of_error hp), peek_of_error hp]
    rfl
  · rw [not_of_missed (not_of_matched hp), peek_of_matched hp]
    rfl
  · rw [not_of_matched (not_of_missed hp), peek_of_missed hp]
    rfl
  · rw [not_of_failed (not_of_failed hp), peek_of_failed hp]
    rfl

/-! ## Negations in a row -/

/-- No alternative matches where the first one does not and then the second one does not. -/
theorem not_orElse (p q : Parser α) : (orElse p q).not = p.not >>= fun _ => q.not := by
  funext c
  rcases hp : p c with f | ⟨a | _ | e, n, log⟩
  · rw [not_of_error (orElse_of_error q hp), bind_of_error _ (not_of_error hp)]
  · rw [not_of_matched (orElse_of_matched q hp), bind_of_missed _ (not_of_matched hp)]
  · have hchoice := orElse_of_missed q hp
    have hhome := c.home_moveTo_home
    rw [bind_of_matched _ (not_of_missed hp)]
    rcases hq : q (c.moveTo c.home) with f | ⟨a | _ | e, m, log'⟩ <;> rw [hq] at hchoice
    · rw [not_of_error hchoice, not_of_error hq]
      rfl
    · rw [not_of_matched hchoice, not_of_matched hq, hhome]
      rfl
    · rw [not_of_missed hchoice, not_of_missed hq, hhome]
      rfl
    · rw [not_of_failed hchoice, not_of_failed hq, hhome]
      rfl
  · rw [not_of_failed (orElse_of_failed q hp), bind_of_failed _ (not_of_failed hp)]

/-- A row behind a negation begins where the negation did. -/
theorem not_bind_congr {p : Parser α} {next next' : Unit → Parser β} {c : Cursor}
    (hc : c.Aligned) (h : next () c = next' () c) : (p.not >>= next) c = (p.not >>= next') c := by
  rcases hp : p c with f | ⟨a | _ | e, n, log⟩
  · rw [bind_of_error _ (not_of_error hp), bind_of_error _ (not_of_error hp)]
  · rw [bind_of_missed _ (not_of_matched hp), bind_of_missed _ (not_of_matched hp)]
  · rw [bind_of_matched _ (not_of_missed hp), bind_of_matched _ (not_of_missed hp),
      hc.moveTo_home, h]
  · rw [bind_of_failed _ (not_of_failed hp), bind_of_failed _ (not_of_failed hp)]

theorem not_first {c : Cursor} (hc : c.Aligned) : ∀ ps : List (Parser α),
    (first ps).not c = ((each (ps.map Parser.not)).map fun _ => ()) c
  | [] => congrArg (fun n => (.ok ⟨.matched (), n, []⟩ : Run (Reply Unit))) hc.home_eq
  | p :: ps => by
    have hrow : ((each ((p :: ps).map Parser.not)).map fun _ => ())
        = p.not >>= fun _ => (each (ps.map Parser.not)).map fun _ => () := by
      rw [List.map_cons, each_cons]
      simp only [← bind_succeed, bind_bracket, succeed_bind]
    rw [first, not_orElse, hrow]
    exact not_bind_congr hc (not_first hc ps)

/-- None of some alternatives matches exactly where all of their negations do. -/
theorem not_any (container : Container) (ps : List (Parser α)) {c : Cursor} (hc : c.Aligned) :
    (any (container.family ps)).not c
      = ((all (container.family (ps.map Parser.not))).map fun _ => ()) c := by
  have hrow := not_first hc ps
  rw [any_family, all, Container.members_family, map_attempt, ← attempt_congr hrow]
  exact ((rollsBack_not _).attempt_eq hc).symm

/-! ## A parser behind a look at it -/

section Behind

variable {c : Cursor} (hc : c.Aligned) (p : Parser α)

include hc

theorem agreesAt_peek_bind (next : α → α → β) :
    AgreesAt c (p.peek >>= fun a => p.map (next a)) (p.map fun a => next a a) := by
  unfold AgreesAt
  rw [map_eq]
  rcases hp : p c with f | ⟨a | _ | e, n, log⟩
  · rw [bind_of_error _ (peek_of_error hp)]
    rfl
  · rw [bind_of_matched _ (peek_of_matched hp), hc.moveTo_home, map_eq, hp]
    rfl
  · rw [bind_of_missed _ (peek_of_missed hp)]
    rfl
  · rw [bind_of_failed _ (peek_of_failed hp)]
    rfl

theorem agreesAt_not_bind (next : α → β) :
    AgreesAt c (p.not >>= fun _ => p.map next) (p >>= fun _ => miss) := by
  unfold AgreesAt
  rcases hp : p c with f | ⟨a | _ | e, n, log⟩
  · rw [bind_of_error _ (not_of_error hp), bind_of_error _ hp]
  · rw [bind_of_missed _ (not_of_matched hp), bind_of_matched _ hp]
    rfl
  · rw [bind_of_matched _ (not_of_missed hp), hc.moveTo_home, map_eq, hp, bind_of_missed _ hp]
    rfl
  · rw [bind_of_failed _ (not_of_failed hp), bind_of_failed _ hp]
    rfl

end Behind

theorem map_verify_always (f : α → β) (p : Parser α) :
    (p.verify fun _ => true).map f = (p.map f).attempt := by
  simp only [verify, if_true, pure_eq_succeed]
  rw [bind_succeed, map_self, map_attempt]

theorem map_verify_never (f : α → β) (p : Parser α) :
    (p.verify fun _ => false).map f = (p >>= fun _ => miss).attempt := by
  have hmiss : (miss : Parser α).map f = miss := rfl
  simp only [verify, Bool.false_eq_true, if_false]
  rw [map_attempt, ← bind_succeed, bind_bracket]
  simp only [bind_succeed, hmiss]

/-- Looking leaves the cursor where it is; two negations are a look; the negation of a choice is all
of the negations in a row, with the same errors; a parser behind a look at it is the parser with its
value twice; and a parser behind its negation never matches: it has the result of the parser with
its value refused. -/
theorem lookahead_laws (container : Container) (p : Parser α) (ps : List (Parser α))
    (seen rest : Text) :
    let c := Cursor.between seen rest
    (∀ r, p.peek c = .ok r → r.stop = c.pos)
    ∧ (∀ r, p.not c = .ok r → r.stop = c.pos)
    ∧ p.not.not c = (p.peek.map fun _ => ()) c
    ∧ (any (container.family ps)).not c
      = ((all (container.family (ps.map Parser.not))).map fun _ => ()) c
    ∧ (pair p.peek p).quiet c = ((p.verify fun _ => true).map fun a => (a, a)).quiet c
    ∧ (pair p.not p).quiet c = ((p.verify fun _ => false).map fun a => ((), a)).quiet c
    ∧ ¬ (pair p.not p).MatchesAt c := by
  intro c
  have hc : c.Aligned := Cursor.aligned_between seen rest
  have hnever : (pair p.not p).quiet c = (p >>= fun _ => miss).attempt.quiet c := by
    rw [pair_eq]
    exact (agreesAt_not_bind hc p (Prod.mk ())).quiet_attempt
  refine ⟨fun r hr => (stop_of_peek hr).trans hc.home_eq,
    fun r hr => (stop_of_not hr).trans hc.home_eq, congrFun (not_not_eq_peek p) c,
    not_any container ps hc, ?_, ?_, ?_⟩
  · rw [pair_eq, map_verify_always]
    exact (agreesAt_peek_bind hc p Prod.mk).quiet_attempt
  · rw [hnever, map_verify_never]
  · rintro ⟨a, n, h⟩
    rw [matchesTo_iff_quiet, hnever, ← matchesTo_iff_quiet, attempt_matchesTo_iff,
      bind_matchesTo_iff] at h
    obtain ⟨b, m, -, log, hb⟩ := h
    cases hb

end Parser

end Backtrack
