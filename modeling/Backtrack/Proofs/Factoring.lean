import Backtrack.Proofs.EndOfInput
import Backtrack.Proofs.OrderedChoice
import Backtrack.Proofs.Rollback

/-!
# A common first parser of alternatives

Alternatives that begin with one parser may be written as that parser and a choice behind it
(`Parser.Lands.pair_any`). Written out, each alternative that misses goes back to the beginning and
the first parser runs again; factored, the choice goes back to where the first parser stopped. Both
places are boundaries, so the next alternative meets the same text either way.
-/

namespace Backtrack

namespace Parser

variable {α β : Type}

/-! ## Parsers that agree and roll back -/

theorem RollsBack.attempt_eq {p : Parser α} (hp : p.RollsBack) {c : Cursor} (hc : c.Aligned) :
    p.attempt c = p c := by
  have hstops := hp c hc
  rw [attempt]
  rcases h : p c with f | ⟨a | _ | e, n, log⟩ <;> rw [h] at hstops
  · rfl
  · rfl
  · obtain rfl : n = c.pos := hstops rfl
    rw [Run.ok_bind, hc.home_eq]
    rfl
  · obtain rfl : n = c.pos := hstops rfl
    rw [Run.ok_bind, hc.home_eq]
    rfl

/-- Parsers that agree and roll back differ in what they log only. -/
theorem AgreesAt.quiet_eq {p q : Parser α} {c : Cursor} (h : AgreesAt c p q) (hp : p.RollsBack)
    (hq : q.RollsBack) (hc : c.Aligned) : p.quiet c = q.quiet c := by
  have hquiet := h.quiet_attempt
  rw [quiet, quiet, hp.attempt_eq hc, hq.attempt_eq hc] at hquiet
  exact hquiet

theorem AgreesAt.orElse {p p' q q' : Parser α} {c : Cursor} (hc : c.Aligned) (hp : AgreesAt c p p')
    (hq : AgreesAt c q q') : AgreesAt c (orElse p q) (Parser.orElse p' q') := by
  unfold AgreesAt at hp hq ⊢
  rcases h : p c with f | ⟨a | _ | e, n, log⟩ <;>
    rcases h' : p' c with f' | ⟨a' | _ | e', n', log'⟩ <;> rw [h, h'] at hp <;> cases hp
  · rw [orElse_of_error q h, orElse_of_error q' h']
  · rw [orElse_of_matched q h, orElse_of_matched q' h']
    rfl
  · rw [orElse_of_missed q h, orElse_of_missed q' h', hc.moveTo_home]
    rcases hq₁ : q c with f | r <;> rcases hq₂ : q' c with f' | r' <;> rw [hq₁, hq₂] at hq
    · exact hq
    · cases hq
    · cases hq
    · exact hq
  · rw [orElse_of_failed q h, orElse_of_failed q' h']
    rfl

/-! ## Two alternatives -/

/-- A choice behind a parser is a choice between two rows that begin with it: in both, the second
alternative runs where the first parser stopped. -/
theorem Lands.bind_orElse {a : Parser α} (ha : a.Lands) (p q : α → Parser β) {c : Cursor}
    (hc : c.Aligned) :
    AgreesAt c (a >>= fun v => orElse (p v) (q v)) (orElse (a >>= p) (a >>= q)) := by
  unfold AgreesAt
  rcases h : a c with f | ⟨v | _ | e, n, log⟩
  · rw [bind_of_error _ h, orElse_of_error _ (bind_of_error p h)]
  · have hd : (c.moveTo n).Aligned := ha c hc v n log h
    have hrow := bind_of_matched p h
    rw [bind_of_matched _ h]
    rcases hp : p v (c.moveTo n) with f | ⟨b | _ | e, m, log'⟩ <;> rw [hp] at hrow
    · rw [orElse_of_error _ hp, orElse_of_error _ hrow]
      rfl
    · rw [orElse_of_matched _ hp, orElse_of_matched _ hrow]
      rfl
    · rw [orElse_of_missed _ hp, hd.moveTo_home, orElse_of_missed _ hrow, hc.moveTo_home,
        bind_of_matched q h]
      rcases q v (c.moveTo n) with f | r <;> rfl
    · rw [orElse_of_failed _ hp, orElse_of_failed _ hrow]
      rfl
  · rw [bind_of_missed _ h, orElse_of_missed _ (bind_of_missed p h), hc.moveTo_home,
      bind_of_missed q h]
    rfl
  · rw [bind_of_failed _ h, orElse_of_failed _ (bind_of_failed p h)]
    rfl

theorem Lands.pair_orElse {a : Parser α} (ha : a.Lands) (p q : Parser β) {c : Cursor}
    (hc : c.Aligned) : AgreesAt c (pair a (orElse p q)) (orElse (pair a p) (pair a q)) := by
  simp only [pair_eq, map_orElse]
  refine .trans (agrees_attempt _ c) (.trans (ha.bind_orElse _ _ hc) ?_)
  exact .orElse hc (agrees_attempt _ c).symm (agrees_attempt _ c).symm

/-! ## Any number of alternatives -/

theorem agrees_first_singleton (p : Parser α) : (first [p]).Agrees p := by
  rw [first, first, orElse_miss]
  exact agrees_attempt p

theorem Agrees.pair_right {q q' : Parser β} (h : q.Agrees q') (a : Parser α) :
    (pair a q).Agrees (pair a q') := by
  have hrow : (a >>= fun v => q.map (Prod.mk v)).Agrees (a >>= fun v => q'.map (Prod.mk v)) :=
    (Agrees.refl a).bind fun v d => AgreesAt.map (h d) (Prod.mk v)
  intro c
  rw [pair_eq, pair_eq]
  exact .trans ((agrees_attempt _).trans hrow c) (agrees_attempt _ c).symm

theorem Lands.pair_first {a : Parser α} (ha : a.Lands) {c : Cursor} (hc : c.Aligned) :
    ∀ (b : Parser β) (bs : List (Parser β)),
      AgreesAt c (pair a (first (b :: bs))) (first ((b :: bs).map (pair a)))
  | b, [] => .trans ((agrees_first_singleton b).pair_right a c)
      (agrees_first_singleton (pair a b) c).symm
  | b, b' :: bs => by
    refine .trans (ha.pair_orElse b (first (b' :: bs)) hc) ?_
    exact .orElse hc (.refl c (pair a b)) (ha.pair_first hc b' bs)

/-- One parser and a choice behind it has the result of the choice between the rows that begin with
this parser, whatever the alternatives are: the same outcome, value and error, and the same place
where it stops. Of the first parser only its matches must end on boundaries, as those of every
description do (`lands_of_description`). -/
theorem Lands.pair_any {a : Parser α} (ha : a.Lands) (container : Container) (b : Parser β)
    (bs : List (Parser β)) (seen rest : Text) :
    (pair a (any (container.family (b :: bs)))).quiet (.between seen rest)
      = (any (container.family ((b :: bs).map (pair a)))).quiet (.between seen rest) := by
  have hc := Cursor.aligned_between seen rest
  rw [any_family, any_family]
  exact (ha.pair_first hc b bs).quiet_eq (rollsBack_attempt _) (rollsBack_first _) hc

/-- The first alternative misses behind what it reads, the second one matches. -/
theorem pair_any_leak : anyChar.Lands
    ∧ (pair anyChar (any (Container.tuple.family [leak 1, char 'b']))).quiet
        (.between ['é'] ['a', 'b'])
      = (any (Container.tuple.family [pair anyChar (leak 1), pair anyChar (char 'b')])).quiet
        (.between ['é'] ['a', 'b'])
    ∧ (pair anyChar (any (Container.tuple.family [leak 1, char 'b']))).quiet
        (.between ['é'] ['a', 'b'])
      = .ok ⟨.matched ('a', 'b'), 4, []⟩ := by
  have hlands : anyChar.Lands := (isToken_anyChar.within (M := .onward)).lands
  exact ⟨hlands, hlands.pair_any .tuple (leak 1) [char 'b'] ['é'] ['a', 'b'], rfl⟩

end Parser

end Backtrack
