import Backtrack.Proofs.Probing

/-!
# Matches and misses

What a parser says at a cursor, without what it logs: that it matches with a value and leaves the
cursor at an offset, or that it misses. Parsers that agree say the same.
-/

namespace Backtrack

namespace Parser

variable {α β γ : Type}

/-- The parser matches at the cursor with this value and leaves the cursor there. -/
def MatchesTo (p : Parser α) (c : Cursor) (a : α) (n : Nat) : Prop :=
  ∃ log, p c = .ok ⟨.matched a, n, log⟩

/-- The parser matches at the cursor. -/
def MatchesAt (p : Parser α) (c : Cursor) : Prop := ∃ a n, p.MatchesTo c a n

/-- The parser misses at the cursor. -/
def MissesAt (p : Parser α) (c : Cursor) : Prop := ∃ n log, p c = .ok ⟨.missed, n, log⟩

/-- At each boundary the parser returns, with a match or a miss and not with an error. -/
def Answers (p : Parser α) : Prop := ∀ c : Cursor, c.Aligned → p.MatchesAt c ∨ p.MissesAt c

section Outcomes

variable {p q : Parser α} {c d : Cursor} {a a' : α} {n n' : Nat}

theorem MatchesAt.not_missesAt (h : p.MatchesAt c) : ¬ p.MissesAt c := by
  rintro ⟨m, log', h'⟩
  obtain ⟨a, n, log, h⟩ := h
  cases h.symm.trans h'

theorem matchesTo_iff_quiet : p.MatchesTo c a n ↔ p.quiet c = .ok ⟨.matched a, n, []⟩ := by
  constructor
  · rintro ⟨log, h⟩
    exact quiet_eq_ok h
  · intro h
    rw [quiet] at h
    rcases hp : p c with f | ⟨b | _ | e, m, log⟩ <;> rw [hp] at h <;> cases h
    exact ⟨log, hp⟩

theorem missesAt_iff_quiet : p.MissesAt c ↔ ∃ m, p.quiet c = .ok ⟨.missed, m, []⟩ := by
  constructor
  · rintro ⟨m, log, h⟩
    exact ⟨m, quiet_eq_ok h⟩
  · rintro ⟨m, h⟩
    rw [quiet] at h
    rcases hp : p c with f | ⟨b | _ | e, k, log⟩ <;> rw [hp] at h <;> cases h
    exact ⟨_, log, hp⟩

theorem matchesTo_iff_of_eq_ok {r : Reply α} (h : p c = .ok r) :
    p.MatchesTo c a n ↔ r.outcome = .matched a ∧ r.stop = n := by
  obtain ⟨o, m, log⟩ := r
  simp [MatchesTo, h]

theorem missesAt_iff_of_eq_ok {r : Reply α} (h : p c = .ok r) :
    p.MissesAt c ↔ r.outcome = .missed := by
  obtain ⟨o, m, log⟩ := r
  simp [MissesAt, h]

theorem AgreesAt.matchesTo (h : AgreesAt c p q) (hp : p.MatchesTo c a n) : q.MatchesTo c a n := by
  obtain ⟨log, hp⟩ := hp
  unfold AgreesAt at h
  rcases hq : q c with f | ⟨b | _ | e, m, log'⟩ <;> rw [hp, hq] at h <;> cases h
  exact ⟨log', hq⟩

theorem AgreesAt.matchesTo_iff (h : AgreesAt c p q) : p.MatchesTo c a n ↔ q.MatchesTo c a n :=
  ⟨h.matchesTo, h.symm.matchesTo⟩

theorem AgreesAt.missesAt (h : AgreesAt c p q) (hp : p.MissesAt c) : q.MissesAt c := by
  obtain ⟨m, log, hp⟩ := hp
  unfold AgreesAt at h
  rcases hq : q c with f | ⟨b | _ | e, m, log'⟩ <;> rw [hp, hq] at h <;> cases h
  exact ⟨m, log', hq⟩

theorem succeed_matchesTo_iff : (succeed a').MatchesTo c a n ↔ a' = a ∧ c.pos = n := by
  simp [MatchesTo, succeed]

theorem bind_matchesTo_iff {next : α → Parser β} {b : β} : (p >>= next).MatchesTo c b n
    ↔ ∃ a m, p.MatchesTo c a m ∧ (next a).MatchesTo (c.moveTo m) b n := by
  constructor
  · rintro ⟨log, h⟩
    rcases hp : p c with x | ⟨a | _ | e, m, log'⟩
    · cases (bind_of_error next hp).symm.trans h
    · rw [bind_of_matched next hp] at h
      refine ⟨a, m, ⟨log', hp⟩, ?_⟩
      rcases hn : next a (c.moveTo m) with x | ⟨b' | _ | e, k, log''⟩ <;> rw [hn] at h <;> cases h
      exact ⟨log'', hn⟩
    · cases (bind_of_missed next hp).symm.trans h
    · cases (bind_of_failed next hp).symm.trans h
  · rintro ⟨a, m, ⟨log, hp⟩, ⟨log', hn⟩⟩
    refine ⟨log ++ log', ?_⟩
    rw [bind_of_matched next hp, hn]
    rfl

theorem AgreesAt.matchesAt (h : AgreesAt c p q) (hp : p.MatchesAt c) : q.MatchesAt c := by
  obtain ⟨a, n, hp⟩ := hp
  exact ⟨a, n, h.matchesTo hp⟩

theorem map_matchesTo_iff {f : α → β} {b : β} :
    (p.map f).MatchesTo c b n ↔ ∃ a, f a = b ∧ p.MatchesTo c a n := by
  rw [← bind_succeed, bind_matchesTo_iff]
  simp only [succeed_matchesTo_iff, Cursor.pos_moveTo]
  constructor
  · rintro ⟨a, m, hp, rfl, rfl⟩
    exact ⟨a, rfl, hp⟩
  · rintro ⟨a, rfl, hp⟩
    exact ⟨a, n, hp, rfl, rfl⟩

theorem map_matchesAt_iff {f : α → β} : (p.map f).MatchesAt c ↔ p.MatchesAt c := by
  constructor
  · rintro ⟨b, n, h⟩
    obtain ⟨a, -, hp⟩ := map_matchesTo_iff.1 h
    exact ⟨a, n, hp⟩
  · rintro ⟨a, n, hp⟩
    exact ⟨f a, n, map_matchesTo_iff.2 ⟨a, rfl, hp⟩⟩

theorem map_missesAt_iff {f : α → β} : (p.map f).MissesAt c ↔ p.MissesAt c := by
  unfold MissesAt
  rw [map_eq]
  constructor
  · rintro ⟨n, log, h⟩
    rcases hp : p c with x | ⟨a | _ | e, m, log'⟩ <;> rw [hp] at h <;> cases h
    exact ⟨_, _, rfl⟩
  · rintro ⟨n, log, hp⟩
    rw [hp]
    exact ⟨n, log, rfl⟩

theorem probe_matchesTo_iff {delimiter : Parser β} {found missing : Parser α} :
    (probe delimiter found missing).MatchesTo c a n
      ↔ delimiter.MatchesAt c ∧ found.MatchesTo c a n
        ∨ delimiter.MissesAt c ∧ missing.MatchesTo c a n := by
  constructor
  · intro h
    rcases hq : delimiter c with x | ⟨b | _ | e, m, log⟩
    · obtain ⟨log', h⟩ := h
      rw [probe, hq] at h
      cases h
    · exact .inl ⟨⟨b, m, log, hq⟩, (agreesAt_probe_of_matched hq).matchesTo h⟩
    · exact .inr ⟨⟨m, log, hq⟩, (agreesAt_probe_of_missed hq).matchesTo h⟩
    · obtain ⟨log', h⟩ := h
      rw [probe, hq] at h
      cases h
  · rintro (⟨⟨b, m, log, hq⟩, h⟩ | ⟨⟨m, log, hq⟩, h⟩)
    · exact (agreesAt_probe_of_matched hq).symm.matchesTo h
    · exact (agreesAt_probe_of_missed hq).symm.matchesTo h

theorem whenMoved_matchesTo_iff {start : Nat} :
    (whenMoved start p).MatchesTo c a n ↔ c.pos ≠ start ∧ p.MatchesTo c a n := by
  by_cases h : c.pos = start
  · unfold MatchesTo
    rw [whenMoved_of_eq h]
    simp [miss, h]
  · unfold MatchesTo
    rw [whenMoved_of_ne h]
    simp [h]

theorem attempt_matchesTo_iff : p.attempt.MatchesTo c a n ↔ p.MatchesTo c a n :=
  AgreesAt.matchesTo_iff (agrees_attempt p c)

theorem pair_matchesTo_iff {q : Parser β} {b : β} : (pair p q).MatchesTo c (a, b) n
    ↔ ∃ m, p.MatchesTo c a m ∧ q.MatchesTo (c.moveTo m) b n := by
  rw [pair_eq, attempt_matchesTo_iff, bind_matchesTo_iff]
  constructor
  · rintro ⟨a', m, hp, hq⟩
    obtain ⟨b', heq, hq⟩ := map_matchesTo_iff.1 hq
    cases heq
    exact ⟨m, hp, hq⟩
  · rintro ⟨m, hp, hq⟩
    exact ⟨a, m, hp, map_matchesTo_iff.2 ⟨b, rfl, hq⟩⟩

theorem recognize_matchesTo_iff {t : Text} : (recognize p).MatchesTo c t n
    ↔ (∃ a, p.MatchesTo c a n) ∧ (c.moveTo n).slice c.pos n = .ok t := by
  constructor
  · rintro ⟨log, h⟩
    rcases hp : p c with x | ⟨a | _ | e, m, log'⟩
    · cases (recognize_of_error hp).symm.trans h
    · obtain ⟨t', ht⟩ := (c.moveTo m).exists_slice_eq_ok c.pos m
      cases (recognize_of_matched hp ht).symm.trans h
      exact ⟨⟨a, _, hp⟩, ht⟩
    · cases (recognize_of_missed hp).symm.trans h
    · cases (recognize_of_failed hp).symm.trans h
  · rintro ⟨⟨a, log, hp⟩, ht⟩
    exact ⟨log, recognize_of_matched hp ht⟩

theorem bind_missesAt_of_missed {next : α → Parser β} (hp : p.MissesAt c) :
    (p >>= next).MissesAt c := by
  obtain ⟨m, log, hp⟩ := hp
  exact ⟨m, log, bind_of_missed next hp⟩

theorem bind_missesAt_of_matched {next : α → Parser β} (hp : p.MatchesTo c a n)
    (hn : (next a).MissesAt (c.moveTo n)) : (p >>= next).MissesAt c := by
  obtain ⟨log, hp⟩ := hp
  obtain ⟨m, log', hn⟩ := hn
  exact ⟨m, log ++ log', by rw [bind_of_matched next hp, hn]; rfl⟩

/-- From a boundary, a match onward reads a first part of what is in front. -/
theorem Onward.exists_between (hp : p.Onward) {seen rest : Text}
    (h : p.MatchesTo (.between seen rest) a n) : ∃ x b, rest = x ++ b ∧ n = (seen ++ x).byteSize
      ∧ (Cursor.between seen rest).moveTo n = .between (seen ++ x) b := by
  obtain ⟨log, h⟩ := h
  obtain ⟨hb, hle⟩ := hp _ (Cursor.aligned_between seen rest) a n log h
  obtain ⟨x, b, rfl, rfl⟩ := hb.exists_append_of_le hle
  exact ⟨x, b, rfl, rfl, Cursor.moveTo_between seen x b⟩

end Outcomes

end Parser

end Backtrack
