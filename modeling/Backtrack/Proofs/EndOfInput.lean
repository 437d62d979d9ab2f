import Mathlib.Data.List.TFAE
import Mathlib.Tactic.TFAE
import Backtrack.Proofs.Failing
import Backtrack.Proofs.Motion
import Backtrack.Proofs.Rollback

/-!
# The end of the input

On a boundary all ways to ask for the end of the input have one answer
(`Cursor.Aligned.tfae_atEnd`). So a scan that stops there is the scan for its delimiter or the end,
down to what it logs (`Parser.Lands.scan_stopsAtEnd`), and a parser that must read the whole input
is the parser with the end behind it, but for the error (`Parser.complete_failsWith_iff`).
-/

namespace Backtrack

/-- On a boundary the end of the input shows in the offset, to a parser, to a look at one code
point, to a step and in what is left. -/
theorem Cursor.Aligned.tfae_atEnd {c : Cursor} (hc : c.Aligned) :
    [c.atEnd = true, Parser.eof.MatchesAt c, c.peek 1 = .ok none, ∃ d, c.nextChar = .ok (none, d),
      c.remaining = .ok []].TFAE := by
  obtain ⟨seen, rest, rfl⟩ := hc.exists_between
  rw [atEnd_between, remaining_between]
  rcases rest with _ | ⟨ch, rest⟩
  · have hpeek : (between seen []).peek 1 = .ok none := by
      rcases peek_cases seen [] 1 with ⟨a, b, hab, ha, -⟩ | ⟨_, _, _, h, -⟩ | ⟨-, h⟩
      · rw [List.nil_eq_append_iff.1 hab |>.1] at ha
        simp at ha
      · omega
      · exact h
    have heof : Parser.eof.MatchesAt (between seen []) := ⟨(), _, [], Parser.eof_nil seen⟩
    simp [heof, hpeek, nextChar_nil]
  · have hpeek : (between seen (ch :: rest)).peek 1 = .ok (some [ch]) :=
      peek_append seen [ch] rest
    have heof : ¬ Parser.eof.MatchesAt (between seen (ch :: rest)) := fun h =>
      h.not_missesAt ⟨_, [], Parser.eof_cons seen ch rest⟩
    simp [heof, hpeek, nextChar_cons]

namespace Parser

variable {α β : Type}

/-- A match that begins on a boundary ends on one. -/
def Lands (p : Parser α) : Prop :=
  ∀ c : Cursor, c.Aligned → ∀ a n log, p c = .ok ⟨.matched a, n, log⟩ → c.text.IsBoundary n

theorem Within.lands {M : Motion} {p : Parser α} (hp : p.Within M) : p.Lands :=
  fun _ hc _ _ _ h => M.isBoundary (hp.allows hc h)

/-- The parser of every description lands. -/
theorem lands_of_description (g : Grammar) (budget : Nat) (e : Expr) :
    (g.parser budget e).Lands :=
  (g.parser_within_anywhere budget budget e).lands

/-! ## Scans -/

section Scans

variable {content : Parser α} {delimiter : Parser β} {c : Cursor}

/-- At the cursor the parsers differ in where they leave it, at most. -/
def LooksAlike (c : Cursor) (q q' : Parser β) : Prop :=
  (fun r => (r.outcome, r.log)) <$> q c = (fun r => (r.outcome, r.log)) <$> q' c

variable {q q' : Parser β} {content : Parser α} {delimiter : Parser β} {c : Cursor}

/-- A loop does not see where its delimiter leaves the cursor. -/
theorem Lands.untilLoop_congr (hp : content.Lands)
    (h : ∀ d : Cursor, d.Aligned → LooksAlike d q q') (start : Nat) :
    ∀ (rounds : Nat) {c : Cursor}, c.Aligned →
      untilLoop content q start rounds c = untilLoop content q' start rounds c
  | 0, _, _ => rfl
  | rounds + 1, c, hc => by
    rcases hcontent : content c with f | ⟨a | _ | e, n, log⟩
    · simp only [untilLoop, hcontent, Run.error_bind]
    · have hd : (c.moveTo n).Aligned := hp c hc a n log hcontent
      have hlook := h _ hd
      have hrest := hp.untilLoop_congr h start rounds hd
      have hhome : (c.moveTo n).home = n := hd.home_eq
      unfold LooksAlike at hlook
      simp only [untilLoop, hcontent, Run.ok_bind, hhome]
      rcases hq : q (c.moveTo n) with f | ⟨b | _ | e, m, log⟩ <;>
        rcases hq' : q' (c.moveTo n) with f' | ⟨b' | _ | e', m', log'⟩ <;>
        rw [hq, hq'] at hlook <;> cases hlook
      · rfl
      · rfl
      · rw [Run.ok_bind, Run.ok_bind, hrest]
      · rfl
    · simp only [untilLoop, hcontent, Run.ok_bind]
    · simp only [untilLoop, hcontent, Run.ok_bind]

theorem Lands.whileNotLoop_congr (hp : content.Lands)
    (h : ∀ d : Cursor, d.Aligned → LooksAlike d q q') (start : Nat) :
    ∀ (rounds : Nat) {c : Cursor}, c.Aligned →
      whileNotLoop content q start rounds c = whileNotLoop content q' start rounds c
  | 0, _, _ => rfl
  | rounds + 1, c, hc => by
    have hlook := h c hc
    unfold LooksAlike at hlook
    simp only [whileNotLoop, hc.home_eq, Cursor.moveTo_pos]
    rcases hq : q c with f | ⟨b | _ | e, m, log⟩ <;>
      rcases hq' : q' c with f' | ⟨b' | _ | e', m', log'⟩ <;>
      rw [hq, hq'] at hlook <;> cases hlook
    · rfl
    · rfl
    · rcases hcontent : content c with f | ⟨a | _ | e, n, log⟩
      · rfl
      · have hd : (c.moveTo n).Aligned := hp c hc a n log hcontent
        simp only [Run.ok_bind, hp.whileNotLoop_congr h start rounds hd]
      · rfl
      · rfl
    · rfl

theorem attempt_congr {p p' : Parser α} (h : p c = p' c) : p.attempt c = p'.attempt c := by
  rw [attempt, attempt, h]

/-- The end of the input or the delimiter, as two alternatives. -/
theorem looksAlike_endOr (container : Container) (hc : c.Aligned) :
    LooksAlike c (endOr delimiter)
      ((any (container.family [eof, delimiter.map fun _ => ()])).map fun _ => ()) := by
  obtain ⟨seen, rest, rfl⟩ := hc.exists_between
  unfold LooksAlike
  rw [map_self, any_family, first, first, first, endOr]
  rcases rest with _ | ⟨ch, rest⟩
  · rw [if_pos (Cursor.atEnd_between.2 rfl), orElse_of_matched _ (eof_nil seen)]
    rfl
  · have hnot : ¬ (Cursor.between seen (ch :: rest)).atEnd = true := fun h =>
      absurd (Cursor.atEnd_between.1 h) (List.cons_ne_nil ch rest)
    rw [if_neg hnot, orElse_of_missed _ (eof_cons seen ch rest), hc.moveTo_home, Reply.after_nil,
      orElse_miss, attempt]
    rcases delimiter.map (fun _ => ()) (.between seen (ch :: rest)) with
      f | ⟨b | _ | e, n, log⟩ <;> rfl

/-- A scan that stops at the end of the input is the one for its delimiter or the end, whatever it
logs and with whatever errors. -/
theorem Lands.scan_stopsAtEnd (hp : content.Lands) (hc : c.Aligned) (container : Container)
    (mode : ScanMode) (rounds : Nat) (delimiter : Parser β) :
    scan ⟨mode, true⟩ rounds content delimiter c
      = scan ⟨mode, false⟩ rounds content
        (any (container.family [eof, delimiter.map fun _ => ()])) c := by
  let stop := (any (container.family [eof, delimiter.map fun _ => ()])).map fun _ => ()
  have hlook : ∀ d : Cursor, d.Aligned → LooksAlike d (endOr delimiter) stop :=
    fun d hd => looksAlike_endOr container hd
  cases mode with
  | afterContent => exact attempt_congr (hp.untilLoop_congr hlook c.pos rounds hc)
  | atOnce => exact attempt_congr (hp.whileNotLoop_congr hlook c.pos rounds hc)

/-- A scan that stops at the end of the input does not run its delimiter there. -/
theorem scan_stopsAtEnd_congr (h : ∀ d : Cursor, d.atEnd = false → q d = q' d) (mode : ScanMode)
    (rounds : Nat) (content : Parser α) :
    scan ⟨mode, true⟩ rounds content q = scan ⟨mode, true⟩ rounds content q' := by
  have hend : endOr q = endOr q' := by
    funext d
    rw [endOr, endOr]
    split_ifs with hd
    · rfl
    · rw [map_eq, map_eq, h d (by simpa using hd)]
  cases mode with
  | afterContent => exact congrArg (scanUntil rounds content) hend
  | atOnce => exact congrArg (scanWhileNot rounds content) hend

end Scans

/-! ## The whole input -/

section Complete

variable {p : Parser α} {c : Cursor} {v : α} {n : Nat}

theorem eof_matchesTo_iff (hc : c.Aligned) :
    eof.MatchesTo c () n ↔ c.atEnd = true ∧ n = c.pos := by
  obtain ⟨seen, rest, rfl⟩ := hc.exists_between
  rw [Cursor.atEnd_between]
  cases rest with
  | nil => simp [MatchesTo, eof_nil, eq_comm]
  | cons ch rest => simp [MatchesTo, eof_cons]

theorem checkEnd_matchesTo_iff {a : α} :
    (checkEnd a).MatchesTo c v n ↔ c.atEnd = true ∧ a = v ∧ c.pos = n := by
  unfold MatchesTo checkEnd
  split_ifs with hend
  · simp [succeed, hend]
  · simp [raise, hend]

theorem complete_matchesTo_iff : p.complete.MatchesTo c v n
    ↔ p.MatchesTo c v n ∧ (c.moveTo n).atEnd = true := by
  rw [complete_eq, attempt_matchesTo_iff, bind_matchesTo_iff]
  simp only [checkEnd_matchesTo_iff, Cursor.pos_moveTo]
  constructor
  · rintro ⟨a, m, hp, hend, rfl, rfl⟩
    exact ⟨hp, hend⟩
  · rintro ⟨hp, hend⟩
    exact ⟨v, n, hp, hend, rfl, rfl⟩

theorem complete_missesAt_iff : p.complete.MissesAt c ↔ p.MissesAt c := by
  have hagrees : AgreesAt c p.complete (p >>= checkEnd) := by
    rw [complete_eq]
    exact agrees_attempt _ c
  constructor
  · intro h
    obtain ⟨m, log, h⟩ := hagrees.missesAt h
    rcases hp : p c with f | ⟨a | _ | e, k, log'⟩
    · cases (bind_of_error _ hp).symm.trans h
    · rw [bind_of_matched _ hp, checkEnd] at h
      split_ifs at h <;> cases h
    · exact ⟨k, log', hp⟩
    · cases (bind_of_failed _ hp).symm.trans h
  · exact fun h => hagrees.symm.missesAt (bind_missesAt_of_missed h)

theorem complete_complete (p : Parser α) : p.complete.complete = p.complete := by
  have hsame : (p.complete >>= checkEnd) = p.complete := by
    funext c
    rcases h : p.complete c with f | ⟨a | _ | e, n, log⟩
    · exact bind_of_error _ h
    · have hend := (complete_matchesTo_iff.1 ⟨log, h⟩).2
      have hlog : log ++ [] = log := List.append_nil log
      rw [bind_of_matched _ h, checkEnd, if_pos hend]
      show Except.ok (⟨.matched a, n, log ++ []⟩ : Reply α) = _
      rw [hlog]
    · exact bind_of_missed _ h
    · exact bind_of_failed _ h
  rw [complete_eq p.complete, hsame, complete_eq, attempt_attempt]

theorem Lands.complete_matchesTo_iff_pair (hp : p.Lands) (hc : c.Aligned) :
    p.complete.MatchesTo c v n ↔ (pair p eof).MatchesTo c (v, ()) n := by
  rw [complete_matchesTo_iff, pair_matchesTo_iff]
  constructor
  · rintro ⟨⟨log, h⟩, hend⟩
    have hd : (c.moveTo n).Aligned := hp c hc v n log h
    exact ⟨n, ⟨log, h⟩, (eof_matchesTo_iff hd).2 ⟨hend, rfl⟩⟩
  · rintro ⟨m, ⟨log, h⟩, heof⟩
    have hd : (c.moveTo m).Aligned := hp c hc v m log h
    obtain ⟨hend, rfl⟩ := (eof_matchesTo_iff hd).1 heof
    exact ⟨⟨log, h⟩, hend⟩

end Complete

/-- On a boundary all tests for the end of the input agree. A scan that stops there is the scan for
its delimiter or the end, and its delimiter does not run there. A parser that must read the whole
input matches as the parser with the end behind it; it reports an error of its own where the parser
stops before the end, and else misses or fails as the parser does, with the cursor put back; and to
ask for it twice makes no difference. -/
theorem Lands.end_of_input {p : Parser α} (hp : p.Lands) {c : Cursor} (hc : c.Aligned) :
    [c.atEnd = true, eof.MatchesAt c, c.peek 1 = .ok none, ∃ d, c.nextChar = .ok (none, d),
      c.remaining = .ok []].TFAE
    ∧ (∀ (q : Parser β) (container : Container) (mode : ScanMode) (rounds : Nat),
        scan ⟨mode, true⟩ rounds p q c
          = scan ⟨mode, false⟩ rounds p (any (container.family [eof, q.map fun _ => ()])) c)
    ∧ (∀ (q q' : Parser β) (mode : ScanMode) (rounds : Nat),
        (∀ d : Cursor, d.atEnd = false → q d = q' d) →
          scan ⟨mode, true⟩ rounds p q = scan ⟨mode, true⟩ rounds p q')
    ∧ (∀ v n, p.complete.MatchesTo c v n ↔ (pair p eof).MatchesTo c (v, ()) n)
    ∧ (∀ x, p.complete.FailsWith c x
        ↔ p.FailsWith c x
          ∨ ∃ v n, p.MatchesTo c v n ∧ n < c.text.byteSize ∧ x = ⟨.expectedEof, n, []⟩)
    ∧ (p.complete.MissesAt c ↔ p.MissesAt c)
    ∧ (∀ r, p.complete c = .ok r → r.outcome.isMatch = false → r.stop = c.pos)
    ∧ p.complete.complete = p.complete :=
  ⟨hc.tfae_atEnd, fun q container mode rounds => hp.scan_stopsAtEnd hc container mode rounds q,
    fun _ _ mode rounds h => scan_stopsAtEnd_congr h mode rounds p,
    fun _ _ => hp.complete_matchesTo_iff_pair hc, fun _ => complete_failsWith_iff,
    complete_missesAt_iff, fun _ hr => (rollsBack_attempt _ c hc).of_eq_ok hr,
    complete_complete p⟩

/-- One code point is read, and what is left is an error or, to a scan, not yet its end. -/
theorem end_of_input_anyChar :
    anyChar.complete.FailsWith (.between ['a'] ['é', 'b']) ⟨.expectedEof, 3, []⟩
    ∧ scan ⟨.atOnce, true⟩ 3 anyChar (literal ['x']) (.between ['a'] ['é', 'b'])
      = scan ⟨.atOnce, false⟩ 3 anyChar
        (any (Container.list.family [eof, (literal ['x']).map fun _ => ()]))
        (.between ['a'] ['é', 'b']) := by
  have hlands : anyChar.Lands := (isToken_anyChar.within (M := .onward)).lands
  have hend := hlands.end_of_input (β := Text) (Cursor.aligned_between ['a'] ['é', 'b'])
  exact ⟨(hend.2.2.2.2.1 _).2 (.inr ⟨'é', 3, ⟨[], rfl⟩, by decide, rfl⟩),
    hend.2.1 (literal ['x']) .list .atOnce 3⟩

end Parser

end Backtrack
