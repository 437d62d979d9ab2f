import Mathlib.Tactic.SplitIfs
import Backtrack.Parser.Scan
import Backtrack.Proofs.Recognition
import Backtrack.Proofs.Rounds

/-!
# Looking for a delimiter before content or behind it

A scan goes round by round: it looks for its delimiter, which leaves the cursor where it is
(`Parser.probe`), and it takes content, which must move the cursor (`Parser.whenMoved`). The two
loops do this in different order and ask at different places whether content has moved the cursor.
Nevertheless the loop that takes content first is content and then the loop that looks first
(`Parser.Onward.agreesAt_scanUntil_bind`): where content reads nothing behind a delimiter that
missed, it does so again, and the delimiter misses again.
-/

namespace Backtrack

namespace Parser

variable {α β γ : Type}

/-! ## Rounds -/

/-- Looks for a delimiter and goes on from where it began, in one way where the delimiter matches
and in another where it misses. -/
def probe (delimiter : Parser β) (found missing : Parser α) : Parser α := fun c => do
  let q ← delimiter c
  match q.outcome with
  | .matched _ => return (← found c).after q.log
  | .missed => return (← missing c).after q.log
  | .failed e => return ⟨.failed e, c.home, q.log⟩

/-- Misses where the cursor still is at `start`. -/
def whenMoved (start : Nat) (p : Parser α) : Parser α := fun c =>
  if c.pos = start then miss c else p c

section Probe

variable {c : Cursor} {delimiter : Parser β} {found found' missing missing' : Parser α}

theorem AgreesAt.symm {p q : Parser α} (h : AgreesAt c p q) : AgreesAt c q p := Eq.symm h

theorem settle_after (home : Nat) (log : List Record) (x : Run (Reply α)) :
    Reply.settle home <$> (do return (← x).after log) = Reply.settle home <$> x := by
  rcases x with f | r <;> rfl

theorem agreesAt_probe_of_matched {b : β} {n : Nat} {log : List Record}
    (h : delimiter c = .ok ⟨.matched b, n, log⟩) :
    AgreesAt c (probe delimiter found missing) found := by
  unfold AgreesAt
  rw [probe, h, Run.ok_bind]
  exact settle_after c.home log _

theorem agreesAt_probe_of_missed {n : Nat} {log : List Record}
    (h : delimiter c = .ok ⟨.missed, n, log⟩) :
    AgreesAt c (probe delimiter found missing) missing := by
  unfold AgreesAt
  rw [probe, h, Run.ok_bind]
  exact settle_after c.home log _

/-- What comes behind a probe matters where the probe lets it run. -/
theorem AgreesAt.probe (hfound : AgreesAt c found found')
    (hmissing : ∀ n log, delimiter c = .ok ⟨.missed, n, log⟩ → AgreesAt c missing missing') :
    AgreesAt c (probe delimiter found missing) (Parser.probe delimiter found' missing') := by
  unfold AgreesAt at hfound ⊢
  unfold Parser.probe
  rcases h : delimiter c with f | ⟨b | _ | e, n, log⟩
  · rfl
  · rw [Run.ok_bind, Run.ok_bind]
    dsimp only
    rw [settle_after, settle_after, hfound]
  · rw [Run.ok_bind, Run.ok_bind]
    dsimp only
    rw [settle_after, settle_after]
    exact hmissing n log h
  · rfl

theorem map_probe (f : α → γ) :
    (probe delimiter found missing).map f = probe delimiter (found.map f) (missing.map f) := by
  funext c
  rw [map_eq, probe, probe, map_eq, map_eq]
  rcases delimiter c with x | ⟨b | _ | e, n, log⟩
  · rfl
  · rcases found c with x | r <;> rfl
  · rcases missing c with x | r <;> rfl
  · rfl

theorem whenMoved_of_eq {p : Parser α} {start : Nat} (h : c.pos = start) :
    whenMoved start p c = miss c := if_pos h

theorem whenMoved_of_ne {p : Parser α} {start : Nat} (h : c.pos ≠ start) :
    whenMoved start p c = p c := if_neg h

theorem agreesAt_whenMoved_of_eq {p : Parser α} {start : Nat} (h : c.pos = start) :
    AgreesAt c (whenMoved start p) miss :=
  congrArg (Reply.settle c.home <$> ·) (whenMoved_of_eq h)

theorem agreesAt_whenMoved_of_ne {p : Parser α} {start : Nat} (h : c.pos ≠ start) :
    AgreesAt c (whenMoved start p) p :=
  congrArg (Reply.settle c.home <$> ·) (whenMoved_of_ne h)

theorem AgreesAt.whenMoved {p q : Parser α} {start : Nat} (h : AgreesAt c p q) :
    AgreesAt c (whenMoved start p) (Parser.whenMoved start q) := by
  by_cases hstay : c.pos = start
  · exact (agreesAt_whenMoved_of_eq hstay).trans (agreesAt_whenMoved_of_eq hstay).symm
  · exact (agreesAt_whenMoved_of_ne hstay).trans (h.trans (agreesAt_whenMoved_of_ne hstay).symm)

/-- A parser in a row that has to move the cursor and does not. -/
theorem agreesAt_miss_of_stall {p : Parser β} {next : β → Parser α} {b : β} {log : List Record}
    (h : p c = .ok ⟨.matched b, c.pos, log⟩) :
    AgreesAt c (p >>= fun b => whenMoved c.pos (next b)) miss := by
  unfold AgreesAt
  rw [bind_of_matched _ h, Cursor.moveTo_pos, whenMoved_of_eq rfl]
  rfl

end Probe

/-- A match that begins on a boundary ends on one that is not before it. -/
def Onward (p : Parser α) : Prop :=
  ∀ c : Cursor, c.Aligned → ∀ a n log, p c = .ok ⟨.matched a, n, log⟩ →
    c.text.IsBoundary n ∧ c.pos ≤ n

theorem Steady.onward {p : Parser α} (hp : p.Steady) : p.Onward := by
  intro c hc a n log h
  obtain ⟨r, hr, hb, hle⟩ := hp c hc
  cases hr.symm.trans h
  exact ⟨hb, hle rfl⟩

section Loops

variable {content : Parser α} {delimiter : Parser β} {c : Cursor}

/-- A round of the loop that looks first. -/
theorem agreesAt_whileNotLoop_succ (hc : c.Aligned) (start rounds : Nat) :
    AgreesAt c (whileNotLoop content delimiter start (rounds + 1))
      (probe delimiter (succeed []) (content >>= fun a =>
        whenMoved c.pos ((whileNotLoop content delimiter start rounds).map (a :: ·)))) := by
  unfold AgreesAt whileNotLoop probe
  rcases delimiter c with f | ⟨b | _ | e, m, log⟩
  · rfl
  · exact congrArg (fun n => (.ok ⟨.matched [], n, []⟩ : Run (Reply (List α)))) hc.home_eq
  · rw [Run.ok_bind, Run.ok_bind]
    dsimp only
    rw [hc.moveTo_home, settle_after]
    rcases hcontent : content c with f | ⟨a | _ | e, n, log'⟩
    · rw [bind_of_error _ hcontent]
      rfl
    · rw [bind_of_matched _ hcontent, Run.ok_bind]
      dsimp only
      split_ifs with hn
      · rw [whenMoved_of_eq (c := c.moveTo n) hn]
        rfl
      · rw [whenMoved_of_ne (c := c.moveTo n) hn, map_eq]
        rcases whileNotLoop content delimiter start rounds (c.moveTo n) with f | r <;> rfl
    · rw [bind_of_missed _ hcontent]
      rfl
    · rw [bind_of_failed _ hcontent]
      rfl
  · rfl

/-- A round of the loop that takes content first. -/
theorem Onward.agreesAt_untilLoop_succ (hp : content.Onward) (hc : c.Aligned) (start rounds : Nat) :
    AgreesAt c (untilLoop content delimiter start (rounds + 1))
      (content >>= fun a => probe delimiter (succeed [a])
        (whenMoved c.pos ((untilLoop content delimiter start rounds).map (a :: ·)))) := by
  unfold AgreesAt untilLoop
  rcases hcontent : content c with f | ⟨a | _ | e, n, log⟩
  · rw [bind_of_error _ hcontent]
    rfl
  · have hn : (c.moveTo n).home = n :=
      Text.floor_of_isBoundary (hp c hc a n log hcontent).1
    rw [bind_of_matched _ hcontent, Run.ok_bind, probe]
    dsimp only
    rw [hn]
    rcases delimiter (c.moveTo n) with f | ⟨b | _ | e, m, log'⟩
    · rfl
    · rfl
    · rw [Run.ok_bind, Run.ok_bind]
      dsimp only
      split_ifs with hstay
      · rw [whenMoved_of_eq (c := c.moveTo n) hstay]
        rfl
      · rw [whenMoved_of_ne (c := c.moveTo n) hstay, map_eq]
        rcases untilLoop content delimiter start rounds (c.moveTo n) with f | r <;> rfl
    · rfl
  · rw [bind_of_missed _ hcontent]
    rfl
  · rw [bind_of_failed _ hcontent]
    rfl

variable {start start' rounds : Nat}

/-- Where a scan began matters for what it logs only. -/
theorem Onward.agreesAt_whileNotLoop (hp : content.Onward) : ∀ rounds {c : Cursor}, c.Aligned →
    AgreesAt c (whileNotLoop content delimiter start rounds)
      (whileNotLoop content delimiter start' rounds)
  | 0, c, _ => .refl c _
  | rounds + 1, c, hc => by
    refine (agreesAt_whileNotLoop_succ hc start rounds).trans (AgreesAt.trans ?_
      (agreesAt_whileNotLoop_succ hc start' rounds).symm)
    refine AgreesAt.probe (.refl c _) fun _ _ _ => .bind (.refl c content) ?_
    intro a n log hcontent
    have hd : (c.moveTo n).Aligned := (hp c hc a n log hcontent).1
    exact .whenMoved ((hp.agreesAt_whileNotLoop rounds hd).map _)

theorem Onward.agreesAt_untilLoop (hp : content.Onward) : ∀ rounds {c : Cursor}, c.Aligned →
    AgreesAt c (untilLoop content delimiter start rounds)
      (untilLoop content delimiter start' rounds)
  | 0, c, _ => .refl c _
  | rounds + 1, c, hc => by
    refine (hp.agreesAt_untilLoop_succ hc start rounds).trans (AgreesAt.trans ?_
      (hp.agreesAt_untilLoop_succ hc start' rounds).symm)
    refine .bind (.refl c content) fun a n log hcontent => ?_
    refine AgreesAt.probe (.refl _ _) fun _ _ _ => ?_
    have hd : (c.moveTo n).Aligned := (hp c hc a n log hcontent).1
    exact .whenMoved ((hp.agreesAt_untilLoop rounds hd).map _)

end Loops

/-! ## Scans -/

section Scans

variable {content : Parser α} {delimiter : Parser β} {c : Cursor}

/-- A scan that looks first is a look and then, unless the delimiter is there, content and the rest
of the scan. -/
theorem Onward.agreesAt_scanWhileNot (hp : content.Onward) (hc : c.Aligned) (rounds : Nat) :
    AgreesAt c (scanWhileNot (rounds + 1) content delimiter)
      (probe delimiter (succeed []) (content >>= fun a =>
        whenMoved c.pos ((scanWhileNot rounds content delimiter).map (a :: ·)))) := by
  refine AgreesAt.trans (agrees_attempt _ c) ?_
  refine AgreesAt.trans (agreesAt_whileNotLoop_succ hc c.pos rounds) ?_
  refine AgreesAt.probe (.refl c _) fun _ _ _ => .bind (.refl c content) ?_
  intro a n log hcontent
  have hd : (c.moveTo n).Aligned := (hp c hc a n log hcontent).1
  have hloop : AgreesAt (c.moveTo n) (whileNotLoop content delimiter c.pos rounds)
      (whileNotLoop content delimiter n rounds) := hp.agreesAt_whileNotLoop rounds hd
  exact .whenMoved (AgreesAt.map (hloop.trans (AgreesAt.symm (agrees_attempt _ (c.moveTo n)))) _)

/-- A scan that takes content first is content, a look, and then, unless the delimiter is there, the
rest of the scan. -/
theorem Onward.agreesAt_scanUntil (hp : content.Onward) (hc : c.Aligned) (rounds : Nat) :
    AgreesAt c (scanUntil (rounds + 1) content delimiter)
      (content >>= fun a => probe delimiter (succeed [a])
        (whenMoved c.pos ((scanUntil rounds content delimiter).map (a :: ·)))) := by
  refine AgreesAt.trans (agrees_attempt _ c) ?_
  refine AgreesAt.trans (hp.agreesAt_untilLoop_succ hc c.pos rounds) ?_
  refine .bind (.refl c content) fun a n log hcontent => ?_
  refine AgreesAt.probe (.refl _ _) fun _ _ _ => ?_
  have hd : (c.moveTo n).Aligned := (hp c hc a n log hcontent).1
  have hloop : AgreesAt (c.moveTo n) (untilLoop content delimiter c.pos rounds)
      (untilLoop content delimiter n rounds) := hp.agreesAt_untilLoop rounds hd
  exact .whenMoved (AgreesAt.map (hloop.trans (AgreesAt.symm (agrees_attempt _ (c.moveTo n)))) _)

/-- Behind a delimiter that missed and content that read nothing, the next round misses as well. -/
theorem Onward.agreesAt_whenMoved (hp : content.Onward) (hc : c.Aligned) {m : Nat}
    {log : List Record} (hq : delimiter c = .ok ⟨.missed, m, log⟩) (rounds : Nat) :
    AgreesAt c
      (content >>= fun a =>
        whenMoved c.pos ((scanWhileNot (rounds + 1) content delimiter).map (a :: ·)))
      (content >>= fun a => (scanWhileNot (rounds + 1) content delimiter).map (a :: ·)) := by
  refine AgreesAt.bind (.refl c content) fun a n log' hcontent => ?_
  by_cases hn : n = c.pos
  · subst hn
    have hround : AgreesAt c (scanWhileNot (rounds + 1) content delimiter) miss :=
      ((hp.agreesAt_scanWhileNot hc rounds).trans (agreesAt_probe_of_missed hq)).trans
        (agreesAt_miss_of_stall hcontent)
    exact (agreesAt_whenMoved_of_eq rfl).trans (hround.map (a :: ·)).symm
  · exact agreesAt_whenMoved_of_ne hn

/-- A scan that takes content first is content and then a scan that looks first. Behind content that
reads nothing both miss, since it would read nothing again. -/
theorem Onward.agreesAt_scanUntil_bind (hp : content.Onward) :
    ∀ rounds rounds' seen rest, rest.length < rounds → rest.length < rounds' →
      AgreesAt (.between seen rest) (scanUntil rounds content delimiter)
        (content >>= fun a => (scanWhileNot rounds' content delimiter).map (a :: ·)) := by
  intro rounds
  induction rounds with
  | zero => exact fun _ _ _ hr _ => absurd hr (Nat.not_lt_zero _)
  | succ rounds ih =>
    intro rounds' seen rest hr hr'
    obtain ⟨more, rfl⟩ : ∃ k, rounds' = k + 1 := ⟨rounds' - 1, by omega⟩
    have hc := Cursor.aligned_between seen rest
    refine (hp.agreesAt_scanUntil hc rounds).trans (.bind (.refl _ content) ?_)
    intro a n log hcontent
    obtain ⟨hb, hle⟩ := hp _ hc a n log hcontent
    obtain ⟨x, b, -, -, hless, hmove⟩ := exists_moveTo rfl hb hle
    have hd : (Cursor.moveTo (.between seen rest) n).Aligned := hb
    refine AgreesAt.trans ?_ ((hp.agreesAt_scanWhileNot hd more).map (a :: ·)).symm
    rw [map_probe]
    refine AgreesAt.probe (.refl _ _) fun m log' hq => ?_
    by_cases hstay : n = (Cursor.between seen rest).pos
    · subst hstay
      exact (agreesAt_whenMoved_of_eq rfl).trans
        ((agreesAt_miss_of_stall hcontent).map (a :: ·)).symm
    · have hlen := hless hstay
      obtain ⟨more, rfl⟩ : ∃ k, more = k + 1 := ⟨more - 1, by omega⟩
      refine (agreesAt_whenMoved_of_ne hstay).trans ?_
      rw [hmove] at hq ⊢
      have hb := Cursor.aligned_between (seen ++ x) b
      have hrest := ih (more + 1) (seen ++ x) b (by omega) (by omega)
      exact (hrest.trans (hp.agreesAt_whenMoved hb hq more).symm).map (a :: ·)

/-- What a scan looks for: its delimiter and, if the end of the input ends the scan, that end. -/
def lookout (stopsAtEnd : Bool) (delimiter : Parser β) : Parser Unit :=
  if stopsAtEnd then endOr delimiter else delimiter.map fun _ => ()

end Scans

section Order

variable {content : Parser α} {delimiter : Parser β}

theorem Onward.agreesAt_scan_afterContent (hp : content.Onward) (delimiter : Parser β)
    (stopsAtEnd : Bool) (seen : Text) {rest : Text} {rounds : Nat} (hr : rest.length < rounds) :
    AgreesAt (.between seen rest) (scan ⟨.afterContent, stopsAtEnd⟩ rounds content delimiter)
      (content >>= fun a =>
        (scan ⟨.atOnce, stopsAtEnd⟩ rounds content delimiter).map (a :: ·)) :=
  hp.agreesAt_scanUntil_bind rounds rounds seen rest hr hr

theorem Onward.quiet_scan_afterContent (hp : content.Onward) (stopsAtEnd : Bool)
    {seen rest : Text} {rounds : Nat} (hr : rest.length < rounds) :
    (scan ⟨.afterContent, stopsAtEnd⟩ rounds content delimiter).quiet (.between seen rest)
      = ((pair content (scan ⟨.atOnce, stopsAtEnd⟩ rounds content delimiter)).map
          fun v => v.1 :: v.2).quiet (.between seen rest) := by
  have hscan : (scan ⟨.afterContent, stopsAtEnd⟩ rounds content delimiter).attempt
      = scan ⟨.afterContent, stopsAtEnd⟩ rounds content delimiter := attempt_attempt _
  rw [map_pair, ← (hp.agreesAt_scan_afterContent delimiter stopsAtEnd seen hr).quiet_attempt, hscan]

theorem quiet_scanText_afterContent (stopsAtEnd : Bool) {seen rest : Text} {rounds : Nat}
    (hr : rest.length < rounds) :
    (scanText ⟨.afterContent, stopsAtEnd⟩ rounds delimiter).quiet (.between seen rest)
      = (recognize (pair anyChar (scanText ⟨.atOnce, stopsAtEnd⟩ rounds delimiter))).quiet
          (.between seen rest) := by
  have hvalues : ((anyChar >>= fun a =>
        (scan ⟨.atOnce, stopsAtEnd⟩ rounds anyChar delimiter).map (a :: ·)).map fun _ => ())
      = (anyChar >>= fun _ => scan ⟨.atOnce, stopsAtEnd⟩ rounds anyChar delimiter).map
          fun _ => () := by
    simp only [← bind_succeed, bind_bracket, succeed_bind]
  have hchar : anyChar.Onward := isToken_anyChar.steady.onward
  have hrow := hchar.agreesAt_scan_afterContent delimiter stopsAtEnd seen hr
  have htext := (hrow.map fun _ => ()).quiet_recognize
  rw [hvalues, recognize_map, recognize_map] at htext
  rw [scanText, scanText, quiet_recognize_pair, htext]

/-- A scan that takes content before it looks for its delimiter is content followed by a scan that
looks first: both return, with the same items, text or error and at the same place. -/
theorem Steady.scan_after_content (hp : content.Steady) (hq : delimiter.Steady)
    (stopsAtEnd : Bool) (seen rest : Text) (rounds : Nat) (hr : rest.length < rounds) :
    (∃ r, (scan ⟨.afterContent, stopsAtEnd⟩ rounds content delimiter).quiet (.between seen rest)
        = .ok r
      ∧ ((pair content (scan ⟨.atOnce, stopsAtEnd⟩ rounds content delimiter)).map
          fun v => v.1 :: v.2).quiet (.between seen rest) = .ok r)
    ∧ ∃ r, (scanText ⟨.afterContent, stopsAtEnd⟩ rounds delimiter).quiet (.between seen rest)
        = .ok r
      ∧ (recognize (pair anyChar (scanText ⟨.atOnce, stopsAtEnd⟩ rounds delimiter))).quiet
          (.between seen rest) = .ok r := by
  rw [← hp.onward.quiet_scan_afterContent stopsAtEnd hr,
    ← quiet_scanText_afterContent stopsAtEnd hr]
  have hchar : anyChar.Steady := isToken_anyChar.steady
  obtain ⟨r, _, -, hscan⟩ := hp.scan_returns hq ⟨.afterContent, stopsAtEnd⟩ seen rest
  obtain ⟨s, _, -, hchars⟩ := hchar.scan_returns hq ⟨.afterContent, stopsAtEnd⟩ seen rest
  obtain ⟨t, htext⟩ := exists_recognize_eq_ok (hchars rounds hr).1
  exact ⟨⟨r.quiet, quiet_eq_ok (hscan rounds hr).1, quiet_eq_ok (hscan rounds hr).1⟩,
    t.quiet, quiet_eq_ok htext, quiet_eq_ok htext⟩

/-- Letters up to a `c`, where each letter may be absent: the delimiter comes before the first
absent one. -/
theorem scan_after_content_optional : (char 'b').optional.Steady ∧ (char 'c').Steady
    ∧ (scan ⟨.afterContent, false⟩ 4 (char 'b').optional (char 'c')).quiet
        (.between ['é'] ['b', 'b', 'c']) = .ok ⟨.matched [.present 'b', .present 'b'], 4, []⟩
    ∧ ((pair (char 'b').optional (scan ⟨.atOnce, false⟩ 4 (char 'b').optional (char 'c'))).map
        fun v => v.1 :: v.2).quiet (.between ['é'] ['b', 'b', 'c'])
      = .ok ⟨.matched [.present 'b', .present 'b'], 4, []⟩ := by
  have hp : (char 'b').optional.Steady := (isToken_charWhere _).steady.optional
  have hq : (char 'c').Steady := (isToken_charWhere _).steady
  have hreply : (scan ⟨.afterContent, false⟩ 4 (char 'b').optional (char 'c')).quiet
      (.between ['é'] ['b', 'b', 'c']) = .ok ⟨.matched [.present 'b', .present 'b'], 4, []⟩ := rfl
  obtain ⟨⟨r, hr, hr'⟩, -⟩ := hp.scan_after_content hq false ['é'] ['b', 'b', 'c'] 4 (by decide)
  cases hreply.symm.trans hr
  exact ⟨hp, hq, hr, hr'⟩

end Order

end Parser

end Backtrack
