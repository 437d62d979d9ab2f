import Backtrack.Proofs.Delimiter
import Backtrack.Proofs.Nesting
import Backtrack.Proofs.OrderedChoice

/-!
# Where an error comes from

A combinator reports the error of a parser that it runs, or one of its own, so each one comes with
the places where it runs its parts: in a row behind the matches of those before
(`Parser.exists_of_each_failsWith`), among alternatives behind the misses of those before
(`Parser.exists_of_first_failsWith`), in a loop along its walk
(`Parser.Onward.exists_tries_of_failsWith`, `Parser.Onward.scan_failsWith`). Only a conversion and
the check for the end of the input add errors (`Parser.tryMap_failsWith_iff`,
`Parser.complete_failsWith_iff`).
-/

namespace Backtrack

/-- From the first cursor the second one is further on in the same text, or there, on a boundary. -/
structure Cursor.Reaches (c d : Cursor) : Prop where
  text_eq : d.text = c.text
  aligned : d.Aligned
  le : c.pos ≤ d.pos

theorem Cursor.Reaches.refl {c : Cursor} (hc : c.Aligned) : c.Reaches c := ⟨rfl, hc, Nat.le_refl _⟩

theorem Cursor.Reaches.trans {c d d' : Cursor} (h : c.Reaches d) (h' : d.Reaches d') :
    c.Reaches d' :=
  ⟨h'.text_eq.trans h.text_eq, h'.aligned, Nat.le_trans h.le h'.le⟩

namespace Parser

variable {α β : Type}

/-- The parser reports this error at the cursor. -/
def FailsWith (p : Parser α) (c : Cursor) (x : ParseError) : Prop :=
  ∃ n log, p c = .ok ⟨.failed x, n, log⟩

/-- The parser reports no error. -/
def NeverFails (p : Parser α) : Prop := ∀ c x, ¬ p.FailsWith c x

section Single

variable {p q : Parser α} {c : Cursor} {x : ParseError}

theorem failsWith_iff_of_eq_ok {r : Reply α} (h : p c = .ok r) :
    p.FailsWith c x ↔ r.outcome = .failed x := by
  obtain ⟨o, m, log⟩ := r
  simp [FailsWith, h]

/-- A fault is no error. -/
theorem not_failsWith_of_eq_error {f : Fault} (h : p c = .error f) : ¬ p.FailsWith c x := by
  rintro ⟨n, log, hx⟩
  cases h.symm.trans hx

theorem AgreesAt.failsWith (h : AgreesAt c p q) (hp : p.FailsWith c x) : q.FailsWith c x := by
  obtain ⟨n, log, hp⟩ := hp
  unfold AgreesAt at h
  rcases hq : q c with f | ⟨b | _ | y, m, log'⟩ <;> rw [hp, hq] at h <;> cases h
  exact ⟨m, log', hq⟩

theorem AgreesAt.failsWith_iff (h : AgreesAt c p q) : p.FailsWith c x ↔ q.FailsWith c x :=
  ⟨h.failsWith, h.symm.failsWith⟩

theorem raise_failsWith_iff {y : ParseError} : (raise y : Parser α).FailsWith c x ↔ x = y := by
  simp [FailsWith, raise, eq_comm]

theorem neverFails_succeed (a : α) : (succeed a).NeverFails := by
  rintro c x ⟨n, log, h⟩
  cases h

theorem neverFails_miss : (miss : Parser α).NeverFails := by
  rintro c x ⟨n, log, h⟩
  cases h

theorem neverFails_textSince (start : Nat) : (textSince start).NeverFails := by
  rintro c x ⟨n, log, h⟩
  obtain ⟨t, ht⟩ := c.exists_slice_eq_ok start c.pos
  rw [textSince, ht] at h
  cases h

theorem bind_failsWith_iff {next : α → Parser β} : (p >>= next).FailsWith c x
    ↔ p.FailsWith c x ∨ ∃ a m, p.MatchesTo c a m ∧ (next a).FailsWith (c.moveTo m) x := by
  constructor
  · rintro ⟨n, log, h⟩
    rcases hp : p c with f | ⟨a | _ | y, m, log'⟩
    · cases (bind_of_error next hp).symm.trans h
    · rw [bind_of_matched next hp] at h
      refine .inr ⟨a, m, ⟨log', hp⟩, ?_⟩
      rcases hn : next a (c.moveTo m) with f | ⟨b | _ | y, k, log''⟩ <;> rw [hn] at h <;> cases h
      exact ⟨k, log'', hn⟩
    · cases (bind_of_missed next hp).symm.trans h
    · cases (bind_of_failed next hp).symm.trans h
      exact .inl ⟨_, _, hp⟩
  · rintro (⟨n, log, hp⟩ | ⟨a, m, ⟨log, hp⟩, ⟨k, log', hn⟩⟩)
    · exact ⟨n, log, bind_of_failed next hp⟩
    · exact ⟨k, log ++ log', by rw [bind_of_matched next hp, hn]; rfl⟩

theorem map_failsWith_iff {f : α → β} : (p.map f).FailsWith c x ↔ p.FailsWith c x := by
  rw [← bind_succeed, bind_failsWith_iff]
  simp only [neverFails_succeed _ _ _, and_false, exists_false, or_false]

theorem attempt_failsWith_iff : p.attempt.FailsWith c x ↔ p.FailsWith c x :=
  AgreesAt.failsWith_iff (agrees_attempt p c)

theorem noting_failsWith_iff {onMiss onError : Nat → Record} :
    (p.noting onMiss onError).FailsWith c x ↔ p.FailsWith c x := by
  unfold FailsWith noting
  rcases p c with f | ⟨a | _ | y, n, log⟩ <;> simp [Bind.bind, Except.bind, pure, Except.pure]

theorem position_bind (next : Nat → Parser α) (c : Cursor) :
    (position >>= next) c = next c.pos c := by
  have hposition : position c = .ok ⟨.matched c.pos, c.pos, []⟩ := rfl
  rw [bind_of_matched next hposition, Cursor.moveTo_pos, Reply.after_nil]

theorem position_bind_failsWith_iff {next : Nat → Parser α} :
    (position >>= next).FailsWith c x ↔ (next c.pos).FailsWith c x := by
  unfold FailsWith
  rw [position_bind]

theorem mapError_failsWith_iff {f : ParseError → ParseError} :
    (p.mapError f).FailsWith c x ↔ ∃ y, p.FailsWith c y ∧ f y = x := by
  unfold FailsWith mapError
  rcases p c with g | ⟨a | _ | y, n, log⟩ <;> simp [Bind.bind, Except.bind, pure, Except.pure]

theorem optional_failsWith_iff : p.optional.FailsWith c x ↔ p.FailsWith c x := by
  unfold FailsWith optional
  rcases p c with f | ⟨a | _ | y, n, log⟩ <;> simp [Bind.bind, Except.bind, pure, Except.pure]

theorem peek_failsWith_iff : p.peek.FailsWith c x ↔ p.FailsWith c x := by
  unfold FailsWith peek
  rcases p c with f | ⟨a | _ | y, n, log⟩ <;> simp [Bind.bind, Except.bind, pure, Except.pure]

theorem not_failsWith_iff : p.not.FailsWith c x ↔ p.FailsWith c x := by
  unfold FailsWith not
  rcases p c with f | ⟨a | _ | y, n, log⟩ <;> simp [Bind.bind, Except.bind, pure, Except.pure]

theorem recognize_failsWith_iff : p.recognize.FailsWith c x ↔ p.FailsWith c x := by
  unfold recognize
  rw [attempt_failsWith_iff, position_bind_failsWith_iff, bind_failsWith_iff]
  simp only [neverFails_textSince _ _ _, and_false, exists_false, or_false]

theorem spanned_failsWith_iff : p.spanned.FailsWith c x ↔ p.FailsWith c x := by
  have hlast : ∀ (start : Nat) (a : α),
      (textSince start >>= fun t => succeed (a, t)).NeverFails := by
    intro start a d y h
    rcases bind_failsWith_iff.1 h with h | ⟨t, n, -, h⟩
    · exact neverFails_textSince start d y h
    · exact neverFails_succeed (a, t) _ y h
  unfold spanned
  rw [attempt_failsWith_iff, position_bind_failsWith_iff, bind_failsWith_iff]
  simp only [pure_eq_succeed, hlast _ _ _ _, and_false, exists_false, or_false]

theorem verify_failsWith_iff {test : α → Bool} :
    (p.verify test).FailsWith c x ↔ p.FailsWith c x := by
  have hlast : ∀ a, (if test a then pure a else miss : Parser α).NeverFails := by
    intro a
    split_ifs
    · exact neverFails_succeed a
    · exact neverFails_miss
  unfold verify
  rw [attempt_failsWith_iff, bind_failsWith_iff]
  simp only [hlast _ _ _, and_false, exists_false, or_false]

section Conversion

variable {f : α → Except ErrorSeed β} {n : Nat} {log : List Record}

theorem tryMap_of_missed (h : p c = .ok ⟨.missed, n, log⟩) :
    p.tryMap f c = .ok ⟨.missed, c.home, log⟩ := by
  rw [tryMap, attempt, position_bind, bind_of_missed _ h]
  rfl

theorem tryMap_of_converted {a : α} {b : β} (h : p c = .ok ⟨.matched a, n, log⟩)
    (hf : f a = .ok b) : p.tryMap f c = .ok ⟨.matched b, n, log⟩ := by
  rw [tryMap, attempt, position_bind, bind_of_matched _ h, hf]
  show Except.ok (⟨.matched b, n, log ++ []⟩ : Reply β) = _
  rw [List.append_nil]

theorem tryMap_of_refused {a : α} {seed : ErrorSeed} (h : p c = .ok ⟨.matched a, n, log⟩)
    (hf : f a = .error seed) : p.tryMap f c
      = .ok ⟨.failed (seed.toError c.pos), c.home, log ++ [.conversionError c.pos]⟩ := by
  rw [tryMap, attempt, position_bind, bind_of_matched _ h, hf]
  rfl

end Conversion

/-- A conversion adds its own errors, where the converted parser began. -/
theorem tryMap_failsWith_iff {f : α → Except ErrorSeed β} : (p.tryMap f).FailsWith c x
    ↔ p.FailsWith c x
      ∨ ∃ a n seed, p.MatchesTo c a n ∧ f a = .error seed ∧ x = seed.toError c.pos := by
  unfold tryMap
  rw [attempt_failsWith_iff, position_bind_failsWith_iff, bind_failsWith_iff]
  refine or_congr_right (exists_congr fun a => exists_congr fun n => ?_)
  rcases f a with seed | b
  · have hnote : (note (.conversionError c.pos)).MatchesTo (c.moveTo n) () n := ⟨_, rfl⟩
    constructor
    · rintro ⟨hp, h⟩
      rcases bind_failsWith_iff.1 h with ⟨m, log, hfail⟩ | ⟨u, m, -, hraise⟩
      · cases hfail
      · exact ⟨seed, hp, rfl, raise_failsWith_iff.1 hraise⟩
    · rintro ⟨seed', hp, hseed, rfl⟩
      cases hseed
      exact ⟨hp, bind_failsWith_iff.2 (.inr ⟨(), n, hnote, raise_failsWith_iff.2 rfl⟩)⟩
  · constructor
    · rintro ⟨-, h⟩
      exact absurd h (neverFails_succeed b _ x)
    · rintro ⟨seed, -, hseed, -⟩
      cases hseed

/-- Matches with a value at the end of the input; before it, what is left is an error. -/
def checkEnd (a : α) : Parser α := fun c =>
  if c.atEnd then succeed a c else raise ⟨.expectedEof, c.pos, []⟩ c

theorem complete_eq (p : Parser α) : p.complete = (p >>= checkEnd).attempt := by
  refine congrArg attempt (congrArg (p >>= ·) (funext fun a => funext fun c => ?_))
  have hend : isAtEnd c = .ok ⟨.matched c.atEnd, c.pos, []⟩ := rfl
  rw [bind_of_matched _ hend, Cursor.moveTo_pos, Reply.after_nil, checkEnd]
  split_ifs
  · rfl
  · exact position_bind _ c

theorem checkEnd_failsWith_iff {a : α} : (checkEnd a).FailsWith c x
    ↔ c.pos < c.text.byteSize ∧ x = ⟨.expectedEof, c.pos, []⟩ := by
  have hend : c.atEnd = true ↔ ¬ c.pos < c.text.byteSize := by simp [Cursor.atEnd]
  unfold FailsWith checkEnd
  split_ifs with h
  · exact iff_of_false (neverFails_succeed a c x) fun hx => hend.1 h hx.1
  · rw [and_iff_right (not_not.1 fun hlt => h (hend.2 hlt))]
    exact raise_failsWith_iff

/-- The check for the end of the input adds its own error, where the checked parser stopped. -/
theorem complete_failsWith_iff : p.complete.FailsWith c x
    ↔ p.FailsWith c x
      ∨ ∃ a n, p.MatchesTo c a n ∧ n < c.text.byteSize ∧ x = ⟨.expectedEof, n, []⟩ := by
  rw [complete_eq, attempt_failsWith_iff, bind_failsWith_iff]
  simp only [checkEnd_failsWith_iff, Cursor.pos_moveTo, Cursor.text_moveTo]

end Single

/-! ## Rows and alternatives -/

section Many

variable {p : Parser α} {q : Parser β} {c : Cursor} {x : ParseError}

theorem pair_failsWith_iff : (pair p q).FailsWith c x
    ↔ p.FailsWith c x ∨ ∃ a n, p.MatchesTo c a n ∧ q.FailsWith (c.moveTo n) x := by
  rw [pair_eq, attempt_failsWith_iff, bind_failsWith_iff]
  simp only [map_failsWith_iff]

/-- The parser of a row that reports the error runs behind the matches of those before it. -/
theorem exists_of_each_failsWith : ∀ {ps : List (Parser α)} {c : Cursor},
    (each ps).FailsWith c x → ∃ before p behind as n, ps = before ++ p :: behind
      ∧ (each before).MatchesTo c as n ∧ p.FailsWith (c.moveTo n) x
  | [], c, h => absurd h (neverFails_succeed [] c x)
  | p :: ps, c, h => by
    rw [each_cons] at h
    rcases bind_failsWith_iff.1 h with hp | ⟨a, m, hp, hrest⟩
    · refine ⟨[], p, ps, [], c.pos, rfl, succeed_matchesTo_iff.2 ⟨rfl, rfl⟩, ?_⟩
      rwa [Cursor.moveTo_pos]
    · obtain ⟨before, q, behind, as, n, rfl, hbefore, hq⟩ :=
        exists_of_each_failsWith (map_failsWith_iff.1 hrest)
      refine ⟨p :: before, q, behind, a :: as, n, rfl, ?_, hq⟩
      rw [each_cons]
      exact bind_matchesTo_iff.2 ⟨a, m, hp, map_matchesTo_iff.2 ⟨as, rfl, hbefore⟩⟩

theorem each_of_pair_failsWith {q : Parser α} (h : (pair p q).FailsWith c x) :
    (each [p, q]).FailsWith c x := by
  simp only [each_cons, bind_failsWith_iff, map_failsWith_iff]
  rcases pair_failsWith_iff.1 h with hp | ⟨a, n, hp, hq⟩
  · exact .inl hp
  · exact .inr ⟨a, n, hp, .inl hq⟩

theorem each_of_chain_failsWith {ps : List (Parser α)} (h : (chain p ps).FailsWith c x) :
    (each (p :: ps)).FailsWith c x := by
  unfold chain at h
  split_ifs at h
  · rw [treeSeq_eq] at h
    have hagrees := agrees_pairs (.balanced p ps) c
    rw [PairTree.toList_balanced] at hagrees
    exact AgreesAt.failsWith hagrees h
  · exact attempt_failsWith_iff.1 (noting_failsWith_iff.1 h)

theorem orElse_failsWith_iff {q : Parser α} (hc : c.Aligned) : (orElse p q).FailsWith c x
    ↔ p.FailsWith c x ∨ p.MissesAt c ∧ q.FailsWith c x := by
  rcases hp : p c with f | ⟨a | _ | y, n, log⟩
  · simp [FailsWith, MissesAt, orElse_of_error q hp, hp]
  · simp [FailsWith, MissesAt, orElse_of_matched q hp, hp]
  · have hrun := orElse_of_missed q hp
    rw [hc.moveTo_home] at hrun
    unfold FailsWith MissesAt
    rw [hrun]
    rcases q c with f | ⟨a | _ | y, m, log'⟩ <;> simp [hp, Reply.after]
  · simp [FailsWith, MissesAt, orElse_of_failed q hp, hp]

/-- The alternative that reports the error is run where those before it missed. -/
theorem exists_of_first_failsWith (hc : c.Aligned) : ∀ {ps : List (Parser α)},
    (first ps).FailsWith c x → ∃ before p behind, ps = before ++ p :: behind
      ∧ (∀ q ∈ before, q.MissesAt c) ∧ p.FailsWith c x
  | [], h => absurd h (neverFails_miss c x)
  | p :: ps, h => by
    rcases (orElse_failsWith_iff hc).1 h with hp | ⟨hmiss, hrest⟩
    · exact ⟨[], p, ps, rfl, by simp, hp⟩
    · obtain ⟨before, q, behind, rfl, hbefore, hq⟩ := exists_of_first_failsWith hc hrest
      exact ⟨p :: before, q, behind, rfl, List.forall_mem_cons.2 ⟨hmiss, hbefore⟩, hq⟩

theorem first_of_choice_failsWith (hc : c.Aligned) {ps : List (Parser α)}
    (h : (choice p ps).FailsWith c x) : (first (p :: ps)).FailsWith c x := by
  cases ps with
  | nil => exact (orElse_failsWith_iff hc).2 (.inl h)
  | cons q ps => rwa [choice_eq_first] at h

theorem or_failsWith_iff (hc : c.Aligned) : (or p q).FailsWith c x
    ↔ p.FailsWith c x ∨ p.MissesAt c ∧ q.FailsWith c x := by
  rw [or, orElse_failsWith_iff hc, attempt_failsWith_iff, map_failsWith_iff, map_failsWith_iff,
    map_missesAt_iff]

theorem first_of_or_failsWith {q : Parser α} (hc : c.Aligned) (h : (or p q).FailsWith c x) :
    (first [p, q]).FailsWith c x := by
  have hlast : (first [q]).FailsWith c x ↔ q.FailsWith c x := by
    rw [first, orElse_failsWith_iff hc]
    exact or_iff_left fun hmiss => neverFails_miss c x hmiss.2
  rw [first, orElse_failsWith_iff hc, hlast]
  exact (or_failsWith_iff hc).1 h

end Many

/-! ## Loops -/

section Loops

variable {content : Parser α} {delimiter : Parser β} {c d : Cursor} {x : ParseError}

theorem probe_failsWith_iff {found missing : Parser α} :
    (probe delimiter found missing).FailsWith c x
      ↔ delimiter.FailsWith c x ∨ delimiter.MatchesAt c ∧ found.FailsWith c x
        ∨ delimiter.MissesAt c ∧ missing.FailsWith c x := by
  rcases hq : delimiter c with f | ⟨b | _ | y, n, log⟩
  · simp [FailsWith, MatchesAt, MatchesTo, MissesAt, probe, hq]
  · rw [(agreesAt_probe_of_matched hq).failsWith_iff]
    simp [FailsWith, MatchesAt, MatchesTo, MissesAt, hq]
  · rw [(agreesAt_probe_of_missed hq).failsWith_iff]
    simp [FailsWith, MatchesAt, MatchesTo, MissesAt, hq]
  · simp [FailsWith, MatchesAt, MatchesTo, MissesAt, probe, hq, pure, Except.pure]

theorem failsWith_of_whenMoved {p : Parser α} {start : Nat}
    (h : (whenMoved start p).FailsWith c x) : p.FailsWith c x := by
  by_cases hstay : c.pos = start
  · exact absurd ((agreesAt_whenMoved_of_eq hstay).failsWith h) (neverFails_miss c x)
  · exact (agreesAt_whenMoved_of_ne hstay).failsWith h

theorem lookout_failsWith_iff {stopsAtEnd : Bool} : (lookout stopsAtEnd delimiter).FailsWith c x
    ↔ ¬ (stopsAtEnd = true ∧ c.atEnd = true) ∧ delimiter.FailsWith c x := by
  by_cases hend : stopsAtEnd = true ∧ c.atEnd = true
  · refine iff_of_false ?_ fun h => h.1 hend
    rintro ⟨n, log, h⟩
    have hfound : (lookout stopsAtEnd delimiter).MatchesAt c := ScanKind.lookout_at_end hend
    obtain ⟨a, m, log', h'⟩ := hfound
    cases h.symm.trans h'
  · rw [(ScanKind.agreesAt_lookout hend).failsWith_iff, map_failsWith_iff, and_iff_right hend]

theorem Onward.reaches {p : Parser α} (hp : p.Onward) (hc : c.Aligned) {a : α} {n : Nat}
    (h : p.MatchesTo c a n) : c.Reaches (c.moveTo n) := by
  obtain ⟨log, h⟩ := h
  obtain ⟨hb, hle⟩ := hp c hc a n log h
  exact ⟨rfl, hb, hle⟩

theorem Onward.reaches_of_walk {p : Parser α} (hp : p.Onward) {as : List α} (h : p.Walk c as d)
    (hc : c.Aligned) : c.Reaches d := by
  induction h with
  | stay c => exact .refl hc
  | step hrun _ ih =>
    have hstep := hp.reaches hc ⟨_, hrun⟩
    exact hstep.trans (ih hstep.aligned)

/-- A repetition reports an error of its item, at a place it comes to. -/
theorem Onward.exists_tries_of_failsWith {item : Parser α} (hp : item.Onward) (hc : c.Aligned)
    (q : Quantity) {rounds : Nat} (h : (q.parser rounds item).FailsWith c x) :
    ∃ as d, item.Tries q.least q.most c as d ∧ item.FailsWith d x := by
  obtain ⟨n, log, h⟩ := h
  rw [q.parser_eq] at h
  obtain ⟨harvest, hrun, hreply⟩ := exists_collect_of_repeatWhile h
  have haligned : ∀ as d, item.Walk c as d → d.Aligned := fun as d hwalk =>
    (hp.reaches_of_walk hwalk hc).aligned
  obtain ⟨d, hhalts, -⟩ := halts_of_collect haligned hrun
  have herror : harvest.error = some x := Harvest.reply_failed_iff.1 (congrArg Reply.outcome hreply)
  rw [herror] at hhalts
  exact ⟨_, d, hhalts.tries⟩

/-- A round of a scan behind which it goes on: no delimiter is found and content is taken. -/
def round (stopsAtEnd : Bool) (content : Parser α) (delimiter : Parser β) : Parser α :=
  probe (lookout stopsAtEnd delimiter) miss content

theorem round_matchesTo_iff {kind : ScanKind} {a : α} {n : Nat} :
    (round kind.stopsAtEnd content delimiter).MatchesTo c a n
      ↔ kind.GoesOnAt delimiter c ∧ content.MatchesTo c a n := by
  rw [round, probe_matchesTo_iff, ScanKind.lookout_missesAt_iff kind.mode]
  refine or_iff_right fun h => ?_
  obtain ⟨-, log, hmiss⟩ := h
  cases hmiss

theorem onward_round (hp : content.Onward) (kind : ScanKind) :
    (round kind.stopsAtEnd content delimiter).Onward := by
  intro c hc a n log h
  obtain ⟨-, log', hcontent⟩ := round_matchesTo_iff.1 ⟨log, h⟩
  exact hp c hc a n log' hcontent

end Loops

end Parser

namespace ScanKind

variable {α β : Type}

/-- A scan from `c` comes to `d` and looks for its delimiter there. -/
def LooksAt (kind : ScanKind) (content : Parser α) (delimiter : Parser β) (c d : Cursor) : Prop :=
  match kind.mode with
  | .atOnce => ∃ as, (Parser.round kind.stopsAtEnd content delimiter).Walk c as d
  | .afterContent => ∃ a n as, content.MatchesTo c a n
    ∧ (Parser.round kind.stopsAtEnd content delimiter).Walk (c.moveTo n) as d

/-- A scan from `c` comes to `d` and takes content there. -/
def TakesAt (kind : ScanKind) (content : Parser α) (delimiter : Parser β) (c d : Cursor) : Prop :=
  kind.mode = .afterContent ∧ d = c
    ∨ kind.LooksAt content delimiter c d ∧ kind.GoesOnAt delimiter d

variable {kind : ScanKind} {content : Parser α} {delimiter : Parser β} {c d : Cursor}

theorem LooksAt.reaches (h : kind.LooksAt content delimiter c d) (hp : content.Onward)
    (hc : c.Aligned) : c.Reaches d := by
  have hround : (Parser.round kind.stopsAtEnd content delimiter).Onward :=
    Parser.onward_round hp kind
  rcases kind with ⟨_ | _, stopsAtEnd⟩
  · obtain ⟨a, n, as, ha, hwalk⟩ := h
    have hfirst := hp.reaches hc ha
    exact hfirst.trans (hround.reaches_of_walk hwalk hfirst.aligned)
  · obtain ⟨as, hwalk⟩ := h
    exact hround.reaches_of_walk hwalk hc

theorem TakesAt.reaches (h : kind.TakesAt content delimiter c d) (hp : content.Onward)
    (hc : c.Aligned) : c.Reaches d := by
  rcases h with ⟨-, rfl⟩ | ⟨hlooks, -⟩
  · exact .refl hc
  · exact hlooks.reaches hp hc

/-- Where a scan looks for its delimiter, and takes content if there is none, what fails is one of
the two. -/
theorem LooksAt.failsWith {x : ParseError} (hlooks : kind.LooksAt content delimiter c d)
    (h : (Parser.lookout kind.stopsAtEnd delimiter).FailsWith d x
      ∨ (Parser.lookout kind.stopsAtEnd delimiter).MissesAt d ∧ content.FailsWith d x) :
    (∃ d, kind.LooksAt content delimiter c d ∧ ¬ (kind.stopsAtEnd = true ∧ d.atEnd = true)
        ∧ delimiter.FailsWith d x)
      ∨ ∃ d, kind.TakesAt content delimiter c d ∧ content.FailsWith d x := by
  rcases h with hfail | ⟨hmiss, hfail⟩
  · exact .inl ⟨d, hlooks, Parser.lookout_failsWith_iff.1 hfail⟩
  · exact .inr ⟨d, .inr ⟨hlooks, (lookout_missesAt_iff kind.mode _).1 hmiss⟩, hfail⟩

end ScanKind

namespace Parser

section Scans

variable {α β : Type} {content : Parser α} {delimiter : Parser β} {c : Cursor} {x : ParseError}

theorem Onward.whileNotLoop_failsWith (hp : content.Onward) {stopsAtEnd : Bool} {start : Nat} :
    ∀ {rounds : Nat} {c : Cursor}, c.Aligned →
      (whileNotLoop content (lookout stopsAtEnd delimiter) start rounds).FailsWith c x →
      ∃ as d, (round stopsAtEnd content delimiter).Walk c as d
        ∧ ((lookout stopsAtEnd delimiter).FailsWith d x
          ∨ (lookout stopsAtEnd delimiter).MissesAt d ∧ content.FailsWith d x)
  | 0, c, _, h => by
    obtain ⟨n, log, h⟩ := h
    cases h
  | rounds + 1, c, hc, h => by
    have hround := (agreesAt_whileNotLoop_succ hc start rounds).failsWith h
    rcases probe_failsWith_iff.1 hround with hlook | ⟨-, hnil⟩ | ⟨hmiss, hrest⟩
    · exact ⟨[], c, .stay c, .inl hlook⟩
    · exact absurd hnil (neverFails_succeed [] c x)
    rcases bind_failsWith_iff.1 hrest with hcontent | ⟨a, n, ⟨log, hrun⟩, hrest⟩
    · exact ⟨[], c, .stay c, .inr ⟨hmiss, hcontent⟩⟩
    · have hd : (c.moveTo n).Aligned := (hp c hc a n log hrun).1
      obtain ⟨as, d, hwalk, hfail⟩ :=
        hp.whileNotLoop_failsWith hd (map_failsWith_iff.1 (failsWith_of_whenMoved hrest))
      obtain ⟨log', hstep⟩ : (round stopsAtEnd content delimiter).MatchesTo c a n :=
        probe_matchesTo_iff.2 (.inr ⟨hmiss, log, hrun⟩)
      exact ⟨a :: as, d, .step hstep hwalk, hfail⟩

theorem Onward.untilLoop_failsWith (hp : content.Onward) {stopsAtEnd : Bool} {start : Nat} :
    ∀ {rounds : Nat} {c : Cursor}, c.Aligned →
      (untilLoop content (lookout stopsAtEnd delimiter) start rounds).FailsWith c x →
      content.FailsWith c x
      ∨ ∃ a n as d, content.MatchesTo c a n
        ∧ (round stopsAtEnd content delimiter).Walk (c.moveTo n) as d
        ∧ ((lookout stopsAtEnd delimiter).FailsWith d x
          ∨ (lookout stopsAtEnd delimiter).MissesAt d ∧ content.FailsWith d x)
  | 0, c, _, h => by
    obtain ⟨n, log, h⟩ := h
    cases h
  | rounds + 1, c, hc, h => by
    have hround := (hp.agreesAt_untilLoop_succ hc start rounds).failsWith h
    rcases bind_failsWith_iff.1 hround with hcontent | ⟨a, n, ⟨log, hrun⟩, hrest⟩
    · exact .inl hcontent
    have hd : (c.moveTo n).Aligned := (hp c hc a n log hrun).1
    refine .inr ⟨a, n, ?_⟩
    rcases probe_failsWith_iff.1 hrest with hlook | ⟨-, hlast⟩ | ⟨hmiss, hrest⟩
    · exact ⟨[], _, ⟨log, hrun⟩, .stay _, .inl hlook⟩
    · exact absurd hlast (neverFails_succeed [a] _ x)
    rcases hp.untilLoop_failsWith hd (map_failsWith_iff.1 (failsWith_of_whenMoved hrest)) with
      hcontent | ⟨b, m, as, d, ⟨log', hrun'⟩, hwalk, hfail⟩
    · exact ⟨[], _, ⟨log, hrun⟩, .stay _, .inr ⟨hmiss, hcontent⟩⟩
    · obtain ⟨log'', hstep⟩ : (round stopsAtEnd content delimiter).MatchesTo (c.moveTo n) b m :=
        probe_matchesTo_iff.2 (.inr ⟨hmiss, log', hrun'⟩)
      exact ⟨b :: as, d, ⟨log, hrun⟩, .step hstep hwalk, hfail⟩

/-- A scan reports an error of its delimiter, where it looks for it, or one of its content, where it
takes it. -/
theorem Onward.scan_failsWith (hp : content.Onward) (hc : c.Aligned) {kind : ScanKind}
    {rounds : Nat} (h : (scan kind rounds content delimiter).FailsWith c x) :
    (∃ d, kind.LooksAt content delimiter c d ∧ ¬ (kind.stopsAtEnd = true ∧ d.atEnd = true)
        ∧ delimiter.FailsWith d x)
      ∨ ∃ d, kind.TakesAt content delimiter c d ∧ content.FailsWith d x := by
  rcases kind with ⟨_ | _, stopsAtEnd⟩
  · have hloop : (untilLoop content (lookout stopsAtEnd delimiter) c.pos rounds).FailsWith c x :=
      attempt_failsWith_iff.1 h
    rcases hp.untilLoop_failsWith hc hloop with hfail | ⟨a, n, as, d, ha, hwalk, hfail⟩
    · exact .inr ⟨c, .inl ⟨rfl, rfl⟩, hfail⟩
    · exact ScanKind.LooksAt.failsWith ⟨a, n, as, ha, hwalk⟩ hfail
  · have hloop : (whileNotLoop content (lookout stopsAtEnd delimiter) c.pos rounds).FailsWith c x :=
      attempt_failsWith_iff.1 h
    obtain ⟨as, d, hwalk, hfail⟩ := hp.whileNotLoop_failsWith hc hloop
    exact ScanKind.LooksAt.failsWith ⟨as, hwalk⟩ hfail

end Scans

end Parser

end Backtrack
