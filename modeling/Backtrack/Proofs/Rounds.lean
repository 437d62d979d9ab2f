import Backtrack.Proofs.Locality
import Backtrack.Proofs.Refusal

/-!
# How many rounds a loop takes

An item that reads something leaves less to read; one that reads nothing reads nothing again, until
enough items are collected. So over a parser that returns and never goes back with a match
(`Parser.Steady`), a repetition takes at most as many rounds as it needs items, or as code points
are left and one more (`Parser.Steady.repeatWhile_returns`), and a scan at most the latter
(`Parser.Steady.scan_returns`). Runs are counted by records: `Parser.marked` logs one in each.
-/

namespace Backtrack

namespace Parser

variable {α β : Type}

section Loops

variable {F : Fault → Prop} {counts : Record → Bool} {t : Text}

/-- On the text the parser stops at faults of `F` only; it leaves the cursor on a boundary, after a
match not before where it began, and logs at most `most` records that count. -/
def Ends (F : Fault → Prop) (counts : Record → Bool) (most : Nat) (t : Text) (p : Parser α) :
    Prop :=
  ∀ seen rest, t = seen ++ rest →
    Run.Meets F (fun r => t.IsBoundary r.stop ∧ (r.outcome.isMatch = true → seen.byteSize ≤ r.stop)
      ∧ r.log.countP counts ≤ most) (p (.between seen rest))

theorem isBoundary_home {seen rest : Text} (ht : t = seen ++ rest) :
    t.IsBoundary (Cursor.between seen rest).home := by
  rw [Cursor.home_between]
  exact ⟨seen, rest, ht, rfl⟩

/-- Where the cursor is moved on, and what is in front of it then: less, unless it stayed. -/
theorem exists_moveTo {seen rest : Text} {n : Nat} (ht : t = seen ++ rest) (hn : t.IsBoundary n)
    (hle : seen.byteSize ≤ n) : ∃ a b, t = (seen ++ a) ++ b ∧ (seen ++ a).byteSize = n
      ∧ (n ≠ seen.byteSize → b.length < rest.length)
      ∧ (Cursor.between seen rest).moveTo n = .between (seen ++ a) b := by
  subst ht
  obtain ⟨a, b, rfl, rfl⟩ := hn.exists_append_of_le hle
  refine ⟨a, b, by simp, rfl, fun hne => ?_, Cursor.moveTo_between seen a b⟩
  have ha : a ≠ [] := by
    rintro rfl
    simp at hne
  have := List.length_pos_iff.2 ha
  rw [List.length_append]
  omega

/-- An item that reads nothing once reads nothing until enough of them are collected. -/
theorem collect_of_stall {item : Parser α} {c : Cursor} {a : α} {log : List Record}
    (h : item c = .ok ⟨.matched a, c.pos, log⟩) (hlog : log.countP counts ≤ 1) (min : Nat)
    (proceed : Nat → Bool) : ∀ rounds count, 0 < rounds → min ≤ count + rounds →
      ∃ items log', collect rounds min proceed item count c = .ok ⟨items, c.pos, none, log'⟩
        ∧ log'.countP counts ≤ max 1 (min - count)
  | 0, _, hpos, _ => absurd hpos (Nat.lt_irrefl 0)
  | rounds + 1, count, _, hmin => by
    cases hgo : proceed count with
    | false =>
      rw [collect_of_refused hgo]
      exact ⟨[], [], rfl, by simp⟩
    | true =>
      by_cases hstop : min ≤ count + 1
      · rw [collect_of_stalled hgo h ⟨rfl, hstop⟩]
        exact ⟨[a], log, rfl, by omega⟩
      · obtain ⟨items, log', hrun, hlog'⟩ :=
          collect_of_stall h hlog min proceed rounds (count + 1) (by omega) (by omega)
        rw [collect_of_matched hgo h fun hand => hstop hand.2, Cursor.moveTo_pos, hrun]
        refine ⟨a :: items, log ++ log', rfl, ?_⟩
        rw [List.countP_append]
        omega

/-- A loop over an item that ends comes to an end itself. The induction is on the rounds. An item
that reads nothing is settled together with all those to come, since behind it there may be too few
rounds left for the induction hypothesis. -/
theorem Ends.collect {item : Parser α} (h : item.Ends F counts 1 t) (min : Nat)
    (proceed : Nat → Bool) : ∀ rounds count seen rest, t = seen ++ rest → min ≤ count + rounds →
      rest.length < rounds →
      Run.Meets F (fun h => t.IsBoundary h.stop
          ∧ h.log.countP counts ≤ max (min - count) (rest.length + 1))
        (collect rounds min proceed item count (.between seen rest)) := by
  intro rounds
  induction rounds with
  | zero => exact fun _ _ rest _ _ hrest => absurd hrest (Nat.not_lt_zero _)
  | succ rounds ih =>
    intro count seen rest ht hmin hrest
    have hitem := h seen rest ht
    by_cases hstall : ∃ a log, item (.between seen rest) = .ok ⟨.matched a, seen.byteSize, log⟩
    · obtain ⟨a, log, hrun⟩ := hstall
      rw [hrun] at hitem
      obtain ⟨hb, -, hlog⟩ := hitem
      obtain ⟨items, log', hrun', hlog'⟩ :=
        collect_of_stall hrun hlog min proceed (rounds + 1) count (by omega) hmin
      rw [hrun']
      exact And.intro hb (by dsimp only; omega)
    cases hgo : proceed count with
    | false =>
      rw [collect_of_refused hgo]
      exact And.intro ⟨seen, rest, ht, rfl⟩ (Nat.zero_le _)
    | true =>
      rcases hrun : item (.between seen rest) with f | ⟨a | _ | e, n, log⟩ <;> rw [hrun] at hitem
      · rw [collect_of_error hgo hrun]
        exact hitem
      · obtain ⟨hb, honward, hlog⟩ := hitem
        have hne : n ≠ seen.byteSize := by
          rintro rfl
          exact hstall ⟨a, log, hrun⟩
        obtain ⟨a', b, ht', -, hlt, hmove⟩ := exists_moveTo ht hb (honward rfl)
        have hlen := hlt hne
        rw [collect_of_matched hgo hrun fun hand => hne hand.1, hmove]
        refine Run.Meets.map (ih (count + 1) _ b ht' (by omega) (by omega)) ?_
        rintro ⟨items, m, error, log'⟩ ⟨hb', hlog'⟩
        refine And.intro hb' ?_
        dsimp only [Harvest.cons] at hlog hlog' ⊢
        rw [List.countP_append]
        omega
      · rw [collect_of_missed hgo hrun]
        exact And.intro (isBoundary_home ht) (Nat.le_trans hitem.2.2 (by omega))
      · rw [collect_of_failed hgo hrun]
        exact And.intro hitem.1 (Nat.le_trans hitem.2.2 (by omega))

/-- The records that loops log of themselves do not count. -/
structure Spares (counts : Record → Bool) : Prop where
  repetitionError (k : Nat) : counts (.repetitionError k) = false
  repetitionShort (k m n : Nat) : counts (.repetitionShort k m n) = false
  untilError (n : Nat) : counts (.untilError n) = false
  whileNotError (n : Nat) : counts (.whileNotError n) = false

theorem spares_none : Spares fun _ => false :=
  ⟨fun _ => rfl, fun _ _ _ => rfl, fun _ => rfl, fun _ => rfl⟩

theorem countP_append_spared {log : List Record} {record : Record} (h : counts record = false) :
    (log ++ [record]).countP counts = log.countP counts := by
  rw [List.countP_append, List.countP_singleton, h]
  rfl

/-- A repetition ends after as many rounds as items are needed, or as code points are left and one
more. -/
theorem Ends.repeatWhile {item : Parser α} (h : item.Ends F counts 1 t) (hs : Spares counts)
    {rounds min : Nat} {seen rest : Text} (ht : t = seen ++ rest)
    (hr : max min (rest.length + 1) ≤ rounds) (proceed : Nat → Bool) :
    Run.Meets F (fun r => t.IsBoundary r.stop ∧ r.log.countP counts ≤ max min (rest.length + 1))
      (repeatWhile rounds min proceed item (.between seen rest)) := by
  have hhome := isBoundary_home ht
  unfold Parser.repeatWhile
  refine Run.Meets.bind (h.collect min proceed rounds 0 seen rest ht (by omega) (by omega)) ?_
  rintro ⟨items, n, _ | e, log⟩ ⟨hb, hlog⟩
  · dsimp only
    split_ifs
    · exact And.intro hb hlog
    · refine And.intro hhome ?_
      rw [countP_append_spared (hs.repetitionShort _ _ _)]
      exact hlog
  · refine And.intro hhome ?_
    rw [countP_append_spared (hs.repetitionError _)]
    exact hlog

/-- A scan behind an item and a delimiter that missed. -/
theorem meets_cons {x : Run (Reply (List α))} {k m : Nat} (a : α) {log : List Record}
    (h : Run.Meets F (fun r => t.IsBoundary r.stop ∧ r.log.countP counts ≤ k) x)
    (hlog : log.countP counts + k ≤ m) :
    Run.Meets F (fun r => t.IsBoundary r.stop ∧ r.log.countP counts ≤ m)
      (do return (← x).cons a log) := by
  refine Run.Meets.bind h fun r hr => And.intro hr.1 ?_
  show (log ++ r.log).countP counts ≤ m
  rw [List.countP_append]
  have := hr.2
  omega

variable {content : Parser α} {delimiter : Parser β} {most most' : Nat}

theorem Ends.untilLoop (hp : content.Ends F counts most t) (hq : delimiter.Ends F counts most' t)
    (hmost : most + most' ≤ 1) (hs : Spares counts) (start : Nat) : ∀ rounds seen rest,
      t = seen ++ rest → rest.length < rounds →
      Run.Meets F (fun r => t.IsBoundary r.stop ∧ r.log.countP counts ≤ rest.length + 1)
        (untilLoop content delimiter start rounds (.between seen rest))
  | 0, _, _, _, hrest => absurd hrest (Nat.not_lt_zero _)
  | rounds + 1, seen, rest, ht, hrest => by
    unfold Parser.untilLoop
    refine Run.Meets.bind (hp seen rest ht) fun r hr => ?_
    rcases r with ⟨x | _ | e, n, log⟩
    · obtain ⟨hb, honward, hlog⟩ := hr
      obtain ⟨a, b, ht', hn, hlt, hmove⟩ := exists_moveTo ht hb (honward rfl)
      dsimp only at hlog ⊢
      rw [hmove, Cursor.home_between, hn, hmove]
      refine Run.Meets.bind (hq (seen ++ a) b ht') fun q hq' => ?_
      have hlogs : (log ++ q.log).countP counts ≤ 1 := by
        rw [List.countP_append]
        have := hq'.2.2
        omega
      rcases q with ⟨y | _ | e, m, log'⟩
      · exact And.intro hb (Nat.le_trans hlogs (by omega))
      · dsimp only
        split_ifs with hstall
        · exact And.intro hb (Nat.le_trans hlogs (by omega))
        · have := hlt hstall
          refine meets_cons x (hp.untilLoop hq hmost hs start rounds _ b ht' (by omega)) ?_
          dsimp only at hlogs
          omega
      · refine And.intro hb ?_
        rw [countP_append_spared (hs.untilError _)]
        exact Nat.le_trans hlogs (by omega)
    · exact And.intro hr.1 (Nat.le_trans hr.2.2 (by omega))
    · exact And.intro hr.1 (Nat.le_trans hr.2.2 (by omega))

theorem Ends.whileNotLoop (hp : content.Ends F counts most t)
    (hq : delimiter.Ends F counts most' t) (hmost : most + most' ≤ 1) (hs : Spares counts)
    (start : Nat) : ∀ rounds seen rest, t = seen ++ rest → rest.length < rounds →
      Run.Meets F (fun r => t.IsBoundary r.stop ∧ r.log.countP counts ≤ rest.length + 1)
        (whileNotLoop content delimiter start rounds (.between seen rest))
  | 0, _, _, _, hrest => absurd hrest (Nat.not_lt_zero _)
  | rounds + 1, seen, rest, ht, hrest => by
    have hhome := isBoundary_home ht
    have hmove : (Cursor.between seen rest).moveTo (Cursor.between seen rest).home
        = .between seen rest := (Cursor.aligned_between seen rest).moveTo_home
    unfold Parser.whileNotLoop
    refine Run.Meets.bind (hq seen rest ht) fun q hq' => ?_
    have hlog := hq'.2.2
    rcases q with ⟨y | _ | e, m, log⟩
    · exact And.intro hhome (Nat.le_trans hlog (by omega))
    · dsimp only at hlog ⊢
      rw [hmove]
      refine Run.Meets.bind (hp seen rest ht) fun r hr => ?_
      have hlogs : (log ++ r.log).countP counts ≤ 1 := by
        rw [List.countP_append]
        have := hr.2.2
        omega
      rcases r with ⟨x | _ | e, n, log'⟩
      · dsimp only at hlogs ⊢
        split_ifs with hstall
        · exact And.intro hr.1 (Nat.le_trans hlogs (by omega))
        · obtain ⟨a, b, ht', -, hlt, hmove⟩ := exists_moveTo ht hr.1 (hr.2.1 rfl)
          have := hlt hstall
          rw [hmove]
          refine meets_cons x (hp.whileNotLoop hq hmost hs start rounds _ b ht' (by omega)) ?_
          omega
      · exact And.intro hr.1 (Nat.le_trans hlogs (by omega))
      · exact And.intro hr.1 (Nat.le_trans hlogs (by omega))
    · refine And.intro hhome ?_
      rw [countP_append_spared (hs.whileNotError _)]
      exact Nat.le_trans hlog (by omega)

theorem Ends.map {p : Parser α} (hp : p.Ends F counts most t) (f : α → β) :
    (p.map f).Ends F counts most t := by
  intro seen rest ht
  refine Run.Meets.bind (hp seen rest ht) ?_
  rintro ⟨x | _ | e, n, log⟩ hr <;> exact hr

theorem Ends.endOr (hq : delimiter.Ends F counts most t) :
    (endOr delimiter).Ends F counts most t := by
  intro seen rest ht
  rw [Parser.endOr]
  split_ifs
  · exact And.intro ⟨seen, rest, ht, rfl⟩ ⟨fun _ => Nat.le_refl _, Nat.zero_le _⟩
  · exact hq.map _ seen rest ht

/-- A scan ends after as many rounds as code points are left and one more. -/
theorem Ends.scan (hp : content.Ends F counts most t) (hq : delimiter.Ends F counts most' t)
    (hmost : most + most' ≤ 1) (hs : Spares counts) (kind : ScanKind) {rounds : Nat}
    {seen rest : Text} (ht : t = seen ++ rest) (hr : rest.length < rounds) :
    Run.Meets F (fun r => t.IsBoundary r.stop ∧ r.log.countP counts ≤ rest.length + 1)
      (scan kind rounds content delimiter (.between seen rest)) := by
  have hstop : Ends F counts most' t
      (if kind.stopsAtEnd then Parser.endOr delimiter else delimiter.map fun _ => ()) := by
    split_ifs
    · exact hq.endOr
    · exact hq.map _
  have hattempt : ∀ {p : Parser (List α)},
      Run.Meets F (fun r => t.IsBoundary r.stop ∧ r.log.countP counts ≤ rest.length + 1)
        (p (.between seen rest)) →
      Run.Meets F (fun r => t.IsBoundary r.stop ∧ r.log.countP counts ≤ rest.length + 1)
        (p.attempt (.between seen rest)) := by
    intro p h
    refine Run.Meets.bind h ?_
    have hhome := isBoundary_home ht
    rintro ⟨x | _ | e, n, log⟩ hr
    · exact hr
    · exact And.intro hhome hr.2
    · exact And.intro hhome hr.2
  rcases kind with ⟨_ | _, b⟩
  · exact hattempt (hp.untilLoop hstop hmost hs _ rounds seen rest ht hr)
  · exact hattempt (hp.whileNotLoop hstop hmost hs _ rounds seen rest ht hr)

end Loops

/-! ## Counting runs -/

/-- From every boundary the parser returns; it leaves the cursor on a boundary, after a match not
before where it began. -/
def Steady (p : Parser α) : Prop :=
  ∀ c : Cursor, c.Aligned → ∃ r, p c = .ok r ∧ c.text.IsBoundary r.stop
    ∧ (r.outcome.isMatch = true → c.pos ≤ r.stop)

/-- The parser with one record for each of its runs and none of its own. -/
def marked (mark : Record) (p : Parser α) : Parser α := fun c => do
  return { ← p c with log := [mark] }

variable {p : Parser α}

theorem IsToken.steady {text : α → Text} (hp : p.IsToken text) : p.Steady := by
  intro c hc
  obtain ⟨seen, rest, rfl⟩ := hc.exists_between
  rcases hp seen rest with ⟨v, b, rfl, h⟩ | h
  · refine ⟨_, h, ⟨seen ++ text v, b, by simp, rfl⟩, fun _ => ?_⟩
    rw [Text.byteSize_append]
    exact Nat.le_add_right _ _
  · exact ⟨_, h, hc, fun _ => Nat.le_refl _⟩

theorem Steady.optional (hp : p.Steady) : p.optional.Steady := by
  intro c hc
  obtain ⟨⟨o, n, log⟩, hr, hb, honward⟩ := hp c hc
  have hhome : c.text.IsBoundary c.home := hc.home_eq ▸ hc
  rcases o with a | _ | e
  · exact ⟨⟨.matched (.present a), n, log⟩, by rw [Parser.optional, hr]; rfl, hb, honward⟩
  · refine ⟨⟨.matched .absent, c.home, log⟩, by rw [Parser.optional, hr]; rfl, hhome, fun _ => ?_⟩
    exact Nat.le_of_eq hc.home_eq.symm
  · exact ⟨⟨.failed e, c.home, log⟩, by rw [Parser.optional, hr]; rfl, hhome, nofun⟩

theorem Steady.marked (hp : p.Steady) (mark : Record) : (p.marked mark).Steady := by
  intro c hc
  obtain ⟨r, hr, h⟩ := hp c hc
  exact ⟨{ r with log := [mark] }, by rw [Parser.marked, hr]; rfl, h⟩

theorem Steady.ends_marked (hp : p.Steady) (mark : Record) (counts : Record → Bool) (t : Text) :
    (p.marked mark).Ends (fun _ => False) counts (if counts mark then 1 else 0) t := by
  rintro seen rest rfl
  obtain ⟨r, hr, hb, honward⟩ := hp _ (Cursor.aligned_between seen rest)
  rw [Parser.marked, hr]
  exact And.intro hb ⟨honward, Nat.le_of_eq List.countP_singleton⟩

end Parser

namespace Likeness

variable {α : Type} {t : Text}

/-- Two runs on one text of which the second has no fewer rounds and calls to spend. -/
def budgets (t : Text) : Likeness where
  ahead := []
  text := t
  Excuses f := f = .roundsSpent ∨ f = .depthSpent
  Shares _ := True
  Logs log log' := log = log'
  logs_nil := rfl
  logs_singleton record := congrArg (fun r => [r]) record.shift_zero
  logs_append h h' := by rw [h, h']

/-- Two runs on one text that both end, in the same way up to what they log, or both stop at the
same fault of `F`. -/
def ending (t : Text) (F : Fault → Prop) : Likeness where
  ahead := []
  text := t
  Excuses _ := False
  Shares := F
  Logs _ _ := True
  logs_nil := trivial
  logs_singleton _ := trivial
  logs_append _ _ := trivial

theorem sameRounds_budgets {rounds rounds' : Nat} (h : rounds ≤ rounds') :
    (budgets t).SameRounds rounds rounds' :=
  .inr ⟨.inl rfl, h⟩

/-- A run that did not stop for want of rounds or calls is the same with more of them. -/
theorem eq_of_relates_budgets {p q : Parser α} {c : Cursor} (hc : c.Aligned)
    (h : (budgets c.text).Relates p q)
    (hspent : ∀ f, p c = .error f → ¬ (f = .roundsSpent ∨ f = .depthSpent)) : q c = p c := by
  have h := h c c (at_self rfl hc rfl)
  rcases hrun : p c with f | ⟨o, n, log⟩ <;> rw [hrun] at h
  · obtain h | ⟨-, h⟩ := h
    · exact absurd h (hspent f hrun)
    · exact h
  · obtain ⟨⟨o', n', log'⟩, hs, ho, hn, -, hlog⟩ := h
    obtain rfl : o = o' := ho.trans (Outcome.shift_zero o')
    obtain rfl : n = n' := hn.trans (Nat.zero_add n')
    obtain rfl : log = log' := hlog
    exact hs

/-- Where a loop over marked parsers returns, so does the loop over the parsers, and both do so with
any more rounds; they differ in what they log. -/
theorem exists_reply_of_marked {P : List Record → Prop} {loop marked : Nat → Parser α} {n : Nat}
    {c : Cursor} (hc : c.Aligned) {s : Reply α} (hs : marked n c = .ok s) (hP : P s.log)
    (hsame : (ending c.text fun _ => True).Relates (marked n) (loop n))
    (hloop : ∀ rounds, n ≤ rounds → (budgets c.text).Relates (loop n) (loop rounds))
    (hmarked : ∀ rounds, n ≤ rounds → (budgets c.text).Relates (marked n) (marked rounds)) :
    ∃ r log, P log ∧ ∀ rounds, n ≤ rounds →
      loop rounds c = .ok r ∧ marked rounds c = .ok { r with log := log } := by
  have hsame := hsame c c (at_self rfl hc rfl)
  rw [hs] at hsame
  obtain ⟨r, hr, ho, hn, -⟩ := hsame
  have hs' : s = { r with log := s.log } := by
    obtain ⟨o, m, log⟩ := s
    obtain rfl : o = r.outcome := ho.trans (Outcome.shift_zero r.outcome)
    obtain rfl : m = r.stop := hn.trans (Nat.zero_add r.stop)
    rfl
  refine ⟨r, s.log, hP, fun rounds hle => ⟨?_, ?_⟩⟩
  · rw [eq_of_relates_budgets hc (hloop rounds hle) (by simp [hr]), hr]
  · rw [eq_of_relates_budgets hc (hmarked rounds hle) (by simp [hs]), hs]
    exact congrArg Except.ok hs'

end Likeness

/-- The record that counts a run of an item. No loop logs it of itself. -/
def Record.itemRun : Record := .sequenceMiss 0

/-- The record that counts a run of a delimiter. No loop logs it of itself. -/
def Record.delimiterRun : Record := .sequenceError 0

namespace Parser

variable {α β : Type} {p : Parser α} {q : Parser β}

theorem spares_itemRun : Spares (· == .itemRun) :=
  ⟨fun _ => rfl, fun _ _ _ => rfl, fun _ => rfl, fun _ => rfl⟩

theorem spares_delimiterRun : Spares (· == .delimiterRun) :=
  ⟨fun _ => rfl, fun _ _ _ => rfl, fun _ => rfl, fun _ => rfl⟩

theorem Steady.relates_budgets (hp : p.Steady) (t : Text) : (Likeness.budgets t).Relates p p := by
  refine Likeness.relates_self rfl fun c hc ht => ?_
  obtain ⟨r, hr, hb, -⟩ := hp c hc
  rw [hr]
  exact And.intro (ht ▸ hb) rfl

theorem Steady.relates_marked (hp : p.Steady) (mark : Record) (t : Text) :
    (Likeness.ending t fun _ => True).Relates (p.marked mark) p := by
  intro c c' hc
  obtain ⟨r, hr, hb, -⟩ := hp c' hc.aligned
  rw [hc.eq rfl, Parser.marked, hr]
  refine Likeness.relatesRun_ok ⟨(Outcome.shift_zero _).symm, (Nat.zero_add _).symm, ?_, trivial⟩
  rw [← hc.text_eq]
  exact hb

/-- A repetition returns after as many runs of its item as it needs items, or as there are code
points left and one more. -/
theorem Steady.repeatWhile_returns (hp : p.Steady) (min : Nat) (proceed : Nat → Bool)
    (seen rest : Text) : ∃ r log, log.count .itemRun ≤ max min (rest.length + 1) ∧
      ∀ rounds, max min (rest.length + 1) ≤ rounds →
        repeatWhile rounds min proceed p (.between seen rest) = .ok r ∧
        repeatWhile rounds min proceed (p.marked .itemRun) (.between seen rest)
          = .ok { r with log := log } := by
  have hends := hp.ends_marked .itemRun (· == .itemRun) (seen ++ rest)
  obtain ⟨s, hs, -, hcount⟩ := Run.meets_false_iff.1
    (hends.repeatWhile spares_itemRun rfl (Nat.le_refl (max min (rest.length + 1))) proceed)
  refine Likeness.exists_reply_of_marked (P := fun log => log.count .itemRun ≤ _)
    (Cursor.aligned_between seen rest) hs hcount ?_ (fun rounds hle => ?_) fun rounds hle => ?_
  · exact (hp.relates_marked .itemRun _).repeatWhile (.inl ⟨trivial, rfl⟩) min proceed
  · exact (hp.relates_budgets _).repeatWhile (Likeness.sameRounds_budgets hle) min proceed
  · exact ((hp.marked .itemRun).relates_budgets _).repeatWhile (Likeness.sameRounds_budgets hle)
      min proceed

/-- A scan returns after no more runs of its content, and of its delimiter, than there are code
points left and one more. -/
theorem Steady.scan_returns (hp : p.Steady) (hq : q.Steady) (kind : ScanKind) (seen rest : Text) :
    ∃ r log, (log.count .itemRun ≤ rest.length + 1 ∧ log.count .delimiterRun ≤ rest.length + 1) ∧
      ∀ rounds, rest.length + 1 ≤ rounds →
        scan kind rounds p q (.between seen rest) = .ok r ∧
        scan kind rounds (p.marked .itemRun) (q.marked .delimiterRun) (.between seen rest)
          = .ok { r with log := log } := by
  have hcount : ∀ record : Record, Spares (· == record) →
      (if Record.itemRun == record then 1 else 0)
        + (if Record.delimiterRun == record then 1 else 0) ≤ 1 →
      ∃ s, scan kind (rest.length + 1) (p.marked .itemRun) (q.marked .delimiterRun)
        (.between seen rest) = .ok s ∧ s.log.count record ≤ rest.length + 1 := by
    intro record hspares hmost
    have hcontent := hp.ends_marked .itemRun (· == record) (seen ++ rest)
    have hdelimiter := hq.ends_marked .delimiterRun (· == record) (seen ++ rest)
    obtain ⟨s, hs, -, h⟩ := Run.meets_false_iff.1
      (hcontent.scan hdelimiter hmost hspares kind rfl (Nat.lt_succ_self rest.length))
    exact ⟨s, hs, h⟩
  obtain ⟨s, hs, hitem⟩ := hcount .itemRun spares_itemRun (by decide)
  obtain ⟨s', hs', hdelimiter⟩ := hcount .delimiterRun spares_delimiterRun (by decide)
  cases hs.symm.trans hs'
  refine Likeness.exists_reply_of_marked
    (P := fun log => log.count .itemRun ≤ _ ∧ log.count .delimiterRun ≤ _)
    (Cursor.aligned_between seen rest) hs ⟨hitem, hdelimiter⟩ ?_ (fun rounds hle => ?_)
    fun rounds hle => ?_
  · exact (hp.relates_marked .itemRun _).scan (hq.relates_marked .delimiterRun _)
      (.inl ⟨trivial, rfl⟩) kind
  · exact (hp.relates_budgets _).scan (hq.relates_budgets _) (Likeness.sameRounds_budgets hle) kind
  · exact ((hp.marked .itemRun).relates_budgets _).scan
      ((hq.marked .delimiterRun).relates_budgets _) (Likeness.sameRounds_budgets hle) kind

end Parser

end Backtrack
