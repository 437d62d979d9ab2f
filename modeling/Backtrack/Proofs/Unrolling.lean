import Backtrack.Grammar.Meaning
import Backtrack.Proofs.Quiet
import Backtrack.Proofs.Refusal
import Backtrack.Proofs.Rounds

/-!
# Repetitions as parsers in a row

A repetition that needs an item is its item and then a repetition that needs one item less
(`Parser.agreesAt_repeatWhile_succ`), unless an item that reads nothing ends the first and not the
second. So the items it needs can be taken out of it one by one: a fixed number of items is that
many parsers in a row (`Parser.agrees_times`), and the items that are needed and those that are
not may be read by two repetitions, one behind the other, if each item reads something
(`Parser.Advances.agreesAt_repeatWhile`).
-/

namespace Backtrack

namespace Harvest

variable {α : Type}

/-- An item in front makes up for an item more that is needed. -/
theorem settle_reply_cons (home min : Nat) (c c' : Cursor) (a : α) (log : List Record)
    (h : Harvest α) : ((h.cons a log).reply (min + 1) c).settle home
      = ((h.reply min c').map (a :: ·)).settle home := by
  rcases h with ⟨items, n, _ | e, log'⟩
  · simp only [cons, reply, List.length_cons, Nat.add_le_add_iff_right]
    split_ifs <;> rfl
  · rfl

end Harvest

namespace Parser

variable {α : Type} {p : Parser α}

/-! ## One item less -/

theorem attempt_repeatWhile (rounds min : Nat) (proceed : Nat → Bool) (item : Parser α) :
    (repeatWhile rounds min proceed item).attempt = repeatWhile rounds min proceed item := by
  funext c
  have hstays : ∀ r, repeatWhile rounds min proceed item c = .ok r →
      r.outcome.isMatch = false → r.stop = c.home := by
    intro r hr
    obtain ⟨h, -, rfl⟩ := exists_collect_of_repeatWhile hr
    exact Harvest.stop_reply_of_not_match
  rw [attempt]
  rcases hr : repeatWhile rounds min proceed item c with f | ⟨a | _ | e, n, log⟩
  · rfl
  · rfl
  · obtain rfl : n = c.home := hstays _ hr rfl
    rfl
  · obtain rfl : n = c.home := hstays _ hr rfl
    rfl

/-- Items behind one that was collected are the items of a repetition that needs one less. -/
theorem collect_succ_count (item : Parser α) (min : Nat) (proceed : Nat → Bool) :
    ∀ (rounds count : Nat) (c : Cursor), collect rounds (min + 1) proceed item (count + 1) c
      = collect rounds min (fun k => proceed (k + 1)) item count c := by
  intro rounds
  induction rounds with
  | zero =>
    intro count c
    rw [collect, collect]
  | succ rounds ih =>
    intro count c
    rw [collect, collect]
    simp only [ih, Nat.add_le_add_iff_right]

section Peel

variable {c : Cursor} {rounds min : Nat} {proceed : Nat → Bool} (hfirst : proceed 0 = true)
  (hstall : ∀ a log, p c = .ok ⟨.matched a, c.pos, log⟩ → min = 0 → proceed 1 = false)

include hfirst hstall

/-- Behind its first item a loop goes on as one that needs an item less, provided that no item ends
the loop while the other one goes on. -/
theorem collect_of_first {a : α} {n : Nat} {log : List Record}
    (hitem : p c = .ok ⟨.matched a, n, log⟩) : collect (rounds + 1) (min + 1) proceed p 0 c
      = Harvest.cons a log <$> collect rounds min (fun k => proceed (k + 1)) p 0 (c.moveTo n) := by
  by_cases hstop : n = c.pos ∧ min + 1 ≤ 0 + 1
  · obtain ⟨rfl, hmin⟩ := hstop
    have hrefused := hstall a log hitem (by omega)
    have hrest : collect rounds min (fun k => proceed (k + 1)) p 0 (c.moveTo c.pos)
        = .ok ⟨[], c.pos, none, []⟩ := collect_of_refused hrefused
    rw [collect_of_stalled hfirst hitem ⟨rfl, hmin⟩, hrest]
    exact congrArg (fun l => (.ok ⟨[a], c.pos, none, l⟩ : Run (Harvest α)))
      (List.append_nil log).symm
  · rw [collect_of_matched hfirst hitem hstop, collect_succ_count]

/-- A repetition that needs an item is its item and a repetition that needs one less, provided that
no item ends the one while the other goes on. -/
theorem agreesAt_repeatWhile_succ : AgreesAt c (repeatWhile (rounds + 1) (min + 1) proceed p)
    (p >>= fun a => (repeatWhile rounds min (fun k => proceed (k + 1)) p).map (a :: ·)) := by
  unfold AgreesAt
  rw [repeatWhile_eq_reply]
  rcases hitem : p c with f | ⟨a | _ | e, n, log⟩
  · rw [collect_of_error hfirst hitem, bind_of_error _ hitem]
    rfl
  · rw [collect_of_first hfirst hstall hitem, bind_of_matched _ hitem, map_eq,
      repeatWhile_eq_reply]
    rcases collect rounds min (fun k => proceed (k + 1)) p 0 (c.moveTo n) with f | h
    · rfl
    · exact congrArg Except.ok (Harvest.settle_reply_cons c.home min c (c.moveTo n) a log h)
  · rw [collect_of_missed hfirst hitem, bind_of_missed _ hitem]
    rfl
  · rw [collect_of_failed hfirst hitem, bind_of_failed _ hitem]
    rfl

end Peel

/-- A number of items is as many parsers in a row. -/
theorem agrees_times (p : Parser α) : ∀ n rounds, n ≤ rounds →
    (times rounds n p).Agrees (each (List.replicate n p))
  | 0, rounds, _ => by
    intro c
    rw [times, between, repeatWhile_eq_reply, collect_of_refused (by simp)]
    rfl
  | n + 1, 0, h => absurd h (Nat.not_succ_le_zero n)
  | n + 1, rounds + 1, h => by
    have ih := agrees_times p n rounds (Nat.le_of_succ_le_succ h)
    have hrest : repeatWhile rounds n (fun k => decide (k + 1 < n + 1)) p = times rounds n p := by
      simp only [times, between, Nat.add_lt_add_iff_right]
    intro c
    refine AgreesAt.trans (agreesAt_repeatWhile_succ (by simp) ?_) ?_
    · intro a log _ hn
      simp [hn]
    · rw [hrest, List.replicate_succ, each_cons]
      exact AgreesAt.bind (.refl c p) fun a n _ _ => AgreesAt.map (ih (c.moveTo n)) _

/-! ## The items that are needed and the others -/

/-- A match that begins on a boundary ends on a boundary further on. -/
def Advances (p : Parser α) : Prop :=
  ∀ c : Cursor, c.Aligned → ∀ a n log, p c = .ok ⟨.matched a, n, log⟩ →
    c.text.IsBoundary n ∧ c.pos < n

theorem IsToken.advances {text : α → Text} (hp : p.IsToken text) (hne : ∀ v, text v ≠ []) :
    p.Advances := by
  intro c hc a n log hitem
  obtain ⟨seen, rest, rfl⟩ := hc.exists_between
  rcases hp seen rest with ⟨v, b, rfl, h⟩ | h <;> cases h.symm.trans hitem
  have hsize : (text a).byteSize ≠ 0 := fun h => hne a (Text.byteSize_eq_zero.1 h)
  refine ⟨⟨seen ++ text a, b, by simp, rfl⟩, ?_⟩
  rw [Cursor.pos_between, Text.byteSize_append]
  omega

/-- More rounds than there is text in front of the cursor change nothing. -/
theorem Advances.collect_rounds (hp : p.Advances) (min : Nat) (proceed : Nat → Bool) :
    ∀ rounds rounds' count seen rest, rest.length < rounds → rest.length < rounds' →
      collect rounds min proceed p count (.between seen rest)
        = collect rounds' min proceed p count (.between seen rest) := by
  intro rounds
  induction rounds with
  | zero => exact fun _ _ _ rest hr _ => absurd hr (Nat.not_lt_zero _)
  | succ rounds ih =>
    intro rounds' count seen rest hr hr'
    obtain ⟨rounds', rfl⟩ : ∃ k, rounds' = k + 1 := ⟨rounds' - 1, by omega⟩
    cases hgo : proceed count with
    | false => rw [collect_of_refused hgo, collect_of_refused hgo]
    | true =>
      rcases hitem : p (.between seen rest) with f | ⟨a | _ | e, n, log⟩
      · rw [collect_of_error hgo hitem, collect_of_error hgo hitem]
      · obtain ⟨hb, hlt⟩ := hp _ (Cursor.aligned_between seen rest) a n log hitem
        obtain ⟨a', b, -, -, hless, hmove⟩ := exists_moveTo rfl hb (Nat.le_of_lt hlt)
        have hlen := hless (Nat.ne_of_gt hlt)
        have hgoes : ¬ (n = (Cursor.between seen rest).pos ∧ min ≤ count + 1) :=
          fun hand => Nat.ne_of_gt hlt hand.1
        rw [collect_of_matched hgo hitem hgoes, collect_of_matched hgo hitem hgoes, hmove,
          ih rounds' (count + 1) (seen ++ a') b (by omega) (by omega)]
      · rw [collect_of_missed hgo hitem, collect_of_missed hgo hitem]
      · rw [collect_of_failed hgo hitem, collect_of_failed hgo hitem]

theorem Advances.repeatWhile_rounds (hp : p.Advances) {rounds rounds' : Nat} {seen rest : Text}
    (hr : rest.length < rounds) (hr' : rest.length < rounds') (min : Nat) (proceed : Nat → Bool) :
    repeatWhile rounds min proceed p (.between seen rest)
      = repeatWhile rounds' min proceed p (.between seen rest) := by
  rw [repeatWhile_eq_reply, repeatWhile_eq_reply,
    hp.collect_rounds min proceed rounds rounds' 0 seen rest hr hr']

/-- The items that a repetition needs may be read before the others, which leaves a round less for
each of them. -/
theorem Advances.agreesAt_repeatWhile (hp : p.Advances) (rounds : Nat) :
    ∀ (m : Nat) (proceed : Nat → Bool) (c : Cursor), c.Aligned → (∀ j < m, proceed j = true) →
      AgreesAt c (repeatWhile (m + rounds) m proceed p)
        (each (List.replicate m p) >>= fun as =>
          (repeatWhile rounds 0 (fun k => proceed (k + m)) p).map (as ++ ·)) := by
  intro m
  induction m with
  | zero =>
    intro proceed c _ _
    have hrow : (each (List.replicate 0 p) >>= fun as =>
          (repeatWhile rounds 0 (fun k => proceed (k + 0)) p).map (as ++ ·))
        = repeatWhile rounds 0 proceed p := (succeed_bind [] _).trans (map_self _)
    rw [hrow, Nat.zero_add]
    exact .refl c _
  | succ m ih =>
    intro proceed c hc hgo
    have hrow : (each (List.replicate (m + 1) p) >>= fun as =>
          (repeatWhile rounds 0 (fun k => proceed (k + (m + 1))) p).map (as ++ ·))
        = p >>= fun a => (each (List.replicate m p) >>= fun as =>
          (repeatWhile rounds 0 (fun k => proceed (k + m + 1)) p).map (as ++ ·)).map (a :: ·) := by
      rw [List.replicate_succ, each_cons]
      simp only [← bind_succeed, bind_bracket, succeed_bind, List.cons_append]
      rfl
    rw [hrow, show m + 1 + rounds = m + rounds + 1 by omega]
    refine AgreesAt.trans (agreesAt_repeatWhile_succ (hgo 0 (Nat.succ_pos m)) ?_) ?_
    · intro a log hitem
      exact absurd (hp c hc a c.pos log hitem).2 (Nat.lt_irrefl c.pos)
    · refine AgreesAt.bind (.refl c p) fun a n log hitem => AgreesAt.map ?_ _
      have hb := (hp c hc a n log hitem).1
      exact ih (fun k => proceed (k + 1)) (c.moveTo n) hb fun j hj => hgo (j + 1) (by omega)

/-- A repetition is the items that it needs and then, behind them, those that it does not need. -/
theorem Advances.quiet_repeatWhile (hp : p.Advances) {m : Nat} {proceed : Nat → Bool}
    (hgo : ∀ j < m, proceed j = true) {seen rest : Text} {rounds : Nat}
    (hr : rest.length < rounds) :
    (repeatWhile rounds m proceed p).quiet (.between seen rest)
      = ((pair (times rounds m p) (repeatWhile rounds 0 (fun k => proceed (k + m)) p)).map
          fun v => v.1 ++ v.2).quiet (.between seen rest) := by
  have hc := Cursor.aligned_between seen rest
  have hmore : rest.length < m + rounds := Nat.lt_add_left m hr
  have htimes : AgreesAt (.between seen rest) (each (List.replicate m p)) (times rounds m p) := by
    have hrow := agrees_times p m (m + rounds) (Nat.le_add_right m rounds) (.between seen rest)
    unfold AgreesAt
    rw [← hrow, times, between, times, between, hp.repeatWhile_rounds hr hmore]
  have hwhole := (hp.agreesAt_repeatWhile rounds m proceed _ hc hgo).trans
    (htimes.bind fun as n _ _ => .refl (Cursor.moveTo _ n) _)
  rw [map_pair, ← hwhole.quiet_attempt, attempt_repeatWhile, quiet, quiet,
    hp.repeatWhile_rounds hr hmore]

/-- As many items as are needed are as many parsers in a row, whatever the parser does. And if it
moves forward with each match, the items that a repetition needs may be read first, by a repetition
of their own, and then those that it does not need: the lists put together are the list of the
whole, and the outcome and the place where it stops are the same. -/
theorem repetitions_in_a_row (p : Parser α) :
    (∀ (container : Container) (n rounds : Nat), n ≤ rounds →
      (times rounds n p).quiet = (all (container.family (List.replicate n p))).quiet)
    ∧ (p.Advances → ∀ (seen rest : Text) (rounds : Nat), rest.length < rounds →
      (∀ m n, m ≤ n → (between rounds m n p).quiet (.between seen rest)
        = ((pair (times rounds m p) (atMost rounds (n - m) p)).map
            fun v => v.1 ++ v.2).quiet (.between seen rest))
      ∧ ∀ m, (atLeast rounds m p).quiet (.between seen rest)
        = ((pair (times rounds m p) (zeroOrMore rounds p)).map
            fun v => v.1 ++ v.2).quiet (.between seen rest)) := by
  refine ⟨fun container n rounds hn => ?_, fun hp seen rest rounds hr => ⟨fun m n hmn => ?_,
    fun m => ?_⟩⟩
  · have hagrees := (agrees_times p n rounds hn).quiet_attempt
    rw [times, between, attempt_repeatWhile] at hagrees
    rw [all, Container.members_family, times, between, hagrees]
  · have hgo : ∀ j < m, decide (j < n) = true := fun j hj => by
      simpa using Nat.lt_of_lt_of_le hj hmn
    have hrest : (fun k => decide (k + m < n)) = fun k => decide (k < n - m) := by
      funext k
      simp only [Nat.lt_sub_iff_add_lt]
    rw [between, hp.quiet_repeatWhile hgo hr, hrest, atMost, between]
  · rw [atLeast, hp.quiet_repeatWhile (fun _ _ => rfl) hr, zeroOrMore, atLeast]

/-- Two letters may both be absent; and of up to three letters, the one that is needed is read
first. -/
theorem repetitions_in_a_row_letters : (char 'a').Advances
    ∧ (times 2 2 (char 'a').optional).quiet (.start ['b'])
      = (all (Container.tuple.family (List.replicate 2 (char 'a').optional))).quiet (.start ['b'])
    ∧ (times 2 2 (char 'a').optional).quiet (.start ['b'])
      = .ok ⟨.matched [.absent, .absent], 0, []⟩
    ∧ (between 5 1 3 (char 'a')).quiet (.between ['é'] ['a', 'a', 'b'])
      = ((pair (times 5 1 (char 'a')) (atMost 5 2 (char 'a'))).map fun v => v.1 ++ v.2).quiet
          (.between ['é'] ['a', 'a', 'b'])
    ∧ (between 5 1 3 (char 'a')).quiet (.between ['é'] ['a', 'a', 'b'])
      = .ok ⟨.matched ['a', 'a'], 4, []⟩ := by
  have hp : (char 'a').Advances := (isToken_charWhere _).advances (by simp)
  have hrow := (repetitions_in_a_row (char 'a').optional).1 .tuple 2 2 (Nat.le_refl 2)
  have hsplit := ((repetitions_in_a_row (char 'a')).2 hp ['é'] ['a', 'a', 'b'] 5 (by decide)).1
    1 3 (by decide)
  exact ⟨hp, congrFun hrow _, rfl, hsplit, rfl⟩

end Parser

end Backtrack
