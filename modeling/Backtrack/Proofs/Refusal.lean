import Mathlib.Tactic.SplitIfs
import Backtrack.Parser.Character
import Backtrack.Parser.Repetition
import Backtrack.Proofs.Run

/-!
# What a repetition asks its condition

A repetition asks before each item whether the number of items so far lets it go on, and of the last
item it asks once more. The second question was asked before that item, so its answer is known, and
the repetition matches as soon as it has the items it needs (`Parser.repeatWhile_eq_reply`). It
never asks beyond the first number that is refused, so the condition may as well be a bound
(`Parser.collect_eq_below`).
-/

namespace Backtrack

namespace Harvest

variable {α : Type}

/-- The reply of a repetition from a cursor that needs `min` items and has collected these. -/
def reply (min : Nat) (c : Cursor) (h : Harvest α) : Reply (List α) :=
  match h.error with
  | some e => ⟨.failed e, c.home, h.log ++ [.repetitionError h.items.length]⟩
  | none =>
    if min ≤ h.items.length then ⟨.matched h.items, h.stop, h.log⟩
    else ⟨.missed, c.home, h.log ++ [.repetitionShort h.items.length min c.pos]⟩

section Reply

variable {min : Nat} {c : Cursor} {h : Harvest α}

theorem reply_matched_iff {as : List α} {n : Nat} :
    (h.reply min c).outcome = .matched as ∧ (h.reply min c).stop = n
      ↔ h.error = none ∧ min ≤ h.items.length ∧ h.items = as ∧ h.stop = n := by
  rcases h with ⟨items, m, _ | e, log⟩ <;> simp only [reply]
  · split_ifs with hmin <;> simp [hmin]
  · simp

theorem reply_failed_iff {e : ParseError} :
    (h.reply min c).outcome = .failed e ↔ h.error = some e := by
  rcases h with ⟨items, m, _ | e', log⟩ <;> simp only [reply]
  · split_ifs <;> simp
  · simp

theorem reply_missed_iff :
    (h.reply min c).outcome = .missed ↔ h.error = none ∧ h.items.length < min := by
  rcases h with ⟨items, m, _ | e, log⟩ <;> simp only [reply]
  · split_ifs with hmin
    · simp [hmin]
    · simp [Nat.lt_of_not_le hmin]
  · simp

theorem stop_reply_of_not_match (hm : (h.reply min c).outcome.isMatch = false) :
    (h.reply min c).stop = c.home := by
  rcases h with ⟨items, m, _ | e, log⟩ <;> simp only [reply] at hm ⊢
  split_ifs at hm ⊢
  · cases hm
  · rfl

end Reply

end Harvest

namespace Parser

variable {α : Type}

/-! ## One round -/

section Round

variable {item : Parser α} {proceed : Nat → Bool} {rounds min count n : Nat} {c : Cursor}
  {log : List Record}

theorem collect_of_refused (h : proceed count = false) :
    collect rounds min proceed item count c = .ok ⟨[], c.pos, none, []⟩ := by
  unfold collect
  rw [if_neg (by simp [h])]

theorem collect_of_spent (h : proceed count = true) :
    collect 0 min proceed item count c = .error .roundsSpent := by
  rw [collect, if_pos h]

theorem collect_of_error {f : Fault} (h : proceed count = true) (hitem : item c = .error f) :
    collect (rounds + 1) min proceed item count c = .error f := by
  rw [collect, if_pos h, hitem]
  rfl

theorem collect_of_missed (h : proceed count = true) (hitem : item c = .ok ⟨.missed, n, log⟩) :
    collect (rounds + 1) min proceed item count c = .ok ⟨[], c.home, none, log⟩ := by
  rw [collect, if_pos h, hitem]
  rfl

theorem collect_of_failed {e : ParseError} (h : proceed count = true)
    (hitem : item c = .ok ⟨.failed e, n, log⟩) :
    collect (rounds + 1) min proceed item count c = .ok ⟨[], n, some e, log⟩ := by
  rw [collect, if_pos h, hitem]
  rfl

/-- Once there are enough items, one that reads nothing is the last. -/
theorem collect_of_stalled {a : α} (h : proceed count = true)
    (hitem : item c = .ok ⟨.matched a, n, log⟩) (hstall : n = c.pos ∧ min ≤ count + 1) :
    collect (rounds + 1) min proceed item count c = .ok ⟨[a], n, none, log⟩ := by
  rw [collect, if_pos h, hitem, Run.ok_bind]
  dsimp only
  rw [if_pos hstall]
  rfl

theorem collect_of_matched {a : α} (h : proceed count = true)
    (hitem : item c = .ok ⟨.matched a, n, log⟩) (hgo : ¬ (n = c.pos ∧ min ≤ count + 1)) :
    collect (rounds + 1) min proceed item count c
      = Harvest.cons a log <$> collect rounds min proceed item (count + 1) (c.moveTo n) := by
  rw [collect, if_pos h, hitem, Run.ok_bind]
  dsimp only
  rw [if_neg hgo]
  rcases collect rounds min proceed item (count + 1) (c.moveTo n) with f | h <;> rfl

/-- What holds where a repetition stops, and holds before an item if it does behind it, holds of all
that a repetition collects. -/
theorem collect_induction {P : Nat → Cursor → Harvest α → Prop}
    (refused : ∀ count c, proceed count = false → P count c ⟨[], c.pos, none, []⟩)
    (missed : ∀ count c n log, proceed count = true → item c = .ok ⟨.missed, n, log⟩ →
      P count c ⟨[], c.home, none, log⟩)
    (failed : ∀ count c n log e, proceed count = true → item c = .ok ⟨.failed e, n, log⟩ →
      P count c ⟨[], n, some e, log⟩)
    (stalled : ∀ count c n log a, proceed count = true → item c = .ok ⟨.matched a, n, log⟩ →
      n = c.pos ∧ min ≤ count + 1 → P count c ⟨[a], n, none, log⟩)
    (matched : ∀ count c n log a h, proceed count = true → item c = .ok ⟨.matched a, n, log⟩ →
      ¬ (n = c.pos ∧ min ≤ count + 1) → P (count + 1) (c.moveTo n) h → P count c (h.cons a log)) :
    ∀ {rounds count c h}, collect rounds min proceed item count c = .ok h → P count c h := by
  intro rounds
  induction rounds with
  | zero =>
    intro count c h hrun
    cases hgo : proceed count with
    | false =>
      rw [collect_of_refused hgo] at hrun
      cases hrun
      exact refused count c hgo
    | true =>
      rw [collect_of_spent hgo] at hrun
      cases hrun
  | succ rounds ih =>
    intro count c h hrun
    cases hgo : proceed count with
    | false =>
      rw [collect_of_refused hgo] at hrun
      cases hrun
      exact refused count c hgo
    | true =>
      rcases hitem : item c with f | ⟨a | _ | e, n, log⟩
      · rw [collect_of_error hgo hitem] at hrun
        cases hrun
      · by_cases hstall : n = c.pos ∧ min ≤ count + 1
        · rw [collect_of_stalled hgo hitem hstall] at hrun
          cases hrun
          exact stalled count c n log a hgo hitem hstall
        · rw [collect_of_matched hgo hitem hstall] at hrun
          rcases hrest : collect rounds min proceed item (count + 1) (c.moveTo n) with f | h' <;>
            rw [hrest] at hrun <;> cases hrun
          exact matched count c n log a h' hgo hitem hstall (ih hrest)
      · rw [collect_of_missed hgo hitem] at hrun
        cases hrun
        exact missed count c n log hgo hitem
      · rw [collect_of_failed hgo hitem] at hrun
        cases hrun
        exact failed count c n log e hgo hitem

end Round

/-! ## The answers it gets -/

/-- Before each item that was collected, the number of those before it was accepted. -/
theorem proceed_of_collect {item : Parser α} {proceed : Nat → Bool} {rounds min count : Nat}
    {c : Cursor} {h : Harvest α} (hrun : collect rounds min proceed item count c = .ok h) :
    ∀ j < h.items.length, proceed (count + j) = true := by
  refine collect_induction (P := fun count _ h => ∀ j < h.items.length, proceed (count + j) = true)
    ?_ ?_ ?_ ?_ ?_ hrun
  · intro count c _ j hj
    simp at hj
  · intro count c n log _ _ j hj
    simp at hj
  · intro count c n log e _ _ j hj
    simp at hj
  · intro count c n log a hgo _ _ j hj
    have hj0 : j = 0 := by simpa using hj
    rw [hj0]
    exact hgo
  · intro count c n log a h hgo _ _ ih j hj
    rcases j with _ | j
    · exact hgo
    · have hj' : j < h.items.length := by simpa [Harvest.cons] using hj
      rw [show count + (j + 1) = count + 1 + j by omega]
      exact ih j hj'

/-- The last item that was collected passes the test at the end. -/
theorem accepts_last_of_collect {item : Parser α} {proceed : Nat → Bool} {rounds min : Nat}
    {c : Cursor} {h : Harvest α} (hrun : collect rounds min proceed item 0 c = .ok h) :
    h.items.length = 0 ∨ proceed (h.items.length - 1) = true := by
  by_cases hlen : h.items.length = 0
  · exact .inl hlen
  · have hlast := proceed_of_collect hrun (h.items.length - 1) (by omega)
    rw [Nat.zero_add] at hlast
    exact .inr hlast

/-- The reply of a repetition depends on how many items it has, and no more on the condition. -/
theorem repeatWhile_eq_reply (rounds min : Nat) (proceed : Nat → Bool) (item : Parser α)
    (c : Cursor) : repeatWhile rounds min proceed item c
      = Harvest.reply min c <$> collect rounds min proceed item 0 c := by
  rw [repeatWhile]
  rcases hrun : collect rounds min proceed item 0 c with f | ⟨items, n, _ | e, log⟩
  · rfl
  · have htest : (items.length == 0 || proceed (items.length - 1)) = true := by
      simpa using accepts_last_of_collect hrun
    rw [Run.ok_bind]
    dsimp only
    show _ = Except.ok (Harvest.reply min c ⟨items, n, none, log⟩)
    rw [htest, Bool.and_true, Harvest.reply]
    dsimp only
    by_cases hmin : min ≤ items.length
    · rw [if_pos (by simpa using hmin), if_pos hmin]
      rfl
    · rw [if_neg (by simpa using hmin), if_neg hmin]
      rfl
  · rfl

theorem exists_collect_of_repeatWhile {item : Parser α} {proceed : Nat → Bool} {rounds min : Nat}
    {c : Cursor} {r : Reply (List α)} (hr : repeatWhile rounds min proceed item c = .ok r) :
    ∃ h, collect rounds min proceed item 0 c = .ok h ∧ h.reply min c = r := by
  rw [repeatWhile_eq_reply] at hr
  rcases hrun : collect rounds min proceed item 0 c with f | h <;> rw [hrun] at hr <;> cases hr
  exact ⟨h, rfl, rfl⟩

/-! ## The first refusal -/

/-- A condition goes no further than the first number it refuses. -/
theorem collect_eq_below {item : Parser α} {proceed : Nat → Bool} {min k : Nat}
    (hk : proceed k = false) (hbefore : ∀ j < k, proceed j = true) :
    ∀ (rounds count : Nat) (c : Cursor), count ≤ k →
      collect rounds min proceed item count c = collect rounds min (· < k) item count c := by
  intro rounds
  induction rounds with
  | zero =>
    intro count c hcount
    by_cases hlt : count < k
    · rw [collect_of_spent (hbefore count hlt), collect_of_spent (by simpa using hlt)]
    · obtain rfl : count = k := by omega
      rw [collect_of_refused hk, collect_of_refused (by simp)]
  | succ rounds ih =>
    intro count c hcount
    by_cases hlt : count < k
    · have hgo := hbefore count hlt
      have hgo' : decide (count < k) = true := by simpa using hlt
      rcases hitem : item c with f | ⟨a | _ | e, n, log⟩
      · rw [collect_of_error hgo hitem, collect_of_error hgo' hitem]
      · by_cases hstall : n = c.pos ∧ min ≤ count + 1
        · rw [collect_of_stalled hgo hitem hstall, collect_of_stalled hgo' hitem hstall]
        · rw [collect_of_matched hgo hitem hstall, collect_of_matched hgo' hitem hstall,
            ih (count + 1) (c.moveTo n) hlt]
      · rw [collect_of_missed hgo hitem, collect_of_missed hgo' hitem]
      · rw [collect_of_failed hgo hitem, collect_of_failed hgo' hitem]
    · obtain rfl : count = k := by omega
      rw [collect_of_refused hk, collect_of_refused (by simp)]

theorem repeatWhile_eq_below {item : Parser α} {proceed : Nat → Bool} {k : Nat}
    (hk : proceed k = false) (hbefore : ∀ j < k, proceed j = true) (rounds min : Nat) :
    repeatWhile rounds min proceed item = repeatWhile rounds min (· < k) item := by
  funext c
  rw [repeatWhile_eq_reply, repeatWhile_eq_reply,
    collect_eq_below hk hbefore rounds 0 c (Nat.zero_le k)]

/-- A repetition under any condition is the one up to the first number that the condition refuses,
and the one without an upper bound if it refuses none; and whatever number of items a run collects,
the test of the last one holds, so that the run matches exactly if they are enough. -/
theorem repeatWhile_eq_between (rounds min : Nat) (proceed : Nat → Bool) (item : Parser α) :
    (∀ k, proceed k = false → (∀ j < k, proceed j = true) →
      repeatWhile rounds min proceed item = between rounds min k item)
    ∧ ((∀ k, proceed k = true) →
      repeatWhile rounds min proceed item = atLeast rounds min item)
    ∧ ∀ c h, collect rounds min proceed item 0 c = .ok h → h.error = none →
      (h.items.length = 0 ∨ proceed (h.items.length - 1) = true)
      ∧ ∃ r, repeatWhile rounds min proceed item c = .ok r
        ∧ r.outcome = if min ≤ h.items.length then .matched h.items else .missed := by
  refine ⟨fun k hk hbefore => ?_, fun hall => ?_, fun c h hrun herror => ?_⟩
  · exact repeatWhile_eq_below hk hbefore rounds min
  · have htrue : proceed = fun _ => true := funext hall
    rw [htrue, atLeast]
  · refine ⟨accepts_last_of_collect hrun, h.reply min c, ?_, ?_⟩
    · rw [repeatWhile_eq_reply, hrun]
      rfl
    · rw [Harvest.reply, herror]
      dsimp only
      split_ifs <;> rfl

/-- A condition that holds again behind the number it refuses comes to two items at most. -/
theorem repeatWhile_eq_between_exceptAt :
    (2 != 2) = false ∧ (∀ j < 2, (j != 2) = true)
      ∧ repeatWhile 4 1 (· != 2) anyChar = between 4 1 2 anyChar
      ∧ repeatWhile 4 1 (· != 2) anyChar (.start ['a', 'b', 'c'])
        = .ok ⟨.matched ['a', 'b'], 2, []⟩ := by
  have hrefused : (2 != 2) = false := rfl
  have hbefore : ∀ j < 2, (j != 2) = true := by decide
  have heq := (repeatWhile_eq_between 4 1 (· != 2) anyChar).1 2 hrefused hbefore
  exact ⟨hrefused, hbefore, heq, rfl⟩

end Parser

end Backtrack
