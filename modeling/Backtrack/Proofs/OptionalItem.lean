import Backtrack.Proofs.Greedy
import Backtrack.Proofs.Matching
import Backtrack.Proofs.Unrolling

/-!
# Repetitions of an item that need not be there

An optional item matches also where the item misses, and then it reads nothing. So where a
repetition of the item ends, the repetition of the optional item goes on with items that are absent,
until it has the items it needs, and takes one of them in any case
(`Parser.Advances.repeat_optional`). Up to that place both go along one walk, on which each item
reads something (`Parser.Advances.exists_collect_eq`).
-/

namespace Backtrack

namespace Harvest

variable {α : Type}

/-- The harvest with items and their records in front. -/
def behind (as : List α) (log : List Record) (h : Harvest α) : Harvest α :=
  ⟨as ++ h.items, h.stop, h.error, log ++ h.log⟩

theorem cons_behind (a : α) (as : List α) (log log' : List Record) (h : Harvest α) :
    (h.behind as log').cons a log = h.behind (a :: as) (log ++ log') := by
  simp only [behind, cons, List.cons_append, List.append_assoc]

end Harvest

namespace Parser

variable {α β : Type} {p : Parser α}

/-! ## The optional item -/

section Optional

variable {c : Cursor} {n : Nat} {log : List Record}

theorem optional_of_matched {a : α} (h : p c = .ok ⟨.matched a, n, log⟩) :
    p.optional c = .ok ⟨.matched (.present a), n, log⟩ := by
  rw [optional, h]
  rfl

theorem optional_of_missed (h : p c = .ok ⟨.missed, n, log⟩) :
    p.optional c = .ok ⟨.matched .absent, c.home, log⟩ := by
  rw [optional, h]
  rfl

theorem optional_of_failed {e : ParseError} (h : p c = .ok ⟨.failed e, n, log⟩) :
    p.optional c = .ok ⟨.failed e, c.home, log⟩ := by
  rw [optional, h]
  rfl

theorem optional_of_error {f : Fault} (h : p c = .error f) : p.optional c = .error f := by
  rw [optional, h]
  rfl

end Optional

/-! ## Along a walk -/

/-- A parser that advances matches as often as it does and then comes to where it does not. -/
theorem Advances.exists_walk (hp : p.Advances) (seen rest : Text) :
    ∃ as d, p.Walk (.between seen rest) as d ∧ d.Aligned ∧ as.length ≤ rest.length
      ∧ ¬ p.MatchesAt d := by
  induction hk : rest.length using Nat.strong_induction_on generalizing seen rest with
  | h k ih =>
    by_cases hmatch : p.MatchesAt (.between seen rest)
    · obtain ⟨a, n, log, h⟩ := hmatch
      obtain ⟨hb, hlt⟩ := hp _ (Cursor.aligned_between seen rest) a n log h
      obtain ⟨x, b, -, -, hless, hmove⟩ := exists_moveTo rfl hb (Nat.le_of_lt hlt)
      have hlen := hless (Nat.ne_of_gt hlt)
      obtain ⟨as, d, hwalk, hd, has, hstop⟩ := ih b.length (by omega) (seen ++ x) b rfl
      rw [← hmove] at hwalk
      exact ⟨a :: as, d, .step h hwalk, hd, by rw [List.length_cons]; omega, hstop⟩
    · exact ⟨[], _, .stay _, Cursor.aligned_between seen rest, Nat.zero_le _, hmatch⟩

/-- An item that matches where the parser does, with an image of its value. -/
def Follows (item : Parser β) (f : α → β) (p : Parser α) : Prop :=
  ∀ c a n log, p c = .ok ⟨.matched a, n, log⟩ → item c = .ok ⟨.matched (f a), n, log⟩

theorem follows_self (p : Parser α) : p.Follows id p := fun _ _ _ _ h => h

theorem follows_optional (p : Parser α) : p.optional.Follows .present p :=
  fun _ _ _ _ h => optional_of_matched h

section Walk

variable {item : Parser β} {f : α → β} {c d : Cursor} {as : List α}

/-- A repetition takes all of the items on a walk on which each item reads something. -/
theorem Advances.exists_collect_eq (hp : p.Advances) (hitem : item.Follows f p)
    (hwalk : p.Walk c as d) (hc : c.Aligned) (min : Nat) : ∀ count, ∃ log, ∀ rounds,
      collect (as.length + rounds) min (fun _ => true) item count c
        = Harvest.behind (as.map f) log
            <$> collect rounds min (fun _ => true) item (count + as.length) d := by
  induction hwalk with
  | stay c =>
    intro count
    refine ⟨[], fun rounds => ?_⟩
    rw [List.length_nil, Nat.zero_add, Nat.add_zero]
    rcases collect rounds min (fun _ => true) item count c with f | h <;> rfl
  | @step c d a as n log h _ ih =>
    intro count
    obtain ⟨hb, hlt⟩ := hp c hc a n log h
    obtain ⟨logs, hrest⟩ := ih hb (count + 1)
    refine ⟨log ++ logs, fun rounds => ?_⟩
    have hgo : ¬ (n = c.pos ∧ min ≤ count + 1) := fun hand => Nat.ne_of_gt hlt hand.1
    have hrounds : (a :: as).length + rounds = as.length + rounds + 1 := by
      rw [List.length_cons]
      omega
    have hcount : count + (a :: as).length = count + 1 + as.length := by
      rw [List.length_cons]
      omega
    rw [hrounds, hcount, collect_of_matched rfl (hitem c a n log h) hgo, hrest]
    rcases collect rounds min (fun _ => true) item (count + 1 + as.length) d with f | h
    · rfl
    · exact congrArg Except.ok (Harvest.cons_behind (f a) (as.map f) log logs h)

/-- With a round left where the walk ends, the item runs there. -/
theorem Advances.exists_collect_succ (hp : p.Advances) (hitem : item.Follows f p)
    (hwalk : p.Walk c as d) (hc : c.Aligned) (min : Nat) {rounds : Nat} (hr : as.length < rounds) :
    ∃ more log, collect rounds min (fun _ => true) item 0 c
      = Harvest.behind (as.map f) log
          <$> collect (more + 1) min (fun _ => true) item (0 + as.length) d := by
  obtain ⟨more, rfl⟩ : ∃ m, rounds = as.length + (m + 1) := ⟨rounds - as.length - 1, by omega⟩
  obtain ⟨log, hcollect⟩ := hp.exists_collect_eq hitem hwalk hc min 0
  exact ⟨more, log, hcollect (more + 1)⟩

end Walk

/-- An item that reads nothing is taken once, and more often as far as more items are needed. -/
theorem exists_collect_of_stall {item : Parser α} {c : Cursor} {a : α} {log : List Record}
    (h : item c = .ok ⟨.matched a, c.pos, log⟩) (min : Nat) :
    ∀ rounds count, max 1 (min - count) ≤ rounds → ∃ logs,
      collect rounds min (fun _ => true) item count c
        = .ok ⟨List.replicate (max 1 (min - count)) a, c.pos, none, logs⟩
  | 0, count, hrounds => by omega
  | rounds + 1, count, hrounds => by
    by_cases hstop : min ≤ count + 1
    · refine ⟨log, ?_⟩
      rw [collect_of_stalled rfl h ⟨rfl, hstop⟩, show max 1 (min - count) = 1 by omega]
      rfl
    · obtain ⟨logs, hrest⟩ := exists_collect_of_stall h min rounds (count + 1) (by omega)
      refine ⟨log ++ logs, ?_⟩
      have hmore : max 1 (min - count) = max 1 (min - (count + 1)) + 1 := by omega
      rw [collect_of_matched rfl h fun hand => hstop hand.2, Cursor.moveTo_pos, hrest, hmore,
        List.replicate_succ]
      rfl

/-! ## Where the walk ends -/

section End

variable {item : Parser α} {c : Cursor} {rounds min n : Nat} {items : List α} {log : List Record}

theorem quiet_atLeast_of_items
    (h : collect rounds min (fun _ => true) item 0 c = .ok ⟨items, n, none, log⟩)
    (hmin : min ≤ items.length) :
    (atLeast rounds min item).quiet c = .ok ⟨.matched items, n, []⟩ := by
  rw [quiet, atLeast, repeatWhile_eq_reply, h]
  show Except.ok ((Harvest.reply min c ⟨items, n, none, log⟩).quiet) = _
  rw [Harvest.reply]
  dsimp only
  rw [if_pos hmin]
  rfl

theorem quiet_atLeast_of_item_failed {e : ParseError}
    (h : collect rounds min (fun _ => true) item 0 c = .ok ⟨items, n, some e, log⟩) :
    (atLeast rounds min item).quiet c = .ok ⟨.failed e, c.home, []⟩ := by
  rw [quiet, atLeast, repeatWhile_eq_reply, h]
  rfl

theorem quiet_atLeast_of_item_error {f : Fault}
    (h : collect rounds min (fun _ => true) item 0 c = .error f) :
    (atLeast rounds min item).quiet c = .error f := by
  rw [quiet, atLeast, repeatWhile_eq_reply, h]
  rfl

end End

section Walk

variable {item : Parser β} {f : α → β} {c d : Cursor} {as : List α} {n : Nat} {log : List Record}
  (hp : p.Advances) (hwalk : p.Walk c as d) (hc : c.Aligned)

include hp hwalk hc

/-- An error at the end of the walk is the one of the repetition. -/
theorem Advances.quiet_atLeast_of_failed (hitem : item.Follows f p) {e : ParseError}
    (h : item d = .ok ⟨.failed e, n, log⟩) (min : Nat) {rounds : Nat} (hr : as.length < rounds) :
    (atLeast rounds min item).quiet c = .ok ⟨.failed e, c.pos, []⟩ := by
  obtain ⟨more, logs, hrun⟩ := hp.exists_collect_succ hitem hwalk hc min hr
  rw [collect_of_failed rfl h] at hrun
  rw [quiet_atLeast_of_item_failed hrun, hc.home_eq]

theorem Advances.quiet_atLeast_of_error (hitem : item.Follows f p) {x : Fault}
    (h : item d = .error x) (min : Nat) {rounds : Nat} (hr : as.length < rounds) :
    (atLeast rounds min item).quiet c = .error x := by
  obtain ⟨more, logs, hrun⟩ := hp.exists_collect_succ hitem hwalk hc min hr
  rw [collect_of_error rfl h] at hrun
  exact quiet_atLeast_of_item_error hrun

variable (hd : d.Aligned) (h : p d = .ok ⟨.missed, n, log⟩)

include hd h

/-- The items are those on the walk. -/
theorem Advances.quiet_zeroOrMore_of_missed {rounds : Nat} (hr : as.length < rounds) :
    (zeroOrMore rounds p).quiet c = .ok ⟨.matched as, d.pos, []⟩ := by
  obtain ⟨more, logs, hrun⟩ := hp.exists_collect_succ (follows_self p) hwalk hc 0 hr
  rw [collect_of_missed rfl h, hd.home_eq, List.map_id] at hrun
  have hquiet := quiet_atLeast_of_items hrun (Nat.zero_le _)
  rw [List.append_nil] at hquiet
  exact hquiet

/-- Behind the items on the walk, one is absent, or as many as more are needed. -/
theorem Advances.quiet_atLeast_optional_of_missed (min : Nat) {rounds : Nat}
    (hr : max min (as.length + 1) ≤ rounds) :
    (atLeast rounds min p.optional).quiet c
      = .ok ⟨.matched (as.map .present ++ List.replicate (max 1 (min - as.length)) .absent),
          d.pos, []⟩ := by
  obtain ⟨more, rfl⟩ : ∃ m, rounds = as.length + m := ⟨rounds - as.length, by omega⟩
  obtain ⟨logs, hcollect⟩ := hp.exists_collect_eq (follows_optional p) hwalk hc min 0
  have habsent := optional_of_missed h
  rw [hd.home_eq] at habsent
  have hrun := hcollect more
  obtain ⟨logs', hstall⟩ := exists_collect_of_stall habsent min more (0 + as.length) (by omega)
  rw [hstall, Nat.zero_add] at hrun
  refine quiet_atLeast_of_items hrun ?_
  rw [List.length_append, List.length_map, List.length_replicate]
  omega

end Walk

theorem quiet_map (f : α → β) (p : Parser α) (c : Cursor) :
    (p.map f).quiet c = Reply.map f <$> p.quiet c := by
  rw [quiet, quiet, map_eq]
  rcases p c with x | r <;> rfl

/-- A repetition of an optional item is the one of the item with absent items behind its own. -/
theorem Advances.quiet_atLeast_optional (hp : p.Advances) (seen rest : Text) {min rounds : Nat}
    (hr : max min (rest.length + 1) ≤ rounds) :
    (atLeast rounds min p.optional).quiet (.between seen rest)
      = ((zeroOrMore rounds p).map fun as =>
          as.map .present ++ List.replicate (max 1 (min - as.length)) .absent).quiet
            (.between seen rest) := by
  have hc := Cursor.aligned_between seen rest
  obtain ⟨as, d, hwalk, hd, hlen, hstop⟩ := hp.exists_walk seen rest
  have hmore : as.length < rounds := by omega
  rw [quiet_map]
  rcases h : p d with x | ⟨a | _ | e, n, log⟩
  · rw [hp.quiet_atLeast_of_error hwalk hc (follows_optional p) (optional_of_error h) min hmore,
      zeroOrMore, hp.quiet_atLeast_of_error hwalk hc (follows_self p) h 0 hmore]
    rfl
  · exact absurd ⟨a, n, log, h⟩ hstop
  · rw [hp.quiet_atLeast_optional_of_missed hwalk hc hd h min (by omega),
      hp.quiet_zeroOrMore_of_missed hwalk hc hd h hmore]
    rfl
  · rw [hp.quiet_atLeast_of_failed hwalk hc (follows_optional p) (optional_of_failed h) min hmore,
      zeroOrMore, hp.quiet_atLeast_of_failed hwalk hc (follows_self p) h 0 hmore]
    rfl

/-- A repetition of an optional item has the outcome, the error and the place where it stops of the
repetition of the item, and behind the items that are there others are absent: one of them, or as
many as more are needed. The repetition of the item takes the items on a walk that comes to where
the item does not match, and it matches unless the item reports an error there or is at a fault. -/
theorem Advances.repeat_optional (hp : p.Advances) (seen rest : Text) :
    let c := Cursor.between seen rest
    (∀ rounds, rest.length < rounds → (zeroOrMore rounds p.optional).quiet c
      = ((zeroOrMore rounds p).map fun as => as.map .present ++ [.absent]).quiet c)
    ∧ (∀ min rounds, max min (rest.length + 1) ≤ rounds → (atLeast rounds min p.optional).quiet c
      = ((zeroOrMore rounds p).map fun as =>
          as.map .present ++ List.replicate (max 1 (min - as.length)) .absent).quiet c)
    ∧ ∃ as d, p.Walk c as d ∧ ¬ p.MatchesAt d ∧ ∀ rounds, rest.length < rounds →
      (p.MissesAt d → (zeroOrMore rounds p).quiet c = .ok ⟨.matched as, d.pos, []⟩)
      ∧ (∀ e n log, p d = .ok ⟨.failed e, n, log⟩ →
        (zeroOrMore rounds p).quiet c = .ok ⟨.failed e, c.pos, []⟩)
      ∧ ∀ x, p d = .error x → (zeroOrMore rounds p).quiet c = .error x := by
  intro c
  have hc : c.Aligned := Cursor.aligned_between seen rest
  obtain ⟨as, d, hwalk, hd, hlen, hstop⟩ := hp.exists_walk seen rest
  refine ⟨fun rounds hr => ?_, fun min rounds hr => hp.quiet_atLeast_optional seen rest hr,
    as, d, hwalk, hstop, fun rounds hr => ⟨?_, fun e n log h => ?_, fun x h => ?_⟩⟩
  · have hone : ∀ as : List α, max 1 (0 - as.length) = 1 := fun as => by omega
    have hmax : max 0 (rest.length + 1) ≤ rounds := by omega
    have hoptional := hp.quiet_atLeast_optional seen rest hmax
    simp only [hone, List.replicate_one] at hoptional
    exact hoptional
  · rintro ⟨n, log, h⟩
    exact hp.quiet_zeroOrMore_of_missed hwalk hc hd h (by omega)
  · exact hp.quiet_atLeast_of_failed hwalk hc (follows_self p) h 0 (by omega)
  · exact hp.quiet_atLeast_of_error hwalk hc (follows_self p) h 0 (by omega)

/-- Two letters are there and four are needed: two are absent. If none were needed, one would be. -/
theorem repeat_optional_letters : (char 'a').Advances
    ∧ (atLeast 4 4 (char 'a').optional).quiet (.between ['é'] ['a', 'a', 'b'])
      = .ok ⟨.matched [.present 'a', .present 'a', .absent, .absent], 4, []⟩
    ∧ (zeroOrMore 4 (char 'a').optional).quiet (.between ['é'] ['a', 'a', 'b'])
      = .ok ⟨.matched [.present 'a', .present 'a', .absent], 4, []⟩ := by
  have hp : (char 'a').Advances := (isToken_charWhere _).advances (by simp)
  obtain ⟨hzero, hmin, -⟩ := hp.repeat_optional ['é'] ['a', 'a', 'b']
  exact ⟨hp, hmin 4 4 (by decide), hzero 4 (by decide)⟩

end Parser

end Backtrack
