import Mathlib.Data.ENat.Basic
import Mathlib.Data.List.Basic
import Backtrack.Grammar.Meaning
import Backtrack.Proofs.Refusal
import Backtrack.Proofs.Rounds

/-!
# How far a repetition goes

Matches of a parser one after the other make a walk. A repetition goes along it as far as its bound
and the matches let it, and no further than an item that reads nothing, once it has the items it
needs. Where it ends, and with which error, is settled by the walk alone (`Parser.Halts.unique`), so
the loop, which ends in one of these ways (`Parser.Steady.halts_of_collect`), ends in no other.
-/

namespace Backtrack

namespace Parser

variable {α : Type}

/-! ## Walks -/

/-- The parser matches once after the other, with these values, from one cursor to another. -/
inductive Walk (p : Parser α) : Cursor → List α → Cursor → Prop where
  | stay (c : Cursor) : Walk p c [] c
  | step {c d : Cursor} {a : α} {as : List α} {n : Nat} {log : List Record} :
    p c = .ok ⟨.matched a, n, log⟩ → Walk p (c.moveTo n) as d → Walk p c (a :: as) d

section Walk

variable {p : Parser α} {c d d' x : Cursor} {as as' bs before : List α} {a : α}

theorem Walk.append (h : p.Walk c as d) (h' : p.Walk d bs x) : p.Walk c (as ++ bs) x := by
  induction h with
  | stay c => exact h'
  | step hp _ ih => exact .step hp (ih h')

theorem Walk.snoc {n : Nat} {log : List Record} (h : p.Walk c as d)
    (hp : p d = .ok ⟨.matched a, n, log⟩) : p.Walk c (as ++ [a]) (d.moveTo n) :=
  h.append (.step hp (.stay _))

theorem walk_cons_iff : p.Walk c (a :: as) d
    ↔ ∃ n log, p c = .ok ⟨.matched a, n, log⟩ ∧ p.Walk (c.moveTo n) as d := by
  constructor
  · rintro (_ | ⟨hp, h⟩)
    exact ⟨_, _, hp, h⟩
  · rintro ⟨n, log, hp, h⟩
    exact .step hp h

/-- Of two walks from one cursor, one goes on where the other ends. -/
theorem Walk.exists_append (h : p.Walk c as d) (h' : p.Walk c as' d')
    (hlen : as.length ≤ as'.length) : ∃ bs, as' = as ++ bs ∧ p.Walk d bs d' := by
  induction h generalizing as' with
  | stay c => exact ⟨as', rfl, h'⟩
  | @step c d a as n log hp _ ih =>
    cases h' with
    | stay => simp at hlen
    | @step _ _ a' as' n' log' hp' h' =>
      cases hp.symm.trans hp'
      obtain ⟨bs, rfl, hbs⟩ := ih h' (by simpa using hlen)
      exact ⟨bs, rfl, hbs⟩

theorem Walk.unique (h : p.Walk c as d) (h' : p.Walk c as' d') (hlen : as.length = as'.length) :
    as = as' ∧ d = d' := by
  obtain ⟨bs, rfl, hbs⟩ := h.exists_append h' (Nat.le_of_eq hlen)
  have hnil : bs = [] := by
    rw [List.length_append] at hlen
    exact List.length_eq_zero_iff.1 (by omega)
  subst hnil
  cases hbs
  exact ⟨(List.append_nil as).symm, rfl⟩

/-- An item behind which the walk is where it was before reads nothing. -/
theorem Walk.last (h : p.Walk c (before ++ [a]) d) (hbefore : p.Walk c before x) :
    p.Walk x [a] d := by
  obtain ⟨bs, hbs, hwalk⟩ := hbefore.exists_append h (by simp)
  obtain rfl := List.append_cancel_left hbs
  exact hwalk

theorem Walk.pos_of_singleton (h : p.Walk c [a] d) :
    ∃ log, p c = .ok ⟨.matched a, d.pos, log⟩ := by
  obtain ⟨n, log, hp, hstay⟩ := walk_cons_iff.1 h
  cases hstay
  exact ⟨log, hp⟩

/-- Where the parser reads nothing, a walk does not get away. -/
theorem Walk.eq_of_stall {log : List Record} (hp : p c = .ok ⟨.matched a, c.pos, log⟩)
    (h : p.Walk c as d) : d = c := by
  induction h with
  | stay c => rfl
  | @step c d b bs n log' hb _ ih =>
    cases hp.symm.trans hb
    exact ih hp

theorem Steady.aligned_walk (hp : p.Steady) (h : p.Walk c as d) (hc : c.Aligned) : d.Aligned := by
  induction h with
  | stay c => exact hc
  | @step c d a as n log hrun _ ih =>
    obtain ⟨r, hr, hb, -⟩ := hp c hc
    cases hr.symm.trans hrun
    exact ih hb

/-- Of these items on the way from `c`, those that read nothing are among the first ones, before the
`min`-th. -/
def Brisk (p : Parser α) (min : Nat) (c : Cursor) (as : List α) : Prop :=
  ∀ before a behind x, as = before ++ a :: behind → p.Walk c before x → p.Walk x [a] x →
    before.length + 1 < min

variable {min : Nat}

theorem brisk_concat_iff : p.Brisk min c (as ++ [a]) ↔ p.Brisk min c as
    ∧ ∀ x, p.Walk c as x → p.Walk x [a] x → as.length + 1 < min := by
  constructor
  · refine fun h => ⟨?_, fun x hwalk ha => h as a [] x rfl hwalk ha⟩
    rintro before b behind x rfl hbefore hb
    exact h before b (behind ++ [a]) x (by simp) hbefore hb
  · rintro ⟨h, hlast⟩ before b behind x hsplit hbefore hb
    rcases behind.eq_nil_or_concat' with rfl | ⟨behind, b', rfl⟩
    · obtain ⟨rfl, hab⟩ := List.append_inj' hsplit rfl
      cases hab
      exact hlast x hbefore hb
    · rw [← List.cons_append, ← List.append_assoc] at hsplit
      exact h before b behind x (List.append_inj' hsplit rfl).1 hbefore hb

theorem Brisk.dropLast (h : p.Brisk min c as) : p.Brisk min c as.dropLast := by
  rcases as.eq_nil_or_concat' with rfl | ⟨before, a, rfl⟩
  · exact h
  · rw [List.dropLast_concat]
    exact (brisk_concat_iff.1 h).1

/-- Another item may follow if it reads something or more items are needed behind it. -/
theorem Brisk.concat {n : Nat} {log : List Record} (h : p.Brisk min c as) (hwalk : p.Walk c as d)
    (hp : p d = .ok ⟨.matched a, n, log⟩) (hgo : ¬ (n = d.pos ∧ min ≤ as.length + 1)) :
    p.Brisk min c (as ++ [a]) := by
  refine brisk_concat_iff.2 ⟨h, fun x hx ha => ?_⟩
  obtain ⟨-, rfl⟩ := hwalk.unique hx rfl
  obtain ⟨log', hp'⟩ := ha.pos_of_singleton
  cases hp.symm.trans hp'
  by_contra hmin
  exact hgo ⟨rfl, by omega⟩

/-- Where the parser does not match, the last item before was not one that reads nothing. -/
theorem Brisk.of_dropLast (h : p.Brisk min c as.dropLast) (hwalk : p.Walk c as d)
    (hd : ∀ a, ¬ p.Walk d [a] d) : p.Brisk min c as := by
  rcases as.eq_nil_or_concat' with rfl | ⟨before, a, rfl⟩
  · exact h
  · rw [List.dropLast_concat] at h
    refine brisk_concat_iff.2 ⟨h, fun x hx ha => ?_⟩
    obtain ⟨-, rfl⟩ := hwalk.unique (hx.append ha) rfl
    exact absurd ha (hd a)

theorem brisk_of_length_lt (h : as.length < min) : p.Brisk min c as := by
  rintro before a behind x rfl - -
  simp only [List.length_append, List.length_cons] at h
  omega

end Walk

/-! ## Where the loop ends -/

section Halts

variable (p : Parser α) (min : Nat) (most : ℕ∞) (c : Cursor) (as : List α) (d : Cursor)

/-- A repetition of `min` to `most` items from `c` comes to `d` and runs its item there, behind the
items `as`: there are not yet too many, and of them none that reads nothing ended it. -/
structure Tries : Prop where
  walk : p.Walk c as d
  below : (as.length : ℕ∞) < most
  brisk : p.Brisk min c as

/-- The items `as` are those that a repetition of `min` to `most` items from `c` to `d` takes: as
many as it may, as there are, or up to one that reads nothing. -/
structure Greedy : Prop where
  walk : p.Walk c as d
  least : min ≤ as.length
  bounded : (as.length : ℕ∞) ≤ most
  brisk : p.Brisk min c as.dropLast
  maximal : (as.length : ℕ∞) = most ∨ (∃ n log, p d = .ok ⟨.missed, n, log⟩)
    ∨ ∃ before a, as = before ++ [a] ∧ p.Walk c before d

/-- There are no more items than `as` to be taken, and they are not enough. -/
structure Short : Prop where
  walk : p.Walk c as d
  short : as.length < min
  bounded : (as.length : ℕ∞) ≤ most
  maximal : (as.length : ℕ∞) = most ∨ ∃ n log, p d = .ok ⟨.missed, n, log⟩

/-- The ways in which a repetition from `c` ends, with its items, where it has come to, and the
error of an item. -/
inductive Halts : List α → Cursor → Option ParseError → Prop where
  | full {as : List α} {d : Cursor} : p.Walk c as d → (as.length : ℕ∞) = most →
    p.Brisk min c as.dropLast → Halts as d none
  | missed {as : List α} {d : Cursor} {n : Nat} {log : List Record} : p.Tries min most c as d →
    p d = .ok ⟨.missed, n, log⟩ → Halts as d none
  | stalled {before : List α} {a : α} {d : Cursor} : p.Tries min most c before d →
    p.Walk d [a] d → min ≤ before.length + 1 → Halts (before ++ [a]) d none
  | failed {as : List α} {d : Cursor} {n : Nat} {log : List Record} {e : ParseError} :
    p.Tries min most c as d → p d = .ok ⟨.failed e, n, log⟩ → Halts as d (some e)

variable {p min most c as d} {as' : List α} {d' : Cursor} {o o' : Option ParseError}

theorem Halts.walk (h : p.Halts min most c as d o) : p.Walk c as d := by
  cases h with
  | full hwalk _ _ => exact hwalk
  | missed htries _ | failed htries _ => exact htries.walk
  | stalled htries ha _ => exact htries.walk.append ha

theorem Halts.bounded (h : p.Halts min most c as d o) : (as.length : ℕ∞) ≤ most := by
  cases h with
  | full _ hlen _ => exact hlen.le
  | missed htries _ | failed htries _ => exact htries.below.le
  | stalled htries _ _ =>
    rw [List.length_append]
    exact Order.add_one_le_of_lt htries.below

theorem Halts.brisk (h : p.Halts min most c as d o) : p.Brisk min c as.dropLast := by
  cases h with
  | full _ _ hbrisk => exact hbrisk
  | missed htries _ | failed htries _ => exact htries.brisk.dropLast
  | stalled htries _ _ =>
    rw [List.dropLast_concat]
    exact htries.brisk

/-- Where a repetition ends it does not go on. -/
theorem Halts.not_lt (h : p.Halts min most c as d o) (h' : p.Halts min most c as' d' o') :
    ¬ as.length < as'.length := by
  intro hlt
  obtain ⟨bs, rfl, hbs⟩ := h.walk.exists_append h'.walk hlt.le
  rcases bs with _ | ⟨b, bs⟩
  · simp at hlt
  obtain ⟨n, log, hb, -⟩ := walk_cons_iff.1 hbs
  have hmost := h'.bounded
  have hbrisk := h'.brisk
  cases h with
  | full _ hlen _ =>
    rw [← hlen] at hmost
    have hle : (as ++ b :: bs).length ≤ as.length := by exact_mod_cast hmost
    omega
  | missed _ hp => cases hp.symm.trans hb
  | failed _ hp => cases hp.symm.trans hb
  | @stalled before a _ htries ha hmin =>
    have hdrop : (before ++ [a] ++ b :: bs).dropLast = before ++ a :: (b :: bs).dropLast := by
      rw [List.dropLast_append_of_ne_nil (by simp)]
      simp
    have := hbrisk before a _ d hdrop htries.walk ha
    omega

theorem Halts.tries {e : ParseError} (h : p.Halts min most c as d (some e)) :
    p.Tries min most c as d ∧ ∃ n log, p d = .ok ⟨.failed e, n, log⟩ := by
  cases h with
  | failed htries hp => exact ⟨htries, _, _, hp⟩

/-- Where an item that is run fails, the repetition ends with its error only. -/
theorem Halts.eq_some_of_failed (h : p.Halts min most c as d o) (htries : p.Tries min most c as d)
    {n : Nat} {log : List Record} {e : ParseError} (hp : p d = .ok ⟨.failed e, n, log⟩) :
    o = some e := by
  cases h with
  | full _ hmost _ => exact absurd hmost htries.below.ne
  | missed _ hp' => cases hp.symm.trans hp'
  | stalled _ ha _ =>
    obtain ⟨log', hp'⟩ := ha.pos_of_singleton
    cases hp.symm.trans hp'
  | failed _ hp' =>
    cases hp.symm.trans hp'
    rfl

theorem Halts.unique (h : p.Halts min most c as d o) (h' : p.Halts min most c as' d' o') :
    as = as' ∧ d = d' ∧ o = o' := by
  have hlen : as.length = as'.length :=
    Nat.le_antisymm (Nat.not_lt.1 (h'.not_lt h)) (Nat.not_lt.1 (h.not_lt h'))
  obtain ⟨rfl, rfl⟩ := h.walk.unique h'.walk hlen
  refine ⟨rfl, rfl, ?_⟩
  rcases o with _ | e
  · rcases o' with _ | e'
    · rfl
    · obtain ⟨htries, n, log, hp⟩ := h'.tries
      exact h.eq_some_of_failed htries hp
  · obtain ⟨htries, n, log, hp⟩ := h.tries
    exact (h'.eq_some_of_failed htries hp).symm

theorem Halts.greedy (h : p.Halts min most c as d none) (hmin : min ≤ as.length) :
    p.Greedy min most c as d := by
  refine ⟨h.walk, hmin, h.bounded, h.brisk, ?_⟩
  cases h with
  | full _ hlen _ => exact .inl hlen
  | missed _ hp => exact .inr (.inl ⟨_, _, hp⟩)
  | stalled htries _ _ => exact .inr (.inr ⟨_, _, rfl, htries.walk⟩)

theorem Greedy.halts (h : p.Greedy min most c as d) : p.Halts min most c as d none := by
  by_cases hlen : (as.length : ℕ∞) = most
  · exact .full h.walk hlen h.brisk
  have hlt : (as.length : ℕ∞) < most := lt_of_le_of_ne h.bounded hlen
  rcases h.maximal with hfull | ⟨n, log, hp⟩ | ⟨before, a, rfl, hbefore⟩
  · exact absurd hfull hlen
  · refine .missed ⟨h.walk, hlt, h.brisk.of_dropLast h.walk fun a ha => ?_⟩ hp
    obtain ⟨log', hp'⟩ := ha.pos_of_singleton
    cases hp.symm.trans hp'
  · have hbrisk := h.brisk
    rw [List.dropLast_concat] at hbrisk
    have hleast := h.least
    have hwalk := h.walk
    rw [List.length_append, List.length_singleton] at hleast hlt
    refine .stalled ⟨hbefore, ?_, hbrisk⟩ (hwalk.last hbefore) hleast
    exact lt_of_le_of_lt (by exact_mod_cast Nat.le_succ _) hlt

theorem Halts.short (h : p.Halts min most c as d none) (hmin : as.length < min) :
    p.Short min most c as d := by
  refine ⟨h.walk, hmin, h.bounded, ?_⟩
  cases h with
  | full _ hlen _ => exact .inl hlen
  | missed _ hp => exact .inr ⟨_, _, hp⟩
  | stalled _ _ hstall =>
    rw [List.length_append, List.length_singleton] at hmin
    omega

theorem Short.halts (h : p.Short min most c as d) : p.Halts min most c as d none := by
  have hbrisk : p.Brisk min c as := brisk_of_length_lt h.short
  by_cases hlen : (as.length : ℕ∞) = most
  · exact .full h.walk hlen hbrisk.dropLast
  · obtain ⟨n, log, hp⟩ := h.maximal.resolve_left hlen
    exact .missed ⟨h.walk, lt_of_le_of_ne h.bounded hlen, hbrisk⟩ hp

/-- A loop that has come along a walk and may still go on ends in one of the ways there are, its
items behind those of the walk; without an error, where they led. -/
theorem Walk.exists_halts_of_collect (haligned : ∀ as d, p.Walk c as d → d.Aligned)
    {rounds count : Nat} {x : Cursor} {h : Harvest α}
    (hrun : collect rounds min (fun k => decide ((k : ℕ∞) < most)) p count x = .ok h)
    (hcount : as.length = count) (hwalk : p.Walk c as x) (hbrisk : p.Brisk min c as)
    (hle : (as.length : ℕ∞) ≤ most) :
    ∃ d, p.Halts min most c (as ++ h.items) d h.error ∧ (h.error = none → h.stop = d.pos) := by
  refine collect_induction (P := fun count x h => ∀ as, as.length = count → p.Walk c as x →
    p.Brisk min c as → (as.length : ℕ∞) ≤ most →
      ∃ d, p.Halts min most c (as ++ h.items) d h.error ∧ (h.error = none → h.stop = d.pos))
    ?_ ?_ ?_ ?_ ?_ hrun as hcount hwalk hbrisk hle
  · rintro _ x hstop as rfl hwalk hbrisk hle
    have hlen : (as.length : ℕ∞) = most := le_antisymm hle (by simpa using hstop)
    refine ⟨x, ?_, fun _ => rfl⟩
    rw [List.append_nil]
    exact .full hwalk hlen hbrisk.dropLast
  · rintro _ x n log hgo hitem as rfl hwalk hbrisk _
    refine ⟨x, ?_, fun _ => (haligned as x hwalk).home_eq⟩
    rw [List.append_nil]
    exact .missed ⟨hwalk, by simpa using hgo, hbrisk⟩ hitem
  · rintro _ x n log e hgo hitem as rfl hwalk hbrisk _
    refine ⟨x, ?_, nofun⟩
    rw [List.append_nil]
    exact .failed ⟨hwalk, by simpa using hgo, hbrisk⟩ hitem
  · rintro _ x n log a hgo hitem ⟨rfl, hmin⟩ as rfl hwalk hbrisk _
    exact ⟨x, .stalled ⟨hwalk, by simpa using hgo, hbrisk⟩ (.step hitem (.stay x)) hmin,
      fun _ => rfl⟩
  · rintro _ x n log a h hgo hitem hstall ih as rfl hwalk hbrisk _
    have hlt : (as.length : ℕ∞) < most := by simpa using hgo
    have hle : ((as ++ [a]).length : ℕ∞) ≤ most := by
      rw [List.length_append]
      exact Order.add_one_le_of_lt hlt
    have hrest := ih (as ++ [a]) (by simp) (hwalk.snoc hitem)
      (hbrisk.concat hwalk hitem hstall) hle
    rw [List.append_assoc] at hrest
    exact hrest

/-- The loop ends in one of the ways there are; without an error, where its items led. -/
theorem halts_of_collect (haligned : ∀ as d, p.Walk c as d → d.Aligned) {rounds : Nat}
    {h : Harvest α}
    (hrun : collect rounds min (fun k => decide ((k : ℕ∞) < most)) p 0 c = .ok h) :
    ∃ d, p.Halts min most c h.items d h.error ∧ (h.error = none → h.stop = d.pos) :=
  Walk.exists_halts_of_collect haligned hrun rfl (.stay c)
    (fun before a behind x h => by simp at h) (by simp)

theorem Steady.halts_of_collect (hp : p.Steady) (hc : c.Aligned) {rounds : Nat} {h : Harvest α}
    (hrun : collect rounds min (fun k => decide ((k : ℕ∞) < most)) p 0 c = .ok h) :
    ∃ d, p.Halts min most c h.items d h.error ∧ (h.error = none → h.stop = d.pos) :=
  Parser.halts_of_collect (fun _ _ hwalk => hp.aligned_walk hwalk hc) hrun

end Halts

/-! ## Repetitions -/

open Classical in
/-- The first number that a condition refuses, if it refuses any. -/
noncomputable def limit (proceed : Nat → Bool) : ℕ∞ :=
  if h : ∃ k, proceed k = false then Nat.find h else ⊤

/-- A repetition under a condition goes up to the first number that the condition refuses. -/
theorem repeatWhile_eq_limit (rounds min : Nat) (proceed : Nat → Bool) (item : Parser α) :
    repeatWhile rounds min proceed item
      = repeatWhile rounds min (fun k => decide ((k : ℕ∞) < limit proceed)) item := by
  classical
  by_cases h : ∃ k, proceed k = false
  · have hbefore : ∀ j < Nat.find h, proceed j = true := fun j hj => by
      simpa using Nat.find_min h hj
    rw [repeatWhile_eq_below (Nat.find_spec h) hbefore, limit, dif_pos h]
    simp
  · have htrue : proceed = fun _ => true := by
      funext k
      by_contra hk
      exact h ⟨k, by simpa using hk⟩
    rw [limit, dif_neg h, htrue]
    simp

end Parser

namespace Quantity

/-- How many items a repetition needs. -/
def least : Quantity → Nat
  | times n => n
  | between min _ => min
  | atLeast min => min
  | atMost _ => 0
  | zeroOrMore => 0
  | oneOrMore => 1
  | repeatWhile min _ => min

/-- How many items a repetition takes at most. -/
noncomputable def most : Quantity → ℕ∞
  | times n => n
  | between _ max => max
  | atLeast _ => ⊤
  | atMost max => max
  | zeroOrMore => ⊤
  | oneOrMore => ⊤
  | repeatWhile _ proceed => Parser.limit proceed.holds

/-- Every repetition is the one of its bounds. -/
theorem parser_eq {α : Type} (q : Quantity) (rounds : Nat) (item : Parser α) :
    q.parser rounds item
      = Parser.repeatWhile rounds q.least (fun k => decide ((k : ℕ∞) < q.most)) item := by
  cases q with
  | times n => simp [parser, Parser.times, Parser.between, least, most]
  | between min max => simp [parser, Parser.between, least, most]
  | atMost max => simp [parser, Parser.atMost, Parser.between, least, most]
  | atLeast min => simp [parser, Parser.atLeast, least, most]
  | zeroOrMore => simp [parser, Parser.zeroOrMore, Parser.atLeast, least, most]
  | oneOrMore => simp [parser, Parser.oneOrMore, Parser.atLeast, least, most]
  | repeatWhile min proceed => exact Parser.repeatWhile_eq_limit rounds min proceed.holds item

end Quantity

namespace Parser

variable {α : Type} {p : Parser α}

/-- A repetition of an item that returns and does not go back with a match returns, whatever its
bounds are. It matches with the items that are to be taken, and only with these, and stops behind
them; it reports an error exactly if its item does so at a place the loop comes to; it misses
exactly if the items to be taken are too few. Unless it matches it is back where it began, as it is
if it may take fewer items than it needs; and if it needs none it does not miss. -/
theorem Steady.quantity_greedy (hp : p.Steady) (q : Quantity) (seen rest : Text) :
    let c := Cursor.between seen rest
    ∃ r, (∀ rounds, max q.least (rest.length + 1) ≤ rounds → q.parser rounds p c = .ok r)
      ∧ (∀ as n, r.outcome = .matched as ∧ r.stop = n
          ↔ ∃ d, d.pos = n ∧ p.Greedy q.least q.most c as d)
      ∧ (∀ e, r.outcome = .failed e
          ↔ ∃ as d n log, p.Tries q.least q.most c as d ∧ p d = .ok ⟨.failed e, n, log⟩)
      ∧ (r.outcome = .missed ↔ ∃ as d, p.Short q.least q.most c as d)
      ∧ (r.outcome.isMatch = false → r.stop = c.pos)
      ∧ (q.most < q.least → r.outcome.isMatch = false)
      ∧ (q.least = 0 → r.outcome ≠ .missed) := by
  intro c
  have hc : c.Aligned := Cursor.aligned_between seen rest
  obtain ⟨r, log, -, hr⟩ := hp.repeatWhile_returns q.least
    (fun k => decide ((k : ℕ∞) < q.most)) seen rest
  obtain ⟨h, hrun, rfl⟩ := exists_collect_of_repeatWhile (hr _ (Nat.le_refl _)).1
  obtain ⟨d, hend, hstop⟩ := hp.halts_of_collect hc hrun
  have hstays : (h.reply q.least c).outcome.isMatch = false → (h.reply q.least c).stop = c.pos :=
    fun hm => (Harvest.stop_reply_of_not_match hm).trans hc.home_eq
  refine ⟨h.reply q.least c, fun rounds hle => ?_, fun as n => ?_, fun e => ?_, ?_, hstays,
    fun hlt => ?_, fun hzero hmissed => ?_⟩
  · rw [q.parser_eq]
    exact (hr rounds hle).1
  · rw [Harvest.reply_matched_iff]
    constructor
    · rintro ⟨herror, hmin, rfl, rfl⟩
      rw [herror] at hend
      exact ⟨d, (hstop herror).symm, hend.greedy hmin⟩
    · rintro ⟨d', rfl, hgreedy⟩
      obtain ⟨rfl, rfl, herror⟩ := hgreedy.halts.unique hend
      exact ⟨herror.symm, hgreedy.least, rfl, hstop herror.symm⟩
  · rw [Harvest.reply_failed_iff]
    constructor
    · intro herror
      rw [herror] at hend
      obtain ⟨htries, n, log', hfail⟩ := hend.tries
      exact ⟨_, d, n, log', htries, hfail⟩
    · rintro ⟨as, d', n, log', htries, hfail⟩
      exact ((Halts.failed htries hfail).unique hend).2.2.symm
  · rw [Harvest.reply_missed_iff]
    constructor
    · rintro ⟨herror, hmin⟩
      rw [herror] at hend
      exact ⟨_, d, hend.short hmin⟩
    · rintro ⟨as, d', hshort⟩
      obtain ⟨rfl, rfl, herror⟩ := hshort.halts.unique hend
      exact ⟨herror.symm, hshort.short⟩
  · rcases ho : (h.reply q.least c).outcome with as | _ | e
    · obtain ⟨-, hmin, -⟩ := Harvest.reply_matched_iff.1 ⟨ho, rfl⟩
      have hle : (q.least : ℕ∞) ≤ h.items.length := by exact_mod_cast hmin
      exact absurd (hle.trans hend.bounded) (not_le_of_gt hlt)
    · rfl
    · rfl
  · obtain ⟨-, hlt⟩ := Harvest.reply_missed_iff.1 hmissed
    omega

/-- Two letters are needed and one is there: that the second is missing is the last item, which
reads nothing. -/
theorem quantity_greedy_optional : (char 'a').optional.Steady
    ∧ (∀ rounds, 3 ≤ rounds → between rounds 2 5 (char 'a').optional (.between ['é'] ['a', 'b'])
        = .ok ⟨.matched [.present 'a', .absent], 3, []⟩)
    ∧ ∃ d, d.pos = 3 ∧ (char 'a').optional.Greedy 2 5 (.between ['é'] ['a', 'b'])
        [.present 'a', .absent] d := by
  have hp : (char 'a').optional.Steady := (isToken_charWhere _).steady.optional
  obtain ⟨r, hr, hmatched, -⟩ := hp.quantity_greedy (.between 2 5) ['é'] ['a', 'b']
  have hreply : between 3 2 5 (char 'a').optional (.between ['é'] ['a', 'b'])
      = .ok ⟨.matched [.present 'a', .absent], 3, []⟩ := rfl
  cases hreply.symm.trans (hr 3 (Nat.le_refl 3))
  exact ⟨hp, hr, (hmatched _ _).1 ⟨rfl, rfl⟩⟩

end Parser

end Backtrack
