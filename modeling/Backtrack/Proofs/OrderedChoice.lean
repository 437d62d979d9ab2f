import Mathlib.Logic.Basic
import Backtrack.Grammar.Meaning
import Backtrack.Proofs.Alignment
import Backtrack.Proofs.PairTree
import Backtrack.Proofs.Quiet

/-!
# Alternatives, grouped in any way

A choice between two is associative (`Parser.orElse_assoc`), since its second parser begins where
the first one began. So a tree of choices is the choice from its leaves in order
(`Parser.choices_node`), and what decides is the first parser that does not miss: those before it
leave nothing but their log, those behind it do not run (`Parser.first_append_of_misses`).
-/

namespace Backtrack

/-- A cursor put back once is put back to the same place again. -/
theorem Cursor.home_moveTo_home (c : Cursor) : (c.moveTo c.home).home = c.home :=
  Text.floor_floor c.text c.pos

theorem Reply.after_nil {α : Type} (x : Run (Reply α)) : Reply.after [] <$> x = x := by
  rcases x with f | r <;> rfl

namespace Parser

variable {α : Type}

/-! ## The choice between two -/

section OrElse

variable {p : Parser α} (q : Parser α) {c : Cursor} {n : Nat} {log : List Record}

theorem orElse_of_matched {a : α} (h : p c = .ok ⟨.matched a, n, log⟩) :
    orElse p q c = .ok ⟨.matched a, n, log⟩ := by
  rw [orElse, h, Run.ok_bind]
  rfl

theorem orElse_of_missed (h : p c = .ok ⟨.missed, n, log⟩) :
    orElse p q c = Reply.after log <$> q (c.moveTo c.home) := by
  rw [orElse, h, Run.ok_bind]
  dsimp only
  rcases q (c.moveTo c.home) with f | r <;> rfl

theorem orElse_of_failed {e : ParseError} (h : p c = .ok ⟨.failed e, n, log⟩) :
    orElse p q c = .ok ⟨.failed e, c.home, log⟩ := by
  rw [orElse, h, Run.ok_bind]
  rfl

theorem orElse_of_error {f : Fault} (h : p c = .error f) : orElse p q c = .error f := by
  rw [orElse, h, Run.error_bind]

end OrElse

theorem orElse_assoc (p q r : Parser α) : orElse (orElse p q) r = orElse p (orElse q r) := by
  funext c
  rcases hp : p c with f | ⟨a | _ | e, n, log⟩
  · rw [orElse_of_error _ hp, orElse_of_error _ (orElse_of_error _ hp)]
  · rw [orElse_of_matched _ hp, orElse_of_matched _ (orElse_of_matched _ hp)]
  · have hpq := orElse_of_missed q hp
    have hhome := c.home_moveTo_home
    rw [orElse_of_missed _ hp]
    rcases hq : q (c.moveTo c.home) with f | ⟨a | _ | e, m, log'⟩ <;> rw [hq] at hpq
    · rw [orElse_of_error _ hq, orElse_of_error _ hpq]
      rfl
    · rw [orElse_of_matched _ hq, orElse_of_matched _ hpq]
      rfl
    · rw [orElse_of_missed _ hq, orElse_of_missed _ hpq, hhome]
      show Reply.after (log ++ log') <$> r (c.moveTo c.home)
        = Reply.after log <$> Reply.after log' <$> r (c.moveTo c.home)
      rcases r (c.moveTo c.home) with f | s
      · rfl
      · exact congrArg Except.ok (Reply.after_after log log' s).symm
    · rw [orElse_of_failed _ hq, orElse_of_failed _ hpq, hhome]
      rfl
  · rw [orElse_of_failed _ hp, orElse_of_failed _ (orElse_of_failed _ hp)]

/-- Between two parsers, one that misses at once makes no difference. -/
theorem orElse_miss_orElse (p q : Parser α) : orElse p (orElse miss q) = orElse p q := by
  funext c
  rcases hp : p c with f | ⟨a | _ | e, n, log⟩
  · rw [orElse_of_error _ hp, orElse_of_error _ hp]
  · rw [orElse_of_matched _ hp, orElse_of_matched _ hp]
  · have hmiss : (miss : Parser α) (c.moveTo c.home) = .ok ⟨.missed, c.home, []⟩ := rfl
    rw [orElse_of_missed _ hp, orElse_of_missed _ hp, orElse_of_missed _ hmiss,
      c.home_moveTo_home, Reply.after_nil]
    rfl
  · rw [orElse_of_failed _ hp, orElse_of_failed _ hp]

/-- With nothing left to try, a choice puts the cursor back. -/
theorem orElse_miss (p : Parser α) : orElse p miss = p.attempt := by
  funext c
  rw [attempt]
  rcases hp : p c with f | ⟨a | _ | e, n, log⟩
  · rw [orElse_of_error _ hp]
    rfl
  · rw [orElse_of_matched _ hp]
    rfl
  · have hlog : log ++ [] = log := List.append_nil log
    rw [orElse_of_missed _ hp]
    show Except.ok (⟨.missed, c.home, log ++ []⟩ : Reply α) = _
    rw [hlog]
    rfl
  · rw [orElse_of_failed _ hp]
    rfl

theorem map_orElse {β : Type} (f : α → β) (p q : Parser α) :
    (orElse p q).map f = orElse (p.map f) (q.map f) := by
  funext c
  have hmap := map_eq f p c
  rw [map_eq]
  rcases hp : p c with x | ⟨a | _ | e, n, log⟩ <;> rw [hp] at hmap
  · rw [orElse_of_error _ hp, orElse_of_error _ hmap]
    rfl
  · rw [orElse_of_matched _ hp, orElse_of_matched _ hmap]
    rfl
  · rw [orElse_of_missed _ hp, orElse_of_missed _ hmap, map_eq]
    rcases q (c.moveTo c.home) with x | ⟨a | _ | e, m, log'⟩ <;> rfl
  · rw [orElse_of_failed _ hp, orElse_of_failed _ hmap]
    rfl

/-! ## Lists and trees of alternatives -/

theorem first_eq_foldr : ∀ ps : List (Parser α), first ps = ps.foldr orElse miss
  | [] => rfl
  | p :: ps => by rw [first, first_eq_foldr ps, List.foldr_cons]

/-- With a parser behind it, a tree of choices tries its leaves in order and then that parser. -/
theorem orElse_choices : ∀ (t : PairTree (Parser α)) (q : Parser α),
    orElse (choices t) q = t.toList.foldr orElse q
  | .leaf p, q => rfl
  | .node s t, q =>
    calc orElse (choices (.node s t)) q
        = orElse (orElse (choices s) (orElse (choices t) miss)) q := rfl
      _ = orElse (choices s) (orElse (choices t) (orElse miss q)) := by
          rw [orElse_assoc, orElse_assoc]
      _ = orElse (choices s) (orElse (choices t) q) := by rw [orElse_miss_orElse]
      _ = s.toList.foldr orElse (t.toList.foldr orElse q) := by
          rw [orElse_choices s, orElse_choices t]
      _ = (PairTree.node s t).toList.foldr orElse q := by
          rw [PairTree.toList, List.foldr_append]

theorem choices_node (s t : PairTree (Parser α)) :
    choices (.node s t) = first (PairTree.node s t).toList := by
  have hnode : choices (.node s t) = orElse (choices s) (orElse (choices t) miss) := rfl
  rw [hnode, orElse_choices s, orElse_choices t, first_eq_foldr, PairTree.toList,
    List.foldr_append]

/-! ## What decides -/

/-- All of the parsers miss at the cursor, and this is what they log, one after the other. -/
inductive Misses (c : Cursor) : List (Parser α) → List Record → Prop where
  | nil : Misses c [] []
  | cons {p : Parser α} {ps : List (Parser α)} {n : Nat} {log logs : List Record} :
    p c = .ok ⟨.missed, n, log⟩ → Misses c ps logs → Misses c (p :: ps) (log ++ logs)

/-- The parser answers at the cursor with a match or an error, or it is at a fault. -/
def Decides (c : Cursor) (p : Parser α) : Prop := ∀ n log, p c ≠ .ok ⟨.missed, n, log⟩

/-- Parsers that miss leave the next ones to begin where they began. -/
theorem first_append_of_misses {c : Cursor} (hc : c.Aligned) {ps : List (Parser α)}
    {log : List Record} (h : Misses c ps log) (qs : List (Parser α)) :
    first (ps ++ qs) c = Reply.after log <$> first qs c := by
  induction h with
  | nil => rw [List.nil_append, Reply.after_nil]
  | @cons p ps n log logs hp _ ih =>
    rw [List.cons_append, first, orElse_of_missed _ hp, hc.moveTo_home, ih]
    rcases first qs c with f | r
    · rfl
    · exact congrArg Except.ok (Reply.after_after log logs r)

/-- A parser that does not miss leaves no turn to those behind it. -/
theorem Decides.first_cons {c : Cursor} {p : Parser α} (h : p.Decides c) (qs : List (Parser α)) :
    first (p :: qs) c = p.attempt c := by
  rw [first, attempt]
  rcases hp : p c with f | ⟨a | _ | e, n, log⟩
  · rw [orElse_of_error _ hp]
    rfl
  · rw [orElse_of_matched _ hp]
    rfl
  · exact absurd hp (h n log)
  · rw [orElse_of_failed _ hp]
    rfl

/-- Of some parsers there is a first one that does not miss, or all of them do. -/
theorem exists_decides_or_misses (c : Cursor) : ∀ ps : List (Parser α),
    (∃ before p behind log, ps = before ++ p :: behind ∧ Misses c before log ∧ p.Decides c)
      ∨ ∃ log, Misses c ps log
  | [] => .inr ⟨[], .nil⟩
  | p :: ps => by
    by_cases hp : p.Decides c
    · exact .inl ⟨[], p, ps, [], rfl, .nil, hp⟩
    · simp only [Decides, ne_eq, not_forall, not_not] at hp
      obtain ⟨n, log, hp⟩ := hp
      rcases exists_decides_or_misses c ps with ⟨before, q, behind, logs, rfl, hb, hq⟩ | ⟨logs, h⟩
      · exact .inl ⟨p :: before, q, behind, log ++ logs, rfl, .cons hp hb, hq⟩
      · exact .inr ⟨log ++ logs, .cons hp h⟩

/-- The side of a choice tells which of the two parsers matched: the second one never gives a value
from the left. -/
theorem or_eq_ok_left_iff {β : Type} (p : Parser α) (q : Parser β) {c : Cursor} {a : α} {n : Nat}
    {log : List Record} : or p q c = .ok ⟨.matched (.left a), n, log⟩
      ↔ p c = .ok ⟨.matched a, n, log⟩ := by
  have hmap := map_eq (Branch.left (β := β)) p c
  have hright := map_eq (Branch.right (α := α)) q (c.moveTo c.home)
  rw [or]
  rcases hp : p c with f | ⟨b | _ | e, m, log'⟩ <;> rw [hp] at hmap
  · rw [orElse_of_error _ hmap]
    simp
  · rw [orElse_of_matched _ hmap]
    simp
  · rw [orElse_of_missed _ hmap, attempt, hright]
    constructor
    · intro h
      rcases hq : q (c.moveTo c.home) with f | ⟨b | _ | e, k, log''⟩ <;> rw [hq] at h <;> cases h
    · intro h
      cases h
  · rw [orElse_of_failed _ hmap]
    simp

/-- Without its side, a choice between two of one type is the one between the two in a family. -/
theorem map_merge_or (p q : Parser α) : (or p q).map Branch.merge = first [p, q] := by
  have hleft : (p.map (Branch.left (β := α))).map Branch.merge = p :=
    (map_map _ _ p).trans (map_self p)
  have hright : (q.map (Branch.right (α := α))).map Branch.merge = q :=
    (map_map _ _ q).trans (map_self q)
  rw [or, map_orElse, map_attempt, hleft, hright, ← orElse_miss]
  rfl

theorem any_family (container : Container) (ps : List (Parser α)) :
    any (container.family ps) = first ps := by
  rw [any, Container.members_family]

theorem choice_eq_first (p q : Parser α) (ps : List (Parser α)) :
    choice p (q :: ps) = first (p :: q :: ps) := by
  obtain ⟨s, t, h⟩ := PairTree.exists_balanced_eq_node p q ps
  rw [choice, h, choices_node, ← h, PairTree.toList_balanced]

/-- A family of alternatives is the same parser in any container, along a tree and, without the side
that matched, as a choice between two. It has the result of the first alternative that does not
miss, run where the family began, whatever stands behind that one; and it misses there if all
alternatives do. -/
theorem alternatives_eq (container : Container) :
    (∀ (ps : List (Parser α)) (other : Container),
      any (other.family ps) = any (container.family ps))
    ∧ (∀ (p q : Parser α) (ps : List (Parser α)),
      choice p (q :: ps) = any (container.family (p :: q :: ps)))
    ∧ (∀ p q : Parser α, (or p q).map Branch.merge = any (container.family [p, q])
      ∧ ∀ c a n log, or p q c = .ok ⟨.matched (.left a), n, log⟩
          ↔ p c = .ok ⟨.matched a, n, log⟩)
    ∧ ∀ (ps : List (Parser α)) (seen rest : Text),
      let c := Cursor.between seen rest
      (∃ before p behind log, ps = before ++ p :: behind ∧ Misses c before log ∧ p.Decides c
        ∧ ∀ others, any (container.family (before ++ p :: others)) c
            = Reply.after log <$> p.attempt c)
      ∨ ∃ log, Misses c ps log ∧ any (container.family ps) c = .ok ⟨.missed, c.pos, log⟩ := by
  simp only [any_family]
  refine ⟨fun _ _ => trivial, choice_eq_first, fun p q => ⟨map_merge_or p q, fun c a n log => ?_⟩,
    fun ps seen rest => ?_⟩
  · exact or_eq_ok_left_iff p q
  have hc := Cursor.aligned_between seen rest
  rcases exists_decides_or_misses (.between seen rest) ps with
    ⟨before, p, behind, log, hps, hbefore, hp⟩ | ⟨log, hall⟩
  · refine .inl ⟨before, p, behind, log, hps, hbefore, hp, fun others => ?_⟩
    rw [first_append_of_misses hc hbefore, hp.first_cons]
  · refine .inr ⟨log, hall, ?_⟩
    have hfirst := first_append_of_misses hc hall []
    rw [List.append_nil] at hfirst
    rw [hfirst]
    show Except.ok (⟨.missed, _, log ++ []⟩ : Reply α) = _
    rw [List.append_nil]

end Parser

end Backtrack
