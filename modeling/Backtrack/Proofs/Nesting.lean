import Mathlib.Tactic.SplitIfs
import Backtrack.Grammar.Meaning
import Backtrack.Proofs.PairTree
import Backtrack.Proofs.Quiet

/-!
# Parsers in a row, nested in any way

Pairs of pairs over some parsers, however they are nested, read what the parsers read in a row:
flattened, the values are those of the row, and only the log depends on the nesting
(`Parser.agrees_pairs`). So all ways to put two or more parsers in a row have the same outcome and
stop at the same place (`Parser.sequences_quiet_eq`).
-/

namespace Backtrack

namespace PairTree

variable {α β : Type}

/-- The tree of a value and those after it in which the right of each node holds all that follow. -/
def leaningRight : α → List α → PairTree α
  | a, [] => leaf a
  | a, b :: rest => node (leaf a) (leaningRight b rest)

/-- The tree of a tree and the values after it in which the left of each node holds all before. -/
def leaningLeft (t : PairTree α) (rest : List α) : PairTree α :=
  rest.foldl (fun s a => node s (leaf a)) t

theorem toList_leaningRight : ∀ (a : α) (rest : List α), (leaningRight a rest).toList = a :: rest
  | _, [] => rfl
  | a, b :: rest => by
    rw [leaningRight, toList, toList_leaningRight b rest, toList, List.cons_append,
      List.nil_append]

theorem toList_leaningLeft : ∀ (t : PairTree α) (rest : List α),
    (leaningLeft t rest).toList = t.toList ++ rest
  | t, [] => by rw [leaningLeft, List.foldl_nil, List.append_nil]
  | t, a :: rest => by
    have ih := toList_leaningLeft (node t (leaf a)) rest
    rw [toList, toList, List.append_assoc, List.singleton_append] at ih
    rw [leaningLeft, List.foldl_cons]
    exact ih

end PairTree

namespace Parser

variable {α β : Type}

/-! ## The shape of the values -/

/-- Every value of a match is as `P` says. -/
def Yields (P : α → Prop) (p : Parser α) : Prop :=
  ∀ c, Run.Meets (fun _ => True) (fun r => ∀ v, r.outcome = .matched v → P v) (p c)

section Yields

variable {P : α → Prop} {Q : β → Prop} {p : Parser α}

theorem yields_succeed {a : α} (h : P a) : (succeed a).Yields P := by
  rintro c v ⟨⟩
  exact h

theorem Yields.bind {next : α → Parser β} (hp : p.Yields P) (hn : ∀ a, P a → (next a).Yields Q) :
    (p >>= next).Yields Q := by
  intro c
  refine Run.Meets.bind (hp c) fun r hr => ?_
  rcases r with ⟨a | _ | e, n, log⟩
  · exact Run.Meets.bind (hn a (hr a rfl) (c.moveTo n)) fun s hs => hs
  · rintro v ⟨⟩
  · rintro v ⟨⟩

theorem Yields.map (hp : p.Yields P) {f : α → β} (h : ∀ v, P v → Q (f v)) :
    (p.map f).Yields Q := by
  rw [← bind_succeed]
  exact hp.bind fun v hv => yields_succeed (h v hv)

theorem Yields.attempt (hp : p.Yields P) : p.attempt.Yields P := by
  intro c
  unfold Parser.attempt
  refine Run.Meets.bind (hp c) fun r hr => ?_
  rcases r with ⟨a | _ | e, n, log⟩
  · exact hr
  · rintro v ⟨⟩
  · rintro v ⟨⟩

/-- On the values of matches alone it matters by what they are replaced. -/
theorem Yields.map_congr (hp : p.Yields P) {f g : α → β} (h : ∀ v, P v → f v = g v) :
    p.map f = p.map g := by
  funext c
  rw [map_eq, map_eq]
  have hc := hp c
  rcases hr : p c with x | ⟨a | _ | e, n, log⟩
  · rfl
  · rw [hr] at hc
    exact congrArg (fun b => (.ok ⟨.matched b, n, log⟩ : Run (Reply β))) (h a (hc a rfl))
  · rfl
  · rfl

end Yields

/-- Pairs over a tree have trees of its shape as values. -/
theorem yields_pairs : ∀ t : PairTree (Parser α), (pairs t).Yields fun v => v.shape = t.shape
  | .leaf p => by
    have hp : p.Yields fun _ => True := fun c => Run.meets_of_forall_ok fun _ _ _ _ => trivial
    exact hp.map fun _ _ => rfl
  | .node s t => by
    have hpair : (pair (pairs s) (pairs t)).Yields fun v =>
        v.1.shape = s.shape ∧ v.2.shape = t.shape := by
      refine .attempt (.bind (yields_pairs s) fun v hv => ?_)
      exact .bind (yields_pairs t) fun w hw => yields_succeed ⟨hv, hw⟩
    exact hpair.map fun v hv => by rw [PairTree.shape, hv.1, hv.2, PairTree.shape]

/-! ## Nested pairs and rows -/

/-- Two trees under a node, flattened, are read one after the other and put back together. -/
theorem map_toList_pairs_node (s t : PairTree (Parser α)) :
    (pairs (.node s t)).map PairTree.toList = (do
      let as ← (pairs s).map PairTree.toList
      let bs ← (pairs t).map PairTree.toList
      succeed (as ++ bs)).attempt := by
  rw [pairs, map_map, pair, map_attempt]
  simp only [← bind_succeed, bind_bracket, pure_eq_succeed, succeed_bind, PairTree.toList]

/-- Flattened, what pairs over a tree of parsers read is what the parsers read in a row. -/
theorem agrees_pairs : ∀ t : PairTree (Parser α),
    ((pairs t).map PairTree.toList).Agrees (each t.toList)
  | .leaf p => by
    have hrow : each [p] = p.map ([·]) := by
      rw [each, ← bind_succeed]
      exact congrArg (p >>= ·) (funext fun a => succeed_bind [] _)
    have htree : (pairs (.leaf p)).map PairTree.toList = p.map ([·]) := map_map _ _ p
    rw [PairTree.toList, hrow, htree]
    exact .refl _
  | .node s t => by
    rw [map_toList_pairs_node, PairTree.toList, each_append]
    refine (agrees_attempt _).trans (.bind (agrees_pairs s) fun as => ?_)
    exact .bind (agrees_pairs t) fun bs => .refl _

theorem quiet_pairs {t : PairTree (Parser α)} {p q : Parser α} {ps : List (Parser α)}
    (ht : t.toList = p :: q :: ps) :
    ((pairs t).map PairTree.toList).quiet = (each (p :: q :: ps)).attempt.quiet := by
  cases t with
  | leaf p' => simp [PairTree.toList] at ht
  | node s t =>
    have hagrees := (agrees_pairs (.node s t)).quiet_attempt
    rw [ht, map_toList_pairs_node, attempt_attempt] at hagrees
    rw [map_toList_pairs_node, hagrees]

/-- A tree of the shape of the positions has its leaves at the positions in order. -/
theorem assign_positions {γ : Type} {more : Nat} {v : PairTree γ}
    (h : v.shape = (PairTree.positions more).shape) :
    (PairTree.positions more).assign v = (List.range (more + 1)).zip v.toList := by
  rw [PairTree.assign_eq_zip h.symm, PairTree.positions,
    PairTree.toList_positionsTo more 0 more (Nat.le_refl more), List.range_eq_range']

/-- The values that the pattern of positions finds are the leaves in order. -/
theorem treeSeq_eq (p : Parser α) (ps : List (Parser α)) :
    treeSeq p ps = (pairs (.balanced p ps)).map PairTree.toList := by
  refine (yields_pairs _).map_congr fun v hv => ?_
  exact PairTree.inOrder_eq_toList (hv.trans (PairTree.shape_balanced p ps))

/-- Two or more parsers in a row have one outcome and stop at one place, whether they are a family
in any container, a flat sequence, a tree with its pattern, or pairs nested in any way. And the
pattern for one or more parsers has the shape of their tree and gives each position to the parser,
and to its value, at that place of the row. -/
theorem sequences_quiet_eq (container : Container) (p q : Parser α) (ps : List (Parser α)) :
    let whole := (all (container.family (p :: q :: ps))).quiet
    (∀ t : PairTree (Parser α), t.toList = p :: q :: ps →
        ((pairs t).map PairTree.toList).quiet = whole)
      ∧ ((pairs (.leaningRight p (q :: ps))).map PairTree.toList).quiet = whole
      ∧ ((pairs (.leaningLeft (.leaf p) (q :: ps))).map PairTree.toList).quiet = whole
      ∧ (treeSeq p (q :: ps)).quiet = whole
      ∧ (seq (p :: q :: ps)).quiet = whole
      ∧ (chain p (q :: ps)).quiet = whole
      ∧ ∀ (m : Parser α) (more : List (Parser α)),
          (PairTree.positions more.length).shape = (PairTree.balanced m more).shape
          ∧ (PairTree.positions more.length).assign (.balanced m more)
            = (List.range (more.length + 1)).zip (m :: more)
          ∧ (pairs (.balanced m more)).Yields fun v =>
            (PairTree.positions more.length).assign v
              = (List.range (more.length + 1)).zip v.toList := by
  have hwhole : (all (container.family (p :: q :: ps))).quiet
      = (each (p :: q :: ps)).attempt.quiet := by
    rw [all, Container.members_family]
  have htree : (treeSeq p (q :: ps)).quiet = (each (p :: q :: ps)).attempt.quiet := by
    rw [treeSeq_eq]
    exact quiet_pairs (PairTree.toList_balanced p (q :: ps))
  have hseq : (seq (p :: q :: ps)).quiet = (each (p :: q :: ps)).attempt.quiet :=
    quiet_noting _ _ _
  simp only [hwhole]
  refine ⟨fun t ht => quiet_pairs ht, quiet_pairs (PairTree.toList_leaningRight p (q :: ps)),
    quiet_pairs (PairTree.toList_leaningLeft (.leaf p) (q :: ps)), htree, hseq, ?_,
    fun m more => ⟨(PairTree.shape_balanced m more).symm, ?_, ?_⟩⟩
  · unfold chain
    split_ifs
    · exact htree
    · exact hseq
  · rw [assign_positions (PairTree.shape_balanced m more), PairTree.toList_balanced]
  · intro c
    refine (yields_pairs _ c).imp fun r hr v hv => ?_
    exact assign_positions ((hr v hv).trans (PairTree.shape_balanced m more))

end Parser

end Backtrack
