import Backtrack.Grammar.Meaning

/-!
# The parts of a description

A description is made of descriptions, and a rule it calls has one of its own; all of these are its
parts (`Grammar.Part`). What each description passes on from its members, and each rule from its
description, holds of the parser of any description whose parts are as required
(`Grammar.parser_induction`): the induction goes down the calls first and the description second.
-/

namespace Backtrack

namespace Expr

/-- The descriptions that a description is made of, in order. -/
def members : Expr → List Expr
  | leaf _ | rule _ => []
  | map _ e | tryMap _ e | verify _ e | withValue _ e | relabelError _ e | wrapError e => [e]
  | optional e | recognize e | spanned e | peek e | not e | complete e => [e]
  | shared e | erased e | repeated _ e | scanText _ e => [e]
  | pair e f | or e f | scan _ e f => [e, f]
  | chain e es | choice e es => e :: es
  | seq es | any _ es | all _ es | nth _ _ es => es

theorem sizeOf_lt_of_mem_members {d e : Expr} (h : d ∈ e.members) : sizeOf d < sizeOf e := by
  have hlist : ∀ {es : List Expr}, d ∈ es → sizeOf d < sizeOf es := List.sizeOf_lt_of_mem
  cases e <;> simp [members] at h ⊢ <;> grind

/-- What every description passes on from its members holds of all. -/
theorem members_induction {P : Expr → Prop} (step : ∀ e, (∀ d ∈ e.members, P d) → P e) (e : Expr) :
    P e :=
  step e fun d _ => members_induction step d
termination_by sizeOf e
decreasing_by exact sizeOf_lt_of_mem_members ‹_›

theorem parsers_eq_map (call : String → Parser Value) (rounds : Nat) :
    ∀ es : List Expr, parsers call rounds es = es.map (·.parser call rounds)
  | [] => rfl
  | e :: es => by rw [parsers, parsers_eq_map call rounds es, List.map_cons]

theorem forall_mem_parsers {call : String → Parser Value} {rounds : Nat} {es : List Expr}
    {Q : Parser Value → Prop} (h : ∀ d ∈ es, Q (d.parser call rounds)) :
    ∀ p ∈ parsers call rounds es, Q p := by
  intro p hp
  rw [parsers_eq_map] at hp
  obtain ⟨d, hd, rfl⟩ := List.mem_map.1 hp
  exact h d hd

end Expr

namespace Grammar

variable {g : Grammar}

theorem call_succ_of_lookup {name : String} {m : Expr} (h : g.lookup name = some m)
    (rounds depth : Nat) :
    g.call rounds (depth + 1) name = m.parser (g.call rounds depth) rounds := by
  funext c
  rw [call, h]

theorem call_succ_of_lookup_none {name : String} (h : g.lookup name = none)
    (rounds depth : Nat) :
    g.call rounds (depth + 1) name = fun _ => .error (.unknownName name) := by
  funext c
  rw [call, h]

/-- `d` is `e`, or a part of a member of `e`, or a part of the rule that `e` calls. -/
inductive Part (g : Grammar) : Expr → Expr → Prop where
  | self (e : Expr) : Part g e e
  | member {e m d : Expr} : m ∈ e.members → Part g m d → Part g e d
  | called {name : String} {m d : Expr} : g.lookup name = some m → Part g m d →
    Part g (.rule name) d

theorem part_iff {e d : Expr} : g.Part e d ↔ d = e ∨ (∃ m ∈ e.members, g.Part m d) ∨
    ∃ name m, e = .rule name ∧ g.lookup name = some m ∧ g.Part m d := by
  constructor
  · rintro (_ | ⟨hm, h⟩ | ⟨hm, h⟩)
    · exact .inl rfl
    · exact .inr (.inl ⟨_, hm, h⟩)
    · exact .inr (.inr ⟨_, _, rfl, hm, h⟩)
  · rintro (rfl | ⟨m, hm, h⟩ | ⟨name, m, rfl, hm, h⟩)
    · exact .self d
    · exact .member hm h
    · exact .called hm h

theorem Part.trans {e d d' : Expr} (h : g.Part e d) (h' : g.Part d d') : g.Part e d' := by
  induction h with
  | self => exact h'
  | member hm _ ih => exact .member hm (ih h')
  | called hname _ ih => exact .called hname (ih h')

theorem part_leaf {l : Leaf} {d : Expr} : g.Part (.leaf l) d ↔ d = .leaf l := by
  rw [part_iff]
  simp [Expr.members]

theorem forall_part_member {P : Expr → Prop} {e m : Expr} (h : ∀ d, g.Part e d → P d)
    (hm : m ∈ e.members) : ∀ d, g.Part m d → P d :=
  fun d hd => h d (.member hm hd)

/-- What the faults of calls have, and each description as required passes on from its members and
from the rule it calls, the parser of every description whose parts are as required has. -/
theorem parser_induction {budget : Nat} {P : Expr → Prop} {Q : Parser Value → Prop}
    (deep : Q fun _ => .error .depthSpent) (unknown : ∀ name, Q fun _ => .error (.unknownName name))
    (step : ∀ (call : String → Parser Value) (e : Expr), P e →
      (∀ d ∈ e.members, Q (d.parser call budget)) →
      (∀ name, e = .rule name → Q (call name)) → Q (e.parser call budget))
    {e : Expr} (h : ∀ d, g.Part e d → P d) (depth : Nat) :
    Q (e.parser (g.call budget depth) budget) := by
  induction depth generalizing e with
  | zero =>
    induction e using Expr.members_induction with
    | step e ih =>
      exact step _ e (h e (.self e)) (fun d hd => ih d hd (forall_part_member h hd))
        fun _ _ => deep
  | succ depth ihdepth =>
    induction e using Expr.members_induction with
    | step e ih =>
      refine step _ e (h e (.self e)) (fun d hd => ih d hd (forall_part_member h hd)) ?_
      rintro name rfl
      rcases hm : g.lookup name with _ | m
      · rw [call_succ_of_lookup_none hm]
        exact unknown name
      · rw [call_succ_of_lookup hm]
        exact ihdepth fun d hd => h d (.called hm hd)

end Grammar

end Backtrack
