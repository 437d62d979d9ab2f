import Mathlib.Data.Finset.Card
import Mathlib.Data.Finset.Filter
import Backtrack.Proofs.Rounds

/-!
# Descriptions that end

A description ends on a text if its members and its rule do and its own loop has rounds enough
(`Likeness.exists_rounds`). A rule that does not come to call itself stands for a description that
calls fewer rules, so there is a budget from which a description without `goto` comes to one end,
the same for any more (`Grammar.exists_budget`).
-/

namespace Backtrack

namespace Likeness

variable {α β : Type} {t : Text} {F : Fault → Prop} {p : Parser α} {q : Parser β}

theorem Relates.ends (hp : (ending t F).Relates p p) (ho : p.Within .onward) (most : Nat) :
    p.Ends F (fun _ => false) most t := by
  rintro seen rest rfl
  have hc := Cursor.aligned_between seen rest
  have hends := hp _ _ (at_self rfl hc rfl)
  have honward := ho _ hc
  rcases hrun : p (.between seen rest) with f | r <;> rw [hrun] at hends honward
  · exact (hends.resolve_left id).1
  · exact And.intro honward.1 ⟨fun _ => honward.2, by simp⟩

theorem relates_ending_of_meets
    (h : ∀ seen rest, t = seen ++ rest →
      Run.Meets F (fun r => t.IsBoundary r.stop) (p (.between seen rest))) :
    (ending t F).Relates p p := by
  refine relates_self rfl fun c hc ht => ?_
  obtain ⟨seen, rest, rfl⟩ := hc.exists_between
  exact (h seen rest ht.symm).imp fun _ hr => ⟨hr, trivial⟩

theorem Relates.ending_repeatWhile (hp : (ending t F).Relates p p) (ho : p.Within .onward)
    {rounds min : Nat} (hr : max min (t.length + 1) ≤ rounds) (proceed : Nat → Bool) :
    (ending t F).Relates (.repeatWhile rounds min proceed p)
      (.repeatWhile rounds min proceed p) := by
  refine relates_ending_of_meets fun seen rest ht => ?_
  have hlen : t.length = seen.length + rest.length := by rw [ht, List.length_append]
  exact ((hp.ends ho 1).repeatWhile Parser.spares_none ht (by omega) proceed).imp fun _ hr => hr.1

theorem Relates.ending_scan (hp : (ending t F).Relates p p) (ho : p.Within .onward)
    (hq : (ending t F).Relates q q) (ho' : q.Within .onward) {rounds : Nat}
    (hr : t.length + 1 ≤ rounds) (kind : ScanKind) :
    (ending t F).Relates (.scan kind rounds p q) (.scan kind rounds p q) := by
  refine relates_ending_of_meets fun seen rest ht => ?_
  have hlen : t.length = seen.length + rest.length := by rw [ht, List.length_append]
  have hlt : rest.length < rounds := by omega
  exact ((hp.ends ho 0).scan (hq.ends ho' 0) (Nat.zero_le 1) Parser.spares_none kind ht hlt).imp
    fun _ hr => hr.1

variable (t F) in
theorem exists_rounds_quantity (q : Quantity) : ∃ n, ∀ rounds (p : Parser Value), n ≤ rounds →
    p.Within .onward → (ending t F).Relates p p →
    (ending t F).Relates (q.parser rounds p) (q.parser rounds p) := by
  have h : ∀ min proceed, ∃ n, ∀ rounds (p : Parser Value), n ≤ rounds → p.Within .onward →
      (ending t F).Relates p p → (ending t F).Relates (.repeatWhile rounds min proceed p)
        (.repeatWhile rounds min proceed p) :=
    fun min proceed => ⟨_, fun _ _ hr ho hp => hp.ending_repeatWhile ho hr proceed⟩
  cases q <;> exact h _ _

variable (t F) in
/-- With enough rounds for its own loop, a description ends if its members and its rule do. -/
theorem exists_rounds (e : Expr) : ∃ n, ∀ rounds (call : String → Parser Value), n ≤ rounds →
    (∀ d ∈ e.members, (d.parser call rounds).Within .onward) →
    (∀ d ∈ e.members, (ending t F).Relates (d.parser call rounds) (d.parser call rounds)) →
    (∀ name, e = .rule name → (ending t F).Relates (call name) (call name)) →
    (ending t F).Relates (e.parser call rounds) (e.parser call rounds) := by
  obtain ⟨n, hn⟩ : ∃ n, ∀ q d, e = .repeated q d → ∀ rounds (p : Parser Value), n ≤ rounds →
      p.Within .onward → (ending t F).Relates p p →
      (ending t F).Relates (q.parser rounds p) (q.parser rounds p) := by
    by_cases he : ∃ q d, e = .repeated q d
    · obtain ⟨q, d, rfl⟩ := he
      obtain ⟨n, hn⟩ := exists_rounds_quantity t F q
      refine ⟨n, ?_⟩
      rintro _ _ ⟨⟩
      exact hn
    · exact ⟨0, fun q d h => absurd ⟨q, d, h⟩ he⟩
  refine ⟨max n (max 4 (t.length + 1)), fun rounds call hr ho hmember hrule => ?_⟩
  refine relates_expr (.inl rfl) ?_ hmember hrule ?_ ?_ ?_
  · rintro l -
    exact relates_leaf (.inl rfl) fun _ _ min proceed hmin ho hitem =>
      hitem.ending_repeatWhile ho (by omega) proceed
  · rintro q d rfl
    exact hn q d rfl rounds _ (by omega) (ho d (by simp [Expr.members]))
      (hmember d (by simp [Expr.members]))
  · rintro kind d f rfl
    exact (hmember d (by simp [Expr.members])).ending_scan (ho d (by simp [Expr.members]))
      (hmember f (by simp [Expr.members])) (ho f (by simp [Expr.members])) (by omega) kind
  · rintro kind f rfl
    have hchar : (ending t F).Relates Parser.anyChar Parser.anyChar :=
      relates_of_looksAhead Parser.looksAhead_anyChar
    exact (hchar.ending_scan Parser.isToken_anyChar.within (hmember f (by simp [Expr.members]))
      (ho f (by simp [Expr.members])) (by omega) kind).recognize

/-- With more to spend for calls as well, a description comes to the same. -/
theorem relates_budgets_of_calls {call call' : String → Parser Value} {rounds rounds' : Nat}
    (hr : rounds ≤ rounds') (hcall : ∀ name, (budgets t).Relates (call name) (call' name))
    (e : Expr) : (budgets t).Relates (e.parser call rounds) (e.parser call' rounds') := by
  induction e using Expr.members_induction with
  | step e ih =>
    exact (sameRounds_budgets hr).relates_expr (.inl rfl) ih fun name _ => hcall name

theorem relates_budgets_call (g : Grammar) {rounds rounds' : Nat} (hr : rounds ≤ rounds') :
    ∀ {depth depth' : Nat}, depth ≤ depth' → ∀ name,
      (budgets t).Relates (g.call rounds depth name) (g.call rounds' depth' name)
  | 0, _, _, _ => fun _ _ _ => .inl (.inr rfl)
  | depth + 1, 0, h, _ => absurd h (Nat.not_succ_le_zero depth)
  | depth + 1, depth' + 1, h, name => by
    rcases hm : g.lookup name with _ | m
    · rw [Grammar.call_succ_of_lookup_none hm, Grammar.call_succ_of_lookup_none hm]
      exact fun _ _ _ => .inr ⟨trivial, rfl⟩
    · rw [Grammar.call_succ_of_lookup hm, Grammar.call_succ_of_lookup hm]
      exact relates_budgets_of_calls hr (relates_budgets_call g hr (Nat.le_of_succ_le_succ h)) m

end Likeness

namespace Grammar

variable {g : Grammar} {F : Fault → Prop}

/-- No rule that a description calls comes to call itself. -/
def Acyclic (g : Grammar) (e : Expr) : Prop :=
  ∀ name m, g.Part e (.rule name) → g.lookup name = some m → ¬ g.Part m (.rule name)

/-- A part of a description that ends: it does not move back, and its rule does not come to call
itself, or is at a fault of `F`. -/
structure Tame (g : Grammar) (F : Fault → Prop) (d : Expr) : Prop where
  onward : ∀ n, d ≠ .leaf (.goto n)
  acyclic : ∀ name m, d = .rule name → g.lookup name = some m → ¬ g.Part m d
  known : ∀ name, d = .rule name → g.lookup name = none → F (.unknownName name)

open Classical in
/-- The names of the rules that a description comes to call. -/
noncomputable def names (g : Grammar) (e : Expr) : Finset String :=
  (g.map Prod.fst).toFinset.filter fun name => g.Part e (.rule name)

theorem names_subset {e d : Expr} (h : ∀ x, g.Part d x → g.Part e x) : g.names d ⊆ g.names e := by
  intro name hname
  simp only [names, Finset.mem_filter] at hname ⊢
  exact ⟨hname.1, h _ hname.2⟩

/-- What a rule stands for calls fewer rules, unless it comes to call this one. -/
theorem card_names_lt {name : String} {m : Expr} (hm : g.lookup name = some m)
    (h : ¬ g.Part m (.rule name)) : (g.names m).card < (g.names (.rule name)).card := by
  refine Finset.card_lt_card ((Finset.ssubset_iff_of_subset ?_).2 ⟨name, ?_, ?_⟩)
  · exact names_subset fun x hx => .called hm hx
  · obtain ⟨before, behind, hg, -⟩ := List.lookup_eq_some_iff.1 hm
    simp [names, hg, Part.self]
  · simp [names, h]

/-- With this budget or more, on the text, the description returns or stops at a fault of `F`. -/
def EndsFrom (g : Grammar) (F : Fault → Prop) (t : Text) (e : Expr) (n : Nat) : Prop :=
  ∀ rounds depth, n ≤ rounds → n ≤ depth → (Likeness.ending t F).Relates
    (e.parser (g.call rounds depth) rounds) (e.parser (g.call rounds depth) rounds)

theorem EndsFrom.mono {t : Text} {e : Expr} {n m : Nat} (h : g.EndsFrom F t e n) (hle : n ≤ m) :
    g.EndsFrom F t e m :=
  fun rounds depth hr hdepth => h rounds depth (Nat.le_trans hle hr) (Nat.le_trans hle hdepth)

theorem exists_endsFrom_forall {t : Text} : ∀ {es : List Expr},
    (∀ e ∈ es, ∃ n, g.EndsFrom F t e n) → ∃ n, ∀ e ∈ es, g.EndsFrom F t e n
  | [], _ => ⟨0, by simp⟩
  | e :: es, h => by
    obtain ⟨n, hn⟩ := h e List.mem_cons_self
    obtain ⟨m, hm⟩ := exists_endsFrom_forall fun d hd => h d (List.mem_cons_of_mem e hd)
    refine ⟨max n m, fun d hd => ?_⟩
    rcases List.mem_cons.1 hd with rfl | hd
    · exact hn.mono (Nat.le_max_left n m)
    · exact (hm d hd).mono (Nat.le_max_right n m)

/-- A call takes one level more than what the rule stands for. -/
theorem exists_budget_call {t : Text} {name : String} (hname : g.Tame F (.rule name))
    (h : ∀ m, g.lookup name = some m → ∃ n, g.EndsFrom F t m n) :
    ∃ n, ∀ rounds depth, n ≤ rounds → n ≤ depth → (Likeness.ending t F).Relates
      (g.call rounds depth name) (g.call rounds depth name) := by
  rcases hm : g.lookup name with _ | m
  · refine ⟨1, ?_⟩
    rintro rounds (_ | depth) _ hdepth
    · exact absurd hdepth (Nat.not_succ_le_zero 0)
    · rw [call_succ_of_lookup_none hm]
      exact fun _ _ _ => .inr ⟨hname.known name rfl hm, rfl⟩
  · obtain ⟨n, hn⟩ := h m hm
    refine ⟨n + 1, ?_⟩
    rintro rounds (_ | depth) hr hdepth
    · exact absurd hdepth (Nat.not_succ_le_zero n)
    · rw [call_succ_of_lookup hm]
      exact hn rounds depth (by omega) (by omega)

/-- A call ends beyond some budget, if the description is one. -/
theorem exists_budget_rule {t : Text} {e : Expr} (he : g.Tame F e)
    (h : ∀ name m, e = .rule name → g.lookup name = some m → ∃ n, g.EndsFrom F t m n) :
    ∃ n, ∀ name, e = .rule name → ∀ rounds depth, n ≤ rounds → n ≤ depth →
      (Likeness.ending t F).Relates (g.call rounds depth name) (g.call rounds depth name) := by
  by_cases hrule : ∃ name, e = .rule name
  · obtain ⟨name, rfl⟩ := hrule
    obtain ⟨n, hn⟩ := exists_budget_call he fun m hm => h name m rfl hm
    refine ⟨n, ?_⟩
    rintro _ ⟨⟩
    exact hn
  · exact ⟨0, fun name hname => absurd ⟨name, hname⟩ hrule⟩

/-- The induction is on the number of rules that are called and, for each number of them, on the
description: its members call no rules that it does not call, and what a rule stands for calls
fewer. -/
theorem exists_endsFrom (t : Text) : ∀ (k : Nat) (e : Expr), (g.names e).card ≤ k →
    (∀ d, g.Part e d → g.Tame F d) → ∃ n, g.EndsFrom F t e n := by
  intro k
  induction k using Nat.strong_induction_on with
  | _ k ihk =>
    intro e
    induction e using Expr.members_induction with
    | step e ih =>
      intro hk h
      obtain ⟨n, hn⟩ := Likeness.exists_rounds t F e
      obtain ⟨n₁, hmembers⟩ := exists_endsFrom_forall (t := t) fun d hd => ih d hd
        (Nat.le_trans (Finset.card_le_card (names_subset fun x => .member hd)) hk)
        (forall_part_member h hd)
      have hcalled : ∀ name m, e = .rule name → g.lookup name = some m →
          ∃ n, g.EndsFrom F t m n := by
        rintro name m rfl hm
        have hless := card_names_lt hm ((h _ (.self _)).acyclic name m rfl hm)
        exact ihk _ (Nat.lt_of_lt_of_le hless hk) m (Nat.le_refl _) fun d hd =>
          h d (.called hm hd)
      obtain ⟨n₂, hrule⟩ := exists_budget_rule (h e (.self e)) hcalled
      refine ⟨max n (max n₁ n₂), fun rounds depth hr hdepth => ?_⟩
      refine hn rounds _ (by omega) (fun d hd => ?_)
        (fun d hd => hmembers d hd rounds depth (by omega) (by omega))
        fun name he => hrule name he rounds depth (by omega) (by omega)
      exact parser_within_onward g rounds depth fun n hpart =>
        (h _ (.member hd hpart)).onward n rfl

/-- Without `goto` and without rules that come to call themselves, a description comes to one end on
any text, whatever there is to spend beyond some budget: it returns, or a rule it calls is not
there. -/
theorem exists_budget {e : Expr} (hgoto : ∀ n, ¬ g.Part e (.leaf (.goto n)))
    (hrules : g.Acyclic e) {c : Cursor} (hc : c.Aligned) :
    ∃ n x, (∀ f, x = .error f → ∃ name, f = .unknownName name ∧ g.Part e (.rule name)
        ∧ g.lookup name = none)
      ∧ ∀ budget, n ≤ budget → g.parser budget e c = x := by
  have htame : ∀ d, g.Part e d → g.Tame (fun f => ∃ name, f = .unknownName name
      ∧ g.Part e (.rule name) ∧ g.lookup name = none) d := by
    intro d hd
    refine ⟨?_, ?_, ?_⟩
    · rintro n rfl
      exact hgoto n hd
    · rintro name m rfl hm
      exact hrules name m hd hm
    · rintro name rfl hm
      exact ⟨name, rfl, hd, hm⟩
  obtain ⟨n, hn⟩ := exists_endsFrom c.text _ e (Nat.le_refl _) htame
  have hfault : ∀ f, g.parser n e c = .error f → ∃ name, f = .unknownName name
      ∧ g.Part e (.rule name) ∧ g.lookup name = none := by
    intro f hf
    have h := hn n n (Nat.le_refl n) (Nat.le_refl n) c c (Likeness.at_self rfl hc rfl)
    unfold parser at hf
    rw [hf] at h
    exact (h.resolve_left id).1
  refine ⟨n, g.parser n e c, hfault, fun budget hle => ?_⟩
  refine Likeness.eq_of_relates_budgets hc ?_ fun f hf => ?_
  · exact Likeness.relates_budgets_of_calls hle (Likeness.relates_budgets_call g hle hle) e
  · obtain ⟨name, rfl, -⟩ := hfault f hf
    simp

/-- Loops over steady parsers return within a number of runs that the code points left and the items
needed give, also where items read nothing, and give the same reply with any more rounds; so a
description without `goto` and without rules that come to call themselves comes to an end. -/
theorem ends_within {α β : Type} {p : Parser α} {q : Parser β} (hp : p.Steady) (hq : q.Steady)
    {e : Expr} (hgoto : ∀ n, ¬ g.Part e (.leaf (.goto n))) (hrules : g.Acyclic e)
    (seen rest : Text) :
    (∀ min proceed, ∃ r log, log.count .itemRun ≤ max min (rest.length + 1) ∧
      ∀ rounds, max min (rest.length + 1) ≤ rounds →
        Parser.repeatWhile rounds min proceed p (.between seen rest) = .ok r ∧
        Parser.repeatWhile rounds min proceed (p.marked .itemRun) (.between seen rest)
          = .ok { r with log := log })
    ∧ (∀ kind, ∃ r log,
      (log.count .itemRun ≤ rest.length + 1 ∧ log.count .delimiterRun ≤ rest.length + 1) ∧
      ∀ rounds, rest.length + 1 ≤ rounds →
        Parser.scan kind rounds p q (.between seen rest) = .ok r ∧
        Parser.scan kind rounds (p.marked .itemRun) (q.marked .delimiterRun) (.between seen rest)
          = .ok { r with log := log })
    ∧ ∃ n x, (∀ f, x = .error f → ∃ name, f = .unknownName name ∧ g.Part e (.rule name)
        ∧ g.lookup name = none)
      ∧ ∀ budget, n ≤ budget → g.parser budget e (.between seen rest) = x :=
  ⟨fun min proceed => hp.repeatWhile_returns min proceed seen rest,
    fun kind => hp.scan_returns hq kind seen rest,
    exists_budget hgoto hrules (Cursor.aligned_between seen rest)⟩

/-- One rule: any number of letters, each of them there or not. -/
def letters : Grammar := [("letters", .repeated .zeroOrMore (.optional (.leaf (.char 'a'))))]

/-- Five items are needed where two are to be read: three more of them read nothing. -/
theorem ends_within_letters :
    (Parser.char 'a').optional.Steady ∧ (Parser.char ';').Steady
      ∧ (∀ n, ¬ letters.Part (.rule "letters") (.leaf (.goto n)))
      ∧ letters.Acyclic (.rule "letters")
      ∧ (∃ log : List Record, log.count .itemRun ≤ 5 ∧ ∀ rounds, 5 ≤ rounds →
          Parser.repeatWhile rounds 5 (fun _ => true) (Parser.char 'a').optional
              (.between ['é'] ['a', 'a', 'b'])
            = .ok ⟨.matched [.present 'a', .present 'a', .absent, .absent, .absent], 4, []⟩ ∧
          Parser.repeatWhile rounds 5 (fun _ => true) ((Parser.char 'a').optional.marked .itemRun)
              (.between ['é'] ['a', 'a', 'b'])
            = .ok ⟨.matched [.present 'a', .present 'a', .absent, .absent, .absent], 4, log⟩)
      ∧ ∃ n r, ∀ budget, n ≤ budget →
          letters.parser budget (.rule "letters") (.between ['é'] ['a', 'a', 'b']) = .ok r := by
  have hp : (Parser.char 'a').optional.Steady := (Parser.isToken_charWhere _).steady.optional
  have hq : (Parser.char ';').Steady := (Parser.isToken_charWhere _).steady
  have hlookup : ∀ name m, letters.lookup name = some m →
      m = .repeated .zeroOrMore (.optional (.leaf (.char 'a'))) := by
    intro name m hm
    obtain ⟨before, behind, hletters, -⟩ := List.lookup_eq_some_iff.1 hm
    have hmem : (name, m) ∈ letters := by simp [hletters]
    simp only [letters, List.mem_singleton, Prod.mk.injEq] at hmem
    exact hmem.2
  have hparts : ∀ d, letters.Part (.repeated .zeroOrMore (.optional (.leaf (.char 'a')))) d →
      (∀ n, d ≠ .leaf (.goto n)) ∧ ∀ name, d ≠ .rule name := by
    intro d hd
    rw [part_iff] at hd
    simp only [Expr.members, List.mem_singleton, exists_eq_left, reduceCtorEq, false_and,
      exists_false, or_false] at hd
    rcases hd with rfl | hd
    · simp
    rw [part_iff] at hd
    simp only [Expr.members, List.mem_singleton, exists_eq_left, part_leaf, reduceCtorEq,
      false_and, exists_false, or_false] at hd
    rcases hd with rfl | rfl <;> simp
  have hgoto : ∀ n, ¬ letters.Part (.rule "letters") (.leaf (.goto n)) := by
    rintro n (_ | ⟨hm, -⟩ | ⟨hm, hd⟩)
    · cases hm
    · exact (hparts _ (hlookup _ _ hm ▸ hd)).1 n rfl
  have hrules : letters.Acyclic (.rule "letters") :=
    fun name m _ hm hd => (hparts _ (hlookup _ _ hm ▸ hd)).2 name rfl
  obtain ⟨hrepeat, -, n, x, hx, hbudget⟩ := ends_within hp hq hgoto hrules ['é'] ['a', 'a', 'b']
  obtain ⟨r, log, hcount, hr⟩ := hrepeat 5 fun _ => true
  have hreply : Parser.repeatWhile 5 5 (fun _ => true) (Parser.char 'a').optional
      (.between ['é'] ['a', 'a', 'b'])
        = .ok ⟨.matched [.present 'a', .present 'a', .absent, .absent, .absent], 4, []⟩ := rfl
  cases hreply.symm.trans (hr 5 (Nat.le_refl 5)).1
  refine ⟨hp, hq, hgoto, hrules, ⟨log, hcount, hr⟩, n, ?_⟩
  rcases x with f | r
  · obtain ⟨name, -, hpart, hnone⟩ := hx f rfl
    rcases hpart with _ | ⟨hm, -⟩ | ⟨hm, hd⟩
    · cases hnone
    · cases hm
    · exact absurd rfl ((hparts _ (hlookup _ _ hm ▸ hd)).2 name)
  · exact ⟨r, hbudget⟩

end Grammar

end Backtrack
