import Backtrack.Proofs.Logging

/-!
# What a failure logs

A linear description runs each of its members once, one behind the other, from where it begins. So
the evaluations of a run that do not match are one inside of the other, and each of them ends the one
around it: they are the backtrace of the run, the innermost first (`Expr.Backtrace`). The log of a
match is empty, and the log of a failure has a record for each flat sequence of the backtrace, behind
the record of a conversion if one is at the start of it (`Grammar.linear_log`).
-/

namespace Backtrack

/-- Where what is noted began. -/
def Record.start? : Record → Option Nat
  | sequenceMiss start | sequenceError start | conversionError start => some start
  | repetitionShort _ _ start | untilError start | whileNotError start => some start
  | repetitionError _ => none

/-- One run of a description, in a greater run or by itself. -/
structure Evaluation where
  expr : Expr
  start : Cursor
  outcome : Outcome Value

namespace Expr

/-- The description runs its members once each, one behind the other, from where it begins. -/
def Linear : Expr → Prop
  | leaf l => l.Primitive
  | map _ _ | tryMap _ _ | verify _ _ | withValue _ _ | relabelError _ _ | wrapError _ => True
  | recognize _ | spanned _ | peek _ | complete _ | shared _ | erased _ => True
  | pair _ _ | seq _ | chain _ _ | all _ _ => True
  | _ => False

/-- The description is a flat sequence. -/
def isFlat : Expr → Bool
  | seq _ => true
  | chain _ es => !(es.isEmpty || Parser.flatLimit ≤ es.length)
  | _ => false

end Expr

namespace Evaluation

def isMatch (x : Evaluation) : Bool := x.outcome.isMatch

/-- What a flat sequence logs where it does not match. -/
def sequenceRecord? (x : Evaluation) : Option Record :=
  if x.expr.isFlat then
    match x.outcome with
    | .matched _ => none
    | .missed => some (.sequenceMiss x.start.pos)
    | .failed _ => some (.sequenceError x.start.pos)
  else none

/-- What a conversion that fails logs. -/
def conversionRecord? : Evaluation → Option Record
  | ⟨.tryMap _ _, c, .failed _⟩ => some (.conversionError c.pos)
  | _ => none

end Evaluation

namespace Expr

/-- From the row `s` of its members at the cursor the description matches only if they do. It logs
what they log, behind their match the failure of its conversion, and its record as a sequence. -/
structure Closes (e : Expr) (c : Cursor) (s : Reply (List Value)) (r : Reply Value) : Prop where
  not_match : s.outcome.isMatch = false → r.outcome.isMatch = false
  log_eq : r.log = s.log
    ++ (if s.outcome.isMatch then (Evaluation.conversionRecord? ⟨e, c, r.outcome⟩).toList else [])
    ++ (Evaluation.sequenceRecord? ⟨e, c, r.outcome⟩).toList

variable {call : String → Parser Value} {rounds : Nat} {e : Expr} {c : Cursor} {r : Reply Value}

theorem exists_closes_of_extends (hflat : e.isFlat = false)
    (hextends : Parser.Extends c (fun o => (Evaluation.conversionRecord? ⟨e, c, o⟩).toList)
      (Parser.each (e.members.map (·.parser call rounds))) (e.parser call rounds))
    (h : e.parser call rounds c = .ok r) :
    ∃ s, Parser.each (e.members.map (·.parser call rounds)) c = .ok s ∧ e.Closes c s r := by
  obtain ⟨s, hs, hmatch, hlog⟩ := hextends r h
  exact ⟨s, hs, hmatch, by simp [hlog, Evaluation.sequenceRecord?, hflat]⟩

theorem exists_closes_of_seq (hflat : e.isFlat = true)
    (hplain : ∀ o, Evaluation.conversionRecord? ⟨e, c, o⟩ = none)
    (hparser : e.parser call rounds
      = (Parser.seq (e.members.map (·.parser call rounds))).map Value.tuple)
    (h : e.parser call rounds c = .ok r) :
    ∃ s, Parser.each (e.members.map (·.parser call rounds)) c = .ok s ∧ e.Closes c s r := by
  rw [hparser, Parser.map_eq] at h
  rcases hseq : Parser.seq (e.members.map (·.parser call rounds)) c with f | q <;>
    rw [hseq] at h <;> cases h
  obtain ⟨s, hs, houtcome, hlog⟩ := Parser.exists_of_sequence hseq
  refine ⟨s, hs, ?_, ?_⟩
  · rw [houtcome]
    rcases q with ⟨v | _ | x, n, log⟩ <;> exact id
  · rw [hplain]
    rcases q with ⟨v | _ | x, n, log⟩ <;>
      simpa [Evaluation.sequenceRecord?, hflat, Reply.map, Outcome.map] using hlog

/-- A linear description closes the row of its members. -/
theorem Linear.exists_closes (he : e.Linear) (hc : c.Aligned)
    (h : e.parser call rounds c = .ok r) :
    ∃ s, Parser.each (e.members.map (·.parser call rounds)) c = .ok s ∧ e.Closes c s r := by
  have hsingle : ∀ {m : Expr} {own : Outcome Value → List Record} {q : Parser Value},
      Parser.Extends c own (m.parser call rounds) q →
      Parser.Extends c own (Parser.each [m.parser call rounds]) q := by
    intro m own q hq
    rw [Parser.each_singleton]
    exact hq.of_map
  cases e with
  | leaf l =>
    have hlog : r.log = [] := (he.silent rounds c hc).of_eq_ok h
    exact ⟨_, rfl, by simp [Outcome.isMatch], by rw [hlog]; rfl⟩
  | map f m | withValue t m =>
    exact exists_closes_of_extends rfl (hsingle (.map (Parser.extends_self c _))) h
  | shared m | erased m => exact exists_closes_of_extends rfl (hsingle (Parser.extends_self c _)) h
  | relabelError kind m | wrapError m =>
    exact exists_closes_of_extends rfl (hsingle (Parser.extends_mapError _)) h
  | verify test m => exact exists_closes_of_extends rfl (hsingle (Parser.extends_verify _)) h
  | recognize m => exact exists_closes_of_extends rfl (hsingle (.map Parser.extends_recognize)) h
  | spanned m => exact exists_closes_of_extends rfl (hsingle (.map Parser.extends_spanned)) h
  | peek m => exact exists_closes_of_extends rfl (hsingle Parser.extends_peek) h
  | complete m => exact exists_closes_of_extends rfl (hsingle Parser.extends_complete) h
  | tryMap f m =>
    refine exists_closes_of_extends rfl (hsingle ?_) h
    have hown : (fun o => (Evaluation.conversionRecord? ⟨.tryMap f m, c, o⟩).toList)
        = Outcome.noteError (.conversionError c.pos) := by
      funext o
      cases o <;> rfl
    rw [hown]
    exact Parser.extends_tryMap _
  | pair m m' =>
    refine exists_closes_of_extends rfl ?_ h
    have hmap : Parser.Extends c (fun _ => [])
        (Parser.each [m.parser call rounds, m'.parser call rounds])
        (((Parser.pair (m.parser call rounds) (m'.parser call rounds)).map
          fun v => [v.1, v.2]).map Value.tuple) :=
      .map (Parser.extends_pair _ _)
    rw [Parser.map_map] at hmap
    exact hmap
  | seq es =>
    refine exists_closes_of_seq rfl (fun _ => rfl) ?_ h
    rw [parser, parsers_eq_map]
    rfl
  | chain m es =>
    by_cases hflat : es.isEmpty || Parser.flatLimit ≤ es.length
    · refine exists_closes_of_extends (by simp [isFlat, hflat]) ?_ h
      rw [parser, parsers_eq_map, Parser.chain, List.isEmpty_map, List.length_map, if_pos hflat]
      exact .map (Parser.extends_treeSeq _ _)
    · refine exists_closes_of_seq (by simp [isFlat, hflat]) (fun _ => rfl) ?_ h
      rw [parser, parsers_eq_map, Parser.chain, List.isEmpty_map, List.length_map, if_neg hflat]
      rfl
  | all container es =>
    refine exists_closes_of_extends rfl ?_ h
    rw [parser, Parser.all, Container.members_family, parsers_eq_map]
    exact .map (.attempt (Parser.extends_self c _))
  | _ => exact he.elim

/-- The evaluations of descriptions in a row, of which each is behind the match of the one before:
those of the members of one come before its own. -/
inductive Evaluates (run : Expr → Parser Value) : List Expr → Cursor → List Evaluation → Prop where
  | done (c : Cursor) : Evaluates run [] c []
  | matched {m : Expr} {es : List Expr} {c : Cursor} {v : Value} {n : Nat} {log : List Record}
      {inner behind : List Evaluation} : Evaluates run m.members c inner →
    run m c = .ok ⟨.matched v, n, log⟩ → Evaluates run es (c.moveTo n) behind →
    Evaluates run (m :: es) c (inner ++ ⟨m, c, .matched v⟩ :: behind)
  | stopped {m : Expr} {es : List Expr} {c : Cursor} {r : Reply Value} {inner : List Evaluation} :
    Evaluates run m.members c inner → run m c = .ok r → r.outcome.isMatch = false →
    Evaluates run (m :: es) c (inner ++ [⟨m, c, r.outcome⟩])

variable {run : Expr → Parser Value}

theorem Evaluates.unique {es : List Expr} {c : Cursor} {evs evs' : List Evaluation}
    (h : Evaluates run es c evs) (h' : Evaluates run es c evs') : evs' = evs := by
  induction h generalizing evs' with
  | done c =>
    cases h'
    rfl
  | matched hinner hm hes ihinner ihes =>
    cases h' with
    | matched hinner' hm' hes' =>
      cases hm.symm.trans hm'
      rw [ihinner hinner', ihes hes']
    | stopped hinner' hm' hstop =>
      cases hm.symm.trans hm'
      cases hstop
  | stopped hinner hm hstop ihinner =>
    cases h' with
    | matched hinner' hm' hes' =>
      cases hm.symm.trans hm'
      cases hstop
    | stopped hinner' hm' hstop' =>
      cases hm.symm.trans hm'
      rw [ihinner hinner']

end Expr

namespace Evaluation

theorem start?_of_sequenceRecord? {x : Evaluation} {a : Record} (h : x.sequenceRecord? = some a) :
    a.start? = some x.start.pos := by
  unfold sequenceRecord? at h
  split_ifs at h
  split at h <;> cases h <;> rfl

theorem start?_of_conversionRecord? {x : Evaluation} {a : Record}
    (h : x.conversionRecord? = some a) : a.start? = some x.start.pos := by
  unfold conversionRecord? at h
  split at h <;> cases h
  rfl

/-- The evaluations that do not match. -/
def failures (evs : List Evaluation) : List Evaluation := evs.filter fun x => !x.isMatch

@[simp] theorem failures_append (evs evs' : List Evaluation) :
    failures (evs ++ evs') = failures evs ++ failures evs' := List.filter_append ..

theorem filterMap_sequenceRecord?_singleton (x : Evaluation) :
    [x].filterMap sequenceRecord? = x.sequenceRecord?.toList := by
  rcases h : x.sequenceRecord? with _ | record <;> simp [h]

theorem failures_cons_of_isMatch {x : Evaluation} (h : x.isMatch = true) (evs : List Evaluation) :
    failures (x :: evs) = failures evs := by
  simp [failures, h]

theorem failures_singleton {x : Evaluation} (h : x.isMatch = false) : failures [x] = [x] := by
  simp [failures, h]

/-- The conversion refuses the value of its member. -/
def Refuses (run : Expr → Parser Value) (x : Evaluation) : Prop :=
  ∃ f m v n seed, x.expr = .tryMap f m ∧ (run m).MatchesTo x.start v n
    ∧ f.apply v = .error seed ∧ x.outcome = .failed (seed.toError x.start.pos)

end Evaluation

namespace Expr

open Evaluation

/-- The evaluations that do not match in a run of a description from a cursor, the first to end
first: each is of a member of the next one, and the run itself is the last. The first one logs that
it refuses a value, if it does, and then each flat sequence logs its end. -/
structure Backtrace (run : Expr → Parser Value) (e : Expr) (c : Cursor) (r : Reply Value)
    (failed : List Evaluation) : Prop where
  eq_nil : r.outcome.isMatch = true → failed = []
  last : r.outcome.isMatch = false → failed.getLast? = some ⟨e, c, r.outcome⟩
  nested : failed.IsChain fun x y => x.expr ∈ y.expr.members
  inward : failed.Pairwise fun x y => y.start.pos ≤ x.start.pos
  behind : ∀ x ∈ failed, c.pos ≤ x.start.pos
  refuses_iff : ∀ x, failed.head? = some x → (x.conversionRecord?.isSome ↔ x.Refuses run)
  log_eq : r.log = (failed.head?.bind conversionRecord?).toList ++ failed.filterMap sequenceRecord?

namespace Backtrace

variable {run : Expr → Parser Value} {e : Expr} {c : Cursor} {r : Reply Value}
  {failed : List Evaluation}

theorem log_eq_nil (h : Backtrace run e c r failed) (hr : r.outcome.isMatch = true) :
    r.log = [] := by
  rw [h.log_eq, h.eq_nil hr]
  rfl

/-- What is logged began where an evaluation of the backtrace did. -/
theorem exists_start_of_mem_log (h : Backtrace run e c r failed) {a : Record} (ha : a ∈ r.log) :
    ∃ x ∈ failed, a.start? = some x.start.pos := by
  rw [h.log_eq] at ha
  rcases List.mem_append.1 ha with ha | ha
  · obtain ⟨x, hx, hrecord⟩ := Option.bind_eq_some_iff.1 (Option.mem_toList.1 ha)
    exact ⟨x, List.mem_of_head? hx, start?_of_conversionRecord? hrecord⟩
  · obtain ⟨x, hx, hrecord⟩ := List.mem_filterMap.1 ha
    exact ⟨x, hx, start?_of_sequenceRecord? hrecord⟩

/-- What is logged later did not begin further on. -/
theorem pairwise_start (h : Backtrace run e c r failed) :
    r.log.Pairwise fun a b => ∃ m n, a.start? = some m ∧ b.start? = some n ∧ n ≤ m := by
  have hsequences : (failed.filterMap sequenceRecord?).Pairwise
      fun a b => ∃ m n, a.start? = some m ∧ b.start? = some n ∧ n ≤ m := by
    refine h.inward.filterMap _ fun x y hle a ha b hb => ?_
    exact ⟨_, _, start?_of_sequenceRecord? ha, start?_of_sequenceRecord? hb, hle⟩
  rw [h.log_eq]
  cases failed with
  | nil => exact .nil
  | cons x behind =>
    refine List.pairwise_append.2 ⟨?_, hsequences, ?_⟩
    · show x.conversionRecord?.toList.Pairwise _
      rcases x.conversionRecord? with _ | a
      · exact .nil
      · exact List.pairwise_singleton _ _
    · intro a ha b hb
      obtain ⟨y, hy, hrecord⟩ := List.mem_filterMap.1 hb
      have ha : x.conversionRecord? = some a := Option.mem_toList.1 ha
      refine ⟨_, _, start?_of_conversionRecord? ha, start?_of_sequenceRecord? hrecord, ?_⟩
      rcases List.mem_cons.1 hy with rfl | hy
      · exact Nat.le_refl _
      · exact List.rel_of_pairwise_cons h.inward hy

end Backtrace

/-- How a row of descriptions ends: behind all of them, with nothing logged, or with the backtrace of
the one where it stops. -/
inductive RowEnds (run : Expr → Parser Value) (es : List Expr) (c : Cursor)
    (s : Reply (List Value)) : List Evaluation → Prop where
  | through : s.outcome.isMatch = true → s.log = [] → RowEnds run es c s []
  | stopped {m : Expr} {d : Cursor} {r : Reply Value} {failed : List Evaluation} : m ∈ es →
    c.pos ≤ d.pos → s.outcome.isMatch = false → s.log = r.log → r.outcome.isMatch = false →
    Backtrace run m d r failed → RowEnds run es c s failed

variable {call : String → Parser Value} {rounds : Nat} {e : Expr} {es : List Expr} {c : Cursor}
  {r : Reply Value} {s : Reply (List Value)} {run : Expr → Parser Value} {failed : List Evaluation}

/-- Behind the match of its member a conversion fails only because it refuses the value. -/
theorem refuses_iff_of_members_match {as : List Value} {n : Nat} {log : List Record}
    (hrow : Parser.each (e.members.map (·.parser call rounds)) c = .ok ⟨.matched as, n, log⟩)
    (h : e.parser call rounds c = .ok r) :
    (conversionRecord? ⟨e, c, r.outcome⟩).isSome
      ↔ Refuses (·.parser call rounds) ⟨e, c, r.outcome⟩ := by
  constructor
  · intro hsome
    cases e with
    | tryMap f m =>
      obtain ⟨v | _ | x, stop, log'⟩ := r
      · cases hsome
      · cases hsome
      rcases Parser.tryMap_failsWith_iff.1 ⟨stop, log', h⟩ with ⟨k, log'', hm⟩ | ⟨v, k, seed, hv⟩
      · rw [members, List.map_singleton, Parser.each_singleton, Parser.map_eq, hm] at hrow
        cases hrow
      · exact ⟨f, m, v, k, seed, rfl, hv.1, hv.2.1, congrArg Outcome.failed hv.2.2⟩
    | _ => cases hsome
  · rintro ⟨f, m, v, k, seed, rfl, -, -, houtcome⟩
    dsimp only at houtcome
    rw [houtcome]
    rfl

/-- A match has nothing in its backtrace. -/
theorem backtrace_of_match (hr : r.outcome.isMatch = true) (hlog : r.log = []) :
    Backtrace run e c r [] where
  eq_nil := fun _ => rfl
  last := by simp [hr]
  nested := .nil
  inward := .nil
  behind := by simp
  refuses_iff := by simp
  log_eq := hlog

/-- A run all of whose members match is the whole of its backtrace. -/
theorem backtrace_of_members_match (hr : r.outcome.isMatch = false)
    (hlog : r.log = (conversionRecord? ⟨e, c, r.outcome⟩).toList
      ++ (sequenceRecord? ⟨e, c, r.outcome⟩).toList)
    (hrefuses : (conversionRecord? ⟨e, c, r.outcome⟩).isSome
      ↔ Refuses run ⟨e, c, r.outcome⟩) :
    Backtrace run e c r [⟨e, c, r.outcome⟩] where
  eq_nil := by simp [hr]
  last := fun _ => rfl
  nested := .singleton _
  inward := List.pairwise_singleton _ _
  behind := by simp
  refuses_iff := by
    intro x hx
    cases hx
    exact hrefuses
  log_eq := by
    rw [filterMap_sequenceRecord?_singleton]
    exact hlog

/-- A run that ends with that of a member has the backtrace of the member and itself at the end. -/
theorem Backtrace.snoc {m : Expr} {d : Cursor} {q : Reply Value}
    (hinner : Backtrace run m d q failed) (hq : q.outcome.isMatch = false) (hm : m ∈ e.members)
    (hle : c.pos ≤ d.pos) (hr : r.outcome.isMatch = false)
    (hlog : r.log = q.log ++ (sequenceRecord? ⟨e, c, r.outcome⟩).toList) :
    Backtrace run e c r (failed ++ [⟨e, c, r.outcome⟩]) := by
  have hlast := hinner.last hq
  have hne : failed ≠ [] := by
    rintro rfl
    cases hlast
  have hbehind : ∀ x ∈ failed, c.pos ≤ x.start.pos := fun x hx => hle.trans (hinner.behind x hx)
  constructor
  case eq_nil => simp [hr]
  case last => exact fun _ => List.getLast?_concat
  case nested =>
    refine List.isChain_append.2 ⟨hinner.nested, .singleton _, ?_⟩
    intro x hx y hy
    cases hlast.symm.trans hx
    cases hy
    exact hm
  case inward =>
    refine List.pairwise_append.2 ⟨hinner.inward, List.pairwise_singleton _ _, ?_⟩
    intro x hx y hy
    rw [List.mem_singleton.1 hy]
    exact hbehind x hx
  case behind =>
    intro x hx
    rcases List.mem_append.1 hx with hx | hx
    · exact hbehind x hx
    · rw [List.mem_singleton.1 hx]
  case refuses_iff =>
    rw [List.head?_append_of_ne_nil _ hne]
    exact hinner.refuses_iff
  case log_eq =>
    rw [hlog, hinner.log_eq, List.head?_append_of_ne_nil _ hne, List.filterMap_append,
      filterMap_sequenceRecord?_singleton, List.append_assoc]

/-- The run of a description ends the backtrace that the row of its members leaves. -/
theorem Closes.backtrace (hcloses : e.Closes c s r) (hrow : RowEnds run e.members c s failed)
    (hrefuses : s.outcome.isMatch = true →
      ((conversionRecord? ⟨e, c, r.outcome⟩).isSome ↔ Refuses run ⟨e, c, r.outcome⟩)) :
    Backtrace run e c r (failed ++ failures [⟨e, c, r.outcome⟩]) := by
  obtain ⟨hmatch, hlog⟩ := hcloses
  by_cases hr : r.outcome.isMatch = true
  · have hnone : failures [⟨e, c, r.outcome⟩] = [] :=
      failures_cons_of_isMatch (x := ⟨e, c, r.outcome⟩) hr []
    rw [hnone, List.append_nil]
    cases hrow with
    | through hs hsilent =>
      refine backtrace_of_match hr ?_
      obtain ⟨v | _ | x, n, log⟩ := r
      · simpa [hsilent, hs, conversionRecord?, sequenceRecord?] using hlog
      · cases hr
      · cases hr
    | stopped hm hle hs =>
      rw [hmatch hs] at hr
      cases hr
  · rw [Bool.not_eq_true] at hr
    have hlast : failures [⟨e, c, r.outcome⟩] = [⟨e, c, r.outcome⟩] := failures_singleton hr
    rw [hlast]
    cases hrow with
    | through hs hsilent =>
      rw [hsilent, if_pos hs] at hlog
      exact backtrace_of_members_match hr hlog (hrefuses hs)
    | stopped hm hle hs hsame hstop hinner =>
      rw [if_neg (by simp [hs]), List.append_nil, hsame] at hlog
      exact hinner.snoc hstop hm hle hr hlog

theorem RowEnds.cons {d : Cursor} {q : Reply (List Value)} (h : RowEnds run es d q failed)
    (m : Expr) (hle : c.pos ≤ d.pos) (hmatch : s.outcome.isMatch = q.outcome.isMatch)
    (hlog : s.log = q.log) : RowEnds run (m :: es) c s failed := by
  cases h with
  | through hq hsilent => exact .through (hmatch.trans hq) (hlog.trans hsilent)
  | stopped hm hd hq hsame hstop hinner =>
    exact .stopped (List.mem_cons_of_mem m hm) (hle.trans hd) (hmatch.trans hq) (hlog.trans hsame)
      hstop hinner

/-- What the runs of members leave, a row of them leaves. -/
theorem exists_evaluates_rowEnds : ∀ {es : List Expr} {c : Cursor} {s : Reply (List Value)},
    (∀ m ∈ es, (m.parser call rounds).Within .onward) →
    (∀ m ∈ es, ∀ d r, d.Aligned → m.parser call rounds d = .ok r →
      ∃ inner, Evaluates (·.parser call rounds) m.members d inner
        ∧ Backtrace (·.parser call rounds) m d r (failures (inner ++ [⟨m, d, r.outcome⟩]))) →
    c.Aligned → Parser.each (es.map (·.parser call rounds)) c = .ok s →
    ∃ evs, Evaluates (·.parser call rounds) es c evs
      ∧ RowEnds (·.parser call rounds) es c s (failures evs)
  | [], c, s, _, _, _, hrow => by
    cases hrow
    exact ⟨[], .done c, .through rfl rfl⟩
  | m :: es, c, s, honward, hmember, hc, hrow => by
    rw [List.map_cons, Parser.each_cons] at hrow
    rcases hm : m.parser call rounds c with f | r
    · cases (Parser.bind_of_error _ hm).symm.trans hrow
    obtain ⟨inner, hinner, htrace⟩ := hmember m List.mem_cons_self c r hc hm
    have hmove := (honward m List.mem_cons_self).allows hc hm
    obtain ⟨v | _ | x, n, log⟩ := r
    · rw [Parser.bind_of_matched _ hm, Parser.map_eq] at hrow
      rcases hes : Parser.each (es.map (·.parser call rounds)) (c.moveTo n) with f | q <;>
        rw [hes] at hrow <;> cases hrow
      have hd : (c.moveTo n).Aligned := Motion.onward.isBoundary hmove
      obtain ⟨behind, hbehind, hends⟩ := exists_evaluates_rowEnds
        (fun m' hm' => honward m' (List.mem_cons_of_mem m hm'))
        (fun m' hm' => hmember m' (List.mem_cons_of_mem m hm')) hd hes
      refine ⟨_, .matched hinner hm hbehind, ?_⟩
      have hnil := htrace.eq_nil rfl
      have hlog : log = [] := by simpa [hnil] using htrace.log_eq
      rw [failures_append] at hnil ⊢
      rw [(List.append_eq_nil_iff.1 hnil).1, List.nil_append, failures_cons_of_isMatch (by rfl)]
      refine hends.cons m hmove.2 (Outcome.isMatch_map _ _) ?_
      show log ++ q.log = q.log
      rw [hlog, List.nil_append]
    · cases (Parser.bind_of_missed _ hm).symm.trans hrow
      refine ⟨_, .stopped hinner hm rfl, ?_⟩
      exact .stopped List.mem_cons_self (Nat.le_refl _) rfl rfl rfl htrace
    · cases (Parser.bind_of_failed _ hm).symm.trans hrow
      refine ⟨_, .stopped hinner hm rfl, ?_⟩
      exact .stopped List.mem_cons_self (Nat.le_refl _) rfl rfl rfl htrace

end Expr

namespace Grammar

open Backtrack.Expr Backtrack.Evaluation

variable {g : Grammar} {budget depth : Nat} {e : Expr} {c : Cursor} {r : Reply Value}

theorem forall_part_linear (he : e.Linear)
    (h : ∀ m ∈ e.members, ∀ d, g.Part m d → d.Linear) : ∀ d, g.Part e d → d.Linear
  | _, .self _ => he
  | d, .member hm hd => h _ hm d hd
  | _, .called _ _ => he.elim

theorem exists_backtrace (hlinear : ∀ d, g.Part e d → d.Linear) (hc : c.Aligned)
    (h : e.parser (g.call budget depth) budget c = .ok r) :
    ∃ inner, Evaluates (·.parser (g.call budget depth) budget) e.members c inner
      ∧ Backtrace (·.parser (g.call budget depth) budget) e c r
        (failures (inner ++ [⟨e, c, r.outcome⟩])) := by
  induction e using members_induction generalizing c r with
  | step e ih =>
    obtain ⟨s, hrow, hcloses⟩ := (hlinear e (.self e)).exists_closes hc h
    have honward : ∀ m ∈ e.members, (m.parser (g.call budget depth) budget).Within .onward := by
      intro m hm
      refine parser_within_onward g budget depth fun n hgoto => ?_
      exact hlinear _ (.member hm hgoto)
    obtain ⟨inner, hinner, hends⟩ := exists_evaluates_rowEnds honward
      (fun m hm d r hd hrun => ih m hm (forall_part_member hlinear hm) hd hrun) hc hrow
    refine ⟨inner, hinner, ?_⟩
    rw [failures_append]
    refine hcloses.backtrace hends fun hs => ?_
    obtain ⟨as | _ | x, n, log⟩ := s
    · exact refuses_iff_of_members_match hrow h
    · cases hs
    · cases hs

/-- A linear run that matches logs nothing. One that does not logs the record of a conversion, if one
refused the value of its member and so was the first that did not match, and then one record for
each flat sequence that did not match, the innermost first. What is logged later did not begin
further on, and nothing began before the run did. -/
theorem linear_log {e : Expr} (hlinear : ∀ d, g.Part e d → d.Linear) {c : Cursor} (hc : c.Aligned)
    {r : Reply Value} (h : g.parser budget e c = .ok r) :
    ∃ evs, Evaluates (g.parser budget) [e] c evs
      ∧ (∀ evs', Evaluates (g.parser budget) [e] c evs' → evs' = evs)
      ∧ Backtrace (g.parser budget) e c r (failures evs)
      ∧ (r.outcome.isMatch = true → r.log = [])
      ∧ (∀ a ∈ r.log, ∃ n, a.start? = some n ∧ c.pos ≤ n)
      ∧ r.log.Pairwise fun a b => ∃ m n, a.start? = some m ∧ b.start? = some n ∧ n ≤ m := by
  obtain ⟨inner, hinner, htrace⟩ := exists_backtrace hlinear hc h
  have hevaluates : Evaluates (g.parser budget) [e] c (inner ++ [⟨e, c, r.outcome⟩]) := by
    obtain ⟨v | _ | x, n, log⟩ := r
    · exact .matched hinner h (.done _)
    · exact .stopped hinner h rfl
    · exact .stopped hinner h rfl
  refine ⟨_, hevaluates, fun evs' h' => hevaluates.unique h', htrace, htrace.log_eq_nil, ?_,
    htrace.pairwise_start⟩
  intro a ha
  obtain ⟨x, hx, hstart⟩ := htrace.exists_start_of_mem_log ha
  exact ⟨x.start.pos, hstart, htrace.behind x hx⟩

/-- A conversion at the end of a sequence in a sequence refuses what it read: it logs that before
the sequences log theirs. -/
theorem linear_log_nested :
    let inner : Expr := .seq [.leaf .anyChar, .tryMap .bool (.leaf .anyChar)]
    (∀ d, Part [] (.seq [.leaf .anyChar, inner]) d → d.Linear)
      ∧ parser [] 1 (.seq [.leaf .anyChar, inner]) (.start ['é', 'a', 'b'])
        = .ok ⟨.failed ⟨.invalidInput, 3, [.notBool]⟩, 0,
          [.conversionError 3, .sequenceError 2, .sequenceError 0]⟩
      ∧ [.conversionError 3, .sequenceError 2, .sequenceError 0].Pairwise
        fun a b : Record => ∃ m n, a.start? = some m ∧ b.start? = some n ∧ n ≤ m := by
  intro inner
  have hany : ∀ d, Part [] (.leaf .anyChar) d → d.Linear := by
    intro d hd
    rw [part_leaf.1 hd]
    trivial
  have hinner : ∀ d, Part [] inner d → d.Linear := by
    refine forall_part_linear trivial (List.forall_mem_cons.2 ⟨hany, ?_⟩)
    refine List.forall_mem_singleton.2 (forall_part_linear trivial ?_)
    exact List.forall_mem_singleton.2 hany
  have hlinear : ∀ d, Part [] (.seq [.leaf .anyChar, inner]) d → d.Linear :=
    forall_part_linear trivial
      (List.forall_mem_cons.2 ⟨hany, List.forall_mem_singleton.2 hinner⟩)
  have hrun : parser [] 1 (.seq [.leaf .anyChar, inner]) (.start ['é', 'a', 'b'])
      = .ok ⟨.failed ⟨.invalidInput, 3, [.notBool]⟩, 0,
        [.conversionError 3, .sequenceError 2, .sequenceError 0]⟩ := rfl
  obtain ⟨evs, -, -, -, -, -, hpairwise⟩ := linear_log hlinear (Cursor.aligned_start _) hrun
  exact ⟨hlinear, hrun, hpairwise⟩

end Grammar

end Backtrack
