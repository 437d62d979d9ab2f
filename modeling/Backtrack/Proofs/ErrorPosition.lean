import Backtrack.Proofs.ErrorChannel
import Backtrack.Proofs.Failing
import Backtrack.Proofs.Motion

/-!
# Where an error points

An error of a run is traced down to the description that raises it. A description starts its members
at certain cursors (`Expr.Starts`), and where its run reports an error, it raises the error itself
or has it from a member that it started (`Expr.starts_or_raises`); so from member to member the run
comes to the origin of the error (`Grammar.exists_origin`). What is started stands further on in the
text, so the error points to a boundary not before the run began (`Grammar.error_position`).
-/

namespace Backtrack

theorem Parser.Within.onward {α : Type} {p : Parser α} (hp : p.Within .onward) : p.Onward :=
  fun _ hc _ _ _ h => hp.allows hc h

theorem Parser.Harmless.neverFails {α : Type} {p : Parser α} (hp : p.Harmless) : p.NeverFails := by
  rintro c x ⟨n, log, h⟩
  cases (Reply.error?_eq_some.2 rfl).symm.trans (hp.error?_eq_none h)

/-! ## Leaves -/

theorem ErrorSeed.position_toError (seed : ErrorSeed) (n : Nat) :
    (seed.toError n).position = n := by
  cases seed <;> rfl

namespace Parser

variable {α β : Type}

theorem harmless_first : ∀ {ps : List (Parser α)}, (∀ p ∈ ps, p.Harmless) → (first ps).Harmless
  | [], _ => conducts_miss
  | _ :: _, h =>
    .orElse (h _ List.mem_cons_self) (harmless_first fun q hq => h q (List.mem_cons_of_mem _ hq))

theorem harmless_choice {p : Parser α} {ps : List (Parser α)} (h : ∀ q ∈ p :: ps, q.Harmless) :
    (choice p ps).Harmless := by
  have hps : ∀ o : Oracle, (ps.map fun q (_ : Oracle) => q).map (· o) = ps := fun o => by
    rw [List.map_map]
    exact List.map_id ps
  have hchoice : Conducts (fun _ _ => False)
      fun o => choice p ((ps.map fun q (_ : Oracle) => q).map (· o)) := by
    refine conducts_choice fun q hq => ?_
    rcases List.mem_cons.1 hq with rfl | hq
    · exact h p List.mem_cons_self
    · obtain ⟨r, hr, rfl⟩ := List.mem_map.1 hq
      exact h r (List.mem_cons_of_mem p hr)
  simpa only [hps] using hchoice

theorem harmless_spelled (spellings : List String) : (spelled spellings).Harmless := by
  refine harmless_first fun p hp => ?_
  obtain ⟨s, -, rfl⟩ := List.mem_map.1 hp
  exact harmless_literalBy _ _

theorem harmless_dayOfWeek : dayOfWeek.Harmless := by
  refine harmless_choice fun p hp => ?_
  simp only [List.mem_cons, List.mem_map] at hp
  rcases hp with rfl | ⟨d, -, rfl⟩ <;> exact (harmless_spelled _).map _

theorem harmless_monthOfYear : monthOfYear.Harmless := by
  refine harmless_choice fun p hp => ?_
  simp only [List.mem_cons, List.mem_map] at hp
  rcases hp with rfl | ⟨d, -, rfl⟩ <;> exact (harmless_spelled _).map _

theorem harmless_daysOfWeek (rounds : Nat) : (daysOfWeek rounds).Harmless := by
  refine Conducts.repeatWhile (.sequence (.bind harmless_dayOfWeek fun _ => ?_)) _ _ _
  exact .bind (harmless_charWhere _).optional fun _ => conducts_succeed _

/-- Behind a parser without errors a conversion alone can fail. -/
theorem Harmless.position_of_tryMap_failsWith {p : Parser α} {f : α → Except ErrorSeed β}
    {c : Cursor} {x : ParseError} (hp : p.Harmless) (h : (p.tryMap f).FailsWith c x) :
    x.position = c.pos := by
  rcases tryMap_failsWith_iff.1 h with h | ⟨a, n, seed, -, -, rfl⟩
  · exact absurd h (hp.neverFails c x)
  · exact seed.position_toError c.pos

theorem position_of_yearMonthDay_failsWith {rounds : Nat} {c : Cursor} {x : ParseError}
    (h : (yearMonthDay rounds).FailsWith c x) : x.position = c.pos := by
  refine Harmless.position_of_tryMap_failsWith (.recognize (.sequence ?_)) h
  refine .bind ((harmless_charWhere _).repeatWhile _ _ _) fun _ => ?_
  refine .bind (harmless_charWhere _) fun _ => .bind (harmless_charWhere _) fun _ => ?_
  refine .bind (harmless_charWhere _) fun _ => .bind (harmless_charWhere _) fun _ => ?_
  exact .bind (harmless_charWhere _) fun _ => .bind (harmless_charWhere _) fun _ =>
    conducts_succeed _

theorem position_of_monthDay_failsWith {rounds : Nat} {c : Cursor} {x : ParseError}
    (h : (monthDay rounds).FailsWith c x) : x.position = c.pos := by
  have hnumber : ∀ accept, (recognize (oneOrMore rounds (charWhere accept))).Harmless :=
    fun accept => ((harmless_charWhere accept).repeatWhile rounds 1 _).recognize
  refine Harmless.position_of_tryMap_failsWith (.sequence (.bind (hnumber _) fun _ => ?_)) h
  exact .bind (harmless_spelled _).optional fun _ => conducts_succeed _

theorem allows_of_raiseAfter_failsWith {n : Int} {kind : ErrorKind} {cause : Option String}
    {c : Cursor} {x : ParseError} (hc : c.Aligned)
    (h : (raiseAfter n kind cause : Parser α).FailsWith c x) :
    Motion.onward.Allows c.text c.pos x.position := by
  obtain ⟨m, log, h⟩ := h
  rcases ht : c.take n with f | ⟨t, next⟩
  · rw [raiseAfter, ht] at h
    cases h
  · rw [raiseAfter, ht] at h
    cases h
    exact (meets_take hc n).of_eq_ok ht

end Parser

theorem CalendarField.position_of_failsWith {f : CalendarField} {rounds : Nat} {c : Cursor}
    {x : ParseError} (h : (f.parser rounds).FailsWith c x) : x.position = c.pos := by
  have hnever : ∀ {α : Type} {p : Parser α} {f : α → Value}, p.Harmless →
      ¬ (p.map f).FailsWith c x :=
    fun hp hx => hp.neverFails c x (Parser.map_failsWith_iff.1 hx)
  cases f with
  | yearMonthDay => exact Parser.position_of_yearMonthDay_failsWith (Parser.map_failsWith_iff.1 h)
  | monthDay => exact Parser.position_of_monthDay_failsWith (Parser.map_failsWith_iff.1 h)
  | dayOfWeek => exact absurd h (hnever Parser.harmless_dayOfWeek)
  | monthOfYear => exact absurd h (hnever Parser.harmless_monthOfYear)
  | daysOfWeek => exact absurd h (hnever (Parser.harmless_daysOfWeek rounds))

theorem Leaf.allows_of_failsWith {l : Leaf} {rounds : Nat} {c : Cursor} {x : ParseError}
    (hc : c.Aligned) (h : (l.parser rounds).FailsWith c x) :
    Motion.onward.Allows c.text c.pos x.position := by
  by_cases hl : l.CanFail
  · cases l with
    | raise n kind cause => exact Parser.allows_of_raiseAfter_failsWith hc h
    | calendar f =>
      rw [CalendarField.position_of_failsWith h]
      exact Motion.onward.stay hc
    | _ => exact hl.elim
  · exact absurd h ((Leaf.harmless hl rounds).neverFails c x)

namespace Expr

variable {run : Expr → Parser Value} {e m : Expr} {es : List Expr} {c d : Cursor} {x : ParseError}

/-- A row from `c` starts `m` at `d`, behind the matches of those before it. -/
def StartsInRow (run : Expr → Parser Value) (es : List Expr) (c : Cursor) (m : Expr)
    (d : Cursor) : Prop :=
  ∃ before behind vs n, es = before ++ m :: behind
    ∧ (Parser.each (before.map run)).MatchesTo c vs n ∧ d = c.moveTo n

/-- Alternatives from `c` start `m` there, where those before it missed. -/
def StartsAmong (run : Expr → Parser Value) (es : List Expr) (c : Cursor) (m : Expr)
    (d : Cursor) : Prop :=
  d = c ∧ ∃ before behind, es = before ++ m :: behind ∧ ∀ b ∈ before, (run b).MissesAt c

/-- With these parsers for its members, the description in a run from `c` starts `m` at `d`. -/
def Starts (run : Expr → Parser Value) : (e : Expr) → (c : Cursor) → (m : Expr) → Cursor → Prop
  | leaf _, _, _, _ | rule _, _, _, _ => False
  | map _ e, c, m, d | tryMap _ e, c, m, d | verify _ e, c, m, d | withValue _ e, c, m, d
  | relabelError _ e, c, m, d | wrapError e, c, m, d | optional e, c, m, d | recognize e, c, m, d
  | spanned e, c, m, d | peek e, c, m, d | not e, c, m, d | complete e, c, m, d
  | shared e, c, m, d | erased e, c, m, d => m = e ∧ d = c
  | pair e f, c, m, d => StartsInRow run [e, f] c m d
  | chain e es, c, m, d => StartsInRow run (e :: es) c m d
  | seq es, c, m, d | all _ es, c, m, d => StartsInRow run es c m d
  | or e f, c, m, d => StartsAmong run [e, f] c m d
  | choice e es, c, m, d => StartsAmong run (e :: es) c m d
  | any _ es, c, m, d => StartsAmong run es c m d
  | nth _ index es, c, m, d => es[index]? = some m ∧ d = c
  | repeated quantity e, c, m, d =>
    m = e ∧ ∃ vs, (run e).Tries quantity.least quantity.most c vs d
  | scan kind e f, c, m, d =>
    m = e ∧ kind.TakesAt (run e) (run f) c d
      ∨ m = f ∧ kind.LooksAt (run e) (run f) c d ∧ ¬ (kind.stopsAtEnd = true ∧ d.atEnd = true)
  | scanText kind f, c, m, d =>
    m = f ∧ kind.LooksAt Parser.anyChar (run f) c d
      ∧ ¬ (kind.stopsAtEnd = true ∧ d.atEnd = true)

/-- In a run from the cursor the description itself reports the error: a leaf does so, a conversion
fails, or there is input behind what should be complete. -/
inductive Raises (rounds : Nat) (run : Expr → Parser Value) : Expr → Cursor → ParseError → Prop
  where
  | leaf {l : Leaf} {c : Cursor} {y : ParseError} : (l.parser rounds).FailsWith c y →
    Raises rounds run (.leaf l) c y
  | conversion {f : Conversion} {e : Expr} {c : Cursor} {v : Value} {n : Nat} {seed : ErrorSeed} :
    (run e).MatchesTo c v n → f.apply v = .error seed →
    Raises rounds run (.tryMap f e) c (seed.toError c.pos)
  | leftover {e : Expr} {c : Cursor} {v : Value} {n : Nat} : (run e).MatchesTo c v n →
    n < c.text.byteSize → Raises rounds run (.complete e) c ⟨.expectedEof, n, []⟩

theorem exists_startsInRow (h : (Parser.each (es.map run)).FailsWith c x) :
    ∃ m d, StartsInRow run es c m d ∧ (run m).FailsWith d x := by
  obtain ⟨before, p, behind, vs, n, hes, hbefore, hp⟩ := Parser.exists_of_each_failsWith h
  obtain ⟨es₁, es₂, rfl, rfl, hrest⟩ := List.map_eq_append_iff.1 hes
  obtain ⟨m, es₃, rfl, rfl, rfl⟩ := List.map_eq_cons_iff.1 hrest
  exact ⟨m, _, ⟨es₁, es₃, vs, n, rfl, hbefore, rfl⟩, hp⟩

theorem exists_startsAmong (hc : c.Aligned) (h : (Parser.first (es.map run)).FailsWith c x) :
    ∃ m d, StartsAmong run es c m d ∧ (run m).FailsWith d x := by
  obtain ⟨before, p, behind, hes, hbefore, hp⟩ := Parser.exists_of_first_failsWith hc h
  obtain ⟨es₁, es₂, rfl, rfl, hrest⟩ := List.map_eq_append_iff.1 hes
  obtain ⟨m, es₃, rfl, rfl, rfl⟩ := List.map_eq_cons_iff.1 hrest
  exact ⟨m, c, ⟨rfl, es₁, es₃, rfl, fun b hb => hbefore _ (List.mem_map_of_mem hb)⟩, hp⟩

/-- An error is that of the rule called, or the description raises it, or a member that it starts
reports it, inside of the layers that the description puts around it. Most descriptions put none, so
that the error of the member is their own. -/
theorem starts_or_raises {call : String → Parser Value} {rounds : Nat}
    (honward : ∀ d ∈ e.members, (d.parser call rounds).Onward) (hc : c.Aligned)
    (h : (e.parser call rounds).FailsWith c x) :
    (∃ name, e = rule name ∧ (call name).FailsWith c x)
      ∨ e.Raises rounds (·.parser call rounds) c x
      ∨ ∃ m d y, e.Starts (·.parser call rounds) c m d ∧ (m.parser call rounds).FailsWith d y
        ∧ x = Layer.applyAll e.layers y := by
  cases e with
  | leaf l => exact .inr (.inl (.leaf h))
  | rule name => exact .inl ⟨name, rfl, h⟩
  | shared e | erased e => exact .inr (.inr ⟨e, c, x, ⟨rfl, rfl⟩, h, rfl⟩)
  | map f e | withValue t e =>
    exact .inr (.inr ⟨e, c, x, ⟨rfl, rfl⟩, Parser.map_failsWith_iff.1 h, rfl⟩)
  | tryMap f e =>
    rcases Parser.tryMap_failsWith_iff.1 h with h | ⟨v, n, seed, hmatch, hseed, rfl⟩
    · exact .inr (.inr ⟨e, c, x, ⟨rfl, rfl⟩, h, rfl⟩)
    · exact .inr (.inl (.conversion hmatch hseed))
  | complete e =>
    rcases Parser.complete_failsWith_iff.1 h with h | ⟨v, n, hmatch, hlt, rfl⟩
    · exact .inr (.inr ⟨e, c, x, ⟨rfl, rfl⟩, h, rfl⟩)
    · exact .inr (.inl (.leftover hmatch hlt))
  | relabelError kind e | wrapError e =>
    obtain ⟨y, hy, rfl⟩ := Parser.mapError_failsWith_iff.1 h
    exact .inr (.inr ⟨e, c, y, ⟨rfl, rfl⟩, hy, rfl⟩)
  | verify test e =>
    exact .inr (.inr ⟨e, c, x, ⟨rfl, rfl⟩, Parser.verify_failsWith_iff.1 h, rfl⟩)
  | peek e => exact .inr (.inr ⟨e, c, x, ⟨rfl, rfl⟩, Parser.peek_failsWith_iff.1 h, rfl⟩)
  | optional e =>
    have hmember := Parser.optional_failsWith_iff.1 (Parser.map_failsWith_iff.1 h)
    exact .inr (.inr ⟨e, c, x, ⟨rfl, rfl⟩, hmember, rfl⟩)
  | recognize e =>
    have hmember := Parser.recognize_failsWith_iff.1 (Parser.map_failsWith_iff.1 h)
    exact .inr (.inr ⟨e, c, x, ⟨rfl, rfl⟩, hmember, rfl⟩)
  | spanned e =>
    have hmember := Parser.spanned_failsWith_iff.1 (Parser.map_failsWith_iff.1 h)
    exact .inr (.inr ⟨e, c, x, ⟨rfl, rfl⟩, hmember, rfl⟩)
  | not e =>
    have hmember := Parser.not_failsWith_iff.1 (Parser.map_failsWith_iff.1 h)
    exact .inr (.inr ⟨e, c, x, ⟨rfl, rfl⟩, hmember, rfl⟩)
  | pair e f =>
    have hrow : (Parser.each ([e, f].map (·.parser call rounds))).FailsWith c x :=
      Parser.each_of_pair_failsWith (Parser.map_failsWith_iff.1 h)
    obtain ⟨m, d, hstarts, hfail⟩ := exists_startsInRow hrow
    exact .inr (.inr ⟨m, d, x, hstarts, hfail, rfl⟩)
  | or e f =>
    have hfirst : (Parser.first ([e, f].map (·.parser call rounds))).FailsWith c x :=
      Parser.first_of_or_failsWith hc (Parser.map_failsWith_iff.1 h)
    obtain ⟨m, d, hstarts, hfail⟩ := exists_startsAmong hc hfirst
    exact .inr (.inr ⟨m, d, x, hstarts, hfail, rfl⟩)
  | seq es =>
    rw [parser, parsers_eq_map, Parser.map_failsWith_iff] at h
    have hrow := Parser.attempt_failsWith_iff.1 (Parser.noting_failsWith_iff.1 h)
    obtain ⟨m, d, hstarts, hfail⟩ := exists_startsInRow hrow
    exact .inr (.inr ⟨m, d, x, hstarts, hfail, rfl⟩)
  | all container es =>
    rw [parser, parsers_eq_map, Parser.map_failsWith_iff, Parser.all,
      Container.members_family] at h
    obtain ⟨m, d, hstarts, hfail⟩ := exists_startsInRow (Parser.attempt_failsWith_iff.1 h)
    exact .inr (.inr ⟨m, d, x, hstarts, hfail, rfl⟩)
  | chain e es =>
    rw [parser, parsers_eq_map, Parser.map_failsWith_iff] at h
    have hrow : (Parser.each ((e :: es).map (·.parser call rounds))).FailsWith c x :=
      Parser.each_of_chain_failsWith h
    obtain ⟨m, d, hstarts, hfail⟩ := exists_startsInRow hrow
    exact .inr (.inr ⟨m, d, x, hstarts, hfail, rfl⟩)
  | choice e es =>
    rw [parser, parsers_eq_map] at h
    have hfirst : (Parser.first ((e :: es).map (·.parser call rounds))).FailsWith c x :=
      Parser.first_of_choice_failsWith hc h
    obtain ⟨m, d, hstarts, hfail⟩ := exists_startsAmong hc hfirst
    exact .inr (.inr ⟨m, d, x, hstarts, hfail, rfl⟩)
  | any container es =>
    rw [parser, parsers_eq_map, Parser.any_family] at h
    obtain ⟨m, d, hstarts, hfail⟩ := exists_startsAmong hc h
    exact .inr (.inr ⟨m, d, x, hstarts, hfail, rfl⟩)
  | nth container index es =>
    rw [parser, Parser.map_failsWith_iff, Container.nth_family, parsers_eq_map,
      List.getElem?_map] at h
    rcases hd : es[index]? with _ | d <;> rw [hd] at h
    · exact absurd h (Parser.neverFails_miss c x)
    · exact .inr (.inr ⟨d, c, x, ⟨hd, rfl⟩, h, rfl⟩)
  | repeated quantity e =>
    have honward' := honward e (by simp [members])
    obtain ⟨vs, d, htries, hfail⟩ :=
      honward'.exists_tries_of_failsWith hc quantity (Parser.map_failsWith_iff.1 h)
    exact .inr (.inr ⟨e, d, x, ⟨rfl, vs, htries⟩, hfail, rfl⟩)
  | scan kind e f =>
    have honward' := honward e (by simp [members])
    rcases honward'.scan_failsWith hc (Parser.map_failsWith_iff.1 h) with
      ⟨d, hlooks, hend, hfail⟩ | ⟨d, htakes, hfail⟩
    · exact .inr (.inr ⟨f, d, x, .inr ⟨rfl, hlooks, hend⟩, hfail, rfl⟩)
    · exact .inr (.inr ⟨e, d, x, .inl ⟨rfl, htakes⟩, hfail, rfl⟩)
  | scanText kind f =>
    have honward' : Parser.anyChar.Onward := Parser.isToken_anyChar.steady.onward
    rw [parser, Parser.map_failsWith_iff, Parser.scanText, Parser.recognize_failsWith_iff] at h
    rcases honward'.scan_failsWith hc h with ⟨d, hlooks, hend, hfail⟩ | ⟨d, -, hfail⟩
    · exact .inr (.inr ⟨f, d, x, ⟨rfl, hlooks, hend⟩, hfail, rfl⟩)
    · exact absurd hfail (Parser.harmless_anyChar.neverFails d x)

theorem StartsInRow.mem (h : StartsInRow run es c m d) : m ∈ es := by
  obtain ⟨before, behind, -, -, rfl, -⟩ := h
  simp

theorem StartsAmong.mem (h : StartsAmong run es c m d) : m ∈ es := by
  obtain ⟨-, before, behind, rfl, -⟩ := h
  simp

theorem Starts.mem (h : e.Starts run c m d) : m ∈ e.members := by
  cases e with
  | leaf | rule => exact h.elim
  | pair | chain | seq | all => exact StartsInRow.mem h
  | or | choice | any => exact StartsAmong.mem h
  | nth container index es => exact List.mem_of_getElem? h.1
  | scan kind e f =>
    rcases h with ⟨rfl, -⟩ | ⟨rfl, -⟩ <;> simp [members]
  | _ => exact List.mem_singleton.2 h.1

theorem StartsInRow.reaches (h : StartsInRow run es c m d)
    (hrun : ∀ d ∈ es, (run d).Within .onward) (hc : c.Aligned) : c.Reaches d := by
  obtain ⟨before, behind, vs, n, rfl, hbefore, rfl⟩ := h
  have hrow : (Parser.each (before.map run)).Within .onward := by
    refine Parser.within_each fun p hp => ?_
    obtain ⟨b, hb, rfl⟩ := List.mem_map.1 hp
    exact hrun b (List.mem_append_left _ hb)
  exact hrow.onward.reaches hc hbefore

/-- What moves onward starts its members further on. -/
theorem Starts.reaches (h : e.Starts run c m d) (hrun : ∀ d ∈ e.members, (run d).Within .onward)
    (hc : c.Aligned) : c.Reaches d := by
  have hstay : d = c → c.Reaches d := by
    rintro rfl
    exact .refl hc
  cases e with
  | leaf | rule => exact h.elim
  | pair | chain | seq | all => exact StartsInRow.reaches h hrun hc
  | or | choice | any => exact hstay h.1
  | nth => exact hstay h.2
  | repeated quantity e =>
    obtain ⟨-, vs, htries⟩ := h
    exact (hrun e (by simp [members])).onward.reaches_of_walk htries.walk hc
  | scan kind e f =>
    have hcontent := (hrun e (by simp [members])).onward
    rcases h with ⟨-, htakes⟩ | ⟨-, hlooks, -⟩
    · exact htakes.reaches hcontent hc
    · exact hlooks.reaches hcontent hc
  | scanText kind f => exact h.2.1.reaches Parser.isToken_anyChar.steady.onward hc
  | _ => exact hstay h.2

/-- What moves onward raises its own errors at its start or further on. -/
theorem Raises.allows {rounds : Nat} {y : ParseError} (h : e.Raises rounds run c y)
    (hrun : ∀ d ∈ e.members, (run d).Within .onward) (hc : c.Aligned) :
    Motion.onward.Allows c.text c.pos y.position := by
  cases h with
  | leaf h => exact Leaf.allows_of_failsWith hc h
  | @conversion f e c v n seed hmatch hseed =>
    rw [seed.position_toError]
    exact Motion.onward.stay hc
  | @leftover e c v n hmatch hlt =>
    obtain ⟨log, hmatch⟩ := hmatch
    exact (hrun e (by simp [members])).allows hc hmatch

end Expr

namespace Grammar

/-- The run of a description from a cursor, with this depth of calls left, comes to the run of a
part from another one, inside of these layers, the innermost first. -/
inductive Comes (g : Grammar) (budget : Nat) :
    Nat → Expr → Cursor → Nat → Expr → Cursor → List Layer → Prop where
  | here {depth : Nat} {e : Expr} {c : Cursor} : Comes g budget depth e c depth e c []
  | member {depth depth' : Nat} {e m d : Expr} {c x y : Cursor} {layers : List Layer} :
    e.Starts (fun d => d.parser (g.call budget depth) budget) c m x →
    Comes g budget depth m x depth' d y layers →
    Comes g budget depth e c depth' d y (layers ++ e.layers)
  | called {depth depth' : Nat} {name : String} {m d : Expr} {c y : Cursor} {layers : List Layer} :
    g.lookup name = some m → Comes g budget depth m c depth' d y layers →
    Comes g budget (depth + 1) (.rule name) c depth' d y layers

section Origin

variable {g : Grammar} {budget depth depth' : Nat} {e d : Expr} {c c' : Cursor}
  {layers : List Layer} {x : ParseError}

theorem Comes.part (h : g.Comes budget depth e c depth' d c' layers) : g.Part e d := by
  induction h with
  | here => exact .self _
  | member hstarts _ ih => exact .member hstarts.mem ih
  | called hname _ ih => exact .called hname ih

theorem Comes.reaches (h : g.Comes budget depth e c depth' d c' layers)
    (he : ∀ n, ¬ g.Part e (.leaf (.goto n))) (hc : c.Aligned) : c.Reaches c' := by
  induction h with
  | here => exact .refl hc
  | member hstarts _ ih =>
    have hstart := hstarts.reaches (fun m hm =>
      g.parser_within_onward budget _ fun n hn => he n (.member hm hn)) hc
    exact hstart.trans (ih (fun n hn => he n (.member hstarts.mem hn)) hstart.aligned)
  | called hname _ ih => exact ih (fun n hn => he n (.called hname hn)) hc

/-- Where nothing relabels errors, all layers are wrappers. -/
theorem Comes.layers_eq_wrap (h : g.Comes budget depth e c depth' d c' layers)
    (he : ∀ kind m, ¬ g.Part e (.relabelError kind m)) : ∀ l ∈ layers, l = .wrap := by
  induction h with
  | here => simp
  | @member depth depth' e m d c x y layers hstarts _ ih =>
    have hmember := ih fun kind m hm => he kind m (.member hstarts.mem hm)
    have hown : ∀ l ∈ e.layers, l = .wrap := by
      cases e with
      | relabelError kind e => exact absurd (.self _) (he kind e)
      | wrapError e => simp [Expr.layers]
      | _ => simp [Expr.layers]
    intro l hl
    exact (List.mem_append.1 hl).elim (hmember l) (hown l)
  | called hname _ ih => exact ih fun kind m hm => he kind m (.called hname hm)

/-- A part to which the run comes raises the error, and the layers between are around it. -/
def Originates (g : Grammar) (budget depth : Nat) (e : Expr) (c : Cursor) (x : ParseError) : Prop :=
  ∃ depth' d c' layers y, g.Comes budget depth e c depth' d c' layers
    ∧ d.Raises budget (fun m => m.parser (g.call budget depth') budget) c' y
    ∧ x = Layer.applyAll layers y

theorem Originates.member {m : Expr} {y : ParseError}
    (hstarts : e.Starts (fun m => m.parser (g.call budget depth) budget) c m c')
    (h : g.Originates budget depth m c' y) :
    g.Originates budget depth e c (Layer.applyAll e.layers y) := by
  obtain ⟨depth', d, d', layers, z, hcomes, hraises, rfl⟩ := h
  refine ⟨depth', d, d', layers ++ e.layers, z, .member hstarts hcomes, hraises, ?_⟩
  exact (List.foldl_append ..).symm

theorem Originates.called {name : String} {m : Expr} (hname : g.lookup name = some m)
    (h : g.Originates budget depth m c x) : g.Originates budget (depth + 1) (.rule name) c x := by
  obtain ⟨depth', d, d', layers, z, hcomes, hraises, rfl⟩ := h
  exact ⟨depth', d, d', layers, z, .called hname hcomes, hraises, rfl⟩

/-- The step from a description to the rule that it calls or to its members. -/
theorem originates_of_members (he : ∀ n, ¬ g.Part e (.leaf (.goto n))) (hc : c.Aligned)
    (h : (e.parser (g.call budget depth) budget).FailsWith c x)
    (hrule : ∀ name, e = .rule name → (g.call budget depth name).FailsWith c x →
      g.Originates budget depth e c x)
    (hmember : ∀ m ∈ e.members, ∀ d y, d.Aligned →
      (m.parser (g.call budget depth) budget).FailsWith d y → g.Originates budget depth m d y) :
    g.Originates budget depth e c x := by
  have hrun : ∀ m ∈ e.members, (m.parser (g.call budget depth) budget).Within .onward :=
    fun m hm => g.parser_within_onward budget depth fun n hn => he n (.member hm hn)
  rcases Expr.starts_or_raises (fun m hm => (hrun m hm).onward) hc h with
    ⟨name, hname, hcall⟩ | hraises | ⟨m, d, y, hstarts, hfail, rfl⟩
  · exact hrule name hname hcall
  · exact ⟨depth, e, c, [], x, .here, hraises, rfl⟩
  · have haligned := (hstarts.reaches hrun hc).aligned
    exact .member hstarts (hmember m hstarts.mem d y haligned hfail)

/-- An error of a run has an origin. -/
theorem exists_origin (he : ∀ n, ¬ g.Part e (.leaf (.goto n))) (hc : c.Aligned)
    (h : (e.parser (g.call budget depth) budget).FailsWith c x) :
    g.Originates budget depth e c x := by
  induction depth generalizing e c x with
  | zero =>
    induction e using Expr.members_induction generalizing c x with
    | step e ih =>
      refine originates_of_members he hc h ?_ fun m hm d y hd hfail =>
        ih m hm (fun n hn => he n (.member hm hn)) hd hfail
      rintro name rfl hcall
      exact absurd hcall (Parser.not_failsWith_of_eq_error rfl)
  | succ depth ihdepth =>
    induction e using Expr.members_induction generalizing c x with
    | step e ih =>
      refine originates_of_members he hc h ?_ fun m hm d y hd hfail =>
        ih m hm (fun n hn => he n (.member hm hn)) hd hfail
      rintro name rfl hcall
      rcases hname : g.lookup name with _ | m
      · rw [call_succ_of_lookup_none hname] at hcall
        exact absurd hcall (Parser.not_failsWith_of_eq_error rfl)
      · rw [call_succ_of_lookup hname] at hcall
        exact .called hname (ihdepth (fun n hn => he n (.called hname hn)) hc hcall)

end Origin

theorem position_applyAll {layers : List Layer} (hl : ∀ l ∈ layers, l = .wrap) (y : ParseError) :
    (Layer.applyAll layers y).position = y.position
      ∧ (Layer.applyAll layers y).kind = y.kind := by
  induction layers generalizing y with
  | nil => exact ⟨rfl, rfl⟩
  | cons l layers ih =>
    obtain ⟨rfl, hrest⟩ := List.forall_mem_cons.1 hl
    exact ih hrest (ParseError.wrap y)

/-- An error points to a boundary, not before the run began and not behind the text. It has an
origin, a part that raises it, and the wrappers between leave its position: a conversion that fails
has it point to where the converted parser began, a check for the end to where the checked parser
stopped, which is before the end, and a calendar parser to where it began. -/
theorem error_position {g : Grammar} (budget : Nat) {e : Expr} {c : Cursor} {x : ParseError}
    (hgoto : ∀ n, ¬ g.Part e (.leaf (.goto n)))
    (hrelabel : ∀ kind m, ¬ g.Part e (.relabelError kind m)) (hc : c.Aligned)
    (h : (g.parser budget e).FailsWith c x) :
    c.text.IsBoundary x.position ∧ c.pos ≤ x.position ∧ x.position ≤ c.text.byteSize
      ∧ ∃ depth d c' layers y,
        g.Comes budget budget e c depth d c' layers ∧ c.Reaches c'
        ∧ d.Raises budget (fun m => m.parser (g.call budget depth) budget) c' y
        ∧ x = Layer.applyAll layers y ∧ x.position = y.position ∧ x.kind = y.kind
        ∧ (∀ f m, d = .tryMap f m → x.position = c'.pos
          ∧ ∃ v n seed, (m.parser (g.call budget depth) budget).MatchesTo c' v n
            ∧ f.apply v = .error seed ∧ y = seed.toError c'.pos)
        ∧ (∀ m, d = .complete m → x.position < c.text.byteSize
          ∧ ∃ v, (m.parser (g.call budget depth) budget).MatchesTo c' v x.position)
        ∧ (∀ f, d = .leaf (.calendar f) → x.position = c'.pos) := by
  obtain ⟨depth, d, c', layers, y, hcomes, hraises, rfl⟩ := exists_origin hgoto hc h
  have hreaches : c.Reaches c' := hcomes.reaches hgoto hc
  obtain ⟨hposition, hkind⟩ := position_applyAll (hcomes.layers_eq_wrap hrelabel) y
  have hmembers : ∀ m ∈ d.members, (m.parser (g.call budget depth) budget).Within .onward :=
    fun m hm => g.parser_within_onward budget depth fun n hn =>
      hgoto n (hcomes.part.trans (.member hm hn))
  obtain ⟨hboundary, hle⟩ := hraises.allows hmembers hreaches.aligned
  rw [hreaches.text_eq] at hboundary
  refine ⟨?_, ?_, ?_, depth, d, c', layers, y, hcomes, hreaches, hraises, rfl, hposition, hkind,
    ?_, ?_, ?_⟩
  · rwa [hposition]
  · rw [hposition]
    exact Nat.le_trans hreaches.le hle
  · rw [hposition]
    exact hboundary.le
  · rintro f m rfl
    cases hraises with
    | @conversion f m c' v n seed hmatch hseed =>
      exact ⟨hposition.trans (seed.position_toError c'.pos), v, n, seed, hmatch, hseed, rfl⟩
  · rintro m rfl
    cases hraises with
    | @leftover m c' v n hmatch hlt =>
      rw [hposition, ← hreaches.text_eq]
      exact ⟨hlt, v, hmatch⟩
  · rintro f rfl
    cases hraises with
    | leaf hleaf => exact hposition.trans (CalendarField.position_of_failsWith hleaf)

/-- A rule whose number is none, read behind two bytes: the error points behind these, to where the
conversion began, although the run that reports it is back in front of them. -/
theorem error_position_number :
    (parser [("number", .tryMap (.int .unsigned32 10) (.leaf (.takeCount 2)))] 2
        (.wrapError (.seq [.leaf (.char 'é'), .rule "number"]))
        (.between ['a'] ['é', '1', 'x'])
      = .ok ⟨.failed ⟨.invalidInput, 3, [.wrapped, .earlier .invalidInput 3,
          .number .invalidDigit]⟩, 1, [.conversionError 3, .sequenceError 1]⟩)
      ∧ Text.IsBoundary ['a', 'é', '1', 'x'] 3 ∧ 1 ≤ 3 ∧ 3 ≤ 5 := by
  have hparts : ∀ d, Part [("number", .tryMap (.int .unsigned32 10) (.leaf (.takeCount 2)))]
      (.wrapError (.seq [.leaf (.char 'é'), .rule "number"])) d →
        (∀ n, d ≠ .leaf (.goto n)) ∧ ∀ kind m, d ≠ .relabelError kind m := by
    intro d hd
    rw [part_iff] at hd
    simp only [Expr.members, List.mem_singleton, exists_eq_left, reduceCtorEq, false_and,
      exists_false, or_false] at hd
    rcases hd with rfl | hd
    · simp
    rw [part_iff] at hd
    simp only [Expr.members, List.mem_cons, List.not_mem_nil, or_false, exists_eq_or_imp,
      exists_eq_left, part_leaf, reduceCtorEq, false_and, exists_false] at hd
    rcases hd with rfl | rfl | hd
    · simp
    · simp
    rw [part_iff] at hd
    rcases hd with rfl | ⟨m, hm, -⟩ | ⟨name, m, hname, hlookup, hd⟩
    · simp
    · cases hm
    cases hname
    cases hlookup
    rw [part_iff] at hd
    simp only [Expr.members, List.mem_singleton, exists_eq_left, part_leaf, reduceCtorEq,
      false_and, exists_false, or_false] at hd
    rcases hd with rfl | rfl <;> simp
  have hfail : (parser [("number", .tryMap (.int .unsigned32 10) (.leaf (.takeCount 2)))] 2
      (.wrapError (.seq [.leaf (.char 'é'), .rule "number"]))
      (.between ['a'] ['é', '1', 'x'])
        = .ok ⟨.failed ⟨.invalidInput, 3, [.wrapped, .earlier .invalidInput 3,
          .number .invalidDigit]⟩, 1, [.conversionError 3, .sequenceError 1]⟩) := by rfl
  obtain ⟨hboundary, hle, hsize, -⟩ := error_position 2 (fun n hn => (hparts _ hn).1 n rfl)
    (fun kind m hm => (hparts _ hm).2 kind m rfl) (Cursor.aligned_between ['a'] ['é', '1', 'x'])
    ⟨_, _, hfail⟩
  exact ⟨hfail, hboundary, hle, hsize⟩

end Grammar

end Backtrack
