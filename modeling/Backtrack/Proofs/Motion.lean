import Backtrack.Proofs.PairTree
import Backtrack.Proofs.Parts
import Backtrack.Proofs.Run
import Backtrack.Proofs.Token

/-!
# Where a run may leave the cursor

A motion is a kind of move that comes with staying in place and with one move after another. A
parser built from parsers that move so moves so itself, whatever their outcomes are, and takes no
slice off a boundary (`Expr.parser_within`). Hence every description leaves an aligned cursor
aligned (`Grammar.parser_within_anywhere`), and one without a `goto` among its parts never leaves it
further back (`Grammar.parser_within_onward`).
-/

namespace Backtrack

/-- The fault is not that of a slice. -/
def Fault.NoSlice : Fault → Prop
  | .unaligned _ _ => False
  | _ => True

/-- A kind of move to a boundary of a text; a move that is not back is of the kind, and so are two
moves in a row. -/
structure Motion where
  Allows : Text → Nat → Nat → Prop
  isBoundary {t : Text} {a b : Nat} : Allows t a b → t.IsBoundary b
  of_le {t : Text} {a b : Nat} : t.IsBoundary b → a ≤ b → Allows t a b
  trans {t : Text} {a b c : Nat} : Allows t a b → Allows t b c → Allows t a c

namespace Motion

def anywhere : Motion where
  Allows t _ b := t.IsBoundary b
  isBoundary h := h
  of_le h _ := h
  trans _ h := h

def onward : Motion where
  Allows t a b := t.IsBoundary b ∧ a ≤ b
  isBoundary h := h.1
  of_le := And.intro
  trans h h' := ⟨h'.1, Nat.le_trans h.2 h'.2⟩

theorem stay (M : Motion) {t : Text} {a : Nat} (h : t.IsBoundary a) : M.Allows t a a :=
  M.of_le h (Nat.le_refl a)

theorem allows_append (M : Motion) (seen a b : Text) :
    M.Allows (seen ++ (a ++ b)) seen.byteSize (seen ++ a).byteSize :=
  M.of_le ⟨seen ++ a, b, by simp, rfl⟩ (by rw [Text.byteSize_append]; omega)

/-- A move onward is over a first part of what is in front. -/
theorem exists_append_of_onward {seen rest : Text} {n : Nat}
    (h : onward.Allows (seen ++ rest) seen.byteSize n) :
    ∃ a b, rest = a ++ b ∧ n = (seen ++ a).byteSize :=
  h.1.exists_append_of_le h.2

theorem allows_home (M : Motion) {c : Cursor} (hc : c.Aligned) :
    M.Allows c.text c.pos c.home := by
  rw [hc.home_eq]
  exact M.stay hc

end Motion

namespace Parser

variable {α β : Type} {M : Motion}

/-- From a boundary, the parser moves as `M` allows, and takes no slice off boundaries. -/
def Within (M : Motion) (p : Parser α) : Prop :=
  ∀ c : Cursor, c.Aligned →
    Run.Meets Fault.NoSlice (fun r => M.Allows c.text c.pos r.stop) (p c)

theorem Within.allows {p : Parser α} (hp : p.Within M) {c : Cursor} (hc : c.Aligned) {r : Reply α}
    (h : p c = .ok r) : M.Allows c.text c.pos r.stop :=
  (hp c hc).of_eq_ok h

theorem Within.imp {N : Motion} {p : Parser α} (hp : p.Within M)
    (h : ∀ {t a b}, M.Allows t a b → N.Allows t a b) : p.Within N :=
  fun c hc => (hp c hc).imp fun _ hr => h hr

theorem Within.anywhere {p : Parser α} (hp : p.Within M) : p.Within .anywhere :=
  hp.imp M.isBoundary

theorem IsToken.within {text : α → Text} {p : Parser α} (hp : p.IsToken text) :
    p.Within M := by
  intro c hc
  obtain ⟨seen, rest, rfl⟩ := hc.exists_between
  rcases hp seen rest with ⟨v, b, rfl, h⟩ | h
  · rw [h]
    exact M.allows_append seen (text v) b
  · rw [h]
    exact M.stay hc

theorem within_succeed (a : α) : (succeed a).Within M := fun _ hc => M.stay hc

theorem within_miss : (miss : Parser α).Within M := fun _ hc => M.stay hc

theorem within_raise (e : ParseError) : (raise e : Parser α).Within M := fun _ hc => M.stay hc

theorem within_note (record : Record) : (note record).Within M := fun _ hc => M.stay hc

theorem within_position : position.Within M := fun _ hc => M.stay hc

theorem within_isAtEnd : isAtEnd.Within M := fun _ hc => M.stay hc

theorem Within.bind {p : Parser α} {next : α → Parser β} (hp : p.Within M)
    (hn : ∀ a, (next a).Within M) : (p >>= next).Within M := by
  intro c hc
  refine Run.Meets.bind (hp c hc) fun r hr => ?_
  rcases r with ⟨a | _ | e, n, log⟩
  · exact Run.Meets.bind (hn a (c.moveTo n) (M.isBoundary hr)) fun s hs => M.trans hr hs
  · exact hr
  · exact hr

theorem Within.map {p : Parser α} (hp : p.Within M) (f : α → β) : (p.map f).Within M :=
  fun c hc => Run.Meets.bind (hp c hc) fun _ hr => hr

theorem Within.attempt {p : Parser α} (hp : p.Within M) : p.attempt.Within M := by
  intro c hc
  unfold Parser.attempt
  refine Run.Meets.bind (hp c hc) fun r hr => ?_
  have hhome := M.allows_home hc
  rcases r with ⟨a | _ | e, n, log⟩
  · exact hr
  · exact hhome
  · exact hhome

theorem Within.noting {p : Parser α} (hp : p.Within M) (onMiss onError : Nat → Record) :
    (p.noting onMiss onError).Within M := by
  intro c hc
  unfold Parser.noting
  refine Run.Meets.bind (hp c hc) fun r hr => ?_
  rcases r with ⟨a | _ | e, n, log⟩ <;> exact hr

theorem Within.mapError {p : Parser α} (hp : p.Within M) (f : ParseError → ParseError) :
    (p.mapError f).Within M := by
  intro c hc
  unfold Parser.mapError
  refine Run.Meets.bind (hp c hc) fun r hr => ?_
  rcases r with ⟨a | _ | e, n, log⟩ <;> exact hr

theorem within_textSince (start : Nat) : (textSince start).Within M := by
  intro c hc
  obtain ⟨t, ht⟩ := c.exists_slice_eq_ok start c.pos
  rw [textSince, ht]
  exact M.stay hc

/-! ## Sequences and choices -/

theorem Within.pair {p : Parser α} {q : Parser β} (hp : p.Within M) (hq : q.Within M) :
    (pair p q).Within M := by
  unfold Parser.pair
  refine .attempt (.bind hp fun a => ?_)
  exact .bind hq fun b => within_succeed (a, b)

theorem within_each : ∀ {ps : List (Parser α)}, (∀ p ∈ ps, p.Within M) → (each ps).Within M
  | [], _ => within_succeed []
  | p :: ps, h => by
    have hps : (each ps).Within M := within_each fun q hq => h q (List.mem_cons_of_mem p hq)
    refine .bind (h p List.mem_cons_self) fun a => ?_
    exact .bind hps fun as => within_succeed (a :: as)

theorem Within.sequence {p : Parser α} (hp : p.Within M) : p.sequence.Within M := by
  unfold Parser.sequence
  exact .noting (.attempt hp) _ _

theorem Within.orElse {p q : Parser α} (hp : p.Within M) (hq : q.Within M) :
    (orElse p q).Within M := by
  intro c hc
  unfold Parser.orElse
  refine Run.Meets.bind (hp c hc) fun r hr => ?_
  rcases r with ⟨a | _ | e, n, log⟩
  · exact hr
  · rw [hc.moveTo_home]
    exact Run.Meets.bind (hq c hc) fun s hs => hs
  · exact M.allows_home hc

theorem within_first : ∀ {ps : List (Parser α)}, (∀ p ∈ ps, p.Within M) → (first ps).Within M
  | [], _ => within_miss
  | p :: ps, h => by
    have hps : (first ps).Within M := within_first fun q hq => h q (List.mem_cons_of_mem p hq)
    exact .orElse (h p List.mem_cons_self) hps

theorem Within.or {p : Parser α} {q : Parser β} (hp : p.Within M) (hq : q.Within M) :
    (or p q).Within M := by
  unfold Parser.or
  exact .orElse (hp.map _) (.attempt (hq.map _))

theorem within_pairs : ∀ {t : PairTree (Parser α)}, (∀ p ∈ t.toList, p.Within M) →
    (pairs t).Within M
  | .leaf p, h => (h p (by simp [PairTree.toList])).map _
  | .node s t, h => by
    have hs : (pairs s).Within M := within_pairs fun p hp => h p (by simp [PairTree.toList, hp])
    have ht : (pairs t).Within M := within_pairs fun p hp => h p (by simp [PairTree.toList, hp])
    exact (hs.pair ht).map _

theorem within_choices : ∀ {t : PairTree (Parser α)}, (∀ p ∈ t.toList, p.Within M) →
    (choices t).Within M
  | .leaf p, h => h p (by simp [PairTree.toList])
  | .node s t, h => by
    have hs : (choices s).Within M := within_choices fun p hp =>
      h p (by simp [PairTree.toList, hp])
    have ht : (choices t).Within M := within_choices fun p hp =>
      h p (by simp [PairTree.toList, hp])
    unfold choices
    refine within_first ?_
    simp only [List.mem_cons, List.not_mem_nil, or_false, forall_eq_or_imp, forall_eq]
    exact ⟨hs, ht⟩

theorem within_chain {p : Parser α} {ps : List (Parser α)} (h : ∀ q ∈ p :: ps, q.Within M) :
    (chain p ps).Within M := by
  unfold chain
  split_ifs
  · exact (within_pairs (by rwa [PairTree.toList_balanced])).map _
  · exact (within_each h).sequence

theorem within_choice {p : Parser α} {ps : List (Parser α)} (h : ∀ q ∈ p :: ps, q.Within M) :
    (choice p ps).Within M :=
  within_choices (by rwa [PairTree.toList_balanced])

/-! ## Looking ahead -/

theorem Within.optional {p : Parser α} (hp : p.Within M) : p.optional.Within M := by
  intro c hc
  unfold Parser.optional
  refine Run.Meets.bind (hp c hc) fun r hr => ?_
  have hhome := M.allows_home hc
  rcases r with ⟨a | _ | e, n, log⟩
  · exact hr
  · exact hhome
  · exact hhome

theorem Within.peek {p : Parser α} (hp : p.Within M) : p.peek.Within M := by
  intro c hc
  unfold Parser.peek
  exact Run.Meets.bind (hp c hc) fun r _ => M.allows_home hc

theorem Within.not {p : Parser α} (hp : p.Within M) : p.not.Within M := by
  intro c hc
  unfold Parser.not
  refine Run.Meets.bind (hp c hc) fun r _ => ?_
  have hhome := M.allows_home hc
  rcases r with ⟨a | _ | e, n, log⟩ <;> exact hhome

theorem Within.complete {p : Parser α} (hp : p.Within M) : p.complete.Within M := by
  unfold Parser.complete
  refine .attempt (.bind hp fun a => .bind within_isAtEnd fun b => ?_)
  cases b
  · exact .bind within_position fun n => within_raise _
  · exact within_succeed a

theorem Within.verify {p : Parser α} (hp : p.Within M) (test : α → Bool) :
    (p.verify test).Within M := by
  unfold Parser.verify
  refine .attempt (.bind hp fun a => ?_)
  split_ifs
  · exact within_succeed a
  · exact within_miss

theorem Within.tryMap {p : Parser α} (hp : p.Within M) (f : α → Except ErrorSeed β) :
    (p.tryMap f).Within M := by
  unfold Parser.tryMap
  refine .attempt (.bind within_position fun start => .bind hp fun a => ?_)
  split
  · exact within_succeed _
  · exact .bind (within_note _) fun _ => within_raise _

theorem Within.recognize {p : Parser α} (hp : p.Within M) : p.recognize.Within M := by
  unfold Parser.recognize
  refine .attempt (.bind within_position fun start => ?_)
  exact .bind hp fun _ => within_textSince start

theorem Within.spanned {p : Parser α} (hp : p.Within M) : p.spanned.Within M := by
  unfold Parser.spanned
  refine .attempt (.bind within_position fun start => .bind hp fun a => ?_)
  exact .bind (within_textSince start) fun t => within_succeed (a, t)

/-! ## Loops -/

theorem Within.collect {item : Parser α} (hp : item.Within M) (min : Nat) (proceed : Nat → Bool) :
    ∀ (rounds count : Nat) (c : Cursor), c.Aligned →
      Run.Meets Fault.NoSlice (fun h => M.Allows c.text c.pos h.stop)
        (collect rounds min proceed item count c) := by
  intro rounds
  induction rounds with
  | zero =>
    intro count c hc
    rw [Parser.collect]
    split_ifs
    · trivial
    · exact M.stay hc
  | succ rounds ih =>
    intro count c hc
    rw [Parser.collect]
    split_ifs
    · refine Run.Meets.bind (hp c hc) fun r hr => ?_
      rcases r with ⟨a | _ | e, n, log⟩
      · dsimp only
        split_ifs
        · exact hr
        · exact Run.Meets.bind (ih (count + 1) (c.moveTo n) (M.isBoundary hr)) fun h hh =>
            M.trans hr hh
      · exact M.allows_home hc
      · exact hr
    · exact M.stay hc

theorem Within.repeatWhile {item : Parser α} (hp : item.Within M) (rounds min : Nat)
    (proceed : Nat → Bool) : (repeatWhile rounds min proceed item).Within M := by
  intro c hc
  unfold Parser.repeatWhile
  refine Run.Meets.bind (hp.collect min proceed rounds 0 c hc) fun h hh => ?_
  have hhome := M.allows_home hc
  rcases h with ⟨items, n, _ | e, log⟩
  · dsimp only
    split_ifs
    · exact hh
    · exact hhome
  · exact hhome

/-- A loop moves as its content does: it looks for a delimiter from where it then stays. -/
theorem Within.untilLoop {content : Parser α} {delimiter : Parser β} (hp : content.Within M)
    (hq : delimiter.Within .anywhere) (start : Nat) :
    ∀ rounds, (untilLoop content delimiter start rounds).Within M
  | 0 => fun _ _ => trivial
  | rounds + 1 => by
    intro c hc
    unfold Parser.untilLoop
    refine Run.Meets.bind (hp c hc) fun r hr => ?_
    rcases r with ⟨a | _ | e, n, log⟩
    · have hbehind : (c.moveTo n).Aligned := M.isBoundary hr
      have hhome : M.Allows c.text c.pos (c.moveTo n).home := by
        rw [hbehind.home_eq]
        exact hr
      refine Run.Meets.bind (hq _ hbehind) fun s _ => ?_
      rcases s with ⟨b | _ | e, m, log'⟩
      · exact hhome
      · dsimp only
        split_ifs
        · exact hhome
        · exact Run.Meets.bind (hp.untilLoop hq start rounds _ (M.isBoundary hhome)) fun t ht =>
            M.trans hhome ht
      · exact hhome
    · exact hr
    · exact hr

theorem Within.whileNotLoop {content : Parser α} {delimiter : Parser β} (hp : content.Within M)
    (hq : delimiter.Within .anywhere) (start : Nat) :
    ∀ rounds, (whileNotLoop content delimiter start rounds).Within M
  | 0 => fun _ _ => trivial
  | rounds + 1 => by
    intro c hc
    unfold Parser.whileNotLoop
    have hhome := M.allows_home hc
    refine Run.Meets.bind (hq c hc) fun s _ => ?_
    rcases s with ⟨b | _ | e, m, log⟩
    · exact hhome
    · refine Run.Meets.bind (hp _ (M.isBoundary hhome)) fun r hr => ?_
      have hr' := M.trans hhome hr
      rcases r with ⟨a | _ | e, n, log'⟩
      · dsimp only
        split_ifs
        · exact hr'
        · exact Run.Meets.bind (hp.whileNotLoop hq start rounds _ (M.isBoundary hr')) fun t ht =>
            M.trans hr' ht
      · exact hr'
      · exact hr'
    · exact hhome

theorem Within.endOr {delimiter : Parser β} (hq : delimiter.Within M) :
    (endOr delimiter).Within M := by
  intro c hc
  rw [Parser.endOr]
  split_ifs
  · exact within_succeed () c hc
  · exact hq.map _ c hc

theorem Within.scan {content : Parser α} {delimiter : Parser β} (hp : content.Within M)
    (hq : delimiter.Within .anywhere) (kind : ScanKind) (rounds : Nat) :
    (scan kind rounds content delimiter).Within M := by
  have hstop : Within .anywhere
      (if kind.stopsAtEnd then Parser.endOr delimiter else delimiter.map fun _ => ()) := by
    split_ifs
    · exact hq.endOr
    · exact hq.map _
  rcases kind with ⟨_ | _, b⟩
  · refine .attempt fun c hc => ?_
    exact hp.untilLoop hstop c.pos rounds c hc
  · refine .attempt fun c hc => ?_
    exact hp.whileNotLoop hstop c.pos rounds c hc

/-! ## Leaves and descriptions -/

theorem meets_take {c : Cursor} (hc : c.Aligned) (n : Int) :
    Run.Meets Fault.NoSlice (fun x => M.Allows c.text c.pos x.2.pos) (c.take n) := by
  obtain ⟨seen, rest, rfl⟩ := hc.exists_between
  rcases Cursor.take_cases seen rest n with ⟨a, b, rfl, -, h⟩ | ⟨-, h⟩
  · rw [h]
    exact M.allows_append seen a b
  · rw [h]
    exact M.stay hc

theorem within_spelled (spellings : List String) : (spelled spellings).Within M := by
  refine within_first fun p hp => ?_
  obtain ⟨s, -, rfl⟩ := List.mem_map.1 hp
  exact (isToken_literalBy _ _).within

theorem within_dayOfWeek : dayOfWeek.Within M := by
  refine within_choices fun p hp => ?_
  rw [PairTree.toList_balanced] at hp
  simp only [List.mem_cons, List.mem_map] at hp
  rcases hp with rfl | ⟨d, -, rfl⟩ <;> exact (within_spelled _).map _

theorem within_monthOfYear : monthOfYear.Within M := by
  refine within_choices fun p hp => ?_
  rw [PairTree.toList_balanced] at hp
  simp only [List.mem_cons, List.mem_map] at hp
  rcases hp with rfl | ⟨m, -, rfl⟩ <;> exact (within_spelled _).map _

theorem within_charWhere (accept : Char → Bool) : (charWhere accept).Within M :=
  (isToken_charWhere accept).within

theorem within_yearMonthDay (rounds : Nat) : (yearMonthDay rounds).Within M := by
  unfold yearMonthDay
  refine .tryMap (.recognize (.sequence ?_)) _
  refine .bind ((within_charWhere _).repeatWhile _ _ _) fun _ => ?_
  refine .bind (within_charWhere _) fun _ => .bind (within_charWhere _) fun _ => ?_
  refine .bind (within_charWhere _) fun _ => .bind (within_charWhere _) fun _ => ?_
  exact .bind (within_charWhere _) fun _ => .bind (within_charWhere _) fun _ => within_succeed _

theorem within_daysOfWeek (rounds : Nat) : (daysOfWeek rounds).Within M := by
  unfold daysOfWeek
  refine Within.repeatWhile (.sequence (.bind within_dayOfWeek fun _ => ?_)) _ _ _
  exact .bind (within_charWhere _).optional fun _ => within_succeed _

theorem within_monthDay (rounds : Nat) : (monthDay rounds).Within M := by
  have hnumber : ∀ accept, Within M
      (recognize (repeatWhile rounds 1 (fun _ => true) (charWhere accept))) :=
    fun accept => ((within_charWhere accept).repeatWhile rounds 1 _).recognize
  unfold monthDay
  refine .tryMap (.sequence (.bind (hnumber _) fun _ => ?_)) _
  exact .bind (within_spelled _).optional fun _ => within_succeed _

end Parser

namespace CalendarField

theorem parser_within {M : Motion} (rounds : Nat) :
    ∀ f : CalendarField, (f.parser rounds).Within M
  | yearMonthDay => (Parser.within_yearMonthDay rounds).map _
  | dayOfWeek => Parser.within_dayOfWeek.map _
  | daysOfWeek => (Parser.within_daysOfWeek rounds).map _
  | monthOfYear => Parser.within_monthOfYear.map _
  | monthDay => (Parser.within_monthDay rounds).map _

end CalendarField

namespace Leaf

/-- Of all leaves, only `goto` moves back. -/
theorem parser_within {M : Motion} (rounds : Nat) {l : Leaf} (hl : ∀ n, l ≠ goto n) :
    (l.parser rounds).Within M := by
  have hchar : ∀ accept, (Parser.charWhere accept).Within M := Parser.within_charWhere
  have hliteral : ∀ same t, (Parser.literalBy same t).Within M :=
    fun same t => (Parser.isToken_literalBy same t).within
  have hascii : ∀ same t, (Parser.asciiLiteralBy same t).Within M :=
    fun same t => (Parser.isToken_asciiLiteralBy same t).within
  cases l with
  | goto n => exact absurd rfl (hl n)
  | eof => exact Parser.isToken_eof.within.map _
  | anyChar => exact Parser.isToken_anyChar.within.map _
  | position => exact Parser.isToken_position.within.map _
  | peekCount n => exact (Parser.isToken_peekCount n).within.map _
  | takeCount n => exact (Parser.isToken_takeCount n).within.map _
  | leak n => exact fun c hc => Run.Meets.bind (Parser.meets_take hc n) fun _ hx => hx
  | raise n kind cause => exact fun c hc => Run.Meets.bind (Parser.meets_take hc n) fun _ hx => hx
  | calendar f => exact f.parser_within rounds
  | whitespace | inlineWhitespace | optionalWhitespace | optionalInlineWhitespace =>
    exact (Parser.Within.recognize ((hchar _).repeatWhile _ _ _)).map _
  | letter | digit | char | charIn | charNotIn | charWhere | charWithProperty | ascii
  | asciiWhere =>
    exact (hchar _).map _
  | cr | lf | crlf | literal | literalInsensitive => exact (hliteral _ _).map _
  | asciiLiteral | asciiLiteralInsensitive => exact (hascii _ _).map _
  | newline =>
    refine (Parser.within_first fun p hp => ?_).map _
    simp only [List.mem_cons, List.not_mem_nil, or_false] at hp
    rcases hp with rfl | rfl <;> exact hliteral _ _

theorem parser_within_anywhere (rounds : Nat) (l : Leaf) : (l.parser rounds).Within .anywhere := by
  by_cases hl : ∃ n, l = goto n
  · obtain ⟨n, rfl⟩ := hl
    exact fun c _ => c.aligned_restore n
  · exact (parser_within rounds fun n h => hl ⟨n, h⟩)

end Leaf

namespace Quantity

theorem parser_within {M : Motion} {item : Parser Value} (hp : item.Within M) (rounds : Nat)
    (q : Quantity) : (q.parser rounds item).Within M := by
  cases q <;> exact hp.repeatWhile _ _ _

end Quantity

namespace Expr

/-- A description moves as its leaf, its members or its rule do. -/
theorem parser_within {M : Motion} {call : String → Parser Value} {rounds : Nat} {e : Expr}
    (hleaf : ∀ l, e = leaf l → (l.parser rounds).Within M)
    (hmember : ∀ d ∈ e.members, (d.parser call rounds).Within M)
    (hrule : ∀ name, e = rule name → (call name).Within M) : (e.parser call rounds).Within M := by
  have hlist : ∀ {es : List Expr}, (∀ d ∈ es, (d.parser call rounds).Within M) →
      ∀ p ∈ parsers call rounds es, p.Within M := forall_mem_parsers
  cases e with
  | leaf l => exact hleaf l rfl
  | rule name => exact hrule name rfl
  | shared e | erased e => exact hmember e (by simp [members])
  | map f e | withValue t e => exact (hmember e (by simp [members])).map _
  | tryMap f e => exact (hmember e (by simp [members])).tryMap _
  | verify test e => exact (hmember e (by simp [members])).verify _
  | relabelError kind e => exact (hmember e (by simp [members])).mapError _
  | wrapError e => exact (hmember e (by simp [members])).mapError _
  | optional e => exact (hmember e (by simp [members])).optional.map _
  | recognize e => exact (hmember e (by simp [members])).recognize.map _
  | spanned e => exact (hmember e (by simp [members])).spanned.map _
  | peek e => exact (hmember e (by simp [members])).peek
  | not e => exact (hmember e (by simp [members])).not.map _
  | complete e => exact (hmember e (by simp [members])).complete
  | pair e f =>
    exact (Parser.Within.pair (hmember e (by simp [members])) (hmember f (by simp [members]))).map _
  | or e f =>
    exact (Parser.Within.or (hmember e (by simp [members])) (hmember f (by simp [members]))).map _
  | seq es => exact (Parser.within_each (hlist hmember)).sequence.map _
  | chain e es =>
    have hps : ∀ p ∈ parsers call rounds (e :: es), p.Within M := hlist hmember
    exact (Parser.within_chain hps).map _
  | choice e es =>
    have hps : ∀ p ∈ parsers call rounds (e :: es), p.Within M := hlist hmember
    exact Parser.within_choice hps
  | any container es =>
    rw [parser, Parser.any, Container.members_family]
    exact Parser.within_first (hlist hmember)
  | all container es =>
    rw [parser, Parser.all, Container.members_family]
    exact (Parser.within_each (hlist hmember)).attempt.map _
  | nth container index es =>
    exact (Container.nth_family_induction container index Parser.within_miss (hlist hmember)).map _
  | repeated quantity e =>
    exact (Quantity.parser_within (hmember e (by simp [members])) rounds quantity).map _
  | scan kind e f =>
    exact (Parser.Within.scan (hmember e (by simp [members]))
      (hmember f (by simp [members])).anywhere kind rounds).map _
  | scanText kind f =>
    exact (Parser.Within.recognize (Parser.Within.scan Parser.isToken_anyChar.within
      (hmember f (by simp [members])).anywhere kind rounds)).map _

end Expr

namespace Grammar

variable (g : Grammar) (budget depth : Nat)

/-- Every description leaves an aligned cursor aligned and slices at boundaries only. -/
theorem parser_within_anywhere (e : Expr) :
    (e.parser (g.call budget depth) budget).Within .anywhere := by
  refine parser_induction (P := fun _ => True) (fun _ _ => trivial) (fun _ _ _ => trivial) ?_
    (fun _ _ => trivial) depth
  intro call e _ hmember hrule
  exact Expr.parser_within (fun l _ => l.parser_within_anywhere budget) hmember hrule

/-- A description without a `goto` never leaves the cursor further back. -/
theorem parser_within_onward {e : Expr} (h : ∀ n, ¬ g.Part e (.leaf (.goto n))) :
    (e.parser (g.call budget depth) budget).Within .onward := by
  refine parser_induction (P := fun d => ∀ n, d ≠ .leaf (.goto n)) (fun _ _ => trivial)
    (fun _ _ _ => trivial) ?_ (fun d hd n hn => h n (hn ▸ hd)) depth
  intro call e he hmember hrule
  refine Expr.parser_within (fun l hl => Leaf.parser_within budget fun n hn => ?_) hmember hrule
  exact he n (by rw [hl, hn])

end Grammar

end Backtrack
