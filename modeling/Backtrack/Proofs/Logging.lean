import Backtrack.Proofs.Failing
import Backtrack.Proofs.Motion

/-!
# What a combinator logs

A token logs nothing, and neither does what is built of tokens without a loop that may fall short
(`Parser.Silent`). A combinator logs what the parsers inside of it do and, where they match, what it
has to say of itself behind it (`Parser.Extends`): a conversion notes its own failure, and a sequence
that it does not match (`Parser.extends_tryMap`, `Parser.exists_of_sequence`).
-/

namespace Backtrack

namespace Outcome

variable {α β : Type}

/-- The record, behind an error. -/
def noteError (record : Record) : Outcome α → List Record
  | failed _ => [record]
  | _ => []

theorem isMatch_map (f : α → β) : ∀ o : Outcome α, (o.map f).isMatch = o.isMatch
  | matched _ | missed | failed _ => rfl

end Outcome

namespace Parser

variable {α β γ : Type}

/-! ## Parsers that log nothing -/

/-- From a boundary the parser logs nothing. -/
def Silent (p : Parser α) : Prop :=
  ∀ c : Cursor, c.Aligned → Run.Meets (fun _ => True) (fun r => r.log = []) (p c)

theorem IsToken.silent {text : α → Text} {p : Parser α} (hp : p.IsToken text) : p.Silent := by
  intro c hc
  obtain ⟨seen, rest, rfl⟩ := hc.exists_between
  rcases hp seen rest with ⟨v, b, -, h⟩ | h
  · rw [h]
    exact rfl
  · rw [h]
    exact rfl

theorem Silent.map {p : Parser α} (hp : p.Silent) (f : α → β) : (p.map f).Silent := by
  intro c hc
  unfold Parser.map
  exact Run.Meets.bind (hp c hc) fun r hr => hr

theorem silent_miss : (miss : Parser α).Silent := fun _ _ => rfl

theorem Silent.orElse {p q : Parser α} (hp : p.Silent) (hq : q.Silent) : (orElse p q).Silent := by
  intro c hc
  unfold Parser.orElse
  refine Run.Meets.bind (hp c hc) fun r hr => ?_
  rcases r with ⟨a | _ | e, n, log⟩
  · exact hr
  · rw [hc.moveTo_home]
    refine Run.Meets.bind (hq c hc) fun s hs => ?_
    show log ++ s.log = []
    rw [hs, List.append_nil]
    exact hr
  · exact hr

theorem Silent.recognize {p : Parser α} (hp : p.Silent) : (recognize p).Silent := by
  intro c hc
  have hrun := hp c hc
  rcases h : p c with f | ⟨a | _ | e, n, log⟩ <;> rw [h] at hrun
  · rw [recognize_of_error h]
    trivial
  · obtain ⟨t, ht⟩ := (c.moveTo n).exists_slice_eq_ok c.pos n
    rw [recognize_of_matched h ht]
    exact hrun
  · rw [recognize_of_missed h]
    exact hrun
  · rw [recognize_of_failed h]
    exact hrun

/-- A repetition of a token that needs no item has no reason to log. -/
theorem IsToken.silent_zeroOrMore {text : α → Text} {p : Parser α} (hp : p.IsToken text)
    (rounds : Nat) : (zeroOrMore rounds p).Silent := by
  intro c hc
  refine Run.meets_of_forall_ok fun r hr => ?_
  obtain ⟨h, hrun, rfl⟩ := exists_collect_of_repeatWhile hr
  have hcollect : c.Aligned → h.log = [] ∧ h.error = none := by
    refine collect_induction (P := fun _ c h => c.Aligned → h.log = [] ∧ h.error = none)
      ?_ ?_ ?_ ?_ ?_ hrun
    · intro _ _ _ _
      exact ⟨rfl, rfl⟩
    · intro _ d n log _ hitem hd
      exact ⟨(hp.silent d hd).of_eq_ok hitem, rfl⟩
    · intro _ d n log e _ hitem hd
      obtain ⟨seen, rest, rfl⟩ := hd.exists_between
      rcases hp seen rest with ⟨v, b, -, h⟩ | h <;> cases h.symm.trans hitem
    · intro _ d n log a _ hitem _ hd
      exact ⟨(hp.silent d hd).of_eq_ok hitem, rfl⟩
    · intro _ d n log a h _ hitem _ ih hd
      have hlog : log = [] := (hp.silent d hd).of_eq_ok hitem
      obtain ⟨hrest, herror⟩ := ih (Motion.onward.isBoundary (hp.within.allows hd hitem))
      refine ⟨?_, herror⟩
      show log ++ h.log = []
      rw [hlog, hrest, List.append_nil]
  obtain ⟨hlog, herror⟩ := hcollect hc
  simp [Harvest.reply, herror, hlog]

theorem silent_leak (n : Int) : (leak n : Parser α).Silent := by
  intro c _
  unfold leak
  exact Run.meets_bind fun _ => rfl

theorem silent_raiseAfter (n : Int) (kind : ErrorKind) (cause : Option String) :
    (raiseAfter n kind cause : Parser α).Silent := by
  intro c _
  unfold raiseAfter
  exact Run.meets_bind fun _ => rfl

end Parser

namespace Leaf

/-- A leaf that neither jumps nor has a repetition or a sequence in it that may fail. -/
def Primitive : Leaf → Prop
  | whitespace | inlineWhitespace | calendar _ | goto _ => False
  | _ => True

theorem Primitive.silent {l : Leaf} (hl : l.Primitive) (rounds : Nat) :
    (l.parser rounds).Silent := by
  have hchar : ∀ accept, (Parser.charWhere accept).Silent :=
    fun accept => (Parser.isToken_charWhere accept).silent
  have hliteral : ∀ same t, (Parser.literalBy same t).Silent :=
    fun same t => (Parser.isToken_literalBy same t).silent
  have hascii : ∀ same t, (Parser.asciiLiteralBy same t).Silent :=
    fun same t => (Parser.isToken_asciiLiteralBy same t).silent
  cases l with
  | whitespace | inlineWhitespace | calendar | goto => exact hl.elim
  | eof => exact Parser.isToken_eof.silent.map _
  | anyChar => exact Parser.isToken_anyChar.silent.map _
  | position => exact Parser.isToken_position.silent.map _
  | peekCount n => exact (Parser.isToken_peekCount n).silent.map _
  | takeCount n => exact (Parser.isToken_takeCount n).silent.map _
  | leak n => exact Parser.silent_leak n
  | raise n kind cause => exact Parser.silent_raiseAfter n kind cause
  | optionalWhitespace | optionalInlineWhitespace =>
    exact ((Parser.isToken_charWhere _).silent_zeroOrMore rounds).recognize.map _
  | newline => exact ((hliteral _ _).orElse ((hliteral _ _).orElse Parser.silent_miss)).map _
  | letter | digit | char | charIn | charNotIn | charWhere | charWithProperty | ascii
  | asciiWhere =>
    exact (hchar _).map _
  | cr | lf | crlf | literal | literalInsensitive => exact (hliteral _ _).map _
  | asciiLiteral | asciiLiteralInsensitive => exact (hascii _ _).map _

end Leaf

namespace Parser

variable {α β γ : Type}

/-! ## Rows along a tree -/

section Attempt

variable {p : Parser α} {next next' : α → Parser β}

theorem attempt_bind_attempt (p : Parser α) (next : α → Parser β) :
    (p.attempt >>= next).attempt = (p >>= next).attempt := by
  funext c
  rcases hp : p c with f | ⟨a | _ | e, n, log⟩
  · have h : p.attempt c = .error f := by rw [attempt, hp]; rfl
    rw [attempt, attempt, bind_of_error _ hp, bind_of_error _ h]
  · have h : p.attempt c = .ok ⟨.matched a, n, log⟩ := by rw [attempt, hp]; rfl
    rw [attempt, attempt, bind_of_matched _ hp, bind_of_matched _ h]
  · have h : p.attempt c = .ok ⟨.missed, c.home, log⟩ := by rw [attempt, hp]; rfl
    rw [attempt, attempt, bind_of_missed _ hp, bind_of_missed _ h]
    rfl
  · have h : p.attempt c = .ok ⟨.failed e, c.home, log⟩ := by rw [attempt, hp]; rfl
    rw [attempt, attempt, bind_of_failed _ hp, bind_of_failed _ h]
    rfl

theorem attempt_bind_congr (h : ∀ a, (next a).attempt = (next' a).attempt) :
    (p >>= next).attempt = (p >>= next').attempt := by
  funext c
  rcases hp : p c with f | ⟨a | _ | e, n, log⟩
  · rw [attempt, attempt, bind_of_error _ hp, bind_of_error _ hp]
  · have hnext := congrFun (h a) (c.moveTo n)
    rw [attempt, attempt] at hnext ⊢
    rw [bind_of_matched _ hp, bind_of_matched _ hp]
    rcases hr : next a (c.moveTo n) with f | ⟨b | _ | e, m, log'⟩ <;>
      rcases hr' : next' a (c.moveTo n) with f' | ⟨b' | _ | e', m', log''⟩ <;>
      rw [hr, hr'] at hnext <;> cases hnext <;> rfl
  · rw [attempt, attempt, bind_of_missed _ hp, bind_of_missed _ hp]
  · rw [attempt, attempt, bind_of_failed _ hp, bind_of_failed _ hp]

end Attempt

theorem each_singleton (p : Parser α) : each [p] = p.map ([·]) := by
  rw [each_cons, ← bind_succeed]
  exact congrArg (p >>= ·) (funext fun a => rfl)

/-- Pairs along a tree of parsers log what the parsers log in a row. -/
theorem attempt_pairs : ∀ t : PairTree (Parser α),
    ((pairs t).map PairTree.toList).attempt = (each t.toList).attempt
  | .leaf p => by
    rw [pairs, map_map, PairTree.toList, each_singleton]
    rfl
  | .node s t => by
    rw [map_toList_pairs_node, attempt_attempt, PairTree.toList, each_append,
      ← attempt_bind_attempt, attempt_pairs s, attempt_bind_attempt]
    refine attempt_bind_congr fun as => ?_
    rw [← attempt_bind_attempt, attempt_pairs t, attempt_bind_attempt]

/-! ## What a combinator logs of itself -/

section Extends

variable {c : Cursor} {own : Outcome β → List Record} {p : Parser α} {q : Parser β}

/-- At the cursor `q` returns only if `p` does and matches only if `p` does, and it logs what `p`
does and, if `p` matches, `own` behind it. -/
def Extends (c : Cursor) (own : Outcome β → List Record) (p : Parser α) (q : Parser β) : Prop :=
  ∀ r, q c = .ok r → ∃ s, p c = .ok s
    ∧ (s.outcome.isMatch = false → r.outcome.isMatch = false)
    ∧ r.log = s.log ++ if s.outcome.isMatch then own r.outcome else []

theorem extends_self (c : Cursor) (p : Parser α) : Extends c (fun _ => []) p p := by
  intro r h
  exact ⟨r, h, id, by simp⟩

theorem extends_bind {next : α → Parser β}
    (h : ∀ a n log, p c = .ok ⟨.matched a, n, log⟩ →
      ∀ r, next a (c.moveTo n) = .ok r → r.log = own r.outcome) :
    Extends c own p (p >>= next) := by
  intro r hr
  rcases hp : p c with f | ⟨a | _ | e, n, log⟩
  · cases (bind_of_error next hp).symm.trans hr
  · rw [bind_of_matched next hp] at hr
    rcases hn : next a (c.moveTo n) with f | t <;> rw [hn] at hr <;> cases hr
    have hlog := h a n log hp t hn
    exact ⟨_, rfl, by simp [Outcome.isMatch], by simp [Outcome.isMatch, Reply.after, hlog]⟩
  · cases (bind_of_missed next hp).symm.trans hr
    exact ⟨_, rfl, by simp [Outcome.isMatch], by simp [Outcome.isMatch]⟩
  · cases (bind_of_failed next hp).symm.trans hr
    exact ⟨_, rfl, by simp [Outcome.isMatch], by simp [Outcome.isMatch]⟩

theorem Extends.attempt (h : Extends c own p q) : Extends c own p q.attempt := by
  intro r hr
  rw [Parser.attempt] at hr
  rcases hq : q c with f | s
  · rw [hq] at hr
    cases hr
  · obtain ⟨t, ht, hmatch, hlog⟩ := h s hq
    refine ⟨t, ht, ?_⟩
    rcases s with ⟨b | _ | e, n, log⟩ <;> rw [hq] at hr <;> cases hr <;> exact ⟨hmatch, hlog⟩

theorem Extends.map {own : Outcome γ → List Record} {f : β → γ}
    (h : Extends c (fun o => own (o.map f)) p q) : Extends c own p (q.map f) := by
  intro r hr
  rw [map_eq] at hr
  rcases hq : q c with x | ⟨b | _ | e, n, log⟩ <;> rw [hq] at hr <;> cases hr <;> exact h _ hq

theorem Extends.of_map {f : α → γ} (h : Extends c own p q) : Extends c own (p.map f) q := by
  intro r hr
  obtain ⟨s, hs, hmatch, hlog⟩ := h r hr
  refine ⟨s.map f, by rw [map_eq, hs]; rfl, ?_, ?_⟩
  · rcases s with ⟨a | _ | e, n, log⟩ <;> exact hmatch
  · rcases s with ⟨a | _ | e, n, log⟩ <;> exact hlog

/-- Parsers that differ in where they stop without a match, at most, log the same. -/
theorem extends_of_attempt_eq {p q : Parser α} (h : q.attempt = p.attempt) :
    Extends c (fun _ => []) p q := by
  intro r hr
  have hc := congrFun h c
  rw [Parser.attempt, Parser.attempt, hr] at hc
  rcases hp : p c with f | s <;> rw [hp] at hc
  · rcases r with ⟨a | _ | e, n, log⟩ <;> cases hc
  · refine ⟨s, rfl, ?_⟩
    rcases r with ⟨a | _ | e, n, log⟩ <;> rcases s with ⟨b | _ | e', m, log'⟩ <;> cases hc <;>
      simp

theorem extends_mapError (f : ParseError → ParseError) :
    Extends c (fun _ => []) p (p.mapError f) := by
  intro r hr
  rw [mapError] at hr
  rcases hp : p c with x | ⟨a | _ | e, n, log⟩ <;> rw [hp] at hr <;> cases hr <;>
    exact ⟨_, rfl, by simp [Outcome.isMatch], by simp⟩

theorem extends_peek : Extends c (fun _ => []) p p.peek := by
  intro r hr
  rw [peek] at hr
  rcases hp : p c with x | s <;> rw [hp] at hr <;> cases hr
  exact ⟨s, rfl, id, by simp⟩

theorem extends_verify (test : α → Bool) : Extends c (fun _ => []) p (p.verify test) := by
  unfold verify
  refine .attempt (extends_bind fun a n log _ r hr => ?_)
  split_ifs at hr <;> cases hr <;> rfl

theorem textSince_log {start : Nat} {r : Reply Text} (h : textSince start c = .ok r) :
    r.log = [] := by
  rw [textSince] at h
  rcases hslice : c.slice start c.pos with f | t <;> rw [hslice] at h <;> cases h
  rfl

theorem extends_position_bind {next : Nat → Parser β} (h : Extends c own p (next c.pos)) :
    Extends c own p (position >>= next) := by
  intro r hr
  rw [position_bind] at hr
  exact h r hr

theorem extends_recognize : Extends c (fun _ => []) p p.recognize := by
  unfold recognize
  refine .attempt (extends_position_bind (extends_bind fun a n log _ r hr => ?_))
  exact textSince_log hr

theorem extends_spanned : Extends c (fun _ => []) p p.spanned := by
  unfold spanned
  refine .attempt (extends_position_bind (extends_bind fun a n log _ r hr => ?_))
  simp only [pure_eq_succeed, bind_succeed, map_eq] at hr
  rcases htext : textSince c.pos (c.moveTo n) with f | t <;> rw [htext] at hr <;> cases hr
  exact textSince_log htext

theorem extends_complete : Extends c (fun _ => []) p p.complete := by
  rw [complete_eq]
  refine .attempt (extends_bind fun a n log _ r hr => ?_)
  rw [checkEnd] at hr
  split_ifs at hr <;> cases hr <;> rfl

/-- A conversion logs its own failure. -/
theorem extends_tryMap (f : α → Except ErrorSeed β) : Extends c
    (Outcome.noteError (.conversionError c.pos)) p (p.tryMap f) := by
  unfold tryMap
  refine .attempt (extends_position_bind (extends_bind fun a n log _ r hr => ?_))
  rcases hf : f a with seed | b <;> rw [hf] at hr <;> cases hr <;> rfl

theorem extends_pair (p q : Parser α) :
    Extends c (fun _ => []) (each [p, q]) ((pair p q).map fun v => [v.1, v.2]) := by
  refine extends_of_attempt_eq ?_
  rw [map_pair p q fun a b => [a, b], attempt_attempt, each_cons, each_singleton]
  simp only [map_map]

theorem extends_treeSeq (p : Parser α) (ps : List (Parser α)) :
    Extends c (fun _ => []) (each (p :: ps)) (treeSeq p ps) := by
  refine extends_of_attempt_eq ?_
  rw [treeSeq_eq, attempt_pairs, PairTree.toList_balanced]

theorem exists_of_sequence {r : Reply α} {p : Parser α} (h : p.sequence c = .ok r) :
    ∃ s, p c = .ok s ∧ s.outcome = r.outcome ∧ r.log = s.log ++
      match r.outcome with
      | .matched _ => []
      | .missed => [.sequenceMiss c.pos]
      | .failed _ => [.sequenceError c.pos] := by
  rw [sequence, noting, Parser.attempt] at h
  rcases hp : p c with f | ⟨a | _ | e, n, log⟩ <;> rw [hp] at h <;> cases h <;>
    exact ⟨_, rfl, rfl, by simp⟩

end Extends

end Parser

end Backtrack
