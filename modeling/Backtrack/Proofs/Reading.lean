import Backtrack.Proofs.Motion
import Backtrack.Proofs.Refusal

/-!
# What a match has read

A parser reads by a relation between values and texts if each of its matches is related to the text
between where it began and where it stopped (`Parser.Reads`). Parsers in a row read their texts one
after the other, and what looks ahead, fails or is given up reads nothing. Descriptions that keep
what they read are faithful (`Grammar.Faithful`): the text of the value of a match is the slice of
the input that it covers, no code point more and none less (`Grammar.slice_eq_text`).
-/

namespace Backtrack

/-- A match stops behind a first part of `rest` to which its value is related. -/
def Reply.Spans {α : Type} (R : α → Text → Prop) (seen rest : Text) (r : Reply α) : Prop :=
  match r.outcome with
  | .matched v => ∃ a b, rest = a ++ b ∧ r.stop = (seen ++ a).byteSize ∧ R v a
  | _ => True

/-- The values are related to parts of the text, one after the other. -/
def Pieces {α : Type} (R : α → Text → Prop) : List α → Text → Prop
  | [], t => t = []
  | v :: vs, t => ∃ a b, t = a ++ b ∧ R v a ∧ Pieces R vs b

theorem Pieces.append {α : Type} {R : α → Text → Prop} : ∀ {vs ws : List α} {t u : Text},
    Pieces R vs t → Pieces R ws u → Pieces R (vs ++ ws) (t ++ u)
  | [], _, _, _, ht, hu => by
    obtain rfl : _ = [] := ht
    exact hu
  | v :: vs, ws, _, u, ⟨a, b, ht, ha, hb⟩, hu => by
    have hrest : Pieces R (vs ++ ws) (b ++ u) := hb.append hu
    exact ⟨a, b ++ u, by rw [ht, List.append_assoc], ha, hrest⟩

/-- The text is what the leaves of the value say. -/
def Value.Says (v : Value) (t : Text) : Prop := v.text = t

/-- Values that say the pieces of a text say the text together. -/
theorem Pieces.textAll_eq : ∀ {vs : List Value} {t : Text}, Pieces Value.Says vs t →
    Value.textAll vs = t
  | [], _, h => h.symm
  | v :: vs, _, ⟨a, b, ht, ha, hb⟩ => by
    have hv : v.text = a := ha
    rw [Value.textAll, hv, hb.textAll_eq, ht]

theorem Reply.Spans.after {α : Type} {R : α → Text → Prop} {seen a b : Text} {r : Reply α}
    (hr : r.Spans (fun v t => R v (a ++ t)) (seen ++ a) b) (log : List Record) :
    (r.after log).Spans R seen (a ++ b) := by
  rcases r with ⟨v | _ | e, n, log'⟩
  · obtain ⟨a', b', rfl, rfl, hv⟩ := hr
    exact ⟨a ++ a', b', by simp, by simp [Reply.after], hv⟩
  · trivial
  · trivial

theorem Reply.Spans.cons {α : Type} {R : α → Text → Prop} {seen a b : Text} {v : α}
    {r : Reply (List α)} (hr : r.Spans (Pieces R) (seen ++ a) b) (hv : R v a)
    (log : List Record) : (r.cons v log).Spans (Pieces R) seen (a ++ b) := by
  refine Reply.Spans.after (r := r.map (v :: ·)) ?_ log
  rcases r with ⟨vs | _ | e, n, log'⟩
  · obtain ⟨a', b', hb, hstop, hvs⟩ := hr
    exact ⟨a', b', hb, hstop, a, a', rfl, hv, hvs⟩
  · trivial
  · trivial

namespace Parser

variable {α β : Type} {R : α → Text → Prop} {S : β → Text → Prop}

/-- Wherever it starts on a boundary, a match is related to the text it has read. -/
def Reads (R : α → Text → Prop) (p : Parser α) : Prop :=
  ∀ seen rest : Text, Run.Meets (fun _ => True) (Reply.Spans R seen rest) (p (.between seen rest))

theorem IsToken.reads {text : α → Text} {p : Parser α} (hp : p.IsToken text) :
    p.Reads fun v t => text v = t := by
  intro seen rest
  rcases hp seen rest with ⟨v, b, hrest, h⟩ | h
  · rw [h]
    exact ⟨text v, b, hrest, rfl, rfl⟩
  · rw [h]
    trivial

/-- A parser that only moves onward reads something. -/
theorem Within.reads {p : Parser α} (hp : p.Within .onward) : p.Reads fun _ _ => True := by
  intro seen rest
  refine Run.meets_of_forall_ok fun r hr => ?_
  obtain ⟨a, b, hrest, hstop⟩ :=
    Motion.exists_append_of_onward (hp.allows (Cursor.aligned_between seen rest) hr)
  rcases r with ⟨v | _ | e, n, log⟩
  · exact ⟨a, b, hrest, hstop, trivial⟩
  · trivial
  · trivial

theorem reads_succeed {v : α} (h : R v []) : (succeed v).Reads R :=
  fun _ rest => ⟨[], rest, rfl, by simp, h⟩

theorem reads_miss : (miss : Parser α).Reads R := fun _ _ => trivial

theorem reads_raise (e : ParseError) : (raise e : Parser α).Reads R := fun _ _ => trivial

theorem Reads.map {p : Parser α} (hp : p.Reads R) {f : α → β} (h : ∀ v t, R v t → S (f v) t) :
    (p.map f).Reads S := by
  intro seen rest
  unfold Parser.map
  refine Run.Meets.bind (hp seen rest) fun r hr => ?_
  rcases r with ⟨v | _ | e, n, log⟩
  · obtain ⟨a, b, hrest, hstop, hv⟩ := hr
    exact ⟨a, b, hrest, hstop, h v a hv⟩
  · trivial
  · trivial

/-- What follows reads on from where the first parser stopped. -/
theorem Reads.bind {p : Parser α} {next : α → Parser β} (hp : p.Reads R)
    (hn : ∀ v t, R v t → (next v).Reads fun w u => S w (t ++ u)) : (p >>= next).Reads S := by
  intro seen rest
  refine Run.Meets.bind (hp seen rest) fun r hr => ?_
  rcases r with ⟨v | _ | e, n, log⟩
  · obtain ⟨a, b, rfl, rfl, hv⟩ := hr
    dsimp only
    rw [Cursor.moveTo_between]
    exact Run.Meets.bind (hn v a hv (seen ++ a) b) fun s hs => hs.after log
  · trivial
  · trivial

theorem Reads.attempt {p : Parser α} (hp : p.Reads R) : p.attempt.Reads R := by
  intro seen rest
  unfold Parser.attempt
  refine Run.Meets.bind (hp seen rest) fun r hr => ?_
  rcases r with ⟨v | _ | e, n, log⟩
  · exact hr
  · trivial
  · trivial

theorem Reads.noting {p : Parser α} (hp : p.Reads R) (onMiss onError : Nat → Record) :
    (p.noting onMiss onError).Reads R := by
  intro seen rest
  unfold Parser.noting
  refine Run.Meets.bind (hp seen rest) fun r hr => ?_
  rcases r with ⟨v | _ | e, n, log⟩
  · exact hr
  · trivial
  · trivial

theorem Reads.mapError {p : Parser α} (hp : p.Reads R) (f : ParseError → ParseError) :
    (p.mapError f).Reads R := by
  intro seen rest
  unfold Parser.mapError
  refine Run.Meets.bind (hp seen rest) fun r hr => ?_
  rcases r with ⟨v | _ | e, n, log⟩
  · exact hr
  · trivial
  · trivial

/-! ## Sequences and choices -/

theorem Reads.sequence {p : Parser α} (hp : p.Reads R) : p.sequence.Reads R := by
  unfold Parser.sequence
  exact hp.attempt.noting _ _

theorem Reads.pair {p : Parser α} {q : Parser β} (hp : p.Reads R) (hq : q.Reads S) :
    (pair p q).Reads fun vw t => ∃ a b, t = a ++ b ∧ R vw.1 a ∧ S vw.2 b := by
  unfold Parser.pair
  refine .attempt (.bind hp fun v a hv => ?_)
  refine .bind hq fun w b hw => reads_succeed ?_
  exact ⟨a, b, by rw [List.append_nil], hv, hw⟩

theorem reads_each : ∀ {ps : List (Parser α)}, (∀ p ∈ ps, p.Reads R) → (each ps).Reads (Pieces R)
  | [], _ => reads_succeed rfl
  | p :: ps, h => by
    have hps : (each ps).Reads (Pieces R) := reads_each fun q hq => h q (List.mem_cons_of_mem p hq)
    refine .bind (h p List.mem_cons_self) fun v a hv => ?_
    refine .bind hps fun vs b hvs => reads_succeed ?_
    exact ⟨a, b, by rw [List.append_nil], hv, hvs⟩

theorem Reads.orElse {p q : Parser α} (hp : p.Reads R) (hq : q.Reads R) :
    (orElse p q).Reads R := by
  intro seen rest
  unfold Parser.orElse
  refine Run.Meets.bind (hp seen rest) fun r hr => ?_
  rcases r with ⟨v | _ | e, n, log⟩
  · exact hr
  · dsimp only
    rw [(Cursor.aligned_between seen rest).moveTo_home]
    exact Run.Meets.bind (hq seen rest) fun s hs => hs
  · trivial

theorem reads_first : ∀ {ps : List (Parser α)}, (∀ p ∈ ps, p.Reads R) → (first ps).Reads R
  | [], _ => reads_miss
  | p :: ps, h => by
    have hps : (first ps).Reads R := reads_first fun q hq => h q (List.mem_cons_of_mem p hq)
    exact .orElse (h p List.mem_cons_self) hps

/-- Read along a tree, the values make a tree of its shape, with the pieces in order. -/
theorem reads_pairs : ∀ {t : PairTree (Parser α)}, (∀ p ∈ t.toList, p.Reads R) →
    (pairs t).Reads fun v u => v.shape = t.shape ∧ Pieces R v.toList u
  | .leaf p, h => by
    have hp : p.Reads R := h p (by simp [PairTree.toList])
    refine hp.map fun v u hv => ?_
    exact ⟨rfl, u, [], by rw [List.append_nil], hv, rfl⟩
  | .node s t, h => by
    have hs := reads_pairs (t := s) fun p hp => h p (by simp [PairTree.toList, hp])
    have ht := reads_pairs (t := t) fun p hp => h p (by simp [PairTree.toList, hp])
    refine (hs.pair ht).map ?_
    rintro ⟨v, w⟩ _ ⟨a, b, rfl, ⟨hshape, hv⟩, hshape', hw⟩
    exact ⟨by rw [PairTree.shape, hshape, hshape', PairTree.shape], hv.append hw⟩

theorem reads_choices : ∀ {t : PairTree (Parser α)}, (∀ p ∈ t.toList, p.Reads R) →
    (choices t).Reads R
  | .leaf p, h => h p (by simp [PairTree.toList])
  | .node s t, h => by
    have hs : (choices s).Reads R := reads_choices fun p hp => h p (by simp [PairTree.toList, hp])
    have ht : (choices t).Reads R := reads_choices fun p hp => h p (by simp [PairTree.toList, hp])
    unfold choices
    refine reads_first ?_
    simp only [List.mem_cons, List.not_mem_nil, or_false, forall_eq_or_imp, forall_eq]
    exact ⟨hs, ht⟩

theorem reads_chain {p : Parser α} {ps : List (Parser α)} (h : ∀ q ∈ p :: ps, q.Reads R) :
    (chain p ps).Reads (Pieces R) := by
  unfold chain
  split_ifs
  · refine (reads_pairs (R := R) (by rwa [PairTree.toList_balanced])).map ?_
    rintro v t ⟨hshape, hv⟩
    rwa [PairTree.inOrder_eq_toList (hshape.trans (PairTree.shape_balanced p ps))]
  · exact (reads_each h).sequence

theorem reads_choice {p : Parser α} {ps : List (Parser α)} (h : ∀ q ∈ p :: ps, q.Reads R) :
    (choice p ps).Reads R :=
  reads_choices (by rwa [PairTree.toList_balanced])

/-! ## Looking ahead and taking a text -/

theorem Reads.optional {p : Parser α} (hp : p.Reads R) {S : Presence α → Text → Prop}
    (hpresent : ∀ v t, R v t → S (.present v) t) (habsent : S .absent []) :
    p.optional.Reads S := by
  intro seen rest
  unfold Parser.optional
  refine Run.Meets.bind (hp seen rest) fun r hr => ?_
  rcases r with ⟨v | _ | e, n, log⟩
  · obtain ⟨a, b, hrest, hstop, hv⟩ := hr
    exact ⟨a, b, hrest, hstop, hpresent v a hv⟩
  · exact ⟨[], rest, rfl, by simp, habsent⟩
  · trivial

/-- Whatever the parser does, its negation reads nothing. -/
theorem reads_not (p : Parser α) : p.not.Reads fun _ t => t = [] := by
  intro seen rest
  unfold Parser.not
  refine Run.meets_bind ?_
  rintro ⟨v | _ | e, n, log⟩
  · trivial
  · exact ⟨[], rest, rfl, by simp, rfl⟩
  · trivial

theorem Reads.verify {p : Parser α} (hp : p.Reads R) (test : α → Bool) :
    (p.verify test).Reads R := by
  unfold Parser.verify
  refine .attempt (.bind hp fun v t hv => ?_)
  split_ifs
  · exact reads_succeed (by rwa [List.append_nil])
  · exact reads_miss

theorem reads_position_bind {next : Nat → Parser α}
    (hn : ∀ seen rest, Run.Meets (fun _ => True) (Reply.Spans R seen rest)
      (next (seen : Text).byteSize (.between seen rest))) : (position >>= next).Reads R := by
  intro seen rest
  refine Run.Meets.bind (hn seen rest) fun r hr => ?_
  rcases r with ⟨v | _ | e, n, log⟩ <;> exact hr

theorem Reads.recognize {p : Parser α} (hp : p.Reads R) : p.recognize.Reads fun v t => v = t := by
  unfold Parser.recognize
  refine .attempt (reads_position_bind fun seen rest => ?_)
  refine Run.Meets.bind (hp seen rest) fun r hr => ?_
  rcases r with ⟨v | _ | e, n, log⟩
  · obtain ⟨a, b, rfl, rfl, -⟩ := hr
    dsimp only
    rw [Cursor.moveTo_between, textSince, Cursor.pos_between, Cursor.slice_between]
    exact ⟨a, b, rfl, rfl, rfl⟩
  · trivial
  · trivial

theorem reads_isAtEnd : isAtEnd.Reads fun _ t => t = [] :=
  fun _ rest => ⟨[], rest, rfl, by simp, rfl⟩

theorem Reads.complete {p : Parser α} (hp : p.Reads R) : p.complete.Reads R := by
  unfold Parser.complete
  refine .attempt (.bind hp fun v t hv => .bind reads_isAtEnd ?_)
  rintro b _ rfl
  cases b
  · exact .bind isToken_position.reads fun n _ _ => reads_raise _
  · exact reads_succeed (by rwa [List.append_nil, List.append_nil])

/-! ## Loops -/

/-- The items collected are pieces of what was read up to where the repetition ended well. -/
theorem Reads.collect {item : Parser α} (hp : item.Reads R) (min : Nat) (proceed : Nat → Bool) :
    ∀ (rounds count : Nat) (seen rest : Text),
      Run.Meets (fun _ => True)
        (fun h => h.error = none →
          ∃ a b, rest = a ++ b ∧ h.stop = (seen ++ a).byteSize ∧ Pieces R h.items a)
        (collect rounds min proceed item count (.between seen rest)) := by
  intro rounds count seen rest
  refine Run.meets_of_forall_ok fun h hrun => ?_
  refine collect_induction (P := fun _ c h => ∀ seen rest, c = Cursor.between seen rest →
      h.error = none → ∃ a b, rest = a ++ b ∧ h.stop = (seen ++ a).byteSize ∧ Pieces R h.items a)
    ?_ ?_ ?_ ?_ ?_ hrun seen rest rfl
  · rintro _ _ _ seen rest rfl _
    exact ⟨[], rest, rfl, by simp, rfl⟩
  · rintro _ _ n log _ _ seen rest rfl _
    exact ⟨[], rest, rfl, by simp, rfl⟩
  · intro _ _ n log e _ _ _ _ _ herror
    cases herror
  · rintro _ _ n log v _ hitem _ seen rest rfl _
    obtain ⟨a, b, rfl, rfl, hv⟩ := (hp seen rest).of_eq_ok hitem
    exact ⟨a, b, rfl, rfl, a, [], by simp, hv, rfl⟩
  · rintro _ _ n log v h _ hitem _ ih seen rest rfl herror
    obtain ⟨a, b, rfl, rfl, hv⟩ := (hp seen rest).of_eq_ok hitem
    obtain ⟨a', b', rfl, hstop, hvs⟩ := ih (seen ++ a) b (Cursor.moveTo_between seen a b) herror
    rw [List.append_assoc] at hstop
    exact ⟨a ++ a', b', by simp, hstop, a, a', rfl, hv, hvs⟩

theorem Reads.repeatWhile {item : Parser α} (hp : item.Reads R) (rounds min : Nat)
    (proceed : Nat → Bool) : (repeatWhile rounds min proceed item).Reads (Pieces R) := by
  intro seen rest
  unfold Parser.repeatWhile
  refine Run.Meets.bind (hp.collect min proceed rounds 0 seen rest) fun h hh => ?_
  rcases h with ⟨items, n, _ | e, log⟩
  · dsimp only
    split_ifs
    · exact hh rfl
    · trivial
  · trivial

/-- Content reads on from where it stopped before: the delimiter is looked for and not read. -/
theorem Reads.untilLoop {content : Parser α} (hp : content.Reads R) (delimiter : Parser β)
    (start : Nat) : ∀ rounds, (untilLoop content delimiter start rounds).Reads (Pieces R)
  | 0 => fun _ _ => trivial
  | rounds + 1 => by
    intro seen rest
    unfold Parser.untilLoop
    refine Run.Meets.bind (hp seen rest) fun r hr => ?_
    rcases r with ⟨v | _ | e, n, log⟩
    · obtain ⟨a, b, rfl, rfl, hv⟩ := hr
      dsimp only
      rw [Cursor.moveTo_between, Cursor.home_between]
      refine Run.meets_bind ?_
      rintro ⟨w | _ | e, m, log'⟩
      · exact ⟨a, b, rfl, rfl, a, [], by simp, hv, rfl⟩
      · dsimp only
        split_ifs
        · trivial
        · rw [Cursor.moveTo_between]
          exact Run.Meets.bind (hp.untilLoop delimiter start rounds (seen ++ a) b) fun s hs =>
            hs.cons hv _
      · trivial
    · trivial
    · trivial

theorem Reads.whileNotLoop {content : Parser α} (hp : content.Reads R) (delimiter : Parser β)
    (start : Nat) : ∀ rounds, (whileNotLoop content delimiter start rounds).Reads (Pieces R)
  | 0 => fun _ _ => trivial
  | rounds + 1 => by
    intro seen rest
    unfold Parser.whileNotLoop
    refine Run.meets_bind ?_
    rintro ⟨w | _ | e, m, log⟩
    · exact ⟨[], rest, rfl, by simp, rfl⟩
    · dsimp only
      rw [(Cursor.aligned_between seen rest).moveTo_home]
      refine Run.Meets.bind (hp seen rest) fun r hr => ?_
      rcases r with ⟨v | _ | e, n, log'⟩
      · obtain ⟨a, b, rfl, rfl, hv⟩ := hr
        dsimp only
        split_ifs
        · trivial
        · rw [Cursor.moveTo_between]
          exact Run.Meets.bind (hp.whileNotLoop delimiter start rounds (seen ++ a) b) fun s hs =>
            hs.cons hv _
      · trivial
      · trivial
    · trivial

theorem Reads.scan {content : Parser α} (hp : content.Reads R) (kind : ScanKind) (rounds : Nat)
    (delimiter : Parser β) : (scan kind rounds content delimiter).Reads (Pieces R) := by
  rcases kind with ⟨_ | _, b⟩
  · refine .attempt fun seen rest => ?_
    exact hp.untilLoop _ _ rounds seen rest
  · refine .attempt fun seen rest => ?_
    exact hp.whileNotLoop _ _ rounds seen rest

end Parser

/-! ## Leaves and descriptions -/

namespace Leaf

/-- The leaf does not match without reading what its value says. -/
def Faithful : Leaf → Prop
  | position | peekCount _ | calendar _ | goto _ => False
  | _ => True

theorem Faithful.reads {l : Leaf} (hl : l.Faithful) (rounds : Nat) :
    (l.parser rounds).Reads Value.Says := by
  have hchar : ∀ accept, ((Parser.charWhere accept).map Value.char).Reads Value.Says :=
    fun accept => (Parser.isToken_charWhere accept).reads.map fun _ _ h => h
  have hascii : ∀ accept, ((Parser.charWhere accept).map Value.asciiChar).Reads Value.Says :=
    fun accept => (Parser.isToken_charWhere accept).reads.map fun _ _ h => h
  have hblank : ∀ accept min proceed,
      ((Parser.repeatWhile rounds min proceed (Parser.charWhere accept)).recognize.map
        Value.str).Reads Value.Says := fun accept min proceed =>
    ((Parser.isToken_charWhere accept).reads.repeatWhile rounds min proceed).recognize.map
      fun _ _ h => h
  cases l with
  | position | peekCount | calendar | goto => exact hl.elim
  | leak n | raise n kind cause => exact fun _ _ => Run.meets_bind fun _ => trivial
  | eof => exact Parser.isToken_eof.reads.map fun _ _ h => h
  | anyChar => exact Parser.isToken_anyChar.reads.map fun _ _ h => h
  | takeCount n => exact (Parser.isToken_takeCount n).reads.map fun _ _ h => h
  | whitespace | inlineWhitespace | optionalWhitespace | optionalInlineWhitespace =>
    exact hblank _ _ _
  | letter | digit | char | charIn | charNotIn | charWhere | charWithProperty => exact hchar _
  | ascii | asciiWhere => exact hascii _
  | cr | lf | crlf | literal | literalInsensitive =>
    exact (Parser.isToken_literalBy _ _).reads.map fun _ _ h => h
  | asciiLiteral | asciiLiteralInsensitive =>
    exact (Parser.isToken_asciiLiteralBy _ _).reads.map fun _ _ h => h
  | newline =>
    refine (Parser.reads_first (R := fun v t => v = t) fun p hp => ?_).map fun _ _ h => h
    simp only [List.mem_cons, List.not_mem_nil, or_false] at hp
    rcases hp with rfl | rfl <;> exact (Parser.isToken_literalBy _ _).reads

end Leaf

namespace Expr

/-- The combinator puts the values of its members together and leaves nothing out. -/
def Joining : Expr → Prop
  | verify _ _ | relabelError _ _ | wrapError _ | optional _ | complete _ => True
  | shared _ | erased _ | pair _ _ | or _ _ | seq _ | chain _ _ | choice _ _ => True
  | any _ _ | all _ _ | repeated _ _ => True
  | _ => False

variable {call : String → Parser Value} {rounds : Nat}

theorem Joining.reads {e : Expr} (he : e.Joining)
    (h : ∀ d ∈ e.members, (d.parser call rounds).Reads Value.Says) :
    (e.parser call rounds).Reads Value.Says := by
  have hlist : ∀ {es : List Expr}, (∀ d ∈ es, (d.parser call rounds).Reads Value.Says) →
      ∀ p ∈ parsers call rounds es, p.Reads Value.Says := forall_mem_parsers
  cases e with
  | shared e | erased e => exact h e (by simp [members])
  | relabelError kind e | wrapError e => exact (h e (by simp [members])).mapError _
  | verify test e => exact (h e (by simp [members])).verify _
  | complete e => exact (h e (by simp [members])).complete
  | optional e =>
    refine ((h e (by simp [members])).optional (S := fun p t => Value.Says (.presence p) t)
      (fun _ _ hv => hv) rfl).map fun _ _ hp => hp
  | pair e f =>
    refine ((h e (by simp [members])).pair (h f (by simp [members]))).map ?_
    rintro ⟨v, w⟩ _ ⟨a, b, rfl, hv, hw⟩
    exact Pieces.textAll_eq ⟨a, b, rfl, hv, b, [], by simp, hw, rfl⟩
  | or e f =>
    refine Parser.Reads.map (R := fun b t => Value.Says (.branch b) t) ?_ fun _ _ hb => hb
    exact .orElse ((h e (by simp [members])).map fun _ _ hv => hv)
      (.attempt ((h f (by simp [members])).map fun _ _ hv => hv))
  | seq es => exact (Parser.reads_each (hlist h)).sequence.map fun _ _ hvs => hvs.textAll_eq
  | chain e es =>
    have hps : ∀ p ∈ parsers call rounds (e :: es), p.Reads Value.Says := hlist h
    exact (Parser.reads_chain hps).map fun _ _ hvs => hvs.textAll_eq
  | choice e es =>
    have hps : ∀ p ∈ parsers call rounds (e :: es), p.Reads Value.Says := hlist h
    exact Parser.reads_choice hps
  | any container es =>
    rw [parser, Parser.any, Container.members_family]
    exact Parser.reads_first (hlist h)
  | all container es =>
    rw [parser, Parser.all, Container.members_family]
    exact (Parser.reads_each (hlist h)).attempt.map fun _ _ hvs => hvs.textAll_eq
  | repeated quantity e =>
    cases quantity <;>
      exact ((h e (by simp [members])).repeatWhile _ _ _).map fun _ _ hvs => hvs.textAll_eq
  | _ => exact he.elim

end Expr

namespace Grammar

variable {g : Grammar} {budget : Nat}

/-- The description keeps what it reads: it is a leaf or a combinator that does and has faithful
members, a scan of faithful content, a text taken from the input by a description without a `goto`,
a negation, or the name of a faithful rule. -/
inductive Faithful (g : Grammar) : Expr → Prop where
  | leaf {l : Leaf} : l.Faithful → Faithful g (.leaf l)
  | joining {e : Expr} : e.Joining → (∀ d ∈ e.members, Faithful g d) → Faithful g e
  | scan {kind : ScanKind} {e f : Expr} : Faithful g e → Faithful g (.scan kind e f)
  | scanText {kind : ScanKind} {f : Expr} : Faithful g (.scanText kind f)
  | recognize {e : Expr} : (∀ n, ¬ g.Part e (.leaf (.goto n))) → Faithful g (.recognize e)
  | not {e : Expr} : Faithful g (.not e)
  | called {name : String} {e : Expr} : g.lookup name = some e → Faithful g e →
    Faithful g (.rule name)

theorem Faithful.reads {e : Expr} (he : g.Faithful e) :
    ∀ depth, (e.parser (g.call budget depth) budget).Reads Value.Says := by
  induction he with
  | leaf hl => exact fun _ => hl.reads budget
  | joining he _ ih => exact fun depth => he.reads fun d hd => ih d hd depth
  | scan _ ih => exact fun depth => ((ih depth).scan _ _ _).map fun _ _ hvs => hvs.textAll_eq
  | scanText =>
    exact fun _ => (Parser.isToken_anyChar.reads.scan _ _ _).recognize.map fun _ _ h => h
  | recognize hback =>
    exact fun depth => (parser_within_onward g budget depth hback).reads.recognize.map
      fun _ _ h => h
  | not =>
    refine fun _ => (Parser.reads_not _).map ?_
    rintro _ _ rfl
    rfl
  | called hname _ ih =>
    intro depth seen rest
    cases depth with
    | zero => trivial
    | succ depth =>
      rw [Expr.parser, call_succ_of_lookup hname]
      exact ih depth seen rest

/-- The text of the value of a match is the slice of the input from where the run began to where it
stopped. -/
theorem slice_eq_text {e : Expr} (he : g.Faithful e) {c : Cursor} (hc : c.Aligned)
    {r : Reply Value} (hr : g.parser budget e c = .ok r) {v : Value}
    (hv : r.outcome = .matched v) :
    c.pos ≤ r.stop ∧ c.text.slice c.pos r.stop = .ok v.text := by
  obtain ⟨seen, rest, rfl⟩ := hc.exists_between
  have hspans : r.Spans Value.Says seen rest := (he.reads budget seen rest).of_eq_ok hr
  rcases r with ⟨w | _ | e, n, log⟩
  · cases hv
    obtain ⟨a, b, rfl, rfl, hsays⟩ := hspans
    have htext : v.text = a := hsays
    rw [htext, Text.byteSize_append]
    exact ⟨Nat.le_add_right _ _, Text.slice_append seen a b⟩
  · cases hv
  · cases hv

/-- A pair of a letter that may be there and a scan up to a delimiter covers four bytes. -/
theorem slice_eq_text_scan :
    Faithful [] (.pair (.optional (.leaf (.char 'é')))
        (.scan ⟨.afterContent, false⟩ (.leaf .anyChar) (.leaf (.char ';'))))
      ∧ (⟨['x', 'é', 'a', 'b', ';'], 1⟩ : Cursor).Aligned
      ∧ parser [] 4 (.pair (.optional (.leaf (.char 'é')))
          (.scan ⟨.afterContent, false⟩ (.leaf .anyChar) (.leaf (.char ';'))))
          ⟨['x', 'é', 'a', 'b', ';'], 1⟩
        = .ok ⟨.matched (.tuple [.presence (.present (.char 'é')), .list [.char 'a', .char 'b']]),
            5, []⟩
      ∧ 1 ≤ 5 ∧ Text.slice ['x', 'é', 'a', 'b', ';'] 1 5 = .ok ['é', 'a', 'b'] := by
  have hfaithful : Faithful [] (.pair (.optional (.leaf (.char 'é')))
      (.scan ⟨.afterContent, false⟩ (.leaf .anyChar) (.leaf (.char ';')))) := by
    refine .joining trivial ?_
    simp only [Expr.members, List.mem_cons, List.not_mem_nil, or_false, forall_eq_or_imp,
      forall_eq]
    refine ⟨.joining trivial ?_, .scan (.leaf trivial)⟩
    simp only [Expr.members, List.mem_singleton, forall_eq]
    exact .leaf trivial
  have haligned : (⟨['x', 'é', 'a', 'b', ';'], 1⟩ : Cursor).Aligned :=
    ⟨['x'], ['é', 'a', 'b', ';'], rfl, rfl⟩
  have hrun : parser [] 4 (.pair (.optional (.leaf (.char 'é')))
      (.scan ⟨.afterContent, false⟩ (.leaf .anyChar) (.leaf (.char ';'))))
      ⟨['x', 'é', 'a', 'b', ';'], 1⟩
        = .ok ⟨.matched (.tuple [.presence (.present (.char 'é')), .list [.char 'a', .char 'b']]),
            5, []⟩ := rfl
  exact ⟨hfaithful, haligned, hrun, slice_eq_text hfaithful haligned hrun rfl⟩

end Grammar

end Backtrack
