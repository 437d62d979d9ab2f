import Mathlib.Data.List.Forall2
import Backtrack.Proofs.Parts
import Backtrack.Proofs.Peg
import Backtrack.Proofs.Refusal
import Backtrack.Proofs.Token

/-!
# Descriptions as parsing expressions

Descriptions that read characters and texts one after the other, choose in order, repeat without
end and look ahead are parsing expressions once their values are erased (`Expr.peg?`). Wherever
the items of their repetitions move the cursor, they do on each text what the relation of parsing
expressions derives for it, no more and no less (`Grammar.runs_as_peg`).
-/

namespace Backtrack

/-- The reply of a parser between `seen` and `rest` tells what the expression makes of `rest`. -/
def Reply.Tells {α : Type} (P : Peg) (seen rest : Text) (r : Reply α) : Prop :=
  match r.outcome with
  | .matched _ => ∃ a b, rest = a ++ b ∧ r.stop = (seen ++ a).byteSize ∧ P.Derives rest (some a)
  | .missed => P.Derives rest none
  | .failed _ => False

namespace Reply.Tells

variable {α : Type} {P : Peg} {seen rest : Text} {r : Reply α}

theorem ne_failed (h : r.Tells P seen rest) (e : ParseError) : r.outcome ≠ .failed e := by
  rcases r with ⟨v | _ | e', n, log⟩
  · simp
  · simp
  · exact h.elim

theorem match_iff (h : r.Tells P seen rest) (stop : Nat) :
    r.outcome.isMatch = true ∧ r.stop = stop ↔
      ∃ a, (seen ++ rest).slice seen.byteSize stop = .ok a ∧ P.Derives rest (some a) := by
  rcases r with ⟨v | _ | e, n, log⟩
  · obtain ⟨a, b, rfl, rfl, hd⟩ := h
    rw [Text.byteSize_append]
    constructor
    · rintro ⟨-, rfl⟩
      exact ⟨a, Text.slice_append seen a b, hd⟩
    · rintro ⟨a', hslice, hd'⟩
      cases hd.deterministic hd'
      obtain ⟨seen', -, -, hseen, rfl⟩ := Text.slice_eq_ok hslice
      exact ⟨rfl, by rw [hseen]⟩
  · constructor
    · rintro ⟨hm, -⟩
      cases hm
    · rintro ⟨a, -, hd⟩
      cases Peg.Derives.deterministic h hd
  · exact h.elim

theorem missed_iff (h : r.Tells P seen rest) : r.outcome = .missed ↔ P.Derives rest none := by
  rcases r with ⟨v | _ | e, n, log⟩
  · obtain ⟨a, b, -, -, hd⟩ := h
    constructor
    · intro hm
      cases hm
    · intro hd'
      cases hd.deterministic hd'
  · exact ⟨fun _ => h, fun _ => rfl⟩
  · exact h.elim

end Reply.Tells

/-- The harvest of a repetition between `seen` and `rest` tells what the expression of the item
makes of `rest`, one or more times. -/
def Harvest.Tells {α : Type} (P : Peg) (seen rest : Text) (h : Harvest α) : Prop :=
  h.error = none ∧
    (h.items = [] ∧ h.stop = seen.byteSize ∧ P.Derives rest none
      ∨ h.items ≠ [] ∧ ∃ a b, rest = a ++ b ∧ h.stop = (seen ++ a).byteSize
        ∧ P.plus.Derives rest (some a))

/-- However many items there are, the harvest is what a star consumes. -/
theorem Harvest.Tells.exists_star {α : Type} {P : Peg} {seen rest : Text} {h : Harvest α}
    (hh : h.Tells P seen rest) :
    ∃ a b, rest = a ++ b ∧ h.stop = (seen ++ a).byteSize ∧ (Peg.star P).Derives rest (some a) := by
  rcases hh.2 with ⟨-, hstop, hd⟩ | ⟨-, a, b, hrest, hstop, hd⟩
  · exact ⟨[], rest, rfl, by simpa using hstop, .star_done hd⟩
  · exact ⟨a, b, hrest, hstop, hd.star_of_plus⟩

namespace Parser

variable {α β : Type} {P Q : Peg} {bound : Nat}

/-- On every text shorter than the bound, the parser returns and tells what the expression makes of
the text. -/
def Realizes (P : Peg) (bound : Nat) (p : Parser α) : Prop :=
  ∀ seen rest : Text, rest.length < bound →
    Run.Meets (fun _ => False) (Reply.Tells P seen rest) (p (.between seen rest))

/-- The parser matches in place. -/
def Stands (p : Parser α) : Prop := ∀ c, ∃ a log, p c = .ok ⟨.matched a, c.pos, log⟩

/-- From a boundary, the parser does not match without moving the cursor. -/
def Moves (p : Parser α) : Prop :=
  ∀ c : Cursor, c.Aligned → ∀ r, p c = .ok r → r.outcome.isMatch = true → r.stop ≠ c.pos

theorem stands_succeed (a : α) : (succeed a).Stands := fun _ => ⟨a, [], rfl⟩

theorem stands_position : position.Stands := fun c => ⟨c.pos, [], rfl⟩

theorem stands_textSince (start : Nat) : (textSince start).Stands := by
  intro c
  obtain ⟨t, ht⟩ := c.exists_slice_eq_ok start c.pos
  exact ⟨t, [], by rw [textSince, ht]; rfl⟩

theorem Stands.bind {p : Parser α} {next : α → Parser β} (hp : p.Stands)
    (hn : ∀ a, (next a).Stands) : (p >>= next).Stands := by
  intro c
  obtain ⟨a, log, h⟩ := hp c
  obtain ⟨b, log', h'⟩ := hn a c
  refine ⟨b, log ++ log', ?_⟩
  show Parser.bind p next c = _
  rw [Parser.bind, h, Run.ok_bind]
  dsimp only
  rw [Cursor.moveTo_pos, h']
  rfl

theorem Moves.map {p : Parser α} (hp : p.Moves) (f : α → β) : (p.map f).Moves := by
  intro c hc r hr hm
  rcases h : p c with e | s
  · rw [Parser.map, h] at hr
    cases hr
  · rw [Parser.map, h] at hr
    cases hr
    refine hp c hc s h ?_
    rcases s with ⟨a | _ | e, n, log⟩
    · rfl
    · exact hm
    · exact hm

/-! ## Sequences -/

theorem realizes_succeed (a : α) : (succeed a).Realizes .empty bound :=
  fun _ rest _ => ⟨[], rest, rfl, by simp, .empty⟩

theorem realizes_miss : (miss : Parser α).Realizes .fail bound :=
  fun _ _ _ => .not_match .empty

theorem Realizes.map {p : Parser α} (hp : p.Realizes P bound) (f : α → β) :
    (p.map f).Realizes P bound := by
  intro seen rest hlen
  unfold Parser.map
  refine Run.Meets.bind (hp seen rest hlen) fun r hr => ?_
  rcases r with ⟨a | _ | e, n, log⟩ <;> exact hr

theorem Realizes.attempt {p : Parser α} (hp : p.Realizes P bound) : p.attempt.Realizes P bound := by
  intro seen rest hlen
  unfold Parser.attempt
  refine Run.Meets.bind (hp seen rest hlen) fun r hr => ?_
  rcases r with ⟨a | _ | e, n, log⟩ <;> exact hr

theorem Realizes.noting {p : Parser α} (hp : p.Realizes P bound) (onMiss onError : Nat → Record) :
    (p.noting onMiss onError).Realizes P bound := by
  intro seen rest hlen
  unfold Parser.noting
  refine Run.Meets.bind (hp seen rest hlen) fun r hr => ?_
  rcases r with ⟨a | _ | e, n, log⟩ <;> exact hr

theorem Realizes.bind_stands {p : Parser α} {next : α → Parser β} (hp : p.Realizes P bound)
    (hn : ∀ a, (next a).Stands) : (p >>= next).Realizes P bound := by
  intro seen rest hlen
  refine Run.Meets.bind (hp seen rest hlen) fun r hr => ?_
  rcases r with ⟨a | _ | e, n, log⟩
  · obtain ⟨b, log', h⟩ := hn a ((Cursor.between seen rest).moveTo n)
    dsimp only
    rw [h]
    exact hr
  · exact hr
  · exact hr

theorem Stands.bind_realizes {p : Parser α} {next : α → Parser β} (hp : p.Stands)
    (hn : ∀ a, (next a).Realizes P bound) : (p >>= next).Realizes P bound := by
  intro seen rest hlen
  obtain ⟨a, log, h⟩ := hp (.between seen rest)
  show Run.Meets _ _ (Parser.bind p next _)
  rw [Parser.bind, h, Run.ok_bind]
  refine Run.Meets.bind (hn a seen rest hlen) fun r hr => ?_
  rcases r with ⟨b | _ | e, n, log'⟩ <;> exact hr

theorem Realizes.bind {p : Parser α} {next : α → Parser β} (hp : p.Realizes P bound)
    (hn : ∀ a, (next a).Realizes Q bound) : (p >>= next).Realizes (.seq P Q) bound := by
  intro seen rest hlen
  refine Run.Meets.bind (hp seen rest hlen) fun r hr => ?_
  rcases r with ⟨v | _ | e, n, log⟩
  · obtain ⟨a, b, rfl, rfl, hd⟩ := hr
    dsimp only
    rw [Cursor.moveTo_between]
    have hshort : b.length < bound := by
      rw [List.length_append] at hlen
      omega
    refine Run.Meets.bind (hn v (seen ++ a) b hshort) fun s hs => ?_
    rcases s with ⟨w | _ | e, m, log'⟩
    · obtain ⟨a', b', rfl, rfl, hd'⟩ := hs
      exact ⟨a ++ a', b', by simp, by simp [Reply.after], .seq rfl hd hd'⟩
    · exact .seq_right rfl hd hs
    · exact hs
  · exact .seq_left hr
  · exact hr

theorem Realizes.pair {p : Parser α} {q : Parser β} (hp : p.Realizes P bound)
    (hq : q.Realizes Q bound) : (pair p q).Realizes (.seq P Q) bound := by
  unfold Parser.pair
  refine .attempt (.bind hp fun a => ?_)
  exact .bind_stands hq fun b => stands_succeed (a, b)

theorem realizes_each {Ps : List Peg} {ps : List (Parser α)}
    (h : List.Forall₂ (fun P p => Realizes P bound p) Ps ps) :
    (each ps).Realizes (.row Ps) bound := by
  induction h with
  | nil => exact realizes_succeed []
  | cons hp _ ih =>
    refine .bind hp fun a => ?_
    exact .bind_stands ih fun as => stands_succeed (a :: as)

theorem Realizes.recognize {p : Parser α} (hp : p.Realizes P bound) :
    p.recognize.Realizes P bound := by
  unfold Parser.recognize
  refine .attempt (stands_position.bind_realizes fun start => ?_)
  exact .bind_stands hp fun _ => stands_textSince start

theorem Realizes.spanned {p : Parser α} (hp : p.Realizes P bound) :
    p.spanned.Realizes P bound := by
  unfold Parser.spanned
  refine .attempt (stands_position.bind_realizes fun start => .bind_stands hp fun a => ?_)
  exact (stands_textSince start).bind fun t => stands_succeed (a, t)

/-! ## Choices and lookahead -/

theorem Realizes.orElse {p q : Parser α} (hp : p.Realizes P bound) (hq : q.Realizes Q bound) :
    (orElse p q).Realizes (.choice P Q) bound := by
  intro seen rest hlen
  unfold Parser.orElse
  refine Run.Meets.bind (hp seen rest hlen) fun r hr => ?_
  rcases r with ⟨v | _ | e, n, log⟩
  · obtain ⟨a, b, hrest, hn, hd⟩ := hr
    exact ⟨a, b, hrest, hn, .choice_left hd⟩
  · dsimp only
    rw [(Cursor.aligned_between seen rest).moveTo_home]
    refine Run.Meets.bind (hq seen rest hlen) fun s hs => ?_
    rcases s with ⟨w | _ | e, m, log'⟩
    · obtain ⟨a, b, hrest, hm, hd⟩ := hs
      exact ⟨a, b, hrest, hm, .choice_right hr hd⟩
    · exact .choice_right hr hs
    · exact hs
  · exact hr

theorem realizes_first {Ps : List Peg} {ps : List (Parser α)}
    (h : List.Forall₂ (fun P p => Realizes P bound p) Ps ps) :
    (first ps).Realizes (.first Ps) bound := by
  induction h with
  | nil => exact realizes_miss
  | cons hp _ ih => exact .orElse hp ih

theorem Realizes.optional {p : Parser α} (hp : p.Realizes P bound) :
    p.optional.Realizes P.optional bound := by
  intro seen rest hlen
  unfold Parser.optional
  refine Run.Meets.bind (hp seen rest hlen) fun r hr => ?_
  rcases r with ⟨v | _ | e, n, log⟩
  · obtain ⟨a, b, hrest, hn, hd⟩ := hr
    exact ⟨a, b, hrest, hn, .choice_left hd⟩
  · exact ⟨[], rest, rfl, by simp, .choice_right hr .empty⟩
  · exact hr

theorem Realizes.peek {p : Parser α} (hp : p.Realizes P bound) :
    p.peek.Realizes P.peek bound := by
  intro seen rest hlen
  unfold Parser.peek
  refine Run.Meets.bind (hp seen rest hlen) fun r hr => ?_
  rcases r with ⟨v | _ | e, n, log⟩
  · obtain ⟨a, b, -, -, hd⟩ := hr
    exact ⟨[], rest, rfl, by simp, .not_miss (.not_match hd)⟩
  · exact .not_match (.not_miss hr)
  · exact hr

theorem Realizes.not {p : Parser α} (hp : p.Realizes P bound) :
    p.not.Realizes (.not P) bound := by
  intro seen rest hlen
  unfold Parser.not
  refine Run.Meets.bind (hp seen rest hlen) fun r hr => ?_
  rcases r with ⟨v | _ | e, n, log⟩
  · obtain ⟨a, b, -, -, hd⟩ := hr
    exact .not_match hd
  · exact ⟨[], rest, rfl, by simp, .not_miss hr⟩
  · exact hr

/-! ## Repetitions -/

/-- Each item takes a character at least, so the rounds are not spent before the text is. -/
theorem Realizes.collect {item : Parser α} (hp : item.Realizes P bound) (hmoves : item.Moves)
    (min : Nat) : ∀ (rounds count : Nat) (seen rest : Text), rest.length < rounds →
      rest.length < bound → Run.Meets (fun _ => False) (Harvest.Tells P seen rest)
        (collect rounds min (fun _ => true) item count (.between seen rest)) := by
  intro rounds
  induction rounds with
  | zero => exact fun count seen rest hr _ => absurd hr (Nat.not_lt_zero _)
  | succ rounds ih =>
    intro count seen rest hrounds hlen
    obtain ⟨r, hrun, hr⟩ := Run.meets_false_iff.1 (hp seen rest hlen)
    have hstop := hmoves _ (Cursor.aligned_between seen rest) r hrun
    rcases r with ⟨v | _ | e, n, log⟩
    · obtain ⟨a, b, rfl, rfl, hd⟩ := hr
      have hne : (seen ++ a).byteSize ≠ (Cursor.between seen (a ++ b)).pos := hstop rfl
      rw [collect_of_matched rfl hrun fun h => hne h.1, Cursor.moveTo_between]
      have hpos : a ≠ [] := by
        rintro rfl
        exact hne (by simp)
      have hshort : b.length < rounds ∧ b.length < bound := by
        have := List.length_pos_iff.2 hpos
        rw [List.length_append] at hlen hrounds
        omega
      refine Run.Meets.map (ih (count + 1) (seen ++ a) b hshort.1 hshort.2) fun h hh => ?_
      obtain ⟨a', b', rfl, hstop', hd'⟩ := hh.exists_star
      refine ⟨hh.1, .inr ⟨List.cons_ne_nil _ _, a ++ a', b', by simp, ?_, .seq rfl hd hd'⟩⟩
      rw [← List.append_assoc]
      exact hstop'
    · rw [collect_of_missed rfl hrun]
      exact ⟨rfl, .inl ⟨rfl, Cursor.home_between seen rest, hr⟩⟩
    · exact hr.elim

theorem Realizes.zeroOrMore {item : Parser α} (hp : item.Realizes P bound) (hmoves : item.Moves) :
    (zeroOrMore bound item).Realizes (.star P) bound := by
  intro seen rest hlen
  unfold Parser.zeroOrMore Parser.atLeast Parser.repeatWhile
  refine Run.Meets.bind (hp.collect hmoves 0 bound 0 seen rest hlen hlen) fun h hh => ?_
  rw [hh.1]
  dsimp only
  rw [if_pos (by simp)]
  exact hh.exists_star

theorem Realizes.oneOrMore {item : Parser α} (hp : item.Realizes P bound) (hmoves : item.Moves) :
    (oneOrMore bound item).Realizes P.plus bound := by
  intro seen rest hlen
  unfold Parser.oneOrMore Parser.atLeast Parser.repeatWhile
  refine Run.Meets.bind (hp.collect hmoves 1 bound 0 seen rest hlen hlen) fun h hh => ?_
  rw [hh.1]
  rcases hh.2 with ⟨hitems, -, hd⟩ | ⟨hitems, htells⟩
  · rw [hitems]
    exact .seq_left hd
  · have hcount : 1 ≤ h.items.length := List.length_pos_iff.2 hitems
    dsimp only
    rw [if_pos (by simpa using hcount)]
    exact htells

/-! ## Characters and texts -/

theorem realizes_charWhere (accept : Char → Bool) :
    (charWhere accept).Realizes (.one accept) bound := by
  intro seen rest _
  rcases rest with _ | ⟨ch, rest⟩
  · rw [charWhere_nil]
    exact .one_end
  · rw [charWhere_cons]
    split_ifs with h
    · exact ⟨[ch], rest, rfl, rfl, .one h⟩
    · exact .one_other (by simpa using h)

theorem moves_charWhere (accept : Char → Bool) : (charWhere accept).Moves := by
  intro c hc r hr hm
  obtain ⟨seen, rest, rfl⟩ := hc.exists_between
  rcases rest with _ | ⟨ch, rest⟩
  · rw [charWhere_nil] at hr
    cases hr
    cases hm
  · rw [charWhere_cons] at hr
    split_ifs at hr
    · cases hr
      have := Char.utf8Size_pos ch
      show (seen ++ [ch]).byteSize ≠ seen.byteSize
      rw [Text.byteSize_append, Text.byteSize]
      omega
    · cases hr
      cases hm

theorem realizes_anyChar : anyChar.Realizes (.one fun _ => true) bound := by
  intro seen rest hlen
  rw [anyChar_between]
  exact realizes_charWhere _ seen rest hlen

theorem realizes_eof : eof.Realizes (.not (.one fun _ => true)) bound := by
  intro seen rest _
  rcases rest with _ | ⟨ch, rest⟩
  · rw [eof_nil]
    exact ⟨[], [], rfl, by simp, .not_miss .one_end⟩
  · rw [eof_cons]
    exact .not_match (.one rfl)

theorem realizes_literal (t : Text) : (literal t).Realizes (.text t) bound := by
  intro seen rest _
  rcases literalBy_cases (· == ·) t seen rest with ⟨a, b, rfl, -, hs, h⟩ | ⟨hmiss, h⟩
  · obtain rfl : a = t := by simpa using hs
    rw [literal, h]
    exact ⟨a, b, rfl, rfl, .text a b⟩
  · rw [literal, h]
    refine .text_none fun b hb => ?_
    have := hmiss t b hb rfl
    simp at this

end Parser

/-! ## Leaves and descriptions -/

/-- The parsing expression of a leaf that reads a character or a text or asks for the end. -/
def Leaf.peg? : Leaf → Option Peg
  | eof => some (.not (.one fun _ => true))
  | anyChar => some (.one fun _ => true)
  | char c => some (.one (· == c))
  | charIn set => some (.one fun c => set.contains c)
  | charNotIn set => some (.one fun c => !set.contains c)
  | charWhere ranges => some (.one (inRanges ranges))
  | literal t => some (.text t)
  | _ => none

theorem Leaf.realizes {l : Leaf} {P : Peg} (h : l.peg? = some P) (rounds bound : Nat) :
    (l.parser rounds).Realizes P bound := by
  cases l with
  | eof =>
    cases h
    exact Parser.realizes_eof.map _
  | anyChar =>
    cases h
    exact Parser.realizes_anyChar.map _
  | char | charIn | charNotIn | charWhere =>
    cases h
    exact (Parser.realizes_charWhere _).map _
  | literal t =>
    cases h
    exact (Parser.realizes_literal t).map _
  | _ => cases h

namespace Expr

mutual

/-- The parsing expression of a description, if it is one with its values erased. -/
def peg? : Expr → Option Peg
  | leaf l => l.peg?
  | map _ e => e.peg?
  | withValue _ e => e.peg?
  | recognize e => e.peg?
  | spanned e => e.peg?
  | shared e => e.peg?
  | erased e => e.peg?
  | optional e => e.peg?.map .optional
  | peek e => e.peg?.map .peek
  | not e => e.peg?.map .not
  | pair e f => return .seq (← e.peg?) (← f.peg?)
  | or e f => return .choice (← e.peg?) (← f.peg?)
  | seq es => (pegs? es).map .row
  | all _ es => (pegs? es).map .row
  | any _ es => (pegs? es).map .first
  | repeated .zeroOrMore e => e.peg?.map .star
  | repeated .oneOrMore e => e.peg?.map .plus
  | _ => none

def pegs? : List Expr → Option (List Peg)
  | [] => some []
  | e :: es => return (← e.peg?) :: (← pegs? es)

end

variable {call : String → Parser Value} {rounds bound : Nat}

theorem forall₂_pegs : ∀ {es : List Expr} {Ps : List Peg}, pegs? es = some Ps →
    (∀ d ∈ es, ∀ P, d.peg? = some P → (d.parser call rounds).Realizes P bound) →
    List.Forall₂ (fun P p => Parser.Realizes P bound p) Ps (parsers call rounds es)
  | [], _, h, _ => by
    cases h
    exact .nil
  | e :: es, _, h, hes => by
    simp only [pegs?, Option.bind_eq_bind, Option.bind_eq_some_iff, Option.pure_def,
      Option.some.injEq] at h
    obtain ⟨P, hP, Ps, hPs, rfl⟩ := h
    exact .cons (hes e List.mem_cons_self P hP)
      (forall₂_pegs hPs fun d hd => hes d (List.mem_cons_of_mem e hd))

/-- A description realizes its parsing expression as its members realize theirs. -/
theorem realizes {e : Expr} {P : Peg} (h : e.peg? = some P)
    (hmember : ∀ d ∈ e.members, ∀ Q, d.peg? = some Q → (d.parser call bound).Realizes Q bound)
    (hmoves : ∀ q d, e = repeated q d → (d.parser call bound).Moves) :
    (e.parser call bound).Realizes P bound := by
  cases e with
  | leaf l => exact Leaf.realizes h bound bound
  | map f e | withValue t e => exact (hmember e (by simp [members]) P h).map _
  | shared e | erased e => exact hmember e (by simp [members]) P h
  | recognize e => exact (hmember e (by simp [members]) P h).recognize.map _
  | spanned e => exact (hmember e (by simp [members]) P h).spanned.map _
  | optional e =>
    obtain ⟨Q, hQ, rfl⟩ := Option.map_eq_some_iff.1 h
    exact (hmember e (by simp [members]) Q hQ).optional.map _
  | peek e =>
    obtain ⟨Q, hQ, rfl⟩ := Option.map_eq_some_iff.1 h
    exact (hmember e (by simp [members]) Q hQ).peek
  | not e =>
    obtain ⟨Q, hQ, rfl⟩ := Option.map_eq_some_iff.1 h
    exact (hmember e (by simp [members]) Q hQ).not.map _
  | pair e f =>
    simp only [peg?, Option.bind_eq_bind, Option.bind_eq_some_iff, Option.pure_def,
      Option.some.injEq] at h
    obtain ⟨Q, hQ, R, hR, rfl⟩ := h
    exact (Parser.Realizes.pair (hmember e (by simp [members]) Q hQ)
      (hmember f (by simp [members]) R hR)).map _
  | or e f =>
    simp only [peg?, Option.bind_eq_bind, Option.bind_eq_some_iff, Option.pure_def,
      Option.some.injEq] at h
    obtain ⟨Q, hQ, R, hR, rfl⟩ := h
    exact (Parser.Realizes.orElse ((hmember e (by simp [members]) Q hQ).map _)
      ((hmember f (by simp [members]) R hR).map _).attempt).map _
  | seq es =>
    obtain ⟨Ps, hPs, rfl⟩ := Option.map_eq_some_iff.1 h
    exact ((Parser.realizes_each (forall₂_pegs hPs hmember)).attempt.noting _ _).map _
  | any container es =>
    obtain ⟨Ps, hPs, rfl⟩ := Option.map_eq_some_iff.1 h
    rw [parser, Parser.any, Container.members_family]
    exact Parser.realizes_first (forall₂_pegs hPs hmember)
  | all container es =>
    obtain ⟨Ps, hPs, rfl⟩ := Option.map_eq_some_iff.1 h
    rw [parser, Parser.all, Container.members_family]
    exact (Parser.realizes_each (forall₂_pegs hPs hmember)).attempt.map _
  | repeated quantity e =>
    have hitem := hmoves quantity e rfl
    cases quantity with
    | zeroOrMore =>
      obtain ⟨Q, hQ, rfl⟩ := Option.map_eq_some_iff.1 h
      exact ((hmember e (by simp [members]) Q hQ).zeroOrMore hitem).map _
    | oneOrMore =>
      obtain ⟨Q, hQ, rfl⟩ := Option.map_eq_some_iff.1 h
      exact ((hmember e (by simp [members]) Q hQ).oneOrMore hitem).map _
    | _ => cases h
  | _ => cases h

end Expr

namespace Grammar

variable {g : Grammar} {budget : Nat}

/-- With any budget, the description does not match without moving the cursor. -/
def Moves (g : Grammar) (e : Expr) : Prop := ∀ budget, (g.parser budget e).Moves

theorem parser_realizes {e : Expr} {P : Peg} (he : e.peg? = some P)
    (hmoves : ∀ q d, g.Part e (.repeated q d) → g.Moves d) :
    (g.parser budget e).Realizes P budget := by
  induction e using Expr.members_induction generalizing P with
  | step e ih =>
    refine Expr.realizes he (fun d hd Q hQ => ih d hd hQ fun q b hb => ?_) ?_
    · exact hmoves q b (.member hd hb)
    · rintro q d rfl
      exact hmoves q d (.self _) budget

/-- A description runs as its parsing expression, given a budget beyond the text in front: it does
not report an error, it matches exactly what the expression consumes, and it misses exactly where
the expression fails. -/
theorem runs_as_peg {e : Expr} {P : Peg} (he : e.peg? = some P)
    (hmoves : ∀ q d, g.Part e (.repeated q d) → g.Moves d) {c : Cursor} (hc : c.Aligned)
    {rest : Text} (hrest : c.remaining = .ok rest) (hbudget : rest.length < budget) :
    ∃ r, g.parser budget e c = .ok r
      ∧ (∀ error, r.outcome ≠ .failed error)
      ∧ (∀ stop, r.outcome.isMatch = true ∧ r.stop = stop ↔
          ∃ a, c.text.slice c.pos stop = .ok a ∧ P.Derives rest (some a))
      ∧ (r.outcome = .missed ↔ P.Derives rest none) := by
  obtain ⟨seen, rest', rfl⟩ := hc.exists_between
  rw [Cursor.remaining_between] at hrest
  cases hrest
  obtain ⟨r, hr, htells⟩ := Run.meets_false_iff.1 (parser_realizes he hmoves seen rest hbudget)
  exact ⟨r, hr, htells.ne_failed, htells.match_iff, htells.missed_iff⟩

/-- Behind a letter of two bytes, a repetition reads the two letters in front of another one. -/
theorem runs_as_peg_letters :
    (∀ q d, Part [] (.repeated .zeroOrMore (.leaf (.char 'a'))) (.repeated q d) → Moves [] d)
      ∧ parser [] 4 (.repeated .zeroOrMore (.leaf (.char 'a'))) ⟨['é', 'a', 'a', 'b'], 2⟩
        = .ok ⟨.matched (.list [.char 'a', .char 'a']), 4, []⟩
      ∧ (Peg.star (.one (· == 'a'))).Derives ['a', 'a', 'b'] (some ['a', 'a']) := by
  have hmoves : ∀ q d, Part [] (.repeated .zeroOrMore (.leaf (.char 'a'))) (.repeated q d) →
      Moves [] d := by
    intro q d h
    rw [part_iff] at h
    simp only [Expr.members, List.mem_singleton, exists_eq_left, part_leaf, reduceCtorEq,
      false_and, exists_false, or_false, Expr.repeated.injEq] at h
    obtain ⟨-, rfl⟩ := h
    exact fun _ => (Parser.moves_charWhere _).map _
  have hrun : parser [] 4 (.repeated .zeroOrMore (.leaf (.char 'a'))) ⟨['é', 'a', 'a', 'b'], 2⟩
      = .ok ⟨.matched (.list [.char 'a', .char 'a']), 4, []⟩ := rfl
  have haligned : (⟨['é', 'a', 'a', 'b'], 2⟩ : Cursor).Aligned :=
    ⟨['é'], ['a', 'a', 'b'], rfl, rfl⟩
  have hbudget : ['a', 'a', 'b'].length < 4 := by decide
  obtain ⟨r, hr, -, hmatch, -⟩ := runs_as_peg rfl hmoves haligned rfl hbudget
  rw [hrun] at hr
  cases hr
  obtain ⟨a, hslice, hd⟩ := (hmatch 4).1 ⟨rfl, rfl⟩
  cases hslice
  exact ⟨hmoves, hrun, hd⟩

end Grammar

end Backtrack
