import Mathlib.Tactic.Choose
import Backtrack.Proofs.Dialogue
import Backtrack.Proofs.PairTree
import Backtrack.Proofs.Token

/-!
# Runs as dialogues

Every combinator asks its members one after the other and ends with the first error it gets. So
where the members of a combinator are dialogues with their sites in which an error is the last word
(`Parser.Conducts`), the combinator is such a dialogue as well.
-/

namespace Backtrack

namespace Reply

variable {α : Type}

/-- The reply with its error replaced by an image. -/
def mapError (f : ParseError → ParseError) (r : Reply α) : Reply α :=
  match r.outcome with
  | .failed e => { r with outcome := .failed (f e) }
  | _ => r

theorem error?_mapError (f : ParseError → ParseError) (r : Reply α) :
    (r.mapError f).error? = r.error?.map f := by
  rcases r with ⟨a | _ | e, n, log⟩ <;> rfl

end Reply

theorem Parser.mapError_eq_map {α : Type} (f : ParseError → ParseError) (p : Parser α)
    (c : Cursor) : p.mapError f c = Reply.mapError f <$> p c := by
  rw [mapError]
  rcases p c with e | ⟨a | _ | e, n, log⟩ <;> rfl

/-- For every oracle the run is the dialogue with it; the dialogue settles or, after an error, is at
its end with the error. -/
def Conducted {α : Type} (A : Site → List Layer → Prop) (err : α → Option ParseError)
    (e? : Option ParseError) (x : Oracle → Run α) : Prop :=
  ∃ t : Dialogue α, (∀ o, x o = t.answer o) ∧ t.Follows A err e?

namespace Conducted

variable {α β : Type} {A B : Site → List Layer → Prop} {err : α → Option ParseError}
  {err' : β → Option ParseError} {e? : Option ParseError} {x : Oracle → Run α}

/-- An answer that is already there, with its error. -/
theorem ok (a : α) : Conducted A err (err a) fun _ => .ok a := by
  refine ⟨.done (.ok a), fun _ => rfl, ?_⟩
  rcases h : err a with _ | e
  · rintro _ ⟨rfl⟩
    exact h
  · exact ⟨a, rfl, h⟩

theorem silent {y : Run α} (h : ∀ a, y = .ok a → err a = none) :
    Conducted A err none fun _ => y :=
  ⟨.done y, fun _ => rfl, h⟩

theorem ask {s : Site} (c : Cursor) (h : A s []) :
    Conducted A Reply.error? none fun o => o s c := by
  refine ⟨.ask s c [] fun r => .done (.ok r), fun o => ?_, h, fun r hr => ?_, fun r e he => ?_⟩
  · show o s c = _
    rcases hr : o s c with f | r
    · exact (Dialogue.answer_ask_of_error _ _ hr).symm
    · rw [Dialogue.answer_ask_of_ok _ _ hr]
      rfl
  · rintro _ ⟨rfl⟩
    exact hr
  · exact ⟨r, rfl, he⟩

theorem imp (h : ∀ s layers, A s layers → B s layers) (hx : Conducted A err none x) :
    Conducted B err none x := by
  obtain ⟨t, ht, hsettles⟩ := hx
  exact ⟨t, ht, hsettles.imp h⟩

theorem bind (hx : Conducted A err e? x) {next : α → Oracle → Run β}
    (hn : ∀ a, Conducted A err' (err a) (next a)) :
    Conducted A err' e? fun o => x o >>= fun a => next a o := by
  obtain ⟨t, ht, hfollows⟩ := hx
  choose u hu hufollows using hn
  refine ⟨t.bind u, fun o => ?_, ?_⟩
  · simp only [Dialogue.answer_bind, ht, hu]
  · rcases e? with _ | e
    · exact hfollows.bind hufollows
    · obtain ⟨a, rfl, ha⟩ := hfollows
      have hua := hufollows a
      rw [ha] at hua
      exact hua

theorem within {layer : Layer} {f : α → β}
    (hB : ∀ s layers, A s layers → B s (layers ++ [layer]))
    (hf : ∀ a, err' (f a) = (err a).map layer.apply) (hx : Conducted A err none x) :
    Conducted B err' none fun o => f <$> x o := by
  obtain ⟨t, ht, hsettles⟩ := hx
  refine ⟨t.within layer f, fun o => ?_, hsettles.within hB hf⟩
  simp only [Dialogue.answer_within, ht]

end Conducted

namespace Parser

variable {α β : Type} {A B : Site → List Layer → Prop}

/-- The parser asks its sites in a dialogue, whatever answers there. -/
def Conducts (A : Site → List Layer → Prop) (p : Oracle → Parser α) : Prop :=
  ∀ c, Conducted A Reply.error? none fun o => p o c

theorem conducts_site {s : Site} (h : A s []) : Conducts A fun o => o s := fun c => .ask c h

theorem Conducts.imp {p : Oracle → Parser α} (h : ∀ s layers, A s layers → B s layers)
    (hp : Conducts A p) : Conducts B p :=
  fun c => (hp c).imp h

theorem conducts_succeed (a : α) : Conducts A fun _ => succeed a := fun _ => .ok _

theorem conducts_miss : Conducts A fun _ => (miss : Parser α) := fun _ => .ok _

theorem conducts_position : Conducts A fun _ => position := fun _ => .ok _

theorem conducts_textSince (start : Nat) : Conducts A fun _ => textSince start := by
  intro c
  obtain ⟨t, ht⟩ := c.exists_slice_eq_ok start c.pos
  refine .silent ?_
  rw [textSince, ht]
  rintro _ ⟨rfl⟩
  rfl

theorem Conducts.bind {p : Oracle → Parser α} {next : α → Oracle → Parser β} (hp : Conducts A p)
    (hn : ∀ a, Conducts A (next a)) : Conducts A fun o => p o >>= fun a => next a o := by
  intro c
  refine (hp c).bind fun r => ?_
  rcases r with ⟨a | _ | e, n, log⟩
  · refine (hn a (c.moveTo n)).bind fun s => ?_
    exact .ok (s.after log)
  · exact .ok _
  · exact .ok _

theorem Conducts.map {p : Oracle → Parser α} (hp : Conducts A p) (f : α → β) :
    Conducts A fun o => (p o).map f := by
  intro c
  unfold Parser.map
  refine (hp c).bind fun r => ?_
  rcases r with ⟨a | _ | e, n, log⟩ <;> exact .ok _

theorem Conducts.attempt {p : Oracle → Parser α} (hp : Conducts A p) :
    Conducts A fun o => (p o).attempt := by
  intro c
  unfold Parser.attempt
  refine (hp c).bind fun r => ?_
  rcases r with ⟨a | _ | e, n, log⟩ <;> exact .ok _

theorem Conducts.noting {p : Oracle → Parser α} (hp : Conducts A p)
    (onMiss onError : Nat → Record) : Conducts A fun o => (p o).noting onMiss onError := by
  intro c
  unfold Parser.noting
  refine (hp c).bind fun r => ?_
  rcases r with ⟨a | _ | e, n, log⟩ <;> exact .ok _

theorem Conducts.mapError {p : Oracle → Parser α} {layer : Layer}
    (hB : ∀ s layers, A s layers → B s (layers ++ [layer])) (hp : Conducts A p) :
    Conducts B fun o => (p o).mapError layer.apply := by
  intro c
  simp only [mapError_eq_map]
  exact (hp c).within hB (Reply.error?_mapError layer.apply)

/-! ## Sequences and choices -/

theorem Conducts.pair {p : Oracle → Parser α} {q : Oracle → Parser β} (hp : Conducts A p)
    (hq : Conducts A q) : Conducts A fun o => pair (p o) (q o) := by
  refine .attempt (.bind hp fun a => ?_)
  exact .bind hq fun b => conducts_succeed (a, b)

theorem conducts_each : ∀ {ps : List (Oracle → Parser α)}, (∀ p ∈ ps, Conducts A p) →
    Conducts A fun o => each (ps.map (· o))
  | [], _ => conducts_succeed []
  | p :: ps, h => by
    have hps : Conducts A fun o => each (ps.map (· o)) :=
      conducts_each fun q hq => h q (List.mem_cons_of_mem p hq)
    refine .bind (h p List.mem_cons_self) fun a => ?_
    exact .bind hps fun as => conducts_succeed (a :: as)

theorem Conducts.sequence {p : Oracle → Parser α} (hp : Conducts A p) :
    Conducts A fun o => (p o).sequence := by
  unfold Parser.sequence
  exact hp.attempt.noting _ _

theorem Conducts.orElse {p q : Oracle → Parser α} (hp : Conducts A p) (hq : Conducts A q) :
    Conducts A fun o => orElse (p o) (q o) := by
  intro c
  unfold Parser.orElse
  refine (hp c).bind fun r => ?_
  rcases r with ⟨a | _ | e, n, log⟩
  · exact .ok _
  · refine (hq (c.moveTo c.home)).bind fun s => ?_
    exact .ok (s.after log)
  · exact .ok _

theorem conducts_first : ∀ {ps : List (Oracle → Parser α)}, (∀ p ∈ ps, Conducts A p) →
    Conducts A fun o => first (ps.map (· o))
  | [], _ => conducts_miss
  | p :: ps, h => by
    have hps : Conducts A fun o => first (ps.map (· o)) :=
      conducts_first fun q hq => h q (List.mem_cons_of_mem p hq)
    exact .orElse (h p List.mem_cons_self) hps

theorem Conducts.or {p : Oracle → Parser α} {q : Oracle → Parser β} (hp : Conducts A p)
    (hq : Conducts A q) : Conducts A fun o => or (p o) (q o) := by
  unfold Parser.or
  exact .orElse (hp.map _) (.attempt (hq.map _))

theorem conducts_pairs : ∀ {t : PairTree (Oracle → Parser α)},
    (∀ p ∈ t.toList, Conducts A p) → Conducts A fun o => pairs (t.map (· o))
  | .leaf p, h => (h p (by simp [PairTree.toList])).map _
  | .node s t, h => by
    have hs : Conducts A fun o => pairs (s.map (· o)) :=
      conducts_pairs fun p hp => h p (by simp [PairTree.toList, hp])
    have ht : Conducts A fun o => pairs (t.map (· o)) :=
      conducts_pairs fun p hp => h p (by simp [PairTree.toList, hp])
    exact (hs.pair ht).map _

theorem conducts_choices : ∀ {t : PairTree (Oracle → Parser α)},
    (∀ p ∈ t.toList, Conducts A p) → Conducts A fun o => choices (t.map (· o))
  | .leaf p, h => h p (by simp [PairTree.toList])
  | .node s t, h => by
    have hs : Conducts A fun o => choices (s.map (· o)) :=
      conducts_choices fun p hp => h p (by simp [PairTree.toList, hp])
    have ht : Conducts A fun o => choices (t.map (· o)) :=
      conducts_choices fun p hp => h p (by simp [PairTree.toList, hp])
    exact .orElse hs (.orElse ht conducts_miss)

theorem conducts_chain {p : Oracle → Parser α} {ps : List (Oracle → Parser α)}
    (h : ∀ q ∈ p :: ps, Conducts A q) : Conducts A fun o => chain (p o) (ps.map (· o)) := by
  have htree : ∀ o, .balanced (p o) (ps.map (· o)) = (PairTree.balanced p ps).map (· o) :=
    fun o => (PairTree.map_balanced _ p ps).symm
  simp only [chain, treeSeq, htree, List.isEmpty_map, List.length_map]
  split_ifs
  · exact (conducts_pairs (by rwa [PairTree.toList_balanced])).map _
  · exact (conducts_each h).sequence

theorem conducts_choice {p : Oracle → Parser α} {ps : List (Oracle → Parser α)}
    (h : ∀ q ∈ p :: ps, Conducts A q) : Conducts A fun o => choice (p o) (ps.map (· o)) := by
  have htree : ∀ o, .balanced (p o) (ps.map (· o)) = (PairTree.balanced p ps).map (· o) :=
    fun o => (PairTree.map_balanced _ p ps).symm
  simp only [choice, htree]
  exact conducts_choices (by rwa [PairTree.toList_balanced])

/-! ## Looking ahead and loops -/

theorem Conducts.optional {p : Oracle → Parser α} (hp : Conducts A p) :
    Conducts A fun o => (p o).optional := by
  intro c
  unfold Parser.optional
  refine (hp c).bind fun r => ?_
  rcases r with ⟨a | _ | e, n, log⟩
  · exact .ok (⟨.matched (.present a), n, log⟩ : Reply (Presence α))
  · exact .ok (⟨.matched .absent, c.home, log⟩ : Reply (Presence α))
  · exact .ok (⟨.failed e, c.home, log⟩ : Reply (Presence α))

theorem Conducts.peek {p : Oracle → Parser α} (hp : Conducts A p) :
    Conducts A fun o => (p o).peek := by
  intro c
  unfold Parser.peek
  refine (hp c).bind fun r => ?_
  rcases r with ⟨a | _ | e, n, log⟩ <;> exact .ok _

theorem Conducts.not {p : Oracle → Parser α} (hp : Conducts A p) :
    Conducts A fun o => (p o).not := by
  intro c
  unfold Parser.not
  refine (hp c).bind fun r => ?_
  rcases r with ⟨a | _ | e, n, log⟩
  · exact .ok (⟨.missed, c.home, log⟩ : Reply Unit)
  · exact .ok (⟨.matched (), c.home, log⟩ : Reply Unit)
  · exact .ok (⟨.failed e, c.home, log⟩ : Reply Unit)

theorem Conducts.verify {p : Oracle → Parser α} (hp : Conducts A p) (test : α → Bool) :
    Conducts A fun o => (p o).verify test := by
  refine .attempt (.bind hp fun a => ?_)
  split_ifs
  · exact conducts_succeed a
  · exact conducts_miss

theorem Conducts.recognize {p : Oracle → Parser α} (hp : Conducts A p) :
    Conducts A fun o => (p o).recognize := by
  refine .attempt (.bind conducts_position fun start => ?_)
  exact .bind hp fun _ => conducts_textSince start

theorem Conducts.spanned {p : Oracle → Parser α} (hp : Conducts A p) :
    Conducts A fun o => (p o).spanned := by
  refine .attempt (.bind conducts_position fun start => .bind hp fun a => ?_)
  exact .bind (conducts_textSince start) fun t => conducts_succeed (a, t)

theorem Conducts.collect {item : Oracle → Parser α} (hp : Conducts A item) (min : Nat)
    (proceed : Nat → Bool) : ∀ (rounds count : Nat) (c : Cursor),
      Conducted A Harvest.error none fun o => collect rounds min proceed (item o) count c
  | 0, count, c => by
    simp only [Parser.collect]
    split_ifs
    · exact .silent fun _ h => by cases h
    · exact .ok _
  | rounds + 1, count, c => by
    simp only [Parser.collect]
    split_ifs
    · refine (hp c).bind fun r => ?_
      rcases r with ⟨a | _ | e, n, log⟩
      · dsimp only
        split_ifs
        · exact .ok (⟨[a], n, none, log⟩ : Harvest α)
        · refine (hp.collect min proceed rounds (count + 1) (c.moveTo n)).bind fun h => ?_
          exact .ok (h.cons a log)
      · exact .ok (⟨[], c.home, none, log⟩ : Harvest α)
      · exact .ok (⟨[], n, some e, log⟩ : Harvest α)
    · exact .ok _

theorem Conducts.repeatWhile {item : Oracle → Parser α} (hp : Conducts A item)
    (rounds min : Nat) (proceed : Nat → Bool) :
    Conducts A fun o => repeatWhile rounds min proceed (item o) := by
  intro c
  unfold Parser.repeatWhile
  refine (hp.collect min proceed rounds 0 c).bind fun h => ?_
  rcases h with ⟨items, n, _ | e, log⟩
  · dsimp only
    split_ifs <;> exact .ok _
  · exact .ok _

theorem Conducts.untilLoop {content : Oracle → Parser α} {delimiter : Oracle → Parser β}
    (hp : Conducts A content) (hq : Conducts A delimiter) (start : Nat) :
    ∀ rounds, Conducts A fun o => untilLoop (content o) (delimiter o) start rounds
  | 0 => fun _ => .silent fun _ h => by cases h
  | rounds + 1 => by
    intro c
    simp only [Parser.untilLoop]
    refine (hp c).bind fun r => ?_
    rcases r with ⟨a | _ | e, n, log⟩
    · refine (hq (c.moveTo n)).bind fun s => ?_
      rcases s with ⟨b | _ | e, m, log'⟩
      · exact .ok _
      · dsimp only
        split_ifs
        · exact .ok _
        · refine (hp.untilLoop hq start rounds (c.moveTo (c.moveTo n).home)).bind fun t => ?_
          rcases t with ⟨as | _ | e, m', log''⟩ <;> exact .ok _
      · exact .ok _
    · exact .ok _
    · exact .ok _

theorem Conducts.whileNotLoop {content : Oracle → Parser α} {delimiter : Oracle → Parser β}
    (hp : Conducts A content) (hq : Conducts A delimiter) (start : Nat) :
    ∀ rounds, Conducts A fun o => whileNotLoop (content o) (delimiter o) start rounds
  | 0 => fun _ => .silent fun _ h => by cases h
  | rounds + 1 => by
    intro c
    simp only [Parser.whileNotLoop]
    refine (hq c).bind fun s => ?_
    rcases s with ⟨b | _ | e, m, log⟩
    · exact .ok _
    · refine (hp (c.moveTo c.home)).bind fun r => ?_
      rcases r with ⟨a | _ | e, n, log'⟩
      · dsimp only
        split_ifs
        · exact .ok _
        · refine (hp.whileNotLoop hq start rounds (c.moveTo n)).bind fun t => ?_
          rcases t with ⟨as | _ | e, m', log''⟩ <;> exact .ok _
      · exact .ok _
      · exact .ok _
    · exact .ok _

theorem Conducts.endOr {delimiter : Oracle → Parser β} (hq : Conducts A delimiter) :
    Conducts A fun o => endOr (delimiter o) := by
  intro c
  simp only [Parser.endOr]
  split_ifs
  · exact conducts_succeed () c
  · exact hq.map _ c

theorem Conducts.scan {content : Oracle → Parser α} {delimiter : Oracle → Parser β}
    (hp : Conducts A content) (hq : Conducts A delimiter) (kind : ScanKind) (rounds : Nat) :
    Conducts A fun o => scan kind rounds (content o) (delimiter o) := by
  have hstop : Conducts A fun o =>
      if kind.stopsAtEnd then Parser.endOr (delimiter o) else (delimiter o).map fun _ => () := by
    split_ifs
    · exact hq.endOr
    · exact hq.map _
  rcases kind with ⟨_ | _, b⟩
  · refine .attempt fun c => ?_
    exact hp.untilLoop hstop c.pos rounds c
  · refine .attempt fun c => ?_
    exact hp.whileNotLoop hstop c.pos rounds c

end Parser

end Backtrack
