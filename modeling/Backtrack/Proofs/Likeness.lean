import Mathlib.Tactic.SplitIfs
import Backtrack.Proofs.Motion

/-!
# Runs that are alike

Two runs are compared of which the first has some text more behind its cursor: it has the outcome of
the second with all offsets moved on by that text. A `Likeness` says which faults the runs may have
and what their logs have in common. From the members of a combinator it passes to the combinator
(`Likeness.Relates`), and to a loop if both runs of it have the same rounds to take, or if the first
is excused where it has fewer (`Likeness.SameRounds`).
-/

namespace Backtrack

/-! ## Offsets moved on -/

/-- The error with its offset moved on. -/
def ParseError.shift (k : Nat) (e : ParseError) : ParseError :=
  { e with position := k + e.position }

namespace Record

/-- The record with its offset moved on; a number of items stays. -/
def shift (k : Nat) : Record → Record
  | sequenceMiss start => sequenceMiss (k + start)
  | sequenceError start => sequenceError (k + start)
  | conversionError start => conversionError (k + start)
  | repetitionError count => repetitionError count
  | repetitionShort count needed start => repetitionShort count needed (k + start)
  | untilError start => untilError (k + start)
  | whileNotError start => whileNotError (k + start)

@[simp] theorem shift_zero (record : Record) : record.shift 0 = record := by
  cases record <;> simp [shift]

end Record

namespace Outcome

variable {α : Type}

/-- The outcome with the offset of its error moved on. -/
def shift (k : Nat) : Outcome α → Outcome α
  | failed e => failed (e.shift k)
  | o => o

@[simp] theorem shift_zero (o : Outcome α) : o.shift 0 = o := by
  cases o <;> simp [shift, ParseError.shift]

end Outcome

namespace Reply

variable {α : Type}

/-- The reply with its offsets moved on. -/
def shift (k : Nat) (r : Reply α) : Reply α :=
  ⟨r.outcome.shift k, k + r.stop, r.log.map (Record.shift k)⟩

end Reply

/-! ## Likenesses -/

/-- A way to compare a run with one that has less text behind its cursor. -/
structure Likeness where
  /-- The text that only the first run has behind its cursor. -/
  ahead : Text
  /-- The text that both runs have. -/
  text : Text
  /-- After such a fault of the first run the second run may do anything. -/
  Excuses : Fault → Prop
  /-- Such a fault is one of both runs. -/
  Shares : Fault → Prop
  Logs : List Record → List Record → Prop
  logs_nil : Logs [] []
  logs_singleton (record : Record) : Logs [record.shift ahead.byteSize] [record]
  logs_append {a b c d : List Record} : Logs a b → Logs c d → Logs (a ++ c) (b ++ d)

namespace Likeness

variable {α β γ δ : Type} {L : Likeness}

/-- How far the offsets of the first run are moved on. -/
abbrev offset (L : Likeness) : Nat := L.ahead.byteSize

/-- The cursors are at one place of the common text. -/
def At (L : Likeness) (c c' : Cursor) : Prop :=
  ∃ seen rest, L.text = seen ++ rest ∧ c = .between (L.ahead ++ seen) rest ∧ c' = .between seen rest

namespace At

variable {c c' : Cursor}

theorem pos_eq (h : L.At c c') : c.pos = L.offset + c'.pos := by
  obtain ⟨seen, rest, -, rfl, rfl⟩ := h
  exact Text.byteSize_append L.ahead seen

theorem isBoundary (h : L.At c c') : L.text.IsBoundary c'.pos := by
  obtain ⟨seen, rest, ht, rfl, rfl⟩ := h
  exact ⟨seen, rest, ht, rfl⟩

theorem aligned (h : L.At c c') : c'.Aligned := by
  obtain ⟨seen, rest, -, rfl, rfl⟩ := h
  exact Cursor.aligned_between seen rest

theorem text_eq (h : L.At c c') : c'.text = L.text := by
  obtain ⟨seen, rest, ht, rfl, rfl⟩ := h
  exact ht.symm

theorem home_eq (h : L.At c c') : c.home = L.offset + c'.home := by
  have hpos := h.pos_eq
  obtain ⟨seen, rest, -, rfl, rfl⟩ := h
  rw [Cursor.home_between, Cursor.home_between]
  exact hpos

theorem isBoundary_home (h : L.At c c') : L.text.IsBoundary c'.home := by
  rw [h.aligned.home_eq]
  exact h.isBoundary

theorem moveTo_home (h : L.At c c') : c.moveTo c.home = c ∧ c'.moveTo c'.home = c' := by
  obtain ⟨seen, rest, -, rfl, rfl⟩ := h
  exact ⟨(Cursor.aligned_between _ _).moveTo_home, (Cursor.aligned_between _ _).moveTo_home⟩

theorem moveTo (h : L.At c c') {n : Nat} (hn : L.text.IsBoundary n) :
    L.At (c.moveTo (L.offset + n)) (c'.moveTo n) := by
  obtain ⟨seen, rest, ht, rfl, rfl⟩ := h
  obtain ⟨a, b, hab, rfl⟩ := hn
  rw [ht] at hab
  refine ⟨a, b, ht.trans hab, ?_, ?_⟩
  · rw [Cursor.between, Cursor.between, Cursor.moveTo, Text.byteSize_append L.ahead a,
      List.append_assoc, List.append_assoc, hab]
  · rw [Cursor.between, Cursor.between, Cursor.moveTo, hab]

theorem atEnd_eq (h : L.At c c') : c.atEnd = c'.atEnd := by
  obtain ⟨seen, rest, -, rfl, rfl⟩ := h
  rw [Bool.eq_iff_iff, Cursor.atEnd_between, Cursor.atEnd_between]

/-- What lies between two places of the common text is the same text in both runs. -/
theorem slice_eq (h : L.At c c') {n : Nat} (hn : L.text.IsBoundary n) :
    ∃ t, c.slice (L.offset + n) c.pos = .ok t ∧ c'.slice n c'.pos = .ok t := by
  obtain ⟨seen, rest, ht, rfl, rfl⟩ := h
  obtain ⟨a, b, hab, rfl⟩ := hn
  have hahead : ∀ m : Text, L.offset + m.byteSize = (L.ahead ++ m).byteSize :=
    fun m => (Text.byteSize_append L.ahead m).symm
  rw [hahead]
  rcases List.append_eq_append_iff.1 (ht.symm.trans hab) with ⟨m, rfl, rfl⟩ | ⟨m, rfl, rfl⟩
  · refine ⟨[], Cursor.slice_inverted _ ?_, Cursor.slice_inverted _ ?_⟩ <;>
      simp [Text.byteSize_append]
  · refine ⟨m, ?_, Cursor.slice_between a m rest⟩
    rw [← List.append_assoc]
    exact Cursor.slice_between (L.ahead ++ a) m rest

end At

/-- Both runs give answers in relation `R`, or they have a fault that is excused or shared. -/
def RelatesRun (L : Likeness) (R : α → β → Prop) : Run α → Run β → Prop
  | .ok a, y => ∃ b, y = .ok b ∧ R a b
  | .error f, y => L.Excuses f ∨ L.Shares f ∧ y = .error f

theorem RelatesRun.bind {R : α → β → Prop} {S : γ → δ → Prop} {x : Run α} {y : Run β}
    {next : α → Run γ} {next' : β → Run δ} (h : L.RelatesRun R x y)
    (hn : ∀ a b, R a b → L.RelatesRun S (next a) (next' b)) :
    L.RelatesRun S (x >>= next) (y >>= next') := by
  rcases x with f | a
  · rcases h with h | ⟨h, rfl⟩
    · exact .inl h
    · exact .inr ⟨h, rfl⟩
  · obtain ⟨b, rfl, hR⟩ := h
    exact hn a b hR

theorem relatesRun_ok {R : α → β → Prop} {a : α} {b : β} (h : R a b) :
    L.RelatesRun R (.ok a) (.ok b) :=
  ⟨b, rfl, h⟩

/-- The first reply is the second with its offsets moved on, as far as the logs are to say. -/
def RelatesReply (L : Likeness) (r s : Reply α) : Prop :=
  r.outcome = s.outcome.shift L.offset ∧ r.stop = L.offset + s.stop ∧ L.text.IsBoundary s.stop
    ∧ L.Logs r.log s.log

/-- From any one place of the common text the parsers have runs that are alike. -/
def Relates (L : Likeness) (p q : Parser α) : Prop :=
  ∀ c c', L.At c c' → L.RelatesRun L.RelatesReply (p c) (q c')

/-- Replies that stay are alike if their outcomes are. -/
theorem At.stay {c c' : Cursor} (h : L.At c c') {o o' : Outcome α} (ho : o = o'.shift L.offset) :
    L.RelatesReply ⟨o, c.pos, []⟩ ⟨o', c'.pos, []⟩ :=
  ⟨ho, h.pos_eq, h.isBoundary, L.logs_nil⟩

/-- A run followed by what each kind of reply leads to. -/
theorem RelatesRun.reply {R : β → γ → Prop} {x y : Run (Reply α)} {next : Reply α → Run β}
    {next' : Reply α → Run γ} (h : L.RelatesRun L.RelatesReply x y)
    (hn : ∀ (o : Outcome α) (n : Nat) (log log' : List Record), L.text.IsBoundary n →
      L.Logs log log' →
        L.RelatesRun R (next ⟨o.shift L.offset, L.offset + n, log⟩) (next' ⟨o, n, log'⟩)) :
    L.RelatesRun R (x >>= next) (y >>= next') := by
  refine h.bind ?_
  rintro ⟨o, n, log⟩ ⟨o', n', log'⟩ ⟨rfl, rfl, hb, hl⟩
  exact hn o' n' log log' hb hl

/-! ## One parser -/

theorem relates_succeed (a : α) : L.Relates (Parser.succeed a) (Parser.succeed a) :=
  fun _ _ hc => relatesRun_ok (hc.stay rfl)

theorem relates_miss : L.Relates (Parser.miss : Parser α) Parser.miss :=
  fun _ _ hc => relatesRun_ok (hc.stay rfl)

theorem relates_raise (e : ParseError) :
    L.Relates (Parser.raise (e.shift L.offset) : Parser α) (Parser.raise e) :=
  fun _ _ hc => relatesRun_ok (hc.stay rfl)

theorem relates_note (record : Record) :
    L.Relates (Parser.note (record.shift L.offset)) (Parser.note record) :=
  fun _ _ hc => relatesRun_ok ⟨rfl, hc.pos_eq, hc.isBoundary, L.logs_singleton record⟩

theorem relates_isAtEnd : L.Relates Parser.isAtEnd Parser.isAtEnd := by
  intro c c' hc
  refine relatesRun_ok (hc.stay ?_)
  rw [hc.atEnd_eq]
  rfl

theorem relates_textSince {n : Nat} (hn : L.text.IsBoundary n) :
    L.Relates (Parser.textSince (L.offset + n)) (Parser.textSince n) := by
  intro c c' hc
  obtain ⟨t, h, h'⟩ := hc.slice_eq hn
  rw [Parser.textSince, Parser.textSince, h, h']
  exact relatesRun_ok (hc.stay rfl)

theorem Relates.bind {p q : Parser α} {next next' : α → Parser β} (h : L.Relates p q)
    (hn : ∀ a, L.Relates (next a) (next' a)) : L.Relates (p >>= next) (q >>= next') := by
  intro c c' hc
  refine RelatesRun.reply (h c c' hc) fun o n log log' hb hl => ?_
  rcases o with a | _ | e
  · refine RelatesRun.reply (hn a _ _ (hc.moveTo hb)) fun o m log₁ log₁' hb' hl' => ?_
    exact relatesRun_ok ⟨rfl, rfl, hb', L.logs_append hl hl'⟩
  · exact relatesRun_ok ⟨rfl, rfl, hb, hl⟩
  · exact relatesRun_ok ⟨rfl, rfl, hb, hl⟩

/-- What follows the offset reached is alike if it is so for the offsets of one place. -/
theorem relates_position_bind {next next' : Nat → Parser α}
    (h : ∀ n, L.text.IsBoundary n → L.Relates (next (L.offset + n)) (next' n)) :
    L.Relates (Parser.position >>= next) (Parser.position >>= next') := by
  intro c c' hc
  have hn := h c'.pos hc.isBoundary c c' hc
  rw [← hc.pos_eq] at hn
  refine RelatesRun.reply hn fun o m log log' hb hl => ?_
  exact relatesRun_ok ⟨rfl, rfl, hb, L.logs_append L.logs_nil hl⟩

theorem Relates.map {p q : Parser α} (h : L.Relates p q) (f : α → β) :
    L.Relates (p.map f) (q.map f) := by
  intro c c' hc
  refine RelatesRun.reply (h c c' hc) fun o n log log' hb hl => ?_
  cases o <;> exact relatesRun_ok ⟨rfl, rfl, hb, hl⟩

theorem Relates.attempt {p q : Parser α} (h : L.Relates p q) :
    L.Relates p.attempt q.attempt := by
  intro c c' hc
  refine RelatesRun.reply (h c c' hc) fun o n log log' hb hl => ?_
  rcases o with a | _ | e
  · exact relatesRun_ok ⟨rfl, rfl, hb, hl⟩
  · exact relatesRun_ok ⟨rfl, hc.home_eq, hc.isBoundary_home, hl⟩
  · exact relatesRun_ok ⟨rfl, hc.home_eq, hc.isBoundary_home, hl⟩

theorem Relates.noting {p q : Parser α} (h : L.Relates p q) {onMiss onError : Nat → Record}
    (hm : ∀ n, onMiss (L.offset + n) = (onMiss n).shift L.offset)
    (he : ∀ n, onError (L.offset + n) = (onError n).shift L.offset) :
    L.Relates (p.noting onMiss onError) (q.noting onMiss onError) := by
  intro c c' hc
  refine RelatesRun.reply (h c c' hc) fun o n log log' hb hl => ?_
  have hnote : ∀ note : Nat → Record, note (L.offset + c'.pos) = (note c'.pos).shift L.offset →
      L.Logs (log ++ [note c.pos]) (log' ++ [note c'.pos]) := by
    intro note hnote
    rw [hc.pos_eq, hnote]
    exact L.logs_append hl (L.logs_singleton _)
  rcases o with a | _ | e
  · exact relatesRun_ok ⟨rfl, rfl, hb, hl⟩
  · exact relatesRun_ok ⟨rfl, rfl, hb, hnote onMiss (hm _)⟩
  · exact relatesRun_ok ⟨rfl, rfl, hb, hnote onError (he _)⟩

theorem Relates.mapError {p q : Parser α} (h : L.Relates p q) {f : ParseError → ParseError}
    (hf : ∀ e, f (e.shift L.offset) = (f e).shift L.offset) :
    L.Relates (p.mapError f) (q.mapError f) := by
  intro c c' hc
  refine RelatesRun.reply (h c c' hc) fun o n log log' hb hl => ?_
  rcases o with a | _ | e
  · exact relatesRun_ok ⟨rfl, rfl, hb, hl⟩
  · exact relatesRun_ok ⟨rfl, rfl, hb, hl⟩
  · exact relatesRun_ok ⟨congrArg Outcome.failed (hf e), rfl, hb, hl⟩

theorem Relates.verify {p q : Parser α} (h : L.Relates p q) (test : α → Bool) :
    L.Relates (p.verify test) (q.verify test) := by
  unfold Parser.verify
  refine .attempt (.bind h fun a => ?_)
  split_ifs
  · exact relates_succeed a
  · exact relates_miss

theorem Relates.tryMap {p q : Parser α} (h : L.Relates p q) (f : α → Except ErrorSeed β) :
    L.Relates (p.tryMap f) (q.tryMap f) := by
  unfold Parser.tryMap
  refine .attempt (relates_position_bind fun n _ => .bind h fun a => ?_)
  rcases f a with seed | b
  · refine .bind (relates_note (.conversionError n)) fun _ => ?_
    have hseed : seed.toError (L.offset + n) = (seed.toError n).shift L.offset := by
      cases seed <;> rfl
    rw [hseed]
    exact relates_raise _
  · exact relates_succeed b

theorem Relates.recognize {p q : Parser α} (h : L.Relates p q) :
    L.Relates p.recognize q.recognize := by
  unfold Parser.recognize
  exact .attempt (relates_position_bind fun n hn => .bind h fun _ => relates_textSince hn)

theorem Relates.spanned {p q : Parser α} (h : L.Relates p q) :
    L.Relates p.spanned q.spanned := by
  unfold Parser.spanned
  refine .attempt (relates_position_bind fun n hn => .bind h fun a => ?_)
  exact .bind (relates_textSince hn) fun t => relates_succeed (a, t)

/-! ## Looking ahead -/

theorem Relates.optional {p q : Parser α} (h : L.Relates p q) :
    L.Relates p.optional q.optional := by
  intro c c' hc
  refine RelatesRun.reply (h c c' hc) fun o n log log' hb hl => ?_
  rcases o with a | _ | e
  · exact relatesRun_ok ⟨rfl, rfl, hb, hl⟩
  · exact relatesRun_ok ⟨rfl, hc.home_eq, hc.isBoundary_home, hl⟩
  · exact relatesRun_ok ⟨rfl, hc.home_eq, hc.isBoundary_home, hl⟩

theorem Relates.peek {p q : Parser α} (h : L.Relates p q) : L.Relates p.peek q.peek := by
  intro c c' hc
  refine RelatesRun.reply (h c c' hc) fun o n log log' _ hl => ?_
  exact relatesRun_ok ⟨rfl, hc.home_eq, hc.isBoundary_home, hl⟩

theorem Relates.not {p q : Parser α} (h : L.Relates p q) : L.Relates p.not q.not := by
  intro c c' hc
  refine RelatesRun.reply (h c c' hc) fun o n log log' _ hl => ?_
  cases o <;> exact relatesRun_ok ⟨rfl, hc.home_eq, hc.isBoundary_home, hl⟩

theorem Relates.complete {p q : Parser α} (h : L.Relates p q) :
    L.Relates p.complete q.complete := by
  unfold Parser.complete
  refine .attempt (.bind h fun a => .bind relates_isAtEnd fun b => ?_)
  cases b
  · exact relates_position_bind fun n _ => relates_raise ⟨.expectedEof, n, []⟩
  · exact relates_succeed a

/-! ## Sequences and choices -/

section Lists

variable {ι : Type} {f g : ι → Parser α}

theorem Relates.pair {p p' : Parser α} {q q' : Parser β} (h : L.Relates p p')
    (h' : L.Relates q q') : L.Relates (Parser.pair p q) (Parser.pair p' q') := by
  unfold Parser.pair
  refine .attempt (.bind h fun a => ?_)
  exact .bind h' fun b => relates_succeed (a, b)

theorem relates_each : ∀ {is : List ι}, (∀ i ∈ is, L.Relates (f i) (g i)) →
    L.Relates (Parser.each (is.map f)) (Parser.each (is.map g))
  | [], _ => relates_succeed []
  | i :: is, h => by
    have his : L.Relates (Parser.each (is.map f)) (Parser.each (is.map g)) :=
      relates_each fun j hj => h j (List.mem_cons_of_mem i hj)
    refine .bind (h i List.mem_cons_self) fun a => ?_
    exact .bind his fun as => relates_succeed (a :: as)

theorem Relates.sequence {p q : Parser α} (h : L.Relates p q) :
    L.Relates p.sequence q.sequence := by
  unfold Parser.sequence
  exact h.attempt.noting (fun _ => rfl) fun _ => rfl

theorem Relates.orElse {p p' q q' : Parser α} (h : L.Relates p p') (h' : L.Relates q q') :
    L.Relates (Parser.orElse p q) (Parser.orElse p' q') := by
  intro c c' hc
  refine RelatesRun.reply (h c c' hc) fun o n log log' hb hl => ?_
  rcases o with a | _ | e
  · exact relatesRun_ok ⟨rfl, rfl, hb, hl⟩
  · dsimp only [Outcome.shift]
    rw [hc.moveTo_home.1, hc.moveTo_home.2]
    refine RelatesRun.reply (h' c c' hc) fun o m log₁ log₁' hb' hl' => ?_
    exact relatesRun_ok ⟨rfl, rfl, hb', L.logs_append hl hl'⟩
  · exact relatesRun_ok ⟨rfl, hc.home_eq, hc.isBoundary_home, hl⟩

theorem relates_first : ∀ {is : List ι}, (∀ i ∈ is, L.Relates (f i) (g i)) →
    L.Relates (Parser.first (is.map f)) (Parser.first (is.map g))
  | [], _ => relates_miss
  | i :: is, h => by
    have his : L.Relates (Parser.first (is.map f)) (Parser.first (is.map g)) :=
      relates_first fun j hj => h j (List.mem_cons_of_mem i hj)
    exact .orElse (h i List.mem_cons_self) his

theorem Relates.or {p p' : Parser α} {q q' : Parser β} (h : L.Relates p p')
    (h' : L.Relates q q') : L.Relates (Parser.or p q) (Parser.or p' q') := by
  unfold Parser.or
  exact .orElse (h.map _) (.attempt (h'.map _))

theorem relates_pairs : ∀ {t : PairTree ι}, (∀ i ∈ t.toList, L.Relates (f i) (g i)) →
    L.Relates (Parser.pairs (t.map f)) (Parser.pairs (t.map g))
  | .leaf i, h => (h i (by simp [PairTree.toList])).map _
  | .node s t, h => by
    have hs : L.Relates (Parser.pairs (s.map f)) (Parser.pairs (s.map g)) :=
      relates_pairs fun i hi => h i (by simp [PairTree.toList, hi])
    have ht : L.Relates (Parser.pairs (t.map f)) (Parser.pairs (t.map g)) :=
      relates_pairs fun i hi => h i (by simp [PairTree.toList, hi])
    exact (hs.pair ht).map _

theorem relates_choices : ∀ {t : PairTree ι}, (∀ i ∈ t.toList, L.Relates (f i) (g i)) →
    L.Relates (Parser.choices (t.map f)) (Parser.choices (t.map g))
  | .leaf i, h => h i (by simp [PairTree.toList])
  | .node s t, h => by
    have hs : L.Relates (Parser.choices (s.map f)) (Parser.choices (s.map g)) :=
      relates_choices fun i hi => h i (by simp [PairTree.toList, hi])
    have ht : L.Relates (Parser.choices (t.map f)) (Parser.choices (t.map g)) :=
      relates_choices fun i hi => h i (by simp [PairTree.toList, hi])
    exact .orElse hs (.orElse ht relates_miss)

theorem relates_chain {i : ι} {is : List ι} (h : ∀ j ∈ i :: is, L.Relates (f j) (g j)) :
    L.Relates (Parser.chain (f i) (is.map f)) (Parser.chain (g i) (is.map g)) := by
  have hpairs : L.Relates (Parser.pairs ((PairTree.balanced i is).map f))
      (Parser.pairs ((PairTree.balanced i is).map g)) :=
    relates_pairs (by rwa [PairTree.toList_balanced])
  rw [PairTree.map_balanced, PairTree.map_balanced] at hpairs
  simp only [Parser.chain, Parser.treeSeq, List.isEmpty_map, List.length_map]
  split_ifs
  · exact hpairs.map _
  · exact (relates_each h).sequence

theorem relates_choice {i : ι} {is : List ι} (h : ∀ j ∈ i :: is, L.Relates (f j) (g j)) :
    L.Relates (Parser.choice (f i) (is.map f)) (Parser.choice (g i) (is.map g)) := by
  have hchoices : L.Relates (Parser.choices ((PairTree.balanced i is).map f))
      (Parser.choices ((PairTree.balanced i is).map g)) :=
    relates_choices (by rwa [PairTree.toList_balanced])
  rwa [PairTree.map_balanced, PairTree.map_balanced] at hchoices

end Lists

/-! ## Loops -/

/-- The loops take equally many rounds, or a loop without rounds left in the first run is excused
and the second has more of them. -/
def SameRounds (L : Likeness) (rounds rounds' : Nat) : Prop :=
  L.Shares .roundsSpent ∧ rounds = rounds' ∨ L.Excuses .roundsSpent ∧ rounds ≤ rounds'

/-- Out of rounds the first run is at a fault that the second shares if it has none left either. -/
theorem SameRounds.spent {R : α → β → Prop} {rounds' : Nat} (h : L.SameRounds 0 rounds')
    {y : Run β} (hy : rounds' = 0 → y = .error .roundsSpent) :
    L.RelatesRun R (.error .roundsSpent) y := by
  rcases h with ⟨h, h'⟩ | ⟨h, -⟩
  · exact .inr ⟨h, hy h'.symm⟩
  · exact .inl h

theorem SameRounds.exists_succ {rounds rounds' : Nat} (h : L.SameRounds (rounds + 1) rounds') :
    ∃ n, rounds' = n + 1 ∧ L.SameRounds rounds n := by
  rcases h with ⟨h, rfl⟩ | ⟨h, hle⟩
  · exact ⟨rounds, rfl, .inl ⟨h, rfl⟩⟩
  · exact ⟨rounds' - 1, by omega, .inr ⟨h, by omega⟩⟩

/-- The first harvest is the second with its offsets moved on. -/
def RelatesHarvest (L : Likeness) (h h' : Harvest α) : Prop :=
  h.items = h'.items ∧ h.stop = L.offset + h'.stop ∧ L.text.IsBoundary h'.stop
    ∧ h.error = h'.error.map (ParseError.shift L.offset) ∧ L.Logs h.log h'.log

theorem Relates.collect {item item' : Parser α} (h : L.Relates item item') (min : Nat)
    (proceed : Nat → Bool) :
    ∀ (rounds rounds' count : Nat) (c c' : Cursor), L.SameRounds rounds rounds' → L.At c c' →
      L.RelatesRun L.RelatesHarvest (Parser.collect rounds min proceed item count c)
        (Parser.collect rounds' min proceed item' count c') := by
  intro rounds
  induction rounds with
  | zero =>
    intro rounds' count c c' hr hc
    unfold Parser.collect
    split_ifs
    · exact hr.spent (by rintro rfl; rfl)
    · exact relatesRun_ok ⟨rfl, hc.pos_eq, hc.isBoundary, rfl, L.logs_nil⟩
  | succ rounds ih =>
    intro rounds' count c c' hr hc
    obtain ⟨n, rfl, hn⟩ := hr.exists_succ
    rw [Parser.collect, Parser.collect]
    split_ifs
    · refine RelatesRun.reply (h c c' hc) fun o m log log' hb hl => ?_
      rcases o with a | _ | e
      · have hstall : L.offset + m = c.pos ↔ m = c'.pos := by
          rw [hc.pos_eq]
          omega
        dsimp only [Outcome.shift]
        simp only [hstall]
        split_ifs
        · exact relatesRun_ok ⟨rfl, rfl, hb, rfl, hl⟩
        · refine (ih n (count + 1) _ _ hn (hc.moveTo hb)).bind ?_
          rintro h h' ⟨hitems, hstop, hb', herror, hl'⟩
          refine relatesRun_ok ⟨?_, hstop, hb', herror, L.logs_append hl hl'⟩
          exact congrArg (a :: ·) hitems
      · exact relatesRun_ok ⟨rfl, hc.home_eq, hc.isBoundary_home, rfl, hl⟩
      · exact relatesRun_ok ⟨rfl, rfl, hb, rfl, hl⟩
    · exact relatesRun_ok ⟨rfl, hc.pos_eq, hc.isBoundary, rfl, L.logs_nil⟩

theorem Relates.repeatWhile {item item' : Parser α} (h : L.Relates item item')
    {rounds rounds' : Nat} (hr : L.SameRounds rounds rounds') (min : Nat) (proceed : Nat → Bool) :
    L.Relates (Parser.repeatWhile rounds min proceed item)
      (Parser.repeatWhile rounds' min proceed item') := by
  intro c c' hc
  unfold Parser.repeatWhile
  refine (h.collect min proceed rounds rounds' 0 c c' hr hc).bind ?_
  rintro ⟨items, n, error, log⟩ ⟨items', n', error', log'⟩ ⟨hitems, hstop, hb, herror, hl⟩
  dsimp only at hitems hstop hb herror hl
  subst hitems hstop herror
  rcases error' with _ | e
  · dsimp only [Option.map_none]
    split_ifs
    · exact relatesRun_ok ⟨rfl, rfl, hb, hl⟩
    · refine relatesRun_ok ⟨rfl, hc.home_eq, hc.isBoundary_home, L.logs_append hl ?_⟩
      rw [hc.pos_eq]
      exact L.logs_singleton (.repetitionShort _ _ _)
  · refine relatesRun_ok ⟨rfl, hc.home_eq, hc.isBoundary_home, L.logs_append hl ?_⟩
    exact L.logs_singleton (.repetitionError _)

/-- A round of a scan behind an item and a delimiter that missed. -/
theorem RelatesRun.cons {x y : Run (Reply (List α))} (h : L.RelatesRun L.RelatesReply x y) (a : α)
    {log log' : List Record} (hl : L.Logs log log') :
    L.RelatesRun L.RelatesReply (do return (← x).cons a log) (do return (← y).cons a log') := by
  refine RelatesRun.reply h fun o n log₁ log₁' hb hl' => ?_
  cases o <;> exact relatesRun_ok ⟨rfl, rfl, hb, L.logs_append hl hl'⟩

section Scan

variable {content content' : Parser α} {delimiter delimiter' : Parser β}

theorem Relates.untilLoop (hp : L.Relates content content') (hq : L.Relates delimiter delimiter')
    (start : Nat) : ∀ {rounds rounds' : Nat}, L.SameRounds rounds rounds' →
      L.Relates (Parser.untilLoop content delimiter (L.offset + start) rounds)
        (Parser.untilLoop content' delimiter' start rounds')
  | 0, rounds', hr => fun _ _ _ => hr.spent (by rintro rfl; rfl)
  | rounds + 1, rounds', hr => by
    intro c c' hc
    obtain ⟨n, rfl, hn⟩ := hr.exists_succ
    unfold Parser.untilLoop
    refine RelatesRun.reply (hp c c' hc) fun o m log log' hb hl => ?_
    rcases o with a | _ | e
    · have hbehind := hc.moveTo hb
      refine RelatesRun.reply (hq _ _ hbehind) fun o k log₁ log₁' _ hl' => ?_
      have hlogs := L.logs_append hl hl'
      rcases o with b | _ | e
      · exact relatesRun_ok ⟨rfl, hbehind.home_eq, hbehind.isBoundary_home, hlogs⟩
      · have hstall : (c.moveTo (L.offset + m)).home = c.pos ↔ (c'.moveTo m).home = c'.pos := by
          rw [hbehind.home_eq, hc.pos_eq]
          omega
        dsimp only [Outcome.shift]
        simp only [hstall]
        split_ifs
        · exact relatesRun_ok ⟨rfl, hbehind.home_eq, hbehind.isBoundary_home, hlogs⟩
        · rw [hbehind.home_eq]
          exact (hp.untilLoop hq start hn _ _ (hc.moveTo hbehind.isBoundary_home)).cons a hlogs
      · refine relatesRun_ok ⟨rfl, hbehind.home_eq, hbehind.isBoundary_home, ?_⟩
        exact L.logs_append hlogs (L.logs_singleton (.untilError start))
    · exact relatesRun_ok ⟨rfl, rfl, hb, hl⟩
    · exact relatesRun_ok ⟨rfl, rfl, hb, hl⟩

theorem Relates.whileNotLoop (hp : L.Relates content content')
    (hq : L.Relates delimiter delimiter') (start : Nat) :
    ∀ {rounds rounds' : Nat}, L.SameRounds rounds rounds' →
      L.Relates (Parser.whileNotLoop content delimiter (L.offset + start) rounds)
        (Parser.whileNotLoop content' delimiter' start rounds')
  | 0, rounds', hr => fun _ _ _ => hr.spent (by rintro rfl; rfl)
  | rounds + 1, rounds', hr => by
    intro c c' hc
    obtain ⟨n, rfl, hn⟩ := hr.exists_succ
    unfold Parser.whileNotLoop
    refine RelatesRun.reply (hq c c' hc) fun o k log log' _ hl => ?_
    rcases o with b | _ | e
    · exact relatesRun_ok ⟨rfl, hc.home_eq, hc.isBoundary_home, hl⟩
    · dsimp only [Outcome.shift]
      rw [hc.moveTo_home.1, hc.moveTo_home.2]
      refine RelatesRun.reply (hp c c' hc) fun o m log₁ log₁' hb hl' => ?_
      have hlogs := L.logs_append hl hl'
      rcases o with a | _ | e
      · have hstall : L.offset + m = c.pos ↔ m = c'.pos := by
          rw [hc.pos_eq]
          omega
        dsimp only [Outcome.shift]
        simp only [hstall]
        split_ifs
        · exact relatesRun_ok ⟨rfl, rfl, hb, hlogs⟩
        · exact (hp.whileNotLoop hq start hn _ _ (hc.moveTo hb)).cons a hlogs
      · exact relatesRun_ok ⟨rfl, rfl, hb, hlogs⟩
      · exact relatesRun_ok ⟨rfl, rfl, hb, hlogs⟩
    · refine relatesRun_ok ⟨rfl, hc.home_eq, hc.isBoundary_home, ?_⟩
      exact L.logs_append hl (L.logs_singleton (.whileNotError start))

theorem Relates.endOr (hq : L.Relates delimiter delimiter') :
    L.Relates (Parser.endOr delimiter) (Parser.endOr delimiter') := by
  intro c c' hc
  rw [Parser.endOr, Parser.endOr, hc.atEnd_eq]
  split_ifs
  · exact relates_succeed () c c' hc
  · exact hq.map _ c c' hc

theorem Relates.scan (hp : L.Relates content content') (hq : L.Relates delimiter delimiter')
    {rounds rounds' : Nat} (hr : L.SameRounds rounds rounds') (kind : ScanKind) :
    L.Relates (Parser.scan kind rounds content delimiter)
      (Parser.scan kind rounds' content' delimiter') := by
  have hstop : L.Relates
      (if kind.stopsAtEnd then Parser.endOr delimiter else delimiter.map fun _ => ())
      (if kind.stopsAtEnd then Parser.endOr delimiter' else delimiter'.map fun _ => ()) := by
    split_ifs
    · exact hq.endOr
    · exact hq.map _
  rcases kind with ⟨_ | _, b⟩
  · refine .attempt fun c c' hc => ?_
    rw [hc.pos_eq]
    exact hp.untilLoop hstop c'.pos hr c c' hc
  · refine .attempt fun c c' hc => ?_
    rw [hc.pos_eq]
    exact hp.whileNotLoop hstop c'.pos hr c c' hc

end Scan

end Likeness

end Backtrack
