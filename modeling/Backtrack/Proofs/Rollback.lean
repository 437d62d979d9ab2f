import Backtrack.Proofs.PairTree
import Backtrack.Proofs.Parts
import Backtrack.Proofs.Run
import Backtrack.Proofs.Token

/-!
# Putting the cursor back

A parser rolls back if, from a boundary, it is left where it began whenever it does not match. Most
combinators do so for any members (`Parser.rollsBack_attempt` and the lemmas after it), others pass
it on from their members, and of the leaves all do but `leak` and `raise`. A description is guarded
if one of these three reasons applies to it (`Grammar.Guarded`), and every guarded description rolls
back (`Grammar.moveTo_stop_of_not_match`).
-/

namespace Backtrack

/-- Only a match may stop away from `n`. -/
def Reply.Returns {α : Type} (n : Nat) (r : Reply α) : Prop :=
  r.outcome.isMatch = false → r.stop = n

theorem Reply.meets_matched {α : Type} (n : Nat) (a : α) (stop : Nat) (log : List Record) :
    Run.Meets (fun _ => True) (Reply.Returns n) (.ok ⟨.matched a, stop, log⟩) := by
  intro h
  simp [Outcome.isMatch] at h

namespace Parser

variable {α β : Type}

/-- A run from a boundary that does not match stops where it began. -/
def RollsBack (p : Parser α) : Prop :=
  ∀ c : Cursor, c.Aligned → Run.Meets (fun _ => True) (Reply.Returns c.pos) (p c)

/-! ## Combinators that put the cursor back -/

theorem rollsBack_attempt (p : Parser α) : p.attempt.RollsBack := by
  intro c hc
  unfold Parser.attempt
  refine Run.meets_bind fun r => ?_
  rcases r with ⟨a | _ | e, n, log⟩
  · exact Reply.meets_matched _ _ _ _
  · exact fun _ => hc.home_eq
  · exact fun _ => hc.home_eq

theorem rollsBack_miss : (miss : Parser α).RollsBack := fun _ _ _ => rfl

theorem RollsBack.orElse (p : Parser α) {q : Parser α} (hq : q.RollsBack) :
    (orElse p q).RollsBack := by
  intro c hc
  unfold Parser.orElse
  refine Run.meets_bind fun r => ?_
  rcases r with ⟨a | _ | e, n, log⟩
  · exact Reply.meets_matched _ _ _ _
  · rw [hc.moveTo_home]
    exact Run.Meets.bind (hq c hc) fun _ hs => hs
  · exact fun _ => hc.home_eq

theorem rollsBack_first : ∀ ps : List (Parser α), (first ps).RollsBack
  | [] => rollsBack_miss
  | p :: ps => by
    unfold Parser.first
    exact .orElse p (rollsBack_first ps)

theorem rollsBack_optional (p : Parser α) : p.optional.RollsBack := by
  intro c hc
  unfold Parser.optional
  refine Run.meets_bind fun r => ?_
  rcases r with ⟨a | _ | e, n, log⟩
  · exact Reply.meets_matched _ _ _ _
  · exact Reply.meets_matched _ _ _ _
  · exact fun _ => hc.home_eq

theorem rollsBack_peek (p : Parser α) : p.peek.RollsBack := by
  intro c hc
  unfold Parser.peek
  refine Run.meets_bind fun r => ?_
  exact fun _ => hc.home_eq

theorem rollsBack_not (p : Parser α) : p.not.RollsBack := by
  intro c hc
  unfold Parser.not
  refine Run.meets_bind fun r => ?_
  rcases r with ⟨a | _ | e, n, log⟩ <;> exact fun _ => hc.home_eq

/-- A repetition puts the cursor back at an error, at too few items and at too many. -/
theorem rollsBack_repeatWhile (rounds min : Nat) (proceed : Nat → Bool) (item : Parser α) :
    (repeatWhile rounds min proceed item).RollsBack := by
  intro c hc
  unfold Parser.repeatWhile
  refine Run.meets_bind ?_
  rintro ⟨items, n, _ | e, log⟩
  · dsimp only
    split_ifs
    · exact Reply.meets_matched _ _ _ _
    · exact fun _ => hc.home_eq
  · exact fun _ => hc.home_eq

/-! ## Combinators that put the cursor back if their members do -/

theorem RollsBack.map {p : Parser α} (hp : p.RollsBack) (f : α → β) : (p.map f).RollsBack := by
  intro c hc
  unfold Parser.map
  refine Run.Meets.bind (hp c hc) fun r hr => ?_
  rcases r with ⟨a | _ | e, n, log⟩ <;> exact hr

theorem RollsBack.mapError {p : Parser α} (hp : p.RollsBack) (f : ParseError → ParseError) :
    (p.mapError f).RollsBack := by
  intro c hc
  unfold Parser.mapError
  refine Run.Meets.bind (hp c hc) fun r hr => ?_
  rcases r with ⟨a | _ | e, n, log⟩ <;> exact hr

theorem RollsBack.noting {p : Parser α} (hp : p.RollsBack) (onMiss onError : Nat → Record) :
    (p.noting onMiss onError).RollsBack := by
  intro c hc
  unfold Parser.noting
  refine Run.Meets.bind (hp c hc) fun r hr => ?_
  rcases r with ⟨a | _ | e, n, log⟩ <;> exact hr

theorem IsToken.rollsBack {text : α → Text} {p : Parser α} (hp : p.IsToken text) :
    p.RollsBack := by
  intro c hc
  obtain ⟨seen, rest, rfl⟩ := hc.exists_between
  rcases hp seen rest with ⟨v, b, -, h⟩ | h
  · rw [h]
    exact Reply.meets_matched _ _ _ _
  · rw [h]
    exact fun _ => rfl

/-! ## Sequences, choices and scans -/

theorem rollsBack_sequence (p : Parser α) : p.sequence.RollsBack := by
  unfold Parser.sequence
  exact (rollsBack_attempt p).noting _ _

theorem rollsBack_choice (p q : Parser α) (ps : List (Parser α)) :
    (choice p (q :: ps)).RollsBack := by
  obtain ⟨s, t, h⟩ := PairTree.exists_balanced_eq_node p q ps
  rw [choice, h, choices]
  exact rollsBack_first [choices s, choices t]

theorem rollsBack_chain (p q : Parser α) (ps : List (Parser α)) :
    (chain p (q :: ps)).RollsBack := by
  unfold chain
  split_ifs
  · obtain ⟨s, t, h⟩ := PairTree.exists_balanced_eq_node p q ps
    rw [treeSeq, h]
    exact ((rollsBack_attempt _).map _).map _
  · exact rollsBack_sequence _

theorem RollsBack.chain {p : Parser α} (hp : p.RollsBack) : (chain p []).RollsBack := by
  have htree : (pairs (.leaf p)).RollsBack := hp.map PairTree.leaf
  exact htree.map _

theorem rollsBack_scan (kind : ScanKind) (rounds : Nat) (content : Parser α)
    (delimiter : Parser β) : (scan kind rounds content delimiter).RollsBack := by
  rcases kind with ⟨_ | _, b⟩ <;> exact rollsBack_attempt _

end Parser

/-! ## Leaves and descriptions -/

theorem CalendarField.rollsBack (rounds : Nat) : ∀ f : CalendarField, (f.parser rounds).RollsBack
  | yearMonthDay => (Parser.rollsBack_attempt _).map _
  | dayOfWeek => (Parser.rollsBack_choice _ _ _).map _
  | daysOfWeek => (Parser.rollsBack_repeatWhile _ _ _ _).map _
  | monthOfYear => (Parser.rollsBack_choice _ _ _).map _
  | monthDay => (Parser.rollsBack_attempt _).map _

namespace Leaf

/-- The leaf is not one of the two that are left where they read to although they do not match. -/
def Honest : Leaf → Prop
  | leak _ | raise _ _ _ => False
  | _ => True

theorem Honest.rollsBack {l : Leaf} (hl : l.Honest) (rounds : Nat) :
    (l.parser rounds).RollsBack := by
  have hchar : ∀ accept, (Parser.charWhere accept).RollsBack :=
    fun accept => (Parser.isToken_charWhere accept).rollsBack
  have hliteral : ∀ same t, (Parser.literalBy same t).RollsBack :=
    fun same t => (Parser.isToken_literalBy same t).rollsBack
  have hascii : ∀ same t, (Parser.asciiLiteralBy same t).RollsBack :=
    fun same t => (Parser.isToken_asciiLiteralBy same t).rollsBack
  cases l with
  | leak | raise => exact hl.elim
  | goto n => exact fun c _ => Reply.meets_matched _ _ _ _
  | eof => exact Parser.isToken_eof.rollsBack.map _
  | anyChar => exact Parser.isToken_anyChar.rollsBack.map _
  | position => exact Parser.isToken_position.rollsBack.map _
  | peekCount n => exact (Parser.isToken_peekCount n).rollsBack.map _
  | takeCount n => exact (Parser.isToken_takeCount n).rollsBack.map _
  | calendar f => exact f.rollsBack rounds
  | newline => exact (Parser.rollsBack_first _).map _
  | whitespace | inlineWhitespace | optionalWhitespace | optionalInlineWhitespace =>
    exact (Parser.rollsBack_attempt _).map _
  | letter | digit | char | charIn | charNotIn | charWhere | charWithProperty | ascii
  | asciiWhere =>
    exact (hchar _).map _
  | cr | lf | crlf | literal | literalInsensitive => exact (hliteral _ _).map _
  | asciiLiteral | asciiLiteralInsensitive => exact (hascii _ _).map _

end Leaf

namespace Expr

/-- The outermost combinator puts the cursor back, whatever its members do. -/
def Restoring : Expr → Prop
  | tryMap _ _ | verify _ _ | optional _ | recognize _ | spanned _ | peek _ | not _ => True
  | complete _ | pair _ _ | or _ _ | seq _ | any _ _ | all _ _ | repeated _ _ => True
  | scan _ _ _ | scanText _ _ => True
  | chain _ es | choice _ es => es ≠ []
  | _ => False

/-- The outermost combinator leaves the cursor where its members do. -/
def Forwarding : Expr → Prop
  | map _ _ | withValue _ _ | relabelError _ _ | wrapError _ | shared _ | erased _ => True
  | nth _ _ _ => True
  | chain _ es | choice _ es => es = []
  | _ => False

variable {call : String → Parser Value} {rounds : Nat}

theorem Restoring.rollsBack {e : Expr} (he : e.Restoring) : (e.parser call rounds).RollsBack := by
  cases e with
  | tryMap f e | verify test e | complete e => exact Parser.rollsBack_attempt _
  | recognize e | spanned e | pair e f | scanText kind f =>
    exact (Parser.rollsBack_attempt _).map _
  | all container es => exact (Parser.rollsBack_attempt _).map _
  | optional e => exact (Parser.rollsBack_optional _).map _
  | peek e => exact Parser.rollsBack_peek _
  | not e => exact (Parser.rollsBack_not _).map _
  | or e f => exact (Parser.RollsBack.orElse _ (Parser.rollsBack_attempt _)).map _
  | seq es => exact (Parser.rollsBack_sequence _).map _
  | any container es => exact Parser.rollsBack_first _
  | repeated quantity e =>
    cases quantity <;> exact (Parser.rollsBack_repeatWhile _ _ _ _).map _
  | scan kind e f => exact (Parser.rollsBack_scan _ _ _ _).map _
  | chain e es =>
    rcases es with _ | ⟨f, es⟩
    · exact absurd rfl he
    · exact (Parser.rollsBack_chain _ _ _).map _
  | choice e es =>
    rcases es with _ | ⟨f, es⟩
    · exact absurd rfl he
    · exact Parser.rollsBack_choice _ _ _
  | leaf | map | withValue | relabelError | wrapError | shared | erased | nth | rule =>
    exact he.elim

theorem Forwarding.rollsBack {e : Expr} (he : e.Forwarding)
    (h : ∀ d ∈ e.members, (d.parser call rounds).RollsBack) :
    (e.parser call rounds).RollsBack := by
  cases e with
  | map f e | withValue t e => exact (h e (by simp [members])).map _
  | relabelError kind e => exact (h e (by simp [members])).mapError _
  | wrapError e => exact (h e (by simp [members])).mapError _
  | shared e | erased e => exact h e (by simp [members])
  | nth container index es =>
    exact (Container.nth_family_induction container index Parser.rollsBack_miss
      (forall_mem_parsers h)).map _
  | chain e es =>
    obtain rfl : es = [] := he
    exact (h e (by simp [members])).chain.map _
  | choice e es =>
    obtain rfl : es = [] := he
    exact h e (by simp [members])
  | _ => exact he.elim

end Expr

namespace Grammar

variable {g : Grammar} {budget : Nat}

/-- An honest leaf, a combinator that puts the cursor back with any members, a combinator that
leaves it where its members do and has guarded members, or the name of a guarded rule. -/
inductive Guarded (g : Grammar) : Expr → Prop where
  | leaf {l : Leaf} : l.Honest → Guarded g (.leaf l)
  | restoring {e : Expr} : e.Restoring → Guarded g e
  | forwarding {e : Expr} : e.Forwarding → (∀ d ∈ e.members, Guarded g d) → Guarded g e
  | called {name : String} {e : Expr} : g.lookup name = some e → Guarded g e →
    Guarded g (.rule name)

theorem Guarded.rollsBack {e : Expr} (he : g.Guarded e) :
    ∀ depth, (e.parser (g.call budget depth) budget).RollsBack := by
  induction he with
  | leaf hl => exact fun _ => hl.rollsBack budget
  | restoring he => exact fun _ => he.rollsBack
  | forwarding he _ ih => exact fun depth => he.rollsBack fun d hd => ih d hd depth
  | called hname _ ih =>
    intro depth c hc
    cases depth with
    | zero => trivial
    | succ depth =>
      rw [Expr.parser, call_succ_of_lookup hname]
      exact ih depth c hc

/-- Where a guarded description does not match, the cursor is left as it was. -/
theorem moveTo_stop_of_not_match {e : Expr} (he : g.Guarded e) {c : Cursor} (hc : c.Aligned)
    {r : Reply Value} (hr : g.parser budget e c = .ok r) (hm : r.outcome.isMatch = false) :
    c.moveTo r.stop = c := by
  have hstop : r.stop = c.pos := (he.rollsBack budget c hc).of_eq_ok hr hm
  rw [hstop, Cursor.moveTo_pos]

/-- A pair that jumps back and reads two code points before it reports an error is put back behind
the first code point, where it began. -/
theorem moveTo_stop_goto_raise :
    Guarded [] (.pair (.leaf (.goto 0)) (.leaf (.raise 2 .invalidInput none)))
      ∧ (⟨['a', 'é', '!'], 1⟩ : Cursor).Aligned
      ∧ parser [] 1 (.pair (.leaf (.goto 0)) (.leaf (.raise 2 .invalidInput none)))
          ⟨['a', 'é', '!'], 1⟩ = .ok ⟨.failed ⟨.invalidInput, 3, []⟩, 1, []⟩
      ∧ (⟨['a', 'é', '!'], 1⟩ : Cursor).moveTo 1 = ⟨['a', 'é', '!'], 1⟩ := by
  have hguarded : Guarded [] (.pair (.leaf (.goto 0)) (.leaf (.raise 2 .invalidInput none))) :=
    .restoring trivial
  have haligned : (⟨['a', 'é', '!'], 1⟩ : Cursor).Aligned := ⟨['a'], ['é', '!'], rfl, rfl⟩
  have hrun : parser [] 1 (.pair (.leaf (.goto 0)) (.leaf (.raise 2 .invalidInput none)))
      ⟨['a', 'é', '!'], 1⟩ = .ok ⟨.failed ⟨.invalidInput, 3, []⟩, 1, []⟩ := rfl
  exact ⟨hguarded, haligned, hrun, moveTo_stop_of_not_match hguarded haligned hrun rfl⟩

end Grammar

end Backtrack
