import Backtrack.Proofs.Lookahead

/-!
# Property expressions as parsers

The operators on sets of characters have counterparts among the combinators: a union is a choice, an
intersection is a look at one set before the other is read, and a complement is a negation before any
code point is read (`Property.parser`). What it is to read one code point of a set
(`Parser.ReadsOne`) leaves no choice to a parser (`Parser.ReadsOne.unique`), and each combinator does
to the sets what its operator does. So a property expression may be evaluated or parsed
(`Parser.property_algebra`). At the end of the input a complement misses like any other set, since
there is no code point to read behind the negation.
-/

namespace Backtrack

namespace Property

/-- The parser of a property put together from the parsers of its parts. -/
def parser : Property → Parser Char
  | category g => Parser.charWithProperty (category g)
  | binary b => Parser.charWithProperty (binary b)
  | not p => (Parser.pair p.parser.not Parser.anyChar).map Prod.snd
  | and p q => (Parser.pair p.parser.peek q.parser).map Prod.snd
  | or p q => Parser.any (.ofList [p.parser, q.parser])

end Property

namespace Parser

variable {α β : Type}

/-! ## Reading one code point -/

/-- From a boundary the parser reads one code point that passes the test; it misses at the end of
the input and in front of any other code point. -/
structure ReadsOne (accept : Char → Bool) (p : Parser Char) : Prop where
  nil : ∀ seen, p (.between seen []) = .ok ⟨.missed, seen.byteSize, []⟩
  pos : ∀ seen rest {ch}, accept ch = true →
    p (.between seen (ch :: rest)) = .ok ⟨.matched ch, (seen ++ [ch]).byteSize, []⟩
  neg : ∀ seen rest {ch}, accept ch = false →
    p (.between seen (ch :: rest)) = .ok ⟨.missed, seen.byteSize, []⟩

theorem readsOne_charWhere (accept : Char → Bool) : (charWhere accept).ReadsOne accept where
  nil := charWhere_nil accept
  pos seen rest {ch} h := by rw [charWhere_cons, if_pos h]
  neg seen rest {ch} h := by rw [charWhere_cons, if_neg (by simp [h])]

theorem readsOne_anyChar : anyChar.ReadsOne fun _ => true where
  nil := anyChar_nil
  pos seen rest {ch} _ := anyChar_cons seen ch rest
  neg _ _ _ h := absurd h (by simp)

theorem readsOne_miss : miss.ReadsOne fun _ => false where
  nil _ := rfl
  pos _ _ _ h := absurd h (by simp)
  neg _ _ _ _ := rfl

theorem map_snd_pair (p : Parser α) (q : Parser β) :
    (pair p q).map Prod.snd = (p >>= fun _ => q).attempt := by
  have h := map_pair p q fun _ b => b
  simpa only [map_self] using h

namespace ReadsOne

variable {accept accept' : Char → Bool} {p q : Parser Char}

theorem unique (hp : p.ReadsOne accept) (hq : q.ReadsOne accept) (seen rest : Text) :
    p (.between seen rest) = q (.between seen rest) := by
  rcases rest with _ | ⟨ch, rest⟩
  · rw [hp.nil, hq.nil]
  · cases h : accept ch with
    | true => rw [hp.pos seen rest h, hq.pos seen rest h]
    | false => rw [hp.neg seen rest h, hq.neg seen rest h]

theorem congr (hp : p.ReadsOne accept) (h : ∀ ch, accept' ch = accept ch) :
    p.ReadsOne accept' := by
  obtain rfl : accept' = accept := funext h
  exact hp

theorem attempt (hp : p.ReadsOne accept) : p.attempt.ReadsOne accept where
  nil seen := by
    rw [Parser.attempt, hp.nil, Run.ok_bind, Cursor.home_between]
    rfl
  pos seen rest {ch} h := by
    rw [Parser.attempt, hp.pos seen rest h]
    rfl
  neg seen rest {ch} h := by
    rw [Parser.attempt, hp.neg seen rest h, Run.ok_bind, Cursor.home_between]
    rfl

/-! ## Operators -/

/-- A parser that goes on in one of two ways, by what another parser says from the same place. -/
theorem of_test {r s t : Parser Char} {found missing : Char → Bool} (hp : p.ReadsOne accept)
    (ht : t.ReadsOne found) (hs : s.ReadsOne missing)
    (hmatched : ∀ seen rest ch n, p (.between seen rest) = .ok ⟨.matched ch, n, []⟩ →
      r (.between seen rest) = t (.between seen rest))
    (hmissed : ∀ seen rest, p (.between seen rest) = .ok ⟨.missed, seen.byteSize, []⟩ →
      r (.between seen rest) = s (.between seen rest)) :
    r.ReadsOne fun ch => if accept ch then found ch else missing ch := by
  refine ⟨fun seen => ?_, fun seen rest ch h => ?_, fun seen rest ch h => ?_⟩
  · rw [hmissed seen [] (hp.nil seen), hs.nil]
  · cases hch : accept ch with
    | true =>
      rw [hmatched seen _ ch _ (hp.pos seen rest hch), ht.pos seen rest (by simpa [hch] using h)]
    | false => rw [hmissed seen _ (hp.neg seen rest hch), hs.pos seen rest (by simpa [hch] using h)]
  · cases hch : accept ch with
    | true =>
      rw [hmatched seen _ ch _ (hp.pos seen rest hch), ht.neg seen rest (by simpa [hch] using h)]
    | false => rw [hmissed seen _ (hp.neg seen rest hch), hs.neg seen rest (by simpa [hch] using h)]

theorem orElse (hp : p.ReadsOne accept) (hq : q.ReadsOne accept') :
    (orElse p q).ReadsOne fun ch => accept ch || accept' ch := by
  refine (hp.of_test hp hq ?_ ?_).congr fun ch => by cases accept ch <;> simp
  · intro seen rest ch n h
    rw [orElse_of_matched q h, h]
  · intro seen rest h
    rw [orElse_of_missed q h, (Cursor.aligned_between seen rest).moveTo_home, Reply.after_nil]

theorem peek_bind (hp : p.ReadsOne accept) (hq : q.ReadsOne accept') :
    (p.peek >>= fun _ => q).ReadsOne fun ch => accept ch && accept' ch := by
  refine (hp.of_test hq readsOne_miss ?_ ?_).congr fun ch => by cases accept ch <;> simp
  · intro seen rest ch n h
    rw [bind_of_matched _ (peek_of_matched h), (Cursor.aligned_between seen rest).moveTo_home,
      Reply.after_nil]
  · intro seen rest h
    rw [bind_of_missed _ (peek_of_missed h), Cursor.home_between]
    rfl

theorem not_bind (hp : p.ReadsOne accept) (hq : q.ReadsOne accept') :
    (p.not >>= fun _ => q).ReadsOne fun ch => !accept ch && accept' ch := by
  refine (hp.of_test readsOne_miss hq ?_ ?_).congr fun ch => by cases accept ch <;> simp
  · intro seen rest ch n h
    rw [bind_of_missed _ (not_of_matched h), Cursor.home_between]
    rfl
  · intro seen rest h
    rw [bind_of_matched _ (not_of_missed h), (Cursor.aligned_between seen rest).moveTo_home,
      Reply.after_nil]

/-- The complement of a set: any code point behind a negation. -/
theorem complement (hp : p.ReadsOne accept) :
    ((pair p.not anyChar).map Prod.snd).ReadsOne fun ch => !accept ch := by
  rw [map_snd_pair]
  exact (hp.not_bind readsOne_anyChar).attempt.congr fun ch => by simp

/-- The intersection of two sets: one of them behind a look at the other. -/
theorem intersection (hp : p.ReadsOne accept) (hq : q.ReadsOne accept') :
    ((pair p.peek q).map Prod.snd).ReadsOne fun ch => accept ch && accept' ch := by
  rw [map_snd_pair]
  exact (hp.peek_bind hq).attempt

/-- The union of some sets: their parsers as alternatives. -/
theorem union {ι : Type} {accepts : ι → Char → Bool} {ps : ι → Parser Char}
    (h : ∀ i, (ps i).ReadsOne (accepts i)) :
    ∀ is : List ι, (first (is.map ps)).ReadsOne fun ch => is.any fun i => accepts i ch
  | [] => readsOne_miss
  | i :: is => ((h i).orElse (union h is)).congr fun _ => List.any_cons

end ReadsOne

/-! ## Property expressions -/

theorem readsOne_property : ∀ e : Property, e.parser.ReadsOne e.contains
  | .category g => readsOne_charWhere _
  | .binary b => readsOne_charWhere _
  | .not e => (readsOne_property e).complement
  | .and e f => (readsOne_property e).intersection (readsOne_property f)
  | .or e f => by
    rw [Property.parser, any, Family.members_ofList]
    exact (readsOne_property e).orElse ((readsOne_property f).orElse readsOne_miss) |>.congr
      fun ch => by simp [Property.contains]

theorem readsOne_any_char (container : Container) (set : Text) :
    (any (container.family (set.map char))).ReadsOne fun ch => set.contains ch := by
  rw [any_family]
  refine (ReadsOne.union (fun expected => readsOne_charWhere (· == expected)) set).congr fun ch => ?_
  exact List.contains_eq_any_beq

/-- A property expression read at once is the parser put together from the parsers of its parts; a
code point of a text is one of its code points, and a code point that is not in a text is any code
point behind a negation: from each boundary they have the same result. At the end of the input none
of them matches. -/
theorem property_algebra (seen rest : Text) :
    (∀ e : Property, charWithProperty e (.between seen rest) = e.parser (.between seen rest))
    ∧ (∀ (container : Container) (set : Text), charIn set (.between seen rest)
      = any (container.family (set.map char)) (.between seen rest))
    ∧ (∀ set : Text, charNotIn set (.between seen rest)
      = ((pair (charIn set).not anyChar).map Prod.snd) (.between seen rest))
    ∧ (∀ e : Property, e.parser (.between seen []) = .ok ⟨.missed, seen.byteSize, []⟩)
    ∧ ∀ set : Text, charIn set (.between seen []) = .ok ⟨.missed, seen.byteSize, []⟩
      ∧ charNotIn set (.between seen []) = .ok ⟨.missed, seen.byteSize, []⟩ := by
  refine ⟨fun e => ?_, fun container set => ?_, fun set => ?_, fun e => (readsOne_property e).nil seen,
    fun set => ⟨charWhere_nil _ seen, charWhere_nil _ seen⟩⟩
  · exact (readsOne_charWhere e.contains).unique (readsOne_property e) seen rest
  · exact (readsOne_charWhere _).unique (readsOne_any_char container set) seen rest
  · exact (readsOne_charWhere _).unique (readsOne_charWhere _).complement seen rest

end Parser

end Backtrack
