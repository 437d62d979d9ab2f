import Backtrack.Proofs.Likeness

/-!
# What lies behind the cursor

Leaves other than those that look back, tell an offset or move to one see only the text in front of
the cursor (`Parser.LooksAhead`); of the other descriptions, only those that change an error may
make more of an offset than to pass it on. Without such parts a description runs behind any text as
it runs at the start, with all offsets moved on by that text (`Grammar.parser_behind_eq_shift`).
-/

namespace Backtrack

theorem Outcome.shift_shift {α : Type} (k m : Nat) (o : Outcome α) :
    (o.shift m).shift k = o.shift (k + m) := by
  cases o <;> simp [shift, ParseError.shift, Nat.add_assoc]

namespace Cursor

/-- Whether code points are read by count, and which, depends on the text in front only. -/
theorem take_front (rest : Text) (n : Int) :
    (∃ a b, rest = a ++ b
      ∧ ∀ seen, (between seen rest).take n = .ok (some a, between (seen ++ a) b))
    ∨ ∀ seen, (between seen rest).take n = .ok (none, between seen rest) := by
  by_cases hn : 0 ≤ n ∧ n ≤ rest.length
  · obtain ⟨a, b, rfl, ha⟩ := Text.exists_append_of_length_le (n := n.toNat) (t := rest) (by omega)
    obtain rfl : n = a.length := by omega
    exact .inl ⟨a, b, rfl, fun seen => take_append seen a b⟩
  · refine .inr fun seen => ?_
    rcases take_cases seen rest n with ⟨a, b, hab, ha, -⟩ | ⟨-, h⟩
    · rw [hab, List.length_append] at hn
      omega
    · exact h

/-- What a look ahead by count shows depends on the text in front only. -/
theorem peek_front (rest : Text) {n : Int} (hn : 0 ≤ n) : ∃ x : Option Text,
    ∀ seen, (between seen rest).peek n = .ok x := by
  by_cases hle : n ≤ rest.length
  · obtain ⟨a, b, rfl, ha⟩ := Text.exists_append_of_length_le (n := n.toNat) (t := rest) (by omega)
    obtain rfl : n = a.length := by omega
    exact ⟨some a, fun seen => peek_append seen a b⟩
  · refine ⟨none, fun seen => ?_⟩
    rcases peek_cases seen rest n with ⟨a, b, hab, ha, -⟩ | ⟨_, _, _, hneg, -⟩ | ⟨-, h⟩
    · rw [hab, List.length_append] at hle
      omega
    · omega
    · exact h

end Cursor

/-! ## Parsers that see what is in front -/

namespace Parser

variable {α β : Type} {p : Parser α}

/-- In front of a text, the parser has one outcome and reads one first part of the text, whatever is
behind it; the offset of an error counts from where the parser begins. -/
def Sees (p : Parser α) (rest : Text) : Prop :=
  ∃ (o : Outcome α) (a b : Text), rest = a ++ b ∧
    ∀ seen, p (.between seen rest) = .ok ⟨o.shift seen.byteSize, (seen ++ a).byteSize, []⟩

/-- What the parser reads and says depends on the text in front of it only. -/
def LooksAhead (p : Parser α) : Prop := ∀ rest, p.Sees rest

theorem sees_of_matched {v : α} {a b : Text}
    (h : ∀ seen, p (.between seen (a ++ b)) = .ok ⟨.matched v, (seen ++ a).byteSize, []⟩) :
    p.Sees (a ++ b) :=
  ⟨.matched v, a, b, rfl, h⟩

theorem sees_of_stays {rest : Text} (o : Outcome α)
    (h : ∀ seen, p (.between seen rest) = .ok ⟨o.shift seen.byteSize, seen.byteSize, []⟩) :
    p.Sees rest :=
  ⟨o, [], rest, rfl, fun seen => by rw [h, List.append_nil]⟩

theorem looksAhead_charWhere (accept : Char → Bool) : (charWhere accept).LooksAhead := by
  rintro (_ | ⟨ch, rest⟩)
  · exact sees_of_stays .missed (charWhere_nil accept)
  · by_cases hch : accept ch
    · refine sees_of_matched (v := ch) (a := [ch]) fun seen => ?_
      exact (charWhere_cons accept seen ch rest).trans (if_pos hch)
    · refine sees_of_stays .missed fun seen => ?_
      exact (charWhere_cons accept seen ch rest).trans (if_neg hch)

theorem looksAhead_anyChar : anyChar.LooksAhead := by
  intro rest
  obtain ⟨o, a, b, hrest, h⟩ := looksAhead_charWhere (fun _ => true) rest
  exact ⟨o, a, b, hrest, fun seen => (anyChar_between seen rest).trans (h seen)⟩

theorem looksAhead_eof : eof.LooksAhead := by
  rintro (_ | ⟨ch, rest⟩)
  · exact sees_of_stays (.matched ()) eof_nil
  · exact sees_of_stays .missed fun seen => eof_cons seen ch rest

theorem looksAhead_literalBy (same : Text → Text → Bool) (expected : Text) :
    (literalBy same expected).LooksAhead := by
  intro rest
  obtain ⟨x, hx⟩ := Cursor.peek_front rest (n := expected.length) (by omega)
  rcases x with _ | candidate
  · exact sees_of_stays .missed fun seen => by rw [literalBy, hx]; rfl
  by_cases hs : same candidate expected = true
  · rcases Cursor.take_front rest expected.length with ⟨a, b, rfl, h⟩ | h
    · refine sees_of_matched (v := candidate) fun seen => ?_
      simp only [literalBy, hx, h, Run.ok_bind, hs, if_true]
      rfl
    · refine sees_of_stays (.matched candidate) fun seen => ?_
      simp only [literalBy, hx, h, Run.ok_bind, hs, if_true]
      rfl
  · refine sees_of_stays .missed fun seen => ?_
    simp only [literalBy, hx, Run.ok_bind, hs]
    rfl

theorem looksAhead_asciiLiteralBy (same : Text → Text → Bool) (expected : Text) :
    (asciiLiteralBy same expected).LooksAhead := by
  intro rest
  rcases htake : rest.takeBytes? expected.byteSize with _ | a
  · refine sees_of_stays .missed fun seen => ?_
    simp only [asciiLiteralBy, Cursor.remaining_between, Run.ok_bind, htake]
    rfl
  obtain ⟨⟨b, rfl⟩, -⟩ := Text.exists_append_of_takeBytes? htake
  by_cases hs : (same a expected && a.all Ascii.isAscii) = true
  · refine sees_of_matched (v := a) fun seen => ?_
    simp only [asciiLiteralBy, Cursor.remaining_between, Run.ok_bind, htake, Cursor.take_append, hs,
      if_true]
    rfl
  · refine sees_of_stays .missed fun seen => ?_
    simp only [asciiLiteralBy, Cursor.remaining_between, Run.ok_bind, htake, hs]
    rfl

theorem looksAhead_takeCount (n : Int) : (takeCount n).LooksAhead := by
  intro rest
  rcases Cursor.take_front rest n with ⟨a, b, rfl, h⟩ | h
  · exact sees_of_matched fun seen => by rw [takeCount, h]; rfl
  · exact sees_of_stays .missed fun seen => by rw [takeCount, h]; rfl

theorem looksAhead_peekCount {n : Int} (hn : 0 ≤ n) : (peekCount n).LooksAhead := by
  intro rest
  obtain ⟨x, hx⟩ := Cursor.peek_front rest hn
  rcases x with _ | a
  · exact sees_of_stays .missed fun seen => by rw [peekCount, hx]; rfl
  · exact sees_of_stays (.matched a) fun seen => by rw [peekCount, hx]; rfl

theorem looksAhead_leak (n : Int) : (leak n : Parser α).LooksAhead := by
  intro rest
  rcases Cursor.take_front rest n with ⟨a, b, rfl, h⟩ | h
  · exact ⟨.missed, a, b, rfl, fun seen => by rw [leak, h]; rfl⟩
  · exact sees_of_stays .missed fun seen => by rw [leak, h]; rfl

/-- The error points as far on as the parser read. -/
theorem looksAhead_raiseAfter (n : Int) (kind : ErrorKind) (cause : Option String) :
    (raiseAfter n kind cause : Parser α).LooksAhead := by
  intro rest
  rcases Cursor.take_front rest n with ⟨a, b, rfl, h⟩ | h
  · refine ⟨.failed ⟨kind, a.byteSize, cause.toList.map .told⟩, a, b, rfl, fun seen => ?_⟩
    rw [raiseAfter, h]
    simp only [Outcome.shift, ParseError.shift, ← Text.byteSize_append]
    rfl
  · refine sees_of_stays (.failed ⟨kind, 0, cause.toList.map .told⟩) fun seen => ?_
    rw [raiseAfter, h]
    rfl

end Parser

namespace Likeness

variable {α : Type} {L : Likeness} {p : Parser α}

theorem relates_of_looksAhead (h : p.LooksAhead) : L.Relates p p := by
  rintro c c' ⟨seen, rest, ht, rfl, rfl⟩
  obtain ⟨o, a, b, rfl, h⟩ := h rest
  rw [h, h]
  refine relatesRun_ok ⟨?_, ?_, ⟨seen ++ a, b, by simp [ht], rfl⟩, L.logs_nil⟩
  · dsimp only
    rw [Outcome.shift_shift, Text.byteSize_append]
  · dsimp only
    rw [List.append_assoc, Text.byteSize_append]

theorem at_self (h : L.ahead = []) {c : Cursor} (hc : c.Aligned) (ht : c.text = L.text) :
    L.At c c := by
  obtain ⟨seen, rest, rfl⟩ := hc.exists_between
  exact ⟨seen, rest, ht.symm, by rw [h, List.nil_append], rfl⟩

theorem At.eq (h : L.ahead = []) {c c' : Cursor} (hc : L.At c c') : c = c' := by
  obtain ⟨seen, rest, -, rfl, rfl⟩ := hc
  rw [h, List.nil_append]

/-- With the same text behind both runs they are one run. -/
theorem relates_self (h : L.ahead = [])
    (hp : ∀ c : Cursor, c.Aligned → c.text = L.text →
      Run.Meets L.Shares (fun r => L.text.IsBoundary r.stop ∧ L.Logs r.log r.log) (p c)) :
    L.Relates p p := by
  intro c c' hc
  have hrun := hp c' hc.aligned hc.text_eq
  have hoffset : L.offset = 0 := by rw [offset, h]; rfl
  rw [hc.eq h]
  rcases hx : p c' with f | r <;> rw [hx] at hrun
  · exact .inr ⟨hrun, rfl⟩
  · refine relatesRun_ok ⟨?_, ?_, hrun⟩
    · rw [hoffset, Outcome.shift_zero]
    · rw [hoffset, Nat.zero_add]

end Likeness

/-! ## Leaves -/

/-- A leaf that neither looks behind the cursor nor has to do with offsets. -/
def Leaf.Local : Leaf → Prop
  | position | goto _ => False
  | peekCount n => 0 ≤ n
  | _ => True

namespace Likeness

variable {L : Likeness} {rounds rounds' : Nat}

/-- Loops of a few needed items are alike. -/
def FewNeeded (L : Likeness) (rounds rounds' : Nat) : Prop :=
  ∀ (α : Type) (item : Parser α) (min : Nat) (proceed : Nat → Bool), min ≤ 4 →
    item.Within .onward → L.Relates item item →
    L.Relates (.repeatWhile rounds min proceed item) (.repeatWhile rounds' min proceed item)

theorem relates_charWhere (accept : Char → Bool) :
    L.Relates (Parser.charWhere accept) (Parser.charWhere accept) :=
  relates_of_looksAhead (Parser.looksAhead_charWhere accept)

theorem relates_literalBy (same : Text → Text → Bool) (expected : Text) :
    L.Relates (Parser.literalBy same expected) (Parser.literalBy same expected) :=
  relates_of_looksAhead (Parser.looksAhead_literalBy same expected)

theorem relates_spelled (spellings : List String) :
    L.Relates (Parser.spelled spellings) (Parser.spelled spellings) :=
  relates_first fun _ _ => relates_literalBy _ _

theorem relates_dayOfWeek : L.Relates Parser.dayOfWeek Parser.dayOfWeek :=
  relates_choice (f := fun d : Weekday => (Parser.spelled d.spellings).withValue d)
    fun _ _ => (relates_spelled _).map _

theorem relates_monthOfYear : L.Relates Parser.monthOfYear Parser.monthOfYear :=
  relates_choice (f := fun m : Month => (Parser.spelled m.spellings).withValue m)
    fun _ _ => (relates_spelled _).map _

theorem relates_yearMonthDay (hloop : L.FewNeeded rounds rounds') :
    L.Relates (Parser.yearMonthDay rounds) (Parser.yearMonthDay rounds') := by
  have hyear : L.Relates (Parser.times rounds 4 Parser.digit)
      (Parser.times rounds' 4 Parser.digit) :=
    hloop _ _ _ _ (Nat.le_refl 4) (Parser.within_charWhere _) (relates_charWhere _)
  unfold Parser.yearMonthDay
  refine .tryMap (.recognize (.sequence (.bind hyear fun _ => ?_))) _
  refine .bind (relates_charWhere _) fun _ => .bind (relates_charWhere _) fun _ => ?_
  refine .bind (relates_charWhere _) fun _ => .bind (relates_charWhere _) fun _ => ?_
  exact .bind (relates_charWhere _) fun _ => .bind (relates_charWhere _) fun _ => relates_succeed _

theorem relates_daysOfWeek (hloop : L.FewNeeded rounds rounds') :
    L.Relates (Parser.daysOfWeek rounds) (Parser.daysOfWeek rounds') := by
  refine hloop _ _ _ _ (by omega) ?_ ?_
  · refine .sequence (.bind Parser.within_dayOfWeek fun _ => ?_)
    exact .bind (Parser.within_charWhere _).optional fun _ => Parser.within_succeed _
  · refine .sequence (.bind relates_dayOfWeek fun _ => ?_)
    exact .bind (relates_charWhere _).optional fun _ => relates_succeed _

theorem relates_monthDay (hloop : L.FewNeeded rounds rounds') :
    L.Relates (Parser.monthDay rounds) (Parser.monthDay rounds') := by
  have hnumber : L.Relates (Parser.recognize (Parser.oneOrMore rounds Parser.digit))
      (Parser.recognize (Parser.oneOrMore rounds' Parser.digit)) :=
    (hloop _ _ _ _ (by omega) (Parser.within_charWhere _) (relates_charWhere _)).recognize
  unfold Parser.monthDay
  refine .tryMap (.sequence (.bind hnumber fun _ => ?_)) _
  exact .bind (relates_spelled _).optional fun _ => relates_succeed _

theorem relates_calendarField (hloop : L.FewNeeded rounds rounds') :
    ∀ f : CalendarField, L.Relates (f.parser rounds) (f.parser rounds')
  | .yearMonthDay => (relates_yearMonthDay hloop).map _
  | .dayOfWeek => relates_dayOfWeek.map _
  | .daysOfWeek => (relates_daysOfWeek hloop).map _
  | .monthOfYear => relates_monthOfYear.map _
  | .monthDay => (relates_monthDay hloop).map _

/-- A leaf is like itself unless it has to do with what is behind, and this is not the same. -/
theorem relates_leaf {l : Leaf} (hl : L.ahead = [] ∨ l.Local) (hloop : L.FewNeeded rounds rounds') :
    L.Relates (l.parser rounds) (l.parser rounds') := by
  have hblanks : ∀ (min : Nat) (accept : Char → Bool), min ≤ 4 →
      L.Relates (Parser.recognize (.repeatWhile rounds min (fun _ => true) (.charWhere accept)))
        (Parser.recognize (.repeatWhile rounds' min (fun _ => true) (.charWhere accept))) :=
    fun min accept hmin =>
      (hloop _ _ min _ hmin (Parser.within_charWhere _) (relates_charWhere _)).recognize
  cases l with
  | position =>
    refine (relates_self (hl.resolve_right id) fun c hc ht => ?_).map _
    exact And.intro (ht ▸ hc) L.logs_nil
  | goto n =>
    refine (relates_self (hl.resolve_right id) fun c _ ht => ?_).map _
    exact And.intro (ht ▸ c.aligned_restore n) L.logs_nil
  | peekCount n =>
    refine Relates.map ?_ _
    rcases hl with hl | hn
    · refine relates_self hl fun c hc ht => ?_
      obtain ⟨seen, rest, rfl⟩ := hc.exists_between
      rcases Parser.isToken_peekCount n seen rest with ⟨v, b, -, h⟩ | h <;> rw [h]
      · rw [List.append_nil]
        exact And.intro (ht ▸ hc) L.logs_nil
      · exact And.intro (ht ▸ hc) L.logs_nil
    · exact relates_of_looksAhead (Parser.looksAhead_peekCount hn)
  | eof => exact (relates_of_looksAhead Parser.looksAhead_eof).map _
  | anyChar => exact (relates_of_looksAhead Parser.looksAhead_anyChar).map _
  | takeCount n => exact (relates_of_looksAhead (Parser.looksAhead_takeCount n)).map _
  | leak n => exact relates_of_looksAhead (Parser.looksAhead_leak n)
  | raise n kind cause => exact relates_of_looksAhead (Parser.looksAhead_raiseAfter n kind cause)
  | calendar f => exact relates_calendarField hloop f
  | whitespace | inlineWhitespace | optionalWhitespace | optionalInlineWhitespace =>
    exact (hblanks _ _ (by omega)).map _
  | letter | digit | char | charIn | charNotIn | charWhere | charWithProperty | ascii
  | asciiWhere =>
    exact (relates_charWhere _).map _
  | cr | lf | crlf | literal | literalInsensitive => exact (relates_literalBy _ _).map _
  | asciiLiteral | asciiLiteralInsensitive =>
    exact (relates_of_looksAhead (Parser.looksAhead_asciiLiteralBy _ _)).map _
  | newline =>
    exact (Relates.orElse (relates_literalBy _ _)
      (.orElse (relates_literalBy _ _) relates_miss)).map _

end Likeness

/-! ## Descriptions -/

/-- A description whose outermost part neither looks behind the cursor nor has to do with offsets,
as to tell one, to move to one, or to put one into the causes of an error. -/
def Expr.Local : Expr → Prop
  | .leaf l => l.Local
  | .relabelError _ _ | .wrapError _ => False
  | _ => True

namespace Likeness

variable {L : Likeness} {call call' : String → Parser Value} {rounds rounds' : Nat}

/-- A description is like itself if its leaf, its members, its rule and its loop are, unless it has
to do with what is behind, and this is not the same. -/
theorem relates_expr {e : Expr} (he : L.ahead = [] ∨ e.Local)
    (hleaf : ∀ l, e = .leaf l → L.Relates (l.parser rounds) (l.parser rounds'))
    (hmember : ∀ d ∈ e.members, L.Relates (d.parser call rounds) (d.parser call' rounds'))
    (hrule : ∀ name, e = .rule name → L.Relates (call name) (call' name))
    (hrepeated : ∀ q d, e = .repeated q d → L.Relates (q.parser rounds (d.parser call rounds))
      (q.parser rounds' (d.parser call' rounds')))
    (hscan : ∀ kind d f, e = .scan kind d f →
      L.Relates (Parser.scan kind rounds (d.parser call rounds) (f.parser call rounds))
        (Parser.scan kind rounds' (d.parser call' rounds') (f.parser call' rounds')))
    (hscanText : ∀ kind f, e = .scanText kind f →
      L.Relates (Parser.scanText kind rounds (f.parser call rounds))
        (Parser.scanText kind rounds' (f.parser call' rounds'))) :
    L.Relates (e.parser call rounds) (e.parser call' rounds') := by
  have hmapError : ∀ d (f : ParseError → ParseError), d ∈ e.members → L.ahead = [] →
      L.Relates ((d.parser call rounds).mapError f) ((d.parser call' rounds').mapError f) := by
    intro d f hd hahead
    refine (hmember d hd).mapError fun x => ?_
    have hshift : ∀ x : ParseError, x.shift L.offset = x := by
      intro x
      rw [offset, hahead]
      simp [ParseError.shift, Text.byteSize]
    rw [hshift, hshift]
  cases e with
  | leaf l => exact hleaf l rfl
  | rule name => exact hrule name rfl
  | shared e | erased e => exact hmember e (by simp [Expr.members])
  | map f e | withValue t e => exact (hmember e (by simp [Expr.members])).map _
  | tryMap f e => exact (hmember e (by simp [Expr.members])).tryMap _
  | verify test e => exact (hmember e (by simp [Expr.members])).verify _
  | relabelError kind e => exact hmapError e _ (by simp [Expr.members]) (he.resolve_right id)
  | wrapError e => exact hmapError e _ (by simp [Expr.members]) (he.resolve_right id)
  | optional e => exact (hmember e (by simp [Expr.members])).optional.map _
  | recognize e => exact (hmember e (by simp [Expr.members])).recognize.map _
  | spanned e => exact (hmember e (by simp [Expr.members])).spanned.map _
  | peek e => exact (hmember e (by simp [Expr.members])).peek
  | not e => exact (hmember e (by simp [Expr.members])).not.map _
  | complete e => exact (hmember e (by simp [Expr.members])).complete
  | pair e f =>
    exact (Relates.pair (hmember e (by simp [Expr.members]))
      (hmember f (by simp [Expr.members]))).map _
  | or e f =>
    exact (Relates.or (hmember e (by simp [Expr.members]))
      (hmember f (by simp [Expr.members]))).map _
  | seq es =>
    simp only [Expr.parser, Expr.parsers_eq_map]
    exact (relates_each hmember).sequence.map _
  | chain e es =>
    simp only [Expr.parser, Expr.parsers_eq_map]
    exact (relates_chain (f := Expr.parser call rounds) (g := Expr.parser call' rounds')
      hmember).map _
  | choice e es =>
    simp only [Expr.parser, Expr.parsers_eq_map]
    exact relates_choice (f := Expr.parser call rounds) (g := Expr.parser call' rounds') hmember
  | any container es =>
    simp only [Expr.parser, Parser.any, Container.members_family, Expr.parsers_eq_map]
    exact relates_first hmember
  | all container es =>
    simp only [Expr.parser, Parser.all, Container.members_family, Expr.parsers_eq_map]
    exact (relates_each hmember).attempt.map _
  | nth container index es =>
    simp only [Expr.parser, Container.nth_family, Container.count_family, Expr.parsers_eq_map,
      List.getElem?_map, List.length_map]
    refine Relates.map ?_ _
    rcases hi : es[index]? with _ | d
    · exact relates_miss
    · exact hmember d (List.mem_of_getElem? hi)
  | repeated quantity e => exact (hrepeated quantity e rfl).map _
  | scan kind e f => exact (hscan kind e f rfl).map _
  | scanText kind f => exact (hscanText kind f rfl).map _

/-- Where loops take the same rounds, a description is like itself if its members and its rule
are. -/
theorem SameRounds.relates_expr (hr : L.SameRounds rounds rounds') {e : Expr}
    (he : L.ahead = [] ∨ e.Local)
    (hmember : ∀ d ∈ e.members, L.Relates (d.parser call rounds) (d.parser call' rounds'))
    (hrule : ∀ name, e = .rule name → L.Relates (call name) (call' name)) :
    L.Relates (e.parser call rounds) (e.parser call' rounds') := by
  refine Likeness.relates_expr he ?_ hmember hrule ?_ ?_ ?_
  · rintro l rfl
    exact relates_leaf he fun _ _ min proceed _ _ hitem => hitem.repeatWhile hr min proceed
  · rintro q d rfl
    have hd := hmember d (by simp [Expr.members])
    cases q <;> exact hd.repeatWhile hr _ _
  · rintro kind d f rfl
    exact Relates.scan (hmember d (by simp [Expr.members])) (hmember f (by simp [Expr.members])) hr
      kind
  · rintro kind f rfl
    have hchar : L.Relates Parser.anyChar Parser.anyChar :=
      relates_of_looksAhead Parser.looksAhead_anyChar
    exact (hchar.scan (hmember f (by simp [Expr.members])) hr kind).recognize

end Likeness

/-! ## Runs behind another text -/

/-- Runs behind `u` and runs at the start, which share all faults and all records. -/
def Likeness.behind (u w : Text) : Likeness where
  ahead := u
  text := w
  Excuses _ := False
  Shares _ := True
  Logs log log' := log = log'.map (Record.shift u.byteSize)
  logs_nil := List.map_nil.symm
  logs_singleton _ := rfl
  logs_append h h' := by rw [h, h', List.map_append]

namespace Grammar

variable {g : Grammar} {e : Expr}

theorem relates_behind (budget depth : Nat) (u w : Text) (he : ∀ d, g.Part e d → d.Local) :
    (Likeness.behind u w).Relates (e.parser (g.call budget depth) budget)
      (e.parser (g.call budget depth) budget) := by
  refine parser_induction (Q := fun p => (Likeness.behind u w).Relates p p)
    (fun _ _ _ => .inr ⟨trivial, rfl⟩) (fun _ _ _ _ => .inr ⟨trivial, rfl⟩) ?_ he depth
  intro call d hd hmember hrule
  exact Likeness.SameRounds.relates_expr (.inl ⟨trivial, rfl⟩) (.inr hd) hmember hrule

/-- Behind any text, a description of parts that neither look back nor have to do with offsets runs
as at the start, with the offsets moved on by that text. -/
theorem parser_behind_eq_shift (budget : Nat) (u w : Text) (he : ∀ d, g.Part e d → d.Local) :
    g.parser budget e (.between u w) = Reply.shift u.byteSize <$> g.parser budget e (.start w) := by
  have hstart : (Likeness.behind u w).At (.between u w) (.start w) :=
    ⟨[], w, rfl, by rw [Likeness.behind, List.append_nil], rfl⟩
  have h := relates_behind budget budget u w he _ _ hstart
  unfold parser
  rcases hrun : e.parser (g.call budget budget) budget (.between u w) with f | ⟨o, n, log⟩ <;>
    rw [hrun] at h
  · obtain h | ⟨-, h⟩ := h
    · exact h.elim
    · rw [h]
      rfl
  · obtain ⟨s, hs, ho, hn, -, hlog⟩ := h
    dsimp only [Likeness.behind] at ho hn hlog
    rw [hs, ho, hn, hlog]
    rfl

/-- A number that is none, three bytes further on: the error, the place gone back to and both
records are three bytes further on as well. -/
theorem parser_behind_eq_shift_number :
    (∀ d, Part [] (.seq [.leaf (.char 'é'), .tryMap (.int .unsigned32 10) (.leaf (.takeCount 2))]) d
        → d.Local)
      ∧ parser [] 1
          (.seq [.leaf (.char 'é'), .tryMap (.int .unsigned32 10) (.leaf (.takeCount 2))])
          (.between ['ß', 'a'] ['é', '1', 'x'])
        = .ok ⟨.failed ⟨.invalidInput, 5, [.number .invalidDigit]⟩, 3,
            [.conversionError 5, .sequenceError 3]⟩ := by
  have hlocal : ∀ d, Part []
      (.seq [.leaf (.char 'é'), .tryMap (.int .unsigned32 10) (.leaf (.takeCount 2))]) d →
        d.Local := by
    intro d hd
    rw [part_iff] at hd
    simp only [Expr.members, List.mem_cons, List.not_mem_nil, or_false, exists_eq_or_imp,
      exists_eq_left, part_leaf, reduceCtorEq, false_and, exists_false] at hd
    rcases hd with rfl | rfl | hd
    · trivial
    · trivial
    rw [part_iff] at hd
    simp only [Expr.members, List.mem_singleton, exists_eq_left, part_leaf, reduceCtorEq,
      false_and, exists_false, or_false] at hd
    rcases hd with rfl | rfl <;> trivial
  exact ⟨hlocal, parser_behind_eq_shift 1 ['ß', 'a'] ['é', '1', 'x'] hlocal⟩

end Grammar

end Backtrack
