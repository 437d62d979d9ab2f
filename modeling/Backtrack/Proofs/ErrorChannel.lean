import Backtrack.Proofs.Conduct

/-!
# The way of an error

The run of a description is a dialogue with its sites in which an error is the last word. What is
reported is the error itself, or what the layers around its site make of it, and no error is
reported that no site has answered with (`Grammar.error_ends_run`).
-/

namespace Backtrack

namespace Parser

variable {α : Type}

/-! ## Parsers without errors -/

/-- The parser asks nothing, so it never reports an error. -/
abbrev Harmless (p : Parser α) : Prop := Conducts (fun _ _ => False) fun _ => p

theorem harmless_of_meets {p : Parser α}
    (h : ∀ c, Run.Meets (fun _ => True) (fun r => r.error? = none) (p c)) : p.Harmless :=
  fun c => .silent fun _ hr => (h c).of_eq_ok hr

theorem Harmless.error?_eq_none {p : Parser α} (hp : p.Harmless) {c : Cursor} {r : Reply α}
    (h : p c = .ok r) : r.error? = none := by
  obtain ⟨t, ht, hsettles⟩ := hp c
  rcases t with x | ⟨s, c', layers, next⟩
  · exact hsettles r ((ht (Site.parser 0)).symm.trans h)
  · exact hsettles.1.elim

theorem harmless_anyChar : anyChar.Harmless := by
  refine harmless_of_meets fun c => ?_
  unfold anyChar
  refine Run.meets_bind ?_
  rintro ⟨_ | ch, next⟩ <;> rfl

theorem harmless_charWhere (accept : Char → Bool) : (charWhere accept).Harmless := by
  refine harmless_of_meets fun c => ?_
  unfold charWhere
  refine Run.meets_bind ?_
  rintro (_ | ch)
  · rfl
  · dsimp only
    split_ifs
    · exact Run.meets_of_forall_ok fun r hr => harmless_anyChar.error?_eq_none hr
    · rfl

theorem harmless_literalBy (same : Text → Text → Bool) (t : Text) :
    (literalBy same t).Harmless := by
  refine harmless_of_meets fun c => ?_
  unfold literalBy
  refine Run.meets_bind ?_
  rintro (_ | a)
  · rfl
  · dsimp only
    split_ifs
    · exact Run.meets_bind fun _ => rfl
    · rfl

theorem harmless_asciiLiteralBy (same : Text → Text → Bool) (t : Text) :
    (asciiLiteralBy same t).Harmless := by
  refine harmless_of_meets fun c => ?_
  unfold asciiLiteralBy
  refine Run.meets_bind fun rest => ?_
  rcases rest.takeBytes? t.byteSize with _ | a
  · rfl
  · dsimp only
    split_ifs
    · exact Run.meets_bind fun _ => rfl
    · rfl

theorem harmless_eof : eof.Harmless := by
  refine harmless_of_meets fun c => ?_
  unfold eof
  refine Run.meets_bind ?_
  rintro (_ | a) <;> rfl

theorem harmless_peekCount (n : Int) : (peekCount n).Harmless := by
  refine harmless_of_meets fun c => ?_
  unfold peekCount
  refine Run.meets_bind ?_
  rintro (_ | a) <;> rfl

theorem harmless_takeCount (n : Int) : (takeCount n).Harmless := by
  refine harmless_of_meets fun c => ?_
  unfold takeCount
  refine Run.meets_bind ?_
  rintro ⟨_ | a, next⟩ <;> rfl

end Parser

namespace Leaf

/-- The leaf may report an error. -/
def CanFail : Leaf → Prop
  | raise _ _ _ | calendar _ => True
  | _ => False

theorem harmless {l : Leaf} (hl : ¬ l.CanFail) (rounds : Nat) : (l.parser rounds).Harmless := by
  have hchar : ∀ accept, (Parser.charWhere accept).Harmless := Parser.harmless_charWhere
  have hliteral : ∀ same t, (Parser.literalBy same t).Harmless := Parser.harmless_literalBy
  have hascii : ∀ same t, (Parser.asciiLiteralBy same t).Harmless := Parser.harmless_asciiLiteralBy
  cases l with
  | raise | calendar => exact absurd trivial hl
  | eof => exact Parser.harmless_eof.map _
  | anyChar => exact Parser.harmless_anyChar.map _
  | position => exact Parser.conducts_position.map _
  | goto n => exact fun c => .ok _
  | peekCount n => exact (Parser.harmless_peekCount n).map _
  | takeCount n => exact (Parser.harmless_takeCount n).map _
  | leak n => exact Parser.harmless_of_meets fun c => Run.meets_bind fun _ => rfl
  | whitespace | inlineWhitespace | optionalWhitespace | optionalInlineWhitespace =>
    exact (Parser.Conducts.recognize ((hchar _).repeatWhile _ _ _)).map _
  | letter | digit | char | charIn | charNotIn | charWhere | charWithProperty | ascii
  | asciiWhere =>
    exact (hchar _).map _
  | cr | lf | crlf | literal | literalInsensitive => exact (hliteral _ _).map _
  | asciiLiteral | asciiLiteralInsensitive => exact (hascii _ _).map _
  | newline =>
    exact ((hliteral _ _).orElse ((hliteral _ _).orElse Parser.conducts_miss)).map _

end Leaf

/-- The outermost combinator may report an error of its own. -/
def Expr.CanFail : Expr → Prop
  | leaf l => l.CanFail
  | tryMap _ _ | complete _ => True
  | _ => False

namespace Grammar.Sits

variable {g : Grammar} {path : Path} {e : Expr} {s : Site} {layers : List Layer}

theorem of_member {i : Nat} {m : Expr} (hm : e.members[i]? = some m) (he : e.layers = [])
    (h : g.Sits (i :: path) m s layers) : g.Sits path e s layers := by
  have := Sits.member hm h
  rwa [he, List.append_nil] at this

theorem layers_eq_nil (h : g.Sits path e s layers) (he : ∀ d, g.Part e d → d.layers = []) :
    layers = [] := by
  induction h with
  | leaf | conversion | leftover | unknown => rfl
  | member hm _ ih =>
    rw [ih (forall_part_member he (List.mem_of_getElem? hm)), he _ (.self _), List.append_nil]
  | called hname _ ih => exact ih fun d hd => he d (.called hname hd)

/-- Where no part can fail, the sites are leaves without errors and unknown names. -/
theorem error?_eq_none (h : g.Sits path e s layers) (he : ∀ d, g.Part e d → ¬ d.CanFail)
    {rounds : Nat} {c : Cursor} {r : Reply Value} (hr : s.parser rounds c = .ok r) :
    r.error? = none := by
  induction h with
  | leaf => exact (Leaf.harmless (he _ (.self _)) rounds).error?_eq_none hr
  | conversion | leftover => exact absurd trivial (he _ (.self _))
  | unknown => cases hr
  | member hm _ ih => exact ih (forall_part_member he (List.mem_of_getElem? hm)) hr
  | called hname _ ih => exact ih (fun d hd => he d (.called hname hd)) hr

end Grammar.Sits

/-- A description asks the sites of its members, and one of its own if it converts or checks. -/
theorem Expr.conducts {g : Grammar} {call : Oracle → Path → String → Parser Value} {rounds : Nat}
    {path : Path} {e : Expr}
    (hmember : ∀ i d, e.members[i]? = some d → Parser.Conducts (g.Sits (i :: path) d)
      fun o => d.parserWith o (call o) rounds (i :: path))
    (hrule : ∀ name, e = rule name → Parser.Conducts (g.Sits path e) fun o => call o path name) :
    Parser.Conducts (g.Sits path e) fun o => e.parserWith o (call o) rounds path := by
  have hlift : e.layers = [] → ∀ (i : Nat) (d : Expr), e.members[i]? = some d →
      Parser.Conducts (g.Sits path e) fun o => d.parserWith o (call o) rounds (i :: path) :=
    fun he i d hd => (hmember i d hd).imp fun _ _ => Grammar.Sits.of_member hd he
  have hlist : ∀ o i es, parsersWith o (call o) rounds path i es
      = ((es.zipIdx i).map fun d o =>
          d.1.parserWith o (call o) rounds (d.2 :: path)).map (· o) := by
    intro o i es
    rw [parsersWith_eq_map, List.map_map]
    rfl
  have hforall : ∀ {es : List Expr}, (∀ (i : Nat) (d : Expr), es[i]? = some d →
        Parser.Conducts (g.Sits path e) fun o => d.parserWith o (call o) rounds (i :: path)) →
      ∀ p ∈ es.zipIdx.map fun d o => d.1.parserWith o (call o) rounds (d.2 :: path),
        Parser.Conducts (g.Sits path e) p := by
    intro es h p hp
    obtain ⟨⟨d, i⟩, hd, rfl⟩ := List.mem_map.1 hp
    exact h i d (List.mk_mem_zipIdx_iff_getElem?.1 hd)
  cases e with
  | leaf l => exact Parser.conducts_site .leaf
  | rule name => exact hrule name rfl
  | shared e | erased e => exact hlift rfl 0 e rfl
  | map f e | withValue t e => exact (hlift rfl 0 e rfl).map _
  | tryMap f e =>
    refine .attempt (.bind Parser.conducts_position fun start => ?_)
    exact .bind (hlift rfl 0 e rfl) fun v => Parser.conducts_site .conversion
  | complete e =>
    exact .attempt (.bind (hlift rfl 0 e rfl) fun v => Parser.conducts_site .leftover)
  | verify test e => exact (hlift rfl 0 e rfl).verify _
  | relabelError kind e => exact (hmember 0 e rfl).mapError fun _ _ => Grammar.Sits.member rfl
  | wrapError e => exact (hmember 0 e rfl).mapError fun _ _ => Grammar.Sits.member rfl
  | optional e => exact (hlift rfl 0 e rfl).optional.map _
  | recognize e => exact (hlift rfl 0 e rfl).recognize.map _
  | spanned e => exact (hlift rfl 0 e rfl).spanned.map _
  | peek e => exact (hlift rfl 0 e rfl).peek
  | not e => exact (hlift rfl 0 e rfl).not.map _
  | pair e f => exact ((hlift rfl 0 e rfl).pair (hlift rfl 1 f rfl)).map _
  | or e f => exact ((hlift rfl 0 e rfl).or (hlift rfl 1 f rfl)).map _
  | seq es =>
    simp only [parserWith, hlist]
    exact (Parser.conducts_each (hforall (hlift rfl))).sequence.map _
  | chain e es =>
    simp only [parserWith, hlist]
    have hps := hforall (hlift rfl)
    exact (Parser.conducts_chain hps).map _
  | choice e es =>
    simp only [parserWith, hlist]
    have hps := hforall (hlift rfl)
    exact Parser.conducts_choice hps
  | any container es =>
    simp only [parserWith, Parser.any, Container.members_family, hlist]
    exact Parser.conducts_first (hforall (hlift rfl))
  | all container es =>
    simp only [parserWith, Parser.all, Container.members_family, hlist]
    exact (Parser.conducts_each (hforall (hlift rfl))).attempt.map _
  | nth container index es =>
    simp only [parserWith, Container.nth_family, Container.count_family, parsersWith_eq_map,
      List.length_map, List.getElem?_map, List.getElem?_zipIdx, Nat.zero_add]
    rcases hd : es[index]? with _ | d
    · exact Parser.conducts_miss.map _
    · exact (hlift rfl index d hd).map _
  | repeated quantity e => cases quantity <;> exact ((hlift rfl 0 e rfl).repeatWhile _ _ _).map _
  | scan kind e f => exact ((hlift rfl 0 e rfl).scan (hlift rfl 1 f rfl) kind rounds).map _
  | scanText kind f =>
    have hchar : Parser.Conducts (g.Sits path (scanText kind f)) fun _ => Parser.anyChar :=
      Parser.harmless_anyChar.imp fun _ _ h => h.elim
    exact (hchar.scan (hlift rfl 0 f rfl) kind rounds).recognize.map _

namespace Grammar

theorem conducts (g : Grammar) (budget depth : Nat) (path : Path) (e : Expr) :
    Parser.Conducts (g.Sits path e)
      fun o => e.parserWith o (g.callWith o budget depth) budget path := by
  induction depth generalizing path e with
  | zero =>
    induction e using Expr.members_induction generalizing path with
    | step e ih =>
      exact Expr.conducts (fun i d hd => ih d (List.mem_of_getElem? hd) (i :: path))
        fun _ _ _ => .silent fun _ h => by cases h
  | succ depth ihdepth =>
    induction e using Expr.members_induction generalizing path with
    | step e ih =>
      refine Expr.conducts (fun i d hd => ih d (List.mem_of_getElem? hd) (i :: path)) ?_
      rintro name rfl
      rcases hname : g.lookup name with _ | m
      · simp only [callWith, hname]
        exact Parser.conducts_site (.unknown hname)
      · simp only [callWith, hname]
        exact (ihdepth (0 :: path) m).imp fun _ _ => Sits.called hname

/-- The run of a description from a cursor is a dialogue with its sites, each evaluated in turn,
whatever answers there. It asks sites of the description only and needs each answer it gets, and
what it does not ask may be replaced by anything. An answer with an error is the last one and ends
the run with the error as the layers around its site report it, and a run ends with an error only
so. Without layers errors come through as they are, and without sources there are none. -/
theorem error_ends_run (g : Grammar) (budget : Nat) (e : Expr) (c : Cursor) :
    ∃ t : Dialogue (Reply Value),
      (∀ o, g.parserWith o budget e c = t.answer o)
      ∧ g.parser budget e c = t.answer (Site.parser budget)
      ∧ (∀ o, ∀ x ∈ t.transcript o, g.Sits [] e x.site x.layers ∧ x.answer = o x.site x.cursor)
      ∧ (∀ o o' f, ∀ x ∈ t.transcript o, o' x.site x.cursor = .error f →
          (∀ s d, ¬ (s = x.site ∧ d = x.cursor) → o' s d = o s d) →
          g.parserWith o' budget e c = .error f)
      ∧ (∀ o o', (∀ x ∈ t.transcript o, o' x.site x.cursor = o x.site x.cursor) →
          g.parserWith o' budget e c = g.parserWith o budget e c)
      ∧ (∀ o pre x post y, t.transcript o = pre ++ x :: post → x.error? = some y →
          post = [] ∧ ∃ r, g.parserWith o budget e c = .ok r ∧ r.outcome = .failed (x.report y))
      ∧ (∀ o r z, g.parserWith o budget e c = .ok r → r.outcome = .failed z →
          ∃ pre x y, t.transcript o = pre ++ [x] ∧ x.error? = some y ∧ z = x.report y)
      ∧ ((∀ d, g.Part e d → d.layers = []) →
          ∀ o, ∀ x ∈ t.transcript o, ∀ y, x.report y = y)
      ∧ ((∀ d, g.Part e d → ¬ d.CanFail) →
          ∀ r z, g.parser budget e c = .ok r → r.outcome ≠ .failed z) := by
  obtain ⟨t, ht, hsettles⟩ := g.conducts budget budget [] e c
  have hrun : ∀ o, g.parserWith o budget e c = t.answer o := ht
  have hreal : g.parser budget e c = t.answer (Site.parser budget) := by
    rw [← hrun, parserWith_site]
  have hback : ∀ o r z, g.parserWith o budget e c = .ok r → r.outcome = .failed z →
      ∃ pre x y, t.transcript o = pre ++ [x] ∧ x.error? = some y ∧ z = x.report y := by
    intro o r z hr hz
    rw [hrun] at hr
    exact Dialogue.Settles.error_ends (Reply.error?_eq_some.2 hz) hsettles hr
  refine ⟨t, hrun, hreal, fun o x hx => ?_, fun o o' f x hx hf hsame => ?_, fun o o' h => ?_,
    fun o pre x post y hpost hy => ?_, hback, fun hlayers o x hx y => ?_, fun hfail r z hr hz => ?_⟩
  · exact ⟨hsettles.forall_transcript x hx, Dialogue.answer_of_mem_transcript hx⟩
  · rw [hrun]
    exact Dialogue.answer_eq_error_of_mem hx hf hsame
  · rw [hrun, hrun]
    exact Dialogue.answer_congr h
  · obtain ⟨hnil, r, hr, hreport⟩ := Dialogue.Settles.ends_at_error hy hsettles hpost
    exact ⟨hnil, r, (hrun o).trans hr, Reply.error?_eq_some.1 hreport⟩
  · have hsits := hsettles.forall_transcript x hx
    rw [Exchange.report, hsits.layers_eq_nil hlayers]
    rfl
  · obtain ⟨pre, x, y, hlast, hy, -⟩ := hback _ r z (by rw [hrun, ← hreal, hr]) hz
    have hx : x ∈ t.transcript (Site.parser budget) := by simp [hlast]
    obtain ⟨s, hs, hy⟩ := x.exists_answer hy
    rw [Dialogue.answer_of_mem_transcript hx] at hs
    rw [(hsettles.forall_transcript x hx).error?_eq_none hfail hs] at hy
    cases hy

end Grammar

end Backtrack
