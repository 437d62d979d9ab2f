import Mathlib.Order.Lattice.Nat
import Backtrack.Proofs.Greedy
import Backtrack.Proofs.Matching

/-!
# Where a scan ends

A scan goes along the matches of its content and ends at the first place on this walk where it finds
what it looks for (`Parser.Onward.scan_matchesTo_iff`), and reads nothing there. Over single code
points the walk comes to every boundary of the text, so a text scan ends at the least boundary where
its delimiter matches, and misses if there is none.
-/

namespace Backtrack

namespace ScanKind

variable {α β : Type}

/-- A scan ends where its delimiter matches and, if the end of the input ends it, there. -/
def EndsAt (kind : ScanKind) (delimiter : Parser β) (c : Cursor) : Prop :=
  kind.stopsAtEnd = true ∧ c.atEnd = true ∨ delimiter.MatchesAt c

/-- A scan goes on where its delimiter misses and the end of the input does not end it. -/
def GoesOnAt (kind : ScanKind) (delimiter : Parser β) (c : Cursor) : Prop :=
  ¬ (kind.stopsAtEnd = true ∧ c.atEnd = true) ∧ delimiter.MissesAt c

/-- A scan that takes content first does not look for its delimiter before the first item. -/
def Looks (kind : ScanKind) (before : List α) : Prop := kind.mode = .atOnce ∨ before ≠ []

/-- The items `as` lead from `c` to `d`, which is the first place where a scan looks and finds what
it looks for. -/
structure Delimits (kind : ScanKind) (content : Parser α) (delimiter : Parser β) (c : Cursor)
    (as : List α) (d : Cursor) : Prop where
  walk : content.Walk c as d
  looks : kind.Looks as
  ends : kind.EndsAt delimiter d
  goesOn : ∀ before a behind x, as = before ++ a :: behind → content.Walk c before x →
    kind.Looks before → kind.GoesOnAt delimiter x

/-- The offsets, from the cursor on, where a scan looks and ends. -/
def ends (kind : ScanKind) (delimiter : Parser β) (c : Cursor) : Set Nat :=
  {n | c.text.IsBoundary n ∧ c.pos ≤ n ∧ (kind.mode = .atOnce ∨ n ≠ c.pos)
    ∧ kind.EndsAt delimiter (c.moveTo n)}

section Places

variable {kind : ScanKind} {content : Parser α} {delimiter : Parser β} {c d : Cursor} {a : α}
  {as : List α}

theorem EndsAt.not_goesOnAt (h : kind.EndsAt delimiter c) : ¬ kind.GoesOnAt delimiter c := by
  rintro ⟨hend, hmiss⟩
  rcases h with h | h
  · exact hend h
  · exact h.not_missesAt hmiss

theorem agreesAt_lookout {stopsAtEnd : Bool} (h : ¬ (stopsAtEnd = true ∧ c.atEnd = true)) :
    Parser.AgreesAt c (Parser.lookout stopsAtEnd delimiter) (delimiter.map fun _ => ()) := by
  unfold Parser.lookout
  split_ifs with hstops
  · have hrun : Parser.endOr delimiter c = delimiter.map (fun _ => ()) c :=
      if_neg fun hend => h ⟨hstops, hend⟩
    exact congrArg (Reply.settle c.home <$> ·) hrun
  · exact .refl c _

theorem lookout_at_end {stopsAtEnd : Bool} (h : stopsAtEnd = true ∧ c.atEnd = true) :
    (Parser.lookout stopsAtEnd delimiter).MatchesAt c := by
  unfold Parser.lookout
  rw [if_pos h.1]
  exact ⟨(), c.pos, [], if_pos h.2⟩

theorem lookout_matchesAt_iff (mode : ScanMode) (stopsAtEnd : Bool) :
    (Parser.lookout stopsAtEnd delimiter).MatchesAt c
      ↔ (ScanKind.mk mode stopsAtEnd).EndsAt delimiter c := by
  by_cases hend : stopsAtEnd = true ∧ c.atEnd = true
  · exact ⟨fun _ => .inl hend, fun _ => lookout_at_end hend⟩
  · have hlook : Parser.AgreesAt c (Parser.lookout stopsAtEnd delimiter)
        (delimiter.map fun _ => ()) := agreesAt_lookout hend
    constructor
    · exact fun h => .inr (Parser.map_matchesAt_iff.1 (hlook.matchesAt h))
    · rintro (h | h)
      · exact absurd h hend
      · exact hlook.symm.matchesAt (Parser.map_matchesAt_iff.2 h)

theorem lookout_missesAt_iff (mode : ScanMode) (stopsAtEnd : Bool) :
    (Parser.lookout stopsAtEnd delimiter).MissesAt c
      ↔ (ScanKind.mk mode stopsAtEnd).GoesOnAt delimiter c := by
  by_cases hend : stopsAtEnd = true ∧ c.atEnd = true
  · exact ⟨fun h => absurd h (lookout_at_end hend).not_missesAt, fun h => absurd hend h.1⟩
  · have hlook : Parser.AgreesAt c (Parser.lookout stopsAtEnd delimiter)
        (delimiter.map fun _ => ()) := agreesAt_lookout hend
    constructor
    · exact fun h => ⟨hend, Parser.map_missesAt_iff.1 (hlook.missesAt h)⟩
    · exact fun h => hlook.symm.missesAt (Parser.map_missesAt_iff.2 h.2)

theorem delimits_nil_iff {stopsAtEnd : Bool} :
    (ScanKind.mk .atOnce stopsAtEnd).Delimits content delimiter c [] d
      ↔ d = c ∧ (ScanKind.mk .atOnce stopsAtEnd).EndsAt delimiter c := by
  constructor
  · rintro ⟨⟨⟩, -, hends, -⟩
    exact ⟨rfl, hends⟩
  · rintro ⟨rfl, hends⟩
    exact ⟨.stay d, .inl rfl, hends, fun before a behind x h => by simp at h⟩

/-- Behind its first item, a scan looks at once. -/
theorem delimits_cons_iff : kind.Delimits content delimiter c (a :: as) d
    ↔ (kind.mode = .atOnce → kind.GoesOnAt delimiter c) ∧ ∃ n, content.MatchesTo c a n
      ∧ (ScanKind.mk .atOnce kind.stopsAtEnd).Delimits content delimiter (c.moveTo n) as d := by
  constructor
  · rintro ⟨hwalk, -, hends, hgoes⟩
    obtain ⟨n, log, hitem, hrest⟩ := Parser.walk_cons_iff.1 hwalk
    refine ⟨fun hmode => hgoes [] a as c rfl (.stay c) (.inl hmode), n, ⟨log, hitem⟩, hrest,
      .inl rfl, hends, fun before b behind x hsplit hbefore _ => ?_⟩
    exact hgoes (a :: before) b behind x (by rw [hsplit, List.cons_append])
      (.step hitem hbefore) (.inr (List.cons_ne_nil a before))
  · rintro ⟨hfirst, n, ⟨log, hitem⟩, hwalk, -, hends, hgoes⟩
    refine ⟨.step hitem hwalk, .inr (List.cons_ne_nil a as), hends,
      fun before b behind x hsplit hbefore hlooks => ?_⟩
    rcases before with _ | ⟨a', before⟩
    · cases hbefore
      exact hfirst (hlooks.resolve_right fun h => h rfl)
    · obtain ⟨rfl, hrest⟩ := List.cons_eq_cons.1 hsplit
      obtain ⟨n', log', hitem', hbefore⟩ := Parser.walk_cons_iff.1 hbefore
      cases hitem.symm.trans hitem'
      exact hgoes before b behind x hrest hbefore (.inl rfl)

/-- An item that reads nothing, and behind which a scan goes on, never leads to its end. -/
theorem Delimits.pos_ne {n : Nat} (h : kind.Delimits content delimiter (c.moveTo n) as d)
    (hgoes : kind.GoesOnAt delimiter c) (hitem : content.MatchesTo c a n) : n ≠ c.pos := by
  rintro rfl
  obtain ⟨log, hitem⟩ := hitem
  have hd : d = c := Parser.Walk.eq_of_stall hitem h.walk
  exact h.ends.not_goesOnAt (hd ▸ hgoes)

theorem mem_ends_between {seen rest : Text} {n : Nat} :
    n ∈ kind.ends delimiter (.between seen rest) ↔ ∃ a b, rest = a ++ b ∧ n = (seen ++ a).byteSize
      ∧ kind.Looks a ∧ kind.EndsAt delimiter (.between (seen ++ a) b) := by
  have hpos : ∀ a : Text, (seen ++ a).byteSize ≠ seen.byteSize ↔ a ≠ [] :=
    fun _ => Text.byteSize_append_eq_iff.not
  constructor
  · rintro ⟨hb, hle, hlooks, hends⟩
    obtain ⟨a, b, rfl, rfl⟩ := hb.exists_append_of_le hle
    rw [Cursor.moveTo_between] at hends
    exact ⟨a, b, rfl, rfl, hlooks.imp_right (hpos a).1, hends⟩
  · rintro ⟨a, b, rfl, rfl, hlooks, hends⟩
    rw [← Cursor.moveTo_between] at hends
    refine ⟨⟨seen ++ a, b, by simp, rfl⟩, ?_, hlooks.imp_right (hpos a).2, hends⟩
    rw [Text.byteSize_append]
    exact Nat.le_add_right _ _

end Places

end ScanKind

namespace Parser

variable {α β : Type}

section Walks

variable {content : Parser α} {delimiter : Parser β} {n : Nat}

/-- A parser that matches as a scan does on all texts shorter than the rounds does so behind an item
too, if what is left there is shorter. -/
theorem Onward.matchesTo_iff_behind (hp : content.Onward) {p : Parser (List α)} {stopsAtEnd : Bool}
    {rounds : Nat} (h : ∀ seen rest as, rest.length < rounds →
      (p.MatchesTo (.between seen rest) as n
        ↔ (ScanKind.mk .atOnce stopsAtEnd).Delimits content delimiter (.between seen rest) as
          (Cursor.moveTo (.between seen rest) n)))
    {seen rest : Text} {a : α} {m : Nat} (hitem : content.MatchesTo (.between seen rest) a m)
    (hr : ∀ x b, rest = x ++ b → m = (seen ++ x).byteSize → b.length < rounds) (as : List α) :
    p.MatchesTo (Cursor.moveTo (.between seen rest) m) as n
      ↔ (ScanKind.mk .atOnce stopsAtEnd).Delimits content delimiter
        (Cursor.moveTo (.between seen rest) m) as (Cursor.moveTo (.between seen rest) n) := by
  obtain ⟨x, b, rfl, rfl, hmove⟩ := hp.exists_between hitem
  have hrest := h (seen ++ x) b as (hr x b rfl rfl)
  rwa [← hmove] at hrest

/-- A scan that looks first matches with the items that lead to the first place where it finds what
it looks for. The induction is on the rounds: behind an item that reads something there is less
text. -/
theorem Onward.scanWhileNot_matchesTo_iff (hp : content.Onward) (stopsAtEnd : Bool) :
    ∀ rounds seen rest as, rest.length < rounds →
      ((scanWhileNot rounds content (lookout stopsAtEnd delimiter)).MatchesTo
          (.between seen rest) as n
        ↔ (ScanKind.mk .atOnce stopsAtEnd).Delimits content delimiter (.between seen rest) as
          (Cursor.moveTo (.between seen rest) n)) := by
  intro rounds
  induction rounds with
  | zero => exact fun _ _ _ hr => absurd hr (Nat.not_lt_zero _)
  | succ rounds ih =>
    intro seen rest as hr
    rw [(hp.agreesAt_scanWhileNot (Cursor.aligned_between seen rest) rounds).matchesTo_iff,
      probe_matchesTo_iff, ScanKind.lookout_matchesAt_iff .atOnce,
      ScanKind.lookout_missesAt_iff .atOnce, bind_matchesTo_iff]
    have hless : ∀ {m : Nat}, m ≠ seen.byteSize →
        ∀ x b, rest = x ++ b → m = (seen ++ x).byteSize → b.length < rounds := by
      rintro m hne x b rfl rfl
      have hx := List.length_pos_iff.2 (Text.byteSize_append_eq_iff.not.1 hne)
      rw [List.length_append] at hr
      omega
    constructor
    · rintro (⟨hends, hnil⟩ | ⟨hgoes, a, m, hitem, hmoved⟩)
      · obtain ⟨rfl, rfl⟩ := succeed_matchesTo_iff.1 hnil
        exact ScanKind.delimits_nil_iff.2 ⟨rfl, hends⟩
      · obtain ⟨hne, hmapped⟩ := whenMoved_matchesTo_iff.1 hmoved
        obtain ⟨as', rfl, has⟩ := map_matchesTo_iff.1 hmapped
        exact ScanKind.delimits_cons_iff.2
          ⟨fun _ => hgoes, m, hitem, (hp.matchesTo_iff_behind ih hitem (hless hne) as').1 has⟩
    · intro hdelimits
      rcases as with _ | ⟨a, as⟩
      · obtain ⟨hd, hends⟩ := ScanKind.delimits_nil_iff.1 hdelimits
        exact .inl ⟨hends, succeed_matchesTo_iff.2 ⟨rfl, (congrArg Cursor.pos hd).symm⟩⟩
      · obtain ⟨hgoes, m, hitem, hrest⟩ := ScanKind.delimits_cons_iff.1 hdelimits
        have hne := hrest.pos_ne (hgoes rfl) hitem
        refine .inr ⟨hgoes rfl, a, m, hitem, whenMoved_matchesTo_iff.2 ⟨hne, ?_⟩⟩
        exact map_matchesTo_iff.2
          ⟨as, rfl, (hp.matchesTo_iff_behind ih hitem (hless hne) as).2 hrest⟩

/-- A scan matches with the items that lead to the first place where it finds what it looks for, and
stops there. -/
theorem Onward.scan_matchesTo_iff (hp : content.Onward) (kind : ScanKind) {seen rest : Text}
    {rounds : Nat} (hr : rest.length < rounds) {as : List α} :
    (scan kind rounds content delimiter).MatchesTo (.between seen rest) as n
      ↔ kind.Delimits content delimiter (.between seen rest) as
        (Cursor.moveTo (.between seen rest) n) := by
  rcases kind with ⟨_ | _, stopsAtEnd⟩
  · have hless : ∀ (m : Nat) x b, rest = x ++ b → m = (seen ++ x).byteSize → b.length < rounds := by
      rintro m x b rfl -
      rw [List.length_append] at hr
      omega
    rw [(hp.agreesAt_scan_afterContent delimiter stopsAtEnd seen hr).matchesTo_iff,
      bind_matchesTo_iff]
    constructor
    · rintro ⟨a, m, hitem, hmapped⟩
      obtain ⟨as', rfl, has⟩ := map_matchesTo_iff.1 hmapped
      have hrest := (hp.matchesTo_iff_behind
        (hp.scanWhileNot_matchesTo_iff stopsAtEnd rounds) hitem (hless m) as').1 has
      exact ScanKind.delimits_cons_iff.2 ⟨nofun, m, hitem, hrest⟩
    · intro hdelimits
      rcases as with _ | ⟨a, as⟩
      · rcases hdelimits.looks with h | h
        · cases h
        · exact absurd rfl h
      · obtain ⟨-, m, hitem, hrest⟩ := ScanKind.delimits_cons_iff.1 hdelimits
        have hscan := (hp.matchesTo_iff_behind
          (hp.scanWhileNot_matchesTo_iff stopsAtEnd rounds) hitem (hless m) as).2 hrest
        exact ⟨a, m, hitem, map_matchesTo_iff.2 ⟨as, rfl, hscan⟩⟩
  · exact hp.scanWhileNot_matchesTo_iff stopsAtEnd rounds seen rest as hr

/-- Behind a scan that the end of the input does not end, its delimiter matches. -/
theorem Onward.exists_pair_scan (hp : content.Onward) (mode : ScanMode) {seen rest : Text}
    {rounds : Nat} (hr : rest.length < rounds) {as : List α}
    (h : (scan ⟨mode, false⟩ rounds content delimiter).MatchesTo (.between seen rest) as n) :
    ∃ b m, delimiter.MatchesTo (Cursor.moveTo (.between seen rest) n) b m
      ∧ (pair (scan ⟨mode, false⟩ rounds content delimiter) delimiter).MatchesTo
        (.between seen rest) (as, b) m := by
  have hdelimits := (hp.scan_matchesTo_iff ⟨mode, false⟩ hr).1 h
  rcases hdelimits.ends with ⟨hstops, -⟩ | ⟨b, m, hb⟩
  · cases hstops
  · exact ⟨b, m, hb, pair_matchesTo_iff.2 ⟨n, h, hb⟩⟩

end Walks

/-! ## Code point by code point -/

/-- Every code point that is left is on the way. -/
theorem walk_anyChar_iff {as : List Char} {d : Cursor} : ∀ {seen rest : Text},
    anyChar.Walk (.between seen rest) as d
      ↔ ∃ b, rest = as ++ b ∧ d = .between (seen ++ as) b := by
  induction as with
  | nil =>
    intro seen rest
    constructor
    · rintro ⟨⟩
      exact ⟨rest, rfl, by rw [List.append_nil]⟩
    · rintro ⟨b, rfl, rfl⟩
      rw [List.append_nil]
      exact .stay _
  | cons ch as ih =>
    intro seen rest
    rw [walk_cons_iff]
    constructor
    · rintro ⟨n, log, hch, hwalk⟩
      rcases rest with _ | ⟨ch', rest⟩
      · cases (anyChar_nil seen).symm.trans hch
      · cases (anyChar_cons seen ch' rest).symm.trans hch
        rw [Cursor.moveTo_between_cons] at hwalk
        obtain ⟨b, rfl, rfl⟩ := ih.1 hwalk
        exact ⟨b, rfl, by simp⟩
    · rintro ⟨b, rfl, rfl⟩
      refine ⟨_, _, anyChar_cons seen ch (as ++ b), ?_⟩
      rw [List.cons_append, Cursor.moveTo_between_cons]
      exact ih.2 ⟨b, rfl, by simp⟩

section Texts

variable {delimiter : Parser β} {seen rest t : Text} {rounds n : Nat}

/-- A text scan matches with the text up to the first place where it looks and finds what it looks
for. -/
theorem scanText_matchesTo_iff (kind : ScanKind) (hr : rest.length < rounds) :
    (scanText kind rounds delimiter).MatchesTo (.between seen rest) t n
      ↔ n = (seen ++ t).byteSize ∧ ∃ b, rest = t ++ b ∧ kind.Looks t
        ∧ kind.EndsAt delimiter (.between (seen ++ t) b)
        ∧ ∀ before behind, rest = before ++ behind → before.length < t.length →
          kind.Looks before → kind.GoesOnAt delimiter (.between (seen ++ before) behind) := by
  have hscan : ∀ as, (scan kind rounds anyChar delimiter).MatchesTo (.between seen rest) as n
      ↔ kind.Delimits anyChar delimiter (.between seen rest) as
        (Cursor.moveTo (.between seen rest) n) :=
    fun as => isToken_anyChar.steady.onward.scan_matchesTo_iff kind hr
  rw [scanText, recognize_matchesTo_iff]
  constructor
  · rintro ⟨⟨as, hmatch⟩, hslice⟩
    obtain ⟨hwalk, hlooks, hends, hgoes⟩ := (hscan as).1 hmatch
    obtain ⟨b, rfl, hmove⟩ := walk_anyChar_iff.1 hwalk
    obtain rfl : n = (seen ++ as).byteSize := congrArg Cursor.pos hmove
    rw [hmove, Cursor.pos_between, Cursor.slice_between] at hslice
    cases hslice
    refine ⟨rfl, b, rfl, hlooks, hmove ▸ hends, fun before behind hsplit hlen hbefore => ?_⟩
    obtain ⟨as', rfl, rfl⟩ | ⟨as', rfl, rfl⟩ := List.append_eq_append_iff.1 hsplit
    · rw [List.length_append] at hlen
      omega
    · rcases as' with _ | ⟨ch, as'⟩
      · simp at hlen
      · exact hgoes before ch as' _ rfl (walk_anyChar_iff.2 ⟨_, hsplit, rfl⟩) hbefore
  · rintro ⟨rfl, b, rfl, hlooks, hends, hgoes⟩
    have hmove := Cursor.moveTo_between seen t b
    have hwalk : anyChar.Walk (.between seen (t ++ b)) t (.between (seen ++ t) b) :=
      walk_anyChar_iff.2 ⟨b, rfl, rfl⟩
    refine ⟨⟨t, (hscan t).2 ?_⟩, ?_⟩
    · rw [hmove]
      refine ⟨hwalk, hlooks, hends, fun before ch behind x hsplit hbefore hlooked => ?_⟩
      obtain ⟨b', hrest, rfl⟩ := walk_anyChar_iff.1 hbefore
      exact hgoes before b' hrest (by rw [hsplit]; simp) hlooked
    · rw [hmove]
      exact Cursor.slice_between seen t b

/-- Where every place that a scan looks at makes it go on, it runs to the end of the input and
misses. -/
theorem scanWhileNot_missesAt (stopsAtEnd : Bool) : ∀ rounds seen rest, rest.length < rounds →
    (∀ before behind, rest = before ++ behind →
      (ScanKind.mk .atOnce stopsAtEnd).GoesOnAt delimiter (.between (seen ++ before) behind)) →
    (scanWhileNot rounds anyChar (lookout stopsAtEnd delimiter)).MissesAt (.between seen rest) := by
  intro rounds
  induction rounds with
  | zero => exact fun _ _ hr => absurd hr (Nat.not_lt_zero _)
  | succ rounds ih =>
    intro seen rest hr hgoes
    have hc := Cursor.aligned_between seen rest
    have hfirst := hgoes [] rest rfl
    rw [List.append_nil] at hfirst
    obtain ⟨m, log, hlook⟩ := (ScanKind.lookout_missesAt_iff .atOnce stopsAtEnd).2 hfirst
    have hround := isToken_anyChar.steady.onward.agreesAt_scanWhileNot hc rounds
      |>.trans (agreesAt_probe_of_missed hlook)
    refine hround.symm.missesAt ?_
    rcases rest with _ | ⟨ch, rest⟩
    · exact bind_missesAt_of_missed ⟨_, _, anyChar_nil seen⟩
    · have hne : (seen ++ [ch]).byteSize ≠ seen.byteSize :=
        Text.byteSize_append_eq_iff.not.2 (List.cons_ne_nil ch [])
      refine bind_missesAt_of_matched ⟨_, anyChar_cons seen ch rest⟩ ?_
      rw [Cursor.moveTo_between_cons]
      refine (agreesAt_whenMoved_of_ne hne).symm.missesAt (map_missesAt_iff.2 ?_)
      refine ih (seen ++ [ch]) rest (by simpa using hr) fun before behind hsplit => ?_
      have hbehind := hgoes (ch :: before) behind (by rw [hsplit, List.cons_append])
      rwa [List.append_cons] at hbehind

theorem scanText_missesAt (kind : ScanKind) (hr : rest.length < rounds)
    (hgoes : ∀ before behind, rest = before ++ behind → kind.Looks before →
      kind.GoesOnAt delimiter (.between (seen ++ before) behind)) :
    (scanText kind rounds delimiter).MissesAt (.between seen rest) := by
  have hscan : (scan kind rounds anyChar delimiter).MissesAt (.between seen rest) := by
    rcases kind with ⟨_ | _, stopsAtEnd⟩
    · have hchar : anyChar.Onward := isToken_anyChar.steady.onward
      have hrow := hchar.agreesAt_scan_afterContent delimiter stopsAtEnd seen hr
      refine hrow.symm.missesAt ?_
      rcases rest with _ | ⟨ch, rest⟩
      · exact bind_missesAt_of_missed ⟨_, _, anyChar_nil seen⟩
      · refine bind_missesAt_of_matched ⟨_, anyChar_cons seen ch rest⟩ (map_missesAt_iff.2 ?_)
        rw [Cursor.moveTo_between_cons]
        refine scanWhileNot_missesAt stopsAtEnd rounds (seen ++ [ch]) rest
          (Nat.lt_of_succ_lt hr) fun before behind hsplit => ?_
        have hbehind := hgoes (ch :: before) behind (by rw [hsplit, List.cons_append])
          (.inr (List.cons_ne_nil ch before))
        rwa [List.append_cons] at hbehind
    · exact scanWhileNot_missesAt stopsAtEnd rounds seen rest hr
        fun before behind hsplit => hgoes before behind hsplit (.inl rfl)
  obtain ⟨n, log, hscan⟩ := hscan
  exact ⟨_, _, recognize_of_missed hscan⟩

/-! ## Delimiters that match or miss -/

theorem Answers.ends_or_goesOn (hq : delimiter.Answers) (kind : ScanKind) {c : Cursor}
    (hc : c.Aligned) : kind.EndsAt delimiter c ∨ kind.GoesOnAt delimiter c := by
  by_cases hend : kind.stopsAtEnd = true ∧ c.atEnd = true
  · exact .inl (.inl hend)
  · rcases hq c hc with h | h
    · exact .inl (.inr h)
    · exact .inr ⟨hend, h⟩

/-- A text scan reads up to the least offset that ends it. -/
theorem Answers.scanText_matchesTo_iff_isLeast (hq : delimiter.Answers) (kind : ScanKind)
    (hr : rest.length < rounds) :
    (scanText kind rounds delimiter).MatchesTo (.between seen rest) t n
      ↔ IsLeast (kind.ends delimiter (.between seen rest)) n
        ∧ (seen ++ rest).slice seen.byteSize n = .ok t := by
  rw [scanText_matchesTo_iff kind hr]
  constructor
  · rintro ⟨rfl, b, rfl, hlooks, hends, hgoes⟩
    refine ⟨⟨ScanKind.mem_ends_between.2 ⟨t, b, rfl, rfl, hlooks, hends⟩, fun m hm => ?_⟩, ?_⟩
    · obtain ⟨a, b', hsplit, rfl, hlooked, hend⟩ := ScanKind.mem_ends_between.1 hm
      by_contra hless
      rw [Text.byteSize_append, Text.byteSize_append, Nat.add_le_add_iff_left, Nat.not_le,
        Text.byteSize_lt_iff hsplit.symm] at hless
      exact hend.not_goesOnAt (hgoes a b' hsplit hless hlooked)
    · rw [Text.byteSize_append]
      exact Text.slice_append seen t b
  · rintro ⟨⟨hmem, hleast⟩, hslice⟩
    obtain ⟨a, b, rfl, rfl, hlooks, hends⟩ := ScanKind.mem_ends_between.1 hmem
    rw [Text.byteSize_append, Text.slice_append] at hslice
    cases hslice
    refine ⟨rfl, b, rfl, hlooks, hends, fun before behind hsplit hlen hlooked => ?_⟩
    have hc := Cursor.aligned_between (seen ++ before) behind
    refine (hq.ends_or_goesOn kind hc).resolve_left fun hend => ?_
    have hle := hleast (ScanKind.mem_ends_between.2 ⟨before, behind, hsplit, rfl, hlooked, hend⟩)
    rw [← Text.byteSize_lt_iff hsplit.symm] at hlen
    rw [Text.byteSize_append, Text.byteSize_append] at hle
    omega

theorem Answers.scanText_matchesAt_iff (hq : delimiter.Answers) (kind : ScanKind)
    (hr : rest.length < rounds) : (scanText kind rounds delimiter).MatchesAt (.between seen rest)
      ↔ (kind.ends delimiter (.between seen rest)).Nonempty := by
  constructor
  · rintro ⟨t, n, h⟩
    exact ⟨n, ((hq.scanText_matchesTo_iff_isLeast kind hr).1 h).1.1⟩
  · intro h
    have hleast : IsLeast (kind.ends delimiter (.between seen rest))
        (sInf (kind.ends delimiter (.between seen rest))) :=
      ⟨Nat.sInf_mem h, fun n hn => Nat.sInf_le hn⟩
    obtain ⟨t, ht⟩ := Text.exists_slice_eq_ok (Cursor.aligned_between seen rest)
      hleast.1.1 hleast.1.2.1
    exact ⟨t, _, (hq.scanText_matchesTo_iff_isLeast kind hr).2 ⟨hleast, ht⟩⟩

theorem Answers.scanText_missesAt_iff (hq : delimiter.Answers) (kind : ScanKind)
    (hr : rest.length < rounds) : (scanText kind rounds delimiter).MissesAt (.between seen rest)
      ↔ kind.ends delimiter (.between seen rest) = ∅ := by
  constructor
  · intro h
    by_contra hne
    have hends := Set.nonempty_iff_ne_empty.2 hne
    exact ((hq.scanText_matchesAt_iff kind hr).2 hends).not_missesAt h
  · intro h
    refine scanText_missesAt kind hr fun before behind hsplit hlooked => ?_
    have hc := Cursor.aligned_between (seen ++ before) behind
    refine (hq.ends_or_goesOn kind hc).resolve_left fun hend => ?_
    exact Set.eq_empty_iff_forall_notMem.1 h _
      (ScanKind.mem_ends_between.2 ⟨before, behind, hsplit, rfl, hlooked, hend⟩)

/-! ## Literals -/

theorem literal_matchesAt_iff {s : Text} :
    (literal s).MatchesAt (.between seen rest) ↔ s <+: rest := by
  constructor
  · rintro ⟨a, n, log, h⟩
    by_contra hs
    cases (literal_of_not_isPrefix hs seen).symm.trans h
  · rintro ⟨b, rfl⟩
    exact ⟨_, _, _, literal_append seen s b⟩

theorem answers_literal (s : Text) : (literal s).Answers := by
  intro c hc
  obtain ⟨seen, rest, rfl⟩ := hc.exists_between
  by_cases hs : s <+: rest
  · exact .inl (literal_matchesAt_iff.2 hs)
  · exact .inr ⟨_, _, literal_of_not_isPrefix hs seen⟩

theorem literal_endsAt_iff (mode : ScanMode) {s : Text} :
    (ScanKind.mk mode false).EndsAt (literal s) (.between seen rest) ↔ s <+: rest := by
  rw [ScanKind.EndsAt, literal_matchesAt_iff]
  simp

/-- A scan up to a literal reads what comes before its first occurrence. -/
theorem scanText_literal_matchesTo_iff (s : Text) (hr : rest.length < rounds) :
    (scanText ⟨.atOnce, false⟩ rounds (literal s)).MatchesTo (.between seen rest) t n
      ↔ n = (seen ++ t).byteSize ∧ (∃ b, rest = t ++ s ++ b)
        ∧ ∀ a b, rest = a ++ s ++ b → t.length ≤ a.length := by
  rw [scanText_matchesTo_iff _ hr]
  constructor
  · rintro ⟨rfl, b, rfl, -, hends, hgoes⟩
    obtain ⟨b, rfl⟩ := (literal_endsAt_iff .atOnce).1 hends
    refine ⟨rfl, ⟨b, by rw [List.append_assoc]⟩, fun a b' hsplit => ?_⟩
    by_contra hlen
    rw [List.append_assoc a] at hsplit
    refine ScanKind.EndsAt.not_goesOnAt ?_ (hgoes a _ hsplit (Nat.not_le.1 hlen) (.inl rfl))
    exact (literal_endsAt_iff .atOnce).2 (List.prefix_append s b')
  · rintro ⟨rfl, ⟨b, rfl⟩, hfirst⟩
    refine ⟨rfl, s ++ b, List.append_assoc t s b, .inl rfl,
      (literal_endsAt_iff .atOnce).2 (List.prefix_append s b), fun a b' hsplit hlen _ => ?_⟩
    have hc := Cursor.aligned_between (seen ++ a) b'
    refine ((answers_literal s).ends_or_goesOn _ hc).resolve_left fun hend => ?_
    obtain ⟨b', rfl⟩ := (literal_endsAt_iff .atOnce).1 hend
    have := hfirst a b' (by rw [hsplit, List.append_assoc])
    omega

theorem scanText_literal_missesAt_iff (s : Text) (hr : rest.length < rounds) :
    (scanText ⟨.atOnce, false⟩ rounds (literal s)).MissesAt (.between seen rest)
      ↔ ¬ s <:+: rest := by
  rw [(answers_literal s).scanText_missesAt_iff _ hr, Set.eq_empty_iff_forall_notMem]
  constructor
  · rintro hnone ⟨a, b, rfl⟩
    refine hnone (seen ++ a).byteSize
      (ScanKind.mem_ends_between.2 ⟨a, s ++ b, ?_, rfl, .inl rfl, ?_⟩)
    · rw [List.append_assoc]
    · exact (literal_endsAt_iff .atOnce).2 (List.prefix_append s b)
  · intro hs n hn
    obtain ⟨a, b, rfl, -, -, hend⟩ := ScanKind.mem_ends_between.1 hn
    obtain ⟨b, rfl⟩ := (literal_endsAt_iff .atOnce).1 hend
    exact hs ⟨a, b, by rw [List.append_assoc]⟩

end Texts

/-- A scan ends at the first place on the walk of its content where its delimiter matches, and does
not read the delimiter. Over text, this is the least boundary where the delimiter matches, and
before the first occurrence of a literal. -/
theorem Onward.scan_ends_at_first {content : Parser α} (hp : content.Onward) (delimiter : Parser β)
    (seen rest : Text) (rounds : Nat) (hr : rest.length < rounds) :
    (∀ kind as n, (scan kind rounds content delimiter).MatchesTo (.between seen rest) as n
      ↔ kind.Delimits content delimiter (.between seen rest) as
        (Cursor.moveTo (.between seen rest) n))
    ∧ (∀ mode as n,
      (scan ⟨mode, false⟩ rounds content delimiter).MatchesTo (.between seen rest) as n →
        ∃ b m, delimiter.MatchesTo (Cursor.moveTo (.between seen rest) n) b m
          ∧ (pair (scan ⟨mode, false⟩ rounds content delimiter) delimiter).MatchesTo
            (.between seen rest) (as, b) m)
    ∧ (delimiter.Answers → ∀ kind,
      (∀ t n, (scanText kind rounds delimiter).MatchesTo (.between seen rest) t n
        ↔ IsLeast (kind.ends delimiter (.between seen rest)) n
          ∧ (seen ++ rest).slice seen.byteSize n = .ok t)
      ∧ ((scanText kind rounds delimiter).MatchesAt (.between seen rest)
        ↔ (kind.ends delimiter (.between seen rest)).Nonempty)
      ∧ ((scanText kind rounds delimiter).MissesAt (.between seen rest)
        ↔ kind.ends delimiter (.between seen rest) = ∅))
    ∧ ∀ s, (∀ t n, (scanText ⟨.atOnce, false⟩ rounds (literal s)).MatchesTo (.between seen rest) t n
        ↔ n = (seen ++ t).byteSize ∧ (∃ b, rest = t ++ s ++ b)
          ∧ ∀ a b, rest = a ++ s ++ b → t.length ≤ a.length)
      ∧ ((scanText ⟨.atOnce, false⟩ rounds (literal s)).MissesAt (.between seen rest)
        ↔ ¬ s <:+: rest) := by
  refine ⟨fun kind as n => hp.scan_matchesTo_iff kind hr,
    fun mode as n h => hp.exists_pair_scan mode hr h, fun hq kind => ⟨fun t n => ?_, ?_, ?_⟩,
    fun s => ⟨fun t n => ?_, ?_⟩⟩
  · exact hq.scanText_matchesTo_iff_isLeast kind hr
  · exact hq.scanText_matchesAt_iff kind hr
  · exact hq.scanText_missesAt_iff kind hr
  · exact scanText_literal_matchesTo_iff s hr
  · exact scanText_literal_missesAt_iff s hr

/-- The first `b` is not before a `c`; the second one is. -/
theorem scan_ends_at_first_between : anyChar.Onward ∧ (literal ['b', 'c']).Answers
    ∧ (ScanKind.mk .atOnce false).Delimits anyChar (literal ['b', 'c'])
      (.between ['é'] ['a', 'b', 'b', 'c']) ['a', 'b']
      (Cursor.moveTo (.between ['é'] ['a', 'b', 'b', 'c']) 4)
    ∧ IsLeast ((ScanKind.mk .atOnce false).ends (literal ['b', 'c'])
      (.between ['é'] ['a', 'b', 'b', 'c'])) 4 := by
  have hp : anyChar.Onward := isToken_anyChar.steady.onward
  have hq : (literal ['b', 'c']).Answers := answers_literal _
  have hlength : ['a', 'b', 'b', 'c'].length < 5 := by decide
  have hscan : (scan ⟨.atOnce, false⟩ 5 anyChar (literal ['b', 'c'])).MatchesTo
      (.between ['é'] ['a', 'b', 'b', 'c']) ['a', 'b'] 4 := ⟨[], rfl⟩
  have htext : (scanText ⟨.atOnce, false⟩ 5 (literal ['b', 'c'])).MatchesTo
      (.between ['é'] ['a', 'b', 'b', 'c']) ['a', 'b'] 4 := ⟨[], rfl⟩
  obtain ⟨hdelimits, -, hleast, -⟩ :=
    hp.scan_ends_at_first (literal ['b', 'c']) ['é'] ['a', 'b', 'b', 'c'] 5 hlength
  exact ⟨hp, hq, (hdelimits _ _ _).1 hscan, (((hleast hq _).1 _ _).1 htext).1⟩

end Parser

end Backtrack
