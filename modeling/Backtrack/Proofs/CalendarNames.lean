import Backtrack.Proofs.Names
import Backtrack.Proofs.OptionalItem

/-!
# Names of days and months

The parsers of days and of months read the longest of their names with which a text begins
(`Parser.readsLongest_dayOfWeek`, `Parser.readsLongest_monthOfYear`). So a list of days that has a
space between each two of them is read as it was written: no name goes on behind a space, and at the
end of the text there is none (`Parser.walk_dayItem`).
-/

namespace Backtrack

namespace Parser

/-! ## The names -/

theorem longestFirst_weekdays :
    LongestFirst (namesOf (.monday :: Weekday.afterMonday) Weekday.spellings) where
  lower := by simp [namesOf, Weekday.afterMonday, Weekday.spellings]
  ordered := by decide +kernel

theorem longestFirst_months :
    LongestFirst (namesOf (.january :: Month.afterJanuary) Month.spellings) where
  lower := by simp [namesOf, Month.afterJanuary, Month.spellings]
  ordered := by decide +kernel

theorem mem_weekdays (d : Weekday) : d ∈ .monday :: Weekday.afterMonday := by cases d <;> decide

theorem spelling_ne_nil (d : Weekday) : ∀ s ∈ d.spellings, s.toList ≠ [] := by
  cases d <;> decide

theorem dayOfWeek_eq_named (c : Cursor) (hc : c.Aligned) :
    dayOfWeek c = named (namesOf (.monday :: Weekday.afterMonday) Weekday.spellings) c :=
  choice_spelled hc Weekday.spellings _ _ _

theorem readsLongest_dayOfWeek : ReadsLongest Weekday.spellings dayOfWeek :=
  longestFirst_weekdays.readsLongest mem_weekdays dayOfWeek_eq_named

theorem readsLongest_monthOfYear : ReadsLongest Month.spellings monthOfYear := by
  refine longestFirst_months.readsLongest (fun m => ?_)
    fun c hc => choice_spelled hc Month.spellings _ _ _
  cases m <;> decide

/-! ## Lists of days -/

section Days

variable {d : Weekday} {s : String} {w b seen rest : Text}

/-- A name of a day in front of a space, or at the end of the text, is read to its end. -/
theorem dayOfWeek_word (hs : s ∈ d.spellings) (hw : w.map Char.toLower = s.toList)
    (hb : ∀ x ∈ b.head?, x = ' ') (seen : Text) :
    dayOfWeek (.between seen (w ++ b)) = .ok ⟨.matched d, (seen ++ w).byteSize, []⟩ := by
  have hlower : ∀ d : Weekday, ∀ s ∈ d.spellings, ∀ y ∈ s.toList, y.isLower = true :=
    fun d s hs => longestFirst_weekdays.lower (d, s.toList)
      (mem_namesOf.2 ⟨d, mem_weekdays d, s, hs, rfl⟩)
  have hbegins : Text.Begins (w ++ b) s.toList := Text.begins_append hw (hlower d s hs) b
  have hlen : w.length = s.toList.length := by rw [← hw, List.length_map]
  rcases longestFirst_weekdays.cases mem_weekdays dayOfWeek_eq_named seen (w ++ b) with
    ⟨d', s', hs', hbegins', hrun, hlongest⟩ | ⟨hnone, -⟩
  · obtain ⟨rfl, hle⟩ := hlongest d s hs hbegins
    have hlen' : ¬ w.length < s'.toList.length := by
      intro hlt
      obtain ⟨x, behind, y, rfl, hy, hxy⟩ := hbegins'.exists_of_lt hlt
      obtain rfl : x = ' ' := hb x rfl
      have hlowery := hlower d s' hs' y hy
      rw [Ascii.sameFold_iff_toLower_eq rfl (Ascii.of_isLower hlowery).1,
        (Ascii.of_isLower hlowery).2] at hxy
      rw [← hxy] at hlowery
      cases hlowery
    have htake : (w ++ b).take s'.toList.length = w := by
      rw [show s'.toList.length = w.length by omega, List.take_left]
    rw [hrun, htake]
  · exact absurd hbegins (hnone d s hs)

/-- A day of the week, with or without a space behind it. -/
def dayItem : Parser Weekday :=
  sequence (dayOfWeek >>= fun day => optional (char ' ') >>= fun _ => succeed day)

theorem daysOfWeek_eq (rounds : Nat) : daysOfWeek rounds = oneOrMore rounds dayItem := rfl

theorem dayItem_of_space
    (h : dayOfWeek (.between seen (w ++ ' ' :: b)) = .ok ⟨.matched d, (seen ++ w).byteSize, []⟩) :
    dayItem (.between seen (w ++ ' ' :: b))
      = .ok ⟨.matched d, (seen ++ (w ++ [' '])).byteSize, []⟩ := by
  have hspace : char ' ' (.between (seen ++ w) (' ' :: b))
      = .ok ⟨.matched ' ', (seen ++ w ++ [' ']).byteSize, []⟩ := by
    rw [char, charWhere_cons, if_pos (by rfl)]
  refine sequence_of_matched ?_
  rw [bind_of_matched _ h, Cursor.moveTo_between, bind_of_matched _ (optional_of_matched hspace),
    List.append_assoc]
  rfl

theorem dayItem_of_no_space (hb : ' ' ∉ b.head?)
    (h : dayOfWeek (.between seen (w ++ b)) = .ok ⟨.matched d, (seen ++ w).byteSize, []⟩) :
    dayItem (.between seen (w ++ b)) = .ok ⟨.matched d, (seen ++ w).byteSize, []⟩ := by
  have hspace : char ' ' (.between (seen ++ w) b) = .ok ⟨.missed, (seen ++ w).byteSize, []⟩ := by
    cases b with
    | nil => exact charWhere_nil _ _
    | cons x b =>
      have hx : ¬ (x == ' ') = true := by
        intro hx
        exact hb (congrArg some (beq_iff_eq.1 hx))
      rw [char, charWhere_cons, if_neg hx]
  refine sequence_of_matched ?_
  rw [bind_of_matched _ h, Cursor.moveTo_between, bind_of_matched _ (optional_of_missed hspace),
    Cursor.home_between]
  rfl

theorem dayItem_of_missed {n : Nat} {log : List Record} {c : Cursor}
    (h : dayOfWeek c = .ok ⟨.missed, n, log⟩) :
    dayItem c = .ok ⟨.missed, c.home, log ++ [.sequenceMiss c.pos]⟩ :=
  sequence_of_missed (bind_of_missed _ h)

/-- A day is read with a text that is not empty, or missed. -/
theorem dayOfWeek_cases (seen rest : Text) :
    (∃ d w b, rest = w ++ b ∧ w ≠ []
      ∧ dayOfWeek (.between seen rest) = .ok ⟨.matched d, (seen ++ w).byteSize, []⟩)
    ∨ dayOfWeek (.between seen rest) = .ok ⟨.missed, seen.byteSize, []⟩ := by
  rcases longestFirst_weekdays.cases mem_weekdays dayOfWeek_eq_named seen rest with
    ⟨d, s, hs, hbegins, hrun, -⟩ | ⟨-, hrun⟩
  · refine .inl ⟨d, _, _, (List.take_append_drop s.toList.length rest).symm, ?_, hrun⟩
    intro hnil
    have hlen := hbegins.length_eq
    rw [hnil] at hlen
    exact spelling_ne_nil d s hs (List.eq_nil_of_length_eq_zero hlen.symm)
  · exact .inr hrun

/-- The item answers where a day does, and reads at least what the day does. -/
theorem dayItem_cases (seen rest : Text) :
    (∃ d w b, rest = w ++ b ∧ w ≠ [] ∧ dayOfWeek.MatchesAt (.between seen rest)
      ∧ dayItem (.between seen rest) = .ok ⟨.matched d, (seen ++ w).byteSize, []⟩)
    ∨ dayOfWeek.MissesAt (.between seen rest) ∧ ∃ log,
      dayItem (.between seen rest) = .ok ⟨.missed, seen.byteSize, log⟩ := by
  rcases dayOfWeek_cases seen rest with ⟨d, w, b, rfl, hw, hrun⟩ | hrun
  · have hmatch : dayOfWeek.MatchesAt (.between seen (w ++ b)) := ⟨d, _, [], hrun⟩
    by_cases hb : ' ' ∈ b.head?
    · obtain ⟨behind, rfl⟩ : ∃ behind, b = ' ' :: behind := List.head?_eq_some_iff.1 hb
      exact .inl ⟨d, w ++ [' '], behind, by simp, by simp, hmatch, dayItem_of_space hrun⟩
    · exact .inl ⟨d, w, b, rfl, hw, hmatch, dayItem_of_no_space hb hrun⟩
  · have hmiss := dayItem_of_missed hrun
    rw [Cursor.home_between] at hmiss
    exact .inr ⟨⟨_, _, hrun⟩, _, hmiss⟩

theorem advances_dayItem : dayItem.Advances := by
  intro c hc d n log h
  obtain ⟨seen, rest, rfl⟩ := hc.exists_between
  rcases dayItem_cases seen rest with ⟨d', w, b, rfl, hw, -, hrun⟩ | ⟨-, log', hrun⟩
  · cases hrun.symm.trans h
    refine ⟨⟨seen ++ w, b, by simp, rfl⟩, ?_⟩
    have hsize : w.byteSize ≠ 0 := fun h => hw (Text.byteSize_eq_zero.1 h)
    rw [Cursor.pos_between, Text.byteSize_append]
    omega
  · cases hrun.symm.trans h

theorem dayItem_of_not_matchesAt {c : Cursor} (hc : c.Aligned) (h : ¬ dayItem.MatchesAt c) :
    dayOfWeek.MissesAt c ∧ ∃ log, dayItem c = .ok ⟨.missed, c.pos, log⟩ := by
  obtain ⟨seen, rest, rfl⟩ := hc.exists_between
  rcases dayItem_cases seen rest with ⟨d, w, b, -, -, -, hrun⟩ | hmiss
  · exact absurd ⟨d, _, [], hrun⟩ h
  · exact hmiss

/-- The days are those on the walk to the first place where there is none. -/
theorem quiet_daysOfWeek {c e : Cursor} {days : List Weekday} (hwalk : dayItem.Walk c days e)
    (hc : c.Aligned) (he : e.Aligned) (hend : ¬ dayItem.MatchesAt e) {rounds : Nat}
    (hr : days.length < rounds) : (daysOfWeek rounds).quiet c
      = .ok (if days = [] then ⟨.missed, c.pos, []⟩ else ⟨.matched days, e.pos, []⟩) := by
  obtain ⟨-, log, hmiss⟩ := dayItem_of_not_matchesAt he hend
  obtain ⟨more, logs, hrun⟩ :=
    advances_dayItem.exists_collect_succ (follows_self dayItem) hwalk hc 1 hr
  rw [collect_of_missed rfl hmiss, he.home_eq, List.map_id] at hrun
  have hcollect : collect rounds 1 (fun _ => true) dayItem 0 c
      = .ok ⟨days, e.pos, none, logs ++ log⟩ := by
    rw [hrun]
    exact congrArg (fun items => Except.ok (⟨items, e.pos, none, logs ++ log⟩ : Harvest Weekday))
      (List.append_nil days)
  rw [daysOfWeek_eq, oneOrMore]
  by_cases hdays : days = []
  · rw [if_pos hdays, quiet, atLeast, repeatWhile_eq_reply, hcollect, hdays, ← hc.home_eq]
    rfl
  · rw [if_neg hdays, quiet_atLeast_of_items hcollect (List.length_pos_iff.2 hdays)]

/-- Days in a row match where a day does and miss where it does. -/
theorem daysOfWeek_answers (seen rest : Text) {rounds : Nat} (hr : rest.length < rounds) :
    ((daysOfWeek rounds).MissesAt (.between seen rest) ↔ dayOfWeek.MissesAt (.between seen rest))
    ∧ ((daysOfWeek rounds).MatchesAt (.between seen rest)
      ↔ dayOfWeek.MatchesAt (.between seen rest)) := by
  have hc := Cursor.aligned_between seen rest
  obtain ⟨days, e, hwalk, he, hlen, hend⟩ := advances_dayItem.exists_walk seen rest
  have hquiet := quiet_daysOfWeek hwalk hc he hend (Nat.lt_of_le_of_lt hlen hr)
  cases hwalk with
  | stay =>
    have hmiss := (dayItem_of_not_matchesAt hc hend).1
    have hmisses : (daysOfWeek rounds).MissesAt (.between seen rest) :=
      missesAt_iff_quiet.2 ⟨_, hquiet⟩
    exact ⟨iff_of_true hmisses hmiss,
      iff_of_false (fun h => h.not_missesAt hmisses) fun h => h.not_missesAt hmiss⟩
  | step hitem hmore =>
    have hmatch : dayOfWeek.MatchesAt (.between seen rest) := by
      rcases dayItem_cases seen rest with ⟨d, w, b, -, -, hmatch, -⟩ | ⟨-, log, hrun⟩
      · exact hmatch
      · cases hrun.symm.trans hitem
    have hmatches : (daysOfWeek rounds).MatchesAt (.between seen rest) :=
      ⟨_, _, matchesTo_iff_quiet.2 hquiet⟩
    exact ⟨iff_of_false hmatches.not_missesAt hmatch.not_missesAt, iff_of_true hmatches hmatch⟩

/-! ## Days as they are written -/

/-- Words with a single space between each two of them. -/
def joined (words : List Text) : Text := List.intercalate [' '] words

/-- The text has the letters of one of the names of the day, in either case. -/
def Names (d : Weekday) (w : Text) : Prop := ∃ s ∈ d.spellings, w.map Char.toLower = s.toList

theorem joined_singleton (w : Text) : joined [w] = w := List.append_nil w

theorem joined_cons_cons (w w' : Text) (words : List Text) :
    joined (w :: w' :: words) = w ++ ' ' :: joined (w' :: words) := rfl

/-- Written days are walked along to the end of the text. -/
theorem walk_dayItem : ∀ {words : List (Weekday × Text)}, (∀ x ∈ words, Names x.1 x.2) →
    ∀ seen, dayItem.Walk (.between seen (joined (words.map Prod.snd))) (words.map Prod.fst)
      (.between (seen ++ joined (words.map Prod.snd)) [])
  | [], _, seen => by
    have hnil : seen ++ joined [] = seen := List.append_nil seen
    rw [List.map_nil, List.map_nil, hnil]
    exact .stay _
  | [x], h, seen => by
    obtain ⟨s, hs, hw⟩ := h x List.mem_cons_self
    have hday := dayOfWeek_word hs hw (b := []) (by simp) seen
    have hitem := dayItem_of_no_space (by simp) hday
    have hmove := Cursor.moveTo_between seen x.2 []
    rw [List.append_nil] at hitem hmove
    rw [List.map_singleton, List.map_singleton, joined_singleton]
    refine .step hitem ?_
    rw [hmove]
    exact .stay _
  | x :: y :: words, h, seen => by
    obtain ⟨s, hs, hw⟩ := h x List.mem_cons_self
    have hmore : dayItem.Walk
        (.between (seen ++ (x.2 ++ [' '])) (joined ((y :: words).map Prod.snd)))
        ((y :: words).map Prod.fst) _ :=
      walk_dayItem (fun z hz => h z (List.mem_cons_of_mem x hz)) _
    have hsplit : joined ((x :: y :: words).map Prod.snd)
        = x.2 ++ ' ' :: joined ((y :: words).map Prod.snd) := joined_cons_cons _ _ _
    have hitem := dayItem_of_space
      (dayOfWeek_word hs hw (b := ' ' :: joined ((y :: words).map Prod.snd)) (by simp) seen)
    have hmove := Cursor.moveTo_between seen (x.2 ++ [' ']) (joined ((y :: words).map Prod.snd))
    rw [List.append_assoc, List.singleton_append] at hmove
    rw [hsplit]
    refine .step hitem ?_
    rw [hmove]
    have hbehind : seen ++ (x.2 ++ ' ' :: joined ((y :: words).map Prod.snd))
        = seen ++ (x.2 ++ [' ']) ++ joined ((y :: words).map Prod.snd) := by simp
    rw [hbehind]
    exact hmore

theorem not_matchesAt_dayItem_nil (seen : Text) : ¬ dayItem.MatchesAt (.between seen []) := by
  rintro ⟨d, n, log, h⟩
  rcases dayItem_cases seen [] with ⟨d', w, b, hsplit, hw, -⟩ | ⟨-, log', hrun⟩
  · exact hw (List.append_eq_nil_iff.1 hsplit.symm).1
  · cases hrun.symm.trans h

/-- Names of days and of months match where one of their spellings does, with the longest that does;
all that do are of one day or month. Days in a row match where a day does, and days written by any
of their names, with single spaces between them, are read as they were written. -/
theorem calendar_names :
    ReadsLongest Weekday.spellings dayOfWeek
    ∧ ReadsLongest Month.spellings monthOfYear
    ∧ (∀ (seen rest : Text) (rounds : Nat), rest.length < rounds →
      ((daysOfWeek rounds).MissesAt (.between seen rest) ↔ dayOfWeek.MissesAt (.between seen rest))
      ∧ ((daysOfWeek rounds).MatchesAt (.between seen rest)
        ↔ dayOfWeek.MatchesAt (.between seen rest)))
    ∧ ∀ words : List (Weekday × Text), words ≠ [] → (∀ x ∈ words, Names x.1 x.2) →
      ∀ (seen : Text) (rounds : Nat), words.length < rounds →
      (daysOfWeek rounds).MatchesTo (.between seen (joined (words.map Prod.snd)))
        (words.map Prod.fst) (seen ++ joined (words.map Prod.snd)).byteSize := by
  refine ⟨readsLongest_dayOfWeek, readsLongest_monthOfYear,
    fun seen rest rounds hr => daysOfWeek_answers seen rest hr,
    fun words hne hwords seen rounds hr => ?_⟩
  have hquiet := quiet_daysOfWeek (walk_dayItem hwords seen) (Cursor.aligned_between _ _)
    (Cursor.aligned_between _ _) (not_matchesAt_dayItem_nil _)
    ((List.length_map _).trans_lt hr)
  rw [if_neg (by simpa using hne)] at hquiet
  exact matchesTo_iff_quiet.2 hquiet

/-- Three days, two of them abbreviated. -/
theorem calendar_names_thursday : (daysOfWeek 4).MatchesTo
    (.start ['T', 'H', 'U', 'R', ' ', 'f', 'r', 'i', 'd', 'a', 'y', ' ', 'S', 'u', 'n'])
    [.thursday, .friday, .sunday] 15 := by
  have hwords : ∀ x ∈ [(Weekday.thursday, ['T', 'H', 'U', 'R']),
      (.friday, ['f', 'r', 'i', 'd', 'a', 'y']), (.sunday, ['S', 'u', 'n'])], Names x.1 x.2 := by
    simp only [List.forall_mem_cons, Names]
    decide
  exact calendar_names.2.2.2 _ (by simp) hwords [] 4 (by decide)

end Days

end Parser

end Backtrack
