import Backtrack.Proofs.ClassRun
import Backtrack.Proofs.Failing
import Backtrack.Proofs.Names
import Backtrack.Proofs.Numeral
import Backtrack.Proofs.OptionalItem

/-!
# Numbers of days

The number of a day is the run of numbers in front of the cursor, of any script, and a suffix behind
it if there is one. It is read where all of the run are decimal digits and their value fits, and is
an error where they are not or it does not (`Parser.monthDay_answers`); so a number is read back as
it is written, with any zeros in front of it (`Parser.monthDay_with_suffix`,
`Parser.monthDay_without_suffix`).
-/

namespace Backtrack

namespace Parser

variable {rest : Text}

/-- The ordinal suffixes of a number. -/
def ordinals : List String := ["st", "nd", "rd", "th"]

/-! ## The value of a run of numbers -/

/-- The text is a number of a day if it is of decimal digits and its value fits. -/
def IsDayNumber (t : Text) : Prop :=
  (∀ c ∈ t, c.isDigit = true) ∧ Nat.ofDigitChars 10 t 0 < 2 ^ 32

theorem read_eq_ok_iff_isDayNumber {t : Text} (hne : t ≠ [])
    (ht : ∀ c ∈ t, Property.number.contains c = true) {m : Int} :
    Number.read .unsigned32 10 t = .ok m ↔ IsDayNumber t ∧ m = Nat.ofDigitChars 10 t 0 := by
  rw [Number.read_unsigned32_eq_ok_iff hne ht, IsDayNumber, and_assoc]

theorem dayNumberOf_of_isDayNumber {t : Text} (hne : t ≠ [])
    (ht : ∀ c ∈ t, Property.number.contains c = true) (h : IsDayNumber t) :
    dayNumberOf t = .ok (Nat.ofDigitChars 10 t 0) := by
  rw [dayNumberOf, (read_eq_ok_iff_isDayNumber hne ht).2 ⟨h, rfl⟩]
  rfl

theorem dayNumberOf_of_not_isDayNumber {t : Text} (hne : t ≠ [])
    (ht : ∀ c ∈ t, Property.number.contains c = true) (h : ¬ IsDayNumber t) :
    ∃ e, dayNumberOf t = .error (.cause (.number e)) := by
  rw [dayNumberOf]
  rcases hread : Number.read .unsigned32 10 t with e | m
  · exact ⟨e, rfl⟩
  · exact absurd ((read_eq_ok_iff_isDayNumber hne ht).1 hread).1 h

/-! ## The number and its suffix -/

theorem length_of_mem_ordinals : ∀ s ∈ ordinals, s.toList.length = 2 := by decide

/-- A suffix is read with two code points, if there is one. -/
theorem optional_ordinal (seen rest : Text) :
    (∃ s ∈ ordinals, rest.Begins s.toList)
      ∧ (∃ v, (spelled ordinals).optional (.between seen rest)
        = .ok ⟨.matched v, (seen ++ rest.take 2).byteSize, []⟩)
    ∨ (∀ s ∈ ordinals, ¬ rest.Begins s.toList)
      ∧ ∃ v, (spelled ordinals).optional (.between seen rest)
        = .ok ⟨.matched v, seen.byteSize, []⟩ := by
  rcases spelled_cases ordinals seen rest with ⟨s, hs, hbegins, t, hrun⟩ | ⟨hnone, hrun⟩
  · rw [length_of_mem_ordinals s hs] at hrun
    exact .inl ⟨⟨s, hs, hbegins⟩, _, optional_of_matched hrun⟩
  · have hoptional := optional_of_missed hrun
    rw [Cursor.home_between] at hoptional
    exact .inr ⟨hnone, _, hoptional⟩

/-- The number of a day and its suffix, before the number is read. -/
def numeral (rounds : Nat) : Parser Text :=
  sequence (recognize (oneOrMore rounds digit) >>= fun number =>
    (spelled ordinals).optional >>= fun _ => succeed number)

theorem monthDay_eq (rounds : Nat) : monthDay rounds = (numeral rounds).tryMap dayNumberOf := rfl

variable {rounds : Nat}

theorem numeral_of_no_number (seen : Text) (hr : rest.length < rounds)
    (h : rest.takeWhile Property.number.contains = []) :
    ∃ log, numeral rounds (.between seen rest) = .ok ⟨.missed, seen.byteSize, log⟩ := by
  have hquiet := quiet_recognize_oneOrMore Property.number.contains seen hr
  rw [if_pos h] at hquiet
  obtain ⟨n, log, hrun⟩ : (recognize (oneOrMore rounds digit)).MissesAt (.between seen rest) :=
    missesAt_iff_quiet.2 ⟨_, hquiet⟩
  have hmiss := sequence_of_missed (bind_of_missed
    (fun number => (spelled ordinals).optional >>= fun _ => succeed number) hrun)
  rw [Cursor.home_between] at hmiss
  exact ⟨_, hmiss⟩

variable {number behind : Text}

/-- What is behind the number decides on the suffix and has no part in the value. -/
theorem numeral_of_suffix {c : Cursor} {m n : Nat} {v : Presence Text}
    (hnumber : (recognize (oneOrMore rounds digit)).MatchesTo c number m)
    (hsuffix : (spelled ordinals).optional (c.moveTo m) = .ok ⟨.matched v, n, []⟩) :
    (numeral rounds).MatchesTo c number n := by
  obtain ⟨log, hnumber⟩ := hnumber
  refine ⟨log ++ [], sequence_of_matched ?_⟩
  rw [bind_of_matched _ hnumber, bind_of_matched _ hsuffix]
  rfl

/-- Behind the run of numbers a suffix is read too, if there is one. -/
theorem numeral_of_number (seen : Text) (hr : (number ++ behind).length < rounds) (hne : number ≠ [])
    (hnumber : (number ++ behind).takeWhile Property.number.contains = number) :
    (∃ s ∈ ordinals, behind.Begins s.toList)
      ∧ (numeral rounds).MatchesTo (.between seen (number ++ behind)) number
        (seen ++ (number ++ behind.take 2)).byteSize
    ∨ (∀ s ∈ ordinals, ¬ behind.Begins s.toList)
      ∧ (numeral rounds).MatchesTo (.between seen (number ++ behind)) number
        (seen ++ number).byteSize := by
  have hquiet := quiet_recognize_oneOrMore Property.number.contains seen hr
  rw [hnumber, if_neg hne] at hquiet
  have hrun : (recognize (oneOrMore rounds digit)).MatchesTo
      (.between seen (number ++ behind)) number (seen ++ number).byteSize :=
    matchesTo_iff_quiet.2 hquiet
  have hmove := Cursor.moveTo_between seen number behind
  rcases optional_ordinal (seen ++ number) behind with ⟨hsome, v, hrun'⟩ | ⟨hnone, v, hrun'⟩
  · rw [List.append_assoc] at hrun'
    exact .inl ⟨hsome, numeral_of_suffix hrun (hmove ▸ hrun')⟩
  · exact .inr ⟨hnone, numeral_of_suffix hrun (hmove ▸ hrun')⟩

/-- What the parser answers where the run of numbers is `number` and `behind` is behind it. -/
structure AnswersNumber (p : Parser Nat) (seen number behind : Text) : Prop where
  missesAt_iff : p.MissesAt (.between seen (number ++ behind)) ↔ number = []
  with_suffix : number ≠ [] → IsDayNumber number →
    (∃ s ∈ ordinals, (literalInsensitive s.toList).MatchesAt (.between (seen ++ number) behind)) →
    p.MatchesTo (.between seen (number ++ behind)) (Nat.ofDigitChars 10 number 0)
      (seen ++ (number ++ behind.take 2)).byteSize
  without_suffix : number ≠ [] → IsDayNumber number →
    ¬ (∃ s ∈ ordinals,
      (literalInsensitive s.toList).MatchesAt (.between (seen ++ number) behind)) →
    p.MatchesTo (.between seen (number ++ behind)) (Nat.ofDigitChars 10 number 0)
      (seen ++ number).byteSize
  refused : number ≠ [] → ¬ IsDayNumber number → ∃ e log, p (.between seen (number ++ behind))
    = .ok ⟨.failed ⟨.invalidInput, seen.byteSize, [.number e]⟩, seen.byteSize, log⟩

section Conversion

variable {c : Cursor} {n : Nat}

theorem monthDay_of_isDayNumber (hne : number ≠ [])
    (hall : ∀ x ∈ number, Property.number.contains x = true) (h : IsDayNumber number)
    (hrun : (numeral rounds).MatchesTo c number n) :
    (monthDay rounds).MatchesTo c (Nat.ofDigitChars 10 number 0) n := by
  obtain ⟨log, hrun⟩ := hrun
  rw [monthDay_eq]
  exact ⟨log, tryMap_of_converted hrun (dayNumberOf_of_isDayNumber hne hall h)⟩

theorem monthDay_of_not_isDayNumber (hne : number ≠ [])
    (hall : ∀ x ∈ number, Property.number.contains x = true) (h : ¬ IsDayNumber number)
    (hrun : (numeral rounds).MatchesTo c number n) :
    ∃ e log, monthDay rounds c
      = .ok ⟨.failed ⟨.invalidInput, c.pos, [.number e]⟩, c.home, log⟩ := by
  obtain ⟨log, hrun⟩ := hrun
  obtain ⟨e, he⟩ := dayNumberOf_of_not_isDayNumber hne hall h
  have herror := tryMap_of_refused hrun he
  rw [← monthDay_eq] at herror
  exact ⟨e, _, herror⟩

/-- Where there is a run of numbers, it is no miss whatever the numbers are. -/
theorem not_missesAt_monthDay (hne : number ≠ [])
    (hall : ∀ x ∈ number, Property.number.contains x = true)
    (hrun : (numeral rounds).MatchesTo c number n) : ¬ (monthDay rounds).MissesAt c := by
  intro hmiss
  by_cases h : IsDayNumber number
  · have hmatch : (monthDay rounds).MatchesAt c :=
      ⟨_, _, monthDay_of_isDayNumber hne hall h hrun⟩
    exact hmatch.not_missesAt hmiss
  · obtain ⟨e, log, herror⟩ := monthDay_of_not_isDayNumber hne hall h hrun
    cases (missesAt_iff_of_eq_ok herror).1 hmiss

end Conversion

theorem answersNumber_monthDay (seen : Text) (hr : (number ++ behind).length < rounds)
    (hnumber : (number ++ behind).takeWhile Property.number.contains = number) :
    AnswersNumber (monthDay rounds) seen number behind := by
  have hall : ∀ x ∈ number, Property.number.contains x = true := by
    rw [← hnumber]
    exact fun x hx => List.mem_takeWhile_imp hx
  have hcases := fun hne : number ≠ [] => numeral_of_number seen hr hne hnumber
  have hrun : number ≠ [] →
      ∃ n, (numeral rounds).MatchesTo (.between seen (number ++ behind)) number n :=
    fun hne => (hcases hne).elim (fun h => ⟨_, h.2⟩) fun h => ⟨_, h.2⟩
  constructor
  case missesAt_iff =>
    constructor
    · intro hmiss
      by_contra hne
      obtain ⟨n, hrun⟩ := hrun hne
      exact not_missesAt_monthDay hne hall hrun hmiss
    · intro hnil
      rw [hnil] at hr hnumber ⊢
      obtain ⟨log, hmiss⟩ := numeral_of_no_number seen hr hnumber
      rw [monthDay_eq]
      exact ⟨_, _, tryMap_of_missed hmiss⟩
  case with_suffix =>
    intro hne h hsuffix
    simp only [literalInsensitive_matchesAt_iff] at hsuffix
    rcases hcases hne with ⟨-, hrun⟩ | ⟨hnone, -⟩
    · exact monthDay_of_isDayNumber hne hall h hrun
    · obtain ⟨s, hs, hbegins⟩ := hsuffix
      exact absurd hbegins (hnone s hs)
  case without_suffix =>
    intro hne h hsuffix
    simp only [literalInsensitive_matchesAt_iff] at hsuffix
    rcases hcases hne with ⟨hsome, -⟩ | ⟨-, hrun⟩
    · exact absurd hsome hsuffix
    · exact monthDay_of_isDayNumber hne hall h hrun
  case refused =>
    intro hne h
    obtain ⟨n, hrun⟩ := hrun hne
    obtain ⟨e, log, herror⟩ := monthDay_of_not_isDayNumber hne hall h hrun
    rw [Cursor.home_between] at herror
    exact ⟨e, log, herror⟩

/-! ## Numbers as they are written -/

theorem not_number_of_toLower {x : Char} (h : x.toLower.isLower = true) :
    Property.number.contains x = false := by
  have htable : ∀ n < 128, (Char.ofNat n).toLower.isLower = true →
      Property.number.contains (Char.ofNat n) = false := by
    decide +kernel
  have hx : x.toNat < 128 := of_decide_eq_true (Ascii.isAscii_of_toLower h)
  have hchar := htable x.toNat hx
  rw [Char.ofNat_toNat] at hchar
  exact hchar h

theorem takeWhile_number {number behind : Text} (hnumber : ∀ c ∈ number, c.isDigit = true)
    (hbehind : ∀ x ∈ behind.head?, Property.number.contains x = false) :
    (number ++ behind).takeWhile Property.number.contains = number := by
  rw [List.takeWhile_append_of_pos fun c hc => Number.number_of_isDigit (hnumber c hc)]
  cases behind with
  | nil => exact List.append_nil number
  | cons x behind =>
    have hx : ¬ Property.number.contains x = true := by simp [hbehind x rfl]
    rw [List.takeWhile_cons_of_neg hx, List.append_nil]

theorem isDayNumber_withZeros {n : Nat} (hn : n < 2 ^ 32) (zeros : Nat) :
    IsDayNumber (Number.withZeros zeros n) := by
  refine ⟨fun c hc => Number.isDigit_of_mem_withZeros hc, ?_⟩
  rw [Number.ofDigitChars_withZeros]
  exact hn

theorem lower_of_mem_ordinals : ∀ s ∈ ordinals, ∀ y ∈ s.toList, y.isLower = true := by
  simp [ordinals]

section Written

variable {n : Nat} (hn : n < 2 ^ 32) (zeros : Nat) (seen : Text)

include hn

/-- A number written with zeros in front of it and a suffix behind it is read with the suffix. -/
theorem monthDay_with_suffix {s : String} (hs : s ∈ ordinals) {suffix : Text}
    (hsuffix : suffix.map Char.toLower = s.toList) (behind : Text)
    (hr : (Number.withZeros zeros n ++ (suffix ++ behind)).length < rounds) :
    (monthDay rounds).MatchesTo (.between seen (Number.withZeros zeros n ++ (suffix ++ behind))) n
      (seen ++ (Number.withZeros zeros n ++ suffix)).byteSize := by
  have hlower := lower_of_mem_ordinals s hs
  have hlen : suffix.length = 2 := by
    rw [← length_of_mem_ordinals s hs, ← hsuffix, List.length_map]
  have htake : (suffix ++ behind).take 2 = suffix := by rw [← hlen, List.take_left]
  have hhead : ∀ x ∈ (suffix ++ behind).head?, Property.number.contains x = false := by
    cases suffix with
    | nil => cases hlen
    | cons x suffix =>
      rintro _ ⟨⟩
      refine not_number_of_toLower (hlower _ ?_)
      rw [← hsuffix]
      exact List.mem_cons_self
  have hanswers := answersNumber_monthDay seen hr
    (takeWhile_number (fun c hc => Number.isDigit_of_mem_withZeros hc) hhead)
  have hmatch := hanswers.with_suffix (Number.withZeros_ne_nil zeros n)
    (isDayNumber_withZeros hn zeros) ⟨s, hs, ?_⟩
  · rwa [Number.ofDigitChars_withZeros, htake] at hmatch
  · exact literalInsensitive_matchesAt_iff.2 (Text.begins_append hsuffix hlower behind)

/-- A number written with zeros in front of it and no suffix behind it is read as it is. -/
theorem monthDay_without_suffix {behind : Text}
    (hnumber : ∀ x ∈ behind.head?, Property.number.contains x = false)
    (hsuffix : ¬ ∃ s ∈ ordinals, (literalInsensitive s.toList).MatchesAt
      (.between (seen ++ Number.withZeros zeros n) behind))
    (hr : (Number.withZeros zeros n ++ behind).length < rounds) :
    (monthDay rounds).MatchesTo (.between seen (Number.withZeros zeros n ++ behind)) n
      (seen ++ Number.withZeros zeros n).byteSize := by
  have hanswers := answersNumber_monthDay seen hr
    (takeWhile_number (fun c hc => Number.isDigit_of_mem_withZeros hc) hnumber)
  have hmatch := hanswers.without_suffix (Number.withZeros_ne_nil zeros n)
    (isDayNumber_withZeros hn zeros) hsuffix
  rwa [Number.ofDigitChars_withZeros] at hmatch

end Written

/-- The number of a day is the run of numbers in front of the cursor. It is missed where there are
none, read with a suffix behind it where all of them are decimal digits and their value fits, and an
error where it began otherwise. So a number is read back as it is written, with any zeros in front
of it, with any suffix behind it or with none. -/
theorem monthDay_answers (seen : Text) (rounds : Nat) :
    (∀ rest : Text, rest.length < rounds →
      AnswersNumber (monthDay rounds) seen (rest.takeWhile Property.number.contains)
        (rest.dropWhile Property.number.contains))
    ∧ ∀ n < 2 ^ 32, ∀ (zeros : Nat) (behind : Text),
      (∀ s ∈ ordinals, ∀ suffix : Text, suffix.map Char.toLower = s.toList →
        (Number.withZeros zeros n ++ (suffix ++ behind)).length < rounds →
        (monthDay rounds).MatchesTo
          (.between seen (Number.withZeros zeros n ++ (suffix ++ behind))) n
          (seen ++ (Number.withZeros zeros n ++ suffix)).byteSize)
      ∧ ((∀ x ∈ behind.head?, Property.number.contains x = false) →
        (¬ ∃ s ∈ ordinals, (literalInsensitive s.toList).MatchesAt
          (.between (seen ++ Number.withZeros zeros n) behind)) →
        (Number.withZeros zeros n ++ behind).length < rounds →
        (monthDay rounds).MatchesTo (.between seen (Number.withZeros zeros n ++ behind)) n
          (seen ++ Number.withZeros zeros n).byteSize) := by
  refine ⟨fun rest hr => ?_, fun n hn zeros behind => ⟨fun s hs suffix hsuffix hr => ?_, ?_⟩⟩
  · refine answersNumber_monthDay seen ?_ ?_
    · rwa [List.takeWhile_append_dropWhile]
    · rw [List.takeWhile_append_dropWhile]
  · exact monthDay_with_suffix hn zeros seen hs hsuffix behind hr
  · exact monthDay_without_suffix hn zeros seen

/-- The greatest number of 32 bits is read with its suffix, and the next one is an error. -/
theorem monthDay_answers_greatest :
    (monthDay 20).MatchesTo (.start (Number.withZeros 2 4294967295 ++ ['T', 'h'])) 4294967295 14
    ∧ ∃ e log, monthDay 20 (.start ['4', '2', '9', '4', '9', '6', '7', '2', '9', '6', '!'])
      = .ok ⟨.failed ⟨.invalidInput, 0, [.number e]⟩, 0, log⟩ := by
  obtain ⟨hcases, hwritten⟩ := monthDay_answers [] 20
  refine ⟨(hwritten 4294967295 (by decide) 2 []).1 "th" (by decide) ['T', 'h'] (by decide)
    (by decide), ?_⟩
  have hnumber : ['4', '2', '9', '4', '9', '6', '7', '2', '9', '6', '!'].takeWhile
      Property.number.contains = ['4', '2', '9', '4', '9', '6', '7', '2', '9', '6'] := by
    decide +kernel
  have hlarge : ¬ IsDayNumber ['4', '2', '9', '4', '9', '6', '7', '2', '9', '6'] :=
    fun h => absurd h.2 (by decide)
  have hanswers := hcases ['4', '2', '9', '4', '9', '6', '7', '2', '9', '6', '!'] (by decide)
  have hrefused := hanswers.refused
  rw [List.takeWhile_append_dropWhile, hnumber] at hrefused
  exact hrefused (by simp) hlarge

end Parser

end Backtrack
