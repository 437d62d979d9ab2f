import Mathlib.Tactic.IntervalCases
import Backtrack.Proofs.ClassRun
import Backtrack.Proofs.Failing
import Backtrack.Proofs.Numeral
import Backtrack.Proofs.Unrolling

/-!
# Dates in numbers

The parser of dates reads ten code points of one shape: numbers of any script at the places of the
digits and hyphens between them (`Parser.readsShape_dateRow`). What it has read is then converted,
which succeeds on the texts that valid dates are written as and on no others (`Date.read_eq_ok_iff`).
So the parser and the writing of dates undo each other, and what has the shape of a date and is not
one is an error (`Parser.yearMonthDay_answers`).
-/

namespace Backtrack

/-! ## Valid dates -/

namespace Date

/-- Every fourth year is a leap year, but of the centuries only every fourth one. -/
def Leap (year : Nat) : Prop := 4 ∣ year ∧ (100 ∣ year → 400 ∣ year)

/-- The date is one of the proleptic Gregorian calendar. -/
structure Valid (d : Date) : Prop where
  month_pos : 1 ≤ d.month
  month_le : d.month ≤ 12
  day_pos : 1 ≤ d.day
  day_le : d.day ≤ 31
  day_le_of_short : d.month ∈ [4, 6, 9, 11] → d.day ≤ 30
  day_le_of_february : d.month = 2 → d.day ≤ 29
  day_le_of_common : d.month = 2 → ¬ Leap d.year → d.day ≤ 28

theorem isLeap_iff (year : Nat) : isLeap year = true ↔ Leap year := by
  simp only [isLeap, Leap, Bool.and_eq_true, Bool.or_eq_true, beq_iff_eq, bne_iff_ne]
  omega

theorem monthLength?_eq_some_iff {year month length : Nat} :
    monthLength? year month = some length
      ↔ month ∈ [1, 3, 5, 7, 8, 10, 12] ∧ length = 31
        ∨ month ∈ [4, 6, 9, 11] ∧ length = 30
        ∨ month = 2 ∧ length = if isLeap year then 29 else 28 := by
  by_cases hmonth : month ≤ 12
  · interval_cases month <;> simp [monthLength?] <;> exact eq_comm
  · have hnone : monthLength? year month = none := by
      unfold monthLength?
      split <;> first | omega | rfl
    rw [hnone]
    simp only [List.mem_cons, List.not_mem_nil, or_false]
    refine iff_of_false (by simp) ?_
    omega

/-- A date is valid exactly if its month exists and is long enough for its day. -/
theorem valid_iff {d : Date} : d.Valid
    ↔ ∃ length, monthLength? d.year d.month = some length ∧ 1 ≤ d.day ∧ d.day ≤ length := by
  simp only [monthLength?_eq_some_iff]
  constructor
  · intro h
    by_cases hfebruary : d.month = 2
    · refine ⟨_, .inr (.inr ⟨hfebruary, rfl⟩), h.day_pos, ?_⟩
      split_ifs with hleap
      · exact h.day_le_of_february hfebruary
      · exact h.day_le_of_common hfebruary ((isLeap_iff _).not.1 hleap)
    by_cases hshort : d.month ∈ [4, 6, 9, 11]
    · exact ⟨_, .inr (.inl ⟨hshort, rfl⟩), h.day_pos, h.day_le_of_short hshort⟩
    · refine ⟨_, .inl ⟨?_, rfl⟩, h.day_pos, h.day_le⟩
      have := h.month_pos
      have := h.month_le
      simp only [List.mem_cons, List.not_mem_nil, or_false] at hshort ⊢
      omega
  · rintro ⟨length, hlength, hpos, hle⟩
    have hcommon : ¬ Leap d.year → isLeap d.year ≠ true := fun h => (isLeap_iff _).not.2 h
    simp only [List.mem_cons, List.not_mem_nil, or_false] at hlength
    have hlarge : length ≤ 31 ∧ (d.month = 2 → length ≤ 29) := by
      split_ifs at hlength <;> omega
    refine ⟨by omega, by omega, hpos, by omega, ?_, by omega, fun hfebruary hleap => ?_⟩
    · simp only [List.mem_cons, List.not_mem_nil, or_false]
      omega
    · rw [if_neg (hcommon hleap)] at hlength
      omega

theorem of_eq_ok_iff {year month day : Nat} {d : Date} :
    Date.of year month day = .ok d ↔ d = ⟨year, month, day⟩ ∧ d.Valid := by
  rw [valid_iff, Date.of]
  rcases hlength : monthLength? year month with _ | length
  · refine iff_of_false (by simp) ?_
    rintro ⟨rfl, length, hlength', -⟩
    cases hlength.symm.trans hlength'
  · dsimp only
    split_ifs with hday
    · refine iff_of_false (by simp) ?_
      rintro ⟨rfl, length', hlength', hpos, hle⟩
      cases hlength.symm.trans hlength'
      dsimp only at hpos hle
      omega
    · constructor
      · intro h
        cases h
        exact ⟨rfl, length, hlength, by dsimp only; omega, by dsimp only; omega⟩
      · rintro ⟨rfl, -⟩
        rfl

/-! ## Dates as they are written -/

/-- A date is written with four digits for the year and two for the month and the day. -/
def iso (d : Date) : Text :=
  Number.padded 4 d.year ++ '-' :: (Number.padded 2 d.month ++ '-' :: Number.padded 2 d.day)

theorem length_padded_year (d : Date) (h : d.year ≤ 9999) :
    (Number.padded 4 d.year).length = 4 :=
  Number.length_padded (by decide) (Nat.lt_succ_of_le h)

theorem Valid.length_padded_month {d : Date} (h : d.Valid) :
    (Number.padded 2 d.month).length = 2 := by
  have := h.month_le
  exact Number.length_padded (by decide) (by omega)

theorem Valid.length_padded_day {d : Date} (h : d.Valid) : (Number.padded 2 d.day).length = 2 := by
  have := h.day_le
  exact Number.length_padded (by decide) (by omega)

theorem Valid.length_iso {d : Date} (h : d.Valid) (hyear : d.year ≤ 9999) : d.iso.length = 10 := by
  rw [iso, List.length_append, List.length_cons, List.length_append, List.length_cons,
    d.length_padded_year hyear, h.length_padded_month, h.length_padded_day]

theorem splitHyphen_append {t : Text} (ht : '-' ∉ t) (rest : Text) :
    splitHyphen (t ++ '-' :: rest) = (t, rest) := by
  have hall : ∀ c ∈ t, (c != '-') = true := fun c hc => bne_iff_ne.2 fun h => ht (h ▸ hc)
  rw [splitHyphen, List.takeWhile_append_of_pos hall, List.dropWhile_append_of_pos hall]
  show (t ++ [], rest) = (t, rest)
  rw [List.append_nil]

section Read

/-- Three numbers of any script, as many code points long as those of a date. -/
structure Parts (year month day : Text) : Prop where
  length_year : year.length = 4
  length_month : month.length = 2
  length_day : day.length = 2
  number : ∀ c ∈ year ++ (month ++ day), Property.number.contains c = true

variable {year month day : Text} {d : Date}

theorem readPart_eq_ok_iff {t : Text} {k n : Nat} (hlen : t.length = k) (hpos : 0 < k) (hk : k ≤ 4)
    (ht : ∀ c ∈ t, Property.number.contains c = true) :
    readPart t = .ok n ↔ (∀ c ∈ t, c.isDigit = true) ∧ n = Nat.ofDigitChars 10 t 0 := by
  have hne : t ≠ [] := List.length_pos_iff.1 (hlen ▸ hpos)
  have hread : ∀ {m : Int}, Number.read .unsigned32 10 t = .ok m
      ↔ (∀ c ∈ t, c.isDigit = true) ∧ m = Nat.ofDigitChars 10 t 0 := by
    intro m
    rw [Number.read_unsigned32_eq_ok_iff hne ht]
    refine and_congr_right fun hdigits => and_iff_right ?_
    have hlt := Number.ofDigitChars_lt hdigits Nat.zero_lt_one
    have hpow : 10 ^ t.length ≤ 10 ^ 4 := Nat.pow_le_pow_right (by decide) (hlen ▸ hk)
    omega
  rw [readPart]
  rcases h : Number.read .unsigned32 10 t with e | m
  · refine iff_of_false (by simp) fun hn => ?_
    cases h.symm.trans (hread.2 ⟨hn.1, rfl⟩)
  · obtain ⟨hdigits, rfl⟩ := hread.1 h
    dsimp only
    rw [Except.ok.injEq, Int.toNat_natCast, and_iff_right hdigits, eq_comm]

theorem read_eq_ok_iff_of_parts (hyear : '-' ∉ year) (hmonth : '-' ∉ month) :
    Date.read (year ++ '-' :: (month ++ '-' :: day)) = .ok d
      ↔ ∃ y m k, readPart year = .ok y ∧ readPart month = .ok m ∧ readPart day = .ok k
        ∧ Date.of y m k = .ok d := by
  rw [Date.read, splitHyphen_append hyear]
  dsimp only
  rw [splitHyphen_append hmonth]
  rcases readPart year with e | y
  · exact iff_of_false (by rintro ⟨⟩) (by simp)
  rcases readPart month with e | m
  · exact iff_of_false (by rintro ⟨⟩) (by simp)
  rcases readPart day with e | k
  · exact iff_of_false (by rintro ⟨⟩) (by simp)
  · simp only [Except.ok.injEq, exists_eq_left', exists_and_left]
    exact Iff.rfl

theorem eq_padded_iff {t : Text} {k n : Nat} (hlen : t.length = k) (hpos : 0 < k) :
    t = Number.padded k n ↔ (∀ c ∈ t, c.isDigit = true) ∧ n = Nat.ofDigitChars 10 t 0 := by
  constructor
  · rintro rfl
    exact ⟨fun c hc => Number.isDigit_of_mem_withZeros hc, (Number.ofDigitChars_withZeros _ _).symm⟩
  · rintro ⟨hdigits, rfl⟩
    rw [← hlen, Number.padded_ofDigitChars (List.length_pos_iff.1 (hlen ▸ hpos)) hdigits]

/-- The text of three numbers is read exactly if it is what a valid date is written as. -/
theorem read_eq_ok_iff (h : Parts year month day) :
    Date.read (year ++ '-' :: (month ++ '-' :: day)) = .ok d
      ↔ d.Valid ∧ d.year ≤ 9999 ∧ year ++ '-' :: (month ++ '-' :: day) = d.iso := by
  have hhyphen : '-' ∉ year ++ (month ++ day) := by
    intro hmem
    have := h.number _ hmem
    rw [Number.not_number_sign.2] at this
    cases this
  simp only [List.mem_append, not_or] at hhyphen
  have hnumber := h.number
  simp only [List.forall_mem_append] at hnumber
  rw [read_eq_ok_iff_of_parts hhyphen.1 hhyphen.2.1]
  simp only [readPart_eq_ok_iff h.length_year (by decide) (by decide) hnumber.1,
    readPart_eq_ok_iff h.length_month (by decide) (by decide) hnumber.2.1,
    readPart_eq_ok_iff h.length_day (by decide) (by decide) hnumber.2.2, of_eq_ok_iff]
  constructor
  · rintro ⟨y, m, k, hy, hm, hk, rfl, hvalid⟩
    have hlt : y < 10 ^ 4 := by
      have := Number.ofDigitChars_lt hy.1 Nat.zero_lt_one
      rw [h.length_year] at this
      omega
    refine ⟨hvalid, Nat.le_of_lt_succ hlt, ?_⟩
    rw [iso, (eq_padded_iff h.length_year (by decide)).2 hy,
      (eq_padded_iff h.length_month (by decide)).2 hm, (eq_padded_iff h.length_day (by decide)).2 hk]
  · rintro ⟨hvalid, hyear, hiso⟩
    have hlen := d.length_padded_year hyear
    have hlen' := hvalid.length_padded_month
    obtain ⟨hy, hrest⟩ := List.append_inj hiso (h.length_year.trans hlen.symm)
    obtain ⟨hm, hrest⟩ := List.append_inj (List.cons.inj hrest).2 (h.length_month.trans hlen'.symm)
    have hk := (List.cons.inj hrest).2
    exact ⟨_, _, _, (eq_padded_iff h.length_year (by decide)).1 hy,
      (eq_padded_iff h.length_month (by decide)).1 hm,
      (eq_padded_iff h.length_day (by decide)).1 hk, rfl, hvalid⟩

end Read

end Date

namespace Parser

variable {α β : Type}

/-! ## Shapes -/

/-- The code points of the text pass the tests, one each. -/
def Fits (tests : List (Char → Bool)) (t : Text) : Prop :=
  List.Forall₂ (fun accept ch => accept ch = true) tests t

/-- The parser reads code points that pass the tests and misses where there are none. -/
def ReadsShape (tests : List (Char → Bool)) (p : Parser α) : Prop :=
  ∀ seen rest : Text,
    (∃ a b v, rest = a ++ b ∧ Fits tests a
      ∧ p.MatchesTo (.between seen rest) v (seen ++ a).byteSize)
    ∨ (∀ a b, rest = a ++ b → ¬ Fits tests a) ∧ p.MissesAt (.between seen rest)

section Shape

variable {tests tests' : List (Char → Bool)} {p q : Parser α}

theorem readsShape_succeed (v : α) : (succeed v).ReadsShape [] := by
  intro seen rest
  refine .inl ⟨[], rest, v, rfl, .nil, succeed_matchesTo_iff.2 ⟨rfl, ?_⟩⟩
  rw [List.append_nil, Cursor.pos_between]

theorem readsShape_charWhere (accept : Char → Bool) : (charWhere accept).ReadsShape [accept] := by
  intro seen rest
  cases rest with
  | nil =>
    refine .inr ⟨fun a b hrest ha => ?_, _, _, charWhere_nil accept seen⟩
    rw [(List.append_eq_nil_iff.1 hrest.symm).1] at ha
    cases ha
  | cons ch rest =>
    have hrun := charWhere_cons accept seen ch rest
    by_cases hch : accept ch = true
    · rw [if_pos hch] at hrun
      exact .inl ⟨[ch], rest, ch, rfl, .cons hch .nil, _, hrun⟩
    · rw [if_neg hch] at hrun
      refine .inr ⟨fun a b hrest ha => ?_, _, _, hrun⟩
      cases ha with
      | cons hch' _ =>
        cases hrest
        exact hch hch'

theorem ReadsShape.bind {next : α → Parser β} (hp : p.ReadsShape tests)
    (hn : ∀ v, (next v).ReadsShape tests') : (p >>= next).ReadsShape (tests ++ tests') := by
  intro seen rest
  have hsplit : ∀ {a b}, rest = a ++ b → Fits (tests ++ tests') a → ∃ x y, a = x ++ y
      ∧ Fits tests x ∧ Fits tests' y := by
    intro a b _ ha
    exact ⟨a.take tests.length, a.drop tests.length, (List.take_append_drop _ a).symm,
      (List.forall₂_take_append _ _ _ ha.flip).flip, (List.forall₂_drop_append _ _ _ ha.flip).flip⟩
  rcases hp seen rest with ⟨a, b, v, rfl, ha, hmatch⟩ | ⟨hnone, hmiss⟩
  · have hmove := Cursor.moveTo_between seen a b
    rcases hn v (seen ++ a) b with ⟨a', b', w, rfl, ha', hmatch'⟩ | ⟨hnone, hmiss⟩
    · refine .inl ⟨a ++ a', b', w, by simp, List.rel_append ha ha', ?_⟩
      refine bind_matchesTo_iff.2 ⟨v, _, hmatch, ?_⟩
      rw [hmove, ← List.append_assoc]
      exact hmatch'
    · refine .inr ⟨fun x b' hrest hx => ?_, bind_missesAt_of_matched hmatch (hmove ▸ hmiss)⟩
      obtain ⟨y, z, rfl, hy, hz⟩ := hsplit hrest hx
      rw [List.append_assoc] at hrest
      obtain ⟨-, hb⟩ := List.append_inj hrest (ha.length_eq.symm.trans hy.length_eq)
      exact hnone z b' hb hz
  · refine .inr ⟨fun x b' hrest hx => ?_, bind_missesAt_of_missed hmiss⟩
    obtain ⟨y, z, rfl, hy, -⟩ := hsplit hrest hx
    exact hnone y (z ++ b') (by rw [hrest, List.append_assoc]) hy

theorem ReadsShape.agrees (hp : p.ReadsShape tests) (h : p.Agrees q) : q.ReadsShape tests := by
  intro seen rest
  rcases hp seen rest with ⟨a, b, v, hrest, ha, hmatch⟩ | ⟨hnone, hmiss⟩
  · exact .inl ⟨a, b, v, hrest, ha, AgreesAt.matchesTo (h _) hmatch⟩
  · exact .inr ⟨hnone, AgreesAt.missesAt (h _) hmiss⟩

theorem readsShape_replicate (accept : Char → Bool) : ∀ n,
    (each (List.replicate n (charWhere accept))).ReadsShape (List.replicate n accept)
  | 0 => readsShape_succeed []
  | n + 1 => by
    rw [List.replicate_succ, List.replicate_succ, each]
    refine (readsShape_charWhere accept).bind fun v => ?_
    have hrest := (readsShape_replicate accept n).bind fun vs => readsShape_succeed (v :: vs)
    rwa [List.append_nil] at hrest

theorem readsShape_times (accept : Char → Bool) {n rounds : Nat} (h : n ≤ rounds) :
    (times rounds n (charWhere accept)).ReadsShape (List.replicate n accept) :=
  (readsShape_replicate accept n).agrees fun c => (agrees_times (charWhere accept) n rounds h c).symm

end Shape

/-! ## The shape of a date -/

/-- Four numbers, and behind hyphens two numbers that begin as those of a month and of a day do. -/
def dateShape : List (Char → Bool) :=
  List.replicate 4 Property.number.contains ++ [(· == '-'), fun ch => ['0', '1'].contains ch,
    Property.number.contains, (· == '-'), fun ch => ['0', '1', '2', '3'].contains ch,
    Property.number.contains]

/-- The numbers of a date and the hyphens between them. -/
def dateRow (rounds : Nat) : Parser Unit := do
  let _ ← times rounds 4 digit
  let _ ← char '-'
  let _ ← charIn ['0', '1']
  let _ ← digit
  let _ ← char '-'
  let _ ← charIn ['0', '1', '2', '3']
  let _ ← digit
  return

theorem yearMonthDay_eq (rounds : Nat) :
    yearMonthDay rounds = tryMap dateOf (recognize (sequence (dateRow rounds))) := rfl

theorem readsShape_dateRow {rounds : Nat} (h : 4 ≤ rounds) :
    (dateRow rounds).ReadsShape dateShape := by
  refine (readsShape_times Property.number.contains h).bind fun _ => ?_
  refine (readsShape_charWhere (· == '-')).bind fun _ => ?_
  refine (readsShape_charWhere fun ch => ['0', '1'].contains ch).bind fun _ => ?_
  refine (readsShape_charWhere Property.number.contains).bind fun _ => ?_
  refine (readsShape_charWhere (· == '-')).bind fun _ => ?_
  refine (readsShape_charWhere fun ch => ['0', '1', '2', '3'].contains ch).bind fun _ => ?_
  exact (readsShape_charWhere Property.number.contains).bind fun _ => readsShape_succeed ()

theorem number_of_contains {ch : Char} {set : List Char} (h : set.contains ch = true)
    (hset : ∀ c ∈ set, c.isDigit = true) : Property.number.contains ch = true :=
  Number.number_of_isDigit (hset ch (List.contains_iff_mem.1 h))

/-- What has the shape of a date is three numbers with hyphens between them. -/
theorem exists_parts_of_fits {t : Text} (h : Fits dateShape t) :
    ∃ year month day, t = year ++ '-' :: (month ++ '-' :: day) ∧ Date.Parts year month day := by
  have hshape : dateShape = List.replicate 4 Property.number.contains ++ ((· == '-') ::
      ([fun ch => ['0', '1'].contains ch, Property.number.contains] ++ ((· == '-') ::
        [fun ch => ['0', '1', '2', '3'].contains ch, Property.number.contains]))) := rfl
  simp only [Fits, hshape, List.replicate, List.cons_append, List.nil_append,
    List.forall₂_cons_left_iff, List.forall₂_nil_left_iff] at h
  obtain ⟨y₁, _, hy₁, ⟨y₂, _, hy₂, ⟨y₃, _, hy₃, ⟨y₄, _, hy₄, ⟨x, _, hx, ⟨m₁, _, hm₁, ⟨m₂, _, hm₂,
    ⟨x', _, hx', ⟨d₁, _, hd₁, ⟨d₂, _, hd₂, rfl, rfl⟩, rfl⟩, rfl⟩, rfl⟩, rfl⟩, rfl⟩, rfl⟩, rfl⟩,
    rfl⟩, rfl⟩ := h
  obtain rfl := beq_iff_eq.1 hx
  obtain rfl := beq_iff_eq.1 hx'
  refine ⟨[y₁, y₂, y₃, y₄], [m₁, m₂], [d₁, d₂], rfl, rfl, rfl, rfl, ?_⟩
  have hm₁' := number_of_contains hm₁ (by simp)
  have hd₁' := number_of_contains hd₁ (by simp)
  simp [*]

theorem fits_replicate {accept : Char → Bool} : ∀ {t : Text}, (∀ c ∈ t, accept c = true) →
    Fits (List.replicate t.length accept) t
  | [], _ => .nil
  | c :: t, h => by
    rw [List.forall_mem_cons] at h
    exact .cons h.1 (fits_replicate h.2)

/-- What a valid date is written as has the shape. -/
theorem fits_iso {d : Date} (h : d.Valid) (hyear : d.year ≤ 9999) : Fits dateShape d.iso := by
  have hyears : Fits (List.replicate 4 Property.number.contains) (Number.padded 4 d.year) := by
    have hdigits : ∀ c ∈ Number.padded 4 d.year, Property.number.contains c = true :=
      fun c hc => Number.number_of_isDigit (Number.isDigit_of_mem_withZeros hc)
    have hfits := fits_replicate hdigits
    rwa [d.length_padded_year hyear] at hfits
  have hmonths : ∀ m < 13, Fits [fun ch => ['0', '1'].contains ch, Property.number.contains]
      (Number.padded 2 m) := by
    unfold Fits
    decide +kernel
  have hdays : ∀ k < 32, Fits [fun ch => ['0', '1', '2', '3'].contains ch,
      Property.number.contains] (Number.padded 2 k) := by
    unfold Fits
    decide +kernel
  have hmonth := hmonths d.month (Nat.lt_succ_of_le h.month_le)
  have hday := hdays d.day (Nat.lt_succ_of_le h.day_le)
  exact List.rel_append hyears (.cons rfl (List.rel_append hmonth (.cons rfl hday)))

/-! ## The parser -/

variable {seen rest : Text} {rounds : Nat}

theorem length_of_fits {t : Text} (h : Fits dateShape t) : t.length = 10 :=
  (List.Forall₂.length_eq h).symm

/-- The next ten code points are read if they have the shape, and else nothing is. -/
theorem recognize_dateRow (hr : 4 ≤ rounds) (seen rest : Text) :
    Fits dateShape (rest.take 10) ∧ (∃ log, recognize (sequence (dateRow rounds))
        (.between seen rest)
      = .ok ⟨.matched (rest.take 10), (seen ++ rest.take 10).byteSize, log⟩)
    ∨ ¬ Fits dateShape (rest.take 10) ∧ ∃ log, recognize (sequence (dateRow rounds))
        (.between seen rest)
      = .ok ⟨.missed, seen.byteSize, log⟩ := by
  rcases readsShape_dateRow hr seen rest with
    ⟨a, b, v, rfl, ha, log, hrun⟩ | ⟨hnone, n, log, hrun⟩
  · have htake : (a ++ b).take 10 = a := by rw [← length_of_fits ha, List.take_left]
    rw [htake]
    exact .inl ⟨ha, log, recognize_between (sequence_of_matched hrun)⟩
  · have hmiss := recognize_between_of_missed (sequence_of_missed hrun)
    exact .inr ⟨hnone _ _ (List.take_append_drop 10 rest).symm, _, hmiss⟩

/-- What the parser answers at a cursor, with its outcomes told apart by the next ten code points. -/
structure AnswersDate (p : Parser Date) (seen rest : Text) : Prop where
  matchesTo_iff : ∀ d n, p.MatchesTo (.between seen rest) d n
    ↔ d.Valid ∧ d.year ≤ 9999 ∧ d.iso <+: rest ∧ n = (seen ++ d.iso).byteSize
  failed_iff : (∃ x, p.FailsWith (.between seen rest) x) ↔ Fits dateShape (rest.take 10)
    ∧ ∀ d : Date, d.Valid → d.year ≤ 9999 → rest.take 10 ≠ d.iso
  error_eq : ∀ x, p.FailsWith (.between seen rest) x →
    ∃ e, x = ⟨.invalidInput, seen.byteSize, [.date e]⟩
  missesAt_iff : p.MissesAt (.between seen rest) ↔ ¬ Fits dateShape (rest.take 10)
  stop_eq : ∀ r, p (.between seen rest) = .ok r → r.outcome.isMatch = false →
    r.stop = seen.byteSize

theorem dateOf_eq_ok_iff {t : Text} {d : Date} : dateOf t = .ok d ↔ Date.read t = .ok d := by
  rw [dateOf]
  rcases Date.read t with e | d' <;> simp [Except.mapError]

theorem exists_of_dateOf_error {t : Text} {seed : ErrorSeed} (h : dateOf t = .error seed) :
    ∃ e, seed = .cause (.date e) := by
  rw [dateOf] at h
  rcases hread : Date.read t with e | d <;> rw [hread] at h <;> cases h
  exact ⟨e, rfl⟩

theorem prefix_iso_iff {d : Date} (h : d.Valid) (hyear : d.year ≤ 9999) :
    d.iso <+: rest ↔ rest.take 10 = d.iso := by
  rw [List.prefix_iff_eq_take, h.length_iso hyear, eq_comm]

section Answers

variable {p : Parser Date} {log : List Record}

theorem answersDate_of_matched {d : Date} (hfits : Fits dateShape (rest.take 10))
    (hread : ∀ d' : Date, d' = d ↔ d'.Valid ∧ d'.year ≤ 9999 ∧ rest.take 10 = d'.iso)
    (h : p (.between seen rest) = .ok ⟨.matched d, (seen ++ rest.take 10).byteSize, log⟩) :
    AnswersDate p seen rest := by
  obtain ⟨hvalid, hyear, hiso⟩ := (hread d).1 rfl
  constructor
  case matchesTo_iff =>
    intro d' n
    rw [matchesTo_iff_of_eq_ok h]
    constructor
    · rintro ⟨hd, rfl⟩
      cases hd
      exact ⟨hvalid, hyear, (prefix_iso_iff hvalid hyear).2 hiso, by rw [hiso]⟩
    · rintro ⟨hvalid', hyear', hprefix, rfl⟩
      have hiso' := (prefix_iso_iff hvalid' hyear').1 hprefix
      obtain rfl : d' = d := (hread d').2 ⟨hvalid', hyear', hiso'⟩
      exact ⟨rfl, by rw [hiso]⟩
  case failed_iff =>
    simp only [failsWith_iff_of_eq_ok h]
    exact iff_of_false (by simp) fun hnone => hnone.2 d hvalid hyear hiso
  case error_eq =>
    intro x hx
    cases (failsWith_iff_of_eq_ok h).1 hx
  case missesAt_iff =>
    rw [missesAt_iff_of_eq_ok h]
    exact iff_of_false (by simp) (not_not.2 hfits)
  case stop_eq =>
    intro r hr hmatch
    cases h.symm.trans hr
    cases hmatch

theorem answersDate_of_failed {e : DateError} (hfits : Fits dateShape (rest.take 10))
    (hnone : ∀ d : Date, d.Valid → d.year ≤ 9999 → rest.take 10 ≠ d.iso)
    (h : p (.between seen rest)
      = .ok ⟨.failed ⟨.invalidInput, seen.byteSize, [.date e]⟩, seen.byteSize, log⟩) :
    AnswersDate p seen rest := by
  constructor
  case matchesTo_iff =>
    intro d n
    rw [matchesTo_iff_of_eq_ok h]
    refine iff_of_false (by simp) fun hd => ?_
    exact hnone d hd.1 hd.2.1 ((prefix_iso_iff hd.1 hd.2.1).1 hd.2.2.1)
  case failed_iff => exact iff_of_true ⟨_, _, _, h⟩ ⟨hfits, hnone⟩
  case error_eq =>
    intro x hx
    cases (failsWith_iff_of_eq_ok h).1 hx
    exact ⟨e, rfl⟩
  case missesAt_iff =>
    rw [missesAt_iff_of_eq_ok h]
    exact iff_of_false (by simp) (not_not.2 hfits)
  case stop_eq =>
    intro r hr _
    cases h.symm.trans hr
    rfl

theorem answersDate_of_missed (hfits : ¬ Fits dateShape (rest.take 10))
    (h : p (.between seen rest) = .ok ⟨.missed, seen.byteSize, log⟩) : AnswersDate p seen rest := by
  constructor
  case matchesTo_iff =>
    intro d n
    rw [matchesTo_iff_of_eq_ok h]
    refine iff_of_false (by simp) ?_
    rintro ⟨hvalid, hyear, hprefix, -⟩
    rw [(prefix_iso_iff hvalid hyear).1 hprefix] at hfits
    exact hfits (fits_iso hvalid hyear)
  case failed_iff =>
    simp only [failsWith_iff_of_eq_ok h]
    exact iff_of_false (by simp) fun hfailed => hfits hfailed.1
  case error_eq =>
    intro x hx
    cases (failsWith_iff_of_eq_ok h).1 hx
  case missesAt_iff => exact iff_of_true ⟨_, _, h⟩ hfits
  case stop_eq =>
    intro r hr _
    cases h.symm.trans hr
    rfl

end Answers

theorem answersDate_of_fits (hr : 4 ≤ rounds) (seen : Text)
    (hfits : Fits dateShape (rest.take 10)) : AnswersDate (yearMonthDay rounds) seen rest := by
  obtain ⟨log, hrun⟩ : ∃ log, recognize (sequence (dateRow rounds)) (.between seen rest)
      = .ok ⟨.matched (rest.take 10), (seen ++ rest.take 10).byteSize, log⟩ :=
    (recognize_dateRow hr seen rest).elim (·.2) fun h => absurd hfits h.1
  have hread : ∀ d : Date, dateOf (rest.take 10) = .ok d
      ↔ d.Valid ∧ d.year ≤ 9999 ∧ rest.take 10 = d.iso := by
    intro d
    obtain ⟨year, month, day, ht, hparts⟩ := exists_parts_of_fits hfits
    rw [dateOf_eq_ok_iff, ht]
    exact Date.read_eq_ok_iff hparts
  rcases hdate : dateOf (rest.take 10) with seed | d
  · obtain ⟨e, rfl⟩ := exists_of_dateOf_error hdate
    have herror := tryMap_of_refused hrun hdate
    rw [← yearMonthDay_eq, Cursor.home_between] at herror
    refine answersDate_of_failed hfits (fun d hvalid hyear hiso => ?_) herror
    cases hdate.symm.trans ((hread d).2 ⟨hvalid, hyear, hiso⟩)
  · have hmatch := tryMap_of_converted hrun hdate
    rw [← yearMonthDay_eq] at hmatch
    refine answersDate_of_matched hfits (fun d' => ?_) hmatch
    rw [← hread d', hdate, Except.ok.injEq, eq_comm]

theorem answersDate_of_not_fits (hr : 4 ≤ rounds) (seen : Text)
    (hfits : ¬ Fits dateShape (rest.take 10)) : AnswersDate (yearMonthDay rounds) seen rest := by
  obtain ⟨log, hrun⟩ : ∃ log, recognize (sequence (dateRow rounds)) (.between seen rest)
      = .ok ⟨.missed, seen.byteSize, log⟩ :=
    (recognize_dateRow hr seen rest).elim (fun h => absurd h.1 hfits) (·.2)
  have hmiss := tryMap_of_missed (f := dateOf) hrun
  rw [← yearMonthDay_eq, Cursor.home_between] at hmiss
  exact answersDate_of_missed hfits hmiss

/-- Dates and their writing undo each other: a valid date is read back from what it is written as,
with what is behind it left, and a date that is read is valid and was written so. What has the shape
of a date and is not what a valid one is written as is an error where it began, and all else is a
miss; both leave the cursor as it was. -/
theorem yearMonthDay_answers (seen : Text) {rounds : Nat} (hr : 4 ≤ rounds) :
    (∀ d : Date, d.Valid → d.year ≤ 9999 → ∀ behind : Text,
      (yearMonthDay rounds).MatchesTo (.between seen (d.iso ++ behind)) d
        (seen ++ d.iso).byteSize)
    ∧ ∀ rest : Text, AnswersDate (yearMonthDay rounds) seen rest := by
  have hanswers : ∀ rest : Text, AnswersDate (yearMonthDay rounds) seen rest := by
    intro rest
    by_cases hfits : Fits dateShape (rest.take 10)
    · exact answersDate_of_fits hr seen hfits
    · exact answersDate_of_not_fits hr seen hfits
  refine ⟨fun d hvalid hyear behind => ?_, hanswers⟩
  exact ((hanswers _).matchesTo_iff d _).2 ⟨hvalid, hyear, List.prefix_append _ _, rfl⟩

/-- The leap day of the year 0 is read back. What looks like the one of the year 1900, which there was
not, is no miss. -/
theorem yearMonthDay_answers_leap_day :
    (yearMonthDay 4).MatchesTo
      (.start ['0', '0', '0', '0', '-', '0', '2', '-', '2', '9', 'T']) ⟨0, 2, 29⟩ 10
    ∧ ¬ (yearMonthDay 4).MissesAt
      (.start ['1', '9', '0', '0', '-', '0', '2', '-', '2', '9']) := by
  obtain ⟨hwritten, hanswers⟩ := yearMonthDay_answers [] (Nat.le_refl 4)
  have hleap : Date.Leap 0 := (Date.isLeap_iff 0).1 rfl
  have hvalid : (⟨0, 2, 29⟩ : Date).Valid :=
    ⟨by decide, by decide, by decide, by decide, by decide, fun _ => Nat.le_refl 29,
      fun _ h => absurd hleap h⟩
  have hiso : (⟨0, 2, 29⟩ : Date).iso = ['0', '0', '0', '0', '-', '0', '2', '-', '2', '9'] := by
    decide +kernel
  have hfits : Fits dateShape ['1', '9', '0', '0', '-', '0', '2', '-', '2', '9'] := by
    unfold Fits
    decide +kernel
  have hmatch := hwritten _ hvalid (by decide) ['T']
  rw [hiso] at hmatch
  exact ⟨hmatch, fun hmiss => ((hanswers _).missesAt_iff).1 hmiss hfits⟩

end Parser

end Backtrack
