import Mathlib.Data.List.TakeWhile
import Backtrack.Parser.Blank
import Backtrack.Proofs.Delimiter
import Backtrack.Proofs.Refusal

/-!
# Runs of a class

The run of a class at a cursor is the longest first part of the remaining text with code points of
the class only. A repetition of the class reads it, up to its upper bound
(`Parser.quiet_recognize_repeatWhile`), and so does a scan for the first code point that is not in
the class (`Parser.scanText_class`): both read the run and stop behind it.
-/

namespace Backtrack

namespace Parser

variable {accept : Char → Bool} {seen rest : Text} {rounds : Nat}

/-! ## Collecting -/

/-- A repetition of a class collects its run, or the first `k` code points of it where the condition
on their number lets it have so many and no more. -/
theorem collect_charWhere {min : Nat} {proceed : Nat → Bool} : ∀ (rest seen : Text)
    (rounds k count : Nat), rest.length < rounds → (∀ j < k, proceed (count + j) = true) →
      (proceed (count + k) = false ∨ (rest.takeWhile accept).length ≤ k) →
      collect rounds min proceed (charWhere accept) count (.between seen rest)
        = .ok ⟨(rest.takeWhile accept).take k,
            (seen ++ (rest.takeWhile accept).take k).byteSize, none, []⟩ := by
  intro rest
  induction rest with
  | nil =>
    intro seen rounds k count hr _ _
    obtain ⟨more, rfl⟩ : ∃ m, rounds = m + 1 := ⟨rounds - 1, by simp at hr; omega⟩
    rw [List.takeWhile_nil, List.take_nil, List.append_nil]
    cases hgo : proceed count with
    | false => exact collect_of_refused hgo
    | true =>
      rw [collect_of_missed hgo (charWhere_nil accept seen), Cursor.home_between]
  | cons ch rest ih =>
    intro seen rounds k count hr hbefore hstop
    rw [List.length_cons] at hr
    obtain ⟨more, rfl⟩ : ∃ m, rounds = m + 1 := ⟨rounds - 1, by omega⟩
    have hitem := charWhere_cons accept seen ch rest
    cases haccept : accept ch with
    | false =>
      rw [haccept, if_neg Bool.false_ne_true] at hitem
      rw [List.takeWhile_cons_of_neg (by simp [haccept]), List.take_nil, List.append_nil]
      cases hgo : proceed count with
      | false => exact collect_of_refused hgo
      | true => rw [collect_of_missed hgo hitem, Cursor.home_between]
    | true =>
      rw [haccept, if_pos rfl] at hitem
      rw [List.takeWhile_cons_of_pos haccept] at hstop ⊢
      rcases k with _ | k
      · have hrefused : proceed count = false := hstop.resolve_right (by simp)
        rw [collect_of_refused hrefused, List.take_zero, List.append_nil, Cursor.pos_between]
      · have hgo : proceed count = true := hbefore 0 (Nat.succ_pos k)
        have hne : (seen ++ [ch]).byteSize ≠ seen.byteSize :=
          Text.byteSize_append_eq_iff.not.2 (List.cons_ne_nil ch [])
        rw [collect_of_matched hgo hitem fun h => hne h.1, Cursor.moveTo_between_cons]
        rw [ih (seen ++ [ch]) more k (count + 1) (by omega), List.take_succ_cons,
          List.append_cons seen ch ((rest.takeWhile accept).take k)]
        · rfl
        · intro j hj
          rw [Nat.add_right_comm, Nat.add_assoc]
          exact hbefore (j + 1) (by omega)
        · rw [Nat.add_right_comm, Nat.add_assoc]
          exact hstop.imp_right Nat.le_of_succ_le_succ

/-- What a repetition of a class reads: the first `k` code points of its run, if they are enough. -/
theorem quiet_recognize_repeatWhile {min k : Nat} {proceed : Nat → Bool}
    (hr : rest.length < rounds) (hbefore : ∀ j < k, proceed j = true)
    (hstop : proceed k = false ∨ (rest.takeWhile accept).length ≤ k) :
    (recognize (repeatWhile rounds min proceed (charWhere accept))).quiet (.between seen rest)
      = .ok (if min ≤ ((rest.takeWhile accept).take k).length
          then ⟨.matched ((rest.takeWhile accept).take k),
            (seen ++ (rest.takeWhile accept).take k).byteSize, []⟩
          else ⟨.missed, seen.byteSize, []⟩) := by
  have hcollect : collect rounds min proceed (charWhere accept) 0 (.between seen rest)
      = .ok ⟨(rest.takeWhile accept).take k,
          (seen ++ (rest.takeWhile accept).take k).byteSize, none, []⟩ :=
    collect_charWhere rest seen rounds k 0 hr (by simpa using hbefore) (by simpa using hstop)
  obtain ⟨b, hb⟩ : (rest.takeWhile accept).take k <+: rest :=
    (List.take_prefix _ _).trans (List.takeWhile_prefix _)
  generalize (rest.takeWhile accept).take k = a at hcollect hb ⊢
  subst hb
  have hrun : repeatWhile rounds min proceed (charWhere accept) (.between seen (a ++ b))
      = .ok (Harvest.reply min (.between seen (a ++ b)) ⟨a, (seen ++ a).byteSize, none, []⟩) := by
    rw [repeatWhile_eq_reply, hcollect]
    rfl
  rw [Harvest.reply] at hrun
  dsimp only at hrun
  split_ifs at hrun ⊢ with hmin
  · exact quiet_eq_ok (recognize_between hrun)
  · exact quiet_eq_ok (recognize_between_of_missed hrun)

theorem quiet_recognize_atLeast (min : Nat) (hr : rest.length < rounds) :
    (recognize (atLeast rounds min (charWhere accept))).quiet (.between seen rest)
      = .ok (if min ≤ (rest.takeWhile accept).length
          then ⟨.matched (rest.takeWhile accept), (seen ++ rest.takeWhile accept).byteSize, []⟩
          else ⟨.missed, seen.byteSize, []⟩) := by
  rw [atLeast, quiet_recognize_repeatWhile hr (fun _ _ => rfl) (.inr (Nat.le_refl _)),
    List.take_length]

/-! ## Scanning -/

/-- A scan for the first code point that is not in the class reads its run. -/
theorem scanText_class (hr : rest.length < rounds) :
    (scanText ⟨.atOnce, true⟩ rounds (charWhere fun ch => !accept ch)).MatchesTo
      (.between seen rest) (rest.takeWhile accept) (seen ++ rest.takeWhile accept).byteSize := by
  rw [scanText_matchesTo_iff _ hr]
  refine ⟨rfl, rest.dropWhile accept, List.takeWhile_append_dropWhile.symm, .inl rfl, ?_, ?_⟩
  · rcases hbehind : rest.dropWhile accept with _ | ⟨ch, behind⟩
    · exact .inl ⟨rfl, Cursor.atEnd_between.2 rfl⟩
    · have hch : (!accept ch) = true := by
        have := List.head?_dropWhile_not accept rest
        rw [hbehind] at this
        simpa using this
      exact .inr ⟨ch, _, [], by rw [charWhere_cons, if_pos hch]⟩
  · intro before behind hsplit hlen _
    have hrun : rest.takeWhile accept ++ rest.dropWhile accept = before ++ behind :=
      List.takeWhile_append_dropWhile.trans hsplit
    obtain ⟨x, hbefore, -⟩ | ⟨x, hbefore, hbehind⟩ := List.append_eq_append_iff.1 hrun
    · rw [hbefore, List.length_append] at hlen
      omega
    · rcases x with _ | ⟨ch, x⟩
      · rw [hbefore, List.append_nil] at hlen
        omega
      · have hch : ch ∈ rest.takeWhile accept := by simp [hbefore]
        have haccept : ¬ (!accept ch) = true := by simp [List.mem_takeWhile_imp hch]
        rw [hbehind, List.cons_append]
        refine ⟨fun h => ?_, seen.byteSize + before.byteSize, [], ?_⟩
        · cases Cursor.atEnd_between.1 h.2
        · rw [charWhere_cons, if_neg haccept, Text.byteSize_append]

/-! ## Reading a run -/

/-- One parser reads the run of a class and misses where it is empty, the other one reads it in any
case, so that nothing is left for a second time. -/
structure ReadsRun (accept : Char → Bool) (needed optional : Parser Text) (seen rest : Text) :
    Prop where
  optional_eq : optional.quiet (.between seen rest)
    = .ok ⟨.matched (rest.takeWhile accept), (seen ++ rest.takeWhile accept).byteSize, []⟩
  needed_eq : needed.quiet (.between seen rest)
    = .ok (if rest.takeWhile accept = [] then ⟨.missed, seen.byteSize, []⟩
        else ⟨.matched (rest.takeWhile accept), (seen ++ rest.takeWhile accept).byteSize, []⟩)
  misses_iff : needed.MissesAt (.between seen rest)
    ↔ optional.MatchesTo (.between seen rest) [] seen.byteSize
  twice : ∀ t n, optional.MatchesTo (.between seen rest) t n →
    optional.MatchesTo (Cursor.moveTo (.between seen rest) n) [] n

theorem quiet_recognize_zeroOrMore (accept : Char → Bool) (seen : Text)
    (hr : rest.length < rounds) :
    (recognize (zeroOrMore rounds (charWhere accept))).quiet (.between seen rest)
      = .ok ⟨.matched (rest.takeWhile accept), (seen ++ rest.takeWhile accept).byteSize, []⟩ := by
  rw [zeroOrMore, quiet_recognize_atLeast 0 hr, if_pos (Nat.zero_le _)]

theorem quiet_recognize_oneOrMore (accept : Char → Bool) (seen : Text)
    (hr : rest.length < rounds) :
    (recognize (oneOrMore rounds (charWhere accept))).quiet (.between seen rest)
      = .ok (if rest.takeWhile accept = [] then ⟨.missed, seen.byteSize, []⟩
          else ⟨.matched (rest.takeWhile accept),
            (seen ++ rest.takeWhile accept).byteSize, []⟩) := by
  rw [oneOrMore, quiet_recognize_atLeast 1 hr]
  by_cases hrun : rest.takeWhile accept = []
  · rw [if_pos hrun, hrun]
    rfl
  · have hlen : 1 ≤ (rest.takeWhile accept).length := List.length_pos_iff.2 hrun
    rw [if_neg hrun, if_pos hlen]

/-- The run of a class ends where the class does. -/
theorem takeWhile_dropWhile (accept : Char → Bool) (rest : Text) :
    (rest.dropWhile accept).takeWhile accept = [] := by
  rcases hbehind : rest.dropWhile accept with _ | ⟨ch, behind⟩
  · rfl
  · have hch := List.head?_dropWhile_not accept rest
    rw [hbehind] at hch
    exact List.takeWhile_cons_of_neg (by simpa using hch)

theorem readsRun_charWhere (accept : Char → Bool) (hr : rest.length < rounds) :
    ReadsRun accept (recognize (oneOrMore rounds (charWhere accept)))
      (recognize (zeroOrMore rounds (charWhere accept))) seen rest := by
  have hoptional := quiet_recognize_zeroOrMore accept seen hr
  have hneeded := quiet_recognize_oneOrMore accept seen hr
  refine ⟨hoptional, hneeded, ?_, fun t n h => ?_⟩
  · rw [missesAt_iff_quiet, matchesTo_iff_quiet, hoptional, hneeded]
    by_cases hrun : rest.takeWhile accept = []
    · simp [hrun]
    · simp [hrun]
  · rw [matchesTo_iff_quiet, hoptional] at h
    cases h
    have hbehind : (rest.dropWhile accept).length < rounds := by
      have := List.length_dropWhile_le accept rest
      omega
    have hmove := Cursor.moveTo_between seen (rest.takeWhile accept) (rest.dropWhile accept)
    rw [List.takeWhile_append_dropWhile] at hmove
    rw [hmove, matchesTo_iff_quiet, quiet_recognize_zeroOrMore accept _ hbehind,
      takeWhile_dropWhile, List.append_nil]

theorem prefix_takeWhile_iff {a : Text} :
    a <+: rest.takeWhile accept ↔ a <+: rest ∧ ∀ ch ∈ a, accept ch = true := by
  constructor
  · intro h
    exact ⟨h.trans (List.takeWhile_prefix _), fun ch hch => List.mem_takeWhile_imp (h.mem hch)⟩
  · rintro ⟨⟨b, rfl⟩, hall⟩
    rw [List.takeWhile_append_of_pos hall]
    exact List.prefix_append a _

/-- A repetition of a class and a scan for the first code point that is not in it read the same
text, the run of the class, and a repetition with bounds reads as much of it as its upper bound
allows. -/
theorem class_run (accept : Char → Bool) (seen rest : Text) (rounds : Nat)
    (hr : rest.length < rounds) :
    (∀ a, a <+: rest.takeWhile accept ↔ a <+: rest ∧ ∀ ch ∈ a, accept ch = true)
    ∧ ReadsRun accept (recognize (oneOrMore rounds (charWhere accept)))
        (recognize (zeroOrMore rounds (charWhere accept))) seen rest
    ∧ (scanText ⟨.atOnce, true⟩ rounds (charWhere fun ch => !accept ch)).quiet (.between seen rest)
      = (recognize (zeroOrMore rounds (charWhere accept))).quiet (.between seen rest)
    ∧ (∀ m n, m ≤ n →
      (recognize (between rounds m n (charWhere accept))).quiet (.between seen rest)
        = .ok (if m ≤ (rest.takeWhile accept).length
            then ⟨.matched ((rest.takeWhile accept).take n),
              (seen ++ (rest.takeWhile accept).take n).byteSize, []⟩
            else ⟨.missed, seen.byteSize, []⟩))
    ∧ ReadsRun (Property.binary .whiteSpace).contains (whitespace rounds)
        (optionalWhitespace rounds) seen rest
    ∧ ReadsRun (fun ch => [' ', '\t'].contains ch) (inlineWhitespace rounds)
        (optionalInlineWhitespace rounds) seen rest := by
  refine ⟨fun a => prefix_takeWhile_iff, readsRun_charWhere accept hr, ?_, fun m n hmn => ?_,
    readsRun_charWhere _ hr, readsRun_charWhere _ hr⟩
  · rw [matchesTo_iff_quiet.1 (scanText_class hr), quiet_recognize_zeroOrMore accept seen hr]
  · have hbefore : ∀ j < n, decide (j < n) = true := fun j hj => decide_eq_true hj
    have hstop : decide (n < n) = false := decide_eq_false (Nat.lt_irrefl n)
    have hmin : m ≤ ((rest.takeWhile accept).take n).length
        ↔ m ≤ (rest.takeWhile accept).length := by
      rw [List.length_take]
      omega
    rw [between, quiet_recognize_repeatWhile hr hbefore (.inl hstop)]
    simp only [hmin]

/-- A run of two code points of two bytes each, of which one is allowed; it has no blanks. -/
theorem class_run_accented : ['é', 'é', 'b'].length < 4
    ∧ (recognize (between 4 1 1 (charWhere (· == 'é')))).quiet (.between ['a'] ['é', 'é', 'b'])
      = .ok ⟨.matched ['é'], 3, []⟩
    ∧ (inlineWhitespace 4).MissesAt (.between ['a'] ['é', 'é', 'b']) := by
  have hlength : ['é', 'é', 'b'].length < 4 := by decide
  obtain ⟨-, -, -, hbetween, -, hblanks⟩ :=
    class_run (· == 'é') ['a'] ['é', 'é', 'b'] 4 hlength
  have hnone : (optionalInlineWhitespace 4).MatchesTo (.between ['a'] ['é', 'é', 'b']) [] 1 :=
    ⟨[], rfl⟩
  exact ⟨hlength, hbetween 1 1 (Nat.le_refl 1), hblanks.misses_iff.2 hnone⟩

end Parser

end Backtrack
