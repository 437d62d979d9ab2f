import Backtrack.Proofs.Spelling

/-!
# The comparison that ignores case

Two characters compare if one of their case mappings is the same. The uppercase mapping of the
lowercase mapping, the fold of a character, is the same for all that compare
(`fold_eq_of_sameFold`), and characters with the same fold compare, except for the two forms of
theta that have no mapping in common (`sameFold_of_fold_eq`). So the comparison is an equivalence up
to that one pair, and what a literal reads in any letter case is, too.

The tables enter by two checks. Outside of six characters the way down and up again ends at the
uppercase mapping, which is checked run by run. For these six, the characters that share a mapping
are computed, from the inverse of the runs.
-/

namespace Backtrack

set_option maxRecDepth 4000

variable {expansions : List (Nat × List Nat)} {runs : List CaseRun}

/-! ## Tables -/

/-- A character stands in an expansion, or in a run, or is mapped to itself. -/
theorem mapCase_cases (expansions : List (Nat × List Nat)) (runs : List CaseRun) (c : Char) :
    (∃ image, (c.toNat, image) ∈ expansions ∧ mapCase expansions runs c = image.map Char.ofNat)
    ∨ (∃ r ∈ runs, ∃ m, r.image? c.toNat = some m ∧ mapCase expansions runs c = [Char.ofNat m])
    ∨ mapCase expansions runs c = [c] := by
  unfold mapCase
  rcases hexp : expansions.lookup c.toNat with _ | image
  · rcases hrun : runs.findSome? fun r => r.image? c.toNat with _ | m
    · exact .inr (.inr (by simp only [hrun]))
    · obtain ⟨r, hr, hm⟩ := List.exists_of_findSome?_eq_some hrun
      exact .inr (.inl ⟨r, hr, m, hm, by simp only [hrun]⟩)
  · obtain ⟨before, behind, rfl, -⟩ := List.lookup_eq_some_iff.1 hexp
    exact .inl ⟨image, by simp, rfl⟩

theorem findSome?_filter_of_none {α β : Type} {keep : α → Bool} {f : α → Option β} {l : List α}
    (h : ∀ x ∈ l, keep x = false → f x = none) : (l.filter keep).findSome? f = l.findSome? f := by
  induction l with
  | nil => rfl
  | cons x l ih =>
    have ih := ih fun y hy => h y (List.mem_cons_of_mem x hy)
    rw [List.filter_cons]
    cases hx : keep x with
    | true => rw [if_pos rfl, List.findSome?_cons, List.findSome?_cons, ih]
    | false =>
      rw [if_neg Bool.false_ne_true, ih, List.findSome?_cons, h x List.mem_cons_self hx]

/-- The part of the expansions that lies between two code points. -/
def expansionsIn (lo hi : Nat) (expansions : List (Nat × List Nat)) : List (Nat × List Nat) :=
  expansions.filter fun e => lo.ble e.1 && e.1.ble hi

/-- The runs that meet the code points between two. -/
def runsIn (lo hi : Nat) (runs : List CaseRun) : List CaseRun :=
  runs.filter fun r => r.first.ble hi && lo.ble r.last

/-- What a table has elsewhere does not matter for a character. -/
theorem mapCase_in {lo hi : Nat} {c : Char} (hlo : lo ≤ c.toNat) (hhi : c.toNat ≤ hi) :
    mapCase (expansionsIn lo hi expansions) (runsIn lo hi runs) c = mapCase expansions runs c := by
  have hexp : (expansionsIn lo hi expansions).lookup c.toNat = expansions.lookup c.toNat := by
    rw [List.lookup_eq_findSome?, List.lookup_eq_findSome?]
    refine findSome?_filter_of_none fun e _ he => if_neg fun heq => ?_
    rw [← beq_iff_eq.1 heq, Nat.ble_eq_true_of_le hlo, Nat.ble_eq_true_of_le hhi] at he
    cases he
  have hrun : ((runsIn lo hi runs).findSome? fun r => r.image? c.toNat)
      = runs.findSome? fun r => r.image? c.toNat := by
    refine findSome?_filter_of_none fun r _ hr => if_neg fun hin => ?_
    rw [Nat.ble_eq_true_of_le (Nat.le_trans hin.1 hhi),
      Nat.ble_eq_true_of_le (Nat.le_trans hlo hin.2.1)] at hr
    cases hr
  rw [mapCase, mapCase, hexp, hrun]

namespace CaseRun

variable {r : CaseRun} {n m : Nat}

/-- The code point that a run maps to the given one. -/
def source? (r : CaseRun) (m : Nat) : Option Nat :=
  if r.image ≤ m ∧ r.first + (m - r.image) ≤ r.last ∧ (m - r.image) % r.step = 0 then
    some (r.first + (m - r.image))
  else none

theorem image?_eq_some : r.image? n = some m
    ↔ (r.first ≤ n ∧ n ≤ r.last ∧ (n - r.first) % r.step = 0) ∧ r.image + (n - r.first) = m := by
  rw [image?, Option.ite_none_right_eq_some, Option.some_inj]

theorem source?_of_image? (h : r.image? n = some m) : r.source? m = some n := by
  obtain ⟨⟨hfirst, hlast, hstep⟩, rfl⟩ := image?_eq_some.1 h
  have hback : r.first + (n - r.first) = n := Nat.add_sub_cancel' hfirst
  rw [source?, Nat.add_sub_cancel_left, hback, if_pos ⟨Nat.le_add_right _ _, hlast, hstep⟩]

end CaseRun

/-- The characters that are mapped to the text. -/
def caseSources (expansions : List (Nat × List Nat)) (runs : List CaseRun) (t : Text) : Text :=
  (expansions.filter fun e => e.2.map Char.ofNat == t).map (fun e => Char.ofNat e.1)
    ++ match t with
      | [c] => c :: runs.filterMap fun r => (r.source? c.toNat).map Char.ofNat
      | _ => []

theorem caseSources_singleton (expansions : List (Nat × List Nat)) (runs : List CaseRun)
    (c : Char) : caseSources expansions runs [c]
      = (expansions.filter fun e => e.2.map Char.ofNat == [c]).map (fun e => Char.ofNat e.1)
        ++ c :: runs.filterMap fun r => (r.source? c.toNat).map Char.ofNat := rfl

theorem toNat_ofNat_of_ne {m : Nat} (h : Char.ofNat m ≠ '\x00') : (Char.ofNat m).toNat = m := by
  by_cases hm : m.isValidChar
  · rw [Char.ofNat, dif_pos hm]
    rfl
  · exact absurd (by rw [Char.ofNat, dif_neg hm]; rfl) h

theorem mem_caseSources {c : Char} (h : (mapCase expansions runs c).contains '\x00' = false) :
    c ∈ caseSources expansions runs (mapCase expansions runs c) := by
  rcases mapCase_cases expansions runs c with ⟨image, hexp, heq⟩ | ⟨r, hr, m, hm, heq⟩ | heq
  · refine List.mem_append_left _
      (List.mem_map.2 ⟨_, List.mem_filter.2 ⟨hexp, ?_⟩, Char.ofNat_toNat c⟩)
    rw [heq, beq_self_eq_true]
  · have hne : Char.ofNat m ≠ '\x00' := by
      rw [heq] at h
      intro hzero
      simp [hzero] at h
    rw [heq, caseSources_singleton, toNat_ofNat_of_ne hne]
    refine List.mem_append_right _ (List.mem_cons_of_mem _ (List.mem_filterMap.2 ⟨r, hr, ?_⟩))
    rw [CaseRun.source?_of_image? hm, Option.map_some, Char.ofNat_toNat]
  · rw [heq, caseSources_singleton]
    exact List.mem_append_right _ List.mem_cons_self

/-! ## Down and up again -/

/-- The uppercase mapping of the lowercase mapping. -/
def fold (c : Char) : Text := (lowercase c).flatMap uppercase

/-- The capitals whose lowercase mapping does not lead back to them: i with dot, the theta symbol,
sharp s and the signs for ohm, kelvin and angstrom. -/
def oneWay : List Char := ['\u0130', '\u03F4', '\u1E9E', '\u2126', '\u212A', '\u212B']

/-- Stretches of code points, each with few of the runs, so that the tables are searched in
parts. -/
def pages : List (Nat × Nat) :=
  [(0, 0x17F), (0x180, 0x36F), (0x370, 0x58F), (0x590, 0x1DFF), (0x1E00, 0x1EFF), (0x1F00, 0x1FFF),
    (0x2000, 0x2FFF), (0x3000, 0xFFFF), (0x10000, 0x1FFFF)]

/-- The uppercase mapping by what a page has between two code points. -/
def uppercaseIn (page : Nat × Nat) (lo hi : Nat) (c : Char) : Text :=
  mapCase (expansionsIn lo hi (expansionsIn page.1 page.2 CaseTable.uppercaseExpansions))
    (runsIn lo hi (runsIn page.1 page.2 CaseTable.uppercaseRuns)) c

theorem uppercaseIn_eq {page : Nat × Nat} {lo hi : Nat} {c : Char}
    (hpage : page.1 ≤ lo ∧ hi ≤ page.2) (hlo : lo ≤ c.toNat) (hhi : c.toNat ≤ hi) :
    uppercaseIn page lo hi c = uppercase c := by
  rw [uppercaseIn, mapCase_in hlo hhi,
    mapCase_in (Nat.le_trans hpage.1 hlo) (Nat.le_trans hhi hpage.2), uppercase]

/-- Whether each code point of a run has the uppercase mapping of its image, unless it is one of
those whose lowercase mapping does not lead back. -/
def CaseRun.leadsBack (r : CaseRun) (page page' : Nat × Nat) : Bool :=
  (List.range (r.last - r.first + 1)).all fun i =>
    let c := Char.ofNat (r.first + i)
    let d := Char.ofNat (r.image + i)
    i % r.step != 0
      || d.toNat == r.image + i
        && uppercaseIn page' r.image (r.image + (r.last - r.first)) d
          == uppercaseIn page r.first r.last c
      || oneWay.contains c

theorem lowercaseRuns_lead_back : ∀ r ∈ CaseTable.lowercaseRuns,
    ∃ page ∈ pages, (page.1 ≤ r.first ∧ r.last ≤ page.2)
      ∧ ∃ page' ∈ pages, (page'.1 ≤ r.image ∧ r.image + (r.last - r.first) ≤ page'.2)
        ∧ r.leadsBack page page' = true := by
  decide +kernel

theorem lowercaseExpansions_oneWay :
    ∀ e ∈ CaseTable.lowercaseExpansions, Char.ofNat e.1 ∈ oneWay := by
  decide +kernel

theorem fold_eq_uppercase {c : Char} (h : c ∉ oneWay) : fold c = uppercase c := by
  rw [fold, lowercase]
  rcases mapCase_cases CaseTable.lowercaseExpansions CaseTable.lowercaseRuns c with
    ⟨image, hexp, -⟩ | ⟨r, hr, m, hm, heq⟩ | heq
  · have hmem := lowercaseExpansions_oneWay _ hexp
    rw [Char.ofNat_toNat] at hmem
    exact absurd hmem h
  · obtain ⟨⟨hfirst, hlast, hstep⟩, rfl⟩ := CaseRun.image?_eq_some.1 hm
    obtain ⟨page, -, hpage, page', -, hpage', hback⟩ := lowercaseRuns_lead_back r hr
    have hpoint := List.all_eq_true.1 hback (c.toNat - r.first) (List.mem_range.2 (by omega))
    simp only [Nat.add_sub_cancel' hfirst, Char.ofNat_toNat, hstep, bne_self_eq_false,
      Bool.false_or, Bool.or_eq_true, List.contains_iff_mem, h, or_false, Bool.and_eq_true,
      beq_iff_eq] at hpoint
    obtain ⟨hd, hsame⟩ := hpoint
    rw [uppercaseIn_eq hpage hfirst hlast,
      uppercaseIn_eq hpage' (by omega) (by omega)] at hsame
    rw [heq, List.flatMap_singleton, hsame]
  · rw [heq, List.flatMap_singleton]

/-! ## The six that do not lead back -/

theorem uppercase_oneWay : (oneWay.all fun c => !(uppercase c).contains '\x00'
    && (caseSources CaseTable.uppercaseExpansions CaseTable.uppercaseRuns (uppercase c)).all
      (· == c)) = true := by
  decide +kernel

theorem fold_oneWay : (oneWay.all fun c => !(fold c).contains '\x00'
    && (caseSources CaseTable.uppercaseExpansions CaseTable.uppercaseRuns (fold c)).all
      fun d => sameFold c d || c == '\u03F4' && d == '\u03D1') = true := by
  decide +kernel

theorem sameFold_oneWay :
    (oneWay.all fun c => oneWay.all fun d => fold c != fold d || c == d) = true := by
  decide +kernel

theorem eq_of_uppercase_eq {c d : Char} (hc : c ∈ oneWay) (h : uppercase d = uppercase c) :
    d = c := by
  have hcheck := List.all_eq_true.1 uppercase_oneWay c hc
  simp only [Bool.and_eq_true, Bool.not_eq_true', ← h] at hcheck
  obtain ⟨hzero, hsources⟩ := hcheck
  exact beq_iff_eq.1 (List.all_eq_true.1 hsources d (mem_caseSources hzero))

theorem sameFold_of_uppercase_eq_fold {c d : Char} (hc : c ∈ oneWay) (h : uppercase d = fold c) :
    sameFold c d = true ∨ c = '\u03F4' ∧ d = '\u03D1' := by
  have hcheck := List.all_eq_true.1 fold_oneWay c hc
  simp only [Bool.and_eq_true, Bool.not_eq_true', ← h] at hcheck
  obtain ⟨hzero, hsources⟩ := hcheck
  simpa using List.all_eq_true.1 hsources d (mem_caseSources hzero)

theorem eq_of_fold_eq {c d : Char} (hc : c ∈ oneWay) (hd : d ∈ oneWay) (h : fold c = fold d) :
    c = d := by
  have hcheck := List.all_eq_true.1 (List.all_eq_true.1 sameFold_oneWay c hc) d hd
  rw [h, bne_self_eq_false, Bool.false_or] at hcheck
  exact beq_iff_eq.1 hcheck

/-! ## Characters -/

/-- The two characters that have the lowercase or the uppercase mapping of theta and nothing in
common with each other: the theta symbol and its capital. -/
def Thetas (c d : Char) : Prop := c = '\u03D1' ∧ d = '\u03F4' ∨ c = '\u03F4' ∧ d = '\u03D1'

theorem fold_eq_of_sameFold {c d : Char} (h : sameFold c d = true) : fold c = fold d := by
  simp only [sameFold, Bool.or_eq_true, beq_iff_eq] at h
  rcases h with (rfl | hlower) | hupper
  · rfl
  · rw [fold, hlower, fold]
  · by_cases hc : c ∈ oneWay
    · rw [eq_of_uppercase_eq hc hupper.symm]
    · by_cases hd : d ∈ oneWay
      · rw [eq_of_uppercase_eq hd hupper]
      · rw [fold_eq_uppercase hc, hupper, fold_eq_uppercase hd]

theorem sameFold_of_fold_eq {c d : Char} (h : fold c = fold d) :
    sameFold c d = true ∨ Thetas c d := by
  by_cases hc : c ∈ oneWay
  · by_cases hd : d ∈ oneWay
    · rw [eq_of_fold_eq hc hd h]
      exact .inl (sameFold_refl d)
    · rw [fold_eq_uppercase hd] at h
      exact (sameFold_of_uppercase_eq_fold hc h.symm).imp_right .inr
  · rw [fold_eq_uppercase hc] at h
    by_cases hd : d ∈ oneWay
    · rw [sameFold_comm]
      exact (sameFold_of_uppercase_eq_fold hd h).imp_right fun hdc => .inl hdc.symm
    · rw [fold_eq_uppercase hd] at h
      exact .inl (by simp [sameFold, h])

theorem not_sameFold_of_thetas {c d : Char} (h : Thetas c d) : sameFold c d = false := by
  rcases h with ⟨rfl, rfl⟩ | ⟨rfl, rfl⟩ <;> decide +kernel

/-- Two characters compare exactly if they have the same fold and are not the two thetas. -/
theorem sameFold_iff {c d : Char} : sameFold c d = true ↔ fold c = fold d ∧ ¬ Thetas c d := by
  constructor
  · intro h
    refine ⟨fold_eq_of_sameFold h, fun hthetas => ?_⟩
    rw [not_sameFold_of_thetas hthetas] at h
    cases h
  · exact fun h => (sameFold_of_fold_eq h.1).resolve_right h.2

/-! ## Texts -/

namespace Parser

variable {t u : Text}

/-- The literal of the first text, in any letter case, reads the whole of the second. -/
def ReadsAll (t u : Text) : Prop := (literalInsensitive t).MatchesTo (.start u) u u.byteSize

theorem readsAll_iff_forall₂ :
    ReadsAll t u ↔ List.Forall₂ (fun x y => sameFold x y = true) u t := by
  show (literalInsensitive t).MatchesTo (.between [] u) u u.byteSize ↔ _
  rw [(spells_literalInsensitive t).matchesTo_iff]
  simp

/-- A literal reads a text exactly if the two have the same folds and the two thetas stand nowhere
against each other. -/
theorem readsAll_iff :
    ReadsAll t u ↔ t.map fold = u.map fold ∧ ∀ xy ∈ t.zip u, ¬ Thetas xy.1 xy.2 := by
  rw [readsAll_iff_forall₂]
  induction t generalizing u with
  | nil => simp
  | cons x t ih =>
    cases u with
    | nil => simp
    | cons y u =>
      rw [List.forall₂_cons, ih, sameFold_comm, sameFold_iff]
      simp only [List.map_cons, List.cons.injEq, List.zip_cons_cons, List.forall_mem_cons]
      exact and_and_and_comm

/-- What a literal reads in any letter case is an equivalence of texts up to the two thetas: if one
text is read for a second and the second for a third, the first is read for the third unless the two
thetas stand against each other. -/
theorem readsAll_equivalence (t u v : Text) :
    ReadsAll t t
    ∧ (ReadsAll t u → ReadsAll u t)
    ∧ (ReadsAll t u → ReadsAll u v →
        (ReadsAll t v ↔ ∀ xy ∈ t.zip v, ¬ Thetas xy.1 xy.2)) := by
  refine ⟨?_, ?_, ?_⟩
  · rw [readsAll_iff_forall₂, List.forall₂_same]
    exact fun x _ => sameFold_refl x
  · simp only [readsAll_iff_forall₂]
    intro h
    exact h.flip.imp fun x y hxy => by rw [sameFold_comm, hxy]
  · simp only [readsAll_iff]
    rintro ⟨hfirst, -⟩ ⟨hsecond, -⟩
    exact and_iff_right (hfirst.trans hsecond)

/-- Theta compares with its symbol and with the capital of the symbol, which do not compare. -/
theorem readsAll_theta : ReadsAll ['\u03D1'] ['\u03B8'] ∧ ReadsAll ['\u03B8'] ['\u03F4']
    ∧ ¬ ReadsAll ['\u03D1'] ['\u03F4'] := by
  simp only [readsAll_iff_forall₂, List.forall₂_cons, List.forall₂_nil_left_iff]
  decide +kernel

end Parser

end Backtrack
