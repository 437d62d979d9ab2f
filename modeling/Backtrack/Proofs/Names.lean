import Backtrack.Calendar.Parser
import Backtrack.Proofs.AsciiLiteral
import Backtrack.Proofs.CaseFolding
import Backtrack.Proofs.OrderedChoice

/-!
# Names in any letter case

A choice of names has the first one with which the rest of the text begins
(`Parser.named_cases`). Two lowercase names with which a text begins are one at the start of the
other, so if among such names the longer one comes first and both have the same value, the choice
has the longest name and the one value of all that match (`Parser.LongestFirst.of_begins`).
-/

namespace Backtrack

/-- The text begins with the name, in any letter case. -/
def Text.Begins (rest name : Text) : Prop :=
  List.Forall₂ (fun x y => sameFold x y = true) (rest.take name.length) name

namespace Parser

variable {ι α : Type} {seen rest : Text} {c : Cursor}

theorem literalInsensitive_of_begins {name : Text} (h : rest.Begins name) (seen : Text) :
    literalInsensitive name (.between seen rest)
      = .ok ⟨.matched (rest.take name.length),
        (seen ++ rest.take name.length).byteSize, []⟩ := by
  rcases (spells_literalInsensitive name).take seen rest with ⟨-, hrun⟩ | ⟨hnone, -⟩
  · exact hrun
  · exact absurd h hnone

theorem literalInsensitive_of_not_begins {name : Text} (h : ¬ rest.Begins name) (seen : Text) :
    literalInsensitive name (.between seen rest) = .ok ⟨.missed, seen.byteSize, []⟩ := by
  rcases (spells_literalInsensitive name).take seen rest with ⟨hbegins, -⟩ | ⟨-, hrun⟩
  · exact absurd hbegins h
  · exact hrun

theorem literalInsensitive_matchesTo_iff {name a : Text} {n : Nat} :
    (literalInsensitive name).MatchesTo (.between seen rest) a n
      ↔ rest.Begins name ∧ a = rest.take name.length
        ∧ n = (seen ++ rest.take name.length).byteSize := by
  by_cases h : rest.Begins name
  · have hrun := literalInsensitive_of_begins h seen
    simp [MatchesTo, hrun, h, eq_comm]
  · have hrun := literalInsensitive_of_not_begins h seen
    simp [MatchesTo, hrun, h]

theorem literalInsensitive_matchesAt_iff {name : Text} :
    (literalInsensitive name).MatchesAt (.between seen rest) ↔ rest.Begins name := by
  unfold MatchesAt
  simp only [literalInsensitive_matchesTo_iff]
  simp

theorem literalInsensitive_missesAt_iff {name : Text} :
    (literalInsensitive name).MissesAt (.between seen rest) ↔ ¬ rest.Begins name := by
  by_cases h : rest.Begins name
  · have hmatch : (literalInsensitive name).MatchesAt (.between seen rest) :=
      literalInsensitive_matchesAt_iff.2 h
    exact iff_of_false hmatch.not_missesAt (not_not.2 h)
  · exact iff_of_true ⟨_, _, literalInsensitive_of_not_begins h seen⟩ h

/-! ## Alternatives of alternatives -/

theorem map_first {β : Type} (f : α → β) : ∀ ps : List (Parser α),
    (first ps).map f = first (ps.map (·.map f))
  | [] => rfl
  | p :: ps => by rw [first, map_orElse, map_first f ps, List.map_cons, first]

/-- From a boundary, lists of alternatives one behind the other are one list of them. -/
theorem first_map_first (hc : c.Aligned) : ∀ pss : List (List (Parser α)),
    first (pss.map first) c = first pss.flatten c
  | [] => rfl
  | ps :: pss => by
    have hrest := first_map_first hc pss
    rw [List.map_cons, first, List.flatten_cons]
    induction ps with
    | nil =>
      have hmiss : first ([] : List (Parser α)) c = .ok ⟨.missed, c.pos, []⟩ := rfl
      rw [orElse_of_missed _ hmiss, hc.moveTo_home, Reply.after_nil, hrest, List.nil_append]
    | cons p ps ih =>
      rw [first, orElse_assoc, List.cons_append, first]
      rcases hp : p c with f | ⟨a | _ | e, n, log⟩
      · rw [orElse_of_error _ hp, orElse_of_error _ hp]
      · rw [orElse_of_matched _ hp, orElse_of_matched _ hp]
      · rw [orElse_of_missed _ hp, orElse_of_missed _ hp, hc.moveTo_home, ih]
      · rw [orElse_of_failed _ hp, orElse_of_failed _ hp]

/-! ## Names with values -/

/-- The value of the first of the names that matches in any letter case. -/
def named (names : List (ι × Text)) : Parser ι :=
  first (names.map fun x => (literalInsensitive x.2).withValue x.1)

theorem spelled_withValue (spellings : List String) (i : ι) :
    (spelled spellings).withValue i = named (spellings.map fun s => (i, s.toList)) := by
  rw [spelled, withValue, map_first, named, List.map_map, List.map_map]
  rfl

/-- A choice of names has the first one with which the text begins, or misses if it begins with
none. -/
theorem named_cases (seen rest : Text) : ∀ names : List (ι × Text),
    (∃ before x behind, names = before ++ x :: behind
      ∧ (∀ y ∈ before, ¬ rest.Begins y.2) ∧ rest.Begins x.2
      ∧ named names (.between seen rest)
        = .ok ⟨.matched x.1, (seen ++ rest.take x.2.length).byteSize, []⟩)
    ∨ (∀ y ∈ names, ¬ rest.Begins y.2)
      ∧ named names (.between seen rest) = .ok ⟨.missed, seen.byteSize, []⟩
  | [] => .inr ⟨by simp, rfl⟩
  | x :: names => by
    rw [named, List.map_cons, first]
    by_cases hx : rest.Begins x.2
    · have hrun : (literalInsensitive x.2).withValue x.1 (.between seen rest)
          = .ok ⟨.matched x.1, (seen ++ rest.take x.2.length).byteSize, []⟩ := by
        rw [withValue, map_eq, literalInsensitive_of_begins hx]
        rfl
      exact .inl ⟨[], x, names, rfl, by simp, hx, orElse_of_matched _ hrun⟩
    · have hrun : (literalInsensitive x.2).withValue x.1 (.between seen rest)
          = .ok ⟨.missed, seen.byteSize, []⟩ := by
        rw [withValue, map_eq, literalInsensitive_of_not_begins hx]
        rfl
      rw [orElse_of_missed _ hrun, (Cursor.aligned_between seen rest).moveTo_home,
        Reply.after_nil]
      rcases named_cases seen rest names with
        ⟨before, y, behind, rfl, hbefore, hy, hnamed⟩ | ⟨hnone, hnamed⟩
      · exact .inl ⟨x :: before, y, behind, rfl, List.forall_mem_cons.2 ⟨hx, hbefore⟩, hy, hnamed⟩
      · exact .inr ⟨List.forall_mem_cons.2 ⟨hx, hnone⟩, hnamed⟩

/-- Of some spellings the first with which the text begins is read. -/
theorem spelled_cases (spellings : List String) (seen rest : Text) :
    (∃ s ∈ spellings, rest.Begins s.toList ∧ ∃ t, spelled spellings (.between seen rest)
        = .ok ⟨.matched t, (seen ++ rest.take s.toList.length).byteSize, []⟩)
    ∨ (∀ s ∈ spellings, ¬ rest.Begins s.toList)
      ∧ spelled spellings (.between seen rest) = .ok ⟨.missed, seen.byteSize, []⟩ := by
  have hnamed := congrFun (spelled_withValue spellings ()) (.between seen rest)
  rw [withValue, map_eq] at hnamed
  rcases named_cases seen rest (spellings.map fun s => ((), s.toList)) with
    ⟨before, x, behind, hsplit, -, hx, hrun⟩ | ⟨hnone, hrun⟩
  · obtain ⟨s, hs, rfl⟩ := List.mem_map.1
      (hsplit ▸ List.mem_append_right before List.mem_cons_self : x ∈ spellings.map _)
    rw [hrun] at hnamed
    rcases hspelled : spelled spellings (.between seen rest) with f | ⟨t | _ | e, n, log⟩ <;>
      rw [hspelled] at hnamed <;> cases hnamed
    exact .inl ⟨s, hs, hx, t, rfl⟩
  · rw [hrun] at hnamed
    rcases hspelled : spelled spellings (.between seen rest) with f | ⟨t | _ | e, n, log⟩ <;>
      rw [hspelled] at hnamed <;> cases hnamed
    exact .inr ⟨fun s hs => hnone _ (List.mem_map_of_mem hs), rfl⟩

end Parser

/-! ## The longest name -/

namespace Ascii

theorem isAscii_of_isAlpha {c : Char} (h : c.isAlpha = true) : isAscii c = true :=
  Class.isAscii_of_contains (show Class.alphabetic.contains c = true from h)

theorem toLower_of_not_isUpper {c : Char} (h : ¬ c.isUpper = true) : c.toLower = c := by
  unfold Char.toLower
  exact dif_neg fun hupper => h (decide_eq_true hupper)

theorem not_isUpper_of_isLower {c : Char} (h : c.isLower = true) : ¬ c.isUpper = true := by
  unfold Char.isLower at h
  unfold Char.isUpper
  simp only [Bool.and_eq_true, decide_eq_true_eq, ge_iff_le, UInt32.le_iff_toNat_le,
    UInt32.reduceToNat, Char.reduceVal] at h ⊢
  omega

theorem of_isLower {c : Char} (hc : c.isLower = true) : isAscii c = true ∧ c.toLower = c :=
  ⟨isAscii_of_isAlpha (Bool.or_eq_true_iff.2 (.inr hc)),
    toLower_of_not_isUpper (not_isUpper_of_isLower hc)⟩

/-- A character compares with one lowercase letter at most. -/
theorem eq_of_sameFold {x y z : Char} (hy : y.isLower = true) (hz : z.isLower = true)
    (hxy : sameFold x y = true) (hxz : sameFold x z = true) : y = z := by
  have hfold : fold y = fold z := (fold_eq_of_sameFold hxy).symm.trans (fold_eq_of_sameFold hxz)
  rcases sameFold_of_fold_eq hfold with hsame | hthetas
  · have := (sameFold_iff_toLower_eq (of_isLower hy).1 (of_isLower hz).1).1 hsame
    rwa [(of_isLower hy).2, (of_isLower hz).2] at this
  · rcases hthetas with ⟨rfl, -⟩ | ⟨rfl, -⟩ <;> cases hy

theorem isAscii_of_toLower {x : Char} (h : x.toLower.isLower = true) : isAscii x = true := by
  by_cases hupper : x.isUpper = true
  · exact isAscii_of_isAlpha (Bool.or_eq_true_iff.2 (.inl hupper))
  · rw [toLower_of_not_isUpper hupper] at h
    exact (of_isLower h).1

theorem sameFold_toLower {x : Char} (h : x.toLower.isLower = true) :
    sameFold x x.toLower = true := by
  rw [sameFold_iff_toLower_eq (isAscii_of_toLower h) (of_isLower h).1, (of_isLower h).2]

end Ascii

namespace Text

theorem byteSize_take_le (t : Text) {m n : Nat} (h : m ≤ n) :
    byteSize (t.take m) ≤ byteSize (t.take n) := by
  obtain ⟨b, hb⟩ : t.take m <+: t.take n := List.take_prefix_take_left h
  rw [← hb, byteSize_append]
  exact Nat.le_add_right _ _

theorem begins_cons_iff {rest name : Text} {y : Char} : rest.Begins (y :: name)
    ↔ ∃ x behind, rest = x :: behind ∧ sameFold x y = true ∧ Begins behind name := by
  unfold Begins
  constructor
  · intro h
    cases rest with
    | nil => cases h
    | cons x behind =>
      obtain ⟨hxy, hbehind⟩ := List.forall₂_cons.1 h
      exact ⟨x, behind, rfl, hxy, hbehind⟩
  · rintro ⟨x, behind, rfl, hxy, hbehind⟩
    exact List.forall₂_cons.2 ⟨hxy, hbehind⟩

/-- What has the letters of a name in either case begins with it. -/
theorem begins_append {name w : Text} (hw : w.map Char.toLower = name)
    (hname : ∀ y ∈ name, y.isLower = true) (b : Text) : Begins (w ++ b) name := by
  subst hw
  induction w with
  | nil => exact .nil
  | cons x w ih =>
    rw [List.map_cons, List.forall_mem_cons] at hname
    exact begins_cons_iff.2 ⟨x, w ++ b, rfl, Ascii.sameFold_toLower hname.1, ih hname.2⟩

/-- A name that goes on behind a word takes a letter from what is behind it. -/
theorem Begins.exists_of_lt : ∀ {w b name : Text}, Begins (w ++ b) name → w.length < name.length →
    ∃ x behind y, b = x :: behind ∧ y ∈ name ∧ sameFold x y = true
  | [], b, y :: name, h, _ => by
    obtain ⟨x, behind, hb, hxy, -⟩ := begins_cons_iff.1 h
    exact ⟨x, behind, y, hb, List.mem_cons_self, hxy⟩
  | z :: w, b, y :: name, h, hlt => by
    obtain ⟨x, behind, hb, -, hbehind⟩ := begins_cons_iff.1 h
    cases hb
    obtain ⟨x', behind', y', hb', hy', hxy'⟩ :=
      hbehind.exists_of_lt (Nat.lt_of_succ_lt_succ hlt)
    exact ⟨x', behind', y', hb', List.mem_cons_of_mem y hy', hxy'⟩

/-- Of two lowercase names with which a text begins the shorter one is at the start of the other. -/
theorem Begins.isPrefix : ∀ {rest s t : Text}, rest.Begins s → rest.Begins t →
    (∀ y ∈ s, y.isLower = true) → (∀ y ∈ t, y.isLower = true) → s.length ≤ t.length → s <+: t
  | _, [], t, _, _, _, _, _ => List.nil_prefix
  | rest, y :: s, z :: t, hs, ht, hslower, htlower, hle => by
    rw [List.forall_mem_cons] at hslower htlower
    obtain ⟨x, behind, rfl, hxy, hs'⟩ := begins_cons_iff.1 hs
    obtain ⟨x', behind', hrest, hxz, ht'⟩ := begins_cons_iff.1 ht
    cases hrest
    obtain rfl := Ascii.eq_of_sameFold hslower.1 htlower.1 hxy hxz
    rw [List.prefix_cons_inj]
    exact hs'.isPrefix ht' hslower.2 htlower.2 (Nat.le_of_succ_le_succ hle)

end Text

namespace Parser

/-- The names are in lowercase, and of two that a text may begin with the longer one comes first and
has the same value. -/
structure LongestFirst {ι : Type} (names : List (ι × Text)) : Prop where
  lower : ∀ x ∈ names, ∀ y ∈ x.2, y.isLower = true
  ordered : names.Pairwise fun x y =>
    x.2 <+: y.2 ∨ y.2 <+: x.2 → y.1 = x.1 ∧ y.2.length ≤ x.2.length

section LongestFirst

variable {ι : Type} {names : List (ι × Text)} {seen rest : Text}

/-- Of the names with which a text begins the first has the value of all of them and is as long as
any. -/
theorem LongestFirst.of_begins {before behind : List (ι × Text)} {x y : ι × Text}
    (hnames : LongestFirst (before ++ x :: behind)) (hbefore : ∀ y ∈ before, ¬ rest.Begins y.2)
    (hx : rest.Begins x.2) (hy : y ∈ before ++ x :: behind) (hbegins : rest.Begins y.2) :
    y.1 = x.1 ∧ y.2.length ≤ x.2.length := by
  rcases List.mem_append.1 hy with hy' | hy'
  · exact absurd hbegins (hbefore y hy')
  rcases List.mem_cons.1 hy' with rfl | hy'
  · exact ⟨rfl, Nat.le_refl _⟩
  have hordered := List.rel_of_pairwise_cons (List.pairwise_append.1 hnames.ordered).2.1 hy'
  have hlowerx := hnames.lower x (List.mem_append_right _ List.mem_cons_self)
  have hlowery := hnames.lower y hy
  rcases Nat.le_total x.2.length y.2.length with hle | hle
  · exact hordered (.inl (hx.isPrefix hbegins hlowerx hlowery hle))
  · exact hordered (.inr (hbegins.isPrefix hx hlowery hlowerx hle))

end LongestFirst

/-! ## Lists of spellings -/

section Spellings

variable {ι : Type} {values : List ι} {spellings : ι → List String} {p : Parser ι}

/-- The spellings of some values, each with its value. -/
def namesOf (values : List ι) (spellings : ι → List String) : List (ι × Text) :=
  values.flatMap fun i => (spellings i).map fun s => (i, s.toList)

theorem mem_namesOf {x : ι × Text} : x ∈ namesOf values spellings
    ↔ ∃ i ∈ values, ∃ s ∈ spellings i, (i, s.toList) = x := by
  simp [namesOf]

/-- A choice of values, each spelled in some ways, is one choice of names. -/
theorem choice_spelled {c : Cursor} (hc : c.Aligned) (spellings : ι → List String) (i j : ι)
    (is : List ι) : choice ((spelled (spellings i)).withValue i)
        ((j :: is).map fun k => (spelled (spellings k)).withValue k) c
      = named (namesOf (i :: j :: is) spellings) c := by
  have hfirst : (fun k => (spelled (spellings k)).withValue k)
      = fun k => first (((spellings k).map fun s => (k, s.toList)).map
        fun x => (literalInsensitive x.2).withValue x.1) :=
    funext fun k => spelled_withValue (spellings k) k
  calc choice ((spelled (spellings i)).withValue i)
        ((j :: is).map fun k => (spelled (spellings k)).withValue k) c
      = first ((i :: j :: is).map fun k => (spelled (spellings k)).withValue k) c := by
        rw [List.map_cons, choice_eq_first]
        rfl
    _ = first (((i :: j :: is).map fun k => ((spellings k).map fun s => (k, s.toList)).map
          fun x => (literalInsensitive x.2).withValue x.1).map first) c := by
        rw [hfirst, List.map_map]
        rfl
    _ = named (namesOf (i :: j :: is) spellings) c := by
        rw [first_map_first hc, ← List.flatMap_def, named, namesOf, List.map_flatMap]

/-- The parser matches where one of the spellings does, in any letter case. All that match are of
the value it has, and it stops behind the longest of them. -/
structure ReadsLongest (spellings : ι → List String) (p : Parser ι) : Prop where
  matchesAt_iff : ∀ c : Cursor, c.Aligned →
    (p.MatchesAt c ↔ ∃ i, ∃ s ∈ spellings i, (literalInsensitive s.toList).MatchesAt c)
  missesAt_iff : ∀ c : Cursor, c.Aligned →
    (p.MissesAt c ↔ ∀ i, ∀ s ∈ spellings i, (literalInsensitive s.toList).MissesAt c)
  reads : ∀ c : Cursor, c.Aligned → ∀ i n, p.MatchesTo c i n →
    ∃ s ∈ spellings i, ∃ t, (literalInsensitive s.toList).MatchesTo c t n
  longest : ∀ c : Cursor, c.Aligned → ∀ i n, p.MatchesTo c i n → ∀ j, ∀ s ∈ spellings j, ∀ t m,
    (literalInsensitive s.toList).MatchesTo c t m → j = i ∧ m ≤ n

/-- Of names the longest of which comes first, a choice has the longest with which the text begins,
and its value is that of all with which it does. -/
theorem LongestFirst.cases (hnames : LongestFirst (namesOf values spellings))
    (hvalues : ∀ i, i ∈ values)
    (hp : ∀ c : Cursor, c.Aligned → p c = named (namesOf values spellings) c) (seen rest : Text) :
    (∃ i, ∃ s ∈ spellings i, rest.Begins s.toList
      ∧ p (.between seen rest)
        = .ok ⟨.matched i, (seen ++ rest.take s.toList.length).byteSize, []⟩
      ∧ ∀ j, ∀ s' ∈ spellings j, rest.Begins s'.toList →
        j = i ∧ s'.toList.length ≤ s.toList.length)
    ∨ (∀ i, ∀ s ∈ spellings i, ¬ rest.Begins s.toList)
      ∧ p (.between seen rest) = .ok ⟨.missed, seen.byteSize, []⟩ := by
  have hmem : ∀ i, ∀ s ∈ spellings i, (i, s.toList) ∈ namesOf values spellings :=
    fun i s hs => mem_namesOf.2 ⟨i, hvalues i, s, hs, rfl⟩
  rw [hp _ (Cursor.aligned_between seen rest)]
  rcases named_cases seen rest (namesOf values spellings) with
    ⟨before, x, behind, hsplit, hbefore, hx, hrun⟩ | ⟨hnone, hrun⟩
  · have hxmem : x ∈ namesOf values spellings := by
      rw [hsplit]
      exact List.mem_append_right before List.mem_cons_self
    obtain ⟨i, -, s, hs, rfl⟩ := mem_namesOf.1 hxmem
    refine .inl ⟨i, s, hs, hx, hrun, fun j s' hs' hbegins => ?_⟩
    have hmem' := hmem j s' hs'
    rw [hsplit] at hnames hmem'
    exact hnames.of_begins hbefore hx hmem' hbegins
  · exact .inr ⟨fun i s hs => hnone _ (hmem i s hs), hrun⟩

theorem LongestFirst.readsLongest (hnames : LongestFirst (namesOf values spellings))
    (hvalues : ∀ i, i ∈ values)
    (hp : ∀ c : Cursor, c.Aligned → p c = named (namesOf values spellings) c) :
    ReadsLongest spellings p := by
  have hcases := hnames.cases hvalues hp
  constructor
  case matchesAt_iff =>
    intro c hc
    obtain ⟨seen, rest, rfl⟩ := hc.exists_between
    simp only [literalInsensitive_matchesAt_iff]
    rcases hcases seen rest with ⟨i, s, hs, hbegins, hrun, -⟩ | ⟨hnone, hrun⟩
    · exact iff_of_true ⟨i, _, [], hrun⟩ ⟨i, s, hs, hbegins⟩
    · have hmiss : p.MissesAt (.between seen rest) := ⟨_, _, hrun⟩
      refine iff_of_false (fun h => h.not_missesAt hmiss) ?_
      simpa using hnone
  case missesAt_iff =>
    intro c hc
    obtain ⟨seen, rest, rfl⟩ := hc.exists_between
    simp only [literalInsensitive_missesAt_iff]
    rcases hcases seen rest with ⟨i, s, hs, hbegins, hrun, -⟩ | ⟨hnone, hrun⟩
    · rw [missesAt_iff_of_eq_ok hrun]
      exact iff_of_false (by simp) fun h => h i s hs hbegins
    · exact iff_of_true ⟨_, _, hrun⟩ hnone
  case reads =>
    intro c hc i n hmatch
    obtain ⟨seen, rest, rfl⟩ := hc.exists_between
    rcases hcases seen rest with ⟨j, s, hs, hbegins, hrun, -⟩ | ⟨-, hrun⟩
    · obtain ⟨hvalue, rfl⟩ := (matchesTo_iff_of_eq_ok hrun).1 hmatch
      cases hvalue
      exact ⟨s, hs, _, literalInsensitive_matchesTo_iff.2 ⟨hbegins, rfl, rfl⟩⟩
    · cases ((matchesTo_iff_of_eq_ok hrun).1 hmatch).1
  case longest =>
    intro c hc i n hmatch j s' hs' t m hspelled
    obtain ⟨seen, rest, rfl⟩ := hc.exists_between
    obtain ⟨hbegins', -, rfl⟩ := literalInsensitive_matchesTo_iff.1 hspelled
    rcases hcases seen rest with ⟨k, s, hs, hbegins, hrun, hall⟩ | ⟨-, hrun⟩
    · obtain ⟨hvalue, rfl⟩ := (matchesTo_iff_of_eq_ok hrun).1 hmatch
      cases hvalue
      obtain ⟨hj, hle⟩ := hall j s' hs' hbegins'
      refine ⟨hj, ?_⟩
      rw [Text.byteSize_append, Text.byteSize_append]
      exact Nat.add_le_add_left (Text.byteSize_take_le rest hle) _
    · cases ((matchesTo_iff_of_eq_ok hrun).1 hmatch).1

end Spellings

end Parser

end Backtrack
