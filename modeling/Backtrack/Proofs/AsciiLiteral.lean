import Backtrack.Proofs.CaseFolding

/-!
# ASCII literals

An ASCII literal takes as many bytes as its text has, a literal as many code points. A text of ASCII
characters only has as many of both, so the two agree (`asciiLiteral_agrees`): the exact ones
altogether, and those that ignore case on whatever is ASCII. An ASCII literal refuses the characters
outside ASCII that compare with ASCII letters, such as the sign for kelvin.
-/

namespace Backtrack

/-! ## Characters -/

/-- Case mapping of ASCII, by the part of the tables that starts below its end. -/
theorem case_ascii_table : ∀ n < 128,
    mapCase (expansionsIn 0 127 CaseTable.lowercaseExpansions)
        (runsIn 0 127 CaseTable.lowercaseRuns) (Char.ofNat n) = [(Char.ofNat n).toLower]
    ∧ mapCase (expansionsIn 0 127 CaseTable.uppercaseExpansions)
        (runsIn 0 127 CaseTable.uppercaseRuns) (Char.ofNat n) = [(Char.ofNat n).toUpper]
    ∧ (Char.ofNat n).toUpper.toLower = (Char.ofNat n).toLower := by
  decide +kernel

namespace Ascii

variable {c d : Char}

theorem case_mappings (h : isAscii c = true) :
    lowercase c = [c.toLower] ∧ uppercase c = [c.toUpper] ∧ c.toUpper.toLower = c.toLower := by
  have hlt : c.toNat < 128 := by simpa [isAscii] using h
  have htable := case_ascii_table c.toNat hlt
  rw [Char.ofNat_toNat, mapCase_in (Nat.zero_le _) (Nat.le_of_lt_succ hlt),
    mapCase_in (Nat.zero_le _) (Nat.le_of_lt_succ hlt)] at htable
  exact htable

/-- Within ASCII the comparison by case mappings is the one by lowercase letters. -/
theorem sameFold_iff_toLower_eq (hc : isAscii c = true) (hd : isAscii d = true) :
    sameFold c d = true ↔ c.toLower = d.toLower := by
  obtain ⟨hclower, hcupper, hcback⟩ := case_mappings hc
  obtain ⟨hdlower, hdupper, hdback⟩ := case_mappings hd
  simp only [sameFold, hclower, hcupper, hdlower, hdupper, Bool.or_eq_true, beq_iff_eq,
    List.cons.injEq, and_true]
  constructor
  · rintro ((rfl | hlower) | hupper)
    · rfl
    · exact hlower
    · rw [← hcback, hupper, hdback]
  · exact fun h => .inl (.inr h)

theorem utf8Size_eq_one (h : isAscii c = true) : c.utf8Size = 1 := by
  have hle : c.val ≤ 0x7F := by
    rw [UInt32.le_iff_toNat_le]
    have hlt : c.toNat < 128 := by simpa [isAscii] using h
    exact Nat.le_of_lt_succ hlt
  exact if_pos hle

theorem byteSize_eq_length {t : Text} (h : t.all isAscii = true) : t.byteSize = t.length := by
  induction t with
  | nil => rfl
  | cons x t ih =>
    rw [List.all_cons, Bool.and_eq_true] at h
    rw [Text.byteSize, utf8Size_eq_one h.1, ih h.2, List.length_cons, Nat.add_comm]

/-- An ASCII text is cut off by the number of bytes of any other one with as many code points. -/
theorem takeBytes?_append {s t : Text} (hs : s.all isAscii = true) (ht : t.all isAscii = true)
    (hlen : s.length = t.length) (rest : Text) :
    (s ++ rest).takeBytes? t.byteSize = some s := by
  rw [byteSize_eq_length ht, ← hlen, ← byteSize_eq_length hs]
  exact Text.takeBytes?_append s rest

/-- The comparison by lowercase letters, of ASCII texts and code point by code point. -/
theorem sameText_iff {s t : Text} (ht : t.all isAscii = true) :
    (sameText s t && s.all isAscii) = true
      ↔ List.Forall₂ (fun x y => (isAscii x && sameFold x y) = true) s t := by
  induction s generalizing t with
  | nil => cases t <;> simp [sameText]
  | cons x s ih =>
    cases t with
    | nil => simp [sameText]
    | cons y t =>
      rw [List.all_cons, Bool.and_eq_true] at ht
      have htail := ih ht.2
      simp only [sameText, Bool.and_eq_true, beq_iff_eq] at htail
      simp only [sameText, List.map_cons, List.all_cons, Bool.and_eq_true, beq_iff_eq,
        List.cons.injEq, List.forall₂_cons, ← htail]
      constructor
      · rintro ⟨⟨hxy, hrest⟩, hx, hs⟩
        exact ⟨⟨hx, (sameFold_iff_toLower_eq hx ht.1).2 hxy⟩, hrest, hs⟩
      · rintro ⟨⟨hx, hxy⟩, hrest, hs⟩
        exact ⟨⟨(sameFold_iff_toLower_eq hx ht.1).1 hxy, hrest⟩, hx, hs⟩

end Ascii

namespace Parser

variable {same : Char → Char → Bool} {compare : Text → Text → Bool} {t : Text}

/-! ## Literals -/

/-- An ASCII literal that compares code point by code point, with ASCII only, spells its text. -/
theorem spells_asciiLiteralBy (ht : t.all Ascii.isAscii = true)
    (h : ∀ a, (compare a t && a.all Ascii.isAscii) = true
      ↔ List.Forall₂ (fun x y => same x y = true) a t) :
    (asciiLiteralBy compare t).Spells same t := by
  intro seen rest
  have hslice : ∀ a b, rest = a ++ b → List.Forall₂ (fun x y => same x y = true) a t →
      rest.takeBytes? t.byteSize = some a := by
    intro a b hrest ha
    have hascii := ((Bool.and_eq_true _ _).mp ((h a).2 ha)).2
    rw [hrest]
    exact Ascii.takeBytes?_append hascii ht ha.length_eq b
  simp only [asciiLiteralBy, Cursor.remaining_between, Run.ok_bind]
  rcases htake : rest.takeBytes? t.byteSize with _ | a
  · refine .inr ⟨fun a b hrest ha => ?_, rfl⟩
    rw [hslice a b hrest ha] at htake
    cases htake
  obtain ⟨⟨b, rfl⟩, -⟩ := Text.exists_append_of_takeBytes? htake
  simp only [Cursor.take_append, Run.ok_bind]
  split_ifs with hcompare
  · exact .inl ⟨a, b, rfl, (h a).1 hcompare, rfl⟩
  · refine .inr ⟨fun a' b' hrest ha' => hcompare ?_, rfl⟩
    cases htake.symm.trans (hslice a' b' hrest ha')
    exact (h a).2 ha'

theorem spells_asciiLiteral (ht : t.all Ascii.isAscii = true) :
    (asciiLiteral t).Spells (· == ·) t := by
  refine spells_asciiLiteralBy ht fun a => ?_
  simp only [beq_iff_eq, List.forall₂_eq_eq_eq, Bool.and_eq_true]
  exact and_iff_left_of_imp fun h => h ▸ ht

theorem spells_asciiLiteralInsensitive (ht : t.all Ascii.isAscii = true) :
    (asciiLiteralInsensitive t).Spells (fun x y => Ascii.isAscii x && sameFold x y) t :=
  spells_asciiLiteralBy ht fun _ => Ascii.sameText_iff ht

/-- An ASCII literal answers as the literal of the same text. Without regard to letter case, it
matches exactly what the literal matches with a value of ASCII characters only, and misses without
moving wherever there is no such match. -/
theorem asciiLiteral_agrees (ht : t.all Ascii.isAscii = true) {c : Cursor} (hc : c.Aligned) :
    asciiLiteral t c = literal t c
    ∧ (∀ a n, (asciiLiteralInsensitive t).MatchesTo c a n
        ↔ (literalInsensitive t).MatchesTo c a n ∧ a.all Ascii.isAscii = true)
    ∧ (∀ a n, (literalInsensitive t).MatchesTo c a n → c.text.slice c.pos n = .ok a)
    ∧ ((∀ a n, (literalInsensitive t).MatchesTo c a n → a.all Ascii.isAscii = false) →
        asciiLiteralInsensitive t c = .ok ⟨.missed, c.pos, []⟩) := by
  obtain ⟨seen, rest, rfl⟩ := hc.exists_between
  have hascii := spells_asciiLiteralInsensitive ht
  have hfold := spells_literalInsensitive t
  have hmatch : ∀ a n, (asciiLiteralInsensitive t).MatchesTo (.between seen rest) a n
      ↔ (literalInsensitive t).MatchesTo (.between seen rest) a n
        ∧ a.all Ascii.isAscii = true := by
    intro a n
    simp only [hascii.matchesTo_iff, hfold.matchesTo_iff, Bool.and_eq_true,
      List.forall₂_and_left, List.all_eq_true]
    tauto
  refine ⟨(spells_asciiLiteral ht).unique (spells_literal t) seen rest, hmatch, ?_, ?_⟩
  · intro a n h
    obtain ⟨⟨b, rfl⟩, -, rfl⟩ := hfold.matchesTo_iff.1 h
    rw [Text.byteSize_append]
    exact Text.slice_append seen a b
  · intro hnone
    rcases hascii seen rest with ⟨a, b, -, -, hrun⟩ | ⟨-, hrun⟩
    · obtain ⟨hliteral, hall⟩ := (hmatch a _).1 ⟨[], hrun⟩
      rw [hnone a _ hliteral] at hall
      cases hall
    · exact hrun

theorem asciiLiteral_agrees_get : (asciiLiteralInsensitive ['G', 'e', 't']).MatchesTo
    (.start ['g', 'E', 't', ' ', '/']) ['g', 'E', 't'] 3 :=
  ((asciiLiteral_agrees (by decide) (Cursor.aligned_start _)).2.1 _ _).2 ⟨⟨[], rfl⟩, by decide⟩

/-- The sign for kelvin has the lowercase mapping of a letter but is no ASCII character. -/
example : literalInsensitive ['k'] (.start ['\u212A']) = .ok ⟨.matched ['\u212A'], 3, []⟩
    ∧ asciiLiteralInsensitive ['k'] (.start ['\u212A']) = .ok ⟨.missed, 0, []⟩ := ⟨rfl, rfl⟩

end Parser

end Backtrack
