import Mathlib.Data.List.Forall2
import Backtrack.Grammar.Meaning
import Backtrack.Proofs.Matching
import Backtrack.Proofs.Token

/-!
# Literals, code point by code point

A parser spells a text if it reads as many code points as the text has where each compares with the
one of the text, and else misses. The text and the comparison determine all that it answers
(`Parser.Spells.unique`), so that a literal, which compares a slice at one blow, is the row of its
code points, and the literal of two texts joined is the row of their literals.
-/

namespace Backtrack

namespace Parser

variable {same : Char → Char → Bool} {s t : Text} {p q : Parser Text}

/-- Wherever it starts on a boundary, the parser reads code points that compare one by one with
those of the text or, where there are none, misses. -/
def Spells (same : Char → Char → Bool) (t : Text) (p : Parser Text) : Prop :=
  ∀ seen rest : Text,
    (∃ a b, rest = a ++ b ∧ List.Forall₂ (fun x y => same x y = true) a t
      ∧ p (.between seen rest) = .ok ⟨.matched a, (seen ++ a).byteSize, []⟩)
    ∨ (∀ a b, rest = a ++ b → ¬ List.Forall₂ (fun x y => same x y = true) a t)
      ∧ p (.between seen rest) = .ok ⟨.missed, seen.byteSize, []⟩

theorem Spells.unique (hp : p.Spells same t) (hq : q.Spells same t) (seen rest : Text) :
    p (.between seen rest) = q (.between seen rest) := by
  rcases hp seen rest with ⟨a, b, hrest, ha, h⟩ | ⟨hnone, h⟩ <;>
    rcases hq seen rest with ⟨a', b', hrest', ha', h'⟩ | ⟨hnone', h'⟩
  · obtain rfl : a = a' :=
      (List.append_inj (hrest.symm.trans hrest') (ha.length_eq.trans ha'.length_eq.symm)).1
    rw [h, h']
  · exact absurd ha (hnone' a b hrest)
  · exact absurd ha' (hnone a' b' hrest')
  · rw [h, h']

theorem Spells.matchesTo_iff (hp : p.Spells same t) {seen rest a : Text} {n : Nat} :
    p.MatchesTo (.between seen rest) a n
      ↔ a <+: rest ∧ List.Forall₂ (fun x y => same x y = true) a t
        ∧ n = (seen ++ a).byteSize := by
  rcases hp seen rest with ⟨x, b, rfl, hx, h⟩ | ⟨hnone, h⟩
  · constructor
    · rintro ⟨log, h'⟩
      cases h.symm.trans h'
      exact ⟨List.prefix_append _ b, hx, rfl⟩
    · rintro ⟨⟨b', hrest⟩, ha, rfl⟩
      obtain rfl : a = x :=
        (List.append_inj hrest (ha.length_eq.trans hx.length_eq.symm)).1
      exact ⟨[], h⟩
  · constructor
    · rintro ⟨log, h'⟩
      cases h.symm.trans h'
    · rintro ⟨⟨b, hrest⟩, ha, -⟩
      exact absurd ha (hnone a b hrest.symm)

/-- Whether the parser matches shows in the next code points, as many as the text has. -/
theorem Spells.take (hp : p.Spells same t) (seen rest : Text) :
    List.Forall₂ (fun x y => same x y = true) (rest.take t.length) t
        ∧ p (.between seen rest) = .ok ⟨.matched (rest.take t.length),
          (seen ++ rest.take t.length).byteSize, []⟩
      ∨ ¬ List.Forall₂ (fun x y => same x y = true) (rest.take t.length) t
        ∧ p (.between seen rest) = .ok ⟨.missed, seen.byteSize, []⟩ := by
  rcases hp seen rest with ⟨a, b, rfl, ha, h⟩ | ⟨hnone, h⟩
  · rw [← ha.length_eq, List.take_left]
    exact .inl ⟨ha, h⟩
  · exact .inr ⟨hnone _ _ (List.take_append_drop t.length rest).symm, h⟩

/-- A parser that compares less strictly matches wherever the stricter one does. -/
theorem Spells.mono {same' : Char → Char → Bool} (hp : p.Spells same t) (hq : q.Spells same' t)
    (h : ∀ x y, same x y = true → same' x y = true) {seen rest a : Text} {n : Nat}
    (hmatch : p.MatchesTo (.between seen rest) a n) : q.MatchesTo (.between seen rest) a n := by
  obtain ⟨hstart, ha, hn⟩ := hp.matchesTo_iff.1 hmatch
  exact hq.matchesTo_iff.2 ⟨hstart, ha.imp h, hn⟩

/-! ## Literals -/

theorem spells_literalBy {compare : Text → Text → Bool}
    (h : ∀ a, a.length = t.length →
      (compare a t = true ↔ List.Forall₂ (fun x y => same x y = true) a t)) :
    (literalBy compare t).Spells same t := by
  intro seen rest
  rcases literalBy_cases compare t seen rest with ⟨a, b, hrest, hlen, hs, hrun⟩ | ⟨hs, hrun⟩
  · exact .inl ⟨a, b, hrest, (h a hlen).1 hs, hrun⟩
  · refine .inr ⟨fun a b hrest ha => ?_, hrun⟩
    have hcompare := hs a b hrest ha.length_eq
    rw [(h a ha.length_eq).2 ha] at hcompare
    cases hcompare

theorem spells_literal (t : Text) : (literal t).Spells (· == ·) t := by
  refine spells_literalBy fun a _ => ?_
  simp only [beq_iff_eq, List.forall₂_eq_eq_eq]

theorem spells_literalInsensitive (t : Text) : (literalInsensitive t).Spells sameFold t := by
  refine spells_literalBy fun a hlen => ?_
  rw [List.forall₂_iff_zip, foldsTo, List.all_eq_true]
  constructor
  · exact fun h => ⟨hlen, fun hxy => h _ hxy⟩
  · exact fun h xy hxy => h.2 hxy

/-- The text is the one of the input, which may have another number of bytes. -/
example : literalInsensitive ['s', 'ß'] (.start ['S', 'ẞ', '!'])
    = .ok ⟨.matched ['S', 'ẞ'], 4, []⟩ := rfl

/-! ## Rows of code points -/

/-- A row of code points, one for each of the text, reads them all or misses on the way. -/
theorem each_spelling (t : Text) : ∀ seen rest : Text,
    (∃ a b, rest = a ++ b ∧ List.Forall₂ (fun x y => same x y = true) a t
      ∧ each (t.map fun x => charWhere (same · x)) (.between seen rest)
        = .ok ⟨.matched a, (seen ++ a).byteSize, []⟩)
    ∨ (∀ a b, rest = a ++ b → ¬ List.Forall₂ (fun x y => same x y = true) a t)
      ∧ ∃ n, each (t.map fun x => charWhere (same · x)) (.between seen rest)
        = .ok ⟨.missed, n, []⟩ := by
  induction t with
  | nil =>
    intro seen rest
    exact .inl ⟨[], rest, rfl, .nil, by rw [List.append_nil]; rfl⟩
  | cons x t ih =>
    intro seen rest
    rw [List.map_cons, each_cons]
    rcases rest with _ | ⟨ch, rest⟩
    · refine .inr ⟨fun a b hrest ha => ?_, _, bind_of_missed _ (charWhere_nil _ seen)⟩
      rw [(List.append_eq_nil_iff.1 hrest.symm).1] at ha
      cases ha
    · have hitem := charWhere_cons (same · x) seen ch rest
      by_cases hch : same ch x = true
      · rw [if_pos hch] at hitem
        rw [bind_of_matched _ hitem, map_eq, Cursor.moveTo_between_cons]
        rcases ih (seen ++ [ch]) rest with ⟨a, b, hrest, ha, hrun⟩ | ⟨hnone, n, hrun⟩
        · refine .inl ⟨ch :: a, b, by rw [hrest, List.cons_append], .cons hch ha, ?_⟩
          rw [hrun, List.append_cons seen ch a]
          rfl
        · refine .inr ⟨fun a b hrest ha => ?_, n, by rw [hrun]; rfl⟩
          cases ha with
          | cons _ ha => exact hnone _ b (List.cons_eq_cons.1 hrest).2 ha
      · rw [if_neg hch] at hitem
        refine .inr ⟨fun a b hrest ha => ?_, _, bind_of_missed _ hitem⟩
        cases ha with
        | cons hsame _ => exact hch ((List.cons_eq_cons.1 hrest).1 ▸ hsame)

theorem spells_all (container : Container) (t : Text) :
    (recognize (all (container.family (t.map fun x => charWhere (same · x))))).Spells same t := by
  intro seen rest
  rw [all, Container.members_family, recognize_attempt]
  rcases each_spelling t seen rest with ⟨a, b, rfl, ha, hrun⟩ | ⟨hnone, n, hrun⟩
  · exact .inl ⟨a, b, rfl, ha, recognize_between hrun⟩
  · exact .inr ⟨hnone, recognize_between_of_missed hrun⟩

/-! ## Texts in a row -/

/-- What compares with two texts in a row has a part for each of them. -/
theorem exists_append_of_forall₂_append {R : Char → Char → Prop} {a : Text}
    (h : List.Forall₂ R a (s ++ t)) :
    ∃ x y, a = x ++ y ∧ List.Forall₂ R x s ∧ List.Forall₂ R y t :=
  ⟨a.take s.length, a.drop s.length, (List.take_append_drop s.length a).symm,
    List.forall₂_take_append a s t h, List.forall₂_drop_append a s t h⟩

theorem Spells.pair (hp : p.Spells same s) (hq : q.Spells same t) :
    (recognize (pair p q)).Spells same (s ++ t) := by
  intro seen rest
  rw [pair_eq, recognize_attempt]
  rcases hp seen rest with ⟨a, b, rfl, ha, hrun⟩ | ⟨hnone, hrun⟩
  · rcases hq (seen ++ a) b with ⟨a', b', rfl, ha', hrun'⟩ | ⟨hnone, hrun'⟩
    · refine .inl ⟨a ++ a', b', (List.append_assoc a a' b').symm, List.rel_append ha ha', ?_⟩
      have hmove := Cursor.moveTo_between seen a (a' ++ b')
      rw [← List.append_assoc] at hrun hmove ⊢
      refine recognize_between (v := (a, a')) ?_
      rw [bind_of_matched _ hrun, hmove, map_eq, hrun', List.append_assoc]
      rfl
    · refine .inr ⟨fun x y hrest hx => ?_,
        recognize_between_of_missed (n := (seen ++ a).byteSize) ?_⟩
      · obtain ⟨x', y', rfl, hx', hy'⟩ := exists_append_of_forall₂_append hx
        rw [List.append_assoc] at hrest
        obtain ⟨-, hb⟩ := List.append_inj hrest (ha.length_eq.trans hx'.length_eq.symm)
        exact hnone y' y hb hy'
      · rw [bind_of_matched _ hrun, Cursor.moveTo_between, map_eq, hrun']
        rfl
  · refine .inr ⟨fun x y hrest hx => ?_, recognize_between_of_missed (bind_of_missed _ hrun)⟩
    obtain ⟨x', y', rfl, hx', -⟩ := exists_append_of_forall₂_append hx
    rw [List.append_assoc] at hrest
    exact hnone x' (y' ++ y) hrest hx'

/-- A literal is the row of its code points, in either way to compare, and the literal of two texts
joined is the row of their literals. Whatever a literal matches, it matches in any letter case
too. -/
theorem literal_code_points (container : Container) (s t seen rest : Text) :
    literal t (.between seen rest)
      = recognize (all (container.family (t.map char))) (.between seen rest)
    ∧ literal t (.between seen rest)
      = .ok (if t <+: rest then ⟨.matched t, (seen ++ t).byteSize, []⟩
          else ⟨.missed, seen.byteSize, []⟩)
    ∧ literalInsensitive t (.between seen rest)
      = recognize (all (container.family (t.map fun x => charWhere (sameFold · x))))
        (.between seen rest)
    ∧ (List.Forall₂ (fun x y => sameFold x y = true) (rest.take t.length) t
        ∧ literalInsensitive t (.between seen rest) = .ok ⟨.matched (rest.take t.length),
          (seen ++ rest.take t.length).byteSize, []⟩
      ∨ ¬ List.Forall₂ (fun x y => sameFold x y = true) (rest.take t.length) t
        ∧ literalInsensitive t (.between seen rest) = .ok ⟨.missed, seen.byteSize, []⟩)
    ∧ literal (s ++ t) (.between seen rest)
      = recognize (pair (literal s) (literal t)) (.between seen rest)
    ∧ literalInsensitive (s ++ t) (.between seen rest)
      = recognize (pair (literalInsensitive s) (literalInsensitive t)) (.between seen rest)
    ∧ ∀ a n, (literal t).MatchesTo (.between seen rest) a n →
      (literalInsensitive t).MatchesTo (.between seen rest) a n := by
  have hexact := spells_literal t
  have hfold := spells_literalInsensitive t
  refine ⟨hexact.unique (spells_all container t) seen rest, ?_,
    hfold.unique (spells_all container t) seen rest, hfold.take seen rest,
    (spells_literal (s ++ t)).unique ((spells_literal s).pair hexact) seen rest,
    (spells_literalInsensitive (s ++ t)).unique ((spells_literalInsensitive s).pair hfold) seen
      rest,
    fun a n => hexact.mono hfold fun x y hxy => ?_⟩
  · split_ifs with ht
    · obtain ⟨b, rfl⟩ := ht
      exact literal_append seen t b
    · exact literal_of_not_isPrefix ht seen
  · rw [beq_iff_eq.1 hxy]
    exact sameFold_refl y

end Parser

end Backtrack
