import Mathlib.Tactic.SplitIfs
import Backtrack.Parser.Basic
import Backtrack.Text.Boundary

/-!
# Cursors on a boundary

A cursor on a boundary lies between what has been read and what has not (`Aligned.exists_between`),
and every operation of a cursor is a fact about these two texts: it reads a first part of the one
in front (`take_cases`), or shows a last part of the one behind (`peek_cases`). No slice that an
operation takes there is at fault, and a cursor restored to where it is stays there (`home_eq`).
-/

namespace Backtrack

namespace Text

theorem takeChars?_append : ∀ a b : Text, takeChars? a.length (a ++ b) = some a
  | [], _ => by simp [takeChars?]
  | c :: a, b => by simp [takeChars?, takeChars?_append a b]

theorem takeChars?_eq_none : ∀ {n : Nat} {t : Text}, t.length < n → t.takeChars? n = none
  | 0, _, h => absurd h (Nat.not_lt_zero _)
  | _ + 1, [], _ => rfl
  | n + 1, c :: t, h => by
    rw [takeChars?, takeChars?_eq_none (n := n) (t := t) (by simpa using h)]
    rfl

theorem exists_append_of_length_le {n : Nat} {t : Text} (h : n ≤ t.length) :
    ∃ a b, t = a ++ b ∧ a.length = n :=
  ⟨t.take n, t.drop n, (List.take_append_drop n t).symm, by simp [h]⟩

theorem byteSize_append_eq_iff {t a : Text} : (t ++ a).byteSize = t.byteSize ↔ a = [] := by
  rw [byteSize_append, Nat.add_eq_left, byteSize_eq_zero]

/-- Of two first parts of a text, the one with fewer code points has fewer bytes. -/
theorem byteSize_lt_iff {a b a' b' : Text} (h : a ++ b = a' ++ b') :
    a.byteSize < a'.byteSize ↔ a.length < a'.length := by
  rcases List.append_eq_append_iff.1 h with ⟨x, rfl, -⟩ | ⟨x, rfl, -⟩
  · rw [byteSize_append, List.length_append]
    have := byteSize_eq_zero (t := x)
    rw [← List.length_eq_zero_iff] at this
    omega
  · rw [byteSize_append, List.length_append]
    omega

/-- What a slice gives is what lies between its bounds. -/
theorem slice_eq_ok {t a : Text} {start stop : Nat} (h : t.slice start stop = .ok a) :
    ∃ seen rest, t = seen ++ (a ++ rest) ∧ start = seen.byteSize
      ∧ stop = seen.byteSize + a.byteSize := by
  unfold slice at h
  split_ifs at h with hle
  split at h
  · rename_i cut hcut
    obtain ⟨tail, hd, ht⟩ := Option.bind_eq_some_iff.1 hcut
    obtain ⟨seen, rfl, hseen⟩ := exists_append_of_dropBytes? hd
    obtain ⟨⟨rest, rfl⟩, ha⟩ := exists_append_of_takeBytes? ht
    cases h
    exact ⟨seen, rest, rfl, hseen.symm, by omega⟩
  · cases h

/-- A boundary that is not before another one splits what is behind that one. -/
theorem IsBoundary.exists_append_of_le {seen rest : Text} {n : Nat}
    (h : (seen ++ rest).IsBoundary n) (hle : seen.byteSize ≤ n) :
    ∃ a b, rest = a ++ b ∧ n = (seen ++ a).byteSize := by
  obtain ⟨s, b, hs, rfl⟩ := h
  rcases List.append_eq_append_iff.1 hs with ⟨a, rfl, rfl⟩ | ⟨a, rfl, rfl⟩
  · exact ⟨a, b, rfl, rfl⟩
  · rw [byteSize_append] at hle
    obtain rfl : a = [] := byteSize_eq_zero.1 (by omega)
    exact ⟨[], rest, rfl, by simp⟩

theorem exists_slice_eq_ok {t : Text} {start stop : Nat} (hstart : t.IsBoundary start)
    (hstop : t.IsBoundary stop) (hle : start ≤ stop) : ∃ a, t.slice start stop = .ok a := by
  obtain ⟨seen, rest, rfl, rfl⟩ := hstart
  obtain ⟨a, b, rfl, rfl⟩ := hstop.exists_append_of_le hle
  exact ⟨a, by rw [byteSize_append]; exact slice_append seen a b⟩

end Text

namespace Cursor

/-- The cursor lies between two code points of its text or at one of its ends. -/
def Aligned (c : Cursor) : Prop := c.text.IsBoundary c.pos

/-- The cursor behind one text and in front of another. -/
def between (seen rest : Text) : Cursor := ⟨seen ++ rest, seen.byteSize⟩

theorem aligned_start (t : Text) : (start t).Aligned := Text.isBoundary_zero t

theorem aligned_between (seen rest : Text) : (between seen rest).Aligned :=
  ⟨seen, rest, rfl, rfl⟩

theorem Aligned.exists_between {c : Cursor} (h : c.Aligned) :
    ∃ seen rest, c = between seen rest := by
  obtain ⟨text, pos⟩ := c
  obtain ⟨seen, rest, rfl, rfl⟩ := h
  exact ⟨seen, rest, rfl⟩

theorem Aligned.home_eq {c : Cursor} (h : c.Aligned) : c.home = c.pos :=
  Text.floor_of_isBoundary h

@[simp] theorem text_between (seen rest : Text) : (between seen rest).text = seen ++ rest := rfl

@[simp] theorem pos_between (seen rest : Text) : (between seen rest).pos = seen.byteSize := rfl

@[simp] theorem home_between (seen rest : Text) : (between seen rest).home = seen.byteSize :=
  (aligned_between seen rest).home_eq

@[simp] theorem text_moveTo (c : Cursor) (n : Nat) : (c.moveTo n).text = c.text := rfl

@[simp] theorem pos_moveTo (c : Cursor) (n : Nat) : (c.moveTo n).pos = n := rfl

@[simp] theorem moveTo_pos (c : Cursor) : c.moveTo c.pos = c := rfl

theorem Aligned.moveTo_home {c : Cursor} (h : c.Aligned) : c.moveTo c.home = c := by
  rw [h.home_eq, moveTo_pos]

theorem moveTo_between (seen a b : Text) :
    (between seen (a ++ b)).moveTo (seen ++ a).byteSize = between (seen ++ a) b := by
  rw [between, between, List.append_assoc]
  rfl

theorem moveTo_between_cons (seen : Text) (ch : Char) (rest : Text) :
    (between seen (ch :: rest)).moveTo (seen ++ [ch]).byteSize = between (seen ++ [ch]) rest :=
  moveTo_between seen [ch] rest

theorem remaining_between (seen rest : Text) : (between seen rest).remaining = .ok rest :=
  Text.suffix_append seen rest

theorem consumed_between (seen rest : Text) : (between seen rest).consumed = .ok seen := by
  have h := Text.slice_append [] seen rest
  simpa [consumed, Text.byteSize] using h

theorem atEnd_between {seen rest : Text} : (between seen rest).atEnd = true ↔ rest = [] := by
  rw [atEnd, decide_eq_true_iff, text_between, pos_between, Text.byteSize_append]
  rw [← Text.byteSize_eq_zero]
  omega

/-- A slice gives what lies between the places of its bounds. -/
theorem slice_of_floor_eq {c : Cursor} {low high : Nat} {front cut behind : Text}
    (htext : c.text = front ++ (cut ++ behind)) (hlow : c.text.floor low = front.byteSize)
    (hhigh : c.text.floor high = (front ++ cut).byteSize) : c.slice low high = .ok cut := by
  simp only [slice, hlow, hhigh]
  rw [Text.byteSize_append, htext]
  split_ifs with h
  · have hcut : cut = [] := Text.byteSize_eq_zero.1 (by omega)
    rw [hcut]
  · exact Text.slice_append front cut behind

/-- A slice whose bounds are in the wrong order is empty. -/
theorem slice_inverted (c : Cursor) {low high : Nat} (h : low ≤ high) :
    c.slice high low = .ok [] :=
  if_pos (c.text.floor_mono h)

theorem slice_between (seen a rest : Text) :
    (between (seen ++ a) rest).slice seen.byteSize (seen ++ a).byteSize = .ok a :=
  slice_of_floor_eq (List.append_assoc seen a rest)
    (Text.floor_of_isBoundary ⟨seen, a ++ rest, List.append_assoc seen a rest, rfl⟩)
    (Text.floor_of_isBoundary ⟨seen ++ a, rest, rfl, rfl⟩)

/-- A slice between recorded offsets is never at fault. -/
theorem exists_slice_eq_ok (c : Cursor) (low high : Nat) : ∃ t, c.slice low high = .ok t := by
  unfold slice
  by_cases h : c.text.floor high ≤ c.text.floor low
  · exact ⟨[], if_pos h⟩
  · obtain ⟨t, ht⟩ := Text.exists_slice_eq_ok (Text.isBoundary_floor c.text low)
      (Text.isBoundary_floor c.text high) (Nat.le_of_not_le h)
    exact ⟨t, by rw [if_neg h, ht]⟩

theorem ahead_between (seen rest : Text) (n : Nat) :
    (between seen rest).ahead n
      = .ok ((rest.takeChars? n).map fun a => seen.byteSize + a.byteSize) := by
  rw [ahead, remaining_between]
  rfl

theorem behind_between (seen rest : Text) (n : Nat) :
    (between seen rest).behind n
      = .ok ((Text.takeChars? n seen.reverse).map fun a => seen.byteSize - a.byteSize) := by
  rw [behind, consumed_between]
  rfl

theorem take_append (seen a b : Text) :
    (between seen (a ++ b)).take a.length = .ok (some a, between (seen ++ a) b) := by
  have hs : (between seen (a ++ b)).text.slice seen.byteSize (seen.byteSize + a.byteSize)
      = .ok a := Text.slice_append seen a b
  have hn : ¬ (a.length : Int) < 0 := by omega
  simp only [take, hn, if_false, Int.natAbs_natCast, ahead_between, Text.takeChars?_append]
  show (do return (some (← (between seen (a ++ b)).text.slice _ _), _) : Run _) = _
  rw [pos_between, hs, ← moveTo_between seen a b, Text.byteSize_append]
  rfl

/-- Reading by count gives the next code points if there are as many, and else stays. -/
theorem take_cases (seen rest : Text) (n : Int) :
    (∃ a b, rest = a ++ b ∧ (a.length : Int) = n
      ∧ (between seen rest).take n = .ok (some a, between (seen ++ a) b))
    ∨ (n < 0 ∨ (rest.length : Int) < n)
      ∧ (between seen rest).take n = .ok (none, between seen rest) := by
  by_cases hn : n < 0
  · right
    refine ⟨.inl hn, ?_⟩
    rw [take, if_pos hn]
    rfl
  obtain ⟨k, rfl⟩ : ∃ k : Nat, n = k := ⟨n.toNat, by omega⟩
  by_cases hk : k ≤ rest.length
  · obtain ⟨a, b, rfl, rfl⟩ := Text.exists_append_of_length_le hk
    exact .inl ⟨a, b, rfl, rfl, take_append seen a b⟩
  · right
    refine ⟨.inr (by omega), ?_⟩
    have hnone : rest.takeChars? k = none := Text.takeChars?_eq_none (by omega)
    simp only [take, hn, if_false, Int.natAbs_natCast, ahead_between, hnone]
    rfl

theorem peek_append (seen a b : Text) :
    (between seen (a ++ b)).peek a.length = .ok (some a) := by
  have hs : (between seen (a ++ b)).text.slice seen.byteSize (seen.byteSize + a.byteSize)
      = .ok a := Text.slice_append seen a b
  have hn : ¬ (a.length : Int) < 0 := by omega
  simp only [peek, hn, if_false, Int.natAbs_natCast, ahead_between, Text.takeChars?_append]
  show some <$> (between seen (a ++ b)).text.slice _ _ = _
  rw [pos_between, hs]
  rfl

theorem peek_neg (a b rest : Text) (hb : b ≠ []) :
    (between (a ++ b) rest).peek (-b.length) = .ok (some b) := by
  have hs : (between (a ++ b) rest).text.slice a.byteSize (a.byteSize + b.byteSize) = .ok b := by
    rw [text_between, List.append_assoc]
    exact Text.slice_append a b rest
  have hpos := List.length_pos_iff.2 hb
  have hn : (-b.length : Int) < 0 := by omega
  have hback : Text.takeChars? b.length (a ++ b).reverse = some b.reverse := by
    rw [List.reverse_append, ← List.length_reverse]
    exact Text.takeChars?_append _ _
  have hstart : (a ++ b).byteSize - Text.byteSize b.reverse = a.byteSize := by
    rw [Text.byteSize_append, Text.byteSize_reverse]
    omega
  simp only [peek, hn, if_true, Int.natAbs_neg, Int.natAbs_natCast, behind_between, hback]
  show some <$> (between (a ++ b) rest).text.slice ((a ++ b).byteSize - Text.byteSize b.reverse) _
    = _
  rw [hstart, pos_between, Text.byteSize_append, hs]
  rfl

/-- Looking by count shows the next code points, for a negative count the last ones read, and
nothing if there are not as many. -/
theorem peek_cases (seen rest : Text) (n : Int) :
    (∃ a b, rest = a ++ b ∧ (a.length : Int) = n ∧ (between seen rest).peek n = .ok (some a))
    ∨ (∃ a b, seen = a ++ b ∧ n < 0 ∧ (b.length : Int) = -n
      ∧ (between seen rest).peek n = .ok (some b))
    ∨ ((rest.length : Int) < n ∨ n < -seen.length)
      ∧ (between seen rest).peek n = .ok none := by
  by_cases hn : n < 0
  · obtain ⟨k, rfl⟩ : ∃ k : Nat, n = -k := ⟨n.natAbs, by omega⟩
    right
    by_cases hk : k ≤ seen.length
    · left
      obtain ⟨a, b, rfl, ha⟩ :=
        Text.exists_append_of_length_le (n := seen.length - k) (Nat.sub_le _ _)
      have hb : b.length = k := by
        rw [List.length_append] at ha hk
        omega
      refine ⟨a, b, rfl, hn, by omega, ?_⟩
      rw [← hb]
      exact peek_neg a b rest (List.ne_nil_of_length_pos (by omega))
    · right
      refine ⟨.inr (by omega), ?_⟩
      have hnone : Text.takeChars? k seen.reverse = none :=
        Text.takeChars?_eq_none (by simpa using hk)
      simp only [peek, hn, if_true, Int.natAbs_neg, Int.natAbs_natCast, behind_between, hnone]
      rfl
  obtain ⟨k, rfl⟩ : ∃ k : Nat, n = k := ⟨n.toNat, by omega⟩
  by_cases hk : k ≤ rest.length
  · obtain ⟨a, b, rfl, rfl⟩ := Text.exists_append_of_length_le hk
    exact .inl ⟨a, b, rfl, rfl, peek_append seen a b⟩
  · refine .inr (.inr ⟨.inl (by omega), ?_⟩)
    have hnone : rest.takeChars? k = none := Text.takeChars?_eq_none (by omega)
    simp only [peek, hn, if_false, Int.natAbs_natCast, ahead_between, hnone]
    rfl

theorem peekChar_between (seen rest : Text) : (between seen rest).peekChar = .ok rest.head? := by
  rw [peekChar, remaining_between]
  rfl

theorem nextChar_nil (seen : Text) :
    (between seen []).nextChar = .ok (none, between seen []) := by
  rw [nextChar, peekChar_between]
  rfl

theorem nextChar_cons (seen : Text) (ch : Char) (rest : Text) :
    (between seen (ch :: rest)).nextChar = .ok (some ch, between (seen ++ [ch]) rest) := by
  have hm := moveTo_between seen [ch] rest
  rw [Text.byteSize_append] at hm
  rw [nextChar, peekChar_between]
  exact congrArg (fun c => Except.ok (some ch, c)) hm

theorem aligned_restore (c : Cursor) (offset : Nat) : (c.restore offset).Aligned :=
  Text.isBoundary_floor c.text offset

end Cursor

end Backtrack
