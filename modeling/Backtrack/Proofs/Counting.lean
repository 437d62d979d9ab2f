import Mathlib.Data.List.DropRight
import Backtrack.Proofs.Session

/-!
# Counting code points

Between what has been read and what has not, reading by count gives a first part of the one
(`Cursor.take_eq_some_iff`) and looking back shows a last part of the other
(`Cursor.peek_neg_between`). So a count of code points is read exactly where as many can be read one
at a time, counts add up, and a look back finds what a count has read. `Cursor.Counts` holds these
laws, and a session keeps them however many steps it takes (`Session.counts_after`).
-/

namespace Backtrack

namespace Cursor

/-- What so many requests for the next code point find, and the cursor after them. -/
def nextChars : Cursor → Nat → Run (List (Option Char) × Cursor)
  | c, 0 => return ([], c)
  | c, n + 1 => do
    let (ch, next) ← c.nextChar
    let (found, last) ← next.nextChars n
    return (ch :: found, last)

/-- Requests find the code points that are left, in order, and nothing once there are none. -/
theorem nextChars_between : ∀ (n : Nat) (seen rest : Text),
    (between seen rest).nextChars n
      = .ok ((rest.take n).map some ++ List.replicate (n - rest.length) none,
        between (seen ++ rest.take n) (rest.drop n))
  | 0, seen, rest => by simp [nextChars, pure, Except.pure]
  | n + 1, seen, [] => by
    simp only [nextChars, nextChar_nil, Run.ok_bind, nextChars_between n seen []]
    simp [List.replicate_succ, pure, Except.pure]
  | n + 1, seen, ch :: rest => by
    simp only [nextChars, nextChar_cons, Run.ok_bind, nextChars_between n (seen ++ [ch]) rest]
    simp [pure, Except.pure]

section Between

variable {seen rest t : Text} {m n : Nat} {last : Cursor}

theorem take_eq_some_iff : (between seen rest).take n = .ok (some t, last)
    ↔ ∃ behind, rest = t ++ behind ∧ t.length = n ∧ last = between (seen ++ t) behind := by
  constructor
  · intro h
    rcases take_cases seen rest n with ⟨a, b, rfl, ha, hrun⟩ | ⟨-, hrun⟩
    · cases hrun.symm.trans h
      exact ⟨b, rfl, by omega, rfl⟩
    · cases hrun.symm.trans h
  · rintro ⟨behind, rfl, rfl, rfl⟩
    exact take_append seen t behind

theorem exists_take_or_stays (seen rest : Text) (n : Nat) :
    (∃ t last, (between seen rest).take n = .ok (some t, last))
      ∨ (between seen rest).take n = .ok (none, between seen rest) := by
  rcases take_cases seen rest n with ⟨a, b, -, -, hrun⟩ | ⟨-, hrun⟩
  · exact .inl ⟨a, _, hrun⟩
  · exact .inr hrun

/-- Requests that all find a code point are no more than there are code points left. -/
theorem le_length_of_nextChars (h : (between seen rest).nextChars n = .ok (t.map some, last)) :
    n ≤ rest.length := by
  rw [nextChars_between, Except.ok.injEq, Prod.mk.injEq] at h
  by_contra hlt
  have hnone : none ∈ t.map some := by
    rw [← h.1]
    simp
    omega
  simp at hnone

theorem take_eq_some_iff_nextChars : (between seen rest).take n = .ok (some t, last)
    ↔ (between seen rest).nextChars n = .ok (t.map some, last) := by
  rw [take_eq_some_iff]
  constructor
  · rintro ⟨behind, rfl, rfl, rfl⟩
    simp [nextChars_between]
  · intro h
    have hn := le_length_of_nextChars h
    rw [nextChars_between, Except.ok.injEq, Prod.mk.injEq] at h
    obtain ⟨hfound, rfl⟩ := h
    rw [Nat.sub_eq_zero_of_le hn, List.replicate_zero, List.append_nil] at hfound
    have ht : rest.take n = t := List.map_injective_iff.2 (fun _ _ => Option.some.inj) hfound
    exact ⟨rest.drop n, by rw [← ht, List.take_append_drop], by simp [← ht, hn], by rw [ht]⟩

theorem peek_eq_fst_take (seen rest : Text) (n : Nat) :
    (between seen rest).peek n = Prod.fst <$> (between seen rest).take n := by
  rcases take_cases seen rest n with ⟨a, b, rfl, ha, hrun⟩ | ⟨hn, hrun⟩
  · rw [hrun, ← ha, peek_append]
    rfl
  · rcases peek_cases seen rest n with ⟨a, b, rfl, ha, -⟩ | ⟨-, -, -, hneg, -⟩ | ⟨-, hpeek⟩
    · rw [List.length_append] at hn
      omega
    · omega
    · rw [hrun, hpeek]
      rfl

theorem take_add_eq_some_iff : (between seen rest).take (m + n) = .ok (some t, last)
    ↔ ∃ a b middle, (between seen rest).take m = .ok (some a, middle)
      ∧ middle.take n = .ok (some b, last) ∧ t = a ++ b := by
  rw [← Int.natCast_add, take_eq_some_iff]
  constructor
  · rintro ⟨behind, rfl, ht, rfl⟩
    obtain ⟨a, b, rfl, rfl⟩ := Text.exists_append_of_length_le (n := m) (t := t) (by omega)
    have hb : b.length = n := by simpa using ht
    refine ⟨a, b, between (seen ++ a) (b ++ behind), ?_, ?_, rfl⟩
    · rw [List.append_assoc]
      exact take_append seen a (b ++ behind)
    · rw [← hb, ← List.append_assoc]
      exact take_append (seen ++ a) b behind
  · rintro ⟨a, b, middle, ha, hb, rfl⟩
    obtain ⟨behind, rfl, rfl, rfl⟩ := take_eq_some_iff.1 ha
    obtain ⟨behind, rfl, rfl, rfl⟩ := take_eq_some_iff.1 hb
    exact ⟨behind, by simp, by simp, by simp⟩

theorem peek_neg_of_take (h : (between seen rest).take n = .ok (some t, last)) :
    last.peek (-n) = .ok (some t) := by
  obtain ⟨behind, rfl, rfl, rfl⟩ := take_eq_some_iff.1 h
  rcases eq_or_ne t [] with rfl | ht
  · exact peek_append (seen ++ []) [] behind
  · exact peek_neg seen t behind ht

theorem peek_neg_between (seen rest : Text) (hn : 1 ≤ n) :
    (between seen rest).peek (-n)
      = .ok (if n ≤ seen.length then some (seen.rtake n) else none) := by
  rcases peek_cases seen rest (-n) with ⟨a, b, -, ha, -⟩ | ⟨a, b, rfl, -, hb, h⟩ | ⟨hlt, h⟩
  · omega
  · have hb : b.length = n := by omega
    have hlast : (a ++ b).rtake n = b := by simp [List.rtake, ← hb]
    rw [h, hlast, if_pos (by rw [List.length_append]; omega)]
  · rw [h, if_neg (by omega)]

theorem take_of_peek_neg (hn : 1 ≤ n) (h : (between seen rest).peek (-n) = .ok (some t)) :
    ∃ front, seen = front ++ t ∧ t.length = n
      ∧ (between front (t ++ rest)).take n = .ok (some t, between seen rest) := by
  rw [peek_neg_between seen rest hn] at h
  have hle : n ≤ seen.length := by
    by_contra hlt
    rw [if_neg hlt] at h
    cases h
  obtain rfl : seen.rtake n = t := by simpa [hle] using h
  have hlength : (seen.rtake n).length = n := by
    rw [List.rtake, List.length_drop]
    omega
  have hseen : seen.rdrop n ++ seen.rtake n = seen := List.take_append_drop _ seen
  refine ⟨seen.rdrop n, hseen.symm, hlength, ?_⟩
  rw [take_eq_some_iff]
  exact ⟨rest, rfl, hlength, by rw [hseen]⟩

end Between

/-- How reading by count, reading code points one at a time and looking ahead and back by count go
together. -/
structure Counts (c : Cursor) : Prop where
  take_iff : ∀ (n : Nat) t last,
    c.take n = .ok (some t, last) ↔ c.nextChars n = .ok (t.map some, last)
  take_or_stays : ∀ n : Nat, (∃ t last, c.take n = .ok (some t, last)) ∨ c.take n = .ok (none, c)
  peek_eq : ∀ n : Nat, c.peek n = Prod.fst <$> c.take n
  take_add_iff : ∀ (m n : Nat) t last, c.take (m + n) = .ok (some t, last)
    ↔ ∃ a b middle, c.take m = .ok (some a, middle) ∧ middle.take n = .ok (some b, last)
      ∧ t = a ++ b
  peek_back : ∀ (n : Nat) t last, c.take n = .ok (some t, last) → last.peek (-n) = .ok (some t)
  peek_neg : ∀ n : Nat, 1 ≤ n → ∃ seen, c.consumed = .ok seen
    ∧ c.peek (-n) = .ok (if n ≤ seen.length then some (seen.rtake n) else none)
  take_again : ∀ n : Nat, 1 ≤ n → ∀ t, c.peek (-n) = .ok (some t) → t.byteSize ≤ c.pos
    ∧ c.text.IsBoundary (c.pos - t.byteSize)
    ∧ (c.moveTo (c.pos - t.byteSize)).take n = .ok (some t, c)

theorem Aligned.counts {c : Cursor} (hc : c.Aligned) : c.Counts := by
  obtain ⟨seen, rest, rfl⟩ := hc.exists_between
  refine
    { take_iff := fun n t last => take_eq_some_iff_nextChars
      take_or_stays := exists_take_or_stays seen rest
      peek_eq := peek_eq_fst_take seen rest
      take_add_iff := fun m n t last => take_add_eq_some_iff
      peek_back := fun n t last => peek_neg_of_take
      peek_neg := fun n hn => ⟨seen, consumed_between seen rest, peek_neg_between seen rest hn⟩
      take_again := fun n hn t h => ?_ }
  obtain ⟨front, rfl, -, htake⟩ := take_of_peek_neg hn h
  have hstart : (between (front ++ t) rest).pos - t.byteSize = front.byteSize := by
    rw [pos_between, Text.byteSize_append]
    omega
  have hmove : (between (front ++ t) rest).moveTo front.byteSize = between front (t ++ rest) := by
    rw [between, List.append_assoc]
    rfl
  rw [hstart, hmove]
  refine ⟨?_, ⟨front, t ++ rest, List.append_assoc _ _ _, rfl⟩, htake⟩
  rw [pos_between, Text.byteSize_append]
  omega

end Cursor

namespace Session

/-- Wherever some steps leave the cursor of a session, a count of code points is read exactly where
as many are read one at a time, else the cursor stays; looking ahead shows what reading would give;
counts add up; and looking back shows the last of what has been read, which can be read again from
where it begins. -/
theorem counts_after {g : Grammar} {budget : Nat} {t : Text} {steps : List Step} {s : Session}
    (h : (start t).after g budget steps = .ok s) : s.cursor.Counts :=
  ((sound_start t).after.of_eq_ok h).aligned.counts

/-- In the middle of code points of one, two and three bytes. -/
theorem counts_after_mixed :
    (start ['a', 'ñ', '日', '本', 'b']).after [] 0 [.take 3, .peekChar]
      = .ok ⟨⟨['a', 'ñ', '日', '本', 'b'], 6⟩, [], []⟩
    ∧ Cursor.peek ⟨['a', 'ñ', '日', '本', 'b'], 6⟩ (-2) = .ok (some ['ñ', '日'])
    ∧ Cursor.take ⟨['a', 'ñ', '日', '本', 'b'], 1⟩ 2
      = .ok (some ['ñ', '日'], ⟨['a', 'ñ', '日', '本', 'b'], 6⟩) := by
  have hsteps : (start ['a', 'ñ', '日', '本', 'b']).after [] 0 [.take 3, .peekChar]
      = .ok ⟨⟨['a', 'ñ', '日', '本', 'b'], 6⟩, [], []⟩ := rfl
  have hpeek : Cursor.peek ⟨['a', 'ñ', '日', '本', 'b'], 6⟩ (-2) = .ok (some ['ñ', '日']) := rfl
  exact ⟨hsteps, hpeek, ((counts_after hsteps).take_again 2 (by decide) _ hpeek).2.2⟩

end Session

end Backtrack
