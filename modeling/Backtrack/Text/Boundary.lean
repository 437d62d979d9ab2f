import Backtrack.Text

/-!
# Boundaries of a text

A boundary of a text is the size in bytes of a first part of it. Dropping and taking bytes succeeds
exactly at the boundaries and gives the two parts, so slices between boundaries never are at fault,
and `Text.floor` is the greatest boundary at or below an offset.
-/

namespace Backtrack

namespace Text

theorem byteSize_append : ∀ a b : Text, byteSize (a ++ b) = byteSize a + byteSize b
  | [], b => by simp [byteSize]
  | c :: a, b => by simp [byteSize, byteSize_append a b, Nat.add_assoc]

theorem byteSize_eq_zero : ∀ {t : Text}, t.byteSize = 0 ↔ t = []
  | [] => by simp [byteSize]
  | c :: t => by
    have := c.utf8Size_pos
    simp only [byteSize, reduceCtorEq, iff_false]
    omega

theorem byteSize_reverse (t : Text) : byteSize t.reverse = t.byteSize := by
  induction t with
  | nil => rfl
  | cons c t ih => simp [byteSize_append, byteSize, ih, Nat.add_comm]

/-- An offset between two code points of the text or at one of its ends. -/
def IsBoundary (t : Text) (n : Nat) : Prop := ∃ a b : Text, t = a ++ b ∧ a.byteSize = n

theorem isBoundary_zero (t : Text) : t.IsBoundary 0 := ⟨[], t, rfl, rfl⟩

theorem isBoundary_byteSize (t : Text) : t.IsBoundary t.byteSize := ⟨t, [], by simp, rfl⟩

theorem IsBoundary.le {t : Text} {n : Nat} (h : t.IsBoundary n) : n ≤ t.byteSize := by
  obtain ⟨a, b, rfl, rfl⟩ := h
  simp [byteSize_append]

theorem dropBytes?_append : ∀ a b : Text, dropBytes? (a ++ b) a.byteSize = some b
  | [], b => by simp [dropBytes?, byteSize]
  | c :: a, b => by
    have := c.utf8Size_pos
    obtain ⟨n, hn⟩ : ∃ n, byteSize (c :: a) = n + 1 :=
      ⟨c.utf8Size + byteSize a - 1, by simp only [byteSize]; omega⟩
    have hn' : c.utf8Size + byteSize a = n + 1 := hn
    rw [hn, List.cons_append, dropBytes?, if_pos (by omega),
      show n + 1 - c.utf8Size = byteSize a by omega]
    exact dropBytes?_append a b

theorem takeBytes?_append : ∀ a b : Text, takeBytes? (a ++ b) a.byteSize = some a
  | [], b => by simp [takeBytes?, byteSize]
  | c :: a, b => by
    have := c.utf8Size_pos
    obtain ⟨n, hn⟩ : ∃ n, byteSize (c :: a) = n + 1 :=
      ⟨c.utf8Size + byteSize a - 1, by simp only [byteSize]; omega⟩
    have hn' : c.utf8Size + byteSize a = n + 1 := hn
    rw [hn, List.cons_append, takeBytes?, if_pos (by omega),
      show n + 1 - c.utf8Size = byteSize a by omega, takeBytes?_append a b]
    rfl

theorem exists_append_of_dropBytes? :
    ∀ {t : Text} {n : Nat} {b : Text}, t.dropBytes? n = some b →
      ∃ a : Text, t = a ++ b ∧ a.byteSize = n
  | t, 0, b, h => by
    simp only [dropBytes?, Option.some.injEq] at h
    exact ⟨[], by simp [h], rfl⟩
  | [], _ + 1, _, h => by simp [dropBytes?] at h
  | c :: t, n + 1, b, h => by
    rw [dropBytes?] at h
    split at h
    · obtain ⟨a, rfl, ha⟩ := exists_append_of_dropBytes? h
      exact ⟨c :: a, rfl, by simp only [byteSize]; omega⟩
    · simp at h

theorem exists_append_of_takeBytes? :
    ∀ {t : Text} {n : Nat} {a : Text}, t.takeBytes? n = some a →
      (∃ b : Text, t = a ++ b) ∧ a.byteSize = n
  | t, 0, a, h => by
    simp only [takeBytes?, Option.some.injEq] at h
    exact ⟨⟨t, by simp [← h]⟩, by simp [← h, byteSize]⟩
  | [], _ + 1, _, h => by simp [takeBytes?] at h
  | c :: t, n + 1, a, h => by
    rw [takeBytes?] at h
    split at h
    · obtain ⟨a', h', rfl⟩ := Option.map_eq_some_iff.1 h
      obtain ⟨⟨b, rfl⟩, ha⟩ := exists_append_of_takeBytes? h'
      exact ⟨⟨b, rfl⟩, by simp only [byteSize]; omega⟩
    · simp at h

theorem dropBytes?_eq_some_iff {t : Text} {n : Nat} {b : Text} :
    t.dropBytes? n = some b ↔ ∃ a : Text, t = a ++ b ∧ a.byteSize = n := by
  refine ⟨exists_append_of_dropBytes?, ?_⟩
  rintro ⟨a, rfl, rfl⟩
  exact dropBytes?_append a b

theorem isBoundary_iff {t : Text} {n : Nat} : t.isBoundary n = true ↔ t.IsBoundary n := by
  rw [isBoundary, Option.isSome_iff_exists, IsBoundary, exists_comm]
  simp only [dropBytes?_eq_some_iff]

theorem floorFrom_le (t : Text) : ∀ n, t.floorFrom n ≤ n
  | 0 => Nat.le_refl _
  | n + 1 => by
    rw [floorFrom]
    split
    · exact Nat.le_refl _
    · exact Nat.le_succ_of_le (floorFrom_le t n)

theorem isBoundary_floorFrom (t : Text) : ∀ n, t.IsBoundary (t.floorFrom n)
  | 0 => isBoundary_zero t
  | n + 1 => by
    rw [floorFrom]
    split
    · next h => exact isBoundary_iff.1 h
    · exact isBoundary_floorFrom t n

theorem le_floorFrom {t : Text} {b : Nat} (hb : t.IsBoundary b) : ∀ {n}, b ≤ n → b ≤ t.floorFrom n
  | 0, h => h
  | n + 1, h => by
    rw [floorFrom]
    split
    · exact h
    · next hn =>
      refine le_floorFrom hb (Nat.le_of_lt_succ (Nat.lt_of_le_of_ne h ?_))
      rintro rfl
      exact hn (isBoundary_iff.2 hb)

theorem floor_le (t : Text) (n : Nat) : t.floor n ≤ n :=
  Nat.le_trans (floorFrom_le t _) (Nat.min_le_left _ _)

theorem isBoundary_floor (t : Text) (n : Nat) : t.IsBoundary (t.floor n) :=
  isBoundary_floorFrom t _

theorem le_floor {t : Text} {b n : Nat} (hb : t.IsBoundary b) (h : b ≤ n) : b ≤ t.floor n :=
  le_floorFrom hb (Nat.le_min.2 ⟨h, hb.le⟩)

theorem floor_of_isBoundary {t : Text} {n : Nat} (h : t.IsBoundary n) : t.floor n = n :=
  Nat.le_antisymm (floor_le t n) (le_floor h (Nat.le_refl n))

theorem floor_eq_self_iff {t : Text} {n : Nat} : t.floor n = n ↔ t.IsBoundary n :=
  ⟨fun h => h ▸ isBoundary_floor t n, floor_of_isBoundary⟩

theorem floor_floor (t : Text) (n : Nat) : t.floor (t.floor n) = t.floor n :=
  floor_of_isBoundary (isBoundary_floor t n)

theorem floor_mono (t : Text) {m n : Nat} (h : m ≤ n) : t.floor m ≤ t.floor n :=
  le_floor (isBoundary_floor t m) (Nat.le_trans (floor_le t m) h)

theorem suffix_append (a b : Text) : suffix (a ++ b) a.byteSize = .ok b := by
  simp [suffix, dropBytes?_append]

theorem slice_append (a b c : Text) :
    slice (a ++ (b ++ c)) a.byteSize (a.byteSize + b.byteSize) = .ok b := by
  simp [slice, dropBytes?_append, takeBytes?_append]

end Text

end Backtrack
