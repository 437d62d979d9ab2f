import Mathlib.Algebra.Group.Nat.Defs
import Mathlib.Data.List.Basic
import Backtrack.Number
import Backtrack.Unicode.Property

/-!
# Numerals

A text of decimal digits has the value `Nat.ofDigitChars` gives it. The reading of a whole number
succeeds on it exactly where that value fits the type (`Number.read_unsigned_eq_ok_iff`). A number
padded with zeros to a width is the one text of digits with that width and that value
(`Number.padded_ofDigitChars`).
-/

namespace Backtrack

namespace Number

/-! ## Reading -/

theorem digitValue?_ten (c : Char) :
    digitValue? 10 c = if c.isDigit then some (c.toNat - '0'.toNat) else none := by
  have hdigit : c.isDigit = true ↔ '0' ≤ c ∧ c ≤ '9' := by
    simp [Char.isDigit, Char.le_def]
  unfold digitValue?
  by_cases h : c.isDigit = true
  · have hlt : c.toNat - '0'.toNat < 10 := by
      have := Char.isDigit_iff_toNat.1 h
      simp only [Char.reduceToNat] at this ⊢
      omega
    rw [if_pos (hdigit.1 h), if_pos h]
    exact Option.filter_some_pos (decide_eq_true hlt)
  · rw [if_neg (fun hc => h (hdigit.2 hc)), if_neg h]
    dsimp only
    split_ifs <;> simp

/-- Digits behind a number do not make it smaller. -/
theorem le_ofDigitChars : ∀ (t : Text) (n : Nat), n ≤ Nat.ofDigitChars 10 t n
  | [], n => Nat.le_refl n
  | c :: t, n => by
    rw [Nat.ofDigitChars_cons]
    have := le_ofDigitChars t (10 * n + (c.toNat - '0'.toNat))
    omega

/-- Digits are read behind a number exactly where all of them are and the whole fits the type. -/
theorem readUp_eq_ok_iff {ty : IntegerType} {m : Int} : ∀ {t : Text} {n : Nat},
    (n : Int) ≤ ty.greatest → (readUp ty 10 n t = .ok m
      ↔ (∀ c ∈ t, c.isDigit = true) ∧ (Nat.ofDigitChars 10 t n : Int) ≤ ty.greatest
        ∧ m = Nat.ofDigitChars 10 t n)
  | [], n, hn => by
    rw [readUp, Nat.ofDigitChars_nil]
    constructor
    · intro h
      cases h
      exact ⟨by simp, hn, rfl⟩
    · rintro ⟨-, -, rfl⟩
      rfl
  | c :: t, n, hn => by
    rw [readUp, digitValue?_ten, Nat.ofDigitChars_cons, List.forall_mem_cons]
    by_cases hc : c.isDigit = true
    · have hvalue : (n : Int) * (10 : Nat) + ((c.toNat - '0'.toNat : Nat) : Int)
          = ((10 * n + (c.toNat - '0'.toNat) : Nat) : Int) := by
        omega
      simp only [if_pos hc, hvalue]
      split_ifs with hlarge
      · have hle := le_ofDigitChars t (10 * n + (c.toNat - '0'.toNat))
        refine iff_of_false (by simp) fun h => ?_
        have := h.2.1
        omega
      · rw [readUp_eq_ok_iff (by omega), and_iff_right hc]
    · simp only [if_neg hc]
      exact iff_of_false (by simp) fun h => hc h.1.1

/-- A number of an unsigned type is read, without a plus in front, from one or more digits whose value
fits the type. -/
theorem read_unsigned_eq_ok_iff {ty : IntegerType} (hty : ty.signed = false) {t : Text}
    (hplus : '+' ∉ t) {m : Int} : read ty 10 t = .ok m
      ↔ t ≠ [] ∧ (∀ c ∈ t, c.isDigit = true) ∧ (Nat.ofDigitChars 10 t 0 : Int) ≤ ty.greatest
        ∧ m = Nat.ofDigitChars 10 t 0 := by
  have hgreatest : ((0 : Nat) : Int) ≤ ty.greatest := by
    have hpos : 0 < 1 <<< ty.bits := by
      rw [Nat.one_shiftLeft]
      exact Nat.two_pow_pos ty.bits
    rw [IntegerType.greatest, hty, if_neg Bool.false_ne_true]
    omega
  rcases t with _ | ⟨c, rest⟩
  · simp [read]
  by_cases hminus : c = '-'
  · subst hminus
    refine iff_of_false ?_ fun h => absurd (h.2.1 _ List.mem_cons_self) (by decide)
    cases rest with
    | nil => simp [read]
    | cons => simp [read, hty]
  · have hc : c ≠ '+' := fun h => hplus (h ▸ List.mem_cons_self)
    have hread : read ty 10 (c :: rest) = readUp ty 10 (0 : Nat) (c :: rest) := by
      unfold read
      split <;> simp_all
    rw [hread, readUp_eq_ok_iff hgreatest, and_iff_right (List.cons_ne_nil c rest)]

theorem not_number_sign : Property.number.contains '+' = false
    ∧ Property.number.contains '-' = false := by
  decide +kernel

theorem number_of_isDigit {c : Char} (h : c.isDigit = true) :
    Property.number.contains c = true := by
  have htable : ∀ n < 10, Property.number.contains (Char.ofNat (48 + n)) = true := by
    decide +kernel
  have hbounds := Char.isDigit_iff_toNat.1 h
  simp only [Char.reduceToNat] at hbounds
  have hc := htable (c.toNat - 48) (by omega)
  rwa [Nat.add_sub_cancel' hbounds.1, Char.ofNat_toNat] at hc

/-- A text of numbers of any script has no sign in front; it is read where all of them are decimal
digits and their value fits. -/
theorem read_unsigned32_eq_ok_iff {t : Text} (hne : t ≠ [])
    (ht : ∀ c ∈ t, Property.number.contains c = true) {m : Int} :
    read .unsigned32 10 t = .ok m ↔ (∀ c ∈ t, c.isDigit = true)
      ∧ Nat.ofDigitChars 10 t 0 < 2 ^ 32 ∧ m = Nat.ofDigitChars 10 t 0 := by
  have hplus : '+' ∉ t := by
    intro h
    have := ht _ h
    rw [not_number_sign.1] at this
    cases this
  have hgreatest : IntegerType.unsigned32.greatest = ((2 ^ 32 : Nat) : Int) - 1 := rfl
  rw [read_unsigned_eq_ok_iff rfl hplus, and_iff_right hne, hgreatest]
  refine and_congr_right fun _ => and_congr_left fun _ => ?_
  omega

/-! ## Writing -/

/-- The decimal digits of a number behind some zeros. -/
def withZeros (zeros n : Nat) : Text := List.replicate zeros '0' ++ Nat.toDigits 10 n

theorem isDigit_of_mem_withZeros {zeros n : Nat} {c : Char} (h : c ∈ withZeros zeros n) :
    c.isDigit = true := by
  rcases List.mem_append.1 h with h | h
  · rw [List.eq_of_mem_replicate h]
    rfl
  · exact Nat.isDigit_of_mem_toDigits (by decide) (by decide) h

theorem ofDigitChars_withZeros (zeros n : Nat) :
    Nat.ofDigitChars 10 (withZeros zeros n) 0 = n := by
  rw [withZeros, Nat.ofDigitChars_append, Nat.ofDigitChars_replicate_zero, Nat.mul_zero,
    Nat.ofDigitChars_ten_toDigits]

theorem withZeros_ne_nil (zeros n : Nat) : withZeros zeros n ≠ [] := fun h =>
  Nat.toDigits_ne_nil (List.append_eq_nil_iff.1 h).2

/-- The decimal digits of a number behind as many zeros as the width asks for. -/
def padded (width n : Nat) : Text := withZeros (width - (Nat.toDigits 10 n).length) n

theorem length_padded {width n : Nat} (hwidth : 0 < width) (hn : n < 10 ^ width) :
    (padded width n).length = width := by
  have := (Nat.length_toDigits_le_iff (by decide) hwidth).2 hn
  rw [padded, withZeros, List.length_append, List.length_replicate]
  omega

theorem digit_inj {c d : Char} (hc : c.isDigit = true) (hd : d.isDigit = true)
    (h : c.toNat - '0'.toNat = d.toNat - '0'.toNat) : c = d := by
  rw [Char.isDigit_iff_toNat] at hc hd
  refine Char.toNat_inj.1 ?_
  omega

/-- Two numbers with as many digits behind them are the same together only if they are the same and
have the same digits. -/
theorem ofDigitChars_inj : ∀ {s t : Text} {m n : Nat}, s.length = t.length →
    (∀ c ∈ s, c.isDigit = true) → (∀ c ∈ t, c.isDigit = true) →
    Nat.ofDigitChars 10 s m = Nat.ofDigitChars 10 t n → m = n ∧ s = t
  | [], [], m, n, _, _, _, h => ⟨h, rfl⟩
  | c :: s, d :: t, m, n, hlen, hs, ht, h => by
    rw [List.forall_mem_cons] at hs ht
    rw [Nat.ofDigitChars_cons, Nat.ofDigitChars_cons] at h
    obtain ⟨hsum, rfl⟩ := ofDigitChars_inj (Nat.succ.inj hlen) hs.2 ht.2 h
    have hc := Char.isDigit_iff_toNat.1 hs.1
    have hd := Char.isDigit_iff_toNat.1 ht.1
    simp only [Char.reduceToNat] at hc hd hsum
    obtain rfl : c = d := digit_inj hs.1 ht.1 (by simp only [Char.reduceToNat]; omega)
    exact ⟨by omega, rfl⟩

/-- The value of a text of digits is below the power of ten for their number. -/
theorem ofDigitChars_lt : ∀ {t : Text} {n k : Nat}, (∀ c ∈ t, c.isDigit = true) → n < k →
    Nat.ofDigitChars 10 t n < k * 10 ^ t.length
  | [], n, k, _, hn => by simpa using hn
  | c :: t, n, k, ht, hn => by
    rw [List.forall_mem_cons] at ht
    have hc := Char.isDigit_iff_toNat.1 ht.1
    simp only [Char.reduceToNat] at hc
    have hlt : 10 * n + (c.toNat - '0'.toNat) < k * 10 := by
      simp only [Char.reduceToNat]
      omega
    have := ofDigitChars_lt ht.2 hlt
    rw [Nat.ofDigitChars_cons, List.length_cons, Nat.pow_succ', ← Nat.mul_assoc]
    exact this

/-- Digits are what their value is written as, padded to as many digits. -/
theorem padded_ofDigitChars {t : Text} (hne : t ≠ []) (ht : ∀ c ∈ t, c.isDigit = true) :
    padded t.length (Nat.ofDigitChars 10 t 0) = t := by
  have hlt : Nat.ofDigitChars 10 t 0 < 10 ^ t.length := by
    have := ofDigitChars_lt ht Nat.zero_lt_one
    rwa [Nat.one_mul] at this
  have hlength := length_padded (List.length_pos_iff.2 hne) hlt
  exact (ofDigitChars_inj hlength (fun c hc => isDigit_of_mem_withZeros hc) ht
    (ofDigitChars_withZeros _ _)).2

end Number

end Backtrack
