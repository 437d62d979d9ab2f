import Mathlib.Tactic.SplitIfs
import Backtrack.Parser.Lookahead
import Backtrack.Parser.Character
import Backtrack.Parser.Literal
import Backtrack.Parser.Move
import Backtrack.Proofs.Alignment
import Backtrack.Proofs.Run

/-!
# Parsers that read a token

A token is read at one blow: wherever it starts on a boundary, its parser either reads the text of
its value or misses, and in both cases it returns, stays aligned and logs nothing (`IsToken`). Every
class of characters and every literal is one, and so is whatever only looks, with an empty text.
-/

namespace Backtrack

namespace Parser

variable {α : Type}

/-- Wherever it starts on a boundary, the parser reads the text of its value or misses. -/
def IsToken (text : α → Text) (p : Parser α) : Prop :=
  ∀ seen rest : Text,
    (∃ v b, rest = text v ++ b
      ∧ p (.between seen rest) = .ok ⟨.matched v, (seen ++ text v).byteSize, []⟩)
    ∨ p (.between seen rest) = .ok ⟨.missed, seen.byteSize, []⟩

/-! ## Characters -/

theorem anyChar_cons (seen : Text) (ch : Char) (rest : Text) :
    anyChar (.between seen (ch :: rest)) = .ok ⟨.matched ch, (seen ++ [ch]).byteSize, []⟩ := by
  rw [anyChar, Cursor.nextChar_cons]
  rfl

theorem anyChar_nil (seen : Text) :
    anyChar (.between seen []) = .ok ⟨.missed, seen.byteSize, []⟩ := by
  rw [anyChar, Cursor.nextChar_nil]
  rfl

theorem charWhere_cons (accept : Char → Bool) (seen : Text) (ch : Char) (rest : Text) :
    charWhere accept (.between seen (ch :: rest))
      = if accept ch then .ok ⟨.matched ch, (seen ++ [ch]).byteSize, []⟩
        else .ok ⟨.missed, seen.byteSize, []⟩ := by
  rw [charWhere, Cursor.peekChar_between]
  show (if accept ch then anyChar _ else miss _) = _
  rw [anyChar_cons]
  rfl

theorem charWhere_nil (accept : Char → Bool) (seen : Text) :
    charWhere accept (.between seen []) = .ok ⟨.missed, seen.byteSize, []⟩ := by
  rw [charWhere, Cursor.peekChar_between]
  rfl

theorem anyChar_between (seen rest : Text) :
    anyChar (.between seen rest) = charWhere (fun _ => true) (.between seen rest) := by
  cases rest with
  | nil => rw [anyChar_nil, charWhere_nil]
  | cons ch rest => rw [anyChar_cons, charWhere_cons, if_pos rfl]

theorem isToken_charWhere (accept : Char → Bool) : (charWhere accept).IsToken ([·]) := by
  intro seen rest
  cases rest with
  | nil => exact .inr (charWhere_nil accept seen)
  | cons ch rest =>
    rw [charWhere_cons]
    split_ifs
    · exact .inl ⟨ch, rest, rfl, rfl⟩
    · exact .inr rfl

theorem isToken_anyChar : anyChar.IsToken ([·]) := by
  intro seen rest
  rw [anyChar_between]
  exact isToken_charWhere _ seen rest

/-! ## Literals -/

/-- A literal reads as many code points as it has if they compare with it, and else misses. -/
theorem literalBy_cases (same : Text → Text → Bool) (expected seen rest : Text) :
    (∃ a b, rest = a ++ b ∧ a.length = expected.length ∧ same a expected = true
      ∧ literalBy same expected (.between seen rest)
        = .ok ⟨.matched a, (seen ++ a).byteSize, []⟩)
    ∨ (∀ a b, rest = a ++ b → a.length = expected.length → same a expected = false)
      ∧ literalBy same expected (.between seen rest) = .ok ⟨.missed, seen.byteSize, []⟩ := by
  by_cases hlen : expected.length ≤ rest.length
  · obtain ⟨a, b, rfl, ha⟩ := Text.exists_append_of_length_le hlen
    have hpeek := Cursor.peek_append seen a b
    have htake := Cursor.take_append seen a b
    rw [ha] at hpeek htake
    by_cases hs : same a expected = true
    · refine .inl ⟨a, b, rfl, ha, hs, ?_⟩
      simp only [literalBy, hpeek, Run.ok_bind, hs, if_true, htake]
      rfl
    · refine .inr ⟨fun a' b' h hl => ?_, ?_⟩
      · have := (List.append_inj h (ha.trans hl.symm)).1
        rw [← this]
        simpa using hs
      · simp only [literalBy, hpeek, Run.ok_bind, hs]
        rfl
  · refine .inr ⟨fun a b h hl => absurd ?_ hlen, ?_⟩
    · rw [h, ← hl, List.length_append]
      omega
    · rcases Cursor.peek_cases seen rest expected.length with
        ⟨a, b, h, hl, -⟩ | ⟨_, _, _, hneg, -⟩ | ⟨-, h⟩
      · rw [h, List.length_append] at hlen
        omega
      · omega
      · rw [literalBy, h]
        rfl

theorem literal_append (seen t b : Text) :
    literal t (.between seen (t ++ b)) = .ok ⟨.matched t, (seen ++ t).byteSize, []⟩ := by
  rcases literalBy_cases (· == ·) t seen (t ++ b) with ⟨a, b', hrest, -, hs, h⟩ | ⟨hs, -⟩
  · obtain rfl : a = t := by simpa using hs
    exact h
  · have := hs t b rfl rfl
    simp at this

theorem literal_of_not_isPrefix {t rest : Text} (h : ¬ t <+: rest) (seen : Text) :
    literal t (.between seen rest) = .ok ⟨.missed, seen.byteSize, []⟩ := by
  rcases literalBy_cases (· == ·) t seen rest with ⟨a, b, rfl, -, hs, -⟩ | ⟨-, hmiss⟩
  · obtain rfl : a = t := by simpa using hs
    exact absurd (List.prefix_append a b) h
  · exact hmiss

theorem isToken_literalBy (same : Text → Text → Bool) (expected : Text) :
    (literalBy same expected).IsToken id := by
  intro seen rest
  rcases literalBy_cases same expected seen rest with ⟨a, b, hrest, -, -, h⟩ | ⟨-, h⟩
  · exact .inl ⟨a, b, hrest, h⟩
  · exact .inr h

theorem isToken_asciiLiteralBy (same : Text → Text → Bool) (expected : Text) :
    (asciiLiteralBy same expected).IsToken id := by
  intro seen rest
  simp only [asciiLiteralBy, Cursor.remaining_between, Run.ok_bind]
  rcases htake : rest.takeBytes? expected.byteSize with _ | a
  · exact .inr rfl
  obtain ⟨⟨b, rfl⟩, -⟩ := Text.exists_append_of_takeBytes? htake
  simp only [Cursor.take_append, Run.ok_bind]
  split_ifs
  · exact .inl ⟨a, b, rfl, rfl⟩
  · exact .inr rfl

/-! ## Counts -/

theorem isToken_takeCount (n : Int) : (takeCount n).IsToken id := by
  intro seen rest
  rcases Cursor.take_cases seen rest n with ⟨a, b, rfl, -, h⟩ | ⟨-, h⟩
  · refine .inl ⟨a, b, rfl, ?_⟩
    rw [takeCount, h]
    rfl
  · right
    rw [takeCount, h]
    rfl

/-- A parser that only looks reads the empty text. -/
theorem isToken_of_stays {p : Parser α}
    (h : ∀ c : Cursor, c.Aligned →
      (∃ v, p c = .ok ⟨.matched v, c.pos, []⟩) ∨ p c = .ok ⟨.missed, c.pos, []⟩) :
    p.IsToken fun _ => [] := by
  intro seen rest
  rcases h _ (Cursor.aligned_between seen rest) with ⟨v, hv⟩ | hm
  · exact .inl ⟨v, rest, rfl, by rw [List.append_nil]; exact hv⟩
  · exact .inr hm

theorem isToken_peekCount (n : Int) : (peekCount n).IsToken fun _ => [] := by
  refine isToken_of_stays fun c hc => ?_
  obtain ⟨seen, rest, rfl⟩ := hc.exists_between
  rcases Cursor.peek_cases seen rest n with ⟨a, b, -, -, h⟩ | ⟨a, b, -, -, -, h⟩ | ⟨-, h⟩
  · exact .inl ⟨a, by rw [peekCount, h]; rfl⟩
  · exact .inl ⟨b, by rw [peekCount, h]; rfl⟩
  · exact .inr (by rw [peekCount, h]; rfl)

theorem eof_cons (seen : Text) (ch : Char) (rest : Text) :
    eof (.between seen (ch :: rest)) = .ok ⟨.missed, seen.byteSize, []⟩ := by
  have h := Cursor.peek_append seen [ch] rest
  rw [eof]
  exact congrArg (fun x : Run (Option Text) => x >>= _) h

theorem eof_nil (seen : Text) : eof (.between seen []) = .ok ⟨.matched (), seen.byteSize, []⟩ := by
  rw [eof]
  rcases Cursor.peek_cases seen [] 1 with ⟨a, b, h, ha, -⟩ | ⟨_, _, _, h, -⟩ | ⟨-, h⟩
  · have := congrArg List.length h
    simp at this
    omega
  · omega
  · rw [h]
    rfl

theorem isToken_eof : eof.IsToken fun _ => [] := by
  refine isToken_of_stays fun c hc => ?_
  obtain ⟨seen, rest, rfl⟩ := hc.exists_between
  cases rest with
  | nil => exact .inl ⟨(), eof_nil seen⟩
  | cons ch rest => exact .inr (eof_cons seen ch rest)

theorem isToken_position : position.IsToken fun _ => [] :=
  isToken_of_stays fun c _ => .inl ⟨c.pos, rfl⟩

end Parser

end Backtrack
