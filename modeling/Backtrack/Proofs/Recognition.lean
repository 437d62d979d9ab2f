import Backtrack.Parser.Convert
import Backtrack.Proofs.Alignment
import Backtrack.Proofs.Quiet

/-!
# The text that was read

The text a parser read depends on where the parser stops and not on its value
(`Parser.recognize_map`), so parsers that agree but for their values recognize one text
(`Parser.AgreesAt.quiet_recognize`), and a part of a row may be recognized before the row is
(`Parser.quiet_recognize_pair`).
-/

namespace Backtrack

namespace Parser

variable {α β : Type} {p q : Parser α} {c : Cursor} {n : Nat} {log : List Record}

/-! ## One run -/

/-- Where the text begins is known before the parser runs. -/
theorem recognize_eq (p : Parser α) (c : Cursor) :
    recognize p c = (p >>= fun _ => textSince c.pos).attempt c := by
  have hposition : position c = .ok ⟨.matched c.pos, c.pos, []⟩ := rfl
  unfold recognize
  rw [attempt, attempt, bind_of_matched _ hposition, Cursor.moveTo_pos]
  rcases (p >>= fun _ => textSince c.pos) c with f | r <;> rfl

theorem recognize_of_error {f : Fault} (h : p c = .error f) : recognize p c = .error f := by
  rw [recognize_eq, attempt, bind_of_error _ h]
  rfl

theorem recognize_of_matched {a : α} {t : Text} (h : p c = .ok ⟨.matched a, n, log⟩)
    (ht : (c.moveTo n).slice c.pos n = .ok t) : recognize p c = .ok ⟨.matched t, n, log⟩ := by
  have htext : textSince c.pos (c.moveTo n) = .ok ⟨.matched t, n, []⟩ := by
    rw [textSince, Cursor.pos_moveTo, ht]
    rfl
  have hlog : log ++ [] = log := List.append_nil log
  rw [recognize_eq, attempt, bind_of_matched _ h, htext]
  show Except.ok (⟨.matched t, n, log ++ []⟩ : Reply Text) = _
  rw [hlog]

theorem recognize_of_missed (h : p c = .ok ⟨.missed, n, log⟩) :
    recognize p c = .ok ⟨.missed, c.home, log⟩ := by
  rw [recognize_eq, attempt, bind_of_missed _ h]
  rfl

theorem recognize_of_failed {e : ParseError} (h : p c = .ok ⟨.failed e, n, log⟩) :
    recognize p c = .ok ⟨.failed e, c.home, log⟩ := by
  rw [recognize_eq, attempt, bind_of_failed _ h]
  rfl

theorem exists_recognize_eq_ok {r : Reply α} (h : p c = .ok r) : ∃ s, recognize p c = .ok s := by
  rcases r with ⟨a | _ | e, n, log⟩
  · obtain ⟨t, ht⟩ := (c.moveTo n).exists_slice_eq_ok c.pos n
    exact ⟨_, recognize_of_matched h ht⟩
  · exact ⟨_, recognize_of_missed h⟩
  · exact ⟨_, recognize_of_failed h⟩

/-- What was read is what lies between the two ends. -/
theorem recognize_between {seen a b : Text} {v : α}
    (h : p (.between seen (a ++ b)) = .ok ⟨.matched v, (seen ++ a).byteSize, log⟩) :
    recognize p (.between seen (a ++ b)) = .ok ⟨.matched a, (seen ++ a).byteSize, log⟩ := by
  refine recognize_of_matched h ?_
  rw [Cursor.moveTo_between]
  exact Cursor.slice_between seen a b

theorem recognize_between_of_missed {seen rest : Text}
    (h : p (.between seen rest) = .ok ⟨.missed, n, log⟩) :
    recognize p (.between seen rest) = .ok ⟨.missed, seen.byteSize, log⟩ := by
  rw [recognize_of_missed h, Cursor.home_between]

theorem recognize_attempt (p : Parser α) : recognize p.attempt = recognize p := by
  funext c
  rw [recognize_eq, recognize_eq, attempt, attempt]
  rcases hp : p c with f | ⟨a | _ | e, n, log⟩
  · have h : p.attempt c = .error f := by rw [attempt, hp]; rfl
    rw [bind_of_error _ h, bind_of_error _ hp]
  · have h : p.attempt c = .ok ⟨.matched a, n, log⟩ := by rw [attempt, hp]; rfl
    rw [bind_of_matched _ h, bind_of_matched _ hp]
  · have h : p.attempt c = .ok ⟨.missed, c.home, log⟩ := by rw [attempt, hp]; rfl
    rw [bind_of_missed _ h, bind_of_missed _ hp]
    rfl
  · have h : p.attempt c = .ok ⟨.failed e, c.home, log⟩ := by rw [attempt, hp]; rfl
    rw [bind_of_failed _ h, bind_of_failed _ hp]
    rfl

/-! ## Values do not matter -/

theorem recognize_map (f : α → β) (p : Parser α) : recognize (p.map f) = recognize p := by
  unfold recognize
  simp only [← bind_succeed, bind_bracket, succeed_bind]

theorem AgreesAt.quiet_recognize (h : AgreesAt c p q) :
    (recognize p).quiet c = (recognize q).quiet c := by
  have hrow : AgreesAt c (p >>= fun _ => textSince c.pos) (q >>= fun _ => textSince c.pos) :=
    h.bind fun _ n _ _ => .refl (c.moveTo n) _
  have hquiet := hrow.quiet_attempt
  rw [quiet, quiet] at hquiet ⊢
  rw [recognize_eq, recognize_eq, hquiet]

/-- To recognize changes the value of a parser only. -/
theorem agrees_map_recognize (p : Parser α) (b : β) :
    ((recognize p).map fun _ => b).Agrees (p.map fun _ => b) := by
  intro c
  rw [map_eq, map_eq]
  rcases hp : p c with f | ⟨a | _ | e, n, log⟩
  · rw [recognize_of_error hp]
    rfl
  · obtain ⟨t, ht⟩ := (c.moveTo n).exists_slice_eq_ok c.pos n
    rw [recognize_of_matched hp ht]
    rfl
  · rw [recognize_of_missed hp]
    rfl
  · rw [recognize_of_failed hp]
    rfl

/-- Of two parsers in a row, the second one may be recognized by itself first. -/
theorem quiet_recognize_pair (p : Parser α) (q : Parser β) :
    (recognize (pair p (recognize q))).quiet = (recognize (p >>= fun _ => q)).quiet := by
  funext c
  have hpair := map_pair p (recognize q) fun _ _ => ()
  have hrow : ((p >>= fun _ => q).map fun _ => ()) = p >>= fun _ => q.map fun _ => () := by
    simp only [← bind_succeed, bind_bracket]
  rw [← recognize_map (fun _ => ()) (pair p (recognize q)), hpair,
    ← recognize_map (fun _ => ()) (p >>= fun _ => q), hrow]
  refine AgreesAt.quiet_recognize (.trans (agrees_attempt _ c) ?_)
  exact AgreesAt.bind (.refl c p) fun _ n _ _ => agrees_map_recognize q () (c.moveTo n)

end Parser

end Backtrack
