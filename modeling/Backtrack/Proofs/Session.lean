import Backtrack.Proofs.Motion
import Backtrack.Session

/-!
# What a session keeps

However many steps a session takes, its cursor and all copies of it stay on boundaries of the one
text it began with (`Session.Sound`), and no step takes a slice off boundaries. Only steps that
restore, that exchange the cursor for a copy or that run a description with a `goto` may end before
where they began (`Session.cursor_sound`). What a run finds at a step is what this step finds in the
session after the steps before it (`Session.run_concat`).
-/

namespace Backtrack

/-! ## What the cursor is asked -/

namespace Cursor

variable {c : Cursor}

theorem Aligned.exists_append (hc : c.Aligned) :
    ∃ seen rest, c.consumed = .ok seen ∧ c.remaining = .ok rest ∧ seen ++ rest = c.text := by
  obtain ⟨seen, rest, rfl⟩ := hc.exists_between
  exact ⟨seen, rest, consumed_between seen rest, remaining_between seen rest, rfl⟩

theorem Aligned.exists_peek_eq_ok (hc : c.Aligned) (n : Int) : ∃ t, c.peek n = .ok t := by
  obtain ⟨seen, rest, rfl⟩ := hc.exists_between
  rcases peek_cases seen rest n with ⟨a, -, -, -, h⟩ | ⟨-, b, -, -, -, h⟩ | ⟨-, h⟩
  · exact ⟨some a, h⟩
  · exact ⟨some b, h⟩
  · exact ⟨none, h⟩

theorem Aligned.exists_peekChar_eq_ok (hc : c.Aligned) : ∃ ch, c.peekChar = .ok ch := by
  obtain ⟨seen, rest, rfl⟩ := hc.exists_between
  exact ⟨rest.head?, peekChar_between seen rest⟩

theorem Aligned.exists_display_eq_ok (hc : c.Aligned) : ∃ t, c.display = .ok t := by
  obtain ⟨seen, rest, rfl⟩ := hc.exists_between
  rw [display, consumed_between, remaining_between]
  exact ⟨_, rfl⟩

/-- Reading by count moves onward over what it gives, or stays and gives nothing. -/
theorem Aligned.exists_take_eq_ok (hc : c.Aligned) (n : Int) :
    ∃ t? next, c.take n = .ok (t?, next) ∧ next.text = c.text
      ∧ Motion.onward.Allows c.text c.pos next.pos ∧ (t? = none → next = c) := by
  obtain ⟨seen, rest, rfl⟩ := hc.exists_between
  rcases take_cases seen rest n with ⟨a, b, rfl, -, h⟩ | ⟨-, h⟩
  · refine ⟨some a, _, h, ?_, Motion.onward.allows_append seen a b, fun hnone => by cases hnone⟩
    rw [text_between, text_between, List.append_assoc]
  · exact ⟨none, _, h, rfl, Motion.onward.stay hc, fun _ => rfl⟩

theorem Aligned.exists_nextChar_eq_ok (hc : c.Aligned) :
    ∃ ch next, c.nextChar = .ok (ch, next) ∧ next.text = c.text
      ∧ Motion.onward.Allows c.text c.pos next.pos := by
  obtain ⟨seen, rest, rfl⟩ := hc.exists_between
  rcases rest with _ | ⟨ch, rest⟩
  · exact ⟨none, _, nextChar_nil seen, rfl, Motion.onward.stay hc⟩
  · refine ⟨some ch, _, nextChar_cons seen ch rest, ?_, Motion.onward.allows_append seen [ch] rest⟩
    rw [text_between, text_between, List.append_assoc, List.singleton_append]

end Cursor

namespace Step

/-- The step may leave the cursor before where it was. -/
def MayGoBack (g : Grammar) : Step → Prop
  | restore _ | swap _ => True
  | parse e => ∃ n, g.Part e (.leaf (.goto n))
  | _ => False

end Step

namespace Session

variable {g : Grammar} {budget : Nat} {t : Text} {s : Session}

/-- The session after some steps. -/
def after (g : Grammar) (budget : Nat) : Session → List Step → Run Session
  | s, [] => .ok s
  | s, step :: rest => do
    let (_, next) ← s.step g budget step
    after g budget next rest

/-- What a run finds last is what the last step finds after the steps before it. -/
theorem run_concat (step : Step) : ∀ (steps : List Step) (s : Session),
    s.run g budget (steps ++ [step]) = (do
      let found ← s.run g budget steps
      let last ← s.after g budget steps
      let (o, next) ← last.step g budget step
      return found ++ [(o, next.cursor.pos)])
  | [], s => by
    simp only [List.nil_append, run, after, pure_bind, Run.ok_bind]
  | first :: rest, s => by
    simp only [List.cons_append, run, after]
    rcases s.step g budget first with f | ⟨o, next⟩
    · rfl
    · simp only [Run.ok_bind]
      rw [run_concat step rest next]
      rcases next.run g budget rest with f | found
      · rfl
      rcases next.after g budget rest with f | last
      · rfl
      rcases h : last.step g budget step with f | ⟨o', next'⟩ <;> simp [h]

/-- The cursor and its copies lie on boundaries of the text. -/
structure Sound (t : Text) (s : Session) : Prop where
  text_eq : s.cursor.text = t
  aligned : s.cursor.Aligned
  forks : ∀ f ∈ s.forks, f.2.text = t ∧ f.2.Aligned

theorem sound_start (t : Text) : (start t).Sound t :=
  ⟨rfl, Cursor.aligned_start t, fun _ hf => absurd hf List.not_mem_nil⟩

/-- What a step from a sound session may find and end in. -/
structure Leads (t : Text) (g : Grammar) (s : Session) (step : Step) (x : Observation × Session) :
    Prop where
  sound : x.2.Sound t
  onward : ¬ step.MayGoBack g → s.cursor.pos ≤ x.2.cursor.pos
  stays_of_take : ∀ n, step = .take n → x.1 = .nothing → x.2 = s

namespace Sound

theorem withCursor (hs : s.Sound t) {c : Cursor} (htext : c.text = s.cursor.text)
    (hc : s.cursor.text.IsBoundary c.pos) : (s.withCursor c).Sound t := by
  refine ⟨htext.trans hs.text_eq, ?_, hs.forks⟩
  rw [← htext] at hc
  exact hc

theorem leads_self (hs : s.Sound t) (step : Step) (o : Observation) : Leads t g s step (o, s) :=
  ⟨hs, fun _ => Nat.le_refl _, fun _ _ _ => rfl⟩

/-- A step may move the cursor onward, if it is not a `take` that finds nothing. -/
theorem leads_withCursor (hs : s.Sound t) {step : Step} {o : Observation} {c : Cursor}
    (htext : c.text = s.cursor.text)
    (hmove : Motion.onward.Allows s.cursor.text s.cursor.pos c.pos)
    (hstay : ∀ n, step = .take n → o = .nothing → c = s.cursor) :
    Leads t g s step (o, s.withCursor c) := by
  refine ⟨hs.withCursor htext hmove.1, fun _ => hmove.2, fun n hn ho => ?_⟩
  rw [hstay n hn ho]
  rfl

theorem meets_offset (s : Session) (name : String) :
    Run.Meets Fault.NoSlice (fun _ => True) (s.offset name) := by
  unfold offset
  split <;> trivial

theorem meets_copy (hs : s.Sound t) (name : String) :
    Run.Meets Fault.NoSlice (fun c => c.text = t ∧ c.Aligned) (s.copy name) := by
  unfold copy
  split
  · next c hc =>
    obtain ⟨before, behind, hforks, -⟩ := List.lookup_eq_some_iff.1 hc
    exact hs.forks (name, c) (by simp [hforks])
  · trivial

theorem forks_cons (hs : s.Sound t) (name : String) :
    ∀ f ∈ (name, s.cursor) :: s.forks, f.2.text = t ∧ f.2.Aligned := by
  intro f hf
  rcases List.mem_cons.1 hf with rfl | hf
  · exact ⟨hs.text_eq, hs.aligned⟩
  · exact hs.forks f hf

/-- A step keeps a session sound and takes no slice off boundaries. -/
theorem step (hs : s.Sound t) (step : Step) :
    Run.Meets Fault.NoSlice (Leads t g s step) (s.step g budget step) := by
  cases step with
  | text | isAtEnd | displayErased e => exact hs.leads_self _ _
  | peek n =>
    obtain ⟨t?, h⟩ := hs.aligned.exists_peek_eq_ok n
    rw [Session.step, h]
    exact hs.leads_self _ _
  | take n =>
    obtain ⟨t?, next, h, htext, hmove, hstay⟩ := hs.aligned.exists_take_eq_ok n
    rw [Session.step, h]
    refine hs.leads_withCursor htext hmove fun _ _ hnothing => hstay ?_
    cases t? with
    | none => rfl
    | some a => cases hnothing
  | peekChar =>
    obtain ⟨ch, h⟩ := hs.aligned.exists_peekChar_eq_ok
    rw [Session.step, h]
    exact hs.leads_self _ _
  | nextChar =>
    obtain ⟨ch, next, h, htext, hmove⟩ := hs.aligned.exists_nextChar_eq_ok
    rw [Session.step, h]
    exact hs.leads_withCursor htext hmove nofun
  | remaining =>
    obtain ⟨seen, rest, -, h, -⟩ := hs.aligned.exists_append
    rw [Session.step, h]
    exact hs.leads_self _ _
  | consumed =>
    obtain ⟨seen, rest, h, -, -⟩ := hs.aligned.exists_append
    rw [Session.step, h]
    exact hs.leads_self _ _
  | display =>
    obtain ⟨d, h⟩ := hs.aligned.exists_display_eq_ok
    rw [Session.step, h]
    exact hs.leads_self _ _
  | checkpoint name | foreign name offset =>
    exact ⟨⟨hs.text_eq, hs.aligned, hs.forks⟩, fun _ => Nat.le_refl _, nofun⟩
  | restore name =>
    refine Run.Meets.bind (meets_offset s name) fun offset _ => ?_
    exact ⟨hs.withCursor rfl (s.cursor.aligned_restore offset), fun h => absurd trivial h, nofun⟩
  | slice low high =>
    refine Run.Meets.bind (meets_offset s low) fun a _ => ?_
    refine Run.Meets.bind (meets_offset s high) fun b _ => ?_
    obtain ⟨cut, h⟩ := s.cursor.exists_slice_eq_ok a b
    rw [h]
    exact hs.leads_self _ _
  | compare a b =>
    refine Run.Meets.bind (meets_offset s a) fun m _ => ?_
    exact Run.Meets.bind (meets_offset s b) fun n _ => hs.leads_self _ _
  | fork name =>
    exact ⟨⟨hs.text_eq, hs.aligned, hs.forks_cons name⟩, fun _ => Nat.le_refl _, nofun⟩
  | swap name =>
    refine Run.Meets.bind (hs.meets_copy name) fun c hc => ?_
    exact ⟨⟨hc.1, hc.2, hs.forks_cons name⟩, fun h => absurd trivial h, nofun⟩
  | same name => exact Run.Meets.bind (hs.meets_copy name) fun c _ => hs.leads_self _ _
  | parse e =>
    by_cases hback : ∃ n, g.Part e (.leaf (.goto n))
    · refine Run.Meets.bind (g.parser_within_anywhere budget budget e _ hs.aligned) fun r hr => ?_
      exact ⟨hs.withCursor rfl hr, fun h => absurd hback h, nofun⟩
    · have honward := g.parser_within_onward budget budget (not_exists.1 hback)
      refine Run.Meets.bind (honward _ hs.aligned) fun r hr => ?_
      exact ⟨hs.withCursor rfl hr.1, fun _ => hr.2, nofun⟩

end Sound

/-- Some steps keep a session sound and take no slice off boundaries. -/
theorem Sound.after : ∀ {steps : List Step} {s : Session}, s.Sound t →
    Run.Meets Fault.NoSlice (Sound t) (s.after g budget steps)
  | [], _, hs => hs
  | step :: _, _, hs => Run.Meets.bind (hs.step step) fun _ hx => Sound.after hx.sound

/-- After any steps from the start of a text the cursor is on a boundary of that text, between what
it has consumed and what remains. The next step takes no slice off boundaries either, does not end
before it began unless it may go back, and stays if it is a `take` that finds nothing. -/
theorem cursor_sound (g : Grammar) (budget : Nat) (t : Text) (steps : List Step) :
    Run.Meets Fault.NoSlice
      (fun s => s.cursor.text = t ∧ s.cursor.pos ≤ t.byteSize ∧ t.IsBoundary s.cursor.pos
        ∧ (∃ seen rest, s.cursor.consumed = .ok seen ∧ s.cursor.remaining = .ok rest
          ∧ seen ++ rest = t)
        ∧ ∀ step, Run.Meets Fault.NoSlice
          (fun x => (¬ step.MayGoBack g → s.cursor.pos ≤ x.2.cursor.pos)
            ∧ ∀ n, step = .take n → x.1 = .nothing → x.2 = s)
          (s.step g budget step))
      ((start t).after g budget steps) := by
  refine (sound_start t).after.imp fun s hs => ?_
  have hbound : t.IsBoundary s.cursor.pos := hs.text_eq ▸ hs.aligned
  refine ⟨hs.text_eq, hbound.le, hbound, ?_, fun step => ?_⟩
  · rw [← hs.text_eq]
    exact hs.aligned.exists_append
  · exact (hs.step step).imp fun x hx => ⟨hx.onward, hx.stays_of_take⟩

end Session

end Backtrack
