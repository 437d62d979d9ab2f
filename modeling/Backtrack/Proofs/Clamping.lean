import Mathlib.Order.Bounds.Basic
import Backtrack.Proofs.Session

/-!
# Offsets taken down to a boundary

Any offset stands for the last boundary that is neither past it nor past the end of the text, to a
cursor that is restored to it and to a slice that is cut at it (`Cursor.Clamps`). The search for it
goes down a byte at a time and stops after three bytes at most, as no code point has more than four.
A cursor stands on a boundary, so the offset recorded there leads back to it whatever a session has
done since (`Session.restores_after`).
-/

namespace Backtrack

/-! ## The search for a boundary -/

namespace Text

variable {t : Text} {n b : Nat}

theorem isGreatest_floor (t : Text) (n : Nat) :
    IsGreatest {b | t.IsBoundary b ∧ b ≤ min n t.byteSize} (t.floor n) :=
  ⟨⟨isBoundary_floor t n, floorFrom_le t _⟩, fun _ hb => le_floorFrom hb.1 hb.2⟩

/-- The search for a boundary goes down from an offset a byte at a time and stops at another. Below
offset 0 there is nothing to go down to. -/
inductive Descends (t : Text) : Nat → Nat → Prop
  | stop {n : Nat} (h : t.isBoundary n = true) : t.Descends n n
  | down {n b : Nat} (h : t.isBoundary (n + 1) = false) (further : t.Descends n b) :
    t.Descends (n + 1) b

theorem descends_floorFrom (t : Text) : ∀ n, t.Descends n (t.floorFrom n)
  | 0 => .stop (isBoundary_iff.2 (isBoundary_zero t))
  | n + 1 => by
    rw [floorFrom]
    split_ifs with h
    · exact .stop h
    · exact .down (Bool.eq_false_iff.2 h) (descends_floorFrom t n)

theorem Descends.unique {b' : Nat} (h : t.Descends n b) (h' : t.Descends n b') : b = b' := by
  induction h with
  | stop hn =>
    cases h' with
    | stop => rfl
    | down hn' => rw [hn] at hn'; cases hn'
  | down hn _ ih =>
    cases h' with
    | stop hn' => rw [hn] at hn'; cases hn'
    | down _ h' => exact ih h'

theorem descends_iff : t.Descends n b ↔ t.floorFrom n = b :=
  ⟨(descends_floorFrom t n).unique, fun h => h ▸ descends_floorFrom t n⟩

/-- Within a text there is a boundary less than four bytes below any offset. -/
theorem exists_isBoundary_near : ∀ {t : Text} {n : Nat}, n ≤ t.byteSize →
    ∃ b, t.IsBoundary b ∧ b ≤ n ∧ n < b + 4
  | [], n, h => ⟨0, isBoundary_zero _, Nat.zero_le n, by simp only [byteSize] at h; omega⟩
  | c :: t, n, h => by
    have hc := c.utf8Size_le_four
    by_cases hn : n < c.utf8Size
    · exact ⟨0, isBoundary_zero _, Nat.zero_le n, by omega⟩
    · simp only [byteSize] at h
      obtain ⟨b, ⟨x, y, rfl, rfl⟩, hle, hlt⟩ :=
        exists_isBoundary_near (t := t) (n := n - c.utf8Size) (by omega)
      exact ⟨c.utf8Size + x.byteSize, ⟨c :: x, y, rfl, rfl⟩, by omega, by omega⟩

/-- Behind a first part of the text that ends below it, the boundary splits the rest. -/
theorem exists_append_of_floor {front rest : Text} (ht : t = front ++ rest)
    (h : front.byteSize ≤ t.floor n) :
    ∃ cut behind, rest = cut ++ behind ∧ t.floor n = (front ++ cut).byteSize := by
  subst ht
  exact (isBoundary_floor _ n).exists_append_of_le h

theorem lt_floor_add_four (t : Text) (n : Nat) : min n t.byteSize < t.floor n + 4 := by
  obtain ⟨b, hb, hle, hlt⟩ := exists_isBoundary_near (Nat.min_le_right n t.byteSize)
  have := le_floorFrom hb hle
  unfold floor
  omega

end Text

/-! ## Restoring and slicing -/

namespace Cursor

/-- A cursor restored to two offsets in order cuts the text in three. -/
theorem exists_append_of_restore (c : Cursor) {low high : Nat} (h : low ≤ high) :
    ∃ front cut behind, c.text = front ++ (cut ++ behind)
      ∧ (c.restore low).pos = front.byteSize ∧ (c.restore high).pos = (front ++ cut).byteSize := by
  obtain ⟨front, rest, htext, hlow⟩ := Text.isBoundary_floor c.text low
  obtain ⟨cut, behind, rfl, hhigh⟩ :=
    Text.exists_append_of_floor htext (hlow.trans_le (c.text.floor_mono h))
  exact ⟨front, cut, behind, htext, hlow.symm, hhigh⟩

theorem slice_append_slice (c : Cursor) {low middle high : Nat} (h : low ≤ middle)
    (h' : middle ≤ high) : ∃ a b, c.slice low middle = .ok a ∧ c.slice middle high = .ok b
      ∧ c.slice low high = .ok (a ++ b) := by
  obtain ⟨front, a, rest, htext, hlow, hmiddle⟩ := c.exists_append_of_restore h
  have hsecond : c.text = (front ++ a) ++ rest := by rw [htext, List.append_assoc]
  obtain ⟨b, behind, rfl, hhigh⟩ :=
    Text.exists_append_of_floor hsecond (hmiddle.symm.trans_le (c.text.floor_mono h'))
  have hboth : c.text = front ++ ((a ++ b) ++ behind) := by rw [htext, List.append_assoc]
  exact ⟨a, b, slice_of_floor_eq htext hlow hmiddle, slice_of_floor_eq hsecond hmiddle hhigh,
    slice_of_floor_eq hboth hlow (by rw [hhigh, List.append_assoc])⟩

theorem slice_whole (c : Cursor) : c.slice 0 c.text.byteSize = .ok c.text := by
  have htext : c.text = [] ++ (c.text ++ []) := by simp
  exact slice_of_floor_eq htext (Text.floor_of_isBoundary (Text.isBoundary_zero _))
    (Text.floor_of_isBoundary (Text.isBoundary_byteSize _))

/-- What an offset stands for where the cursor is restored to it and where a slice is cut at it. -/
structure Clamps (c : Cursor) : Prop where
  isGreatest : ∀ n,
    IsGreatest {b | c.text.IsBoundary b ∧ b ≤ min n c.text.byteSize} (c.restore n).pos
  descends_iff : ∀ n b, c.text.Descends (min n c.text.byteSize) b ↔ (c.restore n).pos = b
  lt_add_four : ∀ n, min n c.text.byteSize < (c.restore n).pos + 4
  monotone : Monotone fun n => (c.restore n).pos
  restore_restore : ∀ n, c.restore (c.restore n).pos = c.restore n
  pos_eq_iff : ∀ n, (c.restore n).pos = n ↔ c.text.IsBoundary n
  slice_eq : ∀ low high, low ≤ high → ∃ front cut behind, c.text = front ++ (cut ++ behind)
    ∧ (c.restore low).pos = front.byteSize ∧ (c.restore high).pos = (front ++ cut).byteSize
    ∧ c.slice low high = .ok cut
  slice_inverted : ∀ low high, low ≤ high → c.slice high low = .ok []
  slice_append : ∀ low middle high, low ≤ middle → middle ≤ high →
    ∃ a b, c.slice low middle = .ok a ∧ c.slice middle high = .ok b
      ∧ c.slice low high = .ok (a ++ b)
  slice_whole : c.slice 0 c.text.byteSize = .ok c.text

theorem clamps (c : Cursor) : c.Clamps where
  isGreatest := c.text.isGreatest_floor
  descends_iff n b := Text.descends_iff
  lt_add_four := c.text.lt_floor_add_four
  monotone _ _ h := c.text.floor_mono h
  restore_restore n := congrArg c.moveTo (c.text.floor_floor n)
  pos_eq_iff n := Text.floor_eq_self_iff
  slice_eq low high h := by
    obtain ⟨front, cut, behind, htext, hlow, hhigh⟩ := c.exists_append_of_restore h
    exact ⟨front, cut, behind, htext, hlow, hhigh, slice_of_floor_eq htext hlow hhigh⟩
  slice_inverted low high := c.slice_inverted
  slice_append low middle high := c.slice_append_slice
  slice_whole := c.slice_whole

end Cursor

/-! ## Markers -/

namespace Step

/-- The step records an offset under the name. -/
def Records (name : String) : Step → Prop
  | checkpoint other | foreign other _ => other = name
  | _ => False

end Step

namespace Session

variable {g : Grammar} {budget : Nat} {t : Text} {s : Session} {name : String}

/-- A step leaves what is recorded under a name, unless it records an offset there itself. -/
theorem offset_of_step (step : Step) (h : ¬ step.Records name) (s : Session) :
    Run.Meets (fun _ => True) (fun x => x.2.offset name = s.offset name)
      (s.step g budget step) := by
  cases step with
  | text | isAtEnd | displayErased e | fork other => exact rfl
  | peek n | peekChar | remaining | consumed | display | parse e =>
    exact Run.meets_bind fun _ => rfl
  | restore other | swap other | same other => exact Run.meets_bind fun _ => rfl
  | take n | nextChar => exact Run.meets_bind fun ⟨_, _⟩ => rfl
  | slice low high =>
    exact Run.meets_bind fun _ => Run.meets_bind fun _ => Run.meets_bind fun _ => rfl
  | compare a b => exact Run.meets_bind fun _ => Run.meets_bind fun _ => rfl
  | checkpoint other | foreign other n =>
    have hne : (name == other) = false := beq_false_of_ne fun heq => h heq.symm
    simp only [Session.step, pure, Except.pure, Run.Meets, offset, List.lookup_cons, hne]

/-- Steps leave what is recorded under a name, unless one of them records an offset there. -/
theorem offset_of_after : ∀ {steps : List Step} (s : Session),
    (∀ step ∈ steps, ¬ step.Records name) →
      Run.Meets (fun _ => True) (fun last => last.offset name = s.offset name)
        (s.after g budget steps)
  | [], _, _ => rfl
  | step :: _, s, h => by
    rw [List.forall_mem_cons] at h
    refine Run.Meets.bind (offset_of_step step h.1 s) fun x hx => ?_
    exact (offset_of_after x.2 h.2).imp fun last hlast => hlast.trans hx

/-- A marker keeps the position where it was recorded through any steps that record nothing else
under its name. -/
theorem offset_of_checkpoint {between : List Step} {last : Session}
    (hbetween : ∀ step ∈ between, ¬ step.Records name)
    (h : s.after g budget (.checkpoint name :: between) = .ok last) :
    last.offset name = .ok s.cursor.pos := by
  refine ((offset_of_after _ hbetween).of_eq_ok h).trans ?_
  simp [offset]

/-- However often it is restored, a recorded boundary is where the cursor is then. -/
theorem after_restores {n : Nat} : ∀ (k : Nat) {s : Session}, s.offset name = .ok n →
    s.cursor.text.IsBoundary n →
      s.after g budget (List.replicate (k + 1) (.restore name))
        = .ok (s.withCursor (s.cursor.moveTo n))
  | 0, s, hname, hn => by
    simp only [List.replicate_succ, List.replicate_zero, after, Session.step, hname, Run.ok_bind,
      Cursor.restore, Text.floor_of_isBoundary hn]
    rfl
  | k + 1, s, hname, hn => by
    rw [List.replicate_succ, after]
    simp only [Session.step, hname, Run.ok_bind, Cursor.restore, Text.floor_of_isBoundary hn]
    exact after_restores k (s := s.withCursor (s.cursor.moveTo n)) hname hn

/-- Wherever some steps leave the cursor of a session, an offset of any size stands for one boundary
to all that restore or cut at it. What is recorded there leads back to where the cursor is, however
often it is restored, after any steps that record nothing else under its name. -/
theorem restores_after {steps : List Step} (h : (start t).after g budget steps = .ok s) :
    s.cursor.Clamps ∧ s.cursor.restore s.cursor.pos = s.cursor
    ∧ ∀ (name : String) (between : List Step) (last : Session),
      (∀ step ∈ between, ¬ step.Records name) →
      s.after g budget (.checkpoint name :: between) = .ok last →
      ∀ k, ∃ back, last.after g budget (List.replicate (k + 1) (.restore name)) = .ok back
        ∧ back.cursor = s.cursor := by
  have hs : s.Sound t := (sound_start t).after.of_eq_ok h
  refine ⟨s.cursor.clamps, hs.aligned.moveTo_home, fun name between last hbetween hlast k => ?_⟩
  have htext : last.cursor.text = s.cursor.text :=
    (hs.after.of_eq_ok hlast : last.Sound t).text_eq.trans hs.text_eq.symm
  have hname : last.offset name = .ok s.cursor.pos := offset_of_checkpoint hbetween hlast
  have hbound : last.cursor.text.IsBoundary s.cursor.pos := htext ▸ hs.aligned
  refine ⟨_, after_restores k hname hbound, ?_⟩
  show last.cursor.moveTo s.cursor.pos = s.cursor
  rw [Cursor.moveTo, htext]

/-- The marker lies between two code points of three bytes; the steps behind it go on to the end and
then into the first code point, and so to the start. -/
theorem restores_after_ideographs :
    (start ['日', '本']).after [] 0 [.take 1] = .ok ⟨⟨['日', '本'], 3⟩, [], []⟩
    ∧ Session.after [] 0 ⟨⟨['日', '本'], 3⟩, [], []⟩
        [.checkpoint "mark", .nextChar, .foreign "inside" 2, .restore "inside"]
      = .ok ⟨⟨['日', '本'], 0⟩, [("inside", 2), ("mark", 3)], []⟩
    ∧ ∃ back, Session.after [] 0 ⟨⟨['日', '本'], 0⟩, [("inside", 2), ("mark", 3)], []⟩
        [.restore "mark", .restore "mark"] = .ok back ∧ back.cursor = ⟨['日', '本'], 3⟩ := by
  have hsteps : (start ['日', '本']).after [] 0 [.take 1]
      = .ok ⟨⟨['日', '本'], 3⟩, [], []⟩ := rfl
  have hbetween : Session.after [] 0 ⟨⟨['日', '本'], 3⟩, [], []⟩
      [.checkpoint "mark", .nextChar, .foreign "inside" 2, .restore "inside"]
      = .ok ⟨⟨['日', '本'], 0⟩, [("inside", 2), ("mark", 3)], []⟩ := rfl
  obtain ⟨-, -, hmarker⟩ := restores_after hsteps
  exact ⟨hsteps, hbetween,
    hmarker "mark" [.nextChar, .foreign "inside" 2, .restore "inside"] _
      (by simp [Step.Records]) hbetween 1⟩

end Session

end Backtrack
