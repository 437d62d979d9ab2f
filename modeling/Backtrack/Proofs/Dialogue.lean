import Backtrack.Proofs.Run
import Backtrack.Proofs.Site

/-!
# Dialogues with the sites

A dialogue is a run as its sites see it: it asks a site from a cursor, goes on by the reply, and
ends when it has no more to ask. The questions it asks of an oracle, with the answers, are its
transcript. A dialogue settles if an error ends it at once, with what the layers around the site
make of the error, and if nothing else ends it with an error (`Dialogue.Settles`).
-/

namespace Backtrack

/-- The error of a reply, if it has one. -/
def Reply.error? {α : Type} (r : Reply α) : Option ParseError :=
  match r.outcome with
  | .failed e => some e
  | _ => none

theorem Reply.error?_eq_some {α : Type} {r : Reply α} {e : ParseError} :
    r.error? = some e ↔ r.outcome = .failed e := by
  rcases r with ⟨a | _ | y, n, log⟩ <;> simp [Reply.error?]

/-- A run that asks sites, each under some layers, and goes on by their replies; a fault at a site
is the end of it. -/
inductive Dialogue (α : Type) where
  | done (x : Run α)
  | ask (s : Site) (c : Cursor) (layers : List Layer) (next : Reply Value → Dialogue α)

/-- A question of a dialogue and the answer to it. -/
structure Exchange where
  site : Site
  cursor : Cursor
  layers : List Layer
  answer : Run (Reply Value)

namespace Exchange

/-- The error that the site answers with. -/
def error? (x : Exchange) : Option ParseError :=
  match x.answer with
  | .ok r => r.error?
  | .error _ => none

theorem exists_answer {x : Exchange} {e : ParseError} (h : x.error? = some e) :
    ∃ r, x.answer = .ok r ∧ r.error? = some e := by
  rcases x with ⟨s, c, layers, f | r⟩
  · cases h
  · exact ⟨r, rfl, h⟩

/-- What the layers around the site make of an error. -/
def report (x : Exchange) (e : ParseError) : ParseError := Layer.applyAll x.layers e

end Exchange

namespace Dialogue

variable {α β : Type}

def answer (o : Oracle) : Dialogue α → Run α
  | done x => x
  | ask s c _ next => do
    let r ← o s c
    (next r).answer o

def transcript (o : Oracle) : Dialogue α → List Exchange
  | done _ => []
  | ask s c layers next =>
    ⟨s, c, layers, o s c⟩ ::
      match o s c with
      | .ok r => (next r).transcript o
      | .error _ => []

section Ask

variable {o : Oracle} {s : Site} {c : Cursor} (layers : List Layer)
variable (next : Reply Value → Dialogue α)

theorem answer_ask_of_ok {r : Reply Value} (h : o s c = .ok r) :
    (ask s c layers next).answer o = (next r).answer o := by
  rw [answer, h, Run.ok_bind]

theorem answer_ask_of_error {f : Fault} (h : o s c = .error f) :
    (ask s c layers next).answer o = .error f := by
  rw [answer, h, Run.error_bind]

theorem transcript_ask_of_ok {r : Reply Value} (h : o s c = .ok r) :
    (ask s c layers next).transcript o = ⟨s, c, layers, .ok r⟩ :: (next r).transcript o := by
  rw [transcript, h]

theorem transcript_ask_of_error {f : Fault} (h : o s c = .error f) :
    (ask s c layers next).transcript o = [⟨s, c, layers, .error f⟩] := by
  rw [transcript, h]

end Ask

def bind (next : α → Dialogue β) : Dialogue α → Dialogue β
  | done (.ok a) => next a
  | done (.error f) => done (.error f)
  | ask s c layers more => ask s c layers fun r => (more r).bind next

/-- A dialogue within one more layer, which changes its end by `f`. -/
def within (layer : Layer) (f : α → β) : Dialogue α → Dialogue β
  | done x => done (f <$> x)
  | ask s c layers next => ask s c (layers ++ [layer]) fun r => (next r).within layer f

theorem answer_bind (o : Oracle) (next : α → Dialogue β) : ∀ t : Dialogue α,
    (t.bind next).answer o = t.answer o >>= fun a => (next a).answer o
  | done (.ok _) => rfl
  | done (.error _) => rfl
  | ask s c layers more => by
    rw [bind]
    rcases hr : o s c with f | r
    · rw [answer_ask_of_error _ _ hr, answer_ask_of_error _ _ hr, Run.error_bind]
    · rw [answer_ask_of_ok _ _ hr, answer_ask_of_ok _ _ hr, answer_bind o next (more r)]

theorem answer_within (o : Oracle) (layer : Layer) (f : α → β) : ∀ t : Dialogue α,
    (t.within layer f).answer o = f <$> t.answer o
  | done _ => rfl
  | ask s c layers next => by
    rw [within]
    rcases hr : o s c with e | r
    · rw [answer_ask_of_error _ _ hr, answer_ask_of_error _ _ hr]
      rfl
    · rw [answer_ask_of_ok _ _ hr, answer_ask_of_ok _ _ hr, answer_within o layer f (next r)]

/-! ## What the transcript says -/

theorem answer_of_mem_transcript {o : Oracle} {x : Exchange} : ∀ {t : Dialogue α},
    x ∈ t.transcript o → x.answer = o x.site x.cursor
  | done _, hx => absurd hx List.not_mem_nil
  | ask s c layers next, hx => by
    rcases hr : o s c with f | r
    · rw [transcript_ask_of_error _ _ hr, List.mem_singleton] at hx
      subst hx
      exact hr.symm
    · rw [transcript_ask_of_ok _ _ hr] at hx
      rcases List.mem_cons.1 hx with rfl | hx
      · exact hr.symm
      · exact answer_of_mem_transcript hx

theorem answer_congr {o o' : Oracle} : ∀ {t : Dialogue α},
    (∀ x ∈ t.transcript o, o' x.site x.cursor = o x.site x.cursor) → t.answer o' = t.answer o
  | done _, _ => rfl
  | ask s c layers next, h => by
    rcases hr : o s c with f | r
    · rw [transcript_ask_of_error _ _ hr] at h
      rw [answer_ask_of_error _ _ hr,
        answer_ask_of_error _ _ ((h _ List.mem_cons_self).trans hr)]
    · rw [transcript_ask_of_ok _ _ hr] at h
      rw [answer_ask_of_ok _ _ hr, answer_ask_of_ok _ _ ((h _ List.mem_cons_self).trans hr)]
      exact answer_congr fun x hx => h x (List.mem_cons_of_mem _ hx)

/-- What is asked is needed: a fault there, and no other change, is a fault of the run. -/
theorem answer_eq_error_of_mem {o o' : Oracle} {x : Exchange} {f : Fault} : ∀ {t : Dialogue α},
    x ∈ t.transcript o → o' x.site x.cursor = .error f →
    (∀ s c, ¬ (s = x.site ∧ c = x.cursor) → o' s c = o s c) → t.answer o' = .error f
  | done _, hx, _, _ => absurd hx List.not_mem_nil
  | ask s c layers next, hx, hfault, hsame => by
    by_cases hs : s = x.site ∧ c = x.cursor
    · obtain ⟨rfl, rfl⟩ := hs
      exact answer_ask_of_error _ _ hfault
    rcases hr : o s c with e | r
    · rw [transcript_ask_of_error _ _ hr, List.mem_singleton] at hx
      subst hx
      exact absurd ⟨rfl, rfl⟩ hs
    · rw [transcript_ask_of_ok _ _ hr] at hx
      rw [answer_ask_of_ok _ _ ((hsame s c hs).trans hr)]
      rcases List.mem_cons.1 hx with rfl | hx
      · exact absurd ⟨rfl, rfl⟩ hs
      · exact answer_eq_error_of_mem hx hfault hsame

/-! ## Errors -/

variable {A : Site → List Layer → Prop} {err : α → Option ParseError}

/-- Each site asked is as `A` says, an error from it ends the dialogue at once with what the layers
make of it, and the dialogue does not end with an error otherwise. -/
def Settles (A : Site → List Layer → Prop) (err : α → Option ParseError) : Dialogue α → Prop
  | done x => ∀ a, x = .ok a → err a = none
  | ask s _ layers next => A s layers
    ∧ (∀ r : Reply Value, r.error? = none → (next r).Settles A err)
    ∧ ∀ (r : Reply Value) e, r.error? = some e →
        ∃ a, next r = done (.ok a) ∧ err a = some (Layer.applyAll layers e)

/-- The dialogue settles or, after an error, is at its end with the error. -/
def Follows (A : Site → List Layer → Prop) (err : α → Option ParseError) (t : Dialogue α) :
    Option ParseError → Prop
  | none => t.Settles A err
  | some e => ∃ a, t = done (.ok a) ∧ err a = some e

theorem Settles.imp {B : Site → List Layer → Prop} (h : ∀ s layers, A s layers → B s layers) :
    ∀ {t : Dialogue α}, t.Settles A err → t.Settles B err
  | done _, ht => ht
  | ask s _ layers _, ⟨hs, hgo, hend⟩ => ⟨h s layers hs, fun r hr => (hgo r hr).imp h, hend⟩

theorem Settles.bind {err' : β → Option ParseError} {next : α → Dialogue β}
    (hn : ∀ a, (next a).Follows A err' (err a)) :
    ∀ {t : Dialogue α}, t.Settles A err → (t.bind next).Settles A err'
  | done (.ok a), ht => by
    have ha := hn a
    rw [ht a rfl] at ha
    exact ha
  | done (.error f), _ => fun b hb => by cases hb
  | ask s c layers more, ⟨hs, hgo, hend⟩ => by
    refine ⟨hs, fun r hr => (hgo r hr).bind hn, fun r e he => ?_⟩
    obtain ⟨a, hmore, ha⟩ := hend r e he
    have hna := hn a
    rw [ha] at hna
    dsimp only
    rw [hmore]
    exact hna

theorem Settles.within {err' : β → Option ParseError} {layer : Layer} {f : α → β}
    {B : Site → List Layer → Prop} (hB : ∀ s layers, A s layers → B s (layers ++ [layer]))
    (hf : ∀ a, err' (f a) = (err a).map layer.apply) :
    ∀ {t : Dialogue α}, t.Settles A err → (t.within layer f).Settles B err'
  | done (.error _), _ => fun b hb => by cases hb
  | done (.ok a), ht => by
    rintro _ ⟨rfl⟩
    rw [hf, ht a rfl]
    rfl
  | ask s c layers next, ⟨hs, hgo, hend⟩ => by
    refine ⟨hB s layers hs, fun r hr => (hgo r hr).within hB hf, fun r e he => ?_⟩
    obtain ⟨a, hnext, ha⟩ := hend r e he
    refine ⟨f a, by dsimp only; rw [hnext]; rfl, ?_⟩
    rw [hf, ha, Layer.applyAll, Layer.applyAll, List.foldl_append]
    rfl

theorem Settles.forall_transcript {o : Oracle} : ∀ {t : Dialogue α}, t.Settles A err →
    ∀ x ∈ t.transcript o, A x.site x.layers
  | done _, _ => fun _ hx => absurd hx List.not_mem_nil
  | ask s c layers next, ⟨hs, hgo, hend⟩ => by
    intro x hx
    rcases hr : o s c with f | r
    · rw [transcript_ask_of_error _ _ hr, List.mem_singleton] at hx
      subst hx
      exact hs
    rw [transcript_ask_of_ok _ _ hr] at hx
    rcases List.mem_cons.1 hx with rfl | hx
    · exact hs
    rcases he : r.error? with _ | e
    · exact (hgo r he).forall_transcript x hx
    · obtain ⟨a, hdone, -⟩ := hend r e he
      rw [hdone] at hx
      exact absurd hx List.not_mem_nil

/-- An error is the last answer in the transcript, and the dialogue ends with its report. -/
theorem Settles.ends_at_error {o : Oracle} {x : Exchange} {post : List Exchange}
    {e : ParseError} (hx : x.error? = some e) : ∀ {t : Dialogue α} {pre : List Exchange},
    t.Settles A err → t.transcript o = pre ++ x :: post →
    post = [] ∧ ∃ a, t.answer o = .ok a ∧ err a = some (x.report e)
  | done _, pre, _, h => by simp [transcript] at h
  | ask s c layers next, pre, ⟨_, hgo, hend⟩, h => by
    rcases hr : o s c with f | r
    · rw [transcript_ask_of_error _ _ hr] at h
      have hmem : x ∈ pre ++ x :: post := by simp
      rw [← h, List.mem_singleton] at hmem
      subst hmem
      cases hx
    rw [transcript_ask_of_ok _ _ hr] at h
    rw [answer_ask_of_ok _ _ hr]
    rcases pre with _ | ⟨p, pre⟩
    · obtain ⟨rfl, hpost⟩ := List.cons.inj h
      obtain ⟨a, hdone, ha⟩ := hend r e hx
      rw [hdone] at hpost ⊢
      exact ⟨hpost.symm, a, rfl, ha⟩
    · obtain ⟨-, h⟩ := List.cons.inj h
      rcases he : r.error? with _ | e'
      · exact (hgo r he).ends_at_error hx h
      · obtain ⟨a, hdone, -⟩ := hend r e' he
        rw [hdone] at h
        simp [transcript] at h

/-- A dialogue that ends with an error ends so after an answer with an error, with its report. -/
theorem Settles.error_ends {o : Oracle} {a : α} {z : ParseError} (ha : err a = some z) :
    ∀ {t : Dialogue α}, t.Settles A err → t.answer o = .ok a →
    ∃ pre x e, t.transcript o = pre ++ [x] ∧ x.error? = some e ∧ z = x.report e
  | done x, ht, h => by
    rw [ht a h] at ha
    cases ha
  | ask s c layers next, ⟨_, hgo, hend⟩, h => by
    rcases hr : o s c with f | r
    · rw [answer_ask_of_error _ _ hr] at h
      cases h
    rw [answer_ask_of_ok _ _ hr] at h
    rw [transcript_ask_of_ok _ _ hr]
    rcases he : r.error? with _ | e
    · obtain ⟨pre, x, e, hpre, hx⟩ := (hgo r he).error_ends ha h
      exact ⟨_ :: pre, x, e, by rw [hpre, List.cons_append], hx⟩
    · obtain ⟨b, hdone, hb⟩ := hend r e he
      rw [hdone] at h ⊢
      cases h
      rw [ha] at hb
      exact ⟨[], _, e, rfl, he, Option.some.inj hb⟩

end Dialogue

end Backtrack
