import Backtrack.Text.Boundary

/-!
# Parsing expressions

Parsing expressions over classes of characters and without nonterminals, and the relation that says
what each of them makes of a text: it consumes a first part of the text, or it fails. The relation
is a function (`Peg.Derives.deterministic`).
-/

namespace Backtrack

inductive Peg where
  /-- Consumes nothing. -/
  | empty
  /-- Consumes a character of a class. -/
  | one (accept : Char → Bool)
  | seq (p q : Peg)
  /-- The second expression where the first one fails. -/
  | choice (p q : Peg)
  /-- As many times as the expression does not fail. -/
  | star (p : Peg)
  /-- Consumes nothing where the expression fails. -/
  | not (p : Peg)

namespace Peg

def fail : Peg := not empty

def optional (p : Peg) : Peg := choice p empty

/-- The expression once, and as many times more as it does not fail. -/
def plus (p : Peg) : Peg := seq p (star p)

/-- Consumes nothing where the expression does not fail. -/
def peek (p : Peg) : Peg := not (not p)

def row : List Peg → Peg
  | [] => empty
  | p :: ps => seq p (row ps)

/-- The first of some expressions that does not fail. -/
def first : List Peg → Peg
  | [] => fail
  | p :: ps => choice p (first ps)

def text (t : Text) : Peg := row (t.map fun c => one (· == c))

/-- The expression consumes the first part `a` of the text if the outcome is `some a`, and fails on
the text if it is `none`. -/
inductive Derives : Peg → Text → Option Text → Prop where
  | empty {t : Text} : Derives empty t (some [])
  | one {accept : Char → Bool} {c : Char} {t : Text} : accept c = true →
    Derives (one accept) (c :: t) (some [c])
  | one_other {accept : Char → Bool} {c : Char} {t : Text} : accept c = false →
    Derives (one accept) (c :: t) none
  | one_end {accept : Char → Bool} : Derives (one accept) [] none
  | seq {p q : Peg} {t a u b : Text} : t = a ++ u → Derives p t (some a) → Derives q u (some b) →
    Derives (seq p q) t (some (a ++ b))
  | seq_left {p q : Peg} {t : Text} : Derives p t none → Derives (seq p q) t none
  | seq_right {p q : Peg} {t a u : Text} : t = a ++ u → Derives p t (some a) → Derives q u none →
    Derives (seq p q) t none
  | choice_left {p q : Peg} {t a : Text} : Derives p t (some a) → Derives (choice p q) t (some a)
  | choice_right {p q : Peg} {t : Text} {o : Option Text} : Derives p t none → Derives q t o →
    Derives (choice p q) t o
  | star_done {p : Peg} {t : Text} : Derives p t none → Derives (star p) t (some [])
  | star_more {p : Peg} {t a u b : Text} : t = a ++ u → Derives p t (some a) →
    Derives (star p) u (some b) → Derives (star p) t (some (a ++ b))
  | not_match {p : Peg} {t a : Text} : Derives p t (some a) → Derives (not p) t none
  | not_miss {p : Peg} {t : Text} : Derives p t none → Derives (not p) t (some [])

namespace Derives

theorem deterministic {p : Peg} {t : Text} {o o' : Option Text} (h : Derives p t o)
    (h' : Derives p t o') : o = o' := by
  induction h generalizing o' with
  | empty =>
    cases h'
    rfl
  | one ha =>
    cases h' with
    | one => rfl
    | one_other ha' => rw [ha] at ha'; cases ha'
  | one_other ha =>
    cases h' with
    | one ha' => rw [ha] at ha'; cases ha'
    | one_other => rfl
  | one_end =>
    cases h'
    rfl
  | seq ht _ _ ihp ihq =>
    cases h' with
    | seq ht' hp' hq' =>
      cases ihp hp'
      rw [ht] at ht'
      obtain rfl := List.append_cancel_left ht'
      cases ihq hq'
      rfl
    | seq_left hp' => cases ihp hp'
    | seq_right ht' hp' hq' =>
      cases ihp hp'
      rw [ht] at ht'
      obtain rfl := List.append_cancel_left ht'
      cases ihq hq'
  | seq_left _ ihp =>
    cases h' with
    | seq _ hp' _ => cases ihp hp'
    | seq_left => rfl
    | seq_right => rfl
  | seq_right ht _ _ ihp ihq =>
    cases h' with
    | seq ht' hp' hq' =>
      cases ihp hp'
      rw [ht] at ht'
      obtain rfl := List.append_cancel_left ht'
      cases ihq hq'
    | seq_left => rfl
    | seq_right => rfl
  | choice_left _ ihp =>
    cases h' with
    | choice_left hp' => exact ihp hp'
    | choice_right hp' _ => cases ihp hp'
  | choice_right _ _ ihp ihq =>
    cases h' with
    | choice_left hp' => cases ihp hp'
    | choice_right _ hq' => exact ihq hq'
  | star_done _ ihp =>
    cases h' with
    | star_done => rfl
    | star_more _ hp' _ => cases ihp hp'
  | star_more ht _ _ ihp ihq =>
    cases h' with
    | star_done hp' => cases ihp hp'
    | star_more ht' hp' hq' =>
      cases ihp hp'
      rw [ht] at ht'
      obtain rfl := List.append_cancel_left ht'
      cases ihq hq'
      rfl
  | not_match _ ihp =>
    cases h' with
    | not_match => rfl
    | not_miss hp' => cases ihp hp'
  | not_miss _ ihp =>
    cases h' with
    | not_match hp' => cases ihp hp'
    | not_miss => rfl

theorem star_of_plus {p : Peg} {t a : Text} (h : Derives (plus p) t (some a)) :
    Derives (star p) t (some a) := by
  cases h with
  | seq ht hp hq => exact .star_more ht hp hq

/-- A text is consumed where it stands in front. -/
theorem text : ∀ (t rest : Text), Derives (Peg.text t) (t ++ rest) (some t)
  | [], _ => .empty
  | c :: t, rest => .seq (a := [c]) rfl (.one (by simp)) (text t rest)

/-- A text fails where it does not stand in front. -/
theorem text_none : ∀ {t rest : Text}, (∀ b, rest ≠ t ++ b) → Derives (Peg.text t) rest none
  | [], rest, h => absurd rfl (h rest)
  | c :: t, [], _ => .seq_left .one_end
  | c :: t, d :: rest, h => by
    by_cases hd : d = c
    · subst hd
      refine .seq_right (a := [d]) rfl (.one (by simp)) (text_none fun b hb => h b ?_)
      rw [hb]
      rfl
    · exact .seq_left (.one_other (by simpa using hd))

end Derives

end Peg

end Backtrack
