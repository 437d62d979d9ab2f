import Backtrack.Parser.Basic

/-!
# Families of parsers

A family has a number of members and runs the one of a given index; an index out of range misses.
Lists, arrays, vectors and tuples of parsers are families, each with the parsers put in as its
members.
-/

namespace Backtrack

/-- A number of parsers of one type, addressed by index. -/
structure Family (α : Type) where
  count : Nat
  nth : Nat → Parser α

namespace Family

variable {α : Type}

/-- The members of a list. -/
def ofList (ps : List (Parser α)) : Family α where
  count := ps.length
  nth i := ps[i]?.getD Parser.miss

/-- The members of an array. -/
def ofArray (ps : Array (Parser α)) : Family α where
  count := ps.size
  nth i := ps[i]?.getD Parser.miss

/-- The members of a vector. -/
def ofVector {n : Nat} (ps : Vector (Parser α) n) : Family α where
  count := n
  nth i := ps[i]?.getD Parser.miss

/-- No member. -/
def empty : Family α where
  count := 0
  nth _ := Parser.miss

/-- One more member, in front. -/
def cons (p : Parser α) (f : Family α) : Family α where
  count := f.count + 1
  nth
    | 0 => p
    | i + 1 => f.nth i

/-- The members of a tuple, given in order. -/
def tuple (ps : List (Parser α)) : Family α := ps.foldr cons empty

/-- The members in order. -/
def members (f : Family α) : List (Parser α) := (List.range f.count).map f.nth

private theorem map_range_getD (ps : List (Parser α)) :
    (List.range ps.length).map (fun i => ps[i]?.getD Parser.miss) = ps := by
  apply List.ext_getElem (by simp)
  intro i h _
  simp only [List.length_map, List.length_range] at h
  simp [h]

theorem members_ofList (ps : List (Parser α)) : (ofList ps).members = ps := map_range_getD ps

theorem members_ofArray (ps : Array (Parser α)) : (ofArray ps).members = ps.toList := by
  rw [← map_range_getD ps.toList]
  simp [members, ofArray]

theorem members_ofVector {n : Nat} (ps : Vector (Parser α) n) :
    (ofVector ps).members = ps.toList := by
  rw [← map_range_getD ps.toList]
  simp [members, ofVector]

theorem members_cons (p : Parser α) (f : Family α) : (cons p f).members = p :: f.members := by
  simp only [members, cons, List.range_succ_eq_map, List.map_cons, List.map_map]
  rfl

theorem members_tuple : ∀ ps : List (Parser α), (tuple ps).members = ps
  | [] => rfl
  | p :: ps => by
    rw [tuple, List.foldr_cons, members_cons]
    exact congrArg _ (members_tuple ps)

theorem nth_tuple : ∀ (ps : List (Parser α)) (i : Nat), (tuple ps).nth i = ps[i]?.getD Parser.miss
  | [], _ => rfl
  | _ :: _, 0 => rfl
  | _ :: ps, i + 1 => nth_tuple ps i

theorem count_tuple : ∀ ps : List (Parser α), (tuple ps).count = ps.length
  | [] => rfl
  | _ :: ps => congrArg (· + 1) (count_tuple ps)

end Family

end Backtrack
