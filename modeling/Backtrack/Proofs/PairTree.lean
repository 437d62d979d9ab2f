import Backtrack.Parser.Balanced

/-!
# The leaves of a balanced tree

Splitting a list into a tree keeps its order (`toList_balanced`), and the tree of positions has the
shape of every tree split from as many values, so the values found by their positions are the
leaves in order (`inOrder_eq_toList`).
-/

namespace Backtrack

namespace PairTree

variable {α β : Type}

def toList : PairTree α → List α
  | leaf a => [a]
  | node s t => s.toList ++ t.toList

def shape : PairTree α → PairTree Unit
  | leaf _ => leaf ()
  | node s t => node s.shape t.shape

def map (f : α → β) : PairTree α → PairTree β
  | leaf a => leaf (f a)
  | node s t => node (s.map f) (t.map f)

theorem length_toList_of_shape_eq : ∀ {s : PairTree α} {t : PairTree β}, s.shape = t.shape →
    s.toList.length = t.toList.length
  | leaf _, leaf _, _ => rfl
  | node s s', node t t', h => by
    simp only [shape, node.injEq] at h
    simp only [toList, List.length_append]
    rw [length_toList_of_shape_eq h.1, length_toList_of_shape_eq h.2]
  | leaf _, node _ _, h => by simp [shape] at h
  | node _ _, leaf _, h => by simp [shape] at h

/-- What the first half leaves of two or more values, its first one set apart. -/
theorem exists_drop_half (a b : α) (rest : List α) :
    ∃ m more, (a :: b :: rest).drop ((rest.length + 2) / 2) = m :: more
      ∧ more.length = rest.length + 1 - (rest.length + 2) / 2 := by
  rcases h : (a :: b :: rest).drop ((rest.length + 2) / 2) with _ | ⟨m, more⟩
  · have := List.drop_eq_nil_iff.1 h
    simp only [List.length_cons] at this
    omega
  · refine ⟨m, more, rfl, ?_⟩
    have := congrArg List.length h
    simp only [List.length_drop, List.length_cons] at this
    omega

theorem toList_splitTo : ∀ (depth : Nat) (a : α) (rest : List α), rest.length ≤ depth →
    (splitTo depth a rest).toList = a :: rest
  | 0, a, rest, h => by
    rw [List.length_eq_zero_iff.1 (Nat.le_zero.1 h)]
    rfl
  | _ + 1, a, [], _ => rfl
  | depth + 1, a, b :: rest, h => by
    obtain ⟨m, more, hm, hlen⟩ := exists_drop_half a b rest
    simp only [List.length_cons] at h
    have hleft := toList_splitTo depth a ((b :: rest).take ((rest.length + 2) / 2 - 1))
      (by simp only [List.length_take, List.length_cons]; omega)
    have hright := toList_splitTo depth m more (by omega)
    obtain ⟨k, hk⟩ : ∃ k, (rest.length + 2) / 2 = k + 1 := ⟨(rest.length + 2) / 2 - 1, by omega⟩
    simp only [splitTo, hm, toList, hleft, hright]
    rw [← hm, hk, Nat.add_sub_cancel, List.drop_succ_cons, List.cons_append,
      List.take_append_drop]

theorem exists_balanced_eq_node (a b : α) (rest : List α) :
    ∃ s t, balanced a (b :: rest) = node s t := by
  obtain ⟨m, more, hm, -⟩ := exists_drop_half a b rest
  rw [balanced, List.length_cons, splitTo, hm]
  exact ⟨_, _, rfl⟩

theorem toList_balanced (a : α) (rest : List α) : (balanced a rest).toList = a :: rest :=
  toList_splitTo rest.length a rest (Nat.le_refl _)

theorem map_splitTo (f : α → β) : ∀ (depth : Nat) (a : α) (rest : List α),
    (splitTo depth a rest).map f = splitTo depth (f a) (rest.map f)
  | 0, _, _ => rfl
  | _ + 1, _, [] => rfl
  | depth + 1, a, b :: rest => by
    obtain ⟨m, more, hm, -⟩ := exists_drop_half a b rest
    have hm' := congrArg (List.map f) hm
    rw [List.map_drop, List.map_cons, List.map_cons, List.map_cons] at hm'
    simp only [splitTo, hm, List.map_cons, List.length_map, hm', map, map_splitTo f depth,
      List.map_take]

theorem map_balanced (f : α → β) (a : α) (rest : List α) :
    (balanced a rest).map f = balanced (f a) (rest.map f) := by
  rw [balanced, map_splitTo, balanced, List.length_map]

theorem toList_positionsTo : ∀ (depth start more : Nat), more ≤ depth →
    (positionsTo depth start more).toList = List.range' start (more + 1)
  | 0, start, more, h => by
    rw [Nat.le_zero.1 h]
    rfl
  | _ + 1, _, 0, _ => rfl
  | depth + 1, start, more + 1, h => by
    have hleft := toList_positionsTo depth start ((more + 2) / 2 - 1) (by omega)
    have hright := toList_positionsTo depth (start + (more + 2) / 2)
      (more + 1 - (more + 2) / 2) (by omega)
    simp only [positionsTo, toList, hleft, hright]
    rw [show (more + 2) / 2 - 1 + 1 = (more + 2) / 2 by omega,
      show more + 1 - (more + 2) / 2 + 1 = more + 2 - (more + 2) / 2 by omega]
    rw [List.range'_append_1,
      show (more + 2) / 2 + (more + 2 - (more + 2) / 2) = more + 1 + 1 by omega]

theorem shape_splitTo : ∀ (depth start : Nat) (a : α) (rest : List α),
    (splitTo depth a rest).shape = (positionsTo depth start rest.length).shape
  | 0, _, _, _ => rfl
  | _ + 1, _, _, [] => rfl
  | depth + 1, start, a, b :: rest => by
    obtain ⟨m, more, hm, hlen⟩ := exists_drop_half a b rest
    have htake : ((b :: rest).take ((rest.length + 2) / 2 - 1)).length
        = (rest.length + 2) / 2 - 1 := by
      simp only [List.length_take, List.length_cons]
      omega
    simp only [splitTo, hm, List.length_cons, positionsTo, shape]
    rw [shape_splitTo depth start a, htake,
      shape_splitTo depth (start + (rest.length + 2) / 2) m, hlen]

theorem shape_balanced (a : α) (rest : List α) :
    (balanced a rest).shape = (positions rest.length).shape :=
  shape_splitTo rest.length 0 a rest

theorem assign_eq_zip : ∀ {p : PairTree Nat} {t : PairTree α}, p.shape = t.shape →
    p.assign t = p.toList.zip t.toList
  | leaf _, leaf _, _ => rfl
  | node p q, node s t, h => by
    simp only [shape, node.injEq] at h
    rw [assign, assign_eq_zip h.1, assign_eq_zip h.2, toList, toList,
      List.zip_append (length_toList_of_shape_eq h.1)]
  | leaf _, node _ _, h => by simp [shape] at h
  | node _ _, leaf _, h => by simp [shape] at h

theorem lookup_zip_range' : ∀ (l : List α) (start i : Nat),
    ((List.range' start l.length).zip l).lookup (start + i) = l[i]?
  | [], _, _ => by simp
  | a :: l, start, 0 => by simp [List.range'_succ]
  | a :: l, start, i + 1 => by
    have ih := lookup_zip_range' l (start + 1) i
    rw [Nat.add_right_comm] at ih
    have hne : (start + (i + 1) == start) = false := by simp
    rw [List.length_cons, List.range'_succ, List.zip_cons_cons, List.lookup_cons, hne]
    exact ih

theorem filterMap_getElem?_range : ∀ l : List α,
    ((List.range l.length).filterMap fun i => l[i]?) = l
  | [] => rfl
  | a :: l => by
    have ih := filterMap_getElem?_range l
    rw [List.length_cons, List.range_succ_eq_map, List.filterMap_cons, List.filterMap_map]
    simp only [List.getElem?_cons_zero, Function.comp_def, Nat.succ_eq_add_one,
      List.getElem?_cons_succ, ih]

/-- The values of a tree split as the positions are, found by position, are its leaves in order. -/
theorem inOrder_eq_toList {more : Nat} {t : PairTree α} (h : t.shape = (positions more).shape) :
    inOrder more t = t.toList := by
  have hpos : (positions more).toList = List.range' 0 (more + 1) :=
    toList_positionsTo more 0 more (Nat.le_refl _)
  have hlen : t.toList.length = more + 1 := by
    rw [length_toList_of_shape_eq h, hpos, List.length_range']
  have hlookup : ∀ i, ((positions more).assign t).lookup i = t.toList[i]? := by
    intro i
    rw [assign_eq_zip h.symm, hpos, ← hlen]
    simpa using lookup_zip_range' t.toList 0 i
  rw [inOrder, ← hlen]
  simp only [hlookup]
  exact filterMap_getElem?_range t.toList

end PairTree

end Backtrack
