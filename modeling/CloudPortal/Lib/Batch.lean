/-
CloudPortal/Lib/Batch.lean

Batches: the first `n` elements of a list in the order of a relation, what a query with
`ORDER BY` and `LIMIT` returns.  An element is in the batch if and only if fewer than `n` others
come before it.
A sort by insertion is stable: leaving elements out before or after it is the same.
-/
import Mathlib.Data.List.Sort

namespace Batch

variable {α : Type*} (r : α → α → Prop) [DecidableRel r] {l : List α} {n : ℕ} {x : α}

/-- The first `n` elements in the order of `r`. -/
def first (n : ℕ) (l : List α) : List α := (l.insertionSort r).take n

/-- The elements that come before `x`. -/
def ahead [DecidableEq α] (l : List α) (x : α) : List α := l.filter fun y => r y x ∧ y ≠ x

theorem mem_of_mem_first (h : x ∈ first r n l) : x ∈ l :=
  (List.mem_insertionSort r).1 (List.mem_of_mem_take h)

theorem pairwise_first [Std.Total r] [IsTrans α r] (n : ℕ) (l : List α) :
    (first r n l).Pairwise r :=
  (List.pairwise_insertionSort r l).sublist (List.take_sublist n _)

/-- What comes before an element of a batch is in the batch. -/
theorem mem_first_of_rel [Std.Total r] [IsTrans α r] {y : α} (hx : x ∈ l)
    (hy : y ∈ first r n l) (hb : r y x → x = y) : x ∈ first r n l := by
  have hm : x ∈ (l.insertionSort r).take n ++ (l.insertionSort r).drop n := by
    rw [List.take_append_drop]
    exact (List.mem_insertionSort r).2 hx
  have hsorted : ((l.insertionSort r).take n ++ (l.insertionSort r).drop n).Pairwise r := by
    rw [List.take_append_drop]
    exact List.pairwise_insertionSort r l
  rcases List.mem_append.1 hm with ht | hdrop
  · exact ht
  rw [hb ((List.pairwise_append.1 hsorted).2.2 y hy x hdrop)]
  exact hy

theorem mem_first [DecidableEq α] [Std.Total r] [IsTrans α r]
    (hnodup : l.Nodup) (hx : x ∈ l) (hfew : (ahead r l x).length < n) : x ∈ first r n l := by
  have hp : (l.insertionSort r).Perm l := List.perm_insertionSort r l
  have hsplit : (l.insertionSort r).take n ++ (l.insertionSort r).drop n = l.insertionSort r :=
    List.take_append_drop n _
  have hm : x ∈ (l.insertionSort r).take n ++ (l.insertionSort r).drop n := by
    rw [hsplit]
    exact hp.mem_iff.2 hx
  rcases List.mem_append.1 hm with ht | hdrop
  · exact ht
  -- otherwise the whole batch comes before it
  exfalso
  have hsorted : ((l.insertionSort r).take n ++ (l.insertionSort r).drop n).Pairwise r := by
    rw [hsplit]
    exact List.pairwise_insertionSort r l
  have hdistinct : ((l.insertionSort r).take n ++ (l.insertionSort r).drop n).Nodup := by
    rw [hsplit]
    exact hp.nodup_iff.2 hnodup
  have ha : ∀ y ∈ (l.insertionSort r).take n, decide (r y x ∧ y ≠ x) = true := by
    intro y hy
    refine decide_eq_true ⟨(List.pairwise_append.1 hsorted).2.2 y hy x hdrop, ?_⟩
    exact (List.nodup_append.1 hdistinct).2.2 y hy x hdrop
  have hlength : ((l.insertionSort r).take n).length = n := by
    rw [List.length_take]
    have hpos := List.length_pos_of_mem hdrop
    rw [List.length_drop] at hpos
    omega
  have hle : n ≤ (ahead r l x).length := by
    calc n = (((l.insertionSort r).take n).filter fun y => r y x ∧ y ≠ x).length := by
          rw [List.filter_eq_self.2 ha, hlength]
      _ ≤ ((l.insertionSort r).filter fun y => r y x ∧ y ≠ x).length :=
          ((List.take_sublist n _).filter _).length_le
      _ = (ahead r l x).length := (hp.filter _).length_eq
  exact absurd hfew (Nat.not_lt.2 hle)

/-- Fewer than `n` others come before an element of the batch. -/
theorem length_ahead_lt [DecidableEq α] [Std.Total r] [IsTrans α r] [Std.Antisymm r]
    (h : x ∈ first r n l) : (ahead r l x).length < n := by
  obtain ⟨before, after, hsplit⟩ := List.append_of_mem h
  have hsorted : (before ++ x :: (after ++ (l.insertionSort r).drop n)).Pairwise r := by
    rw [← List.cons_append, ← List.append_assoc, ← hsplit, first, List.take_append_drop]
    exact List.pairwise_insertionSort r l
  -- what comes behind `x` in the order is not before it
  have hrest : ((x :: (after ++ (l.insertionSort r).drop n)).filter fun y => r y x ∧ y ≠ x) = [] := by
    rw [List.filter_eq_nil_iff]
    intro y hy hb
    obtain ⟨hyx, hne⟩ := of_decide_eq_true hb
    rcases List.mem_cons.1 hy with rfl | hy
    · exact hne rfl
    · have hxy := (List.pairwise_cons.1 (List.pairwise_append.1 hsorted).2.1).1 y hy
      exact hne (Std.Antisymm.antisymm y x hyx hxy)
  have hlength : before.length < n := by
    have hle : (first r n l).length ≤ n := List.length_take_le n _
    rw [hsplit, List.length_append, List.length_cons] at hle
    omega
  calc (ahead r l x).length = ((l.insertionSort r).filter fun y => r y x ∧ y ≠ x).length :=
        ((List.perm_insertionSort r l).symm.filter _).length_eq
    _ = (before.filter fun y => r y x ∧ y ≠ x).length := by
        rw [← List.take_append_drop n (l.insertionSort r), ← first, hsplit, List.append_assoc,
          List.cons_append, List.filter_append, hrest, List.append_nil]
    _ < n := (List.length_filter_le ..).trans_lt hlength

/-! ### Stability -/

theorem filter_orderedInsert [IsTrans α r] (p : α → Bool) (x : α) (hl : l.Pairwise r) :
    (l.orderedInsert r x).filter p
      = if p x then (l.filter p).orderedInsert r x else l.filter p := by
  induction l with
  | nil => by_cases hx : p x <;> simp [hx]
  | cons y l ih =>
    obtain ⟨hy, hl⟩ := List.pairwise_cons.1 hl
    by_cases hxy : r x y
    · -- what the filter leaves of the list comes after `x` as well
      have hafter : ∀ z ∈ (y :: l).filter p, r x z := by
        intro z hz
        rcases List.mem_cons.1 (List.mem_of_mem_filter hz) with rfl | hz
        · exact hxy
        · exact IsTrans.trans x y z hxy (hy z hz)
      rw [List.orderedInsert_cons_of_le r l hxy, List.filter_cons]
      split
      · rcases hr : (y :: l).filter p with - | ⟨z, rest⟩
        · rfl
        rw [hr] at hafter
        rw [List.orderedInsert_cons_of_le r rest (hafter z List.mem_cons_self)]
      · rfl
    · rw [List.orderedInsert_of_not_le r l hxy, List.filter_cons, List.filter_cons, ih hl]
      by_cases hpx : p x <;> by_cases hpy : p y <;>
        simp [hpx, hpy, List.orderedInsert_of_not_le r _ hxy]

/-- Leaving elements out commutes with sorting. -/
theorem filter_insertionSort [Std.Total r] [IsTrans α r] (p : α → Bool) (l : List α) :
    (l.insertionSort r).filter p = (l.filter p).insertionSort r := by
  induction l with
  | nil => rfl
  | cons x l ih =>
    rw [List.insertionSort_cons, filter_orderedInsert r p x (List.pairwise_insertionSort r l), ih,
      List.filter_cons]
    split
    · rfl
    · rfl

/-- Where only equal elements are in both orders, permutations are sorted alike. -/
theorem insertionSort_eq_of_perm [Std.Total r] [IsTrans α r] {l' : List α}
    (hantisymm : ∀ x ∈ l, ∀ y ∈ l, r x y → r y x → x = y) (hp : l.Perm l') :
    l.insertionSort r = l'.insertionSort r := by
  have hsorted : (l.insertionSort r).Perm (l'.insertionSort r) :=
    (List.perm_insertionSort r l).trans (hp.trans (List.perm_insertionSort r l').symm)
  refine hsorted.eq_of_pairwise (fun x y hx hy => ?_) (List.pairwise_insertionSort r l)
    (List.pairwise_insertionSort r l')
  exact hantisymm x ((List.mem_insertionSort r).1 hx) y (hp.mem_iff.2 ((List.mem_insertionSort r).1 hy))

end Batch
