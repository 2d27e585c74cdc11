/-
CloudPortal/Lib/Merge.lean

Appending what is new: `appendNew xs ys` goes through `ys` from left to right and
appends each element that is not there yet, so elements keep the order in which
they were first seen.  Where nothing is there twice it is concatenation.
-/
import Mathlib.Data.List.Nodup

namespace Merge

variable {α : Type*} [DecidableEq α]

/-- Append the elements of the second list that are not there yet. -/
def appendNew (xs ys : List α) : List α :=
  ys.foldl (fun seen y => if y ∈ seen then seen else seen ++ [y]) xs

@[simp] theorem appendNew_nil (xs : List α) : appendNew xs [] = xs := rfl

theorem appendNew_cons (xs : List α) (y : α) (ys : List α) :
    appendNew xs (y :: ys) = appendNew (if y ∈ xs then xs else xs ++ [y]) ys := rfl

theorem mem_appendNew {x : α} {xs ys : List α} : x ∈ appendNew xs ys ↔ x ∈ xs ∨ x ∈ ys := by
  induction ys generalizing xs with
  | nil => simp
  | cons y ys ih =>
    rw [appendNew_cons, ih]
    split
    · next hy =>
      constructor
      · rintro (h | h)
        · exact .inl h
        · exact .inr (List.mem_cons_of_mem y h)
      rintro (h | h)
      · exact .inl h
      rcases List.mem_cons.1 h with rfl | h
      · exact .inl hy
      · exact .inr h
    · simp only [List.mem_append, List.mem_cons, List.not_mem_nil, or_false, or_assoc]

@[simp] theorem appendNew_eq_nil {xs ys : List α} : appendNew xs ys = [] ↔ xs = [] ∧ ys = [] := by
  simp only [List.eq_nil_iff_forall_not_mem, mem_appendNew, not_or, forall_and]

/-- New elements without repetition are appended as they are. -/
theorem appendNew_of_disjoint {xs ys : List α} (hys : ys.Nodup) (hxs : ∀ y ∈ ys, y ∉ xs) :
    appendNew xs ys = xs ++ ys := by
  induction ys generalizing xs with
  | nil => simp
  | cons y ys ih =>
    obtain ⟨hy, hys⟩ := List.nodup_cons.1 hys
    rw [appendNew_cons, if_neg (hxs y List.mem_cons_self), ih hys]
    · rw [List.append_assoc, List.singleton_append]
    intro z hz hm
    rcases List.mem_append.1 hm with h | h
    · exact hxs z (List.mem_cons_of_mem y hz) h
    rw [List.mem_singleton.1 h] at hz
    exact hy hz

end Merge
