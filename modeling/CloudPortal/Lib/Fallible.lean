/-
CloudPortal/Lib/Fallible.lean

Loops whose body can raise.  `List.mapM` collects the results of a loop, `List.foldlM` passes a
state on.  A loop that came to its end did so for every element, so its elements may be
taken in another order (`mapM_perm`), left out (`mapM_filter`) or replaced by a body that
gives the same view of each result (`mapM_view`).

`foldlM_filter` is the simulation rule for folds in which elements are left out: those that
stay keep a relation of the two states in step, the others keep it on their side alone.
-/
import CloudPortal.Lib.Transition
import Mathlib.Data.List.Perm.Basic

namespace Fallible

open Transition

variable {α : Type*} {ε : Type*} {β γ S T : Type}

/-! ### Collecting -/

section Collect

variable {f g : α → Except ε β} {xs : List α} {ys : List β} {x : α} {p : α → Bool}

theorem mapM_cons_eq_ok :
    (x :: xs).mapM f = .ok ys ↔ ∃ y ys', f x = .ok y ∧ xs.mapM f = .ok ys' ∧ ys = y :: ys' := by
  rw [List.mapM_cons]
  constructor
  · intro h
    obtain ⟨y, hy, h⟩ := bind_eq_ok.1 h
    obtain ⟨ys', hys', h⟩ := bind_eq_ok.1 h
    exact ⟨y, ys', hy, hys', (Except.ok.inj h).symm⟩
  · rintro ⟨y, ys', hy, hys', rfl⟩
    exact bind_eq_ok.2 ⟨y, hy, bind_eq_ok.2 ⟨ys', hys', rfl⟩⟩

theorem mem_of_mapM (h : xs.mapM f = .ok ys) {y : β} (hy : y ∈ ys) : ∃ x ∈ xs, f x = .ok y := by
  induction xs generalizing ys with
  | nil =>
    cases h
    cases hy
  | cons x xs ih =>
    obtain ⟨z, zs, hz, hzs, rfl⟩ := mapM_cons_eq_ok.1 h
    rcases List.mem_cons.1 hy with rfl | hy
    · exact ⟨x, List.mem_cons_self, hz⟩
    obtain ⟨x', hx', hf⟩ := ih hzs hy
    exact ⟨x', List.mem_cons_of_mem x hx', hf⟩

theorem ok_of_mem_mapM (h : xs.mapM f = .ok ys) (hx : x ∈ xs) : ∃ y ∈ ys, f x = .ok y := by
  induction xs generalizing ys with
  | nil => cases hx
  | cons z zs ih =>
    obtain ⟨w, ws, hw, hws, rfl⟩ := mapM_cons_eq_ok.1 h
    rcases List.mem_cons.1 hx with rfl | hx
    · exact ⟨w, List.mem_cons_self, hw⟩
    obtain ⟨y, hy, hf⟩ := ih hws hx
    exact ⟨y, List.mem_cons_of_mem w hy, hf⟩

/-- A loop comes to its end if every round does. -/
theorem exists_mapM (h : ∀ x ∈ xs, ∃ y, f x = .ok y) : ∃ ys, xs.mapM f = .ok ys := by
  induction xs with
  | nil => exact ⟨[], rfl⟩
  | cons x xs ih =>
    obtain ⟨y, hy⟩ := h x List.mem_cons_self
    obtain ⟨ys, hys⟩ := ih fun x' hx' => h x' (List.mem_cons_of_mem x hx')
    exact ⟨y :: ys, mapM_cons_eq_ok.2 ⟨y, ys, hy, hys, rfl⟩⟩

/-- A loop for its effects comes to its end only if every round does. -/
theorem ok_of_mem_forM {f : α → Except ε Unit} (h : xs.forM f = .ok ()) (hx : x ∈ xs) :
    f x = .ok () := by
  induction xs with
  | nil => cases hx
  | cons y ys ih =>
    rw [List.forM_eq_forM, List.forM_cons] at h
    obtain ⟨⟨⟩, hy, hys⟩ := bind_eq_ok.1 h
    rcases List.mem_cons.1 hx with rfl | hx
    · exact hy
    · exact ih hys hx

/-- Results that remember their elements. -/
theorem mapM_map {back : β → α} (hb : ∀ x y, f x = .ok y → back y = x) (h : xs.mapM f = .ok ys) :
    ys.map back = xs := by
  induction xs generalizing ys with
  | nil =>
    cases h
    rfl
  | cons x xs ih =>
    obtain ⟨y, ys, hy, hys, rfl⟩ := mapM_cons_eq_ok.1 h
    rw [List.map_cons, hb x y hy, ih hys]

/-- Another order of the elements gives the results in another order. -/
theorem mapM_perm {xs' : List α} (hp : xs.Perm xs') (h : xs.mapM f = .ok ys) :
    ∃ ys', xs'.mapM f = .ok ys' ∧ ys.Perm ys' := by
  induction hp generalizing ys with
  | nil => exact ⟨ys, h, .refl ys⟩
  | cons x _ ih =>
    obtain ⟨y, ys, hy, hys, rfl⟩ := mapM_cons_eq_ok.1 h
    obtain ⟨ys', hys', hp⟩ := ih hys
    exact ⟨y :: ys', mapM_cons_eq_ok.2 ⟨y, ys', hy, hys', rfl⟩, hp.cons y⟩
  | swap x x' xs =>
    obtain ⟨y', tail, hy', htail, rfl⟩ := mapM_cons_eq_ok.1 h
    obtain ⟨y, zs, hy, hzs, rfl⟩ := mapM_cons_eq_ok.1 htail
    exact ⟨y :: y' :: zs, mapM_cons_eq_ok.2
      ⟨y, y' :: zs, hy, mapM_cons_eq_ok.2 ⟨y', zs, hy', hzs, rfl⟩, rfl⟩, .swap y y' zs⟩
  | trans _ _ ih ih' =>
    obtain ⟨zs, hzs, hp⟩ := ih h
    obtain ⟨ys', hys', hp'⟩ := ih' hzs
    exact ⟨ys', hys', hp.trans hp'⟩

/-- Elements that are left out leave out their results. -/
theorem mapM_filter {q : β → Bool} (hpq : ∀ x y, f x = .ok y → q y = p x)
    (h : xs.mapM f = .ok ys) : (xs.filter p).mapM f = .ok (ys.filter q) := by
  induction xs generalizing ys with
  | nil =>
    cases h
    rfl
  | cons x xs ih =>
    obtain ⟨y, ys, hy, hys, rfl⟩ := mapM_cons_eq_ok.1 h
    rw [List.filter_cons, List.filter_cons, hpq x y hy]
    split
    · exact mapM_cons_eq_ok.2 ⟨y, ys.filter q, hy, ih hys, rfl⟩
    · exact ih hys

/-- Rounds that leave nothing behind may be left out. -/
theorem mapM_filterMap {q : β → Option γ}
    (h : ∀ x ∈ xs, p x = false → ∃ y, f x = .ok y ∧ q y = none) :
    (xs.mapM f).map (List.filterMap q) = ((xs.filter p).mapM f).map (List.filterMap q) := by
  induction xs with
  | nil => rfl
  | cons x xs ih =>
    have ih := ih fun x hx => h x (List.mem_cons_of_mem _ hx)
    have hr (y : β) : ((xs.mapM f).map (y :: ·)).map (List.filterMap q)
        = (((xs.filter p).mapM f).map (y :: ·)).map (List.filterMap q) := by
      cases hx : xs.mapM f <;> cases hx' : (xs.filter p).mapM f <;>
        simp_all [Except.map, List.filterMap_cons]
    cases hp : p x with
    | true =>
      rw [List.filter_cons_of_pos hp, List.mapM_cons, List.mapM_cons]
      cases f x with
      | error e => rfl
      | ok y => exact hr y
    | false =>
      obtain ⟨y, hy, hq⟩ := h x List.mem_cons_self hp
      rw [List.filter_cons_of_neg (by simp [hp]), ← ih, List.mapM_cons, hy]
      cases xs.mapM f with
      | error e => rfl
      | ok ys => exact congrArg Except.ok (List.filterMap_cons_none hq)

/-- Two computations with the same view of their results go on in the same way if their bodies
look at the view alone. -/
theorem bind_view {v : β → γ} {w : S → T} {x x' : Except ε β} {g g' : β → Except ε S}
    (hx : x.map v = x'.map v)
    (hg : ∀ y y', x = .ok y → x' = .ok y' → v y = v y' → (g y).map w = (g' y').map w) :
    (x >>= g).map w = (x' >>= g').map w := by
  cases x with
  | error e =>
    cases x' with
    | error e' =>
      cases hx
      rfl
    | ok y' => cases hx
  | ok y =>
    cases x' with
    | error e' => cases hx
    | ok y' => exact hg y y' rfl rfl (Except.ok.inj hx)

/-- Bodies with the same view of each result. -/
theorem mapM_view {view : β → γ} (hview : ∀ x ∈ xs, (f x).map view = (g x).map view)
    (h : xs.mapM f = .ok ys) : ∃ ys', xs.mapM g = .ok ys' ∧ ys.map view = ys'.map view := by
  induction xs generalizing ys with
  | nil =>
    cases h
    exact ⟨[], rfl, rfl⟩
  | cons x xs ih =>
    obtain ⟨y, ys, hy, hys, rfl⟩ := mapM_cons_eq_ok.1 h
    obtain ⟨ys', hys', hs⟩ := ih (fun x hx => hview x (List.mem_cons_of_mem _ hx)) hys
    have hx := hview x List.mem_cons_self
    rw [hy] at hx
    cases hg : g x with
    | error e =>
      rw [hg] at hx
      cases hx
    | ok y' =>
      rw [hg] at hx
      refine ⟨y' :: ys', mapM_cons_eq_ok.2 ⟨y', ys', hg, hys', rfl⟩, ?_⟩
      rw [List.map_cons, List.map_cons, hs, Except.ok.inj hx]

end Collect

/-! ### Passing a state on -/

section Fold

variable {f : S → α → Except ε S} {s t : S} {xs : List α}

theorem foldlM_cons_eq_ok {x : α} :
    (x :: xs).foldlM f s = .ok t ↔ ∃ m, f s x = .ok m ∧ xs.foldlM f m = .ok t := by
  rw [List.foldlM_cons]
  exact bind_eq_ok

/-- What every round keeps. -/
theorem foldlM_invariant {P : S → Prop} (hstep : ∀ s x s', x ∈ xs → P s → f s x = .ok s' → P s')
    (hs : P s) (h : xs.foldlM f s = .ok t) : P t := by
  induction xs generalizing s with
  | nil =>
    cases h
    exact hs
  | cons x xs ih =>
    obtain ⟨m, hm, h⟩ := foldlM_cons_eq_ok.1 h
    exact ih (fun s y s' hy => hstep s y s' (List.mem_cons_of_mem x hy))
      (hstep s x m List.mem_cons_self hs hm) h

/-- A fold and the fold without some of its elements. -/
theorem foldlM_filter {R : S → S → Prop} {p : α → Bool}
    (hk : ∀ s t x s', x ∈ xs → p x = true → R s t → f s x = .ok s' → ∃ t', f t x = .ok t' ∧ R s' t')
    (hleft : ∀ s t x s', x ∈ xs → p x = false → R s t → f s x = .ok s' → R s' t) {s' : S}
    (hR : R s t) (h : xs.foldlM f s = .ok s') :
    ∃ t', (xs.filter p).foldlM f t = .ok t' ∧ R s' t' := by
  induction xs generalizing s t with
  | nil =>
    cases h
    exact ⟨t, rfl, hR⟩
  | cons x xs ih =>
    obtain ⟨m, hm, h⟩ := foldlM_cons_eq_ok.1 h
    have hk' := fun s t y s' (hy : y ∈ xs) => hk s t y s' (List.mem_cons_of_mem x hy)
    have hleft' := fun s t y s' (hy : y ∈ xs) => hleft s t y s' (List.mem_cons_of_mem x hy)
    cases hp : p x with
    | true =>
      obtain ⟨n, hn, hR⟩ := hk s t x m List.mem_cons_self hp hR hm
      obtain ⟨t', ht', hR⟩ := ih hk' hleft' hR h
      rw [List.filter_cons_of_pos hp]
      exact ⟨t', foldlM_cons_eq_ok.2 ⟨n, hn, ht'⟩, hR⟩
    | false =>
      rw [List.filter_cons_of_neg (by rw [hp]; exact Bool.false_ne_true)]
      exact ih hk' hleft' (hleft s t x m List.mem_cons_self hp hR hm) h

end Fold

end Fallible
