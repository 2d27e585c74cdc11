/-
CloudPortal/Lib/Table.lean

Keyed tables: a finite list of rows whose keys are pairwise distinct.  The row
order is the insertion order, an update keeps the position of its row, so a
query "in creation order" reads the rows from left to right.  The uniqueness of
the keys is a field of the structure, so a table that violates its primary key
cannot be built.

Besides the lookup equations the file gives the accounting rule used for every
stored total: writing a row changes a sum over the table by the difference of
the row's old and new contribution (`sum_put`, `sum_erase`).
-/
import Mathlib.Data.List.Nodup
import Mathlib.Tactic.Abel
import Mathlib.Tactic.Linarith
import Mathlib.Algebra.Order.BigOperators.Group.List

namespace RowStore

variable {K V M : Type*}

/-- A table with primary key `K` and row data `V`. -/
structure Table (K V : Type*) where
  rows : List (K × V)
  nodup : (rows.map Prod.fst).Nodup

namespace Table

/-- The table without rows. -/
def empty : Table K V := ⟨[], List.nodup_nil⟩

variable [DecidableEq K]

/-- Look the row of a key up. -/
def findRow (k : K) : List (K × V) → Option V
  | [] => none
  | (k', v) :: rs => if k' = k then some v else findRow k rs

/-- Replace the row of a key in place, or append it. -/
def putRow (k : K) (v : V) : List (K × V) → List (K × V)
  | [] => [(k, v)]
  | (k', v') :: rs => if k' = k then (k, v) :: rs else (k', v') :: putRow k v rs

/-- Delete the row of a key. -/
def eraseRow (k : K) : List (K × V) → List (K × V)
  | [] => []
  | (k', v') :: rs => if k' = k then rs else (k', v') :: eraseRow k rs

variable {k k' : K} {v v' : V} {rs rows : List (K × V)} {t : Table K V} {p : K → V → Bool}

theorem mem_keys_putRow {k₀ : K} (h : k₀ ∈ (putRow k v rs).map Prod.fst) :
    k₀ = k ∨ k₀ ∈ rs.map Prod.fst := by
  induction rs with
  | nil => simpa [putRow] using h
  | cons r rs ih =>
    obtain ⟨k', v'⟩ := r
    by_cases hk : k' = k
    · simp only [putRow, hk, if_true, List.map_cons, List.mem_cons] at h ⊢
      exact h.imp_right Or.inr
    simp only [putRow, hk, if_false, List.map_cons, List.mem_cons] at h ⊢
    rcases h with h | h
    · exact Or.inr (Or.inl h)
    · exact (ih h).imp_right Or.inr

theorem nodup_putRow (k : K) (v : V) (h : (rs.map Prod.fst).Nodup) :
    ((putRow k v rs).map Prod.fst).Nodup := by
  induction rs with
  | nil => simp [putRow]
  | cons r rs ih =>
    obtain ⟨k', v'⟩ := r
    rw [List.map_cons, List.nodup_cons] at h
    by_cases hk : k' = k
    · subst hk
      simpa only [putRow, if_true, List.map_cons, List.nodup_cons] using h
    simp only [putRow, hk, if_false, List.map_cons, List.nodup_cons]
    refine ⟨fun hm => ?_, ih h.2⟩
    rcases mem_keys_putRow hm with he | hm
    · exact hk he
    · exact h.1 hm

theorem eraseRow_sublist (k : K) (rs : List (K × V)) : (eraseRow k rs).Sublist rs := by
  induction rs with
  | nil => exact List.Sublist.refl _
  | cons r rs ih =>
    obtain ⟨k', v'⟩ := r
    by_cases hk : k' = k
    · simp only [eraseRow, hk, if_true]
      exact List.sublist_cons_self _ _
    · simp only [eraseRow, hk, if_false]
      exact ih.cons_cons _

/-- The row stored under `k`, if there is one. -/
def find? (t : Table K V) (k : K) : Option V := findRow k t.rows

/-- Insert or update the row of `k`. -/
def put (t : Table K V) (k : K) (v : V) : Table K V :=
  ⟨putRow k v t.rows, nodup_putRow k v t.nodup⟩

/-- Delete the row of `k`. -/
def erase (t : Table K V) (k : K) : Table K V :=
  ⟨eraseRow k t.rows, ((eraseRow_sublist k t.rows).map Prod.fst).nodup t.nodup⟩

/-- The rows that satisfy a condition, in creation order. -/
def select (t : Table K V) (p : K → V → Bool) : List (K × V) := t.rows.filter fun r => p r.1 r.2

/-- The total of `f` over all rows. -/
def sum [AddCommMonoid M] (t : Table K V) (f : K → V → M) : M :=
  (t.rows.map fun r => f r.1 r.2).sum

/-- What the row of `k` contributes to `sum f`. -/
def term [AddCommMonoid M] (t : Table K V) (f : K → V → M) (k : K) : M :=
  (t.find? k).elim 0 (f k)

/-! ### Lookups -/

theorem findRow_eq_none_iff : findRow k rs = none ↔ k ∉ rs.map Prod.fst := by
  induction rs with
  | nil => simp [findRow]
  | cons r rs ih =>
    obtain ⟨k', v'⟩ := r
    by_cases hk : k' = k
    · simp [findRow, hk]
    · simp [findRow, hk, ih, Ne.symm hk]

theorem findRow_eq_some_iff (h : (rs.map Prod.fst).Nodup) :
    findRow k rs = some v ↔ (k, v) ∈ rs := by
  induction rs with
  | nil => simp [findRow]
  | cons r rs ih =>
    obtain ⟨k', v'⟩ := r
    rw [List.map_cons, List.nodup_cons] at h
    by_cases hk : k' = k
    · subst hk
      have hno : (k', v) ∉ rs := fun hm => h.1 (List.mem_map.mpr ⟨_, hm, rfl⟩)
      simp [findRow, hno, eq_comm]
    · simp [findRow, hk, ih h.2, Ne.symm hk]

@[simp] theorem find?_empty (k : K) : (empty : Table K V).find? k = none := rfl

theorem mem_rows : (k, v) ∈ t.rows ↔ t.find? k = some v :=
  (findRow_eq_some_iff t.nodup).symm

theorem forall_find? {P : K → V → Prop} :
    (∀ k v, t.find? k = some v → P k v) ↔ ∀ row ∈ t.rows, P row.1 row.2 :=
  ⟨fun h row hr => h row.1 row.2 (mem_rows.1 hr), fun h k v hv => h (k, v) (mem_rows.2 hv)⟩

theorem mem_keys : k ∈ t.rows.map Prod.fst ↔ ∃ v, t.find? k = some v := by
  simp only [List.mem_map, Prod.exists, exists_and_right, exists_eq_right, mem_rows]

theorem mem_select :
    (k, v) ∈ t.select p ↔ t.find? k = some v ∧ p k v = true := by
  rw [select, List.mem_filter, mem_rows]

@[simp] theorem find?_put_self (t : Table K V) (k : K) (v : V) : (t.put k v).find? k = some v := by
  show findRow k (putRow k v t.rows) = some v
  induction t.rows with
  | nil => simp [putRow, findRow]
  | cons r rs ih =>
    obtain ⟨k', v'⟩ := r
    by_cases hk : k' = k <;> simp [putRow, findRow, hk, ih]

/-- Rewriting a row does not change which row is the first to meet a condition, if the
row meets it as before. -/
theorem fst_find?_put {p : K × V → Bool} (hf : t.find? k = some v) (hp : p (k, v') = p (k, v)) :
    ((t.put k v').rows.find? p).map Prod.fst = (t.rows.find? p).map Prod.fst := by
  have hf : findRow k t.rows = some v := hf
  show ((putRow k v' t.rows).find? p).map Prod.fst = (t.rows.find? p).map Prod.fst
  generalize t.rows = rs at hf ⊢
  induction rs with
  | nil => cases hf
  | cons r rs ih =>
    obtain ⟨k₀, v₀⟩ := r
    by_cases hk : k₀ = k
    · subst hk
      simp only [findRow, if_true, Option.some.injEq] at hf
      subst hf
      simp only [putRow, if_true, List.find?_cons, hp]
      cases p (k₀, v₀) <;> rfl
    · simp only [findRow, hk, if_false] at hf
      simp only [putRow, hk, if_false, List.find?_cons]
      cases p (k₀, v₀) with
      | true => rfl
      | false => exact ih hf

theorem find?_put_of_ne (t : Table K V) (v : V) (h : k' ≠ k) :
    (t.put k v).find? k' = t.find? k' := by
  show findRow k' (putRow k v t.rows) = findRow k' t.rows
  induction t.rows with
  | nil => simp [putRow, findRow, Ne.symm h]
  | cons r rs ih =>
    obtain ⟨k₁, v₁⟩ := r
    by_cases hk : k₁ = k
    · simp [putRow, findRow, hk, Ne.symm h]
    · simp [putRow, findRow, hk, ih]

theorem find?_put (t : Table K V) (k k' : K) (v : V) :
    (t.put k v).find? k' = if k' = k then some v else t.find? k' := by
  split
  · next h => rw [h, find?_put_self]
  · next h => rw [find?_put_of_ne t v h]

/-- A row that is found after a write was written or was there before. -/
theorem find?_put_eq_some :
    (t.put k v).find? k' = some v' ↔ k' = k ∧ v = v' ∨ k' ≠ k ∧ t.find? k' = some v' := by
  rw [find?_put]
  split
  · next h => simp [h]
  · next h => simp [h]

@[simp] theorem find?_erase_self (t : Table K V) (k : K) : (t.erase k).find? k = none := by
  show findRow k (eraseRow k t.rows) = none
  have h := t.nodup
  revert h
  induction t.rows with
  | nil => simp [eraseRow, findRow]
  | cons r rs ih =>
    obtain ⟨k', v'⟩ := r
    intro h
    rw [List.map_cons, List.nodup_cons] at h
    by_cases hk : k' = k
    · subst hk
      simpa [eraseRow] using findRow_eq_none_iff.mpr h.1
    · simpa [eraseRow, findRow, hk] using ih h.2

theorem find?_erase_of_ne (t : Table K V) (h : k' ≠ k) : (t.erase k).find? k' = t.find? k' := by
  show findRow k' (eraseRow k t.rows) = findRow k' t.rows
  induction t.rows with
  | nil => rfl
  | cons r rs ih =>
    obtain ⟨k₁, v₁⟩ := r
    by_cases hk : k₁ = k
    · simp [eraseRow, findRow, hk, Ne.symm h]
    · simp [eraseRow, findRow, hk, ih]

theorem find?_erase (t : Table K V) (k k' : K) :
    (t.erase k).find? k' = if k' = k then none else t.find? k' := by
  split
  · next h => rw [h, find?_erase_self]
  · next h => rw [find?_erase_of_ne t h]

/-- Delete the rows that meet a condition. -/
def discard (t : Table K V) (p : K → V → Bool) : Table K V :=
  ⟨t.rows.filter fun r => !p r.1 r.2, (List.filter_sublist.map Prod.fst).nodup t.nodup⟩

theorem find?_discard :
    (t.discard p).find? k = some v ↔ t.find? k = some v ∧ p k v = false := by
  rw [← mem_rows, ← mem_rows, discard, List.mem_filter, Bool.not_eq_true']

/-- Insert or update several rows. -/
def putAll (t : Table K V) (rows : List (K × V)) : Table K V :=
  rows.foldl (fun t row => t.put row.1 row.2) t

theorem find?_putAll_of_not_mem (h : k ∉ rows.map Prod.fst) :
    (t.putAll rows).find? k = t.find? k := by
  induction rows generalizing t with
  | nil => rfl
  | cons row rows ih =>
    rw [List.map_cons, List.mem_cons, not_or] at h
    exact (ih h.2).trans (find?_put_of_ne t row.2 h.1)

theorem find?_putAll_of_mem (hnodup : (rows.map Prod.fst).Nodup) (h : (k, v) ∈ rows) :
    (t.putAll rows).find? k = some v := by
  induction rows generalizing t with
  | nil => cases h
  | cons row rows ih =>
    rw [List.map_cons, List.nodup_cons] at hnodup
    rcases List.mem_cons.1 h with rfl | h
    · exact (find?_putAll_of_not_mem hnodup.1).trans (find?_put_self t k v)
    · exact ih hnodup.2 h

/-! ### A key that no row uses -/

/-- A key outside the table, as a fresh identifier of the database. -/
def fresh (t : Table ℕ V) : ℕ := (t.rows.map Prod.fst).foldr max 0 + 1

theorem le_foldr_max {k n : ℕ} {ks : List ℕ} (h : k ∈ ks) : k ≤ ks.foldr max n := by
  induction ks with
  | nil => cases h
  | cons k' ks ih =>
    rcases List.mem_cons.mp h with rfl | h
    · exact le_max_left _ _
    · exact (ih h).trans (le_max_right _ _)

theorem start_le_foldr_max (n : ℕ) (ks : List ℕ) : n ≤ ks.foldr max n := by
  induction ks with
  | nil => exact le_rfl
  | cons k ks ih => exact ih.trans (le_max_right _ _)

/-- A maximum is the start or one of the numbers. -/
theorem foldr_max_cases (ks : List ℕ) (n : ℕ) : ks.foldr max n = n ∨ ks.foldr max n ∈ ks := by
  induction ks with
  | nil => exact Or.inl rfl
  | cons k ks ih =>
    rw [List.foldr_cons]
    rcases max_choice k (ks.foldr max n) with hmax | hmax
    · rw [hmax]
      exact Or.inr List.mem_cons_self
    · rw [hmax]
      exact ih.imp_right (List.mem_cons_of_mem k)

@[simp] theorem find?_fresh (t : Table ℕ V) : t.find? t.fresh = none := by
  refine findRow_eq_none_iff.mpr fun hm => ?_
  have hle : t.fresh ≤ (t.rows.map Prod.fst).foldr max 0 := le_foldr_max hm
  exact absurd hle (Nat.not_succ_le_self _)

/-! ### Totals -/

section Sums

variable [AddCommGroup M] (f : K → V → M)

theorem term_of_find? {t : Table K V} {k : K} {v : V} (h : t.find? k = some v) :
    t.term f k = f k v := by
  simp [term, h]

theorem term_of_none {t : Table K V} {k : K} (h : t.find? k = none) : t.term f k = 0 := by
  simp [term, h]

theorem sum_putRow (k : K) (v : V) (rs : List (K × V)) :
    ((putRow k v rs).map fun r => f r.1 r.2).sum
      = (rs.map fun r => f r.1 r.2).sum + (f k v - (findRow k rs).elim 0 (f k)) := by
  induction rs with
  | nil => simp [putRow, findRow]
  | cons r rs ih =>
    obtain ⟨k', v'⟩ := r
    by_cases hk : k' = k
    · subst hk
      simp only [putRow, findRow, if_true, List.map_cons, List.sum_cons, Option.elim_some]
      abel
    · simp only [putRow, findRow, hk, if_false, List.map_cons, List.sum_cons, ih]
      abel

/-- **Accounting of a write**: the total moves by the difference of the row's
new and old contribution. -/
theorem sum_put (t : Table K V) (k : K) (v : V) :
    (t.put k v).sum f = t.sum f + (f k v - t.term f k) :=
  sum_putRow f k v t.rows

theorem sum_eraseRow (k : K) (rs : List (K × V)) :
    ((eraseRow k rs).map fun r => f r.1 r.2).sum
      = (rs.map fun r => f r.1 r.2).sum - (findRow k rs).elim 0 (f k) := by
  induction rs with
  | nil => simp [eraseRow, findRow]
  | cons r rs ih =>
    obtain ⟨k', v'⟩ := r
    by_cases hk : k' = k
    · subst hk
      simp [eraseRow, findRow]
    · simp only [eraseRow, findRow, hk, if_false, List.map_cons, List.sum_cons, ih]
      abel

/-- **Accounting of a deletion**: the total loses the row's contribution. -/
theorem sum_erase (t : Table K V) (k : K) : (t.erase k).sum f = t.sum f - t.term f k :=
  sum_eraseRow f k t.rows

end Sums

theorem sum_nonneg {f : K → V → ℤ} (h : ∀ k v, t.find? k = some v → 0 ≤ f k v) : 0 ≤ t.sum f := by
  refine List.sum_nonneg fun x hx => ?_
  obtain ⟨⟨k, v⟩, hm, rfl⟩ := List.mem_map.mp hx
  exact h k v (mem_rows.mp hm)

/-- One row's contribution is at most the total of non-negative ones. -/
theorem le_sum {f : K → V → ℤ} (h : ∀ k v, t.find? k = some v → 0 ≤ f k v)
    (hk : t.find? k = some v) : f k v ≤ t.sum f := by
  have hr : 0 ≤ (t.erase k).sum f := by
    refine sum_nonneg fun k' v' hk' => h k' v' ?_
    rw [find?_erase] at hk'
    split at hk'
    · cases hk'
    · exact hk'
  rw [sum_erase, term_of_find? f hk] at hr
  linarith

end Table

end RowStore
