/-
CloudPortal/Quota/Conservation.lean

Conservation of the quota ledger.  Five redundant representations are kept by different
functions: the tenant counters, the project counters, the reservations, the allocations and the
ledger entries.

* `Conserved`: a project's `reserved` is the growth held by its active reservations, its `used`
  is the total of its allocations, and a tenant counter is the sum of the counters of its
  projects.  Every elementary change keeps this (`Move.conserved`), because each one moves the
  counters of one scope by exactly what it adds to the two tables (`Conserved.transfer`).
* `Complete`: the ledger entries of a project, read in their order (`replay`), give its counters.
  `LedgerEvent.used` and `LedgerEvent.held` are the meaning of an entry.  A move either appends
  one entry and shifts the counters by its meaning, or leaves both alone
  (`ledger_completeness`).
* `WithinLimits`: limits are never exceeded.  Only the admission loop of `reserve` and the limit
  setters compare a total with a limit; a commit moves held growth to used and may only lower the
  total, a release lowers it, the other changes leave it alone.
-/
import CloudPortal.Quota.Moves
import Mathlib.Algebra.BigOperators.Group.Finset.Piecewise
import Mathlib.Algebra.Order.BigOperators.Group.Finset

namespace CloudPortal

open RowStore Transition

/-- What a reservation holds of a scope's capacity. -/
def Reservation.holds (r : Reservation) (scope : Scope) (d : Dimension) : ℤ :=
  if r.subject.scope = scope ∧ r.status.active = true then positive r.deltas d else 0

namespace Ledger

/-- The growth held by the active reservations of a project. -/
def heldGrowth (l : Ledger) (scope : Scope) (d : Dimension) : ℤ :=
  l.reservations.sum fun _ r => r.holds scope d

/-- The total of a dimension over the allocations of a project. -/
def allocated (l : Ledger) (scope : Scope) (d : Dimension) : ℤ :=
  l.allocations.sum fun subject dims => if subject.scope = scope then dims d else 0

/-- The projects of a tenant. -/
def projects (l : Ledger) (tenantId : ℕ) : Finset Scope :=
  l.scopes.filter fun s => s.tenantId = tenantId

end Ledger

/-- The four representations of the booked capacity agree. -/
structure Conserved (l : Ledger) : Prop where
  held : ∀ s d, (l.projectCounter s d).reserved = l.heldGrowth s d
  allocated : ∀ s d, (l.projectCounter s d).used = l.allocated s d
  tenantReserved : ∀ t d,
    (l.tenantCounter t d).reserved = ∑ s ∈ l.projects t, (l.projectCounter s d).reserved
  tenantUsed : ∀ t d, (l.tenantCounter t d).used = ∑ s ∈ l.projects t, (l.projectCounter s d).used
  nonneg : ∀ subject dims, l.allocations.find? subject = some dims → 0 ≤ dims
  known : ∀ id row, l.reservations.find? id = some row → row.subject.scope ∈ l.scopes

/-! ### Movements of the counters and of the totals -/

theorem Shifted.refl (l : Ledger) (scope : Scope) : Shifted l l scope 0 0 :=
  ⟨by simp, by simp, rfl, rfl, rfl, rfl, rfl, rfl⟩

/-- The projects of a tenant move together by what its one scope moves. -/
theorem sum_projects_shift {l : Ledger} {scope : Scope} (hsc : scope ∈ l.scopes) (t : ℕ)
    (f : Scope → ℤ) (x : ℤ) :
    ∑ s ∈ l.projects t, (f s + if s = scope then x else 0)
      = ∑ s ∈ l.projects t, f s + if t = scope.tenantId then x else 0 := by
  rw [Finset.sum_add_distrib, Finset.sum_ite_eq']
  by_cases ht : scope.tenantId = t
  · simp [Ledger.projects, hsc, ht]
  · simp [Ledger.projects, ht, Ne.symm ht]

/-- A change that moves the counters of one scope by what it adds to the two
tables keeps the representations in agreement. -/
theorem Conserved.transfer {l l₁ l' : Ledger} {scope : Scope} {used reserved : Amounts}
    (hl : Conserved l) (hsc : scope ∈ l.scopes) (hs : Shifted l l₁ scope used reserved)
    (htenant : l'.tenantUsage = l₁.tenantUsage) (hproject : l'.projectUsage = l₁.projectUsage)
    (hscope : l'.scopes = l.scopes)
    (hh : ∀ s d, l'.heldGrowth s d = l.heldGrowth s d + if s = scope then reserved d else 0)
    (halloc : ∀ s d, l'.allocated s d = l.allocated s d + if s = scope then used d else 0)
    (hnonneg : ∀ sub dims, l'.allocations.find? sub = some dims → 0 ≤ dims)
    (hknown : ∀ id row, l'.reservations.find? id = some row → row.subject.scope ∈ l.scopes) :
    Conserved l' := by
  have htc : ∀ t d, l'.tenantCounter t d = l₁.tenantCounter t d := fun t d => by
    simp only [Ledger.tenantCounter, htenant]
  have hpc : ∀ s d, l'.projectCounter s d = l₁.projectCounter s d := fun s d => by
    simp only [Ledger.projectCounter, hproject]
  have hp : ∀ t, l'.projects t = l.projects t := fun t => by simp only [Ledger.projects, hscope]
  refine ⟨fun s d => ?_, fun s d => ?_, fun t d => ?_, fun t d => ?_, hnonneg, fun id row hr => ?_⟩
  · rw [hpc, hs.project, Usage.shift_reserved, hl.held, hh]
  · rw [hpc, hs.project, Usage.shift_used, hl.allocated, halloc]
  · rw [htc, hs.tenant, Usage.shift_reserved, hl.tenantReserved, hp]
    simp only [hpc, hs.project, Usage.shift_reserved]
    exact (sum_projects_shift hsc t _ _).symm
  · rw [htc, hs.tenant, Usage.shift_used, hl.tenantUsed, hp]
    simp only [hpc, hs.project, Usage.shift_used]
    exact (sum_projects_shift hsc t _ _).symm
  · rw [hscope]
    exact hknown id row hr

theorem heldGrowth_write (l : Ledger) (id : ℕ) (row : Reservation) (ev : LedgerEvent)
    (s : Scope) (d : Dimension) :
    (l.write id row ev).heldGrowth s d
      = l.heldGrowth s d
        + (row.holds s d - l.reservations.term (fun _ r => r.holds s d) id) :=
  Table.sum_put _ _ _ _

theorem allocated_putAllocation (l : Ledger) (sub : Subject) (tgt : Amounts) (s : Scope)
    (d : Dimension) :
    (l.putAllocation sub tgt).allocated s d
      = l.allocated s d
        + if sub.scope = s then tgt d - l.allocation sub d else 0 := by
  have hterm : l.allocations.term (fun sub dims => if sub.scope = s then dims d else 0) sub
      = if sub.scope = s then l.allocation sub d else 0 := by
    rcases hr : l.allocations.find? sub with - | dims
    all_goals simp [Table.term, Ledger.allocation, hr]
  by_cases hg : tgt = 0
  · simp only [Ledger.allocated, Ledger.putAllocation, hg, ne_eq, not_true_eq_false, if_false,
      Table.sum_erase, hterm]
    split <;> simp [sub_eq_add_neg]
  · simp only [Ledger.allocated, Ledger.putAllocation, ne_eq, hg, not_false_eq_true, if_true,
      Table.sum_put, hterm]
    split <;> simp

theorem find?_putAllocation (l : Ledger) (sub other : Subject) (tgt : Amounts) :
    (l.putAllocation sub tgt).allocations.find? other
      = if other = sub then if tgt ≠ 0 then some tgt else none
        else l.allocations.find? other := by
  unfold Ledger.putAllocation
  split
  · exact Table.find?_put ..
  · exact Table.find?_erase ..

/-! ### Every move conserves -/

section Rows

variable {l l₁ : Ledger} {scope : Scope} {used reserved : Amounts} {id : ℕ} {row row' : Reservation}
  {ev : LedgerEvent}

/-- The held growth after a status change of a row. -/
theorem heldGrowth_rewrite (hres : l₁.reservations = l.reservations)
    (hr : l.reservations.find? id = some row) (s : Scope) (d : Dimension) :
    (l₁.write id row' ev).heldGrowth s d = l.heldGrowth s d + (row'.holds s d - row.holds s d) := by
  rw [heldGrowth_write, Ledger.heldGrowth, hres, Table.term_of_find? _ hr]
  rfl

theorem Conserved.known_write (hl : Conserved l) (hres : l₁.reservations = l.reservations)
    (hr : row.subject.scope ∈ l.scopes) (id' : ℕ) (r : Reservation)
    (h : (l₁.write id row ev).reservations.find? id' = some r) : r.subject.scope ∈ l.scopes := by
  simp only [Ledger.write, hres, Table.find?_put] at h
  split at h
  · exact Option.some.inj h ▸ hr
  · exact hl.known id' r h

theorem Conserved.nonneg_of_shifted (hl : Conserved l) (hs : Shifted l l₁ scope used reserved)
    (sub : Subject) (dims : Amounts) (h : (l₁.write id row ev).allocations.find? sub = some dims) :
    0 ≤ dims := by
  refine hl.nonneg sub dims ?_
  rwa [← hs.allocations]

theorem Shifted.allocated_write (hs : Shifted l l₁ scope used reserved) (s : Scope) (d : Dimension) :
    (l₁.write id row ev).allocated s d = l.allocated s d := by
  simp only [Ledger.allocated, Ledger.write, hs.allocations]

end Rows

theorem Reservation.holds_of_active {r : Reservation} (h : r.status.active = true) (s : Scope)
    (d : Dimension) : r.holds s d = if s = r.subject.scope then positive r.deltas d else 0 := by
  simp [Reservation.holds, h, eq_comm]

theorem Reservation.holds_of_inactive {r : Reservation} (h : r.status.active = false) (s : Scope)
    (d : Dimension) : r.holds s d = 0 := by
  simp [Reservation.holds, h]

/-- **Settling a reservation keeps the four representations in agreement.** -/
theorem Settle.conserved {l l' : Ledger} (h : Settle l l') (hl : Conserved l) : Conserved l' := by
  cases h with
  | @committed l₁ id row hr ha hnonneg hs =>
    have hsc := hl.known id row hr
    refine hl.transfer hsc hs rfl rfl hs.scopes (fun s d => ?_) (fun s d => ?_)
      (fun sub dims hdims => ?_) (hl.known_write hs.reservations hsc)
    · have hres : (l₁.putAllocation row.subject (l.allocation row.subject + row.deltas)).reservations
          = l.reservations := hs.reservations
      rw [heldGrowth_rewrite hres hr, Reservation.holds_of_inactive rfl,
        Reservation.holds_of_active ha]
      split <;> simp
    · refine (allocated_putAllocation l₁ row.subject _ s d).trans ?_
      simp only [Ledger.allocated, Ledger.allocation, hs.allocations, Pi.add_apply,
        add_sub_cancel_left, eq_comm]
    · change (l₁.putAllocation row.subject _).allocations.find? sub = some dims at hdims
      rw [find?_putAllocation] at hdims
      split at hdims
      · split at hdims
        · exact Option.some.inj hdims ▸ hnonneg
        · cases hdims
      · exact hl.nonneg sub dims (hs.allocations ▸ hdims)
  | @released l₁ id row hr ha hs =>
    have hsc := hl.known id row hr
    refine hl.transfer hsc hs rfl rfl hs.scopes (fun s d => ?_) (fun s d => ?_)
      (hl.nonneg_of_shifted hs) (hl.known_write hs.reservations hsc)
    · rw [heldGrowth_rewrite hs.reservations hr, Reservation.holds_of_inactive rfl,
        Reservation.holds_of_active ha]
      split <;> simp
    · rw [hs.allocated_write]
      simp
  | @marked id row hr ha =>
    have hsc := hl.known id row hr
    have hs := Shifted.refl l row.subject.scope
    refine hl.transfer hsc hs rfl rfl rfl (fun s d => ?_) (fun s d => ?_)
      (hl.nonneg_of_shifted hs) (hl.known_write hs.reservations hsc)
    · rw [heldGrowth_rewrite hs.reservations hr, Reservation.holds_of_active rfl,
        Reservation.holds_of_active ha]
      simp
    · rw [hs.allocated_write]
      simp

/-- **An elementary change keeps the four representations in agreement.** -/
theorem Move.conserved {l l' : Ledger} (h : Move l l') (hl : Conserved l) : Conserved l' := by
  cases h with
  | @opened l₁ row hstatus _ hsc _ _ hs =>
    refine hl.transfer hsc hs rfl rfl hs.scopes (fun s d => ?_) (fun s d => ?_)
      (hl.nonneg_of_shifted hs) (hl.known_write hs.reservations hsc)
    · -- the row is new, so it had no contribution before
      rw [heldGrowth_write, Ledger.heldGrowth, hs.reservations,
        Table.term_of_none _ (Table.find?_fresh _), sub_zero,
        Reservation.holds_of_active (by rw [hstatus]; rfl)]
      rfl
    · rw [hs.allocated_write]
      simp
  | @rearmed l₁ id row hr hreleased _ hs =>
    have hsc := hl.known id row hr
    refine hl.transfer hsc hs rfl rfl hs.scopes (fun s d => ?_) (fun s d => ?_)
      (hl.nonneg_of_shifted hs) (hl.known_write hs.reservations hsc)
    · rw [heldGrowth_rewrite hs.reservations hr, Reservation.holds_of_active rfl,
        Reservation.holds_of_inactive (by rw [hreleased]; rfl), sub_zero]
    · rw [hs.allocated_write]
      simp
  | settled h => exact h.conserved hl
  | relimited h =>
    obtain ⟨_, _, rfl⟩ := h.frame
    exact ⟨hl.held, hl.allocated, hl.tenantReserved, hl.tenantUsed, hl.nonneg, hl.known⟩

theorem conserved_empty (scs : Finset Scope) : Conserved (Ledger.empty scs) :=
  ⟨fun _ _ => rfl, fun _ _ => rfl, fun _ _ => Finset.sum_const_zero.symm,
    fun _ _ => Finset.sum_const_zero.symm, fun _ _ h => (by cases h), fun _ _ h => (by cases h)⟩

/-! ### Signs -/

theorem Reservation.holds_nonneg (r : Reservation) (s : Scope) (d : Dimension) : 0 ≤ r.holds s d := by
  unfold Reservation.holds
  split
  · exact positive_nonneg _ _
  · exact le_refl _

namespace Conserved

variable {l : Ledger} (hl : Conserved l)
include hl

theorem projectReserved_nonneg (s : Scope) (d : Dimension) : 0 ≤ (l.projectCounter s d).reserved := by
  rw [hl.held]
  exact Table.sum_nonneg fun _ r _ => r.holds_nonneg s d

theorem projectUsed_nonneg (s : Scope) (d : Dimension) : 0 ≤ (l.projectCounter s d).used := by
  rw [hl.allocated]
  refine Table.sum_nonneg fun sub dims h => ?_
  split
  · exact hl.nonneg sub dims h d
  · exact le_refl _

theorem tenantReserved_nonneg (t : ℕ) (d : Dimension) : 0 ≤ (l.tenantCounter t d).reserved := by
  rw [hl.tenantReserved]
  exact Finset.sum_nonneg fun s _ => hl.projectReserved_nonneg s d

theorem tenantUsed_nonneg (t : ℕ) (d : Dimension) : 0 ≤ (l.tenantCounter t d).used := by
  rw [hl.tenantUsed]
  exact Finset.sum_nonneg fun s _ => hl.projectUsed_nonneg s d

theorem allocation_nonneg (subject : Subject) : 0 ≤ l.allocation subject := by
  rcases hr : l.allocations.find? subject with - | dims
  · simp [Ledger.allocation, hr]
  have hnn := hl.nonneg subject dims hr
  simpa [Ledger.allocation, hr] using hnn

/-- The counter of a project contains what each of its active reservations holds. -/
theorem growth_le_projectReserved {id : ℕ} {row : Reservation}
    (hr : l.reservations.find? id = some row) (ha : row.status.active = true) (d : Dimension) :
    positive row.deltas d ≤ (l.projectCounter row.subject.scope d).reserved := by
  have hle : row.holds row.subject.scope d ≤ l.heldGrowth row.subject.scope d :=
    Table.le_sum (fun _ r _ => r.holds_nonneg row.subject.scope d) hr
  rwa [Reservation.holds_of_active ha, if_pos rfl, ← hl.held] at hle

/-- The counter of a project contains each of its allocations. -/
theorem allocation_le_projectUsed (sub : Subject) (d : Dimension) :
    l.allocation sub d ≤ (l.projectCounter sub.scope d).used := by
  rcases hr : l.allocations.find? sub with - | dims
  · simpa [Ledger.allocation, hr] using hl.projectUsed_nonneg sub.scope d
  have hle : (if sub.scope = sub.scope then dims d else 0) ≤ l.allocated sub.scope d := by
    refine Table.le_sum (fun s dims h => ?_) hr
    split
    · exact hl.nonneg s dims h d
    · exact le_refl _
  rw [if_pos rfl, ← hl.allocated] at hle
  simpa [Ledger.allocation, hr] using hle

theorem projectReserved_le_tenant {scope : Scope} (hsc : scope ∈ l.scopes) (d : Dimension) :
    (l.projectCounter scope d).reserved ≤ (l.tenantCounter scope.tenantId d).reserved := by
  rw [hl.tenantReserved]
  exact Finset.single_le_sum (f := fun s => (l.projectCounter s d).reserved)
    (fun s _ => hl.projectReserved_nonneg s d) (Finset.mem_filter.mpr ⟨hsc, rfl⟩)

theorem projectUsed_le_tenant {scope : Scope} (hsc : scope ∈ l.scopes) (d : Dimension) :
    (l.projectCounter scope d).used ≤ (l.tenantCounter scope.tenantId d).used := by
  rw [hl.tenantUsed]
  exact Finset.single_le_sum (f := fun s => (l.projectCounter s d).used)
    (fun s _ => hl.projectUsed_nonneg s d) (Finset.mem_filter.mpr ⟨hsc, rfl⟩)

end Conserved

/-- **Quota conservation**: after every sequence of calls of the quota service on
an empty ledger the project counters are the totals of the reservations and of
the allocations, the tenant counters are the totals of the project counters, and
no counter is negative. -/
theorem quota_conservation (scopes : Finset Scope) (ops : List QuotaOp) (s : Scope) (t : ℕ)
    (d : Dimension) :
    let l := quotaRun (Ledger.empty scopes) ops
    (l.projectCounter s d).reserved = l.heldGrowth s d ∧
    (l.projectCounter s d).used = l.allocated s d ∧
    (l.tenantCounter t d).reserved = ∑ p ∈ l.projects t, (l.projectCounter p d).reserved ∧
    (l.tenantCounter t d).used = ∑ p ∈ l.projects t, (l.projectCounter p d).used ∧
    0 ≤ (l.projectCounter s d).reserved ∧ 0 ≤ (l.projectCounter s d).used ∧
    0 ≤ (l.tenantCounter t d).reserved ∧ 0 ≤ (l.tenantCounter t d).used := by
  intro l
  have hl : Conserved l :=
    quotaRun_invariant (fun _ _ hm => hm.conserved) (conserved_empty scopes) ops
  exact ⟨hl.held s d, hl.allocated s d, hl.tenantReserved t d, hl.tenantUsed t d,
    hl.projectReserved_nonneg s d, hl.projectUsed_nonneg s d, hl.tenantReserved_nonneg t d,
    hl.tenantUsed_nonneg t d⟩

/-! ### Limits -/

section Limits

/-- What a usage row counts against its limit. -/
def Usage.total (u : Usage) : ℤ := u.used + u.reserved

@[simp] theorem Usage.total_shift (u : Usage) (x y : ℤ) : (u.shift x y).total = u.total + (x + y) := by
  simp only [Usage.total, Usage.shift]
  omega

/-- Every limit covers what is used and held. -/
structure WithinLimits (l : Ledger) : Prop where
  tenant : ∀ t d limit, l.tenantLimits.find? (t, d) = some limit → (l.tenantCounter t d).total ≤ limit
  project : ∀ s d limit,
    l.projectLimits.find? (s, d) = some limit → (l.projectCounter s d).total ≤ limit

variable {l : Ledger} {scope : Scope} {l₁ l' : Ledger} {reserved used : Amounts}

/-- A movement of one scope's counters stays within the limits if the new totals
of this scope and of its tenant do. -/
theorem WithinLimits.of_shifted (hl : WithinLimits l) (hsh : Shifted l l₁ scope used reserved)
    (htenant : ∀ d lim, l.tenantLimits.find? (scope.tenantId, d) = some lim →
      (l.tenantCounter scope.tenantId d).total + (used d + reserved d) ≤ lim)
    (hproject : ∀ d lim, l.projectLimits.find? (scope, d) = some lim →
      (l.projectCounter scope d).total + (used d + reserved d) ≤ lim) : WithinLimits l₁ := by
  refine ⟨fun t d lim hlimit => ?_, fun s d lim hlimit => ?_⟩
  · rw [hsh.tenantLimits] at hlimit
    rw [hsh.tenant, Usage.total_shift]
    by_cases ht : t = scope.tenantId
    · subst ht
      simpa using htenant d lim hlimit
    · simpa [ht] using hl.tenant t d lim hlimit
  · rw [hsh.projectLimits] at hlimit
    rw [hsh.project, Usage.total_shift]
    by_cases hs : s = scope
    · subst hs
      simpa using hproject d lim hlimit
    · simpa [hs] using hl.project s d lim hlimit

/-- A movement that lowers every total stays within the limits. -/
theorem WithinLimits.of_lowered (hl : WithinLimits l) (hs : Shifted l l₁ scope used reserved)
    (hlow : ∀ d, used d + reserved d ≤ 0) : WithinLimits l₁ := by
  refine hl.of_shifted hs (fun d lim hlimit => ?_) (fun d lim hlimit => ?_)
  · have h := hl.tenant _ d lim hlimit
    have := hlow d
    omega
  · have h := hl.project _ d lim hlimit
    have := hlow d
    omega

/-- An admitted growth stays within the limits. -/
theorem WithinLimits.of_admitted {ds : Amounts} (hl : WithinLimits l)
    (hroom : Room l scope ds) (hs : Shifted l l₁ scope 0 (positive ds)) :
    WithinLimits l₁ := by
  refine hl.of_shifted hs (fun d lim hlimit => ?_) (fun d lim hlimit => ?_)
  · -- a dimension without a delta is not checked, but does not move either
    by_cases hd : ds d = 0
    · simpa [positive_eq_zero hd] using hl.tenant _ d lim hlimit
    · simpa [Usage.total] using (hroom d hd).1 lim hlimit
  · by_cases hd : ds d = 0
    · simpa [positive_eq_zero hd] using hl.project _ d lim hlimit
    · simpa [Usage.total] using (hroom d hd).2 lim hlimit

/-- **Settling a reservation keeps every total within its limit.** -/
theorem Settle.withinLimits (h : Settle l l') (hl : WithinLimits l) : WithinLimits l' := by
  cases h with
  | @committed _ _ row _ _ _ hs =>
    have h₁ := hl.of_lowered hs fun d => by
      have := le_positive row.deltas d
      simpa using this
    exact ⟨h₁.tenant, h₁.project⟩
  | @released _ _ row _ _ hs =>
    have h₁ := hl.of_lowered hs fun d => by
      have := positive_nonneg row.deltas d
      simpa using this
    exact ⟨h₁.tenant, h₁.project⟩
  | marked => exact ⟨hl.tenant, hl.project⟩

/-- **A limit change keeps every total within its limit.** -/
theorem Relimit.withinLimits (h : Relimit l l') (hl : WithinLimits l) : WithinLimits l' := by
  cases h with
  | @project scope d lim hc =>
    refine ⟨hl.tenant, fun s d' lim' hlimit => ?_⟩
    simp only [Table.find?_put] at hlimit
    split at hlimit
    · next he =>
      cases he
      exact Option.some.inj hlimit ▸ hc
    · exact hl.project s d' lim' hlimit
  | @tenant tenantId d lim hc =>
    refine ⟨fun t d' lim' hlimit => ?_, hl.project⟩
    simp only [Table.find?_put] at hlimit
    split at hlimit
    · next he =>
      cases he
      exact Option.some.inj hlimit ▸ hc
    · exact hl.tenant t d' lim' hlimit
  | projectCleared =>
    refine ⟨hl.tenant, fun s d' lim' hlimit => ?_⟩
    simp only [Table.find?_erase] at hlimit
    split at hlimit
    · cases hlimit
    · exact hl.project s d' lim' hlimit
  | tenantCleared =>
    refine ⟨fun t d' lim' hlimit => ?_, hl.project⟩
    simp only [Table.find?_erase] at hlimit
    split at hlimit
    · cases hlimit
    · exact hl.tenant t d' lim' hlimit

/-- **An elementary change keeps every total within its limit.** -/
theorem Move.withinLimits (h : Move l l') (hl : WithinLimits l) : WithinLimits l' := by
  cases h with
  | opened _ _ _ _ hroom hs | rearmed _ _ hroom hs =>
    have h₁ := hl.of_admitted hroom hs
    exact ⟨h₁.tenant, h₁.project⟩
  | settled h | relimited h => exact h.withinLimits hl

/-- **Limit safety**: after every sequence of quota operations and limit changes,
used plus reserved is at most the limit, for the tenant and for the project. -/
theorem limit_safety (scopes : Finset Scope) (ops : List QuotaOp) (s : Scope) (d : Dimension) :
    let l := quotaRun (Ledger.empty scopes) ops
    (∀ limit, l.tenantLimits.find? (s.tenantId, d) = some limit →
      (l.tenantCounter s.tenantId d).used + (l.tenantCounter s.tenantId d).reserved ≤ limit) ∧
    (∀ limit, l.projectLimits.find? (s, d) = some limit →
      (l.projectCounter s d).used + (l.projectCounter s d).reserved ≤ limit) := by
  intro l
  have hl : WithinLimits l :=
    quotaRun_invariant (fun _ _ hm => hm.withinLimits)
      ⟨fun _ _ _ h => (by cases h), fun _ _ _ h => (by cases h)⟩ ops
  exact ⟨hl.tenant s.tenantId d, hl.project s d⟩

end Limits

/-! ### The meaning of an entry -/

/-- What an event adds to the used counters. -/
def LedgerEvent.used (deltas : Amounts) : LedgerEvent → Amounts
  | .committed => deltas
  | .reserved | .reReserved | .released | .uncertain => 0

/-- What an event adds to the reserved counters. -/
def LedgerEvent.held (deltas : Amounts) : LedgerEvent → Amounts
  | .reserved | .reReserved => positive deltas
  | .committed | .released => -positive deltas
  | .uncertain => 0

/-- One step of the fold: an entry of another project is passed over. -/
def LedgerEntry.replay (e : LedgerEntry) (scope : Scope) (d : Dimension) (u : Usage) : Usage :=
  if e.subject.scope = scope then u.shift (e.event.used e.deltas d) (e.event.held e.deltas d)
  else u

/-- The counters that the entries of a project give, read in their order. -/
def replay (entries : List LedgerEntry) (scope : Scope) (d : Dimension) : Usage :=
  entries.foldl (fun u e => e.replay scope d u) ⟨0, 0⟩

/-! ### Every move keeps it -/

/-- The entries give the stored counters of every project. -/
def Complete (l : Ledger) : Prop :=
  ∀ scope d, replay l.entries scope d = l.projectCounter scope d

variable {l l' l₁ l₂ : Ledger}

/-- A write of a reservation row whose entry means what the counters have moved. -/
theorem Complete.written (hl : Complete l) {id : ℕ} {row : Reservation} {ev : LedgerEvent}
    (hs : Shifted l l₁ row.subject.scope (ev.used row.deltas) (ev.held row.deltas))
    (husage : l₂.projectUsage = l₁.projectUsage) (hentries : l₂.entries = l₁.entries) :
    Complete (l₂.write id row ev) := by
  intro scope d
  have hcounter : (l₂.write id row ev).projectCounter scope d = l₁.projectCounter scope d := by
    simp only [Ledger.projectCounter, Ledger.write, husage]
  have hlog : (l₂.write id row ev).entries = l.entries ++ [⟨id, ev, row.subject, row.deltas⟩] := by
    simp only [Ledger.write, hentries, hs.entries]
  rw [hcounter, hs.project, hlog, replay, List.foldl_append]
  change LedgerEntry.replay _ scope d (replay l.entries scope d) = _
  rw [hl scope d, LedgerEntry.replay]
  by_cases hsc : row.subject.scope = scope
  · simp [hsc]
  · simp [hsc, Ne.symm hsc]

theorem Settle.complete (h : Settle l l') (hl : Complete l) : Complete l' := by
  cases h with
  | committed _ _ _ hs | released _ _ hs => exact hl.written hs rfl rfl
  | marked => exact hl.written (.refl l _) rfl rfl

theorem Move.complete (h : Move l l') (hl : Complete l) : Complete l' := by
  cases h with
  | opened _ _ _ _ _ hs | rearmed _ _ _ hs => exact hl.written hs rfl rfl
  | settled h => exact h.complete hl
  | relimited h =>
    -- a limit change touches neither the entries nor the counters
    obtain ⟨_, _, rfl⟩ := h.frame
    exact hl

/-- **The ledger is complete**: after every run of the service, folding the entries
of a project in order gives exactly its stored counters. -/
theorem ledger_completeness (scopes : Finset Scope) (ops : List QuotaOp) (scope : Scope)
    (d : Dimension) :
    replay (quotaRun (Ledger.empty scopes) ops).entries scope d
      = (quotaRun (Ledger.empty scopes) ops).projectCounter scope d := by
  have hempty : Complete (Ledger.empty scopes) := fun _ _ => rfl
  exact quotaRun_invariant (fun _ _ hm => hm.complete) hempty ops scope d

end CloudPortal
