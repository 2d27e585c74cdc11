/-
CloudPortal/Quota/Moves.lean

What the operations of the quota service can do to the ledger, said once.

`Shifted l l' scope used reserved` describes a counter loop: the tenant and the
project rows of one scope move by the same amounts and nothing else changes
(`updateUsage_shifted`).  `Move` lists the elementary changes of the ledger with
the checks that precede them, and `QuotaOp.moves` shows that every successful
call is a finite sequence of moves.  The invariants of the later files are
proved for a move and then hold for every run.  The changes of an active
reservation are a relation of their own, `Settle`: settling never admits anything.
-/
import CloudPortal.Quota.Service

namespace CloudPortal

open RowStore Transition Relation

/-! ### Counter rows -/

namespace Ledger

@[simp] theorem tenantCounter_putUsage (l : Ledger) (scope : Scope) (d d' : Dimension) (t : ℕ)
    (tenant proj : Usage) :
    (l.putUsage scope d tenant proj).tenantCounter t d'
      = if t = scope.tenantId ∧ d' = d then tenant else l.tenantCounter t d' := by
  simp only [tenantCounter, putUsage, Table.find?_put, Prod.mk.injEq]
  split <;> rfl

@[simp] theorem projectCounter_putUsage (l : Ledger) (scope s : Scope) (d d' : Dimension)
    (tenant proj : Usage) :
    (l.putUsage scope d tenant proj).projectCounter s d'
      = if s = scope ∧ d' = d then proj else l.projectCounter s d' := by
  simp only [projectCounter, putUsage, Table.find?_put, Prod.mk.injEq]
  split <;> rfl

end Ledger

/-- The counters of `scope` and of its tenant move by the same amounts; nothing
else changes. -/
structure Shifted (l l' : Ledger) (scope : Scope) (used reserved : Amounts) : Prop where
  tenant : ∀ t d, l'.tenantCounter t d = (l.tenantCounter t d).shift
    (if t = scope.tenantId then used d else 0) (if t = scope.tenantId then reserved d else 0)
  project : ∀ s d, l'.projectCounter s d = (l.projectCounter s d).shift
    (if s = scope then used d else 0) (if s = scope then reserved d else 0)
  scopes : l'.scopes = l.scopes
  tenantLimits : l'.tenantLimits = l.tenantLimits
  projectLimits : l'.projectLimits = l.projectLimits
  reservations : l'.reservations = l.reservations
  allocations : l'.allocations = l.allocations
  entries : l'.entries = l.entries

/-- The effect of a loop body: it moves both rows by the given amounts. -/
def Shifts (body : Dimension → Usage → Usage → Except QuotaError (Usage × Usage))
    (used reserved : Amounts) : Prop :=
  ∀ d tenant project rows, body d tenant project = .ok rows →
    rows = (tenant.shift (used d) (reserved d), project.shift (used d) (reserved d))

theorem admitUsage_shifts (l : Ledger) (scope : Scope) (growth : Amounts) :
    Shifts (admitUsage l scope growth) 0 growth := by
  intro d tenant project rows h
  unfold admitUsage at h
  split at h
  · cases h
  split at h
  · cases h
  split at h
  · cases h
  · exact (Except.ok.inj h).symm

theorem commitUsage_shifts (dl cur : Amounts) :
    Shifts (commitUsage dl cur) dl (-positive dl) := by
  intro d tenant project rows h
  unfold commitUsage at h
  split at h
  · cases h
  split at h
  · cases h
  · exact (Except.ok.inj h).symm

theorem releaseUsage_shifts (growth : Amounts) : Shifts (releaseUsage growth) 0 (-growth) := by
  intro d tenant project rows h
  unfold releaseUsage at h
  split at h
  · cases h
  · exact (Except.ok.inj h).symm

variable {l l' : Ledger} {ds : List Dimension} {dim key : String} {sub : Subject} {id : ℕ}

section Loop

variable {scope : Scope} {body : Dimension → Usage → Usage → Except QuotaError (Usage × Usage)}
  {used reserved : Amounts}

section

variable (hbody : Shifts body used reserved) (hnd : ds.Nodup)
  (h : updateUsage scope body ds l = .ok l')
include hbody hnd h

/-- The loop moves exactly the rows of the dimensions it visits. -/
theorem updateUsage_visited :
    Shifted l l' scope (fun d => if d ∈ ds then used d else 0)
      (fun d => if d ∈ ds then reserved d else 0) := by
  induction ds generalizing l with
  | nil =>
    cases h
    exact ⟨by simp, by simp, rfl, rfl, rfl, rfl, rfl, rfl⟩
  | cons d ds ih =>
    rw [List.nodup_cons] at hnd
    obtain ⟨rows, hrows, hre⟩ := bind_eq_ok.mp h
    have hr := hbody _ _ _ _ hrows
    have hs := ih hnd.2 hre
    subst hr
    refine ⟨fun t d' => ?_, fun s d' => ?_, hs.scopes, hs.tenantLimits, hs.projectLimits,
      hs.reservations, hs.allocations, hs.entries⟩
    · rw [hs.tenant, Ledger.tenantCounter_putUsage]
      by_cases ht : t = scope.tenantId
      · subst ht
        by_cases hd : d' = d
        · subst hd
          simp [hnd.1]
        · simp [hd]
      · simp [ht]
    · rw [hs.project, Ledger.projectCounter_putUsage]
      by_cases hsc : s = scope
      · subst hsc
        by_cases hd : d' = d
        · subst hd
          simp [hnd.1]
        · simp [hd]
      · simp [hsc]

/-- **Counter loop**: when the loop visits every dimension with a movement, it
moves the rows of the scope by exactly these amounts. -/
theorem updateUsage_shifted (hz : ∀ d, d ∉ ds → used d = 0 ∧ reserved d = 0) :
    Shifted l l' scope used reserved := by
  have hu : (fun d => if d ∈ ds then used d else 0) = used := by
    funext d
    split
    · rfl
    · next hd => exact (hz d hd).1.symm
  have hr : (fun d => if d ∈ ds then reserved d else 0) = reserved := by
    funext d
    split
    · rfl
    · next hd => exact (hz d hd).2.symm
  have hs := updateUsage_visited hbody hnd h
  rwa [hu, hr] at hs

end

/-- The loop ends without an error exactly when every visited body accepts the
rows as they were before the loop. -/
theorem updateUsage_isOk (hnd : ds.Nodup) :
    (∃ l', updateUsage scope body ds l = .ok l') ↔
      ∀ d ∈ ds, ∃ rows, body d (l.tenantCounter scope.tenantId d) (l.projectCounter scope d)
        = .ok rows := by
  induction ds generalizing l with
  | nil => simp [updateUsage]
  | cons d ds ih =>
    rw [List.nodup_cons] at hnd
    -- the rows of the later dimensions are not touched by the first step
    have hs : ∀ rows : Usage × Usage, ∀ d' ∈ ds,
        (l.putUsage scope d rows.1 rows.2).tenantCounter scope.tenantId d'
            = l.tenantCounter scope.tenantId d' ∧
          (l.putUsage scope d rows.1 rows.2).projectCounter scope d' = l.projectCounter scope d' := by
      intro rows d' hd'
      have hn : d' ≠ d := fun he => hnd.1 (he ▸ hd')
      simp [hn]
    constructor
    · rintro ⟨l', h⟩ d' hd'
      obtain ⟨rows, hrows, hr⟩ := bind_eq_ok.mp h
      rcases List.mem_cons.mp hd' with rfl | hm
      · exact ⟨rows, hrows⟩
      have hd := (ih hnd.2).mp ⟨l', hr⟩ d' hm
      rwa [(hs rows d' hm).1, (hs rows d' hm).2] at hd
    intro h
    obtain ⟨rows, hrows⟩ := h d List.mem_cons_self
    have hr : ∃ l', updateUsage scope body ds (l.putUsage scope d rows.1 rows.2) = .ok l' := by
      refine (ih hnd.2).mpr fun d' hd' => ?_
      rw [(hs rows d' hd').1, (hs rows d' hd').2]
      exact h d' (List.mem_cons_of_mem _ hd')
    obtain ⟨l', hl'⟩ := hr
    exact ⟨l', bind_eq_ok.mpr ⟨rows, hrows, hl'⟩⟩

end Loop

/-! ### Checked maps -/

theorem valuesFrom_entries (signed : Bool) (a res : Amounts) (hnd : ds.Nodup)
    (ho : signed = true ∨ 0 ≤ a) :
    valuesFrom signed ((ds.filter fun d => a d ≠ 0).map fun d => (d.name, .integer (a d))) res
      = .ok fun d => if d ∈ ds ∧ a d ≠ 0 then a d else res d := by
  induction ds generalizing res with
  | nil => simp [valuesFrom]
  | cons d ds ih =>
    rw [List.nodup_cons] at hnd
    by_cases hd : a d = 0
    · rw [List.filter_cons_of_neg (by simpa using hd), ih res hnd.2]
      congr 1
      funext d'
      by_cases he : d' = d
      · subst he
        simp [hd]
      · simp [he]
    have hentry : entryValue signed (.integer (a d)) = .ok (a d) := by
      rcases ho with hs | hs
      · simp [entryValue, hs]
      have hnn : 0 ≤ a d := hs d
      simp [entryValue, not_lt.mpr hnn]
    rw [List.filter_cons_of_pos (by simpa using hd), List.map_cons, valuesFrom, dimension_name,
      hentry]
    show valuesFrom signed _ (if a d ≠ 0 then Function.update res d (a d) else res) = _
    rw [if_pos hd, ih _ hnd.2]
    congr 1
    funext d'
    by_cases he : d' = d
    · subst he
      simp [hd, hnd.1]
    · simp [he]

/-- Checking a map that the service itself stored or computed gives it back. -/
theorem values_toMapping {signed : Bool} {a : Amounts} (h : signed = true ∨ 0 ≤ a) :
    values signed a.toMapping = .ok a := by
  rw [values, Amounts.toMapping, valuesFrom_entries signed a 0 (by decide) h]
  congr 1
  funext d
  by_cases hd : a d = 0
  · simp [hd]
  have hm : d ∈ dimensions := by cases d <;> decide
  simp [hd, hm]

theorem entryValue_unsigned {raw : RawValue} {n : ℤ} (h : entryValue false raw = .ok n) :
    entryValue true raw = .ok n ∧ 0 ≤ n := by
  cases raw with
  | bool b => cases h
  | malformed => cases h
  | integer m =>
    by_cases hm : m < 0
    · simp [entryValue, hm, fail] at h
    simp only [entryValue, hm, decide_false, Bool.and_false, Bool.false_eq_true, if_false] at h ⊢
    cases h
    exact ⟨by simp, not_lt.mp hm⟩

/-- An unsigned check accepts no more than a signed one, and only non-negative maps. -/
theorem valuesFrom_unsigned {m : Mapping} {res b : Amounts} (hr : 0 ≤ res)
    (h : valuesFrom false m res = .ok b) : valuesFrom true m res = .ok b ∧ 0 ≤ b := by
  induction m generalizing res with
  | nil =>
    cases h
    exact ⟨rfl, hr⟩
  | cons entry rest ih =>
    obtain ⟨key, raw⟩ := entry
    obtain ⟨d, hd, h⟩ := bind_eq_ok.mp h
    obtain ⟨val, hvalue, h⟩ := bind_eq_ok.mp h
    obtain ⟨hsigned, hnn⟩ := entryValue_unsigned hvalue
    have hr' : 0 ≤ (if val ≠ 0 then Function.update res d val else res) := by
      split
      · intro d'
        by_cases he : d' = d
        · subst he
          simpa using hnn
        · simpa [he] using hr d'
      · exact hr
    obtain ⟨hre, hb⟩ := ih hr' h
    exact ⟨bind_eq_ok.mpr ⟨d, hd, bind_eq_ok.mpr ⟨val, hsigned, hre⟩⟩, hb⟩

variable {cur dl : Amounts} {usage project tenant : Usage} {scope : Scope}
  {live : List LiveDeployment} {val : LimitValue} {d : Dimension} {u : Unit} {op : QuotaOp}

theorem allocationDimensions_eq_ok :
    allocationDimensions l sub = .ok cur ↔
      cur = l.allocation sub ∧ 0 ≤ l.allocation sub := by
  constructor
  · intro h
    obtain ⟨hsigned, hnn⟩ := valuesFrom_unsigned (le_refl _) h
    have he : cur = l.allocation sub := by
      have hb := @values_toMapping true (l.allocation sub) (Or.inl rfl)
      exact Except.ok.inj (hsigned.symm.trans hb)
    exact ⟨he, he ▸ hnn⟩
  · rintro ⟨rfl, hnn⟩
    exact values_toMapping (Or.inr hnn)

/-! ### Elementary changes -/

/-- The growth of `deltas` fits under every limit of a dimension that it changes. -/
def Room (l : Ledger) (scope : Scope) (deltas : Amounts) : Prop :=
  ∀ d, deltas d ≠ 0 →
    (∀ limit, l.tenantLimits.find? (scope.tenantId, d) = some limit →
      (l.tenantCounter scope.tenantId d).used + (l.tenantCounter scope.tenantId d).reserved
        + positive deltas d ≤ limit) ∧
    (∀ limit, l.projectLimits.find? (scope, d) = some limit →
      (l.projectCounter scope d).used + (l.projectCounter scope d).reserved
        + positive deltas d ≤ limit)

/-- One change of an active reservation, with what the service checked before it. -/
inductive Settle (l : Ledger) : Ledger → Prop
  /-- A commit: the growth becomes usage and the delta enters the allocation. -/
  | committed {l₁ : Ledger} {id : ℕ} {row : Reservation} (hrow : l.reservations.find? id = some row)
      (hact : row.status.active = true) (hnonneg : 0 ≤ l.allocation row.subject + row.deltas)
      (hsh : Shifted l l₁ row.subject.scope row.deltas (-positive row.deltas)) :
      Settle l ((l₁.putAllocation row.subject (l.allocation row.subject + row.deltas)).write id
        { row with status := .committed, reconciliationRequired := false } .committed)
  /-- A release: the growth is given back. -/
  | released {l₁ : Ledger} {id : ℕ} {row : Reservation} (hrow : l.reservations.find? id = some row)
      (hact : row.status.active = true)
      (hsh : Shifted l l₁ row.subject.scope 0 (-positive row.deltas)) :
      Settle l
        (l₁.write id { row with status := .released, reconciliationRequired := false } .released)
  /-- The outcome of the provider call is unknown. -/
  | marked {id : ℕ} {row : Reservation} (hrow : l.reservations.find? id = some row)
      (hact : row.status.active = true) :
      Settle l
        (l.write id { row with status := .uncertain, reconciliationRequired := true } .uncertain)

/-- One change of a limit row; a new limit covers what is booked already. -/
inductive Relimit (l : Ledger) : Ledger → Prop
  | project {scope : Scope} {d : Dimension} {limit : ℤ}
      (hcovers : (l.projectCounter scope d).used + (l.projectCounter scope d).reserved ≤ limit) :
      Relimit l { l with projectLimits := l.projectLimits.put (scope, d) limit }
  | tenant {tenantId : ℕ} {d : Dimension} {limit : ℤ}
      (hcovers : (l.tenantCounter tenantId d).used + (l.tenantCounter tenantId d).reserved ≤ limit) :
      Relimit l { l with tenantLimits := l.tenantLimits.put (tenantId, d) limit }
  | projectCleared {scope : Scope} {d : Dimension} :
      Relimit l { l with projectLimits := l.projectLimits.erase (scope, d) }
  | tenantCleared {tenantId : ℕ} {d : Dimension} :
      Relimit l { l with tenantLimits := l.tenantLimits.erase (tenantId, d) }

/-- A limit change touches no other table. -/
theorem Relimit.frame (h : Relimit l l') :
    ∃ tenantLimits projectLimits,
      l' = { l with tenantLimits := tenantLimits, projectLimits := projectLimits } := by
  cases h with
  | project | tenant | projectCleared | tenantCleared => exact ⟨_, _, rfl⟩

/-- One elementary change of the ledger. -/
inductive Move (l : Ledger) : Ledger → Prop
  /-- A request under a new key. -/
  | opened {l₁ : Ledger} {row : Reservation} (hst : row.status = .reserved)
      (hkey : l.reservationByKey row.requestKey = none) (hscope : row.subject.scope ∈ l.scopes)
      (hidle : l.activeOf row.subject = []) (hroom : Room l row.subject.scope row.deltas)
      (hsh : Shifted l l₁ row.subject.scope 0 (positive row.deltas)) (hne : row.deltas ≠ 0) :
      Move l (l₁.write l.reservations.fresh row .reserved)
  /-- A request under the key of a released reservation. -/
  | rearmed {l₁ : Ledger} {id : ℕ} {row : Reservation} (hrow : l.reservations.find? id = some row)
      (hrele : row.status = .released) (hroom : Room l row.subject.scope row.deltas)
      (hsh : Shifted l l₁ row.subject.scope 0 (positive row.deltas)) :
      Move l (l₁.write id { row with status := .reserved, reconciliationRequired := false }
        .reReserved)
  | settled {l' : Ledger} (h : Settle l l') : Move l l'
  | relimited {l' : Ledger} (h : Relimit l l') : Move l l'

/-! ### Inversion of the operations -/

theorem exceeds_eq_false {limit : Option ℤ} {x : ℤ} :
    exceeds limit usage x = false ↔ ∀ val, limit = some val → usage.used + usage.reserved + x ≤ val := by
  cases limit with
  | none | some val => simp [exceeds]

theorem admitUsage_isOk {growth : Amounts} :
    (∃ rows, admitUsage l scope growth d tenant project = .ok rows) ↔
      exceeds (l.tenantLimits.find? (scope.tenantId, d)) tenant (growth d) = false ∧
        exceeds (l.projectLimits.find? (scope, d)) project (growth d) = false ∧
          max tenant.reserved project.reserved + growth d ≤ bigIntegerMax := by
  unfold admitUsage
  split
  · next h => simp [fail, h]
  next h =>
  split
  · next h' => simp [fail, h']
  next h' =>
  split
  · next h'' => simp [fail, not_le.2 h'']
  · next h'' =>
    exact iff_of_true ⟨_, rfl⟩
      ⟨Bool.eq_false_iff.mpr h, Bool.eq_false_iff.mpr h', not_lt.1 h''⟩

/-- The admission loop of `reserve`. -/
theorem admission_spec {l₁ : Ledger}
    (h : updateUsage scope (admitUsage l scope (positive dl)) dl.keys l = .ok l₁) :
    Room l scope dl ∧ Shifted l l₁ scope 0 (positive dl) := by
  refine ⟨fun d hd => ?_, ?_⟩
  · have hbody := (updateUsage_isOk dl.nodup_keys).mp ⟨l₁, h⟩ d (Amounts.mem_keys.mpr hd)
    obtain ⟨ht, hp, -⟩ := admitUsage_isOk.mp hbody
    exact ⟨exceeds_eq_false.mp ht, exceeds_eq_false.mp hp⟩
  · refine updateUsage_shifted (admitUsage_shifts l scope _) dl.nodup_keys h fun d hd => ?_
    have hz : dl d = 0 := by simpa [Amounts.mem_keys] using hd
    exact ⟨rfl, positive_eq_zero hz⟩

theorem lockScope_eq_ok : lockScope l scope = .ok u ↔ scope ∈ l.scopes := by
  unfold lockScope
  split
  · next h => simp [h]
  · next h => simp [h, fail]

/-- What a call of `reserve` that returns has done. -/
inductive Reserves (l : Ledger) (quota : QuotaDelta) (key : String) : Option ℕ → Ledger → Prop
  | nothing (hdeltas : values true quota.deltas = .ok 0) : Reserves l quota key none l
  | existing {id : ℕ} {row : Reservation}
      (hkey : l.reservationByKey (truncateKey key) = some (id, row))
      (hsub : row.subject = quota.subject) (hdeltas : values true quota.deltas = .ok row.deltas)
      (hst : row.status ≠ .released) : Reserves l quota key (some id) l
  | rearmed {id : ℕ} {row : Reservation} {l₁ : Ledger}
      (hkey : l.reservationByKey (truncateKey key) = some (id, row))
      (hsub : row.subject = quota.subject) (hdeltas : values true quota.deltas = .ok row.deltas)
      (hst : row.status = .released) (hroom : Room l row.subject.scope row.deltas)
      (hsh : Shifted l l₁ row.subject.scope 0 (positive row.deltas)) :
      Reserves l quota key (some id)
        (l₁.write id { row with status := .reserved, reconciliationRequired := false } .reReserved)
  | opened {deltas : Amounts} {l₁ : Ledger}
      (hkey : l.reservationByKey (truncateKey key) = none)
      (hscope : quota.subject.scope ∈ l.scopes) (hdeltas : values true quota.deltas = .ok deltas)
      (hidle : l.activeOf quota.subject = []) (hroom : Room l quota.subject.scope deltas)
      (hsh : Shifted l l₁ quota.subject.scope 0 (positive deltas)) (hne : deltas ≠ 0) :
      Reserves l quota key (some l.reservations.fresh)
        (l₁.write l.reservations.fresh
          ⟨truncateKey key, quota.subject, quota.operation, deltas, .reserved, false⟩ .reserved)

theorem reserve_spec {quota : QuotaDelta} {res : Option ℕ}
    (h : reserve l quota key = .ok (res, l')) : Reserves l quota key res l' := by
  obtain ⟨dl, hd, h⟩ := bind_eq_ok.mp h
  split at h
  · next hz =>
    cases h
    exact .nothing (hz ▸ hd)
  next hn =>
  obtain ⟨_, hscope, h⟩ := bind_eq_ok.mp h
  rw [lockScope_eq_ok] at hscope
  split at h
  · next id existing hk =>
    split at h
    · cases h
    next hs =>
    have hsub : existing.subject = quota.subject := by
      by_contra hn
      exact hs (Or.inl hn)
    have hr : existing.deltas = dl := by
      by_contra hn
      exact hs (Or.inr hn)
    subst hr
    split at h
    · next hst =>
      cases h
      exact .existing hk hsub hd hst
    next hst =>
    obtain ⟨l₁, hl, h⟩ := bind_eq_ok.mp h
    cases h
    rw [← hsub] at hl
    obtain ⟨hroom, hsh⟩ := admission_spec hl
    exact .rearmed hk hsub hd (not_not.mp hst) hroom hsh
  · next hk =>
    split at h
    · cases h
    next hi =>
    obtain ⟨l₁, hl, h⟩ := bind_eq_ok.mp h
    cases h
    obtain ⟨hroom, hsh⟩ := admission_spec hl
    exact .opened hk hscope hd (not_not.mp hi) hroom hsh hn

/-- What a call of `commit_reservation` that returns has done. -/
inductive Commits (l : Ledger) (id : ℕ) : Ledger → Prop
  | missing (hrow : l.reservations.find? id = none) : Commits l id l
  | already {row : Reservation} (hrow : l.reservations.find? id = some row)
      (hst : row.status = .committed) : Commits l id l
  | settled {l₁ : Ledger} {row : Reservation} (hrow : l.reservations.find? id = some row)
      (hact : row.status.active = true) (hnonneg : 0 ≤ l.allocation row.subject + row.deltas)
      (hsh : Shifted l l₁ row.subject.scope row.deltas (-positive row.deltas)) :
      Commits l id ((l₁.putAllocation row.subject (l.allocation row.subject + row.deltas)).write id
        { row with status := .committed, reconciliationRequired := false } .committed)

theorem commitUsage_isOk :
    (∃ rows, commitUsage dl cur d tenant project = .ok rows) ↔
      positive dl d ≤ tenant.reserved ∧ positive dl d ≤ project.reserved ∧
        0 ≤ tenant.used + dl d ∧ 0 ≤ project.used + dl d ∧ 0 ≤ cur d + dl d := by
  unfold commitUsage
  split
  · next h =>
    simp only [fail, reduceCtorEq, exists_false, false_iff]
    rintro ⟨ht, hp, -⟩
    rcases h with h | h <;> omega
  next h =>
  simp only [not_or, not_lt] at h
  split
  · next h' =>
    simp only [fail, reduceCtorEq, exists_false, false_iff]
    rintro ⟨-, -, ht, hp, hs⟩
    simp only [min_lt_iff] at h'
    omega
  · next h' =>
    simp only [min_lt_iff, not_or, not_lt] at h'
    simp only [Except.ok.injEq, exists_eq', true_iff]
    exact ⟨h.1, h.2, h'.1, h'.2.1, h'.2.2⟩

theorem commitActive_spec {row : Reservation} (hr : l.reservations.find? id = some row)
    (ha : row.status.active = true) (h : commitActive l id row = .ok l') :
    Commits l id l' := by
  obtain ⟨cur, hc, h⟩ := bind_eq_ok.mp h
  obtain ⟨l₁, hl, h⟩ := bind_eq_ok.mp h
  obtain ⟨rfl, hnn⟩ := allocationDimensions_eq_ok.mp hc
  cases h
  have hs : Shifted l l₁ row.subject.scope row.deltas (-positive row.deltas) := by
    refine updateUsage_shifted (commitUsage_shifts _ _) row.deltas.nodup_keys hl fun d hd => ?_
    have hz : row.deltas d = 0 := by simpa [Amounts.mem_keys] using hd
    exact ⟨hz, by simp [positive_eq_zero hz]⟩
  refine .settled hr ha (fun d => ?_) hs
  by_cases hd : row.deltas d = 0
  · simpa [hd] using hnn d
  have hbody := (updateUsage_isOk row.deltas.nodup_keys).mp ⟨l₁, hl⟩ d (Amounts.mem_keys.mpr hd)
  exact (commitUsage_isOk.mp hbody).2.2.2.2

theorem commitReservation_spec (h : commitReservation l id = .ok l') : Commits l id l' := by
  unfold commitReservation at h
  split at h
  · next hr =>
    cases h
    exact .missing hr
  next row hr =>
  obtain ⟨_, -, h⟩ := bind_eq_ok.mp h
  split at h
  · next hs =>
    cases h
    exact .already hr hs
  · cases h
  · next hs => exact commitActive_spec hr (by rw [hs]; rfl) h
  · next hs => exact commitActive_spec hr (by rw [hs]; rfl) h

/-- What a call of `release_reservation` that returns has done. -/
inductive Releases (l : Ledger) (id : ℕ) : Ledger → Prop
  | missing (hrow : l.reservations.find? id = none) : Releases l id l
  | already {row : Reservation} (hrow : l.reservations.find? id = some row)
      (hst : row.status.active = false) : Releases l id l
  | given {l₁ : Ledger} {row : Reservation} (hrow : l.reservations.find? id = some row)
      (hact : row.status.active = true)
      (hsh : Shifted l l₁ row.subject.scope 0 (-positive row.deltas)) :
      Releases l id
        (l₁.write id { row with status := .released, reconciliationRequired := false } .released)

theorem releaseActive_spec {row : Reservation} (hr : l.reservations.find? id = some row)
    (ha : row.status.active = true) (h : releaseActive l id row = .ok l') :
    Releases l id l' := by
  obtain ⟨l₁, hl, h⟩ := bind_eq_ok.mp h
  cases h
  refine .given hr ha (updateUsage_shifted (releaseUsage_shifts _)
    (Amounts.nodup_keys _) hl fun d hd => ?_)
  have hz : positive row.deltas d = 0 := by simpa [Amounts.mem_keys] using hd
  exact ⟨rfl, by simp [hz]⟩

theorem releaseReservation_spec (h : releaseReservation l id = .ok l') : Releases l id l' := by
  unfold releaseReservation at h
  split at h
  · next hr =>
    cases h
    exact .missing hr
  next row hr =>
  obtain ⟨_, -, h⟩ := bind_eq_ok.mp h
  split at h
  · next hs =>
    cases h
    exact .already hr (by rw [hs]; rfl)
  · next hs =>
    cases h
    exact .already hr (by rw [hs]; rfl)
  · next hs => exact releaseActive_spec hr (by rw [hs]; rfl) h
  · next hs => exact releaseActive_spec hr (by rw [hs]; rfl) h

theorem markUncertain_spec (h : markUncertain l id = .ok l') :
    (l' = l ∧ ∀ row, l.reservations.find? id = some row → row.status.active = false) ∨
      ∃ row, l.reservations.find? id = some row ∧ row.status.active = true ∧ l'
        = l.write id { row with status := .uncertain, reconciliationRequired := true } .uncertain := by
  unfold markUncertain at h
  split at h
  · next hn =>
    cases h
    exact Or.inl ⟨rfl, by simp [hn]⟩
  next row hr =>
  obtain ⟨_, -, h⟩ := bind_eq_ok.mp h
  split at h
  · next ha =>
    cases h
    exact Or.inr ⟨row, hr, ha, rfl⟩
  next ha =>
  cases h
  refine Or.inl ⟨rfl, fun row' hr' => ?_⟩
  cases hr.symm.trans hr'
  exact Bool.eq_false_of_not_eq_true ha

/-! ### Every call is a sequence of moves -/

/-- Moves after which every row was there before or meets `writes`. -/
def Acts (writes : ℕ → Reservation → Prop) : Ledger → Ledger → Prop :=
  ReflTransGen fun l l' => Move l l' ∧ ∀ r row, l'.reservations.find? r = some row →
    l.reservations.find? r = some row ∨ writes r row

/-- The row of a reservation that a call has settled. -/
def Reservation.settledAs (row : Reservation) (status : ReservationStatus) : Reservation :=
  { row with status := status, reconciliationRequired := false }

/-- The reservations of a deployment that the presence or absence of its machine releases;
`allocated` says that the deployment has an allocation. -/
def presenceFrees (present allocated : Bool) (row : Reservation) : Bool :=
  if present then row.operation.destroys else row.operation.creates && !allocated

section Acts

variable {w : ℕ → Reservation → Prop} {row : Reservation}

theorem Acts.moves (h : Acts w l l') : ReflTransGen Move l l' :=
  ReflTransGen.mono (fun _ _ => And.left) _ _ h

/-- One move that writes one row. -/
theorem Acts.of_put (h : Move l l') (hp : l'.reservations = l.reservations.put id row)
    (hw : w id row) : Acts w l l' := by
  refine .single ⟨h, fun r row' hr => ?_⟩
  rw [hp, Table.find?_put_eq_some] at hr
  rcases hr with ⟨rfl, rfl⟩ | ⟨-, hr⟩
  · exact .inr hw
  · exact .inl hr

theorem Relimit.acts (h : Relimit l l') : Acts w l l' := by
  refine .single ⟨.relimited h, fun r row hr => .inl ?_⟩
  obtain ⟨_, _, rfl⟩ := h.frame
  exact hr

variable {quota : QuotaDelta} {n : ℕ} {present : Bool}

theorem Reserves.acts {res : Option ℕ} (h : Reserves l quota key res l')
    (hw : ∀ r row, row.subject = quota.subject → row.requestKey = truncateKey key →
      row.status = .reserved → w r row) : Acts w l l' := by
  cases h with
  | nothing | existing => exact .refl
  | rearmed hk hs _ hst hroom hsh =>
    have hr := Table.mem_rows.mp (List.mem_of_find?_eq_some hk)
    exact .of_put (.rearmed hr hst hroom hsh) (congrArg (Table.put · _ _) hsh.reservations)
      (hw _ _ hs (by simpa using List.find?_some hk) rfl)
  | opened hk hscope _ hi hroom hsh hn =>
    exact .of_put (Move.opened rfl hk hscope hi hroom hsh hn)
      (congrArg (Table.put · _ _) hsh.reservations) (hw _ _ rfl rfl rfl)

/-- A call that settles one reservation: its row, if it is active, gets the status. -/
def SettledAs (l : Ledger) (id : ℕ) (status : ReservationStatus) (l' : Ledger) : Prop :=
  (l' = l ∧ ∀ row, l.reservations.find? id = some row → row.status.active = false) ∨
    ∃ row, l.reservations.find? id = some row ∧ row.status.active = true ∧ Settle l l' ∧
      l'.reservations = l.reservations.put id (row.settledAs status)

theorem Commits.settledAs (h : Commits l id l') : SettledAs l id .committed l' := by
  cases h with
  | missing hn => exact .inl ⟨rfl, fun _ h => nomatch hn.symm.trans h⟩
  | already hr hs =>
    refine .inl ⟨rfl, fun _ h => ?_⟩
    cases hr.symm.trans h
    rw [hs]
    rfl
  | settled hr ha hnone hsh =>
    exact .inr ⟨_, hr, ha, .committed hr ha hnone hsh,
      congrArg (Table.put · _ _) hsh.reservations⟩

theorem Releases.settledAs (h : Releases l id l') : SettledAs l id .released l' := by
  cases h with
  | missing hn => exact .inl ⟨rfl, fun _ h => nomatch hn.symm.trans h⟩
  | already hr hs =>
    refine .inl ⟨rfl, fun _ h => ?_⟩
    cases hr.symm.trans h
    exact hs
  | given hr ha hsh =>
    exact .inr ⟨_, hr, ha, .released hr ha hsh,
      congrArg (Table.put · _ _) hsh.reservations⟩

theorem Releases.allocations (h : Releases l id l') : l'.allocations = l.allocations := by
  cases h with
  | missing | already => rfl
  | given _ _ hs => exact hs.allocations

/-- A commit of an active row. -/
theorem Commits.of_active (h : Commits l id l') (hr : l.reservations.find? id = some row)
    (ha : row.status.active = true) :
    ∃ l₁, 0 ≤ l.allocation row.subject + row.deltas ∧
      Shifted l l₁ row.subject.scope row.deltas (-positive row.deltas) ∧
      l' = (l₁.putAllocation row.subject (l.allocation row.subject + row.deltas)).write id
        (row.settledAs .committed) .committed := by
  cases h with
  | missing hn => cases hn.symm.trans hr
  | already hr' hs =>
    cases hr'.symm.trans hr
    rw [hs] at ha
    cases ha
  | settled hr' _ hnone hsh =>
    cases hr'.symm.trans hr
    exact ⟨_, hnone, hsh, rfl⟩

section SettledAs

variable {st : ReservationStatus} (h : SettledAs l id st l')

include h

theorem SettledAs.acts (hw : ∀ row, l.reservations.find? id = some row →
    row.status.active = true → w id (row.settledAs st)) : Acts w l l' := by
  rcases h with ⟨rfl, -⟩ | ⟨row, hr, ha, hsettle, hp⟩
  · exact .refl
  · exact .of_put (.settled hsettle) hp (hw row hr ha)

theorem SettledAs.put_of_active (hr : l.reservations.find? id = some row)
    (ha : row.status.active = true) :
    l'.reservations = l.reservations.put id (row.settledAs st) := by
  rcases h with ⟨-, hi⟩ | ⟨row', hr', -, -, hp⟩
  · rw [hi row hr] at ha
    cases ha
  · cases hr.symm.trans hr'
    exact hp

/-- What is active after the call is another reservation, as it was before. -/
theorem SettledAs.active_elsewhere {id' : ℕ} (hended : st.active = false)
    (hr : l'.reservations.find? id' = some row) (ha : row.status.active = true) :
    id' ≠ id ∧ l.reservations.find? id' = some row := by
  rcases h with ⟨rfl, hi⟩ | ⟨row₀, -, -, -, hp⟩
  · refine ⟨?_, hr⟩
    rintro rfl
    rw [hi row hr] at ha
    cases ha
  rw [hp, Table.find?_put_eq_some] at hr
  rcases hr with ⟨-, rfl⟩ | hr
  · rw [Reservation.settledAs, hended] at ha
    cases ha
  · exact hr

end SettledAs

theorem markUncertain_acts (h : markUncertain l id = .ok l')
    (hw : ∀ row, l.reservations.find? id = some row → w id { row with
      status := .uncertain, reconciliationRequired := true }) : Acts w l l' := by
  rcases markUncertain_spec h with ⟨rfl, -⟩ | ⟨row, hr, ha, rfl⟩
  · exact .refl
  · exact .of_put (.settled (.marked hr ha)) rfl (hw row hr)

theorem reconcileReservation_spec {outcome : String}
    (h : reconcileReservation l id outcome = .ok l') :
    outcome = "commit" ∧ Commits l id l' ∨ outcome = "release" ∧ Releases l id l' := by
  unfold reconcileReservation at h
  split at h
  · cases h
  obtain ⟨_, -, h⟩ := bind_eq_ok.mp h
  split at h
  · cases h
  split at h
  · next hcommit => exact .inl ⟨hcommit, commitReservation_spec h⟩
  split at h
  · next hrelease => exact .inr ⟨hrelease, releaseReservation_spec h⟩
  · cases h

theorem releaseEach_acts {ids : List ℕ} (h : releaseEach ids l = .ok l')
    (hw : ∀ id ∈ ids, ∀ row, l.reservations.find? id = some row → row.status.active = true →
      w id (row.settledAs .released)) : Acts w l l' := by
  induction ids generalizing l with
  | nil =>
    cases h
    exact .refl
  | cons id ids ih =>
    obtain ⟨l₁, hf, h⟩ := bind_eq_ok.mp h
    have hs := (releaseReservation_spec hf).settledAs
    rw [List.forall_mem_cons] at hw
    exact (hs.acts hw.1).trans (ih h fun x hx row hr ha =>
      hw.2 x hx row (hs.active_elsewhere rfl hr ha).2 ha)

theorem releaseActiveForSubject_spec (h : releaseActiveForSubject l sub = .ok (n, l')) :
    sub.scope ∈ l.scopes ∧ n = (l.activeOf sub).length ∧
      releaseEach ((l.activeOf sub).map Prod.fst) l = .ok l' := by
  obtain ⟨_, hscope, h⟩ := bind_eq_ok.mp h
  obtain ⟨l₁, hl, h⟩ := bind_eq_ok.mp h
  cases h
  exact ⟨lockScope_eq_ok.mp hscope, by simp, hl⟩

theorem mem_activeOf : (id, row) ∈ l.activeOf sub ↔
    l.reservations.find? id = some row ∧ row.subject = sub ∧ row.status.active = true := by
  rw [Ledger.activeOf, Table.mem_select]
  simp

theorem releaseActiveForSubject_acts (h : releaseActiveForSubject l sub = .ok (n, l'))
    (hw : ∀ id row, l.reservations.find? id = some row → row.subject = sub →
      row.status.active = true → w id (row.settledAs .released)) : Acts w l l' := by
  refine releaseEach_acts (releaseActiveForSubject_spec h).2.2 fun id hi row hr ha => ?_
  obtain ⟨⟨id, row'⟩, hm, rfl⟩ := List.mem_map.mp hi
  obtain ⟨hr', hs, -⟩ := mem_activeOf.mp hm
  cases hr.symm.trans hr'
  exact hw id row hr hs ha

/-- The loop of `reconcile_terraform_presence`. -/
theorem settleEach_acts {allocated : Bool} {rows : List (ℕ × Reservation)}
    (h : settleEach sub present rows allocated l = .ok l')
    (hk : ∀ r ∈ rows, r.2.operation.creates ∨ r.2.operation.destroys)
    (hrows : ∀ r ∈ rows, ∀ row, l.reservations.find? r.1 = some row → row.status.active = true →
      w r.1 (row.settledAs .committed) ∧
        (presenceFrees present allocated r.2 → w r.1 (row.settledAs .released))) :
    Acts w l l' := by
  induction rows generalizing allocated l with
  | nil =>
    cases h
    exact .refl
  | cons r rows ih =>
    obtain ⟨id, row⟩ := r
    rw [List.forall_mem_cons] at hk hrows
    -- one call, and then the rest of the loop, which frees no more than before
    have hs {l₁ : Ledger} {allocated₁ : Bool} {st : ReservationStatus}
        (hf : SettledAs l id st l₁) (hended : st.active = false)
        (hw : ∀ row, l.reservations.find? id = some row → row.status.active = true →
          w id (row.settledAs st))
        (h : settleEach sub present rows allocated₁ l₁ = .ok l')
        (hfrees : ∀ row, presenceFrees present allocated₁ row → presenceFrees present allocated row) :
        Acts w l l' := by
      refine (hf.acts hw).trans (ih h hk.2 fun x hx row hr ha => ?_)
      have hw := hrows.2 x hx row (hf.active_elsewhere hended hr ha).2 ha
      exact hw.imp_right fun hw h => hw (hfrees _ h)
    have hc {l₁ : Ledger} {allocated₁ : Bool} (hf : commitReservation l id = .ok l₁) :=
      @hs l₁ allocated₁ _ (commitReservation_spec hf).settledAs rfl fun row hr ha =>
        (hrows.1 row hr ha).1
    have hrelease {l₁ : Ledger} (hf : releaseReservation l id = .ok l₁)
        (h : settleEach sub present rows allocated l₁ = .ok l')
        (hfrees : presenceFrees present allocated row) : Acts w l l' :=
      hs (releaseReservation_spec hf).settledAs rfl
        (fun row hr ha => (hrows.1 row hr ha).2 hfrees) h fun _ h => h
    simp only [settleEach] at h
    split at h
    · next hcr =>
      split at h
      · exact ih h hk.2 hrows.2
      next hall =>
      split at h
      · next hpres =>
        obtain ⟨l₁, hf, h⟩ := bind_eq_ok.mp h
        exact hc hf h fun row hfrees => by simpa [presenceFrees, hpres] using hfrees
      · next hpres =>
        obtain ⟨l₁, hf, h⟩ := bind_eq_ok.mp h
        exact hrelease hf h (by simp [presenceFrees, hpres, hall, hcr])
    · next hcr =>
      split at h
      · next hpres =>
        obtain ⟨l₁, hf, h⟩ := bind_eq_ok.mp h
        refine hrelease hf h ?_
        simpa [presenceFrees, hpres] using hk.1.resolve_left hcr
      · obtain ⟨l₁, hf, h⟩ := bind_eq_ok.mp h
        exact hc hf h fun _ hfrees => hfrees

theorem reconcileTerraformPresence_acts {scope : Scope} {subjectId : ℕ}
    (h : reconcileTerraformPresence l scope subjectId present = .ok l')
    (hw : ∀ id row, l.reservations.find? id = some row →
      row.subject = ⟨scope, .deployment, subjectId⟩ → row.status.active = true →
      w id (row.settledAs .committed) ∧ (presenceFrees present
        (l.allocations.find? ⟨scope, .deployment, subjectId⟩).isSome row →
        w id (row.settledAs .released))) : Acts w l l' := by
  obtain ⟨_, -, h⟩ := bind_eq_ok.mp h
  refine settleEach_acts h (fun r hr => ?_) fun r hr row hrow ha => ?_
  · simpa using (List.mem_filter.mp hr).2
  obtain ⟨hr', hs, -⟩ := mem_activeOf.mp (List.mem_filter.mp hr).1
  cases hrow.symm.trans hr'
  exact hw r.1 r.2 hrow hs ha

theorem reservationByKey_eq_some (h : l.reservationByKey key = some (id, row)) :
    l.reservations.find? id = some row ∧ row.requestKey = key :=
  ⟨Table.mem_rows.mp (List.mem_of_find?_eq_some h), by simpa using List.find?_some h⟩

/-- The row that `reserve` returns. -/
theorem Reserves.found (h : Reserves l quota key (some id) l') :
    ∃ row, l'.reservations.find? id = some row ∧ row.subject = quota.subject ∧
      row.requestKey = truncateKey key ∧ row.status ≠ .released := by
  cases h with
  | existing hk hs _ hst =>
    obtain ⟨hr, hreq⟩ := reservationByKey_eq_some hk
    exact ⟨_, hr, hs, hreq, hst⟩
  | rearmed hk hs =>
    exact ⟨_, Table.find?_put_self .., hs, (reservationByKey_eq_some hk).2, nofun⟩
  | opened => exact ⟨_, Table.find?_put_self .., rfl, rfl, nofun⟩

/-- What a call of `account_confirmed_absent` that returns has done. -/
theorem accountConfirmedAbsent_spec (h : accountConfirmedAbsent l sub key = .ok l') :
    ∃ n l₁, releaseActiveForSubject l sub = .ok (n, l₁) ∧ 0 ≤ l₁.allocation sub ∧
      ((l₁.allocation sub = 0 ∧ l' = l₁) ∨
        l₁.allocation sub ≠ 0 ∧ ∃ id l₂, Reserves l₁ ⟨sub, .reconcileConfirmedAbsent,
            (-l₁.allocation sub).toMapping⟩ key (some id) l₂ ∧ Commits l₂ id l') := by
  obtain ⟨⟨n, l₁⟩, hrelease, h⟩ := bind_eq_ok.mp h
  obtain ⟨cur, hc, h⟩ := bind_eq_ok.mp h
  obtain ⟨rfl, hnn⟩ := allocationDimensions_eq_ok.mp hc
  refine ⟨n, l₁, hrelease, hnn, ?_⟩
  split at h
  · next hz =>
    cases h
    exact Or.inl ⟨hz, rfl⟩
  next hz =>
  obtain ⟨⟨res, l₂⟩, hrsv, h⟩ := bind_eq_ok.mp h
  have hr := reserve_spec hrsv
  cases res with
  | some id => exact Or.inr ⟨hz, id, l₂, hr, commitReservation_spec h⟩
  | none =>
    -- the reserved map is not empty, so a row comes back
    cases hr with
    | nothing hd =>
      have hb := @values_toMapping true (-l₁.allocation sub) (Or.inl rfl)
      have he := Except.ok.inj (hb.symm.trans hd)
      exact absurd (neg_eq_zero.mp he) hz

theorem accountConfirmedAbsent_acts (h : accountConfirmedAbsent l sub key = .ok l')
    (hrelease : ∀ id row, l.reservations.find? id = some row → row.subject = sub →
      row.status.active = true → w id (row.settledAs .released))
    (hn : ∀ id row, row.subject = sub → row.requestKey = truncateKey key →
      row.status = .reserved ∨ row.status = .committed → w id row) : Acts w l l' := by
  obtain ⟨n, l₁, hrele, -, hre⟩ := accountConfirmedAbsent_spec h
  have hf := releaseActiveForSubject_acts hrele hrelease
  rcases hre with ⟨-, rfl⟩ | ⟨-, id, l₂, hrsv, hc⟩
  · exact hf
  refine (hf.trans (hrsv.acts fun r row hs hk hr => hn r row hs hk (.inl hr))).trans
    (hc.settledAs.acts fun row hrow _ => ?_)
  obtain ⟨row', hr', hsub, hkey, -⟩ := hrsv.found
  cases hrow.symm.trans hr'
  exact hn id _ hsub hkey (.inr rfl)

end Acts

theorem ensureCovers_eq_ok {limit : ℤ} :
    ensureCovers limit usage = .ok u ↔ usage.used + usage.reserved ≤ limit := by
  unfold ensureCovers
  split
  · next h => simpa [fail] using h
  · next h => simpa using h

theorem setProjectLimit_relimits (h : setProjectLimit l live scope dim val = .ok l') :
    Relimit l l' := by
  simp only [setProjectLimit, bind_eq_ok] at h
  obtain ⟨d, -, _, -, _, -, limit, -, _, hc, h⟩ := h
  cases h
  exact .project (ensureCovers_eq_ok.mp hc)

theorem setTenantLimit_relimits (h : setTenantLimit l live scope dim val = .ok l') :
    Relimit l l' := by
  simp only [setTenantLimit, bind_eq_ok] at h
  obtain ⟨d, -, _, -, _, -, limit, -, _, hc, h⟩ := h
  cases h
  exact .tenant (ensureCovers_eq_ok.mp hc)

theorem clearProjectLimit_relimits (h : clearProjectLimit l scope dim = .ok l') : Relimit l l' := by
  obtain ⟨d, -, h⟩ := bind_eq_ok.mp h
  obtain ⟨_, -, h⟩ := bind_eq_ok.mp h
  cases h
  exact .projectCleared

theorem clearTenantLimit_relimits (h : clearTenantLimit l scope dim = .ok l') : Relimit l l' := by
  obtain ⟨d, -, h⟩ := bind_eq_ok.mp h
  obtain ⟨_, -, h⟩ := bind_eq_ok.mp h
  cases h
  exact .tenantCleared

/-- What an operation that returns has done: a request, an absence, or moves that reserve
nothing. -/
theorem QuotaOp.acts (h : op.apply l = .ok l') :
    (∃ quota key res, op = .reserve quota key ∧ Reserves l quota key res l') ∨
      (∃ sub key, op = .accountConfirmedAbsent sub key) ∨
      Acts (fun _ row => row.status ≠ .reserved) l l' := by
  cases op with
  | reserve quota key =>
    obtain ⟨⟨res, l₁⟩, hrsv, h⟩ := bind_eq_ok.mp h
    cases h
    exact .inl ⟨quota, key, res, rfl, reserve_spec hrsv⟩
  | accountConfirmedAbsent sub key => exact .inr (.inl ⟨sub, key, rfl⟩)
  | commit id => exact .inr (.inr ((commitReservation_spec h).settledAs.acts fun _ _ _ => nofun))
  | release id => exact .inr (.inr ((releaseReservation_spec h).settledAs.acts fun _ _ _ => nofun))
  | markUncertain id => exact .inr (.inr (markUncertain_acts h fun _ _ => nofun))
  | reconcile id outcome =>
    rcases reconcileReservation_spec h with ⟨-, h⟩ | ⟨-, h⟩
    all_goals exact .inr (.inr (h.settledAs.acts fun _ _ _ => nofun))
  | releaseActiveForSubject sub =>
    obtain ⟨⟨n, l₁⟩, hr, h⟩ := bind_eq_ok.mp h
    cases h
    exact .inr (.inr (releaseActiveForSubject_acts hr fun _ _ _ _ _ => nofun))
  | reconcileTerraformPresence scope subjectId present =>
    exact .inr (.inr (reconcileTerraformPresence_acts h fun _ _ _ _ _ => ⟨nofun, fun _ => nofun⟩))
  | setProjectLimit live scope dim val => exact .inr (.inr (setProjectLimit_relimits h).acts)
  | setTenantLimit live scope dim val => exact .inr (.inr (setTenantLimit_relimits h).acts)
  | clearProjectLimit scope dim => exact .inr (.inr (clearProjectLimit_relimits h).acts)
  | clearTenantLimit scope dim => exact .inr (.inr (clearTenantLimit_relimits h).acts)

/-- **Every call that returns is a finite sequence of elementary changes.** -/
theorem QuotaOp.moves (h : op.apply l = .ok l') : ReflTransGen Move l l' := by
  rcases QuotaOp.acts h with ⟨_, _, _, -, h⟩ | ⟨_, _, rfl⟩ | h
  · exact Acts.moves (h.acts (w := fun _ _ => True) fun _ _ _ _ _ => trivial)
  · exact Acts.moves (accountConfirmedAbsent_acts (w := fun _ _ => True) h
      (fun _ _ _ _ _ => trivial) fun _ _ _ _ _ => trivial)
  · exact h.moves

/-- Moves that reserve nothing settle reservations or set limits. -/
theorem Acts.settles (h : Acts (fun _ row => row.status ≠ .reserved) l l') :
    ReflTransGen (fun l l' => Settle l l' ∨ Relimit l l') l l' := by
  refine ReflTransGen.mono (fun l l' hm => ?_) _ _ h
  obtain ⟨hm, hrows⟩ := hm
  cases hm with
  | settled h => exact .inl h
  | relimited h => exact .inr h
  | opened hs =>
    rcases hrows _ _ (Table.find?_put_self ..) with ho | hn
    · rw [Table.find?_fresh] at ho
      cases ho
    · exact absurd hs hn
  | rearmed hr hrele =>
    rcases hrows _ _ (Table.find?_put_self ..) with ho | hn
    · have hs := congrArg Reservation.status (Option.some.inj (hr.symm.trans ho))
      rw [hrele] at hs
      cases hs
    · exact absurd rfl hn

/-- What every move preserves holds after every run of the service. -/
theorem quotaRun_invariant {Inv : Ledger → Prop} (hm : ∀ l l', Move l l' → Inv l → Inv l')
    (h : Inv l) (ops : List QuotaOp) : Inv (quotaRun l ops) :=
  run_invariant (fun _ _ hl =>
    attempt_invariant hl fun _ ho => closure_invariant hm (QuotaOp.moves ho) hl) h ops

end CloudPortal
