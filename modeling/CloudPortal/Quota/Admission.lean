/-
CloudPortal/Quota/Admission.lean

What the admission of a reservation is worth: it excludes a second one, it can be committed, and
the preview tells it.

* `Exclusive`: a subject has at most one active reservation.  `reserve` looks for another one when
  it opens a new key, but not when it re-arms a released one, so a key that comes back after
  another key was admitted gives the subject two (`rearmed_twice_active`).  Settling a reservation
  cannot break the rule (`Settle.exclusive`), and it holds in every run without such a step
  (`exclusive_run`).
* `Fits`: the deltas fitted the allocation when the reservation was made.  A commit adds them to
  the allocation and fails if a counter or the allocation would become negative, while the
  admission only looks at growth; it succeeds if the four representations agree (`Conserved`),
  nobody else changes the allocation (`Exclusive`) and the deltas fitted.  Those of Terraform jobs
  lead to a non-negative target and always fit; the deletion of a disk gives back the live size of
  the disk, whatever the allocation holds (`delete_disk_cannot_commit`).
* `admits_iff_allowed`: `check_delta` reads the counters of each dimension as they are, `reserve`
  checks a dimension after it has written the rows of those before it.  The rows of different
  dimensions are different rows, so both judge the same numbers.  `reserve` looks at more: the
  project, the request key, the other reservations of the subject, and whether the counters can
  store the sum.
-/
import CloudPortal.Quota.Conservation
import CloudPortal.Quota.Prepare

namespace CloudPortal

open RowStore Transition Relation

section Exclusive

/-- Two active reservations of one subject are the same row. -/
def Exclusive (l : Ledger) : Prop :=
  ∀ id₁ id₂ r₁ r₂, l.reservations.find? id₁ = some r₁ → l.reservations.find? id₂ = some r₂ →
    r₁.status.active = true → r₂.status.active = true → r₁.subject = r₂.subject → id₁ = id₂

/-! ### Rows of a subject -/

variable {l l' : Ledger} {r : Reservation} {sub : Subject} {id : ℕ}

theorem activeOf_eq_nil :
    l.activeOf sub = [] ↔
      ∀ id r, l.reservations.find? id = some r → r.subject = sub → r.status.active = false := by
  rw [List.eq_nil_iff_forall_not_mem]
  constructor
  · intro h id r hr hs
    by_contra ha
    exact h (id, r) (mem_activeOf.mpr ⟨hr, hs, by simpa using ha⟩)
  rintro h ⟨id, r⟩ hm
  obtain ⟨hr, hs, ha⟩ := mem_activeOf.mp hm
  rw [h id r hr hs] at ha
  cases ha

theorem Exclusive.length_activeOf (hl : Exclusive l) (sub : Subject) :
    (l.activeOf sub).length ≤ 1 := by
  have hnd : ((l.activeOf sub).map Prod.fst).Nodup :=
    (List.Sublist.map Prod.fst List.filter_sublist).nodup l.reservations.nodup
  rcases hr : l.activeOf sub with - | ⟨⟨id₁, r₁⟩, - | ⟨⟨id₂, r₂⟩, rest⟩⟩
  · simp
  · simp
  -- two rows would have to share their key
  obtain ⟨h₁, hs₁, ha₁⟩ := mem_activeOf.mp (hr ▸ List.mem_cons_self : (id₁, r₁) ∈ l.activeOf sub)
  obtain ⟨h₂, hs₂, ha₂⟩ := mem_activeOf.mp
    (hr ▸ List.mem_cons_of_mem _ List.mem_cons_self : (id₂, r₂) ∈ l.activeOf sub)
  have he := hl id₁ id₂ r₁ r₂ h₁ h₂ ha₁ ha₂ (hs₁.trans hs₂.symm)
  rw [hr] at hnd
  simp [he] at hnd

/-! ### Steps -/

/-- Writing a row keeps the rule if the row is not active or no other row of its
subject is. -/
theorem Exclusive.of_put (hl : Exclusive l) {row : Reservation}
    (hr : l'.reservations = l.reservations.put id row)
    (halone : row.status.active = true → ∀ id' r, l.reservations.find? id' = some r →
      r.status.active = true → r.subject = row.subject → id' = id) : Exclusive l' := by
  intro id₁ id₂ r₁ r₂ h₁ h₂ ha₁ ha₂ hs
  rw [hr, Table.find?_put] at h₁ h₂
  split at h₁
  · next hi₁ =>
    cases h₁
    split at h₂
    · next hi₂ => exact hi₁.trans hi₂.symm
    · exact hi₁.trans (halone ha₁ id₂ r₂ h₂ ha₂ hs.symm).symm
  · split at h₂
    · next hi₂ =>
      cases h₂
      exact (halone ha₂ id₁ r₁ h₁ ha₁ hs).trans hi₂.symm
    · exact hl id₁ id₂ r₁ r₂ h₁ h₂ ha₁ ha₂ hs

/-- **Settling a reservation keeps the rule.** -/
theorem Settle.exclusive (h : Settle l l') (hl : Exclusive l) : Exclusive l' := by
  cases h with
  | committed _ _ _ hsh | released _ _ hsh =>
    exact hl.of_put (congrArg (Table.put · _ _) hsh.reservations) fun h => nomatch h
  | marked hrow hact => exact hl.of_put rfl fun _ id' r hr ha hs => hl id' _ r _ hr hrow ha hact hs

/-- Moves that reserve nothing keep the rule. -/
theorem Acts.exclusive (h : Acts (fun _ row => row.status ≠ .reserved) l l') (hl : Exclusive l) :
    Exclusive l' := by
  refine closure_invariant (fun l l' hm hl => ?_) h.settles hl
  rcases hm with hsettle | hlimit
  · exact hsettle.exclusive hl
  obtain ⟨_, _, rfl⟩ := hlimit.frame
  exact hl

/-- Admitting a request of an idle subject keeps the rule. -/
theorem Reserves.exclusive {quota : QuotaDelta} {key : String} {result : Option ℕ}
    (h : Reserves l quota key result l') (hl : Exclusive l)
    (hi : ∀ id row, l.reservationByKey (truncateKey key) = some (id, row) →
      row.subject = quota.subject → values true quota.deltas = .ok row.deltas →
      row.status = .released → l.activeOf row.subject = []) : Exclusive l' := by
  cases h with
  | nothing => exact hl
  | existing => exact hl
  | @rearmed id row l₁ hk hsub hd hst _ hsh =>
    refine hl.of_put (congrArg (Table.put · _ _) hsh.reservations) fun _ id' r hr ha hs => ?_
    have hn := activeOf_eq_nil.mp (hi id row hk hsub hd hst) id' r hr hs
    rw [ha] at hn
    cases hn
  | opened _ _ _ hn _ hsh =>
    refine hl.of_put (congrArg (Table.put · _ _) hsh.reservations) fun _ id' r hr ha hs => ?_
    have hinactive := activeOf_eq_nil.mp hn id' r hr hs
    rw [ha] at hinactive
    cases hinactive

/-! ### A subject whose reservations were all released -/

/-- What is active after the release loop was active before and not visited. -/
theorem releaseEach_active {ids : List ℕ} (h : releaseEach ids l = .ok l')
    (hr : l'.reservations.find? id = some r) (ha : r.status.active = true) :
    id ∉ ids ∧ l.reservations.find? id = some r := by
  induction ids generalizing l with
  | nil =>
    cases h
    exact ⟨List.not_mem_nil, hr⟩
  | cons id₀ ids ih =>
    obtain ⟨l₁, hf, h⟩ := bind_eq_ok.mp h
    obtain ⟨hnot, hr₁⟩ := ih h
    obtain ⟨hn, hrow₀⟩ := (releaseReservation_spec hf).settledAs.active_elsewhere rfl hr₁ ha
    exact ⟨List.not_mem_cons_of_ne_of_not_mem hn hnot, hrow₀⟩

/-- After `release_active_for_subject` the subject is idle. -/
theorem releaseActiveForSubject_idle {n : ℕ} (h : releaseActiveForSubject l sub = .ok (n, l')) :
    l'.activeOf sub = [] := by
  obtain ⟨-, -, hl⟩ := releaseActiveForSubject_spec h
  refine activeOf_eq_nil.mpr fun id r hr hs => ?_
  by_contra ha
  rw [Bool.not_eq_false] at ha
  obtain ⟨hn, hrow₀⟩ := releaseEach_active hl hr ha
  exact hn (List.mem_map.mpr ⟨(id, r), mem_activeOf.mpr ⟨hrow₀, hs, ha⟩, rfl⟩)

/-! ### Runs -/

/-- The call re-arms a released key although its subject has another active
reservation. -/
def rearmsBusy (l : Ledger) : QuotaOp → Bool
  | .reserve quota key =>
    match l.reservationByKey (truncateKey key), values true quota.deltas with
    | some (_, row), .ok deltas =>
      row.subject = quota.subject && row.deltas = deltas && row.status = .released
        && !(l.activeOf row.subject).isEmpty
    | _, _ => false
  | _ => false

theorem Exclusive.apply {op : QuotaOp} (hl : Exclusive l) (ho : rearmsBusy l op = false)
    (h : op.apply l = .ok l') : Exclusive l' := by
  rcases QuotaOp.acts h with ⟨quota, key, result, rfl, hrsv⟩ | ⟨sub, key, rfl⟩ | h
  · refine hrsv.exclusive hl fun id row hk hs hd hst => ?_
    simpa [rearmsBusy, hk, hd, hs, hst] using ho
  · obtain ⟨n, l₁, hrelease, -, hr⟩ := accountConfirmedAbsent_spec h
    have h₁ := (releaseActiveForSubject_acts hrelease fun _ _ _ _ _ => nofun).exclusive hl
    rcases hr with ⟨-, rfl⟩ | ⟨-, id, l₂, hrsv, hcommit⟩
    · exact h₁
    -- the subject was just cleared, so even a re-armed key finds it idle
    have h₂ : Exclusive l₂ := hrsv.exclusive h₁ fun _ _ _ hs _ _ => by
      rw [hs]
      exact releaseActiveForSubject_idle hrelease
    exact (hcommit.settledAs.acts fun _ _ _ => nofun).exclusive h₂
  · exact h.exclusive hl

theorem exclusive_empty (scopes : Finset Scope) : Exclusive (Ledger.empty scopes) :=
  fun _ _ _ _ h => nomatch h

/-- **One active reservation per subject**, in every run in which no call re-arms
a released key while its subject has another active reservation. -/
theorem exclusive_run (scopes : Finset Scope) (ops : List QuotaOp)
    (hops : Guarded (fun l op => rearmsBusy l op = false) QuotaOp.step (Ledger.empty scopes) ops)
    (subject : Subject) : ((quotaRun (Ledger.empty scopes) ops).activeOf subject).length ≤ 1 := by
  have hr : Exclusive (quotaRun (Ledger.empty scopes) ops) :=
    guarded_invariant (fun _ _ hl ho => attempt_invariant hl fun _ h => hl.apply ho h)
      (exclusive_empty scopes) hops
  exact hr.length_activeOf subject

/-- The project of the following two histories. -/
def sampleScopes : Finset Scope := {⟨1, 1⟩}

/-- Their deployment. -/
def sampleSubject : Subject := ⟨⟨1, 1⟩, .deployment, 7⟩

/-- Two keys of one deployment, where the second is admitted after the first one
was released. -/
def sampleHistory : List QuotaOp :=
  [.reserve ⟨sampleSubject, .terraformApply, [("vm_count", .integer 1)]⟩ "job:1", .release 1,
    .reserve ⟨sampleSubject, .terraformApply, [("vcpu", .integer 2)]⟩ "job:2"]

theorem exclusive_run_sample :
    ((quotaRun (Ledger.empty sampleScopes) sampleHistory).activeOf sampleSubject).length ≤ 1 :=
  exclusive_run sampleScopes sampleHistory (by decide +kernel) sampleSubject

/-- When the released key comes back, the deployment has two active reservations. -/
theorem rearmed_twice_active :
    ¬((quotaRun (Ledger.empty sampleScopes) (sampleHistory ++
      [.reserve ⟨sampleSubject, .terraformApply, [("vm_count", .integer 1)]⟩ "job:1"])).activeOf
        sampleSubject).length ≤ 1 := by
  decide +kernel

end Exclusive

/-! ### What the preparing functions do -/

theorem nonnegativeInt_nonneg (val : Option RawValue) : 0 ≤ nonnegativeInt val := by
  rcases val with - | ⟨b⟩ | n | -
  · exact le_refl _
  · exact le_refl _
  · exact le_max_left _ _
  · exact le_refl _

theorem deploymentDimensions_nonneg (dep : DeploymentShape) :
    0 ≤ deploymentDimensions dep := by
  intro d
  have hn := nonnegativeInt_nonneg
  unfold deploymentDimensions
  rcases dep with ⟨id, provider, cap⟩
  cases provider <;> cases d <;> simp [hn]

variable {tgt : Amounts} {act : Day2Kind} {live : Day2Live} {ps : Day2Params}
  {d : DeploymentShape} {job : JobRef} {l l' : Ledger} {tag tag' : QuotaTag}

theorem importTarget_nonneg (h : importTarget l job tag = .ok tgt) : 0 ≤ tgt := by
  unfold importTarget at h
  split at h
  · cases h
  obtain ⟨baseline, hb, h⟩ := bind_eq_ok.mp h
  obtain ⟨_, -, h⟩ := bind_eq_ok.mp h
  cases h
  have hnn := (valuesFrom_unsigned (le_refl _) hb).2
  intro d
  by_cases hd : d = .vmCount
  · subst hd
    simp
  · simpa [hd] using hnn d

theorem requestedTarget_nonneg (h : requestedTarget l job d = .ok tgt) :
    0 ≤ tgt := by
  obtain ⟨_, -, h⟩ := bind_eq_ok.mp h
  cases h
  exact deploymentDimensions_nonneg d

theorem map_some_eq_ok {ε α : Type} {x : Except ε α} {a : α} :
    some <$> x = .ok (some a) ↔ x = .ok a := by
  cases x with
  | error e | ok b => simp [Functor.map, Except.map]

theorem jobTarget_nonneg (h : jobTarget l job d tag = .ok (some tgt)) : 0 ≤ tgt := by
  unfold jobTarget at h
  split at h
  · exact requestedTarget_nonneg (map_some_eq_ok.mp h)
  · exact requestedTarget_nonneg (map_some_eq_ok.mp h)
  · exact importTarget_nonneg (map_some_eq_ok.mp h)
  · cases h
    exact le_refl _
  · cases h
    exact le_refl _
  · cases h

/-- The subject that a job of a deployment is accounted to. -/
def JobRef.subject (job : JobRef) (deployment : DeploymentShape) : Subject :=
  ⟨job.scope, .deployment, deployment.id⟩

/-- A change without entries is no change. -/
theorem eq_of_sub_toMapping_eq_nil {a b : Amounts} (h : (a - b).toMapping = []) : a = b := by
  have hv : values true (a - b).toMapping = .ok (a - b) := values_toMapping (Or.inl rfl)
  rw [h] at hv
  exact sub_eq_zero.mp (Except.ok.inj hv).symm

/-- What a call of `prepare_job_reservation` that returns has done. -/
inductive PreparesJob (l : Ledger) (job : JobRef) (tag : QuotaTag) :
    Option DeploymentShape → QuotaTag → Ledger → Prop
  /-- Not a mutation of a deployment. -/
  | skipped {deployment : Option DeploymentShape}
      (hnone : deployment = none ∨ job.operation.mutatingTerraform = false) :
      PreparesJob l job tag deployment tag l
  /-- Nothing changes; the payload keeps the reservation id it had. -/
  | unchanged {deployment : DeploymentShape} {tag₁ : QuotaTag} {l₁ : Ledger}
      (hsupersedes : supersede l job deployment tag = .ok (tag₁, l₁))
      (hsame : jobTarget l₁ job deployment tag = .ok none
        ∨ jobTarget l₁ job deployment tag = .ok (some (l₁.allocation (job.subject deployment)))) :
      PreparesJob l job tag (some deployment) { tag₁ with checked := true } l₁
  /-- The change to a non-negative target is reserved. -/
  | reserved {deployment : DeploymentShape} {tag₁ : QuotaTag} {l₁ l₂ : Ledger} {target : Amounts}
      {result : Option ℕ} (hsupersedes : supersede l job deployment tag = .ok (tag₁, l₁))
      (htgt : 0 ≤ target)
      (hrsv : Reserves l₁ ⟨job.subject deployment, job.operation,
        (target - l₁.allocation (job.subject deployment)).toMapping⟩ (jobKey job.id) result l₂) :
      PreparesJob l job tag (some deployment)
        { tag₁ with checked := true, reservationId := result } l₂

theorem prepareJobReservation_spec {d : Option DeploymentShape}
    (h : prepareJobReservation l job d tag = .ok (tag', l')) :
    PreparesJob l job tag d tag' l' := by
  unfold prepareJobReservation at h
  split at h
  · cases h
    exact .skipped (.inl rfl)
  next d =>
  split at h
  · next ho =>
    cases h
    exact .skipped (.inr (by simpa using ho))
  obtain ⟨⟨tag₁, l₁⟩, hsupersede, h⟩ := bind_eq_ok.mp h
  obtain ⟨quota, hq, h⟩ := bind_eq_ok.mp h
  obtain ⟨cur, hc, hq⟩ := bind_eq_ok.mp hq
  obtain ⟨tgt?, hg, hq⟩ := bind_eq_ok.mp hq
  obtain ⟨rfl, -⟩ := allocationDimensions_eq_ok.mp hc
  cases tgt? with
  | none =>
    cases hq
    cases h
    exact .unchanged hsupersede (.inl hg)
  | some tgt =>
    cases hq
    dsimp only at h
    split at h
    · next hempty =>
      cases h
      have hs := eq_of_sub_toMapping_eq_nil hempty
      exact .unchanged hsupersede (.inr (hs ▸ hg))
    · obtain ⟨⟨result, l₂⟩, hr, h⟩ := bind_eq_ok.mp h
      cases h
      exact .reserved hsupersede (jobTarget_nonneg hg) (reserve_spec hr)

/-- What a call of `prepare_day2_reservation` that returns has done. -/
inductive PreparesDay2 (l : Ledger) (jobId : ℕ) (target : Option InventoryRef) (action : Day2Kind)
    (params : Day2Params) (live : Day2Live) (tag : QuotaTag) : QuotaTag → Ledger → Prop
  | unchanged : PreparesDay2 l jobId target action params live tag { tag with checked := true } l
  | reserved {subject : Subject} {deltas : Amounts} {result : Option ℕ} {l' : Ledger}
      (hsub : targetSubject target = .ok subject) (hnonneg : 0 ≤ l.allocation subject)
      (hdeltas : actionDeltas l subject.scope (l.allocation subject) action params live = .ok deltas)
      (hrsv : Reserves l ⟨subject, .day2 action, deltas.toMapping⟩ (jobKey jobId) result l') :
      PreparesDay2 l jobId target action params live tag
        { tag with checked := true, reservationId := result } l'

variable {jobId id : ℕ} {tgt : Option InventoryRef} {ds alloc : Amounts}
  {w : ℕ → Reservation → Prop} {sub : Subject} {row : Reservation}

theorem prepareDay2Reservation_spec
    (h : prepareDay2Reservation l jobId tgt act ps live tag = .ok (tag', l')) :
    PreparesDay2 l jobId tgt act ps live tag tag' l' := by
  obtain ⟨⟨quota, checks⟩, hcheck, h⟩ := bind_eq_ok.mp h
  obtain ⟨quota', hq, hcheck⟩ := bind_eq_ok.mp hcheck
  obtain ⟨checks', -, hcheck⟩ := bind_eq_ok.mp hcheck
  split at hcheck
  · cases hcheck
  cases hcheck
  obtain ⟨sub, hs, hr⟩ := bind_eq_ok.mp hq
  obtain ⟨cur, hc, hr⟩ := bind_eq_ok.mp hr
  obtain ⟨ds, hd, hl⟩ := bind_eq_ok.mp hr
  obtain ⟨rfl, hnonneg⟩ := allocationDimensions_eq_ok.mp hc
  cases hl
  dsimp only at h
  split at h
  · cases h
    exact .unchanged
  obtain ⟨⟨result, l₂⟩, hrsv, h⟩ := bind_eq_ok.mp h
  cases h
  exact .reserved hs hnonneg hd (reserve_spec hrsv)

/-! ### Deltas that fit the allocation -/

/-- Every active reservation leaves its subject a non-negative allocation. -/
def Fits (l : Ledger) : Prop :=
  ∀ id row, l.reservations.find? id = some row → row.status.active = true →
    0 ≤ l.allocation row.subject + row.deltas

/-- What holds as long as every admitted reservation can be committed. -/
structure Admissible (l : Ledger) : Prop where
  conserved : Conserved l
  exclusive : Exclusive l
  fits : Fits l

theorem allocation_putAllocation (l : Ledger) (sub sub' : Subject) (tgt : Amounts) :
    (l.putAllocation sub tgt).allocation sub' = if sub' = sub then tgt else l.allocation sub' := by
  rw [Ledger.allocation, find?_putAllocation]
  by_cases hs : sub' = sub
  · by_cases hg : tgt = 0
    · simp [hs, hg]
    · simp [hs, hg]
  · simp [hs, Ledger.allocation]

/-- Writing a row that fits keeps `Fits` when no allocation changes. -/
theorem Fits.of_put (hl : Fits l)
    (hres : l'.reservations = l.reservations.put id row) (hall : l'.allocations = l.allocations)
    (hrow : row.status.active = true → 0 ≤ l.allocation row.subject + row.deltas) : Fits l' := by
  intro id' r hr ha
  rw [hres, Table.find?_put] at hr
  rw [Ledger.allocation, hall]
  split at hr
  · cases hr
    exact hrow ha
  · exact hl id' r hr ha

/-- **Settling a reservation keeps the others committable.** -/
theorem Settle.admissible (h : Settle l l') (hl : Admissible l) : Admissible l' := by
  refine ⟨h.conserved hl.conserved, h.exclusive hl.exclusive, ?_⟩
  cases h with
  | @committed l₁ id row hrow hact _ hsh =>
    -- the allocation of the subject changes, but nothing else is active there
    intro id' r hr ha
    simp only [Ledger.write, Ledger.putAllocation, hsh.reservations, Table.find?_put] at hr
    split at hr
    · cases hr
      cases ha
    next hn =>
    have hsub : r.subject ≠ row.subject := fun he =>
      hn (hl.exclusive id' id r row hr hrow ha hact he)
    have hs : ((l₁.putAllocation row.subject (l.allocation row.subject + row.deltas)).write id
        { row with status := .committed, reconciliationRequired := false }
        .committed).allocation r.subject = l.allocation r.subject := by
      refine (allocation_putAllocation l₁ row.subject r.subject _).trans ?_
      rw [if_neg hsub, Ledger.allocation, hsh.allocations]
      rfl
    rw [hs]
    exact hl.fits id' r hr ha
  | released _ _ hsh =>
    exact hl.fits.of_put (congrArg (Table.put · _ _) hsh.reservations) hsh.allocations
      (by simp [ReservationStatus.active])
  | @marked id row hrow hact => exact hl.fits.of_put rfl rfl fun _ => hl.fits id row hrow hact

/-- Admitting deltas that fit an idle subject keeps everything committable. -/
theorem Reserves.admissible {quota : QuotaDelta} {key : String} {res : Option ℕ}
    (h : Reserves l quota key res l') (hl : Admissible l)
    (hdeltas : quota.deltas = ds.toMapping) (hfits : 0 ≤ l.allocation quota.subject + ds)
    (hi : ∀ id row, l.reservationByKey (truncateKey key) = some (id, row) →
      row.subject = quota.subject → row.status = .released → l.activeOf row.subject = []) :
    Admissible l' := by
  have hv : values true quota.deltas = .ok ds := by
    rw [hdeltas]
    exact values_toMapping (Or.inl rfl)
  have hmoves := Acts.moves (h.acts (w := fun _ _ => True) fun _ _ _ _ _ => trivial)
  refine ⟨closure_invariant (fun _ _ hm => hm.conserved) hmoves hl.conserved,
    h.exclusive hl.exclusive fun id row hk hs _ hr => hi id row hk hs hr, ?_⟩
  cases h with
  | nothing | existing => exact hl.fits
  | @rearmed id row l₁ _ hsub hd _ _ hsh =>
    refine hl.fits.of_put (congrArg (Table.put · _ _) hsh.reservations) hsh.allocations
      fun _ => ?_
    have he : row.deltas = ds := Except.ok.inj (hd.symm.trans hv)
    show 0 ≤ l.allocation row.subject + row.deltas
    rw [hsub, he]
    exact hfits
  | @opened ds' l₁ _ _ hd _ _ hsh =>
    refine hl.fits.of_put (congrArg (Table.put · _ _) hsh.reservations) hsh.allocations
      fun _ => ?_
    have he : ds' = ds := Except.ok.inj (hd.symm.trans hv)
    show 0 ≤ l.allocation quota.subject + ds'
    rw [he]
    exact hfits

/-- **An admissible ledger commits every active reservation.** -/
theorem Admissible.commit_isOk (hl : Admissible l)
    (hr : l.reservations.find? id = some row) (ha : row.status.active = true) :
    ∃ l', commitReservation l id = .ok l' := by
  have hsc := hl.conserved.known id row hr
  have hfits := hl.fits id row hr ha
  have hc : allocationDimensions l row.subject = .ok (l.allocation row.subject) :=
    allocationDimensions_eq_ok.mpr ⟨rfl, hl.conserved.allocation_nonneg row.subject⟩
  have hloop : ∃ l', updateUsage row.subject.scope
      (commitUsage row.deltas (l.allocation row.subject)) row.deltas.keys l = .ok l' := by
    refine (updateUsage_isOk row.deltas.nodup_keys).mpr fun d _ => commitUsage_isOk.mpr ?_
    have hgrowth := hl.conserved.growth_le_projectReserved hr ha d
    have hused := hl.conserved.allocation_le_projectUsed row.subject d
    have hreserved' := hl.conserved.projectReserved_le_tenant hsc d
    have hused' := hl.conserved.projectUsed_le_tenant hsc d
    have hn : 0 ≤ l.allocation row.subject d + row.deltas d := hfits d
    exact ⟨by omega, hgrowth, by omega, by omega, hn⟩
  obtain ⟨l₁, hl₁⟩ := hloop
  have hcommit : ∃ l', commitActive l id row = .ok l' :=
    ⟨_, bind_eq_ok.mpr ⟨_, hc, bind_eq_ok.mpr ⟨l₁, hl₁, rfl⟩⟩⟩
  obtain ⟨l', hl'⟩ := hcommit
  have hlock : lockScope l row.subject.scope = .ok () := lockScope_eq_ok.mpr hsc
  refine ⟨l', ?_⟩
  unfold commitReservation
  rcases hs : row.status with - | - | - | -
  · simpa [hr, hs, hlock, bind, Except.bind] using hl'
  · simpa [hr, hs, hlock, bind, Except.bind] using hl'
  all_goals
    rw [hs] at ha
    cases ha

/-! ### Runs of admissions and settlements -/

def QuotaOp.isReserve : QuotaOp → Bool
  | .reserve _ _ => true
  | _ => false

/-- The transactions that touch the quota tables: reservations are made by the
two preparing functions only. -/
inductive AdmissionOp
  | prepareJob (job : JobRef) (deployment : Option DeploymentShape) (tag : QuotaTag)
  | prepareDay2 (jobId : ℕ) (target : Option InventoryRef) (action : Day2Kind) (params : Day2Params)
      (live : Day2Live) (tag : QuotaTag)
  | service (op : { op : QuotaOp // op.isReserve = false })

def AdmissionOp.apply (l : Ledger) : AdmissionOp → Except QuotaError Ledger
  | .prepareJob job deployment tag => do
      let (_, l') ← prepareJobReservation l job deployment tag
      .ok l'
  | .prepareDay2 jobId target action params live tag => do
      let (_, l') ← prepareDay2Reservation l jobId target action params live tag
      .ok l'
  | .service op => op.1.apply l

def AdmissionOp.step (l : Ledger) (op : AdmissionOp) : Ledger :=
  attempt (fun l op => AdmissionOp.apply l op) l op

def admissionRun (l : Ledger) (ops : List AdmissionOp) : Ledger := run AdmissionOp.step l ops

/-- The job's key was released and would be re-armed although its subject has
another active reservation. -/
def rearmsJobBusy (l : Ledger) (jobId : ℕ) (subject : Subject) : Bool :=
  match l.reservationByKey (truncateKey (jobKey jobId)) with
  | some (_, row) =>
    row.subject = subject && row.status = .released && !(l.activeOf row.subject).isEmpty
  | none => false

/-- A disk deletion whose live size is more than the allocation of its subject holds. -/
def overDeletes (l : Ledger) (subject : Subject) (action : Day2Kind) (live : Day2Live) : Bool :=
  action = .deleteDisk && l.allocation subject ≠ 0
    && l.allocation subject .diskGib < max 0 (live.sizeGib.getD 0)

/-- The two ways in which an admission can make a later commit fail. -/
def AdmissionOp.hazard (l : Ledger) : AdmissionOp → Bool
  | .prepareJob job (some deployment) _ =>
    !job.operation.destroys && rearmsJobBusy l job.id (job.subject deployment)
  | .prepareJob _ none _ => false
  | .prepareDay2 jobId target action _ live _ =>
    match targetSubject target with
    | .ok subject => rearmsJobBusy l jobId subject || overDeletes l subject action live
    | .error _ => false
  | .service _ => false

theorem idle_of_not_rearmsJobBusy (h : rearmsJobBusy l jobId sub = false)
    (id : ℕ) (row : Reservation)
    (hk : l.reservationByKey (truncateKey (jobKey jobId)) = some (id, row))
    (hs : row.subject = sub) (hstatus : row.status = .released) :
    l.activeOf row.subject = [] := by
  simpa [rearmsJobBusy, hk, hs, hstatus] using h

theorem resizeDeltas_fits (hnonneg : 0 ≤ alloc) (ps : Day2Params) (live : Day2Live) :
    0 ≤ alloc + resizeDeltas alloc ps live := by
  have hcharge : ∀ d (requested : ℤ), 0 ≤ requested →
      0 ≤ alloc d + (requested - if alloc d ≠ 0 then alloc d else requested) := by
    intro d requested hrequested
    have hd : 0 ≤ alloc d := hnonneg d
    split <;> omega
  intro d
  show 0 ≤ alloc d + resizeDeltas alloc ps live d
  have hd : 0 ≤ alloc d := hnonneg d
  cases d with
  | vcpu =>
    simp only [resizeDeltas]
    split
    · exact hcharge .vcpu _ (le_max_left _ _)
    · simpa using hd
  | memoryMb =>
    simp only [resizeDeltas]
    split
    · exact hcharge .memoryMb _ (le_max_left _ _)
    · simpa using hd
  | vmCount | diskGib => simpa [resizeDeltas] using hd

theorem diskChange_fits (hnonneg : 0 ≤ alloc) (ps : Day2Params) (live : Day2Live)
    (hdelete : act = .addDisk ∨ act = .resizeDisk ∨ max 0 (live.sizeGib.getD 0) ≤ alloc .diskGib) :
    0 ≤ alloc + (Function.update 0 .diskGib (diskChange act ps live) : Amounts) := by
  intro d
  have hd : 0 ≤ alloc d := hnonneg d
  by_cases hdisk : d = .diskGib
  · subst hdisk
    rw [Pi.add_apply, Function.update_self, Pi.zero_apply]
    rcases hdelete with rfl | rfl | h
    · simp only [diskChange]
      omega
    · simp only [diskChange]
      omega
    · cases act <;> simp only [diskChange] <;> omega
  · rw [Pi.add_apply, Function.update_of_ne hdisk]
    simpa using hd

/-- The deltas of a Day-2 action fit, unless it deletes more disk than is allocated. -/
theorem actionDeltas_fits (hnonneg : 0 ≤ l.allocation sub) (hover : overDeletes l sub act live = false)
    (h : actionDeltas l sub.scope (l.allocation sub) act ps live = .ok ds) :
    0 ≤ l.allocation sub + ds := by
  have hz : 0 ≤ l.allocation sub + (0 : Amounts) := by simpa using hnonneg
  have hdelete : act = .deleteDisk → l.allocation sub ≠ 0 →
      max 0 (live.sizeGib.getD 0) ≤ l.allocation sub .diskGib := by
    intro haction ha
    simpa [overDeletes, haction, ha] using hover
  unfold actionDeltas at h
  split at h
  · split at h
    · cases h
    cases h
    exact resizeDeltas_fits hnonneg ps live
  · split at h
    · split at h
      · cases h
      cases h
      exact hz
    · cases h
      exact diskChange_fits hnonneg ps live (Or.inl rfl)
  · split at h
    · split at h
      · cases h
      cases h
      exact hz
    · cases h
      exact diskChange_fits hnonneg ps live (Or.inr (Or.inl rfl))
  · split at h
    · split at h
      · cases h
      cases h
      exact hz
    · next ha =>
      cases h
      exact diskChange_fits hnonneg ps live (Or.inr (Or.inr (hdelete rfl ha)))
  · cases h
    simp
  · cases h
  · cases h
    exact hz

/-! ### Steps and runs -/

theorem supersede_spec {l₁ : Ledger} {tag₁ : QuotaTag}
    (h : supersede l job d tag = .ok (tag₁, l₁)) :
    (job.operation.destroys = false ∧ tag₁ = tag ∧ l₁ = l) ∨ (job.operation.destroys = true ∧ ∃ n,
        releaseActiveForSubject l (job.subject d) = .ok (n, l₁) ∧
          tag₁ = if n ≠ 0 then { tag with superseded := some n } else tag) := by
  unfold supersede at h
  split at h
  · next hd =>
    obtain ⟨⟨n, l'⟩, hr, h⟩ := bind_eq_ok.mp h
    cases h
    exact Or.inr ⟨hd, n, hr, rfl⟩
  · next hd =>
    cases h
    exact Or.inl ⟨by simpa using hd, rfl, rfl⟩

theorem PreparesJob.acts {d : Option DeploymentShape} (h : PreparesJob l job tag d tag' l')
    (hr : ∀ shape id row, d = some shape → job.operation.destroys = true →
      l.reservations.find? id = some row → row.subject = job.subject shape →
      row.status.active = true → w id (row.settledAs .released))
    (hn : ∀ id row, row.requestKey = truncateKey (jobKey job.id) → row.status = .reserved →
      w id row) : Acts w l l' := by
  -- the part that a destroy supersedes
  have hsuper {shape : DeploymentShape} {tag₁ : QuotaTag} {l₁ : Ledger}
      (hshape : d = some shape) (hs : supersede l job shape tag = .ok (tag₁, l₁)) :
      Acts w l l₁ := by
    rcases supersede_spec hs with ⟨-, -, rfl⟩ | ⟨hd, n, hreleased, -⟩
    · exact .refl
    exact releaseActiveForSubject_acts hreleased fun id row => hr shape id row hshape hd
  cases h with
  | skipped => exact .refl
  | unchanged hs => exact hsuper rfl hs
  | reserved hs _ hrsv => exact (hsuper rfl hs).trans (hrsv.acts fun id row _ => hn id row)

theorem PreparesDay2.acts (h : PreparesDay2 l jobId tgt act ps live tag tag' l')
    (hn : ∀ id row, row.requestKey = truncateKey (jobKey jobId) → row.status = .reserved →
      w id row) : Acts w l l' := by
  cases h with
  | unchanged => exact .refl
  | reserved _ _ _ hr => exact hr.acts fun id row _ => hn id row

/-- Moves that reserve nothing keep everything committable. -/
theorem Acts.admissible (h : Acts (fun _ row => row.status ≠ .reserved) l l') (hl : Admissible l) :
    Admissible l' := by
  refine closure_invariant (fun l l' hm hl => ?_) h.settles hl
  rcases hm with hsettle | hlimit
  · exact hsettle.admissible hl
  have hc := (Move.relimited hlimit).conserved hl.conserved
  have he := hlimit.acts.exclusive hl.exclusive
  obtain ⟨_, _, rfl⟩ := hlimit.frame
  exact ⟨hc, he, hl.fits⟩

theorem releaseActiveForSubject_admissible {n : ℕ}
    (h : releaseActiveForSubject l sub = .ok (n, l')) (hl : Admissible l) : Admissible l' :=
  (releaseActiveForSubject_acts h fun _ _ _ _ _ => nofun).admissible hl

/-- Preparing a job keeps everything committable. -/
theorem PreparesJob.admissible {d : Option DeploymentShape}
    (h : PreparesJob l job tag d tag' l') (hl : Admissible l)
    (ho : (AdmissionOp.prepareJob job d tag).hazard l = false) : Admissible l' := by
  cases h with
  | skipped => exact hl
  | unchanged hsupersede =>
    rcases supersede_spec hsupersede with ⟨-, -, rfl⟩ | ⟨-, n, hr, -⟩
    · exact hl
    · exact releaseActiveForSubject_admissible hr hl
  | @reserved d tag₁ l₁ l₂ tgt result hsupersede hg hrsv =>
    have hfits : 0 ≤ l₁.allocation (job.subject d) + (tgt - l₁.allocation (job.subject d)) := by
      rw [add_sub_cancel]
      exact hg
    rcases supersede_spec hsupersede with ⟨hd, -, rfl⟩ | ⟨-, n, hr, -⟩
    · refine hrsv.admissible hl rfl hfits ?_
      exact idle_of_not_rearmsJobBusy (by simpa [AdmissionOp.hazard, hd] using ho)
    -- a destroy has just released everything that was held for the deployment
    have h₁ := releaseActiveForSubject_admissible hr hl
    refine hrsv.admissible h₁ rfl hfits fun _ row _ hs _ => ?_
    rw [hs]
    exact releaseActiveForSubject_idle hr

/-- Preparing a Day-2 action keeps everything committable. -/
theorem PreparesDay2.admissible (h : PreparesDay2 l jobId tgt act ps live tag tag' l')
    (hl : Admissible l)
    (ho : (AdmissionOp.prepareDay2 jobId tgt act ps live tag).hazard l = false) :
    Admissible l' := by
  cases h with
  | unchanged => exact hl
  | reserved hs hnonneg hd hr =>
    simp only [AdmissionOp.hazard, hs, Bool.or_eq_false_iff] at ho
    exact hr.admissible hl rfl (actionDeltas_fits hnonneg ho.2 hd) (idle_of_not_rearmsJobBusy ho.1)

theorem AdmissionOp.admissible {op : AdmissionOp} (hl : Admissible l) (ho : op.hazard l = false)
    (h : op.apply l = .ok l') : Admissible l' := by
  cases op with
  | prepareJob job d tag =>
    obtain ⟨⟨tag', l₁⟩, hp, h⟩ := bind_eq_ok.mp h
    cases h
    exact (prepareJobReservation_spec hp).admissible hl ho
  | prepareDay2 jobId tgt act ps live tag =>
    obtain ⟨⟨tag', l₁⟩, hp, h⟩ := bind_eq_ok.mp h
    cases h
    exact (prepareDay2Reservation_spec hp).admissible hl ho
  | service op =>
    obtain ⟨op, hrsv⟩ := op
    change op.apply l = .ok l' at h
    rcases QuotaOp.acts h with ⟨_, _, _, rfl, -⟩ | ⟨sub, key, rfl⟩ | h
    · cases hrsv
    · obtain ⟨n, l₁, hrelease, hnonneg, hr⟩ := accountConfirmedAbsent_spec h
      have h₁ := releaseActiveForSubject_admissible hrelease hl
      rcases hr with ⟨-, rfl⟩ | ⟨-, id, l₂, hrsv, hc⟩
      · exact h₁
      -- the whole allocation is given back, by a reservation that is committed at once
      have h₂ : Admissible l₂ := by
        refine hrsv.admissible h₁ rfl (by simp) fun _ row _ hs _ => ?_
        rw [hs]
        exact releaseActiveForSubject_idle hrelease
      exact (hc.settledAs.acts fun _ _ _ => nofun).admissible h₂
    · exact h.admissible hl

/-- **Admission implies commit**: in every run without a hazardous admission,
each reservation that is still reserved or uncertain can be committed. -/
theorem admitted_commits (scopes : Finset Scope) (ops : List AdmissionOp)
    (hops : Guarded (fun l op => op.hazard l = false) AdmissionOp.step (Ledger.empty scopes) ops)
    (id : ℕ) (row : Reservation)
    (hrow : (admissionRun (Ledger.empty scopes) ops).reservations.find? id = some row)
    (hactive : row.status.active = true) :
    ∃ l', commitReservation (admissionRun (Ledger.empty scopes) ops) id = .ok l' := by
  have hr : Admissible (admissionRun (Ledger.empty scopes) ops) :=
    guarded_invariant
      (fun _ _ hl ho => attempt_invariant hl fun _ h => AdmissionOp.admissible hl ho h)
      ⟨conserved_empty scopes, exclusive_empty scopes, nofun⟩ hops
  exact hr.commit_isOk hrow hactive

/-- A Proxmox deployment with a disk of 10 GiB, applied and committed. -/
def appliedDeployment : List AdmissionOp :=
  [.prepareJob ⟨1, .terraformApply, ⟨1, 1⟩⟩
      (some ⟨7, .proxmox, ⟨some (.integer 2), some (.integer 1024), some (.integer 10), none, none⟩⟩) {},
    .service ⟨.commit 1, rfl⟩]

/-- The Day-2 deletion of one of its disks, of the given live size. -/
def deleteDiskOf (size : ℤ) : AdmissionOp :=
  .prepareDay2 2 (some ⟨9, ⟨1, 1⟩, some 7, true⟩) .deleteDisk {} ⟨none, none, some size, none⟩ {}

/-- The reservation that the deletion of a 4 GiB disk makes. -/
def deleteDiskRow : Reservation :=
  ⟨"job:2", ⟨⟨1, 1⟩, .deployment, 7⟩, .day2 .deleteDisk, Function.update 0 .diskGib (-4), .reserved,
    false⟩

theorem admitted_commits_sample :
    ∃ l', commitReservation (admissionRun (Ledger.empty sampleScopes)
      (appliedDeployment ++ [deleteDiskOf 4])) 2 = .ok l' :=
  admitted_commits sampleScopes (appliedDeployment ++ [deleteDiskOf 4]) (by decide +kernel) 2
    deleteDiskRow (by decide +kernel) rfl

/-- The deletion of a disk that is larger than the allocation is admitted, but its
reservation cannot be committed. -/
theorem delete_disk_cannot_commit :
    failure (commitReservation (admissionRun (Ledger.empty sampleScopes)
      (appliedDeployment ++ [deleteDiskOf 20])) 2)
      = some ⟨409, .quotaAccountingConflict, "Quota usage cannot become negative"⟩ := by
  decide +kernel

/-! ### The preview -/

section Preview

variable {l l' : Ledger} {quota : QuotaDelta} {key : String}

/-- The counters still fit into their columns once the growth is held. -/
def Ledger.Storable (l : Ledger) (scope : Scope) (deltas : Amounts) : Prop :=
  ∀ d ∈ deltas.keys, max (l.tenantCounter scope.tenantId d).reserved
    (l.projectCounter scope d).reserved + positive deltas d ≤ bigIntegerMax

/-- The admission loop goes through exactly when the preview allows every dimension. -/
theorem admits_iff_allowed {scope : Scope} {ds : Amounts} (hfits : l.Storable scope ds) :
    (∃ l₁, updateUsage scope (admitUsage l scope (positive ds)) ds.keys l = .ok l₁) ↔
      ∀ item ∈ ds.keys.map (checkItem l scope ds), item.allowed = true := by
  rw [updateUsage_isOk ds.nodup_keys, List.forall_mem_map]
  refine forall₂_congr fun d hd => ?_
  rw [admitUsage_isOk]
  simp only [checkItem, Bool.and_eq_true, Bool.not_eq_true']
  rw [and_iff_left (hfits d hd)]
  rfl

/-- Held growth enters the totals of the project and of its tenant. -/
theorem Shifted.totals {scope : Scope} {growth : Amounts} (h : Shifted l l' scope 0 growth)
    (d : Dimension) :
    (l'.tenantCounter scope.tenantId d).used + (l'.tenantCounter scope.tenantId d).reserved
      = (l.tenantCounter scope.tenantId d).used + (l.tenantCounter scope.tenantId d).reserved
        + growth d ∧
    (l'.projectCounter scope d).used + (l'.projectCounter scope d).reserved
      = (l.projectCounter scope d).used + (l.projectCounter scope d).reserved + growth d := by
  rw [h.tenant, h.project]
  simp [add_assoc]

/-- `reserve` under a new key, for an idle subject of an existing project. -/
theorem reserve_new (hscope : quota.subject.scope ∈ l.scopes)
    (hi : l.activeOf quota.subject = []) (hfresh : l.reservationByKey (truncateKey key) = none)
    {ds : Amounts} (hdeltas : values true quota.deltas = .ok ds) :
    (∃ res l', reserve l quota key = .ok (res, l')) ↔
      ∃ l₁, updateUsage quota.subject.scope (admitUsage l quota.subject.scope (positive ds))
        ds.keys l = .ok l₁ := by
  have hlock : lockScope l quota.subject.scope = .ok () := lockScope_eq_ok.mpr hscope
  simp only [reserve, hdeltas, hlock, hfresh, hi, ne_eq, not_true_eq_false, if_false]
  by_cases hz : ds = 0
  · -- an empty request returns at once, and its loop visits nothing
    subst hz
    exact iff_of_true ⟨none, l, rfl⟩ ⟨l, rfl⟩
  · cases hl : updateUsage quota.subject.scope
      (admitUsage l quota.subject.scope (positive ds)) ds.keys l with
    | error e | ok l₁ => simp [bind, Except.bind, hz, hl]

/-- **The preview agrees with the admission**: for an idle subject of an existing
project, a new key and a growth that the counters can store, `check_delta` allows every
dimension exactly when `reserve` returns, and the totals that it foretells are those that
`reserve` leaves. -/
theorem preview_agrees (l : Ledger) (quota : QuotaDelta) (key : String)
    (hscope : quota.subject.scope ∈ l.scopes) (hidle : l.activeOf quota.subject = [])
    (hfresh : l.reservationByKey (truncateKey key) = none)
    (hfits : ∀ deltas, values true quota.deltas = .ok deltas
      → l.Storable quota.subject.scope deltas) :
    ((∃ items, checkDelta l quota.subject.scope quota.deltas = .ok items
        ∧ ∀ item ∈ items, item.allowed = true) ↔
      ∃ result l', reserve l quota key = .ok (result, l')) ∧
    ∀ items result l', checkDelta l quota.subject.scope quota.deltas = .ok items →
      reserve l quota key = .ok (result, l') → ∀ item ∈ items,
        (l'.tenantCounter quota.subject.scope.tenantId item.dimension).used
            + (l'.tenantCounter quota.subject.scope.tenantId item.dimension).reserved
          = item.tenantAfterReserve ∧
        (l'.projectCounter quota.subject.scope item.dimension).used
            + (l'.projectCounter quota.subject.scope item.dimension).reserved
          = item.projectAfterReserve := by
  constructor
  · constructor
    · rintro ⟨items, hc, ha⟩
      obtain ⟨deltas, hdeltas, hitem⟩ := bind_eq_ok.mp hc
      cases hitem
      exact (reserve_new hscope hidle hfresh hdeltas).mpr
        ((admits_iff_allowed (hfits _ hdeltas)).mpr ha)
    intro hr
    obtain ⟨result, l', h⟩ := hr
    obtain ⟨deltas, hdeltas, -⟩ := bind_eq_ok.mp h
    have hl := (reserve_new hscope hidle hfresh hdeltas).mp ⟨result, l', h⟩
    exact ⟨_, bind_eq_ok.mpr ⟨deltas, hdeltas, rfl⟩, (admits_iff_allowed (hfits _ hdeltas)).mp hl⟩
  · intro items result l' hc hr item hi
    obtain ⟨deltas, hdeltas, hitem⟩ := bind_eq_ok.mp hc
    cases hitem
    obtain ⟨d, hd, rfl⟩ := List.mem_map.mp hi
    cases reserve_spec hr with
    | nothing hz =>
      cases hdeltas.symm.trans hz
      exact absurd rfl (Amounts.mem_keys.mp hd)
    | existing hk | rearmed hk => cases hfresh.symm.trans hk
    | opened _ _ hd' _ _ hshift =>
      cases hdeltas.symm.trans hd'
      -- the row is written after the loop and touches no counter
      exact hshift.totals d

/-- The request of a first machine. -/
def firstMachine : QuotaDelta :=
  ⟨⟨⟨1, 1⟩, .deployment, 7⟩, .terraformApply, [("vm_count", .integer 1), ("vcpu", .integer 4)]⟩

theorem preview_agrees_firstMachine :
    ∃ result l', reserve (Ledger.empty {⟨1, 1⟩}) firstMachine "job:1" = .ok (result, l') :=
  (preview_agrees (Ledger.empty {⟨1, 1⟩}) firstMachine "job:1" (by decide) rfl rfl
    (by rintro _ ⟨⟩; unfold Ledger.Storable; decide)).1.mp ⟨_, rfl, by decide⟩

/-- A request for more machines than a counter can hold. -/
def hugeFleet : QuotaDelta :=
  ⟨⟨⟨1, 1⟩, .deployment, 7⟩, .terraformApply, [("vm_count", .integer (2 ^ 63))]⟩

/-- The preview computes with numbers of any size and knows no projects: it allows a growth that
the counters cannot store, and a request for a project that does not exist. -/
theorem preview_allows_refused :
    ((∃ items, checkDelta (Ledger.empty {⟨1, 1⟩}) ⟨1, 1⟩ hugeFleet.deltas = .ok items
        ∧ ∀ item ∈ items, item.allowed = true)
      ∧ (Ledger.empty {⟨1, 1⟩}).activeOf hugeFleet.subject = []
      ∧ (Ledger.empty {⟨1, 1⟩}).reservationByKey "job:1" = none
      ∧ failure (reserve (Ledger.empty {⟨1, 1⟩}) hugeFleet "job:1")
        = some ⟨500, .numericValueOutOfRange, "bigint out of range"⟩)
    ∧ (∃ items, checkDelta (Ledger.empty ∅) ⟨1, 1⟩ firstMachine.deltas = .ok items
        ∧ ∀ item ∈ items, item.allowed = true)
      ∧ (Ledger.empty ∅).activeOf firstMachine.subject = []
      ∧ (Ledger.empty ∅).reservationByKey "job:1" = none
      ∧ failure (reserve (Ledger.empty ∅) firstMachine "job:1")
        = some ⟨404, .projectNotFound, "Quota scope no longer exists"⟩ :=
  ⟨⟨⟨_, rfl, by decide⟩, rfl, rfl, by decide +kernel⟩,
    ⟨_, rfl, by decide⟩, rfl, rfl, by decide +kernel⟩

end Preview

end CloudPortal
