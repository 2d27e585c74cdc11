/-
CloudPortal/Quota/Accounted.lean

A capacity that is asked for is accounted for.  An admission reserves the difference between
the request and the allocation, its commit adds the difference, and what happens to other
subjects in between changes neither the row nor the allocation (`Acts.frame`), so the
allocation is the request (`Admission.allocation`).

Two requests say nothing about a dimension and are admitted all the same: an appliance has no
disk variable, and a resize is not counted in a dimension without an allocation.
-/
import CloudPortal.Quota.Presence

namespace CloudPortal

open RowStore Transition Relation

variable {l l₁ l₂ l' : Ledger} {sub : Subject} {jobId : ℕ} {tag tag' : QuotaTag}
  {ds : Amounts} {ps : Day2Params} {live : Day2Live}

/-! ### Operations on other subjects -/

/-- The operation is not about the subject. -/
def QuotaOp.elsewhere (l : Ledger) (subject : Subject) : QuotaOp → Bool
  | .reserve quota _ => quota.subject ≠ subject
  | .commit id | .release id | .markUncertain id | .reconcile id _ =>
    (l.reservations.find? id).all fun row => row.subject ≠ subject
  | .releaseActiveForSubject other | .accountConfirmedAbsent other _ => other ≠ subject
  | .reconcileTerraformPresence scope id _ => (⟨scope, .deployment, id⟩ : Subject) ≠ subject
  | _ => true

theorem QuotaOp.acts_elsewhere {op : QuotaOp} (h : op.apply l = .ok l')
    (ho : op.elsewhere l sub) : Acts (fun _ row => row.subject ≠ sub) l l' := by
  have hr {id : ℕ} (hi : (l.reservations.find? id).all fun row => row.subject ≠ sub)
      (row : Reservation) (hf : l.reservations.find? id = some row) : row.subject ≠ sub := by
    simpa [hf] using hi
  cases op with
  | reserve quota key =>
    obtain ⟨⟨result, l₁⟩, hrsv, h⟩ := bind_eq_ok.mp h
    cases h
    exact (reserve_spec hrsv).acts fun _ _ hs _ _ => hs ▸ of_decide_eq_true ho
  | commit id =>
    exact (commitReservation_spec h).settledAs.acts fun row hf _ => hr ho row hf
  | release id =>
    exact (releaseReservation_spec h).settledAs.acts fun row hf _ => hr ho row hf
  | markUncertain id => exact markUncertain_acts h (hr ho)
  | reconcile id out =>
    rcases reconcileReservation_spec h with ⟨-, h⟩ | ⟨-, h⟩
    all_goals exact h.settledAs.acts fun row hf _ => hr ho row hf
  | releaseActiveForSubject other =>
    obtain ⟨⟨n, l₁⟩, hrelease, h⟩ := bind_eq_ok.mp h
    cases h
    exact releaseActiveForSubject_acts hrelease fun _ _ _ hs _ => hs ▸ of_decide_eq_true ho
  | accountConfirmedAbsent other key =>
    have hn : other ≠ sub := of_decide_eq_true ho
    exact accountConfirmedAbsent_acts h (fun _ _ _ hs _ => hs ▸ hn)
      fun _ _ hs _ _ => hs ▸ hn
  | reconcileTerraformPresence scope id present =>
    refine reconcileTerraformPresence_acts h fun _ row _ hs _ => ?_
    have hn : row.subject ≠ sub := hs ▸ of_decide_eq_true ho
    exact ⟨hn, fun _ => hn⟩
  | setProjectLimit live scope dim val => exact (setProjectLimit_relimits h).acts
  | setTenantLimit live scope dim val => exact (setTenantLimit_relimits h).acts
  | clearProjectLimit scope dim => exact (clearProjectLimit_relimits h).acts
  | clearTenantLimit scope dim => exact (clearTenantLimit_relimits h).acts

/-- The rows of the subject are the same. -/
def RowsKept (subject : Subject) (l l' : Ledger) : Prop :=
  ∀ r row, row.subject = subject →
    (l'.reservations.find? r = some row ↔ l.reservations.find? r = some row)

/-- Moves that write no row of the subject. -/
theorem Acts.frame (h : Acts (fun _ row => row.subject ≠ sub) l l') :
    l'.allocation sub = l.allocation sub ∧ RowsKept sub l l' := by
  refine ⟨(h.untouched fun _ _ hn hs => absurd hs hn).allocation, ?_⟩
  induction h with
  | refl => exact fun _ _ _ => Iff.rfl
  | @tail l₁ l₂ _ hl ih =>
    have hb {r : ℕ} {row : Reservation} (hsub : row.subject = sub)
        (hr : l₂.reservations.find? r = some row) : l₁.reservations.find? r = some row :=
      (hl.2 r row hr).resolve_right fun hn => hn hsub
    refine fun r row hsub => Iff.trans ⟨hb hsub, fun hr => ?_⟩ (ih r row hsub)
    obtain ⟨row', hr', hk⟩ := hl.1.kept hr
    rcases hk with rfl | ⟨-, hs⟩
    · exact hr'
    have ho := hb (by rw [hs, hsub]) hr'
    rwa [Option.some.inj (hr.symm.trans ho)]

theorem elsewhere_run {between : List QuotaOp}
    (h : Guarded (fun l op => op.elsewhere l sub) QuotaOp.step l between) :
    Acts (fun _ row => row.subject ≠ sub) l (quotaRun l between) :=
  guarded_invariant (fun _ _ hl ho => attempt_invariant hl fun _ h =>
    hl.trans (QuotaOp.acts_elsewhere h ho)) .refl h

/-! ### An admission and its commit -/

/-- The job was not admitted before, or what it held was released. -/
structure FirstAdmission (l : Ledger) (subject : Subject) (jobId : ℕ) (tag : QuotaTag) : Prop where
  tag : tag.reservationId = none
  released : ∀ r row, l.reservations.find? r = some row → row.subject = subject →
    row.requestKey = truncateKey (jobKey jobId) ∨ row.requestKey = jobKey jobId →
    row.status = .released

/-- A change of the allocation was admitted: there is nothing to change, or it is reserved. -/
inductive Admission (l : Ledger) (subject : Subject) (deltas : Amounts) (jobId : ℕ)
    (tag tag' : QuotaTag) : Ledger → Prop
  | unchanged (hzero : deltas = 0) (htag : tag'.reservationId = tag.reservationId) :
      Admission l subject deltas jobId tag tag' l
  | reserved {operation : Operation} {l' : Ledger} (h : Reserves l
      ⟨subject, operation, deltas.toMapping⟩ (jobKey jobId) tag'.reservationId l') :
      Admission l subject deltas jobId tag tag' l'

/-- A later commit for the job, with operations on other subjects in between. -/
def CommitsLater (l₁ : Ledger) (subject : Subject) (jobId : ℕ) (tag' : QuotaTag) (l' : Ledger) :
    Prop :=
  ∃ between, Guarded (fun l op => op.elsewhere l subject) QuotaOp.step l₁ between ∧
    commitJobReservation (quotaRun l₁ between) jobId tag' = .ok l'

/-- A commit that finds no reservation of the subject in its payload changes nothing. -/
theorem commit_of_untagged (hf : FirstAdmission l sub jobId tag)
    (htag : tag'.reservationId = none) (hfr : RowsKept sub l l₂)
    (h : commitJobReservation l₂ jobId tag' = .ok l') :
    l'.allocation sub = l₂.allocation sub := by
  unfold commitJobReservation jobReservation at h
  rw [htag] at h
  cases hk : l₂.reservationByKey (jobKey jobId) with
  | none =>
    rw [hk] at h
    cases h
    rfl
  | some r =>
    rw [hk] at h
    obtain ⟨hr, hn⟩ := reservationByKey_eq_some hk
    have hc := commitReservation_spec h
    by_cases hs : r.2.subject = sub
    · -- it is released, and a released reservation cannot be committed
      have hreleased := hf.released _ _ ((hfr _ _ hs).mp hr) hs (.inr hn)
      cases hc with
      | missing | already => rfl
      | settled hr' ha =>
        cases hr.symm.trans hr'
        rw [hreleased] at ha
        cases ha
    · exact (hc.settledAs.untouched hr hs).allocation

/-- **What was admitted is what the commit adds.** -/
theorem Admission.allocation (h : Admission l sub ds jobId tag tag' l₁)
    (hf : FirstAdmission l sub jobId tag) (hlater : CommitsLater l₁ sub jobId tag' l') :
    l'.allocation sub = l.allocation sub + ds := by
  obtain ⟨between, hbetween, hc⟩ := hlater
  obtain ⟨halloc, hfr⟩ := (elsewhere_run hbetween).frame
  have hn (hz : ds = 0) (htag : tag'.reservationId = none) (hs : l₁ = l) :
      l'.allocation sub = l.allocation sub + ds := by
    subst hs
    rw [commit_of_untagged hf htag hfr hc, halloc, hz, add_zero]
  have hv : values true ds.toMapping = .ok ds := values_toMapping (Or.inl rfl)
  cases h with
  | unchanged hz htag => exact hn hz (htag.trans hf.tag) rfl
  | reserved h =>
    cases htag : tag'.reservationId with
    | none =>
      rw [htag] at h
      cases h with
      | nothing hd => exact hn (Except.ok.inj (hv.symm.trans hd)) htag rfl
    | some id =>
      rw [htag] at h
      obtain ⟨l₀, row, event, hshift, hsub, rfl, hstatus, rfl⟩ := h.placed hv
        fun row hr hk hsub => hf.released id row hr hsub (.inl hk)
      have hr := (hfr id row hsub).mpr (Table.find?_put_self ..)
      rw [commitJobReservation, jobReservation, htag] at hc
      dsimp only at hc
      rw [hr] at hc
      obtain ⟨l₃, -, -, rfl⟩ := (commitReservation_spec hc).of_active hr (by rw [hstatus]; rfl)
      show Ledger.allocation (l₃.putAllocation row.subject _) sub = _
      rw [allocation_putAllocation, if_pos hsub.symm, hsub, halloc]
      exact congrArg (· + row.deltas) (allocation_congr hshift.allocations sub)

/-! ### The two kinds of requests -/

/-- The capacity that the variables of a Proxmox or VMware deployment ask for. -/
def CapacityVariables.requested (capacity : CapacityVariables) (d : Dimension) : Option ℤ :=
  match d, capacity with
  | .vcpu, { cpu := some (.integer n), .. } | .memoryMb, { memory := some (.integer n), .. }
  | .diskGib, { disk := some (.integer n), .. } => some n
  | _, _ => none

/-- The request says how much it asks for. -/
def Determined (requested : Option ℤ) : Prop := ∃ n, requested = some n ∧ 0 < n

/-- The allocation has exactly what the request asks for. -/
def AccountedAs (requested : Option ℤ) (amount : ℤ) : Prop := 0 < amount ∧ requested = some amount

theorem accountedAs_dimensions {dep : DeploymentShape}
    (hp : dep.provider = .proxmox ∨ dep.provider = .vmware) {d : Dimension} (hd : d ≠ .vmCount) :
    AccountedAs (dep.capacity.requested d) (deploymentDimensions dep d)
      ↔ Determined (dep.capacity.requested d) := by
  have hamount : deploymentDimensions dep d = max 0 ((dep.capacity.requested d).getD 0) := by
    obtain ⟨id, provider, cpu, memory, disk, root, os⟩ := dep
    rcases hp with rfl | rfl <;> cases d
    case inl.vmCount | inr.vmCount => exact absurd rfl hd
    case inl.vcpu | inr.vcpu => rcases cpu with _ | _ | _ | _ <;> rfl
    case inl.memoryMb | inr.memoryMb => rcases memory with _ | _ | _ | _ <;> rfl
    case inl.diskGib | inr.diskGib => rcases disk with _ | _ | _ | _ <;> rfl
  rw [hamount]
  constructor
  · rintro ⟨hpos, hq⟩
    exact ⟨_, hq, hpos⟩
  · rintro ⟨n, hq, hpos⟩
    rw [hq, Option.getD_some, max_eq_right hpos.le]
    exact ⟨hpos, rfl⟩

/-- An apply or a provisioning is admitted with the change to what its variables say, and
only if its provider exposes every limited dimension. -/
theorem requested_admission {job : JobRef} {dep : DeploymentShape}
    (ho : job.operation = .terraformApply ∨ job.operation = .proxmoxProvision)
    (h : prepareJobReservation l job (some dep) tag = .ok (tag', l')) :
    Admission l (job.subject dep)
        (deploymentDimensions dep - l.allocation (job.subject dep)) job.id tag tag' l'
      ∧ ∀ d ∈ activeLimitDimensions l job.scope, d ∉ dep.provider.unresolved := by
  have hg : jobTarget l job dep tag = some <$> requestedTarget l job dep := by
    rcases ho with ho | ho <;> rw [jobTarget, ho]
  have hs : supersede l job dep tag = .ok (tag, l) := by
    rcases ho with ho | ho <;> rw [supersede, ho] <;> rfl
  have hmutates : job.operation.mutatingTerraform = true := by
    rcases ho with ho | ho <;> rw [ho] <;> rfl
  rw [prepareJobReservation, hmutates, if_neg (by simp), hs] at h
  obtain ⟨quota, hq, h⟩ := bind_eq_ok.mp (show jobQuota l job dep tag >>= _ = _ from h)
  obtain ⟨cur, hc, hq⟩ := bind_eq_ok.mp hq
  obtain ⟨target?, hg?, hq⟩ := bind_eq_ok.mp hq
  obtain ⟨rfl, -⟩ := allocationDimensions_eq_ok.mp hc
  rw [hg, requestedTarget, ensureResolved] at hg?
  split at hg?
  · cases hg?
  next hr =>
  cases hg?
  cases hq
  refine ⟨?_, fun d hd hm => hr fun hnil => ?_⟩
  · dsimp only at h
    split at h
    · next hempty =>
      cases h
      exact .unchanged (sub_eq_zero.mpr (eq_of_sub_toMapping_eq_nil hempty)) rfl
    · obtain ⟨⟨result, l₂⟩, hrsv, h⟩ := bind_eq_ok.mp h
      cases h
      exact .reserved (reserve_spec hrsv)
  · exact List.eq_nil_iff_forall_not_mem.mp hnil d (List.mem_filter.mpr ⟨hd, by simpa using hm⟩)

/-- The capacity that a resize asks for, as far as the request and the machine say it; a machine
that does not say how many sockets it has has one. -/
def requestedCompute (params : Day2Params) (live : Day2Live) : Dimension → Option ℤ
  | .vcpu =>
    if params.cpuCores.isSome || params.cpuSockets.isSome then do
      let cores ← params.cpuCores <|> live.cpuCores.filter (· ≠ 0)
      some (cores * params.cpuSockets.getD (orDefault live.cpuSockets 1))
    else none
  | .memoryMb => params.memoryMb
  | _ => none

theorem add_resizeDeltas {alloc : Amounts} {d : Dimension} {n : ℤ}
    (hq : requestedCompute ps live d = some n) :
    alloc d + resizeDeltas alloc ps live d = if alloc d ≠ 0 then max 0 n else 0 := by
  cases d with
  | vmCount | diskGib => cases hq
  | memoryMb =>
    have hmemory : ps.memoryMb = some n := hq
    by_cases ha : alloc .memoryMb = 0 <;> simp [resizeDeltas, hmemory, ha]
  | vcpu =>
    simp only [requestedCompute] at hq
    split at hq
    · next hgiven =>
      obtain ⟨cores, hcores, hq⟩ := Option.bind_eq_some_iff.mp hq
      cases hq
      -- a zero of the machine is not taken
      have htaken (default : ℤ) : ps.cpuCores.getD (orDefault live.cpuCores default) = cores := by
        cases hc : ps.cpuCores with
        | some y =>
          rw [hc] at hcores
          exact Option.some.inj hcores
        | none =>
          rw [hc] at hcores
          obtain ⟨hl, hne⟩ := Option.filter_eq_some_iff.1
            (show live.cpuCores.filter (· ≠ 0) = some cores from hcores)
          rw [hl]
          exact if_pos (by simpa using hne)
      by_cases ha : alloc .vcpu = 0 <;> simp [resizeDeltas, hgiven, htaken, ha]
    · cases hq

/-- A resize is accounted for where it says what it asks for and the subject has an allocation. -/
theorem accountedAs_resize {alloc : Amounts} {d : Dimension} :
    AccountedAs (requestedCompute ps live d) (alloc d + resizeDeltas alloc ps live d)
      ↔ Determined (requestedCompute ps live d) ∧ alloc d ≠ 0 := by
  constructor
  · rintro ⟨hpos, hq⟩
    refine ⟨⟨_, hq, hpos⟩, fun ha => ?_⟩
    rw [add_resizeDeltas hq, if_neg (not_not.2 ha)] at hpos
    exact absurd hpos (lt_irrefl 0)
  · rintro ⟨⟨n, hq, hpos⟩, ha⟩
    rw [AccountedAs, add_resizeDeltas hq, if_pos ha, max_eq_right hpos.le]
    exact ⟨hpos, hq⟩

/-- A resize is admitted with its change, and not without an allocation under a limit. -/
theorem resize_admission {tgt : Option InventoryRef} (hs : targetSubject tgt = .ok sub)
    (h : prepareDay2Reservation l jobId tgt .resizeCompute ps live tag = .ok (tag', l')) :
    Admission l sub (resizeDeltas (l.allocation sub) ps live) jobId tag tag' l'
      ∧ (l.allocation sub = 0 → activeLimitDimensions l sub.scope = []) := by
  obtain ⟨⟨quota, checks⟩, hcheck, h⟩ := bind_eq_ok.mp h
  obtain ⟨quota', hq, hcheck⟩ := bind_eq_ok.mp hcheck
  obtain ⟨checks', -, hcheck⟩ := bind_eq_ok.mp hcheck
  split at hcheck
  · cases hcheck
  cases hcheck
  obtain ⟨sub', hs', hq⟩ := bind_eq_ok.mp hq
  cases hs.symm.trans hs'
  obtain ⟨cur, hc, hq⟩ := bind_eq_ok.mp hq
  obtain ⟨ds, hd, hl⟩ := bind_eq_ok.mp hq
  obtain ⟨rfl, -⟩ := allocationDimensions_eq_ok.mp hc
  cases hl
  rw [actionDeltas] at hd
  split at hd
  · cases hd
  next hallowed =>
  cases hd
  refine ⟨?_, fun hz => by_contra fun hlimits => hallowed ⟨hz, hlimits⟩⟩
  dsimp only at h
  split at h
  · next hempty =>
    cases h
    rw [← sub_zero (resizeDeltas _ _ _)] at hempty
    exact .unchanged (eq_of_sub_toMapping_eq_nil hempty) rfl
  · obtain ⟨⟨result, l₂⟩, hr, h⟩ := bind_eq_ok.mp h
    cases h
    exact .reserved (reserve_spec hr)

/-- **Limited dimensions are accounted.**  When the first admission of an apply or a provisioning
is committed, the allocation has exactly what was asked for if and only if the variables say how
much that is; for a resize if and only if it is said and the subject has an allocation in the
dimension.  Requests that the service knows to say nothing about a limited dimension are
rejected. -/
theorem limited_dimensions_accounted (l : Ledger) (d : Dimension) (hcapacity : d ≠ .vmCount) :
    (∀ (job : JobRef) (deployment : DeploymentShape) (tag tag' : QuotaTag) (l₁ l' : Ledger),
      job.operation = .terraformApply ∨ job.operation = .proxmoxProvision →
      deployment.provider = .proxmox ∨ deployment.provider = .vmware →
      FirstAdmission l (job.subject deployment) job.id tag →
      prepareJobReservation l job (some deployment) tag = .ok (tag', l₁) →
      CommitsLater l₁ (job.subject deployment) job.id tag' l' →
      (AccountedAs (deployment.capacity.requested d) (l'.allocation (job.subject deployment) d)
        ↔ Determined (deployment.capacity.requested d))) ∧
    (∀ (jobId : ℕ) (target : Option InventoryRef) (subject : Subject) (params : Day2Params)
        (live : Day2Live) (tag tag' : QuotaTag) (l₁ l' : Ledger),
      targetSubject target = .ok subject → FirstAdmission l subject jobId tag →
      prepareDay2Reservation l jobId target .resizeCompute params live tag = .ok (tag', l₁) →
      CommitsLater l₁ subject jobId tag' l' →
      (AccountedAs (requestedCompute params live d) (l'.allocation subject d)
        ↔ Determined (requestedCompute params live d) ∧ l.allocation subject d ≠ 0)) ∧
    (∀ (job : JobRef) (deployment : DeploymentShape) (tag : QuotaTag),
      job.operation = .terraformApply ∨ job.operation = .proxmoxProvision →
      d ∈ activeLimitDimensions l job.scope → d ∈ deployment.provider.unresolved →
      (prepareJobReservation l job (some deployment) tag).isOk = false) ∧
    ∀ (jobId : ℕ) (target : Option InventoryRef) (subject : Subject) (params : Day2Params)
        (live : Day2Live) (tag : QuotaTag),
      targetSubject target = .ok subject → d ∈ activeLimitDimensions l subject.scope →
      l.allocation subject = 0 →
      (prepareDay2Reservation l jobId target .resizeCompute params live tag).isOk = false := by
  refine ⟨?_, ?_, ?_, ?_⟩
  · intro job deployment tag tag' l₁ l' ho hp hfirst h hlater
    rw [(requested_admission ho h).1.allocation hfirst hlater, add_sub_cancel]
    exact accountedAs_dimensions hp hcapacity
  · intro jobId target subject params live tag tag' l₁ l' hs hfirst h hlater
    rw [(resize_admission hs h).1.allocation hfirst hlater]
    exact accountedAs_resize
  · intro job deployment tag ho hl hunresolved
    cases h : prepareJobReservation l job (some deployment) tag with
    | error => rfl
    | ok result => exact absurd hunresolved ((requested_admission ho h).2 d hl)
  · intro jobId target subject params live tag hs hl hz
    cases h : prepareDay2Reservation l jobId target .resizeCompute params live tag with
    | error => rfl
    | ok result => simp [(resize_admission hs h).2 hz] at hl

/-- A project with a limit on disks. -/
def limitedProject : Ledger :=
  quotaRun (Ledger.empty sampleScopes) [.setProjectLimit [] ⟨1, 1⟩ "disk_gib" (.integer 100)]

/-- The provisioning of a Proxmox machine with this disk, admitted and committed. -/
def provisioned (disk : Option RawValue) : Except QuotaError Ledger := do
  let (tag, l₁) ← prepareJobReservation limitedProject ⟨1, .proxmoxProvision, ⟨1, 1⟩⟩
    (some ⟨7, .proxmox, ⟨some (.integer 2), some (.integer 4096), disk, none, none⟩⟩) {}
  commitJobReservation l₁ 1 tag

theorem limited_dimensions_accounted_machine :
    ∃ l', provisioned (some (.integer 40)) = .ok l' ∧ l'.allocation sampleSubject .diskGib = 40 := by
  obtain ⟨l', h⟩ := isOk_iff.mp (by decide +kernel : (provisioned (some (.integer 40))).isOk)
  obtain ⟨⟨tag, l₁⟩, hp, hc⟩ := bind_eq_ok.mp h
  have hempty (r : ℕ) : limitedProject.reservations.find? r = none := rfl
  have haccounted := ((limited_dimensions_accounted limitedProject .diskGib (by decide)).1 _ _ {} tag
    l₁ l' (.inr rfl) (.inl rfl) ⟨rfl, fun r row hr => nomatch (hempty r).symm.trans hr⟩ hp
    ⟨[], trivial, hc⟩).2 ⟨40, rfl, by decide⟩
  exact ⟨l', h, (Option.some.inj haccounted.2).symm⟩

/-- An appliance has disks, but no variable for them: it is admitted under the limit and
nothing is accounted. -/
theorem appliance_disk_not_accounted :
    .diskGib ∈ activeLimitDimensions limitedProject ⟨1, 1⟩ ∧
      (provisioned none).map (fun l' => l'.allocation sampleSubject .diskGib) = .ok 0 := by
  decide +kernel

end CloudPortal
