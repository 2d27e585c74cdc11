/-
CloudPortal/Jobs/Inversion.lean

What the requests, the scheduler and the dispatcher do to jobs, deployments and the ledger:
one lemma for each function, which says with which effect of `CloudPortal.Jobs.Effects` it
ends, by which calls of the quota service, and which quota keys it leaves behind.  The
functions of workers follow in `CloudPortal.Jobs.Steps`.
-/
import CloudPortal.Jobs.Calls
import CloudPortal.Jobs.Effects

namespace CloudPortal

open RowStore Transition Relation

/-! ### Building an effect from the rows that a function writes -/

variable {config : ApprovalPolicy} {approves : Bool} {f : Deployment → Deployment}
  {input : JobInput} {apps : List ApprovalEffect} {op : Operation}
  {pl : Option (ℕ × Deployment)} {d : ℕ}

/-- What a step does to the jobs, the deployments and the ledger. -/
structure Transacts (s : System) (a : Step) (s' : System) : Prop where
  effect : Effect s a s'
  calls : Calls s a s'
  tags : Tags s a s'
  settles : Settles s a s'

section Build

variable {s s' : System} {a : Step} {id : ℕ} {job job' : Job}

/-- A step that writes neither jobs nor deployments. -/
theorem Transacts.of_stays (hcalls : Calls s a s')
    (hjobs : s'.jobs = s.jobs) (hdeps : s'.deployments = s.deployments)
    (ha : a.readmits s = none) : Transacts s a s' :=
  ⟨.stays hjobs hdeps, hcalls, .of_eq hjobs ha, .of_eq hjobs⟩

/-- A write to a deployment row alone. -/
theorem Transacts.of_adjust {dep dep' : Deployment} (hfind : s.deployments.find? d = some dep)
    (hadjusts : Adjusts s a d dep dep')
    (hdeps : ∀ x, s'.deployments.find? x = if x = d then some dep' else s.deployments.find? x)
    (hcalls : Calls s a s') (hjobs : s'.jobs = s.jobs)
    (ha : a.readmits s = none) : Transacts s a s' :=
  ⟨.adjusts hfind hadjusts hjobs hdeps, hcalls, .of_eq hjobs ha, .of_eq hjobs⟩

variable {cond : Deployment → Bool}

section

variable (hjob : s.jobs.find? id = some job) (hjobs : s'.jobs = s.jobs.put id (job'.touch s.now))
include hjob hjobs

/-- A write to the row of a job and to its deployment if that meets a condition. -/
theorem Effect.of_write (hwr : Writes s a id job job' cond f)
    (hdeps : s'.deployments = (s.updateDeployment job cond f).deployments) :
    Effect s a s' := by
  refine .writes hjob hwr (fun x => ?_) fun x => ?_
  · rw [hjobs, Table.find?_put]
  · rw [hdeps, System.find?_updateDeployment]

/-- A write to the row of a job alone. -/
theorem Effect.of_writeJob (hwr : Writes s a id job job' (fun _ => false) f)
    (hdeps : s'.deployments = s.deployments) : Effect s a s' := by
  refine .writes hjob hwr (fun x => ?_) fun x => ?_
  · rw [hjobs, Table.find?_put]
  rw [hdeps]
  cases s.deployments.find? x <;> simp

/-- The same, of a function that keeps the quota keys of the job. -/
theorem Transacts.of_write (hwr : Writes s a id job job' cond f)
    (hcalls : Calls s a s' ∧ EndsSettled s a s' id job job')
    (hdeps : s'.deployments = (s.updateDeployment job cond f).deployments)
    (hq : job'.payload.quota = job.payload.quota)
    (ha : a.readmits s = none) : Transacts s a s' :=
  ⟨.of_write hjob hjobs hwr hdeps, hcalls.1, .of_write hjobs hjob hq ha, .of_write hjobs hjob hcalls.2⟩

theorem Transacts.of_writeJob (hwr : Writes s a id job job' (fun _ => false) f)
    (hcalls : Calls s a s' ∧ EndsSettled s a s' id job job')
    (hdeps : s'.deployments = s.deployments)
    (hq : job'.payload.quota = job.payload.quota)
    (ha : a.readmits s = none) : Transacts s a s' :=
  ⟨.of_writeJob hjob hjobs hwr hdeps, hcalls.1, .of_write hjobs hjob hq ha,
    .of_write hjobs hjob hcalls.2⟩

end

/-- A row that is written without a look at its status, its approvals or its deployment. -/
structure Job.Kept (s : System) (id : ℕ) (job job' : Job) : Prop where
  frame : job.Frame job'
  status : job'.status = job.status
  cancelRequested : job'.cancelRequested = job.cancelRequested
  approvals : job.ApprovalFrame job'
    ∧ job'.payload.workflowApproval = job.payload.workflowApproval
  runtime : Checkpoints s id job job'

section

variable (hjob : s.jobs.find? id = some job) (hjobs : s'.jobs = s.jobs.put id (job'.touch s.now))
  (hdeps : s'.deployments = s.deployments) (hkept : Job.Kept s id job job')
  (hseen : job'.heartbeatAt = job.heartbeatAt ∨ job'.heartbeatAt = some s.now)
include hjob hjobs hdeps hkept hseen

theorem Effect.of_kept : Effect s a s' :=
  .of_writeJob hjob hjobs (.kept hkept.frame hkept.status hkept.cancelRequested hseen (by simp)
    (fun _ => hkept.approvals) hkept.runtime) hdeps

theorem Transacts.of_kept (hcalls : Calls s a s') (hq : job'.payload.quota = job.payload.quota)
    (ha : a.readmits s = none) : Transacts s a s' :=
  ⟨.of_kept hjob hjobs hdeps hkept hseen, hcalls, .of_write hjobs hjob hq ha,
    .of_write hjobs hjob (.kept fun he => hkept.status ▸ he)⟩

end

/-- A new job row without a deployment to occupy. -/
theorem Effect.of_create (hfresh : s.jobs.find? id = none)
    (hjobs : s'.jobs = s.jobs.put id (job.touch s.now)) (hcr : Creates s a job none)
    (hdeps : ∀ x, s'.deployments.find? x = s.deployments.find? x)
    (hdr : Drafted s a s' id job) : Effect s a s' := by
  refine .creates hfresh hcr (fun x => ?_) hdeps hdr
  rw [hjobs, Table.find?_put]

theorem System.freshJobId_iff : s.freshJobId id ↔ id < 2 ^ 128 ∧ s.jobs.find? id = none := by
  simp [System.freshJobId]

end Build

/-! ### New jobs -/

/-- What the approval gate does to a job. -/
structure Gated (job job' : Job) : Prop where
  frame : job.Frame job'
  cancelRequested : job'.cancelRequested = job.cancelRequested
  heartbeatAt : job'.heartbeatAt = job.heartbeatAt
  quota : job'.payload.quota = job.payload.quota
  workflowApproval : job'.payload.workflowApproval = job.payload.workflowApproval
  runtime : job'.payload.workflowRuntime = job.payload.workflowRuntime
  proxmoxRuntime : job'.payload.proxmoxRuntime = job.payload.proxmoxRuntime
  status : job'.status = job.status ∨ job'.status = .waitingApproval

theorem gateJobForApproval_spec (now : ℕ) (config : ApprovalPolicy) (job : Job)
    (dep : Option Deployment) : Gated job (gateJobForApproval now config job dep) := by
  unfold gateJobForApproval
  repeat' split
  all_goals exact ⟨.of_core rfl, rfl, rfl, rfl, rfl, rfl, rfl, by simp⟩

variable {job : Job} {s s' : System} {dep : Option Deployment} {l l' : Ledger} {id : ℕ}
  {a : Step} {r : JobRequest} {tag : QuotaTag}

theorem Gated.resumesBehind {job' : Job} (h : Gated job job') (hjob : job.ResumesBehind) :
    job'.ResumesBehind := by
  unfold Job.ResumesBehind Job.providerCheckpointed Payload.providerApplied at hjob ⊢
  rw [h.frame.resumes, h.frame.operation, h.runtime, h.proxmoxRuntime]
  exact hjob

/-- The policy approval that is passed to `new_job`: none, or that of a job which is retried. -/
def Inherits (s : System) (job : Job) (deployment : Option Deployment) : Prop :=
  job.payload.policyApproval = none
    ∨ ∃ x original, s.jobs.find? x = some original ∧ original.deploymentId = job.deploymentId
      ∧ job.payload.policyApproval = original.payload.policyApproval
      ∧ (policyApprovalStages job.payload deployment = []
        → policyApprovalStages original.payload deployment = [])

/-- The gate: a job with policy stages waits for the first of them. -/
theorem gateJobForApproval_born (now : ℕ) (config : ApprovalPolicy) (tag : QuotaTag)
    (h : Inherits s job dep) :
    Born s ((gateJobForApproval now config job dep).withQuota tag) dep := by
  have hkept {job' : Job} (hf : job.Frame job')
      (hp : job'.payload.policyApproval = job.payload.policyApproval)
      (hung : job'.Ungated dep) : Born s job' dep := by
    rcases h with hn | ⟨x, old, hfind, hd, hs, hstgs⟩
    · exact .plain (hp.trans hn) hung
    refine .inherited hfind (hd.trans hf.deploymentId.symm) (hp.trans hs)
      (fun hempty => hstgs ?_) hung
    rwa [policyApprovalStages, blueprintSnapshot, hf.policy, hf.blueprint] at hempty
  unfold gateJobForApproval
  split
  · next hempty =>
    repeat' split
    all_goals exact hkept (.of_core rfl) rfl (.inr hempty)
  next stage stages _ hstgs =>
  split
  · next hr => exact hkept (.of_core rfl) rfl (.inl hr)
  · exact .gated rfl hstgs.symm (List.cons_ne_nil _ _) rfl rfl rfl rfl (.inl rfl)

theorem gateJobForApproval_queued {now : ℕ}
    (h : (gateJobForApproval now config job dep).status = .queued) :
    (gateJobForApproval now config job dep).payload.policyApproval = job.payload.policyApproval
      ∧ (gateJobForApproval now config job dep).Ungated dep := by
  have hf := (gateJobForApproval_spec now config job dep).frame
  unfold Job.Ungated policyApprovalStages blueprintSnapshot
  rw [hf.policy, hf.blueprint, hf.resumes]
  unfold gateJobForApproval at h ⊢
  split
  · next hempty =>
    refine ⟨?_, .inr hempty⟩
    repeat' split
    all_goals rfl
  next hstgs =>
  rw [hstgs] at h
  dsimp only at h
  by_cases hr : job.payload.resumeAfterProviderApply
  · rw [if_pos hr]
    exact ⟨rfl, .inl hr⟩
  · rw [if_neg hr] at h
    cases h

/-- Quota admission fails only for a job that is queued. -/
theorem admitJob_eq_error {error : QuotaError} (h : admitJob l id job pl = .error error) :
    job.status = .queued := by
  unfold admitJob at h
  split at h
  · assumption
  · cases h

/-- A new row that went through the gate and through quota admission. -/
structure Inserts (s : System) (id : ℕ) (job : Job) (place : Option (ℕ × Deployment)) (s' : System) :
    Prop where
  fresh : s.freshJobId id
  written : ∃ gated tag l, admitJob s.ledger id gated place = .ok (tag, l)
    ∧ gated.reservationId = none ∧ job = gated.withQuota tag
    ∧ s' = (s.withLedger l).enqueue id job place

theorem insertJob_spec (h : insertJob s id config job pl = .ok s')
    (hs : job.status = .queued) (hc : job.cancelRequested = false)
    (hheartbeat : job.heartbeatAt = none) (hn : job.reservationId = none)
    (hwf : job.payload.workflowApproval = none)
    (hinherits : Inherits s job (pl.map Prod.snd)) (hcp : job.ResumesBehind) :
    ∃ job' : Job, Inserts s id job' pl s' ∧ job'.IsNew ∧ job.Frame job'
      ∧ job'.payload.workflowApproval = none ∧ Born s job' (pl.map Prod.snd)
      ∧ job'.ResumesBehind := by
  simp only [insertJob, ensure_bind_eq_ok, ofQuota_bind_eq_ok] at h
  obtain ⟨hfresh, ⟨tag, l⟩, hadmit, hs'⟩ := h
  have hg := gateJobForApproval_spec s.now config job (pl.map Prod.snd)
  refine ⟨_, ⟨hfresh, _, tag, l, hadmit, ?_, rfl, (Except.ok.inj hs').symm⟩, ?_,
    hg.frame.trans (.of_core rfl),
    hg.workflowApproval.trans hwf, gateJobForApproval_born s.now config tag hinherits,
    hg.resumesBehind hcp⟩
  · rw [Job.reservationId, hg.quota]
    exact hn
  · refine ⟨?_, hg.cancelRequested.trans hc, hg.heartbeatAt.trans hheartbeat⟩
    exact hg.status.imp_left fun h => h.trans hs

/-- The admission of a job that was just created. -/
theorem calls_admitJob (h : admitJob s.ledger id job pl = .ok (tag, l'))
    (hn : s.jobs.find? id = none)
    (hjob : s'.jobs.find? id = some ((job.withQuota tag).touch s.now))
    (hsupersedes : ∀ d dep, pl = some (d, dep) → job.operation.destroys
      → a.supersedes s = some (id, ⟨job.scope, .deployment, d⟩)) :
    ReflTransGen (QuotaCall s a s') s.ledger l' := by
  unfold admitJob at h
  split at h
  · next hs =>
    refine .single (.prepares ⟨_, hjob, .inl ?_⟩ ?_ (prepareJobReservation_spec h) (.inl hn))
    · show job.status.terminal = false
      rw [hs]
      rfl
    · intro shape hshape ho
      obtain ⟨⟨d, dep⟩, hp, rfl⟩ := Option.map_eq_some_iff.1 hshape
      exact hsupersedes d dep hp ho
  · cases h
    exact .refl

/-- A job that carried no reservation before its admission. -/
theorem admitJob_holds (h : admitJob l id job pl = .ok (tag, l'))
    (hn : job.reservationId = none) (r : ℕ) (hr : tag.reservationId = some r) :
    l'.Holds (jobKey id) r := by
  have hnot (hr : job.payload.quota.reservationId = some r) : l'.Holds (jobKey id) r :=
    nomatch hn.symm.trans hr
  unfold admitJob at h
  split at h
  · rcases (prepareJobReservation_spec h).carries with ⟨hs, -⟩ | hholds
    · exact hnot (hs.symm.trans hr)
    · exact hholds r hr
  · cases h
    exact hnot hr

/-- A job that is inserted for the reasons of `Creates`.  The row of its deployment may have
been written in the same transaction. -/
theorem Transacts.of_insert {t : System} (h : Inserts t id job pl s') (hcr : Creates s a job pl)
    (hs : t.jobs = s.jobs ∧ t.now = s.now ∧ t.ledger = s.ledger)
    (hdeps : ∀ x, t.deployments.find? x = s.deployments.find? x ∨ ∃ e, pl = some (x, e))
    (hdr : Drafted s a s' id job) (ha : a.readmits s = none)
    (hsupersedes : ∀ d dep, pl = some (d, dep) → job.operation.destroys
      → a.supersedes s = some (id, ⟨job.scope, .deployment, d⟩)) : Transacts s a s' := by
  obtain ⟨hfresh, gated, tag, l, hadmit, hn, rfl, rfl⟩ := h
  obtain ⟨hjobs, hnow, hledger⟩ := hs
  rw [System.freshJobId_iff, hjobs] at hfresh
  rw [hledger] at hadmit
  have hr : ((t.withLedger l).enqueue id (gated.withQuota tag) pl).jobs
      = s.jobs.put id ((gated.withQuota tag).touch s.now) := by
    rw [← hjobs, ← hnow]
    rcases pl with - | ⟨d, dep⟩
    · rfl
    · rfl
  have hledger' : ((t.withLedger l).enqueue id (gated.withQuota tag) pl).ledger = l := by
    rcases pl with - | ⟨d, dep⟩
    · rfl
    · rfl
  refine ⟨.creates hfresh.2 hcr (fun x => ?_) (fun x => ?_) hdr, ?_,
    .of_create hr hfresh.1 ha ?_, .of_create hr hfresh.2⟩
  · rw [hr, Table.find?_put]
  · rcases pl with - | ⟨d, dep⟩
    · exact (hdeps x).resolve_right fun ⟨_, he⟩ => by cases he
    dsimp only
    refine (Table.find?_put ..).trans ?_
    split
    · rfl
    next hx =>
    rcases hdeps x with h | ⟨e, he⟩
    · exact h
    cases he
    exact absurd rfl hx
  · rw [Calls, hledger']
    refine calls_admitJob hadmit hfresh.2 ?_ hsupersedes
    rw [hr]
    exact Table.find?_put_self ..
  · rw [hledger']
    exact admitJob_holds hadmit hn

theorem admitOperation_spec {dep : Deployment} (h : admitOperation dep op = .ok ()) :
    (dep.status = .reconciliationRequired → op = .terraformPlan)
      ∧ dep.activeJobId = none ∧ dep.status ≠ .destroyed := by
  simp only [admitOperation, ensure_bind_eq_ok] at h
  obtain ⟨hfence, hi, -⟩ := h
  simp only [Bool.and_eq_true, Option.isNone_iff_eq_none, decide_eq_true_eq, Bool.or_eq_true,
    ne_eq] at hfence hi
  exact ⟨fun h => hfence.resolve_left (fun hn => hn h), hi.1, hi.2⟩

/-- The request is a first one, or it retries a job. -/
inductive JobRequest.Origin (s : System) (r : JobRequest) : Prop
  | first (hday2 : r.operation.isDay2 = false)
      (hpolicy : ∀ payload, r.payload = some payload → payload.policyApproval = none)
      (hwf : ∀ payload, r.payload = some payload → payload.workflowApproval = none)
      (hfresh : ∀ payload, r.payload = some payload → payload.resumeAfterProviderApply = false)
      (hquota : ∀ payload, r.payload = some payload → payload.quota.reservationId = none)
  | retry {x : ℕ} {original : Job} {payload : Payload} (hfind : s.jobs.find? x = some original)
      (hop : original.operation = r.operation) (hd : original.deploymentId = r.deploymentId)
      (hpayload : r.payload = some payload) (hwf : payload.workflowApproval = none)
      (happr : payload.policyApproval = original.payload.policyApproval)
      (hpolicy : payload.policy = original.payload.policy)
      (hblueprint : payload.blueprint = original.payload.blueprint)
      (hcp : payload.resumeAfterProviderApply → payload.providerApplied
        ∨ original.operation = .proxmoxProvision ∧ payload.proxmoxRuntime)
      (hquota : payload.quota.reservationId = none)

section Origin

variable {s : System} {r : JobRequest} {job : Job} {dep : Option Deployment}

theorem JobRequest.Origin.day2 (h : r.Origin s) : r.operation.isDay2 = false
    ∨ ∃ x old, s.jobs.find? x = some old ∧ old.operation = r.operation
      ∧ old.deploymentId = r.deploymentId := by
  cases h with
  | first hday2 => exact .inl hday2
  | retry hfind ho hd => exact .inr ⟨_, _, hfind, ho, hd⟩

theorem JobRequest.Origin.plain (h : r.Origin s) :
    (r.jobPayload dep).workflowApproval = none
      ∧ (r.jobPayload dep).quota.reservationId = none := by
  cases h with
  | first _ _ hwf _ hq =>
    unfold JobRequest.jobPayload
    cases hpayload : r.payload with
    | some p => exact ⟨hwf p hpayload, hq p hpayload⟩
    | none =>
      dsimp only [Option.getD_none]
      split <;> exact ⟨rfl, rfl⟩
  | retry _ _ _ hpayload hwf _ _ _ _ hq =>
    rw [JobRequest.jobPayload, hpayload]
    exact ⟨hwf, hq⟩

theorem JobRequest.Origin.inherits (h : r.Origin s) (hjob : job.payload = r.jobPayload dep)
    (hd : job.deploymentId = r.deploymentId) : Inherits s job dep := by
  cases h with
  | first _ hp =>
    refine .inl ?_
    rw [hjob, JobRequest.jobPayload]
    cases hpayload : r.payload with
    | some p => exact hp p hpayload
    | none =>
      dsimp only [Option.getD_none]
      split <;> rfl
  | @retry x old p hfind _ hd' hpayload _ ha hp hblueprint =>
    refine .inr ⟨x, old, hfind, hd'.trans hd.symm, ?_, ?_⟩
    · rw [hjob, JobRequest.jobPayload, hpayload]
      exact ha
    -- the stages that the retried job had are among those of the retry
    intro hempty
    simp only [hjob, JobRequest.jobPayload, hpayload, policyApprovalStages, blueprintSnapshot,
      Option.getD_some, hp, hblueprint, policyApprovalStagesFromEffects_eq_nil,
      List.append_eq_nil_iff] at hempty ⊢
    exact ⟨hempty.1.1, hempty.2⟩

theorem JobRequest.Origin.resumesBehind (h : r.Origin s)
    (hjob : job.payload = r.jobPayload dep) (ho : job.operation = r.operation) :
    job.ResumesBehind := by
  intro hr
  rw [hjob, JobRequest.jobPayload] at hr
  unfold Job.providerCheckpointed
  rw [hjob, JobRequest.jobPayload, ho]
  cases h with
  | first _ _ _ hfresh =>
    cases hpayload : r.payload with
    | some p =>
      rw [hpayload] at hr
      cases (hfresh p hpayload).symm.trans hr
    | none =>
      rw [hpayload, Option.getD_none] at hr
      revert hr
      split <;> nofun
  | @retry _ old p _ ho' _ hpayload _ _ _ _ hcp =>
    rw [hpayload] at hr ⊢
    rcases hcp hr with ha | ⟨hdirect, hclone⟩
    · exact Bool.or_eq_true_iff.2 (.inl ha)
    refine Bool.or_eq_true_iff.2 (.inr ?_)
    simp [← ho', hdirect, hclone]

end Origin

/-- A job that `new_job` creates. -/
theorem newJob_spec (a : Step) (h : newJob s r = .ok s') (horigin : r.Origin s) :
    ∃ job pl, Inserts s r.id job pl s' ∧ Creates s a job pl
      ∧ pl = s.placeOf r.deploymentId ∧ (r.draft pl).Frame job := by
  unfold newJob at h
  split at h
  · next hd =>
    obtain ⟨job, hinserts, hn, hf, hwf, hb, hcp⟩ :=
      insertJob_spec h rfl rfl rfl horigin.plain.2 horigin.plain.1 (horigin.inherits rfl hd.symm)
        (horigin.resumesBehind rfl rfl)
    exact ⟨job, none, hinserts, .detached hn hf.deploymentId hwf hb hcp, by rw [hd]; rfl, hf⟩
  next d hd =>
  obtain ⟨dep, hfind, h⟩ := need_bind_eq_ok.1 h
  obtain ⟨_, hadmit, hinsert⟩ := bind_eq_ok.1 h
  obtain ⟨hfence, hi, halive⟩ := admitOperation_spec hadmit
  obtain ⟨job, hinserts, hn, hf, hwf, hb, hcp⟩ :=
    insertJob_spec hinsert rfl rfl rfl horigin.plain.2 horigin.plain.1
      (horigin.inherits rfl hd.symm) (horigin.resumesBehind rfl rfl)
  have hday2 := horigin.day2
  refine ⟨job, some (d, dep), hinserts, ?_, ?_, hf⟩
  · refine .requested hn hf.deploymentId (.inl hfind) hi halive ?_ ?_ ?_ hwf hb
      hcp
    · exact fun h => hf.operation.trans (hfence h)
    · exact hf.previousStatus
    · rw [hf.operation, hf.deploymentId]
      rwa [hd] at hday2
  · simp [System.placeOf, hd, hfind]

/-- The deployment of a new job is there afterwards. -/
theorem Inserts.place_row {dep : Deployment} (h : Inserts s id job pl s')
    (hp : pl = some (d, dep)) :
    ∃ row, s'.deployments.find? d = some row ∧ dep.Frame row := by
  obtain ⟨-, gated, tag, l, -, -, -, rfl⟩ := h
  subst hp
  exact ⟨_, Table.find?_put_self .., ⟨rfl, rfl, rfl, rfl, rfl⟩⟩

/-- A step that is a call of `new_job`. -/
theorem newJob_transacts (h : newJob s r = .ok s') (horigin : r.Origin s)
    (hreq : a.request s = some (r, s.placeOf r.deploymentId)) (ha : a.readmits s = none)
    (hs : ∀ d dep, r.deploymentId = some d → s.deployments.find? d = some dep
      → r.operation.destroys → a.supersedes s = some (r.id, dep.subject d)) :
    Transacts s a s' := by
  obtain ⟨job, pl, hinserts, hcr, rfl, hf⟩ := newJob_spec a h horigin
  refine .of_insert hinserts hcr ⟨rfl, rfl, rfl⟩ (fun _ => .inl rfl)
    (.requested hreq rfl hf fun d dep hp => hinserts.place_row hp) ha ?_
  intro d dep hp ho
  rw [hf.operation] at ho
  have hsc : job.scope = dep.scope := by
    rw [hf.scope, hp]
    rfl
  simp only [System.placeOf, Option.bind_eq_some_iff, Option.map_eq_some_iff, Prod.mk.injEq] at hp
  obtain ⟨_, hd, _, hfind, rfl, rfl⟩ := hp
  rw [hsc]
  exact hs _ _ hd hfind ho

/-! ### Requests -/

/-- What a caller puts into a payload. -/
theorem JobInput.origin (hpayload : r.payload = input.payload)
    (hday2 : r.operation.isDay2 = false) : r.Origin s := by
  have hn (p : Payload) (h : r.payload = some p) : p.policyApproval = none
      ∧ p.workflowApproval = none ∧ p.resumeAfterProviderApply = false
      ∧ p.quota.reservationId = none := by
    rw [hpayload, JobInput.payload] at h
    split at h
    · cases h
    cases h
    exact ⟨rfl, rfl, rfl, rfl⟩
  exact .first hday2 (fun p h => (hn p h).1) (fun p h => (hn p h).2.1)
    (fun p h => (hn p h).2.2.1) fun p h => (hn p h).2.2.2

section Requests

variable {s s' : System} {id : ℕ} {job job' : Job} {old : ℕ}

theorem Born.putDeployment {dep : Option Deployment} {row : Deployment}
    (h : Born (s.putDeployment d row) job dep) : Born s job dep := by
  cases h with
  | plain hp hung => exact .plain hp hung
  | gated hp hstgs hn hstage happrovals hc hwaiting hexpires =>
    exact .gated hp hstgs hn hstage happrovals hc hwaiting hexpires
  | inherited hfind hd hp hstgs hung => exact .inherited hfind hd hp hstgs hung

theorem Operation.not_destroys_of_opens (h : op.opensDeployment) : ¬op.destroys := by
  cases op <;> first | cases h; done | exact nofun

theorem Operation.opens_of_provisioning (h : op.provisioning) : op.opensDeployment := by
  cases op <;> first | rfl | cases h

theorem createDeployment_transacts {dep : DeploymentInput}
    (h : createDeployment s dep input = .ok s') :
    Transacts s (.createDeployment dep input) s' := by
  simp only [createDeployment, ensure_bind_eq_ok, Bool.and_eq_true, Option.isNone_iff_eq_none] at h
  obtain ⟨⟨hf, hopens⟩, h⟩ := h
  have hday2 : input.operation.isDay2 = false := by
    cases ho : input.operation <;> simp_all [Operation.opensDeployment, Operation.isDay2]
  obtain ⟨job, pl, hinserts, hcr, hp, hfr⟩ := newJob_spec
    (.createDeployment dep input) h (JobInput.origin rfl hday2)
  have hr : (s.putDeployment dep.id dep.row).deployments.find? dep.id
      = some dep.row := Table.find?_put_self ..
  simp only [System.placeOf, Option.bind_some, hr, Option.map_some] at hp
  subst hp
  cases hcr with
  | requested hn hjob _ hi halive hfence hprevious hday2 hwf hb hcp =>
    refine .of_insert hinserts (.requested hn hjob (.inr ⟨hf, rfl⟩) hi halive hfence hprevious
      hday2 hwf hb.putDeployment hcp) ⟨rfl, rfl, rfl⟩ (fun x => ?_)
      (.requested rfl rfl hfr fun d row hp => hinserts.place_row hp) rfl ?_
    · by_cases hx : x = dep.id
      · exact .inr ⟨_, by rw [hx]⟩
      · exact .inl (Table.find?_put_of_ne _ _ hx)
    · -- the first job of a deployment is no destroy
      intro _ _ _ ho
      rw [hfr.operation] at ho
      exact absurd ho (Operation.not_destroys_of_opens hopens)

theorem createJob_transacts (h : createJob s input = .ok s') :
    Transacts s (.createJob input) s' := by
  simp only [createJob, ensure_bind_eq_ok] at h
  obtain ⟨hvalid, h⟩ := h
  refine newJob_transacts h (JobInput.origin rfl ?_) rfl rfl fun d dep hd hfind ho => ?_
  · show input.operation.isDay2 = false
    cases ho : input.operation <;> simp_all [JobInput.valid, Operation.isDay2]
  have hd : input.deploymentId = some d := hd
  have ho : input.operation.destroys := ho
  simp [Step.supersedes, hd, hfind, Operation.superseding, ho, JobInput.request]

theorem retryJob_transacts (h : retryJob s old id apps config = .ok s') :
    Transacts s (.retryJob old id apps config) s' := by
  simp only [retryJob, need_bind_eq_ok, ensure_bind_eq_ok] at h
  obtain ⟨job, hjob, -, h⟩ := h
  refine newJob_transacts h (.retry hjob rfl rfl rfl ?_ ?_ ?_ ?_ ?_ ?_)
    (by simp [Step.request, hjob]) rfl fun d dep hd hfind ho => ?_
  case refine_5 =>
    unfold Job.retryPayload
    split
    · next hr =>
      intro _
      simp only [Bool.and_eq_true, Job.providerCheckpointed, Bool.or_eq_true,
        decide_eq_true_eq] at hr
      exact hr.2
    · simp
  case refine_7 =>
    have hd : job.deploymentId = some d := hd
    have ho : job.operation.destroys := ho
    simp [Step.supersedes, hjob, hd, hfind, Operation.superseding, ho]
  all_goals
    unfold Job.retryPayload
    split <;> rfl

theorem acceptAwxOnboarding_transacts (h : acceptAwxOnboarding s old id apps config = .ok s') :
    Transacts s (.acceptAwxOnboarding old id apps config) s' := by
  simp only [acceptAwxOnboarding, need_bind_eq_ok, ensure_bind_eq_ok, Bool.and_eq_true] at h
  obtain ⟨job, hjob, -, ⟨hp, -⟩, _, -, -, -, hsynced, -, h⟩ := h
  refine newJob_transacts h (.retry hjob rfl rfl rfl rfl rfl rfl rfl (fun _ => .inl hsynced.1) rfl)
    (by simp [Step.request, hjob]) rfl fun _ _ _ _ ho => ?_
  exact absurd ho (Operation.not_destroys_of_opens (Operation.opens_of_provisioning hp))

theorem queueBlueprintDelete_transacts {scope : Scope}
    (h : queueBlueprintDelete s id scope = .ok s') :
    Transacts s (.queueBlueprintDelete id scope) s' := by
  simp only [queueBlueprintDelete, ensure_bind_eq_ok, System.freshJobId_iff] at h
  obtain ⟨⟨hi, hfresh⟩, h⟩ := h
  cases h
  exact ⟨.of_create hfresh rfl
    (.detached ⟨.inl rfl, rfl, rfl⟩ rfl rfl (.plain rfl (.inr rfl)) (by rintro ⟨⟩)) (fun _ => rfl)
    (.exempt rfl),
    .of_eq rfl, .of_create rfl hi rfl (by rintro _ ⟨⟩), .of_create rfl hfresh⟩

/-- The deployment of a job does not depend on what else is in the row. -/
theorem updateDeployment_congr (h : job'.deploymentId = job.deploymentId)
    (cond : Deployment → Bool) (f : Deployment → Deployment) :
    (s.updateDeployment job' cond f).deployments = (s.updateDeployment job cond f).deployments := by
  simp only [System.updateDeployment, System.deploymentOf, h]

/-- If nothing changes, the job does not ask for a change. -/
theorem NoChange.asksForChange (hjob : s.jobs.find? id = some job)
    (h : NoChange s.ledger (job.ref id) ((s.deploymentOf job).map fun d => d.2.shape d.1)
      job.payload.quota) : s.asksForChange id = false := by
  simp only [System.asksForChange, hjob, Option.any_some]
  cases hp : s.deploymentOf job with
  | none => rfl
  | some pl =>
    rw [Option.any_some, Bool.and_eq_false_iff]
    cases ho : job.operation.mutatingTerraform with
    | false => exact .inl rfl
    | true =>
      refine .inr ?_
      rw [h (pl.2.shape pl.1) (by rw [hp]; rfl) ho]
      simp

/-- A job goes through admission once more. -/
theorem Transacts.of_readmission {a : Step} {tag : QuotaTag} {l : Ledger}
    (heffect : Effect s a s') (h : prepareJobReservation s.ledger (job.ref id)
      ((s.deploymentOf job).map fun d => d.2.shape d.1) job.payload.quota = .ok (tag, l))
    (hjob : s.jobs.find? id = some job) (hjobs : s'.jobs = s.jobs.put id (job'.touch s.now))
    (hledger : s'.ledger = l) (htag : job'.payload.quota = tag) (ha : a.readmits s = some id)
    (ho : job'.status.terminal = false
      ∨ ∃ w wk, a = .admitClaimed w ∧ s.workers.find? w = some wk ∧ wk.jobId = id)
    (hsupersedes : ∀ d, job.deploymentId = some d
      → a.supersedes s = job.operation.superseding id ⟨job.scope, .deployment, d⟩)
    (he : job'.status.terminal → job.status.terminal) : Transacts s a s' := by
  subst hledger
  have hprep := prepareJobReservation_spec h
  refine ⟨heffect, .single (.prepares ?_ ?_ hprep (.inr ha)), ?_, .of_write hjobs hjob (.kept he)⟩
  · refine ⟨job'.touch s.now, ?_, ho⟩
    rw [hjobs]
    exact Table.find?_put_self ..
  · intro shape hshape hop
    obtain ⟨⟨d, dep⟩, hp, rfl⟩ := Option.map_eq_some_iff.1 hshape
    have hop : job.operation.destroys := hop
    rw [hsupersedes d ((s.deploymentOf_eq_some job).1 hp).1, Operation.superseding, if_pos hop]
    rfl
  refine .of_put hjobs (fun x hx => (Option.some.inj (ha.symm.trans hx)).symm) ⟨fun hn => ?_, ?_⟩
  · rw [hjob] at hn
    cases hn
  intro r hr
  have hr : job'.payload.quota.reservationId = some r := hr
  rw [htag] at hr
  rcases hprep.carries with ⟨hs, hchange⟩ | hholds
  · exact .inr ⟨job, hjob, hs.symm.trans hr, fun _ _ => hchange.asksForChange hjob⟩
  · exact .inl (hholds r hr)

theorem requeue_transacts (h : requeue s id job' = .ok s') (hjob : s.jobs.find? id = some job)
    (ho : job.status = .waitingApproval) (hf : job.Frame job')
    (hc : job'.cancelRequested = job.cancelRequested)
    (hheartbeat : job'.heartbeatAt = job.heartbeatAt)
    (hq : job'.payload.quota = job.payload.quota)
    (hrunt : job'.payload.proxmoxRuntime = job.payload.proxmoxRuntime
      ∧ job'.payload.workflowRuntime = job.payload.workflowRuntime) :
    Transacts s (.approveJob id approves) s' := by
  simp only [requeue, ofQuota_bind_eq_ok] at h
  obtain ⟨⟨tag, l⟩, hprep, h⟩ := h
  rw [Job.ref, System.deploymentOf, hf.deploymentId, hf.operation, hf.scope, hq] at hprep
  cases h
  refine .of_readmission (.of_write hjob rfl
    (.approved (hf.trans (.of_core rfl)) ho rfl hc hheartbeat
      ⟨hrunt.1, .inl hrunt.2⟩) (updateDeployment_congr hf.deploymentId ..))
    hprep hjob rfl rfl rfl rfl (.inl rfl) (fun d hd => ?_) nofun
  simp [Step.supersedes, hjob, hd]

theorem approveJob_transacts (h : approveJob s id approves = .ok s') :
    Transacts s (.approveJob id approves) s' := by
  simp only [approveJob, need_bind_eq_ok, ensure_bind_eq_ok, decide_eq_true_eq] at h
  obtain ⟨job, hjob, ho, -, h⟩ := h
  split at h
  · simp only [approveWorkflowStep, ensure_bind_eq_ok] at h
    obtain ⟨-, -, -, h⟩ := h
    exact requeue_transacts h hjob ho (.of_core rfl) rfl rfl rfl ⟨rfl, rfl⟩
  obtain ⟨-, h⟩ := ensure_bind_eq_ok.1 h
  obtain ⟨stage, -, h⟩ := bind_eq_ok.1 h
  split at h
  · -- one more stage is to come: the job goes on waiting
    cases h
    refine ⟨.of_writeJob hjob rfl (.kept (.of_core rfl) rfl rfl
      (.inl rfl) (by simp) (by rintro ⟨⟩) ⟨rfl, .inl rfl⟩) rfl, .of_eq rfl,
      .of_put rfl (fun x hx => (Option.some.inj hx).symm) (.kept hjob rfl fun _ hl => ?_),
      .of_write rfl hjob (.kept fun he => he)⟩
    have hl : job.status.live := hl
    rw [ho] at hl
    cases hl
  all_goals
    exact requeue_transacts h hjob ho (.of_core rfl) rfl rfl rfl ⟨rfl, rfl⟩

theorem cancelJob_transacts (h : cancelJob s id = .ok s') : Transacts s (.cancelJob id) s' := by
  simp only [cancelJob, need_bind_eq_ok, ensure_bind_eq_ok, Bool.not_eq_true'] at h
  obtain ⟨job, hjob, hopen, h⟩ := h
  split at h
  · cases h
    exact .of_stays (.of_eq rfl) rfl rfl rfl
  split at h
  · next ho =>
    obtain ⟨l, hrelease, h⟩ := ofQuota_bind_eq_ok.1 h
    cases h
    exact .of_write hjob rfl (.cancelledEarly ho) (And.imp_right .settled
      (calls_release rfl hjob hrelease (.inl ⟨_, Table.find?_put_self .., rfl⟩))) rfl rfl rfl
  · next ho =>
    cases h
    refine .of_write hjob rfl (.cancelling ?_) ⟨.of_eq rfl, .goesOn rfl⟩ rfl rfl rfl
    cases hs : job.status <;> simp_all [JobStatus.terminal]

theorem materializeScheduledJob_transacts {sched : Schedule}
    (h : materializeScheduledJob s id sched = .ok s') :
    Transacts s (.materializeScheduledJob id sched) s' := by
  simp only [materializeScheduledJob, need_bind_eq_ok, ensure_bind_eq_ok, Bool.and_eq_true,
    Option.isNone_iff_eq_none, decide_eq_true_eq] at h
  obtain ⟨dep, hfind, halive, -, -, hi, ⟨hfresh, hschedulable⟩, h⟩ := h
  have hg : Gated _ (sched.job s.now dep) := gateJobForApproval_spec ..
  have ho : (sched.job s.now dep).operation = sched.operation := hg.frame.operation
  have hday2 : (sched.job s.now dep).operation.isDay2 = false := by
    rw [ho]
    cases hs : sched.operation <;> simp_all [Operation.schedulable, Operation.isDay2]
  have hn : (sched.job s.now dep).reservationId = none := by
    rw [Job.reservationId, hg.quota]
    rfl
  have hdr : (sched.draft dep).Frame (sched.job s.now dep) := hg.frame
  split at h
  · next tag l hadmit =>
    refine .of_insert (t := s) ⟨hfresh, _, tag, l, hadmit, hn, rfl, (Except.ok.inj h).symm⟩
      (.scheduled ⟨hg.status, hg.cancelRequested, hg.heartbeatAt⟩
        hg.frame.deploymentId ho hfind hi halive hg.frame.previousStatus hday2
        hg.workflowApproval (gateJobForApproval_born s.now sched.config _ (.inl rfl))
        (hg.resumesBehind (by rintro ⟨⟩))) ⟨rfl, rfl, rfl⟩ (fun _ => .inl rfl)
      (.scheduled rfl hfind (hdr.trans (.of_core rfl))) rfl ?_
    rintro _ _ ⟨⟩ hdestroys
    have hdestroys : (sched.job s.now dep).operation.destroys := hdestroys
    have hsc : (sched.job s.now dep).scope = dep.scope := hg.frame.scope
    rw [ho] at hdestroys
    simp [Step.supersedes, hfind, Operation.superseding, hdestroys, Deployment.subject, Job.withQuota,
      hsc]
  · next hrefused =>
    have hplain : (sched.job s.now dep).payload.policyApproval = none
        ∧ (sched.job s.now dep).Ungated (some dep) :=
      gateJobForApproval_queued (admitJob_eq_error hrefused)
    rw [System.freshJobId_iff] at hfresh
    cases h
    refine ⟨.of_create hfresh.2 rfl
      (.refused rfl hg.cancelRequested hg.heartbeatAt ho hday2
        ⟨dep.status, hg.frame.previousStatus, halive⟩ hg.workflowApproval
        ⟨hplain.1, some dep, hplain.2⟩ (hg.resumesBehind (by rintro ⟨⟩)))
      (fun x => ?_) (.scheduled rfl hfind (hdr.trans (.of_core rfl))),
      .of_eq rfl, .of_create rfl hfresh.1 rfl (fun r hr => by cases hn.symm.trans hr),
      .of_create rfl hfresh.2⟩
    -- the deployment row is written back as it was
    have he : dep.leave dep.status = dep := by
      unfold Deployment.leave
      rw [← hi]
    show (s.deployments.put sched.deploymentId _).find? x = s.deployments.find? x
    rw [he, Table.find?_put]
    split
    · next hx => rw [hx, hfind]
    · rfl

theorem reconcileVm_transacts {present : Bool} (h : reconcileVm s d present = .ok s') :
    Transacts s (.reconcileVm d present) s' := by
  simp only [reconcileVm, need_bind_eq_ok, ofQuota_bind_eq_ok] at h
  obtain ⟨_, -, dep, hfind, l, hp, h⟩ := h
  cases h
  exact .of_stays (.single (.observes rfl rfl hfind hp)) rfl rfl rfl

theorem removeConfirmedMissingVm_transacts {purge : Bool}
    (h : removeConfirmedMissingVm s d purge = .ok s') :
    Transacts s (.removeConfirmedMissingVm d purge) s' := by
  simp only [removeConfirmedMissingVm, need_bind_eq_ok, ensure_bind_eq_ok, ofQuota_bind_eq_ok,
    Option.isNone_iff_eq_none] at h
  obtain ⟨_, -, dep, hfind, hi, l₁, hp, l₂, habsent, h⟩ := h
  cases h
  refine .of_adjust hfind ?_ (fun x => Table.find?_put ..)
    ((ReflTransGen.single (.removes rfl hfind hp)).tail
      (.accounts (.inr ⟨purge, rfl⟩) hfind ?_ habsent)) rfl rfl
  · exact .removed hi rfl rfl ⟨rfl, rfl, rfl, rfl, rfl⟩
  · exact truncateKey_ne_jobKey d (by decide) (by decide)

theorem releaseAddress_transacts {i : ℕ} {hostname : Bool}
    (h : releaseAddress s d i hostname = .ok s') :
    Transacts s (.releaseAddress d i hostname) s' := by
  simp only [releaseAddress, need_bind_eq_ok, ensure_bind_eq_ok] at h
  obtain ⟨dep, hfind, _, -, -, h⟩ := h
  cases h
  exact .of_adjust hfind .freed (fun x => Table.find?_put ..) (.of_eq rfl) rfl rfl

theorem quarantineJob_transacts (h : quarantineJob s id = .ok s') :
    Transacts s (.quarantineJob id) s' := by
  simp only [quarantineJob, need_bind_eq_ok, ensure_bind_eq_ok, ofQuota_bind_eq_ok,
    Bool.not_eq_true'] at h
  obtain ⟨job, hjob, ho, l, hmark, h⟩ := h
  cases h
  exact .of_write hjob rfl (.quarantined ho) (And.imp_right .settled (calls_mark hmark)) rfl rfl rfl

end Requests

/-! ### The dispatcher -/

section Dispatcher

variable {cfg : Settings} {s s' : System} {id : ℕ}

theorem expireWaitingApproval_transacts (h : expireWaitingApproval s id config = .ok s') :
    Transacts s (.expireWaitingApproval id config) s' := by
  simp only [expireWaitingApproval, need_bind_eq_ok, ensure_bind_eq_ok, Bool.and_eq_true,
    decide_eq_true_eq, Bool.not_eq_true'] at h
  obtain ⟨job, hjob, ⟨ho, hc⟩, -, h⟩ := h
  split at h
  · next ha =>
    cases h
    exact .of_write hjob rfl (.expiredApplied ho hc ha.1 ha.2)
      ⟨.of_eq rfl, fun _ _ => .inl rfl⟩ rfl rfl rfl
  · next ha =>
    cases h
    exact .of_write hjob rfl (.expired ho hc ha) ⟨.of_eq rfl, fun _ _ => .inl rfl⟩ rfl rfl rfl

variable {job : Job} {dep : Deployment}

section

variable (hd : job.deploymentId = some d) (hfind : s.deployments.find? d = some dep)
include hd hfind

/-- A write to the deployment of a job that meets the condition. -/
theorem find?_updateDeployment_of_cond {cond : Deployment → Bool} (hc : cond dep)
    (f : Deployment → Deployment) (x : ℕ) :
    (s.updateDeployment job cond f).deployments.find? x
      = if x = d then some (f dep) else s.deployments.find? x := by
  rw [System.find?_updateDeployment]
  split
  · next hx =>
    subst hx
    simp [hfind, hd, hc]
  · next hx =>
    have hn : job.deploymentId ≠ some x := fun h => hx (Option.some.inj (h.symm.trans hd))
    simp [hn]

theorem find?_updateOwned_of_active (ha : dep.activeJobId = some id)
    (f : Deployment → Deployment) (x : ℕ) :
    (s.updateOwned id job f).deployments.find? x
      = if x = d then some (f dep) else s.deployments.find? x :=
  find?_updateDeployment_of_cond hd hfind (by simp [Deployment.ownedBy, ha]) f x

end

theorem reconcileCancelledJob_transacts {rq : RqView} (h : reconcileCancelledJob s id rq = .ok s') :
    Transacts s (.reconcileCancelledJob id rq) s' := by
  simp only [reconcileCancelledJob, need_bind_eq_ok, ensure_bind_eq_ok, Bool.and_eq_true,
    Bool.or_eq_true, decide_eq_true_eq] at h
  obtain ⟨job, hjob, ⟨hc, ho⟩, h⟩ := h
  split at h
  · next hg =>
    obtain ⟨l, hmark, h⟩ := ofQuota_bind_eq_ok.1 h
    cases h
    exact .of_write hjob rfl (.abandoned ho hc hg)
      (And.imp_right .settled (calls_mark hmark)) rfl rfl rfl
  cases h
  split
  · next hr =>
    exact .of_write hjob rfl (.markedCancelling hr hc) ⟨.of_eq rfl, .goesOn rfl⟩ rfl rfl rfl
  next hr =>
  -- the row says `cancelling` already: only the deployment may be behind
  have hs := ho.resolve_left hr
  rcases hown : s.deploymentOf job with - | ⟨d, dep⟩
  · refine .of_stays (.of_eq rfl) rfl ?_ rfl
    simp only [System.updateOwned, System.updateDeployment, hown]
  obtain ⟨hd, hfind⟩ := (s.deploymentOf_eq_some job).1 hown
  by_cases ha : dep.activeJobId = some id
  · exact .of_adjust hfind (.stillCancelling hjob hs ha hd)
      (find?_updateOwned_of_active hd hfind ha _) (.of_eq rfl) rfl rfl
  · refine .of_stays (.of_eq rfl) rfl ?_ rfl
    simp [System.updateOwned, System.updateDeployment, hown, Deployment.ownedBy, ha]

/-- A job is resumed only if it provisions and owns its deployment. -/
theorem automaticResume_spec {resumed : Job} (h : automaticResume cfg s id job = some resumed) :
    job.operation.provisioning ∧ s.owns id job ∧ resumed = job.resumed id := by
  unfold automaticResume at h
  split at h
  · next hc =>
    simp only [Bool.and_eq_true] at hc
    exact ⟨hc.1.1.1.1.2, hc.1.1.2, (Option.some.inj h).symm⟩
  · cases h

theorem owns_eq_true (h : s.owns id job) : ∃ d dep,
    job.deploymentId = some d ∧ s.deployments.find? d = some dep
      ∧ dep.activeJobId = some id := by
  simp only [System.owns, Option.any_eq_true, decide_eq_true_eq] at h
  obtain ⟨⟨d, dep⟩, ho, ha⟩ := h
  obtain ⟨hd, hfind⟩ := (s.deploymentOf_eq_some job).1 ho
  exact ⟨d, dep, hd, hfind, ha⟩

theorem not_isDay2_of_provisioning (h : op.provisioning) : op.isDay2 = false := by
  cases op <;> simp_all [Operation.provisioning, Operation.isDay2]

theorem reconcileStaleJob_transacts {resumeId : ℕ} (h : reconcileStaleJob cfg s id resumeId = .ok s') :
    Transacts s (.reconcileStaleJob id resumeId) s' := by
  simp only [reconcileStaleJob, need_bind_eq_ok, ensure_bind_eq_ok, ofQuota_bind_eq_ok] at h
  obtain ⟨job, hjob, hstale, l, hmark, h⟩ := h
  have hcalls : ReflTransGen (QuotaCall s (.reconcileStaleJob id resumeId) s') s.ledger l ∧ _ :=
    calls_mark hmark
  split at h
  · next resumed hresumed =>
    simp only [ensure_bind_eq_ok, System.freshJobId_iff] at h
    obtain ⟨⟨hi, hfresh⟩, h⟩ := h
    obtain ⟨hp, howns, rfl⟩ := automaticResume_spec hresumed
    obtain ⟨d, dep, hd, hfind, ha⟩ := owns_eq_true howns
    cases h
    refine ⟨.takesOver hjob ?_ (.inl ⟨resumeId, rfl, hstale⟩) (fun x => find?_put_put ..)
      (find?_updateOwned_of_active hd hfind ha _) (.inr rfl), hcalls.1,
      .of_takeover rfl hjob rfl hi rfl (by rintro _ ⟨⟩), .of_takeover rfl hjob hfresh (.settled hcalls.2)⟩
    exact
      { fresh := hfresh, active := ⟨dep, hfind, ha⟩
        deploymentId := hd, frame := .of_core rfl, failed := rfl
        cancelRequested := rfl, heartbeatAt := rfl, provisioning := hp
        isNew := ⟨.inl rfl, rfl, rfl⟩, queued := rfl, source := rfl, newDeploymentId := hd
        newOperation := not_isDay2_of_provisioning hp
        newNotPlan := fun ho => by cases ho ▸ hp
        addresses := fun dep' hf' => by cases hfind.symm.trans hf'; rfl
        deployment := fun dep' hf' => by
          cases hfind.symm.trans hf'
          exact ⟨rfl, rfl, rfl, rfl, rfl⟩
        kept := ⟨⟨rfl, rfl⟩, rfl⟩, runtime := ⟨rfl, .inl rfl⟩
        approvals := .inr ⟨⟨rfl, rfl⟩, rfl, rfl, rfl, rfl⟩
        newActive := rfl
        newStatus := rfl }
  · cases h
    exact .of_write hjob rfl (.lost hstale) (hcalls.imp_right .settled) rfl rfl rfl

theorem reconcileDeploymentJobStatus_transacts (h : reconcileDeploymentJobStatus s d = .ok s') :
    Transacts s (.reconcileDeploymentJobStatus d) s' := by
  simp only [reconcileDeploymentJobStatus, need_bind_eq_ok] at h
  obtain ⟨dep, hfind, active, ha, h⟩ := h
  split at h
  · next job hjob =>
    cases h
    exact .of_adjust hfind (.followed ha hjob) (fun x => Table.find?_put ..) (.of_eq rfl)
      rfl rfl
  · next hjob =>
    cases h
    exact .of_adjust hfind (.orphaned ha hjob) (fun x => Table.find?_put ..) (.of_eq rfl)
      rfl rfl

theorem reconcilePersistedInventory_transacts (h : reconcilePersistedInventory s d = .ok s') :
    Transacts s (.reconcilePersistedInventory d) s' := by
  simp only [reconcilePersistedInventory, need_bind_eq_ok, ensure_bind_eq_ok,
    ofQuota_bind_eq_ok] at h
  obtain ⟨dep, hfind, -, l, hp, h⟩ := h
  have hcalls {t : System} (ht : t.ledger = l) : Calls s (.reconcilePersistedInventory d) t := by
    rw [Calls, ht]
    exact .single (.observes rfl rfl hfind hp)
  cases h
  unfold recordPersistedStateRecovery
  split
  · next x job ha =>
    obtain ⟨y, -, hy⟩ := Option.bind_eq_some_iff.1 ha
    obtain ⟨job', hjob, hxy⟩ := Option.map_eq_some_iff.1 hy
    cases hxy
    split
    · exact .of_kept hjob rfl rfl ⟨.of_core rfl, rfl, rfl,
        ⟨⟨rfl, rfl⟩, rfl⟩, rfl, .inl rfl⟩ (.inl rfl) (hcalls rfl) rfl rfl
    · exact .of_stays (hcalls rfl) rfl rfl rfl
  · exact .of_stays (hcalls rfl) rfl rfl rfl

end Dispatcher

end CloudPortal
