/-
CloudPortal/Jobs/Steps.lean

What the functions of workers do to the tables, and `Step.spec`: every step has one of
the effects of `CloudPortal.Jobs.Effects`, changes workers and requests by the moves listed
there, and the ledger by the calls of `CloudPortal.Jobs.Calls`.  The invariants of the following
modules are proved by cases on these, not on the step.

The first of them is `KindsApart`: a job of a deployment is not a Day-2 job, a request names a
Day-2 job, and each worker executes a job of its own kind.  So nothing that the Day-2 service
writes can touch the job of a deployment.
-/
import CloudPortal.Jobs.Inversion

namespace CloudPortal

open RowStore Transition Relation

/-- What a step does to all tables. -/
structure Spec (s : System) (a : Step) (s' : System) : Prop extends Transacts s a s' where
  side : SideEffect s a s'

variable {config : ApprovalPolicy} {approves rb : Bool} {msg : String} {d : ℕ}
  {wk : Worker}

/-! ### Workers -/

section Workers

variable {cfg : Settings} {s s' : System} {w id : ℕ}

theorem claimJob_spec (h : claimJob s w id = .ok s') : Spec s (.claimJob w id) s' := by
  simp only [claimJob, need_bind_eq_ok, ensure_bind_eq_ok, Bool.and_eq_true, decide_eq_true_eq,
    Bool.not_eq_true', Option.isNone_iff_eq_none] at h
  obtain ⟨job, hj, ⟨⟨ho, hc⟩, hday2⟩, hf, h⟩ := h
  cases h
  refine ⟨.of_write hj rfl (.claimed ho hc hday2) ⟨.of_eq rfl, .goesOn rfl⟩ rfl rfl rfl,
    .of_put (.inl rfl) ?_ rfl rfl rfl⟩
  rw [hf]
  exact .born rfl hj ho hc hday2 rfl

theorem admitClaimed_transacts (h : admitClaimed s w = .ok s') :
    Transacts s (.admitClaimed w) s' := by
  simp only [admitClaimed, workerJob_bind_eq_ok, ensure_bind_eq_ok, need_bind_eq_ok,
    ofQuota_bind_eq_ok] at h
  obtain ⟨wk, job, hw, -, hj, -, ⟨d, dep⟩, hplace, ⟨tag, l⟩, hprep, h⟩ := h
  have hprep' : prepareJobReservation s.ledger (job.ref wk.jobId)
      ((s.deploymentOf job).map fun d => d.2.shape d.1) job.payload.quota = .ok (tag, l) := by
    rw [hplace]
    exact hprep
  cases h
  refine .of_readmission (.of_kept hj rfl rfl ⟨.of_core rfl, rfl, rfl,
    ⟨⟨rfl, rfl⟩, rfl⟩, rfl, .inl rfl⟩ (.inl rfl)) hprep' hj rfl rfl rfl ?_
    (.inr ⟨w, wk, rfl, hw, rfl⟩) (fun d hd => ?_) fun he => he
  · simp [Step.readmits, hw]
  · simp [Step.supersedes, hw, hj, hd]

variable {dep : Deployment} {job : Job} {sha : Option String} {rid : ℕ}

/-- `clear_provider_wait` writes the payload, the status of the deployment, both or nothing. -/
theorem clearProviderWait_transacts {a : Step} (hj : s.jobs.find? id = some job)
    (hjobs : s'.jobs = (clearProviderWait s id job).jobs)
    (hdeps : s'.deployments = (clearProviderWait s id job).deployments)
    (hledger : s'.ledger = (clearProviderWait s id job).ledger) (ha : a.readmits s = none) :
    Transacts s a s' := by
  have hcalls : Calls s a s' := .of_eq (hledger.trans clearProviderWait_side.2)
  unfold clearProviderWait at hjobs hdeps
  split at hjobs
  · next hw =>
    rw [if_pos hw] at hdeps
    exact .of_write hj hjobs (.kept (.of_core rfl) rfl rfl (.inl rfl)
      (by simp) (fun _ => ⟨⟨rfl, rfl⟩, rfl⟩) ⟨rfl, .inl rfl⟩) ⟨hcalls, .kept fun he => he⟩
      hdeps rfl ha
  next hw =>
  rw [if_neg hw] at hdeps
  rcases hd : s.deploymentOf job with - | ⟨d, dep⟩
  · refine .of_stays hcalls hjobs (hdeps.trans ?_) ha
    simp only [System.updateDeployment, hd]
  obtain ⟨hd', hf⟩ := (s.deploymentOf_eq_some job).1 hd
  by_cases hs : dep.status = .waitingProvider
  · refine .of_adjust hf (.unblocked hs) (fun x => ?_) hcalls hjobs ha
    rw [hdeps, System.updateDeployment, hd]
    simp only [hs, decide_true, if_true]
    exact Table.find?_put ..
  · refine .of_stays hcalls hjobs (hdeps.trans ?_) ha
    simp [System.updateDeployment, hd, hs]

theorem startBody_spec {available : Bool} (h : startBody s w available = .ok s') :
    Spec s (.startBody w available) s' := by
  simp only [startBody, workerJob_bind_eq_ok, ensure_bind_eq_ok, Bool.and_eq_true,
    decide_eq_true_eq] at h
  obtain ⟨wk, job, hw, hday2, hj, ⟨hp, -⟩, -, h⟩ := h
  cases h
  split
  · exact ⟨clearProviderWait_transacts hj rfl rfl rfl rfl,
      .of_move hw hday2 (.started hp) rfl clearProviderWait_side.1 rfl⟩
  · exact ⟨.of_stays (.of_eq rfl) rfl rfl rfl, .of_move hw hday2 (.started hp) rfl .rfl rfl⟩

theorem deferForProvider_spec (h : deferForProvider cfg s w = .ok s') :
    Spec s (.deferForProvider w) s' := by
  simp only [deferForProvider, workerJob_bind_eq_ok, ensure_bind_eq_ok, Bool.and_eq_true,
    decide_eq_true_eq] at h
  obtain ⟨wk, job, hw, hday2, hj, ⟨⟨hp, ho⟩, -⟩, h⟩ := h
  split at h
  · cases h
    exact ⟨.of_stays (.of_eq rfl) rfl rfl rfl, .of_erase (.inl rfl) rfl rfl rfl⟩
  next hc =>
  rw [Bool.not_eq_true] at hc
  split at h
  · cases h
    exact ⟨clearProviderWait_transacts hj rfl rfl rfl rfl,
      .of_move hw hday2 (.stoppedWaiting hp) rfl clearProviderWait_side.1 rfl⟩
  cases h
  exact ⟨.of_write hj rfl (.deferred (.of_core rfl)
    ⟨wk, hw, rfl, hp, hday2⟩ hc hc rfl rfl ho ⟨rfl, rfl⟩ rfl
    ⟨rfl, .inl rfl⟩) ⟨.of_eq rfl, .goesOn rfl⟩ rfl rfl rfl, .of_erase (.inl rfl) rfl rfl rfl⟩

theorem checkContext_spec {force auth : Bool} (h : checkContext s w force auth rb = .ok s') :
    Spec s (.checkContext w force auth rb) s' := by
  simp only [checkContext, need_bind_eq_ok, ensure_bind_eq_ok, Bool.and_eq_true,
    Bool.not_eq_true'] at h
  obtain ⟨wk, hw, ⟨hp, hday2⟩, h⟩ := h
  split at h
  · next hr =>
    cases h
    exact ⟨.of_stays (.of_eq rfl) rfl rfl rfl,
      .of_move hw hday2 (.cleared hp (.inl ⟨hr, rfl⟩)) rfl .rfl rfl⟩
  · cases h
    refine ⟨.of_stays (.of_eq rfl) rfl rfl rfl, .of_move hw hday2 (.stopped hp ?_) rfl .rfl rfl⟩
    split <;> simp
  · next hr =>
    cases h
    exact ⟨.of_stays (.of_eq rfl) rfl rfl rfl, .of_move hw hday2 (.unauthorized hp hr) rfl .rfl rfl⟩
  · next hr =>
    split at h
    · next job hj =>
      cases h
      exact ⟨.of_kept hj rfl rfl ⟨.of_core rfl, rfl, rfl,
        ⟨⟨rfl, rfl⟩, rfl⟩, rfl, .inl rfl⟩ (.inr rfl) (.of_eq rfl) rfl rfl,
        .of_move hw hday2 (.cleared hp (.inr ⟨hr, rfl⟩)) rfl .rfl rfl⟩
    · cases h

theorem submitMutation_side {more : Bool} (h : submitMutation s w rb more = .ok s') :
    SideEffect s (.submitMutation w rb more) s' := by
  simp only [submitMutation, workerJob_bind_eq_ok, ensure_bind_eq_ok, Bool.and_eq_true,
    Bool.or_eq_true, decide_eq_true_eq] at h
  obtain ⟨wk, job, hw, hday2, hj, ⟨hp, hcleared⟩, ⟨ho, -⟩, h⟩ := h
  cases h
  exact .of_move hw hday2 (.submitted hj hp hcleared ho) rfl .rfl rfl

theorem requestLost_side (h : requestLost s w rb = .ok s') :
    SideEffect s (.requestLost w rb) s' := by
  simp only [requestLost, workerJob_bind_eq_ok, ensure_bind_eq_ok, Bool.and_eq_true,
    Bool.or_eq_true, decide_eq_true_eq] at h
  obtain ⟨wk, job, hw, hday2, -, ⟨hp, hcleared⟩, -, h⟩ := h
  cases h
  exact .of_move hw hday2 (.lost hp hcleared) rfl .rfl rfl

theorem mutationSucceeded_side (h : mutationSucceeded s w = .ok s') :
    SideEffect s (.mutationSucceeded w) s' := by
  simp only [mutationSucceeded, workerJob_bind_eq_ok] at h
  obtain ⟨wk, job, hw, hday2, -, h⟩ := h
  split at h
  · next hp =>
    cases h
    exact .of_move hw hday2 (.undone hp) rfl .rfl rfl
  · next hp =>
    cases h
    refine .of_move hw hday2 (.succeeded hp fun happlied => ?_) rfl .rfl rfl
    exact Bool.or_eq_true_iff.2 (.inl happlied)
  · cases h

theorem mutationFailed_side (h : mutationFailed s w = .ok s') :
    SideEffect s (.mutationFailed w) s' := by
  simp only [mutationFailed, need_bind_eq_ok, ensure_bind_eq_ok, Bool.not_eq_true'] at h
  obtain ⟨wk, hw, hday2, h⟩ := h
  split at h
  · next hp =>
    cases h
    exact .of_move hw hday2 (.aborted hp) rfl .rfl rfl
  · cases h

theorem persistWorkflowRuntime_transacts (h : persistWorkflowRuntime s w sha = .ok s') :
    Transacts s (.persistWorkflowRuntime w sha) s' := by
  simp only [persistWorkflowRuntime, workerJob_bind_eq_ok, ensure_bind_eq_ok] at h
  obtain ⟨wk, job, hw, hday2, hj, -, h⟩ := h
  cases h
  exact .of_kept hj rfl rfl ⟨.of_core rfl, rfl, rfl,
    ⟨⟨rfl, rfl⟩, rfl⟩, rfl, .inr ⟨w, wk, hw, rfl, hday2, rfl⟩⟩ (.inl rfl)
    (.of_eq rfl) rfl rfl

theorem commitInBody_spec (h : commitInBody s w = .ok s') : Spec s (.commitInBody w) s' := by
  simp only [commitInBody, workerJob_bind_eq_ok, ensure_bind_eq_ok, ofQuota_bind_eq_ok,
    Bool.and_eq_true, decide_eq_true_eq] at h
  obtain ⟨wk, job, hw, hday2, hj, ⟨hp, -⟩, l, hcommit, h⟩ := h
  cases h
  exact ⟨.of_stays (calls_commit (by simp [Step.commitsFor, hw]) hj hcommit).1 rfl rfl
    rfl,
    .of_move hw hday2 (.committed hp) rfl .rfl rfl⟩

theorem pauseForApproval_spec {stepId : String}
    (h : pauseForApproval s w stepId sha config = .ok s') :
    Spec s (.pauseForApproval w stepId sha config) s' := by
  simp only [pauseForApproval, workerJob_bind_eq_ok, ensure_bind_eq_ok, Bool.and_eq_true,
    decide_eq_true_eq] at h
  obtain ⟨wk, job, hw, hday2, hj, ⟨⟨hp, ho⟩, -⟩, h⟩ := h
  cases h
  exact ⟨.of_write hj rfl (.paused (.of_core rfl)
    ⟨wk, hw, rfl, hp, hday2⟩ rfl rfl rfl ho ⟨rfl, rfl⟩
    ⟨rfl, .inr ⟨w, wk, hw, rfl, hday2, rfl⟩⟩) ⟨.of_eq rfl, .goesOn rfl⟩ rfl rfl rfl,
    .of_move hw hday2 (.paused hp) rfl .rfl rfl⟩

theorem releaseAfterPause_spec (h : releaseAfterPause s w = .ok s') :
    Spec s (.releaseAfterPause w) s' := by
  simp only [releaseAfterPause, workerJob_bind_eq_ok, ensure_bind_eq_ok] at h
  obtain ⟨wk, job, hw, -, hj, -, h⟩ := h
  split at h
  · cases h
    exact ⟨.of_stays (.of_eq rfl) rfl rfl rfl, .of_erase (.inl rfl) rfl rfl rfl⟩
  next hs =>
  obtain ⟨l, hr, h⟩ := ofQuota_bind_eq_ok.1 h
  cases h
  refine ⟨.of_stays (calls_release ?_ hj hr
    (.inr ⟨w, wk, rfl, hw, by simpa using hs, rfl⟩)).1 rfl rfl rfl,
    .of_erase (.inl rfl) rfl rfl rfl⟩
  simp [Step.releasesFor, hw, hs]

theorem deferBlueprintDelete_spec (h : deferBlueprintDelete s w = .ok s') :
    Spec s (.deferBlueprintDelete w) s' := by
  simp only [deferBlueprintDelete, workerJob_bind_eq_ok, ensure_bind_eq_ok, Bool.and_eq_true,
    decide_eq_true_eq] at h
  obtain ⟨wk, job, hw, hday2, hj, ⟨hp, ho⟩, h⟩ := h
  cases h
  exact ⟨.of_writeJob (f := fun e => e) hj rfl
    (.deleteDeferred ⟨wk, hw, rfl, hp, hday2⟩ ho fun _ => rfl)
    ⟨.of_eq rfl, .goesOn rfl⟩ rfl rfl rfl,
    .of_erase (.inl rfl) rfl rfl rfl⟩

theorem markDestroyedAfterRollback_spec (h : markDestroyedAfterRollback s w = .ok s') :
    Spec s (.markDestroyedAfterRollback w) s' := by
  simp only [markDestroyedAfterRollback, workerJob_bind_eq_ok, ensure_bind_eq_ok,
    need_bind_eq_ok, decide_eq_true_eq] at h
  obtain ⟨wk, job, hw, hday2, hj, hp, ⟨d, dep⟩, ho, h⟩ := h
  obtain ⟨hd, hf⟩ := (s.deploymentOf_eq_some job).1 ho
  cases h
  refine ⟨.of_adjust hf ?_ (find?_updateDeployment_of_cond hd hf rfl _) (.of_eq rfl) rfl
    rfl,
    .of_move hw hday2 (.destroyed hp) rfl .rfl rfl⟩
  exact .retired hw hj hd rfl rfl ⟨rfl, rfl, rfl, rfl, rfl⟩

theorem finishBody_side {succ : Bool} (h : finishBody s w succ = .ok s') :
    SideEffect s (.finishBody w succ) s' := by
  simp only [finishBody, need_bind_eq_ok, ensure_bind_eq_ok, Bool.and_eq_true,
    Bool.not_eq_true'] at h
  obtain ⟨wk, hw, ⟨hday2, hp⟩, h⟩ := h
  cases h
  refine .of_move hw hday2 (.finished ?_) rfl .rfl rfl
  cases succ with
  | true =>
    simp only [if_true, Bool.and_eq_true, decide_eq_true_eq] at hp
    exact .inl ⟨rfl, hp.1⟩
  | false => exact .inr ⟨rfl, by simpa using hp⟩

theorem ownedDeployment_eq_some (h : s.ownedDeployment id job = some (d, dep)) :
    job.deploymentId = some d ∧ s.deployments.find? d = some dep
      ∧ dep.activeJobId = some id := by
  rw [System.ownedDeployment, Option.filter_eq_some_iff] at h
  obtain ⟨hd, hf⟩ := (s.deploymentOf_eq_some job).1 h.1
  exact ⟨hd, hf, by simpa using h.2⟩

theorem find?_of_ownedDeployment_eq_none (h : s.ownedDeployment id job = none) {x : ℕ}
    (hf : s.deployments.find? x = some dep) (hx : job.deploymentId = some x) :
    dep.activeJobId ≠ some id := by
  have hd := (s.deploymentOf_eq_some job).2 ⟨hx, hf⟩
  rw [System.ownedDeployment, hd] at h
  simpa [Option.filter] using h

/-- The row of an owned deployment, seen as a change by the job that owns it. -/
theorem find?_put_of_active (hd : job.deploymentId = some d)
    (hf : s.deployments.find? d = some dep) (ha : dep.activeJobId = some id)
    (f : Deployment → Deployment) (x : ℕ) :
    (s.deployments.put d (f dep)).find? x = (s.deployments.find? x).map fun dep =>
        if job.deploymentId = some x ∧ dep.ownedBy id then f dep else dep := by
  rw [Table.find?_put, ← find?_updateOwned_of_active hd hf ha]
  exact s.find?_updateDeployment ..

theorem recoveryJob_operation (id d : ℕ) (job : Job) (dep : Deployment) :
    (recoveryJob id d job dep).operation.isDay2 = false
      ∧ (recoveryJob id d job dep).operation ≠ .terraformPlan := by
  unfold recoveryJob
  dsimp only
  split <;> exact ⟨rfl, nofun⟩

/-- The recovery job takes the deployment over from the job that failed. -/
theorem recoveryJob_takeover {tag : QuotaTag} (hfresh : s.jobs.find? rid = none)
    (hd : job.deploymentId = some d) (hf : s.deployments.find? d = some dep)
    (ha : dep.activeJobId = some id) (hprovisioning : job.operation.provisioning) :
    Takeover s id rid d job (job.finish .failed msg) ((recoveryJob id d job dep).withQuota tag)
      ((wk.leave .failed job dep).occupy rid .recoveryQueued) where
  fresh := hfresh
  active := ⟨dep, hf, ha⟩
  deploymentId := hd
  frame := .of_core rfl
  failed := rfl
  cancelRequested := rfl
  heartbeatAt := rfl
  provisioning := hprovisioning
  isNew := ⟨.inl rfl, rfl, rfl⟩
  queued := rfl
  source := rfl
  newDeploymentId := rfl
  newOperation := (recoveryJob_operation id d job dep).1
  newNotPlan := (recoveryJob_operation id d job dep).2
  addresses := by
    intro dep' hf'
    cases hf.symm.trans hf'
    rfl
  deployment := by
    intro dep' hf'
    cases hf.symm.trans hf'
    exact ⟨rfl, rfl, rfl, rfl, rfl⟩
  kept := ⟨⟨rfl, rfl⟩, rfl⟩
  runtime := ⟨rfl, .inl rfl⟩
  approvals := .inl ⟨rfl, rfl, .inr rfl⟩
  newActive := rfl
  newStatus := rfl

theorem Outcome.status_not_live (out : Outcome) : out.status.live = false := by
  cases out <;> rfl

section Finalize

variable {out : Outcome} {l : Ledger} (hw : s.workers.find? w = some wk)
  (hp : wk.phase = .finishing out) (hj : s.jobs.find? wk.jobId = some job)
include hw hp hj

section

variable (hrow : s'.jobs.find? wk.jobId = some ((job.finish out msg).touch s.now))
include hrow

/-- The quota side of the final transaction of a worker. -/
theorem settleOutcome_calls (h : settleOutcome s.ledger wk.jobId job wk out = .ok l) :
    ReflTransGen (QuotaCall s (.finalizeJob w rid msg) s') s.ledger l
      ∧ ∀ r, jobReservation s.ledger wk.jobId job.payload.quota = some r → l.NotReserved r := by
  unfold settleOutcome at h
  split at h
  · next ho =>
    refine calls_commit ?_ hj h
    simp [Step.commitsFor, hw, hp, ho]
  next ho =>
  split at h
  · exact calls_mark h
  next hs =>
  refine calls_release ?_ hj h (.inl ⟨_, hrow, out.status_not_live⟩)
  simp [Step.releasesFor, hw, hp, hs, ho]

/-- A deployment that is destroyed otherwise than by its job is accounted for as absent. -/
theorem retire_calls (hset : settleOutcome s.ledger wk.jobId job wk out = .ok l)
    (ho : s.ownedDeployment wk.jobId job = some (d, dep))
    (hdestroyed : (wk.leave out job dep).status = .destroyed)
    (h : (if wk.rollbackDestroyed ∨ job.source = .recovery then
        accountConfirmedAbsent l (dep.subject d) ("confirmed-absent:" ++ toString wk.jobId)
      else .ok l) = .ok s'.ledger) :
    Calls s (.finalizeJob w rid msg) s'
      ∧ EndsSettled s (.finalizeJob w rid msg) s' wk.jobId job (job.finish out msg) := by
  obtain ⟨hcalls, hsett⟩ := settleOutcome_calls hw hp hj hrow hset
  split at h
  · next hg =>
    have hk := truncateKey_ne_jobKey wk.jobId
      (by decide : "confirmed-absent:".toList.head? ≠ some 'j') (by decide)
    have harms : Arms l s'.ledger fun key => ∀ x, key ≠ jobKey x :=
      Acts.arms (w := fun _ row => row.status = .reserved → ∀ x, row.requestKey ≠ jobKey x)
        (accountConfirmedAbsent_acts h (by rintro _ _ _ _ _ ⟨⟩)
          fun _ _ _ hrow _ _ => hrow ▸ hk) fun _ _ => id
    refine ⟨hcalls.tail (.accounts (.inl ?_) (ownedDeployment_eq_some ho).2.1 hk h),
      .armed hsett harms fun hnot => hnot _ rfl⟩
    simp [Step.accountsAbsent, hw, hj, ho, hp, hdestroyed, hg]
  · cases h
    exact ⟨hcalls, .settled hsett⟩

end

/-- The row of the job is written, and that of the deployment it owns by `f`. -/
theorem finalized_spec (hday2 : wk.day2 = false) (f : Deployment → Deployment)
    (hf : ∀ dep, (f dep).activeJobId = none
      ∧ (f dep).status = wk.deploymentStatus out job dep ∧ dep.Frame (f dep))
    (howned : ∀ d dep, job.deploymentId = some d → s.deployments.find? d = some dep
      → dep.activeJobId = some wk.jobId → wk.deploymentStatus out job dep = .destroyed
        ∨ wk.wantsRecovery out job = false ∧ (f dep).addresses = dep.addresses)
    (hjobs : s'.jobs = s.jobs.put wk.jobId ((job.finish out msg).touch s.now))
    (hdeps : ∀ x, s'.deployments.find? x = (s.deployments.find? x).map fun dep =>
      if job.deploymentId = some x ∧ dep.ownedBy wk.jobId then f dep else dep)
    (hside : SideEffect s (.finalizeJob w rid msg) s')
    (hcalls : Calls s (.finalizeJob w rid msg) s'
      ∧ EndsSettled s (.finalizeJob w rid msg) s' wk.jobId job (job.finish out msg)) :
    Spec s (.finalizeJob w rid msg) s' := by
  refine ⟨⟨.writes hj (.finalized hw rfl hp hday2 (fun e => ⟨(hf e).1, (hf e).2.1⟩)
    (fun d e hd he ha => (howned d e hd he ha).imp_right And.left)
    (fun d e hd he ha => (howned d e hd he ha).imp_right And.right)
    fun e => (hf e).2.2) (fun x => ?_) hdeps, hcalls.1, .of_write hjobs hj rfl rfl,
    .of_write hjobs hj hcalls.2⟩, hside⟩
  rw [hjobs, Table.find?_put]

end Finalize

/-- The final transaction of a worker, and the job row that it leaves behind. -/
theorem finalizeJob_spec (h : finalizeJob s w rid msg = .ok s') :
    Spec s (.finalizeJob w rid msg) s' ∧ ∃ (wk : Worker) (job : Job) (out : Outcome),
      s.workers.find? w = some wk
        ∧ s'.jobs.find? wk.jobId = some ((job.finish out msg).touch s.now) := by
  simp only [finalizeJob, workerJob_bind_eq_ok] at h
  obtain ⟨wk, job, hw, hday2, hj, h⟩ := h
  split at h
  case h_2 => cases h
  next out hp =>
  obtain ⟨l, hset, h⟩ := ofQuota_bind_eq_ok.1 h
  have hcalls (hrow : s'.jobs.find? wk.jobId = some ((job.finish out msg).touch s.now)) :
      ReflTransGen (QuotaCall s (.finalizeJob w rid msg) s') s.ledger l ∧ _ :=
    settleOutcome_calls hw hp hj hrow hset
  split at h
  · next ho =>
    cases h
    -- the job has lost its deployment to another job, or has none
    refine ⟨finalized_spec hw hp hj hday2 (wk.leave out job)
      (fun _ => ⟨rfl, rfl, rfl, rfl, rfl, rfl, rfl⟩) ?_ rfl (fun x => ?_)
      (.of_erase (.inl rfl) rfl rfl rfl) ((hcalls (Table.find?_put_self ..)).imp_right .settled),
      wk, job, out, hw, Table.find?_put_self ..⟩
    · intro d dep hd hfi ha
      exact absurd ha (find?_of_ownedDeployment_eq_none ho hfi hd)
    show s.deployments.find? x = _
    cases hfi : s.deployments.find? x with
    | none => rfl
    | some dep =>
      have hother := find?_of_ownedDeployment_eq_none ho hfi
      simp only [Option.map_some, Deployment.ownedBy, decide_eq_true_eq]
      rw [if_neg fun hc => hother hc.1 hc.2]
  next d dep ho =>
  obtain ⟨hd, hfi, ha⟩ := ownedDeployment_eq_some ho
  unfold finishDeployment at h
  dsimp only at h
  split at h
  · next hdestroyed =>
    obtain ⟨l', haccount, h⟩ := ofQuota_bind_eq_ok.1 h
    cases h
    refine ⟨finalized_spec hw hp hj hday2 (fun e => (wk.leave out job e).retire s.now)
      (fun _ => ⟨rfl, rfl, rfl, rfl, rfl, rfl, rfl⟩) (fun d' dep' hd' hf' _ => ?_) rfl
      (find?_put_of_active hd hfi ha fun e => (wk.leave out job e).retire s.now)
      (.of_erase (.inl rfl) rfl rfl rfl)
      (retire_calls hw hp hj (Table.find?_put_self ..) hset ho hdestroyed haccount),
      wk, job, out, hw, Table.find?_put_self ..⟩
    cases hd.symm.trans hd'
    cases hfi.symm.trans hf'
    exact .inl hdestroyed
  split at h
  · next hwants =>
    simp only [ensure_bind_eq_ok, ofQuota_bind_eq_ok, System.freshJobId_iff] at h
    obtain ⟨⟨hi, hfr⟩, ⟨tag, l'⟩, hprep, h⟩ := h
    have hwanted := hwants
    simp only [Worker.wantsRecovery, Bool.and_eq_true, decide_eq_true_eq] at hwanted
    obtain ⟨⟨⟨⟨rfl, hprovisioning⟩, -⟩, -⟩, -⟩ := hwanted
    have hfr' : s.jobs.find? rid = none ∧ wk.jobId ≠ rid := by
      have hput : (s.putJob wk.jobId (job.finish .failed msg)).jobs.find? rid = none := hfr
      rw [System.find?_putJob] at hput
      split at hput
      · cases hput
      · next hn => exact ⟨hput, Ne.symm hn⟩
    have hrow := (Table.find?_put_of_ne (s.putJob wk.jobId (job.finish .failed msg)).jobs
      (((recoveryJob wk.jobId d job dep).withQuota tag).touch s.now) hfr'.2).trans
      (Table.find?_put_self ..)
    have hprepare := prepareJobReservation_spec hprep
    have harms : Arms l l' (· = jobKey rid) :=
      Acts.arms (w := fun _ row => row.status = .reserved → row.requestKey = jobKey rid)
        (hprepare.acts (by rintro _ _ _ _ _ _ _ _ ⟨⟩)
          fun _ _ hrow _ _ => hrow.trans (truncateKey_jobKey hi)) fun _ _ => id
    cases h
    refine ⟨⟨⟨.takesOver hj (recoveryJob_takeover hfr'.1 hd hfi ha hprovisioning)
      (.inr ⟨w, rid, msg, wk, rfl, hw, rfl, hday2, hp⟩)
      (fun x => find?_put_put ..) (fun x => Table.find?_put ..) (.inl rfl),
      (hcalls hrow).1.tail (.prepares ?_ ?_ hprepare (.inl hfr'.1)),
      .of_takeover rfl hj rfl hi rfl ?_, .of_takeover rfl hj hfr'.1
        (.armed (hcalls hrow).2 harms fun hk => hfr'.2 (jobKey_injective hk))⟩,
      .of_erase (.inl rfl) rfl rfl rfl⟩, wk, job, .failed, hw, hrow⟩
    · exact ⟨_, Table.find?_put_self .., .inl rfl⟩
    · rintro _ ⟨⟩ -
      show Step.supersedes s _ = some (rid, dep.subject d)
      simp [Step.supersedes, hw, hj, ho, hwants]
    · intro r hr
      rcases hprepare.carries with ⟨hs, -⟩ | hh
      · have hr : tag.reservationId = some r := hr
        rw [hs] at hr
        cases hr
      · exact hh r hr
  · next hwants =>
    cases h
    exact ⟨finalized_spec hw hp hj hday2 (wk.leave out job)
      (fun _ => ⟨rfl, rfl, rfl, rfl, rfl, rfl, rfl⟩)
      (fun _ _ _ _ _ => .inr ⟨Bool.not_eq_true _ ▸ hwants, rfl⟩) rfl
      (find?_put_of_active hd hfi ha (wk.leave out job))
      (.of_erase (.inl rfl) rfl rfl rfl) ((hcalls (Table.find?_put_self ..)).imp_right .settled),
      wk, job, out, hw, Table.find?_put_self ..⟩

end Workers

/-! ### Day-2 actions -/

section Day2

variable {cfg : Settings} {s s' : System} {w id r : ℕ} {live : Day2Live} {warnings : Bool}

theorem quarantineJob_side (h : quarantineJob s id = .ok s') :
    SideEffect s (.quarantineJob id) s' := by
  simp only [quarantineJob, need_bind_eq_ok, ensure_bind_eq_ok, ofQuota_bind_eq_ok] at h
  obtain ⟨job, -, -, l, -, h⟩ := h
  cases h
  have hworkers (w : ℕ) (wk' : Worker) (hw : s.workers.find? w = some wk') :
      WorkerChange s (.quarantineJob id) w (s.workers.find? w) wk' :=
    workerChange_of_eq rfl rfl hw
  split
  · next hf =>
    exact .of_request (Table.mem_rows.1 (List.mem_of_find?_eq_some hf)) hworkers rfl rfl rfl
  · exact .of_eq rfl rfl rfl rfl

theorem reconcileFinishedJob_side {r : ℕ} (h : reconcileFinishedJob s r = .ok s') :
    SideEffect s (.reconcileFinishedJob r) s' := by
  simp only [reconcileFinishedJob, need_bind_eq_ok, ensure_bind_eq_ok] at h
  obtain ⟨req, hq, _, -, -, -, h⟩ := h
  cases h
  refine ⟨rfl, fun w wk' hw => workerChange_of_eq rfl rfl hw, fun x req' hx => .inl ?_⟩
  refine request_of_put hq rfl ?_ hx
  rfl

/-- A Day-2 job waits for the first stage of its policies. -/
theorem ActionInput.born (input : ActionInput) {job : Job} {now : ℕ}
    (ha : job.payload.policyApproval = input.policyApproval now)
    (hpolicy : job.payload.policy = input.approvals) (hblueprint : job.payload.blueprint = none)
    (hs : job.status = (input.job now).status) : Born s job none := by
  have hasked : policyApprovalStages job.payload none
      = policyApprovalStagesFromEffects input.approvals := by
    simp [policyApprovalStages, blueprintSnapshot, hpolicy, hblueprint]
  by_cases hstgs : policyApprovalStagesFromEffects input.approvals = []
  · refine .plain (ha.trans ?_) (.inr (hasked.trans hstgs))
    rw [ActionInput.policyApproval, if_pos hstgs]
  rw [ActionInput.policyApproval, if_neg hstgs] at ha
  refine .gated ha hasked.symm hstgs rfl rfl rfl (hs.trans (if_pos ?_)) (.inr rfl)
  rw [policyApprovalStagesFromEffects_eq_nil] at hstgs
  simp [ActionInput.gated, hstgs]

theorem createAction_spec {input : ActionInput} (h : createAction cfg s input = .ok s') :
    Spec s (.createAction input) s' := by
  simp only [createAction, ensure_bind_eq_ok, System.freshJobId_iff, Bool.and_eq_true] at h
  obtain ⟨⟨⟨hi, hf⟩, -⟩, h⟩ := h
  have hn : (input.job s.now).IsNew := by
    refine ⟨?_, rfl, rfl⟩
    unfold ActionInput.job
    dsimp only
    split
    · exact .inr rfl
    · exact .inl rfl
  -- the only request that is new names the job that is created with it
  have hq {t : System} (hnow : t.now = s.now) (hworkers : t.workers = s.workers) (job : Job)
      (hj : t.jobs = s.jobs.put input.jobId job) (hd : job.deploymentId = none)
      (ho : job.operation.isDay2)
      (hrequests : t.requests = s.requests.put input.requestId input.request) :
      SideEffect s (.createAction input) t := by
    refine ⟨hnow, fun w wk' hw => workerChange_of_eq rfl hworkers hw, fun x req' hx => ?_⟩
    rw [hrequests, Table.find?_put] at hx
    split at hx
    · cases hx
      refine .inr ⟨job, ?_, hd, ho, hf⟩
      rw [hj]
      exact Table.find?_put_self ..
    · exact .inl ⟨req', hx, rfl⟩
  split at h
  · cases h
    exact ⟨⟨.of_create hf rfl (.detached hn rfl rfl (input.born rfl rfl rfl rfl) (by rintro ⟨⟩))
      (fun _ => rfl) (.exempt rfl), .of_eq rfl, .of_create rfl hi rfl (by rintro _ ⟨⟩),
      .of_create rfl hf⟩,
      hq rfl rfl _ rfl rfl rfl rfl⟩
  next ha =>
  obtain ⟨locks, -, h⟩ := bind_eq_ok.1 h
  obtain ⟨⟨tag, l⟩, hprep, h⟩ := ofQuota_bind_eq_ok.1 h
  have hp := prepareDay2Reservation_spec hprep
  cases h
  refine ⟨⟨.of_create hf rfl
    (.detached ⟨hn.status, hn.cancelRequested, hn.heartbeatAt⟩ rfl rfl
      (input.born rfl rfl rfl rfl) (by rintro ⟨⟩)) (fun _ => rfl) (.exempt rfl),
    .single (.preparesDay2 ⟨_, Table.find?_put_self .., .inl ?_⟩ hp),
    .of_create rfl hi rfl (fun x hx => ?_), .of_create rfl hf⟩,
    hq rfl rfl _ rfl rfl rfl rfl⟩
  · simp [ActionInput.job, Job.withQuota, ha, JobStatus.terminal]
  · rcases hp.carries with hs | hh
    · have hx : tag.reservationId = some x := hx
      rw [hs] at hx
      cases hx
    · exact hh x hx

theorem queueAction_spec {req : ActionRequest} {job job' : Job}
    (h : queueAction cfg s r req job' live = .ok s') (hq : s.requests.find? r = some req)
    (ho : req.status = .waitingApproval) (hj : s.jobs.find? req.jobId = some job)
    (hframe : job.Frame job') (hc : job'.cancelRequested = job.cancelRequested)
    (hheartbeat : job'.heartbeatAt = job.heartbeatAt)
    (hquota : job'.payload.quota = job.payload.quota)
    (hr : job'.payload.proxmoxRuntime = job.payload.proxmoxRuntime
      ∧ job'.payload.workflowRuntime = job.payload.workflowRuntime) :
    Spec s (.approveAction r live approves) s' := by
  obtain ⟨locks, -, h⟩ := bind_eq_ok.1 h
  obtain ⟨⟨tag, l⟩, hprep, h⟩ := ofQuota_bind_eq_ok.1 h
  rw [hquota] at hprep
  have hp := prepareDay2Reservation_spec hprep
  cases h
  refine ⟨⟨.of_writeJob (f := fun e => e) hj rfl
    (.actionQueued hq rfl ho (hframe.trans (.of_core rfl)) rfl
      hc hheartbeat (fun _ => rfl) ⟨hr.1, .inl hr.2⟩) rfl,
    .single (.preparesDay2 ⟨_, Table.find?_put_self .., .inl rfl⟩ hp),
    .of_put rfl nofun ⟨fun hn => ?_, fun x hx => ?_⟩, .of_write rfl hj (.kept nofun)⟩,
    .of_request hq (fun _ _ => workerChange_of_eq rfl rfl) rfl rfl rfl⟩
  · rw [hj] at hn
    cases hn
  · rcases hp.carries with hs | hh
    · exact .inr ⟨job, hj, hs.symm.trans hx, fun h => nomatch h⟩
    · exact .inl (hh x hx)

theorem approveAction_spec (h : approveAction cfg s r live approves = .ok s') :
    Spec s (.approveAction r live approves) s' := by
  simp only [approveAction, need_bind_eq_ok, ensure_bind_eq_ok, Bool.and_eq_true,
    decide_eq_true_eq] at h
  obtain ⟨req, hq, ⟨ho, -⟩, job, hj, -, h⟩ := h
  obtain ⟨stage, -, h⟩ := bind_eq_ok.1 h
  split at h
  · cases h
    exact ⟨.of_writeJob hj rfl (.kept (.of_core rfl) rfl rfl (.inl rfl)
      (by simp) (by rintro ⟨⟩) ⟨rfl, .inl rfl⟩) ⟨.of_eq rfl, .kept fun he => he⟩ rfl rfl
      rfl, .of_eq rfl rfl rfl rfl⟩
  · exact queueAction_spec h hq ho hj (.of_core rfl) rfl rfl
      rfl ⟨rfl, rfl⟩
  · exact queueAction_spec h hq ho hj .rfl rfl rfl rfl ⟨rfl, rfl⟩

theorem cancelAction_spec (h : cancelAction s r = .ok s') : Spec s (.cancelAction r) s' := by
  simp only [cancelAction, need_bind_eq_ok, ensure_bind_eq_ok] at h
  obtain ⟨req, hq, -, job, hj, h⟩ := h
  split at h
  · obtain ⟨l, hr, h⟩ := ofQuota_bind_eq_ok.1 h
    cases h
    refine ⟨.of_writeJob (f := fun e => e) hj rfl
      (.actionCancelled hq rfl fun _ => rfl) (And.imp_right .settled
        (calls_release ?_ hj hr (.inl ⟨_, Table.find?_put_self .., rfl⟩))) rfl rfl rfl,
      .of_request hq (fun _ _ => workerChange_of_eq rfl rfl) rfl rfl rfl⟩
    simp [Step.releasesFor, hq]
  · next hstarted =>
    obtain ⟨-, h⟩ := ensure_bind_eq_ok.1 h
    cases h
    exact ⟨.of_writeJob (f := fun e => e) hj rfl
      (.actionCancelling hq rfl (fun _ => rfl) hstarted) ⟨.of_eq rfl, .goesOn rfl⟩ rfl rfl rfl,
      .of_request hq (fun _ _ => workerChange_of_eq rfl rfl) rfl rfl rfl⟩

theorem claimDay2Job_spec {valid : Bool} (h : claimDay2Job cfg s w id valid = .ok s') :
    Spec s (.claimDay2Job w id valid) s' := by
  simp only [claimDay2Job, need_bind_eq_ok, ensure_bind_eq_ok, Bool.and_eq_true, decide_eq_true_eq,
    Bool.not_eq_true', Option.isNone_iff_eq_none] at h
  obtain ⟨job, hj, ⟨⟨ho, hc⟩, hday2⟩, hf, h⟩ := h
  have hb (phase : WorkerPhase) : WorkerChange s (.claimDay2Job w id valid) w
      (s.workers.find? w) { jobId := id, phase := phase, day2 := true } := by
    rw [hf]
    exact .bornDay2 hj hday2 rfl rfl
  split at h
  · next hn =>
    cases h
    exact ⟨.of_writeJob (f := fun e => e) hj rfl
      (.requestMissing ho hc hday2 fun _ => rfl)
      ⟨.of_eq rfl, fun _ _ => .inl (by simp [Step.endsUnsettled, hj, hn])⟩ rfl rfl rfl,
      .of_eq rfl rfl rfl rfl⟩
  next r req hq =>
  split at h
  · split at h
    · cases h
      exact ⟨.of_writeJob (f := fun e => e) hj rfl
        (.claimedDay2 ho hc hday2 fun _ => rfl) ⟨.of_eq rfl, .goesOn rfl⟩ rfl rfl rfl,
        .of_request (jobRequest_eq_some hq)
          (fun _ _ hx => workerChange_of_put (.inr rfl) rfl (hb .body) hx) rfl rfl rfl⟩
    · cases h
      exact ⟨.of_stays (.of_eq rfl) rfl rfl rfl, .of_put (.inr rfl) (hb .rejected) rfl rfl
      rfl⟩
  · cases h
    exact ⟨.of_stays (.of_eq rfl) rfl rfl rfl, .of_put (.inr rfl) (hb .rejected) rfl rfl
      rfl⟩

theorem failBeforeExecution_spec (h : failBeforeExecution s w msg = .ok s') :
    Spec s (.failBeforeExecution w msg) s' := by
  simp only [failBeforeExecution, workerJob_bind_eq_ok, ensure_bind_eq_ok, decide_eq_true_eq] at h
  obtain ⟨wk, job, hw, hday2, hj, hp, h⟩ := h
  have hwr {error} : Writes s (.failBeforeExecution w msg) wk.jobId job
      { job with status := .failed, heartbeatAt := some s.now, error := error } (fun _ => false)
      fun e => e := .failedBefore ⟨wk, hw, rfl, hp, hday2⟩ fun _ => rfl
  split at h
  · next hn =>
    cases h
    refine ⟨.of_writeJob hj rfl hwr ⟨.of_eq rfl, fun _ _ => .inl ?_⟩ rfl rfl rfl,
      .of_erase (.inr rfl) rfl rfl rfl⟩
    simp only [Step.endsUnsettled, Option.bind_eq_bind, hw, Option.bind_some, hj]
    cases hq : s.jobRequest job <;> simp_all [Option.filter]
  next r req hq =>
  obtain ⟨l, hr, h⟩ := ofQuota_bind_eq_ok.1 h
  rw [Option.filter_eq_some_iff] at hq
  cases h
  refine ⟨.of_writeJob hj rfl hwr
    (And.imp_right .settled
      (calls_release ?_ hj hr (.inl ⟨_, Table.find?_put_self .., rfl⟩))) rfl rfl rfl,
    .of_request (jobRequest_eq_some hq.1)
      (fun _ _ hx => workerChange_of_erase (.inr rfl) rfl hx) rfl rfl rfl⟩
  simp [Step.releasesFor, hw]

theorem checkDay2Context_spec {auth : Bool} (h : checkDay2Context cfg s w auth = .ok s') :
    Spec s (.checkDay2Context w auth) s' := by
  simp only [checkDay2Context, workerJob_bind_eq_ok, ensure_bind_eq_ok] at h
  obtain ⟨wk, job, hw, hday2, hj, -, h⟩ := h
  constructor
  · repeat' split at h
    all_goals cases h
    all_goals first
      | exact .of_stays (.of_eq rfl) rfl rfl rfl
      | exact .of_kept hj rfl rfl ⟨.of_core rfl, rfl, rfl,
          ⟨⟨rfl, rfl⟩, rfl⟩, rfl, .inl rfl⟩ (.inr rfl) (.of_eq rfl) rfl rfl
  · repeat' split at h
    all_goals
      cases h
      exact .of_day2 hw hday2 rfl rfl rfl rfl rfl rfl

theorem submitDay2_side (h : submitDay2 s w = .ok s') : SideEffect s (.submitDay2 w) s' := by
  simp only [submitDay2, need_bind_eq_ok, ensure_bind_eq_ok, Bool.and_eq_true] at h
  obtain ⟨wk, hw, ⟨-, hday2⟩, h⟩ := h
  cases h
  exact .of_day2 hw hday2 rfl rfl rfl rfl rfl rfl

theorem confirmDay2_side (h : confirmDay2 s w = .ok s') : SideEffect s (.confirmDay2 w) s' := by
  simp only [confirmDay2, need_bind_eq_ok, ensure_bind_eq_ok, Bool.and_eq_true] at h
  obtain ⟨wk, hw, ⟨-, hday2⟩, h⟩ := h
  cases h
  exact .of_day2 hw hday2 rfl rfl rfl rfl rfl rfl

theorem finishDay2_side {succ : Bool} (h : finishDay2 s w succ = .ok s') :
    SideEffect s (.finishDay2 w succ) s' := by
  simp only [finishDay2, workerJob_bind_eq_ok, ensure_bind_eq_ok] at h
  obtain ⟨wk, job, hw, hday2, -, -, h⟩ := h
  split at h
  · simp only [ensure_bind_eq_ok, need_bind_eq_ok] at h
    obtain ⟨-, _, -, h⟩ := h
    cases h
    exact .of_day2 hw hday2 rfl rfl rfl rfl rfl rfl
  · cases h
    exact .of_day2 hw hday2 rfl rfl rfl rfl rfl rfl

theorem settleDay2_calls {job : Job} {l : Ledger}
    (hw : s.workers.find? w = some wk) (hj : s.jobs.find? wk.jobId = some job)
    (h : settleDay2 s.ledger wk.jobId job wk = .ok l)
    (he : Closes s (.finalizeDay2 w warnings msg) s' wk.jobId) :
    ReflTransGen (QuotaCall s (.finalizeDay2 w warnings msg) s') s.ledger l
      ∧ ∀ r, jobReservation s.ledger wk.jobId job.payload.quota = some r → l.NotReserved r := by
  unfold settleDay2 at h
  split at h
  · next hc => exact calls_commit (by simp [Step.commitsFor, hw, hc]) hj h
  next hc =>
  split at h
  · exact calls_mark h
  next huncertain =>
  have hs : wk.submitted = false := by simpa [Worker.day2Uncertain, hc] using huncertain
  refine calls_release ?_ hj h he
  simp [Step.releasesFor, hw, hs, hc]

theorem finalizeDay2_spec (h : finalizeDay2 s w warnings msg = .ok s') :
    Spec s (.finalizeDay2 w warnings msg) s' := by
  simp only [finalizeDay2, workerJob_bind_eq_ok] at h
  obtain ⟨wk, job, hw, hday2, hj, h⟩ := h
  split at h
  · next out hp =>
    split at h
    · cases h
      exact ⟨.of_stays (.of_eq rfl) rfl rfl rfl, .of_erase (.inr rfl) rfl rfl rfl⟩
    next r req hq =>
    obtain ⟨l, hset, h⟩ := ofQuota_bind_eq_ok.1 h
    cases h
    exact ⟨.of_writeJob (f := fun e => e) hj rfl
      (.finalizedDay2 ⟨wk, hw, rfl, hp, hday2⟩ fun _ => rfl)
      (And.imp_right .settled (settleDay2_calls hw hj hset
        (.inl ⟨_, Table.find?_put_self .., out.status_not_live⟩))) rfl rfl rfl,
      .of_request (jobRequest_eq_some hq)
        (fun _ _ hx => workerChange_of_erase (.inr rfl) rfl hx) rfl rfl rfl⟩
  · cases h

end Day2

/-! ### Every step -/

section Steps

variable {cfg : Settings} {s s' : System} {a : Step}

theorem Relimit.reservations {l l' : Ledger} (h : Relimit l l') :
    l'.reservations = l.reservations := by
  obtain ⟨_, _, rfl⟩ := h.frame
  rfl

/-- The requests of an operator change limits, or settle a reservation. -/
theorem QuotaOp.quotaCall {op : QuotaOp} {l : Ledger} (ho : op.isAdministration)
    (h : op.apply s.ledger = .ok l) : QuotaCall s (.administer op) s' s.ledger l := by
  cases op with
  | setProjectLimit live scope dim val => exact .relimits (setProjectLimit_relimits h)
  | setTenantLimit live scope dim val => exact .relimits (setTenantLimit_relimits h)
  | clearProjectLimit scope dim => exact .relimits (clearProjectLimit_relimits h)
  | clearTenantLimit scope dim => exact .relimits (clearTenantLimit_relimits h)
  | reconcile id outcome => exact .resolves rfl rfl (reconcileReservation_spec h)
  | _ => cases ho

theorem Transacts.of_keeps (h : SameRows s s' ∧ s'.ledger = s.ledger) (ha : a.readmits s = none) :
    Transacts s a s' :=
  .of_stays (.of_eq h.2) h.1.1 h.1.2 ha

/-- A step that leaves workers, requests, locks and the clock alone. -/
theorem Transacts.spec (h : Transacts s a s') (hside : SameSide s s')
    (ha : (a.mover, a.elapsed) = (none, 0)) : Spec s a s' :=
  ⟨h, .of_same (Prod.mk.inj ha).1 (Prod.mk.inj ha).2 hside⟩

section

variable (h : a.apply cfg s = .ok s')
include h

/-- Every step does what is said above. -/
theorem Step.spec : Spec s a s' := by
  cases a with
  | tick seconds =>
    cases h
    exact ⟨.of_stays (.of_eq rfl) rfl rfl rfl, .of_eq rfl rfl rfl rfl⟩
  | administer op =>
    obtain ⟨ho, h⟩ := ensure_bind_eq_ok.1 h
    obtain ⟨l, hop, h⟩ := ofQuota_bind_eq_ok.1 h
    cases h
    exact ⟨.of_stays (.single (op.quotaCall ho hop)) rfl rfl rfl, .of_eq rfl rfl rfl rfl⟩
  | createDeployment => exact (createDeployment_transacts h).spec (Step.keeps h) rfl
  | createJob => exact (createJob_transacts h).spec (Step.keeps h) rfl
  | retryJob => exact (retryJob_transacts h).spec (Step.keeps h) rfl
  | acceptAwxOnboarding => exact (acceptAwxOnboarding_transacts h).spec (Step.keeps h) rfl
  | queueBlueprintDelete => exact (queueBlueprintDelete_transacts h).spec (Step.keeps h).2 rfl
  | approveJob => exact (approveJob_transacts h).spec (Step.keeps h) rfl
  | cancelJob => exact (cancelJob_transacts h).spec (Step.keeps h) rfl
  | materializeScheduledJob => exact (materializeScheduledJob_transacts h).spec (Step.keeps h) rfl
  | reconcileVm => exact (reconcileVm_transacts h).spec (Step.keeps h).2 rfl
  | removeConfirmedMissingVm => exact (removeConfirmedMissingVm_transacts h).spec (Step.keeps h) rfl
  | releaseAddress => exact (releaseAddress_transacts h).spec (Step.keeps h).2 rfl
  | quarantineJob => exact ⟨quarantineJob_transacts h, quarantineJob_side h⟩
  | expireWaitingApproval => exact (expireWaitingApproval_transacts h).spec (Step.keeps h).2 rfl
  | reconcileCancelledJob => exact (reconcileCancelledJob_transacts h).spec (Step.keeps h) rfl
  | reconcileStaleJob => exact (reconcileStaleJob_transacts h).spec (Step.keeps h) rfl
  | reconcileDeploymentJobStatus =>
    exact (reconcileDeploymentJobStatus_transacts h).spec (Step.keeps h).2 rfl
  | reconcilePersistedInventory =>
    exact (reconcilePersistedInventory_transacts h).spec (Step.keeps h) rfl
  | reconcileFinishedJob => exact ⟨.of_keeps (Step.keeps h) rfl, reconcileFinishedJob_side h⟩
  | claimJob => exact claimJob_spec h
  | admitClaimed => exact (admitClaimed_transacts h).spec (Step.keeps h) rfl
  | startBody => exact startBody_spec h
  | deferForProvider => exact deferForProvider_spec h
  | checkContext => exact checkContext_spec h
  | submitMutation => exact ⟨.of_keeps (Step.keeps h) rfl, submitMutation_side h⟩
  | requestLost => exact ⟨.of_keeps (Step.keeps h) rfl, requestLost_side h⟩
  | mutationSucceeded => exact ⟨.of_keeps (Step.keeps h) rfl, mutationSucceeded_side h⟩
  | mutationFailed => exact ⟨.of_keeps (Step.keeps h) rfl, mutationFailed_side h⟩
  | persistWorkflowRuntime => exact (persistWorkflowRuntime_transacts h).spec (Step.keeps h).2 rfl
  | registerInventory =>
    have hkeeps := Step.keeps h
    exact (Transacts.of_keeps ⟨hkeeps.1, hkeeps.2.1⟩ rfl).spec hkeeps.2.2 rfl
  | commitInBody => exact commitInBody_spec h
  | pauseForApproval => exact pauseForApproval_spec h
  | releaseAfterPause => exact releaseAfterPause_spec h
  | deferBlueprintDelete => exact deferBlueprintDelete_spec h
  | markDestroyedAfterRollback => exact markDestroyedAfterRollback_spec h
  | finishBody => exact ⟨.of_keeps (Step.keeps h) rfl, finishBody_side h⟩
  | finalizeJob => exact (finalizeJob_spec h).1
  | crashWorker w =>
    simp only [Step.apply, CloudPortal.crashWorker, need_bind_eq_ok] at h
    obtain ⟨_, -, h⟩ := h
    cases h
    exact ⟨.of_stays (.of_eq rfl) rfl rfl rfl, .of_erase (.inr rfl) rfl rfl rfl⟩
  | createAction => exact createAction_spec h
  | approveAction => exact approveAction_spec h
  | cancelAction => exact cancelAction_spec h
  | claimDay2Job => exact claimDay2Job_spec h
  | failBeforeExecution => exact failBeforeExecution_spec h
  | checkDay2Context => exact checkDay2Context_spec h
  | submitDay2 => exact ⟨.of_keeps (Step.keeps h) rfl, submitDay2_side h⟩
  | confirmDay2 => exact ⟨.of_keeps (Step.keeps h) rfl, confirmDay2_side h⟩
  | finishDay2 => exact ⟨.of_keeps (Step.keeps h) rfl, finishDay2_side h⟩
  | finalizeDay2 => exact finalizeDay2_spec h

theorem Step.effect : Effect s a s' := (Step.spec h).effect

theorem Step.side : SideEffect s a s' := (Step.spec h).side

theorem Step.calls : Calls s a s' := (Step.spec h).calls

end

end Steps

/-! ### Kinds of jobs -/

section Kinds

variable {job : Job} {a : Step} {s : System} {s' : System} {job' : Job} {cfg : Settings}

/-- No write changes whose job it is and what it does. -/
theorem Writes.frame {id : ℕ} {cond : Deployment → Bool} {f : Deployment → Deployment}
    (h : Writes s a id job job' cond f) : job.Frame job' := by
  cases h with
  | kept hf | approved hf | deferred hf | paused hf | actionQueued _ _ _ hf => exact hf
  | _ => exact (.of_core rfl)

theorem Job.Frame.touch {now : ℕ} (h : job.Frame job') : job.Frame (job'.touch now) :=
  ⟨h.deploymentId, h.operation, h.source, h.previousStatus, h.policy, h.blueprint, h.resumes,
    h.scope, h.requestId⟩

/-- A job row is never deleted, and stays a job of the same deployment. -/
theorem Step.job_persists (h : a.apply cfg s = .ok s') {id : ℕ}
    (hjob : s.jobs.find? id = some job) :
    ∃ job', s'.jobs.find? id = some job' ∧ job.Frame job' := by
  have hc := (Step.effect h).jobChange id
  rw [hjob] at hc
  generalize hr : s'.jobs.find? id = row at hc
  cases hc with
  | same => exact ⟨job, rfl, .rfl⟩
  | written hwr => exact ⟨_, rfl, hwr.frame.touch⟩
  | replaced hf => exact ⟨_, rfl, hf.touch⟩

/-- The two kinds of jobs are apart. -/
structure KindsApart (s : System) : Prop where
  deployed : ∀ id job, s.jobs.find? id = some job → job.deploymentId ≠ none
    → job.operation.isDay2 = false
  worker : ∀ w worker, s.workers.find? w = some worker
    → ∃ job, s.jobs.find? worker.jobId = some job ∧ job.operation.isDay2 = worker.day2
  request : ∀ r request, s.requests.find? r = some request
    → ∃ job, s.jobs.find? request.jobId = some job ∧ job.operation.isDay2

section

variable {id : ℕ} (hs : KindsApart s) (hjob : s.jobs.find? id = some job)
  (hday2 : job.operation.isDay2 = false)
include hs hjob hday2

/-- No Day-2 request is about a job of the other kind. -/
theorem KindsApart.request_ne {r : ℕ} {req : ActionRequest}
    (hreq : s.requests.find? r = some req) : req.jobId ≠ id := by
  rintro rfl
  obtain ⟨job', hj', ho⟩ := hs.request r req hreq
  cases hjob.symm.trans hj'
  rw [hday2] at ho
  cases ho

/-- No Day-2 worker executes it. -/
theorem KindsApart.not_workerAt {w : ℕ} {phase : WorkerPhase} : ¬s.WorkerAt w id phase true := by
  rintro ⟨wk, hworker, rfl, -, hworker2⟩
  obtain ⟨job', hj', ho⟩ := hs.worker w wk hworker
  cases hjob.symm.trans hj'
  rw [hday2, hworker2] at ho
  cases ho

end

theorem Creates.deployed {pl : Option (ℕ × Deployment)} (h : Creates s a job pl)
    (hs : KindsApart s) (hd : job.deploymentId ≠ none) : job.operation.isDay2 = false := by
  cases h with
  | requested _ _ _ _ _ _ _ hday2 =>
    rcases hday2 with hday2 | ⟨x, original, hf, ho, hdeployment⟩
    · exact hday2
    rw [← ho]
    exact hs.deployed x original hf (by rwa [hdeployment])
  | scheduled _ _ _ _ _ _ _ hday2 | refused _ _ _ _ hday2 => exact hday2
  | detached _ hjob => exact absurd hjob hd

theorem Effect.deployed (h : Effect s a s') (hs : KindsApart s) {id : ℕ}
    (hjob : s'.jobs.find? id = some job) (hd : job.deploymentId ≠ none) :
    job.operation.isDay2 = false := by
  cases h with
  | stays hj | adjusts _ _ hj =>
    rw [hj] at hjob
    exact hs.deployed id job hjob hd
  | @writes x old new cond f ho hwr hj =>
    rw [hj] at hjob
    split at hjob
    · cases hjob
      have hf := hwr.frame
      rw [Job.touch_operation, hf.operation]
      refine hs.deployed x old ho ?_
      rwa [← hf.deploymentId]
    · exact hs.deployed id job hjob hd
  | creates _ hcr hj =>
    rw [hj] at hjob
    split at hjob
    · cases hjob
      exact hcr.deployed hs hd
    · exact hs.deployed id job hjob hd
  | @takesOver x y d old old' new dep' ho ht hreason hj =>
    rw [hj] at hjob
    split at hjob
    · cases hjob
      exact ht.newOperation
    split at hjob
    · cases hjob
      rw [Job.touch_operation, ht.frame.operation]
      exact not_isDay2_of_provisioning ht.provisioning
    · exact hs.deployed id job hjob hd

theorem WorkerMove.frame {w : ℕ} {wk wk' : Worker} (h : WorkerMove s a w wk wk') :
    wk'.jobId = wk.jobId ∧ wk'.day2 = wk.day2 := by
  cases h <;> exact ⟨rfl, rfl⟩

/-- Every step keeps the kinds apart. -/
theorem KindsApart.step (h : a.apply cfg s = .ok s') (hs : KindsApart s) : KindsApart s' := by
  have hside := Step.side h
  -- a job of the old state is a job of the same kind in the new one
  have hk {id : ℕ} {job : Job} {kind : Bool} (hjob : s.jobs.find? id = some job)
      (ho : job.operation.isDay2 = kind) :
      ∃ job', s'.jobs.find? id = some job' ∧ job'.operation.isDay2 = kind := by
    obtain ⟨job', hj', hfr⟩ := Step.job_persists h hjob
    exact ⟨job', hj', by rw [hfr.operation, ho]⟩
  refine ⟨fun id job hjob hd => (Step.effect h).deployed hs hjob hd, fun w wk' hw => ?_,
    fun r req' hr => ?_⟩
  · have hc := hside.worker w wk' hw
    generalize hrow : s.workers.find? w = row at hc
    cases hc with
    | same =>
      obtain ⟨job, hjob, ho⟩ := hs.worker w wk' hrow
      exact hk hjob ho
    | born _ hjob _ _ hday2 => exact hk hjob hday2
    | bornDay2 hjob ho hi hday2 =>
      rw [hi, hday2]
      exact hk hjob ho
    | @moved wk _ _ hm =>
      obtain ⟨job, hjob, ho⟩ := hs.worker w wk hrow
      rw [hm.frame.1, hm.frame.2]
      exact hk hjob ho
    | @movedDay2 wk _ hday2 hi hday2' =>
      obtain ⟨job, hjob, ho⟩ := hs.worker w wk hrow
      rw [hi, hday2', ← hday2]
      exact hk hjob ho
  · rcases hside.request r req' hr with ⟨req, hf, hi⟩ | ⟨job', hj', -, ho, -⟩
    · obtain ⟨job, hjob, ho⟩ := hs.request r req hf
      rw [hi]
      exact hk hjob ho
    · exact ⟨job', hj', ho⟩

theorem KindsApart.initial (scs : Finset Scope) : KindsApart (System.initial scs) := by
  refine ⟨fun id job h => ?_, fun w wk h => ?_, fun r req h => ?_⟩
  all_goals cases h

theorem KindsApart.run (cfg : Settings) (scs : Finset Scope) (steps : List Step) :
    KindsApart (systemRun cfg (System.initial scs) steps) :=
  systemRun_preserves KindsApart (fun _ _ _ h hs => hs.step h) (.initial scs) steps

end Kinds

end CloudPortal
