/-
CloudPortal/Jobs/Effects.lean

What a step can do to the jobs, the deployments, the workers, the Day-2 requests and the clock,
said once for all steps; the invariants of the following modules are proved by cases on it.

`Writes` lists the ways in which an existing job row is written, each with the
condition under which the writer writes it and with what the same transaction
does to the deployment of the job.  `Creates` lists the ways in which a job comes into
being, `Adjusts` the writes to deployments alone, and a `takeover` ends a job
and queues its successor in one transaction.  `Step.effect` says that nothing
else happens.

`WorkerMove` lists the moves of a worker of `app/jobs/worker.py` with their
conditions; a worker is born by a claim and keeps its job until it ends.
-/
import CloudPortal.Jobs.System

namespace CloudPortal

open RowStore

/-- What no write to a job row changes. -/
structure Job.Frame (job job' : Job) : Prop where
  deploymentId : job'.deploymentId = job.deploymentId
  operation : job'.operation = job.operation
  source : job'.source = job.source
  previousStatus : job'.payload.previousStatus = job.payload.previousStatus
  policy : job'.payload.policy = job.payload.policy
  blueprint : job'.payload.blueprint = job.payload.blueprint
  resumes : job'.payload.resumeAfterProviderApply = job.payload.resumeAfterProviderApply
  scope : job'.scope = job.scope
  requestId : job'.payload.requestId = job.payload.requestId

/-- The columns of a job row that no write changes. -/
def Job.core (job : Job) :=
  (job.deploymentId, job.operation, job.source, job.payload.previousStatus, job.payload.policy,
    job.payload.blueprint, job.payload.resumeAfterProviderApply, job.scope, job.payload.requestId)

variable {job : Job}

theorem Job.Frame.of_core {job' : Job} (h : job'.core = job.core) : job.Frame job' := by
  simp only [Job.core, Prod.mk.injEq] at h
  obtain ⟨h₁, h₂, h₃, h₄, h₅, h₆, h₇, h₈, h₉⟩ := h
  exact ⟨h₁, h₂, h₃, h₄, h₅, h₆, h₇, h₈, h₉⟩

theorem Job.Frame.rfl : job.Frame job := .of_core (Eq.refl _)

theorem Job.Frame.trans {job' job'' : Job} (h : job.Frame job') (h' : job'.Frame job'') :
    job.Frame job'' :=
  ⟨h'.deploymentId.trans h.deploymentId, h'.operation.trans h.operation, h'.source.trans h.source,
    h'.previousStatus.trans h.previousStatus, h'.policy.trans h.policy,
    h'.blueprint.trans h.blueprint, h'.resumes.trans h.resumes, h'.scope.trans h.scope,
    h'.requestId.trans h.requestId⟩

/-- What only an approval changes, or a pause for one. -/
structure Job.ApprovalFrame (job job' : Job) : Prop where
  approval : job'.payload.approval = job.payload.approval
  policyApproval : job'.payload.policyApproval = job.payload.policyApproval

/-- What no write to a deployment row changes. -/
structure Deployment.Frame (deployment deployment' : Deployment) : Prop where
  scope : deployment'.scope = deployment.scope
  provider : deployment'.provider = deployment.provider
  capacity : deployment'.capacity = deployment.capacity
  planOnly : deployment'.planOnly = deployment.planOnly
  blueprint : deployment'.blueprint = deployment.blueprint

theorem Deployment.Frame.rfl {dep : Deployment} : dep.Frame dep :=
  ⟨Eq.refl _, Eq.refl _, Eq.refl _, Eq.refl _, Eq.refl _⟩

/-- The provider checkpoint of a job is kept, or a worker of the job writes what it knows. -/
def Checkpoints (s : System) (id : ℕ) (job job' : Job) : Prop :=
  job'.payload.proxmoxRuntime = job.payload.proxmoxRuntime
    ∧ (job'.payload.workflowRuntime = job.payload.workflowRuntime
      ∨ ∃ w worker, s.workers.find? w = some worker ∧ worker.jobId = id ∧ worker.day2 = false
        ∧ job'.payload.providerApplied = worker.applied)

/-- The two requests that approve. -/
def Step.isApproval : Step → Bool
  | .approveJob .. | .approveAction .. => true
  | _ => false

/-- A worker of the job that is at this place of its program. -/
def System.WorkerAt (s : System) (w id : ℕ) (phase : WorkerPhase) (day2 : Bool) : Prop :=
  ∃ worker, s.workers.find? w = some worker ∧ worker.jobId = id ∧ worker.phase = phase
    ∧ worker.day2 = day2

def Deployment.setStatus (status : DeploymentStatus) (deployment : Deployment) : Deployment :=
  { deployment with status := status }

/-- The ways in which an existing job row `job` becomes `job'`.  The deployment of the
job is changed by `f` if it meets `cond`. -/
inductive Writes (s : System) :
    Step → ℕ → Job → Job → (Deployment → Bool) → (Deployment → Deployment) → Prop
  /-- the payload or the heartbeat is written -/
  | kept {a id job job' cond} (hfr : job.Frame job') (hst : job'.status = job.status)
      (hcancel : job'.cancelRequested = job.cancelRequested)
      (hseen : job'.heartbeatAt = job.heartbeatAt ∨ job'.heartbeatAt = some s.now)
      (hcond : ∀ deployment, cond deployment → deployment.status = .waitingProvider)
      (happr : a.isApproval = false → job.ApprovalFrame job'
        ∧ job'.payload.workflowApproval = job.payload.workflowApproval)
      (hrun : Checkpoints s id job job') :
      Writes s a id job job' cond (Deployment.setStatus .running)
  | approved {approves id job job'} (hfr : job.Frame job') (hold : job.status = .waitingApproval)
      (hst : job'.status = .queued) (hcancel : job'.cancelRequested = job.cancelRequested)
      (hseen : job'.heartbeatAt = job.heartbeatAt) (hrun : Checkpoints s id job job') :
      Writes s (.approveJob id approves) id job job' (Deployment.ownedBy id)
        (Deployment.setStatus .queued)
  | claimed {w id job} (hold : job.status = .queued) (hcancel : job.cancelRequested = false)
      (hday2 : job.operation.isDay2 = false) :
      Writes s (.claimJob w id) id job
        { job with status := .running, heartbeatAt := some s.now } (Deployment.ownedBy id)
        (Deployment.setStatus .running)
  | claimedDay2 {w id valid job cond f} (hold : job.status = .queued)
      (hcancel : job.cancelRequested = false) (hday2 : job.operation.isDay2)
      (hcond : ∀ deployment, cond deployment = false) :
      Writes s (.claimDay2Job w id valid) id job
        { job with status := .running, heartbeatAt := some s.now } cond f
  | cancelling {id job} (hold : job.status = .running ∨ job.status = .cancelling) :
      Writes s (.cancelJob id) id job { job with status := .cancelling, cancelRequested := true }
        (Deployment.ownedBy id) (Deployment.setStatus .cancelling)
  | markedCancelling {id rq job} (hold : job.status = .running) (hcancel : job.cancelRequested) :
      Writes s (.reconcileCancelledJob id rq) id job { job with status := .cancelling }
        (Deployment.ownedBy id) (Deployment.setStatus .cancelling)
  /-- `defer_for_provider` does not look at the status -/
  | deferred {w id job job'} (hfr : job.Frame job') (hwk : s.WorkerAt w id .starting false)
      (hcancel : job.cancelRequested = false) (hcancel' : job'.cancelRequested = false)
      (hst : job'.status = .queued) (hseen : job'.heartbeatAt = none)
      (hop : job.operation.waitsForProvider) (happr : job.ApprovalFrame job')
      (hwf : job'.payload.workflowApproval = job.payload.workflowApproval)
      (hrun : Checkpoints s id job job') :
      Writes s (.deferForProvider w) id job job' (fun _ => true)
        (Deployment.occupy id .waitingProvider)
  /-- `pause_for_approval` looks neither at the status nor at the cancellation request -/
  | paused {w stepId planSha256 config id job job'} (hfr : job.Frame job')
      (hwk : s.WorkerAt w id .body false)
      (hcancel : job'.cancelRequested = job.cancelRequested)
      (hst : job'.status = .waitingApproval) (hseen : job'.heartbeatAt = none)
      (hop : job.operation = .terraformApply) (happr : job.ApprovalFrame job')
      (hrun : Checkpoints s id job job') :
      Writes s (.pauseForApproval w stepId planSha256 config) id job job' (fun _ => true)
        (Deployment.occupy id .waitingApproval)
  /-- nor does the deferral of a Blueprint delete -/
  | deleteDeferred {w id job cond f} (hwk : s.WorkerAt w id .body false)
      (hop : job.operation = .blueprintDelete) (hcond : ∀ deployment, cond deployment = false) :
      Writes s (.deferBlueprintDelete w) id job
        { job with status := .queued, heartbeatAt := none } cond f
  | cancelledEarly {id job error} (hold : job.status = .queued ∨ job.status = .waitingApproval) :
      Writes s (.cancelJob id) id job
        { job with status := .cancelled, cancelRequested := true, error := error }
        (Deployment.ownedBy id) (Deployment.cancelEarly job)
  | quarantined {id job error} (hold : job.status.terminal = false) :
      Writes s (.quarantineJob id) id job
        { job with status := .failed, heartbeatAt := some s.now, error := error }
        (Deployment.ownedBy id) (Deployment.leave .reconciliationRequired)
  | expiredApplied {id config job error} (hold : job.status = .waitingApproval)
      (hcancel : job.cancelRequested = false) (hresource : s.hasResource job)
      (happlied : job.payload.providerApplied) :
      Writes s (.expireWaitingApproval id config) id job
        { job with status := .failed, error := error }
        (Deployment.ownedBy id) (Deployment.leave .failed)
  | expired {id config job error} (hold : job.status = .waitingApproval)
      (hcancel : job.cancelRequested = false)
      (happlied : ¬(s.hasResource job ∧ job.payload.providerApplied)) :
      Writes s (.expireWaitingApproval id config) id job
        { job with status := .cancelled, error := error }
        (Deployment.ownedBy id) (Deployment.expire (s.hasResource job) job)
  | abandoned {id rq job error} (hold : job.status = .running ∨ job.status = .cancelling)
      (hcancel : job.cancelRequested) (hgone : job.abandoned s.now rq) :
      Writes s (.reconcileCancelledJob id rq) id job
        { job with status := .cancelled, error := error }
        (Deployment.ownedBy id) (Deployment.leave job.operation.abandonedStatus)
  | lost {id resumeId job error} (hstale : job.stale s.now) :
      Writes s (.reconcileStaleJob id resumeId) id job
        { job with status := .failed, error := error }
        (Deployment.ownedBy id) (Deployment.leave .failed)
  /-- the final transaction of a worker does not look at the status -/
  | finalized {w recoveryId message id job worker outcome f}
      (hwk : s.workers.find? w = some worker) (hid : worker.jobId = id)
      (hphase : worker.phase = .finishing outcome) (hday2 : worker.day2 = false)
      (hf : ∀ deployment, (f deployment).activeJobId = none
        ∧ (f deployment).status = worker.deploymentStatus outcome job deployment)
      (hplain : ∀ d deployment, job.deploymentId = some d → s.deployments.find? d = some deployment
        → deployment.activeJobId = some id
        → worker.deploymentStatus outcome job deployment = .destroyed
          ∨ worker.wantsRecovery outcome job = false)
      (haddresses : ∀ d deployment, job.deploymentId = some d
        → s.deployments.find? d = some deployment → deployment.activeJobId = some id
        → worker.deploymentStatus outcome job deployment = .destroyed
          ∨ (f deployment).addresses = deployment.addresses)
      (hdeployments : ∀ deployment : Deployment, deployment.Frame (f deployment)) :
      Writes s (.finalizeJob w recoveryId message) id job (job.finish outcome message)
        (Deployment.ownedBy id) f
  /-- nor does the approval of a Day-2 action -/
  | actionQueued {r live approves request id job job' cond f}
      (hreq : s.requests.find? r = some request) (hid : request.jobId = id)
      (hopen : request.status = .waitingApproval) (hfr : job.Frame job')
      (hst : job'.status = .queued) (hcancel : job'.cancelRequested = job.cancelRequested)
      (hseen : job'.heartbeatAt = job.heartbeatAt)
      (hcond : ∀ deployment, cond deployment = false) (hrun : Checkpoints s id job job') :
      Writes s (.approveAction r live approves) id job job' cond f
  | actionCancelled {r request id job error cond f}
      (hreq : s.requests.find? r = some request) (hid : request.jobId = id)
      (hcond : ∀ deployment, cond deployment = false) :
      Writes s (.cancelAction r) id job
        { job with cancelRequested := true, status := .cancelled, error := error } cond f
  | actionCancelling {r request id job cond f}
      (hreq : s.requests.find? r = some request) (hid : request.jobId = id)
      (hcond : ∀ deployment, cond deployment = false)
      (hstarted : ¬(request.status = .waitingApproval ∨ request.status = .queued)) :
      Writes s (.cancelAction r) id job
        { job with cancelRequested := true, status := .cancelling } cond f
  | requestMissing {w id valid job error cond f} (hold : job.status = .queued)
      (hcancel : job.cancelRequested = false) (hday2 : job.operation.isDay2)
      (hcond : ∀ deployment, cond deployment = false) :
      Writes s (.claimDay2Job w id valid) id job
        { job with status := .failed, heartbeatAt := some s.now, error := error } cond f
  | failedBefore {w message id job error cond f} (hwk : s.WorkerAt w id .rejected true)
      (hcond : ∀ deployment, cond deployment = false) :
      Writes s (.failBeforeExecution w message) id job
        { job with status := .failed, heartbeatAt := some s.now, error := error } cond f
  | finalizedDay2 {w warnings message id job outcome error cond f}
      (hwk : s.WorkerAt w id (.finishing outcome) true)
      (hcond : ∀ deployment, cond deployment = false) :
      Writes s (.finalizeDay2 w warnings message) id job
        { job with status := outcome.status, heartbeatAt := some s.now, error := error } cond f

/-- A job as it is created. -/
structure Job.IsNew (job : Job) : Prop where
  status : job.status = .queued ∨ job.status = .waitingApproval
  cancelRequested : job.cancelRequested = false
  heartbeatAt : job.heartbeatAt = none

/-- A job that the approval gate lets pass: it resumes, or no policy asks for a stage. -/
def Job.Ungated (job : Job) (deployment : Option Deployment) : Prop :=
  job.payload.resumeAfterProviderApply ∨ policyApprovalStages job.payload deployment = []

/-- Where the policy approval of a new job comes from: it has none, it was gated for the stages
that its policies ask for, or it is a retry that took the state over because it
resumes or because there are no such stages. -/
inductive Born (s : System) (job : Job) (deployment : Option Deployment) : Prop
  | plain (hpolicy : job.payload.policyApproval = none) (hungated : job.Ungated deployment)
  | gated {t : ℕ} {state : PolicyApproval} (hpolicy : job.payload.policyApproval = some state)
      (hstages : state.stages = policyApprovalStages job.payload deployment)
      (hne : state.stages ≠ []) (hstage : state.currentStage = 0) (happrovals : state.approvals = [])
      (hcomplete : state.complete = false) (hwaiting : job.status = .waitingApproval)
      (hexpires : job.payload.approval.bind (·.expiresAt) = some t ∨ state.stageExpiresAt = some t)
  | inherited {x : ℕ} {original : Job} (hfind : s.jobs.find? x = some original)
      (hd : original.deploymentId = job.deploymentId)
      (hpolicy : job.payload.policyApproval = original.payload.policyApproval)
      (hstages : policyApprovalStages job.payload deployment = []
        → policyApprovalStages original.payload deployment = [])
      (hungated : job.Ungated deployment)

/-- A job that is to resume has a provider checkpoint to resume behind. -/
def Job.ResumesBehind (job : Job) : Prop :=
  job.payload.resumeAfterProviderApply → job.providerCheckpointed

/-- The ways in which a job comes into being, with the deployment it is made for. -/
inductive Creates (s : System) : Step → Job → Option (ℕ × Deployment) → Prop
  /-- a request: `new_job` has looked at the status of the deployment -/
  | requested {a job d deployment} (hnew : job.IsNew) (hjob : job.deploymentId = some d)
      (hpl : s.deployments.find? d = some deployment
        ∨ s.deployments.find? d = none ∧ deployment.status = .queued)
      (hidle : deployment.activeJobId = none) (halive : deployment.status ≠ .destroyed)
      (hfence : deployment.status = .reconciliationRequired → job.operation = .terraformPlan)
      (hprev : job.payload.previousStatus = some deployment.status)
      (hday2 : job.operation.isDay2 = false ∨ ∃ x original, s.jobs.find? x = some original
        ∧ original.operation = job.operation ∧ original.deploymentId = job.deploymentId)
      (hwf : job.payload.workflowApproval = none) (hborn : Born s job (some deployment))
      (hcp : job.ResumesBehind) : Creates s a job (some (d, deployment))
  /-- the scheduler does not look for the fence -/
  | scheduled {id schedule job deployment} (hnew : job.IsNew)
      (hjob : job.deploymentId = some schedule.deploymentId)
      (hop : job.operation = schedule.operation)
      (hpl : s.deployments.find? schedule.deploymentId = some deployment)
      (hidle : deployment.activeJobId = none) (halive : deployment.status ≠ .destroyed)
      (hprev : job.payload.previousStatus = some deployment.status)
      (hday2 : job.operation.isDay2 = false)
      (hwf : job.payload.workflowApproval = none) (hborn : Born s job (some deployment))
      (hcp : job.ResumesBehind) :
      Creates s (.materializeScheduledJob id schedule) job (some (schedule.deploymentId, deployment))
  /-- a scheduled job that quota admission refuses is left behind as failed -/
  | refused {id schedule job} (hst : job.status = .failed)
      (hcancel : job.cancelRequested = false) (hheartbeat : job.heartbeatAt = none)
      (hop : job.operation = schedule.operation) (hday2 : job.operation.isDay2 = false)
      (hprev : ∃ status, job.payload.previousStatus = some status ∧ status ≠ .destroyed)
      (hwf : job.payload.workflowApproval = none)
      (hborn : job.payload.policyApproval = none ∧ ∃ deployment, job.Ungated deployment)
      (hcp : job.ResumesBehind) :
      Creates s (.materializeScheduledJob id schedule) job none
  | detached {a job} (hnew : job.IsNew) (hjob : job.deploymentId = none)
      (hwf : job.payload.workflowApproval = none) (hborn : Born s job none)
      (hcp : job.ResumesBehind) : Creates s a job none

/-- The writes to a deployment row alone. -/
inductive Adjusts (s : System) : Step → ℕ → Deployment → Deployment → Prop
  | followed {d id deployment job} (hact : deployment.activeJobId = some id)
      (hjob : s.jobs.find? id = some job) :
      Adjusts s (.reconcileDeploymentJobStatus d) d deployment (deployment.follow s.now job)
  | orphaned {d id deployment} (hact : deployment.activeJobId = some id)
      (hjob : s.jobs.find? id = none) :
      Adjusts s (.reconcileDeploymentJobStatus d) d deployment (deployment.leave .failed)
  | stillCancelling {id rq d deployment job} (hjob : s.jobs.find? id = some job)
      (hst : job.status = .cancelling) (hact : deployment.activeJobId = some id)
      (hd : job.deploymentId = some d) :
      Adjusts s (.reconcileCancelledJob id rq) d deployment (deployment.setStatus .cancelling)
  | unblocked {a d deployment} (hst : deployment.status = .waitingProvider) :
      Adjusts s a d deployment (deployment.setStatus .running)
  | removed {d purge deployment deployment'} (hidle : deployment.activeJobId = none)
      (hact : deployment'.activeJobId = none) (hst : deployment'.status = .destroyed)
      (hframe : deployment.Frame deployment') :
      Adjusts s (.removeConfirmedMissingVm d purge) d deployment deployment'
  | retired {w d deployment deployment' worker job}
      (hwk : s.workers.find? w = some worker) (hjob : s.jobs.find? worker.jobId = some job)
      (hd : job.deploymentId = some d)
      (hact : deployment'.activeJobId = deployment.activeJobId)
      (hst : deployment'.status = deployment.status)
      (hframe : deployment.Frame deployment') :
      Adjusts s (.markDestroyedAfterRollback w) d deployment deployment'
  | freed {d i hostname deployment} :
      Adjusts s (.releaseAddress d i hostname) d deployment (deployment.releaseAddress i)

/-- One transaction ends the active job of a deployment and queues its successor. -/
structure Takeover (s : System) (id newId d : ℕ) (job job' new : Job) (deployment' : Deployment) :
    Prop where
  fresh : s.jobs.find? newId = none
  active : ∃ deployment, s.deployments.find? d = some deployment ∧ deployment.activeJobId = some id
  deploymentId : job.deploymentId = some d
  frame : job.Frame job'
  failed : job'.status = .failed
  cancelRequested : job'.cancelRequested = job.cancelRequested
  heartbeatAt : job'.heartbeatAt = job.heartbeatAt
  provisioning : job.operation.provisioning
  isNew : new.IsNew
  queued : new.status = .queued
  source : new.source = .recovery
  newDeploymentId : new.deploymentId = some d
  newOperation : new.operation.isDay2 = false
  newNotPlan : new.operation ≠ .terraformPlan
  addresses : ∀ deployment, s.deployments.find? d = some deployment
    → deployment'.addresses = deployment.addresses
  deployment : ∀ deployment, s.deployments.find? d = some deployment → deployment.Frame deployment'
  kept : job.ApprovalFrame job' ∧ job'.payload.workflowApproval = job.payload.workflowApproval
  runtime : Checkpoints s id job job'
  /-- a resumed job has the payload of its predecessor, a recovery job has none -/
  approvals : new.payload.policyApproval = none ∧ new.payload.workflowApproval = none
      ∧ new.Ungated none
    ∨ job.ApprovalFrame new ∧ new.payload.workflowApproval = job.payload.workflowApproval
      ∧ new.payload.policy = job.payload.policy ∧ new.payload.blueprint = job.payload.blueprint
      ∧ new.payload.resumeAfterProviderApply = job.payload.resumeAfterProviderApply
  newActive : deployment'.activeJobId = some newId
  newStatus : deployment'.status = .recoveryQueued

/-- The two transactions that do so: a lost job is resumed, a failed one is rolled back. -/
def TakeoverReason (s : System) (a : Step) (id : ℕ) (job : Job) : Prop :=
  (∃ resumeId, a = .reconcileStaleJob id resumeId ∧ job.stale s.now)
    ∨ ∃ w recoveryId message worker, a = .finalizeJob w recoveryId message
      ∧ s.workers.find? w = some worker ∧ worker.jobId = id ∧ worker.day2 = false
      ∧ worker.phase = .finishing .failed

/-- The call of `new_job` in a step, with the deployment row that it finds. -/
def Step.request (s : System) : Step → Option (JobRequest × Option (ℕ × Deployment))
  | .createDeployment deployment input =>
    some ({ input.request with deploymentId := some deployment.id },
      some (deployment.id, deployment.row))
  | .createJob input => some (input.request, s.placeOf input.deploymentId)
  | .retryJob original id approvals config => (s.jobs.find? original).map fun job =>
    ({ id := id, operation := job.operation, deploymentId := job.deploymentId, scope := job.scope,
       payload := some job.retryPayload, approvals := approvals, config := config },
      s.placeOf job.deploymentId)
  | .acceptAwxOnboarding original id approvals config => (s.jobs.find? original).map fun job =>
    ({ id := id, operation := job.operation, deploymentId := job.deploymentId, scope := job.scope,
       payload := some job.payload.dropExecution, approvals := approvals, config := config },
      s.placeOf job.deploymentId)
  | _ => none

/-- What a new job is made of. -/
inductive Drafted (s : System) (a : Step) (s' : System) (id : ℕ) (job : Job) : Prop
  /-- no policy is asked again when the job is executed -/
  | exempt (hop : job.operation.revalidated = false)
  | requested {r place} (hreq : a.request s = some (r, place)) (hid : r.id = id)
      (hfr : (r.draft place).Frame job)
      (hpl : ∀ d deployment, place = some (d, deployment)
        → ∃ row, s'.deployments.find? d = some row ∧ deployment.Frame row)
  | scheduled {schedule deployment} (ha : a = .materializeScheduledJob id schedule)
      (hfind : s.deployments.find? schedule.deploymentId = some deployment)
      (hfr : (schedule.draft deployment).Frame job)

/-- Everything that a step can do to jobs and deployments. -/
inductive Effect (s : System) (a : Step) (s' : System) : Prop
  | stays (hjobs : s'.jobs = s.jobs) (hdeps : s'.deployments = s.deployments)
  | writes {id job job' cond f} (hjob : s.jobs.find? id = some job)
      (hwr : Writes s a id job job' cond f)
      (hjobs : ∀ x, s'.jobs.find? x
        = if x = id then some (job'.touch s.now) else s.jobs.find? x)
      (hdeps : ∀ x, s'.deployments.find? x = (s.deployments.find? x).map fun deployment =>
        if job.deploymentId = some x ∧ cond deployment then f deployment else deployment)
  | creates {id job place} (hfresh : s.jobs.find? id = none) (hcr : Creates s a job place)
      (hjobs : ∀ x, s'.jobs.find? x
        = if x = id then some (job.touch s.now) else s.jobs.find? x)
      (hdeps : ∀ x, s'.deployments.find? x = match place with
        | some (d, deployment) =>
          if x = d then some (deployment.occupy id job.status.toDeployment)
          else s.deployments.find? x
        | none => s.deployments.find? x)
      (hdr : Drafted s a s' id job)
  | adjusts {d deployment deployment'} (hfind : s.deployments.find? d = some deployment)
      (hadjusts : Adjusts s a d deployment deployment') (hjobs : s'.jobs = s.jobs)
      (hdeps : ∀ x, s'.deployments.find? x
        = if x = d then some deployment' else s.deployments.find? x)
  | takesOver {id newId d job job' new deployment'}
      (hjob : s.jobs.find? id = some job)
      (htake : Takeover s id newId d job job' new deployment')
      (hreason : TakeoverReason s a id job)
      (hjobs : ∀ x, s'.jobs.find? x = if x = newId then some (new.touch s.now)
        else if x = id then some (job'.touch s.now) else s.jobs.find? x)
      (hdeps : ∀ x, s'.deployments.find? x
        = if x = d then some deployment' else s.deployments.find? x)
      (hresumed : new.payload.policyApproval = none ∨ a = .reconcileStaleJob id newId)

/-- What a step can do to the row of one deployment. -/
inductive DeploymentChange (s : System) (a : Step) (d : ℕ) (row : Deployment) : Deployment → Prop
  | same : DeploymentChange s a d row row
  | written {id job job' cond f} (hjob : s.jobs.find? id = some job)
      (hd : job.deploymentId = some d) (hwr : Writes s a id job job' cond f)
      (hcond : cond row) : DeploymentChange s a d row (f row)
  | occupied (id : ℕ) (status : DeploymentStatus) : DeploymentChange s a d row (row.occupy id status)
  | adjusted {row'} (hadjusts : Adjusts s a d row row') : DeploymentChange s a d row row'
  | takenOver {id newId job job' new row'} (htake : Takeover s id newId d job job' new row') :
      DeploymentChange s a d row row'

variable {a : Step}

/-- The effect of a step, read off at one deployment: its row stays. -/
theorem Effect.deploymentChange {s s' : System} (h : Effect s a s') {d : ℕ}
    {row : Deployment} (hr : s.deployments.find? d = some row) :
    ∃ row', s'.deployments.find? d = some row' ∧ DeploymentChange s a d row row' := by
  cases h with
  | stays _ hd => exact ⟨row, hd ▸ hr, .same⟩
  | writes hj hwr _ hd =>
    rw [hd d, hr]
    refine ⟨_, rfl, ?_⟩
    dsimp only
    split
    · next hc => exact .written hj hc.1 hwr hc.2
    · exact .same
  | creates _ hcr _ hd =>
    rw [hd d]
    -- a row that is there already is the one that the new job occupies
    have hplace {d' : ℕ} {old : Deployment} {new : Option Deployment} (hnew : ∃ id st,
        new = if d = d' then some (old.occupy id st) else s.deployments.find? d)
        (ho : d = d' → old = row) : ∃ row', new = some row' ∧ DeploymentChange s a d row row' := by
      obtain ⟨id, st, rfl⟩ := hnew
      split
      · next hx =>
        rw [ho hx]
        exact ⟨_, rfl, .occupied id st⟩
      · exact ⟨row, hr, .same⟩
    cases hcr with
    | requested _ _ hp =>
      refine hplace ⟨_, _, rfl⟩ fun hx => ?_
      subst hx
      rcases hp with hp | ⟨hn, -⟩
      · exact Option.some.inj (hp.symm.trans hr)
      · cases hr.symm.trans hn
    | scheduled _ _ _ hp =>
      refine hplace ⟨_, _, rfl⟩ fun hx => ?_
      subst hx
      exact Option.some.inj (hp.symm.trans hr)
    | refused | detached => exact ⟨row, hr, .same⟩
  | adjusts hf hadjusts _ hd =>
    rw [hd d]
    split
    · next hx =>
      subst hx
      cases hr.symm.trans hf
      exact ⟨_, rfl, .adjusted hadjusts⟩
    · exact ⟨row, hr, .same⟩
  | takesOver _ ht _ _ hd =>
    rw [hd d]
    split
    · next hx =>
      subst hx
      exact ⟨_, rfl, .takenOver ht⟩
    · exact ⟨row, hr, .same⟩

/-- What a step can do to the row of one job. -/
inductive JobChange (s : System) (a : Step) (id : ℕ) : Option Job → Option Job → Prop
  | same (row : Option Job) : JobChange s a id row row
  | written {job job' : Job} {cond f} (hwr : Writes s a id job job' cond f) :
      JobChange s a id (some job) (some (job'.touch s.now))
  | created {job : Job} (hst : job.IsNew ∨ job.status = .failed)
      (hcancel : job.cancelRequested = false) (hheartbeat : job.heartbeatAt = none) :
      JobChange s a id none (some (job.touch s.now))
  | replaced {job job' : Job} (hfr : job.Frame job') (hfailed : job'.status = .failed)
      (hcancel : job'.cancelRequested = job.cancelRequested)
      (hheartbeat : job'.heartbeatAt = job.heartbeatAt) (hreason : TakeoverReason s a id job) :
      JobChange s a id (some job) (some (job'.touch s.now))

theorem Creates.row {s : System} {pl : Option (ℕ × Deployment)} (h : Creates s a job pl) :
    (job.IsNew ∨ job.status = .failed) ∧ job.cancelRequested = false ∧ job.heartbeatAt = none := by
  cases h with
  | requested hn | scheduled hn | detached hn =>
    exact ⟨.inl hn, hn.cancelRequested, hn.heartbeatAt⟩
  | refused hs hc hheartbeat => exact ⟨.inr hs, hc, hheartbeat⟩

/-- What a step can do to the row of one job, with what is known of the whole step. -/
inductive RowChange (s : System) (a : Step) (s' : System) (id : ℕ) : Option Job → Option Job → Prop
  | same (row : Option Job) : RowChange s a s' id row row
  | written {job job' : Job} {cond f} (hwr : Writes s a id job job' cond f)
      (hdeps : ∀ x, s'.deployments.find? x = (s.deployments.find? x).map fun deployment =>
        if job.deploymentId = some x ∧ cond deployment then f deployment else deployment) :
      RowChange s a s' id (some job) (some (job'.touch s.now))
  | created {job : Job} {place} (hcr : Creates s a job place) (hdr : Drafted s a s' id job) :
      RowChange s a s' id none (some (job.touch s.now))
  | succeeds {x d : ℕ} {old old' new : Job} {deployment'} (hold : s.jobs.find? x = some old)
      (htake : Takeover s x id d old old' new deployment') :
      RowChange s a s' id none (some (new.touch s.now))
  | replaced {newId d : ℕ} {job job' new : Job} {deployment'}
      (htake : Takeover s id newId d job job' new deployment') (hreason : TakeoverReason s a id job)
      (hnew : s'.jobs.find? newId = some (new.touch s.now))
      (hdeployments : s'.deployments.find? d = some deployment') :
      RowChange s a s' id (some job) (some (job'.touch s.now))

/-- The effect of a step, read off at one job. -/
theorem Effect.rowChange {s s' : System} (h : Effect s a s') (id : ℕ) :
    RowChange s a s' id (s.jobs.find? id) (s'.jobs.find? id) := by
  cases h with
  | stays hjobs | adjusts _ _ hjobs =>
    rw [hjobs]
    exact .same _
  | writes hj hwr hjobs hd =>
    rw [hjobs id]
    split
    · next hx =>
      rw [hx, hj]
      exact .written hwr hd
    · exact .same _
  | creates hfresh hcr hjobs _ hdr =>
    rw [hjobs id]
    split
    · next hx =>
      rw [hx, hfresh]
      exact .created hcr hdr
    · exact .same _
  | takesOver hj ht hr hjobs hd =>
    rw [hjobs id]
    split
    · next hx =>
      rw [hx, ht.fresh]
      exact .succeeds hj ht
    split
    · next hx =>
      rw [hx, hj]
      exact .replaced ht hr ((hjobs _).trans (if_pos rfl)) ((hd _).trans (if_pos rfl))
    · exact .same _

theorem Effect.jobChange {s s' : System} (h : Effect s a s') (id : ℕ) :
    JobChange s a id (s.jobs.find? id) (s'.jobs.find? id) := by
  have hch := h.rowChange id
  generalize s.jobs.find? id = row, s'.jobs.find? id = row' at hch ⊢
  cases hch with
  | same => exact .same _
  | written hwr => exact .written hwr
  | created hcr =>
    obtain ⟨hs, hc, hheartbeat⟩ := hcr.row
    exact .created hs hc hheartbeat
  | succeeds _ ht =>
    exact .created (.inl ht.isNew) ht.isNew.cancelRequested
      ht.isNew.heartbeatAt
  | replaced ht hr =>
    exact .replaced ht.frame ht.failed ht.cancelRequested
      ht.heartbeatAt hr

/-- A job that provisions is no plan. -/
theorem Takeover.not_plan {s : System} {id newId d : ℕ} {job' new : Job} {dep'}
    (h : Takeover s id newId d job job' new dep') : job.operation ≠ .terraformPlan := by
  intro ho
  have hp := h.provisioning
  rw [ho] at hp
  cases hp

/-- The moves of a worker. -/
inductive WorkerMove (s : System) : Step → ℕ → Worker → Worker → Prop
  | started {w available worker} (hph : worker.phase = .starting) :
      WorkerMove s (.startBody w available) w worker { worker with phase := .body }
  | stoppedWaiting {w worker} (hph : worker.phase = .starting) :
      WorkerMove s (.deferForProvider w) w worker { worker with phase := .finishing .failed }
  /-- a check that passes, or that is skipped -/
  | cleared {w force authorized rollback worker lastCheck} (hph : worker.phase.checks)
      (hresult : contextCheck s.now worker (s.jobs.find? worker.jobId) force authorized = .throttled
          ∧ lastCheck = worker.lastCheck
        ∨ contextCheck s.now worker (s.jobs.find? worker.jobId) force authorized = .passed
          ∧ lastCheck = some s.now) :
      WorkerMove s (.checkContext w force authorized rollback) w worker
        { worker with lastCheck := lastCheck, cleared := true, burst := false }
  | stopped {w force authorized rollback worker outcome} (hph : worker.phase.checks)
      (houtcome : outcome ≠ .successful) :
      WorkerMove s (.checkContext w force authorized rollback) w worker
        { worker with
          lastCheck := some s.now, cleared := false, burst := false, phase := .finishing outcome }
  | unauthorized {w force authorized rollback worker} (hph : worker.phase.checks)
      (hresult : contextCheck s.now worker (s.jobs.find? worker.jobId) force authorized
        = .unauthorized) :
      WorkerMove s (.checkContext w force authorized rollback) w worker
        { worker with
          lastCheck := some s.now, cleared := false, burst := false,
          phase := worker.phase.interrupt }
  | submitted {w rollback more worker job} (hjob : s.jobs.find? worker.jobId = some job)
      (hph : worker.phase = .body ∨ worker.phase = .aborted)
      (hcleared : worker.cleared ∨ worker.burst) (hop : job.operation.submits) :
      WorkerMove s (.submitMutation w rollback more) w worker
        { worker with
          phase := .mutating rollback, submitted := true, cleared := false, burst := more }
  | lost {w rollback worker} (hph : worker.phase = .body ∨ worker.phase = .aborted)
      (hcleared : worker.cleared ∨ worker.burst) :
      WorkerMove s (.requestLost w rollback) w worker
        { worker with phase := .aborted, cleared := false, burst := false }
  | succeeded {w worker} {applied : Bool} (hph : worker.phase = .mutating false)
      (happlied : worker.applied → applied) :
      WorkerMove s (.mutationSucceeded w) w worker
        { worker with phase := .body, cleared := false, applied := applied }
  | undone {w worker} (hph : worker.phase = .mutating true) :
      WorkerMove s (.mutationSucceeded w) w worker
        { worker with phase := .rolledBack, cleared := false }
  | aborted {w worker rollback} (hph : worker.phase = .mutating rollback) :
      WorkerMove s (.mutationFailed w) w worker
        { worker with phase := .aborted, cleared := false, burst := false }
  | committed {w worker synced} (hph : worker.phase = .body) :
      WorkerMove s (.commitInBody w) w worker { worker with inventorySynced := synced }
  | paused {w stepId planSha256 config worker} (hph : worker.phase = .body) :
      WorkerMove s (.pauseForApproval w stepId planSha256 config) w worker
        { worker with phase := .paused }
  | destroyed {w worker} (hph : worker.phase = .rolledBack) :
      WorkerMove s (.markDestroyedAfterRollback w) w worker
        { worker with rollbackDestroyed := true, phase := .finishing .failed }
  | finished {w successful worker outcome}
      (hph : outcome = .successful ∧ worker.phase = .body
        ∨ outcome = .failed ∧ worker.phase.inProgress) :
      WorkerMove s (.finishBody w successful) w worker { worker with phase := .finishing outcome }

/-- The worker of a job of the generic kind that a step moves, starts or ends. -/
def Step.mover : Step → Option ℕ
  | .claimJob w _ | .startBody w _ | .deferForProvider w | .checkContext w _ _ _
  | .submitMutation w _ _ | .requestLost w _ | .mutationSucceeded w | .mutationFailed w
  | .commitInBody w | .pauseForApproval w _ _ _ | .releaseAfterPause w | .deferBlueprintDelete w
  | .markDestroyedAfterRollback w | .finishBody w _ | .finalizeJob w _ _ => some w
  | _ => none

/-- What a step can do to one worker that is there afterwards. -/
inductive WorkerChange (s : System) (a : Step) (w : ℕ) : Option Worker → Worker → Prop
  | same (worker : Worker) (hother : a.mover ≠ some w) : WorkerChange s a w (some worker) worker
  | born {id : ℕ} {job : Job} {applied synced : Bool} (ha : a = .claimJob w id)
      (hjob : s.jobs.find? id = some job) (hstatus : job.status = .queued)
      (hcancel : job.cancelRequested = false) (hday2 : job.operation.isDay2 = false)
      (happlied : applied = job.payload.providerApplied) :
      WorkerChange s a w none
        { jobId := id, phase := .starting, applied := applied, inventorySynced := synced }
  | bornDay2 {id : ℕ} {job : Job} {worker' : Worker} (hjob : s.jobs.find? id = some job)
      (hop : job.operation.isDay2) (hid : worker'.jobId = id) (hday2 : worker'.day2) :
      WorkerChange s a w none worker'
  | moved {worker worker' : Worker} (hday2 : worker.day2 = false)
      (hmove : WorkerMove s a w worker worker') : WorkerChange s a w (some worker) worker'
  | movedDay2 {worker worker' : Worker} (hday2 : worker.day2) (hid : worker'.jobId = worker.jobId)
      (hday2' : worker'.day2) : WorkerChange s a w (some worker) worker'

/-- The seconds that pass in a step. -/
def Step.elapsed : Step → ℕ
  | .tick seconds => seconds
  | _ => 0

/-- What a step can do to the workers, the requests and the clock. -/
structure SideEffect (s : System) (a : Step) (s' : System) : Prop where
  now : s'.now = s.now + a.elapsed
  worker : ∀ w worker', s'.workers.find? w = some worker'
    → WorkerChange s a w (s.workers.find? w) worker'
  request : ∀ r request', s'.requests.find? r = some request'
    → (∃ request, s.requests.find? r = some request ∧ request'.jobId = request.jobId)
      ∨ ∃ job', s'.jobs.find? request'.jobId = some job' ∧ job'.deploymentId = none
        ∧ job'.operation.isDay2 ∧ s.jobs.find? request'.jobId = none

variable {request : ActionRequest} {worker worker' : Worker} {x : ℕ}

section Build

variable {s s' : System} {a : Step} {w : ℕ}

/-- Workers that are as they were. -/
theorem workerChange_of_eq (ha : a.mover = none) (h : s'.workers = s.workers)
    (hw : s'.workers.find? w = some worker') : WorkerChange s a w (s.workers.find? w) worker' := by
  rw [h] at hw
  rw [hw]
  exact .same worker' (by rw [ha]; exact nofun)

section

variable (ha : a.mover = some x ∨ a.mover = none)
include ha

/-- A worker beside the one that the step is about. -/
theorem workerChange_of_ne (hn : w ≠ x) (hw : s.workers.find? w = some worker') :
    WorkerChange s a w (s.workers.find? w) worker' := by
  rw [hw]
  refine .same worker' fun hmover => ?_
  rcases ha with ha | ha
  · exact hn (Option.some.inj (hmover.symm.trans ha))
  rw [ha] at hmover
  cases hmover

/-- One worker is written. -/
theorem workerChange_of_put (h : s'.workers = s.workers.put x worker)
    (hx : WorkerChange s a x (s.workers.find? x) worker) (hw : s'.workers.find? w = some worker') :
    WorkerChange s a w (s.workers.find? w) worker' := by
  rw [h, Table.find?_put] at hw
  split at hw
  · next he =>
    cases hw
    rw [he]
    exact hx
  · next hn => exact workerChange_of_ne ha hn hw

/-- One worker ends. -/
theorem workerChange_of_erase (h : s'.workers = s.workers.erase x)
    (hw : s'.workers.find? w = some worker') : WorkerChange s a w (s.workers.find? w) worker' := by
  rw [h, Table.find?_erase] at hw
  split at hw
  · cases hw
  · next hn => exact workerChange_of_ne ha hn hw

end

/-- A step that leaves workers, requests and the clock alone. -/
theorem SideEffect.of_eq (ha : a.mover = none)
    (hnow : s'.now = s.now + a.elapsed) (hworkers : s'.workers = s.workers)
    (hreqs : s'.requests = s.requests) : SideEffect s a s' where
  now := hnow
  worker _ _ hw := workerChange_of_eq ha hworkers hw
  request r request' hr := .inl ⟨request', by rw [← hreqs, hr], rfl⟩

theorem SideEffect.of_same (ha : a.mover = none) (he : a.elapsed = 0) (h : SameSide s s') :
    SideEffect s a s' := by
  refine .of_eq ha ?_ h.2.1 h.2.2.1
  rw [he]
  exact h.1

section

variable (ha : a.mover = some x ∨ a.mover = none)
include ha

/-- A step that moves one worker. -/
theorem SideEffect.of_put (hx : WorkerChange s a x (s.workers.find? x) worker)
    (hnow : s'.now = s.now + a.elapsed)
    (hworkers : s'.workers = s.workers.put x worker)
    (hreqs : s'.requests = s.requests) : SideEffect s a s' where
  now := hnow
  worker _ _ hw := workerChange_of_put ha hworkers hx hw
  request r request' hr := .inl ⟨request', by rw [← hreqs, hr], rfl⟩

/-- A step that ends one worker. -/
theorem SideEffect.of_erase (hnow : s'.now = s.now + a.elapsed)
    (hworkers : s'.workers = s.workers.erase x)
    (hreqs : s'.requests = s.requests) : SideEffect s a s' where
  now := hnow
  worker _ _ hw := workerChange_of_erase ha hworkers hw
  request r request' hr := .inl ⟨request', by rw [← hreqs, hr], rfl⟩

end

/-- A request that is rewritten keeps its job. -/
theorem request_of_put {old : ActionRequest} (ho : s.requests.find? x = some old)
    (h : s'.requests = s.requests.put x request) (hj : request.jobId = old.jobId) {r : ℕ}
    {request' : ActionRequest} (hr : s'.requests.find? r = some request') :
    ∃ request, s.requests.find? r = some request ∧ request'.jobId = request.jobId := by
  rw [h, Table.find?_put] at hr
  split at hr
  · next he =>
    cases hr
    rw [he]
    exact ⟨old, ho, hj⟩
  · exact ⟨request', hr, rfl⟩

end Build

/-! ### Moves -/

section Moves

variable {s s' : System} {a : Step} {w r : ℕ}

/-- A move of a worker, after which `clear_provider_wait` may have run. -/
theorem SideEffect.of_move {s₁ : System} (hw : s.workers.find? w = some worker)
    (hday2 : worker.day2 = false) (hm : WorkerMove s a w worker worker')
    (hs' : s' = s₁.putWorker w worker') (hs₁ : SameSide s s₁)
    (ha : (a.mover, a.elapsed) = (some w, 0)) : SideEffect s a s' := by
  subst hs'
  obtain ⟨ha, he⟩ := Prod.mk.inj ha
  refine .of_put (.inl ha) ?_ (by rw [he]; exact hs₁.1) (congrArg (·.put w worker') hs₁.2.1)
    hs₁.2.2.1
  rw [hw]
  exact .moved hday2 hm

/-- A Day-2 worker that moves. -/
theorem SideEffect.of_day2 (hw : s.workers.find? w = some worker) (hday2 : worker.day2)
    (ha : a.mover = none) (hs' : s'.workers = s.workers.put w worker')
    (hnow : s'.now = s.now + a.elapsed) (hreqs : s'.requests = s.requests)
    (hi : worker'.jobId = worker.jobId)
    (hday2' : worker'.day2 = worker.day2) : SideEffect s a s' := by
  refine .of_put (.inr ha) ?_ hnow hs' hreqs
  rw [hw]
  exact .movedDay2 hday2 hi (hday2'.trans hday2)

/-- A step that rewrites one request and leaves the workers alone. -/
theorem SideEffect.of_request {request' : ActionRequest} (hreq : s.requests.find? r = some request)
    (hworkers : ∀ x worker', s'.workers.find? x = some worker'
      → WorkerChange s a x (s.workers.find? x) worker')
    (hs' : s'.requests = s.requests.put r request')
    (hnow : s'.now = s.now + a.elapsed)
    (hi : request'.jobId = request.jobId) : SideEffect s a s' :=
  ⟨hnow, hworkers, fun _ _ hx => .inl (request_of_put hreq hs' hi hx)⟩

theorem jobRequest_eq_some {job : Job} (h : s.jobRequest job = some (r, request)) :
    s.requests.find? r = some request := by
  simp only [System.jobRequest, Option.bind_eq_some_iff, Option.map_eq_some_iff, Prod.mk.injEq] at h
  obtain ⟨_, -, _, hf, rfl, rfl⟩ := h
  exact hf

end Moves

end CloudPortal
