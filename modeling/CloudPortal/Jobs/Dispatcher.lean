/-
CloudPortal/Jobs/Dispatcher.lean

The reconcilers of the dispatcher (`app/jobs/queue.py`, `app/jobs/recovery.py`,
`app/day2/reconciliation.py`).  The dispatcher runs them over all rows that it
can lock; here each of them is a transition on one row, so a pass is a sequence of
such transitions, in any order and with any rows skipped.

What Redis says about the execution of a job is an input of `reconcileCancelledJob`.
-/
import CloudPortal.Jobs.Api

namespace CloudPortal

open RowStore

/-- The settings that the job system reads. -/
structure Settings where
  workerAutoResumeEnabled : Bool := true
  workerAutoResumeMaxAttempts : ℕ := 3
  providerRetryMaxAttempts : ℕ := 48
  resourceLockTimeout : ℕ := 3600

/-- `CANCELLATION_GRACE_SECONDS`. -/
def cancellationGraceSeconds : ℕ := 60

/-- `STALE_JOB_HEARTBEAT_SECONDS`. -/
def staleJobHeartbeatSeconds : ℕ := 180

/-! ### Approvals that expire -/

/-- When the approval that a job waits for expires. -/
def approvalExpiry (config : ApprovalPolicy) (job : Job) : ℕ :=
  let window :=
    match job.payload.workflowApproval.filter (·.status = .pending) with
    | some approval => approval.expiresAt
    | none => job.payload.approval.bind (·.expiresAt)
  window.getD (hoursFrom job.updatedAt (job.payload.approvalPolicy.getD config).timeoutHours)

/-- A status that a deployment may return to when an approval expires. -/
def DeploymentStatus.restorable : DeploymentStatus → Bool
  | .queued | .running | .waitingApproval | .cancelling => false
  | _ => true

/-- The deployment has the machine it had before the job. -/
def System.hasResource (s : System) (job : Job) : Bool :=
  (s.deploymentOf job).isSome && s.activeInventoryExists job.deploymentId

/-- The deployment of a job whose approval expired before it changed anything. -/
def Deployment.expire (hasResource : Bool) (job : Job) (deployment : Deployment) : Deployment :=
  match job.payload.previousStatus.filter fun status => hasResource && status.restorable with
  | some previous => deployment.leave previous
  | none => (deployment.leave .cancelled).releaseAddresses

/-- `expire_waiting_approvals` for one job. -/
def expireWaitingApproval (s : System) (id : ℕ) (config : ApprovalPolicy) : Except Failure System := do
  let job ← need .notEnabled (s.jobs.find? id)
  ensure .notEnabled (job.status = .waitingApproval && !job.cancelRequested)
  ensure .notEnabled (approvalExpiry config job ≤ s.now)
  if s.hasResource job ∧ job.payload.providerApplied then
    .ok ((s.putJob id
      { job with
        status := .failed
        error := some ("Approval request expired after this job created or changed " ++
          "infrastructure; inspect the deployment and clean up manually") }).updateOwned id job
      (Deployment.leave .failed))
  else
    .ok ((s.putJob id
      { job with status := .cancelled, error := some "Approval request expired" }).updateOwned id job
      (Deployment.expire (s.hasResource job) job))

/-! ### Jobs whose worker is gone -/

/-- What Redis knows about the execution of a job. -/
inductive RqView
  | missing
  | unavailable
  | pending
  | started (lastSeen : Option ℕ)
  | ended
  deriving DecidableEq, Repr

/-- Redis does not speak against the worker being gone. -/
def RqView.gone (now : ℕ) : RqView → Bool
  | .missing => true
  | .unavailable => false
  | .pending => false
  | .started none => false
  | .started (some lastSeen) => lastSeen + cancellationGraceSeconds ≤ now
  | .ended => true

/-- `job.heartbeat_at or job.updated_at`. -/
def Job.lastSeen (job : Job) : ℕ := job.heartbeatAt.getD job.updatedAt

/-- The job may be given up: neither the job row nor Redis saw its worker lately. -/
def Job.abandoned (now : ℕ) (rq : RqView) (job : Job) : Bool :=
  job.lastSeen + cancellationGraceSeconds ≤ now && rq.gone now

/-- The status of the deployment of a job that was given up after its cancellation. -/
def Operation.abandonedStatus (operation : Operation) : DeploymentStatus :=
  if operation.uncertainTerraform then .reconciliationRequired else .cancelled

/-- `reconcile_cancelled_jobs` for one job. -/
def reconcileCancelledJob (s : System) (id : ℕ) (rq : RqView) : Except Failure System := do
  let job ← need .notEnabled (s.jobs.find? id)
  ensure .notEnabled
    (job.cancelRequested && (job.status = .running || job.status = .cancelling))
  if job.abandoned s.now rq then do
    let l ← ofQuota (markJobReservationUncertain s.ledger id job.payload.quota)
    .ok (((s.withLedger l).putJob id
      { job with
        status := .cancelled
        error := some "Cancellation requested; worker no longer owns an active execution" }).updateOwned
      id job (Deployment.leave job.operation.abandonedStatus))
  else
    .ok ((if job.status = .running then s.putJob id { job with status := .cancelling } else s).updateOwned
      id job fun deployment => { deployment with status := .cancelling })

/-- `_safe_to_auto_retry`. -/
def safeToAutoRetry (s : System) (id : ℕ) (job : Job) : Bool :=
  (job.payload.stateRecovery = some id
      || job.payload.autoResume.any (·.fromPersistedState)
      || (job.payload.providerApplied && job.payload.inventorySynced))
    && s.activeInventoryExists job.deploymentId
    && match jobReservation s.ledger id job.payload.quota with
      | none => true
      | some r => (s.ledger.reservations.find? r).any fun row =>
        row.status = .committed && !row.reconciliationRequired

/-- How often a job was resumed already. -/
def Job.resumeCount (job : Job) : ℕ := (job.payload.autoResume.map (·.count)).getD 0

/-- The payload of an automatic resume. -/
def Job.resumePayload (id : ℕ) (job : Job) : Payload :=
  { job.payload with
    providerWait := none
    stateRecovery := none
    quota := { job.payload.quota with checked := false, reservationId := none }
    autoResume := some
      { count := job.resumeCount + 1, fromPersistedState := true, fromJobId := id } }

/-- The job that takes over from a lost one. -/
def Job.resumed (id : ℕ) (job : Job) : Job :=
  { deploymentId := job.deploymentId, operation := job.operation, scope := job.scope,
    payload := job.resumePayload id, source := .recovery }

/-- The deployment row of a job names the job as its active job. -/
def System.owns (s : System) (id : ℕ) (job : Job) : Bool :=
  (s.deploymentOf job).any fun d => d.2.activeJobId = some id

/-- `queue_automatic_resume`: the job that takes over, if there is to be one. -/
def automaticResume (cfg : Settings) (s : System) (id : ℕ) (job : Job) : Option Job :=
  if cfg.workerAutoResumeEnabled && 0 < cfg.workerAutoResumeMaxAttempts
      && job.operation.provisioning && !job.cancelRequested && s.owns id job
      && safeToAutoRetry s id job && job.resumeCount < cfg.workerAutoResumeMaxAttempts then
    some (job.resumed id)
  else none

/-- A running job without a heartbeat for three minutes. -/
def Job.stale (now : ℕ) (job : Job) : Bool :=
  job.status = .running && !job.cancelRequested
    && job.heartbeatAt.any fun t => t + staleJobHeartbeatSeconds < now

/-- `reconcile_stale_jobs` for one job; `resumeId` is the id of the resumed job. -/
def reconcileStaleJob (cfg : Settings) (s : System) (id resumeId : ℕ) : Except Failure System := do
  let job ← need .notEnabled (s.jobs.find? id)
  ensure .notEnabled (job.stale s.now)
  let l ← ofQuota (markJobReservationUncertain s.ledger id job.payload.quota)
  match automaticResume cfg (s.withLedger l) id job with
  | some resumed => do
      ensure .notEnabled (s.freshJobId resumeId)
      .ok ((((s.withLedger l).putJob id
        { job with
          status := .failed
          error := some ("Worker heartbeat lost. Persisted Terraform state and quota were " ++
            "reconciled; automatic resume queued as job " ++ toString resumeId ++ ".") }).putJob
        resumeId resumed).updateOwned id job (Deployment.occupy resumeId .recoveryQueued))
  | none =>
    .ok (((s.withLedger l).putJob id
      { job with
        status := .failed
        error := some ("Worker heartbeat lost. Inventory was reconciled from persisted " ++
          "Terraform state; quota reservation requires reconciliation before retrying.") }).updateOwned
      id job (Deployment.leave .failed))

/-! ### Deployments and the inventory -/

/-- The deployment of a job that has ended. -/
def Deployment.settle (now : ℕ) (job : Job) (deployment : Deployment) : Deployment :=
  if job.operation = .terraformPlan then
    deployment.leave
      (if job.previousStatus deployment = .reconciliationRequired ∧ job.status = .successful
        then .successful else job.previousStatus deployment)
  else if job.status ≠ .successful then deployment.leave job.status.toDeployment
  else if job.operation.destroys then
    { deployment.leave .destroyed with destroyedAt := deployment.destroyedAt <|> some now }
  else if job.operation = .terraformImport then deployment.leave .imported
  else deployment.leave .successful

/-- Statuses of a deployment that a queued or running job does not overwrite. -/
def DeploymentStatus.keptWhileActive : DeploymentStatus → Bool
  | .waitingProvider | .recoveryQueued => true
  | _ => false

/-- The deployment follows the status of its active job. -/
def Deployment.follow (now : ℕ) (job : Job) (deployment : Deployment) : Deployment :=
  if job.status = .cancelling ∨ job.cancelRequested then { deployment with status := .cancelling }
  else if job.status.live then
    if deployment.status.keptWhileActive then deployment
    else { deployment with status := job.status.toDeployment }
  else if job.status.terminal then deployment.settle now job
  else deployment

/-- `reconcile_deployment_job_statuses` for one deployment. -/
def reconcileDeploymentJobStatus (s : System) (d : ℕ) : Except Failure System := do
  let deployment ← need .notEnabled (s.deployments.find? d)
  let active ← need .notEnabled deployment.activeJobId
  match s.jobs.find? active with
  | some job => .ok (s.putDeployment d (deployment.follow s.now job))
  | none => .ok (s.putDeployment d (deployment.leave .failed))

/-- `record_persisted_state_recovery` for the active job of a deployment. -/
def recordPersistedStateRecovery (s : System) (active : Option ℕ) : System :=
  match active.bind fun id => (s.jobs.find? id).map fun job => (id, job) with
  | some (id, job) =>
    if job.operation = .terraformApply && job.deploymentId.isSome then
      s.putJob id { job with payload := { job.payload with stateRecovery := some id } }
    else s
  | none => s

/-- `reconcile_persisted_inventory` for one deployment with a stored state that lacks an
inventory row. -/
def reconcilePersistedInventory (s : System) (d : ℕ) : Except Failure System := do
  let deployment ← need .notEnabled (s.deployments.find? d)
  ensure .notEnabled (deployment.status ≠ .destroyed && !((s.resources.find? d).isSome
    && (deployment.provider ≠ .proxmox || (s.vms.find? d).isSome)))
  let l ← ofQuota (reconcileTerraformPresence s.ledger deployment.scope d true)
  .ok (recordPersistedStateRecovery
    ((s.withLedger l).syncInventory d deployment) deployment.activeJobId)

/-! ### Day-2 requests -/

/-- `release_resource_lock`. -/
def releaseResourceLock (locks : Table ℕ ResourceLock) (resourceId requestId : ℕ) :
    Table ℕ ResourceLock :=
  if (locks.find? resourceId).any fun lock => lock.requestId = requestId then
    locks.erase resourceId
  else locks

/-- A request that is still open when its job has ended may have reached the provider. -/
def RequestStatus.uncertain : RequestStatus → Bool
  | .running | .cancelRequested => true
  | _ => false

/-- The request takes over the end of its job. -/
def ActionRequest.mirror (job : Job) (request : ActionRequest) : ActionRequest :=
  { request with
    status := if job.status = .cancelled then .cancelled else .failed
    reconciliationRequired := request.status.uncertain
    approvalState := if request.approvalState = .pending then .cancelled else request.approvalState }

/-- Jobs that the Day-2 worker executes. -/
def Operation.isDay2 : Operation → Bool
  | .day2 _ => true
  | _ => false

/-- `reconcile_finished_jobs` for one request. -/
def reconcileFinishedJob (s : System) (requestId : ℕ) : Except Failure System := do
  let request ← need .notEnabled (s.requests.find? requestId)
  let job ← need .notEnabled (s.jobs.find? request.jobId)
  ensure .notEnabled (job.operation.isDay2 && (job.status = .failed || job.status = .cancelled))
  ensure .notEnabled (!request.status.terminal)
  .ok { s with
    requests := s.requests.put requestId (request.mirror job)
    locks := if request.status.uncertain then s.locks
      else releaseResourceLock s.locks request.target.id requestId }

end CloudPortal
