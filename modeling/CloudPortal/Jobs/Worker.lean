/-
CloudPortal/Jobs/Worker.lean

The worker of Terraform, Proxmox, Ansible and Blueprint-delete jobs
(`app/jobs/worker.py`).  A worker runs outside of any transaction and writes the
database in short ones; between two of them it may stall for any time or die.
Each function below is one of its transactions, or one of the moments that change
what it knows: a check of its context, a provider mutation that is submitted, that
comes back, that fails.  Which of them come next is the workflow's choice.

Raised exceptions are phases of the worker: `finishing` stands for the code behind
the `except` clauses of `_execute_unfenced`, `paused` for `ApprovalPending`.
-/
import CloudPortal.Jobs.Dispatcher

namespace CloudPortal

open RowStore

/-- A worker of the given kind with its job row. -/
def System.workerJob (s : System) (day2 : Bool) (w : ℕ) : Except Failure (Worker × Job) := do
  let worker ← need .notEnabled (s.workers.find? w)
  ensure .notEnabled (worker.day2 = day2)
  let job ← need .notEnabled (s.jobs.find? worker.jobId)
  .ok (worker, job)

theorem workerJob_bind_eq_ok {β : Type} {s : System} {day2 : Bool} {w : ℕ}
    {f : Worker × Job → Except Failure β} {b : β} :
    s.workerJob day2 w >>= f = .ok b ↔ ∃ wk job, s.workers.find? w = some wk
      ∧ wk.day2 = day2 ∧ s.jobs.find? wk.jobId = some job ∧ f (wk, job) = .ok b := by
  simp only [System.workerJob, bind_assoc, need_bind_eq_ok, ensure_bind_eq_ok, decide_eq_true_eq]
  constructor
  · rintro ⟨wk, hw, hday2, job, hj, hf⟩
    exact ⟨wk, job, hw, hday2, hj, hf⟩
  · rintro ⟨wk, job, hw, hday2, hj, hf⟩
    exact ⟨wk, hw, hday2, job, hj, hf⟩

/-! ### Claim and start -/

/-- The atomic claim: only a queued job without a cancellation request is taken. -/
def claimJob (s : System) (w id : ℕ) : Except Failure System := do
  let job ← need .notEnabled (s.jobs.find? id)
  ensure .notEnabled (job.status = .queued && !job.cancelRequested && !job.operation.isDay2)
  ensure .notEnabled (s.workers.find? w).isNone
  .ok (((s.putJob id { job with status := .running, heartbeatAt := some s.now }).updateOwned id job
      fun deployment => { deployment with status := .running }).putWorker w
    { jobId := id, phase := .starting, applied := job.payload.providerApplied,
      inventorySynced := job.payload.inventorySynced })

/-- Quota admission of a job that was not admitted before it was queued. -/
def admitClaimed (s : System) (w : ℕ) : Except Failure System := do
  let (worker, job) ← s.workerJob false w
  ensure .notEnabled (worker.phase = .starting && job.operation.mutatingTerraform
    && !job.payload.quota.checked)
  let (d, deployment) ← need .notEnabled (s.deploymentOf job)
  let (tag, l) ← ofQuota (prepareJobReservation s.ledger (job.ref worker.jobId)
    (some (deployment.shape d)) job.payload.quota)
  .ok ((s.withLedger l).putJob worker.jobId (job.withQuota tag))

/-- What a deployment must look like for its job to be executed. -/
def Deployment.executable (operation : Operation) (deployment : Deployment) : Bool :=
  !(operation = .terraformApply && deployment.planOnly)
    && !(operation.provisioning && deployment.hasReleasedAllocations)

/-- `clear_provider_wait`. -/
def clearProviderWait (s : System) (id : ℕ) (job : Job) : System :=
  (if job.payload.providerWait.isSome then
      s.putJob id { job with payload := { job.payload with providerWait := none } }
    else s).updateDeployment job (·.status = .waitingProvider)
      fun deployment => { deployment with status := .running }

/-- The operations that wait for a provider that cannot be reached. -/
def Operation.waitsForProvider : Operation → Bool
  | .terraformApply | .terraformDestroy | .proxmoxProvision | .proxmoxDestroy => true
  | _ => false

/-- The checks before the body of an operation; `available` says that the provider
was asked and can be used. -/
def startBody (s : System) (w : ℕ) (available : Bool) : Except Failure System := do
  let (worker, job) ← s.workerJob false w
  ensure .notEnabled (worker.phase = .starting
    && (job.payload.quota.checked || !job.operation.mutatingTerraform))
  ensure .notEnabled ((s.deploymentOf job).all fun d => d.2.executable job.operation)
  let s' :=
    if available && job.operation.waitsForProvider then clearProviderWait s worker.jobId job else s
  .ok (s'.putWorker w { worker with phase := .body })

/-- `defer_for_provider`. -/
def deferForProvider (cfg : Settings) (s : System) (w : ℕ) : Except Failure System := do
  let (worker, job) ← s.workerJob false w
  ensure .notEnabled (worker.phase = .starting && job.operation.waitsForProvider
    && (s.deploymentOf job).isSome)
  let attempts := job.payload.providerWait.getD 0 + 1
  if job.cancelRequested then .ok (s.endWorker w)
  else if cfg.providerRetryMaxAttempts < attempts then
    .ok ((clearProviderWait s worker.jobId job).putWorker w
      { worker with phase := .finishing .failed })
  else
    .ok (((s.putJob worker.jobId
      { job with
        status := .queued, error := none, heartbeatAt := none,
        payload := { job.payload with providerWait := some attempts } }).updateDeployment job
        (fun _ => true) (Deployment.occupy worker.jobId .waitingProvider)).endWorker w)

/-! ### The body of an operation -/

/-- The places of the program at which the context is checked. -/
def WorkerPhase.checks : WorkerPhase → Bool
  | .body | .mutating _ | .aborted => true
  | _ => false

/-- An exception in the body: a provider call that is in flight is abandoned. -/
def WorkerPhase.interrupt : WorkerPhase → WorkerPhase
  | .mutating _ => .aborted
  | phase => phase

/-- A check within a second of the last one returns at once. -/
def Worker.throttled (now : ℕ) (force : Bool) (worker : Worker) : Bool :=
  !force && worker.lastCheck.any fun t => now < t + 1

/-- What a check of the context finds. -/
inductive CheckResult
  | throttled
  | cancelled
  | unauthorized
  | passed
  deriving DecidableEq, Repr

/-- `Context.check`; `authorized` is the answer of `validate_authorization`. -/
def contextCheck (now : ℕ) (worker : Worker) (job : Option Job) (force authorized : Bool) :
    CheckResult :=
  if worker.throttled now force then .throttled
  else if job.all (·.cancelRequested) then .cancelled
  else if !authorized then .unauthorized
  else .passed

/-- A check and what follows from it.  `Cancelled` ends the body, in a rollback as
a failure; a lost authorization may still be retried by the workflow. -/
def checkContext (s : System) (w : ℕ) (force authorized rollback : Bool) :
    Except Failure System := do
  let worker ← need .notEnabled (s.workers.find? w)
  ensure .notEnabled (worker.phase.checks && !worker.day2)
  let job := s.jobs.find? worker.jobId
  match contextCheck s.now worker job force authorized with
  | .throttled => .ok (s.putWorker w { worker with cleared := true, burst := false })
  | .cancelled =>
    .ok (s.putWorker w
      { worker with
        lastCheck := some s.now, cleared := false, burst := false,
        phase := .finishing (if rollback then .failed else .cancelled) })
  | .unauthorized =>
    .ok (s.putWorker w
      { worker with
        lastCheck := some s.now, cleared := false, burst := false,
        phase := worker.phase.interrupt })
  | .passed =>
    match job with
    | some job =>
      .ok ((s.putJob worker.jobId { job with heartbeatAt := some s.now }).putWorker w
        { worker with lastCheck := some s.now, cleared := true, burst := false })
    | none => .error .notEnabled

/-- The operations whose executor submits a mutation and sets `quota_provider_submitted`. -/
def Operation.submits : Operation → Bool
  | .terraformApply | .terraformDestroy | .proxmoxProvision | .proxmoxDestroy => true
  | _ => false

/-- A provider mutation is submitted behind a check that passed, or behind the call before it:
`configure` (`app/jobs/proxmox_provision.py`) resizes the disk without another check.  `more` says
that such a call follows this one. -/
def submitMutation (s : System) (w : ℕ) (rollback more : Bool) : Except Failure System := do
  let (worker, job) ← s.workerJob false w
  ensure .notEnabled ((worker.phase = .body || worker.phase = .aborted)
    && (worker.cleared || worker.burst))
  ensure .notEnabled (job.operation.submits && (!rollback || job.operation.provisioning))
  .ok (s.putWorker w
    { worker with phase := .mutating rollback, submitted := true, cleared := false, burst := more })

/-- A direct Proxmox request raises, or its answer is lost: `quota_provider_submitted` is set
behind the call only, so the worker does not count it as submitted. -/
def requestLost (s : System) (w : ℕ) (rollback : Bool) : Except Failure System := do
  let (worker, job) ← s.workerJob false w
  ensure .notEnabled ((worker.phase = .body || worker.phase = .aborted)
    && (worker.cleared || worker.burst))
  ensure .notEnabled (job.operation = .proxmoxProvision || job.operation = .proxmoxDestroy && !rollback)
  .ok (s.putWorker w { worker with phase := .aborted, cleared := false, burst := false })

/-- The executor returns: the outcome of the mutation is known. -/
def mutationSucceeded (s : System) (w : ℕ) : Except Failure System := do
  let (worker, job) ← s.workerJob false w
  match worker.phase with
  | .mutating true => .ok (s.putWorker w { worker with phase := .rolledBack, cleared := false })
  | .mutating false =>
    .ok (s.putWorker w
      { worker with
        phase := .body, cleared := false,
        applied := worker.applied || job.operation.provisioning })
  | _ => .error .notEnabled

/-- The executor raises: the mutation failed, timed out or was killed. -/
def mutationFailed (s : System) (w : ℕ) : Except Failure System := do
  let worker ← need .notEnabled (s.workers.find? w)
  ensure .notEnabled !worker.day2
  match worker.phase with
  | .mutating _ =>
    .ok (s.putWorker w { worker with phase := .aborted, cleared := false, burst := false })
  | _ => .error .notEnabled

/-- `persist_workflow_runtime`. -/
def persistWorkflowRuntime (s : System) (w : ℕ) (planSha256 : Option String) :
    Except Failure System := do
  let (worker, job) ← s.workerJob false w
  ensure .notEnabled ((worker.phase = .body || worker.phase = .aborted)
    && job.operation.provisioning && job.payload.blueprint.isSome)
  .ok (s.putJob worker.jobId { job with payload := { job.payload with
    workflowRuntime := some
      { providerApplied := worker.applied, inventorySynced := worker.inventorySynced,
        planSha256 := planSha256 } } })

/-- `register_managed_inventory` and `register_adopted_resource`. -/
def registerInventory (s : System) (w : ℕ) : Except Failure System := do
  let (worker, job) ← s.workerJob false w
  ensure .notEnabled (worker.phase = .body
    && (job.operation.provisioning || job.operation = .terraformImport))
  let (d, deployment) ← need .notEnabled (s.deploymentOf job)
  .ok (s.syncInventory d deployment)

/-- `commit_job_reservation` in the body, behind a mutation that came back. -/
def commitInBody (s : System) (w : ℕ) : Except Failure System := do
  let (worker, job) ← s.workerJob false w
  ensure .notEnabled (worker.phase = .body && job.operation.mutatingTerraform)
  let l ← ofQuota (commitJobReservation s.ledger worker.jobId job.payload.quota)
  .ok ((s.withLedger l).putWorker w
    { worker with inventorySynced := worker.inventorySynced || job.operation.provisioning })

/-- `pause_for_approval`. -/
def pauseForApproval (s : System) (w : ℕ) (stepId : String) (planSha256 : Option String)
    (config : ApprovalPolicy) : Except Failure System := do
  let (worker, job) ← s.workerJob false w
  ensure .notEnabled (worker.phase = .body && job.operation = .terraformApply
    && job.payload.blueprint.any fun blueprint => blueprint.requiresApproval && blueprint.approvalStep)
  let hours := (job.payload.approvalPolicy.getD config).timeoutHours
  .ok (((s.putJob worker.jobId
    { job with
      status := .waitingApproval, error := none, heartbeatAt := none,
      payload := { job.payload with
        workflowApproval := some
          { status := .pending, stepId := stepId, expiresAt := some (hoursFrom s.now hours),
            planSha256 := planSha256 }
        workflowRuntime := some
          { providerApplied := worker.applied, inventorySynced := worker.inventorySynced,
            planSha256 := planSha256 } } }).updateDeployment job
      (fun _ => true) (Deployment.occupy worker.jobId .waitingApproval)).putWorker w
    { worker with phase := .paused })

/-- The handler of `ApprovalPending`: a later transaction gives the reservation back. -/
def releaseAfterPause (s : System) (w : ℕ) : Except Failure System := do
  let (worker, job) ← s.workerJob false w
  ensure .notEnabled (worker.phase = .paused)
  if worker.submitted then .ok (s.endWorker w)
  else do
    let l ← ofQuota (releaseJobReservation s.ledger worker.jobId job.payload.quota)
    .ok ((s.withLedger l).endWorker w)

/-- The handler of `BlueprintDeletionDeferred`. -/
def deferBlueprintDelete (s : System) (w : ℕ) : Except Failure System := do
  let (worker, job) ← s.workerJob false w
  ensure .notEnabled (worker.phase = .body && job.operation = .blueprintDelete)
  .ok ((s.putJob worker.jobId { job with status := .queued, heartbeatAt := none }).endWorker w)

/-- `mark_destroyed_after_rollback`, after which the workflow raises its failure. -/
def markDestroyedAfterRollback (s : System) (w : ℕ) : Except Failure System := do
  let (worker, job) ← s.workerJob false w
  ensure .notEnabled (worker.phase = .rolledBack)
  let (d, _) ← need .notEnabled (s.deploymentOf job)
  .ok ({ s.updateDeployment job (fun _ => true) (Deployment.retire s.now) with
    vms := retireInventory s.vms d, resources := retireInventory s.resources d }.putWorker w
    { worker with rollbackDestroyed := true, phase := .finishing .failed })

/-- The places from which an exception reaches the handlers of the worker. -/
def WorkerPhase.inProgress : WorkerPhase → Bool
  | .starting | .body | .mutating _ | .aborted | .rolledBack => true
  | _ => false

/-- The body ends: with a failure from anywhere, successfully behind a last check. -/
def finishBody (s : System) (w : ℕ) (successful : Bool) : Except Failure System := do
  let worker ← need .notEnabled (s.workers.find? w)
  ensure .notEnabled (!worker.day2 && if successful then worker.phase = .body && worker.cleared
    else worker.phase.inProgress)
  .ok (s.putWorker w
    { worker with phase := .finishing (if successful then .successful else .failed) })

/-- The worker process dies, or ends after a failed transaction. -/
def crashWorker (s : System) (w : ℕ) : Except Failure System := do
  let _ ← need .notEnabled (s.workers.find? w)
  .ok (s.endWorker w)

/-! ### The final transaction -/

/-- The quota side of the final transaction. -/
def settleOutcome (l : Ledger) (id : ℕ) (job : Job) (worker : Worker) (outcome : Outcome) :
    Except QuotaError Ledger :=
  if outcome = .successful then commitJobReservation l id job.payload.quota
  else if worker.submitted then markJobReservationUncertain l id job.payload.quota
  else releaseJobReservation l id job.payload.quota

/-- `uncertain_terraform_result`. -/
def Worker.uncertainTerraformResult (worker : Worker) (outcome : Outcome) (job : Job) : Bool :=
  outcome ≠ .successful && worker.submitted && job.operation.uncertainTerraform
    && !job.payload.providerApplied

/-- The status of the deployment that the job owned. -/
def Worker.deploymentStatus (worker : Worker) (outcome : Outcome) (job : Job)
    (deployment : Deployment) : DeploymentStatus :=
  if job.operation = .terraformPlan then
    if job.previousStatus deployment = .reconciliationRequired ∧ outcome = .successful
    then .successful else job.previousStatus deployment
  else if job.operation = .terraformImport ∧ outcome = .successful then .imported
  else if worker.rollbackDestroyed then .destroyed
  else if worker.uncertainTerraformResult outcome job then .reconciliationRequired
  else if outcome = .successful ∧ job.operation.destroys then .destroyed
  else outcome.status.toDeployment

/-- The job gives its deployment up. -/
def Worker.leave (worker : Worker) (outcome : Outcome) (job : Job) (deployment : Deployment) :
    Deployment :=
  deployment.leave (worker.deploymentStatus outcome job deployment)

/-- The job asks for its machine to be destroyed after a failure. -/
def Worker.wantsRecovery (worker : Worker) (outcome : Outcome) (job : Job) : Bool :=
  outcome = .failed && job.operation.provisioning && job.source ≠ .recovery
    && job.payload.blueprint.any (·.destroyOnFailure) && !worker.rollbackDestroyed

/-- The recovery job of a failed job. -/
def recoveryJob (id d : ℕ) (job : Job) (deployment : Deployment) : Job :=
  { deploymentId := some d
    operation := if job.operation = .proxmoxProvision then .proxmoxDestroy else .terraformDestroy
    scope := deployment.scope
    payload := { previousStatus := some .failed, recoveryOf := some id }
    source := .recovery }

/-- The part of the final transaction that concerns a deployment the job owned. -/
def finishDeployment (s : System) (id d : ℕ) (deployment : Deployment) (worker : Worker)
    (outcome : Outcome) (job : Job) (recoveryId : ℕ) : Except Failure System :=
  let left := worker.leave outcome job deployment
  if left.status = .destroyed then do
    let l ← ofQuota
      (if worker.rollbackDestroyed ∨ job.source = .recovery then
        accountConfirmedAbsent s.ledger (deployment.subject d) ("confirmed-absent:" ++ toString id)
      else .ok s.ledger)
    .ok { (s.withLedger l).putDeployment d (left.retire s.now) with
      vms := retireInventory s.vms d, resources := retireInventory s.resources d }
  else if worker.wantsRecovery outcome job then do
    ensure .notEnabled (s.freshJobId recoveryId)
    let recovery := recoveryJob id d job deployment
    let (tag, l) ← ofQuota (prepareJobReservation s.ledger (recovery.ref recoveryId)
      (some (deployment.shape d)) recovery.payload.quota)
    .ok (((s.withLedger l).putJob recoveryId (recovery.withQuota tag)).putDeployment d
      (left.occupy recoveryId .recoveryQueued))
  else .ok (s.putDeployment d left)

/-- The error text that a worker leaves on its job. -/
def Outcome.error (message : String) : Outcome → Option String
  | .successful => none
  | .failed => some message
  | .cancelled => some "Cancellation requested; inspect deployment state before retrying"

/-- The deployment that a job owns. -/
def System.ownedDeployment (s : System) (id : ℕ) (job : Job) : Option (ℕ × Deployment) :=
  (s.deploymentOf job).filter fun d => d.2.activeJobId = some id

/-- The job row after the final transaction. -/
def Job.finish (outcome : Outcome) (message : String) (job : Job) : Job :=
  { job with status := outcome.status, error := outcome.error message }

/-- The final transaction of `_execute_unfenced`.  It writes the status whatever the
row says by then; if the commit of the reservation fails, all of it is rolled back. -/
def finalizeJob (s : System) (w recoveryId : ℕ) (message : String) : Except Failure System := do
  let (worker, job) ← s.workerJob false w
  match worker.phase with
  | .finishing outcome => do
      let l ← ofQuota (settleOutcome s.ledger worker.jobId job worker outcome)
      let s' := ((s.withLedger l).putJob worker.jobId (job.finish outcome message)).endWorker w
      match s.ownedDeployment worker.jobId job with
      | none => .ok s'
      | some (d, deployment) =>
        finishDeployment s' worker.jobId d deployment worker outcome job recoveryId
  | _ => .error .notEnabled

end CloudPortal
