/-
CloudPortal/Jobs/Api.lean

The requests that create, approve and cancel jobs (`app/api/infrastructure.py`,
`app/jobs/approval.py`), the scheduler that creates them from due schedules
(`app/operations/service.py`), the requests of the inventory that settle
quota (`app/api/inventory.py`) and the quarantine after a restore
(`app/instance_backup/restore.py`).

A request stands for one that passed the permission checks and the policy
engine; what the policy engine answers (approval effects, whether the actor may
approve a stage) and the effective approval settings are inputs.
-/
import CloudPortal.Jobs.Model

namespace CloudPortal

open RowStore

/-! ### The approval gate -/

/-- `blueprint_snapshot`: the snapshot of the job, else that of its deployment. -/
def blueprintSnapshot (payload : Payload) (deployment : Option Deployment) : Option Blueprint :=
  payload.blueprint <|> deployment.bind (·.blueprint)

/-- `policy_approval_stages`. -/
def policyApprovalStages (payload : Payload) (deployment : Option Deployment) :
    List ApprovalStage :=
  policyApprovalStagesFromEffects
    (payload.policy ++ ((blueprintSnapshot payload deployment).map (·.policyApprovals)).getD [])

/-- `max(1, min(720, hours))`. -/
def clampHours (hours : ℤ) : ℕ := (max 1 (min 720 hours)).toNat

/-- `_approval_timeout`. -/
def approvalTimeout (config : ApprovalPolicy) (stage : ApprovalStage) : ℕ :=
  match stage.timeoutHours with
  | some hours => clampHours hours
  | none => config.timeoutHours

/-- The moment `hours` from now. -/
def hoursFrom (now hours : ℕ) : ℕ := now + hours * 3600

/-- `gate_job_for_approval`. -/
def gateJobForApproval (now : ℕ) (config : ApprovalPolicy) (job : Job)
    (deployment : Option Deployment) : Job :=
  match policyApprovalStages job.payload deployment, blueprintSnapshot job.payload deployment with
  | [], blueprint =>
    if !(job.operation.provisioning && blueprint.any (·.requiresApproval)) then job
    else if job.payload.resumeAfterProviderApply then job
    else if config.autoApprove then
      { job with payload := { job.payload with
          approvalPolicy := some config
          approval := some { status := .approved } } }
    else if blueprint.any (·.approvalStep) then
      -- the approval comes later, at the step of the workflow
      { job with payload := { job.payload with
          approvalPolicy := some config
          approval := some { status := .pending } } }
    else
      { job with
        status := .waitingApproval
        payload := { job.payload with
          approvalPolicy := some config
          approval := some
            { status := .pending, expiresAt := some (hoursFrom now config.timeoutHours) } } }
  | stage :: stages, _ =>
    if job.payload.resumeAfterProviderApply then job
    else
      { job with
        status := .waitingApproval
        payload := { job.payload with
          approvalPolicy := some { config with autoApprove := false }
          policyApproval := some { stages := stage :: stages }
          approval := some
            { status := .pending
              expiresAt := some (hoursFrom now (approvalTimeout config stage))
              stage := some 0 } } }

/-- Why an actor may not approve a stage. -/
def ApprovalStage.refusal (stage : ApprovalStage) : String :=
  if stage.approver = [.apmidOwner] then
    "APMID owner approval cannot be resolved until an APMID owner is configured"
  else "Current user is not an allowed approver for this policy stage"

/-- `approve_policy_stage`: the new state and whether it is complete, or `none` if
the approval is not driven by a policy. -/
def approvePolicyStage (state : Option PolicyApproval) (approves : Bool) :
    Except Failure (Option (PolicyApproval × Bool)) :=
  match state with
  | none => .ok none
  | some state =>
    if state.stages = [] then .ok none
    else if state.stages.length ≤ state.currentStage then .ok (some (state, true))
    else if !approves then
      .error (.http 403 ((state.stages[state.currentStage]?.map (·.refusal)).getD ""))
    else
      let complete : Bool := state.stages.length ≤ state.currentStage + 1
      .ok (some ({ state with
        approvals := state.approvals ++ [state.currentStage]
        currentStage := state.currentStage + 1
        complete := complete }, complete))

/-- A request whose window is over. -/
def expired (now : ℕ) (expiresAt : Option ℕ) : Bool := expiresAt.any fun t => t ≤ now

/-! ### New jobs -/

/-- A job id is a fresh UUID. -/
def System.freshJobId (s : System) (id : ℕ) : Bool := id < 2 ^ 128 && (s.jobs.find? id).isNone

/-- The quota admission of a job, at its creation only if it is not gated. -/
def admitJob (l : Ledger) (id : ℕ) (job : Job) (deployment : Option (ℕ × Deployment)) :
    Except QuotaError (QuotaTag × Ledger) :=
  if job.status = .queued then
    prepareJobReservation l (job.ref id) (deployment.map fun d => d.2.shape d.1) job.payload.quota
  else .ok (job.payload.quota, l)

/-- The job with new quota keys in its payload. -/
def Job.withQuota (job : Job) (tag : QuotaTag) : Job :=
  { job with payload := { job.payload with quota := tag } }

/-- The deployment gets a new active job. -/
def Deployment.occupy (id : ℕ) (status : DeploymentStatus) (deployment : Deployment) : Deployment :=
  { deployment with activeJobId := some id, status := status }

/-- Write a new job and make it the active job of its deployment. -/
def System.enqueue (s : System) (id : ℕ) (job : Job) (deployment : Option (ℕ × Deployment)) :
    System :=
  match deployment with
  | none => s.putJob id job
  | some (d, deployment) =>
    (s.putJob id job).putDeployment d (deployment.occupy id job.status.toDeployment)

/-- The last part of `new_job`: gate the new job and admit it. -/
def insertJob (s : System) (id : ℕ) (config : ApprovalPolicy) (job : Job)
    (deployment : Option (ℕ × Deployment)) : Except Failure System := do
  ensure .notEnabled (s.freshJobId id)
  let gated := gateJobForApproval s.now config job (deployment.map Prod.snd)
  let (tag, l) ← ofQuota (admitJob s.ledger id gated deployment)
  .ok ((s.withLedger l).enqueue id (gated.withQuota tag) deployment)

/-- The refusals of `new_job` that depend on the deployment. -/
def admitOperation (deployment : Deployment) (operation : Operation) : Except Failure Unit := do
  ensure (.http 409 ("Deployment requires Terraform reconciliation; " ++
      "run terraform.plan successfully before mutating it"))
    (deployment.status ≠ .reconciliationRequired || operation = .terraformPlan)
  ensure (.http 409 "Deployment is busy or destroyed")
    (deployment.activeJobId.isNone && deployment.status ≠ .destroyed)
  ensure (.http 409 "Deployment allocations were released; execute the Blueprint again")
    (!(operation.provisioning && deployment.hasReleasedAllocations))
  ensure (.http 409 "Adopted deployment is plan-only; terraform.apply is disabled")
    (!(operation = .terraformApply && deployment.planOnly))

/-- The arguments of `new_job`, with the answer of the policy engine and the
effective approval settings. -/
structure JobRequest where
  id : ℕ
  operation : Operation
  deploymentId : Option ℕ
  scope : Scope
  payload : Option Payload := none
  approvals : List ApprovalEffect := []
  config : ApprovalPolicy

/-- The payload of a new job: the one given, else the workflow of the deployment. -/
def JobRequest.jobPayload (r : JobRequest) (deployment : Option Deployment) : Payload :=
  let payload := r.payload.getD
    (if r.operation.provisioning then { blueprint := deployment.bind (·.blueprint) } else {})
  { payload with
    policy := payload.policy ++ r.approvals
    previousStatus := (deployment.map (·.status)) <|> payload.previousStatus }

/-- The job that `new_job` makes of a request, before the approval gate. -/
def JobRequest.draft (r : JobRequest) (place : Option (ℕ × Deployment)) : Job :=
  { deploymentId := place.map (·.1), operation := r.operation
    scope := (place.map (·.2.scope)).getD r.scope, payload := r.jobPayload (place.map (·.2)) }

/-- `new_job`. -/
def newJob (s : System) (r : JobRequest) : Except Failure System :=
  match r.deploymentId with
  | none =>
    insertJob s r.id r.config
      { deploymentId := none, operation := r.operation, scope := r.scope,
        payload := r.jobPayload none } none
  | some d => do
      let deployment ← need (.http 404 "Deployment not found") (s.deployments.find? d)
      admitOperation deployment r.operation
      insertJob s r.id r.config
        { deploymentId := some d, operation := r.operation, scope := deployment.scope,
          payload := r.jobPayload (some deployment) } (some (d, deployment))

/-- What a caller of `new_job` may put into the payload. -/
structure JobInput where
  id : ℕ
  operation : Operation
  deploymentId : Option ℕ
  scope : Scope
  blueprint : Option Blueprint := none
  policy : List ApprovalEffect := []
  dimensions : Option Mapping := none
  approvals : List ApprovalEffect := []
  config : ApprovalPolicy

/-- The payload a caller passes; an empty one counts as none. -/
def JobInput.payload (input : JobInput) : Option Payload :=
  if input.blueprint = none ∧ input.policy = [] ∧ input.dimensions = none then none
  else some
    { blueprint := input.blueprint
      policy := input.policy
      quota := { dimensions := input.dimensions } }

def JobInput.request (input : JobInput) : JobRequest :=
  { id := input.id, operation := input.operation, deploymentId := input.deploymentId,
    scope := input.scope, payload := input.payload, approvals := input.approvals,
    config := input.config }

/-- The validation of `JobInput`: only Ansible jobs have no deployment. -/
def JobInput.valid (input : JobInput) : Bool :=
  match input.operation with
  | .ansibleExecute => input.deploymentId.isNone
  | .terraformPlan | .terraformApply | .terraformDestroy | .terraformImport => input.deploymentId.isSome
  | .proxmoxProvision | .proxmoxDestroy => input.deploymentId.isSome
  | _ => false

/-- `create_job`, `destroy_deployment` and `recreate_deployment`. -/
def createJob (s : System) (input : JobInput) : Except Failure System := do
  ensure (.http 422 "Terraform requires a deployment ID") input.valid
  newJob s input.request

/-- A new deployment row. -/
structure DeploymentInput where
  id : ℕ
  scope : Scope
  provider : ProviderKind
  capacity : CapacityVariables
  planOnly : Bool := false
  blueprint : Option Blueprint := none
  addresses : ℕ := 0

def DeploymentInput.row (input : DeploymentInput) : Deployment :=
  { scope := input.scope, provider := input.provider, capacity := input.capacity,
    planOnly := input.planOnly, blueprint := input.blueprint,
    addresses := List.replicate input.addresses .assigned }

/-- The first job of a deployment provisions or imports its machine. -/
def Operation.opensDeployment : Operation → Bool
  | .terraformApply | .terraformImport | .proxmoxProvision => true
  | _ => false

/-- `create_deployment`, `execute_blueprint` and the adoption of a machine: a
deployment and its first job. -/
def createDeployment (s : System) (deployment : DeploymentInput) (input : JobInput) :
    Except Failure System := do
  ensure .notEnabled
    ((s.deployments.find? deployment.id).isNone && input.operation.opensDeployment)
  newJob (s.putDeployment deployment.id deployment.row)
    { input.request with deploymentId := some deployment.id }

/-- The keys that `retry_job` and `accept_awx_onboarding` drop from a payload. -/
def Payload.dropExecution (payload : Payload) : Payload :=
  { payload with
    approval := none
    workflowApproval := none
    providerWait := none
    stateRecovery := none
    autoResume := none
    quota := { payload.quota with checked := false, reservationId := none } }

/-- The provider mutation of a job is on record. -/
def Job.providerCheckpointed (job : Job) : Bool :=
  job.payload.providerApplied || (job.operation = .proxmoxProvision && job.payload.proxmoxRuntime)

/-- The payload of a retry: it resumes behind a recorded mutation, else starts again. -/
def Job.retryPayload (job : Job) : Payload :=
  if job.operation.provisioning && job.providerCheckpointed then
    { job.payload.dropExecution with resumeAfterProviderApply := true }
  else
    { job.payload.dropExecution with
      resumeAfterProviderApply := false
      workflowRuntime := none
      proxmoxRuntime := job.payload.proxmoxRuntime && job.operation ≠ .proxmoxProvision }

/-- `retry_job`. -/
def retryJob (s : System) (original id : ℕ) (approvals : List ApprovalEffect)
    (config : ApprovalPolicy) : Except Failure System := do
  let job ← need (.http 404 "Job not found") (s.jobs.find? original)
  ensure (.http 409 "Only failed or cancelled jobs can be retried")
    (job.status = .failed || job.status = .cancelled)
  newJob s
    { id := id, operation := job.operation, deploymentId := job.deploymentId, scope := job.scope,
      payload := some job.retryPayload, approvals := approvals, config := config }

/-- `accept_awx_onboarding`; that the job stopped on the AWX step of its Blueprint
is left to the caller. -/
def acceptAwxOnboarding (s : System) (original id : ℕ) (approvals : List ApprovalEffect)
    (config : ApprovalPolicy) : Except Failure System := do
  let job ← need (.http 404 "Job not found") (s.jobs.find? original)
  ensure (.http 409 "Only a failed AWX onboarding job can be accepted manually")
    (job.status = .failed)
  ensure (.http 409 "Manual AWX onboarding acceptance requires a Blueprint provisioning job")
    (job.operation.provisioning && job.deploymentId.isSome)
  let (_, deployment) ← need (.http 404 "Deployment not found") (s.deploymentOf job)
  ensure (.http 409 "Deployment is busy") deployment.activeJobId.isNone
  ensure (.http 409 "Deployment cannot resume AWX onboarding in its current state")
    (deployment.status ≠ .destroyed && deployment.status ≠ .reconciliationRequired)
  ensure (.http 409 ("AWX onboarding can be accepted manually only after Terraform apply and " ++
      "inventory synchronization"))
    (job.payload.providerApplied && job.payload.inventorySynced)
  ensure (.http 409 "Managed VM is not active; manual AWX onboarding acceptance is unsafe")
    (job.deploymentId.any fun d => s.vms.find? d = some .active)
  newJob s
    { id := id, operation := job.operation, deploymentId := job.deploymentId, scope := job.scope,
      payload := some job.payload.dropExecution, approvals := approvals, config := config }

/-- `queue_blueprint_delete`. -/
def queueBlueprintDelete (s : System) (id : ℕ) (scope : Scope) : Except Failure System := do
  ensure .notEnabled (s.freshJobId id)
  .ok (s.putJob id
    { deploymentId := none, operation := .blueprintDelete, scope := scope, payload := {} })

/-! ### Approval and cancellation -/

/-- An approved job goes through quota admission and is queued. -/
def requeue (s : System) (id : ℕ) (job : Job) : Except Failure System := do
  let (tag, l) ← ofQuota (prepareJobReservation s.ledger (job.ref id)
    ((s.deploymentOf job).map fun d => d.2.shape d.1) job.payload.quota)
  .ok (((s.withLedger l).putJob id { job.withQuota tag with status := .queued }).updateOwned id job
    fun deployment => { deployment with status := .queued })

/-- `approve_job` for a job that paused at an approval step of its workflow. -/
def approveWorkflowStep (s : System) (id : ℕ) (job : Job) (approval : WorkflowApproval) :
    Except Failure System := do
  ensure (.http 409 "Workflow approval request has expired") (!expired s.now approval.expiresAt)
  ensure (.http 409 "Workflow approval step is missing") (approval.stepId ≠ "")
  ensure (.http 409 "Terraform plan changed after the approval request was created")
    (approval.planSha256.all fun expected =>
      expected = "" || job.payload.workflowRuntime.bind (·.planSha256) = some expected)
  requeue s id { job with payload := { job.payload with
    workflowApproval := some { approval with status := .approved } } }

/-- The hours for the next stage in `approve_job`. -/
def nextStageHours (payload : Payload) (stage : Option ApprovalStage) : ℕ :=
  clampHours (orDefault (stage.bind (·.timeoutHours))
    (orDefault (payload.approvalPolicy.map fun config => (config.timeoutHours : ℤ)) 48))

/-- One more stage of a policy approval is done and others remain. -/
def Job.awaitNextStage (now : ℕ) (state : PolicyApproval) (job : Job) : Job :=
  { job with payload := { job.payload with
      policyApproval := some state
      approval := some
        { status := .pending
          expiresAt := some (hoursFrom now
            (nextStageHours job.payload state.stages[state.currentStage]?))
          stage := some state.currentStage } } }

/-- The last approval is given. -/
def Job.approve (state : Option PolicyApproval) (job : Job) : Job :=
  { job with payload := { job.payload with
      policyApproval := state
      approval := some { (job.payload.approval.getD { status := .pending }) with
        status := .approved } } }

/-- `approve_job` for a job that waits for its execution to be approved. -/
def approveExecution (s : System) (id : ℕ) (job : Job) (approves : Bool) :
    Except Failure System := do
  ensure (.http 409 "Approval request has expired")
    (!expired s.now (job.payload.approval.bind (·.expiresAt)))
  match ← approvePolicyStage job.payload.policyApproval approves with
  | some (state, false) => .ok (s.putJob id (job.awaitNextStage s.now state))
  | some (state, true) => requeue s id (job.approve (some state))
  | none => requeue s id (job.approve job.payload.policyApproval)

/-- `approve_job`; `approves` says whether the actor may approve the current stage. -/
def approveJob (s : System) (id : ℕ) (approves : Bool) : Except Failure System := do
  let job ← need (.http 404 "Job not found") (s.jobs.find? id)
  ensure (.http 409 "Job is not waiting for approval") (job.status = .waitingApproval)
  ensure (.http 409 "Job does not require approval")
    (job.payload.blueprint.any (·.requiresApproval)
      || job.payload.policyApproval.any (fun state => !state.stages.isEmpty))
  match job.payload.workflowApproval.filter (·.status = .pending) with
  | some approval => approveWorkflowStep s id job approval
  | none => approveExecution s id job approves

/-- The status a deployment returns to when a job ends that only looked at it. -/
def Job.previousStatus (job : Job) (deployment : Deployment) : DeploymentStatus :=
  job.payload.previousStatus.getD deployment.status

/-- What becomes of a deployment whose job is cancelled before its execution. -/
def Deployment.cancelEarly (job : Job) (deployment : Deployment) : Deployment :=
  if job.operation = .terraformPlan then deployment.leave (job.previousStatus deployment)
  else (deployment.leave .cancelled).releaseAddresses

/-- `cancel_job`. -/
def cancelJob (s : System) (id : ℕ) : Except Failure System := do
  let job ← need (.http 404 "Job not found") (s.jobs.find? id)
  ensure (.http 409 "Job already finished") (!job.status.terminal)
  if job.cancelRequested ∧ job.status = .cancelling then .ok s
  else if job.status = .queued ∨ job.status = .waitingApproval then do
    let l ← ofQuota (releaseJobReservation s.ledger id job.payload.quota)
    .ok (((s.withLedger l).putJob id
      { job with
        status := .cancelled, cancelRequested := true,
        error := some "Cancellation requested before execution" }).updateOwned id job
        (Deployment.cancelEarly job))
  else
    .ok ((s.putJob id { job with status := .cancelling, cancelRequested := true }).updateOwned id job
      fun deployment => { deployment with status := .cancelling })

/-! ### The scheduler -/

/-- A schedule that is due. -/
structure Schedule where
  deploymentId : ℕ
  operation : Operation
  approvals : List ApprovalEffect := []
  config : ApprovalPolicy

/-- The operations that can be scheduled. -/
def Operation.schedulable : Operation → Bool
  | .terraformPlan | .terraformApply | .terraformDestroy => true
  | _ => false

/-- The payload of a scheduled job. -/
def Schedule.payload (schedule : Schedule) (deployment : Deployment) : Payload :=
  { blueprint := if schedule.operation = .terraformApply then deployment.blueprint else none
    policy := schedule.approvals
    previousStatus := some deployment.status }

/-- The job of a schedule, before the approval gate. -/
def Schedule.draft (schedule : Schedule) (deployment : Deployment) : Job :=
  { deploymentId := some schedule.deploymentId, operation := schedule.operation
    scope := deployment.scope, payload := schedule.payload deployment, source := .scheduler }

/-- The job of a schedule, gated like any other job. -/
def Schedule.job (schedule : Schedule) (now : ℕ) (deployment : Deployment) : Job :=
  gateJobForApproval now schedule.config
    { deploymentId := some schedule.deploymentId, operation := schedule.operation,
      scope := deployment.scope, payload := schedule.payload deployment, source := .scheduler }
    (some deployment)

/-- `materialize_scheduled_jobs` for one due schedule.  A schedule that is refused
is switched off or postponed, which changes none of the rows kept here. -/
def materializeScheduledJob (s : System) (id : ℕ) (schedule : Schedule) : Except Failure System := do
  let deployment ← need (.execution "Deployment no longer exists")
    (s.deployments.find? schedule.deploymentId)
  ensure (.execution "Deployment is already destroyed") (deployment.status ≠ .destroyed)
  ensure (.execution "Deployment allocations were released; execute the Blueprint again")
    (!(schedule.operation = .terraformApply && deployment.hasReleasedAllocations))
  ensure (.execution "Adopted deployment is plan-only; terraform.apply is disabled")
    (!(schedule.operation = .terraformApply && deployment.planOnly))
  ensure (.execution "Deployment is busy; scheduled operation postponed")
    deployment.activeJobId.isNone
  ensure .notEnabled (s.freshJobId id && schedule.operation.schedulable)
  let job := schedule.job s.now deployment
  match admitJob s.ledger id job (some (schedule.deploymentId, deployment)) with
  | .ok (tag, l) =>
    .ok ((s.withLedger l).enqueue id (job.withQuota tag) (some (schedule.deploymentId, deployment)))
  | .error _ =>
    -- the savepoint is rolled back and the job stays behind as failed
    .ok ((s.putJob id
      { job with
        status := .failed, error := some "Scheduled operation rejected by quota policy" }).putDeployment
      schedule.deploymentId (deployment.leave deployment.status))

/-! ### Inventory and restore -/

/-- `reconcile_vm`, also what a provider synchronization does with each row:
record whether the machine of a deployment was found, and settle its quota. -/
def reconcileVm (s : System) (d : ℕ) (present : Bool) : Except Failure System := do
  let lifecycle ← need (.http 404 "VM not found") (s.vms.find? d)
  let deployment ← need .notEnabled (s.deployments.find? d)
  let l ← ofQuota (reconcileTerraformPresence s.ledger deployment.scope d present)
  .ok { s.withLedger l with
    vms := s.vms.put d
      (if present then .active else if lifecycle = .destroyed then .destroyed else .missing) }

/-- `remove_confirmed_missing_vm`. -/
def removeConfirmedMissingVm (s : System) (d : ℕ) (purge : Bool) : Except Failure System := do
  let _ ← need (.http 404 "VM not found") (s.vms.find? d)
  let deployment ← need .notEnabled (s.deployments.find? d)
  ensure (.http 409 "Cannot remove a missing VM while its deployment has an active job")
    deployment.activeJobId.isNone
  let l₁ ← ofQuota (reconcileTerraformPresence s.ledger deployment.scope d false)
  let l₂ ← ofQuota (accountConfirmedAbsent l₁ (deployment.subject d)
    ("inventory-missing-purge:" ++ toString d))
  .ok { (s.withLedger l₂).putDeployment d
      { (deployment.leave .destroyed).releaseAddresses with
        destroyedAt := deployment.destroyedAt <|> some s.now } with
    vms := if purge then s.vms.erase d else s.vms.put d .destroyed
    resources := if purge then s.resources.erase d else retireInventory s.resources d }

/-- `release_hostname` and the release of an IP allocation (`app/api/ipam.py`): an operator
releases the `i`-th allocation of a deployment.  Nobody asks what the deployment is doing. -/
def releaseAddress (s : System) (d i : ℕ) (hostname : Bool) : Except Failure System := do
  let deployment ← need (.http 404 "Resource not found") (s.deployments.find? d)
  let status ← need (.http 404 "Resource not found") deployment.addresses[i]?
  ensure (.http 409 (if hostname then "Hostname is already released"
    else "Address is already released")) (status ≠ .released)
  .ok (s.putDeployment d (deployment.releaseAddress i))

/-- The Day-2 request of a job. -/
def System.requestOfJob (s : System) (id : ℕ) : Option (ℕ × ActionRequest) :=
  s.requests.rows.find? fun row => row.2.jobId = id

/-- A request whose job was quarantined. -/
def ActionRequest.quarantine (request : ActionRequest) : ActionRequest :=
  { request with
    status := .failed
    reconciliationRequired := true
    approvalState := if request.approvalState = .pending then .cancelled else request.approvalState }

/-- `_quarantine_restored_execution` for one job. -/
def quarantineJob (s : System) (id : ℕ) : Except Failure System := do
  let job ← need .notEnabled (s.jobs.find? id)
  ensure .notEnabled (!job.status.terminal)
  let l ← ofQuota (markJobReservationUncertain s.ledger id job.payload.quota)
  .ok { ((s.withLedger l).putJob id
      { job with
        status := .failed, heartbeatAt := some s.now,
        error := some ("Restored nonterminal job quarantined. Reconcile provider state before " ++
          "retrying or creating another mutating operation.") }).updateOwned id job
        (Deployment.leave .reconciliationRequired) with
    requests :=
      match s.requestOfJob id with
      | some (r, request) => s.requests.put r request.quarantine
      | none => s.requests }

end CloudPortal
