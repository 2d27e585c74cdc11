/-
CloudPortal/Jobs/Model.lean

The rows of the job system and the state they make up: deployments, jobs with
their payloads, the inventory, Day-2 requests with their resource locks, the
quota ledger, and the workers that execute jobs outside of any transaction.

Every writer of a job row touches `updated_at` (`onupdate=now` in
`app/models.py`), so rows are written through `System.putJob`.  Most of
them write the deployment of the job only while the job is its active job; that
pattern is `System.updateOwned`.
-/
import CloudPortal.Policy.Effects
import CloudPortal.Quota.Prepare

namespace CloudPortal

open RowStore

/-! ### Statuses -/

/-- `Job.status`. -/
inductive JobStatus
  | waitingApproval | queued | running | cancelling | successful | failed | cancelled
  deriving DecidableEq, Repr

/-- The statuses in which a job has ended. -/
def JobStatus.terminal : JobStatus → Bool
  | .successful | .failed | .cancelled => true
  | _ => false

/-- The statuses of a job that waits for its worker or has one. -/
def JobStatus.live : JobStatus → Bool
  | .queued | .running => true
  | _ => false

/-- The statuses of a job that waits for a worker or for an approval. -/
def JobStatus.waiting : JobStatus → Bool
  | .queued | .waitingApproval => true
  | _ => false

/-- `Deployment.status`. -/
inductive DeploymentStatus
  | queued | running | waitingApproval | waitingProvider | recoveryQueued | cancelling
  | successful | failed | cancelled | destroyed | imported | reconciliationRequired
  deriving DecidableEq, Repr

/-- `deployment.status = job.status`. -/
def JobStatus.toDeployment : JobStatus → DeploymentStatus
  | .waitingApproval => .waitingApproval
  | .queued => .queued
  | .running => .running
  | .cancelling => .cancelling
  | .successful => .successful
  | .failed => .failed
  | .cancelled => .cancelled

/-- `Job.source`; every request through the API counts as `api`. -/
inductive JobSource
  | api | scheduler | recovery
  deriving DecidableEq, Repr

/-- `lifecycle_status` of an inventory row. -/
inductive Lifecycle
  | active | missing | destroyed | purged
  deriving DecidableEq, Repr

/-- The inventory row of a deployment, if there is one, is marked as destroyed. -/
def retireInventory (rows : Table ℕ Lifecycle) (d : ℕ) : Table ℕ Lifecycle :=
  if (rows.find? d).isSome then rows.put d .destroyed else rows

/-- The status of a hostname reservation or an IP allocation. -/
inductive AddressStatus
  | reserved | assigned | released
  deriving DecidableEq, Repr

/-- The operations of jobs that provision machines. -/
def Operation.provisioning : Operation → Bool
  | .terraformApply | .proxmoxProvision => true
  | _ => false

/-- The operations that a worker has the policy engine evaluate again. -/
def Operation.revalidated : Operation → Bool
  | .terraformPlan | .terraformApply | .terraformDestroy | .terraformImport => true
  | .proxmoxProvision | .proxmoxDestroy | .ansibleExecute => true
  | _ => false

/-- The Terraform operations after which the provider may be left half changed. -/
def Operation.uncertainTerraform : Operation → Bool
  | .terraformApply | .terraformDestroy | .terraformImport => true
  | _ => false

/-! ### Payloads -/

/-- The part of a Blueprint snapshot that the job system reads. -/
structure Blueprint where
  id : ℕ := 0
  requiresApproval : Bool := false
  approvalStep : Bool := false
  destroyOnFailure : Bool := false
  policyApprovals : List ApprovalEffect := []
  deriving DecidableEq, Repr

/-- The effective approval settings, `_approval_policy` once they are in a payload. -/
structure ApprovalPolicy where
  autoApprove : Bool
  timeoutHours : ℕ
  deriving DecidableEq, Repr

inductive ApprovalState
  | pending | approved
  deriving DecidableEq, Repr

/-- `_approval`. -/
structure Approval where
  status : ApprovalState
  expiresAt : Option ℕ := none
  stage : Option ℕ := none
  deriving DecidableEq, Repr

/-- `_workflow_approval`: the approval step of a Blueprint at which the job paused. -/
structure WorkflowApproval where
  status : ApprovalState
  stepId : String
  expiresAt : Option ℕ
  planSha256 : Option String
  deriving DecidableEq, Repr

/-- `_policy_approval`. -/
structure PolicyApproval where
  stages : List ApprovalStage
  currentStage : ℕ := 0
  complete : Bool := false
  approvals : List ℕ := []
  stageExpiresAt : Option ℕ := none
  deriving DecidableEq, Repr

/-- `_workflow_runtime`: the checkpoint of a Blueprint workflow. -/
structure WorkflowRuntime where
  providerApplied : Bool
  inventorySynced : Bool
  planSha256 : Option String := none
  deriving DecidableEq, Repr

/-- `_auto_resume`. -/
structure AutoResume where
  count : ℕ
  fromPersistedState : Bool
  fromJobId : ℕ
  deriving DecidableEq, Repr

/-- `Job.payload`, key by key. -/
structure Payload where
  previousStatus : Option DeploymentStatus := none
  blueprint : Option Blueprint := none
  /-- `_policy.approvals` -/
  policy : List ApprovalEffect := []
  approvalPolicy : Option ApprovalPolicy := none
  policyApproval : Option PolicyApproval := none
  approval : Option Approval := none
  workflowApproval : Option WorkflowApproval := none
  workflowRuntime : Option WorkflowRuntime := none
  /-- a clone in `_proxmox_runtime`; no function of the source writes that key -/
  proxmoxRuntime : Bool := false
  resumeAfterProviderApply : Bool := false
  /-- `_provider_wait.attempts` -/
  providerWait : Option ℕ := none
  /-- `_state_recovery.source_job_id` -/
  stateRecovery : Option ℕ := none
  autoResume : Option AutoResume := none
  recoveryOf : Option ℕ := none
  requestId : Option ℕ := none
  quota : QuotaTag := {}
  deriving DecidableEq, Repr

/-- `payload._approval.status == 'approved'`. -/
def Payload.approved (p : Payload) : Bool := p.approval.any (·.status = .approved)

/-- `payload._workflow_runtime.provider_applied is True`. -/
def Payload.providerApplied (p : Payload) : Bool := p.workflowRuntime.any (·.providerApplied)

/-- `payload._workflow_runtime.inventory_synced is True`. -/
def Payload.inventorySynced (p : Payload) : Bool := p.workflowRuntime.any (·.inventorySynced)

/-! ### Rows -/

structure Job where
  deploymentId : Option ℕ
  operation : Operation
  scope : Scope
  payload : Payload
  status : JobStatus := .queued
  source : JobSource := .api
  cancelRequested : Bool := false
  heartbeatAt : Option ℕ := none
  updatedAt : ℕ := 0
  error : Option String := none
  deriving DecidableEq, Repr

/-- `onupdate=now` -/
@[simps] def Job.touch (now : ℕ) (job : Job) : Job := { job with updatedAt := now }

/-- The columns of a job that quota admission reads. -/
def Job.ref (id : ℕ) (job : Job) : JobRef := ⟨id, job.operation, job.scope⟩

structure Deployment where
  scope : Scope
  provider : ProviderKind
  capacity : CapacityVariables
  planOnly : Bool := false
  blueprint : Option Blueprint := none
  /-- the hostname reservations and IP allocations of the deployment -/
  addresses : List AddressStatus := []
  status : DeploymentStatus := .queued
  activeJobId : Option ℕ := none
  destroyedAt : Option ℕ := none
  deriving DecidableEq, Repr

def Deployment.shape (id : ℕ) (deployment : Deployment) : DeploymentShape :=
  ⟨id, deployment.provider, deployment.capacity⟩

/-- The quota subject of a deployment. -/
def Deployment.subject (id : ℕ) (deployment : Deployment) : Subject :=
  ⟨deployment.scope, .deployment, id⟩

/-- `has_released_allocations`. -/
def Deployment.hasReleasedAllocations (deployment : Deployment) : Bool :=
  deployment.addresses.contains .released

/-- `release_pre_execution_allocations`: what is reserved or assigned is released. -/
def Deployment.releaseAddresses (deployment : Deployment) : Deployment :=
  { deployment with addresses := deployment.addresses.map fun _ => .released }

/-- One of the allocations is released. -/
def Deployment.releaseAddress (i : ℕ) (deployment : Deployment) : Deployment :=
  { deployment with addresses := deployment.addresses.set i .released }

/-- The machine of the deployment is gone. -/
def Deployment.retire (now : ℕ) (deployment : Deployment) : Deployment :=
  { deployment.releaseAddresses with destroyedAt := some now }

/-- Give the deployment up as the active job and set its status. -/
def Deployment.leave (status : DeploymentStatus) (deployment : Deployment) : Deployment :=
  { deployment with activeJobId := none, status := status }

/-- The job is the active job of the deployment. -/
def Deployment.ownedBy (id : ℕ) (deployment : Deployment) : Bool := deployment.activeJobId = some id

/-- `Day2ActionRequest.status`. -/
inductive RequestStatus
  | waitingApproval | queued | running | cancelRequested
  | succeeded | succeededWithWarning | failed | cancelled
  deriving DecidableEq, Repr

def RequestStatus.terminal : RequestStatus → Bool
  | .succeeded | .succeededWithWarning | .failed | .cancelled => true
  | _ => false

/-- `Day2ActionRequest.approval_state`. -/
inductive RequestApproval
  | notRequired | pending | approved | cancelled
  deriving DecidableEq, Repr

structure ActionRequest where
  target : InventoryRef
  action : Day2Kind
  params : Day2Params
  supportsCancel : Bool
  jobId : ℕ
  status : RequestStatus
  approvalState : RequestApproval
  /-- `result.reconciliation_required` -/
  reconciliationRequired : Bool := false
  deriving DecidableEq, Repr

structure ResourceLock where
  requestId : ℕ
  expiresAt : ℕ
  deriving DecidableEq, Repr

/-! ### Workers -/

/-- How a worker ends its job. -/
inductive Outcome
  | successful | failed | cancelled
  deriving DecidableEq, Repr

def Outcome.status : Outcome → JobStatus
  | .successful => .successful
  | .failed => .failed
  | .cancelled => .cancelled

/-- Where a worker is between two of its transactions. -/
inductive WorkerPhase
  /-- the job is claimed; admission and provider availability are still to be checked -/
  | starting
  /-- in the body of the operation, with no provider call in flight -/
  | body
  /-- a provider mutation was submitted; `rollback` says that it undoes the operation -/
  | mutating (rollback : Bool)
  /-- the last provider mutation failed, timed out or was interrupted -/
  | aborted
  /-- the rollback was carried out and is not recorded yet -/
  | rolledBack
  /-- `ApprovalPending` was raised; the release of the reservation is still to come -/
  | paused
  /-- only the final transaction is still to come -/
  | finishing (outcome : Outcome)
  /-- a Day-2 job could not be started; `_fail_before_execution` is still to come -/
  | rejected
  deriving DecidableEq, Repr

/-- A worker process: the `Context` of a job and the place it has reached. -/
structure Worker where
  jobId : ℕ
  phase : WorkerPhase
  /-- the worker runs `app/day2/worker.py` -/
  day2 : Bool := false
  lastCheck : Option ℕ := none
  /-- a check passed since the last provider call, so the next one may be made -/
  cleared : Bool := false
  /-- another provider call follows the last one without a check between them -/
  burst : Bool := false
  /-- `quota_provider_submitted`, in Day-2 workers `provider_submitted` -/
  submitted : Bool := false
  /-- `provider_confirmed` of a Day-2 worker -/
  confirmed : Bool := false
  rollbackDestroyed : Bool := false
  applied : Bool := false
  inventorySynced : Bool := false
  deriving DecidableEq, Repr

/-! ### The state -/

/-- Why a transaction was rolled back. -/
inductive Failure
  | http (status : ℕ) (detail : String)
  | day2 (code : String) (message : String)
  | quota (error : QuotaError)
  | execution (message : String)
  /-- the query selects no such row, or the worker is at another place of its program -/
  | notEnabled
  deriving Repr

/-- The database, the clock in seconds and the worker processes.  A deployment has at most one
row in `managed_vms` and one in `managed_resources`; both tables are keyed by deployment. -/
structure System where
  now : ℕ := 0
  ledger : Ledger
  deployments : Table ℕ Deployment := Table.empty
  jobs : Table ℕ Job := Table.empty
  vms : Table ℕ Lifecycle := Table.empty
  resources : Table ℕ Lifecycle := Table.empty
  requests : Table ℕ ActionRequest := Table.empty
  locks : Table ℕ ResourceLock := Table.empty
  workers : Table ℕ Worker := Table.empty

/-- Fail with a quota error. -/
def ofQuota {α : Type} : Except QuotaError α → Except Failure α
  | .ok a => .ok a
  | .error e => .error (.quota e)

/-- The value of an optional one, or a failure. -/
def need {α : Type} (failure : Failure) : Option α → Except Failure α
  | some a => .ok a
  | none => .error failure

/-- Fail unless a condition holds. -/
def ensure (failure : Failure) (condition : Bool) : Except Failure Unit :=
  if condition then .ok () else .error failure

/-! A computation that ended without a failure passed all of its checks. -/

variable {α β : Type} {f : α → Except Failure β} {b : β} {e : Failure}

theorem need_bind_eq_ok {o : Option α} :
    need e o >>= f = .ok b ↔ ∃ a, o = some a ∧ f a = .ok b := by
  cases o <;> simp [need, bind, Except.bind]

theorem ensure_bind_eq_ok {c : Bool} {f : Unit → Except Failure β} :
    ensure e c >>= f = .ok b ↔ c = true ∧ f () = .ok b := by
  cases c <;> simp [ensure, bind, Except.bind]

theorem ofQuota_bind_eq_ok {x : Except QuotaError α} :
    ofQuota x >>= f = .ok b ↔ ∃ a, x = .ok a ∧ f a = .ok b := by
  cases x <;> simp [ofQuota, bind, Except.bind]

namespace System

/-- Write a job row. -/
def putJob (s : System) (id : ℕ) (job : Job) : System :=
  { s with jobs := s.jobs.put id (job.touch s.now) }

def putDeployment (s : System) (id : ℕ) (deployment : Deployment) : System :=
  { s with deployments := s.deployments.put id deployment }

def putWorker (s : System) (id : ℕ) (worker : Worker) : System :=
  { s with workers := s.workers.put id worker }

/-- A worker process ends. -/
def endWorker (s : System) (id : ℕ) : System := { s with workers := s.workers.erase id }

def withLedger (s : System) (ledger : Ledger) : System := { s with ledger := ledger }

/-- The deployment row of a job. -/
def deploymentOf (s : System) (job : Job) : Option (ℕ × Deployment) :=
  job.deploymentId.bind fun d => (s.deployments.find? d).map fun deployment => (d, deployment)

/-- The deployment row with this id, if a job is to have one. -/
def placeOf (s : System) (deploymentId : Option ℕ) : Option (ℕ × Deployment) :=
  deploymentId.bind fun d => (s.deployments.find? d).map fun deployment => (d, deployment)

/-- Change the deployment of a job if it meets a condition. -/
def updateDeployment (s : System) (job : Job) (condition : Deployment → Bool)
    (f : Deployment → Deployment) : System :=
  { s with deployments :=
      match s.deploymentOf job with
      | some (d, deployment) =>
        if condition deployment then s.deployments.put d (f deployment) else s.deployments
      | none => s.deployments }

/-- Change the deployment of a job if the job is its active job. -/
def updateOwned (s : System) (id : ℕ) (job : Job) (f : Deployment → Deployment) : System :=
  s.updateDeployment job (Deployment.ownedBy id) f

/-- `sync_deployment_inventory`: the resource of a deployment is active, and so is its machine
where the provider is Proxmox. -/
def syncInventory (s : System) (d : ℕ) (deployment : Deployment) : System :=
  { s with
    resources := s.resources.put d .active
    vms := if deployment.provider = .proxmox then s.vms.put d .active else s.vms }

/-- `_active_inventory_exists`. -/
def activeInventoryExists (s : System) (deploymentId : Option ℕ) : Bool :=
  match deploymentId with
  | some d => s.vms.find? d = some .active || s.resources.find? d = some .active
  | none => false

/-! The rows after each of these writes; every other table is as it was. -/

variable (s : System) (id x : ℕ) (job : Job) (f : Deployment → Deployment)

theorem find?_putJob : (s.putJob id job).jobs.find? x
    = if x = id then some (job.touch s.now) else s.jobs.find? x :=
  Table.find?_put ..

theorem deploymentOf_eq_some {d : ℕ} {dep : Deployment} :
    s.deploymentOf job = some (d, dep)
      ↔ job.deploymentId = some d ∧ s.deployments.find? d = some dep := by
  unfold deploymentOf
  cases job.deploymentId with
  | none => simp
  | some e =>
    simp only [Option.bind_some, Option.map_eq_some_iff, Prod.mk.injEq, Option.some.injEq]
    constructor
    · rintro ⟨_, h, rfl, rfl⟩
      exact ⟨rfl, h⟩
    · rintro ⟨rfl, h⟩
      exact ⟨_, h, rfl, rfl⟩

/-- Only the deployment of the job changes, and only if it meets the condition. -/
theorem find?_updateDeployment (cond : Deployment → Bool) :
    (s.updateDeployment job cond f).deployments.find? x = (s.deployments.find? x).map fun dep =>
        if job.deploymentId = some x ∧ cond dep then f dep
        else dep := by
  have ho (h : job.deploymentId ≠ some x ∨ s.deployments.find? x = none) :
      (s.deployments.find? x).map (fun dep =>
        if job.deploymentId = some x ∧ cond dep then f dep else dep)
        = s.deployments.find? x := by
    rcases h with h | h
    · simp [h]
    · simp [h]
  unfold updateDeployment
  dsimp only
  split
  · next d dep hd =>
    obtain ⟨hj, hf⟩ := (s.deploymentOf_eq_some job).1 hd
    by_cases hx : x = d
    · subst hx
      split
      · next hc => simp [hf, hj, hc]
      · next hc => simp [hf, hc]
    · rw [ho (Or.inl fun h => hx (Option.some.inj (h.symm.trans hj)))]
      split
      · exact Table.find?_put_of_ne _ _ hx
      · rfl
  · next hd =>
    refine (ho ?_).symm
    by_contra hnot
    push Not at hnot
    obtain ⟨dep, hf⟩ := Option.ne_none_iff_exists'.1 hnot.2
    have := (s.deploymentOf_eq_some job).2 ⟨hnot.1, hf⟩
    rw [hd] at this
    cases this

end System

end CloudPortal
