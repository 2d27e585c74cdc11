/-
CloudPortal/Execution/Site.lean

What the worker of one deployment works on: the rows of the deployment and its jobs, the
stored copies of the Terraform state and plan, the workspace directory, the machines and
tasks at the provider, and the memory of the worker process.

A `Cmd` is one thing the code of a worker does to this world: a transaction, an access to
a file, the start or the end of a process, a request to the provider, an update of a
variable.  `Site.handle` says what each of them does; the `Input` is what the environment
decides about it (whether it raises, what Terraform writes, which task ends how).  The code
of the worker is written over these commands in the modules that follow.

Every job of the deployment has the `lineage` of the job whose checkpoint it goes on with,
every execution of a job is a numbered `run`, and `events` lists what was submitted and
recorded, the newest first.  These are there for the statements only.

The transactions also write quota, audit and log rows; of those only the exceptions that
they may raise are left here, and whether a reservation of the deployment is uncertain, for which
`retry_job` answers with 409.
-/
import CloudPortal.Lib.Interaction
import CloudPortal.Jobs.Model
import CloudPortal.Workflow.Blueprint

namespace CloudPortal.Execution

open RowStore Interaction

/-! ### Stored bytes -/

abbrev Bytes := List UInt8

/-- What `encrypt_blob` returns: it opens again with the same `aad` only. -/
structure Sealed where
  value : Bytes
  aad : String
  deriving DecidableEq, Repr

def encryptBlob (value : Bytes) (aad : String) : Sealed := ⟨value, aad⟩

def decryptBlob (blob : Sealed) (aad : String) : Option Bytes :=
  if blob.aad = aad then some blob.value else none

/-- `terraform_states`. -/
structure TerraformState where
  encryptedState : Sealed
  stateSha256 : String
  version : ℕ := 1
  deriving DecidableEq, Repr

/-- `terraform_plans`. -/
structure TerraformPlan where
  encryptedPlan : Sealed
  planSha256 : String
  deriving DecidableEq, Repr

/-- `MAX_STATE_BYTES`. -/
def maxStateBytes : ℕ := 64 * 1024 * 1024

/-- The files `terraform.tfstate` and `execution.tfplan` of the workspace. -/
structure Workspace where
  tfstate : Option Bytes := none
  tfplan : Option Bytes := none
  deriving DecidableEq, Repr

/-! ### Workflows in execution -/

/-- The values of `step_states`. -/
inductive StepState
  | completed | skipped | blocked | failed | rollbackOnly
  deriving DecidableEq, Repr

/-- `runtime`, the state of a workflow in the memory of its worker. -/
structure Runtime where
  stepStates : Table String StepState := Table.empty
  /-- `workspace is not None` -/
  workspace : Bool := false
  planReady : Bool := false
  planSha256 : Option String := none
  applied : Bool := false
  inventorySynced : Bool := false
  ansibleRan : Bool := false
  ansibleCompletedRuns : List ℕ := []
  ansibleInflightRun : Option ℕ := none

/-- `_workflow_runtime`, the checkpoint of a workflow. -/
structure WorkflowRuntime where
  completedSteps : List String
  stepStates : Table String StepState
  planReady : Bool
  planSha256 : Option String
  providerApplied : Bool
  inventorySynced : Bool
  ansibleRan : Bool
  ansibleCompletedRuns : List ℕ := []
  ansibleInflightRun : Option ℕ := none

/-- The steps with the state `completed`. -/
def completedOf (states : Table String StepState) : List String :=
  (states.select fun _ state => state = .completed).map Prod.fst

/-- What `persist_workflow_runtime` writes. -/
def Runtime.checkpoint (r : Runtime) : WorkflowRuntime where
  completedSteps := completedOf r.stepStates
  stepStates := r.stepStates
  planReady := r.planReady
  planSha256 := r.planSha256
  providerApplied := r.applied
  inventorySynced := r.inventorySynced
  ansibleRan := r.ansibleRan
  ansibleCompletedRuns := r.ansibleCompletedRuns
  ansibleInflightRun := r.ansibleInflightRun

/-- What `pause_for_approval` writes: nothing about single Ansible runs, and the checksum of the
plan that it read from the workspace. -/
def Runtime.pauseCheckpoint (r : Runtime) (planSha256 : Option String) : WorkflowRuntime where
  completedSteps := completedOf r.stepStates
  stepStates := r.stepStates
  planReady := r.planReady
  planSha256 := planSha256
  providerApplied := r.applied
  inventorySynced := r.inventorySynced
  ansibleRan := r.ansibleRan

/-- `_workflow_approval`. -/
structure WorkflowApproval where
  status : ApprovalState
  stepId : String
  planSha256 : Option String
  approvedPlanSha256 : Option String := none
  deriving DecidableEq, Repr

/-- `_proxmox_provision_runtime`, as far as it is read again. -/
structure ProvisionRuntime where
  cloneUpid : Option ℕ := none
  cloneCompleted : Bool := false
  deriving DecidableEq, Repr

/-- What a call of `_persist` adds to `_proxmox_provision_runtime`. -/
inductive ProvisionChange
  | cloneRequested (upid : ℕ)
  | cloneCompleted
  /-- `configured`, `cloud_init_configured`, `started`, `inventory_synced`: nothing reads them -/
  | noted
  deriving DecidableEq, Repr

def ProvisionRuntime.update (p : ProvisionRuntime) : ProvisionChange → ProvisionRuntime
  | .cloneRequested upid => { p with cloneUpid := some upid }
  | .cloneCompleted => { p with cloneCompleted := true }
  | .noted => p

/-! ### Rows -/

/-- The Blueprint snapshot in the payload of a job. -/
structure Blueprint where
  steps : List WorkflowStep := []
  requiresApproval : Bool := false
  /-- `recovery_policy == 'destroy_on_failure'` -/
  destroyOnFailure : Bool := false
  deriving DecidableEq, Repr

/-- `_auto_resume`. -/
structure AutoResume where
  count : ℕ
  fromPersistedState : Bool
  deriving DecidableEq, Repr

/-- `Job.payload`. -/
structure Payload where
  previousStatus : DeploymentStatus := .failed
  blueprint : Blueprint := {}
  /-- the number of configured Ansible runs -/
  ansibleRuns : ℕ := 0
  force : Bool := false
  workflowRuntime : Option WorkflowRuntime := none
  workflowApproval : Option WorkflowApproval := none
  provisionRuntime : Option ProvisionRuntime := none
  /-- `_state_recovery` with this job as its source -/
  stateRecovery : Bool := false
  autoResume : Option AutoResume := none
  resumeAfterProviderApply : Bool := false

structure Job where
  operation : Operation
  payload : Payload := {}
  status : JobStatus := .queued
  source : JobSource := .api
  retryOf : Option ℕ := none
  /-- the first of the jobs that go on with one another's checkpoints -/
  lineage : ℕ

/-- The variables of a deployment that the worker reads. -/
structure Variables where
  node : String
  vmId : Option ℕ := none
  vmid : Option ℕ := none
  templateNode : Option String := none
  templateId : Option ℕ := none
  deriving DecidableEq, Repr

/-- `variables.get('vm_id') or variables.get('vmid')`; the ids of machines are not zero. -/
def Variables.machineId (v : Variables) : Option ℕ := v.vmId <|> v.vmid

structure Deployment where
  id : String
  vars : Variables
  /-- the Blueprint snapshot and the Ansible runs of `Deployment.workflow` -/
  blueprint : Blueprint := {}
  ansibleRuns : ℕ := 0
  status : DeploymentStatus := .queued
  activeJobId : Option ℕ := none
  /-- an active inventory row exists -/
  inventory : Bool := false
  /-- a quota reservation that awaits reconciliation keeps new ones from being made -/
  uncertain : Bool := false
  deriving DecidableEq, Repr

/-- The job of the deployment has ended. -/
def Deployment.release (status : DeploymentStatus) (d : Deployment) : Deployment :=
  { d with
    activeJobId := none, status := status, inventory := d.inventory && status ≠ .destroyed }

/-- The deployment waits with this job as its active one. -/
def Deployment.await (job : ℕ) (status : DeploymentStatus) (d : Deployment) : Deployment :=
  { d with status := status, activeJobId := some job }

/-- The job of the deployment was approved. -/
def Deployment.requeue (operation : Operation) (d : Deployment) : Deployment :=
  { d with status := .queued, uncertain := d.uncertain && !operation.destroys }

/-- `variables['vm_id'] = vm_id`. -/
def Deployment.withVmId (vmId : ℕ) (d : Deployment) : Deployment :=
  { d with vars := { d.vars with vmId := some vmId } }

/-- A checkpoint of the workflow is stored with the job. -/
def Job.withCheckpoint (checkpoint : WorkflowRuntime) (row : Job) : Job :=
  { row with payload := { row.payload with workflowRuntime := some checkpoint } }

/-- A checkpoint of the direct provisioning is stored with the job. -/
def Job.withProvision (change : ProvisionChange) (row : Job) : Job :=
  { row with payload := { row.payload with
    provisionRuntime := some ((row.payload.provisionRuntime.getD {}).update change) } }

/-- The job waits at an approval step. -/
def Job.pause (stepId : String) (planSha256 : Option String) (row : Job) : Job :=
  { row with
    status := .waitingApproval
    payload := { row.payload with
      workflowApproval := some ⟨.pending, stepId, planSha256, none⟩ } }

/-! ### The provider -/

structure VM where
  node : String
  /-- the clone task of the deployment by which it was made -/
  cloneTask : Option ℕ := none
  running : Bool := false
  deriving DecidableEq, Repr

/-- It was made by a clone request of the deployment. -/
def VM.own (vm : VM) : Bool := vm.cloneTask.isSome

inductive TaskKind
  | clone (vmId : ℕ)
  | delete (vmId : ℕ)
  | other
  deriving DecidableEq, Repr

/-- A task of the provider, with its exit status once it has stopped: `OK` or not. -/
structure ProviderTask where
  kind : TaskKind
  exit : Option Bool := none
  deriving DecidableEq, Repr

/-- It is a clone. -/
def ProviderTask.isClone (task : ProviderTask) : Bool :=
  match task.kind with
  | .clone _ => true
  | _ => false

/-- A clone of the deployment has ended well. -/
def cloneDone (tasks : Table ℕ ProviderTask) : Bool :=
  tasks.rows.any fun (_, task) => task.isClone && task.exit = some true

/-- What the configuration of a machine says about the disk that was asked for: it is there, it has
to grow, or it is larger already or of unknown size. -/
inductive DiskNeed
  | nothing | grow | refused
  deriving DecidableEq, Repr

/-- The requests that configure a machine. -/
inductive Configuration
  | hardware | disk | cloudInit
  deriving DecidableEq, Repr

/-! ### What happened -/

/-- The commands of Terraform; `applyDestroy` is the `apply` of a plan made to destroy. -/
inductive TerraformCommand
  | importResource | plan | apply | applyDestroy
  deriving DecidableEq, Repr

inductive Event
  /-- a Terraform process was started with this `terraform.tfstate`, when `latest` was the state
  Terraform had written last -/
  | usedState (command : TerraformCommand) (tfstate latest : Option Bytes)
  /-- `terraform.apply` was submitted for a job with this `execution.tfplan` -/
  | applied (job lineage run : ℕ) (tfplan : Option Bytes)
  | stepStarted (lineage run : ℕ) (id : String)
  /-- a checkpoint was committed -/
  | recorded (lineage run : ℕ) (checkpoint : WorkflowRuntime)
  | ansible (lineage run index : ℕ)
  /-- `approve_job` recorded the checksum of a plan on a job -/
  | approved (job : ℕ) (stepId : String) (planSha256 : Option String)
  /-- a request was submitted when the provider had these tasks -/
  | cloneSubmitted (vmId : ℕ) (tasks : Table ℕ ProviderTask)
  | configureSubmitted (what : Configuration) (vmId : ℕ) (tasks : Table ℕ ProviderTask)
      (observed : Bool)
  | startSubmitted (vmId : ℕ) (tasks : Table ℕ ProviderTask) (observed : Bool)
  /-- a hard stop or a deletion was submitted for the place where `vm` was -/
  | stopSubmitted (node : String) (vmId : ℕ) (vm : Option VM)
  | deleteSubmitted (node : String) (vmId : ℕ) (vm : Option VM)

/-- The variables of the worker process that survive an exception. -/
structure Memory where
  runtime : Runtime := {}
  /-- `quota_provider_submitted` -/
  submitted : Bool := false
  rollbackDestroyed : Bool := false

/-- The world of one deployment. -/
structure Site where
  deployment : Deployment
  jobs : Table ℕ Job := Table.empty
  state : Option TerraformState := none
  plan : Option TerraformPlan := none
  workspace : Workspace := {}
  /-- the Terraform process of the worker -/
  process : Option TerraformCommand := none
  /-- a Terraform process whose worker was lost is still there -/
  abandoned : Bool := false
  /-- the state that Terraform wrote last -/
  latest : Option Bytes := none
  vms : Table ℕ VM := Table.empty
  tasks : Table ℕ ProviderTask := Table.empty
  /-- the target was seen at the provider after a clone of it had ended well -/
  observed : Bool := false
  /-- the job whose worker is alive -/
  atWork : Option ℕ := none
  /-- the number of executions so far -/
  run : ℕ := 0
  memory : Memory := {}
  events : List Event := []

/-- The settings and the hash function. -/
structure Settings where
  sha256 : Bytes → String
  workerAutoResumeEnabled : Bool := true
  workerAutoResumeMaxAttempts : ℕ := 3

/-! ### Commands -/

/-- What the code of a worker raises. -/
inductive Raised
  /-- `Cancelled` -/
  | cancelled
  /-- `ExecutionFailed` -/
  | failed (message : String)
  /-- `ProxmoxTaskFailed` -/
  | taskFailed (message : String)
  /-- `ApprovalPending` -/
  | approvalPending (stepId : String)
  /-- `RuntimeError` -/
  | runtime (message : String)
  /-- `HTTPException` -/
  | http (status : ℕ)
  /-- any other `Exception` -/
  | other
  deriving DecidableEq, Repr

/-- `isinstance(exc, ExecutionFailed)`. -/
def Raised.isExecutionFailed : Raised → Bool
  | .cancelled | .failed _ | .taskFailed _ => true
  | _ => false

/-- `isinstance(exc, RuntimeError)`. -/
def Raised.isRuntimeError : Raised → Bool
  | .runtime _ => true
  | e => e.isExecutionFailed

inductive Outcome
  | successful | failed | cancelled
  deriving DecidableEq, Repr

def Outcome.status : Outcome → JobStatus
  | .successful => .successful
  | .failed => .failed
  | .cancelled => .cancelled

/-- One thing that the code of a worker does. -/
inductive Cmd
  /-- `context.check`, `context.log`, `context.progress`, and `context.stage` with its action -/
  | check
  | log
  | progress
  | stage (action : String)
  /-- `context.stage('workflow.step.start:…')` -/
  | stepStart (id : String)
  /-- work that leaves what is modelled here as it is: guests, inventory, quota, addresses -/
  | external
  /-- how often a loop is passed before its deadline -/
  | polls
  | payload
  | vars
  /-- read and change the variables of the process -/
  | readMemory
  | update (f : Memory → Memory)
  | conditionsMatch (step : WorkflowStep)
  | availability
  | persistWorkflowRuntime
  | persistProvision (change : ProvisionChange)
  | pauseForApproval (stepId : String) (planSha256 : Option String)
  | restoreState
  | persistState
  | stateExists
  | prepareWorkspace
  | planExists
  | unlinkPlan
  | hashPlan
  | persistPlan
  | restorePlan (expected : Option String)
  | deletePlan
  | popen (command : TerraformCommand)
  | wait
  | ansible (index : ℕ)
  | registerInventory
  /-- `mark_destroyed_after_rollback` -/
  | markDestroyed
  | vmStatus (node : String) (vmId : ℕ)
  | vmConfig (node : String) (vmId : ℕ)
  | reserveVmid
  | cloneVm (node : String) (vmId : ℕ)
  | taskStatus (upid : ℕ)
  | stopTask (upid : ℕ)
  | configureVm (what : Configuration) (node : String) (vmId : ℕ)
  | startVm (node : String) (vmId : ℕ)
  | stopVm (node : String) (vmId : ℕ)
  | deleteVm (node : String) (vmId : ℕ)
  /-- the last transaction of `_execute_unfenced` -/
  | finish (outcome : Outcome)

/-- The answers to a command. -/
@[reducible] def Cmd.Ans : Cmd → Type
  | .polls | .reserveVmid | .cloneVm .. => ℕ
  | .payload => Payload
  | .vars => Variables
  | .readMemory => Memory
  | .conditionsMatch _ | .availability => Bool
  | .restoreState | .persistState | .stateExists | .planExists | .restorePlan _ => Bool
  | .hashPlan => Option String
  | .persistPlan => String
  | .vmStatus .. => Option Bool
  | .vmConfig .. => DiskNeed
  | .taskStatus _ => Option Bool
  | .configureVm .. | .startVm .. | .stopVm .. | .deleteVm .. => Option ℕ
  | _ => Unit

/-- What the environment decides about a command. -/
structure Input where
  /-- it raises -/
  raises : Option Raised := none
  /-- it takes effect although it raises; a condition or an availability check; the job that ends has
  a reservation that is not committed -/
  flag : Bool := false
  /-- a number of polls, or the id of a new job -/
  number : ℕ := 0
  /-- the ids that the provider listed and those that the portal has given away -/
  used : List ℕ := []
  /-- what Terraform wrote as `execution.tfplan` -/
  bytes : Bytes := []
  disk : DiskNeed := .nothing

namespace Site

/-- A new event. -/
def note (s : Site) (e : Event) : Site := { s with events := e :: s.events }

/-- The lineage of a job. -/
def lineageOf (s : Site) (job : ℕ) : ℕ := ((s.jobs.find? job).map (·.lineage)).getD job

/-- Change the row of a job. -/
def updateJob (s : Site) (job : ℕ) (f : Job → Job) : Site :=
  { s with jobs := match s.jobs.find? job with
      | some row => s.jobs.put job (f row)
      | none => s.jobs }

def setDeployment (s : Site) (f : Deployment → Deployment) : Site :=
  { s with deployment := f s.deployment }

/-- The worker is done with its job. -/
def leave (s : Site) : Site := { s with atWork := none }

/-- Change the deployment if the job is its active job. -/
def updateOwned (s : Site) (job : ℕ) (f : Deployment → Deployment) : Site :=
  s.setDeployment fun d => if d.activeJobId = some job then f d else d

/-- The reservation of a job is marked uncertain. -/
def markUncertain (s : Site) (marks : Bool) : Site :=
  s.setDeployment fun d => { d with uncertain := d.uncertain || marks }

/-- A new job becomes the active one; a destroy that is queued supersedes the reservations of the
deployment. -/
def addJob (s : Site) (id : ℕ) (row : Job) (status : DeploymentStatus) : Site :=
  { s with jobs := s.jobs.put id row }.setDeployment fun d =>
    { d.await id status with
      uncertain := d.uncertain && !(row.operation.destroys && row.status = JobStatus.queued) }

/-- Commit a checkpoint; without a row nothing is written. -/
def record (s : Site) (job : ℕ) (checkpoint : WorkflowRuntime) : Site :=
  match s.jobs.find? job with
  | none => s
  | some row =>
    { s with jobs := s.jobs.put job (row.withCheckpoint checkpoint) }.note
      (.recorded row.lineage s.run checkpoint)

/-- `_persist`. -/
def persistProvision (s : Site) (job : ℕ) (change : ProvisionChange) : Site × Except Raised Unit :=
  match s.jobs.find? job with
  | none => (s, .error (.failed "Proxmox provisioning job disappeared"))
  | some row => ({ s with jobs := s.jobs.put job (row.withProvision change) }, .ok ())

/-- The transaction of `pause_for_approval`. -/
def pauseForApproval (s : Site) (job : ℕ) (stepId : String) (planSha256 : Option String) :
    Site × Except Raised Unit :=
  match s.jobs.find? job with
  | none => (s, .error (.failed "Job disappeared before approval pause"))
  | some _ =>
    ((((s.record job (s.memory.runtime.pauseCheckpoint planSha256)).updateJob job
      (·.pause stepId planSha256)).setDeployment (·.await job .waitingApproval)).leave, .ok ())

/-- The machine at a place. -/
def machineAt (s : Site) (node : String) (vmId : ℕ) : Option VM :=
  (s.vms.find? vmId).filter (·.node = node)

/-- A new task of the provider. -/
def newTask (s : Site) (kind : TaskKind) : Site × ℕ :=
  ({ s with tasks := s.tasks.put s.tasks.fresh ⟨kind, none⟩ }, s.tasks.fresh)

/-- The place of the machine of the deployment. -/
def isTarget (s : Site) (node : String) (vmId : ℕ) : Bool :=
  s.deployment.vars.node = node && s.deployment.vars.machineId = some vmId

/-! #### `app/terraform/state.py` -/

/-- The name under which the blobs of a deployment are encrypted. -/
def aad (kind : String) (s : Site) : String := kind ++ ":" ++ s.deployment.id

/-- The bytes of a stored state, if it passes the checks of `restore_state`. -/
def readState (cfg : Settings) (s : Site) (row : TerraformState) : Except Raised Bytes :=
  match decryptBlob row.encryptedState (s.aad "terraform-state") with
  | none => .error .other
  | some raw =>
    if raw.length > maxStateBytes then
      .error (.runtime "Stored Terraform state exceeds the safety limit")
    else if cfg.sha256 raw ≠ row.stateSha256 then
      .error (.runtime "Stored Terraform state integrity check failed")
    else .ok raw

/-- `restore_state`. -/
def restoreState (cfg : Settings) (s : Site) : Site × Except Raised Bool :=
  match s.state with
  | none => (s, .ok false)
  | some row =>
    match s.readState cfg row with
    | .error e => (s, .error e)
    | .ok raw => ({ s with workspace := { s.workspace with tfstate := some raw } }, .ok true)

/-- `persist_state`. -/
def persistState (cfg : Settings) (s : Site) : Site × Except Raised Bool :=
  match s.workspace.tfstate with
  | none => (s, .ok false)
  | some raw =>
    if raw.length > maxStateBytes then
      (s, .error (.runtime "Terraform state exceeds the safety limit"))
    else
      let row : TerraformState :=
        { encryptedState := encryptBlob raw (s.aad "terraform-state")
          stateSha256 := cfg.sha256 raw
          version := (s.state.map (·.version + 1)).getD 1 }
      ({ s with state := some row }, .ok true)

/-- `persist_plan`. -/
def persistPlan (cfg : Settings) (s : Site) : Site × Except Raised String :=
  match s.workspace.tfplan with
  | none => (s, .error (.runtime "Terraform plan is missing"))
  | some raw =>
    if raw.length > maxStateBytes then
      (s, .error (.runtime "Terraform plan exceeds the safety limit"))
    else
      let row : TerraformPlan :=
        { encryptedPlan := encryptBlob raw (s.aad "terraform-plan")
          planSha256 := cfg.sha256 raw }
      ({ s with plan := some row }, .ok (cfg.sha256 raw))

/-- `restore_plan`; an empty checksum is not compared. -/
def restorePlan (cfg : Settings) (s : Site) (expected : Option String) :
    Site × Except Raised Bool :=
  match s.plan with
  | none => (s, .ok false)
  | some row =>
    match decryptBlob row.encryptedPlan (s.aad "terraform-plan") with
    | none => (s, .error .other)
    | some raw =>
      if cfg.sha256 raw ≠ row.planSha256 then
        (s, .error (.runtime "Stored Terraform plan integrity check failed"))
      else if (truthy expected).any (· ≠ cfg.sha256 raw) then
        (s, .error (.runtime "Stored Terraform plan does not match approved checksum"))
      else ({ s with workspace := { s.workspace with tfplan := some raw } }, .ok true)

/-! #### Processes -/

/-- A Terraform process starts. -/
def popen (s : Site) (job : ℕ) (command : TerraformCommand) : Site :=
  let s' := { s with process := some command }.note
    (.usedState command s.workspace.tfstate s.latest)
  if command = .apply then
    s'.note (.applied job (s.lineageOf job) s.run s.workspace.tfplan)
  else s'

/-- The process is over; a plan that came to its end, or was written before it was stopped, is in
the workspace. -/
def endProcess (s : Site) (i : Input) : Site :=
  let s' := { s with process := none }
  if s.process = some .plan ∧ (i.raises = none ∨ i.flag) then
    { s' with workspace := { s'.workspace with tfplan := some i.bytes } }
  else s'

/-! #### The end of a job -/

/-- The job that `destroy_on_failure` queues. -/
def recoveryJob (row : Job) (id : ℕ) : Job where
  operation := if row.operation = .proxmoxProvision then .proxmoxDestroy else .terraformDestroy
  source := .recovery
  lineage := id

/-- The status of the deployment once its job has ended. -/
def finalStatus (s : Site) (row : Job) (outcome : Outcome) : DeploymentStatus :=
  let applied := (row.payload.workflowRuntime.map (·.providerApplied)).getD false
  if row.operation = .terraformPlan then
    if row.payload.previousStatus = .reconciliationRequired ∧ outcome = .successful then .successful
    else row.payload.previousStatus
  else if s.memory.rollbackDestroyed then .destroyed
  else if outcome ≠ .successful ∧ s.memory.submitted ∧ row.operation.uncertainTerraform
      ∧ !applied then .reconciliationRequired
  else if outcome = .successful
      ∧ (row.operation = .terraformDestroy ∨ row.operation = .proxmoxDestroy) then .destroyed
  else if outcome = .successful ∧ row.operation = .terraformImport then .imported
  else outcome.status.toDeployment

/-- The job ends, and its deployment if the job is its active one; `reserved` says that it has a
reservation that is not committed. -/
def endJob (s : Site) (job : ℕ) (row : Job) (outcome : Outcome) (reserved : Bool) : Site :=
  ((s.updateJob job ({ · with status := outcome.status })).updateOwned job
    (·.release (s.finalStatus row outcome))).markUncertain
      (outcome ≠ .successful && s.memory.submitted && reserved)

/-- The failed job is to be followed by one that destroys what it made. -/
def recovers (s : Site) (job : ℕ) (row : Job) (outcome : Outcome) : Bool :=
  outcome = .failed && row.operation.provisioning && row.source ≠ .recovery
    && row.payload.blueprint.destroyOnFailure && !s.memory.rollbackDestroyed
    && s.deployment.activeJobId = some job

/-- The last transaction of a worker. -/
def finish (s : Site) (job : ℕ) (outcome : Outcome) (newJob : ℕ) (reserved : Bool) : Site :=
  match s.jobs.find? job with
  | none => s
  | some row =>
    if s.recovers job row outcome ∧ s.jobs.find? newJob = none then
      (s.endJob job row outcome reserved).addJob newJob (recoveryJob row newJob) .recoveryQueued
    else s.endJob job row outcome reserved

/-! #### The provider -/

/-- `reserve_proxmox_vm_id` for a deployment without an id: the first free one from 100 on. -/
def freeVmid (used : List ℕ) : ℕ → ℕ → ℕ
  | 0, candidate => candidate
  | fuel + 1, candidate =>
    if candidate ∈ used then freeVmid used fuel (candidate + 1) else candidate

/-- The id that is chosen, given those that are in use. -/
def chooseVmid (used : List ℕ) : ℕ := freeVmid used used.length 100

def reserveVmid (s : Site) (used : List ℕ) : Site × ℕ :=
  match s.deployment.vars.vmId with
  | some vmId => (s, vmId)
  | none => (s.setDeployment (·.withVmId (chooseVmid used)), chooseVmid used)

/-- The machine of the deployment is seen, if it is there. -/
def observe (s : Site) (node : String) (vmId : ℕ) : Site :=
  { s with observed := s.observed
      || s.isTarget node vmId && cloneDone s.tasks && (s.machineAt node vmId).isSome }

/-- The provider accepts a clone: from now on the id is taken. -/
def acceptClone (s : Site) (node : String) (vmId : ℕ) : Site × ℕ :=
  let (s, upid) := s.newTask (.clone vmId)
  ({ s with vms := s.vms.put vmId { node := node, cloneTask := some upid } }, upid)

/-- A clone request; the provider refuses an id that is taken. -/
def cloneVm (s : Site) (node : String) (vmId : ℕ) (i : Input) : Site × Except Raised ℕ :=
  let s := s.note (.cloneSubmitted vmId s.tasks)
  if (s.vms.find? vmId).isSome then (s, .error (.http 500))
  else match i.raises with
    | none => ((s.acceptClone node vmId).1, .ok (s.acceptClone node vmId).2)
    | some e => (if i.flag then (s.acceptClone node vmId).1 else s, .error e)

/-- A request about an existing machine, which may be answered with a task. -/
def machineTask (s : Site) (node : String) (vmId : ℕ) (kind : TaskKind) (i : Input) :
    Site × Except Raised (Option ℕ) :=
  match s.machineAt node vmId, i.raises with
  | none, _ => (s, .error (.http 404))
  | _, some e => (if i.flag then (s.newTask kind).1 else s, .error e)
  | some _, none => ((s.newTask kind).1, .ok (some (s.newTask kind).2))

/-! #### The handler -/

/-- What a command does. -/
def handle (cfg : Settings) (job : ℕ) (c : Cmd) (s : Site) (i : Input) :
    Site × Except Raised c.Ans :=
  match c, i.raises with
  -- the variables of the process
  | .readMemory, _ => (s, .ok s.memory)
  | .update f, _ => ({ s with memory := f s.memory }, .ok ())
  | .payload, _ => (s, .ok (((s.jobs.find? job).map (·.payload)).getD {}))
  | .vars, _ => (s, .ok s.deployment.vars)
  -- the workspace directory is there
  | .stateExists, _ => (s, .ok s.workspace.tfstate.isSome)
  | .planExists, _ => (s, .ok s.workspace.tfplan.isSome)
  | .unlinkPlan, _ => ({ s with workspace := { s.workspace with tfplan := none } }, .ok ())
  -- what takes place although it raises
  | .wait, e => (s.endProcess i, e.elim (.ok ()) .error)
  | .ansible index, e => (s.note (.ansible (s.lineageOf job) s.run index), e.elim (.ok ()) .error)
  | .cloneVm node vmId, _ => s.cloneVm node vmId i
  | .configureVm what node vmId, _ =>
    (s.note (.configureSubmitted what vmId s.tasks s.observed)).machineTask node vmId .other i
  | .startVm node vmId, _ =>
    (s.note (.startSubmitted vmId s.tasks s.observed)).machineTask node vmId .other i
  | .stopVm node vmId, _ =>
    (s.note (.stopSubmitted node vmId (s.machineAt node vmId))).machineTask node vmId .other i
  | .deleteVm node vmId, _ =>
    (s.note (.deleteSubmitted node vmId (s.machineAt node vmId))).machineTask node vmId
      (.delete vmId) i
  | .finish outcome, e =>
    match e with
    | some e => (s.leave, .error e)
    | none => ((s.finish job outcome i.number i.flag).leave, .ok ())
  -- the rest either raises or takes place
  | _, some e => (s, .error e)
  | .check, none | .log, none | .progress, none | .stage _, none => (s, .ok ())
  | .external, none | .prepareWorkspace, none | .stopTask _, none => (s, .ok ())
  | .stepStart id, none => (s.note (.stepStarted (s.lineageOf job) s.run id), .ok ())
  | .polls, none => (s, .ok i.number)
  | .conditionsMatch _, none => (s, .ok i.flag)
  | .availability, none =>
    if i.flag then (s, .ok true)
    else (((s.updateJob job ({ · with status := .queued })).setDeployment
      (·.await job .waitingProvider)).leave, .ok false)
  | .persistWorkflowRuntime, none => (s.record job s.memory.runtime.checkpoint, .ok ())
  | .persistProvision change, none => s.persistProvision job change
  | .pauseForApproval stepId planSha256, none => s.pauseForApproval job stepId planSha256
  | .restoreState, none => s.restoreState cfg
  | .persistState, none => s.persistState cfg
  | .hashPlan, none => (s, .ok (s.workspace.tfplan.map cfg.sha256))
  | .persistPlan, none => s.persistPlan cfg
  | .restorePlan expected, none => s.restorePlan cfg expected
  | .deletePlan, none => ({ s with plan := none }, .ok ())
  | .popen command, none => (s.popen job command, .ok ())
  | .registerInventory, none => (s.setDeployment ({ · with inventory := true }), .ok ())
  | .markDestroyed, none => (s.setDeployment ({ · with inventory := false }), .ok ())
  | .vmStatus node vmId, none =>
    (s.observe node vmId, .ok ((s.machineAt node vmId).map (·.running)))
  | .vmConfig _ _, none => (s, .ok i.disk)
  | .reserveVmid, none => ((s.reserveVmid i.used).1, .ok (s.reserveVmid i.used).2)
  | .taskStatus upid, none =>
    match s.tasks.find? upid with
    | some task => (s, .ok task.exit)
    | none => (s, .error (.http 404))

end Site

/-- The code of a worker. -/
abbrev Code := Prog Cmd.Ans Raised

def call (c : Cmd) : Code c.Ans := Prog.request c

end CloudPortal.Execution
