/-
CloudPortal/Execution/Workflow.lean

The programs of a worker as sequences of commands.

`TerraformExecutor.execute` (`app/executors/terraform.py`) copies the stored state into the
workspace, plans, applies and, however that ends, copies the state of the workspace back.
Everything between the two copies is inside `try … finally`; what comes before (credentials, the
locks, the id of the machine, the template, `terraform init`) does not touch the files that are
modelled.

A direct deployment creates and deletes its machine through the API of Proxmox
(`app/jobs/proxmox_provision.py`).  The tasks of the provider are polled until a deadline; how
many polls fit before it is an answer of the environment.  The values of a configuration and the
percentages of progress are left out, the requests with them are not.

Both are called by the runners of Blueprint workflows and by the main function of a worker
(`app/jobs/worker.py`).  The two runners differ in what a step does and in how a rollback
destroys the machine; the loop over the steps with its attempts, dependencies and checkpoints is
the same (`runStep`).  What a runner knows about the workflow is in the memory of the process
(`Runtime`); it is written to the row of the job where the source calls
`persist_workflow_runtime`.
-/
import CloudPortal.Execution.Site

namespace CloudPortal.Execution

open Interaction RowStore

/-! ### Commands -/

/-- The name of an operation. -/
def operationName : Operation → String
  | .terraformPlan => "terraform.plan"
  | .terraformApply => "terraform.apply"
  | .terraformImport => "terraform.import"
  | .terraformDestroy => "terraform.destroy"
  | .proxmoxProvision => "proxmox.provision"
  | .proxmoxDestroy => "proxmox.destroy"
  | .ansibleExecute => "ansible.execute"
  | .blueprintDelete => "blueprint.delete"
  | .day2 _ => "day2"
  | .reconcileConfirmedAbsent => "reconcile"

def check : Code Unit := call .check

def log : Code Unit := call .log

def progress : Code Unit := call .progress

def stage (action : String) : Code Unit := call (.stage action)

def external : Code Unit := call .external

/-- A variable of the process. -/
def readMemory : Code Memory := call .readMemory

def update (f : Memory → Memory) : Code Unit := call (.update f)

/-- Change `runtime`. -/
def updateRuntime (f : Runtime → Runtime) : Code Unit :=
  update fun m => { m with runtime := f m.runtime }

/-- `context.quota_provider_submitted = True`. -/
def submitted : Code Unit := update fun m => { m with submitted := true }

def persistWorkflowRuntime : Code Unit := call .persistWorkflowRuntime

/-- `if condition: code`. -/
def onlyIf (condition : Prop) [Decidable condition] (code : Code Unit) : Code Unit :=
  if condition then code else pure ()

/-- `if condition: raise ExecutionFailed(message)`. -/
def failIf (condition : Prop) [Decidable condition] (message : String) : Code Unit :=
  onlyIf condition (throw (.failed message))

/-- `while time.monotonic() < deadline: context.check(); time.sleep(…)`. -/
def checkUntil : ℕ → Code Unit
  | 0 => pure ()
  | polls + 1 => do
      check
      checkUntil polls

def delay : Code Unit := do
  let polls ← call .polls
  checkUntil polls

/-! ### The executor -/

/-- `run_process`; the process does not outlive the call, unless the worker is lost. -/
def runProcess (command : TerraformCommand) : Code Unit := do
  check
  call (.popen command)
  call .wait

/-- `saved_plan`. -/
def savedPlan (operation : Operation) (applySaved : Bool) : Code Bool :=
  if operation = .terraformApply ∧ applySaved then call .planExists else pure false

/-- The plan, unless a saved one is taken. -/
def runPlan (saved : Bool) : Code Unit :=
  if saved then stage "terraform.plan.reuse"
  else do
    stage "terraform.plan"
    runProcess .plan

def runApply (operation : Operation) : Code Unit := do
  stage (operationName operation)
  submitted
  runProcess (if operation = .terraformDestroy then .applyDestroy else .apply)
  progress

/-- The part of `execute` in which Terraform works. -/
def runTerraform (operation : Operation) (applySaved : Bool) : Code Unit :=
  if operation = .terraformImport then do
    stage "terraform.import"
    runProcess .importResource
    stage "terraform.plan"
    runProcess .plan
  else do
    let saved ← savedPlan operation applySaved
    runPlan saved
    onlyIf (operation ≠ .terraformPlan) (runApply operation)

def storeState : Code Unit := do
  stage "terraform.state.persist"
  let _ ← call .persistState

/-- The `finally` of `execute`. -/
def keepState (operation : Operation) (keepPlan : Bool) : Code Unit := do
  onlyIf (¬(operation = .terraformPlan ∧ keepPlan)) (call .unlinkPlan)
  let there ← call .stateExists
  onlyIf there storeState
  external

/-- `TerraformExecutor.execute`; `keepPlan` and `applySaved` are the attributes
`keep_terraform_plan` and `apply_saved_terraform_plan` of the context. -/
def execute (operation : Operation) (keepPlan applySaved : Bool) : Code Unit := do
  external
  stage "terraform.state.restore"
  let _ ← call .restoreState
  call .prepareWorkspace
  try runTerraform operation applySaved
  finally keepState operation keepPlan

/-! ### Proxmox -/

def persistProvision (change : ProvisionChange) : Code Unit :=
  call (.persistProvision change)

/-- `_status_or_none`: whether the machine runs, if there is one. -/
def statusOrNone (node : String) (vmId : ℕ) : Code (Option Bool) :=
  call (.vmStatus node vmId)

/-- `identity`. -/
def identity : Code (String × ℕ) := do
  let vars ← call .vars
  failIf (vars.node = "") "Proxmox node missing from deployment variables"
  match vars.machineId with
  | none => throw (.failed "Proxmox VMID has not been reserved yet")
  | some vmId => pure (vars.node, vmId)

/-! ### Waiting -/

/-- The loop of `wait_task`. -/
def pollTask (label : String) (upid : ℕ) : ℕ → Code Unit
  | 0 => throw (.taskFailed ("Przekroczono czas oczekiwania na operację Proxmox: " ++ label))
  | polls + 1 => do
      check
      match ← call (.taskStatus upid) with
      | some true => progress
      | some false => throw (.taskFailed (label ++ " zakończył się błędem Proxmox"))
      | none =>
        progress
        pollTask label upid polls

/-- `wait_task`: a task is stopped when the job is cancelled. -/
def waitTask (label : String) (upid : ℕ) : Code Unit := do
  let polls ← call .polls
  try pollTask label upid polls
  catch e => do
    onlyIf (e = .cancelled) (try call (.stopTask upid) catch _ => pure ())
    throw e

/-- `if task: wait_task(…)`. -/
def waitAny (label : String) : Option ℕ → Code Unit
  | none => pure ()
  | some upid => waitTask label upid

/-- The loop of `_wait_target`. -/
def pollTarget (node : String) (vmId : ℕ) : ℕ → Code Unit
  | 0 => throw (.failed ("VM " ++ node ++ "/" ++ toString vmId
      ++ " nie pojawiła się w Proxmox po zakończeniu klonowania"))
  | polls + 1 => do
      check
      let status ← try statusOrNone node vmId catch _ => pure none
      match status with
      | some _ => pure ()
      | none => pollTarget node vmId polls

/-- `_wait_target`. -/
def waitTarget (node : String) (vmId : ℕ) : Code Unit := do
  let polls ← call .polls
  pollTarget node vmId polls

/-! ### Provisioning -/

/-- `ensure_vmid`. -/
def ensureVmid : Code ℕ := do
  let vars ← call .vars
  match vars.machineId with
  | some vmId => pure vmId
  | none => do
      let vmId ← call .reserveVmid
      log
      pure vmId

/-- What follows an accepted clone: its task ends, its machine is seen, and that is recorded. -/
def awaitClone (node : String) (vmId upid : ℕ) : Code Unit := do
  waitTask "Klonowanie VM" upid
  waitTarget node vmId
  persistProvision .cloneCompleted

/-- A refusal by the provider becomes a failure of the job. -/
def refusalFails {α : Type} (failure : String) (code : Code α) : Code α := do
  try code
  catch
  | .http status => throw (.failed (failure ++ "HTTP " ++ toString status))
  | e => throw e

/-- Submit a clone request and record its task before anything else. -/
def requestClone (node : String) (vmId : ℕ) : Code Unit := do
  stage "proxmox.provision.clone"
  progress
  let upid ← refusalFails "Nie udało się uruchomić klonowania VM w Proxmox: "
    (call (.cloneVm node vmId))
  submitted
  persistProvision (.cloneRequested upid)
  log
  awaitClone node vmId upid

/-- The clone, given its checkpoint and what is at the target. -/
def cloneFrom (runtime : ProvisionRuntime) (target : Option Bool) (node : String) (vmId : ℕ) :
    Code Unit :=
  if runtime.cloneCompleted ∧ target.isSome then progress
  else match runtime.cloneUpid with
    | some upid => do
        submitted
        stage "proxmox.provision.clone"
        progress
        awaitClone node vmId upid
    | none =>
      if target.isSome then
        throw (.failed ("Docelowy VMID " ++ toString vmId
          ++ " jest już zajęty w Proxmox, a job nie ma checkpointu klonowania"))
      else requestClone node vmId

/-- `clone`. -/
def clone : Code Unit := do
  let vars ← call .vars
  let vmId ← ensureVmid
  failIf (vars.templateId = none) "Proxmox source template VMID is missing or invalid"
  failIf (vars.node = "" ∨ vars.templateNode.getD vars.node = "")
    "Proxmox source or target node is missing"
  let payload ← call .payload
  let target ← statusOrNone vars.node vmId
  cloneFrom (payload.provisionRuntime.getD {}) target vars.node vmId

/-- A configuration request. -/
def requestConfiguration (what : Configuration) (label node : String) (vmId : ℕ) : Code Unit := do
  let task ← call (.configureVm what node vmId)
  waitAny label task

/-- The disk is made as large as it was asked for. -/
def resizeDisk (node : String) (vmId : ℕ) : DiskNeed → Code Unit
  | .nothing => pure ()
  | .refused => throw (.failed "desired state nie może zostać potwierdzony")
  | .grow => requestConfiguration .disk "Powiększanie dysku VM" node vmId

/-- `configure`. -/
def configure : Code Unit := do
  let (node, vmId) ← identity
  stage "proxmox.provision.configure"
  progress
  let disk ← try call (.vmConfig node vmId)
    catch _ => throw (.failed "Nie udało się odczytać konfiguracji sklonowanej VM")
  refusalFails "Konfiguracja VM w Proxmox nie powiodła się: "
    (requestConfiguration .hardware "Konfiguracja VM" node vmId)
  resizeDisk node vmId disk
  persistProvision .noted

/-- `configure_cloud_init`. -/
def configureCloudInit : Code Unit := do
  let (node, vmId) ← identity
  stage "proxmox.provision.cloud_init"
  progress
  refusalFails "Konfiguracja Cloud-init w Proxmox nie powiodła się: "
    (requestConfiguration .cloudInit "Konfiguracja Cloud-init" node vmId)
  log
  persistProvision .noted

/-- The loop of `start`. -/
def pollRunning (node : String) (vmId : ℕ) : ℕ → Code Unit
  | 0 => throw (.failed "VM nie osiągnęła stanu running po poleceniu start")
  | polls + 1 => do
      check
      match ← statusOrNone node vmId with
      | some true => do
          progress
          persistProvision .noted
      | _ => pollRunning node vmId polls

/-- `start`. -/
def start : Code Unit := do
  let (node, vmId) ← identity
  stage "proxmox.provision.start"
  progress
  match ← statusOrNone node vmId with
  | none => throw (.failed "VM zniknęła z Proxmox przed uruchomieniem")
  | some true => do
      progress
      persistProvision .noted
  | some false => do
      let task ← call (.startVm node vmId)
      waitAny "Uruchamianie VM" task
      let polls ← call .polls
      pollRunning node vmId polls

/-- `register_inventory`. -/
def registerInventory : Code Unit := do
  let _ ← identity
  call .registerInventory
  persistProvision .noted
  log

/-! ### Deletion -/

/-- The status before a deletion; with `force` one that cannot be read is taken for a machine
that is not stopped. -/
def destroyStatus (force : Bool) (node : String) (vmId : ℕ) : Code (Option Bool) := do
  try statusOrNone node vmId
  catch _ =>
    if force then do
      log
      pure (some true)
    else throw (.failed "Nie udało się sprawdzić VM przed usunięciem")

/-- The hard stop before a deletion; `force` goes on after errors of the provider, not after
those of the portal. -/
def forceStop (force : Bool) (node : String) (vmId : ℕ) : Code Unit := do
  stage "proxmox.destroy.force_stop"
  progress
  try
    let task ← call (.stopVm node vmId)
    waitAny "Twarde zatrzymywanie VM" task
  catch
  | .cancelled => throw .cancelled
  | .failed message => throw (.failed message)
  | e => if force then log else throw e

/-- The deletion request; a machine that is not there any more is deleted. -/
def requestDeletion (node : String) (vmId : ℕ) : Code Unit := do
  stage "proxmox.destroy.delete"
  progress
  let task ← try some <$> call (.deleteVm node vmId)
    catch
    | .http 404 => pure none
    | .http status => throw (.failed ("Usuwanie VM w Proxmox nie powiodło się: HTTP "
        ++ toString status))
    | e => throw e
  match task with
  | none => pure ()
  | some task => do
      submitted
      waitAny "Usuwanie VM" task
      progress

/-- The deletion of the machine at a place. -/
def destroyAt (node : String) (vmId : ℕ) : Code Unit := do
  let payload ← call .payload
  stage "proxmox.destroy.check"
  match ← destroyStatus payload.force node vmId with
  | none => log
  | some running => do
      onlyIf (payload.force ∨ running) (forceStop payload.force node vmId)
      onlyIf payload.force check
      requestDeletion node vmId

/-- `destroy`. -/
def destroy : Code Unit := do
  let (node, vmId) ← identity
  destroyAt node vmId

/-! ### Resuming -/

/-- The states of the steps that a checkpoint tells. -/
def WorkflowRuntime.states (saved : WorkflowRuntime) : Table String StepState :=
  saved.completedSteps.foldl (fun states id => states.put id .completed) saved.stepStates

/-- `explicit_ansible_completed`. -/
def ansibleStepDone (steps : List WorkflowStep) (completed : List String) : Bool :=
  steps.any fun step => step.type = .runAnsiblePlaybook && step.id ∈ completed

/-- The runtime with which a workflow goes on from a checkpoint. -/
def resume (steps : List WorkflowStep) : Option WorkflowRuntime → Runtime
  | none => {}
  | some saved =>
    { stepStates := saved.states
      workspace := saved.providerApplied || saved.planReady
      planReady := saved.planReady
      planSha256 := saved.planSha256
      applied := saved.providerApplied
      inventorySynced := saved.inventorySynced
      ansibleRan := saved.ansibleRan || ansibleStepDone steps saved.completedSteps
      ansibleCompletedRuns := saved.ansibleCompletedRuns
      ansibleInflightRun := saved.ansibleInflightRun }

/-- The direct runner has neither plans nor a workspace. -/
def resumeDirect (steps : List WorkflowStep) (saved : Option WorkflowRuntime) : Runtime :=
  { resume steps saved with workspace := false, planReady := false, planSha256 := none }

/-! ### The loop over the steps -/

def setState (id : String) (state : StepState) : Code Unit :=
  updateRuntime fun r => { r with stepStates := r.stepStates.put id state }

/-- One attempt at a step: its body, then the record that it is completed. -/
def attemptStep (body : WorkflowStep → Code Unit) (step : WorkflowStep) : Code Unit := do
  call (.stepStart step.id)
  body step
  setState step.id .completed
  stage ("workflow.step.completed:" ++ step.id ++ ":" ++ step.type.name)
  persistWorkflowRuntime

/-- A step that failed for good is rolled back, and the workflow ends. -/
def giveUp (rollback : String → String → Code Unit) (step : WorkflowStep) (e : Raised) :
    Code Unit := do
  let terminal := if e.isExecutionFailed then e
    else .failed ("Workflow step " ++ step.id ++ " (" ++ step.type.name ++ ") failed")
  match truthy step.rollback with
  | none => throw terminal
  | some target => do
      try rollback target step.id
      catch _ => throw (.failed ("rollback " ++ target ++ " failed"))
      throw terminal

/-- The exceptions that end a workflow at once. -/
def Raised.passes : Raised → Bool
  | .approvalPending _ | .cancelled => true
  | _ => false

/-- The attempts at a step, with as many retries as are left. -/
def attempts (body : WorkflowStep → Code Unit) (rollback : String → String → Code Unit)
    (step : WorkflowStep) : ℕ → Code Unit
  | 0 => do
      try attemptStep body step
      catch e => if e.passes then throw e else giveUp rollback step e
  | retries + 1 => do
      try attemptStep body step
      catch e =>
        if e.passes then throw e
        else do
          log
          attempts body rollback step retries

/-- The body of the loop over the steps. -/
def runStep (steps : List WorkflowStep) (body : WorkflowStep → Code Unit)
    (rollback : String → String → Code Unit) (step : WorkflowStep) : Code Unit := do
  let m ← readMemory
  let state := m.runtime.stepStates.find?
  if state step.id = some .completed ∨ state step.id = some .skipped then log
  else if step.id ∈ rollbackTargets steps then do
    setState step.id .rollbackOnly
    log
  else if step.dependsOn.any (state · ≠ some .completed) then do
    setState step.id .blocked
    log
    persistWorkflowRuntime
  else do
    let run ← call (.conditionsMatch step)
    if run then attempts body rollback step step.retry
    else do
      setState step.id .skipped
      log
      persistWorkflowRuntime

/-- `execute_rollback` and `execute_direct_rollback`, given what `terraform_destroy` does. -/
def executeRollback (undo : Code Unit) (steps : List WorkflowStep) (target failed : String) :
    Code Unit := do
  match steps.find? (·.id = target) with
  | none => throw (.failed ("Rollback target " ++ target ++ " does not exist"))
  | some step => do
      let label := failed ++ ":" ++ target ++ ":" ++ step.type.name
      stage ("workflow.rollback.start:" ++ label)
      match step.type with
      | .terraformDestroy => undo
      | .notification => log
      | .delay => delay
      | type => throw (.failed ("Unsupported rollback step type: " ++ type.name))
      stage ("workflow.rollback.completed:" ++ label)

/-- `context.rollback_destroyed = True`. -/
def rolledBack : Code Unit := update fun m => { m with rollbackDestroyed := true }

/-! ### Ansible -/

/-- One configured run. -/
def ansibleRun (index : ℕ) : Code Unit := do
  let m ← readMemory
  if index ∈ m.runtime.ansibleCompletedRuns then log
  else do
    stage ("workflow.ansible.run.start:" ++ toString (index + 1))
    external
    updateRuntime fun r => { r with ansibleInflightRun := some index }
    persistWorkflowRuntime
    call (.ansible index)
    updateRuntime fun r =>
      { r with
        ansibleCompletedRuns := index :: r.ansibleCompletedRuns
        ansibleInflightRun := none }
    stage ("workflow.ansible.run.completed:" ++ toString (index + 1))
    persistWorkflowRuntime

/-- `execute_configured_ansible`. -/
def executeConfiguredAnsible (runs : ℕ) : Code Unit := do
  failIf (runs = 0) "Workflow requests Ansible but deployment has no Ansible runbook configuration"
  let m ← readMemory
  failIf (m.runtime.ansibleInflightRun.any (· ∉ m.runtime.ansibleCompletedRuns))
    ("Automatic resume refused to repeat an Ansible run with an ambiguous result; "
      ++ "inspect the host and retry the deployment explicitly")
  (List.range runs).forM ansibleRun
  updateRuntime fun r => { r with ansibleRan := runs ≤ r.ansibleCompletedRuns.length }

/-! ### Workflows with Terraform -/

/-- A `RuntimeError` becomes an `ExecutionFailed`. -/
def asFailure {α : Type} (code : Code α) : Code α := do
  try code
  catch
  | .runtime message => throw (.failed message)
  | e => throw e

/-- `restore_recovery_workspace`. -/
def restoreRecoveryWorkspace : Code Unit := do
  let restored ← asFailure (call .restoreState)
  failIf (¬restored) "Automatic resume refused: persisted Terraform state is unavailable"
  stage "recovery.terraform_state.restored"

/-- The checks on a plan that is ready. -/
def checkPlan (workspace : Bool) (expected : Option String) : Code Unit := do
  failIf (¬workspace) "Approved Terraform plan workspace is unavailable"
  let restored ← asFailure (call (.restorePlan expected))
  failIf (¬restored) "Approved Terraform plan is unavailable; generate and approve a new plan"
  let actual ← call .hashPlan
  failIf (truthy expected = none ∨ actual ≠ expected)
    ("Approved Terraform plan checksum mismatch; " ++ "generate and approve a new plan")

/-- `verify_saved_plan`. -/
def verifySavedPlan : Code Unit := do
  let m ← readMemory
  onlyIf m.runtime.planReady (checkPlan m.runtime.workspace m.runtime.planSha256)

/-- `apply_and_sync`. -/
def applyAndSync : Code Unit := do
  stage "workflow.terraform_apply"
  verifySavedPlan
  let m ← readMemory
  execute .terraformApply false m.runtime.planReady
  updateRuntime fun r => { r with planReady := false, planSha256 := none }
  call .deletePlan
  updateRuntime fun r => { r with workspace := true, applied := true }
  persistWorkflowRuntime
  external
  stage "inventory.synchronizing"
  call .registerInventory
  external
  updateRuntime fun r => { r with inventorySynced := true }
  external
  log
  persistWorkflowRuntime

/-- The step `terraform_plan`. -/
def planStep : Code Unit := do
  execute .terraformPlan true false
  updateRuntime fun r => { r with workspace := true, planReady := true }
  let digest ← asFailure (call .persistPlan)
  updateRuntime fun r => { r with planSha256 := some digest }

/-- `workspace_for`. -/
def workspaceFor (type : StepType) : Code Unit := do
  let m ← readMemory
  if m.runtime.workspace ∧ m.runtime.applied then external
  else throw (.failed ("Workflow step " ++ type.name
    ++ " requires a completed terraform_apply dependency"))

/-- The checksum of the plan that is to be approved. -/
def planDigest (workspace : Bool) : Code (Option String) := do
  match ← (if workspace then call .hashPlan else pure none) with
  | none => throw (.failed "Terraform plan disappeared before approval")
  | some digest => pure (some digest)

/-- `pause_for_approval`. -/
def pauseForApproval (stepId : String) : Code Unit := do
  let m ← readMemory
  let digest ← (if m.runtime.planReady then planDigest m.runtime.workspace else pure none)
  call (.pauseForApproval stepId digest)
  throw (.approvalPending stepId)

/-- The step `approval`. -/
def approvalStep (requiresApproval : Bool) (stepId : String) : Code Unit := do
  failIf (¬requiresApproval) "Workflow approval step requires Blueprint requires_approval=true"
  let payload ← call .payload
  match payload.workflowApproval.filter (·.status = .approved) with
  | none => pauseForApproval stepId
  | some approval => do
      failIf (approval.stepId ≠ stepId) "Blueprint approval belongs to a different workflow step"
      let m ← readMemory
      failIf (m.runtime.planSha256.getD "" ≠ ""
          ∧ approval.approvedPlanSha256.getD "" ≠ m.runtime.planSha256.getD "")
        "Approved Terraform plan does not match the current workflow plan"
      log

/-- What a step of a workflow with Terraform does. -/
def terraformBody (payload : Payload) (step : WorkflowStep) : Code Unit := do
  match step.type with
  | .cloudInit => do
      let m ← readMemory
      failIf m.runtime.applied "Declarative VM step cannot run after terraform_apply"
      log
  | .cloneVm | .configureVm | .startVm =>
    throw (.failed (step.type.name ++ " is available only with the direct Proxmox executor"))
  | .terraformPlan => planStep
  | .terraformApply => do
      let m ← readMemory
      if m.runtime.applied then do
        log
        external
      else applyAndSync
  | .terraformDestroy => throw (.failed "terraform_destroy is rollback-only")
  | .waitForVm | .waitForAgent | .waitForIp | .waitForSsh | .registerAwx | .createSnapshot
  | .healthCheck => do
      workspaceFor step.type
      external
  | .runAnsiblePlaybook => do
      workspaceFor step.type
      executeConfiguredAnsible payload.ansibleRuns
  | .condition | .notification => log
  | .approval => approvalStep payload.blueprint.requiresApproval step.id
  | .delay => delay

/-- A rollback of a workflow with Terraform destroys what Terraform made. -/
def terraformUndo : Code Unit := do
  external
  execute .terraformDestroy false false
  call .markDestroyed
  rolledBack

/-- The machine is put into the inventory, if that is still to be done. -/
def syncLate : Code Unit := do
  call .registerInventory
  updateRuntime fun r => { r with inventorySynced := true }
  log
  persistWorkflowRuntime

/-- What follows the last step of a workflow with Terraform. -/
def concludeTerraform (steps : List WorkflowStep) : Code Unit := do
  let m ← readMemory
  let completed := steps.any fun step =>
    step.type = .terraformApply && m.runtime.stepStates.find? step.id = some .completed
  failIf (¬m.runtime.applied ∧ ¬completed)
    "terraform_apply was skipped or blocked; VM was not provisioned"
  onlyIf (m.runtime.applied ∧ ¬m.runtime.inventorySynced) syncLate
  persistWorkflowRuntime
  stage "workflow.completed"

/-- `run_blueprint_workflow`. -/
def runBlueprintWorkflow : Code Unit := do
  let payload ← call .payload
  match orderedWorkflowSteps payload.blueprint.steps with
  | .error message => throw (.failed message)
  | .ok steps => do
      onlyIf ((payload.workflowRuntime.map (·.providerApplied)).getD false) restoreRecoveryWorkspace
      updateRuntime fun _ => resume steps payload.workflowRuntime
      steps.forM (runStep steps (terraformBody payload) (executeRollback terraformUndo steps))
      concludeTerraform steps

/-! ### Workflows without Terraform -/

/-- The machine is put into the inventory. -/
def syncDirect : Code Unit := do
  registerInventory
  updateRuntime fun r => { r with inventorySynced := true }
  external
  persistWorkflowRuntime

/-- `sync_direct_inventory`. -/
def syncDirectInventory : Code Unit := do
  let m ← readMemory
  onlyIf (¬m.runtime.inventorySynced) syncDirect

/-- A step that needs the clone. -/
def afterClone (type : StepType) (code : Code Unit) : Code Unit := do
  let m ← readMemory
  failIf (¬m.runtime.applied) (type.name ++ " requires a completed direct Proxmox clone")
  code

/-- What a step of a direct workflow does. -/
def directBody (payload : Payload) (step : WorkflowStep) : Code Unit := do
  progress
  match step.type with
  | .cloneVm => do
      clone
      updateRuntime fun r => { r with applied := true }
      syncDirectInventory
  | .configureVm => afterClone step.type configure
  | .cloudInit => afterClone step.type configureCloudInit
  | .startVm => afterClone step.type start
  | .waitForVm | .waitForAgent | .waitForIp | .waitForSsh | .registerAwx | .createSnapshot
  | .healthCheck => external
  | .runAnsiblePlaybook => executeConfiguredAnsible payload.ansibleRuns
  | .condition | .notification => log
  | .delay => delay
  | .terraformPlan | .terraformApply =>
    throw (.failed (step.type.name ++ " is not allowed with the direct Proxmox executor"))
  | .terraformDestroy => throw (.failed "terraform_destroy is rollback-only")
  | .approval => throw (.failed ("Direct Proxmox provisioning uses job-level approval, "
      ++ "not an approval workflow step"))

/-- A rollback of a direct workflow deletes the machine. -/
def directUndo : Code Unit := do
  destroy
  rolledBack

/-- The steps of a direct workflow that are for Terraform. -/
def terraformSteps (steps : List WorkflowStep) : List WorkflowStep :=
  steps.filter fun step => step.type = .terraformPlan || step.type = .terraformApply

/-- What follows the last step of a direct workflow. -/
def concludeDirect : Code Unit := do
  let m ← readMemory
  failIf (¬m.runtime.applied) "Direct Proxmox workflow did not create a VM"
  syncDirectInventory
  external
  persistWorkflowRuntime
  stage "workflow.completed"
  progress

/-- `run_proxmox_blueprint_workflow`. -/
def runProxmoxBlueprintWorkflow : Code Unit := do
  let payload ← call .payload
  match orderedWorkflowSteps payload.blueprint.steps with
  | .error message => throw (.failed message)
  | .ok steps => do
      failIf (steps = []) "Direct Proxmox Blueprint has no workflow steps"
      failIf (terraformSteps steps ≠ [])
        ("Direct Proxmox provisioning cannot execute Terraform steps: "
          ++ ", ".intercalate (sortedTexts ((terraformSteps steps).map (·.type.name))))
      updateRuntime fun _ => resumeDirect steps payload.workflowRuntime
      steps.forM (runStep steps (directBody payload) (executeRollback directUndo steps))
      concludeDirect

/-! ### The worker -/

/-- What the operation of a job does. -/
def perform (operation : Operation) (payload : Payload) : Code Unit :=
  match operation with
  | .proxmoxProvision => runProxmoxBlueprintWorkflow
  | .proxmoxDestroy => do
      destroy
      external
  | .terraformApply =>
    if payload.blueprint.steps ≠ [] then runBlueprintWorkflow
    else do
      execute .terraformApply false false
      stage "inventory.synchronizing"
      call .registerInventory
      external
  | .terraformPlan => execute .terraformPlan false false
  | .terraformImport => do
      execute .terraformImport false false
      call .registerInventory
      external
  | .terraformDestroy => do
      external
      execute .terraformDestroy false false
      external
  | _ => external

/-- How a job ends, unless its worker leaves it waiting. -/
def work (operation : Operation) (payload : Payload) : Code (Option Outcome) := do
  try
    external
    let available ← call .availability
    if available then
      stage "job.running"
      perform operation payload
      check
      pure (some .successful)
    else pure none
  catch
  | .approvalPending _ => pure none
  | .cancelled => pure (some .cancelled)
  | _ => pure (some .failed)

/-- `_execute_unfenced`, once the job is claimed. -/
def executeUnfenced (operation : Operation) (payload : Payload) : Code Unit := do
  match ← work operation payload with
  | none => pure ()
  | some outcome => call (.finish outcome)

end CloudPortal.Execution
