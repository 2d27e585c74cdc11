/-
CloudPortal/Workflow/Blueprint.lean

Blueprint workflows: the rows of a workflow, what `BlueprintInput` accepts
(`app/api/schemas.py`, `app/automation/cloud_init.py`), the order in which steps are
executed (`app/automation/workflow.py`) and the removal of the AWX step when a
Blueprint is executed without it (`app/api/automation.py`).

A row is the dictionary that is stored with the Blueprint; `BlueprintStep` is a row
that passed the checks on its fields.
-/
import CloudPortal.Lib.Digraph
import CloudPortal.Lib.Merge
import CloudPortal.Lib.Transition
import CloudPortal.Policy.Effects
import Mathlib.Data.Rat.Defs

namespace CloudPortal

/-! ### Rows -/

/-- `BlueprintStep.type`. -/
inductive StepType
  | cloneVm | configureVm | cloudInit | startVm
  | waitForVm | waitForAgent | waitForIp | waitForSsh
  | runAnsiblePlaybook | registerAwx | terraformPlan | terraformApply | terraformDestroy
  | createSnapshot | healthCheck | condition | approval | delay | notification
  deriving DecidableEq, Repr

def StepType.name : StepType → String
  | .cloneVm => "clone_vm"
  | .configureVm => "configure_vm"
  | .cloudInit => "cloud_init"
  | .startVm => "start_vm"
  | .waitForVm => "wait_for_vm"
  | .waitForAgent => "wait_for_agent"
  | .waitForIp => "wait_for_ip"
  | .waitForSsh => "wait_for_ssh"
  | .runAnsiblePlaybook => "run_ansible_playbook"
  | .registerAwx => "register_awx"
  | .terraformPlan => "terraform_plan"
  | .terraformApply => "terraform_apply"
  | .terraformDestroy => "terraform_destroy"
  | .createSnapshot => "create_snapshot"
  | .healthCheck => "health_check"
  | .condition => "condition"
  | .approval => "approval"
  | .delay => "delay"
  | .notification => "notification"

/-- `vm_runtime_types`: the steps that need a running machine. -/
def StepType.vmRuntime : StepType → Bool
  | .waitForVm | .waitForAgent | .waitForIp | .waitForSsh => true
  | .runAnsiblePlaybook | .registerAwx | .createSnapshot | .healthCheck => true
  | _ => false

/-- `after_clone_types`: the steps that need a cloned machine. -/
def StepType.afterClone : StepType → Bool
  | .configureVm | .cloudInit | .startVm => true
  | type => type.vmRuntime

/-- `direct_only`. -/
def StepType.directOnly : StepType → Bool
  | .cloneVm | .configureVm | .startVm => true
  | _ => false

/-- `safe_rollback_types`. -/
def StepType.safeRollback : StepType → Bool
  | .terraformDestroy | .notification | .delay => true
  | _ => false

/-- A value in the conditions of a step.  Of the items of a list only the texts are looked at. -/
inductive ConditionValue
  | text (value : String)
  | flag (value : Bool)
  | number (value : ℚ)
  | nan
  | infinity (negative : Bool)
  | list (items : List (Option String))
  | other
  deriving DecidableEq, Repr

/-- A step of a workflow as it is stored. -/
structure WorkflowStep where
  id : String
  type : StepType
  dependsOn : List String := []
  conditions : List (String × ConditionValue) := []
  retry : ℕ := 0
  timeout : ℕ := 600
  rollback : Option String := none
  deriving DecidableEq, Repr

/-- `Slug`: a letter or digit, then up to 62 letters, digits and `_.-`. -/
def isSlug (text : String) : Bool :=
  match text.toList with
  | [] => false
  | first :: rest => first.isAlphanum && rest.length ≤ 62
      && rest.all fun c => c.isAlphanum || c = '_' || c = '.' || c = '-'

/-- A step that passed the checks on its fields. -/
structure BlueprintStep extends WorkflowStep where
  idSlug : isSlug id
  dependencies : dependsOn.length ≤ 50 ∧ ∀ d ∈ dependsOn, isSlug d
  retries : retry ≤ 10
  timeouts : 1 ≤ timeout ∧ timeout ≤ 86400
  rollbackLength : ∀ target, rollback = some target → target.length ≤ 63

inductive Executor
  | terraform | opentofu | proxmox
  deriving DecidableEq, Repr

/-- The part of `BlueprintDeployment` that is checked against the workflow. -/
structure BlueprintDeployment where
  executor : Executor := .terraform
  template : String := "proxmox-vm"
  /-- the number of `ansible_runs` -/
  ansibleRuns : ℕ := 0
  /-- AWX onboarding is configured -/
  awx : Bool := false
  promptAwxOnExecute : Bool := false
  deriving DecidableEq, Repr

/-- `BlueprintInput`, as far as its workflow is concerned. -/
structure BlueprintInput where
  /-- the names of `variables_schema` -/
  variablesSchema : List String := []
  deployment : BlueprintDeployment
  workflow : List BlueprintStep
  requiresApproval : Bool := false
  workflowLength : 1 ≤ workflow.length ∧ workflow.length ≤ 100

/-- The rows that are stored. -/
def BlueprintInput.rows (input : BlueprintInput) : List WorkflowStep :=
  input.workflow.map (·.toWorkflowStep)

/-! ### Checks -/

/-- `raise ValueError(message)` unless a condition holds. -/
def require (message : String) (condition : Bool) : Except String Unit :=
  if condition then .ok () else .error message

theorem require_eq_ok {message : String} {cond : Bool} :
    require message cond = .ok () ↔ cond = true := by
  cases cond <;> simp [require]

/-- `for x in xs: check(x)`. -/
def forEach {α : Type} (check : α → Except String Unit) : List α → Except String Unit
  | [] => .ok ()
  | x :: xs => do
      check x
      forEach check xs

theorem forEach_eq_ok {α : Type} {check : α → Except String Unit} {xs : List α} :
    forEach check xs = .ok () ↔ ∀ x ∈ xs, check x = .ok () := by
  induction xs with
  | nil => simp [forEach]
  | cons x xs ih =>
    rw [List.forall_mem_cons, ← ih, forEach]
    cases hx : check x with
    | error e | ok => simp [bind, Except.bind]

/-- `sorted(set(texts))`. -/
def sortedTexts (texts : List String) : List String := texts.dedup.mergeSort fun x y => x ≤ y

/-- `graph`: the dependencies of each step. -/
def graphOf (rows : List WorkflowStep) (id : String) : List String :=
  ((rows.find? (·.id = id)).map (·.dependsOn)).getD []

/-- `ancestors`. -/
def ancestorsOf (rows : List WorkflowStep) (id : String) : List String :=
  Digraph.ancestors (graphOf rows) (rows.map (·.id)) id

/-- The first part of `Workflow step "..."` messages. -/
def WorkflowStep.label (step : WorkflowStep) : String := "Workflow step \"" ++ step.id ++ "\""

/-- A step depends on other steps of the workflow only. -/
def WorkflowStep.checkDependencies (known : List String) (step : WorkflowStep) :
    Except String Unit := do
  require (step.label ++ " cannot depend on itself") (step.id ∉ step.dependsOn)
  let missing := sortedTexts (step.dependsOn.filter (· ∉ known))
  require (step.label ++ " depends on missing step(s) (dependency): " ++ ", ".intercalate missing)
    (step.dependsOn.all (· ∈ known))

/-- The keys that every step may have in its conditions. -/
def conditionKeys : List String :=
  ["provider", "executor", "has_ansible", "hostname", "environment", "apmid"]

def WorkflowStep.allowedKeys (step : WorkflowStep) : List String :=
  conditionKeys ++ (if step.type = .delay then ["seconds"] else [])
    ++ if step.type = .notification then ["message"] else []

/-- A text, or a list of texts none of which is empty. -/
def ConditionValue.isTexts : ConditionValue → Bool
  | .text _ => true
  | .list items => !items.isEmpty && items.all fun item => item.any (· ≠ "")
  | _ => false

def WorkflowStep.checkCondition (step : WorkflowStep) (key : String) (value : ConditionValue) :
    Except String Unit :=
  if key = "has_ansible" then
    require (step.label ++ " condition has_ansible must be boolean")
      (match value with | .flag _ => true | _ => false)
  else if key ∈ ["provider", "executor", "hostname", "environment", "apmid"] then
    require (step.label ++ " condition " ++ key ++ " must be a string or non-empty string list")
      value.isTexts
  else .ok ()

/-- The seconds of a delay; a value that is not a number passes both comparisons. -/
def WorkflowStep.checkDelay (step : WorkflowStep) : Except String Unit :=
  let range := step.label ++ " delay seconds must be between 0 and timeout"
  match (step.conditions.lookup "seconds").getD (.number 1) with
  | .number seconds => require range (0 ≤ seconds && seconds ≤ (step.timeout : ℚ))
  | .infinity _ => .error range
  | .nan => .ok ()
  | _ => .error (step.label ++ " delay seconds must be numeric")

def WorkflowStep.checkMessage (step : WorkflowStep) : Except String Unit :=
  require (step.label ++ " notification message must be a string up to 1000 characters")
    (match (step.conditions.lookup "message").getD (.text step.id) with
      | .text message => message.length ≤ 1000
      | _ => false)

def WorkflowStep.checkConditions (step : WorkflowStep) : Except String Unit := do
  let unknown := sortedTexts ((step.conditions.map (·.1)).filter (· ∉ step.allowedKeys))
  require (step.label ++ " uses unsupported condition key(s): " ++ ", ".intercalate unknown)
    ((step.conditions.map (·.1)).all (· ∈ step.allowedKeys))
  forEach (fun (key, value) => step.checkCondition key value) step.conditions
  if step.type = .delay then step.checkDelay
  if step.type = .notification then step.checkMessage

/-- The targets of rollbacks; an empty text is none. -/
def rollbackTargets (rows : List WorkflowStep) : List String :=
  (rows.filterMap fun step => truthy step.rollback).dedup

/-- What a rollback may name.  The source goes through the targets in the order of a set; here it
is that of their first use. -/
def checkRollbacks (rows : List WorkflowStep) : Except String Unit := do
  let targets := rollbackTargets rows
  require "Workflow rollback references a missing step" (targets.all (· ∈ rows.map (·.id)))
  require "Workflow step cannot rollback to itself"
    (rows.all fun step => truthy step.rollback ≠ some step.id)
  forEach (fun step => do
      require "Rollback step must use terraform_destroy, notification or delay"
        step.type.safeRollback
      require "Rollback-only step cannot depend on normal workflow steps" (step.dependsOn = [])
      require "Rollback-only step cannot be a dependency of the normal workflow"
        (rows.all (step.id ∉ ·.dependsOn)))
    (targets.filterMap fun target => rows.find? (·.id = target))
  require "terraform_destroy is allowed only as a rollback target"
    (rows.all fun step => step.type ≠ .terraformDestroy || step.id ∈ targets)

/-- The step is executed as it is written: no conditions, no retry, no rollback. -/
def WorkflowStep.isPlain (step : WorkflowStep) : Bool :=
  step.conditions = [] && step.retry = 0 && truthy step.rollback = none

/-- `validate_cloud_init_workflow`: whether first-boot Cloud-init is selected.  The search for a
cycle also finds missing dependencies; here they are looked for first. -/
def validateCloudInitWorkflow (rows : List WorkflowStep) : Except String Bool :=
  match rows.filter (·.type = .cloudInit) with
  | [] => .ok false
  | [declaration] => do
      let ids := rows.map (·.id)
      require "Cloud-init is a pre-boot declaration and cannot use conditions, retry or rollback"
        declaration.isPlain
      require "Cloud-init workflow has missing or duplicate step IDs"
        (decide ids.Nodup && ids.all (· ≠ ""))
      require "Cloud-init workflow references a missing dependency"
        (rows.all fun step => step.dependsOn.all (· ∈ ids))
      require "Cloud-init workflow contains a dependency cycle" (Digraph.acyclic (graphOf rows) ids)
      require "start_vm must depend on cloud_init when Cloud-init is enabled"
        (rows.all fun step => step.type ≠ .startVm || declaration.id ∈ ancestorsOf rows step.id)
      require "Cloud-init must be an ancestor of Terraform plan and apply"
        (rows.all fun step => !(step.type = .terraformPlan || step.type = .terraformApply)
          || declaration.id ∈ ancestorsOf rows step.id)
      .ok true
  | _ => .error "Cloud-init workflow must contain exactly one cloud_init declaration"

/-- There is at most one approval step, and it is plain. -/
def checkApproval (requiresApproval : Bool) (rows : List WorkflowStep) : Except String Unit := do
  let approvals := rows.filter (·.type = .approval)
  require "Workflow approval step requires requires_approval=true"
    (approvals = [] || requiresApproval)
  require "Workflow can contain at most one approval step" (approvals.length ≤ 1)
  require "Workflow approval step cannot use conditions, retry or rollback"
    (approvals.all (·.isPlain))

/-- The workflow of a machine that is cloned without Terraform. -/
def checkDirect (template : String) (rows : List WorkflowStep) : Except String Unit := do
  require "Direct Proxmox provisioning requires the proxmox-vm template" (template = "proxmox-vm")
  require "Direct Proxmox provisioning cannot contain Terraform plan/apply steps"
    (rows.all fun step => step.type ≠ .terraformApply && step.type ≠ .terraformPlan)
  match rows.filter (·.type = .cloneVm) with
  | [clone] => do
      require ("Direct Proxmox provisioning uses job-level approval; an explicit approval " ++
          "workflow step is not supported")
        (rows.all (·.type ≠ .approval))
      forEach (fun step => require
          (step.type.name ++ " must depend on the direct Proxmox clone_vm step")
          (!step.type.afterClone || clone.id ∈ ancestorsOf rows step.id)) rows
      require "Direct Proxmox start_vm must depend on cloud_init"
        (((rows.filter (·.type = .cloudInit)).head?).all fun declaration =>
          rows.all fun step => step.type ≠ .startVm || declaration.id ∈ ancestorsOf rows step.id)
  | _ => .error "Direct Proxmox provisioning requires exactly one clone_vm step"

/-- The workflow of a machine that Terraform or OpenTofu makes. -/
def checkTerraform (rows : List WorkflowStep) : Except String Unit :=
  match rows.filter (·.type = .terraformApply) with
  | [apply] => do
      let plan := (rows.filter (·.type = .terraformPlan)).head?
      let approval := (rows.filter (·.type = .approval)).head?
      let direct := rows.filter (·.type.directOnly)
      require ("Terraform/OpenTofu workflow cannot contain Direct Proxmox steps: " ++
          ", ".intercalate (sortedTexts (direct.map (·.type.name)))) (direct = [])
      require ("Terraform/OpenTofu cloud_init is declarative and cannot use conditions, retry " ++
          "or rollback")
        (rows.all fun step => step.type ≠ .cloudInit || step.isPlain)
      require "terraform_plan must be an ancestor of terraform_apply"
        (plan.all fun plan => plan.id ∈ ancestorsOf rows apply.id)
      require "approval must be an ancestor of terraform_apply"
        (approval.all fun approval => approval.id ∈ ancestorsOf rows apply.id)
      require "terraform_plan must be an ancestor of approval"
        (approval.all fun approval => plan.all fun plan => plan.id ∈ ancestorsOf rows approval.id)
      forEach (fun step => require (step.type.name ++ " must depend on terraform_apply")
        (!step.type.vmRuntime || apply.id ∈ ancestorsOf rows step.id)) rows
  | _ => .error "Terraform/OpenTofu workflow requires exactly one explicit terraform_apply step"

/-- The steps for Ansible and AWX are there exactly if they are configured. -/
def checkOnboarding (deployment : BlueprintDeployment) (rows : List WorkflowStep) :
    Except String Unit := do
  let ansible := rows.filter (·.type = .runAnsiblePlaybook)
  require "Configured Ansible requires exactly one explicit run_ansible_playbook workflow step"
    (deployment.ansibleRuns = 0 || ansible.length = 1)
  require "run_ansible_playbook requires Ansible configuration"
    (deployment.ansibleRuns ≠ 0 || ansible = [])
  let awx := rows.filter (·.type = .registerAwx)
  require "Runtime AWX prompt requires AWX onboarding configuration"
    (!deployment.promptAwxOnExecute || deployment.awx)
  require "AWX onboarding requires exactly one explicit register_awx workflow step"
    (!deployment.awx || awx.length = 1)
  require "register_awx requires AWX onboarding configuration" (deployment.awx || awx = [])

/-- The names that generated values have. -/
def reservedVariables : List String :=
  ["hostname", "ip_address", "ip_address_cidr", "ip_gateway", "ip_prefix_length"]

/-- `BlueprintInput.dag`. -/
def BlueprintInput.dag (input : BlueprintInput) : Except String Unit := do
  let rows := input.rows
  let ids := rows.map (·.id)
  require "Blueprint variables use names reserved for generated infrastructure values"
    (input.variablesSchema.all (· ∉ reservedVariables))
  require "Workflow step IDs must be unique" ids.Nodup
  forEach (WorkflowStep.checkDependencies ids) rows
  forEach WorkflowStep.checkConditions rows
  require "Workflow must be an acyclic graph" (Digraph.acyclic (graphOf rows) ids)
  checkRollbacks rows
  let _ ← validateCloudInitWorkflow rows
  checkApproval input.requiresApproval rows
  require "Workflow can contain at most one terraform_plan step"
    ((rows.filter (·.type = .terraformPlan)).length ≤ 1)
  if input.deployment.executor = .proxmox then checkDirect input.deployment.template rows
  else checkTerraform rows
  checkOnboarding input.deployment rows

/-! ### Execution -/

/-- `ordered_workflow_steps`. -/
def orderedWorkflowSteps (rows : List WorkflowStep) : Except String (List WorkflowStep) := do
  let ids := rows.map (·.id)
  require "Blueprint workflow contains missing or duplicate step IDs"
    (ids.all (· ≠ "") && decide ids.Nodup)
  require "Blueprint workflow contains an invalid dependency"
    (rows.all fun row => row.id ∉ row.dependsOn && row.dependsOn.all (· ∈ ids))
  match Digraph.order WorkflowStep.id WorkflowStep.dependsOn rows with
  | some ordered => .ok ordered
  | none => .error "Blueprint workflow contains a dependency cycle"

/-- `expand`: a dependency on a removed step becomes dependencies on what that step depended on.
A removed step is expanded once, so as many levels as removed steps are enough. -/
def expandDependency (removed : List (String × List String)) :
    ℕ → List String → String → List String
  | 0, _, _ => []
  | fuel + 1, seen, dependency =>
    match removed.lookup dependency with
    | none => [dependency]
    | some parents =>
      if dependency ∈ seen then []
      else parents.flatMap (expandDependency removed fuel (dependency :: seen))

/-- The dependencies of a kept step, each once. -/
def WorkflowStep.bridge (removed : List (String × List String)) (step : WorkflowStep) :
    WorkflowStep :=
  let expanded := step.dependsOn.flatMap (expandDependency removed (removed.length + 1) [])
  { step with dependsOn := Merge.appendNew [] expanded }

/-- `_execution_workflow_steps`: without AWX the step that registers the machine there is left
out, if the Blueprint asks for AWX when it is executed. -/
def executionWorkflowSteps (rows : List WorkflowStep) (promptAwxOnExecute awx : Bool) :
    List WorkflowStep :=
  if !promptAwxOnExecute || awx then rows
  else
    let removed := (rows.filter (·.type = .registerAwx)).map fun step => (step.id, step.dependsOn)
    if removed = [] then rows
    else (rows.filter (·.type ≠ .registerAwx)).map (WorkflowStep.bridge removed)

end CloudPortal
