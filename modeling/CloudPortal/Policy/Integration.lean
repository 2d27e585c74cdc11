/-
CloudPortal/Policy/Integration.lean

What the policy engine is asked, and when (`app/policy_engine/integration.py`).

The engine itself is a parameter: it answers a context with violations, approval
effects and the protected fields that its policies change.  A request asks it once
or several times and merges the answers (`_merge_policy_results`); the worker asks
again before it executes the job, with contexts of its own.  `IgnoresRequest` says
that no policy reads how a request was made, `SameFor` that the policies do not tell
apart what a request and a worker know of its circumstances.
-/
import CloudPortal.Jobs.Api
import CloudPortal.Lib.Merge

namespace CloudPortal

open RowStore

/-! ### Contexts and answers -/

/-- `request.action`. -/
inductive PolicyAction
  | vmCreate | blueprintExecute | scheduleExecute | credentialsUse
  | operation (operation : Operation)
  deriving DecidableEq, Repr

/-- `request.phase`. -/
inductive PolicyPhase
  | preRequest | preProvision | scheduled | workerRevalidate
  deriving DecidableEq, Repr

/-- `resource.type`. -/
inductive ResourceType
  | vm | blueprint | schedule | credentials | terraform | ansible
  deriving DecidableEq, Repr

/-- What is known of a machine, from the columns of its deployment or from the request. -/
structure ResourceFacts where
  provider : Option ProviderKind
  capacity : CapacityVariables
  deriving DecidableEq, Repr

/-- `context.blueprint`; a worker does not know the tags. -/
structure BlueprintFacts where
  id : ℕ
  tags : Option (List String)
  deriving DecidableEq, Repr

/-- What a context says of the caller beside the ids.  A request is told the entity of its scope and
the permissions of its token, and takes what the deployment does not say of the application and
the environment from its scope; a worker has no entity, and the permissions of the user.
`scope.key`, `actor.entities` and `resource.scope_key` are computed from these. -/
structure Circumstances where
  entity : Option String := none
  entityRole : Option String := none
  apmid : Option String := none
  environment : Option String := none
  permissions : List String := []
  /-- `request.parameters`; a worker is told those of an Ansible run only -/
  parameters : List (String × String) := []
  deriving DecidableEq, Repr

/-- The context of an evaluation. -/
structure PolicyContext where
  action : PolicyAction
  phase : PolicyPhase
  source : JobSource
  circumstances : Circumstances
  /-- `request.payload` -/
  payload : Option ResourceFacts := none
  /-- `request.purpose`, also `request.scheduled_operation` -/
  purpose : Option Operation := none
  scope : Scope
  resourceType : ResourceType
  /-- the deployment that the resource names -/
  resourceId : Option ℕ := none
  resource : Option ResourceFacts := none
  /-- `resource.purpose` -/
  resourcePurpose : Option Operation := none
  blueprint : Option BlueprintFacts := none
  deriving DecidableEq, Repr

/-- The answer of the policies to a context. -/
structure Evaluation where
  violations : List String := []
  approvals : List ApprovalEffect := []
  /-- the protected fields of the resource that the policies change -/
  changed : List String := []
  deriving DecidableEq, Repr

/-- The policies that are in force, as one actor meets them. -/
abbrev PolicyEngine := PolicyContext → Evaluation

inductive Decision
  | allow | approvalRequired | deny
  deriving DecidableEq, Repr

structure PolicyResult where
  decision : Decision
  violations : List String
  approvals : List ApprovalEffect
  /-- `input_policy_drift` -/
  drift : List String := []
  deriving DecidableEq, Repr

/-- `evaluate_context`. -/
def evaluateContext (engine : PolicyEngine) (context : PolicyContext) : PolicyResult :=
  let answer := engine context
  { decision :=
      if answer.violations ≠ [] then .deny
      else if answer.approvals ≠ [] then .approvalRequired
      else .allow
    violations := answer.violations
    approvals := answer.approvals }

/-- `_merge_policy_results`. -/
def mergePolicyResults (primary secondary : PolicyResult) : PolicyResult :=
  { primary with
    decision :=
      if primary.decision = .deny ∨ secondary.decision = .deny then .deny
      else if primary.decision = .approvalRequired ∨ secondary.decision = .approvalRequired then
        .approvalRequired
      else .allow
    violations := Merge.appendNew primary.violations secondary.violations
    approvals := Merge.appendNew primary.approvals secondary.approvals }

/-- `_deny`. -/
def refuseDenied (result : PolicyResult) : Except Failure Unit :=
  ensure (.http 403 "Operation denied by CloudPortal Policy Engine") (result.decision ≠ .deny)

/-! ### Requests -/

def Deployment.facts (deployment : Deployment) : ResourceFacts :=
  ⟨some deployment.provider, deployment.capacity⟩

/-- The context for an operation on a deployment, or for an Ansible run without one. -/
def operationContext (phase : PolicyPhase) (source : JobSource) (circumstances : Circumstances)
    (scope : Scope) (operation : Operation) (place : Option (ℕ × Deployment)) : PolicyContext :=
  { action := .operation operation, phase, source, circumstances, scope
    resourceType := if operation = .ansibleExecute then .ansible else .terraform
    resourceId := place.map (·.1), resource := place.map (·.2.facts) }

/-- The context for the credentials that the operation uses. -/
def credentialContext (phase : PolicyPhase) (source : JobSource) (circumstances : Circumstances)
    (scope : Scope) (operation : Operation) (place : Option (ℕ × Deployment))
    (purpose : Option Operation) : PolicyContext :=
  { action := .credentialsUse, phase, source, circumstances, scope
    purpose := some operation, resourceType := .credentials
    resourceId := place.map (·.1), resource := place.map (·.2.facts)
    resourcePurpose := purpose }

/-- `enforce_job_operation` with `enforce_credential_use`, which tells the policies the purpose
twice. -/
def enforceJobOperation (engine : PolicyEngine) (told : Circumstances) (scope : Scope)
    (operation : Operation) (place : Option (ℕ × Deployment)) : Except Failure PolicyResult := do
  let result := evaluateContext engine (operationContext .preRequest .api told scope operation place)
  refuseDenied result
  let credential := evaluateContext engine
    (credentialContext .preRequest .api told scope operation place (some operation))
  refuseDenied credential
  .ok (mergePolicyResults result credential)

/-- What a caller asked for, before policies rewrote it: the machine, and the tags of the
Blueprint. -/
structure Rendered where
  facts : ResourceFacts
  tags : List String := []
  deriving DecidableEq, Repr

/-- `enforce_vm_create`; the provider type is not in the context. -/
def enforceVmCreate (engine : PolicyEngine) (told : Circumstances) (scope : Scope)
    (rendered : Rendered) : Except Failure PolicyResult := do
  let result := evaluateContext engine
    { action := .vmCreate, phase := .preProvision, source := .api, circumstances := told
      payload := some rendered.facts, scope, resourceType := .vm
      resource := some { rendered.facts with provider := none } }
  refuseDenied result
  .ok result

/-- `enforce_blueprint_execution`. -/
def enforceBlueprintExecution (engine : PolicyEngine) (told : Circumstances) (scope : Scope)
    (blueprint : Blueprint) (rendered : Rendered) : Except Failure PolicyResult := do
  let facts : BlueprintFacts := ⟨blueprint.id, some rendered.tags⟩
  let blueprintResult := evaluateContext engine
    { action := .blueprintExecute, phase := .preRequest, source := .api, circumstances := told, scope
      resourceType := .blueprint, resourceId := some blueprint.id, blueprint := some facts }
  refuseDenied blueprintResult
  let result := evaluateContext engine
    { action := .vmCreate, phase := .preProvision, source := .api, circumstances := told
      payload := some rendered.facts, scope, resourceType := .vm, resource := some rendered.facts
      blueprint := some facts }
  refuseDenied result
  .ok (mergePolicyResults result blueprintResult)

/-- The context for a schedule that is due. -/
def scheduleContext (told : Circumstances) (scope : Scope) (operation : Operation) (d : ℕ)
    (deployment : Deployment) : PolicyContext :=
  { action := .scheduleExecute, phase := .scheduled, source := .scheduler, circumstances := told
    scope, purpose := some operation, resourceType := .schedule
    resourceId := some d, resource := some deployment.facts }

/-- `evaluate_scheduled_operation`. -/
def evaluateScheduledOperation (engine : PolicyEngine) (told : Circumstances)
    (operation : Operation) (d : ℕ) (deployment : Deployment) : PolicyResult :=
  let scope := deployment.scope
  let place := some (d, deployment)
  mergePolicyResults
    (mergePolicyResults (evaluateContext engine (scheduleContext told scope operation d deployment))
      (evaluateContext engine (operationContext .scheduled .scheduler told scope operation place)))
    (evaluateContext engine
      (credentialContext .scheduled .scheduler told scope operation place none))

/-! ### The worker -/

/-- The context in which a worker asks for `vm.create` again. -/
def blueprintContext (known : Circumstances) (job : Job) (blueprint : Blueprint) (d : ℕ)
    (deployment : Deployment) : PolicyContext :=
  { action := .vmCreate, phase := .workerRevalidate, source := job.source, circumstances := known
    scope := job.scope, resourceType := .vm, resourceId := some d, resource := some deployment.facts
    blueprint := some ⟨blueprint.id, none⟩ }

/-- `revalidate_blueprint_job`. -/
def revalidateBlueprintJob (engine : PolicyEngine) (known : Circumstances) (job : Job)
    (place : Option (ℕ × Deployment)) : Option PolicyResult :=
  if job.operation.provisioning then
    match job.payload.blueprint, place with
    | some blueprint, some (d, deployment) =>
      let context := blueprintContext known job blueprint d deployment
      some { evaluateContext engine context with drift := (engine context).changed }
    | _, _ => none
  else none

/-- `revalidate_job_operation`. -/
def revalidateJobOperation (engine : PolicyEngine) (known : Circumstances) (job : Job)
    (place : Option (ℕ × Deployment)) : Option PolicyResult :=
  if job.operation.revalidated then
    let result := mergePolicyResults
      (evaluateContext engine
        (operationContext .workerRevalidate job.source known job.scope job.operation place))
      (evaluateContext engine
        (credentialContext .workerRevalidate job.source known job.scope job.operation place none))
    match revalidateBlueprintJob engine known job place with
    | some blueprintResult =>
      some { mergePolicyResults result blueprintResult with drift := blueprintResult.drift }
    | none => some result
  else none

/-! ### What the worker asks for -/

/-- No policy reads `request.phase`, `request.source` or `request.payload`. -/
def PolicyEngine.IgnoresRequest (engine : PolicyEngine) : Prop :=
  ∀ context phase source payload,
    engine { context with phase := phase, source := source, payload := payload } = engine context

/-- The policies do not tell two circumstances apart. -/
def PolicyEngine.SameFor (engine : PolicyEngine) (told known : Circumstances) : Prop :=
  ∀ context : PolicyContext, engine { context with circumstances := told }
    = engine { context with circumstances := known }

section Worker

variable (engine : PolicyEngine) (known : Circumstances) (job : Job)
  (place : Option (ℕ × Deployment))

/-- The approvals that the worker is told for the operation. -/
def operationApprovals : List ApprovalEffect :=
  (engine
    (operationContext .workerRevalidate job.source known job.scope job.operation place)).approvals

/-- The approvals for the credentials. -/
def credentialApprovals : List ApprovalEffect :=
  (engine (credentialContext .workerRevalidate job.source known job.scope job.operation place
    none)).approvals

/-- The approvals for `vm.create`, which is asked for jobs with a Blueprint only. -/
def vmApprovals : List ApprovalEffect :=
  ((revalidateBlueprintJob engine known job place).map (·.approvals)).getD []

variable {engine known job place} {res : PolicyResult}

/-- An approval is required only if a policy asks for one. -/
def PolicyResult.Coherent (result : PolicyResult) : Prop :=
  result.decision = .approvalRequired → result.approvals ≠ []

theorem evaluateContext_coherent (engine : PolicyEngine) (context : PolicyContext) :
    (evaluateContext engine context).Coherent := by
  intro h
  simp only [evaluateContext] at h ⊢
  split at h
  · cases h
  split at h
  · assumption
  · cases h

theorem PolicyResult.Coherent.merge {primary secondary : PolicyResult} (hprimary : primary.Coherent)
    (hsecondary : secondary.Coherent) : (mergePolicyResults primary secondary).Coherent := by
  intro h hnil
  obtain ⟨hnil₁, hnil₂⟩ := Merge.appendNew_eq_nil.1 hnil
  simp only [mergePolicyResults] at h
  split at h
  · cases h
  split at h
  · next hq => exact hq.elim (fun h => hprimary h hnil₁) fun h => hsecondary h hnil₂
  · cases h

theorem revalidateBlueprintJob_coherent
    (hr : revalidateBlueprintJob engine known job place = some res) : res.Coherent := by
  unfold revalidateBlueprintJob at hr
  split at hr
  · split at hr
    · cases hr
      exact evaluateContext_coherent engine _
    · cases hr
  · cases hr

/-- The worker merges the answers to three questions. -/
theorem revalidateJobOperation_spec
    (hr : revalidateJobOperation engine known job place = some res) :
    res.approvals = Merge.appendNew
        (Merge.appendNew (operationApprovals engine known job place)
          (credentialApprovals engine known job place))
        (vmApprovals engine known job place)
      ∧ res.Coherent := by
  have hcoherent := (evaluateContext_coherent engine
    (operationContext .workerRevalidate job.source known job.scope job.operation place)).merge
    (evaluateContext_coherent engine
      (credentialContext .workerRevalidate job.source known job.scope job.operation place none))
  unfold revalidateJobOperation at hr
  unfold vmApprovals
  split at hr
  · split at hr
    · next blueprintResult hblueprint =>
      cases hr
      rw [hblueprint]
      exact ⟨rfl, hcoherent.merge (revalidateBlueprintJob_coherent hblueprint)⟩
    · next hblueprint =>
      cases hr
      rw [hblueprint]
      exact ⟨rfl, hcoherent⟩
  · cases hr

end Worker

end CloudPortal
