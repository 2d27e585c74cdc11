/-
CloudPortal/Execution/System.lean

Everything that can happen to one deployment: a worker takes a queued job up, makes its
next command or is lost; jobs are submitted, approved, cancelled, retried, given up and
resumed (`app/api/infrastructure.py`, `app/jobs/queue.py`, `app/jobs/recovery.py`);
Terraform writes its state; tasks end at the provider, and others create and delete
machines there.

A deployment has one active job, and a job is claimed once, so there is one worker at a
time.  A worker that is lost may leave its Terraform process behind, which runs in a
session of its own.

The properties that follow need of a step only what it can change: a command writes the parts of
the world that `Cmd.parts` lists and adds events of the kinds in `Cmd.eventKinds`
(`handle_frame`), an outside move does so likewise (`outside_frame`).
-/
import CloudPortal.Execution.Workflow

namespace CloudPortal.Execution

open RowStore Interaction

/-- What happens outside of the worker. -/
inductive Outside
  /-- `new_job`; `gated` jobs wait for an approval first -/
  | newJob (id : ℕ) (operation : Operation) (force gated : Bool)
  | approveJob (id : ℕ)
  /-- `cancel_job` before the execution, and the end of an approval that was not given -/
  | cancelJob (id : ℕ)
  | retryJob (original id : ℕ)
  /-- `reconcile_stale_jobs`, with the id of the job that goes on; `accounted` says that the
  reservation of the lost job is committed or that there is none -/
  | reconcileStaleJob (id resumed : ℕ) (accounted : Bool)
  /-- `reconcile_cancelled_jobs` -/
  | reconcileCancelledJob (id : ℕ) (accounted : Bool)
  /-- the reservation that awaits reconciliation is settled, by an operator or by an observation of
  the machine, or the jobs to come ask for nothing that is not allocated -/
  | reconcileReservation
  /-- `reconcile_persisted_inventory` -/
  | reconcilePersistedInventory
  /-- the Terraform process of the worker writes `terraform.tfstate`, or one that was left does -/
  | terraformWrites (raw : Bytes)
  | abandonedWrites (raw : Bytes)
  /-- a task of the provider stops -/
  | taskEnds (upid : ℕ) (ok : Bool)
  /-- a machine starts or stops -/
  | vmRuns (vmId : ℕ) (running : Bool)
  | otherCreates (vmId : ℕ) (node : String)
  | otherDeletes (vmId : ℕ)

/-! ### Payloads -/

/-- `approve_job` for the approval step of a workflow. -/
def WorkflowApproval.approve (approval : WorkflowApproval) (planSha256 : Option String) :
    WorkflowApproval :=
  { approval with status := .approved, approvedPlanSha256 := planSha256 }

/-- The checksum that an approval of a job is for. -/
def Payload.planSha256 (payload : Payload) : Option String :=
  truthy (payload.workflowRuntime.bind (·.planSha256))

/-- `provider_checkpointed` of `retry_job`.  The key `_proxmox_runtime`, which it also reads, is
written nowhere. -/
def Payload.checkpointed (payload : Payload) : Bool :=
  (payload.workflowRuntime.map (·.providerApplied)).getD false

/-- The payload of a retry. -/
def Payload.retry (payload : Payload) (kept : Bool) : Payload :=
  { payload with
    workflowRuntime := if kept then payload.workflowRuntime else none
    workflowApproval := none, stateRecovery := false, autoResume := none
    resumeAfterProviderApply := kept }

/-- The job goes on after an approval step. -/
def Job.approved (approval : WorkflowApproval) (row : Job) : Job :=
  { row with
    payload := { row.payload with workflowApproval := some approval }, status := .queued }

/-- The inventory was made again from the state while this job was the active one. -/
def Job.withStateRecovery (row : Job) : Job :=
  { row with payload := { row.payload with stateRecovery := true } }

/-- The checkpoint of a job is kept by a retry. -/
def Job.keepsCheckpoint (row : Job) : Bool :=
  row.operation.provisioning && row.payload.checkpointed

/-- The job that `retry_job` makes. -/
def Job.retried (original id : ℕ) (previousStatus : DeploymentStatus) (row : Job) : Job where
  operation := row.operation
  payload := { row.payload.retry row.keepsCheckpoint with previousStatus := previousStatus }
  retryOf := some original
  lineage := if row.keepsCheckpoint then row.lineage else id

/-- The job that `queue_automatic_resume` makes. -/
def Job.resumed (id : ℕ) (row : Job) : Job :=
  { row with
    status := .queued, source := .recovery, retryOf := some id
    payload := { row.payload with
      stateRecovery := false
      autoResume := some ⟨(row.payload.autoResume.map (·.count)).getD 0 + 1, true⟩ } }

namespace Site

/-! ### Jobs -/

/-- `new_job` lets the deployment have a job with this operation. -/
def accepts (s : Site) (operation : Operation) : Bool :=
  s.deployment.activeJobId = none && s.deployment.status ≠ .destroyed
    && (s.deployment.status ≠ .reconciliationRequired || operation = .terraformPlan)

/-- `prepare_job_reservation`: while a reservation of the deployment awaits reconciliation, only a
destroy gets one of its own. -/
def admits (s : Site) (operation : Operation) : Bool :=
  !(s.deployment.uncertain && (operation.provisioning || operation = .terraformImport))

/-- The payload of a new job: provisioning takes the workflow of the deployment. -/
def newPayload (s : Site) (operation : Operation) (force : Bool) : Payload :=
  let payload : Payload := { previousStatus := s.deployment.status, force := force }
  if operation.provisioning then
    { payload with
      blueprint := s.deployment.blueprint, ansibleRuns := s.deployment.ansibleRuns }
  else payload

def newRow (s : Site) (id : ℕ) (operation : Operation) (force gated : Bool) : Job where
  operation := operation
  payload := s.newPayload operation force
  status := if gated then .waitingApproval else .queued
  lineage := id

def newJob (s : Site) (id : ℕ) (operation : Operation) (force gated : Bool) : Site :=
  if s.accepts operation && (gated || s.admits operation) && s.jobs.find? id = none then
    s.addJob id (s.newRow id operation force gated) .queued
  else s

def approveJob (s : Site) (id : ℕ) : Site :=
  match s.jobs.find? id with
  | none => s
  | some row =>
    if row.status ≠ .waitingApproval ∨ ¬s.admits row.operation then s
    else match row.payload.workflowApproval.filter (·.status = .pending) with
      | some approval =>
        let digest := row.payload.planSha256
        if approval.stepId = ""
            ∨ (truthy approval.planSha256).any (some · ≠ digest) then s
        else
          ({ s with jobs := s.jobs.put id (row.approved (approval.approve digest)) }
            |>.updateOwned id (·.requeue row.operation)).note
              (.approved id approval.stepId digest)
      | none =>
        { s with jobs := s.jobs.put id { row with status := .queued } }.updateOwned id
          (·.requeue row.operation)

def cancelJob (s : Site) (id : ℕ) : Site :=
  match s.jobs.find? id with
  | none => s
  | some row =>
    if ¬row.status.waiting then s
    else
      let status := if row.operation = .terraformPlan then row.payload.previousStatus
        else .cancelled
      let s := { s with
        jobs := s.jobs.put id { row with status := .cancelled }
        plan := if row.status = JobStatus.waitingApproval then none else s.plan }
      s.updateOwned id fun d => { d with activeJobId := none, status := status }

def retryJob (s : Site) (original id : ℕ) : Site :=
  match s.jobs.find? original with
  | none => s
  | some row =>
    if (row.status = .failed ∨ row.status = .cancelled) ∧ s.accepts row.operation
        ∧ s.admits row.operation ∧ s.jobs.find? id = none then
      { s with plan := if row.keepsCheckpoint then s.plan else none }.addJob id
        (row.retried original id s.deployment.status) .queued
    else s

/-- `_safe_to_auto_retry`. -/
def safeToAutoRetry (s : Site) (row : Job) (accounted : Bool) : Bool :=
  let runtime := row.payload.workflowRuntime
  (row.payload.stateRecovery || row.payload.autoResume.any (·.fromPersistedState)
      || runtime.any fun r => r.providerApplied && r.inventorySynced)
    && s.deployment.inventory && accounted

/-- `queue_automatic_resume` makes a job. -/
def resumes (cfg : Settings) (s : Site) (id : ℕ) (row : Job) (accounted : Bool) : Bool :=
  cfg.workerAutoResumeEnabled && row.operation.provisioning
    && s.deployment.activeJobId = some id && s.safeToAutoRetry row accounted
    && (row.payload.autoResume.map (·.count)).getD 0 < cfg.workerAutoResumeMaxAttempts

def reconcileStaleJob (cfg : Settings) (s : Site) (id resumed : ℕ) (accounted : Bool) : Site :=
  match s.jobs.find? id with
  | none => s
  | some row =>
    if row.status ≠ .running ∨ s.atWork = some id then s
    else
      let s' := { s with jobs := s.jobs.put id { row with status := .failed } }
      if s.resumes cfg id row accounted ∧ s.jobs.find? resumed = none then
        s'.addJob resumed (row.resumed id) .recoveryQueued
      else (s'.updateOwned id fun d => { d with activeJobId := none, status := .failed }).markUncertain
        !accounted

def reconcileCancelledJob (s : Site) (id : ℕ) (accounted : Bool) : Site :=
  match s.jobs.find? id with
  | none => s
  | some row =>
    if row.status ≠ .running ∨ s.atWork = some id then s
    else
      let status := if row.operation.uncertainTerraform then .reconciliationRequired
        else .cancelled
      ({ s with jobs := s.jobs.put id { row with status := .cancelled } }.updateOwned id
        fun d => { d with activeJobId := none, status := status }).markUncertain !accounted

/-- The inventory of a deployment is made again from its stored state; the active job keeps that
as evidence. -/
def reconcilePersistedInventory (s : Site) : Site :=
  if s.state.isSome ∧ ¬s.deployment.inventory then
    let s := s.setDeployment ({ · with inventory := true })
    match s.deployment.activeJobId with
    | none => s
    | some id => s.updateJob id fun row =>
      if row.operation = .terraformApply then row.withStateRecovery else row
  else s

/-! ### Terraform and the provider -/

/-- Terraform writes its state. -/
def writeState (s : Site) (raw : Bytes) : Site :=
  { s with workspace := { s.workspace with tfstate := some raw }, latest := some raw }

/-- A clone that fails takes its machine away, a deletion that ends well takes any. -/
def endTask (s : Site) (upid : ℕ) (ok : Bool) : Site :=
  match s.tasks.find? upid with
  | none => s
  | some task =>
    if task.exit.isSome then s
    else
      let s := { s with tasks := s.tasks.put upid { task with exit := some ok } }
      match task.kind, ok with
      | .clone vmId, false =>
        if (s.vms.find? vmId).any (·.cloneTask = some upid) then
          { s with vms := s.vms.erase vmId }
        else s
      | .delete vmId, true => { s with vms := s.vms.erase vmId }
      | _, _ => s

def outside (cfg : Settings) (s : Site) : Outside → Site
  | .newJob id operation force gated => s.newJob id operation force gated
  | .approveJob id => s.approveJob id
  | .cancelJob id => s.cancelJob id
  | .retryJob original id => s.retryJob original id
  | .reconcileStaleJob id resumed accounted => s.reconcileStaleJob cfg id resumed accounted
  | .reconcileCancelledJob id accounted => s.reconcileCancelledJob id accounted
  | .reconcileReservation => s.setDeployment ({ · with uncertain := false })
  | .reconcilePersistedInventory => s.reconcilePersistedInventory
  | .terraformWrites raw => if s.process.any (· ≠ .plan) then s.writeState raw else s
  | .abandonedWrites raw => if s.abandoned then s.writeState raw else s
  | .taskEnds upid ok => s.endTask upid ok
  | .vmRuns vmId running =>
    match s.vms.find? vmId with
    | some vm => { s with vms := s.vms.put vmId { vm with running := running } }
    | none => s
  | .otherCreates vmId node =>
    if s.vms.find? vmId = none then { s with vms := s.vms.put vmId { node := node } } else s
  | .otherDeletes vmId => { s with vms := s.vms.erase vmId }

/-! ### Workers -/

/-- The job runs, and its worker begins. -/
def claimed (s : Site) (job : ℕ) (row : Job) : Site :=
  let s := { s with
    jobs := s.jobs.put job { row with status := .running }
    atWork := some job, memory := {}, run := s.run + 1 }
  s.updateOwned job ({ · with status := .running })

theorem claimed_deployment (s : Site) (job : ℕ) (row : Job) :
    (s.claimed job row).deployment.vars = s.deployment.vars
      ∧ (s.claimed job row).deployment.blueprint = s.deployment.blueprint := by
  dsimp only [claimed, updateOwned, setDeployment]
  split <;> exact ⟨rfl, rfl⟩

/-- A worker claims a queued job. -/
def claim (job : ℕ) (s : Site) : Option (Site × Code Unit) :=
  match s.jobs.find? job with
  | none => none
  | some row =>
    if row.status = .queued then
      some (s.claimed job row, executeUnfenced row.operation row.payload)
    else none

theorem claim_eq_some {job : ℕ} {s s' : Site} {code : Code Unit}
    (h : s.claim job = some (s', code)) :
    ∃ row, s.jobs.find? job = some row ∧ row.status = .queued ∧ s' = s.claimed job row
      ∧ code = executeUnfenced row.operation row.payload := by
  unfold claim at h
  split at h
  · cases h
  next row hr =>
  split at h
  · next hstatus =>
    cases h
    exact ⟨row, hr, hstatus, rfl, rfl⟩
  · cases h

/-- The worker is lost; its Terraform process may go on. -/
def lose (survives : Bool) (s : Site) : Site :=
  { s with
    atWork := none, process := none
    abandoned := s.abandoned || survives && s.process.any (· ≠ .plan) }

end Site

/-- The deployment with its worker. -/
def plant (cfg : Settings) : Plant Cmd.Ans Raised Site Input ℕ Bool Outside where
  handle := Site.handle cfg
  start := Site.claim
  lose := Site.lose
  outside := fun m s => s.outside cfg m

abbrev Run := List (Interaction.Move ℕ Input Bool Outside)

/-- The state after a run that starts without a worker. -/
def runFrom (cfg : Settings) (s : Site) (moves : Run) : Site :=
  (Transition.run (plant cfg).step ⟨s, none⟩ moves).world

/-- The parts of the world. -/
inductive Part
  | deployment | vars | jobs | state | plan | tfstate | tfplan | process | latest
  | vms | tasks | observed | worker | memory
  deriving DecidableEq, Repr

inductive EventKind
  | usedState | applied | stepStarted | recorded | ansible | approved
  | clone | configure | start | stop | delete
  deriving DecidableEq, Repr

@[simp] def Event.kind : Event → EventKind
  | .usedState .. => .usedState
  | .applied .. => .applied
  | .stepStarted .. => .stepStarted
  | .recorded .. => .recorded
  | .ansible .. => .ansible
  | .approved .. => .approved
  | .cloneSubmitted .. => .clone
  | .configureSubmitted .. => .configure
  | .startSubmitted .. => .start
  | .stopSubmitted .. => .stop
  | .deleteSubmitted .. => .delete

/-- This part of the world is as it was. -/
def Part.Same (s s' : Site) : Part → Prop
  | .deployment => s'.deployment = s.deployment
  | .vars => s'.deployment.vars = s.deployment.vars
  | .jobs => s'.jobs = s.jobs
  | .state => s'.state = s.state
  | .plan => s'.plan = s.plan
  | .tfstate => s'.workspace.tfstate = s.workspace.tfstate
  | .tfplan => s'.workspace.tfplan = s.workspace.tfplan
  | .process => s'.process = s.process
  | .latest => s'.latest = s.latest
  | .vms => s'.vms = s.vms
  | .tasks => s'.tasks = s.tasks
  | .observed => s'.observed = s.observed
  | .worker => s'.atWork = s.atWork
  | .memory => s'.memory = s.memory

/-- `s'` differs from `s` in these parts only, and in new events of these kinds. -/
structure Frame (parts : List Part) (kinds : List EventKind) (s s' : Site) : Prop where
  deployment : .deployment ∉ parts → s'.deployment = s.deployment
  vars : .vars ∉ parts → s'.deployment.vars = s.deployment.vars
  blueprint : s'.deployment.blueprint = s.deployment.blueprint
  jobs : .jobs ∉ parts → s'.jobs = s.jobs
  state : .state ∉ parts → s'.state = s.state
  plan : .plan ∉ parts → s'.plan = s.plan
  tfstate : .tfstate ∉ parts → s'.workspace.tfstate = s.workspace.tfstate
  tfplan : .tfplan ∉ parts → s'.workspace.tfplan = s.workspace.tfplan
  process : .process ∉ parts → s'.process = s.process
  latest : .latest ∉ parts → s'.latest = s.latest
  vms : .vms ∉ parts → s'.vms = s.vms
  tasks : .tasks ∉ parts → s'.tasks = s.tasks
  observed : .observed ∉ parts → s'.observed = s.observed
  worker : .worker ∉ parts → s'.atWork = s.atWork
  memory : .memory ∉ parts → s'.memory = s.memory
  abandoned : s'.abandoned = s.abandoned
  run : s'.run = s.run
  events : ∃ new, s'.events = new ++ s.events ∧ ∀ e ∈ new, e.kind ∈ kinds

section Frame

variable {parts : List Part} {kinds : List EventKind} {s s' s'' : Site}

/-- The parts of a world that is written out are compared one by one. -/
theorem Frame.of_fields (same : ∀ part ∉ parts, part.Same s s' := by
      intro part
      cases part <;> first
        | exact absurd (by decide)
        | exact fun _ => rfl
        | exact fun _ => (apply_ite Deployment.vars _ _ _).trans (ite_self _))
    (blueprint : s'.deployment.blueprint = s.deployment.blueprint := by
      first | rfl | exact (apply_ite Deployment.blueprint _ _ _).trans (ite_self _))
    (abandoned : s'.abandoned = s.abandoned := by rfl) (run : s'.run = s.run := by rfl)
    (events : ∃ new, s'.events = new ++ s.events ∧ ∀ e ∈ new, e.kind ∈ kinds := by
      first
      | exact ⟨[], rfl, List.forall_mem_nil _⟩
      | exact ⟨[_], rfl, by simp⟩
      | exact ⟨[_, _], rfl, by simp⟩) :
    Frame parts kinds s s' :=
  ⟨same _, same _, blueprint, same _, same _, same _, same _, same _, same _, same _, same _,
    same _, same _, same _, same _, abandoned, run, events⟩

theorem Frame.same (h : Frame parts kinds s s') {part : Part} (hpart : part ∉ parts) :
    part.Same s s' := by
  cases part <;> first
    | exact h.deployment hpart | exact h.vars hpart | exact h.jobs hpart | exact h.state hpart
    | exact h.plan hpart | exact h.tfstate hpart | exact h.tfplan hpart | exact h.process hpart
    | exact h.latest hpart | exact h.vms hpart | exact h.tasks hpart | exact h.observed hpart
    | exact h.worker hpart | exact h.memory hpart

theorem Frame.trans (h : Frame parts kinds s s') (h' : Frame parts kinds s' s'') :
    Frame parts kinds s s'' := by
  refine .of_fields (fun part hpart => ?_) (h'.blueprint.trans h.blueprint)
    (h'.abandoned.trans h.abandoned) (h'.run.trans h.run) ?_
  · cases part <;> exact (h'.same hpart).trans (h.same hpart)
  obtain ⟨new, hn, hkind⟩ := h.events
  obtain ⟨new', hn', hkind'⟩ := h'.events
  refine ⟨new' ++ new, by rw [hn', hn, List.append_assoc], fun e he => ?_⟩
  exact (List.mem_append.1 he).elim (hkind' e) (hkind e)

/-- An event of another kind is not new. -/
theorem Frame.mem_events (h : Frame parts kinds s s') {e : Event} (he : e ∈ s'.events)
    (hk : e.kind ∉ kinds) : e ∈ s.events := by
  obtain ⟨new, hn, hkind⟩ := h.events
  rw [hn] at he
  exact (List.mem_append.1 he).resolve_left fun hin => hk (hkind e hin)

end Frame

/-! ### Commands -/

/-- The parts that a command writes. -/
@[simp] def Cmd.parts : Cmd → List Part
  | .update _ => [.memory]
  | .persistWorkflowRuntime | .persistProvision _ => [.jobs]
  | .availability | .pauseForApproval .. | .finish _ => [.deployment, .jobs, .worker]
  | .registerInventory | .markDestroyed => [.deployment]
  | .reserveVmid => [.deployment, .vars]
  | .restoreState => [.tfstate]
  | .persistState => [.state]
  | .unlinkPlan | .restorePlan _ => [.tfplan]
  | .persistPlan | .deletePlan => [.plan]
  | .popen _ => [.process]
  | .wait => [.process, .tfplan]
  | .vmStatus .. => [.observed]
  | .cloneVm .. => [.vms, .tasks]
  | .configureVm .. | .startVm .. | .stopVm .. | .deleteVm .. => [.tasks]
  | _ => []

/-- The kinds of events that a command adds. -/
@[simp] def Cmd.eventKinds : Cmd → List EventKind
  | .stepStart _ => [.stepStarted]
  | .persistWorkflowRuntime | .pauseForApproval .. => [.recorded]
  | .popen _ => [.usedState, .applied]
  | .ansible _ => [.ansible]
  | .cloneVm .. => [.clone]
  | .configureVm .. => [.configure]
  | .startVm .. => [.start]
  | .stopVm .. => [.stop]
  | .deleteVm .. => [.delete]
  | _ => []

/-- The command leaves the world as it is. -/
def Cmd.quiet (c : Cmd) : Prop := c.parts = [] ∧ c.eventKinds = []

/-- The command does nothing if it raises. -/
def Cmd.atomic : Cmd → Bool
  | .update _ | .unlinkPlan | .wait | .ansible _ | .finish _ => false
  | .cloneVm .. | .configureVm .. | .startVm .. | .stopVm .. | .deleteVm .. => false
  | _ => true

theorem handle_raises {c : Cmd} {i : Input} {e : Raised} (hc : c.atomic = true)
    (h : i.raises = some e) (cfg : Settings) (job : ℕ) (s : Site) :
    (Site.handle cfg job c s i).1 = s := by
  cases c <;> first | rfl | exact absurd hc Bool.false_ne_true | simp only [Site.handle, h]

theorem handle_quiet {c : Cmd} (h : c.quiet) (cfg : Settings) (job : ℕ) (s : Site) (i : Input) :
    (Site.handle cfg job c s i).1 = s := by
  obtain ⟨hparts, hkinds⟩ := h
  cases c with
  | taskStatus upid =>
    cases hr : i.raises with
    | some e => exact handle_raises rfl hr cfg job s
    | none =>
      simp only [Site.handle, hr]
      split <;> rfl
  | readMemory | payload | vars | stateExists | planExists => rfl
  | check | log | progress | stage _ | external | polls | conditionsMatch _ | prepareWorkspace
  | hashPlan | stopTask _ | vmConfig _ _ =>
    cases hr : i.raises with
    | some | none => simp only [Site.handle, hr]
  | _ => simp at hparts hkinds

theorem handle_frame (cfg : Settings) (job : ℕ) (c : Cmd) (s : Site) (i : Input) :
    Frame c.parts c.eventKinds s (Site.handle cfg job c s i).1 := by
  by_cases hquiet : c.quiet
  · rw [handle_quiet hquiet]
    exact .of_fields
  by_cases hraised : c.atomic = true ∧ i.raises.isSome = true
  · obtain ⟨e, he⟩ := Option.isSome_iff_exists.1 hraised.2
    rw [handle_raises hraised.1 he]
    exact .of_fields
  have hn (hc : c.atomic = true) : i.raises = none := by
    cases h : i.raises with
    | none => rfl
    | some e => exact absurd ⟨hc, by rw [h]; rfl⟩ hraised
  cases c with
  | update | unlinkPlan | ansible =>
    simp only [Site.handle, Cmd.parts, Cmd.eventKinds]
    exact .of_fields
  | stepStart | persistWorkflowRuntime | deletePlan | popen | registerInventory | markDestroyed
  | vmStatus | availability | persistProvision | pauseForApproval | restoreState | persistState
  | persistPlan | restorePlan | reserveVmid =>
    simp only [Cmd.parts, Cmd.eventKinds, Site.handle, hn rfl, Site.record,
      Site.persistProvision, Site.pauseForApproval, Site.restoreState, Site.persistState,
      Site.persistPlan, Site.restorePlan, Site.popen, Site.reserveVmid]
    repeat' split
    all_goals exact .of_fields
  | wait | cloneVm | configureVm | startVm | stopVm | deleteVm =>
    simp only [Cmd.parts, Cmd.eventKinds, Site.handle, Site.endProcess, Site.cloneVm,
      Site.machineTask]
    repeat' split
    all_goals exact .of_fields
  | finish outcome =>
    have hended (row : Job) :
        Frame [.deployment, .jobs, .worker] [] s (s.endJob job row outcome i.flag) := .of_fields
    simp only [Cmd.parts, Cmd.eventKinds, Site.handle, Site.finish]
    repeat' split
    · exact .of_fields
    · exact .of_fields
    · next row _ _ => exact (hended row).trans .of_fields
    · next row _ _ => exact (hended row).trans .of_fields
  | _ => exact absurd ⟨rfl, rfl⟩ hquiet

/-! ### Outside moves -/

/-- The parts that an outside move writes. -/
@[simp] def Outside.parts : Outside → List Part
  | .newJob .. | .approveJob _ | .reconcileStaleJob .. | .reconcileCancelledJob ..
  | .reconcilePersistedInventory => [.deployment, .jobs]
  | .reconcileReservation => [.deployment]
  | .cancelJob _ | .retryJob .. => [.deployment, .jobs, .plan]
  | .terraformWrites _ | .abandonedWrites _ => [.tfstate, .latest]
  | .taskEnds .. => [.vms, .tasks]
  | .vmRuns .. | .otherCreates .. | .otherDeletes _ => [.vms]

/-- The kinds of events that an outside move adds. -/
@[simp] def Outside.eventKinds : Outside → List EventKind
  | .approveJob _ => [.approved]
  | _ => []

theorem outside_frame (s : Site) (cfg : Settings) (m : Outside) :
    Frame m.parts m.eventKinds s (s.outside cfg m) := by
  cases m <;> simp only [Outside.parts, Outside.eventKinds, Site.outside, Site.newJob,
    Site.approveJob, Site.cancelJob, Site.retryJob, Site.reconcileStaleJob,
    Site.reconcileCancelledJob, Site.reconcilePersistedInventory, Site.endTask]
  all_goals repeat' split
  all_goals exact .of_fields

end CloudPortal.Execution
