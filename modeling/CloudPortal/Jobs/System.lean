/-
CloudPortal/Jobs/System.lean

The job system as one transition system.  A step is a transaction of the API, the
scheduler, the dispatcher or a worker, or one of the moments of a worker's
program between two transactions; a transaction that fails changes nothing.  Runs
interleave the steps in every order, so a worker may stall between any two of
its own.

At the end stands what a step leaves alone: the jobs with the deployments, the ledger, or the
workers with the requests, the locks and the clock.  The modules that follow say what a step
does to each of them.
-/
import CloudPortal.Jobs.Day2

namespace CloudPortal

open RowStore Transition

/-- The steps of the job system. -/
inductive Step
  -- the clock
  | tick (seconds : ℕ)
  -- administration of quota: limits, and reservations that await reconciliation
  | administer (op : QuotaOp)
  -- requests and schedules
  | createDeployment (deployment : DeploymentInput) (input : JobInput)
  | createJob (input : JobInput)
  | retryJob (original id : ℕ) (approvals : List ApprovalEffect) (config : ApprovalPolicy)
  | acceptAwxOnboarding (original id : ℕ) (approvals : List ApprovalEffect) (config : ApprovalPolicy)
  | queueBlueprintDelete (id : ℕ) (scope : Scope)
  | approveJob (id : ℕ) (approves : Bool)
  | cancelJob (id : ℕ)
  | materializeScheduledJob (id : ℕ) (schedule : Schedule)
  | reconcileVm (d : ℕ) (present : Bool)
  | removeConfirmedMissingVm (d : ℕ) (purge : Bool)
  | releaseAddress (d i : ℕ) (hostname : Bool)
  | quarantineJob (id : ℕ)
  -- the dispatcher
  | expireWaitingApproval (id : ℕ) (config : ApprovalPolicy)
  | reconcileCancelledJob (id : ℕ) (rq : RqView)
  | reconcileStaleJob (id resumeId : ℕ)
  | reconcileDeploymentJobStatus (d : ℕ)
  | reconcilePersistedInventory (d : ℕ)
  | reconcileFinishedJob (requestId : ℕ)
  -- workers
  | claimJob (w id : ℕ)
  | admitClaimed (w : ℕ)
  | startBody (w : ℕ) (available : Bool)
  | deferForProvider (w : ℕ)
  | checkContext (w : ℕ) (force authorized rollback : Bool)
  | submitMutation (w : ℕ) (rollback more : Bool)
  | requestLost (w : ℕ) (rollback : Bool)
  | mutationSucceeded (w : ℕ)
  | mutationFailed (w : ℕ)
  | persistWorkflowRuntime (w : ℕ) (planSha256 : Option String)
  | registerInventory (w : ℕ)
  | commitInBody (w : ℕ)
  | pauseForApproval (w : ℕ) (stepId : String) (planSha256 : Option String) (config : ApprovalPolicy)
  | releaseAfterPause (w : ℕ)
  | deferBlueprintDelete (w : ℕ)
  | markDestroyedAfterRollback (w : ℕ)
  | finishBody (w : ℕ) (successful : Bool)
  | finalizeJob (w recoveryId : ℕ) (message : String)
  | crashWorker (w : ℕ)
  -- Day-2 actions
  | createAction (input : ActionInput)
  | approveAction (requestId : ℕ) (live : Day2Live) (approves : Bool)
  | cancelAction (requestId : ℕ)
  | claimDay2Job (w id : ℕ) (valid : Bool)
  | failBeforeExecution (w : ℕ) (message : String)
  | checkDay2Context (w : ℕ) (authorized : Bool)
  | submitDay2 (w : ℕ)
  | confirmDay2 (w : ℕ)
  | finishDay2 (w : ℕ) (successful : Bool)
  | finalizeDay2 (w : ℕ) (warnings : Bool) (message : String)

/-- The requests of an operator (`app/quotas/routes.py`). -/
def QuotaOp.isAdministration : QuotaOp → Bool
  | .setProjectLimit .. | .setTenantLimit .. | .clearProjectLimit .. | .clearTenantLimit ..
  | .reconcile .. => true
  | _ => false

/-- Execute one step. -/
def Step.apply (cfg : Settings) (s : System) : Step → Except Failure System
  | .tick seconds => .ok { s with now := s.now + seconds }
  | .administer op => do
      ensure .notEnabled op.isAdministration
      let l ← ofQuota (op.apply s.ledger)
      .ok (s.withLedger l)
  | .createDeployment deployment input => CloudPortal.createDeployment s deployment input
  | .createJob input => CloudPortal.createJob s input
  | .retryJob original id approvals config => CloudPortal.retryJob s original id approvals config
  | .acceptAwxOnboarding original id approvals config =>
    CloudPortal.acceptAwxOnboarding s original id approvals config
  | .queueBlueprintDelete id scope => CloudPortal.queueBlueprintDelete s id scope
  | .approveJob id approves => CloudPortal.approveJob s id approves
  | .cancelJob id => CloudPortal.cancelJob s id
  | .materializeScheduledJob id schedule => CloudPortal.materializeScheduledJob s id schedule
  | .reconcileVm d present => CloudPortal.reconcileVm s d present
  | .removeConfirmedMissingVm d purge => CloudPortal.removeConfirmedMissingVm s d purge
  | .releaseAddress d i hostname => CloudPortal.releaseAddress s d i hostname
  | .quarantineJob id => CloudPortal.quarantineJob s id
  | .expireWaitingApproval id config => CloudPortal.expireWaitingApproval s id config
  | .reconcileCancelledJob id rq => CloudPortal.reconcileCancelledJob s id rq
  | .reconcileStaleJob id resumeId => CloudPortal.reconcileStaleJob cfg s id resumeId
  | .reconcileDeploymentJobStatus d => CloudPortal.reconcileDeploymentJobStatus s d
  | .reconcilePersistedInventory d => CloudPortal.reconcilePersistedInventory s d
  | .reconcileFinishedJob requestId => CloudPortal.reconcileFinishedJob s requestId
  | .claimJob w id => CloudPortal.claimJob s w id
  | .admitClaimed w => CloudPortal.admitClaimed s w
  | .startBody w available => CloudPortal.startBody s w available
  | .deferForProvider w => CloudPortal.deferForProvider cfg s w
  | .checkContext w force authorized rollback =>
    CloudPortal.checkContext s w force authorized rollback
  | .submitMutation w rollback more => CloudPortal.submitMutation s w rollback more
  | .requestLost w rollback => CloudPortal.requestLost s w rollback
  | .mutationSucceeded w => CloudPortal.mutationSucceeded s w
  | .mutationFailed w => CloudPortal.mutationFailed s w
  | .persistWorkflowRuntime w planSha256 => CloudPortal.persistWorkflowRuntime s w planSha256
  | .registerInventory w => CloudPortal.registerInventory s w
  | .commitInBody w => CloudPortal.commitInBody s w
  | .pauseForApproval w stepId planSha256 config =>
    CloudPortal.pauseForApproval s w stepId planSha256 config
  | .releaseAfterPause w => CloudPortal.releaseAfterPause s w
  | .deferBlueprintDelete w => CloudPortal.deferBlueprintDelete s w
  | .markDestroyedAfterRollback w => CloudPortal.markDestroyedAfterRollback s w
  | .finishBody w successful => CloudPortal.finishBody s w successful
  | .finalizeJob w recoveryId message => CloudPortal.finalizeJob s w recoveryId message
  | .crashWorker w => CloudPortal.crashWorker s w
  | .createAction input => CloudPortal.createAction cfg s input
  | .approveAction requestId live approves => CloudPortal.approveAction cfg s requestId live approves
  | .cancelAction requestId => CloudPortal.cancelAction s requestId
  | .claimDay2Job w id valid => CloudPortal.claimDay2Job cfg s w id valid
  | .failBeforeExecution w message => CloudPortal.failBeforeExecution s w message
  | .checkDay2Context w authorized => CloudPortal.checkDay2Context cfg s w authorized
  | .submitDay2 w => CloudPortal.submitDay2 s w
  | .confirmDay2 w => CloudPortal.confirmDay2 s w
  | .finishDay2 w successful => CloudPortal.finishDay2 s w successful
  | .finalizeDay2 w warnings message => CloudPortal.finalizeDay2 s w warnings message

/-- One step of a run. -/
def Step.exec (cfg : Settings) (s : System) (a : Step) : System :=
  Transition.attempt (Step.apply cfg) s a

/-- A run of the job system. -/
def systemRun (cfg : Settings) (s : System) (steps : List Step) : System :=
  Transition.run (Step.exec cfg) s steps

/-- The empty database of an installation with these projects. -/
def System.initial (scopes : Finset Scope) : System := { ledger := Ledger.empty scopes }

variable {cfg : Settings} {s : System}

/-- What every step that meets `ok` preserves holds after every run whose steps all
meet it. -/
theorem systemRun_invariant {ok : System → Step → Prop} (Inv : System → Prop)
    (hstep : ∀ s a s', Step.apply cfg s a = .ok s' → ok s a → Inv s → Inv s')
    (h : Inv s) {steps : List Step} (ho : Transition.Guarded ok (Step.exec cfg) s steps) :
    Inv (systemRun cfg s steps) := by
  refine guarded_invariant (fun s a hs ho => ?_) h ho
  exact attempt_invariant hs fun s' hs' => hstep s a s' hs' ho hs

/-- What every step preserves holds after every run. -/
theorem systemRun_preserves (Inv : System → Prop)
    (hstep : ∀ s a s', Step.apply cfg s a = .ok s' → Inv s → Inv s') (h : Inv s)
    (steps : List Step) : Inv (systemRun cfg s steps) := by
  refine run_invariant (fun s a hs => ?_) h steps
  exact attempt_invariant hs fun s' hs' => hstep s a s' hs' hs

/-- One project. -/
def demoScopes : Finset Scope := {⟨1, 1⟩}

/-- Approvals are automatic. -/
def demoPolicy : ApprovalPolicy := ⟨true, 48⟩

/-- A deployment of one machine. -/
def demoDeployment : DeploymentInput :=
  { id := 1, scope := ⟨1, 1⟩, provider := .proxmox, capacity := { cpu := some (.integer 2) } }

/-- A request for a job on that deployment. -/
def demoJob (id : ℕ) (operation : Operation) : JobInput :=
  { id := id, operation := operation, deploymentId := some 1, scope := ⟨1, 1⟩, config := demoPolicy }

/-- The deployment is created and the worker `0` submits its first apply, job `10`. -/
def demoApply : List Step :=
  [.createDeployment demoDeployment (demoJob 10 .terraformApply), .claimJob 0 10, .startBody 0 true,
    .checkContext 0 false true false, .submitMutation 0 false false]

/-- The first apply comes back and the job ends. -/
def demoFinish : List Step :=
  [.tick 5, .mutationSucceeded 0, .checkContext 0 false true false, .registerInventory 0,
    .commitInBody 0, .finishBody 0 true, .finalizeJob 0 0 ""]

/-! ### What a step leaves alone -/

/-- The jobs and the deployments are as they were. -/
def SameRows (s s' : System) : Prop := s'.jobs = s.jobs ∧ s'.deployments = s.deployments

/-- The clock, the workers, the requests and their locks are as they were. -/
def SameSide (s s' : System) : Prop :=
  s'.now = s.now ∧ s'.workers = s.workers ∧ s'.requests = s.requests ∧ s'.locks = s.locks

/-- What a step leaves as it was. -/
def Step.Keeps (s : System) (a : Step) (s' : System) : Prop :=
  match a with
  | .tick .. | .reconcileFinishedJob .. | .submitMutation .. | .requestLost .. | .mutationSucceeded ..
  | .mutationFailed .. | .finishBody .. | .crashWorker .. | .submitDay2 .. | .confirmDay2 ..
  | .finishDay2 .. => SameRows s s' ∧ s'.ledger = s.ledger
  | .administer .. | .reconcileVm .. => SameRows s s' ∧ SameSide s s'
  | .registerInventory .. => SameRows s s' ∧ s'.ledger = s.ledger ∧ SameSide s s'
  | .commitInBody .. | .releaseAfterPause .. => SameRows s s'
  | .queueBlueprintDelete .. | .releaseAddress .. | .expireWaitingApproval ..
  | .reconcileDeploymentJobStatus .. | .persistWorkflowRuntime .. =>
    s'.ledger = s.ledger ∧ SameSide s s'
  | .claimJob .. | .startBody .. | .deferForProvider .. | .checkContext .. | .pauseForApproval ..
  | .deferBlueprintDelete .. | .markDestroyedAfterRollback .. | .claimDay2Job ..
  | .checkDay2Context .. => s'.ledger = s.ledger
  | .createDeployment .. | .createJob .. | .retryJob .. | .acceptAwxOnboarding .. | .approveJob ..
  | .cancelJob .. | .materializeScheduledJob .. | .removeConfirmedMissingVm ..
  | .reconcileCancelledJob .. | .reconcileStaleJob .. | .reconcilePersistedInventory ..
  | .admitClaimed .. => SameSide s s'
  | _ => True

section Parts

variable {id : ℕ} {job : Job}

theorem SameSide.rfl : SameSide s s := ⟨Eq.refl _, Eq.refl _, Eq.refl _, Eq.refl _⟩

theorem insertJob_side {config : ApprovalPolicy} {pl : Option (ℕ × Deployment)} :
    ResultsMeet (SameSide s) (insertJob s id config job pl) := by
  refine .bind₂ fun _ _ => .ok ?_
  rcases pl with - | ⟨d, dep⟩
  · exact .rfl
  · exact .rfl

theorem newJob_side {r : JobRequest} : ResultsMeet (SameSide s) (newJob s r) := by
  unfold newJob
  split
  · exact insertJob_side
  · exact .bind₂ fun _ _ => insertJob_side

theorem requeue_side : ResultsMeet (SameSide s) (requeue s id job) := .bind fun _ => .ok .rfl

theorem clearProviderWait_side : SameSide s (clearProviderWait s id job)
    ∧ (clearProviderWait s id job).ledger = s.ledger := by
  unfold clearProviderWait
  split
  · exact ⟨.rfl, rfl⟩
  · exact ⟨.rfl, rfl⟩

theorem recordPersistedStateRecovery_side {act : Option ℕ} :
    SameSide s (recordPersistedStateRecovery s act) := by
  unfold recordPersistedStateRecovery
  repeat' split
  all_goals exact .rfl

end Parts

/-- Every step keeps what is said above. -/
theorem Step.keeps {cfg : Settings} {s s' : System} {a : Step} (h : a.apply cfg s = .ok s') :
    a.Keeps s s' := by
  revert s'
  show ResultsMeet (a.Keeps s) (a.apply cfg s)
  cases a with
  | tick => exact .ok ⟨⟨rfl, rfl⟩, rfl⟩
  | reconcileFinishedJob =>
    exact .bind₃ fun _ _ _ => .bind fun _ => .ok ⟨⟨rfl, rfl⟩, rfl⟩
  | submitMutation | requestLost =>
    exact .bind₃ fun _ _ _ => .ok ⟨⟨rfl, rfl⟩, rfl⟩
  | mutationSucceeded =>
    refine .bind fun _ => ?_
    dsimp only
    split
    · exact .ok ⟨⟨rfl, rfl⟩, rfl⟩
    · exact .ok ⟨⟨rfl, rfl⟩, rfl⟩
    · exact .error _
  | mutationFailed =>
    refine .bind₂ fun _ _ => ?_
    split
    · exact .ok ⟨⟨rfl, rfl⟩, rfl⟩
    · exact .error _
  | finishBody | submitDay2 | confirmDay2 => exact .bind₂ fun _ _ => .ok ⟨⟨rfl, rfl⟩, rfl⟩
  | crashWorker => exact .bind fun _ => .ok ⟨⟨rfl, rfl⟩, rfl⟩
  | finishDay2 =>
    exact .bind₂ fun _ _ => .ite
      (.bind₂ fun _ _ => .ok ⟨⟨rfl, rfl⟩, rfl⟩) (.ok ⟨⟨rfl, rfl⟩, rfl⟩)
  | administer => exact .bind₂ fun _ _ => .ok ⟨⟨rfl, rfl⟩, .rfl⟩
  | reconcileVm => exact .bind₃ fun _ _ _ => .ok ⟨⟨rfl, rfl⟩, .rfl⟩
  | registerInventory =>
    exact .bind₃ fun _ _ _ => .ok ⟨⟨rfl, rfl⟩, rfl, .rfl⟩
  | commitInBody => exact .bind₃ fun _ _ _ => .ok ⟨rfl, rfl⟩
  | releaseAfterPause =>
    exact .bind₂ fun _ _ => .ite (.ok ⟨rfl, rfl⟩) (.bind fun _ => .ok ⟨rfl, rfl⟩)
  | queueBlueprintDelete => exact .bind fun _ => .ok ⟨rfl, .rfl⟩
  | releaseAddress => exact .bind₃ fun _ _ _ => .ok ⟨rfl, .rfl⟩
  | expireWaitingApproval =>
    exact .bind₃ fun _ _ _ => .ite (.ok ⟨rfl, .rfl⟩) (.ok ⟨rfl, .rfl⟩)
  | reconcileDeploymentJobStatus =>
    refine .bind₂ fun _ _ => ?_
    split
    · exact .ok ⟨rfl, .rfl⟩
    · exact .ok ⟨rfl, .rfl⟩
  | persistWorkflowRuntime => exact .bind₂ fun _ _ => .ok ⟨rfl, .rfl⟩
  | claimJob | markDestroyedAfterRollback =>
    exact .bind₃ fun _ _ _ => .ok rfl
  | startBody =>
    refine .bind₃ fun _ _ _ => .ok ?_
    show System.ledger (if _ then _ else s) = s.ledger
    split
    · exact clearProviderWait_side.2
    · rfl
  | deferForProvider =>
    exact .bind₂ fun _ _ => .ite (.ok rfl) (.ite (.ok clearProviderWait_side.2) (.ok rfl))
  | checkContext =>
    refine .bind₂ fun _ _ => ?_
    dsimp only
    repeat' split
    all_goals first | exact .ok rfl | exact .error _
  | pauseForApproval | deferBlueprintDelete => exact .bind₂ fun _ _ => .ok rfl
  | claimDay2Job =>
    refine .bind₃ fun _ _ _ => ?_
    repeat' split
    all_goals exact .ok rfl
  | checkDay2Context =>
    refine .bind₂ fun _ _ => ?_
    dsimp only
    repeat' split
    all_goals exact .ok rfl
  | createDeployment | createJob => exact .bind fun _ => newJob_side
  | retryJob => exact .bind₂ fun _ _ => newJob_side
  | acceptAwxOnboarding =>
    exact .bind₃ fun _ _ _ => .bind₃ fun _ _ _ =>
      .bind₂ fun _ _ => newJob_side
  | approveJob =>
    refine .bind₃ fun _ _ _ => ?_
    split
    · exact .bind₃ fun _ _ _ => requeue_side
    refine .bind fun _ => .bind fun stage => ?_
    split
    · exact .ok .rfl
    · exact requeue_side
    · exact requeue_side
  | cancelJob =>
    exact .bind₂ fun _ _ => .ite (.ok .rfl) (.ite (.bind fun _ => .ok .rfl) (.ok .rfl))
  | materializeScheduledJob =>
    refine .bind₃ fun _ _ _ => .bind₃ fun _ _ _ => ?_
    dsimp only
    split
    · exact .ok .rfl
    · exact .ok .rfl
  | removeConfirmedMissingVm =>
    exact .bind₃ fun _ _ _ => .bind₂ fun _ _ => .ok .rfl
  | reconcileCancelledJob =>
    refine .bind₂ fun _ _ => .ite (.bind fun _ => .ok .rfl) (.ok ?_)
    split
    · exact .rfl
    · exact .rfl
  | reconcileStaleJob =>
    refine .bind₃ fun _ _ _ => ?_
    split
    · exact .bind fun _ => .ok .rfl
    · exact .ok .rfl
  | reconcilePersistedInventory =>
    exact .bind₃ fun _ _ _ => .ok recordPersistedStateRecovery_side
  | admitClaimed => exact .bind₃ fun _ _ _ => .bind fun _ => .ok .rfl
  | _ => exact fun _ _ => trivial

end CloudPortal
