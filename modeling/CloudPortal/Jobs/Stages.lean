/-
CloudPortal/Jobs/Stages.lean

Staged approval is complete, ordered and timely: a job with policy approval stages is
queued only after every stage was approved, one after the other, each by an actor
whom the stage allows and before the deadline of the stage.

Steps name the actor here (`GovernedStep`), and whether the actor may approve is
computed as `_approver_matches` does.  An observer writes down who approved which
stage, when, and the deadline that the stage was given when it was opened.

The two requests that approve keep the deadline at different places: `approve_job`
sets and reads `_approval.expires_at`, `approve_action` sets and reads
`_policy_approval.stage_expires_at`.  A Day-2 job is open to both.
-/
import CloudPortal.Jobs.Ownership

namespace CloudPortal

open RowStore Transition

/-! ### Approvers -/

/-- What `_approver_matches` reads of an actor: the user, the roles that the user has in the
installation, the tenant and the project of the job, and the permissions of the request. -/
structure Approver where
  userId : String
  username : String
  roleNames : List String := []
  roleIds : List String := []
  permissions : List String := []
  deriving DecidableEq, Repr

/-- The actor has one of the permissions. -/
def Approver.hasOneOf (actor : Approver) (permissions : List String) : Bool :=
  permissions.any actor.permissions.contains

/-- `_approver_matches` for one alternative. -/
def ApproverKind.allows (actor : Approver) : ApproverKind → Bool
  | .anyone => true
  | .role name id => name.any actor.roleNames.contains || id.any actor.roleIds.contains
  | .user id username =>
    id.all (· = actor.userId) && username.all (· = actor.username)
      && (id.isSome || username.isSome)
  | .permission name => name.any fun p => p ≠ "" && actor.permissions.contains p
  | .projectAdmin =>
    actor.hasOneOf ["projects.members.manage", "projects.roles.assign", "governance.admin"]
  | .tenantAdmin =>
    actor.hasOneOf ["tenants.members.manage", "tenants.roles.assign", "governance.admin"]
  | .apmidOwner | .unknown => false

/-- `_approver_matches`. -/
def approverMatches (spec : List ApproverKind) (actor : Approver) : Bool :=
  spec.isEmpty || spec.any (·.allows actor)

/-! ### Approvals with their actors -/

/-- The stage that waits for an approval. -/
def PolicyApproval.openStage (state : PolicyApproval) : Option ApprovalStage :=
  state.stages[state.currentStage]?

/-- The actor may approve the open stage of a job. -/
def System.mayApprove (s : System) (id : ℕ) (actor : Approver) : Bool :=
  ((s.jobs.find? id).bind fun job => job.payload.policyApproval.bind (·.openStage)).any fun stage =>
    approverMatches stage.approver actor

/-- The steps, with the actor of each approval. -/
inductive GovernedStep
  | other (a : Step)
  | approveJob (id : ℕ) (actor : Approver)
  | approveAction (requestId : ℕ) (live : Day2Live) (actor : Approver)

/-- The step as the job system takes it. -/
def GovernedStep.lower (s : System) : GovernedStep → Step
  | .other a => a
  | .approveJob id actor => .approveJob id (s.mayApprove id actor)
  | .approveAction r live actor =>
    .approveAction r live
      ((s.requests.find? r).any fun request => s.mayApprove request.jobId actor)

/-- Every approval has an actor. -/
def GovernedStep.wellFormed : GovernedStep → Bool
  | .other a => !a.isApproval
  | _ => true

def GovernedStep.apply (cfg : Settings) (s : System) (g : GovernedStep) :
    Except Failure System := do
  ensure .notEnabled g.wellFormed
  (g.lower s).apply cfg s

/-! ### The history of a job's stages -/

/-- An approval as it was given. -/
structure StageRecord where
  stage : ℕ
  actor : Approver
  time : ℕ
  /-- the deadline of the stage at that time -/
  deadline : Option ℕ

/-- What the observer knows about one job: the deadline of the open stage and the approvals. -/
structure StageHistory where
  deadline : Option ℕ := none
  records : List StageRecord := []

/-- `_approval.expires_at`, the deadline that `approve_job` keeps. -/
def Job.approvalExpiry (job : Job) : Option ℕ := job.payload.approval.bind (·.expiresAt)

/-- `_policy_approval.stage_expires_at`, the deadline that `approve_action` keeps. -/
def Job.stageExpiry (job : Job) : Option ℕ := job.payload.policyApproval.bind (·.stageExpiresAt)

/-- The observer of an approval: if the job moved on to the next stage, the approval is recorded
and the stage that is open now has the deadline that the request has just written. -/
def StageHistory.advance (h : StageHistory) (actor : Approver) (now : ℕ) (job job' : Job)
    (written : Job → Option ℕ) : StageHistory :=
  match job.payload.policyApproval, job'.payload.policyApproval with
  | some state, some state' =>
    if state'.currentStage = state.currentStage then h
    else
      { deadline := written job'
        records := h.records ++ [⟨state.currentStage, actor, now, h.deadline⟩] }
  | _, _ => h

/-- The observer of an approval, at the row of one job. -/
def noteApproved (s : System) (actor : Approver) (id : ℕ) (written : Job → Option ℕ) (s' : System)
    (h : ℕ → StageHistory) (x : ℕ) : StageHistory :=
  if x = id then
    match s.jobs.find? id, s'.jobs.find? id with
    | some job, some job' => (h x).advance actor s.now job job' written
    | _, _ => h x
  else h x

/-- The observer of any other step: a resumed job has the history of its predecessor, every other
new job starts with the deadline that it was created with. -/
def noteCreated (s : System) (a : Step) (s' : System) (h : ℕ → StageHistory) (x : ℕ) :
    StageHistory :=
  match s.jobs.find? x, s'.jobs.find? x with
  | none, some job =>
    match a with
    | .reconcileStaleJob id _ => h id
    | _ => { deadline := job.approvalExpiry <|> job.stageExpiry }
  | _, _ => h x

/-- The observer. -/
def noteStages (s : System) (g : GovernedStep) (s' : System) (h : ℕ → StageHistory) :
    ℕ → StageHistory :=
  match g with
  | .other a => noteCreated s a s' h
  | .approveJob id actor => noteApproved s actor id Job.approvalExpiry s' h
  | .approveAction r _ actor =>
    match s.requests.find? r with
    | some request => noteApproved s actor request.jobId Job.stageExpiry s' h
    | none => h

/-- A run with the observer. -/
def stagesRun (cfg : Settings) (scopes : Finset Scope) (steps : List GovernedStep) :
    System × (ℕ → StageHistory) :=
  Transition.run (Transition.attempt (Transition.observed (GovernedStep.apply cfg) noteStages))
    (System.initial scopes, fun _ => {}) steps

/-! ### Queued jobs were approved stage by stage -/

/-- The approval was given by an actor whom its stage allows, before the deadline. -/
def StageRecord.Valid (record : StageRecord) (stages : List ApprovalStage) : Prop :=
  ∃ stage t, stages[record.stage]? = some stage ∧ approverMatches stage.approver record.actor
    ∧ record.deadline = some t ∧ record.time < t

/-- The job has policy approval stages: they are recorded, or its payload asks for them. -/
def Job.Staged (job : Job) : Prop :=
  (∃ state, job.payload.policyApproval = some state ∧ state.stages ≠ [])
    ∨ policyApprovalStages job.payload none ≠ []

/-- Every queued job that has stages and does not resume was approved stage by stage. -/
def StagesApproved (s : System) (h : ℕ → StageHistory) : Prop :=
  ∀ id job, s.jobs.find? id = some job → job.status = .queued → job.Staged
    → job.payload.resumeAfterProviderApply = false
    → ∃ state, job.payload.policyApproval = some state ∧ state.stages ≠ []
      ∧ state.approvals = List.range state.stages.length
      ∧ (h id).records.map (·.stage) = state.approvals
      ∧ ∀ record ∈ (h id).records, record.Valid state.stages

/-- The request finds no deadline of the other kind that has passed. -/
def GovernedStep.seesDeadline (s : System) : GovernedStep → Bool
  | .other _ => true
  | .approveJob id _ => (s.jobs.find? id).all fun job => !expired s.now job.stageExpiry
  | .approveAction r _ _ => (s.requests.find? r).all fun request =>
    (s.jobs.find? request.jobId).all fun job => !expired s.now job.approvalExpiry

/-! ### What a deployment was created with stays -/

variable {cfg : Settings}

section Deployments

variable {s s' : System} {a : Step} {d : ℕ} {row row' : Deployment}

theorem Writes.deployment {id : ℕ} {job job' : Job} {cond : Deployment → Bool}
    {f : Deployment → Deployment} (h : Writes s a id job job' cond f) (hc : cond row) :
    row.Frame (f row) := by
  have hnever (h : ∀ row, cond row = false) : row.Frame (f row) := by
    rw [h row] at hc
    cases hc
  cases h with
  | finalized _ _ _ _ _ _ _ hdeployment => exact hdeployment row
  | cancelledEarly =>
    unfold Deployment.cancelEarly
    split <;> exact ⟨rfl, rfl, rfl, rfl, rfl⟩
  | expired =>
    unfold Deployment.expire
    repeat' split
    all_goals exact ⟨rfl, rfl, rfl, rfl, rfl⟩
  | claimedDay2 _ _ _ hc | deleteDeferred _ _ hc | actionQueued _ _ _ _ _ _ _ hc
  | actionCancelled _ _ hc | actionCancelling _ _ hc | requestMissing _ _ _ hc
  | failedBefore _ hc | finalizedDay2 _ hc => exact hnever hc
  | _ => exact ⟨rfl, rfl, rfl, rfl, rfl⟩

theorem Adjusts.deployment (h : Adjusts s a d row row') : row.Frame row' := by
  cases h with
  | followed =>
    unfold Deployment.follow Deployment.settle
    repeat' split
    all_goals exact ⟨rfl, rfl, rfl, rfl, rfl⟩
  | removed _ _ _ hdeployment | retired _ _ _ _ _ hdeployment => exact hdeployment
  | _ => exact ⟨rfl, rfl, rfl, rfl, rfl⟩

/-- A deployment row is never deleted. -/
theorem Step.deployment_persists (h : a.apply cfg s = .ok s')
    (hr : s.deployments.find? d = some row) :
    ∃ row', s'.deployments.find? d = some row' ∧ row.Frame row' := by
  obtain ⟨row', hr', hchange⟩ := (Step.effect h).deploymentChange hr
  refine ⟨row', hr', ?_⟩
  cases hchange with
  | same => exact .rfl
  | written _ _ hwrites hc => exact hwrites.deployment hc
  | occupied => exact ⟨rfl, rfl, rfl, rfl, rfl⟩
  | adjusted hadjusts => exact hadjusts.deployment
  | takenOver htakeover => exact htakeover.deployment row hr

/-- The jobs of `s` are there in `s'` with what no write changes, and so are its deployments, of
the same project and provider and with the same Blueprint. -/
structure System.Keeps (s s' : System) : Prop where
  jobs : ∀ id job, s.jobs.find? id = some job →
    ∃ job', s'.jobs.find? id = some job' ∧ job.Frame job'
  deployments : ∀ d row, s.deployments.find? d = some row → ∃ row', s'.deployments.find? d = some row'
    ∧ row'.scope = row.scope ∧ row'.provider = row.provider ∧ row'.blueprint = row.blueprint

/-- **Rows keep their identity**: whatever runs, no job and no deployment is deleted or becomes
another one. -/
theorem rows_persist (cfg : Settings) (s : System) (steps : List Step) :
    s.Keeps (systemRun cfg s steps) := by
  refine systemRun_preserves s.Keeps (fun t a t' h ht => ⟨fun id job hjob => ?_, fun d row hr => ?_⟩)
    ⟨fun id job hjob => ⟨job, hjob, .rfl⟩, fun d row hr => ⟨row, hr, rfl, rfl, rfl⟩⟩ steps
  · obtain ⟨job₁, hjob₁, hf⟩ := ht.jobs id job hjob
    obtain ⟨job₂, hjob₂, hf'⟩ := Step.job_persists h hjob₁
    exact ⟨job₂, hjob₂, hf.trans hf'⟩
  · obtain ⟨row₁, hr₁, hs, hp, hb⟩ := ht.deployments d row hr
    obtain ⟨row₂, hr₂, hf⟩ := Step.deployment_persists h hr₁
    exact ⟨row₂, hr₂, hf.scope.trans hs, hf.provider.trans hp, hf.blueprint.trans hb⟩

end Deployments

/-- The stages that a payload asks for do not vanish while the Blueprint of the deployment stays. -/
theorem policyApprovalStages_ne_nil {p : Payload} {pl pl' : Option Deployment}
    (hplace : ∀ row, pl = some row → ∃ row', pl' = some row' ∧ row'.blueprint = row.blueprint)
    (h : policyApprovalStages p pl ≠ []) : policyApprovalStages p pl' ≠ [] := by
  cases pl with
  | some row =>
    obtain ⟨row', rfl, hblueprint⟩ := hplace row rfl
    simpa only [policyApprovalStages, blueprintSnapshot, Option.bind_some, hblueprint] using h
  | none =>
    cases hpayload : p.blueprint with
    | some blueprint =>
      unfold policyApprovalStages blueprintSnapshot at h ⊢
      rw [hpayload] at h ⊢
      exact h
    | none =>
      simp only [policyApprovalStages, blueprintSnapshot, hpayload, ne_eq,
        policyApprovalStagesFromEffects_eq_nil, List.append_eq_nil_iff] at h ⊢
      exact fun hempty => h ⟨hempty.1, rfl⟩

/-! ### No stage is lost -/

/-- `effects` of `policy_approval_stages`. -/
def approvalEffects (job : Job) (deployment : Option Deployment) : List ApprovalEffect :=
  job.payload.policy ++ ((blueprintSnapshot job.payload deployment).map (·.policyApprovals)).getD []

/-- The stages on which a job is gated. -/
def Job.gates (job : Job) : List ApprovalStage := (job.payload.policyApproval.map (·.stages)).getD []

/-- The approvals that the policies ask of a job, each with its policy, its stage and who may
give it. -/
def requiredApprovals (job : Job) (deployment : Option Deployment) :=
  (approvalEffects job deployment).flatMap (·.asks)

theorem policyApprovalStages_asks (job : Job) (deployment : Option Deployment) :
    (policyApprovalStages job.payload deployment).map (·.asks)
      = (requiredApprovals job deployment).take 20 := by
  rw [policyApprovalStages, policyApprovalStagesFromEffects, List.map_take, foldl_appendStages_asks]
  rfl

/-- Nothing that is asked for is lost if and only if at most twenty approvals are asked for.  A job
that resumes behind the provider is not gated again: it has to have the stages already. -/
theorem gate_asks_every_approval (job : Job) (deployment : Option Deployment) (now : ℕ)
    (config : ApprovalPolicy) :
    (requiredApprovals job deployment).Sublist
        ((gateJobForApproval now config job deployment).gates.map (·.asks))
      ↔ if job.payload.resumeAfterProviderApply then
          (requiredApprovals job deployment).Sublist (job.gates.map (·.asks))
        else (requiredApprovals job deployment).length ≤ 20 := by
  have hasks := policyApprovalStages_asks job deployment
  unfold gateJobForApproval
  split
  · next hnone =>
    -- no stages: nothing is asked for
    rw [hnone, List.map_nil, eq_comm, List.take_eq_nil_iff] at hasks
    simp [hasks.resolve_left (by decide)]
  next _ stage stages hstages =>
  split
  · rfl
  -- the stages are the first twenty approvals
  show (requiredApprovals job deployment).Sublist ((stage :: stages).map (·.asks)) ↔ _
  rw [← hstages, hasks]
  constructor
  · intro h
    have hle := h.length_le
    rw [List.length_take] at hle
    omega
  · intro h
    rw [List.take_of_length_le h]

/-- A job that waits for what the policies ask. -/
def governedJob (effects : List ApprovalEffect) : Job where
  deploymentId := none
  operation := .terraformPlan
  scope := ⟨1, 1⟩
  payload := { policy := effects }

/-- Two policies ask, each for one approval. -/
example : ((gateJobForApproval 0 ⟨false, 48⟩
    (governedJob [{ policyId := "budget" }, { policyId := "network" }]) none).gates.map (·.asks))
      = [("budget", 0, [.anyone]), ("network", 0, [.anyone])] := rfl

/-- One policy asks for twenty approvals, and that of the other is cut off. -/
theorem approval_cut_off :
    let job := gateJobForApproval 0 ⟨false, 48⟩ (governedJob
      [{ policyId := "budget", stages := List.replicate 20 { name := some "budget" } },
       { policyId := "network", approver := [.projectAdmin] }]) none
    job.status = .waitingApproval ∧ ∀ stage ∈ job.gates, stage.policyId ≠ "network" := by
  decide +kernel

/-! ### What an approval does -/

/-- What a request that approves does to its job.  `own` is the deadline that the request keeps. -/
inductive Approves (now : ℕ) (approves : Bool) (own : Job → Option ℕ) (job job' : Job) : Prop
  /-- the approval is not driven by a policy -/
  | unstaged (hnone : ∀ state, job.payload.policyApproval = some state → state.stages = [])
      (hsame : job'.payload.policyApproval = job.payload.policyApproval)
  /-- the approval step of a workflow at which the job paused -/
  | workflow (hpaused : job.payload.workflowApproval ≠ none) (hsame : job.ApprovalFrame job')
  /-- every stage was approved before -/
  | exhausted {state : PolicyApproval} {expiresAt : Option ℕ}
      (hstt : job.payload.policyApproval = some state)
      (hdone : state.stages.length ≤ state.currentStage)
      (hstt' : job'.payload.policyApproval = some { state with stageExpiresAt := expiresAt })
  | advanced {state state' : PolicyApproval} (hstt : job.payload.policyApproval = some state)
      (hopen : state.currentStage < state.stages.length) (happr : approves)
      (htimely : state.complete = false → expired now (own job) = false)
      (hstt' : job'.payload.policyApproval = some state') (hstages : state'.stages = state.stages)
      (hcurr : state'.currentStage = state.currentStage + 1)
      (happrovals : state'.approvals = state.approvals ++ [state.currentStage])
      (hcomplete : state'.complete → state'.stages.length ≤ state'.currentStage)
      (hnext : job'.status = job.status ∧ (∃ t, own job' = some t)
        ∨ job'.status = .queued ∧ state'.stages.length ≤ state'.currentStage)

/-- The rows after a request that approves. -/
structure ApprovesRow (s : System) (approves : Bool) (own : Job → Option ℕ) (id : ℕ)
    (job job' : Job) (s' : System) : Prop where
  find : s.jobs.find? id = some job
  jobs : ∀ x, s'.jobs.find? x = if x = id then some (job'.touch s.now) else s.jobs.find? x
  frame : job.Frame job'
  workflow : job'.payload.workflowApproval ≠ none → job.payload.workflowApproval ≠ none
  approves : Approves s.now approves own job job'
  runtime : Checkpoints s id job job'

/-- `approve_policy_stage`, by its three ways to end. -/
theorem approvePolicyStage_spec {policy : Option PolicyApproval} {approves : Bool}
    {res : Option (PolicyApproval × Bool)}
    (h : approvePolicyStage policy approves = .ok res) :
    (res = none ∧ ∀ state, policy = some state → state.stages = [])
      ∨ ∃ state, policy = some state
        ∧ (res = some (state, true) ∧ state.stages.length ≤ state.currentStage
          ∨ state.currentStage < state.stages.length ∧ approves ∧ ∃ state' complete,
            res = some (state', complete) ∧ state'.stages = state.stages
            ∧ state'.currentStage = state.currentStage + 1
            ∧ state'.approvals = state.approvals ++ [state.currentStage]
            ∧ state'.complete = complete
            ∧ (complete ↔ state'.stages.length ≤ state'.currentStage)) := by
  unfold approvePolicyStage at h
  split at h
  · cases h
    exact .inl ⟨rfl, nofun⟩
  next state =>
  split at h
  · next hempty =>
    cases h
    refine .inl ⟨rfl, fun state' ht' => ?_⟩
    cases ht'
    exact hempty
  refine .inr ⟨state, rfl, ?_⟩
  split at h
  · next hd =>
    cases h
    exact .inl ⟨rfl, hd⟩
  next ho =>
  cases approves with
  | false => cases h
  | true =>
    cases h
    exact .inr ⟨not_le.1 ho, rfl, _, _, rfl, rfl, rfl, rfl, rfl, by simp⟩

section Requests

variable {s s' : System} {id r : ℕ} {approves : Bool} {live : Day2Live}

/-- A request that writes what `approve_policy_stage` says approves the job. -/
theorem Approves.of_stage {now : ℕ} {own : Job → Option ℕ} {job job' : Job} {t : Option ℕ}
    {res : Option (PolicyApproval × Bool)}
    (hstage : approvePolicyStage job.payload.policyApproval approves = .ok res)
    (htimely : ∀ state, job.payload.policyApproval = some state → state.complete = false →
      expired now (own job) = false)
    (hp : job'.payload.policyApproval = match res with
      | none => job.payload.policyApproval
      | some (state', _) => some { state' with stageExpiresAt := t })
    (hnext : if res.all (·.2) then job'.status = .queued
      else job'.status = job.status ∧ ∃ t, own job' = some t) :
    Approves now approves own job job' := by
  rcases approvePolicyStage_spec hstage with ⟨rfl, hn⟩ | ⟨state, ht, ⟨rfl, hd⟩ | ⟨ho,
    happr, state', complete, rfl, hstages, hc, ha, hcomplete, hover⟩⟩
  · exact .unstaged hn hp
  · exact .exhausted ht hd hp
  refine .advanced ht ho happr (htimely state ht) hp hstages hc
    ha (fun h => hover.1 (hcomplete ▸ h)) ?_
  cases complete with
  | false => exact .inl hnext
  | true => exact .inr ⟨hnext, hover.1 rfl⟩

/-- An approved job keeps what the approval wrote when it is admitted and queued. -/
theorem requeue_jobs {job' : Job} (h : requeue s id job' = .ok s') :
    ∃ tag, ∀ x, s'.jobs.find? x = if x = id
      then some (({ job'.withQuota tag with status := .queued } : Job).touch s.now)
      else s.jobs.find? x := by
  obtain ⟨⟨tag, l⟩, -, h⟩ := ofQuota_bind_eq_ok.1 h
  cases h
  exact ⟨tag, fun x => System.find?_putJob ..⟩

/-- `approve_job`: the last approval marks the job as approved. -/
theorem approveJob_approves (h : approveJob s id approves = .ok s') :
    ∃ job job', ApprovesRow s approves Job.approvalExpiry id job job' s'
      ∧ (job.ApprovalFrame job' ∨ ∀ state', job'.payload.policyApproval = some state'
        → state'.complete → job'.payload.approved) := by
  simp only [approveJob, need_bind_eq_ok, ensure_bind_eq_ok] at h
  obtain ⟨job, hj, -, -, h⟩ := h
  split at h
  · next approval hpending =>
    have hpaused : job.payload.workflowApproval ≠ none := by
      intro hn
      rw [hn] at hpending
      cases hpending
    simp only [approveWorkflowStep, ensure_bind_eq_ok] at h
    obtain ⟨-, -, -, h⟩ := h
    obtain ⟨tag, hjobs⟩ := requeue_jobs h
    exact ⟨job, _, ⟨hj, hjobs, .of_core rfl, fun _ => hpaused,
      .workflow hpaused ⟨rfl, rfl⟩, ⟨rfl, .inl rfl⟩⟩, .inl ⟨rfl, rfl⟩⟩
  · obtain ⟨htimely, h⟩ := ensure_bind_eq_ok.1 h
    rw [Bool.not_eq_true'] at htimely
    obtain ⟨res, hstage, h⟩ := bind_eq_ok.1 h
    have hs {job' : Job} {t : Option ℕ} := @Approves.of_stage approves s.now Job.approvalExpiry
      job job' t _ hstage fun _ _ _ => htimely
    rcases res with - | ⟨state', - | -⟩
    · obtain ⟨tag, hjobs⟩ := requeue_jobs h
      exact ⟨job, _, ⟨hj, hjobs, .of_core rfl, fun h => h, hs (t := none) rfl rfl,
        ⟨rfl, .inl rfl⟩⟩, .inr fun _ _ _ => rfl⟩
    · cases h
      refine ⟨job, _, ⟨hj, fun x => System.find?_putJob .., .of_core rfl, fun h => h,
        hs rfl ⟨rfl, _, rfl⟩, ⟨rfl, .inl rfl⟩⟩, .inr fun state₁ ht₁ hc₁ => ?_⟩
      cases ht₁
      rcases approvePolicyStage_spec hstage with ⟨⟨⟩, -⟩ | ⟨-, -, ⟨⟨⟩, -⟩ | ⟨-, -, _, _, ⟨⟩, -, -, -,
        hc, -⟩⟩
      cases hc.symm.trans hc₁
    · obtain ⟨tag, hjobs⟩ := requeue_jobs h
      exact ⟨job, _, ⟨hj, hjobs, .of_core rfl, fun h => h, hs rfl rfl, ⟨rfl, .inl rfl⟩⟩,
        .inr fun _ _ _ => rfl⟩

theorem queueAction_jobs {req : ActionRequest} {job' : Job}
    (h : queueAction cfg s r req job' live = .ok s') :
    ∃ tag, ∀ x, s'.jobs.find? x = if x = req.jobId
      then some (({ job'.withQuota tag with status := .queued } : Job).touch s.now)
      else s.jobs.find? x := by
  obtain ⟨locks, -, h⟩ := bind_eq_ok.1 h
  obtain ⟨⟨tag, l⟩, -, h⟩ := ofQuota_bind_eq_ok.1 h
  cases h
  exact ⟨tag, fun x => System.find?_putJob ..⟩

theorem approveAction_approves (h : approveAction cfg s r live approves = .ok s') :
    ∃ req job job', s.requests.find? r = some req
      ∧ ApprovesRow s approves Job.stageExpiry req.jobId job job' s' := by
  simp only [approveAction, need_bind_eq_ok, ensure_bind_eq_ok] at h
  obtain ⟨req, hq, -, job, hj, htimely, h⟩ := h
  obtain ⟨res, hstage, h⟩ := bind_eq_ok.1 h
  have htimely' (state : PolicyApproval) (ht : job.payload.policyApproval = some state)
      (hincomplete : state.complete = false) : expired s.now job.stageExpiry = false := by
    simpa [ht, hincomplete, Job.stageExpiry] using htimely
  have hs {job' : Job} {t : Option ℕ} := @Approves.of_stage approves s.now Job.stageExpiry
    job job' t _ hstage htimely'
  rcases res with - | ⟨state', - | -⟩
  · obtain ⟨tag, hjobs⟩ := queueAction_jobs h
    exact ⟨req, job, _, hq, hj, hjobs, .of_core rfl, fun h => h,
      hs (t := none) rfl rfl, ⟨rfl, .inl rfl⟩⟩
  · cases h
    exact ⟨req, job, _, hq, hj, fun x => System.find?_putJob .., .of_core rfl,
      fun h => h, hs rfl ⟨rfl, _, rfl⟩, ⟨rfl, .inl rfl⟩⟩
  · obtain ⟨tag, hjobs⟩ := queueAction_jobs h
    exact ⟨req, job, _, hq, hj, hjobs, .of_core rfl, fun h => h, hs rfl rfl, ⟨rfl, .inl rfl⟩⟩

end Requests

end CloudPortal
