/-
CloudPortal/Jobs/StagedApproval.lean

Staged approval is complete, ordered and timely.  Two invariants say of one job what the
approval gate has left behind.

* `GateRow`: the policy stages which the payload asks for are recorded, the job is marked as
  approved once they are complete, and a job which resumes has a provider checkpoint to resume
  behind.  The last needs the workers: a worker of such a job knows that the mutation is done, so
  no checkpoint that it writes takes this back.
* `StageRow`: the recorded stages are those that the job asks for, the approvals so far are
  `0, 1, ..`, each valid, and the deadline of the open stage is the one that one of the two
  requests keeps.  Steps that do not approve leave this alone (`StagesTracked.other`); an approval
  moves it on by one stage (`StageProgress.approve`) as long as the deadline that the request
  does not read has not passed.
-/
import CloudPortal.Jobs.Stages

namespace CloudPortal

open RowStore

section Gating

variable {approves : Bool} {f : Deployment → Deployment} {own : Job → Option ℕ}
  {pl : Option Deployment}

theorem policyApprovalStages_congr {p p' : Payload} (hp : p'.policy = p.policy)
    (hblueprint : p'.blueprint = p.blueprint) :
    policyApprovalStages p' pl = policyApprovalStages p pl := by
  unfold policyApprovalStages blueprintSnapshot
  rw [hp, hblueprint]

/-- The payload of a job that the gate lets pass asks for no stages, unless it resumes. -/
theorem Job.Ungated.unasked {job : Job} (h : job.Ungated pl)
    (hr : job.payload.resumeAfterProviderApply = false) :
    policyApprovalStages job.payload pl = [] ∧ policyApprovalStages job.payload none = [] := by
  have hempty : policyApprovalStages job.payload pl = [] := by
    refine h.resolve_left fun hr' => ?_
    rw [hr] at hr'
    cases hr'
  have hnowhere (row : Deployment) (hrow : none = some row) :
      ∃ row', pl = some row' ∧ row'.blueprint = row.blueprint := by cases hrow
  refine ⟨hempty, ?_⟩
  by_contra hasked
  exact policyApprovalStages_ne_nil hnowhere hasked hempty

/-! ### The invariant -/

/-- The payload asks for stages, and the gate does not let it pass. -/
def Job.Asks (job : Job) : Prop :=
  policyApprovalStages job.payload none ≠ [] ∧ job.payload.resumeAfterProviderApply = false

/-- A clone is on record for the job. -/
def Job.cloned (job : Job) : Bool := job.operation = .proxmoxProvision && job.payload.proxmoxRuntime

/-- What the gate leaves behind in the row of one job. -/
structure GateRow (job : Job) : Prop where
  recorded : job.Asks → ∃ state, job.payload.policyApproval = some state ∧ state.stages ≠ []
  marked : job.Asks → job.operation.isDay2 = false
    → ∀ state, job.payload.policyApproval = some state → state.complete → job.payload.approved
  resumes : job.source ≠ .recovery → job.ResumesBehind

structure GatesKept (s : System) : Prop where
  kinds : KindsApart s
  row : ∀ id job, s.jobs.find? id = some job → GateRow job
  worker : ∀ w worker job, s.workers.find? w = some worker → worker.day2 = false
    → s.jobs.find? worker.jobId = some job → job.source ≠ .recovery
    → job.payload.resumeAfterProviderApply → worker.applied ∨ job.cloned

section Rows

variable {s : System} {a : Step} {id : ℕ} {job job' : Job} {now : ℕ}

theorem Job.Frame.asks (h : job.Frame job') : job'.Asks ↔ job.Asks := by
  unfold Job.Asks
  rw [policyApprovalStages_congr h.policy h.blueprint, h.resumes]

theorem GateRow.touch (h : GateRow job) : GateRow (job.touch now) :=
  ⟨h.recorded, h.marked, h.resumes⟩

/-- A job that the gate lets pass. -/
theorem GateRow.of_ungated (hung : job.Ungated pl)
    (hr : job.source ≠ .recovery → job.ResumesBehind) : GateRow job := by
  have hpasses (hasks : job.Asks) : False := hasks.1 (hung.unasked hasks.2).2
  exact ⟨fun hasks => (hpasses hasks).elim, fun hasks => (hpasses hasks).elim, hr⟩

theorem GateRow.of_born (hb : Born s job pl) (hr : job.ResumesBehind) :
    GateRow job := by
  cases hb with
  | plain _ hung | inherited _ _ _ _ hung => exact .of_ungated hung fun _ => hr
  | gated hp _ hn _ _ hc =>
    refine ⟨fun _ => ⟨_, hp, hn⟩, fun _ _ state ht hd => ?_, fun _ => hr⟩
    cases hp.symm.trans ht
    rw [hc] at hd
    cases hd

theorem Creates.gateRow {pl : Option (ℕ × Deployment)} (h : Creates s a job pl) :
    GateRow job := by
  cases h with
  | requested _ _ _ _ _ _ _ _ _ hb hcp | scheduled _ _ _ _ _ _ _ _ _ hb hcp =>
    exact .of_born hb hcp
  | refused _ _ _ _ _ _ _ hb hcp =>
    obtain ⟨-, pl, hung⟩ := hb
    exact .of_ungated hung fun _ => hcp
  | detached _ _ _ hb hcp => exact .of_born hb hcp

/-- A row whose approvals are as they were. -/
theorem GateRow.kept (h : GateRow job) (hf : job.Frame job') (happr : job.ApprovalFrame job')
    (hr : job'.source ≠ .recovery → job'.ResumesBehind) : GateRow job' := by
  refine ⟨fun hasks => ?_, fun hasks ho state ht hd => ?_, hr⟩
  · rw [happr.policyApproval]
    exact h.recorded (hf.asks.1 hasks)
  rw [happr.policyApproval] at ht
  rw [hf.operation] at ho
  unfold Payload.approved
  rw [happr.approval]
  exact h.marked (hf.asks.1 hasks) ho state ht hd

/-- No approval changes the stages. -/
theorem Approves.stages (h : Approves now approves own job job') :
    job'.payload.policyApproval.map (·.stages) = job.payload.policyApproval.map (·.stages) := by
  cases h with
  | unstaged _ he => rw [he]
  | workflow _ he => rw [he.policyApproval]
  | exhausted ht _ ht' =>
    rw [ht, ht']
    rfl
  | advanced ht _ _ _ ht' hstgs => rw [ht, ht', Option.map_some, Option.map_some, hstgs]

/-- Every write keeps the provider checkpoint, or a worker writes what it knows. -/
theorem Writes.checkpoints {cond : Deployment → Bool} (h : Writes s a id job job' cond f) :
    Checkpoints s id job job' := by
  cases h with
  | kept _ _ _ _ _ _ hr | approved _ _ _ _ _ hr | deferred _ _ _ _ _ _ _ _ _ hr
  | paused _ _ _ _ _ _ _ hr | actionQueued _ _ _ _ _ _ _ _ hr => exact hr
  | _ => exact ⟨rfl, .inl rfl⟩

theorem Job.Frame.cloned (hf : job.Frame job') (hr : Checkpoints s id job job') :
    job'.cloned = job.cloned := by
  unfold Job.cloned
  rw [hf.operation, hr.1]

/-- A job that resumes keeps its checkpoint. -/
theorem GatesKept.resumes (hs : GatesKept s) (hj : s.jobs.find? id = some job)
    (hf : job.Frame job') (hrun : Checkpoints s id job job')
    (hsource : job'.source ≠ .recovery) : job'.ResumesBehind := by
  intro hr
  rw [hf.resumes] at hr
  rw [hf.source] at hsource
  have hb := (hs.row id job hj).resumes hsource hr
  have hcloned := hf.cloned hrun
  show (job'.payload.providerApplied || job'.cloned) = true
  rcases hrun.2 with he | ⟨w, wk, hworker, rfl, hday2, happlied⟩
  · rw [hcloned, Payload.providerApplied, he]
    exact hb
  · rw [hcloned, happlied]
    exact Bool.or_eq_true_iff.2 (hs.worker w wk job hworker hday2 hj hsource hr)

/-- A worker does not forget that the mutation is done. -/
theorem WorkerMove.applied {w : ℕ} {wk wk' : Worker}
    (h : WorkerMove s a w wk wk') (happlied : wk.applied) : wk'.applied := by
  cases h with
  | succeeded _ hk => exact hk happlied
  | _ => exact happlied

end Rows

/-! ### Steps -/

section Step

variable {cfg : Settings} {s s' : System} {a : Step} {id x : ℕ} {job job' row : Job}

section

variable (hrow : ApprovesRow s approves own id job job' s')
  (hmarked : job.ApprovalFrame job' ∨ job.operation.isDay2
    ∨ ∀ state', job'.payload.policyApproval = some state' → state'.complete
      → job'.payload.approved)
include hrow hmarked

/-- A row after a request that approves. -/
theorem GateRow.approve (h : GateRow job)
    (hr : job'.source ≠ .recovery → job'.ResumesBehind) : GateRow job' := by
  rcases hmarked with he | hmarked
  · exact h.kept hrow.frame he hr
  refine ⟨fun hasks => ?_, fun _ ho state ht hd => ?_, hr⟩
  · obtain ⟨state, ht, hn⟩ := h.recorded (hrow.frame.asks.1 hasks)
    have hstgs := hrow.approves.stages
    rw [ht] at hstgs
    obtain ⟨state', ht', he⟩ := Option.map_eq_some_iff.1 hstgs
    exact ⟨state', ht', he ▸ hn⟩
  · rw [hrow.frame.operation] at ho
    rcases hmarked with hday2 | hmarked
    · rw [ho] at hday2
      cases hday2
    · exact hmarked state ht hd

/-- The rows after a request that approves. -/
theorem GatesKept.approve (hs : GatesKept s) (hfind : s'.jobs.find? x = some row) :
    GateRow row := by
  rw [hrow.jobs x] at hfind
  split at hfind
  · next hx =>
    subst hx
    cases hfind
    have hr := hs.resumes hrow.find hrow.frame hrow.runtime
    exact ((hs.row x job hrow.find).approve hrow hmarked hr).touch
  · exact hs.row x row hfind

end

/-- A write that is no approval leaves the approvals alone. -/
theorem Writes.approvalFrame {cond : Deployment → Bool} (h : Writes s a id job job' cond f)
    (ha : a.isApproval = false) : job.ApprovalFrame job' := by
  cases h with
  | kept _ _ _ _ _ happr => exact (happr ha).1
  | approved => cases ha
  | actionQueued => cases ha
  | deferred _ _ _ _ _ _ _ happr | paused _ _ _ _ _ _ happr => exact happr
  | _ => exact ⟨rfl, rfl⟩

section

variable (hs : GatesKept s) (ha : a.apply cfg s = .ok s') (hfind : s'.jobs.find? x = some row)
include hs ha hfind

/-- The rows after a step that does not approve. -/
theorem GatesKept.other (hother : a.isApproval = false) : GateRow row := by
  have hc := (Step.effect ha).rowChange x
  generalize hb : s.jobs.find? x = before at hc
  rw [hfind] at hc
  cases hc with
  | same => exact hs.row x row hb
  | written hwr =>
    exact ((hs.row x _ hb).kept hwr.frame (hwr.approvalFrame hother)
      (hs.resumes hb hwr.frame hwr.checkpoints)).touch
  | created hcr => exact hcr.gateRow.touch
  | @succeeds id _ job _ new _ hj ht =>
    have hrecovery (h : new.source ≠ .recovery) : new.ResumesBehind :=
      absurd ht.source h
    refine GateRow.touch ?_
    rcases ht.approvals with ⟨-, -, hung⟩ | ⟨happr, -, hp, hblueprint, hr⟩
    · exact .of_ungated hung hrecovery
    -- the successor has the approvals of a job that asked for the same stages
    have ho := hs.row id job hj
    have hasks : new.Asks ↔ job.Asks := by
      unfold Job.Asks
      rw [policyApprovalStages_congr hp hblueprint, hr]
    refine ⟨fun h => ?_, fun h _ state hstt hd => ?_, hrecovery⟩
    · rw [happr.policyApproval]
      exact ho.recorded (hasks.1 h)
    rw [happr.policyApproval] at hstt
    unfold Payload.approved
    rw [happr.approval]
    exact ho.marked (hasks.1 h) (not_isDay2_of_provisioning ht.provisioning)
      state hstt hd
  | replaced ht =>
    exact ((hs.row x _ hb).kept ht.frame ht.kept.1 (hs.resumes hb ht.frame ht.runtime)).touch

theorem GatesKept.step_row : GateRow row := by
  cases happr : a.isApproval with
  | false => exact hs.other ha hfind happr
  | true =>
    cases a with
    | approveJob id approves =>
      obtain ⟨job, job', hrow, hmarked⟩ := approveJob_approves ha
      exact hs.approve hrow (hmarked.imp_right .inr) hfind
    | approveAction r live approves =>
      obtain ⟨request, job, job', hreq, hrow⟩ := approveAction_approves ha
      obtain ⟨job₀, hjob₀, hday2⟩ := hs.kinds.request r request hreq
      cases hjob₀.symm.trans hrow.find
      exact hs.approve hrow (.inr (.inl hday2)) hfind
    | _ => cases happr

end

/-- No step changes what a job is, or the clone that is on record for it. -/
theorem Step.clone_persists (ha : a.apply cfg s = .ok s') (hj : s.jobs.find? id = some job)
    (hj' : s'.jobs.find? id = some job') :
    job.Frame job' ∧ job'.payload.proxmoxRuntime = job.payload.proxmoxRuntime := by
  have hc := (Step.effect ha).rowChange id
  rw [hj, hj'] at hc
  cases hc with
  | same => exact ⟨.rfl, rfl⟩
  | written hwr => exact ⟨hwr.frame.touch, hwr.checkpoints.1⟩
  | replaced ht => exact ⟨ht.frame.touch, ht.runtime.1⟩

theorem GatesKept.step (ha : a.apply cfg s = .ok s') (hs : GatesKept s) : GatesKept s' := by
  refine ⟨hs.kinds.step ha, fun x row hfind => hs.step_row ha hfind,
    fun w wk' job' hw hday2 hj' hsource hr => ?_⟩
  -- the job of the worker was there before, and it resumes since it was created
  have hb {job : Job} (hj : s.jobs.find? wk'.jobId = some job) :
      job.source ≠ .recovery ∧ job.payload.resumeAfterProviderApply ∧ job'.cloned = job.cloned := by
    obtain ⟨hf, hrun⟩ := Step.clone_persists ha hj hj'
    refine ⟨hf.source ▸ hsource, hf.resumes ▸ hr, ?_⟩
    unfold Job.cloned
    rw [hf.operation, hrun]
  have hc := (Step.side ha).worker w wk' hw
  generalize hrow : s.workers.find? w = row at hc
  cases hc with
  | same =>
    obtain ⟨job, hj, -⟩ := hs.kinds.worker w wk' hrow
    obtain ⟨hsource, hr, hcloned⟩ := hb hj
    rw [hcloned]
    exact hs.worker w wk' job hrow hday2 hj hsource hr
  | born _ hj _ _ _ happlied =>
    obtain ⟨hsource, hr, hcloned⟩ := hb hj
    rw [hcloned, happlied]
    exact Bool.or_eq_true_iff.1 ((hs.row _ _ hj).resumes hsource hr)
  | bornDay2 _ _ _ hday2' | movedDay2 _ _ hday2' =>
    rw [hday2] at hday2'
    cases hday2'
  | @moved wk _ hday2₀ hm =>
    obtain ⟨job, hj, -⟩ := hs.kinds.worker w wk hrow
    rw [← hm.frame.1] at hj
    obtain ⟨hsource, hr, hcloned⟩ := hb hj
    rw [hcloned]
    rw [hm.frame.1] at hj
    exact (hs.worker w wk job hrow hday2₀ hj hsource hr).imp_left hm.applied

theorem GatesKept.initial (scopes : Finset Scope) : GatesKept (System.initial scopes) := by
  refine ⟨.initial scopes, fun id job hj => ?_, fun w wk job hw => ?_⟩
  · cases hj
  · cases hw

end Step

end Gating

/-! ### The invariant -/

/-- The deployment row of a job. -/
def System.rowOf (s : System) (job : Job) : Option Deployment :=
  job.deploymentId.bind fun d => s.deployments.find? d

/-- The job was queued once: it is queued or runs, it paused in its workflow, or it has a worker. -/
def System.Executed (s : System) (id : ℕ) (job : Job) : Prop :=
  job.status.live ∨ job.payload.workflowApproval ≠ none
    ∨ ∃ w worker, s.workers.find? w = some worker ∧ worker.jobId = id ∧ worker.day2 = false

/-- How far a job got with its stages. -/
structure StageProgress (h : StageHistory) (job : Job) (state : PolicyApproval) (executed : Prop) :
    Prop where
  le : state.currentStage ≤ state.stages.length
  approvals : state.approvals = List.range state.currentStage
  records : h.records.map (·.stage) = List.range state.currentStage
  valid : ∀ record ∈ h.records, record.Valid state.stages
  complete : state.complete → state.currentStage = state.stages.length
  /-- one of the two requests keeps the deadline of the open stage -/
  deadline : state.currentStage < state.stages.length
    → ∃ t, h.deadline = some t ∧ (job.approvalExpiry = some t ∨ job.stageExpiry = some t)
  executed : executed → state.currentStage = state.stages.length

/-- What holds for the row of one job. -/
structure StageRow (s : System) (h : StageHistory) (id : ℕ) (job : Job) : Prop where
  /-- the stages that are recorded were asked for -/
  asked : ∀ state, job.payload.policyApproval = some state → state.stages ≠ []
    → policyApprovalStages job.payload (s.rowOf job) ≠ []
  progress : ∀ state, job.payload.policyApproval = some state → state.stages ≠ []
    → job.payload.resumeAfterProviderApply = false
    → StageProgress h job state (s.Executed id job)

structure StagesTracked (s : System) (h : ℕ → StageHistory) : Prop where
  gates : GatesKept s
  row : ∀ id job, s.jobs.find? id = some job → StageRow s (h id) id job

variable {state : PolicyApproval} {now : ℕ} {h : ℕ → StageHistory}

theorem StagesTracked.approved {s : System} (hs : StagesTracked s h) : StagesApproved s h := by
  intro id job hj hq hstaged hr
  have hrow := hs.row id job hj
  have hrecorded : ∃ state, job.payload.policyApproval = some state ∧ state.stages ≠ [] :=
    hstaged.elim (fun h => h) fun hask => (hs.gates.row id job hj).recorded ⟨hask, hr⟩
  obtain ⟨state, ht, hn⟩ := hrecorded
  have hp := hrow.progress state ht hn hr
  have hall : state.currentStage = state.stages.length :=
    hp.executed (.inl (by rw [hq]; rfl))
  refine ⟨state, ht, hn, ?_, ?_, hp.valid⟩
  · rw [hp.approvals, hall]
  · rw [hp.records, hp.approvals]

/-! ### Steps that do not approve -/

section Step

variable {cfg : Settings} {s s' : System} {a : Step} {id : ℕ} {job job' : Job}

/-- The jobs have the same stages and got equally far with them. -/
structure Job.SameStages (job job' : Job) : Prop where
  deploymentId : job'.deploymentId = job.deploymentId
  policy : job'.payload.policy = job.payload.policy
  blueprint : job'.payload.blueprint = job.payload.blueprint
  resumes : job'.payload.resumeAfterProviderApply = job.payload.resumeAfterProviderApply
  approvals : job.ApprovalFrame job'

theorem Job.SameStages.of_frame (hframe : job.Frame job') (happrovals : job.ApprovalFrame job') :
    job.SameStages (job'.touch now) :=
  ⟨hframe.deploymentId, hframe.policy, hframe.blueprint, hframe.resumes, happrovals.approval,
    happrovals.policyApproval⟩

/-- The stages that a job asks for are still asked for after a step. -/
theorem Step.asked_persists (h : a.apply cfg s = .ok s')
    (hd : job'.deploymentId = job.deploymentId) (hp : job'.payload.policy = job.payload.policy)
    (hblueprint : job'.payload.blueprint = job.payload.blueprint)
    (hask : policyApprovalStages job.payload (s.rowOf job) ≠ []) :
    policyApprovalStages job'.payload (s'.rowOf job') ≠ [] := by
  rw [policyApprovalStages_congr hp hblueprint]
  refine policyApprovalStages_ne_nil (fun row hrow => ?_) hask
  unfold System.rowOf at hrow ⊢
  rw [hd]
  cases hpl : job.deploymentId with
  | none =>
    rw [hpl] at hrow
    cases hrow
  | some d =>
    rw [hpl] at hrow
    obtain ⟨row', hr', hframe⟩ := Step.deployment_persists h hrow
    exact ⟨row', hr', hframe.blueprint⟩

/-- A row in which no approval was given, and which was executed before if it is now. -/
theorem StageRow.kept {h : StageHistory} {id' : ℕ} (hrow : StageRow s h id job)
    (ha : a.apply cfg s = .ok s') (hs : job.SameStages job')
    (he : s'.Executed id' job' → s.Executed id job) : StageRow s' h id' job' := by
  have happr := hs.approvals.approval
  have hpoli := hs.approvals.policyApproval
  refine ⟨fun state hstt hn => ?_, fun state hstt hn hr => ?_⟩
  · rw [hpoli] at hstt
    exact Step.asked_persists ha hs.deploymentId hs.policy hs.blueprint (hrow.asked state hstt hn)
  rw [hpoli] at hstt
  have hp := hrow.progress state hstt hn (hs.resumes ▸ hr)
  refine ⟨hp.le, hp.approvals, hp.records, hp.valid,
    hp.complete, fun ho => ?_, fun hnow => hp.executed (he hnow)⟩
  obtain ⟨t, ht, hk⟩ := hp.deadline ho
  refine ⟨t, ht, ?_⟩
  rwa [Job.approvalExpiry, Job.stageExpiry, happr, hpoli]

theorem StageRow.touch {h : StageHistory} (hrow : StageRow s h id job) :
    StageRow s h id (job.touch now) := by
  refine ⟨hrow.asked, fun state ht hn hr => ?_⟩
  have hp := hrow.progress state ht hn hr
  exact ⟨hp.le, hp.approvals, hp.records, hp.valid, hp.complete, hp.deadline, hp.executed⟩

/-- A worker had its job before, or claims it now. -/
theorem Step.worker_before (h : a.apply cfg s = .ok s') {w : ℕ} {wk' : Worker}
    (hw : s'.workers.find? w = some wk') (hday2 : wk'.day2 = false) :
    (∃ wk, s.workers.find? w = some wk ∧ wk.jobId = wk'.jobId ∧ wk.day2 = false)
      ∨ ∃ job, s.jobs.find? wk'.jobId = some job ∧ job.status = .queued := by
  have hc := (Step.side h).worker w wk' hw
  generalize hrow : s.workers.find? w = row at hc
  cases hc with
  | same => exact .inl ⟨wk', rfl, rfl, hday2⟩
  | born _ hj hs => exact .inr ⟨_, hj, hs⟩
  | bornDay2 _ _ _ hday2' | movedDay2 _ _ hday2' =>
    rw [hday2] at hday2'
    cases hday2'
  | moved _ hm => exact .inl ⟨_, rfl, hm.frame.1.symm, hm.frame.2 ▸ hday2⟩

/-- A job that is executed after a step was executed before it, if its row says nothing else. -/
theorem System.Executed.before (h : a.apply cfg s = .ok s') (hj : s.jobs.find? id = some job)
    (hl : job'.status.live → s.Executed id job)
    (hwf : job'.payload.workflowApproval ≠ none → s.Executed id job)
    (he : s'.Executed id job') : s.Executed id job := by
  rcases he with hnow | hnow | ⟨w, wk, hw, hi, hday2⟩
  · exact hl hnow
  · exact hwf hnow
  rcases Step.worker_before h hw hday2 with ⟨wk₀, hw₀, hid₀, hday2₀⟩ | ⟨job₀, hjob₀, hq⟩
  · exact .inr (.inr ⟨w, wk₀, hw₀, hid₀.trans hi, hday2₀⟩)
  rw [hi, hj] at hjob₀
  cases hjob₀
  exact .inl (by rw [hq]; rfl)

/-- A write that is no approval leaves the approvals alone, and puts a job back only if it
was executed. -/
theorem Writes.executed {cond : Deployment → Bool} {f : Deployment → Deployment}
    (h : Writes s a id job job' cond f) (ha : a.isApproval = false) :
    job.ApprovalFrame job' ∧ (job'.status.live → s.Executed id job)
      ∧ (job'.payload.workflowApproval ≠ none → s.Executed id job) := by
  have hworker {w : ℕ} {phase : WorkerPhase} (hw : s.WorkerAt w id phase false) :
      s.Executed id job := by
    obtain ⟨wk, hwk, hi, -, hday2⟩ := hw
    exact .inr (.inr ⟨w, wk, hwk, hi, hday2⟩)
  have hpaused (h : job.payload.workflowApproval ≠ none) : s.Executed id job := .inr (.inl h)
  cases h with
  | kept _ hs _ _ _ happr =>
    obtain ⟨happr, hwf⟩ := happr ha
    exact ⟨happr, fun h => .inl (hs ▸ h), fun h => hpaused (hwf ▸ h)⟩
  | approved => cases ha
  | actionQueued => cases ha
  | claimed ho | claimedDay2 ho => exact ⟨⟨rfl, rfl⟩, fun _ => .inl (by rw [ho]; rfl), hpaused⟩
  | deferred _ hwk _ _ _ _ _ happr | paused _ hwk _ _ _ _ happr =>
    exact ⟨happr, fun _ => hworker hwk, fun _ => hworker hwk⟩
  | deleteDeferred hwk => exact ⟨⟨rfl, rfl⟩, fun _ => hworker hwk, hpaused⟩
  | finalized hwk hi hphase hday2 =>
    have he := hworker ⟨_, hwk, hi, hphase, hday2⟩
    exact ⟨⟨rfl, rfl⟩, fun _ => he, fun _ => he⟩
  | @finalizedDay2 _ _ _ _ _ out =>
    refine ⟨⟨rfl, rfl⟩, fun hl => ?_, hpaused⟩
    cases out <;> cases hl
  | _ => exact ⟨⟨rfl, rfl⟩, nofun, hpaused⟩

/-- A job that records no approval. -/
theorem StageRow.of_none {h : StageHistory} (hp : job.payload.policyApproval = none) :
    StageRow s h id job := by
  refine ⟨fun state ht => ?_, fun state ht => ?_⟩
  all_goals
    rw [hp] at ht
    cases ht

/-- A new job. -/
theorem StageRow.of_born {pl : Option Deployment} (hs : StagesTracked s h)
    (hb : Born s job pl) (hpl : s.rowOf job = pl ∨ s.rowOf job = none)
    (hp' : ∀ row, pl = some row → ∃ row', s'.rowOf job = some row'
      ∧ row'.blueprint = row.blueprint) (hwf : job.payload.workflowApproval = none)
    (hi : ∀ w wk, s'.workers.find? w = some wk → wk.day2 = false → wk.jobId ≠ id) :
    StageRow s' { deadline := job.approvalExpiry <|> job.stageExpiry } id job := by
  cases hb with
  | plain hp => exact .of_none hp
  | @gated t state hp hstgs hn hstage happroval hc hwaiting hexpires =>
    have he {state' : PolicyApproval} (h : job.payload.policyApproval = some state') :
        state' = state := Option.some.inj (h.symm.trans hp)
    refine ⟨fun state' ht' hn => ?_, fun state' ht' _ _ => ?_⟩
    · rw [he ht', hstgs] at hn
      exact policyApprovalStages_ne_nil hp' hn
    rw [he ht']
    refine ⟨by omega, by rw [happroval, hstage]; rfl, by rw [hstage]; rfl, by simp,
      fun h => ?_, fun _ => ?_, fun hexecuted => ?_⟩
    · rw [hc] at h
      cases h
    · -- the deadline is the one that the gate has just written
      have hstate : job.stageExpiry = state.stageExpiresAt := by
        rw [Job.stageExpiry, hp]
        rfl
      cases happr : job.approvalExpiry with
      | some t' => exact ⟨t', rfl, .inl rfl⟩
      | none =>
        refine ⟨t, ?_, .inr ?_⟩
        all_goals
          rw [hstate]
          exact hexpires.resolve_left fun h => by cases happr.symm.trans h
    · rcases hexecuted with hl | hpaused | ⟨w, wk, hw, hid, hday2⟩
      · rw [hwaiting] at hl
        cases hl
      · exact absurd hwf hpaused
      · exact absurd hid (hi w wk hw hday2)
  | @inherited x old hf hd hp hstgs hungated =>
    have hrow : s.rowOf old = s.rowOf job := by rw [System.rowOf, System.rowOf, hd]
    -- stages that the retried job recorded are asked for again
    have hask {state : PolicyApproval} (ht : job.payload.policyApproval = some state)
        (hn : state.stages ≠ []) : policyApprovalStages job.payload pl ≠ [] := by
      intro hempty
      have horiginal := (hs.row x old hf).asked state (hp ▸ ht) hn
      refine policyApprovalStages_ne_nil (fun row hfound => ?_) horiginal (hstgs hempty)
      rw [hrow] at hfound
      rcases hpl with hpl | hpl
      · exact ⟨row, hpl ▸ hfound, rfl⟩
      · cases hpl.symm.trans hfound
    refine ⟨fun state ht hn => policyApprovalStages_ne_nil hp' (hask ht hn),
      fun state ht hn hr => ?_⟩
    exact absurd (hungated.unasked hr).1 (hask ht hn)

/-- The observer looks at new jobs only. -/
theorem noteCreated_old (hj : s.jobs.find? id = some job) : noteCreated s a s' h id = h id := by
  simp only [noteCreated, hj]

theorem noteCreated_new (hf : s.jobs.find? id = none)
    (hj : s'.jobs.find? id = some (job.touch now)) (ha : ∀ x y, a ≠ .reconcileStaleJob x y) :
    noteCreated s a s' h id = { deadline := job.approvalExpiry <|> job.stageExpiry } := by
  simp only [noteCreated, hf, hj]
  rfl

/-- A job that is there before and after a step that creates a job has not changed, so the
step has not given up a stale one. -/
theorem not_reconcileStaleJob (h : a.apply cfg s = .ok s')
    (hk : ∀ x job, s.jobs.find? x = some job → s'.jobs.find? x = some job) (x y : ℕ) :
    a ≠ .reconcileStaleJob x y := by
  rintro rfl
  obtain ⟨job, hj, hstale⟩ : ∃ job, s.jobs.find? x = some job ∧ job.stale s.now := by
    have h : reconcileStaleJob cfg s x y = .ok s' := h
    simp only [reconcileStaleJob, need_bind_eq_ok, ensure_bind_eq_ok] at h
    obtain ⟨job, hj, hstale, -⟩ := h
    exact ⟨job, hj, hstale⟩
  have hfailed := reconcileStaleJob_fails h (hk x job hj)
  simp [Job.stale, hfailed] at hstale

/-- A new job that occupies its deployment, or has none. -/
theorem StageRow.of_creates {pl : Option (ℕ × Deployment)} (hs : StagesTracked s h)
    (ha : a.apply cfg s = .ok s') (hf : s.jobs.find? id = none)
    (hcr : Creates s a job pl)
    (hd : ∀ x, s'.deployments.find? x = match pl with
      | some (d, dep) =>
        if x = d then some (dep.occupy id job.status.toDeployment)
        else s.deployments.find? x
      | none => s.deployments.find? x) :
    StageRow s' { deadline := job.approvalExpiry <|> job.stageExpiry } id job := by
  have hi (w : ℕ) (wk : Worker) (hw : s'.workers.find? w = some wk)
      (hday2 : wk.day2 = false) : wk.jobId ≠ id := by
    rintro rfl
    rcases Step.worker_before ha hw hday2 with ⟨wk₀, hw₀, hid₀, -⟩ | ⟨job, hj, -⟩
    · obtain ⟨job, hj, -⟩ := hs.gates.kinds.worker w wk₀ hw₀
      rw [hid₀, hf] at hj
      cases hj
    · cases hf.symm.trans hj
  have hoccupied {d : ℕ} {dep : Deployment} (hj : job.deploymentId = some d)
      (hd : s'.deployments.find? d
        = some (dep.occupy id job.status.toDeployment)) (row : Deployment)
      (hrow : some dep = some row) :
      ∃ row', s'.rowOf job = some row' ∧ row'.blueprint = row.blueprint := by
    cases hrow
    rw [System.rowOf, hj]
    exact ⟨_, hd, rfl⟩
  cases hcr with
  | requested _ hj hp _ _ _ _ _ hwf hb =>
    refine .of_born hs hb ?_ (hoccupied hj ((hd _).trans (if_pos rfl))) hwf
      hi
    rw [System.rowOf, hj]
    exact hp.imp (fun h => h) And.left
  | scheduled _ hj _ hp _ _ _ _ hwf hb =>
    refine .of_born hs hb ?_ (hoccupied hj ((hd _).trans (if_pos rfl))) hwf
      hi
    rw [System.rowOf, hj]
    exact .inl hp
  | refused _ _ _ _ _ _ _ hb => exact .of_none hb.1
  | detached _ hj hwf hb =>
    refine .of_born hs hb ?_ (fun row hrow => by cases hrow) hwf hi
    rw [System.rowOf, hj]
    exact .inl rfl

/-- A job that is taken over has a worker, or runs. -/
theorem TakeoverReason.executed (h : TakeoverReason s a id job) : s.Executed id job := by
  rcases h with ⟨resumeId, -, hstale⟩ | ⟨w, _, _, wk, -, hw, hi, hday2, -⟩
  · refine .inl ?_
    simp only [Job.stale, Bool.and_eq_true, decide_eq_true_eq] at hstale
    rw [hstale.1.1]
    rfl
  · exact .inr (.inr ⟨w, wk, hw, hi, hday2⟩)

/-- Steps that do not approve. -/
theorem StagesTracked.other (hs : StagesTracked s h) (ha : a.apply cfg s = .ok s')
    (hother : a.isApproval = false) : StagesTracked s' (noteCreated s a s' h) := by
  refine ⟨hs.gates.step ha, fun x job' hj' => ?_⟩
  -- a row that is as it was
  have he (hj : s.jobs.find? x = some job') : StageRow s' (noteCreated s a s' h x) x job' := by
    rw [noteCreated_old hj]
    refine (hs.row x job' hj).kept ha ⟨rfl, rfl, rfl, rfl, rfl, rfl⟩ fun hexecuted => ?_
    exact hexecuted.before ha hj .inl fun h => .inr (.inl h)
  cases Step.effect ha with
  | stays hjobs | adjusts _ _ hjobs => exact he (hjobs ▸ hj')
  | @writes id job _ _ _ hj hwr hjobs =>
    rw [hjobs x] at hj'
    split at hj'
    · next hx =>
      subst hx
      cases hj'
      obtain ⟨happr, hl, hwf⟩ := hwr.executed hother
      rw [noteCreated_old hj]
      refine (hs.row x job hj).kept ha (.of_frame hwr.frame happr) fun hexecuted => ?_
      exact hexecuted.before ha hj hl hwf
    · exact he hj'
  | @creates id job place hf hcr hjobs hdeps =>
    have hnew : noteCreated s a s' h id
        = { deadline := job.approvalExpiry <|> job.stageExpiry } := by
      refine noteCreated_new hf ((hjobs id).trans (if_pos rfl))
        (not_reconcileStaleJob ha fun y row hrow => ?_)
      rw [hjobs y, if_neg, hrow]
      rintro rfl
      cases hf.symm.trans hrow
    rw [hjobs x] at hj'
    split at hj'
    · next hx =>
      subst hx
      cases hj'
      rw [hnew]
      exact (StageRow.of_creates hs ha hf hcr hdeps).touch
    · exact he hj'
  | @takesOver id newId d job old new dep' hj ht hreason hjobs _ hresumed =>
    have ho : StageRow s' (noteCreated s a s' h id) id (old.touch s.now) := by
      obtain ⟨happr, hwf⟩ := ht.kept
      rw [noteCreated_old hj]
      refine (hs.row id job hj).kept ha (.of_frame ht.frame happr) fun hexecuted => ?_
      refine hexecuted.before ha hj (fun hl => ?_) fun h => .inr (.inl (hwf ▸ h))
      rw [ht.failed] at hl
      cases hl
    rw [hjobs x] at hj'
    split at hj'
    · next hx =>
      subst hx
      cases hj'
      rcases ht.approvals with ⟨hp, -⟩ | ⟨happr, -, hp, hblueprint, hr⟩
      · exact (StageRow.of_none hp).touch
      have hd := ht.newDeploymentId.trans ht.deploymentId.symm
      have hrow : StageRow s' (h id) x new := by
        refine (hs.row id job hj).kept ha ⟨hd, hp, hblueprint, hr, happr⟩ ?_
        exact fun _ => hreason.executed
      rcases hresumed with hn | rfl
      · exact (StageRow.of_none hn).touch
      simp only [noteCreated, ht.fresh, (hjobs x).trans (if_pos rfl)]
      exact hrow.touch
    · split at hj'
      · next hx =>
        subst hx
        cases hj'
        exact ho
      · exact he hj'

end Step

/-! ### Approvals -/

section Approval

variable {cfg : Settings} {s s' : System} {a : Step} {id : ℕ} {job job' : Job} {approves : Bool}
  {own : Job → Option ℕ} {actor : Approver} {expiresAt : Option ℕ}

theorem not_expired {t : ℕ} (h : expired now expiresAt = false)
    (ht : expiresAt = some t) : now < t := by
  rw [ht] at h
  simpa [expired] using h

/-- One stage more. -/
theorem StageProgress.advance {h : StageHistory} {state' : PolicyApproval}
    {executed executed' : Prop} (hp : StageProgress h job state executed)
    (ho : state.currentStage < state.stages.length) (hstgs : state'.stages = state.stages)
    (hcurr : state'.currentStage = state.currentStage + 1)
    (happrovals : state'.approvals = state.approvals ++ [state.currentStage])
    (hcomplete : state'.complete → state'.stages.length ≤ state'.currentStage)
    {stage : ApprovalStage} (hstage : state.stages[state.currentStage]? = some stage)
    (hactor : approverMatches stage.approver actor)
    (htimely : ∀ t, job.approvalExpiry = some t ∨ job.stageExpiry = some t → now < t)
    {deadline : Option ℕ}
    (hn : state'.currentStage < state'.stages.length → ∃ t, deadline = some t
      ∧ (job'.approvalExpiry = some t ∨ job'.stageExpiry = some t))
    (he : executed' → state'.currentStage = state'.stages.length) :
    StageProgress
      { deadline := deadline
        records := h.records ++ [⟨state.currentStage, actor, now, h.deadline⟩] } job' state'
      executed' := by
  have hlength : state'.stages.length = state.stages.length := by rw [hstgs]
  refine ⟨by omega, ?_, ?_, fun rec hreco => ?_, fun hc => ?_, hn, he⟩
  · rw [happrovals, hp.approvals, hcurr, List.range_succ]
  · rw [List.map_append, hp.records, hcurr, List.range_succ]
    rfl
  · rw [hstgs]
    rcases List.mem_append.1 hreco with hreco | hreco
    · exact hp.valid rec hreco
    obtain ⟨t, ht, hk⟩ := hp.deadline ho
    rw [List.mem_singleton.1 hreco]
    exact ⟨stage, t, hstage, hactor, ht, htimely t hk⟩
  · have := hcomplete hc
    omega

/-- Every stage was approved, so nothing is open. -/
theorem StageProgress.exhausted {h : StageHistory}
    {executed executed' : Prop} (hp : StageProgress h job state executed)
    (hd : state.stages.length ≤ state.currentStage) :
    StageProgress h job' { state with stageExpiresAt := expiresAt } executed' := by
  have hall := le_antisymm hp.le hd
  exact ⟨hp.le, hp.approvals, hp.records, hp.valid, hp.complete,
    fun ho => absurd ho (not_lt.2 hd), fun _ => hall⟩

section

variable (ha : a.apply cfg s = .ok s') (hrow : ApprovesRow s approves own id job job' s')
  (hown : own = Job.approvalExpiry ∨ own = Job.stageExpiry)
  (happroves : approves → s.mayApprove id actor) (htimely : expired s.now (own job) = false
    → ∀ t, job.approvalExpiry = some t ∨ job.stageExpiry = some t → s.now < t)
include ha hrow hown happroves htimely

/-- How far a job got after a request that approves. -/
theorem StageProgress.approve {h : StageHistory} {state' : PolicyApproval}
    (hstt : job.payload.policyApproval = some state)
    (ht' : job'.payload.policyApproval = some state') (hne : state.stages ≠ [])
    (hp : StageProgress h job state (s.Executed id job)) :
    StageProgress (h.advance actor s.now job (job'.touch s.now) own) job' state'
      (s'.Executed id job') := by
  have hhistory (hs : state'.currentStage = state.currentStage) :
      h.advance actor s.now job (job'.touch s.now) own = h := by
    unfold StageHistory.advance
    rw [Job.touch_payload, hstt, ht']
    exact if_pos hs
  cases hrow.approves with
  | unstaged hn => exact absurd (hn state hstt) hne
  | workflow hpaused hs =>
    cases hstt.symm.trans (hs.policyApproval.symm.trans ht')
    rw [hhistory rfl]
    exact hp.exhausted (hp.executed (.inr (.inl hpaused))).ge
  | exhausted hstt₀ hd hstt₀' =>
    cases hstt.symm.trans hstt₀
    cases ht'.symm.trans hstt₀'
    rw [hhistory rfl]
    exact hp.exhausted hd
  | advanced hstt₀ ho htrue ho' hstt₀' hstgs hcurr happrovals hcomplete hnext =>
    cases hstt.symm.trans hstt₀
    cases ht'.symm.trans hstt₀'
    have hincomplete : state.complete = false := by
      by_contra hc
      exact absurd (hp.complete (Bool.not_eq_false _ ▸ hc)) ho.ne
    have hmay := happroves htrue
    simp only [System.mayApprove, hrow.find, Option.bind_some, hstt] at hmay
    obtain ⟨stage, hstage, hactor⟩ := (Option.any_eq_true _ _).1 hmay
    have hhistory' : h.advance actor s.now job (job'.touch s.now) own
        = { deadline := own (job'.touch s.now)
            records := h.records ++ [⟨state.currentStage, actor, s.now, h.deadline⟩] } := by
      unfold StageHistory.advance
      rw [Job.touch_payload, hstt, ht']
      exact if_neg (by omega)
    rw [hhistory']
    have hlength : state'.stages.length = state.stages.length := by rw [hstgs]
    refine hp.advance ho hstgs hcurr happrovals hcomplete hstage hactor
      (htimely (ho' hincomplete)) (fun hmore => ?_) fun he => ?_
    · rcases hnext with ⟨-, t, ht⟩ | ⟨-, hlast⟩
      · rcases hown with rfl | rfl
        · exact ⟨t, ht, .inl ht⟩
        · exact ⟨t, ht, .inr ht⟩
      · omega
    · rcases hnext with ⟨hst, -⟩ | ⟨-, hlast⟩
      · have he' : s.Executed id job := he.before ha hrow.find
          (fun hl => .inl (hst ▸ hl)) fun hw => .inr (.inl (hrow.workflow hw))
        exact absurd (hp.executed he') ho.ne
      · omega

/-- A request that approves keeps the invariant if the deadline that it does not read has not
passed either. -/
theorem StagesTracked.approve (hs : StagesTracked s h) :
    StagesTracked s' (noteApproved s actor id own s' h) := by
  have hj' : s'.jobs.find? id = some (job'.touch s.now) := (hrow.jobs id).trans (if_pos rfl)
  refine ⟨hs.gates.step ha, fun x row hf => ?_⟩
  rw [hrow.jobs x] at hf
  split at hf
  case isFalse hx =>
    rw [noteApproved, if_neg hx]
    refine (hs.row x row hf).kept ha ⟨rfl, rfl, rfl, rfl, rfl, rfl⟩ fun hexecuted => ?_
    exact hexecuted.before ha hf .inl fun h => .inr (.inl h)
  case isTrue hx =>
    subst hx
    cases hf
    simp only [noteApproved, hrow.find, hj', if_true]
    have hb := hs.row x job hrow.find
    have hstgs := hrow.approves.stages
    have hrecorded {pol pol' : Option PolicyApproval}
        (he : pol'.map (·.stages) = pol.map (·.stages)) {state' : PolicyApproval}
        (ht' : pol' = some state') (hn : state'.stages ≠ []) :
        ∃ state, pol = some state ∧ state.stages ≠ [] := by
      rw [ht'] at he
      obtain ⟨state, ht, he⟩ := Option.map_eq_some_iff.1 he.symm
      exact ⟨state, ht, he ▸ hn⟩
    refine StageRow.touch ⟨fun state' ht' hn => ?_, fun state' ht' hn hr => ?_⟩
    · obtain ⟨state, ht, hn⟩ := hrecorded hstgs ht' hn
      exact Step.asked_persists ha hrow.frame.deploymentId hrow.frame.policy hrow.frame.blueprint
        (hb.asked state ht hn)
    · obtain ⟨state, ht, hn'⟩ := hrecorded hstgs ht' hn
      exact StageProgress.approve ha hrow hown happroves htimely ht ht' hn'
        (hb.progress state ht hn' (hrow.frame.resumes ▸ hr))

end

end Approval

/-- Every step with its observer. -/
theorem StagesTracked.step {cfg : Settings} {s s' : System} {g : GovernedStep}
    (hs : StagesTracked s h) (hg : g.apply cfg s = .ok s') (ho : g.seesDeadline s) :
    StagesTracked s' (noteStages s g s' h) := by
  obtain ⟨hformed, ha⟩ := ensure_bind_eq_ok.1 hg
  cases g with
  | other a => exact hs.other ha (Bool.not_eq_true' _ ▸ hformed)
  | approveJob id actor =>
    obtain ⟨job, job', hrow, -⟩ := approveJob_approves ha
    refine hs.approve ha hrow (.inl rfl) (fun h => h) fun htimely t ht => ?_
    rcases ht with ht | ht
    · exact not_expired htimely ht
    refine not_expired ?_ ht
    simpa [GovernedStep.seesDeadline, hrow.find] using ho
  | approveAction r live actor =>
    obtain ⟨req, job, job', hq, hrow⟩ := approveAction_approves ha
    simp only [noteStages, hq]
    refine hs.approve ha hrow (.inr rfl) (fun h => ?_) fun htimely t ht => ?_
    · simpa [hq] using h
    rcases ht with ht | ht
    · refine not_expired ?_ ht
      simpa [GovernedStep.seesDeadline, hq, hrow.find] using ho
    · exact not_expired htimely ht

theorem StagesTracked.initial (scs : Finset Scope) :
    StagesTracked (System.initial scs) fun _ => {} := by
  refine ⟨.initial scs, fun id job hj => ?_⟩
  cases hj

/-- **Staged approval.**  In every run from the empty database in which each approval finds no
deadline of the other kind that has passed, every queued job with policy approval stages that
does not resume behind a provider checkpoint has exactly one approval for each stage, in order,
each given by an actor whom the stage allows and before the deadline of the stage. -/
theorem staged_approval {cfg : Settings} {scopes : Finset Scope} {steps : List GovernedStep}
    (hok : Transition.Guarded (fun t g => g.seesDeadline t.1)
      (Transition.attempt (Transition.observed (GovernedStep.apply cfg) noteStages))
      (System.initial scopes, fun _ => {}) steps) :
    StagesApproved (stagesRun cfg scopes steps).1 (stagesRun cfg scopes steps).2 := by
  apply StagesTracked.approved
  exact Transition.observed_guarded (GovernedStep.apply cfg) noteStages StagesTracked
    (fun s h g s' hg hok hs => hs.step hg hok) (.initial scopes) hok

/-- The stage of the security team has one hour, then the owner of the project has one. -/
def demoEffects : List ApprovalEffect :=
  [{ name := some "security", timeoutHours := some 1, approver := [.role (some "security") none] },
    { name := some "owner", timeoutHours := some 1, approver := [.projectAdmin] }]

/-- A Day-2 action with these stages, its job is `20`. -/
def demoAction (approvals : List ApprovalEffect) : GovernedStep :=
  .other (.createAction
    { requestId := 1, jobId := 20, target := ⟨1, ⟨1, 1⟩, none, true⟩, action := .other "reboot"
      params := {}, live := {}, supportsCancel := false, approvalRequired := false
      approvals := approvals })

def demoSecurity : Approver := { userId := "7", username := "sec", roleNames := ["security"] }

def demoOwner : Approver :=
  { userId := "8", username := "owner", permissions := ["projects.members.manage"] }

/-- Both requests approve one stage each, in time. -/
theorem staged_approval_mixed :
    StagesApproved
      (stagesRun {} demoScopes [demoAction demoEffects, .approveJob 20 demoSecurity,
        .other (.tick 1800), .approveAction 1 {} demoOwner]).1
      (stagesRun {} demoScopes [demoAction demoEffects, .approveJob 20 demoSecurity,
        .other (.tick 1800), .approveAction 1 {} demoOwner]).2 :=
  staged_approval (by decide +kernel)

example : ((stagesRun {} demoScopes [demoAction demoEffects, .approveJob 20 demoSecurity,
    .other (.tick 1800), .approveAction 1 {} demoOwner]).1.jobs.find? 20).map (·.status)
      = some .queued := by
  decide +kernel

/-- `approve_job` does not read the deadline that `create_action` set: two hours after the
creation it approves a stage that had one hour, and the job is queued. -/
theorem late_approval_queues :
    ((stagesRun {} demoScopes [demoAction (demoEffects.take 1), .other (.tick 7200),
        .approveJob 20 demoSecurity]).1.jobs.find? 20).map (·.status) = some .queued
      ∧ ((stagesRun {} demoScopes [demoAction (demoEffects.take 1), .other (.tick 7200),
          .approveJob 20 demoSecurity]).2 20).records.map
        (fun record => (record.stage, record.time, record.deadline)) = [(0, 7200, some 3600)] := by
  decide +kernel

end CloudPortal
