/-
CloudPortal/Jobs/FenceLift.lean

The reconciliation fence is lifted only by a successful plan.  The fence is the plain status
`reconciliation_required` of the deployment; while the plan is queued and executed the
status is overwritten, and every end of the plan restores it from the payload of the job.
An observer keeps the set of the deployments that were fenced and have not seen a
successful plan since.

Four writers do not keep to this.  The scheduler does not look for the fence; the expiry of
an approval restores the status only if the machine is in the inventory; and the two
reconcilers that give a job up do not restore it at all.

The proof needs that the open job of a deployment is its active job.  Whoever creates a job
finds the deployment without an active one, and whoever ends a job clears it in the same
transaction; but the steps with which a worker puts its job back make it the active job whatever
the row says by then.  `Step.defersOpenJob` asks that they find a job that has not ended.
-/
import CloudPortal.Jobs.Fence

namespace CloudPortal

open RowStore Transition

section Active

/-- The job that a worker puts back. -/
def Step.defers (s : System) : Step → Option ℕ
  | .deferForProvider w => (s.workers.find? w).map (·.jobId)
  | .pauseForApproval w _ _ _ => (s.workers.find? w).map (·.jobId)
  | .deferBlueprintDelete w => (s.workers.find? w).map (·.jobId)
  | _ => none

/-- A worker that puts its job back finds that it has not ended. -/
def Step.defersOpenJob (s : System) (a : Step) : Bool :=
  (a.defers s).all fun id => (s.jobs.find? id).all fun job => !job.status.terminal

theorem Step.open_of_defers {s : System} {a : Step} {id : ℕ} {job : Job}
    (ho : a.defersOpenJob s) (ha : a.defers s = some id) (hj : s.jobs.find? id = some job) :
    job.status.terminal = false := by
  simpa [Step.defersOpenJob, ha, hj] using ho

/-- What a write to the row of a job does to the active job of a deployment it changes. -/
inductive ActiveChange (s : System) (a : Step) (id : ℕ) (job' : Job)
    (deployment deployment' : Deployment) : Prop
  | same (hreason : deployment.activeJobId = some id ∨ deployment.status = .waitingProvider)
      (hact : deployment'.activeJobId = deployment.activeJobId)
  | taken (ha : a.defers s = some id) (hact : deployment'.activeJobId = some id)
  | left (howne : deployment.activeJobId = some id) (hended : job'.status.terminal)
      (hact : deployment'.activeJobId = none)

variable {dep : Deployment} {d : ℕ}

section Writes

variable {s : System} {a : Step} {id : ℕ} {job job' : Job} {cond : Deployment → Bool}
  {f : Deployment → Deployment}

theorem Deployment.expire_active (hasResource : Bool) (job : Job) (dep : Deployment) :
    (dep.expire hasResource job).activeJobId = none := by
  unfold Deployment.expire
  split <;> rfl

theorem Deployment.cancelEarly_active (job : Job) (dep : Deployment) :
    (dep.cancelEarly job).activeJobId = none := by
  unfold Deployment.cancelEarly
  split <;> rfl

theorem Writes.activeChange (h : Writes s a id job job' cond f) (hc : cond dep) :
    ActiveChange s a id job' dep (f dep) := by
  have howne (ho : dep.ownedBy id) : dep.activeJobId = some id := by
    simpa [Deployment.ownedBy] using ho
  cases h with
  | kept _ _ _ _ hwaiting => exact .same (.inr (hwaiting dep hc)) rfl
  | approved | claimed | cancelling | markedCancelling => exact .same (.inl (howne hc)) rfl
  | deferred _ hw | paused _ hw => exact .taken hw.jobId rfl
  | cancelledEarly => exact .left (howne hc) rfl (Deployment.cancelEarly_active ..)
  | quarantined | expiredApplied | abandoned | lost => exact .left (howne hc) rfl rfl
  | expired => exact .left (howne hc) rfl (Deployment.expire_active ..)
  | @finalized _ _ _ _ _ _ out _ _ _ _ _ hf =>
    exact .left (howne hc) out.status_terminal (hf dep).1
  -- the other writers do not write the deployment
  | claimedDay2 _ _ _ hn | deleteDeferred _ _ hn | actionQueued _ _ _ _ _ _ _ hn
  | actionCancelled _ _ hn | actionCancelling _ _ hn | requestMissing _ _ _ hn
  | failedBefore _ hn | finalizedDay2 _ hn => rw [hn] at hc; cases hc

/-- A job of a deployment that is open after a write was open before. -/
theorem Writes.open_before (h : Writes s a id job job' cond f) (hs : KindsApart s)
    (hok : a.defersOpenJob s) (hj : s.jobs.find? id = some job) (hd : job.deploymentId = some d)
    (hopen : job'.status.terminal = false) : job.status.terminal = false := by
  cases h with
  | kept _ hst => rwa [← hst]
  | approved _ ho | claimed ho | claimedDay2 ho | markedCancelling ho => rw [ho]; rfl
  | cancelling ho => rcases ho with ho | ho <;> rw [ho] <;> rfl
  | deferred _ hw | paused _ hw | deleteDeferred hw =>
    exact Step.open_of_defers hok hw.jobId hj
  | actionQueued hq hi | actionCancelling hq hi =>
    have hday2 := hs.deployed id job hj (by rw [hd]; exact nofun)
    exact absurd hi (hs.request_ne hj hday2 hq)
  | @finalized _ _ _ _ _ _ out => exact absurd hopen (by simp [Job.finish, Outcome.status_terminal])
  | @finalizedDay2 _ _ _ _ _ out => exact absurd hopen (by simp [Outcome.status_terminal])
  | _ => cases hopen

end Writes

/-- Every open job of a deployment is its active job. -/
def ActiveOpen (s : System) : Prop :=
  ∀ id job d, s.jobs.find? id = some job → job.status.terminal = false
    → job.deploymentId = some d
    → ∃ deployment, s.deployments.find? d = some deployment ∧ deployment.activeJobId = some id

section Step

variable {cfg : Settings} {s s' : System} {a : Step}

/-- A deployment whose active job is open keeps it when it follows the job. -/
theorem Deployment.follow_active {now : ℕ} {job : Job} (ho : job.status.terminal = false) :
    (dep.follow now job).activeJobId = dep.activeJobId := by
  unfold Deployment.follow
  split
  · rfl
  split
  · split <;> rfl
  · rw [if_neg (by simp [ho])]

/-- The writes to a deployment alone leave it its active job if that is open. -/
theorem Adjusts.activeJobId {id : ℕ} {dep' : Deployment} {job : Job}
    (h : Adjusts s a d dep dep') (ha : dep.activeJobId = some id)
    (hj : s.jobs.find? id = some job) (ho : job.status.terminal = false) :
    dep'.activeJobId = some id := by
  cases h with
  | followed ha' hj' =>
    cases ha.symm.trans ha'
    cases hj.symm.trans hj'
    rw [Deployment.follow_active ho, ha]
  | orphaned ha' hn =>
    cases ha.symm.trans ha'
    rw [hj] at hn
    cases hn
  | stillCancelling | unblocked | freed => exact ha
  | removed hi =>
    rw [hi] at ha
    cases ha
  | retired _ _ _ hs => rw [hs, ha]

theorem ActiveOpen.step (hs : ActiveOpen s) (hkinds : KindsApart s) (h : a.apply cfg s = .ok s')
    (hok : a.defersOpenJob s) : ActiveOpen s' := by
  intro x job' d hj' hopen hd
  cases Step.effect h with
  | stays hjobs hdeps =>
    rw [hjobs] at hj'
    rw [hdeps]
    exact hs x job' d hj' hopen hd
  | adjusts hf hadjusts hjobs hdeps =>
    rw [hjobs] at hj'
    obtain ⟨dep, hf', hact⟩ := hs x job' d hj' hopen hd
    rw [hdeps d]
    split
    · next he =>
      subst he
      cases hf.symm.trans hf'
      exact ⟨_, rfl, hadjusts.activeJobId hact hj' hopen⟩
    · exact ⟨dep, hf', hact⟩
  | @creates id job place hfresh hcr hjobs hdeps =>
    rw [hjobs x] at hj'
    rw [hdeps d]
    split at hj'
    · next hx =>
      -- the new job occupies its deployment
      subst hx
      cases hj'
      cases hcr with
      | requested _ hj | scheduled _ hj =>
        cases hj.symm.trans hd
        exact ⟨_, if_pos rfl, rfl⟩
      | refused hst =>
        rw [Job.touch_status, hst] at hopen
        cases hopen
      | detached _ hj => cases hj.symm.trans hd
    · -- a deployment with an open job is not given to a new one
      obtain ⟨dep, hf, hact⟩ := hs x job' d hj' hopen hd
      have hn {d' : ℕ} {dep' : Deployment} (hi : dep'.activeJobId = none)
          (hp : s.deployments.find? d' = some dep' ∨ s.deployments.find? d' = none) :
          d ≠ d' := by
        rintro rfl
        rcases hp with hp | hp
        · cases hf.symm.trans hp
          rw [hi] at hact
          cases hact
        · cases hf.symm.trans hp
      cases hcr with
      | requested _ _ hp hi =>
        exact ⟨dep, (if_neg (hn hi (hp.imp_right And.left))).trans hf, hact⟩
      | scheduled _ _ _ hp hi => exact ⟨dep, (if_neg (hn hi (.inl hp))).trans hf, hact⟩
      | refused | detached => exact ⟨dep, hf, hact⟩
  | @writes id job new cond f hj hwr hjobs hdeps =>
    rw [hjobs x] at hj'
    -- the job was open, and it was the active job of its deployment
    have hbefore : ∃ old, s.jobs.find? x = some old ∧ old.status.terminal = false
        ∧ old.deploymentId = some d := by
      split at hj'
      · next hx =>
        subst hx
        cases hj'
        have ho : job.deploymentId = some d := by
          rw [← hwr.frame.deploymentId]
          exact hd
        exact ⟨job, hj, hwr.open_before hkinds hok hj ho hopen, ho⟩
      · exact ⟨job', hj', hopen, hd⟩
    obtain ⟨old, ho, ho', hd'⟩ := hbefore
    obtain ⟨dep, hf, hact⟩ := hs x old d ho ho' hd'
    rw [hdeps d, hf, Option.map_some]
    refine ⟨_, rfl, ?_⟩
    split
    · next hc =>
      cases hwr.activeChange hc.2 with
      | same _ hsame => rw [hsame, hact]
      | taken ha htaken =>
        -- the job that is put back is open too, so it is the same job
        have hother := Step.open_of_defers hok ha hj
        obtain ⟨dep', hf', ha'⟩ := hs id job d hj hother hc.1
        cases hf.symm.trans hf'
        rw [htaken, ← ha', hact]
      | left howne hended _ =>
        cases hact.symm.trans howne
        rw [if_pos rfl] at hj'
        cases hj'
        rw [Job.touch_status, hended] at hopen
        cases hopen
    · exact hact
  | @takesOver id newId d' job new' new dep' hj ht _ hjobs hdeps =>
    rw [hjobs x] at hj'
    rw [hdeps d]
    split at hj'
    · next hx =>
      subst hx
      cases hj'
      cases ht.newDeploymentId.symm.trans hd
      exact ⟨dep', if_pos rfl, ht.newActive⟩
    split at hj'
    · cases hj'
      rw [Job.touch_status, ht.failed] at hopen
      cases hopen
    next hx =>
    obtain ⟨dep, hf, hact⟩ := hs x job' d hj' hopen hd
    refine ⟨dep, (if_neg ?_).trans hf, hact⟩
    rintro rfl
    obtain ⟨dep₁, hf₁, ha₁⟩ := ht.active
    cases hf.symm.trans hf₁
    exact hx (Option.some.inj (hact.symm.trans ha₁))

theorem ActiveOpen.initial (scopes : Finset Scope) : ActiveOpen (System.initial scopes) := by
  intro id job d hj
  cases hj

end Step

end Active

/-! ### The observer -/

/-- In this step a plan of the deployment ends successfully. -/
def planSucceeds (s s' : System) (d : ℕ) : Bool :=
  s'.jobs.rows.any fun row => row.2.deploymentId = some d && row.2.operation = .terraformPlan
    && row.2.status = .successful && (s.jobs.find? row.1).all fun job => job.status ≠ .successful

/-- A deployment is fenced from the moment it is in `reconciliation_required` until a plan of
it ends successfully. -/
def fenceNote (s : System) (_ : Step) (s' : System) (fenced : ℕ → Bool) (d : ℕ) : Bool :=
  (s'.deployments.find? d).any (·.status = .reconciliationRequired)
    || fenced d && !planSucceeds s s' d

/-- One step with the observer of the fences. -/
def watchFences (cfg : Settings) (t : System × (ℕ → Bool)) (a : Step) : System × (ℕ → Bool) :=
  attempt (observed (Step.apply cfg) fenceNote) t a

/-- A run from the empty database with the observer of the fences. -/
def watchFencesRun (cfg : Settings) (scopes : Finset Scope) (steps : List Step) :
    System × (ℕ → Bool) :=
  run (watchFences cfg) (System.initial scopes, fun _ => false) steps

/-- The deployment of the job is fenced. -/
def Job.fenced (fenced : ℕ → Bool) (job : Job) : Bool := job.deploymentId.any fenced

/-- The step keeps to the fence: the scheduler plans, an approval expires where the machine is
in the inventory and nothing was applied, no job is given up, and no ended job is put back. -/
def Step.keepsFence (t : System × (ℕ → Bool)) (a : Step) : Bool :=
  a.defersOpenJob t.1 && match a with
    | .materializeScheduledJob _ schedule =>
      !t.2 schedule.deploymentId || schedule.operation = .terraformPlan
    | .expireWaitingApproval id _ => (t.1.jobs.find? id).all fun job =>
      !job.fenced t.2 || t.1.hasResource job && !job.payload.providerApplied
    | .reconcileStaleJob id _ => (t.1.jobs.find? id).all fun job =>
      !job.fenced t.2 || !job.stale t.1.now
    | .reconcileCancelledJob id rq => (t.1.jobs.find? id).all fun job =>
      !job.fenced t.2 || !job.abandoned t.1.now rq
    | _ => true

/-! ### The invariant -/

/-- A fenced deployment is idle behind its fence, or has a plan as its active job that will
restore it. -/
inductive FenceAt (s : System) (d : ℕ) (deployment : Deployment) : Prop
  | idle (hact : deployment.activeJobId = none)
      (hst : deployment.status = .reconciliationRequired ∨ deployment.status = .destroyed)
  | planned {id : ℕ} {job : Job} (hact : deployment.activeJobId = some id)
      (hjob : s.jobs.find? id = some job) (hopen : job.status.terminal = false)
      (hd : job.deploymentId = some d) (hplan : job.operation = .terraformPlan)
      (hprev : job.payload.previousStatus = some .reconciliationRequired)

structure FenceKept (s : System) (fenced : ℕ → Bool) : Prop where
  kinds : KindsApart s
  active : ActiveOpen s
  required : ∀ d deployment, s.deployments.find? d = some deployment
    → deployment.status = .reconciliationRequired → deployment.activeJobId = none
  fence : ∀ d, fenced d → ∃ deployment, s.deployments.find? d = some deployment
    ∧ FenceAt s d deployment

theorem Step.keepsFence_defers {s : System} {fenced : ℕ → Bool} {a : Step}
    (hok : a.keepsFence (s, fenced)) : a.defersOpenJob s := by
  simp only [Step.keepsFence, Bool.and_eq_true] at hok
  exact hok.1

section Ends

variable {cfg : Settings} {s s' : System} {fenced : ℕ → Bool} {a : Step} {id d : ℕ}
  {job job' : Job} {cond : Deployment → Bool} {f : Deployment → Deployment}
  {dep : Deployment}

section

variable (hfenced : fenced d) (hjob : s.jobs.find? id = some job)
  (hopen : job.status.terminal = false) (hd : job.deploymentId = some d)
include hfenced hjob hopen hd

/-- A fenced deployment with an open job has a plan as its active job. -/
theorem FenceKept.planned (hs : FenceKept s fenced) :
    ∃ dep, s.deployments.find? d = some dep
      ∧ dep.activeJobId = some id ∧ job.operation = .terraformPlan
      ∧ job.payload.previousStatus = some .reconciliationRequired := by
  obtain ⟨dep, hf, ha⟩ := hs.active id job d hjob hopen hd
  obtain ⟨dep', hf', hat⟩ := hs.fence d hfenced
  cases hf.symm.trans hf'
  cases hat with
  | idle hn =>
    rw [ha] at hn
    cases hn
  | planned ha' hj' _ _ hp hprev =>
    cases ha.symm.trans ha'
    cases hjob.symm.trans hj'
    exact ⟨dep, hf, ha, hp, hprev⟩

/-- Each way in which the plan of a fenced deployment ends restores the fence, or the plan
was successful. -/
theorem Writes.plan_ends (h : Writes s a id job job' cond f) (hkinds : KindsApart s)
    (hok : a.keepsFence (s, fenced)) (hp : job.operation = .terraformPlan)
    (hprev : job.payload.previousStatus = some .reconciliationRequired)
    (ha : dep.activeJobId = some id) (hende : job'.status.terminal) :
    job'.status = .successful
      ∨ cond dep ∧ (f dep).status = .reconciliationRequired := by
  have ho : dep.ownedBy id := by simp [Deployment.ownedBy, ha]
  have hb : job.fenced fenced := by simp [Job.fenced, hd, hfenced]
  have hr : job.previousStatus dep = .reconciliationRequired := by
    simp [Job.previousStatus, hprev]
  simp only [Step.keepsFence, Bool.and_eq_true] at hok
  obtain ⟨-, hok⟩ := hok
  cases h with
  | cancelledEarly =>
    refine .inr ⟨ho, ?_⟩
    rw [Deployment.cancelEarly, if_pos hp]
    exact hr
  | quarantined => exact .inr ⟨ho, rfl⟩
  | expired =>
    simp only [hjob, Option.all_some, hb, Bool.not_true, Bool.false_or, Bool.and_eq_true] at hok
    refine .inr ⟨ho, ?_⟩
    simp [Deployment.expire, hprev, hok.1, DeploymentStatus.restorable, Option.filter,
      Deployment.leave]
  | expiredApplied _ _ _ happlied =>
    simp only [hjob, Option.all_some, hb, Bool.not_true, Bool.false_or, Bool.and_eq_true,
      happlied] at hok
    cases hok.2
  | abandoned _ _ hg => simp [hjob, hb, hg] at hok
  | lost hstale => simp [hjob, hb, hstale] at hok
  | @finalized _ _ _ _ _ worker outcome _ _ _ _ _ hf =>
    cases outcome with
    | successful => exact .inl rfl
    | failed | cancelled =>
      refine .inr ⟨ho, ?_⟩
      rw [(hf dep).2, Worker.deploymentStatus, if_pos hp, if_neg (by simp), hr]
  -- the other writers do not end a job, or not the job of a deployment
  | kept _ hst =>
    rw [hst, hopen] at hende
    cases hende
  | approved _ _ hst | deferred _ _ _ _ hst | paused _ _ _ hst => rw [hst] at hende; cases hende
  | actionQueued hrequ hi | actionCancelled hrequ hi | actionCancelling hrequ hi =>
    exact absurd hi (hkinds.request_ne hjob (by rw [hp]; rfl) hrequ)
  | requestMissing _ _ hday2 =>
    rw [hp] at hday2
    cases hday2
  | failedBefore hw | finalizedDay2 hw =>
    exact absurd hw (hkinds.not_workerAt hjob (by rw [hp]; rfl))
  | _ => cases hende

end

/-- Whoever writes `reconciliation_required` gives the deployment up. -/
theorem Writes.required (h : Writes s a id job job' cond f) (hc : cond dep)
    (hst : (f dep).status = .reconciliationRequired) :
    (f dep).activeJobId = none := by
  cases h with
  | cancelledEarly => exact Deployment.cancelEarly_active ..
  | quarantined | expiredApplied | abandoned | lost => rfl
  | expired => exact Deployment.expire_active ..
  | finalized _ _ _ _ hf => exact (hf dep).1
  | kept | approved | claimed | cancelling | markedCancelling | deferred | paused => cases hst
  | claimedDay2 _ _ _ hn | deleteDeferred _ _ hn | actionQueued _ _ _ _ _ _ _ hn
  | actionCancelled _ _ hn | actionCancelling _ _ hn | requestMissing _ _ _ hn
  | failedBefore _ hn | finalizedDay2 _ hn => rw [hn] at hc; cases hc

theorem JobStatus.toDeployment_ne (status : JobStatus) :
    status.toDeployment ≠ .reconciliationRequired := by
  cases status <;> exact nofun

/-- A deployment in `reconciliation_required` that follows its active job had been there, or
is given up. -/
theorem Deployment.follow_required {now : ℕ}
    (hst : (dep.follow now job).status = .reconciliationRequired) :
    (dep.follow now job).activeJobId = none
      ∨ dep.follow now job = dep := by
  unfold Deployment.follow at hst ⊢
  split at hst
  · cases hst
  next hcancel =>
  rw [if_neg hcancel]
  split at hst
  · next hl =>
    rw [if_pos hl]
    split at hst
    · next hk => exact .inr (if_pos hk)
    · exact absurd hst (JobStatus.toDeployment_ne _)
  next hl =>
  rw [if_neg hl]
  split
  · refine .inl ?_
    unfold Deployment.settle
    repeat' split
    all_goals rfl
  · exact .inr rfl

theorem FenceKept.required_step (hs : FenceKept s fenced) (h : a.apply cfg s = .ok s')
    (hf : s'.deployments.find? d = some dep)
    (hst : dep.status = .reconciliationRequired) : dep.activeJobId = none := by
  cases Step.effect h with
  | stays _ hdeps =>
    rw [hdeps] at hf
    exact hs.required d dep hf hst
  | writes hjob hwr hj hdeps =>
    rw [hdeps d] at hf
    obtain ⟨old, ho, hnew⟩ := Option.map_eq_some_iff.1 hf
    split at hnew
    · next hc =>
      subst hnew
      exact hwr.required hc.2 hst
    · subst hnew
      exact hs.required d old ho hst
  | creates _ hcr _ hdeps =>
    rw [hdeps d] at hf
    have ho (hf : s.deployments.find? d = some dep) : dep.activeJobId = none :=
      hs.required d dep hf hst
    cases hcr with
    | requested | scheduled =>
      dsimp only at hf
      split at hf
      · cases hf
        exact absurd hst (JobStatus.toDeployment_ne _)
      · exact ho hf
    | refused | detached => exact ho hf
  | @adjusts x old new ho hadjusts _ hdeps =>
    rw [hdeps d] at hf
    split at hf
    · next hx =>
      subst hx
      cases hf
      cases hadjusts with
      | followed =>
        rcases Deployment.follow_required hst with hn | he
        · exact hn
        rw [he] at hst ⊢
        exact hs.required d old ho hst
      | orphaned => rfl
      | stillCancelling | unblocked => cases hst
      | removed _ hn => exact hn
      | retired _ _ _ ha he =>
        rw [ha]
        exact hs.required d old ho (he ▸ hst)
      | freed => exact hs.required d old ho hst
    · exact hs.required d dep hf hst
  | takesOver _ ht _ _ hdeps =>
    rw [hdeps d] at hf
    split at hf
    · cases hf
      rw [ht.newStatus] at hst
      cases hst
    · exact hs.required d dep hf hst

/-! ### A step behind the fence -/

theorem planSucceeds_eq_true (hjob : s.jobs.find? id = some job) (hopen : job.status.terminal = false)
    (hj' : s'.jobs.find? id = some job') (hd : job'.deploymentId = some d)
    (hp : job'.operation = .terraformPlan) (hsuccess : job'.status = .successful) :
    planSucceeds s s' d := by
  refine List.any_eq_true.2 ⟨(id, job'), Table.mem_rows.2 hj', ?_⟩
  have hn : job.status ≠ .successful := by
    intro hst
    rw [hst] at hopen
    cases hopen
  simp [hd, hp, hsuccess, hjob, hn]

/-- The fence does not depend on the rows of other jobs than the plan. -/
theorem FenceAt.of_jobs (h : FenceAt s d dep)
    (hj : ∀ x job, s.jobs.find? x = some job → job.operation = .terraformPlan
      → s'.jobs.find? x = some job) : FenceAt s' d dep := by
  cases h with
  | idle ha hst => exact .idle ha hst
  | planned ha hjob hopen hd hp hprev =>
    exact .planned ha (hj _ _ hjob hp) hopen hd hp hprev

/-- A new job of a fenced deployment is a plan that will restore it. -/
theorem FenceKept.created (hs : FenceKept s fenced) (hok : a.keepsFence (s, fenced))
    {pl : Option (ℕ × Deployment)} (hcr : Creates s a job pl)
    (hq : job.status ≠ .failed) (hd : job.deploymentId = some d) (hfenced : fenced d) :
    job.operation = .terraformPlan
      ∧ job.payload.previousStatus = some .reconciliationRequired := by
  obtain ⟨dep, hf, hat⟩ := hs.fence d hfenced
  -- the deployment is idle and not destroyed, so it is in `reconciliation_required`
  have hst {pl : Deployment} (hpl : s.deployments.find? d = some pl)
      (hi : pl.activeJobId = none) (halive : pl.status ≠ .destroyed) :
      pl.status = .reconciliationRequired := by
    cases hf.symm.trans hpl
    cases hat with
    | idle _ hst => exact hst.resolve_right halive
    | planned ha =>
      rw [hi] at ha
      cases ha
  cases hcr with
  | requested _ hjob hpl hi halive hfence hp =>
    cases hjob.symm.trans hd
    rcases hpl with hpl | ⟨hn, -⟩
    · have hreq := hst hpl hi halive
      exact ⟨hfence hreq, hreq ▸ hp⟩
    · cases hf.symm.trans hn
  | scheduled _ hjob ho hpl hi halive hp =>
    cases hjob.symm.trans hd
    have hreq := hst hpl hi halive
    simp only [Step.keepsFence, hfenced, Bool.not_true, Bool.false_or, Bool.and_eq_true,
      decide_eq_true_eq] at hok
    exact ⟨ho.trans hok.2, hreq ▸ hp⟩
  | refused hfailed => exact absurd hfailed hq
  | detached _ hn => cases hn.symm.trans hd

section Written

variable (hs : FenceKept s fenced) (hok : a.keepsFence (s, fenced))
  (hf : s.deployments.find? d = some dep) (hjob : s.jobs.find? id = some job)
  (hwr : Writes s a id job job' cond f)
include hs hok hf hjob hwr

/-- A deployment is written by its active job, but for the end of a wait for the provider. -/
theorem FenceKept.writer (hd : job.deploymentId = some d) (hcond : cond dep) :
    dep.activeJobId = some id
      ∨ dep.status = .waitingProvider ∧ (f dep).activeJobId = dep.activeJobId := by
  cases hwr.activeChange hcond with
  | same hreason he => exact hreason.imp_right (⟨·, he⟩)
  | taken ha =>
    have hopen := Step.open_of_defers (Step.keepsFence_defers hok) ha hjob
    obtain ⟨dep', hf', ha'⟩ := hs.active id job d hjob hopen hd
    cases hf.symm.trans hf'
    exact .inl ha'
  | left hown => exact .inl hown

variable (hj : ∀ x, s'.jobs.find? x = if x = id then some (job'.touch s.now) else s.jobs.find? x)
  (hfenced : fenced d)
include hj hfenced

omit hf in
/-- The plan itself is written: it goes on, succeeds, or restores the status before it. -/
theorem FenceKept.plan_written (hact : dep.activeJobId = some id)
    (hopen : job.status.terminal = false) (hd : job.deploymentId = some d)
    (hop : job.operation = .terraformPlan)
    (hprev : job.payload.previousStatus = some .reconciliationRequired)
    (hnot : planSucceeds s s' d = false) :
    FenceAt s' d (if job.deploymentId = some d ∧ cond dep then f dep else dep) := by
  have hr : s'.jobs.find? id = some (job'.touch s.now) := by rw [hj id, if_pos rfl]
  have hfr := hwr.frame
  have hd' : job'.deploymentId = some d := hfr.deploymentId.trans hd
  have ho' : job'.operation = .terraformPlan := hfr.operation.trans hop
  cases hende : job'.status.terminal with
  | true =>
    rcases hwr.plan_ends hfenced hjob hopen hd hs.kinds hok hop hprev hact hende
      with hsuccess | ⟨hcond, hq⟩
    · rw [planSucceeds_eq_true hjob hopen hr hd' ho' hsuccess] at hnot
      cases hnot
    · rw [if_pos ⟨hd, hcond⟩]
      exact .idle (hwr.required hcond hq) (.inl hq)
  | false =>
    refine .planned ?_ hr hende hd' ho' (hfr.previousStatus.trans hprev)
    split
    · next hc =>
      cases hwr.activeChange hc.2 with
      | same _ he => rw [he, hact]
      | taken _ htaken => exact htaken
      | left _ hleft =>
        rw [hende] at hleft
        cases hleft
    · exact hact

theorem FenceKept.written (hat : FenceAt s d dep) (hnot : planSucceeds s s' d = false) :
    FenceAt s' d (if job.deploymentId = some d ∧ cond dep then f dep else dep) := by
  cases hat with
  | idle hact hst =>
    split
    · next hc =>
      rcases hs.writer hok hf hjob hwr hc.1 hc.2 with hown | ⟨hw, -⟩
      · rw [hact] at hown
        cases hown
      · rcases hst with hst | hst <;> cases hw.symm.trans hst
    · exact .idle hact hst
  | @planned y plan hact hp hopen hd hop hprev =>
    by_cases hy : y = id
    · subst hy
      cases hjob.symm.trans hp
      exact hs.plan_written hok hjob hwr hj hfenced hact hopen hd hop hprev hnot
    · -- another job does not own the deployment
      have hother : s'.jobs.find? y = some plan := by rw [hj y, if_neg hy, hp]
      refine .planned ?_ hother hopen hd hop hprev
      split
      · next hc =>
        rcases hs.writer hok hf hjob hwr hc.1 hc.2 with hown | ⟨-, he⟩
        · exact absurd (Option.some.inj (hact.symm.trans hown)) hy
        · exact he.trans hact
      · exact hact

end Written

section

variable (hs : FenceKept s fenced) (h : a.apply cfg s = .ok s') (hok : a.keepsFence (s, fenced))
include hs h hok

theorem FenceKept.fence_step (hfenced : fenced d) (hnot : planSucceeds s s' d = false) :
    ∃ dep, s'.deployments.find? d = some dep ∧ FenceAt s' d dep := by
  obtain ⟨dep, hf, hat⟩ := hs.fence d hfenced
  cases Step.effect h with
  | stays hj hdeps =>
    rw [hdeps]
    exact ⟨dep, hf, hat.of_jobs fun x job hjob _ => by rwa [hj]⟩
  | @creates x job pl hfresh hcr hj hdeps =>
    have hother : FenceAt s' d dep := by
      refine hat.of_jobs fun y job hjob _ => ?_
      rw [hj y, if_neg, hjob]
      rintro rfl
      rw [hfresh] at hjob
      cases hjob
    rw [hdeps d]
    rcases pl with - | ⟨d', pl⟩
    · exact ⟨dep, hf, hother⟩
    dsimp only
    split
    · next hd =>
      subst hd
      have hr : s'.jobs.find? x = some (job.touch s.now) := by rw [hj x, if_pos rfl]
      have hnew : job.IsNew ∧ job.deploymentId = some d := by
        cases hcr with
        | requested hnew hjob | scheduled hnew hjob => exact ⟨hnew, hjob⟩
      have hopen : job.status.terminal = false := by
        rcases hnew.1.status with hst | hst
        all_goals rw [hst]; rfl
      obtain ⟨hp, hprev⟩ := hs.created hok hcr (fun hfailed => by
        rw [hfailed] at hopen
        cases hopen) hnew.2 hfenced
      exact ⟨_, rfl, .planned rfl hr hopen hnew.2 hp hprev⟩
    · exact ⟨dep, hf, hother⟩
  | @adjusts x old new ho hadjusts hj hdeps =>
    have he {y : ℕ} {job : Job} (hjob : s.jobs.find? y = some job) :
        s'.jobs.find? y = some job := by rwa [hj]
    rw [hdeps d]
    split
    · next hx =>
      subst hx
      cases hf.symm.trans ho
      refine ⟨new, rfl, ?_⟩
      cases hat with
      | planned hact hjob hopen hd hp hprev =>
        exact .planned (hadjusts.activeJobId hact hjob hopen) (he hjob) hopen hd hp
          hprev
      | idle hact hst =>
        cases hadjusts with
        | removed _ hn hdestroyed => exact .idle hn (.inr hdestroyed)
        | retired _ _ _ he hk => exact .idle (he.trans hact) (hk.symm ▸ hst)
        | freed => exact .idle hact hst
        | followed ha' | orphaned ha' | stillCancelling _ _ ha' =>
          rw [hact] at ha'; cases ha'
        | unblocked hw => rcases hst with hst | hst <;> cases hw.symm.trans hst
    · exact ⟨dep, hf, hat.of_jobs fun y job hjob _ => he hjob⟩
  | @takesOver x newId d' job job' new dep' hjob ht _ hj hdeps =>
    -- the job that is taken over provisions, so it is not the plan
    obtain ⟨pl, hpl, hact⟩ := ht.active
    rw [hdeps d, if_neg]
    · refine ⟨dep, hf, hat.of_jobs fun y plan hp hop => ?_⟩
      rw [hj y, if_neg, if_neg, hp]
      · rintro rfl
        cases hjob.symm.trans hp
        exact ht.not_plan hop
      · rintro rfl
        rw [ht.fresh] at hp
        cases hp
    rintro rfl
    cases hf.symm.trans hpl
    cases hat with
    | idle hn =>
      rw [hn] at hact
      cases hact
    | planned ha' hp _ _ hop =>
      cases ha'.symm.trans hact
      cases hjob.symm.trans hp
      exact ht.not_plan hop
  | writes hjob hwr hj hdeps =>
    rw [hdeps d, hf, Option.map_some]
    exact ⟨_, rfl, hs.written hok hf hjob hwr hj hfenced hat hnot⟩

theorem FenceKept.step : FenceKept s' (fenceNote s a s' fenced) := by
  have hq (d : ℕ) (dep : Deployment)
      (hf : s'.deployments.find? d = some dep)
      (hst : dep.status = .reconciliationRequired) : dep.activeJobId = none :=
    hs.required_step h hf hst
  have hdefers := Step.keepsFence_defers hok
  refine ⟨hs.kinds.step h, hs.active.step hs.kinds h hdefers, hq, ?_⟩
  intro d hfenced
  simp only [fenceNote, Bool.or_eq_true, Option.any_eq_true, decide_eq_true_eq, Bool.and_eq_true,
    Bool.not_eq_true'] at hfenced
  rcases hfenced with ⟨dep, hf, hst⟩ | ⟨hfenced, hn⟩
  · exact ⟨dep, hf, .idle (hq d dep hf hst) (.inl hst)⟩
  · exact hs.fence_step h hok hfenced hn

end

theorem FenceKept.initial (scopes : Finset Scope) :
    FenceKept (System.initial scopes) fun _ => false := by
  refine ⟨.initial scopes, .initial scopes, ?_, nofun⟩
  intro d dep hf
  cases hf

/-! ### Mutations behind the fence and plans that fail -/

/-- No mutating job of the deployment becomes queued in the step. -/
def QueuesNoMutation (s s' : System) (d : ℕ) : Prop :=
  ∀ id job', s'.jobs.find? id = some job' → job'.deploymentId = some d
    → job'.operation.mutatingTerraform → job'.status = .queued
    → ∃ job, s.jobs.find? id = some job ∧ job.status = .queued

/-- A plan of the deployment that ends failed or cancelled in the step leaves the deployment in
`reconciliation_required`. -/
def RestoresFence (s s' : System) (d : ℕ) : Prop :=
  ∀ id job job', s.jobs.find? id = some job → s'.jobs.find? id = some job'
    → job.deploymentId = some d → job.operation = .terraformPlan → job.status.terminal = false
    → job'.status = .failed ∨ job'.status = .cancelled
    → ∃ deployment, s'.deployments.find? d = some deployment
      ∧ deployment.status = .reconciliationRequired

section

variable (hs : FenceKept s fenced) (h : a.apply cfg s = .ok s') (hok : a.keepsFence (s, fenced))
  (hfenced : fenced d)
include hs h hok hfenced

theorem FenceKept.queuesNoMutation : QueuesNoMutation s s' d := by
  intro id job' hj' hd hmutating hq
  have hdefers := Step.keepsFence_defers hok
  -- an open job of the deployment is a plan, and so is a new one
  have hp (hop : job'.operation = .terraformPlan) : False := by
    rw [hop] at hmutating
    cases hmutating
  have hc := (Step.effect h).rowChange id
  generalize hb : s.jobs.find? id = before at hc
  rw [hj'] at hc
  cases hc with
  | same => exact ⟨job', rfl, hq⟩
  | @written job new _ _ hwr =>
    have hfr := hwr.frame
    have ho : job.deploymentId = some d := hfr.deploymentId.symm.trans hd
    have hopen := hwr.open_before hs.kinds hdefers hb ho (by
      have hq : new.status = .queued := hq
      rw [hq]
      rfl)
    obtain ⟨-, -, -, hop, -⟩ := hs.planned hfenced hb hopen ho
    exact (hp (hfr.operation.trans hop)).elim
  | created hcr =>
    refine (hp (hs.created hok hcr (fun hfailed => ?_) hd hfenced).1).elim
    cases hq.symm.trans hfailed
  | succeeds hjob ht =>
    -- the job that is taken over would be the plan
    cases ht.newDeploymentId.symm.trans hd
    obtain ⟨dep, hf, hat⟩ := hs.fence d hfenced
    obtain ⟨place, hpl, ha⟩ := ht.active
    cases hf.symm.trans hpl
    cases hat with
    | idle hn => rw [hn] at ha; cases ha
    | planned ha' hp' _ _ hop =>
      cases ha.symm.trans ha'
      cases hjob.symm.trans hp'
      exact absurd hop ht.not_plan
  | replaced ht => cases hq.symm.trans ht.failed

theorem FenceKept.restoresFence : RestoresFence s s' d := by
  intro id job job' hjob hj' hd hp hopen he
  obtain ⟨dep, hf, ha, -, hprev⟩ := hs.planned hfenced hjob hopen hd
  have hende : job'.status.terminal := by rcases he with he | he <;> rw [he] <;> rfl
  have hch := (Step.effect h).rowChange id
  rw [hjob, hj'] at hch
  cases hch with
  | same =>
    rw [hopen] at hende
    cases hende
  | @written _ new _ _ hwr hdeps =>
    rcases hwr.plan_ends hfenced hjob hopen hd hs.kinds hok hp hprev ha hende
      with hsuccess | ⟨hc, hq⟩
    · have he : new.status = .failed ∨ new.status = .cancelled := he
      rw [hsuccess] at he
      rcases he with he | he <;> cases he
    · rw [hdeps d, hf, Option.map_some, if_pos ⟨hd, hc⟩]
      exact ⟨_, rfl, hq⟩
  | replaced ht => exact absurd hp ht.not_plan

end

end Ends

/-- **The fence is lifted only by a successful plan.**  In every run from the empty database
whose steps keep to the fence, a step from a state in which a deployment is fenced queues no
mutating job of it, and if a plan of it ends failed or cancelled in the step, by whatever path, the
deployment is back in `reconciliation_required`. -/
theorem fence_lifted_by_plan {cfg : Settings} {scopes : Finset Scope} {steps : List Step} {a : Step}
    (d : ℕ) (hok : Guarded (fun t a => a.keepsFence t) (watchFences cfg)
      (System.initial scopes, fun _ => false) (steps ++ [a]))
    (hfenced : (watchFencesRun cfg scopes steps).2 d) :
    QueuesNoMutation (watchFencesRun cfg scopes steps).1
        (watchFencesRun cfg scopes (steps ++ [a])).1 d
      ∧ RestoresFence (watchFencesRun cfg scopes steps).1
        (watchFencesRun cfg scopes (steps ++ [a])).1 d := by
  obtain ⟨hb, hok, -⟩ := guarded_append.1 hok
  have hs : FenceKept (watchFencesRun cfg scopes steps).1 (watchFencesRun cfg scopes steps).2 :=
    observed_guarded (Step.apply cfg) fenceNote FenceKept
      (fun _ _ _ _ hstep hok hs => hs.step hstep hok) (.initial scopes) hb
  have hl : (watchFencesRun cfg scopes (steps ++ [a])).1
      = attempt (Step.apply cfg) (watchFencesRun cfg scopes steps).1 a := by
    rw [watchFencesRun, run_append]
    exact attempt_observed ..
  rw [hl]
  cases h : Step.apply cfg (watchFencesRun cfg scopes steps).1 a with
  | ok s' =>
    simp only [attempt, h]
    exact ⟨hs.queuesNoMutation h hok hfenced, hs.restoresFence h hok hfenced⟩
  | error e =>
    -- a step that fails changes nothing
    simp only [attempt, h]
    constructor
    · intro id job' hj' _ _ hqueued
      exact ⟨job', hj', hqueued⟩
    intro id job job' hjob hj' _ _ hopen he
    cases hjob.symm.trans hj'
    rcases he with he | he <;> rw [he] at hopen <;> cases hopen

/-- The first apply is cancelled and given up, which fences the deployment. -/
def demoFenced : List Step := demoCancelled ++ [.reconcileCancelledJob 10 .missing]

/-- A plan is queued behind the fence and cancelled. -/
theorem fence_lifted_by_plan_cancelled :
    RestoresFence (watchFencesRun {} demoScopes (demoFenced ++ [.createJob (demoJob 11 .terraformPlan)])).1
      (watchFencesRun {} demoScopes
        (demoFenced ++ [.createJob (demoJob 11 .terraformPlan)] ++ [.cancelJob 11])).1 1 :=
  (fence_lifted_by_plan 1 (by decide +kernel) (by decide +kernel)).2

/-- The scheduler queues a destroy of a fenced deployment. -/
theorem schedule_ignores_fence :
    (watchFencesRun {} demoScopes demoFenced).2 1
      ∧ ¬QueuesNoMutation (watchFencesRun {} demoScopes demoFenced).1
        (watchFencesRun {} demoScopes
          (demoFenced ++ [.materializeScheduledJob 12 ⟨1, .terraformDestroy, [], demoPolicy⟩])).1 1 := by
  refine ⟨by decide +kernel, fun hqueu => ?_⟩
  have hn : (watchFencesRun {} demoScopes demoFenced).1.jobs.find? 12 = none := by decide +kernel
  have hr : ((watchFencesRun {} demoScopes
      (demoFenced ++ [.materializeScheduledJob 12 ⟨1, .terraformDestroy, [], demoPolicy⟩])).1.jobs.find?
      12).map (fun job => (job.deploymentId, job.operation, job.status))
        = some (some 1, .terraformDestroy, .queued) := by
    decide +kernel
  obtain ⟨job, hjob, he⟩ := Option.map_eq_some_iff.1 hr
  simp only [Prod.mk.injEq] at he
  obtain ⟨hd, hop, hqueued⟩ := he
  obtain ⟨old, ho, -⟩ := hqueu 12 job hjob hd (by rw [hop]; rfl) hqueued
  cases hn.symm.trans ho

end CloudPortal
