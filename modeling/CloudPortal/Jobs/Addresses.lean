/-
CloudPortal/Jobs/Addresses.lean

The hostnames and addresses of a machine that is in the inventory.  Allocations are released in
five places.  Three of them are entitled to it: the final transaction of a destroy or of a job
that was rolled back, the rollback itself, and the removal of a missing machine.
The other two give a job up before its execution, and they ask whether the
deployment has a machine either not at all (`cancel_job`) or together with the status that the
job found (`expire_waiting_approvals`).  Besides, an operator can release any allocation.
-/
import CloudPortal.Jobs.Steps

namespace CloudPortal

open RowStore

/-! ### Allocations -/

/-- The hostname reservations and IP allocations of a deployment. -/
def System.addresses (s : System) (d : ℕ) : List AddressStatus :=
  ((s.deployments.find? d).map (·.addresses)).getD []

/-- An allocation that was reserved or assigned is released. -/
def freesAddress (before after : List AddressStatus) : Bool :=
  (before.zip after).any fun p => p.1 ≠ .released && p.2 = .released

theorem freesAddress_self (addresses : List AddressStatus) :
    freesAddress addresses addresses = false := by
  rw [freesAddress, List.any_eq_false]
  intro p hp
  obtain ⟨i, hi, rfl⟩ := List.mem_iff_getElem.1 hp
  simp

/-- The deployment whose machine is confirmed to be gone. -/
def Step.confirmsDestroyed (s : System) : Step → Option ℕ
  | .finalizeJob w _ _ => do
      let worker ← s.workers.find? w
      let job ← s.jobs.find? worker.jobId
      let (d, _) ← s.ownedDeployment worker.jobId job
      if worker.rollbackDestroyed
          || worker.phase = .finishing .successful && job.operation.destroys then some d
      else none
  | .markDestroyedAfterRollback w => do
      let worker ← s.workers.find? w
      let job ← s.jobs.find? worker.jobId
      job.deploymentId
  | .removeConfirmedMissingVm d _ => some d
  | _ => none

/-- No job of the deployment but a plan is cancelled before its execution, no approval expires
whose job has not found the deployment in a status it can return to, and no
operator releases an allocation. -/
def Step.sparesAddresses (s : System) (d : ℕ) : Step → Bool
  | .cancelJob id => (s.jobs.find? id).all fun job =>
    job.deploymentId ≠ some d || !s.owns id job || !job.status.waiting
      || job.operation = .terraformPlan
  | .expireWaitingApproval id _ => (s.jobs.find? id).all fun job =>
    job.deploymentId ≠ some d || !s.owns id job
      || job.payload.previousStatus.any (·.restorable) || job.payload.providerApplied
  | .releaseAddress x _ _ => x ≠ d
  | _ => true

/-! ### Plans remember a live status -/

/-- A plan job was made for a deployment that was not destroyed, and remembers its status. -/
def PlansRemember (s : System) : Prop :=
  ∀ id job, s.jobs.find? id = some job → job.operation = .terraformPlan → job.deploymentId ≠ none
    → ∃ status, job.payload.previousStatus = some status ∧ status ≠ .destroyed

section Invariant

variable {cfg : Settings} {s s' : System} {a : Step}

theorem Creates.remembers {job : Job} {place : Option (ℕ × Deployment)} (h : Creates s a job place)
    (hd : job.deploymentId ≠ none) :
    ∃ st, job.payload.previousStatus = some st ∧ st ≠ .destroyed := by
  cases h with
  | requested _ _ _ _ halive _ hp | scheduled _ _ _ _ _ halive hp => exact ⟨_, hp, halive⟩
  | refused _ _ _ _ _ hp => exact hp
  | detached _ hn => exact absurd hn hd

theorem PlansRemember.step (hs : PlansRemember s) (h : a.apply cfg s = .ok s') :
    PlansRemember s' := by
  intro x job hj hp hd
  have hc := (Step.effect h).rowChange x
  generalize hb : s.jobs.find? x = before at hc
  rw [hj] at hc
  cases hc with
  | same => exact hs x job hb hp hd
  | @written old new _ _ hwr =>
    have hf : old.Frame new := hwr.frame
    obtain ⟨st, hst, halive⟩ := hs x old hb (hf.operation.symm.trans hp) (hf.deploymentId ▸ hd)
    exact ⟨st, hf.previousStatus.trans hst, halive⟩
  | created hcr => exact hcr.remembers hd
  | succeeds _ ht => exact absurd hp ht.newNotPlan
  | replaced ht => exact absurd (ht.frame.operation.symm.trans hp) ht.not_plan

/-! ### One step -/

variable {d id : ℕ} {job job' : Job} {dep : Deployment}

/-- A final transaction leaves a deployment as destroyed only after a rollback or a destroy. -/
theorem destroyed_cases {w : Worker} {out : Outcome} (hs : PlansRemember s)
    (hj : s.jobs.find? id = some job) (hd : job.deploymentId = some d)
    (h : w.deploymentStatus out job dep = .destroyed) :
    w.rollbackDestroyed ∨ out = .successful ∧ job.operation.destroys := by
  unfold Worker.deploymentStatus at h
  split at h
  · next hp =>
    -- a plan restores the status it has found
    obtain ⟨st, hprev, halive⟩ := hs id job hj hp (by simp [hd])
    rw [Job.previousStatus, hprev, Option.getD_some] at h
    split at h
    · cases h
    · exact absurd h halive
  split at h
  · cases h
  split at h
  · next hrolled => exact .inl hrolled
  split at h
  · cases h
  split at h
  · next hdestroy => exact .inr hdestroy
  · cases out <;> cases h

theorem owns_of_ownedBy (hd : job.deploymentId = some d)
    (hfind : s.deployments.find? d = some dep) (ho : dep.ownedBy id) :
    s.owns id job := by
  have hr := (s.deploymentOf_eq_some job).2 ⟨hd, hfind⟩
  simpa [System.owns, hr, Deployment.ownedBy] using ho

variable (hok : a.sparesAddresses s d) (hgone : a.confirmsDestroyed s ≠ some d)
include hok hgone

theorem Adjusts.addresses {dep' : Deployment} (h : Adjusts s a d dep dep') :
    dep'.addresses = dep.addresses := by
  cases h with
  | followed =>
    unfold Deployment.follow Deployment.settle
    repeat' split
    all_goals rfl
  | orphaned | stillCancelling | unblocked => rfl
  | removed => exact absurd rfl hgone
  | retired hw hj hd =>
    refine absurd ?_ hgone
    simp [Step.confirmsDestroyed, hw, hj, hd]
  | freed => exact absurd rfl (of_decide_eq_true hok)

variable (hs : PlansRemember s) (hfind : s.deployments.find? d = some dep)
  (hlive : s.vms.find? d = some .active ∨ s.resources.find? d = some .active)
include hs hfind hlive

/-- What the writer of a job does to the allocations of its deployment. -/
theorem Writes.addresses {cond : Deployment → Bool} {f : Deployment → Deployment}
    (h : Writes s a id job job' cond f) (hj : s.jobs.find? id = some job)
    (hd : job.deploymentId = some d) (hc : cond dep) :
    (f dep).addresses = dep.addresses := by
  cases h with
  | cancelledEarly ho =>
    have hwaiting : job.status.waiting = true := by
      rcases ho with ho | ho <;> rw [ho] <;> rfl
    simp only [Step.sparesAddresses, hj, Option.all_some, hd, owns_of_ownedBy hd hfind hc,
      hwaiting] at hok
    have hp : job.operation = .terraformPlan := by simpa using hok
    rw [Deployment.cancelEarly, if_pos hp]
    rfl
  | expired _ _ happlied =>
    have hres : s.hasResource job = true := by
      have hr := (s.deploymentOf_eq_some job).2 ⟨hd, hfind⟩
      simpa [System.hasResource, System.activeInventoryExists, hr, hd] using hlive
    have hn : job.payload.providerApplied = false := by simpa [hres] using happlied
    simp only [Step.sparesAddresses, hj, Option.all_some, hd, owns_of_ownedBy hd hfind hc,
      hn] at hok
    have hprev : job.payload.previousStatus.any (·.restorable) = true := by simpa using hok
    obtain ⟨st, hst, hre⟩ := (Option.any_eq_true _ _).1 hprev
    simp [Deployment.expire, Option.filter, hst, hre, hres, Deployment.leave]
  | @finalized w recoveryId message _ _ wk out _ hw hi hphase _ _ _ hadd =>
    subst hi
    have ha : dep.activeJobId = some wk.jobId := by simpa [Deployment.ownedBy] using hc
    rcases hadd d dep hd hfind ha with hdestroyed | he
    · -- a destroyed deployment is one that the step has confirmed to be gone
      have hr := (s.deploymentOf_eq_some job).2 ⟨hd, hfind⟩
      refine absurd ?_ hgone
      simp only [Step.confirmsDestroyed, hw, hj, System.ownedDeployment, hr, hphase,
        Option.bind_eq_bind, Option.bind_some, Option.filter_some, ha, decide_true, if_true]
      refine if_pos ?_
      rcases destroyed_cases hs hj hd hdestroyed with hrolled | ⟨houtcome, hop⟩
      · simp [hrolled]
      · simp [houtcome, hop]
    · exact he
  | kept | approved | claimed | cancelling | markedCancelling | deferred | paused | quarantined
  | expiredApplied | abandoned | lost => rfl
  | claimedDay2 _ _ _ hno | deleteDeferred _ _ hno | actionQueued _ _ _ _ _ _ _ hno
  | actionCancelled _ _ hno | actionCancelling _ _ hno | requestMissing _ _ _ hno
  | failedBefore _ hno | finalizedDay2 _ hno => exact absurd hc (by simp [hno])

/-- The allocations of a deployment with a machine stay as they are in such a step. -/
theorem addresses_step (h : a.apply cfg s = .ok s') : s'.addresses d = s.addresses d := by
  obtain ⟨dep', hf', hch⟩ := (Step.effect h).deploymentChange hfind
  have he : dep'.addresses = dep.addresses := by
    cases hch with
    | same => rfl
    | written hj hd hwr hc => exact hwr.addresses hok hgone hs hfind hlive hj hd hc
    | occupied => rfl
    | adjusted hadjusts => exact hadjusts.addresses hok hgone
    | takenOver ht => exact ht.addresses dep hfind
  simp [System.addresses, hfind, hf', he]

end Invariant

/-- **The allocations of a live machine.**  In every state that is reached from the empty
database, a step that does not confirm that the machine of a deployment is gone, and that
cancels and expires no job of it as `Step.sparesAddresses` says, releases no allocation of a
deployment with an active machine or an active resource. -/
theorem live_addresses_kept {cfg : Settings} {scopes : Finset Scope} {steps : List Step} {a : Step}
    {d : ℕ} (hlive : (systemRun cfg (System.initial scopes) steps).vms.find? d = some .active
      ∨ (systemRun cfg (System.initial scopes) steps).resources.find? d = some .active)
    (hok : a.sparesAddresses (systemRun cfg (System.initial scopes) steps) d)
    (hgone : a.confirmsDestroyed (systemRun cfg (System.initial scopes) steps) ≠ some d) :
    freesAddress ((systemRun cfg (System.initial scopes) steps).addresses d)
      ((a.exec cfg (systemRun cfg (System.initial scopes) steps)).addresses d) = false := by
  have hs : PlansRemember (systemRun cfg (System.initial scopes) steps) :=
    systemRun_preserves PlansRemember (fun _ _ _ hstep hs => hs.step hstep)
      (fun _ _ h => by cases h) steps
  generalize systemRun cfg (System.initial scopes) steps = s at *
  unfold Step.exec Transition.attempt
  split
  · next s' h =>
    cases hfind : s.deployments.find? d with
    | none =>
      rw [System.addresses, hfind]
      rfl
    | some deployment =>
      rw [addresses_step hok hgone hs hfind hlive h]
      exact freesAddress_self _
  · exact freesAddress_self _

/-- A machine with one address, and a second apply of it. -/
def demoAddressed : List Step :=
  .createDeployment { demoDeployment with addresses := 1 } (demoJob 10 .terraformApply)
    :: demoApply.tail ++ demoFinish ++ [.createJob (demoJob 11 .terraformApply)]

/-- The second apply is claimed. -/
theorem live_addresses_kept_claimed :
    freesAddress ((systemRun {} (System.initial demoScopes) demoAddressed).addresses 1)
      ((Step.exec {} (systemRun {} (System.initial demoScopes) demoAddressed)
        (.claimJob 1 11)).addresses 1) = false :=
  live_addresses_kept (by decide +kernel) (by decide +kernel) (by decide +kernel)

/-- The second apply is cancelled while it is queued, and the address of the machine is free. -/
theorem cancelled_apply_frees_address :
    (systemRun {} (System.initial demoScopes) demoAddressed).vms.find? 1 = some .active
      ∧ (Step.cancelJob 11).confirmsDestroyed
        (systemRun {} (System.initial demoScopes) demoAddressed) = none
      ∧ freesAddress ((systemRun {} (System.initial demoScopes) demoAddressed).addresses 1)
        ((systemRun {} (System.initial demoScopes) (demoAddressed ++ [.cancelJob 11])).addresses 1)
        = true := by
  decide +kernel

end CloudPortal
