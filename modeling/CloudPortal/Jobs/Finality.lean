/-
CloudPortal/Jobs/Finality.lean

Writes to jobs that look at nothing: they can take back the end of a job, or lose its
cancellation.

Most writers of `Job.status` look at the status first, under a row lock.  Eight do not: the final
transaction of a worker, the three that put a running job back (`defer_for_provider`,
`pause_for_approval`, the deferred Blueprint delete), and on the Day-2 side the approval, the
cancellation, `_fail_before_execution` and the final transaction.  `overwrites` names the job such
a step writes.  As long as none of them meets a job that has ended, a terminal status never
changes (`terminal_status_final`).  A worker that stalls for longer than the heartbeat limit does
meet one.

A job with `cancel_requested` set that is queued or waits for an approval would be skipped by the
claim, by the expiry of approvals and by both reconcilers, for ever.  `cancel_job` and
`cancel_action` move the job out of these statuses when they set the flag, and nobody clears the
flag; but of the writers that put a job back only `defer_for_provider` looks at it first.
-/
import CloudPortal.Jobs.Steps

namespace CloudPortal

open RowStore

/-- The job whose status a step writes without looking at it. -/
def Step.overwrites (s : System) : Step → Option ℕ
  | .deferForProvider w => (s.workers.find? w).map (·.jobId)
  | .pauseForApproval w .. => (s.workers.find? w).map (·.jobId)
  | .deferBlueprintDelete w => (s.workers.find? w).map (·.jobId)
  | .finalizeJob w .. => (s.workers.find? w).map (·.jobId)
  | .failBeforeExecution w _ => (s.workers.find? w).map (·.jobId)
  | .finalizeDay2 w .. => (s.workers.find? w).map (·.jobId)
  | .approveAction r .. => (s.requests.find? r).map (·.jobId)
  | .cancelAction r => (s.requests.find? r).map (·.jobId)
  | _ => none

/-- A step that writes a status blindly finds a job that has not ended. -/
def Step.findsOpenJob (s : System) (a : Step) : Bool :=
  (a.overwrites s).all fun id => (s.jobs.find? id).all fun job => !job.status.terminal

variable {job : Job} {a : Step} {s : System} {id : ℕ}

theorem System.WorkerAt.jobId {w : ℕ} {phase : WorkerPhase} {day2 : Bool}
    (h : s.WorkerAt w id phase day2) : (s.workers.find? w).map (·.jobId) = some id := by
  obtain ⟨worker, hw, hi, -⟩ := h
  rw [hw, Option.map_some, hi]

theorem Outcome.status_terminal (outcome : Outcome) : outcome.status.terminal := by
  cases outcome <;> rfl

/-- Every other write that changes the status finds a job that has not ended. -/
theorem Writes.open_or_overwrites {job' : Job} {cond : Deployment → Bool}
    {f : Deployment → Deployment} (h : Writes s a id job job' cond f) :
    job'.status = job.status ∨ job.status.terminal = false ∨ a.overwrites s = some id := by
  cases h with
  | kept _ hstatus => exact .inl hstatus
  | approved _ ho | claimed ho | claimedDay2 ho | markedCancelling ho
  | expiredApplied ho | expired ho | requestMissing ho => simp [ho, JobStatus.terminal]
  | cancelling ho | cancelledEarly ho | abandoned ho =>
    rcases ho with ho | ho <;> simp [ho, JobStatus.terminal]
  | deferred _ hw | paused _ hw | deleteDeferred hw => exact .inr (.inr hw.jobId)
  | quarantined ho => exact .inr (.inl ho)
  | lost hs =>
    simp only [Job.stale, Bool.and_eq_true, decide_eq_true_eq] at hs
    simp [hs.1.1, JobStatus.terminal]
  | finalized hw hi => simp [Step.overwrites, hw, hi]
  | actionQueued hq hi | actionCancelled hq hi | actionCancelling hq hi =>
    simp [Step.overwrites, hq, hi]
  | failedBefore hw | finalizedDay2 hw => exact .inr (.inr hw.jobId)

theorem TakeoverReason.open_or_overwrites (h : TakeoverReason s a id job) :
    job.status.terminal = false ∨ a.overwrites s = some id := by
  rcases h with ⟨_, -, hs⟩ | ⟨w, recoveryId, message, worker, rfl, hw, hi, -⟩
  · simp only [Job.stale, Bool.and_eq_true, decide_eq_true_eq] at hs
    simp [hs.1.1, JobStatus.terminal]
  · simp [Step.overwrites, hw, hi]

/-- One step leaves the status of an ended job alone, unless it writes it blindly. -/
theorem JobChange.terminal_status {row row' : Option Job} (h : JobChange s a id row row')
    (hr : row = some job) (hterminal : job.status.terminal) (hblind : a.overwrites s ≠ some id) :
    ∃ job', row' = some job' ∧ job'.status = job.status := by
  cases h with
  | same => exact ⟨job, hr, rfl⟩
  | written hwrites =>
    cases hr
    refine ⟨_, rfl, ?_⟩
    rcases hwrites.open_or_overwrites with hs | ho | hover
    · exact hs
    · rw [hterminal] at ho
      cases ho
    · exact absurd hover hblind
  | created => cases hr
  | replaced hframe hfailed hcancel hheartbeat hreason =>
    cases hr
    rcases hreason.open_or_overwrites with ho | hover
    · rw [hterminal] at ho
      cases ho
    · exact absurd hover hblind

/-- The status that a job has. -/
def System.jobStatus (s : System) (id : ℕ) : Option JobStatus := (s.jobs.find? id).map (·.status)

/-- **Terminal statuses are final.**  In every run whose blind writes find open jobs, a
job that is successful, failed or cancelled keeps that status for ever. -/
theorem terminal_status_final {cfg : Settings} {s : System} {steps : List Step}
    (hok : Transition.Guarded (fun s a => a.findsOpenJob s) (Step.exec cfg) s steps)
    {id : ℕ} {status : JobStatus} (hstatus : s.jobStatus id = some status)
    (hterminal : status.terminal) : (systemRun cfg s steps).jobStatus id = some status := by
  refine systemRun_invariant (fun s => s.jobStatus id = some status) (fun s a s' hs' hok hs => ?_)
    hstatus hok
  obtain ⟨job, hj, rfl⟩ := Option.map_eq_some_iff.1 hs
  obtain ⟨job', hj', he⟩ := ((Step.effect hs').jobChange id).terminal_status hj hterminal
    fun hover => by simp [Step.findsOpenJob, hover, hj, hterminal] at hok
  rw [System.jobStatus, hj', Option.map_some, he]

/-- The worker of the first apply dies, and the job is given up as failed. -/
def demoLost : List Step := demoApply ++ [.crashWorker 0, .tick 200, .reconcileStaleJob 10 99]

/-- Another worker destroys the machine; its final transaction writes without a look. -/
def demoDestroy : List Step :=
  [.createJob (demoJob 11 .terraformDestroy), .claimJob 1 11, .startBody 1 true,
    .checkContext 1 false true false, .submitMutation 1 false false, .mutationSucceeded 1,
    .checkContext 1 false true false, .finishBody 1 true, .finalizeJob 1 0 ""]

theorem terminal_status_final_lost :
    (systemRun {} (systemRun {} (System.initial demoScopes) demoLost) demoDestroy).jobStatus 11
        = some .successful
      ∧ (systemRun {} (systemRun {} (System.initial demoScopes) demoLost) demoDestroy).jobStatus 10
        = some .failed :=
  ⟨by decide +kernel, terminal_status_final (by decide +kernel) (by decide +kernel) rfl⟩

/-- If the worker was only slow, its final transaction turns the failed job into a
successful one. -/
theorem lost_job_ends_twice :
    (systemRun {} (System.initial demoScopes)
        (demoApply ++ [.tick 200, .reconcileStaleJob 10 99])).jobStatus 10 = some .failed
      ∧ (systemRun {} (System.initial demoScopes)
        (demoApply ++ [.tick 200, .reconcileStaleJob 10 99] ++ demoFinish)).jobStatus 10
        = some .successful := by
  decide +kernel

/-! ### Cancellation requests -/

/-- The job that a step puts back without looking at its cancellation request. -/
def Step.putsBack (s : System) : Step → Option ℕ
  | .pauseForApproval w .. => (s.workers.find? w).map (·.jobId)
  | .deferBlueprintDelete w => (s.workers.find? w).map (·.jobId)
  | .approveAction r .. => (s.requests.find? r).map (·.jobId)
  | _ => none

/-- A step that puts a job back finds no cancellation request on it. -/
def Step.findsNoCancellation (s : System) (a : Step) : Bool :=
  (a.putsBack s).all fun id => (s.jobs.find? id).all fun job => !job.cancelRequested

/-- No job has a cancellation request while it waits. -/
def CancellationSeen (s : System) : Prop :=
  ∀ id job, s.jobs.find? id = some job → job.cancelRequested → job.status.waiting = false

theorem Outcome.status_waiting (outcome : Outcome) : outcome.status.waiting = false := by
  cases outcome <;> rfl

/-- A write leaves a waiting job with a cancellation request only if there was one, or
if it puts the job back. -/
theorem Writes.cancellation {s : System} {a : Step} {id : ℕ} {job job' : Job}
    {cond : Deployment → Bool} {f : Deployment → Deployment} (h : Writes s a id job job' cond f)
    (hc' : job'.cancelRequested) (hw : job'.status.waiting) :
    (job.cancelRequested ∧ job.status.waiting) ∨ (a.putsBack s = some id ∧ job.cancelRequested) := by
  cases h with
  | kept _ hstatus hc => exact .inl ⟨hc ▸ hc', hstatus ▸ hw⟩
  | approved _ ho _ hc => exact .inl ⟨hc ▸ hc', by rw [ho]; rfl⟩
  | deferred _ _ _ hc =>
    rw [hc] at hc'
    cases hc'
  | paused _ hwk hc =>
    obtain ⟨worker, hwk, hi, -⟩ := hwk
    exact .inr ⟨by simp [Step.putsBack, hwk, hi], hc ▸ hc'⟩
  | deleteDeferred hwk =>
    obtain ⟨worker, hwk, hi, -⟩ := hwk
    exact .inr ⟨by simp [Step.putsBack, hwk, hi], hc'⟩
  | actionQueued hreq hi _ _ _ hc =>
    exact .inr ⟨by simp [Step.putsBack, hreq, hi], hc ▸ hc'⟩
  | finalized => exact absurd hw (by simp [Job.finish, Outcome.status_waiting])
  | finalizedDay2 => exact absurd hw (by simp [Outcome.status_waiting])
  | _ => cases hw

theorem JobChange.cancellation {s : System} {a : Step} {id : ℕ} {row row' : Option Job}
    (h : JobChange s a id row row') (hok : a.findsNoCancellation s) (hf : s.jobs.find? id = row)
    (hseen : ∀ job, row = some job → job.cancelRequested → job.status.waiting = false)
    {job' : Job} (hr' : row' = some job') (hc : job'.cancelRequested) :
    job'.status.waiting = false := by
  cases h with
  | same => exact hseen job' hr' hc
  | @written job _ _ _ hwrites =>
    cases hr'
    by_contra hw
    rw [Bool.not_eq_false] at hw
    rcases hwrites.cancellation hc hw with ⟨ho, ho'⟩ | ⟨hb, ho⟩
    · rw [hseen job rfl ho] at ho'
      cases ho'
    · simp [Step.findsNoCancellation, hb, hf, ho] at hok
  | created _ hc' =>
    cases hr'
    exact absurd hc (by simp [hc'])
  | replaced _ hfailed =>
    cases hr'
    simp [hfailed, JobStatus.waiting]

/-- **Cancellation is never lost.**  In every run from the empty database in which the
steps that put a job back find no cancellation request on it, no job is ever queued or
waiting for an approval with its cancellation requested. -/
theorem cancellation_never_lost {cfg : Settings} {scopes : Finset Scope} {steps : List Step}
    (hok : Transition.Guarded (fun s a => a.findsNoCancellation s) (Step.exec cfg)
      (System.initial scopes) steps) :
    CancellationSeen (systemRun cfg (System.initial scopes) steps) := by
  refine systemRun_invariant CancellationSeen (fun s a s' hs' hok hs => ?_) ?_ hok
  · intro id job' hj' hc
    exact ((Step.effect hs').jobChange id).cancellation hok rfl (hs id) hj' hc
  · intro id job hj
    cases hj

/-- A Blueprint with an approval step. -/
def demoBlueprint : Blueprint := { requiresApproval := true, approvalStep := true }

/-- A worker executes an apply of that Blueprint. -/
def demoWorkflow : List Step :=
  [.createDeployment { demoDeployment with blueprint := some demoBlueprint }
      { demoJob 10 .terraformApply with blueprint := some demoBlueprint },
    .claimJob 0 10, .startBody 0 true]

theorem cancellation_never_lost_paused :
    CancellationSeen (systemRun {} (System.initial demoScopes)
      (demoWorkflow ++ [.pauseForApproval 0 "review" none demoPolicy, .releaseAfterPause 0,
        .cancelJob 10])) :=
  cancellation_never_lost (by decide +kernel)

/-- A cancellation that arrives between the last check of the worker and its pause is
overwritten: the job waits for an approval with its cancellation requested. -/
theorem pause_loses_cancellation :
    ((systemRun {} (System.initial demoScopes)
        (demoWorkflow ++ [.cancelJob 10, .pauseForApproval 0 "review" none demoPolicy])).jobs.find? 10).map
      (fun job => (job.cancelRequested, job.status)) = some (true, .waitingApproval) := by
  decide +kernel

end CloudPortal
