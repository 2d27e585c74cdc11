/-
CloudPortal/Jobs/Ownership.lean

One executor for each deployment: once a reconciler has given up on a job, so that
another job of the deployment may be queued, the worker of the first job must not go
on.  All that stops it is `Context.check`, and all that the check looks at is the
cancellation request, at most once a second.

A job that `reconcile_cancelled_jobs` gives up carries that request, so its worker is
stopped by its next check; what remains is a worker that has passed its check and has
not submitted yet, or that has another call to make behind the same check.  A job that
`reconcile_stale_jobs` gives up carries no request: a worker that was only slow goes on for as
long as it likes.
-/
import CloudPortal.Jobs.Finality

namespace CloudPortal

open RowStore

/-- The places of the program from which a mutation may still be submitted. -/
def WorkerPhase.maySubmit : WorkerPhase → Bool
  | .starting | .body | .mutating _ | .aborted => true
  | _ => false

/-- A check that raises. -/
def CheckResult.raises : CheckResult → Bool
  | .cancelled | .unauthorized => true
  | _ => false

/-- A worker that cannot submit anything behind a cancellation request: it is over, or
its next call is behind a check that will look at the job row. -/
def Worker.harmless (now : ℕ) (cancelRequested : Bool) (worker : Worker) : Bool :=
  !worker.phase.maySubmit
    || cancelRequested && !(worker.cleared || worker.burst) && !worker.throttled now false

/-- What holds of a job from the moment it is given up. -/
structure GivenUp (id : ℕ) (s : System) (job : Job) : Prop where
  find : s.jobs.find? id = some job
  kind : job.operation.isDay2 = false
  ended : job.cancelRequested ∨ job.status.terminal
  workers : ∀ w worker, s.workers.find? w = some worker → worker.jobId = id
    → worker.harmless s.now job.cancelRequested

/-! ### What later steps do to the job -/

variable {f : Deployment → Deployment} {job job' : Job} {cfg : Settings} {a : Step} {s s' : System}
  {wk : Worker} {w id now : ℕ} {cond : Deployment → Bool} {now' : ℕ} {wk' : Worker}

/-- Nobody takes a cancellation request back. -/
theorem Writes.cancelRequested (h : Writes s a id job job' cond f)
    (hc : job.cancelRequested) : job'.cancelRequested := by
  cases h with
  | kept _ _ hs | approved _ _ _ hs | paused _ _ hs | actionQueued _ _ _ _ _ hs =>
    rwa [hs]
  | deferred _ _ hn => rw [hn] at hc; cases hc
  | cancelling | cancelledEarly | actionCancelled | actionCancelling => rfl
  | _ => exact hc

theorem Step.cancelRequested_persists (h : a.apply cfg s = .ok s')
    (hj : s.jobs.find? id = some job) (hj' : s'.jobs.find? id = some job')
    (hc : job.cancelRequested) : job'.cancelRequested := by
  have hch := (Step.effect h).jobChange id
  rw [hj, hj'] at hch
  cases hch with
  | same => exact hc
  | written hwr => exact hwr.cancelRequested hc
  | replaced _ _ hs =>
    rw [Job.touch_cancelRequested, hs]
    exact hc

/-- A job without a cancellation request that was given up stays terminal. -/
theorem Writes.stays_terminal (h : Writes s a id job job' cond f)
    (hs : KindsApart s) (hgiven : GivenUp id s job) (hc : job.cancelRequested = false) :
    job'.status.terminal := by
  have hterminal : job.status.terminal := hgiven.ended.resolve_left (by simp [hc])
  -- no worker of the job is at a place from which it could put the job back
  have hw {w : ℕ} {phase : WorkerPhase} {day2 : Bool} (hat : s.WorkerAt w id phase day2) :
      phase.maySubmit = false := by
    obtain ⟨wk, hf, hi, rfl, -⟩ := hat
    have := hgiven.workers w wk hf hi
    rw [hc] at this
    simpa [Worker.harmless] using this
  rcases h.open_or_overwrites with he | ho | hover
  · rwa [he]
  · rw [hterminal] at ho
    cases ho
  cases h with
  | deferred _ hat | paused _ hat | deleteDeferred hat => cases hw hat
  | kept _ hstatus => rwa [hstatus]
  | finalized | finalizedDay2 => exact Outcome.status_terminal _
  | actionQueued hq hi | actionCancelling hq hi =>
    exact absurd hi (hs.request_ne hgiven.find hgiven.kind hq)
  | _ => first | rfl | cases hover

/-- A job that was given up without a cancellation request has ended for good. -/
theorem GivenUp.ended_step (h : a.apply cfg s = .ok s') (hs : KindsApart s)
    (hgiven : GivenUp id s job) (hj' : s'.jobs.find? id = some job') :
    job'.cancelRequested ∨ job'.status.terminal := by
  by_cases hc : job.cancelRequested
  · exact .inl (Step.cancelRequested_persists h hgiven.find hj' hc)
  rw [Bool.not_eq_true] at hc
  have hch := (Step.effect h).jobChange id
  rw [hgiven.find, hj'] at hch
  cases hch with
  | same => exact hgiven.ended
  | written hwr => exact .inr (hwr.stays_terminal hs hgiven hc)
  | replaced _ hfailed =>
    refine .inr ?_
    rw [Job.touch_status, hfailed]
    rfl

/-! ### What later steps do to its workers -/

theorem Worker.throttled_mono (hnow : now ≤ now')
    (h : wk.throttled now false = false) : wk.throttled now' false = false := by
  unfold Worker.throttled at h ⊢
  cases hl : wk.lastCheck with
  | none => rfl
  | some t =>
    simp only [hl, Bool.not_false, Bool.true_and, Option.any_some, decide_eq_false_iff_not,
      not_lt] at h ⊢
    omega

/-- A worker that was not checking lately and whose job is to be cancelled is stopped. -/
theorem contextCheck_cancelled (force auth : Bool) (hc : job.cancelRequested)
    (hthrottled : wk.throttled now false = false) :
    contextCheck now wk (some job) force auth = .cancelled := by
  have hthrottled' : wk.throttled now force = false := by
    cases force with
    | true => rfl
    | false => exact hthrottled
  simp [contextCheck, hthrottled', hc]

/-- A worker that may still submit, seen through what makes it harmless. -/
theorem Worker.harmless_iff {cancelRequested : Bool} :
    wk.harmless now cancelRequested ↔ (wk.phase.maySubmit →
      cancelRequested ∧ (wk.cleared || wk.burst) = false ∧ wk.throttled now false = false) := by
  simp only [Worker.harmless, Bool.or_eq_true, Bool.not_eq_true', Bool.and_eq_true]
  cases wk.phase.maySubmit
  · simp
  · simp [and_assoc]

/-- A worker that is harmless stays so, whatever it does. -/
theorem WorkerMove.harmless (h : WorkerMove s a w wk wk') (hj : s.jobs.find? wk.jobId = some job)
    (hw : wk.harmless s.now job.cancelRequested) :
    wk'.harmless s.now job.cancelRequested := by
  rw [Worker.harmless_iff] at hw ⊢
  cases h with
  | started hph => exact fun _ => hw (by rw [hph]; rfl)
  | cleared hph hr =>
    -- neither a skipped nor a passed check is possible
    intro hmay
    obtain ⟨hc, -, hthrottled⟩ := hw hmay
    rw [hj] at hr
    rcases hr with ⟨hr, -⟩ | ⟨hr, -⟩
    all_goals
      rw [contextCheck_cancelled _ _ hc hthrottled] at hr
      cases hr
  | unauthorized hph hr =>
    have hmay : wk.phase.maySubmit := by
      cases hp : wk.phase <;> simp_all [WorkerPhase.checks, WorkerPhase.maySubmit]
    obtain ⟨hc, -, hthrottled⟩ := hw hmay
    rw [hj, contextCheck_cancelled _ _ hc hthrottled] at hr
    cases hr
  | submitted _ hph hcleared | lost hph hcleared =>
    have hmay : wk.phase.maySubmit := by rcases hph with hph | hph <;> rw [hph] <;> rfl
    have hnone := (hw hmay).2.1
    rw [Bool.or_eq_false_iff] at hnone
    simp [hnone] at hcleared
  | succeeded hph =>
    obtain ⟨hc, hcleared, hthrottled⟩ := hw (by rw [hph]; rfl)
    exact fun _ => ⟨hc, (Bool.or_eq_false_iff.1 hcleared).2, hthrottled⟩
  | aborted hph =>
    obtain ⟨hc, -, hthrottled⟩ := hw (by rw [hph]; rfl)
    exact fun _ => ⟨hc, rfl, hthrottled⟩
  | committed hph => exact hw
  | _ => exact fun hmay => by cases hmay

theorem Worker.harmless_mono {cancelRequested cancelRequested' : Bool}
    (h : wk.harmless now cancelRequested) (hnow : now ≤ now')
    (hn : cancelRequested → cancelRequested') : wk.harmless now' cancelRequested' := by
  rw [Worker.harmless_iff] at h ⊢
  intro hmay
  obtain ⟨hc, hcleared, hthrottled⟩ := h hmay
  exact ⟨hn hc, hcleared, Worker.throttled_mono hnow hthrottled⟩

/-- A step leaves the workers of a job that was given up harmless: it cannot be claimed
again, and what a worker of it does goes through a check. -/
theorem GivenUp.workers_step (h : a.apply cfg s = .ok s') (hs : KindsApart s)
    (hworkers : ∀ w wk, s.workers.find? w = some wk → wk.jobId = id
      → wk.harmless s.now job.cancelRequested) (hj : s.jobs.find? id = some job)
    (hk : job.operation.isDay2 = false)
    (hclaim : ∀ w, a = .claimJob w id → job.cancelRequested ∨ job.status.terminal)
    (hw : s'.workers.find? w = some wk') (hi : wk'.jobId = id) :
    wk'.harmless s.now job.cancelRequested := by
  have hch := (Step.side h).worker w wk' hw
  generalize hr : s.workers.find? w = row at hch
  cases hch with
  | same => exact hworkers w wk' hr hi
  | born ha hf hq hn =>
    cases hi
    rw [hj] at hf
    cases hf
    rcases hclaim w ha with hc | hterminal
    · rw [hn] at hc
      cases hc
    · rw [hq] at hterminal
      cases hterminal
  | bornDay2 hf ho hi' =>
    rw [← hi', hi, hj] at hf
    cases hf
    rw [hk] at ho
    cases ho
  | @moved wk _ hday2 hm =>
    have hi' : wk.jobId = id := hm.frame.1.symm.trans hi
    exact hm.harmless (by rw [hi', hj]) (hworkers w wk hr hi')
  | @movedDay2 wk _ hday2 hi' =>
    exact absurd ⟨wk, hr, hi'.symm.trans hi, rfl, hday2⟩ (hs.not_workerAt hj hk)

/-- What holds of a job that was given up is kept by every step. -/
theorem GivenUp.step (h : a.apply cfg s = .ok s') (hs : KindsApart s) (hgiven : GivenUp id s job) :
    ∃ job', GivenUp id s' job' := by
  obtain ⟨job', hj', hf⟩ := Step.job_persists h hgiven.find
  refine ⟨job', hj', hf.operation ▸ hgiven.kind, hgiven.ended_step h hs hj', ?_⟩
  intro w wk' hw hi
  have hwk := GivenUp.workers_step h hs hgiven.workers hgiven.find hgiven.kind
    (fun _ _ => hgiven.ended) hw hi
  refine Worker.harmless_mono hwk ?_ (Step.cancelRequested_persists h hgiven.find hj')
  rw [(Step.side h).now]
  exact Nat.le_add_right ..

/-! ### The moment at which a job is given up -/

theorem reconcileStaleJob_fails {resumeId : ℕ} (h : reconcileStaleJob cfg s id resumeId = .ok s')
    (hj' : s'.jobs.find? id = some job') : job'.status = .failed := by
  simp only [reconcileStaleJob, need_bind_eq_ok, ensure_bind_eq_ok, ofQuota_bind_eq_ok] at h
  obtain ⟨job, hj, -, l, -, h⟩ := h
  split at h
  · simp only [ensure_bind_eq_ok, System.freshJobId, Bool.and_eq_true,
      Option.isNone_iff_eq_none] at h
    obtain ⟨⟨-, hfresh⟩, h⟩ := h
    have hn : id ≠ resumeId := by
      rintro rfl
      rw [hj] at hfresh
      cases hfresh
    cases h
    have hp := find?_put_put.symm.trans hj'
    rw [if_neg hn, if_pos rfl] at hp
    cases hp
    rfl
  · cases h
    have hp := (System.find?_putJob ..).symm.trans hj'
    rw [if_pos rfl] at hp
    cases hp
    rfl

end CloudPortal
