/-
CloudPortal/Jobs/Fence.lean

The reconciliation fence is raised: a Terraform job that ends while the outcome of its
last mutation is unknown leaves its deployment in `reconciliation_required`, or with
a recovery job in the queue, and `new_job` accepts nothing but a plan.

An observer of the run writes down which jobs have submitted a mutation that has not come back
(`Step.track`); nothing in the system reads the notes.  `Tracked` relates them to the rows: a job
has at most one worker that is not waiting for an approval, such a worker has no job that waits,
and while a mutation of the job is out the worker knows that it submitted it and can only check,
fail or finish.  In particular no job is put back into the queue with a mutation out.

Four finalizers raise the fence from different evidence.  `reconcile_cancelled_jobs` and the
quarantine look at the operation only, which is enough.  The worker looks at what it
submitted, but takes the persisted checkpoint `provider_applied` as a sign that
nothing is open, although a later rollback may be; and `reconcile_stale_jobs` leaves the
deployment in `failed` if it queues no automatic resume.
-/
import CloudPortal.Jobs.Finality

namespace CloudPortal

open RowStore Transition

section Submissions

/-- The jobs whose last submitted mutation has not come back. -/
abbrev Unresolved := ℕ → Bool

/-- The note that an observer takes about the job of a worker. -/
def System.noteJob (s : System) (w : ℕ) (out : Bool) (unresolved : Unresolved) : Unresolved :=
  fun id => if (s.workers.find? w).any (·.jobId = id) then out else unresolved id

/-- What an observer of the submissions writes down. -/
def Step.track (s : System) (a : Step) (_ : System) (unresolved : Unresolved) : Unresolved :=
  match a with
  | .submitMutation w _ _ => s.noteJob w true unresolved
  | .mutationSucceeded w => s.noteJob w false unresolved
  | _ => unresolved

variable {s s' : System} {a : Step} {unresolved : Unresolved} {id w : ℕ}

/-- Every note is an old one, or about the job of a worker that submits. -/
theorem Step.track_eq_true (h : a.track s s' unresolved id) :
    unresolved id ∨ ∃ w rb more wk, a = .submitMutation w rb more
      ∧ s.workers.find? w = some wk ∧ wk.jobId = id := by
  cases a with
  | submitMutation w rb more =>
    simp only [Step.track, System.noteJob] at h
    split at h
    · next hi =>
      obtain ⟨wk, hw, hi⟩ := (Option.any_eq_true _ _).1 hi
      exact .inr ⟨w, rb, more, wk, rfl, hw, by simpa using hi⟩
    · exact .inl h
  | mutationSucceeded w =>
    simp only [Step.track, System.noteJob] at h
    split at h
    · cases h
    · exact .inl h
  | _ => exact .inl h

variable {wk wk' : Worker}

/-! ### How a job is put back -/

section Returned

variable {cfg : Settings} {s s' : System} {a : Step} {w id : ℕ} {job job' : Job}

/-- A deferred job loses its worker; otherwise no status is written. -/
theorem deferForProvider_returns (h : deferForProvider cfg s w = .ok s') :
    s'.workers.find? w = none ∨ ∀ id job', s'.jobs.find? id = some job'
      → ∃ job, s.jobs.find? id = some job ∧ job'.status = job.status := by
  simp only [deferForProvider, workerJob_bind_eq_ok, ensure_bind_eq_ok] at h
  obtain ⟨wk, job, -, -, hj, -, h⟩ := h
  split at h
  · cases h
    exact .inl (Table.find?_erase_self ..)
  split at h
  · cases h
    refine .inr fun id job' hj' => ?_
    change (clearProviderWait s wk.jobId job).jobs.find? id = some job' at hj'
    unfold clearProviderWait at hj'
    split at hj'
    · change (s.putJob wk.jobId _).jobs.find? id = some job' at hj'
      rw [System.find?_putJob] at hj'
      split at hj'
      · next he =>
        cases hj'
        exact ⟨job, by rw [he, hj], rfl⟩
      · exact ⟨job', hj', rfl⟩
    · exact ⟨job', hj', rfl⟩
  · cases h
    exact .inl (Table.find?_erase_self ..)

theorem pauseForApproval_returns {stepId : String} {sha : Option String}
    {config : ApprovalPolicy} (h : pauseForApproval s w stepId sha config = .ok s')
    (hw : s'.workers.find? w = some wk') : wk'.phase = .paused := by
  simp only [pauseForApproval, workerJob_bind_eq_ok, ensure_bind_eq_ok] at h
  obtain ⟨wk, job, -, -, -, -, h⟩ := h
  cases h
  have hp := (Table.find?_put_self ..).symm.trans hw
  cases hp
  rfl

theorem deferBlueprintDelete_returns (h : deferBlueprintDelete s w = .ok s') :
    s'.workers.find? w = none := by
  simp only [deferBlueprintDelete, workerJob_bind_eq_ok, ensure_bind_eq_ok] at h
  obtain ⟨wk, job, -, -, -, -, h⟩ := h
  cases h
  exact Table.find?_erase_self ..

/-- A job of a generic worker that starts to wait is put back by a worker in its first
part, which is gone or paused afterwards. -/
theorem Step.returned (h : a.apply cfg s = .ok s') (hs : KindsApart s)
    (hj : s.jobs.find? id = some job) (hj' : s'.jobs.find? id = some job')
    (hk : job.operation.isDay2 = false) (ho : job.status.waiting = false)
    (hnew : job'.status.waiting) :
    ∃ w phase, s.WorkerAt w id phase false ∧ (phase = .starting ∨ phase = .body)
      ∧ ∀ wk', s'.workers.find? w = some wk' → wk'.phase = .paused := by
  have hc := (Step.effect h).jobChange id
  rw [hj, hj'] at hc
  cases hc with
  | same => rw [ho] at hnew; cases hnew
  | replaced _ hfailed =>
    rw [Job.touch_status, hfailed] at hnew
    cases hnew
  | @written _ job₁ _ _ hwrites =>
    change job₁.status.waiting at hnew
    cases hwrites with
    | kept _ hst => rw [hst, ho] at hnew; cases hnew
    | approved _ hwait => rw [hwait] at ho; cases ho
    | @deferred w _ _ _ _ hat _ _ hq =>
      refine ⟨w, .starting, hat, .inl rfl, fun wk' hw => ?_⟩
      rcases deferForProvider_returns h with hn | he
      · rw [hn] at hw
        cases hw
      obtain ⟨job₂, hj₂, hst⟩ := he id _ hj'
      rw [hj] at hj₂
      cases hj₂
      rw [Job.touch_status] at hst
      rw [hst, ho] at hnew
      cases hnew
    | @paused w _ _ _ _ _ _ _ hat =>
      exact ⟨w, .body, hat, .inr rfl, fun wk' hw => pauseForApproval_returns h hw⟩
    | @deleteDeferred w _ _ _ _ hat =>
      refine ⟨w, .body, hat, .inr rfl, fun wk' hw => ?_⟩
      rw [deferBlueprintDelete_returns h] at hw
      cases hw
    | actionQueued hreq hi => exact absurd hi (hs.request_ne hj hk hreq)
    | @finalized _ _ _ _ _ _ out | @finalizedDay2 _ _ _ _ _ out =>
      cases out <;> cases hnew
    | _ => cases hnew

end Returned

/-! ### What the notes say about the rows -/

/-- A worker of the generic kind that is not waiting for an approval. -/
def System.Executes (s : System) (w : ℕ) (worker : Worker) : Prop :=
  s.workers.find? w = some worker ∧ worker.day2 = false ∧ worker.phase ≠ .paused

/-- The places of the program at which the outcome of a mutation may be open. -/
def WorkerPhase.exposed : WorkerPhase → Bool
  | .mutating _ | .aborted | .finishing _ => true
  | _ => false

/-- The notes and the rows fit together. -/
structure Tracked (s : System) (unresolved : Unresolved) : Prop where
  kinds : KindsApart s
  /-- a job has one worker that executes it -/
  single : ∀ w worker w' worker', s.Executes w worker → s.Executes w' worker'
    → worker.jobId = worker'.jobId → w = w'
  /-- and does not wait for one meanwhile -/
  busy : ∀ w worker job, s.Executes w worker → s.jobs.find? worker.jobId = some job
    → job.status.waiting = false
  /-- nor does it wait while a mutation is out -/
  out : ∀ id, unresolved id → ∃ job, s.jobs.find? id = some job
    ∧ job.operation.isDay2 = false ∧ job.status.waiting = false
  /-- its worker knows about the mutation -/
  submitted : ∀ w worker, s.Executes w worker → unresolved worker.jobId
    → worker.submitted ∧ worker.phase.exposed
  /-- and has not rolled it back -/
  rolledBack : ∀ w worker, s.Executes w worker → worker.rollbackDestroyed
    → (∃ outcome, worker.phase = .finishing outcome) ∧ unresolved worker.jobId = false

theorem WorkerMove.not_ended (h : WorkerMove s a w wk wk') :
    wk.phase ≠ .paused ∧ ∀ outcome, wk.phase ≠ .finishing outcome := by
  cases he : wk.phase with
  | paused | finishing =>
    exfalso
    cases h with
    | submitted _ hp | lost hp => rw [he] at hp; simp at hp
    | finished hp => simp [he, WorkerPhase.inProgress] at hp
    | cleared hp | stopped hp | unauthorized hp => simp [he, WorkerPhase.checks] at hp
    | _ hp => rw [he] at hp; cases hp
  | _ => exact ⟨nofun, nofun⟩

/-- A worker that executes after a step did so before, or has just claimed its job. -/
theorem System.Executes.before {cfg : Settings} (h : a.apply cfg s = .ok s')
    (hw : s'.Executes w wk') :
    (∃ wk, s.Executes w wk ∧ wk'.jobId = wk.jobId
        ∧ (wk' = wk ∧ a.mover ≠ some w ∨ WorkerMove s a w wk wk'))
      ∨ ∃ job, a = .claimJob w wk'.jobId ∧ s.jobs.find? wk'.jobId = some job
        ∧ job.status = .queued ∧ job.operation.isDay2 = false ∧ wk'.rollbackDestroyed = false := by
  obtain ⟨hf, hday2, hp⟩ := hw
  have hc := (Step.side h).worker w wk' hf
  generalize hr : s.workers.find? w = row at hc
  cases hc with
  | same _ hother => exact .inl ⟨wk', ⟨hr, hday2, hp⟩, rfl, .inl ⟨rfl, hother⟩⟩
  | born ha hj hq _ hk => exact .inr ⟨_, ha, hj, hq, hk, rfl⟩
  | bornDay2 _ _ _ hday2' | movedDay2 _ _ hday2' => rw [hday2] at hday2'; cases hday2'
  | @moved wk _ ho hm =>
    exact .inl ⟨wk, ⟨hr, ho, hm.not_ended.1⟩, hm.frame.1, .inr hm⟩

theorem submitMutation_spec {rb more : Bool} (h : submitMutation s w rb more = .ok s') :
    ∃ wk job, s.Executes w wk ∧ s.jobs.find? wk.jobId = some job
      ∧ s' = s.putWorker w
        { wk with phase := .mutating rb, submitted := true, cleared := false, burst := more } := by
  simp only [submitMutation, workerJob_bind_eq_ok, ensure_bind_eq_ok, Bool.and_eq_true,
    Bool.or_eq_true, decide_eq_true_eq] at h
  obtain ⟨wk, job, hw, hday2, hj, ⟨hp, -⟩, -, h⟩ := h
  refine ⟨wk, job, ⟨hw, hday2, fun hpaused => ?_⟩, hj, (Except.ok.inj h).symm⟩
  rw [hpaused] at hp
  simp at hp

theorem claimJob_runs {job' : Job} (h : claimJob s w id = .ok s')
    (hj' : s'.jobs.find? id = some job') : job'.status = .running := by
  simp only [claimJob, need_bind_eq_ok, ensure_bind_eq_ok] at h
  obtain ⟨job, -, -, -, h⟩ := h
  cases h
  have hp := (System.find?_putJob ..).symm.trans hj'
  rw [if_pos rfl] at hp
  cases hp
  rfl

section Step

variable {cfg : Settings} {s s' : System} {a : Step} {unresolved : Unresolved} {w : ℕ}

section

variable (hs : Tracked s unresolved) (h : a.apply cfg s = .ok s')
include hs h

/-- Whoever submits is the only worker that executes the job. -/
theorem Tracked.submitter {w' id : ℕ} {rb more : Bool} (ha : a = .submitMutation w' rb more)
    (hw' : s.workers.find? w' = some wk') (hi' : wk'.jobId = id)
    (hw : s.Executes w wk) (hi : wk.jobId = id) : a.mover = some w := by
  subst ha
  obtain ⟨wk₁, job, hexecutes, -⟩ := submitMutation_spec h
  have he := Option.some.inj (hexecutes.1.symm.trans hw')
  subst he
  rw [hs.single w wk w' wk₁ hw hexecutes (hi.trans hi'.symm)]
  rfl

theorem Tracked.single_step {w' : ℕ} (hw : s'.Executes w wk) (hw' : s'.Executes w' wk')
    (hi : wk.jobId = wk'.jobId) : w = w' := by
  rcases hw.before h with ⟨old, ho, hj, -⟩ | ⟨job, ha, hj, hq, -⟩
  · rcases hw'.before h with ⟨old', ho', hj', -⟩ | ⟨job, -, hj', hq, -⟩
    · exact hs.single w old w' old' ho ho' (by rw [← hj, hi, hj'])
    -- the second worker has claimed a job that the first one executes
    rw [← hi, hj] at hj'
    have := hs.busy w old job ho hj'
    rw [hq] at this
    cases this
  · rcases hw'.before h with ⟨old', ho', hj', -⟩ | ⟨job', ha', -⟩
    · rw [hi, hj'] at hj
      have := hs.busy w' old' job ho' hj
      rw [hq] at this
      cases this
    · rw [ha] at ha'
      exact (Step.claimJob.inj ha').1

theorem Tracked.busy_step {job' : Job} (hw : s'.Executes w wk')
    (hj' : s'.jobs.find? wk'.jobId = some job') : job'.status.waiting = false := by
  rcases hw.before h with ⟨wk, ho, hi, -⟩ | ⟨job, ha, hj, -, hk, -⟩
  · obtain ⟨job, hj, hk⟩ := hs.kinds.worker w wk ho.1
    by_contra hwait
    rw [Bool.not_eq_false] at hwait
    -- only its own worker could have put the job back, and it is paused or gone
    obtain ⟨w', phase, ⟨wk₁, hf, hi₁, hp, hday2⟩, hfst, hafter⟩ :=
      Step.returned h hs.kinds hj (hi ▸ hj') (hk.trans ho.2.1) (hs.busy w wk job ho hj) hwait
    have hexecutes : s.Executes w' wk₁ := by
      refine ⟨hf, hday2, ?_⟩
      rw [hp]
      rcases hfst with rfl | rfl <;> simp
    have he := hs.single w' wk₁ w wk hexecutes ho hi₁
    exact hw.2.2 (hafter wk' (he ▸ hw.1))
  · subst ha
    rw [claimJob_runs h hj']
    rfl

theorem Tracked.out_step {id : ℕ} (hout : a.track s s' unresolved id) :
    ∃ job', s'.jobs.find? id = some job'
      ∧ job'.operation.isDay2 = false ∧ job'.status.waiting = false := by
  rcases Step.track_eq_true hout with ho | ⟨w, rb, more, wk, ha, hwk, rfl⟩
  · obtain ⟨job, hj, hk, hw⟩ := hs.out id ho
    obtain ⟨job', hj', hframe⟩ := Step.job_persists h hj
    refine ⟨job', hj', hframe.operation ▸ hk, ?_⟩
    by_contra hw'
    rw [Bool.not_eq_false] at hw'
    -- a worker that puts its job back has no mutation out
    obtain ⟨w, phase, ⟨wk, hf, hi, hp, hday2⟩, hfst, -⟩ :=
      Step.returned h hs.kinds hj hj' hk hw hw'
    have hexecutes : s.Executes w wk := by
      refine ⟨hf, hday2, ?_⟩
      rw [hp]
      rcases hfst with rfl | rfl <;> simp
    have hexposed := (hs.submitted w wk hexecutes (hi ▸ ho)).2
    rw [hp] at hexposed
    rcases hfst with rfl | rfl <;> cases hexposed
  · subst ha
    obtain ⟨wk₁, job, hexecutes, hj, rfl⟩ := submitMutation_spec h
    have he := Option.some.inj (hexecutes.1.symm.trans hwk)
    subst he
    obtain ⟨job₁, hj₁, hk⟩ := hs.kinds.worker w wk₁ hwk
    rw [hj] at hj₁
    cases hj₁
    exact ⟨job, hj, hk.trans hexecutes.2.1, hs.busy w wk₁ job hexecutes hj⟩

theorem Tracked.submitted_step (hw : s'.Executes w wk')
    (hout : a.track s s' unresolved wk'.jobId) : wk'.submitted ∧ wk'.phase.exposed := by
  rcases hw.before h with ⟨wk, ho, hi, hmoves⟩ | ⟨job, ha, hj, hq, -⟩
  · rw [hi] at hout
    rcases hmoves with ⟨rfl, hother⟩ | hm
    · -- the worker has not moved, so nothing was submitted for its job
      rcases Step.track_eq_true hout with hb | ⟨w', rb, more, wk₁, ha, hw', hi'⟩
      · exact hs.submitted w wk' ho hb
      · exact absurd (hs.submitter h ha hw' hi' ho rfl) hother
    -- the mutation was out before, unless the worker submits it now
    have hb (hn : ∀ w rb more, a ≠ .submitMutation w rb more) :
        wk.submitted ∧ wk.phase.exposed := by
      refine hs.submitted w wk ho ((Step.track_eq_true hout).resolve_right ?_)
      rintro ⟨w', rb, more, -, ha, -⟩
      exact hn w' rb more ha
    cases hm with
    | submitted => exact ⟨rfl, rfl⟩
    | succeeded | undone => simp [Step.track, System.noteJob, ho.1] at hout
    | cleared | committed => exact hb (by simp)
    | stopped | lost | aborted | finished | stoppedWaiting | destroyed =>
      exact ⟨(hb (by simp)).1, rfl⟩
    | unauthorized hph =>
      obtain ⟨hsub, hexposed⟩ := hb (by simp)
      refine ⟨hsub, ?_⟩
      cases hp : wk.phase <;> simp_all [WorkerPhase.exposed, WorkerPhase.interrupt]
    | started hph =>
      have hexposed := (hb (by simp)).2
      rw [hph] at hexposed
      cases hexposed
    | paused => exact absurd rfl hw.2.2
  · subst ha
    rcases Step.track_eq_true hout with hb | ⟨w', rb, more, wk₁, ha, -⟩
    · obtain ⟨job₁, hj₁, -, hwait⟩ := hs.out wk'.jobId hb
      rw [hj] at hj₁
      cases hj₁
      rw [hq] at hwait
      cases hwait
    · cases ha

theorem Tracked.rolledBack_step (hw : s'.Executes w wk') (hd : wk'.rollbackDestroyed) :
    (∃ out, wk'.phase = .finishing out)
      ∧ a.track s s' unresolved wk'.jobId = false := by
  rcases hw.before h with ⟨wk, ho, hi, hmoves⟩ | ⟨job, -, -, -, -, hn⟩
  · rcases hmoves with ⟨rfl, hother⟩ | hm
    · obtain ⟨hfinishing, hout⟩ := hs.rolledBack w wk' ho hd
      refine ⟨hfinishing, ?_⟩
      by_contra ho'
      rw [Bool.not_eq_false] at ho'
      rcases Step.track_eq_true ho' with hb | ⟨w', rb, more, wk₁, ha, hw', hi'⟩
      · rw [hout] at hb
        cases hb
      · exact hother (hs.submitter h ha hw' hi' ho rfl)
    by_cases hb : wk.rollbackDestroyed
    · obtain ⟨⟨out, hfinishing⟩, -⟩ := hs.rolledBack w wk ho hb
      exact absurd hfinishing (hm.not_ended.2 out)
    cases hm with
    | destroyed hp =>
      refine ⟨⟨.failed, rfl⟩, ?_⟩
      by_contra hout
      rw [Bool.not_eq_false] at hout
      have hexposed := (hs.submitted w wk ho hout).2
      rw [hp] at hexposed
      cases hexposed
    | _ => exact absurd hd hb
  · rw [hn] at hd
    cases hd

/-- The notes keep fitting. -/
theorem Tracked.step :
    Tracked s' (a.track s s' unresolved) where
  kinds := hs.kinds.step h
  single _ _ _ _ hw hw' hid := hs.single_step h hw hw' hid
  busy _ _ _ hw hjob := hs.busy_step h hw hjob
  out _ hout := hs.out_step h hout
  submitted _ _ hw hout := hs.submitted_step h hw hout
  rolledBack _ _ hw hdestroyed := hs.rolledBack_step h hw hdestroyed

end

end Step

theorem Tracked.initial (scs : Finset Scope) :
    Tracked (System.initial scs) fun _ => false where
  kinds := .initial scs
  single _ _ _ _ hw := nomatch hw.1
  busy _ _ _ hw := nomatch hw.1
  out _ hout := nomatch hout
  submitted _ _ hw := nomatch hw.1
  rolledBack _ _ hw := nomatch hw.1

end Submissions

/-! ### Automatic resumes and the ledger -/

variable {f : Deployment → Deployment} {oc : Outcome} {s : System} {wk : Worker} {r : ℕ}
  {l l' : Ledger} {id d : ℕ} {cfg : Settings} {job : Job} {s' : System}
  {dep : Deployment}

/-- Marking a reservation as uncertain does not change which one is found for a job. -/
theorem jobReservation_marked {tag : QuotaTag} (h : markUncertain l r = .ok l') :
    jobReservation l' id tag = jobReservation l id tag := by
  rcases markUncertain_spec h with ⟨rfl, -⟩ | ⟨row, hr, -, rfl⟩
  · rfl
  unfold jobReservation
  cases tag.reservationId with
  | none => exact Table.fst_find?_put hr rfl
  | some x =>
    show ((l.reservations.put r _).find? x).map _ = (l.reservations.find? x).map _
    rw [Table.find?_put]
    split
    · next hx => rw [hx, hr]; rfl
    · rfl

/-- The reservation that is marked is not committed, before or after. -/
theorem committed_marked (h : markUncertain l r = .ok l') :
    (l'.reservations.find? r).any (fun row => row.status = .committed && !row.reconciliationRequired)
      = (l.reservations.find? r).any fun row =>
        row.status = .committed && !row.reconciliationRequired := by
  rcases markUncertain_spec h with ⟨rfl, -⟩ | ⟨row, hr, ha, rfl⟩
  · rfl
  have hcommitted : row.status ≠ .committed := by
    intro hc
    rw [hc] at ha
    cases ha
  show ((l.reservations.put r _).find? r).any _ = _
  rw [Table.find?_put_self, hr]
  simp [hcommitted]

/-- Whether a lost job is resumed does not depend on its reservation being marked. -/
theorem automaticResume_marked
    (h : markJobReservationUncertain s.ledger id job.payload.quota = .ok l) :
    automaticResume cfg (s.withLedger l) id job = automaticResume cfg s id job := by
  have hs : safeToAutoRetry (s.withLedger l) id job = safeToAutoRetry s id job := by
    unfold markJobReservationUncertain at h
    unfold safeToAutoRetry
    cases hr : jobReservation s.ledger id job.payload.quota with
    | none =>
      rw [hr] at h
      cases h
      have hn : jobReservation (s.withLedger s.ledger).ledger id job.payload.quota = none := hr
      rw [hn]
      rfl
    | some r =>
      rw [hr] at h
      have hfound : jobReservation (s.withLedger l).ledger id job.payload.quota = some r :=
        (jobReservation_marked h).trans hr
      rw [hfound]
      exact congrArg _ (committed_marked h)
  unfold automaticResume
  rw [hs]
  rfl

/-! ### Runs with an observer -/

/-- One step with the observer of the submissions. -/
def watch (cfg : Settings) (t : System × Unresolved) (a : Step) : System × Unresolved :=
  Transition.attempt (Transition.observed (Step.apply cfg) Step.track) t a

/-- A run from the empty database with the observer of the submissions. -/
def watchRun (cfg : Settings) (scopes : Finset Scope) (steps : List Step) : System × Unresolved :=
  Transition.run (watch cfg) (System.initial scopes, fun _ => false) steps

theorem Tracked.watchRun (cfg : Settings) (scs : Finset Scope) (steps : List Step) :
    Tracked (watchRun cfg scs steps).1 (watchRun cfg scs steps).2 :=
  observed_invariant (Step.apply cfg) Step.track Tracked
    (fun _ _ _ _ hs ht => ht.step hs) (Tracked.initial scs) steps

/-- In this step a Terraform job that owns the deployment ends in failure or cancellation
without the outcome of its last submitted mutation being known. -/
def endsUnresolved (t : System × Unresolved) (s' : System) (id d : ℕ) : Bool :=
  t.2 id
    && (t.1.jobs.find? id).any (fun job => !job.status.terminal && job.operation.uncertainTerraform
      && job.deploymentId = some d)
    && (t.1.deployments.find? d).any (·.activeJobId = some id)
    && (s'.jobs.find? id).any fun job => job.status = .failed || job.status = .cancelled

/-- The fence around a deployment: it is in `reconciliation_required` or has a recovery job
in the queue, and `new_job` refuses every operation but a plan. -/
def FenceUp (s : System) (d : ℕ) : Prop :=
  ∃ deployment, s.deployments.find? d = some deployment
    ∧ (deployment.status = .reconciliationRequired ∧ deployment.activeJobId = none
      ∨ ∃ r job, deployment.activeJobId = some r ∧ s.jobs.find? r = some job
        ∧ job.status = .queued ∧ job.source = .recovery)
    ∧ ∀ request : JobRequest, request.deploymentId = some d → request.operation ≠ .terraformPlan
      → ∀ s', newJob s request ≠ .ok s'

/-- The steps that see that the mutation of a job is open: a lost job with an open mutation
is resumed, and a worker that ends with one finds no checkpoint of an earlier apply, or
asks for the recovery of the machine. -/
def Step.seesOpenMutation (cfg : Settings) (t : System × Unresolved) : Step → Bool
  | .reconcileStaleJob id _ =>
    !t.2 id || (t.1.jobs.find? id).all fun job => !job.stale t.1.now
      || !job.operation.uncertainTerraform || (automaticResume cfg t.1 id job).isSome
  | .finalizeJob w _ _ =>
    (t.1.workers.find? w).all fun worker => !t.2 worker.jobId
      || (t.1.jobs.find? worker.jobId).all fun job => !job.payload.providerApplied
        || (worker.phase = .finishing .failed && worker.wantsRecovery .failed job)
  | _ => true

/-! ### The fence -/

section

variable (hfind : s.deployments.find? d = some dep)
include hfind

theorem newJob_refused {req : JobRequest} (hd : req.deploymentId = some d)
    (h : newJob s req = .ok s') :
    dep.activeJobId = none
      ∧ (dep.status = .reconciliationRequired → req.operation = .terraformPlan) := by
  unfold newJob at h
  rw [hd] at h
  obtain ⟨dep', hf', h⟩ := need_bind_eq_ok.1 h
  obtain ⟨_, hadmit, -⟩ := bind_eq_ok.1 h
  rw [hfind] at hf'
  cases hf'
  obtain ⟨hfence, hi, -⟩ := admitOperation_spec hadmit
  exact ⟨hi, hfence⟩

theorem FenceUp.of_required (hs : dep.status = .reconciliationRequired)
    (hi : dep.activeJobId = none) : FenceUp s d :=
  ⟨dep, hfind, .inl ⟨hs, hi⟩, fun _ hd ho _ h => ho ((newJob_refused hfind hd h).2 hs)⟩

theorem FenceUp.of_recovery (ha : dep.activeJobId = some r)
    (hj : s.jobs.find? r = some job) (hq : job.status = .queued)
    (hsource : job.source = .recovery) : FenceUp s d := by
  refine ⟨dep, hfind, .inr ⟨r, job, ha, hj, hq, hsource⟩, ?_⟩
  intro req hd _ s' h
  have hi := (newJob_refused hfind hd h).1
  rw [ha] at hi
  cases hi

end

/-- A lost job that can be resumed is. -/
theorem reconcileStaleJob_resumes {resumeId : ℕ}
    (h : reconcileStaleJob cfg s id resumeId = .ok s') (hj : s.jobs.find? id = some job)
    (hres : (automaticResume cfg s id job).isSome) (hd : job.deploymentId = some d)
    (hfind : s.deployments.find? d = some dep) (ha : dep.activeJobId = some id) :
    FenceUp s' d := by
  simp only [reconcileStaleJob, need_bind_eq_ok, ensure_bind_eq_ok, ofQuota_bind_eq_ok] at h
  obtain ⟨job₁, hj₁, -, l, hl, h⟩ := h
  rw [hj] at hj₁
  cases hj₁
  split at h
  · next resumed hresumed =>
    obtain ⟨-, -, rfl⟩ := automaticResume_spec hresumed
    obtain ⟨-, h⟩ := ensure_bind_eq_ok.1 h
    cases h
    have hr := find?_updateOwned_of_active hd hfind ha
      (Deployment.occupy resumeId .recoveryQueued) d
    rw [if_pos rfl] at hr
    exact .of_recovery hr rfl (Table.find?_put_self ..) rfl rfl
  · next hn =>
    rw [automaticResume_marked hl] at hn
    rw [hn] at hres
    cases hres

/-- What becomes of the deployment if the worker did not end well. -/
theorem Worker.deploymentStatus_eq (ho : job.operation.uncertainTerraform)
    (houtc : oc ≠ .successful) (hrolledBack : wk.rollbackDestroyed = false) :
    wk.deploymentStatus oc job dep
      = if wk.uncertainTerraformResult oc job then .reconciliationRequired
        else oc.status.toDeployment := by
  have hp : job.operation ≠ .terraformPlan := by
    intro hp
    rw [hp] at ho
    cases ho
  rw [Worker.deploymentStatus, if_neg hp, if_neg fun h => houtc h.2, hrolledBack,
    if_neg Bool.false_ne_true, if_neg (c := oc = .successful ∧ _) fun h => houtc h.1]

/-- The rows at an end with an open mutation. -/
structure OpenEnd (t : System × Unresolved) (id d : ℕ) (job job' : Job) (deployment : Deployment) :
    Prop where
  out : t.2 id
  findJob : t.1.jobs.find? id = some job
  nonterminal : job.status.terminal = false
  operation : job.operation.uncertainTerraform
  deploymentId : job.deploymentId = some d
  findDeployment : t.1.deployments.find? d = some deployment
  active : deployment.activeJobId = some id
  ended : job'.status = .failed ∨ job'.status = .cancelled

theorem endsUnresolved_eq_true {t : System × Unresolved} (h : endsUnresolved t s' id d) :
    ∃ job job' dep, s'.jobs.find? id = some job'
      ∧ OpenEnd t id d job job' dep := by
  simp only [endsUnresolved, Bool.and_eq_true, Option.any_eq_true, Bool.not_eq_true',
    decide_eq_true_eq, Bool.or_eq_true] at h
  obtain ⟨⟨⟨hout, job, hj, ⟨ho, hop⟩, hd⟩, dep, hfind, ha⟩, job', hj', hended⟩ := h
  exact ⟨job, job', dep, hj', hout, hj, ho, hop, hd, hfind, ha, hended⟩

section Ends

variable {cfg : Settings} {t : System × Unresolved} {s' : System} {a : Step} {id d : ℕ}
  {job job' : Job} {dep : Deployment}

section

variable (he : OpenEnd t id d job job' dep)
include he

/-- The status of the job does change at its end. -/
theorem OpenEnd.changes : job'.status ≠ job.status := by
  intro hs
  have ho := he.nonterminal
  rw [← hs] at ho
  rcases he.ended with hend | hend <;> rw [hend] at ho <;> cases ho

/-- The job is not one of the Day-2 service. -/
theorem OpenEnd.not_day2 : job.operation.isDay2 = false := by
  have ho := he.operation
  generalize job.operation = op at *
  cases op <;> first | rfl | cases ho

/-- The final transaction of the worker of the job. -/
theorem OpenEnd.finalized (ht : Tracked t.1 t.2) {w rid : ℕ} {msg : String}
    (hok : Step.seesOpenMutation cfg t (.finalizeJob w rid msg))
    (hw : t.1.workers.find? w = some wk) (hi : wk.jobId = id)
    (hph : wk.phase = .finishing oc) (hday2 : wk.day2 = false)
    (hst : job'.status = oc.status) (hf : (f dep).activeJobId = none
      ∧ (f dep).status = wk.deploymentStatus oc job dep)
    (hp : wk.deploymentStatus oc job dep = .destroyed ∨ wk.wantsRecovery oc job = false)
    (hr : s'.deployments.find? d = some (f dep)) : FenceUp s' d := by
  have hexecutes : t.1.Executes w wk := ⟨hw, hday2, by rw [hph]; exact nofun⟩
  have ho : t.2 wk.jobId := by rw [hi]; exact he.out
  obtain ⟨hs, -⟩ := ht.submitted w wk hexecutes ho
  have hrolledBack : wk.rollbackDestroyed = false := by
    by_contra hd
    rw [Bool.not_eq_false] at hd
    rw [(ht.rolledBack w wk hexecutes hd).2] at ho
    cases ho
  have houtc : oc ≠ .successful := by
    rintro rfl
    rcases he.ended with hend | hend <;> rw [hst] at hend <;> cases hend
  cases ha : job.payload.providerApplied with
  | false =>
    refine .of_required hr ?_ hf.1
    rw [hf.2, Worker.deploymentStatus_eq he.operation houtc hrolledBack, if_pos]
    simp [Worker.uncertainTerraformResult, houtc, hs, he.operation, ha]
  | true =>
    -- the job asks for recovery, so this was not the plain end of the transaction
    simp only [Step.seesOpenMutation, hw, Option.all_some, he.out, hi, he.findJob, ha,
      Bool.not_true, Bool.false_or, Bool.and_eq_true, decide_eq_true_eq] at hok
    rw [hph] at hok
    cases hok.1
    rcases hp with hd | hp
    · rw [Worker.deploymentStatus_eq he.operation houtc hrolledBack,
        if_neg (by simp [Worker.uncertainTerraformResult, ha])] at hd
      cases hd
    · rw [hok.2] at hp
      cases hp

variable (ht : Tracked t.1 t.2) (h : a.apply cfg t.1 = .ok s')
  (hok : a.seesOpenMutation cfg t)
include ht h hok

/-- Each way in which the row of the job is written at its end raises the fence. -/
theorem OpenEnd.written {cond : Deployment → Bool} (hwr : Writes t.1 a id job job' cond f)
    (hr : cond dep → s'.deployments.find? d = some (f dep)) : FenceUp s' d := by
  have howned : dep.ownedBy id := by simp [Deployment.ownedBy, he.active]
  have hw : job.status.waiting = false := by
    obtain ⟨job₁, hj₁, -, hw⟩ := ht.out id he.out
    cases he.findJob.symm.trans hj₁
    exact hw
  have hended := he.ended
  cases hwr with
  | quarantined => exact .of_required (hr howned) rfl rfl
  | abandoned =>
    refine .of_required (hr howned) ?_ rfl
    show job.operation.abandonedStatus = _
    rw [Operation.abandonedStatus, if_pos he.operation]
  | lost hstale =>
    simp only [Step.seesOpenMutation, he.out, he.findJob, he.operation, hstale, Option.all_some,
      Bool.not_true, Bool.false_or] at hok
    exact reconcileStaleJob_resumes h he.findJob hok he.deploymentId he.findDeployment he.active
  | finalized hwk hi hph hday2 hf hp =>
    exact he.finalized ht hok hwk hi hph hday2 rfl (hf dep)
      (hp d dep he.deploymentId he.findDeployment he.active) (hr howned)
  -- the other writers do not end a job, or not one with a mutation out
  | kept _ hs => exact absurd hs he.changes
  | cancelledEarly ho => rcases ho with ho | ho <;> rw [ho] at hw <;> cases hw
  | expiredApplied ho | expired ho | requestMissing ho => rw [ho] at hw; cases hw
  | actionCancelled hreq hi => 
    exact absurd hi (ht.kinds.request_ne he.findJob he.not_day2 hreq)
  | failedBefore hwk | finalizedDay2 hwk => 
    exact absurd hwk (ht.kinds.not_workerAt he.findJob he.not_day2)
  | approved _ _ hs | deferred _ _ _ _ hs | paused _ _ _ hs
  | actionQueued _ _ _ _ hs => rw [hs] at hended; simp at hended
  | _ => simp at hended

omit he in
/-- A step in which a job ends with an open mutation raises the fence. -/
theorem FenceUp.of_ends (hends : endsUnresolved t s' id d) : FenceUp s' d := by
  obtain ⟨job, job', dep, hj', he⟩ := endsUnresolved_eq_true hends
  have hch := (Step.effect h).rowChange id
  rw [he.findJob, hj'] at hch
  cases hch with
  -- a row that is as it was has not ended
  | same => exact absurd rfl he.changes
  | @written _ new _ _ hwr hd =>
    have he' : OpenEnd t id d job new dep := { he with ended := he.ended }
    refine he'.written ht h hok hwr fun hc => ?_
    rw [hd d, he.findDeployment, Option.map_some, if_pos ⟨he.deploymentId, hc⟩]
  | replaced htake _ hn hdeployments =>
    -- the successor of the job is a recovery job
    cases htake.deploymentId.symm.trans he.deploymentId
    exact .of_recovery hdeployments htake.newActive hn htake.queued htake.source

end

end Ends

/-- **The reconciliation fence is raised.**  In every run whose steps see the open
mutations, if a Terraform job that owns its deployment ends failed or cancelled in the last step,
by whatever path, while the outcome of its last submitted mutation is unknown, then the
deployment is left in `reconciliation_required` or with a queued recovery job, and
`new_job` accepts no operation for it but a plan. -/
theorem fence_raised {cfg : Settings} {scopes : Finset Scope} {steps : List Step} {a : Step}
    (id : ℕ) {d : ℕ}
    (hok : Transition.Guarded (fun t a => a.seesOpenMutation cfg t) (watch cfg)
      (System.initial scopes, fun _ => false) (steps ++ [a]))
    (hends : endsUnresolved (watchRun cfg scopes steps) (watchRun cfg scopes (steps ++ [a])).1 id d) :
    FenceUp (watchRun cfg scopes (steps ++ [a])).1 d := by
  have ht := Tracked.watchRun cfg scopes steps
  have hl : (watchRun cfg scopes (steps ++ [a])).1
      = Transition.attempt (Step.apply cfg) (watchRun cfg scopes steps).1 a := by
    rw [watchRun, run_append]
    exact attempt_observed ..
  obtain ⟨-, hok, -⟩ := guarded_append.1 hok
  rw [hl] at hends ⊢
  cases h : Step.apply cfg (watchRun cfg scopes steps).1 a with
  | ok s' =>
    simp only [Transition.attempt, h] at hends ⊢
    exact .of_ends ht h hok hends
  | error e =>
    -- a step that fails ends nothing
    simp only [Transition.attempt, h] at hends
    obtain ⟨job, job', deployment, hj', he⟩ := endsUnresolved_eq_true hends
    rw [he.findJob] at hj'
    cases hj'
    exact absurd rfl he.changes

/-- The first apply is cancelled while it is out, and its worker dies. -/
def demoCancelled : List Step := demoApply ++ [.cancelJob 10, .crashWorker 0, .tick 100]

theorem fence_raised_cancelled :
    FenceUp (watchRun {} demoScopes (demoCancelled ++ [.reconcileCancelledJob 10 .missing])).1 1 :=
  fence_raised 10 (by decide +kernel) (by decide +kernel)

/-- If it is not cancelled, the worker is given up as lost, and the deployment is left in a
status in which `new_job` accepts a destroy. -/
theorem lost_apply_unfenced :
    endsUnresolved (watchRun {} demoScopes (demoApply ++ [.crashWorker 0, .tick 200]))
        (watchRun {} demoScopes
          (demoApply ++ [.crashWorker 0, .tick 200] ++ [.reconcileStaleJob 10 99])).1 10 1
      ∧ ¬FenceUp (watchRun {} demoScopes
        (demoApply ++ [.crashWorker 0, .tick 200] ++ [.reconcileStaleJob 10 99])).1 1 := by
  refine ⟨by decide +kernel, ?_⟩
  rintro ⟨-, -, -, hrefused⟩
  have haccepted : (newJob (watchRun {} demoScopes
      (demoApply ++ [.crashWorker 0, .tick 200] ++ [.reconcileStaleJob 10 99])).1
      (demoJob 11 .terraformDestroy).request).isOk := by
    decide +kernel
  obtain ⟨s', hs'⟩ := isOk_iff.1 haccepted
  exact hrefused (demoJob 11 .terraformDestroy).request rfl (by decide) s' hs'

end CloudPortal
