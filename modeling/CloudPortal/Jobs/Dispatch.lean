/-
CloudPortal/Jobs/Dispatch.lean

The dispatcher pass (`_dispatch_once_unfenced` in `app/jobs/queue.py`) beside the
transactions of the job system, and what it enqueues.

The pass is one transaction, but it is not atomic: it locks its candidates, asks RQ about each
of them, counts the running jobs and then enqueues one candidate after the other, while
requests and workers go on.  The state adds to the database the entries of RQ, the moment at
which each job was created, the job rows that are locked by transactions which have not been
committed yet, and the pass that is under way.  A transaction that would write a row locked by
the pass has to wait for it; a row locked by somebody else is skipped by the pass, which sees it
as it was last committed.

The candidates are the first hundred queued jobs of each class, and only they are asked whether
they are ready.  A job that waits for its provider or for other jobs stays queued, so a hundred
of them hide what comes behind.
-/
import CloudPortal.Jobs.System
import CloudPortal.Lib.Batch

namespace CloudPortal

open RowStore Transition

/-- The status of an RQ entry. -/
inductive RqStatus
  | queued | started | deferred | scheduled | finished | failed | stopped | canceled
  deriving DecidableEq, Repr

/-- The statuses in which an entry reserves a slot. -/
def RqStatus.live : RqStatus → Bool
  | .queued | .started | .deferred | .scheduled => true
  | _ => false

/-- Where a pass is. -/
inductive PassPhase
  /-- it asks RQ about the remaining candidates and collects `active_rq_jobs` -/
  | reading (rest active : List ℕ)
  /-- it goes through the remaining candidates with `available_slots` -/
  | filling (rest active : List ℕ) (slots : ℕ)

/-- A pass under way, with the candidates whose rows it holds locked. -/
structure Pass where
  jobs : List ℕ
  phase : PassPhase

structure Dispatching where
  system : System
  rq : Table ℕ RqStatus := Table.empty
  createdAt : ℕ → ℕ := fun _ => 0
  /-- the job rows that transactions of workers and requests hold locked -/
  locked : List ℕ := []
  pass : Option Pass := none

/-- The job has an RQ entry that reserves a slot. -/
def Dispatching.live (t : Dispatching) (id : ℕ) : Bool := (t.rq.find? id).any (·.live)

/-! ### Candidates and capacity -/

/-- `queued_dispatch_candidates` reads the rows that are queued without a cancellation request
and that nobody else has locked. -/
def Dispatching.eligible (t : Dispatching) (deletes : Bool) (id : ℕ) (job : Job) : Bool :=
  job.status = .queued && !job.cancelRequested && !t.locked.contains id
    && decide (job.operation = .blueprintDelete) = deletes

/-- `ORDER BY created_at, id` -/
def Dispatching.before (t : Dispatching) (x y : ℕ) : Prop :=
  t.createdAt x < t.createdAt y ∨ t.createdAt x = t.createdAt y ∧ x ≤ y

instance (t : Dispatching) : DecidableRel t.before := fun x y => by
  unfold Dispatching.before
  infer_instance

instance (t : Dispatching) : Std.Total t.before := ⟨fun x y => by
  unfold Dispatching.before
  omega⟩

instance (t : Dispatching) : IsTrans ℕ t.before := ⟨fun x y z => by
  unfold Dispatching.before
  omega⟩

instance (t : Dispatching) : Std.Antisymm t.before := ⟨fun x y => by
  unfold Dispatching.before
  omega⟩

/-- The rows of one of the two queries. -/
def Dispatching.eligibleJobs (t : Dispatching) (deletes : Bool) : List ℕ :=
  (t.system.jobs.select (t.eligible deletes)).map Prod.fst

/-- `batch_size` -/
def batchSize : ℕ := 100

/-- `queued_dispatch_candidates`: Blueprint deletions have a query of their own. -/
def queuedDispatchCandidates (t : Dispatching) : List ℕ :=
  (Batch.first t.before batchSize (t.eligibleJobs false)
    ++ Batch.first t.before batchSize (t.eligibleJobs true)).insertionSort t.before

/-- The job counts as running. -/
def JobStatus.executing : JobStatus → Bool
  | .running | .cancelling => true
  | _ => false

/-- `parallel_dispatch_capacity`. -/
def parallelDispatchCapacity (limit : ℕ) (s : System) (activeRqJobs : ℕ) : ℕ :=
  limit - (s.jobs.select fun _ job => job.status.executing).length - activeRqJobs

/-! ### Steps -/

/-- The job that a step claims for a worker. -/
def Step.claims : Step → Option ℕ
  | .claimJob _ id | .claimDay2Job _ id _ => some id
  | _ => none

inductive DispatchStep
  /-- a transaction or another step of the job system -/
  | system (a : Step)
  /-- a transaction locks a job row, or ends without having written it -/
  | lock (id : ℕ)
  | unlock (id : ℕ)
  /-- an RQ worker takes an entry; the work function returns or its process dies -/
  | takeEntry (id : ℕ)
  | endEntry (id : ℕ) (failed : Bool)
  /-- `result_ttl` or `failure_ttl` is over -/
  | dropEntry (id : ℕ)
  -- the pass
  | beginPass
  | inspectNext
  | countSlots
  /-- `provider_retry_ready` and `blueprint_delete_ready` are answered by `ready` -/
  | fillNext (ready : Bool)
  | endPass
  | abortPass

/-- Nothing that the pass has locked is written. -/
def Dispatching.respectsPass (t : Dispatching) (s' : System) : Bool :=
  t.pass.all fun p => p.jobs.all fun id => s'.jobs.find? id = t.system.jobs.find? id

/-- Execute a step of the job system beside the dispatcher.  A worker claims the job of
the RQ entry it has taken. -/
def Dispatching.applyStep (cfg : Settings) (t : Dispatching) (a : Step) :
    Except Failure Dispatching := do
  ensure .notEnabled (a.claims.all fun id => t.rq.find? id = some .started)
  let s' ← a.apply cfg t.system
  ensure .notEnabled (t.respectsPass s')
  .ok { t with
    system := s'
    createdAt := fun id => if (t.system.jobs.find? id).isSome then t.createdAt id else s'.now }

/-- One turn of the loop over RQ: a live entry reserves a slot, an ended one is deleted. -/
def inspectNext (t : Dispatching) : Except Failure Dispatching :=
  match t.pass with
  | some ⟨jobs, .reading (id :: rest) active⟩ =>
    if t.live id then .ok { t with pass := some ⟨jobs, .reading rest (active ++ [id])⟩ }
    else .ok { t with rq := t.rq.erase id, pass := some ⟨jobs, .reading rest active⟩ }
  | _ => .error .notEnabled

/-- `available_slots = parallel_dispatch_capacity(db, len(active_rq_jobs))` -/
def countSlots (limit : ℕ) (t : Dispatching) : Except Failure Dispatching :=
  match t.pass with
  | some ⟨jobs, .reading [] active⟩ =>
    .ok { t with
      pass := some ⟨jobs, .filling jobs active
        (parallelDispatchCapacity limit t.system active.length)⟩ }
  | _ => .error .notEnabled

/-- One turn of the loop that enqueues. -/
def fillNext (t : Dispatching) (ready : Bool) : Except Failure Dispatching :=
  match t.pass with
  | some ⟨jobs, .filling (id :: rest) active slots⟩ =>
    if slots = 0 then .ok { t with pass := some ⟨jobs, .filling [] active slots⟩ }
    else if active.contains id ∨ ready = false then
      .ok { t with pass := some ⟨jobs, .filling rest active slots⟩ }
    else do
      let _ ← need .notEnabled (t.system.jobs.find? id)
      .ok { t with
        rq := t.rq.put id .queued, pass := some ⟨jobs, .filling rest active (slots - 1)⟩ }
  | _ => .error .notEnabled

/-- The pass commits. -/
def endPass (t : Dispatching) : Except Failure Dispatching :=
  match t.pass with
  | some ⟨_, .filling [] _ _⟩ => .ok { t with pass := none }
  | _ => .error .notEnabled

/-- Execute one step; `limit` is `max_parallel_jobs`.  Passes are serialized by an advisory
lock, and what a pass does before its candidates and behind its loop (expired approvals,
reconciliations) are steps of the job system. -/
def DispatchStep.apply (cfg : Settings) (limit : ℕ) (t : Dispatching) :
    DispatchStep → Except Failure Dispatching
  | .system a => t.applyStep cfg a
  | .lock id => do
      ensure .notEnabled (!t.locked.contains id && t.pass.all fun p => !p.jobs.contains id)
      .ok { t with locked := id :: t.locked }
  | .unlock id => .ok { t with locked := t.locked.erase id }
  | .takeEntry id => do
      ensure .notEnabled (t.rq.find? id = some .queued)
      .ok { t with rq := t.rq.put id .started }
  | .endEntry id failed => do
      ensure .notEnabled (t.rq.find? id = some .started)
      .ok { t with rq := t.rq.put id (if failed then .failed else .finished) }
  | .dropEntry id => do
      ensure .notEnabled ((t.rq.find? id).any fun status => !status.live)
      .ok { t with rq := t.rq.erase id }
  | .beginPass => do
      ensure .notEnabled t.pass.isNone
      let jobs := queuedDispatchCandidates t
      .ok { t with pass := some ⟨jobs, .reading jobs []⟩ }
  | .inspectNext => CloudPortal.inspectNext t
  | .countSlots => CloudPortal.countSlots limit t
  | .fillNext ready => CloudPortal.fillNext t ready
  | .endPass => CloudPortal.endPass t
  | .abortPass => .ok { t with pass := none }

/-- One step of a run. -/
def DispatchStep.exec (cfg : Settings) (limit : ℕ) (t : Dispatching) (a : DispatchStep) :
    Dispatching :=
  Transition.attempt (DispatchStep.apply cfg limit) t a

/-- A run of the dispatcher beside the job system. -/
def dispatchRun (cfg : Settings) (limit : ℕ) (t : Dispatching) (steps : List DispatchStep) :
    Dispatching :=
  Transition.run (DispatchStep.exec cfg limit) t steps

/-- A job row occupies a slot: it is running or cancelling, or queued with a live RQ entry. -/
def Dispatching.occupies (t : Dispatching) (id : ℕ) (job : Job) : Bool :=
  job.status.executing || job.status = .queued && t.live id

/-- The jobs that occupy a slot. -/
def Dispatching.occupied (t : Dispatching) : Finset ℕ :=
  ((t.system.jobs.select t.occupies).map Prod.fst).toFinset

/-- Nothing runs and nothing is in RQ. -/
def Dispatching.Idle (t : Dispatching) : Prop :=
  t.occupied = ∅ ∧ t.rq.rows = [] ∧ t.pass.isNone

instance (t : Dispatching) : Decidable t.Idle := by
  unfold Dispatching.Idle
  infer_instance

theorem Dispatching.mem_occupied {t : Dispatching} {id : ℕ} :
    id ∈ t.occupied ↔ ∃ job, t.system.jobs.find? id = some job ∧ t.occupies id job := by
  simp only [Dispatching.occupied, List.mem_toFinset, List.mem_map, Prod.exists, exists_and_right,
    exists_eq_right, Table.mem_select]

/-- A pass, from its candidates to its commit; `ready` answers `provider_retry_ready` and
`blueprint_delete_ready`. -/
def passSteps (t : Dispatching) (ready : ℕ → Bool) : List DispatchStep :=
  .beginPass :: ((queuedDispatchCandidates t).map (fun _ => .inspectNext) ++ .countSlots
    :: ((queuedDispatchCandidates t).map (fun id => .fillNext (ready id)) ++ [.endPass]))

/-- The job waits for the dispatcher. -/
def Dispatching.waits (t : Dispatching) (id : ℕ) (job : Job) : Prop :=
  t.system.jobs.find? id = some job ∧ job.status = .queued ∧ job.cancelRequested = false

theorem mem_eligibleJobs {t : Dispatching} {deletes : Bool} {id : ℕ} :
    id ∈ t.eligibleJobs deletes ↔ ∃ job, t.waits id job ∧ id ∉ t.locked
      ∧ decide (job.operation = .blueprintDelete) = deletes := by
  simp [Dispatching.eligibleJobs, Table.mem_select, Dispatching.eligible, Dispatching.waits, and_assoc]

/-- Fewer than a hundred jobs of its class stand before the job. -/
def Dispatching.nearFront (t : Dispatching) (id : ℕ) (job : Job) : Prop :=
  (Batch.ahead t.before (t.eligibleJobs (job.operation = .blueprintDelete)) id).length < batchSize

instance (t : Dispatching) (id : ℕ) (job : Job) : Decidable (t.nearFront id job) :=
  inferInstanceAs (Decidable (_ < _))

/-- The candidates are the waiting jobs near the front of their class. -/
theorem mem_candidates {t : Dispatching} {id : ℕ} : id ∈ queuedDispatchCandidates t
    ↔ ∃ job, t.waits id job ∧ id ∉ t.locked ∧ t.nearFront id job := by
  have hbatch (deletes : Bool) : id ∈ Batch.first t.before batchSize (t.eligibleJobs deletes)
      ↔ ∃ job, t.waits id job ∧ id ∉ t.locked ∧ t.nearFront id job
        ∧ decide (job.operation = .blueprintDelete) = deletes := by
    constructor
    · intro h
      obtain ⟨job, hwaits, hlocked, rfl⟩ := mem_eligibleJobs.1 (Batch.mem_of_mem_first _ h)
      exact ⟨job, hwaits, hlocked, Batch.length_ahead_lt _ h, rfl⟩
    · rintro ⟨job, hwaits, hlocked, hfront, rfl⟩
      exact Batch.mem_first t.before ((List.filter_sublist.map Prod.fst).nodup t.system.jobs.nodup)
        (mem_eligibleJobs.2 ⟨job, hwaits, hlocked, rfl⟩) hfront
  rw [queuedDispatchCandidates, List.mem_insertionSort, List.mem_append, hbatch, hbatch]
  constructor
  · rintro (⟨job, hwaits, hlocked, hfront, -⟩ | ⟨job, hwaits, hlocked, hfront, -⟩)
    all_goals exact ⟨job, hwaits, hlocked, hfront⟩
  · rintro ⟨job, hwaits, hlocked, hfront⟩
    cases hclass : decide (job.operation = .blueprintDelete) with
    | false => exact .inl ⟨job, hwaits, hlocked, hfront, hclass⟩
    | true => exact .inr ⟨job, hwaits, hlocked, hfront, hclass⟩

section Pass

variable (cfg : Settings) (lim : ℕ) {t : Dispatching} {jobs rest act : List ℕ} {id slots : ℕ}
  {ready : ℕ → Bool}

theorem exec_inspectNext (hp : t.pass = some ⟨jobs, .reading (id :: rest) act⟩) :
    let t' := DispatchStep.exec cfg lim t .inspectNext
    t'.pass = some ⟨jobs, .reading rest (act ++ [id].filter t.live)⟩
      ∧ t'.system = t.system ∧ t'.live = t.live := by
  intro t'
  by_cases hl : t.live id
  · have hs : t' = { t with pass := some ⟨jobs, .reading rest (act ++ [id])⟩ } := by
      simp [t', DispatchStep.exec, attempt, DispatchStep.apply, inspectNext, hp, hl]
    rw [hs, List.filter_singleton, hl]
    exact ⟨rfl, rfl, rfl⟩
  have hs : t' = { t with rq := t.rq.erase id, pass := some ⟨jobs, .reading rest act⟩ } := by
    simp [t', DispatchStep.exec, attempt, DispatchStep.apply, inspectNext, hp, hl]
  rw [hs, List.filter_singleton, Bool.eq_false_of_not_eq_true hl]
  refine ⟨by simp, rfl, funext fun x => ?_⟩
  -- the entry that is deleted was not live
  show ((t.rq.erase id).find? x).any (·.live) = t.live x
  rw [Table.find?_erase]
  split
  · next hx => exact (Bool.eq_false_of_not_eq_true (hx ▸ hl)).symm
  · rfl

/-- The loop over RQ finds the live entries. -/
theorem run_inspectNext (hp : t.pass = some ⟨jobs, .reading rest act⟩) :
    let t' := dispatchRun cfg lim t (rest.map fun _ => .inspectNext)
    t'.pass = some ⟨jobs, .reading [] (act ++ rest.filter t.live)⟩ ∧ t'.system = t.system
      ∧ t'.live = t.live := by
  induction rest generalizing t act with
  | nil => exact ⟨by rw [List.filter_nil, List.append_nil]; exact hp, rfl, rfl⟩
  | cons id rest ih =>
    obtain ⟨hp', hsystem, hl⟩ := exec_inspectNext cfg lim hp
    obtain ⟨he, hs, hl'⟩ := ih hp'
    rw [hl, List.append_assoc, ← List.filter_append] at he
    exact ⟨he, hs.trans hsystem, hl'.trans hl⟩

theorem fillNext_keeps {answer : Bool} (h : t.rq.find? id = some .queued) :
    ResultsMeet (·.rq.find? id = some .queued) (fillNext t answer) := by
  unfold fillNext
  split
  · refine .ite (.ok h) (.ite (.ok h) (.bind fun _ => .ok ?_))
    rw [Table.find?_put]
    split
    · rfl
    · exact h
  · exact .error _

theorem run_fillNext_keeps (h : t.rq.find? id = some .queued) :
    (dispatchRun cfg lim t (rest.map fun x => .fillNext (ready x))).rq.find? id = some .queued := by
  induction rest generalizing t with
  | nil => exact h
  | cons x rest ih =>
    refine ih ?_
    unfold DispatchStep.exec attempt
    split
    · next ho => exact fillNext_keeps h _ ho
    · exact h

/-- Behind the count of the slots, what is queued in RQ was live before or is one of the
candidates, and so are the rows that the loop has still to see. -/
structure Fills (live : ℕ → Bool) (jobs : List ℕ) (t : Dispatching) : Prop where
  queued : ∀ id, t.rq.find? id = some .queued → live id ∨ id ∈ jobs
  rest : ∀ all rest active slots, t.pass = some ⟨all, .filling rest active slots⟩ → rest ⊆ jobs

theorem Fills.fillNext {live : ℕ → Bool} {answer : Bool} (h : Fills live jobs t) :
    ResultsMeet (Fills live jobs) (fillNext t answer) := by
  unfold CloudPortal.fillNext
  split
  · next all id rest active slots hp =>
    obtain ⟨hid, hrest⟩ := List.cons_subset.1 (h.rest _ _ _ _ hp)
    -- the next state of the loop
    have hnext {rq : Table ℕ RqStatus} {left : List ℕ} {slots' : ℕ} (hleft : left ⊆ jobs)
        (hrq : ∀ x, rq.find? x = some .queued → live x ∨ x ∈ jobs) :
        Fills live jobs { t with rq := rq, pass := some ⟨all, .filling left active slots'⟩ } :=
      ⟨hrq, fun _ _ _ _ hpass => by cases hpass; exact hleft⟩
    refine .ite (.ok (hnext (List.nil_subset _) h.queued)) (.ite (.ok (hnext hrest h.queued))
      (.bind fun _ => .ok (hnext hrest fun x hx => ?_)))
    rw [Table.find?_put] at hx
    split at hx
    · next he => exact .inr (he ▸ hid)
    · exact h.queued x hx
  · exact .error _

theorem exec_countSlots (hp : t.pass = some ⟨jobs, .reading [] act⟩) :
    DispatchStep.exec cfg lim t .countSlots = { t with pass := some ⟨jobs, .filling jobs act
      (parallelDispatchCapacity lim t.system act.length)⟩ } := by
  simp [DispatchStep.exec, attempt, DispatchStep.apply, countSlots, hp]

theorem run_fillNext_fills {live : ℕ → Bool} (h : Fills live jobs t) :
    Fills live jobs (dispatchRun cfg lim t (rest.map fun x => .fillNext (ready x))) := by
  induction rest generalizing t with
  | nil => exact h
  | cons x rest ih =>
    refine ih ?_
    unfold DispatchStep.exec attempt
    split
    · next ho => exact h.fillNext _ ho
    · exact h

theorem exec_endPass : (DispatchStep.exec cfg lim t .endPass).rq = t.rq := by
  unfold DispatchStep.exec attempt
  split
  · next t' h =>
    have h : endPass t = .ok t' := h
    unfold endPass at h
    split at h
    · cases h
      rfl
    · cases h
  · rfl

/-- A slot that is free goes to a job that is ready. -/
theorem run_fillNext (hp : t.pass = some ⟨jobs, .filling rest act slots⟩) (hslots : 0 < slots)
    (hr : ∀ x ∈ rest, ∃ job, t.system.jobs.find? x = some job) (hi : id ∈ rest)
    (hactive : id ∉ act) (hready : ready id) :
    ∃ x ∈ rest, x ∉ act ∧ ready x
      ∧ (dispatchRun cfg lim t (rest.map fun x => .fillNext (ready x))).rq.find? x
        = some .queued := by
  induction rest generalizing t with
  | nil => cases hi
  | cons x rest ih =>
    obtain ⟨⟨job, hj⟩, hr⟩ := List.forall_mem_cons.1 hr
    by_cases hskip : x ∈ act ∨ ready x = false
    · have hs : DispatchStep.exec cfg lim t (.fillNext (ready x))
          = { t with pass := some ⟨jobs, .filling rest act slots⟩ } := by
        simp [DispatchStep.exec, attempt, DispatchStep.apply, fillNext, hp, hskip, hslots.ne']
      have hi : id ∈ rest := by
        rcases List.mem_cons.1 hi with rfl | hi
        · simp [hactive, hready] at hskip
        · exact hi
      obtain ⟨y, hy, he⟩ := @ih (DispatchStep.exec cfg lim t (.fillNext (ready x)))
        (by rw [hs]) (by rw [hs]; exact hr) hi
      exact ⟨y, List.mem_cons_of_mem x hy, he⟩
    · have hs : DispatchStep.exec cfg lim t (.fillNext (ready x)) = { t with
          rq := t.rq.put x .queued, pass := some ⟨jobs, .filling rest act (slots - 1)⟩ } := by
        simp [DispatchStep.exec, attempt, DispatchStep.apply, fillNext, hp, hskip, hslots.ne', hj, need]
        rfl
      rw [not_or, Bool.not_eq_false] at hskip
      refine ⟨x, List.mem_cons_self, hskip.1, hskip.2, @run_fillNext_keeps cfg lim
        (DispatchStep.exec cfg lim t (.fillNext (ready x))) rest x ready ?_⟩
      rw [hs]
      exact Table.find?_put_self ..

end Pass

/-- What a pass with a free slot does to RQ: what it queues is a candidate, and if a candidate is
ready and not in RQ, it queues such a one. -/
theorem pass_enqueues (cfg : Settings) (limit : ℕ) {t : Dispatching} (ready : ℕ → Bool)
    (hidle : t.pass = none) (hslot : 0 < parallelDispatchCapacity limit t.system
      ((queuedDispatchCandidates t).filter t.live).length) :
    let rq := (dispatchRun cfg limit t (passSteps t ready)).rq
    (∀ id, rq.find? id = some .queued → t.live id ∨ id ∈ queuedDispatchCandidates t)
      ∧ ∀ id ∈ queuedDispatchCandidates t, t.live id = false → ready id
        → ∃ x ∈ queuedDispatchCandidates t, t.live x = false ∧ ready x
          ∧ rq.find? x = some .queued := by
  let t₁ := DispatchStep.exec cfg limit t .beginPass
  let t₂ := dispatchRun cfg limit t₁ ((queuedDispatchCandidates t).map fun _ => .inspectNext)
  let t₃ := DispatchStep.exec cfg limit t₂ .countSlots
  have hbegin : t₁ = { t with
      pass := some ⟨queuedDispatchCandidates t, .reading (queuedDispatchCandidates t) []⟩ } := by
    simp only [t₁, DispatchStep.exec, attempt, DispatchStep.apply, hidle]
    rfl
  have hl : t₁.live = t.live := by rw [hbegin]; rfl
  obtain ⟨hr, hsystem, hl₂⟩ : t₂.pass = _ ∧ t₂.system = _ ∧ t₂.live = _ :=
    run_inspectNext cfg limit (by rw [hbegin])
  have hcounted : t₃ = _ := exec_countSlots cfg limit hr
  rw [hsystem, hl, hbegin] at hcounted
  have hfills : Fills t.live (queuedDispatchCandidates t) t₃ := by
    rw [hcounted]
    refine ⟨fun id hid => .inl ?_, fun _ _ _ _ hpass => by cases hpass; exact List.Subset.refl _⟩
    have hlive : t₂.live id := by simp [Dispatching.live, show t₂.rq.find? id = _ from hid, RqStatus.live]
    rwa [hl₂, hl] at hlive
  rw [dispatchRun, passSteps, run_cons, run_append, run_cons, run_append, run_cons, run_nil,
    exec_endPass]
  refine ⟨Fills.queued (run_fillNext_fills cfg limit hfills), fun id hc hrq hready => ?_⟩
  have hrows : ∀ x ∈ queuedDispatchCandidates t, ∃ job, t₃.system.jobs.find? x = some job := by
    intro x hx
    obtain ⟨job, hwaits, -⟩ := mem_candidates.1 hx
    exact ⟨job, by rw [hcounted]; exact hwaits.1⟩
  have hn : id ∉ (queuedDispatchCandidates t).filter t.live := by simp [hrq]
  obtain ⟨x, hx, ha, hready', he⟩ :=
    run_fillNext cfg limit (by rw [hcounted]; rfl) hslot hrows hc hn hready
  exact ⟨x, hx, by simpa [hx] using ha, hready', he⟩

/-- A pass with a free slot enqueues a job that is ready if and only if there is one with fewer
than a hundred jobs of its class before it. -/
theorem ready_job_enqueued (cfg : Settings) (limit : ℕ) {t : Dispatching} (ready : ℕ → Bool)
    (hidle : t.pass = none) (hlocked : t.locked = [])
    (hslot : 0 < parallelDispatchCapacity limit t.system
      ((queuedDispatchCandidates t).filter t.live).length) :
    (∃ id job, t.waits id job ∧ t.live id = false ∧ ready id
        ∧ (dispatchRun cfg limit t (passSteps t ready)).rq.find? id = some .queued)
      ↔ ∃ id job, t.waits id job ∧ t.live id = false ∧ ready id ∧ t.nearFront id job := by
  obtain ⟨honly, hsome⟩ := pass_enqueues cfg limit ready hidle hslot
  constructor
  · rintro ⟨id, job, hwaits, hrq, hready, hqueued⟩
    have hc := (honly id hqueued).resolve_left (by simp [hrq])
    obtain ⟨job', hwaits', -, hfront⟩ := mem_candidates.1 hc
    exact ⟨id, job', hwaits', hrq, hready, hfront⟩
  · rintro ⟨id, job, hwaits, hrq, hready, hfront⟩
    have hc := mem_candidates.2 ⟨job, hwaits, by simp [hlocked], hfront⟩
    obtain ⟨x, hx, hrq', hready', hqueued⟩ := hsome id hc hrq hready
    obtain ⟨job', hwaits', -⟩ := mem_candidates.1 hx
    exact ⟨x, job', hwaits', hrq', hready', hqueued⟩

/-- A hundred jobs that wait for their provider, and one that does not. -/
def waitingQueue : Dispatching where
  system := { System.initial ∅ with jobs := Table.empty.putAll ((List.range 101).map fun id => (id,
    { deploymentId := none, operation := .ansibleExecute, scope := ⟨1, 1⟩, payload := {} })) }

theorem ready_job_enqueued_last :
    ∃ id' job', waitingQueue.waits id' job' ∧ waitingQueue.live id' = false ∧ (99 ≤ id')
      ∧ (dispatchRun {} 1 waitingQueue (passSteps waitingQueue (99 ≤ ·))).rq.find? id'
        = some .queued := by
  obtain ⟨id', job', hwaits, hl, hr, he⟩ := (@ready_job_enqueued {} 1 waitingQueue (99 ≤ ·) rfl rfl
    (by decide +kernel)).2 ⟨99, _, ⟨rfl, rfl, rfl⟩, rfl, rfl, by decide +kernel⟩
  exact ⟨id', job', hwaits, hl, of_decide_eq_true hr, he⟩

/-- The one behind the hundred is not enqueued, though a slot is free. -/
theorem ready_job_hidden :
    0 < parallelDispatchCapacity 1 waitingQueue.system
        ((queuedDispatchCandidates waitingQueue).filter waitingQueue.live).length
      ∧ (∃ job, waitingQueue.waits 100 job) ∧ waitingQueue.live 100 = false
      ∧ (dispatchRun {} 1 waitingQueue (passSteps waitingQueue (· = 100))).rq.rows = [] := by
  exact ⟨by decide +kernel, ⟨_, rfl, rfl, rfl⟩, rfl, by decide +kernel⟩

end CloudPortal
