/-
CloudPortal/Jobs/Day2Coupling.lean

A Day-2 job, its action request and the lock of its resource.

The service and the worker of Day-2 actions write the three together.  The generic
endpoints write the job alone: `approve_job` queues a Day-2 job whose request still waits
for an approval and holds no lock (`generic_approval_uncouples`).  The dispatcher gives jobs
up and lets their requests follow, both in the transaction of a pass, but it takes only two
hundred requests at a time.

`Coupling` is what the three tables say about each other, and `Coupled` the invariant that a
transaction starts from.  Every transaction writes one request together with its job and its
lock, so one rule (`Coupled.put`) carries all of them.
-/
import CloudPortal.Jobs.Steps

namespace CloudPortal

open RowStore Transition

/-! ### The three tables -/

/-- Day-2 jobs with the request that they name, requests, and who holds which resource. -/
structure Coupling where
  job : ℕ → Option (JobStatus × Option ℕ)
  request : ℕ → Option ActionRequest
  holder : ℕ → Option ℕ

/-- What a job row says, if it is that of a Day-2 job. -/
def Job.day2Row (job : Job) : Option (JobStatus × Option ℕ) :=
  if job.operation.isDay2 then some (job.status, job.payload.requestId) else none

def System.coupling (s : System) : Coupling where
  job id := (s.jobs.find? id).bind Job.day2Row
  request := s.requests.find?
  holder x := (s.locks.find? x).map (·.requestId)

/-- A request and the status of its job fit together.  In the middle of a pass, a job that
was given up may be ahead of its request. -/
structure Matches (lost : ℕ → Prop) (holder : ℕ → Option ℕ) (r : ℕ) (status : JobStatus)
    (request : ActionRequest) : Prop where
  queued : status = .queued → request.status = .queued
    ∧ (request.approvalState = .notRequired ∨ request.approvalState = .approved)
    ∧ holder request.target.id = some r
  running : request.status = .running → status = .running ∨ status = .cancelling
    ∨ lost request.jobId ∧ (status = .failed ∨ status = .cancelled)

/-- Jobs and requests name each other, and fit. -/
structure Coupled (lost : ℕ → Prop) (c : Coupling) : Prop where
  named : ∀ id row, c.job id = some row
    → ∃ r request, row.2 = some r ∧ c.request r = some request ∧ request.jobId = id
  backed : ∀ r request, c.request r = some request
    → ∃ status, c.job request.jobId = some (status, some r)
  fits : ∀ r request status, c.request r = some request
    → c.job request.jobId = some (status, some r) → Matches lost c.holder r status request

/-- The request `r` is written, with its job. -/
def Coupling.put (c : Coupling) (r : ℕ) (request : ActionRequest) (status : JobStatus)
    (holder : ℕ → Option ℕ) : Coupling where
  job := Function.update c.job request.jobId (some (status, some r))
  request := Function.update c.request r (some request)
  holder := holder

section Put

variable {lost : ℕ → Prop} {c : Coupling} {r : ℕ} {request : ActionRequest} {st : JobStatus}
  {holder : ℕ → Option ℕ}

theorem Coupling.put_job_self :
    (c.put r request st holder).job request.jobId = some (st, some r) :=
  Function.update_self ..

variable {id y : ℕ}

theorem Coupling.put_job_of_ne (h : id ≠ request.jobId) :
    (c.put r request st holder).job id = c.job id :=
  Function.update_of_ne h ..

theorem Coupling.put_request_self : (c.put r request st holder).request r = some request :=
  Function.update_self ..

theorem Coupling.put_request_of_ne (h : y ≠ r) :
    (c.put r request st holder).request y = c.request y :=
  Function.update_of_ne h ..

/-- A request that was there keeps its job; a new one comes with a new job. -/
def Coupling.Place (c : Coupling) (r id : ℕ) : Prop :=
  (∃ old, c.request r = some old ∧ old.jobId = id) ∨ c.request r = none ∧ c.job id = none

/-- A queued request keeps its resource when another request is written. -/
def Coupling.Spares (c : Coupling) (r : ℕ) (holder : ℕ → Option ℕ) : Prop :=
  ∀ x y, y ≠ r → c.holder x = some y
    → (∃ request, c.request y = some request ∧ request.status = .queued) → holder x = some y

theorem Coupling.Place.jobId_ne (hc : Coupled lost c) (hp : c.Place r id)
    {other : ActionRequest} (hy : y ≠ r) (hother : c.request y = some other) :
    other.jobId ≠ id := by
  rintro rfl
  obtain ⟨st, hj⟩ := hc.backed y other hother
  rcases hp with ⟨old, ho, hi⟩ | ⟨-, hn⟩
  · obtain ⟨st', hj'⟩ := hc.backed r old ho
    rw [hi, hj] at hj'
    cases hj'
    exact hy rfl
  · rw [hn] at hj
    cases hj

/-- One request is written with its job and its lock. -/
theorem Coupled.put (hc : Coupled lost c) (hp : c.Place r request.jobId)
    (hm : Matches lost holder r st request) (hspar : c.Spares r holder) :
    Coupled lost (c.put r request st holder) := by
  refine ⟨fun id row hr => ?_, fun y other hother => ?_, fun y other st' hother hj => ?_⟩
  · by_cases hi : id = request.jobId
    · subst hi
      rw [Coupling.put_job_self] at hr
      cases hr
      exact ⟨r, request, rfl, Coupling.put_request_self, rfl⟩
    rw [Coupling.put_job_of_ne hi] at hr
    obtain ⟨y, other, hname, hother, rfl⟩ := hc.named id row hr
    refine ⟨y, other, hname, (Coupling.put_request_of_ne ?_).trans hother, rfl⟩
    -- the job that `r` had is the one that is written
    rintro rfl
    rcases hp with ⟨old, ho, hi'⟩ | ⟨hn, -⟩
    · rw [hother] at ho
      cases ho
      exact hi hi'
    · rw [hother] at hn
      cases hn
  · by_cases hy : y = r
    · subst hy
      rw [Coupling.put_request_self] at hother
      cases hother
      exact ⟨st, Coupling.put_job_self⟩
    · rw [Coupling.put_request_of_ne hy] at hother
      obtain ⟨st', hj⟩ := hc.backed y other hother
      exact ⟨st', (Coupling.put_job_of_ne (hp.jobId_ne hc hy hother)).trans hj⟩
  · by_cases hy : y = r
    · subst hy
      rw [Coupling.put_request_self] at hother
      cases hother
      rw [Coupling.put_job_self] at hj
      cases hj
      exact hm
    · rw [Coupling.put_request_of_ne hy] at hother
      rw [Coupling.put_job_of_ne (hp.jobId_ne hc hy hother)] at hj
      have ho := hc.fits y other st' hother hj
      refine ⟨fun hq => ?_, ho.running⟩
      obtain ⟨hs, ha, hh⟩ := ho.queued hq
      exact ⟨hs, ha, hspar _ y hy hh ⟨other, hother, hs⟩⟩

theorem Coupling.Spares.rfl : c.Spares r c.holder := fun _ _ _ h _ => h

/-- Only the status of a job is written. -/
theorem Coupled.restatus (hc : Coupled lost c) {old : JobStatus} {name : Option ℕ}
    (hj : c.job id = some (old, name))
    (hm : ∀ r request, c.request r = some request → request.jobId = id
      → Matches lost c.holder r old request → Matches lost c.holder r st request) :
    Coupled lost { c with job := Function.update c.job id (some (st, name)) } := by
  obtain ⟨r, request, hn, hq, rfl⟩ := hc.named id _ hj
  cases hn
  have hp := hc.put (.inl ⟨request, hq, rfl⟩)
    (hm r request hq rfl (hc.fits r request old hq hj)) Coupling.Spares.rfl
  have hs : Function.update c.request r (some request) = c.request :=
    Function.update_eq_self_iff.2 hq.symm
  rw [Coupling.put, hs] at hp
  exact hp

end Put

/-! ### Writes to the tables -/

section Writes

variable {lost : ℕ → Prop} {s s' : System} {id r : ℕ} {job job' : Job} {request : ActionRequest}

theorem coupling_job_put (h : s'.jobs = s.jobs.put id job') :
    s'.coupling.job = Function.update s.coupling.job id job'.day2Row := by
  funext x
  show (s'.jobs.find? x).bind Job.day2Row = _
  rw [h, Table.find?_put, Function.update_apply]
  split <;> rfl

theorem coupling_request_put (h : s'.requests = s.requests.put r request) :
    s'.coupling.request = Function.update s.coupling.request r (some request) := by
  funext x
  show s'.requests.find? x = _
  rw [h, Table.find?_put, Function.update_apply]
  rfl

theorem coupling_job (h : s.jobs.find? id = some job) : s.coupling.job id = job.day2Row := by
  show (s.jobs.find? id).bind Job.day2Row = _
  rw [h]
  rfl

variable {st : JobStatus}

theorem day2Row_eq_some {name : Option ℕ} (h : job.day2Row = some (st, name)) :
    job.operation.isDay2 ∧ job.status = st ∧ job.payload.requestId = name := by
  unfold Job.day2Row at h
  split at h
  · next hday2 =>
    cases h
    exact ⟨hday2, rfl, rfl⟩
  · cases h

theorem day2Row_eq (hday2 : job.operation.isDay2) (hr : job.payload.requestId = some r) :
    job.day2Row = some (job.status, some r) := by
  rw [Job.day2Row, if_pos hday2, hr]

section

variable (hc : Coupled lost s.coupling)
include hc

/-- A transaction that writes one job and neither requests nor locks. -/
theorem Coupled.writeJob (hj : s.jobs.find? id = some job) (hjobs : s'.jobs = s.jobs.put id job')
    (hs : (s'.requests, s'.locks, job'.operation, job'.payload.requestId)
      = (s.requests, s.locks, job.operation, job.payload.requestId))
    (hm : job.operation.isDay2 → ∀ x request, s.requests.find? x = some request
      → request.jobId = id → Matches lost s.coupling.holder x job.status request
      → Matches lost s.coupling.holder x job'.status request) : Coupled lost s'.coupling := by
  simp only [Prod.mk.injEq] at hs
  obtain ⟨hreqs, hlocks, ho, hn⟩ := hs
  have hre : s'.coupling = { s.coupling with
      job := Function.update s.coupling.job id job'.day2Row } := by
    rw [← coupling_job_put hjobs]
    simp only [System.coupling, hreqs, hlocks]
  rw [hre]
  by_cases hday2 : job.operation.isDay2
  · have hr : job'.day2Row = some (job'.status, job.payload.requestId) := by
      rw [Job.day2Row, ho, if_pos hday2, hn]
    rw [hr]
    refine hc.restatus ?_ (hm hday2)
    rw [coupling_job hj, Job.day2Row, if_pos hday2]
  · have hr : job'.day2Row = s.coupling.job id := by
      rw [coupling_job hj, Job.day2Row, Job.day2Row, ho, if_neg hday2, if_neg hday2]
    rw [hr, Function.update_eq_self]
    exact hc

/-- A new job that is not a Day-2 job. -/
theorem Coupled.addJob (hf : s.jobs.find? id = none) (hjobs : s'.jobs = s.jobs.put id job')
    (hreqs : s'.requests = s.requests) (hlocks : s'.locks = s.locks)
    (hday2 : job'.operation.isDay2 = false) : Coupled lost s'.coupling := by
  have hr : job'.day2Row = s.coupling.job id := by
    show _ = (s.jobs.find? id).bind Job.day2Row
    rw [hf, Job.day2Row, hday2]
    rfl
  have hs : s'.coupling = s.coupling := by
    have hj := coupling_job_put hjobs
    rw [hr, Function.update_eq_self] at hj
    simp only [System.coupling, hreqs, hlocks] at hj ⊢
    rw [hj]
  rw [hs]
  exact hc

/-- A transaction that writes a request and its job. -/
theorem Coupled.writeRequest (hreqs : s'.requests = s.requests.put r request)
    (hi : request.jobId = id) (hjobs : s'.jobs = s.jobs.put id job')
    (hr : job'.day2Row = some (st, some r)) (hp : s.coupling.Place r id)
    (hm : Matches lost s'.coupling.holder r st request)
    (hspar : s.coupling.Spares r s'.coupling.holder) : Coupled lost s'.coupling := by
  subst hi
  have hput : s'.coupling = s.coupling.put r request st s'.coupling.holder := by
    have hj := coupling_job_put hjobs
    rw [hr] at hj
    rw [Coupling.put, ← hj, ← coupling_request_put hreqs]
  rw [hput]
  exact hc.put hp hm hspar

/-- The request of a Day-2 job is the one that its payload names. -/
theorem Coupled.jobRequest (hj : s.jobs.find? id = some job) (hday2 : job.operation.isDay2) :
    ∃ r request, job.payload.requestId = some r
      ∧ s.requests.find? r = some request ∧ request.jobId = id
      ∧ s.jobRequest job = some (r, request)
      ∧ Matches lost s.coupling.holder r job.status request := by
  have hr : s.coupling.job id = some (job.status, job.payload.requestId) := by
    rw [coupling_job hj, Job.day2Row, if_pos hday2]
  obtain ⟨r, request, hn, hq, rfl⟩ := hc.named id _ hr
  have hn : job.payload.requestId = some r := hn
  have hq : s.requests.find? r = some request := hq
  rw [hn] at hr
  refine ⟨r, request, hn, hq, rfl, ?_, hc.fits r request _ hq hr⟩
  rw [System.jobRequest, hn, Option.bind_some, hq]
  rfl

end

end Writes

/-! ### Locks -/

section Locks

variable {cfg : Settings} {s : System} {x r : ℕ} {locks : Table ℕ ResourceLock}

/-- Who holds the resources of a table of locks. -/
def holderOf (locks : Table ℕ ResourceLock) (x : ℕ) : Option ℕ :=
  (locks.find? x).map (·.requestId)

/-- A lock is taken where there is none, or one of a request that has ended. -/
theorem acquireResourceLock_spec (h : acquireResourceLock cfg s x r = .ok locks) :
    holderOf locks x = some r ∧ (∀ y ≠ x, holderOf locks y = holderOf s.locks y)
      ∧ ∀ z ≠ r, holderOf s.locks x = some z
        → ∃ prev, s.requests.find? z = some prev ∧ prev.status.terminal := by
  have htaken {lock : ResourceLock} (hlock : lock.requestId = r)
      (hlocks : locks = s.locks.put x lock) :
      holderOf locks x = some r ∧ ∀ y ≠ x, holderOf locks y = holderOf s.locks y := by
    subst hlocks
    refine ⟨?_, fun y hy => ?_⟩
    · rw [holderOf, Table.find?_put_self, Option.map_some, hlock]
    · rw [holderOf, Table.find?_put, if_neg hy, holderOf]
  unfold acquireResourceLock at h
  dsimp only at h
  split at h
  · next hn =>
    cases h
    refine ⟨(htaken rfl rfl).1, (htaken rfl rfl).2, fun z _ hz => ?_⟩
    rw [holderOf, hn] at hz
    cases hz
  next lock hlock =>
  have hh : holderOf s.locks x = some lock.requestId := by
    rw [holderOf, hlock]
    rfl
  split at h
  · next ho =>
    cases h
    refine ⟨(htaken rfl rfl).1, (htaken rfl rfl).2, fun z hz hz' => ?_⟩
    rw [hh] at hz'
    cases hz'
    exact absurd ho hz
  split at h
  · split at h
    · next he =>
      cases h
      refine ⟨(htaken rfl rfl).1, (htaken rfl rfl).2, fun z _ hz' => ?_⟩
      rw [hh] at hz'
      cases hz'
      obtain ⟨prev, hp, hs⟩ := (Option.any_eq_true _ _).1 he
      exact ⟨prev, hp, (Bool.and_eq_true_iff.1 hs).1⟩
    · cases h
  · cases h

/-- A lock that is refreshed stays with its request. -/
theorem refreshResourceLock_spec (h : refreshResourceLock cfg s x r = .ok locks) :
    holderOf s.locks x = some r ∧ ∀ y, holderOf locks y = holderOf s.locks y := by
  obtain ⟨hh, h⟩ := ensure_bind_eq_ok.1 h
  cases h
  have hholder : holderOf s.locks x = some r := by
    rw [holderOf]
    cases hlock : s.locks.find? x with
    | none =>
      rw [hlock] at hh
      cases hh
    | some lock =>
      rw [hlock] at hh
      exact congrArg some (of_decide_eq_true hh)
  refine ⟨hholder, fun y => ?_⟩
  by_cases hy : y = x
  · subst hy
    rw [hholder, holderOf, Table.find?_put_self]
    rfl
  · rw [holderOf, Table.find?_put, if_neg hy, holderOf]

/-- A request releases its own lock only. -/
theorem releaseResourceLock_spec {locks : Table ℕ ResourceLock} {y z : ℕ} (hz : z ≠ r)
    (h : holderOf locks y = some z) : holderOf (releaseResourceLock locks x r) y = some z := by
  unfold releaseResourceLock
  split
  · next ho =>
    rw [holderOf, Table.find?_erase]
    split
    · next hy =>
      subst hy
      obtain ⟨lock, hlock, hr⟩ := (Option.any_eq_true _ _).1 ho
      rw [holderOf, hlock] at h
      cases h
      exact absurd (of_decide_eq_true hr) hz
    · exact h
  · exact h

end Locks

/-! ### The service and the worker of Day-2 actions -/

variable {approves : Bool} {s₁ : System}

section Service

variable {lost : ℕ → Prop} {cfg : Settings} {s s' : System} {w id r : ℕ}
  {locks : Table ℕ ResourceLock}

/-- A lock that is taken spares the requests that are queued. -/
theorem spares_acquire {x : ℕ} (h : acquireResourceLock cfg s₁ x r = .ok locks)
    (hlocks : s₁.locks = s.locks) (hreqs : ∀ z ≠ r, s₁.requests.find? z = s.requests.find? z) :
    s.coupling.Spares r (holderOf locks) := by
  obtain ⟨-, hothers, he⟩ := acquireResourceLock_spec h
  rw [hlocks] at hothers he
  rintro y z hz hh ⟨request, hq, hs⟩
  by_cases hy : y = x
  · subst hy
    obtain ⟨prev, hp, hterminal⟩ := he z hz hh
    rw [hreqs z hz] at hp
    cases hq.symm.trans hp
    rw [hs] at hterminal
    cases hterminal
  · rw [hothers y hy]
    exact hh

theorem spares_release {x : ℕ} (h : locks = s.locks ∨ locks = releaseResourceLock s.locks x r) :
    s.coupling.Spares r (holderOf locks) := by
  rintro y z hz hh -
  rcases h with rfl | rfl
  · exact hh
  · exact releaseResourceLock_spec hz hh

section

variable (hc : Coupled lost s.coupling) {live : Day2Live}
include hc

theorem Coupled.createAction {input : ActionInput} (h : createAction cfg s input = .ok s') :
    Coupled lost s'.coupling := by
  simp only [CloudPortal.createAction, ensure_bind_eq_ok, System.freshJobId, Bool.and_eq_true,
    Option.isNone_iff_eq_none] at h
  obtain ⟨⟨⟨-, hf⟩, hn⟩, h⟩ := h
  have hp : s.coupling.Place input.requestId input.request.jobId := by
    refine .inr ⟨hn, ?_⟩
    show (s.jobs.find? input.jobId).bind Job.day2Row = none
    rw [hf]
    rfl
  have hr {quota : QuotaTag} {now : ℕ} {st : JobStatus}
      (hs : (input.job s.now).status = st) :
      (((input.job s.now).withQuota quota).touch now).day2Row
        = some (st, some input.requestId) := by
    rw [← hs]
    rfl
  split at h
  · next hgated =>
    cases h
    have hs : input.request.status = .waitingApproval := if_pos hgated
    exact hc.writeRequest rfl rfl rfl (hr (if_pos hgated)) hp
      ⟨by simp, fun hrun => by cases hs.symm.trans hrun⟩ Coupling.Spares.rfl
  next hgated =>
  obtain ⟨locks, hlocks, h⟩ := bind_eq_ok.1 h
  obtain ⟨⟨tag, l⟩, -, h⟩ := ofQuota_bind_eq_ok.1 h
  cases h
  have hs : input.request.status = .queued := if_neg hgated
  exact hc.writeRequest rfl rfl rfl (hr (if_neg hgated)) hp
    ⟨fun _ => ⟨hs, .inl (if_neg hgated), (acquireResourceLock_spec hlocks).1⟩,
      fun hrun => by cases hs.symm.trans hrun⟩
    (spares_acquire hlocks rfl fun z hz => Table.find?_put_of_ne _ _ hz)

theorem Coupled.queueAction {request : ActionRequest} {job job' : Job}
    (hq : s.requests.find? r = some request) (hj : s.jobs.find? request.jobId = some job)
    (h : queueAction cfg s r request job' live = .ok s') (ho : job'.operation = job.operation)
    (hn : job'.payload.requestId = job.payload.requestId) : Coupled lost s'.coupling := by
  obtain ⟨locks, hlocks, h⟩ := bind_eq_ok.1 h
  obtain ⟨⟨tag, l⟩, -, h⟩ := ofQuota_bind_eq_ok.1 h
  cases h
  obtain ⟨st, hrow⟩ := hc.backed r request hq
  rw [coupling_job hj] at hrow
  obtain ⟨hday2, -, hr⟩ := day2Row_eq_some hrow
  exact hc.writeRequest rfl rfl rfl (day2Row_eq (ho ▸ hday2) (hn.trans hr)) (.inl ⟨request, hq, rfl⟩)
    ⟨fun _ => ⟨rfl, .inr rfl, (acquireResourceLock_spec hlocks).1⟩, nofun⟩
    (spares_acquire hlocks rfl fun _ _ => rfl)

theorem Coupled.approveAction (h : approveAction cfg s r live approves = .ok s') :
    Coupled lost s'.coupling := by
  simp only [CloudPortal.approveAction, need_bind_eq_ok, ensure_bind_eq_ok] at h
  obtain ⟨request, hq, -, job, hj, -, h⟩ := h
  obtain ⟨stage, -, h⟩ := bind_eq_ok.1 h
  split at h
  · cases h
    exact hc.writeJob hj rfl rfl fun _ _ _ _ _ hm => hm
  all_goals exact hc.queueAction hq hj h rfl rfl

theorem Coupled.cancelAction (h : cancelAction s r = .ok s') : Coupled lost s'.coupling := by
  simp only [CloudPortal.cancelAction, need_bind_eq_ok, ensure_bind_eq_ok] at h
  obtain ⟨request, hq, -, job, hj, h⟩ := h
  obtain ⟨st, hrow⟩ := hc.backed r request hq
  rw [coupling_job hj] at hrow
  obtain ⟨hday2, -, hr⟩ := day2Row_eq_some hrow
  split at h
  · obtain ⟨l, -, h⟩ := ofQuota_bind_eq_ok.1 h
    cases h
    exact hc.writeRequest rfl rfl rfl (day2Row_eq hday2 hr)
      (.inl ⟨request, hq, rfl⟩) ⟨by simp, by simp⟩ (spares_release (.inr rfl))
  · obtain ⟨-, h⟩ := ensure_bind_eq_ok.1 h
    cases h
    exact hc.writeRequest rfl rfl rfl (day2Row_eq hday2 hr)
      (.inl ⟨request, hq, rfl⟩) ⟨by simp, by simp⟩ Coupling.Spares.rfl

end

/-- A Day-2 worker has a Day-2 job. -/
theorem KindsApart.day2Job (hs : KindsApart s) {wk : Worker} {job : Job}
    (hw : s.workers.find? w = some wk) (hday2 : wk.day2 = true)
    (hj : s.jobs.find? wk.jobId = some job) : job.operation.isDay2 := by
  obtain ⟨job', hj', ho⟩ := hs.worker w wk hw
  cases hj.symm.trans hj'
  rw [ho, hday2]

section

variable (hc : Coupled lost s.coupling) {msg : String}
include hc

theorem Coupled.claimDay2Job {valid : Bool} (h : claimDay2Job cfg s w id valid = .ok s') :
    Coupled lost s'.coupling := by
  simp only [CloudPortal.claimDay2Job, need_bind_eq_ok, ensure_bind_eq_ok, Bool.and_eq_true] at h
  obtain ⟨job, hj, ⟨-, hday2⟩, -, h⟩ := h
  obtain ⟨r, request, hr, hq, rfl, hnamed, hm⟩ := hc.jobRequest hj hday2
  rw [hnamed] at h
  dsimp only at h
  split at h
  · next locks hlocks =>
    split at h
    · cases h
      have hspar : s.coupling.Spares r (holderOf locks) := by
        rintro y z - hh -
        rw [(refreshResourceLock_spec hlocks).2]
        exact hh
      exact hc.writeRequest rfl rfl rfl (day2Row_eq hday2 hr) (.inl ⟨request, hq, rfl⟩)
        ⟨by simp, fun _ => .inl rfl⟩ hspar
    · cases h
      exact hc
  · cases h
    exact hc

theorem Coupled.failBeforeExecution (hs : KindsApart s)
    (h : failBeforeExecution s w msg = .ok s') : Coupled lost s'.coupling := by
  simp only [CloudPortal.failBeforeExecution, workerJob_bind_eq_ok, ensure_bind_eq_ok] at h
  obtain ⟨wk, job, hw, hworker, hj, -, h⟩ := h
  have hday2 := hs.day2Job hw hworker hj
  obtain ⟨r, request, hr, hq, hi, hnamed, -⟩ := hc.jobRequest hj hday2
  rw [hnamed, Option.filter_some, if_pos (decide_eq_true hi)] at h
  obtain ⟨l, -, h⟩ := ofQuota_bind_eq_ok.1 h
  cases h
  exact hc.writeRequest rfl hi rfl (day2Row_eq hday2 hr) (.inl ⟨request, hq, hi⟩)
    ⟨by simp, by simp⟩ (spares_release (.inr rfl))

/-- What a Day-2 worker does between its first and its last transaction. -/
theorem Coupled.checkDay2Context {authorized : Bool}
    (h : checkDay2Context cfg s w authorized = .ok s') : Coupled lost s'.coupling := by
  simp only [CloudPortal.checkDay2Context, workerJob_bind_eq_ok, ensure_bind_eq_ok] at h
  obtain ⟨wk, job, -, -, hj, -, h⟩ := h
  -- the heartbeat is written, and the lock stays with its request
  have hk : Coupled lost (s.putJob wk.jobId { job with heartbeatAt := some s.now }).coupling :=
    hc.writeJob hj rfl rfl fun _ _ _ _ _ hm => hm
  repeat' split at h
  all_goals cases h
  all_goals try exact hc
  next locks hlocks =>
    have hh : holderOf locks = s.coupling.holder :=
      funext (refreshResourceLock_spec hlocks).2
    exact ⟨hk.named, hk.backed, fun x request st hx hr => by
      show Matches lost (holderOf locks) x st request
      rw [hh]
      exact hk.fits x request st hx hr⟩

theorem Coupled.finalizeDay2 (hs : KindsApart s) {warnings : Bool}
    (h : finalizeDay2 s w warnings msg = .ok s') : Coupled lost s'.coupling := by
  simp only [CloudPortal.finalizeDay2, workerJob_bind_eq_ok] at h
  obtain ⟨wk, job, hw, hworker, hj, h⟩ := h
  have hday2 := hs.day2Job hw hworker hj
  obtain ⟨r, request, hr, hq, hi, hnamed, -⟩ := hc.jobRequest hj hday2
  split at h
  · next outcome hphase =>
    rw [hnamed] at h
    dsimp only at h
    obtain ⟨l, -, h⟩ := ofQuota_bind_eq_ok.1 h
    cases h
    refine hc.writeRequest rfl hi rfl (day2Row_eq hday2 hr) (.inl ⟨request, hq, hi⟩)
      ⟨?_, ?_⟩ (spares_release (x := request.target.id) ?_)
    · cases outcome <;> rintro ⟨⟩
    · cases outcome with
      | successful => cases warnings <;> rintro ⟨⟩
      | failed | cancelled => rintro ⟨⟩
    · dsimp only
      split
      · exact .inl rfl
      · exact .inr rfl
  · cases h

end

end Service

/-! ### The generic endpoints and the reconcilers -/

section Generic

variable {lost : ℕ → Prop} {cfg : Settings} {s s' : System} {id : ℕ}

/-- The job waits for a stage of its policies, and one more comes after it. -/
def Job.hasLaterStage (job : Job) : Bool :=
  job.payload.workflowApproval.isNone
    && job.payload.policyApproval.any fun state => state.currentStage + 1 < state.stages.length

/-- A stage that is not the last one does not complete the approval. -/
theorem approvePolicyStage_later {state : Option PolicyApproval}
    {result : Option (PolicyApproval × Bool)}
    (hl : state.any fun state => state.currentStage + 1 < state.stages.length)
    (h : approvePolicyStage state approves = .ok result) :
    ∃ state', result = some (state', false) := by
  cases state with
  | none => cases hl
  | some state =>
    have hl : state.currentStage + 1 < state.stages.length := of_decide_eq_true hl
    have hstages : state.stages ≠ [] := by
      intro hnil
      rw [hnil] at hl
      exact absurd hl (by simp)
    simp only [approvePolicyStage, if_neg hstages, if_neg (show
      ¬state.stages.length ≤ state.currentStage by omega)] at h
    split at h
    · cases h
    cases h
    have hcomplete : decide (state.stages.length ≤ state.currentStage + 1) = false :=
      decide_eq_false (by omega)
    rw [hcomplete]
    exact ⟨_, rfl⟩

theorem Coupled.requeue (hc : Coupled lost s.coupling) {job job' : Job}
    (hj : s.jobs.find? id = some job) (hday2 : job.operation.isDay2 = false)
    (h : requeue s id job' = .ok s') (ho : job'.operation = job.operation)
    (hn : job'.payload.requestId = job.payload.requestId) : Coupled lost s'.coupling := by
  simp only [CloudPortal.requeue, ofQuota_bind_eq_ok] at h
  obtain ⟨⟨tag, l⟩, -, h⟩ := h
  cases h
  refine hc.writeJob hj rfl (by rw [← ho, ← hn]; rfl) fun hday2' => ?_
  rw [hday2] at hday2'
  cases hday2'

/-- `approve_job` of a job of another kind, or of one that more stages are to approve. -/
theorem Coupled.approveJob (hc : Coupled lost s.coupling)
    (hspared : (s.jobs.find? id).all fun job => !job.operation.isDay2 || job.hasLaterStage)
    (h : approveJob s id approves = .ok s') : Coupled lost s'.coupling := by
  simp only [CloudPortal.approveJob, need_bind_eq_ok, ensure_bind_eq_ok] at h
  obtain ⟨job, hj, -, -, h⟩ := h
  rw [hj] at hspared
  have hspared : (!job.operation.isDay2 || job.hasLaterStage) = true := hspared
  cases hday2 : job.operation.isDay2 with
  | false =>
    split at h
    · simp only [approveWorkflowStep, ensure_bind_eq_ok] at h
      obtain ⟨-, -, -, h⟩ := h
      exact hc.requeue hj hday2 h rfl rfl
    obtain ⟨-, h⟩ := ensure_bind_eq_ok.1 h
    obtain ⟨stage, -, h⟩ := bind_eq_ok.1 h
    split at h
    · cases h
      exact hc.writeJob hj rfl rfl fun _ _ _ _ _ hm => hm
    all_goals exact hc.requeue hj hday2 h rfl rfl
  | true =>
    rw [hday2] at hspared
    obtain ⟨hwf, hl⟩ :=
      Bool.and_eq_true_iff.1 (show job.hasLaterStage = true from hspared)
    rw [Option.isNone_iff_eq_none.1 hwf] at h
    obtain ⟨-, h⟩ := ensure_bind_eq_ok.1 h
    obtain ⟨stage, hstage, h⟩ := bind_eq_ok.1 h
    obtain ⟨state', rfl⟩ := approvePolicyStage_later hl hstage
    cases h
    exact hc.writeJob hj rfl rfl fun _ _ _ _ _ hm => hm

variable {r d : ℕ}

/-- A job that has not been started ends; its request does not run. -/
theorem Matches.ended {holder : ℕ → Option ℕ} {request : ActionRequest} {old st : JobStatus}
    (h : Matches lost holder r old request) (ho : old = .queued ∨ old = .waitingApproval)
    (hs : st ≠ .queued) : Matches lost holder r st request := by
  refine ⟨fun hq => absurd hq hs, fun hr => ?_⟩
  rcases ho with rfl | rfl
  · rw [(h.queued rfl).1] at hr
    cases hr
  · rcases h.running hr with h | h | ⟨-, h | h⟩
    all_goals cases h

section

variable (hc : Coupled lost s.coupling)
include hc

theorem Coupled.cancelJob (h : cancelJob s id = .ok s') : Coupled lost s'.coupling := by
  simp only [CloudPortal.cancelJob, need_bind_eq_ok, ensure_bind_eq_ok] at h
  obtain ⟨job, hj, -, h⟩ := h
  split at h
  · cases h
    exact hc
  split at h
  · next hearly =>
    obtain ⟨l, -, h⟩ := ofQuota_bind_eq_ok.1 h
    cases h
    exact hc.writeJob hj rfl rfl
      fun _ _ _ _ _ hm => hm.ended hearly (by simp)
  · cases h
    exact hc.writeJob hj rfl rfl
      fun _ _ _ _ _ _ => ⟨by simp, fun _ => .inr (.inl rfl)⟩

theorem Coupled.expireWaitingApproval {config : ApprovalPolicy}
    (h : expireWaitingApproval s id config = .ok s') : Coupled lost s'.coupling := by
  simp only [CloudPortal.expireWaitingApproval, need_bind_eq_ok, ensure_bind_eq_ok,
    Bool.and_eq_true, decide_eq_true_eq] at h
  obtain ⟨job, hj, ⟨hwaiting, -⟩, -, h⟩ := h
  split at h
  all_goals
    cases h
    exact hc.writeJob hj rfl rfl
      fun _ _ _ _ _ hm => hm.ended (.inr hwaiting) (by simp)

/-- A job that the dispatcher gives up is ahead of its request. -/
theorem Coupled.reconcileCancelledJob (hlost : lost id) {rq : RqView}
    (h : reconcileCancelledJob s id rq = .ok s') : Coupled lost s'.coupling := by
  simp only [CloudPortal.reconcileCancelledJob, need_bind_eq_ok, ensure_bind_eq_ok] at h
  obtain ⟨job, hj, -, h⟩ := h
  split at h
  · obtain ⟨l, -, h⟩ := ofQuota_bind_eq_ok.1 h
    cases h
    refine hc.writeJob hj rfl rfl fun _ _ request _ hi _ => ⟨by simp, fun _ => ?_⟩
    exact .inr (.inr ⟨hi ▸ hlost, .inr rfl⟩)
  cases h
  split
  · exact hc.writeJob hj rfl rfl
      fun _ _ _ _ _ _ => ⟨by simp, fun _ => .inr (.inl rfl)⟩
  · exact hc

theorem Coupled.reconcileStaleJob (hlost : lost id) {resumeId : ℕ}
    (h : reconcileStaleJob cfg s id resumeId = .ok s') : Coupled lost s'.coupling := by
  simp only [CloudPortal.reconcileStaleJob, need_bind_eq_ok, ensure_bind_eq_ok,
    ofQuota_bind_eq_ok] at h
  obtain ⟨job, hj, -, l, -, h⟩ := h
  have hfailed (error : Option String) : Coupled lost ((s.withLedger l).putJob id
      { job with status := .failed, error := error }).coupling := by
    refine hc.writeJob hj rfl rfl fun _ _ request _ hi _ => ⟨by simp, fun _ => ?_⟩
    exact .inr (.inr ⟨hi ▸ hlost, .inl rfl⟩)
  split at h
  · next resumed hresume =>
    obtain ⟨hf, h⟩ := ensure_bind_eq_ok.1 h
    cases h
    obtain ⟨hp, -, rfl⟩ := automaticResume_spec hresume
    have hn (error : Option String) : ((s.withLedger l).putJob id
        { job with status := .failed, error := error }).jobs.find? resumeId = none := by
      have hne : resumeId ≠ id := by
        rintro rfl
        simp [System.freshJobId, hj] at hf
      rw [System.find?_putJob, if_neg hne]
      exact Option.isNone_iff_eq_none.1 (Bool.and_eq_true_iff.1 hf).2
    exact (hfailed _).addJob (hn _) rfl rfl rfl (not_isDay2_of_provisioning hp)
  · cases h
    exact hfailed _

/-- The reconcilers of deployments write to no Day-2 job. -/
theorem Coupled.reconcilePersistedInventory (h : reconcilePersistedInventory s d = .ok s') :
    Coupled lost s'.coupling := by
  simp only [CloudPortal.reconcilePersistedInventory, need_bind_eq_ok, ensure_bind_eq_ok,
    ofQuota_bind_eq_ok] at h
  obtain ⟨deployment, -, -, l, -, h⟩ := h
  cases h
  unfold recordPersistedStateRecovery
  split
  · next id job hactive =>
    split
    · obtain ⟨x, -, hx⟩ := Option.bind_eq_some_iff.1 hactive
      obtain ⟨job', hj, hpair⟩ := Option.map_eq_some_iff.1 hx
      cases hpair
      exact hc.writeJob hj rfl rfl fun _ _ _ _ _ hm => hm
    · exact hc
  · exact hc

theorem Coupled.reconcileDeploymentJobStatus (h : reconcileDeploymentJobStatus s d = .ok s') :
    Coupled lost s'.coupling := by
  simp only [CloudPortal.reconcileDeploymentJobStatus, need_bind_eq_ok] at h
  obtain ⟨deployment, -, active, -, h⟩ := h
  split at h
  all_goals
    cases h
    exact hc

/-- A request that takes over the end of its job. -/
theorem Coupled.reconcileFinishedJob (h : reconcileFinishedJob s r = .ok s') :
    Coupled lost s'.coupling := by
  simp only [CloudPortal.reconcileFinishedJob, need_bind_eq_ok, ensure_bind_eq_ok,
    Bool.and_eq_true, Bool.or_eq_true, decide_eq_true_eq] at h
  obtain ⟨request, hreq, job, hj, ⟨hday2, he⟩, -, h⟩ := h
  obtain ⟨st, hr⟩ := hc.backed r request hreq
  obtain ⟨-, rfl, -⟩ := day2Row_eq_some ((coupling_job hj).symm.trans hr)
  have hp :
      s'.coupling = s.coupling.put r (request.mirror job) job.status s'.coupling.holder := by
    have hjobs : Function.update s.coupling.job request.jobId (some (job.status, some r))
        = s'.coupling.job := by
      rw [Function.update_eq_self_iff.2 hr.symm]
      cases h
      rfl
    have hreqs : Function.update s.coupling.request r (some (request.mirror job))
        = s'.coupling.request := (coupling_request_put (by cases h; rfl)).symm
    show s'.coupling = ⟨Function.update s.coupling.job request.jobId _, _, _⟩
    rw [hjobs, hreqs]
  rw [hp]
  cases h
  refine hc.put (.inl ⟨request, hreq, rfl⟩) ⟨fun hq => ?_, fun hrun => ?_⟩
    (spares_release (x := request.target.id) ?_)
  · rcases he with he | he
    all_goals cases hq.symm.trans he
  · unfold ActionRequest.mirror at hrun
    dsimp only at hrun
    split at hrun
    all_goals cases hrun
  · dsimp only
    split
    · exact .inl rfl
    · exact .inr rfl

end

end Generic

/-! ### Transactions -/

/-- The steps of the Day-2 service, of its workers and of the two generic endpoints. -/
def Step.facesDay2 : Step → Bool
  | .tick _ | .administer _ | .approveJob .. | .cancelJob _ | .createAction _ | .approveAction ..
  | .cancelAction _ | .claimDay2Job .. | .failBeforeExecution .. | .checkDay2Context ..
  | .submitDay2 _ | .confirmDay2 _ | .finishDay2 .. | .finalizeDay2 .. | .crashWorker _ => true
  | _ => false

/-- The reconcilers of a pass, for rows that no other transaction holds. -/
def Step.reconciles (locked : List ℕ) : Step → Bool
  | .expireWaitingApproval id _ | .reconcileCancelledJob id _ | .reconcileStaleJob id _ =>
    id ∉ locked
  | .reconcileDeploymentJobStatus _ | .reconcilePersistedInventory _ => true
  | _ => false

/-- A Day-2 job that was given up or cancelled. -/
def Job.endedDay2 (job : Job) : Bool :=
  job.operation.isDay2 && (job.status = .failed || job.status = .cancelled)

/-- The query of `reconcile_finished_jobs`: open requests whose job has ended, by the id of the
job, without those whose job row is locked. -/
def System.finished (s : System) (locked : List ℕ) : List (ℕ × ActionRequest) :=
  (s.requests.rows.filter fun row => !row.2.status.terminal && row.2.jobId ∉ locked
    && (s.jobs.find? row.2.jobId).any Job.endedDay2).mergeSort fun a b => a.2.jobId ≤ b.2.jobId

/-- `.limit(200)`. -/
def finishedLimit : ℕ := 200

/-- What a pass of the dispatcher does to jobs and requests: it goes through the rows that it
finds, and the job rows that other transactions hold are skipped. -/
structure Day2Pass where
  reconcilers : List Step
  locked : List ℕ

/-- The requests that follow their jobs. -/
def follow (cfg : Settings) (s : System) (rows : List (ℕ × ActionRequest)) : System :=
  systemRun cfg s (rows.map fun row => .reconcileFinishedJob row.1)

/-- The state that the reconcilers of a pass leave to `reconcile_finished_jobs`. -/
def Day2Pass.reconciled (p : Day2Pass) (cfg : Settings) (s : System) : System :=
  systemRun cfg s (p.reconcilers.filter (·.reconciles p.locked))

/-- The transaction of a pass. -/
def Day2Pass.exec (p : Day2Pass) (cfg : Settings) (s : System) : System :=
  follow cfg (p.reconciled cfg s) (((p.reconciled cfg s).finished p.locked).take finishedLimit)

/-- The transactions that Day-2 jobs meet. -/
inductive Day2Move
  | step (a : Step) (hfaces : a.facesDay2)
  | pass (p : Day2Pass)

def Day2Move.exec (cfg : Settings) (s : System) : Day2Move → System
  | .step a _ => a.exec cfg s
  | .pass p => p.exec cfg s

/-- Requests that are open although their job is not queued. -/
def System.startedRequests (s : System) : List (ℕ × ActionRequest) :=
  s.requests.rows.filter fun row => !row.2.status.terminal
    && (s.jobs.find? row.2.jobId).all (·.status ≠ .queued)

/-- `approve_job` is not used for the last approval of a Day-2 job, and a pass has not more
requests to look after than it takes. -/
def Day2Move.spares (s : System) : Day2Move → Bool
  | .step (.approveJob id _) _ =>
    (s.jobs.find? id).all fun job => !job.operation.isDay2 || job.hasLaterStage
  | .step _ _ => true
  | .pass _ => s.startedRequests.length ≤ finishedLimit

/-- A queued Day-2 job has a request that is approved and queued for it and holds its resource,
and a request that runs has a job that runs. -/
structure Day2Coupled (s : System) : Prop where
  queued : ∀ id job, s.jobs.find? id = some job → job.operation.isDay2 → job.status = .queued
    → ∃ r request lock, s.requests.find? r = some request ∧ request.jobId = id
      ∧ request.status = .queued
      ∧ (request.approvalState = .notRequired ∨ request.approvalState = .approved)
      ∧ s.locks.find? request.target.id = some lock ∧ lock.requestId = r
  running : ∀ r request, s.requests.find? r = some request → request.status = .running
    → ∃ job, s.jobs.find? request.jobId = some job
      ∧ (job.status = .running ∨ job.status = .cancelling)

variable {s : System}

/-- The invariant says what it is about. -/
theorem Coupled.day2Coupled (hc : Coupled (fun _ => False) s.coupling) : Day2Coupled s := by
  refine ⟨fun id job hj hday2 hs => ?_, fun r request hreq hrun => ?_⟩
  · obtain ⟨r, request, -, hreq, hi, -, hm⟩ := hc.jobRequest hj hday2
    obtain ⟨hq, ha, hh⟩ := hm.queued hs
    obtain ⟨lock, hlock, hr⟩ := Option.map_eq_some_iff.1 hh
    exact ⟨r, request, lock, hreq, hi, hq, ha, hlock, hr⟩
  obtain ⟨st, hrow⟩ := hc.backed r request hreq
  obtain ⟨job, hj, hday2⟩ := Option.bind_eq_some_iff.1 hrow
  obtain ⟨-, rfl, -⟩ := day2Row_eq_some hday2
  refine ⟨job, hj, ?_⟩
  rcases (hc.fits r request _ hreq hrow).running hrun with h | h | ⟨h, -⟩
  · exact .inl h
  · exact .inr h
  · exact h.elim

/-! ### Steps -/

section Steps

variable {lost : ℕ → Prop} {cfg : Settings} {s s' : System} {a : Step}

theorem Coupled.step (hs : KindsApart s) (hc : Coupled lost s.coupling) (hfaces : a.facesDay2)
    (hspares : Day2Move.spares s (.step a hfaces)) (h : a.apply cfg s = .ok s') :
    Coupled lost s'.coupling := by
  cases a <;> try cases hfaces
  case tick =>
    cases h
    exact hc
  case administer op =>
    obtain ⟨-, h⟩ := ensure_bind_eq_ok.1 h
    obtain ⟨l, -, h⟩ := ofQuota_bind_eq_ok.1 h
    cases h
    exact hc
  case approveJob => exact hc.approveJob hspares h
  case cancelJob => exact hc.cancelJob h
  case createAction => exact hc.createAction h
  case approveAction => exact hc.approveAction h
  case cancelAction => exact hc.cancelAction h
  case claimDay2Job => exact hc.claimDay2Job h
  case failBeforeExecution => exact hc.failBeforeExecution hs h
  case checkDay2Context => exact hc.checkDay2Context h
  case submitDay2 | confirmDay2 =>
    obtain ⟨wk, -, h⟩ := need_bind_eq_ok.1 h
    obtain ⟨-, h⟩ := ensure_bind_eq_ok.1 h
    cases h
    exact hc
  case finishDay2 =>
    obtain ⟨wk, job, -, -, -, h⟩ := workerJob_bind_eq_ok.1 h
    obtain ⟨-, h⟩ := ensure_bind_eq_ok.1 h
    split at h
    · obtain ⟨-, h⟩ := ensure_bind_eq_ok.1 h
      obtain ⟨_, -, h⟩ := need_bind_eq_ok.1 h
      cases h
      exact hc
    · cases h
      exact hc
  case finalizeDay2 => exact hc.finalizeDay2 hs h
  case crashWorker =>
    obtain ⟨wk, -, h⟩ := need_bind_eq_ok.1 h
    cases h
    exact hc

theorem Coupled.reconcile {locked : List ℕ} (hc : Coupled (· ∉ locked) s.coupling)
    (ha : a.reconciles locked) (h : a.apply cfg s = .ok s') : Coupled (· ∉ locked) s'.coupling := by
  cases a <;> try cases ha
  case expireWaitingApproval => exact hc.expireWaitingApproval h
  case reconcileCancelledJob => exact hc.reconcileCancelledJob (of_decide_eq_true ha) h
  case reconcileStaleJob => exact hc.reconcileStaleJob (of_decide_eq_true ha) h
  case reconcileDeploymentJobStatus => exact hc.reconcileDeploymentJobStatus h
  case reconcilePersistedInventory => exact hc.reconcilePersistedInventory h

end Steps

/-! ### Passes -/

section Passes

variable {cfg : Settings} {s s' : System} {a : Step} {locked : List ℕ}

theorem reconciles_requests (ha : a.reconciles locked) (h : a.apply cfg s = .ok s') :
    s'.requests = s.requests := by
  cases a with
  | expireWaitingApproval | reconcileDeploymentJobStatus => exact (Step.keeps h).2.2.2.1
  | reconcileCancelledJob | reconcileStaleJob | reconcilePersistedInventory =>
    exact (Step.keeps h).2.2.1
  | _ => cases ha

/-- The reconcilers leave queued jobs alone. -/
theorem reconciles_queued (ha : a.reconciles locked) (h : a.apply cfg s = .ok s') {id : ℕ}
    {job : Job} (hj : s.jobs.find? id = some job) (hq : job.status = .queued) :
    ∃ job', s'.jobs.find? id = some job' ∧ job'.status = .queued := by
  have hch := (Step.effect h).jobChange id
  rw [hj] at hch
  generalize hr : s'.jobs.find? id = row at hch
  have hstatus : ¬job.stale s.now := by
    intro hstatus
    simp only [Job.stale, hq, Bool.and_eq_true, decide_eq_true_eq] at hstatus
    cases hstatus.1.1
  cases hch with
  | same => exact ⟨job, rfl, hq⟩
  | replaced _ _ _ _ hreason =>
    rcases hreason with ⟨_, -, h⟩ | ⟨_, _, _, _, rfl, -⟩
    · exact absurd h hstatus
    · cases ha
  | written hwrites =>
    cases hwrites with
    | kept _ hs => exact ⟨_, rfl, hs.trans hq⟩
    | markedCancelling ho | expiredApplied ho | expired ho => cases hq.symm.trans ho
    | abandoned ho =>
      rcases ho with ho | ho
      all_goals cases hq.symm.trans ho
    | lost h => exact absurd h hstatus
    | _ => cases ha

/-- What holds of the state that the reconcilers leave. -/
structure Reconciled (locked : List ℕ) (s s₁ : System) : Prop where
  kinds : KindsApart s₁
  coupled : Coupled (· ∉ locked) s₁.coupling
  requests : s₁.requests = s.requests
  queued : ∀ id job, s.jobs.find? id = some job → job.status = .queued
    → ∃ job', s₁.jobs.find? id = some job' ∧ job'.status = .queued

theorem Reconciled.step {s₂ : System} (hr : Reconciled locked s s₁) (ha : a.reconciles locked)
    (h : a.apply cfg s₁ = .ok s₂) : Reconciled locked s s₂ := by
  refine ⟨hr.kinds.step h, hr.coupled.reconcile ha h,
    (reconciles_requests ha h).trans hr.requests, fun id job hj hq => ?_⟩
  obtain ⟨job', hj', hq'⟩ := hr.queued id job hj hq
  exact reconciles_queued ha h hj' hq'

theorem Reconciled.run (hr : Reconciled locked s s₁) {steps : List Step}
    (hsteps : ∀ a ∈ steps, a.reconciles locked) : Reconciled locked s (systemRun cfg s₁ steps) := by
  induction steps generalizing s₁ with
  | nil => exact hr
  | cons a steps ih =>
    obtain ⟨ha, hsteps⟩ := List.forall_mem_cons.1 hsteps
    refine ih ?_ hsteps
    exact attempt_invariant hr fun s₂ h => hr.step ha h

/-- A request that is open after `reconcile_finished_jobs` looked at one of them. -/
theorem finish_spec (cfg : Settings) (s : System) (x : ℕ) :
    (Step.exec cfg s (.reconcileFinishedJob x)).jobs = s.jobs
      ∧ ∀ r request, (Step.exec cfg s (.reconcileFinishedJob x)).requests.find? r = some request
        → request.status.terminal = false → s.requests.find? r = some request
          ∧ (x = r → (s.jobs.find? request.jobId).any Job.endedDay2 = false) := by
  unfold Step.exec Transition.attempt
  split
  · next s' h =>
    -- the request ends
    simp only [Step.apply, reconcileFinishedJob, need_bind_eq_ok, ensure_bind_eq_ok] at h
    obtain ⟨old, ho, job, hj, -, -, h⟩ := h
    cases h
    refine ⟨rfl, fun r request hr hopen => ?_⟩
    rw [Table.find?_put] at hr
    split at hr
    · cases hr
      unfold ActionRequest.mirror at hopen
      dsimp only at hopen
      split at hopen
      all_goals cases hopen
    · next hn => exact ⟨hr, fun hx => absurd hx.symm hn⟩
  · next e h =>
    -- its job has not ended
    refine ⟨rfl, fun r request hr hopen => ⟨hr, ?_⟩⟩
    rintro rfl
    by_contra he
    obtain ⟨job, hj, he⟩ := (Option.any_eq_true _ _).1 (Bool.of_not_eq_false he)
    have he : (job.operation.isDay2 && (job.status = .failed || job.status = .cancelled))
        = true := he
    simp only [Step.apply, reconcileFinishedJob, hr, hj, need, ensure, hopen, he, bind,
      Except.bind, Bool.not_false, if_true] at h
    cases h

/-- Jobs stay as they are while requests follow; a request that is still open was open before, and
its job has not ended if it was among them. -/
theorem follow_spec (cfg : Settings) (s : System) (rows : List (ℕ × ActionRequest)) :
    (follow cfg s rows).jobs = s.jobs
      ∧ ∀ r request, (follow cfg s rows).requests.find? r = some request
        → request.status.terminal = false → s.requests.find? r = some request
          ∧ ∀ row ∈ rows, row.1 = r → (s.jobs.find? request.jobId).any Job.endedDay2 = false := by
  induction rows generalizing s with
  | nil => exact ⟨rfl, fun r request hr _ => ⟨hr, fun row hrow => absurd hrow List.not_mem_nil⟩⟩
  | cons first rows ih =>
    obtain ⟨hj, ho⟩ := ih (Step.exec cfg s (.reconcileFinishedJob first.1))
    obtain ⟨hf, hfirst⟩ := finish_spec cfg s first.1
    refine ⟨hj.trans hf, fun r request hr hs => ?_⟩
    obtain ⟨hr, hrows⟩ := ho r request hr hs
    obtain ⟨hr, hx⟩ := hfirst r request hr hs
    rw [hf] at hrows
    exact ⟨hr, List.forall_mem_cons.2 ⟨hx, hrows⟩⟩

theorem Coupled.follow {lost : ℕ → Prop} (hs : KindsApart s) (hc : Coupled lost s.coupling)
    (rows : List (ℕ × ActionRequest)) :
    KindsApart (follow cfg s rows) ∧ Coupled lost (follow cfg s rows).coupling := by
  induction rows generalizing s with
  | nil => exact ⟨hs, hc⟩
  | cons first rows ih =>
    have hf : KindsApart (Step.exec cfg s (.reconcileFinishedJob first.1))
        ∧ Coupled lost (Step.exec cfg s (.reconcileFinishedJob first.1)).coupling :=
      @attempt_invariant _ _ _ _ (fun s => KindsApart s ∧ Coupled lost s.coupling) _ _
        ⟨hs, hc⟩ fun s' h => ⟨hs.step h, hc.reconcileFinishedJob h⟩
    exact ih hf.1 hf.2

theorem Coupled.mono {lost lost' : ℕ → Prop} {c : Coupling} (hc : Coupled lost c)
    (h : ∀ id, lost id → lost' id) : Coupled lost' c := by
  refine ⟨hc.named, hc.backed, fun r request st hr hrow => ?_⟩
  have hm := hc.fits r request st hr hrow
  exact ⟨hm.queued, fun hrun => (hm.running hrun).imp_right (Or.imp_right (And.imp_left (h _)))⟩

/-- All requests that are to follow are taken, if there are not too many. -/
theorem finished_le (hr : Reconciled locked s s₁)
    (hfew : s.startedRequests.length ≤ finishedLimit) :
    (s₁.finished locked).length ≤ finishedLimit := by
  refine le_trans ?_ hfew
  rw [System.finished, List.length_mergeSort, hr.requests]
  refine List.Sublist.length_le (List.monotone_filter_right _ fun row hrow => ?_)
  simp only [Bool.and_eq_true] at hrow ⊢
  refine ⟨hrow.1.1, ?_⟩
  -- a job that has ended in the pass was not queued before it
  cases hj : s.jobs.find? row.2.jobId with
  | none => rfl
  | some job =>
    refine decide_eq_true fun hq => ?_
    obtain ⟨job₁, hj₁, hq₁⟩ := hr.queued _ job hj hq
    rw [hj₁] at hrow
    have he := (Bool.and_eq_true_iff.1 hrow.2).2
    rw [hq₁] at he
    cases he

/-- A pass keeps the tables coupled. -/
theorem Coupled.pass (hs : KindsApart s) (hc : Coupled (fun _ => False) s.coupling) (p : Day2Pass)
    (hfew : s.startedRequests.length ≤ finishedLimit) :
    KindsApart (p.exec cfg s) ∧ Coupled (fun _ => False) (p.exec cfg s).coupling := by
  have hr : Reconciled p.locked s (p.reconciled cfg s) := by
    refine Reconciled.run ⟨hs, hc.mono fun _ => False.elim, rfl, fun id job hj hq =>
      ⟨job, hj, hq⟩⟩ fun a ha => (List.mem_filter.1 ha).2
  obtain ⟨hkinds, hcoupled⟩ := @Coupled.follow cfg _ _ hr.kinds hr.coupled
    (((p.reconciled cfg s).finished p.locked).take finishedLimit)
  refine ⟨hkinds, hcoupled.named, hcoupled.backed, fun r request st hreq hrow => ?_⟩
  have hm := hcoupled.fits r request st hreq hrow
  refine ⟨hm.queued, fun hrun => (hm.running hrun).imp_right (Or.imp_right fun hlost => ?_)⟩
  -- the request was among those that follow, so it does not run
  have ho : request.status.terminal = false := by
    rw [hrun]
    rfl
  obtain ⟨hjobs, hstill⟩ := follow_spec cfg (p.reconciled cfg s)
    (((p.reconciled cfg s).finished p.locked).take finishedLimit)
  obtain ⟨hbefore, hrows⟩ := hstill r request hreq ho
  obtain ⟨job, hj, hday2Row⟩ := Option.bind_eq_some_iff.1 hrow
  rw [Day2Pass.exec, hjobs] at hj
  obtain ⟨hday2, rfl, -⟩ := day2Row_eq_some hday2Row
  have he : ((p.reconciled cfg s).jobs.find? request.jobId).any Job.endedDay2 := by
    rw [hj]
    show (job.operation.isDay2 && (job.status = .failed || job.status = .cancelled)) = true
    rw [hday2]
    simpa using hlost.2
  have hmem : (r, request) ∈ (p.reconciled cfg s).finished p.locked := by
    refine List.mem_mergeSort.2 (List.mem_filter.2 ⟨Table.mem_rows.2 hbefore, ?_⟩)
    simp only [ho, he, decide_eq_true hlost.1, Bool.not_false, Bool.and_self]
  rw [List.take_of_length_le (finished_le hr hfew)] at hrows
  rw [hrows _ hmem rfl] at he
  cases he

end Passes

/-! ### Runs -/

/-- No Day-2 action was requested yet; there may be deployments with their jobs and workers. -/
structure System.Unstarted (s : System) : Prop where
  kinds : KindsApart s
  job : ∀ id job, s.jobs.find? id = some job → job.operation.isDay2 = false
  request : ∀ r, s.requests.find? r = none

theorem System.Unstarted.coupled (hs : s.Unstarted) : Coupled (fun _ => False) s.coupling := by
  refine ⟨fun id row hrow => ?_, fun r request hr => ?_, fun r request _ hr => ?_⟩
  · obtain ⟨job, hj, hday2⟩ := Option.bind_eq_some_iff.1 hrow
    rw [Job.day2Row, hs.job id job hj] at hday2
    cases hday2
  · cases (hs.request r).symm.trans hr
  · cases (hs.request r).symm.trans hr

/-- In every state that the Day-2 service, its workers, the generic endpoints and the passes of the
dispatcher reach, a queued Day-2 job has an approved request that holds its resource, and a
request that runs has a job that runs; if the generic endpoint does not give the last approval of
a Day-2 job, and no pass has more than two hundred requests to look after. -/
theorem day2_coupling (cfg : Settings) {s : System} (hs : s.Unstarted) {moves : List Day2Move}
    (hspares : Transition.Guarded (fun s move => move.spares s) (Day2Move.exec cfg) s moves) :
    Day2Coupled (Transition.run (Day2Move.exec cfg) s moves) := by
  have hi : KindsApart (Transition.run (Day2Move.exec cfg) s moves)
      ∧ Coupled (fun _ => False) (Transition.run (Day2Move.exec cfg) s moves).coupling := by
    refine @guarded_invariant _ _ _ _
      (fun s => KindsApart s ∧ Coupled (fun _ => False) s.coupling)
      (fun s move hs ho => ?_) _ ⟨hs.kinds, hs.coupled⟩ _ hspares
    cases move with
    | step a hfaces =>
      exact @attempt_invariant _ _ _ _
        (fun s => KindsApart s ∧ Coupled (fun _ => False) s.coupling) _ _ hs
        fun s' h => ⟨hs.1.step h, hs.2.step hs.1 hfaces ho h⟩
    | pass p => exact Coupled.pass hs.1 hs.2 p (of_decide_eq_true ho)
  exact hi.2.day2Coupled

/-- A machine that is to be shut down, if the policies agree. -/
def demoShutdown : ActionInput where
  requestId := 7
  jobId := 20
  target := ⟨3, ⟨1, 1⟩, none, true⟩
  action := .other "shutdown"
  params := {}
  live := {}
  supportsCancel := true
  approvalRequired := false
  approvals := [{ approver := [.anyone] }]

theorem System.Unstarted.initial (scopes : Finset Scope) : (System.initial scopes).Unstarted where
  kinds := .initial scopes
  job _ _ h := by cases h
  request _ := rfl

/-- The action is approved and claimed, its worker is lost, and a pass gives the job up. -/
def demoLostWorker : List Day2Move :=
  [.step (.createAction demoShutdown) rfl, .step (.approveAction 7 {} true) rfl,
    .step (.claimDay2Job 0 20 true) rfl, .step (.crashWorker 0) rfl, .step (.tick 600) rfl,
    .pass ⟨[.reconcileStaleJob 20 21], []⟩]

theorem day2_coupling_lost :
    Day2Coupled (Transition.run (Day2Move.exec {}) (System.initial demoScopes) demoLostWorker) :=
  day2_coupling {} (.initial demoScopes) (by decide +kernel)

example : ((Transition.run (Day2Move.exec {}) (System.initial demoScopes)
    demoLostWorker).requests.find? 7).map (·.status) = some .failed := by
  decide +kernel

/-- The generic endpoint queues the job, and nobody has approved or locked anything for the
request. -/
theorem generic_approval_uncouples :
    ¬Day2Coupled (Transition.run (Day2Move.exec {}) (System.initial demoScopes)
      [.step (.createAction demoShutdown) rfl, .step (.approveJob 20 true) rfl]) := by
  intro h
  obtain ⟨job, hj, hday2, hs⟩ : ∃ job, (Transition.run (Day2Move.exec {})
      (System.initial demoScopes) [.step (.createAction demoShutdown) rfl,
        .step (.approveJob 20 true) rfl]).jobs.find? 20 = some job
      ∧ job.operation.isDay2 = true ∧ job.status = .queued := ⟨_, rfl, rfl, rfl⟩
  obtain ⟨r, request, lock, -, -, -, -, hlock, -⟩ := h.queued 20 job hj hday2 hs
  cases hlock

end CloudPortal
