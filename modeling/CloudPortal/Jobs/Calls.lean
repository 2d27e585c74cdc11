/-
CloudPortal/Jobs/Calls.lean

The calls of the quota service that a step makes, and the quota keys that it leaves in the
payloads of the jobs, said once for all steps.

`QuotaCall s a s'` lists the calls with the reason for which the step `a` from `s` to
`s'` makes them; the ledger changes by such calls only.  An invariant of the ledger
is then proved by cases on the call, not on the step.  `Tags` says that a payload keeps its
reservation id or gets the id of a reservation that is held.
-/
import CloudPortal.Jobs.System
import CloudPortal.Quota.Sparing

namespace CloudPortal

open RowStore Transition Relation

/-- `payload._quota_reservation_id`. -/
def Job.reservationId (job : Job) : Option ℕ := job.payload.quota.reservationId

/-- A destroy supersedes what is held for its deployment, other jobs nothing. -/
def Operation.superseding (operation : Operation) (id : ℕ) (subject : Subject) :
    Option (ℕ × Subject) :=
  if operation.destroys then some (id, subject) else none

/-- The destroy job that a step admits, and the subject whose reservations it supersedes. -/
def Step.supersedes (s : System) : Step → Option (ℕ × Subject)
  | .createJob input => do
      let d ← input.deploymentId
      let deployment ← s.deployments.find? d
      input.operation.superseding input.id (deployment.subject d)
  | .retryJob original id _ _ => do
      let job ← s.jobs.find? original
      let d ← job.deploymentId
      let deployment ← s.deployments.find? d
      job.operation.superseding id (deployment.subject d)
  | .approveJob id _ => do
      let job ← s.jobs.find? id
      let d ← job.deploymentId
      job.operation.superseding id ⟨job.scope, .deployment, d⟩
  | .materializeScheduledJob id schedule => do
      let deployment ← s.deployments.find? schedule.deploymentId
      schedule.operation.superseding id (deployment.subject schedule.deploymentId)
  | .admitClaimed w => do
      let worker ← s.workers.find? w
      let job ← s.jobs.find? worker.jobId
      let d ← job.deploymentId
      job.operation.superseding worker.jobId ⟨job.scope, .deployment, d⟩
  | .finalizeJob w recoveryId _ => do
      let worker ← s.workers.find? w
      let job ← s.jobs.find? worker.jobId
      let (d, deployment) ← s.ownedDeployment worker.jobId job
      -- the recovery job destroys what the failed job has left behind
      if worker.wantsRecovery .failed job then some (recoveryId, deployment.subject d) else none
  | _ => none

/-- The deployment whose machine was looked for, and whether it was found. -/
def Step.observes : Step → Option (ℕ × Bool)
  | .reconcileVm d present => some (d, present)
  | .reconcilePersistedInventory d => some (d, true)
  | _ => none

/-- The deployment whose machine is known to be gone. -/
def Step.confirmsAbsent (s : System) : Step → Option ℕ
  | .removeConfirmedMissingVm d _ => some d
  | .finalizeJob w _ _ => do
      let worker ← s.workers.find? w
      let job ← s.jobs.find? worker.jobId
      let (d, _) ← s.ownedDeployment worker.jobId job
      if worker.rollbackDestroyed || job.source = .recovery then some d else none
  | _ => none

/-- The job that goes through quota admission once more. -/
def Step.readmits (s : System) : Step → Option ℕ
  | .approveJob id _ => some id
  | .admitClaimed w => (s.workers.find? w).map (·.jobId)
  | _ => none

/-- The job whose reservation a step commits. -/
def Step.commitsFor (s : System) : Step → Option ℕ
  | .commitInBody w => (s.workers.find? w).map (·.jobId)
  | .finalizeJob w _ _ => do
      let worker ← s.workers.find? w
      if worker.phase = .finishing .successful then some worker.jobId else none
  | .finalizeDay2 w _ _ => do
      let worker ← s.workers.find? w
      if worker.confirmed then some worker.jobId else none
  | _ => none

/-- The job whose reservation a step releases. -/
def Step.releasesFor (s : System) : Step → Option ℕ
  | .cancelJob id => some id
  | .cancelAction r => (s.requests.find? r).map (·.jobId)
  | .failBeforeExecution w _ => (s.workers.find? w).map (·.jobId)
  | .releaseAfterPause w => do
      let worker ← s.workers.find? w
      if worker.submitted then none else some worker.jobId
  | .finalizeJob w _ _ => do
      let worker ← s.workers.find? w
      if worker.submitted || worker.phase = .finishing .successful then none else some worker.jobId
  | .finalizeDay2 w _ _ => do
      let worker ← s.workers.find? w
      if worker.submitted || worker.confirmed then none else some worker.jobId
  | _ => none

/-- The deployment that the final transaction of a worker accounts as gone. -/
def Step.accountsAbsent (s : System) : Step → Option ℕ
  | .finalizeJob w _ _ => do
      let worker ← s.workers.find? w
      let job ← s.jobs.find? worker.jobId
      let (d, deployment) ← s.ownedDeployment worker.jobId job
      match worker.phase with
      | .finishing outcome =>
        if (worker.leave outcome job deployment).status = .destroyed
            && (worker.rollbackDestroyed || job.source = .recovery) then some d
        else none
      | _ => none
  | _ => none

/-- The row after a quota admission: a job that has not ended, unless it is one that a
worker has claimed before. -/
def Admits (s : System) (a : Step) (s' : System) (id : ℕ) : Prop :=
  ∃ job', s'.jobs.find? id = some job' ∧ (job'.status.terminal = false
    ∨ ∃ w worker, a = .admitClaimed w ∧ s.workers.find? w = some worker ∧ worker.jobId = id)

/-- The job has ended after the step, or its worker gives the reservation back after a pause. -/
def Closes (s : System) (a : Step) (s' : System) (id : ℕ) : Prop :=
  (∃ job', s'.jobs.find? id = some job' ∧ job'.status.live = false)
    ∨ ∃ w worker, a = .releaseAfterPause w ∧ s.workers.find? w = some worker
      ∧ worker.submitted = false ∧ worker.jobId = id

/-- One call of the quota service in a step from `s` to `s'`. -/
inductive QuotaCall (s : System) (a : Step) (s' : System) (l : Ledger) : Ledger → Prop
  | relimits {l' : Ledger} (h : Relimit l l') : QuotaCall s a s' l l'
  | prepares {job : JobRef} {shape : Option DeploymentShape} {tag tag' : QuotaTag} {l' : Ledger}
      (hjob : Admits s a s' job.id)
      (hsupersedes : ∀ d, shape = some d → job.operation.destroys
        → a.supersedes s = some (job.id, job.subject d))
      (h : PreparesJob l job tag shape tag' l')
      (hnew : s.jobs.find? job.id = none ∨ a.readmits s = some job.id) : QuotaCall s a s' l l'
  | preparesDay2 {id : ℕ} {target : Option InventoryRef} {action : Day2Kind} {params : Day2Params}
      {live : Day2Live} {tag tag' : QuotaTag} {l' : Ledger} (hjob : Admits s a s' id)
      (h : PreparesDay2 l id target action params live tag tag' l') : QuotaCall s a s' l l'
  | commits {id r : ℕ} {job : Job} {l' : Ledger} (hl : l = s.ledger)
      (ha : a.commitsFor s = some id) (hjob : s.jobs.find? id = some job)
      (hr : jobReservation l id job.payload.quota = some r) (h : Commits l r l') :
      QuotaCall s a s' l l'
  | releases {id r : ℕ} {job : Job} {l' : Ledger} (hl : l = s.ledger)
      (ha : a.releasesFor s = some id) (hjob : s.jobs.find? id = some job)
      (hr : jobReservation l id job.payload.quota = some r) (h : Releases l r l')
      (hend : Closes s a s' id) : QuotaCall s a s' l l'
  | resolves {r : ℕ} {outcome : String} {l' : Ledger} (hl : l = s.ledger)
      (ha : a = .administer (.reconcile r outcome))
      (h : outcome = "commit" ∧ Commits l r l' ∨ outcome = "release" ∧ Releases l r l') :
      QuotaCall s a s' l l'
  | marks {r : ℕ} {l' : Ledger} (h : markUncertain l r = .ok l') : QuotaCall s a s' l l'
  | observes {d : ℕ} {present : Bool} {deployment : Deployment} {l' : Ledger} (hl : l = s.ledger)
      (ha : a.observes = some (d, present)) (hfind : s.deployments.find? d = some deployment)
      (h : reconcileTerraformPresence l deployment.scope d present = .ok l') : QuotaCall s a s' l l'
  | removes {d : ℕ} {deployment : Deployment} {purge : Bool} {l' : Ledger}
      (ha : a = .removeConfirmedMissingVm d purge) (hfind : s.deployments.find? d = some deployment)
      (h : reconcileTerraformPresence l deployment.scope d false = .ok l') : QuotaCall s a s' l l'
  | accounts {d : ℕ} {deployment : Deployment} {key : String} {l' : Ledger}
      (ha : a.accountsAbsent s = some d ∨ ∃ purge, a = .removeConfirmedMissingVm d purge)
      (hfind : s.deployments.find? d = some deployment)
      (hkey : ∀ id, truncateKey key ≠ jobKey id)
      (h : accountConfirmedAbsent l (deployment.subject d) key = .ok l') : QuotaCall s a s' l l'

/-- The calls of a step. -/
def Calls (s : System) (a : Step) (s' : System) : Prop :=
  ReflTransGen (QuotaCall s a s') s.ledger s'.ledger

/-- The admission of a job asks for a change of what its deployment has. -/
def System.asksForChange (s : System) (id : ℕ) : Bool :=
  (s.jobs.find? id).any fun job => (s.deploymentOf job).any fun d =>
    job.operation.mutatingTerraform
      && match jobTarget s.ledger (job.ref id) (d.2.shape d.1) job.payload.quota with
        | .ok (some target) => target ≠ s.ledger.allocation ((job.ref id).subject (d.2.shape d.1))
        | _ => true

/-- The quota keys in the payload of a job after a step: the id of a new job is a UUID, and a
job that is admitted again keeps its reservation only if nothing changes. -/
def Tagged (s : System) (a : Step) (s' : System) (id : ℕ) (job' : Job) : Prop :=
  (s.jobs.find? id = none → id < 2 ^ 128) ∧ ∀ r, job'.reservationId = some r
    → s'.ledger.Holds (jobKey id) r ∨ ∃ job, s.jobs.find? id = some job ∧ job.reservationId = some r
      ∧ (a.readmits s = some id → job'.status.live → s.asksForChange id = false)

/-- The quota keys of all jobs. -/
def Tags (s : System) (a : Step) (s' : System) : Prop :=
  ∀ id job', s'.jobs.find? id = some job' → Tagged s a s' id job'

/-- The reservation is not in the status `reserved`. -/
def Ledger.NotReserved (l : Ledger) (r : ℕ) : Prop :=
  ∀ row, l.reservations.find? r = some row → row.status ≠ .reserved

/-- The job that a step ends without a look at its reservation. -/
def Step.endsUnsettled (s : System) : Step → Option ℕ
  | .expireWaitingApproval id _ => some id
  -- a Day-2 job whose request is missing, or is the request of another job
  | .claimDay2Job _ id _ => do
      let job ← s.jobs.find? id
      if (s.jobRequest job).isNone then some id else none
  | .failBeforeExecution w _ => do
      let worker ← s.workers.find? w
      let job ← s.jobs.find? worker.jobId
      if (s.jobRequest job).any fun r => r.2.jobId = worker.jobId then none else some worker.jobId
  | _ => none

/-- What becomes of the reservation of a job in a step that ends the job. -/
def EndsSettled (s : System) (a : Step) (s' : System) (id : ℕ) (job job' : Job) : Prop :=
  job.status.terminal = false → job'.status.terminal → a.endsUnsettled s = some id
    ∨ ∀ r row', jobReservation s.ledger id job.payload.quota = some r
      → s'.ledger.reservations.find? r = some row' → row'.requestKey = jobKey id
      → row'.status ≠ .reserved

/-- Jobs that end in the step have no reserved reservation afterwards. -/
def Settles (s : System) (a : Step) (s' : System) : Prop :=
  ∀ id job job', s.jobs.find? id = some job → s'.jobs.find? id = some job'
    → EndsSettled s a s' id job job'

theorem jobKey_injective : Function.Injective jobKey := by
  intro a b h
  have hlist := congrArg String.toList h
  simp only [jobKey, String.toList_append, List.append_cancel_left_eq] at hlist
  have hdigits : Nat.toDigits 10 a = Nat.toDigits 10 b := by
    rw [← Nat.toList_repr, ← Nat.toList_repr]
    exact hlist
  have hvalue := congrArg (fun digits => Nat.ofDigitChars 10 digits 0) hdigits
  simpa only [Nat.ofDigitChars_ten_toDigits] using hvalue

/-- The key of a job is not cut off: a UUID has at most 39 decimal digits. -/
theorem truncateKey_jobKey {id : ℕ} (h : id < 2 ^ 128) : truncateKey (jobKey id) = jobKey id := by
  have hdigits : (Nat.toDigits 10 id).length ≤ 39 :=
    (Nat.length_toDigits_le_iff (by decide) (by decide)).2 (h.trans (by decide))
  have hlist : (jobKey id).toList = "job:".toList ++ Nat.toDigits 10 id := by
    rw [jobKey, String.toList_append, ← Nat.toList_repr]
    rfl
  have hlength : (jobKey id).toList.length ≤ 128 := by
    rw [hlist, List.length_append]
    exact (Nat.add_le_add_left hdigits _).trans (by decide)
  rw [truncateKey, List.take_of_length_le hlength, String.ofList_toList]

/-- A key that is not the key of a job. -/
theorem truncateKey_ne_jobKey {word : String} (id : ℕ) (h : word.toList.head? ≠ some 'j')
    (hn : word.toList ≠ []) (x : ℕ) : truncateKey (word ++ toString id) ≠ jobKey x := by
  intro he
  have hhead := congrArg (fun key : String => key.toList.head?) he
  have hleft : (truncateKey (word ++ toString id)).toList.head? = word.toList.head? := by
    obtain ⟨c, cs, hcs⟩ := List.exists_cons_of_ne_nil hn
    simp [truncateKey, String.toList_append, hcs]
  have hright : (jobKey x).toList.head? = some 'j' := by
    rw [jobKey, String.toList_append]
    rfl
  exact h (hleft.symm.trans (hhead.trans hright))

section NotReserved

variable {l l' : Ledger} {r : ℕ} {row' : Reservation}

theorem Ledger.NotReserved.of_write {ev : LedgerEvent} (h : row'.status ≠ .reserved) :
    (l.write r row' ev).NotReserved r := by
  intro row hr
  have hs : (l.write r row' ev).reservations.find? r = some row' := Table.find?_put_self ..
  cases hs.symm.trans hr
  exact h

theorem Ledger.NotReserved.of_idle
    (h : ∀ row, l.reservations.find? r = some row → row.status.active = false) : l.NotReserved r := by
  intro row hr hres
  have hi := h row hr
  rw [hres] at hi
  cases hi

theorem SettledAs.notReserved {st : ReservationStatus} (h : SettledAs l r st l')
    (hs : st ≠ .reserved) : l'.NotReserved r := by
  rcases h with ⟨rfl, hi⟩ | ⟨row, -, -, -, hp⟩
  · exact .of_idle hi
  intro row' hr'
  rw [hp, Table.find?_put_self] at hr'
  cases hr'
  exact hs

theorem markUncertain_notReserved (h : markUncertain l r = .ok l') : l'.NotReserved r := by
  rcases markUncertain_spec h with ⟨rfl, hi⟩ | ⟨row, -, -, rfl⟩
  · exact .of_idle hi
  · exact .of_write nofun

end NotReserved

section Build

variable {s s' : System} {a : Step} {id : ℕ} {job job' : Job} {l' : Ledger}

theorem Calls.of_eq (h : s'.ledger = s.ledger) : Calls s a s' := by
  rw [Calls, h]

/-- The calls on the reservation of a job; afterwards it is not reserved. -/
theorem calls_commit (ha : a.commitsFor s = some id) (hjob : s.jobs.find? id = some job)
    (h : commitJobReservation s.ledger id job.payload.quota = .ok l') :
    ReflTransGen (QuotaCall s a s') s.ledger l'
      ∧ ∀ r, jobReservation s.ledger id job.payload.quota = some r → l'.NotReserved r := by
  unfold commitJobReservation at h
  split at h
  · next r hr =>
    have hs := commitReservation_spec h
    exact ⟨.single (.commits rfl ha hjob hr hs),
      by rw [hr]; rintro _ ⟨⟩; exact hs.settledAs.notReserved nofun⟩
  · next hr =>
    cases h
    exact ⟨.refl, by rw [hr]; nofun⟩

theorem calls_release (ha : a.releasesFor s = some id) (hjob : s.jobs.find? id = some job)
    (h : releaseJobReservation s.ledger id job.payload.quota = .ok l') (he : Closes s a s' id) :
    ReflTransGen (QuotaCall s a s') s.ledger l'
      ∧ ∀ r, jobReservation s.ledger id job.payload.quota = some r → l'.NotReserved r := by
  unfold releaseJobReservation at h
  split at h
  · next r hr =>
    have hs := releaseReservation_spec h
    exact ⟨.single (.releases rfl ha hjob hr hs he),
      by rw [hr]; rintro _ ⟨⟩; exact hs.settledAs.notReserved nofun⟩
  · next hr =>
    cases h
    exact ⟨.refl, by rw [hr]; nofun⟩

theorem calls_mark {tag : QuotaTag} (h : markJobReservationUncertain s.ledger id tag = .ok l') :
    ReflTransGen (QuotaCall s a s') s.ledger l'
      ∧ ∀ r, jobReservation s.ledger id tag = some r → l'.NotReserved r := by
  unfold markJobReservationUncertain at h
  split at h
  · next r hr =>
    exact ⟨.single (.marks h), by rw [hr]; rintro _ ⟨⟩; exact markUncertain_notReserved h⟩
  next hr =>
  cases h
  exact ⟨.refl, by rw [hr]; nofun⟩

theorem EndsSettled.kept (h : job'.status.terminal → job.status.terminal) :
    EndsSettled s a s' id job job' := by
  intro ho he
  rw [h he] at ho
  cases ho

theorem EndsSettled.goesOn (h : job'.status.terminal = false) : EndsSettled s a s' id job job' :=
  .kept fun he => by rw [h] at he; cases he

theorem EndsSettled.settled
    (h : ∀ r, jobReservation s.ledger id job.payload.quota = some r → s'.ledger.NotReserved r) :
    EndsSettled s a s' id job job' :=
  fun _ _ => .inr fun r row' hr hr' _ => h r hr row' hr'

/-- What follows the settlement of the reservation arms other keys. -/
theorem EndsSettled.armed {l : Ledger} {keys : String → Prop}
    (h : ∀ r, jobReservation s.ledger id job.payload.quota = some r → l.NotReserved r)
    (harms : Arms l s'.ledger keys) (hn : ¬keys (jobKey id)) :
    EndsSettled s a s' id job job' := by
  refine fun _ _ => .inr fun r row' hr hr' hk hres => ?_
  rcases harms.rows r row' hr' with harmed | ⟨row, hrow, -, hs⟩
  · rw [hk] at harmed
    exact hn harmed
  · exact h r hr row hrow (hs hres)

theorem Settles.of_eq (hjobs : s'.jobs = s.jobs) : Settles s a s' := by
  intro x job job' hjob hj'
  rw [hjobs] at hj'
  cases hjob.symm.trans hj'
  exact .kept fun he => he

section

variable (hjobs : s'.jobs = s.jobs.put id (job'.touch s.now))
include hjobs

/-- One job row is written. -/
theorem Settles.of_put (h : ∀ job, s.jobs.find? id = some job → EndsSettled s a s' id job job') :
    Settles s a s' := by
  intro x job row hjob hr
  rw [hjobs, Table.find?_put] at hr
  split at hr
  · next hx =>
    cases hr
    rw [hx] at hjob ⊢
    exact h job hjob
  · cases hjob.symm.trans hr
    exact .kept fun he => he

theorem Settles.of_write (hjob : s.jobs.find? id = some job) (h : EndsSettled s a s' id job job') :
    Settles s a s' := by
  refine .of_put hjobs fun row hr => ?_
  cases hjob.symm.trans hr
  exact h

theorem Settles.of_create (hf : s.jobs.find? id = none) : Settles s a s' :=
  .of_put hjobs fun _ hjob => nomatch hf.symm.trans hjob

end

theorem Tagged.kept (hjob : s.jobs.find? id = some job)
    (hq : job'.payload.quota = job.payload.quota)
    (ha : a.readmits s = some id → job'.status.live → s.asksForChange id = false) :
    Tagged s a s' id job' := by
  constructor
  · intro hn
    rw [hjob] at hn
    cases hn
  · intro r hr
    refine .inr ⟨job, hjob, ?_, ha⟩
    rwa [Job.reservationId, ← hq]

theorem Tagged.new (hi : id < 2 ^ 128)
    (hh : ∀ r, job'.reservationId = some r → s'.ledger.Holds (jobKey id) r) :
    Tagged s a s' id job' :=
  ⟨fun _ => hi, fun r hr => .inl (hh r hr)⟩

theorem Tags.of_eq (hjobs : s'.jobs = s.jobs) (ha : a.readmits s = none) : Tags s a s' := by
  intro x job' hj'
  rw [hjobs] at hj'
  exact .kept hj' rfl fun hx => nomatch ha.symm.trans hx

section

variable (hjobs : s'.jobs = s.jobs.put id (job'.touch s.now))
include hjobs

/-- One job row is written. -/
theorem Tags.of_put (ha : ∀ x, a.readmits s = some x → x = id)
    (h : Tagged s a s' id (job'.touch s.now)) : Tags s a s' := by
  intro x row hr
  rw [hjobs, Table.find?_put] at hr
  split at hr
  · next hx =>
    cases hr
    rw [hx]
    exact h
  · next hx => exact .kept hr rfl fun hread => absurd (ha x hread) hx

/-- The row of a job is written, its quota keys are kept. -/
theorem Tags.of_write (hjob : s.jobs.find? id = some job)
    (hq : job'.payload.quota = job.payload.quota) (ha : a.readmits s = none) : Tags s a s' :=
  .of_put hjobs (fun _ hx => nomatch ha.symm.trans hx)
    (.kept hjob hq fun hx => nomatch ha.symm.trans hx)

/-- A new job is written. -/
theorem Tags.of_create (hi : id < 2 ^ 128) (ha : a.readmits s = none)
    (hh : ∀ r, job'.reservationId = some r → s'.ledger.Holds (jobKey id) r) : Tags s a s' :=
  .of_put hjobs (fun _ hx => nomatch ha.symm.trans hx) (.new hi hh)

end

theorem find?_put_put {t : Table ℕ Job} {x y z : ℕ} {u v : Job} :
    ((t.put y u).put z v).find? x = if x = z then some v else if x = y then some u else t.find? x := by
  rw [Table.find?_put, Table.find?_put]

section

variable {newId : ℕ} {new : Job}
  (hjobs : s'.jobs = (s.jobs.put id (job'.touch s.now)).put newId (new.touch s.now))
  (hjob : s.jobs.find? id = some job)
include hjobs hjob

/-- The row of a job is written, and a successor is created. -/
theorem Tags.of_takeover (hq : job'.payload.quota = job.payload.quota)
    (hn : newId < 2 ^ 128) (ha : a.readmits s = none)
    (hh : ∀ r, new.reservationId = some r → s'.ledger.Holds (jobKey newId) r) :
    Tags s a s' := by
  intro x row hr
  rw [hjobs, find?_put_put] at hr
  split at hr
  · next hx =>
    cases hr
    rw [hx]
    exact .new hn hh
  split at hr
  · next hx =>
    cases hr
    rw [hx]
    exact .kept hjob hq (by simp [ha])
  · exact .kept hr rfl (by simp [ha])

theorem Settles.of_takeover (hf : s.jobs.find? newId = none)
    (h : EndsSettled s a s' id job job') : Settles s a s' := by
  intro x old row ho hr
  rw [hjobs, find?_put_put] at hr
  split at hr
  · next hx =>
    rw [hx, hf] at ho
    cases ho
  split at hr
  · next hx =>
    cases hr
    subst hx
    cases hjob.symm.trans ho
    exact h
  · cases ho.symm.trans hr
    exact .kept fun he => he

end

end Build

end CloudPortal
