/-
CloudPortal/Jobs/Reservations.lean

Live jobs own live reservations: the reservation that a queued or running job carries in its
payload is not released, so its commit does not fail for that reason.

`Frees s a s'` lists the reasons for which a step releases a reservation: its job ends in
the same transaction, its job has paused, a destroy supersedes it, the machine of its
deployment was looked for, or was found to be gone, or an operator has settled it.
`Step.quotaEffect` says that no other reservation is released; it follows from the calls of the
step.  The reservation of a job has the id of the job in its key, so that two jobs never carry
the same one.  What remains are the six reasons of `Frees`, and the steps that queue a job again
without a look at its reservation; `Step.sparesLiveJobs` rules out that one of them meets a live
job.
-/
import CloudPortal.Jobs.Finality

namespace CloudPortal

open RowStore Transition Relation

/-- Why a step from `s` to `s'` releases a reservation. -/
inductive Frees (s : System) (a : Step) (s' : System) (r : ℕ) : Prop
  | ended {id : ℕ} {job job' : Job} (hjob : s.jobs.find? id = some job)
      (hr : jobReservation s.ledger id job.payload.quota = some r)
      (hjob' : s'.jobs.find? id = some job') (hlive : job'.status.live = false)
  | paused {w : ℕ} {worker : Worker} {job : Job} (ha : a = .releaseAfterPause w)
      (hwk : s.workers.find? w = some worker) (hsubm : worker.submitted = false)
      (hjob : s.jobs.find? worker.jobId = some job)
      (hr : jobReservation s.ledger worker.jobId job.payload.quota = some r)
  | superseded {id : ℕ} {subject : Subject} (ha : a.supersedes s = some (id, subject))
      (hnew : s.jobs.find? id = none ∨ a.readmits s = some id)
      (hheld : s.ledger.HeldFor subject r)
  | observed {d : ℕ} {present : Bool} {deployment : Deployment} {row : Reservation}
      (ha : a.observes = some (d, present)) (hfind : s.deployments.find? d = some deployment)
      (hrow : s.ledger.reservations.find? r = some row) (hsub : row.subject = deployment.subject d)
      (hact : row.status.active)
      (hfrees : presenceFrees present (s.ledger.allocations.find? (deployment.subject d)).isSome row)
  | absent {d : ℕ} {deployment : Deployment} (ha : a.confirmsAbsent s = some d)
      (hfind : s.deployments.find? d = some deployment)
      (hheld : s.ledger.HeldFor (deployment.subject d) r)
  | resolved (ha : a = .administer (.reconcile r "release"))

/-- What a step does to reservations and to the jobs that carry them. -/
structure QuotaEffect (s : System) (a : Step) (s' : System) : Prop where
  spares : Spares s.ledger s'.ledger (Frees s a s')
  tags : Tags s a s'

variable {cfg : Settings} {s s' : System} {a : Step} {l l' : Ledger} {d : ℕ}

/-- The final transaction accounts only for machines that it knows to be gone. -/
theorem Step.confirmsAbsent_of_accounts (h : a.accountsAbsent s = some d) :
    a.confirmsAbsent s = some d := by
  cases a with
  | finalizeJob w recoveryId message =>
    simp only [Step.accountsAbsent, Option.bind_eq_bind, Option.bind_eq_some_iff] at h
    obtain ⟨wk, hw, job, hj, ⟨x, dep⟩, ho, h⟩ := h
    dsimp only at h
    split at h
    · split at h
      · next hg =>
        rw [Bool.and_eq_true] at hg
        cases h
        simp only [Step.confirmsAbsent, Option.bind_eq_bind, hw, hj, ho, Option.bind_some]
        exact if_pos hg.2
      · cases h
    · cases h
  | _ => cases h

/-- Every call releases for one of the reasons. -/
theorem QuotaCall.spares (h : QuotaCall s a s' l l') (hl : Spares s.ledger l (Frees s a s')) :
    Spares s.ledger l' (Frees s a s') := by
  have habsent {d : ℕ} {dep : Deployment} (ha : a.confirmsAbsent s = some d)
      (hf : s.deployments.find? d = some dep) (r : ℕ)
      (hh : s.ledger.HeldFor (dep.subject d) r) : Frees s a s' r := .absent ha hf hh
  -- calls that release nothing, and calls that release for one subject
  have hn (h : Acts (fun _ row => row.status ≠ .released) l l') :
      Spares s.ledger l' (Frees s a s') :=
    hl.trans (h.spares fun _ _ hne hrelease => absurd hrelease hne)
  have hforward {sub : Subject}
      (h : Acts (fun r row => row.status = .released → l.HeldFor sub r) l l')
      (hfreed : ∀ r, s.ledger.HeldFor sub r → Frees s a s' r) :
      Spares s.ledger l' (Frees s a s') := 
      (hl.trans_heldFor (h.spares fun _ _ => id)).mono fun r => Or.rec id (hfreed r)
  cases h with
  | relimits h => exact hn h.acts
  | @prepares job shape tag tag' l' _ hsupersedes h hnew =>
    by_cases ho : ∃ d, shape = some d ∧ job.operation.destroys
    · obtain ⟨d, rfl, ho⟩ := ho
      refine hforward (h.acts (fun _ r row hshape _ hrow hsub hact _ => ?_) fun r row _ hnew he =>
        nomatch hnew.symm.trans he) fun r => .superseded (hsupersedes d rfl ho) hnew
      cases hshape
      exact ⟨row, hrow, hsub, hact⟩
    · exact hn (h.acts (fun d _ _ hshape hd => absurd ⟨d, hshape, hd⟩ ho)
        fun _ _ _ hnew => by rw [hnew]; nofun)
  | preparesDay2 _ h => exact hn (h.acts fun _ _ _ hnew => by rw [hnew]; nofun)
  | commits _ _ _ _ h => exact hn (h.settledAs.acts fun _ _ _ => nofun)
  | @releases _ r _ _ hs _ hj hr h he =>
    subst hs
    refine (h.settledAs.acts (w := fun x _ => x = r) fun _ _ _ => rfl).spares ?_
    rintro _ - rfl -
    rcases he with ⟨job', hj', hlive⟩ | ⟨w, wk, ha, hw, hsubm, rfl⟩
    · exact .ended hj hr hj' hlive
    · exact .paused ha hw hsubm hj hr
  | @resolves r _ _ hs ha h =>
    rcases h with ⟨-, h⟩ | ⟨rfl, h⟩
    · exact hn (h.settledAs.acts fun _ _ _ => nofun)
    · subst hs
      refine (h.settledAs.acts (w := fun x _ => x = r) fun _ _ _ => rfl).spares ?_
      rintro _ - rfl -
      exact .resolved ha
  | marks h => exact hn (markUncertain_acts h fun _ _ => nofun)
  | observes hs ha hf h =>
    subst hs
    refine (reconcileTerraformPresence_acts h fun r row hrow hsub hact => ?_).spares
      (w := fun r row => row.status = .released → Frees s a s' r) fun _ _ => id
    exact ⟨nofun, fun hfrees _ => .observed ha hf hrow hsub hact hfrees⟩
  | removes ha hf h =>
    subst ha
    refine hforward (reconcileTerraformPresence_acts h fun r row hrow hsub hact => ?_) (habsent rfl hf)
    exact ⟨nofun, fun _ _ => ⟨row, hrow, hsub, hact⟩⟩
  | accounts ha hf _ h =>
    refine hforward (accountConfirmedAbsent_acts h (fun r row hrow hsub hact _ =>
      ⟨row, hrow, hsub, hact⟩) fun r row _ _ hnew he => ?_) (habsent ?_ hf)
    · rw [he] at hnew
      rcases hnew with hnew | hnew <;> cases hnew
    · rcases ha with ha | ⟨purge, rfl⟩
      · exact Step.confirmsAbsent_of_accounts ha
      · rfl

theorem spares_of_calls (h : ReflTransGen (QuotaCall s a s') s.ledger l) :
    Spares s.ledger l (Frees s a s') := by
  induction h with
  | refl => exact .of_eq rfl
  | tail _ hcall ih => exact hcall.spares ih

/-- Every step has such an effect. -/
theorem Step.quotaEffect (h : a.apply cfg s = .ok s') : QuotaEffect s a s' :=
  ⟨spares_of_calls (Step.calls h), (Step.spec h).tags⟩

section Live

/-! ### The commit of a reservation that is not released -/

/-- Errors other than `QUOTA_RESERVATION_RELEASED`. -/
def QuotaError.Other (e : QuotaError) : Prop := e.code ≠ .quotaReservationReleased

theorem valuesFrom_errors (signed : Bool) (m : Mapping) (res : Amounts) :
    ErrorsMeet QuotaError.Other (valuesFrom signed m res) := by
  induction m generalizing res with
  | nil => exact .ok _
  | cons ent rest ih =>
    obtain ⟨key, raw⟩ := ent
    refine .bind ?_ fun d => .bind ?_ fun value => ih _
    · unfold dimension
      split
      · exact .ok _
      · exact .error nofun
    unfold entryValue
    split
    · exact .error nofun
    · exact .error nofun
    split
    · exact .error nofun
    · exact .ok _

theorem updateUsage_errors {scope : Scope}
    {body : Dimension → Usage → Usage → Except QuotaError (Usage × Usage)}
    (hbody : ∀ d tenant proj, ErrorsMeet QuotaError.Other (body d tenant proj))
    (ds : List Dimension) (l : Ledger) :
    ErrorsMeet QuotaError.Other (updateUsage scope body ds l) := by
  induction ds generalizing l with
  | nil => exact .ok _
  | cons d ds ih => exact .bind (hbody d _ _) fun rows => ih _

theorem commitUsage_errors (ds cur : Amounts) (d : Dimension) (tenant proj : Usage) :
    ErrorsMeet QuotaError.Other (commitUsage ds cur d tenant proj) := by
  unfold commitUsage
  split
  · exact .error nofun
  split
  · exact .error nofun
  · exact .ok _

theorem commitActive_errors (l : Ledger) (id : ℕ) (row : Reservation) :
    ErrorsMeet QuotaError.Other (commitActive l id row) :=
  .bind (valuesFrom_errors false _ 0) fun cur =>
    .bind (updateUsage_errors (commitUsage_errors row.deltas cur) _ l) fun _ => .ok _

variable {row : Reservation} {s : System}

theorem commitReservation_errors {l : Ledger} {id : ℕ} (hrow : l.reservations.find? id = some row)
    (hs : row.status ≠ .released) : ErrorsMeet QuotaError.Other (commitReservation l id) := by
  unfold commitReservation
  rw [hrow]
  refine .bind ?_ fun _ => ?_
  · unfold lockScope
    split
    · exact .ok _
    · exact .error nofun
  · split
    · exact .ok _
    · next hreleased => exact absurd hreleased hs
    all_goals exact commitActive_errors l id row

/-! ### What a step must find -/

/-- An active reservation of the subject. -/
def Reservation.heldFor (subject : Subject) (row : Reservation) : Bool :=
  row.subject = subject && row.status.active

/-- The job carries a reservation that meets a condition. -/
def System.carries (s : System) (id : ℕ) (p : Reservation → Bool) : Bool :=
  (s.jobs.find? id).any fun job => job.reservationId.any fun r =>
    (s.ledger.reservations.find? r).any p

/-- A queued or running job carries a reservation that meets a condition. -/
def System.liveJobCarries (s : System) (p : ℕ → Reservation → Bool) : Bool :=
  s.jobs.rows.any fun row => row.2.status.live && row.2.reservationId.any fun r =>
    (s.ledger.reservations.find? r).any (p row.1)

/-- The job that a step may queue whatever its status was. -/
def Step.revives (s : System) : Step → Option ℕ
  | .approveJob id _ => some id
  | .deferForProvider w | .deferBlueprintDelete w => (s.workers.find? w).map (·.jobId)
  | .approveAction r _ _ => (s.requests.find? r).map (·.jobId)
  | _ => none

/-- The job that the final transaction of a worker ends. -/
def Step.finishes (s : System) : Step → Option ℕ
  | .finalizeJob w _ _ => (s.workers.find? w).map (·.jobId)
  | _ => none

/-- A worker that gives the reservation back after its pause finds the job still paused. -/
def Step.endsPauseInTime (s : System) : Step → Bool
  | .releaseAfterPause w => (s.workers.find? w).all fun worker =>
    worker.submitted || (s.jobs.find? worker.jobId).all fun job => !job.status.live
  | _ => true

/-- A job that is queued again has not lost its reservation, or asks for a new one. -/
def Step.requeuesHeld (s : System) (a : Step) : Bool :=
  (a.revives s).all fun id => !s.carries id (·.status = .released)
    || a.readmits s = some id && s.asksForChange id

/-- A destroy supersedes no reservation that another live job carries, and its own one
only to get a new one. -/
def Step.supersedesUnused (s : System) (a : Step) : Bool :=
  (a.supersedes s).all fun p =>
    !(s.liveJobCarries fun id row => id ≠ p.1 && a.finishes s ≠ some id && row.heldFor p.2)
      && (!s.carries p.1 (Reservation.heldFor p.2) || s.asksForChange p.1)

/-- No live job carries a reservation that the presence or absence of the machine settles
by a release. -/
def Step.observesUnused (s : System) (a : Step) : Bool :=
  a.observes.all fun p => (s.deployments.find? p.1).all fun deployment =>
    !(s.liveJobCarries fun _ row => row.heldFor (deployment.subject p.1)
      && presenceFrees p.2 (s.ledger.allocations.find? (deployment.subject p.1)).isSome row)

/-- No other live job carries a reservation of a deployment whose machine is gone. -/
def Step.absentUnused (s : System) (a : Step) : Bool :=
  (a.confirmsAbsent s).all fun d => (s.deployments.find? d).all fun deployment =>
    !(s.liveJobCarries fun id row => a.finishes s ≠ some id && row.heldFor (deployment.subject d))

/-- The operator releases no reservation that a live job carries. -/
def Step.resolvesUnused (s : System) : Step → Bool
  | .administer (.reconcile r outcome) => outcome ≠ "release"
    || s.jobs.rows.all fun row => !row.2.status.live || row.2.reservationId ≠ some r
  | _ => true

/-- The step meets no live job with a release. -/
def Step.sparesLiveJobs (s : System) (a : Step) : Bool :=
  a.endsPauseInTime s && a.requeuesHeld s && a.supersedesUnused s && a.observesUnused s
    && a.absentUnused s && a.resolvesUnused s

section

variable {id r : ℕ} {job : Job} (hjob : s.jobs.find? id = some job)
  (hr : job.reservationId = some r) (hrow : s.ledger.reservations.find? r = some row)
include hjob hr hrow

theorem System.carries_eq_true {p : Reservation → Bool} (hp : p row) :
    s.carries id p := by
  simp [System.carries, hjob, hr, hrow, hp]

theorem System.liveJobCarries_eq_true {p : ℕ → Reservation → Bool}
    (hl : job.status.live) (hp : p id row) : s.liveJobCarries p := by
  refine List.any_eq_true.2 ⟨(id, job), Table.mem_rows.2 hjob, ?_⟩
  simp [hl, hr, hrow, hp]

end

/-! ### The invariant -/

/-- Every reservation id in a payload names a row under the key of the job, and a live
job carries no released one. -/
structure Reserved (s : System) : Prop where
  ids : ∀ id job, s.jobs.find? id = some job → id < 2 ^ 128
  carried : ∀ id job r, s.jobs.find? id = some job → job.reservationId = some r
    → ∃ row, s.ledger.reservations.find? r = some row ∧ row.requestKey = jobKey id
      ∧ (job.status.live → row.status ≠ .released)

section Invariant

variable {cfg : Settings} {s s' : System} {a : Step} {id r : ℕ} {job job' : Job}
  {row : Reservation} {x : ℕ}

/-- The reservation that the quota service finds for a job has the key of the job. -/
theorem jobReservation_key {l : Ledger} {tag : QuotaTag}
    (hcarried : ∀ r, tag.reservationId = some r →
      ∃ row, l.reservations.find? r = some row ∧ row.requestKey = jobKey id)
    (hr : jobReservation l id tag = some r) :
    ∃ row, l.reservations.find? r = some row ∧ row.requestKey = jobKey id := by
  unfold jobReservation at hr
  split at hr
  · next x hx =>
    obtain ⟨row, hrow, hk⟩ := hcarried x hx
    rw [hrow] at hr
    cases hr
    exact ⟨row, hrow, hk⟩
  · obtain ⟨⟨x, row⟩, hf, rfl⟩ := Option.map_eq_some_iff.1 hr
    exact ⟨row, reservationByKey_eq_some hf⟩

/-- Two jobs do not share a reservation. -/
theorem Reserved.jobReservation_unique (hs : Reserved s) {other : Job}
    (ho : s.jobs.find? x = some other)
    (hr : jobReservation s.ledger x other.payload.quota = some r)
    (hrow : s.ledger.reservations.find? r = some row) (hk : row.requestKey = jobKey id) :
    x = id := by
  obtain ⟨row', hr', hk'⟩ := jobReservation_key (fun r hx =>
    (hs.carried x other r ho hx).imp fun _ h => ⟨h.1, h.2.1⟩) hr
  cases hrow.symm.trans hr'
  exact jobKey_injective (hk'.symm.trans hk)

/-- A live job was live before, unless the step is one that queues it again. -/
theorem Step.live_before (h : a.apply cfg s = .ok s') (hjob : s.jobs.find? id = some job)
    (hj' : s'.jobs.find? id = some job') (hl : job'.status.live) :
    job.status.live ∨ a.revives s = some id := by
  have hc := (Step.effect h).jobChange id
  rw [hjob, hj'] at hc
  cases hc with
  | same => exact .inl hl
  | replaced _ hfailed =>
    rw [Job.touch_status, hfailed] at hl
    cases hl
  | written hwrites =>
    rw [Job.touch_status] at hl
    cases hwrites with
    | kept _ hs => exact .inl (by rwa [← hs])
    | approved => exact .inr rfl
    | claimed ho | claimedDay2 ho => exact .inl (by rw [ho]; rfl)
    | deferred _ hw | deleteDeferred hw =>
      obtain ⟨w, hw, hi, -⟩ := hw
      exact .inr (by simp [Step.revives, hw, hi])
    | actionQueued hreq hi => exact .inr (by simp [Step.revives, hreq, hi])
    | paused _ _ _ hs => rw [hs] at hl; cases hl
    | @finalized _ _ _ _ _ _ out =>
      exact absurd hl (by simp [Job.finish, Outcome.status_not_live])
    | @finalizedDay2 _ _ _ _ _ out => exact absurd hl (by simp [Outcome.status_not_live])
    | _ => cases hl

/-- A worker's final transaction leaves its job in a final status. -/
theorem Step.finishes_not_live (h : a.apply cfg s = .ok s') (ha : a.finishes s = some id)
    (hj' : s'.jobs.find? id = some job') : job'.status.live = false := by
  cases a with
  | finalizeJob w rid msg =>
    obtain ⟨-, wk, job, out, hw, hrow⟩ := finalizeJob_spec h
    have hi : wk.jobId = id := by simpa [Step.finishes, hw] using ha
    rw [hi, hj'] at hrow
    cases hrow
    exact out.status_not_live
  | _ => cases ha

/-- The job that is queued again is the one that supersedes. -/
theorem Step.supersedes_eq_revives {sub : Subject}
    (ha : a.supersedes s = some (x, sub)) (hi : a.revives s = some id) : x = id := by
  cases a with
  | approveJob y approves =>
    cases hi
    simp only [Step.supersedes, Option.bind_eq_bind, Option.bind_eq_some_iff,
      Operation.superseding] at ha
    obtain ⟨_, -, _, -, ha⟩ := ha
    split at ha
    · cases ha
      rfl
    · cases ha
  | deferForProvider | deferBlueprintDelete | approveAction => cases ha
  | _ => cases hi

/-- If the step meets no live job with a release, the reservation of a job that is live
after it is not released by it. -/
theorem Reserved.not_freed (hs : Reserved s) (h : a.apply cfg s = .ok s') (hok : a.sparesLiveJobs s)
    (hjob : s.jobs.find? id = some job) (hr : job.reservationId = some r)
    (hrow : s.ledger.reservations.find? r = some row) (hk : row.requestKey = jobKey id)
    (hj' : s'.jobs.find? id = some job') (hl : job'.status.live)
    (hkept : a.readmits s = some id → job'.status.live → s.asksForChange id = false) :
    ¬Frees s a s' r := by
  simp only [Step.sparesLiveJobs, Bool.and_eq_true] at hok
  obtain ⟨⟨⟨⟨⟨hpause, -⟩, hsupersedes⟩, hobserves⟩, habsent⟩, hres⟩ := hok
  have hb := Step.live_before h hjob hj' hl
  -- the row is the one that is released
  have hheld {sub : Subject} (hh : s.ledger.HeldFor sub r) :
      row.heldFor sub := by
    obtain ⟨row', hrow', hsub, hact⟩ := hh
    cases hrow.symm.trans hrow'
    simp [Reservation.heldFor, hsub, hact]
  have hfind : a.finishes s ≠ some id := by
    intro ha
    rw [Step.finishes_not_live h ha hj'] at hl
    cases hl
  intro hfrees
  cases hfrees with
  | ended hoth hr' ho' hended =>
    cases hs.jobReservation_unique hoth hr' hrow hk
    cases hj'.symm.trans ho'
    rw [hended] at hl
    cases hl
  | @paused w wk other ha hw hsubm hoth hr' =>
    subst ha
    have hi := hs.jobReservation_unique hoth hr' hrow hk
    have ho := hb.resolve_right (by rintro ⟨⟩)
    simp [Step.endsPauseInTime, hw, hsubm, hi, hjob, ho] at hpause
  | @superseded x sub ha hnew hh =>
    simp only [Step.supersedesUnused, ha, Option.all_some, Bool.and_eq_true, Bool.not_eq_true',
      Bool.or_eq_true] at hsupersedes
    by_cases hx : id = x
    · subst hx
      -- the job itself is admitted again, and keeps the reservation that it supersedes
      have hread := hnew.resolve_left (by rw [hjob]; simp)
      have hcarries := System.carries_eq_true hjob hr hrow (hheld hh)
      rcases hsupersedes.2 with hn | hasks
      · rw [hcarries] at hn
        cases hn
      · rw [hkept hread hl] at hasks
        cases hasks
    · have ho := hb.resolve_right fun hi => hx (Step.supersedes_eq_revives ha hi).symm
      have hcarries := System.liveJobCarries_eq_true (p := fun id row =>
        id ≠ x && a.finishes s ≠ some id && row.heldFor sub) hjob hr hrow ho
        (by simp [hx, hfind, hheld hh])
      rw [hsupersedes.1] at hcarries
      cases hcarries
  | @observed d present dep row' ha hf hrow' hsub hact hp =>
    cases hrow.symm.trans hrow'
    have ho := hb.resolve_right (by cases a <;> first | (cases ha; done) | rintro ⟨⟩)
    simp only [Step.observesUnused, ha, hf, Option.all_some, Bool.not_eq_true'] at hobserves
    have hcarries := System.liveJobCarries_eq_true (p := fun _ row =>
      row.heldFor (dep.subject d)
        && presenceFrees present (s.ledger.allocations.find? (dep.subject d)).isSome row)
      hjob hr hrow ho (by simp [Reservation.heldFor, hsub, hact, hp])
    rw [hobserves] at hcarries
    cases hcarries
  | @absent d dep ha hf hh =>
    have ho := hb.resolve_right (by cases a <;> first | (cases ha; done) | rintro ⟨⟩)
    simp only [Step.absentUnused, ha, hf, Option.all_some, Bool.not_eq_true'] at habsent
    have hcarries := System.liveJobCarries_eq_true (p := fun id row =>
      a.finishes s ≠ some id && row.heldFor (dep.subject d)) hjob hr hrow ho
      (by simp [hfind, hheld hh])
    rw [habsent] at hcarries
    cases hcarries
  | resolved ha =>
    subst ha
    have ho := hb.resolve_right (by rintro ⟨⟩)
    simp only [Step.resolvesUnused, ne_eq, not_true_eq_false, decide_false, Bool.false_or,
      List.all_eq_true] at hres
    have hother := hres (id, job) (Table.mem_rows.2 hjob)
    simp [ho, hr] at hother

theorem Reserved.step (hs : Reserved s) (h : a.apply cfg s = .ok s') (hok : a.sparesLiveJobs s) :
    Reserved s' := by
  have he := Step.quotaEffect h
  have hi (id : ℕ) (job' : Job) (hj' : s'.jobs.find? id = some job') : id < 2 ^ 128 := by
    cases hjob : s.jobs.find? id with
    | none => exact (he.tags id job' hj').1 hjob
    | some job => exact hs.ids id job hjob
  refine ⟨hi, ?_⟩
  intro id job' r hj' hr
  rcases (he.tags id job' hj').2 r hr with ⟨row, hrow, hk, hh⟩ | ⟨job, hjob, hr', hkept⟩
  · rw [truncateKey_jobKey (hi id job' hj')] at hk
    exact ⟨row, hrow, hk, fun _ => hh⟩
  obtain ⟨row, hrow, hk, hn⟩ := hs.carried id job r hjob hr'
  obtain ⟨row', hrow', hrowK⟩ := he.spares r row hrow
  refine ⟨row', hrow', hrowK.requestKey.trans hk, ?_⟩
  intro hl hreleased
  rcases hrowK.released hreleased with hreleased | hfreed
  · -- the job was not live, so this step has queued it again
    rcases Step.live_before h hjob hj' hl with ho | hrevives
    · exact hn ho hreleased
    simp only [Step.sparesLiveJobs, Bool.and_eq_true] at hok
    obtain ⟨⟨⟨⟨⟨-, hq⟩, -⟩, -⟩, -⟩, -⟩ := hok
    have hcarries : s.carries id (·.status = .released) :=
      System.carries_eq_true hjob hr' hrow (by simp [hreleased])
    simp only [Step.requeuesHeld, hrevives, Option.all_some, hcarries, Bool.not_true,
      Bool.false_or, Bool.and_eq_true, decide_eq_true_eq] at hq
    rw [hkept hq.1 hl] at hq
    cases hq.2
  · exact hs.not_freed h hok hjob hr' hrow hk hj' hl hkept hfreed

theorem Reserved.initial (scs : Finset Scope) : Reserved (System.initial scs) := by
  constructor
  · intro id job hjob
    cases hjob
  · intro id job r hjob
    cases hjob

end Invariant

/-- The reservation that a queued or running job carries is not released, and the commit
of the job does not fail for that reason. -/
def LiveReservations (s : System) : Prop :=
  ∀ id job r, s.jobs.find? id = some job → job.status.live → job.reservationId = some r
    → (∀ row, s.ledger.reservations.find? r = some row → row.status ≠ .released)
      ∧ ∀ e, commitJobReservation s.ledger id job.payload.quota = .error e
        → e.code ≠ .quotaReservationReleased

theorem Reserved.liveReservations (hs : Reserved s) : LiveReservations s := by
  intro id job r hjob hl hr
  obtain ⟨row, hrow, -, hn⟩ := hs.carried id job r hjob hr
  constructor
  · intro row' hr'
    cases hrow.symm.trans hr'
    exact hn hl
  have hfound : jobReservation s.ledger id job.payload.quota = some r := by
    rw [Job.reservationId] at hr
    simp [jobReservation, hr, hrow]
  unfold commitJobReservation
  rw [hfound]
  exact commitReservation_errors hrow (hn hl)

/-- **Live jobs own live reservations.**  In every run from the empty database whose steps
meet no live job with a release, no queued or running job carries a released reservation, and
the commit of none fails with `QUOTA_RESERVATION_RELEASED`. -/
theorem live_reservations {cfg : Settings} {scopes : Finset Scope} {steps : List Step}
    (hok : Guarded (fun s a => a.sparesLiveJobs s) (Step.exec cfg) (System.initial scopes) steps) :
    LiveReservations (systemRun cfg (System.initial scopes) steps) :=
  (systemRun_invariant Reserved (fun _ _ _ h hok hs => hs.step h hok) (.initial scopes)
    hok).liveReservations

/-- A worker pauses, gives the reservation back, and the approval reserves again. -/
theorem live_reservations_resumed :
    LiveReservations (systemRun {} (System.initial demoScopes)
      (demoWorkflow ++ [.pauseForApproval 0 "review" none demoPolicy, .releaseAfterPause 0,
        .approveJob 10 true, .claimJob 1 10, .startBody 1 true])) :=
  live_reservations (by decide +kernel)

/-- If the approval comes before the paused worker gives the reservation back, the job is
queued with a reservation that is then released, and its commit will fail. -/
theorem approval_overtakes_release :
    let s := systemRun {} (System.initial demoScopes)
      (demoWorkflow ++ [.pauseForApproval 0 "review" none demoPolicy, .approveJob 10 true,
        .releaseAfterPause 0])
    (s.jobs.find? 10).map (fun job => (job.status,
        (failure (commitJobReservation s.ledger 10 job.payload.quota)).map (·.code)))
      = some (.queued, some .quotaReservationReleased) := by
  decide +kernel

end Live

end CloudPortal
