/-
CloudPortal/Jobs/Leaks.lean

No leaked reservation: a job that has ended does not have its reservation in the status
`reserved`.

Each transaction that ends a job settles its reservation by itself, except one: the expiry of
a waiting job does not look at the ledger.  The reservation of a job is the one row under
its key, so it is enough to follow the row.  `Step.settlesJob` names the steps that do not settle
and what they must find.

The steps change the ledger by calls of the quota service only, so that what holds for its runs
holds for those of the whole system (`system_refines_quota`, `quota_history`).
-/
import CloudPortal.Jobs.Reservations

namespace CloudPortal

open RowStore Transition Relation

/-! ### Reservations that are settled -/

/-- An uncertain reservation is flagged for reconciliation. -/
def Ledger.Flagged (l : Ledger) : Prop :=
  ∀ r row, l.reservations.find? r = some row → row.status = .uncertain → row.reconciliationRequired

variable {wk : Worker}

section Settled

variable {l l₁ l' : Ledger} {id r : ℕ} {row row' : Reservation}

/-- Only `mark_uncertain` makes a row uncertain, and it flags the row. -/
theorem Ledger.Flagged.of_write {event : LedgerEvent} (hl : l.Flagged)
    (h : l₁.reservations = l.reservations)
    (hr : row'.status = .uncertain → row'.reconciliationRequired) :
    (l₁.write id row' event).Flagged := by
  intro r row hf
  replace hf : (l₁.reservations.put id row').find? r = some row := hf
  rw [h, Table.find?_put] at hf
  split at hf
  · cases hf
    exact hr
  · exact hl r row hf

theorem Move.flagged (h : Move l l') (hl : l.Flagged) : l'.Flagged := by
  cases h with
  | opened hs _ _ _ _ hsh =>
    refine hl.of_write hsh.reservations fun huncertain => ?_
    rw [hs] at huncertain
    cases huncertain
  | rearmed _ _ _ hsh => exact hl.of_write hsh.reservations nofun
  | settled h =>
    cases h with
    | committed _ _ _ hsh | released _ _ hsh => exact hl.of_write hsh.reservations nofun
    | marked => exact hl.of_write rfl fun _ => rfl
  | relimited h =>
    unfold Ledger.Flagged
    rw [h.reservations]
    exact hl

end Settled

/-! ### Calls -/

section Calls

variable {s s' : System} {a : Step} {l l' : Ledger}

/-- The keys under which a step may leave a reservation reserved: those of the jobs that it
admits, and keys of no job. -/
def ArmedKey (s : System) (a : Step) (s' : System) (key : String) : Prop :=
  (∃ id, key = truncateKey (jobKey id) ∧ Admits s a s' id) ∨ ∀ id, key ≠ jobKey id

/-- Every call is a sequence of elementary changes of the ledger that arms such keys. -/
theorem QuotaCall.acts (h : QuotaCall s a s' l l') :
    Acts (fun _ row => row.status = .reserved → ArmedKey s a s' row.requestKey) l l' := by
  cases h with
  | relimits h => exact h.acts
  | prepares hj _ h =>
    exact h.acts (fun _ _ _ _ _ _ _ _ => nofun) fun _ _ hk _ _ => .inl ⟨_, hk, hj⟩
  | preparesDay2 hj h => exact h.acts fun _ _ hk _ _ => .inl ⟨_, hk, hj⟩
  | commits _ _ _ _ h | releases _ _ _ _ h => exact h.settledAs.acts fun _ _ _ => nofun
  | resolves _ _ h =>
    rcases h with ⟨-, h⟩ | ⟨-, h⟩
    all_goals exact h.settledAs.acts fun _ _ _ => nofun
  | marks h => exact markUncertain_acts h fun _ _ => nofun
  | observes _ _ _ h | removes _ _ h =>
    exact reconcileTerraformPresence_acts h fun _ _ _ _ _ => ⟨nofun, fun _ => nofun⟩
  | accounts _ _ hk h =>
    exact accountConfirmedAbsent_acts h (fun _ _ _ _ _ => nofun) fun _ _ _ hr _ _ =>
      .inr (hr ▸ hk)

theorem QuotaCall.flagged (h : QuotaCall s a s' l l') (hl : l.Flagged) : l'.Flagged :=
  closure_invariant (fun _ _ hm => hm.flagged) h.acts.moves hl

theorem arms_of_calls (h : ReflTransGen (QuotaCall s a s') l l') : Arms l l' (ArmedKey s a s') := by
  induction h with
  | refl => exact .of_eq rfl
  | tail _ hl ih => exact ih.trans (hl.acts.arms fun _ _ => id)

end Calls

/-! ### Whole runs -/

theorem systemRun_acts (cfg : Settings) (s : System) (steps : List Step) :
    Acts (fun _ _ => True) s.ledger (systemRun cfg s steps).ledger := by
  refine ReflTransGen.mono (fun _ _ h => ⟨h, fun _ _ _ => .inr trivial⟩) _ _ ?_
  exact systemRun_preserves (fun t => ReflTransGen Move s.ledger t.ledger) (fun _ _ _ h hm =>
    hm.trans ((Step.calls h).lift' id fun _ _ hcall => hcall.acts.moves)) .refl steps

/-- **The job system refines the quota service**: whatever the API, the dispatcher and the
workers do, their ledger is one that moves lead to, so that the counters agree with the
reservations, the allocations, the limits and the entries. -/
theorem system_refines_quota (cfg : Settings) (scopes : Finset Scope) (steps : List Step) :
    let l := (systemRun cfg (System.initial scopes) steps).ledger
    ReflTransGen Move (Ledger.empty scopes) l ∧ Conserved l ∧ WithinLimits l ∧ Complete l
      ∧ l.UniqueKeys ∧ l.Flagged := by
  have ha := systemRun_acts cfg (System.initial scopes) steps
  have hkeys : Arms _ _ fun _ => True := ha.arms (by simp)
  have hlimits : WithinLimits (Ledger.empty scopes) :=
    ⟨fun _ _ _ h => (by cases h), fun _ _ _ h => (by cases h)⟩
  exact ⟨ha.moves, closure_invariant (fun _ _ h => h.conserved) ha.moves (conserved_empty scopes),
    closure_invariant (fun _ _ h => h.withinLimits) ha.moves hlimits,
    closure_invariant (fun _ _ h => h.complete) ha.moves fun _ _ => rfl,
    hkeys.unique fun _ _ _ _ h => (by cases h),
    closure_invariant (fun _ _ h => h.flagged) ha.moves fun _ _ h => (by cases h)⟩

/-- The status that an entry records. -/
def LedgerEvent.status : LedgerEvent → ReservationStatus
  | .reserved | .reReserved => .reserved
  | .committed => .committed
  | .released => .released
  | .uncertain => .uncertain

/-- The latest entry of every reservation says what its row is, and there are no others. -/
def Recorded (l : Ledger) : Prop :=
  ∀ id, (l.entries.reverse.find? (·.reservationId = id)).map
      (fun entry => (entry.event.status, entry.subject, entry.deltas))
    = (l.reservations.find? id).map fun row => (row.status, row.subject, row.deltas)

/-- A row is written with the entry that says so. -/
theorem history_write {l l₁ : Ledger} {id : ℕ} {row : Reservation} {event : LedgerEvent}
    (hr : l₁.reservations = l.reservations) (he : l₁.entries = l.entries)
    (hs : event.status = row.status) : l.entries <+: (l₁.write id row event).entries
      ∧ (Recorded l → Recorded (l₁.write id row event)) := by
  refine ⟨⟨_, congrArg (· ++ _) he.symm⟩, fun hl i => ?_⟩
  rw [Ledger.write, hr, he, List.reverse_concat, List.find?_cons, Table.find?_put]
  by_cases hi : i = id
  · simp [hi, hs]
  · simpa [hi, Ne.symm hi] using hl i

theorem Move.history {l l' : Ledger} (h : Move l l') :
    l.entries <+: l'.entries ∧ (Recorded l → Recorded l') := by
  cases h with
  | opened hst _ _ _ _ hsh => exact history_write hsh.reservations hsh.entries hst.symm
  | rearmed _ _ _ hsh => exact history_write hsh.reservations hsh.entries rfl
  | settled h =>
    cases h with
    | committed _ _ _ hsh | released _ _ hsh =>
      exact history_write hsh.reservations hsh.entries rfl
    | marked => exact history_write rfl rfl rfl
  | relimited h =>
    obtain ⟨_, _, rfl⟩ := h.frame
    exact ⟨List.prefix_refl _, id⟩

/-- **The entries are the history of the reservations**: in every reachable state they say
which reservations there are and what each one is.  From there on no entry is removed or
changed, and no reservation changes its key, its subject or that it is committed. -/
theorem quota_history (cfg : Settings) (scopes : Finset Scope) (before after : List Step) :
    let s := systemRun cfg (System.initial scopes) before
    let s' := systemRun cfg s after
    Recorded s.ledger ∧ s.ledger.entries <+: s'.ledger.entries
      ∧ Spares s.ledger s'.ledger fun _ => True := by
  intro s s'
  have ha := systemRun_acts cfg s after
  refine ⟨closure_invariant (fun _ _ h => h.history.2)
    (systemRun_acts cfg (System.initial scopes) before).moves fun _ => rfl, ?_, ha.spares (by simp)⟩
  exact @closure_invariant _ Move (s.ledger.entries <+: ·.entries)
    (fun _ _ h hp => hp.trans h.history.1) _ _ ha.moves (List.prefix_refl _)

/-! ### What a step must find -/

/-- The job has a reservation in the status `reserved`. -/
def System.holdsReserved (s : System) (id : ℕ) : Bool :=
  (s.jobs.find? id).any fun job => (jobReservation s.ledger id job.payload.quota).any fun r =>
    (s.ledger.reservations.find? r).any (·.status = .reserved)

/-- A worker that asks for the admission of its job finds the job not ended. -/
def Step.admitsOpenJob (s : System) : Step → Bool
  | .admitClaimed w => (s.workers.find? w).all fun worker =>
    (s.jobs.find? worker.jobId).all fun job => !job.status.terminal
  | _ => true

/-- A step that does not settle the reservation of a job it ends finds none to settle, and no
job is admitted after its end. -/
def Step.settlesJob (s : System) (a : Step) : Bool :=
  (a.endsUnsettled s).all (fun id => !s.holdsReserved id) && a.admitsOpenJob s

/-! ### The invariant -/

/-- The reservation of a job is the row under its key, and is settled when the job ends. -/
structure Settled (s : System) : Prop where
  unique : s.ledger.UniqueKeys
  flagged : s.ledger.Flagged
  ids : ∀ id job, s.jobs.find? id = some job → id < 2 ^ 128
  carried : ∀ id job r, s.jobs.find? id = some job → job.reservationId = some r
    → ∃ row, s.ledger.reservations.find? r = some row ∧ row.requestKey = jobKey id
  owned : ∀ id r row, s.ledger.reservations.find? r = some row → row.requestKey = jobKey id
    → ∃ job, s.jobs.find? id = some job
  ended : ∀ id job r row, s.jobs.find? id = some job → job.status.terminal
    → s.ledger.reservations.find? r = some row → row.requestKey = jobKey id
    → row.status ≠ .reserved

section Invariant

variable {cfg : Settings} {s s' : System} {a : Step} {id r : ℕ} {job job' : Job}
  {row row' : Reservation}

/-- The row under the key of a job is its reservation. -/
theorem Settled.jobReservation_of_key (hs : Settled s) (hj : s.jobs.find? id = some job)
    (hr : s.ledger.reservations.find? r = some row) (hk : row.requestKey = jobKey id) :
    jobReservation s.ledger id job.payload.quota = some r := by
  unfold jobReservation
  split
  · next x hx =>
    obtain ⟨row', hr', hk'⟩ := hs.carried id job x hj hx
    rw [hr', Option.map_some, hs.unique x r row' row hr' hr (hk'.trans hk.symm)]
  cases hf : s.ledger.reservationByKey (jobKey id) with
  | none => exact absurd hk (reservationByKey_eq_none hf hr)
  | some p =>
    obtain ⟨hr', hk'⟩ := reservationByKey_eq_some hf
    rw [Option.map_some, hs.unique p.1 r p.2 row hr' hr (hk'.trans hk.symm)]

/-- An armed key is the key of a job that has not ended. -/
theorem Settled.open_of_armed (h : a.apply cfg s = .ok s') (hok : a.admitsOpenJob s)
    (hi : ∀ id job, s'.jobs.find? id = some job → id < 2 ^ 128)
    (harm : ArmedKey s a s' (jobKey id)) :
    ∃ job', s'.jobs.find? id = some job' ∧ job'.status.terminal = false := by
  rcases harm with ⟨x, hk, job', hj', ho⟩ | hn
  · rw [truncateKey_jobKey (hi x job' hj')] at hk
    cases jobKey_injective hk
    refine ⟨job', hj', ?_⟩
    rcases ho with ho | ⟨w, wk, rfl, hw, rfl⟩
    · exact ho
    -- the worker has found the job not ended
    cases hj : s.jobs.find? wk.jobId with
    | none =>
      obtain ⟨wk', job, hw', -, hj'', -⟩ := workerJob_bind_eq_ok.1 h
      cases hw.symm.trans hw'
      rw [hj] at hj''
      cases hj''
    | some job =>
      have hs : job'.status = job.status := by
        have hc := (Step.effect h).jobChange wk.jobId
        rw [hj, hj'] at hc
        cases hc with
        | same => rfl
        | replaced _ _ _ _ hreason =>
          rcases hreason with ⟨_, ha, -⟩ | ⟨_, _, _, _, ha, -⟩ <;> cases ha
        | written hwrites =>
          cases hwrites with
          | kept _ hs => exact hs
      rw [hs]
      simpa [Step.admitsOpenJob, hw, hj] using hok
  · exact absurd rfl (hn id)

theorem Settled.step (hs : Settled s) (h : a.apply cfg s = .ok s') (hok : a.settlesJob s) :
    Settled s' := by
  simp only [Step.settlesJob, Bool.and_eq_true] at hok
  have heffect := Step.quotaEffect h
  have harms := arms_of_calls (Step.calls h)
  have hi (id : ℕ) (job' : Job) (hj' : s'.jobs.find? id = some job') : id < 2 ^ 128 := by
    cases hj : s.jobs.find? id with
    | none => exact (heffect.tags id job' hj').1 hj
    | some job => exact hs.ids id job hj
  refine ⟨harms.unique hs.unique, ?_, hi, ?_, ?_, ?_⟩
  · have hcalls : ReflTransGen (QuotaCall s a s') s.ledger s'.ledger := Step.calls h
    exact closure_invariant (fun _ _ hcall => hcall.flagged) hcalls hs.flagged
  · intro id job' r hj' hr
    rcases (heffect.tags id job' hj').2 r hr with ⟨row, hrow, hk, -⟩ | ⟨job, hj, hr', -⟩
    · rw [truncateKey_jobKey (hi id job' hj')] at hk
      exact ⟨row, hrow, hk⟩
    obtain ⟨row, hrow, hk⟩ := hs.carried id job r hj hr'
    obtain ⟨row', hrow', hkept⟩ := heffect.spares r row hrow
    exact ⟨row', hrow', hkept.requestKey.trans hk⟩
  · intro id r row' hrow' hk
    rcases harms.rows r row' hrow' with harm | ⟨row, hrow, hk', -⟩
    · rw [hk] at harm
      obtain ⟨job', hj', -⟩ := Settled.open_of_armed h hok.2 hi harm
      exact ⟨job', hj'⟩
    · obtain ⟨job, hj⟩ := hs.owned id r row hrow (hk'.trans hk)
      obtain ⟨job', hj', -⟩ := Step.job_persists h hj
      exact ⟨job', hj'⟩
  · intro id job' r row' hj' he hrow' hk hres
    rcases harms.rows r row' hrow' with harm | ⟨row, hrow, hk', hst⟩
    · rw [hk] at harm
      obtain ⟨job'', hj'', ho⟩ := Settled.open_of_armed h hok.2 hi harm
      cases hj'.symm.trans hj''
      rw [ho] at he
      cases he
    -- the row was reserved before, so the job was not ended and this step ends it
    have hk' := hk'.trans hk
    obtain ⟨job, hj⟩ := hs.owned id r row hrow hk'
    cases ho : job.status.terminal with
    | true => exact hs.ended id job r row hj ho hrow hk' (hst hres)
    | false =>
      have hr := hs.jobReservation_of_key hj hrow hk'
      rcases (Step.spec h).settles id job job' hj hj' ho he with hunsettled | hsettled
      · have hn := hok.1
        simp [hunsettled, System.holdsReserved, hj, hr, hrow, hst hres] at hn
      · exact hsettled r row' hr hrow' hk hres

theorem Settled.initial (scopes : Finset Scope) : Settled (System.initial scopes) := by
  constructor
  · intro r r' row row' hr
    cases hr
  · intro r row hr
    cases hr
  · intro id job hj
    cases hj
  · intro id job r hj
    cases hj
  · intro id r row hr
    cases hr
  · intro id job r row hj
    cases hj

end Invariant

/-- The reservation of a job that has ended is not reserved; if it is uncertain, it is flagged
for reconciliation. -/
def NoLeak (s : System) : Prop :=
  ∀ id job r row, s.jobs.find? id = some job → job.status.terminal
    → jobReservation s.ledger id job.payload.quota = some r
    → s.ledger.reservations.find? r = some row
    → row.status ≠ .reserved ∧ (row.status = .uncertain → row.reconciliationRequired)

theorem Settled.noLeak {s : System} (hs : Settled s) : NoLeak s := by
  intro id job r row hj he hr hrow
  obtain ⟨row', hr', hk⟩ := jobReservation_key (hs.carried id job · hj) hr
  cases hrow.symm.trans hr'
  exact ⟨hs.ended id job r row hj he hrow hk, hs.flagged r row hrow⟩

/-- **No leaked reservation.**  In every run from the empty database, with worker crashes at any
moment, in which an expiry finds no reserved reservation on its job and no ended job is
admitted, the reservation of an ended job is committed, released, or uncertain and flagged. -/
theorem no_leaked_reservation {cfg : Settings} {scopes : Finset Scope} {steps : List Step}
    (hok : Guarded (fun s a => a.settlesJob s) (Step.exec cfg) (System.initial scopes) steps) :
    NoLeak (systemRun cfg (System.initial scopes) steps) :=
  (systemRun_invariant Settled (fun _ _ _ h hok hs => hs.step h hok) (.initial scopes) hok).noLeak

/-- A paused worker gives the reservation back, and then the approval expires. -/
theorem no_leaked_reservation_expired :
    NoLeak (systemRun {} (System.initial demoScopes)
      (demoWorkflow ++ [.pauseForApproval 0 "review" none demoPolicy, .releaseAfterPause 0,
        .tick 200000, .expireWaitingApproval 10 demoPolicy])) :=
  no_leaked_reservation (by decide +kernel)

/-- If the paused worker dies before it gives the reservation back, the expiry ends the job
and the reservation stays reserved. -/
theorem expiry_leaks_reservation :
    let s := systemRun {} (System.initial demoScopes)
      (demoWorkflow ++ [.pauseForApproval 0 "review" none demoPolicy, .crashWorker 0,
        .tick 200000, .expireWaitingApproval 10 demoPolicy])
    (s.jobs.find? 10).map (fun job => (job.status,
        (jobReservation s.ledger 10 job.payload.quota).bind fun r =>
          (s.ledger.reservations.find? r).map (·.status)))
      = some (.cancelled, some .reserved) := by
  decide +kernel

end CloudPortal
