/-
CloudPortal/Jobs/ParallelLimit.lean

The parallel limit.  A pass fills the slots that are left when it counts the running jobs and the
candidates with a live RQ entry, so it must see every queued job with a live entry as a candidate:
the row must not be locked by somebody else, and it must be in the batch.  Besides, no other
transaction may put a job back into the queue while its entry is live.

`SlotChange` says what a step of the job system can do to the slot of a job; the
invariant is that the occupied slots and those the pass has still to fill are within the limit.
-/
import CloudPortal.Jobs.Dispatch
import CloudPortal.Jobs.Finality

namespace CloudPortal

open RowStore Transition

/-! ### What a step must find -/

/-- The pass has not counted its slots yet. -/
def Dispatching.isReading (t : Dispatching) : Bool :=
  match t.pass with
  | some ⟨_, .reading _ _⟩ => true
  | _ => false

/-- The worker's job is put back into the queue from its execution, and not while a pass reads. -/
def Dispatching.mayReturn (t : Dispatching) (w : ℕ) : Bool :=
  (t.system.workers.find? w).all fun worker => !t.live worker.jobId
    || !t.isReading && (t.system.jobs.find? worker.jobId).all fun job => job.status.executing

/-- A step of the job system gives no slot to a job that had none. -/
def Step.keepsSlots (t : Dispatching) : Step → Bool
  | .approveJob id _ => !t.live id
  | .approveAction r _ _ => (t.system.requests.find? r).all fun request => !t.live request.jobId
  | .deferForProvider w | .deferBlueprintDelete w => t.mayReturn w
  | .cancelAction r => (t.system.requests.find? r).all fun request =>
    request.status = .waitingApproval || request.status = .queued
      || (t.system.jobs.find? request.jobId).all fun job => job.status.executing
  | _ => true

/-- A pass can see the queued job: it is eligible, and fewer than a batch are ahead of it. -/
def Dispatching.visible (t : Dispatching) (id : ℕ) (job : Job) : Bool :=
  let deletes := decide (job.operation = .blueprintDelete)
  t.eligible deletes id job && (Batch.ahead t.before (t.eligibleJobs deletes) id).length < batchSize

/-- A pass begins when it can see all queued jobs with a live entry. -/
def DispatchStep.keepsLimit (t : Dispatching) : DispatchStep → Bool
  | .system a => a.keepsSlots t
  | .beginPass => t.system.jobs.rows.all fun row =>
    row.2.status ≠ .queued || !t.live row.1 || t.visible row.1 row.2
  | _ => true

/-! ### The slot of a job -/

variable {job job' : Job} {x : ℕ}

section Slots

variable {cfg : Settings} {t : Dispatching} {s' : System} {a : Step} {id : ℕ}

/-- What a step of the job system can do to the slot of a job. -/
inductive SlotChange (t : Dispatching) (id : ℕ) (old : JobStatus) : JobStatus → Prop
  | same : SlotChange t id old old
  | leaves {new : JobStatus} (hidle : new.executing = false) (hqueued : new ≠ .queued) :
      SlotChange t id old new
  | executes {new : JobStatus} (hold : old.executing ∨ old = .queued ∧ t.live id)
      (hnew : new.executing) : SlotChange t id old new
  | returns (h : t.live id = false ∨ old.executing ∧ t.isReading = false) :
      SlotChange t id old .queued

theorem SlotChange.occupies (h : SlotChange t id job.status job'.status)
    (hoccupied : t.occupies id job') : t.occupies id job := by
  simp only [Dispatching.occupies, Bool.or_eq_true, Bool.and_eq_true, decide_eq_true_eq] at hoccupied ⊢
  generalize job'.status = new at h hoccupied
  cases h with
  | same => exact hoccupied
  | leaves hi hqueued =>
    rcases hoccupied with hexec | ⟨hq, -⟩
    · rw [hi] at hexec
      cases hexec
    · exact absurd hq hqueued
  | executes ho => exact ho
  | returns hb =>
    rcases hb with hdead | ⟨hexec, -⟩
    · rcases hoccupied with hexec | ⟨-, hl⟩
      · cases hexec
      rw [hdead] at hl
      cases hl
    · exact .inl hexec

/-- While a pass reads, no job comes into the queue with a live entry. -/
theorem SlotChange.queued (h : SlotChange t id job.status job'.status) (hreading : t.isReading)
    (hl : t.live id) (hqueued : job'.status = .queued) : job.status = .queued := by
  rw [hqueued] at h
  generalize job.status = old at h
  cases h with
  | same => rfl
  | leaves _ hne => exact absurd rfl hne
  | executes _ hn => cases hn
  | returns hb =>
    rcases hb with hdead | ⟨-, hnot⟩
    · rw [hdead] at hl
      cases hl
    · rw [hreading] at hnot
      cases hnot

theorem executing_of_terminal {st : JobStatus} (h : st.terminal) :
    st.executing = false ∧ st ≠ .queued := by
  revert h
  cases st <;> decide

theorem SlotChange.of_return {w : ℕ} {phase : WorkerPhase} {day2 : Bool} (ho : t.mayReturn w)
    (hw : t.system.WorkerAt w id phase day2) (hj : t.system.jobs.find? id = some job) :
    SlotChange t id job.status .queued := by
  obtain ⟨wk, hf, rfl, -, -⟩ := hw
  simp only [Dispatching.mayReturn, hf, Option.all_some, hj, Bool.or_eq_true,
    Bool.not_eq_true', Bool.and_eq_true] at ho
  exact .returns (ho.imp_right And.symm)

theorem Writes.slotChange {cond : Deployment → Bool} {f : Deployment → Deployment}
    (h : Writes t.system a id job job' cond f) (hj : t.system.jobs.find? id = some job)
    (hok : a.keepsSlots t) (hclaim : a.claims = some id → t.live id) :
    SlotChange t id job.status job'.status := by
  have hended {new : JobStatus} (hn : new.terminal) : SlotChange t id job.status new :=
    .leaves (executing_of_terminal hn).1 (executing_of_terminal hn).2
  have hexec (h : job.status = .running ∨ job.status = .cancelling) : job.status.executing := by
    rcases h with h | h <;> rw [h] <;> rfl
  cases h with
  | kept _ hs =>
    rw [hs]
    exact .same
  | approved _ _ hs =>
    rw [hs]
    exact .returns (.inl (by simpa [Step.keepsSlots] using hok))
  | claimed ho | claimedDay2 ho => exact .executes (.inr ⟨ho, hclaim rfl⟩) rfl
  | cancelling ho => exact .executes (.inl (hexec ho)) rfl
  | markedCancelling ho => exact .executes (.inl (hexec (.inl ho))) rfl
  | deferred _ hw _ _ hs =>
    rw [hs]
    exact .of_return hok hw hj
  | deleteDeferred hw => exact .of_return hok hw hj
  | paused _ _ _ hs =>
    rw [hs]
    exact .leaves rfl nofun
  | actionQueued hq hi _ _ hs =>
    subst hi
    rw [hs]
    exact .returns (.inl (by simpa [Step.keepsSlots, hq] using hok))
  | actionCancelling hq hi _ hstarted =>
    subst hi
    refine .executes (.inl ?_) rfl
    simp only [Step.keepsSlots, hq, Option.all_some, hj, Bool.or_eq_true,
      decide_eq_true_eq] at hok
    exact hok.resolve_left hstarted
  | cancelledEarly | quarantined | expiredApplied | expired | abandoned | lost | actionCancelled
  | requestMissing | failedBefore => exact hended rfl
  | finalized | finalizedDay2 => exact hended (Outcome.status_terminal _)

/-- A job that occupies a slot after a step of the job system has occupied it before. -/
theorem slotChange_of_step (he : ∀ x, (t.rq.find? x).isSome → (t.system.jobs.find? x).isSome)
    (h : a.apply cfg t.system = .ok s') (ho : a.keepsSlots t)
    (hclaim : a.claims = some id → t.live id) (hj' : s'.jobs.find? id = some job')
    (hl : t.occupies id job') : ∃ job, t.system.jobs.find? id = some job
      ∧ SlotChange t id job.status job'.status := by
  have hc := (Step.effect h).jobChange id
  rw [hj'] at hc
  cases hr : t.system.jobs.find? id with
  | some job =>
    refine ⟨job, rfl, ?_⟩
    rw [hr] at hc
    cases hc with
    | same => exact .same
    | written hwrites => exact hwrites.slotChange hr ho hclaim
    | replaced _ hfailed => exact hfailed ▸ .leaves rfl nofun
  | none =>
    -- a new job has no entry yet
    exfalso
    have hn : t.rq.find? id = none := by
      cases hentry : t.rq.find? id with
      | none => rfl
      | some st =>
        have hs := he id (by rw [hentry]; rfl)
        rw [hr] at hs
        cases hs
    have hdead : t.live id = false := by rw [Dispatching.live, hn]; rfl
    rw [hr] at hc
    cases hc with
    | created hst =>
      simp only [Dispatching.occupies, hdead, Bool.and_false, Bool.or_false, Job.touch_status]
        at hl
      rcases hst with ⟨hst | hst, -, -⟩ | hst <;> rw [hst] at hl <;> cases hl

end Slots

/-! ### The invariant -/

/-- The slots that the pass may still fill. -/
def Dispatching.openSlots (t : Dispatching) : ℕ :=
  match t.pass with
  | some ⟨_, .filling _ _ slots⟩ => slots
  | _ => 0

structure WithinLimit (limit : ℕ) (t : Dispatching) : Prop where
  entries : ∀ id, (t.rq.find? id).isSome → (t.system.jobs.find? id).isSome
  slots : t.occupied.card + t.openSlots ≤ limit
  seen : ∀ jobs rest active, t.pass = some ⟨jobs, .reading rest active⟩
    → ∀ id job, t.system.jobs.find? id = some job → job.status = .queued → t.live id
    → id ∈ rest ∨ id ∈ active

section Invariant

variable {cfg : Settings} {lim : ℕ} {t t' : Dispatching}

theorem Dispatching.occupied_subset (h : ∀ id job, t'.system.jobs.find? id = some job
    → t'.occupies id job → ∃ old, t.system.jobs.find? id = some old ∧ t.occupies id old) :
    t'.occupied ⊆ t.occupied := by
  intro id hi
  obtain ⟨job, hj, hoccupied⟩ := Dispatching.mem_occupied.1 hi
  exact Dispatching.mem_occupied.2 (h id job hj hoccupied)

theorem WithinLimit.applyStep {a : Step} (ht : WithinLimit lim t)
    (h : t.applyStep cfg a = .ok t') (hok : a.keepsSlots t) : WithinLimit lim t' := by
  simp only [Dispatching.applyStep, ensure_bind_eq_ok] at h
  obtain ⟨hclaims, h⟩ := h
  obtain ⟨s', hs, h⟩ := bind_eq_ok.1 h
  obtain ⟨-, h⟩ := ensure_bind_eq_ok.1 h
  cases h
  have hclaim (id : ℕ) (hi : a.claims = some id) : t.live id := by
    rw [hi, Option.all_some, decide_eq_true_eq] at hclaims
    rw [Dispatching.live, hclaims]
    rfl
  have hb {id : ℕ} {job : Job} (hj : s'.jobs.find? id = some job) (hoccupied : t.occupies id job) :=
    slotChange_of_step ht.entries hs hok (hclaim id) hj hoccupied
  refine ⟨fun id hi => ?_, ?_, fun jobs rest act hp id job hj hqueued hl => ?_⟩
  · -- no job row disappears
    have hr := ht.entries id hi
    have hc := (Step.effect hs).jobChange id
    show (s'.jobs.find? id).isSome
    cases hn : s'.jobs.find? id with
    | some _ => rfl
    | none =>
      rw [hn] at hc
      generalize t.system.jobs.find? id = row at hc hr
      cases hc
      cases hr
  · refine le_trans (Nat.add_le_add_right (Finset.card_le_card ?_) _) ht.slots
    refine Dispatching.occupied_subset fun id job hj hoccupied => ?_
    obtain ⟨old, ho, hslot⟩ := hb hj hoccupied
    exact ⟨old, ho, hslot.occupies hoccupied⟩
  · have hl : t.live id := hl
    have hp : t.pass = some ⟨jobs, .reading rest act⟩ := hp
    obtain ⟨old, ho, hslot⟩ := hb hj (by simp [Dispatching.occupies, hqueued, hl])
    refine ht.seen jobs rest act hp id old ho (hslot.queued ?_ hl hqueued) hl
    simp [Dispatching.isReading, hp]

/-- A step that only changes RQ, and makes no entry live, keeps the invariant. -/
theorem WithinLimit.of_rq (ht : WithinLimit lim t) (hsystem : t'.system = t.system)
    (hp : t'.pass = t.pass) (he : ∀ id, (t'.rq.find? id).isSome → (t.rq.find? id).isSome)
    (hl : ∀ id, t'.live id → t.live id) : WithinLimit lim t' := by
  refine ⟨fun id hi => ?_, ?_, ?_⟩
  · rw [hsystem]
    exact ht.entries id (he id hi)
  · have hslots : t'.openSlots = t.openSlots := by rw [Dispatching.openSlots, hp]; rfl
    rw [hslots]
    refine le_trans (Nat.add_le_add_right (Finset.card_le_card ?_) _) ht.slots
    refine Dispatching.occupied_subset fun id job hj hoccupied => ⟨job, hsystem ▸ hj, ?_⟩
    simp only [Dispatching.occupies, Bool.or_eq_true, Bool.and_eq_true] at hoccupied ⊢
    exact hoccupied.imp_right fun h => ⟨h.1, hl id h.2⟩
  · intro jobs rest act hrd id job hj hqueued hi
    exact ht.seen jobs rest act (hp ▸ hrd) id job (hsystem ▸ hj) hqueued (hl id hi)

variable {id : ℕ}

/-- Writing an entry that is no more live than the one before. -/
theorem live_put {old new : RqStatus} (ho : t.rq.find? id = some old) (hle : new.live → old.live)
    (h : ({ t with rq := t.rq.put id new } : Dispatching).live x) : t.live x := by
  simp only [Dispatching.live, Table.find?_put] at h ⊢
  split at h
  · next hx =>
    rw [hx, ho]
    exact hle h
  · exact h

theorem live_erase (h : ({ t with rq := t.rq.erase id } : Dispatching).live x) :
    x ≠ id ∧ t.live x := by
  simp only [Dispatching.live, Table.find?_erase] at h ⊢
  split at h
  · cases h
  · next hx => exact ⟨hx, h⟩

theorem isSome_of_put {old new : RqStatus} (ho : t.rq.find? id = some old)
    (h : ((t.rq.put id new).find? x).isSome) : (t.rq.find? x).isSome := by
  rw [Table.find?_put] at h
  split at h
  · next hx => rw [hx, ho]; rfl
  · exact h

theorem isSome_of_erase (h : ((t.rq.erase id).find? x).isSome) : (t.rq.find? x).isSome := by
  rw [Table.find?_erase] at h
  split at h
  · cases h
  · exact h

/-- A job that a pass can see is one of its candidates. -/
theorem mem_candidates_of_visible (hj : t.system.jobs.find? id = some job)
    (h : t.visible id job) : id ∈ queuedDispatchCandidates t := by
  simp only [Dispatching.visible, Bool.and_eq_true, decide_eq_true_eq] at h
  obtain ⟨heligible, hfew⟩ := h
  have hnodup (deletes : Bool) : (t.eligibleJobs deletes).Nodup :=
    (List.filter_sublist.map Prod.fst).nodup t.system.jobs.nodup
  have hm (deletes : Bool) (hi : t.eligible deletes id job) : id ∈ t.eligibleJobs deletes :=
    List.mem_map.2 ⟨(id, job), Table.mem_select.2 ⟨hj, hi⟩, rfl⟩
  have hf := Batch.mem_first t.before (hnodup _) (hm _ heligible) hfew
  rw [queuedDispatchCandidates, List.mem_insertionSort, List.mem_append]
  generalize decide (job.operation = .blueprintDelete) = deletes at hf
  cases deletes with
  | false => exact .inl hf
  | true => exact .inr hf

section

variable (ht : WithinLimit lim t)
include ht

theorem WithinLimit.beginPass (ho : DispatchStep.beginPass.keepsLimit t) (hi : t.pass = none) :
    WithinLimit lim { t with
      pass := some ⟨queuedDispatchCandidates t, .reading (queuedDispatchCandidates t) []⟩ } := by
  refine ⟨ht.entries, ?_, ?_⟩
  · have hslots := ht.slots
    rw [Dispatching.openSlots, hi] at hslots
    exact hslots
  intro jobs rest active hp id job hj hqueued hl
  cases hp
  simp only [DispatchStep.keepsLimit, List.all_eq_true, Bool.or_eq_true, decide_eq_true_eq,
    Bool.not_eq_true'] at ho
  have hl : t.live id = true := hl
  rcases ho (id, job) (Table.mem_rows.2 hj) with (hn | hdead) | hvisible
  · exact absurd hqueued hn
  · rw [hl] at hdead
    cases hdead
  · exact .inl (mem_candidates_of_visible hj hvisible)

theorem WithinLimit.inspectNext (h : inspectNext t = .ok t') : WithinLimit lim t' := by
  unfold CloudPortal.inspectNext at h
  split at h
  · next jobs id rest act hp =>
    have hslots := ht.slots
    rw [Dispatching.openSlots, hp] at hslots
    have hseen := ht.seen jobs (id :: rest) act hp
    split at h
    · cases h
      refine ⟨ht.entries, hslots, ?_⟩
      intro jobs' rest' act' hp' x job hj hqueued hl
      cases hp'
      rcases hseen x job hj hqueued hl with hm | hm
      · rcases List.mem_cons.1 hm with rfl | hm
        · exact .inr (List.mem_append_right _ (List.mem_singleton.2 rfl))
        · exact .inl hm
      · exact .inr (List.mem_append_left _ hm)
    · cases h
      refine ⟨fun x hx => ht.entries x (isSome_of_erase hx), ?_, ?_⟩
      · refine le_trans (Nat.add_le_add_right (Finset.card_le_card ?_) _) hslots
        refine Dispatching.occupied_subset fun x job hj hoccupied => ⟨job, hj, ?_⟩
        simp only [Dispatching.occupies, Bool.or_eq_true, Bool.and_eq_true] at hoccupied ⊢
        exact hoccupied.imp_right fun h => ⟨h.1, (live_erase h.2).2⟩
      intro jobs' rest' act' hp' x job hj hqueued hl
      cases hp'
      obtain ⟨hn, hl⟩ := live_erase hl
      rcases hseen x job hj hqueued hl with hm | hm
      · exact .inl ((List.mem_cons.1 hm).resolve_left hn)
      · exact .inr hm
  · cases h

/-- All occupied slots are counted: a job that occupies one is running, or in RQ and so among
the candidates. -/
theorem WithinLimit.card_le {jobs act : List ℕ} (hp : t.pass = some ⟨jobs, .reading [] act⟩) :
    t.occupied.card
      ≤ (t.system.jobs.select fun _ job => job.status.executing).length + act.length := by
  have hs : t.occupied ⊆ ((t.system.jobs.select fun _ job => job.status.executing).map
      Prod.fst).toFinset ∪ act.toFinset := by
    intro id hi
    obtain ⟨job, hj, hoccupied⟩ := Dispatching.mem_occupied.1 hi
    simp only [Dispatching.occupies, Bool.or_eq_true, Bool.and_eq_true, decide_eq_true_eq] at hoccupied
    rw [Finset.mem_union, List.mem_toFinset, List.mem_toFinset]
    rcases hoccupied with hexec | ⟨hqueued, hl⟩
    · exact .inl (List.mem_map.2 ⟨(id, job), Table.mem_select.2 ⟨hj, hexec⟩, rfl⟩)
    exact .inr ((ht.seen jobs [] act hp id job hj hqueued hl).resolve_left (List.not_mem_nil))
  calc t.occupied.card
      ≤ (((t.system.jobs.select fun _ job => job.status.executing).map Prod.fst).toFinset
          ∪ act.toFinset).card := Finset.card_le_card hs
    _ ≤ ((t.system.jobs.select fun _ job => job.status.executing).map Prod.fst).toFinset.card
          + act.toFinset.card := Finset.card_union_le _ _
    _ ≤ ((t.system.jobs.select fun _ job => job.status.executing).map Prod.fst).length
          + act.length := Nat.add_le_add (List.toFinset_card_le _) (List.toFinset_card_le _)
    _ = (t.system.jobs.select fun _ job => job.status.executing).length + act.length := by
      rw [List.length_map]

theorem WithinLimit.countSlots (h : countSlots lim t = .ok t') : WithinLimit lim t' := by
  unfold CloudPortal.countSlots at h
  split at h
  · next jobs act hp =>
    cases h
    refine ⟨ht.entries, ?_, nofun⟩
    have hcard := ht.card_le hp
    have hslots := ht.slots
    show t.occupied.card + parallelDispatchCapacity lim t.system act.length ≤ lim
    unfold parallelDispatchCapacity
    omega
  · cases h

theorem WithinLimit.fillNext {ready : Bool} (h : fillNext t ready = .ok t') :
    WithinLimit lim t' := by
  unfold CloudPortal.fillNext at h
  split at h
  · next jobs id rest act slots hp =>
    have hslots := ht.slots
    rw [Dispatching.openSlots, hp] at hslots
    split at h
    · cases h
      exact ⟨ht.entries, hslots, by simp⟩
    next hpos =>
    split at h
    · cases h
      exact ⟨ht.entries, hslots, by simp⟩
    obtain ⟨job, hj, h⟩ := need_bind_eq_ok.1 h
    cases h
    refine ⟨fun x hx => ?_, ?_, by simp⟩
    · have hx : ((t.rq.put id .queued).find? x).isSome := hx
      show (t.system.jobs.find? x).isSome
      rw [Table.find?_put] at hx
      split at hx
      · next he =>
        rw [he, hj]
        rfl
      · exact ht.entries x hx
    -- at most the job that was enqueued comes in, and it takes one of the open slots
    have hs : ({ t with
        rq := t.rq.put id .queued
        pass := some ⟨jobs, .filling rest act (slots - 1)⟩ } : Dispatching).occupied
        ⊆ insert id t.occupied := by
      intro x hx
      obtain ⟨old, ho, hoccupied⟩ := Dispatching.mem_occupied.1 hx
      rw [Finset.mem_insert]
      by_cases he : x = id
      · exact .inl he
      refine .inr (Dispatching.mem_occupied.2 ⟨old, ho, ?_⟩)
      simpa [Dispatching.occupies, Dispatching.live, Table.find?_put, he] using hoccupied
    have hcard := (Finset.card_le_card hs).trans (Finset.card_insert_le _ _)
    show _ + (slots - 1) ≤ lim
    have hslots : t.occupied.card + slots ≤ lim := hslots
    omega
  · cases h

theorem WithinLimit.noPass : WithinLimit lim { t with pass := none } :=
  ⟨ht.entries, (Nat.le_add_right _ _).trans ht.slots, nofun⟩

theorem WithinLimit.step {a : DispatchStep} (h : a.apply cfg lim t = .ok t')
    (ho : a.keepsLimit t) : WithinLimit lim t' := by
  cases a with
  | system a => exact ht.applyStep h ho
  | lock id =>
    obtain ⟨-, h⟩ := ensure_bind_eq_ok.1 h
    cases h
    exact ht.of_rq rfl rfl (fun _ h => h) fun _ h => h
  | unlock id =>
    cases h
    exact ht.of_rq rfl rfl (fun _ h => h) fun _ h => h
  | takeEntry | endEntry =>
    obtain ⟨hentry, h⟩ := ensure_bind_eq_ok.1 h
    rw [decide_eq_true_eq] at hentry
    cases h
    exact ht.of_rq rfl rfl (fun _ => isSome_of_put hentry) fun _ => live_put hentry fun _ => rfl
  | dropEntry id =>
    obtain ⟨-, h⟩ := ensure_bind_eq_ok.1 h
    cases h
    exact ht.of_rq rfl rfl (fun _ => isSome_of_erase) fun _ hl => (live_erase hl).2
  | beginPass =>
    obtain ⟨hi, h⟩ := ensure_bind_eq_ok.1 h
    cases h
    exact ht.beginPass ho (Option.isNone_iff_eq_none.1 hi)
  | inspectNext => exact ht.inspectNext h
  | countSlots => exact ht.countSlots h
  | fillNext ready => exact ht.fillNext h
  | endPass =>
    have h : CloudPortal.endPass t = .ok t' := h
    unfold CloudPortal.endPass at h
    split at h
    · cases h
      exact ht.noPass
    · cases h
  | abortPass =>
    cases h
    exact ht.noPass

end

theorem WithinLimit.of_idle (h : t.Idle) : WithinLimit lim t := by
  obtain ⟨hn, hrq, hp⟩ := h
  have hp := Option.isNone_iff_eq_none.1 hp
  refine ⟨fun id hi => ?_, ?_, ?_⟩
  · rw [Table.find?, hrq] at hi
    cases hi
  · rw [hn, Dispatching.openSlots, hp]
    exact Nat.zero_le _
  · intro jobs rest active hrd
    rw [hp] at hrd
    cases hrd

end Invariant

/-- **The parallel limit.**  In every run from an idle system in which each pass can see the queued
jobs with a live RQ entry when it begins, and no transaction queues a job whose entry is
live in another way than `Step.keepsSlots` allows, at most `limit` jobs are
running, cancelling, or queued with a live entry. -/
theorem parallel_limit_kept {cfg : Settings} {limit : ℕ} {t : Dispatching}
    {steps : List DispatchStep} (hidle : t.Idle)
    (hok : Guarded (fun t a => a.keepsLimit t) (DispatchStep.exec cfg limit) t steps) :
    (dispatchRun cfg limit t steps).occupied.card ≤ limit := by
  have hk : WithinLimit limit (dispatchRun cfg limit t steps) := by
    refine guarded_invariant (fun t a ht hok => ?_) (WithinLimit.of_idle hidle) hok
    exact attempt_invariant ht fun t' h => ht.step h hok
  exact (Nat.le_add_right _ _).trans hk.slots

/-- Two deployments with a queued job each. -/
def demoQueue : Dispatching :=
  { system := systemRun {} (System.initial demoScopes)
      [.createDeployment demoDeployment (demoJob 10 .terraformApply),
        .createDeployment { demoDeployment with id := 2 }
          { demoJob 20 .terraformApply with deploymentId := some 2 }] }

/-- A pass over this many candidates, all of them ready. -/
def demoPass (candidates : ℕ) : List DispatchStep :=
  .beginPass :: List.replicate candidates .inspectNext ++ .countSlots
    :: List.replicate candidates (.fillNext true) ++ [.endPass]

/-- One pass, the worker of the first job claims it, and a second pass. -/
theorem parallel_limit_kept_claimed :
    (dispatchRun {} 1 demoQueue (demoPass 2 ++ [.takeEntry 10, .lock 10,
      .system (.claimJob 0 10), .unlock 10] ++ demoPass 1)).occupied.card ≤ 1 :=
  parallel_limit_kept (by decide +kernel) (by decide +kernel)

/-- The second pass runs while the row of the first job is locked by its claim: it sees neither
the entry nor a running job, and enqueues the second job as well. -/
theorem locked_claim_exceeds_limit :
    (dispatchRun {} 1 demoQueue (demoPass 2 ++ [.takeEntry 10, .lock 10] ++ demoPass 1
      ++ [.system (.claimJob 0 10), .unlock 10])).occupied.card = 2 := by
  decide +kernel

end CloudPortal
