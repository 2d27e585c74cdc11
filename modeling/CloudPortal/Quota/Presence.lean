/-
CloudPortal/Quota/Presence.lean

What a confirmed presence or absence of a machine does to the ledger.

`reconcile_terraform_presence` walks over the active apply, provision and destroy
reservations of a deployment and reads the allocation again after a commit.
`presenceOutcome` says beforehand what happens to each of them, from the allocation
before the call and the oldest creation; `settleEach_spec` shows by induction on the
loop that this is what it does.  The step that needs a reachable ledger is a commit
without an allocation: its row has deltas (`Tidy`), so the allocation exists afterwards
and the later creations are passed over.

`account_confirmed_absent` releases what the subject holds, then reserves and commits
the negated allocation under a key of the caller.  A key that is free or released gives
a row of its own; a committed row under the same key is returned as it is, and nothing
is removed (`absence_under_used_key`).
-/
import CloudPortal.Quota.Sparing

namespace CloudPortal

open RowStore Transition Relation

variable {l l' l₁ : Ledger} {id : ℕ} {row : Reservation} {sub : Subject} {scope : Scope}

/-! ### No empty rows -/

/-- No reservation and no allocation of the ledger is empty. -/
structure Tidy (l : Ledger) : Prop where
  rows : ∀ id row, l.reservations.find? id = some row → row.deltas ≠ 0
  allocations : ∀ subject dims, l.allocations.find? subject = some dims → dims ≠ 0

theorem Tidy.of_put (hl : Tidy l) (hrows : l'.reservations = l.reservations.put id row)
    (hn : row.deltas ≠ 0) (halloc : l'.allocations = l.allocations) : Tidy l' := by
  refine ⟨fun id' r hr => ?_, by rw [halloc]; exact hl.allocations⟩
  rw [hrows, Table.find?_put_eq_some] at hr
  rcases hr with ⟨-, rfl⟩ | ⟨-, hr⟩
  · exact hn
  · exact hl.rows id' r hr

theorem Tidy.putAllocation (hl : Tidy l) (sub : Subject) (tgt : Amounts) :
    Tidy (l.putAllocation sub tgt) := by
  refine ⟨hl.rows, fun other dims hdims => ?_⟩
  rw [find?_putAllocation] at hdims
  split at hdims
  · split at hdims
    · next hn => exact Option.some.inj hdims ▸ hn
    · cases hdims
  · exact hl.allocations other dims hdims

theorem Settle.tidy (h : Settle l l') (hl : Tidy l) : Tidy l' := by
  cases h with
  | @committed l₁ id row hr _ _ hs =>
    have hg := hl.putAllocation row.subject (l.allocation row.subject + row.deltas)
    refine hg.of_put (congrArg (Table.put · _ _) hs.reservations) (hl.rows id row hr) ?_
    simp only [Ledger.write, Ledger.putAllocation, hs.allocations]
  | released hr _ hs =>
    exact hl.of_put (congrArg (Table.put · _ _) hs.reservations) (hl.rows _ _ hr :)
      hs.allocations
  | marked hr => exact hl.of_put rfl (hl.rows _ _ hr :) rfl

theorem Move.tidy (h : Move l l') (hl : Tidy l) : Tidy l' := by
  cases h with
  | opened _ _ _ _ _ hs hn =>
    exact hl.of_put (congrArg (Table.put · _ _) hs.reservations) hn hs.allocations
  | rearmed hr _ _ hs =>
    exact hl.of_put (congrArg (Table.put · _ _) hs.reservations) (hl.rows _ _ hr :)
      hs.allocations
  | settled h => exact h.tidy hl
  | relimited h =>
    obtain ⟨_, _, rfl⟩ := h.frame
    exact ⟨hl.rows, hl.allocations⟩

theorem tidy_run (scs : Finset Scope) (ops : List QuotaOp) :
    Tidy (quotaRun (Ledger.empty scs) ops) :=
  quotaRun_invariant (fun _ _ h => h.tidy)
    ⟨fun _ _ h => (by cases h), fun _ _ h => (by cases h)⟩ ops

theorem Tidy.find?_eq_none (hl : Tidy l) (h : l.allocation sub = 0) :
    l.allocations.find? sub = none := by
  cases hdims : l.allocations.find? sub with
  | none => rfl
  | some dims => exact absurd (by simpa [Ledger.allocation, hdims] using h) (hl.allocations _ _ hdims)

/-! ### Settling one active row -/

theorem Releases.tables_of_active (h : Releases l id l') (hr : l.reservations.find? id = some row)
    (ha : row.status.active = true) :
    l'.reservations = l.reservations.put id (row.settledAs .released)
      ∧ l'.allocations = l.allocations :=
  ⟨h.settledAs.put_of_active hr ha, h.allocations⟩

theorem Commits.tables_of_active (h : Commits l id l') (hr : l.reservations.find? id = some row)
    (ha : row.status.active = true) :
    l'.reservations = l.reservations.put id (row.settledAs .committed)
      ∧ l'.allocations
        = (l.putAllocation row.subject (l.allocation row.subject + row.deltas)).allocations := by
  refine ⟨h.settledAs.put_of_active hr ha, ?_⟩
  obtain ⟨l₁, -, hs, rfl⟩ := h.of_active hr ha
  simp only [Ledger.write, Ledger.putAllocation, hs.allocations]

/-! ### Presence and absence of a machine -/

/-- How the loop settles a row, if it does: `allocated` is the state before the call and
`oldest` the id of the first creation. -/
def presenceOutcome (present allocated : Bool) (oldest : Option ℕ) (r : ℕ × Reservation) :
    Option ReservationStatus :=
  if r.2.operation.creates then
    if allocated then none
    else if present then if oldest = some r.1 then some .committed else none
    else some .released
  else if present then some .released else some .committed

/-- The row after the loop. -/
def Reservation.after (row : Reservation) (outcome : Option ReservationStatus) : Reservation :=
  outcome.elim row row.settledAs

/-- The first creation of a list of reservations. -/
def oldestCreation (rows : List (ℕ × Reservation)) : Option ℕ :=
  (rows.find? fun r => r.2.operation.creates).map Prod.fst

/-- A row that the loop still has to visit. -/
structure Waiting (l : Ledger) (subject : Subject) (r : ℕ × Reservation) : Prop where
  row : l.reservations.find? r.1 = some r.2
  subject : r.2.subject = subject
  active : r.2.status.active = true
  deltas : r.2.deltas ≠ 0

/-- What the loop has done to the rows it visits and to everything else. -/
structure Resolves (l l' : Ledger) (subject : Subject) (present allocated : Bool)
    (rows : List (ℕ × Reservation)) : Prop where
  visited : ∀ r ∈ rows, l'.reservations.find? r.1
    = some (r.2.after (presenceOutcome present allocated (oldestCreation rows) r))
  others : ∀ id, id ∉ rows.map Prod.fst → l'.reservations.find? id = l.reservations.find? id
  allocations : ∀ other, other ≠ subject → l'.allocations.find? other = l.allocations.find? other

section Loop

variable {present allocated : Bool} {rows : List (ℕ × Reservation)} {r : ℕ × Reservation}

/-- One step of the loop: the head is settled in `l₁`, the rest is settled from there. -/
theorem Resolves.cons {allocated₁ : Bool} (hnodup : ((r :: rows).map Prod.fst).Nodup)
    (hr : l₁.reservations = l.reservations ∨ ∃ row, l₁.reservations = l.reservations.put r.1 row)
    (halloc : ∀ other, other ≠ sub → l₁.allocations.find? other = l.allocations.find? other)
    (hhead : l₁.reservations.find? r.1
      = some (r.2.after (presenceOutcome present allocated (oldestCreation (r :: rows)) r)))
    (hre : ∀ r' ∈ rows, presenceOutcome present allocated₁ (oldestCreation rows) r'
      = presenceOutcome present allocated (oldestCreation (r :: rows)) r')
    (h : Resolves l₁ l' sub present allocated₁ rows) :
    Resolves l l' sub present allocated (r :: rows) := by
  rw [List.map_cons, List.nodup_cons] at hnodup
  have hothers : ∀ id, id ≠ r.1 → l₁.reservations.find? id = l.reservations.find? id := by
    intro id hn
    rcases hr with hs | ⟨row, hp⟩
    · rw [hs]
    · rw [hp, Table.find?_put_of_ne _ _ hn]
  constructor
  · intro r' hr'
    rcases List.mem_cons.mp hr' with rfl | hr'
    · rw [h.others _ hnodup.1, hhead]
    · rw [h.visited r' hr', hre r' hr']
  · intro id hi
    rw [List.map_cons, List.mem_cons, not_or] at hi
    rw [h.others id hi.2, hothers id hi.1]
  · intro other hn
    rw [h.allocations other hn, halloc other hn]

theorem Waiting.of_put (h : Waiting l sub r) (hn : r.1 ≠ id)
    (hr : l₁.reservations = l.reservations.put id row) : Waiting l₁ sub r := by
  refine ⟨?_, h.subject, h.active, h.deltas⟩
  rw [hr, Table.find?_put_of_ne _ _ hn]
  exact h.row

theorem settleEach_spec (h : settleEach sub present rows allocated l = .ok l')
    (hnodup : (rows.map Prod.fst).Nodup) (hw : ∀ r ∈ rows, Waiting l sub r)
    (halloc : present = true → allocated = (l.allocations.find? sub).isSome) :
    Resolves l l' sub present allocated rows := by
  induction rows generalizing allocated l with
  | nil =>
    cases h
    exact ⟨by simp, fun _ _ => rfl, fun _ _ => rfl⟩
  | cons r rows ih =>
    obtain ⟨id, row⟩ := r
    obtain ⟨hr, hs, ha, hd⟩ := hw _ List.mem_cons_self
    obtain ⟨hnotin, hnodup'⟩ := List.nodup_cons.mp hnodup
    have hlater : ∀ r' ∈ rows, r'.1 ≠ id := fun r' hr' he =>
      hnotin (he ▸ List.mem_map.mpr ⟨r', hr', rfl⟩)
    have hre : ∀ r' ∈ rows, Waiting l sub r' := fun r' hr' =>
      hw r' (List.mem_cons_of_mem _ hr')
    -- once the head is written, the rest still waits
    have hstill {l₁ : Ledger} {row' : Reservation}
        (hrows : l₁.reservations = l.reservations.put id row') : ∀ r' ∈ rows, Waiting l₁ sub r' :=
      fun r' hr' => (hre r' hr').of_put (hlater r' hr') hrows
    simp only [settleEach] at h
    by_cases hcr : row.operation.creates
    · rw [if_pos hcr] at h
      have holde : oldestCreation ((id, row) :: rows) = some id := by simp [oldestCreation, hcr]
      cases allocated with
      | true =>
        -- an update: it waits for stronger evidence
        refine .cons hnodup (.inl rfl) (fun _ _ => rfl) ?_ (fun r' _ => ?_) (ih h hnodup' hre halloc)
        · simp [presenceOutcome, hcr, Reservation.after, hr]
        · simp [presenceOutcome]
      | false =>
        cases present with
        | true =>
          obtain ⟨l₁, hf, h⟩ := bind_eq_ok.mp h
          obtain ⟨hrows, hall⟩ := (commitReservation_spec hf).tables_of_active hr ha
          have hn : l.allocations.find? sub = none := by simpa using (halloc rfl).symm
          have hg : l.allocation row.subject + row.deltas ≠ 0 := by
            rw [hs, Ledger.allocation, hn]
            simpa using hd
          have hsome : (l₁.allocations.find? sub).isSome = true := by
            rw [hall, find?_putAllocation, if_pos hs.symm, if_pos hg]
            rfl
          rw [hsome] at h
          refine .cons hnodup (.inr ⟨_, hrows⟩) (fun other hne => ?_) ?_ (fun r' hr' => ?_)
            (ih h hnodup' (hstill hrows) fun _ => hsome.symm)
          · rw [hall, find?_putAllocation, if_neg (hs ▸ hne)]
          · simp [presenceOutcome, hcr, holde, Reservation.after, hrows]
          · simp [presenceOutcome, holde, Ne.symm (hlater r' hr')]
        | false =>
          obtain ⟨l₁, hf, h⟩ := bind_eq_ok.mp h
          obtain ⟨hrows, hall⟩ := (releaseReservation_spec hf).tables_of_active hr ha
          refine .cons hnodup (.inr ⟨_, hrows⟩) (fun _ _ => by rw [hall]) ?_ (fun r' _ => ?_)
            (ih h hnodup' (hstill hrows) (by simp))
          · simp [presenceOutcome, hcr, Reservation.after, hrows]
          · simp [presenceOutcome]
    · rw [if_neg hcr] at h
      have holde : oldestCreation ((id, row) :: rows) = oldestCreation rows := by
        simp [oldestCreation, hcr]
      cases present with
      | true =>
        obtain ⟨l₁, hf, h⟩ := bind_eq_ok.mp h
        obtain ⟨hrows, hall⟩ := (releaseReservation_spec hf).tables_of_active hr ha
        refine .cons hnodup (.inr ⟨_, hrows⟩) (fun _ _ => by rw [hall]) ?_ (fun r' _ => ?_)
          (ih h hnodup' (hstill hrows) (hall ▸ halloc))
        · simp [presenceOutcome, hcr, Reservation.after, hrows]
        · rw [holde]
      | false =>
        obtain ⟨l₁, hf, h⟩ := bind_eq_ok.mp h
        obtain ⟨hrows, hall⟩ := (commitReservation_spec hf).tables_of_active hr ha
        refine .cons hnodup (.inr ⟨_, hrows⟩) (fun other hne => ?_) ?_ (fun r' _ => ?_)
          (ih h hnodup' (hstill hrows) (by simp))
        · rw [hall, find?_putAllocation, if_neg (hs ▸ hne)]
        · simp [presenceOutcome, hcr, Reservation.after, hrows]
        · rw [holde]

end Loop

/-- The status of a reservation. -/
def Ledger.statusOf (l : Ledger) (id : ℕ) : Option ReservationStatus :=
  (l.reservations.find? id).map (·.status)

/-- The reservations that the presence or absence of the machine of a subject speaks about. -/
def Ledger.observable (l : Ledger) (subject : Subject) : List (ℕ × Reservation) :=
  (l.activeOf subject).filter fun r => r.2.operation.creates || r.2.operation.destroys

theorem mem_observable :
    (id, row) ∈ l.observable sub ↔ l.reservations.find? id = some row ∧ row.subject = sub
      ∧ row.status.active = true ∧ (row.operation.creates || row.operation.destroys) = true := by
  rw [Ledger.observable, List.mem_filter, mem_activeOf]
  simp only [and_assoc]

theorem oldestCreation_observable (l : Ledger) (sub : Subject) :
    oldestCreation (l.observable sub) = oldestCreation (l.activeOf sub) := by
  rw [oldestCreation, Ledger.observable, List.find?_filter]
  congr 2
  funext r
  cases r.2.operation.creates <;> simp

theorem reconcileTerraformPresence_spec {subjectId : ℕ} {present : Bool}
    (hl : Tidy l) (h : reconcileTerraformPresence l scope subjectId present = .ok l') :
    Resolves l l' ⟨scope, .deployment, subjectId⟩ present
      (l.allocations.find? ⟨scope, .deployment, subjectId⟩).isSome
      (l.observable ⟨scope, .deployment, subjectId⟩) := by
  obtain ⟨_, -, h⟩ := bind_eq_ok.mp h
  refine settleEach_spec h ?_ (fun r hr => ?_) fun _ => rfl
  · exact (((List.filter_sublist.trans List.filter_sublist).map Prod.fst).nodup l.reservations.nodup)
  obtain ⟨hrow, hs, ha, -⟩ := mem_observable.mp hr
  exact ⟨hrow, hs, ha, hl.rows _ _ hrow⟩

theorem Resolves.kept {present allocated : Bool} (h : Resolves l l' sub present allocated
    (l.observable sub)) (hr : l.reservations.find? id = some row)
    (ho : (id, row) ∉ l.observable sub) : l'.reservations.find? id = some row := by
  rw [h.others id fun hm => ?_, hr]
  obtain ⟨⟨id', row'⟩, hin, rfl⟩ := List.mem_map.mp hm
  cases hr.symm.trans (mem_observable.mp hin).1
  exact ho hin

/-- **Presence reconciliation is conservative.**  A present machine commits the oldest creation
of a deployment without an allocation and releases the destroys; an absent one releases the
creations of a deployment without an allocation and commits the destroys.  Nothing else moves. -/
theorem presence_conservative (scopes : Finset Scope) (ops : List QuotaOp) (scope : Scope)
    (subjectId : ℕ) (present : Bool) (l' : Ledger)
    (h : reconcileTerraformPresence (quotaRun (Ledger.empty scopes) ops) scope subjectId present
      = .ok l') :
    let l := quotaRun (Ledger.empty scopes) ops
    let subject : Subject := ⟨scope, .deployment, subjectId⟩
    (present = true →
      (∀ id, oldestCreation (l.activeOf subject) = some id →
        (l'.statusOf id = some .committed ↔ l.allocations.find? subject = none)) ∧
      (∀ id row, l.reservations.find? id = some row → row.operation.creates = true →
        oldestCreation (l.activeOf subject) ≠ some id → l'.reservations.find? id = some row) ∧
      ∀ r ∈ l.activeOf subject, r.2.operation.destroys = true →
        l'.statusOf r.1 = some .released) ∧
    (present = false →
      (∀ r ∈ l.activeOf subject, r.2.operation.creates = true →
        (l'.statusOf r.1 = some .released ↔ l.allocations.find? subject = none)) ∧
      ∀ r ∈ l.activeOf subject, r.2.operation.destroys = true →
        l'.statusOf r.1 = some .committed) ∧
    (∀ id row, l.reservations.find? id = some row →
      row.subject ≠ subject ∨ row.operation.creates = false ∧ row.operation.destroys = false →
      l'.reservations.find? id = some row) ∧
    ∀ other, other ≠ subject → l'.allocations.find? other = l.allocations.find? other := by
  intro l subject
  have hspec := reconcileTerraformPresence_spec (tidy_run scopes ops) h
  have hcrea : ∀ r ∈ l.activeOf subject, r.2.operation.creates = true →
      l'.reservations.find? r.1 = some (r.2.after (presenceOutcome present
        (l.allocations.find? subject).isSome (oldestCreation (l.activeOf subject)) r)) := by
    intro r hr hcreates
    rw [← oldestCreation_observable]
    exact hspec.visited r (List.mem_filter.mpr ⟨hr, by simp [hcreates]⟩)
  have hdestroy : ∀ r ∈ l.activeOf subject, r.2.operation.destroys = true →
      l'.statusOf r.1 = some (if present then .released else .committed) := by
    intro r hr hdest
    have hcreates : r.2.operation.creates = false := by
      cases ho : r.2.operation <;> simp_all [Operation.creates, Operation.destroys]
    rw [Ledger.statusOf, hspec.visited r (List.mem_filter.mpr ⟨hr, by simp [hdest]⟩)]
    cases present <;> simp [presenceOutcome, hcreates, Reservation.after, Reservation.settledAs]
  -- a creation is settled exactly when there was no allocation: an update stays active
  have hset : ∀ r ∈ l.activeOf subject, r.2.operation.creates = true → ∀ status,
      status.active = false → presenceOutcome present false (oldestCreation (l.activeOf subject)) r
        = some status → (l'.statusOf r.1 = some status ↔ l.allocations.find? subject = none) := by
    intro r hr hcreates status hinactive houtc
    rw [Ledger.statusOf, hcrea r hr hcreates]
    cases hdims : l.allocations.find? subject with
    | none => simp [houtc, Reservation.after, Reservation.settledAs]
    | some dims =>
      have ha := (mem_activeOf.mp hr).2.2
      have hn : r.2.status ≠ status := fun he => by rw [he, hinactive] at ha; cases ha
      simp [presenceOutcome, hcreates, Reservation.after, hn]
  refine ⟨fun hp => ⟨fun id hi => ?_, fun id row hrow hcreates hi => ?_, fun r hr hd => ?_⟩,
    fun hp => ⟨fun r hr hcreates => ?_, fun r hr hd => ?_⟩, fun id row hrow hout => ?_,
    hspec.allocations⟩
  · obtain ⟨r, hf, rfl⟩ := Option.map_eq_some_iff.mp hi
    have hcreates : r.2.operation.creates = true := by simpa using List.find?_some hf
    refine hset r (List.mem_of_find?_eq_some hf) hcreates .committed rfl ?_
    simp [presenceOutcome, hcreates, hp, hi]
  · by_cases hm : (id, row) ∈ l.observable subject
    · rw [hcrea _ (List.mem_of_mem_filter hm) hcreates]
      simp [presenceOutcome, hcreates, hp, hi, Reservation.after]
    · exact hspec.kept hrow hm
  · rw [hdestroy r hr hd, hp]
    rfl
  · exact hset r hr hcreates .released rfl (by simp [presenceOutcome, hcreates, hp])
  · rw [hdestroy r hr hd, hp]
    rfl
  · refine hspec.kept hrow fun hm => ?_
    obtain ⟨-, hs, -, ho⟩ := mem_observable.mp hm
    rcases hout with hn | ⟨hcreates, hdest⟩
    · exact hn hs
    · simp [hcreates, hdest] at ho

/-- A creation whose outcome is unknown. -/
def interrupted : List QuotaOp :=
  [.reserve ⟨sampleSubject, .terraformApply, [("vm_count", .integer 1)]⟩ "job:1", .markUncertain 1]

theorem presence_conservative_interrupted :
    ∃ l', reconcileTerraformPresence (quotaRun (Ledger.empty sampleScopes) interrupted) ⟨1, 1⟩ 7 true
        = .ok l' ∧ l'.statusOf 1 = some .committed := by
  obtain ⟨l', h⟩ := isOk_iff.mp (by decide +kernel : (reconcileTerraformPresence
    (quotaRun (Ledger.empty sampleScopes) interrupted) ⟨1, 1⟩ 7 true).isOk)
  have hs := presence_conservative sampleScopes interrupted ⟨1, 1⟩ 7 true l' h
  exact ⟨l', h, ((hs.1 rfl).1 1 (by decide +kernel)).mpr (by decide +kernel)⟩

/-! ### Confirmed absence -/

/-- The used counters are as they were. -/
def SameUsed (l l' : Ledger) : Prop :=
  (∀ t d, (l'.tenantCounter t d).used = (l.tenantCounter t d).used)
    ∧ ∀ s d, (l'.projectCounter s d).used = (l.projectCounter s d).used

theorem SameUsed.trans {l₂ : Ledger} (h₁ : SameUsed l l₁) (h₂ : SameUsed l₁ l₂) : SameUsed l l₂ :=
  ⟨fun t d => (h₂.1 t d).trans (h₁.1 t d), fun s d => (h₂.2 s d).trans (h₁.2 s d)⟩

theorem Shifted.sameUsed {held : Amounts} (h : Shifted l l' scope 0 held) :
    SameUsed l l' :=
  ⟨fun t d => by simp [h.tenant], fun s d => by simp [h.project]⟩

/-- A release moves no used counter and writes no committed row. -/
theorem Releases.frame (h : Releases l id l') : SameUsed l l' ∧ ∀ id' r,
    l'.reservations.find? id' = some r → r.status = .committed →
    l.reservations.find? id' = some r := by
  cases h with
  | missing | already => exact ⟨⟨fun _ _ => rfl, fun _ _ => rfl⟩, fun _ _ hr _ => hr⟩
  | @given l₁ row hrow _ hs =>
    refine ⟨hs.sameUsed, fun id' r hr hc => ?_⟩
    simp only [Ledger.write, hs.reservations, Table.find?_put_eq_some] at hr
    rcases hr with ⟨-, rfl⟩ | ⟨-, hr⟩
    · cases hc
    · exact hr

theorem releaseEach_frame {ids : List ℕ} (h : releaseEach ids l = .ok l') :
    SameUsed l l' ∧ ∀ id r, l'.reservations.find? id = some r → r.status = .committed →
      l.reservations.find? id = some r := by
  induction ids generalizing l with
  | nil =>
    cases h
    exact ⟨⟨fun _ _ => rfl, fun _ _ => rfl⟩, fun _ _ hr _ => hr⟩
  | cons id ids ih =>
    obtain ⟨l₁, hf, h⟩ := bind_eq_ok.mp h
    obtain ⟨hused, hrows⟩ := (releaseReservation_spec hf).frame
    obtain ⟨hused', hr'⟩ := ih h
    exact ⟨hused.trans hused', fun id r hr hc => hrows id r (hr' id r hr hc) hc⟩

/-- A request whose key no settled row holds gets a row of its own. -/
theorem Reserves.placed {quota : QuotaDelta} {key : String} {ds : Amounts}
    (h : Reserves l quota key (some id) l') (hd : values true quota.deltas = .ok ds)
    (hf : ∀ row, l.reservations.find? id = some row → row.requestKey = truncateKey key →
      row.subject = quota.subject → row.status = .released) :
    ∃ l₁ row event, Shifted l l₁ quota.subject.scope 0 (positive ds) ∧
      row.subject = quota.subject ∧ row.deltas = ds ∧ row.status = .reserved ∧
      l' = l₁.write id row event := by
  cases h with
  | existing hk hs _ hstatus =>
    obtain ⟨hr, hn⟩ := reservationByKey_eq_some hk
    exact absurd (hf _ hr hn hs) hstatus
  | @rearmed _ row l₁ _ hs hd' _ _ hsh =>
    cases hd.symm.trans hd'
    exact ⟨l₁, { row with status := .reserved, reconciliationRequired := false }, _,
      hs ▸ hsh, hs, rfl, rfl, rfl⟩
  | opened _ _ hd' _ _ hsh =>
    cases hd.symm.trans hd'
    exact ⟨_, _, _, hsh, rfl, rfl, rfl, rfl⟩

theorem unique_run (scs : Finset Scope) (ops : List QuotaOp) :
    (quotaRun (Ledger.empty scs) ops).UniqueKeys := by
  refine quotaRun_invariant (fun l l' hm => ?_) (fun _ _ _ _ h => by cases h) ops
  have hacts : Acts (fun _ _ => True) l l' := .single ⟨hm, fun _ _ _ => .inr trivial⟩
  have harms : Arms l l' fun _ => True := hacts.arms (by simp)
  exact harms.unique

/-- No committed reservation of the subject is stored under the key. -/
def Ledger.KeyUnspent (l : Ledger) (subject : Subject) (key : String) : Prop :=
  ∀ id row, l.reservations.find? id = some row → row.requestKey = truncateKey key →
    row.subject = subject → row.status ≠ .committed

/-- Nothing is accounted for the subject any more, and the counters have dropped by what was. -/
structure AccountedAbsent (l : Ledger) (subject : Subject) (l' : Ledger) : Prop where
  allocation : l'.allocations.find? subject = none
  active : l'.activeOf subject = []
  tenant : ∀ d, (l'.tenantCounter subject.scope.tenantId d).used
    = (l.tenantCounter subject.scope.tenantId d).used - l.allocation subject d
  project : ∀ d, (l'.projectCounter subject.scope d).used
    = (l.projectCounter subject.scope d).used - l.allocation subject d

section Absence

variable {subject : Subject} {key : String}
  (h : accountConfirmedAbsent l subject key = .ok l')
include h

/-- A committed row answers for its key, and what is allocated stays. -/
theorem accountConfirmedAbsent_spent (hunique : l.UniqueKeys) (hspent : ¬l.KeyUnspent subject key)
    (hallocated : l.allocation subject ≠ 0) : l'.allocation subject ≠ 0 := by
  obtain ⟨n, l₁, hrelease, -, hre⟩ := accountConfirmedAbsent_spec h
  have hl := (releaseActiveForSubject_spec hrelease).2.2
  have he : l₁.allocation subject = l.allocation subject := by
    rw [Ledger.allocation, releaseEach_allocations hl, Ledger.allocation]
  rcases hre with ⟨hz, -⟩ | ⟨-, id, l₂, hres, hc⟩
  · exact absurd (he ▸ hz) hallocated
  simp only [Ledger.KeyUnspent, not_forall, not_not] at hspent
  obtain ⟨r, row, hrow, hkey, -, hcommitted⟩ := hspent
  -- the release has left the row, and it is the only one under the key
  have hacts : Acts (fun _ _ => True) l l₁ :=
    releaseActiveForSubject_acts hrelease fun _ _ _ _ _ => trivial
  have hspares : Spares l l₁ fun _ => True := hacts.spares fun _ _ _ _ => trivial
  have harms : Arms l l₁ fun _ => True := hacts.arms (by simp)
  obtain ⟨row₁, hrow₁, hkept⟩ := hspares r row hrow
  have hcommit₁ := hkept.committed hcommitted
  have hfound {id : ℕ} {other : Reservation}
      (hk : l₁.reservationByKey (truncateKey key) = some (id, other)) :
      id = r ∧ other.status = .committed := by
    obtain ⟨hr, hn⟩ := reservationByKey_eq_some hk
    have hi := harms.unique hunique id r other row₁ hr hrow₁
      (hn.trans (hkey.symm.trans hkept.requestKey.symm))
    subst hi
    cases hrow₁.symm.trans hr
    exact ⟨rfl, hcommit₁⟩
  cases hres with
  | existing hk =>
    obtain ⟨rfl, -⟩ := hfound hk
    cases hc with
    | missing | already => rwa [he]
    | settled hr ha =>
      cases hrow₁.symm.trans hr
      rw [hcommit₁] at ha
      cases ha
  | rearmed hk _ _ hst =>
    rw [(hfound hk).2] at hst
    cases hst
  | opened hk => exact absurd (hkept.requestKey.trans hkey) (reservationByKey_eq_none hk hrow₁)

theorem accountConfirmedAbsent_unspent (htidy : Tidy l)
    (hkey : l.allocation subject = 0 ∨ l.KeyUnspent subject key) : AccountedAbsent l subject l' := by
  obtain ⟨n, l₁, hrelease, -, hre⟩ := accountConfirmedAbsent_spec h
  have hl := (releaseActiveForSubject_spec hrelease).2.2
  obtain ⟨⟨ht, hp⟩, hrows⟩ := releaseEach_frame hl
  have hi := releaseActiveForSubject_idle hrelease
  have ha : l₁.allocations = l.allocations := releaseEach_allocations hl
  have he : l₁.allocation subject = l.allocation subject := by
    rw [Ledger.allocation, ha, Ledger.allocation]
  rcases hre with ⟨hz, rfl⟩ | ⟨hz, id, l₂, hres, hc⟩
  · rw [he] at hz
    refine ⟨ha ▸ htidy.find?_eq_none hz, hi, fun d => ?_, fun d => ?_⟩
    all_goals simp [ht, hp, hz]
  replace hkey := hkey.resolve_left (he ▸ hz)
  -- what the subject holds was released, so only a committed row could answer for the key
  have hplaced := hres.placed (values_toMapping (Or.inl rfl)) fun row hrow hname hs => by
    have hinactive := activeOf_eq_nil.mp hi id row hrow hs
    cases hstatus : row.status with
    | released => rfl
    | committed => exact absurd hstatus (hkey id row (hrows id row hrow hstatus) hname hs)
    | reserved | uncertain => rw [hstatus] at hinactive; cases hinactive
  obtain ⟨l₃, row, event, hshift, hsub, hd, hstatus, rfl⟩ := hplaced
  obtain ⟨l₄, -, hshift', rfl⟩ := hc.of_active (Table.find?_put_self ..) (by rw [hstatus]; rfl)
  have htarget : (l₃.write id row event).allocation row.subject + row.deltas = 0 := by
    have hk : (l₃.write id row event).allocation subject = l₁.allocation subject := by
      simp only [Ledger.allocation, Ledger.write, hshift.allocations]
    rw [hsub, hd, hk, add_neg_cancel]
  refine ⟨?_, activeOf_eq_nil.mpr fun id' r hr hs => ?_, fun d => ?_, fun d => ?_⟩
  · change (l₄.putAllocation _ _).allocations.find? subject = none
    rw [find?_putAllocation, if_pos hsub.symm, htarget, if_neg (by simp)]
  · change (l₄.reservations.put id _).find? id' = some r at hr
    rw [hshift'.reservations] at hr
    rcases Table.find?_put_eq_some.mp hr with ⟨-, rfl⟩ | ⟨hn, hr⟩
    · rfl
    change (l₃.reservations.put id _).find? id' = some r at hr
    rw [Table.find?_put_of_ne _ _ hn, hshift.reservations] at hr
    exact activeOf_eq_nil.mp hi id' r hr hs
  -- the reservation moves nothing that is used, its commit the negated allocation
  · change (l₄.tenantCounter _ d).used = _
    rw [hshift'.tenant, hsub, hd, he]
    simp only [if_true, Usage.shift_used, Pi.neg_apply, ← sub_eq_add_neg]
    change (l₃.tenantCounter _ d).used - _ = _
    rw [hshift.sameUsed.1, ht]
  · change (l₄.projectCounter _ d).used = _
    rw [hshift'.project, hsub, hd, he]
    simp only [if_true, Usage.shift_used, Pi.neg_apply, ← sub_eq_add_neg]
    change (l₃.projectCounter _ d).used - _ = _
    rw [hshift.sameUsed.2, hp]

end Absence

/-- **Confirmed absence removes all accounting** of a subject if and only if there was none, or the
request key is not that of a committed reservation of the subject. -/
theorem confirmed_absence (scopes : Finset Scope) (ops : List QuotaOp) (subject : Subject)
    (key : String) (l' : Ledger)
    (h : accountConfirmedAbsent (quotaRun (Ledger.empty scopes) ops) subject key = .ok l') :
    let l := quotaRun (Ledger.empty scopes) ops
    AccountedAbsent l subject l' ↔ l.allocation subject = 0 ∨ l.KeyUnspent subject key := by
  intro l
  refine ⟨fun habsent => ?_, accountConfirmedAbsent_unspent h (tidy_run scopes ops)⟩
  by_contra hneither
  obtain ⟨hallocated, hspent⟩ := not_or.1 hneither
  refine accountConfirmedAbsent_spent h (unique_run scopes ops) hspent hallocated ?_
  rw [Ledger.allocation, habsent.allocation]
  rfl

/-- A deployment that was created, confirmed absent under a key and created again. -/
def recreated (key : String) : List QuotaOp :=
  [.reserve ⟨sampleSubject, .terraformApply, [("vm_count", .integer 1)]⟩ "job:1", .commit 1,
    .accountConfirmedAbsent sampleSubject key,
    .reserve ⟨sampleSubject, .terraformApply, [("vm_count", .integer 1)]⟩ "job:2", .commit 3]

theorem confirmed_absence_recreated :
    ∃ l', accountConfirmedAbsent (quotaRun (Ledger.empty sampleScopes) (recreated "missing:1"))
        sampleSubject "missing:2" = .ok l'
      ∧ l'.allocations.find? sampleSubject = none ∧ l'.activeOf sampleSubject = []
      ∧ (l'.projectCounter ⟨1, 1⟩ .vmCount).used = 0 := by
  obtain ⟨l', h⟩ := isOk_iff.mp (by decide +kernel : (accountConfirmedAbsent
    (quotaRun (Ledger.empty sampleScopes) (recreated "missing:1")) sampleSubject "missing:2").isOk)
  have hg := (confirmed_absence sampleScopes (recreated "missing:1") sampleSubject "missing:2" l'
    h).2 (.inr (Table.forall_find?.mpr (by decide +kernel)))
  refine ⟨l', h, hg.allocation, hg.active, (hg.project .vmCount).trans ?_⟩
  decide +kernel

/-- The same key a second time: the committed row of the first absence answers for it, the call
returns and the allocation stays. -/
theorem absence_under_used_key :
    (accountConfirmedAbsent (quotaRun (Ledger.empty sampleScopes) (recreated "missing:1"))
      sampleSubject "missing:1").map (fun l' => (l'.allocation sampleSubject .vmCount,
        (l'.projectCounter ⟨1, 1⟩ .vmCount).used)) = .ok (1, 1) := by
  decide +kernel

end CloudPortal
