/-
CloudPortal/Quota/Sparing.lean

What a quota operation leaves as it is.  A move of the ledger writes one row of the
reservations: it keeps the rows that were there (`Move.kept`), or opens one under a key that no
row has (`Move.before`).  So three relations follow for every call from the rows that it can
write (`Acts`):

* `Spares l l' freed`: every row of `l` is still there, under its key and for its subject, a
  committed row stays committed, and a row is released only if it was before or is one of
  `freed`;
* `Arms l l' keys`: request keys stay unique, as the column `request_key` is, and a row that is
  new, or reserved and was not before, has one of `keys` as its key;
* `Untouched subject l l'`: the allocation and the active reservations of a subject are as they
  were.
-/
import CloudPortal.Quota.Admission

namespace CloudPortal

open RowStore Transition Relation

/-- What becomes of a reservation row. -/
structure RowKept (row row' : Reservation) (freed : Prop) : Prop where
  requestKey : row'.requestKey = row.requestKey
  subject : row'.subject = row.subject
  committed : row.status = .committed → row'.status = .committed
  released : row'.status = .released → row.status = .released ∨ freed

/-- Only the reservations in `freed` are released. -/
def Spares (l l' : Ledger) (freed : ℕ → Prop) : Prop :=
  ∀ r row, l.reservations.find? r = some row
    → ∃ row', l'.reservations.find? r = some row' ∧ RowKept row row' (freed r)

section Rules

variable {l l₁ l₂ l' : Ledger} {freed freed' : ℕ → Prop} {id : ℕ} {row row' : Reservation}

theorem RowKept.refl (row : Reservation) (freed : Prop) : RowKept row row freed :=
  ⟨rfl, rfl, fun h => h, .inl⟩

theorem Spares.of_eq (h : l'.reservations = l.reservations) : Spares l l' freed := by
  intro r row hr
  rw [h]
  exact ⟨row, hr, .refl row _⟩

theorem Spares.trans (h₁ : Spares l l₁ freed) (h₂ : Spares l₁ l₂ freed) : Spares l l₂ freed := by
  intro r row hr
  obtain ⟨row₁, hr₁, hk₁⟩ := h₁ r row hr
  obtain ⟨row₂, hr₂, hk₂⟩ := h₂ r row₁ hr₁
  refine ⟨row₂, hr₂, ?_, ?_, ?_, ?_⟩
  · rw [hk₂.requestKey, hk₁.requestKey]
  · rw [hk₂.subject, hk₁.subject]
  · exact fun hc => hk₂.committed (hk₁.committed hc)
  intro hreleased
  rcases hk₂.released hreleased with hreleased | hfreed
  · exact hk₁.released hreleased
  · exact .inr hfreed

theorem Spares.mono (h : Spares l l' freed) (hmono : ∀ r, freed r → freed' r) :
    Spares l l' freed' := by
  intro r row hr
  obtain ⟨row', hr', hk⟩ := h r row hr
  exact ⟨row', hr', hk.requestKey, hk.subject, hk.committed,
    fun hrely => (hk.released hrely).imp_right (hmono r)⟩

/-- The status and the flag of a row are written over. -/
def Restated (row row' : Reservation) : Prop :=
  row.status ≠ .committed ∧ row' = { row with
    status := row'.status, reconciliationRequired := row'.reconciliationRequired }

/-- A move sets limits, opens a row under a new key, or restates a row. -/
theorem Move.puts (h : Move l l') : l'.reservations = l.reservations ∨
    ∃ id row', l'.reservations = l.reservations.put id row' ∧
      (id = l.reservations.fresh ∧ row'.status = .reserved
        ∧ l.reservationByKey row'.requestKey = none
      ∨ ∃ row, l.reservations.find? id = some row ∧ Restated row row') := by
  have hres {row row' : Reservation} (h : row.status.active = true ∨ row.status = .released)
      (hs : row' = { row with
        status := row'.status, reconciliationRequired := row'.reconciliationRequired }) :
      Restated row row' := by
    refine ⟨fun hc => ?_, hs⟩
    rw [hc] at h
    rcases h with h | h <;> cases h
  cases h with
  | relimited h =>
    obtain ⟨_, _, rfl⟩ := h.frame
    exact .inl rfl
  | opened hst hk _ _ _ hsh =>
    exact .inr ⟨_, _, congrArg (Table.put · _ _) hsh.reservations, .inl ⟨rfl, hst, hk⟩⟩
  | rearmed hr hreleased _ hsh =>
    exact .inr ⟨_, _, congrArg (Table.put · _ _) hsh.reservations,
      .inr ⟨_, hr, hres (.inr hreleased) rfl⟩⟩
  | settled h =>
    cases h with
    | committed hr ha _ hsh | released hr ha hsh =>
      exact .inr ⟨_, _, congrArg (Table.put · _ _) hsh.reservations,
        .inr ⟨_, hr, hres (.inl ha) rfl⟩⟩
    | marked hr ha => exact .inr ⟨_, _, rfl, .inr ⟨_, hr, hres (.inl ha) rfl⟩⟩

/-- What a move does to a row. -/
theorem Move.kept (h : Move l l') (hr : l.reservations.find? id = some row) :
    ∃ row', l'.reservations.find? id = some row' ∧ (row' = row ∨ Restated row row') := by
  rcases h.puts with he | ⟨i, row', hp, hcase⟩
  · exact ⟨row, he ▸ hr, .inl rfl⟩
  rw [hp, Table.find?_put]
  split
  · next hi =>
    subst hi
    rcases hcase with ⟨rfl, -⟩ | ⟨row₀, hrow₀, hres⟩
    · rw [Table.find?_fresh] at hr
      cases hr
    · cases hr.symm.trans hrow₀
      exact ⟨row', rfl, .inr hres⟩
  · exact ⟨row, hr, .inl rfl⟩

/-- What a sequence of moves releases is among the rows that it writes. -/
theorem Acts.spares {w : ℕ → Reservation → Prop} (h : Acts w l l')
    (hw : ∀ r row, w r row → row.status = .released → freed r) : Spares l l' freed := by
  induction h with
  | refl => exact .of_eq rfl
  | tail _ hl ih =>
    refine ih.trans fun r row hr => ?_
    obtain ⟨row', hr', hk⟩ := hl.1.kept hr
    refine ⟨row', hr', ?_⟩
    rcases hk with rfl | ⟨hn, hs⟩
    · exact .refl row' _
    refine ⟨by rw [hs], by rw [hs], fun h => absurd h hn, fun hrelease => ?_⟩
    rcases hl.2 r row' hr' with ho | hwritten
    · cases hr.symm.trans ho
      exact .inl hrelease
    · exact .inr (hw r row' hwritten hrelease)

end Rules

/-! ### What is held -/

variable {key : String}

/-- A reservation under this key that is not released. -/
def Ledger.Holds (l : Ledger) (key : String) (r : ℕ) : Prop :=
  ∃ row, l.reservations.find? r = some row ∧ row.requestKey = truncateKey key
    ∧ row.status ≠ .released

/-- What `reserve` returns is held. -/
theorem Reserves.holds {l l' : Ledger} {quota : QuotaDelta} {res : Option ℕ}
    (h : Reserves l quota key res l') (r : ℕ) (hr : res = some r) : l'.Holds key r := by
  subst hr
  obtain ⟨row, hrow, -, hk, hs⟩ := h.found
  exact ⟨row, hrow, hk, hs⟩

/-- An active reservation of a subject. -/
def Ledger.HeldFor (l : Ledger) (subject : Subject) (r : ℕ) : Prop :=
  ∃ row, l.reservations.find? r = some row ∧ row.subject = subject ∧ row.status.active

section Subjects

variable {l l₁ l₂ l' : Ledger} {sub : Subject} {freed : ℕ → Prop}

/-- A release does not touch the allocations. -/
theorem releaseEach_allocations {ids : List ℕ} (h : releaseEach ids l = .ok l') :
    l'.allocations = l.allocations := by
  induction ids generalizing l with
  | nil =>
    cases h
    rfl
  | cons id ids ih =>
    obtain ⟨l₁, hf, h⟩ := bind_eq_ok.mp h
    rw [ih h]
    exact (releaseReservation_spec hf).allocations

/-- Of the reservations that are held for a subject later, those that count were held for
it before. -/
theorem Spares.trans_heldFor (h₁ : Spares l l₁ freed) (h₂ : Spares l₁ l₂ (l₁.HeldFor sub)) :
    Spares l l₂ (fun r => freed r ∨ l.HeldFor sub r) := by
  intro r row hr
  obtain ⟨row₁, hr₁, hk₁⟩ := h₁ r row hr
  obtain ⟨row₂, hr₂, hk₂⟩ := h₂ r row₁ hr₁
  refine ⟨row₂, hr₂, hk₂.requestKey.trans hk₁.requestKey,
    hk₂.subject.trans hk₁.subject, fun h => hk₂.committed (hk₁.committed h), ?_⟩
  intro hreleased
  rcases hk₂.released hreleased with hreleased | ⟨row₃, hrow₃, hsubject, ha⟩
  · exact (hk₁.released hreleased).imp_right .inl
  rw [hr₁] at hrow₃
  cases hrow₃
  have hh (ha : row.status.active) : l.HeldFor sub r :=
    ⟨row, hr, hk₁.subject ▸ hsubject, ha⟩
  cases hs : row.status with
  | released => exact .inl rfl
  | reserved | uncertain => exact .inr (.inr (hh (by rw [hs]; rfl)))
  | committed =>
    rw [hk₁.committed hs] at ha
    cases ha

end Subjects

/-! ### The preparation of jobs -/

section Preparation

variable {l l' : Ledger} {tag tag' : QuotaTag} {job : JobRef}

theorem map_some_ne_none {ε α : Type} (x : Except ε α) : some <$> x ≠ .ok none := by
  cases x <;> exact nofun

theorem jobTarget_ne_none {d : DeploymentShape}
    (ho : job.operation.mutatingTerraform) : jobTarget l job d tag ≠ .ok none := by
  intro h
  unfold jobTarget at h
  cases hoperation : job.operation with
  | terraformApply | proxmoxProvision | terraformImport =>
    rw [hoperation] at h
    exact map_some_ne_none _ h
  | terraformDestroy | proxmoxDestroy =>
    rw [hoperation] at h
    cases h
  | _ =>
    rw [hoperation] at ho
    cases ho

/-- The job asks for no change of what its deployment has. -/
def NoChange (l : Ledger) (job : JobRef) (deployment : Option DeploymentShape) (tag : QuotaTag) :
    Prop :=
  ∀ shape, deployment = some shape → job.operation.mutatingTerraform
    → jobTarget l job shape tag = .ok (some (l.allocation (job.subject shape)))

/-- The payload keeps its reservation id if nothing changes, else what it gets is held. -/
theorem PreparesJob.carries {d : Option DeploymentShape} (h : PreparesJob l job tag d tag' l') :
    tag'.reservationId = tag.reservationId ∧ NoChange l job d tag
      ∨ ∀ r, tag'.reservationId = some r → l'.Holds (jobKey job.id) r := by
  cases h with
  | skipped hn =>
    refine .inl ⟨rfl, ?_⟩
    intro shape hshape ho
    rcases hn with hn | hn
    · rw [hshape] at hn
      cases hn
    · rw [hn] at ho
      cases ho
  | @unchanged shape tag₁ _ hsupersede hs =>
    refine .inl ⟨?_, ?_⟩
    · rcases supersede_spec hsupersede with ⟨-, rfl, -⟩ | ⟨-, n, -, rfl⟩
      · rfl
      dsimp only
      split <;> rfl
    rintro shape' ⟨⟩ ho
    have hs := hs.resolve_left (jobTarget_ne_none ho)
    rcases supersede_spec hsupersede with ⟨-, -, rfl⟩ | ⟨hd, n, hrelease, -⟩
    · exact hs
    have halloc : l'.allocation (job.subject shape) = l.allocation (job.subject shape) := by
      unfold Ledger.allocation
      rw [releaseEach_allocations (releaseActiveForSubject_spec hrelease).2.2]
    rw [← halloc, ← hs]
    -- the target of a destroy does not depend on the ledger
    unfold jobTarget
    cases hoperation : job.operation <;> rw [hoperation] at hd <;>
      first | rfl | cases hd
  | reserved _ _ hr => exact .inr hr.holds

theorem PreparesDay2.carries {jobId : ℕ} {tgt : Option InventoryRef} {act : Day2Kind}
    {ps : Day2Params} {live : Day2Live}
    (h : PreparesDay2 l jobId tgt act ps live tag tag' l') :
    tag'.reservationId = tag.reservationId
      ∨ ∀ r, tag'.reservationId = some r → l'.Holds (jobKey jobId) r := by
  cases h with
  | unchanged => exact .inl rfl
  | reserved _ _ _ hr => exact .inr hr.holds

end Preparation

/-! ### Request keys -/

/-- No two reservations have the same request key. -/
def Ledger.UniqueKeys (l : Ledger) : Prop :=
  ∀ r r' row row', l.reservations.find? r = some row → l.reservations.find? r' = some row'
    → row.requestKey = row'.requestKey → r = r'

/-- Rows become reserved, or come into being, only under `keys`. -/
structure Arms (l l' : Ledger) (keys : String → Prop) : Prop where
  rows : ∀ r row', l'.reservations.find? r = some row' → keys row'.requestKey
    ∨ ∃ row, l.reservations.find? r = some row ∧ row.requestKey = row'.requestKey
      ∧ (row'.status = .reserved → row.status = .reserved)
  unique : l.UniqueKeys → l'.UniqueKeys

section Rules

variable {l l₁ l₂ l' : Ledger} {keys : String → Prop} {id : ℕ} {row row' : Reservation} {r : ℕ}

theorem Arms.of_eq (h : l'.reservations = l.reservations) : Arms l l' keys := by
  constructor
  · intro r row' hr'
    rw [h] at hr'
    exact .inr ⟨row', hr', rfl, fun hr => hr⟩
  intro hunique
  unfold Ledger.UniqueKeys
  rw [h]
  exact hunique

theorem Arms.trans (h₁ : Arms l l₁ keys) (h₂ : Arms l₁ l₂ keys) : Arms l l₂ keys := by
  refine ⟨fun r row₂ hr₂ => ?_, fun hunique => h₂.unique (h₁.unique hunique)⟩
  rcases h₂.rows r row₂ hr₂ with hk | ⟨row₁, hr₁, hk₁, hs₁⟩
  · exact .inl hk
  rcases h₁.rows r row₁ hr₁ with hk | ⟨row, hr, hk, hs⟩
  · rw [hk₁] at hk
    exact .inl hk
  · exact .inr ⟨row, hr, hk.trans hk₁, fun hres => hs (hs₁ hres)⟩

theorem reservationByKey_eq_none {key : String} (h : l.reservationByKey key = none)
    (hr : l.reservations.find? r = some row) : row.requestKey ≠ key := by
  intro hk
  have hn := List.find?_eq_none.1 h (r, row) (Table.mem_rows.2 hr)
  simp [hk] at hn

/-- A row after a move was there under its key, or is new under a new key. -/
theorem Move.before (h : Move l l') (hr' : l'.reservations.find? r = some row') :
    (∃ row, l.reservations.find? r = some row ∧ row.requestKey = row'.requestKey) ∨
      row'.status = .reserved ∧ r = l.reservations.fresh ∧
        ∀ r₁ row₁, l.reservations.find? r₁ = some row₁ → row₁.requestKey ≠ row'.requestKey := by
  rcases h.puts with he | ⟨i, row₁, hp, hcase⟩
  · exact .inl ⟨row', he ▸ hr', rfl⟩
  rw [hp, Table.find?_put_eq_some] at hr'
  rcases hr' with ⟨rfl, rfl⟩ | ⟨-, hr'⟩
  · rcases hcase with ⟨hr, hst, hk⟩ | ⟨row, hrow, -, hs⟩
    · exact .inr ⟨hst, hr, fun _ _ => reservationByKey_eq_none hk⟩
    · exact .inl ⟨row, hrow, by rw [hs]⟩
  · exact .inl ⟨row', hr', rfl⟩

/-- What a sequence of moves arms is among the rows that it writes. -/
theorem Acts.arms {w : ℕ → Reservation → Prop} (h : Acts w l l')
    (hw : ∀ r row, w r row → row.status = .reserved → keys row.requestKey) : Arms l l' keys := by
  induction h with
  | refl => exact .of_eq rfl
  | tail _ hl ih =>
    refine ih.trans ⟨fun r row' hr' => ?_, fun hunique r r' row row' hr hr' hs => ?_⟩
    · rcases hl.2 r row' hr' with ho | hwritten
      · exact .inr ⟨row', ho, rfl, id⟩
      by_cases hres : row'.status = .reserved
      · exact .inl (hw r row' hwritten hres)
      rcases hl.1.before hr' with ⟨row, hr, hk⟩ | ⟨hn, -⟩
      · exact .inr ⟨row, hr, hk, fun h => absurd h hres⟩
      · exact absurd hn hres
    · rcases hl.1.before hr with ⟨row₀, hrow₀, hkey₀⟩ | ⟨-, rfl, hn⟩ <;>
        rcases hl.1.before hr' with ⟨row₁, hr₁, hk₁⟩ | ⟨-, rfl, hn'⟩
      · exact hunique r r' row₀ row₁ hrow₀ hr₁ (hkey₀.trans (hs.trans hk₁.symm))
      · exact absurd (hkey₀.trans hs) (hn' r row₀ hrow₀)
      · exact absurd (hk₁.trans hs.symm) (hn r' row₁ hr₁)
      · rfl

end Rules

/-- The allocation and the active reservations of the subject are as they were. -/
structure Untouched (subject : Subject) (l l' : Ledger) : Prop where
  allocation : l'.allocation subject = l.allocation subject
  rows : ∀ r row, l.reservations.find? r = some row → row.subject = subject → row.status.active
    → ∃ row', l'.reservations.find? r = some row' ∧ row'.subject = subject ∧ row'.status.active
      ∧ row'.deltas = row.deltas

section Rules

variable {l l₁ l₂ l' : Ledger} {sub : Subject}

theorem allocation_congr (h : l'.allocations = l.allocations) (sub : Subject) :
    l'.allocation sub = l.allocation sub := by
  rw [Ledger.allocation, h]
  rfl

theorem Untouched.of_eq (hrows : l'.reservations = l.reservations)
    (halloc : l'.allocations = l.allocations) : Untouched sub l l' := by
  refine ⟨allocation_congr halloc sub, fun r row hr hs ha => ?_⟩
  rw [hrows]
  exact ⟨row, hr, hs, ha, rfl⟩

theorem Untouched.trans (h₁ : Untouched sub l l₁) (h₂ : Untouched sub l₁ l₂) :
    Untouched sub l l₂ := by
  refine ⟨h₂.allocation.trans h₁.allocation, fun r row hr hs ha => ?_⟩
  obtain ⟨row₁, hr₁, hs₁, ha₁, hd₁⟩ := h₁.rows r row hr hs ha
  obtain ⟨row₂, hr₂, hs₂, ha₂, hd₂⟩ := h₂.rows r row₁ hr₁ hs₁ ha₁
  exact ⟨row₂, hr₂, hs₂, ha₂, hd₂.trans hd₁⟩

/-- A move changes the allocation of a subject by the commit of one of its reservations. -/
theorem Move.allocation (h : Move l l') (sub : Subject) :
    l'.allocation sub = l.allocation sub ∨ ∃ r row,
      l.reservations.find? r = some row ∧ row.status.active ∧ row.subject = sub ∧
        l'.reservations.find? r = some (row.settledAs .committed) := by
  cases h with
  | rearmed _ _ _ hsh | opened _ _ _ _ _ hsh => exact .inl (allocation_congr hsh.allocations sub)
  | relimited h =>
    obtain ⟨_, _, rfl⟩ := h.frame
    exact .inl rfl
  | settled h =>
    cases h with
    | released _ _ hsh => exact .inl (allocation_congr hsh.allocations sub)
    | marked => exact .inl rfl
    | @committed l₁ id row hr ha _ hsh =>
      by_cases hs : row.subject = sub
      · exact .inr ⟨id, row, hr, ha, hs, Table.find?_put_self ..⟩
      refine .inl ?_
      show Ledger.allocation (l₁.putAllocation row.subject _) sub = _
      rw [allocation_putAllocation, if_neg (Ne.symm hs)]
      exact allocation_congr hsh.allocations sub

/-- Moves that write no row of the subject, or leave it active, leave the subject alone. -/
theorem Acts.untouched {w : ℕ → Reservation → Prop} (h : Acts w l l')
    (hw : ∀ r row, w r row → row.subject = sub → row.status.active) :
    Untouched sub l l' := by
  induction h with
  | refl => exact .of_eq rfl rfl
  | @tail l₁ l₂ _ hl ih =>
    -- a row of the subject that was active before the last move is so after it
    have hrows (r : ℕ) (row row' : Reservation) (hr : l₁.reservations.find? r = some row)
        (ha : row.status.active) (hr' : l₂.reservations.find? r = some row')
        (hsub : row'.subject = sub) : row'.status.active := by
      rcases hl.2 r row' hr' with ho | hwritten
      · cases hr.symm.trans ho
        exact ha
      · exact hw r row' hwritten hsub
    refine ih.trans ⟨?_, fun r row hr hsub ha => ?_⟩
    · refine (hl.1.allocation sub).resolve_right ?_
      rintro ⟨r, row, hr, ha, hsub, hr'⟩
      exact Bool.false_ne_true (hrows r row _ hr ha hr' hsub)
    obtain ⟨row', hr', hk⟩ := hl.1.kept hr
    rcases hk with rfl | ⟨-, hs⟩
    · exact ⟨row', hr', hsub, ha, rfl⟩
    have hs' : row'.subject = sub := by rw [hs, hsub]
    exact ⟨row', hr', hs', hrows r row row' hr ha hr' hs', by rw [hs]⟩

end Rules

/-! ### The operations -/

section Operations

variable {l l' : Ledger} {sub : Subject} {id : ℕ}

/-- A call that settles a reservation of another subject. -/
theorem SettledAs.untouched {st : ReservationStatus} (h : SettledAs l id st l')
    {row : Reservation} (hr : l.reservations.find? id = some row) (hn : row.subject ≠ sub) :
    Untouched sub l l' := by
  refine Acts.untouched (w := fun _ row => row.subject ≠ sub) (h.acts fun row' hr' _ => ?_)
    fun _ _ ho hs => absurd hs ho
  cases hr.symm.trans hr'
  exact hn

end Operations

end CloudPortal
