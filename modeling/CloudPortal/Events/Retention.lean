/-
CloudPortal/Events/Retention.lean

Retention never deletes needed events (`retention_keeps_needed`).

A pass of the retention deletes nothing above the cursor of an active consumer or of an enabled
extension, and nothing that a pending or dead delivery refers to (`Spares`).  The floor is the
highest sequence that was ever deleted, so it stays behind every consumer that has been active
since it was created or reset.
-/
import CloudPortal.Events.Effects

namespace CloudPortal.Events

open RowStore Transition

/-! ### Statement -/

/-- The consumers that have been active since their creation or their last reset, as an
observer notes them. -/
def steadyConsumers (s : Broker) (step : Step) (s' : Broker) (steady : ℕ → Bool) : ℕ → Bool :=
  fun id =>
    let restarted := match step with
      | .createConsumer .. => id = s.consumers.fresh
      | .reset id' _ => id = id'
      | _ => false
    (s'.consumers.find? id).any (·.isActive) && (restarted || steady id)

/-- A pass of the retention deletes no event that is needed. -/
def Spares (s s' : Broker) : Prop :=
  ∀ sequence event, s.events.find? sequence = some event → s'.events.find? sequence = none →
    (∀ id row, s'.consumers.find? id = some row → row.isActive = true →
      sequence ≤ row.cursorSequence)
    ∧ (∀ name state, s'.states.find? name = some state → state.isEnabled = true →
      sequence ≤ state.lastEventSequence)
    ∧ ∀ id row, s.deliveries.find? id = some row → row.eventSequence = sequence →
      row.status ≠ .pending ∧ row.status ≠ .deadLetter

/-! ### One pass -/

theorem safeSequence_le {s : Broker} {seq cur : ℕ} (hs : (safeSequence s).all (seq ≤ ·) = true)
    (hc : cur ∈ (s.consumers.select fun _ row => row.isActive).map (·.2.cursorSequence)
      ++ (s.states.select fun _ row => row.isEnabled).map (·.2.lastEventSequence)) :
    seq ≤ cur := by
  unfold safeSequence at hs
  rcases hmin : ((s.consumers.select fun _ row => row.isActive).map (·.2.cursorSequence)
    ++ (s.states.select fun _ row => row.isEnabled).map (·.2.lastEventSequence)).min? with - | least
  · rw [List.min?_eq_none_iff.1 hmin] at hc
    cases hc
  · rw [hmin, Option.all_some, decide_eq_true_eq] at hs
    exact hs.trans ((List.min?_eq_some_iff.1 hmin).2 cur hc)

/-- What is deleted lies below all cursors that count, and no delivery needs it. -/
theorem disposable_spec {s : Broker} {cutoff : ℤ} {seq : ℕ} {ev : EventRecord}
    (h : disposable s cutoff seq ev = true) :
    (∀ id row, s.consumers.find? id = some row → row.isActive = true → seq ≤ row.cursorSequence)
    ∧ (∀ name state, s.states.find? name = some state → state.isEnabled = true →
      seq ≤ state.lastEventSequence)
    ∧ ∀ id row, s.deliveries.find? id = some row → row.eventSequence = seq →
      row.status ≠ .pending ∧ row.status ≠ .deadLetter := by
  simp only [disposable, Bool.and_eq_true, Bool.not_eq_true'] at h
  obtain ⟨⟨-, hp⟩, hs⟩ := h
  refine ⟨fun id row hrow hactive => ?_, fun name state hstate henabled => ?_,
    fun id row hrow hseq => ?_⟩
  · refine safeSequence_le hs (List.mem_append_left _ ?_)
    exact List.mem_map.2 ⟨(id, row), Table.mem_select.2 ⟨hrow, hactive⟩, rfl⟩
  · refine safeSequence_le hs (List.mem_append_right _ ?_)
    exact List.mem_map.2 ⟨(name, state), Table.mem_select.2 ⟨hstate, henabled⟩, rfl⟩
  · have ho := List.any_eq_false.1 hp (id, row) (Table.mem_rows.2 hrow)
    simp only [hseq, decide_true, Bool.true_and, Bool.or_eq_true, decide_eq_true_eq, not_or] at ho
    exact ho

theorem spares_cleanupRetention (reg : Registry) (s : Broker) (ret : ℤ) :
    Spares s (cleanupRetention reg s ret) := by
  intro seq ev hbefore hafter
  apply @disposable_spec (syncExtensionStates reg s) (s.now - ret) seq ev
  by_contra hs
  rw [Bool.not_eq_true] at hs
  cases (find?_cleanupRetention.2 ⟨hbefore, hs⟩).symm.trans hafter

/-! ### Invariants -/

/-- Every delivery has its event. -/
def Backed (s : Broker) : Prop :=
  ∀ key, HasKey s.deliveries key → (s.events.find? key.eventSequence).isSome

/-- The floor is behind every steady consumer. -/
def Behind (s : Broker) (steady : ℕ → Bool) : Prop :=
  ∀ id, steady id = true → ∃ row, s.consumers.find? id = some row ∧ row.isActive = true
    ∧ s.floorSequence ≤ row.cursorSequence

variable {row : EventConsumer} {id : ℕ}

section

variable {reg : Registry} {s s' : Broker} {steady : ℕ → Bool}

theorem Backed.congr (h : Backed s) (hevents : s'.events = s.events)
    (hk : keys s'.deliveries = keys s.deliveries) : Backed s' := by
  rintro key ⟨id, hi⟩
  rw [hk] at hi
  rw [hevents]
  exact h key ⟨id, hi⟩

theorem Backed.step (step : Step) (hs' : apply reg s step = .ok s') (h : Backed s) :
    Backed s' := by
  have hcons : step.forConsumers = true → Backed s' := by
    intro hstep
    obtain ⟨consumers, rfl⟩ := apply_forConsumers hs' hstep
    exact h.congr rfl rfl
  cases step with
  | publish txn type =>
    simp only [apply, publishEvent] at hs'
    split at hs'
    · cases hs'
    cases hs'
    exact h.congr rfl rfl
  | commit txn =>
    cases hs'
    exact fun key hk => isSome_find?_commit (h key hk)
  | rollback | loadPass | tick =>
    cases hs'
    exact h.congr rfl rfl
  | materialize pass name =>
    rcases materialize_cases hs' with rfl
      | ⟨spec, table, loaded, state, last, -, -, -, -, -, rfl⟩
    · exact h
    intro key hk
    rcases (materialized_foldl reg s.now spec s.deliveries _).only key hk with
      hk | ⟨ev, hv, he⟩
    · exact h key hk
    show (s.events.find? key.eventSequence).isSome
    rw [he, (mem_eventsAfter hv).1]
    rfl
  | deliver succeeds locked =>
    cases hs'
    have hs := (untouched_deliver reg s succeeds locked).toSameExtensions
    exact h.congr hs.events hs.keys
  | updateExtension name isEnabled =>
    have hs := (untouched_updateExtension hs').toSameExtensions
    exact h.congr hs.events hs.keys
  | replayEvent seq target =>
    have hreplayed := replayed_replayEvent hs'
    obtain ⟨dels, hr⟩ := hreplayed.rest
    subst hr
    exact fun key hk => (hreplayed.only key hk).elim (h key) id
  | retryDeadLetter id =>
    have hs := (untouched_retryDeadLetter hs').toSameExtensions
    exact h.congr hs.events hs.keys
  | cleanupRetention ret =>
    cases hs'
    -- a delivery that is left was not taken away with its event
    rintro key ⟨id, hi⟩
    obtain ⟨hi, hstatus⟩ := keys_cleanupRetention.1 hi
    obtain ⟨ev, hv⟩ := Option.isSome_iff_exists.1 (h key ⟨id, hi⟩)
    rw [find?_cleanupRetention.2 ⟨hv, hstatus ev hv⟩]
    rfl
  | _ => exact hcons rfl

/-- A consumer that is on record is active, and was on record or has just begun. -/
theorem steadyConsumers_eq_true {step : Step} (h : steadyConsumers s step s' steady id = true) :
    ∃ row, s'.consumers.find? id = some row ∧ row.isActive = true
      ∧ (steady id = true ∨ (∃ data start, step = .createConsumer data start
          ∧ id = s.consumers.fresh) ∨ ∃ start, step = .reset id start) := by
  simp only [steadyConsumers, Bool.and_eq_true, Bool.or_eq_true, Option.any_eq_true] at h
  obtain ⟨⟨row, hrow, hactive⟩, hsteady⟩ := h
  refine ⟨row, hrow, hactive, ?_⟩
  rcases hsteady with hr | hsteady
  · cases step with
    | createConsumer data start => exact .inr (.inl ⟨data, start, rfl, of_decide_eq_true hr⟩)
    | reset id' start =>
      obtain rfl := of_decide_eq_true hr
      exact .inr (.inr ⟨start, rfl⟩)
    | _ => cases hr
  · exact .inl hsteady

section

variable (h : Behind s steady) {step : Step} {new : EventConsumer}
  (hcreate : ∀ data start, step ≠ .createConsumer data start)
  (hreset : ∀ id start, step ≠ .reset id start)
include h hcreate hreset

/-- The rule for steps that restart no consumer: cursors do not fall, and the floor stays
behind the active ones. -/
theorem Behind.mono (hr : ∀ id row row', s.consumers.find? id = some row → row.isActive = true →
      s'.consumers.find? id = some row' → s.floorSequence ≤ row.cursorSequence →
      s'.floorSequence ≤ row'.cursorSequence) : Behind s' (steadyConsumers s step s' steady) := by
  intro id hi
  obtain ⟨row', hr', hactive', hsteady | ⟨data, start, he, -⟩ | ⟨start, he⟩⟩ :=
    steadyConsumers_eq_true hi
  · obtain ⟨row, hrow, hactive, hfloor⟩ := h id hsteady
    exact ⟨row', hr', hactive', hr id row row' hrow hactive hr' hfloor⟩
  · exact absurd he (hcreate data start)
  · exact absurd he (hreset id start)

/-- The same where one consumer is written and its cursor does not fall. -/
theorem Behind.put (hrow : s.consumers.find? id = some row)
    (hc : row.cursorSequence ≤ new.cursorSequence) :
    let s' := { s with consumers := s.consumers.put id new }
    Behind s' (steadyConsumers s step s' steady) := by
  intro s'
  refine h.mono hcreate hreset fun id' row₁ row₂ hr₁ _ hr₂ hfloor => ?_
  rcases Table.find?_put_eq_some.1 hr₂ with ⟨rfl, rfl⟩ | ⟨-, hr₂⟩
  · cases hrow.symm.trans hr₁
    exact hfloor.trans hc
  · cases hr₁.symm.trans hr₂
    exact hfloor

end

theorem Behind.cleanupRetention (h : Behind s steady) (ret : ℤ) :
    Behind (cleanupRetention reg s ret) (steadyConsumers s (.cleanupRetention ret)
      (cleanupRetention reg s ret) steady) := by
  refine h.mono nofun nofun fun id row row' hrow hactive hr' hfloor => ?_
  cases hrow.symm.trans hr'
  -- the floor rises to sequences that were deleted
  rcases Table.foldr_max_cases _ s.floorSequence with he | hm
  · exact he.trans_le hfloor
  obtain ⟨⟨seq, event⟩, hg, he⟩ := List.mem_map.1 hm
  exact he.symm.trans_le ((disposable_spec (Table.mem_select.1 hg).2).1 id row hrow hactive)

theorem Behind.step (step : Step) (hs' : apply reg s step = .ok s') (h : Behind s steady) :
    Behind s' (steadyConsumers s step s' steady) := by
  cases step with
  | createConsumer data start =>
    obtain ⟨cur, hc, rfl⟩ := createConsumer_ok hs'
    have hstart := (resolveStartSequence_ok hc).1
    intro id hi
    obtain ⟨row', hr', hactive', ho⟩ := steadyConsumers_eq_true hi
    refine ⟨row', hr', hactive', ?_⟩
    rcases Table.find?_put_eq_some.1 hr' with ⟨-, rfl⟩ | ⟨hn, hr'⟩
    · exact hstart
    rcases ho with hstep | ⟨-, -, -, he⟩ | ⟨start', he⟩
    · obtain ⟨row, hrow, -, hfloor⟩ := h id hstep
      cases hrow.symm.trans hr'
      exact hfloor
    · exact absurd he hn
    · cases he
  | reset id start =>
    obtain ⟨row, cur, -, hc, rfl⟩ := resetConsumer_ok hs'
    have hstart := (resolveStartSequence_ok hc).1
    intro id' hi'
    obtain ⟨row', hr', hactive', ho⟩ := steadyConsumers_eq_true hi'
    refine ⟨row', hr', hactive', ?_⟩
    rcases Table.find?_put_eq_some.1 hr' with ⟨-, rfl⟩ | ⟨hn, hr'⟩
    · exact hstart
    rcases ho with hstep | ⟨data, start', he, -⟩ | ⟨start', he⟩
    · obtain ⟨row, hrow, -, hfloor⟩ := h id' hstep
      cases hrow.symm.trans hr'
      exact hfloor
    · cases he
    · cases he
      exact absurd rfl hn
  | updateConsumer id data =>
    obtain ⟨row, cp, hrow, -, rfl⟩ := updateConsumer_ok hs'
    exact h.put (by simp) (by simp) hrow le_rfl
  | poll id rl =>
    obtain ⟨row, hrow, -, rfl⟩ := pollConsumer_ok hs'
    exact h.put (by simp) (by simp) hrow le_rfl
  | ack id seq =>
    obtain ⟨row, cp, hrow, hforward, -, -, rfl⟩ := ackConsumer_ok hs'
    exact h.put (by simp) (by simp) hrow hforward
  | deleteConsumer id =>
    obtain rfl := deleteConsumer_ok hs'
    refine h.mono (by simp) (by simp) fun id' row row' hrow _ hr' hfloor => ?_
    rw [Table.find?_erase] at hr'
    split at hr'
    · cases hr'
    cases hrow.symm.trans hr'
    exact hfloor
  | commit txn =>
    cases hs'
    refine h.mono (by simp) (by simp) fun id row row' hrow _ hr' hfloor => ?_
    cases hrow.symm.trans hr'
    exact hfloor
  | cleanupRetention ret =>
    cases hs'
    exact h.cleanupRetention ret
  | _ =>
    have hs := apply_forExtensions hs' rfl
    refine h.mono (by simp) (by simp) fun id row row' hrow _ hr' hfloor => ?_
    rw [hs.consumers, hrow] at hr'
    cases hr'
    exact hs.floorSequence.trans_le hfloor

/-! ### Runs -/

section

variable (hrow : s.consumers.find? id = some row) (hactive : row.isActive = true)
  (hfloor : s.floorSequence ≤ row.cursorSequence)
include hrow hactive hfloor

theorem pollConsumer_isOk (rl : Option ℕ) :
    (pollConsumer reg s id rl).isOk = true := by
  have hc : s.consumer id = .ok row := by rw [Broker.consumer, hrow]
  have hr : checkReadable s row = .ok () := by
    simp [checkReadable, hactive, Nat.not_lt.2 hfloor, pure, Except.pure]
  rw [pollConsumer, hc]
  simp only [bind, Except.bind, hr]
  rfl

theorem ackConsumer_ne_behindFloor (seq : ℕ) :
    ackConsumer s id seq ≠ .error behindFloor := by
  have hc : s.consumer id = .ok row := by rw [Broker.consumer, hrow]
  have hr : checkReadable s row = .ok () := by
    simp [checkReadable, hactive, Nat.not_lt.2 hfloor, pure, Except.pure]
  rw [ackConsumer, hc]
  simp only [bind, Except.bind, hr, pure, Except.pure, behindFloor, throw, throwThe,
    MonadExceptOf.throw]
  split_ifs <;> simp

end

end

/-- **Retention never deletes needed events**: after every run, a pass of the retention spares
what consumers, extensions and deliveries need; a consumer that has been active since its
creation or last reset is not behind the floor; and every pending delivery has its event. -/
theorem retention_keeps_needed (registry : Registry) (steps : List Step) :
    let t := run (attempt (observed (apply registry) steadyConsumers))
      (({} : Broker), fun _ => false) steps
    (∀ retention, Spares t.1 (cleanupRetention registry t.1 retention))
    ∧ (∀ id, t.2 id = true →
      (∀ requestedLimit, (pollConsumer registry t.1 id requestedLimit).isOk = true)
      ∧ ∀ sequence, ackConsumer t.1 id sequence ≠ .error behindFloor)
    ∧ ∀ id row, t.1.deliveries.find? id = some row → row.status = .pending →
      (t.1.events.find? row.eventSequence).isSome := by
  intro t
  have hbehind : Behind t.1 t.2 :=
    observed_invariant (apply registry) steadyConsumers Behind
      (fun s steady step s' hs' h => h.step step hs') (t := (({} : Broker), fun _ => false))
      nofun steps
  have hbacked : Backed t.1 :=
    observed_invariant (apply registry) steadyConsumers (fun s _ => Backed s)
      (fun s steady step s' hs' h => h.step step hs') (t := (({} : Broker), fun _ => false))
      nofun steps
  refine ⟨fun retention => spares_cleanupRetention registry t.1 retention, fun id hi => ?_,
    fun id row hrow _ => ?_⟩
  · obtain ⟨row, hrow, ha, hfloor⟩ := hbehind id hi
    exact ⟨pollConsumer_isOk hrow ha hfloor, ackConsumer_ne_behindFloor hrow ha hfloor⟩
  · refine hbacked row.key ⟨id, ?_⟩
    rw [keys, hrow, Option.map_some]

/-- A consumer reads an event, which an extension gets as well, and the retention deletes it. -/
def readAndForgotten : List Step :=
  [.loadPass 0, .createConsumer { eventPatterns := ["*"], maxBatch := 10 } .earliest,
    .publish 1 "vm.created",
    .commit 1, .loadPass 1, .materialize 1 "core.audit", .deliver (fun _ => true) fun _ => false,
    .poll 1 none, .ack 1 1, .tick 2, .cleanupRetention 1]

theorem retention_keeps_needed_readAndForgotten :
    let t := run (attempt (observed (apply auditRegistry) steadyConsumers))
      (({} : Broker), fun _ => false) readAndForgotten
    t.1.events.rows = [] ∧ t.1.floorSequence = 1
      ∧ (pollConsumer auditRegistry t.1 1 none).isOk = true := by
  refine ⟨by decide +kernel, by decide +kernel, ?_⟩
  exact ((retention_keeps_needed auditRegistry readAndForgotten).2.1 1 (by decide +kernel)).1 none

end CloudPortal.Events
