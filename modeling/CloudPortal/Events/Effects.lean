/-
CloudPortal/Events/Effects.lean

What the operations of the broker change, in the terms in which the results are stated: which
events can be seen, where the cursors of the extensions stand (`cursors`), and which
deliveries there are (`keys`: a delivery without its status and its attempts).
-/
import CloudPortal.Events.Broker

namespace CloudPortal.Events

open RowStore Transition

/-! ### The log -/

variable {s s' : Broker} {ev : EventRecord} {row : ExtensionDelivery} {reg : Registry}
  {start : Start} {name : String} {states : Table String ExtensionState}
  {deliveries : Table ℕ ExtensionDelivery} {id : ℕ}
  {cur : ℕ} {data : ConsumerInput} {step : Step} {ret : ℤ}

theorem mem_eventsAfter {limit sequence : ℕ} (h : (sequence, ev) ∈ s.eventsAfter cur limit) :
    s.events.find? sequence = some ev ∧ cur < sequence := by
  have hselect := Table.mem_select.1 (Batch.mem_of_mem_first _ h)
  exact ⟨hselect.1, of_decide_eq_true hselect.2⟩

instance bySequence_total : Std.Total fun x y : ℕ × EventRecord => x.1 ≤ y.1 :=
  ⟨fun x y => Nat.le_total x.1 y.1⟩

instance bySequence_trans : IsTrans (ℕ × EventRecord) fun x y => x.1 ≤ y.1 :=
  ⟨fun _ _ _ => Nat.le_trans⟩

/-- A query of the log leaves no event out that comes before one it returns. -/
theorem mem_eventsAfter_of_le {limit sequence : ℕ} {last : ℕ × EventRecord}
    (hl : last ∈ s.eventsAfter cur limit) (hv : s.events.find? sequence = some ev)
    (hc : cur < sequence) (hle : sequence ≤ last.1) :
    (sequence, ev) ∈ s.eventsAfter cur limit := by
  have hselect : (sequence, ev) ∈ s.events.select fun sequence _ => cur < sequence :=
    Table.mem_select.2 ⟨hv, decide_eq_true hc⟩
  refine Batch.mem_first_of_rel _ hselect hl fun hb => ?_
  obtain ⟨sequence', ev'⟩ := last
  obtain rfl : sequence = sequence' := Nat.le_antisymm hle hb
  rw [(mem_eventsAfter hl).1] at hv
  cases hv
  rfl

section

variable {txn sequence : ℕ}

/-- A draft of the transaction is what can be seen after the commit. -/
theorem find?_commit_of_draft {dr : Draft} (hdr : s.drafts.find? sequence = some dr)
    (htx : dr.transaction = txn) :
    (commit s txn).events.find? sequence = some dr.record := by
  refine Table.find?_putAll_of_mem ?_ (List.mem_map.2 ⟨(sequence, dr), ?_, rfl⟩)
  · rw [List.map_map]
    exact (List.filter_sublist.map Prod.fst).nodup s.drafts.nodup
  · exact Table.mem_select.2 ⟨hdr, decide_eq_true htx⟩

theorem find?_commit_of_other (h : ∀ dr, s.drafts.find? sequence = some dr → dr.transaction ≠ txn) :
    (commit s txn).events.find? sequence = s.events.find? sequence := by
  refine Table.find?_putAll_of_not_mem fun hm => ?_
  rw [List.map_map] at hm
  obtain ⟨⟨sequence, dr⟩, hdr, rfl⟩ := List.mem_map.1 hm
  obtain ⟨hf, htx⟩ := Table.mem_select.1 hdr
  exact h dr hf (of_decide_eq_true htx)

/-- An event after a commit was one before it, or a draft of the transaction. -/
theorem find?_commit (h : (commit s txn).events.find? sequence = some ev) :
    s.events.find? sequence = some ev ∨
      ∃ dr, s.drafts.find? sequence = some dr ∧ dr.transaction = txn
        ∧ dr.record = ev := by
  by_cases hdr : ∃ dr, s.drafts.find? sequence = some dr ∧ dr.transaction = txn
  · obtain ⟨dr, hf, htx⟩ := hdr
    rw [find?_commit_of_draft hf htx] at h
    exact .inr ⟨dr, hf, htx, Option.some.inj h⟩
  · rw [find?_commit_of_other fun dr hf htx => hdr ⟨dr, hf, htx⟩] at h
    exact .inl h

/-- Events stay visible, whatever is committed. -/
theorem isSome_find?_commit (h : (s.events.find? sequence).isSome) :
    ((commit s txn).events.find? sequence).isSome := by
  by_cases hdr : ∃ dr, s.drafts.find? sequence = some dr ∧ dr.transaction = txn
  · obtain ⟨dr, hf, htx⟩ := hdr
    rw [find?_commit_of_draft hf htx]
    rfl
  · rw [find?_commit_of_other fun dr hf htx => hdr ⟨dr, hf, htx⟩]
    exact h

end

/-! ### Cursors of extensions -/

/-- Where the cursor of an extension stands. -/
def cursors (states : Table String ExtensionState) (name : String) : Option ℕ :=
  (states.find? name).map (·.lastEventSequence)

/-- Rewriting a row without moving its cursor. -/
theorem cursors_put_of_eq {state state' : ExtensionState} (hf : states.find? name = some state)
    (he : state'.lastEventSequence = state.lastEventSequence) :
    cursors (states.put name state') = cursors states := by
  funext name'
  rw [cursors, cursors, Table.find?_put]
  split
  · next h => rw [h, hf, Option.map_some, Option.map_some, he]
  · rfl

theorem cursors_put (states : Table String ExtensionState) (name name' : String)
    (state : ExtensionState) : cursors (states.put name state) name'
      = if name' = name then some state.lastEventSequence else cursors states name' := by
  rw [cursors, Table.find?_put]
  split
  · rfl
  · rfl

/-- A row that `sync_extension_states` makes starts at the beginning or at the latest event;
the other cursors stay. -/
structure Synced (latest : ℕ) (states states' : Table String ExtensionState) : Prop where
  kept : ∀ name cursor, cursors states name = some cursor → cursors states' name = some cursor
  made : ∀ name cursor, cursors states name = none → cursors states' name = some cursor →
    cursor = 0 ∨ cursor = latest

theorem Synced.refl (latest : ℕ) (states : Table String ExtensionState) :
    Synced latest states states where
  kept _ _ h := h
  made _ _ hn hsome := by cases hn.symm.trans hsome

theorem Synced.trans {latest : ℕ} {states' states'' : Table String ExtensionState}
    (h : Synced latest states states') (h' : Synced latest states' states'') :
    Synced latest states states'' where
  kept name cur hcursor := h'.kept name cur (h.kept name cur hcursor)
  made name cur hn hsome := by
    rcases hmid : cursors states' name with - | cur'
    · exact h'.made name cur hmid hsome
    have hs := h'.kept name cur' hmid
    cases hs.symm.trans hsome
    exact h.made name cur hn hmid

theorem synced_syncState (latest : ℕ) (states : Table String ExtensionState)
    (spec : ExtensionSpec) : Synced latest states (syncState latest states spec) := by
  unfold syncState
  split
  · next hn =>
    have habsent : cursors states spec.name = none := by rw [cursors, hn, Option.map_none]
    constructor
    · intro name cur hc
      rw [cursors_put, if_neg, hc]
      rintro rfl
      cases habsent.symm.trans hc
    intro name cur hc hc'
    rw [cursors_put] at hc'
    split at hc'
    · cases hc'
      cases spec.replayExistingEvents with
      | true => exact .inl rfl
      | false => exact .inr rfl
    · cases hc.symm.trans hc'
  · next state hsome =>
    have hs : cursors (states.put spec.name { state with version := spec.version })
        = cursors states := cursors_put_of_eq hsome rfl
    constructor
    · intro name cur hc
      rw [hs, hc]
    intro name cur hc hc'
    rw [hs] at hc'
    cases hc.symm.trans hc'

theorem synced_syncExtensionStates (reg : Registry) (s : Broker) :
    Synced s.latestSequence s.states (syncExtensionStates reg s).states := by
  show Synced _ s.states (reg.specs.foldl (syncState s.latestSequence) s.states)
  generalize s.states = states
  induction reg.specs generalizing states with
  | nil => exact Synced.refl _ _
  | cons spec specs ih => exact (synced_syncState _ states spec).trans (ih _)

/-! ### Deliveries -/

/-- What a delivery is about. -/
structure DeliveryKey where
  extensionName : String
  eventSequence : ℕ
  isReplay : Bool
  deriving DecidableEq

def ExtensionDelivery.key (row : ExtensionDelivery) : DeliveryKey :=
  ⟨row.extensionName, row.eventSequence, row.isReplay⟩

def keys (deliveries : Table ℕ ExtensionDelivery) (id : ℕ) : Option DeliveryKey :=
  (deliveries.find? id).map (·.key)

/-- There is a delivery of this key. -/
def HasKey (deliveries : Table ℕ ExtensionDelivery) (key : DeliveryKey) : Prop :=
  ∃ id, keys deliveries id = some key

/-- No event has two deliveries to one extension that are no replays. -/
def Unique (deliveries : Table ℕ ExtensionDelivery) : Prop :=
  ∀ id id' key, keys deliveries id = some key → keys deliveries id' = some key →
    key.isReplay = false → id = id'

theorem keys_put_of_eq {row' : ExtensionDelivery} (hf : deliveries.find? id = some row)
    (he : row'.key = row.key) : keys (deliveries.put id row') = keys deliveries := by
  funext id'
  rw [keys, keys, Table.find?_put]
  split
  · next h => rw [h, hf, Option.map_some, Option.map_some, he]
  · rfl

theorem keys_put (deliveries : Table ℕ ExtensionDelivery) (id id' : ℕ) (row : ExtensionDelivery) :
    keys (deliveries.put id row) id' = if id' = id then some row.key else keys deliveries id' := by
  rw [keys, Table.find?_put]
  split
  · rfl
  · rfl

theorem hasKey_put_fresh {key : DeliveryKey} :
    HasKey (deliveries.put deliveries.fresh row) key ↔ row.key = key ∨ HasKey deliveries key := by
  constructor
  · rintro ⟨id, hi⟩
    rw [keys_put] at hi
    split at hi
    · exact .inl (Option.some.inj hi)
    · exact .inr ⟨id, hi⟩
  rintro (rfl | ⟨id, hi⟩)
  · exact ⟨deliveries.fresh, by rw [keys_put, if_pos rfl]⟩
  refine ⟨id, ?_⟩
  rw [keys_put, if_neg, hi]
  rintro rfl
  simp [keys, Table.find?_fresh] at hi

/-- A new delivery is a replay, or the only one of its key. -/
theorem Unique.put_fresh (h : Unique deliveries)
    (hn : row.isReplay = false → ¬ HasKey deliveries row.key) :
    Unique (deliveries.put deliveries.fresh row) := by
  intro id id' key hi hi' hreplay
  rw [keys_put] at hi hi'
  split at hi
  · next he =>
    cases hi
    split at hi'
    · next he' => rw [he, he']
    · exact absurd ⟨id', hi'⟩ (hn hreplay)
  · split at hi'
    · cases hi'
      exact absurd ⟨id, hi⟩ (hn hreplay)
    · exact h id id' key hi hi' hreplay

/-- The query before a delivery is made. -/
theorem delivered_iff {sequence : ℕ} :
    delivered deliveries name sequence = true ↔ HasKey deliveries ⟨name, sequence, false⟩ := by
  simp only [delivered, List.any_eq_true, Bool.and_eq_true, decide_eq_true_eq,
    Bool.not_eq_true', Prod.exists, Table.mem_rows, HasKey, keys, Option.map_eq_some_iff,
    ExtensionDelivery.key, DeliveryKey.mk.injEq, and_assoc]

/-- What the inner loop of a pass does to the deliveries. -/
structure Materialized (registry : Registry) (spec : ExtensionSpec)
    (events : List (ℕ × EventRecord)) (deliveries deliveries' : Table ℕ ExtensionDelivery) :
    Prop where
  kept : ∀ key, HasKey deliveries key → HasKey deliveries' key
  made : ∀ event ∈ events, registry.eventMatches spec.eventPatterns event.2.type = true →
    HasKey deliveries' ⟨spec.name, event.1, false⟩
  only : ∀ key, HasKey deliveries' key → HasKey deliveries key ∨ ∃ event ∈ events,
    key.eventSequence = event.1
  unique : Unique deliveries → Unique deliveries'

section

variable (reg : Registry) (now : ℤ) (spec : ExtensionSpec)
  (deliveries : Table ℕ ExtensionDelivery)

theorem materialized_materializeEvent (ev : ℕ × EventRecord) :
    Materialized reg spec [ev] deliveries (materializeEvent reg now spec deliveries ev) := by
  unfold materializeEvent
  split
  · next hc =>
    rw [Bool.and_eq_true, Bool.not_eq_true'] at hc
    constructor
    · intro key hk
      exact hasKey_put_fresh.2 (.inr hk)
    · intro ev' hv' _
      rw [List.mem_singleton.1 hv']
      exact hasKey_put_fresh.2 (.inl rfl)
    · intro key hk
      rcases hasKey_put_fresh.1 hk with rfl | hk
      · exact .inr ⟨ev, List.mem_singleton_self ev, rfl⟩
      · exact .inl hk
    · intro hunique
      refine hunique.put_fresh fun _ hk => ?_
      rw [delivered_iff.2 hk] at hc
      cases hc.2
  · next hc =>
    constructor
    · exact fun key hk => hk
    · intro ev' hv' hm
      rw [List.mem_singleton.1 hv'] at hm ⊢
      rw [hm, Bool.true_and, Bool.not_eq_true, Bool.not_eq_false'] at hc
      exact delivered_iff.1 hc
    · exact fun key hk => .inl hk
    · exact id

theorem materialized_foldl (events : List (ℕ × EventRecord)) :
    Materialized reg spec events deliveries
      (events.foldl (materializeEvent reg now spec) deliveries) := by
  induction events generalizing deliveries with
  | nil => exact ⟨fun _ h => h, nofun, fun _ h => .inl h, id⟩
  | cons ev events ih =>
    have hhead := materialized_materializeEvent reg now spec deliveries ev
    have htail := ih (materializeEvent reg now spec deliveries ev)
    constructor
    · exact fun key hk => htail.kept key (hhead.kept key hk)
    · intro ev' hv' hm
      rcases List.mem_cons.1 hv' with rfl | hv'
      · exact htail.kept _ (hhead.made _ (List.mem_singleton_self _) hm)
      · exact htail.made ev' hv' hm
    · intro key hk
      rcases htail.only key hk with hk | ⟨ev', hv', he⟩
      · rcases hhead.only key hk with hk | ⟨ev', hv', he⟩
        · exact .inl hk
        rw [List.mem_singleton.1 hv'] at he
        exact .inr ⟨ev, List.mem_cons_self, he⟩
      · exact .inr ⟨ev', List.mem_cons_of_mem _ hv', he⟩
    · exact fun hunique => htail.unique (hhead.unique hunique)

end

/-- What a pass does for one extension: nothing, or it makes the deliveries of a batch and
moves the cursor to the end of the batch. -/
theorem materialize_cases {pass : ℕ} (h : materialize reg s pass name = .ok s') :
    s' = s ∨ ∃ spec table loaded state last,
      reg.byName name = some spec ∧ s.passes.find? pass = some table
      ∧ table.find? name = some loaded ∧ s.states.find? name = some state
      ∧ (s.eventsAfter loaded.lastEventSequence 500).getLast? = some last
      ∧ s' = { s with
          deliveries := (s.eventsAfter loaded.lastEventSequence 500).foldl
            (materializeEvent reg s.now spec) s.deliveries
          states := s.states.put name { state with lastEventSequence := last.1 } } := by
  unfold materialize at h
  split at h
  · next spec loaded state hs hloaded ht =>
    obtain ⟨table, htable, hloaded⟩ := Option.bind_eq_some_iff.1 hloaded
    split at h
    · exact .inl (Except.ok.inj h).symm
    simp only at h
    split at h
    · exact .inl (Except.ok.inj h).symm
    next last hl =>
    exact .inr ⟨spec, table, loaded, state, last, hs, htable, hloaded, ht, hl, (Except.ok.inj h).symm⟩
  · exact .inl (Except.ok.inj h).symm

theorem byName_name {spec : ExtensionSpec} (h : reg.byName name = some spec) :
    spec.name = name :=
  of_decide_eq_true (List.find?_some (p := fun spec : ExtensionSpec => spec.name = name) h)

/-! ### Everything else -/

/-- What the dispatcher works with is as before, but for the progress of deliveries. -/
structure SameExtensions (s s' : Broker) : Prop where
  nextSequence : s'.nextSequence = s.nextSequence
  drafts : s'.drafts = s.drafts
  events : s'.events = s.events
  passes : s'.passes = s.passes
  cursors : cursors s'.states = Events.cursors s.states
  keys : keys s'.deliveries = Events.keys s.deliveries

/-- What consumers work with is as before. -/
structure SameReading (s s' : Broker) : Prop where
  events : s'.events = s.events
  consumers : s'.consumers = s.consumers
  floorSequence : s'.floorSequence = s.floorSequence

structure Untouched (s s' : Broker) : Prop extends SameExtensions s s', SameReading s s'

theorem Untouched.refl (s : Broker) : Untouched s s :=
  ⟨⟨rfl, rfl, rfl, rfl, rfl, rfl⟩, rfl, rfl⟩

theorem Untouched.trans {s'' : Broker} (h : Untouched s s') (h' : Untouched s' s'') :
    Untouched s s'' where
  nextSequence := h'.nextSequence.trans h.nextSequence
  drafts := h'.drafts.trans h.drafts
  events := h'.events.trans h.events
  passes := h'.passes.trans h.passes
  cursors := h'.cursors.trans h.cursors
  keys := h'.keys.trans h.keys
  consumers := h'.consumers.trans h.consumers
  floorSequence := h'.floorSequence.trans h.floorSequence

theorem untouched_deliverOne (reg : Registry) (succeeds : ℕ → Bool) (s : Broker) (id : ℕ) :
    Untouched s (deliverOne reg succeeds s id) := by
  unfold deliverOne
  split
  · exact Untouched.refl s
  next del hd =>
  split
  · exact Untouched.refl s
  next state ht =>
  have hwrite : ∀ (del' : ExtensionDelivery) (state' : ExtensionState),
      del'.key = del.key → state'.lastEventSequence = state.lastEventSequence →
      Untouched s { s with
        deliveries := s.deliveries.put id del'
        states := s.states.put del'.extensionName state' } := by
    intro del' state' hk hc
    have hn : del'.extensionName = del.extensionName :=
      congrArg DeliveryKey.extensionName hk
    refine ⟨⟨rfl, rfl, rfl, rfl, ?_, keys_put_of_eq hd hk⟩, rfl, rfl⟩
    exact cursors_put_of_eq (hn ▸ ht) hc
  split
  · exact Untouched.refl s
  split
  · exact hwrite _ _ rfl rfl
  split
  · exact hwrite _ _ rfl rfl
  split
  · exact hwrite _ _ rfl rfl
  split
  · exact hwrite _ _ rfl rfl
  · exact hwrite _ _ rfl rfl

theorem untouched_deliver (reg : Registry) (s : Broker) (succeeds locked : ℕ → Bool) :
    Untouched (syncExtensionStates reg s) (deliver reg s succeeds locked) := by
  unfold deliver
  simp only
  generalize syncExtensionStates reg s = s
  generalize s.deliveries.select _ = due
  induction Batch.first (fun x y => x.2.nextAttemptAt ≤ y.2.nextAttemptAt) 100 due
      generalizing s with
  | nil => exact Untouched.refl s
  | cons row batch ih => exact (untouched_deliverOne reg succeeds s row.1).trans (ih _)

theorem untouched_updateExtension {isEnabled : Bool}
    (h : updateExtension reg s name isEnabled = .ok s') :
    Untouched (syncExtensionStates reg s) s' := by
  unfold updateExtension at h
  split at h
  · cases h
  simp only at h
  split at h
  · cases h
  next state ht =>
  cases h
  exact ⟨⟨rfl, rfl, rfl, rfl, cursors_put_of_eq ht rfl, rfl⟩, rfl, rfl⟩

theorem untouched_retryDeadLetter (h : retryDeadLetter s id = .ok s') : Untouched s s' := by
  unfold retryDeadLetter at h
  split at h
  · cases h
  next row hr =>
  split at h
  · cases h
  cases h
  exact ⟨⟨rfl, rfl, rfl, rfl, rfl, keys_put_of_eq hr rfl⟩, rfl, rfl⟩

/-- A replay makes deliveries of one event, and they are marked. -/
structure Replayed (s s' : Broker) : Prop where
  kept : ∀ key, HasKey s.deliveries key → HasKey s'.deliveries key
  only : ∀ key, HasKey s'.deliveries key → HasKey s.deliveries key
    ∨ (s.events.find? key.eventSequence).isSome
  unique : Unique s.deliveries → Unique s'.deliveries
  rest : ∃ deliveries, s' = { s with deliveries }

theorem replayed_replayEvent {sequence : ℕ} {target : ReplayTarget}
    (h : replayEvent reg s sequence target = .ok s') : Replayed s s' := by
  unfold replayEvent at h
  split at h
  · cases h
  next ev hv =>
  cases h
  generalize reg.specs.filter _ = specs
  -- every round adds one marked delivery
  suffices hfold : ∀ deliveries : Table ℕ ExtensionDelivery,
      let deliveries' := specs.foldl (fun deliveries spec =>
        deliveries.put deliveries.fresh {
          extensionName := spec.name, eventSequence := sequence, isReplay := true
          nextAttemptAt := s.now }) deliveries
      (∀ key, HasKey deliveries key → HasKey deliveries' key)
        ∧ (∀ key, HasKey deliveries' key → HasKey deliveries key ∨ key.eventSequence = sequence)
        ∧ (Unique deliveries → Unique deliveries') by
    obtain ⟨hkept, ho, hunique⟩ := hfold s.deliveries
    refine ⟨hkept, fun key hk => (ho key hk).imp_right fun he => ?_, hunique, _, rfl⟩
    rw [he, hv]
    rfl
  induction specs with
  | nil => exact fun deliveries => ⟨fun _ h => h, fun _ h => .inl h, id⟩
  | cons spec specs ih =>
    intro deliveries
    obtain ⟨hkept, ho, hunique⟩ := ih (deliveries.put deliveries.fresh {
      extensionName := spec.name, eventSequence := sequence, isReplay := true
      nextAttemptAt := s.now })
    refine ⟨fun key hk => hkept key (hasKey_put_fresh.2 (.inr hk)), fun key hk => ?_,
      fun h => hunique (h.put_fresh nofun)⟩
    rcases ho key hk with hk | he
    · rcases hasKey_put_fresh.1 hk with rfl | hk
      · exact .inr rfl
      · exact .inl hk
    · exact .inr he

/-! ### Consumers -/

theorem consumer_ok {row : EventConsumer} (h : s.consumer id = .ok row) :
    s.consumers.find? id = some row := by
  unfold Broker.consumer at h
  split at h
  · cases h
  next hr =>
  cases h
  exact hr

/-- A start position lies in the retained range. -/
theorem resolveStartSequence_ok (h : resolveStartSequence s start = .ok cur) :
    s.floorSequence ≤ cur ∧ cur ≤ s.latestOrFloor := by
  cases start with
  | latest =>
    cases h
    exact ⟨le_max_right _ _, le_rfl⟩
  | earliest =>
    cases h
    exact ⟨le_rfl, le_max_right _ _⟩
  | sequence sequence =>
    simp only [resolveStartSequence] at h
    split at h
    · cases h
    next hinside =>
    cases h
    rw [not_or, Nat.not_lt, Nat.not_lt] at hinside
    exact hinside

theorem checkReadable_ok {row : EventConsumer} (h : checkReadable s row = .ok ()) :
    row.isActive = true ∧ s.floorSequence ≤ row.cursorSequence := by
  simp only [checkReadable] at h
  split at h
  · cases h
  next ha =>
  simp only [pure, Except.pure] at h
  split at h
  · cases h
  next hf =>
  rw [Bool.not_eq_true, Bool.not_eq_false'] at ha
  exact ⟨ha, Nat.not_lt.1 hf⟩

theorem createConsumer_ok (h : createConsumer s data start = .ok s') :
    ∃ cur, resolveStartSequence s start = .ok cur
      ∧ s' = { s with consumers := s.consumers.put s.consumers.fresh {
          eventPatterns := data.eventPatterns, cursorSequence := cur
          maxBatch := data.maxBatch, isActive := data.isActive } } := by
  obtain ⟨cur, hc, h⟩ := bind_eq_ok.1 h
  exact ⟨cur, hc, (Except.ok.inj h).symm⟩

theorem updateConsumer_ok (h : updateConsumer s id data = .ok s') :
    ∃ row cp, s.consumers.find? id = some row
      ∧ (cp = none ∨ cp = row.lastCheckpointSequence)
      ∧ s' = { s with consumers := s.consumers.put id { row with
          eventPatterns := data.eventPatterns, maxBatch := data.maxBatch
          isActive := data.isActive, lastCheckpointSequence := cp } } := by
  obtain ⟨row, hr, h⟩ := bind_eq_ok.1 h
  refine ⟨row, _, consumer_ok hr, ?_, (Except.ok.inj h).symm⟩
  split
  · exact .inl rfl
  · exact .inr rfl

theorem pollConsumer_ok {rl : Option ℕ} (h : pollConsumer reg s id rl = .ok s') :
    ∃ row, s.consumers.find? id = some row ∧ s.floorSequence ≤ row.cursorSequence
      ∧ s' = { s with consumers := s.consumers.put id { row with
          lastCheckpointSequence := some (pollAnswer reg s row rl).2 } } := by
  obtain ⟨row, hr, h⟩ := bind_eq_ok.1 h
  obtain ⟨⟨⟩, hreadable, h⟩ := bind_eq_ok.1 h
  exact ⟨row, consumer_ok hr, (checkReadable_ok hreadable).2, (Except.ok.inj h).symm⟩

theorem ackConsumer_ok {sequence : ℕ} (h : ackConsumer s id sequence = .ok s') :
    ∃ row cp, s.consumers.find? id = some row ∧ row.cursorSequence ≤ sequence
      ∧ row.lastCheckpointSequence = some cp ∧ sequence ≤ cp
      ∧ s' = { s with consumers := s.consumers.put id { row with
          cursorSequence := sequence } } := by
  obtain ⟨row, hr, h⟩ := bind_eq_ok.1 h
  obtain ⟨⟨⟩, -, h⟩ := bind_eq_ok.1 h
  simp only [pure, Except.pure] at h
  split at h
  · cases h
  next hforward =>
  split at h
  · cases h
  split at h
  · cases h
  next hp =>
  rcases hcp : row.lastCheckpointSequence with - | cp
  · rw [hcp] at hp
    exact absurd rfl hp
  · rw [hcp, Option.all_some, decide_eq_true_eq, Nat.not_lt] at hp
    exact ⟨row, cp, consumer_ok hr, Nat.not_lt.1 hforward, hcp, hp, (Except.ok.inj h).symm⟩

theorem resetConsumer_ok (h : resetConsumer s id start = .ok s') :
    ∃ row cur, s.consumers.find? id = some row ∧ resolveStartSequence s start = .ok cur
      ∧ s' = { s with consumers := s.consumers.put id { row with
          cursorSequence := cur, lastCheckpointSequence := none } } := by
  obtain ⟨row, hr, h⟩ := bind_eq_ok.1 h
  obtain ⟨cur, hc, h⟩ := bind_eq_ok.1 h
  exact ⟨row, cur, consumer_ok hr, hc, (Except.ok.inj h).symm⟩

theorem deleteConsumer_ok (h : deleteConsumer s id = .ok s') :
    s' = { s with consumers := s.consumers.erase id } := by
  obtain ⟨row, -, h⟩ := bind_eq_ok.1 h
  exact (Except.ok.inj h).symm

/-- The steps of consumers. -/
def Step.forConsumers : Step → Bool
  | .createConsumer .. | .updateConsumer .. | .poll .. | .ack .. | .reset .. | .deleteConsumer _ =>
    true
  | _ => false

/-- A consumer changes nothing but the consumers. -/
theorem apply_forConsumers (h : apply reg s step = .ok s')
    (hs : step.forConsumers = true) : ∃ consumers, s' = { s with consumers } := by
  cases step with
  | createConsumer data start =>
    obtain ⟨cur, -, rfl⟩ := createConsumer_ok h
    exact ⟨_, rfl⟩
  | updateConsumer id data =>
    obtain ⟨row, cp, -, -, rfl⟩ := updateConsumer_ok h
    exact ⟨_, rfl⟩
  | poll id rl =>
    obtain ⟨row, -, -, rfl⟩ := pollConsumer_ok h
    exact ⟨_, rfl⟩
  | ack id sequence =>
    obtain ⟨row, cp, -, -, -, -, rfl⟩ := ackConsumer_ok h
    exact ⟨_, rfl⟩
  | reset id start =>
    obtain ⟨row, cur, -, -, rfl⟩ := resetConsumer_ok h
    exact ⟨_, rfl⟩
  | deleteConsumer id => exact ⟨_, deleteConsumer_ok h⟩
  | _ => cases hs

/-- The steps that concern neither consumers nor which events there are. -/
def Step.forExtensions : Step → Bool
  | .publish .. | .rollback _ | .loadPass _ | .materialize .. | .deliver .. | .updateExtension ..
  | .replayEvent .. | .retryDeadLetter _ | .tick _ => true
  | _ => false

theorem apply_forExtensions (h : apply reg s step = .ok s')
    (hstep : step.forExtensions = true) : SameReading s s' := by
  cases step with
  | publish txn type =>
    simp only [apply, publishEvent] at h
    split at h
    · cases h
    cases h
    exact ⟨rfl, rfl, rfl⟩
  | rollback | loadPass | tick =>
    cases h
    exact ⟨rfl, rfl, rfl⟩
  | materialize pass name =>
    obtain rfl | ⟨spec, table, loaded, state, last, -, -, -, -, -, rfl⟩ := materialize_cases h
    · exact ⟨rfl, rfl, rfl⟩
    · exact ⟨rfl, rfl, rfl⟩
  | deliver succeeds locked =>
    cases h
    have hs := (untouched_deliver reg s succeeds locked).toSameReading
    exact ⟨hs.events, hs.consumers, hs.floorSequence⟩
  | updateExtension name isEnabled =>
    have hs := (untouched_updateExtension h).toSameReading
    exact ⟨hs.events, hs.consumers, hs.floorSequence⟩
  | replayEvent sequence target =>
    obtain ⟨deliveries, rfl⟩ := (replayed_replayEvent h).rest
    exact ⟨rfl, rfl, rfl⟩
  | retryDeadLetter id => exact (untouched_retryDeadLetter h).toSameReading
  | _ => cases hstep

/-! ### Retention -/

theorem find?_cleanupRetention {sequence : ℕ} :
    (cleanupRetention reg s ret).events.find? sequence = some ev ↔
      s.events.find? sequence = some ev
      ∧ disposable (syncExtensionStates reg s) (s.now - ret) sequence ev = false :=
  Table.find?_discard

theorem keys_cleanupRetention {key : DeliveryKey} :
    keys (cleanupRetention reg s ret).deliveries id = some key ↔
      keys s.deliveries id = some key
      ∧ ∀ ev, s.events.find? key.eventSequence = some ev →
        disposable (syncExtensionStates reg s) (s.now - ret) key.eventSequence ev = false := by
  have hg : ∀ sequence, sequence ∈ (s.events.select
      (disposable (syncExtensionStates reg s) (s.now - ret))).map Prod.fst ↔
      ∃ ev, s.events.find? sequence = some ev
        ∧ disposable (syncExtensionStates reg s) (s.now - ret) sequence ev = true :=
    fun _ => by simp only [List.mem_map, Prod.exists, exists_and_right, exists_eq_right,
      Table.mem_select]
  simp only [keys, Option.map_eq_some_iff]
  constructor
  · rintro ⟨row, hr, rfl⟩
    obtain ⟨hr, hstays⟩ := Table.find?_discard.1 hr
    refine ⟨⟨row, hr, rfl⟩, fun ev hv => ?_⟩
    by_contra hdisposable
    rw [Bool.not_eq_false] at hdisposable
    exact of_decide_eq_false hstays ((hg _).2 ⟨ev, hv, hdisposable⟩)
  · rintro ⟨⟨row, hr, rfl⟩, hstays⟩
    refine ⟨row, Table.find?_discard.2 ⟨hr, decide_eq_false fun hm => ?_⟩, rfl⟩
    obtain ⟨ev, hv, hdisposable⟩ := (hg _).1 hm
    exact Bool.false_ne_true ((hstays ev hv).symm.trans hdisposable)

end CloudPortal.Events
