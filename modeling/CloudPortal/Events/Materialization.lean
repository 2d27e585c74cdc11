/-
CloudPortal/Events/Materialization.lean

No event is skipped or delivered twice (`materialized_once`).

An event that an extension subscribes to has one delivery that is no replay, or lies above the
cursor of the extension, so that a later pass sees it.  That there are never two such
deliveries holds in every run.  That there is one below the cursor holds as long as a pass
finds no draft below the events it reads: the sequence is drawn before the commit, and an event
that becomes visible behind the cursor is never looked at again (`skipped_by_late_commit`).

The invariant is about every position that the dispatcher may still write from, the cursor in
the database and those that passes have loaded before (`Position`, `Reached`).
-/
import CloudPortal.Events.Effects

namespace CloudPortal.Events

open RowStore Transition

/-! ### Statement -/

/-- The cursor with which each extension begins, as an observer notes it. -/
def firstCursors (_ : Broker) (_ : Step) (s' : Broker) (initial : String → Option ℕ) :
    String → Option ℕ :=
  fun name => (initial name).or (cursors s'.states name)

/-- The deliveries of an event to an extension that are no replays. -/
def normalDeliveries (s : Broker) (name : String) (sequence : ℕ) : List (ℕ × ExtensionDelivery) :=
  s.deliveries.select fun _ row =>
    row.extensionName = name && row.eventSequence = sequence && !row.isReplay

/-- A pass that reads the log finds no draft below the events that are new to it. -/
def NoLateDraft (s : Broker) : Step → Prop
  | .materialize pass name => ∀ loaded ∈ (s.passes.find? pass).bind (·.find? name),
      ∀ draft ∈ s.drafts.rows, ∀ event ∈ s.events.rows,
        loaded.lastEventSequence < event.1 → event.1 < draft.1
  | _ => True

instance (s : Broker) (step : Step) : Decidable (NoLateDraft s step) := by
  unfold NoLateDraft
  split <;> infer_instance

/-! ### Positions -/

/-- The dispatcher may continue from this cursor. -/
def Position (s : Broker) (name : String) (cursor : ℕ) : Prop :=
  cursors s.states name = some cursor ∨
    ∃ pass table, s.passes.find? pass = some table ∧ cursors table name = some cursor

/-- Up to the cursor all is delivered, and nothing will appear there. -/
structure Reached (registry : Registry) (spec : ExtensionSpec) (s : Broker)
    (initial cursor : ℕ) : Prop where
  delivered : ∀ sequence event, s.events.find? sequence = some event →
    registry.eventMatches spec.eventPatterns event.type = true → initial < sequence →
    sequence ≤ cursor → HasKey s.deliveries ⟨spec.name, sequence, false⟩
  ahead : ∀ sequence draft, s.drafts.find? sequence = some draft → initial < sequence →
    cursor < sequence
  drawn : cursor < s.nextSequence

structure Inv (registry : Registry) (s : Broker) (initial : String → Option ℕ) : Prop where
  positive : 0 < s.nextSequence
  drafts : ∀ sequence draft, s.drafts.find? sequence = some draft → sequence < s.nextSequence
  events : ∀ sequence event, s.events.find? sequence = some event → sequence < s.nextSequence
  apart : ∀ sequence draft event, s.drafts.find? sequence = some draft →
    s.events.find? sequence ≠ some event
  unique : Unique s.deliveries
  recorded : ∀ name first, initial name = some first → (cursors s.states name).isSome
  reached : ∀ name cursor, Position s name cursor → ∃ first, initial name = some first
    ∧ ∀ spec, registry.byName name = some spec → Reached registry spec s first cursor

variable {name : String}

section

variable {reg : Registry} {s s' : Broker} {init : String → Option ℕ}

/-- Nothing new is noted where every extension is on record. -/
theorem Inv.noted (h : Inv reg s' init) {step : Step} :
    firstCursors s step s' init = init := by
  funext name
  unfold firstCursors
  rcases hinitial : init name with - | first
  · rcases hc : cursors s'.states name with - | cur
    · rfl
    obtain ⟨first, hf, -⟩ := h.reached name cur (.inl hc)
    cases hinitial.symm.trans hf
  · rfl

variable {spec : ExtensionSpec} {cur first pass : ℕ}

/-- A position stays reached while visible events appear only above it, their deliveries
stay, and drafts only get new numbers. -/
theorem Reached.mono (h : Reached reg spec s first cur)
    (hevent : ∀ seq ev, s'.events.find? seq = some ev → first < seq →
      seq ≤ cur → s.events.find? seq = some ev
        ∧ (HasKey s.deliveries ⟨spec.name, seq, false⟩ →
          HasKey s'.deliveries ⟨spec.name, seq, false⟩))
    (hdraft : ∀ seq dr, s'.drafts.find? seq = some dr →
      s.drafts.find? seq = some dr ∨ seq = s.nextSequence)
    (hn : s.nextSequence ≤ s'.nextSequence) : Reached reg spec s' first cur where
  delivered seq ev hv hm hfst hcursor := by
    obtain ⟨hb, hk⟩ := hevent seq ev hv hfst hcursor
    exact hk (h.delivered seq ev hb hm hfst hcursor)
  ahead seq dr hdr hfst := by
    rcases hdraft seq dr hdr with hdr | rfl
    · exact h.ahead seq dr hdr hfst
    · exact h.drawn
  drawn := h.drawn.trans_le hn

theorem Reached.congr (h : Reached reg spec s first cur)
    (hn : s'.nextSequence = s.nextSequence) (hdraft : s'.drafts = s.drafts)
    (hevent : s'.events = s.events) (hd : s'.deliveries = s.deliveries) :
    Reached reg spec s' first cur := by
  refine h.mono ?_ ?_ hn.ge
  · intro seq event hv _ _
    rw [hevent] at hv
    exact ⟨hv, fun hk => hd ▸ hk⟩
  · intro seq draft hdr
    exact .inl (hdraft ▸ hdr)

theorem Inv.sameExtensions (h : Inv reg s init) (hs : SameExtensions s s') :
    Inv reg s' init := by
  have hpos : ∀ name cur, Position s' name cur → Position s name cur := by
    intro name cur
    rw [Position, Position, hs.cursors, hs.passes]
    exact id
  constructor
  · exact hs.nextSequence ▸ h.positive
  · rw [hs.drafts, hs.nextSequence]
    exact h.drafts
  · rw [hs.events, hs.nextSequence]
    exact h.events
  · rw [hs.drafts, hs.events]
    exact h.apart
  · rw [Unique, hs.keys]
    exact h.unique
  · rw [hs.cursors]
    exact h.recorded
  · intro name cur hc
    obtain ⟨first, hf, hr⟩ := h.reached name cur (hpos name cur hc)
    refine ⟨first, hf, fun spec hspec => (hr spec hspec).mono ?_ ?_ ?_⟩
    · intro seq event hv _ _
      rw [hs.events] at hv
      refine ⟨hv, fun hk => ?_⟩
      rw [HasKey, hs.keys]
      exact hk
    · intro seq draft hdr
      rw [hs.drafts] at hdr
      exact .inl hdr
    · exact hs.nextSequence.ge

/-- Extensions that begin are noted with their first cursor. -/
theorem Inv.sync (h : Inv reg s init) :
    Inv reg (syncExtensionStates reg s) fun name =>
      (init name).or (cursors (syncExtensionStates reg s).states name) := by
  have hsynced := synced_syncExtensionStates reg s
  -- a row that is made stands at its own first cursor
  have hmade : ∀ name cur, init name = none →
      cursors (syncExtensionStates reg s).states name = some cur →
      cur < s.nextSequence := by
    intro name cur hinitial hc
    have hn : cursors s.states name = none := by
      by_contra hs
      obtain ⟨cur', hc'⟩ := Option.ne_none_iff_exists'.1 hs
      obtain ⟨first, hf, -⟩ := h.reached name cur' (.inl hc')
      cases hinitial.symm.trans hf
    rcases hsynced.made name cur hn hc with rfl | rfl
    · exact h.positive
    rcases Table.foldr_max_cases (s.events.rows.map Prod.fst) 0 with hz | hm
    · exact hz.trans_lt h.positive
    obtain ⟨ev, hv⟩ := Table.mem_keys.1 hm
    exact h.events _ ev hv
  constructor
  · exact h.positive
  · exact h.drafts
  · exact h.events
  · exact h.apart
  · exact h.unique
  · intro name first hf
    rcases hinitial : init name with - | first'
    · simp only [hinitial, Option.none_or] at hf
      rw [hf]
      rfl
    · obtain ⟨cur, hc⟩ := Option.isSome_iff_exists.1 (h.recorded name first' hinitial)
      rw [hsynced.kept name cur hc]
      rfl
  · intro name cur hpos
    rcases hinitial : init name with - | first
    · rcases hpos with hc | ⟨pass, table, htable, hc⟩
      · refine ⟨cur, by simp only [hc, Option.none_or], fun spec _ => ?_⟩
        refine ⟨fun seq _ _ _ hf hle => absurd hle (Nat.not_le.2 hf),
          fun seq draft _ hf => hf, hmade name cur hinitial hc⟩
      · obtain ⟨first, hf, -⟩ := h.reached name cur (.inr ⟨pass, table, htable, hc⟩)
        cases hinitial.symm.trans hf
    have hb : Position s name cur := by
      rcases hpos with hc | hp
      · obtain ⟨cur', hc'⟩ := Option.isSome_iff_exists.1 (h.recorded name first hinitial)
        rw [hsynced.kept name cur' hc'] at hc
        exact .inl (hc ▸ hc')
      · exact .inr hp
    obtain ⟨first', hf', hr⟩ := h.reached name cur hb
    cases hinitial.symm.trans hf'
    exact ⟨first, by simp only [Option.some_or], fun spec hspec =>
      (hr spec hspec).congr rfl rfl rfl rfl⟩

/-- The rest of the invariant when cursors and passes stay as they are. -/
theorem Inv.mono (h : Inv reg s init) (hstates : s'.states = s.states)
    (hpasses : s'.passes = s.passes) (hnext : s.nextSequence ≤ s'.nextSequence)
    (hdraft : ∀ seq dr, s'.drafts.find? seq = some dr →
      s.drafts.find? seq = some dr
        ∨ seq = s.nextSequence ∧ s.nextSequence < s'.nextSequence)
    (hevent : ∀ seq ev, s'.events.find? seq = some ev → (s.events.find? seq = some ev
        ∨ (∃ dr, s.drafts.find? seq = some dr) ∧ s'.drafts.find? seq = none)
      ∧ ∀ name, HasKey s.deliveries ⟨name, seq, false⟩ →
          HasKey s'.deliveries ⟨name, seq, false⟩)
    (hunique : Unique s'.deliveries) : Inv reg s' init := by
  have hnew : ∀ seq ev, s.events.find? seq = some ev → seq ≠ s.nextSequence :=
    fun seq ev hv => (h.events seq ev hv).ne
  constructor
  · exact h.positive.trans_le hnext
  · intro seq dr hdr
    rcases hdraft seq dr hdr with hdr | ⟨rfl, hlt⟩
    · exact (h.drafts seq dr hdr).trans_le hnext
    · exact hlt
  · intro seq ev hv
    rcases (hevent seq ev hv).1 with hv | ⟨⟨dr, hdr⟩, -⟩
    · exact (h.events seq ev hv).trans_le hnext
    · exact (h.drafts seq dr hdr).trans_le hnext
  · intro seq dr ev hdr hv
    rcases (hevent seq ev hv).1 with hv | ⟨-, hn⟩
    · rcases hdraft seq dr hdr with hdr | ⟨he, -⟩
      · exact h.apart seq dr ev hdr hv
      · exact hnew seq ev hv he
    · cases hn.symm.trans hdr
  · exact hunique
  · rw [hstates]
    exact h.recorded
  · intro name cur hpos
    rw [Position, hstates, hpasses] at hpos
    obtain ⟨first, hf, hr⟩ := h.reached name cur hpos
    refine ⟨first, hf, fun spec hs => (hr spec hs).mono ?_ ?_ hnext⟩
    · intro seq ev hv hafter hc
      obtain ⟨hb | ⟨⟨dr, hdr⟩, -⟩, hk⟩ := hevent seq ev hv
      · exact ⟨hb, hk spec.name⟩
      -- what was a draft lies above the position
      have hahead := (hr spec hs).ahead seq dr hdr hafter
      exact absurd hc (Nat.not_le.2 hahead)
    · exact fun seq dr hdr => (hdraft seq dr hdr).imp_right And.left

/-! ### Steps -/

section

variable (h : Inv reg s init)
include h

theorem Inv.publish {txn : ℕ} {type : String}
    (hs' : publishEvent s txn type = .ok s') : Inv reg s' init := by
  unfold publishEvent at hs'
  split at hs'
  · cases hs'
  cases hs'
  refine h.mono rfl rfl (Nat.le_succ _) ?_ ?_ h.unique
  · intro seq draft hdr
    rcases Table.find?_put_eq_some.1 hdr with ⟨rfl, -⟩ | ⟨-, hdr⟩
    · exact .inr ⟨rfl, Nat.lt_succ_self _⟩
    · exact .inl hdr
  · exact fun seq event hv => ⟨.inl hv, fun name hk => hk⟩

theorem Inv.commit (txn : ℕ) : Inv reg (commit s txn) init := by
  refine h.mono rfl rfl le_rfl (fun _ _ hdr => .inl (Table.find?_discard.1 hdr).1) ?_ h.unique
  intro seq event hv
  refine ⟨?_, fun name hk => hk⟩
  rcases find?_commit hv with hv | ⟨dr, hdr, htx, -⟩
  · exact .inl hv
  refine .inr ⟨⟨dr, hdr⟩, ?_⟩
  by_contra hs
  obtain ⟨dr', hdr'⟩ := Option.ne_none_iff_exists'.1 hs
  obtain ⟨hf, ho⟩ := Table.find?_discard.1 hdr'
  cases hdr.symm.trans hf
  exact of_decide_eq_false ho htx

theorem Inv.rollback (txn : ℕ) : Inv reg (rollback s txn) init :=
  h.mono rfl rfl le_rfl (fun _ _ hdr => .inl (Table.find?_discard.1 hdr).1)
    (fun _ _ hv => ⟨.inl hv, fun _ hk => hk⟩) h.unique

theorem Inv.loadPass :
    Inv reg (loadPass reg s pass) fun name =>
      (init name).or (cursors (loadPass reg s pass).states name) := by
  have hsync := h.sync
  refine ⟨hsync.positive, hsync.drafts, hsync.events, hsync.apart, hsync.unique, hsync.recorded,
    fun name cur hpos => ?_⟩
  -- what the pass has loaded is what stands in the database
  have hb : Position (syncExtensionStates reg s) name cur := by
    rcases hpos with hc | ⟨pass', table, htable, hc⟩
    · exact .inl hc
    rcases Table.find?_put_eq_some.1 htable with ⟨-, rfl⟩ | ⟨-, htable⟩
    · exact .inl hc
    · exact .inr ⟨pass', table, htable, hc⟩
  obtain ⟨first, hf, hr⟩ := hsync.reached name cur hb
  exact ⟨first, hf, fun spec hs => (hr spec hs).congr rfl rfl rfl rfl⟩

theorem Inv.materialize (hs' : materialize reg s pass name = .ok s')
    (hlate : NoLateDraft s (.materialize pass name)) : Inv reg s' init := by
  rcases materialize_cases hs' with rfl
    | ⟨spec, table, loaded, state, last, hs, htable, hloaded, hstate, hl, rfl⟩
  · exact h
  have hname := byName_name hs
  have hmade := materialized_foldl reg s.now spec s.deliveries
    (s.eventsAfter loaded.lastEventSequence 500)
  -- the deliveries first, with the cursor as it was
  have hd : Inv reg { s with
      deliveries := (s.eventsAfter loaded.lastEventSequence 500).foldl
        (materializeEvent reg s.now spec) s.deliveries } init :=
    h.mono rfl rfl le_rfl (fun _ _ hdr => .inl hdr)
      (fun _ _ hv => ⟨.inl hv, fun _ hk => hmade.kept _ hk⟩) (hmade.unique h.unique)
  have hlastMem : last ∈ s.eventsAfter loaded.lastEventSequence 500 :=
    List.mem_of_getLast? hl
  obtain ⟨hlast, hlastAfter⟩ := mem_eventsAfter hlastMem
  have hpos : Position s name loaded.lastEventSequence := by
    refine .inr ⟨pass, table, htable, ?_⟩
    rw [cursors, hloaded, Option.map_some]
  obtain ⟨first, hf, hr⟩ := hd.reached name _ hpos
  refine ⟨h.positive, h.drafts, h.events, h.apart, hd.unique, ?_, ?_⟩
  · intro name' first' hf'
    rw [cursors_put]
    split
    · rfl
    · exact h.recorded name' first' hf'
  intro name' cur hc
  by_cases hn : name' = name ∧ cur = last.1
  · obtain ⟨rfl, rfl⟩ := hn
    refine ⟨first, hf, fun spec' hspec' => ?_⟩
    cases hs.symm.trans hspec'
    have ho := hr spec hs
    constructor
    · -- an event up to the new cursor is below the loaded one or in the batch
      intro seq ev hv hm hafter hle
      rcases Nat.lt_or_ge loaded.lastEventSequence seq with hgt | hbelow
      · exact hmade.made _ (mem_eventsAfter_of_le hlastMem hv hgt hle) hm
      · exact ho.delivered seq ev hv hm hafter hbelow
    · intro seq draft hdr _
      refine hlate loaded ?_ _ (Table.mem_rows.2 hdr) _ (Table.mem_rows.2 hlast)
        hlastAfter
      rw [htable, Option.bind_some, hloaded]
      rfl
    · exact h.events _ _ hlast
  · have hb : Position s name' cur := by
      rcases hc with hc | hp
      · rw [cursors_put] at hc
        split at hc
        · next he => exact absurd ⟨he, (Option.some.inj hc).symm⟩ hn
        · exact .inl hc
      · exact .inr hp
    obtain ⟨first', hf', hr'⟩ := hd.reached name' cur hb
    exact ⟨first', hf', fun spec' hspec' => (hr' spec' hspec').congr rfl rfl rfl rfl⟩

theorem Inv.replayed (hs' : Replayed s s') : Inv reg s' init := by
  obtain ⟨dels, hr⟩ := hs'.rest
  subst hr
  exact h.mono rfl rfl le_rfl (fun _ _ hdr => .inl hdr)
    (fun _ _ hv => ⟨.inl hv, fun _ hk => hs'.kept _ hk⟩) (hs'.unique h.unique)

theorem Inv.cleanupRetention (ret : ℤ) :
    Inv reg (cleanupRetention reg s ret) fun name =>
      (init name).or (cursors (cleanupRetention reg s ret).states name) := by
  refine h.sync.mono rfl rfl le_rfl (fun _ _ hdr => .inl hdr) ?_ ?_
  · intro seq ev hv
    obtain ⟨hb, hstays⟩ := find?_cleanupRetention.1 hv
    refine ⟨.inl hb, ?_⟩
    rintro name ⟨id, hi⟩
    refine ⟨id, keys_cleanupRetention.2 ⟨hi, fun ev' hv' => ?_⟩⟩
    cases hb.symm.trans hv'
    exact hstays
  · intro id id' key hi hi'
    exact h.unique id id' key (keys_cleanupRetention.1 hi).1 (keys_cleanupRetention.1 hi').1

end

/-- The invariant of extensions along one step. -/
theorem Inv.step (step : Step) (hs' : apply reg s step = .ok s') (hlate : NoLateDraft s step)
    (h : Inv reg s init) : Inv reg s' (firstCursors s step s' init) := by
  -- a step that begins with a synchronisation
  have hsynced : SameExtensions (syncExtensionStates reg s) s' →
      Inv reg s' (firstCursors s step s' init) := by
    intro hs
    have hnote : firstCursors s step s' init = fun name =>
      (init name).or (cursors (syncExtensionStates reg s).states name) := by
      funext name
      rw [firstCursors, hs.cursors]
    rw [hnote]
    exact h.sync.sameExtensions hs
  -- a step of which nothing is noted
  have hp : Inv reg s' init → Inv reg s' (firstCursors s step s' init) :=
    fun hi => by rwa [hi.noted]
  have hc : step.forConsumers = true →
      Inv reg s' (firstCursors s step s' init) := by
    intro hstep
    obtain ⟨consumers, rfl⟩ := apply_forConsumers hs' hstep
    exact hp (h.sameExtensions ⟨rfl, rfl, rfl, rfl, rfl, rfl⟩)
  cases step with
  | publish txn type => exact hp (h.publish hs')
  | commit txn =>
    cases hs'
    exact hp (h.commit txn)
  | rollback txn =>
    cases hs'
    exact hp (h.rollback txn)
  | loadPass pass =>
    cases hs'
    exact h.loadPass
  | materialize pass name => exact hp (h.materialize hs' hlate)
  | deliver succeeds locked =>
    cases hs'
    exact hsynced (untouched_deliver reg s succeeds locked).toSameExtensions
  | updateExtension name isEnabled => exact hsynced (untouched_updateExtension hs').toSameExtensions
  | replayEvent seq target => exact hp (h.replayed (replayed_replayEvent hs'))
  | retryDeadLetter id =>
    exact hp (h.sameExtensions (untouched_retryDeadLetter hs').toSameExtensions)
  | cleanupRetention ret =>
    cases hs'
    exact h.cleanupRetention ret
  | tick microseconds =>
    cases hs'
    exact hp (h.sameExtensions ⟨rfl, rfl, rfl, rfl, rfl, rfl⟩)
  | _ => exact hc rfl

end

theorem Inv.empty (reg : Registry) : Inv reg {} fun _ => none where
  positive := Nat.one_pos
  drafts := nofun
  events := nofun
  apart := nofun
  unique := nofun
  recorded := nofun
  reached := by
    rintro name cursor (hc | ⟨pass, table, htable, -⟩)
    · cases hc
    · cases htable

/-! ### Runs -/

variable {s : Broker}

theorem mem_normalDeliveries {seq id : ℕ} {row : ExtensionDelivery} :
    (id, row) ∈ normalDeliveries s name seq ↔
      s.deliveries.find? id = some row ∧ row.key = ⟨name, seq, false⟩ := by
  simp only [normalDeliveries, Table.mem_select, Bool.and_eq_true, decide_eq_true_eq,
    Bool.not_eq_true', ExtensionDelivery.key, DeliveryKey.mk.injEq, and_assoc]

theorem Unique.length_le_one (h : Unique s.deliveries) (name : String) (seq : ℕ) :
    (normalDeliveries s name seq).length ≤ 1 := by
  have hnodup : ((normalDeliveries s name seq).map Prod.fst).Nodup :=
    (List.filter_sublist.map Prod.fst).nodup s.deliveries.nodup
  rcases hrows : normalDeliveries s name seq with - | ⟨row, - | ⟨row', rows⟩⟩
  · exact Nat.zero_le 1
  · exact le_rfl
  exfalso
  have hk : ∀ row ∈ normalDeliveries s name seq,
      keys s.deliveries row.1 = some ⟨name, seq, false⟩ := by
    intro row hr
    obtain ⟨hf, hk⟩ := mem_normalDeliveries.1 hr
    rw [keys, hf, Option.map_some, hk]
  rw [hrows] at hk hnodup
  have hs := h _ _ _ (hk row List.mem_cons_self)
    (hk row' (List.mem_cons_of_mem _ List.mem_cons_self)) rfl
  rw [List.map_cons, List.map_cons, hs] at hnodup
  exact (List.nodup_cons.1 hnodup).1 List.mem_cons_self

theorem HasKey.length_pos {seq : ℕ} (h : HasKey s.deliveries ⟨name, seq, false⟩) :
    0 < (normalDeliveries s name seq).length := by
  obtain ⟨id, hi⟩ := h
  obtain ⟨row, hr, hk⟩ := Option.map_eq_some_iff.1 hi
  exact List.length_pos_of_mem (mem_normalDeliveries.2 ⟨hr, hk⟩)

/-- **No event is skipped or delivered twice**: in every run in which no pass finds a draft
below the events that are new to it, a visible event above the first cursor of an extension
that subscribes to it has exactly one delivery that is no replay, or lies above the cursor of
the extension; and it never has two. -/
theorem materialized_once (registry : Registry) {steps : List Step}
    (hok : Guarded (fun t => NoLateDraft t.1) (attempt (observed (apply registry) firstCursors))
      (({} : Broker), fun _ => none) steps) :
    let t := run (attempt (observed (apply registry) firstCursors))
      (({} : Broker), fun _ => none) steps
    ∀ name spec state, registry.byName name = some spec → t.1.states.find? name = some state →
      ∃ first, t.2 name = some first ∧
      ∀ sequence event, t.1.events.find? sequence = some event → first < sequence →
        registry.eventMatches spec.eventPatterns event.type = true →
        (normalDeliveries t.1 name sequence).length ≤ 1
          ∧ ((normalDeliveries t.1 name sequence).length = 1
            ∨ state.lastEventSequence < sequence) := by
  intro t name spec state hs hstate
  have hi : Inv registry t.1 t.2 :=
    observed_guarded (apply registry) firstCursors (Inv registry)
      (fun s initial step s' hs' hlate h => h.step step hs' hlate) (Inv.empty registry) hok
  have hpos : Position t.1 name state.lastEventSequence := by
    refine .inl ?_
    rw [cursors, hstate, Option.map_some]
  obtain ⟨first, hfirst, hr⟩ := hi.reached name _ hpos
  refine ⟨first, hfirst, fun sequence event hevent hafter hm => ?_⟩
  have hone := hi.unique.length_le_one name sequence
  refine ⟨hone, ?_⟩
  rcases Nat.lt_or_ge state.lastEventSequence sequence with habove | hbelow
  · exact .inr habove
  have hk := (hr spec hs).delivered sequence event hevent hm hafter hbelow
  rw [byName_name hs] at hk
  exact .inl (Nat.le_antisymm hone hk.length_pos)

/-! ### Two transactions -/

/-- Two transactions publish, commit in this order, and a pass follows each commit. -/
def twoPublications (first second : ℕ) : List Step :=
  [.loadPass 0, .publish 1 "vm.created", .publish 2 "vm.deleted",
    .commit first, .loadPass 1, .materialize 1 "core.audit",
    .commit second, .loadPass 2, .materialize 2 "core.audit"]

theorem materialized_once_twoPublications :
    ∃ first, (run (attempt (observed (apply auditRegistry) firstCursors))
        (({} : Broker), fun _ => none) (twoPublications 1 2)).2 "core.audit" = some first ∧
      ∀ sequence event, (run (attempt (observed (apply auditRegistry) firstCursors))
          (({} : Broker), fun _ => none) (twoPublications 1 2)).1.events.find? sequence
            = some event →
        first < sequence → auditRegistry.eventMatches ["*"] event.type = true →
        (normalDeliveries (run (attempt (observed (apply auditRegistry) firstCursors))
          (({} : Broker), fun _ => none) (twoPublications 1 2)).1 "core.audit" sequence).length ≤ 1
        ∧ ((normalDeliveries (run (attempt (observed (apply auditRegistry) firstCursors))
            (({} : Broker), fun _ => none) (twoPublications 1 2)).1 "core.audit" sequence).length = 1
          ∨ 2 < sequence) :=
  @materialized_once auditRegistry (twoPublications 1 2) (by decide +kernel) "core.audit"
    { name := "core.audit", version := "1", eventPatterns := ["*"] }
    { version := "1", lastEventSequence := 2 } rfl rfl

/-- The transaction that has drawn the lower number commits last, after the pass has moved the
cursor over it: its event never gets a delivery. -/
theorem skipped_by_late_commit :
    let t := run (attempt (observed (apply auditRegistry) firstCursors))
      (({} : Broker), fun _ => none) (twoPublications 2 1)
    t.2 "core.audit" = some 0 ∧ cursors t.1.states "core.audit" = some 2
      ∧ t.1.events.find? 1 = some ⟨"vm.created", 0⟩
      ∧ auditRegistry.eventMatches ["*"] "vm.created" = true
      ∧ normalDeliveries t.1 "core.audit" 1 = [] := by
  decide +kernel

end CloudPortal.Events
