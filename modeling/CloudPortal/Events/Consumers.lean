/-
CloudPortal/Events/Consumers.lean

Pull consumers skip nothing (`consumers_skip_nothing`).

A poll reads the log behind the cursor up to a checkpoint, with the patterns that the consumer
has then, and an acknowledgement moves the cursor up to that checkpoint or less.  If events
become visible in the order of their sequences, every event between the start of a consumer and
its cursor was acknowledged on the strength of a poll, and that poll returned it if it matched.

What happened is kept in a journal, the latest entry first.  The invariant follows one consumer
through the part of the journal since its start (`Followed`).
-/
import CloudPortal.Events.Effects

namespace CloudPortal.Events

open RowStore Transition

/-! ### The journal -/

inductive Entry
  | published (sequence : ℕ) (event : EventRecord)
  /-- a consumer was created or reset -/
  | started (id cursor : ℕ)
  | polled (id : ℕ) (patterns : List String) (cursor checkpoint : ℕ)
      (items : List (ℕ × EventRecord))
  | acked (id cursor sequence : ℕ)

/-- What an observer writes down. -/
def journal (registry : Registry) (s : Broker) (step : Step) (s' : Broker) (log : List Entry) :
    List Entry :=
  let started (id : ℕ) := (s'.consumers.find? id).toList.map fun row =>
    Entry.started id row.cursorSequence
  match step with
  | .commit transaction =>
    (s.drafts.select fun _ draft => draft.transaction = transaction).map
      (fun (sequence, draft) => Entry.published sequence draft.record) ++ log
  | .createConsumer .. => started s.consumers.fresh ++ log
  | .reset id _ => started id ++ log
  | .poll id requestedLimit => (s.consumers.find? id).toList.map (fun row =>
    let answer := pollAnswer registry s row requestedLimit
    Entry.polled id row.eventPatterns row.cursorSequence answer.2 answer.1) ++ log
  | .ack id sequence => (s.consumers.find? id).toList.map
      (fun row => Entry.acked id row.cursorSequence sequence) ++ log
  | _ => log

/-- The events that were ever visible. -/
def publications (log : List Entry) : List (ℕ × EventRecord) :=
  log.filterMap fun
    | .published sequence event => some (sequence, event)
    | _ => none

/-- A commit makes only events visible that come after all that were visible. -/
def VisibleInOrder (t : Broker × List Entry) : Step → Prop
  | .commit transaction => ∀ draft ∈ t.1.drafts.rows, draft.2.transaction = transaction →
      ∀ event ∈ publications t.2, event.1 < draft.1
  | _ => True

instance (t : Broker × List Entry) (step : Step) : Decidable (VisibleInOrder t step) := by
  unfold VisibleInOrder
  split <;> infer_instance

/-- The entry is a poll of this consumer. -/
def Entry.isPollOf (id : ℕ) : Entry → Bool
  | .polled id' .. => id' = id
  | _ => false

/-- The last poll of a consumer in this part of the journal. -/
def LatestPoll (log : List Entry) (id : ℕ) (patterns : List String) (cursor checkpoint : ℕ)
    (items : List (ℕ × EventRecord)) : Prop :=
  ∃ later before, log = later ++ .polled id patterns cursor checkpoint items :: before
    ∧ ∀ entry ∈ later, entry.isPollOf id = false

/-- An acknowledgement has moved the cursor over the event, up to the checkpoint of the poll
before it; and the poll has returned the event if it matched the patterns of that time. -/
def Acknowledged (registry : Registry) (log : List Entry) (id : ℕ) (event : ℕ × EventRecord) :
    Prop :=
  ∃ later cursor sequence before, log = later ++ .acked id cursor sequence :: before
    ∧ cursor < event.1 ∧ event.1 ≤ sequence
    ∧ ∃ patterns base checkpoint items, LatestPoll before id patterns base checkpoint items
      ∧ sequence ≤ checkpoint
      ∧ (registry.eventMatches patterns event.2.type = true → event ∈ items)

/-! ### Polls -/

/-- The loop of a poll over an ascending part of the log. -/
theorem scan_spec (isMatch : EventRecord → Bool) (lim : ℕ) {events : List (ℕ × EventRecord)}
    (hsorted : events.Pairwise fun x y => x.1 < y.1) (found : List (ℕ × EventRecord)) (start : ℕ) :
    (∀ ev ∈ found, ev ∈ (scan isMatch lim events found start).1)
    ∧ ((scan isMatch lim events found start).2 = start
      ∨ ∃ ev ∈ events, (scan isMatch lim events found start).2 = ev.1)
    ∧ ∀ ev ∈ events, ev.1 ≤ (scan isMatch lim events found start).2 →
      isMatch ev.2 = true → ev ∈ (scan isMatch lim events found start).1 := by
  induction events generalizing found start with
  | nil => exact ⟨fun _ h => h, .inl rfl, nofun⟩
  | cons ev events ih =>
    obtain ⟨hf, hr⟩ := List.pairwise_cons.1 hsorted
    have hs : ev ∈ found ++ [ev] := List.mem_append_right _ (List.mem_singleton_self _)
    -- the loop goes on with what it has found so far
    have hgoes : ∀ found', (∀ x ∈ found, x ∈ found') → (isMatch ev.2 = true → ev ∈ found') →
        (∀ x ∈ found, x ∈ (scan isMatch lim events found' ev.1).1)
        ∧ ((scan isMatch lim events found' ev.1).2 = start
          ∨ ∃ x ∈ ev :: events, (scan isMatch lim events found' ev.1).2 = x.1)
        ∧ ∀ x ∈ ev :: events, x.1 ≤ (scan isMatch lim events found' ev.1).2 →
          isMatch x.2 = true → x ∈ (scan isMatch lim events found' ev.1).1 := by
      intro found' hfound hv
      obtain ⟨hk, he, ha⟩ := ih hr found' ev.1
      refine ⟨fun x hx => hk x (hfound x hx), .inr ?_, fun x hx hle hm => ?_⟩
      · rcases he with he | ⟨x, hx, he⟩
        · exact ⟨ev, List.mem_cons_self, he⟩
        · exact ⟨x, List.mem_cons_of_mem _ hx, he⟩
      · rcases List.mem_cons.1 hx with rfl | hx
        · exact hk x (hv hm)
        · exact ha x hx hle hm
    rw [scan]
    split
    · next hm =>
      split
      · refine ⟨fun x hx => List.mem_append_left _ hx, .inr ⟨ev, List.mem_cons_self, rfl⟩,
          fun x hx hle _ => ?_⟩
        rcases List.mem_cons.1 hx with rfl | hx
        · exact hs
        · exact absurd hle (Nat.not_le.2 (hf x hx))
      · exact hgoes _ (fun x hx => List.mem_append_left _ hx) fun _ => hs
    · next hm => exact hgoes found (fun _ hx => hx) fun h => absurd h hm

theorem pairwise_eventsAfter (s : Broker) (cur lim : ℕ) :
    (s.eventsAfter cur lim).Pairwise fun x y => x.1 < y.1 := by
  have hsorted : (s.eventsAfter cur lim).Pairwise fun x y => x.1 ≤ y.1 :=
    Batch.pairwise_first _ _ _
  have hnodup : ((s.eventsAfter cur lim).map Prod.fst).Nodup := by
    refine ((List.take_sublist _ _).map Prod.fst).nodup ?_
    refine (((List.perm_insertionSort _ _).map Prod.fst).nodup_iff).2 ?_
    exact (List.filter_sublist.map Prod.fst).nodup s.events.nodup
  have hn := List.pairwise_map.1 hnodup
  exact hsorted.imp₂ (fun _ _ hle hn => lt_of_le_of_ne hle hn) hn

/-- A poll ends where it began or at an event, and returns all that it passes and that
matches. -/
theorem pollAnswer_spec (reg : Registry) (s : Broker) (row : EventConsumer) (rl : Option ℕ) :
    ((pollAnswer reg s row rl).2 = row.cursorSequence
      ∨ ∃ ev, s.events.find? (pollAnswer reg s row rl).2 = some ev)
    ∧ ∀ seq ev, s.events.find? seq = some ev → row.cursorSequence < seq →
      seq ≤ (pollAnswer reg s row rl).2 →
      reg.eventMatches row.eventPatterns ev.type = true →
      (seq, ev) ∈ (pollAnswer reg s row rl).1 := by
  unfold pollAnswer
  simp only
  generalize min (min _ row.maxBatch) 500 = lim
  generalize min (max (lim * 20) 1000) 10000 = window
  obtain ⟨-, he, ha⟩ := scan_spec
    (fun ev => reg.eventMatches row.eventPatterns ev.type) lim
    (pairwise_eventsAfter s row.cursorSequence window) [] row.cursorSequence
  constructor
  · rcases he with he | ⟨ev, hv, he⟩
    · exact .inl he
    rw [he]
    exact .inr ⟨ev.2, (mem_eventsAfter hv).1⟩
  intro seq ev hv hc hle hm
  rcases he with he | ⟨last, hl, he⟩
  · rw [he] at hle
    exact absurd hle (Nat.not_le.2 hc)
  · refine ha _ (mem_eventsAfter_of_le hl hv hc ?_) hle hm
    exact he ▸ hle

/-! ### A consumer in the journal -/

/-- Nothing will appear in `(a, b]` any more: it is empty, or something above is visible. -/
def Passed (log : List Entry) (a b : ℕ) : Prop := b ≤ a ∨ ∃ event ∈ publications log, b ≤ event.1

/-- What the journal says about a consumer with this cursor and this checkpoint. -/
structure Tracked (registry : Registry) (log recent : List Entry) (id start cursor : ℕ)
    (checkpoint : Option ℕ) : Prop where
  passed : Passed log start cursor
  acknowledged : ∀ event ∈ publications log, start < event.1 → event.1 ≤ cursor →
    Acknowledged registry recent id event
  polled : ∀ limit, checkpoint = some limit → ∃ patterns base items,
    LatestPoll recent id patterns base limit items ∧ base ≤ cursor ∧ Passed log base limit
    ∧ ∀ event ∈ publications log, cursor < event.1 → event.1 ≤ limit →
      registry.eventMatches patterns event.2.type = true → event ∈ items

/-- The consumer is tracked since its last start. -/
def Followed (registry : Registry) (log : List Entry) (id : ℕ) (row : EventConsumer) : Prop :=
  ∃ start recent earlier, log = recent ++ .started id start :: earlier
    ∧ (∀ cursor, .started id cursor ∉ recent)
    ∧ Tracked registry log recent id start row.cursorSequence row.lastCheckpointSequence

variable {items : List (ℕ × EventRecord)}

section

variable {reg : Registry} {log recent : List Entry} {id start cur : ℕ}
  {cp : Option ℕ} {row : EventConsumer} {ent : Entry} {lim : ℕ}

theorem publications_append (log log' : List Entry) :
    publications (log ++ log') = publications log ++ publications log' :=
  List.filterMap_append

theorem LatestPoll.append {patterns : List String} {base : ℕ}
    (h : LatestPoll log id patterns base lim items) (new : List Entry)
    (hn : ∀ ent ∈ new, ent.isPollOf id = false) :
    LatestPoll (new ++ log) id patterns base lim items := by
  obtain ⟨later, before, rfl, hlater⟩ := h
  refine ⟨new ++ later, before, (List.append_assoc _ _ _).symm, fun ent he => ?_⟩
  exact (List.mem_append.1 he).elim (hn ent) (hlater ent)

theorem Acknowledged.append {event : ℕ × EventRecord} (h : Acknowledged reg log id event)
    (new : List Entry) : Acknowledged reg (new ++ log) id event := by
  obtain ⟨later, cur, seq, before, rfl, hacked⟩ := h
  exact ⟨new ++ later, cur, seq, before, (List.append_assoc _ _ _).symm, hacked⟩

theorem Passed.append {a b : ℕ} (h : Passed log a b) (new : List Entry) :
    Passed (new ++ log) a b := by
  refine h.imp_right fun ⟨ev, hv, hle⟩ => ⟨ev, ?_, hle⟩
  rw [publications_append]
  exact List.mem_append_right _ hv

theorem Followed.started (hc : row.cursorSequence = cur) (hcp : row.lastCheckpointSequence = none) :
    Followed reg (.started id cur :: log) id row := by
  refine ⟨cur, [], log, rfl, fun _ => List.not_mem_nil, .inl hc.le, ?_, ?_⟩
  · rw [hc]
    exact fun event _ hs hc => absurd hc (Nat.not_le.2 hs)
  · intro limit hl
    cases hcp.symm.trans hl

variable {new : List Entry} (hpolls : ∀ ent ∈ new, ent.isPollOf id = false)
  (hevents : ∀ ev ∈ publications new, ∀ old ∈ publications log, old.1 < ev.1)

section

include hpolls hevents

/-- New entries that are no polls of the consumer, and no events in the order of the log, leave
it tracked. -/
theorem Tracked.append (h : Tracked reg log recent id start cur cp) :
    Tracked reg (new ++ log) (new ++ recent) id start cur cp := by
  -- an event that appears now is outside of what was passed
  have hout : ∀ a b, Passed log a b → ∀ ev ∈ publications new, a < ev.1 →
      ¬ ev.1 ≤ b := by
    rintro a b (hle | ⟨old, ho, hle⟩) ev hv hlt hl
    · exact absurd (hl.trans hle) (Nat.not_le.2 hlt)
    · exact absurd (hl.trans hle) (Nat.not_le.2 (hevents ev hv old ho))
  constructor
  · exact h.passed.append new
  · intro ev hv hs hc
    rw [publications_append, List.mem_append] at hv
    rcases hv with hn | ho
    · exact absurd hc (hout start cur h.passed ev hn hs)
    · exact (h.acknowledged ev ho hs hc).append new
  intro lim hl
  obtain ⟨patterns, base, items, hlatest, hb, hpassed, hitems⟩ := h.polled lim hl
  refine ⟨patterns, base, items, hlatest.append new hpolls, hb, hpassed.append new,
    fun ev hv hc hle => ?_⟩
  rw [publications_append, List.mem_append] at hv
  rcases hv with hn | ho
  · exact absurd hle (hout base lim hpassed ev hn (hb.trans_lt hc))
  · exact hitems ev ho hc hle

end

variable (h : Followed reg log id row)
include h

include hpolls hevents in
theorem Followed.append (hstarts : ∀ cur, .started id cur ∉ new) :
    Followed reg (new ++ log) id row := by
  obtain ⟨start, recent, earlier, hlog, hrecent, ht⟩ := h
  refine ⟨start, new ++ recent, earlier, ?_, fun cur hc => ?_,
    ht.append hpolls hevents⟩
  · rw [hlog, List.append_assoc]
  · exact (List.mem_append.1 hc).elim (hstarts cur) (hrecent cur)

/-- Only the cursor and the checkpoint of a row count, and a checkpoint may be dropped. -/
theorem Followed.rewrite {row' : EventConsumer} (hc : row'.cursorSequence = row.cursorSequence)
    (hcp : row'.lastCheckpointSequence = none
      ∨ row'.lastCheckpointSequence = row.lastCheckpointSequence) :
    Followed reg log id row' := by
  obtain ⟨start, recent, earlier, hlog, hrecent, ht⟩ := h
  refine ⟨start, recent, earlier, hlog, hrecent, ?_⟩
  rw [hc]
  refine ⟨ht.passed, ht.acknowledged, fun lim hl => ?_⟩
  rcases hcp with hn | hs
  · cases hn.symm.trans hl
  · exact ht.polled lim (hs ▸ hl)

/-- A poll of the consumer. -/
theorem Followed.polled (hpassed : Passed log row.cursorSequence lim)
    (hitems : ∀ ev ∈ publications log, row.cursorSequence < ev.1 → ev.1 ≤ lim →
      reg.eventMatches row.eventPatterns ev.2.type = true → ev ∈ items) :
    Followed reg (.polled id row.eventPatterns row.cursorSequence lim items :: log) id
      { row with lastCheckpointSequence := some lim } := by
  obtain ⟨start, recent, earlier, hlog, hrecent, ht⟩ := h
  refine ⟨start, .polled id row.eventPatterns row.cursorSequence lim items :: recent, earlier,
    ?_, fun cur hc => ?_, ?_, ?_, ?_⟩
  · rw [hlog, List.cons_append]
  · rcases List.mem_cons.1 hc with he | hc
    · cases he
    · exact hrecent cur hc
  · exact ht.passed.append [_]
  · exact fun ev hv hs hc => (ht.acknowledged ev hv hs hc).append [_]
  · rintro _ ⟨⟩
    exact ⟨row.eventPatterns, row.cursorSequence, items, ⟨[], recent, rfl, nofun⟩, le_rfl,
      hpassed.append [_], hitems⟩

/-- An acknowledgement by the consumer. -/
theorem Followed.acked {seq : ℕ} (hforward : row.cursorSequence ≤ seq)
    (hl : row.lastCheckpointSequence = some lim) (hle : seq ≤ lim) :
    Followed reg (.acked id row.cursorSequence seq :: log) id
      { row with cursorSequence := seq } := by
  obtain ⟨start, recent, earlier, hlog, hrecent, ht⟩ := h
  obtain ⟨patterns, base, items, hlatest, hb, hpassed, hitems⟩ := ht.polled lim hl
  refine ⟨start, .acked id row.cursorSequence seq :: recent, earlier, ?_,
    fun cur hc => ?_, ?_, ?_, ?_⟩
  · rw [hlog, List.cons_append]
  · rcases List.mem_cons.1 hc with heq | hc
    · cases heq
    · exact hrecent cur hc
  · -- either nothing was acknowledged, or the checkpoint is at an event
    refine Passed.append ?_ [_]
    rcases hpassed with hempty | ⟨ev, hv, habove⟩
    · have heq : seq = row.cursorSequence :=
        Nat.le_antisymm (hle.trans (hempty.trans hb)) hforward
      rw [heq]
      exact ht.passed
    · exact .inr ⟨ev, hv, hle.trans habove⟩
  · intro ev hv hs hc
    rcases Nat.lt_or_ge row.cursorSequence ev.1 with hn | ho
    · exact ⟨[], row.cursorSequence, seq, recent, rfl, hn, hc, patterns, base, lim,
        items, hlatest, hle, hitems ev hv hn (hc.trans hle)⟩
    · exact (ht.acknowledged ev hv hs ho).append [_]
  · intro lim' hl'
    cases hl.symm.trans hl'
    refine ⟨patterns, base, items, ?_, hb.trans hforward, hpassed.append [_],
      fun ev hv hc => hitems ev hv (hforward.trans_lt hc)⟩
    exact hlatest.append [_] fun ent he => by
      rw [List.mem_singleton.1 he]
      rfl

end

/-! ### Invariant -/

/-- The journal and the broker agree. -/
structure Journaled (registry : Registry) (s : Broker) (log : List Entry) : Prop where
  visible : ∀ sequence event, s.events.find? sequence = some event →
    (sequence, event) ∈ publications log
  kept : ∀ event ∈ publications log,
    s.events.find? event.1 = some event.2 ∨ event.1 ≤ s.floorSequence
  followed : ∀ id row, s.consumers.find? id = some row → Followed registry log id row

section

variable {reg : Registry} {s s' : Broker} {log : List Entry} {row : EventConsumer} {id : ℕ}

/-- The entry is one of the consumer. -/
def Entry.IsOf (id : ℕ) : Entry → Prop
  | .published .. => False
  | .started id' _ | .polled id' .. | .acked id' .. => id' = id

/-- Entries of one consumer leave the others followed. -/
theorem Followed.cons_other {id' : ℕ} (h : Followed reg log id row) {ent : Entry}
    (he : ent.IsOf id') (hn : id ≠ id') : Followed reg (ent :: log) id row := by
  show Followed reg ([ent] ++ log) id row
  refine h.append ?_ ?_ ?_
  · intro ent' he'
    rw [List.mem_singleton.1 he']
    cases ent with
    | polled id'' patterns cur cp items =>
      exact decide_eq_false fun heq => hn (heq.symm.trans he)
    | _ => rfl
  · intro ev hv
    cases ent with
    | published seq ev => exact he.elim
    | _ => cases hv
  · intro cur hc
    have heq := List.mem_singleton.1 hc
    subst heq
    exact hn he

theorem mem_publications_published {rows : List (ℕ × Draft)} {ev : ℕ × EventRecord} :
    ev ∈ publications (rows.map fun (seq, dr) =>
      Entry.published seq dr.record) ↔
      ∃ dr, (ev.1, dr) ∈ rows ∧ dr.record = ev.2 := by
  simp only [publications, List.filterMap_map, List.mem_filterMap, Function.comp_apply,
    Option.some.injEq, Prod.exists]
  constructor
  · rintro ⟨seq, dr, hm, rfl⟩
    exact ⟨dr, hm, rfl⟩
  · rintro ⟨dr, hm, he⟩
    exact ⟨ev.1, dr, hm, by rw [he]⟩

section

variable (h : Journaled reg s log)
include h

/-- One consumer is written, and the journal gets an entry about it. -/
theorem Journaled.put {ent : Entry} (he : ent.IsOf id) (hr : Followed reg (ent :: log) id row) :
    Journaled reg { s with consumers := s.consumers.put id row } (ent :: log) := by
  have hs : publications (ent :: log) = publications log := by
    cases ent with
    | published seq event => exact he.elim
    | _ => rfl
  refine ⟨?_, ?_, fun id' row' hr' => ?_⟩
  · rw [hs]
    exact h.visible
  · rw [hs]
    exact h.kept
  · rcases Table.find?_put_eq_some.1 hr' with ⟨rfl, rfl⟩ | ⟨hn, hr'⟩
    · exact hr
    · exact (h.followed id' row' hr').cons_other he hn

theorem Journaled.sameReading (hs : SameReading s s') : Journaled reg s' log := by
  refine ⟨?_, ?_, ?_⟩
  · rw [hs.events]
    exact h.visible
  · rw [hs.events, hs.floorSequence]
    exact h.kept
  · rw [hs.consumers]
    exact h.followed

theorem Journaled.commit {txn : ℕ} (horder : VisibleInOrder (s, log) (.commit txn)) :
    Journaled reg (commit s txn) (journal reg s (.commit txn) (commit s txn) log) := by
  have hn : ∀ ev ∈ publications
      ((s.drafts.select fun _ dr => dr.transaction = txn).map
        fun (seq, dr) => Entry.published seq dr.record),
      ∃ dr, s.drafts.find? ev.1 = some dr ∧ dr.transaction = txn ∧ dr.record = ev.2 := by
    intro ev hv
    obtain ⟨dr, hdr, hreco⟩ := mem_publications_published.1 hv
    obtain ⟨hf, htx⟩ := Table.mem_select.1 hdr
    exact ⟨dr, hf, of_decide_eq_true htx, hreco⟩
  constructor
  · intro seq ev hv
    rw [journal, publications_append, List.mem_append]
    rcases find?_commit hv with hv | ⟨dr, hdr, htx, hreco⟩
    · exact .inr (h.visible seq ev hv)
    refine .inl (mem_publications_published.2 ⟨dr, ?_, hreco⟩)
    exact Table.mem_select.2 ⟨hdr, decide_eq_true htx⟩
  · intro ev hv
    rw [journal, publications_append, List.mem_append] at hv
    rcases hv with hv | hv
    · obtain ⟨dr, hdr, htx, hreco⟩ := hn ev hv
      rw [find?_commit_of_draft hdr htx, hreco]
      exact .inl rfl
    refine (h.kept ev hv).imp_left fun hf => ?_
    rw [find?_commit_of_other, hf]
    -- a draft of the transaction would come after the event
    intro dr hdr htx
    exact absurd (horder _ (Table.mem_rows.2 hdr) htx ev hv) (Nat.lt_irrefl _)
  · intro id row hr
    refine (h.followed id row hr).append ?_ ?_ ?_
    · intro e he
      obtain ⟨dr, -, rfl⟩ := List.mem_map.1 he
      rfl
    · intro ev hv old ho
      obtain ⟨dr, hdr, htx, -⟩ := hn ev hv
      exact horder _ (Table.mem_rows.2 hdr) htx old ho
    · intro cu hc
      obtain ⟨dr, -, heq⟩ := List.mem_map.1 hc
      cases heq

theorem Journaled.cleanupRetention (ret : ℤ) :
    Journaled reg (cleanupRetention reg s ret) log := by
  refine ⟨fun seq ev hv => h.visible seq ev (find?_cleanupRetention.1 hv).1,
    fun ev hv => ?_, h.followed⟩
  rcases h.kept ev hv with hf | hfloor
  · by_cases hg : disposable (syncExtensionStates reg s) (s.now - ret) ev.1
      ev.2 = true
    · refine .inr (Table.le_foldr_max ?_)
      exact List.mem_map.2 ⟨ev, Table.mem_select.2 ⟨hf, hg⟩, rfl⟩
    · rw [Bool.not_eq_true] at hg
      exact .inl (find?_cleanupRetention.2 ⟨hf, hg⟩)
  · exact .inr (hfloor.trans (Table.start_le_foldr_max _ _))

theorem Journaled.poll {rl : Option ℕ} (hs' : pollConsumer reg s id rl = .ok s') :
    Journaled reg s' (journal reg s (.poll id rl) s' log) := by
  obtain ⟨row, hr, hfloor, rfl⟩ := pollConsumer_ok hs'
  obtain ⟨he, hitems⟩ := pollAnswer_spec reg s row rl
  simp only [journal, hr, Option.toList_some, List.map_cons, List.map_nil, List.cons_append,
    List.nil_append]
  refine h.put rfl ((h.followed id row hr).polled ?_ ?_)
  · refine he.imp Nat.le_of_eq fun ⟨ev, hv⟩ => ⟨_, h.visible _ ev hv, le_rfl⟩
  intro ev hv hc hle hm
  rcases h.kept ev hv with hf | hbelow
  · exact hitems ev.1 ev.2 hf hc hle hm
  · exact absurd (hbelow.trans hfloor) (Nat.not_le.2 hc)

end

theorem Journaled.step (step : Step) (hs' : apply reg s step = .ok s')
    (horder : VisibleInOrder (s, log) step) (h : Journaled reg s log) :
    Journaled reg s' (journal reg s step s' log) := by
  cases step with
  | commit txn =>
    cases hs'
    exact h.commit horder
  | createConsumer data start =>
    obtain ⟨cur, -, rfl⟩ := createConsumer_ok hs'
    simp only [journal, Table.find?_put_self, Option.toList_some, List.map_cons, List.map_nil,
      List.cons_append, List.nil_append]
    exact h.put rfl (Followed.started rfl rfl)
  | updateConsumer id data =>
    obtain ⟨row, cp, hr, hcp, rfl⟩ := updateConsumer_ok hs'
    refine ⟨h.visible, h.kept, fun id' row' hr' => ?_⟩
    rcases Table.find?_put_eq_some.1 hr' with ⟨rfl, rfl⟩ | ⟨-, hr'⟩
    · exact (h.followed id' row hr).rewrite rfl hcp
    · exact h.followed id' row' hr'
  | poll id rl => exact h.poll hs'
  | ack id seq =>
    obtain ⟨row, cp, hr, hforward, hcp, hle, rfl⟩ := ackConsumer_ok hs'
    simp only [journal, hr, Option.toList_some, List.map_cons, List.map_nil, List.cons_append,
      List.nil_append]
    exact h.put rfl ((h.followed id row hr).acked hforward hcp hle)
  | reset id start =>
    obtain ⟨row, cur, -, -, rfl⟩ := resetConsumer_ok hs'
    simp only [journal, Table.find?_put_self, Option.toList_some, List.map_cons, List.map_nil,
      List.cons_append, List.nil_append]
    exact h.put rfl (Followed.started rfl rfl)
  | deleteConsumer id =>
    obtain rfl := deleteConsumer_ok hs'
    refine ⟨h.visible, h.kept, fun id' row' hr' => ?_⟩
    rw [Table.find?_erase] at hr'
    split at hr'
    · cases hr'
    · exact h.followed id' row' hr'
  | cleanupRetention ret =>
    cases hs'
    exact h.cleanupRetention ret
  | _ => exact h.sameReading (apply_forExtensions hs' rfl)

/-! ### Runs -/

/-- Only a reset moves the cursor of a consumer back. -/
theorem cursorSequence_mono {step : Step} (hs' : apply reg s step = .ok s')
    {row' : EventConsumer} (hr : s.consumers.find? id = some row)
    (hr' : s'.consumers.find? id = some row') (hreset : ∀ start, step ≠ .reset id start) :
    row.cursorSequence ≤ row'.cursorSequence := by
  have hs : s'.consumers.find? id = s.consumers.find? id →
      row.cursorSequence ≤ row'.cursorSequence := by
    intro he
    cases hr.symm.trans (he ▸ hr')
    exact le_rfl
  -- one consumer is written, perhaps this one
  have hp : ∀ {id' : ℕ} {old new : EventConsumer}, s.consumers.find? id' = some old →
      s'.consumers = s.consumers.put id' new → old.cursorSequence ≤ new.cursorSequence →
      row.cursorSequence ≤ row'.cursorSequence := by
    intro id' old new ho he hle
    rw [he] at hr'
    rcases Table.find?_put_eq_some.1 hr' with ⟨rfl, rfl⟩ | ⟨-, hr'⟩
    · cases ho.symm.trans hr
      exact hle
    · cases hr.symm.trans hr'
      exact le_rfl
  cases step with
  | createConsumer data start =>
    obtain ⟨cur, -, rfl⟩ := createConsumer_ok hs'
    refine hs (Table.find?_put_of_ne _ _ ?_)
    rintro rfl
    cases (Table.find?_fresh s.consumers).symm.trans hr
  | updateConsumer id' data =>
    obtain ⟨old, cp, ho, -, rfl⟩ := updateConsumer_ok hs'
    exact hp ho rfl le_rfl
  | poll id' rl =>
    obtain ⟨old, ho, -, rfl⟩ := pollConsumer_ok hs'
    exact hp ho rfl le_rfl
  | ack id' seq =>
    obtain ⟨old, cp, ho, hforward, -, -, rfl⟩ := ackConsumer_ok hs'
    exact hp ho rfl hforward
  | reset id' start =>
    obtain ⟨old, cur, -, -, rfl⟩ := resetConsumer_ok hs'
    refine hs (Table.find?_put_of_ne _ _ ?_)
    rintro rfl
    exact hreset start rfl
  | deleteConsumer id' =>
    obtain rfl := deleteConsumer_ok hs'
    rw [Table.find?_erase] at hr'
    split at hr'
    · cases hr'
    cases hr.symm.trans hr'
    exact le_rfl
  | commit | cleanupRetention =>
    cases hs'
    exact hs rfl
  | _ => exact hs (congrArg (·.find? id) (apply_forExtensions hs' rfl).consumers)

end

/-- **Pull consumers skip nothing**: in every run in which events become visible in the order
of their sequences, only a reset moves the cursor of a consumer back; and every event between
its start (creation or last reset) and its cursor was acknowledged over after a poll that
returned it, if it matched the patterns in force at that poll. -/
theorem consumers_skip_nothing (registry : Registry) {steps : List Step}
    (hok : Guarded VisibleInOrder (attempt (observed (apply registry) (journal registry)))
      (({} : Broker), []) steps) :
    let t := run (attempt (observed (apply registry) (journal registry))) (({} : Broker), []) steps
    ∀ id row, t.1.consumers.find? id = some row →
      (∀ step row', (attempt (apply registry) t.1 step).consumers.find? id = some row' →
        (∀ start, step ≠ .reset id start) → row.cursorSequence ≤ row'.cursorSequence)
      ∧ ∃ start recent earlier, t.2 = recent ++ .started id start :: earlier
        ∧ (∀ cursor, .started id cursor ∉ recent)
        ∧ ∀ event ∈ publications t.2, start < event.1 → event.1 ≤ row.cursorSequence →
          Acknowledged registry recent id event := by
  intro t id row hr
  have hjournaled : Journaled registry t.1 t.2 :=
    observed_guarded (apply registry) (journal registry) (Journaled registry)
      (fun s log step s' hs' horder h => h.step step hs' horder)
      (t := (({} : Broker), [])) ⟨nofun, nofun, nofun⟩ hok
  refine ⟨fun step row' hr' hres => ?_, ?_⟩
  · unfold attempt at hr'
    split at hr'
    · next s' hs' => exact cursorSequence_mono hs' hr hr' hres
    cases hr.symm.trans hr'
    exact le_rfl
  · obtain ⟨start, recent, earlier, hlog, hrecent, ht⟩ := hjournaled.followed id row hr
    exact ⟨start, recent, earlier, hlog, hrecent, ht.acknowledged⟩

/-- A consumer of one type reads past another one. -/
def readPast : List Step :=
  [.createConsumer { eventPatterns := ["vm.created"] } .earliest, .publish 1 "vm.created",
    .publish 2 "vm.deleted", .commit 1, .commit 2, .poll 1 none, .ack 1 2]

theorem consumers_skip_nothing_readPast :
    let t := run (attempt (observed (apply auditRegistry) (journal auditRegistry)))
      (({} : Broker), []) readPast
    ∃ start recent earlier, t.2 = recent ++ .started 1 start :: earlier
      ∧ (∀ cursor, .started 1 cursor ∉ recent)
      ∧ ∀ event ∈ publications t.2, start < event.1 → event.1 ≤ 2 →
        Acknowledged auditRegistry recent 1 event := by
  intro t
  have hr : ∃ row, t.1.consumers.find? 1 = some row ∧ row.cursorSequence = 2 :=
    ⟨⟨["vm.created"], 2, some 2, 100, true⟩, rfl, rfl⟩
  obtain ⟨row, hr, hc⟩ := hr
  have hread := (consumers_skip_nothing auditRegistry (by decide +kernel) 1 row hr).2
  rw [hc] at hread
  exact hread

end CloudPortal.Events
