/-
CloudPortal/Events/Broker.lean

The event broker (`app/events/service.py`, `app/events/consumers.py`, the consumers of
`app/api/event_enterprise.py` and the retention of `app/operations/service.py`).

A transaction draws the sequence number of an event when it publishes it, and the event can be
seen when the transaction commits.  Extensions and pull consumers read the log behind a
cursor; extensions get deliveries, consumers get answers and acknowledge them.

A pass of the dispatcher loads the rows of the extensions first and locks them one by one
later, without reading them again, so the cursors with which it works can be old ones
(`passes`).  What it writes for one extension it writes under the lock of that extension.
-/
import CloudPortal.Lib.Table
import CloudPortal.Lib.Transition
import CloudPortal.Lib.Batch

namespace CloudPortal.Events

open RowStore Transition

/-! ### Rows -/

/-- An `EventRecord`, beside its sequence number. -/
structure EventRecord where
  type : String
  createdAt : ℤ
  deriving DecidableEq, Repr

inductive ExtensionStatus
  | healthy | degraded | error | disabled
  deriving DecidableEq, Repr

structure ExtensionState where
  version : String
  isEnabled : Bool := true
  status : ExtensionStatus := .healthy
  lastEventSequence : ℕ := 0
  failureCount : ℕ := 0

inductive DeliveryStatus
  | pending | delivered | deadLetter
  deriving DecidableEq, Repr

structure ExtensionDelivery where
  extensionName : String
  eventSequence : ℕ
  status : DeliveryStatus := .pending
  attempts : ℕ := 0
  isReplay : Bool := false
  nextAttemptAt : ℤ

structure EventConsumer where
  eventPatterns : List String
  cursorSequence : ℕ
  lastCheckpointSequence : Option ℕ := none
  maxBatch : ℕ := 100
  isActive : Bool := true

/-- An event that its transaction has not committed. -/
structure Draft where
  transaction : ℕ
  record : EventRecord

structure Broker where
  now : ℤ := 0
  nextSequence : ℕ := 1
  drafts : Table ℕ Draft := .empty
  events : Table ℕ EventRecord := .empty
  states : Table String ExtensionState := .empty
  /-- the cursors that a pass of the dispatcher has loaded -/
  passes : Table ℕ (Table String ExtensionState) := .empty
  deliveries : Table ℕ ExtensionDelivery := .empty
  consumers : Table ℕ EventConsumer := .empty
  /-- the setting `event_retention` -/
  floorSequence : ℕ := 0

/-- `ExtensionSpec`; of the handler only whether there is one. -/
structure ExtensionSpec where
  name : String
  version : String
  eventPatterns : List String := []
  hasHandler : Bool := true
  replayExistingEvents : Bool := false

/-- The extensions that are installed (`extension_specs` refuses two of one name), and how
patterns match. -/
structure Registry where
  specs : List ExtensionSpec
  /-- `fnmatchcase` of a type and a pattern -/
  fnmatch : String → String → Bool
  nodup : (specs.map (·.name)).Nodup

inductive Failure
  | valueError (message : String)
  | http (status : ℕ) (message : String)
  deriving DecidableEq, Repr

/-- `event_matches`. -/
def Registry.eventMatches (registry : Registry) (patterns : List String) (type : String) : Bool :=
  patterns.any (registry.fnmatch type)

/-- `extension_by_name`. -/
def Registry.byName (registry : Registry) (name : String) : Option ExtensionSpec :=
  registry.specs.find? (·.name = name)

/-! ### Publishing -/

/-- `EVENT_TYPE_RE`. -/
def validType (type : String) : Bool :=
  let first (c : Char) : Bool := ('a' ≤ c && c ≤ 'z') || ('0' ≤ c && c ≤ '9')
  match type.toList with
  | [] => false
  | c :: rest => first c && 1 ≤ rest.length && rest.length ≤ 127
      && rest.all fun c => first c || c = '_' || c = '.' || c = '-'

/-- `publish_event`. -/
def publishEvent (s : Broker) (transaction : ℕ) (type : String) : Except Failure Broker :=
  if !validType type then .error (.valueError "Invalid event type")
  else .ok { s with
    nextSequence := s.nextSequence + 1
    drafts := s.drafts.put s.nextSequence ⟨transaction, type, s.now⟩ }

/-- The events of a transaction become visible. -/
def commit (s : Broker) (transaction : ℕ) : Broker :=
  { s with
    drafts := s.drafts.discard fun _ draft => draft.transaction = transaction
    events := s.events.putAll ((s.drafts.select fun _ draft => draft.transaction = transaction).map
      fun (sequence, draft) => (sequence, draft.record)) }

def rollback (s : Broker) (transaction : ℕ) : Broker :=
  { s with drafts := s.drafts.discard fun _ draft => draft.transaction = transaction }

/-! ### Extensions -/

/-- `select(func.max(EventRecord.sequence)) or 0`. -/
def Broker.latestSequence (s : Broker) : ℕ := (s.events.rows.map (·.1)).foldr max 0

/-- One round of `sync_extension_states`. -/
def syncState (latest : ℕ) (states : Table String ExtensionState) (spec : ExtensionSpec) :
    Table String ExtensionState :=
  match states.find? spec.name with
  | none => states.put spec.name {
      version := spec.version
      lastEventSequence := if spec.replayExistingEvents then 0 else latest }
  | some state => states.put spec.name { state with version := spec.version }

/-- `sync_extension_states`. -/
def syncExtensionStates (registry : Registry) (s : Broker) : Broker :=
  { s with states := registry.specs.foldl (syncState s.latestSequence) s.states }

/-- `WHERE sequence > cursor ORDER BY sequence LIMIT n`. -/
def Broker.eventsAfter (s : Broker) (cursor limit : ℕ) : List (ℕ × EventRecord) :=
  Batch.first (fun x y => x.1 ≤ y.1) limit (s.events.select fun sequence _ => cursor < sequence)

/-- There is a delivery that is no replay. -/
def delivered (deliveries : Table ℕ ExtensionDelivery) (name : String) (sequence : ℕ) : Bool :=
  deliveries.rows.any fun (_, row) =>
    row.extensionName = name && row.eventSequence = sequence && !row.isReplay

/-- One round of the inner loop of `materialize_extension_deliveries`. -/
def materializeEvent (registry : Registry) (now : ℤ) (spec : ExtensionSpec)
    (deliveries : Table ℕ ExtensionDelivery) (event : ℕ × EventRecord) :
    Table ℕ ExtensionDelivery :=
  if registry.eventMatches spec.eventPatterns event.2.type
      && !delivered deliveries spec.name event.1 then
    deliveries.put deliveries.fresh {
      extensionName := spec.name, eventSequence := event.1, nextAttemptAt := now }
  else deliveries

/-- The first part of a pass: missing rows are made, and all rows are loaded. -/
def loadPass (registry : Registry) (s : Broker) (pass : ℕ) : Broker :=
  let s := syncExtensionStates registry s
  { s with passes := s.passes.put pass s.states }

/-- What a pass does for one extension, with the row that it has loaded. -/
def materialize (registry : Registry) (s : Broker) (pass : ℕ) (name : String) :
    Except Failure Broker :=
  match registry.byName name, (s.passes.find? pass).bind (·.find? name), s.states.find? name with
  | some spec, some loaded, some state =>
    if !loaded.isEnabled || !spec.hasHandler then .ok s
    else
      let events := s.eventsAfter loaded.lastEventSequence 500
      match events.getLast? with
      | none => .ok s
      | some last => .ok { s with
          deliveries := events.foldl (materializeEvent registry s.now spec) s.deliveries
          states := s.states.put name { state with lastEventSequence := last.1 } }
  | _, _, _ => .ok s

/-- `_retry_delay`, in seconds. -/
def retryDelay (attempts : ℕ) : ℕ := min 3600 (5 * 2 ^ (attempts - 1))

/-- What `deliver_extension_deliveries` does with one delivery; whether the handler raises is
an input. -/
def deliverOne (registry : Registry) (succeeds : ℕ → Bool) (s : Broker) (id : ℕ) : Broker :=
  match s.deliveries.find? id with
  | none => s
  | some delivery =>
    let write (delivery : ExtensionDelivery) (state : ExtensionState) : Broker :=
      { s with
        deliveries := s.deliveries.put id delivery
        states := s.states.put delivery.extensionName state }
    match s.states.find? delivery.extensionName with
    | none => s
    | some state =>
      if !state.isEnabled then s
      else if (registry.byName delivery.extensionName).all (!·.hasHandler) then
        write { delivery with status := .deadLetter } { state with status := .error }
      else if (s.events.find? delivery.eventSequence).isNone then
        write { delivery with status := .deadLetter } state
      else if succeeds id then
        write { delivery with status := .delivered }
          { state with status := .healthy, failureCount := 0 }
      else if 8 ≤ delivery.attempts + 1 then
        write { delivery with attempts := delivery.attempts + 1, status := .deadLetter }
          { state with failureCount := state.failureCount + 1, status := .error }
      else
        write { delivery with
            attempts := delivery.attempts + 1
            nextAttemptAt := s.now + retryDelay (delivery.attempts + 1) * 1000000 }
          { state with failureCount := state.failureCount + 1, status := .degraded }

/-- `deliver_extension_deliveries`; rows that others have locked are skipped. -/
def deliver (registry : Registry) (s : Broker) (succeeds locked : ℕ → Bool) : Broker :=
  let s := syncExtensionStates registry s
  let due := s.deliveries.select fun id row => row.status = .pending && row.nextAttemptAt ≤ s.now
    && (s.states.find? row.extensionName).any (·.isEnabled) && !locked id
  let batch := Batch.first (fun x y => x.2.nextAttemptAt ≤ y.2.nextAttemptAt) 100 due
  batch.foldl (fun s (id, _) => deliverOne registry succeeds s id) s

/-- `update_extension`. -/
def updateExtension (registry : Registry) (s : Broker) (name : String) (isEnabled : Bool) :
    Except Failure Broker :=
  match registry.byName name with
  | none => .error (.http 404 "Extension not found")
  | some _ =>
    let s := syncExtensionStates registry s
    match s.states.find? name with
    | none => .error (.http 404 "Extension not found")
    | some state => .ok { s with states := s.states.put name { state with
        isEnabled
        status := if !isEnabled then .disabled
          else if state.status = .disabled then .healthy else state.status } }

inductive ReplayTarget
  | all | webhooks | extensions
  deriving DecidableEq, Repr

/-- `replay_event`. -/
def replayEvent (registry : Registry) (s : Broker) (sequence : ℕ) (target : ReplayTarget) :
    Except Failure Broker :=
  match s.events.find? sequence with
  | none => .error (.http 404 "Event not found")
  | some event =>
    let specs := registry.specs.filter fun spec => spec.hasHandler
      && registry.eventMatches spec.eventPatterns event.type
      && !(target = .webhooks && spec.name ≠ "core.webhook-bridge")
      && !(target = .extensions && spec.name = "core.webhook-bridge")
      && (s.states.find? spec.name).all (·.isEnabled)
    .ok { s with deliveries := specs.foldl (fun deliveries spec =>
      deliveries.put deliveries.fresh {
        extensionName := spec.name, eventSequence := sequence, isReplay := true
        nextAttemptAt := s.now }) s.deliveries }

/-- `retry_dead_letter`, for a delivery to an extension. -/
def retryDeadLetter (s : Broker) (id : ℕ) : Except Failure Broker :=
  match s.deliveries.find? id with
  | none => .error (.http 404 "Delivery not found")
  | some row =>
    if row.status ≠ .deadLetter then
      .error (.valueError "Delivery is not in a retryable terminal state")
    else .ok { s with deliveries := s.deliveries.put id { row with
      status := .pending, attempts := 0, nextAttemptAt := s.now } }

/-! ### Pull consumers -/

/-- `start_from` and `start_sequence`. -/
inductive Start
  | latest | earliest | sequence (sequence : ℕ)
  deriving DecidableEq, Repr

/-- `max(latest or 0, floor)`. -/
def Broker.latestOrFloor (s : Broker) : ℕ := max s.latestSequence s.floorSequence

/-- `resolve_start_sequence`. -/
def resolveStartSequence (s : Broker) : Start → Except Failure ℕ
  | .latest => .ok s.latestOrFloor
  | .earliest => .ok s.floorSequence
  | .sequence sequence =>
    if sequence < s.floorSequence ∨ s.latestOrFloor < sequence then
      .error (.valueError "start_sequence is outside the retained event range")
    else .ok sequence

/-- The columns of a request for a consumer. -/
structure ConsumerInput where
  eventPatterns : List String
  maxBatch : ℕ := 100
  isActive : Bool := true
  maxBatch_bounds : 1 ≤ maxBatch ∧ maxBatch ≤ 500 := by decide

/-- `create_event_consumer`. -/
def createConsumer (s : Broker) (data : ConsumerInput) (start : Start) : Except Failure Broker := do
  let cursor ← resolveStartSequence s start
  pure { s with consumers := s.consumers.put s.consumers.fresh {
    eventPatterns := data.eventPatterns, cursorSequence := cursor
    maxBatch := data.maxBatch, isActive := data.isActive } }

def consumerNotFound : Failure := .http 404 "Event consumer not found"

def Broker.consumer (s : Broker) (id : ℕ) : Except Failure EventConsumer :=
  match s.consumers.find? id with
  | none => .error consumerNotFound
  | some row => .ok row

/-- `update_event_consumer`. -/
def updateConsumer (s : Broker) (id : ℕ) (data : ConsumerInput) : Except Failure Broker := do
  let row ← s.consumer id
  let changed := row.eventPatterns ≠ data.eventPatterns ∨ row.isActive ≠ data.isActive
  pure { s with consumers := s.consumers.put id { row with
    eventPatterns := data.eventPatterns, maxBatch := data.maxBatch, isActive := data.isActive
    lastCheckpointSequence := if changed then none else row.lastCheckpointSequence } }

/-- The loop of `poll_consumer`: the events that match, and how far it came. -/
def scan (isMatch : EventRecord → Bool) (limit : ℕ) :
    List (ℕ × EventRecord) → List (ℕ × EventRecord) → ℕ → List (ℕ × EventRecord) × ℕ
  | [], found, checkpoint => (found, checkpoint)
  | event :: events, found, _ =>
    if isMatch event.2 then
      if limit ≤ (found ++ [event]).length then (found ++ [event], event.1)
      else scan isMatch limit events (found ++ [event]) event.1
    else scan isMatch limit events found event.1

/-- What `poll_consumer` answers: the events and the checkpoint. -/
def pollAnswer (registry : Registry) (s : Broker) (row : EventConsumer)
    (requestedLimit : Option ℕ) : List (ℕ × EventRecord) × ℕ :=
  let requested := match requestedLimit with
    | none | some 0 => row.maxBatch
    | some requested => requested
  let limit := min (min requested row.maxBatch) 500
  let scanWindow := min (max (limit * 20) 1000) 10000
  scan (fun event => registry.eventMatches row.eventPatterns event.type) limit
    (s.eventsAfter row.cursorSequence scanWindow) [] row.cursorSequence

def behindFloor : Failure :=
  .valueError "Consumer cursor is behind retained event floor; reset required"

/-- What `poll_consumer` and `ack_consumer` begin with. -/
def checkReadable (s : Broker) (row : EventConsumer) : Except Failure Unit := do
  if !row.isActive then throw (.valueError "Event consumer is disabled")
  if row.cursorSequence < s.floorSequence then throw behindFloor

/-- `poll_consumer`. -/
def pollConsumer (registry : Registry) (s : Broker) (id : ℕ) (requestedLimit : Option ℕ) :
    Except Failure Broker := do
  let row ← s.consumer id
  checkReadable s row
  pure { s with consumers := s.consumers.put id { row with
    lastCheckpointSequence := some (pollAnswer registry s row requestedLimit).2 } }

/-- `ack_consumer`. -/
def ackConsumer (s : Broker) (id sequence : ℕ) : Except Failure Broker := do
  let row ← s.consumer id
  checkReadable s row
  if sequence < row.cursorSequence then
    throw (.valueError "ACK sequence cannot move the cursor backwards")
  if s.latestOrFloor < sequence then
    throw (.valueError "ACK sequence is beyond the latest event")
  if row.lastCheckpointSequence.all (· < sequence) then
    throw (.valueError "ACK sequence exceeds the last polled checkpoint")
  pure { s with consumers := s.consumers.put id { row with cursorSequence := sequence } }

/-- `reset_consumer`. -/
def resetConsumer (s : Broker) (id : ℕ) (start : Start) : Except Failure Broker := do
  let row ← s.consumer id
  let cursor ← resolveStartSequence s start
  pure { s with consumers := s.consumers.put id { row with
    cursorSequence := cursor, lastCheckpointSequence := none } }

/-- `delete_event_consumer`. -/
def deleteConsumer (s : Broker) (id : ℕ) : Except Failure Broker := do
  let _ ← s.consumer id
  pure { s with consumers := s.consumers.erase id }

/-! ### Retention -/

/-- The lowest cursor of active consumers and enabled extensions. -/
def safeSequence (s : Broker) : Option ℕ :=
  ((s.consumers.select fun _ row => row.isActive).map (·.2.cursorSequence)
    ++ (s.states.select fun _ row => row.isEnabled).map (·.2.lastEventSequence)).min?

/-- A delivery still needs the event. -/
def protectedDelivery (s : Broker) (sequence : ℕ) : Bool :=
  s.deliveries.rows.any fun (_, row) => row.eventSequence = sequence
    && (row.status = .pending || row.status = .deadLetter)

/-- The conditions of the deletion. -/
def disposable (s : Broker) (cutoff : ℤ) (sequence : ℕ) (event : EventRecord) : Bool :=
  event.createdAt < cutoff && !protectedDelivery s sequence
    && (safeSequence s).all (sequence ≤ ·)

/-- The part of `cleanup_retention_once` about events; deliveries go with their events. -/
def cleanupRetention (registry : Registry) (s : Broker) (retention : ℤ) : Broker :=
  let s := syncExtensionStates registry s
  let gone := s.events.select (disposable s (s.now - retention))
  { s with
    events := s.events.discard (disposable s (s.now - retention))
    deliveries := s.deliveries.discard fun _ row => row.eventSequence ∈ gone.map (·.1)
    floorSequence := (gone.map (·.1)).foldr max s.floorSequence }

/-! ### Steps -/

inductive Step
  | publish (transaction : ℕ) (type : String)
  | commit (transaction : ℕ)
  | rollback (transaction : ℕ)
  | loadPass (pass : ℕ)
  | materialize (pass : ℕ) (name : String)
  | deliver (succeeds locked : ℕ → Bool)
  | updateExtension (name : String) (isEnabled : Bool)
  | replayEvent (sequence : ℕ) (target : ReplayTarget)
  | retryDeadLetter (id : ℕ)
  | createConsumer (data : ConsumerInput) (start : Start)
  | updateConsumer (id : ℕ) (data : ConsumerInput)
  | poll (id : ℕ) (requestedLimit : Option ℕ)
  | ack (id sequence : ℕ)
  | reset (id : ℕ) (start : Start)
  | deleteConsumer (id : ℕ)
  | cleanupRetention (retention : ℤ)
  | tick (microseconds : ℕ)

def apply (registry : Registry) (s : Broker) : Step → Except Failure Broker
  | .publish transaction type => publishEvent s transaction type
  | .commit transaction => .ok (commit s transaction)
  | .rollback transaction => .ok (rollback s transaction)
  | .loadPass pass => .ok (loadPass registry s pass)
  | .materialize pass name => materialize registry s pass name
  | .deliver succeeds locked => .ok (deliver registry s succeeds locked)
  | .updateExtension name isEnabled => updateExtension registry s name isEnabled
  | .replayEvent sequence target => replayEvent registry s sequence target
  | .retryDeadLetter id => retryDeadLetter s id
  | .createConsumer data start => createConsumer s data start
  | .updateConsumer id data => updateConsumer s id data
  | .poll id requestedLimit => pollConsumer registry s id requestedLimit
  | .ack id sequence => ackConsumer s id sequence
  | .reset id start => resetConsumer s id start
  | .deleteConsumer id => deleteConsumer s id
  | .cleanupRetention retention => .ok (cleanupRetention registry s retention)
  | .tick microseconds => .ok { s with now := s.now + microseconds }

/-- One extension that listens to everything. -/
def auditRegistry : Registry where
  specs := [{ name := "core.audit", version := "1", eventPatterns := ["*"] }]
  fnmatch type pattern := pattern = "*" || type = pattern
  nodup := List.nodup_singleton _

end CloudPortal.Events
