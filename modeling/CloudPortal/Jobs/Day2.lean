/-
CloudPortal/Jobs/Day2.lean

Day-2 actions: their requests and resource locks (`app/day2/service.py`) and the
worker that executes them (`app/day2/worker.py`).  A Day-2 job has no deployment;
its request row says what is to be done to which resource.

The checks of `validate_action` and of the policy engine before an execution
are inputs, like the live configuration of the machine.
-/
import CloudPortal.Jobs.Worker

namespace CloudPortal

open RowStore

/-! ### Resource locks -/

/-- A lock that another request may take over once it has expired. -/
def System.leaseEnded (s : System) (lock : ResourceLock) : Bool :=
  (s.requests.find? lock.requestId).any fun previous =>
    previous.status.terminal && !previous.reconciliationRequired

/-- `acquire_resource_lock`. -/
def acquireResourceLock (cfg : Settings) (s : System) (resourceId requestId : ℕ) :
    Except Failure (Table ℕ ResourceLock) :=
  let taken := s.locks.put resourceId
    { requestId := requestId, expiresAt := s.now + cfg.resourceLockTimeout }
  match s.locks.find? resourceId with
  | none => .ok taken
  | some lock =>
    if lock.requestId = requestId then .ok taken
    else if lock.expiresAt ≤ s.now then
      if s.leaseEnded lock then .ok taken
      else .error (.day2 "RESOURCE_LOCKED"
        "Expired execution lease requires reconciliation before reuse")
    else .error (.day2 "RESOURCE_LOCKED" "")

/-- `refresh_resource_lock`. -/
def refreshResourceLock (cfg : Settings) (s : System) (resourceId requestId : ℕ) :
    Except Failure (Table ℕ ResourceLock) := do
  ensure (.day2 "RESOURCE_LOCKED" "Day-2 execution lost its resource lock")
    ((s.locks.find? resourceId).any fun lock => lock.requestId = requestId)
  .ok (s.locks.put resourceId
    { requestId := requestId, expiresAt := s.now + cfg.resourceLockTimeout })

/-! ### Requests -/

/-- `_policy_stage_window`, the end of it. -/
def policyStageWindow (now : ℕ) (stage : Option ApprovalStage) : ℕ :=
  hoursFrom now (clampHours (orDefault (stage.bind (·.timeoutHours)) 48))

/-- The arguments of `create_action`, with the answers of its checks. -/
structure ActionInput where
  requestId : ℕ
  jobId : ℕ
  target : InventoryRef
  action : Day2Kind
  params : Day2Params
  live : Day2Live
  supportsCancel : Bool
  approvalRequired : Bool
  approvals : List ApprovalEffect := []

/-- The action waits for an approval if its own rules or a policy ask for one. -/
def ActionInput.gated (input : ActionInput) : Bool :=
  input.approvalRequired || !input.approvals.isEmpty

def ActionInput.policyApproval (input : ActionInput) (now : ℕ) : Option PolicyApproval :=
  let stages := policyApprovalStagesFromEffects input.approvals
  if stages = [] then none
  else some { stages := stages, stageExpiresAt := some (policyStageWindow now stages.head?) }

def ActionInput.request (input : ActionInput) : ActionRequest :=
  { target := input.target, action := input.action, params := input.params,
    supportsCancel := input.supportsCancel, jobId := input.jobId,
    status := if input.gated then .waitingApproval else .queued
    approvalState := if input.gated then .pending else .notRequired }

def ActionInput.job (input : ActionInput) (now : ℕ) : Job :=
  { deploymentId := none, operation := .day2 input.action, scope := input.target.scope,
    payload :=
      { requestId := some input.requestId, policy := input.approvals,
        policyApproval := input.policyApproval now }
    status := if input.gated then .waitingApproval else .queued }

/-- `create_action`. -/
def createAction (cfg : Settings) (s : System) (input : ActionInput) : Except Failure System := do
  ensure .notEnabled (s.freshJobId input.jobId && (s.requests.find? input.requestId).isNone)
  let s₁ : System := { s with requests := s.requests.put input.requestId input.request }
  if input.gated then .ok (s₁.putJob input.jobId (input.job s.now))
  else do
    let locks ← acquireResourceLock cfg s₁ input.target.id input.requestId
    let (tag, l) ← ofQuota (prepareDay2Reservation s.ledger input.jobId (some input.target)
      input.action input.params input.live {})
    .ok { (s₁.withLedger l).putJob input.jobId ((input.job s.now).withQuota tag) with locks := locks }

/-- The state of a policy approval in the payload of a job. -/
def Job.withPolicyApproval (job : Job) (state : Option PolicyApproval) : Job :=
  { job with payload := { job.payload with policyApproval := state } }

/-- The last part of `approve_action`: lock, admit and queue.  The status of the job
is written whatever it was. -/
def queueAction (cfg : Settings) (s : System) (requestId : ℕ) (request : ActionRequest) (job : Job)
    (live : Day2Live) : Except Failure System := do
  let locks ← acquireResourceLock cfg s request.target.id requestId
  let (tag, l) ← ofQuota (prepareDay2Reservation s.ledger request.jobId (some request.target)
    request.action request.params live job.payload.quota)
  .ok { (s.withLedger l).putJob request.jobId { job.withQuota tag with status := .queued } with
    locks := locks
    requests := s.requests.put requestId
      { request with approvalState := .approved, status := .queued } }

/-- `approve_action`. -/
def approveAction (cfg : Settings) (s : System) (requestId : ℕ) (live : Day2Live) (approves : Bool) :
    Except Failure System := do
  let request ← need (.day2 "RESOURCE_NOT_FOUND" "") (s.requests.find? requestId)
  ensure (.day2 "INVALID_STATE" "Action is not waiting for approval")
    (request.status = .waitingApproval && request.approvalState = .pending)
  let job ← need (.day2 "RESOURCE_NOT_FOUND" "Action job no longer exists")
    (s.jobs.find? request.jobId)
  ensure (.day2 "INVALID_STATE" "Policy approval stage has expired")
    (job.payload.policyApproval.all fun state =>
      state.complete || !expired s.now state.stageExpiresAt)
  match ← approvePolicyStage job.payload.policyApproval approves with
  | some (state, false) =>
    .ok (s.putJob request.jobId (job.withPolicyApproval (some { state with
      stageExpiresAt := some (policyStageWindow s.now state.stages[state.currentStage]?) })))
  | some (state, true) =>
    queueAction cfg s requestId request
      (job.withPolicyApproval (some { state with stageExpiresAt := none })) live
  | none => queueAction cfg s requestId request job live

/-- `cancel_action`. -/
def cancelAction (s : System) (requestId : ℕ) : Except Failure System := do
  let request ← need (.day2 "RESOURCE_NOT_FOUND" "") (s.requests.find? requestId)
  ensure (.day2 "INVALID_STATE" "Completed Day-2 action cannot be cancelled")
    (!request.status.terminal)
  let job ← need .notEnabled (s.jobs.find? request.jobId)
  if request.status = .waitingApproval ∨ request.status = .queued then do
    let l ← ofQuota (releaseJobReservation s.ledger request.jobId job.payload.quota)
    .ok { (s.withLedger l).putJob request.jobId
        { job with
          cancelRequested := true, status := .cancelled,
          error := some "Cancelled before execution" } with
      locks := releaseResourceLock s.locks request.target.id requestId
      requests := s.requests.put requestId
        { request with
          status := .cancelled
          approvalState :=
            if request.approvalState = .pending then .cancelled else request.approvalState } }
  else do
    ensure (.day2 "ACTION_NOT_SUPPORTED" "Provider action does not support cancellation")
      request.supportsCancel
    .ok { s.putJob request.jobId { job with cancelRequested := true, status := .cancelling } with
      requests := s.requests.put requestId { request with status := .cancelRequested } }

/-! ### The worker -/

/-- The request that the payload of a job names. -/
def System.jobRequest (s : System) (job : Job) : Option (ℕ × ActionRequest) :=
  job.payload.requestId.bind fun r => (s.requests.find? r).map fun request => (r, request)

/-- The request is approved and queued for this job. -/
def ActionRequest.runnable (id : ℕ) (request : ActionRequest) : Bool :=
  request.jobId = id && request.status = .queued
    && (request.approvalState = .notRequired || request.approvalState = .approved)

/-- The first transaction of a Day-2 worker; `valid` is the answer of its other checks.
If one fails, the claim is rolled back and a second transaction will fail the job. -/
def claimDay2Job (cfg : Settings) (s : System) (w id : ℕ) (valid : Bool) :
    Except Failure System := do
  let job ← need .notEnabled (s.jobs.find? id)
  ensure .notEnabled (job.status = .queued && !job.cancelRequested && job.operation.isDay2)
  ensure .notEnabled (s.workers.find? w).isNone
  match s.jobRequest job with
  | none =>
    .ok (s.putJob id
      { job with
        status := .failed, heartbeatAt := some s.now,
        error := some "Day-2 action request is missing" })
  | some (r, request) =>
    match refreshResourceLock cfg s request.target.id r with
    | .ok locks =>
      if request.runnable id && valid then
        .ok ({ s.putJob id { job with status := .running, heartbeatAt := some s.now } with
          locks := locks
          requests := s.requests.put r { request with status := .running } }.putWorker w
          { jobId := id, phase := .body, day2 := true })
      else .ok (s.putWorker w { jobId := id, phase := .rejected, day2 := true })
    | .error _ => .ok (s.putWorker w { jobId := id, phase := .rejected, day2 := true })

/-- `_fail_before_execution`. -/
def failBeforeExecution (s : System) (w : ℕ) (message : String) : Except Failure System := do
  let (worker, job) ← s.workerJob true w
  ensure .notEnabled (worker.phase = .rejected)
  let s' := (s.putJob worker.jobId
    { job with status := .failed, heartbeatAt := some s.now, error := some message }).endWorker w
  match (s.jobRequest job).filter fun r => r.2.jobId = worker.jobId with
  | none => .ok s'
  | some (r, request) => do
      let l ← ofQuota (releaseJobReservation s.ledger worker.jobId job.payload.quota)
      .ok { s'.withLedger l with
        locks := releaseResourceLock s.locks request.target.id r
        requests := s.requests.put r { request with status := .failed } }

/-- `Day2Context.check` and what follows from it. -/
def checkDay2Context (cfg : Settings) (s : System) (w : ℕ) (authorized : Bool) :
    Except Failure System := do
  let (worker, job) ← s.workerJob true w
  ensure .notEnabled worker.phase.checks
  let stop (outcome : Outcome) : System := s.putWorker w
    { worker with lastCheck := some s.now, cleared := false, phase := .finishing outcome }
  if worker.throttled s.now false then .ok (s.putWorker w { worker with cleared := true })
  else
    match s.jobRequest job with
    | none => .ok (stop .cancelled)
    | some (r, request) =>
      if job.cancelRequested || request.status = .cancelRequested then .ok (stop .cancelled)
      else if !authorized then .ok (stop .failed)
      else
        match refreshResourceLock cfg s request.target.id r with
        | .error _ => .ok (stop .failed)
        | .ok locks =>
          .ok ({ s.putJob worker.jobId { job with heartbeatAt := some s.now } with
            locks := locks }.putWorker w
            { worker with lastCheck := some s.now, cleared := true })

/-- The action is sent to the provider. -/
def submitDay2 (s : System) (w : ℕ) : Except Failure System := do
  let worker ← need .notEnabled (s.workers.find? w)
  ensure .notEnabled (worker.phase = .body && worker.cleared && worker.day2)
  .ok (s.putWorker w { worker with phase := .mutating false, submitted := true, cleared := false })

/-- The task of the provider ended well. -/
def confirmDay2 (s : System) (w : ℕ) : Except Failure System := do
  let worker ← need .notEnabled (s.workers.find? w)
  ensure .notEnabled (worker.phase = .mutating false && worker.day2)
  .ok (s.putWorker w { worker with phase := .body, confirmed := true })

/-- The inventory rows after a successful action: the target is gone or was seen. -/
def day2Inventory (rows : Table ℕ Lifecycle) (request : ActionRequest) : Table ℕ Lifecycle :=
  match request.target.deploymentId with
  | none => rows
  | some d =>
    match rows.find? d with
    | none => rows
    | some lifecycle =>
      if request.action = .deleteVm || lifecycle = .destroyed then rows.put d .destroyed
      else rows.put d .active

/-- The execution ends; a successful end records the state of the resource. -/
def finishDay2 (s : System) (w : ℕ) (successful : Bool) : Except Failure System := do
  let (worker, job) ← s.workerJob true w
  ensure .notEnabled worker.phase.checks
  if successful then do
    ensure .notEnabled (worker.phase = .body && worker.cleared)
    let (_, request) ← need .notEnabled (s.jobRequest job)
    .ok ({ s with
        vms := if request.target.machine then day2Inventory s.vms request else s.vms
        resources := if request.target.machine then s.resources
          else day2Inventory s.resources request }.putWorker w
      { worker with phase := .finishing .successful })
  else .ok (s.putWorker w { worker with phase := .finishing .failed })

/-- The provider was asked and did not confirm. -/
def Worker.day2Uncertain (worker : Worker) : Bool := worker.submitted && !worker.confirmed

/-- The quota side of the last transaction of a Day-2 worker. -/
def settleDay2 (l : Ledger) (id : ℕ) (job : Job) (worker : Worker) : Except QuotaError Ledger :=
  if worker.confirmed then commitJobReservation l id job.payload.quota
  else if worker.day2Uncertain then markJobReservationUncertain l id job.payload.quota
  else releaseJobReservation l id job.payload.quota

/-- The final status of a request. -/
def Outcome.requestStatus (warnings : Bool) : Outcome → RequestStatus
  | .successful => if warnings then .succeededWithWarning else .succeeded
  | .failed => .failed
  | .cancelled => .cancelled

/-- The error text that a Day-2 worker leaves on its job. -/
def Outcome.day2Error (message : String) : Outcome → Option String
  | .successful => none
  | .failed => some message
  | .cancelled => some "Cancellation requested"

/-- The last transaction of a Day-2 worker; it too writes the status whatever it was. -/
def finalizeDay2 (s : System) (w : ℕ) (warnings : Bool) (message : String) :
    Except Failure System := do
  let (worker, job) ← s.workerJob true w
  match worker.phase with
  | .finishing outcome =>
    match s.jobRequest job with
    | none => .ok (s.endWorker w)
    | some (r, request) => do
        let l ← ofQuota (settleDay2 s.ledger worker.jobId job worker)
        .ok { ((s.withLedger l).putJob worker.jobId
            { job with
              status := outcome.status, heartbeatAt := some s.now,
              error := outcome.day2Error message }).endWorker w with
          locks := if worker.day2Uncertain then s.locks
            else releaseResourceLock s.locks request.target.id r
          requests := s.requests.put r
            { request with
              status := outcome.requestStatus warnings
              reconciliationRequired := worker.day2Uncertain } }
  | _ => .error .notEnabled

end CloudPortal
