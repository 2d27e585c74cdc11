/-
CloudPortal/Quota/Prepare.lean

How jobs turn into reservations (`app/quotas/service.py`): the target capacity of
a Terraform or direct Proxmox job, the delta of a Day-2 action, the preview
`check_delta`, and the two functions that prepare a job's reservation.

The rows these functions read (job, deployment, inventory row, request
parameters, live configuration) are passed as values; the quota keys of the job
payload are the record `QuotaTag`.
-/
import CloudPortal.Quota.Service

namespace CloudPortal

open RowStore

/-! ### Deployments and their capacity -/

/-- The variables of a deployment that say how large its machine is. -/
structure CapacityVariables where
  cpu : Option RawValue := none
  memory : Option RawValue := none
  disk : Option RawValue := none
  rootVolumeSize : Option RawValue := none
  osDiskSizeGb : Option RawValue := none
  deriving DecidableEq, Repr

/-- A deployment row, as far as quota admission reads it. -/
structure DeploymentShape where
  id : ℕ
  provider : ProviderKind
  capacity : CapacityVariables
  deriving DecidableEq, Repr

/-- `_nonnegative_int`, with `0` for a value that is missing or not a number. -/
def nonnegativeInt : Option RawValue → ℤ
  | some (.integer n) => max 0 n
  | _ => 0

/-- `deployment_dimensions`: one machine of the size the variables give. -/
def deploymentDimensions (deployment : DeploymentShape) : Amounts :=
  let values := deployment.capacity
  match deployment.provider with
  | .proxmox => fun
      | .vmCount => 1
      | .vcpu => nonnegativeInt values.cpu
      | .memoryMb => nonnegativeInt values.memory
      | .diskGib => nonnegativeInt values.disk
  | .vmware => fun
      | .vmCount => 1
      | .vcpu => nonnegativeInt values.cpu
      | .memoryMb => nonnegativeInt values.memory
      | .diskGib => nonnegativeInt values.disk
  | .aws => fun
      | .vmCount => 1
      | .diskGib => nonnegativeInt values.rootVolumeSize
      | _ => 0
  | .azure => fun
      | .vmCount => 1
      | .diskGib => nonnegativeInt values.osDiskSizeGb
      | _ => 0
  | _ => fun
      | .vmCount => 1
      | _ => 0

/-- `active_limit_dimensions`, in sorted order. -/
def activeLimitDimensions (l : Ledger) (scope : Scope) : List Dimension :=
  sortedDimensions.filter fun d =>
    (l.tenantLimits.find? (scope.tenantId, d)).isSome || (l.projectLimits.find? (scope, d)).isSome

/-- `', '.join(sorted(...))` of dimension names. -/
def joinNames (ds : List Dimension) : String := String.intercalate ", " (ds.map Dimension.name)

/-! ### Jobs -/

/-- The columns of a job that quota admission reads. -/
structure JobRef where
  id : ℕ
  operation : Operation
  scope : Scope
  deriving DecidableEq, Repr

/-- The quota keys of a job payload: `_quota_checked`, `_quota_reservation_id`,
`_quota_superseded_reservations` and `_quota_dimensions`. -/
structure QuotaTag where
  checked : Bool := false
  reservationId : Option ℕ := none
  superseded : Option ℕ := none
  dimensions : Option Mapping := none
  deriving DecidableEq, Repr

/-- The request key of a job. -/
def jobKey (id : ℕ) : String := "job:" ++ toString id

/-- `MUTATING_TERRAFORM`. -/
def Operation.mutatingTerraform : Operation → Bool
  | .terraformApply => true
  | .terraformImport => true
  | .terraformDestroy => true
  | .proxmoxProvision => true
  | .proxmoxDestroy => true
  | _ => false

/-- Reject a request when a limited dimension has no known value. -/
def ensureResolved (message : String) (unresolved : List Dimension) : Except QuotaError Unit :=
  if unresolved ≠ [] then fail 409 .quotaDimensionUnresolved (message ++ joinNames unresolved)
  else .ok ()

/-- The target of an apply or a provisioning: what the variables ask for. -/
def requestedTarget (l : Ledger) (job : JobRef) (deployment : DeploymentShape) :
    Except QuotaError Amounts := do
  ensureResolved "Quota admission cannot determine normalized capacity for: "
    ((activeLimitDimensions l job.scope).filter fun d => deployment.provider.unresolved.contains d)
  .ok (deploymentDimensions deployment)

/-- The target of an import: the baseline that the provider confirmed. -/
def importTarget (l : Ledger) (job : JobRef) (tag : QuotaTag) : Except QuotaError Amounts :=
  match tag.dimensions with
  | none =>
    fail 409 .quotaImportBaselineRequired
      "Imported resources require provider-confirmed quota dimensions; recreate the adoption request"
  | some raw => do
      let baseline ← values false raw
      ensureResolved "Import baseline does not provide normalized capacity for: "
        ((activeLimitDimensions l job.scope).filter fun d =>
          Function.update baseline .vmCount 1 d = 0)
      .ok (Function.update baseline .vmCount 1)

/-- The capacity a deployment has after a job, for the operations that have one. -/
def jobTarget (l : Ledger) (job : JobRef) (deployment : DeploymentShape) (tag : QuotaTag) :
    Except QuotaError (Option Amounts) :=
  match job.operation with
  | .terraformApply => some <$> requestedTarget l job deployment
  | .proxmoxProvision => some <$> requestedTarget l job deployment
  | .terraformImport => some <$> importTarget l job tag
  | .terraformDestroy => .ok (some 0)
  | .proxmoxDestroy => .ok (some 0)
  | _ => .ok none

/-- `_job_quota`: the change from the current allocation to the target. -/
def jobQuota (l : Ledger) (job : JobRef) (deployment : DeploymentShape) (tag : QuotaTag) :
    Except QuotaError (Option QuotaDelta) := do
  let subject : Subject := ⟨job.scope, .deployment, deployment.id⟩
  let current ← allocationDimensions l subject
  match ← jobTarget l job deployment tag with
  | none => .ok none
  | some target => .ok (some ⟨subject, job.operation, (target - current).toMapping⟩)

/-- The first part of `prepare_job_reservation`: a destroy supersedes what is
still held for its deployment. -/
def supersede (l : Ledger) (job : JobRef) (deployment : DeploymentShape) (tag : QuotaTag) :
    Except QuotaError (QuotaTag × Ledger) :=
  if job.operation.destroys then do
    let (n, l') ← releaseActiveForSubject l ⟨job.scope, .deployment, deployment.id⟩
    .ok (if n ≠ 0 then { tag with superseded := some n } else tag, l')
  else .ok (tag, l)

/-- `prepare_job_reservation`; `deployment` is `none` if the job has none or its
row is gone. -/
def prepareJobReservation (l : Ledger) (job : JobRef) (deployment : Option DeploymentShape)
    (tag : QuotaTag) : Except QuotaError (QuotaTag × Ledger) :=
  match deployment with
  | none => .ok (tag, l)
  | some deployment =>
    if !job.operation.mutatingTerraform then .ok (tag, l) else do
      let (tag₁, l₁) ← supersede l job deployment tag
      match ← jobQuota l₁ job deployment tag with
      | none => .ok ({ tag₁ with checked := true }, l₁)
      | some quota =>
        -- an id that the payload carries already stays when nothing changes
        if quota.deltas = [] then .ok ({ tag₁ with checked := true }, l₁) else do
          let (reservation, l₂) ← reserve l₁ quota (jobKey job.id)
          .ok ({ tag₁ with checked := true, reservationId := reservation }, l₂)

/-- `job_reservation`: the id of the reservation of a job. -/
def jobReservation (l : Ledger) (jobId : ℕ) (tag : QuotaTag) : Option ℕ :=
  match tag.reservationId with
  | some id => (l.reservations.find? id).map fun _ => id
  | none => (l.reservationByKey (jobKey jobId)).map Prod.fst

/-- `commit_job_reservation`. -/
def commitJobReservation (l : Ledger) (jobId : ℕ) (tag : QuotaTag) : Except QuotaError Ledger :=
  match jobReservation l jobId tag with
  | some id => commitReservation l id
  | none => .ok l

/-- `release_job_reservation`. -/
def releaseJobReservation (l : Ledger) (jobId : ℕ) (tag : QuotaTag) : Except QuotaError Ledger :=
  match jobReservation l jobId tag with
  | some id => releaseReservation l id
  | none => .ok l

/-- `mark_job_reservation_uncertain`. -/
def markJobReservationUncertain (l : Ledger) (jobId : ℕ) (tag : QuotaTag) :
    Except QuotaError Ledger :=
  match jobReservation l jobId tag with
  | some id => markUncertain l id
  | none => .ok l

/-! ### Preview -/

/-- One row of the answer of `check_delta`. -/
structure CheckItem where
  dimension : Dimension
  delta : ℤ
  allowed : Bool
  tenantAfterReserve : ℤ
  projectAfterReserve : ℤ
  tenantLimit : Option ℤ
  projectLimit : Option ℤ
  deriving DecidableEq, Repr

/-- The row of `check_delta` for one dimension. -/
def checkItem (l : Ledger) (scope : Scope) (deltas : Amounts) (d : Dimension) : CheckItem :=
  let increase := max 0 (deltas d)
  let tenant := l.tenantCounter scope.tenantId d
  let project := l.projectCounter scope d
  let tenantLimit := l.tenantLimits.find? (scope.tenantId, d)
  let projectLimit := l.projectLimits.find? (scope, d)
  { dimension := d
    delta := deltas d
    allowed := !exceeds tenantLimit tenant increase && !exceeds projectLimit project increase
    tenantAfterReserve := tenant.used + tenant.reserved + increase
    projectAfterReserve := project.used + project.reserved + increase
    tenantLimit := tenantLimit
    projectLimit := projectLimit }

/-- `check_delta`: preview a request without changing anything. -/
def checkDelta (l : Ledger) (scope : Scope) (deltas : Mapping) : Except QuotaError (List CheckItem) := do
  let deltas ← values true deltas
  .ok (deltas.keys.map (checkItem l scope deltas))

/-! ### Day-2 actions -/

/-- The inventory row (machine or resource) that a Day-2 action targets. -/
structure InventoryRef where
  id : ℕ
  scope : Scope
  deploymentId : Option ℕ
  /-- a row of `managed_vms`, else of `managed_resources` -/
  machine : Bool := true
  deriving DecidableEq, Repr

/-- The request parameters that `day2_delta` reads (integers, by the action's schema). -/
structure Day2Params where
  cpuCores : Option ℤ := none
  cpuSockets : Option ℤ := none
  memoryMb : Option ℤ := none
  sizeGib : Option ℤ := none
  newSizeGib : Option ℤ := none
  deriving DecidableEq, Repr

/-- The live configuration that `day2_delta` reads. -/
structure Day2Live where
  cpuCores : Option ℤ := none
  cpuSockets : Option ℤ := none
  sizeGib : Option ℤ := none
  newSizeGib : Option ℤ := none
  deriving DecidableEq, Repr

/-- `value or default`: a missing value and a zero give the default. -/
def orDefault (value : Option ℤ) (default : ℤ) : ℤ :=
  match value with
  | some n => if n ≠ 0 then n else default
  | none => default

/-- `_target_scope_and_subject`. -/
def targetSubject : Option InventoryRef → Except QuotaError Subject
  | none => fail 404 .resourceNotFound "Resource not found for quota accounting"
  | some row =>
    match row.deploymentId with
    | some id => .ok ⟨row.scope, .deployment, id⟩
    | none => .ok ⟨row.scope, .resource, row.id⟩

/-- The deltas of `resize_compute`; a dimension without an allocation is not counted. -/
def resizeDeltas (allocation : Amounts) (params : Day2Params) (live : Day2Live) : Amounts :=
  let charge (d : Dimension) (requested : ℤ) : ℤ :=
    requested - if allocation d ≠ 0 then allocation d else requested
  fun
  | .vcpu =>
    if params.cpuCores.isSome || params.cpuSockets.isSome then
      let cores := params.cpuCores.getD
        (orDefault live.cpuCores (orDefault (some (allocation .vcpu)) 1))
      let sockets := params.cpuSockets.getD (orDefault live.cpuSockets 1)
      charge .vcpu (max 0 (cores * sockets))
    else 0
  | .memoryMb =>
    match params.memoryMb with
    | some memory => charge .memoryMb (max 0 memory)
    | none => 0
  | _ => 0

/-- The change of the disk total; a deletion gives back the live size of the disk. -/
def diskChange (action : Day2Kind) (params : Day2Params) (live : Day2Live) : ℤ :=
  match action with
  | .addDisk => max 0 (params.sizeGib.getD 0)
  | .resizeDisk => max 0 (params.newSizeGib.getD 0 - live.newSizeGib.getD 0)
  | _ => -max 0 (live.sizeGib.getD 0)

/-- The deltas of an action, from the allocation of its subject. -/
def actionDeltas (l : Ledger) (scope : Scope) (allocation : Amounts) (action : Day2Kind)
    (params : Day2Params) (live : Day2Live) : Except QuotaError Amounts :=
  match action with
  | .resizeCompute =>
    if allocation = 0 ∧ activeLimitDimensions l scope ≠ [] then
      fail 409 .quotaAllocationRequired
        "Resource must be adopted into quota accounting before compute resize"
    else .ok (resizeDeltas allocation params live)
  | .addDisk | .resizeDisk | .deleteDisk =>
    if allocation = 0 then
      if activeLimitDimensions l scope ≠ [] then
        fail 409 .quotaAllocationRequired
          "Resource must be adopted into quota accounting before disk changes"
      else .ok 0
    else .ok (Function.update 0 .diskGib (diskChange action params live))
  | .deleteVm => .ok (-allocation)
  | .cloneVm =>
    fail 409 .quotaGovernedCloneRequired
      "Clone must use governed provisioning so the new resource receives its own quota allocation"
  | .other _ => .ok 0

/-- `day2_delta`. -/
def day2Delta (l : Ledger) (target : Option InventoryRef) (action : Day2Kind) (params : Day2Params)
    (live : Day2Live) : Except QuotaError QuotaDelta := do
  let subject ← targetSubject target
  let allocation ← allocationDimensions l subject
  let deltas ← actionDeltas l subject.scope allocation action params live
  .ok ⟨subject, .day2 action, deltas.toMapping⟩

/-- The error of `check_day2` for the first row that is not allowed. -/
def deniedCode (item : CheckItem) : QuotaCode :=
  if item.tenantLimit.any fun limit => limit < item.tenantAfterReserve then .tenantQuotaExceeded
  else if item.projectLimit.any fun limit => limit < item.projectAfterReserve then
    .projectQuotaExceeded
  else .quotaAccountingConflict

/-- `check_day2`. -/
def checkDay2 (l : Ledger) (target : Option InventoryRef) (action : Day2Kind) (params : Day2Params)
    (live : Day2Live) : Except QuotaError (QuotaDelta × List CheckItem) := do
  let quota ← day2Delta l target action params live
  let checks ← checkDelta l quota.subject.scope quota.deltas
  match checks.find? fun item => !item.allowed with
  | some denied => fail 409 (deniedCode denied) ("Quota exceeded for " ++ denied.dimension.name)
  | none => .ok (quota, checks)

/-- `prepare_day2_reservation`. -/
def prepareDay2Reservation (l : Ledger) (jobId : ℕ) (target : Option InventoryRef)
    (action : Day2Kind) (params : Day2Params) (live : Day2Live) (tag : QuotaTag) :
    Except QuotaError (QuotaTag × Ledger) := do
  let (quota, _) ← checkDay2 l target action params live
  if quota.deltas = [] then .ok ({ tag with checked := true }, l) else do
    let (reservation, l') ← reserve l quota (jobKey jobId)
    .ok ({ tag with checked := true, reservationId := reservation }, l')

end CloudPortal
