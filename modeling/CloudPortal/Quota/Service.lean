/-
CloudPortal/Quota/Service.lean

The quota service (`app/quotas/service.py`) over the rows of its tables
(`app/quotas/models.py`): limits, reservations and their settlement.  Every operation runs in one
database transaction under the tenant row lock, so it is a function on the ledger; an operation
that raises an error is rolled back (`step`).

A stored map of dimensions never holds a zero entry (`_values` drops them), so
it is a function `Dimension → ℤ` in which `0` stands for an absent key.  A
request arrives as a raw mapping of JSON values and becomes such a function in
`values`, with the source's errors.

A usage row that does not exist yet is created with zero counters by the first
operation that needs it, and every reader treats a missing row as zeros; the
lookups `Ledger.tenantCounter` and `Ledger.projectCounter` do the same.

The three counter loops of `reserve`, `commit_reservation` and
`release_reservation` have one shape: visit the keys of a map in sorted order,
read the tenant and the project row of the dimension, check them and write both
back.  `updateUsage` is that loop; `admitUsage`, `commitUsage` and
`releaseUsage` are the three bodies.
-/
import CloudPortal.Lib.Table
import CloudPortal.Lib.Transition
import Mathlib.Data.Fintype.Pi

namespace CloudPortal

open RowStore

/-! ### Dimensions and amounts -/

/-- The capacity dimensions of `DIMENSIONS`. -/
inductive Dimension
  | vmCount
  | vcpu
  | memoryMb
  | diskGib
  deriving DecidableEq, Repr

instance : Fintype Dimension where
  elems := {.vmCount, .vcpu, .memoryMb, .diskGib}
  complete d := by cases d <;> simp

/-- The key of a dimension in stored and requested maps. -/
def Dimension.name : Dimension → String
  | .vmCount => "vm_count"
  | .vcpu => "vcpu"
  | .memoryMb => "memory_mb"
  | .diskGib => "disk_gib"

/-- `DIMENSIONS`, in the source's order. -/
def dimensions : List Dimension := [.vmCount, .vcpu, .memoryMb, .diskGib]

/-- The dimensions in the order in which `sorted` visits their names. -/
def sortedDimensions : List Dimension := [.diskGib, .memoryMb, .vcpu, .vmCount]

/-- A map from dimensions to integers without zero entries; `0` is an absent key. -/
abbrev Amounts := Dimension → ℤ

/-- `sorted(amounts)`: the keys of the map in the order of the loops. -/
def Amounts.keys (a : Amounts) : List Dimension := sortedDimensions.filter fun d => a d ≠ 0

/-- `_positive`: the growth that a request asks for. -/
def positive (a : Amounts) : Amounts := fun d => max 0 (a d)

theorem mem_sortedDimensions (d : Dimension) : d ∈ sortedDimensions := by
  cases d <;> decide

theorem Amounts.nodup_keys (a : Amounts) : a.keys.Nodup :=
  (by decide : sortedDimensions.Nodup).filter _

theorem Amounts.mem_keys {a : Amounts} {d : Dimension} : d ∈ a.keys ↔ a d ≠ 0 := by
  simp [Amounts.keys, mem_sortedDimensions]

theorem positive_nonneg (a : Amounts) (d : Dimension) : 0 ≤ positive a d := le_max_left _ _

theorem positive_eq_zero {a : Amounts} {d : Dimension} (h : a d = 0) : positive a d = 0 := by
  simp [positive, h]

theorem le_positive (a : Amounts) (d : Dimension) : a d ≤ positive a d := le_max_right _ _

/-! ### Errors -/

/-- The codes with which the quota service rejects an operation. -/
inductive QuotaCode
  | invalidQuotaDimension
  | invalidQuotaValue
  | projectNotFound
  | quotaAccountingConflict
  | quotaLimitBelowCommittedUsage
  | quotaIdempotencyConflict
  | tenantQuotaExceeded
  | projectQuotaExceeded
  | quotaReconciliationRequired
  | quotaReservationReleased
  | quotaReservationNotFound
  | quotaReconciliationNotRequired
  | invalidReconciliationOutcome
  | quotaDimensionUnresolved
  | quotaImportBaselineRequired
  | resourceNotFound
  | quotaAllocationRequired
  | quotaGovernedCloneRequired
  /-- no code of `fail`: PostgreSQL refuses a value (`DataError`), which the API answers with 500 -/
  | numericValueOutOfRange
  deriving DecidableEq, Repr

/-- An HTTP failure raised by `fail(status, code, message)`. -/
structure QuotaError where
  status : ℕ
  code : QuotaCode
  message : String
  deriving DecidableEq, Repr

/-- `fail`: stop with an error; the transaction of the caller is rolled back. -/
def fail {α : Type} (status : ℕ) (code : QuotaCode) (message : String) : Except QuotaError α :=
  .error ⟨status, code, message⟩

/-! ### Raw mappings -/

/-- A value of a JSON mapping as `int(...)` sees it: a boolean, a value that
`int` converts to an integer, or one that it rejects. -/
inductive RawValue
  | bool (b : Bool)
  | integer (n : ℤ)
  | malformed
  deriving DecidableEq, Repr

/-- A mapping with string keys, in insertion order. -/
abbrev Mapping := List (String × RawValue)

/-- `_dimension`: the dimension of a key. -/
def dimension (value : String) : Except QuotaError Dimension :=
  match dimensions.find? fun d => d.name = value with
  | some d => .ok d
  | none => fail 422 .invalidQuotaDimension ("Unsupported quota dimension: " ++ value)

/-- The integer of one entry of `_values`. -/
def entryValue (signed : Bool) : RawValue → Except QuotaError ℤ
  | .bool _ => fail 422 .invalidQuotaValue "Quota values must be integers"
  | .malformed => fail 422 .invalidQuotaValue "Quota values must be integers"
  | .integer n =>
    if !signed && n < 0 then fail 422 .invalidQuotaValue "Quota values cannot be negative"
    else .ok n

/-- The loop of `_values` over the entries of a mapping. -/
def valuesFrom (signed : Bool) : Mapping → Amounts → Except QuotaError Amounts
  | [], result => .ok result
  | (key, raw) :: rest, result => do
      let d ← dimension key
      let value ← entryValue signed raw
      valuesFrom signed rest (if value ≠ 0 then Function.update result d value else result)

/-- `_values`: check a mapping and drop its zero entries. -/
def values (signed : Bool) (m : Mapping) : Except QuotaError Amounts := valuesFrom signed m 0

/-- The mapping with the entries of `a`, in the order of `DIMENSIONS`. -/
def Amounts.toMapping (a : Amounts) : Mapping :=
  (dimensions.filter fun d => a d ≠ 0).map fun d => (d.name, .integer (a d))

theorem dimension_name (d : Dimension) : dimension d.name = .ok d := by
  cases d <;> rfl

/-! ### Scopes, subjects and rows -/

/-- The tenant and project a row belongs to. -/
structure Scope where
  tenantId : ℕ
  projectId : ℕ
  deriving DecidableEq, Repr

/-- What an allocation or a reservation is about. -/
inductive SubjectType
  | deployment
  | resource
  deriving DecidableEq, Repr

/-- The unique key of an allocation row. -/
structure Subject where
  scope : Scope
  subjectType : SubjectType
  subjectId : ℕ
  deriving DecidableEq, Repr

/-- The Day-2 actions that the quota service tells apart. -/
inductive Day2Kind
  | resizeCompute
  | addDisk
  | resizeDisk
  | deleteDisk
  | deleteVm
  | cloneVm
  | other (id : String)
  deriving DecidableEq, Repr

/-- The values of the `operation` columns of jobs and reservations. -/
inductive Operation
  | terraformPlan
  | terraformApply
  | terraformImport
  | terraformDestroy
  | proxmoxProvision
  | proxmoxDestroy
  | ansibleExecute
  | blueprintDelete
  | day2 (action : Day2Kind)
  | reconcileConfirmedAbsent
  deriving DecidableEq, Repr

inductive ReservationStatus
  | reserved
  | uncertain
  | committed
  | released
  deriving DecidableEq, Repr

/-- `ACTIVE_RESERVATION_STATES`. -/
def ReservationStatus.active : ReservationStatus → Bool
  | .reserved => true
  | .uncertain => true
  | .committed => false
  | .released => false

/-- A row of `quota_reservations`. -/
structure Reservation where
  requestKey : String
  subject : Subject
  operation : Operation
  deltas : Amounts
  status : ReservationStatus
  reconciliationRequired : Bool
  deriving DecidableEq

/-- The counters of a usage row. -/
structure Usage where
  used : ℤ
  reserved : ℤ
  deriving DecidableEq, Repr

/-- Move both counters of a usage row. -/
def Usage.shift (u : Usage) (used reserved : ℤ) : Usage := ⟨u.used + used, u.reserved + reserved⟩

@[simp] theorem Usage.shift_used (u : Usage) (x y : ℤ) : (u.shift x y).used = u.used + x := rfl

@[simp] theorem Usage.shift_reserved (u : Usage) (x y : ℤ) :
    (u.shift x y).reserved = u.reserved + y := rfl

@[simp] theorem Usage.shift_zero (u : Usage) : u.shift 0 0 = u := by
  simp [Usage.shift]

/-- The events of the quota ledger. -/
inductive LedgerEvent
  | reserved
  | reReserved
  | committed
  | released
  | uncertain
  deriving DecidableEq, Repr

/-- A row of `quota_ledger_entries`. -/
structure LedgerEntry where
  reservationId : ℕ
  event : LedgerEvent
  subject : Subject
  deltas : Amounts
  deriving DecidableEq

/-- The quota tables of the database, with the projects that exist. -/
structure Ledger where
  scopes : Finset Scope
  tenantLimits : Table (ℕ × Dimension) ℤ
  projectLimits : Table (Scope × Dimension) ℤ
  tenantUsage : Table (ℕ × Dimension) Usage
  projectUsage : Table (Scope × Dimension) Usage
  reservations : Table ℕ Reservation
  allocations : Table Subject Amounts
  entries : List LedgerEntry

/-- The quota tables before the first operation. -/
def Ledger.empty (scopes : Finset Scope) : Ledger :=
  ⟨scopes, .empty, .empty, .empty, .empty, .empty, .empty, []⟩

/-- What a caller of `reserve` asks for. -/
structure QuotaDelta where
  subject : Subject
  operation : Operation
  deltas : Mapping

namespace Ledger

/-- The tenant usage row, zeros if it does not exist. -/
def tenantCounter (l : Ledger) (tenantId : ℕ) (d : Dimension) : Usage :=
  (l.tenantUsage.find? (tenantId, d)).getD ⟨0, 0⟩

/-- The project usage row, zeros if it does not exist. -/
def projectCounter (l : Ledger) (scope : Scope) (d : Dimension) : Usage :=
  (l.projectUsage.find? (scope, d)).getD ⟨0, 0⟩

/-- Write the tenant and the project usage row of one dimension. -/
def putUsage (l : Ledger) (scope : Scope) (d : Dimension) (tenant project : Usage) : Ledger :=
  { l with
    tenantUsage := l.tenantUsage.put (scope.tenantId, d) tenant
    projectUsage := l.projectUsage.put (scope, d) project }

/-- The allocation of a subject; an absent row is the empty map. -/
def allocation (l : Ledger) (subject : Subject) : Amounts := (l.allocations.find? subject).getD 0

/-- Write a reservation row and append its ledger entry (`_ledger`). -/
def write (l : Ledger) (id : ℕ) (row : Reservation) (event : LedgerEvent) : Ledger :=
  { l with
    reservations := l.reservations.put id row
    entries := l.entries ++ [⟨id, event, row.subject, row.deltas⟩] }

end Ledger

/-! ### Counter loops -/

/-- Visit the dimensions in order and rewrite the tenant and project row of each. -/
def updateUsage (scope : Scope) (body : Dimension → Usage → Usage → Except QuotaError (Usage × Usage)) :
    List Dimension → Ledger → Except QuotaError Ledger
  | [], l => .ok l
  | d :: ds, l => do
      let rows ← body d (l.tenantCounter scope.tenantId d) (l.projectCounter scope d)
      updateUsage scope body ds (l.putUsage scope d rows.1 rows.2)

/-- Whether a limit row forbids `increase` more. -/
def exceeds (limit : Option ℤ) (usage : Usage) (increase : ℤ) : Bool :=
  match limit with
  | some value => value < usage.used + usage.reserved + increase
  | none => false

/-- The largest value of a `BigInteger` column. -/
def bigIntegerMax : ℤ := 2 ^ 63 - 1

/-- The body of both loops of `reserve`: check the limits and hold the growth. -/
def admitUsage (l : Ledger) (scope : Scope) (growth : Amounts) (d : Dimension)
    (tenant project : Usage) : Except QuotaError (Usage × Usage) :=
  if exceeds (l.tenantLimits.find? (scope.tenantId, d)) tenant (growth d) then
    fail 409 .tenantQuotaExceeded ("Tenant quota exceeded for " ++ d.name)
  else if exceeds (l.projectLimits.find? (scope, d)) project (growth d) then
    fail 409 .projectQuotaExceeded ("Project quota exceeded for " ++ d.name)
  else if bigIntegerMax < max tenant.reserved project.reserved + growth d then
    -- the rows cannot be flushed
    fail 500 .numericValueOutOfRange "bigint out of range"
  else
    .ok (tenant.shift 0 (growth d), project.shift 0 (growth d))

/-- The body of the loop of `commit_reservation`: move the held growth to used
and subtract what the delta gives back. -/
def commitUsage (deltas current : Amounts) (d : Dimension) (tenant project : Usage) :
    Except QuotaError (Usage × Usage) :=
  if tenant.reserved < positive deltas d ∨ project.reserved < positive deltas d then
    fail 409 .quotaAccountingConflict "Quota reservation counters are inconsistent"
  else if min (tenant.used + deltas d) (min (project.used + deltas d) (current d + deltas d)) < 0 then
    fail 409 .quotaAccountingConflict "Quota usage cannot become negative"
  else
    .ok (tenant.shift (deltas d) (-positive deltas d), project.shift (deltas d) (-positive deltas d))

/-- The body of the loop of `release_reservation`: give the held growth back. -/
def releaseUsage (growth : Amounts) (d : Dimension) (tenant project : Usage) :
    Except QuotaError (Usage × Usage) :=
  if tenant.reserved < growth d ∨ project.reserved < growth d then
    fail 409 .quotaAccountingConflict "Quota reservation counters are inconsistent"
  else
    .ok (tenant.shift 0 (-growth d), project.shift 0 (-growth d))

/-! ### Reservations -/

/-- `_lock_scope`. -/
def lockScope (l : Ledger) (scope : Scope) : Except QuotaError Unit :=
  if scope ∈ l.scopes then .ok () else fail 404 .projectNotFound "Quota scope no longer exists"

/-- `allocation_dimensions`: the checked allocation map of a subject. -/
def allocationDimensions (l : Ledger) (subject : Subject) : Except QuotaError Amounts :=
  values false (l.allocation subject).toMapping

/-- The reservation with a request key (the column is unique). -/
def Ledger.reservationByKey (l : Ledger) (key : String) : Option (ℕ × Reservation) :=
  l.reservations.rows.find? fun r => r.2.requestKey = key

/-- The active reservations of a subject, in creation order. -/
def Ledger.activeOf (l : Ledger) (subject : Subject) : List (ℕ × Reservation) :=
  l.reservations.select fun _ r => r.subject = subject && r.status.active

/-- `str(request_key)[:128]`. -/
def truncateKey (key : String) : String := String.ofList (key.toList.take 128)

/-- `reserve`: hold the growth of a request under its key. -/
def reserve (l : Ledger) (quota : QuotaDelta) (requestKey : String) :
    Except QuotaError (Option ℕ × Ledger) := do
  let deltas ← values true quota.deltas
  if deltas = 0 then .ok (none, l) else do
    lockScope l quota.subject.scope
    match l.reservationByKey (truncateKey requestKey) with
    | some (id, existing) =>
      if existing.subject ≠ quota.subject ∨ existing.deltas ≠ deltas then
        fail 409 .quotaIdempotencyConflict "Quota reservation key was reused for different work"
      else if existing.status ≠ .released then .ok (some id, l)
      else do
        -- re-arm a released key: the limits are checked again, other
        -- reservations of the subject are not looked at
        let l' ← updateUsage quota.subject.scope (admitUsage l quota.subject.scope (positive deltas))
          deltas.keys l
        let row := { existing with status := .reserved, reconciliationRequired := false }
        .ok (some id, l'.write id row .reReserved)
    | none =>
      if l.activeOf quota.subject ≠ [] then
        fail 409 .quotaReconciliationRequired
          "The resource already has an active or uncertain quota reservation"
      else do
        let l' ← updateUsage quota.subject.scope (admitUsage l quota.subject.scope (positive deltas))
          deltas.keys l
        let row : Reservation :=
          ⟨truncateKey requestKey, quota.subject, quota.operation, deltas, .reserved, false⟩
        let id := l.reservations.fresh
        .ok (some id, l'.write id row .reserved)

/-- Write the allocation row of a subject; an empty map deletes it. -/
def Ledger.putAllocation (l : Ledger) (subject : Subject) (target : Amounts) : Ledger :=
  { l with
    allocations := if target ≠ 0 then l.allocations.put subject target
      else l.allocations.erase subject }

/-- `commit_reservation` on an active row. -/
def commitActive (l : Ledger) (id : ℕ) (row : Reservation) : Except QuotaError Ledger := do
  let current ← allocationDimensions l row.subject
  let l' ← updateUsage row.subject.scope (commitUsage row.deltas current) row.deltas.keys l
  let row' := { row with status := .committed, reconciliationRequired := false }
  .ok ((l'.putAllocation row.subject (current + row.deltas)).write id row' .committed)

/-- `release_reservation` on an active row. -/
def releaseActive (l : Ledger) (id : ℕ) (row : Reservation) : Except QuotaError Ledger := do
  let l' ← updateUsage row.subject.scope (releaseUsage (positive row.deltas))
    (positive row.deltas).keys l
  let row' := { row with status := .released, reconciliationRequired := false }
  .ok (l'.write id row' .released)

/-- `commit_reservation`. -/
def commitReservation (l : Ledger) (id : ℕ) : Except QuotaError Ledger :=
  match l.reservations.find? id with
  | none => .ok l
  | some row => do
      lockScope l row.subject.scope
      match row.status with
      | .committed => .ok l
      | .released =>
        fail 409 .quotaReservationReleased "Released quota reservation cannot be committed"
      | .reserved => commitActive l id row
      | .uncertain => commitActive l id row

/-- `release_reservation`. -/
def releaseReservation (l : Ledger) (id : ℕ) : Except QuotaError Ledger :=
  match l.reservations.find? id with
  | none => .ok l
  | some row => do
      lockScope l row.subject.scope
      match row.status with
      | .released => .ok l
      | .committed => .ok l
      | .reserved => releaseActive l id row
      | .uncertain => releaseActive l id row

/-- `mark_uncertain`. -/
def markUncertain (l : Ledger) (id : ℕ) : Except QuotaError Ledger :=
  match l.reservations.find? id with
  | none => .ok l
  | some row => do
      lockScope l row.subject.scope
      if row.status.active then
        let row' := { row with status := .uncertain, reconciliationRequired := true }
        .ok (l.write id row' .uncertain)
      else .ok l

/-- `reconcile_reservation`: the operator's decision on an uncertain row. -/
def reconcileReservation (l : Ledger) (id : ℕ) (outcome : String) : Except QuotaError Ledger :=
  match l.reservations.find? id with
  | none => fail 404 .quotaReservationNotFound "Quota reservation not found"
  | some row => do
      lockScope l row.subject.scope
      if row.status ≠ .uncertain then
        fail 409 .quotaReconciliationNotRequired "Reservation is not awaiting reconciliation"
      else if outcome = "commit" then commitReservation l id
      else if outcome = "release" then releaseReservation l id
      else fail 422 .invalidReconciliationOutcome "Outcome must be commit or release"

/-- The loop of `release_active_for_subject`. -/
def releaseEach : List ℕ → Ledger → Except QuotaError Ledger
  | [], l => .ok l
  | id :: ids, l => do
      let l' ← releaseReservation l id
      releaseEach ids l'

/-- `release_active_for_subject`; it returns the number of rows it released. -/
def releaseActiveForSubject (l : Ledger) (subject : Subject) : Except QuotaError (ℕ × Ledger) := do
  lockScope l subject.scope
  let ids := (l.activeOf subject).map Prod.fst
  let l' ← releaseEach ids l
  .ok (ids.length, l')

/-- Operations whose reservation is settled by the presence of the machine. -/
def Operation.creates : Operation → Bool
  | .terraformApply => true
  | .proxmoxProvision => true
  | _ => false

def Operation.destroys : Operation → Bool
  | .terraformDestroy => true
  | .proxmoxDestroy => true
  | _ => false

/-- The loop of `reconcile_terraform_presence`; `allocated` says whether the
variable `allocation` holds a row. -/
def settleEach (subject : Subject) (present : Bool) :
    List (ℕ × Reservation) → Bool → Ledger → Except QuotaError Ledger
  | [], _, l => .ok l
  | (id, row) :: rest, allocated, l =>
    if row.operation.creates then
      if allocated then settleEach subject present rest allocated l
      else if present then do
        let l' ← commitReservation l id
        settleEach subject present rest (l'.allocations.find? subject).isSome l'
      else do
        let l' ← releaseReservation l id
        settleEach subject present rest allocated l'
    else do
      let l' ← if present then releaseReservation l id else commitReservation l id
      settleEach subject present rest allocated l'

/-- `reconcile_terraform_presence`: settle the Terraform reservations of a
deployment from the confirmed presence or absence of its machine. -/
def reconcileTerraformPresence (l : Ledger) (scope : Scope) (subjectId : ℕ) (present : Bool) :
    Except QuotaError Ledger := do
  lockScope l scope
  let subject : Subject := ⟨scope, .deployment, subjectId⟩
  let rows := (l.activeOf subject).filter fun r => r.2.operation.creates || r.2.operation.destroys
  settleEach subject present rows (l.allocations.find? subject).isSome l

/-- `account_confirmed_absent`: release what is held and remove what is used. -/
def accountConfirmedAbsent (l : Ledger) (subject : Subject) (requestKey : String) :
    Except QuotaError Ledger := do
  let (_, l₁) ← releaseActiveForSubject l subject
  let current ← allocationDimensions l₁ subject
  if current = 0 then .ok l₁ else do
    let (row, l₂) ← reserve l₁ ⟨subject, .reconcileConfirmedAbsent, (-current).toMapping⟩ requestKey
    match row with
    | some id => commitReservation l₂ id
    | none => .ok l₂

/-! ### Limits -/

/-- The provider of a deployment, as `_provider_unresolved_dimensions` reads it
(the lower-cased name). -/
inductive ProviderKind
  | proxmox
  | vmware
  | aws
  | azure
  | openstack
  | other (name : String)
  deriving DecidableEq, Repr

/-- `_provider_unresolved_dimensions`: what the provider's variables do not say. -/
def ProviderKind.unresolved : ProviderKind → List Dimension
  | .proxmox => []
  | .vmware => []
  | .aws => [.vcpu, .memoryMb]
  | .azure => [.vcpu, .memoryMb]
  | .openstack => [.vcpu, .memoryMb, .diskGib]
  | .other _ => [.vcpu, .memoryMb, .diskGib]

/-- A deployment that is not destroyed, as the limit setters see it. -/
structure LiveDeployment where
  scope : Scope
  provider : ProviderKind
  deriving DecidableEq, Repr

/-- `_ensure_limit_accountable`. -/
def ensureLimitAccountable (live : List LiveDeployment) (scope : Scope) (d : Dimension)
    (tenantWide : Bool) : Except QuotaError Unit :=
  if d = .vmCount then .ok ()
  else if live.any fun row => row.scope.tenantId = scope.tenantId
      && (tenantWide || row.scope.projectId = scope.projectId) && row.provider.unresolved.contains d then
    fail 409 .quotaDimensionUnresolved ("Cannot enable " ++ d.name ++
      " quota while active deployments use provider shapes that do not expose a normalized " ++
      d.name ++ " value")
  else .ok ()

/-- The limit value of a request; a Python `bool` is an `int` too. -/
inductive LimitValue
  | bool (b : Bool)
  | integer (n : ℤ)
  deriving DecidableEq, Repr

/-- The check of a limit value in both setters. -/
def limitValue : LimitValue → Except QuotaError ℤ
  | .bool _ => fail 422 .invalidQuotaValue "Quota limit must be a non-negative integer"
  | .integer n =>
    if n < 0 then fail 422 .invalidQuotaValue "Quota limit must be a non-negative integer"
    else .ok n

/-- A new limit must cover what is used and held already. -/
def ensureCovers (limit : ℤ) (usage : Usage) : Except QuotaError Unit :=
  if limit < usage.used + usage.reserved then
    fail 409 .quotaLimitBelowCommittedUsage
      "Quota limit cannot be lower than committed plus reserved usage"
  else .ok ()

/-- `set_project_limit`. -/
def setProjectLimit (l : Ledger) (live : List LiveDeployment) (scope : Scope) (dim : String)
    (value : LimitValue) : Except QuotaError Ledger := do
  let d ← dimension dim
  lockScope l scope
  ensureLimitAccountable live scope d false
  let limit ← limitValue value
  ensureCovers limit (l.projectCounter scope d)
  .ok { l with projectLimits := l.projectLimits.put (scope, d) limit }

/-- `set_tenant_limit`. -/
def setTenantLimit (l : Ledger) (live : List LiveDeployment) (scope : Scope) (dim : String)
    (value : LimitValue) : Except QuotaError Ledger := do
  let d ← dimension dim
  lockScope l scope
  ensureLimitAccountable live scope d true
  let limit ← limitValue value
  ensureCovers limit (l.tenantCounter scope.tenantId d)
  .ok { l with tenantLimits := l.tenantLimits.put (scope.tenantId, d) limit }

/-- `clear_project_limit`. -/
def clearProjectLimit (l : Ledger) (scope : Scope) (dim : String) : Except QuotaError Ledger := do
  let d ← dimension dim
  lockScope l scope
  .ok { l with projectLimits := l.projectLimits.erase (scope, d) }

/-- `clear_tenant_limit`. -/
def clearTenantLimit (l : Ledger) (scope : Scope) (dim : String) : Except QuotaError Ledger := do
  let d ← dimension dim
  lockScope l scope
  .ok { l with tenantLimits := l.tenantLimits.erase (scope.tenantId, d) }

/-! ### Runs of the service -/

/-- One call of the quota service. -/
inductive QuotaOp
  | reserve (quota : QuotaDelta) (requestKey : String)
  | commit (id : ℕ)
  | release (id : ℕ)
  | markUncertain (id : ℕ)
  | reconcile (id : ℕ) (outcome : String)
  | releaseActiveForSubject (subject : Subject)
  | reconcileTerraformPresence (scope : Scope) (subjectId : ℕ) (present : Bool)
  | accountConfirmedAbsent (subject : Subject) (requestKey : String)
  | setProjectLimit (live : List LiveDeployment) (scope : Scope) (dim : String) (value : LimitValue)
  | setTenantLimit (live : List LiveDeployment) (scope : Scope) (dim : String) (value : LimitValue)
  | clearProjectLimit (scope : Scope) (dim : String)
  | clearTenantLimit (scope : Scope) (dim : String)

/-- Execute one call. -/
def QuotaOp.apply (l : Ledger) : QuotaOp → Except QuotaError Ledger
  | .reserve quota key => do
      let (_, l') ← CloudPortal.reserve l quota key
      .ok l'
  | .commit id => commitReservation l id
  | .release id => releaseReservation l id
  | .markUncertain id => CloudPortal.markUncertain l id
  | .reconcile id outcome => reconcileReservation l id outcome
  | .releaseActiveForSubject subject => do
      let (_, l') ← CloudPortal.releaseActiveForSubject l subject
      .ok l'
  | .reconcileTerraformPresence scope subjectId present =>
    CloudPortal.reconcileTerraformPresence l scope subjectId present
  | .accountConfirmedAbsent subject key => CloudPortal.accountConfirmedAbsent l subject key
  | .setProjectLimit live scope dim value => CloudPortal.setProjectLimit l live scope dim value
  | .setTenantLimit live scope dim value => CloudPortal.setTenantLimit l live scope dim value
  | .clearProjectLimit scope dim => CloudPortal.clearProjectLimit l scope dim
  | .clearTenantLimit scope dim => CloudPortal.clearTenantLimit l scope dim

/-- One transaction: a call that fails is rolled back. -/
def QuotaOp.step (l : Ledger) (op : QuotaOp) : Ledger :=
  Transition.attempt (fun l op => QuotaOp.apply l op) l op

/-- A sequence of transactions. -/
def quotaRun (l : Ledger) (ops : List QuotaOp) : Ledger := Transition.run QuotaOp.step l ops

end CloudPortal
