/-
CloudPortal/Ipam/Pool.lean

Pools of addresses (`app/ipam/service.py`, `app/api/ipam.py` and the retention of
`app/operations/service.py`): how a request for a pool is validated, how addresses are
allocated, assigned and released, and what may change about a pool that has allocations.

Rows keep texts, as the tables do.  A call that raises is rolled back.
-/
import CloudPortal.Lib.IPv4
import CloudPortal.Lib.Table
import CloudPortal.Lib.Transition

namespace CloudPortal.Ipam

open RowStore Transition IPv4

/-! ### Rows -/

structure IPPool where
  name : String
  cidr : String
  gateway : Option String := none
  excludedAddresses : List String := []
  nextOffset : ℕ := 1
  isActive : Bool := true

inductive AllocationStatus
  | reserved | assigned | released
  deriving DecidableEq, Repr

structure IPAllocation where
  poolId : ℕ
  address : String
  prefixLength : ℕ
  gateway : Option String
  hostname : Option String := none
  status : AllocationStatus := .reserved
  resourceId : Option String := none
  releasedAt : Option ℤ := none

/-- The address is taken. -/
def IPAllocation.isActive (row : IPAllocation) : Bool :=
  row.status = .reserved || row.status = .assigned

structure Database where
  pools : Table ℕ IPPool := .empty
  allocations : Table ℕ IPAllocation := .empty

/-- `HTTPException`, and what the validators raise. -/
structure Failure where
  status : ℕ
  detail : String
  deriving DecidableEq, Repr

/-! ### Requests for pools -/

/-- `IPPoolInput`. -/
structure IPPoolInput where
  name : String
  cidr : String
  gateway : Option String := none
  excludedAddresses : List String := []
  isActive : Bool := true

def invalid (detail : String) : Failure := ⟨422, detail⟩

/-- `valid_cidr`, with the network. -/
def validCidr (value : String) : Except Failure Network :=
  match parseNetwork true value with
  | none => .error (invalid "CIDR must be a canonical network")
  | some network =>
    if network.prefixlen < 16 ∨ 30 < network.prefixlen then
      .error (invalid "IPv4 pool prefix must be between /16 and /30")
    else .ok network

/-- `valid_gateway`, with the address. -/
def validGateway : Option String → Except Failure (Option Address)
  | none => .ok none
  | some value =>
    match parse value with
    | none => .error (invalid "Gateway must be an IP address")
    | some address => .ok (some address)

/-- A network, or an address as a network. -/
def parseExclusion (value : String) : Option Network :=
  parseNetwork false value <|> (parse value).map Network.host

/-- One round of `valid_exclusions`. -/
def validExclusion (value : String) : Except Failure Network :=
  match parseExclusion value with
  | none => .error (invalid "IPAM exclusions must be an IP address or CIDR")
  | some item => .ok item

/-- The address is neither the first nor the last one. -/
def usable (network : Network) (address : Address) : Bool :=
  network.contains address && address ≠ network.address && address ≠ network.broadcast

/-- `coherent`. -/
def coherent (network : Network) (gateway : Option Address) (exclusions : List Network) :
    Except Failure Unit := do
  if gateway.any (!usable network ·) then
    throw (invalid "Gateway must be a usable address inside the pool")
  if exclusions.any (!·.subnetOf network) then
    throw (invalid "Every exclusion must be contained in the pool")

/-- The validators; what is kept are the canonical texts. -/
def validate (data : IPPoolInput) : Except Failure IPPoolInput := do
  let network ← validCidr data.cidr
  let gateway ← validGateway data.gateway
  let exclusions ← data.excludedAddresses.mapM validExclusion
  coherent network gateway exclusions
  pure { data with
    cidr := network.str
    gateway := gateway.map IPv4.str
    excludedAddresses := exclusions.map Network.str }

/-! ### Addresses of a pool -/

/-- `network_for`. -/
def networkFor (pool : IPPool) : Except Failure Network :=
  match parseNetwork true pool.cidr with
  | none => .error ⟨500, "Stored IPAM pool is invalid"⟩
  | some network => .ok network

/-- `excluded`. -/
def excluded (values : List String) : Except Failure (List Network) :=
  values.mapM fun raw =>
    match parseExclusion raw with
    | none => .error ⟨500, "Stored IPAM exclusion is invalid"⟩
    | some item => .ok item

/-- `is_excluded`, of a pool or a request. -/
def isExcluded (gateway : Option String) (values : List String) (address : Address) :
    Except Failure Bool :=
  if gateway.any fun gateway => gateway ≠ "" && IPv4.str address = gateway then .ok true
  else do
    let items ← excluded values
    pure (items.any (·.contains address))

/-- `_valid_candidate`, of a pool or a request. -/
def validCandidate (gateway : Option String) (values : List String) (network : Network)
    (address : Address) : Except Failure Bool :=
  if usable network address then do
    let isExcluded ← isExcluded gateway values address
    pure (!isExcluded)
  else .ok false

/-- The active allocations of a pool. -/
def Database.active (db : Database) (poolId : ℕ) : List (ℕ × IPAllocation) :=
  db.allocations.select fun _ row => row.poolId = poolId && row.isActive

/-- `active_address_exists`. -/
def activeAddressExists (db : Database) (poolId : ℕ) (address : Address) : Bool :=
  (db.active poolId).any fun (_, row) => row.address = IPv4.str address

/-- The address after another one. -/
def offsetAddress (network : Network) (offset : ℕ) : Address :=
  Fin.ofNat (2 ^ 32) (network.address.val + offset)

/-- The address of a row. -/
def storedAddress (row : IPAllocation) : Except Failure Address :=
  match parse row.address with
  | none => .error ⟨500, "Stored address is invalid"⟩
  | some address => .ok address

/-- The search for a free address, from an index on. -/
def searchFrom (pool : IPPool) (network : Network) (used : List Address) (start : ℕ) :
    List ℕ → Except Failure (Option (Address × ℕ))
  | [] => .ok none
  | index :: indices => do
      let totalHosts := network.size - 2
      let offset := (start - 1 + index) % totalHosts + 1
      let current := offsetAddress network offset
      if (← validCandidate pool.gateway pool.excludedAddresses network current)
          && current ∉ used then
        pure (some (current, offset))
      else searchFrom pool network used start indices

/-- The address that `allocate_address` takes, and the next offset of the pool. -/
def chooseAddress (db : Database) (poolId : ℕ) (pool : IPPool) (network : Network) :
    Option String → Except Failure (Address × ℕ)
  | some preferred =>
    match parse preferred with
    | none => .error ⟨422, "Preferred IP address is invalid"⟩
    | some candidate => do
        if !(← validCandidate pool.gateway pool.excludedAddresses network candidate) then
          throw ⟨422, "Preferred IP is outside the usable pool range"⟩
        if activeAddressExists db poolId candidate then
          throw ⟨409, "Preferred IP address is already allocated"⟩
        pure (candidate, pool.nextOffset)
  | none => do
      let start := max 1 pool.nextOffset
      let used ← (db.active poolId).mapM fun (_, row) => storedAddress row
      let totalHosts := network.size - 2
      match ← searchFrom pool network used start (List.range totalHosts) with
      | none => throw ⟨409, "IPAM pool is exhausted"⟩
      | some (candidate, offset) => pure (candidate, offset % totalHosts + 1)

/-- `allocate_address`. -/
def allocateAddress (db : Database) (poolId : ℕ) (preferred hostname : Option String) :
    Except Failure Database :=
  match (db.pools.find? poolId).filter (·.isActive) with
  | none => .error ⟨404, "Active IPAM pool not found"⟩
  | some pool => do
      let network ← networkFor pool
      if network.size - 2 < 1 then throw ⟨409, "IPAM pool has no usable host addresses"⟩
      -- an empty text is no preference
      let (candidate, nextOffset) ←
        chooseAddress db poolId pool network (preferred.filter (· ≠ ""))
      pure {
        pools := db.pools.put poolId { pool with nextOffset }
        allocations := db.allocations.put db.allocations.fresh {
          poolId, address := IPv4.str candidate, prefixLength := network.prefixlen
          gateway := pool.gateway, hostname } }

/-! ### Calls -/

/-- `ensure_no_overlap`. -/
def ensureNoOverlap (db : Database) (cidr : String) (ignoreId : Option ℕ) : Except Failure Unit :=
  match parseNetwork true cidr with
  | none => .error (invalid "CIDR must be a canonical network")
  | some network =>
    if db.pools.rows.any fun (id, pool) => ignoreId ≠ some id
        && (parseNetwork true pool.cidr).any network.overlaps then
      .error ⟨409, "IPAM pool overlaps existing pool"⟩
    else .ok ()

/-- What `ensure_active_allocations_fit` asks of one allocation. -/
def fits (data : IPPoolInput) (network : Network) (row : IPAllocation) : Except Failure Bool := do
  validCandidate data.gateway data.excludedAddresses network (← storedAddress row)

/-- `ensure_active_allocations_fit`. -/
def ensureActiveAllocationsFit (db : Database) (poolId : ℕ) (data : IPPoolInput) :
    Except Failure Unit :=
  match parseNetwork true data.cidr with
  | none => .error (invalid "CIDR must be a canonical network")
  | some network => (db.active poolId).forM fun (_, row) => do
      if !(← fits data network row) then
        throw ⟨409, "Pool update would invalidate active allocation " ++ row.address⟩

/-- The columns of a request. -/
def IPPoolInput.apply (data : IPPoolInput) (pool : IPPool) : IPPool :=
  { pool with
    name := data.name, cidr := data.cidr, gateway := data.gateway
    excludedAddresses := data.excludedAddresses, isActive := data.isActive }

/-- A new row. -/
def IPPoolInput.pool (data : IPPoolInput) : IPPool where
  name := data.name
  cidr := data.cidr
  gateway := data.gateway
  excludedAddresses := data.excludedAddresses
  isActive := data.isActive

/-- `create_pool`. -/
def createPool (db : Database) (data : IPPoolInput) : Except Failure Database := do
  let data ← validate data
  ensureNoOverlap db data.cidr none
  pure { db with pools := db.pools.put db.pools.fresh data.pool }

/-- The part of `update_pool` that is about another network. -/
def changeCidr (db : Database) (id : ℕ) (row : IPPool) (data : IPPoolInput) :
    Except Failure IPPool :=
  if row.cidr ≠ data.cidr then do
    if db.allocations.rows.any (·.2.poolId = id) then
      throw ⟨409, "Pool CIDR cannot change after allocation history exists"⟩
    ensureNoOverlap db data.cidr (some id)
    pure { row with nextOffset := 1 }
  else .ok row

/-- `update_pool`. -/
def updatePool (db : Database) (id : ℕ) (data : IPPoolInput) : Except Failure Database := do
  let data ← validate data
  match db.pools.find? id with
  | none => throw ⟨404, "Resource not found"⟩
  | some row =>
    let row ← changeCidr db id row data
    ensureActiveAllocationsFit db id data
    pure { db with pools := db.pools.put id (data.apply row) }

/-- `delete_pool`. -/
def deletePool (db : Database) (id : ℕ) : Except Failure Database :=
  match db.pools.find? id with
  | none => .error ⟨404, "Resource not found"⟩
  | some _ =>
    if db.allocations.rows.any (·.2.poolId = id) then
      .error ⟨409, "IPAM pool has allocation history; disable it instead"⟩
    else .ok { db with pools := db.pools.erase id }

/-- `assign`. -/
def assign (db : Database) (id : ℕ) (resourceId : String) (hostname : Option String) :
    Except Failure Database :=
  match db.allocations.find? id with
  | none => .error ⟨404, "Resource not found"⟩
  | some row =>
    if row.status ≠ .reserved then .error ⟨409, "Only a reserved address can be assigned"⟩
    else .ok { db with allocations := db.allocations.put id { row with
      status := .assigned, resourceId := some resourceId
      hostname := hostname <|> row.hostname } }

/-- `release`. -/
def release (db : Database) (id : ℕ) (now : ℤ) : Except Failure Database :=
  match db.allocations.find? id with
  | none => .error ⟨404, "Resource not found"⟩
  | some row =>
    if row.status = .released then .error ⟨409, "Address is already released"⟩
    else .ok { db with allocations := db.allocations.put id { row with
      status := .released, releasedAt := some now } }

/-- The part of `cleanup_retention_once` that deletes allocations. -/
def cleanupReleased (db : Database) (cutoff : ℤ) : Database :=
  { db with allocations := db.allocations.discard fun _ row =>
    row.status = .released && row.releasedAt.any (· < cutoff) }

inductive Call
  | createPool (data : IPPoolInput)
  | updatePool (id : ℕ) (data : IPPoolInput)
  | deletePool (id : ℕ)
  | allocate (poolId : ℕ) (preferred hostname : Option String)
  | assign (id : ℕ) (resourceId : String) (hostname : Option String)
  | release (id : ℕ) (now : ℤ)
  | cleanup (cutoff : ℤ)

def perform (db : Database) : Call → Except Failure Database
  | .createPool data => createPool db data
  | .updatePool id data => updatePool db id data
  | .deletePool id => deletePool db id
  | .allocate poolId preferred hostname => allocateAddress db poolId preferred hostname
  | .assign id resourceId hostname => assign db id resourceId hostname
  | .release id now => release db id now
  | .cleanup cutoff => .ok (cleanupReleased db cutoff)

end CloudPortal.Ipam
