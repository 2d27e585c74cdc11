/-
CloudPortal/Iam/Store.lean

The tables behind authorization (`app/iam/models.py`, `app/models.py`), the catalog of
permissions (`app/rbac/service.py`) and scopes (`normalize_scope` in `app/iam/service.py`).

A grant names a permission or ends with a wildcard for a whole area.  A scope says where an
assignment holds or where something is asked for: its type, and the ids that go with it.
Scopes come in as dictionaries.
-/
import CloudPortal.Lib.Table
import CloudPortal.Policy.Engine

namespace CloudPortal.Iam

open Document RowStore

/-! ### Permissions -/

/-- `PERMISSIONS`: the actions of each area. -/
def permissions : List (String × List String) := [
  ("users", ["read", "create", "update", "delete", "assign_roles", "impersonate"]),
  ("roles", ["read", "create", "update", "delete", "assign", "delegate"]),
  ("groups", ["read", "create", "update", "delete", "manage_members", "map_identity"]),
  ("iam", ["assign", "subject.read", "roles.read", "binding.read", "binding.create",
    "binding.update", "binding.delete"]),
  ("service_accounts", ["read", "create", "update", "delete", "tokens.manage"]),
  ("rbac", ["assignments.read", "assignments.manage", "access_review.read", "impact.read"]),
  ("authorization", ["check", "explain", "simulate"]),
  ("jit", ["request", "read", "approve", "reject", "manage"]),
  ("break_glass", ["use", "read", "manage"]),
  ("credentials", ["read", "read_metadata", "read_secret", "use", "create", "update", "delete",
    "test"]),
  ("providers", ["read", "create", "update", "delete", "test"]),
  ("deployments", ["read", "read_all", "create", "delete", "destroy", "retry", "adopt",
    "approval.bypass"]),
  ("jobs", ["read", "read_all", "execute", "cancel", "retry", "force"]),
  ("terraform", ["read", "execute", "manage"]),
  ("ansible", ["read", "execute", "manage"]),
  ("awx", ["read", "execute", "manage"]),
  ("audit", ["read"]),
  ("blueprints", ["read", "create", "update", "delete", "execute", "publish", "clone",
    "manage_access", "approve"]),
  ("hostnames", ["read", "create", "update", "delete", "reserve", "release"]),
  ("vms", ["read", "read_all", "manage_all", "power", "update", "delete", "clone", "migrate",
    "template", "console"]),
  ("machines", ["read", "create", "update", "delete", "delete.force", "power.on", "power.off",
    "power.reset", "power.hard_stop", "power.suspend", "power.resume", "snapshot.create",
    "snapshot.delete", "snapshot.restore", "compute.resize", "disk.add", "disk.resize",
    "disk.delete", "disk.migrate", "network.add", "network.update", "network.delete",
    "console.open", "cloud_init.update", "credentials.inject", "packages.manage",
    "tags.update", "metadata.update", "rebuild", "rebuild.force", "clone", "migrate",
    "actions.cancel", "actions.retry"]),
  ("snapshots", ["read", "create", "delete", "rollback"]),
  ("backups", ["read", "create", "restore"]),
  ("instance_backups", ["read", "create", "download", "upload", "verify", "delete", "restore"]),
  ("ipam", ["read", "create", "update", "delete", "allocate", "release"]),
  ("inventory", ["read", "read_all", "import", "update", "delete"]),
  ("availability", ["read", "create", "update", "delete", "assign"]),
  ("day2", ["view", "power", "snapshot.create", "snapshot.restore", "snapshot.delete",
    "compute.resize", "disk.add", "disk.resize", "disk.delete", "network.manage",
    "cloudinit.update", "credentials.manage", "ansible.run", "package.manage", "tags.manage",
    "metadata.manage", "migrate", "clone", "rebuild", "delete", "cancel", "retry", "approve",
    "admin", "override_protection"]),
  ("resource_pools", ["read", "use", "manage", "placement.override"]),
  ("approvals", ["read", "request", "approve", "reject", "manage"]),
  ("schedules", ["read", "create", "update", "delete", "manage"]),
  ("webhooks", ["read", "create", "update", "delete", "manage"]),
  ("events", ["read", "publish", "replay", "consume", "manage"]),
  ("event_broker", ["read", "manage"]),
  ("extensions", ["read", "manage"]),
  ("metrics", ["read"]),
  ("quotas", ["read", "manage", "tenant.manage", "override"]),
  ("policies", ["read", "create", "update", "delete", "enable", "test", "simulate",
    "exceptions", "compliance", "manage", "audit", "exception.manage"]),
  ("tokens", ["read", "create", "revoke", "manage_scopes"]),
  ("settings", ["read", "update"]),
  ("updates", ["read", "execute", "update"]),
  ("portal", ["connect"]),
  ("projects", ["read", "create", "update", "delete", "admin", "use", "members.read",
    "members.manage", "roles.assign", "audit.read", "select"]),
  ("governance", ["admin", "access.read", "access.manage"]),
  ("tenants", ["read", "create", "update", "delete", "admin", "members.read", "members.manage",
    "roles.assign", "audit.read"]),
  ("organizations", ["read", "create", "update", "delete", "manage_members", "assign_roles",
    "audit.read"])]

/-- `ALL_PERMISSIONS`. -/
def allPermissions : List String :=
  permissions.flatMap fun (area, actions) => actions.map fun action => area ++ "." ++ action

/-- `PermissionMatcher.matches`. -/
def grantMatches (grant action : String) : Bool :=
  grant = action
    || ['.', '*'].isSuffixOf grant.toList && grant.toList.count '*' = 1
      && (grant.toList.dropLast.dropLast ++ ['.']).isPrefixOf action.toList

/-- `PermissionMatcher.any_matches`. -/
def anyMatches (grants : List String) (action : String) : Bool := grants.any (grantMatches · action)

/-! ### Types of scopes -/

/-- `SCOPE_TYPES`. -/
inductive ScopeType
  | global | organization | project | apmid | environment
  | resourcePool | blueprint | deployment | resource | machine
  deriving DecidableEq, Repr

def ScopeType.name : ScopeType → String
  | .global => "GLOBAL"
  | .organization => "ORGANIZATION"
  | .project => "PROJECT"
  | .apmid => "APMID"
  | .environment => "ENVIRONMENT"
  | .resourcePool => "RESOURCE_POOL"
  | .blueprint => "BLUEPRINT"
  | .deployment => "DEPLOYMENT"
  | .resource => "RESOURCE"
  | .machine => "MACHINE"

/-- The type of a name; a tenant is an organization. -/
def ScopeType.ofName (name : String) : Option ScopeType :=
  if name = "TENANT" then some .organization
  else [.global, .organization, .project, .apmid, .environment, .resourcePool, .blueprint,
    .deployment, .resource, .machine].find? fun scopeType : ScopeType => scopeType.name = name

/-! ### Texts -/

/-- What the interpreter does with values and texts. -/
structure Host where
  rt : Runtime
  /-- `str.upper()`, `str.lower()` -/
  upper : String → String
  lower : String → String
  /-- `str.isalnum()` of a character -/
  isAlnum : Char → Bool
  /-- `validate_safe_regex` -/
  safeRegex : Value → Bool
  upper_scopeType : ∀ scopeType : ScopeType, upper scopeType.name = scopeType.name

/-- A host for texts that are in normal form. -/
def Host.plain : Host where
  rt := .plain
  upper := id
  lower := id
  isAlnum := Char.isAlphanum
  safeRegex _ := true
  upper_scopeType _ := rfl

/-- `text or None`. -/
def nonEmpty (text : String) : Option String := if text = "" then none else some text

/-- A text of a row that counts as one. -/
def present (text : Option String) : Option String := text.bind nonEmpty

/-- `str(entries.get(key) or entries.get(key') or …)`. -/
def truthyText (h : Host) (entries : Entries) (keys : List String) : Option String :=
  ((keys.filterMap entries.get).find? (·.truthy)).map (·.str h.rt)

/-- `_normalize_environment` of a text. -/
def normalizeEnvironment (h : Host) (text : String) : Option String :=
  nonEmpty (h.lower (h.rt.strip text))

def normalizeApmid (h : Host) (text : String) : Option String :=
  nonEmpty (h.upper (h.rt.strip text))

/-! ### Scopes -/

/-- What `normalize_scope` returns. -/
structure Scope where
  scopeType : ScopeType := .global
  scopeId : Option String := none
  tenantId : Option String := none
  projectId : Option String := none
  apmid : Option String := none
  environment : Option String := none
  resourcePoolId : Option String := none
  blueprintId : Option String := none
  deploymentId : Option String := none
  resourceId : Option String := none
  machineId : Option String := none
  deriving DecidableEq, Repr

/-- The exceptions of this part of the code. -/
inductive Failure
  | http (status : ℕ) (error : String) (details : List String := [])
  | valueError (message : String)
  /-- what a comparison raises, and nobody catches -/
  | raised (raised : Raised)
  /-- a column that may not be null -/
  | integrity
  deriving DecidableEq, Repr

/-- `normalize_scope`. -/
def normalizeScope (h : Host) (scope : Entries) : Except Failure Scope :=
  let text (keys : List String) : Option String := (truthyText h scope keys).bind nonEmpty
  let name := h.upper ((truthyText h scope ["scope_type", "type"]).getD "GLOBAL")
  match ScopeType.ofName name with
  | none => .error (.valueError ("Unsupported scope type: " ++ name))
  | some scopeType =>
    let scopeId := text ["scope_id", "id"]
    let tenantId := text ["tenant_id", "organization_id"]
    let projectId := text ["project_id"]
    .ok {
      scopeType, scopeId
      tenantId := if scopeType = .organization then tenantId <|> scopeId else tenantId
      projectId := if scopeType = .project then projectId <|> scopeId else projectId
      apmid := (truthyText h scope ["apmid"]).bind (normalizeApmid h)
      environment := (truthyText h scope ["environment", "env"]).bind (normalizeEnvironment h)
      resourcePoolId := text ["resource_pool_id", "resource_pool"]
      blueprintId := text ["blueprint_id"]
      deploymentId := text ["deployment_id"]
      resourceId := text ["resource_id"]
      machineId := text ["machine_id", "vm_id"] }

def optionValue : Option String → Value
  | none => .null
  | some text => .text text

/-- A scope as the dictionary that it is. -/
def Scope.entries (scope : Scope) : Entries := [
  ("scope_type", .text scope.scopeType.name),
  ("scope_id", optionValue scope.scopeId),
  ("tenant_id", optionValue scope.tenantId),
  ("project_id", optionValue scope.projectId),
  ("apmid", optionValue scope.apmid),
  ("environment", optionValue scope.environment),
  ("resource_pool_id", optionValue scope.resourcePoolId),
  ("blueprint_id", optionValue scope.blueprintId),
  ("deployment_id", optionValue scope.deploymentId),
  ("resource_id", optionValue scope.resourceId),
  ("machine_id", optionValue scope.machineId)]

theorem nonEmpty_eq_some {text text' : String} :
    nonEmpty text = some text' ↔ text ≠ "" ∧ text = text' := by
  unfold nonEmpty
  split <;> simp_all

/-! ### Rows -/

/-- `SUBJECT_TYPES`. -/
inductive SubjectType
  | user | group | serviceAccount | apiToken
  deriving DecidableEq, Repr

structure Subject where
  type : SubjectType
  id : String
  deriving DecidableEq, Repr

/-- `EFFECTS`. -/
inductive GrantEffect
  | allow | deny
  deriving DecidableEq, Repr

/-- Kinds of tokens, and that of a simulated actor. -/
inductive Kind
  | api | session | refresh | simulation
  deriving DecidableEq, Repr

/-- Instants are in microseconds. -/
structure User where
  username : String := ""
  isActive : Bool := true
  isLocked : Bool := false
  isServiceAccount : Bool := false
  mustChangePassword : Bool := false
  lockedUntil : Option ℤ := none

structure Token where
  userId : ℕ
  kind : Kind := .session
  scopes : List String := []
  expiresAt : Option ℤ := none
  revokedAt : Option ℤ := none

structure Role where
  permissions : List String

structure RoleProfile where
  /-- empty for all types -/
  scopeTypes : List ScopeType := []
  permissionPatterns : List String := []
  inheritanceEnabled : Bool := true
  enabled : Bool := true

structure Group where
  enabled : Bool := true

structure RoleAssignment where
  subject : Subject
  roleId : ℕ
  effect : GrantEffect := .allow
  scopeType : ScopeType
  scopeId : Option String := none
  tenantId : Option String := none
  projectId : Option String := none
  apmid : Option String := none
  environment : Option String := none
  conditions : Engine.Condition := .always
  permissionCeiling : Option (List String) := none
  inherit : Bool := true
  approvalRequired : Bool := false
  validFrom : Option ℤ := none
  validUntil : Option ℤ := none
  enabled : Bool := true

inductive JITStatus
  | pending | approved | rejected
  deriving DecidableEq, Repr

structure JITAccessRequest where
  requesterId : ℕ
  roleId : ℕ
  scopeType : ScopeType
  scopeId : Option String := none
  tenantId : Option String := none
  projectId : Option String := none
  apmid : Option String := none
  environment : Option String := none
  requestedDurationMinutes : ℕ
  status : JITStatus := .pending

structure BreakGlassAccess where
  userId : ℕ
  validFrom : ℤ
  validUntil : ℤ
  enabled : Bool := true
  endedAt : Option ℤ := none

structure RoleConflict where
  roleA : ℕ
  roleB : ℕ
  scopeType : ScopeType := .global
  /-- the severity is `BLOCK` -/
  block : Bool := true
  enabled : Bool := true

inductive Lifecycle
  | active | suspended | disabled
  deriving DecidableEq, Repr

structure Tenant where
  status : Lifecycle := .active
  deleted : Bool := false

structure Project where
  tenantId : String
  status : Lifecycle := .active
  deleted : Bool := false
  allowedApmids : List String := []
  tenantId_ne : tenantId ≠ "" := by decide

structure OrganizationAPMID where
  organizationId : String
  code : String
  enabled : Bool := true

/-- Whom a blueprint, a deployment, a resource or a machine belongs to. -/
structure Ownership where
  tenantId : String
  projectId : String
  tenantId_ne : tenantId ≠ "" := by decide
  projectId_ne : projectId ≠ "" := by decide

structure Database where
  users : Table ℕ User := .empty
  tokens : Table ℕ Token := .empty
  roles : Table ℕ Role := .empty
  profiles : Table ℕ RoleProfile := .empty
  /-- users and their legacy roles -/
  userRoles : List (ℕ × ℕ) := []
  groups : Table String Group := .empty
  /-- groups and their members -/
  members : List (String × ℕ) := []
  assignments : Table ℕ RoleAssignment := .empty
  jitRequests : Table ℕ JITAccessRequest := .empty
  breakGlass : Table ℕ BreakGlassAccess := .empty
  conflicts : Table ℕ RoleConflict := .empty
  tenants : Table String Tenant := .empty
  projects : Table String Project := .empty
  apmids : List OrganizationAPMID := []
  blueprints : Table ℤ Ownership := .empty
  deployments : Table String Ownership := .empty
  resources : Table String Ownership := .empty
  machines : Table String Ownership := .empty
  policies : List Engine.Policy := []
  exceptions : List Engine.PolicyException := []

/-- The permissions and patterns of a role, none if its profile is disabled (`_role_grants`). -/
def roleGrants (db : Database) (roleId : ℕ) : List String × List String :=
  match db.roles.find? roleId, db.profiles.find? roleId with
  | none, _ => ([], [])
  | some role, none => (role.permissions, [])
  | some role, some profile =>
    if profile.enabled then (role.permissions, profile.permissionPatterns) else ([], [])

/-- The permissions of the legacy roles of a user. -/
def Database.legacyPermissions (db : Database) (userId : ℕ) : List String :=
  (db.userRoles.filter (·.1 = userId)).flatMap fun (_, roleId) =>
    ((db.roles.find? roleId).map (·.permissions)).getD []

end CloudPortal.Iam
