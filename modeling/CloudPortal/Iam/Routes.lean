/-
CloudPortal/Iam/Routes.lean

The calls that change who may do what (`app/iam/routes.py`): role assignments one by one, in
bulk and by a just-in-time request, members and states of groups, with the checks that they
make before: who may manage assignments at a scope, what may be delegated, conflicts of
roles, and the last administrator.

A call that raises is rolled back, so a call is a function from a database to a database or
a failure.
-/
import CloudPortal.Iam.Administrator
import Mathlib.Data.List.Dedup

namespace CloudPortal.Iam

open Document RowStore Transition

/-! ### Scopes of requests -/

/-- `ScopeInput`. -/
structure ScopeInput where
  scopeType : ScopeType := .global
  scopeId : Option String := none
  tenantId : Option String := none
  organizationId : Option String := none
  projectId : Option String := none
  apmid : Option String := none
  environment : Option String := none
  resourcePoolId : Option String := none
  blueprintId : Option String := none
  deploymentId : Option String := none
  resourceId : Option String := none
  machineId : Option String := none

/-- The dictionary of `_scope_dict`. -/
def ScopeInput.entries (input : ScopeInput) : Entries := [
  ("scope_type", .text input.scopeType.name),
  ("scope_id", optionValue input.scopeId),
  ("tenant_id", optionValue input.tenantId),
  ("organization_id", optionValue input.organizationId),
  ("project_id", optionValue input.projectId),
  ("apmid", optionValue input.apmid),
  ("environment", optionValue input.environment),
  ("resource_pool_id", optionValue input.resourcePoolId),
  ("blueprint_id", optionValue input.blueprintId),
  ("deployment_id", optionValue input.deploymentId),
  ("resource_id", optionValue input.resourceId),
  ("machine_id", optionValue input.machineId)]

/-- The dictionary that is made of the columns of an assignment or a request. -/
def columnEntries (scopeType : ScopeType)
    (scopeId tenantId projectId apmid environment : Option String) : Entries := [
  ("scope_type", .text scopeType.name),
  ("scope_id", optionValue scopeId),
  ("tenant_id", optionValue tenantId),
  ("project_id", optionValue projectId),
  ("apmid", optionValue apmid),
  ("environment", optionValue environment)]

def RoleAssignment.scopeEntries (row : RoleAssignment) : Entries :=
  columnEntries row.scopeType row.scopeId row.tenantId row.projectId row.apmid row.environment

def JITAccessRequest.scopeEntries (row : JITAccessRequest) : Entries :=
  columnEntries row.scopeType row.scopeId row.tenantId row.projectId row.apmid row.environment

/-- The row that a scope of a resource is about. -/
def Database.ownership (h : Host) (db : Database) (scopeType : ScopeType) (scopeId : String) :
    Option Ownership :=
  match scopeType with
  | .blueprint =>
    match h.rt.toInt (.text scopeId) with
    | .ok id => db.blueprints.find? id
    | .error _ => none
  | .deployment => db.deployments.find? scopeId
  | .resource => db.resources.find? scopeId
  | .machine => db.machines.find? scopeId
  | _ => none

/-- The scopes that belong to somebody. -/
def ScopeType.isOwned : ScopeType → Bool
  | .blueprint | .deployment | .resource | .machine => true
  | _ => false

/-- The first part of `_hydrate_scope`: the owner of a resource is filled in. -/
def hydrateOwner (h : Host) (db : Database) (scope : Scope) : Except Failure Scope :=
  if scope.scopeType.isOwned then
    match scope.scopeId.bind (db.ownership h scope.scopeType) with
    | none => .error resourceNotFound
    | some owner =>
      if scope.tenantId.any (· ≠ owner.tenantId) then .error resourceNotFound
      else if scope.projectId.any (· ≠ owner.projectId) then .error resourceNotFound
      else .ok { scope with tenantId := some owner.tenantId, projectId := some owner.projectId }
  else .ok scope

/-- The second part: the tenant is filled in. -/
def hydrateTenant (db : Database) (scope : Scope) : Except Failure Scope :=
  if scope.scopeType = .global then .ok scope
  else if scope.scopeType ≠ .organization ∧ scope.projectId = none then
    .error (.http 422 "project_scope_required" [scope.scopeType.name])
  else match scope.tenantId, scope.projectId with
    | some _, _ => .ok scope
    | none, none => .error (.http 422 "organization_scope_required")
    | none, some projectId =>
      match (db.projects.find? projectId).filter (!·.deleted) with
      | none => .error resourceNotFound
      | some project => .ok { scope with tenantId := some project.tenantId }

/-- The last part: tenant and project exist. -/
def checkOwners (db : Database) (scope : Scope) : Except Failure Unit := do
  if scope.tenantId.any fun tenantId =>
    ((db.tenants.find? tenantId).filter (!·.deleted)).isNone then
    throw resourceNotFound
  if scope.projectId.any fun projectId => ((db.projects.find? projectId).filter fun project =>
    !project.deleted && some project.tenantId = scope.tenantId).isNone then
    throw resourceNotFound

/-- `_hydrate_scope`; for an organization or a project the id is already in its column. -/
def hydrateScope (h : Host) (db : Database) (scope : Scope) : Except Failure Scope := do
  let scope ← hydrateOwner h db scope
  let scope ← hydrateTenant db scope
  checkOwners db scope
  pure scope

/-! ### Checks -/

/-- A request: its token, the instant, and what `request_context` makes of it. -/
structure Request where
  tokenId : ℕ
  now : ℤ
  context : Entries := []

inductive Management
  | create | update
  deriving DecidableEq, Repr

/-- `_scope_management_actions`. -/
def scopeManagementActions (scope : Scope) (operation : Management) : List String :=
  (match operation with
    | .create => ["iam.assign", "iam.binding.create"]
    | .update => ["iam.binding.update"])
  ++ match scope.scopeType with
    | .global => ["rbac.assignments.manage", "roles.assign"]
    | .organization =>
      ["rbac.assignments.manage", "tenants.roles.assign", "organizations.assign_roles"]
    | _ => ["rbac.assignments.manage", "projects.roles.assign"]

/-- The loop of `_require_any`. -/
def requireAnyOf (h : Host) (db : Database) (request : Request) (scope : Scope) :
    List String → Except Failure Unit
  | [] => .error (.http 403 "permission_denied")
  | action :: actions => do
      let decision ← authorize h db request.now (.token request.tokenId) action scope.entries []
        request.context true
      if decision.allowed then pure () else requireAnyOf h db request scope actions

/-- `_require_any`. -/
def requireAny (h : Host) (db : Database) (request : Request) (actions : List String)
    (scope : Scope) : Except Failure Unit :=
  if isSystemAdministrator db request.now request.tokenId then .ok ()
  else requireAnyOf h db request scope (actions.filter (· ∈ allPermissions))

/-- `authorize_or_raise`. -/
def authorizeOrRaise (h : Host) (db : Database) (request : Request) (action : String)
    (scope : Entries) : Except Failure Unit := do
  let decision ← authorize h db request.now (.token request.tokenId) action scope []
    request.context true
  match decision.decision with
  | .allow => pure ()
  | .requiresApproval => throw (.http 409 "approval_required" [action])
  | .deny => throw (.http 403 "permission_denied" [action])

/-- `_expanded_role_permissions`. -/
def expandedRolePermissions (db : Database) (roleId : ℕ) (role : Role) : List String :=
  let patterns := ((db.profiles.find? roleId).map (·.permissionPatterns)).getD []
  (role.permissions ++ allPermissions.filter (anyMatches patterns)).dedup.insertionSort (· ≤ ·)

/-- The loop of `_assert_role_delegation_boundary`; it ends with the twentieth permission that is
missing. -/
def missingPermissions (h : Host) (db : Database) (request : Request) (scope : Scope) :
    List String → List String → Except Failure (List String)
  | [], missing => .ok missing
  | permission :: permissions, missing => do
      let decision ← authorize h db request.now (.token request.tokenId) permission scope.entries []
        request.context false
      if decision.decision = .deny then
        if 20 ≤ missing.length + 1 then .ok (missing ++ [permission])
        else missingPermissions h db request scope permissions (missing ++ [permission])
      else missingPermissions h db request scope permissions missing

/-- `_assert_role_delegation_boundary`. -/
def assertRoleDelegationBoundary (h : Host) (db : Database) (request : Request) (roleId : ℕ)
    (role : Role) (scope : Scope) (operation : Management) : Except Failure Unit := do
  let systemAdmin := isSystemAdministrator db request.now request.tokenId
  if systemAdmin ∧ operation = .update then pure ()
  else
    let profile := db.profiles.find? roleId
    if profile.any (!·.enabled) then throw (.http 409 "role_disabled")
    if profile.any fun profile =>
      profile.scopeTypes ≠ [] && scope.scopeType ∉ profile.scopeTypes then
      throw (.http 422 "role_scope_not_allowed" [scope.scopeType.name])
    if systemAdmin then pure ()
    else
      let missing ← missingPermissions h db request scope
        (expandedRolePermissions db roleId role) []
      if missing ≠ [] then throw (.http 403 "delegation_boundary_exceeded" missing)

/-- `_assert_delegatable`. -/
def assertDelegatable (h : Host) (db : Database) (request : Request) (roleId : ℕ) (role : Role)
    (scope : Scope) (operation : Management) : Except Failure Unit := do
  requireAny h db request (scopeManagementActions scope operation) scope
  assertRoleDelegationBoundary h db request roleId role scope operation

/-- `_role`. -/
def findRole (db : Database) (roleId : ℕ) : Except Failure Role :=
  match db.roles.find? roleId with
  | none => .error (.http 404 "role_not_found")
  | some role => .ok role

/-- The user that a text is the id of. -/
def Database.userOf (h : Host) (db : Database) (subjectId : String) : Except Failure User :=
  match h.rt.toInt (.text subjectId) with
  | .error _ => .error (.http 422 "invalid_subject_id")
  | .ok id =>
    match (if 0 ≤ id then db.users.find? id.toNat else none) with
    | none => .error (.http 404 "user_not_found")
    | some user => .ok user

/-- `_validate_subject`. -/
def validateSubject (h : Host) (db : Database) (subject : Subject) : Except Failure Unit :=
  match subject.type with
  | .user => do
      let _ ← db.userOf h subject.id
  | .serviceAccount => do
      let user ← db.userOf h subject.id
      if !user.isServiceAccount then throw (.http 422 "subject_is_not_service_account")
  | .group =>
    if (db.groups.find? subject.id).any (·.enabled) then .ok ()
    else .error (.http 404 "group_not_found")
  | .apiToken =>
    let token := match h.rt.toInt (.text subject.id) with
      | .ok id => if 0 ≤ id then db.tokens.find? id.toNat else none
      | .error _ => none
    if token.any fun token => token.kind = .api && token.revokedAt.isNone then .ok ()
    else .error (.http 404 "token_not_found")

/-- The roles that may not be combined with a role at a scope. -/
def conflictingIds (db : Database) (roleId : ℕ) (scopeType : ScopeType) : List ℕ :=
  (db.conflicts.select fun _ conflict => conflict.enabled && conflict.block
    && (conflict.roleA = roleId || conflict.roleB = roleId)
    && (conflict.scopeType = .global || conflict.scopeType = scopeType)).map fun (_, conflict) =>
      if conflict.roleA = roleId then conflict.roleB else conflict.roleA

/-- The assignments that `_assert_no_role_conflict` looks for. -/
def conflictingAssignments (db : Database) (subject : Subject) (roleId : ℕ) (scope : Scope)
    (exclude : Option ℕ) : List (ℕ × RoleAssignment) :=
  db.assignments.select fun id row =>
    row.subject = subject && row.roleId ∈ conflictingIds db roleId scope.scopeType && row.enabled
      && row.scopeType = scope.scopeType
      && (row.scopeId = none || row.scopeId = scope.scopeId && scope.scopeId.isSome)
      && (row.projectId = none || row.projectId = scope.projectId && scope.projectId.isSome)
      && exclude.all (· ≠ id)

/-- `_assert_no_role_conflict`. -/
def assertNoRoleConflict (db : Database) (subject : Subject) (roleId : ℕ) (scope : Scope)
    (exclude : Option ℕ) : Except Failure Unit :=
  if (conflictingAssignments db subject roleId scope exclude).isEmpty then .ok ()
  else .error (.http 409 "separation_of_duties_conflict")

/-- What `ensure_admin_remains` asks of the assignment of an administrator. -/
def isAdministratorAssignment (h : Host) (db : Database) (now : ℤ) (row : RoleAssignment) : Bool :=
  let human (userId : ℕ) : Bool := (db.users.find? userId).any fun user =>
    user.isActive && !user.isLocked && !user.isServiceAccount
  row.effect = .allow && row.scopeType = .global && row.enabled && row.validFrom.all (· ≤ now)
    && row.validUntil.isNone && (db.profiles.find? row.roleId).all (·.enabled)
    && (db.roles.find? row.roleId).any (fun role => allPermissions.all (· ∈ role.permissions))
    && row.permissionCeiling.all (fun ceiling => allPermissions.all (· ∈ ceiling))
    && match row.subject.type with
      | .user => row.subject.id.toList.all Char.isDigit && row.subject.id ≠ ""
          && match h.rt.toInt (.text row.subject.id) with
            | .ok id => human id.toNat
            | .error _ => false
      | .group => (db.groups.find? row.subject.id).any (·.enabled)
          && db.members.any fun (groupId, userId) => groupId = row.subject.id && human userId
      | _ => false

/-- `ensure_admin_remains`. -/
def ensureAdminRemains (h : Host) (db : Database) (now : ℤ) : Except Failure Unit :=
  let legacy := db.users.rows.any fun (userId, user) =>
    user.isActive && !user.isLocked && !user.isServiceAccount
      && allPermissions.all (· ∈ db.legacyPermissions userId)
  if legacy || db.assignments.rows.any fun (_, row) => isAdministratorAssignment h db now row then
    .ok ()
  else .error (.http 409 "At least one active human administrator with all permissions must remain")

mutual

/-- `validate_condition_tree` accepts the condition. -/
def validCondition (h : Host) : Engine.Condition → Bool
  | .always => true
  | .all conditions | .any conditions => !conditions.isEmpty && validConditions h conditions
  | .not condition => validCondition h condition
  | .field path operator value => h.rt.strip path ≠ "" && (operator ≠ .regex || h.safeRegex value)
  | .malformed => false

def validConditions (h : Host) : List Engine.Condition → Bool
  | [] => true
  | condition :: conditions => validCondition h condition && validConditions h conditions

end

/-- `validate_assignment_conditions`. -/
def validateAssignmentConditions (h : Host) (conditions : Engine.Condition) : Except Failure Unit :=
  if validCondition h conditions then .ok () else .error (.valueError "Unsupported condition")

/-! ### Assignments -/

/-- `AssignmentCreate`. -/
structure AssignmentCreate where
  scope : ScopeInput
  subject : Subject
  roleId : ℕ
  effect : GrantEffect := .allow
  conditions : Engine.Condition := .always
  inherit : Bool := true
  approvalRequired : Bool := false
  validFrom : Option ℤ := none
  validUntil : Option ℤ := none
  enabled : Bool := true
  /-- `valid_window` -/
  window : ∀ x ∈ validFrom, ∀ y ∈ validUntil, x < y := by simp

/-- `_new_assignment`. -/
def newAssignment (db : Database) (data : AssignmentCreate) (scope : Scope) (role : Role) :
    RoleAssignment where
  subject := data.subject
  roleId := data.roleId
  effect := data.effect
  scopeType := scope.scopeType
  scopeId := scope.scopeId
  tenantId := scope.tenantId
  projectId := scope.projectId
  apmid := scope.apmid
  environment := scope.environment
  conditions := data.conditions
  permissionCeiling := some (expandedRolePermissions db data.roleId role)
  inherit := data.inherit
  approvalRequired := data.approvalRequired
  validFrom := data.validFrom
  validUntil := data.validUntil
  enabled := data.enabled

def Database.addAssignment (db : Database) (row : RoleAssignment) : Database :=
  { db with assignments := db.assignments.put db.assignments.fresh row }

/-- `create_assignment`. -/
def createAssignment (h : Host) (db : Database) (request : Request) (data : AssignmentCreate) :
    Except Failure Database := do
  validateAssignmentConditions h data.conditions
  validateSubject h db data.subject
  let role ← findRole db data.roleId
  let scope ← normalizeScope h data.scope.entries
  let scope ← hydrateScope h db scope
  assertDelegatable h db request data.roleId role scope .create
  assertNoRoleConflict db data.subject data.roleId scope none
  pure (db.addAssignment (newAssignment db data scope role))

/-- `create_assignments_bulk`. -/
def createAssignmentsBulk (h : Host) (db : Database) (request : Request)
    (data : List AssignmentCreate) : Except Failure Database :=
  data.foldlM (fun db item => createAssignment h db request item) db

/-- `AssignmentUpdate`; a field that is not set is left as it is, one that is set to null is
`some none`. -/
structure AssignmentUpdate where
  roleId : Option (Option ℕ) := none
  effect : Option (Option GrantEffect) := none
  conditions : Option Engine.Condition := none
  inherit : Option (Option Bool) := none
  approvalRequired : Option (Option Bool) := none
  validFrom : Option (Option ℤ) := none
  validUntil : Option (Option ℤ) := none
  enabled : Option (Option Bool) := none
  /-- `valid_window` -/
  window : ∀ x ∈ validFrom.join, ∀ y ∈ validUntil.join, x < y := by simp

/-- A column that may not be null gets a new value. -/
def required {α : Type} (old : α) : Option (Option α) → Except Failure α
  | none => .ok old
  | some none => .error .integrity
  | some (some new) => .ok new

/-- The new role of an assignment, and its ceiling. -/
def updateRole (h : Host) (db : Database) (request : Request) (id : ℕ) (row : RoleAssignment)
    (scope : Scope) : Option (Option ℕ) → Except Failure RoleAssignment
  | none => .ok row
  | some none => .error (.http 422 "role_id_required")
  | some (some roleId) => do
      let role ← findRole db roleId
      assertDelegatable h db request roleId role scope .update
      assertNoRoleConflict db row.subject roleId scope (some id)
      pure { row with roleId, permissionCeiling := some (expandedRolePermissions db roleId role) }

/-- The other columns. -/
def updateColumns (row : RoleAssignment) (data : AssignmentUpdate) :
    Except Failure RoleAssignment := do
  let effect ← required row.effect data.effect
  let inherit ← required row.inherit data.inherit
  let approvalRequired ← required row.approvalRequired data.approvalRequired
  let enabled ← required row.enabled data.enabled
  pure { row with
    effect, inherit, approvalRequired, enabled
    conditions := data.conditions.getD row.conditions
    validFrom := data.validFrom.getD row.validFrom
    validUntil := data.validUntil.getD row.validUntil }

/-- `update_assignment`. -/
def updateAssignment (h : Host) (db : Database) (request : Request) (id : ℕ)
    (data : AssignmentUpdate) : Except Failure Database :=
  match db.assignments.find? id with
  | none => .error (.http 404 "assignment_not_found")
  | some row => do
      let role ← findRole db row.roleId
      let scope ← normalizeScope h row.scopeEntries
      let scope ← hydrateScope h db scope
      assertDelegatable h db request row.roleId role scope .update
      let updated ← updateRole h db request id row scope data.roleId
      validateAssignmentConditions h (data.conditions.getD .always)
      if (data.validFrom.getD row.validFrom).any fun first =>
        (data.validUntil.getD row.validUntil).any (· ≤ first) then
        throw (.http 422 "invalid_validity_window")
      let updated ← updateColumns updated data
      let after := { db with assignments := db.assignments.put id updated }
      if row.scopeType = .global then ensureAdminRemains h after request.now
      pure after

/-- The assignment of an approved request; the two readings of the clock are one instant. -/
def jitAssignment (db : Database) (now : ℤ) (row : JITAccessRequest) (scope : Scope)
    (role : Role) : RoleAssignment where
  subject := ⟨.user, toString row.requesterId⟩
  roleId := row.roleId
  scopeType := scope.scopeType
  scopeId := scope.scopeId
  tenantId := scope.tenantId
  projectId := scope.projectId
  apmid := scope.apmid
  environment := scope.environment
  permissionCeiling := some (expandedRolePermissions db row.roleId role)
  validFrom := some now
  validUntil := some (now + row.requestedDurationMinutes * 60000000)

/-- `approve_jit`. -/
def approveJit (h : Host) (db : Database) (request : Request) (id : ℕ) : Except Failure Database :=
  match db.jitRequests.find? id with
  | none => .error (.http 404 "jit_request_not_found")
  | some row =>
    if row.status ≠ .pending then .error (.http 409 "jit_request_not_pending")
    else do
      let role ← findRole db row.roleId
      let scope ← normalizeScope h row.scopeEntries
      let scope ← hydrateScope h db scope
      authorizeOrRaise h db request "jit.approve" scope.entries
      assertDelegatable h db request row.roleId role scope .create
      assertNoRoleConflict db ⟨.user, toString row.requesterId⟩ row.roleId scope none
      let after := db.addAssignment (jitAssignment db request.now row scope role)
      pure { after with
        jitRequests := db.jitRequests.put id { row with status := .approved } }

/-! ### Groups -/

/-- `GroupUpdate`; of the columns only `enabled` is modelled. -/
structure GroupUpdate where
  /-- an external source or an external id is given -/
  external : Bool := false
  enabled : Option (Option Bool) := none

/-- `update_group`. -/
def updateGroup (h : Host) (db : Database) (request : Request) (groupId : String)
    (data : GroupUpdate) : Except Failure Database :=
  match db.groups.find? groupId with
  | none => .error (.http 404 "group_not_found")
  | some group => do
      authorizeOrRaise h db request
        (if data.external then "groups.map_identity" else "groups.update") globalScope
      let enabled ← required group.enabled data.enabled
      let after := { db with groups := db.groups.put groupId { group with enabled } }
      ensureAdminRemains h after request.now
      pure after

/-- `GroupMemberInput`. -/
structure GroupMemberInput where
  userId : ℕ
  /-- the source is `LOCAL` -/
  localSource : Bool := true

/-- `add_group_member`. -/
def addGroupMember (h : Host) (db : Database) (request : Request) (groupId : String)
    (data : GroupMemberInput) : Except Failure Database :=
  match db.groups.find? groupId with
  | none => .error (.http 404 "group_not_found")
  | some _ => do
      authorizeOrRaise h db request
        (if data.localSource then "groups.manage_members" else "groups.map_identity") globalScope
      if (db.users.find? data.userId).isNone then throw (.http 404 "user_not_found")
      if (groupId, data.userId) ∈ db.members then throw (.http 409 "group_member_exists")
      pure { db with members := db.members ++ [(groupId, data.userId)] }

/-! ### Calls -/

inductive Call
  | createAssignment (data : AssignmentCreate)
  | updateAssignment (id : ℕ) (data : AssignmentUpdate)
  | approveJit (id : ℕ)
  | addGroupMember (groupId : String) (data : GroupMemberInput)
  | updateGroup (groupId : String) (data : GroupUpdate)

def perform (h : Host) (db : Database) (request : Request) : Call → Except Failure Database
  | .createAssignment data => createAssignment h db request data
  | .updateAssignment id data => updateAssignment h db request id data
  | .approveJit id => approveJit h db request id
  | .addGroupMember groupId data => addGroupMember h db request groupId data
  | .updateGroup groupId data => updateGroup h db request groupId data

/-! ### What a successful call has done -/

section Calls

variable {h : Host} {db db' : Database} {req : Request} {id : ℕ} {row upd : RoleAssignment}

theorem findRole_eq_ok {role : Role} {roleId : ℕ} (ho : findRole db roleId = .ok role) :
    db.roles.find? roleId = some role := by
  unfold findRole at ho
  split at ho
  · cases ho
  next he =>
  cases ho
  exact he

/-- The assignment `row` of a role at a scope has passed the checks of an operation. -/
structure Checked (h : Host) (db : Database) (request : Request) (row : RoleAssignment)
    (scope : Scope) (operation : Management) (exclude : Option ℕ) : Prop where
  delegatable : ∃ role, db.roles.find? row.roleId = some role
    ∧ assertDelegatable h db request row.roleId role scope operation = .ok ()
  noConflict : assertNoRoleConflict db row.subject row.roleId scope exclude = .ok ()

theorem createAssignment_spec {data : AssignmentCreate}
    (ho : createAssignment h db req data = .ok db') :
    ∃ asked scope role, normalizeScope h data.scope.entries = .ok asked
      ∧ hydrateScope h db asked = .ok scope ∧ db.roles.find? data.roleId = some role
      ∧ Checked h db req (newAssignment db data scope role) scope .create none
      ∧ db' = db.addAssignment (newAssignment db data scope role) := by
  simp only [createAssignment, bind_eq_ok] at ho
  obtain ⟨⟨⟩, -, ⟨⟩, -, role, hr, asked, ha, scope, hsc, ⟨⟩, hd, ⟨⟩, hc, ho⟩ := ho
  cases ho
  exact ⟨asked, scope, role, ha, hsc, findRole_eq_ok hr, ⟨⟨role, findRole_eq_ok hr, hd⟩, hc⟩, rfl⟩

theorem approveJit_spec (ho : approveJit h db req id = .ok db') :
    ∃ jit asked scope role, db.jitRequests.find? id = some jit
      ∧ normalizeScope h jit.scopeEntries = .ok asked ∧ hydrateScope h db asked = .ok scope
      ∧ db.roles.find? jit.roleId = some role
      ∧ Checked h db req (jitAssignment db req.now jit scope role) scope .create none
      ∧ db' = { db.addAssignment (jitAssignment db req.now jit scope role) with
          jitRequests := db.jitRequests.put id { jit with status := .approved } } := by
  unfold approveJit at ho
  split at ho
  · cases ho
  next jit hjit =>
  split at ho
  · cases ho
  simp only [bind_eq_ok] at ho
  obtain ⟨role, hr, asked, ha, scope, hsc, ⟨⟩, -, ⟨⟩, hd, ⟨⟩, hc, ho⟩ := ho
  cases ho
  exact ⟨jit, asked, scope, role, hjit, ha, hsc, findRole_eq_ok hr,
    ⟨⟨role, findRole_eq_ok hr, hd⟩, hc⟩, rfl⟩

/-- The assignment is for the same subject at the same scope. -/
structure SameScope (row updated : RoleAssignment) : Prop where
  subject : updated.subject = row.subject
  scopeType : updated.scopeType = row.scopeType
  scopeId : updated.scopeId = row.scopeId
  tenantId : updated.tenantId = row.tenantId
  projectId : updated.projectId = row.projectId
  apmid : updated.apmid = row.apmid
  environment : updated.environment = row.environment

theorem SameScope.rfl : SameScope row row :=
  ⟨Eq.refl _, Eq.refl _, Eq.refl _, Eq.refl _, Eq.refl _, Eq.refl _, Eq.refl _⟩

theorem SameScope.trans {later : RoleAssignment} (h : SameScope row upd)
    (h' : SameScope upd later) : SameScope row later where
  subject := h'.subject.trans h.subject
  scopeType := h'.scopeType.trans h.scopeType
  scopeId := h'.scopeId.trans h.scopeId
  tenantId := h'.tenantId.trans h.tenantId
  projectId := h'.projectId.trans h.projectId
  apmid := h'.apmid.trans h.apmid
  environment := h'.environment.trans h.environment

theorem required_eq_ok {α : Type} {old val : α} {new : Option (Option α)}
    (ho : required old new = .ok val) : val = new.join.getD old := by
  match new with
  | none =>
    cases ho
    rfl
  | some none => cases ho
  | some (some new) =>
    cases ho
    rfl

/-- The columns that an update of an assignment sets, without those that depend on a role. -/
structure Updates (data : AssignmentUpdate) (row updated : RoleAssignment) : Prop where
  effect : updated.effect = data.effect.join.getD row.effect
  inherit : updated.inherit = data.inherit.join.getD row.inherit
  enabled : updated.enabled = data.enabled.join.getD row.enabled

variable {data : AssignmentUpdate} {gid : String}

theorem updateColumns_spec (ho : updateColumns row data = .ok upd) :
    SameScope row upd ∧ upd.roleId = row.roleId ∧ Updates data row upd := by
  simp only [updateColumns, bind_eq_ok] at ho
  obtain ⟨effect, he, inherit, hinherit, approvalRequired, -, enabled, henabled, ho⟩ := ho
  cases ho
  exact ⟨⟨rfl, rfl, rfl, rfl, rfl, rfl, rfl⟩, rfl, required_eq_ok he, required_eq_ok hinherit,
    required_eq_ok henabled⟩

/-- A new role has passed the checks; nothing else that an update can set has changed yet. -/
theorem updateRole_spec {scope : Scope} {roleId : Option (Option ℕ)}
    (ho : updateRole h db req id row scope roleId = .ok upd) :
    SameScope row upd ∧ upd.roleId = roleId.join.getD row.roleId
      ∧ (upd.effect = row.effect ∧ upd.inherit = row.inherit ∧ upd.enabled = row.enabled)
      ∧ (roleId = none ∨ Checked h db req upd scope .update (some id)) := by
  match roleId with
  | none =>
    cases ho
    exact ⟨.rfl, rfl, ⟨rfl, rfl, rfl⟩, .inl rfl⟩
  | some none => cases ho
  | some (some roleId) =>
    simp only [updateRole, bind_eq_ok] at ho
    obtain ⟨role, hr, ⟨⟩, hd, ⟨⟩, hc, ho⟩ := ho
    cases ho
    exact ⟨⟨rfl, rfl, rfl, rfl, rfl, rfl, rfl⟩, rfl, ⟨rfl, rfl, rfl⟩,
      .inr ⟨⟨role, findRole_eq_ok hr, hd⟩, hc⟩⟩

theorem updateAssignment_spec (ho : updateAssignment h db req id data = .ok db') :
    ∃ row asked scope role upd, db.assignments.find? id = some row
      ∧ normalizeScope h row.scopeEntries = .ok asked ∧ hydrateScope h db asked = .ok scope
      ∧ db.roles.find? row.roleId = some role
      ∧ assertDelegatable h db req row.roleId role scope .update = .ok ()
      ∧ SameScope row upd ∧ upd.roleId = data.roleId.join.getD row.roleId
      ∧ Updates data row upd
      ∧ (data.roleId = none ∨ Checked h db req upd scope .update (some id))
      ∧ db' = { db with assignments := db.assignments.put id upd } := by
  unfold updateAssignment at ho
  split at ho
  · cases ho
  next row hr =>
  simp only [bind_eq_ok] at ho
  obtain ⟨role, hrole, asked, ha, scope, hsc, ⟨⟩, hd, first, hf, ⟨⟩, -, ho⟩ := ho
  split at ho
  · cases ho
  obtain ⟨upd, hupdated, ho⟩ := bind_eq_ok.1 ho
  obtain ⟨hs, hrol, ⟨he, hinherit, henabled⟩, hchecked⟩ := updateRole_spec hf
  obtain ⟨hs', hrole', hupdates⟩ := updateColumns_spec hupdated
  have hupdates' : Updates data row upd := by
    refine ⟨?_, ?_, ?_⟩
    · rw [← he, hupdates.effect]
    · rw [← hinherit, hupdates.inherit]
    · rw [← henabled, hupdates.enabled]
  have hafter : db' = { db with assignments := db.assignments.put id upd } := by
    split at ho
    · obtain ⟨⟨⟩, -, ho⟩ := bind_eq_ok.1 ho
      cases ho
      rfl
    · cases ho
      rfl
  refine ⟨row, asked, scope, role, upd, hr, ha, hsc, findRole_eq_ok hrole,
    hd, hs.trans hs', hrole'.trans hrol, hupdates', ?_, hafter⟩
  refine hchecked.imp_right fun hc => ⟨?_, ?_⟩
  · rw [hrole']
    exact hc.1
  · rw [hrole', hs'.subject]
    exact hc.2

theorem updateGroup_spec {data : GroupUpdate} (ho : updateGroup h db req gid data = .ok db') :
    ∃ group enabled, db.groups.find? gid = some group
      ∧ required group.enabled data.enabled = .ok enabled
      ∧ db' = { db with groups := db.groups.put gid { group with enabled } } := by
  unfold updateGroup at ho
  split at ho
  · cases ho
  next group hgroup =>
  simp only [bind_eq_ok] at ho
  obtain ⟨⟨⟩, -, enabled, henabled, ⟨⟩, -, ho⟩ := ho
  cases ho
  exact ⟨group, enabled, hgroup, henabled, rfl⟩

theorem addGroupMember_spec {data : GroupMemberInput}
    (ho : addGroupMember h db req gid data = .ok db') :
    db' = { db with members := db.members ++ [(gid, data.userId)] } := by
  unfold addGroupMember at ho
  split at ho
  · cases ho
  obtain ⟨⟨⟩, -, ho⟩ := bind_eq_ok.1 ho
  simp only at ho
  split at ho
  · cases ho
  split at ho
  · cases ho
  cases ho
  rfl

end Calls

end CloudPortal.Iam
