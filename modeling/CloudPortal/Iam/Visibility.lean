/-
CloudPortal/Iam/Visibility.lean

The lists of tenants and projects against the checks that open one of them:
`visible_tenants` and `authorize` of `app/tenancy/authorization.py`, `visible_projects` and
`authorize` of `app/projects/authorization.py`.

The predicate of a list hides what is disabled from everybody who is not shown everything;
`authorize` opens it for an administrator, also through a permission that the administrator
only has as a member.  `listed_iff_authorized` says that this is a difference, and the only one.
-/
import CloudPortal.Iam.Authorize

namespace CloudPortal.Iam

open RowStore Transition

/-! ### Permissions that can be granted inside a tenant or a project -/

def namesOf (areas : List (String × List String)) : List String :=
  areas.flatMap fun (area, actions) => actions.map fun action => area ++ "." ++ action

/-- `RESOURCE_PERMISSIONS`. -/
def resourcePermissions : List String :=
  namesOf (permissions.filter (·.1 ∈ ["deployments", "inventory", "availability", "blueprints",
    "hostnames", "vms", "machines", "snapshots", "backups", "ipam", "resource_pools", "quotas"]))
  ++ namesOf [("jobs", ["read", "read_all", "execute", "cancel", "retry"]),
    ("terraform", ["read", "execute"]), ("ansible", ["read", "execute"]),
    ("awx", ["read", "execute"]), ("schedules", ["read", "create", "update", "delete"]),
    ("providers", ["read"]), ("credentials", ["read", "read_metadata", "use", "test"]),
    ("approvals", ["read", "request", "approve", "reject"]),
    ("policies", ["read", "manage", "simulate", "audit", "exception.manage"])]

/-- `DELEGABLE_PERMISSIONS`. -/
def delegablePermissions : List String :=
  (namesOf (permissions.filter (·.1 ∈ ["projects", "governance", "tenants"]))
    ++ resourcePermissions).filter (· ∉ ["tenants.admin", "tenants.create", "tenants.delete",
      "governance.admin", "governance.access.read", "governance.access.manage"])

/-- `PROJECT_PERMISSIONS`. -/
def projectPermissions : List String := namesOf (permissions.filter (·.1 = "projects"))

/-- `PROJECT_DELEGABLE_PERMISSIONS`. -/
def projectDelegablePermissions : List String :=
  (projectPermissions ++ resourcePermissions).filter
    (· ∉ ["projects.create", "projects.admin", "quotas.tenant.manage"])

/-- `PROJECT_PERMISSIONS | PROJECT_DELEGABLE_PERMISSIONS`. -/
def permissionsHere : List String := projectPermissions ++ projectDelegablePermissions

/-! ### Members and their roles -/

/-- A role that a user has in a tenant or a project, with the permissions granted there. -/
structure ScopedRole where
  place : String
  userId : ℕ
  roleId : ℕ
  grants : List String

/-- The database with its memberships; a member is active or not. -/
structure Tenancy where
  db : Database
  tenantMembers : Table (String × ℕ) Bool := .empty
  tenantRoles : List ScopedRole := []
  projectMembers : Table (String × ℕ) Bool := .empty
  projectRoles : List ScopedRole := []

/-- What the roles of a user at a place grant and still have, of the given permissions. -/
def Tenancy.grantsAt (t : Tenancy) (roles : List ScopedRole) (among : List String)
    (place : String) (userId : ℕ) : List String :=
  (roles.filter fun row => row.place = place && row.userId = userId).flatMap fun row =>
    row.grants.filter fun p => p ∈ among && (t.db.roles.find? row.roleId).any (p ∈ ·.permissions)

/-- `live_grants`. -/
def Tenancy.liveGrants (t : Tenancy) : String → ℕ → List String :=
  t.grantsAt t.tenantRoles delegablePermissions

/-- `project_grants`. -/
def Tenancy.projectGrants (t : Tenancy) : String → ℕ → List String :=
  t.grantsAt t.projectRoles projectDelegablePermissions

def Tenancy.tenantMember (t : Tenancy) (tenantId : String) (userId : ℕ) : Bool :=
  t.tenantMembers.find? (tenantId, userId) = some true

def Tenancy.projectMember (t : Tenancy) (projectId : String) (userId : ℕ) : Bool :=
  t.projectMembers.find? (projectId, userId) = some true

/-- The ceiling of an API token has the permission. -/
def Identity.admits (who : Identity) (permission : String) : Bool :=
  who.tokenCeiling.all (permission ∈ ·)

/-- `Identity.restrict`. -/
def Identity.restrict (who : Identity) (permissions : List String) : List String :=
  permissions.filter who.admits

/-- `Identity.platform_admin`. -/
def Identity.platformAdmin (who : Identity) : Bool := "tenants.admin" ∈ who.globalPermissions

/-- `global_admin` of a project. -/
def Identity.projectAdmin (who : Identity) : Bool := "projects.admin" ∈ who.globalPermissions

/-! ### Tenants -/

variable (t : Tenancy) (actor : Actor) (who : Identity)

/-- `effective_tenant_permissions`. -/
def effectiveTenantPermissions (tenantId : String) : List String :=
  let member := t.tenantMember tenantId actor.userId
  if !member && !who.platformAdmin then []
  else who.restrict (who.globalPermissions
    ++ if member then t.liveGrants tenantId actor.userId else [])

/-- `authorize` of a tenant, with `write` and `lock` off. -/
def authorizeTenant (now : ℤ) (tokenId : ℕ) (tenantId permission : String) :
    Except Failure (List String) := do
  let (actor, who) ← identify t.db now tokenId
  let notFound := Failure.http 404 "TENANT_NOT_FOUND"
  match t.db.tenants.find? tenantId with
  | none => .error notFound
  | some tenant =>
    let permissions := effectiveTenantPermissions t actor who tenantId
    if tenant.deleted || tenant.status = .disabled && !who.platformAdmin then .error notFound
    else if !who.platformAdmin && permissions.isEmpty then .error notFound
    else if permission ∉ permissions then .error (.http 403 "SCOPED_PERMISSION_REQUIRED")
    else .ok permissions

/-- `visible_tenants`. -/
def visibleTenants (permission tenantId : String) (tenant : Tenant) : Bool :=
  !tenant.deleted &&
    if who.platformAdmin && permission ∈ who.globalPermissions then true
    else if !who.admits permission then false
    else tenant.status ≠ .disabled && t.tenantMember tenantId actor.userId
      && (permission ∈ who.globalPermissions || permission ∈ t.liveGrants tenantId actor.userId)

/-! ### Projects -/

/-- `tenant_project_permissions`. -/
def tenantProjectPermissions (tenantId : String) : List String :=
  if t.tenantMember tenantId actor.userId then
    (who.restrict (t.liveGrants tenantId actor.userId)).filter (· ∈ permissionsHere)
  else []

/-- `effective_permissions` of a project. -/
def effectivePermissions (projectId tenantId : String) : List String :=
  let member := t.projectMember projectId actor.userId && t.tenantMember tenantId actor.userId
  who.restrict ((if member || who.projectAdmin then
      who.globalPermissions.filter (· ∈ permissionsHere) else [])
    ++ tenantProjectPermissions t actor who tenantId
    ++ if member then t.projectGrants projectId actor.userId else [])

/-- `authorize` of a project, with `write` and `lock` off and no tenant id given. -/
def authorizeProject (now : ℤ) (tokenId : ℕ) (projectId permission : String) :
    Except Failure (List String) := do
  let (actor, who) ← identify t.db now tokenId
  let notFound := Failure.http 404 "PROJECT_NOT_FOUND"
  match t.db.projects.find? projectId with
  | none => .error notFound
  | some project =>
    match t.db.tenants.find? project.tenantId with
    | none => .error notFound
    | some tenant =>
      let permissions := effectivePermissions t actor who projectId project.tenantId
      if project.deleted || tenant.deleted then .error notFound
      else if permissions.isEmpty
        || (project.status = .disabled || tenant.status = .disabled) && !who.projectAdmin then
        .error notFound
      else if permission ∉ permissions then .error (.http 403 "SCOPED_PERMISSION_REQUIRED")
      else .ok permissions

/-- `visible_projects`, for a project with the row of its tenant. -/
def visibleProjects (permission projectId : String) (project : Project) (tenant : Tenant) :
    Bool :=
  !project.deleted && !tenant.deleted &&
    if who.projectAdmin && permission ∈ who.globalPermissions then true
    else if !who.admits permission then false
    else project.status ≠ .disabled && tenant.status ≠ .disabled
      && t.tenantMember project.tenantId actor.userId
      && (permission ∈ t.liveGrants project.tenantId actor.userId
        || t.projectMember projectId actor.userId && (permission ∈ who.globalPermissions
          || permission ∈ t.projectGrants projectId actor.userId))

/-! ### Agreement -/

variable {t actor who} {now : ℤ} {tokenId : ℕ} {permission : String}

/-- The global permissions of an identity are below its ceiling. -/
theorem admits_of_identify (hi : identify t.db now tokenId = .ok (actor, who))
    (h : permission ∈ who.globalPermissions) : who.admits permission := by
  unfold identify at hi
  split at hi
  · cases hi
  split at hi
  · cases hi
  split at hi
  · cases hi
  split at hi
  · cases hi
  cases hi
  split at h
  · next hapi => simpa [hapi, Identity.admits] using (List.mem_filter.1 h).2
  · next hapi => simp [hapi, Identity.admits]

theorem mem_effectiveTenantPermissions {ten : String} :
    permission ∈ effectiveTenantPermissions t actor who ten
      ↔ (t.tenantMember ten actor.userId ∨ who.platformAdmin) ∧ who.admits permission
        ∧ (permission ∈ who.globalPermissions ∨ t.tenantMember ten actor.userId
          ∧ permission ∈ t.liveGrants ten actor.userId) := by
  unfold effectiveTenantPermissions Identity.restrict
  cases t.tenantMember ten actor.userId <;> cases who.platformAdmin <;> simp <;> grind

theorem mem_effectivePermissions {proj ten : String} (hhere : permission ∈ permissionsHere) :
    permission ∈ effectivePermissions t actor who proj ten
      ↔ who.admits permission
        ∧ (permission ∈ who.globalPermissions ∧ (who.projectAdmin
            ∨ t.projectMember proj actor.userId ∧ t.tenantMember ten actor.userId)
          ∨ t.tenantMember ten actor.userId
            ∧ (permission ∈ t.liveGrants ten actor.userId
              ∨ t.projectMember proj actor.userId
                ∧ permission ∈ t.projectGrants proj actor.userId)) := by
  unfold effectivePermissions tenantProjectPermissions Identity.restrict
  cases t.tenantMember ten actor.userId <;> cases who.projectAdmin <;>
    cases t.projectMember proj actor.userId <;> simp [hhere] <;> grind

/-- What a decision opens that refuses in three ways. -/
theorem isOk_ite {hidden unseen refused : Prop} [Decidable hidden] [Decidable unseen]
    [Decidable refused] {e₁ e₂ e₃ : Failure} {perms : List String} :
    (if hidden then .error e₁ else if unseen then .error e₂ else if refused then .error e₃
      else .ok perms : Except Failure (List String)).isOk
      ↔ ¬hidden ∧ ¬unseen ∧ ¬refused := by
  split_ifs <;> simp_all [Except.isOk, Except.toBool]

variable (t actor who permission) in
/-- A membership of the tenant grants the permission. -/
def GrantedInTenant (tenantId : String) : Prop :=
  who.admits permission ∧ t.tenantMember tenantId actor.userId
    ∧ permission ∈ t.liveGrants tenantId actor.userId

variable (t actor who permission) in
/-- A membership of the tenant or of the project grants the permission. -/
def GrantedInProject (projectId tenantId : String) : Prop :=
  GrantedInTenant t actor who permission tenantId
    ∨ who.admits permission ∧ t.tenantMember tenantId actor.userId
      ∧ t.projectMember projectId actor.userId ∧ permission ∈ t.projectGrants projectId actor.userId

/-- A list shows exactly what can be opened, unless what is disabled is open to an administrator who
has the permission only as a member. -/
theorem listed_iff_authorized (hid : identify t.db now tokenId = .ok (actor, who)) :
    (∀ tenantId tenant, t.db.tenants.find? tenantId = some tenant → tenant.deleted = false →
      ((visibleTenants t actor who permission tenantId tenant
          ↔ (authorizeTenant t now tokenId tenantId permission).isOk)
        ↔ ¬(tenant.status = .disabled ∧ who.platformAdmin ∧ permission ∉ who.globalPermissions
          ∧ GrantedInTenant t actor who permission tenantId)))
    ∧ ∀ projectId project tenant, t.db.projects.find? projectId = some project →
      t.db.tenants.find? project.tenantId = some tenant → project.deleted = false →
      tenant.deleted = false → permission ∈ permissionsHere →
      ((visibleProjects t actor who permission projectId project tenant
          ↔ (authorizeProject t now tokenId projectId permission).isOk)
        ↔ ¬((project.status = .disabled ∨ tenant.status = .disabled) ∧ who.projectAdmin
          ∧ permission ∉ who.globalPermissions
          ∧ GrantedInProject t actor who permission projectId project.tenantId)) := by
  have hg := @admits_of_identify t actor who now tokenId permission hid
  unfold GrantedInProject GrantedInTenant
  refine ⟨fun tenantId tenant hr hd => ?_, fun projectId project tenant hr ht hd hd' hhere => ?_⟩
  · have hm := @mem_effectiveTenantPermissions t actor who permission tenantId
    simp only [authorizeTenant, hid, hr, bind, Except.bind, isOk_ite, visibleTenants, hd]
    cases hperm : effectiveTenantPermissions t actor who tenantId <;> grind
  · have hm := @mem_effectivePermissions t actor who permission projectId project.tenantId hhere
    simp only [authorizeProject, hid, hr, ht, bind, Except.bind, isOk_ite, visibleProjects, hd, hd']
    cases hperm : effectivePermissions t actor who projectId project.tenantId <;> grind

/-- An administrator of the platform who may read one tenant as its member. -/
def labTenancy (status : Lifecycle) : Tenancy where
  db := { users := Table.empty.put 1 {}, tokens := Table.empty.put 5 { userId := 1 }
          roles := (Table.empty.put 1 ⟨["tenants.admin"]⟩).put 2 ⟨["tenants.read"]⟩
          userRoles := [(1, 1)], tenants := Table.empty.put "lab" { status } }
  tenantMembers := Table.empty.put ("lab", 1) true
  tenantRoles := [⟨"lab", 1, 2, ["tenants.read"]⟩]

def labActor : Actor := ⟨1, some 5, .session, [], {}⟩

theorem listed_iff_authorized_lab :
    visibleTenants (labTenancy .active) labActor ⟨["tenants.admin"], none⟩ "tenants.read" "lab" {}
      ↔ (authorizeTenant (labTenancy .active) 0 5 "lab" "tenants.read").isOk :=
  ((listed_iff_authorized rfl).1 "lab" {} rfl rfl).2 (by simp)

/-- A disabled tenant is opened and not listed. -/
theorem disabled_tenant_opened_not_listed :
    identify (labTenancy .disabled).db 0 5 = .ok (labActor, ⟨["tenants.admin"], none⟩)
      ∧ visibleTenants (labTenancy .disabled) labActor ⟨["tenants.admin"], none⟩ "tenants.read"
        "lab" { status := .disabled } = false
      ∧ (authorizeTenant (labTenancy .disabled) 0 5 "lab" "tenants.read").isOk := by
  refine ⟨rfl, ?_, ?_⟩ <;> decide +kernel

end CloudPortal.Iam
