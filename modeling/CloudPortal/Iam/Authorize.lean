/-
CloudPortal/Iam/Authorize.lean

The decision procedure (`authorize` in `app/iam/service.py`): the ceiling of an API token,
break-glass grants, the assignments of the actor and of the groups that the actor is in,
explicit denials before grants, access policies, approvals.

The loop over the assignments is a `mapM`, since conditions can raise.  What it finds about
the matching assignments (`Item`) is all that the rest of the procedure looks at
(`conclude`), and `authorizes_iff` says when the answer is ALLOW.
-/
import CloudPortal.Iam.Store
import CloudPortal.Lib.Fallible

namespace CloudPortal.Iam

open Document RowStore Transition

/-! ### Actors -/

/-- On whose behalf is asked: the token of the request, or a user (`subject_user_id`). -/
inductive Caller
  | token (id : ℕ)
  | simulated (userId : ℕ)
  deriving DecidableEq, Repr

/-- What the procedure reads of a token or of a `SimulatedActor`. -/
structure Actor where
  userId : ℕ
  tokenId : Option ℕ
  kind : Kind
  scopes : List String
  user : User

/-- The actor of a request that is made with a token. -/
def Token.actor (token : Token) (tokenId : ℕ) (user : User) : Actor :=
  ⟨token.userId, some tokenId, token.kind, token.scopes, user⟩

structure Identity where
  globalPermissions : List String
  tokenCeiling : Option (List String)

def authenticationRequired : Failure := .http 401 "AUTHENTICATION_REQUIRED"

/-- The token is one that requests are made with, now. -/
def Token.valid (token : Token) (now : ℤ) : Bool :=
  (token.kind = .api || token.kind = .session) && token.revokedAt.isNone
    && token.expiresAt.all (now < ·)

/-- The user can log in, now. -/
def User.valid (user : User) (now : ℤ) : Bool :=
  user.isActive && !user.isLocked && user.lockedUntil.all (· ≤ now)

/-- `identity` of `app/tenancy/authorization.py`, with the rows that it reads. -/
def identify (db : Database) (now : ℤ) (tokenId : ℕ) : Except Failure (Actor × Identity) :=
  match db.tokens.find? tokenId with
  | none => .error authenticationRequired
  | some token =>
    match db.users.find? token.userId with
    | none => .error authenticationRequired
    | some user =>
      if !token.valid now || !user.valid now then .error authenticationRequired
      else if token.kind = .session ∧ user.mustChangePassword then
        .error (.http 403 "PASSWORD_CHANGE_REQUIRED")
      else
        let legacy := db.legacyPermissions token.userId
        .ok (token.actor tokenId user,
          if token.kind = .api then ⟨legacy.filter (· ∈ token.scopes), some token.scopes⟩
          else ⟨legacy, none⟩)

/-- `_simulation_identity`. -/
def simulationIdentity (db : Database) (userId : ℕ) : Except Failure (Actor × Identity) :=
  match db.users.find? userId with
  | none => .error (.http 404 "user_not_found")
  | some user =>
    if !user.isActive || user.isLocked then .error (.http 404 "user_not_found")
    else .ok (⟨userId, none, .simulation, [], user⟩, ⟨db.legacyPermissions userId, none⟩)

def resolve (db : Database) (now : ℤ) : Caller → Except Failure (Actor × Identity)
  | .token id => identify db now id
  | .simulated userId => simulationIdentity db userId

/-- `_active_break_glass`: the grant that ends last. -/
def activeBreakGlass (db : Database) (now : ℤ) (actor : Actor) : Option (ℕ × BreakGlassAccess) :=
  if (actor.kind = .session ∨ actor.kind = .simulation) ∧ !actor.user.isServiceAccount then
    ((db.breakGlass.select fun _ row => row.userId = actor.userId && row.enabled
      && row.validFrom ≤ now && now < row.validUntil && row.endedAt.isNone).insertionSort
        fun x y => y.2.validUntil ≤ x.2.validUntil).head?
  else none

/-- The enabled groups of a user. -/
def Database.groupsOf (db : Database) (userId : ℕ) : List String :=
  (db.members.filter fun (groupId, memberId) =>
    memberId = userId && (db.groups.find? groupId).any (·.enabled)).map (·.1)

/-- `_subjects`. -/
def subjects (db : Database) (actor : Actor) : List Subject :=
  ⟨.user, toString actor.userId⟩
    :: (actor.tokenId.toList.filter fun _ => actor.kind ≠ .simulation).map
        (fun tokenId => ⟨.apiToken, toString tokenId⟩)
    ++ (if actor.user.isServiceAccount then [⟨.serviceAccount, toString actor.userId⟩] else [])
    ++ (db.groupsOf actor.userId).map fun groupId => ⟨.group, groupId⟩

/-- The assignment holds, at an instant. -/
def RoleAssignment.active (row : RoleAssignment) (now : ℤ) : Bool :=
  row.enabled && row.validFrom.all (· ≤ now) && row.validUntil.all (now < ·)

/-- `_active_assignment_query`. -/
def activeAssignments (db : Database) (subjects : List Subject) (now : ℤ) :
    List (ℕ × RoleAssignment) :=
  db.assignments.select fun _ row => row.subject ∈ subjects && row.active now

/-! ### Scopes of assignments -/

/-- `str(value or text or "")`. -/
def textOr (h : Host) (value : Value) (text : Option String) : String :=
  if value.truthy then value.str h.rt else text.getD ""

/-- `value or text`, as a text. -/
def idOr (h : Host) (value : Value) (text : Option String) : Option String :=
  if value.truthy then some (value.str h.rt) else text

/-- A value of a dictionary, or null. -/
def orNull (entries : Entries) (key : String) : Value := (entries.get key).getD .null

/-- The project and the tenant of an assignment, if it has them, are those of the target. -/
def RoleAssignment.matchesOwner (row : RoleAssignment) (target : Scope) : Bool :=
  (present row.tenantId).all (target.tenantId = some ·)
    && (present row.projectId).all (target.projectId = some ·)

/-- The id in `lookup` that a scope of a resource is compared with. -/
def lookupId (h : Host) (target : Scope) (resource : Entries) : ScopeType → Option String
  | .resourcePool => idOr h (orNull resource "resource_pool_id") target.resourcePoolId
  | .blueprint => idOr h (orNull resource "blueprint_id") target.blueprintId
  | .deployment => idOr h (orNull resource "deployment_id") target.deploymentId
  | .resource => idOr h (orNull resource "id") target.resourceId
  | .machine =>
    idOr h (orNull resource "machine_id") (idOr h (orNull resource "id") target.machineId)
  | _ => none

/-- `_assignment_scope_matches`; the second component says that the match is inherited. -/
def assignmentScopeMatches (h : Host) (row : RoleAssignment) (target : Scope)
    (resource : Entries) : Bool × Bool :=
  let inherited := row.scopeType ≠ target.scopeType
  let reaches := row.inherit || target.scopeType = row.scopeType
  let apmid := h.upper (textOr h (orNull resource "apmid") target.apmid)
  match row.scopeType with
  | .global => (reaches, inherited)
  | .organization => ((present row.tenantId).any (target.tenantId = some ·) && reaches, inherited)
  | .project => ((present row.projectId).any (target.projectId = some ·) && reaches, inherited)
  | .apmid =>
    ((present row.apmid).any (h.upper · = apmid) && row.matchesOwner target && reaches, inherited)
  | .environment =>
    let environment := normalizeEnvironment h
      (textOr h (orNull resource "environment") target.environment)
    ((present row.environment).any (normalizeEnvironment h · = environment)
        && row.matchesOwner target && (present row.apmid).all (h.upper · = apmid) && reaches,
      inherited)
  | scopeType =>
    (row.scopeId.any (lookupId h target resource scopeType = some ·) && row.matchesOwner target,
      false)

/-! ### The evaluation context -/

/-- `_normalize_environment` of a value. -/
def normalizeEnvironmentValue (h : Host) (value : Value) : Value :=
  optionValue (normalizeEnvironment h (if value.truthy then value.str h.rt else ""))

/-- The part `resource` of the context. -/
def resourceContext (h : Host) (scope : Scope) (resource : Entries) : Entries :=
  let or (key : String) (text : Option String) : Value :=
    (resource.get key).getD (optionValue text)
  ((((((resource.set "apmid" (or "apmid" scope.apmid)).set
    "environment" (normalizeEnvironmentValue h (or "environment" scope.environment))).set
    "resource_pool_id" (or "resource_pool_id" scope.resourcePoolId)).set
    "blueprint_id" (or "blueprint_id" scope.blueprintId)).set
    "deployment_id" (or "deployment_id" scope.deploymentId)).set
    "id" (if (orNull resource "id").truthy then orNull resource "id"
      else optionValue (scope.resourceId <|> scope.machineId)))

/-- The part `actor` of the context. -/
def actorContext (actor : Actor) : Entries := [
  ("id", .int actor.userId),
  ("user_id", .int actor.userId),
  ("token_id", (actor.tokenId.map fun id => .int id).getD .null),
  ("username", .text actor.user.username),
  ("service_account", .flag actor.user.isServiceAccount)]

/-- `_context`, with the action. -/
def evaluationContext (h : Host) (scope : Scope) (actor : Actor) (resource extra : Entries)
    (action : String) : Entries := [
  ("actor", .dict (actorContext actor)),
  ("scope", .dict [
    ("type", .text scope.scopeType.name),
    ("id", optionValue scope.scopeId),
    ("tenant_id", optionValue scope.tenantId),
    ("organization_id", optionValue scope.tenantId),
    ("project_id", optionValue scope.projectId),
    ("apmid", optionValue scope.apmid),
    ("environment", optionValue scope.environment)]),
  ("resource", .dict (resourceContext h scope resource)),
  ("request", .dict extra),
  ("action", .text action)]

/-! ### Existing scopes -/

def resourceNotFound : Failure := .http 404 "resource_not_found"

/-- `list_apmids`, without the disabled ones. -/
def enabledApmids (db : Database) (organizationId : String) : List String :=
  (db.apmids.filter fun row => row.organizationId = organizationId && row.enabled).map (·.code)

/-- `effective_project_apmids`. -/
def effectiveProjectApmids (h : Host) (db : Database) (organizationId projectId : String) :
    Except Failure (List String) :=
  match (db.projects.find? projectId).filter fun project =>
    project.tenantId = organizationId && !project.deleted with
  | none => .error resourceNotFound
  | some project =>
    let codes := enabledApmids db organizationId
    if project.allowedApmids = [] then .ok codes
    else .ok (codes.filter (· ∈ project.allowedApmids.map h.upper))

/-- `validate_apmid_scope`, for a code that is there. -/
def validateApmidScope (h : Host) (db : Database) (organizationId : String)
    (projectId : Option String) (code : String) : Except Failure Unit := do
  let normalized := h.upper (h.rt.strip code)
  if normalized = "" ∨ normalized.toList.any fun c => !h.isAlnum c && c ≠ '-' && c ≠ '_' then
    throw (.http 422 "invalid_apmid")
  if normalized ∉ enabledApmids db organizationId then
    throw (.http 422 "apmid_not_available")
  match projectId with
  | none => pure ()
  | some projectId =>
    if normalized ∉ (← effectiveProjectApmids h db organizationId projectId) then
      throw (.http 422 "apmid_not_allowed_in_project")

/-- `_validate_scope_resource`. -/
def validateScopeResource (h : Host) (db : Database) (scope : Scope) (write : Bool) :
    Except Failure Unit :=
  match scope.projectId, scope.tenantId with
  | none, none =>
    if scope.apmid.isSome then .error (.http 422 "organization_required_for_apmid") else .ok ()
  | some projectId, tenantId =>
    match (db.projects.find? projectId).filter fun project =>
      some project.tenantId = tenantId && !project.deleted with
    | none => .error resourceNotFound
    | some project =>
      match (db.tenants.find? project.tenantId).filter (!·.deleted) with
      | none => .error resourceNotFound
      | some tenant =>
        if project.status = .disabled ∨ tenant.status = .disabled then
          .error resourceNotFound
        else if write ∧ (project.status ≠ .active ∨ tenant.status ≠ .active) then
          .error (.http 409 "scope_inactive")
        else match scope.apmid with
          | none => .ok ()
          | some apmid => validateApmidScope h db project.tenantId (some projectId) apmid
  | none, some tenantId =>
    match (db.tenants.find? tenantId).filter (!·.deleted) with
    | none => .error resourceNotFound
    | some tenant =>
      if tenant.status = .disabled then .error resourceNotFound
      else if write ∧ tenant.status ≠ .active then .error (.http 409 "scope_inactive")
      else match scope.apmid with
        | none => .ok ()
        | some apmid => validateApmidScope h db tenantId none apmid

/-! ### The decision -/

inductive Verdict
  | allow | requiresApproval | deny
  deriving DecidableEq, Repr

/-- An assignment that matches, as the answer shows it. -/
structure Item where
  id : ℕ
  subject : Subject
  roleId : ℕ
  effect : GrantEffect
  inherited : Bool
  approvalRequired : Bool
  deriving DecidableEq, Repr

inductive Unmatched
  | scope | roleInheritanceDisabled | condition | permission
  deriving DecidableEq, Repr

/-- What the loop finds out about an assignment. -/
inductive Outcome
  | unmatched (id : ℕ) (reason : Unmatched)
  | matched (item : Item)
  deriving DecidableEq, Repr

def Outcome.item? : Outcome → Option Item
  | .unmatched .. => none
  | .matched item => some item

structure AuthorizationDecision where
  decision : Verdict
  reason : String
  assignments : List Item := []
  denied : List Item := []
  trace : List Outcome := []
  /-- the id of the grant -/
  breakGlass : Option ℕ := none
  policy : Option Engine.Evaluation := none

def AuthorizationDecision.allowed (decision : AuthorizationDecision) : Bool :=
  decision.decision = .allow

/-- The role of the assignment has the permission, within the ceiling of the assignment. -/
def RoleAssignment.grants (db : Database) (row : RoleAssignment) (action : String) : Bool :=
  (action ∈ (roleGrants db row.roleId).1 || anyMatches (roleGrants db row.roleId).2 action)
    && row.permissionCeiling.all (anyMatches · action)

/-- The role of the assignment is not for scopes below its own. -/
def RoleAssignment.staysInScope (db : Database) (row : RoleAssignment) : Bool :=
  (db.profiles.find? row.roleId).any (!·.inheritanceEnabled)

def caughtRaised {α : Type} : Except Raised α → Except Failure α
  | .ok value => .ok value
  | .error e => .error (.raised e)

/-- One round of the loop. -/
def matchRow (h : Host) (db : Database) (target : Scope) (context : Entries) (action : String)
    (entry : ℕ × RoleAssignment) : Except Failure Outcome := do
  let (id, row) := entry
  let (scopeMatch, inherited) := assignmentScopeMatches h row target (context.inner "resource")
  if !scopeMatch then pure (.unmatched id .scope)
  else if inherited ∧ row.staysInScope db then pure (.unmatched id .roleInheritanceDisabled)
  else if !(← caughtRaised (row.conditions.evaluate h.rt context)) then
    pure (.unmatched id .condition)
  else if !row.grants db action then pure (.unmatched id .permission)
  else pure (.matched ⟨id, row.subject, row.roleId, row.effect, inherited, row.approvalRequired⟩)

/-- The access policies that are looked at. -/
def accessPolicies (db : Database) (scope : Scope) : List Engine.Policy :=
  db.policies.filter fun policy =>
    policy.policyType = .access && (policy.status = .enforced || policy.status = .dryRun)
      && policy.tenantId.all (scope.tenantId = some ·)
      && policy.projectId.all (scope.projectId = some ·)

/-- `_policy_decision`. -/
def policyDecision (h : Host) (db : Database) (now : ℤ) (context : Entries) (scope : Scope) :
    Except Failure (Option Engine.Evaluation) :=
  let policies := accessPolicies db scope
  if policies.isEmpty then .ok none
  else do
    let exceptions := db.exceptions.filter fun exception =>
      exception.policyId ∈ policies.map (·.id) && exception.status = .approved
    let evaluation ← caughtRaised (Engine.evaluate h.rt policies context exceptions now)
    .ok (some evaluation)

/-- Why the matching assignments do not let the request pass. -/
def refusal (kind : Kind) (items : List Item) : Option String :=
  let assignments := items.filter (·.effect = .allow)
  if items.any (·.effect = .deny) then some "Explicit DENY matched before ALLOW"
  -- a token narrows what its owner may do, it is no source of privileges
  else if kind = .api ∧ assignments.all (·.subject.type = .apiToken) then
    some "API token cannot elevate beyond its owner permissions"
  else if assignments.isEmpty then some "Default deny: no applicable ALLOW grant"
  else none

/-- The answer for a request that the assignments let pass. -/
def policyVerdict (policy : Option Engine.Evaluation) (assignments : List Item) :
    Verdict × String :=
  let verdict : Engine.Decision := (policy.map (·.decision)).getD .allow
  if verdict = .deny then (.deny, "Denied by enforced access policy")
  else if assignments.any (·.approvalRequired) ∨ verdict = .approvalRequired then
    (.requiresApproval, "Access is allowed only after approval")
  else (.allow, "Permission granted")

/-- What follows the loop. -/
def conclude (h : Host) (db : Database) (now : ℤ) (kind : Kind) (target : Scope)
    (context : Entries) (trace : List Outcome) : Except Failure AuthorizationDecision :=
  let items := trace.filterMap Outcome.item?
  let assignments := items.filter (·.effect = .allow)
  match refusal kind items with
  | some reason =>
    .ok ⟨.deny, reason, assignments, items.filter (·.effect = .deny), trace, none, none⟩
  | none => do
      let policy ← policyDecision h db now context target
      let (decision, reason) := policyVerdict policy assignments
      .ok ⟨decision, reason, assignments, [], trace, none, policy⟩

/-- The decision for an actor at a target that exists. -/
def decideFor (h : Host) (db : Database) (now : ℤ) (actor : Actor) (action : String)
    (target : Scope) (resource extra : Entries) : Except Failure AuthorizationDecision :=
  if actor.kind = .api ∧ !anyMatches actor.scopes action then
    .ok { decision := .deny, reason := "API token scope does not include the required permission" }
  else match activeBreakGlass db now actor with
    | some (id, _) =>
      .ok { decision := .allow, reason := "Active break-glass grant", breakGlass := some id }
    | none => do
        let context := evaluationContext h target actor resource extra action
        let trace ← (activeAssignments db (subjects db actor) now).mapM
          (matchRow h db target context action)
        conclude h db now actor.kind target context trace

/-- `authorize`. -/
def authorize (h : Host) (db : Database) (now : ℤ) (caller : Caller) (action : String)
    (scope resource extra : Entries) (write : Bool) : Except Failure AuthorizationDecision := do
  if action ∉ allPermissions then throw (.http 500 "unknown_permission" [action])
  let target ← normalizeScope h scope
  validateScopeResource h db target write
  let (actor, _) ← resolve db now caller
  decideFor h db now actor action target resource extra

/-! ### Actors and their assignments -/

variable {ctx : Entries} {row : RoleAssignment}

section Actors

variable {db : Database} {now : ℤ} {actor : Actor} {tid : ℕ}

theorem mem_activeAssignments {owners : List Subject} {id : ℕ} :
    (id, row) ∈ activeAssignments db owners now
      ↔ db.assignments.find? id = some row ∧ row.subject ∈ owners ∧ row.active now = true := by
  unfold activeAssignments
  rw [Table.mem_select, Bool.and_eq_true, decide_eq_true_iff]

theorem mem_subjects {sub : Subject} :
    sub ∈ subjects db actor
      ↔ sub = ⟨.user, toString actor.userId⟩
        ∨ (∃ tid, actor.tokenId = some tid ∧ actor.kind ≠ .simulation
          ∧ sub = ⟨.apiToken, toString tid⟩)
        ∨ actor.user.isServiceAccount = true
          ∧ sub = ⟨.serviceAccount, toString actor.userId⟩
        ∨ ∃ gid ∈ db.groupsOf actor.userId, sub = ⟨.group, gid⟩ := by
  unfold subjects
  simp only [List.mem_append, List.mem_cons, List.mem_map, List.mem_filter, Option.mem_toList,
    decide_eq_true_iff, eq_comm (b := sub), or_assoc, and_assoc]
  cases actor.user.isServiceAccount <;> simp

theorem mem_groupsOf {uid : ℕ} {gid : String} :
    gid ∈ db.groupsOf uid ↔ (gid, uid) ∈ db.members
      ∧ (db.groups.find? gid).any (·.enabled) = true := by
  unfold Database.groupsOf
  simp only [List.mem_map, List.mem_filter, Bool.and_eq_true, decide_eq_true_iff]
  constructor
  · rintro ⟨⟨gid', memberId⟩, ⟨hm, rfl, henabled⟩, rfl⟩
    exact ⟨hm, henabled⟩
  · rintro ⟨hm, henabled⟩
    exact ⟨(gid, uid), ⟨hm, rfl, henabled⟩, rfl⟩

/-- The identity of a token. -/
def Token.identity (token : Token) (db : Database) : Identity :=
  if token.kind = .api then
    ⟨(db.legacyPermissions token.userId).filter (· ∈ token.scopes), some token.scopes⟩
  else ⟨db.legacyPermissions token.userId, none⟩

/-- Requests can be made with a token, now. -/
structure Authenticates (db : Database) (now : ℤ) (tokenId : ℕ) (token : Token) (user : User) :
    Prop where
  tokenRow : db.tokens.find? tokenId = some token
  userRow : db.users.find? token.userId = some user
  tokenValid : token.valid now = true
  userValid : user.valid now = true
  password : token.kind = .session → user.mustChangePassword = false

theorem Authenticates.identify {token : Token} {user : User}
    (h : Authenticates db now tid token user) :
    identify db now tid = .ok (token.actor tid user, token.identity db) := by
  have hpassword : ¬(token.kind = .session ∧ user.mustChangePassword = true) := by
    rintro ⟨hk, hc⟩
    rw [h.password hk] at hc
    cases hc
  unfold Iam.identify
  simp only [h.tokenRow, h.userRow, h.tokenValid, h.userValid, hpassword]
  rfl

theorem authenticates_of_identify {identity : Identity}
    (ho : identify db now tid = .ok (actor, identity)) :
    ∃ token user, Authenticates db now tid token user
      ∧ actor = token.actor tid user ∧ identity = token.identity db := by
  unfold identify at ho
  split at ho
  · cases ho
  next token htoken =>
  split at ho
  · cases ho
  next user huser =>
  split at ho
  · cases ho
  next hv =>
  split at ho
  · cases ho
  next hpassword =>
  simp only [Bool.or_eq_true, Bool.not_eq_true', not_or, Bool.not_eq_false] at hv
  cases ho
  refine ⟨token, user, ⟨htoken, huser, hv.1, hv.2, fun hk => ?_⟩, rfl, rfl⟩
  exact Bool.eq_false_iff.2 fun hc => hpassword ⟨hk, hc⟩

end Actors

/-! ### When the answer is ALLOW -/

section Allows

variable {h : Host} {db : Database} {now : ℤ} {actor : Actor} {act : String} {tgt : Scope}
  {res extra : Entries} {items : List Item} {kind : Kind}

/-- The policies let a request pass. -/
def PoliciesAllow (h : Host) (db : Database) (now : ℤ) (context : Entries) (target : Scope) :
    Prop :=
  ∃ policy, policyDecision h db now context target = .ok policy
    ∧ (policy.map (·.decision)).getD .allow = Engine.Decision.allow

/-- The items of the matching assignments let a request pass. -/
structure ItemsAllow (kind : Kind) (items : List Item) : Prop where
  allow : ∀ item ∈ items, item.effect = .allow ∧ item.approvalRequired = false
  granted : ∃ item ∈ items, kind = .api → item.subject.type ≠ .apiToken

theorem filter_allow_eq_self (hallow : ∀ item ∈ items, item.effect = .allow) :
    items.filter (·.effect = .allow) = items :=
  List.filter_eq_self.2 fun item hi => decide_eq_true (hallow item hi)

theorem refusal_eq_none :
    refusal kind items = none ↔ (∀ item ∈ items, item.effect = .allow)
      ∧ ∃ item ∈ items, kind = .api → item.subject.type ≠ .apiToken := by
  have hitem (c : Prop) [Decidable c] (reason : String) (rest : Option String) :
      (if c then some reason else rest) = none ↔ ¬c ∧ rest = none := by
    split <;> simp [*]
  have hdeny : ¬items.any (·.effect = .deny) = true ↔ ∀ item ∈ items, item.effect = .allow := by
    rw [Bool.not_eq_true, List.any_eq_false]
    refine forall₂_congr fun item _ => ?_
    cases item.effect <;> simp
  rw [refusal, hitem, hitem, hitem, hdeny]
  refine and_congr_right fun hallow => ?_
  rw [filter_allow_eq_self hallow]
  constructor
  · rintro ⟨hb, hnonempty, -⟩
    by_cases hk : kind = .api
    · have ha : ¬items.all (·.subject.type = .apiToken) = true := fun ha => hb ⟨hk, ha⟩
      obtain ⟨item, hi, ht⟩ := List.all_eq_false.1 (Bool.not_eq_true _ ▸ ha)
      exact ⟨item, hi, fun _ he => ht (decide_eq_true he)⟩
    · obtain ⟨item, hi⟩ := List.exists_mem_of_ne_nil items (by simpa using hnonempty)
      exact ⟨item, hi, fun h => absurd h hk⟩
  · rintro ⟨item, hi, ht⟩
    refine ⟨fun ⟨hk, ha⟩ => ?_, ?_, rfl⟩
    · exact ht hk (of_decide_eq_true (List.all_eq_true.1 ha item hi))
    rw [List.isEmpty_iff]
    exact List.ne_nil_of_mem hi

theorem policyVerdict_eq_allow {pol : Option Engine.Evaluation} {ass : List Item} :
    (policyVerdict pol ass).1 = .allow
      ↔ (pol.map (·.decision)).getD .allow = Engine.Decision.allow
        ∧ ∀ item ∈ ass, item.approvalRequired = false := by
  have ha : ¬ass.any (·.approvalRequired) = true ↔ ∀ item ∈ ass, item.approvalRequired = false := by
    rw [Bool.not_eq_true, List.any_eq_false]
    exact forall₂_congr fun item _ => Bool.not_eq_true _ ▸ Iff.rfl
  unfold policyVerdict
  simp only
  rw [← ha]
  generalize (pol.map (·.decision)).getD Engine.Decision.allow = verdict
  by_cases ha : ass.any (·.approvalRequired) = true <;> cases verdict <;>
    simp [ha]

variable {trace : List Outcome} {d : AuthorizationDecision} {id : ℕ}

theorem conclude_allows_iff :
    (∃ d, conclude h db now kind tgt ctx trace = .ok d ∧ d.allowed = true)
      ↔ ItemsAllow kind (trace.filterMap Outcome.item?)
        ∧ PoliciesAllow h db now ctx tgt := by
  unfold conclude
  simp only
  cases hrefusal : refusal kind (trace.filterMap Outcome.item?) with
  | some reason =>
    constructor
    · rintro ⟨d, hd, hallo⟩
      cases hd
      cases hallo
    · rintro ⟨⟨hallow, hg⟩, -⟩
      rw [refusal_eq_none.2 ⟨fun item hi => (hallow item hi).1, hg⟩] at hrefusal
      cases hrefusal
  | none =>
    obtain ⟨hallow, hg⟩ := refusal_eq_none.1 hrefusal
    rw [filter_allow_eq_self hallow]
    constructor
    · rintro ⟨d, hd, hallo⟩
      obtain ⟨pol, hpoli, hd⟩ := bind_eq_ok.1 hd
      cases hd
      obtain ⟨hverdict, ha⟩ := policyVerdict_eq_allow.1 (of_decide_eq_true hallo)
      exact ⟨⟨fun item hi => ⟨hallow item hi, ha item hi⟩, hg⟩,
        pol, hpoli, hverdict⟩
    · rintro ⟨⟨hitems, -⟩, pol, hpoli, hverdict⟩
      refine ⟨_, bind_eq_ok.2 ⟨pol, hpoli, rfl⟩, decide_eq_true ?_⟩
      exact policyVerdict_eq_allow.2 ⟨hverdict, fun item hi => (hitems item hi).2⟩

/-- The assignment matches a request. -/
structure RoleAssignment.Matches (h : Host) (db : Database) (target : Scope) (context : Entries)
    (action : String) (row : RoleAssignment) : Prop where
  scope : (assignmentScopeMatches h row target (context.inner "resource")).1 = true
  inherits : (assignmentScopeMatches h row target (context.inner "resource")).2 = true →
    row.staysInScope db = false
  condition : row.conditions.evaluate h.rt context = .ok true
  permission : row.grants db action = true

/-- What the answer shows of a matching assignment. -/
def RoleAssignment.item (h : Host) (target : Scope) (context : Entries) (row : RoleAssignment)
    (id : ℕ) : Item :=
  ⟨id, row.subject, row.roleId, row.effect,
    (assignmentScopeMatches h row target (context.inner "resource")).2, row.approvalRequired⟩

theorem caughtRaised_eq_ok {α : Type} {x : Except Raised α} {a : α} :
    caughtRaised x = .ok a ↔ x = .ok a := by
  cases x <;> simp [caughtRaised]

theorem matchRow_eq_matched {item : Item} :
    matchRow h db tgt ctx act (id, row) = .ok (.matched item)
      ↔ row.Matches h db tgt ctx act ∧ item = row.item h tgt ctx id := by
  unfold matchRow
  simp only
  constructor
  · intro hm
    split at hm
    · cases hm
    next hsc =>
    split at hm
    · cases hm
    next hinhe =>
    obtain ⟨holds, hholds, hm⟩ := bind_eq_ok.1 hm
    split at hm
    · cases hm
    next hc =>
    split at hm
    · cases hm
    next hp =>
    cases hm
    simp only [Bool.not_eq_true', Bool.not_eq_false] at hsc hc hp
    refine ⟨⟨hsc, fun hinherits => ?_, ?_, hp⟩, rfl⟩
    · exact Bool.eq_false_iff.2 fun hs => hinhe ⟨hinherits, hs⟩
    · rw [caughtRaised_eq_ok.1 hholds, hc]
  · rintro ⟨⟨hsc, hinhe, hc, hp⟩, rfl⟩
    have hs : ¬((assignmentScopeMatches h row tgt (ctx.inner "resource")).2 = true
        ∧ row.staysInScope db = true) := by
      rintro ⟨hinherits, hs⟩
      rw [hinhe hinherits] at hs
      cases hs
    rw [if_neg (by simp [hsc]), if_neg hs, caughtRaised_eq_ok.2 hc]
    simp [bind, Except.bind, hp, pure, Except.pure, RoleAssignment.item]

/-- The assignments of an actor and the policies let a request pass. -/
structure Granted (h : Host) (db : Database) (now : ℤ) (actor : Actor) (action : String)
    (target : Scope) (context : Entries) : Prop where
  evaluable : ∀ entry ∈ activeAssignments db (subjects db actor) now,
    ∃ outcome, matchRow h db target context action entry = .ok outcome
  allow : ∀ entry ∈ activeAssignments db (subjects db actor) now,
    entry.2.Matches h db target context action →
      entry.2.effect = .allow ∧ entry.2.approvalRequired = false
  granted : ∃ entry ∈ activeAssignments db (subjects db actor) now,
    entry.2.Matches h db target context action
      ∧ (actor.kind = .api → entry.2.subject.type ≠ .apiToken)
  policies : PoliciesAllow h db now context target

/-- The items of the loop are those of the matching assignments. -/
theorem mem_items {es : List (ℕ × RoleAssignment)}
    (ht : es.mapM (matchRow h db tgt ctx act) = .ok trace) (item : Item) :
    item ∈ trace.filterMap Outcome.item?
      ↔ ∃ ent ∈ es, ent.2.Matches h db tgt ctx act
        ∧ item = ent.2.item h tgt ctx ent.1 := by
  rw [List.mem_filterMap]
  constructor
  · rintro ⟨out, hmem, hi⟩
    obtain ⟨ent, he, hmatches⟩ := Fallible.mem_of_mapM ht hmem
    cases out with
    | unmatched id reason => cases hi
    | matched item' =>
      cases hi
      exact ⟨ent, he, matchRow_eq_matched.1 hmatches⟩
  · rintro ⟨ent, he, hm, hi⟩
    obtain ⟨out, hmem, hmatches⟩ := Fallible.ok_of_mem_mapM ht he
    rw [matchRow_eq_matched.2 ⟨hm, hi⟩] at hmatches
    exact ⟨out, hmem, by cases hmatches; rfl⟩

theorem granted_iff :
    Granted h db now actor act tgt ctx
      ↔ ∃ trace, (activeAssignments db (subjects db actor) now).mapM
          (matchRow h db tgt ctx act) = .ok trace
        ∧ ItemsAllow actor.kind (trace.filterMap Outcome.item?)
        ∧ PoliciesAllow h db now ctx tgt := by
  constructor
  · rintro ⟨hevaluable, hallow, ⟨ent, he, hm, ht⟩, hp⟩
    obtain ⟨trace, htrace⟩ := Fallible.exists_mapM hevaluable
    refine ⟨trace, htrace, ⟨fun item hi => ?_, ?_⟩, hp⟩
    · obtain ⟨ent', he', hm', rfl⟩ := (mem_items htrace item).1 hi
      exact hallow ent' he' hm'
    · exact ⟨_, (mem_items htrace _).2 ⟨ent, he, hm, rfl⟩, ht⟩
  rintro ⟨trace, htrace, ⟨hallow, ⟨item, hi, ht⟩⟩, hp⟩
  refine ⟨fun ent he => ?_, fun ent he hm => ?_, ?_, hp⟩
  · obtain ⟨out, -, hmatches⟩ := Fallible.ok_of_mem_mapM htrace he
    exact ⟨out, hmatches⟩
  · exact hallow _ ((mem_items htrace _).2 ⟨ent, he, hm, rfl⟩)
  · obtain ⟨ent, he, hm, rfl⟩ := (mem_items htrace item).1 hi
    exact ⟨ent, he, hm, ht⟩

theorem decideFor_allows_iff :
    (∃ d, decideFor h db now actor act tgt res extra = .ok d ∧ d.allowed = true)
      ↔ (actor.kind = .api → anyMatches actor.scopes act = true)
        ∧ ((activeBreakGlass db now actor).isSome = true
          ∨ Granted h db now actor act tgt (evaluationContext h tgt actor res extra act)) := by
  unfold decideFor
  by_cases hceiling : actor.kind = .api ∧ (!anyMatches actor.scopes act) = true
  · rw [if_pos hceiling]
    refine iff_of_false (fun ⟨d, hd, hallo⟩ => ?_) fun ⟨hm, _⟩ => ?_
    · cases hd
      cases hallo
    · simp [hm hceiling.1] at hceiling
  rw [if_neg hceiling]
  have hm : actor.kind = .api → anyMatches actor.scopes act = true := by
    intro hk
    by_contra hno
    exact hceiling ⟨hk, by simpa using hno⟩
  cases hglass : activeBreakGlass db now actor with
  | some grant => exact iff_of_true ⟨_, rfl, rfl⟩ ⟨hm, .inl rfl⟩
  | none =>
    have hg : (∃ d, (do
          let trace ← (activeAssignments db (subjects db actor) now).mapM
            (matchRow h db tgt (evaluationContext h tgt actor res extra act) act)
          conclude h db now actor.kind tgt
            (evaluationContext h tgt actor res extra act) trace) = .ok d
          ∧ d.allowed = true)
        ↔ Granted h db now actor act tgt (evaluationContext h tgt actor res extra act) := by
      rw [granted_iff]
      constructor
      · rintro ⟨d, hd, hallo⟩
        obtain ⟨trace, ht, hc⟩ := bind_eq_ok.1 hd
        exact ⟨trace, ht, conclude_allows_iff.1 ⟨d, hc, hallo⟩⟩
      · rintro ⟨trace, ht, hallows⟩
        obtain ⟨d, hc, hallo⟩ := conclude_allows_iff.2 hallows
        exact ⟨d, bind_eq_ok.2 ⟨trace, ht, hc⟩, hallo⟩
    simp only [hg, Option.isSome_none, Bool.false_eq_true, false_or]
    exact (and_iff_right hm).symm

/-- An answer that is not DENY. -/
theorem decideFor_not_deny (hceiling : actor.kind = .api → anyMatches actor.scopes act = true)
    (hallow : ∀ ent ∈ activeAssignments db (subjects db actor) now,
      ent.2.Matches h db tgt (evaluationContext h tgt actor res extra act) act →
        ent.2.effect = .allow)
    (hg : ∃ ent ∈ activeAssignments db (subjects db actor) now,
      ent.2.Matches h db tgt (evaluationContext h tgt actor res extra act) act
        ∧ (actor.kind = .api → ent.2.subject.type ≠ .apiToken))
    (hp : ∀ pol, policyDecision h db now
      (evaluationContext h tgt actor res extra act) tgt = .ok pol →
        (pol.map (·.decision)).getD .allow ≠ Engine.Decision.deny)
    (hd : decideFor h db now actor act tgt res extra = .ok d) : d.decision ≠ .deny := by
  unfold decideFor at hd
  rw [if_neg fun hno => by simp [hceiling hno.1] at hno] at hd
  split at hd
  · cases hd
    exact nofun
  obtain ⟨trace, htrace, hd⟩ := bind_eq_ok.1 hd
  have hrefusal : refusal actor.kind (trace.filterMap Outcome.item?) = none := by
    refine refusal_eq_none.2 ⟨fun item hi => ?_, ?_⟩
    · obtain ⟨ent, he, hm, rfl⟩ := (mem_items htrace item).1 hi
      exact hallow ent he hm
    · obtain ⟨ent, he, hm, ht⟩ := hg
      exact ⟨_, (mem_items htrace _).2 ⟨ent, he, hm, rfl⟩, ht⟩
  unfold conclude at hd
  simp only [hrefusal] at hd
  obtain ⟨pol, hpoli, hd⟩ := bind_eq_ok.1 hd
  cases hd
  unfold policyVerdict
  simp only [hp pol hpoli, if_false]
  split <;> decide

/-- What an answer other than DENY rests on. -/
theorem granted_of_not_deny (hglass : activeBreakGlass db now actor = none)
    (hd : decideFor h db now actor act tgt res extra = .ok d)
    (hdeny : d.decision ≠ .deny) :
    (actor.kind = .api → anyMatches actor.scopes act = true)
      ∧ (∀ ent ∈ activeAssignments db (subjects db actor) now,
        ent.2.Matches h db tgt (evaluationContext h tgt actor res extra act) act →
          ent.2.effect = .allow)
      ∧ ∃ ent ∈ activeAssignments db (subjects db actor) now,
        ent.2.Matches h db tgt (evaluationContext h tgt actor res extra act) act
          ∧ (actor.kind = .api → ent.2.subject.type ≠ .apiToken) := by
  unfold decideFor at hd
  split at hd
  · cases hd
    exact absurd rfl hdeny
  next hceiling =>
  rw [hglass] at hd
  obtain ⟨trace, htrace, hd⟩ := bind_eq_ok.1 hd
  refine ⟨fun hk => ?_, ?_⟩
  · by_contra hno
    exact hceiling ⟨hk, by simpa using hno⟩
  unfold conclude at hd
  cases hrefusal : refusal actor.kind (trace.filterMap Outcome.item?) with
  | some reason =>
    simp only [hrefusal] at hd
    cases hd
    exact absurd rfl hdeny
  | none =>
    obtain ⟨hallow, item, hi, ht⟩ := refusal_eq_none.1 hrefusal
    obtain ⟨ent, he, hm, rfl⟩ := (mem_items htrace item).1 hi
    exact ⟨fun ent he hm => hallow _ ((mem_items htrace _).2 ⟨ent, he, hm, rfl⟩), ent, he, hm, ht⟩

/-- `authorize` answers ALLOW. -/
def Authorizes (h : Host) (db : Database) (now : ℤ) (caller : Caller) (action : String)
    (scope resource extra : Entries) (write : Bool) : Prop :=
  ∃ d, authorize h db now caller action scope resource extra write = .ok d ∧ d.allowed = true

theorem authorizes_iff {caller : Caller} {scope : Entries} {write : Bool} :
    Authorizes h db now caller act scope res extra write
      ↔ act ∈ allPermissions ∧ ∃ tgt actor identity,
        normalizeScope h scope = .ok tgt ∧ validateScopeResource h db tgt write = .ok ()
          ∧ resolve db now caller = .ok (actor, identity)
          ∧ (actor.kind = .api → anyMatches actor.scopes act = true)
          ∧ ((activeBreakGlass db now actor).isSome = true
            ∨ Granted h db now actor act tgt (evaluationContext h tgt actor res extra act)) := by
  unfold Authorizes authorize
  by_cases ha : act ∈ allPermissions
  · simp only [ha, not_true_eq_false, if_false, true_and]
    constructor
    · rintro ⟨d, hd, hallo⟩
      simp only [bind_eq_ok] at hd
      obtain ⟨tgt, hg, ⟨⟩, hv, ⟨actor, identity⟩, hr, hd⟩ := hd
      exact ⟨tgt, actor, identity, hg, hv, hr,
        decideFor_allows_iff.1 ⟨d, hd, hallo⟩⟩
    · rintro ⟨tgt, actor, identity, hg, hv, hr, hallows⟩
      obtain ⟨d, hd, hallo⟩ := decideFor_allows_iff.2 hallows
      exact ⟨d, bind_eq_ok.2 ⟨tgt, hg, bind_eq_ok.2 ⟨(), hv,
        bind_eq_ok.2 ⟨(actor, identity), hr, hd⟩⟩⟩, hallo⟩
  · refine iff_of_false (fun ⟨d, hd, _⟩ => ?_) fun h => ha h.1
    rw [if_pos ha] at hd
    cases hd

end Allows

end CloudPortal.Iam
