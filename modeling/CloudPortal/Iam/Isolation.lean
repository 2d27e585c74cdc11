/-
CloudPortal/Iam/Isolation.lean

What is bound to one tenant does not show in another.

An assignment that is bound to another tenant than that of the target is passed over before
its condition is evaluated: its tenant is compared, or its project is, and the project of a
target that exists belongs to the tenant of the target.  Policies of other tenants are not
loaded.  The trace of an answer lists also the assignments that were passed over, so
answers are compared without it.
-/
import CloudPortal.Iam.Routes

namespace CloudPortal.Iam

open Document RowStore Transition

/-! ### What belongs to other tenants -/

/-- The assignment is bound to a tenant other than this one, and its project, if it has one,
belongs to the tenant that it names. -/
def RoleAssignment.foreign (db : Database) (tenantId : String) (row : RoleAssignment) : Bool :=
  (present row.tenantId).any (· ≠ tenantId) && row.scopeType ≠ .global
    && (present row.projectId).all fun projectId =>
      (db.projects.find? projectId).all fun project => row.tenantId = some project.tenantId

/-- The policy is bound to a tenant other than this one. -/
def foreignPolicy (tenantId : String) (policy : Engine.Policy) : Bool :=
  policy.tenantId.any (· ≠ tenantId)

/-- The database with other assignments and policies. -/
def Database.withGrants (db : Database) (assignments : Table ℕ RoleAssignment)
    (policies : List Engine.Policy) : Database :=
  { db with assignments := assignments, policies := policies }

/-- They differ in what is bound to other tenants. -/
structure SameFor (tenantId : String) (db : Database) (assignments : Table ℕ RoleAssignment)
    (policies : List Engine.Policy) : Prop where
  rows : (assignments.select fun _ row => !row.foreign db tenantId)
    = db.assignments.select fun _ row => !row.foreign db tenantId
  policies : policies.filter (!foreignPolicy tenantId ·)
    = db.policies.filter (!foreignPolicy tenantId ·)

/-- The answer without the assignments that were passed over. -/
def AuthorizationDecision.answer (decision : AuthorizationDecision) : AuthorizationDecision :=
  { decision with trace := [] }

section Foreign

variable {h : Host} {db : Database} {now : ℤ} {tgt : Scope} {context : Entries} {write : Bool}
  {act ten : String} {row : RoleAssignment} {ass : Table ℕ RoleAssignment}
  {pols : List Engine.Policy}

/-- The project of a target that exists belongs to the organization of the target. -/
theorem project_of_valid (hval : validateScopeResource h db tgt write = .ok ())
    {proj : String} (hp : tgt.projectId = some proj) :
    ∃ pj, db.projects.find? proj = some pj
      ∧ tgt.tenantId = some pj.tenantId := by
  unfold validateScopeResource at hval
  rw [hp] at hval
  cases hf : db.projects.find? proj with
  | none => simp [hf] at hval
  | some pj =>
    refine ⟨pj, rfl, ?_⟩
    simp only [hf, Option.filter_some] at hval
    by_cases hs : some pj.tenantId = tgt.tenantId
    · exact hs.symm
    · simp [hs] at hval

/-- What follows the loop looks at the assignments that match. -/
theorem conclude_answer {kind : Kind} {trace trace' : List Outcome}
    (htrace : trace.filterMap Outcome.item? = trace'.filterMap Outcome.item?)
    (hp : accessPolicies (db.withGrants ass pols) tgt = accessPolicies db tgt) :
    (conclude h (db.withGrants ass pols) now kind tgt context trace).map
        AuthorizationDecision.answer
      = (conclude h db now kind tgt context trace').map AuthorizationDecision.answer := by
  have hpolicy : policyDecision h (db.withGrants ass pols) now context tgt
      = policyDecision h db now context tgt := by
    unfold policyDecision
    rw [hp]
    rfl
  unfold conclude
  simp only [htrace, hpolicy]
  split
  · rfl
  cases policyDecision h db now context tgt with
  | error e => rfl
  | ok policy => rfl

variable (htenant : tgt.tenantId = some ten)
include htenant

theorem RoleAssignment.foreign_unmatched (hforeign : row.foreign db ten = true)
    (hvalid : validateScopeResource h db tgt write = .ok ()) (res : Entries) :
    (assignmentScopeMatches h row tgt res).1 = false := by
  simp only [RoleAssignment.foreign, Bool.and_eq_true, Option.any_eq_true, Option.all_eq_true,
    decide_eq_true_iff] at hforeign
  obtain ⟨⟨⟨other, hother, hn⟩, hglobal⟩, hproject⟩ := hforeign
  have hdiffers : decide (tgt.tenantId = some other) = false := by
    rw [htenant]
    exact decide_eq_false fun he => hn (Option.some.inj he).symm
  have ho : row.matchesOwner tgt = false := by
    rw [RoleAssignment.matchesOwner, hother, Option.all_some, hdiffers, Bool.false_and]
  unfold assignmentScopeMatches
  cases ht : row.scopeType with
  | global => exact absurd ht hglobal
  | organization => simp only [hother, Option.any_some, hdiffers, Bool.false_and]
  | project =>
    -- the project of the target belongs to another tenant than that of the assignment
    refine Bool.eq_false_iff.2 fun hm => ?_
    simp only [Bool.and_eq_true, Option.any_eq_true, decide_eq_true_iff] at hm
    obtain ⟨⟨proj, hr, htarget⟩, -⟩ := hm
    obtain ⟨project, hf, howned⟩ := project_of_valid hvalid htarget
    rw [hproject proj hr project hf, ← howned, htenant] at hother
    exact hn (nonEmpty_eq_some.1 hother).2.symm
  | _ => simp only [ho, Bool.and_false, Bool.false_and]

variable (hsame : SameFor ten db ass pols)
include hsame

theorem accessPolicies_withGrants :
    accessPolicies (db.withGrants ass pols) tgt = accessPolicies db tgt := by
  -- what is loaded is not bound to another tenant
  have hlocal (all : List Engine.Policy) : accessPolicies { db with policies := all } tgt
      = accessPolicies { db with policies := all.filter (!foreignPolicy ten ·) } tgt := by
    unfold accessPolicies
    rw [List.filter_filter]
    refine List.filter_congr fun pol _ => ?_
    cases ho : pol.tenantId with
    | none => simp [foreignPolicy, ho]
    | some other =>
      by_cases hother : other = ten
      · simp [foreignPolicy, ho, hother]
      · simp [htenant, Ne.symm hother]
  calc accessPolicies (db.withGrants ass pols) tgt
      = accessPolicies { db with policies := pols } tgt := rfl
    _ = accessPolicies { db with policies := db.policies } tgt := by
        rw [hlocal, hsame.policies, ← hlocal]
    _ = accessPolicies db tgt := rfl

theorem decideFor_withGrants {actor : Actor} {res extra : Entries}
    (hvalid : validateScopeResource h db tgt write = .ok ()) :
    (decideFor h (db.withGrants ass pols) now actor act tgt res extra).map
        AuthorizationDecision.answer
      = (decideFor h db now actor act tgt res extra).map AuthorizationDecision.answer := by
  have hr : (activeAssignments (db.withGrants ass pols) (subjects db actor) now).filter
        (fun entry => !entry.2.foreign db ten)
      = (activeAssignments db (subjects db actor) now).filter
          (fun entry => !entry.2.foreign db ten) := by
    have hsplit (table : Table ℕ RoleAssignment) :
        (activeAssignments (db.withGrants table pols) (subjects db actor) now).filter
            (fun entry => !entry.2.foreign db ten)
          = (table.select fun _ row => !row.foreign db ten).filter
            fun entry => entry.2.subject ∈ subjects db actor && entry.2.active now :=
      List.filter_comm ..
    rw [hsplit, hsame.rows, ← hsplit]
    rfl
  let context := evaluationContext h tgt actor res extra act
  have hl (rows : List (ℕ × RoleAssignment)) :
      (rows.mapM (matchRow h db tgt context act)).map (List.filterMap Outcome.item?)
        = ((rows.filter fun entry => !entry.2.foreign db ten).mapM
            (matchRow h db tgt context act)).map (List.filterMap Outcome.item?) :=
    Fallible.mapM_filterMap fun entry _ hlocal => by
      refine ⟨.unmatched entry.1 .scope, ?_, rfl⟩
      simp only [matchRow, RoleAssignment.foreign_unmatched htenant (by simpa using hlocal) hvalid]
      rfl
  have hitems := hl (activeAssignments (db.withGrants ass pols) (subjects db actor) now)
  rw [hr, ← hl] at hitems
  unfold decideFor
  split
  · rfl
  rw [show activeBreakGlass (db.withGrants ass pols) now actor
    = activeBreakGlass db now actor from rfl]
  split
  · rfl
  exact Fallible.bind_view hitems fun trace trace' _ _ hs' =>
    conclude_answer hs' (accessPolicies_withGrants htenant hsame)

end Foreign

/-- Assignments and policies that are bound to other tenants do not change an answer in a tenant. -/
theorem tenant_isolation (h : Host) (db : Database) (assignments : Table ℕ RoleAssignment)
    (policies : List Engine.Policy) (now : ℤ) (caller : Caller) (action : String)
    (scope resource extra : Entries) (write : Bool) (tenantId : String)
    (hsame : SameFor tenantId db assignments policies)
    (htarget : ∀ target, normalizeScope h scope = .ok target → target.tenantId = some tenantId) :
    (authorize h (db.withGrants assignments policies) now caller action scope resource extra
        write).map AuthorizationDecision.answer
      = (authorize h db now caller action scope resource extra write).map
        AuthorizationDecision.answer := by
  unfold authorize
  split
  · rfl
  refine Fallible.bind_view (v := id) rfl fun target _ hscope _ he => ?_
  subst he
  refine Fallible.bind_view (v := id) rfl fun _ _ hv _ _ => ?_
  refine Fallible.bind_view (v := id) rfl fun found _ _ _ he => ?_
  subst he
  exact decideFor_withGrants (htarget target hscope) hsame hv

/-! ### A managed organization -/

/-- An administrator, an organization, and two groups of it with a member each. -/
def organizationDatabase : Database where
  users := ((Table.empty.put 1 {}).put 2 {}).put 3 {}
  tokens := (Table.empty.put 10 { userId := 1 }).put 20 { userId := 2 }
  roles := (Table.empty.put 1 ⟨systemAdminBasePermissions⟩).put 2
    ⟨["rbac.assignments.manage", "users.read"]⟩
  userRoles := [(1, 1)]
  groups := (Table.empty.put "managers" {}).put "readers" {}
  members := [("managers", 2), ("readers", 3)]
  tenants := Table.empty.put "acme" {}

/-- The role of those who manage assignments, for a group. -/
def managerAssignment (scope : ScopeInput) (groupId : String) : AssignmentCreate where
  scope := scope
  subject := ⟨.group, groupId⟩
  roleId := 2

def acmeScope : ScopeInput where
  scopeType := .organization
  tenantId := some "acme"

/-- The database after somebody has made an assignment. -/
def assigned (db : Database) (tokenId : ℕ) (data : AssignmentCreate) : Database :=
  attempt (perform .plain · ⟨tokenId, 0, []⟩) db (.createAssignment data)

/-- The administrator lets a group manage the organization. -/
def managedDatabase : Database :=
  assigned organizationDatabase 10 (managerAssignment acmeScope "managers")

/-- What the managers of the organization may not do in another one. -/
def deniedElsewhere : RoleAssignment where
  subject := ⟨.group, "managers"⟩
  roleId := 2
  effect := .deny
  scopeType := .organization
  tenantId := some "globex"

/-- A denial in another organization leaves the answer for the manager as it was. -/
theorem tenant_isolation_manager :
    (authorize .plain (managedDatabase.withGrants
        (managedDatabase.assignments.put 2 deniedElsewhere) []) 0 (.token 20) "users.read"
        acmeScope.entries [] [] false).map AuthorizationDecision.answer
      = (authorize .plain managedDatabase 0 (.token 20) "users.read" acmeScope.entries [] []
        false).map AuthorizationDecision.answer :=
  tenant_isolation .plain managedDatabase _ [] 0 (.token 20) "users.read" acmeScope.entries [] [] false
    "acme" ⟨rfl, rfl⟩ (by rintro _ ⟨⟩; rfl)

end CloudPortal.Iam
