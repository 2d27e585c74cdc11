/-
CloudPortal/Iam/Administrator.lean

The administrator bypass (`is_system_administrator` in `app/iam/service.py`) against the
decision procedure that it stands in for.

The bypass takes the permissions of legacy roles as they are, and of the assignments only
the unconditional ones at global scope.  `authorize` knows no legacy roles, honours
conditional denials and does not let an API token be a source of privileges.

* `BypassSound`: what the bypass leaves out agrees with it, for one permission and request: no
  denial that it does not see matches, and what legacy roles or an API token itself grant is
  granted to the owner by an assignment.
* `administrator_not_denied`: where the bypass holds, `authorize` does not answer DENY exactly then.
* `conditional_denial_bypassed`: an administrator to whom a conditional assignment denies
  the reading of users.
-/
import CloudPortal.Iam.Authorize
import CloudPortal.Policy.NonInterference

namespace CloudPortal.Iam

open Document RowStore Transition

/-- `SYSTEM_ADMIN_BASE_PERMISSIONS`. -/
def systemAdminBasePermissions : List String := [
  "users.read", "roles.read", "groups.read", "rbac.assignments.read", "rbac.assignments.manage",
  "tenants.admin", "projects.admin", "organizations.read"]

/-- The permissions that an assignment stands for, within the ceilings. -/
def expandedPermissions (db : Database) (actor : Actor) (row : RoleAssignment) : List String :=
  ((roleGrants db row.roleId).1
      ++ allPermissions.filter (anyMatches (roleGrants db row.roleId).2)).filter fun permission =>
    row.permissionCeiling.all (anyMatches · permission)
      && (actor.kind ≠ .api || anyMatches actor.scopes permission)

/-- The assignments that `is_system_administrator` looks at. -/
def globalAssignments (db : Database) (actor : Actor) (now : ℤ) : List (ℕ × RoleAssignment) :=
  (activeAssignments db (subjects db actor) now).filter fun (_, row) =>
    row.scopeType = .global && !row.conditions.present

/-- The permissions of the global assignments with an effect. -/
def globalPermissions (db : Database) (actor : Actor) (now : ℤ) (effect : GrantEffect) :
    List String :=
  ((globalAssignments db actor now).filter (·.2.effect = effect)).flatMap fun (_, row) =>
    expandedPermissions db actor row

/-- `is_system_administrator`. -/
def isSystemAdministrator (db : Database) (now : ℤ) (tokenId : ℕ) : Bool :=
  match identify db now tokenId with
  | .error _ => false
  | .ok (actor, identity) =>
    systemAdminBasePermissions.all (· ∈ identity.globalPermissions)
      || systemAdminBasePermissions.all fun permission =>
        permission ∈ globalPermissions db actor now .allow
          && permission ∉ globalPermissions db actor now .deny

/-! ### Global scope -/

variable {ctx : Entries} {row : RoleAssignment}

section Global

variable {h : Host} {db : Database} {actor : Actor} {act : String}

/-- `{'scope_type': 'GLOBAL'}`. -/
def globalScope : Entries := [("scope_type", .text "GLOBAL")]

theorem normalizeScope_globalScope : normalizeScope h globalScope = .ok {} := by
  have hupper : h.upper "GLOBAL" = "GLOBAL" := h.upper_scopeType .global
  have hn : truthyText h globalScope ["scope_type", "type"] = some "GLOBAL" := rfl
  unfold normalizeScope
  simp only [hn, Option.getD_some, hupper]
  rfl

theorem evaluate_of_not_present {conds : Engine.Condition}
    (hn : conds.present = false) : conds.evaluate h.rt ctx = .ok true := by
  cases conds with
  | always => rfl
  | _ => cases hn

/-- A global assignment without a condition matches for the permissions that it stands for. -/
theorem matches_global_iff (ht : row.scopeType = .global) (hc : row.conditions.present = false) :
    row.Matches h db {} ctx act ↔ row.grants db act = true := by
  refine ⟨fun hm => hm.permission, fun hg => ⟨?_, ?_, ?_, hg⟩⟩
  · simp [assignmentScopeMatches, ht]
  · simp [assignmentScopeMatches, ht]
  · exact evaluate_of_not_present hc

theorem mem_expandedPermissions (ha : act ∈ allPermissions)
    (hceiling : actor.kind = .api → anyMatches actor.scopes act = true) :
    act ∈ expandedPermissions db actor row ↔ row.grants db act = true := by
  have htoken : (decide (actor.kind ≠ .api) || anyMatches actor.scopes act) = true := by
    by_cases hk : actor.kind = .api
    · rw [hceiling hk, Bool.or_true]
    · simp [hk]
  unfold expandedPermissions RoleAssignment.grants
  rw [List.mem_filter, htoken, Bool.and_true, List.mem_append, List.mem_filter, Bool.and_eq_true,
    Bool.or_eq_true, decide_eq_true_iff]
  simp only [ha, true_and]

end Global

/-! ### Soundness -/

/-- The roles of the user suffice, within the scopes of the token. -/
def LegacyAdministrator (db : Database) (token : Token) : Prop :=
  ∀ permission ∈ systemAdminBasePermissions, permission ∈ (token.identity db).globalPermissions

/-- The bypass may stand in for the decision procedure, for a permission and a request. -/
structure BypassSound (h : Host) (db : Database) (now : ℤ) (tokenId : ℕ) (token : Token)
    (user : User) (context : Entries) (permission : String) : Prop where
  /-- denials that it does not see: with a condition, of another scope, or all where roles
  suffice -/
  denials : ∀ entry ∈ activeAssignments db (subjects db (token.actor tokenId user)) now,
    entry.2.effect = .deny →
      entry.2.conditions.present = true ∨ entry.2.scopeType ≠ .global
        ∨ LegacyAdministrator db token →
      ¬entry.2.Matches h db {} context permission
  /-- grants that it takes as they are: of legacy roles, and of an API token itself -/
  grants : LegacyAdministrator db token ∨ token.kind = .api →
    ∃ entry ∈ activeAssignments db (subjects db (token.actor tokenId user)) now,
      entry.2.effect = .allow ∧ entry.2.Matches h db {} context permission
        ∧ (token.kind = .api → entry.2.subject.type ≠ .apiToken)

section Soundness

variable {h : Host} {db : Database} {now : ℤ} {tid : ℕ} {token : Token} {user : User}
  {perm : String}

theorem base_subset_allPermissions :
    ∀ perm ∈ systemAdminBasePermissions, perm ∈ allPermissions := by
  decide +kernel

theorem mem_globalPermissions {actor : Actor} {eff : GrantEffect} :
    perm ∈ globalPermissions db actor now eff
      ↔ ∃ ent ∈ activeAssignments db (subjects db actor) now, ent.2.effect = eff
        ∧ ent.2.scopeType = .global ∧ ent.2.conditions.present = false
        ∧ perm ∈ expandedPermissions db actor ent.2 := by
  unfold globalPermissions globalAssignments
  simp only [List.mem_flatMap, List.mem_filter, Bool.and_eq_true, decide_eq_true_iff,
    Bool.not_eq_true']
  constructor
  · rintro ⟨ent, ⟨⟨he, ht, hc⟩, heffect⟩, hm⟩
    exact ⟨ent, he, heffect, ht, hc, hm⟩
  · rintro ⟨ent, he, heffect, ht, hc, hm⟩
    exact ⟨ent, ⟨⟨he, ht, hc⟩, heffect⟩, hm⟩

/-- The permission, as the procedure sees it: the ceiling has it, what matches allows it, and
something does that is not for the token. -/
structure Holds (h : Host) (db : Database) (now : ℤ) (actor : Actor) (context : Entries)
    (permission : String) : Prop where
  ceiling : actor.kind = .api → anyMatches actor.scopes permission = true
  undenied : ∀ entry ∈ activeAssignments db (subjects db actor) now,
    entry.2.Matches h db {} context permission → entry.2.effect = .allow
  granted : ∃ entry ∈ activeAssignments db (subjects db actor) now,
    entry.2.Matches h db {} context permission
      ∧ (actor.kind = .api → entry.2.subject.type ≠ .apiToken)

section

variable (hsound : BypassSound h db now tid token user ctx perm)
include hsound

/-- The first way to the bypass. -/
theorem holds_of_legacy (hlegacy : LegacyAdministrator db token)
    (hbase : perm ∈ systemAdminBasePermissions) :
    Holds h db now (token.actor tid user) ctx perm where
  ceiling := fun hk => by
    have hin := hlegacy perm hbase
    unfold Token.identity at hin
    rw [if_pos (show token.kind = .api from hk)] at hin
    exact List.any_eq_true.2
      ⟨perm, of_decide_eq_true (List.mem_filter.1 hin).2, by simp [grantMatches]⟩
  undenied := fun ent he hm => by
    cases heffect : ent.2.effect with
    | allow => rfl
    | deny => exact absurd hm (hsound.denials ent he heffect (.inr (.inr hlegacy)))
  granted := by
    obtain ⟨ent, he, -, hm, ht⟩ := hsound.grants (.inl hlegacy)
    exact ⟨ent, he, hm, ht⟩

/-- The second way to the bypass. -/
theorem holds_of_assignments (hbase : perm ∈ systemAdminBasePermissions)
    (hgranted : perm ∈ globalPermissions db (token.actor tid user) now .allow)
    (hdenied : perm ∉ globalPermissions db (token.actor tid user) now .deny) :
    Holds h db now (token.actor tid user) ctx perm := by
  have ha := base_subset_allPermissions perm hbase
  obtain ⟨ent, he, heffect, ht, hc, hm⟩ := mem_globalPermissions.1 hgranted
  have hceiling : (token.actor tid user).kind = .api →
      anyMatches (token.actor tid user).scopes perm = true := by
    intro hk
    have hfilter := (List.mem_filter.1 hm).2
    simpa [hk] using (Bool.and_eq_true_iff.1 hfilter).2
  refine ⟨hceiling, fun ent' he' hm' => ?_, ?_⟩
  · cases heffect' : ent'.2.effect with
    | allow => rfl
    | deny =>
      -- a denial that matches is one that the bypass has seen
      refine absurd hm' (hsound.denials ent' he' heffect' ?_)
      by_contra hseen
      push Not at hseen
      exact hdenied (mem_globalPermissions.2 ⟨ent', he', heffect', hseen.2.1,
        Bool.eq_false_of_not_eq_true hseen.1, (mem_expandedPermissions ha hceiling).2 hm'.permission⟩)
  · by_cases hk : token.kind = .api
    · obtain ⟨ent, he, -, hm, ht⟩ := hsound.grants (.inr hk)
      exact ⟨ent, he, hm, ht⟩
    · exact ⟨ent, he, (matches_global_iff ht hc).2 ((mem_expandedPermissions ha hceiling).1 hm),
        fun h => absurd h hk⟩

end

theorem holds_of_isSystemAdministrator (hauthenticates : Authenticates db now tid token user)
    (hadmin : isSystemAdministrator db now tid = true)
    (hbase : perm ∈ systemAdminBasePermissions)
    (hsound : BypassSound h db now tid token user ctx perm) :
    Holds h db now (token.actor tid user) ctx perm := by
  unfold isSystemAdministrator at hadmin
  simp only [hauthenticates.identify, Bool.or_eq_true, List.all_eq_true] at hadmin
  rcases hadmin with hlegacy | hassignments
  · exact holds_of_legacy hsound (fun other ho => of_decide_eq_true (hlegacy other ho)) hbase
  · have hboth := hassignments perm hbase
    rw [Bool.and_eq_true, decide_eq_true_iff, decide_eq_true_iff] at hboth
    exact holds_of_assignments hsound hbase hboth.1 hboth.2

/-- Policies that are only tried out deny nothing. -/
theorem policyDecision_ne_deny {tgt : Scope}
    (hpolicies : ∀ pol ∈ db.policies, pol.policyType = .access → pol.status ≠ .enforced)
    {pol : Option Engine.Evaluation}
    (hp : policyDecision h db now ctx tgt = .ok pol) :
    (pol.map (·.decision)).getD .allow ≠ Engine.Decision.deny := by
  unfold policyDecision at hp
  simp only at hp
  split at hp
  · cases hp
    exact nofun
  obtain ⟨res, hresu, hp⟩ := bind_eq_ok.1 hp
  cases hp
  have hn : (accessPolicies db tgt).filter Engine.Policy.isEnforced = [] := by
    refine List.filter_eq_nil_iff.2 fun pol hm henforced => ?_
    obtain ⟨hm, ht⟩ := List.mem_filter.1 hm
    simp only [Bool.and_eq_true, decide_eq_true_iff] at ht
    exact hpolicies pol hm ht.1.1.1 (of_decide_eq_true henforced)
  obtain ⟨res', hresu', hagree⟩ :=
    Engine.evaluate_filter_enforced (caughtRaised_eq_ok.1 hresu)
  rw [hn] at hresu'
  cases hresu'
  show res.decision ≠ _
  rw [hagree.decision]
  exact nofun

/-- Where the bypass holds, the decision procedure does not deny exactly if what the bypass leaves
out agrees with it. -/
theorem administrator_not_denied (h : Host) (db : Database) (now : ℤ) (tokenId : ℕ)
    (token : Token) (user : User) (permission : String) (extra : Entries) (write : Bool)
    (hauthenticates : Authenticates db now tokenId token user)
    (hpolicies : ∀ policy ∈ db.policies, policy.policyType = .access → policy.status ≠ .enforced)
    (hglass : activeBreakGlass db now (token.actor tokenId user) = none)
    (hadmin : isSystemAdministrator db now tokenId = true)
    (hbase : permission ∈ systemAdminBasePermissions) (d : AuthorizationDecision)
    (hd : authorize h db now (.token tokenId) permission globalScope [] extra write = .ok d) :
    d.decision ≠ .deny
      ↔ BypassSound h db now tokenId token user
          (evaluationContext h {} (token.actor tokenId user) [] extra permission) permission := by
  unfold authorize at hd
  rw [if_neg (not_not.2 (base_subset_allPermissions permission hbase))] at hd
  obtain ⟨target, htarget, hd⟩ := bind_eq_ok.1 hd
  obtain rfl : ({} : Scope) = target :=
    Except.ok.inj (normalizeScope_globalScope.symm.trans htarget)
  obtain ⟨⟨⟩, -, hd⟩ := bind_eq_ok.1 hd
  obtain ⟨⟨actor, identity⟩, hr, hd⟩ := bind_eq_ok.1 hd
  obtain ⟨rfl, -⟩ := Prod.mk.inj (Except.ok.inj (hauthenticates.identify.symm.trans hr))
  constructor
  · intro hdeny
    obtain ⟨-, hallow, entry, he, hm, ht⟩ := granted_of_not_deny hglass hd hdeny
    refine ⟨fun other ho heffect _ hmatch => ?_, fun _ => ⟨entry, he, hallow entry he hm, hm, ht⟩⟩
    cases heffect.symm.trans (hallow other ho hmatch)
  · intro hsound
    have hholds := holds_of_isSystemAdministrator hauthenticates hadmin hbase hsound
    exact decideFor_not_deny hholds.ceiling hholds.undenied hholds.granted
      (fun policy hp => policyDecision_ne_deny hpolicies hp) hd

/-! ### An administrator who is denied something -/

/-- A user with the permissions of an administrator and a second assignment. -/
def administratorDatabase (second : RoleAssignment) : Database where
  users := Table.empty.put 1 { username := "admin" }
  tokens := Table.empty.put 10 { userId := 1 }
  roles := (Table.empty.put 1 ⟨systemAdminBasePermissions⟩).put 2 ⟨["users.read", "audit.read"]⟩
  assignments := (Table.empty.put 1
    { subject := ⟨.user, "1"⟩, roleId := 1, scopeType := .global }).put 2 second

/-- Nothing beyond the reading of the audit log is denied, under a condition. -/
def auditDenied : RoleAssignment where
  subject := ⟨.user, "1"⟩
  roleId := 2
  effect := .deny
  scopeType := .global
  conditions := .field "action" .eq (.text "audit.read")
  permissionCeiling := some ["audit.*"]

theorem administrator_not_denied_audit :
    isSystemAdministrator (administratorDatabase auditDenied) 0 10 = true
      ∧ ∃ d, authorize .plain (administratorDatabase auditDenied) 0 (.token 10) "users.read"
          globalScope [] [] true = .ok d ∧ d.decision ≠ .deny := by
  have hadmin : isSystemAdministrator (administratorDatabase auditDenied) 0 10 = true := by
    decide +kernel
  refine ⟨hadmin, _, rfl, (administrator_not_denied .plain (administratorDatabase auditDenied)
    0 10 { userId := 1 } { username := "admin" } "users.read" [] true
    ⟨rfl, rfl, rfl, rfl, fun _ => rfl⟩ (fun _ hp => absurd hp List.not_mem_nil) rfl hadmin
    (by decide) _ rfl).2 ⟨fun entry he heffect _ hm => ?_, ?_⟩⟩
  · have hgrants : ∀ entry ∈ activeAssignments (administratorDatabase auditDenied)
        (subjects (administratorDatabase auditDenied)
          (Token.actor { userId := 1 } 10 { username := "admin" })) 0,
        entry.2.effect = .deny →
          entry.2.grants (administratorDatabase auditDenied) "users.read" = false := by
      decide +kernel
    cases (hgrants entry he heffect).symm.trans hm.permission
  · rintro (hlegacy | hk)
    · exact absurd (hlegacy "users.read" (by decide)) nofun
    · cases hk

/-- The reading of users is denied under a condition that the action meets. -/
def usersDenied : RoleAssignment where
  subject := ⟨.user, "1"⟩
  roleId := 2
  effect := .deny
  scopeType := .global
  conditions := .field "action" .eq (.text "users.read")

theorem conditional_denial_bypassed :
    isSystemAdministrator (administratorDatabase usersDenied) 0 10 = true
      ∧ (activeBreakGlass (administratorDatabase usersDenied) 0
          (Token.actor { userId := 1 } 10 { username := "admin" })).isNone
      ∧ ∃ d, authorize .plain (administratorDatabase usersDenied) 0 (.token 10) "users.read"
          globalScope [] [] true = .ok d ∧ d.decision = .deny :=
  ⟨by decide +kernel, rfl, _, rfl, by decide +kernel⟩

end Soundness

end CloudPortal.Iam
