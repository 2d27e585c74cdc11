/-
CloudPortal/Iam/Separation.lean

Separation of duties: nobody holds two roles that conflict, in scopes with a common target.

`_assert_no_role_conflict` looks for assignments of the same subject with the same scope
type, and with the same scope id and project or none.  It is made when a role is assigned, not
when an assignment is enabled or a group gets a member.

* `Separated`: the property, over the subjects that a user acts as.
* `Separable`: a call meets only conflicts that the check finds.
* `separation_of_duties`: then the property holds along every run from an empty table.
* `conflict_across_scopes`: two assignments whose scopes are of different types.
-/
import CloudPortal.Iam.Routes

namespace CloudPortal.Iam

open Document RowStore Transition

/-! ### Duties -/

/-- A user acts as a subject: directly, as a service account or through an enabled group. -/
def ActsAs (db : Database) (userId : ℕ) (subject : Subject) : Prop :=
  ∃ user, db.users.find? userId = some user
    ∧ subject ∈ subjects db ⟨userId, none, .simulation, [], user⟩

/-- The roles may not be combined anywhere. -/
def Conflicting (db : Database) (roleId roleId' : ℕ) : Prop :=
  ∃ id conflict, db.conflicts.find? id = some conflict ∧ conflict.enabled = true
    ∧ conflict.block = true ∧ conflict.scopeType = .global
    ∧ (conflict.roleA = roleId ∧ conflict.roleB = roleId'
      ∨ conflict.roleA = roleId' ∧ conflict.roleB = roleId)

/-- There is a target that the scopes of both assignments match. -/
def Meets (h : Host) (db : Database) (row row' : RoleAssignment) : Prop :=
  ∃ target resource, validateScopeResource h db target false = .ok ()
    ∧ (assignmentScopeMatches h row target resource).1 = true
    ∧ (assignmentScopeMatches h row' target resource).1 = true

/-- The assignment lets somebody do something. -/
def RoleAssignment.isGrant (row : RoleAssignment) : Bool := row.enabled && row.effect = .allow

/-- Nobody holds two grants of conflicting roles with a common target. -/
def Separated (h : Host) (db : Database) : Prop :=
  ∀ userId id id' row row', id ≠ id' → db.assignments.find? id = some row →
    db.assignments.find? id' = some row' → row.isGrant = true → row'.isGrant = true →
      ActsAs db userId row.subject → ActsAs db userId row'.subject →
        Conflicting db row.roleId row'.roleId → ¬Meets h db row row'

/-! ### Operations -/

inductive Operation
  | call (call : Call)
  | bulk (data : List AssignmentCreate)

/-- One request. -/
def operate (h : Host) (db : Database) (step : Request × Operation) : Except Failure Database :=
  match step.2 with
  | .call call => perform h db step.1 call
  | .bulk data => createAssignmentsBulk h db step.1 data

/-! ### Conflicts that the check finds -/

/-- The check compares an assignment with a subject and a scope. -/
def SameKey (subject : Subject) (scope : Scope) (row : RoleAssignment) : Prop :=
  row.subject = subject ∧ row.scopeType = scope.scopeType
    ∧ (row.scopeId = none ∨ row.scopeId = scope.scopeId)
    ∧ (row.projectId = none ∨ row.projectId = scope.projectId)

instance (subject : Subject) (scope : Scope) (row : RoleAssignment) :
    Decidable (SameKey subject scope row) :=
  inferInstanceAs (Decidable (_ ∧ _))

/-- Every grant, except the assignment itself, that a grant `row` at a scope conflicts with is
one that the check finds, if it is made. -/
def ConflictsFound (h : Host) (db : Database) (row : RoleAssignment) (scope : Scope)
    (self : Option ℕ) (checked : Bool) : Prop :=
  row.isGrant = true → ∀ userId id' row', db.assignments.find? id' = some row' → self ≠ some id' →
    row'.isGrant = true → ActsAs db userId row.subject → ActsAs db userId row'.subject →
      Conflicting db row.roleId row'.roleId → Meets h db row row' →
        checked = true ∧ SameKey row.subject scope row'

/-- The assignment after an update, as far as conflicts are concerned. -/
def AssignmentUpdate.applied (data : AssignmentUpdate) (row : RoleAssignment) : RoleAssignment :=
  { row with
    roleId := data.roleId.join.getD row.roleId
    effect := data.effect.join.getD row.effect
    inherit := data.inherit.join.getD row.inherit
    enabled := data.enabled.join.getD row.enabled }

/-- The grants of a group do not conflict with each other or with what a user has. -/
def Joinable (h : Host) (db : Database) (groupId : String) (userId : ℕ) : Prop :=
  ∀ id id' row row', id ≠ id' → db.assignments.find? id = some row →
    db.assignments.find? id' = some row' → row.isGrant = true → row'.isGrant = true →
      row.subject = ⟨.group, groupId⟩ →
      row'.subject = ⟨.group, groupId⟩ ∨ ActsAs db userId row'.subject →
        Conflicting db row.roleId row'.roleId → ¬Meets h db row row'

/-- A new assignment conflicts only with what the check finds. -/
def CreateSeparable (h : Host) (db : Database) (data : AssignmentCreate) : Prop :=
  ∀ asked scope role, normalizeScope h data.scope.entries = .ok asked →
    hydrateScope h db asked = .ok scope → db.roles.find? data.roleId = some role →
      ConflictsFound h db (newAssignment db data scope role) scope none true

def CallSeparable (h : Host) (db : Database) (request : Request) : Call → Prop
  | .createAssignment data => CreateSeparable h db data
  | .updateAssignment id data => ∀ row asked scope, db.assignments.find? id = some row →
      normalizeScope h row.scopeEntries = .ok asked → hydrateScope h db asked = .ok scope →
        ConflictsFound h db (data.applied row) scope (some id) data.roleId.isSome
  | .approveJit id => ∀ row asked scope role, db.jitRequests.find? id = some row →
      normalizeScope h row.scopeEntries = .ok asked → hydrateScope h db asked = .ok scope →
        db.roles.find? row.roleId = some role →
          ConflictsFound h db (jitAssignment db request.now row scope role) scope none true
  | .addGroupMember groupId data => Joinable h db groupId data.userId
  | .updateGroup groupId _ => ∀ userId, (groupId, userId) ∈ db.members →
      Joinable h db groupId userId

/-- The condition for one assignment after the other. -/
def BulkSeparable (h : Host) (request : Request) : Database → List AssignmentCreate → Prop
  | _, [] => True
  | db, item :: items => CreateSeparable h db item
      ∧ ∀ db', createAssignment h db request item = .ok db' → BulkSeparable h request db' items

/-- A request meets only conflicts that the checks find. -/
def Separable (h : Host) (db : Database) (step : Request × Operation) : Prop :=
  match step.2 with
  | .call call => CallSeparable h db step.1 call
  | .bulk data => BulkSeparable h step.1 db data

/-! ### What the check knows -/

variable {db' : Database} {row : RoleAssignment}

section Check

variable {h : Host} {db : Database} {roleId roleId' : ℕ} {row' : RoleAssignment}

theorem mem_conflictingIds (hconf : Conflicting db roleId roleId') (scopeType : ScopeType) :
    roleId' ∈ conflictingIds db roleId scopeType := by
  obtain ⟨id, conflict, hf, henabled, hblock, hg, hroles⟩ := hconf
  unfold conflictingIds
  refine List.mem_map.2 ⟨(id, conflict), Table.mem_select.2 ⟨hf, ?_⟩, ?_⟩
  · rcases hroles with ⟨hA, -⟩ | ⟨-, hB⟩
    · simp [henabled, hblock, hg, hA]
    · simp [henabled, hblock, hg, hB]
  rcases hroles with ⟨hA, hB⟩ | ⟨hA, hB⟩
  · simp [hA, hB]
  by_cases he : roleId' = roleId
  · simp [hA, hB, he]
  · simp [hA, he]

/-- No grant of a conflicting role has passed the check. -/
theorem not_sameKey_of_noConflict {sub : Subject} {scope : Scope} {exclude : Option ℕ}
    (ho : assertNoRoleConflict db sub roleId scope exclude = .ok ()) {id' : ℕ}
    (hf : db.assignments.find? id' = some row') (hg : row'.isGrant = true)
    (hself : exclude ≠ some id') (hconf : Conflicting db roleId row'.roleId) :
    ¬SameKey sub scope row' := by
  rintro ⟨hsub, ht, hi, hproject⟩
  have henabled : row'.enabled = true := (Bool.and_eq_true_iff.1 hg).1
  have hs (text text' : Option String) (he : text = none ∨ text = text') :
      (text = none || text = text' && text'.isSome) = true := by
    rcases he with rfl | rfl
    · rfl
    · cases text <;> simp
  have hm : (id', row') ∈ conflictingAssignments db sub roleId scope exclude := by
    refine Table.mem_select.2 ⟨hf, ?_⟩
    have hother : exclude.all (· ≠ id') = true := by
      cases exclude with
      | none => rfl
      | some id => simpa using hself
    simp only [hsub, mem_conflictingIds hconf, henabled, ht, hother,
      hs _ _ hi, hs _ _ hproject, decide_true, Bool.and_true]
  unfold assertNoRoleConflict at ho
  rw [if_neg] at ho
  · cases ho
  rw [List.isEmpty_iff]
  exact List.ne_nil_of_mem hm

theorem Conflicting.symm (hconf : Conflicting db roleId roleId') :
    Conflicting db roleId' roleId := by
  obtain ⟨id, conflict, hf, henabled, hblock, hg, hroles⟩ := hconf
  exact ⟨id, conflict, hf, henabled, hblock, hg, hroles.symm⟩

theorem Meets.symm (hmeets : Meets h db row row') : Meets h db row' row := by
  obtain ⟨tgt, res, hvalid, hr, hr'⟩ := hmeets
  exact ⟨tgt, res, hvalid, hr', hr⟩

end Check

/-! ### Steps -/

section Steps

variable {h : Host} {db : Database} {req : Request}

section

variable (hseparated : Separated h db) {id : ℕ}
include hseparated

/-- A grant is written whose conflicts the check finds. -/
theorem Separated.put {jitRequests : Table ℕ JITAccessRequest}
    (hn : row.isGrant = true → ∀ uid id' row', db.assignments.find? id' = some row' →
      id ≠ id' → row'.isGrant = true → ActsAs db uid row.subject →
        ActsAs db uid row'.subject → Conflicting db row.roleId row'.roleId →
          ¬Meets h db row row') :
    Separated h { db with assignments := db.assignments.put id row, jitRequests } := by
  intro uid first second row₁ row₂ hne hfirst hsecond hg hg' hacts hacts' hconf
    hmeets
  have hconf : Conflicting db row₁.roleId row₂.roleId := hconf
  have hmeets : Meets h db row₁ row₂ := hmeets
  have ho {other : ℕ} {row' : RoleAssignment} (hne : other ≠ id)
      (hf : (db.assignments.put id row).find? other = some row') :
      db.assignments.find? other = some row' :=
    (Table.find?_put_of_ne _ row hne).symm.trans hf
  have hs {row' : RoleAssignment} (hf : (db.assignments.put id row).find? id = some row') :
      row = row' :=
    Option.some.inj ((Table.find?_put_self _ id row).symm.trans hf)
  by_cases he : first = id
  · subst he
    cases hs hfirst
    exact hn hg uid second row₂ (ho hne.symm hsecond) hne hg' hacts hacts'
      hconf hmeets
  by_cases he' : second = id
  · subst he'
    cases hs hsecond
    exact hn hg' uid first row₁ (ho hne hfirst) hne.symm hg hacts' hacts
      hconf.symm hmeets.symm
  · exact hseparated uid first second row₁ row₂ hne (ho he hfirst) (ho he' hsecond)
      hg hg' hacts hacts' hconf hmeets

/-- A new assignment that has passed the check. -/
theorem Separated.add {scope : Scope} {op : Management}
    (hfound : ConflictsFound h db row scope none true)
    (hc : Checked h db req row scope op none)
    (jitRequests : Table ℕ JITAccessRequest) :
    Separated h { db.addAssignment row with jitRequests } := by
  refine hseparated.put fun hg uid id' row' hf _ hg' hacts hacts' hconf
    hmeets => ?_
  obtain ⟨-, hk⟩ := hfound hg uid id' row' hf (by simp) hg' hacts hacts'
    hconf hmeets
  exact not_sameKey_of_noConflict hc.noConflict hf hg' (by simp) hconf hk

theorem Separated.createAssignment {data : AssignmentCreate} (hc : CreateSeparable h db data)
    (ho : Iam.createAssignment h db req data = .ok db') : Separated h db' := by
  obtain ⟨asked, scope, role, ha, hsc, hr, hchecked, rfl⟩ := createAssignment_spec ho
  exact hseparated.add (hc asked scope role ha hsc hr) hchecked db.jitRequests

theorem Separated.createAssignmentsBulk {data : List AssignmentCreate}
    (hc : BulkSeparable h req db data)
    (ho : Iam.createAssignmentsBulk h db req data = .ok db') : Separated h db' := by
  unfold Iam.createAssignmentsBulk at ho
  induction data generalizing db with
  | nil =>
    cases ho
    exact hseparated
  | cons item items ih =>
    rw [List.foldlM_cons] at ho
    obtain ⟨next, hn, ho⟩ := bind_eq_ok.1 ho
    exact ih (hseparated.createAssignment hc.1 hn) (hc.2 next hn) ho

theorem Separated.updateAssignment {data : AssignmentUpdate}
    (hc : CallSeparable h db req (.updateAssignment id data))
    (ho : Iam.updateAssignment h db req id data = .ok db') : Separated h db' := by
  obtain ⟨row, asked, scope, role, upd, hr, hask, hsc, -, -, hs, hroleId, hupdates,
    hchecked, rfl⟩ := updateAssignment_spec ho
  have hfound := hc row asked scope hr hask hsc
  refine hseparated.put (fun hg uid id' row' hf hne hg' hacts hacts' hconf hmeets => ?_)
  -- the condition is about the row as the request has it, which is the new row but for columns
  -- that scopes do not depend on
  have hgran : (data.applied row).isGrant = true := by
    unfold RoleAssignment.isGrant at hg ⊢
    rw [hupdates.enabled, hupdates.effect] at hg
    exact hg
  have hmeet : Meets h db (data.applied row) row' := by
    obtain ⟨tgt, res, hvalid, hm, hm'⟩ := hmeets
    rw [assignmentScopeMatches, RoleAssignment.matchesOwner, hs.scopeType, hs.scopeId,
      hs.tenantId, hs.projectId, hs.apmid, hs.environment, hupdates.inherit] at hm
    exact ⟨tgt, res, hvalid, hm, hm'⟩
  have ha : ActsAs db uid (data.applied row).subject := hs.subject ▸ hacts
  have hcondition : Conflicting db (data.applied row).roleId row'.roleId := by
    show Conflicting db (data.roleId.join.getD row.roleId) row'.roleId
    rw [← hroleId]
    exact hconf
  obtain ⟨hmade, hk⟩ := hfound hgran uid id' row' hf
    (fun he => hne (Option.some.inj he)) hg' ha hacts' hcondition
    hmeet
  rcases hchecked with hn | hchecked
  · rw [hn] at hmade
    cases hmade
  have hk : SameKey upd.subject scope row' := hs.subject ▸ hk
  exact not_sameKey_of_noConflict hchecked.noConflict hf hg'
    (fun he => hne (Option.some.inj he)) hconf hk

theorem Separated.approveJit (hc : CallSeparable h db req (.approveJit id))
    (ho : Iam.approveJit h db req id = .ok db') : Separated h db' := by
  obtain ⟨jit, asked, scope, role, hjit, ha, hsc, hr, hchecked, rfl⟩ :=
    approveJit_spec ho
  exact hseparated.add (hc jit asked scope role hjit ha hsc hr) hchecked _

end

variable {groups : Table String Group} {members : List (String × ℕ)} {gid : String}

/-- Only who acts as what has changed, and only for one group and its new members. -/
theorem Separated.group (hseparated : Separated h db)
    (hacts : ∀ uid sub, ActsAs { db with groups, members } uid sub →
      ActsAs db uid sub ∨ sub = ⟨.group, gid⟩ ∧ Joinable h db gid uid) :
    Separated h { db with groups, members } := by
  intro uid id id' row row' hn hf hf' hg hg' hr hr' hconf hmeets
  have hconf : Conflicting db row.roleId row'.roleId := hconf
  have hmeets : Meets h db row row' := hmeets
  rcases hacts uid _ hr with hr | ⟨hgroup, hjoinable⟩
  · rcases hacts uid _ hr' with hr' | ⟨hgroup, hjoinable⟩
    · exact hseparated uid id id' row row' hn hf hf' hg hg' hr hr'
        hconf hmeets
    · exact hjoinable id' id row' row hn.symm hf' hf hg' hg hgroup (.inr hr)
        hconf.symm hmeets.symm
  · refine hjoinable id id' row row' hn hf hf' hg hg' hgroup ?_ hconf hmeets
    rcases hacts uid _ hr' with hr' | ⟨hgroup', -⟩
    · exact .inr hr'
    · exact .inl hgroup'

/-- Whoever acts as something new does so through a group. -/
theorem actsAs_group {uid : ℕ} {sub : Subject}
    (hacts : ActsAs { db with groups, members } uid sub) :
    ActsAs db uid sub ∨ ∃ gid,
      gid ∈ ({ db with groups, members } : Database).groupsOf uid
        ∧ gid ∉ db.groupsOf uid ∧ sub = ⟨.group, gid⟩ := by
  obtain ⟨user, huser, hs⟩ := hacts
  rcases mem_subjects.1 hs with hs | htoken | hservice | ⟨gid, hgroup, hs⟩
  · exact .inl ⟨user, huser, mem_subjects.2 (.inl hs)⟩
  · exact .inl ⟨user, huser, mem_subjects.2 (.inr (.inl htoken))⟩
  · exact .inl ⟨user, huser, mem_subjects.2 (.inr (.inr (.inl hservice)))⟩
  · by_cases ho : gid ∈ db.groupsOf uid
    · exact .inl ⟨user, huser, mem_subjects.2 (.inr (.inr (.inr ⟨gid, ho, hs⟩)))⟩
    · exact .inr ⟨gid, hgroup, ho, hs⟩

theorem Separated.addGroupMember (hseparated : Separated h db) {data : GroupMemberInput}
    (hjoinable : Joinable h db gid data.userId)
    (ho : Iam.addGroupMember h db req gid data = .ok db') : Separated h db' := by
  obtain rfl := addGroupMember_spec ho
  refine @Separated.group h db db.groups _ gid hseparated fun uid sub hacts => ?_
  rcases actsAs_group hacts with hacts | ⟨other, hin, hout, rfl⟩
  · exact .inl hacts
  rw [mem_groupsOf] at hin hout
  have hn : (other, uid) = (gid, data.userId) := by
    rcases List.mem_append.1 hin.1 with hm | hm
    · exact absurd ⟨hm, hin.2⟩ hout
    · exact List.mem_singleton.1 hm
  obtain ⟨rfl, rfl⟩ := Prod.mk.inj hn
  exact .inr ⟨rfl, hjoinable⟩

theorem Separated.updateGroup (hseparated : Separated h db) {data : GroupUpdate}
    (hjoinable : ∀ uid, (gid, uid) ∈ db.members → Joinable h db gid uid)
    (ho : Iam.updateGroup h db req gid data = .ok db') : Separated h db' := by
  obtain ⟨group, enabled, -, -, rfl⟩ := updateGroup_spec ho
  refine @Separated.group h db _ db.members gid hseparated fun uid sub hacts => ?_
  rcases actsAs_group hacts with hacts | ⟨other, hin, hout, rfl⟩
  · exact .inl hacts
  rw [mem_groupsOf] at hin hout
  by_cases he : other = gid
  · subst he
    exact .inr ⟨rfl, hjoinable uid hin.1⟩
  refine absurd ⟨hin.1, ?_⟩ hout
  rw [← Table.find?_put_of_ne db.groups _ he]
  exact hin.2

theorem Separated.operate (hseparated : Separated h db) {step : Request × Operation}
    (hc : Separable h db step) (ho : Iam.operate h db step = .ok db') :
    Separated h db' := by
  obtain ⟨req, op⟩ := step
  cases op with
  | bulk data => exact hseparated.createAssignmentsBulk hc ho
  | call call =>
    cases call with
    | createAssignment data => exact hseparated.createAssignment hc ho
    | updateAssignment id data => exact hseparated.updateAssignment hc ho
    | approveJit id => exact hseparated.approveJit hc ho
    | addGroupMember gid data => exact hseparated.addGroupMember hc ho
    | updateGroup gid data => exact hseparated.updateGroup hc ho

end Steps

/-- Along every run from an empty table whose requests meet only conflicts that the checks find,
duties are separated. -/
theorem separation_of_duties (h : Host) (db : Database) (hempty : db.assignments = .empty)
    (steps : List (Request × Operation))
    (hguarded : Guarded (Separable h) (attempt (operate h)) db steps) :
    Separated h (run (attempt (operate h)) db steps) := by
  refine guarded_invariant (fun db step hseparated hc => ?_) ?_ hguarded
  · exact attempt_invariant hseparated fun db' ho => hseparated.operate hc ho
  intro userId id id' row row' _ hf
  rw [hempty] at hf
  cases hf

/-! ### Two scopes of different types -/

/-- An administrator, a group with a member, a project and two roles that conflict. -/
def dutiesDatabase : Database where
  users := (Table.empty.put 1 {}).put 2 {}
  tokens := Table.empty.put 10 { userId := 1 }
  roles := ((Table.empty.put 1 ⟨systemAdminBasePermissions⟩).put 2 ⟨["users.read"]⟩).put 3
    ⟨["audit.read"]⟩
  userRoles := [(1, 1)]
  groups := Table.empty.put "staff" {}
  members := [("staff", 2)]
  conflicts := Table.empty.put 1 { roleA := 2, roleB := 3 }
  tenants := Table.empty.put "acme" {}
  projects := Table.empty.put "web" { tenantId := "acme" }

/-- The administrator assigns a role to the group. -/
def assignStaff (roleId : ℕ) (scope : ScopeInput) : Request × Operation :=
  (⟨10, 0, []⟩, .call (.createAssignment
    { scope := scope, subject := ⟨.group, "staff"⟩, roleId := roleId, validFrom := some 0 }))

def inAcme : ScopeInput where
  scopeType := .organization
  tenantId := some "acme"

def inWeb : ScopeInput where
  scopeType := .project
  projectId := some "web"

/-- The second role is refused at the scope of the first. -/
theorem separation_of_duties_refused :
    (operate .plain (attempt (operate .plain) dutiesDatabase (assignStaff 2 inAcme))
        (assignStaff 3 inAcme)).isOk = false
      ∧ Separated .plain (run (attempt (operate .plain)) dutiesDatabase
        [assignStaff 2 inAcme, assignStaff 3 inAcme]) := by
  refine ⟨by decide +kernel, separation_of_duties .plain dutiesDatabase rfl _ ⟨?_, ?_, trivial⟩⟩
  · intro asked scope role _ _ _ _ userId id' row' hf
    cases hf
  intro asked scope role ha hscope _ _ userId id' row' hf _ _ _ _ _ _
  have hscope' : hydrateScope .plain dutiesDatabase
      { scopeType := .organization, tenantId := some "acme" } = .ok scope := by
    cases ha
    exact hscope
  cases hscope'
  have hk : ∀ id row, (attempt (operate .plain) dutiesDatabase
      (assignStaff 2 inAcme)).assignments.find? id = some row →
        SameKey ⟨.group, "staff"⟩ { scopeType := .organization, tenantId := some "acme" } row :=
    Table.forall_find?.2 (by decide +kernel)
  exact ⟨rfl, hk id' row' hf⟩

/-- Both roles are assigned to one group, one everywhere and one in a project. -/
def combinedDatabase : Database :=
  run (attempt (operate .plain)) dutiesDatabase [assignStaff 2 {}, assignStaff 3 inWeb]

theorem combined_first : (combinedDatabase.assignments.find? 1).isSome = true := by decide +kernel

theorem combined_second : (combinedDatabase.assignments.find? 2).isSome = true := by decide +kernel

theorem conflict_across_scopes :
    dutiesDatabase.assignments = .empty
      ∧ ¬Separated .plain (run (attempt (operate .plain)) dutiesDatabase
        [assignStaff 2 {}, assignStaff 3 inWeb]) := by
  refine ⟨rfl, fun hseparated => ?_⟩
  have hfirst := (Option.some_get combined_first).symm
  have hsecond := (Option.some_get combined_second).symm
  refine hseparated 2 1 2 _ _ (by decide) hfirst hsecond (by decide +kernel) (by decide +kernel)
    ⟨{}, rfl, ?_⟩ ⟨{}, rfl, ?_⟩ ⟨1, { roleA := 2, roleB := 3 }, rfl, rfl, rfl, rfl, ?_⟩
    ⟨{ scopeType := .project, tenantId := some "acme", projectId := some "web" }, [], rfl, ?_, ?_⟩
  all_goals decide +kernel

end CloudPortal.Iam
