/-
CloudPortal/Iam/TokenBound.lean

An API token never allows what its owner may not do.

The two runs of `authorize` differ in the ceiling, which only the token has, in the
subjects, in break-glass grants, which only a session can use, and in `actor.token_id` of
the evaluation context.  Where no condition and no policy reads the latter, everything that
matches for the session matches for the token as well, and what the token is
granted by comes from its owner.
-/
import CloudPortal.Iam.Authorize
import CloudPortal.Policy.Reads

namespace CloudPortal.Iam

open Document RowStore Engine Transition

/-- Where the context has the id of the token. -/
def tokenPath : List String := ["actor", "token_id"]

/-- No condition of an assignment and no access policy reads the id of the token. -/
structure TokenUnread (db : Database) : Prop where
  conditions : ∀ id row, db.assignments.find? id = some row → Avoids tokenPath row.conditions.reads
  policies : ∀ policy ∈ db.policies, policy.policyType = .access → Avoids tokenPath policy.reads
  exceptions : ∀ exception ∈ db.exceptions, Avoids tokenPath exception.condition.reads

variable {ctx ctx' : Entries}

section Contexts

variable {h : Host} {db : Database} {now : ℤ} {act : String} {tgt : Scope}

theorem inner_agree (ha : Agree tokenPath ctx ctx') :
    ctx.inner "resource" = ctx'.inner "resource" := by
  unfold Entries.inner
  rw [ha.get_of_ne (by decide)]

theorem RoleAssignment.Matches.agree {row : RoleAssignment}
    (hm : row.Matches h db tgt ctx act) (ha : Agree tokenPath ctx ctx')
    (hrd : Avoids tokenPath row.conditions.reads) :
    row.Matches h db tgt ctx' act where
  scope := inner_agree ha ▸ hm.scope
  inherits := inner_agree ha ▸ hm.inherits
  condition := Condition.evaluate_agree ha hrd ▸ hm.condition
  permission := hm.permission

theorem policiesAllow_agree (hunread : TokenUnread db) (ha : Agree tokenPath ctx ctx')
    (hallow : PoliciesAllow h db now ctx tgt) : PoliciesAllow h db now ctx' tgt := by
  obtain ⟨pol, hp, hverdict⟩ := hallow
  unfold policyDecision at hp
  simp only at hp
  split at hp
  · next hn =>
    cases hp
    exact ⟨none, if_pos hn, rfl⟩
  next hs =>
  obtain ⟨r, hr, hp⟩ := bind_eq_ok.1 hp
  cases hp
  have hrd : ∀ pol ∈ accessPolicies db tgt, Avoids tokenPath pol.reads := by
    intro pol hp
    obtain ⟨hm, ht⟩ := List.mem_filter.1 hp
    simp only [Bool.and_eq_true, decide_eq_true_iff] at ht
    exact hunread.policies pol hm ht.1.1.1
  have hexceptions : ∀ exc ∈ db.exceptions.filter fun exc =>
    exc.policyId ∈ (accessPolicies db tgt).map (·.id)
      && exc.status = .approved, Avoids tokenPath exc.condition.reads :=
    fun exc hm => hunread.exceptions exc (List.mem_of_mem_filter hm)
  obtain ⟨r', hr', hdecision, -⟩ :=
    evaluate_agree ha hexceptions hrd (caughtRaised_eq_ok.1 hr)
  refine ⟨some r', ?_, hdecision.symm.trans hverdict⟩
  unfold policyDecision
  rw [if_neg hs]
  exact bind_eq_ok.2 ⟨r', caughtRaised_eq_ok.2 hr', rfl⟩

end Contexts

/-! ### Token and session -/

section Owner

variable {h : Host} {db : Database} {now : ℤ} {tid sessionId : ℕ} {token session : Token}
  {user : User}

/-- What a token acts for, itself apart, each token of the user acts for. -/
theorem mem_subjects_of_user (huser : session.userId = token.userId) {sub : Subject}
    (hs : sub ∈ subjects db (session.actor sessionId user))
    (ho : sub ≠ ⟨.apiToken, toString sessionId⟩) :
    sub ∈ subjects db (token.actor tid user) := by
  rcases mem_subjects.1 hs with rfl | ⟨id, hi, -, rfl⟩ | hservice | hgroup
  · exact mem_subjects.2 (.inl (by simp [Token.actor, huser]))
  · cases hi
    exact absurd rfl ho
  · exact mem_subjects.2 (.inr (.inr (.inl (by simpa [Token.actor, huser] using hservice))))
  · exact mem_subjects.2 (.inr (.inr (.inr (by simpa [Token.actor, huser] using hgroup))))

theorem granted_of_token {tgt : Scope} {act : String} (hunread : TokenUnread db)
    (huser : session.userId = token.userId) (hapi : token.kind = .api)
    (hsession : session.kind = .session) (ho : ∀ id row, db.assignments.find? id = some row →
      row.subject ≠ ⟨.apiToken, toString sessionId⟩) (hagree : Agree tokenPath ctx ctx')
    (hg : Granted h db now (token.actor tid user) act tgt ctx) :
    Granted h db now (session.actor sessionId user) act tgt ctx' := by
  -- the assignments of the session are among those of the token
  have hmine : ∀ ent ∈ activeAssignments db (subjects db (session.actor sessionId user)) now,
      ent ∈ activeAssignments db (subjects db (token.actor tid user)) now
        ∧ Avoids tokenPath ent.2.conditions.reads := by
    rintro ⟨id, row⟩ he
    obtain ⟨hr, hsub, ha⟩ := mem_activeAssignments.1 he
    exact ⟨mem_activeAssignments.2 ⟨hr,
      mem_subjects_of_user huser hsub (ho id row hr), ha⟩,
      hunread.conditions id row hr⟩
  refine ⟨fun ent he => ?_, fun ent he hm => ?_, ?_,
    policiesAllow_agree hunread hagree hg.policies⟩
  · obtain ⟨he', hrd⟩ := hmine ent he
    have hs := hg.evaluable ent he'
    rwa [matchRow, inner_agree hagree, Condition.evaluate_agree hagree hrd] at hs
  · obtain ⟨he', hrd⟩ := hmine ent he
    exact hg.allow ent he' (hm.agree hagree.symm hrd)
  · obtain ⟨⟨id, row⟩, he, hm, ht⟩ := hg.granted
    obtain ⟨hr, hsub, ha⟩ := mem_activeAssignments.1 he
    refine ⟨(id, row), mem_activeAssignments.2 ⟨hr, ?_, ha⟩,
      hm.agree hagree (hunread.conditions id row hr), fun hk => ?_⟩
    · exact mem_subjects_of_user huser.symm hsub fun heq => ht hapi (congrArg _ heq)
    · exact absurd (hsession.symm.trans hk) (by decide)

/-- What an API token is allowed, a session of its owner is allowed. -/
theorem token_within_owner (h : Host) (db : Database) (now : ℤ) (tokenId sessionId : ℕ)
    (token session : Token) (user : User) (action : String) (scope resource extra : Entries)
    (write : Bool) (hunread : TokenUnread db)
    (htoken : db.tokens.find? tokenId = some token) (hapi : token.kind = .api)
    (hauthenticates : Authenticates db now sessionId session user)
    (hsession : session.kind = .session) (huser : session.userId = token.userId)
    (hown : ∀ id row, db.assignments.find? id = some row →
      row.subject ≠ ⟨.apiToken, toString sessionId⟩)
    (hallows : Authorizes h db now (.token tokenId) action scope resource extra write) :
    Authorizes h db now (.token sessionId) action scope resource extra write := by
  obtain ⟨ha, target, actor, identity, htarget, hv, hr, -, hdecides⟩ :=
    authorizes_iff.1 hallows
  obtain ⟨token', user', htok', rfl, -⟩ := authenticates_of_identify hr
  obtain rfl : token = token' := Option.some.inj (htoken.symm.trans htok'.tokenRow)
  obtain rfl : user = user' :=
    Option.some.inj (hauthenticates.userRow.symm.trans (huser ▸ htok'.userRow))
  refine authorizes_iff.2 ⟨ha, target, session.actor sessionId user, session.identity db,
    htarget, hv, hauthenticates.identify, fun hk => ?_, .inr ?_⟩
  · exact absurd (hsession.symm.trans hk) (by decide)
  rcases hdecides with hglass | hg
  · -- an API token has no break-glass grant
    simp [activeBreakGlass, Token.actor, hapi] at hglass
  have hagree : Agree tokenPath
      (evaluationContext h target (token.actor tokenId user) resource extra action)
      (evaluationContext h target (session.actor sessionId user) resource extra action) := by
    unfold Agree evaluationContext actorContext
    rw [show (token.actor tokenId user).userId = (session.actor sessionId user).userId
      from huser.symm]
    rfl
  exact granted_of_token hunread huser hapi hsession hown hagree hg

/-- A user who may read users, with an API token for that and a session. -/
def readerDatabase : Database where
  users := Table.empty.put 1 { username := "reader" }
  tokens := (Table.empty.put 10 { userId := 1, kind := .api, scopes := ["users.*"] }).put 11
    { userId := 1, kind := .session }
  roles := Table.empty.put 1 ⟨["users.read"]⟩
  assignments := Table.empty.put 1
    { subject := ⟨.user, "1"⟩, roleId := 1, scopeType := .global,
      conditions := .field "actor.id" .eq (.int 1) }

theorem token_within_owner_reader :
    Authorizes .plain readerDatabase 0 (.token 10) "users.read" [] [] [] false
      ∧ Authorizes .plain readerDatabase 0 (.token 11) "users.read" [] [] [] false := by
  have ha : Authorizes .plain readerDatabase 0 (.token 10) "users.read" [] [] [] false :=
    ⟨_, rfl, by decide +kernel⟩
  refine ⟨ha, token_within_owner .plain readerDatabase 0 10 11
    { userId := 1, kind := .api, scopes := ["users.*"] } { userId := 1, kind := .session }
    { username := "reader" } "users.read" [] [] [] false
    ⟨?_, fun _ hp => absurd hp List.not_mem_nil,
      fun _ hexception => absurd hexception List.not_mem_nil⟩ rfl rfl
    ⟨rfl, rfl, rfl, rfl, fun _ => rfl⟩ rfl rfl ?_ ha⟩
  all_goals exact Table.forall_find?.2 (by decide +kernel)

end Owner

end CloudPortal.Iam
