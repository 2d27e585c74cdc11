/-
CloudPortal/Policy/Reads.lean

What conditions and policies read of the evaluation context, and that nothing else counts.

`reads` collects the paths.  If all of them are apart from a hidden path, contexts that
agree apart from it give the same decision (`evaluate_agree`).  Effects may write to the
hidden path: a write is no read, and the contexts stay in agreement.
-/
import CloudPortal.Policy.NonInterference

namespace CloudPortal.Engine

open Document Transition

/-! ### Paths -/

/-- What an operator reads besides the field. -/
def Operator.reads : Operator → List String
  | .isOwner => ["actor.id"]
  | .isMemberOf => ["actor.groups", "actor.roles", "actor.role_ids"]
  | _ => []

mutual

def Condition.reads : Condition → List String
  | .always | .malformed => []
  | .all conditions | .any conditions => Condition.readsAll conditions
  | .not condition => condition.reads
  | .field path operator _ => path :: operator.reads

def Condition.readsAll : List Condition → List String
  | [] => []
  | condition :: conditions => condition.reads ++ Condition.readsAll conditions

end

def PolicyScope.reads (scope : PolicyScope) : List String :=
  scope.dimensions.map (·.1.path) ++ (if blank scope.tags then [] else ["resource.tags"])
    ++ scope.conditions.reads

/-- What an effect reads, behind its condition. -/
def Effect.readsMatched (effect : Effect) : List String :=
  match effect.kind with
  | .limitValue => [effect.field]
  | .addTag | .removeTag => [effect.fieldOr "resource.tags"]
  | .require name => if effect.field = "" then obligationFields name else [effect.field]
  | _ => []

def Effect.reads (effect : Effect) : List String := effect.when.reads ++ effect.readsMatched

def Policy.reads (policy : Policy) : List String :=
  (policy.tenantId.toList.map fun _ => "scope.tenant_id")
    ++ (policy.projectId.toList.map fun _ => "scope.project_id")
    ++ policy.scope.reads ++ policy.condition.reads ++ policy.effects.flatMap Effect.reads

/-- All paths are apart from the hidden one. -/
def Avoids (hidden : List String) (paths : List String) : Prop :=
  ∀ path ∈ paths, Apart hidden (splitPath path)

instance (hidden paths : List String) : Decidable (Avoids hidden paths) :=
  inferInstanceAs (Decidable (∀ path ∈ paths, _))

theorem Avoids.append {hidden paths paths' : List String} (h : Avoids hidden (paths ++ paths')) :
    Avoids hidden paths ∧ Avoids hidden paths' :=
  ⟨fun path hp => h path (List.mem_append_left _ hp),
    fun path hp => h path (List.mem_append_right _ hp)⟩

/-! ### Conditions -/

variable {adv : Bool} {eff : Effect} {pols : List Policy} {pol : Policy}
  {path pid : String} {tally tally' : Tally}

section Conditions

variable {rt : Runtime} {hidden : List String} {context context' : Entries}

section

variable (h : Agree hidden context context')
include h

theorem fieldOf_agree (hp : Apart hidden (splitPath path)) :
    fieldOf rt context path = fieldOf rt context' path :=
  h.getPath hp

theorem fieldOrNull_agree (hp : Apart hidden (splitPath path)) :
    fieldOrNull rt context path = fieldOrNull rt context' path := by
  unfold fieldOrNull
  rw [fieldOf_agree h hp]

theorem limitViolation_agree (hf : Apart hidden (splitPath eff.field)) :
    limitViolation rt eff context = limitViolation rt eff context' := by
  unfold limitViolation
  rw [fieldOf_agree h hf]

theorem memberships_agree (hrd : Avoids hidden Operator.isMemberOf.reads) :
    memberships rt context = memberships rt context' := by
  unfold memberships
  refine congrArg _ (List.flatMap_congr fun path hp => ?_)
  rw [fieldOrNull_agree h (hrd path hp)]

theorem compare_agree {operator : Operator} (hrd : Avoids hidden operator.reads)
    (actual : Option Value) (expected : Value) :
    compare rt context operator actual expected = compare rt context' operator actual expected := by
  cases actual with
  | none => rfl
  | some actual =>
    show comparePresent rt context operator actual expected
      = comparePresent rt context' operator actual expected
    cases operator with
    | isOwner =>
      show Except.ok _ = Except.ok _
      rw [fieldOrNull_agree h (hrd "actor.id" List.mem_cons_self)]
    | isMemberOf =>
      show Except.ok _ = Except.ok _
      rw [memberships_agree h hrd]
    | _ => rfl

end

mutual

theorem Condition.evaluate_agree (h : Agree hidden context context') :
    ∀ {cond : Condition}, Avoids hidden cond.reads →
      cond.evaluate rt context = cond.evaluate rt context'
  | .always, _ | .malformed, _ => rfl
  | .all conds, hrd => Condition.evaluateAll_agree h hrd
  | .any conds, hrd => Condition.evaluateAny_agree h hrd
  | .not cond, hrd => by
      have hs : cond.evaluate rt context = cond.evaluate rt context' :=
        Condition.evaluate_agree h hrd
      rw [Condition.evaluate, Condition.evaluate, hs]
  | .field path operator value, hrd => by
      rw [Condition.evaluate, Condition.evaluate, fieldOf_agree h (hrd path List.mem_cons_self),
        compare_agree h fun other ho => hrd other (List.mem_cons_of_mem path ho)]

theorem Condition.evaluateAll_agree (h : Agree hidden context context') :
    ∀ {conds : List Condition}, Avoids hidden (Condition.readsAll conds) →
      Condition.evaluateAll rt context conds = Condition.evaluateAll rt context' conds
  | [], _ => rfl
  | cond :: conds, hrd => by
      rw [Condition.evaluateAll, Condition.evaluateAll,
        Condition.evaluate_agree h hrd.append.1,
        Condition.evaluateAll_agree h hrd.append.2]

theorem Condition.evaluateAny_agree (h : Agree hidden context context') :
    ∀ {conds : List Condition}, Avoids hidden (Condition.readsAll conds) →
      Condition.evaluateAny rt context conds = Condition.evaluateAny rt context' conds
  | [], _ => rfl
  | cond :: conds, hrd => by
      rw [Condition.evaluateAny, Condition.evaluateAny,
        Condition.evaluate_agree h hrd.append.1,
        Condition.evaluateAny_agree h hrd.append.2]

end

end Conditions

/-! ### Matching -/

section Matching

variable {rt : Runtime} {hidden : List String} {context context' : Entries}
  (h : Agree hidden context context')
include h

theorem matchesOwner_agree {owner : Option String} (hp : Avoids hidden (owner.toList.map fun _ => path)) :
    matchesOwner rt context path owner = matchesOwner rt context' path owner := by
  cases owner with
  | none => rfl
  | some owner =>
    unfold matchesOwner
    rw [fieldOf_agree h (hp path List.mem_cons_self)]

variable {scope : PolicyScope}

theorem PolicyScope.matchesKeys_agree (identityOnly : Bool)
    (hrd : Avoids hidden (scope.dimensions.map (·.1.path))) :
    scope.matchesKeys rt context identityOnly = scope.matchesKeys rt context' identityOnly := by
  unfold PolicyScope.matchesKeys
  rw [Bool.eq_iff_iff, List.all_eq_true, List.all_eq_true]
  refine forall₂_congr fun ⟨key, allowed⟩ hdimension => ?_
  have hk : Apart hidden (splitPath key.path) := hrd _ (List.mem_map_of_mem hdimension)
  simp only [fieldOrNull_agree h hk]

theorem PolicyScope.matchesTags_agree
    (hrd : Avoids hidden (if blank scope.tags then [] else ["resource.tags"])) :
    scope.matchesTags rt context = scope.matchesTags rt context' := by
  unfold PolicyScope.matchesTags
  by_cases hblank : blank scope.tags = true
  · rw [hblank]
    rfl
  · rw [if_neg hblank] at hrd
    rw [fieldOrNull_agree h (hrd "resource.tags" List.mem_cons_self)]

theorem scopeMatches_agree (identityOnly : Bool) (hrd : Avoids hidden pol.reads) :
    scopeMatches rt context identityOnly pol = scopeMatches rt context' identityOnly pol := by
  obtain ⟨⟨⟨⟨htenant, hproject⟩, hscope⟩, -⟩, -⟩ :=
    hrd.append.imp_left fun h => h.append.imp_left fun h => h.append.imp_left Avoids.append
  obtain ⟨⟨hk, htags⟩, hc⟩ := hscope.append.imp_left Avoids.append
  unfold scopeMatches
  rw [matchesOwner_agree h htenant, matchesOwner_agree h hproject,
    PolicyScope.matchesKeys_agree h identityOnly hk, PolicyScope.matchesTags_agree h htags,
    Condition.evaluate_agree h hc]

variable {exceptions : List PolicyException}

theorem matchedException_agree
    (hrd : ∀ exc ∈ exceptions, Avoids hidden exc.condition.reads) (t : ℤ) :
    matchedException rt context t exceptions = matchedException rt context' t exceptions := by
  induction exceptions with
  | nil => rfl
  | cons exc exceptions ih =>
    rw [matchedException, matchedException,
      exceptionMatches, exceptionMatches,
      Condition.evaluate_agree h (hrd exc List.mem_cons_self),
      ih fun other ho => hrd other (List.mem_cons_of_mem exc ho)]

theorem matchPolicy_agree (hrd : Avoids hidden pol.reads)
    (hexceptions : ∀ exc ∈ exceptions, Avoids hidden exc.condition.reads)
    (t : ℤ) :
    matchPolicy rt context exceptions t pol = matchPolicy rt context' exceptions t pol := by
  have hc : Avoids hidden pol.condition.reads := hrd.append.1.append.2
  have hof : ∀ exc ∈ exceptionsOf exceptions pol,
      Avoids hidden exc.condition.reads :=
    fun exc hm => hexceptions exc (List.mem_filter.1 hm).1
  unfold matchPolicy isWhitelistCandidate
  rw [scopeMatches_agree h true hrd, scopeMatches_agree h false hrd,
    Condition.evaluate_agree h hc, matchedException_agree h hof]

end Matching

/-! ### Effects -/

/-- Contexts that agree, and the same locked fields. -/
structure Frame.Agree (hidden : List String) (frame frame' : Frame) : Prop where
  context : Document.Agree hidden frame.context frame'.context
  lockedFields : frame.lockedFields = frame'.lockedFields

/-- The reports that the decision depends on are the same. -/
structure Emitted.Decides (emitted emitted' : Emitted) : Prop where
  violations : emitted.violations = emitted'.violations
  approvals : emitted.approvals = emitted'.approvals

theorem Emitted.Decides.refl (em : Emitted) : em.Decides em := ⟨rfl, rfl⟩

theorem Emitted.Decides.append {first first' second second' : Emitted}
    (hf : first.Decides first') (hsecond : second.Decides second') :
    (first.append second).Decides (first'.append second') :=
  ⟨congrArg₂ _ hf.violations hsecond.violations, congrArg₂ _ hf.approvals hsecond.approvals⟩

section Effects

variable {rt : Runtime} {hidden : List String} {frame frame' : Frame}
  (h : frame.Agree hidden frame')
include h

theorem Frame.Agree.write (om : Bool) (field : String) (val : Value) :
    (frame.write om field val).1.Agree hidden (frame'.write om field val).1 :=
  ⟨h.context.setPath om val (splitPath field), h.lockedFields⟩

theorem Frame.Agree.select (field : String) (val : Value) :
    (frame.select field val).1.Agree hidden (frame'.select field val).1
      ∧ (frame.select field val).2 = (frame'.select field val).2 := by
  unfold Frame.select
  rw [h.lockedFields]
  by_cases hlocked : field ∈ frame'.lockedFields
  · rw [if_pos hlocked, if_pos hlocked]
    exact ⟨h, rfl⟩
  rw [if_neg hlocked, if_neg hlocked]
  have hchanged : (frame.write false field val).2 = (frame'.write false field val).2 :=
    setPath_changed val (splitPath field) frame.context frame'.context
  have hwrite := h.write false field val
  simp only
  rw [hchanged]
  refine ⟨?_, rfl⟩
  split
  · exact ⟨hwrite.context, congrArg (List.cons field) hwrite.lockedFields⟩
  · exact hwrite

variable {after : Frame} {em : Emitted}

theorem applyMatched_agree (hrd : Avoids hidden eff.readsMatched)
    (ha : applyMatched rt pid adv eff frame = .ok (after, em)) :
    ∃ after' em', applyMatched rt pid adv eff frame' = .ok (after', em')
      ∧ after.Agree hidden after' ∧ em.Decides em' := by
  unfold Effect.readsMatched at hrd
  unfold applyMatched at ha ⊢
  cases hk : eff.kind <;> simp only [hk] at ha hrd ⊢
  case select name =>
    cases hf : (if eff.field = "" then selectField name else some eff.field) with
    | none =>
      rw [hf] at ha
      cases ha
    | some field =>
      rw [hf] at ha
      cases ha
      exact ⟨_, _, rfl, (h.select _ _).1, ⟨rfl, rfl⟩⟩
  case limitValue =>
    have hf : Apart hidden (splitPath eff.field) := hrd _ List.mem_cons_self
    simp only [limitViolation_agree h.context hf] at ha
    obtain ⟨breach, hbreach, ha⟩ := bind_eq_ok.1 ha
    simp only [hbreach]
    cases breach with
    | none | some =>
      cases ha
      exact ⟨_, _, rfl, h, .refl _⟩
  all_goals cases ha
  case setDefault => exact ⟨_, _, rfl, h.write true _ _, ⟨rfl, rfl⟩⟩
  case setLease => exact ⟨_, _, rfl, h.write false _ _, ⟨rfl, rfl⟩⟩
  case forceValue => exact ⟨_, _, rfl, (h.select _ _).1, ⟨rfl, rfl⟩⟩
  case addTag | removeTag =>
    have hf : Apart hidden (splitPath (eff.fieldOr "resource.tags")) :=
      hrd _ List.mem_cons_self
    have htags : fieldTags rt frame.context (eff.fieldOr "resource.tags")
        = fieldTags rt frame'.context (eff.fieldOr "resource.tags") := by
      unfold fieldTags
      rw [fieldOrNull_agree h.context hf]
    simp only [htags]
    exact ⟨_, _, rfl, h.write false _ _, .refl _⟩
  case require name =>
    have hsatisfied : ((if eff.field = "" then obligationFields name else [eff.field]).any
          fun path => (fieldOrNull rt frame.context path).truthy)
        = ((if eff.field = "" then obligationFields name else [eff.field]).any
          fun path => (fieldOrNull rt frame'.context path).truthy) := by
      rw [Bool.eq_iff_iff, List.any_eq_true, List.any_eq_true]
      refine exists_congr fun path => and_congr_right fun hp => ?_
      rw [fieldOrNull_agree h.context (hrd path hp)]
    simp only [hsatisfied]
    exact ⟨_, _, rfl, h, .refl _⟩
  all_goals exact ⟨_, _, rfl, h, .refl _⟩

theorem applyEffect_agree (hrd : Avoids hidden eff.reads)
    (ha : applyEffect rt pid adv frame eff = .ok (after, em)) :
    ∃ after' em', applyEffect rt pid adv frame' eff = .ok (after', em')
      ∧ after.Agree hidden after' ∧ em.Decides em' := by
  obtain ⟨hwhen, hmatched⟩ := hrd.append
  unfold applyEffect at ha ⊢
  rw [Condition.evaluate_agree h.context hwhen] at ha
  obtain ⟨holds, hholds, ha⟩ := bind_eq_ok.1 ha
  rw [hholds]
  cases holds with
  | true => exact applyMatched_agree h hmatched ha
  | false =>
    cases ha
    exact ⟨_, _, rfl, h, .refl _⟩

theorem applyEffects_agree {effs : List Effect} (hrd : Avoids hidden (effs.flatMap Effect.reads))
    (ha : applyEffects rt pid adv frame effs = .ok (after, em)) :
    ∃ after' em', applyEffects rt pid adv frame' effs = .ok (after', em')
      ∧ after.Agree hidden after' ∧ em.Decides em' := by
  induction effs generalizing frame frame' after em with
  | nil =>
    cases ha
    exact ⟨_, _, rfl, h, .refl _⟩
  | cons eff effs ih =>
    rw [List.flatMap_cons] at hrd
    obtain ⟨⟨middle, first⟩, hf, ha⟩ := bind_eq_ok.1 ha
    obtain ⟨⟨last, rest⟩, hr, ha⟩ := bind_eq_ok.1 ha
    cases ha
    obtain ⟨middle', first', hf', hmid, hdecides⟩ :=
      applyEffect_agree h hrd.append.1 hf
    obtain ⟨last', rest', hr', hl, hdecides'⟩ := ih hmid hrd.append.2 hr
    exact ⟨last', first'.append rest',
      bind_eq_ok.2 ⟨_, hf', bind_eq_ok.2 ⟨_, hr', rfl⟩⟩, hl, hdecides.append hdecides'⟩

end Effects

/-! ### The decision -/

/-- What the loop over the policies passes on, as far as the decision depends on it. -/
structure Tally.Decides (hidden : List String) (tally tally' : Tally) : Prop where
  frame : tally.frame.Agree hidden tally'.frame
  emitted : tally.emitted.Decides tally'.emitted
  matchedWhitelistIds : tally.matchedWhitelistIds = tally'.matchedWhitelistIds

section Decision

variable {rt : Runtime} {hidden : List String} {context context' : Entries}
  {exs : List PolicyException} {t : ℤ}

theorem runPolicy_agree {after : Tally} (h : tally.Decides hidden tally')
    (hrd : Avoids hidden pol.reads) (hr : runPolicy rt tally pol = .ok after) :
    ∃ after', runPolicy rt tally' pol = .ok after' ∧ after.Decides hidden after' := by
  obtain ⟨⟨frame, em⟩, ha, hr⟩ := bind_eq_ok.1 hr
  obtain ⟨frame', em', ha', hframe, hemitted⟩ :=
    applyEffects_agree h.frame hrd.append.2 ha
  cases hr
  refine ⟨_, bind_eq_ok.2 ⟨_, ha', rfl⟩, ?_⟩
  by_cases hdry : pol.status = .dryRun
  · simp only [if_pos hdry]
    exact ⟨h.frame, h.emitted, h.matchedWhitelistIds⟩
  simp only [if_neg hdry]
  refine ⟨hframe, h.emitted.append hemitted, ?_⟩
  show (if _ then _ else _) = if _ then _ else _
  rw [h.matchedWhitelistIds]

theorem runPolicies_agree {after : Tally} (h : tally.Decides hidden tally')
    (hrd : ∀ pol ∈ pols, Avoids hidden pol.reads)
    (hr : pols.foldlM (runPolicy rt) tally = .ok after) :
    ∃ after', pols.foldlM (runPolicy rt) tally' = .ok after' ∧ after.Decides hidden after' := by
  induction pols generalizing tally tally' with
  | nil =>
    cases hr
    exact ⟨tally', rfl, h⟩
  | cons pol pols ih =>
    obtain ⟨middle, hmid, hr⟩ := Fallible.foldlM_cons_eq_ok.1 hr
    obtain ⟨middle', hmid', hdecides⟩ :=
      runPolicy_agree h (hrd pol List.mem_cons_self) hmid
    obtain ⟨after', hafter', hdecides'⟩ :=
      ih hdecides (fun other ho => hrd other (List.mem_cons_of_mem pol ho)) hr
    exact ⟨after', Fallible.foldlM_cons_eq_ok.2 ⟨middle', hmid', hafter'⟩, hdecides'⟩

variable (h : Agree hidden context context')
  (hexceptions : ∀ exc ∈ exs, Avoids hidden exc.condition.reads)
include h hexceptions

theorem enforcedWhitelists_agree :
    enforcedWhitelists rt context t exs pols = enforcedWhitelists rt context' t exs pols := by
  have hexcepted (pol : Policy) :
      excepted rt context t exs pol = excepted rt context' t exs pol := by
    have hof : ∀ exc ∈ exceptionsOf exs pol,
        Avoids hidden exc.condition.reads :=
      fun exc hm => hexceptions exc (List.mem_filter.1 hm).1
    unfold excepted
    rw [matchedException_agree h hof]
  induction pols with
  | nil => rfl
  | cons pol pols ih => rw [enforcedWhitelists, enforcedWhitelists, hexcepted, ih]

/-- Contexts that differ only where no policy and no exception reads give the same decision, and
differ only there in the end. -/
theorem evaluate_agree {res : Evaluation} (hrd : ∀ pol ∈ pols, Avoids hidden pol.reads)
    (hr : evaluate rt pols context exs t = .ok res) :
    ∃ res', evaluate rt pols context' exs t = .ok res'
      ∧ res.decision = res'.decision
      ∧ Agree hidden res.effectiveContext res'.effectiveContext := by
  simp only [evaluate, bind_eq_ok] at hr
  obtain ⟨ms, hms, tally, htally, whitelists, hwhitelists, hr⟩ := hr
  cases hr
  have hview : ∀ pol ∈ pols, (matchPolicy rt context exs t pol).map id
      = (matchPolicy rt context' exs t pol).map id :=
    fun pol hp => by rw [matchPolicy_agree h (hrd pol hp) hexceptions]
  obtain ⟨ms', hms', hs⟩ := Fallible.mapM_view hview hms
  rw [List.map_id, List.map_id] at hs
  subst hs
  have hc : ∀ pol ∈ candidates ms, Avoids hidden pol.reads :=
    fun pol hp => hrd pol (mem_of_mem_candidates hms hp)
  have hstart : Tally.Decides hidden { frame := { context } }
      { frame := { context := context' } } := ⟨⟨h, rfl⟩, .refl _, rfl⟩
  obtain ⟨tally', htally', hdecision⟩ := runPolicies_agree hstart hc htally
  rw [enforcedWhitelists_agree hdecision.frame.context hexceptions] at hwhitelists
  refine ⟨conclude ms tally' whitelists, bind_eq_ok.2 ⟨_, hms', bind_eq_ok.2
    ⟨_, htally', bind_eq_ok.2 ⟨_, hwhitelists, rfl⟩⟩⟩, ?_, hdecision.frame.context⟩
  show decisionOf _ _ = decisionOf _ _
  rw [hdecision.emitted.violations, hdecision.emitted.approvals, hdecision.matchedWhitelistIds]

end Decision

end CloudPortal.Engine
