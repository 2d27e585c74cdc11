/-
CloudPortal/Policy/NonInterference.lean

What policies do not do to each other.

A policy that is only tried out, or not in force at all, changes nothing of the result
(`nonEnforced_noninterference`): its effects work on copies of the context and of the locked
fields, and whitelists that are not enforced are not asked for.

A policy whose effects only restrict leaves the context and the locked fields as they are,
so one more of them can be put at any place of the order: every other policy does what it did
before, and the reports grow (`restriction_monotone`).

Both are runs in which policies are left out.  `Fallible.foldlM_filter` carries the relation
between the two tallies: equality for the first, inclusion of the reports for the second.
-/
import CloudPortal.Policy.EvaluationOrder

namespace CloudPortal.Engine

open Document Transition Fallible

variable {rt : Runtime} {context : Entries} {exceptions : List PolicyException} {instant : ℤ}

/-! ### Leaving policies out -/

section LeaveOut

variable {pols : List Policy} {ms : List Matching} (kept : Policy → Bool)

theorem matchings_filter (h : pols.mapM (matchPolicy rt context exceptions instant) = .ok ms) :
    (pols.filter kept).mapM (matchPolicy rt context exceptions instant)
      = .ok (ms.filter fun matching => kept matching.policy) := by
  refine mapM_filter (fun policy matching hm => ?_) h
  rw [(matchPolicy_eq_ok hm).1]

theorem filter_map_policy (p : Matching → Bool) (ms : List Matching) :
    ((ms.filter p).map (·.policy)).filter kept
      = ((ms.filter fun matching => kept matching.policy).filter p).map (·.policy) := by
  rw [List.filter_map, List.filter_filter, List.filter_filter]
  simp only [Function.comp_def, Bool.and_comm]

theorem candidates_filter (ms : List Matching) :
    candidates (ms.filter fun matching => kept matching.policy) = (candidates ms).filter kept := by
  rw [candidates, candidates, Batch.filter_insertionSort, filter_map_policy]

theorem whitelistCandidates_filter (ms : List Matching) :
    whitelistCandidates (ms.filter fun matching => kept matching.policy)
      = (whitelistCandidates ms).filter kept :=
  (filter_map_policy kept _ ms).symm

end LeaveOut

variable {em : Emitted} {pol : Policy} {after tally tally' : Tally}

/-- One round of the second loop. -/
theorem runPolicy_eq_ok :
    runPolicy rt tally pol = .ok tally'
      ↔ ∃ frame em,
        applyEffects rt pol.id (pol.enforcement = .advisory) tally.frame pol.effects
          = .ok (frame, em)
        ∧ tally' = if pol.status = .dryRun then tally.tryOut pol frame em
            else tally.enforce pol frame em := by
  constructor
  · intro h
    obtain ⟨⟨frame, em⟩, ha, h⟩ := bind_eq_ok.1 h
    exact ⟨frame, em, ha, (Except.ok.inj h).symm⟩
  · rintro ⟨frame, em, ha, rfl⟩
    exact bind_eq_ok.2 ⟨(frame, em), ha, rfl⟩

/-! ### Policies that are not enforced -/

def Policy.isEnforced (policy : Policy) : Bool := policy.status = .enforced

/-- The part of the tally that goes into the decision. -/
structure Tally.Agree (tally tally' : Tally) : Prop where
  frame : tally.frame = tally'.frame
  emitted : tally.emitted = tally'.emitted
  matchedWhitelistIds : tally.matchedWhitelistIds = tally'.matchedWhitelistIds

theorem Tally.Agree.enforce (h : tally.Agree tally') (pol : Policy) (frame : Frame) (em : Emitted) :
    (tally.enforce pol frame em).Agree (tally'.enforce pol frame em) := by
  refine ⟨rfl, ?_, ?_⟩
  · show tally.emitted.append em = tally'.emitted.append em
    rw [h.emitted]
  · show (if _ then _ else tally.matchedWhitelistIds) = if _ then _ else tally'.matchedWhitelistIds
    rw [h.matchedWhitelistIds]

theorem Tally.Agree.runPolicy (h : tally.Agree tally')
    (hr : runPolicy rt tally pol = .ok after) (henforced : pol.isEnforced) :
    ∃ after', Engine.runPolicy rt tally' pol = .ok after' ∧ after.Agree after' := by
  obtain ⟨frame, em, ha, rfl⟩ := runPolicy_eq_ok.1 hr
  have hs : pol.status ≠ .dryRun := by
    rw [of_decide_eq_true henforced]
    decide
  rw [h.frame] at ha
  refine ⟨_, runPolicy_eq_ok.2 ⟨frame, em, ha, rfl⟩, ?_⟩
  rw [if_neg hs, if_neg hs]
  exact h.enforce pol frame em

variable {policies : List Policy} {mts mts' : List Matching}
  {result result' : Evaluation} {frame frame' : Frame} {em' : Emitted} {pid : String} {adv : Bool}

/-- A candidate that is not enforced is tried out. -/
theorem dryRun_of_mem_candidates
    (h : policies.mapM (matchPolicy rt context exceptions instant) = .ok mts)
    (hm : pol ∈ candidates mts) (henforced : pol.isEnforced = false) :
    pol.status = .dryRun := by
  obtain ⟨matching, hmatching, rfl⟩ := List.mem_map.1 ((List.mem_insertionSort _).1 hm)
  obtain ⟨hmatching, hn⟩ := List.mem_filter.1 hmatching
  obtain ⟨pol, -, hp⟩ := mem_of_mapM h hmatching
  obtain ⟨hs, hst, -⟩ := matchPolicy_eq_ok hp
  rw [hs] at henforced ⊢
  refine (hst (Option.isNone_iff_eq_none.1 hn)).resolve_left ?_
  exact of_decide_eq_false henforced

theorem enforcedWhitelists_filter (policies : List Policy) :
    enforcedWhitelists rt context instant exceptions (policies.filter Policy.isEnforced)
      = enforcedWhitelists rt context instant exceptions policies := by
  induction policies with
  | nil => rfl
  | cons pol policies ih =>
    rw [List.filter_cons]
    by_cases hs : pol.status = .enforced
    · have henforced : pol.isEnforced = true := decide_eq_true hs
      rw [if_pos henforced, enforcedWhitelists, enforcedWhitelists, if_pos hs, if_pos hs, ih]
    · rw [if_neg (by simpa [Policy.isEnforced] using hs), ih]
      conv_rhs => rw [enforcedWhitelists, if_neg hs]

/-- The parts of a result that decide about the request. -/
structure Evaluation.Agree (result result' : Evaluation) : Prop where
  decision : result.decision = result'.decision
  effectiveContext : result.effectiveContext = result'.effectiveContext
  appliedEffects : result.appliedEffects = result'.appliedEffects
  warnings : result.warnings = result'.warnings
  violations : result.violations = result'.violations
  approvals : result.approvals = result'.approvals
  obligations : result.obligations = result'.obligations

/-- The enforced policies alone give the same result. -/
theorem evaluate_filter_enforced
    (h : evaluate rt policies context exceptions instant = .ok result) :
    ∃ result', evaluate rt (policies.filter Policy.isEnforced) context exceptions instant
        = .ok result' ∧ result.Agree result' := by
  obtain ⟨mts, tally, wls, hms, htally, hwhit, rfl⟩ :=
    evaluate_eq_ok.1 h
  have hs : Tally.Agree { frame := { context } } { frame := { context } } := ⟨rfl, rfl, rfl⟩
  obtain ⟨tally', htally', ha⟩ := foldlM_filter
    (fun _ _ _ _ _ henforced ha hr => ha.runPolicy hr henforced)
    (fun before before' pol after hm henforced ha hr => by
      obtain ⟨frame, em, -, rfl⟩ := runPolicy_eq_ok.1 hr
      rw [if_pos (dryRun_of_mem_candidates hms hm henforced)]
      exact ⟨ha.frame, ha.emitted, ha.matchedWhitelistIds⟩)
    hs htally
  rw [← candidates_filter] at htally'
  rw [← enforcedWhitelists_filter, ← whitelistCandidates_filter, ha.frame] at hwhit
  exact ⟨_, evaluate_eq_ok.2 ⟨_, tally', wls, matchings_filter _ hms, htally', hwhit, rfl⟩, by
      simp only [conclude, ha.frame, ha.emitted, ha.matchedWhitelistIds]
      exact ⟨rfl, rfl, rfl, rfl, rfl, rfl, rfl⟩⟩

/-- Policies that are tried out, drafted, disabled or archived can be added and removed. -/
theorem nonEnforced_noninterference {policies' : List Policy}
    (hsame : policies.filter Policy.isEnforced = policies'.filter Policy.isEnforced)
    (h : evaluate rt policies context exceptions instant = .ok result)
    (h' : evaluate rt policies' context exceptions instant = .ok result') :
    result.Agree result' := by
  obtain ⟨middle, hmid, ha⟩ := evaluate_filter_enforced h
  obtain ⟨middle', hmid', ha'⟩ := evaluate_filter_enforced h'
  rw [← hsame, hmid] at hmid'
  cases hmid'
  exact ⟨ha.decision.trans ha'.decision.symm,
    ha.effectiveContext.trans ha'.effectiveContext.symm,
    ha.appliedEffects.trans ha'.appliedEffects.symm,
    ha.warnings.trans ha'.warnings.symm,
    ha.violations.trans ha'.violations.symm,
    ha.approvals.trans ha'.approvals.symm,
    ha.obligations.trans ha'.obligations.symm⟩

/-- A whitelist that is tried out, with an effect that would change the request. -/
def triedWhitelist : Policy where
  id := "tried"
  policyType := .access
  priority := 9000
  status := .dryRun
  effects := [{ type := "allow", mode := .text "whitelist" },
    { type := "force_value", field := "resource.tags", value := some .null }]

theorem nonEnforced_noninterference_whitelist :
    ∃ result result',
      evaluate .plain [triedWhitelist, denyAll "closed"] taggedRequest [] 0 = .ok result
      ∧ evaluate .plain [denyAll "closed"] taggedRequest [] 0 = .ok result'
      ∧ result.Agree result' := by
  obtain ⟨result, h⟩ := isOk_iff.1
    (show (evaluate .plain [triedWhitelist, denyAll "closed"] taggedRequest [] 0).isOk from rfl)
  obtain ⟨result', h'⟩ := isOk_iff.1
    (show (evaluate .plain [denyAll "closed"] taggedRequest [] 0).isOk from rfl)
  exact ⟨result, result', h, h', nonEnforced_noninterference (by rfl) h h'⟩

/-! ### Policies that only restrict -/

/-- Effects that leave the request as it is. -/
def Effect.restrictive (effect : Effect) : Bool :=
  match effect.kind with
  | .allow | .deny | .warn | .requireApproval | .limitValue | .require _ => true
  | .other name => name = "notify"
  | _ => false

theorem applyMatched_restrictive {eff : Effect} (heffect : eff.restrictive)
    (h : applyMatched rt pid adv eff frame = .ok (frame', em)) :
    frame' = frame := by
  cases hk : eff.kind <;> simp only [Effect.restrictive, hk, Bool.false_eq_true] at heffect <;>
    simp only [applyMatched, hk] at h
  case limitValue =>
    obtain ⟨breach, -, h⟩ := bind_eq_ok.1 h
    cases breach with
    | none | some breach =>
      cases h
      rfl
  all_goals
    cases h
    rfl

theorem applyEffects_restrictive {effs : List Effect} (he : ∀ eff ∈ effs, eff.restrictive)
    (h : applyEffects rt pid adv frame effs = .ok (frame', em)) :
    frame' = frame := by
  induction effs generalizing frame em with
  | nil =>
    cases h
    rfl
  | cons eff effs ih =>
    obtain ⟨heffect, he⟩ := List.forall_mem_cons.1 he
    obtain ⟨⟨middle, first⟩, hf, h⟩ := bind_eq_ok.1 h
    obtain ⟨⟨last, rest⟩, hr, h⟩ := bind_eq_ok.1 h
    cases h
    rw [ih he hr]
    obtain ⟨holds, -, hf⟩ := bind_eq_ok.1 hf
    cases holds with
    | true => exact applyMatched_restrictive heffect hf
    | false =>
      cases hf
      rfl

/-- The second run has reported everything that the first one has. -/
structure Emitted.Within (emitted emitted' : Emitted) : Prop where
  violations : emitted.violations ⊆ emitted'.violations
  approvals : emitted.approvals ⊆ emitted'.approvals
  obligations : emitted.obligations ⊆ emitted'.obligations

theorem append_subset_append {α : Type} {xs ys : List α} (h : xs ⊆ ys) (zs : List α) :
    xs ++ zs ⊆ ys ++ zs :=
  List.append_subset.2 ⟨List.subset_append_of_subset_left zs h, List.subset_append_right ys zs⟩

theorem Emitted.Within.append (h : em.Within em') (more : Emitted) :
    (em.append more).Within (em'.append more) :=
  ⟨append_subset_append h.violations _, append_subset_append h.approvals _,
    append_subset_append h.obligations _⟩

theorem Emitted.Within.append_right (h : em.Within em') (more : Emitted) :
    em.Within (em'.append more) :=
  ⟨List.subset_append_of_subset_left _ h.violations,
    List.subset_append_of_subset_left _ h.approvals,
    List.subset_append_of_subset_left _ h.obligations⟩

/-- The run with the policy, and the run without it. -/
structure Tally.Extends (tally tally' : Tally) : Prop where
  frame : tally.frame = tally'.frame
  emitted : tally'.emitted.Within tally.emitted
  matchedWhitelistIds : tally.matchedWhitelistIds = tally'.matchedWhitelistIds

theorem Tally.Extends.runPolicy (h : tally.Extends tally')
    (hr : runPolicy rt tally pol = .ok after) :
    ∃ after', Engine.runPolicy rt tally' pol = .ok after' ∧ after.Extends after' := by
  obtain ⟨frame, em, ha, rfl⟩ := runPolicy_eq_ok.1 hr
  rw [h.frame] at ha
  refine ⟨_, runPolicy_eq_ok.2 ⟨frame, em, ha, rfl⟩, ?_⟩
  split
  · exact ⟨h.frame, h.emitted, h.matchedWhitelistIds⟩
  refine ⟨rfl, h.emitted.append em, ?_⟩
  show (if _ then _ else tally.matchedWhitelistIds) = if _ then _ else tally'.matchedWhitelistIds
  rw [h.matchedWhitelistIds]

/-- A policy that only restricts and is no whitelist. -/
theorem Tally.Extends.added (h : tally.Extends tally')
    (hrun : Engine.runPolicy rt tally pol = .ok after)
    (hwhitelist : isWhitelistAccess pol = false)
    (hr : ∀ eff ∈ pol.effects, eff.restrictive) : after.Extends tally' := by
  obtain ⟨frame, em, ha, rfl⟩ := runPolicy_eq_ok.1 hrun
  obtain rfl := applyEffects_restrictive hr ha
  split
  · exact ⟨h.frame, h.emitted, h.matchedWhitelistIds⟩
  refine ⟨h.frame, h.emitted.append_right em, ?_⟩
  show (if _ then _ else tally.matchedWhitelistIds) = tally'.matchedWhitelistIds
  rw [if_neg (by simp [hwhitelist]), h.matchedWhitelistIds]

/-- `allow < approval_required < deny`. -/
def Decision.rank : Decision → ℕ
  | .allow => 0
  | .approvalRequired => 1
  | .deny => 2

theorem decisionOf_mono {vs vs' : List Violation} {apps apps' : List Approval}
    (hviolations : vs ⊆ vs') (ha : apps ⊆ apps') :
    (decisionOf vs apps).rank ≤ (decisionOf vs' apps').rank := by
  unfold decisionOf
  cases vs with
  | cons violation vs =>
    have hm := hviolations List.mem_cons_self
    cases vs' with
    | nil => cases hm
    | cons => exact le_rfl
  | nil =>
    cases apps with
    | cons approval apps =>
      have hm := ha List.mem_cons_self
      cases apps' with
      | nil => cases hm
      | cons =>
        cases vs' with
        | nil => exact le_rfl
        | cons => exact Nat.le_succ 1
    | nil => exact Nat.zero_le _

/-- The result with one more policy contains the result without it. -/
structure Evaluation.Within (result result' : Evaluation) : Prop where
  decision : result.decision.rank ≤ result'.decision.rank
  violations : result.violations ⊆ result'.violations
  approvals : result.approvals ⊆ result'.approvals
  obligations : result.obligations ⊆ result'.obligations

theorem conclude_within (h : tally'.Extends tally) (wls : List Policy) :
    (conclude mts tally wls).Within (conclude mts' tally' wls) := by
  have hviolations : tally.emitted.violations
        ++ whitelistViolations wls tally.matchedWhitelistIds
      ⊆ tally'.emitted.violations
        ++ whitelistViolations wls tally'.matchedWhitelistIds := by
    rw [h.matchedWhitelistIds]
    exact append_subset_append h.emitted.violations _
  exact ⟨decisionOf_mono hviolations h.emitted.approvals, hviolations, h.emitted.approvals,
    h.emitted.obligations⟩

section

variable (h : policies.mapM (matchPolicy rt context exceptions instant) = .ok mts)
include h

/-- A policy that is no whitelist is not among the candidates. -/
theorem not_mem_whitelistCandidates (hwhitelist : isWhitelistAccess pol = false) :
    pol ∉ whitelistCandidates mts := by
  intro hm
  obtain ⟨matching, hmatching, rfl⟩ := List.mem_map.1 hm
  obtain ⟨hmatching, hlisted⟩ := List.mem_filter.1 hmatching
  obtain ⟨pol, -, hp⟩ := mem_of_mapM h hmatching
  obtain ⟨hs, -, hlist⟩ := matchPolicy_eq_ok hp
  rw [hs, hlist hlisted] at hwhitelist
  cases hwhitelist

theorem mem_of_mem_candidates (hm : pol ∈ candidates mts) : pol ∈ policies := by
  obtain ⟨matching, hmatching, rfl⟩ := List.mem_map.1 ((List.mem_insertionSort _).1 hm)
  obtain ⟨pol, hp, hmatched⟩ := mem_of_mapM h (List.mem_of_mem_filter hmatching)
  rw [(matchPolicy_eq_ok hmatched).1]
  exact hp

end

/-- One more policy with a fresh id that only restricts. -/
theorem restriction_monotone {before after : List Policy} {added : Policy}
    (hfresh : ∀ policy ∈ before ++ after, policy.id ≠ added.id)
    (hwhitelist : isWhitelistAccess added = false)
    (hrestrictive : ∀ effect ∈ added.effects, effect.restrictive)
    (h : evaluate rt (before ++ added :: after) context exceptions instant = .ok result') :
    ∃ result, evaluate rt (before ++ after) context exceptions instant = .ok result
      ∧ result.Within result' := by
  obtain ⟨matchings, tally, whitelists, hmatchings, htally, hwhitelists, rfl⟩ :=
    evaluate_eq_ok.1 h
  have hadd {policy : Policy} (hp : policy ∈ before ++ added :: after)
      (hi : policy.id = added.id) : policy = added := by
    rcases List.mem_append.1 hp with hp | hp
    · exact absurd hi (hfresh policy (List.mem_append_left _ hp))
    rcases List.mem_cons.1 hp with rfl | hp
    · rfl
    · exact absurd hi (hfresh policy (List.mem_append_right _ hp))
  -- the other policies are those with another id
  have ho : (before ++ added :: after).filter (·.id ≠ added.id) = before ++ after := by
    rw [List.filter_append, List.filter_cons_of_neg (by simp), ← List.filter_append]
    exact List.filter_eq_self.2 fun policy hp => decide_eq_true (hfresh policy hp)
  have hs : Tally.Extends { frame := { context } } { frame := { context } } :=
    ⟨rfl, ⟨List.Subset.refl _, List.Subset.refl _, List.Subset.refl _⟩, rfl⟩
  obtain ⟨tally', htally', hext⟩ := foldlM_filter (f := runPolicy rt)
    (R := Tally.Extends) (p := fun policy : Policy => policy.id ≠ added.id)
    (fun _ _ _ _ _ _ hext hr => hext.runPolicy hr)
    (fun _ _ policy _ hm hi hext hr => by
      have hi : policy.id = added.id := by simpa using hi
      obtain rfl := hadd (mem_of_mem_candidates hmatchings hm) hi
      exact hext.added hr hwhitelist hrestrictive) hs htally
  have hc : (whitelistCandidates matchings).filter (·.id ≠ added.id)
      = whitelistCandidates matchings := by
    refine List.filter_eq_self.2 fun policy hp => decide_eq_true fun hi => ?_
    obtain ⟨matching, hmatc, rfl⟩ := List.mem_map.1 hp
    obtain ⟨policy, hm, hmat⟩ := mem_of_mapM hmatchings (List.mem_of_mem_filter hmatc)
    rw [(matchPolicy_eq_ok hmat).1] at hi hp
    obtain rfl := hadd hm hi
    exact not_mem_whitelistCandidates hmatchings hwhitelist hp
  have hk := matchings_filter (·.id ≠ added.id) hmatchings
  rw [ho] at hk
  rw [← candidates_filter] at htally'
  rw [← hc, ← whitelistCandidates_filter, hext.frame] at hwhitelists
  exact ⟨_, evaluate_eq_ok.2 ⟨_, tally', whitelists, hk, htally', hwhitelists, rfl⟩,
    conclude_within hext whitelists⟩

/-- A limit of high priority, added to a policy that changes the limited field. -/
def tagLimit : Policy where
  id := "limit"
  priority := 9000
  status := .enforced
  effects := [{ type := "limit_value", field := "resource.cpu", max := .int 8 },
    { type := "require_approval" }]

def forceCpu : Policy where
  id := "force"
  status := .enforced
  effects := [{ type := "force_value", field := "resource.cpu", value := some (.int 4) },
    { type := "notify" }]

theorem restriction_monotone_limit :
    ∃ result result',
      evaluate .plain ([] ++ [forceCpu]) taggedRequest [] 0 = .ok result
      ∧ evaluate .plain ([] ++ tagLimit :: [forceCpu]) taggedRequest [] 0 = .ok result'
      ∧ result.Within result' := by
  obtain ⟨result', h'⟩ := isOk_iff.1
    (show (evaluate .plain ([] ++ tagLimit :: [forceCpu]) taggedRequest [] 0).isOk from rfl)
  obtain ⟨result, h, hwithin⟩ := restriction_monotone (by decide) (by rfl) (by decide) h'
  exact ⟨result, result', h, h', hwithin⟩

end CloudPortal.Engine
