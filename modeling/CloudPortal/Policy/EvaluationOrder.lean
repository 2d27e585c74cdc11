/-
CloudPortal/Policy/EvaluationOrder.lean

The order in which policies and exceptions are given does not matter to `evaluate`.

Matching is done before any effect is applied, so it depends on one policy at a time; the
sort key is a total order on policies with different ids, so the loop over the effects is the
same; and the exceptions of a policy only decide whether there is one that matches.

The last point has a gap: the search for an exception stops at the first one that matches, so
an exception whose condition raises is met or not met, depending on the order.  Where no policy
that is asked for has both, and only there, every order gives the same (`evaluate_perm`).
-/
import CloudPortal.Policy.Engine
import CloudPortal.Lib.Fallible

namespace CloudPortal.Engine

open Document Transition Fallible

/-! ### The sort key -/

instance : Std.Total comesBefore where
  total first second := by
    unfold comesBefore
    rcases lt_trichotomy first.priority second.priority with h | h | h
    · exact .inr (.inl h)
    · rcases lt_trichotomy (specificity first) (specificity second) with h' | h' | h'
      · exact .inr (.inr ⟨h.symm, .inl h'⟩)
      · rcases String.le_total first.id second.id with h'' | h''
        · exact .inl (.inr ⟨h, .inr ⟨h', h''⟩⟩)
        · exact .inr (.inr ⟨h.symm, .inr ⟨h'.symm, h''⟩⟩)
      · exact .inl (.inr ⟨h, .inl h'⟩)
    · exact .inl (.inl h)

instance : IsTrans Policy comesBefore where
  trans first second third := by
    unfold comesBefore
    rintro (h | ⟨h, h₁ | ⟨h₁, h₂⟩⟩) (h' | ⟨h', h₁' | ⟨h₁', h₂'⟩⟩)
    · exact .inl (h'.trans h)
    · exact .inl (h' ▸ h)
    · exact .inl (h' ▸ h)
    · exact .inl (h ▸ h')
    · exact .inr ⟨h.trans h', .inl (h₁'.trans h₁)⟩
    · exact .inr ⟨h.trans h', .inl (h₁' ▸ h₁)⟩
    · exact .inl (h ▸ h')
    · exact .inr ⟨h.trans h', .inl (h₁ ▸ h₁')⟩
    · exact .inr ⟨h.trans h', .inr ⟨h₁.trans h₁', String.le_trans h₂ h₂'⟩⟩

/-- Policies that come before each other have the same id. -/
theorem id_eq_of_comesBefore {first second : Policy} (h : comesBefore first second)
    (h' : comesBefore second first) : first.id = second.id := by
  unfold comesBefore at h h'
  rcases h with h | ⟨h, h₁ | ⟨h₁, h₂⟩⟩ <;> rcases h' with h' | ⟨h', h₁' | ⟨h₁', h₂'⟩⟩
  case inr.inr.inr.inr => exact String.le_antisymm h₂ h₂'
  all_goals omega

/-! ### The parts of an evaluation -/

section Parts

variable {rt : Runtime} {pols : List Policy} {context : Entries}
  {exs : List PolicyException} {t : ℤ}

theorem evaluate_eq_ok {res : Evaluation} :
    evaluate rt pols context exs t = .ok res
      ↔ ∃ ms tally wls,
        pols.mapM (matchPolicy rt context exs t) = .ok ms
        ∧ (candidates ms).foldlM (runPolicy rt) { frame := { context } } = .ok tally
        ∧ enforcedWhitelists rt tally.frame.context t exs (whitelistCandidates ms) = .ok wls
        ∧ res = conclude ms tally wls := by
  constructor
  · intro h
    simp only [evaluate, bind_eq_ok] at h
    obtain ⟨ms, hms, tally, htally, wls, hwhitelists, h⟩ := h
    exact ⟨ms, tally, wls, hms, htally, hwhitelists, (Except.ok.inj h).symm⟩
  · rintro ⟨ms, tally, wls, hms, htally, hwhitelists, rfl⟩
    exact bind_eq_ok.2 ⟨ms, hms, bind_eq_ok.2 ⟨tally, htally, bind_eq_ok.2 ⟨wls, hwhitelists, rfl⟩⟩⟩

/-- What is found out about a policy: a match needs a status in force, or one that is tried out,
and only whitelists are whitelist candidates. -/
theorem matchPolicy_eq_ok {pol : Policy} {matching : Matching}
    (h : matchPolicy rt context exs t pol = .ok matching) :
    matching.policy = pol
      ∧ (matching.mismatch = none → pol.status = .enforced ∨ pol.status = .dryRun)
      ∧ (matching.whitelist = true → isWhitelistAccess pol = true) := by
  unfold matchPolicy at h
  split at h
  · cases h
    exact ⟨rfl, by simp, by simp⟩
  next hs =>
  have hs : pol.status = .enforced ∨ pol.status = .dryRun := by
    by_contra hneither
    exact hs (not_or.1 hneither)
  obtain ⟨whitelist, hwhit, h⟩ := bind_eq_ok.1 h
  have hwhit : whitelist = true → isWhitelistAccess pol = true := by
    rintro rfl
    unfold isWhitelistCandidate at hwhit
    split at hwhit
    · assumption
    · cases hwhit
  obtain ⟨inScope, -, h⟩ := bind_eq_ok.1 h
  split at h
  · cases h
    exact ⟨rfl, fun _ => hs, hwhit⟩
  obtain ⟨holds, -, h⟩ := bind_eq_ok.1 h
  split at h
  · cases h
    exact ⟨rfl, fun _ => hs, hwhit⟩
  obtain ⟨found, -, h⟩ := bind_eq_ok.1 h
  cases h
  exact ⟨rfl, fun _ => hs, hwhit⟩

end Parts

/-! ### Exceptions -/

/-- Where one of the exceptions matches, none of them raises. -/
def Unambiguous (rt : Runtime) (context : Entries) (instant : ℤ)
    (exceptions : List PolicyException) : Prop :=
  (∃ exception ∈ exceptions, exceptionMatches rt context instant exception = .ok true) →
    ∀ exception ∈ exceptions, ∃ holds, exceptionMatches rt context instant exception = .ok holds

/-- The exceptions of the policy are asked for: it is in force or tried out, and the request is in
its scope and meets its condition. -/
def Policy.Searched (rt : Runtime) (context : Entries) (policy : Policy) : Prop :=
  (policy.status = .enforced ∨ policy.status = .dryRun)
    ∧ scopeMatches rt context false policy = .ok true
    ∧ policy.condition.evaluate rt context = .ok true

section Exceptions

variable {rt : Runtime} {context : Entries} {now : ℤ} {exceptions exceptions' : List PolicyException}
  {pol : Policy} {matching : Matching}

theorem exceptionsOf_perm (hperm : exceptions.Perm exceptions') (pol : Policy) :
    (exceptionsOf exceptions pol).Perm (exceptionsOf exceptions' pol) :=
  hperm.filter _

theorem matchedException_cons {exc : PolicyException} {holds : Bool}
    (h : exceptionMatches rt context now exc = .ok holds) :
    matchedException rt context now (exc :: exceptions)
      = if holds then .ok (some exc) else matchedException rt context now exceptions := by
  rw [matchedException, h]
  rfl

/-- Nothing is found where nothing matches. -/
theorem matchedException_eq_none :
    matchedException rt context now exceptions = .ok none
      ↔ ∀ exc ∈ exceptions, exceptionMatches rt context now exc = .ok false := by
  induction exceptions with
  | nil => exact ⟨fun _ => nofun, fun _ => rfl⟩
  | cons exc exceptions ih =>
    rw [List.forall_mem_cons, ← ih]
    cases h : exceptionMatches rt context now exc with
    | error e =>
      rw [matchedException, h]
      exact ⟨nofun, nofun⟩
    | ok holds =>
      rw [matchedException_cons h]
      cases holds with
      | true => exact ⟨nofun, nofun⟩
      | false => exact ⟨fun h => ⟨rfl, h⟩, And.right⟩

theorem matches_of_matchedException {exc : PolicyException}
    (h : matchedException rt context now exceptions = .ok (some exc)) :
    exc ∈ exceptions ∧ exceptionMatches rt context now exc = .ok true := by
  induction exceptions with
  | nil => cases h
  | cons first exceptions ih =>
    cases hfirst : exceptionMatches rt context now first with
    | error e =>
      rw [matchedException, hfirst] at h
      cases h
    | ok holds =>
      rw [matchedException_cons hfirst] at h
      cases holds with
      | true =>
        cases h
        exact ⟨List.mem_cons_self, hfirst⟩
      | false => exact ⟨List.mem_cons_of_mem _ (ih h).1, (ih h).2⟩

theorem exists_matchedException
    (h : ∀ exc ∈ exceptions, ∃ holds, exceptionMatches rt context now exc = .ok holds) :
    ∃ found, matchedException rt context now exceptions = .ok found := by
  induction exceptions with
  | nil => exact ⟨none, rfl⟩
  | cons exc exceptions ih =>
    obtain ⟨⟨holds, hholds⟩, hrest⟩ := List.forall_mem_cons.1 h
    rw [matchedException_cons hholds]
    cases holds with
    | true => exact ⟨some exc, rfl⟩
    | false => exact ih hrest

/-- Whether one is found does not depend on the order. -/
theorem matchedException_perm (hperm : exceptions.Perm exceptions')
    (hclear : Unambiguous rt context now exceptions) {found : Option PolicyException}
    (h : matchedException rt context now exceptions = .ok found) :
    ∃ found', matchedException rt context now exceptions' = .ok found'
      ∧ found.isSome = found'.isSome := by
  cases found with
  | none =>
    refine ⟨none, matchedException_eq_none.2 fun exc hexception => ?_, rfl⟩
    exact matchedException_eq_none.1 h exc (hperm.mem_iff.2 hexception)
  | some exc =>
    obtain ⟨hexception, hmatches⟩ := matches_of_matchedException h
    have htotal := hclear ⟨exc, hexception, hmatches⟩
    obtain ⟨found', hfound'⟩ :=
      exists_matchedException fun other ho => htotal other (hperm.mem_iff.2 ho)
    refine ⟨found', hfound', ?_⟩
    cases found' with
    | some _ => rfl
    | none =>
      have hno := matchedException_eq_none.1 hfound' exc (hperm.mem_iff.1 hexception)
      cases hno.symm.trans hmatches

/-- One that raises can be asked first. -/
theorem exists_raising_order (h : ¬Unambiguous rt context now (exceptionsOf exceptions pol)) :
    ∃ exceptions', exceptions.Perm exceptions'
      ∧ ∀ found, matchedException rt context now (exceptionsOf exceptions' pol) ≠ .ok found := by
  obtain ⟨-, h⟩ := Classical.not_imp.1 h
  push Not at h
  obtain ⟨exc, hexception, hraises⟩ := h
  obtain ⟨hexception, hof⟩ := List.mem_filter.1 hexception
  obtain ⟨before, after, rfl⟩ := List.append_of_mem hexception
  refine ⟨exc :: (before ++ after), List.perm_middle, fun found hfound => ?_⟩
  rw [exceptionsOf, List.filter_cons, if_pos hof, matchedException] at hfound
  obtain ⟨holds, hholds, -⟩ := bind_eq_ok.1 hfound
  exact hraises holds hholds

/-- A round of the first loop asks the exceptions. -/
theorem found_of_searched (hsearched : pol.Searched rt context)
    (h : matchPolicy rt context exceptions now pol = .ok matching) :
    ∃ found, matchedException rt context now (exceptionsOf exceptions pol) = .ok found := by
  obtain ⟨hs, hscope, hcondition⟩ := hsearched
  rw [matchPolicy, if_neg (by tauto), hscope, hcondition] at h
  obtain ⟨_, -, h⟩ := bind_eq_ok.1 h
  obtain ⟨_, ⟨⟩, h⟩ := bind_eq_ok.1 h
  obtain ⟨_, ⟨⟩, h⟩ := bind_eq_ok.1 h
  obtain ⟨found, hfound, -⟩ := bind_eq_ok.1 h
  exact ⟨found, hfound⟩

theorem whitelist_of_matchPolicy (hs : pol.status = .enforced)
    (h : matchPolicy rt context exceptions now pol = .ok matching) :
    isWhitelistCandidate rt context pol = .ok matching.whitelist := by
  rw [matchPolicy, if_neg (by simp [hs])] at h
  obtain ⟨whitelist, hwhitelist, h⟩ := bind_eq_ok.1 h
  rw [hwhitelist]
  obtain ⟨inScope, -, h⟩ := bind_eq_ok.1 h
  split at h
  · cases h
    rfl
  obtain ⟨holds, -, h⟩ := bind_eq_ok.1 h
  split at h
  · cases h
    rfl
  obtain ⟨found, -, h⟩ := bind_eq_ok.1 h
  cases h
  rfl

/-- All of a matching but which exception was found. -/
def Matching.view (matching : Matching) : Policy × Bool × Bool :=
  (matching.policy, matching.whitelist, matching.mismatch.isNone)

theorem matchPolicy_view (hperm : exceptions.Perm exceptions')
    (hclear : pol.Searched rt context →
      Unambiguous rt context now (exceptionsOf exceptions pol))
    (h : matchPolicy rt context exceptions now pol = .ok matching) :
    (matchPolicy rt context exceptions now pol).map Matching.view
      = (matchPolicy rt context exceptions' now pol).map Matching.view := by
  by_cases hs : pol.status ≠ .enforced ∧ pol.status ≠ .dryRun
  · rw [matchPolicy, matchPolicy, if_pos hs, if_pos hs]
  by_cases hsearched : pol.Searched rt context
  · obtain ⟨found, hfound⟩ := found_of_searched hsearched h
    obtain ⟨found', hfound', hsome⟩ :=
      matchedException_perm (exceptionsOf_perm hperm pol) (hclear hsearched) hfound
    rw [matchPolicy, matchPolicy, if_neg hs, if_neg hs, hfound, hfound', hsearched.2.1,
      hsearched.2.2]
    cases isWhitelistCandidate rt context pol with
    | error e => rfl
    | ok whitelist =>
      show Except.ok (pol, whitelist, (found.map _).isNone)
        = Except.ok (pol, whitelist, (found'.map _).isNone)
      rw [Option.isNone_map, Option.isNone_map, ← Option.not_isSome, ← Option.not_isSome, hsome]
  · -- the exceptions are not asked
    have hin : pol.status = .enforced ∨ pol.status = .dryRun := by tauto
    rw [matchPolicy, matchPolicy, if_neg hs, if_neg hs]
    cases isWhitelistCandidate rt context pol with
    | error e => rfl
    | ok whitelist =>
      cases hscope : scopeMatches rt context false pol with
      | error e => rfl
      | ok inScope =>
        cases inScope with
        | false => rfl
        | true =>
          cases hcondition : pol.condition.evaluate rt context with
          | error e => rfl
          | ok holds =>
            cases holds with
            | false => rfl
            | true => exact absurd ⟨hin, hscope, hcondition⟩ hsearched

theorem excepted_eq_ok {found : Option PolicyException}
    (h : matchedException rt context now (exceptionsOf exceptions pol) = .ok found) :
    excepted rt context now exceptions pol = .ok found.isSome := by
  rw [excepted, h]
  rfl

/-- The whitelists that are left, where no search raises. -/
theorem enforcedWhitelists_eq_ok {pols wls : List Policy} :
    enforcedWhitelists rt context now exceptions pols = .ok wls
      ↔ (∀ pol ∈ pols, pol.status = .enforced →
          ∃ found, matchedException rt context now (exceptionsOf exceptions pol) = .ok found)
        ∧ wls = pols.filter fun pol => pol.status = .enforced
          && (excepted rt context now exceptions pol).toOption = some false := by
  induction pols generalizing wls with
  | nil => simp [enforcedWhitelists, eq_comm]
  | cons pol pols ih =>
    rw [enforcedWhitelists, List.forall_mem_cons, List.filter_cons]
    by_cases hs : pol.status = .enforced
    · rw [if_pos hs]
      cases hfound : matchedException rt context now (exceptionsOf exceptions pol) with
      | error e =>
        have hexcepted : excepted rt context now exceptions pol = .error e := by
          rw [excepted, hfound]
          rfl
        rw [hexcepted]
        exact ⟨nofun, fun h => nomatch (h.1.1 hs).choose_spec⟩
      | ok found =>
        rw [excepted_eq_ok hfound]
        constructor
        · intro h
          obtain ⟨_, ⟨⟩, h⟩ := bind_eq_ok.1 h
          obtain ⟨rest, hrest, h⟩ := bind_eq_ok.1 h
          obtain ⟨hall, rfl⟩ := ih.1 hrest
          cases h
          refine ⟨⟨fun _ => ⟨found, rfl⟩, hall⟩, ?_⟩
          cases found with
          | none | some => simp [hs, Except.toOption]
        · rintro ⟨⟨-, hall⟩, rfl⟩
          rw [ih.2 ⟨hall, rfl⟩]
          cases found with
          | none | some => simp [hs, Except.toOption, bind, Except.bind]
    · rw [if_neg hs, ih]
      simp [hs]

end Exceptions

/-! ### Permutations -/

section Permutations

variable {ms ms' : List Matching}

theorem filter_view (p : Policy × Bool × Bool → Bool) (ms : List Matching) :
    (ms.filter fun matching => p matching.view).map (·.policy)
      = ((ms.map Matching.view).filter p).map (·.1) := by
  rw [List.filter_map, List.map_map]
  rfl

section

variable (hperm : (ms.map Matching.view).Perm (ms'.map Matching.view))
include hperm

theorem candidates_eq_of_perm (hi : (ms.map (·.policy.id)).Nodup) :
    candidates ms = candidates ms' := by
  have hm : ((ms.filter (·.mismatch.isNone)).map (·.policy)).Perm
      ((ms'.filter (·.mismatch.isNone)).map (·.policy)) := by
    have h := (hperm.filter (·.2.2)).map (·.1)
    rwa [← filter_view, ← filter_view] at h
  refine Batch.insertionSort_eq_of_perm comesBefore (fun first hf second hsecond h h' => ?_)
    hm
  obtain ⟨x, hx, rfl⟩ := List.mem_map.1 hf
  obtain ⟨y, hy, rfl⟩ := List.mem_map.1 hsecond
  rw [List.inj_on_of_nodup_map hi (List.mem_of_mem_filter hx) (List.mem_of_mem_filter hy)
    (id_eq_of_comesBefore h h')]

theorem whitelistCandidates_perm :
    (whitelistCandidates ms).Perm (whitelistCandidates ms') := by
  have h := (hperm.filter (·.2.1)).map (·.1)
  rwa [← filter_view, ← filter_view] at h

end

end Permutations

/-! ### The result -/

/-- The same violation; the ids of the whitelists are a set. -/
inductive Violation.Same : Violation → Violation → Prop
  | refl (violation : Violation) : Same violation violation
  | accessWhitelist (message : String) {ids ids' : List String} (h : ids.Perm ids') :
      Same (.accessWhitelist message ids) (.accessWhitelist message ids')

/-- The same result, except for the trace and what was tried out. -/
structure Evaluation.Same (result result' : Evaluation) : Prop where
  decision : result.decision = result'.decision
  effectiveContext : result.effectiveContext = result'.effectiveContext
  matchedPolicyIds : result.matchedPolicyIds = result'.matchedPolicyIds
  appliedEffects : result.appliedEffects = result'.appliedEffects
  warnings : result.warnings = result'.warnings
  violations : List.Forall₂ Violation.Same result.violations result'.violations
  approvals : result.approvals = result'.approvals
  obligations : result.obligations = result'.obligations

theorem whitelistViolations_same {wls wls' : List Policy}
    (hperm : wls.Perm wls') (ids : List String) :
    List.Forall₂ Violation.Same (whitelistViolations wls ids) (whitelistViolations wls' ids) := by
  have hnil : wls = [] ↔ wls' = [] := by
    rw [← List.length_eq_zero_iff, hperm.length_eq, List.length_eq_zero_iff]
  unfold whitelistViolations
  simp only [ne_eq, hnil]
  split
  · exact .cons (.accessWhitelist _ (hperm.map _)) .nil
  · exact .nil

/-- The decision depends on whether there are violations. -/
theorem decisionOf_congr {vs vs' : List Violation}
    (h : List.Forall₂ Violation.Same vs vs') (apps : List Approval) :
    decisionOf vs apps = decisionOf vs' apps := by
  cases h with
  | nil => rfl
  | cons => rfl

theorem conclude_same {ms ms' : List Matching} {tally : Tally}
    {wls wls' : List Policy} (hperm : wls.Perm wls') :
    (conclude ms tally wls).Same (conclude ms' tally wls') := by
  have hviolations : List.Forall₂ Violation.Same
      (tally.emitted.violations ++ whitelistViolations wls tally.matchedWhitelistIds)
      (tally.emitted.violations ++ whitelistViolations wls' tally.matchedWhitelistIds) :=
    List.rel_append (List.forall₂_same.2 fun violation _ => .refl violation)
      (whitelistViolations_same hperm _)
  exact ⟨decisionOf_congr hviolations _, rfl, rfl, rfl, rfl, hviolations, rfl, rfl⟩

/-- No search for an exception depends on the order: neither one of the first loop, nor one for a
whitelist in the context that the effects leave. -/
structure OrderFree (rt : Runtime) (policies : List Policy) (context : Entries)
    (exceptions : List PolicyException) (instant : ℤ) (effective : Entries) : Prop where
  matching : ∀ policy ∈ policies, policy.Searched rt context →
    Unambiguous rt context instant (exceptionsOf exceptions policy)
  whitelists : ∀ policy ∈ policies, policy.status = .enforced →
    isWhitelistCandidate rt context policy = .ok true →
      Unambiguous rt effective instant (exceptionsOf exceptions policy)

section Result

variable {rt : Runtime} {policies policies' : List Policy} {context : Entries}
  {exceptions exceptions' : List PolicyException} {instant : ℤ} {result : Evaluation}

theorem mem_whitelistCandidates {ms : List Matching}
    (hms : policies.mapM (matchPolicy rt context exceptions instant) = .ok ms) {pol : Policy}
    (hs : pol.status = .enforced) :
    pol ∈ whitelistCandidates ms
      ↔ pol ∈ policies ∧ isWhitelistCandidate rt context pol = .ok true := by
  unfold whitelistCandidates
  simp only [List.mem_map, List.mem_filter]
  constructor
  · rintro ⟨matching, ⟨hm, hw⟩, rfl⟩
    obtain ⟨pol, hpolicy, hmatch⟩ := mem_of_mapM hms hm
    have hsame := (matchPolicy_eq_ok hmatch).1
    rw [hsame] at hs ⊢
    exact ⟨hpolicy, (whitelist_of_matchPolicy hs hmatch).trans (congrArg _ hw)⟩
  · rintro ⟨hpolicy, hw⟩
    obtain ⟨matching, hm, hmatch⟩ := ok_of_mem_mapM hms hpolicy
    have hw' := whitelist_of_matchPolicy hs hmatch
    exact ⟨matching, ⟨hm, (Except.ok.inj (hw.symm.trans hw')).symm⟩, (matchPolicy_eq_ok hmatch).1⟩

theorem evaluate_ok_of_perm (hi : (policies.map (·.id)).Nodup)
    (hp : policies.Perm policies') (hexceptions : exceptions.Perm exceptions')
    (h : evaluate rt policies context exceptions instant = .ok result)
    (hfree : OrderFree rt policies context exceptions instant result.effectiveContext) :
    ∃ result', evaluate rt policies' context exceptions' instant = .ok result'
      ∧ result.Same result' := by
  obtain ⟨ms, tally, wls, hms, htally, hwls, rfl⟩ := evaluate_eq_ok.1 h
  have hview : ∀ pol ∈ policies, (matchPolicy rt context exceptions instant pol).map Matching.view
      = (matchPolicy rt context exceptions' instant pol).map Matching.view := fun pol hpol =>
    matchPolicy_view hexceptions (hfree.matching pol hpol) (ok_of_mem_mapM hms hpol).choose_spec.2
  obtain ⟨views, hviews, hs⟩ := mapM_view hview hms
  obtain ⟨ms', hms', hperm⟩ := mapM_perm hp hviews
  have hperm : (ms.map Matching.view).Perm (ms'.map Matching.view) := by
    rw [hs]
    exact hperm.map _
  have hm : (ms.map (·.policy.id)).Nodup := by
    have hpolicy : ms.map (·.policy) = policies := by
      refine mapM_map (fun pol matching hmatching => ?_) hms
      exact (matchPolicy_eq_ok hmatching).1
    rw [← hpolicy, List.map_map] at hi
    exact hi
  rw [candidates_eq_of_perm hperm hm] at htally
  obtain ⟨hfound, rfl⟩ := enforcedWhitelists_eq_ok.1 hwls
  -- the whitelists are asked in the same context
  have hsearch : ∀ pol ∈ whitelistCandidates ms, pol.status = .enforced →
      ∃ found found', matchedException rt tally.frame.context instant (exceptionsOf exceptions pol)
          = .ok found
        ∧ matchedException rt tally.frame.context instant (exceptionsOf exceptions' pol)
          = .ok found'
        ∧ found.isSome = found'.isSome := by
    intro pol hpol hs
    obtain ⟨found, hf⟩ := hfound pol hpol hs
    obtain ⟨hin, hcandidate⟩ := (mem_whitelistCandidates hms hs).1 hpol
    exact ⟨found, (matchedException_perm (exceptionsOf_perm hexceptions pol)
      (hfree.whitelists pol hin hs hcandidate) hf).imp fun _ h => ⟨hf, h⟩⟩
  have hw := whitelistCandidates_perm hperm
  refine ⟨_, evaluate_eq_ok.2 ⟨ms', tally, _, hms', htally,
    enforcedWhitelists_eq_ok.2 ⟨fun pol hpol hs => ?_, rfl⟩, rfl⟩, conclude_same ?_⟩
  · obtain ⟨_, found', -, hf', -⟩ := hsearch pol (hw.mem_iff.2 hpol) hs
    exact ⟨found', hf'⟩
  · refine List.Perm.trans (List.Perm.of_eq (List.filter_congr fun pol hpol => ?_)) (hw.filter _)
    by_cases hs : pol.status = .enforced
    · obtain ⟨found, found', hf, hf', hsome⟩ := hsearch pol hpol hs
      rw [excepted_eq_ok hf, excepted_eq_ok hf', hsome]
    · simp [hs]

/-- **The order of policies and exceptions does not matter** to an evaluation that returns, exactly
where no search for an exception can find a match or raise. -/
theorem evaluate_perm (hids : (policies.map (·.id)).Nodup)
    (h : evaluate rt policies context exceptions instant = .ok result) :
    (∀ policies' exceptions', policies.Perm policies' → exceptions.Perm exceptions' →
      ∃ result', evaluate rt policies' context exceptions' instant = .ok result'
        ∧ result.Same result')
    ↔ OrderFree rt policies context exceptions instant result.effectiveContext := by
  constructor
  · intro hall
    constructor
    · intro pol hpolicies hsearched
      by_contra hno
      obtain ⟨exceptions', hexceptions, hraises⟩ := exists_raising_order hno
      obtain ⟨result', hr', -⟩ := hall policies exceptions' (.refl _) hexceptions
      obtain ⟨ms, -, -, hms, -⟩ := evaluate_eq_ok.1 hr'
      obtain ⟨matching, -, hmatch⟩ := ok_of_mem_mapM hms hpolicies
      obtain ⟨found, hfound⟩ := found_of_searched hsearched hmatch
      exact hraises found hfound
    · intro pol hpolicies hs hcandidate
      by_contra hno
      obtain ⟨exceptions', hexceptions, hraises⟩ := exists_raising_order hno
      obtain ⟨result', hr', hsame⟩ := hall policies exceptions' (.refl _) hexceptions
      obtain ⟨ms, tally, wls, hms, -, hwls, rfl⟩ := evaluate_eq_ok.1 hr'
      obtain ⟨found, hfound⟩ := (enforcedWhitelists_eq_ok.1 hwls).1 pol
        ((mem_whitelistCandidates hms hs).2 ⟨hpolicies, hcandidate⟩) hs
      rw [show tally.frame.context = result.effectiveContext from hsame.effectiveContext.symm]
        at hfound
      exact hraises found hfound
  · exact fun hfree policies' exceptions' hp hexceptions =>
      evaluate_ok_of_perm hids hp hexceptions h hfree

end Result

/-- A request for a machine with a tag. -/
def taggedRequest : Entries := [("resource", .dict [("tags", .list [.text "web"])])]

def denyAll (id : String) : Policy where
  id := id
  status := .enforced
  effects := [{ type := "deny" }]

/-- An exception for every request. -/
def alwaysExcepted : PolicyException where
  id := "always"
  policyId := "frozen"

/-- An exception that asks for one of a list of tags; the only item is a dictionary. -/
def dictionaryTag : PolicyException where
  id := "tags"
  policyId := "frozen"
  condition := .field "resource.tags" .containsAny (.list [.dict []])

theorem evaluate_perm_denied :
    ∃ result, evaluate .plain [denyAll "frozen", denyAll "closed"] taggedRequest [alwaysExcepted] 0
        = .ok result
      ∧ ∃ result', evaluate .plain [denyAll "closed", denyAll "frozen"] taggedRequest
          [alwaysExcepted] 0 = .ok result'
        ∧ result.Same result' := by
  obtain ⟨result, h⟩ := isOk_iff.1 (show (evaluate .plain [denyAll "frozen", denyAll "closed"]
    taggedRequest [alwaysExcepted] 0).isOk from rfl)
  have hclear (context : Entries) (pol : Policy) :
      Unambiguous .plain context 0 (exceptionsOf [alwaysExcepted] pol) := by
    rintro - exc hexception
    rw [List.mem_singleton.1 (List.mem_of_mem_filter hexception)]
    exact ⟨true, rfl⟩
  exact ⟨result, h, (evaluate_perm (by decide) h).2
    ⟨fun pol _ _ => hclear _ pol, fun pol _ _ _ => hclear _ pol⟩ _ _ (.swap _ _ _) (.refl _)⟩

/-- The exception that matches is found first, or the other one raises. -/
theorem raising_exception_order_dependent :
    (evaluate .plain [denyAll "frozen"] taggedRequest [alwaysExcepted, dictionaryTag] 0).map
        (·.decision) = .ok .allow
      ∧ evaluate .plain [denyAll "frozen"] taggedRequest [dictionaryTag, alwaysExcepted] 0
        = .error .typeError :=
  ⟨rfl, rfl⟩

end CloudPortal.Engine
