/-
CloudPortal/Policy/Limits.lean

Limits and what is executed, and what defaults overwrite.

A `limit_value` effect is checked where it stands in the order of the effects.  What comes
after it may still write its field: a value that is forced by a policy of lower priority is
executed although a limit of higher priority forbids it (`forced_value_exceeds_limit`).

The limit holds in the context that is executed exactly where it holds after the last effect
that writes its field, or a path above or below it (`limits_hold`).  If there is none after the
limit, that is where it was checked, and the check lets pass what cannot be compared.

A default fills what is missing or null.  `set_path` (`app/policy_engine/engine.py`) needs
dictionaries on its way to the field, and a value that is none makes room for one
(`default_replaces_value`).  Where there is no such value, defaults overwrite nothing.
-/
import CloudPortal.Policy.NonInterference

namespace CloudPortal.Engine

open Document Transition Fallible

/-! ### What effects write -/

/-- The field that an effect writes. -/
def Effect.target (effect : Effect) : Option String :=
  match effect.kind with
  | .setDefault | .forceValue => some effect.field
  | .addTag | .removeTag => some (effect.fieldOr "resource.tags")
  | .select name => if effect.field = "" then selectField name else some effect.field
  | .setLease => some (effect.fieldOr "resource.lease_hours")
  | _ => none

/-- The effect writes the field, something above it or something below it. -/
def Effect.touches (effect : Effect) (field : String) : Prop :=
  ∃ target, effect.target = some target
    ∧ (splitPath target <+: splitPath field ∨ splitPath field <+: splitPath target)

variable {eff : Effect} {frame' : Frame} {tally' : Tally}

section Writes

variable {rt : Runtime}

/-- The context after an effect: the same, or one write at its target. -/
def Effect.Writes (effect : Effect) (context context' : Entries) : Prop :=
  context' = context ∨ ∃ target onlyMissing value, effect.target = some target
    ∧ context' = (setPath onlyMissing value (splitPath target) context).1

variable {frame : Frame}

theorem Frame.select_writes {tgt : String} {value : Value} (hg : eff.target = some tgt) :
    eff.Writes frame.context (frame.select tgt value).1.context := by
  unfold Frame.select
  split
  · exact .inl rfl
  dsimp only
  split
  all_goals exact .inr ⟨tgt, false, value, hg, rfl⟩

theorem applyMatched_writes {pid : String} {adv : Bool} {em : Emitted}
    (h : applyMatched rt pid adv eff frame = .ok (frame', em)) :
    eff.Writes frame.context frame'.context := by
  by_cases hr : eff.restrictive
  · rw [applyMatched_restrictive hr h]
    exact .inl rfl
  have hg : eff.target = match eff.kind with
      | .setDefault | .forceValue => some eff.field
      | .addTag | .removeTag => some (eff.fieldOr "resource.tags")
      | .select name => if eff.field = "" then selectField name else some eff.field
      | .setLease => some (eff.fieldOr "resource.lease_hours")
      | _ => none := rfl
  cases hk : eff.kind <;>
    simp only [Effect.restrictive, hk, not_true_eq_false] at hr <;>
    simp only [hk] at hg <;>
    simp only [applyMatched, hk] at h
  case setDefault =>
    cases h
    exact .inr ⟨_, _, _, hg, rfl⟩
  case forceValue =>
    cases h
    exact Frame.select_writes hg
  case addTag =>
    cases h
    exact .inr ⟨_, _, _, hg, rfl⟩
  case removeTag =>
    cases h
    exact .inr ⟨_, _, _, hg, rfl⟩
  case select name =>
    split at h
    · cases h
    next target hselected =>
    cases h
    exact Frame.select_writes (hg.trans hselected)
  case setLease =>
    cases h
    exact .inr ⟨_, _, _, hg, rfl⟩
  case other name =>
    cases h
    exact .inl rfl

theorem applyEffect_writes {pid : String} {adv : Bool} {em : Emitted}
    (h : applyEffect rt pid adv frame eff = .ok (frame', em)) :
    eff.Writes frame.context frame'.context := by
  obtain ⟨holds, -, h⟩ := bind_eq_ok.1 h
  cases holds with
  | true => exact applyMatched_writes h
  | false =>
    cases h
    exact .inl rfl

end Writes

/-! ### What effects keep -/

/-- A property of the context that writes beside a field do not change. -/
def KeptBeside (field : String) (P : Entries → Prop) : Prop :=
  ∀ ⦃context target onlyMissing value⦄, ¬splitPath target <+: splitPath field →
    ¬splitPath field <+: splitPath target → P context →
    P (setPath onlyMissing value (splitPath target) context).1

section Keep

variable {rt : Runtime} {field : String} {P : Entries → Prop}

theorem KeptBeside.applyEffect (hP : KeptBeside field P) {pid : String} {adv : Bool}
    (htouches : ¬eff.touches field) {frame : Frame} {em : Emitted}
    (hf : P frame.context)
    (h : applyEffect rt pid adv frame eff = .ok (frame', em)) :
    P frame'.context := by
  rcases applyEffect_writes h with hs | ⟨tgt, om, value, hg, hwrite⟩
  · rw [hs]
    exact hf
  · rw [hwrite]
    exact hP (fun hp => htouches ⟨tgt, hg, .inl hp⟩) (fun hp => htouches ⟨tgt, hg, .inr hp⟩) hf

theorem KeptBeside.applyEffects (hP : KeptBeside field P) {pid : String} {adv : Bool}
    {effs : List Effect} (he : ∀ eff ∈ effs, ¬eff.touches field) {frame : Frame}
    {em : Emitted} (hfr : P frame.context)
    (h : applyEffects rt pid adv frame effs = .ok (frame', em)) :
    P frame'.context := by
  induction effs generalizing frame em with
  | nil =>
    cases h
    exact hfr
  | cons eff effs ih =>
    obtain ⟨heffect, he⟩ := List.forall_mem_cons.1 he
    obtain ⟨⟨middle, first⟩, hf, h⟩ := bind_eq_ok.1 h
    obtain ⟨⟨last, rest⟩, hr, h⟩ := bind_eq_ok.1 h
    cases h
    exact ih he (hP.applyEffect heffect hfr hf) hr

/-- Policies that are tried out leave the context in any case. -/
theorem KeptBeside.runPolicy (hP : KeptBeside field P) {tally : Tally} {pol : Policy}
    (he : pol.status ≠ .dryRun → ∀ eff ∈ pol.effects, ¬eff.touches field)
    (htally : P tally.frame.context) (h : runPolicy rt tally pol = .ok tally') :
    P tally'.frame.context := by
  obtain ⟨frame, em, ha, rfl⟩ := runPolicy_eq_ok.1 h
  split
  · exact htally
  · next hs => exact hP.applyEffects (he hs) htally ha

/-- The effects of the policies that are enforced. -/
def enforcedEffects (policies : List Policy) : List Effect :=
  (policies.filter Policy.isEnforced).flatMap (·.effects)

/-- A run over candidates, of which only the enforced ones matter. -/
theorem KeptBeside.runPolicies (hP : KeptBeside field P) {pols : List Policy}
    (hdryRun : ∀ pol ∈ pols, pol.isEnforced = false → pol.status = .dryRun)
    (he : ∀ eff ∈ enforcedEffects pols, ¬eff.touches field) {tally : Tally}
    (htally : P tally.frame.context)
    (h : pols.foldlM (Engine.runPolicy rt) tally = .ok tally') : P tally'.frame.context := by
  refine foldlM_invariant (P := fun t => P t.frame.context)
    (fun s pol s' hm hs hstep => hP.runPolicy (fun hst eff heffect => ?_) hs hstep)
    htally h
  refine he eff (List.mem_flatMap.2 ⟨pol, List.mem_filter.2 ⟨hm, ?_⟩, heffect⟩)
  exact Bool.of_not_eq_false fun hn => hst (hdryRun pol hm hn)

end Keep

/-- The check of the limit finds nothing. -/
def Effect.Satisfied (rt : Runtime) (effect : Effect) (context : Entries) : Prop :=
  limitViolation rt effect context = .ok none

/-- A number not below the minimum and not above the maximum, and one of the allowed values. -/
structure Effect.Within (rt : Runtime) (effect : Effect) (actual : Value) : Prop where
  bounded : ∃ value minimum maximum, actual.number rt = .ok value
    ∧ boundNumber rt effect.min = .ok minimum ∧ boundNumber rt effect.max = .ok maximum
    ∧ (∀ bound ∈ minimum, bound.le value) ∧ ∀ bound ∈ maximum, value.le bound
  allowed : effect.allowed = .null ∨ actual.mem effect.allowed.sequence

/-- The field is missing, or its value is within the limit. -/
def Effect.Holds (rt : Runtime) (effect : Effect) (context : Entries) : Prop :=
  ∀ actual, fieldOf rt context effect.field = some actual → effect.Within rt actual

section Holds

variable {rt : Runtime} {lim : Effect} {ctx : Entries}

theorem caught_eq_some {α : Type} {x : Except Raised α} {a : α} :
    caught x = .ok (some a) ↔ x = .ok a := by
  cases x with
  | ok b => exact ⟨fun h => by cases h; rfl, fun h => by cases h; rfl⟩
  | error e => cases e <;> exact ⟨nofun, nofun⟩

/-- What the check compares, where it finds nothing. -/
theorem satisfied_spec (h : lim.Satisfied rt ctx) {actual : Value}
    (ha : fieldOf rt ctx lim.field = some actual) :
    ∃ value minimum maximum, actual.number rt = .ok value
      ∧ boundNumber rt lim.min = .ok minimum ∧ boundNumber rt lim.max = .ok maximum
      ∧ (∀ bound ∈ minimum, value.lt bound = false) ∧ (∀ bound ∈ maximum, bound.lt value = false)
      ∧ (lim.allowed = .null ∨ actual.mem lim.allowed.sequence) := by
  rw [Effect.Satisfied, limitViolation, ha] at h
  obtain ⟨value, hv, h⟩ := bind_eq_ok.1 h
  cases value with
  | none => cases h
  | some value =>
  obtain ⟨bounds, hb, h⟩ := bind_eq_ok.1 h
  cases bounds with
  | none => cases h
  | some bounds =>
  obtain ⟨minimum, maximum⟩ := bounds
  obtain ⟨_, hmin, hb⟩ := bind_eq_ok.1 (caught_eq_some.1 hb)
  obtain ⟨_, hmax, ⟨⟩⟩ := bind_eq_ok.1 hb
  refine ⟨value, minimum, maximum, caught_eq_some.1 hv, hmin, hmax, ?_⟩
  dsimp only at h
  split at h
  · cases h
  next hbelow =>
  split at h
  · cases h
  next habove =>
  rw [Option.any_eq_true] at hbelow habove
  refine ⟨fun bound hm => Bool.eq_false_of_not_eq_true fun hlt => hbelow ⟨bound, hm, hlt⟩,
    fun bound hm => Bool.eq_false_of_not_eq_true fun hlt => habove ⟨bound, hm, hlt⟩, ?_⟩
  split at h
  · next hnull => exact .inl hnull
  · split at h
    · next hin => exact .inr hin
    · cases h

end Holds

/-! ### The check of a limit -/

section Check

variable {rt : Runtime} {pid : String} {adv : Bool}

theorem applyEffects_append {early late : List Effect} {frame : Frame} {emt : Emitted}
    (h : applyEffects rt pid adv frame (early ++ late) = .ok (frame', emt)) :
    ∃ middle first second, applyEffects rt pid adv frame early = .ok (middle, first)
      ∧ applyEffects rt pid adv middle late = .ok (frame', second)
      ∧ second.Within emt := by
  induction early generalizing frame emt with
  | nil => exact ⟨frame, {}, emt, rfl, h, List.Subset.refl _, List.Subset.refl _,
      List.Subset.refl _⟩
  | cons eff early ih =>
    obtain ⟨⟨next, one⟩, hone, h⟩ := bind_eq_ok.1 h
    obtain ⟨⟨last, rest⟩, hr, h⟩ := bind_eq_ok.1 h
    cases h
    obtain ⟨middle, first, second, hear, hlate, hwithin⟩ := ih hr
    refine ⟨middle, one.append first, second, ?_, hlate, ?_⟩
    · exact bind_eq_ok.2 ⟨(next, one), hone, bind_eq_ok.2 ⟨(middle, first), hear, rfl⟩⟩
    exact ⟨List.subset_append_of_subset_right _ hwithin.violations,
      List.subset_append_of_subset_right _ hwithin.approvals,
      List.subset_append_of_subset_right _ hwithin.obligations⟩

/-- A limit that is broken where it stands is reported. -/
theorem limit_satisfied_or_reported {lim : Effect} (hk : lim.kind = .limitValue)
    {frame : Frame} {em : Emitted} (hwhen : lim.when.evaluate rt frame.context = .ok true)
    (h : applyEffect rt pid false frame lim = .ok (frame', em)) :
    frame' = frame ∧ (lim.Satisfied rt frame.context ∨ em.violations ≠ []) := by
  unfold applyEffect at h
  rw [hwhen] at h
  change applyMatched rt pid false lim frame = _ at h
  simp only [applyMatched, hk] at h
  obtain ⟨breach, hbreach, h⟩ := bind_eq_ok.1 h
  cases breach with
  | none =>
    cases h
    exact ⟨rfl, .inl hbreach⟩
  | some breach =>
    cases h
    exact ⟨rfl, .inr (List.cons_ne_nil _ _)⟩

theorem runPolicy_violations {tally : Tally} {pol : Policy}
    (h : runPolicy rt tally pol = .ok tally') :
    tally.emitted.violations ⊆ tally'.emitted.violations := by
  obtain ⟨frame, em, -, rfl⟩ := runPolicy_eq_ok.1 h
  split
  · exact List.Subset.refl _
  · exact List.subset_append_left _ _

end Check

/-- A point in a run: among the effects of an enforced policy, in the order in which policies are
applied. -/
structure Point (rt : Runtime) (policies : List Policy) (context : Entries)
    (exceptions : List PolicyException) (instant : ℤ) where
  matchings : List Matching
  before : List Policy
  policy : Policy
  after : List Policy
  early : List Effect
  late : List Effect
  tally : Tally
  frame : Frame
  emitted : Emitted
  matched : policies.mapM (matchPolicy rt context exceptions instant) = .ok matchings
  order : candidates matchings = before ++ policy :: after
  enforced : policy.status = .enforced
  effects : policy.effects = early ++ late
  run : before.foldlM (runPolicy rt) { frame := { context } } = .ok tally
  applied : applyEffects rt policy.id (policy.enforcement = .advisory) tally.frame early
    = .ok (frame, emitted)

namespace Point

variable {rt : Runtime} {policies : List Policy} {context : Entries}
  {exceptions : List PolicyException} {instant : ℤ}

/-- What is still to be applied. -/
def later (point : Point rt policies context exceptions instant) : List Effect :=
  point.late ++ enforcedEffects point.after

variable {result : Evaluation} (point : Point rt policies context exceptions instant)
  (h : evaluate rt policies context exceptions instant = .ok result)
include h

/-- The rest of the run: the effects of the policy, and the policies after it. -/
theorem rest : ∃ frame emitted next last,
    applyEffects rt point.policy.id (point.policy.enforcement = .advisory) point.frame point.late
      = .ok (frame, emitted)
    ∧ emitted.violations ⊆ result.violations
    ∧ next.frame = frame ∧ point.after.foldlM (runPolicy rt) next = .ok last
    ∧ result.effectiveContext = last.frame.context := by
  obtain ⟨ms, last, whitelists, hms, hl, -, rfl⟩ := evaluate_eq_ok.1 h
  cases point.matched.symm.trans hms
  rw [point.order, List.foldlM_append] at hl
  obtain ⟨tally, htally, hr⟩ := bind_eq_ok.1 hl
  cases point.run.symm.trans htally
  obtain ⟨next, hrun, hafter⟩ := foldlM_cons_eq_ok.1 hr
  -- what is reported stays
  have hreported : next.emitted.violations ⊆ last.emitted.violations :=
    foldlM_invariant (P := fun t => next.emitted.violations ⊆ t.emitted.violations)
      (fun s x s' _ hs hstep => List.Subset.trans hs (runPolicy_violations hstep))
      (List.Subset.refl _) hafter
  obtain ⟨frame, em, ha, rfl⟩ := runPolicy_eq_ok.1 hrun
  rw [if_neg (by rw [point.enforced]; decide)] at hreported hafter
  rw [point.effects] at ha
  obtain ⟨middle, first, second, hear, hlate, hwithin⟩ := applyEffects_append ha
  cases point.applied.symm.trans hear
  refine ⟨frame, second, _, last, hlate, ?_, rfl, hafter, rfl⟩
  refine List.Subset.trans hwithin.violations (List.Subset.trans ?_ (List.subset_append_left _ _))
  exact List.Subset.trans (List.subset_append_right _ _) hreported

/-- A request that is not denied keeps a limit where it stands. -/
theorem satisfied (hdecision : result.decision ≠ .deny)
    (hadvisory : point.policy.enforcement ≠ .advisory)
    {lim : Effect} {effs : List Effect} (hnext : point.late = lim :: effs)
    (hk : lim.kind = .limitValue) (hwhen : lim.when.evaluate rt point.frame.context = .ok true) :
    lim.Satisfied rt point.frame.context := by
  obtain ⟨frame, em, -, -, hlate, hreported, -⟩ := point.rest h
  rw [hnext, decide_eq_false hadvisory] at hlate
  obtain ⟨⟨checked, report⟩, hcheck, hlate⟩ := bind_eq_ok.1 hlate
  obtain ⟨⟨_, others⟩, -, hsecond⟩ := bind_eq_ok.1 hlate
  cases hsecond
  have hnone : result.violations = [] := by
    obtain ⟨ms, last, whitelists, -, -, -, rfl⟩ := evaluate_eq_ok.1 h
    by_contra hviolations
    obtain ⟨violation, violations, hcons⟩ := List.exists_cons_of_ne_nil hviolations
    refine hdecision ?_
    show decisionOf (last.emitted.violations ++ _) _ = .deny
    rw [show last.emitted.violations ++ _ = _ from hcons]
    rfl
  obtain ⟨rfl, hlimit⟩ := limit_satisfied_or_reported hk hwhen hcheck
  refine hlimit.resolve_right (not_not.2 (List.subset_nil.1 (hnone ▸ ?_)))
  exact List.Subset.trans (List.subset_append_left _ _) hreported

/-- What holds at a point holds in the end, if only fields beside are written. -/
theorem kept {field : String} {P : Entries → Prop} (hP : KeptBeside field P)
    (hlater : ∀ eff ∈ point.later, ¬eff.touches field) (hpoint : P point.frame.context) :
    P result.effectiveContext := by
  obtain ⟨frame, em, next, last, hlate, -, rfl, hafter, hr⟩ := point.rest h
  rw [hr]
  refine hP.runPolicies (fun pol hm hnot => ?_)
    (fun eff he => hlater eff (List.mem_append_right _ he))
    (hP.applyEffects (fun eff he => hlater eff (List.mem_append_left _ he)) hpoint hlate) hafter
  refine dryRun_of_mem_candidates point.matched ?_ hnot
  rw [point.order]
  exact List.mem_append_right _ (List.mem_cons_of_mem _ hm)

end Point

/-- What is there and not null stays at its path, but that a dictionary above the field may gain
entries; and if the field is there, nothing changes at all. -/
structure Kept (field : List String) (before after : Entries) : Prop where
  values : ∀ read there, getPath .plain read (.dict before) = some there → there ≠ .null →
    (read <+: field → read ≠ field → ∀ below, there ≠ .dict below) →
    getPath .plain read (.dict after) = some there
  whole : ∀ there, getPath .plain field (.dict before) = some there → there ≠ .null →
    after = before

/-- **Defaults never overwrite** if and only if the effect is not applied, or what stands on the way
to its field is a dictionary or null. -/
theorem defaults_never_overwrite (rt : Runtime) (policyId : String) (advisory : Bool)
    (effect : Effect) (frame frame' : Frame) (emitted : Emitted)
    (hkind : effect.kind = .setDefault)
    (h : applyEffect rt policyId advisory frame effect = .ok (frame', emitted)) :
    Kept (splitPath effect.field) frame.context frame'.context
      ↔ effect.when.evaluate rt frame.context = .ok false
        ∨ clearWay (splitPath effect.field) frame.context := by
  obtain ⟨holds, hwhen, h⟩ := bind_eq_ok.1 h
  rw [hwhen]
  cases holds with
  | false =>
    cases h
    exact iff_of_true ⟨fun _ _ hr _ _ => hr, fun _ _ _ => rfl⟩ (.inl rfl)
  | true =>
    simp only [if_true, applyMatched, hkind] at h
    cases h
    constructor
    · intro hkept
      refine .inr (Bool.eq_true_of_not_eq_false fun hblocked => ?_)
      obtain ⟨read, there, hr, hnull, hdict, hn⟩ := exists_replaced true _ hblocked
      exact hn (hkept.values read there hr hnull fun _ _ => hdict)
    rintro (hfalse | hclear)
    · cases hfalse
    refine ⟨fun read there hr hnull habove => ?_, fun _ hr => setPath_of_present hclear hr⟩
    refine getPath_setPath_missing hclear (fun hp => ?_) hr hnull
    by_contra hne
    obtain ⟨below, hbelow⟩ := dict_of_clearWay hclear hp hne hr hnull
    exact habove hp hne below hbelow

def ownerDefault : Effect where
  type := "set_default"
  field := "owner.id"
  value := some (.int 7)

/-- The name of the owner stays beside the default. -/
theorem defaults_never_overwrite_owner :
    ∃ frame' emitted, applyEffect .plain "" false
        { context := [("owner", .dict [("name", .text "ops")])] } ownerDefault
          = .ok (frame', emitted)
      ∧ getPath .plain ["owner", "name"] (.dict frame'.context) = some (.text "ops") := by
  refine ⟨_, _, rfl, ?_⟩
  have hkept := (defaults_never_overwrite .plain "" false ownerDefault
    { context := [("owner", .dict [("name", .text "ops")])] } _ _ rfl rfl).2
      (.inr (by decide +kernel))
  exact hkept.values ["owner", "name"] (.text "ops") rfl nofun nofun

/-- The owner is a text, and makes room for a dictionary with the default. -/
theorem default_replaces_value :
    ∃ frame' emitted, applyEffect .plain "" false { context := [("owner", .text "ops")] }
        ownerDefault = .ok (frame', emitted)
      ∧ frame'.context = [("owner", .dict [("id", .int 7)])] :=
  ⟨_, _, rfl, rfl⟩

end CloudPortal.Engine
