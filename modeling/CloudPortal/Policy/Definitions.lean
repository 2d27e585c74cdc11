/-
CloudPortal/Policy/Definitions.lean

When the definitions of two policies are compared for conflicts
(`app/policy_engine/service.py`): only where their scopes overlap, and that is decided from the
values that the scopes list.
-/
import CloudPortal.Policy.Engine

namespace CloudPortal.Engine

open Document

/-- `SCOPE_DIMENSIONS - {"conditions", "tags"}`. -/
def scopeDimensions : List ScopeKey :=
  [.userIds, .users, .roleIds, .roles, .groups, .entities, .actions, .resourceTypes,
    .organizationIds, .projectIds, .organizations, .organizationSlugs, .projects, .projectSlugs,
    .scopeKeys, .apmids, .environments, .blueprintIds, .blueprints, .providerIds, .providerTypes]

/-- `_dimension_values`; `none` is no limit. -/
def dimensionValues (rt : Runtime) (scope : PolicyScope) (key : ScopeKey) : Option (List String) :=
  (scope.dimensions.lookup key).bind fun value =>
    let result := value.sequence.map (·.str rt)
    if blank value || "*" ∈ result then none else some result

/-- Two policies do not belong to different tenants, or projects. -/
def ownersOverlap (left right : Option String) : Bool :=
  let left := left.getD ""
  let right := right.getD ""
  left = "" || right = "" || left = right

/-- `_policy_scopes_overlap`. -/
def policyScopesOverlap (rt : Runtime) (left right : Policy) : Bool :=
  ownersOverlap left.tenantId right.tenantId && ownersOverlap left.projectId right.projectId
    && scopeDimensions.all fun key =>
      match dimensionValues rt left.scope key, dimensionValues rt right.scope key with
      | some values, some values' => values.any (· ∈ values')
      | _, _ => true

section Overlap

variable {rt : Runtime} {context : Entries} {left right : Policy}

theorem ownersOverlap_of_matches {path : String} {left right : Option String}
    (hleft : matchesOwner rt context path left) (hright : matchesOwner rt context path right) :
    ownersOverlap left right := by
  cases left with
  | none => rfl
  | some owner =>
    cases right with
    | none => simp [ownersOverlap]
    | some owner' =>
      simp only [matchesOwner, Option.all_some, decide_eq_true_eq] at hleft hright
      simp [ownersOverlap, ← hleft, ← hright]

theorem scopeMatches_keys {pol : Policy} (h : scopeMatches rt context false pol = .ok true) :
    matchesOwner rt context "scope.tenant_id" pol.tenantId
      ∧ matchesOwner rt context "scope.project_id" pol.projectId
      ∧ pol.scope.matchesKeys rt context false := by
  unfold scopeMatches at h
  simp only [Bool.not_eq_true'] at h
  refine ⟨?_, ?_, ?_⟩ <;> by_contra hno <;> rw [Bool.not_eq_true] at hno <;> simp [hno] at h

theorem sequence_ne_nil {value : Value} (h : blank value = false) : value.sequence ≠ [] := by
  cases value with
  | null => cases h
  | list items => simpa [blank, Value.sequence] using h
  | _ => exact List.cons_ne_nil _ _

/-- A request in the scope has one of the values that the scope lists. -/
theorem dimensionValues_matches {scope : PolicyScope} {key : ScopeKey} {values : List String}
    (hk : scope.matchesKeys rt context false)
    (hvalues : dimensionValues rt scope key = some values) :
    match fieldOrNull rt context key.path with
      | .list items => ∃ item ∈ items, item.str rt ∈ values
      | actual => actual.str rt ∈ values := by
  obtain ⟨value, hlookup, hlisted⟩ := Option.bind_eq_some_iff.1 hvalues
  obtain ⟨before, after, hsplit, -⟩ := List.lookup_eq_some_iff.1 hlookup
  have hm : (key, value) ∈ scope.dimensions := hsplit ▸ List.mem_append_right _ List.mem_cons_self
  have hone := List.all_eq_true.1 hk _ hm
  dsimp only at hlisted
  split at hlisted
  · cases hlisted
  next hl =>
  cases hlisted
  rw [Bool.or_eq_true, not_or, Bool.not_eq_true, decide_eq_true_eq] at hl
  obtain ⟨hblank, hstar⟩ := hl
  simp only [Bool.false_and, hblank, Bool.false_or, matchesDimension, hstar, decide_false,
    List.map_eq_nil_iff, sequence_ne_nil hblank] at hone
  generalize fieldOrNull rt context key.path = actual at hone ⊢
  cases actual <;> simpa using hone

/-- The request has several values for a dimension. -/
def Several (actual : Value) : Prop := ∃ items, actual = .list items ∧ 2 ≤ items.length

/-- A request with one value for a dimension has it in both scopes. -/
theorem exists_common_value {key : ScopeKey} {values values' : List String}
    (hleft : left.scope.matchesKeys rt context false)
    (hright : right.scope.matchesKeys rt context false)
    (hvalues : dimensionValues rt left.scope key = some values)
    (hvalues' : dimensionValues rt right.scope key = some values')
    (hone : ¬Several (fieldOrNull rt context key.path)) : ∃ value ∈ values, value ∈ values' := by
  have hin := dimensionValues_matches hleft hvalues
  have hin' := dimensionValues_matches hright hvalues'
  generalize fieldOrNull rt context key.path = actual at hin hin' hone
  split at hin
  · next items =>
    obtain ⟨item, hi, hv⟩ := hin
    obtain ⟨item', hi', hv'⟩ := hin'
    have hfew : items.length ≤ 1 := by
      by_contra hmany
      exact hone ⟨items, rfl, by omega⟩
    obtain ⟨only, rfl⟩ := List.length_eq_one_iff.1
      (le_antisymm hfew (List.length_pos_of_mem hi))
    rw [List.mem_singleton.1 hi] at hv
    rw [List.mem_singleton.1 hi'] at hv'
    exact ⟨_, hv, hv'⟩
  · next actual hno => exact ⟨_, hin, by simpa [hno] using hin'⟩

/-- Two policies that match one request overlap exactly where they list a common value at each
dimension that both limit and for which the request has several values. -/
theorem overlap_of_shared_request (hleft : scopeMatches rt context false left = .ok true)
    (hright : scopeMatches rt context false right = .ok true) :
    policyScopesOverlap rt left right
      ↔ ∀ key ∈ scopeDimensions, ∀ values values',
        dimensionValues rt left.scope key = some values →
        dimensionValues rt right.scope key = some values' →
        Several (fieldOrNull rt context key.path) → ∃ value ∈ values, value ∈ values' := by
  obtain ⟨ht, hp, hk⟩ := scopeMatches_keys hleft
  obtain ⟨ht', hp', hk'⟩ := scopeMatches_keys hright
  simp only [policyScopesOverlap, ownersOverlap_of_matches ht ht',
    ownersOverlap_of_matches hp hp', Bool.true_and, List.all_eq_true]
  refine forall₂_congr fun key _ => ⟨fun h values values' hvalues hvalues' _ => ?_, fun h => ?_⟩
  · simpa [hvalues, hvalues'] using h
  · split
    · next values values' hvalues hvalues' =>
      simp only [List.any_eq_true, decide_eq_true_eq]
      by_cases hseveral : Several (fieldOrNull rt context key.path)
      · exact h values values' hvalues hvalues' hseveral
      · exact exists_common_value hk hk' hvalues hvalues' hseveral
    · rfl

end Overlap

/-- A policy for some roles. -/
def rolePolicy (roles : List String) : Policy where
  id := "role-policy"
  scope := { dimensions := [(.roles, .list (roles.map .text))] }
  effects := []

/-- A request by somebody with the given roles. -/
def roleRequest (roles : List String) : Entries :=
  [("actor", .dict [("roles", .list (roles.map .text))])]

/-- Two roles of the request, and another one that both policies list. -/
theorem overlap_of_shared_role :
    policyScopesOverlap .plain (rolePolicy ["ops", "qa"]) (rolePolicy ["dev", "qa"]) := by
  have hops : scopeMatches .plain (roleRequest ["ops", "dev"]) false (rolePolicy ["ops", "qa"])
      = .ok true := rfl
  have hdev : scopeMatches .plain (roleRequest ["ops", "dev"]) false (rolePolicy ["dev", "qa"])
      = .ok true := rfl
  refine (overlap_of_shared_request hops hdev).2 fun key _ values values' hvalues hvalues' _ => ?_
  cases key <;> cases hvalues
  cases hvalues'
  exact ⟨"qa", by decide, by decide⟩

/-- Who has both roles is in both scopes. -/
theorem overlap_missed :
    scopeMatches .plain (roleRequest ["ops", "dev"]) false (rolePolicy ["ops"]) = .ok true
      ∧ scopeMatches .plain (roleRequest ["ops", "dev"]) false (rolePolicy ["dev"]) = .ok true
      ∧ policyScopesOverlap .plain (rolePolicy ["ops"]) (rolePolicy ["dev"]) = false :=
  ⟨rfl, rfl, rfl⟩

end CloudPortal.Engine
