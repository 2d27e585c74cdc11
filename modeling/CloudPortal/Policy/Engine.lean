/-
CloudPortal/Policy/Engine.lean

The policy engine (`app/policy_engine/engine.py`): the operators that compare a field of the
evaluation context with a value, the trees of conditions over them, the dimensions by which a
policy is limited to requests, the order in which the effects of the matching policies are
applied, and the decision.

Comparisons can raise: `contains_any` builds sets and a list or a dictionary cannot be put
into one, and a number may be too large for a float.  Nobody catches these.

Effects change the evaluation context and the set of locked fields one after the other; what
they report (warnings, violations, approvals, obligations and a list of all of them) is only
ever added to.  So the model has a `Frame` that is passed on and `Emitted` reports
that are appended.
-/
import CloudPortal.Lib.Document
import CloudPortal.Lib.Batch
import CloudPortal.Lib.Merge
import CloudPortal.Lib.Transition

namespace CloudPortal.Engine

open Document Transition

/-! ### Fields -/

/-- `get_path(context, path)`; `none` is `MISSING`. -/
def fieldOf (rt : Runtime) (context : Entries) (path : String) : Option Value :=
  getPath rt (splitPath path) (.dict context)

/-- `get_path(context, path, None)`. -/
def fieldOrNull (rt : Runtime) (context : Entries) (path : String) : Value :=
  (fieldOf rt context path).getD .null

/-- `_tags`. -/
def tagsOf (rt : Runtime) : Value → List String
  | .dict entries => (entries.filter fun (_, enabled) => enabled.truthy).map (·.1)
  | .text tags =>
    (((tags.toList.splitOnP fun c => c = ';' || c = ',').map String.ofList).map rt.strip).filter
      (· ≠ "")
  | value => value.sequence.map (·.str rt)

/-! ### Operators -/

/-- `OPERATORS`, under which their aliases are known as well. -/
inductive Operator
  | eq | neq | isIn | notIn | contains | notContains | containsAny | containsAll
  | startsWith | endsWith | regex | exists | notExists | gt | gte | lt | lte | between
  | cidrContains | before | after | isOwner | isMemberOf | hasTag
  | countLt | countLte | countGt | countGte
  deriving DecidableEq, Repr

/-- `MAX_REGEX_SUBJECT_LENGTH`. -/
def maxRegexSubjectLength : ℕ := 4096

/-- Both values as numbers; a value that is none makes the comparison false. -/
def compareNumbers (rt : Runtime) (test : Number → Number → Bool) (actual expected : Value) :
    Except Raised Bool := do
  let numbers ← caught do
    let left ← actual.number rt
    let right ← expected.number rt
    .ok (left, right)
  .ok (numbers.any fun (left, right) => test left right)

/-- The number of elements against an integer. -/
def compareCounts (rt : Runtime) (test : ℤ → ℤ → Bool) (actual expected : Value) :
    Except Raised Bool :=
  match actual.length with
  | none => .ok false
  | some count => do
      let number ← caught (rt.toInt expected)
      .ok (number.any (test count))

def compareBetween (rt : Runtime) (actual expected : Value) : Except Raised Bool :=
  match expected.sequence with
  | [low, high] => do
      let numbers ← caught do
        let value ← actual.number rt
        let low ← low.number rt
        let high ← high.number rt
        .ok (value, low, high)
      .ok (numbers.any fun (value, low, high) => low.le value && value.le high)
  | _ => .ok false

def compareInstants (rt : Runtime) (test : ℤ → ℤ → Bool) (actual expected : Value) : Bool :=
  match rt.fromIso (actual.str rt), rt.fromIso (expected.str rt) with
  | some left, some right => test left right
  | _, _ => false

/-- The groups and roles of the actor. -/
def memberships (rt : Runtime) (context : Entries) : List String :=
  (["actor.groups", "actor.roles", "actor.role_ids"].flatMap fun path =>
    (fieldOrNull rt context path).sequence).map (·.str rt)

/-- `compare` of a value that is there. -/
def comparePresent (rt : Runtime) (context : Entries) (operator : Operator)
    (actual expected : Value) : Except Raised Bool :=
  match operator with
  | .exists => .ok (match actual with | .null => false | _ => true)
  | .notExists => .ok (match actual with | .null => true | _ => false)
  | .eq => .ok (actual.eq expected)
  | .neq => .ok !(actual.eq expected)
  | .isIn => .ok (actual.mem expected.sequence)
  | .notIn => .ok !(actual.mem expected.sequence)
  | .contains => .ok ((expected.within actual).getD false)
  | .notContains => .ok (((expected.within actual).map (!·)).getD true)
  | .containsAny => do
      let values ← Value.toSet actual.sequence
      let wanted ← Value.toSet expected.sequence
      .ok (values.any (·.mem wanted))
  | .containsAll => do
      let values ← Value.toSet actual.sequence
      let wanted ← Value.toSet expected.sequence
      .ok (wanted.all (·.mem values))
  | .startsWith => .ok ((expected.str rt).toList.isPrefixOf (actual.str rt).toList)
  | .endsWith => .ok ((expected.str rt).toList.isSuffixOf (actual.str rt).toList)
  | .regex =>
    .ok ((actual.str rt).length ≤ maxRegexSubjectLength && rt.search expected (actual.str rt))
  | .gt => compareNumbers rt (fun left right => right.lt left) actual expected
  | .gte => compareNumbers rt (fun left right => right.le left) actual expected
  | .lt => compareNumbers rt Number.lt actual expected
  | .lte => compareNumbers rt Number.le actual expected
  | .between => compareBetween rt actual expected
  | .cidrContains => .ok ((rt.inNetwork (actual.str rt) (expected.str rt)).getD false)
  | .before => .ok (compareInstants rt (fun left right => left < right) actual expected)
  | .after => .ok (compareInstants rt (fun left right => right < left) actual expected)
  | .isOwner => .ok (actual.str rt = (fieldOrNull rt context "actor.id").str rt)
  | .isMemberOf => .ok (expected.str rt ∈ memberships rt context)
  | .hasTag => .ok (expected.str rt ∈ tagsOf rt actual)
  | .countLt => compareCounts rt (fun count number => count < number) actual expected
  | .countLte => compareCounts rt (fun count number => count ≤ number) actual expected
  | .countGt => compareCounts rt (fun count number => number < count) actual expected
  | .countGte => compareCounts rt (fun count number => number ≤ count) actual expected

/-- `compare`. -/
def compare (rt : Runtime) (context : Entries) (operator : Operator) (actual : Option Value)
    (expected : Value) : Except Raised Bool :=
  match actual with
  | some actual => comparePresent rt context operator actual expected
  | none => .ok (operator = .notExists)

/-! ### Trees of conditions -/

/-- A condition: nothing, a logical one, or a comparison of a field.  A dictionary without a field
or with an unknown operator is `malformed`, as are values that are no dictionaries. -/
inductive Condition
  | always
  | all (conditions : List Condition)
  | any (conditions : List Condition)
  | not (condition : Condition)
  | field (path : String) (operator : Operator) (value : Value)
  | malformed

mutual

/-- `evaluate_condition`. -/
def Condition.evaluate (rt : Runtime) (context : Entries) : Condition → Except Raised Bool
  | .always => .ok true
  | .all conditions => Condition.evaluateAll rt context conditions
  | .any conditions => Condition.evaluateAny rt context conditions
  | .not condition => do
      let holds ← condition.evaluate rt context
      .ok !holds
  | .field path operator value => compare rt context operator (fieldOf rt context path) value
  | .malformed => .ok false

def Condition.evaluateAll (rt : Runtime) (context : Entries) :
    List Condition → Except Raised Bool
  | [] => .ok true
  | condition :: conditions => do
      if ← condition.evaluate rt context then Condition.evaluateAll rt context conditions
      else .ok false

def Condition.evaluateAny (rt : Runtime) (context : Entries) :
    List Condition → Except Raised Bool
  | [] => .ok false
  | condition :: conditions => do
      if ← condition.evaluate rt context then .ok true
      else Condition.evaluateAny rt context conditions

end

/-- The condition is there. -/
def Condition.present : Condition → Bool
  | .always => false
  | _ => true

/-! ### Scopes -/

/-- `_SCOPE_FIELDS`. -/
inductive ScopeKey
  | userIds | users | roleIds | roles | groups | entities | actions | resourceTypes
  | organizationIds | projectIds | organizations | organizationSlugs | projects | projectSlugs
  | scopeKeys | apmids | environments | blueprintIds | blueprints | providerIds | providerTypes
  deriving DecidableEq, Repr

def ScopeKey.path : ScopeKey → String
  | .userIds => "actor.id"
  | .users => "actor.username"
  | .roleIds => "actor.role_ids"
  | .roles => "actor.roles"
  | .groups => "actor.groups"
  | .entities => "actor.entities"
  | .actions => "request.action"
  | .resourceTypes => "resource.type"
  | .organizationIds => "scope.tenant_id"
  | .projectIds => "scope.project_id"
  | .organizations => "scope.organization"
  | .organizationSlugs => "scope.organization_slug"
  | .projects => "scope.project"
  | .projectSlugs => "scope.project_slug"
  | .scopeKeys => "scope.key"
  | .apmids => "resource.apmid"
  | .environments => "resource.environment"
  | .blueprintIds => "blueprint.id"
  | .blueprints => "blueprint.slug"
  | .providerIds => "resource.provider_id"
  | .providerTypes => "resource.provider_type"

/-- `identity_dimensions`: what is asked of a whitelist before its other dimensions. -/
def ScopeKey.identity : ScopeKey → Bool
  | .scopeKeys | .apmids | .environments | .blueprintIds | .blueprints => false
  | .providerIds | .providerTypes => false
  | _ => true

/-- The scope of a policy, each key once. -/
structure PolicyScope where
  dimensions : List (ScopeKey × Value) := []
  tags : Value := .null
  conditions : Condition := .always

/-- `value in (None, [], {}, "")`. -/
def blank : Value → Bool
  | .null => true
  | .list items => items.isEmpty
  | .dict entries => entries.isEmpty
  | .text text => text = ""
  | _ => false

/-- `_matches_dimension`. -/
def matchesDimension (rt : Runtime) (actual allowed : Value) : Bool :=
  let allowed := allowed.sequence.map (·.str rt)
  allowed = [] || "*" ∈ allowed ||
    match actual with
    | .list items => items.any (·.str rt ∈ allowed)
    | actual => actual.str rt ∈ allowed

/-- The request is made in the tenant or project of the policy, if it has one. -/
def matchesOwner (rt : Runtime) (context : Entries) (path : String) (owner : Option String) :
    Bool :=
  owner.all fun owner => ((fieldOf rt context path).getD (.text "")).str rt = owner

/-- The part of `scope_matches` that is asked of every policy. -/
def PolicyScope.matchesKeys (rt : Runtime) (context : Entries) (identityOnly : Bool)
    (scope : PolicyScope) : Bool :=
  scope.dimensions.all fun (key, allowed) =>
    identityOnly && !key.identity || blank allowed
      || matchesDimension rt (fieldOrNull rt context key.path) allowed

/-- All tags of the scope are among those of the resource. -/
def PolicyScope.matchesTags (rt : Runtime) (context : Entries) (scope : PolicyScope) : Bool :=
  blank scope.tags ||
    let tags := tagsOf rt (fieldOrNull rt context "resource.tags")
    scope.tags.sequence.all (·.str rt ∈ tags)

/-! ### Policies -/

/-- `POLICY_TYPES`. -/
inductive PolicyType
  | access | deployment | approval | quota | lease | day2 | placement | compute | storage
  | network | image | naming | tagging | security | backup | snapshot | schedule | cost
  | lifecycle | compliance | credential | ansible | terraform | deletion | exception
  deriving DecidableEq, Repr

/-- `STATUSES`. -/
inductive PolicyStatus
  | draft | dryRun | enforced | disabled | archived
  deriving DecidableEq, Repr

/-- `ENFORCEMENTS`. -/
inductive Enforcement
  | hard | soft | advisory
  deriving DecidableEq, Repr

/-- The kinds of effects that `_apply_effect` tells apart; those that start with `select_` or
`require_` keep their name. -/
inductive EffectKind
  | allow | deny | warn | requireApproval | setDefault | forceValue | limitValue
  | addTag | removeTag | select (name : String) | setLease | require (name : String)
  | other (name : String)
  deriving DecidableEq, Repr

def EffectKind.ofType (name : String) : EffectKind :=
  if name = "allow" then .allow
  else if name = "deny" then .deny
  else if name = "warn" then .warn
  else if name = "require_approval" then .requireApproval
  else if name = "set_default" then .setDefault
  else if name = "force_value" then .forceValue
  else if name = "limit_value" then .limitValue
  else if name = "add_tag" then .addTag
  else if name = "remove_tag" then .removeTag
  else if "select_".toList.isPrefixOf name.toList then .select name
  else if name = "set_lease" then .setLease
  else if "require_".toList.isPrefixOf name.toList then .require name
  else .other name

/-- An effect; `null` is a key that is not there. -/
structure Effect where
  type : String
  when : Condition := .always
  field : String := ""
  value : Option Value := none
  hours : Value := .null
  min : Value := .null
  max : Value := .null
  allowed : Value := .null
  message : Value := .null
  reason : Value := .null
  mode : Value := .null
  /-- what the engine only hands on: approvers, stages, deadlines -/
  rest : Entries := []

def Effect.kind (effect : Effect) : EffectKind := EffectKind.ofType effect.type

structure Policy where
  id : String
  tenantId : Option String := none
  projectId : Option String := none
  policyType : PolicyType := .deployment
  priority : ℤ := 5000
  enforcement : Enforcement := .hard
  status : PolicyStatus := .draft
  scope : PolicyScope := {}
  condition : Condition := .always
  effects : List Effect

inductive ExceptionStatus
  | pending | approved | revoked
  deriving DecidableEq, Repr

/-- An exception of a policy; instants in microseconds. -/
structure PolicyException where
  id : String
  policyId : String
  status : ExceptionStatus := .approved
  condition : Condition := .always
  validFrom : Option ℤ := none
  validUntil : Option ℤ := none

/-! ### Matching -/

/-- `scope_matches`. -/
def scopeMatches (rt : Runtime) (context : Entries) (identityOnly : Bool) (policy : Policy) :
    Except Raised Bool :=
  if !matchesOwner rt context "scope.tenant_id" policy.tenantId then .ok false
  else if !matchesOwner rt context "scope.project_id" policy.projectId then .ok false
  else if !policy.scope.matchesKeys rt context identityOnly then .ok false
  else if identityOnly then .ok true
  else if !policy.scope.matchesTags rt context then .ok false
  else policy.scope.conditions.evaluate rt context

/-- `specificity`. -/
def specificity (policy : Policy) : ℕ :=
  policy.tenantId.isSome.toNat + policy.projectId.isSome.toNat
    + (policy.scope.dimensions.filter fun (_, value) => !blank value).length
    + (!blank policy.scope.tags).toNat + policy.scope.conditions.present.toNat
    + policy.condition.present.toNat

/-- `_exception_matches`. -/
def exceptionMatches (rt : Runtime) (context : Entries) (instant : ℤ)
    (exception : PolicyException) : Except Raised Bool :=
  if exception.status ≠ .approved then .ok false
  else if exception.validFrom.any (instant < ·) then .ok false
  else if exception.validUntil.any (· ≤ instant) then .ok false
  else exception.condition.evaluate rt context

/-- The first exception that matches. -/
def matchedException (rt : Runtime) (context : Entries) (instant : ℤ) :
    List PolicyException → Except Raised (Option PolicyException)
  | [] => .ok none
  | exception :: exceptions => do
      if ← exceptionMatches rt context instant exception then .ok (some exception)
      else matchedException rt context instant exceptions

/-- `exceptions_by_policy.get(policy_id, [])`. -/
def exceptionsOf (exceptions : List PolicyException) (policy : Policy) : List PolicyException :=
  exceptions.filter (·.policyId = policy.id)

/-- `_is_whitelist_access`. -/
def isWhitelistAccess (policy : Policy) : Bool :=
  policy.policyType = .access
    && policy.effects.any fun effect => effect.type = "allow" && effect.mode.eq (.text "whitelist")

/-- Why a policy does not match. -/
inductive Mismatch
  | status (status : PolicyStatus)
  | scope
  | condition
  | exception (id : String)
  deriving DecidableEq, Repr

/-- What the first loop finds out about a policy. -/
structure Matching where
  policy : Policy
  /-- it is among the whitelist candidates -/
  whitelist : Bool
  /-- `none` for a candidate -/
  mismatch : Option Mismatch

/-- The request may need this whitelist, as far as it is known who asks for what. -/
def isWhitelistCandidate (rt : Runtime) (context : Entries) (policy : Policy) :
    Except Raised Bool :=
  if isWhitelistAccess policy then scopeMatches rt context true policy else .ok false

/-- One round of the first loop. -/
def matchPolicy (rt : Runtime) (context : Entries) (exceptions : List PolicyException)
    (instant : ℤ) (policy : Policy) : Except Raised Matching :=
  if policy.status ≠ .enforced ∧ policy.status ≠ .dryRun then
    .ok ⟨policy, false, some (.status policy.status)⟩
  else do
    let whitelist ← isWhitelistCandidate rt context policy
    if !(← scopeMatches rt context false policy) then .ok ⟨policy, whitelist, some .scope⟩
    else if !(← policy.condition.evaluate rt context) then
      .ok ⟨policy, whitelist, some .condition⟩
    else
      let found ← matchedException rt context instant (exceptionsOf exceptions policy)
      .ok ⟨policy, whitelist, found.map fun exception => .exception exception.id⟩

/-- The sort key: higher priorities first, then the more specific, then by id. -/
def comesBefore (first second : Policy) : Prop :=
  first.priority > second.priority
    ∨ first.priority = second.priority
      ∧ (specificity first > specificity second
        ∨ specificity first = specificity second ∧ first.id ≤ second.id)

instance : DecidableRel comesBefore := fun first second => by
  unfold comesBefore
  infer_instance

/-- The policies that match, in the order in which they are applied. -/
def candidates (matchings : List Matching) : List Policy :=
  ((matchings.filter (·.mismatch.isNone)).map (·.policy)).insertionSort comesBefore

/-! ### Reports -/

inductive Bound
  | notNumeric | limitNotNumeric | min (limit : Value) | max (limit : Value)
  | allowed (values : Value)

/-- What `_limit_violation` returns. -/
structure LimitBreach where
  field : String
  actual : Value
  bound : Bound
  message : String

inductive Violation
  | deny (policyId message : String)
  | limit (policyId : String) (breach : LimitBreach)
  | obligation (policyId effect message : String)
  | accessWhitelist (message : String) (candidatePolicyIds : List String)

def whitelistMessage : String := "No whitelist access policy allows this request"

inductive Ignored
  | effectConditionNotMatched
  | higherPriorityValueAlreadySelected
  deriving DecidableEq, Repr

/-- An entry of `applied_effects`. -/
structure AppliedEffect where
  policyId : String
  effect : Effect
  ignored : Option Ignored := none
  changed : Option Bool := none

structure Approval where
  policyId : String
  effect : Effect

structure Obligation where
  policyId : String
  effect : Effect
  satisfied : Option Bool := none

/-- What effects add to the result. -/
structure Emitted where
  warnings : List String := []
  violations : List Violation := []
  approvals : List Approval := []
  obligations : List Obligation := []
  applied : List AppliedEffect := []

def Emitted.append (first second : Emitted) : Emitted where
  warnings := first.warnings ++ second.warnings
  violations := first.violations ++ second.violations
  approvals := first.approvals ++ second.approvals
  obligations := first.obligations ++ second.obligations
  applied := first.applied ++ second.applied

/-! ### Effects -/

/-- What effects read and change. -/
structure Frame where
  context : Entries
  lockedFields : List String := []

/-- `_message`. -/
def Effect.text (rt : Runtime) (effect : Effect) (fallback : String) : String :=
  if effect.message.truthy then effect.message.str rt
  else if effect.reason.truthy then effect.reason.str rt
  else fallback

/-- A bound of a limit, if it is given. -/
def boundNumber (rt : Runtime) : Value → Except Raised (Option Number)
  | .null => .ok none
  | value => do
      let number ← value.number rt
      .ok (some number)

/-- `_limit_violation`. -/
def limitViolation (rt : Runtime) (effect : Effect) (context : Entries) :
    Except Raised (Option LimitBreach) :=
  match fieldOf rt context effect.field with
  | none => .ok none
  | some actual => do
      let breach (bound : Bound) (fallback : String) : Option LimitBreach :=
        some ⟨effect.field, actual, bound, effect.text rt (effect.field ++ fallback)⟩
      match ← caught (actual.number rt) with
      | none => .ok (breach .notNumeric " is not numeric")
      | some value =>
        let bounds ← caught do
          let minimum ← boundNumber rt effect.min
          let maximum ← boundNumber rt effect.max
          .ok (minimum, maximum)
        match bounds with
        | none => .ok (breach .limitNotNumeric " policy limit is not numeric")
        | some (minimum, maximum) =>
          if minimum.any (value.lt ·) then
            .ok (breach (.min effect.min) " is below the allowed minimum")
          else if maximum.any (·.lt value) then
            .ok (breach (.max effect.max) " exceeds the allowed maximum")
          else
            match effect.allowed with
            | .null => .ok none
            | allowed =>
              if actual.mem allowed.sequence then .ok none
              else .ok (breach (.allowed allowed) " is not an allowed value")

/-- `default_fields` of the effects that select something. -/
def selectField (name : String) : Option String :=
  if name = "select_provider" then some "resource.provider_id"
  else if name = "select_cluster" then some "resource.cluster"
  else if name = "select_storage" then some "resource.storage"
  else if name = "select_network" then some "resource.network"
  else none

/-- `obligation_fields`. -/
def obligationFields (name : String) : List String :=
  if name = "require_mfa" then ["actor.mfa_verified", "request.mfa_verified"]
  else if name = "require_justification" then ["request.justification", "request.reason"]
  else if name = "require_change_ticket" then ["request.change_ticket", "request.ticket"]
  else if name = "require_backup" then ["resource.has_backup", "request.backup_verified"]
  else if name = "require_snapshot" then ["resource.has_snapshot", "request.snapshot_verified"]
  else if name = "require_ansible" then
    ["resource.has_ansible", "blueprint.has_ansible", "request.has_ansible"]
  else []

/-- The field of the effect, or a default. -/
def Effect.fieldOr (effect : Effect) (default : String) : String :=
  if effect.field = "" then default else effect.field

/-- The tags with one more or one less, each once. -/
def changedTags (add : Bool) (value : String) (tags : List String) : List String :=
  if add then if value = "" ∨ value ∈ tags then tags else tags ++ [value]
  else tags.filter (· ≠ value)

/-- `list(dict.fromkeys(...))` of the tags in a field. -/
def fieldTags (rt : Runtime) (context : Entries) (field : String) : List String :=
  Merge.appendNew [] ((fieldOrNull rt context field).sequence.map (·.str rt))

/-- Write a value to a field. -/
def Frame.write (frame : Frame) (onlyMissing : Bool) (field : String) (value : Value) :
    Frame × Bool :=
  let (context, changed) := setPath onlyMissing value (splitPath field) frame.context
  ({ frame with context }, changed)

def Frame.lock (frame : Frame) (field : String) : Frame :=
  { frame with lockedFields := field :: frame.lockedFields }

/-- Write a value that effects of lower priority cannot replace; nothing happens if one of higher
priority did the same. -/
def Frame.select (frame : Frame) (field : String) (value : Value) : Frame × Option Ignored × Bool :=
  if field ∈ frame.lockedFields then (frame, some .higherPriorityValueAlreadySelected, false)
  else
    let (frame, changed) := frame.write false field value
    (if changed then frame.lock field else frame, none, changed)

/-- The body of `_apply_effect`, behind the condition of the effect. -/
def applyMatched (rt : Runtime) (policyId : String) (advisory : Bool) (effect : Effect)
    (frame : Frame) : Except Raised (Frame × Emitted) :=
  let item : AppliedEffect := { policyId, effect }
  let reports (message : String) (violation : Violation) : Emitted :=
    if advisory then { warnings := [message], applied := [item] }
    else { violations := [violation], applied := [item] }
  match effect.kind with
  | .allow => .ok (frame, { applied := [item] })
  | .deny =>
    let message := effect.text rt "Denied by policy"
    .ok (frame, reports message (.deny policyId message))
  | .warn => .ok (frame, { warnings := [effect.text rt "Policy warning"], applied := [item] })
  | .requireApproval =>
    .ok (frame,
      if advisory then
        { warnings := [effect.text rt "Approval would be required"], applied := [item] }
      else { approvals := [⟨policyId, effect⟩], applied := [item] })
  | .setDefault =>
    let (frame, changed) := frame.write true effect.field (effect.value.getD .null)
    .ok (frame, { applied := [{ item with changed := some changed }] })
  | .forceValue =>
    let (frame, ignored, changed) := frame.select effect.field (effect.value.getD .null)
    .ok (frame, { applied := [{ item with ignored, changed := some changed }] })
  | .limitValue => do
      match ← limitViolation rt effect frame.context with
      | none => .ok (frame, { applied := [item] })
      | some breach => .ok (frame, reports breach.message (.limit policyId breach))
  | .addTag | .removeTag =>
    let field := effect.fieldOr "resource.tags"
    let given := effect.value.getD .null
    let value := if given.truthy then given.str rt else ""
    let tags := changedTags (effect.kind = .addTag) value (fieldTags rt frame.context field)
    let (frame, _) := frame.write false field (.list (tags.map .text))
    .ok (frame, { applied := [item] })
  | .select name =>
    match (if effect.field = "" then selectField name else some effect.field) with
    | none => .error .keyError
    | some field =>
      let (frame, ignored, changed) := frame.select field (effect.value.getD .null)
      .ok (frame, { applied := [{ item with ignored, changed := some changed }] })
  | .setLease =>
    let (frame, changed) :=
      frame.write false (effect.fieldOr "resource.lease_hours") (effect.value.getD effect.hours)
    .ok (frame, { applied := [{ item with changed := some changed }] })
  | .require name =>
    let paths := if effect.field = "" then obligationFields name else [effect.field]
    let satisfied := paths.any fun path => (fieldOrNull rt frame.context path).truthy
    let message := effect.text rt (name ++ " requirement is not satisfied")
    let emitted : Emitted :=
      if satisfied then { applied := [item] }
      else reports message (.obligation policyId name message)
    .ok (frame, { emitted with obligations := [⟨policyId, effect, some satisfied⟩] })
  | .other _ => .ok (frame, { obligations := [⟨policyId, effect, none⟩], applied := [item] })

/-- `_apply_effect`. -/
def applyEffect (rt : Runtime) (policyId : String) (advisory : Bool) (frame : Frame)
    (effect : Effect) : Except Raised (Frame × Emitted) := do
  if ← effect.when.evaluate rt frame.context then applyMatched rt policyId advisory effect frame
  else .ok (frame, { applied := [⟨policyId, effect, some .effectConditionNotMatched, none⟩] })

/-- The effects of a policy, one after the other. -/
def applyEffects (rt : Runtime) (policyId : String) (advisory : Bool) :
    Frame → List Effect → Except Raised (Frame × Emitted)
  | frame, [] => .ok (frame, {})
  | frame, effect :: effects => do
      let (frame, first) ← applyEffect rt policyId advisory frame effect
      let (frame, rest) ← applyEffects rt policyId advisory frame effects
      .ok (frame, first.append rest)

/-! ### Evaluation -/

inductive TraceEntry
  | unmatched (policyId : String) (reason : Mismatch)
  | dryRun (policyId : String)
  | enforced (policyId : String) (priority : ℤ) (specificity : ℕ) (enforcement : Enforcement)
  deriving DecidableEq, Repr

structure DryRunImpact where
  policyId : String
  priority : ℤ
  emitted : Emitted
  effectiveContext : Entries

inductive Decision
  | allow | approvalRequired | deny
  deriving DecidableEq, Repr

structure Evaluation where
  decision : Decision
  effectiveContext : Entries
  matchedPolicyIds : List String
  appliedEffects : List AppliedEffect
  warnings : List String
  violations : List Violation
  approvals : List Approval
  obligations : List Obligation
  trace : List TraceEntry
  dryRunImpacts : List DryRunImpact

/-- The variables of the second loop. -/
structure Tally where
  frame : Frame
  emitted : Emitted := {}
  matchedIds : List String := []
  matchedWhitelistIds : List String := []
  trace : List TraceEntry := []
  dryRunImpacts : List DryRunImpact := []

/-- A policy that is tried out leaves a report of what it would do. -/
def Tally.tryOut (tally : Tally) (policy : Policy) (frame : Frame) (emitted : Emitted) : Tally :=
  { tally with
    matchedIds := tally.matchedIds ++ [policy.id]
    trace := tally.trace ++ [.dryRun policy.id]
    dryRunImpacts :=
      tally.dryRunImpacts ++ [⟨policy.id, policy.priority, emitted, frame.context⟩] }

def Tally.enforce (tally : Tally) (policy : Policy) (frame : Frame) (emitted : Emitted) : Tally :=
  { tally with
    frame
    emitted := tally.emitted.append emitted
    matchedIds := tally.matchedIds ++ [policy.id]
    matchedWhitelistIds :=
      if isWhitelistAccess policy ∧ policy.status = .enforced then
        tally.matchedWhitelistIds ++ [policy.id]
      else tally.matchedWhitelistIds
    trace := tally.trace
      ++ [.enforced policy.id policy.priority (specificity policy) policy.enforcement] }

/-- One round of the second loop.  A policy that is tried out works on copies. -/
def runPolicy (rt : Runtime) (tally : Tally) (policy : Policy) : Except Raised Tally := do
  let (frame, emitted) ←
    applyEffects rt policy.id (policy.enforcement = .advisory) tally.frame policy.effects
  .ok (if policy.status = .dryRun then tally.tryOut policy frame emitted
    else tally.enforce policy frame emitted)

/-- `any(_exception_matches(...))`. -/
def excepted (rt : Runtime) (context : Entries) (instant : ℤ) (exceptions : List PolicyException)
    (policy : Policy) : Except Raised Bool := do
  let found ← matchedException rt context instant (exceptionsOf exceptions policy)
  .ok found.isSome

/-- `enforced_whitelists`: their exceptions are asked again, in the context as it is now. -/
def enforcedWhitelists (rt : Runtime) (context : Entries) (instant : ℤ)
    (exceptions : List PolicyException) : List Policy → Except Raised (List Policy)
  | [] => .ok []
  | policy :: policies =>
    if policy.status = .enforced then do
      let excepted ← excepted rt context instant exceptions policy
      let rest ← enforcedWhitelists rt context instant exceptions policies
      .ok (if excepted then rest else policy :: rest)
    else enforcedWhitelists rt context instant exceptions policies

/-- The violation of a request that no whitelist allows. -/
def whitelistViolations (whitelists : List Policy) (matchedWhitelistIds : List String) :
    List Violation :=
  if whitelists ≠ [] ∧ matchedWhitelistIds = [] then
    [.accessWhitelist whitelistMessage (whitelists.map (·.id))]
  else []

def decisionOf (violations : List Violation) (approvals : List Approval) : Decision :=
  if !violations.isEmpty then .deny
  else if !approvals.isEmpty then .approvalRequired
  else .allow

/-- The policies that are whitelist candidates. -/
def whitelistCandidates (matchings : List Matching) : List Policy :=
  (matchings.filter (·.whitelist)).map (·.policy)

/-- The result, from what the loops have collected. -/
def conclude (matchings : List Matching) (tally : Tally) (whitelists : List Policy) :
    Evaluation where
  decision := decisionOf
    (tally.emitted.violations ++ whitelistViolations whitelists tally.matchedWhitelistIds)
    tally.emitted.approvals
  effectiveContext := tally.frame.context
  matchedPolicyIds := tally.matchedIds
  appliedEffects := tally.emitted.applied
  warnings := tally.emitted.warnings
  violations :=
    tally.emitted.violations ++ whitelistViolations whitelists tally.matchedWhitelistIds
  approvals := tally.emitted.approvals
  obligations := tally.emitted.obligations
  trace := (matchings.filterMap fun matching =>
    matching.mismatch.map (.unmatched matching.policy.id)) ++ tally.trace
  dryRunImpacts := tally.dryRunImpacts

/-- `evaluate`. -/
def evaluate (rt : Runtime) (policies : List Policy) (context : Entries)
    (exceptions : List PolicyException) (instant : ℤ) : Except Raised Evaluation := do
  let matchings ← policies.mapM (matchPolicy rt context exceptions instant)
  let tally ← (candidates matchings).foldlM (runPolicy rt) { frame := { context } }
  let whitelists ← enforcedWhitelists rt tally.frame.context instant exceptions
    (whitelistCandidates matchings)
  .ok (conclude matchings tally whitelists)

end CloudPortal.Engine
