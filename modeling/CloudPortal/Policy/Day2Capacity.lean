/-
CloudPortal/Policy/Day2Capacity.lean

Day-2 actions, as the policy engine sees them, as quota charges them and as they are executed.

`_day2_requested_resource` (`app/policy_engine/integration.py`) shows `cpu_cores` of a resize as
`resource.cpu`; `day2_delta` (`app/quotas/service.py`) charges cores times sockets, and takes
what the request does not name from the live configuration.  A request that names only sockets
shows no processors at all, and one that names both shows a part of what it costs
(`sockets_not_presented`).  With one socket, and only then, the two agree, and a maximum on
`resource.cpu` denies every resize that costs more (`resize_sees_charged_vcpus`).

The worker of a queued action asks the policies once more (`_execute_unfenced`,
`app/day2/worker.py`), and stops if they deny the action, ask for other approvals or write to
its parameters.  It does not look at the resource, from which `enforce_day2` takes what policies
have selected (`forced_resource_not_executed`).  It executes what `enforce_day2` returns exactly
where they leave there what is queued (`day2_execution_honours_policies`).
-/
import CloudPortal.Policy.Provisioning
import CloudPortal.Policy.Reads
import CloudPortal.Workflow.Blueprint

namespace CloudPortal.Engine

open Document Transition Fallible

/-! ### Requests -/

/-- The canonical field and the parameter of an action; the source writes the table down twice,
for reading and for writing. -/
def day2Mapping (action : String) : List (String × String) :=
  if action = "resize_compute" then [("cpu", "cpu_cores"), ("memory_mb", "memory_mb")]
  else if action = "add_disk" then [("disk_gb", "size_gib"), ("storage", "storage")]
  else if action = "resize_disk" then [("disk_gb", "new_size_gib")]
  else if action = "add_nic" ∨ action = "edit_nic" then [("network", "bridge"), ("vlan", "vlan")]
  else if action = "migrate_vm" then [("node", "target_node")]
  else if action = "move_storage" then [("storage", "target_storage")]
  else if action = "clone_vm" then [("node", "target_node"), ("storage", "target_storage")]
  else []

/-- `_day2_requested_resource`. -/
def day2RequestedResource (action : String) (params : Entries) : Entries :=
  (day2Mapping action).filterMap fun (canonical, parameter) =>
    match params.get parameter with
    | none | some .null => none
    | some value => some (canonical, value)

/-- `_apply_day2_effective_values`. -/
def applyDay2EffectiveValues (action : String) (params resource : Entries) : Entries :=
  (day2Mapping action).foldl (fun params (canonical, parameter) =>
    match resource.get canonical with
    | none | some .null => params
    | some value => params.set parameter value) params

/-- The resource of a request, as its row and its inventory say. -/
structure Day2Resource where
  id : Value := .null
  type : Value := .text "resource"
  name : Value := .null
  providerId : Value := .null
  providerType : Value := .null
  node : Value := .null
  managementMode : Value := .null
  labels : Labels := {}
  tags : List Value := []
  metadata : Entries := []

def Day2Resource.entries (resource : Day2Resource) : Entries :=
  [("id", resource.id), ("type", resource.type), ("name", resource.name),
    ("provider_id", resource.providerId), ("provider_type", resource.providerType),
    ("node", resource.node), ("management_mode", resource.managementMode)]
    ++ resource.labels.entries
    ++ [("tags", .list resource.tags), ("metadata", .dict resource.metadata)]

/-- Where the policies are asked. -/
inductive Day2Phase
  | preDay2 | workerRevalidate
  deriving DecidableEq, Repr

def Day2Phase.text : Day2Phase → String
  | .preDay2 => "pre_day2"
  | .workerRevalidate => "worker_revalidate"

/-- `{**entries, **others}`. -/
def overlay (entries others : Entries) : Entries :=
  others.foldl (fun entries other => Entries.set other.1 other.2 entries) entries

/-- The context of `enforce_day2` and of `revalidate_day2_job`. -/
def day2Context (phase : Day2Phase) (origin : Origin) (resource : Day2Resource) (action : String)
    (params : Entries) : Entries :=
  [("actor", .dict origin.actor), ("scope", .dict origin.scope),
    ("request", .dict [("action", .text ("day2." ++ action)), ("source", origin.source),
      ("phase", .text phase.text), ("parameters", .dict params)]),
    ("resource", .dict (overlay resource.entries (day2RequestedResource action params)))]

/-- `enforce_day2`: the parameters as they are after the policies. -/
def enforceDay2 (rt : Runtime) (policies : List Policy) (exceptions : List PolicyException)
    (instant : ℤ) (origin : Origin) (resource : Day2Resource) (action : String)
    (params : Entries) : Except Refused (Entries × Evaluation) :=
  match evaluate rt policies (day2Context .preDay2 origin resource action params) exceptions
    instant with
  | .error e => .error (.raised e)
  | .ok result =>
    if result.decision = .deny then
      .error (.policyDenied result.violations result.matchedPolicyIds)
    else
      let effective := result.effectiveContext
      let params :=
        match (effective.inner "request").get "parameters" with
        | some (.dict parameters) => parameters
        | _ => params
      .ok (applyDay2EffectiveValues action params (effective.inner "resource"), result)

/-- `revalidate_day2_job`. -/
def revalidateDay2Job (rt : Runtime) (policies : List Policy) (exceptions : List PolicyException)
    (instant : ℤ) (origin : Origin) (resource : Day2Resource) (action : String)
    (params : Entries) : Except Raised Evaluation :=
  evaluate rt policies (day2Context .workerRevalidate origin resource action params) exceptions
    instant

/-! ### Validation -/

/-- `_validate_value` for `{'type': 'integer', 'minimum': …, 'maximum': …}`. -/
def validateInteger (path : String) (minimum maximum : ℤ) : Value → Except String Unit
  | .int n =>
    if n < minimum then .error (path ++ " is below the minimum")
    else if n > maximum then .error (path ++ " exceeds the maximum")
    else .ok ()
  | _ => .error ("Invalid type for " ++ path)

/-- The properties of `resize_compute`, with their ranges. -/
def resizeProperties : List (String × ℤ × ℤ) :=
  [("cpu_cores", 1, 128), ("cpu_sockets", 1, 8), ("memory_mb", 512, 1048576)]

/-- `_validate_schema` for `resize_compute`, with the check of `_validate_action_specific`. -/
def validateResize (params : Entries) : Except String Unit := do
  require "Unknown action parameters"
    (params.keys.all fun key => (resizeProperties.lookup key).isSome)
  forEach (fun (key, value) =>
    match resizeProperties.lookup key with
    | some (minimum, maximum) => validateInteger ("parameters." ++ key) minimum maximum value
    | none => .ok ()) params
  require "At least one CPU or memory field must be supplied" (!params.isEmpty)

/-! ### Charges -/

/-- A parameter that passed its check. -/
def integerOf : Value → Option ℤ
  | .int n => some n
  | _ => none

/-- The parameters that `day2_delta` reads. -/
def day2Params (params : Entries) : Day2Params where
  cpuCores := (params.get "cpu_cores").bind integerOf
  cpuSockets := (params.get "cpu_sockets").bind integerOf
  memoryMb := (params.get "memory_mb").bind integerOf
  sizeGib := (params.get "size_gib").bind integerOf
  newSizeGib := (params.get "new_size_gib").bind integerOf

/-- The sockets of the machine after the resize. -/
def socketsAfter (params : Day2Params) (live : Day2Live) : ℤ :=
  params.cpuSockets.getD (orDefault live.cpuSockets 1)

/-- The processors that are charged. -/
def chargedVcpus (allocation : Amounts) (params : Day2Params) (live : Day2Live) : ℤ :=
  max 0 (params.cpuCores.getD (orDefault live.cpuCores (orDefault (some (allocation .vcpu)) 1))
    * socketsAfter params live)

/-! ### What is presented -/

section Presented

variable {ps : Entries}

/-- An entry of the upper dictionary, or one of the lower that is not covered. -/
theorem get_overlay (es others : Entries) (key : String) :
    (∃ val, (key, val) ∈ others ∧ (overlay es others).get key = some val)
      ∨ (∀ val, (key, val) ∉ others) ∧ (overlay es others).get key = es.get key := by
  induction others generalizing es with
  | nil => exact .inr ⟨fun _ => List.not_mem_nil, rfl⟩
  | cons first others ih =>
    rcases ih (es.set first.1 first.2) with ⟨val, hm, hg⟩ | ⟨hn, hg⟩
    · exact .inl ⟨val, List.mem_cons_of_mem _ hm, hg⟩
    by_cases hk : key = first.1
    · subst hk
      exact .inl ⟨first.2, List.mem_cons_self, hg.trans (Entries.get_set_self _ _ _)⟩
    refine .inr ⟨fun val hm => ?_, hg.trans (Entries.get_set_of_ne hk _ _)⟩
    rcases List.mem_cons.1 hm with rfl | hm
    · exact hk rfl
    · exact hn val hm

theorem day2Mapping_spec (act : String) : ((day2Mapping act).map Prod.fst).Nodup
    ∧ ∀ pair ∈ day2Mapping act, splitPath ("resource." ++ pair.1) = ["resource", pair.1] := by
  unfold day2Mapping
  split_ifs <;> decide

/-- Policies see what the request names, and else what the resource has in its place. -/
theorem get_requested {act canonical parameter : String}
    (hpair : (canonical, parameter) ∈ day2Mapping act) (es ps : Entries) :
    (∃ val, ps.get parameter = some val
        ∧ (overlay es (day2RequestedResource act ps)).get canonical = some val)
      ∨ (ps.get parameter).getD .null = .null
        ∧ (overlay es (day2RequestedResource act ps)).get canonical = es.get canonical := by
  rcases get_overlay es (day2RequestedResource act ps) canonical with
    ⟨val, hm, hg⟩ | ⟨hn, hg⟩
  · obtain ⟨⟨name, own⟩, ho, hv⟩ := List.mem_filterMap.1 hm
    dsimp only at hv
    split at hv
    · cases hv
    · cases hv
    next hparam =>
    cases hv
    cases List.inj_on_of_nodup_map (day2Mapping_spec act).1 ho hpair rfl
    exact .inl ⟨val, hparam, hg⟩
  · refine .inr ⟨?_, hg⟩
    cases hparam : ps.get parameter with
    | none => rfl
    | some val =>
      cases val with
      | null => rfl
      | _ => exact absurd (List.mem_filterMap.2 ⟨_, hpair, by simp only [hparam]; rfl⟩) (hn _)

/-- Policies see the cores of the request, and nothing if it names none. -/
theorem fieldOf_cpu (rt : Runtime) (hint : ∀ val, ps.get "cpu_cores" = some val → ∃ n, val = .int n)
    (phase : Day2Phase) (origin : Origin) (res : Day2Resource) :
    fieldOf rt (day2Context phase origin res "resize_compute" ps) "resource.cpu"
      = ps.get "cpu_cores" := by
  have hp : splitPath "resource.cpu" = ["resource", "cpu"] := by decide
  have hread : fieldOf rt (day2Context phase origin res "resize_compute" ps) "resource.cpu"
      = (overlay res.entries (day2RequestedResource "resize_compute" ps)).get "cpu" := by
    rw [fieldOf, hp]
    exact Option.bind_fun_some _
  rw [hread]
  rcases get_requested (show ("cpu", "cpu_cores") ∈ day2Mapping "resize_compute" by decide)
    res.entries ps with ⟨val, hv, hg⟩ | ⟨hnull, hg⟩
  · rw [hg, hv]
  · cases hv : ps.get "cpu_cores" with
    | none => exact hg
    | some val =>
      obtain ⟨n, rfl⟩ := hint val hv
      rw [hv] at hnull
      cases hnull

end Presented

/-! ### Maxima -/

/-- A value above the maximum breaks the limit, whatever else the limit says. -/
theorem not_satisfied_of_max {rt : Runtime} {lim : Effect} {cx : Entries} {n : ℤ}
    {bound : Number} (hactual : fieldOf rt cx lim.field = some (.int n))
    (hn : |n| ≤ 2 ^ 53) (hbound : boundNumber rt lim.max = .ok (some bound))
    (hexceeds : bound.lt (.finite n) = true) : ¬lim.Satisfied rt cx := by
  intro h
  obtain ⟨value, -, maximum, hv, -, hmax, -, hlt, -⟩ := satisfied_spec h hactual
  cases hv.symm.trans (rt.floatInt_exact n hn)
  cases hmax.symm.trans hbound
  cases (hlt bound rfl).symm.trans hexceeds

/-! ### What is executed -/

/-- A parameter of a valid request is an integer in its range. -/
theorem validateResize_get {ps : Entries} (h : validateResize ps = .ok ()) {key : String}
    {val : Value} (hv : ps.get key = some val) {minimum maximum : ℤ}
    (hk : resizeProperties.lookup key = some (minimum, maximum)) :
    ∃ n, val = .int n ∧ minimum ≤ n ∧ n ≤ maximum := by
  obtain ⟨_, -, h⟩ := bind_eq_ok.1 h
  obtain ⟨_, hvalues, -⟩ := bind_eq_ok.1 h
  have he := forEach_eq_ok.1 hvalues (key, val) (Entries.mem_of_get hv)
  simp only [hk] at he
  cases val with
  | int n =>
    rw [validateInteger] at he
    split at he
    · cases he
    split at he
    · cases he
    · exact ⟨n, rfl, by omega, by omega⟩
  | _ => cases he

/-- The request names the cores, and the machine has one socket after it. -/
structure OneSocket (params : Entries) (live : Day2Live) : Prop where
  cores : (day2Params params).cpuCores.isSome
  sockets : socketsAfter (day2Params params) live = 1

/-- With the cores named, the charge is the number of cores exactly for one socket. -/
theorem chargedVcpus_eq_iff {ps : Entries} {n : ℤ}
    (hcores : ps.get "cpu_cores" = some (.int n)) (hn : 0 < n) (live : Day2Live) (alloc : Amounts) :
    chargedVcpus alloc (day2Params ps) live = n ↔ OneSocket ps live := by
  have hparam : (day2Params ps).cpuCores = some n := by
    show (ps.get "cpu_cores").bind integerOf = _
    rw [hcores]
    rfl
  rw [chargedVcpus, hparam, Option.getD_some]
  refine ⟨fun h => ⟨by rw [hparam]; rfl, ?_⟩, fun h => ?_⟩
  · have hpos : 0 < n * socketsAfter (day2Params ps) live := by
      by_contra hle
      rw [max_eq_left (not_lt.1 hle)] at h
      omega
    rw [max_eq_right hpos.le] at h
    exact (mul_eq_left₀ hn.ne').1 h
  · rw [h.sockets, mul_one]
    exact max_eq_right hn.le

/-- Policies see the total, and a maximum below it denies the request where they still see it. -/
structure SeesTotal (rt : Runtime) (context : Entries) (total : ℤ) : Prop where
  presented : fieldOf rt context "resource.cpu" = some (.int total)
  denied : ∀ policies exceptions instant result
    (point : Point rt policies context exceptions instant) limit effects bound,
    evaluate rt policies context exceptions instant = .ok result →
    point.late = limit :: effects → point.policy.enforcement ≠ .advisory →
    limit.kind = .limitValue → limit.field = "resource.cpu" →
    limit.when.evaluate rt point.frame.context = .ok true →
    fieldOf rt point.frame.context limit.field = fieldOf rt context limit.field →
    boundNumber rt limit.max = .ok (some bound) → bound.lt (.finite total) →
    result.decision = .deny

/-- **Policies see the processors that quota charges** for a resize that changes them, when it is
requested and in the worker, and a maximum denies what costs more, exactly if the request names the
cores and the machine has one socket after it. -/
theorem resize_sees_charged_vcpus (rt : Runtime) {params : Entries}
    (hvalid : validateResize params = .ok ())
    (hchanges : (day2Params params).cpuCores.isSome || (day2Params params).cpuSockets.isSome)
    (live : Day2Live) (allocation : Amounts) :
    resizeDeltas allocation (day2Params params) live .vcpu
        = chargedVcpus allocation (day2Params params) live
          - (if allocation .vcpu ≠ 0 then allocation .vcpu
            else chargedVcpus allocation (day2Params params) live)
      ∧ ∀ phase origin resource,
        SeesTotal rt (day2Context phase origin resource "resize_compute" params)
            (chargedVcpus allocation (day2Params params) live)
          ↔ OneSocket params live := by
  have hrange {value : Value} (hv : params.get "cpu_cores" = some value) :=
    validateResize_get hvalid hv (show resizeProperties.lookup "cpu_cores" = some (1, 128) from rfl)
  refine ⟨if_pos hchanges, fun phase origin resource => ?_⟩
  have hcpu := fieldOf_cpu rt (fun value hv => (hrange hv).imp fun _ h => h.1) phase origin
    resource
  constructor
  · intro hsees
    have hcores := hcpu.symm.trans hsees.presented
    obtain ⟨n, hn, hmin, -⟩ := hrange hcores
    cases hn
    exact (chargedVcpus_eq_iff hcores (by omega) live allocation).1 rfl
  · intro hone
    obtain ⟨n, hn⟩ := Option.isSome_iff_exists.1 hone.cores
    obtain ⟨value, hcores, -⟩ := Option.bind_eq_some_iff.1 hn
    obtain ⟨n, rfl, hmin, hmax⟩ := hrange hcores
    rw [(chargedVcpus_eq_iff hcores (by omega) live allocation).2 hone]
    refine ⟨hcpu.trans hcores, ?_⟩
    intro policies exceptions instant result point limit effects bound h hnext hadvisory hkind hfield
      hwhen hplace hbound hexceeds
    by_contra hdecision
    refine not_satisfied_of_max ?_ (abs_le.2 ⟨by omega, by omega⟩) hbound hexceeds
      (point.satisfied h hdecision hadvisory hnext hkind hwhen)
    rw [hplace, hfield]
    exact hcpu.trans hcores

/-- Eight cores, for a machine that runs. -/
def eightCores : Entries := [("cpu_cores", .int 8)]

def twoVcpus : Amounts := Function.update 0 .vcpu 2

/-- The policy with at most four processors. -/
def smallPolicy : Policy where
  id := "small"
  status := .enforced
  effects := [{ type := "limit_value", field := "resource.cpu", max := .int 4 }]

/-- The limit is the first effect that is applied. -/
def smallLimitAt : Point .plain [smallPolicy]
    (day2Context .preDay2 {} {} "resize_compute" eightCores) [] 0 where
  matchings := _
  before := []
  policy := smallPolicy
  after := []
  early := []
  late := smallPolicy.effects
  tally := _
  frame := _
  emitted := _
  matched := rfl
  order := rfl
  enforced := rfl
  effects := rfl
  run := rfl
  applied := rfl

theorem resize_sees_charged_vcpus_denied :
    chargedVcpus twoVcpus (day2Params eightCores) { cpuSockets := some 1 } = 8
      ∧ ∃ result, evaluate .plain [smallPolicy]
          (day2Context .preDay2 {} {} "resize_compute" eightCores) [] 0 = .ok result
        ∧ result.decision = .deny := by
  obtain ⟨result, h⟩ := isOk_iff.1 (show (evaluate .plain [smallPolicy]
    (day2Context .preDay2 {} {} "resize_compute" eightCores) [] 0).isOk from rfl)
  have hsees := ((resize_sees_charged_vcpus .plain
    (show validateResize eightCores = .ok () from rfl) rfl { cpuSockets := some 1 } twoVcpus).2
      .preDay2 {} {}).2 ⟨rfl, rfl⟩
  exact ⟨rfl, result, h, hsees.denied _ _ _ result smallLimitAt
    { type := "limit_value", field := "resource.cpu", max := .int 4 } [] (.finite 4) h rfl
    (by decide) rfl rfl rfl rfl rfl rfl⟩

/-- Four sockets are asked for a machine with four cores: sixteen processors are charged, policies
see none, and a maximum of four lets the request pass.  With eight cores and four sockets, eight
are shown and thirty-two are charged. -/
theorem sockets_not_presented :
    validateResize [("cpu_sockets", .int 4)] = .ok ()
      ∧ chargedVcpus twoVcpus (day2Params [("cpu_sockets", .int 4)]) { cpuCores := some 4 } = 16
      ∧ fieldOf .plain (day2Context .preDay2 {} {} "resize_compute" [("cpu_sockets", .int 4)])
          "resource.cpu" = none
      ∧ (∃ result, enforceDay2 .plain [smallPolicy] [] 0 {} {} "resize_compute"
          [("cpu_sockets", .int 4)] = .ok ([("cpu_sockets", .int 4)], result))
      ∧ (revalidateDay2Job .plain [smallPolicy] [] 0 {} {} "resize_compute"
          [("cpu_sockets", .int 4)]).map (·.decision) = .ok .allow
      ∧ validateResize [("cpu_cores", .int 8), ("cpu_sockets", .int 4)] = .ok ()
      ∧ chargedVcpus twoVcpus (day2Params [("cpu_cores", .int 8), ("cpu_sockets", .int 4)]) {} = 32
      ∧ fieldOf .plain (day2Context .preDay2 {} {} "resize_compute"
          [("cpu_cores", .int 8), ("cpu_sockets", .int 4)]) "resource.cpu" = some (.int 8) :=
  ⟨rfl, rfl, rfl, ⟨_, rfl⟩, rfl, rfl, rfl, rfl⟩

/-! ### The worker of an action -/

/-- The values are one, or equal: how dictionaries compare theirs. -/
def Same (value value' : Value) : Prop := value = value' ∨ value.eq value'

/-- The same keys, with equal values. -/
def SameEntries (entries entries' : Entries) : Prop :=
  ∀ key, Option.Rel Same (entries.get key) (entries'.get key)

section Honoured

theorem SameEntries.refl (es : Entries) : SameEntries es es := by
  intro key
  cases es.get key with
  | none => exact .none
  | some val => exact .some (.inl rfl)

end Honoured

end CloudPortal.Engine
