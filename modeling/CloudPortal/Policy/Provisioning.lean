/-
CloudPortal/Policy/Provisioning.lean

The capacity of a new machine, as the policy engine sees it and as quota charges it.

`app/policy_engine/integration.py` reads the size of a machine from the variables of a
request under lists of aliases and writes values that a policy has chosen back under
one of them; `deployment_dimensions` (`app/quotas/service.py`) reads the variables after they
were validated for their template, under the names that the templates have.  The two
agree on processors and memory that the request names.  They do not on the disk: the
templates call it `disk`, which is no alias (`disk_not_presented`).  For each size and each
of the contexts `policy_sees_charged_capacity` says exactly when they agree.
-/
import CloudPortal.Policy.Limits
import CloudPortal.Quota.Prepare

namespace CloudPortal.Engine

open Document Transition

/-! ### Reading vars -/

/-- `_number_from`: the first value that is an integer. -/
def numberFrom (rt : Runtime) (values : Entries) : List String → Except Raised (Option ℤ)
  | [] => .ok none
  | key :: keys =>
    match values.get key with
    | none | some .null | some (.flag _) => numberFrom rt values keys
    | some value => do
        match ← caught (rt.toInt value) with
        | some n => .ok (some n)
        | none => numberFrom rt values keys

/-- `a or b or c` of variables. -/
def firstTruthy (values : Entries) : List String → Value
  | [] => .null
  | [key] => (values.get key).getD .null
  | key :: keys =>
    match values.get key with
    | some value => if value.truthy then value else firstTruthy values keys
    | none => firstTruthy values keys

/-- `_tags` of variables. -/
def variableTags (values : Entries) : List Value :=
  match values.get "tags" with
  | some (.text tags) =>
    (((tags.toList.splitOnP fun c => c = ';' || c = ',').map String.ofList).filter (· ≠ "")).map
      .text
  | some (.list tags) => tags
  | _ => []

/-- An integer, or `None`. -/
def ofNumber : Option ℤ → Value
  | some n => .int n
  | none => .null

/-- The size of a machine. -/
inductive Size
  | cpu | memory | disk
  deriving DecidableEq, Repr

/-- The field of the resource in an evaluation context. -/
def Size.field : Size → String
  | .cpu => "cpu"
  | .memory => "memory_mb"
  | .disk => "disk_gb"

/-- `alias_groups`: the variables that policies read and write. -/
def Size.aliases : Size → List String
  | .cpu => ["cores", "cpu", "vcpu", "cpu_cores"]
  | .memory => ["memory", "memory_mb", "ram_mb"]
  | .disk => ["disk_size_gb", "disk_gb", "disk_size"]

/-- The variable that quota reads. -/
def Size.key : Size → String
  | .cpu => "cpu"
  | .memory => "memory"
  | .disk => "disk"

def Size.dimension : Size → Dimension
  | .cpu => .vcpu
  | .memory => .memoryMb
  | .disk => .diskGib

/-- The part of a resource that is read from the variables. -/
def variableFields (rt : Runtime) (vars : Entries) : Except Raised Entries := do
  let cpu ← numberFrom rt vars Size.cpu.aliases
  let memory ← numberFrom rt vars Size.memory.aliases
  let disk ← numberFrom rt vars Size.disk.aliases
  .ok [("cpu", ofNumber cpu), ("memory_mb", ofNumber memory), ("disk_gb", ofNumber disk),
    ("storage", firstTruthy vars ["storage", "datastore", "datastore_id"]),
    ("network", firstTruthy vars ["network", "bridge", "network_id"]),
    ("node", firstTruthy vars ["node", "host", "target_node"]),
    ("cluster", firstTruthy vars ["cluster", "cluster_id"]),
    ("tags", .list (variableTags vars)), ("variables", .dict vars)]

/-! ### Evaluation contexts -/

/-- Where a machine belongs, from tags, variables and the scope of the request. -/
structure Labels where
  apmid : Value := .null
  environment : Value := .null
  organization : Value := .null
  project : Value := .null
  scopeKey : Value := .null

def Labels.entries (labels : Labels) : Entries :=
  [("apmid", labels.apmid), ("environment", labels.environment),
    ("organization", labels.organization), ("project", labels.project),
    ("scope_key", labels.scopeKey)]

/-- Who asks, for which scope, from where. -/
structure Origin where
  actor : Entries := []
  scope : Entries := []
  source : Value := .null

/-- `dict(rendered.get("variables") or {})`. -/
def renderedVariables (rendered : Entries) : Entries := rendered.inner "variables"

/-- The context of `enforce_vm_create`. -/
def vmCreateContext (rt : Runtime) (origin : Origin) (labels : Labels) (rendered : Entries) :
    Except Raised Entries := do
  let fields ← variableFields rt (renderedVariables rendered)
  .ok [("actor", .dict origin.actor), ("scope", .dict origin.scope),
    ("request", .dict [("action", .text "vm.create"), ("source", origin.source),
      ("phase", .text "pre_provision"), ("payload", .dict rendered)]),
    ("resource", .dict (("type", .text "vm") :: labels.entries
      ++ [("provider_id", (rendered.get "provider_id").getD .null),
        ("template", (rendered.get "template").getD .null)] ++ fields))]

/-- The second context of `enforce_blueprint_execution`. -/
def blueprintVmContext (rt : Runtime) (origin : Origin) (labels : Labels) (blueprint : Entries)
    (rendered : Entries) : Except Raised Entries := do
  let fields ← variableFields rt (renderedVariables rendered)
  .ok [("actor", .dict origin.actor), ("scope", .dict origin.scope),
    ("request", .dict [("action", .text "vm.create"), ("source", origin.source),
      ("phase", .text "pre_provision"), ("payload", .dict rendered)]),
    ("blueprint", .dict blueprint),
    ("resource", .dict (("type", .text "vm") :: labels.entries
      ++ [("provider_id", (rendered.get "provider_id").getD .null),
        ("provider_type", (rendered.get "provider").getD .null),
        ("template", (rendered.get "template").getD .null)] ++ fields))]

/-- A deployment row, as the contexts of jobs read it. -/
structure DeploymentFacts where
  id : Value := .null
  name : Value := .null
  providerId : Value := .null
  providerType : Value := .null
  template : Value := .null
  vars : Entries

/-- `_deployment_policy_resource`, with the scope that `revalidate_job_operation` adds. -/
def deploymentResource (rt : Runtime) (labels : Labels) (deployment : DeploymentFacts) :
    Except Raised Entries := do
  let fields ← variableFields rt deployment.vars
  .ok ([("id", deployment.id), ("type", .text "terraform"), ("deployment_id", deployment.id),
    ("name", deployment.name), ("provider_id", deployment.providerId),
    ("provider_type", deployment.providerType), ("template", deployment.template)]
    ++ labels.entries ++ fields)

/-- The context of `revalidate_job_operation` for a deployment. -/
def workerContext (rt : Runtime) (origin : Origin) (labels : Labels) (operation : String)
    (deployment : DeploymentFacts) : Except Raised Entries := do
  let resource ← deploymentResource rt labels deployment
  .ok [("actor", .dict origin.actor), ("scope", .dict origin.scope),
    ("request", .dict [("action", .text operation), ("source", origin.source),
      ("phase", .text "worker_revalidate"), ("parameters", .dict [])]),
    ("resource", .dict resource)]

/-- The context of `revalidate_blueprint_job`. -/
def workerBlueprintContext (rt : Runtime) (origin : Origin) (labels : Labels)
    (blueprint : Entries) (deployment : DeploymentFacts) : Except Raised Entries := do
  let fields ← variableFields rt deployment.vars
  .ok [("actor", .dict origin.actor), ("scope", .dict origin.scope),
    ("request", .dict [("action", .text "vm.create"), ("source", origin.source),
      ("phase", .text "worker_revalidate")]),
    ("blueprint", .dict blueprint),
    ("resource", .dict (("type", .text "vm") :: ("id", deployment.id) :: labels.entries
      ++ [("provider_id", deployment.providerId), ("provider_type", deployment.providerType),
        ("template", deployment.template)] ++ fields))]

/-! ### Writing values back -/

/-- The variable that a value is written to: the first alias that is there, or the first. -/
def aliasTarget (vars : Entries) (aliases : List String) : String :=
  (aliases.find? fun key => (vars.get key).isSome).getD (aliases.headD "")

/-- Write a field of the effective resource to its variable. -/
def writeAlias (effective : Entries) (vars : Entries) (field : String)
    (aliases : List String) : Entries :=
  match effective.get field with
  | none | some .null => vars
  | some value => vars.set (aliasTarget vars aliases) value

/-- `placement_aliases`. -/
def placementAliases : List (String × List String) :=
  [("storage", ["storage", "datastore", "datastore_id"]),
    ("network", ["network", "bridge", "network_id"]),
    ("node", ["node", "host", "target_node"]), ("cluster", ["cluster", "cluster_id"])]

/-- `list(effective_resource.get("tags") or [])`, if there are tags. -/
def writeTags (effective vars : Entries) : Except Raised Entries :=
  match effective.get "tags" with
  | some tags => do
      let tags ← tags.items
      .ok (vars.set "tags" (.list tags))
  | none => .ok vars

/-- `for field, keys in …items()`. -/
def writeGroups (effective : Entries) (groups : List (String × List String)) (vars : Entries) :
    Entries :=
  groups.foldl (fun vars (field, aliases) => writeAlias effective vars field aliases) vars

/-- The variables after `_write_aliases`. -/
def writtenVariables (effective vars : Entries) : Except Raised Entries := do
  let vars ← writeTags effective (writeGroups effective
    ([Size.cpu, .memory, .disk].map fun size => (size.field, size.aliases)) vars)
  .ok (writeGroups effective placementAliases vars)

/-- `_write_aliases`; `credentials` looks up the credentials of a provider. -/
def writeAliases (credentials : Value → Option Value) (effective rendered : Entries) :
    Except Raised Entries := do
  let vars ← writtenVariables effective (renderedVariables rendered)
  let rendered := rendered.set "variables" (.dict vars)
  let rendered :=
    match effective.get "provider_id" with
    | none | some .null => rendered
    | some provider =>
      let rendered := rendered.set "provider_id" provider
      match credentials provider with
      | some credential => rendered.set "credentials_id" credential
      | none => rendered
  .ok (match effective.get "template" with
    | some template => if template.truthy then rendered.set "template" template else rendered
    | none => rendered)

/-- What `enforce_vm_create` refuses with. -/
inductive Refused
  | raised (error : Raised)
  | policyDenied (violations : List Violation) (matchedPolicyIds : List String)

/-- `enforce_vm_create`: the request as it is after the policies. -/
def enforceVmCreate (rt : Runtime) (policies : List Policy) (exceptions : List PolicyException)
    (instant : ℤ) (credentials : Value → Option Value) (origin : Origin) (labels : Labels)
    (rendered : Entries) : Except Refused (Entries × Evaluation) :=
  match vmCreateContext rt origin labels rendered with
  | .error e => .error (.raised e)
  | .ok context =>
    match evaluate rt policies context exceptions instant with
    | .error e => .error (.raised e)
    | .ok result =>
      if result.decision = .deny then
        .error (.policyDenied result.violations result.matchedPolicyIds)
      else
        let effective := result.effectiveContext
        let rendered :=
          match (effective.inner "request").get "payload" with
          | some (.dict payload) => payload
          | _ => rendered
        match writeAliases credentials (effective.inner "resource") rendered with
        | .error e => .error (.raised e)
        | .ok rendered => .ok (rendered, result)

/-! ### Validation for a template -/

/-- An integer field of a template model. -/
structure IntField where
  default : ℤ
  ge : ℤ
  le : ℤ

/-- The templates for Proxmox and VMware. -/
inductive Template
  | proxmoxVm | proxmoxAppliance | vmware
  deriving DecidableEq, Repr

def Template.provider : Template → ProviderKind
  | .proxmoxVm | .proxmoxAppliance => .proxmox
  | .vmware => .vmware

/-- The fields of `VMVariables`, `ApplianceVMVariables` and `VMwareVariables`. -/
def Template.keys : Template → List String
  | .proxmoxVm => ["name", "node", "vm_id", "template_id", "template_node", "cpu", "memory",
      "disk", "network", "storage", "vlan_id", "ssh_username", "ssh_public_key",
      "install_qemu_guest_agent", "cloud_init_snippet_storage", "ipv4_address", "ipv4_gateway",
      "dns_servers", "dns_domain", "tags"]
  | .proxmoxAppliance => ["name", "node", "vm_id", "storage", "network", "network_count",
      "vlan_id", "cpu", "memory", "import_file_ids", "disk_bus", "started", "qemu_guest_agent",
      "tags"]
  | .vmware => ["name", "datacenter", "datastore", "cluster", "network", "template", "folder",
      "cpu", "memory", "disk"]

/-- The fields that say how large the machine is. -/
def Template.size : Template → Size → Option IntField
  | _, .cpu => some ⟨2, 1, 128⟩
  | .proxmoxAppliance, .memory => some ⟨4096, 128, 1048576⟩
  | _, .memory => some ⟨4096, 512, 1048576⟩
  | .proxmoxAppliance, .disk => none
  | _, .disk => some ⟨40, 1, 65536⟩

/-- How the schema library reads values; integers are read as they are. -/
structure Schemas where
  /-- an integer, also from texts and floats that are one -/
  lax : Value → Option ℤ
  /-- the checks, defaults and normal forms of the fields that do not say how large it is -/
  others : Template → Entries → Option Entries
  lax_int : ∀ n, lax (.int n) = some n
  others_size : ∀ {template vars vars'}, others template vars = some vars' →
    ∀ size : Size, vars'.get size.key = vars.get size.key
  others_keys : ∀ {template vars vars'}, others template vars = some vars' →
    (∀ key ∈ vars.keys, key ∈ template.keys) → ∀ key ∈ vars'.keys, key ∈ template.keys

/-- An integer field: the default, or a value in range. -/
def IntField.read (schemas : Schemas) (field : IntField) : Option Value → Option ℤ
  | none => some field.default
  | some value => (schemas.lax value).filter fun n => field.ge ≤ n && n ≤ field.le

/-- Validate a field that says how large the machine is, and store its number. -/
def validateSize (schemas : Schemas) (template : Template) (vars : Entries) (size : Size) :
    Option Entries :=
  match template.size size with
  | none => some vars
  | some field => do
      let n ← field.read schemas (vars.get size.key)
      some (vars.set size.key (.int n))

/-- `validate_template_variables(...).model_dump()`; extra variables are forbidden. -/
def validateTemplateVariables (schemas : Schemas) (template : Template) (vars : Entries) :
    Option Entries :=
  if vars.keys.all (· ∈ template.keys) then do
    let vars ← schemas.others template vars
    let vars ← validateSize schemas template vars .cpu
    let vars ← validateSize schemas template vars .memory
    validateSize schemas template vars .disk
  else none

/-! ### Charges -/

/-- A variable, as quota reads it. -/
def rawValue : Value → RawValue
  | .int n => .integer n
  | .flag b => .bool b
  | _ => .malformed

/-- The variables that `deployment_dimensions` reads. -/
def capacityVariables (vars : Entries) : CapacityVariables where
  cpu := (vars.get "cpu").map rawValue
  memory := (vars.get "memory").map rawValue
  disk := (vars.get "disk").map rawValue
  rootVolumeSize := (vars.get "root_volume_size").map rawValue
  osDiskSizeGb := (vars.get "os_disk_size_gb").map rawValue

/-- What is charged for a deployment with these variables; `0` is nothing. -/
def charged (template : Template) (vars : Entries) (size : Size) : ℤ :=
  deploymentDimensions ⟨0, template.provider, capacityVariables vars⟩ size.dimension

/-! ### What validation leaves -/

section Validation

variable {schemas : Schemas} {tmpl : Template} {vars dumped : Entries}

theorem validateSize_spec {size : Size} (h : validateSize schemas tmpl vars size = some dumped) :
    (∀ key ≠ size.key, dumped.get key = vars.get key)
      ∧ (∀ key ∈ dumped.keys, key = size.key ∧ tmpl.size size ≠ none ∨ key ∈ vars.keys)
      ∧ (tmpl.size size = none → dumped.get size.key = vars.get size.key)
      ∧ ∀ field, tmpl.size size = some field →
        ∃ n, field.read schemas (vars.get size.key) = some n
          ∧ dumped.get size.key = some (.int n) := by
  unfold validateSize at h
  split at h
  · next hnone =>
    cases h
    exact ⟨fun _ _ => rfl, fun _ hk => .inr hk, fun _ => rfl,
      fun field hf => absurd hf (by rw [hnone]; nofun)⟩
  next field hf =>
  obtain ⟨n, hn, h⟩ := Option.bind_eq_some_iff.1 h
  cases h
  refine ⟨fun key hk => Entries.get_set_of_ne hk _ _, fun key hk => ?_,
    fun hnone => absurd hf (by rw [hnone]; nofun), fun field' hf' => ?_⟩
  · exact (Entries.keys_set hk).imp_left fun h => ⟨h, by rw [hf]; nofun⟩
  · cases hf.symm.trans hf'
    exact ⟨n, hn, Entries.get_set_self _ _ _⟩

theorem size_key_mem {size : Size} : size.key ∈ tmpl.keys ↔ tmpl.size size ≠ none := by
  cases tmpl <;> cases size <;> decide

/-- The variables that are stored: only fields of the template, with a number for each size that
the template has. -/
theorem validate_spec (h : validateTemplateVariables schemas tmpl vars = some dumped) :
    (∀ key ∈ vars.keys, key ∈ tmpl.keys) ∧ (∀ key ∈ dumped.keys, key ∈ tmpl.keys)
      ∧ ∀ size, (tmpl.size size = none → dumped.get size.key = vars.get size.key)
        ∧ ∀ field, tmpl.size size = some field →
          ∃ n, field.read schemas (vars.get size.key) = some n
            ∧ dumped.get size.key = some (.int n) := by
  unfold validateTemplateVariables at h
  split at h
  · next hchecks =>
    have hkeys : ∀ key ∈ vars.keys, key ∈ tmpl.keys := by simpa [List.all_eq_true] using hchecks
    obtain ⟨other, ho, h⟩ := Option.bind_eq_some_iff.1 h
    obtain ⟨first, hcpu, h⟩ := Option.bind_eq_some_iff.1 h
    obtain ⟨second, hmemory, hdisk⟩ := Option.bind_eq_some_iff.1 h
    obtain ⟨hg₁, hk₁, hn₁, hs₁⟩ := validateSize_spec hcpu
    obtain ⟨hg₂, hk₂, hn₂, hs₂⟩ := validateSize_spec hmemory
    obtain ⟨hget₃, hkeys₃, hnone₃, hsome₃⟩ := validateSize_spec hdisk
    have hs {before after : Entries} {size : Size}
        (hafter : ∀ key ∈ after.keys, key = size.key ∧ tmpl.size size ≠ none ∨ key ∈ before.keys)
        (hbefore : ∀ key ∈ before.keys, key ∈ tmpl.keys) :
        ∀ key ∈ after.keys, key ∈ tmpl.keys := by
      intro key hk
      rcases hafter key hk with ⟨rfl, hsize⟩ | hk
      · exact size_key_mem.2 hsize
      · exact hbefore key hk
    have hkeys₀ := schemas.others_keys ho hkeys
    refine ⟨hkeys, hs hkeys₃ (hs hk₂ (hs hk₁ hkeys₀)), fun size => ?_⟩
    rw [← schemas.others_size ho]
    cases size with
    | cpu =>
      rw [hget₃ _ (by decide), hg₂ _ (by decide)]
      exact ⟨hn₁, hs₁⟩
    | memory =>
      rw [hget₃ _ (by decide), ← hg₁ _ (by decide)]
      exact ⟨hn₂, hs₂⟩
    | disk =>
      rw [← hg₁ _ (by decide), ← hg₂ _ (by decide)]
      exact ⟨hnone₃, hsome₃⟩
  · cases h

end Validation

/-! ### What is presented -/

variable {fields rendered : Entries} {val : Value} {n : ℤ}

section Presented

variable {rt : Runtime} {tmpl : Template} {vars : Entries} {keys : List String}

theorem numberFrom_of_none {key : String} (h : vars.get key = none) :
    numberFrom rt vars (key :: keys) = numberFrom rt vars keys := by
  rw [numberFrom, h]

theorem numberFrom_of_absent (h : ∀ key ∈ keys, vars.get key = none) :
    numberFrom rt vars keys = .ok none := by
  induction keys with
  | nil => rfl
  | cons key keys ih =>
    obtain ⟨hkey, h⟩ := List.forall_mem_cons.1 h
    rw [numberFrom_of_none hkey, ih h]

/-- The first alias decides, where the others are missing. -/
theorem numberFrom_cons_of_absent {key : String} (h : ∀ key ∈ keys, vars.get key = none) :
    numberFrom rt vars (key :: keys) = numberFrom rt vars [key] := by
  rw [numberFrom, numberFrom, numberFrom_of_absent h]
  rfl

/-- The integer of a value that is there, no boolean and not null. -/
theorem numberFrom_eq_some {key : String} :
    numberFrom rt vars [key] = .ok (some n)
      ↔ ∃ val, vars.get key = some val ∧ val ≠ .null ∧ (∀ b, val ≠ .flag b)
        ∧ rt.toInt val = .ok n := by
  rw [numberFrom]
  split
  · next h => simp [h, numberFrom]
  · next h => simp [h, numberFrom]
  · next h => simp [h, numberFrom]
  · next val hnull hflag hval =>
    cases hint : rt.toInt val with
    | ok m =>
      rw [hval]
      constructor
      · rintro ⟨⟩
        exact ⟨val, rfl, hnull, hflag, hint⟩
      · rintro ⟨_, ⟨⟩, -, -, hm⟩
        cases hint.symm.trans hm
        rfl
    | error e =>
      have hno : ¬∃ val', some val = some val' ∧ val' ≠ .null ∧ (∀ b, val' ≠ .flag b)
          ∧ rt.toInt val' = .ok n := by
        rintro ⟨_, ⟨⟩, -, -, hm⟩
        cases hint.symm.trans hm
      rw [hval]
      cases e <;> exact iff_of_false nofun hno

/-- No template has an alias that quota does not read. -/
theorem get_alias (hkeys : ∀ key ∈ vars.keys, key ∈ tmpl.keys) (size : Size) {key : String}
    (hk : key ∈ size.aliases) (hne : key ≠ size.key) : vars.get key = none := by
  refine Entries.get_eq_none fun hm => absurd (hkeys key hm) ?_
  clear hm
  revert key
  cases size <;> cases tmpl <;> decide

/-- The size that a request names, or nothing for the disk. -/
theorem numberFrom_aliases (hkeys : ∀ key ∈ vars.keys, key ∈ tmpl.keys) (size : Size) :
    numberFrom rt vars size.aliases
      = if size = .disk then .ok none else numberFrom rt vars [size.key] := by
  cases size with
  | cpu =>
    show numberFrom rt vars ["cores", "cpu", "vcpu", "cpu_cores"] = _
    rw [numberFrom_of_none (get_alias hkeys .cpu (by decide) (by decide))]
    refine numberFrom_cons_of_absent fun key hk => get_alias hkeys .cpu ?_ ?_
    all_goals revert key; decide
  | memory =>
    refine numberFrom_cons_of_absent fun key hk => get_alias hkeys .memory ?_ ?_
    all_goals revert key; decide
  | disk =>
    refine numberFrom_of_absent fun key hk => get_alias hkeys .disk hk ?_
    revert key
    decide

/-- The fields that are read from the variables hold the numbers that were found. -/
theorem variableFields_get (h : variableFields rt vars = .ok fields) (size : Size) :
    ∃ n, numberFrom rt vars size.aliases = .ok n ∧ fields.get size.field = some (ofNumber n) := by
  simp only [variableFields, bind_eq_ok] at h
  obtain ⟨cpu, hcpu, memory, hmemory, disk, hdisk, h⟩ := h
  cases h
  cases size with
  | cpu => exact ⟨cpu, hcpu, rfl⟩
  | memory => exact ⟨memory, hmemory, rfl⟩
  | disk => exact ⟨disk, hdisk, rfl⟩

/-- The path of a size in an evaluation context. -/
def Size.path (size : Size) : String := "resource." ++ size.field

/-- What the policy engine reads under the path of a size. -/
theorem fieldOf_path {ctx res : Entries} {head : Entries}
    (hr : ctx.get "resource" = some (.dict res))
    (hfields : res = head ++ fields) (size : Size) (hhead : head.get size.field = none) :
    fieldOf rt ctx size.path = fields.get size.field := by
  have hp : splitPath size.path = ["resource", size.field] := by
    cases size <;> decide
  rw [fieldOf, hp, getPath_dict_cons, hr, Option.bind_some, getPath_dict_cons, hfields]
  have happend : Entries.get (head ++ fields) size.field = fields.get size.field := by
    rw [Entries.get, List.lookup_append]
    rw [Entries.get] at hhead
    rw [hhead]
    rfl
  rw [happend]
  cases fields.get size.field <;> rfl

end Presented

/-! ### What is charged -/

/-- The value of a field that agrees with a charge; nothing is charged for nothing. -/
def presentedAs (charge : ℤ) : Value := if charge = 0 then .null else .int charge

/-- The policy engine sees the charge. -/
def Presents (rt : Runtime) (context : Entries) (size : Size) (charge : ℤ) : Prop :=
  fieldOf rt context size.path = some (presentedAs charge)

theorem charged_eq (tmpl : Template) (vars : Entries) (size : Size) :
    charged tmpl vars size = nonnegativeInt ((vars.get size.key).map rawValue) := by
  cases tmpl <;> cases size <;> rfl

section Fields

variable {schemas : Schemas} {tmpl : Template} {size : Size} {field : IntField}

theorem read_int {m : ℤ} (h : field.read schemas (some (.int n)) = some m) : m = n := by
  rw [IntField.read, schemas.lax_int] at h
  exact (Option.some.inj (Option.filter_eq_some_iff.1 h).1).symm

/-- What is stored is in range, the default with it. -/
theorem ge_of_read {val : Option Value} (hdefault : field.ge ≤ field.default)
    (h : field.read schemas val = some n) : field.ge ≤ n := by
  cases val with
  | none => exact Option.some.inj h ▸ hdefault
  | some val => exact of_decide_eq_true (Bool.and_eq_true_iff.1 (Option.filter_eq_some_iff.1 h).2).1

/-- Templates say how many processors and how much memory; not all have a disk. -/
theorem exists_field (tmpl : Template) (hsize : size ≠ .disk) :
    ∃ field, tmpl.size size = some field := by
  cases size with
  | cpu | memory => cases tmpl <;> exact ⟨_, rfl⟩
  | disk => exact absurd rfl hsize

theorem field_range (h : tmpl.size size = some field) :
    1 ≤ field.ge ∧ field.ge ≤ field.default := by
  cases tmpl <;> cases size <;> cases h <;> decide

end Fields

/-- Policies read the number of the request that the schema reads; for the disk the template has
none. -/
def Named (rt : Runtime) (schemas : Schemas) (template : Template) (vars : Entries) (size : Size) :
    Prop :=
  if size = .disk then template.size .disk = none
  else ∃ value n, vars.get size.key = some value ∧ value ≠ .null ∧ (∀ b, value ≠ .flag b)
    ∧ rt.toInt value = .ok n ∧ schemas.lax value = some n

section Charged

variable {rt : Runtime} {schemas : Schemas} {tmpl : Template} {vars dumped : Entries}

/-- An appliance stores no disk. -/
theorem get_disk (hkeys : ∀ key ∈ vars.keys, key ∈ tmpl.keys)
    (hdisk : tmpl.size .disk = none) : vars.get Size.disk.key = none :=
  Entries.get_eq_none fun hk => size_key_mem.1 (hkeys _ hk) hdisk

variable {size : Size}

theorem charged_of_stored (hn : vars.get size.key = some (.int n)) (hpos : 0 ≤ n) :
    charged tmpl vars size = n := by
  rw [charged_eq, hn]
  exact max_eq_right hpos

section

variable (hvalid : validateTemplateVariables schemas tmpl vars = some dumped)
include hvalid

/-- A size of the template is stored as a positive number and charged as it is. -/
theorem charged_of_size {field : IntField} (hsize : tmpl.size size = some field) :
    ∃ n, field.read schemas (vars.get size.key) = some n ∧ dumped.get size.key = some (.int n)
      ∧ charged tmpl dumped size = n ∧ 1 ≤ n := by
  obtain ⟨-, -, hsizes⟩ := validate_spec hvalid
  obtain ⟨n, hn, hdumped⟩ := (hsizes size).2 field hsize
  have hpos : 1 ≤ n := (field_range hsize).1.trans (ge_of_read (field_range hsize).2 hn)
  exact ⟨n, hn, hdumped, charged_of_stored hdumped (by omega), hpos⟩

/-- A size that the request names as an integer is charged as it is. -/
theorem charged_of_named (hn : vars.get size.key = some (.int n)) :
    charged tmpl dumped size = n := by
  cases hsize : tmpl.size size with
  | none =>
    have hk := (validate_spec hvalid).1 _ (List.mem_map_of_mem (Entries.mem_of_get hn))
    exact absurd hsize (size_key_mem.1 hk)
  | some field =>
    obtain ⟨m, hm, -, hcharged, -⟩ := charged_of_size hvalid hsize
    rw [hn] at hm
    rw [hcharged, read_int hm]

/-- For a disk nothing is read, and nothing is charged if the template has none. -/
theorem presented_disk :
    presentedAs (charged tmpl dumped .disk) = .null ↔ tmpl.size .disk = none := by
  cases hsize : tmpl.size .disk with
  | none =>
    rw [charged_eq, get_disk (validate_spec hvalid).2.1 hsize]
    exact iff_of_true rfl rfl
  | some field =>
    obtain ⟨n, -, -, hcharged, hpos⟩ := charged_of_size hvalid hsize
    rw [hcharged, presentedAs, if_neg (by omega)]
    exact ⟨nofun, nofun⟩

/-- When what is read from the variables of the request is the charge. -/
theorem variableFields_presented (h : variableFields rt vars = .ok fields) :
    fields.get size.field = some (presentedAs (charged tmpl dumped size))
      ↔ Named rt schemas tmpl vars size := by
  obtain ⟨number, hnumber, hf⟩ := variableFields_get h size
  rw [numberFrom_aliases (validate_spec hvalid).1] at hnumber
  rw [hf, Named, Option.some.injEq]
  by_cases hsize : size = .disk
  · subst hsize
    rw [if_pos rfl] at hnumber ⊢
    cases hnumber
    exact eq_comm.trans (presented_disk hvalid)
  · rw [if_neg hsize] at hnumber ⊢
    obtain ⟨field, hfield⟩ := exists_field tmpl hsize
    obtain ⟨m, hm, -, hcharged, hpos⟩ := charged_of_size hvalid hfield
    have hshown : ofNumber number = presentedAs (charged tmpl dumped size)
        ↔ numberFrom rt vars [size.key] = .ok (some m) := by
      rw [hcharged, presentedAs, if_neg (by omega), hnumber]
      cases number with
      | none => exact ⟨nofun, nofun⟩
      | some n => simp [ofNumber]
    rw [hshown, numberFrom_eq_some]
    constructor
    · rintro ⟨value, hv, hnull, hflag, hint⟩
      rw [hv] at hm
      exact ⟨value, m, hv, hnull, hflag, hint, (Option.filter_eq_some_iff.1 hm).1⟩
    · rintro ⟨value, n, hv, hnull, hflag, hint, hlax⟩
      rw [hv] at hm
      cases hlax.symm.trans (Option.filter_eq_some_iff.1 hm).1
      exact ⟨value, hv, hnull, hflag, hint⟩

/-- When what is read from the stored variables is the charge, whether or not the request named
it. -/
theorem variableFields_stored (h : variableFields rt dumped = .ok fields) :
    fields.get size.field = some (presentedAs (charged tmpl dumped size))
      ↔ (size = .disk → tmpl.size .disk = none) := by
  obtain ⟨number, hnumber, hf⟩ := variableFields_get h size
  rw [numberFrom_aliases (validate_spec hvalid).2.1] at hnumber
  rw [hf, Option.some.injEq]
  by_cases hsize : size = .disk
  · subst hsize
    rw [if_pos rfl] at hnumber
    cases hnumber
    exact (eq_comm.trans (presented_disk hvalid)).trans ⟨fun h _ => h, fun h => h rfl⟩
  · rw [if_neg hsize] at hnumber
    obtain ⟨field, hfield⟩ := exists_field tmpl hsize
    obtain ⟨m, -, hstored, hcharged, hpos⟩ := charged_of_size hvalid hfield
    have hread : numberFrom rt dumped [size.key] = .ok (some m) :=
      numberFrom_eq_some.2 ⟨_, hstored, nofun, nofun, rt.toInt_int m⟩
    cases hread.symm.trans hnumber
    rw [hcharged, presentedAs, if_neg (by omega)]
    exact iff_of_true rfl fun h => absurd h hsize

end

end Charged

/-! ### What policies write -/

section Written

variable {effective vars : Entries} {wr : Entries}

theorem aliasTarget_mem {aliases : List String} (h : aliases ≠ []) :
    aliasTarget vars aliases ∈ aliases := by
  unfold aliasTarget
  cases hf : aliases.find? fun key => (vars.get key).isSome with
  | some key => exact List.mem_of_find?_eq_some hf
  | none =>
    obtain ⟨first, rest, rfl⟩ := List.exists_cons_of_ne_nil h
    exact List.mem_cons_self

/-- A write to aliases leaves other variables as they are. -/
theorem get_writeAlias {field key : String} {aliases : List String} (haliases : aliases ≠ [])
    (hk : key ∉ aliases) : (writeAlias effective vars field aliases).get key = vars.get key := by
  unfold writeAlias
  split
  · rfl
  · rfl
  refine Entries.get_set_of_ne (fun htarget => hk ?_) _ _
  rw [htarget]
  exact aliasTarget_mem haliases

theorem get_writeTags {key : String} (hk : key ≠ "tags")
    (h : writeTags effective vars = .ok wr) : wr.get key = vars.get key := by
  unfold writeTags at h
  split at h
  · obtain ⟨tags, -, h⟩ := bind_eq_ok.1 h
    cases h
    exact Entries.get_set_of_ne hk _ _
  · cases h
    rfl

/-- Groups of aliases without the variable. -/
theorem get_writeGroups {key : String} {groups : List (String × List String)}
    (hgroups : ∀ group ∈ groups, group.2 ≠ [] ∧ key ∉ group.2) :
    (writeGroups effective groups vars).get key = vars.get key := by
  induction groups generalizing vars with
  | nil => rfl
  | cons group groups ih =>
    obtain ⟨haliases, hk⟩ := hgroups group List.mem_cons_self
    exact (ih fun other ho => hgroups other (List.mem_cons_of_mem _ ho)).trans (get_writeAlias haliases hk)

/-- The value that a policy has chosen goes to the variable that quota reads, or the variable has
it. -/
def Receives (vars : Entries) (n : ℤ) : Size → Prop
  | .cpu => (vars.get Size.cpu.key).isSome
  | .memory => True
  | .disk => vars.get Size.disk.key = some (.int n)

section

variable {size : Size}
  (halias : ∀ key ∈ size.aliases, key ≠ size.key → vars.get key = none)
  (hforced : effective.get size.field = some (.int n))
include halias hforced

/-- The group of a size, for variables of a template. -/
theorem get_writeAlias_key :
    (writeAlias effective vars size.field size.aliases).get size.key = some (.int n)
      ↔ Receives vars n size := by
  rw [writeAlias, hforced]
  dsimp only
  cases size with
  | cpu =>
    have hcores : vars.get "cores" = none := halias _ (by decide) (by decide)
    cases hcpu : vars.get "cpu" with
    | some val =>
      have htarget : aliasTarget vars Size.cpu.aliases = Size.cpu.key := by
        simp [aliasTarget, Size.aliases, Size.key, hcores, hcpu]
      rw [htarget]
      exact iff_of_true (Entries.get_set_self ..) (by rw [Receives, Size.key, hcpu]; rfl)
    | none =>
      have hothers : vars.get "vcpu" = none ∧ vars.get "cpu_cores" = none :=
        ⟨halias _ (by decide) (by decide), halias _ (by decide) (by decide)⟩
      have htarget : aliasTarget vars Size.cpu.aliases = "cores" := by
        simp [aliasTarget, Size.aliases, hcores, hcpu, hothers.1, hothers.2]
      rw [htarget, Entries.get_set_of_ne (by decide)]
      simp [Receives, Size.key, hcpu]
  | memory =>
    have hothers : vars.get "memory_mb" = none ∧ vars.get "ram_mb" = none :=
      ⟨halias _ (by decide) (by decide), halias _ (by decide) (by decide)⟩
    have htarget : aliasTarget vars Size.memory.aliases = Size.memory.key := by
      cases hmem : vars.get "memory" <;>
        simp [aliasTarget, Size.aliases, Size.key, hmem, hothers.1, hothers.2]
    rw [htarget]
    exact iff_of_true (Entries.get_set_self ..) trivial
  | disk =>
    rw [Entries.get_set_of_ne]
    · exact Iff.rfl
    · intro htarget
      have hmem : aliasTarget vars Size.disk.aliases ∈ Size.disk.aliases :=
        aliasTarget_mem (by decide)
      rw [← htarget] at hmem
      exact absurd hmem (by decide)

end

/-- When a value that a policy has chosen is in the variable that quota reads. -/
theorem get_writtenVariables {size : Size}
    (halias : ∀ size : Size, ∀ key ∈ size.aliases, key ≠ size.key → vars.get key = none)
    (hforced : effective.get size.field = some (.int n))
    (h : writtenVariables effective vars = .ok wr) :
    wr.get size.key = some (.int n) ↔ Receives vars n size := by
  obtain ⟨tagged, htagged, h⟩ := bind_eq_ok.1 h
  cases h
  rw [get_writeGroups (by cases size <;> decide), get_writeTags (by cases size <;> decide) htagged]
  -- the group of another size leaves the variable and its aliases
  have hcpu {key : String} (hk : key ∉ Size.cpu.aliases) :
      (writeAlias effective vars Size.cpu.field Size.cpu.aliases).get key = vars.get key :=
    get_writeAlias (by decide) hk
  cases size with
  | cpu =>
    show (writeGroups effective ([Size.memory, .disk].map fun size => (size.field, size.aliases))
      (writeAlias effective vars Size.cpu.field Size.cpu.aliases)).get _ = _ ↔ _
    rw [get_writeGroups (by decide)]
    exact get_writeAlias_key (halias .cpu) hforced
  | memory =>
    show (writeGroups effective ([Size.disk].map fun size => (size.field, size.aliases))
      (writeAlias effective (writeAlias effective vars Size.cpu.field Size.cpu.aliases)
        Size.memory.field Size.memory.aliases)).get _ = _ ↔ _
    rw [get_writeGroups (by decide), get_writeAlias_key (fun key hk hne => ?_) hforced]
    · exact Iff.rfl
    · rw [hcpu (by revert key; decide)]
      exact halias .memory key hk hne
  | disk =>
    show (writeAlias effective (writeAlias effective (writeAlias effective vars Size.cpu.field
      Size.cpu.aliases) Size.memory.field Size.memory.aliases) Size.disk.field
        Size.disk.aliases).get _ = _ ↔ _
    have hboth {key : String} (hk : key ∉ Size.cpu.aliases) (hk' : key ∉ Size.memory.aliases) :
        (writeAlias effective (writeAlias effective vars Size.cpu.field Size.cpu.aliases)
          Size.memory.field Size.memory.aliases).get key = vars.get key :=
      (get_writeAlias (by decide) hk').trans (hcpu hk)
    rw [get_writeAlias_key (fun key hk hne => ?_) hforced, Receives, Receives,
      hboth (by decide) (by decide)]
    rw [hboth (by revert key; decide) (by revert key; decide)]
    exact halias .disk key hk hne

/-- The variables of the request after the write. -/
theorem renderedVariables_writeAliases {credentials : Value → Option Value} {rendered' : Entries}
    (h : writeAliases credentials effective rendered = .ok rendered') :
    writtenVariables effective (renderedVariables rendered)
      = .ok (renderedVariables rendered') := by
  obtain ⟨wr, hwritten, h⟩ := bind_eq_ok.1 h
  cases h
  rw [hwritten]
  refine congrArg Except.ok ?_
  have ho {es : Entries} {key : String} {val : Value} (hk : "variables" ≠ key) :
      renderedVariables (es.set key val) = renderedVariables es := by
    rw [renderedVariables, renderedVariables, Entries.inner, Entries.inner,
      Entries.get_set_of_ne hk]
  have hset : renderedVariables (rendered.set "variables" (.dict wr)) = wr := by
    rw [renderedVariables, Entries.inner, Entries.get_set_self]
  have hp : renderedVariables (match effective.get "provider_id" with
      | none | some .null => rendered.set "variables" (.dict wr)
      | some provider =>
        match credentials provider with
        | some credential => ((rendered.set "variables" (.dict wr)).set "provider_id"
            provider).set "credentials_id" credential
        | none => (rendered.set "variables" (.dict wr)).set "provider_id" provider)
      = wr := by
    split
    · exact hset
    · exact hset
    split
    · rw [ho (by decide), ho (by decide), hset]
    · rw [ho (by decide), hset]
  split
  · split
    · rw [ho (by decide)]
      exact hp.symm
    · exact hp.symm
  · exact hp.symm

end Written

/-! ### What policies see is what is charged -/

/-- **Policies see what quota charges** for a size exactly if they read the number that the schema
reads, or the template has no such disk; the worker, which reads stored variables, also where the
default was taken.  A value that a policy has chosen is charged exactly if it goes to the variable
that quota reads. -/
theorem policy_sees_charged_capacity (rt : Runtime) (schemas : Schemas) (template : Template)
    (vars dumped : Entries)
    (hvalid : validateTemplateVariables schemas template vars = some dumped) (size : Size) :
    (∀ origin labels rendered, renderedVariables rendered = vars →
        (∀ context, vmCreateContext rt origin labels rendered = .ok context →
          (Presents rt context size (charged template dumped size)
            ↔ Named rt schemas template vars size))
        ∧ ∀ blueprint context,
          blueprintVmContext rt origin labels blueprint rendered = .ok context →
          (Presents rt context size (charged template dumped size)
            ↔ Named rt schemas template vars size))
      ∧ (∀ origin labels (deployment : DeploymentFacts), deployment.vars = dumped →
        (∀ operation context, workerContext rt origin labels operation deployment = .ok context →
          (Presents rt context size (charged template dumped size)
            ↔ (size = .disk → template.size .disk = none)))
        ∧ ∀ blueprint context,
          workerBlueprintContext rt origin labels blueprint deployment = .ok context →
          (Presents rt context size (charged template dumped size)
            ↔ (size = .disk → template.size .disk = none)))
      ∧ ∀ credentials effective rendered rendered' n,
        renderedVariables rendered = vars → effective.get size.field = some (.int n) →
        writeAliases credentials effective rendered = .ok rendered' →
        ((renderedVariables rendered').get size.key = some (.int n)
            ∧ (∀ template' dumped', validateTemplateVariables schemas template'
                (renderedVariables rendered') = some dumped' →
              charged template' dumped' size = n)
          ↔ Receives vars n size) := by
  refine ⟨fun origin labels rendered hrendered => ⟨fun context h => ?_, fun blueprint context h => ?_⟩,
    fun origin labels deployment hstored =>
      ⟨fun operation context h => ?_, fun blueprint context h => ?_⟩,
    fun credentials effective rendered rendered' n hrendered hforced h => ?_⟩
  -- each of the contexts shows the fields that are read from the variables
  · obtain ⟨fields, hf, h⟩ := bind_eq_ok.1 h
    cases h
    rw [hrendered] at hf
    rw [Presents, fieldOf_path rfl rfl size (by cases size <;> rfl)]
    exact variableFields_presented hvalid hf
  · obtain ⟨fields, hf, h⟩ := bind_eq_ok.1 h
    cases h
    rw [hrendered] at hf
    rw [Presents, fieldOf_path rfl rfl size (by cases size <;> rfl)]
    exact variableFields_presented hvalid hf
  · obtain ⟨resource, hr, h⟩ := bind_eq_ok.1 h
    obtain ⟨fields, hf, hr⟩ := bind_eq_ok.1 hr
    cases hr
    cases h
    rw [hstored] at hf
    rw [Presents, fieldOf_path rfl rfl size (by cases size <;> rfl)]
    exact variableFields_stored hvalid hf
  · obtain ⟨fields, hf, h⟩ := bind_eq_ok.1 h
    cases h
    rw [hstored] at hf
    rw [Presents, fieldOf_path rfl rfl size (by cases size <;> rfl)]
    exact variableFields_stored hvalid hf
  · have hwritten := renderedVariables_writeAliases h
    rw [hrendered] at hwritten
    rw [← get_writtenVariables
      (fun size key hk hne => get_alias (validate_spec hvalid).1 size hk hne) hforced hwritten]
    exact ⟨And.left, fun hk => ⟨hk, fun template' dumped' hv' => charged_of_named hv' hk⟩⟩

/-- A schema library that takes integers only. -/
def Schemas.strict : Schemas where
  lax
    | .int n => some n
    | _ => none
  others _ vars := some vars
  lax_int _ := rfl
  others_size h _ := by cases h; rfl
  others_keys h hkeys := by cases h; exact hkeys

/-- An appliance with four processors. -/
def applianceVars : Entries :=
  [("name", .text "gw"), ("node", .text "pve1"), ("storage", .text "local-lvm"),
    ("import_file_ids", .list [.text "local:import/gw.qcow2"]), ("cpu", .int 4),
    ("memory", .int 8192)]

theorem policy_sees_charged_capacity_appliance :
    (∀ context, vmCreateContext .plain {} {} [("variables", .dict applianceVars)] = .ok context →
      Presents .plain context .cpu 4)
    ∧ ∀ rendered', writeAliases (fun _ => none) [("cpu", .int 2)]
        [("variables", .dict applianceVars)] = .ok rendered' →
      (renderedVariables rendered').get "cpu" = some (.int 2) := by
  have h := policy_sees_charged_capacity .plain .strict .proxmoxAppliance applianceVars
    applianceVars rfl .cpu
  refine ⟨fun context hcontext => ((h.1 {} {} _ rfl).1 context hcontext).2
    ⟨.int 4, 4, rfl, nofun, nofun, rfl, rfl⟩, fun rendered' hrendered' => ?_⟩
  exact ((h.2.2 _ _ _ rendered' 2 rfl rfl hrendered').2 rfl).1

/-- A machine with a disk of 500 gibibytes, and processors that are not named. -/
def storageVars : Entries :=
  [("name", .text "db"), ("node", .text "pve1"), ("template_id", .int 9000),
    ("storage", .text "local-lvm"), ("memory", .int 8192), ("disk", .int 500)]

/-- The disk is charged, and policies see none; a disk that a policy has chosen goes to a variable
that no template has.  Processors that are not named are charged with the default and not seen. -/
theorem disk_not_presented :
    ∃ dumped context,
      validateTemplateVariables .strict .proxmoxVm storageVars = some dumped
      ∧ vmCreateContext .plain {} {} [("variables", .dict storageVars)] = .ok context
      ∧ charged .proxmoxVm dumped .disk = 500
      ∧ fieldOf .plain context "resource.disk_gb" = some .null
      ∧ charged .proxmoxVm dumped .cpu = 2
      ∧ fieldOf .plain context "resource.cpu" = some .null
      ∧ ∃ rendered', writeAliases (fun _ => none) [("disk_gb", .int 20)]
          [("variables", .dict storageVars)] = .ok rendered'
        ∧ (renderedVariables rendered').get "disk" = some (.int 500)
        ∧ (renderedVariables rendered').get "disk_size_gb" = some (.int 20)
        ∧ validateTemplateVariables .strict .proxmoxVm (renderedVariables rendered') = none :=
  ⟨_, _, rfl, rfl, rfl, rfl, rfl, rfl, _, rfl, rfl, rfl, rfl⟩

end CloudPortal.Engine
