/-
CloudPortal/Jobs/CloneCheckpoint.lean

The checkpoint of a direct Proxmox clone in the payload of its job, key by key.

`_persist` keeps the clone under `_proxmox_provision_runtime`; `validate_authorization` and
`retry_job` look for it under `_proxmox_runtime`, a key that nothing writes.  What they do
recognise is `provider_applied` in `_workflow_runtime`, which the workflow records with the
first `persist_workflow_runtime` after `clone` has returned, and nothing else
(`clone_checkpoint_recognised`).
-/
import CloudPortal.Jobs.Model
import CloudPortal.Lib.Document

namespace CloudPortal.Checkpoint

open Document Transition

/-! ### The readers -/

/-- `entries.get(key) is True`. -/
def isTrue (entries : Entries) (key : String) : Bool :=
  match entries.get key with
  | some (.flag value) => value
  | _ => false

/-- `bool(entries.get(key))`. -/
def holds (entries : Entries) (key : String) : Bool := (entries.get key).any Value.truthy

/-- `list(entries.get(key) or [])`. -/
def listed (entries : Entries) (key : String) : List Value :=
  ((entries.get key).map Value.sequence).getD []

def providerApplied (payload : Entries) : Bool :=
  isTrue (payload.inner "_workflow_runtime") "provider_applied"

/-- `provider_checkpointed`, as both functions compute it. -/
def providerCheckpointed (operation : Operation) (payload : Entries) : Bool :=
  let proxmoxRuntime := payload.inner "_proxmox_runtime"
  providerApplied payload || (operation = .proxmoxProvision
    && (isTrue proxmoxRuntime "clone_completed" || holds proxmoxRuntime "clone_upid"
      || holds proxmoxRuntime "target_vm_id"))

/-- The end of `validate_authorization`, for a result of the policies that asks for `approvals`;
`signature` is `policy_approval_signature`. -/
def validateApprovals {σ : Type} [DecidableEq σ] (signature : List Value → σ)
    (operation : Operation) (payload : Entries) (approvals : List Value) : Except String Unit :=
  let original := listed (payload.inner "_policy") "approvals"
    ++ listed (payload.inner "blueprint") "policy_approvals"
  let policyApproval := payload.inner "_policy_approval"
  let approved := ((payload.inner "_approval").get "status").any (·.eq (.text "approved"))
    && (policyApproval.isEmpty || holds policyApproval "complete")
  if !providerCheckpointed operation payload
      && (!approved || signature approvals ≠ signature original) then
    .error "Current Policy Engine approval definition requires a new approval"
  else .ok ()

/-- `payload.pop(key, None)` for each of the keys. -/
def pop (keys : List String) (payload : Entries) : Entries :=
  payload.filter fun entry => entry.1 ∉ keys

/-- The payload that `retry_job` gives to the new job. -/
def retryPayload (operation : Operation) (payload : Entries) : Entries :=
  let kept := pop ["_approval", "_workflow_approval", "_current_stage", "_provider_wait",
    "_quota_checked", "_quota_reservation_id", "_state_recovery", "_auto_resume"] payload
  if (operation = .terraformApply || operation = .proxmoxProvision)
      && providerCheckpointed operation payload then
    pop ["_recreate"] (kept.set "_resume_after_provider_apply" (.flag true))
  else
    pop (["_resume_after_provider_apply", "_workflow_runtime"]
      ++ if operation = .proxmoxProvision then ["_proxmox_runtime"] else []) kept

theorem get_pop {keys : List String} {key : String} (h : key ∉ keys) (p : Entries) :
    (pop keys p).get key = p.get key := by
  induction p with
  | nil => rfl
  | cons ent p ih =>
    obtain ⟨k, v⟩ := ent
    simp only [pop, Entries.get] at ih ⊢
    by_cases hk : key = k
    · simp [← hk, h]
    rw [List.lookup_cons, beq_false_of_ne hk, List.filter_cons]
    split
    · rw [List.lookup_cons, beq_false_of_ne hk]
      exact ih
    · exact ih

theorem get_pop_self {keys : List String} {key : String} (h : key ∈ keys) (p : Entries) :
    (pop keys p).get key = none := by
  rw [Entries.get, List.lookup_eq_none_iff]
  rintro ⟨k, v⟩ hentry
  have hk := of_decide_eq_true (List.mem_filter.1 hentry).2
  exact bne_iff_ne.2 fun he : key = k => hk (he ▸ h)

/-! ### The writers -/

/-- `RUNTIME_KEY` of the direct executor. -/
def runtimeKey : String := "_proxmox_provision_runtime"

/-- `dict.update`. -/
def update (entries changes : Entries) : Entries :=
  changes.foldl (fun entries (key, value) => entries.set key value) entries

/-- A worker in `run_proxmox_blueprint_workflow`: `runtime['applied']` and the stored payload. -/
structure Execution where
  applied : Bool
  payload : Entries

/-- The workflow begins, or begins again, with what is recorded. -/
def begin (payload : Entries) : Execution where
  applied := holds (payload.inner "_workflow_runtime") "provider_applied"
  payload := payload

inductive Write
  /-- `_persist(context, **changes)` -/
  | persist (changes : Entries)
  /-- `clone` has returned -/
  | cloned
  /-- `persist_workflow_runtime`; `saved` are its keys but `provider_applied` -/
  | persistWorkflowRuntime (saved : Entries)
  /-- another key of the payload is written, by whomever; nobody writes `_proxmox_runtime` -/
  | other (key : String) (value : Value)
  /-- the job is executed again -/
  | again

def Execution.step (e : Execution) : Write → Execution
  | .persist changes =>
    let runtime := update (e.payload.inner runtimeKey) changes
    { e with payload := e.payload.set runtimeKey (.dict runtime) }
  | .cloned => { e with applied := true }
  | .persistWorkflowRuntime saved =>
    let runtime := (update (e.payload.inner "_workflow_runtime") saved).set "provider_applied"
      (.flag e.applied)
    { e with payload := e.payload.set "_workflow_runtime" (.dict runtime) }
  | .other key value =>
    if key ∈ ["_workflow_runtime", runtimeKey, "_proxmox_runtime"] then e
    else { e with payload := e.payload.set key value }
  | .again => begin e.payload

/-! ### What is recorded stays recognised -/

theorem inner_set_of_ne {key key' : String} (h : key' ≠ key) (p : Entries) (val : Value) :
    (p.set key val).inner key' = p.inner key' := by
  rw [Entries.inner, Entries.get_set_of_ne h, Entries.inner]

theorem holds_of_isTrue {es : Entries} {key : String} (h : isTrue es key = true) :
    holds es key = true := by
  unfold isTrue at h
  unfold holds
  split at h
  · next hg =>
    rw [hg, h]
    rfl
  · cases h

/-- The worker knows what is recorded. -/
def Execution.Knows (e : Execution) : Prop := providerApplied e.payload = true → e.applied = true

theorem begin_knows (p : Entries) : (begin p).Knows := holds_of_isTrue

/-- A step keeps the worker informed, and a record that is there. -/
theorem step_knows {e : Execution} (h : e.Knows) (w : Write) :
    (e.step w).Knows
      ∧ (providerApplied e.payload = true → providerApplied (e.step w).payload = true) := by
  have ho {key : String} (hk : "_workflow_runtime" ≠ key) (val : Value) :
      providerApplied (e.payload.set key val) = providerApplied e.payload := by
    rw [providerApplied, inner_set_of_ne hk, providerApplied]
  cases w with
  | persist changes =>
    rw [Execution.step, Execution.Knows, ho (by decide)]
    exact ⟨h, id⟩
  | cloned => exact ⟨fun _ => rfl, id⟩
  | persistWorkflowRuntime saved =>
    have hn : providerApplied (e.step (.persistWorkflowRuntime saved)).payload = e.applied := by
      simp only [Execution.step, providerApplied, Entries.inner, Entries.get_set_self, isTrue]
    rw [Execution.Knows, hn]
    exact ⟨id, h⟩
  | other key val =>
    rw [Execution.step]
    split
    · exact ⟨h, id⟩
    next hk =>
    rw [Execution.Knows, ho fun he => hk (by simp [← he])]
    exact ⟨h, id⟩
  | again => exact ⟨begin_knows e.payload, id⟩

theorem run_knows {e : Execution} (h : e.Knows) (writes : List Write) :
    (run Execution.step e writes).Knows ∧ (providerApplied e.payload = true →
      providerApplied (run Execution.step e writes).payload = true) := by
  induction writes generalizing e with
  | nil => exact ⟨h, id⟩
  | cons w writes ih =>
    have hs := step_knows h w
    exact ⟨(ih hs.1).1, fun hrecent => (ih hs.1).2 (hs.2 hrecent)⟩

/-- A payload without `_proxmox_runtime` never gets one. -/
theorem step_proxmoxRuntime {e : Execution} (h : e.payload.get "_proxmox_runtime" = none)
    (w : Write) : (e.step w).payload.get "_proxmox_runtime" = none := by
  cases w with
  | persist | persistWorkflowRuntime => exact (Entries.get_set_of_ne (by decide) ..).trans h
  | cloned | again => exact h
  | other key val =>
    rw [Execution.step]
    split
    · exact h
    next hk => exact (Entries.get_set_of_ne (fun he => hk (by simp [← he])) ..).trans h

/-- A changed approval definition does not stop the job, and its retry goes on behind the clone with
the steps that are completed. -/
def Recognised (payload : Entries) : Prop :=
  (∀ {σ : Type} [DecidableEq σ] (signature : List Value → σ) (approvals : List Value),
      validateApprovals signature .proxmoxProvision payload approvals = .ok ())
    ∧ (retryPayload .proxmoxProvision payload).get "_resume_after_provider_apply"
      = some (.flag true)
    ∧ (retryPayload .proxmoxProvision payload).get "_workflow_runtime"
      = payload.get "_workflow_runtime"

theorem recognised_iff (p : Entries) :
    Recognised p ↔ providerCheckpointed .proxmoxProvision p = true := by
  constructor
  · rintro ⟨-, hresumes, -⟩
    by_contra hc
    rw [Bool.not_eq_true] at hc
    -- the flag is dropped
    unfold retryPayload at hresumes
    rw [hc] at hresumes
    cases hresumes.symm.trans (get_pop_self (by decide) _)
  intro hc
  refine ⟨fun signature approvals => ?_, ?_, ?_⟩
  · rw [validateApprovals, hc]
    rfl
  all_goals
    unfold retryPayload
    rw [hc]
  · exact (get_pop (by decide) _).trans (Entries.get_set_self ..)
  · exact (get_pop (by decide) _).trans ((Entries.get_set_of_ne (by decide) ..).trans
      (get_pop (by decide) _))

/-- At every moment, the checkpoint of a job is recognised if and only if the workflow has recorded
`provider_applied`; and once it has, the record stays. -/
theorem clone_checkpoint_recognised {payload : Entries}
    (hnew : payload.get "_proxmox_runtime" = none) (before after : List Write) :
    let then_ := (run Execution.step (begin payload) before).payload
    let now := (run Execution.step (begin payload) (before ++ after)).payload
    (Recognised now ↔ providerApplied now = true)
      ∧ (providerApplied then_ = true → providerApplied now = true) := by
  have hkey : (run Execution.step (begin payload) (before ++ after)).payload.get "_proxmox_runtime"
      = none :=
    @run_invariant _ _ Execution.step (fun e => e.payload.get "_proxmox_runtime" = none)
      (fun _ w h => step_proxmoxRuntime h w) _ hnew (before ++ after)
  refine ⟨?_, fun hrecent => ?_⟩
  · rw [recognised_iff, providerCheckpointed, Entries.inner, hkey]
    simp [isTrue, holds, Entries.get]
  · rw [run_append]
    exact (run_knows (run_knows (begin_knows payload) before).1 after).2 hrecent

/-- A clone, up to the end of its step. -/
def cloneWrites : List Write :=
  [.persist [("clone_requested", .flag true), ("clone_upid", .text "UPID"),
      ("target_vm_id", .int 100)],
    .persist [("clone_completed", .flag true)], .cloned,
    .persistWorkflowRuntime [("completed_steps", .list [.text "clone"])]]

theorem clone_checkpoint_recognised_started :
    Recognised (run Execution.step (begin []) (cloneWrites
      ++ [.persist [("configured", .flag true)]])).payload :=
  have h := @clone_checkpoint_recognised [] rfl cloneWrites [.persist [("configured", .flag true)]]
  h.1.2 (h.2 rfl)

/-- The step before the clone is completed; the clone is submitted, and its task and target are
recorded.  The job is then stopped by a changed approval definition, and a retry drops the
completed step. -/
theorem clone_checkpoint_missed :
    let now := (run Execution.step (begin [])
      (.persistWorkflowRuntime [("completed_steps", .list [.text "delay"])]
        :: cloneWrites.take 2)).payload
    holds (now.inner runtimeKey) "clone_upid" = true
      ∧ holds (now.inner runtimeKey) "target_vm_id" = true
      ∧ isTrue (now.inner runtimeKey) "clone_completed" = true
      ∧ validateApprovals List.length .proxmoxProvision now [.text "manager"]
        = .error "Current Policy Engine approval definition requires a new approval"
      ∧ (retryPayload .proxmoxProvision now).get "_resume_after_provider_apply" = none
      ∧ (retryPayload .proxmoxProvision now).get "_workflow_runtime" = none :=
  ⟨rfl, rfl, rfl, rfl, rfl, rfl⟩

end CloudPortal.Checkpoint
