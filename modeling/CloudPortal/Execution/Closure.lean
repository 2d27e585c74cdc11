/-
CloudPortal/Execution/Closure.lean

The structure of the worker's code, gone through once.  A property of programs that the
constructs of the language preserve (`Prog.Closed`) holds of a function if it holds of its
commands; so a later proof only has to look at the commands and at the blocks in which
several of them belong together: `execute` and `destroy` for the whole worker
(`closed_executeUnfenced`), the body of a step for the loop over the steps
(`closed_runStep`).

`Cmd.quiet` are the commands that only read; a property that these have is a property of
everything that waits, polls and checks.
-/
import CloudPortal.Execution.System

namespace CloudPortal.Execution

open Interaction

/-- The commands that may stand anywhere.  Terraform processes and the storing of the state occur
in `execute` only, stops and deletions in `destroy`. -/
def Cmd.ordinary : Cmd → Bool
  | .persistState | .popen _ | .wait | .stopVm .. | .deleteVm .. => false
  | _ => true

/-- The commands that are quiet, as a test. -/
def Cmd.reads (c : Cmd) : Bool := c.parts.isEmpty && c.eventKinds.isEmpty

theorem Cmd.quiet_of_reads {c : Cmd} (h : c.reads = true) : c.quiet := by
  obtain ⟨hparts, hkinds⟩ := Bool.and_eq_true_iff.1 h
  exact ⟨List.isEmpty_iff.1 hparts, List.isEmpty_iff.1 hkinds⟩

theorem Cmd.ordinary_of_reads {c : Cmd} (h : c.reads = true) : c.ordinary = true := by
  cases c <;> first | rfl | cases h

/-- A property of code that the language preserves and that the commands of a kind have. -/
structure ClosedOn (kind : Cmd → Bool) (K : ∀ {α : Type}, Code α → Prop) : Prop
    extends Prog.Closed K where
  command : ∀ c, kind c = true → K (call c)

section Closed

variable {K : ∀ {α : Type}, Code α → Prop}

section Language

variable {kind : Cmd → Bool} (hK : ClosedOn kind K) {c : Cmd} {β α : Type} {cond : Prop}
include hK

theorem ClosedOn.call (hc : kind c = true) : K (Execution.call c) := hK.command c hc

theorem ClosedOn.mono {fewer : Cmd → Bool} (h : ∀ c, fewer c = true → kind c = true) :
    ClosedOn fewer K :=
  ⟨hK.toClosed, fun c hc => hK.command c (h c hc)⟩

/-- A command, and what follows it. -/
theorem ClosedOn.run {f : c.Ans → Code β} (hc : kind c = true)
    (hf : ∀ a, K (f a)) : K (Execution.call c >>= f) :=
  hK.bind (hK.command c hc) hf

/-- The same, of a command whose answer is not read. -/
theorem ClosedOn.seq {code : Code β} (hc : kind c = true) (h : K code) :
    K (Execution.call c >>= fun _ => code) :=
  hK.run hc fun _ => h

theorem closed_onlyIf [Decidable cond] {code : Code Unit} (h : K code) :
    K (onlyIf cond code) := by
  unfold onlyIf
  split
  · exact h
  · exact hK.pure ()

theorem closed_failIf [Decidable cond] {msg : String} :
    K (failIf cond msg) :=
  closed_onlyIf hK (hK.throw _)

theorem closed_asFailure {code : Code α} (h : K code) : K (asFailure code) := by
  refine hK.tryCatch h fun e => ?_
  split <;> exact hK.throw _

theorem closed_refusalFails {failure : String} {code : Code α} (h : K code) :
    K (refusalFails failure code) := by
  refine hK.tryCatch h fun e => ?_
  split <;> exact hK.throw _

end Language

/-! ### Waiting and checking -/

section Quiet

variable (hK : ClosedOn Cmd.reads K)
include hK

theorem closed_checkUntil (polls : ℕ) : K (checkUntil polls) := by
  induction polls with
  | zero => exact hK.pure _
  | succ polls ih => exact hK.seq rfl <| ih

theorem closed_delay : K delay :=
  hK.run rfl fun polls => closed_checkUntil hK polls

theorem closed_identity : K identity := by
  refine hK.run rfl fun vars => hK.bind (closed_failIf hK) fun _ => ?_
  split
  · exact hK.throw _
  · exact hK.pure _

theorem closed_pollTask (label : String) (upid polls : ℕ) : K (pollTask label upid polls) := by
  induction polls with
  | zero => exact hK.throw _
  | succ polls ih =>
    refine hK.seq rfl <| hK.run rfl fun exit => ?_
    split
    · exact hK.call rfl
    · exact hK.throw _
    · exact hK.seq rfl <| ih

theorem closed_waitTask (label : String) (upid : ℕ) : K (waitTask label upid) := by
  refine hK.run rfl fun polls => ?_
  refine hK.tryCatch (closed_pollTask hK label upid polls) fun e => ?_
  have hstop : K (tryCatch (call (.stopTask upid)) fun _ => pure () : Code Unit) :=
    hK.tryCatch (hK.call rfl) fun _ => hK.pure _
  exact hK.bind (closed_onlyIf hK hstop) fun _ => hK.throw e

theorem closed_waitAny (label : String) (task : Option ℕ) : K (waitAny label task) := by
  cases task with
  | none => exact hK.pure _
  | some upid => exact closed_waitTask hK label upid

theorem closed_workspaceFor (type : StepType) : K (workspaceFor type) := by
  refine hK.run rfl fun m => ?_
  split
  · exact hK.call rfl
  · exact hK.throw _

theorem closed_executeRollback {undo : Code Unit} (hundo : K undo) (steps : List WorkflowStep)
    (tgt failed : String) : K (executeRollback undo steps tgt failed) := by
  have hs : ∀ act, K (stage act) := fun _ => hK.call rfl
  unfold executeRollback
  split
  · exact hK.throw _
  refine hK.bind (hs _) fun _ => ?_
  split
  · exact hK.bind hundo fun _ => hs _
  · exact hK.seq rfl <| hs _
  · exact hK.bind (closed_delay hK) fun _ => hs _
  · exact hK.bind (hK.throw _) fun _ => hs _

/-! ### Deletion -/

section Deletion

variable {node : String} {vmId : ℕ} (hst : K (call (.vmStatus node vmId)))
  (hsub : K submitted) (hstop : K (call (.stopVm node vmId)))
  (hdelete : K (call (.deleteVm node vmId)))
include hst hsub hstop hdelete

omit hsub hstop hdelete in
theorem closed_destroyStatus (force : Bool) : K (destroyStatus force node vmId) := by
  refine hK.tryCatch hst fun _ => ?_
  split
  · exact hK.seq rfl <| hK.pure _
  · exact hK.throw _

omit hst hsub hdelete in
theorem closed_forceStop (force : Bool) : K (forceStop force node vmId) := by
  refine hK.seq rfl <| hK.seq rfl <|
    hK.tryCatch (hK.bind hstop fun task => closed_waitAny hK _ task) fun e => ?_
  split
  · exact hK.throw _
  · exact hK.throw _
  split
  · exact hK.call rfl
  · exact hK.throw _

omit hst hstop in
theorem closed_requestDeletion : K (requestDeletion node vmId) := by
  refine hK.seq rfl <| hK.seq rfl <|
    hK.bind (hK.tryCatch (hK.map _ hdelete) fun e => ?_) fun task => ?_
  · split
    · exact hK.pure _
    · exact hK.throw _
    · exact hK.throw _
  · split
    · exact hK.pure _
    exact hK.bind hsub fun _ => hK.bind (closed_waitAny hK _ _) fun _ => hK.call rfl

/-- The deletion of a given machine. -/
theorem closed_destroyAt : K (destroyAt node vmId) := by
  refine hK.run rfl fun p => hK.seq rfl <|
    hK.bind (closed_destroyStatus hK hst _) fun st => ?_
  split
  · exact hK.call rfl
  exact hK.bind (closed_onlyIf hK (closed_forceStop hK hstop _)) fun _ =>
    hK.bind (closed_onlyIf hK (hK.call rfl)) fun _ => closed_requestDeletion hK hsub hdelete

end Deletion

/-! ### Terraform -/

section Processes

variable (hpopen : ∀ command, K (call (.popen command))) (hwait : K (call .wait))
include hpopen hwait

theorem closed_runProcess (command : TerraformCommand) : K (runProcess command) :=
  hK.seq rfl <| hK.bind (hpopen command) fun _ => hwait

end Processes

theorem closed_runTerraform (hr : ∀ command, K (runProcess command)) (hsub : K submitted)
    (op : Operation) (applySaved : Bool) : K (runTerraform op applySaved) := by
  have hs : ∀ act, K (stage act) := fun _ => hK.call rfl
  have happly : K (runApply op) :=
    hK.bind (hs _) fun _ => hK.bind hsub fun _ => hK.bind (hr _) fun _ => hK.call rfl
  unfold runTerraform
  split
  · exact hK.bind (hs _) fun _ => hK.bind (hr _) fun _ => hK.bind (hs _) fun _ => hr _
  refine hK.bind ?_ fun saved => hK.bind ?_ fun _ => closed_onlyIf hK happly
  · unfold savedPlan
    split
    · exact hK.call rfl
    · exact hK.pure _
  · unfold runPlan
    split
    · exact hs _
    · exact hK.bind (hs _) fun _ => hr _

/-! ### Configuration and start -/

section Noted

variable (hnot : K (persistProvision .noted))
include hnot

omit hnot in
theorem closed_requestConfiguration {what : Configuration} {node : String} {vmId : ℕ}
    (hc : K (call (.configureVm what node vmId))) (label : String) :
    K (requestConfiguration what label node vmId) :=
  hK.bind hc fun task => closed_waitAny hK label task

theorem closed_configure
    (hc : ∀ what node vmId, K (call (.configureVm what node vmId))) : K configure := by
  have hq : ∀ what label node vmId, K (requestConfiguration what label node vmId) :=
    fun _ _ _ _ => closed_requestConfiguration hK (hc _ _ _) _
  refine hK.bind (closed_identity hK) fun (node, vmId) =>
    hK.seq rfl <| hK.seq rfl <|
      hK.bind (hK.tryCatch (hK.call rfl) fun _ => hK.throw _) fun disk =>
        hK.bind (closed_refusalFails hK (hq _ _ _ _)) fun _ => hK.bind ?_ fun _ => hnot
  cases disk with
  | nothing => exact hK.pure _
  | grow => exact hq _ _ _ _
  | refused => exact hK.throw _

theorem closed_configureCloudInit (hc : ∀ what node vmId, K (call (.configureVm what node vmId))) :
    K configureCloudInit :=
  hK.bind (closed_identity hK) fun _ => hK.seq rfl <|
    hK.seq rfl <|
      hK.bind (closed_refusalFails hK (closed_requestConfiguration hK (hc _ _ _) _)) fun _ =>
        hK.seq rfl <| hnot

theorem closed_start (hst : ∀ node vmId, K (call (.vmStatus node vmId)))
    (hstart : ∀ node vmId, K (call (.startVm node vmId))) : K start := by
  have hpoll : ∀ node vmId polls, K (pollRunning node vmId polls) := by
    intro node vmId polls
    induction polls with
    | zero => exact hK.throw _
    | succ polls ih =>
      refine hK.seq rfl <| hK.bind (hst node vmId) fun st => ?_
      split
      · exact hK.seq rfl <| hnot
      · exact ih
  refine hK.bind (closed_identity hK) fun (node, vmId) =>
    hK.seq rfl <| hK.seq rfl <|
      hK.bind (hst node vmId) fun st => ?_
  split
  · exact hK.throw _
  · exact hK.seq rfl <| hnot
  · exact hK.bind (hstart node vmId) fun task => hK.bind (closed_waitAny hK _ task) fun _ =>
      hK.run rfl fun polls => hpoll node vmId polls

theorem closed_registerInventory (hregister : K (call .registerInventory)) : K registerInventory :=
  hK.bind (closed_identity hK) fun _ => hK.bind hregister fun _ => hK.bind hnot fun _ => hK.call rfl

end Noted

/-! ### Ansible -/

/-- What Ansible runs write down leaves `applied` as it is. -/
theorem closed_executeConfiguredAnsible
    (hupdate : ∀ f : Memory → Memory, (∀ m, (f m).runtime.applied = m.runtime.applied) → K (update f))
    (hpersist : K persistWorkflowRuntime) (hansible : ∀ index, K (call (.ansible index)))
    (runs : ℕ) : K (executeConfiguredAnsible runs) := by
  have hr : ∀ index, K (ansibleRun index) := by
    intro index
    refine hK.run rfl fun m => ?_
    split
    · exact hK.call rfl
    exact hK.seq rfl <| hK.seq rfl <|
      hK.bind (hupdate _ fun _ => rfl) fun _ => hK.bind hpersist fun _ =>
        hK.bind (hansible index) fun _ => hK.bind (hupdate _ fun _ => rfl) fun _ => hK.seq rfl <| hpersist
  exact hK.bind (closed_failIf hK) fun _ => hK.run rfl fun m =>
    hK.bind (closed_failIf hK) fun _ => hK.bind (hK.forM fun index _ => hr index) fun _ =>
      hupdate _ fun _ => rfl

/-! ### The end of a job -/

theorem closed_worker (havailability : K (call .availability))
    (hfinish : ∀ out, K (call (.finish out))) {op : Operation} {p : Payload}
    (hperform : K (perform op p)) : K (executeUnfenced op p) := by
  have hwork : K (work op p) := by
    refine hK.tryCatch (hK.seq rfl <| hK.bind havailability fun available => ?_) fun e => ?_
    · split
      · exact hK.seq rfl <| hK.bind hperform fun _ => hK.seq rfl <| hK.pure _
      · exact hK.pure _
    · split <;> exact hK.pure _
  refine hK.bind hwork fun out => ?_
  split
  · exact hK.pure _
  · exact hfinish _

/-! ### The loop over the steps -/

section Loop

variable (hset : ∀ id state, K (setState id state)) (hpersist : K persistWorkflowRuntime)
  (hstart : ∀ id, K (call (.stepStart id))) {body : WorkflowStep → Code Unit}
  {rb : String → String → Code Unit} {step : WorkflowStep} (hbody : K (body step))
include hset hpersist hstart hbody

variable (hrollback : ∀ tgt failed, K (rb tgt failed))
include hrollback

omit hset hpersist hstart hbody in
theorem closed_giveUp (e : Raised) : K (giveUp rb step e) := by
  dsimp only [giveUp]
  split
  · exact hK.throw _
  · exact hK.bind (hK.tryCatch (hrollback _ _) fun _ => hK.throw _) fun _ => hK.throw _

theorem closed_attempts (retries : ℕ) : K (attempts body rb step retries) := by
  have hattempt : K (attemptStep body step) := hK.bind (hstart _) fun _ => hK.bind hbody fun _ =>
      hK.bind (hset _ _) fun _ => hK.seq rfl <| hpersist
  induction retries with
  | zero =>
    refine hK.tryCatch hattempt fun e => ?_
    split
    · exact hK.throw e
    · exact closed_giveUp hK hrollback e
  | succ retries ih =>
    refine hK.tryCatch hattempt fun e => ?_
    split
    · exact hK.throw e
    · exact hK.seq rfl <| ih

theorem closed_runStep (steps : List WorkflowStep) : K (runStep steps body rb step) := by
  have hlog : K log := hK.call rfl
  refine hK.run rfl fun m => ?_
  dsimp only
  split
  · exact hlog
  split
  · exact hK.bind (hset _ _) fun _ => hlog
  split
  · exact hK.bind (hset _ _) fun _ => hK.bind hlog fun _ => hpersist
  refine hK.run rfl fun run => ?_
  split
  · exact closed_attempts hK hset hpersist hstart hbody hrollback _
  · exact hK.bind (hset _ _) fun _ => hK.bind hlog fun _ => hpersist

end Loop

end Quiet

/-! ### The whole worker -/

section Ordinary

variable (hK : ClosedOn Cmd.ordinary K)
include hK

theorem ClosedOn.reads : ClosedOn Cmd.reads K := hK.mono fun _ => Cmd.ordinary_of_reads

/-! #### Terraform -/

section Processes

variable (hpopen : ∀ command, K (call (.popen command))) (hwait : K (call .wait))
include hpopen hwait

omit hpopen hwait in
theorem closed_keepState (hstore : K (call .persistState)) (op : Operation)
    (keepPlan : Bool) : K (keepState op keepPlan) := by
  have hstate : K storeState := hK.seq rfl <| hK.bind hstore fun _ => hK.pure _
  exact hK.bind (closed_onlyIf hK (hK.call rfl)) fun _ => hK.run rfl fun _ =>
    hK.bind (closed_onlyIf hK hstate) fun _ => hK.call rfl

theorem closed_execute (hstore : K (call .persistState)) (op : Operation)
    (keepPlan applySaved : Bool) : K (execute op keepPlan applySaved) := by
  exact hK.seq rfl <| hK.seq rfl <| hK.seq rfl <|
    hK.seq rfl <|
      hK.tryFinally (closed_runTerraform hK.reads (closed_runProcess hK.reads hpopen hwait)
          (hK.call rfl) op applySaved)
        (closed_keepState hK hstore op keepPlan)

end Processes

/-! #### Proxmox -/

theorem closed_pollTarget (node : String) (vmId polls : ℕ) : K (pollTarget node vmId polls) := by
  induction polls with
  | zero => exact hK.throw _
  | succ polls ih =>
    refine hK.seq rfl ?_
    refine hK.bind (hK.tryCatch (hK.call rfl) fun _ => hK.pure _) fun st => ?_
    split
    · exact hK.pure _
    · exact ih

theorem closed_awaitClone (node : String) (vmId upid : ℕ) : K (awaitClone node vmId upid) :=
  hK.bind (closed_waitTask hK.reads _ upid) fun _ =>
    hK.bind (hK.run rfl fun polls => closed_pollTarget hK node vmId polls)
      fun _ => hK.call rfl

theorem closed_clone : K clone := by
  have hvmid : K ensureVmid := by
    refine hK.run rfl fun vars => ?_
    split
    · exact hK.pure _
    · exact hK.run rfl fun _ => hK.seq rfl <| hK.pure _
  have hq : ∀ node vmId, K (requestClone node vmId) := fun node vmId =>
    hK.seq rfl <| hK.seq rfl <|
      hK.bind (closed_refusalFails hK (hK.call rfl)) fun upid => hK.seq rfl <|
        hK.seq rfl <| hK.seq rfl <|
          closed_awaitClone hK node vmId upid
  refine hK.run rfl fun vars => hK.bind hvmid fun vmId =>
    hK.bind (closed_failIf hK) fun _ => hK.bind (closed_failIf hK) fun _ =>
      hK.run rfl fun p => hK.run rfl fun target => ?_
  unfold cloneFrom
  split
  · exact hK.call rfl
  split
  · exact hK.seq rfl <| hK.seq rfl <|
      hK.seq rfl <| closed_awaitClone hK _ vmId _
  split
  · exact hK.throw _
  · exact hq _ _

theorem closed_destroy (hstop : ∀ node vmId, K (call (.stopVm node vmId)))
    (hdelete : ∀ node vmId, K (call (.deleteVm node vmId))) : K destroy := by
  refine hK.bind (closed_identity hK.reads) fun (node, vmId) => ?_
  exact closed_destroyAt hK.reads (hK.call rfl) (hK.call rfl) (hstop node vmId) (hdelete node vmId)

/-! #### Workflows -/

theorem closed_approvalStep (requiresApproval : Bool) (stepId : String) :
    K (approvalStep requiresApproval stepId) := by
  have hdigest : ∀ workspace, K (planDigest workspace) := by
    intro workspace
    refine hK.bind ?_ fun found => ?_
    · split
      · exact hK.call rfl
      · exact hK.pure _
    · split
      · exact hK.throw _
      · exact hK.pure _
  have hpause : K (pauseForApproval stepId) := by
    refine hK.run rfl fun m => hK.bind ?_ fun digest => hK.seq rfl <| hK.throw _
    split
    · exact hdigest _
    · exact hK.pure _
  refine hK.bind (closed_failIf hK) fun _ => hK.run rfl fun p => ?_
  split
  · exact hpause
  exact hK.bind (closed_failIf hK) fun _ => hK.run rfl fun m =>
    hK.bind (closed_failIf hK) fun _ => hK.call rfl

variable (hexecute : ∀ op keepPlan applySaved, K (execute op keepPlan applySaved))

section Terraform

include hexecute

theorem closed_applyAndSync : K applyAndSync := by
  have hcheck : ∀ workspace expected, K (checkPlan workspace expected) := fun _ _ =>
    hK.bind (closed_failIf hK) fun _ => hK.bind (closed_asFailure hK (hK.call rfl)) fun _ =>
      hK.bind (closed_failIf hK) fun _ => hK.run rfl fun _ => closed_failIf hK
  have hverify : K verifySavedPlan :=
    hK.run rfl fun m => closed_onlyIf hK (hcheck _ _)
  exact hK.seq rfl <| hK.bind hverify fun _ => hK.run rfl fun m =>
    hK.bind (hexecute _ _ _) fun _ => hK.seq rfl <| hK.seq rfl <|
      hK.seq rfl <| hK.seq rfl <| hK.seq rfl <|
        hK.seq rfl <| hK.seq rfl <| hK.seq rfl <|
          hK.seq rfl <| hK.seq rfl <|
            hK.seq rfl <| hK.call rfl

theorem closed_terraformBody (p : Payload) (step : WorkflowStep) :
    K (terraformBody p step) := by
  have hp : K planStep :=
    hK.bind (hexecute _ _ _) fun _ => hK.seq rfl <|
      hK.bind (closed_asFailure hK (hK.call rfl)) fun digest => hK.call rfl
  unfold terraformBody
  split
  · exact hK.run rfl fun m => hK.bind (closed_failIf hK) fun _ => hK.call rfl
  · exact hK.throw _
  · exact hK.throw _
  · exact hK.throw _
  · exact hp
  · refine hK.run rfl fun m => ?_
    split
    · exact hK.seq rfl <| hK.call rfl
    · exact closed_applyAndSync hK hexecute
  · exact hK.throw _
  all_goals try exact hK.bind (closed_workspaceFor hK.reads _) fun _ => hK.call rfl
  · exact hK.bind (closed_workspaceFor hK.reads _) fun _ =>
      closed_executeConfiguredAnsible hK.reads (fun _ _ => hK.call rfl) (hK.call rfl)
        (fun _ => hK.call rfl) _
  · exact hK.call rfl
  · exact hK.call rfl
  · exact closed_approvalStep hK _ _
  · exact closed_delay hK.reads

theorem closed_runBlueprintWorkflow : K runBlueprintWorkflow := by
  have hundo : K terraformUndo :=
    hK.seq rfl <| hK.bind (hexecute _ _ _) fun _ => hK.seq rfl <|
      hK.call rfl
  have hrestore : K restoreRecoveryWorkspace :=
    hK.bind (closed_asFailure hK (hK.call rfl)) fun _ => hK.bind (closed_failIf hK) fun _ =>
      hK.call rfl
  have hlate : K syncLate :=
    hK.seq rfl <| hK.seq rfl <| hK.seq rfl <|
      hK.call rfl
  refine hK.run rfl fun p => ?_
  split
  · exact hK.throw _
  next steps _ =>
  refine hK.bind (closed_onlyIf hK hrestore) fun _ => hK.seq rfl <|
    hK.bind (hK.forM fun step _ => ?_) fun _ => ?_
  · exact closed_runStep hK.reads (fun _ _ => hK.call rfl) (hK.call rfl) (fun _ => hK.call rfl)
      (closed_terraformBody hK hexecute p step)
      (closed_executeRollback hK.reads hundo steps) steps
  · exact hK.run rfl fun m => hK.bind (closed_failIf hK) fun _ =>
      hK.bind (closed_onlyIf hK hlate) fun _ => hK.seq rfl <| hK.call rfl

end Terraform

variable (hdestroy : K destroy)

section Direct

include hdestroy

theorem closed_runProxmoxBlueprintWorkflow : K runProxmoxBlueprintWorkflow := by
  have hsync : K syncDirectInventory :=
    hK.run rfl fun m => closed_onlyIf hK <|
      hK.bind (closed_registerInventory hK.reads (hK.call rfl) (hK.call rfl)) fun _ =>
        hK.seq rfl <| hK.seq rfl <| hK.call rfl
  have hafter : ∀ type {code}, K code → K (afterClone type code) := fun _ _ h =>
    hK.run rfl fun m => hK.bind (closed_failIf hK) fun _ => h
  have hbody : ∀ p step, K (directBody p step) := by
    intro p step
    refine hK.seq rfl ?_
    split
    · exact hK.bind (closed_clone hK) fun _ => hK.seq rfl <| hsync
    · exact hafter _ (closed_configure hK.reads (hK.call rfl) fun _ _ _ => hK.call rfl)
    · exact hafter _ (closed_configureCloudInit hK.reads (hK.call rfl) fun _ _ _ => hK.call rfl)
    · exact hafter _ (closed_start hK.reads (hK.call rfl) (fun _ _ => hK.call rfl)
        fun _ _ => hK.call rfl)
    all_goals try exact hK.call rfl
    · exact closed_executeConfiguredAnsible hK.reads (fun _ _ => hK.call rfl) (hK.call rfl)
        (fun _ => hK.call rfl) _
    · exact closed_delay hK.reads
    all_goals exact hK.throw _
  have hundo : K directUndo := hK.bind hdestroy fun _ => hK.call rfl
  refine hK.run rfl fun p => ?_
  split
  · exact hK.throw _
  next steps _ =>
  refine hK.bind (closed_failIf hK) fun _ => hK.bind (closed_failIf hK) fun _ =>
    hK.seq rfl <| hK.bind (hK.forM fun step _ => ?_) fun _ => ?_
  · exact closed_runStep hK.reads (fun _ _ => hK.call rfl) (hK.call rfl) (fun _ => hK.call rfl)
      (hbody p step) (closed_executeRollback hK.reads hundo steps) steps
  · exact hK.run rfl fun m => hK.bind (closed_failIf hK) fun _ =>
      hK.bind hsync fun _ => hK.seq rfl <| hK.seq rfl <|
        hK.seq rfl <| hK.call rfl

end Direct

include hexecute hdestroy

theorem closed_perform (op : Operation) (p : Payload) :
    K (perform op p) := by
  unfold perform
  split
  · exact closed_runProxmoxBlueprintWorkflow hK hdestroy
  · exact hK.bind hdestroy fun _ => hK.call rfl
  · split
    · exact closed_runBlueprintWorkflow hK hexecute
    exact hK.bind (hexecute _ _ _) fun _ => hK.seq rfl <|
      hK.seq rfl <| hK.call rfl
  · exact hexecute _ _ _
  · exact hK.bind (hexecute _ _ _) fun _ => hK.seq rfl <| hK.call rfl
  · exact hK.seq rfl <| hK.bind (hexecute _ _ _) fun _ => hK.call rfl
  · exact hK.call rfl

/-- The worker has every closed property that its ordinary commands, the executor and the deletion
have. -/
theorem closed_executeUnfenced (op : Operation) (p : Payload) :
    K (executeUnfenced op p) := by
  exact closed_worker hK.reads (hK.call rfl) (fun _ => hK.call rfl)
    (closed_perform hK hexecute hdestroy op p)

end Ordinary

end Closed

end CloudPortal.Execution
