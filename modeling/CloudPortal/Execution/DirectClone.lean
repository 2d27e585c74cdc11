/-
CloudPortal/Execution/DirectClone.lean

The clone of a direct deployment: it is requested once, nothing is done with the machine
before it is complete, and a clone that failed is waited for again.

What a job knows about its clone stands in two checkpoints, the task of the clone
(`_proxmox_provision_runtime`) and the state of the workflow (`_workflow_runtime`); both are
copied to every job that goes on.  Between the answer of the provider and the first of them
the clone is known to nobody, and a job without a checkpoint only looks whether the target
exists.

* `cloneGuard`: when a clone is requested, every clone of the deployment that did not fail
  still has its machine.
* `clone_once_and_complete`: then no clone is requested while another one runs or after one
  has ended well, and every configuration and start follows such an end and a look at the
  machine.
* `clone_repeated`: a worker that is lost before the first checkpoint, and a machine that is
  deleted after its clone has ended well, make the retry request a second clone.
* `clone_requested_again`: `clone` goes on with the task that its checkpoint names, whatever
  became of it.  An attempt after a failed task waits for that task again and fails with it, and
  so does every retry of the job, since `retry_job` keeps the checkpoint; only when the worker was
  lost before it had recorded the task is the clone requested once more.
-/
import CloudPortal.Execution.OwnMachines
import CloudPortal.Execution.Rows

namespace CloudPortal.Execution

open RowStore Interaction

/-- Every clone of the deployment that did not fail still has its machine. -/
def Site.clonesThere (s : Site) : Bool :=
  s.tasks.rows.all fun (upid, task) => !task.isClone || task.exit = some false
    || s.vms.rows.any fun (_, vm) => vm.cloneTask = some upid

/-- The operations of a direct deployment. -/
def isDirect : Operation → Bool
  | .proxmoxProvision | .proxmoxDestroy => true
  | _ => false

def cloneGuard : Plant.Guard Cmd Site Input ℕ Bool Outside where
  tick := fun _ c s _ => match c with
    | .cloneVm .. => s.clonesThere
    | _ => true
  outside := fun m _ => match m with
    | .newJob _ operation _ _ => isDirect operation
    | _ => true

/-! ### Tasks -/

/-- A clone has ended well, and the machine was seen after that. -/
structure Done (s : Site) : Prop where
  cloned : cloneDone s.tasks = true
  observed : s.observed = true

/-- The task is a clone. -/
def IsClone (upid : ℕ) (s : Site) : Prop :=
  ∃ task, s.tasks.find? upid = some task ∧ task.isClone = true

/-- No machine was made by the deployment. -/
def Absent (s : Site) : Prop :=
  ∀ vmId vm, s.vms.find? vmId = some vm → vm.cloneTask = none

/-- Tasks stay, and what has ended stays as it is; what was seen was seen. -/
structure Onward (s s' : Site) : Prop where
  tasks : ∀ upid task, s.tasks.find? upid = some task → ∃ task',
    s'.tasks.find? upid = some task' ∧ task'.kind = task.kind
      ∧ (task.exit.isSome → task'.exit = task.exit)
  observed : s.observed = true → s'.observed = true

variable {p : Payload} {task : ProviderTask} {node : String} {upid vmId : ℕ}

section Onward

variable {s s' s'' : Site}

theorem Onward.refl (s : Site) : Onward s s :=
  ⟨fun _ task h => ⟨task, h, rfl, fun _ => rfl⟩, id⟩

theorem Onward.trans (h : Onward s s') (h' : Onward s' s'') : Onward s s'' where
  tasks := by
    intro upid task htask
    obtain ⟨task', htask', hk', hexit'⟩ := h.tasks upid task htask
    obtain ⟨task'', htask'', hk'', hexit''⟩ := h'.tasks upid task' htask'
    refine ⟨task'', htask'', hk''.trans hk', fun he => ?_⟩
    rw [hexit'' (by rwa [hexit' he]), hexit' he]
  observed := fun ho => h'.observed (h.observed ho)

theorem isClone_of_kind {task' : ProviderTask} (h : task'.kind = task.kind) :
    task'.isClone = task.isClone := by
  unfold ProviderTask.isClone
  rw [h]

theorem cloneDone_iff {tasks : Table ℕ ProviderTask} :
    cloneDone tasks = true ↔ ∃ upid task, tasks.find? upid = some task ∧ task.isClone = true
      ∧ task.exit = some true := by
  unfold cloneDone
  rw [List.any_eq_true]
  constructor
  · rintro ⟨⟨upid, task⟩, hm, hd⟩
    rw [Bool.and_eq_true, decide_eq_true_iff] at hd
    exact ⟨upid, task, Table.mem_rows.1 hm, hd⟩
  rintro ⟨upid, task, hf, hd⟩
  refine ⟨(upid, task), Table.mem_rows.2 hf, ?_⟩
  rw [Bool.and_eq_true, decide_eq_true_iff]
  exact hd

theorem Onward.cloneDone (h : Onward s s') (hd : cloneDone s.tasks = true) :
    cloneDone s'.tasks = true := by
  obtain ⟨upid, task, hf, hclon, hexit⟩ := cloneDone_iff.1 hd
  obtain ⟨task', hf', hk, hexit'⟩ := h.tasks upid task hf
  refine cloneDone_iff.2 ⟨upid, task', hf', (isClone_of_kind hk).trans hclon, ?_⟩
  rw [hexit' (by rw [hexit]; rfl), hexit]

theorem Onward.done (h : Onward s s') (hd : Done s) : Done s' :=
  ⟨h.cloneDone hd.cloned, h.observed hd.observed⟩

theorem Onward.isClone (h : Onward s s') (hclon : IsClone upid s) : IsClone upid s' := by
  obtain ⟨task, hf, htask⟩ := hclon
  obtain ⟨task', hf', hk, -⟩ := h.tasks upid task hf
  exact ⟨task', hf', (isClone_of_kind hk).trans htask⟩

theorem Onward.of_frame {parts : List Part} {kinds : List EventKind}
    (hf : Frame parts kinds s s') (htasks : .tasks ∉ parts) (hobserved : .observed ∉ parts) :
    Onward s s' where
  tasks := by rw [hf.tasks htasks]; exact (Onward.refl s).tasks
  observed := by rw [hf.observed hobserved]; exact id

/-- A new task leaves the others. -/
theorem Onward.put (h : s'.tasks = s.tasks.put s.tasks.fresh task)
    (hobserved : s'.observed = s.observed) : Onward s s' where
  tasks := by
    intro upid old hold
    refine ⟨old, ?_, rfl, fun _ => rfl⟩
    have hn : upid ≠ s.tasks.fresh := by
      rintro rfl
      rw [Table.find?_fresh] at hold
      cases hold
    rw [h, Table.find?_put_of_ne _ _ hn]
    exact hold
  observed := fun ho => hobserved.trans ho

theorem note_onward (s : Site) (e : Event) : Onward s (s.note e) := ⟨(Onward.refl s).tasks, id⟩

theorem newTask_onward (s : Site) (kind : TaskKind) : Onward s (s.newTask kind).1 := .put rfl rfl

theorem machineTask_onward (s : Site) (node : String) (vmId : ℕ) (kind : TaskKind) (i : Input) :
    Onward s (s.machineTask node vmId kind i).1 := by
  unfold Site.machineTask
  split
  · exact .refl s
  · split
    · exact newTask_onward s kind
    · exact .refl s
  · exact newTask_onward s kind

theorem cloneVm_onward (s : Site) (node : String) (vmId : ℕ) (i : Input) :
    Onward s (s.cloneVm node vmId i).1 := by
  have haccept : Onward s ((s.note (.cloneSubmitted vmId s.tasks)).acceptClone node vmId).1 :=
    .put rfl rfl
  unfold Site.cloneVm
  dsimp only
  split
  · exact note_onward s _
  split
  · exact haccept
  split
  · exact haccept
  · exact note_onward s _

theorem endTask_onward (s : Site) (upid : ℕ) (ok : Bool) : Onward s (s.endTask upid ok) := by
  unfold Site.endTask
  split
  · exact .refl s
  next task htask =>
  split
  · exact .refl s
  next hopen =>
  -- the task that ends has not ended before
  have hp : ∀ s' : Site, s'.tasks = s.tasks.put upid { task with exit := some ok } →
      s'.observed = s.observed → Onward s s' := by
    intro s' htasks hobserved
    refine ⟨fun upid' old hold => ?_, fun ho => hobserved.trans ho⟩
    rw [htasks, Table.find?_put]
    split
    · next hi =>
      rw [hi, htask] at hold
      cases hold
      exact ⟨_, rfl, rfl, fun he => absurd he hopen⟩
    · exact ⟨old, hold, rfl, fun _ => rfl⟩
  dsimp only
  split
  · split
    · exact hp _ rfl rfl
    · exact hp _ rfl rfl
  · exact hp _ rfl rfl
  · exact hp _ rfl rfl

theorem handle_onward (cfg : Settings) (job : ℕ) (c : Cmd) (s : Site) (i : Input) :
    Onward s (Site.handle cfg job c s i).1 := by
  by_cases htasks : .tasks ∈ c.parts
  · cases c <;> simp at htasks
    case cloneVm node vmId => exact cloneVm_onward s node vmId i
    all_goals exact (note_onward s _).trans (machineTask_onward _ _ _ _ i)
  by_cases hobserved : .observed ∈ c.parts
  · cases c <;> simp at hobserved
    cases hr : i.raises with
    | some e => simp only [Site.handle, hr]; exact .refl s
    | none =>
      simp only [Site.handle, hr]
      exact ⟨(Onward.refl s).tasks, fun ho => by
        show (s.observed || _) = true
        rw [ho, Bool.true_or]⟩
  · exact .of_frame (handle_frame cfg job c s i) htasks hobserved

theorem outside_onward (cfg : Settings) (m : Outside) (s : Site) : Onward s (s.outside cfg m) := by
  by_cases htasks : .tasks ∈ m.parts
  · cases m <;> simp at htasks
    exact endTask_onward s _ _
  · exact .of_frame (outside_frame s cfg m) htasks (by cases m <;> simp)

end Onward

/-! ### The invariant -/

/-- What the payload of a job says about the clone is so. -/
structure Truthful (payload : Payload) (s : Site) : Prop where
  upid : ∀ upid, (payload.provisionRuntime.getD {}).cloneUpid = some upid → IsClone upid s
  completed : (payload.provisionRuntime.getD {}).cloneCompleted = true → Done s
  applied : payload.checkpointed = true → Done s

variable {s : Site} {cfg : Settings} {m : Outside} {row : Job}

theorem Truthful.onward {s' : Site} (h : Truthful p s) (hon : Onward s s') :
    Truthful p s' where
  upid := fun upid hupid => hon.isClone (h.upid upid hupid)
  completed := fun hc => hon.done (h.completed hc)
  applied := fun ha => hon.done (h.applied ha)

/-- All clones have failed. -/
def AllFailed (tasks : Table ℕ ProviderTask) : Prop :=
  ∀ upid task, tasks.find? upid = some task → task.isClone = true → task.exit = some false

/-- A clone is submitted when all others have failed, other requests once a clone has ended well and
the machine was seen. -/
structure Orderly (events : List Event) : Prop where
  clone : ∀ vmId tasks, .cloneSubmitted vmId tasks ∈ events → AllFailed tasks
  configure : ∀ what vmId tasks observed, .configureSubmitted what vmId tasks observed ∈ events →
    cloneDone tasks = true ∧ observed = true
  start : ∀ vmId tasks observed, .startSubmitted vmId tasks observed ∈ events →
    cloneDone tasks = true ∧ observed = true

structure Cloning (s : Site) : Prop where
  jobs : ∀ id row, s.jobs.find? id = some row →
    isDirect row.operation = true ∧ Truthful row.payload s
  memory : s.memory.runtime.applied = true → Done s
  /-- the machines of the deployment are at its place -/
  machines : ∀ vmId vm, s.vms.find? vmId = some vm → vm.own = true →
    s.isTarget vm.node vmId = true
  events : Orderly s.events

/-! ### Outside moves -/

theorem Absent.outside (h : Absent s) : Absent (s.outside cfg m) := by
  intro vmId vm hvm
  rcases outside_vms hvm with ⟨found, hfound, hs, -⟩ | ⟨ho, -⟩
  · rw [hs]
    exact h vmId found hfound
  · exact ho

/-- A payload without checkpoints says nothing. -/
theorem Truthful.of_none (hp : p.provisionRuntime = none)
    (hwf : p.workflowRuntime = none) (s : Site) : Truthful p s where
  upid := by rw [hp]; exact nofun
  completed := by rw [hp]; exact nofun
  applied := by rw [Payload.checkpointed, hwf]; exact nofun

/-- A payload says no more than the one that it was made from. -/
theorem Truthful.copy {p' : Payload} (h : Truthful p s)
    (hp : p'.provisionRuntime = p.provisionRuntime)
    (hwf : p'.checkpointed = true → p.checkpointed = true) :
    Truthful p' s where
  upid := by rw [hp]; exact h.upid
  completed := by rw [hp]; exact h.completed
  applied := fun ha => h.applied (hwf ha)

theorem FreshRow.truthful {id : ℕ} (h : FreshRow cfg s id m row) (hs : Cloning s)
    (ho : cloneGuard.outside m s = true) :
    isDirect row.operation = true ∧ Truthful row.payload s := by
  cases h with
  | @created op force gated haccepts =>
    have hpayload : (s.newPayload op force).provisionRuntime = none
        ∧ (s.newPayload op force).workflowRuntime = none := by
      unfold Site.newPayload
      dsimp only
      split <;> exact ⟨rfl, rfl⟩
    exact ⟨ho, .of_none hpayload.1 hpayload.2 s⟩
  | @retried orig old hr hst haccepts =>
    obtain ⟨hdirect, htruth⟩ := hs.jobs orig old hr
    refine ⟨hdirect, htruth.copy rfl fun ha => ?_⟩
    have ha : (((if old.keepsCheckpoint then old.payload.workflowRuntime else none).map
        (·.providerApplied)).getD false) = true := ha
    split at ha
    · exact ha
    · cases ha
  | @resumed stale old accounted hr hst hlost hresumes =>
    obtain ⟨hdirect, htruth⟩ := hs.jobs stale old hr
    exact ⟨hdirect, htruth.copy rfl fun ha => ha⟩

theorem outside_cloning (h : Cloning s) (hok : cloneGuard.outside m s = true) :
    Cloning (s.outside cfg m) := by
  have hf := outside_frame s cfg m
  have hon := outside_onward cfg m s
  have hkinds : .memory ∉ m.parts ∧ .vars ∉ m.parts ∧ .clone ∉ m.eventKinds
      ∧ .configure ∉ m.eventKinds ∧ .start ∉ m.eventKinds := by cases m <;> simp
  obtain ⟨hmemo, hv, hclon, hc, hstart⟩ := hkinds
  refine ⟨fun id row hr => ?_, ?_, fun vmId vm hvm hown => ?_, ?_, ?_, ?_⟩
  · rcases outside_rows hr with ho | ⟨old, ho, hchange⟩ | ⟨-, hfresh⟩
    · exact ⟨(h.jobs id row ho).1, (h.jobs id row ho).2.onward hon⟩
    · obtain ⟨hdirect, htruth⟩ := h.jobs id old ho
      have htruth' := htruth.onward hon
      cases hchange <;> exact ⟨hdirect, htruth'.upid, htruth'.completed, htruth'.applied⟩
    · obtain ⟨hdirect, htruth⟩ := hfresh.truthful h hok
      exact ⟨hdirect, htruth.onward hon⟩
  · rw [hf.memory hmemo]
    exact fun ha => hon.done (h.memory ha)
  · rcases outside_vms hvm with ⟨found, hfound, hs, hnode⟩ | ⟨hother, -⟩
    · rw [VM.own, hs] at hown
      rw [Site.isTarget, hf.vars hv, hnode]
      exact h.machines vmId found hfound hown
    · rw [VM.own, hother] at hown
      cases hown
  · exact fun _ _ he => h.events.clone _ _ (hf.mem_events he hclon)
  · exact fun _ _ _ _ he => h.events.configure _ _ _ _ (hf.mem_events he hc)
  · exact fun _ _ _ he => h.events.start _ _ _ (hf.mem_events he hstart)

/-- What a worker can rely on. -/
structure CloneRely (s s' : Site) : Prop where
  vars : s'.deployment.vars = s.deployment.vars
  onward : Onward s s'
  absent : Absent s → Absent s'

def cloneContract (cfg : Settings) : (plant cfg).Contract cloneGuard where
  inv := fun _ => Cloning
  rely := fun _ => CloneRely
  rely_refl := fun _ s => ⟨rfl, .refl s, id⟩
  rely_trans := fun h h' =>
    ⟨h'.vars.trans h.vars, h.onward.trans h'.onward, fun ha => h'.absent (h.absent ha)⟩
  lose := fun h _ => by
    refine ⟨fun id row hrow => ?_, fun happlied => ?_, h.machines, h.events⟩
    · obtain ⟨hdirect, htruth⟩ := h.jobs id row hrow
      exact ⟨hdirect, htruth.onward ⟨(Onward.refl _).tasks, fun ho => ho⟩⟩
    · exact ⟨(h.memory happlied).cloned, (h.memory happlied).observed⟩
  outside := fun h hok => outside_cloning h hok
  undisturbed := fun _ _ => ⟨outside_vars cfg _ _, outside_onward cfg _ _, Absent.outside⟩

/-! ### Commands -/

/-- The place and the time for a command. -/
def Cmd.due (s : Site) : Cmd → Prop
  | .update f => (f s.memory).runtime.applied = true → Done s
  | .persistProvision (.cloneRequested upid) => IsClone upid s
  | .persistProvision .cloneCompleted => Done s
  | .reserveVmid => s.deployment.vars.machineId = none
  | .cloneVm node vmId => s.isTarget node vmId = true ∧ Absent s
  | .configureVm .. | .startVm .. => Done s
  | _ => True

section Commands

variable {cfg : Settings} {job : ℕ} {c : Cmd} {s : Site} {i : Input}

/-- A row that a command writes says what is so. -/
theorem OwnRow.truthful {row row' : Job} (h : OwnRow s row c row') (hs : Cloning s)
    (hdue : c.due s) (hr : Truthful row.payload s) : Truthful row'.payload s := by
  cases h with
  | deferred | finished out => exact hr
  | recorded | paused => exact ⟨hr.upid, hr.completed, hs.memory⟩
  | provisioned change =>
    cases change with
    | cloneRequested upid =>
      refine ⟨?_, hr.completed, hr.applied⟩
      rintro _ ⟨⟩
      exact hdue
    | cloneCompleted => exact ⟨hr.upid, fun _ => hdue, hr.applied⟩
    | noted => exact ⟨hr.upid, hr.completed, hr.applied⟩

/-- Where every clone that did not fail has its machine and there is none, all have failed. -/
theorem Absent.allFailed (h : Absent s) (hthere : s.clonesThere = true) : AllFailed s.tasks := by
  intro upid task hf hclon
  have ha := List.all_eq_true.1 hthere _ (Table.mem_rows.2 hf)
  by_contra hexit
  simp only [hclon, Bool.not_true, Bool.false_or, Bool.or_eq_true, decide_eq_true_iff,
    hexit, false_or, List.any_eq_true] at ha
  obtain ⟨⟨vmId, vm⟩, hm, htask⟩ := ha
  have hn := h vmId vm (Table.mem_rows.1 hm)
  rw [htask] at hn
  cases hn

theorem Orderly.note {e : Event} (h : Orderly s.events)
    (hclon : ∀ vmId tasks, e = .cloneSubmitted vmId tasks → AllFailed tasks)
    (hc : ∀ what vmId tasks obs, e = .configureSubmitted what vmId tasks obs →
      cloneDone tasks = true ∧ obs = true)
    (hs : ∀ vmId tasks obs, e = .startSubmitted vmId tasks obs →
      cloneDone tasks = true ∧ obs = true) : Orderly (s.note e).events where
  clone := fun vmId tasks he =>
    (List.mem_cons.1 he).elim (fun hn => hclon _ _ hn.symm) (h.clone vmId tasks)
  configure := fun what vmId tasks obs he =>
    (List.mem_cons.1 he).elim (fun hn => hc _ _ _ _ hn.symm) (h.configure what vmId tasks obs)
  start := fun vmId tasks obs he =>
    (List.mem_cons.1 he).elim (fun hn => hs _ _ _ hn.symm) (h.start vmId tasks obs)

theorem machineTask_events (s : Site) (node : String) (vmId : ℕ) (kind : TaskKind) (i : Input) :
    (s.machineTask node vmId kind i).1.events = s.events := by
  unfold Site.machineTask
  split
  · rfl
  · split <;> rfl
  · rfl

theorem cloneVm_events (s : Site) (node : String) (vmId : ℕ) (i : Input) :
    (s.cloneVm node vmId i).1.events = .cloneSubmitted vmId s.tasks :: s.events := by
  unfold Site.cloneVm
  dsimp only
  split
  · rfl
  split
  · rfl
  · split <;> rfl

theorem handle_orderly (h : Cloning s) (hdue : c.due s) (ho : cloneGuard.tick job c s i = true) :
    Orderly (Site.handle cfg job c s i).1.events := by
  have hf := handle_frame cfg job c s i
  by_cases hk : .clone ∉ c.eventKinds ∧ .configure ∉ c.eventKinds ∧ .start ∉ c.eventKinds
  · exact ⟨fun _ _ he => h.events.clone _ _ (hf.mem_events he hk.1),
      fun _ _ _ _ he => h.events.configure _ _ _ _ (hf.mem_events he hk.2.1),
      fun _ _ _ he => h.events.start _ _ _ (hf.mem_events he hk.2.2)⟩
  cases c <;> simp at hk
  case cloneVm node vmId =>
    show Orderly (s.cloneVm node vmId i).1.events
    rw [cloneVm_events]
    exact h.events.note (by rintro _ _ ⟨⟩; exact hdue.2.allFailed ho) nofun nofun
  case configureVm what node vmId =>
    show Orderly ((s.note (.configureSubmitted what vmId s.tasks s.observed)).machineTask
      node vmId .other i).1.events
    rw [machineTask_events]
    exact h.events.note nofun (by rintro _ _ _ _ ⟨⟩; exact ⟨hdue.cloned, hdue.observed⟩) nofun
  case startVm node vmId =>
    show Orderly ((s.note (.startSubmitted vmId s.tasks s.observed)).machineTask
      node vmId .other i).1.events
    rw [machineTask_events]
    exact h.events.note nofun nofun (by rintro _ _ _ ⟨⟩; exact ⟨hdue.cloned, hdue.observed⟩)

/-- The machines of the deployment stay at its place. -/
theorem handle_machines (h : Cloning s) (hdue : c.due s) {vm : VM}
    (hvm : (Site.handle cfg job c s i).1.vms.find? vmId = some vm) (hown : vm.own = true) :
    (Site.handle cfg job c s i).1.isTarget vm.node vmId = true := by
  have hf := handle_frame cfg job c s i
  by_cases hvms : .vms ∈ c.parts
  · cases c <;> simp at hvms
    rw [Site.isTarget, hf.vars (by simp)]
    rcases cloneVm_vms hvm with ho | ⟨rfl, rfl, -⟩
    · exact h.machines vmId vm ho hown
    · exact hdue.1
  rw [hf.vms hvms] at hvm
  have hp := h.machines vmId vm hvm hown
  by_cases hv : .vars ∈ c.parts
  · -- a deployment without an id has no machines
    cases c <;> simp at hv
    have hn : s.deployment.vars.machineId = none := hdue
    rw [Site.isTarget, hn] at hp
    simp at hp
  · rw [Site.isTarget, hf.vars hv]
    exact hp

theorem handle_cloning (h : Cloning s) (hdue : c.due s) (hok : cloneGuard.tick job c s i = true) :
    Cloning (Site.handle cfg job c s i).1 := by
  have hf := handle_frame cfg job c s i
  have hon := handle_onward cfg job c s i
  refine ⟨fun id row hr => ?_, fun ha => ?_, fun vmId vm => handle_machines h hdue,
    handle_orderly h hdue hok⟩
  · rcases handle_rows hr with ho | ⟨-, old, ho, hown⟩ | ⟨-, out, old, rfl, ho, hrecovers, rfl⟩
    · exact ⟨(h.jobs id row ho).1, (h.jobs id row ho).2.onward hon⟩
    · obtain ⟨hdirect, htruth⟩ := h.jobs job old ho
      exact ⟨by cases hown <;> exact hdirect, (hown.truthful h hdue htruth).onward hon⟩
    -- what failed was the provisioning, so a deletion follows
    obtain ⟨hdirect, -⟩ := h.jobs job old ho
    have hp : old.operation = .proxmoxProvision := by
      simp only [Site.recovers, Bool.and_eq_true] at hrecovers
      have hprov := hrecovers.1.1.1.1.2
      revert hdirect hprov
      cases old.operation <;> simp [isDirect, Operation.provisioning]
    refine ⟨?_, .of_none rfl rfl _⟩
    show isDirect (if old.operation = .proxmoxProvision then _ else _) = true
    rw [if_pos hp]
    rfl
  · by_cases hmemo : .memory ∈ c.parts
    · cases c <;> simp at hmemo
      exact hon.done (hdue ha)
    · rw [hf.memory hmemo] at ha
      exact hon.done (h.memory ha)

/-- What lasts while others work lasts through a command that makes no machine and stores no id. -/
theorem handle_rely (hv : .vars ∉ c.parts) (hvms : .vms ∉ c.parts) :
    CloneRely s (Site.handle cfg job c s i).1 where
  vars := (handle_frame cfg job c s i).vars hv
  onward := handle_onward cfg job c s i
  absent := by
    intro h vmId vm hvm
    rw [(handle_frame cfg job c s i).vms hvms] at hvm
    exact h vmId vm hvm

end Commands

/-! ### The code -/

/-- The rules for the code of a job. -/
abbrev cloneRules (cfg : Settings) (job : ℕ) : Rules Cmd.Ans Raised Site Input :=
  (cloneContract cfg).rules job

/-- It holds on, whatever others do. -/
def Lasting (P : Site → Prop) : Prop := ∀ s s', CloneRely s s' → P s → P s'

section Code

variable {cfg : Settings} {job : ℕ} {P : Site → Prop} {c : Cmd} {i : Input} {f : Memory → Memory}

theorem Lasting.keeps (hP : Lasting P) (hparts : .vars ∉ c.parts ∧ .vms ∉ c.parts)
    (hdue : ∀ s, Cloning s → P s → c.due s) :
    (call c).Keeps (cloneRules cfg job) P :=
  Prog.Keeps.request (fun hr _ h => hP _ _ hr h) fun s _ hi h ho =>
    ⟨handle_cloning hi (hdue s hi h) ho, hP _ _ (handle_rely hparts.1 hparts.2) h⟩

theorem Cmd.quiet.due (h : c.quiet) (s : Site) : c.due s := by
  obtain ⟨hparts, -⟩ := h
  cases c <;> trivial

theorem Lasting.closed (hP : Lasting P) :
    ClosedOn Cmd.reads fun {α : Type} (code : Code α) => code.Keeps (cloneRules cfg job) P where
  toClosed := Prog.Keeps.closed _ _
  command c hc := by
    have hquiet := Cmd.quiet_of_reads hc
    exact hP.keeps (by rw [hquiet.1]; simp) fun s _ _ => hquiet.due s

theorem Lasting.quiet (hP : Lasting P) (hc : c.reads = true) :
    (call c).Triple (cloneRules cfg job) P fun _ => P :=
  (hP.closed.call hc).triple

theorem Lasting.and {P' : Site → Prop} (hP : Lasting P) (hP' : Lasting P') :
    Lasting fun s => P s ∧ P' s :=
  fun s s' hr h => ⟨hP s s' hr h.1, hP' s s' hr h.2⟩

theorem lasting_true : Lasting fun _ => True := fun _ _ _ _ => trivial

theorem lasting_done : Lasting Done := fun _ _ hr h => hr.onward.done h

theorem lasting_isClone (upid : ℕ) : Lasting (IsClone upid) :=
  fun _ _ hr h => hr.onward.isClone h

theorem lasting_cloned : Lasting fun s => cloneDone s.tasks = true :=
  fun _ _ hr h => hr.onward.cloneDone h

theorem lasting_target (node : String) (vmId : ℕ) :
    Lasting fun s => s.isTarget node vmId = true := by
  intro s s' hr h
  rwa [Site.isTarget, hr.vars]

theorem lasting_truthful (p : Payload) : Lasting (Truthful p) :=
  fun _ _ hr h => h.onward hr.onward

/-! #### Waiting for the clone -/

variable {s : Site}

theorem taskStatus_exit {exit : Option Bool} (hf : s.tasks.find? upid = some task)
    (h : (Site.handle cfg job (.taskStatus upid) s i).2 = .ok exit) : task.exit = exit := by
  cases hr : i.raises with
  | some e => simp [Site.handle, hr] at h
  | none =>
    simp only [Site.handle, hr, hf] at h
    exact Except.ok.inj h

/-- A wait for a clone that returns has seen it end well. -/
theorem pollTask_cloned (label : String) (polls : ℕ) :
    (pollTask label upid polls).Triple (cloneRules cfg job) (IsClone upid)
      fun _ s => cloneDone s.tasks = true := by
  have hst : (call (.taskStatus upid)).Triple (cloneRules cfg job) (IsClone upid)
      fun exit s => IsClone upid s ∧ (exit = some true → cloneDone s.tasks = true) := by
    refine .request fun s s' i hclon hr hi' ho => ?_
    have hclon' := lasting_isClone upid _ _ hr hclon
    refine ⟨handle_cloning hi' trivial ho, fun exit hexit => ?_⟩
    have hs : (Site.handle cfg job (.taskStatus upid) s' i).1 = s' :=
      handle_quiet ⟨rfl, rfl⟩ cfg job s' i
    show IsClone upid (Site.handle cfg job (.taskStatus upid) s' i).1 ∧ (exit = some true →
      cloneDone (Site.handle cfg job (.taskStatus upid) s' i).1.tasks = true)
    rw [hs]
    refine ⟨hclon', fun he => ?_⟩
    obtain ⟨task, hf, htask⟩ := hclon'
    exact cloneDone_iff.2 ⟨upid, task, hf, htask, taskStatus_exit hf (he ▸ hexit)⟩
  induction polls with
  | zero => exact .throw _
  | succ polls ih =>
    refine .bind ((lasting_isClone upid).quiet rfl) fun _ => .bind hst fun exit => ?_
    match exit with
    | some true => exact (lasting_cloned.quiet rfl).pre fun _ h => h.2 rfl
    | some false => exact .throw _
    | none => exact .bind (((lasting_isClone upid).quiet rfl).pre fun _ h => h.1) fun _ => ih

theorem waitTask_cloned (label : String) :
    (waitTask label upid).Triple (cloneRules cfg job) (IsClone upid)
      fun _ s => cloneDone s.tasks = true := by
  refine .bind ((lasting_isClone upid).quiet rfl) fun polls =>
    .tryCatch (pollTask_cloned label polls) fun e => ?_
  have hclone := @Lasting.closed cfg job _ lasting_true
  have hstop := hclone.tryCatch (hclone.call (c := .stopTask upid) rfl) fun _ => hclone.pure ()
  exact .bind (closed_onlyIf hclone hstop).triple fun _ => .throw e

/-- A look at the place of the deployment. -/
theorem statusOrNone_target :
    (statusOrNone node vmId).Triple (cloneRules cfg job) (fun s => s.isTarget node vmId = true)
      fun st s => (st = none → Absent s)
        ∧ (st.isSome → cloneDone s.tasks = true → Done s) := by
  refine .request fun s s' i hg hr hi' hok => ⟨handle_cloning hi' trivial hok, ?_⟩
  have hg' := lasting_target node vmId _ _ hr hg
  intro st hst
  have hst : (Site.handle cfg job (.vmStatus node vmId) s' i).2 = .ok st := hst
  show (st = none → Absent (Site.handle cfg job (.vmStatus node vmId) s' i).1)
    ∧ (st.isSome → cloneDone (Site.handle cfg job (.vmStatus node vmId) s' i).1.tasks = true →
      Done (Site.handle cfg job (.vmStatus node vmId) s' i).1)
  cases hraises : i.raises with
  | some e => simp [Site.handle, hraises] at hst
  | none =>
    simp only [Site.handle, hraises] at hst ⊢
    cases hst
    constructor
    · -- a machine of the deployment would be at its place
      intro hn found vm hvm
      by_contra ho
      have hp := hi'.machines found vm hvm (Option.isSome_iff_ne_none.2 ho)
      simp only [Site.isTarget, Bool.and_eq_true, decide_eq_true_iff] at hp hg'
      obtain rfl : vmId = found := Option.some.inj (hg'.2.symm.trans hp.2)
      have hnode : vm.node = node := hp.1.symm.trans hg'.1
      have hthere : s'.machineAt node vmId = some vm :=
        Option.filter_eq_some_iff.2 ⟨hvm, decide_eq_true hnode⟩
      rw [hthere] at hn
      cases hn
    · intro hs hd
      refine ⟨hd, ?_⟩
      have hd : cloneDone s'.tasks = true := hd
      have hthere : (s'.machineAt node vmId).isSome = true := by simpa using hs
      show (s'.observed || s'.isTarget node vmId && cloneDone s'.tasks
        && (s'.machineAt node vmId).isSome) = true
      rw [hg', hd, hthere]
      exact Bool.or_true _

theorem pollTarget_done (polls : ℕ) :
    (pollTarget node vmId polls).Triple (cloneRules cfg job)
      (fun s => s.isTarget node vmId = true ∧ cloneDone s.tasks = true) fun _ => Done := by
  have hlasting := (lasting_target node vmId).and lasting_cloned
  have hkeeps : (statusOrNone node vmId).Keeps (cloneRules cfg job)
      fun s => s.isTarget node vmId = true ∧ cloneDone s.tasks = true :=
    hlasting.keeps (by simp) fun _ _ _ => trivial
  -- a status that cannot be read counts as none
  have hlook : (tryCatch (statusOrNone node vmId) fun _ => pure none).Triple (cloneRules cfg job)
      (fun s => s.isTarget node vmId = true ∧ cloneDone s.tasks = true)
      fun st s => (st.isSome → Done s) ∧ s.isTarget node vmId = true
        ∧ cloneDone s.tasks = true := by
    intro s hi hs
    refine Prog.Safe.tryCatch hi (Prog.Safe.and (statusOrNone_target s hi hs.1)
      (hkeeps s hi hs)) (fun st s' _ h => ?_) fun e s' _ h => ?_
    · rintro _ ⟨⟩
      exact ⟨fun hsome => (h.1 st rfl).2 hsome h.2.2, h.2⟩
    · rintro _ ⟨⟩
      exact ⟨nofun, h.2⟩
  induction polls with
  | zero => exact .throw _
  | succ polls ih =>
    refine .bind (hlasting.quiet rfl) fun _ => .bind hlook fun st => ?_
    match st with
    | some running => exact .pure fun _ h => h.1 rfl
    | none => exact ih.pre fun _ h => h.2

/-- What follows an accepted clone ends with a complete machine. -/
theorem awaitClone_done :
    (awaitClone node vmId upid).Triple (cloneRules cfg job)
      (fun s => s.isTarget node vmId = true ∧ IsClone upid s) fun _ => Done := by
  have hg := lasting_target node vmId
  have hseen : (waitTarget node vmId).Triple (cloneRules cfg job)
      (fun s => s.isTarget node vmId = true ∧ cloneDone s.tasks = true) fun _ => Done :=
    .bind ((hg.and lasting_cloned).quiet rfl) fun polls => pollTarget_done polls
  have hpersist : (persistProvision .cloneCompleted).Keeps (cloneRules cfg job) Done :=
    lasting_done.keeps (by simp) fun _ _ h => h
  exact .bind ((closed_waitTask hg.closed _ upid).and (waitTask_cloned _)) fun _ =>
    .bind hseen fun _ => hpersist.triple

/-! #### The clone -/

/-- The answer to an accepted clone request is a clone task. -/
theorem cloneVm_answer (h : (s.cloneVm node vmId i).2 = .ok upid) :
    IsClone upid (s.cloneVm node vmId i).1 := by
  unfold Site.cloneVm at h ⊢
  dsimp only at h ⊢
  split
  · next htaken => rw [if_pos htaken] at h; cases h
  next hf =>
  rw [if_neg hf] at h
  cases hr : i.raises with
  | some e => rw [hr] at h; cases h
  | none =>
    rw [hr] at h
    cases h
    exact ⟨⟨.clone vmId, none⟩, Table.find?_put_self _ _ _, rfl⟩

/-- Commands on the variables of the process that leave `applied` as it is. -/
theorem Lasting.update (hP : Lasting P) (hf : ∀ m, (f m).runtime.applied = m.runtime.applied) :
    (update f).Keeps (cloneRules cfg job) P :=
  hP.keeps (by simp) fun s hi _ ha => hi.memory ((hf s.memory).symm.trans ha)

theorem Lasting.submitted (hP : Lasting P) : submitted.Keeps (cloneRules cfg job) P :=
  hP.update fun _ => rfl

/-- A clone that is requested where there is no machine of the deployment ends with one. -/
theorem requestClone_done :
    (requestClone node vmId).Triple (cloneRules cfg job)
      (fun s => s.isTarget node vmId = true ∧ Absent s) fun _ => Done := by
  have hp := (lasting_target node vmId).and fun _ _ hr h => hr.absent h
  have hcall : (call (.cloneVm node vmId)).Triple (cloneRules cfg job)
      (fun s => s.isTarget node vmId = true ∧ Absent s)
      fun upid s => s.isTarget node vmId = true ∧ IsClone upid s := by
    refine .request fun s s' i h hr hi' ho => ?_
    have h' := hp _ _ hr h
    refine ⟨handle_cloning hi' h' ho, fun upid hupid => ⟨?_, cloneVm_answer hupid⟩⟩
    show (Site.handle cfg job (.cloneVm node vmId) s' i).1.isTarget node vmId = true
    rw [Site.isTarget, (handle_frame cfg job (.cloneVm node vmId) s' i).vars (by simp)]
    exact h'.1
  refine .bind (hp.quiet rfl) fun _ => .bind (hp.quiet rfl) fun _ =>
    .bind (.tryCatch hcall fun e => ?_) fun upid => ?_
  · split <;> exact .throw _
  have haccepted := (lasting_target node vmId).and (lasting_isClone upid)
  have hpersist : (persistProvision (.cloneRequested upid)).Keeps (cloneRules cfg job)
      fun s => s.isTarget node vmId = true ∧ IsClone upid s :=
    haccepted.keeps (by simp) fun _ _ h => h.2
  exact .bind haccepted.submitted.triple fun _ => .bind hpersist.triple fun _ =>
    .bind (haccepted.quiet rfl) fun _ => awaitClone_done

theorem cloneFrom_done {tgt : Option Bool} :
    (cloneFrom (p.provisionRuntime.getD {}) tgt node vmId).Triple (cloneRules cfg job)
      (fun s => (s.isTarget node vmId = true ∧ Truthful p s) ∧ (tgt = none → Absent s))
      fun _ => Done := by
  unfold cloneFrom
  split
  · next hc => exact (lasting_done.quiet rfl).pre fun _ h => h.1.2.completed hc.1
  split
  · next upid hupid =>
    have haccepted := (lasting_target node vmId).and (lasting_isClone upid)
    exact .bind (haccepted.submitted.triple.pre fun _ h => ⟨h.1.1, h.1.2.upid upid hupid⟩)
      fun _ => .bind (haccepted.quiet rfl) fun _ => .bind (haccepted.quiet rfl) fun _ => awaitClone_done
  split
  · exact .throw _
  · next hn => exact requestClone_done.pre fun _ h => ⟨h.1.1, h.2 (by simpa using hn)⟩

theorem vars_read : (call .vars).Triple (cloneRules cfg job) (fun _ => True)
    fun vars s => s.deployment.vars = vars :=
  .request fun _ _ _ _ _ hi' _ => ⟨hi', fun _ h => Except.ok.inj h⟩

theorem reserveVmid_target (hn : s.deployment.vars.machineId = none)
    (h : (Site.handle cfg job .reserveVmid s i).2 = .ok vmId) :
    (Site.handle cfg job .reserveVmid s i).1.isTarget s.deployment.vars.node vmId = true := by
  have hf : s.deployment.vars.vmId = none := by
    rw [Variables.machineId] at hn
    cases hvmId : s.deployment.vars.vmId with
    | none => rfl
    | some vmId => rw [hvmId] at hn; cases hn
  cases hr : i.raises with
  | some e => simp [Site.handle, hr] at h
  | none =>
    simp only [Site.handle, hr, Site.reserveVmid, hf] at h ⊢
    cases h
    simp [Site.isTarget, Site.setDeployment, Deployment.withVmId, Variables.machineId]

/-- The id that is used is the stored one. -/
theorem ensureVmid_target {vars : Variables} :
    ensureVmid.Triple (cloneRules cfg job) (fun s => s.deployment.vars = vars)
      fun vmId s => s.isTarget vars.node vmId = true := by
  have hread : (call .vars).Triple (cloneRules cfg job) (fun s => s.deployment.vars = vars)
      fun vars' s => vars' = vars ∧ s.deployment.vars = vars :=
    .request fun _ _ _ hv hr hi' _ => ⟨hi', fun _ h =>
      ⟨(Except.ok.inj h).symm.trans (hr.vars.trans hv), hr.vars.trans hv⟩⟩
  refine .bind hread fun vars' => ?_
  split
  · next vmId hvmId =>
    refine .pure fun s h => ?_
    rw [Site.isTarget, h.2, ← h.1, hvmId]
    simp
  next hn =>
  have hreserve : (call .reserveVmid).Triple (cloneRules cfg job)
      (fun s => vars' = vars ∧ s.deployment.vars = vars)
      fun vmId s => s.isTarget vars.node vmId = true := by
    refine .request fun s s' i h hr hi' ho => ?_
    have hv' : s'.deployment.vars = vars := hr.vars.trans h.2
    have hdue : s'.deployment.vars.machineId = none := by rw [hv', ← h.1, hn]
    refine ⟨handle_cloning hi' hdue ho, fun vmId hvmId => ?_⟩
    rw [← hv']
    exact reserveVmid_target hdue hvmId
  exact .bind hreserve fun vmId => .bind ((lasting_target vars.node vmId).quiet rfl) fun _ =>
    .pure fun _ h => h

theorem payload_read : (call .payload).Triple (cloneRules cfg job) (fun _ => True) Truthful := by
  refine .request fun _ s' i _ _ hi' _ => ⟨hi', fun p hpayload => ?_⟩
  have hpayload : p = ((s'.jobs.find? job).map (·.payload)).getD {} :=
    (Except.ok.inj hpayload).symm
  show Truthful p s'
  rw [hpayload]
  cases hr : s'.jobs.find? job with
  | none => exact .of_none rfl rfl s'
  | some row => exact (hi'.jobs job row hr).2

/-- A clone that returns leaves a complete machine. -/
theorem clone_done : clone.Triple (cloneRules cfg job) (fun _ => True) fun _ => Done := by
  refine .bind vars_read fun vars => .bind ensureVmid_target fun vmId => ?_
  have hg := lasting_target vars.node vmId
  have hclosed := @Lasting.closed cfg job _ hg
  refine .bind (closed_failIf hclosed).triple fun _ => .bind (closed_failIf hclosed).triple fun _ =>
    .bind (((hclosed.call rfl).and payload_read).pre fun _ h => ⟨h, trivial⟩) fun p => ?_
  have hlook : (statusOrNone vars.node vmId).Keeps (cloneRules cfg job)
      fun s => s.isTarget vars.node vmId = true ∧ Truthful p s :=
    (hg.and (lasting_truthful p)).keeps (by simp) fun _ _ _ => trivial
  exact .bind ((hlook.and statusOrNone_target).pre fun _ h => ⟨h, h.1⟩) fun target =>
    cloneFrom_done.pre fun _ h => ⟨h.1, h.2.1⟩

/-! #### Workflows -/

/-- Code that may stand anywhere. -/
def SafeCode (cfg : Settings) (job : ℕ) {α : Type} (code : Code α) : Prop :=
  code.Keeps (cloneRules cfg job) fun _ => True

/-- The commands that are always due, and that make no machine and store no id. -/
def Cmd.free : Cmd → Bool
  | .update _ | .persistProvision (.cloneRequested _) | .persistProvision .cloneCompleted
  | .reserveVmid | .cloneVm .. | .configureVm .. | .startVm .. => false
  | _ => true

theorem Cmd.free_of_reads (h : c.reads = true) : c.free = true := by
  cases c <;> first | rfl | cases h

theorem safeCode_free (cfg : Settings) (job : ℕ) :
    ClosedOn Cmd.free fun {α : Type} (code : Code α) => SafeCode cfg job code where
  toClosed := Prog.Keeps.closed _ _
  command c hc := by
    have hparts : .vars ∉ c.parts ∧ .vms ∉ c.parts := by
      cases c <;> first | (cases hc; done) | exact ⟨by simp, by simp⟩
    refine lasting_true.keeps hparts fun s _ _ => ?_
    cases c with
    | persistProvision change => cases change <;> trivial
    | _ => trivial

/-- What needs a complete machine is safe behind the check of `applied`. -/
theorem safeCode_afterClone {type : StepType} {code : Code Unit}
    (h : code.Keeps (cloneRules cfg job) Done) : SafeCode cfg job (afterClone type code) := by
  have hr : readMemory.Triple (cloneRules cfg job) (fun _ => True)
      fun m s => m.runtime.applied = true → Done s :=
    .request fun _ _ _ _ _ hi' _ => ⟨hi', fun m hm => by
      cases hm
      exact hi'.memory⟩
  have hcheck (m : Memory) : (failIf (¬m.runtime.applied) (type.name
      ++ " requires a completed direct Proxmox clone")).Triple (cloneRules cfg job)
      (fun s => m.runtime.applied = true → Done s) fun _ => Done := by
    unfold failIf onlyIf
    split
    · exact .throw _
    · next ha => exact .pure fun _ h => h (not_not.1 ha)
  exact (Prog.Triple.bind hr fun m => .bind (hcheck m) fun _ => h.triple).keeps

theorem safeCode_update (hf : ∀ m, (f m).runtime.applied = m.runtime.applied) :
    SafeCode cfg job (update f) :=
  lasting_true.update hf

theorem safeCode_syncDirectInventory : SafeCode cfg job syncDirectInventory := by
  have hK := safeCode_free cfg job
  have hregister : SafeCode cfg job registerInventory :=
    closed_registerInventory (hK.mono fun _ => Cmd.free_of_reads) (hK.call rfl) (hK.call rfl)
  exact hK.run rfl fun m => closed_onlyIf hK <| hK.bind hregister fun _ =>
    hK.bind (safeCode_update fun _ => rfl) fun _ => hK.seq rfl <| hK.call rfl

/-- The clone step: `applied` is set behind a complete clone. -/
theorem safeCode_cloneStep : SafeCode cfg job (do
    clone
    updateRuntime fun r => { r with applied := true }
    syncDirectInventory) := by
  have hset : (updateRuntime fun r => { r with applied := true }).Keeps (cloneRules cfg job) Done :=
    lasting_done.keeps (by simp) fun _ _ h _ => h
  exact (Prog.Triple.bind clone_done fun _ => .bind hset.triple fun _ =>
    safeCode_syncDirectInventory.triple.pre fun _ _ => trivial).keeps

theorem safeCode_directBody (p : Payload) (step : WorkflowStep) :
    SafeCode cfg job (directBody p step) := by
  have hK := safeCode_free cfg job
  have hR := hK.mono fun _ => Cmd.free_of_reads
  have hD := @Lasting.closed cfg job _ lasting_done
  have hnoted : (persistProvision .noted).Keeps (cloneRules cfg job) Done :=
    lasting_done.keeps (by simp) fun _ _ _ => trivial
  have hc : ∀ what node vmId,
      (call (.configureVm what node vmId)).Keeps (cloneRules cfg job) Done :=
    fun _ _ _ => lasting_done.keeps (by simp) fun _ _ h => h
  refine hK.seq rfl ?_
  split
  · exact safeCode_cloneStep
  · exact safeCode_afterClone (closed_configure hD hnoted hc)
  · exact safeCode_afterClone (closed_configureCloudInit hD hnoted hc)
  · exact safeCode_afterClone (closed_start hD hnoted
      (fun _ _ => lasting_done.keeps (by simp) fun _ _ _ => trivial)
      fun _ _ => lasting_done.keeps (by simp) fun _ _ h => h)
  all_goals try exact hK.call rfl
  · exact closed_executeConfiguredAnsible hR (fun _ hf => safeCode_update hf) (hK.call rfl)
      (fun _ => hK.call rfl) _
  · exact closed_delay hR
  all_goals exact hK.throw _

theorem safeCode_destroy : SafeCode cfg job destroy := by
  have hK := safeCode_free cfg job
  have hR := hK.mono fun _ => Cmd.free_of_reads
  exact hK.bind (closed_identity hR) fun (node, vmId) => closed_destroyAt hR (hK.call rfl)
    (safeCode_update fun _ => rfl) (hK.call rfl) (hK.call rfl)

/-- A workflow goes on from a checkpoint that says what is so. -/
theorem safeCode_resume (steps : List WorkflowStep) :
    (updateRuntime fun _ => resumeDirect steps p.workflowRuntime).Keeps (cloneRules cfg job)
      (Truthful p) := by
  refine (lasting_truthful p).keeps (by simp) fun s _ h ha => h.applied ?_
  have ha : (resume steps p.workflowRuntime).applied = true := ha
  unfold Payload.checkpointed
  cases hsaved : p.workflowRuntime with
  | none => rw [hsaved] at ha; cases ha
  | some saved => rw [hsaved] at ha; exact ha

theorem safeCode_runProxmoxBlueprintWorkflow : SafeCode cfg job runProxmoxBlueprintWorkflow := by
  have hK := safeCode_free cfg job
  have hR := hK.mono fun _ => Cmd.free_of_reads
  have hundo : SafeCode cfg job directUndo :=
    hK.bind safeCode_destroy fun _ => safeCode_update fun _ => rfl
  have hsteps : ∀ p (steps : List WorkflowStep), SafeCode cfg job
      (steps.forM (runStep steps (directBody p) (executeRollback directUndo steps))) := by
    intro p steps
    refine hK.forM fun step _ => ?_
    exact closed_runStep hR (fun _ _ => safeCode_update fun _ => rfl) (hK.call rfl)
      (fun _ => hK.call rfl) (safeCode_directBody p step)
      (closed_executeRollback hR hundo steps) steps
  have hconclude : SafeCode cfg job concludeDirect :=
    hK.run rfl fun m => hK.bind (closed_failIf hK) fun _ =>
      hK.bind safeCode_syncDirectInventory fun _ => hK.seq rfl <| hK.seq rfl <|
        hK.seq rfl <| hK.call rfl
  refine (Prog.Triple.bind payload_read fun p => ?_).keeps (Q := fun _ _ => True)
  split
  · exact .throw _
  next steps _ =>
  have hclosed := @Lasting.closed cfg job _ (lasting_truthful p)
  exact .bind (closed_failIf hclosed).triple fun _ => .bind (closed_failIf hclosed).triple fun _ =>
    .bind (safeCode_resume steps).triple fun _ =>
      (hK.bind (hsteps p steps) fun _ => hconclude).triple.pre fun _ _ => trivial

/-- The worker of a job of a direct deployment. -/
theorem safeCode_executeUnfenced {op : Operation} (hdirect : isDirect op = true)
    (p : Payload) : SafeCode cfg job (executeUnfenced op p) := by
  have hK := safeCode_free cfg job
  refine closed_worker (hK.mono fun _ => Cmd.free_of_reads) (hK.call rfl) (fun _ => hK.call rfl) ?_
  cases op with
  | proxmoxProvision => exact safeCode_runProxmoxBlueprintWorkflow
  | proxmoxDestroy => exact hK.bind safeCode_destroy fun _ => hK.call rfl
  | _ => cases hdirect

end Code

/-! ### Runs -/

theorem cloning_new (d : Deployment) {vms : Table ℕ VM}
    (hothers : ∀ vmId vm, vms.find? vmId = some vm → vm.cloneTask = none) :
    Cloning (.new d vms) := by
  refine ⟨fun id row hr => ?_, nofun, fun vmId vm hvm ho => ?_, ⟨nofun, nofun, nofun⟩⟩
  · exact absurd hr (by simp [Site.new])
  rw [VM.own, hothers vmId vm hvm] at ho
  cases ho

theorem Cloning.claimed (h : Cloning s) {job : ℕ} (hr : s.jobs.find? job = some row) :
    Cloning (s.claimed job row) := by
  have hon : Onward s (s.claimed job row) := ⟨(Onward.refl s).tasks, id⟩
  refine ⟨fun id row' hr' => ?_, nofun, fun vmId vm hvm hown => ?_, h.events⟩
  · rcases find?_put_cases hr' with ho | ⟨-, rfl⟩
    · exact ⟨(h.jobs id row' ho.2).1, (h.jobs id row' ho.2).2.onward hon⟩
    · exact ⟨(h.jobs job row hr).1, (h.jobs job row hr).2.onward hon⟩
  · rw [Site.isTarget, (s.claimed_deployment job row).1]
    exact h.machines vmId vm hvm hown

/-- A clone is requested only when all earlier ones have failed, and every configuration and start
follows a clone that has ended well and a look at the machine. -/
theorem clone_once_and_complete (cfg : Settings) (d : Deployment) (vms : Table ℕ VM) (moves : Run)
    (hothers : ∀ vmId vm, vms.find? vmId = some vm → vm.cloneTask = none)
    (hok : Transition.Guarded (fun desk m => cloneGuard.ok desk m = true) (plant cfg).step
      ⟨.new d vms, none⟩ moves) :
    Orderly (runFrom cfg (.new d vms) moves).events := by
  have hn : (cloneContract cfg).inv none (.new d vms) := cloning_new d hothers
  have hs : ∀ {job s s' code}, (cloneContract cfg).inv none s → cloneGuard.start job s = true →
      (plant cfg).start job s = some (s', code) →
        (cloneContract cfg).inv (some job) s' ∧ (cloneContract cfg).Verified job code s' := by
    intro job s s' code hi _ hclaim
    obtain ⟨row, hr, -, rfl, rfl⟩ := Site.claim_eq_some hclaim
    have hi' : (cloneContract cfg).inv (some job) (s.claimed job row) := hi.claimed hr
    refine ⟨hi', ?_⟩
    exact (safeCode_executeUnfenced (hi.jobs job row hr).1 row.payload _ hi' trivial).mono
      hi' fun _ _ hi'' _ => hi''
  exact ((cloneContract cfg).guarded_invariant hs hn hok).inv.events

/-! ### A lost worker -/

/-- The submitted clones, each with whether one had already ended well. -/
def Site.clones (s : Site) : List (ℕ × Bool) :=
  s.events.filterMap fun
    | .cloneSubmitted vmId tasks => some (vmId, cloneDone tasks)
    | _ => none

theorem exists_of_mem_clones {done : Bool} (h : (vmId, done) ∈ s.clones) :
    ∃ tasks, .cloneSubmitted vmId tasks ∈ s.events ∧ cloneDone tasks = done := by
  obtain ⟨e, he, heq⟩ := List.mem_filterMap.1 h
  split at heq
  · cases heq
    exact ⟨_, he, rfl⟩
  · cases heq

/-- The machines whose start was requested. -/
def Site.starts (s : Site) : List ℕ :=
  s.events.filterMap fun
    | .startSubmitted vmId .. => some vmId
    | _ => none

def startBlueprint : BlueprintInput where
  deployment := { executor := .proxmox }
  workflow := [plainClone, plainStep "configure" .configureVm ["clone"],
    plainStep "start" .startVm ["configure"]]
  workflowLength := by decide

def startDeployment : Deployment where
  id := "deployment"
  vars := { node := "node", vmId := some 100, templateId := some 9000 }
  blueprint := { steps := startBlueprint.rows }

/-- The clone is accepted, and the worker is lost before it has recorded that.  The clone ends, its
machine is deleted, an operator settles the reservation of the job, and the job is retried up to the
next clone request. -/
def lostAndRetried (ok : Bool) : Run :=
  [.outside (.newJob 1 .proxmoxProvision false false), .start 1] ++ ticks 16
    ++ [.lose true, .outside (.taskEnds 1 ok), .outside (.otherDeletes 100),
      .outside (.reconcileStaleJob 1 2 false), .outside .reconcileReservation,
      .outside (.retryJob 1 2), .start 2] ++ ticks 16

/-- The first clone fails; the second one ends well, and the machine is configured and started. -/
def failedAndRetried : Run :=
  lostAndRetried false ++ [.outside (.taskEnds 2 true)] ++ recoveringTicks 33
    ++ [.outside (.taskEnds 3 true)] ++ recoveringTicks 18

theorem clone_once_and_complete_failedAndRetried :
    (runFrom sampleSettings (.new startDeployment Table.empty) failedAndRetried).clones
        = [(100, false), (100, false)]
      ∧ (runFrom sampleSettings (.new startDeployment Table.empty) failedAndRetried).starts = [100]
      ∧ Orderly (runFrom sampleSettings (.new startDeployment Table.empty)
          failedAndRetried).events :=
  ⟨by decide +kernel, by decide +kernel, clone_once_and_complete sampleSettings startDeployment
    Table.empty failedAndRetried nofun (by decide +kernel)⟩

/-- A clone is requested although one has ended well. -/
theorem clone_repeated :
    startBlueprint.dag = .ok ()
      ∧ ∃ tasks, .cloneSubmitted 100 tasks ∈ (runFrom sampleSettings
          (.new startDeployment Table.empty) (lostAndRetried true)).events
        ∧ cloneDone tasks = true :=
  ⟨by rfl, exists_of_mem_clones (by decide +kernel)⟩

/-! ### The attempt after a failed clone -/

section Retry

/-- Executed alone and without an exception, the code comes to a clone request for a machine. -/
def Requests (cfg : Settings) (job vmId : ℕ) {α : Type} : Code α → Site → Prop
  | .call c k, s => (∃ node, c = .cloneVm node vmId) ∨ ∀ i : Input, i.raises = none →
      Requests cfg job vmId (k (s.handle cfg job c i).2) (s.handle cfg job c i).1
  | _, _ => False

/-- Executed alone and without an exception, the code returns a value. -/
def Yields (cfg : Settings) (job : ℕ) {α : Type} : Code α → Site → α → Site → Prop
  | .pure a, s, b, s' => a = b ∧ s = s'
  | .throw _, _, _, _ => False
  | .call c k, s, b, s' => ∀ i : Input, i.raises = none →
      Yields cfg job (k (s.handle cfg job c i).2) (s.handle cfg job c i).1 b s'

/-- The code never requests a clone. -/
def NoClone {α : Type} : Code α → Prop
  | .call c k => .clone ∉ c.eventKinds ∧ ∀ r, NoClone (k r)
  | _ => True

variable {cfg : Settings} {job vmId : ℕ} {s : Site}

section

variable {α β : Type} {s' : Site} {p : Code α} {f : α → Code β}

theorem NoClone.bind (hp : NoClone p) (hf : ∀ a, NoClone (f a)) : NoClone (p >>= f) := by
  induction p with
  | pure a => exact hf a
  | throw e => trivial
  | call c k ih => exact ⟨hp.1, fun r => ih r (hp.2 r)⟩

theorem closed_noClone : ClosedOn (fun c => .clone ∉ c.eventKinds) NoClone where
  pure := fun _ => trivial
  throw := fun _ => trivial
  bind := NoClone.bind
  tryCatch := fun {_ p h} hp hh => by
    induction p with
    | pure a => trivial
    | throw e => exact hh e
    | call c k ih => exact ⟨hp.1, fun r => ih r (hp.2 r)⟩
  tryFinally' := fun {_ _ p f} hp hf => by
    induction p with
    | pure a => exact (hf (some a)).bind fun _ => trivial
    | throw e => exact (hf none).bind fun _ => trivial
    | call c k ih => exact ⟨hp.1, fun r => ih r (hp.2 r)⟩
  command := fun _ hc => ⟨of_decide_eq_true hc, fun r => by cases r <;> trivial⟩

theorem NoClone.not_requests (h : NoClone p) : ¬Requests cfg job vmId p s := by
  induction p generalizing s with
  | pure a | throw e => exact id
  | call c k ih =>
    rintro (⟨node, rfl⟩ | hr)
    · exact h.1 (by simp)
    · exact ih _ (h.2 _) (hr {} rfl)

/-- What comes behind a part without a request decides. -/
theorem requests_after {a : α} (hno : NoClone p) (hp : Yields cfg job p s a s') :
    Requests cfg job vmId (p >>= f) s ↔ Requests cfg job vmId (f a) s' := by
  induction p generalizing s with
  | pure b =>
    obtain ⟨rfl, rfl⟩ := hp
    rfl
  | throw e => exact hp.elim
  | call c k ih =>
    constructor
    · rintro (⟨node, rfl⟩ | hr)
      · exact absurd (by simp) hno.1
      · exact (ih _ (hno.2 _) (hp {} rfl)).1 (hr {} rfl)
    · exact fun h => .inr fun i hi => (ih _ (hno.2 _) (hp i hi)).2 h

/-- What comes behind without a request does not. -/
theorem requests_bind (hf : ∀ a, NoClone (f a)) :
    Requests cfg job vmId (p >>= f) s ↔ Requests cfg job vmId p s := by
  induction p generalizing s with
  | pure a => exact iff_of_false (hf a).not_requests id
  | throw e => exact Iff.rfl
  | call c k ih => exact or_congr_right (forall₂_congr fun _ _ => ih _)

theorem Requests.tryCatch {f : Raised → Code α} (h : Requests cfg job vmId p s) :
    Requests cfg job vmId (tryCatch p f) s := by
  induction p generalizing s with
  | pure a | throw e => exact h.elim
  | call c k ih => exact h.imp_right fun h i hi => ih _ (h i hi)

theorem Requests.bind (h : Requests cfg job vmId p s) : Requests cfg job vmId (p >>= f) s := by
  induction p generalizing s with
  | pure a | throw e => exact h.elim
  | call c k ih => exact h.imp_right fun h i hi => ih _ (h i hi)

/-- A command with an answer that does not depend on the environment. -/
theorem requests_call {c : Cmd} {a : c.Ans} {f : c.Ans → Code β}
    (hc : .clone ∉ c.eventKinds)
    (h : ∀ i : Input, i.raises = none → s.handle cfg job c i = (s', .ok a)) :
    Requests cfg job vmId (call c >>= f) s ↔ Requests cfg job vmId (f a) s' := by
  refine requests_after (closed_noClone.call (decide_eq_true hc)) fun i hi => ?_
  rw [h i hi]
  exact ⟨rfl, rfl⟩

theorem requests_failIf {cond : Prop} [Decidable cond] {msg : String} {f : Unit → Code β}
    (h : ¬cond) : Requests cfg job vmId (failIf cond msg >>= f) s ↔ Requests cfg job vmId (f ()) s := by
  refine requests_after (closed_failIf closed_noClone) ?_
  rw [failIf, onlyIf, if_neg h]
  exact ⟨rfl, rfl⟩

end

theorem noClone_reads : ClosedOn Cmd.reads NoClone :=
  closed_noClone.mono fun c hc => by
    rw [(Cmd.quiet_of_reads hc).2]
    rfl

theorem noClone_awaitClone (node : String) (upid : ℕ) : NoClone (awaitClone node vmId upid) := by
  have hpoll (polls : ℕ) : NoClone (pollTarget node vmId polls) := by
    induction polls with
    | zero => trivial
    | succ polls ih =>
      refine closed_noClone.seq rfl (closed_noClone.bind
        (closed_noClone.tryCatch (closed_noClone.call rfl) fun _ => trivial) fun status => ?_)
      split
      · trivial
      · exact ih
  exact (closed_waitTask noClone_reads _ upid).bind fun _ =>
    (closed_noClone.run rfl hpoll).bind fun _ => closed_noClone.call rfl

/-- A clone to this id can be requested: the variables are complete, and there is no machine under
the id. -/
structure CloneDue (s : Site) (vmId : ℕ) : Prop where
  machineId : s.deployment.vars.machineId = some vmId
  template : s.deployment.vars.templateId ≠ none
  nodes : ¬(s.deployment.vars.node = ""
    ∨ s.deployment.vars.templateNode.getD s.deployment.vars.node = "")
  gone : s.vms.find? vmId = none

/-- The task of the clone that is recorded for a job. -/
def Job.cloneUpid (row : Job) : Option ℕ := (row.payload.provisionRuntime.getD {}).cloneUpid

/-- With a recorded task `clone` waits for it, whatever became of it. -/
theorem cloneFrom_requests {runtime : ProvisionRuntime} {node : String} :
    Requests cfg job vmId (cloneFrom runtime none node vmId) s ↔ runtime.cloneUpid = none := by
  rw [cloneFrom, if_neg (by simp)]
  cases hupid : runtime.cloneUpid with
  | some upid =>
    refine iff_of_false (NoClone.not_requests ?_) nofun
    exact closed_noClone.seq rfl (closed_noClone.seq rfl (closed_noClone.seq rfl
      (noClone_awaitClone node upid)))
  | none =>
    refine iff_of_true ?_ rfl
    exact (requests_call (by simp) fun i hi => by rw [Site.handle, hi]).2
      ((requests_call (by simp) fun i hi => by rw [Site.handle, hi]).2
        (.bind (.tryCatch (.inl ⟨_, rfl⟩))))

theorem CloneDue.clone (h : CloneDue s vmId) {row : Job} (hr : s.jobs.find? job = some row) :
    Requests cfg job vmId clone s ↔ row.cloneUpid = none := by
  have hvmid : NoClone ensureVmid := by
    refine closed_noClone.run rfl fun vars => ?_
    split
    · trivial
    · exact closed_noClone.run rfl fun _ => closed_noClone.seq rfl trivial
  have hstatus (i : Input) (hi : i.raises = none) :
      s.handle cfg job (.vmStatus s.deployment.vars.node vmId) i
        = (s.observe s.deployment.vars.node vmId, .ok none) := by
    simp [Site.handle, hi, Site.machineAt, h.gone]
  have hpayload : ((s.jobs.find? job).map (·.payload)).getD {} = row.payload := by rw [hr]; rfl
  have hknown : Yields cfg job ensureVmid s vmId s := fun i hi => by
    simp only [Site.handle, Prog.bind, h.machineId]
    exact ⟨rfl, rfl⟩
  refine (requests_call (by simp) fun _ _ => rfl).trans ((requests_after hvmid hknown).trans
    ((requests_failIf h.template).trans ((requests_failIf h.nodes).trans
      ((requests_call (by simp) fun _ _ => rfl).trans ((requests_call (by simp) hstatus).trans ?_)))))
  rw [hpayload]
  exact cloneFrom_requests

/-- An attempt at the step requests the clone if and only if no task is recorded. -/
theorem CloneDue.attempt (h : CloneDue s vmId) {row : Job} (hr : s.jobs.find? job = some row)
    {step : WorkflowStep} (ht : step.type = .cloneVm) (pay : Payload) :
    Requests cfg job vmId (attemptStep (directBody pay) step) s ↔ row.cloneUpid = none := by
  have hnoted : CloneDue (s.note (.stepStarted (s.lineageOf job) s.run step.id)) vmId :=
    ⟨h.machineId, h.template, h.nodes, h.gone⟩
  have hsync : NoClone syncDirectInventory :=
    closed_noClone.run rfl fun m => closed_onlyIf closed_noClone (closed_noClone.bind
      (closed_registerInventory noClone_reads (closed_noClone.call rfl) (closed_noClone.call rfl))
      fun _ => closed_noClone.seq rfl (closed_noClone.seq rfl (closed_noClone.call rfl)))
  refine (requests_call (by simp) fun i hi => by rw [Site.handle, hi]).trans ((requests_bind
    fun _ => closed_noClone.seq rfl (closed_noClone.seq rfl (closed_noClone.call rfl))).trans
      ((requests_call (by simp) fun i hi => by rw [Site.handle, hi]).trans ?_))
  rw [ht]
  exact (requests_bind fun _ => closed_noClone.seq rfl hsync).trans (hnoted.clone hr)

/-- The retry of the job finds the same, and keeps the checkpoint. -/
theorem CloneDue.retried (h : CloneDue s vmId) {row : Job} {id : ℕ}
    (hr : s.jobs.find? job = some row) (hs : row.status = .failed ∨ row.status = .cancelled)
    (haccepts : s.accepts row.operation) (hadmits : s.admits row.operation)
    (hfresh : s.jobs.find? id = none) :
    ∃ new, (s.retryJob job id).jobs.find? id = some new ∧ new.cloneUpid = row.cloneUpid
      ∧ CloneDue ((s.retryJob job id).claimed id new) vmId := by
  have hs' : s.retryJob job id = { s with plan := if row.keepsCheckpoint then s.plan else none }.addJob
      id (row.retried job id s.deployment.status) .queued := by
    simp only [Site.retryJob, hr]
    exact if_pos ⟨hs, haccepts, hadmits, hfresh⟩
  have hn : (s.retryJob job id).jobs.find? id = some (row.retried job id s.deployment.status) := by
    rw [hs']
    exact Table.find?_put_self ..
  refine ⟨_, hn, rfl, ⟨?_, ?_, ?_, ?_⟩⟩
  all_goals first | rw [Site.claimed_deployment .. |>.1, hs'] | rw [hs']
  · exact h.machineId
  · exact h.template
  · exact h.nodes
  · exact h.gone

/-- Where there is no machine under the id, an attempt at the step, of the job or of its retry,
requests the clone if and only if no task is recorded for the job. -/
theorem clone_requested_again (h : CloneDue s vmId) {row : Job} (hrow : s.jobs.find? job = some row)
    {step : WorkflowStep} (htype : step.type = .cloneVm) (payload : Payload) :
    (Requests cfg job vmId (attemptStep (directBody payload) step) s ↔ row.cloneUpid = none)
      ∧ ∀ id, row.status = .failed ∨ row.status = .cancelled → s.accepts row.operation →
        s.admits row.operation → s.jobs.find? id = none →
        ∃ new, (s.retryJob job id).jobs.find? id = some new
          ∧ (Requests cfg id vmId (attemptStep (directBody payload) step)
            ((s.retryJob job id).claimed id new) ↔ row.cloneUpid = none) := by
  refine ⟨h.attempt hrow htype payload, fun id hs haccepted hadmits hfresh => ?_⟩
  obtain ⟨new, hn, hupid, hdue⟩ := h.retried hrow hs haccepted hadmits hfresh
  rw [← hupid]
  exact ⟨new, hn, hdue.attempt (Table.find?_put_self ..) htype payload⟩

/-- A clone has failed; its worker may have recorded the task before it was lost. -/
def failedClone (upid : Option ℕ) : Site where
  deployment := startDeployment
  jobs := Table.empty.put 1 { operation := .proxmoxProvision, status := .failed, lineage := 1,
                              payload := { provisionRuntime := some { cloneUpid := upid } } }
  tasks := Table.empty.put 1 { kind := .clone 100, exit := some false }

def cloneStep : WorkflowStep where
  id := "clone"
  type := .cloneVm
  retry := 1

theorem clone_requested_again_unrecorded :
    Requests sampleSettings 1 100 (attemptStep (directBody {}) cloneStep) (failedClone none)
      ∧ ¬Requests sampleSettings 1 100 (attemptStep (directBody {}) cloneStep) (failedClone (some 1))
      ∧ ∃ new, ((failedClone none).retryJob 1 2).jobs.find? 2 = some new
        ∧ Requests sampleSettings 2 100 (attemptStep (directBody {}) cloneStep)
          (((failedClone none).retryJob 1 2).claimed 2 new) := by
  have h := @clone_requested_again sampleSettings 1 100 (failedClone none)
    ⟨rfl, nofun, by decide, rfl⟩ _ rfl cloneStep rfl {}
  obtain ⟨new, hn, hr⟩ := h.2 2 (.inl rfl) (by decide) (by decide) rfl
  refine ⟨h.1.2 rfl, fun hrequests => ?_, new, hn, hr.2 rfl⟩
  have hnone := (@clone_requested_again sampleSettings 1 100 (failedClone (some 1))
    ⟨rfl, nofun, by decide, rfl⟩ _ rfl cloneStep rfl {}).1.1 hrequests
  cases hnone

def retriedBlueprint : Deployment :=
  { startDeployment with blueprint := { steps := startBlueprint.rows.map ({ · with retry := 1 }) } }

/-- The clone is recorded and fails; the step is tried again, then an operator settles the
reservation of the job and the job is retried. -/
def failedTwice : Run :=
  [.outside (.newJob 1 .proxmoxProvision false false), .start 1] ++ recoveringTicks 20
    ++ [.outside (.taskEnds 1 false)] ++ recoveringTicks 40
    ++ [.outside .reconcileReservation, .outside (.retryJob 1 2), .start 2] ++ recoveringTicks 40

/-- The run of a job and its retry has four attempts at the step and one clone request. -/
theorem failed_clone_not_requested_again :
    let s := runFrom sampleSettings (.new retriedBlueprint Table.empty) failedTwice
    s.clones = [(100, false)] ∧ (s.jobs.find? 2).map (·.status) = some .failed
      ∧ (s.events.filterMap fun
          | .stepStarted _ run step => some (run, step)
          | _ => none) = [(2, "clone"), (2, "clone"), (1, "clone"), (1, "clone")] := by
  decide +kernel

end Retry

end CloudPortal.Execution
