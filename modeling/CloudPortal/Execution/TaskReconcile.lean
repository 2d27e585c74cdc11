/-
CloudPortal/Execution/TaskReconcile.lean

Tasks that a provider has ended, and the rows of their VMs:
`app/providers/task_reconcile.py`, for VMs without a deployment.

The dispatcher meets the records of the tasks in any order, and meets a record again if it
could not be deleted.  A row depends on the tasks of its VM alone.  Of these the last one that
creates or removes the row decides, and behind it the last migration, the last name and whether
there is a deletion (`outcome`); migrations, names and deletions commute with each other, but
not with what creates the row (`deleted_vm_active`).
-/
import CloudPortal.Lib.Transition
import Mathlib.Logic.Function.Basic
import Mathlib.Data.Nat.Notation

namespace CloudPortal.Reconcile

open Transition

inductive TaskAction
  | clone | restore | migrate | config | delete | template
  deriving DecidableEq

/-- The record of a task in Redis. -/
structure TaskItem where
  providerId : ℕ
  node : String
  upid : Option String := none
  action : TaskAction
  vmId : Option ℕ := none
  targetNode : Option String := none
  targetVmId : Option ℕ := none
  name : Option String := none
  convertToTemplate : Bool := false
  deriving DecidableEq

inductive LifecycleStatus
  | active | destroyed
  deriving DecidableEq

structure ManagedVm where
  node : String
  name : String
  lifecycleStatus : LifecycleStatus := .active
  deriving DecidableEq

/-- The rows, by provider and VM id. -/
abbrev Rows := ℕ × ℕ → Option ManagedVm

/-- `_live_vm`, as far as the provider answers. -/
structure LiveVm where
  node : Option String := none
  name : Option String := none
  template : Bool := false
  deriving DecidableEq

def TaskItem.creates (item : TaskItem) : Bool := item.action ∈ [.clone, .restore]

def TaskItem.target (item : TaskItem) : String := item.targetNode.getD item.node

/-- The VM whose row a task changes. -/
def TaskItem.vm (item : TaskItem) : Option (ℕ × ℕ) :=
  (if item.creates then item.targetVmId else item.vmId).map (item.providerId, ·)

def TaskItem.change (item : TaskItem) (live : LiveVm) (vmId : ℕ) (row : Option ManagedVm) :
    Option ManagedVm :=
  match item.action with
  | .clone | .restore => some {
      node := live.node.getD item.target
      name := (live.name.or item.name).getD ("vm-" ++ toString vmId) }
  | .migrate => row.map ({ · with node := item.target })
  | .config => row.map fun row => { row with name := item.name.getD row.name }
  | .delete => row.map ({ · with lifecycleStatus := .destroyed })
  | .template => none

/-- `_apply_success`, which raises for a clone without a target. -/
def applySuccess (item : TaskItem) (live : LiveVm) (rows : Rows) : Option Rows :=
  match item.vm with
  | some vm => some (Function.update rows vm (item.change live vm.2 (rows vm)))
  | none => if item.creates then none else some rows

/-- The task that turns a clone into a template. -/
def TaskItem.followUp (item : TaskItem) (upid : Option String) : TaskItem where
  providerId := item.providerId
  node := item.target
  upid := upid
  action := .template
  vmId := item.targetVmId
  name := item.name

structure Dispatcher where
  tracked : List TaskItem
  rows : Rows

inductive Event
  /-- the record of a task that ended OK, what the provider says of the VM, the task of
  `convert_to_template`, and if that one could be tracked -/
  | visit (item : TaskItem) (live : LiveVm) (task : Option String) (stored : Bool)
  /-- the record is deleted -/
  | acknowledge (item : TaskItem)

/-- One round of the loop in `reconcile_proxmox_tasks_once`, with
`_queue_clone_template_follow_up`. -/
def Dispatcher.visit (s : Dispatcher) (item : TaskItem) (live : LiveVm) (task : Option String)
    (stored : Bool) : Dispatcher :=
  match applySuccess item live s.rows with
  | none => s
  | some rows =>
    if item.action = .clone && item.convertToTemplate then
      if live.template || task = none then
        { s with rows := (applySuccess (item.followUp none) live rows).getD rows }
      else if stored then { tracked := item.followUp task :: s.tracked, rows }
      -- the exception rolls the savepoint back
      else s
    else { s with rows }

def Dispatcher.step (s : Dispatcher) : Event → Dispatcher
  | .visit item live task stored => if item ∈ s.tracked then s.visit item live task stored else s
  | .acknowledge item => { s with tracked := s.tracked.filter (· ≠ item) }

/-- The record that is read is there. -/
def Dispatcher.found (s : Dispatcher) : Event → Bool
  | .visit item .. => item ∈ s.tracked
  | .acknowledge _ => true

/-- Apply a task once, with what the provider said. -/
def applied (rows : Rows) (x : TaskItem × LiveVm) : Rows := (applySuccess x.1 x.2 rows).getD rows

/-- The tasks that an event applies. -/
def Event.applies : Event → List (TaskItem × LiveVm)
  | .visit item live task stored =>
    if item.action = .clone && item.convertToTemplate && item.vm.isSome then
      if live.template || task = none then [(item, live), (item.followUp none, live)]
      else if stored then [(item, live)] else []
    else [(item, live)]
  | .acknowledge _ => []

variable {s : Dispatcher} {rows : Rows}

theorem rows_step {e : Event} (h : s.found e = true) :
    (s.step e).rows = e.applies.foldl applied s.rows := by
  cases e with
  | acknowledge item => rfl
  | visit item live task stored =>
    simp only [Dispatcher.step, if_pos (of_decide_eq_true h), Dispatcher.visit, Event.applies]
    cases hvm : item.vm <;> grind [applied, applySuccess, TaskItem.creates]

theorem rows_run {events : List Event}
    (h : Guarded (fun s e => s.found e = true) Dispatcher.step s events) :
    (run Dispatcher.step s events).rows = (events.flatMap Event.applies).foldl applied s.rows := by
  induction events generalizing s with
  | nil => rfl
  | cons e events ih => rw [run_cons, ih h.2, rows_step h.1, List.flatMap_cons, List.foldl_append]

theorem applied_at (x : TaskItem × LiveVm) (vm : ℕ × ℕ) :
    applied rows x vm = if x.1.vm = some vm then x.1.change x.2 vm.2 (rows vm) else rows vm := by
  unfold applied applySuccess
  cases x.1.vm with
  | none => cases x.1.creates <;> rfl
  | some vm' =>
    by_cases h : vm' = vm
    · simp [h]
    · simp [h, Function.update_of_ne (Ne.symm h)]

/-- A row depends on the tasks of its VM. -/
theorem foldl_applied (xs : List (TaskItem × LiveVm)) (vm : ℕ × ℕ) :
    xs.foldl applied rows vm
      = (xs.filter (·.1.vm = some vm)).foldl (fun row x => x.1.change x.2 vm.2 row) (rows vm) := by
  induction xs generalizing rows with
  | nil => rfl
  | cons x xs ih =>
    rw [List.foldl_cons, ih, applied_at, List.filter_cons]
    split <;> simp_all

/-! ### What tasks decide -/

/-- The row is written or removed, whatever it was. -/
def TaskItem.resets (item : TaskItem) : Bool := item.action ∈ [.clone, .restore, .template]

def TaskItem.migratedTo (item : TaskItem) : Option String :=
  if item.action = .migrate then some item.target else none

def TaskItem.renamedTo (item : TaskItem) : Option String :=
  if item.action = .config then item.name else none

/-- What becomes of a row. -/
inductive Outcome
  /-- one that is there keeps what is not given -/
  | changed (node name : Option String) (deleted : Bool)
  | removed
  | created (row : ManagedVm)
  deriving DecidableEq

/-- Another node, name and status for a row. -/
def ManagedVm.revised (row : ManagedVm) (node name : Option String) (deleted : Bool) : ManagedVm where
  node := node.getD row.node
  name := name.getD row.name
  lifecycleStatus := if deleted then .destroyed else row.lifecycleStatus

def Outcome.apply (row : Option ManagedVm) : Outcome → Option ManagedVm
  | .changed node name deleted => row.map (·.revised node name deleted)
  | .removed => none
  | .created row => some row

/-- What the tasks of a VM decide, the latest first: the last one that resets the row, and behind it
the last migration, the last name and if there is a deletion. -/
def outcome (vmId : ℕ) (latest : List (TaskItem × LiveVm)) : Outcome :=
  let behind := latest.takeWhile (!·.1.resets)
  let node := behind.findSome? (·.1.migratedTo)
  let name := behind.findSome? (·.1.renamedTo)
  let deleted := behind.any (·.1.action = .delete)
  match latest.find? (·.1.resets) with
  | none => .changed node name deleted
  | some x =>
    match x.1.change x.2 vmId none with
    | none => .removed
    | some row => .created (row.revised node name deleted)

theorem ManagedVm.revised_revised (row : ManagedVm) (node name node' name' : Option String)
    (deleted deleted' : Bool) :
    (row.revised node name deleted).revised node' name' deleted'
      = row.revised (node'.or node) (name'.or name) (deleted' || deleted) := by
  cases node' <;> cases name' <;> cases deleted' <;> rfl

/-- A task that resets the row makes those before it irrelevant. -/
theorem outcome_cons_of_resets {x : TaskItem × LiveVm} {latest : List (TaskItem × LiveVm)}
    (h : x.1.resets) (vmId : ℕ) (row : Option ManagedVm) :
    (outcome vmId (x :: latest)).apply row = x.1.change x.2 vmId none := by
  simp only [outcome, List.find?_cons, List.takeWhile_cons, h, Bool.not_true]
  cases x.1.change x.2 vmId none <;> rfl

/-- Another one revises what they decide. -/
theorem outcome_cons {x : TaskItem × LiveVm} {latest : List (TaskItem × LiveVm)}
    (h : x.1.resets = false) (vmId : ℕ) (row : Option ManagedVm) :
    (outcome vmId (x :: latest)).apply row
      = ((outcome vmId latest).apply row).map
        (·.revised x.1.migratedTo x.1.renamedTo (x.1.action = .delete)) := by
  have hfirst (f : TaskItem × LiveVm → Option String) (xs : List (TaskItem × LiveVm)) :
      (x :: xs).findSome? f = (f x).or (xs.findSome? f) := by
    rw [List.findSome?_cons]
    cases f x <;> rfl
  simp only [outcome, List.find?_cons, List.takeWhile_cons, h, Bool.not_false, if_true, hfirst,
    List.any_cons]
  cases latest.find? (·.1.resets) with
  | none => simp [Outcome.apply, Function.comp_def, ManagedVm.revised_revised]
  | some reset =>
    dsimp only
    cases reset.1.change reset.2 vmId none with
    | none => rfl
    | some written => simp [Outcome.apply, ManagedVm.revised_revised]

theorem change_of_resets {item : TaskItem} (h : item.resets) (live : LiveVm) (vmId : ℕ)
    (row : Option ManagedVm) : item.change live vmId row = item.change live vmId none := by
  cases ha : item.action <;> simp_all [TaskItem.resets, TaskItem.change]

theorem change_of_not_resets {item : TaskItem} (h : item.resets = false) (live : LiveVm) (vmId : ℕ)
    (row : Option ManagedVm) :
    item.change live vmId row
      = row.map (·.revised item.migratedTo item.renamedTo (item.action = .delete)) := by
  cases ha : item.action <;>
    simp_all [TaskItem.resets, TaskItem.change, TaskItem.migratedTo, TaskItem.renamedTo,
      ManagedVm.revised]

/-- The tasks of a VM do what they decide. -/
theorem foldr_change (vmId : ℕ) (row : Option ManagedVm) (latest : List (TaskItem × LiveVm)) :
    latest.foldr (fun x row => x.1.change x.2 vmId row) row
      = (outcome vmId latest).apply row := by
  induction latest with
  | nil => cases row <;> rfl
  | cons x latest ih =>
    rw [List.foldr_cons, ih]
    cases h : x.1.resets with
    | true => rw [outcome_cons_of_resets h, change_of_resets h]
    | false => rw [outcome_cons h, change_of_not_resets h]

/-- Outcomes that give the same for every row are the same. -/
theorem Outcome.eq_of_apply {o o' : Outcome} (h : ∀ row, o.apply row = o'.apply row) : o = o' := by
  -- no row, and two rows that differ in node and name
  have hnone := h none
  have hsome := h (some ⟨"", "", .active⟩)
  have hother := h (some ⟨"x", "x", .active⟩)
  cases o <;> cases o' <;>
    simp only [Outcome.apply, Option.map_none, Option.map_some, ManagedVm.revised, Option.some.injEq,
      ManagedVm.mk.injEq, reduceCtorEq] at hnone hsome hother
  case changed.changed node name deleted node' name' deleted' =>
    have heq {x x' : Option String} (h : x.getD "" = x'.getD "") (h' : x.getD "x" = x'.getD "x") :
        x = x' := by
      cases x <;> cases x' <;> simp_all
    have hdeleted : deleted = deleted' := by
      cases deleted <;> cases deleted' <;> simp_all
    rw [heq hsome.1 hother.1, heq hsome.2.1 hother.2.1, hdeleted]
  case removed.removed => rfl
  case created.created => rw [hnone]

/-- The tasks of a VM, the latest first. -/
def latestOf (vm : ℕ × ℕ) (xs : List (TaskItem × LiveVm)) : List (TaskItem × LiveVm) :=
  (xs.filter (·.1.vm = some vm)).reverse

theorem foldl_applied_eq (xs : List (TaskItem × LiveVm)) (vm : ℕ × ℕ) :
    xs.foldl applied rows vm = (outcome vm.2 (latestOf vm xs)).apply (rows vm) := by
  rw [foldl_applied, ← foldr_change, latestOf, List.foldr_reverse]

/-- **Reconciliation converges**, whatever rows it begins with, exactly if for each VM the tasks
that were applied decide what those that finished do. -/
theorem reconcile_converges {tracked : List TaskItem} {events : List Event}
    {finished : List (TaskItem × LiveVm)}
    (hfound : ∀ rows, Guarded (fun s e => s.found e = true) Dispatcher.step ⟨tracked, rows⟩ events) :
    (∀ rows, (run Dispatcher.step ⟨tracked, rows⟩ events).rows = finished.foldl applied rows)
      ↔ ∀ vm, outcome vm.2 (latestOf vm (events.flatMap Event.applies))
        = outcome vm.2 (latestOf vm finished) := by
  simp only [fun rows => rows_run (hfound rows)]
  constructor
  · intro h vm
    refine Outcome.eq_of_apply fun row => ?_
    have hvm := congrFun (h fun _ => row) vm
    rwa [foldl_applied_eq, foldl_applied_eq] at hvm
  · intro h rows
    funext vm
    rw [foldl_applied_eq, foldl_applied_eq, h]

def cloneTask : TaskItem where
  providerId := 1
  node := "pve1"
  action := .clone
  targetVmId := some 100

def deleteTask : TaskItem := { cloneTask with action := .delete, vmId := some 100 }

def migrateTask : TaskItem :=
  { cloneTask with action := .migrate, vmId := some 100, targetNode := some "pve2" }

def configTask : TaskItem :=
  { cloneTask with action := .config, vmId := some 100, name := some "db" }

/-- The name is met before the migration, which is met again behind it. -/
theorem reconcile_converges_reordered :
    (run Dispatcher.step ⟨[migrateTask, configTask, cloneTask], fun _ => none⟩
      [.visit cloneTask {} none true, .acknowledge cloneTask, .visit configTask {} none true,
        .visit migrateTask {} none true, .visit configTask {} none true,
        .visit migrateTask {} none true]).rows
      = [(cloneTask, {}), (migrateTask, {}), (configTask, {})].foldl applied fun _ => none := by
  refine (reconcile_converges fun rows => ?_).2 (fun vm => ?_) _
  · exact ⟨rfl, rfl, rfl, rfl, rfl, rfl, trivial⟩
  · by_cases h : ((1, 100) : ℕ × ℕ) = vm
    · subst h
      decide
    · simp [Event.applies, latestOf, TaskItem.vm, TaskItem.creates, cloneTask, migrateTask,
        configTask, h]

/-- The record of the deletion is met first. -/
theorem deleted_vm_active :
    (run Dispatcher.step ⟨[deleteTask, cloneTask], fun _ => none⟩
      [.visit deleteTask {} none true, .visit cloneTask {} none true]).rows (1, 100)
        = some ⟨"pve1", "vm-100", .active⟩
      ∧ [(cloneTask, {}), (deleteTask, {})].foldl applied (fun _ => none) (1, 100)
        = some ⟨"pve1", "vm-100", .destroyed⟩ := by
  decide

end CloudPortal.Reconcile
