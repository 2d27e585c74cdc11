/-
CloudPortal/Execution/OwnMachines.lean

Whose machines the portal stops and deletes.

`destroy` takes node and id of the machine from the variables of the deployment; it never
asks who made the machine that is there.  That is right as long as only the deployment has
machines at its place, and nothing in the portal can guarantee this: an id that the user
chose is stored without a look at the provider, and other parties create machines at any
time.

* `placeGuard`: others create no machine with the stored id, and an id that is reserved has
  no machine of another party when it is stored.
* `only_own_machines`: then the machine at a place where a stop or a deletion is submitted
  was made by a clone of the deployment.
* `foreign_machine_deleted`: with a chosen id that is taken the clone is refused, and the
  recovery after the failed job deletes the machine of the other party.
-/
import CloudPortal.Execution.StateFreshness
import CloudPortal.Workflow.Order

namespace CloudPortal.Execution

open RowStore Interaction

/-- No machine of another party has this id. -/
def Site.unclaimed (s : Site) (vmId : ℕ) : Bool := (s.vms.find? vmId).all (·.own)

def placeGuard : Plant.Guard Cmd Site Input ℕ Bool Outside where
  tick := fun _ c s i => match c with
    | .reserveVmid => i.raises.isSome || s.unclaimed (Site.chooseVmid i.used)
    | _ => true
  outside := fun m s => match m with
    | .otherCreates vmId _ => s.deployment.vars.machineId ≠ some vmId
    | _ => true

/-! ### The invariant -/

/-- Whatever is at the place of the deployment is its own, and so was everything that was stopped
or deleted. -/
structure OwnPlace (s : Site) : Prop where
  place : ∀ vmId, s.deployment.vars.machineId = some vmId → s.unclaimed vmId
  stopped : ∀ node vmId vm, .stopSubmitted node vmId (some vm) ∈ s.events → vm.own
  deleted : ∀ node vmId vm, .deleteSubmitted node vmId (some vm) ∈ s.events → vm.own

variable {c : Cmd} {node : String} {vm : VM} {vmId : ℕ} {s : Site} {m : Outside}

theorem unclaimed_iff : s.unclaimed vmId = true ↔ ∀ vm, s.vms.find? vmId = some vm → vm.own := by
  unfold Site.unclaimed
  cases s.vms.find? vmId <;> simp

section Frames

variable {parts : List Part} {kinds : List EventKind} {s s' : Site}

/-- A machine that is new at the place of the deployment is its own. -/
theorem OwnPlace.frame (h : OwnPlace s) (hf : Frame parts kinds s s') (hv : .vars ∉ parts)
    (hvms : ∀ vmId vm, s.deployment.vars.machineId = some vmId → s'.vms.find? vmId = some vm →
      vm.own ∨ s.vms.find? vmId = some vm)
    (hstop : .stop ∉ kinds) (hd : .delete ∉ kinds) : OwnPlace s' where
  place := by
    intro vmId hp
    rw [hf.vars hv] at hp
    refine unclaimed_iff.2 fun vm hvm => (hvms vmId vm hp hvm).elim id fun ho => ?_
    exact unclaimed_iff.1 (h.place vmId hp) vm ho
  stopped := fun _ _ _ he => h.stopped _ _ _ (hf.mem_events he hstop)
  deleted := fun _ _ _ he => h.deleted _ _ _ (hf.mem_events he hd)

end Frames

/-! ### Moves -/

theorem endTask_vms {upid : ℕ} {ok : Bool} (h : (s.endTask upid ok).vms.find? vmId = some vm) :
    s.vms.find? vmId = some vm := by
  have herase : ∀ key, (s.vms.erase key).find? vmId = some vm → s.vms.find? vmId = some vm := by
    intro key h
    rw [Table.find?_erase] at h
    split at h
    · cases h
    · exact h
  unfold Site.endTask at h
  split at h
  · exact h
  split at h
  · exact h
  dsimp only at h
  split at h
  · split at h
    · exact herase _ h
    · exact h
  · exact herase _ h
  · exact h

/-- Outside of the worker, only other parties make machines. -/
theorem outside_vms {cfg : Settings} (h : (s.outside cfg m).vms.find? vmId = some vm) :
    (∃ found, s.vms.find? vmId = some found ∧ vm.cloneTask = found.cloneTask ∧ vm.node = found.node)
      ∨ vm.cloneTask = none ∧ m = .otherCreates vmId vm.node := by
  by_cases hvms : .vms ∈ m.parts
  · cases m with
    | taskEnds upid ok => exact .inl ⟨vm, endTask_vms h, rfl, rfl⟩
    | vmRuns key running =>
      simp only [Site.outside] at h
      split at h
      · next found hfound =>
        rw [Table.find?_put] at h
        split at h
        · next hk =>
          cases h
          exact .inl ⟨found, hk ▸ hfound, rfl, rfl⟩
        · exact .inl ⟨vm, h, rfl, rfl⟩
      · exact .inl ⟨vm, h, rfl, rfl⟩
    | otherCreates key node =>
      simp only [Site.outside] at h
      split at h
      · rw [Table.find?_put] at h
        split at h
        · next hk =>
          cases h
          exact .inr ⟨rfl, hk ▸ rfl⟩
        · exact .inl ⟨vm, h, rfl, rfl⟩
      · exact .inl ⟨vm, h, rfl, rfl⟩
    | otherDeletes key =>
      rw [show (s.outside cfg (.otherDeletes key)).vms = s.vms.erase key from rfl,
        Table.find?_erase] at h
      split at h
      · cases h
      · exact .inl ⟨vm, h, rfl, rfl⟩
    | _ => simp at hvms
  · rw [(outside_frame s cfg m).vms hvms] at h
    exact .inl ⟨vm, h, rfl, rfl⟩

theorem outside_place {cfg : Settings} (h : OwnPlace s)
    (ho : placeGuard.outside m s = true) : OwnPlace (s.outside cfg m) := by
  have hkinds : .vars ∉ m.parts ∧ .stop ∉ m.eventKinds ∧ .delete ∉ m.eventKinds := by
    cases m <;> simp
  refine h.frame (outside_frame s cfg m) hkinds.1 (fun vmId vm hp hvm => .inl ?_)
    hkinds.2.1 hkinds.2.2
  rcases outside_vms hvm with ⟨found, hfound, hs, -⟩ | ⟨-, rfl⟩
  · rw [VM.own, hs]
    exact unclaimed_iff.1 (h.place vmId hp) found hfound
  · exact absurd hp (of_decide_eq_true ho)

theorem outside_vars (cfg : Settings) (m : Outside) (s : Site) :
    (s.outside cfg m).deployment.vars = s.deployment.vars :=
  (outside_frame s cfg m).vars (by cases m <;> simp)

def placeContract (cfg : Settings) : (plant cfg).Contract placeGuard where
  inv := fun _ => OwnPlace
  rely := fun _ s s' => s'.deployment.vars = s.deployment.vars
  rely_refl := fun _ _ => rfl
  rely_trans := fun h h' => h'.trans h
  lose := fun h _ => ⟨h.place, h.stopped, h.deleted⟩
  outside := fun h hok => outside_place h hok
  undisturbed := fun _ _ => outside_vars cfg _ _

/-! ### Commands -/

section Code

variable {cfg : Settings} {job : ℕ}

/-- The rules for the code of a job. -/
abbrev placeRules (cfg : Settings) (job : ℕ) : Rules Cmd.Ans Raised Site Input :=
  (placeContract cfg).rules job

variable {s : Site} {key : ℕ}

theorem acceptClone_vms (h : (s.acceptClone node key).1.vms.find? vmId = some vm) :
    s.vms.find? vmId = some vm ∨ vmId = key ∧ vm.node = node ∧ vm.own := by
  have h : (s.vms.put key { node := node, cloneTask := some s.tasks.fresh }).find? vmId
      = some vm := h
  rw [Table.find?_put] at h
  split at h
  · next hk =>
    cases h
    exact .inr ⟨hk, rfl, rfl⟩
  · exact .inl h

variable {i : Input}

/-- The machines that a clone request leaves were there, or are the deployment's own. -/
theorem cloneVm_vms (h : (s.cloneVm node key i).1.vms.find? vmId = some vm) :
    s.vms.find? vmId = some vm ∨ vmId = key ∧ vm.node = node ∧ vm.own := by
  unfold Site.cloneVm at h
  dsimp only at h
  split at h
  · exact .inl h
  split at h
  · exact acceptClone_vms h
  split at h
  · exact acceptClone_vms h
  · exact .inl h

theorem reserveVmid_place (h : OwnPlace s) (ho : s.unclaimed (Site.chooseVmid i.used) = true) :
    OwnPlace (s.reserveVmid i.used).1 := by
  unfold Site.reserveVmid
  split
  · exact h
  refine ⟨fun vmId hp => ?_, h.stopped, h.deleted⟩
  have hchosen : some (Site.chooseVmid i.used) = some vmId := hp
  cases hchosen
  exact ho

/-- The commands that may be made for any machine. -/
def Cmd.harmless : Cmd → Bool
  | .stopVm .. | .deleteVm .. => false
  | _ => true

theorem Cmd.ordinary.harmless (h : c.ordinary = true) : c.harmless = true := by
  cases c <;> first | rfl | cases h

theorem handle_place (hc : c.harmless = true) (h : OwnPlace s)
    (ho : placeGuard.tick job c s i = true) : OwnPlace (Site.handle cfg job c s i).1 := by
  have hf := handle_frame cfg job c s i
  by_cases hv : .vars ∈ c.parts
  · cases c <;> simp at hv
    cases hr : i.raises with
    | some e =>
      simp only [Site.handle, hr]
      exact h
    | none =>
      have ho : (i.raises.isSome || s.unclaimed (Site.chooseVmid i.used)) = true := ho
      simp only [Site.handle, hr]
      exact reserveVmid_place h (by simpa [hr] using ho)
  · have hkinds : .stop ∉ c.eventKinds ∧ .delete ∉ c.eventKinds := by
      cases c <;> simp [Cmd.harmless] at hc ⊢
    refine h.frame hf hv (fun vmId vm _ hvm => ?_) hkinds.1 hkinds.2
    by_cases hvms : .vms ∈ c.parts
    · cases c <;> simp at hvms
      exact (cloneVm_vms hvm).symm.imp_left fun hn => hn.2.2
    · rw [hf.vms hvms] at hvm
      exact .inr hvm

/-- A request for the place of the deployment is a request for a machine of its own. -/
theorem machineAt_own (h : OwnPlace s) (hp : s.deployment.vars.machineId = some vmId)
    (hvm : s.machineAt node vmId = some vm) : vm.own := by
  obtain ⟨hfound, -⟩ := Option.filter_eq_some_iff.1 hvm
  exact unclaimed_iff.1 (h.place vmId hp) vm hfound

theorem machineTask_place (h : OwnPlace s) (node : String) (vmId : ℕ) (kind : TaskKind)
    (i : Input) : OwnPlace (s.machineTask node vmId kind i).1 := by
  have hf : Frame [.tasks] [] s (s.machineTask node vmId kind i).1 := by
    unfold Site.machineTask
    repeat' split
    all_goals exact .of_fields
  refine h.frame hf (by simp) (fun _ vm _ hvm => .inr ?_) (by simp) (by simp)
  rwa [hf.vms (by simp)] at hvm

theorem OwnPlace.note (h : OwnPlace s) {e : Event}
    (hstop : ∀ node vmId vm, e = .stopSubmitted node vmId (some vm) → vm.own)
    (hd : ∀ node vmId vm, e = .deleteSubmitted node vmId (some vm) → vm.own) :
    OwnPlace (s.note e) where
  place := h.place
  stopped := fun node vmId vm he =>
    (List.mem_cons.1 he).elim (fun hn => hstop node vmId vm hn.symm) (h.stopped node vmId vm)
  deleted := fun node vmId vm he =>
    (List.mem_cons.1 he).elim (fun hn => hd node vmId vm hn.symm) (h.deleted node vmId vm)

theorem handle_stopVm (h : OwnPlace s) (hp : s.deployment.vars.machineId = some vmId)
    (i : Input) : OwnPlace (Site.handle cfg job (.stopVm node vmId) s i).1 := by
  have hnoted : OwnPlace (s.note (.stopSubmitted node vmId (s.machineAt node vmId))) :=
    h.note (fun _ _ vm he => machineAt_own h hp (Event.stopSubmitted.inj he).2.2) nofun
  exact machineTask_place hnoted node vmId .other i

theorem handle_deleteVm (h : OwnPlace s) (hp : s.deployment.vars.machineId = some vmId)
    (i : Input) : OwnPlace (Site.handle cfg job (.deleteVm node vmId) s i).1 := by
  have hnoted : OwnPlace (s.note (.deleteSubmitted node vmId (s.machineAt node vmId))) :=
    h.note nofun fun _ _ vm he => machineAt_own h hp (Event.deleteSubmitted.inj he).2.2
  exact machineTask_place hnoted node vmId (.delete vmId) i

/-! ### The deletion -/

/-- The id of the machine of the deployment. -/
def AtPlace (vmId : ℕ) (s : Site) : Prop := s.deployment.vars.machineId = some vmId

/-- A command that leaves the variables alone keeps the place. -/
theorem keepsPlace_call (hv : .vars ∉ c.parts)
    (ho : ∀ s i, OwnPlace s → AtPlace vmId s → placeGuard.tick job c s i = true →
      OwnPlace (Site.handle cfg job c s i).1) :
    (call c).Keeps (placeRules cfg job) (AtPlace vmId) := by
  refine Prog.Keeps.request (fun hr _ h => (congrArg _ hr).trans h) fun s i hi hp hok => ?_
  refine ⟨ho s i hi hp hok, ?_⟩
  show (Site.handle cfg job c s i).1.deployment.vars.machineId = some vmId
  rw [(handle_frame cfg job c s i).vars hv]
  exact hp

theorem keepsPlace_harmless (hc : c.harmless = true) (hv : .vars ∉ c.parts) :
    (call c).Keeps (placeRules cfg job) (AtPlace vmId) :=
  keepsPlace_call hv fun _ _ hi _ ho => handle_place hc hi ho

/-- `identity` names the place of the deployment. -/
theorem identity_place (hi : (placeRules cfg job).inv s) :
    identity.Safe (placeRules cfg job) (fun r s' => ∀ pl, r = .ok pl → AtPlace pl.2 s') s := by
  have hv : (call .vars).Safe (placeRules cfg job)
      (fun r s' => ∀ vars, r = .ok vars → s'.deployment.vars = vars) s :=
    Prog.Safe.request fun s' i _ hi' _ => ⟨hi', fun vars h => Except.ok.inj h⟩
  refine Prog.Safe.bind hi hv (fun vars s' hi' h => ?_) fun _ _ _ _ => nofun
  have hv := h vars rfl
  have hfail : (failIf (vars.node = "") "Proxmox node missing from deployment variables").Safe
      (placeRules cfg job) (fun _ s'' => s''.deployment.vars = vars) s' := by
    unfold failIf onlyIf
    split <;> exact hv
  refine Prog.Safe.bind hi' hfail (fun _ s'' _ h => ?_) fun _ _ _ _ => nofun
  split
  · exact nofun
  next vmId hvmId =>
  rintro _ ⟨⟩
  show s''.deployment.vars.machineId = some vmId
  rw [h, hvmId]

/-- The deletion is safe wherever it stands. -/
theorem safe_destroy : destroy.Keeps (placeRules cfg job) fun _ => True := by
  intro s hi _
  refine Prog.Safe.bind hi (identity_place hi) (fun pl s' hi' h => ?_)
    fun _ _ _ _ => trivial
  have hkeeps : (destroyAt pl.1 pl.2).Keeps (placeRules cfg job) (AtPlace pl.2) :=
    closed_destroyAt ⟨Prog.Keeps.closed _ _, fun c hc => keepsPlace_harmless
        (Cmd.ordinary.harmless (Cmd.ordinary_of_reads hc)) (by rw [(Cmd.quiet_of_reads hc).1]; simp)⟩
      (keepsPlace_harmless rfl (by simp)) (keepsPlace_harmless rfl (by simp))
      (keepsPlace_call (by simp) fun _ i hi hp _ => handle_stopVm hi hp i)
      (keepsPlace_call (by simp) fun _ i hi hp _ => handle_deleteVm hi hp i)
  exact (hkeeps s' hi' (h pl rfl)).mono hi' fun _ _ _ _ => trivial

theorem safe_call (hc : c.harmless = true) : (call c).Keeps (placeRules cfg job) fun _ => True :=
  Prog.Keeps.request (fun _ _ _ => trivial) fun _ _ hi _ ho =>
    ⟨handle_place hc hi ho, trivial⟩

theorem safe_executeUnfenced (op : Operation) (p : Payload) :
    (executeUnfenced op p).Keeps (placeRules cfg job) fun _ => True := by
  have hK : ClosedOn Cmd.ordinary
      fun {α : Type} (code : Code α) => code.Keeps (placeRules cfg job) fun _ => True :=
    ⟨Prog.Keeps.closed _ _, fun c hc => safe_call (Cmd.ordinary.harmless hc)⟩
  exact closed_executeUnfenced hK
    (closed_execute hK (fun _ => safe_call rfl) (safe_call rfl) (safe_call rfl)) safe_destroy
    op p

end Code

/-! ### Runs -/

/-- Where a machine was stopped or deleted, it was one that a clone of the deployment made. -/
theorem only_own_machines (cfg : Settings) (d : Deployment) (vms : Table ℕ VM) (moves : Run)
    (hplace : ∀ vmId, d.vars.machineId = some vmId → vms.find? vmId = none)
    (hok : Transition.Guarded (fun desk m => placeGuard.ok desk m = true) (plant cfg).step
      ⟨.new d vms, none⟩ moves) :
    ∀ node vmId vm,
      .stopSubmitted node vmId (some vm) ∈ (runFrom cfg (.new d vms) moves).events
        ∨ .deleteSubmitted node vmId (some vm) ∈ (runFrom cfg (.new d vms) moves).events →
      vm.own := by
  have hn : (placeContract cfg).inv none (.new d vms) := by
    refine ⟨fun vmId hvmId => unclaimed_iff.2 fun vm hvm => ?_, nofun, nofun⟩
    have hvm : vms.find? vmId = some vm := hvm
    rw [hplace vmId hvmId] at hvm
    cases hvm
  have hs : ∀ {job s s' code}, (placeContract cfg).inv none s → placeGuard.start job s = true →
      (plant cfg).start job s = some (s', code) →
        (placeContract cfg).inv (some job) s' ∧ (placeContract cfg).Verified job code s' := by
    intro job s s' code hi _ hclaim
    obtain ⟨row, -, -, rfl, rfl⟩ := Site.claim_eq_some hclaim
    have hi' : (placeContract cfg).inv (some job) (s.claimed job row) := by
      refine ⟨fun vmId hvmId => hi.place vmId ?_, hi.stopped, hi.deleted⟩
      rwa [(s.claimed_deployment job row).1] at hvmId
    refine ⟨hi', ?_⟩
    exact (safe_executeUnfenced row.operation row.payload _ hi' trivial).mono hi'
      fun _ _ hi'' _ => hi''
  have hi := ((placeContract cfg).guarded_invariant hs hn hok).inv
  rintro node vmId vm (h | h)
  · exact hi.stopped node vmId vm h
  · exact hi.deleted node vmId vm h

/-- The deletions that were submitted. -/
def Site.deletions (s : Site) : List (String × ℕ × Option VM) :=
  s.events.filterMap fun
    | .deleteSubmitted node vmId vm => some (node, vmId, vm)
    | _ => none

theorem mem_deletions {vm : Option VM} :
    (node, vmId, vm) ∈ s.deletions ↔ .deleteSubmitted node vmId vm ∈ s.events := by
  rw [Site.deletions, List.mem_filterMap]
  constructor
  · rintro ⟨e, he, heq⟩
    split at heq
    · cases heq
      exact he
    · cases heq
  · exact fun he => ⟨_, he, rfl⟩

/-- A machine that is cloned without Terraform. -/
def plainClone : BlueprintStep := plainStep "clone" .cloneVm [] (by decide) no_dependencies

def directBlueprint : BlueprintInput where
  deployment := { executor := .proxmox }
  workflow := [plainClone]
  workflowLength := by decide

/-- A deployment with a chosen id; what failed is destroyed. -/
def directDeployment : Deployment where
  id := "deployment"
  vars := { node := "node", vmId := some 100, templateId := some 9000 }
  blueprint := { steps := directBlueprint.rows, destroyOnFailure := true }

/-- The next commands of the worker; a recovery job gets the id 2. -/
def recoveringTicks (count : ℕ) : Run := List.replicate count (.tick { flag := true, number := 2 })

/-- The provisioning comes to its end, then a deletion with `force` is submitted. -/
def provisionAndDestroy : Run :=
  [.outside (.newJob 1 .proxmoxProvision false false), .start 1] ++ recoveringTicks 16
    ++ [.outside (.taskEnds 1 true)] ++ recoveringTicks 31
    ++ [.outside (.newJob 2 .proxmoxDestroy true false), .start 2] ++ recoveringTicks 22

theorem only_own_machines_destroyed :
    ("node", 100, some { node := "node", cloneTask := some 1 })
        ∈ (runFrom sampleSettings (.new directDeployment Table.empty) provisionAndDestroy).deletions
      ∧ ∀ node vmId vm,
          .stopSubmitted node vmId (some vm) ∈ (runFrom sampleSettings
              (.new directDeployment Table.empty) provisionAndDestroy).events
            ∨ .deleteSubmitted node vmId (some vm) ∈ (runFrom sampleSettings
              (.new directDeployment Table.empty) provisionAndDestroy).events →
          vm.own :=
  ⟨by decide +kernel, only_own_machines sampleSettings directDeployment Table.empty
    provisionAndDestroy (fun _ _ => rfl) (by decide +kernel)⟩

/-- The provisioning finds the id taken, and the recovery job gets as far as the deletion. -/
def provisionTaken : Run :=
  [.outside (.newJob 1 .proxmoxProvision false false), .start 1] ++ recoveringTicks 14
    ++ [.start 2] ++ recoveringTicks 10

/-- The machine of another party is deleted. -/
theorem foreign_machine_deleted :
    directBlueprint.dag = .ok ()
      ∧ .deleteSubmitted "node" 100 (some { node := "node" })
        ∈ (runFrom sampleSettings
          (.new directDeployment (Table.empty.put 100 { node := "node" })) provisionTaken).events
      ∧ ¬({ node := "node" } : VM).own :=
  ⟨by rfl, mem_deletions.1 (by decide +kernel), by decide⟩

end CloudPortal.Execution
