/-
CloudPortal/Execution/StateFreshness.lean

The Terraform state of a deployment has two copies: the file of the workspace, which
Terraform writes, and the stored row.  Every execution starts by copying the row over the
file (`restore_state`) and ends by copying the file into the row (`persist_state`).  The
file is therefore the newer copy for as long as an execution lasts, and an execution that
ends without its second copy makes the next one plan with a state that is too old.

* `stateGuard`: workers are lost, and the second copy fails, only while the two copies agree
  or no row is stored; a process that was left behind writes only while no row is stored.
* `state_is_latest`: then every Terraform command is started with the state that
  Terraform wrote last.
* `state_goes_backwards`: an apply that is stopped at its deadline is not copied, because
  the first thing before the copy is another look at the deadline.
-/
import CloudPortal.Execution.Closure

namespace CloudPortal.Execution

open RowStore Interaction

/-- The state of the workspace is the stored one, or none is stored. -/
def Site.settled (s : Site) : Bool :=
  s.state.all fun row => s.workspace.tfstate = some row.encryptedState.value

/-- The state of the workspace can be stored. -/
def Site.storable (s : Site) : Bool :=
  s.workspace.tfstate.all (·.length ≤ maxStateBytes)

def stateGuard : Plant.Guard Cmd Site Input ℕ Bool Outside where
  tick := fun _ c s i => match c with
    | .stage action => action ≠ "terraform.state.persist" || i.raises.isNone || s.settled
    | .persistState => i.raises.isNone && s.storable || s.settled
    | _ => true
  lose := fun _ _ s => s.settled
  outside := fun m s => match m with
    | .abandonedWrites _ => s.state.isNone
    | _ => true

/-! ### The invariant -/

/-- The workspace has the latest state, and only such states were used. -/
structure Current (s : Site) : Prop where
  tfstate : s.workspace.tfstate = s.latest
  backed : s.state.isSome → s.latest.isSome
  uses : ∀ command tfstate latest, .usedState command tfstate latest ∈ s.events → tfstate = latest

/-- No process runs, and the stored state is the latest. -/
structure Rested (s : Site) : Prop where
  stored : ∀ row, s.state = some row → s.latest = some row.encryptedState.value
  idle : s.process = none

section Frames

variable {parts : List Part} {kinds : List EventKind} {s s' : Site}

theorem Current.frame (h : Current s) (hf : Frame parts kinds s s') (ht : .state ∉ parts)
    (htfs : .tfstate ∉ parts) (hl : .latest ∉ parts) (hkinds : .usedState ∉ kinds) :
    Current s' where
  tfstate := by rw [hf.tfstate htfs, hf.latest hl]; exact h.tfstate
  backed := by rw [hf.state ht, hf.latest hl]; exact h.backed
  uses := fun _ _ _ he => h.uses _ _ _ (hf.mem_events he hkinds)

theorem Rested.frame (h : Rested s) (hf : Frame parts kinds s s') (ht : .state ∉ parts)
    (hl : .latest ∉ parts) (hp : .process ∉ parts) : Rested s' where
  stored := by rw [hf.state ht, hf.latest hl]; exact h.stored
  idle := by rw [hf.process hp]; exact h.idle

end Frames

theorem Current.write {s : Site} (h : Current s) (raw : Bytes) : Current (s.writeState raw) where
  tfstate := rfl
  backed := fun _ => rfl
  uses := h.uses

/-- Where the copies agree, the stored state is the latest. -/
theorem Current.rested {s : Site} (h : Current s) (hset : s.settled)
    (hi : s.process = none) : Rested s where
  stored := by
    intro row hr
    rw [Site.settled, hr, Option.all_some] at hset
    rw [← h.tfstate]
    exact of_decide_eq_true hset
  idle := hi

/-! ### Moves -/

/-- What a worker can rely on: others leave the stored state and its process alone, and without
a process also the latest state, if one is stored. -/
structure StateRely (s s' : Site) : Prop where
  state : s'.state = s.state
  process : s'.process = s.process
  latest : s.process = none → s.state.isSome → s'.latest = s.latest

theorem StateRely.rested {s s' : Site} (h : StateRely s s') (hr : Rested s) : Rested s' where
  stored := by
    intro row hrow
    rw [h.state] at hrow
    rw [h.latest hr.idle (by rw [hrow]; rfl)]
    exact hr.stored row hrow
  idle := h.process.trans hr.idle

theorem outside_state {cfg : Settings} {m : Outside} {s : Site} (h : Current s)
    (ho : stateGuard.outside m s = true) :
    Current (s.outside cfg m) ∧ StateRely s (s.outside cfg m) := by
  have hf := outside_frame s cfg m
  by_cases hwr : .latest ∈ m.parts
  · cases m with
    | terraformWrites raw =>
      by_cases hrun : s.process.any (· ≠ .plan) = true
      · rw [show s.outside cfg (.terraformWrites raw) = s.writeState raw from if_pos hrun]
        refine ⟨h.write raw, rfl, rfl, fun hi => ?_⟩
        rw [hi] at hrun
        cases hrun
      · rw [show s.outside cfg (.terraformWrites raw) = s from if_neg hrun]
        exact ⟨h, rfl, rfl, fun _ _ => rfl⟩
    | abandonedWrites raw =>
      have hn : s.state.isNone = true := ho
      by_cases hrun : s.abandoned = true
      · rw [show s.outside cfg (.abandonedWrites raw) = s.writeState raw from if_pos hrun]
        refine ⟨h.write raw, rfl, rfl, fun _ hs => ?_⟩
        rw [Option.isNone_iff_eq_none.1 hn] at hs
        cases hs
      · rw [show s.outside cfg (.abandonedWrites raw) = s from if_neg hrun]
        exact ⟨h, rfl, rfl, fun _ _ => rfl⟩
    | _ => simp at hwr
  · -- no other move touches the state, its copies or the process
    have hr : .state ∉ m.parts ∧ .tfstate ∉ m.parts ∧ .process ∉ m.parts
        ∧ .usedState ∉ m.eventKinds := by
      cases m <;> simp at hwr ⊢
    obtain ⟨ht, htfs, hp, hkinds⟩ := hr
    exact ⟨h.frame hf ht htfs hwr hkinds, hf.state ht, hf.process hp, fun _ _ => hf.latest hwr⟩

def stateContract (cfg : Settings) : (plant cfg).Contract stateGuard where
  inv := fun job s => Current s ∧ (job = none → Rested s)
  rely := fun _ => StateRely
  rely_refl := fun _ _ => ⟨rfl, rfl, fun _ _ => rfl⟩
  rely_trans := fun h h' => ⟨h'.state.trans h.state, h'.process.trans h.process, fun hp hs =>
    (h'.latest (h.process.trans hp) (by rwa [h.state])).trans (h.latest hp hs)⟩
  lose := by
    rintro job survives s ⟨hcurr, -⟩ hset
    have hlost : Current (s.lose survives) := ⟨hcurr.tfstate, hcurr.backed, hcurr.uses⟩
    exact ⟨hlost, fun _ => hlost.rested hset rfl⟩
  outside := by
    rintro job m s ⟨hcurr, hres⟩ hok
    obtain ⟨hcurr', hrely⟩ : Current (s.outside cfg m) ∧ StateRely s (s.outside cfg m) :=
      outside_state hcurr hok
    exact ⟨hcurr', fun hnone => hrely.rested (hres hnone)⟩
  undisturbed := fun h hok => (outside_state h.1 hok).2

/-! ### Commands -/

variable {c : Cmd}

section Code

variable {cfg : Settings} {job : ℕ}

/-- The rules for the code of a job. -/
abbrev stateRules (cfg : Settings) (job : ℕ) : Rules Cmd.Ans Raised Site Input :=
  (stateContract cfg).rules job

theorem rested_stable : (stateRules cfg job).Stable Rested := fun hr _ h => hr.rested h

/-- The commands that have nothing to do with the state. -/
def Cmd.leavesState : Cmd → Bool
  | .restoreState | .persistState | .popen _ | .wait => false
  | _ => true

theorem Cmd.quiet.leavesState (h : c.quiet) : c.leavesState = true := by
  obtain ⟨hparts, -⟩ := h
  cases c <;> first | rfl | exact absurd hparts (by simp)

theorem Cmd.leavesState.frame (h : c.leavesState = true) :
    .state ∉ c.parts ∧ .tfstate ∉ c.parts ∧ .latest ∉ c.parts ∧ .process ∉ c.parts
      ∧ .usedState ∉ c.eventKinds := by
  cases c <;> simp [Cmd.leavesState] at h ⊢

variable {s : Site}

theorem handle_leavesState (h : c.leavesState = true) (cfg : Settings) (job : ℕ) (i : Input) :
    (Current s → Current (Site.handle cfg job c s i).1)
      ∧ (Rested s → Rested (Site.handle cfg job c s i).1)
      ∧ (Site.handle cfg job c s i).1.process = s.process := by
  have hf := handle_frame cfg job c s i
  obtain ⟨ht, htfs, hl, hp, hkinds⟩ := Cmd.leavesState.frame h
  exact ⟨fun hs => hs.frame hf ht htfs hl hkinds,
    fun hs => hs.frame hf ht hl hp, hf.process hp⟩

/-- What `restore_state` writes is the stored state. -/
theorem readState_value {row : TerraformState} {raw : Bytes} (h : s.readState cfg row = .ok raw) :
    raw = row.encryptedState.value := by
  unfold Site.readState at h
  split at h
  · cases h
  next value hv =>
  have hv : row.encryptedState.value = value := by
    unfold decryptBlob at hv
    split at hv
    · exact Option.some.inj hv
    · cases hv
  split at h
  · cases h
  split at h
  · cases h
  cases h
  exact hv.symm

/-- The first copy: where the stored state is the latest, it may be copied. -/
theorem handle_restoreState (hc : Current s) (hres : Rested s) (i : Input) :
    Current (Site.handle cfg job .restoreState s i).1
      ∧ Rested (Site.handle cfg job .restoreState s i).1 := by
  cases hraises : i.raises with
  | some e =>
    simp only [Site.handle, hraises]
    exact ⟨hc, hres⟩
  | none =>
    simp only [Site.handle, hraises]
    unfold Site.restoreState
    split
    · exact ⟨hc, hres⟩
    next row hr =>
    split
    · exact ⟨hc, hres⟩
    next raw hraw =>
    refine ⟨⟨?_, hc.backed, hc.uses⟩, hres.stored, hres.idle⟩
    show some raw = s.latest
    rw [hres.stored row hr, readState_value hraw]

/-- The second copy: it leaves the stored state the latest one, unless it fails. -/
theorem handle_persistState (hc : Current s) (hi : s.process = none) {i : Input}
    (ho : stateGuard.tick job .persistState s i = true) :
    Current (Site.handle cfg job .persistState s i).1
      ∧ Rested (Site.handle cfg job .persistState s i).1 := by
  have ho : (i.raises.isNone && s.storable || s.settled) = true := ho
  have hfails : i.raises.isSome ∨ ¬s.storable → Current s ∧ Rested s := by
    intro hfails
    refine ⟨hc, hc.rested ?_ hi⟩
    cases hraises : i.raises <;> simp_all
  cases hraises : i.raises with
  | some e =>
    simp only [Site.handle, hraises]
    exact hfails (.inl (by rw [hraises]; rfl))
  | none =>
    simp only [Site.handle, hraises]
    unfold Site.persistState
    split
    · next hn =>
      refine ⟨hc, fun row hr => ?_, hi⟩
      have hl := hc.backed (by rw [hr]; rfl)
      rw [← hc.tfstate, hn] at hl
      cases hl
    next raw hraw =>
    split
    · next hlarge => exact hfails (.inr (by rw [Site.storable, hraw]; simpa using hlarge))
    have hl : s.latest = some raw := hc.tfstate.symm.trans hraw
    refine ⟨⟨hc.tfstate, fun _ => by rw [hl]; rfl, hc.uses⟩, ?_, hi⟩
    rintro row ⟨⟩
    exact hl

theorem handle_popen (hc : Current s) (command : TerraformCommand) (i : Input) :
    Current (Site.handle cfg job (.popen command) s i).1 := by
  cases hr : i.raises with
  | some e =>
    simp only [Site.handle, hr]
    exact hc
  | none =>
    simp only [Site.handle, hr]
    have hf : Frame [.process] [.usedState, .applied] s (s.popen job command) := by
      unfold Site.popen
      split <;> exact .of_fields
    refine ⟨?_, ?_, fun command' tfstate latest he => ?_⟩
    · rw [hf.tfstate (by simp), hf.latest (by simp)]
      exact hc.tfstate
    · rw [hf.state (by simp), hf.latest (by simp)]
      exact hc.backed
    have hused : .usedState command' tfstate latest
        ∈ .usedState command s.workspace.tfstate s.latest :: s.events := by
      unfold Site.popen at he
      dsimp only at he
      split at he
      · exact (List.mem_cons.1 he).resolve_left nofun
      · exact he
    rcases List.mem_cons.1 hused with hn | ho
    · cases hn
      exact hc.tfstate
    · exact hc.uses _ _ _ ho

/-! ### The executor -/

theorem keepsRested_call (h : c.leavesState = true) :
    (call c).Keeps (stateRules cfg job) Rested := by
  refine Prog.Keeps.request rested_stable fun s i hi hr _ => ?_
  obtain ⟨hc, hk, -⟩ := handle_leavesState h cfg job i
  exact ⟨⟨hc hi.1, nofun⟩, hk hr⟩

theorem keepsRested_restoreState : (call .restoreState).Keeps (stateRules cfg job) Rested := by
  refine Prog.Keeps.request rested_stable fun s i hi hr _ => ?_
  obtain ⟨hc, hk⟩ := handle_restoreState hi.1 hr i
  exact ⟨⟨hc, nofun⟩, hk⟩

theorem keepsIdle_call (h : c.leavesState = true) :
    (call c).Keeps (stateRules cfg job) fun s => s.process = none := by
  refine Prog.Keeps.request (fun hr _ h => hr.process.trans h) fun s i hi hidle _ => ?_
  obtain ⟨hc, -, hp⟩ := handle_leavesState h cfg job i
  exact ⟨⟨hc hi.1, nofun⟩, hp.trans hidle⟩

/-- A process does not outlive `run_process`. -/
theorem keepsIdle_runProcess (command : TerraformCommand) :
    (runProcess command).Keeps (stateRules cfg job) fun s => s.process = none := by
  refine Prog.Keeps.bind (keepsIdle_call rfl) fun _ s hi hidle => ?_
  have hpopen : (call (.popen command)).Safe (stateRules cfg job)
      (fun r s' => ∀ e, r = .error e → s'.process = none) s := by
    refine Prog.Safe.request fun s' i hr hi' _ =>
      ⟨⟨handle_popen hi'.1 command i, nofun⟩, fun e he => ?_⟩
    -- a process that could not be started is not there
    have he : (Site.handle cfg job (.popen command) s' i).2 = .error e := he
    show (Site.handle cfg job (.popen command) s' i).1.process = none
    cases hraises : i.raises with
    | some e' =>
      simp only [Site.handle, hraises]
      exact hr.process.trans hidle
    | none => simp [Site.handle, hraises] at he
  refine Prog.Safe.bind hi hpopen (fun _ s' hi' _ => ?_) fun e _ _ h => h e rfl
  refine Prog.Safe.request fun s'' i _ hi'' _ => ?_
  have hf : Frame [.process, .tfplan] [] s'' (s''.endProcess i) := by
    simp only [Site.endProcess]
    split <;> exact .of_fields
  refine ⟨⟨hi''.1.frame hf (by simp) (by simp) (by simp) (by simp), nofun⟩, ?_⟩
  show (s''.endProcess i).process = none
  unfold Site.endProcess
  dsimp only
  split <;> rfl

/-- Without a state in the workspace none is stored. -/
theorem Current.rested_of_none (h : Current s) (hn : s.workspace.tfstate = none)
    (hi : s.process = none) : Rested s where
  stored := by
    intro row hr
    have hl := h.backed (by rw [hr]; rfl)
    rw [← h.tfstate, hn] at hl
    cases hl
  idle := hi

/-- The second copy either takes place or is not needed. -/
theorem storeState_rested (hi : (stateRules cfg job).inv s) (hidle : s.process = none) :
    storeState.Safe (stateRules cfg job) (fun _ s' => Rested s') s := by
  have hstage : (stage "terraform.state.persist").Safe (stateRules cfg job)
      (fun r s' => s'.process = none ∧ ∀ e, r = .error e → Rested s') s := by
    refine Prog.Safe.request fun s' i hrely hi' ho => ?_
    have hidle' : s'.process = none := hrely.process.trans hidle
    have hs : (Site.handle cfg job (.stage "terraform.state.persist") s' i).1 = s' :=
      handle_quiet ⟨rfl, rfl⟩ cfg job s' i
    show (stateRules cfg job).inv (Site.handle cfg job _ s' i).1
      ∧ (Site.handle cfg job _ s' i).1.process = none
      ∧ ∀ e, (Site.handle cfg job _ s' i).2 = .error e → Rested (Site.handle cfg job _ s' i).1
    rw [hs]
    refine ⟨hi', hidle', fun e he => hi'.1.rested ?_ hidle'⟩
    have ho : (decide ("terraform.state.persist" ≠ "terraform.state.persist")
        || i.raises.isNone || s'.settled) = true := ho
    cases hraises : i.raises with
    | some _ => simpa [hraises] using ho
    | none => simp [Site.handle, hraises] at he
  refine Prog.Safe.bind hi hstage (fun _ s' hi' h => ?_) fun e _ _ h => h.2 e rfl
  have hpersist : (call .persistState).Safe (stateRules cfg job) (fun _ s' => Rested s') s' := by
    refine Prog.Safe.request fun s'' i hrely hi'' ho => ?_
    obtain ⟨hc, hr⟩ :=
      handle_persistState hi''.1 (hrely.process.trans h.1) ho
    exact ⟨⟨hc, by simp⟩, hr⟩
  exact Prog.Safe.bind hi' hpersist (fun _ _ _ h => h) fun _ _ _ h => h

/-- The `finally` of an execution. -/
theorem keepState_rested (op : Operation) (keepPlan : Bool)
    (hi : (stateRules cfg job).inv s) (hidle : s.process = none) :
    (keepState op keepPlan).Safe (stateRules cfg job) (fun _ s' => Rested s') s := by
  have hunlink : (onlyIf (¬(op = .terraformPlan ∧ keepPlan)) (call .unlinkPlan)).Safe
      (stateRules cfg job) (fun r s' => s'.process = none ∧ r = .ok ()) s := by
    unfold onlyIf
    split
    · refine Prog.Safe.request fun s' i hrely hi' _ => ?_
      obtain ⟨hc, -, hp⟩ :=
        handle_leavesState (c := .unlinkPlan) rfl cfg job i
      exact ⟨⟨hc hi'.1, nofun⟩, hp.trans (hrely.process.trans hidle), rfl⟩
    · exact ⟨hidle, rfl⟩
  have hexists : ∀ s, s.process = none → (call .stateExists).Safe (stateRules cfg job)
      (fun r s' => s'.process = none ∧ (r = .ok true ∨ r = .ok false ∧ Rested s')) s := by
    intro s hidle
    refine Prog.Safe.request fun s' i hrely hi' _ => ⟨hi', hrely.process.trans hidle, ?_⟩
    cases htfs : s'.workspace.tfstate with
    | some raw => exact .inl (congrArg Except.ok (by rw [htfs]; rfl))
    | none =>
      exact .inr ⟨congrArg Except.ok (by rw [htfs]; rfl),
        hi'.1.rested_of_none htfs (hrely.process.trans hidle)⟩
  refine Prog.Safe.bind hi hunlink (fun _ s₁ hi₁ h₁ => ?_) fun _ _ _ h => nomatch h.2
  refine Prog.Safe.bind hi₁ (hexists s₁ h₁.1) (fun there s₂ hi₂ h₂ => ?_) fun _ _ _ h => ?_
  · have hstore : (onlyIf there storeState).Safe (stateRules cfg job)
        (fun _ s' => Rested s') s₂ := by
      obtain ⟨hidle₂, hthere | ⟨hthere, hr⟩⟩ := h₂
      · cases hthere
        exact storeState_rested hi₂ hidle₂
      · cases hthere
        exact hr
    exact Prog.Safe.bind hi₂ hstore (fun _ s₃ hinv₃ h₃ => keepsRested_call rfl s₃ hinv₃ h₃)
      fun _ _ _ h => h
  · obtain ⟨-, h | ⟨h, -⟩⟩ := h <;> cases h

theorem keepsRested_execute (op : Operation) (keepPlan applySaved : Bool) :
    (execute op keepPlan applySaved).Keeps (stateRules cfg job) Rested := by
  have hterraform : (runTerraform op applySaved).Keeps (stateRules cfg job)
      fun s => s.process = none :=
    closed_runTerraform ⟨Prog.Keeps.closed _ _, fun c hc => keepsIdle_call
      (Cmd.quiet_of_reads hc).leavesState⟩ keepsIdle_runProcess (keepsIdle_call rfl) op
      applySaved
  refine .bind (keepsRested_call rfl) fun _ => .bind (keepsRested_call rfl) fun _ =>
    .bind keepsRested_restoreState fun _ => .bind (keepsRested_call rfl) fun _ s hi hr => ?_
  refine Prog.Safe.bind hi (Prog.Safe.tryFinally hi (hterraform s hi hr.idle) fun _ s' hi' hidle =>
      keepState_rested op keepPlan hi' hidle)
    (fun _ _ _ h => h) fun _ _ _ h => h

/-- The worker of any job leaves the stored state the latest one. -/
theorem keepsRested_executeUnfenced (op : Operation) (p : Payload) :
    (executeUnfenced op p).Keeps (stateRules cfg job) Rested := by
  have hK : ClosedOn Cmd.ordinary
      fun {α : Type} (code : Code α) => code.Keeps (stateRules cfg job) Rested := by
    refine ⟨Prog.Keeps.closed _ _, fun c hc => ?_⟩
    by_cases ht : c.leavesState = true
    · exact keepsRested_call ht
    cases c <;> simp [Cmd.ordinary, Cmd.leavesState] at hc ht
    exact keepsRested_restoreState
  exact closed_executeUnfenced hK keepsRested_execute (closed_destroy hK
    (fun _ _ => keepsRested_call rfl) fun _ _ => keepsRested_call rfl) op p

end Code

/-! ### Runs -/

/-- A deployment that nothing was done with yet. -/
def Site.new (d : Deployment) (vms : Table ℕ VM) : Site := { deployment := d, vms := vms }

/-- Every Terraform command is started with the state that Terraform wrote last. -/
theorem state_is_latest (cfg : Settings) (d : Deployment) (vms : Table ℕ VM) (moves : Run)
    (hok : Transition.Guarded (fun desk m => stateGuard.ok desk m = true) (plant cfg).step
      ⟨.new d vms, none⟩ moves) :
    ∀ command tfstate latest,
      .usedState command tfstate latest ∈ (runFrom cfg (.new d vms) moves).events →
        tfstate = latest := by
  have hn : (stateContract cfg).inv none (.new d vms) :=
    ⟨⟨rfl, nofun, nofun⟩, fun _ => ⟨nofun, rfl⟩⟩
  have hs : ∀ {job s s' code}, (stateContract cfg).inv none s → stateGuard.start job s = true →
      (plant cfg).start job s = some (s', code) →
        (stateContract cfg).inv (some job) s' ∧ (stateContract cfg).Verified job code s' := by
    intro job s s' code hi _ hclaim
    obtain ⟨row, -, -, rfl, rfl⟩ := Site.claim_eq_some hclaim
    have hr := hi.2 rfl
    have hi' : (stateContract cfg).inv (some job) (s.claimed job row) :=
      ⟨⟨hi.1.tfstate, hi.1.backed, hi.1.uses⟩, nofun⟩
    refine ⟨hi', ?_⟩
    refine (keepsRested_executeUnfenced row.operation row.payload _ hi'
      ⟨hr.stored, hr.idle⟩).mono hi' fun _ _ hi'' h => ⟨hi''.1, fun _ => h⟩
  exact ((stateContract cfg).guarded_invariant hs hn hok).inv.1.uses

/-- The states with which Terraform commands were started, with the latest ones of that time. -/
def Site.uses (s : Site) : List (TerraformCommand × Option Bytes × Option Bytes) :=
  s.events.filterMap fun
    | .usedState command tfstate latest => some (command, tfstate, latest)
    | _ => none

theorem mem_uses {s : Site} {command : TerraformCommand} {tfstate latest : Option Bytes} :
    (command, tfstate, latest) ∈ s.uses ↔ .usedState command tfstate latest ∈ s.events := by
  rw [Site.uses, List.mem_filterMap]
  constructor
  · rintro ⟨e, he, heq⟩
    split at heq
    · cases heq
      exact he
    · cases heq
  · exact fun he => ⟨_, he, rfl⟩

/-- The next commands of the worker, none of which raises. -/
def ticks (count : ℕ) : Run := List.replicate count (.tick { flag := true })

def sampleSettings : Settings where
  sha256 := fun raw => if raw = [] then "empty" else "filled"

def sampleSite : Site :=
  .new { id := "deployment", vars := { node := "node" } } Table.empty

/-- A plain apply, up to the start of `terraform apply`; Terraform then writes a state. -/
def applyUntilWrite (job : ℕ) (raw : Bytes) : Run :=
  [.outside (.newJob job .terraformApply false false), .start job] ++ ticks 15
    ++ [.outside (.terraformWrites raw)]

/-- The next execution, up to the start of `terraform plan`. -/
def planUntilStart (job : ℕ) : Run :=
  [.outside (.newJob job .terraformPlan false false), .start job] ++ ticks 10

/-- Two applies that come to their end, and a plan. -/
def appliedTwice : Run :=
  applyUntilWrite 1 [1] ++ ticks 12 ++ applyUntilWrite 2 [2] ++ ticks 12 ++ planUntilStart 3

theorem state_is_latest_appliedTwice :
    (TerraformCommand.plan, some [2], some [2])
        ∈ (runFrom sampleSettings sampleSite appliedTwice).uses
      ∧ ∀ command tfstate latest, .usedState command tfstate latest
          ∈ (runFrom sampleSettings sampleSite appliedTwice).events → tfstate = latest :=
  ⟨by decide +kernel, state_is_latest sampleSettings _ Table.empty appliedTwice (by decide +kernel)⟩

/-- The second apply has written its state when the execution timeout is reached: Terraform is
stopped, and the stage before the copy raises once more. -/
def applyTimedOut : Run :=
  applyUntilWrite 1 [1] ++ ticks 12 ++ applyUntilWrite 2 [2]
    ++ [.tick { raises := some (.failed "Execution timeout") }] ++ ticks 2
    ++ [.tick { raises := some (.failed "Execution timeout") }] ++ ticks 1 ++ planUntilStart 3

/-- The plan that follows has forgotten what the second apply wrote. -/
theorem state_goes_backwards :
    .usedState .plan (some [1]) (some [2])
      ∈ (runFrom sampleSettings sampleSite applyTimedOut).events :=
  mem_uses.1 (by decide +kernel)

end CloudPortal.Execution
