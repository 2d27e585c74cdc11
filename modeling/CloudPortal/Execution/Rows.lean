/-
CloudPortal/Execution/Rows.lean

What commands and outside moves make of the rows of the jobs: `handle_rows` and
`outside_rows` list every way in which a row can come to be what it is.  Invariants of rows
are proved by these cases.
-/
import CloudPortal.Execution.System

namespace CloudPortal.Execution

open RowStore

/-! ### Commands -/

/-- What a command makes of the row of its job. -/
inductive OwnRow (s : Site) (row : Job) : Cmd → Job → Prop
  | deferred : OwnRow s row .availability { row with status := .queued }
  | finished (outcome : Outcome) :
      OwnRow s row (.finish outcome) { row with status := outcome.status }
  | recorded :
      OwnRow s row .persistWorkflowRuntime (row.withCheckpoint s.memory.runtime.checkpoint)
  | provisioned (change : ProvisionChange) :
      OwnRow s row (.persistProvision change) (row.withProvision change)
  | paused (stepId : String) (planSha256 : Option String) :
      OwnRow s row (.pauseForApproval stepId planSha256)
        ((row.withCheckpoint (s.memory.runtime.pauseCheckpoint planSha256)).pause stepId planSha256)

variable {jobs : Table ℕ Job} {id job : ℕ} {row' : Job} {cfg : Settings}

/-- A row after a change of one row. -/
theorem find?_put_cases {row : Job} (h : (jobs.put job row).find? id = some row') :
    id ≠ job ∧ jobs.find? id = some row' ∨ id = job ∧ row' = row := by
  rw [Table.find?_put] at h
  split at h
  · next hi =>
    cases h
    exact .inr ⟨hi, rfl⟩
  · next hi => exact .inl ⟨hi, h⟩

theorem other_of_none (hn : jobs.find? job = none) (h : jobs.find? id = some row') :
    id ≠ job ∧ jobs.find? id = some row' := by
  refine ⟨fun hi => ?_, h⟩
  rw [hi, hn] at h
  cases h

section Rows

variable {s : Site} {job id : ℕ} {row' : Job}

theorem updateJob_rows {f : Job → Job} (h : (s.updateJob job f).jobs.find? id = some row') :
    id ≠ job ∧ s.jobs.find? id = some row'
      ∨ id = job ∧ ∃ row, s.jobs.find? job = some row ∧ row' = f row := by
  dsimp only [Site.updateJob] at h
  split at h
  · next row hr => exact (find?_put_cases h).imp_right (.imp_right (⟨row, hr, ·⟩))
  · next hn => exact .inl (other_of_none hn h)

theorem record_rows {cp : WorkflowRuntime} (h : (s.record job cp).jobs.find? id = some row') :
    id ≠ job ∧ s.jobs.find? id = some row'
      ∨ id = job ∧ ∃ row, s.jobs.find? job = some row ∧ row' = row.withCheckpoint cp := by
  unfold Site.record at h
  split at h
  · next hn => exact .inl (other_of_none hn h)
  · next row hr => exact (find?_put_cases h).imp_right (.imp_right (⟨row, hr, ·⟩))

theorem pauseForApproval_rows {stepId : String} {sha : Option String}
    (h : (s.pauseForApproval job stepId sha).1.jobs.find? id = some row') :
    id ≠ job ∧ s.jobs.find? id = some row'
      ∨ id = job ∧ ∃ row, s.jobs.find? job = some row
        ∧ row' = (row.withCheckpoint (s.memory.runtime.pauseCheckpoint sha)).pause
          stepId sha := by
  unfold Site.pauseForApproval at h
  split at h
  · next hn => exact .inl (other_of_none hn h)
  rcases updateJob_rows h with ⟨hi, ho⟩ | ⟨hi, recorded, hrecorded, rfl⟩
  · rcases record_rows ho with ho | ⟨hi', -⟩
    · exact .inl ho
    · exact absurd hi' hi
  · rcases record_rows hrecorded with ⟨hs, -⟩ | ⟨-, row, hr, rfl⟩
    · exact absurd rfl hs
    · exact .inr ⟨hi, row, hr, rfl⟩

theorem finish_rows {out : Outcome} {newJob : ℕ} {reserved : Bool}
    (h : (s.finish job out newJob reserved).jobs.find? id = some row') :
    id ≠ job ∧ s.jobs.find? id = some row'
      ∨ (id = job ∧ ∃ row, s.jobs.find? job = some row ∧ row' = { row with status := out.status })
      ∨ s.jobs.find? id = none ∧ ∃ row, s.jobs.find? job = some row
        ∧ s.recovers job row out = true ∧ row' = Site.recoveryJob row id := by
  unfold Site.finish at h
  split at h
  · next hn => exact .inl (other_of_none hn h)
  next row hr =>
  split at h
  · next hrecovers =>
    rcases find?_put_cases h with ⟨-, ho⟩ | ⟨hi, hnew⟩
    · rcases updateJob_rows ho with ho | hown
      · exact .inl ho
      · exact .inr (.inl hown)
    · subst hi
      exact .inr (.inr ⟨hrecovers.2, row, hr, hrecovers.1, hnew⟩)
  · rcases updateJob_rows h with ho | hown
    · exact .inl ho
    · exact .inr (.inl hown)

end Rows

/-- A row after a command is the row before, what the command makes of the row of its job, or the
recovery job of a failed one. -/
theorem handle_rows {c : Cmd} {s : Site} {i : Input}
    (h : (Site.handle cfg job c s i).1.jobs.find? id = some row') :
    s.jobs.find? id = some row'
      ∨ (id = job ∧ ∃ row, s.jobs.find? job = some row ∧ OwnRow s row c row')
      ∨ s.jobs.find? id = none ∧ ∃ out row, c = .finish out
        ∧ s.jobs.find? job = some row ∧ s.recovers job row out = true
        ∧ row' = Site.recoveryJob row id := by
  by_cases hj : .jobs ∈ c.parts
  · cases hraises : i.raises with
    | some e =>
      cases c <;> simp at hj <;> simp only [Site.handle, hraises] at h <;> exact .inl h
    | none =>
      cases c <;> simp at hj <;> simp only [Site.handle, hraises] at h
      case availability =>
        split at h
        · exact .inl h
        rcases updateJob_rows h with ho | ⟨hi, row, hr, rfl⟩
        · exact .inl ho.2
        · exact .inr (.inl ⟨hi, row, hr, .deferred⟩)
      case persistWorkflowRuntime =>
        rcases record_rows h with ho | ⟨hi, row, hr, rfl⟩
        · exact .inl ho.2
        · exact .inr (.inl ⟨hi, row, hr, .recorded⟩)
      case persistProvision change =>
        unfold Site.persistProvision at h
        split at h
        · exact .inl h
        next row hr =>
        rcases find?_put_cases h with ho | ⟨hi, rfl⟩
        · exact .inl ho.2
        · exact .inr (.inl ⟨hi, row, hr, .provisioned change⟩)
      case pauseForApproval stepId sha =>
        rcases pauseForApproval_rows h with ho | ⟨hi, row, hr, rfl⟩
        · exact .inl ho.2
        · exact .inr (.inl ⟨hi, row, hr, .paused stepId sha⟩)
      case finish out =>
        rcases finish_rows h with ho | ⟨hi, row, hr, rfl⟩ | ⟨hn, row, hr, hrecovers, rfl⟩
        · exact .inl ho.2
        · exact .inr (.inl ⟨hi, row, hr, .finished out⟩)
        · exact .inr (.inr ⟨hn, out, row, rfl, hr, hrecovers, rfl⟩)
  · rw [(handle_frame cfg job c s i).jobs hj] at h
    exact .inl h

/-! ### Outside moves -/

/-- What an outside move makes of a row. -/
inductive OutsideRow (s : Site) (id : ℕ) (row : Job) : Outside → Job → Prop
  | approved {approval : WorkflowApproval} (hst : row.status = .waitingApproval)
      (happr : row.payload.workflowApproval.filter (·.status = .pending) = some approval)
      (hdigest : (truthy approval.planSha256).any (some · ≠ row.payload.planSha256) = false) :
      OutsideRow s id row (.approveJob id)
        (row.approved (approval.approve row.payload.planSha256))
  | queued (hst : row.status = .waitingApproval) :
      OutsideRow s id row (.approveJob id) { row with status := .queued }
  | cancelled (hst : row.status.waiting = true) :
      OutsideRow s id row (.cancelJob id) { row with status := .cancelled }
  | stale {resumed : ℕ} {accounted : Bool} (hst : row.status = .running)
      (hlost : s.atWork ≠ some id) :
      OutsideRow s id row (.reconcileStaleJob id resumed accounted) { row with status := .failed }
  | lost {accounted : Bool} (hst : row.status = .running) (hlost : s.atWork ≠ some id) :
      OutsideRow s id row (.reconcileCancelledJob id accounted) { row with status := .cancelled }
  | recovered (hact : s.deployment.activeJobId = some id) :
      OutsideRow s id row .reconcilePersistedInventory row.withStateRecovery

/-- The rows that outside moves make. -/
inductive FreshRow (cfg : Settings) (s : Site) (id : ℕ) : Outside → Job → Prop
  | created {operation : Operation} {force gated : Bool} (haccepts : s.accepts operation = true) :
      FreshRow cfg s id (.newJob id operation force gated) (s.newRow id operation force gated)
  | retried {original : ℕ} {row : Job} (hrow : s.jobs.find? original = some row)
      (hst : row.status = .failed ∨ row.status = .cancelled)
      (haccepts : s.accepts row.operation = true) :
      FreshRow cfg s id (.retryJob original id) (row.retried original id s.deployment.status)
  | resumed {stale : ℕ} {row : Job} {accounted : Bool} (hrow : s.jobs.find? stale = some row)
      (hst : row.status = .running) (hlost : s.atWork ≠ some stale)
      (hres : s.resumes cfg stale row accounted = true) :
      FreshRow cfg s id (.reconcileStaleJob stale id accounted) (row.resumed stale)

theorem outside_rows {m : Outside} {s : Site} (h : (s.outside cfg m).jobs.find? id = some row') :
    s.jobs.find? id = some row'
      ∨ (∃ row, s.jobs.find? id = some row ∧ OutsideRow s id row m row')
      ∨ s.jobs.find? id = none ∧ FreshRow cfg s id m row' := by
  by_cases hj : .jobs ∈ m.parts
  · cases m with
    | newJob new op force gated =>
      simp only [Site.outside, Site.newJob] at h
      split at h
      · next hn =>
        rw [Bool.and_eq_true, Bool.and_eq_true, decide_eq_true_iff] at hn
        rcases find?_put_cases h with ho | ⟨rfl, rfl⟩
        · exact .inl ho.2
        · exact .inr (.inr ⟨hn.2, .created hn.1.1⟩)
      · exact .inl h
    | approveJob approved =>
      simp only [Site.outside, Site.approveJob] at h
      split at h
      · exact .inl h
      next row hr =>
      split at h
      · exact .inl h
      next hs =>
      have hs : row.status = .waitingApproval := not_not.1 fun hne => hs (.inl hne)
      split at h
      · next approval happr =>
        split at h
        · exact .inl h
        next hrefused =>
        rcases find?_put_cases h with ho | ⟨rfl, rfl⟩
        · exact .inl ho.2
        refine .inr (.inl ⟨row, hr, .approved hs happr ?_⟩)
        exact Bool.eq_false_iff.2 fun hany => hrefused (.inr hany)
      · rcases find?_put_cases h with ho | ⟨rfl, rfl⟩
        · exact .inl ho.2
        · exact .inr (.inl ⟨row, hr, .queued hs⟩)
    | cancelJob cancelled =>
      simp only [Site.outside, Site.cancelJob] at h
      split at h
      · exact .inl h
      next row hr =>
      split at h
      · exact .inl h
      next hs =>
      rcases find?_put_cases h with ho | ⟨rfl, rfl⟩
      · exact .inl ho.2
      · exact .inr (.inl ⟨row, hr, .cancelled (not_not.1 hs)⟩)
    | retryJob old new =>
      simp only [Site.outside, Site.retryJob] at h
      split at h
      · exact .inl h
      next row hr =>
      split at h
      · next hretry =>
        rcases find?_put_cases h with ho | ⟨rfl, rfl⟩
        · exact .inl ho.2
        · exact .inr (.inr ⟨hretry.2.2.2, .retried hr hretry.1 hretry.2.1⟩)
      · exact .inl h
    | reconcileStaleJob stale resumed accounted =>
      simp only [Site.outside, Site.reconcileStaleJob] at h
      split at h
      · exact .inl h
      next row hr =>
      split at h
      · exact .inl h
      next hstatus =>
      have hs : row.status = .running := not_not.1 fun hne => hstatus (.inl hne)
      have hlost : s.atWork ≠ some stale := fun hwork => hstatus (.inr hwork)
      have hgiven : (s.jobs.put stale { row with status := .failed }).find? id = some row' →
          s.jobs.find? id = some row' ∨ ∃ row, s.jobs.find? id = some row
            ∧ OutsideRow s id row (.reconcileStaleJob stale resumed accounted) row' := by
        intro h
        rcases find?_put_cases h with ho | ⟨rfl, rfl⟩
        · exact .inl ho.2
        · exact .inr ⟨row, hr, .stale hs hlost⟩
      split at h
      · next hres =>
        rcases find?_put_cases h with ⟨-, ho⟩ | ⟨rfl, rfl⟩
        · exact (hgiven ho).imp_right .inl
        · exact .inr (.inr ⟨hres.2, .resumed hr hs hlost hres.1⟩)
      · exact (hgiven h).imp_right .inl
    | reconcileCancelledJob lost accounted =>
      simp only [Site.outside, Site.reconcileCancelledJob] at h
      split at h
      · exact .inl h
      next row hr =>
      split at h
      · exact .inl h
      next hstatus =>
      rcases find?_put_cases h with ho | ⟨rfl, rfl⟩
      · exact .inl ho.2
      exact .inr (.inl ⟨row, hr, .lost (not_not.1 fun hne => hstatus (.inl hne))
        fun hwork => hstatus (.inr hwork)⟩)
    | reconcilePersistedInventory =>
      simp only [Site.outside, Site.reconcilePersistedInventory] at h
      split at h
      · split at h
        · exact .inl h
        next active ha =>
        rcases updateJob_rows h with ho | ⟨rfl, row, hr, rfl⟩
        · exact .inl ho.2
        split
        · exact .inr (.inl ⟨row, hr, .recovered ha⟩)
        · exact .inl hr
      · exact .inl h
    | _ => simp at hj
  · rw [(outside_frame s cfg m).jobs hj] at h
    exact .inl h

end CloudPortal.Execution
