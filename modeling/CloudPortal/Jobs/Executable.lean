/-
CloudPortal/Jobs/Executable.lean

The policy check of a worker before it executes a job (`validate_authorization`), and
when a job that is approved passes it.

The worker compares the stages of the approvals that were recorded when the job was
submitted with those that the policies ask for now.  The recorded list is put together by
concatenation, one evaluation after the other, and once more with every retry; the list
of the worker is merged from another set of evaluations, which are told less of the request.
`Job.keepsSignature` is a condition on the policies under which the two are the same, and
`approved_executable` says that no approved job is then asked for a new approval.
-/
import CloudPortal.Jobs.StagedApproval
import CloudPortal.Policy.Integration

namespace CloudPortal

open RowStore

/-! ### The check -/

/-- Why a worker refuses to execute a job. -/
inductive Rejection
  | unauthorized (reason : String)
  | revoked (reasons : List String)
  | drifted (fields : List String)
  | newApproval
  deriving DecidableEq, Repr

def Rejection.message : Rejection → String
  | .unauthorized reason => reason
  | .revoked reasons =>
    "Policy authorization has been revoked" ++
      (if reasons = [] then "" else ": " ++ "; ".intercalate (reasons.take 3))
  | .drifted fields =>
    "Policy changed protected provisioning inputs after the job was queued: " ++
      ", ".intercalate (fields.mergeSort fun x y => x ≤ y)
  | .newApproval => "Current Policy Engine approval definition requires a new approval"

/-- The effects that were recorded when the job was submitted. -/
def Payload.originalEffects (payload : Payload) : List ApprovalEffect :=
  payload.policy ++ (payload.blueprint.map (·.policyApprovals)).getD []

/-- The job is approved, with all stages of its policies. -/
def Payload.fullyApproved (payload : Payload) : Bool :=
  payload.approved && payload.policyApproval.all (·.complete)

/-- `validate_authorization`.  The checks before the policies (the owner, the permissions, the
references of the job) are input: `refused` is the reason of the first one that fails. -/
def validateAuthorization (engine : PolicyEngine) (known : Circumstances) (refused : Option String)
    (job : Job) (place : Option (ℕ × Deployment)) : Except Rejection Unit :=
  match refused with
  | some reason => .error (.unauthorized reason)
  | none =>
    match revalidateJobOperation engine known job place with
    | none => .ok ()
    | some result =>
      if result.decision = .deny then .error (.revoked result.violations)
      else if result.drift ≠ [] then .error (.drifted result.drift)
      else if result.decision = .approvalRequired ∧ job.providerCheckpointed = false
          ∧ (job.payload.fullyApproved = false
            ∨ policyApprovalSignature result.approvals
              ≠ policyApprovalSignature job.payload.originalEffects) then
        .error .newApproval
      else .ok ()

/-! ### Submissions -/

/-- The approvals of a submission are those of a policy result that denies nothing. -/
def answers (answer : Except Failure PolicyResult) (approvals : List ApprovalEffect) : Bool :=
  match answer with
  | .ok result => approvals = result.approvals
  | .error _ => false

/-- The policies were asked as `create_deployment` and `execute_blueprint` ask them; the adoption
of a machine asks for no `vm.create`. -/
def DeploymentInput.governed (engine : PolicyEngine) (told : Circumstances) (rendered : Rendered)
    (deployment : DeploymentInput) (input : JobInput) : Bool :=
  match deployment.blueprint with
  | some blueprint => input.blueprint = some blueprint && input.policy = []
      && answers (enforceBlueprintExecution engine told deployment.scope blueprint rendered)
        blueprint.policyApprovals
  | none => input.blueprint = none
      && (if input.operation = .terraformImport then input.policy = []
        else answers (enforceVmCreate engine told deployment.scope rendered) input.policy)

/-- What a step submits carries the answers of the policies.  `policies` are those that the actor
of a job meets from its submission on, `told` is what they are told then, and `rendered` is what
the caller asked for. -/
def Step.governed (policies : ℕ → PolicyEngine) (told : ℕ → Circumstances) (rendered : ℕ → Rendered)
    (s : System) (a : Step) : Bool :=
  ((a.request s).all fun (r, place) =>
    answers (enforceJobOperation (policies r.id) (told r.id) (r.draft place).scope r.operation place)
      r.approvals)
  && match a with
    | .createDeployment deployment input =>
      deployment.governed (policies input.id) (told input.id) (rendered input.id) input
    | .createJob input => input.policy = []
    | .materializeScheduledJob id schedule =>
      (s.deployments.find? schedule.deploymentId).all fun deployment =>
        let result := evaluateScheduledOperation (policies id) (told id) schedule.operation
          schedule.deploymentId deployment
        result.decision ≠ .deny && schedule.approvals = result.approvals
    | _ => true

/-- What the worker will ask for is what the submission records: the job resumes behind a provider
checkpoint, or nothing is asked for, or what `new_job` or the scheduler records are the
approvals for the operation and the credentials `alone` and what the Blueprint records are
those for `vm.create`, none of them twice. -/
def Job.keepsSignature (engine : PolicyEngine) (known : Circumstances) (job : Job)
    (place : Option (ℕ × Deployment)) (alone : Bool) : Bool :=
  let forOperation := operationApprovals engine known job place
  let forCredentials := credentialApprovals engine known job place
  let forVm := vmApprovals engine known job place
  job.payload.resumeAfterProviderApply
    || forOperation = [] && forCredentials = [] && forVm = []
    || alone && (job.payload.blueprint.map (·.policyApprovals)).getD [] = forVm
      && decide forVm.Nodup
      && forVm.all fun effect => effect ∉ forOperation && effect ∉ forCredentials

/-- Nothing was recorded before `new_job` asked, and the policies for credentials do not read
`resource.purpose`, which the worker does not tell. -/
def JobRequest.alone (engine : PolicyEngine) (known : Circumstances) (r : JobRequest)
    (place : Option (ℕ × Deployment)) : Bool :=
  (r.payload.map (·.policy)).getD [] = []
    && (engine (credentialContext .preRequest .api known (r.draft place).scope r.operation place
        (some r.operation))).approvals = credentialApprovals engine known (r.draft place) place

/-- `schedule.execute` asks for no approval, and the operation for none twice. -/
def Schedule.alone (engine : PolicyEngine) (known : Circumstances) (schedule : Schedule)
    (deployment : Deployment) : Bool :=
  (engine (scheduleContext known deployment.scope schedule.operation schedule.deploymentId
    deployment)).approvals = []
    && decide (operationApprovals engine known (schedule.draft deployment)
      (some (schedule.deploymentId, deployment))).Nodup

/-- The step submits no job whose signature the worker will not find again; `known` is what it
knows of the circumstances. -/
def Step.keepsSignature (policies : ℕ → PolicyEngine) (known : ℕ → Circumstances) (s : System)
    (a : Step) : Bool :=
  ((a.request s).all fun (r, place) =>
    (r.draft place).keepsSignature (policies r.id) (known r.id) place
      (r.alone (policies r.id) (known r.id) place))
  && match a with
    | .materializeScheduledJob id schedule =>
      (s.deployments.find? schedule.deploymentId).all fun deployment =>
        (schedule.draft deployment).keepsSignature (policies id) (known id)
          (some (schedule.deploymentId, deployment))
          (schedule.alone (policies id) (known id) deployment)
    | _ => true

/-! ### The recorded effects are those that the worker is told -/

/-- What the worker will ask for was recorded. -/
def Job.Signed (engine : PolicyEngine) (known : Circumstances) (job : Job)
    (place : Option (ℕ × Deployment)) : Prop :=
  job.payload.resumeAfterProviderApply
    ∨ ∀ result, revalidateJobOperation engine known job place = some result
      → result.approvals = [] ∨ job.payload.originalEffects = result.approvals

section Submission

variable {engine : PolicyEngine} {told known : Circumstances} {job job' : Job}
  {pl pl' : Option (ℕ × Deployment)}

theorem Job.signed_of_keepsSignature {alone : Bool}
    (hkeeps : job.keepsSignature engine known pl alone)
    (halone : alone → job.payload.policy
      = Merge.appendNew (operationApprovals engine known job pl)
        (credentialApprovals engine known job pl)) : job.Signed engine known pl := by
  simp only [Job.keepsSignature, Bool.or_eq_true, Bool.and_eq_true, decide_eq_true_eq,
    List.all_eq_true] at hkeeps
  rcases hkeeps with (hresu | ⟨⟨ho, hcredential⟩, hvm⟩) | ⟨⟨⟨htrue, hblueprint⟩, hnodup⟩, hn⟩
  · exact .inl hresu
  · refine .inr fun res hr => .inl ?_
    rw [(revalidateJobOperation_spec hr).1, ho, hcredential, hvm]
    rfl
  refine .inr fun res hr => .inr ?_
  rw [(revalidateJobOperation_spec hr).1, Payload.originalEffects, halone htrue, hblueprint]
  refine (Merge.appendNew_of_disjoint hnodup fun eff heffect hm => ?_).symm
  obtain ⟨ho, hcredential⟩ := hn eff heffect
  exact (Merge.mem_appendNew.1 hm).elim ho hcredential

/-- A request whose approvals are the answers of the policies. -/
theorem JobRequest.signed {r : JobRequest} (hrd : engine.IgnoresRequest)
    (hsame : engine.SameFor told known)
    (hanswers : answers (enforceJobOperation engine told (r.draft pl).scope r.operation pl) r.approvals)
    (hkeeps : (r.draft pl).keepsSignature engine known pl (r.alone engine known pl)) :
    (r.draft pl).Signed engine known pl := by
  refine Job.signed_of_keepsSignature hkeeps fun halone => ?_
  simp only [JobRequest.alone, Bool.and_eq_true, decide_eq_true_eq] at halone
  obtain ⟨hprior, hcredential⟩ := halone
  have hpolicy : (r.draft pl).payload.policy = r.approvals := by
    show (r.payload.getD _).policy ++ r.approvals = r.approvals
    cases hpayload : r.payload with
    | some p =>
      rw [hpayload] at hprior
      show p.policy ++ r.approvals = _
      rw [show p.policy = [] from hprior, List.nil_append]
    | none =>
      rw [Option.getD_none]
      split <;> rfl
  have ho : (engine (operationContext .preRequest .api told (r.draft pl).scope r.operation
      pl)).approvals = operationApprovals engine known (r.draft pl) pl :=
    congrArg Evaluation.approvals ((hsame (operationContext .preRequest .api told
      (r.draft pl).scope r.operation pl)).trans (hrd (operationContext .workerRevalidate
        (r.draft pl).source known (r.draft pl).scope r.operation pl) .preRequest .api none))
  have hcredential' : (engine (credentialContext .preRequest .api told (r.draft pl).scope r.operation pl
      (some r.operation))).approvals = credentialApprovals engine known (r.draft pl) pl :=
    (congrArg Evaluation.approvals (hsame (credentialContext .preRequest .api told
      (r.draft pl).scope r.operation pl (some r.operation)))).trans hcredential
  unfold answers at hanswers
  split at hanswers
  · next result hr =>
    simp only [enforceJobOperation, refuseDenied, ensure_bind_eq_ok] at hr
    obtain ⟨-, -, hr⟩ := hr
    cases hr
    rw [hpolicy, of_decide_eq_true hanswers]
    exact congrArg₂ Merge.appendNew ho hcredential'
  · cases hanswers

/-- A due schedule whose approvals are the answers of the policies. -/
theorem Schedule.signed {sched : Schedule} {d : Deployment} (hrd : engine.IgnoresRequest)
    (hsame : engine.SameFor told known)
    (hanswers : sched.approvals = (evaluateScheduledOperation engine told sched.operation
      sched.deploymentId d).approvals)
    (hkeeps : (sched.draft d).keepsSignature engine known
      (some (sched.deploymentId, d)) (sched.alone engine known d)) :
    (sched.draft d).Signed engine known (some (sched.deploymentId, d)) := by
  refine Job.signed_of_keepsSignature hkeeps fun halone => ?_
  simp only [Schedule.alone, Bool.and_eq_true, decide_eq_true_eq] at halone
  obtain ⟨hschedule, hnodup⟩ := halone
  have ho : (engine (operationContext .scheduled .scheduler told d.scope sched.operation
      (some (sched.deploymentId, d)))).approvals
        = operationApprovals engine known (sched.draft d) (some (sched.deploymentId, d)) :=
    congrArg Evaluation.approvals ((hsame (operationContext .scheduled .scheduler told d.scope
      sched.operation (some (sched.deploymentId, d)))).trans (hrd (operationContext
        .workerRevalidate .scheduler known d.scope sched.operation (some (sched.deploymentId, d)))
        .scheduled .scheduler none))
  have hcredential : (engine (credentialContext .scheduled .scheduler told d.scope
      sched.operation (some (sched.deploymentId, d)) none)).approvals
        = credentialApprovals engine known (sched.draft d) (some (sched.deploymentId, d)) :=
    congrArg Evaluation.approvals ((hsame (credentialContext .scheduled .scheduler told d.scope
      sched.operation (some (sched.deploymentId, d)) none)).trans (hrd (credentialContext
        .workerRevalidate .scheduler known d.scope sched.operation (some (sched.deploymentId, d))
        none) .scheduled .scheduler none))
  have hschedule : (engine (scheduleContext told d.scope sched.operation sched.deploymentId
      d)).approvals = [] :=
    (congrArg Evaluation.approvals (hsame (scheduleContext told d.scope sched.operation
      sched.deploymentId d))).trans hschedule
  calc sched.approvals
      = Merge.appendNew (Merge.appendNew [] (operationApprovals engine known (sched.draft d)
          (some (sched.deploymentId, d))))
          (credentialApprovals engine known (sched.draft d) (some (sched.deploymentId, d))) := by
        rw [hanswers, ← ho, ← hcredential, ← hschedule]
        rfl
    _ = _ := by rw [Merge.appendNew_of_disjoint hnodup fun _ _ => List.not_mem_nil, List.nil_append]

/-! ### What a worker is told does not change -/

/-- The contexts of a worker read the id and some columns of the deployment. -/
inductive SameFacts : Option (ℕ × Deployment) → Option (ℕ × Deployment) → Prop
  | nowhere : SameFacts none none
  | row {d deployment deployment'} (h : Deployment.facts deployment' = deployment.facts) :
      SameFacts (some (d, deployment)) (some (d, deployment'))

theorem revalidateJobOperation_congr (hf : job.Frame job') (hp : SameFacts pl pl') :
    revalidateJobOperation engine known job' pl' = revalidateJobOperation engine known job pl := by
  unfold revalidateJobOperation revalidateBlueprintJob blueprintContext
  rw [hf.operation, hf.source, hf.scope, hf.blueprint]
  cases hp with
  | nowhere => rfl
  | row hfacts =>
    rcases job.payload.blueprint with - | blueprint
    all_goals simp only [operationContext, credentialContext, Option.map_some, hfacts]

theorem Job.Signed.congr (h : job.Signed engine known pl) (hf : job.Frame job')
    (hp : SameFacts pl pl') : job'.Signed engine known pl' := by
  unfold Job.Signed Payload.originalEffects
  rw [revalidateJobOperation_congr hf hp, hf.resumes, hf.policy, hf.blueprint]
  exact h

end Submission

/-! ### Runs -/

/-- What the worker will ask for was recorded, for every job that was submitted. -/
structure SignaturesKept (policies : ℕ → PolicyEngine) (known : ℕ → Circumstances) (s : System) :
    Prop where
  gates : GatesKept s
  placed : ∀ id job d, s.jobs.find? id = some job → job.source ≠ .recovery
    → job.operation.revalidated → job.deploymentId = some d
    → ∃ deployment, s.deployments.find? d = some deployment
  signed : ∀ id job, s.jobs.find? id = some job → job.source ≠ .recovery
    → job.operation.revalidated → job.Signed (policies id) (known id) (s.deploymentOf job)

section Run

variable {cfg : Settings} {policies : ℕ → PolicyEngine} {told known : ℕ → Circumstances}
  {rendered : ℕ → Rendered} {s s' : System} {a : Step} {id : ℕ} {job job' : Job}

/-- A deployment row and the one that it became say the same to a worker. -/
theorem sameFacts_of_frame {d : ℕ} {dep row : Deployment} (hf : dep.Frame row)
    (hd : job'.deploymentId = some d) (hr : s'.deployments.find? d = some row) :
    SameFacts (some (d, dep)) (s'.deploymentOf job') := by
  rw [(s'.deploymentOf_eq_some job').2 ⟨hd, hr⟩]
  refine .row ?_
  unfold Deployment.facts
  rw [hf.provider, hf.capacity]

theorem sameFacts_none (hd : job'.deploymentId = none) : SameFacts none (s'.deploymentOf job') := by
  rw [System.deploymentOf, hd]
  exact .nowhere

/-- A job that a step has created was drafted by it, or it recovers another one. -/
theorem Step.drafted (ha : a.apply cfg s = .ok s') (hfresh : s.jobs.find? id = none)
    (hj' : s'.jobs.find? id = some job') (hs : job'.source ≠ .recovery) :
    Drafted s a s' id job' := by
  have hc := (Step.effect ha).rowChange id
  rw [hfresh, hj'] at hc
  cases hc with
  | created _ hdraft =>
    cases hdraft with
    | exempt ho => exact .exempt ho
    | requested hq hi hfr hp => exact .requested hq hi hfr.touch hp
    | scheduled ha hf hfr => exact .scheduled ha hf hfr.touch
  | succeeds _ htakeover => exact absurd htakeover.source hs

section

variable (ha : a.apply cfg s = .ok s') (hgoverned : a.governed policies told rendered s)
  (hkeeps : a.keepsSignature policies known s)
include ha hgoverned hkeeps

/-- A job that a step submits. -/
theorem Drafted.signed (h : Drafted s a s' id job') (hrd : (policies id).IgnoresRequest)
    (hsame : (policies id).SameFor (told id) (known id)) (ho : job'.operation.revalidated) :
    (∀ d, job'.deploymentId = some d → ∃ dep, s'.deployments.find? d = some dep)
      ∧ job'.Signed (policies id) (known id) (s'.deploymentOf job') := by
  simp only [Step.governed, Step.keepsSignature, Bool.and_eq_true] at hgoverned hkeeps
  cases h with
  | exempt he =>
    rw [ho] at he
    cases he
  | @requested r pl hq hi hfr hp =>
    subst hi
    rw [hq] at hgoverned hkeeps
    have hsigned := JobRequest.signed hrd hsame hgoverned.1 hkeeps.1
    rcases pl with - | ⟨d, dep⟩
    · have hd : job'.deploymentId = none := hfr.deploymentId
      refine ⟨fun d' hd' => ?_, hsigned.congr hfr (sameFacts_none hd)⟩
      cases hd.symm.trans hd'
    have hd : job'.deploymentId = some d := hfr.deploymentId
    obtain ⟨row, hr, hs⟩ := hp d dep rfl
    refine ⟨fun d' hd' => ?_, hsigned.congr hfr (sameFacts_of_frame hs hd hr)⟩
    cases hd.symm.trans hd'
    exact ⟨row, hr⟩
  | @scheduled sched dep hstep hf hfr =>
    subst hstep
    simp only [hf, Option.all_some, Bool.and_eq_true, decide_eq_true_eq] at hgoverned hkeeps
    have hsigned := Schedule.signed hrd hsame hgoverned.2.2 hkeeps.2
    have hd : job'.deploymentId = some sched.deploymentId := hfr.deploymentId
    obtain ⟨row, hr, hs⟩ := Step.deployment_persists ha hf
    refine ⟨fun d' hd' => ?_, hsigned.congr hfr (sameFacts_of_frame hs hd hr)⟩
    cases hd.symm.trans hd'
    exact ⟨row, hr⟩

theorem SignaturesKept.step (hs : SignaturesKept policies known s)
    (hrd : ∀ id, (policies id).IgnoresRequest)
    (hsame : ∀ id, (policies id).SameFor (told id) (known id)) :
    SignaturesKept policies known s' := by
  have hr (id : ℕ) (job' : Job) (hj' : s'.jobs.find? id = some job')
      (hsource : job'.source ≠ .recovery) (ho : job'.operation.revalidated) :
      (∀ d, job'.deploymentId = some d → ∃ dep, s'.deployments.find? d = some dep)
        ∧ job'.Signed (policies id) (known id) (s'.deploymentOf job') := by
    cases hj : s.jobs.find? id with
    | none => exact (Step.drafted ha hj hj' hsource).signed ha hgoverned hkeeps (hrd id) (hsame id) ho
    | some job =>
      have hfr := (Step.clone_persists ha hj hj').1
      rw [hfr.source] at hsource
      rw [hfr.operation] at ho
      have hsigned := hs.signed id job hj hsource ho
      cases hd : job.deploymentId with
      | none =>
        have hd' : job'.deploymentId = none := hfr.deploymentId.trans hd
        refine ⟨fun d hd'' => ?_, hsigned.congr hfr ?_⟩
        · cases hd'.symm.trans hd''
        rw [show s.deploymentOf job = none by rw [System.deploymentOf, hd]; rfl]
        exact sameFacts_none hd'
      | some d =>
        have hd' : job'.deploymentId = some d := hfr.deploymentId.trans hd
        obtain ⟨dep, hf⟩ := hs.placed id job d hj hsource ho hd
        obtain ⟨row, hr, he⟩ := Step.deployment_persists ha hf
        refine ⟨fun d'' hd'' => ?_, hsigned.congr hfr ?_⟩
        · cases hd'.symm.trans hd''
          exact ⟨row, hr⟩
        · rw [(s.deploymentOf_eq_some job).2 ⟨hd, hf⟩]
          exact sameFacts_of_frame he hd' hr
  exact ⟨hs.gates.step ha, fun id job' d hj' hsource ho => (hr id job' hj' hsource ho).1 d,
    fun id job' hj' hsource ho => (hr id job' hj' hsource ho).2⟩

end

theorem SignaturesKept.initial (scs : Finset Scope) :
    SignaturesKept policies known (System.initial scs) := by
  refine ⟨.initial scs, fun id job d hj => ?_, fun id job hj => ?_⟩
  all_goals cases hj

theorem SignaturesKept.executable (hs : SignaturesKept policies known s)
    (hj : s.jobs.find? id = some job) (hsource : job.source ≠ .recovery)
    (hsta : job.payload.policyApproval.all (·.complete)) (refused : Option String) :
    validateAuthorization (policies id) (known id) refused job (s.deploymentOf job)
      ≠ .error .newApproval := by
  intro hrejected
  unfold validateAuthorization at hrejected
  split at hrejected
  · cases hrejected
  split at hrejected
  · cases hrejected
  next res hr =>
  split at hrejected
  · cases hrejected
  split at hrejected
  · cases hrejected
  split at hrejected
  case isFalse => cases hrejected
  case isTrue hn =>
    obtain ⟨hrequired, hunchecked, hdiffers⟩ := hn
    have ho : job.operation.revalidated := by
      by_contra hnot
      rw [revalidateJobOperation, if_neg hnot] at hr
      cases hr
    have hg := hs.gates.row id job hj
    rcases hs.signed id job hj hsource ho with hresu | hsigned
    · -- a job that resumes has a checkpoint, and the approvals do not matter
      rw [hg.resumes hsource hresu] at hunchecked
      cases hunchecked
    have hne := (revalidateJobOperation_spec hr).2 hrequired
    have he := (hsigned res hr).resolve_left hne
    have hday2 : job.operation.isDay2 = false := by
      cases hk : job.operation <;> simp_all [Operation.revalidated, Operation.isDay2]
    have hresu : job.payload.resumeAfterProviderApply = false := by
      by_contra hresu
      rw [hg.resumes hsource (Bool.not_eq_false _ ▸ hresu)] at hunchecked
      cases hunchecked
    have hasks : job.Asks := by
      refine ⟨fun hnil => hne (he.symm.trans ?_), hresu⟩
      simpa [policyApprovalStages, blueprintSnapshot, Payload.originalEffects] using hnil
    obtain ⟨state, hstate, -⟩ := hg.recorded hasks
    have hc : state.complete := by simpa [hstate] using hsta
    have happroved : job.payload.fullyApproved :=
      Bool.and_eq_true_iff.2 ⟨hg.marked hasks hday2 state hstate hc, hsta⟩
    rcases hdiffers with hunapproved | hsign
    · rw [happroved] at hunapproved
      cases hunapproved
    · exact hsign (by rw [he])

end Run

/-! ### Runs of the small installation -/

end CloudPortal
