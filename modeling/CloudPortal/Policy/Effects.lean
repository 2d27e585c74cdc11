/-
CloudPortal/Policy/Effects.lean

The approval effects of policies (`require_approval` in `app/policy_engine/engine.py`)
and the stages that they are flattened into (`app/jobs/approval.py`).

An effect asks for one approval, or for several with a list of stages of its own; what a
stage does not say it takes from its effect.  The signature of a list of effects is the
list of their stages: the source compares them as JSON texts with sorted keys.
-/
import Mathlib.Data.Int.Notation
import Mathlib.Data.List.Basic

namespace CloudPortal

/-- One alternative of an approver specification.  A role or group is named or given by its id,
and a plain text is the name of a role; `unknown` is what the source does not resolve. -/
inductive ApproverKind
  | anyone
  | role (name id : Option String)
  | user (id username : Option String)
  | permission (name : Option String)
  | projectAdmin
  | tenantAdmin
  | apmidOwner
  | unknown
  deriving DecidableEq, Repr

/-- One stage of a policy approval.  The approver is a list of alternatives (lists in lists are
flattened, an empty specification is `anyone`). -/
structure ApprovalStage where
  name : String
  timeoutHours : Option ℤ := none
  approver : List ApproverKind := [.anyone]
  policyId : String := ""
  stageIndex : ℕ := 0
  deriving DecidableEq, Repr

/-- A stage as an effect lists it; a key that is not there is taken from the effect. -/
structure StageSpec where
  name : Option String := none
  approver : Option (List ApproverKind) := none
  timeoutHours : Option (Option ℤ) := none
  deriving DecidableEq, Repr

/-- An effect of type `require_approval`, with the policy that has it. -/
structure ApprovalEffect where
  policyId : String := ""
  name : Option String := none
  approver : List ApproverKind := [.anyone]
  timeoutHours : Option ℤ := none
  stages : List StageSpec := []
  message : Option String := none
  deriving DecidableEq, Repr

/-- The stages of an effect; without a list of its own it is the one stage. -/
def ApprovalEffect.source (effect : ApprovalEffect) : List StageSpec :=
  if effect.stages = [] then
    [{ name := effect.name, approver := some effect.approver,
       timeoutHours := some effect.timeoutHours }]
  else effect.stages

/-- A text that is there and not empty. -/
def truthy (text : Option String) : Option String := text.filter (· ≠ "")

/-- `str(name)[:160]`. -/
def truncateName (name : String) : String := String.ofList (name.toList.take 160)

/-- One entry of the flattened list; `count` stages stand before it. -/
def ApprovalEffect.stage (effect : ApprovalEffect) (count index : ℕ) (spec : StageSpec) :
    ApprovalStage :=
  { name := truncateName
      ((truthy spec.name <|> truthy effect.name).getD ("Policy approval " ++ toString (count + 1)))
    approver := spec.approver.getD effect.approver
    timeoutHours := spec.timeoutHours.getD effect.timeoutHours
    policyId := effect.policyId
    stageIndex := index }

/-- The stages of one more effect. -/
def appendStages (stages : List ApprovalStage) (effect : ApprovalEffect) : List ApprovalStage :=
  stages ++ effect.source.mapIdx fun index spec => effect.stage (stages.length + index) index spec

/-- `policy_approval_stages_from_effects`. -/
def policyApprovalStagesFromEffects (effects : List ApprovalEffect) : List ApprovalStage :=
  (effects.foldl appendStages []).take 20

/-- `policy_approval_signature`. -/
def policyApprovalSignature (effects : List ApprovalEffect) : List ApprovalStage :=
  policyApprovalStagesFromEffects effects

/-! ### Every effect asks for something -/

theorem ApprovalEffect.source_ne_nil (eff : ApprovalEffect) : eff.source ≠ [] := by
  unfold ApprovalEffect.source
  split
  · exact List.cons_ne_nil _ _
  · assumption

/-- The stages that are there stay there. -/
theorem foldl_appendStages_ne_nil {stgs : List ApprovalStage} (h : stgs ≠ [])
    (effs : List ApprovalEffect) : effs.foldl appendStages stgs ≠ [] := by
  induction effs generalizing stgs with
  | nil => exact h
  | cons effect effs ih => exact ih (List.append_ne_nil_of_left_ne_nil h _)

@[simp] theorem policyApprovalStagesFromEffects_eq_nil {effs : List ApprovalEffect} :
    policyApprovalStagesFromEffects effs = [] ↔ effs = [] := by
  cases effs with
  | nil => simp [policyApprovalStagesFromEffects]
  | cons eff effs =>
    have hf : appendStages [] eff ≠ [] := by simp [appendStages, eff.source_ne_nil]
    have hn := foldl_appendStages_ne_nil hf effs
    simp [policyApprovalStagesFromEffects, hn]

/-! ### What the stages ask for -/

/-- Whose approval a stage is, and who may give it. -/
def ApprovalStage.asks (stage : ApprovalStage) : String × ℕ × List ApproverKind :=
  (stage.policyId, stage.stageIndex, stage.approver)

/-- The approvals that an effect asks for. -/
def ApprovalEffect.asks (effect : ApprovalEffect) : List (String × ℕ × List ApproverKind) :=
  effect.source.mapIdx fun index spec =>
    (effect.policyId, index, spec.approver.getD effect.approver)

theorem foldl_appendStages_asks (effs : List ApprovalEffect) (stgs : List ApprovalStage) :
    (effs.foldl appendStages stgs).map (·.asks) = stgs.map (·.asks) ++ effs.flatMap (·.asks) := by
  induction effs generalizing stgs with
  | nil => exact (List.append_nil _).symm
  | cons eff effs ih =>
    have hone : (appendStages stgs eff).map (·.asks) = stgs.map (·.asks) ++ eff.asks := by
      rw [appendStages, List.map_append, ApprovalEffect.asks, List.mapIdx_eq_zipIdx_map,
        List.map_map, List.mapIdx_eq_zipIdx_map]
      rfl
    rw [List.foldl_cons, ih, hone, List.flatMap_cons, List.append_assoc]

end CloudPortal
