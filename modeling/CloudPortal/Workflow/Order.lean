/-
CloudPortal/Workflow/Order.lean

The order in which the steps of an accepted workflow are executed.

`BlueprintInput.dag` looks at the graph of the workflow as it is written.  What is executed
may be another graph: without AWX the step that registers the machine there is left out
and its dependencies are handed on.  `WorkflowDag` and `Sound` are what both graphs have, in terms
of paths: `BlueprintInput.graph` and `BlueprintInput.sound` read them off the checks,
`WorkflowDag.leaveOut` and `Sound.leaveOut` keep them when a step is left out.  Paths between the
steps that remain stay as they were.  A topological order of a sound workflow then exists and has
the steps in the places that `StepType.precedes` asks for.
-/
import CloudPortal.Workflow.Blueprint

namespace CloudPortal

open Digraph Transition

/-! ### Graphs of workflows -/

variable {row : WorkflowStep} {rows : List WorkflowStep}

theorem graphOf_id (hids : (rows.map (·.id)).Nodup) (hr : row ∈ rows) :
    graphOf rows row.id = row.dependsOn := by
  obtain ⟨found, hfound⟩ : ∃ found, rows.find? (·.id = row.id) = some found :=
    Option.isSome_iff_exists.1 (List.find?_isSome.2 ⟨row, hr, by simp⟩)
  have hi : found.id = row.id := by simpa using List.find?_some hfound
  have hs : found = row :=
    List.inj_on_of_nodup_map hids (List.mem_of_find?_eq_some hfound) hr hi
  rw [graphOf, hfound, hs]
  rfl

theorem graphOf_eq_nil {id : String} (h : id ∉ rows.map (·.id)) : graphOf rows id = [] := by
  have hn : rows.find? (·.id = id) = none := by
    refine List.find?_eq_none.2 fun row hr hi => h ?_
    exact List.mem_map.2 ⟨row, hr, by simpa using hi⟩
  rw [graphOf, hn]
  rfl

/-- An edge starts at a row. -/
theorem edge_graphOf (hids : (rows.map (·.id)).Nodup) {x y : String} :
    Edge (graphOf rows) x y ↔ ∃ row ∈ rows, row.id = x ∧ y ∈ row.dependsOn := by
  constructor
  · intro he
    by_cases hx : x ∈ rows.map (·.id)
    · obtain ⟨row, hr, rfl⟩ := List.mem_map.1 hx
      exact ⟨row, hr, rfl, graphOf_id hids hr ▸ he⟩
    · rw [Edge, graphOf_eq_nil hx] at he
      cases he
  · rintro ⟨row, hr, rfl, hy⟩
    rw [Edge, graphOf_id hids hr]
    exact hy

theorem graphOf_subset (hids : (rows.map (·.id)).Nodup)
    (hknown : ∀ row ∈ rows, ∀ d ∈ row.dependsOn, d ∈ rows.map (·.id)) :
    ∀ x ∈ rows.map (·.id), graphOf rows x ⊆ rows.map (·.id) := by
  intro x hx d hd
  obtain ⟨row, hr, rfl⟩ := List.mem_map.1 hx
  exact hknown row hr d (graphOf_id hids hr ▸ hd)

/-! ### Sound workflows -/

/-- Steps of the one type come before steps of the other. -/
def StepType.precedes : StepType → StepType → Bool
  | .terraformPlan, .approval | .terraformPlan, .terraformApply => true
  | .approval, .terraformApply | .cloudInit, .terraformApply => true
  | .terraformApply, type => type.vmRuntime
  | _, _ => false

theorem StepType.precedes_cases {first second : StepType} (h : first.precedes second) :
    first = .cloudInit ∧ second = .terraformApply
      ∨ first = .terraformPlan ∧ second = .approval
      ∨ first = .terraformPlan ∧ second = .terraformApply
      ∨ first = .approval ∧ second = .terraformApply
      ∨ first = .terraformApply ∧ second.vmRuntime := by
  unfold StepType.precedes at h
  split at h <;> simp_all

/-- The steps form a graph without cycles. -/
structure WorkflowDag (rows : List WorkflowStep) : Prop where
  ids : (rows.map (·.id)).Nodup
  named : ∀ row ∈ rows, row.id ≠ ""
  known : ∀ row ∈ rows, ∀ d ∈ row.dependsOn, d ∈ rows.map (·.id)
  ends : ∀ row ∈ rows, Ends (graphOf rows) row.id

/-- What the graph of a workflow that can be executed has. -/
structure Sound (rows : List WorkflowStep) : Prop extends WorkflowDag rows where
  places : ∀ first ∈ rows, ∀ second ∈ rows, first.type.precedes second.type →
    Path (graphOf rows) second.id first.id

/-- The rows in an order in which each comes after what it depends on, and after the rows that are
to precede it. -/
structure WellOrdered (rows ordered : List WorkflowStep) : Prop where
  rows : ordered.Perm rows
  dependencies : ∀ row ∈ ordered, ∀ d ∈ row.dependsOn,
    ∃ parent, parent.id = d ∧ Before ordered parent row
  places : ∀ first ∈ ordered, ∀ second ∈ ordered, first.type.precedes second.type →
    Before ordered first second

theorem WorkflowDag.not_self (h : WorkflowDag rows) (hr : row ∈ rows) :
    row.id ∉ row.dependsOn := by
  intro hs
  refine (h.ends row hr).not_path (.single ?_)
  exact (edge_graphOf h.ids).2 ⟨row, hr, rfl, hs⟩

theorem WorkflowDag.not_path (h : WorkflowDag rows) (x : String) : ¬Path (graphOf rows) x x := by
  intro hcycle
  obtain ⟨_, he, -⟩ := Relation.TransGen.head'_iff.1 hcycle
  obtain ⟨row, hr, rfl, -⟩ := (edge_graphOf h.ids).1 he
  exact (h.ends row hr).not_path hcycle

/-- What is left of the checks for named steps with known dependencies. -/
theorem orderedWorkflowSteps_eq (hnamed : ∀ row ∈ rows, row.id ≠ "") (hids : (rows.map (·.id)).Nodup)
    (hknown : ∀ row ∈ rows, row.id ∉ row.dependsOn ∧ ∀ d ∈ row.dependsOn, d ∈ rows.map (·.id)) :
    orderedWorkflowSteps rows = match order WorkflowStep.id WorkflowStep.dependsOn rows with
      | some ordered => .ok ordered
      | none => .error "Blueprint workflow contains a dependency cycle" := by
  have hnames : (rows.map (·.id)).all (· ≠ "") = true := by simpa [List.all_eq_true] using hnamed
  have hd : (rows.all fun row =>
      row.id ∉ row.dependsOn && row.dependsOn.all (· ∈ rows.map (·.id))) = true := by
    simpa only [List.all_eq_true, Bool.and_eq_true, decide_eq_true_eq] using hknown
  simp only [orderedWorkflowSteps, hnames, hids, hd, require, decide_true, Bool.and_self, if_true]
  rfl

/-- The order of steps with known dependencies. -/
theorem of_order {ord : List WorkflowStep} (hids : (rows.map (·.id)).Nodup)
    (hknown : ∀ row ∈ rows, ∀ d ∈ row.dependsOn, d ∈ rows.map (·.id))
    (h : order WorkflowStep.id WorkflowStep.dependsOn rows = some ord) :
    ord.Perm rows
      ∧ (∀ row ∈ ord, ∀ d ∈ row.dependsOn, ∃ parent, parent.id = d ∧ Before ord parent row)
      ∧ ∀ first ∈ ord, ∀ second ∈ ord, Path (graphOf rows) second.id first.id →
        Before ord first second := by
  obtain ⟨-, -, -, hf, hp⟩ := order_spec (.of_map _ hids) h
  have hi' : (ord.map (·.id)).Nodup := (hp.map _).nodup_iff.2 hids
  have hknown : ∀ row ∈ ord, ∀ d ∈ row.dependsOn, d ∈ ord.map (·.id) :=
    fun row hr d hd => (hp.map _).mem_iff.2 (hknown row (hp.mem_iff.1 hr) d hd)
  refine ⟨hp, fun row hr d hd => ?_, fun first hm second hm' => ?_⟩
  · obtain ⟨parent, hparent, rfl⟩ := List.mem_map.1 (hknown row hr d hd)
    exact ⟨parent, rfl, hf.before hi' hparent hr hd⟩
  · refine before_of_path hf hi' hm (fun row hr d he => ?_) hknown hm'
    rwa [Edge, graphOf_id hids (hp.mem_iff.1 hr)] at he

theorem Sound.ordered (h : Sound rows) :
    ∃ ord, orderedWorkflowSteps rows = .ok ord ∧ WellOrdered rows ord := by
  obtain ⟨ord, hordered⟩ := order_succeeds
    (fun row hr d hd => (edge_graphOf h.ids).2 ⟨row, hr, rfl, hd⟩) h.known h.ends
  obtain ⟨hp, hdeps, hpath⟩ := of_order h.ids h.known hordered
  refine ⟨ord, ?_, hp, hdeps, fun first hm second hm' hprecedes => hpath first hm second hm' ?_⟩
  · rw [orderedWorkflowSteps_eq h.named h.ids fun row hr => ⟨h.not_self hr, h.known row hr⟩, hordered]
  · exact h.places first (hp.mem_iff.1 hm) second (hp.mem_iff.1 hm') hprecedes

/-! ### Order by rounds -/

/-- Steps that depend on each other only are ordered if and only if there is no cycle; with a cycle
or without, the loop ends after at most as many rounds as steps, and a step that is ready when a
round begins comes before all that later rounds place. -/
theorem topological_order (hnamed : ∀ row ∈ rows, row.id ≠ "") (hids : (rows.map (·.id)).Nodup)
    (hknown : ∀ row ∈ rows, row.id ∉ row.dependsOn ∧ ∀ d ∈ row.dependsOn, d ∈ rows.map (·.id)) :
    (∀ fuel ≥ rows.length, orderLoop WorkflowStep.id WorkflowStep.dependsOn fuel rows [] []
        = some (order WorkflowStep.id WorkflowStep.dependsOn rows))
      ∧ ((∃ ordered, orderedWorkflowSteps rows = .ok ordered ∧ ordered.Perm rows
          ∧ ∀ row ∈ ordered, ∀ d ∈ row.dependsOn, ∃ parent, parent.id = d ∧ Before ordered parent row)
        ↔ ∀ x, ¬Path (graphOf rows) x x)
      ∧ ((∃ x, Path (graphOf rows) x x) →
        orderedWorkflowSteps rows = .error "Blueprint workflow contains a dependency cycle")
      ∧ ∀ ordered, orderedWorkflowSteps rows = .ok ordered → ∃ rounds, ordered = rounds.flatten
        ∧ InRounds WorkflowStep.id WorkflowStep.dependsOn rows [] rounds
        ∧ ∀ before round after, rounds = before ++ round :: after → ∀ row ∈ rows,
          (∀ d ∈ row.dependsOn, d ∈ before.flatten.map (·.id)) → ∀ later ∈ after.flatten,
            Before ordered row later := by
  rw [orderedWorkflowSteps_eq hnamed hids hknown]
  have hclosed := fun row hr => (hknown row hr).2
  refine ⟨fun fuel hfuel => orderLoop_order hfuel, ?_⟩
  cases horder : order WorkflowStep.id WorkflowStep.dependsOn rows with
  | none =>
    refine ⟨⟨nofun, fun hacyc => ?_⟩, fun _ => rfl, nofun⟩
    obtain ⟨ord, h⟩ := order_succeeds
      (fun row hr d hd => (edge_graphOf hids).2 ⟨row, hr, rfl, hd⟩) hclosed
      fun row _ => @ends_of_acyclic _ _ (rows.map (·.id)) (fun x y he => by
        obtain ⟨row, hr, rfl, hy⟩ := (edge_graphOf hids).1 he
        exact ⟨List.mem_map_of_mem hr, hclosed row hr y hy⟩) hacyc row.id
    cases horder.symm.trans h
  | some ord =>
    obtain ⟨hp, hdeps, hpath⟩ := of_order hids hclosed horder
    have hacyc (x : String) : ¬Path (graphOf rows) x x := by
      intro hcycle
      obtain ⟨_, he, -⟩ := Relation.TransGen.head'_iff.1 hcycle
      obtain ⟨row, hr, rfl, -⟩ := (edge_graphOf hids).1 he
      have hr := hp.mem_iff.2 hr
      exact Nat.lt_irrefl _ (hpath row hr row hr hcycle).2
    refine ⟨⟨fun _ => hacyc, fun _ => ⟨ord, rfl, hp, hdeps⟩⟩,
      fun ⟨x, hcycle⟩ => (hacyc x hcycle).elim, ?_⟩
    rintro _ ⟨⟩
    obtain ⟨rounds, rfl, hin, -⟩ := order_spec (.of_map _ hids) horder
    refine ⟨rounds, rfl, hin, ?_⟩
    rintro before round after rfl row hr hready later hlater
    have hnodup := hp.nodup_iff.2 (.of_map _ hids)
    rw [List.flatten_append, List.flatten_cons, ← List.append_assoc] at hnodup ⊢
    exact before_append hnodup (hin.ready hr hready) hlater

theorem topological_order_cycle :
    orderedWorkflowSteps [{ id := "plan", type := .terraformPlan, dependsOn := ["apply"] },
      { id := "apply", type := .terraformApply, dependsOn := ["plan"] }]
      = .error "Blueprint workflow contains a dependency cycle" :=
  (topological_order (by decide) (by decide) (by decide)).2.2.1 ⟨"plan",
    .tail (.single (List.mem_singleton_self "apply")) (List.mem_singleton_self "plan")⟩

/-! ### Leaving the AWX step out -/

/-- A dependency on the one removed step becomes its dependencies. -/
theorem expandDependency_singleton {rem : WorkflowStep} (hs : rem.id ∉ rem.dependsOn)
    (d : String) :
    expandDependency [(rem.id, rem.dependsOn)] 2 [] d
      = if d = rem.id then rem.dependsOn else [d] := by
  have ho {fuel : ℕ} {seen : List String} {d : String} (hd : d ≠ rem.id) :
      expandDependency [(rem.id, rem.dependsOn)] (fuel + 1) seen d = [d] := by
    have hlookup : List.lookup d [(rem.id, rem.dependsOn)] = none := by
      rw [List.lookup_cons, beq_false_of_ne hd]
      rfl
    rw [expandDependency, hlookup]
  split
  · next hd =>
    subst hd
    rw [expandDependency, List.lookup_cons_self]
    dsimp only
    rw [if_neg List.not_mem_nil]
    have hparents : ∀ p ∈ rem.dependsOn,
        expandDependency [(rem.id, rem.dependsOn)] 1 [rem.id] p = [p] :=
      fun p hp => ho fun h => hs (h ▸ hp)
    rw [List.flatMap_congr hparents, List.flatMap_singleton']
  · next hd => exact ho hd

theorem mem_bridge {rem step : WorkflowStep} (hs : rem.id ∉ rem.dependsOn) {y : String} :
    y ∈ (step.bridge [(rem.id, rem.dependsOn)]).dependsOn
      ↔ y ∈ step.dependsOn ∧ y ≠ rem.id
        ∨ rem.id ∈ step.dependsOn ∧ y ∈ rem.dependsOn := by
  simp only [WorkflowStep.bridge, Merge.mem_appendNew, List.not_mem_nil, false_or,
    List.mem_flatMap, List.length_singleton, Nat.reduceAdd, expandDependency_singleton hs]
  constructor
  · rintro ⟨d, hd, hy⟩
    split at hy
    · next h => exact .inr ⟨h ▸ hd, hy⟩
    · next h => exact .inl ⟨List.mem_singleton.1 hy ▸ hd, List.mem_singleton.1 hy ▸ h⟩
  · rintro (⟨hy, hn⟩ | ⟨hd, hy⟩)
    · exact ⟨y, hy, by rw [if_neg hn]; exact List.mem_singleton_self y⟩
    · exact ⟨rem.id, hd, by rw [if_pos rfl]; exact hy⟩

/-- The rows without the step that is left out. -/
def leaveOut (removed : WorkflowStep) (rows : List WorkflowStep) : List WorkflowStep :=
  (rows.filter (·.type ≠ removed.type)).map
    (WorkflowStep.bridge [(removed.id, removed.dependsOn)])

section LeaveOut

variable {rows : List WorkflowStep} {rem : WorkflowStep}

theorem ids_leaveOut (hids : (rows.map (·.id)).Nodup) :
    ((leaveOut rem rows).map (·.id)).Nodup := by
  have hk : (leaveOut rem rows).map (·.id) = (rows.filter (·.type ≠ rem.type)).map (·.id) := by
    rw [leaveOut, List.map_map]
    rfl
  rw [hk]
  exact hids.sublist (List.filter_sublist.map _)

section

variable (hids : (rows.map (·.id)).Nodup) (hremoved : rem ∈ rows)
  (honly : ∀ row ∈ rows, row.type = rem.type → row = rem)
include hids hremoved honly

/-- Where it is the only step of its type, all others are kept. -/
theorem mem_leaveOut {row' : WorkflowStep} :
    row' ∈ leaveOut rem rows ↔ ∃ row ∈ rows, row.id ≠ rem.id
      ∧ row.bridge [(rem.id, rem.dependsOn)] = row' := by
  simp only [leaveOut, List.mem_map, List.mem_filter, decide_eq_true_eq, and_assoc]
  refine exists_congr fun row => and_congr_right fun hr => and_congr_left fun _ => ?_
  refine not_congr ⟨fun ht => by rw [honly row hr ht], fun hi => ?_⟩
  rw [List.inj_on_of_nodup_map hids hr hremoved hi]

theorem contracts_leaveOut (hs : rem.id ∉ rem.dependsOn) :
    Contracts (graphOf rows) (graphOf (leaveOut rem rows)) rem.id := by
  intro x y
  rw [edge_graphOf (ids_leaveOut hids)]
  constructor
  · rintro ⟨_, hr', rfl, hy⟩
    obtain ⟨row, hrow, hn, rfl⟩ := (mem_leaveOut hids hremoved honly).1 hr'
    refine ⟨hn, ?_⟩
    rcases (mem_bridge hs).1 hy with ⟨hy, hyr⟩ | ⟨hr, hy⟩
    · exact .inl ⟨(edge_graphOf hids).2 ⟨row, hrow, rfl, hy⟩, hyr⟩
    exact .inr ⟨(edge_graphOf hids).2 ⟨row, hrow, rfl, hr⟩,
      (edge_graphOf hids).2 ⟨rem, hremoved, rfl, hy⟩⟩
  rintro ⟨hn, hedges⟩
  obtain ⟨row, hrow, rfl, hy⟩ : ∃ row ∈ rows, row.id = x
      ∧ (y ∈ row.dependsOn ∧ y ≠ rem.id ∨ rem.id ∈ row.dependsOn ∧ y ∈ rem.dependsOn) := by
    rcases hedges with ⟨hxy, hyr⟩ | ⟨hxr, hry⟩
    · obtain ⟨row, hrow, hi, hy⟩ := (edge_graphOf hids).1 hxy
      exact ⟨row, hrow, hi, .inl ⟨hy, hyr⟩⟩
    obtain ⟨row, hrow, hi, hr⟩ := (edge_graphOf hids).1 hxr
    rw [Edge, graphOf_id hids hremoved] at hry
    exact ⟨row, hrow, hi, .inr ⟨hr, hry⟩⟩
  exact ⟨_, (mem_leaveOut hids hremoved honly).2 ⟨row, hrow, hn, rfl⟩, rfl, (mem_bridge hs).2 hy⟩

end

section

variable (hremoved : rem ∈ rows) (honly : ∀ row ∈ rows, row.type = rem.type → row = rem)
include hremoved honly

/-- A workflow stays one when the only step of a type is left out, and the others keep their
places. -/
theorem WorkflowDag.leaveOut (h : WorkflowDag rows) :
    WorkflowDag (leaveOut rem rows) ∧ ∀ x y, x ≠ rem.id → y ≠ rem.id →
      (Path (graphOf (leaveOut rem rows)) x y ↔ Path (graphOf rows) x y) := by
  have hs := h.not_self hremoved
  have hm {row' : WorkflowStep} : row' ∈ CloudPortal.leaveOut rem rows ↔ _ :=
    mem_leaveOut h.ids hremoved honly
  have hc := contracts_leaveOut h.ids hremoved honly hs
  have hl : ¬Edge (graphOf rows) rem.id rem.id := fun h' => h.not_path _ (.single h')
  have hk {d : String} (hd : d ∈ rows.map (·.id)) (hn : d ≠ rem.id) :
      d ∈ (CloudPortal.leaveOut rem rows).map (·.id) := by
    obtain ⟨row, hrow, rfl⟩ := List.mem_map.1 hd
    exact List.mem_map.2 ⟨_, hm.2 ⟨row, hrow, hn, rfl⟩, rfl⟩
  refine ⟨⟨ids_leaveOut h.ids, fun row' hr' => ?_, fun row' hr' d hd => ?_,
    fun row' hr' => ?_⟩, fun x y hx hy =>
      ⟨fun hp => hc.old_path hp, fun hp => hc.path hl hp hx hy⟩⟩
  · obtain ⟨row, hrow, -, rfl⟩ := hm.1 hr'
    exact h.named row hrow
  · obtain ⟨row, hrow, -, rfl⟩ := hm.1 hr'
    rcases (mem_bridge hs).1 hd with ⟨hd, hn⟩ | ⟨-, hd⟩
    · exact hk (h.known row hrow d hd) hn
    · exact hk (h.known rem hremoved d hd) fun hr => hs (hr ▸ hd)
  · obtain ⟨row, hrow, -, rfl⟩ := hm.1 hr'
    exact hc.ends (h.ends row hrow)

theorem Sound.leaveOut (h : Sound rows) : Sound (leaveOut rem rows) := by
  obtain ⟨hdag, hpaths⟩ := h.toWorkflowDag.leaveOut hremoved honly
  refine ⟨hdag, fun first' hf' second' hsecond' hp => ?_⟩
  obtain ⟨first, hf, hn, rfl⟩ := (mem_leaveOut h.ids hremoved honly).1 hf'
  obtain ⟨second, hsecond, hn', rfl⟩ := (mem_leaveOut h.ids hremoved honly).1 hsecond'
  exact (hpaths _ _ hn' hn).2 (h.places first hf second hsecond hp)

end

end LeaveOut

/-! ### What the checks say -/

section Checks

variable {rows : List WorkflowStep}

theorem checkDependencies_eq_ok {known : List String} {step : WorkflowStep}
    (h : step.checkDependencies known = .ok ()) : ∀ d ∈ step.dependsOn, d ∈ known := by
  obtain ⟨-, -, h⟩ := bind_eq_ok.1 h
  simpa [List.all_eq_true] using require_eq_ok.1 h

/-- The one row that a filter lets through. -/
theorem filter_eq_singleton {p : WorkflowStep → Bool} (hlen : (rows.filter p).length ≤ 1)
    (hr : row ∈ rows) (hp : p row) : rows.filter p = [row] := by
  have hm : row ∈ rows.filter p := List.mem_filter.2 ⟨hr, hp⟩
  obtain ⟨x, hx⟩ := List.length_eq_one_iff.1 (le_antisymm hlen (List.length_pos_of_mem hm))
  rw [hx] at hm ⊢
  rw [List.mem_singleton.1 hm]

theorem validateCloudInitWorkflow_ancestor {selected : Bool}
    (h : validateCloudInitWorkflow rows = .ok selected) {declaration apply : WorkflowStep}
    (hdeclaration : declaration ∈ rows) (ht : declaration.type = .cloudInit)
    (happly : apply ∈ rows) (ht' : apply.type = .terraformApply) :
    declaration.id ∈ ancestorsOf rows apply.id := by
  have hm : declaration ∈ rows.filter (·.type = .cloudInit) :=
    List.mem_filter.2 ⟨hdeclaration, by simpa using ht⟩
  unfold validateCloudInitWorkflow at h
  split at h
  · next hn => rw [hn] at hm; cases hm
  · next only honly =>
    rw [honly] at hm
    obtain rfl := List.mem_singleton.1 hm
    simp only [bind_eq_ok] at h
    obtain ⟨-, -, -, -, -, -, -, -, -, -, _, hancestor, -⟩ := h
    simpa [ht'] using List.all_eq_true.1 (require_eq_ok.1 hancestor) apply happly
  · cases h

/-- The one apply step has the plan and the approval above it and the steps on the machine
below it. -/
theorem checkTerraform_ancestor (h : checkTerraform rows = .ok ())
    (hp : (rows.filter (·.type = .terraformPlan)).length ≤ 1)
    (happr : (rows.filter (·.type = .approval)).length ≤ 1) {first second : WorkflowStep}
    (hf : first ∈ rows) (hsecond : second ∈ rows) (hcloud : first.type ≠ .cloudInit)
    (hprecedes : first.type.precedes second.type) : first.id ∈ ancestorsOf rows second.id := by
  have hhead {type : StepType} (hlen : (rows.filter (·.type = type)).length ≤ 1)
      {row : WorkflowStep} (hr : row ∈ rows) (htype : row.type = type) :
      (rows.filter (·.type = type)).head? = some row := by
    rw [filter_eq_singleton hlen hr (by simpa using htype)]
    rfl
  unfold checkTerraform at h
  split at h
  · next apply honly =>
    have happly {row : WorkflowStep} (hr : row ∈ rows) (htype : row.type = .terraformApply) :
        apply = row := by
      have hlen : (rows.filter (·.type = .terraformApply)).length ≤ 1 := by rw [honly]; rfl
      have hs := filter_eq_singleton hlen hr (by simpa using htype)
      exact List.singleton_inj.1 (honly.symm.trans hs)
    simp only [bind_eq_ok] at h
    obtain ⟨-, -, -, -, _, hplanApply, _, ha, _, hplan, hruntime⟩ := h
    rw [require_eq_ok] at hplanApply ha hplan
    obtain ⟨ht, -⟩ | ⟨ht, ht'⟩ | ⟨ht, ht'⟩ | ⟨ht, ht'⟩ | ⟨ht, ht'⟩ := StepType.precedes_cases hprecedes
    · exact absurd ht hcloud
    · simpa [hhead hp hf ht, hhead happr hsecond ht'] using hplan
    · rw [← happly hsecond ht']
      simpa [hhead hp hf ht] using hplanApply
    · rw [← happly hsecond ht']
      simpa [hhead happr hf ht] using ha
    · rw [← happly hf ht]
      simpa [ht'] using require_eq_ok.1 (forEach_eq_ok.1 hruntime second hsecond)
  · cases h

theorem checkApproval_length {requiresApproval : Bool}
    (h : checkApproval requiresApproval rows = .ok ()) :
    (rows.filter (·.type = .approval)).length ≤ 1 := by
  obtain ⟨-, -, h⟩ := bind_eq_ok.1 h
  obtain ⟨_, hlen, -⟩ := bind_eq_ok.1 h
  simpa using require_eq_ok.1 hlen

/-- There is no step for AWX, or one. -/
theorem checkOnboarding_registerAwx {d : BlueprintDeployment}
    (h : checkOnboarding d rows = .ok ()) :
    (rows.filter (·.type = .registerAwx)).length ≤ 1 := by
  simp only [checkOnboarding, bind_eq_ok] at h
  obtain ⟨-, -, -, -, -, -, _, hone, hn⟩ := h
  rw [require_eq_ok] at hone hn
  cases hawx : d.awx with
  | true =>
    rw [hawx] at hone
    exact (of_decide_eq_true hone).le
  | false =>
    rw [hawx] at hn
    rw [of_decide_eq_true hn]
    exact Nat.zero_le 1

end Checks

namespace BlueprintInput

variable {input : BlueprintInput}

theorem rows_named (hr : row ∈ input.rows) : row.id ≠ "" := by
  obtain ⟨step, -, rfl⟩ := List.mem_map.1 hr
  intro hempty
  have hslug := step.idSlug
  rw [hempty] at hslug
  exact absurd hslug (by decide)

/-- What every accepted workflow has, whatever executes it. -/
theorem graph (h : input.dag = .ok ()) :
    WorkflowDag input.rows ∧ (input.rows.filter (·.type = .registerAwx)).length ≤ 1 := by
  simp only [dag, bind_eq_ok] at h
  obtain ⟨-, -, _, hids, _, hdependencies, -, -, _, hacyclic, -, -, -, -, -, -, -, -, h⟩ := h
  have honboarding : checkOnboarding input.deployment input.rows = .ok () := by
    split at h
    all_goals exact (bind_eq_ok.1 h).choose_spec.2
  have hids : (input.rows.map (·.id)).Nodup := by simpa using require_eq_ok.1 hids
  have hknown : ∀ row ∈ input.rows, ∀ d ∈ row.dependsOn, d ∈ input.rows.map (·.id) :=
    fun row hr => checkDependencies_eq_ok (forEach_eq_ok.1 hdependencies row hr)
  have he := (acyclic_iff (graphOf_subset hids hknown)).1 (require_eq_ok.1 hacyclic)
  exact ⟨⟨hids, fun row => rows_named, hknown, fun row hr => he row.id (List.mem_map_of_mem hr)⟩,
    checkOnboarding_registerAwx honboarding⟩

theorem sound (h : input.dag = .ok ()) (he : input.deployment.executor ≠ .proxmox) :
    Sound input.rows := by
  have hdag := (graph h).1
  simp only [dag, bind_eq_ok] at h
  obtain ⟨-, -, -, -, -, -, -, -, -, -, -, -, selected, hcloud, _, ha, _, hp, h⟩ := h
  rw [if_neg he] at h
  obtain ⟨_, hterraform, -⟩ := bind_eq_ok.1 h
  refine ⟨hdag, fun first hf second hsecond hprecedes => ?_⟩
  refine (mem_ancestors (graphOf_subset hdag.ids hdag.known) (List.mem_map_of_mem hsecond)).1 ?_
  by_cases ht : first.type = .cloudInit
  · have ht' : second.type = .terraformApply := by
      rw [ht] at hprecedes
      obtain ⟨-, h⟩ | ⟨h, -⟩ | ⟨h, -⟩ | ⟨h, -⟩ | ⟨h, -⟩ := StepType.precedes_cases hprecedes
      · exact h
      all_goals cases h
    exact validateCloudInitWorkflow_ancestor hcloud hf ht hsecond ht'
  · exact checkTerraform_ancestor hterraform (by simpa using require_eq_ok.1 hp)
      (checkApproval_length ha) hf hsecond ht hprecedes

end BlueprintInput

/-- Either the workflow is executed as it is, or without its one step for AWX. -/
theorem executionWorkflowSteps_cases (hlen : (rows.filter (·.type = .registerAwx)).length ≤ 1)
    (promptAwxOnExecute awx : Bool) :
    executionWorkflowSteps rows promptAwxOnExecute awx = rows
      ∨ ∃ rem ∈ rows, (∀ row ∈ rows, row.type = rem.type → row = rem)
        ∧ executionWorkflowSteps rows promptAwxOnExecute awx = leaveOut rem rows := by
  unfold executionWorkflowSteps
  dsimp only
  split
  · exact .inl rfl
  split
  · exact .inl rfl
  next hremoved =>
  obtain ⟨rem, hfilter⟩ : ∃ rem, rows.filter (·.type = .registerAwx) = [rem] := by
    refine List.length_eq_one_iff.1 (le_antisymm hlen (List.length_pos_iff.2 ?_))
    exact fun hnil => hremoved (by rw [hnil]; rfl)
  have hm : rem ∈ rows.filter (·.type = .registerAwx) := by
    rw [hfilter]
    exact List.mem_singleton_self rem
  obtain ⟨hr, ht⟩ := List.mem_filter.1 hm
  have ht : rem.type = .registerAwx := by simpa using ht
  refine .inr ⟨rem, hr, fun row hr hs => ?_, ?_⟩
  · have := filter_eq_singleton hlen hr (by simpa using hs.trans ht)
    exact List.singleton_inj.1 (this.symm.trans hfilter)
  · rw [leaveOut, ht, hfilter]
    rfl

/-- The row but for its dependencies. -/
def WorkflowStep.alone (step : WorkflowStep) : WorkflowStep := { step with dependsOn := [] }

/-- The steps that are executed are all but those that are left out, in their order. -/
theorem executionWorkflowSteps_alone (rows : List WorkflowStep) (promptAwxOnExecute awx : Bool) :
    (executionWorkflowSteps rows promptAwxOnExecute awx).map WorkflowStep.alone
      = (rows.filter fun row => !promptAwxOnExecute || awx || row.type ≠ .registerAwx).map
        WorkflowStep.alone := by
  unfold executionWorkflowSteps
  dsimp only
  split
  · next h => simp [h]
  next h =>
  simp only [Bool.not_eq_true] at h
  simp only [h, Bool.false_or]
  split
  · next hnone =>
    rw [List.filter_eq_self.2 fun row hr => ?_]
    simpa using List.filter_eq_nil_iff.1 (List.map_eq_nil_iff.1 hnone) row hr
  · rw [List.map_map]
    rfl

/-- The steps that are executed are those of the workflow, without the one for AWX if it is left
out; they have no cycle and depend on each other as in the workflow. -/
theorem executed_dependencies (input : BlueprintInput) (haccepted : input.dag = .ok ())
    (awx : Bool) :
    let steps := executionWorkflowSteps input.rows input.deployment.promptAwxOnExecute awx
    steps.map WorkflowStep.alone = (input.rows.filter fun row =>
        !input.deployment.promptAwxOnExecute || awx || row.type ≠ .registerAwx).map
          WorkflowStep.alone
      ∧ (∀ step ∈ steps, ∀ d ∈ step.dependsOn, d ∈ steps.map (·.id))
      ∧ (∀ x, ¬Path (graphOf steps) x x)
      ∧ ∀ a ∈ steps, ∀ b ∈ steps,
        (Path (graphOf steps) b.id a.id ↔ Path (graphOf input.rows) b.id a.id) := by
  obtain ⟨hdag, hlen⟩ := BlueprintInput.graph haccepted
  intro steps
  refine ⟨executionWorkflowSteps_alone .., ?_⟩
  rcases executionWorkflowSteps_cases hlen input.deployment.promptAwxOnExecute awx with
    hs | ⟨removed, hremoved, honly, hleft⟩
  · rw [show steps = input.rows from hs]
    exact ⟨hdag.known, hdag.not_path, fun _ _ _ _ => Iff.rfl⟩
  rw [show steps = leaveOut removed input.rows from hleft]
  obtain ⟨hdag', hpaths⟩ := hdag.leaveOut hremoved honly
  refine ⟨hdag'.known, hdag'.not_path, fun a ha b hb => ?_⟩
  obtain ⟨_, -, hn, rfl⟩ := (mem_leaveOut hdag.ids hremoved honly).1 ha
  obtain ⟨_, -, hn', rfl⟩ := (mem_leaveOut hdag.ids hremoved honly).1 hb
  exact hpaths _ _ hn' hn

/-! ### The order of execution -/

/-- The steps of an accepted workflow for Terraform or OpenTofu can be ordered, all of them and
also without the step for AWX. -/
theorem workflow_order (input : BlueprintInput) (haccepted : input.dag = .ok ())
    (hexecutor : input.deployment.executor ≠ .proxmox) :
    (∃ ordered, orderedWorkflowSteps input.rows = .ok ordered
        ∧ WellOrdered input.rows ordered)
      ∧ ∀ awx, ∃ ordered,
        orderedWorkflowSteps
            (executionWorkflowSteps input.rows input.deployment.promptAwxOnExecute awx)
          = .ok ordered
        ∧ WellOrdered
            (executionWorkflowSteps input.rows input.deployment.promptAwxOnExecute awx)
            ordered := by
  have hsound := BlueprintInput.sound haccepted hexecutor
  refine ⟨hsound.ordered, fun awx => ?_⟩
  rcases executionWorkflowSteps_cases (BlueprintInput.graph haccepted).2
    input.deployment.promptAwxOnExecute awx with hs | ⟨removed, hremoved, honly, hleft⟩
  · rw [hs]
    exact hsound.ordered
  · rw [hleft]
    exact (hsound.leaveOut hremoved honly).ordered

/-- A step with the default timeout. -/
def plainStep (id : String) (type : StepType) (dependsOn : List String)
    (hid : isSlug id := by decide)
    (hdepe : dependsOn.length ≤ 50 ∧ ∀ d ∈ dependsOn, isSlug d := by decide) :
    BlueprintStep where
  id := id
  type := type
  dependsOn := dependsOn
  idSlug := hid
  dependencies := hdepe
  retries := by decide
  timeouts := by decide
  rollbackLength := fun _ h => by cases h

theorem no_dependencies : ([] : List String).length ≤ 50 ∧ ∀ d ∈ ([] : List String), isSlug d := by
  decide

/-- Every kind of constraint, written in an order that cannot be executed; the notification depends
on the step for AWX. -/
def onboardingBlueprint : BlueprintInput where
  deployment := { ansibleRuns := 1, awx := true, promptAwxOnExecute := true }
  workflow :=
    [plainStep "notify" .notification ["awx", "playbook"],
      plainStep "awx" .registerAwx ["ip"],
      plainStep "playbook" .runAnsiblePlaybook ["ip"],
      plainStep "ip" .waitForIp ["apply"],
      plainStep "apply" .terraformApply ["approve"],
      plainStep "approve" .approval ["plan"],
      plainStep "plan" .terraformPlan ["init"],
      plainStep "init" .cloudInit []]
  requiresApproval := true
  workflowLength := by decide

theorem executed_dependencies_onboarding :
    onboardingBlueprint.dag = .ok ()
      ∧ let steps := executionWorkflowSteps onboardingBlueprint.rows true false
        ∀ a ∈ steps, ∀ b ∈ steps,
          (Path (graphOf steps) b.id a.id ↔ Path (graphOf onboardingBlueprint.rows) b.id a.id) :=
  ⟨by rfl, (executed_dependencies onboardingBlueprint (by rfl) false).2.2.2⟩

theorem workflow_order_onboarding :
    (∃ ordered, orderedWorkflowSteps onboardingBlueprint.rows = .ok ordered
        ∧ WellOrdered onboardingBlueprint.rows ordered)
      ∧ ∃ ordered,
        orderedWorkflowSteps (executionWorkflowSteps onboardingBlueprint.rows true false)
          = .ok ordered
        ∧ WellOrdered (executionWorkflowSteps onboardingBlueprint.rows true false) ordered
        ∧ ordered.map (·.id) = ["init", "plan", "approve", "apply", "ip", "playbook", "notify"] := by
  obtain ⟨hr, he⟩ := workflow_order onboardingBlueprint (by rfl) (by decide)
  obtain ⟨ordered, hordered, hwell⟩ := he false
  refine ⟨hr, ordered, hordered, hwell, ?_⟩
  have hids : (orderedWorkflowSteps
      (executionWorkflowSteps onboardingBlueprint.rows true false)).map (·.map (·.id))
        = .ok ["init", "plan", "approve", "apply", "ip", "playbook", "notify"] := by rfl
  have ho : orderedWorkflowSteps (executionWorkflowSteps onboardingBlueprint.rows true false)
      = .ok ordered := hordered
  rw [ho] at hids
  exact Except.ok.inj hids

end CloudPortal
