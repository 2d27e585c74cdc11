/-
CloudPortal/Lib/Digraph.lean

Directed graphs given by lists of successors, and three loops over them.

* `visit` is the depth-first search that rejects a graph when it comes back to a node that
  it is still visiting; `acyclic_iff` says that it accepts exactly the graphs in which
  every node is accessible, so that none lies on a cycle.
* `ancestors` collects what can be reached from a node with a stack; `mem_ancestors` says
  that it is the transitive closure of the edges.
* `order` moves rows whose dependencies are all there to the result, round by round
  (`InRounds`).  It succeeds on accessible rows (`order_succeeds`), keeps all of them and puts
  dependencies first (`order_spec`); `Before` is then read off at any two rows
  that are connected by a path (`before_of_path`).
* `Contracts` is a graph with one node left out; what ends still ends and paths between
  other nodes stay.

Each loop has a number of rounds as fuel; the bounds are the ones that make it enough.
-/
import Mathlib.Algebra.Order.BigOperators.Group.List
import Mathlib.Algebra.Order.Ring.Nat
import Mathlib.Order.WellFoundedSet

namespace Digraph

open Relation

/-! ### Edges -/

section Edges

variable {α : Type*}

/-- One step along an edge. -/
def Edge (next : α → List α) (x y : α) : Prop := y ∈ next x

/-- One step or more. -/
def Path (next : α → List α) : α → α → Prop := TransGen (Edge next)

/-- Every path from the node comes to an end. -/
def Ends (next : α → List α) : α → Prop := Acc fun y x => Edge next x y

variable {next : α → List α} {x : α} {f : List α → α → Option (List α)}

/-- No cycle goes through a node from which every path ends. -/
theorem Ends.not_path (h : Ends next x) : ¬Path next x x := by
  induction h with
  | intro x _ ih =>
    intro hcycle
    -- the first node on the cycle lies on the same cycle
    obtain ⟨y, hxy, hyx⟩ := TransGen.head'_iff.1 hcycle
    refine ih y hxy ?_
    exact TransGen.tail' hyx hxy

/-- Where finitely many nodes have edges, chains without a cycle end. -/
theorem ends_of_acyclic {nodes : List α} (hnodes : ∀ x y, Edge next x y → x ∈ nodes ∧ y ∈ nodes)
    (h : ∀ x, ¬Path next x x) (x : α) : Ends next x := by
  have : IsStrictOrder α fun y x => Path next x y :=
    { irrefl := h, trans := fun _ _ _ hyx hzy => hzy.trans hyx }
  have hwf := Set.wellFoundedOn_iff.1
    (nodes.finite_toSet.wellFoundedOn (r := fun y x => Path next x y))
  refine (Subrelation.wf (fun {y x} he => ?_) hwf).apply x
  exact ⟨.single he, (hnodes x y he).2, (hnodes x y he).1⟩

/-- The nodes that were visited, the last one first, lead to nodes visited before. -/
def Finished (next : α → List α) : List α → Prop
  | [] => True
  | node :: visited => (∀ y ∈ next node, y ∈ visited) ∧ Finished next visited

theorem Finished.ends {vis : List α} (h : Finished next vis) (hx : x ∈ vis) :
    Ends next x := by
  induction vis generalizing x with
  | nil => cases hx
  | cons node vis ih =>
    rcases List.mem_cons.1 hx with rfl | hx
    · exact Acc.intro x fun y hy => ih h.2 (h.1 y hy)
    · exact ih h.2 hx

/-- A fold that succeeds keeps what each of its steps keeps. -/
theorem foldlM_finished (hf : ∀ vis node vis', Finished next vis → f vis node = some vis'
      → Finished next vis' ∧ node ∈ vis' ∧ vis ⊆ vis')
    {nodes vis vis' : List α} (hvisited : Finished next vis)
    (h : nodes.foldlM f vis = some vis') :
    Finished next vis' ∧ (∀ node ∈ nodes, node ∈ vis') ∧ vis ⊆ vis' := by
  induction nodes generalizing vis with
  | nil =>
    cases h
    exact ⟨hvisited, fun _ h => (List.not_mem_nil h).elim, List.Subset.refl _⟩
  | cons node nodes ih =>
    rw [List.foldlM_cons] at h
    obtain ⟨middle, hmid, h⟩ := Option.bind_eq_some_iff.1 h
    obtain ⟨hfinished, hnode, hs⟩ := hf vis node middle hvisited hmid
    obtain ⟨hfinished', hnod, hs'⟩ := ih hfinished h
    refine ⟨hfinished', fun x hx => ?_, List.Subset.trans hs hs'⟩
    rcases List.mem_cons.1 hx with rfl | hx
    · exact hs' hnode
    · exact hnod x hx

theorem isSome_foldlM {nodes : List α}
    (hf : ∀ node ∈ nodes, ∀ vis, (f vis node).isSome) (vis : List α) :
    (nodes.foldlM f vis).isSome := by
  induction nodes generalizing vis with
  | nil => rfl
  | cons node nodes ih =>
    obtain ⟨hnode, hnod⟩ := List.forall_mem_cons.1 hf
    obtain ⟨middle, hmid⟩ := Option.isSome_iff_exists.1 (hnode vis)
    rw [List.foldlM_cons, hmid]
    exact ih hnod middle

end Edges

/-! ### Depth-first search -/

section Search

variable {α : Type*} [DecidableEq α] (next : α → List α)

/-- Visit a node and what it leads to; `none` if the search comes back to a node that is still
being visited. -/
def visit : ℕ → List α → List α → α → Option (List α)
  | 0, _, _, _ => none
  | fuel + 1, visiting, visited, node =>
    if node ∈ visiting then none
    else if node ∈ visited then some visited
    else ((next node).foldlM (visit fuel (node :: visiting)) visited).map (node :: ·)

/-- The search from every node ends without coming back. -/
def acyclic (nodes : List α) : Bool :=
  (nodes.foldlM (visit next (nodes.length + 1) []) []).isSome

variable {next} {node : α}

theorem visit_finished {fuel : ℕ} {visiting vis vis' : List α}
    (hvisited : Finished next vis) (h : visit next fuel visiting vis node = some vis') :
    Finished next vis' ∧ node ∈ vis' ∧ vis ⊆ vis' := by
  induction fuel generalizing visiting vis vis' node with
  | zero => cases h
  | succ fuel ih =>
    unfold visit at h
    split at h
    · cases h
    split at h
    · next hm =>
      cases h
      exact ⟨hvisited, hm, List.Subset.refl _⟩
    obtain ⟨below, hbelow, rfl⟩ := Option.map_eq_some_iff.1 h
    obtain ⟨hfinished, hn, hs⟩ :=
      foldlM_finished (fun _ _ _ hvisited h => ih hvisited h) hvisited hbelow
    exact ⟨⟨hn, hfinished⟩, List.mem_cons_self, List.Subset.trans hs (List.subset_cons_self _ _)⟩

/-- Where every path ends the search never comes back, and the fuel is enough: the nodes that are
being visited are different from each other. -/
theorem visit_succeeds {nodes : List α} (hclosed : ∀ x ∈ nodes, next x ⊆ nodes) {fuel : ℕ}
    {visiting vis : List α} (hends : Ends next node) (hnode : node ∈ nodes)
    (hnodup : visiting.Nodup) (hs : visiting ⊆ nodes)
    (hfuel : nodes.length < fuel + visiting.length) (hp : ∀ x ∈ visiting, Path next x node) :
    ∃ vis', visit next fuel visiting vis node = some vis' := by
  induction fuel generalizing visiting vis node with
  | zero =>
    have := (List.subperm_of_subset hnodup hs).length_le
    omega
  | succ fuel ih =>
    have hn : node ∉ visiting := fun hm => hends.not_path (hp node hm)
    unfold visit
    rw [if_neg hn]
    split
    · exact ⟨vis, rfl⟩
    have hbelow : ∀ y ∈ next node, ∀ vis, (visit next fuel (node :: visiting) vis y).isSome := by
      intro y he vis
      refine Option.isSome_iff_exists.2 (ih (hends.inv he) (hclosed node hnode he)
        (List.nodup_cons.2 ⟨hn, hnodup⟩) (List.cons_subset.2 ⟨hnode, hs⟩)
        (by simp only [List.length_cons]; omega) fun x hx => ?_)
      rcases List.mem_cons.1 hx with rfl | hx
      · exact .single he
      · exact (hp x hx).tail he
    obtain ⟨vis', h⟩ := Option.isSome_iff_exists.1 (isSome_foldlM hbelow vis)
    exact ⟨node :: vis', by rw [h]; rfl⟩

/-- The search accepts exactly the graphs in which every path ends. -/
theorem acyclic_iff {nodes : List α} (hclosed : ∀ x ∈ nodes, next x ⊆ nodes) :
    acyclic next nodes ↔ ∀ x ∈ nodes, Ends next x := by
  constructor
  · intro h x hx
    obtain ⟨vis, hvisited⟩ := Option.isSome_iff_exists.1 h
    have hempty : Finished next [] := trivial
    obtain ⟨hfinished, hnodes, -⟩ :=
      foldlM_finished (fun _ _ _ hvisited h => visit_finished hvisited h) hempty hvisited
    exact hfinished.ends (hnodes x hx)
  · intro he
    refine isSome_foldlM (fun x hx vis => Option.isSome_iff_exists.2 ?_) []
    exact visit_succeeds hclosed (he x hx) hx List.nodup_nil (List.nil_subset nodes) (by simp)
      fun _ h => (List.not_mem_nil h).elim

end Search

/-! ### Transitive closure -/

section Closure

variable {α : Type*} [DecidableEq α] (next : α → List α)

/-- Take nodes from the stack until it is empty; a new node puts its successors there. -/
def collect : ℕ → List α → List α → List α
  | 0, result, _ => result
  | _, result, [] => result
  | fuel + 1, result, node :: stack =>
    if node ∈ result then collect fuel result stack
    else collect fuel (node :: result) ((next node).reverse ++ stack)

/-- The nodes that can be reached from a node of the graph. -/
def ancestors (nodes : List α) (x : α) : List α :=
  collect next ((next x).length + (nodes.map fun y => (next y).length).sum) [] (next x).reverse

variable {next} {res stack nodes : List α}

theorem collect_sound {fuel : ℕ} {x y : α} (hr : ∀ z ∈ res, Path next x z)
    (hs : ∀ z ∈ stack, Path next x z) (hy : y ∈ collect next fuel res stack) :
    Path next x y := by
  induction fuel generalizing res stack with
  | zero => exact hr y hy
  | succ fuel ih =>
    cases stack with
    | nil => exact hr y hy
    | cons node stack =>
      obtain ⟨hnode, hs⟩ := List.forall_mem_cons.1 hs
      unfold collect at hy
      split at hy
      · exact ih hr hs hy
      refine ih (List.forall_mem_cons.2 ⟨hnode, hr⟩) (fun z hz => ?_) hy
      rcases List.mem_append.1 hz with hz | hz
      · exact hnode.tail (List.mem_reverse.1 hz)
      · exact hs z hz

/-- The successors that are still to be put on the stack. -/
def remaining (next : α → List α) (nodes result : List α) : ℕ :=
  ((nodes.filter (· ∉ result)).map fun y => (next y).length).sum

variable (next) in
theorem remaining_cons {x : α} (hx : x ∈ nodes) (hn : x ∉ res) :
    remaining next nodes (x :: res) + (next x).length ≤ remaining next nodes res := by
  have hmono (nodes : List α) : remaining next nodes (x :: res) ≤ remaining next nodes res := by
    unfold remaining
    refine List.Sublist.sum_le_sum (List.Sublist.map _ ?_) fun _ _ => Nat.zero_le _
    refine List.monotone_filter_right nodes fun y hy => ?_
    simp only [List.mem_cons, not_or, decide_eq_true_eq] at hy ⊢
    exact hy.2
  induction nodes with
  | nil => cases hx
  | cons y nodes ih =>
    by_cases hy : y = x
    · subst hy
      have := hmono nodes
      simp only [remaining, List.filter_cons, List.mem_cons, true_or, not_true_eq_false,
        decide_false, Bool.false_eq_true, ↓reduceIte, hn, not_false_eq_true, decide_true,
        List.map_cons, List.sum_cons] at this ⊢
      omega
    have hx : x ∈ nodes := (List.mem_cons.1 hx).resolve_left fun h => hy h.symm
    have := ih hx
    simp only [remaining, List.filter_cons, List.mem_cons, hy, false_or] at this ⊢
    split
    · simp only [List.map_cons, List.sum_cons]
      omega
    · exact this

/-- With enough fuel the result is closed under edges. -/
theorem collect_closed (hnod : ∀ x ∈ nodes, next x ⊆ nodes) {fuel : ℕ} (hs : stack ⊆ nodes)
    (hfuel : stack.length + remaining next nodes res ≤ fuel)
    (hclosed : ∀ x ∈ res, ∀ y ∈ next x, y ∈ res ∨ y ∈ stack) :
    res ⊆ collect next fuel res stack ∧ stack ⊆ collect next fuel res stack
      ∧ ∀ x ∈ collect next fuel res stack, ∀ y ∈ next x, y ∈ collect next fuel res stack := by
  induction fuel generalizing res stack with
  | zero =>
    have hempty : stack = [] := List.length_eq_zero_iff.1 (by omega)
    subst hempty
    refine ⟨List.Subset.refl _, List.nil_subset _, fun x hx y hy => ?_⟩
    exact (hclosed x hx y hy).resolve_right List.not_mem_nil
  | succ fuel ih =>
    cases stack with
    | nil =>
      refine ⟨List.Subset.refl _, List.nil_subset _, fun x hx y hy => ?_⟩
      exact (hclosed x hx y hy).resolve_right List.not_mem_nil
    | cons node stack =>
      obtain ⟨hnode, hs⟩ := List.cons_subset.1 hs
      rw [List.length_cons] at hfuel
      unfold collect
      split
      · next hm =>
        obtain ⟨hr, hbelow, ha⟩ := @ih res stack hs (by omega) fun x hx y hy => by
          rcases hclosed x hx y hy with hy | hy
          · exact .inl hy
          rcases List.mem_cons.1 hy with rfl | hy
          · exact .inl hm
          · exact .inr hy
        exact ⟨hr, List.cons_subset.2 ⟨hr hm, hbelow⟩, ha⟩
      next hn =>
      have hless := remaining_cons next hnode hn
      have hnext : (next node).reverse ++ stack ⊆ nodes := fun y hy =>
        (List.mem_append.1 hy).elim (fun hy => hnod node hnode (List.mem_reverse.1 hy))
          fun hy => hs hy
      obtain ⟨hr, hbelow, ha⟩ := @ih (node :: res) ((next node).reverse ++ stack) hnext
        (by simp only [List.length_append, List.length_reverse]; omega) fun x hx y hy => by
          rcases List.mem_cons.1 hx with rfl | hx
          · exact .inr (List.mem_append_left _ (List.mem_reverse.2 hy))
          rcases hclosed x hx y hy with hy | hy
          · exact .inl (List.mem_cons_of_mem node hy)
          rcases List.mem_cons.1 hy with rfl | hy
          · exact .inl List.mem_cons_self
          · exact .inr (List.mem_append_right _ hy)
      obtain ⟨hnode', hr⟩ := List.cons_subset.1 hr
      exact ⟨hr, List.cons_subset.2 ⟨hnode', (List.append_subset.1 hbelow).2⟩, ha⟩

theorem mem_ancestors (hnodes : ∀ x ∈ nodes, next x ⊆ nodes) {x y : α} (hx : x ∈ nodes) :
    y ∈ ancestors next nodes x ↔ Path next x y := by
  constructor
  · refine collect_sound (fun _ h => (List.not_mem_nil h).elim) fun z hz => ?_
    exact .single (List.mem_reverse.1 hz)
  intro hp
  have hfuel : (next x).reverse.length + remaining next nodes []
      ≤ (next x).length + (nodes.map fun y => (next y).length).sum := by
    simp [remaining]
  obtain ⟨-, hs, ha⟩ := collect_closed hnodes
    (fun z hz => hnodes x hx (List.mem_reverse.1 hz)) hfuel
    fun _ h => (List.not_mem_nil h).elim
  induction hp with
  | single he => exact hs (List.mem_reverse.2 he)
  | tail _ he ih => exact ha _ ih _ he

end Closure

/-! ### Leaving a node out -/

section Contraction

variable {α : Type*} {next next' : α → List α} {r : α}

/-- `next'` is the graph without the node `r`, whose edges in and out are joined. -/
def Contracts (next next' : α → List α) (r : α) : Prop :=
  ∀ x y, Edge next' x y ↔ x ≠ r ∧ (Edge next x y ∧ y ≠ r ∨ Edge next x r ∧ Edge next r y)

theorem Contracts.path_of_edge (h : Contracts next next' r) {x y : α} (he : Edge next' x y) :
    Path next x y := by
  obtain ⟨-, ⟨hxy, -⟩ | ⟨hxr, hry⟩⟩ := (h x y).1 he
  · exact .single hxy
  · exact (TransGen.single hxr).tail hry

theorem Contracts.old_path (h : Contracts next next' r) {x y : α} (hp : Path next' x y) :
    Path next x y :=
  TransGen.trans_induction_on hp h.path_of_edge fun _ _ => .trans

theorem Contracts.ends (h : Contracts next next' r) {x : α} (hends : Ends next x) :
    Ends next' x := by
  have hpaths : Acc (TransGen fun y x => Edge next x y) x := Acc.transGen hends
  refine Subrelation.accessible (fun {y x} he => ?_) hpaths
  exact transGen_swap.2 (h.path_of_edge he)

/-- Paths between other nodes stay. -/
theorem Contracts.path (h : Contracts next next' r) (hl : ¬Edge next r r) {x y : α}
    (hp : Path next x y) (hx : x ≠ r) (hy : y ≠ r) : Path next' x y := by
  -- a path that starts at `r` itself is one from each node before `r`
  suffices hboth : (x ≠ r → Path next' x y)
      ∧ (x = r → ∀ z, z ≠ r → Edge next z r → Path next' z y) from hboth.1 hx
  clear hx
  induction hp using TransGen.head_induction_on with
  | single hxy =>
    refine ⟨fun hx => .single ((h _ _).2 ⟨hx, .inl ⟨hxy, hy⟩⟩), ?_⟩
    rintro rfl z hz hzr
    exact .single ((h _ _).2 ⟨hz, .inr ⟨hzr, hxy⟩⟩)
  | @head x m hxm _ ih =>
    refine ⟨fun hx => ?_, ?_⟩
    · by_cases hm : m = r
      · exact ih.2 hm x hx (hm ▸ hxm)
      · exact TransGen.head ((h x m).2 ⟨hx, .inl ⟨hxm, hm⟩⟩) (ih.1 hm)
    · rintro rfl z hz hzr
      have hm : m ≠ x := fun hm => hl (hm ▸ hxm)
      exact TransGen.head ((h z m).2 ⟨hz, .inr ⟨hzr, hxm⟩⟩) (ih.1 hm)

end Contraction

/-! ### Topological order -/

section Order

variable {α β : Type*} (key : β → α) (deps : β → List α)

/-- Every row comes after its dependencies; those in `done` are completed. -/
def DepsFirst : List α → List β → Prop
  | _, [] => True
  | done, row :: rows => (∀ d ∈ deps row, d ∈ done) ∧ DepsFirst (done ++ [key row]) rows

variable {key deps} {done completed : List α} {rows pending ord res : List β} {next : α → List α}
  {row parent : β}

theorem depsFirst_append {xs ys : List β} :
    DepsFirst key deps done (xs ++ ys)
      ↔ DepsFirst key deps done xs ∧ DepsFirst key deps (done ++ xs.map key) ys := by
  induction xs generalizing done with
  | nil => simp [DepsFirst]
  | cons x xs ih =>
    simp only [List.cons_append, DepsFirst, ih, List.map_cons, List.append_assoc, and_assoc,
      List.nil_append]

/-- Rows that are ready together come in any order. -/
theorem depsFirst_of_ready (h : ∀ row ∈ rows, ∀ d ∈ deps row, d ∈ done) :
    DepsFirst key deps done rows := by
  induction rows generalizing done with
  | nil => trivial
  | cons row rows ih =>
    obtain ⟨hr, hrows⟩ := List.forall_mem_cons.1 h
    exact ⟨hr, ih fun row hm d hd => List.mem_append_left _ (hrows row hm d hd)⟩

/-- If every chain of dependencies ends, one of the pending rows is ready. -/
theorem exists_ready (hn : ∀ row ∈ pending, ∀ d ∈ deps row, Edge next (key row) d)
    (hknown : ∀ row ∈ pending, ∀ d ∈ deps row, d ∈ completed ∨ d ∈ pending.map key) {x : α}
    (he : Ends next x) (hr : row ∈ pending) (hx : key row = x) :
    ∃ row ∈ pending, ∀ d ∈ deps row, d ∈ completed := by
  induction he generalizing row with
  | intro x _ ih =>
    by_cases hready : ∀ d ∈ deps row, d ∈ completed
    · exact ⟨row, hr, hready⟩
    push Not at hready
    obtain ⟨d, hd, ho⟩ := hready
    obtain ⟨row', hr', hk⟩ :=
      List.mem_map.1 ((hknown row hr d hd).resolve_left ho)
    exact ih d (hx ▸ hn row hr d hd) hr' hk

variable [DecidableEq α]

/-- A row that is ready now. -/
theorem mem_ready :
    row ∈ rows.filter (fun row => (deps row).all (· ∈ completed))
      ↔ row ∈ rows ∧ ∀ d ∈ deps row, d ∈ completed := by
  simp only [List.mem_filter, List.all_eq_true, decide_eq_true_eq]

variable [DecidableEq β] {fuel : ℕ}

variable (key deps) in
/-- Move the rows whose dependencies are all completed, until no row is pending; the result is
`some none` if no row is ready, and `none` if there are not enough rounds. -/
def orderLoop : ℕ → List β → List α → List β → Option (Option (List β))
  | _, [], _, ordered => some (some ordered)
  | 0, _ :: _, _, _ => none
  | fuel + 1, row :: rows, completed, ordered =>
    let ready := (row :: rows).filter fun row => (deps row).all (· ∈ completed)
    if ready = [] then some none
    else orderLoop fuel ((row :: rows).diff ready) (completed ++ ready.map key) (ordered ++ ready)

variable (key deps) in
/-- Each round moves a row, so as many rounds as rows are enough (`orderLoop_order`). -/
def order (rows : List β) : Option (List β) := (orderLoop key deps rows.length rows [] []).join

/-- The rows that are ready, and those that are left. -/
theorem perm_ready : ((pending.filter fun row => (deps row).all (· ∈ completed)) ++
    pending.diff (pending.filter fun row => (deps row).all (· ∈ completed))).Perm pending :=
  List.subperm_append_diff_self_of_count_le fun x _ => List.filter_sublist.subperm.count_le x

/-- With as many rounds as rows, or more, the loop comes to an end, and always to the same. -/
theorem orderLoop_fuel {fuel' : ℕ} (h : pending.length ≤ fuel) (h' : pending.length ≤ fuel') :
    ∃ res, orderLoop key deps fuel pending completed ord = some res
      ∧ orderLoop key deps fuel' pending completed ord = some res := by
  induction fuel generalizing fuel' pending completed ord with
  | zero =>
    rw [List.length_eq_zero_iff.1 (Nat.le_zero.1 h)]
    cases fuel' <;> exact ⟨some ord, rfl, rfl⟩
  | succ fuel ih =>
    cases pending with
    | nil => cases fuel' <;> exact ⟨some ord, rfl, rfl⟩
    | cons row rows =>
      cases fuel' with
      | zero => cases h'
      | succ fuel' =>
        unfold orderLoop
        dsimp only
        split
        · exact ⟨none, rfl, rfl⟩
        next hn =>
        have hlength := (@perm_ready α β deps completed (row :: rows) _ _).length_eq
        have hpos := List.length_pos_of_ne_nil hn
        rw [List.length_append] at hlength
        exact ih (by omega) (by omega)

theorem orderLoop_order (h : rows.length ≤ fuel) :
    orderLoop key deps fuel rows [] [] = some (order key deps rows) := by
  obtain ⟨res, hfuel, hlength⟩ : ∃ res, orderLoop key deps fuel rows [] [] = some res
      ∧ orderLoop key deps rows.length rows [] [] = some res := orderLoop_fuel h le_rfl
  rw [hfuel, order, hlength]
  rfl

variable (key deps rows) in
/-- Each round places the rows that are left and whose dependencies are placed, until none is
left. -/
def InRounds : List β → List (List β) → Prop
  | placed, [] => ∀ row ∈ rows, row ∈ placed
  | placed, round :: rounds =>
    round = (rows.filter (· ∉ placed)).filter (fun row => (deps row).all (· ∈ placed.map key))
      ∧ InRounds (placed ++ round) rounds

theorem orderLoop_rounds (hr : rows.Nodup) (hpending : pending = rows.filter (· ∉ ord))
    (h : orderLoop key deps fuel pending (ord.map key) ord = some (some res)) :
    ∃ rounds, res = ord ++ rounds.flatten ∧ InRounds key deps rows ord rounds := by
  induction fuel generalizing pending ord with
  | zero =>
    cases pending with
    | nil =>
      cases h
      exact ⟨[], by simp, by simpa [InRounds] using hpending⟩
    | cons => cases h
  | succ fuel ih =>
    cases pending with
    | nil =>
      cases h
      exact ⟨[], by simp, by simpa [InRounds] using hpending⟩
    | cons row rest =>
      unfold orderLoop at h
      dsimp only at h
      split at h
      · cases h
      rw [← List.map_append, hpending] at h
      obtain ⟨rounds, rfl, hin⟩ := ih (by
        rw [(hr.filter _).sdiff_eq_filter, List.filter_filter]
        exact List.filter_congr fun row _ => by simp [Bool.and_comm]) h
      exact ⟨_ :: rounds, by simp, rfl, hin⟩

/-- Every row comes after its dependencies and none is lost. -/
theorem InRounds.spec {rounds : List (List β)} (h : InRounds key deps rows ord rounds)
    (hrows : rows.Nodup) (horder : DepsFirst key deps [] ord) (hnodup : ord.Nodup) (hs : ord ⊆ rows) :
    DepsFirst key deps [] (ord ++ rounds.flatten) ∧ (ord ++ rounds.flatten).Perm rows := by
  induction rounds generalizing ord with
  | nil =>
    rw [List.flatten_nil, List.append_nil]
    exact ⟨horder, (List.perm_ext_iff_of_nodup hnodup hrows).2 fun row => ⟨(hs ·), h row⟩⟩
  | cons round rounds ih =>
    obtain ⟨rfl, h⟩ := h
    rw [List.flatten_cons, ← List.append_assoc]
    refine ih h (depsFirst_append.2 ⟨horder, depsFirst_of_ready fun row hr => (mem_ready.1 hr).2⟩)
      ?_ ?_
    · refine hnodup.append ((hrows.filter _).filter _) fun row hr hn => ?_
      simpa [hr] using List.mem_of_mem_filter hn
    · exact List.append_subset.2 ⟨hs, fun row hr =>
        List.mem_of_mem_filter (List.mem_of_mem_filter hr)⟩

/-- What is ready when a round begins is placed when it ends. -/
theorem InRounds.ready {before after : List (List β)} {round : List β}
    (h : InRounds key deps rows ord (before ++ round :: after)) (hr : row ∈ rows)
    (hd : ∀ d ∈ deps row, d ∈ (ord ++ before.flatten).map key) :
    row ∈ ord ++ (before.flatten ++ round) := by
  induction before generalizing ord with
  | nil =>
    rw [List.flatten_nil, List.append_nil] at hd
    obtain ⟨rfl, -⟩ := h
    rw [List.flatten_nil, List.nil_append, List.mem_append, mem_ready, List.mem_filter]
    by_cases ho : row ∈ ord
    · exact .inl ho
    · exact .inr ⟨⟨hr, decide_eq_true ho⟩, hd⟩
  | cons first before ih => simpa using ih h.2 (by simpa using hd)

theorem orderLoop_succeeds (hn : ∀ row ∈ pending, ∀ d ∈ deps row, Edge next (key row) d)
    (hknown : ∀ row ∈ pending, ∀ d ∈ deps row, d ∈ completed ∨ d ∈ pending.map key)
    (he : ∀ row ∈ pending, Ends next (key row)) (hfuel : pending.length ≤ fuel) :
    ∃ res, orderLoop key deps fuel pending completed ord = some (some res) := by
  induction fuel generalizing pending ord completed with
  | zero =>
    have hempty : pending = [] := List.length_eq_zero_iff.1 (by omega)
    subst hempty
    exact ⟨ord, rfl⟩
  | succ fuel ih =>
    cases pending with
    | nil => exact ⟨ord, rfl⟩
    | cons row rows =>
      obtain ⟨first, hf, hdeps⟩ :=
        exists_ready hn hknown (he row List.mem_cons_self) List.mem_cons_self rfl
      have hready := mem_ready.2 ⟨hf, hdeps⟩
      unfold orderLoop
      dsimp only
      have hp := @perm_ready α β deps completed (row :: rows) _ _
      generalize (row :: rows).filter (fun row => (deps row).all (· ∈ completed)) = ready
        at hready hp ⊢
      rw [if_neg (List.ne_nil_of_mem hready)]
      have hre {r : β} (hr : r ∈ (row :: rows).diff ready) : r ∈ row :: rows :=
        List.diff_subset _ _ hr
      have hlength := hp.length_eq
      have hpos := List.length_pos_of_mem hready
      rw [List.length_append] at hlength
      refine ih (fun r hr => hn r (hre hr)) (fun r hr d hd => ?_)
        (fun r hr => he r (hre hr)) (by omega)
      rcases hknown r (hre hr) d hd with hdone | hpending
      · exact .inl (List.mem_append_left _ hdone)
      obtain ⟨r', hr', rfl⟩ := List.mem_map.1 hpending
      rcases List.mem_append.1 (hp.mem_iff.2 hr') with hr' | hr'
      · exact .inl (List.mem_append_right _ (List.mem_map_of_mem hr'))
      · exact .inr (List.mem_map_of_mem hr')

/-- Rows that depend on each other only, with no endless chain, can be ordered. -/
theorem order_succeeds (hn : ∀ row ∈ rows, ∀ d ∈ deps row, Edge next (key row) d)
    (hknown : ∀ row ∈ rows, ∀ d ∈ deps row, d ∈ rows.map key)
    (he : ∀ row ∈ rows, Ends next (key row)) : ∃ res, order key deps rows = some res := by
  obtain ⟨res, h⟩ := orderLoop_succeeds hn (fun row hr d hd => .inr (hknown row hr d hd)) he le_rfl
  exact ⟨res, Option.some.inj ((orderLoop_order le_rfl).symm.trans h)⟩

/-- What an order of rows without duplicates is. -/
theorem order_spec (hr : rows.Nodup) (h : order key deps rows = some res) :
    ∃ rounds, res = rounds.flatten ∧ InRounds key deps rows [] rounds
      ∧ DepsFirst key deps [] res ∧ res.Perm rows := by
  have h : orderLoop key deps _ rows (List.map key []) [] = some (some res) :=
    h ▸ orderLoop_order le_rfl
  obtain ⟨rounds, rfl, hin⟩ := orderLoop_rounds hr (by simp) h
  exact ⟨rounds, rfl, hin, hin.spec hr trivial List.nodup_nil (List.nil_subset rows)⟩

/-! ### Which row comes first -/

/-- `x` comes before `y` in the list. -/
def Before (rows : List β) (x y : β) : Prop := y ∈ rows ∧ rows.idxOf x < rows.idxOf y

theorem Before.trans {x y z : β} (hxy : Before rows x y) (hyz : Before rows y z) :
    Before rows x z :=
  ⟨hyz.1, hxy.2.trans hyz.2⟩

theorem before_append {xs ys : List β} {x y : β} (h : (xs ++ ys).Nodup) (hx : x ∈ xs)
    (hy : y ∈ ys) : Before (xs ++ ys) x y := by
  have hn : y ∉ xs := fun hm => (List.nodup_append.1 h).2.2 y hm y hy rfl
  refine ⟨List.mem_append_right _ hy, ?_⟩
  rw [List.idxOf_append_of_mem hx, List.idxOf_append_of_notMem hn]
  exact Nat.lt_add_right _ (List.idxOf_lt_length_of_mem hx)

section

variable (h : DepsFirst key deps [] rows) (hkeys : (rows.map key).Nodup) (hparent : parent ∈ rows)
include h hkeys hparent

omit [DecidableEq α] in
/-- Every row comes after the rows that it depends on. -/
theorem DepsFirst.before (hr : row ∈ rows) (hdeps : key parent ∈ deps row) :
    Before rows parent row := by
  obtain ⟨before, after, rfl⟩ := List.append_of_mem hr
  have hdone : key parent ∈ before.map key := by
    have hd := (depsFirst_append.1 h).2.1 _ hdeps
    rwa [List.nil_append] at hd
  obtain ⟨parent', hparent', hk⟩ := List.mem_map.1 hdone
  have hs : parent' = parent :=
    List.inj_on_of_nodup_map hkeys (List.mem_append_left _ hparent') hparent hk
  subst hs
  exact before_append (.of_map key hkeys) hparent' List.mem_cons_self

omit [DecidableEq α] in
/-- Rows that are connected by a path of dependencies. -/
theorem before_of_path (hn : ∀ row ∈ rows, ∀ d, Edge next (key row) d → d ∈ deps row)
    (hknown : ∀ row ∈ rows, ∀ d ∈ deps row, d ∈ rows.map key) (hr : row ∈ rows)
    (hp : Path next (key row) (key parent)) : Before rows parent row := by
  generalize hx : key row = x at hp
  induction hp using Relation.TransGen.head_induction_on generalizing row with
  | single he => exact h.before hkeys hparent hr (hn row hr _ (hx ▸ he))
  | head he _ ih =>
    have hdep := hn row hr _ (hx ▸ he)
    obtain ⟨middle, hmid, rfl⟩ := List.mem_map.1 (hknown row hr _ hdep)
    exact (ih hmid rfl).trans (h.before hkeys hmid hr hdep)

end

end Order

end Digraph
