/-
CloudPortal/Iam/JitDecisions.lean

Decisions on one just-in-time request, as transactions that may overlap.

`approve_jit` and `reject_jit` read the request without a lock, find it pending, and write
their decision with the commit; no constraint of the tables relates an assignment to the
request that it is for.  Two calls that have both found the request pending both commit.
As long as a call looks at the request only when no other one is under way, there is one
assignment exactly for an approved request (`one_grant_per_request`).
-/
import CloudPortal.Iam.Store

namespace CloudPortal.Iam

open Transition

inductive JitCall
  | approveJit | rejectJit
  deriving DecidableEq, Repr

/-- A request, what has been made of it, and the calls under way. -/
structure JitDesk where
  status : JITStatus := .pending
  assignmentId : Option ℕ := none
  /-- the assignments whose `source_ref` is the request -/
  assignments : List ℕ := []
  /-- the transactions that have found the request pending -/
  deciding : List (ℕ × JitCall) := []
  deriving DecidableEq, Repr

inductive JitEvent
  /-- the row is read; if it is not pending, the answer is 409 -/
  | look (id : ℕ) (call : JitCall)
  /-- a check fails or the process ends: the transaction is rolled back -/
  | leave (id : ℕ)
  | commit (id : ℕ)

def JitDesk.close (s : JitDesk) (id : ℕ) : JitDesk :=
  { s with deciding := s.deciding.filter (·.1 ≠ id) }

def JitDesk.step (s : JitDesk) : JitEvent → JitDesk
  | .look id call =>
    if s.status = .pending ∧ s.deciding.lookup id = none then
      { s with deciding := (id, call) :: s.deciding }
    else s
  | .leave id => s.close id
  | .commit id =>
    match s.deciding.lookup id with
    | none => s
    | some .approveJit =>
      { s.close id with
        status := .approved
        assignmentId := some s.assignments.length
        assignments := s.assignments.length :: s.assignments }
    | some .rejectJit => { s.close id with status := .rejected }

/-- A call begins only when no other one is under way. -/
def JitDesk.alone (s : JitDesk) : JitEvent → Bool
  | .look .. => s.deciding = []
  | _ => true

/-- The assignments are those that an approved request names, and who decides is alone with a
pending request. -/
structure JitDesk.Sound (s : JitDesk) : Prop where
  assignments : s.assignments = s.assignmentId.toList
  named : s.assignmentId.isSome ↔ s.status = .approved
  pending : s.deciding ≠ [] → s.status = .pending
  alone : s.deciding.length ≤ 1

variable {s : JitDesk}

theorem JitDesk.Sound.close (h : s.Sound) (id : ℕ) : (s.close id).Sound where
  assignments := h.assignments
  named := h.named
  pending hne := h.pending fun he => hne (by rw [JitDesk.close, he]; rfl)
  alone := (List.length_filter_le ..).trans h.alone

/-- Who decides is the only one, and nothing is assigned yet. -/
theorem JitDesk.Sound.undecided (h : s.Sound) {id : ℕ} {call : JitCall}
    (hcall : s.deciding.lookup id = some call) :
    s.assignmentId = none ∧ (s.close id).deciding = [] := by
  obtain ⟨before, after, he, -⟩ := List.lookup_eq_some_iff.1 hcall
  have hpending : s.status = .pending := h.pending (by simp [he])
  have hlen := h.alone
  rw [he, List.length_append, List.length_cons] at hlen
  obtain ⟨rfl, rfl⟩ : before = [] ∧ after = [] :=
    ⟨List.length_eq_zero_iff.1 (by omega), List.length_eq_zero_iff.1 (by omega)⟩
  exact ⟨by simpa [hpending] using h.named, by simp [JitDesk.close, he]⟩

theorem JitDesk.Sound.step (h : s.Sound) {e : JitEvent} (ho : s.alone e = true) :
    (s.step e).Sound := by
  cases e with
  | look id call =>
    have hn : s.deciding = [] := of_decide_eq_true ho
    simp only [JitDesk.step]
    split
    · next hpending => exact ⟨h.assignments, h.named, fun _ => hpending.1, by simp [hn]⟩
    · exact h
  | leave id => exact h.close id
  | commit id =>
    simp only [JitDesk.step]
    split
    · exact h
    · next hcall =>
      obtain ⟨hn, hover⟩ := h.undecided hcall
      exact ⟨by simp [h.assignments, hn], by simp, fun hne => absurd hover hne, by simp [hover]⟩
    · next hcall =>
      obtain ⟨hn, hover⟩ := h.undecided hcall
      exact ⟨h.assignments, by simp [JitDesk.close, hn], fun hne => absurd hover hne,
        by simp [hover]⟩

/-- Calls that do not overlap create at most one assignment for a request, and there is one exactly
if the request is approved and names it. -/
theorem one_grant_per_request (events : List JitEvent)
    (hok : Guarded (fun s e => s.alone e = true) JitDesk.step {} events) :
    (run JitDesk.step {} events).assignments.length ≤ 1
      ∧ ∀ id, id ∈ (run JitDesk.step {} events).assignments
        ↔ (run JitDesk.step {} events).status = .approved
          ∧ (run JitDesk.step {} events).assignmentId = some id := by
  have h : (run JitDesk.step {} events).Sound :=
    guarded_invariant (fun _ _ h hok => h.step hok) ⟨rfl, by decide, nofun, by decide⟩ hok
  generalize run JitDesk.step {} events = s at h
  rw [h.assignments, ← h.named]
  cases s.assignmentId <;> simp [eq_comm]

theorem one_grant_per_request_twice :
    (run JitDesk.step {} [.look 1 .approveJit, .commit 1, .look 2 .rejectJit]).assignments = [0]
      ∧ (run JitDesk.step {} [.look 1 .approveJit, .commit 1,
        .look 2 .rejectJit]).assignments.length ≤ 1 :=
  ⟨rfl, (one_grant_per_request _ (by decide)).1⟩

/-- Two approvers have both found the request pending; and so have an approver and one who rejects
it. -/
theorem overlapping_decisions :
    (run JitDesk.step {} [.look 1 .approveJit, .look 2 .approveJit, .commit 1,
        .commit 2]).assignments = [1, 0]
      ∧ run JitDesk.step {} [.look 1 .approveJit, .look 2 .rejectJit, .commit 1, .commit 2]
        = { status := .rejected, assignmentId := some 0, assignments := [0] } := by
  decide

end CloudPortal.Iam
