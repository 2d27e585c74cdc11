/-
CloudPortal/Iam/TokenFamilies.lean

The tokens of one browser session: login, refresh, logout and password change as
transactions that may overlap.

`refresh` locks the row of the token that it is given, so a token is rotated once and a
family has one refresh token.  Logout and the answer to a replay revoke a family with one
`UPDATE`, which sees the rows that were committed when it began and locks them one after
the other: the pair of a refresh that is under way then stays valid
(`revoked_family_refreshed`).
-/
import CloudPortal.Lib.Transition
import Mathlib.Data.Nat.Notation

namespace CloudPortal.Iam

open Transition

inductive TokenKind
  | session | refresh
  deriving DecidableEq

structure FamilyToken where
  kind : TokenKind
  revoked : Bool := false
  deriving DecidableEq

/-- `session_pair`. -/
def sessionPair : List FamilyToken := [⟨.session, false⟩, ⟨.refresh, false⟩]

/-- A family from its login on, with the transactions on it. -/
structure Family where
  tokens : List FamilyToken := sessionPair
  /-- the refresh that holds the lock of its token: which one, and how many tokens it sees -/
  refreshing : Option (ℕ × ℕ) := none
  /-- the revocations, each with the tokens it sees and if it is a logout or a replay -/
  revoking : List (ℕ × ℕ × Bool) := []
  /-- a logout or a replay has been answered -/
  answered : Bool := false
  deriving DecidableEq

inductive FamilyEvent
  | refresh (id token : ℕ)
  /-- the caller was authenticated, perhaps before others committed -/
  | logout (id : ℕ)
  | changePassword (id : ℕ)
  | commitRefresh
  | commit (id : ℕ)
  | rollBackRefresh
  | rollBack (id : ℕ)

/-- `UPDATE tokens SET revoked_at`, of the first `count` tokens. -/
def revoke (count : ℕ) (tokens : List FamilyToken) : List FamilyToken :=
  (tokens.take count).map ({ · with revoked := true }) ++ tokens.drop count

def Family.begin (s : Family) (id : ℕ) (answers : Bool) : Family :=
  { s with revoking := (id, s.tokens.length, answers) :: s.revoking }

def Family.close (s : Family) (id : ℕ) : Family :=
  { s with revoking := s.revoking.filter (·.1 ≠ id) }

def Family.step (s : Family) : FamilyEvent → Family
  | .refresh id token =>
    match s.tokens[token]? with
    | some ⟨.refresh, true⟩ => s.begin id true
    | some ⟨.refresh, false⟩ =>
      -- a revocation under way may not have come to the row yet
      if s.refreshing = none then { s with refreshing := some (token, s.tokens.length) }
      else s
    | _ => s
  | .logout id => s.begin id true
  | .changePassword id => s.begin id false
  | .commitRefresh =>
    match s.refreshing with
    | some (_, seen) => { s with tokens := revoke seen s.tokens ++ sessionPair, refreshing := none }
    | none => s
  | .commit id =>
    match s.revoking.lookup id with
    | some (seen, answers) =>
      -- it waits for the refresh whose rows it sees
      if s.refreshing.all (seen ≤ ·.1) then
        { s.close id with
          tokens := revoke seen s.tokens
          answered := s.answered || answers }
      else s
    | none => s
  | .rollBackRefresh => { s with refreshing := none }
  | .rollBack id => s.close id

/-- A request begins when no other one on the family is under way. -/
def Family.alone (s : Family) : FamilyEvent → Bool
  | .refresh .. | .logout .. | .changePassword .. => s.refreshing = none && s.revoking = []
  | _ => true

/-- The refresh tokens that are not revoked. -/
def live (tokens : List FamilyToken) : ℕ := tokens.countP (· = ⟨.refresh, false⟩)

section

variable {n : ℕ} {tokens : List FamilyToken}

theorem length_revoke : (revoke n tokens).length = tokens.length := by
  simp [revoke]
  omega

theorem revoked_of_mem_revoke {t : FamilyToken} (h : t ∈ revoke tokens.length tokens) :
    t.revoked = true := by
  rw [revoke, List.take_length, List.drop_length, List.append_nil] at h
  obtain ⟨_, -, rfl⟩ := List.mem_map.1 h
  rfl

theorem live_revoke_length : live (revoke tokens.length tokens) = 0 := by
  refine List.countP_eq_zero.2 fun t ht he => ?_
  cases of_decide_eq_true he
  cases revoked_of_mem_revoke ht

theorem live_revoke_le : live (revoke n tokens) ≤ live tokens := by
  have hz : live ((tokens.take n).map ({ · with revoked := true })) = 0 :=
    List.countP_eq_zero.2 fun t ht => by
      obtain ⟨_, -, rfl⟩ := List.mem_map.1 ht
      simp
  calc live (revoke n tokens) = live (tokens.drop n) := by
        rw [revoke, live, List.countP_append]
        exact (congrArg (· + _) hz).trans (Nat.zero_add _)
    _ ≤ live tokens := (List.drop_sublist n tokens).countP_le

end

variable {s : Family} {e : FamilyEvent}

/-- One refresh token is valid at most, and a refresh sees all tokens that there are. -/
structure Family.Rotates (s : Family) : Prop where
  live : live s.tokens ≤ 1
  seen : ∀ x ∈ s.refreshing, x.2 = s.tokens.length

theorem Family.Rotates.step (h : s.Rotates) (e : FamilyEvent) : (s.step e).Rotates := by
  cases e with
  | refresh id token =>
    simp only [Family.step]
    split
    · exact ⟨h.live, h.seen⟩
    · split
      · exact ⟨h.live, fun x hx => Option.mem_some.1 hx ▸ rfl⟩
      · exact h
    · exact h
  | logout id | changePassword id | rollBack id => exact ⟨h.live, h.seen⟩
  | commitRefresh =>
    simp only [Family.step]
    split
    · next seen he =>
      have hseen : seen = s.tokens.length := h.seen _ he
      refine ⟨?_, nofun⟩
      rw [hseen, Iam.live, List.countP_append]
      exact Nat.le_of_eq (congrArg (· + 1) live_revoke_length)
    · exact h
  | commit id =>
    simp only [Family.step]
    split
    · split
      · exact ⟨Nat.le_trans live_revoke_le h.live, fun x hx => (h.seen x hx).trans length_revoke.symm⟩
      · exact h
    · exact h
  | rollBackRefresh => exact ⟨h.live, nofun⟩

/-- A revocation sees all tokens that there are, and a family that is closed stays closed. -/
structure Family.Closes (s : Family) : Prop where
  alone : s.refreshing = none ∨ s.revoking = []
  seen : ∀ x ∈ s.revoking, x.2.1 = s.tokens.length
  closed : s.answered = true → s.refreshing = none ∧ ∀ t ∈ s.tokens, t.revoked = true

theorem Family.Closes.begin (h : s.Closes) (hi : s.refreshing = none) (id : ℕ)
    (answers : Bool) : (s.begin id answers).Closes :=
  ⟨.inl hi, fun x hx => (List.mem_cons.1 hx).elim (fun he => he ▸ rfl) (h.seen x), h.closed⟩

theorem Family.Closes.step (h : s.Closes) (ho : s.alone e = true) : (s.step e).Closes := by
  cases e with
  | refresh id token =>
    obtain ⟨hi, hn⟩ : s.refreshing = none ∧ s.revoking = [] := by
      simpa [Family.alone] using ho
    simp only [Family.step]
    split
    · exact h.begin hi id true
    · next htok =>
      rw [if_pos hi]
      refine ⟨.inr hn, h.seen, fun hanswers => ?_⟩
      cases (h.closed hanswers).2 _ (List.mem_of_getElem? htok)
    · exact h
  | logout id | changePassword id =>
    have hi : s.refreshing = none ∧ s.revoking = [] := by simpa [Family.alone] using ho
    exact h.begin hi.1 id _
  | commitRefresh =>
    simp only [Family.step]
    split
    · next he =>
      refine ⟨.inl rfl, ?_, fun hanswers => ?_⟩
      · rw [h.alone.resolve_left (by simp [he])]
        nofun
      · cases he.symm.trans (h.closed hanswers).1
    · exact h
  | commit id =>
    simp only [Family.step]
    split
    · next seen answers hf =>
      obtain ⟨before, after, he, -⟩ := List.lookup_eq_some_iff.1 hf
      have hm : (id, seen, answers) ∈ s.revoking := by simp [he]
      have hi := h.alone.resolve_right (List.ne_nil_of_mem hm)
      split
      · have ha : seen = s.tokens.length := h.seen _ hm
        rw [ha]
        exact ⟨.inl hi, fun x hx => (h.seen x (List.mem_filter.1 hx).1).trans
          length_revoke.symm, fun _ => ⟨hi, fun _ => revoked_of_mem_revoke⟩⟩
      · exact h
    · exact h
  | rollBackRefresh => exact ⟨.inl rfl, h.seen, fun hanswers => ⟨rfl, (h.closed hanswers).2⟩⟩
  | rollBack id =>
    refine ⟨h.alone.imp_right fun hn => ?_, fun x hx => h.seen x (List.mem_filter.1 hx).1,
      h.closed⟩
    show s.revoking.filter _ = []
    rw [hn]
    rfl

/-- A family has at most one valid refresh token at any time; if its requests do not overlap, none
of its tokens is valid once a logout or a replay has been answered. -/
theorem refresh_families (events : List FamilyEvent) :
    live (run Family.step {} events).tokens ≤ 1
      ∧ (Guarded (fun s e => s.alone e = true) Family.step {} events →
        (run Family.step {} events).answered = true →
        ∀ t ∈ (run Family.step {} events).tokens, t.revoked = true) := by
  refine ⟨?_, fun ho hanswers => ?_⟩
  · exact (run_invariant (fun _ e h => h.step e) ⟨by decide, nofun⟩ events :
      (run Family.step {} events).Rotates).live
  · exact ((guarded_invariant (fun _ _ h ho => h.step ho) ⟨.inl rfl, nofun, nofun⟩ ho :
      (run Family.step {} events).Closes).closed hanswers).2

theorem refresh_families_replayed :
    ∀ t ∈ (run Family.step {} [.refresh 1 1, .commitRefresh, .refresh 2 1, .commit 2]).tokens,
      t.revoked = true :=
  (refresh_families _).2 (by decide) (by decide)

/-- The first refresh token is replayed while the second one is rotated. -/
theorem revoked_family_refreshed :
    let s := run Family.step {}
      [.refresh 1 1, .commitRefresh, .refresh 2 3, .refresh 3 1, .commitRefresh, .commit 3]
    s.answered = true ∧ ⟨.session, false⟩ ∈ s.tokens ∧ ⟨.refresh, false⟩ ∈ s.tokens := by
  decide

end CloudPortal.Iam
