/-
CloudPortal/Updater/HostChanges.lean

The threads of the updater service around its lock: updates, TLS activations and changes
of the worker pool.

`ensure_worker_capacity` asks for a running update while it holds the lock, and keeps it
until its last write.  `_activate_tls_material` asks before it takes the lock, so an update
can start in between.  `host_changes_exclude_updates` says that this is the only way in
which a configuration file is written during an update.
-/
import CloudPortal.Lib.Transition
import Mathlib.Data.Nat.Notation

namespace CloudPortal.Updater

open Transition

inductive Change
  | tls | capacity
  deriving DecidableEq, Repr

structure Service where
  /-- the thread that holds the lock, and what it changes -/
  lock : Option (ℕ × Change) := none
  /-- `update_thread` is set: `run_update` is between its start and its end -/
  updating : Bool := false
  /-- the TLS activations between their check and their lock -/
  checked : List ℕ := []
  /-- the writes of configuration files, each with `updating` at its time -/
  written : List (Change × Bool) := []
  deriving DecidableEq, Repr

inductive Event
  /-- `start_update`, of a request or of the scheduler -/
  | startUpdate
  /-- the end of `run_update` -/
  | endUpdate
  /-- the check at the beginning of `_activate_tls_material` -/
  | checkTls (thread : ℕ)
  /-- the staged certificate is not valid -/
  | refuseTls (thread : ℕ)
  | lockTls (thread : ℕ)
  /-- `ensure_worker_capacity` takes the lock and makes its check -/
  | lockCapacity (thread : ℕ)
  /-- a file is written, or restored after a failure -/
  | write (thread : ℕ)
  | unlock (thread : ℕ)

/-- Who needs the lock waits for it; only a thread that holds it does not. -/
def Service.step (s : Service) : Event → Service
  | .startUpdate => if s.lock = none then { s with updating := true } else s
  | .endUpdate => if s.lock = none then { s with updating := false } else s
  | .checkTls thread =>
    if s.lock = none ∧ s.updating = false then { s with checked := thread :: s.checked } else s
  | .refuseTls thread => { s with checked := s.checked.erase thread }
  | .lockTls thread =>
    if s.lock = none ∧ thread ∈ s.checked then
      { s with lock := some (thread, .tls), checked := s.checked.erase thread }
    else s
  | .lockCapacity thread =>
    if s.lock = none ∧ s.updating = false then { s with lock := some (thread, .capacity) } else s
  | .write thread =>
    match s.lock with
    | some (holder, change) =>
      if holder = thread then { s with written := (change, s.updating) :: s.written } else s
    | none => s
  | .unlock thread => if s.lock.any (·.1 = thread) then { s with lock := none } else s

/-- No update starts while a TLS activation is between its check and its lock. -/
def Service.orderly (s : Service) : Event → Bool
  | .startUpdate => s.checked = []
  | _ => true

/-- Changes of some kinds and updates exclude each other. -/
structure Apart (kinds : Change → Prop) (s : Service) : Prop where
  lock : ∀ thread change, s.lock = some (thread, change) → kinds change → s.updating = false
  checked : kinds .tls → s.checked ≠ [] → s.updating = false
  written : ∀ change, kinds change → (change, true) ∉ s.written

variable {kinds : Change → Prop} {s : Service}

theorem Apart.step (h : Apart kinds s) {e : Event} (ho : kinds .tls → s.orderly e = true) :
    Apart kinds (s.step e) := by
  have herase {thread : ℕ} (hn : s.checked.erase thread ≠ []) : s.checked ≠ [] :=
    fun he => hn (by rw [he]; rfl)
  cases e with
  | startUpdate =>
    rw [Service.step]
    split
    · next hf =>
      exact ⟨fun _ _ he => by simp [hf] at he,
        fun htls hn => absurd (of_decide_eq_true (ho htls)) hn, h.written⟩
    · exact h
  | endUpdate =>
    rw [Service.step]
    split
    · exact ⟨fun _ _ _ _ => rfl, fun _ _ => rfl, h.written⟩
    · exact h
  | checkTls thread =>
    rw [Service.step]
    split
    · next hf => exact ⟨h.lock, fun _ _ => hf.2, h.written⟩
    · exact h
  | refuseTls thread => exact ⟨h.lock, fun htls hn => h.checked htls (herase hn), h.written⟩
  | lockTls thread =>
    rw [Service.step]
    split
    · next hf =>
      have hi (htls : kinds .tls) := h.checked htls (List.ne_nil_of_mem hf.2)
      refine ⟨fun _ _ he => ?_, fun htls _ => hi htls, h.written⟩
      cases he
      exact hi
    · exact h
  | lockCapacity thread =>
    rw [Service.step]
    split
    · next hf => exact ⟨fun _ _ _ _ => hf.2, h.checked, h.written⟩
    · exact h
  | write thread =>
    simp only [Service.step]
    split
    · next holder change hlock =>
      split
      · refine ⟨h.lock, h.checked, fun change' hk hm => ?_⟩
        rcases List.mem_cons.1 hm with he | hm
        · obtain ⟨rfl, hup⟩ := Prod.mk.inj he
          cases hup.trans (h.lock holder change' hlock hk)
        · exact h.written change' hk hm
      · exact h
    · exact h
  | unlock thread =>
    rw [Service.step]
    split
    · exact ⟨nofun, h.checked, h.written⟩
    · exact h

theorem apart_new : Apart kinds {} := ⟨nofun, fun _ hn => absurd rfl hn, fun _ _ => nofun⟩

/-- The worker pool is never changed during an update, and neither is TLS in a run in which no
update starts between the check and the lock of an activation. -/
theorem host_changes_exclude_updates (events : List Event) :
    (.capacity, true) ∉ (run Service.step {} events).written
      ∧ (Guarded (fun s e => s.orderly e = true) Service.step {} events →
        ∀ change, (change, true) ∉ (run Service.step {} events).written) := by
  refine ⟨?_, fun ho change => ?_⟩
  · exact (run_invariant (fun _ _ h => h.step nofun) (@apart_new (· = .capacity))
      events).written _ rfl
  · exact (guarded_invariant (fun _ _ h ho => h.step fun _ => ho)
      (@apart_new fun _ => True) ho).written change trivial

theorem host_changes_exclude_updates_ordered :
    (run Service.step {} [.checkTls 1, .lockTls 1, .write 1, .startUpdate, .unlock 1,
        .startUpdate]).written = [(.tls, false)]
      ∧ ∀ change, (change, true) ∉ (run Service.step {} [.checkTls 1, .lockTls 1, .write 1,
        .unlock 1, .startUpdate]).written :=
  ⟨rfl, (host_changes_exclude_updates _).2 (by decide)⟩

/-- An update starts after the check of an activation and before its lock. -/
theorem tls_written_during_update :
    (run Service.step {} [.checkTls 1, .startUpdate, .lockTls 1, .write 1]).written
      = [(.tls, true)] := by
  decide

end CloudPortal.Updater
