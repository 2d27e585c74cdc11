/-
CloudPortal/Lib/Transition.lean

Runs of a deterministic transition system `step : S → A → S`, where an action
that fails leaves the state as it was (`attempt`).  A run is a list of actions;
`Guarded ok step s as` says that every action of the run meets a condition in
the state in which it is executed.

The two rules used everywhere are `run_invariant` (what every step preserves
holds after every run) and `guarded_invariant` (the same for runs whose steps
all meet the condition).  `bind_eq_ok` takes a computation that ended
without an error apart into its successful parts.
-/
import Mathlib.Logic.Relation

namespace Transition

variable {S A E : Type*}

/-- Execute an action; if it fails, roll the state back. -/
def attempt (apply : S → A → Except E S) (s : S) (a : A) : S :=
  match apply s a with
  | .ok s' => s'
  | .error _ => s

/-- The error with which a computation ended. -/
def failure {α : Type*} : Except E α → Option E
  | .ok _ => none
  | .error e => some e

/-- Execute a list of actions from left to right. -/
def run (step : S → A → S) (s : S) (as : List A) : S := as.foldl step s

/-- Every action of the run meets `ok` in the state it starts from. -/
def Guarded (ok : S → A → Prop) (step : S → A → S) : S → List A → Prop
  | _, [] => True
  | s, a :: as => ok s a ∧ Guarded ok step (step s a) as

instance decidableGuarded {ok : S → A → Prop} [∀ s a, Decidable (ok s a)] {step : S → A → S} :
    ∀ (s : S) (as : List A), Decidable (Guarded ok step s as)
  | _, [] => isTrue trivial
  | s, a :: as => @instDecidableAnd _ _ _ (decidableGuarded (step s a) as)

@[simp] theorem run_nil (step : S → A → S) (s : S) : run step s [] = s := rfl

@[simp] theorem run_cons (step : S → A → S) (s : S) (a : A) (as : List A) :
    run step s (a :: as) = run step (step s a) as := rfl

theorem run_append (step : S → A → S) (s : S) (as bs : List A) :
    run step s (as ++ bs) = run step (run step s as) bs := by
  simp only [run, List.foldl_append]

theorem guarded_append {ok : S → A → Prop} {step : S → A → S} {s : S} {as bs : List A} :
    Guarded ok step s (as ++ bs) ↔ Guarded ok step s as ∧ Guarded ok step (run step s as) bs := by
  induction as generalizing s with
  | nil => simp [Guarded]
  | cons a as ih => simp [Guarded, ih, and_assoc]

/-- What every step preserves holds after every run. -/
theorem run_invariant {step : S → A → S} {Inv : S → Prop}
    (hs : ∀ s a, Inv s → Inv (step s a)) {s : S} (h : Inv s) (as : List A) :
    Inv (run step s as) := by
  induction as generalizing s with
  | nil => exact h
  | cons a as ih => exact ih (hs s a h)

/-- What every step that meets `ok` preserves holds after every run whose steps
all meet `ok`. -/
theorem guarded_invariant {ok : S → A → Prop} {step : S → A → S} {Inv : S → Prop}
    (hs : ∀ s a, Inv s → ok s a → Inv (step s a)) {s : S} (h : Inv s) {as : List A}
    (ho : Guarded ok step s as) : Inv (run step s as) := by
  induction as generalizing s with
  | nil => exact h
  | cons a as ih => exact ih (hs s a h ho.1) ho.2

/-- An action that fails cannot break an invariant. -/
theorem attempt_invariant {apply : S → A → Except E S} {Inv : S → Prop} {s : S} {a : A}
    (hs : Inv s) (h : ∀ s', apply s a = .ok s' → Inv s') : Inv (attempt apply s a) := by
  unfold attempt
  split
  · next s' hs' => exact h s' hs'
  · exact hs

/-! ### History

What an observer writes down along a run.  The observer sees every step that succeeds,
with the states before and after it, and changes nothing. -/

section History

variable {H : Type*}

/-- The system with an observer. -/
def observed (apply : S → A → Except E S) (note : S → A → S → H → H) (t : S × H) (a : A) :
    Except E (S × H) :=
  match apply t.1 a with
  | .ok s' => .ok (s', note t.1 a s' t.2)
  | .error e => .error e

/-- An observed step is a step of the system and a note about it. -/
theorem observed_eq_ok {apply : S → A → Except E S} {note : S → A → S → H → H} {t t' : S × H}
    {a : A} : observed apply note t a = .ok t'
      ↔ apply t.1 a = .ok t'.1 ∧ t'.2 = note t.1 a t'.1 t.2 := by
  unfold observed
  cases apply t.1 a with
  | error e => simp
  | ok s' =>
    simp only [Except.ok.injEq]
    constructor
    · rintro rfl
      exact ⟨rfl, rfl⟩
    rintro ⟨h₁, h₂⟩
    subst h₁
    exact Prod.ext rfl h₂.symm

/-- The observer does not disturb the system. -/
theorem attempt_observed (apply : S → A → Except E S) (note : S → A → S → H → H) (t : S × H)
    (a : A) : (attempt (observed apply note) t a).1 = attempt apply t.1 a := by
  unfold attempt observed
  cases apply t.1 a with
  | error e => rfl
  | ok s' => rfl

/-- One observed step. -/
theorem observed_step {apply : S → A → Except E S} {note : S → A → S → H → H} {Inv : S → H → Prop}
    {t : S × H} {a : A} (h : ∀ s', apply t.1 a = .ok s' → Inv s' (note t.1 a s' t.2))
    (ht : Inv t.1 t.2) :
    Inv (attempt (observed apply note) t a).1 (attempt (observed apply note) t a).2 := by
  refine @attempt_invariant _ _ _ _ (fun t => Inv t.1 t.2) t a ht fun t' ht' => ?_
  obtain ⟨hs', hnote⟩ := observed_eq_ok.1 ht'
  rw [hnote]
  exact h t'.1 hs'

variable (apply : S → A → Except E S) (note : S → A → S → H → H) (Inv : S → H → Prop)

/-- What every observed step preserves holds after every observed run. -/
theorem observed_invariant
    (hs : ∀ s h a s', apply s a = .ok s' → Inv s h → Inv s' (note s a s' h)) {t : S × H}
    (ht : Inv t.1 t.2) (as : List A) :
    Inv (run (attempt (observed apply note)) t as).1
      (run (attempt (observed apply note)) t as).2 := by
  refine @run_invariant _ _ _ (fun t => Inv t.1 t.2) (fun t a ht => ?_) t ht as
  exact observed_step (fun s' hs' => hs t.1 t.2 a s' hs' ht) ht

/-- What every observed step that meets `ok` preserves holds after every observed run whose
steps all meet it. -/
theorem observed_guarded {ok : S × H → A → Prop}
    (hs : ∀ s h a s', apply s a = .ok s' → ok (s, h) a → Inv s h → Inv s' (note s a s' h))
    {t : S × H} (ht : Inv t.1 t.2) {as : List A}
    (ho : Guarded ok (attempt (observed apply note)) t as) :
    Inv (run (attempt (observed apply note)) t as).1
      (run (attempt (observed apply note)) t as).2 := by
  refine @guarded_invariant _ _ ok _ (fun t => Inv t.1 t.2) (fun t a ht ho => ?_) t ht as ho
  exact observed_step (fun s' hs' => hs t.1 t.2 a s' hs' ho ht) ht

end History

/-- An invariant of a step relation holds along its reflexive transitive closure. -/
theorem closure_invariant {R : S → S → Prop} {Inv : S → Prop}
    (hstep : ∀ s s', R s s' → Inv s → Inv s') {s s' : S}
    (h : Relation.ReflTransGen R s s') (hs : Inv s) : Inv s' := by
  induction h with
  | refl => exact hs
  | tail _ hl ih => exact hstep _ _ hl ih

theorem isOk_iff {ε α : Type*} {x : Except ε α} : x.isOk ↔ ∃ a, x = .ok a := by
  cases x with
  | error e | ok a => simp [Except.isOk, Except.toBool]

/-- A computation that ended without an error did so in both of its parts. -/
theorem bind_eq_ok {ε : Type*} {α β : Type} {x : Except ε α} {f : α → Except ε β} {b : β} :
    x >>= f = .ok b ↔ ∃ a, x = .ok a ∧ f a = .ok b := by
  cases x with
  | error e | ok a => simp [bind, Except.bind]

/-! ### Results and errors -/

section Results

variable {α β γ δ : Type} {P : β → Prop}

/-- Whenever the computation succeeds, its result meets `P`. -/
def ResultsMeet (P : β → Prop) (x : Except E β) : Prop := ∀ b, x = .ok b → P b

theorem ResultsMeet.ok {b : β} (h : P b) : ResultsMeet P (.ok b : Except E β) := by
  rintro _ ⟨⟩
  exact h

theorem ResultsMeet.error (e : E) : ResultsMeet P (.error e) := nofun

theorem ResultsMeet.bind {x : Except E α} {f : α → Except E β} (hf : ∀ a, ResultsMeet P (f a)) :
    ResultsMeet P (x >>= f) := by
  intro b hb
  obtain ⟨a, -, hb⟩ := bind_eq_ok.1 hb
  exact hf a b hb

theorem ResultsMeet.bind₂ {x : Except E α} {y : α → Except E γ} {f : α → γ → Except E β}
    (hf : ∀ a c, ResultsMeet P (f a c)) : ResultsMeet P (x >>= fun a => y a >>= f a) :=
  .bind fun a => .bind (hf a)

theorem ResultsMeet.bind₃ {x : Except E α} {y : α → Except E γ} {z : α → γ → Except E δ}
    {f : α → γ → δ → Except E β} (hf : ∀ a c d, ResultsMeet P (f a c d)) :
    ResultsMeet P (x >>= fun a => y a >>= fun c => z a c >>= f a c) :=
  .bind fun a => .bind₂ (hf a)

theorem ResultsMeet.ite {c : Prop} [Decidable c] {x y : Except E β} (hx : ResultsMeet P x)
    (hy : ResultsMeet P y) : ResultsMeet P (if c then x else y) := by
  split
  · exact hx
  · exact hy

end Results

section Errors

variable {α β : Type} {P : E → Prop}

/-- Whenever the computation ends with an error, the error meets `P`. -/
def ErrorsMeet (P : E → Prop) (x : Except E α) : Prop := ∀ e, x = .error e → P e

theorem ErrorsMeet.ok (a : α) : ErrorsMeet P (.ok a) := nofun

theorem ErrorsMeet.error {e : E} (h : P e) : ErrorsMeet P (.error e : Except E α) := by
  rintro _ ⟨⟩
  exact h

theorem ErrorsMeet.bind {x : Except E α} {f : α → Except E β} (hx : ErrorsMeet P x)
    (hf : ∀ a, ErrorsMeet P (f a)) : ErrorsMeet P (x >>= f) := by
  cases x with
  | error e => exact .error (hx e rfl)
  | ok a => exact hf a

end Errors

end Transition
