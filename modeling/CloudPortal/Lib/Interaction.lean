/-
CloudPortal/Lib/Interaction.lean

Programs that work on a world they share with others and that can be lost between any
two of their calls.

A program (`Prog`) is a tree: it ends with a value or with an exception, or it makes a
call and goes on with the answer.  `Prog` is a monad with exceptions, so a program is
written with `do`, `try`, `catch` and `finally`; what a call does to the world is said
elsewhere, by a handler.

* `Prog.Safe rules Q p s`: started in the world `s`, the program keeps the invariant of
  `rules` at each of its calls, whatever others do in between as far as `rules.rely`
  allows, and ends only where `Q` holds.  The rules (`bind`, `tryCatch`, `tryFinally`,
  `call`) follow the structure of the program.
* `Prog.Keeps rules P p`: wherever `P` holds at the start it holds at the end.
* `Prog.Triple rules P p Q`: started where `P` holds, it returns a value only where `Q` holds of it.
* `Plant`: a world with one place for a worker, which executes the program of a job until
  it ends or is lost.  `Plant.guarded_invariant` is the rule for its runs.
-/
import CloudPortal.Lib.Transition

namespace Interaction

variable {C : Type} {Ans : C → Type} {E S I : Type} {α β : Type}

/-- A program that makes calls `c : C`, each of which is answered by an `Ans c` or raises
an exception. -/
inductive Prog (Ans : C → Type) (E : Type) (α : Type) : Type
  | pure (a : α)
  | throw (e : E)
  | call (c : C) (k : Except E (Ans c) → Prog Ans E α)

namespace Prog

protected def bind : Prog Ans E α → (α → Prog Ans E β) → Prog Ans E β
  | .pure a, f => f a
  | .throw e, _ => .throw e
  | .call c k, f => .call c fun r => (k r).bind f

protected def tryCatch : Prog Ans E α → (E → Prog Ans E α) → Prog Ans E α
  | .pure a, _ => .pure a
  | .throw e, h => h e
  | .call c k, h => .call c fun r => (k r).tryCatch h

/-- The second program is executed whether the first one raises or not; it learns the value. -/
protected def tryFinally : Prog Ans E α → (Option α → Prog Ans E β) → Prog Ans E (α × β)
  | .pure a, f => (f (some a)).bind fun b => .pure (a, b)
  | .throw e, f => (f none).bind fun _ => .throw e
  | .call c k, f => .call c fun r => (k r).tryFinally f

instance : Monad (Prog Ans E) where
  pure := .pure
  bind := .bind

instance : MonadExceptOf E (Prog Ans E) where
  throw := .throw
  tryCatch := .tryCatch

instance : MonadFinally (Prog Ans E) where
  tryFinally' := .tryFinally

/-- Make one call; what it raises is raised. -/
def request (c : C) : Prog Ans E (Ans c) :=
  .call c fun
    | .ok a => .pure a
    | .error e => .throw e

/-! ### Properties that follow the structure of a program -/

/-- A property of programs that the constructs of the language preserve. -/
structure Closed (K : ∀ {α : Type}, Prog Ans E α → Prop) : Prop where
  pure : ∀ {α : Type} (a : α), K (Pure.pure a)
  throw : ∀ {α : Type} (e : E), K (MonadExcept.throw e : Prog Ans E α)
  bind : ∀ {α β : Type} {p : Prog Ans E α} {f : α → Prog Ans E β}, K p → (∀ a, K (f a)) →
    K (p >>= f)
  tryCatch : ∀ {α : Type} {p : Prog Ans E α} {h : E → Prog Ans E α}, K p → (∀ e, K (h e)) →
    K (MonadExcept.tryCatch p h)
  tryFinally' : ∀ {α β : Type} {p : Prog Ans E α} {f : Option α → Prog Ans E β}, K p →
    (∀ a, K (f a)) → K (MonadFinally.tryFinally' p f)

namespace Closed

variable {K : ∀ {α : Type}, Prog Ans E α → Prop} (hK : Closed K)
include hK

theorem map {p : Prog Ans E α} (f : α → β) (hp : K p) : K (f <$> p) :=
  hK.bind hp fun a => hK.pure (f a)

theorem tryFinally {p : Prog Ans E α} {f : Prog Ans E β} (hp : K p) (hf : K f) :
    K (tryFinally p f) :=
  hK.map Prod.fst (hK.tryFinally' hp fun _ => hf)

theorem forM {f : α → Prog Ans E PUnit} {xs : List α} (h : ∀ x ∈ xs, K (f x)) : K (xs.forM f) := by
  induction xs with
  | nil => exact hK.pure _
  | cons x xs ih =>
    exact hK.bind (h x List.mem_cons_self) fun _ => ih fun y hy => h y (List.mem_cons_of_mem x hy)

end Closed

end Prog

/-! ### Safety -/

/-- What a program is verified against: the handler of its calls, the invariant of the world, what
others may do between two calls, and which answers a call may get. -/
structure Rules (Ans : C → Type) (E S I : Type) where
  handle : (c : C) → S → I → S × Except E (Ans c)
  inv : S → Prop
  rely : S → S → Prop
  admits : C → S → I → Prop
  rely_refl : ∀ s, rely s s
  rely_trans : ∀ {a b c}, rely a b → rely b c → rely a c

/-- Others do not change whether `P` holds. -/
def Rules.Stable (R : Rules Ans E S I) (P : S → Prop) : Prop :=
  ∀ {s s'}, R.rely s s' → R.inv s' → P s → P s'

namespace Prog

variable {R : Rules Ans E S I} {Q Q' : Except E α → S → Prop} {P : S → Prop} {s s' : S} {c : C}

/-- Started in the world `s`, the program keeps the invariant at each call and ends where `Q`
holds. -/
def Safe (R : Rules Ans E S I) (Q : Except E α → S → Prop) : Prog Ans E α → S → Prop
  | .pure a, s => Q (.ok a) s
  | .throw e, s => Q (.error e) s
  | .call c k, s => ∀ s' i, R.rely s s' → R.inv s' → R.admits c s' i →
      R.inv (R.handle c s' i).1 ∧ (k (R.handle c s' i).2).Safe R Q (R.handle c s' i).1

/-- Where the program makes a call next, others may have worked in the meantime. -/
theorem Safe.rely {k : Except E (Ans c) → Prog Ans E α} (h : (call c k).Safe R Q s)
    (hr : R.rely s s') : (call c k).Safe R Q s' :=
  fun s'' i hlater => h s'' i (R.rely_trans hr hlater)

variable {p : Prog Ans E α} {f : α → Prog Ans E β} {h : E → Prog Ans E α}

theorem Safe.mono (hi : R.inv s) (h : p.Safe R Q s) (himp : ∀ r s', R.inv s' → Q r s' → Q' r s') :
    p.Safe R Q' s := by
  induction p generalizing s with
  | pure a | throw e => exact himp _ _ hi h
  | call c k ih =>
    intro s' i hr hi' hadmits
    obtain ⟨hn, hs⟩ := h s' i hr hi' hadmits
    exact ⟨hn, ih _ hn hs⟩

theorem Safe.and (h : p.Safe R Q s) (h' : p.Safe R Q' s) :
    p.Safe R (fun r s' => Q r s' ∧ Q' r s') s := by
  induction p generalizing s with
  | pure a | throw e => exact ⟨h, h'⟩
  | call c k ih =>
    intro s' i hr hi hadmits
    obtain ⟨hn, hs⟩ := h s' i hr hi hadmits
    obtain ⟨-, hs'⟩ := h' s' i hr hi hadmits
    exact ⟨hn, ih _ hs hs'⟩

/-- A call is safe if its handler keeps the invariant and establishes `Q`. -/
theorem Safe.request {Q : Except E (Ans c) → S → Prop}
    (h : ∀ s' i, R.rely s s' → R.inv s' → R.admits c s' i →
      R.inv (R.handle c s' i).1 ∧ Q (R.handle c s' i).2 (R.handle c s' i).1) :
    (request c).Safe R Q s := by
  intro s' i hr hi hadmits
  obtain ⟨hn, hq⟩ := h s' i hr hi hadmits
  refine ⟨hn, ?_⟩
  revert hq
  generalize (R.handle c s' i).2 = r
  intro hq
  cases r with
  | ok a => exact hq
  | error e => exact hq

theorem Safe.bind {Q : Except E β → S → Prop} (hi : R.inv s) (hp : p.Safe R Q' s)
    (ho : ∀ a s', R.inv s' → Q' (.ok a) s' → (f a).Safe R Q s')
    (herr : ∀ e s', R.inv s' → Q' (.error e) s' → Q (.error e) s') : (p >>= f).Safe R Q s := by
  induction p generalizing s with
  | pure a => exact ho a s hi hp
  | throw e => exact herr e s hi hp
  | call c k ih =>
    intro s' i hr hi' hadmits
    obtain ⟨hn, hs⟩ := hp s' i hr hi' hadmits
    exact ⟨hn, ih _ hn hs⟩

theorem Safe.tryCatch (hi : R.inv s) (hp : p.Safe R Q' s)
    (ho : ∀ a s', R.inv s' → Q' (.ok a) s' → Q (.ok a) s')
    (herr : ∀ e s', R.inv s' → Q' (.error e) s' → (h e).Safe R Q s') :
    (MonadExcept.tryCatch p h).Safe R Q s := by
  induction p generalizing s with
  | pure a => exact ho a s hi hp
  | throw e => exact herr e s hi hp
  | call c k ih =>
    intro s' i hr hi' hadmits
    obtain ⟨hn, hs⟩ := hp s' i hr hi' hadmits
    exact ⟨hn, ih _ hn hs⟩

theorem Safe.tryFinally' {f : Option α → Prog Ans E β} {Q : Except E (α × β) → S → Prop}
    (hi : R.inv s) (hp : p.Safe R Q' s) (ho : ∀ a s', R.inv s' → Q' (.ok a) s' →
      (f (some a)).Safe R (fun r s'' => Q (r.map (a, ·)) s'') s')
    (herr : ∀ e s', R.inv s' → Q' (.error e) s' → (f none).Safe R (fun r s'' => match r with
        | .ok _ => Q (.error e) s''
        | .error e' => Q (.error e') s'') s') :
    (MonadFinally.tryFinally' p f).Safe R Q s := by
  induction p generalizing s with
  | pure a => exact Safe.bind hi (ho a s hi hp) (fun _ _ _ h => h) fun _ _ _ h => h
  | throw e => exact Safe.bind hi (herr e s hi hp) (fun _ _ _ h => h) fun _ _ _ h => h
  | call c k ih =>
    intro s' i hr hi' hadmits
    obtain ⟨hn, hs⟩ := hp s' i hr hi' hadmits
    exact ⟨hn, ih _ hn hs⟩

/-- Whatever the program leaves, its `finally` ends where `P` holds. -/
theorem Safe.tryFinally {f : Prog Ans E β} (hi : R.inv s) (hp : p.Safe R Q s)
    (hf : ∀ r s', R.inv s' → Q r s' → f.Safe R (fun _ s'' => P s'') s') :
    (MonadFinally.tryFinally' p fun _ => f).Safe R (fun _ s' => P s') s := by
  refine Safe.tryFinally' hi hp (fun a s' hi' h => hf _ s' hi' h) fun e s' hi' h => ?_
  refine (hf _ s' hi' h).mono hi' fun r _ _ h' => ?_
  cases r <;> exact h'

/-! ### Programs that keep a property -/

/-- Where `P` holds when the program starts, it holds when the program ends. -/
def Keeps (R : Rules Ans E S I) (P : S → Prop) (p : Prog Ans E α) : Prop :=
  ∀ s, R.inv s → P s → p.Safe R (fun _ s' => P s') s

theorem Keeps.pure (a : α) : Keeps R P (Pure.pure a : Prog Ans E α) := fun _ _ h => h

theorem Keeps.throw (e : E) : Keeps R P (MonadExcept.throw e : Prog Ans E α) := fun _ _ h => h

theorem Keeps.request (hstable : R.Stable P)
    (h : ∀ s i, R.inv s → P s → R.admits c s i → R.inv (R.handle c s i).1 ∧ P (R.handle c s i).1) :
    Keeps R P (request c) :=
  fun _ _ hp => Safe.request fun s' i hr hi hadmits => h s' i hi (hstable hr hi hp) hadmits

theorem Keeps.bind (hp : Keeps R P p) (hf : ∀ a, Keeps R P (f a)) : Keeps R P (p >>= f) :=
  fun s hi h => Safe.bind hi (hp s hi h) (fun a s' hi' h' => hf a s' hi' h')
    fun _ _ _ h' => h'

theorem Keeps.tryCatch (hp : Keeps R P p) (hh : ∀ e, Keeps R P (h e)) :
    Keeps R P (MonadExcept.tryCatch p h) :=
  fun s hi hP => Safe.tryCatch hi (hp s hi hP) (fun _ _ _ h' => h') fun e s' hi' h' =>
    hh e s' hi' h'

theorem Keeps.tryFinally' {f : Option α → Prog Ans E β} (hp : Keeps R P p)
    (hf : ∀ a, Keeps R P (f a)) : Keeps R P (MonadFinally.tryFinally' p f) := by
  intro s hi hP
  refine Safe.tryFinally' hi (hp s hi hP) (fun a s' hi' h' => hf _ s' hi' h')
    fun e s' hi' h' => ?_
  refine (hf none s' hi' h').mono hi' fun r _ _ h'' => ?_
  cases r <;> exact h''

theorem Keeps.closed (R : Rules Ans E S I) (P : S → Prop) : Closed fun p => Keeps R P p where
  pure := Keeps.pure
  throw := Keeps.throw
  bind := Keeps.bind
  tryCatch := Keeps.tryCatch
  tryFinally' := Keeps.tryFinally'

/-! ### Programs that establish a property -/

/-- Whenever the program returns a value, `P` holds of it and of the world. -/
def Yields (R : Rules Ans E S I) (P : α → S → Prop) (p : Prog Ans E α) (s : S) : Prop :=
  p.Safe R (fun r s' => ∀ a, r = .ok a → P a s') s

/-- Started where `P` holds, the program returns a value only where `Q` holds of it. -/
def Triple (R : Rules Ans E S I) (P : S → Prop) (p : Prog Ans E α) (Q : α → S → Prop) : Prop :=
  ∀ s, R.inv s → P s → p.Yields R Q s

section Triple

variable {P P' : S → Prop} {Q : α → S → Prop} {Q' : β → S → Prop} {p : Prog Ans E α}

theorem Triple.pure {a : α} (h : ∀ s, P s → Q a s) : (Pure.pure a : Prog Ans E α).Triple R P Q := by
  rintro s - hs _ ⟨⟩
  exact h s hs

theorem Triple.throw (e : E) : (MonadExcept.throw e : Prog Ans E α).Triple R P Q :=
  fun _ _ _ => nofun

theorem Triple.request {c : C} {Q : Ans c → S → Prop}
    (h : ∀ s s' i, P s → R.rely s s' → R.inv s' → R.admits c s' i →
      R.inv (R.handle c s' i).1
        ∧ ∀ a, (R.handle c s' i).2 = .ok a → Q a (R.handle c s' i).1) :
    (request c).Triple R P Q :=
  fun s _ hs => Safe.request fun s' i => h s s' i hs

theorem Triple.bind {f : α → Prog Ans E β} (hp : p.Triple R P Q)
    (hf : ∀ a, (f a).Triple R (Q a) Q') : (p >>= f).Triple R P Q' :=
  fun s hi hs => Safe.bind hi (hp s hi hs) (fun a s' hi' h => hf a s' hi' (h a rfl))
    fun _ _ _ _ => nofun

theorem Triple.tryCatch {h : E → Prog Ans E α} (hp : p.Triple R P Q)
    (hh : ∀ e, (h e).Triple R (fun _ => True) Q) : (MonadExcept.tryCatch p h).Triple R P Q :=
  fun s hi hs => Safe.tryCatch hi (hp s hi hs) (fun _ _ _ h' => h') fun e s' hi' _ =>
    hh e s' hi' trivial

theorem Triple.pre (h : p.Triple R P Q) (himp : ∀ s, P' s → P s) : p.Triple R P' Q :=
  fun s hi hs => h s hi (himp s hs)

/-- What a program keeps it also establishes. -/
theorem Keeps.triple (h : Keeps R P p) : p.Triple R P fun _ => P :=
  fun s hi hs => Safe.mono hi (h s hi hs) fun _ _ _ h' _ _ => h'

theorem Keeps.and (hk : Keeps R P' p) (h : p.Triple R P Q) :
    p.Triple R (fun s => P' s ∧ P s) fun a s => P' s ∧ Q a s :=
  fun s hi hs => Safe.mono hi (Safe.and (hk s hi hs.1) (h s hi hs.2)) fun _ _ _ h' a ha =>
    ⟨h'.1, h'.2 a ha⟩

/-- A program that may start anywhere is safe. -/
theorem Triple.keeps (h : p.Triple R (fun _ => True) Q) : Keeps R (fun _ => True) p :=
  fun s hi hs => Safe.mono hi (h s hi hs) fun _ _ _ _ => trivial

end Triple

end Prog

/-! ### A place for one worker -/

section Plant

variable {J L M : Type}

/-- A world in which at most one worker executes the program of a job. -/
structure Plant (Ans : C → Type) (E S I J L M : Type) where
  handle : J → (c : C) → S → I → S × Except E (Ans c)
  /-- a worker takes a job up -/
  start : J → S → Option (S × Prog Ans E Unit)
  /-- the worker is lost -/
  lose : L → S → S
  /-- what happens without the worker -/
  outside : M → S → S

inductive Move (J I L M : Type)
  | start (j : J)
  | tick (i : I)
  | lose (l : L)
  | outside (m : M)

/-- The world, and the worker with the rest of its program. -/
structure Desk (Ans : C → Type) (E S J : Type) where
  world : S
  worker : Option (J × Prog Ans E Unit) := none

/-- The worker of a program that has ended is gone. -/
def Prog.rest (j : J) : Prog Ans E Unit → Option (J × Prog Ans E Unit)
  | .call c k => some (j, .call c k)
  | _ => none

namespace Plant

variable (plant : Plant Ans E S I J L M)

/-- A move that is not possible changes nothing. -/
def step (d : Desk Ans E S J) : Move J I L M → Desk Ans E S J
  | .start j =>
    match d.worker, plant.start j d.world with
    | none, some (s, p) => ⟨s, p.rest j⟩
    | _, _ => d
  | .tick i =>
    match d.worker with
    | some (j, .call c k) =>
      ⟨(plant.handle j c d.world i).1, (k (plant.handle j c d.world i).2).rest j⟩
    | _ => d
  | .lose l =>
    match d.worker with
    | some _ => ⟨plant.lose l d.world, none⟩
    | none => d
  | .outside m => ⟨plant.outside m d.world, d.worker⟩

/-- The conditions under which moves are considered. -/
structure Guard (C S I J L M : Type) where
  start : J → S → Bool := fun _ _ => true
  tick : J → C → S → I → Bool := fun _ _ _ _ => true
  lose : J → L → S → Bool := fun _ _ _ => true
  outside : M → S → Bool := fun _ _ => true

def Guard.ok (g : Guard C S I J L M) (d : Desk Ans E S J) : Move J I L M → Bool
  | .start j => g.start j d.world
  | .tick i =>
    match d.worker with
    | some (j, .call c _) => g.tick j c d.world i
    | _ => true
  | .lose l => d.worker.all fun w => g.lose w.1 l d.world
  | .outside m => g.outside m d.world

/-- What is proved about a plant: an invariant, which may depend on the job that is executed, and
what a worker can rely on. -/
structure Contract (g : Guard C S I J L M) where
  inv : Option J → S → Prop
  rely : J → S → S → Prop
  rely_refl : ∀ j s, rely j s s
  rely_trans : ∀ {j a b c}, rely j a b → rely j b c → rely j a c
  lose : ∀ {j l s}, inv (some j) s → g.lose j l s = true → inv none (plant.lose l s)
  outside : ∀ {o m s}, inv o s → g.outside m s = true → inv o (plant.outside m s)
  undisturbed : ∀ {j m s}, inv (some j) s → g.outside m s = true →
    rely j s (plant.outside m s)

variable {plant} {g : Guard C S I J L M}

/-- The rules for the program of a job. -/
def Contract.rules (K : plant.Contract g) (j : J) : Rules Ans E S I where
  handle := plant.handle j
  inv := K.inv (some j)
  rely := K.rely j
  admits := fun c s i => g.tick j c s i = true
  rely_refl := K.rely_refl j
  rely_trans := K.rely_trans

/-- The program of a job is safe if the invariant without a worker holds when it ends. -/
def Contract.Verified (K : plant.Contract g) (j : J) (p : Prog Ans E Unit) (s : S) : Prop :=
  p.Safe (K.rules j) (fun _ s' => K.inv none s') s

/-- The world is as the contract says, and what is left of the program is safe. -/
structure Contract.Sound (K : plant.Contract g) (d : Desk Ans E S J) : Prop where
  inv : K.inv (d.worker.map Prod.fst) d.world
  safe : ∀ j p, d.worker = some (j, p) → K.Verified j p d.world

variable {K : plant.Contract g}

theorem Contract.sound_rest {j : J} {p : Prog Ans E Unit} {s : S} (hi : K.inv (some j) s)
    (hp : K.Verified j p s) : K.Sound ⟨s, p.rest j⟩ := by
  cases p with
  | pure a | throw e => exact ⟨hp, nofun⟩
  | call c k =>
    refine ⟨hi, ?_⟩
    rintro _ _ ⟨⟩
    exact hp

section

variable (hstart : ∀ {j s s' p}, K.inv none s → g.start j s = true →
  plant.start j s = some (s', p) → K.inv (some j) s' ∧ K.Verified j p s')
include hstart

theorem Contract.sound_step {d : Desk Ans E S J} (hd : K.Sound d) {m : Move J I L M}
    (ho : g.ok d m = true) : K.Sound (plant.step d m) := by
  obtain ⟨s, w⟩ := d
  cases m with
  | start j =>
    cases w with
    | some w => exact hd
    | none =>
      show K.Sound (match (none : Option (J × Prog Ans E Unit)), plant.start j s with
        | none, some (s, p) => ⟨s, p.rest j⟩
        | _, _ => ⟨s, none⟩)
      cases h : plant.start j s with
      | none => exact hd
      | some r =>
        obtain ⟨hi, hp⟩ := hstart hd.inv ho h
        exact sound_rest hi hp
  | tick i =>
    match w, hd, ho with
    | none, hd, _ => exact hd
    | some (j, .pure a), hd, _ => exact hd
    | some (j, .throw e), hd, _ => exact hd
    | some (j, .call c k), hd, ho =>
      obtain ⟨hi, hp⟩ := hd.safe j _ rfl s i (K.rely_refl j s) hd.inv ho
      exact sound_rest hi hp
  | lose l =>
    cases w with
    | none => exact hd
    | some w => exact ⟨K.lose hd.inv ho, nofun⟩
  | outside m =>
    refine ⟨K.outside hd.inv ho, fun j p hw => ?_⟩
    have hw : w = some (j, p) := hw
    subst hw
    cases p with
    | pure | throw => exact K.outside (hd.safe j _ rfl) ho
    | call c k => exact (hd.safe j _ rfl).rely (K.undisturbed hd.inv ho)

variable (K) in
/-- The invariant holds after every run whose moves meet the conditions, if every program that a
worker takes up is safe. -/
theorem Contract.guarded_invariant {s : S} (hs : K.inv none s) {moves : List (Move J I L M)}
    (ho : Transition.Guarded (fun d m => g.ok d m = true) plant.step ⟨s, none⟩ moves) :
    K.Sound (Transition.run plant.step ⟨s, none⟩ moves) := by
  have hinitial : K.Sound (⟨s, none⟩ : Desk Ans E S J) := ⟨hs, nofun⟩
  have hstep : ∀ d m, K.Sound d → g.ok d m = true → K.Sound (plant.step d m) :=
    fun d m hd hm => sound_step hstart hd hm
  exact Transition.guarded_invariant hstep hinitial ho

end

end Plant

end Plant

end Interaction
