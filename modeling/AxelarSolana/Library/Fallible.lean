import Mathlib.Tactic.Common

/-! # Fallible computations

The functions of a program that may fail are written in `Except ε`. This file holds what their
proofs need and nothing about any particular program:

* **`require c e`** — continue when `c` holds, fail with `e` otherwise.
* **`okOr o e`** — the value of an `Option`, or the error `e`.
* the `_eq_ok` lemmas, which turn "this computation succeeded" into the list of facts that made
  it succeed; they are the simp set by which every inversion lemma of a program is proved. -/

namespace Fallible

variable {ε α β : Type}

/-- **Check a condition.** Fails with `e` when `c` does not hold. -/
def require (c : Prop) [Decidable c] (e : ε) : Except ε Unit :=
  if c then .ok () else .error e

/-- **Unwrap an option**, with the error to report when there is no value. -/
def okOr (o : Option α) (e : ε) : Except ε α :=
  match o with
  | some a => .ok a
  | none => .error e

/-- A check passes when its condition holds. -/
@[simp] theorem require_eq_ok {c : Prop} [Decidable c] {e : ε} {u : Unit} :
    require c e = .ok u ↔ c := by
  unfold require
  split <;> simp_all

/-- An optional value is there when it is some value. -/
@[simp] theorem okOr_eq_ok {o : Option α} {e : ε} {a : α} :
    okOr o e = .ok a ↔ o = some a := by
  cases o <;> simp [okOr]

/-- A sequence succeeds exactly when its first part does and the rest succeeds on its value. -/
@[simp] theorem bind_eq_ok {x : Except ε α} {f : α → Except ε β} {b : β} :
    x >>= f = .ok b ↔ ∃ a, x = .ok a ∧ f a = .ok b := by
  cases x with
  | error e => simp [bind, Except.bind]
  | ok a => simp [bind, Except.bind]

/-- A result is the value itself. -/
@[simp] theorem pure_eq_ok {a b : α} : (pure a : Except ε α) = .ok b ↔ a = b := by
  simp [pure, Except.pure]

/-- A function of a result succeeds when the computation does. -/
@[simp] theorem map_eq_ok {x : Except ε α} {f : α → β} {b : β} :
    f <$> x = .ok b ↔ ∃ a, x = .ok a ∧ f a = b := by
  cases x with
  | error e => simp [Functor.map, Except.map]
  | ok a => simp [Functor.map, Except.map]

/-- An error is no success. -/
@[simp] theorem throw_ne_ok {e : ε} {a : α} : ¬ (throw e : Except ε α) = .ok a := by
  simp [throw, throwThe, MonadExceptOf.throw]

/-- A check of what holds. -/
@[simp] theorem require_pos {c : Prop} [Decidable c] {e : ε} (h : c) : require c e = .ok () := by
  simp [h]

/-- A check of what does not hold. -/
@[simp] theorem require_neg {c : Prop} [Decidable c] {e : ε} (h : ¬ c) :
    require c e = .error e := if_neg h

/-- A success is the only value that is left of a computation. -/
theorem toOption_eq_some {x : Except ε α} {a : α} : x.toOption = some a ↔ x = .ok a := by
  cases x <;> simp [Except.toOption]

/-! ## Failures -/

/-- A check fails with its own error. -/
theorem require_eq_error {c : Prop} [Decidable c] {e e' : ε} :
    require c e = .error e' ↔ ¬ c ∧ e = e' := by
  unfold require
  split <;> simp_all

/-- An optional value that is not there is reported with the error given. -/
theorem okOr_eq_error {o : Option α} {e e' : ε} : okOr o e = .error e' ↔ o = none ∧ e = e' := by
  cases o <;> simp [okOr]

/-- A sequence fails in its first part, or in the rest after the first part succeeded. -/
theorem bind_eq_error {x : Except ε α} {f : α → Except ε β} {e : ε} :
    x >>= f = .error e ↔ x = .error e ∨ ∃ a, x = .ok a ∧ f a = .error e := by
  cases x with
  | error e => simp [bind, Except.bind]
  | ok a => simp [bind, Except.bind]

/-- A result is no error. -/
theorem pure_ne_error {a : α} {e : ε} : ¬ (pure a : Except ε α) = .error e := by
  simp [pure, Except.pure]

/-- A function of a result fails when the computation does. -/
theorem map_eq_error {x : Except ε α} {f : α → β} {e : ε} : f <$> x = .error e ↔ x = .error e := by
  cases x with
  | error e => simp [Functor.map, Except.map]
  | ok a => simp [Functor.map, Except.map]

/-- **An error that a computation avoids.** -/
def Avoids (e : ε) (x : Except ε α) : Prop := x ≠ .error e

/-- **A sequence avoids an error** when both parts do. -/
theorem Avoids.bind {x : Except ε α} {f : α → Except ε β} {e : ε} (first : Avoids e x)
    (rest : ∀ a, x = .ok a → Avoids e (f a)) : Avoids e (x >>= f) := by
  intro failed
  rcases bind_eq_error.mp failed with failed | ⟨a, ok, failed⟩
  · exact first failed
  · exact rest a ok failed

/-- A check with another error. -/
theorem avoids_require {c : Prop} [Decidable c] {e e' : ε} (other : e' ≠ e) :
    Avoids e (require c e') := fun failed => other (require_eq_error.mp failed).2

/-- An optional value that is missed with another error. -/
theorem avoids_okOr {o : Option α} {e e' : ε} (other : e' ≠ e) : Avoids e (okOr o e') :=
  fun failed => other (okOr_eq_error.mp failed).2

/-- A result fails with no error. -/
theorem avoids_pure {a : α} {e : ε} : Avoids e (pure a : Except ε α) := pure_ne_error

/-- What succeeds fails with no error. -/
theorem avoids_of_ok {x : Except ε α} {a : α} {e : ε} (h : x = .ok a) : Avoids e x := by
  rw [h]
  exact avoids_pure

/-! ## Lists -/

/-- A computation that succeeds on every element of a list succeeds on the list. -/
theorem mapM_eq_ok_map {f : α → Except ε β} {g : α → β} {as : List α}
    (h : ∀ a ∈ as, f a = .ok (g a)) : as.mapM f = .ok (as.map g) := by
  induction as with
  | nil => rfl
  | cons a as ih =>
    have tail : as.mapM f = .ok (as.map g) := ih fun a' mem => h a' (List.mem_cons_of_mem _ mem)
    rw [List.mapM_cons, h a List.mem_cons_self, tail]
    rfl

/-- A computation that inverts a function, element by element. -/
theorem mapM_eq_ok_iff {f : α → Except ε β} {g : β → α} (h : ∀ a b, f a = .ok b ↔ a = g b)
    {as : List α} {bs : List β} : as.mapM f = .ok bs ↔ as = bs.map g := by
  induction as generalizing bs with
  | nil =>
    rw [List.mapM_nil, pure_eq_ok]
    cases bs <;> simp
  | cons a as ih =>
    simp only [List.mapM_cons, bind_eq_ok, pure_eq_ok, h, ih]
    cases bs with
    | nil => simp
    | cons b bs => simp

/-- A computation on a list fails with an error of one of its elements. -/
theorem mapM_eq_error {f : α → Except ε β} {as : List α} {e : ε} (h : as.mapM f = .error e) :
    ∃ a ∈ as, f a = .error e := by
  induction as with
  | nil => exact absurd h pure_ne_error
  | cons a as ih =>
    rw [List.mapM_cons] at h
    rcases bind_eq_error.mp h with head | ⟨b, -, rest⟩
    · exact ⟨a, List.mem_cons_self, head⟩
    · rcases bind_eq_error.mp rest with tail | ⟨bs, -, done⟩
      · obtain ⟨a', mem, fails⟩ := ih tail
        exact ⟨a', List.mem_cons_of_mem _ mem, fails⟩
      · exact absurd done pure_ne_error

/-- The value component of a successful `Unit` computation carries no information. -/
theorem exists_unit {p : Unit → Prop} : (∃ u, p u) ↔ p () := by
  constructor
  · rintro ⟨⟨⟩, h⟩
    exact h
  · intro h
    exact ⟨(), h⟩

/-! ## Computations with a state that survives an error

`EStateM ε σ` is a function on `&mut σ` that may fail: on an error the state keeps what was
written before it. -/

variable {σ : Type}

/-- Run a computation that does not touch the state. -/
def lift (x : Except ε α) : EStateM ε σ α := fun s =>
  match x with
  | .ok a => .ok a s
  | .error e => .error e s

/-- A computation without state, run in a state. -/
@[simp] theorem run_lift (x : Except ε α) (s : σ) :
    EStateM.run (lift x : EStateM ε σ α) s = match x with
      | .ok a => .ok a s
      | .error e => .error e s := rfl

/-- A computation without state succeeds in any state, and leaves it. -/
@[simp] theorem lift_eq_ok {x : Except ε α} {a : α} {s s' : σ} :
    lift x s = .ok a s' ↔ x = .ok a ∧ s = s' := by
  cases x <;> simp [lift]

/-- A sequence succeeds when both parts do, the second in the state that the first leaves. -/
@[simp] theorem stateful_bind_eq_ok {x : EStateM ε σ α} {f : α → EStateM ε σ β} {b : β}
    {s s'' : σ} :
    (x >>= f) s = .ok b s'' ↔ ∃ a s', x s = .ok a s' ∧ f a s' = .ok b s'' := by
  simp only [bind, EStateM.bind]
  cases x s with
  | ok a s' => simp
  | error e s' => simp

/-- After a step that succeeds, the rest runs. -/
theorem stateful_bind_of_ok {x : EStateM ε σ α} {f : α → EStateM ε σ β} {a : α} {s s' : σ}
    (h : x s = .ok a s') : (x >>= f) s = f a s' := by
  simp only [bind, EStateM.bind, h]

/-- Reading the state returns it, and leaves it. -/
@[simp] theorem get_eq_ok {a s s' : σ} :
    (get : EStateM ε σ σ) s = .ok a s' ↔ s = a ∧ s = s' := by
  show EStateM.Result.ok s s = .ok a s' ↔ s = a ∧ s = s'
  rw [EStateM.Result.ok.injEq]

/-- Changing the state always succeeds. -/
@[simp] theorem modify_eq_ok {f : σ → σ} {u : PUnit} {s s' : σ} :
    (modify f : EStateM ε σ PUnit) s = .ok u s' ↔ f s = s' := by
  show EStateM.Result.ok () (f s) = .ok u s' ↔ f s = s'
  simp

/-- A computation without state fails in any state, and leaves it. -/
theorem lift_eq_error {x : Except ε α} {e : ε} {s s' : σ} :
    lift x s = .error e s' ↔ x = .error e ∧ s = s' := by
  cases x <;> simp [lift]

/-- A sequence fails where its first part does, or where its second part does after it. -/
theorem stateful_bind_eq_error {x : EStateM ε σ α} {f : α → EStateM ε σ β} {e : ε} {s s'' : σ} :
    (x >>= f) s = .error e s'' ↔
      x s = .error e s'' ∨ ∃ a s', x s = .ok a s' ∧ f a s' = .error e s'' := by
  simp only [bind, EStateM.bind]
  cases x s with
  | ok a s' => simp
  | error e s' => simp

/-- **An error leaves the state as it was.** -/
def KeepsOnError (x : EStateM ε σ α) (s : σ) : Prop := ∀ e s', x s = .error e s' → s' = s

/-- What starts with reading the state keeps it if the rest does. -/
theorem KeepsOnError.get_bind {f : σ → EStateM ε σ β} {s : σ} (rest : KeepsOnError (f s) s) :
    KeepsOnError (get >>= f) s := by
  intro e s'' h
  rcases stateful_bind_eq_error.mp h with fails | ⟨a, s', ran, fails⟩
  · cases fails
  · obtain ⟨rfl, rfl⟩ := get_eq_ok.mp ran
    exact rest e s'' fails

/-- What starts with a check keeps the state if the rest does after a check that passes. -/
theorem KeepsOnError.lift_bind {x : Except ε α} {f : α → EStateM ε σ β} {s : σ}
    (rest : ∀ a, x = .ok a → KeepsOnError (f a) s) : KeepsOnError (lift x >>= f) s := by
  intro e s'' h
  rcases stateful_bind_eq_error.mp h with fails | ⟨a, s', ran, fails⟩
  · exact (lift_eq_error.mp fails).2.symm
  · obtain ⟨passes, rfl⟩ := lift_eq_ok.mp ran
    exact rest a passes e s'' fails

/-- **Keep the state only on success**: what a transaction does with an account that a failing
function has already written to. -/
def commitState (x : EStateM ε σ Unit) (s : σ) : Except ε σ :=
  match x s with
  | .ok () s' => .ok s'
  | .error e _ => .error e

/-- A computation that succeeds commits the state that it leaves. -/
@[simp] theorem commitState_eq_ok {x : EStateM ε σ Unit} {s s' : σ} :
    commitState x s = .ok s' ↔ x s = .ok () s' := by
  unfold commitState
  cases x s <;> simp

end Fallible
