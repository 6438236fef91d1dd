import AxelarSolana.Library.Fallible

/-! # Two computations side by side

A property of two runs: whenever both succeed, their results are related. Two programs that are
sequences of the same shape are compared step by step.

* **`Agree R x y`** — whenever `x` and `y` both succeed, `R` relates their values.
* **`Agree.bind`** — one step on both sides, with related values; **`Agree.seq`** — one step on both
  sides, with what its success says.
* **`Agree.ite`** — a condition on which both sides decide alike. -/

namespace Fallible

variable {ε ε' α α' β β' : Type} {R : α → α' → Prop} {S : β → β' → Prop}

/-- **Whenever both computations succeed, their values are related.** -/
def Agree (R : α → α' → Prop) (x : Except ε α) (y : Except ε' α') : Prop :=
  ∀ a b, x = .ok a → y = .ok b → R a b

/-- Equal computations have equal values. -/
theorem Agree.of_eq {x y : Except ε α} (h : x = y) : Agree Eq x y := by
  intro a b hx hy
  rw [h, hy] at hx
  exact (Except.ok.inj hx).symm

/-- Values that are related. -/
theorem Agree.pure {a : α} {b : α'} (h : R a b) :
    Agree R (Pure.pure a : Except ε α) (Pure.pure b : Except ε' α') := by
  intro a' b' ha hb
  rw [pure_eq_ok] at ha hb
  rwa [← ha, ← hb]

/-- **One step on both sides**, with what its success says. -/
theorem Agree.seq {x : Except ε α} {y : Except ε' α'} {f : α → Except ε β} {g : α' → Except ε' β'}
    (h : ∀ a b, x = .ok a → y = .ok b → Agree S (f a) (g b)) : Agree S (x >>= f) (y >>= g) := by
  intro c d hc hd
  obtain ⟨a, hx, hf⟩ := bind_eq_ok.mp hc
  obtain ⟨b, hy, hg⟩ := bind_eq_ok.mp hd
  exact h a b hx hy c d hf hg

/-- **One step on both sides**, with related values. -/
theorem Agree.bind {x : Except ε α} {y : Except ε' α'} {f : α → Except ε β} {g : α' → Except ε' β'}
    (h : Agree R x y) (rest : ∀ a b, R a b → Agree S (f a) (g b)) : Agree S (x >>= f) (y >>= g) :=
  .seq fun a b hx hy => rest a b (h a b hx hy)

/-- **A condition on which both sides decide alike.** -/
theorem Agree.ite {c : Prop} [Decidable c] {x x' : Except ε α} {y y' : Except ε' α'}
    (yes : c → Agree R x y) (no : ¬ c → Agree R x' y') :
    Agree R (if c then x else x') (if c then y else y') := by
  by_cases h : c
  · rw [if_pos h, if_pos h]
    exact yes h
  · rw [if_neg h, if_neg h]
    exact no h

end Fallible
