import AxelarSolana.Library.Machine

/-! # Progress of a transactional machine

Nobody controls the order of the calls of a run, or which calls others make in between. What a call
is sure to bring about is what it makes true whenever it comes and what nobody can undo.

* **`Lasting`** — a fact that no successful call makes false.
* **`reaches`** — a call that is made at some point of a run, and makes a lasting fact true wherever
  that point is, has made it true by the end. -/

namespace Machine

variable {σ α ε : Type} {step : α → σ → Except ε σ} {P Q : σ → Prop}

/-- **A lasting fact**: no successful call makes it false. -/
def Lasting (step : α → σ → Except ε σ) (Q : σ → Prop) : Prop :=
  ∀ s a s', Q s → step a s = .ok s' → Q s'

/-- A lasting fact outlasts every run. -/
theorem Lasting.run (lasting : Lasting step Q) {s : σ} (h : Q s) (as : List α) :
    Q (run step s as) :=
  run_invariant h lasting as

/-- A call that is rejected leaves a fact as it was, and one that succeeds keeps a lasting one. -/
theorem Lasting.commit (lasting : Lasting step Q) {s : σ} (h : Q s) (a : α) :
    Q (commit step s a) :=
  lasting.run h [a]

/-- **What a call makes true for good.** The list is split at the call: the calls before it lead to
a state in which it makes the fact true, and the calls after it keep the fact. -/
theorem reaches (lasting : Lasting step Q) {s : σ} {a : α} {as : List α} (mem : a ∈ as)
    (ready : ∀ earlier later, as = earlier ++ a :: later → P (run step s earlier))
    (makes : ∀ t, P t → Q (commit step t a)) : Q (run step s as) := by
  obtain ⟨earlier, later, split⟩ := List.append_of_mem mem
  rw [split, run_append, run_cons]
  exact lasting.run (makes _ (ready earlier later split)) later

end Machine
