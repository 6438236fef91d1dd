import Mathlib.Data.List.Basic

/-! # Labelled runs

A labelled transition system is a relation `move s l s'` between states that reports a list of
labels. A run is any number of moves; it reports what they report, in order.

* **`Run move s l s'`** — a run from `s` to `s'` that reports `l`.
* **`Run.trans`**, **`Run.single`** — how runs are put together.
* **`Run.keep`** — what every move keeps, every run keeps.
* **`Reports p move s l s'`** — a run of which only the labels that satisfy `p` are kept in `l`. -/

namespace Labelled

variable {σ ε : Type} {move : σ → List ε → σ → Prop} {p : ε → Bool} {s s₁ s' : σ}
  {l l₁ l' : List ε}

/-- **A run** with the labels it reports. -/
inductive Run (move : σ → List ε → σ → Prop) : σ → List ε → σ → Prop
  | refl (s : σ) : Run move s [] s
  | step {s s₁ s' : σ} {l l' : List ε} (first : move s l s₁) (rest : Run move s₁ l' s') :
      Run move s (l ++ l') s'

/-- One move is a run. -/
theorem Run.single (h : move s l s') : Run move s l s' := by
  have run := Run.step h (.refl s')
  rwa [List.append_nil] at run

/-- Two runs, one after the other. -/
theorem Run.trans (h : Run move s l s₁) (h' : Run move s₁ l' s') : Run move s (l ++ l') s' := by
  induction h with
  | refl => exact h'
  | step first rest ih =>
    rw [List.append_assoc]
    exact .step first (ih h')

/-- **What every move keeps, every run keeps.** -/
theorem Run.keep {P : σ → Prop} (h : Run move s l s')
    (keep : ∀ s l s', move s l s' → P s → P s') (hP : P s) : P s' := by
  induction h with
  | refl => exact hP
  | step first rest ih => exact ih (keep _ _ _ first hP)

/-- **What a run reports under a filter.** -/
def Reports (p : ε → Bool) (move : σ → List ε → σ → Prop) (s : σ) (l : List ε) (s' : σ) : Prop :=
  ∃ all, Run move s all s' ∧ all.filter p = l

/-- Nothing happens, and nothing is reported. -/
theorem Reports.refl (s : σ) : Reports p move s [] s := ⟨[], .refl s, rfl⟩

/-- One move, of whose label only what satisfies `p` is kept. -/
theorem Reports.single (h : move s l s') : Reports p move s (l.filter p) s' := ⟨l, .single h, rfl⟩

/-- One move whose label is dropped. -/
theorem Reports.silent (h : move s l s') (dropped : l.filter p = []) : Reports p move s [] s' :=
  ⟨l, .single h, dropped⟩

/-- One move whose label is kept. -/
theorem Reports.loud (h : move s l s') (kept : l.filter p = l) : Reports p move s l s' :=
  ⟨l, .single h, kept⟩

/-- One sequence of moves after another reports both, in order. -/
theorem Reports.trans (h : Reports p move s l s₁) (h' : Reports p move s₁ l' s') :
    Reports p move s (l ++ l') s' := by
  obtain ⟨all, run, rfl⟩ := h
  obtain ⟨all', run', rfl⟩ := h'
  exact ⟨all ++ all', run.trans run', List.filter_append ..⟩

/-- **What every move keeps, a sequence of moves keeps.** -/
theorem Reports.keep {P : σ → Prop} (h : Reports p move s l s')
    (keep : ∀ s l s', move s l s' → P s → P s') (hP : P s) : P s' := by
  obtain ⟨all, run, -⟩ := h
  exact run.keep keep hP

end Labelled
