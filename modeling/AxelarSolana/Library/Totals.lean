import AxelarSolana.Library.Machine
import Mathlib.Algebra.Ring.Int.Defs

/-! # Totals over a log

A machine keeps a log that its steps only extend. A weight gives every entry of the log a number; what
holds of the total of a weight over the entries that each step adds, holds of the whole log.

* **`total`** — the total of a weight over some entries.
* **`total_filter`** — only the entries that have a weight count.
* **`total_run`** — when every step adds entries whose weights cancel, the total never changes.
* **`le_total_run`** — when no step lowers a measure by more than the weight of what it adds, a run lowers
  it by no more than the weight of the log.
* **`log_run`** — the log is what its steps add, in order. -/

namespace Totals

open Machine

variable {σ α ε β : Type}

/-- **The total of a weight.** -/
def total (weight : β → Int) (entries : List β) : Int := (entries.map weight).sum

/-- Nothing weighs nothing. -/
@[simp] theorem total_nil (weight : β → Int) : total weight [] = 0 := rfl

/-- The first entry, and the others. -/
@[simp] theorem total_cons (weight : β → Int) (entry : β) (entries : List β) :
    total weight (entry :: entries) = weight entry + total weight entries := List.sum_cons

/-- The weights of two lists add up. -/
@[simp] theorem total_append (weight : β → Int) (entries entries' : List β) :
    total weight (entries ++ entries') = total weight entries + total weight entries' := by
  induction entries with
  | nil => exact (Int.zero_add _).symm
  | cons entry entries ih => rw [List.cons_append, total_cons, total_cons, ih, Int.add_assoc]

/-- The sum of two weights, entry by entry or all at once. -/
theorem total_add (weight weight' : β → Int) (entries : List β) :
    total (fun entry => weight entry + weight' entry) entries
      = total weight entries + total weight' entries := by
  induction entries with
  | nil => rfl
  | cons entry entries ih =>
    rw [total_cons, total_cons, total_cons, ih]
    omega

/-- The opposite weight, entry by entry or all at once. -/
theorem total_neg (weight : β → Int) (entries : List β) :
    total (fun entry => -weight entry) entries = -total weight entries := by
  induction entries with
  | nil => rfl
  | cons entry entries ih =>
    rw [total_cons, total_cons, ih]
    omega

/-- Entries without weight do not count. -/
theorem total_filter {weight : β → Int} {p : β → Bool} {entries : List β}
    (weightless : ∀ entry ∈ entries, p entry = false → weight entry = 0) :
    total weight entries = total weight (entries.filter p) := by
  induction entries with
  | nil => rfl
  | cons entry entries ih =>
    have rest := ih fun e mem => weightless e (List.mem_cons_of_mem _ mem)
    cases counts : p entry with
    | true => rw [List.filter_cons_of_pos counts, total_cons, total_cons, rest]
    | false =>
      rw [List.filter_cons_of_neg (by simp [counts]), total_cons, rest,
        weightless entry List.mem_cons_self counts, Int.zero_add]

/-- **Weights that cancel in every step cancel in a run.** -/
theorem total_run {step : α → σ → Except ε σ} (log : σ → List β) {weight : β → Int} {s : σ}
    {as : List α} (cancels : ∀ t ∈ trace step s as,
      ∃ entries, log t.post = log t.pre ++ entries ∧ total weight entries = 0) :
    total weight (log (run step s as)) = total weight (log s) := by
  induction as generalizing s with
  | nil => rfl
  | cons a as ih =>
    cases success : step a s with
    | error e =>
      rw [trace_cons_error success] at cancels
      rw [run_cons, commit_error success]
      exact ih cancels
    | ok s' =>
      rw [trace_cons_ok success] at cancels
      obtain ⟨entries, grows, zero⟩ := cancels _ List.mem_cons_self
      have first : total weight (log s') = total weight (log s) := by
        have same := congrArg (total weight) grows
        rwa [total_append, zero, Int.add_zero] at same
      rw [run_cons, commit_ok success, ih fun t mem => cancels t (List.mem_cons_of_mem _ mem)]
      exact first

/-- **A measure falls in a run by no more than the log weighs**, when it does so in every step. -/
theorem le_total_run {step : α → σ → Except ε σ} (log : σ → List β) (measure : σ → Int)
    {weight : β → Int} {s : σ} {as : List α} (bounded : ∀ t ∈ trace step s as,
      ∃ entries, log t.post = log t.pre ++ entries ∧
        measure t.pre ≤ measure t.post + total weight entries) :
    measure s + total weight (log s)
      ≤ measure (run step s as) + total weight (log (run step s as)) := by
  induction as generalizing s with
  | nil => exact Int.le_refl _
  | cons a as ih =>
    cases success : step a s with
    | error e =>
      rw [trace_cons_error success] at bounded
      rw [run_cons, commit_error success]
      exact ih bounded
    | ok s' =>
      rw [trace_cons_ok success] at bounded
      obtain ⟨entries, grows, falls⟩ := bounded _ List.mem_cons_self
      have rest := ih fun t mem => bounded t (List.mem_cons_of_mem _ mem)
      have first : total weight (log s') = total weight (log s) + total weight entries := by
        have same := congrArg (total weight) grows
        rwa [total_append] at same
      have falls : measure s ≤ measure s' + total weight entries := falls
      rw [run_cons, commit_ok success]
      omega

/-- **The log of a run** is what its steps add to it. -/
theorem log_run {step : α → σ → Except ε σ} (log : σ → List β) {s : σ} {as : List α}
    (grows : ∀ t ∈ trace step s as, log t.pre <+: log t.post) :
    log (run step s as)
      = log s ++ (trace step s as).flatMap fun t => (log t.post).drop (log t.pre).length := by
  induction as generalizing s with
  | nil => simp
  | cons a as ih =>
    cases success : step a s with
    | error e =>
      rw [trace_cons_error success] at grows ⊢
      rw [run_cons, commit_error success]
      exact ih grows
    | ok s' =>
      rw [trace_cons_ok success] at grows ⊢
      have first : log s' = log s ++ (log s').drop (log s).length :=
        (List.prefix_iff_eq_append.mp (grows _ List.mem_cons_self)).symm
      rw [run_cons, commit_ok success, ih fun t mem => grows t (List.mem_cons_of_mem _ mem),
        List.flatMap_cons, ← List.append_assoc, ← first]

end Totals
