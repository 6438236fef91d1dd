import AxelarSolana.Library.Totals
import Mathlib.Algebra.BigOperators.Group.List.Basic
import Mathlib.Data.List.Perm.Subperm

/-! # Matching by keys

The entries of one list are backed by those of another: each finds an entry of the same key that weighs
at least as much. When no key occurs twice on the first list, its total is at most that of the second.

* **`total_eq_zero`**, **`total_nonneg`**, **`total_le_total`** — what holds of all weights and of their
  total.
* **`total_flatMap`**, **`total_filterMap`** — the total of lists one after the other, and of what is
  read off the entries of a list.
* **`total_le_of_matched`** — the bound.
* **`total_le_of_count`** — the same for lists of keys that have a worth each, when none occurs more often
  on the first than on the second. -/

namespace Totals

variable {α β κ : Type}

/-- Entries without weight weigh nothing together. -/
theorem total_eq_zero {weight : β → Int} {entries : List β}
    (weightless : ∀ entry ∈ entries, weight entry = 0) : total weight entries = 0 := by
  induction entries with
  | nil => rfl
  | cons entry entries ih =>
    rw [total_cons, weightless entry List.mem_cons_self, Int.zero_add]
    exact ih fun e mem => weightless e (List.mem_cons_of_mem _ mem)

/-- Entries of no negative weight weigh nothing negative together. -/
theorem total_nonneg {weight : β → Int} {entries : List β}
    (nonneg : ∀ entry ∈ entries, 0 ≤ weight entry) : 0 ≤ total weight entries := by
  induction entries with
  | nil => exact Int.le_refl 0
  | cons entry entries ih =>
    have here := nonneg entry List.mem_cons_self
    have rest := ih fun e mem => nonneg e (List.mem_cons_of_mem _ mem)
    rw [total_cons]
    omega

/-- What weighs no more entry by entry weighs no more together. -/
theorem total_le_total {weight weight' : β → Int} {entries : List β}
    (le : ∀ entry ∈ entries, weight entry ≤ weight' entry) :
    total weight entries ≤ total weight' entries := by
  induction entries with
  | nil => exact Int.le_refl 0
  | cons entry entries ih =>
    have here := le entry List.mem_cons_self
    have rest := ih fun e mem => le e (List.mem_cons_of_mem _ mem)
    rw [total_cons, total_cons]
    omega

/-- The total of lists in a row is the total of their totals. -/
theorem total_flatMap (weight : β → Int) (f : α → List β) (xs : List α) :
    total weight (xs.flatMap f) = total (fun x => total weight (f x)) xs := by
  induction xs with
  | nil => rfl
  | cons x xs ih => rw [List.flatMap_cons, total_append, total_cons, ih]

/-- The total of the entries that are kept. -/
theorem total_filterMap (weight : β → Int) (f : α → Option β) (xs : List α) :
    total weight (xs.filterMap f) = total (fun x => (f x).elim 0 weight) xs := by
  induction xs with
  | nil => rfl
  | cons x xs ih =>
    rw [total_cons, ← ih]
    cases read : f x with
    | none => rw [List.filterMap_cons_none read, Option.elim_none, Int.zero_add]
    | some y => rw [List.filterMap_cons_some read, Option.elim_some, total_cons]

/-- **What is backed weighs no more than what backs it**, when no key is used twice. -/
theorem total_le_of_matched (key : α → κ) (key' : β → κ) {weight : α → Int} {backing : β → Int}
    {xs : List α} {ys : List β} (distinct : (xs.map key).Nodup)
    (nonneg : ∀ y ∈ ys, 0 ≤ backing y)
    (backed : ∀ x ∈ xs, ∃ y ∈ ys, key' y = key x ∧ weight x ≤ backing y) :
    total weight xs ≤ total backing ys := by
  induction xs generalizing ys with
  | nil => exact total_nonneg nonneg
  | cons x xs ih =>
    rw [List.map_cons, List.nodup_cons] at distinct
    obtain ⟨y, mem, same, enough⟩ := backed x List.mem_cons_self
    obtain ⟨before, after, rfl⟩ := List.append_of_mem mem
    -- the others have other keys: they are backed without `y`
    have rest : total weight xs ≤ total backing (before ++ after) := by
      apply ih distinct.2
      · intro z among
        apply nonneg
        rw [List.mem_append] at among ⊢
        exact among.imp_right (List.mem_cons_of_mem _)
      · intro x' mem'
        obtain ⟨z, among, same', enough'⟩ := backed x' (List.mem_cons_of_mem _ mem')
        have other : z ≠ y := by
          rintro rfl
          apply distinct.1
          rw [← same, same']
          exact List.mem_map_of_mem mem'
        refine ⟨z, ?_, same', enough'⟩
        rw [List.mem_append, List.mem_cons] at among
        rw [List.mem_append]
        rcases among with early | here | late
        · exact .inl early
        · exact absurd here other
        · exact .inr late
    rw [total_append] at rest
    rw [total_cons, total_append, total_cons]
    omega

/-- **What occurs less often is worth less.** -/
theorem total_le_of_count [DecidableEq κ] {worth : κ → Int} {xs ys : List κ}
    (nonneg : ∀ k, 0 ≤ worth k) (counts : ∀ k, xs.count k ≤ ys.count k) :
    total worth xs ≤ total worth ys := by
  have perm := List.subperm_append_diff_self_of_count_le fun k _ => counts k
  have same : total worth (xs ++ ys.diff xs) = total worth ys := (perm.map worth).sum_eq
  have rest : 0 ≤ total worth (ys.diff xs) := total_nonneg fun k _ => nonneg k
  rw [total_append] at same
  omega

end Totals
