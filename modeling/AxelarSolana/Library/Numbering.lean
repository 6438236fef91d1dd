import Mathlib.Data.List.Nodup

/-! # Numbered registers

A register is a list of keys in the order in which they were entered, without repetitions. The
number of a key is its place, counted from 1.

* **`number keys k`** — the number of a key, if it was entered.
* **`number_append_self`**, **`number_append_of_ne`** — what one more entry changes.
* **`number_eq_some`** — a register is a bijection between its keys and the numbers up to its
  length.
* **`mem_drop_iff`** — the keys among the last entries, by their numbers. -/

namespace Numbering

variable {κ : Type} [DecidableEq κ] {keys : List κ} {k k' : κ} {n : Nat}

/-- **The number of a key.** -/
def number (keys : List κ) (k : κ) : Option Nat := (keys.idxOf? k).map (· + 1)

/-- Nothing is numbered in an empty list. -/
@[simp] theorem number_nil : number [] k = none := rfl

/-- Only what is in the list has a number. -/
@[simp] theorem number_eq_none : number keys k = none ↔ k ∉ keys := by
  simp [number]

/-- **Keys and numbers**: the key with a number is the one at its place. -/
theorem number_eq_some (nodup : keys.Nodup) :
    number keys k = some (n + 1) ↔ keys[n]? = some k := by
  simp only [number, Option.map_eq_some_iff, Nat.add_right_cancel_iff, exists_eq_right,
    List.idxOf?_eq_some_iff, List.getElem?_eq_some_iff]
  constructor
  · rintro ⟨bound, here, -⟩
    exact ⟨bound, here⟩
  · rintro ⟨bound, here⟩
    refine ⟨bound, here, fun j before same => ?_⟩
    have place : j = n := nodup.getElem_inj_iff.mp (same.trans here.symm)
    omega

/-- A number lies between 1 and the number of entries. -/
theorem number_bounds (nodup : keys.Nodup) (h : number keys k = some n) :
    0 < n ∧ n ≤ keys.length := by
  cases n with
  | zero => simp [number] at h
  | succ n =>
    have here := (number_eq_some nodup).mp h
    have bound := (List.getElem?_eq_some_iff.mp here).1
    omega

/-- A number belongs to one key. -/
theorem number_inj (nodup : keys.Nodup) (h : number keys k = some n)
    (h' : number keys k' = some n) : k = k' := by
  cases n with
  | zero => simp [number] at h
  | succ n =>
    have here := (number_eq_some nodup).mp h
    have there := (number_eq_some nodup).mp h'
    exact Option.some.inj (here.symm.trans there)

/-- Every number up to the length belongs to a key. -/
theorem exists_number (nodup : keys.Nodup) (pos : 0 < n) (bound : n ≤ keys.length) :
    ∃ k, number keys k = some n := by
  obtain ⟨m, rfl⟩ : ∃ m, n = m + 1 := ⟨n - 1, by omega⟩
  exact ⟨keys[m], (number_eq_some nodup).mpr (List.getElem?_eq_getElem _)⟩

/-- The new key gets the next number. -/
theorem number_append_self (new : k ∉ keys) :
    number (keys ++ [k]) k = some (keys.length + 1) := by
  induction keys with
  | nil => simp [number]
  | cons x keys ih =>
    obtain ⟨ne, new⟩ := List.ne_and_not_mem_of_not_mem_cons new
    have rest := ih new
    simp only [number, Option.map_eq_some_iff, Nat.add_right_cancel_iff, exists_eq_right] at rest
    simp [number, List.idxOf?_cons, Ne.symm ne, rest]

/-- All other keys keep theirs. -/
theorem number_append_of_ne (ne : k' ≠ k) : number (keys ++ [k]) k' = number keys k' := by
  induction keys with
  | nil => simp [number, ne.symm]
  | cons x keys ih =>
    by_cases here : x = k'
    · simp [number, List.idxOf?_cons, here]
    · have same : (keys ++ [k]).idxOf? k' = keys.idxOf? k' := by
        simpa [number, Option.map_inj_right] using ih
      simp [number, List.idxOf?_cons, here, same]

/-- The last key is the one with the highest number. -/
theorem getLast?_eq_some (nodup : keys.Nodup) (nonempty : keys ≠ []) :
    keys.getLast? = some k ↔ number keys k = some keys.length := by
  have pos := List.length_pos_iff.mpr nonempty
  obtain ⟨m, length⟩ : ∃ m, keys.length = m + 1 := ⟨keys.length - 1, by omega⟩
  rw [length, number_eq_some nodup, List.getLast?_eq_getElem?, length, Nat.add_sub_cancel]

/-- **A window of the last `r` entries**: the keys whose numbers are less than `r` behind. -/
theorem mem_drop_iff (nodup : keys.Nodup) (h : number keys k = some n) {r : Nat} :
    k ∈ keys.drop (keys.length - r) ↔ keys.length - n < r := by
  obtain ⟨pos, bound⟩ := number_bounds nodup h
  obtain ⟨m, rfl⟩ : ∃ m, n = m + 1 := ⟨n - 1, by omega⟩
  have here := (number_eq_some nodup).mp h
  constructor
  · intro mem
    obtain ⟨i, hi⟩ := List.mem_iff_getElem?.mp mem
    rw [List.getElem?_drop] at hi
    -- the key occurs once, so its place is in the window
    have inside := (List.getElem?_eq_some_iff.mp hi).1
    have place : keys.length - r + i = m := by
      refine (List.getElem?_inj inside nodup).mp ?_
      rw [hi, here]
    omega
  · intro recent
    refine List.mem_iff_getElem?.mpr ⟨m - (keys.length - r), ?_⟩
    rw [List.getElem?_drop, show keys.length - r + (m - (keys.length - r)) = m by omega]
    exact here

end Numbering
