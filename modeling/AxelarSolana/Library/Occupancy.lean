import Mathlib.Data.Set.Card

/-! # Occupied places

A table that holds at most one entry at each place.

* **`occupied f`** — the places with an entry.
* **`encard_occupied_create`**, **`encard_occupied_close`** — creating an entry at an empty place, or
  closing one, changes their number by one. -/

namespace Occupancy

variable {κ α : Type} [DecidableEq κ] {f : κ → Option α} {k : κ} {a : α}

/-- **The places with an entry.** -/
def occupied (f : κ → Option α) : Set κ := {k | ∃ a, f k = some a}

omit [DecidableEq κ] in
/-- A key is occupied when something is stored there. -/
theorem mem_occupied : k ∈ occupied f ↔ ∃ a, f k = some a := Iff.rfl

omit [DecidableEq κ] in
/-- A table without entries. -/
theorem occupied_eq_empty (h : ∀ k, f k = none) : occupied f = ∅ := by
  ext k
  simp [mem_occupied, h k]

/-- Creating an account occupies its key. -/
theorem occupied_create : occupied (Function.update f k (some a)) = insert k (occupied f) := by
  ext k'
  by_cases same : k' = k
  · subst same
    simp [mem_occupied]
  · simp [mem_occupied, same]

/-- Closing an account frees its key. -/
theorem occupied_close : occupied (Function.update f k none) = occupied f \ {k} := by
  ext k'
  by_cases same : k' = k
  · subst same
    simp [mem_occupied]
  · simp [mem_occupied, same]

/-- **One more entry** at an empty place. -/
theorem encard_occupied_create (absent : f k = none) (a : α) :
    (occupied (Function.update f k (some a))).encard = (occupied f).encard + 1 := by
  rw [occupied_create, Set.encard_insert_of_notMem]
  rintro ⟨b, present⟩
  cases absent.symm.trans present

/-- **One entry less**, where there was one. -/
theorem encard_occupied_close (present : f k = some a) :
    (occupied (Function.update f k none)).encard + 1 = (occupied f).encard := by
  rw [occupied_close]
  exact Set.encard_sdiff_singleton_add_one ⟨a, present⟩

end Occupancy
