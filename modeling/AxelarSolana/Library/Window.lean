import Mathlib.Algebra.BigOperators.Group.List.Basic
import Mathlib.Order.Lattice
import Mathlib.Tactic.Common

/-! # Lazily reset windows

A total that belongs to one epoch. Nothing happens when an epoch ends: the first amount that is
recorded in a later one resets the total.

* **`Window.record`** — record an amount in an epoch.
* **`Window.totalOf`** — the total of an epoch in a list of records.
* **`Window.Holds`** — a window holds the total of its epoch, which is the last one recorded.
* **`Window.Holds.record`** — one more record keeps this, as long as the epochs do not decrease. -/

/-- **A window**: an epoch, and the total recorded in it. -/
structure Window (ε α : Type) where
  epoch : ε
  total : α

namespace Window

variable {ε α : Type} [LinearOrder ε] [AddMonoid α]

/-- **Record an amount in an epoch**; another epoch resets the total. -/
def record (w : Window ε α) (epoch : ε) (amount : α) : Window ε α where
  epoch := epoch
  total := (if w.epoch = epoch then w.total else 0) + amount

/-- **The total of an epoch** in a list of records. -/
def totalOf (records : List (ε × α)) (epoch : ε) : α :=
  ((records.filter fun r => r.1 = epoch).map Prod.snd).sum

/-- Nothing is recorded. -/
@[simp] theorem totalOf_nil (epoch : ε) : totalOf ([] : List (ε × α)) epoch = 0 := rfl

/-- The totals of two records add up. -/
@[simp] theorem totalOf_append (records records' : List (ε × α)) (epoch : ε) :
    totalOf (records ++ records') epoch = totalOf records epoch + totalOf records' epoch := by
  simp [totalOf]

/-- One record of the epoch itself. -/
@[simp] theorem totalOf_singleton_self (epoch : ε) (amount : α) :
    totalOf [(epoch, amount)] epoch = amount := by
  simp [totalOf]

/-- An epoch in which nothing was recorded has no total. -/
theorem totalOf_eq_zero {records : List (ε × α)} {epoch : ε} (h : ∀ r ∈ records, r.1 ≠ epoch) :
    totalOf records epoch = 0 := by
  have none : (records.filter fun r => r.1 = epoch) = [] := by
    simpa [List.filter_eq_nil_iff] using h
  rw [totalOf, none]
  rfl

/-- **A window holds the total of its epoch**, and nothing was recorded in a later one. -/
structure Holds (w : Window ε α) (records : List (ε × α)) : Prop where
  last : ∀ r ∈ records, r.1 ≤ w.epoch
  total : w.total = totalOf records w.epoch

/-- An empty window. -/
theorem holds_nil (epoch : ε) : Holds (⟨epoch, 0⟩ : Window ε α) [] :=
  ⟨fun _ mem => absurd mem List.not_mem_nil, rfl⟩

/-- **One more record** in an epoch that is not earlier. -/
theorem Holds.record {w : Window ε α} {records : List (ε × α)} (h : w.Holds records) {epoch : ε}
    (later : w.epoch ≤ epoch) (amount : α) :
    (w.record epoch amount).Holds (records ++ [(epoch, amount)]) where
  last := by
    intro r mem
    rcases List.mem_append.mp mem with old | new
    · exact (h.last r old).trans later
    · exact (congrArg Prod.fst (List.mem_singleton.mp new)).le
  total := by
    show (if w.epoch = epoch then w.total else 0) + amount = _
    rw [totalOf_append, Window.record, totalOf_singleton_self]
    by_cases same : w.epoch = epoch
    · rw [if_pos same, h.total, same]
    · -- everything recorded so far belongs to earlier epochs
      have earlier : w.epoch < epoch := lt_of_le_of_ne later same
      rw [if_neg same, totalOf_eq_zero fun r mem => ((h.last r mem).trans_lt earlier).ne]

end Window
