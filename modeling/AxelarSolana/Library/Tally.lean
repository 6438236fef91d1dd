import Mathlib.Algebra.BigOperators.Group.List.Basic
import Mathlib.Algebra.GroupWithZero.Nat
import Mathlib.Data.List.Induction
import Mathlib.Tactic.Common

/-! # Capped tallies

A counter that adds up weights in a bounded register, and jumps to the register's maximum `M` as
soon as the total reaches a quorum `Q`. The maximum serves as a marker for "quorum reached", so
the counter has to tell a genuine total from the marker.

* **`Tally.add M Q acc w`** — add one weight.
* **`Tally.value`** — after any list of weights the register holds the marker exactly when the list
  is nonempty and its sum in unbounded integers reaches the quorum, and otherwise that exact sum.
* **`Tally.value_append`** — it is the value to which one more weight is added. -/

namespace Tally

/-- **Add one weight**: saturate at `M`, and jump to `M` at the quorum. -/
def add (M Q acc w : Nat) : Nat :=
  if Q ≤ min (acc + w) M then M else min (acc + w) M

/-- **The value of a tally**: the marker once some weight was added and the sum reaches the
quorum, the sum before. -/
def value (M Q : Nat) (ws : List Nat) : Nat :=
  if ws ≠ [] ∧ Q ≤ ws.sum then M else ws.sum

/-- Nothing was added. -/
@[simp] theorem value_nil (M Q : Nat) : value M Q [] = 0 := by simp [value]

/-- The marker, once the quorum is reached. -/
theorem value_of_reached {M Q : Nat} {ws : List Nat} (nonempty : ws ≠ []) (h : Q ≤ ws.sum) :
    value M Q ws = M := if_pos ⟨nonempty, h⟩

/-- The exact sum, as long as the quorum is not reached. -/
theorem value_of_below {M Q : Nat} {ws : List Nat} (h : ¬ (ws ≠ [] ∧ Q ≤ ws.sum)) :
    value M Q ws = ws.sum := if_neg h

/-- One more weight moves the value of the tally by one `add`. -/
theorem value_append {M Q : Nat} (hQ : Q ≤ M) (ws : List Nat) (w : Nat) :
    value M Q (ws ++ [w]) = add M Q (value M Q ws) w := by
  have sum : (ws ++ [w]).sum = ws.sum + w := by simp
  have nonempty : ws ++ [w] ≠ [] := by simp
  by_cases reached : ws ≠ [] ∧ Q ≤ ws.sum
  · -- the marker absorbs every further weight
    rw [value_of_reached nonempty (by omega), value_of_reached reached.1 reached.2]
    unfold add
    split <;> omega
  · rw [value_of_below reached]
    by_cases now : Q ≤ ws.sum + w
    · rw [value_of_reached nonempty (by omega)]
      unfold add
      split <;> omega
    · rw [value_of_below (by omega), sum]
      unfold add
      split <;> omega

/-- The register holds the marker exactly when the quorum is reached. -/
theorem value_eq_max_iff {M Q : Nat} (hQ : Q ≤ M) (hM : 0 < M) (ws : List Nat) :
    value M Q ws = M ↔ ws ≠ [] ∧ Q ≤ ws.sum := by
  unfold value
  split
  case isTrue reached => simp [reached]
  case isFalse below =>
    constructor
    · intro full
      refine absurd ⟨?_, by omega⟩ below
      rintro rfl
      simp at full
      omega
    · intro reached
      exact absurd reached below

end Tally
