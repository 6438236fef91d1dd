import Mathlib.Tactic.Common

/-! # Holders of rights

A table says who holds which right on which resource.

* **`Unique t k`** — no resource has two holders of the right `k`.
* **`Adds`**, **`Drops`**, **`Moves`** — a user gets rights, loses one, or passes one on; everything
  else stays.
* **`Unique.adds`**, **`Unique.drops`**, **`Unique.moves`** — when they keep a right unique. -/

namespace Holders

variable {ρ υ κ : Type}

/-- **Who holds which right on which resource.** -/
abbrev Table (ρ υ κ : Type) := ρ → υ → κ → Prop

variable {t t' : Table ρ υ κ} {r : ρ} {user origin destination : υ} {k k' : κ} {ks : κ → Prop}

/-- **No resource has two holders of a right.** -/
def Unique (t : Table ρ υ κ) (k : κ) : Prop := ∀ r u u', t r u k → t r u' k → u = u'

/-- **A user gets rights** on a resource. -/
def Adds (t t' : Table ρ υ κ) (r : ρ) (user : υ) (ks : κ → Prop) : Prop :=
  ∀ r' u k', t' r' u k' ↔ t r' u k' ∨ (r' = r ∧ u = user ∧ ks k')

/-- **A user loses a right** on a resource. -/
def Drops (t t' : Table ρ υ κ) (r : ρ) (user : υ) (k : κ) : Prop :=
  ∀ r' u k', t' r' u k' ↔ t r' u k' ∧ ¬ (r' = r ∧ u = user ∧ k' = k)

/-- **A user passes a right on** to another. -/
def Moves (t t' : Table ρ υ κ) (r : ρ) (k : κ) (origin destination : υ) : Prop :=
  ∀ r' u k', t' r' u k' ↔
    (t r' u k' ∧ ¬ (r' = r ∧ u = origin ∧ k' = k)) ∨ (r' = r ∧ u = destination ∧ k' = k)

/-- **To take from one and to give to the other** is to move. -/
theorem moves_of_drops_adds {t₁ : Table ρ υ κ} (drops : Drops t t₁ r origin k)
    (adds : Adds t₁ t' r destination fun k' => k' = k) : Moves t t' r k origin destination := by
  intro r' u k'
  rw [adds r' u k', drops r' u k']

/-- A right that nobody had stays unique when a user gets it. -/
theorem Unique.adds (h : Unique t k) (adds : Adds t t' r user ks)
    (absent : ks k → ∀ u, ¬ t r u k) : Unique t' k := by
  intro r' u u' held held'
  rcases (adds r' u k).mp held with before | ⟨rfl, rfl, given⟩
  · rcases (adds r' u' k).mp held' with before' | ⟨rfl, rfl, given⟩
    · exact h r' u u' before before'
    · exact absurd before (absent given u)
  · rcases (adds r' u' k).mp held' with before' | ⟨-, rfl, -⟩
    · exact absurd before' (absent given u')
    · rfl

/-- Taking from somebody leaves at most one holder. -/
theorem Unique.drops (h : Unique t k') (drops : Drops t t' r user k) : Unique t' k' := by
  intro r' u u' held held'
  exact h r' u u' ((drops r' u k').mp held).1 ((drops r' u' k').mp held').1

/-- A right that its holder passes on stays unique. -/
theorem Unique.moves (h : Unique t k') (moves : Moves t t' r k origin destination)
    (held : t r origin k) : Unique t' k' := by
  intro r' u u' after after'
  rcases (moves r' u k').mp after with ⟨before, other⟩ | ⟨rfl, rfl, rfl⟩
  · rcases (moves r' u' k').mp after' with ⟨before', -⟩ | ⟨rfl, rfl, rfl⟩
    · exact h r' u u' before before'
    · exact absurd ⟨rfl, h r' u origin before held, rfl⟩ other
  · rcases (moves r' u' k').mp after' with ⟨before', other⟩ | ⟨-, rfl, -⟩
    · exact absurd ⟨rfl, h r' u' origin before' held, rfl⟩ other
    · rfl

/-- A right that is passed on is not lost. -/
theorem Moves.exists_holder (moves : Moves t t' r k origin destination) {r' : ρ}
    (h : ∃ u, t r' u k') : ∃ u, t' r' u k' := by
  obtain ⟨u, before⟩ := h
  by_cases passed : r' = r ∧ u = origin ∧ k' = k
  · exact ⟨destination, (moves r' destination k').mpr (.inr ⟨passed.1, rfl, passed.2.2⟩)⟩
  · exact ⟨u, (moves r' u k').mpr (.inl ⟨before, passed⟩)⟩

/-- Only the destination gains, and only what is passed on. -/
theorem Moves.gained (moves : Moves t t' r k origin destination) {r' : ρ} {u : υ}
    (after : t' r' u k') (before : ¬ t r' u k') : r' = r ∧ u = destination ∧ k' = k := by
  rcases (moves r' u k').mp after with ⟨held, -⟩ | gained
  · exact absurd held before
  · exact gained

/-- Whoever holds it only afterwards is whom it was given to. -/
theorem Adds.gained (adds : Adds t t' r user ks) {r' : ρ} {u : υ} (after : t' r' u k')
    (before : ¬ t r' u k') : r' = r ∧ u = user ∧ ks k' :=
  ((adds r' u k').mp after).resolve_left before

end Holders
