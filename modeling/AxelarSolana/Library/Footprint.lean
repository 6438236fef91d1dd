import AxelarSolana.Library.Machine
import Mathlib.Data.Set.Lattice
import Mathlib.Order.CompletePartialOrder

/-! # Footprints

A state seen as a family of cells. A call that writes to some cells only, and whose effect on them
depends on some cells only, can be exchanged with any call whose cells are apart from these:

* **`Framed`** — the cells that each call reads and writes.
* **`Writer`** — the writes of a machine as data: each changes one cell; a machine whose calls
  amount to lists of writes is framed.
* **`Agree`** — two states with the same content in every cell.
* **`Independent`** — no call writes to what the other reads.
* **`commit_comm`** — independent calls may be made in either order.
* **`run_lanes`** — when calls in different lanes are independent, only the order within each lane
  matters. -/

namespace Footprint

open Machine

variable {σ α ε κ : Type} {ν : κ → Type} {step : α → σ → Except ε σ} {cell : (k : κ) → σ → ν k}
  {reads writes : α → Set κ}

/-- **The footprints of the calls of a machine.** A call leaves alone what it does not write to,
and does the same in any two states that agree on what it reads. -/
structure Framed (step : α → σ → Except ε σ) (cell : (k : κ) → σ → ν k)
    (reads writes : α → Set κ) : Prop where
  writes_subset (a : α) : writes a ⊆ reads a
  frame {a : α} {s s' : σ} {k : κ} (h : step a s = .ok s') (outside : k ∉ writes a) :
    cell k s' = cell k s
  locality {a : α} {s s' t : σ} (same : ∀ k ∈ reads a, cell k s = cell k t)
    (h : step a s = .ok s') : ∃ t', step a t = .ok t' ∧ ∀ k ∈ writes a, cell k s' = cell k t'

/-! ## Writes -/

/-- **Writes as data.** A write changes its target only, and what it leaves in a cell depends on that
cell alone. -/
structure Writer {ω : Type} (cell : (k : κ) → σ → ν k) (target : ω → κ) (apply : ω → σ → σ) :
    Prop where
  other {w : ω} {s : σ} {k : κ} (apart : k ≠ target w) : cell k (apply w s) = cell k s
  cellwise {w : ω} {s t : σ} {k : κ} (same : cell k s = cell k t) :
    cell k (apply w s) = cell k (apply w t)

/-- The state after a list of writes. -/
def applyAll {ω : Type} (apply : ω → σ → σ) (ws : List ω) (s : σ) : σ :=
  ws.foldl (fun s w => apply w s) s

section Writer

variable {ω : Type} {target : ω → κ} {apply : ω → σ → σ}

/-- Writes elsewhere leave a cell as it is. -/
theorem Writer.applyAll_other (writer : Writer cell target apply) {ws : List ω} {s : σ} {k : κ}
    (apart : ∀ w ∈ ws, k ≠ target w) : cell k (applyAll apply ws s) = cell k s := by
  induction ws generalizing s with
  | nil => rfl
  | cons w ws ih =>
    have rest := ih (s := apply w s) fun v mem => apart v (List.mem_cons_of_mem w mem)
    exact rest.trans (writer.other (apart w List.mem_cons_self))

/-- The same writes to a cell of the same content leave it with the same content. -/
theorem Writer.applyAll_cellwise (writer : Writer cell target apply) (ws : List ω) {s t : σ}
    {k : κ} (same : cell k s = cell k t) :
    cell k (applyAll apply ws s) = cell k (applyAll apply ws t) := by
  induction ws generalizing s t with
  | nil => exact same
  | cons w ws ih => exact ih (writer.cellwise same)

/-- **Calls that amount to writes are framed.** -/
theorem Writer.framed (writer : Writer cell target apply) (subset : ∀ a, writes a ⊆ reads a)
    (amounts : ∀ a s s', step a s = .ok s' → ∃ ws : List ω, (∀ w ∈ ws, target w ∈ writes a) ∧
      s' = applyAll apply ws s ∧
      ∀ t, (∀ k ∈ reads a, cell k s = cell k t) → step a t = .ok (applyAll apply ws t)) :
    Framed step cell reads writes where
  writes_subset := subset
  frame := by
    intro a s s' k h outside
    obtain ⟨ws, targets, rfl, -⟩ := amounts a s s' h
    exact writer.applyAll_other fun w mem eq => outside (eq ▸ targets w mem)
  locality := by
    intro a s s' t same h
    obtain ⟨ws, -, rfl, elsewhere⟩ := amounts a s s' h
    refine ⟨_, elsewhere t same, fun k written => ?_⟩
    exact writer.applyAll_cellwise ws (same k (subset a written))

end Writer

/-- **The same content in every cell.** -/
def Agree (cell : (k : κ) → σ → ν k) (s t : σ) : Prop := ∀ k, cell k s = cell k t

/-- A state agrees with itself on all cells. -/
theorem Agree.refl (s : σ) : Agree cell s s := fun _ => rfl

/-- Agreement does not depend on the order of the states. -/
theorem Agree.symm {s t : σ} (h : Agree cell s t) : Agree cell t s := fun k => (h k).symm

/-- Agreement carries over from state to state. -/
theorem Agree.trans {s t u : σ} (h : Agree cell s t) (h' : Agree cell t u) : Agree cell s u :=
  fun k => (h k).trans (h' k)

/-- **Independent calls**: neither writes to what the other reads. -/
def Independent (reads writes : α → Set κ) (a b : α) : Prop :=
  Disjoint (writes a) (reads b) ∧ Disjoint (writes b) (reads a)

/-- Independence does not depend on the order of the steps. -/
theorem Independent.symm {a b : α} (h : Independent reads writes a b) :
    Independent reads writes b a := ⟨h.2, h.1⟩

/-! ## One call -/

/-- A committed or rejected call leaves alone what it does not write to. -/
theorem Framed.commit_frame (framed : Framed step cell reads writes) {a : α} {s : σ} {k : κ}
    (outside : k ∉ writes a) : cell k (commit step s a) = cell k s := by
  cases h : step a s with
  | ok s' =>
    rw [commit_ok h]
    exact framed.frame h outside
  | error e => rw [commit_error h]

/-- A call does the same to the cells it writes, in states that agree on what it reads: it
succeeds in both or in neither. -/
theorem Framed.commit_local (framed : Framed step cell reads writes) {a : α} {s t : σ}
    (same : ∀ k ∈ reads a, cell k s = cell k t) {k : κ} (written : k ∈ writes a) :
    cell k (commit step s a) = cell k (commit step t a) := by
  cases h : step a s with
  | ok s' =>
    obtain ⟨t', ht, agree⟩ := framed.locality same h
    rw [commit_ok h, commit_ok ht]
    exact agree k written
  | error e =>
    cases ht : step a t with
    | ok t' =>
      -- what succeeds in one state succeeds in the other
      obtain ⟨s', hs, -⟩ := framed.locality (fun k read => (same k read).symm) ht
      rw [h] at hs
      cases hs
    | error e' =>
      rw [commit_error h, commit_error ht]
      exact same k (framed.writes_subset a written)

/-- **Agreement is kept by every call.** -/
theorem Framed.commit_agree (framed : Framed step cell reads writes) (a : α) {s t : σ}
    (h : Agree cell s t) : Agree cell (commit step s a) (commit step t a) := by
  intro k
  by_cases written : k ∈ writes a
  · exact framed.commit_local (fun k _ => h k) written
  · rw [framed.commit_frame written, framed.commit_frame written]
    exact h k

/-- Agreement is kept by every run. -/
theorem Framed.run_agree (framed : Framed step cell reads writes) (as : List α) {s t : σ}
    (h : Agree cell s t) : Agree cell (run step s as) (run step t as) := by
  induction as generalizing s t with
  | nil => exact h
  | cons a as ih => exact ih (framed.commit_agree a h)

/-! ## Exchanging calls -/

/-- What one of two independent calls writes is the same whether the other comes before or
after. -/
theorem Framed.commit_commit_of_written (framed : Framed step cell reads writes) {a b : α} {s : σ}
    (h : Independent reads writes a b) {k : κ} (written : k ∈ writes a) :
    cell k (commit step (commit step s a) b) = cell k (commit step (commit step s b) a) := by
  have apart : k ∉ writes b := fun hb =>
    Set.disjoint_left.mp h.1 written (framed.writes_subset b hb)
  rw [framed.commit_frame apart]
  refine framed.commit_local (fun j read => ?_) written
  exact (framed.commit_frame fun hj => Set.disjoint_left.mp h.2 hj read).symm

/-- **Independent calls may be made in either order.** -/
theorem Framed.commit_comm (framed : Framed step cell reads writes) {a b : α} (s : σ)
    (h : Independent reads writes a b) :
    Agree cell (commit step (commit step s a) b) (commit step (commit step s b) a) := by
  intro k
  by_cases ha : k ∈ writes a
  · exact framed.commit_commit_of_written h ha
  · by_cases hb : k ∈ writes b
    · exact (framed.commit_commit_of_written h.symm hb).symm
    · rw [framed.commit_frame hb, framed.commit_frame ha, framed.commit_frame ha,
        framed.commit_frame hb]

/-- A call may be made before the calls it is independent of. -/
theorem Framed.run_middle (framed : Framed step cell reads writes) {a : α} {before : List α}
    (independent : ∀ b ∈ before, Independent reads writes a b) (s : σ) (after : List α) :
    Agree cell (run step s (before ++ a :: after)) (run step s (a :: (before ++ after))) := by
  induction before generalizing s with
  | nil => exact Agree.refl _
  | cons b before ih =>
    -- past the rest of the calls first, then past the first of them
    have rest := ih (fun b' mem => independent b' (List.mem_cons_of_mem b mem)) (commit step s b)
    refine rest.trans ?_
    rw [run_cons, List.cons_append, run_cons, run_cons]
    exact framed.run_agree _ (framed.commit_comm s (independent b List.mem_cons_self).symm)

/-! ## Lanes -/

variable {L : Type} [DecidableEq L]

/-- The calls of a lane, in order. -/
def inLane (lane : α → L) (l : L) (as : List α) : List α := as.filter fun a => lane a = l

/-- The lanes of two lists in a row are their lanes in a row. -/
theorem inLane_append (lane : α → L) (l : L) (as bs : List α) :
    inLane lane l (as ++ bs) = inLane lane l as ++ inLane lane l bs := List.filter_append ..

/-- Two elements of different lanes may change places. -/
theorem inLane_swap {lane : α → L} {a b : α} (apart : lane a ≠ lane b) (l : L) :
    inLane lane l [a, b] = inLane lane l [b, a] := by
  by_cases first : lane a = l
  · have second : lane b ≠ l := first ▸ apart.symm
    simp [inLane, first, second]
  · simp [inLane, List.filter_cons, first]

/-- Lists with the same lanes have the same members. -/
theorem mem_of_inLane_eq {lane : α → L} {as bs : List α}
    (same : ∀ l, inLane lane l as = inLane lane l bs) {b : α} (mem : b ∈ bs) : b ∈ as := by
  have inside : b ∈ inLane lane (lane b) bs := List.mem_filter.mpr ⟨mem, by simp⟩
  rw [← same] at inside
  exact (List.mem_filter.mp inside).1

/-- The first call of a lane, taken out of a list with the same lanes. -/
theorem exists_split_of_inLane {lane : α → L} {a : α} {as bs : List α}
    (same : ∀ l, inLane lane l (a :: as) = inLane lane l bs) :
    ∃ before after, bs = before ++ a :: after ∧ (∀ b ∈ before, lane a ≠ lane b) ∧
      ∀ l, inLane lane l as = inLane lane l (before ++ after) := by
  have first : inLane lane (lane a) bs = a :: inLane lane (lane a) as := by
    rw [← same]
    exact List.filter_cons_of_pos (by simp)
  obtain ⟨before, after, rfl, others, -, -⟩ := List.filter_eq_cons_iff.mp first
  have apart : ∀ b ∈ before, lane a ≠ lane b := fun b mem eq => others b mem (by simp [eq])
  refine ⟨before, after, rfl, apart, fun l => ?_⟩
  have here := same l
  rw [inLane_append] at here ⊢
  by_cases hl : lane a = l
  · have none : inLane lane l before = [] :=
      List.filter_eq_nil_iff.mpr fun b mem eq => apart b mem (by simpa [hl, eq_comm] using eq)
    rw [none, List.nil_append] at here ⊢
    have cons (xs : List α) : inLane lane l (a :: xs) = a :: inLane lane l xs :=
      List.filter_cons_of_pos (by simp [hl])
    rw [cons, cons] at here
    exact List.tail_eq_of_cons_eq here
  · have skip (xs : List α) : inLane lane l (a :: xs) = inLane lane l xs :=
      List.filter_cons_of_neg (by simp [hl])
    rwa [skip, skip] at here

/-- **Only the order within each lane matters.** When calls in different lanes are independent, two
lists of calls with the same lanes lead to states that agree. The induction is on the first list:
its first call is moved to the front of the second. -/
theorem Framed.run_lanes (framed : Framed step cell reads writes) {lane : α → L}
    {as bs : List α}
    (independent : ∀ a ∈ as, ∀ b ∈ as, lane a ≠ lane b → Independent reads writes a b)
    (same : ∀ l, inLane lane l as = inLane lane l bs) (s : σ) :
    Agree cell (run step s as) (run step s bs) := by
  induction as generalizing bs s with
  | nil =>
    have empty : bs = [] := by
      refine List.eq_nil_iff_forall_not_mem.mpr fun b mem => ?_
      exact absurd (mem_of_inLane_eq same mem) List.not_mem_nil
    rw [empty]
    exact Agree.refl _
  | cons a as ih =>
    have members (b : α) (mem : b ∈ bs) : b ∈ a :: as := mem_of_inLane_eq same mem
    obtain ⟨before, after, rfl, apart, rest⟩ := exists_split_of_inLane same
    have front : Agree cell (run step s (before ++ a :: after))
        (run step s (a :: (before ++ after))) :=
      framed.run_middle (fun b mem => independent a List.mem_cons_self b
        (members b (List.mem_append_left _ mem)) (apart b mem)) s after
    refine Agree.trans ?_ front.symm
    rw [run_cons, run_cons]
    exact ih (fun a' ha b hb => independent a' (List.mem_cons_of_mem a ha) b
      (List.mem_cons_of_mem a hb)) rest (commit step s a)

end Footprint
