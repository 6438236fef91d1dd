import AxelarSolana.Library.Machine

/-! # Components of a machine

A machine may contain a smaller one: a part of its state that only the calls of the smaller machine
change, each as it does there. What is known of every run of the smaller machine then holds inside
every run of the larger one.

* **`Component`** — the part of the state, the calls that belong to it, and that they agree.
* **`restrict`** — a transition of the larger machine as one of the component.
* **`Component.run_eq`**, **`Component.trace_eq`** — the component of a run is the run of its own
  calls, with the same transitions. -/

namespace Machine

variable {σ τ α β ε ε' : Type} {step : α → σ → Except ε σ} {stepPart : β → τ → Except ε' τ}
  {proj : σ → τ} {part : α → Option β}

/-- **A component**: calls that do not belong to it leave it as it is, and calls that do succeed
exactly when they succeed in it, with the same effect on it. -/
structure Component (step : α → σ → Except ε σ) (stepPart : β → τ → Except ε' τ) (proj : σ → τ)
    (part : α → Option β) : Prop where
  other : ∀ a s s', part a = none → step a s = .ok s' → proj s' = proj s
  accepted : ∀ a b s s', part a = some b → step a s = .ok s' → stepPart b (proj s) = .ok (proj s')
  rejected : ∀ a b s e, part a = some b → step a s = .error e → ∃ e', stepPart b (proj s) = .error e'

/-- **A transition of the component.** -/
def restrict (proj : σ → τ) (part : α → Option β) (t : Transition σ α) :
    Option (Transition τ β) :=
  (part t.call).map fun b => ⟨proj t.pre, b, proj t.post⟩

/-- **The component of a run** is the run of its own calls. -/
theorem Component.run_eq (component : Component step stepPart proj part) (s : σ) (as : List α) :
    proj (run step s as) = run stepPart (proj s) (as.filterMap part) := by
  induction as generalizing s with
  | nil => rfl
  | cons a as ih =>
    rw [run_cons, ih]
    cases belongs : part a with
    | none =>
      rw [List.filterMap_cons_none belongs]
      cases success : step a s with
      | error e => rw [commit_error success]
      | ok s' => rw [commit_ok success, component.other a s s' belongs success]
    | some b =>
      rw [List.filterMap_cons_some belongs, run_cons]
      cases success : step a s with
      | error e =>
        obtain ⟨e', failed⟩ := component.rejected a b s e belongs success
        rw [commit_error success, commit_error failed]
      | ok s' => rw [commit_ok success, commit_ok (component.accepted a b s s' belongs success)]

/-- **The transitions of the component** are those of the run of its own calls. -/
theorem Component.trace_eq (component : Component step stepPart proj part) (s : σ) (as : List α) :
    (trace step s as).filterMap (restrict proj part) =
      trace stepPart (proj s) (as.filterMap part) := by
  -- by induction on the calls: those of others add nothing, those of the part do the same in both
  induction as generalizing s with
  | nil => rfl
  | cons a as ih =>
    cases belongs : part a with
    | none =>
      rw [List.filterMap_cons_none belongs]
      cases success : step a s with
      | error e => rw [trace_cons_error success, ih]
      | ok s' =>
        have silent : restrict proj part ⟨s, a, s'⟩ = none := by rw [restrict, belongs, Option.map_none]
        rw [trace_cons_ok success, List.filterMap_cons_none silent, ih,
          component.other a s s' belongs success]
    | some b =>
      rw [List.filterMap_cons_some belongs]
      cases success : step a s with
      | error e =>
        obtain ⟨e', failed⟩ := component.rejected a b s e belongs success
        rw [trace_cons_error success, trace_cons_error failed, ih]
      | ok s' =>
        have loud : restrict proj part ⟨s, a, s'⟩ = some ⟨proj s, b, proj s'⟩ := by
          rw [restrict, belongs, Option.map_some]
        rw [trace_cons_ok success, List.filterMap_cons_some loud,
          trace_cons_ok (component.accepted a b s s' belongs success), ih]

end Machine
