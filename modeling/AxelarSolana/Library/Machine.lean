import AxelarSolana.Library.Fallible
import Mathlib.Data.List.Basic
import Mathlib.Logic.Relation

/-! # Runs of a transactional machine

A machine is a step function `step : α → σ → Except ε σ`: a call either succeeds, and then its
post-state is committed, or fails, and then it leaves the state as it was. A run is any list of
calls, in any order and with any repetitions.

* **`run step s as`** — the state after the calls `as`.
* **`trace step s as`** — the committed transitions of that run, oldest first.
* **`run_invariant`** — what holds initially and is kept by every successful step holds after
  every run.
* **`run_trace_induction`** — the same for a property that also speaks about the transitions
  committed so far: the induction rule for history properties. -/

namespace Machine

variable {σ α ε : Type}

/-- **A committed call** with the states before and after it. -/
structure Transition (σ α : Type) where
  pre : σ
  call : α
  post : σ

/-- **Commit a call**: its post-state when it succeeds, the unchanged state when it fails. -/
def commit (step : α → σ → Except ε σ) (s : σ) (a : α) : σ :=
  match step a s with
  | .ok s' => s'
  | .error _ => s

/-- **The state after a list of calls.** -/
def run (step : α → σ → Except ε σ) : σ → List α → σ
  | s, [] => s
  | s, a :: as => run step (commit step s a) as

/-- **The committed transitions of a run**, oldest first. -/
def trace (step : α → σ → Except ε σ) : σ → List α → List (Transition σ α)
  | _, [] => []
  | s, a :: as =>
    match step a s with
    | .ok s' => ⟨s, a, s'⟩ :: trace step s' as
    | .error _ => trace step s as

variable {step : α → σ → Except ε σ}

/-- Nothing is called. -/
@[simp] theorem run_nil (s : σ) : run step s [] = s := rfl

/-- The first call, and then the others. -/
@[simp] theorem run_cons (s : σ) (a : α) (as : List α) :
    run step s (a :: as) = run step (commit step s a) as := rfl

/-- Nothing is committed. -/
@[simp] theorem trace_nil (s : σ) : trace step s [] = [] := rfl

/-- Some calls after others. -/
theorem run_append (s : σ) (as as' : List α) :
    run step s (as ++ as') = run step (run step s as) as' := by
  induction as generalizing s with
  | nil => rfl
  | cons a as ih => exact ih (commit step s a)

/-- A call that succeeds is committed. -/
theorem commit_ok {s s' : σ} {a : α} (h : step a s = .ok s') : commit step s a = s' := by
  simp [commit, h]

/-- A call that fails leaves the state. -/
theorem commit_error {s : σ} {a : α} {e : ε} (h : step a s = .error e) :
    commit step s a = s := by
  simp [commit, h]

/-- A call that succeeds is committed. -/
theorem step_eq_commit {s : σ} {a : α} (h : (step a s).toOption.isSome = true) :
    step a s = .ok (commit step s a) := by
  unfold commit
  cases hs : step a s with
  | ok s' => rfl
  | error e =>
    rw [hs] at h
    cases h

/-- A committed call is the first of the trace. -/
theorem trace_cons_ok {s s' : σ} {a : α} {as : List α} (h : step a s = .ok s') :
    trace step s (a :: as) = ⟨s, a, s'⟩ :: trace step s' as := by
  simp [trace, h]

/-- A call that fails is not in the trace. -/
theorem trace_cons_error {s : σ} {a : α} {as : List α} {e : ε} (h : step a s = .error e) :
    trace step s (a :: as) = trace step s as := by
  simp [trace, h]

/-! ## Induction over a run -/

/-- **The history rule.** A property of the committed transitions and the current state that
holds initially and is kept by every successful step holds after every run. The induction is on
the list of calls, generalised over the transitions already committed. -/
theorem run_trace_induction {P : List (Transition σ α) → σ → Prop} {s₀ : σ} (init : P [] s₀)
    (keep : ∀ tr s a s', P tr s → step a s = .ok s' → P (tr ++ [⟨s, a, s'⟩]) s')
    (as : List α) : P (trace step s₀ as) (run step s₀ as) := by
  have general : ∀ (as : List α) (tr : List (Transition σ α)) (s : σ), P tr s →
      P (tr ++ trace step s as) (run step s as) := by
    intro as
    induction as with
    | nil =>
      intro tr s h
      simpa using h
    | cons a as ih =>
      intro tr s h
      cases hs : step a s with
      | error e =>
        rw [trace_cons_error hs, run_cons, commit_error hs]
        exact ih tr s h
      | ok s' =>
        rw [trace_cons_ok hs, run_cons, commit_ok hs]
        have := ih (tr ++ [⟨s, a, s'⟩]) s' (keep tr s a s' h hs)
        simpa using this
  simpa using general as [] s₀ init

/-- **The invariant rule.** -/
theorem run_invariant {P : σ → Prop} {s₀ : σ} (init : P s₀)
    (keep : ∀ s a s', P s → step a s = .ok s' → P s') (as : List α) : P (run step s₀ as) :=
  run_trace_induction (P := fun _ s => P s) init (fun _ s a s' h hs => keep s a s' h hs) as

/-- The invariant rule when only the calls of the run at hand need to keep the invariant. -/
theorem run_invariant_of_mem {P : σ → Prop} {s₀ : σ} {as : List α} (init : P s₀)
    (keep : ∀ s, ∀ a ∈ as, ∀ s', P s → step a s = .ok s' → P s') : P (run step s₀ as) := by
  induction as generalizing s₀ with
  | nil => exact init
  | cons a as ih =>
    have rest : ∀ s, ∀ b ∈ as, ∀ s', P s → step b s = .ok s' → P s' :=
      fun s b mem => keep s b (List.mem_cons_of_mem a mem)
    cases hs : step a s₀ with
    | error e =>
      rw [run_cons, commit_error hs]
      exact ih init rest
    | ok s' =>
      rw [run_cons, commit_ok hs]
      exact ih (keep s₀ a List.mem_cons_self s' init hs) rest

/-- **Any number of successful steps.** -/
def Steps (step : α → σ → Except ε σ) : σ → σ → Prop :=
  Relation.ReflTransGen fun s s' => ∃ a, step a s = .ok s'

/-- Calls made one after the other, all of which succeed, are steps. -/
theorem steps_of_foldlM {as : List α} {s s' : σ}
    (h : as.foldlM (fun s a => step a s) s = .ok s') : Steps step s s' := by
  induction as generalizing s with
  | nil =>
    rw [List.foldlM_nil, Fallible.pure_eq_ok] at h
    rw [h]
    exact .refl
  | cons a as ih =>
    rw [List.foldlM_cons, Fallible.bind_eq_ok] at h
    obtain ⟨s₁, first, h⟩ := h
    exact .head ⟨a, first⟩ (ih h)

/-- What every successful step keeps, any number of them keeps. -/
theorem Steps.keep {P : σ → Prop} {s s' : σ} (h : Steps step s s')
    (keep : ∀ s a s', P s → step a s = .ok s' → P s') (hP : P s) : P s' := by
  induction h with
  | refl => exact hP
  | tail _ last ih =>
    obtain ⟨a, last⟩ := last
    exact keep _ a _ ih last

/-! ## Reading a trace -/

/-- Every committed transition is a successful step. -/
theorem step_of_mem_trace {s : σ} {as : List α} {t : Transition σ α} (h : t ∈ trace step s as) :
    step t.call t.pre = .ok t.post := by
  induction as generalizing s with
  | nil => simp at h
  | cons a as ih =>
    cases hs : step a s with
    | error e =>
      rw [trace_cons_error hs] at h
      exact ih h
    | ok s' =>
      rw [trace_cons_ok hs, List.mem_cons] at h
      rcases h with rfl | h
      · exact hs
      · exact ih h

/-- The last call of a run, when it succeeds, is the last one committed. -/
theorem trace_concat {s s' : σ} {as : List α} {a : α} (h : step a (run step s as) = .ok s') :
    trace step s (as ++ [a]) = trace step s as ++ [⟨run step s as, a, s'⟩] := by
  induction as generalizing s with
  | nil => exact trace_cons_ok h
  | cons b as ih =>
    rw [run_cons] at h
    cases hs : step b s with
    | error e =>
      rw [commit_error hs] at h
      rw [List.cons_append, trace_cons_error hs, trace_cons_error hs, run_cons, commit_error hs]
      exact ih h
    | ok s₁ =>
      rw [commit_ok hs] at h
      rw [List.cons_append, trace_cons_ok hs, trace_cons_ok hs, run_cons, commit_ok hs,
        List.cons_append, ih h]

/-- The committed calls are a sublist of the calls made. -/
theorem trace_calls_sublist (s : σ) (as : List α) :
    ((trace step s as).map Transition.call).Sublist as := by
  induction as generalizing s with
  | nil => simp
  | cons a as ih =>
    cases hs : step a s with
    | error e =>
      rw [trace_cons_error hs]
      exact (ih s).trans (List.sublist_cons_self a as)
    | ok s' =>
      rw [trace_cons_ok hs]
      exact (ih s').cons_cons a

/-- **Every point of a trace is a point of the run**: the calls before a committed one lead to its
pre-state. -/
theorem exists_calls_of_trace_eq {s : σ} {as : List α} {before after : List (Transition σ α)}
    {t : Transition σ α} (h : trace step s as = before ++ t :: after) :
    ∃ as₁ as₂, as = as₁ ++ t.call :: as₂ ∧ trace step s as₁ = before ∧
      run step s as₁ = t.pre := by
  -- by induction on the calls: a rejected one leaves no transition, an accepted one is the first
  induction as generalizing s before with
  | nil => simp at h
  | cons a as ih =>
    cases hs : step a s with
    | error e =>
      rw [trace_cons_error hs] at h
      obtain ⟨as₁, as₂, rfl, past, here⟩ := ih h
      refine ⟨a :: as₁, as₂, rfl, ?_, ?_⟩
      · rw [trace_cons_error hs, past]
      · rw [run_cons, commit_error hs, here]
    | ok s' =>
      rw [trace_cons_ok hs] at h
      cases before with
      | nil =>
        rw [List.nil_append, List.cons.injEq] at h
        obtain ⟨rfl, -⟩ := h
        exact ⟨[], as, rfl, rfl, rfl⟩
      | cons x before =>
        rw [List.cons_append, List.cons.injEq] at h
        obtain ⟨rfl, h⟩ := h
        obtain ⟨as₁, as₂, rfl, past, here⟩ := ih h
        refine ⟨a :: as₁, as₂, rfl, ?_, ?_⟩
        · rw [trace_cons_ok hs, past]
        · rw [run_cons, commit_ok hs, here]

/-- **Exactly once.** When the keys that the elements of a list contribute are pairwise distinct,
each element that contributes a key is the only one to contribute it. -/
theorem filter_eq_singleton {τ β γ : Type} [DecidableEq γ] {f : τ → Option β} {g : β → γ}
    {l : List τ} {t : τ} {b : β} (nodup : ((l.filterMap f).map g).Nodup) (mem : t ∈ l)
    (contributes : f t = some b) : (l.filter fun t => (f t).any fun c => g c = g b) = [t] := by
  induction l with
  | nil => cases mem
  | cons x l ih =>
    cases hx : f x with
    | none =>
      have mem' : t ∈ l := by
        rcases List.mem_cons.mp mem with rfl | mem'
        · rw [hx] at contributes
          cases contributes
        · exact mem'
      rw [List.filterMap_cons_none hx] at nodup
      rw [List.filter_cons_of_neg (by simp [hx])]
      exact ih nodup mem'
    | some c =>
      rw [List.filterMap_cons_some hx, List.map_cons, List.nodup_cons] at nodup
      obtain ⟨new, nodup⟩ := nodup
      by_cases same : g c = g b
      · -- the head contributes the key, so nothing after it does
        have head : t = x := by
          rcases List.mem_cons.mp mem with head | mem'
          · exact head
          · refine absurd (List.mem_map.mpr ⟨b, ?_, same.symm⟩) new
            exact List.mem_filterMap.mpr ⟨t, mem', contributes⟩
        rw [List.filter_cons_of_pos (by simp [hx, same]), head, List.cons.injEq]
        refine ⟨rfl, List.filter_eq_nil_iff.mpr fun y hy other => new ?_⟩
        obtain ⟨d, hd, key⟩ := (Option.any_eq_true _ _).mp other
        refine List.mem_map.mpr ⟨d, List.mem_filterMap.mpr ⟨y, hy, hd⟩, ?_⟩
        rw [same]
        exact of_decide_eq_true key
      · have mem' : t ∈ l := by
          rcases List.mem_cons.mp mem with rfl | mem'
          · rw [hx] at contributes
            cases contributes
            exact absurd rfl same
          · exact mem'
        rw [List.filter_cons_of_neg (by simp [hx, same])]
        exact ih nodup mem'

end Machine
