import Mathlib.Data.List.Induction

/-! # Histories

A history is a list of entries, oldest first, to which a program only ever appends.

* **`Justified J log`** — every entry is justified by the entries before it.
* **`last? p log`** — the last entry that satisfies `p`, with the split of the history it stands
  for.
* **`justified_append`**, **`last?_append`** — what one more entry changes. -/

namespace History

variable {ε : Type}

/-- **Every entry of a history is justified by what came before it.** -/
def Justified (J : List ε → ε → Prop) (log : List ε) : Prop :=
  ∀ before e after, log = before ++ e :: after → J before e

/-- **The last entry that satisfies a predicate.** -/
def last? (p : ε → Bool) (log : List ε) : Option ε := (log.filter p).getLast?

variable {J : List ε → ε → Prop} {p : ε → Bool} {log : List ε} {e : ε}

/-! ## Justified histories -/

/-- Nothing has to be justified in an empty log. -/
theorem justified_nil : Justified J [] := by
  intro before e after h
  simp at h

/-- The entries of a longer history are the new one and the old ones. -/
theorem append_singleton_eq_split {before after : List ε} {x : ε}
    (h : log ++ [e] = before ++ x :: after) :
    (before = log ∧ x = e) ∨ ∃ after', log = before ++ x :: after' := by
  rcases List.eq_nil_or_concat after with rfl | ⟨after', y, rfl⟩
  · obtain ⟨same, last⟩ := List.append_inj' h rfl
    exact .inl ⟨same.symm, (List.singleton_inj.mp last).symm⟩
  · have h' : log ++ [e] = (before ++ x :: after') ++ [y] := by simpa using h
    exact .inr ⟨after', (List.append_inj' h' rfl).1⟩

/-- **A history stays justified** when its new entry is. -/
theorem justified_append : Justified J (log ++ [e]) ↔ Justified J log ∧ J log e := by
  constructor
  · intro h
    refine ⟨fun before x after split => ?_, h log e [] rfl⟩
    exact h before x (after ++ [e]) (by simp [split])
  · rintro ⟨h, new⟩ before x after split
    rcases append_singleton_eq_split split with ⟨rfl, rfl⟩ | ⟨after', split⟩
    · exact new
    · exact h before x after' split

/-! ## The last entry of a kind -/

/-- An empty log has no last entry. -/
@[simp] theorem last?_nil : last? p [] = none := rfl

/-- **What one more entry changes.** -/
theorem last?_append : last? p (log ++ [e]) = if p e then some e else last? p log := by
  unfold last?
  by_cases h : p e = true
  · rw [List.filter_append, List.filter_cons_of_pos h, List.filter_nil, if_pos h]
    simp
  · rw [List.filter_append, List.filter_cons_of_neg h, List.filter_nil, if_neg h, List.append_nil]

/-- A new entry that counts is the last one. -/
theorem last?_append_pos (h : p e = true) : last? p (log ++ [e]) = some e := by
  rw [last?_append, if_pos h]

/-- A new entry that does not count leaves the last one. -/
theorem last?_append_neg (h : p e = false) : last? p (log ++ [e]) = last? p log := by
  rw [last?_append, if_neg (by simp [h])]

/-- **The split that the last entry of a kind stands for**: it satisfies the predicate and nothing
after it does. -/
theorem split_of_last? (h : last? p log = some e) :
    ∃ before after, log = before ++ e :: after ∧ p e = true ∧ ∀ x ∈ after, p x = false := by
  induction log using List.reverseRec with
  | nil => cases h
  | append_singleton log x ih =>
    rw [last?_append] at h
    split at h
    case isTrue hx =>
      cases h
      exact ⟨log, [], rfl, hx, by simp⟩
    case isFalse hx =>
      obtain ⟨before, after, rfl, he, rest⟩ := ih h
      refine ⟨before, after ++ [x], by simp, he, ?_⟩
      intro y mem
      rcases List.mem_append.mp mem with mem | mem
      · exact rest y mem
      · rw [List.mem_singleton.mp mem]
        simpa using hx

/-- The last entry that counts does count. -/
theorem last?_satisfies (h : last? p log = some e) : p e = true := by
  obtain ⟨_, _, _, he, _⟩ := split_of_last? h
  exact he

/-- The last entry of a kind is also the last of any narrower kind that it belongs to. -/
theorem last?_of_imp {q : ε → Bool} (narrower : ∀ x, q x = true → p x = true)
    (h : last? p log = some e) (he : q e = true) : last? q log = some e := by
  induction log using List.reverseRec with
  | nil => cases h
  | append_singleton log x ih =>
    rw [last?_append] at h ⊢
    by_cases hx : p x = true
    · rw [if_pos hx] at h
      cases h
      rw [if_pos he]
    · rw [if_neg hx] at h
      rw [if_neg (fun hq => hx (narrower x hq))]
      exact ih h

end History
