import Mathlib.Algebra.Group.Nat.Defs
import Mathlib.Data.List.Basic
import Mathlib.Data.Nat.Basic

/-! # Merkle trees with self-paired odd nodes

A Merkle tree over digests of any type: each level pairs the digests of the level below, and the
last digest of an odd level is paired with itself.

* **`pairs`**, **`parents`**, **`level`** — the pairs of a level, the level above, `k` levels up.
* **`root`** — the digest that is left at the height a tree with that many leaves has.
* **`climb`** — recompute a root from one digest, its index, the number of leaves and the sibling
  digests of a proof.
* **`siblings`** — the honest proof of a leaf, and **`climb_siblings`**: it leads to the root.
* **`mem_leaves_of_climb`** — a climb that ends inside a tree started from one of its leaves,
  provided the combining function is injective on the pairs that were combined and never gives a
  leaf. -/

namespace Merkle

variable {δ : Type*}

/-! ## The tree -/

/-- **The pairs of a level.** The last digest of an odd level is paired with itself. -/
def pairs : List δ → List (δ × δ)
  | [] => []
  | [x] => [(x, x)]
  | x :: y :: rest => (x, y) :: pairs rest

variable (node : δ → δ → δ)

/-- The level above a level. -/
def parents (xs : List δ) : List δ := (pairs xs).map fun p => node p.1 p.2

/-- The level `k` levels up. -/
def level : Nat → List δ → List δ
  | 0, xs => xs
  | k + 1, xs => level k (parents node xs)

/-- **The root** of a tree whose height depends on the number of its leaves. -/
def root (depth : Nat → Nat) (leaves : List δ) : Option δ :=
  (level node (depth leaves.length) leaves).head?

/-- All digests of the lowest `k + 1` levels. -/
def nodes : Nat → List δ → List δ
  | 0, xs => xs
  | k + 1, xs => xs ++ nodes k (parents node xs)

/-- All pairs combined in the lowest `k` levels. -/
def treePairs : Nat → List δ → List (δ × δ)
  | 0, _ => []
  | k + 1, xs => pairs xs ++ treePairs k (parents node xs)

/-! ## Climbing to the root -/

/-- The pair a digest is combined in, and what is left of the proof. An odd index takes its left
sibling from the proof; the last digest of an odd level is its own sibling; any other even index
takes its right sibling from the proof. -/
def pairUp (i n : Nat) (proof : List δ) (x : δ) : Option ((δ × δ) × List δ) :=
  if i % 2 = 1 then
    match proof with
    | [] => none
    | h :: proof => some ((h, x), proof)
  else if i + 1 = n then
    some ((x, x), proof)
  else
    match proof with
    | [] => none
    | h :: proof => some ((x, h), proof)

/-- **Recompute a digest `k` levels up** from the digest with index `i` in a level of `n`. -/
def climb : Nat → Nat → Nat → List δ → δ → Option δ
  | 0, _, _, _, x => some x
  | k + 1, i, n, proof, x =>
    match pairUp i n proof x with
    | none => none
    | some (p, proof) => climb k (i / 2) ((n + 1) / 2) proof (node p.1 p.2)

/-- The pairs combined on the way. -/
def climbPairs : Nat → Nat → Nat → List δ → δ → List (δ × δ)
  | 0, _, _, _, _ => []
  | k + 1, i, n, proof, x =>
    match pairUp i n proof x with
    | none => []
    | some (p, proof) => p :: climbPairs k (i / 2) ((n + 1) / 2) proof (node p.1 p.2)

/-- **The honest proof** of the digest with index `i`: the sibling in each level, where there is
one. -/
def siblings : Nat → Nat → List δ → List δ
  | 0, _, _ => []
  | k + 1, i, xs =>
    (if i % 2 = 1 then xs[i - 1]?.toList else if i + 1 = xs.length then [] else xs[i + 1]?.toList)
      ++ siblings k (i / 2) (parents node xs)

/-! ## Levels -/

/-- Two in a pair, and the last one alone when the number is odd. -/
theorem length_pairs (xs : List δ) : (pairs xs).length = (xs.length + 1) / 2 := by
  induction xs using pairs.induct with
  | case1 => simp [pairs]
  | case2 x => simp [pairs]
  | case3 x y rest ih =>
    rw [pairs, List.length_cons, ih, List.length_cons, List.length_cons]
    omega

/-- One parent for each pair. -/
@[simp] theorem length_parents (xs : List δ) :
    (parents node xs).length = (xs.length + 1) / 2 := by
  rw [parents, List.length_map, length_pairs]

/-- Both of a pair come from the level. -/
theorem mem_of_mem_pairs {xs : List δ} {p : δ × δ} (h : p ∈ pairs xs) : p.1 ∈ xs ∧ p.2 ∈ xs := by
  induction xs using pairs.induct with
  | case1 => cases h
  | case2 x =>
    rw [pairs, List.mem_singleton] at h
    subst h
    simp
  | case3 x y rest ih =>
    rw [pairs, List.mem_cons] at h
    rcases h with rfl | h
    · simp
    · obtain ⟨left, right⟩ := ih h
      exact ⟨by simp [left], by simp [right]⟩

/-- **The pair of an index**: its digests are the ones with the even index and the next, or the
last one twice. -/
theorem getElem?_pairs (xs : List δ) (j : Nat) :
    (pairs xs)[j]? = xs[2 * j]?.map fun x => (x, (xs[2 * j + 1]?).getD x) := by
  induction xs using pairs.induct generalizing j with
  | case1 => simp [pairs]
  | case2 x =>
    cases j with
    | zero => simp [pairs]
    | succ j => simp [pairs]
  | case3 x y rest ih =>
    cases j with
    | zero => simp [pairs]
    | succ j =>
      have twice : 2 * (j + 1) = 2 * j + 1 + 1 := by omega
      rw [pairs, List.getElem?_cons_succ, ih, twice, List.getElem?_cons_succ,
        List.getElem?_cons_succ, List.getElem?_cons_succ, List.getElem?_cons_succ]

/-- **The top of a tree is one node**, when the tree is high enough. -/
theorem length_level (k : Nat) (xs : List δ) (hpos : 0 < xs.length) (h : xs.length ≤ 2 ^ k) :
    (level node k xs).length = 1 := by
  induction k generalizing xs with
  | zero =>
    rw [Nat.pow_zero] at h
    rw [level]
    omega
  | succ k ih =>
    rw [Nat.pow_succ] at h
    rw [level]
    apply ih
    · rw [length_parents]
      omega
    · rw [length_parents]
      omega

/-- Every level consists of nodes of the tree. -/
theorem level_subset_nodes (k : Nat) (xs : List δ) : level node k xs ⊆ nodes node k xs := by
  induction k generalizing xs with
  | zero => exact fun _ h => h
  | succ k ih =>
    intro x h
    rw [nodes, List.mem_append]
    exact Or.inr (ih _ h)

/-- A root is a digest of its tree. -/
theorem root_mem_nodes {depth : Nat → Nat} {leaves : List δ} {r : δ}
    (h : root node depth leaves = some r) : r ∈ nodes node (depth leaves.length) leaves :=
  level_subset_nodes node _ _ (List.mem_of_mem_head? h)

/-- **A tree with a leaf has a root.** -/
theorem exists_root {depth : Nat → Nat} {leaves : List δ} (hpos : 0 < leaves.length)
    (fits : leaves.length ≤ 2 ^ depth leaves.length) : ∃ r, root node depth leaves = some r := by
  have one := length_level node _ leaves hpos fits
  obtain ⟨r, hr⟩ := List.length_eq_one_iff.mp one
  exact ⟨r, by rw [root, hr]; rfl⟩

/-- An empty tree has empty levels. -/
@[simp] theorem level_nil (k : Nat) : level node k ([] : List δ) = [] := by
  induction k with
  | zero => rfl
  | succ k ih => exact ih

/-- A tree without leaves has no root. -/
theorem root_nil (depth : Nat → Nat) : root node depth ([] : List δ) = none := by
  rw [root, level_nil]
  rfl

/-- A digest of a tree is a leaf or combines two digests of the tree. -/
theorem mem_nodes {k : Nat} {xs : List δ} {z : δ} (h : z ∈ nodes node k xs) :
    z ∈ xs ∨ ∃ p ∈ treePairs node k xs, p.1 ∈ nodes node k xs ∧ p.2 ∈ nodes node k xs ∧
      z = node p.1 p.2 := by
  induction k generalizing xs with
  | zero => exact Or.inl h
  | succ k ih =>
    rw [nodes, List.mem_append] at h
    rcases h with leaf | above
    · exact Or.inl leaf
    refine Or.inr ?_
    simp only [treePairs, nodes, List.mem_append]
    rcases ih above with parent | ⟨p, hp, left, right, rfl⟩
    · rw [parents, List.mem_map] at parent
      obtain ⟨p, hp, rfl⟩ := parent
      obtain ⟨left, right⟩ := mem_of_mem_pairs hp
      exact ⟨p, Or.inl hp, Or.inl left, Or.inl right, rfl⟩
    · exact ⟨p, Or.inr hp, Or.inr left, Or.inr right, rfl⟩

/-! ## Soundness -/

/-- A node is one of the pair that it climbs through. -/
theorem mem_pairUp {i n : Nat} {proof rest : List δ} {x : δ} {p : δ × δ}
    (h : pairUp i n proof x = some (p, rest)) : x = p.1 ∨ x = p.2 := by
  unfold pairUp at h
  by_cases odd : i % 2 = 1
  · rw [if_pos odd] at h
    cases proof with
    | nil => cases h
    | cons s proof =>
      cases h
      exact Or.inr rfl
  · rw [if_neg odd] at h
    by_cases last : i + 1 = n
    · rw [if_pos last] at h
      cases h
      exact Or.inl rfl
    · rw [if_neg last] at h
      cases proof with
      | nil => cases h
      | cons s proof =>
        cases h
        exact Or.inl rfl

/-- **A climb that ends inside a tree stays inside it.** Peeling it from the top: the digest it
ends on combines a pair of the climb; it is no leaf, so it also combines a pair of the tree, and
the two pairs are the same. -/
theorem mem_nodes_of_climb {d k i n : Nat} {proof leaves : List δ} {x y : δ}
    (inj : ∀ p ∈ climbPairs node k i n proof x, ∀ q ∈ treePairs node d leaves,
      node p.1 p.2 = node q.1 q.2 → p = q)
    (apart : ∀ p ∈ climbPairs node k i n proof x, node p.1 p.2 ∉ leaves)
    (h : climb node k i n proof x = some y) (inside : y ∈ nodes node d leaves) :
    x ∈ nodes node d leaves := by
  induction k generalizing i n proof x with
  | zero =>
    cases h
    exact inside
  | succ k ih =>
    rw [climb] at h
    rw [climbPairs] at inj apart
    cases step : pairUp i n proof x with
    | none => simp [step] at h
    | some up =>
      obtain ⟨p, rest⟩ := up
      simp only [step] at h inj apart
      -- the node above is one of the tree; it is no leaf, so it is the node of a pair of the tree
      have above : node p.1 p.2 ∈ nodes node d leaves :=
        ih (fun p' hp' => inj p' (List.mem_cons_of_mem _ hp'))
          (fun p' hp' => apart p' (List.mem_cons_of_mem _ hp')) h
      rcases mem_nodes node above with leaf | ⟨q, hq, left, right, same⟩
      · exact absurd leaf (apart p List.mem_cons_self)
      · have pair : p = q := inj p List.mem_cons_self q hq same
        subst pair
        rcases mem_pairUp step with rfl | rfl
        · exact left
        · exact right

/-- **Soundness.** A climb to a tree's root starts from one of its leaves, when combining is
injective on the pairs involved, the climb combines to no leaf of the tree and the tree does not
combine to the digest the climb starts from. -/
theorem mem_leaves_of_climb {depth : Nat → Nat} {k i n : Nat} {proof leaves : List δ} {x r : δ}
    (inj : ∀ p ∈ climbPairs node k i n proof x,
      ∀ q ∈ treePairs node (depth leaves.length) leaves, node p.1 p.2 = node q.1 q.2 → p = q)
    (apart : ∀ p ∈ climbPairs node k i n proof x, node p.1 p.2 ∉ leaves)
    (start : ∀ q ∈ treePairs node (depth leaves.length) leaves, node q.1 q.2 ≠ x)
    (h : climb node k i n proof x = some r) (hroot : root node depth leaves = some r) :
    x ∈ leaves := by
  have inside := mem_nodes_of_climb node inj apart h (root_mem_nodes node hroot)
  rcases mem_nodes node inside with leaf | ⟨q, hq, -, -, same⟩
  · exact leaf
  · exact absurd same.symm (start q hq)

/-! ## Completeness -/

/-- **The honest step**: the pair of an index of a level, and the rest of the proof. -/
theorem pairUp_siblings {k i : Nat} {xs : List δ} {x : δ} (hx : xs[i]? = some x) :
    ∃ p, (pairs xs)[i / 2]? = some p ∧
      pairUp i xs.length (siblings node (k + 1) i xs) x =
        some (p, siblings node k (i / 2) (parents node xs)) := by
  obtain ⟨hi, -⟩ := List.getElem?_eq_some_iff.mp hx
  rw [getElem?_pairs, siblings]
  unfold pairUp
  by_cases odd : i % 2 = 1
  · -- the pair starts one to the left
    have left : 2 * (i / 2) = i - 1 := by omega
    have right : 2 * (i / 2) + 1 = i := by omega
    have hl : i - 1 < xs.length := by omega
    refine ⟨(xs[i - 1], x), ?_, ?_⟩
    · rw [right, left, hx, List.getElem?_eq_getElem hl]
      rfl
    · rw [if_pos odd, if_pos odd, List.getElem?_eq_getElem hl]
      rfl
  · have left : 2 * (i / 2) = i := by omega
    by_cases last : i + 1 = xs.length
    · -- the last digest of an odd level
      have none' : xs[i + 1]? = none := List.getElem?_eq_none (by omega)
      refine ⟨(x, x), ?_, ?_⟩
      · rw [left, hx, none']
        rfl
      · rw [if_neg odd, if_pos last, if_neg odd, if_pos last]
        rfl
    · have hr : i + 1 < xs.length := by omega
      refine ⟨(x, xs[i + 1]), ?_, ?_⟩
      · rw [left, hx, List.getElem?_eq_getElem hr]
        rfl
      · rw [if_neg odd, if_neg last, if_neg odd, if_neg last, List.getElem?_eq_getElem hr]
        rfl

/-- The honest climb passes through the tree. -/
theorem climb_siblings_eq {k i : Nat} {xs : List δ} {x : δ} (hx : xs[i]? = some x) :
    climb node k i xs.length (siblings node k i xs) x = (level node k xs)[i / 2 ^ k]? := by
  induction k generalizing i xs x with
  | zero => rw [climb, level, Nat.pow_zero, Nat.div_one, hx]
  | succ k ih =>
    obtain ⟨p, hp, step⟩ := pairUp_siblings node (k := k) hx
    have above : (parents node xs)[i / 2]? = some (node p.1 p.2) := by
      rw [parents, List.getElem?_map, hp]
      rfl
    rw [climb, step, level, Nat.pow_succ, Nat.mul_comm, ← Nat.div_div_eq_div_mul]
    show climb node k (i / 2) ((xs.length + 1) / 2) _ _ = _
    rw [← length_parents node xs]
    exact ih above

/-- The honest climb combines only pairs of the tree. -/
theorem climbPairs_siblings_subset {k i : Nat} {xs : List δ} {x : δ} (hx : xs[i]? = some x) :
    climbPairs node k i xs.length (siblings node k i xs) x ⊆ treePairs node k xs := by
  induction k generalizing i xs x with
  | zero => exact fun _ h => h
  | succ k ih =>
    obtain ⟨p, hp, step⟩ := pairUp_siblings node (k := k) hx
    have above : (parents node xs)[i / 2]? = some (node p.1 p.2) := by
      rw [parents, List.getElem?_map, hp]
      rfl
    intro q hq
    rw [climbPairs, step] at hq
    rw [treePairs, List.mem_append]
    rcases List.mem_cons.mp hq with rfl | later
    · exact Or.inl (List.mem_of_getElem? hp)
    · rw [← length_parents node xs] at later
      exact Or.inr (ih above later)

/-- **Completeness.** The honest proof of a leaf leads to the root. -/
theorem climb_siblings {depth : Nat → Nat} {leaves : List δ} {i : Nat} {x r : δ}
    (fits : leaves.length ≤ 2 ^ depth leaves.length) (hx : leaves[i]? = some x)
    (hroot : root node depth leaves = some r) :
    climb node (depth leaves.length) i leaves.length
      (siblings node (depth leaves.length) i leaves) x = some r := by
  obtain ⟨hi, -⟩ := List.getElem?_eq_some_iff.mp hx
  have top : i / 2 ^ depth leaves.length = 0 := Nat.div_eq_of_lt (Nat.lt_of_lt_of_le hi fits)
  rw [climb_siblings_eq node hx, top, ← List.head?_eq_getElem?]
  exact hroot

/-- An honest proof has at most one digest a level. -/
theorem length_siblings_le (k i : Nat) (xs : List δ) : (siblings node k i xs).length ≤ k := by
  induction k generalizing i xs with
  | zero => simp [siblings]
  | succ k ih =>
    have rest := ih (i / 2) (parents node xs)
    have head (o : Option δ) : o.toList.length ≤ 1 := by
      cases o <;> simp
    rw [siblings, List.length_append]
    split
    · have := head xs[i - 1]?
      omega
    · split
      · simp only [List.length_nil]
        omega
      · have := head xs[i + 1]?
        omega

/-! ## Two trees with one root -/

/-- **Equal roots have the same leaves.** Every leaf of a tree is a leaf of any other tree with the
same root, when combining is injective on the pairs of the two trees and combines to no leaf of
either. -/
theorem leaves_subset_of_root_eq {depth : Nat → Nat} {xs ys : List δ} {r : δ}
    (fits : xs.length ≤ 2 ^ depth xs.length)
    (inj : ∀ p ∈ treePairs node (depth xs.length) xs,
      ∀ q ∈ treePairs node (depth ys.length) ys, node p.1 p.2 = node q.1 q.2 → p = q)
    (apart : ∀ p ∈ treePairs node (depth xs.length) xs, node p.1 p.2 ∉ ys)
    (apart' : ∀ q ∈ treePairs node (depth ys.length) ys, node q.1 q.2 ∉ xs)
    (hx : root node depth xs = some r) (hy : root node depth ys = some r) : xs ⊆ ys := by
  intro x mem
  obtain ⟨i, hi⟩ := List.mem_iff_getElem?.mp mem
  have inTree := climbPairs_siblings_subset node (k := depth xs.length) hi
  have leads := climb_siblings node fits hi hx
  apply mem_leaves_of_climb node _ _ _ leads hy
  · exact fun p hp => inj p (inTree hp)
  · exact fun p hp => apart p (inTree hp)
  · intro q hq same
    exact apart' q hq (same ▸ mem)

end Merkle
