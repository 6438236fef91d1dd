import AxelarSolana.Library.Codec
import Mathlib.Order.Compare

/-! # Byte strings compared from either end

Byte strings of one length are compared lexicographically from the front, or as little-endian
numbers, which is lexicographically from the back.

* **`firstDifference xs ys`** — the first place where two lists differ.
* **`compareLex_eq`** — the lexicographic order looks at the first difference.
* **`LittleEndian.compare_decode`** — the order of the numbers is that of the reversed strings.
* **`compareLex_eq_compare_decode_iff`** — when the two orders agree. -/

/-! ## Differences -/

section

variable {α : Type*} [DecidableEq α]

/-- **The first place where two lists differ.** -/
def firstDifference (xs ys : List α) : Option (α × α) :=
  (xs.zip ys).find? fun p => p.1 ≠ p.2

/-- Empty strings have no difference. -/
@[simp] theorem firstDifference_nil : firstDifference ([] : List α) [] = none := rfl

/-- The first difference is at the head, or in the tails of equal heads. -/
theorem firstDifference_cons (x y : α) (xs ys : List α) :
    firstDifference (x :: xs) (y :: ys) =
      if x = y then firstDifference xs ys else some (x, y) := by
  unfold firstDifference
  rw [List.zip_cons_cons, List.find?_cons]
  split <;> simp_all

/-- A difference is between two different things. -/
theorem ne_of_firstDifference {xs ys : List α} {p : α × α} (h : firstDifference xs ys = some p) :
    p.1 ≠ p.2 := by
  have found := List.find?_some h
  simpa using found

/-- Lists of one length that differ nowhere are the same. -/
theorem firstDifference_eq_none_iff {xs ys : List α} (h : xs.length = ys.length) :
    firstDifference xs ys = none ↔ xs = ys := by
  induction xs generalizing ys with
  | nil =>
    have : ys = [] := List.length_eq_zero_iff.mp h.symm
    simp [this]
  | cons x xs ih =>
    obtain _ | ⟨y, ys⟩ := ys
    · cases h
    · rw [firstDifference_cons, List.cons.injEq, ← ih (Nat.succ.inj h)]
      by_cases same : x = y <;> simp [same]

end

/-! ## The two orders -/

/-- What a difference says of the order. -/
def compareAt (difference : Option (UInt8 × UInt8)) : Ordering :=
  difference.elim .eq fun p => compare p.1 p.2

/-- **The lexicographic order looks at the first difference.** -/
theorem compareLex_eq {xs ys : Bytes} (h : xs.length = ys.length) :
    List.compareLex compare xs ys = compareAt (firstDifference xs ys) := by
  induction xs generalizing ys with
  | nil =>
    have : ys = [] := List.length_eq_zero_iff.mp h.symm
    subst this
    rfl
  | cons x xs ih =>
    obtain _ | ⟨y, ys⟩ := ys
    · cases h
    · rw [List.compareLex_cons_cons, ih (Nat.succ.inj h), firstDifference_cons]
      by_cases same : x = y
      · simp [same]
      · -- the order of the rest does not matter
        have differs : compare x y ≠ .eq := fun equal => same (Std.LawfulEqOrd.eq_of_compare equal)
        rw [if_neg same]
        change (compare x y).then _ = compare x y
        generalize compare x y = first at differs
        cases first <;> first | rfl | contradiction

/-- A last byte decides only when everything before it is the same. -/
theorem compareLex_concat {xs ys : Bytes} (h : xs.length = ys.length) (x y : UInt8) :
    List.compareLex compare (xs ++ [x]) (ys ++ [y]) =
      (List.compareLex compare xs ys).then (compare x y) := by
  induction xs generalizing ys with
  | nil =>
    have : ys = [] := List.length_eq_zero_iff.mp h.symm
    subst this
    simp [List.compareLex_cons_cons, List.compareLex_nil_nil]
  | cons x' xs ih =>
    obtain _ | ⟨y', ys⟩ := ys
    · cases h
    · rw [List.cons_append, List.cons_append, List.compareLex_cons_cons, List.compareLex_cons_cons,
        ih (Nat.succ.inj h), Ordering.then_assoc]

/-- Bytes are ordered like their numbers. -/
theorem compare_byte (x y : UInt8) : compare x y = compare x.toNat y.toNat := by
  simp only [compare, compareOfLessAndEq, UInt8.lt_iff_toNat_lt, UInt8.toNat_inj]

/-- A low byte decides only when the higher bytes are the same. -/
theorem compare_low_byte (x y : UInt8) (m n : Nat) :
    compare (x.toNat + 256 * m) (y.toNat + 256 * n) = (compare m n).then (compare x y) := by
  have bound := x.toNat_lt
  have bound' := y.toNat_lt
  rcases Nat.lt_trichotomy m n with less | rfl | more
  · rw [Nat.compare_eq_lt.mpr less, Nat.compare_eq_lt.mpr (by omega)]
    rfl
  · rw [Nat.compare_eq_eq.mpr rfl, compare_byte]
    change _ = compare x.toNat y.toNat
    rcases Nat.lt_trichotomy x.toNat y.toNat with less | same | more
    · rw [Nat.compare_eq_lt.mpr less, Nat.compare_eq_lt.mpr (by omega)]
    · rw [Nat.compare_eq_eq.mpr same, Nat.compare_eq_eq.mpr (by omega)]
    · rw [Nat.compare_eq_gt.mpr more, Nat.compare_eq_gt.mpr (by omega)]
  · rw [Nat.compare_eq_gt.mpr more, Nat.compare_eq_gt.mpr (by omega)]
    rfl

/-- Of two different bytes one is smaller, and the order says which. -/
theorem compare_eq_compare_iff {p q : UInt8 × UInt8} (hp : p.1 ≠ p.2) (hq : q.1 ≠ q.2) :
    compare p.1 p.2 = compare q.1 q.2 ↔ (p.1 < p.2 ↔ q.1 < q.2) := by
  have order : ∀ {x y : UInt8}, x ≠ y → compare x y = if x < y then .lt else .gt := by
    intro x y differs
    simp [compare, compareOfLessAndEq, differs]
  rw [order hp, order hq]
  by_cases left : p.1 < p.2 <;> by_cases right : q.1 < q.2 <;> simp only [left, right] <;> decide

/-- **Little-endian numbers are compared from the back.** -/
theorem LittleEndian.compare_decode {xs ys : Bytes} (h : xs.length = ys.length) :
    compare (decode xs) (decode ys) = List.compareLex compare xs.reverse ys.reverse := by
  induction xs generalizing ys with
  | nil =>
    have : ys = [] := List.length_eq_zero_iff.mp h.symm
    subst this
    rfl
  | cons x xs ih =>
    obtain _ | ⟨y, ys⟩ := ys
    · cases h
    · have shorter : xs.length = ys.length := Nat.succ.inj h
      rw [decode, decode, compare_low_byte, ih shorter, List.reverse_cons, List.reverse_cons,
        compareLex_concat (by simpa using shorter)]

/-- **When the two orders agree**: the first and the last difference, if there are any, point the
same way. -/
theorem compareLex_eq_compare_decode_iff {xs ys : Bytes} (h : xs.length = ys.length) :
    List.compareLex compare xs ys = compare (LittleEndian.decode xs) (LittleEndian.decode ys) ↔
      ∀ p ∈ firstDifference xs ys, ∀ q ∈ firstDifference xs.reverse ys.reverse,
        (p.1 < p.2 ↔ q.1 < q.2) := by
  have backwards : xs.reverse.length = ys.reverse.length := by simpa using h
  rw [LittleEndian.compare_decode h, compareLex_eq h, compareLex_eq backwards]
  by_cases same : xs = ys
  · subst same
    simp [(firstDifference_eq_none_iff rfl).mpr rfl]
  · obtain ⟨p, first⟩ := Option.ne_none_iff_exists'.mp
      (mt (firstDifference_eq_none_iff h).mp same)
    obtain ⟨q, last⟩ := Option.ne_none_iff_exists'.mp
      (mt (firstDifference_eq_none_iff backwards).mp (by simpa using same))
    have differs := ne_of_firstDifference first
    have differs' := ne_of_firstDifference last
    simp only [first, last, Option.mem_some_iff, forall_eq', compareAt, Option.elim_some]
    exact compare_eq_compare_iff differs differs'
