import AxelarSolana.AxelarStd.Words
import AxelarSolana.Library.ByteOrder

/-! # The order of `U128`

`U256` is compared as a number. `U128` derives its order from its little-endian bytes, where the
lowest byte comes first.

* **`U128.cmp`** — the derived order.
* **`U128.cmp_eq_compare_iff`** — when it is that of the numbers. -/

namespace AxelarSolana

namespace U128

/-- The derived `Ord for U128`: the bytes are compared from the first on. -/
def cmp (x y : U128) : Ordering := List.compareLex compare x.bytes.toList y.bytes.toList

/-- The bytes of a number, the lowest first. -/
def leBytes (a : BitVec 128) : Bytes := LittleEndian.encode 16 a.toNat

/-- **The lowest and the highest byte in which two numbers differ** order them the same way. -/
def EndsAgree (a b : BitVec 128) : Prop :=
  ∀ low ∈ firstDifference (leBytes a) (leBytes b),
    ∀ high ∈ firstDifference (leBytes a).reverse (leBytes b).reverse,
      (low.1 < low.2 ↔ high.1 < high.2)

/-- The bytes of a word are those of its number. -/
theorem decode_leBytes (a : BitVec 128) : LittleEndian.decode (leBytes a) = a.toNat :=
  LittleEndian.decode_encode a.isLt

/-- **`U128` is ordered like the numbers it stores exactly when the ends agree.** -/
theorem cmp_eq_compare_iff (a b : BitVec 128) :
    cmp (new a) (new b) = compare a.toNat b.toNat ↔ EndsAgree a b := by
  have lengths : (leBytes a).length = (leBytes b).length := by simp [leBytes]
  rw [← decode_leBytes a, ← decode_leBytes b]
  exact compareLex_eq_compare_decode_iff lengths

/-- 1 is stored above 256: its first byte is. -/
theorem not_cmp_eq_compare : ¬ ∀ a b : BitVec 128,
    cmp (new a) (new b) = compare a.toNat b.toNat := by
  intro ordered
  have wrong := ordered 1 256
  revert wrong
  decide

end U128

end AxelarSolana
