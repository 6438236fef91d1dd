import AxelarSolana.Library.Codec

/-! # The wide integers of `solana-axelar-std`

* **`U128`** — sixteen little-endian bytes read as a `u128`; the type of the accumulated
  threshold, so that the account stays 8-byte aligned.
* **`U256`** — the 256-bit epochs, with the checked operations the gateway uses. -/

namespace AxelarSolana

/-! ## `U128` -/

/-- **`U128`**: the bytes of a `u128` in little-endian order. -/
structure U128 where
  bytes : List.Vector UInt8 16
  deriving DecidableEq

namespace U128

/-- `U128::new`: `value.to_le_bytes()`. -/
def new (value : BitVec 128) : U128 :=
  ⟨⟨LittleEndian.encode 16 value.toNat, LittleEndian.length_encode _ _⟩⟩

/-- `U128::get`: `u128::from_le_bytes`. -/
def get (x : U128) : BitVec 128 := BitVec.ofNat 128 (LittleEndian.decode x.bytes.toList)

/-- `U128::ZERO`. -/
def zero : U128 := ⟨List.Vector.replicate 16 0⟩

/-- `U128::MAX`. -/
def max : U128 := ⟨List.Vector.replicate 16 0xFF⟩

/-- `U128::saturating_add`. -/
def saturatingAdd (x y : U128) : U128 :=
  new (if x.get.toNat + y.get.toNat < 2 ^ 128 then x.get + y.get else BitVec.allOnes 128)

/-- A word holds the number that it was made of. -/
@[simp] theorem get_new (v : BitVec 128) : (new v).get = v := by
  have bound : v.toNat < 256 ^ 16 := v.isLt
  apply BitVec.eq_of_toNat_eq
  simp only [new, get, List.Vector.toList]
  rw [LittleEndian.decode_encode bound, BitVec.toNat_ofNat, Nat.mod_eq_of_lt v.isLt]

/-- A word is made of the number that it holds. -/
@[simp] theorem new_get (x : U128) : new x.get = x := by
  obtain ⟨⟨bs, len⟩⟩ := x
  have bound : LittleEndian.decode bs < 2 ^ 128 := by
    have := LittleEndian.decode_lt bs
    rwa [len] at this
  have back := LittleEndian.encode_decode bs
  rw [len] at back
  simp only [new, get, List.Vector.toList, BitVec.toNat_ofNat, Nat.mod_eq_of_lt bound, back]

/-- Words of the same number are the same. -/
theorem get_inj {x y : U128} (h : x.get = y.get) : x = y := by
  rw [← new_get x, ← new_get y, h]

/-- The number of `ZERO`. -/
@[simp] theorem get_zero : zero.get = 0 := by decide

/-- The number of `MAX`. -/
@[simp] theorem get_max : max.get = BitVec.allOnes 128 := by decide

/-- The stored number after a saturating addition, in unbounded integers. -/
theorem toNat_get_saturatingAdd (x y : U128) :
    (x.saturatingAdd y).get.toNat = min (x.get.toNat + y.get.toNat) (2 ^ 128 - 1) := by
  unfold saturatingAdd
  rw [get_new]
  split
  case isTrue fits =>
    rw [BitVec.toNat_add, Nat.mod_eq_of_lt fits]
    omega
  case isFalse overflow =>
    rw [BitVec.toNat_allOnes]
    omega

end U128

/-! ## `U256` -/

/-- **`U256`**: a 256-bit unsigned integer. -/
abbrev U256 := BitVec 256

namespace U256

/-- `U256::ONE`. -/
def one : U256 := 1

/-- `U256::checked_add`. -/
def checkedAdd (x y : U256) : Option U256 :=
  if x.toNat + y.toNat < 2 ^ 256 then some (x + y) else none

/-- `U256::checked_sub`. -/
def checkedSub (x y : U256) : Option U256 :=
  if y.toNat ≤ x.toNat then some (x - y) else none

end U256

end AxelarSolana
