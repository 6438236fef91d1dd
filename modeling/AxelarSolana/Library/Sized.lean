import AxelarSolana.Library.Codec
import Mathlib.Algebra.BigOperators.Group.List.Basic

/-! # How long an encoding is

* **`Sized`** — the length of an encoding as a function of the value, with a rule for each way to
  build a codec. -/

namespace Codec

variable {α β : Type} {c : Codec α} {d : Codec β} {size : α → Nat} {size' : β → Nat}

/-- **The length of whatever a codec writes.** -/
def Sized (c : Codec α) (size : α → Nat) : Prop :=
  ∀ a e, c.encode a = some e → e.length = size a

/-- The size of a refined value is that of the value that it stands for. -/
theorem Sized.refine {f : α → Option β} {g : β → α} {spec : ∀ a b, f a = some b ↔ g b = a}
    (sized : Sized c size) : Sized (c.refine f g spec) fun b => size (g b) := by
  intro b e h
  rw [refine_encode] at h
  exact sized _ _ h

/-- The size of a pair is that of both parts. -/
theorem Sized.pair (first : Sized c size) (second : Sized d size') :
    Sized (c.pair d) fun p => size p.1 + size' p.2 := by
  intro p e h
  obtain ⟨e₁, e₂, h₁, h₂, rfl⟩ := (pair_encode_eq_some c d).mp h
  rw [List.length_append, first _ _ h₁, second _ _ h₂]

/-- The elements of a list, one after the other. -/
theorem Sized.encodeList (sized : Sized c size) {as : List α} {e : Bytes}
    (h : c.encodeList as = some e) : e.length = (as.map size).sum := by
  induction as generalizing e with
  | nil =>
    cases h
    rfl
  | cons a as ih =>
    obtain ⟨x, first, others⟩ := Option.bind_eq_some_iff.mp h
    obtain ⟨y, rest, rfl⟩ := Option.map_eq_some_iff.mp others
    rw [List.length_append, List.map_cons, List.sum_cons, sized _ _ first, ih rest]

/-- A vector has a length prefix of four bytes. -/
theorem Sized.vec (sized : Sized c size) : Sized (vec c) fun as => 4 + (as.map size).sum := by
  intro as e h
  obtain ⟨-, body, elements, rfl⟩ := (vec_encode_eq_some c).mp h
  rw [List.length_append, LittleEndian.length_encode, sized.encodeList elements]

/-- A byte has size 1. -/
theorem sized_byte : Sized byte fun _ => 1 := by
  intro b e h
  cases h
  rfl

/-- A Boolean has size 1. -/
theorem sized_bool : Sized bool fun _ => 1 := sized_byte.refine

/-- A string has the size of its length and its bytes. -/
theorem sized_string : Sized string fun s => 4 + s.utf8ByteSize := by
  intro s e h
  have length : e.length = 4 + ((utf8 s).map fun _ => 1).sum := sized_byte.vec.refine s e h
  rw [length, List.map_const', List.sum_replicate]
  exact congrArg (4 + ·) (Nat.mul_one _)

end Codec
