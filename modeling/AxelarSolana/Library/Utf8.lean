import AxelarSolana.Library.Codec

/-! # Prefixes of UTF-8 strings

* **`Utf8.IsContinuation`** — the bytes that do not begin a character.
* **`Utf8.exists_take_iff`** — the first bytes of a string are a string exactly when the next byte,
  if there is one, begins a character. -/

namespace Utf8

open Codec

/-- The bytes that continue a character. -/
def IsContinuation (b : UInt8) : Prop := 0x80 ≤ b ∧ b < 0xC0

instance (b : UInt8) : Decidable (IsContinuation b) := inferInstanceAs (Decidable (_ ∧ _))

/-- Among the bytes that occur in strings, those that begin a character are those that do not
continue one. -/
theorem isUTF8FirstByte_iff {b : UInt8} (h : b < 0xF8) :
    b.IsUTF8FirstByte ↔ ¬ IsContinuation b := by
  have table : ∀ n : Fin 256, UInt8.ofFin n < 0xF8 →
      ((UInt8.ofFin n).IsUTF8FirstByte ↔ ¬ IsContinuation (UInt8.ofFin n)) := by decide +kernel
  exact table b.toFin h

/-- A byte whose value is below `0xF8`. -/
theorem ofNat_lt {n : Nat} (h : n % 256 < 0xF8) : UInt8.ofNat n < 0xF8 := by
  rw [UInt8.lt_iff_toNat_lt, UInt8.toNat_ofNat']
  exact h

/-- No byte of a character is above `0xF7`. -/
theorem lt_of_mem_utf8EncodeChar {c : Char} {b : UInt8} (h : b ∈ String.utf8EncodeChar c) :
    b < 0xF8 := by
  revert h
  fun_cases String.utf8EncodeChar c <;> intro h <;>
    simp only [List.mem_cons, List.not_mem_nil, or_false] at h
  case case1 one =>
    rw [h]
    exact ofNat_lt (by omega)
  case case2 two =>
    rcases h with rfl | rfl <;> exact ofNat_lt (by omega)
  case case3 three =>
    rcases h with rfl | rfl | rfl <;> exact ofNat_lt (by omega)
  case case4 four =>
    rcases h with rfl | rfl | rfl | rfl <;> exact ofNat_lt (by omega)

/-- The bytes of a string are those of its characters. -/
theorem utf8_eq_flatMap (s : String) : utf8 s = s.toList.flatMap String.utf8EncodeChar := by
  unfold utf8
  rw [← String.utf8Encode_toList]
  simp [List.utf8Encode]

/-- No byte of a string is above `0xF7`. -/
theorem lt_of_mem_utf8 {s : String} {b : UInt8} (h : b ∈ utf8 s) : b < 0xF8 := by
  rw [utf8_eq_flatMap] at h
  obtain ⟨c, -, mem⟩ := List.mem_flatMap.mp h
  exact lt_of_mem_utf8EncodeChar mem

/-- The number of bytes of a string. -/
theorem length_utf8 (s : String) : (utf8 s).length = s.utf8ByteSize := rfl

/-- The first bytes of a string are a string exactly when they are valid UTF-8. -/
theorem exists_take_iff_isValidUTF8 {s : String} {i : Nat} :
    (∃ t, utf8 t = (utf8 s).take i) ↔ (s.toByteArray.extract 0 i).IsValidUTF8 := by
  have bytes : (s.toByteArray.extract 0 i).data.toList = (utf8 s).take i := by
    simp [utf8]
  constructor
  · rintro ⟨t, same⟩
    have equal : t.toByteArray = s.toByteArray.extract 0 i :=
      ByteArray.ext (Array.toList_inj.mp (same.trans bytes.symm))
    rw [← equal]
    exact t.isValidUTF8
  · intro valid
    exact ⟨.ofByteArray _ valid, bytes⟩

/-- **The first bytes of a string are a string** exactly when nothing is left or the next byte does
not continue a character. -/
theorem exists_take_iff {s : String} {i : Nat} (h : i ≤ (utf8 s).length) :
    (∃ t, utf8 t = (utf8 s).take i) ↔ ∀ b, (utf8 s)[i]? = some b → ¬ IsContinuation b := by
  have valid := String.Pos.Raw.isValid_iff_isValidUTF8_extract_zero (s := s) (p := ⟨i⟩)
  have first := String.Pos.Raw.isValid_iff_isUTF8FirstByte (s := s) (p := ⟨i⟩)
  have inside : (⟨i⟩ : String.Pos.Raw) ≤ s.rawEndPos := h
  rw [and_iff_right inside] at valid
  rw [exists_take_iff_isValidUTF8, ← valid, first]
  by_cases atEnd : i = (utf8 s).length
  · -- nothing is left
    have last : (⟨i⟩ : String.Pos.Raw) = s.rawEndPos := String.Pos.Raw.ext atEnd
    have none : (utf8 s)[i]? = none := List.getElem?_eq_none (by omega)
    simp [last, none]
  · have lt : i < (utf8 s).length := by omega
    have before : (⟨i⟩ : String.Pos.Raw) < s.rawEndPos := lt
    have here : (utf8 s)[i]? = some (utf8 s)[i] := List.getElem?_eq_getElem lt
    have begins : (s.getUTF8Byte ⟨i⟩ before).IsUTF8FirstByte ↔ ¬ IsContinuation (utf8 s)[i] :=
      isUTF8FirstByte_iff (lt_of_mem_utf8 (List.getElem_mem lt))
    have notLast : (⟨i⟩ : String.Pos.Raw) ≠ s.rawEndPos := by
      intro last
      exact atEnd (congrArg String.Pos.Raw.byteIdx last)
    rw [or_iff_right notLast, exists_prop_of_true before, begins, here]
    constructor
    · rintro free b same
      cases same
      exact free
    · intro free
      exact free _ rfl

end Utf8
