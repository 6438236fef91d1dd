import Mathlib.Data.Vector.Basic
import Mathlib.Tactic.Ring

/-! # Bytes and prefix-free codecs

Byte strings, little-endian numbers, and codecs in the style of Borsh: an encoder that writes a
value and nothing else, and a decoder that reads one value off the front of its input.

* **`LittleEndian.encode w n` / `LittleEndian.decode`** — numbers as `w` bytes, low byte first.
* **`Codec α`** — an encoder and a decoder bundled with their two laws: what was encoded decodes
  to itself whatever follows it, and what was decoded is the encoding of the result.
* **`Codec.append_inj`** — encodings can be concatenated without separators: the values and the
  remainders are determined by the concatenation.
* the combinators `fixed`, `uint`, `pair`, `sigma`, `refine`, `vec` from which the codecs of
  records, enumerations and vectors are put together. -/

/-- A byte string. -/
abbrev Bytes := List UInt8

/-! ## Little-endian numbers -/

namespace LittleEndian

/-- **The `w` little-endian bytes of `n`**; higher bytes are dropped. -/
def encode : Nat → Nat → Bytes
  | 0, _ => []
  | w + 1, n => UInt8.ofNat n :: encode w (n / 256)

/-- **The number with the given little-endian bytes.** -/
def decode : Bytes → Nat
  | [] => 0
  | b :: bs => b.toNat + 256 * decode bs

/-- A number is encoded to as many bytes as the width says. -/
@[simp] theorem length_encode (w n : Nat) : (encode w n).length = w := by
  induction w generalizing n with
  | zero => rfl
  | succ w ih => simp [encode, ih]

/-- A number of some bytes is below the power of their number. -/
theorem decode_lt (bs : Bytes) : decode bs < 256 ^ bs.length := by
  induction bs with
  | nil => simp [decode]
  | cons b bs ih =>
    have hb := b.toNat_lt
    rw [decode, List.length_cons, Nat.pow_succ]
    omega

/-- A number that fits is read back. -/
theorem decode_encode {w n : Nat} (h : n < 256 ^ w) : decode (encode w n) = n := by
  induction w generalizing n with
  | zero => simp_all [decode, encode]
  | succ w ih =>
    have quotient : n / 256 < 256 ^ w := by
      rw [Nat.pow_succ] at h
      omega
    rw [encode, decode, ih quotient]
    have low : (UInt8.ofNat n).toNat = n % 256 := rfl
    omega

/-- The bytes of a number are written back. -/
theorem encode_decode (bs : Bytes) : encode bs.length (decode bs) = bs := by
  induction bs with
  | nil => rfl
  | cons b bs ih =>
    have hb := b.toNat_lt
    have quotient : (b.toNat + 256 * decode bs) / 256 = decode bs := by omega
    rw [List.length_cons, encode, decode, quotient, ih]
    congr 1
    apply UInt8.toNat_inj.mp
    have low : (UInt8.ofNat (b.toNat + 256 * decode bs)).toNat
        = (b.toNat + 256 * decode bs) % 256 := rfl
    omega

/-- The bytes that follow count for more. -/
theorem decode_append (as bs : Bytes) :
    decode (as ++ bs) = decode as + 256 ^ as.length * decode bs := by
  induction as with
  | nil => simp [decode]
  | cons a as ih =>
    rw [List.cons_append, decode, ih, decode, List.length_cons, Nat.pow_succ]
    ring

/-- Zero is written with zero bytes only. -/
theorem decode_eq_zero {bs : Bytes} : decode bs = 0 ↔ ∀ b ∈ bs, b = 0 := by
  induction bs with
  | nil => simp [decode]
  | cons b bs ih =>
    have byte : b.toNat = 0 ↔ b = 0 := UInt8.toNat_inj (b := 0)
    rw [decode, Nat.add_eq_zero_iff, List.forall_mem_cons, ← ih, byte]
    constructor
    · rintro ⟨head, tail⟩
      exact ⟨head, by omega⟩
    · rintro ⟨head, tail⟩
      exact ⟨head, by omega⟩

end LittleEndian

/-! ## Codecs -/

/-- **A prefix-free codec.** The encoder is partial, since a length prefix has a fixed width. -/
structure Codec (α : Type) where
  /-- Write a value. -/
  encode : α → Option Bytes
  /-- Read a value off the front of the input. -/
  decode : Bytes → Option (α × Bytes)
  /-- What was written is read back, whatever follows it. -/
  decode_append : ∀ {a e rest}, encode a = some e → decode (e ++ rest) = some (a, rest)
  /-- What was read is what would have been written. -/
  encode_of_decode : ∀ {b a rest}, decode b = some (a, rest) →
    ∃ e, encode a = some e ∧ b = e ++ rest

namespace Codec

variable {α β : Type}

/-- **Unique decoding.** Two encoded values followed by anything, when they are the same byte
string, are the same value followed by the same bytes. -/
theorem append_inj (c : Codec α) {a a' : α} {e e' r r' : Bytes} (h : c.encode a = some e)
    (h' : c.encode a' = some e') (same : e ++ r = e' ++ r') : a = a' ∧ r = r' := by
  have read : c.decode (e ++ r) = some (a, r) := c.decode_append h
  rw [same, c.decode_append h'] at read
  simp only [Option.some.injEq, Prod.mk.injEq] at read
  exact ⟨read.1.symm, read.2.symm⟩

/-- **Decode a whole input.** Trailing bytes are an error. -/
def decodeAll (c : Codec α) (b : Bytes) : Option α :=
  match c.decode b with
  | some (a, []) => some a
  | _ => none

/-- A whole input decodes to exactly the values that encode to it. -/
theorem decodeAll_eq_some (c : Codec α) {b : Bytes} {a : α} :
    c.decodeAll b = some a ↔ c.encode a = some b := by
  constructor
  · intro h
    unfold decodeAll at h
    split at h
    case h_1 a' eq =>
      obtain ⟨e, he, rfl⟩ := c.encode_of_decode eq
      simpa [← Option.some.inj h] using he
    case h_2 => cases h
  · intro h
    have read : c.decode (b ++ []) = some (a, []) := c.decode_append h
    rw [List.append_nil] at read
    simp [decodeAll, read]

/-! ## Fixed-width values -/

/-- Split `n` bytes off the front of the input. -/
def takeBytes (n : Nat) (b : Bytes) : Option (List.Vector UInt8 n × Bytes) :=
  if h : n ≤ b.length then some (⟨b.take n, by simp [h]⟩, b.drop n) else none

/-- **`n` raw bytes**, without a length prefix. -/
def fixed (n : Nat) : Codec (List.Vector UInt8 n) where
  encode v := some v.toList
  decode := takeBytes n
  decode_append := by
    rintro ⟨v, rfl⟩ e rest ⟨⟩
    simp [takeBytes, List.Vector.toList]
  encode_of_decode := by
    intro b a rest h
    unfold takeBytes at h
    split at h
    · cases h
      exact ⟨_, rfl, by simp [List.Vector.toList]⟩
    · cases h

/-- A vector is encoded to its bytes. -/
@[simp] theorem fixed_encode {n : Nat} (v : List.Vector UInt8 n) :
    (fixed n).encode v = some v.toList := rfl

/-- **Change the type of a codec** along `f`, which accepts exactly the values `g` produces. -/
def refine (c : Codec α) (f : α → Option β) (g : β → α)
    (spec : ∀ a b, f a = some b ↔ g b = a) : Codec β where
  encode b := c.encode (g b)
  decode bs := (c.decode bs).bind fun p => (f p.1).map fun b => (b, p.2)
  decode_append := by
    intro b e rest h
    have back : f (g b) = some b := (spec _ _).mpr rfl
    simp [c.decode_append h, back]
  encode_of_decode := by
    intro bs b rest h
    simp only [Option.bind_eq_some_iff, Option.map_eq_some_iff, Prod.mk.injEq] at h
    obtain ⟨⟨a, r⟩, read, b', accept, rfl, rfl⟩ := h
    obtain ⟨e, he, rfl⟩ := c.encode_of_decode read
    exact ⟨e, by rw [(spec _ _).mp accept, he], rfl⟩

/-- A refined value is encoded as the value that it stands for. -/
@[simp] theorem refine_encode (c : Codec α) (f : α → Option β) (g : β → α)
    (spec : ∀ a b, f a = some b ↔ g b = a) (b : β) :
    (c.refine f g spec).encode b = c.encode (g b) := rfl

/-- **A little-endian number of `w` bytes**, as the numbers that fit. -/
def uint (w : Nat) : Codec { n : Nat // n < 256 ^ w } :=
  (fixed w).refine
    (fun v => some ⟨LittleEndian.decode v.toList, by simpa using LittleEndian.decode_lt v.toList⟩)
    (fun n => ⟨LittleEndian.encode w n.1, LittleEndian.length_encode w n.1⟩) (by
      rintro ⟨v, rfl⟩ ⟨n, hn⟩
      simp only [List.Vector.toList, Option.some.injEq, Subtype.mk.injEq]
      constructor
      · rintro rfl
        exact Subtype.ext (LittleEndian.encode_decode v)
      · intro h
        have bytes : LittleEndian.encode v.length n = v := congrArg Subtype.val h
        rw [← bytes]
        exact LittleEndian.decode_encode hn)

/-- A number is encoded in its width, the lowest byte first. -/
@[simp] theorem uint_encode {w : Nat} (n : { n : Nat // n < 256 ^ w }) :
    (uint w).encode n = some (LittleEndian.encode w n.1) := rfl

/-- **A type of little-endian numbers of `w` bytes.** -/
def uintAs (w : Nat) (toNat : α → Nat) (ofNat : Nat → α) (bound : ∀ a, toNat a < 256 ^ w)
    (toNat_ofNat : ∀ n, n < 256 ^ w → toNat (ofNat n) = n)
    (ofNat_toNat : ∀ a, ofNat (toNat a) = a) : Codec α :=
  (uint w).refine (fun n => some (ofNat n.1)) (fun a => ⟨toNat a, bound a⟩) (by
    rintro ⟨n, hn⟩ a
    simp only [Option.some.injEq, Subtype.mk.injEq]
    constructor
    · rintro rfl
      exact toNat_ofNat n hn
    · rintro rfl
      exact ofNat_toNat a)

/-- A little-endian `u16`. -/
def u16 : Codec UInt16 :=
  uintAs 2 UInt16.toNat UInt16.ofNat (fun x => x.toNat_lt)
    (fun _ hn => UInt16.toNat_ofNat_of_lt' hn) (fun _ => UInt16.ofNat_toNat)

/-- A little-endian `u64`. -/
def u64 : Codec UInt64 :=
  uintAs 8 UInt64.toNat UInt64.ofNat (fun x => x.toNat_lt)
    (fun _ hn => UInt64.toNat_ofNat_of_lt' hn) (fun _ => UInt64.ofNat_toNat)

/-- A little-endian `u128`. -/
def u128 : Codec (BitVec 128) :=
  uintAs 16 BitVec.toNat (BitVec.ofNat 128) (fun x => x.isLt)
    (fun n hn => by rw [BitVec.toNat_ofNat]; exact Nat.mod_eq_of_lt hn)
    (fun x => BitVec.eq_of_toNat_eq (by rw [BitVec.toNat_ofNat, Nat.mod_eq_of_lt x.isLt]))

/-! ## Records, enumerations and vectors -/

/-- **Two values in sequence.** -/
def pair (c : Codec α) (d : Codec β) : Codec (α × β) where
  encode p := (c.encode p.1).bind fun x => (d.encode p.2).map fun y => x ++ y
  decode bs := (c.decode bs).bind fun p => (d.decode p.2).map fun q => ((p.1, q.1), q.2)
  decode_append := by
    rintro ⟨a, b⟩ e rest h
    simp only [Option.bind_eq_some_iff, Option.map_eq_some_iff] at h
    obtain ⟨x, hx, y, hy, rfl⟩ := h
    simp [List.append_assoc, c.decode_append hx, d.decode_append hy]
  encode_of_decode := by
    rintro bs ⟨a, b⟩ rest h
    simp only [Option.bind_eq_some_iff, Option.map_eq_some_iff, Prod.mk.injEq] at h
    obtain ⟨⟨a', r⟩, read, ⟨b', r'⟩, read', ⟨rfl, rfl⟩, rfl⟩ := h
    obtain ⟨x, hx, rfl⟩ := c.encode_of_decode read
    obtain ⟨y, hy, hr⟩ := d.encode_of_decode read'
    refine ⟨x ++ y, by simp [hx, hy], ?_⟩
    rw [List.append_assoc]
    exact congrArg (x ++ ·) hr

/-- A pair is encoded to one part after the other. -/
theorem pair_encode_eq_some (c : Codec α) (d : Codec β) {p : α × β} {e : Bytes} :
    (c.pair d).encode p = some e ↔
      ∃ x y, c.encode p.1 = some x ∧ d.encode p.2 = some y ∧ e = x ++ y := by
  simp only [pair, Option.bind_eq_some_iff, Option.map_eq_some_iff]
  constructor
  · rintro ⟨x, hx, y, hy, rfl⟩
    exact ⟨x, y, hx, hy, rfl⟩
  · rintro ⟨x, y, hx, hy, rfl⟩
    exact ⟨x, hx, y, hy, rfl⟩

/-- **A tag followed by a body whose type the tag decides.** -/
def sigma {τ : Type} {β : τ → Type} (c : Codec τ) (d : ∀ t, Codec (β t)) :
    Codec (Σ t, β t) where
  encode p := (c.encode p.1).bind fun x => ((d p.1).encode p.2).map fun y => x ++ y
  decode bs := (c.decode bs).bind fun p => ((d p.1).decode p.2).map fun q => (⟨p.1, q.1⟩, q.2)
  decode_append := by
    rintro ⟨t, b⟩ e rest h
    simp only [Option.bind_eq_some_iff, Option.map_eq_some_iff] at h
    obtain ⟨x, hx, y, hy, rfl⟩ := h
    simp [List.append_assoc, c.decode_append hx, (d t).decode_append hy]
  encode_of_decode := by
    rintro bs ⟨t, b⟩ rest h
    simp only [Option.bind_eq_some_iff, Option.map_eq_some_iff, Prod.mk.injEq] at h
    obtain ⟨⟨t', r⟩, read, ⟨b', r'⟩, read', same, rfl⟩ := h
    cases same
    obtain ⟨x, hx, rfl⟩ := c.encode_of_decode read
    obtain ⟨y, hy, hr⟩ := (d _).encode_of_decode read'
    refine ⟨x ++ y, by simp [hx, hy], ?_⟩
    rw [List.append_assoc]
    exact congrArg (x ++ ·) hr

/-- Encode the elements of a list one after the other. -/
def encodeList (c : Codec α) : List α → Option Bytes
  | [] => some []
  | a :: as => (c.encode a).bind fun x => (encodeList c as).map fun y => x ++ y

/-- Decode `n` elements one after the other. -/
def decodeList (c : Codec α) : Nat → Bytes → Option (List α × Bytes)
  | 0, bs => some ([], bs)
  | n + 1, bs => (c.decode bs).bind fun p =>
      (decodeList c n p.2).map fun q => (p.1 :: q.1, q.2)

/-- **A list that was encoded is read back**, whatever follows it. -/
theorem decodeList_append (c : Codec α) {as : List α} {e : Bytes} (rest : Bytes)
    (h : c.encodeList as = some e) : c.decodeList as.length (e ++ rest) = some (as, rest) := by
  induction as generalizing e with
  | nil =>
    cases h
    rfl
  | cons a as ih =>
    simp only [encodeList, Option.bind_eq_some_iff, Option.map_eq_some_iff] at h
    obtain ⟨x, hx, y, hy, rfl⟩ := h
    simp [decodeList, List.append_assoc, c.decode_append hx, ih hy]

/-- **A list that was read is encoded to the bytes read.** -/
theorem encodeList_of_decodeList (c : Codec α) {n : Nat} {bs : Bytes} {as : List α} {rest : Bytes}
    (h : c.decodeList n bs = some (as, rest)) :
    as.length = n ∧ ∃ e, c.encodeList as = some e ∧ bs = e ++ rest := by
  induction n generalizing bs as with
  | zero =>
    cases h
    exact ⟨rfl, [], rfl, rfl⟩
  | succ n ih =>
    simp only [decodeList, Option.bind_eq_some_iff, Option.map_eq_some_iff, Prod.mk.injEq] at h
    obtain ⟨⟨a, r⟩, read, ⟨as', r'⟩, read', rfl, rfl⟩ := h
    obtain ⟨x, hx, rfl⟩ := c.encode_of_decode read
    obtain ⟨len, y, hy, hr⟩ := ih read'
    refine ⟨by simp [len], x ++ y, by simp [encodeList, hx, hy], ?_⟩
    rw [List.append_assoc]
    exact congrArg (x ++ ·) hr

/-- **A vector**: its length in four little-endian bytes, then its elements. A list of `2 ^ 32`
elements or more has no encoding. -/
def vec (c : Codec α) : Codec (List α) where
  encode as :=
    if as.length < 256 ^ 4 then
      (c.encodeList as).map fun e => LittleEndian.encode 4 as.length ++ e
    else none
  decode bs := ((uint 4).decode bs).bind fun p => c.decodeList p.1.1 p.2
  decode_append := by
    intro as e rest h
    split at h
    case isTrue short =>
      simp only [Option.map_eq_some_iff] at h
      obtain ⟨body, hbody, rfl⟩ := h
      have len : (uint 4).decode (LittleEndian.encode 4 as.length ++ (body ++ rest))
          = some (⟨as.length, short⟩, body ++ rest) :=
        (uint 4).decode_append (uint_encode ⟨as.length, short⟩)
      rw [List.append_assoc, len]
      exact c.decodeList_append rest hbody
    case isFalse => cases h
  encode_of_decode := by
    intro bs as rest h
    simp only [Option.bind_eq_some_iff] at h
    obtain ⟨⟨⟨n, hn⟩, r⟩, read, elems⟩ := h
    obtain ⟨x, hx, rfl⟩ := (uint 4).encode_of_decode read
    obtain ⟨rfl, e, he, hr⟩ := c.encodeList_of_decodeList elems
    rw [uint_encode, Option.some.injEq] at hx
    refine ⟨LittleEndian.encode 4 as.length ++ e, ?_, ?_⟩
    · rw [if_pos hn, he]
      rfl
    · rw [← hx, List.append_assoc]
      exact congrArg (_ ++ ·) hr

/-- A vector is encoded to its length and its elements. -/
theorem vec_encode_eq_some (c : Codec α) {as : List α} {e : Bytes} :
    (vec c).encode as = some e ↔ as.length < 256 ^ 4 ∧
      ∃ body, c.encodeList as = some body ∧ e = LittleEndian.encode 4 as.length ++ body := by
  simp only [vec]
  split
  case isTrue h => simp only [Option.map_eq_some_iff, h, true_and, eq_comm]
  case isFalse h => simp only [h, false_and, reduceCtorEq]

/-! ## Bytes, flags, options and strings -/

/-- **No bytes.** -/
def unit : Codec Unit where
  encode _ := some []
  decode bs := some ((), bs)
  decode_append := by
    rintro ⟨⟩ e rest ⟨⟩
    rfl
  encode_of_decode := by
    rintro bs ⟨⟩ rest ⟨⟩
    exact ⟨[], rfl, rfl⟩

/-- **One raw byte.** -/
def byte : Codec UInt8 :=
  (fixed 1).refine (fun v => some v.head) (fun b => ⟨[b], rfl⟩) (by
    rintro ⟨v, hv⟩ b
    obtain ⟨x, rfl⟩ := List.length_eq_one_iff.mp hv
    constructor
    · rintro ⟨⟩
      rfl
    · intro h
      have same : [b] = [x] := congrArg Subtype.val h
      exact congrArg some (List.cons.inj same).1.symm)

/-- A byte is encoded to itself. -/
@[simp] theorem byte_encode (b : UInt8) : byte.encode b = some [b] := rfl

/-- Bytes are encoded to themselves. -/
@[simp] theorem byte_encodeList (bs : Bytes) : byte.encodeList bs = some bs := by
  induction bs with
  | nil => rfl
  | cons b bs ih => simp [encodeList, ih]

/-- **A byte vector.** -/
def bytes : Codec Bytes := vec byte

/-- **A flag**, one byte that must be `0` or `1`. -/
def bool : Codec Bool :=
  byte.refine (fun b => if b = 0 then some false else if b = 1 then some true else none)
    (fun b => if b then 1 else 0) (by
      intro a b
      cases b <;> by_cases h0 : a = 0 <;> by_cases h1 : a = 1 <;> simp_all [eq_comm])

/-- **An optional value**: a flag, and the value when the flag is set. -/
def option (c : Codec α) : Codec (Option α) :=
  (sigma bool (β := fun t => if t then α else Unit)
      (fun t => match t with
        | true => c
        | false => unit)).refine
    (fun p => match p with
      | ⟨true, a⟩ => some (some a)
      | ⟨false, ()⟩ => some none)
    (fun o => match o with
      | some a => ⟨true, a⟩
      | none => ⟨false, ()⟩) (by
      rintro ⟨_ | _, a⟩ (_ | o)
      · cases a
        simp
      · cases a
        simp
      · simp
      · simp [eq_comm])

/-- **The UTF-8 bytes of a string.** -/
def utf8 (s : String) : Bytes := s.toByteArray.data.toList

/-- The string with the given UTF-8 bytes, when they are valid UTF-8. -/
def ofUtf8 (b : Bytes) : Option String := String.fromUTF8? ⟨b.toArray⟩

/-- A string is read from its own bytes only. -/
theorem ofUtf8_eq_some {b : Bytes} {s : String} : ofUtf8 b = some s ↔ utf8 s = b := by
  unfold ofUtf8 String.fromUTF8? utf8
  constructor
  · intro h
    split at h
    · cases h
      rfl
    · cases h
  · rintro rfl
    have bytes : (⟨s.toByteArray.data.toList.toArray⟩ : ByteArray) = s.toByteArray := rfl
    rw [bytes, dif_pos s.isValidUTF8]
    rfl

/-- Different strings have different bytes. -/
theorem utf8_injective : Function.Injective utf8 := by
  intro s t h
  exact Option.some.inj ((ofUtf8_eq_some.mpr h).symm.trans (ofUtf8_eq_some.mpr rfl))

/-- The bytes of strings in a row stand in a row. -/
theorem utf8_append (s t : String) : utf8 (s ++ t) = utf8 s ++ utf8 t := by
  simp [utf8, String.toByteArray_append]

/-- **A string**: the vector of its UTF-8 bytes. -/
def string : Codec String := (vec byte).refine ofUtf8 utf8 fun _ _ => ofUtf8_eq_some

/-! ## Which values have an encoding -/

/-- A refined value can be encoded when the value that it stands for can. -/
theorem isSome_refine {c : Codec α} {f : α → Option β} {g : β → α}
    {spec : ∀ a b, f a = some b ↔ g b = a} {b : β} :
    ((c.refine f g spec).encode b).isSome ↔ (c.encode (g b)).isSome := Iff.rfl

/-- A pair can be encoded when both parts can. -/
theorem isSome_pair {c : Codec α} {d : Codec β} {p : α × β} :
    ((c.pair d).encode p).isSome ↔ (c.encode p.1).isSome ∧ (d.encode p.2).isSome := by
  simp only [pair]
  cases c.encode p.1 <;> cases d.encode p.2 <;> simp

/-- A tagged value can be encoded when the tag and the value can. -/
theorem isSome_sigma {τ : Type} {β : τ → Type} {c : Codec τ} {d : ∀ t, Codec (β t)}
    {p : Σ t, β t} :
    ((sigma c d).encode p).isSome ↔ (c.encode p.1).isSome ∧ ((d p.1).encode p.2).isSome := by
  simp only [sigma]
  cases c.encode p.1 <;> cases (d p.1).encode p.2 <;> simp

/-- A list can be encoded when every element can. -/
theorem isSome_encodeList {c : Codec α} {as : List α} :
    (c.encodeList as).isSome ↔ ∀ a ∈ as, (c.encode a).isSome := by
  induction as with
  | nil => simp [encodeList]
  | cons a as ih =>
    rw [List.forall_mem_cons, ← ih, encodeList]
    cases c.encode a <;> cases c.encodeList as <;> simp

/-- A vector can be encoded when its length fits and every element can be encoded. -/
theorem isSome_vec {c : Codec α} {as : List α} :
    ((vec c).encode as).isSome ↔ as.length < 256 ^ 4 ∧ ∀ a ∈ as, (c.encode a).isSome := by
  rw [← isSome_encodeList]
  simp only [vec]
  by_cases short : as.length < 256 ^ 4
  · rw [if_pos short, Option.isSome_map]
    exact ⟨fun body => ⟨short, body⟩, And.right⟩
  · rw [if_neg short]
    constructor
    · rintro ⟨⟩
    · rintro ⟨fits, -⟩
      exact absurd fits short

/-- A byte string can be encoded when its length fits. -/
theorem isSome_bytes {b : Bytes} : (bytes.encode b).isSome ↔ b.length < 256 ^ 4 := by
  rw [bytes, isSome_vec]
  simp

/-- A string can be encoded when the number of its bytes fits. -/
theorem isSome_string {s : String} : (string.encode s).isSome ↔ (utf8 s).length < 256 ^ 4 := by
  rw [string, isSome_refine, isSome_vec]
  simp

end Codec
