import AxelarSolana.Library.Codec

/-! # Contract ABI parameters

The ABI encoding of two parameters, a byte string and an array of elements of a fixed size: a head
of two offsets, then the two tails.

* **`word`**, **`natAt`** — a number as a 32-byte big-endian word, and the number in the word at an
  offset.
* **`bytesAt`**, **`elementsAt`** — the byte string and the elements whose tails start at an offset.
* **`encodeParams`** — the encoding, whose tails follow the head in order and without gaps.
* **`decodeParams`** — follow the offsets and check the bounds, wherever the tails are and whatever
  fills them up to whole words.
* **`decodeParams_encodeParams`** — the round trip.
* **`Readable`**, **`Compact`** — which inputs are decoded at all, and which of them are the
  encoding of what they decode to (`encodeParams_eq_iff_compact`). -/

namespace Abi

/-! ## Words -/

/-- **A number as a word**, big-endian. -/
def word (n : Nat) : Bytes := (LittleEndian.encode 32 n).reverse

/-- The number in a big-endian byte string. -/
def toNat (w : Bytes) : Nat := LittleEndian.decode w.reverse

/-- The number in the word at an offset. -/
def natAt (data : Bytes) (offset : Nat) : Option Nat :=
  if offset + 32 ≤ data.length then some (toNat ((data.drop offset).take 32)) else none

/-- A word has 32 bytes. -/
@[simp] theorem length_word (n : Nat) : (word n).length = 32 := by
  rw [word, List.length_reverse, LittleEndian.length_encode]

/-- A number that fits is read back from its word. -/
theorem toNat_word {n : Nat} (h : n < 256 ^ 32) : toNat (word n) = n := by
  rw [toNat, word, List.reverse_reverse, LittleEndian.decode_encode h]

/-- A word is written back from its number. -/
theorem word_toNat {w : Bytes} (h : w.length = 32) : word (toNat w) = w := by
  have back := LittleEndian.encode_decode w.reverse
  rw [List.length_reverse, h] at back
  rw [word, toNat, back, List.reverse_reverse]

/-- What it takes to read a word: it lies within the data. -/
theorem natAt_eq_some {data : Bytes} {offset n : Nat} :
    natAt data offset = some n ↔
      offset + 32 ≤ data.length ∧ toNat ((data.drop offset).take 32) = n := by
  unfold natAt
  by_cases h : offset + 32 ≤ data.length
  · rw [if_pos h]
    simp only [h, true_and, Option.some.injEq]
  · rw [if_neg h]
    simp only [h, false_and, reduceCtorEq]

/-- A word stands at an offset when the rest of the input starts with it. -/
theorem natAt_of_drop {data w rest : Bytes} {offset : Nat} (hw : w.length = 32)
    (h : data.drop offset = w ++ rest) : natAt data offset = some (toNat w) := by
  have room := congrArg List.length h
  rw [List.length_drop, List.length_append, hw] at room
  rw [natAt_eq_some]
  refine ⟨by omega, ?_⟩
  rw [h, List.take_append_of_le_length (by omega), List.take_of_length_le (by omega)]

/-- The rest of the input starts with the word that stands at an offset. -/
theorem drop_eq_of_natAt {data : Bytes} {offset n : Nat} (h : natAt data offset = some n) :
    data.drop offset = word n ++ data.drop (offset + 32) := by
  obtain ⟨room, rfl⟩ := natAt_eq_some.mp h
  have len : ((data.drop offset).take 32).length = 32 := by
    rw [List.length_take, List.length_drop]
    omega
  rw [word_toNat len, ← List.drop_drop, List.take_append_drop]

/-! ## Tails -/

/-- The number of zero bytes that fill a length up to whole words. -/
def padding (n : Nat) : Nat := (32 - n % 32) % 32

/-- A byte string as a tail. -/
def encodeBytes (b : Bytes) : Bytes :=
  word b.length ++ (b ++ List.replicate (padding b.length) 0)

/-- The byte string whose tail starts at an offset. Nobody looks at its padding. -/
def bytesAt (data : Bytes) (offset : Nat) : Option Bytes :=
  (natAt data offset).bind fun len =>
    let tail := data.drop (offset + 32)
    if len ≤ tail.length then some (tail.take len) else none

variable {τ : Type}

/-- An array as a tail. -/
def encodeElements (c : Codec τ) (es : List τ) : Option Bytes :=
  (c.encodeList es).map fun body => word es.length ++ body

/-- The elements whose tail starts at an offset. -/
def elementsAt (c : Codec τ) (data : Bytes) (offset : Nat) : Option (List τ) :=
  (natAt data offset).bind fun count =>
    (c.decodeList count (data.drop (offset + 32))).map Prod.fst

/-- The length of a byte string's encoding: its length word, its bytes and their padding. -/
theorem length_encodeBytes (b : Bytes) :
    (encodeBytes b).length = 32 + b.length + padding b.length := by
  rw [encodeBytes, List.length_append, List.length_append, length_word, List.length_replicate]
  omega

/-- What `bytesAt` reads is what stands there after its length. -/
theorem bytesAt_eq_some {data b : Bytes} {offset : Nat} :
    bytesAt data offset = some b ↔
      natAt data offset = some b.length ∧ ∃ rest, data.drop (offset + 32) = b ++ rest := by
  unfold bytesAt
  constructor
  · intro h
    obtain ⟨len, hlen, h⟩ := Option.bind_eq_some_iff.mp h
    simp only at h
    by_cases room : len ≤ (data.drop (offset + 32)).length
    · rw [if_pos room] at h
      cases h
      have size : ((data.drop (offset + 32)).take len).length = len := by
        rw [List.length_take]
        omega
      rw [size]
      exact ⟨hlen, (data.drop (offset + 32)).drop len, (List.take_append_drop _ _).symm⟩
    · rw [if_neg room] at h
      cases h
  · rintro ⟨hlen, rest, hrest⟩
    rw [hlen]
    show (if _ then _ else _) = _
    have room : b.length ≤ (data.drop (offset + 32)).length := by
      rw [hrest, List.length_append]
      omega
    rw [if_pos room, hrest, List.take_left' rfl]

/-- What `elementsAt` reads is the encoding that stands there. -/
theorem elementsAt_eq_some {c : Codec τ} {data : Bytes} {offset : Nat} {es : List τ} :
    elementsAt c data offset = some es ↔
      natAt data offset = some es.length ∧
        ∃ body rest, c.encodeList es = some body ∧ data.drop (offset + 32) = body ++ rest := by
  unfold elementsAt
  constructor
  · intro h
    obtain ⟨count, hcount, h⟩ := Option.bind_eq_some_iff.mp h
    obtain ⟨⟨es', rest⟩, read, rfl⟩ := Option.map_eq_some_iff.mp h
    obtain ⟨len, body, hbody, hdata⟩ := c.encodeList_of_decodeList read
    exact ⟨len ▸ hcount, body, rest, hbody, hdata⟩
  · rintro ⟨hcount, body, rest, hbody, hdata⟩
    rw [hcount, hdata]
    show Option.map Prod.fst (c.decodeList es.length (body ++ rest)) = some es
    rw [c.decodeList_append rest hbody]
    rfl

/-! ## Parameters -/

/-- **Encode the parameters**: the offsets of the two tails, then the tails. -/
def encodeParams (c : Codec τ) (b : Bytes) (es : List τ) : Option Bytes :=
  (encodeElements c es).map fun elements =>
    word 64 ++ (word (64 + (encodeBytes b).length) ++ (encodeBytes b ++ elements))

/-- **Decode the parameters**, wherever the offsets lead. -/
def decodeParams (c : Codec τ) (data : Bytes) : Option (Bytes × List τ) :=
  (natAt data 0).bind fun first =>
    (bytesAt data first).bind fun b =>
      (natAt data 32).bind fun second =>
        (elementsAt c data second).map fun es => (b, es)

/-- What it takes to read the two parameters: both offsets, and what stands there. -/
theorem decodeParams_eq_some {c : Codec τ} {data b : Bytes} {es : List τ} :
    decodeParams c data = some (b, es) ↔ ∃ first second,
      natAt data 0 = some first ∧ bytesAt data first = some b ∧
      natAt data 32 = some second ∧ elementsAt c data second = some es := by
  simp only [decodeParams, Option.bind_eq_some_iff, Option.map_eq_some_iff, Prod.mk.injEq]
  constructor
  · rintro ⟨first, h₁, b', h₂, second, h₃, es', h₄, rfl, rfl⟩
    exact ⟨first, second, h₁, h₂, h₃, h₄⟩
  · rintro ⟨first, second, h₁, h₂, h₃, h₄⟩
    exact ⟨first, h₁, b, h₂, second, h₃, es, h₄, rfl, rfl⟩

/-- **The encoding of the two parameters**: their offsets, the bytes and the array. -/
theorem encodeParams_eq_some {c : Codec τ} {data b : Bytes} {es : List τ} :
    encodeParams c b es = some data ↔ ∃ body, c.encodeList es = some body ∧
      data = word 64 ++ (word (64 + (encodeBytes b).length) ++
        (encodeBytes b ++ (word es.length ++ body))) := by
  simp only [encodeParams, encodeElements, Option.map_eq_some_iff]
  constructor
  · rintro ⟨_, ⟨body, hbody, rfl⟩, rfl⟩
    exact ⟨body, hbody, rfl⟩
  · rintro ⟨body, hbody, rfl⟩
    exact ⟨_, ⟨body, hbody, rfl⟩, rfl⟩

/-- **The layout of an encoding**: the first tail directly after the head, the second directly after
the first, and nothing behind it. -/
theorem encodeParams_layout {c : Codec τ} {data b : Bytes} {es : List τ}
    (hb : b.length < 2 ^ 64) (hes : es.length < 2 ^ 64)
    (h : encodeParams c b es = some data) :
    ∃ body, c.encodeList es = some body ∧
      natAt data 0 = some 64 ∧
      natAt data 32 = some (96 + b.length + padding b.length) ∧
      natAt data 64 = some b.length ∧
      data.drop 96 = b ++ (List.replicate (padding b.length) 0 ++ (word es.length ++ body)) ∧
      natAt data (96 + b.length + padding b.length) = some es.length ∧
      data.drop (96 + b.length + padding b.length + 32) = body := by
  obtain ⟨body, hbody, hdata⟩ := encodeParams_eq_some.mp h
  have pad : padding b.length < 32 := by
    rw [padding]
    omega
  have second : 64 + (encodeBytes b).length = 96 + b.length + padding b.length := by
    rw [length_encodeBytes]
    omega
  rw [second] at hdata
  -- the data word by word: two offsets, the length, the padded bytes, the count, the elements
  have d0 : data.drop 0 = word 64 ++ (word (96 + b.length + padding b.length) ++
      (encodeBytes b ++ (word es.length ++ body))) := hdata
  have d32 : data.drop 32 = word (96 + b.length + padding b.length) ++
      (encodeBytes b ++ (word es.length ++ body)) := by
    rw [hdata, List.drop_left' (length_word 64)]
  have d64 : data.drop 64 = word b.length ++ (b ++ (List.replicate (padding b.length) 0 ++
      (word es.length ++ body))) := by
    have split : 64 = 32 + 32 := rfl
    rw [split, ← List.drop_drop, d32, List.drop_left' (length_word _), encodeBytes,
      List.append_assoc, List.append_assoc]
  have d96 : data.drop 96 = b ++ (List.replicate (padding b.length) 0 ++
      (word es.length ++ body)) := by
    have split : 96 = 64 + 32 := rfl
    rw [split, ← List.drop_drop, d64, List.drop_left' (length_word _)]
  have dSecond : data.drop (96 + b.length + padding b.length) = word es.length ++ body := by
    rw [← List.drop_drop, ← List.drop_drop, d96, List.drop_left' rfl,
      List.drop_left' List.length_replicate]
  refine ⟨body, hbody, ?_, ?_, ?_, d96, ?_, ?_⟩
  · rw [natAt_of_drop (length_word _) d0, toNat_word (by omega)]
  · rw [natAt_of_drop (length_word _) d32, toNat_word (by omega)]
  · rw [natAt_of_drop (length_word _) d64, toNat_word (by omega)]
  · rw [natAt_of_drop (length_word _) dSecond, toNat_word (by omega)]
  · rw [← List.drop_drop, dSecond, List.drop_left' (length_word _)]

/-- **Round trip.** -/
theorem decodeParams_encodeParams {c : Codec τ} {data b : Bytes} {es : List τ}
    (hb : b.length < 2 ^ 64) (hes : es.length < 2 ^ 64)
    (h : encodeParams c b es = some data) : decodeParams c data = some (b, es) := by
  obtain ⟨body, hbody, first, second, len, payload, count, tail⟩ := encodeParams_layout hb hes h
  rw [decodeParams_eq_some]
  refine ⟨_, _, first, ?_, second, ?_⟩
  · exact bytesAt_eq_some.mpr ⟨len, _, payload⟩
  · refine elementsAt_eq_some.mpr ⟨count, body, [], hbody, ?_⟩
    rw [tail, List.append_nil]

/-! ## Which inputs are decoded, and which are encodings -/

/-- **Readable inputs**: the offsets and lengths are those of two tails inside the input. The byte
string may lack its padding. -/
structure Readable (size : Nat) (data : Bytes) (first len second count : Nat) : Prop where
  first_at : natAt data 0 = some first
  len_at : natAt data first = some len
  bytes_fit : first + 32 + len ≤ data.length
  second_at : natAt data 32 = some second
  count_at : natAt data second = some count
  elements_fit : second + 32 + size * count ≤ data.length

/-- **Compact inputs**: the tails follow the head in order, without gap or overlap, zeros fill the
first one up to whole words, and nothing follows the second. -/
def Compact (size : Nat) (data : Bytes) : Prop :=
  ∃ len count, natAt data 0 = some 64 ∧ natAt data 64 = some len ∧
    natAt data 32 = some (96 + len + padding len) ∧
    (data.drop (96 + len)).take (padding len) = List.replicate (padding len) 0 ∧
    natAt data (96 + len + padding len) = some count ∧
    data.length = 128 + len + padding len + size * count

/-- An element codec of a fixed size. -/
def FixedSize (c : Codec τ) (size : Nat) : Prop :=
  (∀ a, ∃ e, c.encode a = some e ∧ e.length = size) ∧
    ∀ b : Bytes, size ≤ b.length → ∃ a rest, c.decode b = some (a, rest)

/-- Elements of one size are always encoded, to that size each. -/
theorem FixedSize.encodeList {c : Codec τ} {size : Nat} (h : FixedSize c size) (es : List τ) :
    ∃ body, c.encodeList es = some body ∧ body.length = size * es.length := by
  induction es with
  | nil => exact ⟨[], rfl, rfl⟩
  | cons a es ih =>
    obtain ⟨e, he, len⟩ := h.1 a
    obtain ⟨body, hbody, total⟩ := ih
    refine ⟨e ++ body, by simp [Codec.encodeList, he, hbody], ?_⟩
    rw [List.length_append, len, total, List.length_cons, Nat.mul_succ]
    omega

/-- Elements of one size are read wherever there is room for them. -/
theorem FixedSize.decodeList {c : Codec τ} {size : Nat} (h : FixedSize c size) (n : Nat)
    (b : Bytes) (room : size * n ≤ b.length) : ∃ es rest, c.decodeList n b = some (es, rest) := by
  induction n generalizing b with
  | zero => exact ⟨[], b, rfl⟩
  | succ n ih =>
    rw [Nat.mul_succ] at room
    obtain ⟨a, rest, read⟩ := h.2 b (by omega)
    obtain ⟨e, he, hb⟩ := c.encode_of_decode read
    obtain ⟨e', he', len⟩ := h.1 a
    rw [he] at he'
    cases he'
    have left : size * n ≤ rest.length := by
      rw [hb, List.length_append, len] at room
      omega
    obtain ⟨es, rest', tail⟩ := ih rest left
    exact ⟨a :: es, rest', by simp [Codec.decodeList, read, tail]⟩

/-- The elements of a fixed size stand one after the other. -/
theorem FixedSize.drop_encodeList {c : Codec τ} {size : Nat} (h : FixedSize c size) {es : List τ}
    {body : Bytes} (hbody : c.encodeList es = some body) {i : Nat} {a : τ}
    (hi : es[i]? = some a) (rest : Bytes) :
    ∃ e after, c.encode a = some e ∧ (body ++ rest).drop (size * i) = e ++ after := by
  induction es generalizing body i with
  | nil => cases hi
  | cons x es ih =>
    simp only [Codec.encodeList, Option.bind_eq_some_iff, Option.map_eq_some_iff] at hbody
    obtain ⟨e, he, tail, htail, rfl⟩ := hbody
    obtain ⟨e', he', len⟩ := h.1 x
    rw [he] at he'
    cases he'
    cases i with
    | zero =>
      cases hi
      exact ⟨e, tail ++ rest, he, by rw [Nat.mul_zero, List.drop_zero, List.append_assoc]⟩
    | succ i =>
      obtain ⟨e', after, henc, hdrop⟩ := ih htail (by simpa using hi)
      refine ⟨e', after, henc, ?_⟩
      rw [Nat.mul_succ, Nat.add_comm, ← List.drop_drop, List.append_assoc, List.drop_left' len]
      exact hdrop

/-- **Exactly the readable inputs are decoded.** -/
theorem decodeParams_isSome_iff {c : Codec τ} {size : Nat} (h : FixedSize c size) {data : Bytes} :
    (∃ v, decodeParams c data = some v) ↔
      ∃ first len second count, Readable size data first len second count := by
  constructor
  · rintro ⟨⟨b, es⟩, decoded⟩
    obtain ⟨first, second, hfirst, hb, hsecond, hes⟩ := decodeParams_eq_some.mp decoded
    obtain ⟨hlen, rest, hrest⟩ := bytesAt_eq_some.mp hb
    obtain ⟨hcount, body, after, hbody, hafter⟩ := elementsAt_eq_some.mp hes
    obtain ⟨body', hbody', total⟩ := h.encodeList es
    rw [hbody] at hbody'
    cases hbody'
    -- what was read fits: its length and the rest make up what was there
    have roomB := congrArg List.length hrest
    rw [List.length_drop, List.length_append] at roomB
    have roomE := congrArg List.length hafter
    rw [List.length_drop, List.length_append, total] at roomE
    obtain ⟨inB, -⟩ := natAt_eq_some.mp hlen
    obtain ⟨inE, -⟩ := natAt_eq_some.mp hcount
    exact ⟨first, b.length, second, es.length, hfirst, hlen, by omega, hsecond, hcount, by omega⟩
  · rintro ⟨first, len, second, count, r⟩
    have roomB : len ≤ (data.drop (first + 32)).length := by
      have := r.bytes_fit
      rw [List.length_drop]
      omega
    have roomE : size * count ≤ (data.drop (second + 32)).length := by
      have := r.elements_fit
      rw [List.length_drop]
      omega
    -- elements of one size can be read as soon as there is room for them
    obtain ⟨es, rest, read⟩ := h.decodeList count _ roomE
    refine ⟨((data.drop (first + 32)).take len, es), decodeParams_eq_some.mpr
      ⟨first, second, r.first_at, ?_, r.second_at, ?_⟩⟩
    · unfold bytesAt
      rw [r.len_at]
      exact if_pos roomB
    · unfold elementsAt
      rw [r.count_at]
      show Option.map Prod.fst (c.decodeList count (data.drop (second + 32))) = some es
      rw [read]
      rfl

/-- **Exactly the compact inputs are the encoding of what they decode to.** -/
theorem encodeParams_eq_iff_compact {c : Codec τ} {size : Nat} (h : FixedSize c size)
    {data b : Bytes} {es : List τ} (hb : b.length < 2 ^ 64) (hes : es.length < 2 ^ 64)
    (decoded : decodeParams c data = some (b, es)) :
    encodeParams c b es = some data ↔ Compact size data := by
  constructor
  · intro encoded
    obtain ⟨body, hbody, first, second, len, payload, count, tail⟩ :=
      encodeParams_layout hb hes encoded
    obtain ⟨body', hbody', total⟩ := h.encodeList es
    rw [hbody] at hbody'
    cases hbody'
    obtain ⟨room, -⟩ := natAt_eq_some.mp count
    have rest := congrArg List.length tail
    rw [List.length_drop, total] at rest
    have zeros : (data.drop (96 + b.length)).take (padding b.length) =
        List.replicate (padding b.length) 0 := by
      rw [← List.drop_drop, payload, List.drop_left' rfl, List.take_left' List.length_replicate]
    exact ⟨b.length, es.length, first, len, second, zeros, count, by omega⟩
  · rintro ⟨len, count, hfirst, hlen, hsecond, zeros, hcount, total⟩
    obtain ⟨first', second', hfirst', hb', hsecond', hes'⟩ := decodeParams_eq_some.mp decoded
    rw [hfirst] at hfirst'
    cases hfirst'
    rw [hsecond] at hsecond'
    cases hsecond'
    obtain ⟨hlen', rest, hrest⟩ := bytesAt_eq_some.mp hb'
    rw [hlen] at hlen'
    cases hlen'
    obtain ⟨hcount', body, after, hbody, hafter⟩ := elementsAt_eq_some.mp hes'
    rw [hcount] at hcount'
    cases hcount'
    obtain ⟨body', hbody', size'⟩ := h.encodeList es
    rw [hbody] at hbody'
    cases hbody'
    -- nothing is left after the elements
    have room := congrArg List.length hafter
    rw [List.length_drop, List.length_append, size', total] at room
    have nothing : after = [] := List.length_eq_zero_iff.mp (by omega)
    rw [nothing, List.append_nil] at hafter
    -- between the byte string and the elements there is only the padding
    have between : rest = List.replicate (padding b.length) 0 ++
        data.drop (96 + b.length + padding b.length) := by
      have skip := congrArg (List.drop b.length) hrest
      rw [List.drop_drop, List.drop_left' rfl] at skip
      calc rest = data.drop (96 + b.length) := skip.symm
        _ = (data.drop (96 + b.length)).take (padding b.length) ++
              (data.drop (96 + b.length)).drop (padding b.length) :=
            (List.take_append_drop _ _).symm
        _ = _ := by rw [zeros, List.drop_drop]
    refine encodeParams_eq_some.mpr ⟨body, hbody, ?_⟩
    have second : 64 + (encodeBytes b).length = 96 + b.length + padding b.length := by
      rw [length_encodeBytes]
      omega
    calc data = data.drop 0 := List.drop_zero.symm
      _ = word 64 ++ data.drop 32 := drop_eq_of_natAt hfirst
      _ = word 64 ++ (word (96 + b.length + padding b.length) ++ data.drop 64) := by
          rw [drop_eq_of_natAt hsecond]
      _ = word 64 ++ (word (96 + b.length + padding b.length) ++
            (word b.length ++ (b ++ rest))) := by
          rw [drop_eq_of_natAt hlen, hrest]
      _ = _ := by
          rw [second, between, drop_eq_of_natAt hcount, hafter, encodeBytes, List.append_assoc,
            List.append_assoc]

end Abi
