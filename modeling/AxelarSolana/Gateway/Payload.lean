import AxelarSolana.Library.Abi
import AxelarSolana.AxelarStd.ExecuteData
import AxelarSolana.Gateway.State

/-! # Message payloads

The payload of a message to a program: raw bytes and the accounts of the program's instruction, in
one of two encodings, told apart by the first byte.

* **`SolanaAccountRepr`** — an account with its flags, and its Borsh form with packed flag bits.
* **`AxelarMessagePayload`** — the payload, with **`encode`** and **`decode`**.
* **`decodeBorsh`** — the hand-written decoder over slices, **`decodeAbiEncoding`** — the one over
  the raw ABI tokens; in a debug build the latter is compared with the owned decode.
* **`Alloy`**, **`AlloySpec`** — the ABI crate and what is assumed of it.
* **`payload_codec`** — the round trip, the exact Borsh grammar, and no panics. -/

namespace AxelarSolana.Gateway

open Fallible

/-! ## Accounts -/

/-- **An account of a payload.** -/
structure SolanaAccountRepr where
  pubkey : Bytes32
  isSigner : Bool
  isWritable : Bool
  deriving DecidableEq

namespace SolanaAccountRepr

/-- `u8::from(is_signer) | (u8::from(is_writable) << 1)`. -/
def packFlags (isSigner isWritable : Bool) : UInt8 :=
  isSigner.toUInt8 ||| (isWritable.toUInt8 <<< 1)

/-- `SolanaAccountRepr::deserialize_reader`, after the key and the flags have been read. -/
def ofFlags (key : Bytes32) (flags : UInt8) : Option SolanaAccountRepr :=
  if flags > 3 then none
  else some ⟨key, flags &&& 1 = 1, flags >>> 1 = 1⟩

/-- Two bits of flags. -/
theorem flags_cases {b : UInt8} (h : ¬ b > 3) : b = 0 ∨ b = 1 ∨ b = 2 ∨ b = 3 := by
  have small : b.toNat ≤ 3 := Nat.le_of_not_lt h
  have values : b.toNat = 0 ∨ b.toNat = 1 ∨ b.toNat = 2 ∨ b.toNat = 3 := by omega
  rcases values with v | v | v | v
  · exact Or.inl (UInt8.toNat_inj.mp v)
  · exact Or.inr (Or.inl (UInt8.toNat_inj.mp v))
  · exact Or.inr (Or.inr (Or.inl (UInt8.toNat_inj.mp v)))
  · exact Or.inr (Or.inr (Or.inr (UInt8.toNat_inj.mp v)))

/-- Flags that are read from a byte are packed to it again. -/
theorem packFlags_unpack {b : UInt8} (h : ¬ b > 3) :
    packFlags (b &&& 1 = 1) (b >>> 1 = 1) = b := by
  rcases flags_cases h with rfl | rfl | rfl | rfl <;> decide

/-- Flags that are packed are read from the byte again. -/
theorem unpack_packFlags (signer writable : Bool) :
    ¬ packFlags signer writable > 3 ∧
      decide (packFlags signer writable &&& 1 = 1) = signer ∧
      decide (packFlags signer writable >>> 1 = 1) = writable := by
  cases signer <;> cases writable <;> decide

/-- Exactly the flags of an account are read, and as that account. -/
theorem ofFlags_eq_some {key : Bytes32} {b : UInt8} {r : SolanaAccountRepr} :
    ofFlags key b = some r ↔ (r.pubkey, packFlags r.isSigner r.isWritable) = (key, b) := by
  constructor
  · intro h
    unfold ofFlags at h
    by_cases large : b > 3
    · rw [if_pos large] at h
      cases h
    · rw [if_neg large] at h
      cases h
      rw [packFlags_unpack large]
  · intro h
    cases h
    obtain ⟨small, signer, writable⟩ := unpack_packFlags r.isSigner r.isWritable
    rw [ofFlags, if_neg small, signer, writable]

/-- `AnchorSerialize` and `AnchorDeserialize` of an account: the key, then the flags. -/
def codec : Codec SolanaAccountRepr :=
  ((Codec.fixed 32).pair Codec.byte).refine (fun p => ofFlags p.1 p.2)
    (fun r => (r.pubkey, packFlags r.isSigner r.isWritable)) fun _ _ => ofFlags_eq_some

end SolanaAccountRepr

/-! ## Payloads -/

/-- The encodings of a payload. -/
inductive EncodingScheme
  | borsh
  | abiEncoding
  deriving DecidableEq, Repr

/-- `EncodingScheme::to_u8`. -/
def EncodingScheme.toU8 : EncodingScheme → UInt8
  | .borsh => 0
  | .abiEncoding => 1

/-- `EncodingScheme::from_u8`. -/
def EncodingScheme.fromU8 (b : UInt8) : Option EncodingScheme :=
  if b = 0 then some .borsh else if b = 1 then some .abiEncoding else none

/-- **A payload**: raw bytes, accounts and the encoding. -/
structure AxelarMessagePayload where
  payloadWithoutAccounts : Bytes
  solanaAccounts : List SolanaAccountRepr
  encodingScheme : EncodingScheme
  deriving DecidableEq

/-- The three ABI words of an account. -/
abbrev AccountTokens := Bytes32 × Bytes32 × Bytes32

/-- **The ABI crate**, for the record of a byte string and an array of accounts:

* `abiEncodeParams` — `SolanaGatewayPayload::abi_encode_params`;
* `abiDecodeParams` — `SolanaGatewayPayload::abi_decode_params` with validation;
* `decodeSequence` — `Decoder::new(data, true).decode_sequence`, which stops at the tokens. -/
structure Alloy where
  abiEncodeParams : Bytes → List SolanaAccountRepr → Bytes
  abiDecodeParams : Bytes → Option (Bytes × List SolanaAccountRepr)
  decodeSequence : Bytes → Option (Bytes × List AccountTokens)

namespace AxelarMessagePayload

variable (alloy : Alloy) (debugAssertions : Bool)

/-- `encoding_scheme_prefixed_array`: a vector with room for the encoding, up to the capacity where
the allocation panics, that holds the scheme's byte. -/
def encodingSchemePrefixedArray (self : AxelarMessagePayload) : Except Error Bytes := do
  let sizeOfRepr := 34
  let capacity := usizeSaturatingAdd
    (usizeSaturatingAdd 1 (usizeSaturatingMul 1 self.payloadWithoutAccounts.length))
    (usizeSaturatingMul sizeOfRepr self.solanaAccounts.length)
  require (capacity < 2 ^ 63) .panic
  pure [self.encodingScheme.toU8]

/-- `encode_borsh`. -/
def encodeBorsh (self : AxelarMessagePayload) : Except Error Bytes := do
  let writerVec ← self.encodingSchemePrefixedArray
  let payload ← okOr (Codec.bytes.encode self.payloadWithoutAccounts)
    GatewayError.borshSerializeError.err
  let accounts ← okOr ((Codec.vec SolanaAccountRepr.codec).encode self.solanaAccounts)
    GatewayError.borshSerializeError.err
  pure (writerVec ++ (payload ++ accounts))

/-- `slice.get(..n)`. -/
def getTo (b : Bytes) (n : Nat) : Option Bytes := if n ≤ b.length then some (b.take n) else none

/-- `slice.get(n..)`. -/
def getFrom (b : Bytes) (n : Nat) : Option Bytes := if n ≤ b.length then some (b.drop n) else none

/-- `decode_borsh`: the payload is a slice of the input, the accounts are decoded. -/
def decodeBorsh (rawPayload : Bytes) : Except Error (Bytes × List SolanaAccountRepr) := do
  let payloadLength ← okOr ((getTo rawPayload 4).map LittleEndian.decode)
    GatewayError.borshDeserializeError.err
  -- Split into payload and accounts data
  let (payloadSlice, accountsSlice) ← okOr ((getFrom rawPayload 4).bind fun bytes =>
      (getTo bytes payloadLength).bind fun payload =>
        (getFrom bytes payloadLength).map fun accounts => (payload, accounts))
    GatewayError.borshDeserializeError.err
  -- Deserialize accounts data using Borsh
  let solanaAccounts ← okOr ((Codec.vec SolanaAccountRepr.codec).decodeAll accountsSlice)
    GatewayError.borshDeserializeError.err
  pure (payloadSlice, solanaAccounts)

/-- `encode_abi_encoding`. -/
def encodeAbiEncoding (self : AxelarMessagePayload) : Except Error Bytes := do
  let writerVec ← self.encodingSchemePrefixedArray
  pure (writerVec ++ alloy.abiEncodeParams self.payloadWithoutAccounts self.solanaAccounts)

/-- The account that three words stand for: both flags must be `0` or `1`. -/
def accountOfTokens (tokens : AccountTokens) : Except Error SolanaAccountRepr := do
  let signer := Abi.toNat tokens.2.1.toList
  require (signer ≤ 1) GatewayError.payloadAbiError.err
  let writable := Abi.toNat tokens.2.2.toList
  require (writable ≤ 1) GatewayError.payloadAbiError.err
  pure ⟨tokens.1, signer = 1, writable = 1⟩

/-- `extract_payload_slice_and_solana_accounts`. -/
def extractPayloadSliceAndSolanaAccounts (data : Bytes) :
    Except Error (Bytes × List SolanaAccountRepr) := do
  let (payloadSlice, accountWords) ← okOr (alloy.decodeSequence data)
    GatewayError.payloadAbiError.err
  let accounts ← accountWords.mapM accountOfTokens
  pure (payloadSlice, accounts)

/-- `decode_abi_encoding`. With debug assertions the result is compared with the owned decode. -/
def decodeAbiEncoding (data : Bytes) : Except Error (Bytes × List SolanaAccountRepr) := do
  let (payload, accounts) ← extractPayloadSliceAndSolanaAccounts alloy data
  if debugAssertions then
    let (allocatedPayload, allocatedAccounts) ← okOr (alloy.abiDecodeParams data)
      GatewayError.payloadAbiError.err
    require (payload = allocatedPayload) .panic
    require (accounts = allocatedAccounts) .panic
  pure (payload, accounts)

/-- **`encode`.** -/
def encode (self : AxelarMessagePayload) : Except Error Bytes :=
  match self.encodingScheme with
  | .borsh => self.encodeBorsh
  | .abiEncoding => self.encodeAbiEncoding alloy

/-- The decoder of each scheme. -/
def decodeWith (encodingScheme : EncodingScheme) (data : Bytes) :
    Except Error (Bytes × List SolanaAccountRepr) :=
  match encodingScheme with
  | .borsh => decodeBorsh data
  | .abiEncoding => decodeAbiEncoding alloy debugAssertions data

/-- **`decode`.** -/
def decode (data : Bytes) : Except Error AxelarMessagePayload :=
  match data with
  | [] => .error GatewayError.invalidEncodingScheme.err
  | encodingScheme :: data => do
    let encodingScheme ← okOr (EncodingScheme.fromU8 encodingScheme)
      GatewayError.invalidEncodingScheme.err
    let (payloadWithoutAccounts, solanaAccounts) ←
      decodeWith alloy debugAssertions encodingScheme data
    pure ⟨payloadWithoutAccounts, solanaAccounts, encodingScheme⟩

end AxelarMessagePayload

/-! ## The ABI crate -/

/-- A flag as a word. -/
def boolWord (b : Bool) : Bytes32 := ⟨Abi.word b.toNat, Abi.length_word _⟩

/-- The words of an account. -/
def SolanaAccountRepr.tokens (r : SolanaAccountRepr) : AccountTokens :=
  (r.pubkey, boolWord r.isSigner, boolWord r.isWritable)

/-- The ABI form of the words of an account. -/
def tokensCodec : Codec AccountTokens :=
  (Codec.fixed 32).pair ((Codec.fixed 32).pair (Codec.fixed 32))

/-- **What is assumed of the ABI crate.** It encodes by the contract ABI specification. The raw
decoder follows the offsets and lengths of the head and checks bounds, but not the padding behind
the payload; the owned decode does the same, reads the flags, and rejects what the decoded value does
not re-encode to. -/
structure AlloySpec (alloy : Alloy) : Prop where
  encode : ∀ {b : Bytes} {as : List SolanaAccountRepr}, b.length < 2 ^ 63 → as.length < 2 ^ 63 →
    Abi.encodeParams tokensCodec b (as.map SolanaAccountRepr.tokens) =
      some (alloy.abiEncodeParams b as)
  decodeSequence : ∀ data, alloy.decodeSequence data = Abi.decodeParams tokensCodec data
  abiDecodeParams : ∀ {data b as}, alloy.abiDecodeParams data = some (b, as) ↔
    alloy.decodeSequence data = some (b, as.map SolanaAccountRepr.tokens) ∧
      alloy.abiEncodeParams b as = data

/-- An account is encoded to its address and two words. -/
theorem tokensCodec_encode (t : AccountTokens) :
    tokensCodec.encode t = some (t.1.toList ++ (t.2.1.toList ++ t.2.2.toList)) := rfl

/-- An account takes three words. -/
theorem tokensCodec_fixedSize : Abi.FixedSize tokensCodec 96 := by
  constructor
  · intro t
    refine ⟨_, tokensCodec_encode t, ?_⟩
    rw [List.length_append, List.length_append, List.Vector.toList_length,
      List.Vector.toList_length, List.Vector.toList_length]
  · intro b room
    have take (b : Bytes) (h : 32 ≤ b.length) :
        (Codec.fixed 32).decode b = some (⟨b.take 32, by simp [h]⟩, b.drop 32) := dif_pos h
    have second : 32 ≤ (b.drop 32).length := by
      rw [List.length_drop]
      omega
    have third : 32 ≤ ((b.drop 32).drop 32).length := by
      rw [List.length_drop, List.length_drop]
      omega
    refine ⟨(⟨b.take 32, by simp; omega⟩, ⟨(b.drop 32).take 32, by simp; omega⟩,
      ⟨((b.drop 32).drop 32).take 32, by simp; omega⟩), ((b.drop 32).drop 32).drop 32, ?_⟩
    simp only [tokensCodec, Codec.pair, take b (by omega), take _ second, take _ third,
      Option.bind_some, Option.map_some]

/-- A flag is a word of the number 0 or 1. -/
theorem toNat_boolWord (b : Bool) : Abi.toNat (boolWord b).toList = b.toNat := by
  apply Abi.toNat_word
  cases b <;> decide

/-- The two flags are different words. -/
theorem boolWord_injective : Function.Injective boolWord := by
  intro a b h
  have same := congrArg (fun w : Bytes32 => Abi.toNat w.toList) h
  simp only [toNat_boolWord] at same
  cases a <;> cases b <;> first | rfl | cases same

/-- The tokens of an account identify it. -/
theorem SolanaAccountRepr.tokens_injective : Function.Injective SolanaAccountRepr.tokens := by
  rintro ⟨key, signer, writable⟩ ⟨key', signer', writable'⟩ h
  obtain ⟨rfl, flags⟩ := Prod.mk.inj h
  obtain ⟨hs, hw⟩ := Prod.mk.inj flags
  cases boolWord_injective hs
  cases boolWord_injective hw
  rfl

/-- A word that is at most one is a flag. -/
theorem eq_boolWord {w : Bytes32} (h : Abi.toNat w.toList ≤ 1) :
    w = boolWord (Abi.toNat w.toList = 1) := by
  have value : Abi.toNat w.toList = (decide (Abi.toNat w.toList = 1)).toNat := by
    rcases Nat.le_one_iff_eq_zero_or_eq_one.mp h with zero | one
    · rw [zero]
      rfl
    · rw [one]
      rfl
  apply Subtype.ext
  show w.toList = Abi.word (decide (Abi.toNat w.toList = 1)).toNat
  rw [← value, Abi.word_toNat w.toList_length]

namespace AxelarMessagePayload

variable {alloy : Alloy} {debugAssertions : Bool}

/-! ## What the encoders write -/

/-- Slices whose encoding can be allocated are shorter than `isize::MAX`. -/
theorem encodingSchemePrefixedArray_ok {p : AxelarMessagePayload} {w : Bytes}
    (h : p.encodingSchemePrefixedArray = .ok w) :
    w = [p.encodingScheme.toU8] ∧ p.payloadWithoutAccounts.length < 2 ^ 63 ∧
      p.solanaAccounts.length < 2 ^ 63 := by
  simp only [encodingSchemePrefixedArray, bind_eq_ok, require_eq_ok, pure_eq_ok, exists_unit] at h
  obtain ⟨room, rfl⟩ := h
  simp only [usizeSaturatingAdd, usizeSaturatingMul] at room
  exact ⟨rfl, by omega, by omega⟩

/-- Short slices can be allocated. -/
theorem encodingSchemePrefixedArray_of_short {p : AxelarMessagePayload}
    (hb : p.payloadWithoutAccounts.length < 2 ^ 32) (ha : p.solanaAccounts.length < 2 ^ 32) :
    p.encodingSchemePrefixedArray = .ok [p.encodingScheme.toU8] := by
  simp only [encodingSchemePrefixedArray, bind_eq_ok, require_eq_ok, pure_eq_ok, exists_unit,
    and_true]
  simp only [usizeSaturatingAdd, usizeSaturatingMul]
  omega

/-- A byte string is encoded to its length and its bytes, when the length fits. -/
theorem bytes_encode_eq_some {b x : Bytes} :
    Codec.bytes.encode b = some x ↔
      b.length < 256 ^ 4 ∧ x = LittleEndian.encode 4 b.length ++ b := by
  rw [Codec.bytes, Codec.vec_encode_eq_some]
  simp only [Codec.byte_encodeList, Option.some.injEq, exists_eq_left']

/-- The Borsh form of a list of accounts exists up to the width of its length. -/
theorem accounts_encode (as : List SolanaAccountRepr) (short : as.length < 2 ^ 32) :
    ∃ y, (Codec.vec SolanaAccountRepr.codec).encode as = some y := by
  have each (as : List SolanaAccountRepr) :
      ∃ body, SolanaAccountRepr.codec.encodeList as = some body := by
    induction as with
    | nil => exact ⟨[], rfl⟩
    | cons a as ih =>
      obtain ⟨body, hbody⟩ := ih
      have head : SolanaAccountRepr.codec.encode a =
          some (a.pubkey.toList ++ [SolanaAccountRepr.packFlags a.isSigner a.isWritable]) := rfl
      exact ⟨_, by rw [Codec.encodeList, head, hbody]; rfl⟩
  obtain ⟨body, hbody⟩ := each as
  exact ⟨_, (Codec.vec_encode_eq_some _).mpr ⟨short, body, hbody, rfl⟩⟩

/-- What the Borsh encoding consists of: the scheme, the payload and the accounts. -/
theorem encodeBorsh_eq_ok {p : AxelarMessagePayload} {b : Bytes} :
    p.encodeBorsh = .ok b ↔ ∃ w x y, p.encodingSchemePrefixedArray = .ok w ∧
      Codec.bytes.encode p.payloadWithoutAccounts = some x ∧
      (Codec.vec SolanaAccountRepr.codec).encode p.solanaAccounts = some y ∧
      b = w ++ (x ++ y) := by
  simp only [encodeBorsh, bind_eq_ok, okOr_eq_ok, pure_eq_ok]
  constructor
  · rintro ⟨w, hw, x, hx, y, hy, rfl⟩
    exact ⟨w, x, y, hw, hx, hy, rfl⟩
  · rintro ⟨w, x, y, hw, hx, hy, rfl⟩
    exact ⟨w, hw, x, hx, y, hy, rfl⟩

/-- What the ABI encoding consists of: the scheme and the parameters. -/
theorem encodeAbiEncoding_eq_ok {p : AxelarMessagePayload} {b : Bytes} :
    p.encodeAbiEncoding alloy = .ok b ↔ ∃ w, p.encodingSchemePrefixedArray = .ok w ∧
      b = w ++ alloy.abiEncodeParams p.payloadWithoutAccounts p.solanaAccounts := by
  simp only [encodeAbiEncoding, bind_eq_ok, pure_eq_ok]
  constructor
  · rintro ⟨w, hw, rfl⟩
    exact ⟨w, hw, rfl⟩
  · rintro ⟨w, hw, rfl⟩
    exact ⟨w, hw, rfl⟩

/-! ## What the decoders read -/

/-- A slice up to a position exists when the position is not past the end. -/
theorem getTo_eq_some {b x : Bytes} {n : Nat} :
    getTo b n = some x ↔ n ≤ b.length ∧ b.take n = x := by
  unfold getTo
  by_cases h : n ≤ b.length
  · rw [if_pos h]
    simp only [h, true_and, Option.some.injEq]
  · rw [if_neg h]
    simp only [h, false_and, reduceCtorEq]

/-- A slice from a position exists when the position is not past the end. -/
theorem getFrom_eq_some {b x : Bytes} {n : Nat} :
    getFrom b n = some x ↔ n ≤ b.length ∧ b.drop n = x := by
  unfold getFrom
  by_cases h : n ≤ b.length
  · rw [if_pos h]
    simp only [h, true_and, Option.some.injEq]
  · rw [if_neg h]
    simp only [h, false_and, reduceCtorEq]

/-- **The hand-written Borsh decoder reads exactly what the encoder writes.** -/
theorem decodeBorsh_eq_ok {raw b : Bytes} {as : List SolanaAccountRepr} :
    decodeBorsh raw = .ok (b, as) ↔ ∃ x y, Codec.bytes.encode b = some x ∧
      (Codec.vec SolanaAccountRepr.codec).encode as = some y ∧ raw = x ++ y := by
  simp only [decodeBorsh, bind_eq_ok, okOr_eq_ok, pure_eq_ok, Prod.exists, Prod.mk.injEq,
    Option.map_eq_some_iff, Option.bind_eq_some_iff, getTo_eq_some, getFrom_eq_some,
    Codec.decodeAll_eq_some]
  constructor
  · rintro ⟨n, ⟨_, ⟨header, rfl⟩, rfl⟩, _, _, ⟨_, ⟨-, rfl⟩, _, ⟨room, rfl⟩, _, ⟨-, rfl⟩, rfl, rfl⟩,
      as', accounts, rfl, rfl⟩
    -- the header is the length of what follows it, in four bytes
    have four : (raw.take 4).length = 4 := by
      rw [List.length_take]
      omega
    have bound := LittleEndian.decode_lt (raw.take 4)
    have back := LittleEndian.encode_decode (raw.take 4)
    rw [four] at bound back
    have size : ((raw.drop 4).take (LittleEndian.decode (raw.take 4))).length =
        LittleEndian.decode (raw.take 4) := by
      rw [List.length_take]
      omega
    refine ⟨_, _, bytes_encode_eq_some.mpr ⟨by rw [size]; exact bound, rfl⟩, accounts, ?_⟩
    rw [size, back, List.append_assoc, List.take_append_drop, List.take_append_drop]
  · rintro ⟨x, y, hx, hy, rfl⟩
    obtain ⟨bound, rfl⟩ := bytes_encode_eq_some.mp hx
    have four : (LittleEndian.encode 4 b.length).length = 4 := LittleEndian.length_encode _ _
    -- the encoding is read back in the same three pieces
    have head : ((LittleEndian.encode 4 b.length ++ b) ++ y).take 4 =
        LittleEndian.encode 4 b.length := by
      rw [List.append_assoc, List.take_left' four]
    have tail : ((LittleEndian.encode 4 b.length ++ b) ++ y).drop 4 = b ++ y := by
      rw [List.append_assoc, List.drop_left' four]
    have total : 4 ≤ ((LittleEndian.encode 4 b.length ++ b) ++ y).length := by
      rw [List.length_append, List.length_append, four]
      omega
    have room : b.length ≤ (b ++ y).length := by
      rw [List.length_append]
      omega
    refine ⟨b.length, ⟨_, ⟨total, head⟩, LittleEndian.decode_encode bound⟩, b, y,
      ⟨_, ⟨total, tail⟩, b, ⟨room, List.take_left' rfl⟩, y, ⟨room, List.drop_left' rfl⟩, rfl, rfl⟩,
      as, hy, rfl, rfl⟩

/-- Whatever is wrong with the Borsh data is reported as one error. -/
theorem decodeBorsh_eq_error {raw : Bytes} {e : Error} (h : decodeBorsh raw = .error e) :
    e = GatewayError.borshDeserializeError.err := by
  simp only [decodeBorsh, bind_eq_error, okOr_eq_error, pure_ne_error, Prod.exists] at h
  rcases h with ⟨-, rfl⟩ | ⟨_, -, ⟨-, rfl⟩ | ⟨_, _, -, ⟨-, rfl⟩ | ⟨_, -, impossible⟩⟩⟩
  · rfl
  · rfl
  · rfl
  · exact impossible.elim

/-- The words of an account, and no others, are read as that account. -/
theorem accountOfTokens_eq_ok (t : AccountTokens) (r : SolanaAccountRepr) :
    accountOfTokens t = .ok r ↔ t = r.tokens := by
  obtain ⟨key, signer, writable⟩ := t
  simp only [accountOfTokens, bind_eq_ok, require_eq_ok, pure_eq_ok, exists_unit]
  constructor
  · rintro ⟨hs, hw, rfl⟩
    exact Prod.ext rfl (Prod.ext (eq_boolWord hs) (eq_boolWord hw))
  · intro h
    cases h
    obtain ⟨key, signer, writable⟩ := r
    simp only [toNat_boolWord]
    cases signer <;> cases writable <;> exact ⟨by decide, by decide, rfl⟩

/-- Payload and accounts are those of the raw decoder. -/
theorem extract_eq_ok {data b : Bytes} {as : List SolanaAccountRepr} :
    extractPayloadSliceAndSolanaAccounts alloy data = .ok (b, as) ↔
      alloy.decodeSequence data = some (b, as.map SolanaAccountRepr.tokens) := by
  simp only [extractPayloadSliceAndSolanaAccounts, bind_eq_ok, okOr_eq_ok, pure_eq_ok, Prod.exists,
    mapM_eq_ok_iff accountOfTokens_eq_ok, Prod.mk.injEq]
  constructor
  · rintro ⟨_, _, read, _, rfl, rfl, rfl⟩
    exact read
  · intro read
    exact ⟨_, _, read, _, rfl, rfl, rfl⟩

/-- Whatever the raw decoder rejects is reported as one error. -/
theorem extract_eq_error {data : Bytes} {e : Error}
    (h : extractPayloadSliceAndSolanaAccounts alloy data = .error e) :
    e = GatewayError.payloadAbiError.err := by
  simp only [extractPayloadSliceAndSolanaAccounts, bind_eq_error, okOr_eq_error, pure_ne_error,
    Prod.exists] at h
  rcases h with ⟨-, rfl⟩ | ⟨_, words, -, fails | ⟨_, -, impossible⟩⟩
  · rfl
  · obtain ⟨t, -, fail⟩ := mapM_eq_error fails
    simp only [accountOfTokens, bind_eq_error, require_eq_error, pure_ne_error] at fail
    rcases fail with ⟨-, rfl⟩ | ⟨_, -, ⟨-, rfl⟩ | ⟨_, -, impossible⟩⟩
    · rfl
    · rfl
    · exact impossible.elim
  · exact impossible.elim

/-- What the ABI decoder reads: what the raw decoder does, and in a debug build only the canonical
encoding. -/
theorem decodeAbiEncoding_eq_ok (spec : AlloySpec alloy) {data b : Bytes}
    {as : List SolanaAccountRepr} :
    decodeAbiEncoding alloy debugAssertions data = .ok (b, as) ↔
      alloy.decodeSequence data = some (b, as.map SolanaAccountRepr.tokens) ∧
        (debugAssertions = true → alloy.abiEncodeParams b as = data) := by
  simp only [decodeAbiEncoding, bind_eq_ok, Prod.exists, extract_eq_ok]
  cases debugAssertions with
  | false =>
    simp only [Bool.false_eq_true, if_false, pure_eq_ok, Prod.mk.injEq, false_implies, and_true]
    constructor
    · rintro ⟨_, _, read, rfl, rfl⟩
      exact read
    · intro read
      exact ⟨b, as, read, rfl, rfl⟩
  | true =>
    simp only [if_true, bind_eq_ok, okOr_eq_ok, require_eq_ok, pure_eq_ok, exists_unit,
      Prod.exists, Prod.mk.injEq, true_implies]
    constructor
    · rintro ⟨b', as', read, _, _, owned, rfl, rfl, rfl, rfl⟩
      exact ⟨read, (spec.abiDecodeParams.mp owned).2⟩
    · rintro ⟨read, same⟩
      exact ⟨b, as, read, b, as, spec.abiDecodeParams.mpr ⟨read, same⟩, rfl, rfl, rfl, rfl⟩

/-- The comparison with the owned decode never panics: both decoders read the same tokens. -/
theorem decodeAbiEncoding_eq_error (spec : AlloySpec alloy) {data : Bytes} {e : Error}
    (h : decodeAbiEncoding alloy debugAssertions data = .error e) :
    e = GatewayError.payloadAbiError.err := by
  rw [decodeAbiEncoding] at h
  rcases bind_eq_error.mp h with fails | ⟨⟨b, as⟩, read, h⟩
  · exact extract_eq_error fails
  cases debugAssertions with
  | false =>
    simp only [Bool.false_eq_true, if_false, pure_ne_error] at h
  | true =>
    simp only [if_true, bind_eq_error, okOr_eq_error, require_eq_error, pure_ne_error, Prod.exists,
      okOr_eq_ok, and_false, exists_false, or_false] at h
    rcases h with ⟨-, rfl⟩ | ⟨b', as', owned, ⟨differs, -⟩ | ⟨_, -, differs, -⟩⟩
    · rfl
    · have tokens := (spec.abiDecodeParams.mp owned).1
      rw [extract_eq_ok.mp read] at tokens
      exact absurd (congrArg Prod.fst (Option.some.inj tokens)) differs
    · have tokens := (spec.abiDecodeParams.mp owned).1
      rw [extract_eq_ok.mp read] at tokens
      exact absurd (List.map_injective_iff.mpr SolanaAccountRepr.tokens_injective
        (congrArg Prod.snd (Option.some.inj tokens))) differs

/-- The raw decoder reads back what was encoded. -/
theorem decodeSequence_abiEncodeParams (spec : AlloySpec alloy) {b : Bytes}
    {as : List SolanaAccountRepr} (hb : b.length < 2 ^ 63) (ha : as.length < 2 ^ 63) :
    alloy.decodeSequence (alloy.abiEncodeParams b as) =
      some (b, as.map SolanaAccountRepr.tokens) := by
  rw [spec.decodeSequence]
  apply Abi.decodeParams_encodeParams _ _ (spec.encode hb ha)
  · omega
  · rw [List.length_map]
    omega

/-! ## The codec -/

/-- The first byte chooses the decoder of the rest. -/
theorem decode_cons {scheme : UInt8} {data : Bytes} {p : AxelarMessagePayload} :
    decode alloy debugAssertions (scheme :: data) = .ok p ↔
      EncodingScheme.fromU8 scheme = some p.encodingScheme ∧
        decodeWith alloy debugAssertions p.encodingScheme data =
          .ok (p.payloadWithoutAccounts, p.solanaAccounts) := by
  simp only [decode, bind_eq_ok, okOr_eq_ok, pure_eq_ok, Prod.exists]
  constructor
  · rintro ⟨s, hs, b, as, read, rfl⟩
    exact ⟨hs, read⟩
  · rintro ⟨hs, read⟩
    exact ⟨p.encodingScheme, hs, p.payloadWithoutAccounts, p.solanaAccounts, read, rfl⟩

/-- The byte of a scheme is read as that scheme. -/
@[simp] theorem fromU8_toU8 (s : EncodingScheme) : EncodingScheme.fromU8 s.toU8 = some s := by
  cases s <;> rfl

/-- **What is encoded is decoded back**, account order and flags included. -/
theorem decode_of_encode (spec : AlloySpec alloy) {p : AxelarMessagePayload} {b : Bytes}
    (h : p.encode alloy = .ok b) : decode alloy debugAssertions b = .ok p := by
  obtain ⟨payload, accounts, scheme⟩ := p
  cases scheme with
  | borsh =>
    obtain ⟨w, x, y, hw, hx, hy, rfl⟩ := encodeBorsh_eq_ok.mp h
    obtain ⟨rfl, -, -⟩ := encodingSchemePrefixedArray_ok hw
    rw [List.singleton_append, decode_cons]
    exact ⟨rfl, decodeBorsh_eq_ok.mpr ⟨x, y, hx, hy, rfl⟩⟩
  | abiEncoding =>
    obtain ⟨w, hw, rfl⟩ := encodeAbiEncoding_eq_ok.mp h
    obtain ⟨rfl, hb, ha⟩ := encodingSchemePrefixedArray_ok hw
    rw [List.singleton_append, decode_cons]
    exact ⟨rfl, (decodeAbiEncoding_eq_ok spec).mpr
      ⟨decodeSequence_abiEncodeParams spec hb ha, fun _ => rfl⟩⟩

/-- Payloads with short parts have an encoding. -/
theorem encode_of_short {p : AxelarMessagePayload}
    (hb : p.payloadWithoutAccounts.length < 2 ^ 32) (ha : p.solanaAccounts.length < 2 ^ 32) :
    ∃ b, p.encode alloy = .ok b := by
  have hw := encodingSchemePrefixedArray_of_short hb ha
  obtain ⟨payload, accounts, scheme⟩ := p
  cases scheme with
  | borsh =>
    obtain ⟨y, hy⟩ := accounts_encode accounts ha
    exact ⟨_, encodeBorsh_eq_ok.mpr ⟨_, _, y, hw, bytes_encode_eq_some.mpr ⟨hb, rfl⟩, hy, rfl⟩⟩
  | abiEncoding => exact ⟨_, encodeAbiEncoding_eq_ok.mpr ⟨_, hw, rfl⟩⟩

/-- **What is decoded by the Borsh scheme is what would be encoded.** -/
theorem encode_of_decode_borsh {data : Bytes} {p : AxelarMessagePayload}
    (h : decode alloy debugAssertions (0 :: data) = .ok p) : p.encode alloy = .ok (0 :: data) := by
  obtain ⟨hs, read⟩ := decode_cons.mp h
  obtain ⟨payload, accounts, scheme⟩ := p
  cases hs
  obtain ⟨x, y, hx, hy, rfl⟩ := decodeBorsh_eq_ok.mp read
  have hb := (bytes_encode_eq_some.mp hx).1
  have ha := ((Codec.vec_encode_eq_some _).mp hy).1
  exact encodeBorsh_eq_ok.mpr ⟨_, x, y, encodingSchemePrefixedArray_of_short hb ha, hx, hy, rfl⟩

/-- Decoding fails with one of three errors; it does not panic. -/
theorem decode_eq_error (spec : AlloySpec alloy) {b : Bytes} {e : Error}
    (h : decode alloy debugAssertions b = .error e) :
    e = GatewayError.invalidEncodingScheme.err ∨ e = GatewayError.borshDeserializeError.err ∨
      e = GatewayError.payloadAbiError.err := by
  cases b with
  | nil =>
    cases h
    exact Or.inl rfl
  | cons scheme data =>
    simp only [decode, bind_eq_error, okOr_eq_error, pure_ne_error] at h
    rcases h with ⟨-, rfl⟩ | ⟨s, -, fails | ⟨_, -, impossible⟩⟩
    · exact Or.inl rfl
    · cases s with
      | borsh => exact Or.inr (Or.inl (decodeBorsh_eq_error fails))
      | abiEncoding => exact Or.inr (Or.inr (decodeAbiEncoding_eq_error spec fails))
    · exact impossible.elim

end AxelarMessagePayload

open AxelarMessagePayload

/-! ## The ABI crate by its definition -/

/-- The ABI crate as the specification has it. -/
def sampleAlloy : Alloy where
  abiEncodeParams b as :=
    (Abi.encodeParams tokensCodec b (as.map SolanaAccountRepr.tokens)).getD []
  decodeSequence := Abi.decodeParams tokensCodec
  abiDecodeParams data :=
    (Abi.decodeParams tokensCodec data).bind fun p =>
      match p.2.mapM accountOfTokens with
      | .ok as =>
        if (Abi.encodeParams tokensCodec p.1 (as.map SolanaAccountRepr.tokens)).getD [] = data then
          some (p.1, as)
        else none
      | .error _ => none

/-- The instance of the ABI crate follows its specification. -/
theorem sampleAlloy_spec : AlloySpec sampleAlloy where
  encode {b as} _ _ := by
    obtain ⟨body, hbody, -⟩ :=
      tokensCodec_fixedSize.encodeList (as.map SolanaAccountRepr.tokens)
    have encoded := Abi.encodeParams_eq_some.mpr
      (⟨body, hbody, rfl⟩ : ∃ body', tokensCodec.encodeList _ = some body' ∧
        _ = Abi.word 64 ++ (Abi.word (64 + (Abi.encodeBytes b).length) ++
          (Abi.encodeBytes b ++ (Abi.word _ ++ body'))))
    rw [encoded]
    show _ = some ((Abi.encodeParams tokensCodec b _).getD [])
    rw [encoded]
    rfl
  decodeSequence _ := rfl
  abiDecodeParams {data b as} := by
    show ((Abi.decodeParams tokensCodec data).bind _ = _) ↔
      Abi.decodeParams tokensCodec data = some (b, as.map SolanaAccountRepr.tokens) ∧ _
    constructor
    · intro h
      obtain ⟨⟨b', ws⟩, read, h⟩ := Option.bind_eq_some_iff.mp h
      simp only at h
      cases words : ws.mapM accountOfTokens with
      | error e =>
        rw [words] at h
        cases h
      | ok as' =>
        rw [words] at h
        simp only at h
        -- only what encodes to the data again is accepted
        by_cases same : (Abi.encodeParams tokensCodec b'
            (as'.map SolanaAccountRepr.tokens)).getD [] = data
        · rw [if_pos same] at h
          cases h
          rw [(mapM_eq_ok_iff accountOfTokens_eq_ok).mp words] at read
          exact ⟨read, same⟩
        · rw [if_neg same] at h
          cases h
    · rintro ⟨read, same⟩
      have words : (as.map SolanaAccountRepr.tokens).mapM accountOfTokens = .ok as :=
        (mapM_eq_ok_iff accountOfTokens_eq_ok).mpr rfl
      rw [read]
      show (match (as.map SolanaAccountRepr.tokens).mapM accountOfTokens with
        | .ok as => _
        | .error _ => none) = _
      rw [words]
      exact if_pos same

/-- Three bytes and two accounts. -/
def samplePayload (encodingScheme : EncodingScheme) : AxelarMessagePayload where
  payloadWithoutAccounts := [1, 2, 3]
  solanaAccounts :=
    [⟨List.Vector.replicate 32 7, true, false⟩, ⟨List.Vector.replicate 32 8, false, true⟩]
  encodingScheme

/-- **The payload codec.** In a release and in a debug build: a payload with short parts is encoded,
and decoded back from its encoding; a byte string with the Borsh scheme is decoded to exactly the
payload it is the encoding of and is an error when there is none; an unknown scheme and the empty
string are errors; and no input makes the decoder panic. -/
theorem payload_codec {alloy : Alloy} (spec : AlloySpec alloy) (debugAssertions : Bool) :
    (∀ p : AxelarMessagePayload,
      p.payloadWithoutAccounts.length < 2 ^ 32 → p.solanaAccounts.length < 2 ^ 32 →
        ∃ b, p.encode alloy = .ok b ∧ decode alloy debugAssertions b = .ok p) ∧
    (∀ (data : Bytes) (p : AxelarMessagePayload),
      decode alloy debugAssertions (0 :: data) = .ok p ↔ p.encode alloy = .ok (0 :: data)) ∧
    (∀ data : Bytes, (∀ p : AxelarMessagePayload, p.encode alloy ≠ .ok (0 :: data)) →
      decode alloy debugAssertions (0 :: data) =
        .error GatewayError.borshDeserializeError.err) ∧
    (∀ (scheme : UInt8) (data : Bytes), scheme ≠ 0 → scheme ≠ 1 →
      decode alloy debugAssertions (scheme :: data) =
        .error GatewayError.invalidEncodingScheme.err) ∧
    decode alloy debugAssertions [] = .error GatewayError.invalidEncodingScheme.err ∧
    (∀ b : Bytes, decode alloy debugAssertions b ≠ .error .panic) := by
  refine ⟨?_, ?_, ?_, ?_, rfl, ?_⟩
  · intro p hb ha
    obtain ⟨b, encoded⟩ : ∃ b, p.encode alloy = .ok b := encode_of_short hb ha
    exact ⟨b, encoded, decode_of_encode spec encoded⟩
  · exact fun data p => ⟨encode_of_decode_borsh, decode_of_encode spec⟩
  · intro data none'
    cases h : decode alloy debugAssertions (0 :: data) with
    | ok p => exact absurd (encode_of_decode_borsh h) (none' p)
    | error e =>
      simp only [decode, bind_eq_error, okOr_eq_error, okOr_eq_ok, pure_ne_error] at h
      rcases h with ⟨unknown, -⟩ | ⟨s, known, fails | ⟨_, -, impossible⟩⟩
      · cases unknown
      · cases known
        rw [decodeBorsh_eq_error fails]
      · exact impossible.elim
  · intro scheme data zero one
    have unknown : EncodingScheme.fromU8 scheme = none := by
      rw [EncodingScheme.fromU8, if_neg zero, if_neg one]
    rw [decode, unknown]
    rfl
  · intro b panics
    rcases decode_eq_error spec panics with same | same | same <;> cases same

/-- Both encodings of a payload, a truncated length prefix and an unknown scheme, in a debug
build. -/
theorem payload_codec_sample :
    (∃ b, (samplePayload .borsh).encode sampleAlloy = .ok b ∧
      decode sampleAlloy true b = .ok (samplePayload .borsh)) ∧
    (∃ b, (samplePayload .abiEncoding).encode sampleAlloy = .ok b ∧
      decode sampleAlloy true b = .ok (samplePayload .abiEncoding)) ∧
    (∀ p : AxelarMessagePayload, p.encode sampleAlloy ≠ .ok [0, 9, 9]) ∧
    decode sampleAlloy true [2] = .error GatewayError.invalidEncodingScheme.err :=
  have codec := payload_codec sampleAlloy_spec true
  ⟨codec.1 _ (by decide) (by decide), codec.1 _ (by decide) (by decide),
    fun p encoded => absurd ((codec.2.1 [9, 9] p).mpr encoded) (by rintro ⟨⟩),
    codec.2.2.2.1 2 [] (by decide) (by decide)⟩

end AxelarSolana.Gateway
