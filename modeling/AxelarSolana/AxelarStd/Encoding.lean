import AxelarSolana.AxelarStd.MerkleRoots
import Mathlib.Algebra.Order.BigOperators.Group.List

/-! # What the encoder writes

`encode` on every verifier set, map of signatures, domain and payload: when it succeeds, that it
never panics, and what the execute data it wrote contain.

* **`RsMerkleProver`** — what is assumed of proof generation and verification in `rs_merkle`.
* **`merkleProofVerify_of_getElem?`** — completeness: the proof made for a leaf is accepted.
* **`VerifierSet.entries`**, **`Payload.items`** — the entries of the signers and the items of the
  payload, as `executeData_eq_ok` finds them.
* **`encode_isOk_iff`** — `encode` succeeds exactly for 1 to 65535 signers and messages.
* **`encode_ne_panic`** — it never panics.
* **`decodeAll_of_encode`** — what it writes is read back as its execute data. -/

namespace AxelarSolana

open Fallible

/-! ## Proofs of `rs_merkle` -/

/-- **Proof generation and verification of `rs_merkle`**: the proof of a leaf holds the sibling in
each level where there is one, its bytes are the hashes one after the other, and a proof that
recomputes the root is accepted. The height of a tree is the logarithm of its size, so a proof
of a tree that the code builds has no more than 16 hashes. -/
structure RsMerkleProver (env : Crates) (prover : Prover) (depth : Nat → Nat) : Prop where
  depth_le : ∀ n, n < 2 ^ 16 → depth n ≤ 16
  merkleProof_eq : ∀ leaves i, i < leaves.length →
    prover.merkleProof leaves i =
      Merkle.siblings (node env.toSyscalls) (depth leaves.length) i leaves
  fromBytes_toBytes : ∀ proof,
    env.merkleProofFromBytes (prover.merkleProofToBytes proof) = some proof
  length_toBytes : ∀ proof, (prover.merkleProofToBytes proof).length = 32 * proof.length
  verify_of_climb : ∀ {proof root position leafHash size}, position < size →
    Merkle.climb (node env.toSyscalls) (depth size) position size proof leafHash = some root →
      env.merkleProofVerify proof root position leafHash size = true

section

variable {env : Crates} {prover : Prover} {depth : Nat → Nat} {d : Bytes32}

/-- **Completeness.** The proof made for a leaf of a tree is accepted under the tree's root. -/
theorem merkleProofVerify_of_getElem? (rs : RsMerkle env depth)
    (rp : RsMerkleProver env prover depth) {leaves : List Digestable} {i : Nat} {leaf : Digestable}
    {root : Bytes32} (small : leaves.length < 2 ^ 16) (hi : leaves[i]? = some leaf)
    (hroot : env.merkleRoot (merkleTree env leaves) = some root) :
    env.merkleProofVerify (prover.merkleProof (merkleTree env leaves) i) root i
      (env.leafHash leaf) leaves.length = true := by
  obtain ⟨inside, -⟩ := List.getElem?_eq_some_iff.mp hi
  have len : (merkleTree env leaves).length = leaves.length := length_merkleTree leaves
  have hash : (merkleTree env leaves)[i]? = some (env.leafHash leaf) := by
    rw [merkleTree, List.getElem?_map, hi]
    rfl
  have fits := rs.fits leaves.length (Nat.lt_of_le_of_lt (Nat.zero_le i) inside) small
  rw [rs.merkleRoot_eq] at hroot
  apply rp.verify_of_climb inside
  rw [rp.merkleProof_eq _ _ (by rw [len]; exact inside)]
  rw [← len] at fits ⊢
  exact Merkle.climb_siblings _ fits hash hroot

/-- A proof of a tree that fits takes at most 512 bytes. -/
theorem length_merkleProofToBytes_le (rp : RsMerkleProver env prover depth) {leaves : List Digestable}
    {i : Nat} (small : leaves.length < 2 ^ 16) (hi : i < leaves.length) :
    (prover.merkleProofToBytes (prover.merkleProof (merkleTree env leaves) i)).length ≤ 512 := by
  have len : (merkleTree env leaves).length = leaves.length := length_merkleTree leaves
  rw [rp.length_toBytes, rp.merkleProof_eq _ _ (by rw [len]; exact hi), len]
  have levels := Merkle.length_siblings_le (node env.toSyscalls) (depth leaves.length) i
    (merkleTree env leaves)
  have height := rp.depth_le leaves.length small
  omega

end

/-! ## The execute data -/

/-- What the signers of a payload intend it for. -/
def Payload.payloadType : Payload → PayloadType
  | .messages _ => .approveMessages
  | .newVerifierSet _ => .rotateSigners

/-- The number of messages of a payload, or of signers of the set to rotate to. -/
def Payload.size : Payload → Nat
  | .messages ms => ms.list.length
  | .newVerifierSet vs => vs.signers.length

section

variable (env : Crates) (prover : Prover)

/-- The hashes of the leaves of a verifier set. -/
def VerifierSet.tree (vs : VerifierSet) (d : Bytes32) : List Bytes32 :=
  merkleTree env ((vs.leaves d).map .verifierSetLeaf)

/-- The hashes of the leaves of a batch of messages. -/
def Messages.tree (ms : Messages) (d : Bytes32) : List Bytes32 :=
  merkleTree env ((ms.leaves d).map .messageLeaf)

/-- The entry of a signer with its signature. -/
def VerifierSet.entry (vs : VerifierSet) (d : Bytes32) (payloadType : PayloadType)
    (leaf : VerifierSetLeaf) (signature : EcdsaRecoverableSignature) : SigningVerifierSetInfo where
  signature
  leaf
  merkleProof := prover.merkleProofToBytes
    (prover.merkleProof (vs.tree env d) leaf.position.toNat)
  payloadType

/-- **The entries of a verifier set**: one for each signer with a signature, in key order. -/
def VerifierSet.entries (vs : VerifierSet)
    (signersWithSignatures : PublicKey → Option EcdsaRecoverableSignature) (d : Bytes32)
    (payloadType : PayloadType) : List SigningVerifierSetInfo :=
  (vs.leaves d).filterMap fun leaf =>
    (signersWithSignatures leaf.signerPubkey).map (vs.entry env prover d payloadType leaf)

/-- A message's leaf with its proof. -/
def Messages.item (ms : Messages) (d : Bytes32) (leaf : MessageLeaf) : MerklizedMessage where
  leaf
  proof := prover.merkleProofToBytes (prover.merkleProof (ms.tree env d) leaf.position.toNat)

/-- **The items of a batch**: one for each message, in order. -/
def Messages.items (ms : Messages) (d : Bytes32) : List MerklizedMessage :=
  (ms.leaves d).map (ms.item env prover d)

/-- **The items of a payload** with the given root. -/
def Payload.items (payload : Payload) (d root : Bytes32) : MerklizedPayload :=
  match payload with
  | .messages ms => .newMessages (ms.items env prover d)
  | .newVerifierSet _ => .verifierSetRotation root

end

section

variable {env : Crates} {prover : Prover} {depth : Nat → Nat} {d root : Bytes32}
  {vs : VerifierSet} {payload : Payload}
  {signersWithSignatures : PublicKey → Option EcdsaRecoverableSignature}

/-- What the payload's part of the execute data is. -/
theorem hashPayloadInternal_eq_ok {items : MerklizedPayload} :
    hashPayloadInternal env prover payload d = .ok (root, items) ↔
      hashPayload env prover d payload = .ok root ∧ items = payload.items env prover d root := by
  simp only [hashPayload, bind_eq_ok, pure_eq_ok, Prod.exists]
  cases payload with
  | messages messages =>
    simp only [hashPayloadInternal, bind_eq_ok, pure_eq_ok, okOr_eq_ok, Prod.mk.injEq,
      Messages.merkleTreeLeaves_eq_ok]
    constructor
    · rintro ⟨leaves, ⟨small, rfl⟩, root, hroot, rfl, rfl⟩
      exact ⟨⟨root, _, ⟨_, ⟨small, rfl⟩, root, hroot, rfl, rfl⟩, rfl⟩, rfl⟩
    · rintro ⟨⟨root, _, ⟨leaves, ⟨small, rfl⟩, root', hroot, rfl, rfl⟩, rfl⟩, rfl⟩
      exact ⟨_, ⟨small, rfl⟩, root', hroot, rfl, rfl⟩
  | newVerifierSet verifierSet =>
    simp only [hashPayloadInternal, bind_eq_ok, pure_eq_ok, Prod.mk.injEq]
    constructor
    · rintro ⟨root, hash, rfl, rfl⟩
      exact ⟨⟨root, _, ⟨root, hash, rfl, rfl⟩, rfl⟩, rfl⟩
    · rintro ⟨⟨_, _, ⟨root, hash, rfl, rfl⟩, rfl⟩, rfl⟩
      exact ⟨root, hash, rfl, rfl⟩

/-- **What the execute data are.** -/
theorem executeData_eq_ok {ed : ExecuteData} :
    executeData env prover vs signersWithSignatures d payload = .ok ed ↔
      verifierSetHash env vs d = .ok ed.signingVerifierSetMerkleRoot ∧
      hashPayload env prover d payload = .ok ed.payloadMerkleRoot ∧
      ed.signingVerifierSetLeaves =
        vs.entries env prover signersWithSignatures d payload.payloadType ∧
      ed.payloadItems = payload.items env prover d ed.payloadMerkleRoot := by
  simp only [executeData, bind_eq_ok, pure_eq_ok, okOr_eq_ok, Prod.exists,
    VerifierSet.merkleTreeLeaves_eq, liftEncoding_eq_ok, verifierSetLeaves_eq_ok,
    verifierSetHash_eq_ok, hashPayloadInternal_eq_ok]
  constructor
  · rintro ⟨leaves, ⟨small, rfl⟩, root, hroot, payloadRoot, _, ⟨hash, rfl⟩, rfl⟩
    refine ⟨⟨small, hroot⟩, hash, ?_, rfl⟩
    cases payload <;> rfl
  · rintro ⟨⟨small, hroot⟩, hash, entries, items⟩
    refine ⟨_, ⟨small, rfl⟩, _, hroot, _, _, ⟨hash, rfl⟩, ?_⟩
    obtain ⟨signingRoot, leaves, payloadRoot, payloadItems⟩ := ed
    simp only at entries items
    subst entries items
    cases payload <;> rfl

/-- **The root of a rotation** is the hash of the new set. -/
theorem hashPayload_newVerifierSet_eq_ok {w : VerifierSet} :
    hashPayload env prover d (.newVerifierSet w) = .ok root ↔
      verifierSetHash env w d = .ok root := by
  simp only [hashPayload, hashPayloadInternal, bind_eq_ok, pure_eq_ok, liftEncoding_eq_ok,
    Prod.exists, Prod.mk.injEq]
  constructor
  · rintro ⟨_, _, ⟨root', hash, rfl, rfl⟩, rfl⟩
    exact hash
  · intro hash
    exact ⟨root, _, ⟨root, hash, rfl, rfl⟩, rfl⟩

/-- **The sizes a payload can be hashed with.** -/
theorem hashPayload_isOk_iff (rs : RsMerkle env depth) :
    (∃ root, hashPayload env prover d payload = .ok root) ↔
      1 ≤ payload.size ∧ payload.size ≤ 65535 := by
  cases payload with
  | messages ms =>
    have len := ms.length_leaves d
    simp only [hashPayload_messages_eq_ok, exists_and_left, Payload.size]
    constructor
    · rintro ⟨small, root⟩
      have pos := (merkleRoot_isSome_iff rs (by rw [len]; exact small)).mp root
      omega
    · rintro ⟨pos, small⟩
      refine ⟨by omega, (merkleRoot_isSome_iff rs ?_).mpr ?_⟩
      · omega
      · omega
  | newVerifierSet w =>
    simp only [hashPayload_newVerifierSet_eq_ok, Payload.size]
    exact verifierSetHash_isOk_iff rs

/-- **The sizes for which there are execute data.** -/
theorem executeData_isOk_iff (rs : RsMerkle env depth) :
    (∃ ed, executeData env prover vs signersWithSignatures d payload = .ok ed) ↔
      (1 ≤ vs.signers.length ∧ vs.signers.length ≤ 65535) ∧
        1 ≤ payload.size ∧ payload.size ≤ 65535 := by
  have signers : (∃ root, verifierSetHash env vs d = .ok root) ↔ _ := verifierSetHash_isOk_iff rs
  have messages : (∃ root, hashPayload env prover d payload = .ok root) ↔ _ :=
    hashPayload_isOk_iff rs
  rw [← signers, ← messages]
  simp only [executeData_eq_ok]
  constructor
  · rintro ⟨ed, signing, hash, -, -⟩
    exact ⟨⟨_, signing⟩, ⟨_, hash⟩⟩
  · rintro ⟨⟨signingRoot, signing⟩, ⟨payloadRoot, hash⟩⟩
    exact ⟨⟨signingRoot, _, payloadRoot, payload.items env prover d payloadRoot⟩, signing, hash,
      rfl, rfl⟩

/-! ## No panics -/

/-- Listing the leaves of a tree panics on no input. -/
theorem merkleTreeLeaves_ne_panic {α β : Type} (items : List α)
    (leaf : α → UInt16 → UInt16 → β) :
    AxelarSolana.merkleTreeLeaves items leaf ≠ .error .panic := by
  rw [merkleTreeLeaves_eq]
  by_cases small : items.length < 2 ^ 16
  · rw [if_pos small]
    rintro ⟨⟩
  · rw [if_neg small]
    rintro ⟨⟩

/-- An error of the encoding is no panic. -/
theorem liftEncoding_ne_panic {α : Type} (x : Except EncodingError α) :
    liftEncoding x ≠ .error .panic := by
  cases x with
  | ok a => rintro ⟨⟩
  | error e => rintro ⟨⟩

/-- Hashing a payload panics on no input. -/
theorem hashPayloadInternal_ne_panic :
    hashPayloadInternal env prover payload d ≠ .error .panic := by
  intro h
  cases payload with
  | messages messages =>
    rcases bind_eq_error.mp h with leaves | ⟨leaves, -, h⟩
    · exact merkleTreeLeaves_ne_panic _ _ leaves
    rcases bind_eq_error.mp h with root | ⟨root, -, h⟩
    · obtain ⟨-, same⟩ := okOr_eq_error.mp root
      cases same
    · exact pure_ne_error h
  | newVerifierSet verifierSet =>
    rcases bind_eq_error.mp h with hash | ⟨root, -, h⟩
    · exact liftEncoding_ne_panic _ hash
    · exact pure_ne_error h

/-- Building the execute data never panics: no position exceeds the size that was converted
before. -/
theorem executeData_ne_panic :
    executeData env prover vs signersWithSignatures d payload ≠ .error .panic := by
  intro h
  rcases bind_eq_error.mp h with leaves | ⟨leaves, -, h⟩
  · exact merkleTreeLeaves_ne_panic _ _ leaves
  rcases bind_eq_error.mp h with root | ⟨root, -, h⟩
  · obtain ⟨-, same⟩ := okOr_eq_error.mp root
    cases same
  rcases bind_eq_error.mp h with hash | ⟨root, -, h⟩
  · exact hashPayloadInternal_ne_panic hash
  · exact pure_ne_error h

/-! ## The buffer -/

/-- The entries of a set are those of the signers who have signed. -/
theorem VerifierSet.mem_entries {payloadType : PayloadType} {info : SigningVerifierSetInfo} :
    info ∈ vs.entries env prover signersWithSignatures d payloadType ↔
      ∃ i signer signature, vs.signers[i]? = some signer ∧
        signersWithSignatures signer.1 = some signature ∧
        info = vs.entry env prover d payloadType (vs.leaf d i signer) signature := by
  simp only [VerifierSet.entries, List.mem_filterMap, VerifierSet.mem_leaves,
    Option.map_eq_some_iff]
  constructor
  · rintro ⟨_, ⟨i, signer, hi, rfl⟩, signature, given, rfl⟩
    exact ⟨i, signer, signature, hi, given, rfl⟩
  · rintro ⟨i, signer, signature, hi, given, rfl⟩
    exact ⟨_, ⟨i, signer, hi, rfl⟩, signature, given, rfl⟩

/-- The items of a batch are those of its messages. -/
theorem Messages.mem_items {ms : Messages} {item : MerklizedMessage} :
    item ∈ ms.items env prover d ↔
      ∃ i message, ms.list[i]? = some message ∧
        item = ms.item env prover d (ms.leaf d i message) := by
  simp only [Messages.items, List.mem_map, Messages.mem_leaves]
  constructor
  · rintro ⟨_, ⟨i, message, hi, rfl⟩, rfl⟩
    exact ⟨i, message, hi, rfl⟩
  · rintro ⟨i, message, hi, rfl⟩
    exact ⟨_, ⟨i, message, hi, rfl⟩, rfl⟩

/-- There are at most as many entries as signers. -/
theorem VerifierSet.length_entries_le (payloadType : PayloadType) :
    (vs.entries env prover signersWithSignatures d payloadType).length ≤ vs.signers.length := by
  have selected := List.length_filterMap_le (fun leaf : VerifierSetLeaf =>
    (signersWithSignatures leaf.signerPubkey).map (vs.entry env prover d payloadType leaf))
    (vs.leaves d)
  rwa [VerifierSet.leaves, List.length_mapIdx] at selected

/-- There are as many items as messages. -/
theorem Messages.length_items (ms : Messages) :
    (ms.items env prover d).length = ms.list.length := by
  rw [Messages.items, List.length_map, Messages.leaves, List.length_mapIdx]

/-- The proof of an entry takes at most 512 bytes. -/
theorem VerifierSet.length_merkleProof_le (rp : RsMerkleProver env prover depth)
    {payloadType : PayloadType} {info : SigningVerifierSetInfo} (small : vs.signers.length < 2 ^ 16)
    (h : info ∈ vs.entries env prover signersWithSignatures d payloadType) :
    info.merkleProof.length ≤ 512 := by
  obtain ⟨i, signer, signature, hi, -, rfl⟩ := VerifierSet.mem_entries.mp h
  obtain ⟨inside, -⟩ := List.getElem?_eq_some_iff.mp hi
  have len := vs.length_leaves d
  apply length_merkleProofToBytes_le rp
  · rw [len]
    exact small
  · rw [len]
    show (UInt16.ofNat i).toNat < _
    rw [toNat_ofNat_u16 (inside.trans small)]
    exact inside

/-- The proof of an item takes at most 512 bytes. -/
theorem Messages.length_proof_le (rp : RsMerkleProver env prover depth) {ms : Messages}
    {item : MerklizedMessage} (small : ms.list.length < 2 ^ 16)
    (h : item ∈ ms.items env prover d) : item.proof.length ≤ 512 := by
  obtain ⟨i, message, hi, rfl⟩ := Messages.mem_items.mp h
  obtain ⟨inside, -⟩ := List.getElem?_eq_some_iff.mp hi
  have len := ms.length_leaves d
  apply length_merkleProofToBytes_le rp
  · rw [len]
    exact small
  · rw [len]
    show (UInt16.ofNat i).toNat < _
    rw [toNat_ofNat_u16 (inside.trans small)]
    exact inside

/-- A saturating sum is at most the sum. -/
theorem usizeSaturatingAdd_le (a b : Nat) : usizeSaturatingAdd a b ≤ a + b := Nat.min_le_left _ _

/-- A saturating product is at most the product. -/
theorem usizeSaturatingMul_le (a b : Nat) : usizeSaturatingMul a b ≤ a * b := Nat.min_le_left _ _

/-- **The estimated size is small enough to allocate.** -/
theorem estimateSize_lt (layout : Layout) {ed : ExecuteData}
    (entries : ed.signingVerifierSetLeaves.length ≤ 65535)
    (proofs : ∀ info ∈ ed.signingVerifierSetLeaves, info.merkleProof.length ≤ 512)
    (items : ∀ messages, ed.payloadItems = .newMessages messages → messages.length ≤ 65535) :
    ∃ capacity, estimateSize layout ed = .ok capacity ∧ capacity < 2 ^ 63 := by
  obtain ⟨dataSmall, messageSmall, infoSmall⟩ := layout.small
  -- every leaf counts at most 4608: the size of a record and the length of its proof
  have leaves := List.sum_le_card_nsmul (ed.signingVerifierSetLeaves.map fun info =>
      usizeSaturatingAdd layout.signingVerifierSetInfo info.merkleProof.length) 4608 (by
    simp only [List.forall_mem_map]
    intro info mem
    have proof := proofs info mem
    have sum := usizeSaturatingAdd_le layout.signingVerifierSetInfo info.merkleProof.length
    omega)
  rw [List.length_map, nsmul_eq_mul, Nat.cast_id] at leaves
  have leavesBound := Nat.mul_le_mul_right 4608 entries
  have avg : usizeSaturatingAdd 256 (usizeSaturatingMul 32 4) = 384 := rfl
  simp only [estimateSize, bind_eq_ok, pure_eq_ok, require_eq_ok, exists_unit, avg]
  refine ⟨_, ⟨by omega, rfl⟩, ?_⟩
  refine Nat.lt_of_le_of_lt ((usizeSaturatingAdd_le _ _).trans
    (Nat.add_le_add_right (usizeSaturatingAdd_le _ _) _)) ?_
  cases shape : ed.payloadItems with
  | verifierSetRotation root =>
    simp only
    omega
  | newMessages messages =>
    have count := items messages shape
    have one := usizeSaturatingMul_le layout.merklizedMessage messages.length
    have all := usizeSaturatingMul_le
      (usizeSaturatingMul layout.merklizedMessage messages.length) 384
    have product := Nat.mul_le_mul messageSmall count
    simp only
    omega

/-! ## The bytes -/

/-- The strings of a message. -/
def Message.strings (m : Message) : List String :=
  [m.ccId.chain, m.ccId.id, m.sourceAddress, m.destinationChain, m.destinationAddress]

/-- **Every string of a payload has less than `2 ^ 32` bytes**, so that its length can be
written. -/
def Payload.ShortStrings : Payload → Prop
  | .messages ms => ∀ m ∈ ms.list, ∀ s ∈ m.strings, (Codec.utf8 s).length < 2 ^ 32
  | .newVerifierSet _ => True

/-- A message whose strings fit can be encoded. -/
theorem Message.isSome_encode {m : Message} (h : ∀ s ∈ m.strings, (Codec.utf8 s).length < 2 ^ 32) :
    (Message.codec.encode m).isSome := by
  have short {s : String} (mem : s ∈ m.strings) : (Codec.string.encode s).isSome :=
    Codec.isSome_string.mpr (h s mem)
  have ccId : (CrossChainId.codec.encode m.ccId).isSome :=
    Codec.isSome_pair.mpr ⟨short (by simp [strings]), short (by simp [strings])⟩
  rw [codec, Codec.isSome_refine, Codec.isSome_pair, Codec.isSome_pair, Codec.isSome_pair,
    Codec.isSome_pair]
  exact ⟨ccId, short (by simp [strings]), short (by simp [strings]), short (by simp [strings]),
    rfl⟩

/-- A message with its proof can be encoded when its strings and the proof fit. -/
theorem MerklizedMessage.isSome_encode {m : MerklizedMessage}
    (strings : ∀ s ∈ m.leaf.message.strings, (Codec.utf8 s).length < 2 ^ 32)
    (proof : m.proof.length < 2 ^ 32) : (MerklizedMessage.codec.encode m).isSome := by
  have leaf : (MessageLeaf.codec.encode m.leaf).isSome := by
    rw [MessageLeaf.codec, Codec.isSome_refine, Codec.isSome_pair]
    exact ⟨Message.isSome_encode strings, rfl⟩
  rw [codec, Codec.isSome_refine, Codec.isSome_pair]
  exact ⟨leaf, Codec.isSome_bytes.mpr proof⟩

/-- An entry whose proof fits can be encoded. -/
theorem SigningVerifierSetInfo.isSome_encode {info : SigningVerifierSetInfo}
    (proof : info.merkleProof.length < 2 ^ 32) :
    (SigningVerifierSetInfo.codec.encode info).isSome := by
  rw [codec, Codec.isSome_refine, Codec.isSome_pair, Codec.isSome_pair, Codec.isSome_pair]
  exact ⟨rfl, rfl, Codec.isSome_bytes.mpr proof, rfl⟩

/-- The items of a payload can be encoded when their number fits and each of them can. -/
theorem MerklizedPayload.isSome_encode {items : MerklizedPayload}
    (h : ∀ messages, items = .newMessages messages → messages.length < 2 ^ 32 ∧
      ∀ m ∈ messages, (MerklizedMessage.codec.encode m).isSome) :
    (MerklizedPayload.codec.encode items).isSome := by
  cases items with
  | verifierSetRotation root => rfl
  | newMessages messages =>
    rw [codec, Codec.isSome_refine, Codec.isSome_sigma]
    exact ⟨rfl, Codec.isSome_vec.mpr (h messages rfl)⟩

/-- **Execute data whose vectors are short can be written.** -/
theorem ExecuteData.isSome_encode {ed : ExecuteData}
    (entries : ed.signingVerifierSetLeaves.length < 2 ^ 32)
    (proofs : ∀ info ∈ ed.signingVerifierSetLeaves, info.merkleProof.length < 2 ^ 32)
    (items : (MerklizedPayload.codec.encode ed.payloadItems).isSome) :
    (ExecuteData.codec.encode ed).isSome := by
  have infos : ∀ info ∈ ed.signingVerifierSetLeaves,
      (SigningVerifierSetInfo.codec.encode info).isSome :=
    fun info mem => SigningVerifierSetInfo.isSome_encode (proofs info mem)
  rw [codec, Codec.isSome_refine, Codec.isSome_pair, Codec.isSome_pair, Codec.isSome_pair]
  exact ⟨rfl, Codec.isSome_vec.mpr ⟨entries, infos⟩, rfl, items⟩

/-! ## The encoder -/

/-- The sizes behind execute data. -/
theorem sizes_of_executeData (rs : RsMerkle env depth) {ed : ExecuteData}
    (h : executeData env prover vs signersWithSignatures d payload = .ok ed) :
    (1 ≤ vs.signers.length ∧ vs.signers.length ≤ 65535) ∧
      1 ≤ payload.size ∧ payload.size ≤ 65535 :=
  (executeData_isOk_iff rs).mp ⟨ed, h⟩

/-- The buffer for any execute data that were built can be allocated. -/
theorem estimateSize_of_executeData (rs : RsMerkle env depth)
    (rp : RsMerkleProver env prover depth) (layout : Layout) {ed : ExecuteData}
    (h : executeData env prover vs signersWithSignatures d payload = .ok ed) :
    ∃ capacity, estimateSize layout ed = .ok capacity ∧ vecWithCapacity capacity = .ok () := by
  obtain ⟨⟨-, signers⟩, -, messages⟩ := sizes_of_executeData rs h
  obtain ⟨-, -, entries, items⟩ := executeData_eq_ok.mp h
  have count : ed.signingVerifierSetLeaves.length ≤ 65535 := by
    rw [entries]
    exact (VerifierSet.length_entries_le _).trans signers
  have proofs : ∀ info ∈ ed.signingVerifierSetLeaves, info.merkleProof.length ≤ 512 := by
    rw [entries]
    exact fun info mem => VerifierSet.length_merkleProof_le rp (by omega) mem
  have itemCount : ∀ ms, ed.payloadItems = .newMessages ms → ms.length ≤ 65535 := by
    rw [items]
    cases payload with
    | messages ms =>
      rintro _ ⟨⟩
      rw [Messages.length_items]
      exact messages
    | newVerifierSet w => rintro _ ⟨⟩
  obtain ⟨capacity, estimated, small⟩ := estimateSize_lt layout count proofs itemCount
  exact ⟨capacity, estimated, require_eq_ok.mpr small⟩

/-- **Writing the execute data.** -/
theorem encode_eq_ok (rs : RsMerkle env depth) (rp : RsMerkleProver env prover depth)
    {layout : Layout} {b : Bytes} :
    encode env prover layout vs signersWithSignatures d payload = .ok b ↔
      ∃ ed, executeData env prover vs signersWithSignatures d payload = .ok ed ∧
        ExecuteData.codec.encode ed = some b := by
  simp only [encode, bind_eq_ok, okOr_eq_ok, exists_unit]
  constructor
  · rintro ⟨ed, built, capacity, -, -, written⟩
    exact ⟨ed, built, written⟩
  · rintro ⟨ed, built, written⟩
    obtain ⟨capacity, estimated, allocated⟩ := estimateSize_of_executeData rs rp layout built
    exact ⟨ed, built, capacity, estimated, allocated, written⟩

/-- **The encoder never panics.** -/
theorem encode_ne_panic (rs : RsMerkle env depth) (rp : RsMerkleProver env prover depth)
    (layout : Layout) :
    encode env prover layout vs signersWithSignatures d payload ≠ .error .panic := by
  intro h
  rcases bind_eq_error.mp h with data | ⟨ed, built, h⟩
  · exact executeData_ne_panic data
  obtain ⟨capacity, estimated, allocated⟩ := estimateSize_of_executeData rs rp layout built
  rcases bind_eq_error.mp h with size | ⟨capacity', estimated', h⟩
  · rw [estimated] at size
    cases size
  rw [estimated] at estimated'
  cases estimated'
  rcases bind_eq_error.mp h with buffer | ⟨_, -, h⟩
  · rw [allocated] at buffer
    cases buffer
  · obtain ⟨-, same⟩ := okOr_eq_error.mp h
    cases same

/-- Execute data of a payload with short strings can be written. -/
theorem isSome_encode_of_executeData (rs : RsMerkle env depth)
    (rp : RsMerkleProver env prover depth) (short : payload.ShortStrings) {ed : ExecuteData}
    (h : executeData env prover vs signersWithSignatures d payload = .ok ed) :
    (ExecuteData.codec.encode ed).isSome := by
  obtain ⟨⟨-, signers⟩, -, messages⟩ := sizes_of_executeData rs h
  obtain ⟨-, -, entries, items⟩ := executeData_eq_ok.mp h
  apply ExecuteData.isSome_encode
  · rw [entries]
    exact Nat.lt_of_le_of_lt (VerifierSet.length_entries_le _) (by omega)
  · rw [entries]
    intro info mem
    have proof := VerifierSet.length_merkleProof_le rp (by omega) mem
    omega
  · rw [items]
    apply MerklizedPayload.isSome_encode
    cases payload with
    | newVerifierSet w => rintro _ ⟨⟩
    | messages ms =>
      rintro _ ⟨⟩
      have small : ms.list.length ≤ 65535 := messages
      constructor
      · rw [Messages.length_items]
        omega
      · intro item mem
        have proof := Messages.length_proof_le rp (by omega) mem
        obtain ⟨i, message, hi, rfl⟩ := Messages.mem_items.mp mem
        exact MerklizedMessage.isSome_encode (short message (List.mem_of_getElem? hi)) (by omega)

/-- **The sizes the encoder accepts.** -/
theorem encode_isOk_iff (rs : RsMerkle env depth) (rp : RsMerkleProver env prover depth)
    (layout : Layout) (short : payload.ShortStrings) :
    (∃ b, encode env prover layout vs signersWithSignatures d payload = .ok b) ↔
      (1 ≤ vs.signers.length ∧ vs.signers.length ≤ 65535) ∧
        1 ≤ payload.size ∧ payload.size ≤ 65535 := by
  have built : (∃ ed, executeData env prover vs signersWithSignatures d payload = .ok ed) ↔ _ :=
    executeData_isOk_iff rs
  rw [← built]
  simp only [encode_eq_ok rs rp]
  constructor
  · rintro ⟨b, ed, built, -⟩
    exact ⟨ed, built⟩
  · rintro ⟨ed, built⟩
    obtain ⟨b, written⟩ := Option.isSome_iff_exists.mp
      (isSome_encode_of_executeData rs rp short built)
    exact ⟨b, ed, built, written⟩

/-- **What was written is read back as the execute data.** -/
theorem decodeAll_of_encode (rs : RsMerkle env depth) (rp : RsMerkleProver env prover depth)
    {layout : Layout} {b : Bytes}
    (h : encode env prover layout vs signersWithSignatures d payload = .ok b) :
    ∃ ed, ExecuteData.codec.decodeAll b = some ed ∧
      executeData env prover vs signersWithSignatures d payload = .ok ed := by
  obtain ⟨ed, built, written⟩ := (encode_eq_ok rs rp).mp h
  exact ⟨ed, Codec.decodeAll_eq_some _ |>.mpr written, built⟩

end

/-! ## The concrete instance -/

/-- The hashes of a proof are encoded one after the other. -/
theorem encodeList_fixed {n : Nat} (proof : List (List.Vector UInt8 n)) :
    (Codec.fixed n).encodeList proof = some (proof.flatMap List.Vector.toList) := by
  induction proof with
  | nil => rfl
  | cons hash proof ih => simp [Codec.encodeList, ih]

/-- The hashes of a proof have one size each. -/
theorem length_flatMap_toList {n : Nat} (proof : List (List.Vector UInt8 n)) :
    (proof.flatMap List.Vector.toList).length = n * proof.length := by
  induction proof with
  | nil => rfl
  | cons hash proof ih =>
    rw [List.flatMap_cons, List.length_append, ih, List.Vector.toList_length, List.length_cons,
      Nat.mul_add, Nat.mul_one, Nat.add_comm]

/-- The prover of the instance is the one that the definitions describe. -/
theorem sampleCrates_rsMerkleProver : RsMerkleProver sampleCrates sampleProver sampleDepth where
  depth_le n hn := by
    have small : Nat.log2 (n - 1) < 16 := by
      by_cases zero : n - 1 = 0
      · rw [zero]
        decide
      · exact (Nat.log2_lt zero).mpr (by omega)
    rw [sampleDepth]
    omega
  merkleProof_eq _ _ _ := rfl
  fromBytes_toBytes proof := by
    have count : (proof.flatMap List.Vector.toList).length / 32 = proof.length := by
      rw [length_flatMap_toList, Nat.mul_div_cancel_left _ (by decide)]
    have read := (Codec.fixed 32).decodeList_append [] (encodeList_fixed proof)
    rw [List.append_nil] at read
    simp only [sampleCrates, sampleProver, count, read]
  length_toBytes := length_flatMap_toList
  verify_of_climb _ leads := decide_eq_true leads

end AxelarSolana
