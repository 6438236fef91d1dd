import AxelarSolana.AxelarStd.Types

/-! # Execute data

The off-chain encoder: a payload signed by a verifier set, as the leaves, proofs and signatures
that are submitted to the gateway.

* **`merkleTreeLeaves`** — the leaves of a Merkle tree, with the `u16` conversions of their
  positions; **`VerifierSet.merkleTreeLeaves`** and **`Messages.merkleTreeLeaves`** are its two
  uses.
* **`hashPayload`** — the root of a payload, and **`hashPayloadInternal`** — with its items.
* **`ExecuteData`** — what is encoded, with its Borsh form.
* **`encode`** — build the execute data and write it.
* **`merkleTreeLeaves_eq`** — the conversions never fail once the number of leaves fits. -/

namespace AxelarSolana

open Fallible

/-! ## Payloads -/

/-- A collection of messages. -/
structure Messages where
  list : List Message
  deriving DecidableEq

/-- **A payload**: messages to approve, or the verifier set to rotate to. -/
inductive Payload
  | messages (messages : Messages)
  | newVerifierSet (verifierSet : VerifierSet)

/-- **A payload as Merkle data.** -/
inductive MerklizedPayload
  | verifierSetRotation (newVerifierSetMerkleRoot : Bytes32)
  | newMessages (messages : List MerklizedMessage)
  deriving DecidableEq

/-- **Execute data**: the roots of the signing set and of the payload, the signers' leaves and the
payload's items. -/
structure ExecuteData where
  signingVerifierSetMerkleRoot : Bytes32
  signingVerifierSetLeaves : List SigningVerifierSetInfo
  payloadMerkleRoot : Bytes32
  payloadItems : MerklizedPayload
  deriving DecidableEq

/-- How the encoder ends without a result: with an error, or by a panic. -/
inductive EncodeFailure
  | error (e : EncodingError)
  | panic
  deriving DecidableEq, Repr

/-- An error of the encoding crate, as the encoder's. -/
def liftEncoding {α : Type} : Except EncodingError α → Except EncodeFailure α
  | .ok a => .ok a
  | .error e => .error (.error e)

/-- A success of the encoding is a success. -/
@[simp] theorem liftEncoding_eq_ok {α : Type} {x : Except EncodingError α} {a : α} :
    liftEncoding x = .ok a ↔ x = .ok a := by
  cases x <;> simp [liftEncoding]

/-! ## Leaves -/

/-- `usize` to `u16` by `try_into`. -/
def tryIntoU16 (n : Nat) : Option UInt16 := if n < 2 ^ 16 then some (UInt16.ofNat n) else none

/-- **The leaves of a Merkle tree.** The size is converted with an error, each position with
`expect`. -/
def merkleTreeLeaves {α β : Type} (items : List α) (leaf : α → UInt16 → UInt16 → β) :
    Except EncodeFailure (List β) := do
  let setSize ← okOr (tryIntoU16 items.length) (.error .setSizeTooLarge)
  items.zipIdx.mapM fun item => do
    let position ← okOr (tryIntoU16 item.2) .panic
    pure (leaf item.1 position setSize)

/-- `verifier_set::merkle_tree_leaves`. -/
def VerifierSet.merkleTreeLeaves (vs : VerifierSet) (domainSeparator : Bytes32) :
    Except EncodeFailure (List VerifierSetLeaf) :=
  AxelarSolana.merkleTreeLeaves vs.signers fun signer position setSize =>
    { nonce := vs.nonce
      quorum := vs.quorum
      domainSeparator
      signerPubkey := signer.1
      signerWeight := signer.2
      position
      setSize }

/-- `message::merkle_tree_leaves`. -/
def Messages.merkleTreeLeaves (messages : Messages) (domainSeparator : Bytes32) :
    Except EncodeFailure (List MessageLeaf) :=
  AxelarSolana.merkleTreeLeaves messages.list fun message position setSize =>
    { message
      position
      setSize
      domainSeparator }

/-- The `expect` of a position never fires: positions are smaller than the size that was
converted before. -/
theorem merkleTreeLeaves_eq {α β : Type} (items : List α) (leaf : α → UInt16 → UInt16 → β) :
    merkleTreeLeaves items leaf =
      if items.length < 2 ^ 16 then
        .ok (items.mapIdx fun position item =>
          leaf item (UInt16.ofNat position) (UInt16.ofNat items.length))
      else .error (.error .setSizeTooLarge) := by
  unfold merkleTreeLeaves
  by_cases small : items.length < 2 ^ 16
  · have size : tryIntoU16 items.length = some (UInt16.ofNat items.length) := if_pos small
    rw [if_pos small, size, List.mapIdx_eq_zipIdx_map]
    show List.mapM _ _ = _
    apply mapM_eq_ok_map
    rintro ⟨item, position⟩ mem
    have bound : position < 2 ^ 16 := (List.snd_lt_of_mem_zipIdx mem).trans small
    have converted : tryIntoU16 position = some (UInt16.ofNat position) := if_pos bound
    rw [converted]
    rfl
  · have size : tryIntoU16 items.length = none := if_neg small
    rw [if_neg small, size]
    rfl

/-- The encoder's leaves of a verifier set are the ones `verifier_set_hash` is taken of. -/
theorem VerifierSet.merkleTreeLeaves_eq (vs : VerifierSet) (d : Bytes32) :
    vs.merkleTreeLeaves d = liftEncoding (verifierSetLeaves vs d) := by
  unfold VerifierSet.merkleTreeLeaves verifierSetLeaves
  rw [AxelarSolana.merkleTreeLeaves_eq]
  by_cases small : vs.signers.length < 2 ^ 16
  · rw [if_pos small, require_pos small]
    rfl
  · rw [if_neg small, require_neg small]
    rfl

/-! ## Roots and proofs -/

/-- **Proof generation of `rs_merkle`**: the hashes of the proof of one leaf index, and their byte
form. -/
structure Prover where
  merkleProof : List Bytes32 → Nat → List Bytes32
  merkleProofToBytes : List Bytes32 → Bytes

variable (env : Crates) (prover : Prover)

/-- `merkle_tree`: the hashes of the leaves, from which `rs_merkle` derives the root and the
proofs. -/
def merkleTree (leaves : List Digestable) : List Bytes32 := leaves.map env.leafHash

/-- `hash_payload_internal`: the root of a payload and its items. -/
def hashPayloadInternal (payload : Payload) (domainSeparator : Bytes32) :
    Except EncodeFailure (Bytes32 × MerklizedPayload) :=
  match payload with
  | .messages messages => do
    let leaves ← messages.merkleTreeLeaves domainSeparator
    let messagesMerkleTree := merkleTree env (leaves.map .messageLeaf)
    let messagesMerkleRoot ← okOr (env.merkleRoot messagesMerkleTree)
      (.error .cannotMerklizeEmptyMessageSet)
    let messages := leaves.map fun leaf =>
      { leaf
        proof := prover.merkleProofToBytes
          (prover.merkleProof messagesMerkleTree leaf.position.toNat) }
    pure (messagesMerkleRoot, .newMessages messages)
  | .newVerifierSet verifierSet => do
    let newVerifierSetMerkleRoot ← liftEncoding (verifierSetHash env verifierSet domainSeparator)
    pure (newVerifierSetMerkleRoot, .verifierSetRotation newVerifierSetMerkleRoot)

/-- `hash_payload`. -/
def hashPayload (domainSeparator : Bytes32) (payload : Payload) :
    Except EncodeFailure Bytes32 := do
  let (payloadHash, _) ← hashPayloadInternal env prover payload domainSeparator
  pure payloadHash

/-! ## Borsh forms -/

/-- The Borsh form of a message identifier. -/
def CrossChainId.codec : Codec CrossChainId :=
  (Codec.string.pair Codec.string).refine (fun p => some ⟨p.1, p.2⟩) (fun c => (c.chain, c.id)) (by
    rintro ⟨a, b⟩ ⟨a', b'⟩
    simp [eq_comm])

/-- The Borsh form of a message. -/
def Message.codec : Codec Message :=
  (CrossChainId.codec.pair (Codec.string.pair (Codec.string.pair
    (Codec.string.pair (Codec.fixed 32))))).refine
    (fun p => some ⟨p.1, p.2.1, p.2.2.1, p.2.2.2.1, p.2.2.2.2⟩)
    (fun m => (m.ccId, m.sourceAddress, m.destinationChain, m.destinationAddress, m.payloadHash))
    (by
      rintro ⟨a, b, c, d, e⟩ ⟨a', b', c', d', e'⟩
      simp [eq_comm])

/-- The Borsh form of a message leaf. -/
def MessageLeaf.codec : Codec MessageLeaf :=
  (Message.codec.pair (Codec.u16.pair (Codec.u16.pair (Codec.fixed 32)))).refine
    (fun p => some ⟨p.1, p.2.1, p.2.2.1, p.2.2.2⟩)
    (fun l => (l.message, l.position, l.setSize, l.domainSeparator)) (by
      rintro ⟨a, b, c, d⟩ ⟨a', b', c', d'⟩
      simp [eq_comm])

/-- The Borsh form of a message leaf with its proof. -/
def MerklizedMessage.codec : Codec MerklizedMessage :=
  (MessageLeaf.codec.pair Codec.bytes).refine (fun p => some ⟨p.1, p.2⟩)
    (fun m => (m.leaf, m.proof)) (by
      rintro ⟨a, b⟩ ⟨a', b'⟩
      simp [eq_comm])

/-- The Borsh form of a signer's leaf. -/
def VerifierSetLeaf.codec : Codec VerifierSetLeaf :=
  (Codec.u64.pair (Codec.u128.pair ((Codec.fixed 33).pair (Codec.u128.pair
    (Codec.u16.pair (Codec.u16.pair (Codec.fixed 32))))))).refine
    (fun p => some ⟨p.1, p.2.1, p.2.2.1, p.2.2.2.1, p.2.2.2.2.1, p.2.2.2.2.2.1, p.2.2.2.2.2.2⟩)
    (fun l => (l.nonce, l.quorum, l.signerPubkey, l.signerWeight, l.position, l.setSize,
      l.domainSeparator)) (by
      rintro ⟨a, b, c, d, e, f, g⟩ ⟨a', b', c', d', e', f', g'⟩
      simp [eq_comm])

/-- The Borsh form of a payload type: the index of its variant. -/
def PayloadType.codec : Codec PayloadType :=
  Codec.bool.refine (fun b => some (if b then .rotateSigners else .approveMessages))
    (fun p => match p with
      | .approveMessages => false
      | .rotateSigners => true) (by
      rintro (_ | _) (_ | _) <;> simp)

/-- The Borsh form of a signer's leaf with its proof and signature. -/
def SigningVerifierSetInfo.codec : Codec SigningVerifierSetInfo :=
  ((Codec.fixed 65).pair (VerifierSetLeaf.codec.pair
    (Codec.bytes.pair PayloadType.codec))).refine
    (fun p => some ⟨p.1, p.2.1, p.2.2.1, p.2.2.2⟩)
    (fun i => (i.signature, i.leaf, i.merkleProof, i.payloadType)) (by
      rintro ⟨a, b, c, d⟩ ⟨a', b', c', d'⟩
      simp [eq_comm])

/-- The Borsh form of the payload's items: the index of the variant, then its fields. -/
def MerklizedPayload.codec : Codec MerklizedPayload :=
  (Codec.sigma Codec.bool (β := fun t => if t then List MerklizedMessage else Bytes32)
      (fun t => match t with
        | true => Codec.vec MerklizedMessage.codec
        | false => Codec.fixed 32)).refine
    (fun p => match p with
      | ⟨true, messages⟩ => some (.newMessages messages)
      | ⟨false, root⟩ => some (.verifierSetRotation root))
    (fun m => match m with
      | .newMessages messages => ⟨true, messages⟩
      | .verifierSetRotation root => ⟨false, root⟩) (by
      rintro ⟨_ | _, a⟩ (_ | _)
      · simp [eq_comm]
      · simp
      · simp
      · simp [eq_comm])

/-- The Borsh form of execute data. -/
def ExecuteData.codec : Codec ExecuteData :=
  ((Codec.fixed 32).pair ((Codec.vec SigningVerifierSetInfo.codec).pair
    ((Codec.fixed 32).pair MerklizedPayload.codec))).refine
    (fun p => some ⟨p.1, p.2.1, p.2.2.1, p.2.2.2⟩)
    (fun e => (e.signingVerifierSetMerkleRoot, e.signingVerifierSetLeaves, e.payloadMerkleRoot,
      e.payloadItems)) (by
      rintro ⟨a, b, c, d⟩ ⟨a', b', c', d'⟩
      simp [eq_comm])

/-! ## The encoder -/

/-- **The sizes of the encoder's types in memory**, which depend on the target but are a few
hundred bytes at most. -/
structure Layout where
  executeData : Nat
  merklizedMessage : Nat
  signingVerifierSetInfo : Nat
  small : executeData ≤ 2 ^ 12 ∧ merklizedMessage ≤ 2 ^ 12 ∧ signingVerifierSetInfo ≤ 2 ^ 12

/-- `usize::saturating_add` on a 64-bit target. -/
def usizeSaturatingAdd (a b : Nat) : Nat := min (a + b) (2 ^ 64 - 1)

/-- `usize::saturating_mul` on a 64-bit target. -/
def usizeSaturatingMul (a b : Nat) : Nat := min (a * b) (2 ^ 64 - 1)

/-- `estimate_size`. The sum over the signers is an overflow-checked one. -/
def estimateSize (layout : Layout) (executeData : ExecuteData) : Except EncodeFailure Nat := do
  let messagesSize := match executeData.payloadItems with
    | .verifierSetRotation _ => 0
    | .newMessages messages =>
      let avgProofSize := usizeSaturatingMul 32 4
      let avgMessageSize := 256
      usizeSaturatingMul (usizeSaturatingMul layout.merklizedMessage messages.length)
        (usizeSaturatingAdd avgMessageSize avgProofSize)
  let leavesSize := (executeData.signingVerifierSetLeaves.map fun info =>
    usizeSaturatingAdd layout.signingVerifierSetInfo info.merkleProof.length).sum
  require (leavesSize < 2 ^ 64) .panic
  pure (usizeSaturatingAdd (usizeSaturatingAdd layout.executeData messagesSize) leavesSize)

/-- `Vec::with_capacity` for bytes: panics when the capacity exceeds `isize::MAX`. -/
def vecWithCapacity (capacity : Nat) : Except EncodeFailure Unit :=
  require (capacity < 2 ^ 63) .panic

/-- The execute data that `encode` builds before it writes them. -/
def executeData (signingVerifierSet : VerifierSet)
    (signersWithSignatures : PublicKey → Option EcdsaRecoverableSignature)
    (domainSeparator : Bytes32) (payload : Payload) : Except EncodeFailure ExecuteData := do
  let payloadType := match payload with
    | .messages _ => PayloadType.approveMessages
    | .newVerifierSet _ => PayloadType.rotateSigners
  -- Verifier Set Merkle Tree
  let leaves ← signingVerifierSet.merkleTreeLeaves domainSeparator
  let signerMerkleTree := merkleTree env (leaves.map .verifierSetLeaf)
  let signingVerifierSetMerkleRoot ← okOr (env.merkleRoot signerMerkleTree)
    (.error .cannotMerklizeEmptyVerifierSet)
  let signingVerifierSetLeaves := leaves.filterMap fun leaf =>
    (signersWithSignatures leaf.signerPubkey).map fun signature =>
      { signature
        leaf
        merkleProof := prover.merkleProofToBytes
          (prover.merkleProof signerMerkleTree leaf.position.toNat)
        payloadType }
  -- Payload Merkle Tree
  let (payloadMerkleRoot, payloadItems) ← hashPayloadInternal env prover payload domainSeparator
  pure
    { signingVerifierSetMerkleRoot
      signingVerifierSetLeaves
      payloadMerkleRoot
      payloadItems }

/-- **`encode`.** -/
def encode (layout : Layout) (signingVerifierSet : VerifierSet)
    (signersWithSignatures : PublicKey → Option EcdsaRecoverableSignature)
    (domainSeparator : Bytes32) (payload : Payload) : Except EncodeFailure Bytes := do
  let executeData ← executeData env prover signingVerifierSet signersWithSignatures
    domainSeparator payload
  let capacity ← estimateSize layout executeData
  vecWithCapacity capacity
  okOr (ExecuteData.codec.encode executeData) (.error .ioError)

/-! ## What the roots are taken of -/

/-- The leaf of a signer with its position. -/
def VerifierSet.leaf (vs : VerifierSet) (d : Bytes32) (position : Nat)
    (signer : PublicKey × BitVec 128) : VerifierSetLeaf where
  nonce := vs.nonce
  quorum := vs.quorum
  domainSeparator := d
  signerPubkey := signer.1
  signerWeight := signer.2
  position := UInt16.ofNat position
  setSize := UInt16.ofNat vs.signers.length

/-- **The leaves of a verifier set.** -/
def VerifierSet.leaves (vs : VerifierSet) (d : Bytes32) : List VerifierSetLeaf :=
  vs.signers.mapIdx (vs.leaf d)

/-- The leaf of a message with its position. -/
def Messages.leaf (ms : Messages) (d : Bytes32) (position : Nat) (message : Message) :
    MessageLeaf where
  message
  position := UInt16.ofNat position
  setSize := UInt16.ofNat ms.list.length
  domainSeparator := d

/-- **The leaves of a batch of messages.** -/
def Messages.leaves (ms : Messages) (d : Bytes32) : List MessageLeaf :=
  ms.list.mapIdx (ms.leaf d)

section

variable {env : Crates} {prover : Prover} {d root : Bytes32}

/-- The leaves of a verifier set, and their number. -/
theorem verifierSetLeaves_eq_ok {vs : VerifierSet} {leaves : List VerifierSetLeaf} :
    verifierSetLeaves vs d = .ok leaves ↔ vs.signers.length < 2 ^ 16 ∧ leaves = vs.leaves d := by
  simp only [verifierSetLeaves, bind_eq_ok, require_eq_ok, pure_eq_ok, exists_unit]
  exact and_congr_right fun _ => eq_comm

/-- The leaves of a batch of messages, and their number. -/
theorem Messages.merkleTreeLeaves_eq_ok {ms : Messages} {leaves : List MessageLeaf} :
    ms.merkleTreeLeaves d = .ok leaves ↔ ms.list.length < 2 ^ 16 ∧ leaves = ms.leaves d := by
  rw [Messages.merkleTreeLeaves, merkleTreeLeaves_eq]
  by_cases small : ms.list.length < 2 ^ 16
  · rw [if_pos small]
    simp only [small, true_and, Except.ok.injEq]
    exact eq_comm
  · rw [if_neg small]
    simp only [small, false_and, reduceCtorEq]

/-- **The root of a verifier set** is that of its leaves' hashes. -/
theorem verifierSetHash_eq_ok {vs : VerifierSet} :
    verifierSetHash env vs d = .ok root ↔ vs.signers.length < 2 ^ 16 ∧
      env.merkleRoot (merkleTree env ((vs.leaves d).map .verifierSetLeaf)) = some root := by
  have hashes : merkleTree env ((vs.leaves d).map .verifierSetLeaf) =
      (vs.leaves d).map (VerifierSetLeaf.hash env) := by
    rw [merkleTree, List.map_map]
    rfl
  simp only [verifierSetHash, bind_eq_ok, verifierSetLeaves_eq_ok, okOr_eq_ok, hashes]
  constructor
  · rintro ⟨_, ⟨small, rfl⟩, hroot⟩
    exact ⟨small, hroot⟩
  · rintro ⟨small, hroot⟩
    exact ⟨_, ⟨small, rfl⟩, hroot⟩

/-- **The root of a batch of messages** is that of its leaves' hashes. -/
theorem hashPayload_messages_eq_ok {ms : Messages} :
    hashPayload env prover d (.messages ms) = .ok root ↔
      ms.list.length < 2 ^ 16 ∧
        env.merkleRoot (merkleTree env ((ms.leaves d).map .messageLeaf)) = some root := by
  simp only [hashPayload, hashPayloadInternal, bind_eq_ok, okOr_eq_ok, pure_eq_ok,
    Messages.merkleTreeLeaves_eq_ok]
  constructor
  · rintro ⟨_, ⟨leaves, ⟨small, rfl⟩, root', hroot, rfl⟩, rfl⟩
    exact ⟨small, hroot⟩
  · rintro ⟨small, hroot⟩
    exact ⟨_, ⟨_, ⟨small, rfl⟩, root, hroot, rfl⟩, rfl⟩

end

end AxelarSolana
