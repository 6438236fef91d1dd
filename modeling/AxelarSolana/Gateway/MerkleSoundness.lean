import AxelarSolana.Gateway.Instructions
import AxelarSolana.AxelarStd.MerkleRoots

/-! # Merkle proofs of the gateway

The leaf, the position, the size and the proof bytes of a Merkle check are chosen by the caller.

* **`PassesMerkleCheck`** — the check that `process_signature` and `approve_message` make.
* **`merkle_soundness`** — what passes under the hash of a verifier set is the leaf of one of its
  signers, and what passes under the root of a batch of messages is the leaf of one of them. -/

namespace AxelarSolana.Gateway

open Fallible

variable {env : Crates} {depth : Nat → Nat}

/-- **The Merkle check**: the bytes are a proof that leads from the leaf's hash to the root, at the
leaf's position in a tree of the leaf's size. -/
def PassesMerkleCheck (env : Crates) (root : Bytes32) (merkleProof : Bytes) (position : UInt16)
    (leafHash : Bytes32) (setSize : UInt16) (proof : List Bytes32) : Prop :=
  env.merkleProofFromBytes merkleProof = some proof ∧
    env.merkleProofVerify proof root position.toNat leafHash setSize.toNat = true

/-- `process_signature` accepts only what passes the check. -/
theorem passesMerkleCheck_of_processSignature {r S : Bytes32} {info : SigningVerifierSetInfo}
    {u : Unit} {s s' : SignatureVerificationSessionData}
    (h : SignatureVerificationSessionData.processSignature env r S info s = .ok u s') :
    ∃ proof, PassesMerkleCheck env S info.merkleProof info.leaf.position (info.leaf.hash env)
      info.leaf.setSize proof := by
  obtain ⟨accepted, -⟩ := SignatureVerificationSessionData.processSignature_eq_ok.mp h
  exact accepted.proof

/-- `approve_message` accepts only what passes the check. -/
theorem passesMerkleCheck_of_approveMessage {env : Env} {accounts : ApproveMessage}
    {m : MerklizedMessage} {r : Bytes32} {s s' : GatewayState}
    (h : approveMessage env accounts m r s = .ok s') :
    ∃ proof, PassesMerkleCheck env.toCrates r m.proof m.leaf.position (m.leaf.hash env.toCrates)
      m.leaf.setSize proof := by
  obtain ⟨_, _, _, _, -, -, -, -, -, -, passes, -⟩ := approveMessage_ok h
  exact passes

/-! ## Genuine leaves -/

/-- The leaves of a set carry the indices they stand at. -/
theorem VerifierSet.genuine {vs : VerifierSet} {d : Bytes32} (small : vs.signers.length < 2 ^ 16)
    {leaf : VerifierSetLeaf} (mem : leaf ∈ vs.leaves d) :
    ∃ i signer, vs.signers[i]? = some signer ∧ leaf = vs.leaf d i signer ∧
      leaf.position.toNat = i ∧ leaf.setSize.toNat = vs.signers.length := by
  obtain ⟨i, signer, found, rfl⟩ := VerifierSet.mem_leaves.mp mem
  obtain ⟨hi, -⟩ := List.getElem?_eq_some_iff.mp found
  exact ⟨i, signer, found, rfl, toNat_ofNat_u16 (hi.trans small), toNat_ofNat_u16 small⟩

/-- The leaves of a batch carry the indices they stand at. -/
theorem Messages.genuine {ms : Messages} {d : Bytes32} (small : ms.list.length < 2 ^ 16)
    {leaf : MessageLeaf} (mem : leaf ∈ ms.leaves d) :
    ∃ i message, ms.list[i]? = some message ∧ leaf = ms.leaf d i message ∧
      leaf.position.toNat = i ∧ leaf.setSize.toNat = ms.list.length := by
  obtain ⟨i, message, found, rfl⟩ := Messages.mem_leaves.mp mem
  obtain ⟨hi, -⟩ := List.getElem?_eq_some_iff.mp found
  exact ⟨i, message, found, rfl, toNat_ofNat_u16 (hi.trans small), toNat_ofNat_u16 small⟩

/-! ## Soundness -/

/-- Under the hash of a verifier set, whatever passes is the leaf of one of its signers. -/
theorem mem_of_passes_verifierSetHash (rs : RsMerkle env depth) (ud : Udigest env)
    {vs : VerifierSet} {d root : Bytes32} {leaf : Digestable} {merkleProof : Bytes}
    {position setSize : UInt16} {proof : List Bytes32}
    (hash : verifierSetHash env vs d = .ok root)
    (passes : PassesMerkleCheck env root merkleProof position (env.leafHash leaf) setSize proof)
    (free : Set.InjOn env.keccak {b | b ∈ vs.inputs env depth d ++
      climbInputs env depth leaf proof position.toNat setSize.toNat}) :
    vs.signers.length < 2 ^ 16 ∧ leaf ∈ (vs.leaves d).map .verifierSetLeaf := by
  obtain ⟨small, hroot⟩ := verifierSetHash_eq_ok.mp hash
  exact ⟨small, mem_of_merkleProofVerify rs ud free hroot passes.2⟩

/-- Under the root of a batch of messages, whatever passes is the leaf of one of them. -/
theorem mem_of_passes_hashPayload (rs : RsMerkle env depth) (ud : Udigest env) {prover : Prover}
    {ms : Messages} {d root : Bytes32} {leaf : Digestable} {merkleProof : Bytes}
    {position setSize : UInt16} {proof : List Bytes32}
    (hash : hashPayload env prover d (.messages ms) = .ok root)
    (passes : PassesMerkleCheck env root merkleProof position (env.leafHash leaf) setSize proof)
    (free : Set.InjOn env.keccak {b | b ∈ ms.inputs env depth d ++
      climbInputs env depth leaf proof position.toNat setSize.toNat}) :
    ms.list.length < 2 ^ 16 ∧ leaf ∈ (ms.leaves d).map .messageLeaf := by
  obtain ⟨small, hroot⟩ := hashPayload_messages_eq_ok.mp hash
  exact ⟨small, mem_of_merkleProofVerify rs ud free hroot passes.2⟩

/-- **Merkle soundness.** For every verifier set and domain, whatever leaf, position, size and
proof bytes pass the check under the set's hash, the leaf is that of one of the set's signers, with
its genuine fields; for every batch of messages, whatever passes under its root is the leaf of one
of them; and no leaf of one kind passes under a root of the other. Nothing is accepted by
`process_signature` or `approve_message` that does not pass the check. -/
theorem merkle_soundness (rs : RsMerkle env depth) (ud : Udigest env) (prover : Prover) :
    (∀ (vs : VerifierSet) (d root : Bytes32) (info : SigningVerifierSetInfo)
      (proof : List Bytes32),
      verifierSetHash env vs d = .ok root →
      PassesMerkleCheck env root info.merkleProof info.leaf.position (info.leaf.hash env)
        info.leaf.setSize proof →
      Set.InjOn env.keccak {b | b ∈ vs.inputs env depth d ++ climbInputs env depth
        (.verifierSetLeaf info.leaf) proof info.leaf.position.toNat info.leaf.setSize.toNat} →
      ∃ i signer, vs.signers[i]? = some signer ∧ info.leaf = vs.leaf d i signer ∧
        info.leaf.position.toNat = i ∧ info.leaf.setSize.toNat = vs.signers.length) ∧
    (∀ (ms : Messages) (d root : Bytes32) (m : MerklizedMessage) (proof : List Bytes32),
      hashPayload env prover d (.messages ms) = .ok root →
      PassesMerkleCheck env root m.proof m.leaf.position (m.leaf.hash env) m.leaf.setSize proof →
      Set.InjOn env.keccak {b | b ∈ ms.inputs env depth d ++ climbInputs env depth
        (.messageLeaf m.leaf) proof m.leaf.position.toNat m.leaf.setSize.toNat} →
      ∃ i message, ms.list[i]? = some message ∧ m.leaf = ms.leaf d i message ∧
        m.leaf.position.toNat = i ∧ m.leaf.setSize.toNat = ms.list.length) ∧
    (∀ (vs : VerifierSet) (d root : Bytes32) (m : MerklizedMessage) (proof : List Bytes32),
      verifierSetHash env vs d = .ok root →
      Set.InjOn env.keccak {b | b ∈ vs.inputs env depth d ++ climbInputs env depth
        (.messageLeaf m.leaf) proof m.leaf.position.toNat m.leaf.setSize.toNat} →
      ¬ PassesMerkleCheck env root m.proof m.leaf.position (m.leaf.hash env) m.leaf.setSize
        proof) ∧
    (∀ (ms : Messages) (d root : Bytes32) (info : SigningVerifierSetInfo)
      (proof : List Bytes32),
      hashPayload env prover d (.messages ms) = .ok root →
      Set.InjOn env.keccak {b | b ∈ ms.inputs env depth d ++ climbInputs env depth
        (.verifierSetLeaf info.leaf) proof info.leaf.position.toNat info.leaf.setSize.toNat} →
      ¬ PassesMerkleCheck env root info.merkleProof info.leaf.position (info.leaf.hash env)
        info.leaf.setSize proof) ∧
    (∀ (r S : Bytes32) (info : SigningVerifierSetInfo) (s s' : SignatureVerificationSessionData),
      SignatureVerificationSessionData.processSignature env r S info s = .ok () s' →
      ∃ proof, PassesMerkleCheck env S info.merkleProof info.leaf.position (info.leaf.hash env)
        info.leaf.setSize proof) ∧
    (∀ (gatewayId : Pubkey) (accounts : ApproveMessage) (m : MerklizedMessage) (r : Bytes32)
      (s s' : GatewayState), approveMessage ⟨env, gatewayId⟩ accounts m r s = .ok s' →
      ∃ proof, PassesMerkleCheck env r m.proof m.leaf.position (m.leaf.hash env) m.leaf.setSize
        proof) := by
  refine ⟨?_, ?_, ?_, ?_, fun _ _ _ _ _ => passesMerkleCheck_of_processSignature,
    fun _ _ _ _ _ _ => passesMerkleCheck_of_approveMessage⟩
  · intro vs d root info proof hash passes free
    obtain ⟨small, mem⟩ := mem_of_passes_verifierSetHash rs ud hash passes free
    obtain ⟨leaf, hleaf, same⟩ := List.mem_map.mp mem
    cases same
    exact VerifierSet.genuine small hleaf
  · intro ms d root m proof hash passes free
    obtain ⟨small, mem⟩ := mem_of_passes_hashPayload rs ud hash passes free
    obtain ⟨leaf, hleaf, same⟩ := List.mem_map.mp mem
    cases same
    exact Messages.genuine small hleaf
  -- leaves of the two kinds are hashed with different prefixes, so neither proves the other
  · intro vs d root m proof hash free passes
    have passes' : PassesMerkleCheck env root m.proof m.leaf.position
        (env.leafHash (.messageLeaf m.leaf)) m.leaf.setSize proof := passes
    obtain ⟨-, mem⟩ := mem_of_passes_verifierSetHash rs ud hash passes' free
    obtain ⟨leaf, -, same⟩ := List.mem_map.mp mem
    cases same
  · intro ms d root info proof hash free passes
    have passes' : PassesMerkleCheck env root info.merkleProof info.leaf.position
        (env.leafHash (.verifierSetLeaf info.leaf)) info.leaf.setSize proof := passes
    obtain ⟨-, mem⟩ := mem_of_passes_hashPayload rs ud hash passes' free
    obtain ⟨leaf, -, same⟩ := List.mem_map.mp mem
    cases same

/-! ## A concrete check -/

/-- The hash of a set of three signers. -/
def sampleSetRoot : Bytes32 :=
  (verifierSetHash sampleCrates sampleVerifierSet sampleDomainSeparator).toOption.getD
    sampleDomainSeparator

/-- The root of a batch of one message. -/
def sampleBatchRoot : Bytes32 :=
  (hashPayload sampleCrates sampleProver sampleDomainSeparator
    (.messages ⟨[sampleCrossChainMessage]⟩)).toOption.getD sampleDomainSeparator

/-- The honest proof of the last of three signers, whose node is paired with itself. -/
def sampleLastProof : List Bytes32 :=
  sampleProver.merkleProof (merkleTree sampleCrates
    ((sampleVerifierSet.leaves sampleDomainSeparator).map .verifierSetLeaf)) 2

/-- The last of three signers. -/
def sampleLastSigner : SigningVerifierSetInfo where
  signature := List.Vector.replicate 65 0
  leaf := sampleVerifierSet.leaf sampleDomainSeparator 2 (List.Vector.replicate 33 4, 7)
  merkleProof := sampleProver.merkleProofToBytes sampleLastProof
  payloadType := .approveMessages

/-- The only message of its batch. -/
def sampleOnlyMessage : MerklizedMessage where
  leaf := (Messages.mk [sampleCrossChainMessage]).leaf sampleDomainSeparator 0
    sampleCrossChainMessage
  proof := []

/-- The last signer and the only message pass under their own roots and so are genuine; neither
passes under the other's root. -/
theorem merkle_soundness_sample :
    (∃ i signer, sampleVerifierSet.signers[i]? = some signer ∧
      sampleLastSigner.leaf = sampleVerifierSet.leaf sampleDomainSeparator i signer ∧
      sampleLastSigner.leaf.position.toNat = i ∧
      sampleLastSigner.leaf.setSize.toNat = sampleVerifierSet.signers.length) ∧
    (∃ i message, [sampleCrossChainMessage][i]? = some message ∧
      sampleOnlyMessage.leaf =
        (Messages.mk [sampleCrossChainMessage]).leaf sampleDomainSeparator i message ∧
      sampleOnlyMessage.leaf.position.toNat = i ∧
      sampleOnlyMessage.leaf.setSize.toNat = 1) ∧
    ¬ PassesMerkleCheck sampleCrates sampleSetRoot sampleOnlyMessage.proof
      sampleOnlyMessage.leaf.position (sampleOnlyMessage.leaf.hash sampleCrates)
      sampleOnlyMessage.leaf.setSize [] ∧
    ¬ PassesMerkleCheck sampleCrates sampleBatchRoot sampleLastSigner.merkleProof
      sampleLastSigner.leaf.position (sampleLastSigner.leaf.hash sampleCrates)
      sampleLastSigner.leaf.setSize sampleLastProof :=
  have sound := merkle_soundness sampleCrates_rsMerkle sampleCrates_udigest sampleProver
  ⟨sound.1 sampleVerifierSet sampleDomainSeparator sampleSetRoot sampleLastSigner sampleLastProof
      (by decide +kernel) ⟨by decide +kernel, by decide +kernel⟩ (injOn_of_all (by decide +kernel)),
    sound.2.1 ⟨[sampleCrossChainMessage]⟩ sampleDomainSeparator sampleBatchRoot sampleOnlyMessage []
      (by decide +kernel) ⟨by decide +kernel, by decide +kernel⟩ (injOn_of_all (by decide +kernel)),
    sound.2.2.1 sampleVerifierSet sampleDomainSeparator sampleSetRoot sampleOnlyMessage []
      (by decide +kernel) (injOn_of_all (by decide +kernel)),
    sound.2.2.2.1 ⟨[sampleCrossChainMessage]⟩ sampleDomainSeparator sampleBatchRoot sampleLastSigner
      sampleLastProof (by decide +kernel) (injOn_of_all (by decide +kernel))⟩

end AxelarSolana.Gateway
