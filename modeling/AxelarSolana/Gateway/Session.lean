import AxelarSolana.Gateway.State

/-! # Processing a signature

`SignatureVerificationSessionData::process_signature` and the functions it calls. The session is
mutated in place, so each function is a computation on the session that keeps what it has written
when it fails.

* **`processSignature`** — check the slot, the Merkle proof and the signature, then add the weight,
  set the bit and compare the verifier set.
* **`SignatureAccepted`** — what a leaf and its signature must satisfy.
* **`processSignature_eq_ok`** — the call succeeds exactly on an accepted signature for an unset
  slot of a session of the same verifier set, and then does `SignatureVerification.accept`. -/

namespace AxelarSolana.Gateway

open Fallible

namespace SignatureVerification

/-- `signature_slots.view_bits::<Lsb0>().get(position)`. -/
def slot (self : SignatureVerification) (position : UInt16) : Option Bool :=
  if position.toNat < 256 then some (self.signatureSlots.getLsbD position.toNat) else none

/-- The slots with one more bit set. -/
def setSlot (self : SignatureVerification) (position : UInt16) : SignatureVerification :=
  { self with signatureSlots := self.signatureSlots ||| BitVec.twoPow 256 position.toNat }

end SignatureVerification

namespace SignatureVerificationSessionData

variable (env : Crates)

/-- `check_slot_is_done`. -/
def checkSlotIsDone (self : SignatureVerificationSessionData) (signatureNode : VerifierSetLeaf) :
    Except Error Unit := do
  let slot ← okOr (self.signatureVerification.slot signatureNode.position)
    GatewayError.slotIsOutOfBounds.err
  require (slot = false) GatewayError.slotAlreadyVerified.err

/-- `verify_ecdsa_signature`: recover the key from the prefixed digest and compare it with the
leaf's. A key that is not a curve point makes the `unwrap` panic. -/
def verifyEcdsaSignature (pubkey : PublicKey) (signature : EcdsaRecoverableSignature)
    (payloadType : PayloadType) (message : Bytes32) : Except Error Bool :=
  let hashedMessage := prefixedMessageHashPayloadType env payloadType message
  match env.secp256k1Recover hashedMessage (signature.get 64) (signature.toList.take 64) with
  | none => pure false
  | some recoveredUncompressedPubkey => do
    let pubkey ← okOr (env.parseCompressed pubkey) .panic
    pure (recoveredUncompressedPubkey.toList = pubkey.toList.tail)

/-- `accumulate_threshold`: add the weight with saturation, and jump to the maximum at the
quorum. -/
def accumulateThreshold (signatureNode : VerifierSetLeaf) :
    EStateM Error SignatureVerificationSessionData Unit := do
  modify fun self => { self with
    signatureVerification.accumulatedThreshold :=
      self.signatureVerification.accumulatedThreshold.saturatingAdd
        (U128.new signatureNode.signerWeight) }
  modify fun self =>
    if signatureNode.quorum ≤ self.signatureVerification.accumulatedThreshold.get then
      { self with signatureVerification.accumulatedThreshold := U128.max }
    else self

/-- `mark_slot_done`. -/
def markSlotDone (signatureNode : VerifierSetLeaf) :
    EStateM Error SignatureVerificationSessionData Unit := do
  let self ← get
  let slot ← lift (okOr (self.signatureVerification.slot signatureNode.position)
    GatewayError.slotIsOutOfBounds.err)
  lift (require (slot = false) GatewayError.slotAlreadyVerified.err)
  modify fun self => { self with
    signatureVerification := self.signatureVerification.setSlot signatureNode.position }

/-- `verify_verifier_set`. -/
def verifyVerifierSet (expectedHash : Bytes32) :
    EStateM Error SignatureVerificationSessionData Unit := do
  let self ← get
  lift (require (self.signatureVerification.signingVerifierSetHash = expectedHash)
    GatewayError.invalidDigitalSignature.err)

/-- `process_signature`. -/
def processSignature (payloadMerkleRoot verifierSetMerkleRoot : Bytes32)
    (verifierInfo : SigningVerifierSetInfo) :
    EStateM Error SignatureVerificationSessionData Unit := do
  let self ← get
  -- Check: Slot is already verified
  lift (self.checkSlotIsDone verifierInfo.leaf)
  -- Check: Merkle proof
  let merkleProof ← lift (okOr (env.merkleProofFromBytes verifierInfo.merkleProof)
    GatewayError.invalidMerkleProof.err)
  let leafHash := verifierInfo.leaf.hash env
  lift (require (env.merkleProofVerify merkleProof verifierSetMerkleRoot
      verifierInfo.leaf.position.toNat leafHash verifierInfo.leaf.setSize.toNat)
    GatewayError.invalidMerkleProof.err)
  -- Check: Digital signature
  let verified ← lift (verifyEcdsaSignature env verifierInfo.leaf.signerPubkey
    verifierInfo.signature verifierInfo.payloadType payloadMerkleRoot)
  lift (require verified GatewayError.signatureVerificationFailed.err)
  -- Update state
  accumulateThreshold verifierInfo.leaf
  markSlotDone verifierInfo.leaf
  verifyVerifierSet verifierSetMerkleRoot

end SignatureVerificationSessionData

/-! ## What an accepted signature is -/

section

variable (env : Crates)

/-- **A leaf under a root**: some proof of its position and set size leads to the root. -/
def LeafUnder (root : Bytes32) (leaf : VerifierSetLeaf) : Prop :=
  ∃ proof, env.merkleProofVerify proof root leaf.position.toNat (leaf.hash env)
    leaf.setSize.toNat = true

/-- **A signature by a leaf's key** over the digest of a payload root and type. -/
def SignedBy (leaf : VerifierSetLeaf) (payloadType : PayloadType) (payloadMerkleRoot : Bytes32)
    (signature : EcdsaRecoverableSignature) : Prop :=
  SignatureVerificationSessionData.verifyEcdsaSignature env leaf.signerPubkey signature
    payloadType payloadMerkleRoot = .ok true

/-- **An accepted signature**: the checks of `process_signature` on the submitted data alone. -/
structure SignatureAccepted (payloadMerkleRoot verifierSetMerkleRoot : Bytes32)
    (info : SigningVerifierSetInfo) : Prop where
  inBounds : info.leaf.position.toNat < 256
  proof : ∃ proof, env.merkleProofFromBytes info.merkleProof = some proof ∧
    env.merkleProofVerify proof verifierSetMerkleRoot info.leaf.position.toNat
      (info.leaf.hash env) info.leaf.setSize.toNat = true
  signed : SignedBy env info.leaf info.payloadType payloadMerkleRoot info.signature

/-- The leaf of an accepted signature lies under the root of the set. -/
theorem SignatureAccepted.leafUnder {env : Crates} {r S : Bytes32} {info : SigningVerifierSetInfo}
    (h : SignatureAccepted env r S info) : LeafUnder env S info.leaf := by
  obtain ⟨proof, -, verified⟩ := h.proof
  exact ⟨proof, verified⟩

end

namespace SignatureVerification

/-- The threshold after a leaf's weight is added. -/
def addWeight (threshold : U128) (leaf : VerifierSetLeaf) : U128 :=
  let sum := threshold.saturatingAdd (U128.new leaf.signerWeight)
  if leaf.quorum ≤ sum.get then U128.max else sum

/-- **The session after an accepted leaf.** -/
def accept (self : SignatureVerification) (leaf : VerifierSetLeaf) : SignatureVerification where
  accumulatedThreshold := addWeight self.accumulatedThreshold leaf
  signatureSlots := (self.setSlot leaf.position).signatureSlots
  signingVerifierSetHash := self.signingVerifierSetHash

/-- A slot exists below 256, and is a bit of the word. -/
theorem slot_eq_some {self : SignatureVerification} {p : UInt16} {b : Bool} :
    self.slot p = some b ↔ p.toNat < 256 ∧ self.signatureSlots.getLsbD p.toNat = b := by
  unfold slot
  split
  case isTrue h => simp [h]
  case isFalse h => simp [h]

/-- Accepting a leaf sets the bit of its position and no other. -/
theorem getLsbD_accept (self : SignatureVerification) (leaf : VerifierSetLeaf) {p : Nat}
    (hp : p < 256) :
    (self.accept leaf).signatureSlots.getLsbD p =
      (self.signatureSlots.getLsbD p || decide (p = leaf.position.toNat)) := by
  simp only [accept, setSlot, BitVec.getLsbD_or, BitVec.getLsbD_twoPow]
  by_cases h : leaf.position.toNat = p
  · subst h
    simp [hp]
  · simp [h, Ne.symm h]

end SignatureVerification

namespace SignatureVerificationSessionData

variable {env : Crates}

/-- Adding a weight changes the threshold only. -/
theorem accumulateThreshold_eq_ok {leaf : VerifierSetLeaf} {u : Unit}
    {s s' : SignatureVerificationSessionData} :
    accumulateThreshold leaf s = .ok u s' ↔
      s' = { s with signatureVerification.accumulatedThreshold :=
        SignatureVerification.addWeight s.signatureVerification.accumulatedThreshold leaf } := by
  simp only [accumulateThreshold, stateful_bind_eq_ok, modify_eq_ok, exists_unit,
    exists_eq_left', SignatureVerification.addWeight]
  split <;> exact eq_comm

/-- A slot that is free is set, and nothing else changes. -/
theorem markSlotDone_eq_ok {leaf : VerifierSetLeaf} {u : Unit}
    {s s' : SignatureVerificationSessionData} :
    markSlotDone leaf s = .ok u s' ↔
      s.signatureVerification.slot leaf.position = some false ∧
        s' = { s with
          signatureVerification := s.signatureVerification.setSlot leaf.position } := by
  simp only [markSlotDone, stateful_bind_eq_ok, get_eq_ok, lift_eq_ok, okOr_eq_ok,
    require_eq_ok, modify_eq_ok]
  constructor
  · rintro ⟨_, _, ⟨rfl, rfl⟩, _, _, ⟨free, rfl⟩, _, _, ⟨rfl, rfl⟩, rfl⟩
    exact ⟨free, rfl⟩
  · rintro ⟨free, rfl⟩
    exact ⟨s, s, ⟨rfl, rfl⟩, false, s, ⟨free, rfl⟩, (), s, ⟨rfl, rfl⟩, rfl⟩

/-- The set of a session is checked, and nothing changes. -/
theorem verifyVerifierSet_eq_ok {S : Bytes32} {u : Unit}
    {s s' : SignatureVerificationSessionData} :
    verifyVerifierSet S s = .ok u s' ↔
      s.signatureVerification.signingVerifierSetHash = S ∧ s' = s := by
  simp only [verifyVerifierSet, stateful_bind_eq_ok, get_eq_ok, lift_eq_ok, require_eq_ok]
  constructor
  · rintro ⟨_, _, ⟨rfl, rfl⟩, same, rfl⟩
    exact ⟨same, rfl⟩
  · rintro ⟨same, rfl⟩
    exact ⟨s', s', ⟨rfl, rfl⟩, same, rfl⟩

/-- **What `process_signature` does.** It succeeds exactly when the signature is accepted, its
slot was free and the session signs for the given verifier set, and then performs `accept`. -/
theorem processSignature_eq_ok {r S : Bytes32} {info : SigningVerifierSetInfo} {u : Unit}
    {s s' : SignatureVerificationSessionData} :
    processSignature env r S info s = .ok u s' ↔
      SignatureAccepted env r S info ∧
      s.signatureVerification.signatureSlots.getLsbD info.leaf.position.toNat = false ∧
      s.signatureVerification.signingVerifierSetHash = S ∧
      s' = { s with signatureVerification := s.signatureVerification.accept info.leaf } := by
  simp only [processSignature, checkSlotIsDone, stateful_bind_eq_ok, get_eq_ok, lift_eq_ok,
    bind_eq_ok, okOr_eq_ok, require_eq_ok, accumulateThreshold_eq_ok, markSlotDone_eq_ok,
    verifyVerifierSet_eq_ok]
  constructor
  · rintro ⟨_, _, ⟨rfl, rfl⟩, _, _, ⟨⟨_, free, rfl⟩, rfl⟩, proof, _, ⟨read, rfl⟩, _, _,
      ⟨verified, rfl⟩, _, _, ⟨signed, rfl⟩, _, _, ⟨rfl, rfl⟩, _, _, rfl, _, _, ⟨-, rfl⟩, same,
      rfl⟩
    obtain ⟨inBounds, unset⟩ := SignatureVerification.slot_eq_some.mp free
    exact ⟨⟨inBounds, ⟨proof, read, verified⟩, signed⟩, unset, same, rfl⟩
  · rintro ⟨⟨inBounds, ⟨proof, read, verified⟩, signed⟩, unset, same, rfl⟩
    have free : s.signatureVerification.slot info.leaf.position = some false :=
      SignatureVerification.slot_eq_some.mpr ⟨inBounds, unset⟩
    exact ⟨s, s, ⟨rfl, rfl⟩, (), s, ⟨⟨false, free, rfl⟩, rfl⟩, proof, s, ⟨read, rfl⟩, (), s,
      ⟨verified, rfl⟩, true, s, ⟨signed, rfl⟩, (), s, ⟨rfl, rfl⟩, (), _, rfl, (), _,
      ⟨free, rfl⟩, same, rfl⟩

end SignatureVerificationSessionData

end AxelarSolana.Gateway
