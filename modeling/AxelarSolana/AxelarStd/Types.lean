import AxelarSolana.AxelarStd.Words
import AxelarSolana.Solana.Runtime

/-! # Messages and verifier sets

The data of `solana-axelar-std` that the gateway reads, and the hashes taken of it:

* **`Message`**, **`MessageLeaf`**, **`MerklizedMessage`** — a cross-chain message, its leaf in
  the payload's Merkle tree, and the leaf with its proof.
* **`VerifierSet`**, **`VerifierSetLeaf`**, **`SigningVerifierSetInfo`** — a weighted signer set,
  a signer's leaf in the set's Merkle tree, and the leaf with a proof and a signature.
* **`Crates`** — the parts of `udigest`, `rs_merkle` and `libsecp256k1` the code calls, as
  parameters added to the system calls.
* **`verifierSetHash`**, **`prefixedMessageHashPayloadType`**, **`Message.commandId`**. -/

namespace AxelarSolana

/-! ## Messages -/

/-- A source chain and an identifier within it. -/
structure CrossChainId where
  chain : String
  id : String
  deriving DecidableEq

/-- A message intended for cross-chain communication. -/
structure Message where
  ccId : CrossChainId
  sourceAddress : String
  destinationChain : String
  destinationAddress : String
  payloadHash : Bytes32
  deriving DecidableEq

/-- A message as a leaf of its payload's Merkle tree. -/
structure MessageLeaf where
  message : Message
  position : UInt16
  setSize : UInt16
  domainSeparator : Bytes32
  deriving DecidableEq

/-- A message leaf with its Merkle proof. -/
structure MerklizedMessage where
  leaf : MessageLeaf
  proof : Bytes
  deriving DecidableEq

/-! ## Verifier sets -/

/-- What a payload's signers intend it for. -/
inductive PayloadType
  | approveMessages
  | rotateSigners
  deriving DecidableEq, Repr

/-- `u8::from(PayloadType)`. -/
def PayloadType.toByte : PayloadType → UInt8
  | .approveMessages => 0
  | .rotateSigners => 1

/-- A compressed secp256k1 public key. -/
abbrev PublicKey := List.Vector UInt8 33

/-- A recoverable ECDSA signature: 64 bytes and the recovery id. -/
abbrev EcdsaRecoverableSignature := List.Vector UInt8 65

/-- **A verifier set.** The signers are a map from keys to weights, here its entries in key
order: the strict order of the keys is part of the type, so no key occurs twice. -/
structure VerifierSet where
  nonce : UInt64
  signers : List (PublicKey × BitVec 128)
  sorted : signers.Pairwise fun a b => a.1.toList < b.1.toList
  quorum : BitVec 128

/-- A signer as a leaf of its set's Merkle tree. -/
structure VerifierSetLeaf where
  nonce : UInt64
  quorum : BitVec 128
  signerPubkey : PublicKey
  signerWeight : BitVec 128
  position : UInt16
  setSize : UInt16
  domainSeparator : Bytes32
  deriving DecidableEq

/-- A signer's leaf with its Merkle proof and its signature for a payload type. -/
structure SigningVerifierSetInfo where
  signature : EcdsaRecoverableSignature
  leaf : VerifierSetLeaf
  merkleProof : Bytes
  payloadType : PayloadType
  deriving DecidableEq

/-! ## Third-party code -/

/-- The values the code encodes with `udigest`, one case for each `Digestable` type. -/
inductive Digestable
  | message (m : Message)
  | messageLeaf (l : MessageLeaf)
  | verifierSetLeaf (l : VerifierSetLeaf)
  deriving DecidableEq

/-- **Third-party crates**, on top of the system calls:

* `unambiguouslyEncode` — the encoding `udigest` derives for a `Digestable` value;
* `merkleRoot` — `MerkleTree::from_leaves(..).root()` of `rs_merkle`;
* `merkleProofFromBytes`, `merkleProofVerify` — `MerkleProof::from_bytes` and
  `verify(root, [position], [leaf hash], set size)`;
* `parseCompressed` — `libsecp256k1::PublicKey::parse_compressed(..).serialize()`. -/
structure Crates extends Syscalls where
  unambiguouslyEncode : Digestable → Bytes
  merkleRoot : List Bytes32 → Option Bytes32
  merkleProofFromBytes : Bytes → Option (List Bytes32)
  merkleProofVerify : List Bytes32 → Bytes32 → Nat → Bytes32 → Nat → Bool
  parseCompressed : PublicKey → Option (List.Vector UInt8 65)

variable (env : Crates)

/-- `LeafHash::hash`: the hash of the unambiguous encoding. -/
def Crates.leafHash (d : Digestable) : Bytes32 := env.keccak (env.unambiguouslyEncode d)

/-! ## Hashes -/

/-- `Message::command_id`. -/
def Message.commandId (m : Message) : Bytes32 :=
  env.hashv [Codec.utf8 m.ccId.chain, [0x2D], Codec.utf8 m.ccId.id]

/-- `Message::hash`. -/
def Message.hash (m : Message) : Bytes32 := env.leafHash (.message m)

/-- `MessageLeaf::hash`. -/
def MessageLeaf.hash (l : MessageLeaf) : Bytes32 := env.leafHash (.messageLeaf l)

/-- `VerifierSetLeaf::hash`. -/
def VerifierSetLeaf.hash (l : VerifierSetLeaf) : Bytes32 := env.leafHash (.verifierSetLeaf l)

/-- `SOLANA_OFFCHAIN_PREFIX`: `b"\xffsolana offchain"`. -/
def solanaOffchainPrefix : Bytes := 0xFF :: Codec.utf8 "solana offchain"

/-- `prefixed_message_hash_payload_type`: the digest a verifier signs. -/
def prefixedMessageHashPayloadType (payloadType : PayloadType) (message : Bytes32) : Bytes32 :=
  env.hashv [solanaOffchainPrefix, [payloadType.toByte], message.toList]

/-- Errors of the encoding crate. -/
inductive EncodingError
  | cannotMerklizeEmptyVerifierSet
  | cannotMerklizeEmptyMessageSet
  | setSizeTooLarge
  | ioError
  deriving DecidableEq, Repr

/-- `verifier_set::merkle_tree_leaves`: one leaf a signer, in key order. -/
def verifierSetLeaves (vs : VerifierSet) (domainSeparator : Bytes32) :
    Except EncodingError (List VerifierSetLeaf) := do
  Fallible.require (vs.signers.length < 2 ^ 16) .setSizeTooLarge
  let setSize := UInt16.ofNat vs.signers.length
  pure (vs.signers.mapIdx fun position signer =>
    { nonce := vs.nonce
      quorum := vs.quorum
      domainSeparator
      signerPubkey := signer.1
      signerWeight := signer.2
      position := UInt16.ofNat position
      setSize })

/-- `verifier_set_hash`: the root of the set's Merkle tree. -/
def verifierSetHash (vs : VerifierSet) (domainSeparator : Bytes32) :
    Except EncodingError Bytes32 := do
  let leaves ← verifierSetLeaves vs domainSeparator
  Fallible.okOr (env.merkleRoot (leaves.map (VerifierSetLeaf.hash env)))
    .cannotMerklizeEmptyVerifierSet

end AxelarSolana
