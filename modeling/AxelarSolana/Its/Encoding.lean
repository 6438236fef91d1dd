import AxelarSolana.Solana.Runtime

/-! # Hub messages

The messages exchanged with the ITS hub and their Borsh form. Each message type is a record with
its codec; the codec carries the proof that exactly the encodings are accepted, and that decoding
gives back what was encoded.

* **`InterchainTransfer`**, **`DeployInterchainToken`**, **`LinkToken`** — the three messages that
  travel between chains, and **`Message`**, their union.
* **`RegisterTokenMetadata`** — the message that stops at the hub.
* **`HubMessage`** — what is sent to the hub and received from it. -/

namespace AxelarSolana.Its.Encoding

open Codec (u64 bytes)

/-! ## Messages between chains -/

/-- Mirror of `interchain_token_service_std::InterchainTransfer`. -/
structure InterchainTransfer where
  tokenId : Bytes32
  sourceAddress : Bytes
  destinationAddress : Bytes
  amount : UInt64
  data : Option Bytes
  deriving DecidableEq

/-- Mirror of `interchain_token_service_std::DeployInterchainToken`. -/
structure DeployInterchainToken where
  tokenId : Bytes32
  name : String
  symbol : String
  decimals : UInt8
  minter : Option Bytes
  deriving DecidableEq

/-- Mirror of `interchain_token_service_std::LinkToken`. -/
structure LinkToken where
  tokenId : Bytes32
  tokenManagerType : UInt8
  sourceTokenAddress : Bytes
  destinationTokenAddress : Bytes
  params : Option Bytes
  deriving DecidableEq

/-- Mirror of `interchain_token_service_std::RegisterTokenMetadata`. -/
structure RegisterTokenMetadata where
  decimals : UInt8
  tokenAddress : Bytes
  deriving DecidableEq

/-- Mirror of `interchain_token_service_std::Message`. -/
inductive Message
  | interchainTransfer (transfer : InterchainTransfer)
  | deployInterchainToken (deploy : DeployInterchainToken)
  | linkToken (link : LinkToken)
  deriving DecidableEq

/-- The token that a message is about. -/
def Message.tokenId : Message → Bytes32
  | .interchainTransfer transfer => transfer.tokenId
  | .deployInterchainToken deploy => deploy.tokenId
  | .linkToken link => link.tokenId

/-- Mirror of `interchain_token_service_std::HubMessage`. -/
inductive HubMessage
  | sendToHub (destinationChain : String) (message : Message)
  | receiveFromHub (sourceChain : String) (message : Message)
  | registerTokenMetadata (metadata : RegisterTokenMetadata)
  deriving DecidableEq

/-! ## Borsh forms -/

/-- The Borsh form of a transfer. -/
def InterchainTransfer.codec : Codec InterchainTransfer :=
  ((Codec.fixed 32).pair (bytes.pair (bytes.pair (u64.pair (Codec.option bytes))))).refine
    (fun p => some ⟨p.1, p.2.1, p.2.2.1, p.2.2.2.1, p.2.2.2.2⟩)
    (fun t => (t.tokenId, t.sourceAddress, t.destinationAddress, t.amount, t.data)) (by
      rintro ⟨a, b, c, d, e⟩ ⟨a', b', c', d', e'⟩
      simp [eq_comm])

/-- The Borsh form of a deployment. -/
def DeployInterchainToken.codec : Codec DeployInterchainToken :=
  ((Codec.fixed 32).pair (Codec.string.pair (Codec.string.pair
    (Codec.byte.pair (Codec.option bytes))))).refine
    (fun p => some ⟨p.1, p.2.1, p.2.2.1, p.2.2.2.1, p.2.2.2.2⟩)
    (fun d => (d.tokenId, d.name, d.symbol, d.decimals, d.minter)) (by
      rintro ⟨a, b, c, d, e⟩ ⟨a', b', c', d', e'⟩
      simp [eq_comm])

/-- The Borsh form of a link. -/
def LinkToken.codec : Codec LinkToken :=
  ((Codec.fixed 32).pair (Codec.byte.pair (bytes.pair (bytes.pair (Codec.option bytes))))).refine
    (fun p => some ⟨p.1, p.2.1, p.2.2.1, p.2.2.2.1, p.2.2.2.2⟩)
    (fun l => (l.tokenId, l.tokenManagerType, l.sourceTokenAddress, l.destinationTokenAddress,
      l.params)) (by
      rintro ⟨a, b, c, d, e⟩ ⟨a', b', c', d', e'⟩
      simp [eq_comm])

/-- The Borsh form of a token's metadata. -/
def RegisterTokenMetadata.codec : Codec RegisterTokenMetadata :=
  (Codec.byte.pair bytes).refine (fun p => some ⟨p.1, p.2⟩) (fun r => (r.decimals, r.tokenAddress))
    (by
      rintro ⟨a, b⟩ ⟨a', b'⟩
      simp [eq_comm])

/-- The variant of an enumeration with three variants, by its discriminant. -/
def variant3 : Codec (Fin 3) :=
  Codec.byte.refine (fun b => if h : b.toNat < 3 then some ⟨b.toNat, h⟩ else none)
    (fun i => UInt8.ofNat i.1) (by
      intro b i
      constructor
      · intro h
        split at h
        · cases h
          exact UInt8.ofNat_toNat
        · cases h
      · rintro rfl
        have small : (UInt8.ofNat i.1).toNat = i.1 :=
          UInt8.toNat_ofNat_of_lt' (i.2.trans (by decide))
        rw [dif_pos (by rw [small]; exact i.2)]
        exact congrArg some (Fin.ext small))

/-- What the variants of a message hold. -/
def Message.Body : Fin 3 → Type
  | 0 => InterchainTransfer
  | 1 => DeployInterchainToken
  | 2 => LinkToken

/-- The Borsh form of a message. -/
def Message.codec : Codec Message :=
  (Codec.sigma variant3 (β := Message.Body) (fun i => match i with
      | 0 => InterchainTransfer.codec
      | 1 => DeployInterchainToken.codec
      | 2 => LinkToken.codec)).refine
    (fun p => match p with
      | ⟨0, t⟩ => some (.interchainTransfer t)
      | ⟨1, d⟩ => some (.deployInterchainToken d)
      | ⟨2, l⟩ => some (.linkToken l))
    (fun m => match m with
      | .interchainTransfer t => ⟨0, t⟩
      | .deployInterchainToken d => ⟨1, d⟩
      | .linkToken l => ⟨2, l⟩) (by
      rintro ⟨i, b⟩ m
      match i, b with
      | 0, t => cases m <;> constructor <;> rintro ⟨⟩ <;> rfl
      | 1, d => cases m <;> constructor <;> rintro ⟨⟩ <;> rfl
      | 2, l => cases m <;> constructor <;> rintro ⟨⟩ <;> rfl)

/-- What the variants of a hub message hold. -/
def HubMessage.Body : Fin 3 → Type
  | 0 => String × Message
  | 1 => String × Message
  | 2 => RegisterTokenMetadata

/-- The Borsh form of a hub message. -/
def HubMessage.codec : Codec HubMessage :=
  (Codec.sigma variant3 (β := HubMessage.Body) (fun i => match i with
      | 0 => Codec.string.pair Message.codec
      | 1 => Codec.string.pair Message.codec
      | 2 => RegisterTokenMetadata.codec)).refine
    (fun p => match p with
      | ⟨0, b⟩ => some (.sendToHub b.1 b.2)
      | ⟨1, b⟩ => some (.receiveFromHub b.1 b.2)
      | ⟨2, b⟩ => some (.registerTokenMetadata b))
    (fun m => match m with
      | .sendToHub chain message => ⟨0, (chain, message)⟩
      | .receiveFromHub chain message => ⟨1, (chain, message)⟩
      | .registerTokenMetadata metadata => ⟨2, metadata⟩) (by
      rintro ⟨i, b⟩ m
      match i, b with
      | 0, (chain, message) => cases m <;> constructor <;> rintro ⟨⟩ <;> rfl
      | 1, (chain, message) => cases m <;> constructor <;> rintro ⟨⟩ <;> rfl
      | 2, metadata => cases m <;> constructor <;> rintro ⟨⟩ <;> rfl)

end AxelarSolana.Its.Encoding
