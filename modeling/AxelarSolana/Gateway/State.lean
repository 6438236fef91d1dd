import AxelarSolana.AxelarStd.Types
import Mathlib.Logic.Function.Basic

/-! # Gateway accounts

The accounts owned by the gateway program. An account at a program-derived address is identified
by its seeds: there is one slot for each session key, tracker hash and command id, so a `seeds`
constraint compares the slot that was passed with the slot the seeds name.

* **`GatewayConfig`**, **`VerifierSetTracker`**, **`SignatureVerificationSessionData`**,
  **`IncomingMessage`** — the accounts, with the checks that only read them.
* **`GatewayEvent`** — the events emitted through `emit_cpi!`.
* **`GatewayState`** — all accounts of the program and the events emitted so far. -/

namespace AxelarSolana.Gateway

/-! ## Errors -/

/-- `GatewayError`, in the order of the source. -/
inductive GatewayError
  | verifierSetTooOld
  | epochCalculationOverflow
  | invalidDomainSeparator
  | signatureVerificationFailed
  | invalidMerkleProof
  | slotIsOutOfBounds
  | slotAlreadyVerified
  | invalidDigitalSignature
  | leafNodeNotPartOfMerkleRoot
  | invalidVerificationSessionPDA
  | signingSessionNotValid
  | invalidDestinationAddress
  | invalidVerifierSetTrackerPDA
  | messageNotApproved
  | invalidMessageHash
  | invalidSigningPDA
  | proofNotSignedByLatestVerifierSet
  | rotationCooldownNotDone
  | duplicateVerifierSetRotation
  | invalidVerifierSetTrackerProvided
  | invalidUpgradeAuthority
  | invalidLoaderContent
  | invalidLoaderState
  | invalidOperatorOrAuthorityAccount
  | callerNotSigner
  | unsupportedSignatureScheme
  | invalidSigningPDABump
  | invalidTimestamp
  | invalidEncodingScheme
  | borshSerializeError
  | borshDeserializeError
  | payloadAbiError
  deriving DecidableEq, Repr

/-- The error code Anchor assigns. -/
def GatewayError.err (e : GatewayError) : Error := .custom (6000 + e.ctorIdx)

/-! ## Configuration and trackers -/

/-- The gateway's root account. -/
structure GatewayConfig where
  currentEpoch : U256
  previousVerifierSetRetention : U256
  minimumRotationDelay : UInt64
  lastRotationTimestamp : UInt64
  operator : Pubkey
  domainSeparator : Bytes32
  bump : UInt8
  deriving DecidableEq

/-- `GatewayConfig::SEED_PREFIX`. -/
def GatewayConfig.seedPrefix : Bytes := Codec.utf8 "gateway"

/-- `GatewayConfig::assert_valid_epoch`. -/
def GatewayConfig.assertValidEpoch (self : GatewayConfig) (epoch : U256) : Except Error Unit := do
  let elapsed ← Fallible.okOr (U256.checkedSub self.currentEpoch epoch)
    GatewayError.epochCalculationOverflow.err
  Fallible.require (elapsed < self.previousVerifierSetRetention) GatewayError.verifierSetTooOld.err

/-- The record of an installed verifier set. -/
structure VerifierSetTracker where
  bump : UInt8
  epoch : U256
  verifierSetHash : Bytes32
  deriving DecidableEq

/-- `VerifierSetTracker::SEED_PREFIX`. -/
def VerifierSetTracker.seedPrefix : Bytes := Codec.utf8 "ver-set-tracker"

/-! ## Verification sessions -/

/-- **The progress of a session**: the accumulated threshold, one bit for each position whose
signature was accepted (bit `p` of the field is bit `p % 8` of byte `p / 8`), and the hash of the
set that signs. -/
structure SignatureVerification where
  accumulatedThreshold : U128
  signatureSlots : BitVec 256
  signingVerifierSetHash : Bytes32
  deriving DecidableEq

/-- `SignatureVerification::is_valid`. -/
def SignatureVerification.isValid (self : SignatureVerification) : Bool :=
  self.accumulatedThreshold = U128.max

/-- The session account of one payload root, payload type and signing set. -/
structure SignatureVerificationSessionData where
  signatureVerification : SignatureVerification
  bump : UInt8
  deriving DecidableEq

/-- `SignatureVerificationSessionData::is_valid`. -/
def SignatureVerificationSessionData.isValid (self : SignatureVerificationSessionData) : Bool :=
  self.signatureVerification.isValid

/-- `SignatureVerificationSessionData::SEED_PREFIX`. -/
def SignatureVerificationSessionData.seedPrefix : Bytes := Codec.utf8 "gtw-sig-verif"

/-- **The seeds of a session account.** -/
structure SessionKey where
  payloadMerkleRoot : Bytes32
  payloadType : PayloadType
  signingVerifierSetHash : Bytes32
  deriving DecidableEq

/-- `SignatureVerificationSessionData::pda_seeds`. -/
def SessionKey.pdaSeeds (k : SessionKey) : List Bytes :=
  [SignatureVerificationSessionData.seedPrefix, k.payloadMerkleRoot.toList,
    [k.payloadType.toByte], k.signingVerifierSetHash.toList]

/-! ## Incoming messages -/

/-- The status byte of a message: zero is approved, anything else executed. -/
structure MessageStatus where
  byte : UInt8
  deriving DecidableEq

namespace MessageStatus

/-- `MessageStatus::approved`. -/
def approved : MessageStatus := ⟨0⟩

/-- `MessageStatus::executed`. -/
def executed : MessageStatus := ⟨1⟩

/-- `MessageStatus::is_approved`. -/
def isApproved (self : MessageStatus) : Bool := self.byte = 0

/-- `MessageStatus::is_executed`. -/
def isExecuted (self : MessageStatus) : Bool := self.byte ≠ 0

/-- The approved status is approved. -/
@[simp] theorem isApproved_approved : approved.isApproved = true := rfl

/-- The executed status is not. -/
@[simp] theorem isApproved_executed : executed.isApproved = false := rfl

end MessageStatus

/-- The record of an approved message. -/
structure IncomingMessage where
  bump : UInt8
  signingPdaBump : UInt8
  status : MessageStatus
  messageHash : Bytes32
  payloadHash : Bytes32
  deriving DecidableEq

/-- `IncomingMessage::SEED_PREFIX`. -/
def IncomingMessage.seedPrefix : Bytes := Codec.utf8 "incoming message"

/-! ## Signing addresses of other programs -/

/-- `ValidateMessageSigner::SEED_PREFIX`. -/
def ValidateMessageSigner.seedPrefix : Bytes := Codec.utf8 "gtw-validate-msg"

/-- `ValidateMessageSigner::pda_seeds`. -/
def ValidateMessageSigner.pdaSeeds (commandId : Bytes32) : List Bytes :=
  [ValidateMessageSigner.seedPrefix, commandId.toList]

/-- `ValidateMessageSigner::find_pda`. -/
def ValidateMessageSigner.findPda (sys : Syscalls) (commandId : Bytes32) (programId : Pubkey) :
    Except Error (Pubkey × UInt8) :=
  sys.findProgramAddress (ValidateMessageSigner.pdaSeeds commandId) programId

/-- `ValidateMessageSigner::create_pda`. -/
def ValidateMessageSigner.createPda (sys : Syscalls) (commandId : Bytes32) (bump : UInt8)
    (programId : Pubkey) : Except Error Pubkey :=
  Fallible.okOr
    (sys.createProgramAddress (ValidateMessageSigner.pdaSeeds commandId ++ [[bump]]) programId)
    GatewayError.invalidSigningPDABump.err

/-- `CallContractSigner::SEED_PREFIX`. -/
def CallContractSigner.seedPrefix : Bytes := Codec.utf8 "gtw-call-contract"

/-- `CallContractSigner::create_pda`. -/
def CallContractSigner.createPda (sys : Syscalls) (bump : UInt8) (programId : Pubkey) :
    Except Error Pubkey :=
  Fallible.okOr (sys.createProgramAddress [CallContractSigner.seedPrefix, [bump]] programId)
    GatewayError.invalidSigningPDABump.err

/-! ## Events -/

structure MessageApprovedEvent where
  commandId : Bytes32
  destinationAddress : String
  payloadHash : Bytes32
  sourceChain : String
  ccId : String
  sourceAddress : String
  destinationChain : String
  deriving DecidableEq

structure MessageExecutedEvent where
  commandId : Bytes32
  destinationAddress : Pubkey
  payloadHash : Bytes32
  sourceChain : String
  ccId : String
  sourceAddress : String
  destinationChain : String
  deriving DecidableEq

structure VerifierSetRotatedEvent where
  epoch : U256
  verifierSetHash : Bytes32
  deriving DecidableEq

structure CallContractEvent where
  sender : Pubkey
  payloadHash : Bytes32
  destinationChain : String
  destinationContractAddress : String
  payload : Bytes
  deriving DecidableEq

structure OperatorshipTransferredEvent where
  newOperator : Bytes32
  deriving DecidableEq

/-- An event of the gateway. -/
inductive GatewayEvent
  | messageApproved (e : MessageApprovedEvent)
  | messageExecuted (e : MessageExecutedEvent)
  | verifierSetRotated (e : VerifierSetRotatedEvent)
  | callContract (e : CallContractEvent)
  | operatorshipTransferred (e : OperatorshipTransferredEvent)
  deriving DecidableEq

/-! ## The state of the program -/

/-- **All accounts of the gateway program**, and the events emitted so far, oldest first. -/
structure GatewayState where
  config : Option GatewayConfig
  trackers : Bytes32 → Option VerifierSetTracker
  sessions : SessionKey → Option SignatureVerificationSessionData
  incoming : Bytes32 → Option IncomingMessage
  events : List GatewayEvent

/-- **The parameters of the gateway**: third-party code and the address of the program. -/
structure Env extends Crates where
  gatewayId : Pubkey

namespace GatewayState

/-- Before `initialize_config` no account exists. -/
def initial : GatewayState where
  config := none
  trackers := fun _ => none
  sessions := fun _ => none
  incoming := fun _ => none
  events := []

variable (s : GatewayState)

/-- `gateway_root_pda.load()`. -/
def loadConfig : Except Error GatewayConfig :=
  Fallible.okOr s.config (.anchor .accountNotInitialized)

/-- `verifier_set_tracker_pda.load()`. -/
def loadTracker (h : Bytes32) : Except Error VerifierSetTracker :=
  Fallible.okOr (s.trackers h) (.anchor .accountNotInitialized)

/-- `verification_session_account.load()`. -/
def loadSession (k : SessionKey) : Except Error SignatureVerificationSessionData :=
  Fallible.okOr (s.sessions k) (.anchor .accountNotInitialized)

/-- `incoming_message_pda.load()`. -/
def loadIncoming (commandId : Bytes32) : Except Error IncomingMessage :=
  Fallible.okOr (s.incoming commandId) (.anchor .accountNotInitialized)

/-- Write a tracker account. -/
def setTracker (h : Bytes32) (t : VerifierSetTracker) : GatewayState :=
  { s with trackers := Function.update s.trackers h (some t) }

/-- Write a session account. -/
def setSession (k : SessionKey) (d : SignatureVerificationSessionData) : GatewayState :=
  { s with sessions := Function.update s.sessions k (some d) }

/-- Write an incoming message account. -/
def setIncoming (commandId : Bytes32) (m : IncomingMessage) : GatewayState :=
  { s with incoming := Function.update s.incoming commandId (some m) }

/-- `emit_cpi!`. -/
def emit (e : GatewayEvent) : GatewayState := { s with events := s.events ++ [e] }

variable {s}

/-- The configuration is loaded when it exists. -/
@[simp] theorem loadConfig_eq_ok {c : GatewayConfig} :
    s.loadConfig = .ok c ↔ s.config = some c := Fallible.okOr_eq_ok

/-- A tracker is loaded when it exists. -/
@[simp] theorem loadTracker_eq_ok {h : Bytes32} {t : VerifierSetTracker} :
    s.loadTracker h = .ok t ↔ s.trackers h = some t := Fallible.okOr_eq_ok

/-- A session is loaded when it exists. -/
@[simp] theorem loadSession_eq_ok {k : SessionKey} {d : SignatureVerificationSessionData} :
    s.loadSession k = .ok d ↔ s.sessions k = some d := Fallible.okOr_eq_ok

/-- The record of a message is loaded when it exists. -/
@[simp] theorem loadIncoming_eq_ok {c : Bytes32} {m : IncomingMessage} :
    s.loadIncoming c = .ok m ↔ s.incoming c = some m := Fallible.okOr_eq_ok

end GatewayState

end AxelarSolana.Gateway
