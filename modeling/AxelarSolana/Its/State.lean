import AxelarSolana.Gateway.Instructions
import AxelarSolana.Its.Encoding

/-! # The accounts of the interchain token service

The data the program keeps in its own accounts, with the functions that only read or compute it:

* **`InterchainTokenService`** — the root account: the hub's address, the pause flag and the trusted
  chains.
* **`TokenManagerType`**, **`FlowState`**, **`TokenManager`** — the record of a token and the flow
  within an epoch.
* **`UserRoles`** — the roles a user has on the root or on a token manager.
* **`Deployment`** — the addresses and constants that a build of the program fixes, and the token
  ids derived from them.
* **`ItsEvent`** — the events emitted through `emit_cpi!`. -/

namespace AxelarSolana.Its

open Fallible

/-! ## Errors -/

/-- `ItsError`, in the order of the source. -/
inductive ItsError
  | paused
  | invalidAmount
  | invalidArgument
  | invalidInstructionData
  | invalidMetaplexDataAccount
  | minterNotProvided
  | minterRolesNotProvided
  | minterRolesPdaBumpNotProvided
  | operatorNotProvided
  | operatorRolesPdaNotProvided
  | invalidAccountData
  | untrustedSourceChain
  | untrustedDestinationChain
  | trustedChainAlreadySet
  | trustedChainNotSet
  | invalidSourceAddress
  | invalidDestinationChain
  | invalidDestinationAddress
  | invalidDestinationAddressAccount
  | interchainTransferExecutePdaMissing
  | zeroSupplyToken
  | tokenManagerMintExtensionMismatch
  | callerNotUserAccount
  | invalidTokenMint
  | tokenMintTokenManagerMissmatch
  | accountNotProvided
  | inconsistentSourceIdAndPdaSeeds
  | arithmeticOverflow
  | missingRequiredSignature
  | notEnoughAccountKeys
  | invalidTokenManagerType
  | serializationError
  | invalidDestinationTokenAuthority
  | missingMinterRole
  | missingOperatorRole
  | missingFlowLimiterRole
  | flowLimitExceeded
  deriving DecidableEq, Repr

/-- The error code Anchor assigns. -/
def ItsError.err (e : ItsError) : Error := .custom (6000 + e.ctorIdx)

/-! ## The root account -/

/-- `ITS_HUB_CHAIN_NAME`. -/
def itsHubChainName : String := "axelar"

/-- The length of an Anchor account's discriminator. -/
def discriminatorLength : Nat := 8

/-- **The root account.** -/
structure InterchainTokenService where
  itsHubAddress : String
  chainName : String
  paused : Bool
  trustedChains : List String
  bump : UInt8
  deriving DecidableEq

namespace InterchainTokenService

/-- `InterchainTokenService::SEED_PREFIX`. -/
def seedPrefix : Bytes := Codec.utf8 "interchain-token-service"

/-- `InterchainTokenService::pda_seeds`. -/
def pdaSeeds : List Bytes := [seedPrefix]

/-- `InterchainTokenService::space_for`. -/
def spaceFor (hubAddrLen chainNameLen trustedChainsTotalLen : Nat) : Nat :=
  discriminatorLength + (4 + hubAddrLen) + (4 + chainNameLen) + 1 + (4 + trustedChainsTotalLen) + 1

variable (self : InterchainTokenService)

/-- `InterchainTokenService::space`. -/
def space : Nat :=
  spaceFor self.itsHubAddress.utf8ByteSize self.chainName.utf8ByteSize
    (self.trustedChains.map fun chain => 4 + chain.utf8ByteSize).sum

/-- `InterchainTokenService::space_with_chain_added`. -/
def spaceWithChainAdded (chainName : String) : Nat := self.space + 4 + chainName.utf8ByteSize

/-- `InterchainTokenService::space_with_chain_removed`: the subtraction saturates. -/
def spaceWithChainRemoved (chainName : String) : Nat :=
  self.space - (4 + chainName.utf8ByteSize)

/-- `InterchainTokenService::new`. -/
def new (bump : UInt8) (chainName itsHubAddress : String) : InterchainTokenService where
  itsHubAddress
  chainName
  paused := false
  trustedChains := []
  bump

/-- `InterchainTokenService::is_trusted_chain`. -/
def isTrustedChain (chainName : String) : Bool :=
  self.trustedChains.any fun chain => chain = chainName

/-- `InterchainTokenService::add_trusted_chain`: neither a duplicate nor the hub is added. -/
def addTrustedChain (chainName : String) : InterchainTokenService :=
  if chainName ∉ self.trustedChains ∧ chainName ≠ itsHubChainName then
    { self with trustedChains := self.trustedChains ++ [chainName] }
  else self

/-- `InterchainTokenService::remove_trusted_chain`. -/
def removeTrustedChain (chainName : String) : InterchainTokenService :=
  { self with trustedChains := self.trustedChains.filter fun chain => chain ≠ chainName }

/-- The Borsh form of the root account. -/
def codec : Codec InterchainTokenService :=
  (Codec.string.pair (Codec.string.pair (Codec.bool.pair
    ((Codec.vec Codec.string).pair Codec.byte)))).refine
    (fun p => some ⟨p.1, p.2.1, p.2.2.1, p.2.2.2.1, p.2.2.2.2⟩)
    (fun r => (r.itsHubAddress, r.chainName, r.paused, r.trustedChains, r.bump)) (by
      rintro ⟨a, b, c, d, e⟩ ⟨a', b', c', d', e'⟩
      simp [eq_comm])

/-- `try_serialize` into an account of a length: fails when the data does not fit. -/
def trySerialize (dataLen : Nat) : Except Error Unit := do
  let bytes ← okOr (codec.encode self) (.anchor .accountDidNotSerialize)
  require (discriminatorLength + bytes.length ≤ dataLen) (.anchor .accountDidNotSerialize)

end InterchainTokenService

/-! ## Flow limits -/

/-- `FlowDirection`. -/
inductive FlowDirection
  | inward
  | outward
  deriving DecidableEq, Repr

/-- `FlowState`: the flow within an epoch. -/
structure FlowState where
  flowLimit : Option UInt64
  flowIn : UInt64
  flowOut : UInt64
  epoch : UInt64
  deriving DecidableEq

/-- `u64::abs_diff`. -/
def absDiff (a b : UInt64) : UInt64 := if a < b then b - a else a - b

namespace FlowState

/-- `FlowState::new`. -/
def new (flowLimit : Option UInt64) (epoch : UInt64) : FlowState where
  flowLimit
  flowIn := 0
  flowOut := 0
  epoch

/-- `FlowState::update_flow`: the new value of the sum that is added to. -/
def updateFlow (flowLimit toAdd toCompare amount : UInt64) : Except Error UInt64 := do
  -- Individual transfer amount cannot exceed the flow limit
  require (amount ≤ flowLimit) ItsError.flowLimitExceeded.err
  let newFlow ← okOr (checkedAdd toAdd amount) ItsError.arithmeticOverflow.err
  -- the limit is on the net amount transferred within the epoch
  let netFlow := absDiff newFlow toCompare
  require (netFlow ≤ flowLimit) ItsError.flowLimitExceeded.err
  pure newFlow

/-- `FlowState::add_flow`. -/
def addFlow (self : FlowState) (amount : UInt64) (direction : FlowDirection) :
    Except Error FlowState :=
  match self.flowLimit with
  | none => pure self
  | some flowLimit =>
    match direction with
    | .inward => do
      let flowIn ← updateFlow flowLimit self.flowIn self.flowOut amount
      pure { self with flowIn }
    | .outward => do
      let flowOut ← updateFlow flowLimit self.flowOut self.flowIn amount
      pure { self with flowOut }

end FlowState

/-- `EPOCH_TIME` in seconds: 6 hours. -/
def epochTime : UInt64 := 6 * 60 * 60

/-- `flow_epoch_with_timestamp`. -/
def flowEpochWithTimestamp (timestamp : Int64) : Except Error UInt64 := do
  let unixTimestamp ← okOr (tryIntoU64 timestamp) ItsError.arithmeticOverflow.err
  require (epochTime ≠ 0) ItsError.arithmeticOverflow.err
  pure (unixTimestamp / epochTime)

/-- `current_flow_epoch`. -/
def currentFlowEpoch (sysvar : Sysvar) : Except Error UInt64 :=
  flowEpochWithTimestamp sysvar.unixTimestamp

/-! ## Token managers -/

/-- `token_manager::Type`. -/
inductive TokenManagerType
  | nativeInterchainToken
  | mintBurnFrom
  | lockUnlock
  | lockUnlockFee
  | mintBurn
  deriving DecidableEq, Repr

namespace TokenManagerType

/-- `Type::try_from(u8)`. -/
def tryFrom (value : UInt8) : Option TokenManagerType :=
  match value with
  | 0 => some .nativeInterchainToken
  | 1 => some .mintBurnFrom
  | 2 => some .lockUnlock
  | 3 => some .lockUnlockFee
  | 4 => some .mintBurn
  | _ => none

/-- `u8::from(Type)`. -/
def toByte : TokenManagerType → UInt8
  | .nativeInterchainToken => 0
  | .mintBurnFrom => 1
  | .lockUnlock => 2
  | .lockUnlockFee => 3
  | .mintBurn => 4

/-- `Type::supports_mint_extensions`, for a mint with or without a transfer fee. -/
def supportsMintExtensions (self : TokenManagerType) (hasTransferFee : Bool) : Bool :=
  match self, hasTransferFee with
  | .lockUnlock, true | .lockUnlockFee, false => false
  | _, _ => true

end TokenManagerType

/-- `TokenManager`. -/
structure TokenManager where
  ty : TokenManagerType
  tokenId : Bytes32
  tokenAddress : Pubkey
  associatedTokenAccount : Pubkey
  flowSlot : FlowState
  bump : UInt8
  deriving DecidableEq

namespace TokenManager

/-- `TokenManager::SEED_PREFIX`. -/
def seedPrefix : Bytes := Codec.utf8 "token-manager"

/-- `TokenManager::pda_seeds`. -/
def pdaSeeds (tokenId : Bytes32) (itsRootPda : Pubkey) : List Bytes :=
  [seedPrefix, itsRootPda.toList, tokenId.toList]

/-- `INTERCHAIN_TOKEN_SEED`. -/
def interchainTokenSeed : Bytes := Codec.utf8 "interchain-token"

/-- The seeds of `TokenManager::find_token_mint`. -/
def tokenMintSeeds (tokenId : Bytes32) (itsRootPda : Pubkey) : List Bytes :=
  [interchainTokenSeed, itsRootPda.toList, tokenId.toList]

/-- `TokenManager::init_account`. -/
def initAccount (ty : TokenManagerType) (tokenId : Bytes32)
    (tokenAddress associatedTokenAccount : Pubkey) (bump : UInt8) : TokenManager where
  ty
  tokenId
  tokenAddress
  associatedTokenAccount
  flowSlot := FlowState.new none 0
  bump

/-- `track_token_flow`, of which the source has one copy for each direction: a change of epoch
resets both sums, then the amount is added. Without a limit nothing is tracked. -/
def trackFlow (self : TokenManager) (sysvar : Sysvar) (amount : UInt64)
    (direction : FlowDirection) : Except Error TokenManager :=
  if self.flowSlot.flowLimit = none then pure self
  else do
    let currentEpoch ← currentFlowEpoch sysvar
    let flowSlot := if self.flowSlot.epoch = currentEpoch then self.flowSlot
      else { self.flowSlot with flowIn := 0, flowOut := 0, epoch := currentEpoch }
    let flowSlot ← flowSlot.addFlow amount direction
    pure { self with flowSlot }

end TokenManager

/-- `InterchainTransferExecute::pda_seeds`. -/
def InterchainTransferExecute.pdaSeeds (destinationProgram : Pubkey) : List Bytes :=
  [Codec.utf8 "interchain-transfer-execute", destinationProgram.toList]

/-- `ITS_TOKEN_AUTHORITY_SEED`. -/
def itsTokenAuthoritySeed : Bytes := Codec.utf8 "axelar-its-token-authority"

/-! ## Roles -/

/-- `roles::MINTER`. -/
def roles.MINTER : UInt8 := 1

/-- `roles::OPERATOR`. -/
def roles.OPERATOR : UInt8 := 2

/-- `roles::FLOW_LIMITER`. -/
def roles.FLOW_LIMITER : UInt8 := 4

/-- `roles::EMPTY`. -/
def roles.EMPTY : UInt8 := 0

/-- `UserRoles`. -/
structure UserRoles where
  roles : UInt8
  bump : UInt8
  deriving DecidableEq

namespace UserRoles

/-- `UserRoles::SEED_PREFIX`. -/
def seedPrefix : Bytes := Codec.utf8 "user-roles"

/-- `UserRoles::pda_seeds`. -/
def pdaSeeds (resource user : Pubkey) : List Bytes :=
  [seedPrefix, resource.toList, user.toList]

variable (self : UserRoles)

/-- `UserRoles::contains`. -/
def contains (roles : UInt8) : Bool := self.roles &&& roles = roles

/-- `UserRoles::has_minter_role`. -/
def hasMinterRole : Bool := self.contains roles.MINTER

/-- `UserRoles::has_operator_role`. -/
def hasOperatorRole : Bool := self.contains roles.OPERATOR

/-- `UserRoles::has_flow_limiter_role`. -/
def hasFlowLimiterRole : Bool := self.contains roles.FLOW_LIMITER

/-- `UserRoles::has_roles`. -/
def hasRoles : Bool := self.roles ≠ roles.EMPTY

/-- `UserRoles::insert`. -/
def insert (newRoles : UInt8) : UserRoles := { self with roles := self.roles ||| newRoles }

/-- `UserRoles::remove`. -/
def remove (roles : UInt8) : UserRoles := { self with roles := self.roles &&& ~~~roles }

end UserRoles

/-! ## Deployments and token ids -/

/-- **What a build of the program fixes**, on top of the gateway's parameters: the addresses of the
programs it works with and the hash of the chain's name. -/
structure Deployment extends Gateway.Env where
  itsId : Pubkey
  chainNameHash : Bytes32
  gasServiceId : Pubkey
  tokenProgramId : Pubkey
  token2022ProgramId : Pubkey
  associatedTokenProgramId : Pubkey
  systemProgramId : Pubkey
  mplTokenMetadataId : Pubkey
  bpfLoaders : List Pubkey

namespace Deployment

variable (env : Deployment)

/-- `interchain_token_deployer_salt`. -/
def interchainTokenDeployerSalt (deployer : Pubkey) (salt : Bytes32) : Bytes32 :=
  env.hashv [Codec.utf8 "interchain-token-salt", env.chainNameHash.toList, deployer.toList,
    salt.toList]

/-- `interchain_token_id_internal`. -/
def interchainTokenIdInternal (salt : Bytes32) : Bytes32 :=
  env.hashv [Codec.utf8 "interchain-token-id", salt.toList]

/-- `interchain_token_id`. -/
def interchainTokenId (deployer : Pubkey) (salt : Bytes32) : Bytes32 :=
  env.interchainTokenIdInternal (env.interchainTokenDeployerSalt deployer salt)

/-- `canonical_interchain_token_deploy_salt`. -/
def canonicalInterchainTokenDeploySalt (mint : Pubkey) : Bytes32 :=
  env.hashv [Codec.utf8 "canonical-token-salt", env.chainNameHash.toList, mint.toList]

/-- `canonical_interchain_token_id`. -/
def canonicalInterchainTokenId (mint : Pubkey) : Bytes32 :=
  env.interchainTokenIdInternal (env.canonicalInterchainTokenDeploySalt mint)

/-- `linked_token_deployer_salt`. -/
def linkedTokenDeployerSalt (deployer : Pubkey) (salt : Bytes32) : Bytes32 :=
  env.hashv [Codec.utf8 "solana-custom-token-salt", env.chainNameHash.toList, deployer.toList,
    salt.toList]

end Deployment

/-! ## Names -/

/-- `str::is_char_boundary`, on the bytes of the string. -/
def isCharBoundary (b : Bytes) (i : Nat) : Bool :=
  match b[i]? with
  | some byte => i = 0 || byte < 0x80 || 0xC0 ≤ byte
  | none => i = b.length

/-- The loop of `truncate_utf8`: `cut -= 1` until a boundary is met, which panics below zero. -/
def charBoundaryFrom (b : Bytes) (cut : Nat) : Except Error Nat :=
  if isCharBoundary b cut then pure cut
  else match cut with
    | 0 => throw .panic
    | cut + 1 => charBoundaryFrom b cut

/-- `truncate_utf8`. `String::truncate` panics off a boundary. -/
def truncateUtf8 (s : String) (maxBytes : Nat) : Except Error String :=
  if s.utf8ByteSize ≤ maxBytes then pure s
  else do
    let cut ← charBoundaryFrom (Codec.utf8 s) maxBytes
    okOr (Codec.ofUtf8 ((Codec.utf8 s).take cut)) .panic

/-- `mpl_token_metadata::MAX_NAME_LENGTH`. -/
def maxNameLength : Nat := 32

/-- `mpl_token_metadata::MAX_SYMBOL_LENGTH`. -/
def maxSymbolLength : Nat := 10

/-! ## Events -/

structure InterchainTokenDeployed where
  tokenId : Bytes32
  tokenAddress : Pubkey
  name : String
  symbol : String
  decimals : UInt8
  minter : Option Pubkey
  deriving DecidableEq

structure TokenManagerDeployed where
  tokenId : Bytes32
  tokenManager : Pubkey
  tokenManagerType : UInt8
  params : Option Bytes
  deriving DecidableEq

structure InterchainTokenDeploymentStarted where
  tokenId : Bytes32
  destinationChain : String
  name : String
  symbol : String
  decimals : UInt8
  minter : Option Pubkey
  deriving DecidableEq

structure LinkTokenStarted where
  tokenId : Bytes32
  destinationChain : String
  sourceTokenAddress : Pubkey
  destinationTokenAddress : Bytes
  tokenManagerType : UInt8
  params : Option Bytes
  deriving DecidableEq

structure InterchainTransferReceived where
  commandId : Bytes32
  tokenId : Bytes32
  sourceChain : String
  sourceAddress : Bytes
  destinationAddress : Pubkey
  destinationTokenAccount : Pubkey
  amount : UInt64
  dataHash : Option Bytes32
  deriving DecidableEq

structure InterchainTransferSent where
  tokenId : Bytes32
  sourceAddress : Pubkey
  sourceTokenAccount : Pubkey
  destinationChain : String
  destinationAddress : Bytes
  amount : UInt64
  dataHash : Option Bytes32
  deriving DecidableEq

/-- An event of the program. -/
inductive ItsEvent
  | trustedChainSet (chainName : String)
  | trustedChainRemoved (chainName : String)
  | interchainTokenDeployed (e : InterchainTokenDeployed)
  | tokenManagerDeployed (e : TokenManagerDeployed)
  | interchainTokenDeploymentStarted (e : InterchainTokenDeploymentStarted)
  | tokenMetadataRegistered (tokenAddress : Pubkey) (decimals : UInt8)
  | linkTokenStarted (e : LinkTokenStarted)
  | flowLimitSet (tokenId : Bytes32) (operator : Pubkey) (flowLimit : Option UInt64)
  | interchainTransferReceived (e : InterchainTransferReceived)
  | interchainTransferSent (e : InterchainTransferSent)
  deriving DecidableEq

end AxelarSolana.Its
