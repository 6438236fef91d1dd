import AxelarSolana.GasService.PayGas
import AxelarSolana.Its.State
import AxelarSolana.Solana.Token

/-! # The world of the interchain token service

What an instruction of the program is called with, reads and leaves:

* one record of accounts for each instruction, and **`ItsInstruction`** — an instruction with its
  accounts and arguments. Accounts with a constant address are left out.
* **`Chain`** — what the program sees of the chain outside its own accounts, and **`ExternalCall`**
  — what others do there.
* **`World`** — the program's accounts, the chain and the log: what the record of the committed
  transactions shows of the program's events and of the calls it made.
* **`Env`** — the code of other programs, as parameters.
* **`Ctx`** — what a handler is called with besides its accounts and arguments. -/

namespace AxelarSolana.Its

open Fallible

/-! ## Accounts of the instructions -/

/-- Accounts of `initialize`. -/
structure Initialize where
  payer : AccountInfo
  itsRootPda : Pubkey
  operator : AccountInfo
  userRolesAccount : Pubkey
  deriving DecidableEq

/-- Accounts of `set_pause_status`. -/
structure SetPauseStatus where
  payer : AccountInfo
  itsRootPda : Pubkey
  deriving DecidableEq

/-- Accounts of `set_trusted_chain`. `programData` says whether that optional account is passed:
its address is constant. -/
structure SetTrustedChain where
  payer : AccountInfo
  userRoles : Option Pubkey
  programData : Bool
  itsRootPda : Pubkey
  deriving DecidableEq

/-- Accounts of `remove_trusted_chain`. -/
abbrev RemoveTrustedChain := SetTrustedChain

/-- Accounts of `set_flow_limit`. -/
structure SetFlowLimit where
  payer : AccountInfo
  operator : AccountInfo
  itsRootPda : Pubkey
  itsRolesPda : Pubkey
  tokenManagerPda : Pubkey
  deriving DecidableEq

/-- Accounts of `transfer_operatorship`. -/
structure TransferOperatorship where
  payer : AccountInfo
  originUserAccount : AccountInfo
  originRolesAccount : Pubkey
  resourceAccount : Pubkey
  destinationUserAccount : Pubkey
  destinationRolesAccount : Pubkey
  deriving DecidableEq

/-- Accounts of `transfer_token_manager_operatorship`. -/
structure TransferTokenManagerOperatorship where
  payer : AccountInfo
  originUserAccount : AccountInfo
  originRolesAccount : Pubkey
  itsRootPda : Pubkey
  tokenManagerAccount : Pubkey
  destinationUserAccount : Pubkey
  destinationRolesAccount : Pubkey
  deriving DecidableEq

/-- Accounts of `transfer_interchain_token_mintership`. -/
structure TransferInterchainTokenMintership where
  payer : AccountInfo
  itsRootPda : Pubkey
  tokenManagerAccount : Pubkey
  senderUserAccount : AccountInfo
  senderRolesAccount : Pubkey
  destinationUserAccount : Pubkey
  destinationRolesAccount : Pubkey
  deriving DecidableEq

/-- Accounts of `add_token_manager_flow_limiter`. -/
structure AddTokenManagerFlowLimiter where
  payer : AccountInfo
  authorityUserAccount : AccountInfo
  authorityRolesAccount : Pubkey
  itsRootPda : Pubkey
  tokenManagerPda : Pubkey
  targetUserAccount : Pubkey
  targetRolesAccount : Pubkey
  deriving DecidableEq

/-- Accounts of `remove_token_manager_flow_limiter`. -/
abbrev RemoveTokenManagerFlowLimiter := AddTokenManagerFlowLimiter

/-- Accounts of `set_token_manager_flow_limit`. -/
structure SetTokenManagerFlowLimit where
  payer : AccountInfo
  flowLimiter : AccountInfo
  itsRootPda : Pubkey
  tokenManagerPda : Pubkey
  flowLimiterRolesPda : Pubkey
  deriving DecidableEq

/-- Accounts of `mint_interchain_token`. -/
structure MintInterchainToken where
  mint : Pubkey
  destinationAccount : Pubkey
  itsRootPda : Pubkey
  tokenManagerPda : Pubkey
  minter : AccountInfo
  minterRolesPda : Pubkey
  tokenProgram : Pubkey
  deriving DecidableEq

/-- Accounts of `handover_mint_authority`. -/
structure HandoverMintAuthority where
  payer : AccountInfo
  authority : AccountInfo
  mint : Pubkey
  itsRoot : Pubkey
  tokenManager : Pubkey
  minterRoles : Pubkey
  tokenProgram : Pubkey
  deriving DecidableEq

/-- Accounts of `deploy_interchain_token`. -/
structure DeployInterchainToken where
  payer : AccountInfo
  deployer : AccountInfo
  itsRootPda : Pubkey
  tokenManagerPda : Pubkey
  tokenMint : Pubkey
  tokenManagerAta : Pubkey
  tokenProgram : Pubkey
  mplTokenMetadataAccount : Pubkey
  deployerAta : Pubkey
  minter : Option Pubkey
  minterRolesPda : Option Pubkey
  deriving DecidableEq

/-- Accounts of `register_canonical_interchain_token`. -/
structure RegisterCanonicalInterchainToken where
  payer : AccountInfo
  metadataAccount : Pubkey
  itsRootPda : Pubkey
  tokenManagerPda : Pubkey
  tokenMint : Pubkey
  tokenManagerAta : Pubkey
  tokenProgram : Pubkey
  deriving DecidableEq

/-- Accounts of `register_custom_token`. -/
structure RegisterCustomToken where
  payer : AccountInfo
  deployer : AccountInfo
  itsRootPda : Pubkey
  tokenManagerPda : Pubkey
  tokenMint : Pubkey
  tokenManagerAta : Pubkey
  tokenProgram : Pubkey
  operator : Option Pubkey
  operatorRolesPda : Option Pubkey
  deriving DecidableEq

/-- Accounts of `deploy_remote_interchain_token`. -/
structure DeployRemoteInterchainToken where
  payer : AccountInfo
  deployer : AccountInfo
  tokenMint : Pubkey
  metadataAccount : Pubkey
  tokenManagerPda : Pubkey
  itsRootPda : Pubkey
  callContractSigningPda : Pubkey
  gasTreasury : Pubkey
  deriving DecidableEq

/-- Accounts of `deploy_remote_canonical_interchain_token`. -/
structure DeployRemoteCanonicalInterchainToken where
  payer : AccountInfo
  tokenMint : Pubkey
  metadataAccount : Pubkey
  tokenManagerPda : Pubkey
  itsRootPda : Pubkey
  callContractSigningPda : Pubkey
  gasTreasury : Pubkey
  deriving DecidableEq

/-- Accounts of `link_token`. -/
structure LinkToken where
  payer : AccountInfo
  deployer : AccountInfo
  itsRootPda : Pubkey
  tokenManagerPda : Pubkey
  callContractSigningPda : Pubkey
  gasTreasury : Pubkey
  deriving DecidableEq

/-- Accounts of `register_token_metadata`. -/
structure RegisterTokenMetadata where
  payer : AccountInfo
  tokenMint : Pubkey
  itsRootPda : Pubkey
  callContractSigningPda : Pubkey
  gasTreasury : Pubkey
  deriving DecidableEq

/-- Accounts of `interchain_transfer`. -/
structure InterchainTransfer where
  payer : AccountInfo
  authority : AccountInfo
  callContractSigningPda : Pubkey
  gasTreasury : Pubkey
  itsRootPda : Pubkey
  tokenManagerPda : Pubkey
  tokenProgram : Pubkey
  tokenMint : Pubkey
  authorityTokenAccount : Pubkey
  tokenManagerAta : Pubkey
  deriving DecidableEq

/-- Accounts of `execute`, with the remaining accounts that the relayer adds. -/
structure Execute where
  signingPda : AccountMeta
  payer : AccountMeta
  itsRootPda : AccountMeta
  tokenManagerPda : AccountMeta
  tokenMint : AccountMeta
  tokenManagerAta : AccountMeta
  tokenProgram : AccountMeta
  associatedTokenProgram : AccountMeta
  systemProgram : AccountMeta
  remainingAccounts : List AccountMeta
  deriving DecidableEq

/-- Accounts of `execute_interchain_transfer`. -/
structure ExecuteInterchainTransfer where
  payer : AccountMeta
  itsRootPda : AccountMeta
  destination : AccountMeta
  destinationTokenAuthority : AccountMeta
  destinationAta : AccountMeta
  tokenMint : AccountMeta
  tokenManagerPda : AccountMeta
  tokenManagerAta : AccountMeta
  tokenProgram : AccountMeta
  associatedTokenProgram : AccountMeta
  systemProgram : AccountMeta
  interchainTransferExecute : Option AccountMeta
  remainingAccounts : List AccountMeta
  deriving DecidableEq

/-- Accounts of `execute_deploy_interchain_token`. -/
structure ExecuteDeployInterchainToken where
  payer : AccountMeta
  systemProgram : AccountMeta
  itsRootPda : AccountMeta
  tokenManagerPda : AccountMeta
  tokenMint : AccountMeta
  tokenManagerAta : AccountMeta
  tokenProgram : AccountMeta
  associatedTokenProgram : AccountMeta
  sysvarInstructions : AccountMeta
  mplTokenMetadataProgram : AccountMeta
  mplTokenMetadataAccount : AccountMeta
  minter : Option AccountMeta
  minterRolesPda : Option AccountMeta
  deriving DecidableEq

/-- Accounts of `execute_link_token`. -/
structure ExecuteLinkToken where
  payer : AccountMeta
  systemProgram : AccountMeta
  itsRootPda : AccountMeta
  tokenManagerPda : AccountMeta
  tokenMint : AccountMeta
  tokenManagerAta : AccountMeta
  tokenProgram : AccountMeta
  associatedTokenProgram : AccountMeta
  operator : Option AccountMeta
  operatorRolesPda : Option AccountMeta
  deriving DecidableEq

/-- The accounts in the order in which the instruction lists them. -/
def Execute.metas (a : Execute) : List AccountMeta :=
  [a.signingPda, a.payer, a.itsRootPda, a.tokenManagerPda, a.tokenMint, a.tokenManagerAta,
    a.tokenProgram, a.associatedTokenProgram, a.systemProgram] ++ a.remainingAccounts

/-- The accounts in the order in which the instruction lists them. -/
def ExecuteInterchainTransfer.metas (a : ExecuteInterchainTransfer) : List AccountMeta :=
  [a.payer, a.itsRootPda, a.destination, a.destinationTokenAuthority, a.destinationAta,
    a.tokenMint, a.tokenManagerPda, a.tokenManagerAta, a.tokenProgram, a.associatedTokenProgram,
    a.systemProgram] ++ a.interchainTransferExecute.toList ++ a.remainingAccounts

/-- The accounts in the order in which the instruction lists them. -/
def ExecuteDeployInterchainToken.metas (a : ExecuteDeployInterchainToken) : List AccountMeta :=
  [a.payer, a.systemProgram, a.itsRootPda, a.tokenManagerPda, a.tokenMint, a.tokenManagerAta,
    a.tokenProgram, a.associatedTokenProgram, a.sysvarInstructions, a.mplTokenMetadataProgram,
    a.mplTokenMetadataAccount] ++ a.minter.toList ++ a.minterRolesPda.toList

/-- The accounts in the order in which the instruction lists them. -/
def ExecuteLinkToken.metas (a : ExecuteLinkToken) : List AccountMeta :=
  [a.payer, a.systemProgram, a.itsRootPda, a.tokenManagerPda, a.tokenMint, a.tokenManagerAta,
    a.tokenProgram, a.associatedTokenProgram] ++ a.operator.toList ++ a.operatorRolesPda.toList

/-! ## Instructions -/

/-- **An instruction of the program** with its accounts and arguments. -/
inductive ItsInstruction
  | initializeService (accounts : Initialize) (chainName itsHubAddress : String)
  | setPauseStatus (accounts : SetPauseStatus) (paused : Bool)
  | setTrustedChain (accounts : SetTrustedChain) (chainName : String)
  | removeTrustedChain (accounts : RemoveTrustedChain) (chainName : String)
  | deployInterchainToken (accounts : DeployInterchainToken) (salt : Bytes32)
      (name symbol : String) (decimals : UInt8) (initialSupply : UInt64)
  | deployRemoteInterchainToken (accounts : DeployRemoteInterchainToken) (salt : Bytes32)
      (destinationChain : String) (gasValue : UInt64)
  | registerTokenMetadata (accounts : RegisterTokenMetadata) (gasValue : UInt64)
  | registerCanonicalInterchainToken (accounts : RegisterCanonicalInterchainToken)
  | deployRemoteCanonicalInterchainToken (accounts : DeployRemoteCanonicalInterchainToken)
      (destinationChain : String) (gasValue : UInt64)
  | registerCustomToken (accounts : RegisterCustomToken) (salt : Bytes32)
      (tokenManagerType : TokenManagerType) (operator : Option Pubkey)
  | linkToken (accounts : LinkToken) (salt : Bytes32) (destinationChain : String)
      (destinationTokenAddress : Bytes) (tokenManagerType : TokenManagerType)
      (linkParams : Bytes) (gasValue : UInt64)
  | setFlowLimit (accounts : SetFlowLimit) (flowLimit : Option UInt64)
  | execute (accounts : Execute) (message : Message) (payload : Bytes)
  | executeDeployInterchainToken (accounts : ExecuteDeployInterchainToken) (tokenId : Bytes32)
      (name symbol : String) (decimals : UInt8) (minter : Bytes)
  | executeLinkToken (accounts : ExecuteLinkToken) (tokenId destinationTokenAddress : Bytes32)
      (tokenManagerType : UInt8) (linkParams : Bytes)
  | executeInterchainTransfer (accounts : ExecuteInterchainTransfer) (message : Message)
      (sourceChain : String) (sourceAddress : Bytes) (destinationAddress : Pubkey)
      (tokenId : Bytes32) (amount : UInt64) (data : Bytes)
  | interchainTransfer (accounts : InterchainTransfer) (tokenId : Bytes32)
      (destinationChain : String) (destinationAddress : Bytes) (amount gasValue : UInt64)
      (callerProgramId : Option Pubkey) (callerPdaSeeds : Option (List Bytes))
      (data : Option Bytes)
  | transferOperatorship (accounts : TransferOperatorship)
  | addTokenManagerFlowLimiter (accounts : AddTokenManagerFlowLimiter)
  | removeTokenManagerFlowLimiter (accounts : RemoveTokenManagerFlowLimiter)
  | setTokenManagerFlowLimit (accounts : SetTokenManagerFlowLimit) (flowLimit : Option UInt64)
  | transferTokenManagerOperatorship (accounts : TransferTokenManagerOperatorship)
  | mintInterchainToken (accounts : MintInterchainToken) (amount : UInt64)
  | handoverMintAuthority (accounts : HandoverMintAuthority) (tokenId : Bytes32)
  | transferInterchainTokenMintership (accounts : TransferInterchainTokenMintership)
  deriving DecidableEq

/-- The addresses that sign, of accounts given with their flags. -/
def signersOf (metas : List AccountMeta) : List Pubkey :=
  (metas.filter AccountMeta.isSigner).map AccountMeta.pubkey

/-- **The addresses whose signatures an instruction carries.** -/
def ItsInstruction.signers : ItsInstruction → List Pubkey
  | .initializeService a _ _ => signersOfInfos [a.payer, a.operator]
  | .setPauseStatus a _ => signersOfInfos [a.payer]
  | .setTrustedChain a _ => signersOfInfos [a.payer]
  | .removeTrustedChain a _ => signersOfInfos [a.payer]
  | .deployInterchainToken a _ _ _ _ _ => signersOfInfos [a.payer, a.deployer]
  | .deployRemoteInterchainToken a _ _ _ => signersOfInfos [a.payer, a.deployer]
  | .registerTokenMetadata a _ => signersOfInfos [a.payer]
  | .registerCanonicalInterchainToken a => signersOfInfos [a.payer]
  | .deployRemoteCanonicalInterchainToken a _ _ => signersOfInfos [a.payer]
  | .registerCustomToken a _ _ _ => signersOfInfos [a.payer, a.deployer]
  | .linkToken a _ _ _ _ _ _ => signersOfInfos [a.payer, a.deployer]
  | .setFlowLimit a _ => signersOfInfos [a.payer, a.operator]
  | .execute a _ _ => signersOf a.metas
  | .executeDeployInterchainToken a _ _ _ _ _ => signersOf a.metas
  | .executeLinkToken a _ _ _ _ => signersOf a.metas
  | .executeInterchainTransfer a _ _ _ _ _ _ _ => signersOf a.metas
  | .interchainTransfer a _ _ _ _ _ _ _ _ => signersOfInfos [a.payer, a.authority]
  | .transferOperatorship a => signersOfInfos [a.payer, a.originUserAccount]
  | .addTokenManagerFlowLimiter a => signersOfInfos [a.payer, a.authorityUserAccount]
  | .removeTokenManagerFlowLimiter a => signersOfInfos [a.payer, a.authorityUserAccount]
  | .setTokenManagerFlowLimit a _ => signersOfInfos [a.payer, a.flowLimiter]
  | .transferTokenManagerOperatorship a => signersOfInfos [a.payer, a.originUserAccount]
  | .mintInterchainToken a _ => signersOfInfos [a.minter]
  | .handoverMintAuthority a _ => signersOfInfos [a.payer, a.authority]
  | .transferInterchainTokenMintership a => signersOfInfos [a.payer, a.senderUserAccount]

/-- The signers are the keys of the metas with the signer flag. -/
theorem mem_signersOf {metas : List AccountMeta} {key : Pubkey} :
    key ∈ signersOf metas ↔ ∃ m ∈ metas, m.isSigner = true ∧ m.pubkey = key := by
  simp [signersOf, and_assoc]

/-! ## The chain outside the program -/

/-- **What the program sees of the chain** outside its own accounts: mints and token accounts, the
program that owns an account, the gateway and the gas service. -/
structure Chain where
  tokens : TokenState
  owner : Pubkey → Pubkey
  gateway : Gateway.GatewayState
  gas : GasService.GasState

/-- The addresses whose signatures an instruction of the gateway carries. -/
def gatewaySigners : Gateway.GatewayInstruction → List Pubkey
  | .callContract a _ _ _ _ => signersOfInfos (a.caller :: a.signingPda.toList)
  | .initializeConfig a _ => signersOfInfos [a.upgradeAuthority]
  | .validateMessage a _ => signersOfInfos [a.caller]
  | .rotateSigners a _ => signersOfInfos a.operator.toList
  | .transferOperatorship a => signersOfInfos [a.operatorOrUpgradeAuthority]
  | _ => []

/-- **Something others do**: call a token program or the gateway, or change what is not modelled
further. -/
inductive ExternalCall
  | tokens (instruction : TokenInstruction) (signers : List Pubkey)
  | gateway (call : Gateway.GatewayCall)
  | environment (owner : Pubkey → Pubkey) (gas : GasService.GasState)

/-- The addresses whose signatures an external call carries. -/
def ExternalCall.signers : ExternalCall → List Pubkey
  | .tokens _ signers => signers
  | .gateway call => gatewaySigners call.instruction
  | .environment _ _ => []

/-- **Whether an address may sign outside the program**: it is neither the program nor one of its
program-derived addresses, which sign only through its own `invoke_signed`. -/
def Deployment.SignsOutside (env : Deployment) (key : Pubkey) : Prop :=
  key ≠ env.itsId ∧ ∀ seeds, env.createProgramAddress seeds env.itsId ≠ some key

/-- `AxelarExecuteWithInterchainTokenPayload`. -/
structure AxelarExecuteWithInterchainTokenPayload where
  commandId : Bytes32
  sourceChain : String
  sourceAddress : Bytes
  tokenId : Bytes32
  tokenMint : Pubkey
  amount : UInt64
  data : Bytes
  deriving DecidableEq

/-- The instruction that calls a destination program. -/
structure DestinationCall where
  programId : Pubkey
  accounts : List AccountMeta
  executePayload : AxelarExecuteWithInterchainTokenPayload
  deriving DecidableEq

/-- **What a called program may do**: external calls that carry only signatures it was given and
signatures from outside. -/
def Deployment.CalledEffect (env : Deployment) (call : DestinationCall) : Type :=
  { calls : List ExternalCall //
    ∀ c ∈ calls, ∀ key ∈ c.signers, key ∈ signersOf call.accounts ∨ env.SignsOutside key }

/-- **The code of other programs**, on top of the deployment:

* `tokens` — what an instruction of a token program, of the associated token program or of the
  metadata program does, given the addresses that sign;
* `calculateEpochFee` — `TransferFeeConfig::calculate_epoch_fee`;
* `decodePayload` — `AxelarMessagePayload::decode`: the accounts and the payload without them;
* `destinationProgram` — what a program does that receives an interchain transfer with data. -/
structure Env extends Deployment where
  tokens : TokenInstruction → List Pubkey → TokenState → Except Error TokenState
  calculateEpochFee : TransferFeeConfig → UInt64 → UInt64 → Option UInt64
  decodePayload : Bytes → Except Error (List AccountMeta × Bytes)
  destinationProgram : (call : DestinationCall) → Chain →
    Except Error (toDeployment.CalledEffect call)

/-- **The effect of an external call.** -/
def ExternalCall.run (env : Env) (call : ExternalCall) (chain : Chain) : Except Error Chain :=
  match call with
  | .tokens instruction signers => do
    let tokens ← env.tokens instruction signers chain.tokens
    pure { chain with tokens }
  | .gateway call => do
    let gateway ← Gateway.process env.toEnv call chain.gateway
    pure { chain with gateway }
  | .environment owner gas => pure { chain with owner, gas }

/-! ## The log -/

/-- **Who called an instruction**: a transaction or another program, or `execute` with a message
and its payload. -/
inductive Invoker
  | external
  | execute (message : Message) (payload : Bytes)
  deriving DecidableEq

/-- **What the log records**: an event, a call of a token program with the state before and after
it, the creation of an account, a message sent to the hub or accepted from it, and the call of a
destination program. -/
inductive LogEvent
  | emitted (event : ItsEvent)
  | tokens (instruction : TokenInstruction) (before after : TokenState)
  | tokenManagerCreated (key : Pubkey) (tokenManager : TokenManager)
  | userRolesCreated (key resource user : Pubkey) (roles : UserRoles)
  | sent (message : Encoding.HubMessage)
  | accepted (sourceChain : String) (message : Encoding.Message)
  | destinationCalled (call : DestinationCall)

/-- **An entry of the log**: the event, the instruction that caused it and who called that. -/
structure LogEntry where
  event : LogEvent
  instruction : ItsInstruction
  invoker : Invoker

/-- **What a handler is called with** besides its accounts and arguments. -/
structure Ctx where
  sysvar : Sysvar
  invoker : Invoker
  instruction : ItsInstruction

/-! ## The world -/

/-- **The accounts owned by the program**, by address; `rootLen` is the allocated length of the
root account. -/
structure Accounts where
  root : Option InterchainTokenService
  rootLen : Nat
  tokenManagers : Pubkey → Option TokenManager
  userRoles : Pubkey → Option UserRoles

namespace Accounts

variable (accounts : Accounts)

/-- With another root account. -/
def setRoot (root : InterchainTokenService) (rootLen : Nat) : Accounts :=
  { accounts with
    root := some root
    rootLen }

/-- With another token manager. -/
def setTokenManager (key : Pubkey) (tokenManager : TokenManager) : Accounts :=
  { accounts with
    tokenManagers := Function.update accounts.tokenManagers key (some tokenManager) }

/-- With other roles, or none. -/
def setUserRoles (key : Pubkey) (roles : Option UserRoles) : Accounts :=
  { accounts with
    userRoles := Function.update accounts.userRoles key roles }

end Accounts

/-- **The world of the program.** -/
structure World where
  accounts : Accounts
  chain : Chain
  log : List LogEntry

namespace World

/-- Before `initialize`, on a chain without tokens. -/
def initial (owner : Pubkey → Pubkey) (gas : GasService.GasState) : World where
  accounts :=
    { root := none
      rootLen := 0
      tokenManagers := fun _ => none
      userRoles := fun _ => none }
  chain :=
    { tokens := TokenState.empty
      owner
      gateway := Gateway.GatewayState.initial
      gas }
  log := []

variable (s : World)

/-- Append an entry to the log. -/
def record (ctx : Ctx) (event : LogEvent) : World :=
  { s with log := s.log ++ [⟨event, ctx.instruction, ctx.invoker⟩] }

/-- `emit_cpi!`. -/
def emit (ctx : Ctx) (event : ItsEvent) : World := s.record ctx (.emitted event)

/-- Write the root account. -/
def setRoot (root : InterchainTokenService) (rootLen : Nat) : World :=
  { s with
    accounts := { s.accounts with
      root := some root
      rootLen } }

/-- Write a token manager account. -/
def setTokenManager (key : Pubkey) (tokenManager : TokenManager) : World :=
  { s with
    accounts := { s.accounts with
      tokenManagers := Function.update s.accounts.tokenManagers key (some tokenManager) } }

/-- Write or close a roles account. -/
def setUserRoles (key : Pubkey) (roles : Option UserRoles) : World :=
  { s with
    accounts := { s.accounts with
      userRoles := Function.update s.accounts.userRoles key roles } }

/-- Replace the chain. -/
def withChain (chain : Chain) : World := { s with chain }

/-- Create a token manager account. -/
def createTokenManager (ctx : Ctx) (key : Pubkey) (tokenManager : TokenManager) : World :=
  (s.record ctx (.tokenManagerCreated key tokenManager)).setTokenManager key tokenManager

/-- Create a roles account. -/
def createUserRoles (ctx : Ctx) (key resource user : Pubkey) (roles : UserRoles) : World :=
  (s.record ctx (.userRolesCreated key resource user roles)).setUserRoles key (some roles)

end World

end AxelarSolana.Its
