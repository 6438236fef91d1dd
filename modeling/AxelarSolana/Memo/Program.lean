import AxelarSolana.Gateway.Executable
import AxelarSolana.Its.Environment

/-! # The memo program

A program at the ends of the two protocols: messages and interchain transfers are addressed to it,
and it sends both.

* **`World`** — the counter account, and the world of the interchain token service.
* **`execute`** — receive a memo from the gateway.
* **`executeWithInterchainToken`** — receive a memo with tokens from the interchain token service.
* **`sendMemo`**, **`sendInterchainTransfer`** — the outbound instructions.
* **`process`** — the effect of one instruction. -/

namespace AxelarSolana.Memo

open Fallible

/-! ## Data -/

/-- **The parameters of the program**: those of the interchain token service, the address of the
program and the ABI crate. -/
structure Env where
  its : Its.Env
  memoId : Pubkey
  alloy : Gateway.Alloy

/-- `Counter`: how many memos have been received. -/
structure Counter where
  counter : UInt64
  bump : UInt8
  deriving DecidableEq

/-- `Counter::pda_seeds`. -/
def Counter.pdaSeeds : List Bytes := [Codec.utf8 "counter"]

/-- **The world of the program**: its counter account, and what it sees of the chain. -/
structure World where
  counter : Option Counter
  its : Its.World

namespace World

variable (w : World)

/-- The state of the gateway. -/
def gateway : Gateway.GatewayState := w.its.chain.gateway

/-- Write the counter account. -/
def setCounter (counter : Counter) : World := { w with counter := some counter }

/-- Replace the state of the gateway. -/
def setGateway (gateway : Gateway.GatewayState) : World :=
  { w with its := w.its.withChain { w.its.chain with gateway } }

/-- Replace the state of the token programs. -/
def setTokens (tokens : TokenState) : World :=
  { w with its := w.its.withChain { w.its.chain with tokens } }

/-- The gateway that was written. -/
@[simp] theorem gateway_setGateway (g : Gateway.GatewayState) : (w.setGateway g).gateway = g := rfl

/-- Writing the gateway leaves the counter. -/
@[simp] theorem counter_setGateway (g : Gateway.GatewayState) :
    (w.setGateway g).counter = w.counter := rfl

/-- Writing the counter leaves the gateway. -/
@[simp] theorem gateway_setCounter (c : Counter) : (w.setCounter c).gateway = w.gateway := rfl

/-- The counter that was written. -/
@[simp] theorem counter_setCounter (c : Counter) : (w.setCounter c).counter = some c := rfl

/-- Writing the tokens leaves the gateway. -/
@[simp] theorem gateway_setTokens (t : TokenState) : (w.setTokens t).gateway = w.gateway := rfl

/-- Writing the tokens leaves the counter. -/
@[simp] theorem counter_setTokens (t : TokenState) : (w.setTokens t).counter = w.counter := rfl

end World

/-! ## Accounts of the instructions -/

/-- Accounts of `init`. -/
structure Init where
  payer : AccountInfo
  counter : Pubkey
  deriving DecidableEq

/-- Accounts of `execute`; those of the program itself with their privileges, because the payload
commits to them. -/
structure Execute where
  executable : Gateway.Executable.AxelarExecuteAccounts
  counter : AccountMeta

/-- `to_account_metas`. -/
def Execute.toAccountMetas (a : Execute) : List AccountMeta :=
  a.executable.toAccountMetas ++ [a.counter]

/-- Accounts of `execute_with_interchain_token`: those of the interface, the counter, and the
remaining ones. -/
structure ExecuteWithInterchainToken where
  tokenProgram : Pubkey
  tokenMint : Pubkey
  destinationTokenAuthority : Pubkey
  destinationProgramAta : Pubkey
  interchainTransferExecute : AccountInfo
  counter : Pubkey
  remainingAccounts : List Pubkey
  deriving DecidableEq

/-- Accounts of `send_memo`. -/
structure SendMemo where
  signingPda : Pubkey
  deriving DecidableEq

/-- Accounts of `send_interchain_transfer`. -/
structure SendInterchainTransfer where
  payer : AccountInfo
  counter : Pubkey
  callContractSigningPda : Pubkey
  gasTreasury : Pubkey
  itsRootPda : Pubkey
  tokenManagerPda : Pubkey
  tokenProgram : Pubkey
  tokenMint : Pubkey
  counterPdaAta : Pubkey
  tokenManagerAta : Pubkey
  deriving DecidableEq

/-! ## Common parts -/

/-- Anchor's `mut` on an account that is not writable. -/
def constraintMut : Error := .custom 2000

variable (env : Env)

/-- `counter` with `seeds = [SEED_PREFIX], bump = counter.bump`. -/
def counterAccount (key : Pubkey) (w : World) : Except Error Counter := do
  let counter ← okOr w.counter (.anchor .accountNotInitialized)
  require (env.its.createProgramAddress (Counter.pdaSeeds ++ [[counter.bump]]) env.memoId
    = some key) (.anchor .constraintSeeds)
  pure counter

/-- `std::str::from_utf8`. -/
def fromUtf8 (payload : Bytes) : Except Error String :=
  okOr (Codec.ofUtf8 payload) (.program .invalidInstructionData)

/-- `counter += 1`, with overflow checks. -/
def Counter.increase (self : Counter) : Except Error Counter := do
  let counter ← okOr (checkedAdd self.counter 1) .panic
  pure { self with counter }

/-! ## Instructions -/

/-- `init`. -/
def init (a : Init) (w : World) : Except Error World := do
  Gateway.signer a.payer
  let bump ← env.its.initPda Counter.pdaSeeds env.memoId a.counter (w.counter = none)
  pure (w.setCounter ⟨0, bump⟩)

/-- The constraints of `AxelarExecuteAccounts`. -/
def executableAccounts (a : Gateway.Executable.AxelarExecuteAccounts) (message : Message)
    (w : World) : Except Error Unit := do
  let commandId := message.commandId env.its.toCrates
  let incoming ← w.gateway.loadIncoming commandId
  let config ← w.gateway.loadConfig
  require (env.its.createProgramAddress
    [Gateway.IncomingMessage.seedPrefix, commandId.toList, [incoming.bump]] env.its.gatewayId
    = some a.incomingMessagePda) (.anchor .constraintSeeds)
  require (env.its.createProgramAddress
    (Gateway.ValidateMessageSigner.pdaSeeds commandId ++ [[incoming.signingPdaBump]]) env.memoId
    = some a.signingPda) (.anchor .constraintSeeds)
  require (env.its.createProgramAddress [Gateway.GatewayConfig.seedPrefix, [config.bump]]
    env.its.gatewayId = some a.gatewayRootPda) (.anchor .constraintSeeds)

/-- **`execute`.** -/
def execute (sysvar : Sysvar) (a : Execute) (message : Message) (payload : Bytes)
    (encodingScheme : Gateway.EncodingScheme) (w : World) : Except Error World := do
  executableAccounts env a.executable message w
  let counter ← counterAccount env a.counter.pubkey w
  require a.counter.isWritable constraintMut
  let gateway ← Gateway.Executable.validateMessage env.its.toEnv env.alloy sysvar
    a.executable.signingPda a.toAccountMetas message payload encodingScheme w.gateway
  let _memo ← fromUtf8 payload
  let counter ← counter.increase
  pure ((w.setGateway gateway).setCounter counter)

/-- The constraints of `AxelarExecuteWithInterchainTokenAccounts`: the mint. -/
def executableWithInterchainTokenAccounts (a : ExecuteWithInterchainToken) (w : World) :
    Except Error Mint := do
  Its.tokenInterface env.its a.tokenProgram
  let mint ← Its.mintAccount a.tokenMint w.its
  let account ← Its.tokenAccount a.destinationProgramAta w.its
  Gateway.signer a.interchainTransferExecute
  require (mint.owner = a.tokenProgram) (.anchor .constraintMintTokenProgram)
  let authority ← env.its.findProgramAddress [Its.itsTokenAuthoritySeed] env.memoId
  require (a.destinationTokenAuthority = authority.1) (.anchor .constraintSeeds)
  require (account.authority = a.destinationTokenAuthority) (.anchor .constraintTokenOwner)
  let address ← Its.associatedTokenAddress env.its a.destinationTokenAuthority a.tokenMint
    a.tokenProgram
  require (a.destinationProgramAta = address) (.anchor .constraintAssociated)
  require (account.owner = a.tokenProgram) (.anchor .constraintTokenTokenProgram)
  let execute ← env.its.findProgramAddress (Its.InterchainTransferExecute.pdaSeeds env.memoId)
    env.its.itsId
  require (a.interchainTransferExecute.key = execute.1) (.anchor .constraintSeeds)
  pure mint

/-- **`execute_with_interchain_token`.** -/
def executeWithInterchainToken (a : ExecuteWithInterchainToken)
    (executePayload : Its.AxelarExecuteWithInterchainTokenPayload) (w : World) :
    Except Error World := do
  let mint ← executableWithInterchainTokenAccounts env a w
  let counter ← counterAccount env a.counter w
  let _memo ← fromUtf8 executePayload.data
  let counter ← counter.increase
  match a.remainingAccounts with
  | destinationAta :: _ => do
    -- Sign with the token authority PDA seeds
    let tokens ← env.its.tokens
      (.transferChecked a.tokenProgram a.destinationProgramAta a.tokenMint destinationAta
        a.destinationTokenAuthority executePayload.amount mint.decimals)
      [a.destinationTokenAuthority] w.its.chain.tokens
    pure ((w.setTokens tokens).setCounter counter)
  | [] => pure (w.setCounter counter)

/-- `emit_memo`: only logs. -/
def emitMemo (w : World) : Except Error World := pure w

/-- **`send_memo`.** The program calls the gateway with the signature of its call-contract
address. -/
def sendMemo (sysvar : Sysvar) (a : SendMemo) (destinationChain destinationAddress memo : String)
    (w : World) : Except Error World := do
  let found ← env.its.findProgramAddress [Gateway.CallContractSigner.seedPrefix] env.memoId
  require (a.signingPda = found.1) (.anchor .constraintSeeds)
  let gateway ← Gateway.process env.its.toEnv ⟨sysvar, .callContract
    ⟨⟨env.memoId, false⟩, some ⟨a.signingPda, true⟩⟩ destinationChain destinationAddress
    (Codec.utf8 memo) found.2⟩ w.gateway
  pure (w.setGateway gateway)

/-- **`send_interchain_transfer`.** The counter account sends tokens of its own; what it signs with,
its bump included, is also what the service is told about the sender. -/
def sendInterchainTransfer (sysvar : Sysvar) (a : SendInterchainTransfer) (tokenId : Bytes32)
    (destinationChain : String) (destinationAddress : Bytes) (amount gasValue : UInt64)
    (w : World) : Except Error World := do
  Gateway.signer a.payer
  let counter ← counterAccount env a.counter w
  let signerSeeds := Counter.pdaSeeds ++ [[counter.bump]]
  let instruction : Its.ItsInstruction := .interchainTransfer
    { payer := a.payer
      authority := ⟨a.counter, true⟩
      callContractSigningPda := a.callContractSigningPda
      gasTreasury := a.gasTreasury
      itsRootPda := a.itsRootPda
      tokenManagerPda := a.tokenManagerPda
      tokenProgram := a.tokenProgram
      tokenMint := a.tokenMint
      authorityTokenAccount := a.counterPdaAta
      tokenManagerAta := a.tokenManagerAta }
    tokenId destinationChain destinationAddress amount gasValue (some env.memoId)
    (some signerSeeds) none
  let its ← Its.process env.its ⟨sysvar, .external, instruction⟩ instruction w.its
  pure { w with its }

/-! ## The machine -/

/-- **An instruction of the program** with its accounts and arguments. -/
inductive MemoInstruction
  | init (a : Init)
  | execute (a : Execute) (message : Message) (payload : Bytes)
      (encodingScheme : Gateway.EncodingScheme)
  | executeWithInterchainToken (a : ExecuteWithInterchainToken)
      (executePayload : Its.AxelarExecuteWithInterchainTokenPayload)
  | emitMemo (message : String)
  | sendMemo (a : SendMemo) (destinationChain destinationAddress memo : String)
  | sendInterchainTransfer (a : SendInterchainTransfer) (tokenId : Bytes32)
      (destinationChain : String) (destinationAddress : Bytes) (amount gasValue : UInt64)

/-- **One instruction of the program.** -/
def process (sysvar : Sysvar) (instruction : MemoInstruction) (w : World) : Except Error World :=
  match instruction with
  | .init a => init env a w
  | .execute a message payload encodingScheme =>
    execute env sysvar a message payload encodingScheme w
  | .executeWithInterchainToken a executePayload =>
    executeWithInterchainToken env a executePayload w
  | .emitMemo _ => emitMemo w
  | .sendMemo a destinationChain destinationAddress memo =>
    sendMemo env sysvar a destinationChain destinationAddress memo w
  | .sendInterchainTransfer a tokenId destinationChain destinationAddress amount gasValue =>
    sendInterchainTransfer env sysvar a tokenId destinationChain destinationAddress amount gasValue
      w

end AxelarSolana.Memo
