import AxelarSolana.Governance.State

/-! # The instructions of governance

Every instruction of the governance program as a function from the world to the new world, with
Anchor's account handling made explicit: an `Account` is read once on entry, and one marked `mut`
is written back from that copy when the handler returns.

* the handlers, which take the program's own entry point as a parameter where they call it;
* **`invokeSigned`** — a cross-program call with the signature of `governance_config`: into
  governance itself, or into a program outside;
* **`process`** — one instruction, with the depth of nested calls as the recursion's measure;
* **`step`** — one committed call of a run: an instruction of governance, a call of the gateway, or
  a change of balances made by others. -/

namespace AxelarSolana.Governance

open Fallible

variable (env : Env)

/-! ## Account checks -/

/-- A `Signer` account. -/
def signer (account : AccountMeta) : Except Error Unit :=
  require account.isSigner (.anchor .accountNotSigner)

/-- The address of `governance_config` for a bump. -/
def configAddress (bump : UInt8) : Option Pubkey :=
  env.createProgramAddress [GovernanceConfig.seedPrefix, [bump]] env.governanceId

/-- Whether an address is one that `governance_config` can have. -/
def isConfigAddress (key : Pubkey) : Bool :=
  (List.range 256).any fun bump => configAddress env (UInt8.ofNat bump) = some key

/-- The seeds of `governance_config`, with the bump that it holds itself. -/
def governanceConfigSeeds (account : AccountMeta) (config : GovernanceConfig) :
    Except Error Unit :=
  require (configAddress env config.bump = some account.pubkey) (.anchor .constraintSeeds)

/-- `governance_config` with `seeds = [SEED_PREFIX], bump = governance_config.bump`. -/
def governanceConfigAccount (account : AccountMeta) (s : World) :
    Except Error GovernanceConfig := do
  let config ← s.loadConfig
  governanceConfigSeeds env account config
  pure config

/-- The seeds of a proposal, with the bump that it holds itself. -/
def proposalSeeds (account : AccountMeta) (hash : Bytes32) (proposal : ExecutableProposal) :
    Except Error Unit :=
  require (env.createProgramAddress (ExecutableProposal.pdaSeeds hash ++ [[proposal.bump]])
    env.governanceId = some account.pubkey) (.anchor .constraintSeeds)

/-- `proposal_pda` with `seeds = [SEED_PREFIX, hash], bump = proposal_pda.bump`. -/
def proposalAccount (account : AccountMeta) (hash : Bytes32) (s : World) :
    Except Error ExecutableProposal := do
  let proposal ← s.loadProposal hash
  proposalSeeds env account hash proposal
  pure proposal

/-- Anchor's `init`: the payer tops the account up to the rent-exempt balance. -/
def createAccount (payer key : Pubkey) (space : Nat) (s : World) : Except Error World := do
  let missing := env.minimumBalance space - s.lamports key
  require (missing ≤ s.lamports payer) (.custom 1)
  pure (s.moveLamports payer key missing)

/-- Anchor's `close`: the balance goes to the destination. -/
def closeAccount (key destination : Pubkey) (s : World) : World :=
  s.moveLamports key destination (s.lamports key)

/-! ## Administration -/

/-- `initialize_config`. -/
def initializeConfig (ctx : Ctx) (params : GovernanceConfigInit) (s : World) :
    Except Error World := do
  let payer ← ctx.account 0
  signer payer
  let upgradeAuthority ← ctx.account 1
  signer upgradeAuthority
  let account ← ctx.account 3
  -- the configuration is created before the constraint of `program_data` is checked
  let bump ← env.initPda [GovernanceConfig.seedPrefix] env.governanceId account.pubkey
    (s.accounts.config = none)
  let s ← createAccount env payer.pubkey account.pubkey GovernanceConfig.space s
  require (ctx.sysvar.upgradeAuthorityAddress env.governanceId = some upgradeAuthority.pubkey)
    GovernanceError.invalidUpgradeAuthority.err
  let config : GovernanceConfig :=
    { bump
      chainHash := params.chainHash
      addressHash := params.addressHash
      minimumProposalEtaDelay := params.minimumProposalEtaDelay
      operator := params.operator }
  config.validateConfig
  pure ((s.record ctx (.configInitialized config)).setConfig config)

/-- `update_config`. -/
def updateConfig (ctx : Ctx) (params : GovernanceConfigUpdate) (s : World) :
    Except Error World := do
  let operator ← ctx.account 0
  signer operator
  let account ← ctx.account 1
  let config ← s.loadConfig
  require (config.operator = operator.pubkey) GovernanceError.notOperator.err
  let found ← env.findProgramAddress [GovernanceConfig.seedPrefix] env.governanceId
  require (account.pubkey = found.1) (.anchor .constraintSeeds)
  let config' ← config.update params
  pure ((s.record ctx (.configUpdated config')).setConfig config')

/-- `transfer_operatorship`. The operator account is absent when its address is the program's;
without it `governance_config` itself must sign. -/
def transferOperatorship (ctx : Ctx) (newOperator : Bytes32) (s : World) :
    Except Error World := do
  let operatorAccount ← ctx.account 1
  let account ← ctx.account 2
  let config ← governanceConfigAccount env account s
  (if operatorAccount.pubkey = env.governanceId then
      require account.isSigner GovernanceError.missingRequiredSignature.err
    else do
      signer operatorAccount
      require (operatorAccount.pubkey = config.operator)
        GovernanceError.missingRequiredSignature.err)
  let oldOperator := config.operator
  let config' := { config with operator := newOperator }
  pure ((s.record ctx (.emitted
    (.operatorshipTransferred oldOperator.toList newOperator.toList))).setConfig config')

/-- `withdraw_tokens`. -/
def withdrawTokens (ctx : Ctx) (amount : UInt64) (s : World) : Except Error World := do
  let account ← ctx.account 1
  let config ← governanceConfigAccount env account s
  require account.isSigner (.anchor .constraintSigner)
  let receiver ← ctx.account 2
  require (amount.toNat ≤ s.lamports account.pubkey) (.program .insufficientFunds)
  let s' := (s.record ctx (.tokensWithdrawn receiver.pubkey amount)).moveLamports account.pubkey
    receiver.pubkey amount.toNat
  require (env.minimumBalance GovernanceConfig.space ≤ s'.lamports account.pubkey)
    (.program .invalidAccountData)
  pure (s'.setConfig config)

/-! ## Instructions behind the GMP entry point -/

/-- `at_least_default_eta_delay`. The clock is cast to an unsigned number. -/
def atLeastDefaultEtaDelay (sysvar : Sysvar) (proposalTime : UInt64) (minEtaDelay : UInt32) :
    Except Error UInt64 := do
  let now := sysvar.unixTimestamp.toUInt64
  require (now.toNat + minEtaDelay.toNat < 2 ^ 64) GovernanceError.arithmeticOverflow.err
  let minimumProposalEta := now + minEtaDelay.toUInt64
  pure (if proposalTime < minimumProposalEta then minimumProposalEta else proposalTime)

/-- `schedule_timelock_proposal`. -/
def scheduleTimelockProposal (ctx : Ctx) (proposalHash : Bytes32) (eta : UInt64)
    (nativeValue target callData : Bytes) (s : World) : Except Error World := do
  let account ← ctx.account 1
  let config ← s.loadConfig
  let payer ← ctx.account 2
  signer payer
  let proposalPda ← ctx.account 3
  -- the proposal is created before the constraints of the other accounts are checked
  let bump ← env.initPda (ExecutableProposal.pdaSeeds proposalHash) env.governanceId
    proposalPda.pubkey (s.accounts.proposals proposalHash = none)
  let s ← createAccount env payer.pubkey proposalPda.pubkey ExecutableProposal.space s
  governanceConfigSeeds env account config
  require account.isSigner (.anchor .constraintSigner)
  let managed ← env.findProgramAddress (OperatorProposal.pdaSeeds proposalHash) env.governanceId
  -- Enforce min delay
  let finalEta ← atLeastDefaultEtaDelay ctx.sysvar eta config.minimumProposalEtaDelay
  pure ((s.record ctx (.emitted
    (.proposalScheduled proposalHash target callData nativeValue finalEta))).setProposal
      proposalHash (some { eta := finalEta, bump, managedBump := managed.2 }))

/-- `cancel_timelock_proposal`. -/
def cancelTimelockProposal (ctx : Ctx) (proposalHash : Bytes32) (eta : UInt64)
    (nativeValue target callData : Bytes) (s : World) : Except Error World := do
  let account ← ctx.account 0
  let config ← governanceConfigAccount env account s
  require account.isSigner (.anchor .constraintSigner)
  let proposalPda ← ctx.account 1
  let proposal ← proposalAccount env proposalPda proposalHash s
  require (eta = proposal.eta) GovernanceError.invalidArgument.err
  let s := s.record ctx (.emitted
    (.proposalCancelled proposalHash target callData nativeValue eta))
  pure ((closeAccount proposalPda.pubkey account.pubkey (s.setConfig config)).setProposal
    proposalHash none)

/-- `approve_operator_proposal`. -/
def approveOperatorProposal (ctx : Ctx) (proposalHash : Bytes32)
    (nativeValue target callData : Bytes) (s : World) : Except Error World := do
  let payer ← ctx.account 1
  signer payer
  let account ← ctx.account 2
  let config ← s.loadConfig
  let proposalPda ← ctx.account 3
  let proposal ← s.loadProposal proposalHash
  let operatorProposalPda ← ctx.account 4
  -- the marker is created before the constraints of the other accounts are checked
  let bump ← env.initPda (OperatorProposal.pdaSeeds proposalHash) env.governanceId
    operatorProposalPda.pubkey (s.accounts.operatorProposals proposalHash = false)
  let s ← createAccount env payer.pubkey operatorProposalPda.pubkey OperatorProposal.space s
  governanceConfigSeeds env account config
  require account.isSigner (.anchor .constraintSigner)
  proposalSeeds env proposalPda proposalHash proposal
  require (proposal.managedBump = bump) GovernanceError.invalidArgument.err
  pure ((s.record ctx (.emitted
    (.operatorProposalApproved proposalHash target callData nativeValue))).setOperatorProposal
      proposalHash true)

/-- `cancel_operator_proposal`. -/
def cancelOperatorProposal (ctx : Ctx) (proposalHash : Bytes32)
    (nativeValue target callData : Bytes) (s : World) : Except Error World := do
  let account ← ctx.account 0
  let config ← governanceConfigAccount env account s
  require account.isSigner (.anchor .constraintSigner)
  let proposalPda ← ctx.account 1
  let proposal ← proposalAccount env proposalPda proposalHash s
  let operatorProposalPda ← ctx.account 2
  require (s.accounts.operatorProposals proposalHash = true) (.anchor .accountNotInitialized)
  require (env.createProgramAddress
      (OperatorProposal.pdaSeeds proposalHash ++ [[proposal.managedBump]]) env.governanceId
    = some operatorProposalPda.pubkey) (.anchor .constraintSeeds)
  let s := s.record ctx (.emitted
    (.operatorProposalCancelled proposalHash target callData nativeValue))
  pure ((closeAccount operatorProposalPda.pubkey account.pubkey
    (s.setConfig config)).setOperatorProposal proposalHash false)

/-! ## The GMP entry point -/

/-- `ensure_authorized_gmp_command`. -/
def ensureAuthorizedGmpCommand (config : GovernanceConfig) (message : Message) :
    Except Error Unit := do
  require (env.hashv [Codec.utf8 message.sourceAddress] = config.addressHash)
    GovernanceError.unauthorizedAddress.err
  require (env.hashv [Codec.utf8 message.ccId.chain] = config.chainHash)
    GovernanceError.unauthorizedChain.err

/-- `calculate_gmp_context`: the decoded payload and the proposal hash. -/
def calculateGmpContext (payload : Bytes) : Except Error
    (GovernanceCommandPayload × Pubkey × ExecuteProposalCallData × Bytes32) := do
  let cmdPayload ← okOr (env.abiDecode payload) (.program .invalidArgument)
  let target ← okOr ((Codec.fixed 32).decodeAll cmdPayload.target) (.program .invalidArgument)
  let executeProposalCallData ← okOr (ExecuteProposalCallData.codec.decodeAll cmdPayload.callData)
    (.program .invalidArgument)
  let proposalHash ← ExecutableProposal.calculateHash env.toSyscalls target
    executeProposalCallData (leBytes32 cmdPayload.nativeValue)
  pure (cmdPayload, target, executeProposalCallData, proposalHash)

/-- `extract_proposal_data`: the eta, native value, call data and target to pass on. -/
def extractProposalData (cmdPayload : GovernanceCommandPayload) :
    Except Error (UInt64 × Bytes × Bytes × Bytes) := do
  require (cmdPayload.eta.toNat < 2 ^ 64) GovernanceError.invalidInstructionData.err
  pure (UInt64.ofNat cmdPayload.eta.toNat, (leBytes32 cmdPayload.nativeValue).toList,
    cmdPayload.callData, cmdPayload.target)

/-- The accounts of `Execute` that the commands pass on. -/
structure ExecuteAccounts where
  systemProgram : AccountMeta
  payer : AccountMeta
  governanceConfig : AccountMeta
  proposalPda : AccountMeta
  operatorProposalPda : AccountMeta
  governanceEventAuthority : AccountMeta
  axelarGovernanceProgram : AccountMeta

/-- The program's own entry point, as a handler calls it. -/
abbrev Entry := Ctx → GovernanceInstruction → World → Except Error World

/-- `invoke_signed_with_governance_config`: call an own instruction for a message, with the
signature of `governance_config`. -/
def invokeSignedWithGovernanceConfig (invoke : Entry) (ctx : Ctx) (message : Message)
    (payload : Bytes) (accounts : List AccountMeta) (instruction : GovernanceInstruction)
    (s : World) : Except Error World :=
  invoke { sysvar := ctx.sysvar, invoker := .gmp message payload, accounts } instruction s

/-- `process_proposal_gmp`, with the function of each command. -/
def processProposalGmp (invoke : Entry) (ctx : Ctx) (message : Message) (payload : Bytes)
    (a : ExecuteAccounts) (proposalHash : Bytes32) (cmdPayload : GovernanceCommandPayload)
    (s : World) : Except Error World :=
  let config := { a.governanceConfig with isSigner := true }
  match cmdPayload.command with
  | .scheduleTimeLockProposal => do
    let (eta, nativeValue, callData, target) ← extractProposalData cmdPayload
    invokeSignedWithGovernanceConfig invoke ctx message payload
      [a.systemProgram, config, a.payer, a.proposalPda, a.governanceEventAuthority,
        a.axelarGovernanceProgram]
      (.scheduleTimelockProposal proposalHash eta nativeValue target callData) s
  | .cancelTimeLockProposal => do
    let (eta, nativeValue, callData, target) ← extractProposalData cmdPayload
    invokeSignedWithGovernanceConfig invoke ctx message payload
      [config, a.proposalPda, a.governanceEventAuthority, a.axelarGovernanceProgram]
      (.cancelTimelockProposal proposalHash eta nativeValue target callData) s
  | .approveOperatorProposal => do
    let (_, nativeValue, callData, target) ← extractProposalData cmdPayload
    invokeSignedWithGovernanceConfig invoke ctx message payload
      [a.systemProgram, a.payer, config, a.proposalPda, a.operatorProposalPda,
        a.governanceEventAuthority, a.axelarGovernanceProgram]
      (.approveOperatorProposal proposalHash nativeValue target callData) s
  | .cancelOperatorApproval => do
    let (_, nativeValue, callData, target) ← extractProposalData cmdPayload
    invokeSignedWithGovernanceConfig invoke ctx message payload
      [config, a.proposalPda, a.operatorProposalPda, a.governanceEventAuthority,
        a.axelarGovernanceProgram]
      (.cancelOperatorProposal proposalHash nativeValue target callData) s
  | .invalid => throw GovernanceError.invalidInstructionData.err

/-- `execute`: the GMP entry point. -/
def execute (invoke : Entry) (ctx : Ctx) (message : Message) (payload : Bytes) (s : World) :
    Except Error World := do
  let incoming ← s.gateway.loadIncoming (message.commandId env.toCrates)
  let signingPda ← ctx.account 1
  require (env.createProgramAddress (Gateway.ValidateMessageSigner.pdaSeeds
      (message.commandId env.toCrates) ++ [[incoming.signingPdaBump]]) env.governanceId
    = some signingPda.pubkey) (.anchor .constraintSeeds)
  let systemProgram ← ctx.account 5
  let payer ← ctx.account 6
  signer payer
  let governanceConfig ← ctx.account 7
  let config ← governanceConfigAccount env governanceConfig s
  let proposalPda ← ctx.account 8
  let operatorProposalPda ← ctx.account 9
  let governanceEventAuthority ← ctx.account 10
  let axelarGovernanceProgram ← ctx.account 11
  ensureAuthorizedGmpCommand env config message
  let gateway ← Gateway.validateMessageRaw env.toEnv ctx.sysvar signingPda.pubkey message payload
    s.gateway
  let (cmdPayload, _, _, proposalHash) ← calculateGmpContext env payload
  let s' ← processProposalGmp invoke ctx message payload
    { systemProgram, payer, governanceConfig, proposalPda, operatorProposalPda,
      governanceEventAuthority, axelarGovernanceProgram }
    proposalHash cmdPayload { s with gateway }
  pure (s'.setConfig config)

/-! ## Execution of proposals -/

/-- `checked_from_u256_le_bytes_to_u64`. -/
def checkedFromU256LeBytesToU64 (leU256 : Bytes32) : Except Error UInt64 := do
  require ((leU256.toList.drop 8).all fun byte => byte = 0)
    GovernanceError.invalidNativeValue.err
  pure (UInt64.ofNat (LittleEndian.decode (leU256.toList.take 8)))

/-- `get_account_metadata`. -/
def getAccountMetadata (data : ExecuteProposalData) : List AccountMeta :=
  data.callData.solanaAccounts.map fun metadata =>
    if metadata.isWritable && metadata.isSigner then ⟨metadata.pubkey, true, true⟩
    else if metadata.isWritable then ⟨metadata.pubkey, false, true⟩
    else if metadata.isSigner then ⟨metadata.pubkey, true, false⟩
    else ⟨metadata.pubkey, false, false⟩

/-- `check_governance_config_presence`. -/
def checkGovernanceConfigPresence (governanceConfigKey : Pubkey)
    (remainingAccounts : List AccountMeta) (solanaAccounts : List SolanaAccountMetadata) :
    Except Error Unit := do
  require (remainingAccounts.any fun account => account.pubkey = governanceConfigKey)
    GovernanceError.governanceConfigMissing.err
  require (solanaAccounts.any fun metadata => metadata.pubkey = governanceConfigKey)
    GovernanceError.governanceConfigMissing.err

/-- `check_target_program_presence`. -/
def checkTargetProgramPresence (remainingAccounts : List AccountMeta) (targetProgram : Pubkey) :
    Except Error Unit :=
  require (remainingAccounts.any fun account => account.pubkey = targetProgram)
    GovernanceError.invalidTargetProgram.err

/-- `manual_lamport_transfer`. -/
def manualLamportTransfer (data : ExecuteProposalData) (remainingAccounts : List AccountMeta)
    (nativeValue : UInt64) (governanceConfig : Pubkey) (s : World) : Except Error World := do
  let receiver ← okOr data.callData.solanaNativeValueReceiverAccount
    GovernanceError.missingNativeValueReceiver.err
  let target ← okOr (remainingAccounts.find? fun account => account.pubkey = receiver.pubkey)
    GovernanceError.targetAccountNotFound.err
  require (nativeValue.toNat ≤ s.lamports governanceConfig) (.program .insufficientFunds)
  pure (s.moveLamports governanceConfig target.pubkey nativeValue.toNat)

/-- `solana_program::instruction::Instruction`. -/
structure Instruction where
  programId : Pubkey
  accounts : List AccountMeta
  data : Bytes
  deriving DecidableEq

/-- A call into a program outside governance. It cannot debit `governance_config`, and it reaches
the gateway through the gateway's own instructions. -/
def invokeExternal (instruction : Instruction) (governanceConfig : Pubkey) (s : World) :
    Except Error World := do
  let effect ← env.externalProgram instruction.programId (mergePrivileges instruction.accounts)
    instruction.data s.lamports s.gateway
  require (s.lamports governanceConfig ≤ effect.lamports governanceConfig)
    (.program .invalidAccountData)
  let gateway ← effect.gatewayCalls.foldlM (fun gateway call =>
    Gateway.process env.toEnv call gateway) s.gateway
  pure { s with lamports := effect.lamports, gateway }

/-- **`invoke_signed`** with the seeds of `governance_config`, for the execution of a proposal. -/
def invokeSigned (invoke : Entry) (ctx : Ctx) (data : ExecuteProposalData)
    (instruction : Instruction) (accountInfos : List AccountMeta) (governanceConfig : Pubkey)
    (s : World) : Except Error World := do
  require (instruction.accounts.all fun m => accountInfos.any fun a => a.pubkey = m.pubkey)
    (.program .missingAccount)
  require (instruction.accounts.all fun m => hasPrivileges ctx.accounts governanceConfig m)
    (.program .missingRequiredSignature)
  if instruction.programId = env.governanceId then do
    let inner ← okOr (env.decodeInstruction instruction.data)
      (.anchor .instructionDidNotDeserialize)
    invoke
      { sysvar := ctx.sysvar
        invoker := .proposal data
        accounts := mergePrivileges instruction.accounts } inner s
  else invokeExternal env instruction governanceConfig s

/-- The instruction a proposal stands for. -/
def ExecuteProposalData.instruction (data : ExecuteProposalData) : Instruction where
  programId := data.targetAddress
  accounts := getAccountMetadata data
  data := data.callData.callData

/-- `execute_proposal_cpi`. -/
def executeProposalCpi (invoke : Entry) (ctx : Ctx) (data : ExecuteProposalData)
    (remainingAccounts : List AccountMeta) (governanceConfig : Pubkey) (s : World) :
    Except Error World := do
  let nativeValue ← checkedFromU256LeBytesToU64 data.nativeValue
  let s ← (if 0 < nativeValue then
      manualLamportTransfer data remainingAccounts nativeValue governanceConfig s
    else pure s)
  invokeSigned env invoke ctx data data.instruction remainingAccounts governanceConfig s

/-- `execute_timelock_proposal`. On exit `governance_config` is written back from the copy read on
entry, and the proposal is closed. -/
def executeTimelockProposal (invoke : Entry) (ctx : Ctx) (data : ExecuteProposalData)
    (s : World) : Except Error World := do
  let account ← ctx.account 1
  let config ← governanceConfigAccount env account s
  let proposalPda ← ctx.account 2
  let hash ← ExecutableProposal.hashFromData env.toSyscalls data
  let proposal ← proposalAccount env proposalPda hash s
  let timestamp ← okOr (tryIntoU64 ctx.sysvar.unixTimestamp) .panic
  require (proposal.eta ≤ timestamp) GovernanceError.proposalNotReady.err
  let remainingAccounts := ctx.accounts.drop 5
  checkGovernanceConfigPresence account.pubkey remainingAccounts data.callData.solanaAccounts
  checkTargetProgramPresence remainingAccounts data.targetAddress
  let s ← executeProposalCpi env invoke ctx data remainingAccounts account.pubkey
    (s.record ctx (.timelockBegan hash data))
  let s := s.record ctx (.emitted (.proposalExecuted hash data.targetAddress.toList
    data.callData.callData data.nativeValue.toList proposal.eta))
  pure ((closeAccount proposalPda.pubkey account.pubkey (s.setConfig config)).setProposal hash
    none)

/-- `execute_operator_proposal`. On exit `governance_config` is written back from the copy read on
entry, and the proposal and its operator marker are closed. -/
def executeOperatorProposal (invoke : Entry) (ctx : Ctx) (data : ExecuteProposalData)
    (s : World) : Except Error World := do
  let account ← ctx.account 1
  let config ← governanceConfigAccount env account s
  let proposalPda ← ctx.account 2
  let hash ← ExecutableProposal.hashFromData env.toSyscalls data
  let _proposal ← proposalAccount env proposalPda hash s
  let operator ← ctx.account 3
  signer operator
  require (operator.pubkey = config.operator) GovernanceError.unauthorizedOperator.err
  let marker ← ctx.account 4
  require (s.accounts.operatorProposals hash = true) (.anchor .accountNotInitialized)
  let found ← env.findProgramAddress (OperatorProposal.pdaSeeds hash) env.governanceId
  require (marker.pubkey = found.1) (.anchor .constraintSeeds)
  let remainingAccounts := ctx.accounts.drop 7
  checkGovernanceConfigPresence account.pubkey remainingAccounts data.callData.solanaAccounts
  checkTargetProgramPresence remainingAccounts data.targetAddress
  let s ← executeProposalCpi env invoke ctx data remainingAccounts account.pubkey
    (s.record ctx (.operatorBegan hash data))
  let s := s.record ctx (.emitted (.operatorProposalExecuted hash data.targetAddress.toList
    data.callData.callData data.nativeValue.toList))
  let s := closeAccount proposalPda.pubkey account.pubkey (s.setConfig config)
  pure ((closeAccount marker.pubkey account.pubkey (s.setProposal hash none)).setOperatorProposal
    hash false)

/-! ## The machine -/

/-- **One instruction of governance.** The first argument bounds the depth of nested calls. -/
def process : Nat → Ctx → GovernanceInstruction → World → Except Error World
  | 0, _, _, _ => throw .callDepth
  | depth + 1, ctx, instruction, s =>
    match instruction with
    | .initializeConfig params => initializeConfig env ctx params s
    | .updateConfig params => updateConfig env ctx params s
    | .execute message payload => execute env (process depth) ctx message payload s
    | .scheduleTimelockProposal hash eta nativeValue target callData =>
      scheduleTimelockProposal env ctx hash eta nativeValue target callData s
    | .cancelTimelockProposal hash eta nativeValue target callData =>
      cancelTimelockProposal env ctx hash eta nativeValue target callData s
    | .approveOperatorProposal hash nativeValue target callData =>
      approveOperatorProposal env ctx hash nativeValue target callData s
    | .cancelOperatorProposal hash nativeValue target callData =>
      cancelOperatorProposal env ctx hash nativeValue target callData s
    | .executeTimelockProposal data => executeTimelockProposal env (process depth) ctx data s
    | .executeOperatorProposal data => executeOperatorProposal env (process depth) ctx data s
    | .transferOperatorship newOperator => transferOperatorship env ctx newOperator s
    | .withdrawTokens amount => withdrawTokens env ctx amount s

/-- The runtime's bound on nested calls, the outermost instruction included. -/
def maxInstructionStackDepth : Nat := 5

/-- **A committed call of a run.** -/
inductive Call
  | governance (sysvar : Sysvar) (accounts : List AccountMeta)
      (instruction : GovernanceInstruction)
  | gateway (call : Gateway.GatewayCall)
  | balances (lamports : Pubkey → Nat)

/-- **One call.** From outside, `governance_config` never signs: it is an address of the program,
which signs only through the program's own `invoke_signed`. -/
def step (call : Call) (s : World) : Except Error World :=
  match call with
  | .governance sysvar accounts instruction => do
    require (accounts.all fun a => !a.isSigner || !isConfigAddress env a.pubkey)
      (.program .missingRequiredSignature)
    process env maxInstructionStackDepth ⟨sysvar, .external, mergePrivileges accounts⟩
      instruction s
  | .gateway call => do
    let gateway ← Gateway.process env.toEnv call s.gateway
    pure { s with gateway }
  | .balances lamports => pure { s with lamports }

/-! ## A concrete environment

An instance of the parameters in which runs can be evaluated, with one proposal: to make another
address the operator. -/

open Gateway (padTo)

/-- **A concrete environment**, on top of the gateway's. A payload is the command, the target, the
time and the call data, and `transfer_operatorship` is the only instruction that data decodes to. -/
def sampleEnv : Env where
  toEnv := Gateway.sampleEnv
  governanceId := padTo 32 (Codec.utf8 "gggggggggggggggggggggggggggggggg")
  abiDecode payload :=
    match payload with
    | [] => none
    | command :: arguments => some
      { command := match command with
          | 0 => .scheduleTimeLockProposal
          | 1 => .cancelTimeLockProposal
          | 2 => .approveOperatorProposal
          | 3 => .cancelOperatorApproval
          | _ => .invalid
        target := arguments.take 32
        callData := arguments.drop 40
        nativeValue := 0
        eta := BitVec.ofNat 256 (LittleEndian.decode ((arguments.drop 32).take 8)) }
  decodeInstruction data :=
    match data with
    | 0 :: newOperator => some (.transferOperatorship (padTo 32 newOperator))
    | _ => none
  minimumBalance _ := 0
  externalProgram _ _ _ lamports _ := .ok ⟨lamports, []⟩

/-- The address of `governance_config`. -/
def sampleConfigKey : Pubkey :=
  padTo 32 (GovernanceConfig.seedPrefix ++ 255 :: sampleEnv.governanceId.toList)

/-- The operator of the sample configuration. -/
def sampleOperator : Pubkey := padTo 32 [5]

/-- The proposal to make another address the operator. -/
def sampleProposal : ExecuteProposalData where
  targetAddress := sampleEnv.governanceId
  callData :=
    { solanaAccounts := [⟨padTo 32 [], false, false⟩, ⟨sampleEnv.governanceId, false, false⟩,
        ⟨sampleConfigKey, true, true⟩]
      solanaNativeValueReceiverAccount := none
      callData := [0, 6] }
  nativeValue := padTo 32 []

/-- The hash of the sample proposal. -/
def sampleHash : Bytes32 := sampleEnv.governanceId

/-- The address of an account of governance. -/
def sampleKey (seeds : List Bytes) : Pubkey :=
  padTo 32 ((seeds ++ [[255]]).flatten ++ sampleEnv.governanceId.toList)

/-- The payload of a command about a proposal. -/
def payloadOf (data : ExecuteProposalData) (command : UInt8) (eta : Nat) : Bytes :=
  command :: data.targetAddress.toList ++ LittleEndian.encode 8 eta ++
    (ExecuteProposalCallData.codec.encode data.callData).getD []

/-- The payload of a command about the sample proposal. -/
def samplePayload (command : UInt8) (eta : Nat) : Bytes := payloadOf sampleProposal command eta

/-- The chain at a time. -/
def sampleSysvarAt (time : Int64) : Sysvar where
  unixTimestamp := time
  epoch := 0
  upgradeAuthorityAddress := fun _ => some (padTo 32 [3])

/-- A message of the governance contract. -/
def sampleMessage (id : String) (payload : Bytes) : Message where
  ccId := ⟨"axelar", id⟩
  sourceAddress := "governance"
  destinationChain := "solana"
  destinationAddress := "gggggggggggggggggggggggggggggggg"
  payloadHash := sampleEnv.keccak payload

/-- The gateway and governance are initialised, and the sample set signs a payload. -/
def sampleStart : List Call :=
  [.gateway Gateway.sampleInitialize,
    .governance (sampleSysvarAt 100)
      [⟨padTo 32 [1], true, true⟩, ⟨padTo 32 [3], true, false⟩, ⟨padTo 32 [], false, false⟩,
        ⟨sampleConfigKey, false, true⟩]
      (.initializeConfig ⟨sampleEnv.hashv [Codec.utf8 "axelar"],
        sampleEnv.hashv [Codec.utf8 "governance"], 3600, sampleOperator⟩)] ++
  (Gateway.sampleSign Gateway.sampleLeafHash).map Call.gateway

/-- A payload about a proposal with the sample hash is approved at the gateway and executed. -/
def deliver (time : Int64) (id : String) (payload : Bytes) : List Call :=
  let message := sampleMessage id payload
  [.gateway (Gateway.sampleApprove message),
    .governance (sampleSysvarAt time)
      [⟨padTo 32 [], false, true⟩,
        ⟨sampleKey (Gateway.ValidateMessageSigner.pdaSeeds (message.commandId sampleEnv.toCrates)),
          false, false⟩,
        ⟨padTo 32 [], false, false⟩, ⟨padTo 32 [], false, false⟩, ⟨padTo 32 [], false, false⟩,
        ⟨padTo 32 [], false, false⟩, ⟨padTo 32 [1], true, true⟩, ⟨sampleConfigKey, false, true⟩,
        ⟨sampleKey (ExecutableProposal.pdaSeeds sampleHash), false, true⟩,
        ⟨sampleKey (OperatorProposal.pdaSeeds sampleHash), false, true⟩,
        ⟨padTo 32 [], false, false⟩, ⟨sampleEnv.governanceId, false, false⟩]
      (.execute message payload)]

/-- A command about the sample proposal is approved at the gateway and executed. -/
def sampleCommand (time : Int64) (id : String) (command : UInt8) (eta : Nat) : List Call :=
  deliver time id (samplePayload command eta)

/-- The accounts of the sample proposal's call, and its program. -/
def sampleRemaining : List AccountMeta :=
  [⟨padTo 32 [], false, false⟩, ⟨sampleEnv.governanceId, false, false⟩,
    ⟨sampleConfigKey, false, true⟩]

/-- The accounts with which a proposal of the sample hash is executed by timelock. -/
def timelockAccounts (remaining : List AccountMeta) : List AccountMeta :=
  [⟨padTo 32 [], false, false⟩, ⟨sampleConfigKey, false, true⟩,
    ⟨sampleKey (ExecutableProposal.pdaSeeds sampleHash), false, true⟩,
    ⟨padTo 32 [], false, false⟩, ⟨sampleEnv.governanceId, false, false⟩] ++ remaining

/-- The sample proposal is executed by timelock. -/
def sampleExecuteTimelock (time : Int64) : Call :=
  .governance (sampleSysvarAt time) (timelockAccounts sampleRemaining)
    (.executeTimelockProposal sampleProposal)

/-- The sample proposal is executed by the operator. -/
def sampleExecuteOperator (time : Int64) : Call :=
  .governance (sampleSysvarAt time)
    ([⟨padTo 32 [], false, false⟩, ⟨sampleConfigKey, false, true⟩,
      ⟨sampleKey (ExecutableProposal.pdaSeeds sampleHash), false, true⟩,
      ⟨sampleOperator, true, false⟩,
      ⟨sampleKey (OperatorProposal.pdaSeeds sampleHash), false, true⟩,
      ⟨padTo 32 [], false, false⟩, ⟨sampleEnv.governanceId, false, false⟩] ++ sampleRemaining)
    (.executeOperatorProposal sampleProposal)

end AxelarSolana.Governance
