import AxelarSolana.Its.Outbound

/-! # Messages from the hub

* **`executeInterchainTransfer`**, **`executeDeployInterchainToken`**, **`executeLinkToken`** — the
  three inner instructions, which anyone may call but only with the signature of the root account.
* **`execute`** — validate a message at the gateway, decode it and call one of the three, with that
  signature. -/

namespace AxelarSolana.Its

open Fallible

variable (env : Env)

/-! ## Common parts -/

/-- `its_root_pda` of an inner instruction: not paused, and it signs. -/
def signingRoot (account : AccountMeta) (s : World) : Except Error InterchainTokenService := do
  let root ← unpausedRoot env account.pubkey s
  -- important: only ITS can call this
  require account.isSigner (.anchor .constraintSigner)
  pure root

/-! ## Transfers -/

/-- `is_bpf_loader_owned`. -/
def isBpfLoaderOwned (owner : Pubkey) : Bool := owner ∈ env.bpfLoaders

/-- The authority of the account that receives for a destination: for a program an address of its
own, otherwise the destination itself. -/
def destinationAuthority (destination : Pubkey) (s : World) : Except Error Pubkey :=
  if isBpfLoaderOwned env (s.chain.owner destination) then do
    let found ← env.findProgramAddress [itsTokenAuthoritySeed] destination
    pure found.1
  else pure destination

/-- `check_destination_authority`. -/
def checkDestinationAuthority (destination destinationTokenAuthority : Pubkey) (s : World) :
    Except Error Unit := do
  let expectedAuthority ← destinationAuthority env destination s
  require (destinationTokenAuthority = expectedAuthority)
    ItsError.invalidDestinationTokenAuthority.err

/-- `handle_give_token_transfer`: the amount that arrives, and the world after the call of the
token program. -/
def handleGiveTokenTransfer (ctx : Ctx) (a : ExecuteInterchainTransfer)
    (tokenManager : TokenManager) (mint : Mint) (amount : UInt64) (s : World) :
    Except Error (UInt64 × World) := do
  let tracked ← tokenManager.trackFlow ctx.sysvar amount .inward
  let s := s.setTokenManager a.tokenManagerPda.pubkey tracked
  match tokenManager.ty with
  | .nativeInterchainToken | .mintBurn | .mintBurnFrom => do
    let s ← tokenCall env ctx
      (.mintTo a.tokenProgram.pubkey a.tokenMint.pubkey a.destinationAta.pubkey
        a.tokenManagerPda.pubkey amount) [a.tokenManagerPda.pubkey] s
    pure (amount, s)
  | .lockUnlock => do
    let decimals ← getMintDecimals mint
    let s ← tokenCall env ctx
      (.transferChecked a.tokenProgram.pubkey a.tokenManagerAta.pubkey a.tokenMint.pubkey
        a.destinationAta.pubkey a.tokenManagerPda.pubkey amount decimals)
      [a.tokenManagerPda.pubkey] s
    pure (amount, s)
  | .lockUnlockFee => do
    let (fee, decimals) ← getFeeAndDecimals env ctx.sysvar mint amount
    let s ← tokenCall env ctx
      (.transferCheckedWithFee a.tokenProgram.pubkey a.tokenManagerAta.pubkey a.tokenMint.pubkey
        a.destinationAta.pubkey a.tokenManagerPda.pubkey amount decimals fee)
      [a.tokenManagerPda.pubkey] s
    let transferred ← okOr (checkedSub amount fee) ItsError.arithmeticOverflow.err
    pure (transferred, s)

/-- `invoke_destination_program`. The program itself has no instruction that a transfer could
call. -/
def invokeDestinationProgram (ctx : Ctx) (a : ExecuteInterchainTransfer)
    (executePayload : AxelarExecuteWithInterchainTokenPayload) (s : World) :
    Except Error World := do
  let interchainTransferExecute ← okOr a.interchainTransferExecute
    ItsError.interchainTransferExecutePdaMissing.err
  let (destinationAccounts, data) ← env.decodePayload executePayload.data
  require (destinationAccounts.length = a.remainingAccounts.length) (.program .notEnoughAccountKeys)
  require (destinationAccounts = a.remainingAccounts) ItsError.invalidAccountData.err
  let call : DestinationCall :=
    { programId := a.destination.pubkey
      accounts := [⟨a.tokenProgram.pubkey, false, false⟩, ⟨a.tokenMint.pubkey, false, true⟩,
        ⟨a.destinationTokenAuthority.pubkey, false, false⟩, ⟨a.destinationAta.pubkey, false, true⟩,
        ⟨interchainTransferExecute.pubkey, true, false⟩] ++ destinationAccounts
      executePayload := { executePayload with data } }
  require (call.accounts.all (hasPrivileges a.metas interchainTransferExecute.pubkey))
    (.program .missingRequiredSignature)
  require (call.programId ≠ env.itsId) (.anchor .instructionFallbackNotFound)
  let effect ← env.destinationProgram call s.chain
  let chain ← effect.1.foldlM (fun chain external => external.run env chain) s.chain
  pure ((s.record ctx (.destinationCalled call)).withChain chain)

/-- `execute_interchain_transfer`. -/
def executeInterchainTransfer (ctx : Ctx) (a : ExecuteInterchainTransfer) (message : Message)
    (sourceChain : String) (sourceAddress : Bytes) (destinationAddress : Pubkey)
    (tokenId : Bytes32) (amount : UInt64) (data : Bytes) (s : World) : Except Error World := do
  signer a.payer
  tokenInterface env a.tokenProgram.pubkey
  let s ← associatedTokenAccountIfNeeded env ctx a.payer.pubkey a.destinationTokenAuthority.pubkey
    a.tokenMint.pubkey a.tokenProgram.pubkey a.destinationAta.pubkey s
  let _root ← signingRoot env a.itsRootPda s
  require (a.destination.pubkey = destinationAddress) ItsError.invalidDestinationAddressAccount.err
  let mint ← mintOfProgram a.tokenProgram.pubkey a.tokenMint.pubkey s
  let tokenManager ← tokenManagerPda env a.itsRootPda.pubkey tokenId a.tokenManagerPda.pubkey s
  require (tokenManager.tokenAddress = a.tokenMint.pubkey)
    ItsError.tokenMintTokenManagerMissmatch.err
  let _ata ← associatedTokenAccount env a.tokenManagerPda.pubkey a.tokenMint.pubkey
    a.tokenProgram.pubkey a.tokenManagerAta.pubkey s
  (match a.interchainTransferExecute with
    | some account => do
      let found ← env.findProgramAddress (InterchainTransferExecute.pdaSeeds a.destination.pubkey)
        env.itsId
      require (account.pubkey = found.1) (.anchor .constraintSeeds)
    | none => pure ())
  distinct [a.destinationAta.pubkey, a.tokenMint.pubkey, a.tokenManagerPda.pubkey,
    a.tokenManagerAta.pubkey]
  require (amount ≠ 0) ItsError.invalidAmount.err
  checkDestinationAuthority env a.destination.pubkey a.destinationTokenAuthority.pubkey s
  validateTokenManagerType tokenManager.ty mint a.tokenManagerPda.pubkey
  let (transferred, s) ← handleGiveTokenTransfer env ctx a tokenManager mint amount s
  let dataHash := if data = [] then none else some (env.keccak data)
  let s := s.emit ctx (.interchainTransferReceived
    ⟨message.commandId env.toCrates, tokenId, sourceChain, sourceAddress, destinationAddress,
      a.destinationAta.pubkey, transferred, dataHash⟩)
  if data = [] then pure s
  else
    invokeDestinationProgram env ctx a
      ⟨message.commandId env.toCrates, sourceChain, sourceAddress, tokenId, a.tokenMint.pubkey,
        transferred, data⟩ s

/-! ## Deployments -/

/-- `execute_deploy_interchain_token`, with `process_inbound_deploy`. -/
def executeDeployInterchainToken (ctx : Ctx) (a : ExecuteDeployInterchainToken)
    (tokenId : Bytes32) (name symbol : String) (decimals : UInt8) (minter : Bytes) (s : World) :
    Except Error World := do
  let minterKey := a.minter.map AccountMeta.pubkey
  let minterRolesKey := a.minterRolesPda.map AccountMeta.pubkey
  signer a.payer
  require (a.tokenProgram.pubkey = env.token2022ProgramId) (.program .incorrectProgramId)
  let bump ← newTokenManagerPda env a.itsRootPda.pubkey tokenId a.tokenManagerPda.pubkey s
  let s ← initMint env ctx a.itsRootPda.pubkey tokenId decimals a.tokenManagerPda.pubkey
    a.tokenProgram.pubkey a.tokenMint.pubkey s
  let s ← associatedTokenAccountIfNeeded env ctx a.payer.pubkey a.tokenManagerPda.pubkey
    a.tokenMint.pubkey a.tokenProgram.pubkey a.tokenManagerAta.pubkey s
  let rolesBump ← newUserRolesPdaIfGiven env a.tokenManagerPda.pubkey minterKey minterRolesKey
    .minterNotProvided s
  let _root ← signingRoot env a.itsRootPda s
  metadataAccount env a.tokenMint.pubkey a.mplTokenMetadataAccount.pubkey
  -- Truncate name and symbol for incoming deployments to prevent metadata CPI failure
  let name ← truncateUtf8 name maxNameLength
  let symbol ← truncateUtf8 symbol maxSymbolLength
  matchingUser List.Vector.toList (if minter = [] then none else some minter) minterKey
    minterRolesKey
  let s ← createTokenMetadata env ctx a.mplTokenMetadataAccount.pubkey a.tokenMint.pubkey
    a.tokenManagerPda.pubkey a.payer.pubkey name symbol s
  let s := s.createTokenManager ctx a.tokenManagerPda.pubkey
    (TokenManager.initAccount .nativeInterchainToken tokenId a.tokenMint.pubkey
      a.tokenManagerAta.pubkey bump)
  let s := s.createUserRolesIfGiven ctx a.tokenManagerPda.pubkey minterKey minterRolesKey rolesBump
    (roles.OPERATOR ||| roles.FLOW_LIMITER ||| roles.MINTER)
  let s := s.emit ctx (tokenManagerDeployedEvent a.tokenManagerPda.pubkey tokenId
    .nativeInterchainToken minterKey)
  pure (s.emit ctx (.interchainTokenDeployed
    ⟨tokenId, a.tokenMint.pubkey, name, symbol, decimals, minterKey⟩))

/-! ## Links -/

/-- `execute_link_token`. -/
def executeLinkToken (ctx : Ctx) (a : ExecuteLinkToken) (tokenId destinationTokenAddress : Bytes32)
    (tokenManagerType : UInt8) (linkParams : Bytes) (s : World) : Except Error World := do
  let operatorKey := a.operator.map AccountMeta.pubkey
  let operatorRolesKey := a.operatorRolesPda.map AccountMeta.pubkey
  signer a.payer
  tokenInterface env a.tokenProgram.pubkey
  let bump ← newTokenManagerPda env a.itsRootPda.pubkey tokenId a.tokenManagerPda.pubkey s
  let s ← associatedTokenAccountIfNeeded env ctx a.payer.pubkey a.tokenManagerPda.pubkey
    a.tokenMint.pubkey a.tokenProgram.pubkey a.tokenManagerAta.pubkey s
  let rolesBump ← newUserRolesPdaIfGiven env a.tokenManagerPda.pubkey operatorKey operatorRolesKey
    .operatorNotProvided s
  let _root ← signingRoot env a.itsRootPda s
  let mint ← mintOfProgram a.tokenProgram.pubkey a.tokenMint.pubkey s
  let ty ← okOr (TokenManagerType.tryFrom tokenManagerType) ItsError.invalidInstructionData.err
  require (ty ≠ .nativeInterchainToken) ItsError.invalidInstructionData.err
  -- verify that the provided token address matches the mint address
  require (destinationTokenAddress = a.tokenMint.pubkey) ItsError.invalidTokenMint.err
  let operator := bytes32FromSlice linkParams
  matchingUser id operator operatorKey operatorRolesKey
  validateMintExtension ty mint
  let s := s.createTokenManager ctx a.tokenManagerPda.pubkey
    (TokenManager.initAccount ty tokenId destinationTokenAddress a.tokenManagerAta.pubkey bump)
  let s := s.createUserRolesIfGiven ctx a.tokenManagerPda.pubkey operatorKey operatorRolesKey
    rolesBump (roles.OPERATOR ||| roles.FLOW_LIMITER)
  pure (s.emit ctx (tokenManagerDeployedEvent a.tokenManagerPda.pubkey tokenId ty operator))

/-! ## Inner accounts

The inner instructions name their accounts with the privileges that they declare; they see them
with the union of the privileges of all occurrences. An optional account is absent when it is the
program itself. -/

/-- An optional account. -/
def optionalAccount (account : Option AccountMeta) : Option AccountMeta :=
  account.filter fun m => m.pubkey ≠ env.itsId

/-- The accounts with an operation applied to each. -/
def ExecuteInterchainTransfer.map (f : AccountMeta → AccountMeta) (a : ExecuteInterchainTransfer) :
    ExecuteInterchainTransfer where
  payer := f a.payer
  itsRootPda := f a.itsRootPda
  destination := f a.destination
  destinationTokenAuthority := f a.destinationTokenAuthority
  destinationAta := f a.destinationAta
  tokenMint := f a.tokenMint
  tokenManagerPda := f a.tokenManagerPda
  tokenManagerAta := f a.tokenManagerAta
  tokenProgram := f a.tokenProgram
  associatedTokenProgram := f a.associatedTokenProgram
  systemProgram := f a.systemProgram
  interchainTransferExecute := a.interchainTransferExecute.map f
  remainingAccounts := a.remainingAccounts.map f

/-- The accounts with an operation applied to each. -/
def ExecuteDeployInterchainToken.map (f : AccountMeta → AccountMeta)
    (a : ExecuteDeployInterchainToken) : ExecuteDeployInterchainToken where
  payer := f a.payer
  systemProgram := f a.systemProgram
  itsRootPda := f a.itsRootPda
  tokenManagerPda := f a.tokenManagerPda
  tokenMint := f a.tokenMint
  tokenManagerAta := f a.tokenManagerAta
  tokenProgram := f a.tokenProgram
  associatedTokenProgram := f a.associatedTokenProgram
  sysvarInstructions := f a.sysvarInstructions
  mplTokenMetadataProgram := f a.mplTokenMetadataProgram
  mplTokenMetadataAccount := f a.mplTokenMetadataAccount
  minter := a.minter.map f
  minterRolesPda := a.minterRolesPda.map f

/-- The accounts with an operation applied to each. -/
def ExecuteLinkToken.map (f : AccountMeta → AccountMeta) (a : ExecuteLinkToken) :
    ExecuteLinkToken where
  payer := f a.payer
  systemProgram := f a.systemProgram
  itsRootPda := f a.itsRootPda
  tokenManagerPda := f a.tokenManagerPda
  tokenMint := f a.tokenMint
  tokenManagerAta := f a.tokenManagerAta
  tokenProgram := f a.tokenProgram
  associatedTokenProgram := f a.associatedTokenProgram
  operator := a.operator.map f
  operatorRolesPda := a.operatorRolesPda.map f

/-- A read-only account that does not sign. -/
def readonly (m : AccountMeta) : AccountMeta := ⟨m.pubkey, false, false⟩

/-- A writable account that does not sign. -/
def writable (m : AccountMeta) : AccountMeta := ⟨m.pubkey, false, true⟩

/-- The check of `invoke_signed_with_its_root_pda`: the root account's signature is added to the
privileges that the accounts of `execute` have. -/
def invokeSignedWithItsRootPda (a : Execute) (metas : List AccountMeta) : Except Error Unit :=
  require (metas.all (hasPrivileges a.metas a.itsRootPda.pubkey))
    (.program .missingRequiredSignature)

/-- `cpi_execute_interchain_transfer`. -/
def cpiExecuteInterchainTransfer (ctx : Ctx) (a : Execute) (transfer : Encoding.InterchainTransfer)
    (message : Message) (payload : Bytes) (sourceChain : String) (s : World) :
    Except Error World := do
  let destinationAddress ← okOr (bytes32FromSlice transfer.destinationAddress)
    ItsError.invalidAccountData.err
  let data := transfer.data.getD []
  match a.remainingAccounts with
  | destination :: destinationTokenAuthority :: destinationAta :: remaining => do
    let declared : ExecuteInterchainTransfer :=
      { payer := ⟨a.payer.pubkey, true, true⟩
        itsRootPda := ⟨a.itsRootPda.pubkey, true, false⟩
        destination := readonly destination
        destinationTokenAuthority := readonly destinationTokenAuthority
        destinationAta := writable destinationAta
        tokenMint := writable a.tokenMint
        tokenManagerPda := writable a.tokenManagerPda
        tokenManagerAta := writable a.tokenManagerAta
        tokenProgram := readonly a.tokenProgram
        associatedTokenProgram := readonly a.associatedTokenProgram
        systemProgram := readonly a.systemProgram
        interchainTransferExecute := optionalAccount env (remaining.head?.map readonly)
        -- Optional destination program custom accounts
        remainingAccounts := remaining.tail }
    invokeSignedWithItsRootPda a declared.metas
    let accounts := declared.map (unionPrivileges declared.metas)
    executeInterchainTransfer env
      ⟨ctx.sysvar, .execute message payload, .executeInterchainTransfer accounts message sourceChain
        transfer.sourceAddress destinationAddress transfer.tokenId transfer.amount data⟩
      accounts message sourceChain transfer.sourceAddress destinationAddress transfer.tokenId
      transfer.amount data s
  | _ => throw ItsError.accountNotProvided.err

/-- `cpi_execute_deploy_interchain_token`. -/
def cpiExecuteDeployInterchainToken (ctx : Ctx) (a : Execute)
    (deploy : Encoding.DeployInterchainToken) (message : Message) (payload : Bytes) (s : World) :
    Except Error World :=
  match a.remainingAccounts with
  | sysvarInstructions :: mplTokenMetadataProgram :: mplTokenMetadataAccount :: remaining => do
    let declared : ExecuteDeployInterchainToken :=
      { payer := ⟨a.payer.pubkey, true, true⟩
        systemProgram := readonly a.systemProgram
        itsRootPda := ⟨a.itsRootPda.pubkey, true, false⟩
        tokenManagerPda := writable a.tokenManagerPda
        tokenMint := writable a.tokenMint
        tokenManagerAta := writable a.tokenManagerAta
        tokenProgram := readonly a.tokenProgram
        associatedTokenProgram := readonly a.associatedTokenProgram
        sysvarInstructions := readonly sysvarInstructions
        mplTokenMetadataProgram := readonly mplTokenMetadataProgram
        mplTokenMetadataAccount := writable mplTokenMetadataAccount
        minter := optionalAccount env (remaining.head?.map readonly)
        minterRolesPda := optionalAccount env (remaining.tail.head?.map writable) }
    invokeSignedWithItsRootPda a declared.metas
    let accounts := declared.map (unionPrivileges declared.metas)
    let minter := deploy.minter.getD []
    executeDeployInterchainToken env
      ⟨ctx.sysvar, .execute message payload, .executeDeployInterchainToken accounts deploy.tokenId
        deploy.name deploy.symbol deploy.decimals minter⟩
      accounts deploy.tokenId deploy.name deploy.symbol deploy.decimals minter s
  | _ => throw ItsError.accountNotProvided.err

/-- `cpi_execute_link_token`. -/
def cpiExecuteLinkToken (ctx : Ctx) (a : Execute) (link : Encoding.LinkToken) (message : Message)
    (payload : Bytes) (s : World) : Except Error World := do
  let destinationTokenAddress ← okOr (bytes32FromSlice link.destinationTokenAddress)
    ItsError.invalidAccountData.err
  let linkParams := link.params.getD []
  let declared : ExecuteLinkToken :=
    { payer := ⟨a.payer.pubkey, true, true⟩
      systemProgram := readonly a.systemProgram
      itsRootPda := ⟨a.itsRootPda.pubkey, true, false⟩
      tokenManagerPda := writable a.tokenManagerPda
      tokenMint := readonly a.tokenMint
      tokenManagerAta := writable a.tokenManagerAta
      tokenProgram := readonly a.tokenProgram
      associatedTokenProgram := readonly a.associatedTokenProgram
      operator := optionalAccount env (a.remainingAccounts.head?.map readonly)
      operatorRolesPda := optionalAccount env (a.remainingAccounts.tail.head?.map writable) }
  invokeSignedWithItsRootPda a declared.metas
  let accounts := declared.map (unionPrivileges declared.metas)
  executeLinkToken env
    ⟨ctx.sysvar, .execute message payload, .executeLinkToken accounts link.tokenId
      destinationTokenAddress link.tokenManagerType linkParams⟩
    accounts link.tokenId destinationTokenAddress link.tokenManagerType linkParams s

/-! ## Execute -/

/-- The call of the inner instruction that a message stands for. -/
def dispatch (ctx : Ctx) (a : Execute) (message : Message) (payload : Bytes)
    (sourceChain : String) (inner : Encoding.Message) (s : World) : Except Error World :=
  match inner with
  | .interchainTransfer transfer =>
    cpiExecuteInterchainTransfer env ctx a transfer message payload sourceChain s
  | .deployInterchainToken deploy => cpiExecuteDeployInterchainToken env ctx a deploy message payload s
  | .linkToken link => cpiExecuteLinkToken env ctx a link message payload s

/-- `execute`. -/
def execute (ctx : Ctx) (a : Execute) (message : Message) (payload : Bytes) (s : World) :
    Except Error World := do
  let commandId := message.commandId env.toCrates
  let incoming ← s.chain.gateway.loadIncoming commandId
  require (env.createProgramAddress
    (Gateway.ValidateMessageSigner.pdaSeeds commandId ++ [[incoming.signingPdaBump]]) env.itsId
    = some a.signingPda.pubkey) (.anchor .constraintSeeds)
  let _config ← s.chain.gateway.loadConfig
  signer a.payer
  let root ← unpausedRoot env a.itsRootPda.pubkey s
  -- Verify that the message comes from the trusted Axelar ITS Hub
  require (message.sourceAddress = root.itsHubAddress) ItsError.invalidInstructionData.err
  let hubMessage ← okOr (Encoding.HubMessage.codec.decodeAll payload)
    ItsError.invalidInstructionData.err
  -- Execute can only be called with ReceiveFromHub payload at the top level
  match hubMessage with
  | .receiveFromHub sourceChain inner => do
    -- Validate the GMP message
    let gateway ← Gateway.validateMessageRaw env.toEnv ctx.sysvar a.signingPda.pubkey message
      payload s.chain.gateway
    let s := s.withChain { s.chain with gateway }
    require (root.isTrustedChain sourceChain) ItsError.untrustedSourceChain.err
    dispatch env ctx a message payload sourceChain inner (s.record ctx (.accepted sourceChain inner))
  | _ => throw ItsError.invalidInstructionData.err

end AxelarSolana.Its
