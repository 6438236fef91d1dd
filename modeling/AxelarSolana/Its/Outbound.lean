import AxelarSolana.Its.Registration

/-! # Messages to the hub

The instructions that end in a message to the ITS hub.

* **`sendToHub`** — pay for gas, then call the gateway with the encoded message.
* **`takeToken`** — lock or burn what is sent, and track the flow.
* **`interchainTransfer`** — the transfer; remote deployments, links and the registration of a
  mint's metadata follow the same path without taking anything. -/

namespace AxelarSolana.Its

open Fallible

variable (env : Env)

/-! ## Sending -/

/-- `GMPAccounts`, with the hub's address read from the root account. -/
structure GMPAccounts where
  payer : AccountInfo
  callContractSigningPda : Pubkey
  itsHubAddress : String
  gasTreasury : Pubkey

/-- The payment for the gas of a message. -/
def payForGas (a : GMPAccounts) (payloadHash : Bytes32) (gasValue : UInt64)
    (gas : GasService.GasState) : Except Error GasService.GasState :=
  if 0 < gasValue then
    GasService.payGas ⟨a.payer, a.gasTreasury⟩ itsHubChainName a.itsHubAddress payloadHash gasValue
      a.payer.key gas
  else pure gas

/-- `send_to_hub`. The caller of the gateway is the program itself, which does not sign: the
call-contract address signs for it. -/
def sendToHub (ctx : Ctx) (a : GMPAccounts) (message : Encoding.HubMessage) (gasValue : UInt64)
    (s : World) : Except Error World := do
  (match message with
    | .receiveFromHub _ _ => throw ItsError.invalidInstructionData.err
    | _ => pure ())
  let payload ← okOr (Encoding.HubMessage.codec.encode message) ItsError.serializationError.err
  let gas ← payForGas a (env.keccak payload) gasValue s.chain.gas
  let found ← env.findProgramAddress [Gateway.CallContractSigner.seedPrefix] env.itsId
  require (found.1 = a.callContractSigningPda) ItsError.invalidAccountData.err
  let gateway ← Gateway.process env.toEnv ⟨ctx.sysvar, .callContract
    ⟨⟨env.itsId, false⟩, some ⟨a.callContractSigningPda, true⟩⟩ itsHubChainName a.itsHubAddress
    payload found.2⟩ s.chain.gateway
  pure ((s.record ctx (.sent message)).withChain { s.chain with gateway, gas })

/-- `send_to_hub_wrap`. -/
def sendToHubWrap (ctx : Ctx) (a : GMPAccounts) (message : Encoding.Message)
    (destinationChain : String) (gasValue : UInt64) (s : World) : Except Error World :=
  sendToHub env ctx a (.sendToHub destinationChain message) gasValue s

/-- `its_root_pda` of an instruction that sends to a chain, which must be trusted. -/
def trustingRoot (key : Pubkey) (destinationChain : String) (s : World) :
    Except Error InterchainTokenService := do
  let root ← unpausedRoot env key s
  require (root.isTrustedChain destinationChain) ItsError.untrustedDestinationChain.err
  pure root

/-- `its_root_pda` of an instruction that also refuses this chain as the destination. -/
def remoteRoot (key : Pubkey) (destinationChain : String) (s : World) :
    Except Error InterchainTokenService := do
  let root ← unpausedRoot env key s
  require (root.chainName ≠ destinationChain) ItsError.invalidDestinationChain.err
  require (root.isTrustedChain destinationChain) ItsError.untrustedDestinationChain.err
  pure root

/-! ## Transfers -/

/-- The source address of a transfer: the program that calls, when the authority is one of its
addresses, or else the authority, which must be a user account. -/
def transferSource (authority : Pubkey) (callerProgramId : Option Pubkey)
    (callerPdaSeeds : Option (List Bytes)) (s : World) : Except Error Pubkey :=
  match callerProgramId, callerPdaSeeds with
  | some sourceId, some pdaSeeds => do
    let expected ← env.findProgramAddress pdaSeeds sourceId
    require (expected.1 = authority) ItsError.invalidAccountData.err
    pure sourceId
  | none, none => do
    require (s.chain.owner authority = env.systemProgramId) ItsError.callerNotUserAccount.err
    pure authority
  | _, _ => throw ItsError.inconsistentSourceIdAndPdaSeeds.err

/-- `take_token`: the amount that arrives, and the world after the call of the token program. -/
def takeToken (ctx : Ctx) (a : InterchainTransfer) (tokenManager : TokenManager) (mint : Mint)
    (amount : UInt64) (s : World) : Except Error (UInt64 × World) := do
  validateTokenManagerType tokenManager.ty mint a.tokenManagerPda
  let (transferred, s) ← (match tokenManager.ty with
    | .nativeInterchainToken | .mintBurn | .mintBurnFrom => do
      let s ← tokenCall env ctx
        (.burn a.tokenProgram a.tokenMint a.authorityTokenAccount a.authority.key amount)
        [a.authority.key] s
      pure (amount, s)
    | .lockUnlock => do
      let decimals ← getMintDecimals mint
      let s ← tokenCall env ctx
        (.transferChecked a.tokenProgram a.authorityTokenAccount a.tokenMint a.tokenManagerAta
          a.authority.key amount decimals) [a.authority.key] s
      pure (amount, s)
    | .lockUnlockFee => do
      let (fee, decimals) ← getFeeAndDecimals env ctx.sysvar mint amount
      let s ← tokenCall env ctx
        (.transferCheckedWithFee a.tokenProgram a.authorityTokenAccount a.tokenMint
          a.tokenManagerAta a.authority.key amount decimals fee) [a.authority.key] s
      let transferred ← okOr (checkedSub amount fee) ItsError.arithmeticOverflow.err
      pure (transferred, s))
  let tokenManager ← tokenManager.trackFlow ctx.sysvar transferred .outward
  pure (transferred, s.setTokenManager a.tokenManagerPda tokenManager)

/-- `process_outbound_transfer`. -/
def processOutboundTransfer (ctx : Ctx) (a : InterchainTransfer) (root : InterchainTokenService)
    (tokenManager : TokenManager) (mint : Mint) (tokenId : Bytes32) (destinationChain : String)
    (destinationAddress : Bytes) (amount gasValue : UInt64) (data : Option Bytes)
    (sourceAddress : Pubkey) (s : World) : Except Error World := do
  let (amount, s) ← takeToken env ctx a tokenManager mint amount s
  let dataHash := (data.filter fun d => d ≠ []).map env.keccak
  let s := s.emit ctx (.interchainTransferSent
    ⟨tokenId, sourceAddress, a.authorityTokenAccount, destinationChain, destinationAddress, amount,
      dataHash⟩)
  sendToHubWrap env ctx ⟨a.payer, a.callContractSigningPda, root.itsHubAddress, a.gasTreasury⟩
    (.interchainTransfer ⟨tokenId, sourceAddress.toList, destinationAddress, amount, data⟩)
    destinationChain gasValue s

/-- `interchain_transfer`. -/
def interchainTransfer (ctx : Ctx) (a : InterchainTransfer) (tokenId : Bytes32)
    (destinationChain : String) (destinationAddress : Bytes) (amount gasValue : UInt64)
    (callerProgramId : Option Pubkey) (callerPdaSeeds : Option (List Bytes))
    (data : Option Bytes) (s : World) : Except Error World := do
  Gateway.signer a.payer
  Gateway.signer a.authority
  let root ← trustingRoot env a.itsRootPda destinationChain s
  let tokenManager ← tokenManagerPda env a.itsRootPda tokenId a.tokenManagerPda s
  require (tokenManager.tokenAddress = a.tokenMint) ItsError.tokenMintTokenManagerMissmatch.err
  tokenInterface env a.tokenProgram
  let mint ← mintOfProgram a.tokenProgram a.tokenMint s
  let source ← tokenAccount a.authorityTokenAccount s
  require (source.mint = a.tokenMint) (.anchor .constraintTokenMint)
  require (source.authority = a.authority.key) (.anchor .constraintTokenOwner)
  require (source.owner = a.tokenProgram) (.anchor .constraintTokenTokenProgram)
  let _ata ← associatedTokenAccount env a.tokenManagerPda a.tokenMint a.tokenProgram
    a.tokenManagerAta s
  distinct [a.tokenManagerPda, a.tokenMint, a.authorityTokenAccount, a.tokenManagerAta]
  require (amount ≠ 0) ItsError.invalidAmount.err
  require (destinationAddress ≠ []) ItsError.invalidDestinationAddress.err
  let sourceAddress ← transferSource env a.authority.key callerProgramId callerPdaSeeds s
  processOutboundTransfer env ctx a root tokenManager mint tokenId destinationChain
    destinationAddress amount gasValue data sourceAddress s

/-! ## Deployments, links and metadata -/

/-- `deploy_remote_interchain_token`. -/
def deployRemoteInterchainToken (ctx : Ctx) (a : DeployRemoteInterchainToken) (salt : Bytes32)
    (destinationChain : String) (gasValue : UInt64) (s : World) : Except Error World := do
  Gateway.signer a.payer
  Gateway.signer a.deployer
  let mint ← mintAccount a.tokenMint s
  let found ← env.findProgramAddress (TokenManager.tokenMintSeeds
    (env.interchainTokenId a.deployer.key salt) a.itsRootPda) env.itsId
  require (a.tokenMint = found.1) (.anchor .constraintSeeds)
  metadataAccount env a.tokenMint a.metadataAccount
  let tokenManager ← tokenManagerPda env a.itsRootPda (env.interchainTokenId a.deployer.key salt)
    a.tokenManagerPda s
  require (tokenManager.tokenAddress = a.tokenMint) ItsError.tokenMintTokenManagerMissmatch.err
  let root ← remoteRoot env a.itsRootPda destinationChain s
  let deploySalt := env.interchainTokenDeployerSalt a.deployer.key salt
  let tokenId := env.interchainTokenIdInternal deploySalt
  let (name, symbol) ← getTokenMetadata a.tokenMint mint a.metadataAccount s
  let s := s.emit ctx (.interchainTokenDeploymentStarted
    ⟨tokenId, destinationChain, name, symbol, mint.decimals, none⟩)
  sendToHubWrap env ctx ⟨a.payer, a.callContractSigningPda, root.itsHubAddress, a.gasTreasury⟩
    -- Remote minters are currently disabled
    (.deployInterchainToken ⟨tokenId, name, symbol, mint.decimals, none⟩) destinationChain gasValue s

/-- `deploy_remote_canonical_interchain_token`. -/
def deployRemoteCanonicalInterchainToken (ctx : Ctx) (a : DeployRemoteCanonicalInterchainToken)
    (destinationChain : String) (gasValue : UInt64) (s : World) : Except Error World := do
  Gateway.signer a.payer
  let mint ← mintAccount a.tokenMint s
  metadataAccount env a.tokenMint a.metadataAccount
  let tokenManager ← tokenManagerPda env a.itsRootPda (env.canonicalInterchainTokenId a.tokenMint)
    a.tokenManagerPda s
  require (tokenManager.tokenAddress = a.tokenMint) ItsError.tokenMintTokenManagerMissmatch.err
  let root ← remoteRoot env a.itsRootPda destinationChain s
  let deploySalt := env.canonicalInterchainTokenDeploySalt a.tokenMint
  let tokenId := env.interchainTokenIdInternal deploySalt
  let (name, symbol) ← getTokenMetadata a.tokenMint mint a.metadataAccount s
  let s := s.emit ctx (.interchainTokenDeploymentStarted
    ⟨tokenId, destinationChain, name, symbol, mint.decimals, none⟩)
  sendToHubWrap env ctx ⟨a.payer, a.callContractSigningPda, root.itsHubAddress, a.gasTreasury⟩
    (.deployInterchainToken ⟨tokenId, name, symbol, mint.decimals, none⟩) destinationChain gasValue s

/-- `link_token`. -/
def linkToken (ctx : Ctx) (a : LinkToken) (salt : Bytes32) (destinationChain : String)
    (destinationTokenAddress : Bytes) (tokenManagerType : TokenManagerType) (linkParams : Bytes)
    (gasValue : UInt64) (s : World) : Except Error World := do
  Gateway.signer a.payer
  Gateway.signer a.deployer
  let root ← remoteRoot env a.itsRootPda destinationChain s
  let tokenManager ← tokenManagerPda env a.itsRootPda
    (env.interchainTokenIdInternal (env.linkedTokenDeployerSalt a.deployer.key salt))
    a.tokenManagerPda s
  require (tokenManagerType ≠ .nativeInterchainToken) ItsError.invalidInstructionData.err
  require (destinationTokenAddress ≠ []) ItsError.invalidDestinationAddress.err
  let deploySalt := env.linkedTokenDeployerSalt a.deployer.key salt
  let tokenId := env.interchainTokenIdInternal deploySalt
  let params := if linkParams = [] then none else some linkParams
  let s := s.emit ctx (.linkTokenStarted
    ⟨tokenId, destinationChain, tokenManager.tokenAddress, destinationTokenAddress,
      tokenManagerType.toByte, params⟩)
  sendToHubWrap env ctx ⟨a.payer, a.callContractSigningPda, root.itsHubAddress, a.gasTreasury⟩
    (.linkToken ⟨tokenId, tokenManagerType.toByte, tokenManager.tokenAddress.toList,
      destinationTokenAddress, params⟩) destinationChain gasValue s

/-- `register_token_metadata`. -/
def registerTokenMetadata (ctx : Ctx) (a : RegisterTokenMetadata) (gasValue : UInt64)
    (s : World) : Except Error World := do
  Gateway.signer a.payer
  let mint ← mintAccount a.tokenMint s
  let root ← unpausedRoot env a.itsRootPda s
  let s := s.emit ctx (.tokenMetadataRegistered a.tokenMint mint.decimals)
  sendToHub env ctx ⟨a.payer, a.callContractSigningPda, root.itsHubAddress, a.gasTreasury⟩
    (.registerTokenMetadata ⟨mint.decimals, a.tokenMint.toList⟩) gasValue s

end AxelarSolana.Its
