import AxelarSolana.Its.Accounts

/-! # Administration

The instructions that set the service up, grant and move roles, set limits, and hand a mint over to
its token manager.

* configuration: `initialize`, `set_pause_status`, the trusted chains, `set_flow_limit` and
  `transfer_operatorship`;
* token managers: flow limiters, flow limits, operatorship and mintership, **`handoverMintAuthority`**
  and **`mintInterchainToken`**.

The three transfers of a role are one function, **`transferRole`**, applied to the role. -/

namespace AxelarSolana.Its

open Fallible

variable (env : Env)

/-! ## Configuration -/

/-- `initialize`. -/
def initializeService (ctx : Ctx) (a : Initialize) (chainName itsHubAddress : String) (s : World) :
    Except Error World := do
  Gateway.signer a.payer
  Gateway.signer a.operator
  let bump ← env.initPda InterchainTokenService.pdaSeeds env.itsId a.itsRootPda
    (s.accounts.root = none)
  let rolesBump ← newUserRolesPda env a.itsRootPda a.operator.key a.userRolesAccount s
  programData env ctx.sysvar a.payer.key
  let rootLen := InterchainTokenService.spaceFor itsHubAddress.utf8ByteSize
    chainName.utf8ByteSize 0
  let root := InterchainTokenService.new bump chainName itsHubAddress
  root.trySerialize rootLen
  pure ((s.createUserRoles ctx a.userRolesAccount a.itsRootPda a.operator.key
    ⟨roles.OPERATOR, rolesBump⟩).setRoot root rootLen)

/-- `set_pause_status`. -/
def setPauseStatus (ctx : Ctx) (a : SetPauseStatus) (paused : Bool) (s : World) :
    Except Error World := do
  Gateway.signer a.payer
  programData env ctx.sysvar a.payer.key
  let root ← itsRootPda env a.itsRootPda s
  require (root.paused ≠ paused) ItsError.invalidArgument.err
  let root := { root with paused }
  root.trySerialize s.accounts.rootLen
  pure (s.setRoot root s.accounts.rootLen)

/-- Who may change the trusted chains: an operator of the root or the upgrade authority. Each
account that is passed is checked. -/
def trustedChainAuthority (ctx : Ctx) (a : SetTrustedChain) (s : World) : Except Error Unit := do
  Gateway.signer a.payer
  require (a.userRoles.isSome ∨ a.programData = true) ItsError.missingRequiredSignature.err
  (match a.userRoles with
    | some key => do
      let userRoles ← userRolesPda env a.itsRootPda a.payer.key key s
      require userRoles.hasOperatorRole ItsError.missingOperatorRole.err
    | none => pure ())
  (if a.programData then programData env ctx.sysvar a.payer.key else pure ())

/-- `set_trusted_chain`. -/
def setTrustedChain (ctx : Ctx) (a : SetTrustedChain) (chainName : String) (s : World) :
    Except Error World := do
  trustedChainAuthority env ctx a s
  let root ← itsRootPda env a.itsRootPda s
  require (root.isTrustedChain chainName = false) ItsError.trustedChainAlreadySet.err
  let rootLen := root.spaceWithChainAdded chainName
  let root := root.addTrustedChain chainName
  root.trySerialize rootLen
  pure ((s.emit ctx (.trustedChainSet chainName)).setRoot root rootLen)

/-- `remove_trusted_chain`. -/
def removeTrustedChain (ctx : Ctx) (a : RemoveTrustedChain) (chainName : String) (s : World) :
    Except Error World := do
  trustedChainAuthority env ctx a s
  let root ← itsRootPda env a.itsRootPda s
  require (root.isTrustedChain chainName = true) ItsError.trustedChainNotSet.err
  let rootLen := root.spaceWithChainRemoved chainName
  let root := root.removeTrustedChain chainName
  root.trySerialize rootLen
  pure ((s.emit ctx (.trustedChainRemoved chainName)).setRoot root rootLen)

/-- `set_flow_limit`: by an operator of the root. -/
def setFlowLimit (ctx : Ctx) (a : SetFlowLimit) (flowLimit : Option UInt64) (s : World) :
    Except Error World := do
  Gateway.signer a.payer
  Gateway.signer a.operator
  let _root ← itsRootPda env a.itsRootPda s
  let itsRoles ← userRolesPda env a.itsRootPda a.operator.key a.itsRolesPda s
  require itsRoles.hasOperatorRole ItsError.missingOperatorRole.err
  let tokenManager ← ownTokenManagerPda env a.itsRootPda a.tokenManagerPda s
  require (tokenManager.flowSlot.flowLimit ≠ flowLimit) ItsError.invalidArgument.err
  pure ((s.emit ctx (.flowLimitSet tokenManager.tokenId a.operator.key flowLimit)).setTokenManager
    a.tokenManagerPda
    { tokenManager with flowSlot := { tokenManager.flowSlot with flowLimit } })

/-! ## Transfers of a role -/

/-- The accounts of a transfer of a role. -/
structure TransferRole where
  payer : AccountInfo
  origin : AccountInfo
  originRoles : Pubkey
  destination : Pubkey
  destinationRoles : Pubkey

/-- **Move a role** on a resource from the account that signs to another. The origin's account is
closed when no role is left. -/
def transferRole (role : UInt8) (missing : ItsError) (resource : Pubkey) (a : TransferRole)
    (s : World) : Except Error World := do
  Gateway.signer a.payer
  Gateway.signer a.origin
  let originRoles ← userRolesPda env resource a.origin.key a.originRoles s
  require (originRoles.contains role) missing.err
  require (a.destination ≠ a.origin.key) ItsError.invalidArgument.err
  let destination ← userRolesPdaIfNeeded env resource a.destination a.destinationRoles s
  let originRoles := originRoles.remove role
  let destinationRoles := { destination.1.insert role with bump := destination.2 }
  pure ((s.setUserRoles a.originRoles originRoles.orClosed).setUserRoles a.destinationRoles
    (some destinationRoles))

/-- `transfer_operatorship` of the root. -/
def transferOperatorship (a : TransferOperatorship) (s : World) : Except Error World := do
  let _root ← itsRootPda env a.resourceAccount s
  distinct [a.originRolesAccount, a.destinationRolesAccount]
  transferRole env roles.OPERATOR .missingOperatorRole a.resourceAccount
    ⟨a.payer, a.originUserAccount, a.originRolesAccount, a.destinationUserAccount,
      a.destinationRolesAccount⟩ s

/-- `transfer_token_manager_operatorship`. -/
def transferTokenManagerOperatorship (a : TransferTokenManagerOperatorship) (s : World) :
    Except Error World := do
  let _root ← itsRootPda env a.itsRootPda s
  let _tokenManager ← ownTokenManagerPda env a.itsRootPda a.tokenManagerAccount s
  distinct [a.originRolesAccount, a.destinationRolesAccount]
  transferRole env roles.OPERATOR .missingOperatorRole a.tokenManagerAccount
    ⟨a.payer, a.originUserAccount, a.originRolesAccount, a.destinationUserAccount,
      a.destinationRolesAccount⟩ s

/-- `transfer_interchain_token_mintership`: here the two roles accounts may be the same. -/
def transferInterchainTokenMintership (a : TransferInterchainTokenMintership) (s : World) :
    Except Error World := do
  let _root ← itsRootPda env a.itsRootPda s
  let _tokenManager ← ownTokenManagerPda env a.itsRootPda a.tokenManagerAccount s
  transferRole env roles.MINTER .missingMinterRole a.tokenManagerAccount
    ⟨a.payer, a.senderUserAccount, a.senderRolesAccount, a.destinationUserAccount,
      a.destinationRolesAccount⟩ s

/-! ## Flow limiters -/

/-- `add_token_manager_flow_limiter`. -/
def addTokenManagerFlowLimiter (a : AddTokenManagerFlowLimiter) (s : World) :
    Except Error World := do
  Gateway.signer a.payer
  Gateway.signer a.authorityUserAccount
  let authorityRoles ← userRolesPda env a.tokenManagerPda a.authorityUserAccount.key
    a.authorityRolesAccount s
  require authorityRoles.hasOperatorRole ItsError.missingOperatorRole.err
  let _root ← itsRootPda env a.itsRootPda s
  let _tokenManager ← ownTokenManagerPda env a.itsRootPda a.tokenManagerPda s
  let target ← userRolesPdaIfNeeded env a.tokenManagerPda a.targetUserAccount
    a.targetRolesAccount s
  require (target.1.hasFlowLimiterRole = false) ItsError.invalidArgument.err
  pure (s.setUserRoles a.targetRolesAccount
    (some { target.1.insert roles.FLOW_LIMITER with bump := target.2 }))

/-- `remove_token_manager_flow_limiter`. -/
def removeTokenManagerFlowLimiter (a : RemoveTokenManagerFlowLimiter) (s : World) :
    Except Error World := do
  Gateway.signer a.payer
  Gateway.signer a.authorityUserAccount
  let authorityRoles ← userRolesPda env a.tokenManagerPda a.authorityUserAccount.key
    a.authorityRolesAccount s
  require authorityRoles.hasOperatorRole ItsError.missingOperatorRole.err
  let _root ← itsRootPda env a.itsRootPda s
  let _tokenManager ← ownTokenManagerPda env a.itsRootPda a.tokenManagerPda s
  let targetRoles ← userRolesPda env a.tokenManagerPda a.targetUserAccount a.targetRolesAccount s
  require targetRoles.hasFlowLimiterRole ItsError.missingFlowLimiterRole.err
  pure (s.setUserRoles a.targetRolesAccount (targetRoles.remove roles.FLOW_LIMITER).orClosed)

/-- `set_token_manager_flow_limit`: by a flow limiter of the token manager. -/
def setTokenManagerFlowLimit (ctx : Ctx) (a : SetTokenManagerFlowLimit)
    (flowLimit : Option UInt64) (s : World) : Except Error World := do
  Gateway.signer a.payer
  Gateway.signer a.flowLimiter
  let _root ← itsRootPda env a.itsRootPda s
  let tokenManager ← ownTokenManagerPda env a.itsRootPda a.tokenManagerPda s
  let flowLimiterRoles ← userRolesPda env a.tokenManagerPda a.flowLimiter.key
    a.flowLimiterRolesPda s
  require flowLimiterRoles.hasFlowLimiterRole ItsError.missingFlowLimiterRole.err
  pure ((s.emit ctx
    (.flowLimitSet tokenManager.tokenId a.flowLimiter.key flowLimit)).setTokenManager
    a.tokenManagerPda
    { tokenManager with flowSlot := { tokenManager.flowSlot with flowLimit } })

/-! ## Minting -/

/-- `handover_mint_authority`: the authority of the mint passes it to the token manager and becomes
a minter. -/
def handoverMintAuthority (ctx : Ctx) (a : HandoverMintAuthority) (tokenId : Bytes32)
    (s : World) : Except Error World := do
  Gateway.signer a.payer
  Gateway.signer a.authority
  tokenInterface env a.tokenProgram
  let mint ← mintOfProgram a.tokenProgram a.mint s
  require (mint.mintAuthority = some a.authority.key) (.anchor .constraintMintMintAuthority)
  let _root ← itsRootPda env a.itsRoot s
  let tokenManager ← tokenManagerPda env a.itsRoot tokenId a.tokenManager s
  require (a.mint = tokenManager.tokenAddress) ItsError.tokenMintTokenManagerMissmatch.err
  -- Ensure the token manager type is mintable
  require (tokenManager.ty = .mintBurn ∨ tokenManager.ty = .mintBurnFrom)
    ItsError.invalidTokenManagerType.err
  let minter ← userRolesPdaIfNeeded env a.tokenManager a.authority.key a.minterRoles s
  let s ← tokenCall env ctx
    (.setMintAuthority a.tokenProgram a.mint a.authority.key (some a.tokenManager))
    [a.authority.key] s
  pure (s.setUserRoles a.minterRoles
    (some { minter.1.insert roles.MINTER with bump := minter.2 }))

/-- `mint_interchain_token`: the token manager mints for a minter. -/
def mintInterchainToken (ctx : Ctx) (a : MintInterchainToken) (amount : UInt64) (s : World) :
    Except Error World := do
  tokenInterface env a.tokenProgram
  let _mint ← mintOfProgram a.tokenProgram a.mint s
  let destination ← tokenAccount a.destinationAccount s
  require (destination.mint = a.mint) (.anchor .constraintTokenMint)
  require (destination.owner = a.tokenProgram) (.anchor .constraintTokenTokenProgram)
  let _root ← unpausedRoot env a.itsRootPda s
  let tokenManager ← ownTokenManagerPda env a.itsRootPda a.tokenManagerPda s
  require (tokenManager.tokenAddress = a.mint) ItsError.tokenMintTokenManagerMissmatch.err
  Gateway.signer a.minter
  let minterRoles ← userRolesPda env a.tokenManagerPda a.minter.key a.minterRolesPda s
  require minterRoles.hasMinterRole ItsError.missingMinterRole.err
  require (amount ≠ 0) ItsError.invalidAmount.err
  tokenCall env ctx
    (.mintTo a.tokenProgram a.mint a.destinationAccount a.tokenManagerPda amount)
    [a.tokenManagerPda] s

end AxelarSolana.Its
