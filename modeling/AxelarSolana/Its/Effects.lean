import AxelarSolana.Its.Moves

/-! # Effects

What a successful instruction has checked, what it leaves in the accounts of the program, and which
loud events it reports: the next files prove it of every handler, and the later ones split on it
and never open a handler again.

* **`Granted`**, **`Registered`** — a token manager with the roles that its user gets.
* **`RoleMoved`** — the transfer of a role.
* **`Takes`**, **`Outbound`** — the call by which `interchain_transfer` takes its tokens, and what it
  has checked.
* **`Effect`** — the instructions that are called from outside. -/

namespace AxelarSolana.Its

open Fallible

/-! ## Registration -/

/-- **Roles are granted** to an optional user, in an account that did not exist. -/
inductive Granted (env : Env) (accounts : Accounts) (resource : Pubkey) (roles : UInt8) :
    List LogEvent → Accounts → Prop
  | nobody : Granted env accounts resource roles [] accounts
  | user (user key : Pubkey) (bump : UInt8) (fresh : accounts.userRoles key = none)
      (address : env.findProgramAddress (UserRoles.pdaSeeds resource user) env.itsId
        = .ok (key, bump)) :
      Granted env accounts resource roles [.userRolesCreated key resource user ⟨roles, bump⟩]
        (accounts.setUserRoles key (some ⟨roles, bump⟩))

/-- The roles that a registration grants: only an interchain token of its own has a minter. -/
def registrationRoles : TokenManagerType → UInt8
  | .nativeInterchainToken => roles.OPERATOR ||| roles.FLOW_LIMITER ||| roles.MINTER
  | _ => roles.OPERATOR ||| roles.FLOW_LIMITER

/-- **A token manager is registered**, with the roles of an optional user. -/
structure Registered (env : Env) (key : Pubkey) (tokenManager : TokenManager)
    (granted : List LogEvent) (s s' : World) : Prop where
  manager : ∃ rootKey root, itsRootPda env rootKey s = .ok root ∧
    newTokenManagerPda env rootKey tokenManager.tokenId key s = .ok tokenManager.bump
  flowSlot : tokenManager.flowSlot = FlowState.new none 0
  accounts : ∃ accounts,
    Granted env s.accounts key (registrationRoles tokenManager.ty) granted accounts ∧
    s'.accounts = accounts.setTokenManager key tokenManager

/-- Whether an instruction registers a mint that exists. -/
def ItsInstruction.isRegistration : ItsInstruction → Bool
  | .registerCanonicalInterchainToken .. | .registerCustomToken .. => true
  | _ => false

/-- The minting of the initial supply. -/
def initialSupplyEvents (a : DeployInterchainToken) (initialSupply : UInt64)
    (before after : TokenState) : List LogEvent :=
  if 0 < initialSupply then
    [.tokens (.mintTo a.tokenProgram a.tokenMint a.deployerAta a.tokenManagerPda initialSupply)
      before after]
  else []

/-- **What `deploy_interchain_token` does with tokens**: a new mint, then the initial supply for the
deployer. -/
structure Deployed (env : Env) (a : DeployInterchainToken) (decimals : UInt8)
    (initialSupply : UInt64) (before t₁ t₂ t₃ : TokenState) : Prop where
  signed : a.deployer.isSigner = true
  created : env.tokens (.initializeMint2 a.tokenProgram a.tokenMint decimals a.tokenManagerPda
    (some a.tokenManagerPda)) [a.tokenMint] before = .ok t₁
  since : TokenSteps env t₁ t₂
  belongs : t₂.BelongsTo a.deployerAta a.deployer.key
  supply : 0 < initialSupply → env.tokens (.mintTo a.tokenProgram a.tokenMint a.deployerAta
    a.tokenManagerPda initialSupply) [a.tokenManagerPda] t₂ = .ok t₃

/-! ## Roles and limits -/

/-- The transfer of a role that an instruction makes: the role, the resource and the accounts. -/
def ItsInstruction.roleTransfer? : ItsInstruction → Option (UInt8 × Pubkey × TransferRole)
  | .transferOperatorship a => some (roles.OPERATOR, a.resourceAccount,
      ⟨a.payer, a.originUserAccount, a.originRolesAccount, a.destinationUserAccount,
        a.destinationRolesAccount⟩)
  | .transferTokenManagerOperatorship a => some (roles.OPERATOR, a.tokenManagerAccount,
      ⟨a.payer, a.originUserAccount, a.originRolesAccount, a.destinationUserAccount,
        a.destinationRolesAccount⟩)
  | .transferInterchainTokenMintership a => some (roles.MINTER, a.tokenManagerAccount,
      ⟨a.payer, a.senderUserAccount, a.senderRolesAccount, a.destinationUserAccount,
        a.destinationRolesAccount⟩)
  | _ => none

/-- **A role is moved** from the user that signs to another. -/
structure RoleMoved (env : Env) (role : UInt8) (resource : Pubkey) (a : TransferRole)
    (origin : UserRoles) (destination : UserRoles × UInt8) (s s' : World) : Prop where
  signed : a.origin.isSigner = true
  loaded : userRolesPda env resource a.origin.key a.originRoles s = .ok origin
  holds : origin.contains role = true
  apart : a.destination ≠ a.origin.key
  received : userRolesPdaIfNeeded env resource a.destination a.destinationRoles s = .ok destination
  accounts : s'.accounts
    = (s.accounts.setUserRoles a.originRoles (origin.remove role).orClosed).setUserRoles
        a.destinationRoles (some { destination.1.insert role with bump := destination.2 })

/-- The flow limit that an instruction sets, with the address of the token manager. -/
def ItsInstruction.flowLimit? : ItsInstruction → Option (Pubkey × Option UInt64)
  | .setFlowLimit a flowLimit => some (a.tokenManagerPda, flowLimit)
  | .setTokenManagerFlowLimit a flowLimit => some (a.tokenManagerPda, flowLimit)
  | _ => none

/-- **What `handover_mint_authority` has checked** when it has passed the authority on. -/
structure HandedOver (env : Env) (a : HandoverMintAuthority) (tokenId : Bytes32) (mint : Mint)
    (tokenManager : TokenManager) (minter : UserRoles × UInt8) (s s' : World) : Prop where
  signed : a.authority.isSigner = true
  minted : s.chain.tokens.mints a.mint = some mint
  authority : mint.mintAuthority = some a.authority.key
  manager : ∃ root, itsRootPda env a.itsRoot s = .ok root ∧
    tokenManagerPda env a.itsRoot tokenId a.tokenManager s = .ok tokenManager
  address : a.mint = tokenManager.tokenAddress
  type : tokenManager.ty = .mintBurn ∨ tokenManager.ty = .mintBurnFrom
  loaded : userRolesPdaIfNeeded env a.tokenManager a.authority.key a.minterRoles s = .ok minter
  called : env.tokens (.setMintAuthority a.tokenProgram a.mint a.authority.key
    (some a.tokenManager)) [a.authority.key] s.chain.tokens = .ok s'.chain.tokens
  accounts : s'.accounts = s.accounts.setUserRoles a.minterRoles
    (some { minter.1.insert roles.MINTER with bump := minter.2 })

/-! ## Messages to the hub -/

/-- Whether an instruction sends a message to the hub. -/
def ItsInstruction.isOutbound : ItsInstruction → Bool
  | .interchainTransfer .. | .deployRemoteInterchainToken ..
  | .deployRemoteCanonicalInterchainToken .. | .linkToken .. | .registerTokenMetadata .. => true
  | _ => false

/-- The destination chain that an instruction names: of a transfer, a remote deployment or a link. -/
def ItsInstruction.destination? : ItsInstruction → Option String
  | .interchainTransfer _ _ destinationChain _ _ _ _ _ _ => some destinationChain
  | .deployRemoteInterchainToken _ _ destinationChain _ => some destinationChain
  | .deployRemoteCanonicalInterchainToken _ destinationChain _ => some destinationChain
  | .linkToken _ _ destinationChain _ _ _ _ => some destinationChain
  | _ => none

/-- The transfer that is sent to the hub with a message. -/
def Encoding.HubMessage.sentTransfer? : Encoding.HubMessage → Option Encoding.InterchainTransfer
  | .sendToHub _ (.interchainTransfer transfer) => some transfer
  | _ => none

/-- **The call by which an outbound transfer takes its tokens**, and the amount that is reported:
what is burnt or locked, less the fee that a mint withholds. -/
inductive Takes (env : Env) (sysvar : Sysvar) (a : InterchainTransfer) (mint : Mint)
    (amount : UInt64) : TokenManagerType → UInt64 → TokenInstruction → Prop
  | burn {ty : TokenManagerType} (mints : ty.mints = true)
      (authority : mint.mintAuthority = some a.tokenManagerPda) :
      Takes env sysvar a mint amount ty amount
        (.burn a.tokenProgram a.tokenMint a.authorityTokenAccount a.authority.key amount)
  | lock : Takes env sysvar a mint amount .lockUnlock amount
      (.transferChecked a.tokenProgram a.authorityTokenAccount a.tokenMint a.tokenManagerAta
        a.authority.key amount mint.decimals)
  | lockWithFee (feeConfig : TransferFeeConfig) (fee : UInt64)
      (config : mint.transferFeeConfig = some feeConfig)
      (computed : env.calculateEpochFee feeConfig sysvar.epoch amount = some fee)
      (fits : fee ≤ amount) :
      Takes env sysvar a mint amount .lockUnlockFee (amount - fee)
        (.transferCheckedWithFee a.tokenProgram a.authorityTokenAccount a.tokenMint
          a.tokenManagerAta a.authority.key amount mint.decimals fee)

/-- **What `interchain_transfer` has checked** when it has taken its tokens. -/
structure Outbound (env : Env) (sysvar : Sysvar) (a : InterchainTransfer) (tokenId : Bytes32)
    (destinationChain : String) (amount reported : UInt64) (tokenManager tracked : TokenManager)
    (mint : Mint) (instruction : TokenInstruction) (s : World) (after : TokenState) : Prop where
  signed : a.authority.isSigner = true
  root : ∃ root, trustingRoot env a.itsRootPda destinationChain s = .ok root
  manager : tokenManagerPda env a.itsRootPda tokenId a.tokenManagerPda s = .ok tokenManager
  address : tokenManager.tokenAddress = a.tokenMint
  minted : mintOfProgram a.tokenProgram a.tokenMint s = .ok mint
  source : s.chain.tokens.BelongsTo a.authorityTokenAccount a.authority.key
  escrow : s.chain.tokens.BelongsTo a.tokenManagerAta a.tokenManagerPda
  ata : associatedTokenAddress env a.tokenManagerPda a.tokenMint a.tokenProgram
    = .ok a.tokenManagerAta
  distinct : a.authorityTokenAccount ≠ a.tokenManagerAta
  nonzero : amount ≠ 0
  takes : Takes env sysvar a mint amount tokenManager.ty reported instruction
  called : env.tokens instruction [a.authority.key] s.chain.tokens = .ok after
  flow : tokenManager.trackFlow sysvar reported .outward = .ok tracked

/-! ## Instructions called from outside -/

/-- **The effect of an instruction called from outside**, with its loud events. -/
inductive Effect (env : Env) (sysvar : Sysvar) (s : World) :
    ItsInstruction → List LogEvent → World → Prop
  | initialises (a : Initialize) (chainName itsHubAddress : String) (bump rolesBump : UInt8)
      (rootLen : Nat) (s' : World) (fresh : s.accounts.root = none)
      (address : env.findProgramAddress InterchainTokenService.pdaSeeds env.itsId
        = .ok (a.itsRootPda, bump))
      (granted : newUserRolesPda env a.itsRootPda a.operator.key a.userRolesAccount s
        = .ok rolesBump)
      (accounts : s'.accounts = (s.accounts.setUserRoles a.userRolesAccount
        (some ⟨roles.OPERATOR, rolesBump⟩)).setRoot
          (InterchainTokenService.new bump chainName itsHubAddress) rootLen) :
      Effect env sysvar s (.initializeService a chainName itsHubAddress)
        [.userRolesCreated a.userRolesAccount a.itsRootPda a.operator.key
          ⟨roles.OPERATOR, rolesBump⟩] s'
  | pauses (a : SetPauseStatus) (paused : Bool) (root : InterchainTokenService) (rootLen : Nat)
      (s' : World) (stored : s.accounts.root = some root)
      (accounts : s'.accounts = s.accounts.setRoot { root with paused } rootLen) :
      Effect env sysvar s (.setPauseStatus a paused) [] s'
  | trusts (a : SetTrustedChain) (chainName : String) (root : InterchainTokenService)
      (rootLen : Nat) (s' : World) (stored : s.accounts.root = some root)
      (absent : root.isTrustedChain chainName = false)
      (accounts : s'.accounts = s.accounts.setRoot (root.addTrustedChain chainName) rootLen) :
      Effect env sysvar s (.setTrustedChain a chainName) [.emitted (.trustedChainSet chainName)] s'
  | distrusts (a : RemoveTrustedChain) (chainName : String) (root : InterchainTokenService)
      (rootLen : Nat) (s' : World) (stored : s.accounts.root = some root)
      (present : root.isTrustedChain chainName = true)
      (accounts : s'.accounts = s.accounts.setRoot (root.removeTrustedChain chainName) rootLen) :
      Effect env sysvar s (.removeTrustedChain a chainName)
        [.emitted (.trustedChainRemoved chainName)] s'
  | limits (i : ItsInstruction) (key : Pubkey) (tokenManager : TokenManager)
      (flowLimit : Option UInt64) (s' : World) (names : i.flowLimit? = some (key, flowLimit))
      (stored : s.accounts.tokenManagers key = some tokenManager)
      (accounts : s'.accounts = s.accounts.setTokenManager key
        { tokenManager with flowSlot := { tokenManager.flowSlot with flowLimit } }) :
      Effect env sysvar s i [] s'
  | movesRootRole (a : TransferOperatorship) (t : TransferRole) (root : InterchainTokenService)
      (origin : UserRoles) (destination : UserRoles × UInt8) (s' : World)
      (names : (ItsInstruction.transferOperatorship a).roleTransfer?
        = some (roles.OPERATOR, a.resourceAccount, t))
      (loaded : itsRootPda env a.resourceAccount s = .ok root)
      (moved : RoleMoved env roles.OPERATOR a.resourceAccount t origin destination s s') :
      Effect env sysvar s (.transferOperatorship a) [] s'
  | movesRole (i : ItsInstruction) (role : UInt8) (resource : Pubkey) (t : TransferRole)
      (tokenManager : TokenManager) (origin : UserRoles) (destination : UserRoles × UInt8)
      (s' : World) (names : i.roleTransfer? = some (role, resource, t))
      (stored : s.accounts.tokenManagers resource = some tokenManager)
      (moved : RoleMoved env role resource t origin destination s s') :
      Effect env sysvar s i [] s'
  | addsFlowLimiter (a : AddTokenManagerFlowLimiter) (tokenManager : TokenManager)
      (authority : UserRoles) (target : UserRoles × UInt8) (s' : World)
      (signed : a.authorityUserAccount.isSigner = true)
      (loaded : userRolesPda env a.tokenManagerPda a.authorityUserAccount.key
        a.authorityRolesAccount s = .ok authority)
      (operator : authority.hasOperatorRole = true)
      (stored : s.accounts.tokenManagers a.tokenManagerPda = some tokenManager)
      (received : userRolesPdaIfNeeded env a.tokenManagerPda a.targetUserAccount
        a.targetRolesAccount s = .ok target)
      (accounts : s'.accounts = s.accounts.setUserRoles a.targetRolesAccount
        (some { target.1.insert roles.FLOW_LIMITER with bump := target.2 })) :
      Effect env sysvar s (.addTokenManagerFlowLimiter a) [] s'
  | removesFlowLimiter (a : RemoveTokenManagerFlowLimiter) (tokenManager : TokenManager)
      (target : UserRoles) (s' : World)
      (stored : s.accounts.tokenManagers a.tokenManagerPda = some tokenManager)
      (loaded : userRolesPda env a.tokenManagerPda a.targetUserAccount a.targetRolesAccount s
        = .ok target)
      (accounts : s'.accounts = s.accounts.setUserRoles a.targetRolesAccount
        (target.remove roles.FLOW_LIMITER).orClosed) :
      Effect env sysvar s (.removeTokenManagerFlowLimiter a) [] s'
  | handsOver (a : HandoverMintAuthority) (tokenId : Bytes32) (mint : Mint)
      (tokenManager : TokenManager) (minter : UserRoles × UInt8) (s' : World)
      (handed : HandedOver env a tokenId mint tokenManager minter s s') :
      Effect env sysvar s (.handoverMintAuthority a tokenId) [] s'
  | sends (i : ItsInstruction) (message : Encoding.HubMessage) (s' : World)
      (outbound : i.isOutbound = true) (noTransfer : message.sentTransfer? = none)
      (remote : ∀ destinationChain, i.destination? = some destinationChain →
        ∃ rootKey root, remoteRoot env rootKey destinationChain s = .ok root)
      (accounts : s'.accounts = s.accounts) : Effect env sysvar s i [.sent message] s'
  | registers (i : ItsInstruction) (key : Pubkey) (tokenManager : TokenManager)
      (granted : List LogEvent) (s' : World) (existing : i.isRegistration = true)
      (registered : Registered env key tokenManager granted s s') :
      Effect env sysvar s i (.tokenManagerCreated key tokenManager :: granted) s'
  | deploys (a : DeployInterchainToken) (salt : Bytes32) (name symbol : String) (decimals : UInt8)
      (initialSupply : UInt64) (tokenManager : TokenManager) (granted : List LogEvent)
      (t₁ t₂ t₃ : TokenState) (s' : World)
      (native : tokenManager.ty = .nativeInterchainToken)
      (address : tokenManager.tokenAddress = a.tokenMint)
      (deployed : Deployed env a decimals initialSupply s.chain.tokens t₁ t₂ t₃)
      (registered : Registered env a.tokenManagerPda tokenManager granted s s') :
      Effect env sysvar s (.deployInterchainToken a salt name symbol decimals initialSupply)
        (.tokens (.initializeMint2 a.tokenProgram a.tokenMint decimals a.tokenManagerPda
            (some a.tokenManagerPda)) s.chain.tokens t₁ ::
          (granted ++ initialSupplyEvents a initialSupply t₂ t₃ ++
            [.tokenManagerCreated a.tokenManagerPda tokenManager])) s'
  | transfers (a : InterchainTransfer) (tokenId : Bytes32) (destinationChain : String)
      (destinationAddress : Bytes) (amount gasValue reported : UInt64)
      (callerProgramId : Option Pubkey) (callerPdaSeeds : Option (List Bytes))
      (data : Option Bytes) (tokenManager tracked : TokenManager) (mint : Mint)
      (instruction : TokenInstruction) (sourceAddress : Bytes) (after : TokenState) (s' : World)
      (outbound : Outbound env sysvar a tokenId destinationChain amount reported tokenManager
        tracked mint instruction s after)
      (accounts : s'.accounts = s.accounts.setTokenManager a.tokenManagerPda tracked) :
      Effect env sysvar s (.interchainTransfer a tokenId destinationChain destinationAddress amount
          gasValue callerProgramId callerPdaSeeds data)
        [.tokens instruction s.chain.tokens after,
          .sent (.sendToHub destinationChain (.interchainTransfer
            ⟨tokenId, sourceAddress, destinationAddress, reported, data⟩))] s'
  | mints (a : MintInterchainToken) (amount : UInt64) (tokenManager : TokenManager)
      (after : TokenState) (s' : World)
      (stored : s.accounts.tokenManagers a.tokenManagerPda = some tokenManager)
      (address : tokenManager.tokenAddress = a.mint)
      (called : env.tokens (.mintTo a.tokenProgram a.mint a.destinationAccount a.tokenManagerPda
        amount) [a.tokenManagerPda] s.chain.tokens = .ok after)
      (accounts : s'.accounts = s.accounts) :
      Effect env sysvar s (.mintInterchainToken a amount)
        [.tokens (.mintTo a.tokenProgram a.mint a.destinationAccount a.tokenManagerPda amount)
          s.chain.tokens after] s'

end AxelarSolana.Its
