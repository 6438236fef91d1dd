import AxelarSolana.Its.Administration

/-! # Registration of tokens

The instructions that set up a token manager on this chain at a user's request:

* **`deployInterchainToken`** — with a mint of its own, an initial supply and a minter;
* **`registerCanonicalInterchainToken`** — for a mint that exists, one manager for each mint;
* **`registerCustomToken`** — for a mint that exists, under an id that the deployer chooses.

What they share with the deployments and links requested by the hub stands first. As Anchor
generates the checks, the accounts that are created come before the constraints on the others. -/

namespace AxelarSolana.Its

open Fallible

variable (env : Env)

/-! ## Common parts -/

/-- `init` of an optional roles account: the bump, when the account is passed. Its seeds name the
user, who must then be passed too. -/
def newUserRolesPdaIfGiven (resource : Pubkey) (user key : Option Pubkey) (missing : ItsError)
    (s : World) : Except Error (Option UInt8) :=
  match key with
  | some key => do
    let user ← okOr user missing.err
    let bump ← newUserRolesPda env resource user key s
    pure (some bump)
  | none => pure none

/-- The user named by the arguments, as far as `view` shows it, and the two optional accounts for
its roles: all of them are given and agree, or none is given. -/
def matchingUser {α : Type} [DecidableEq α] (view : Pubkey → α) (argument : Option α)
    (user rolesPda : Option Pubkey) : Except Error Unit :=
  match argument, user, rolesPda with
  | some argument, some user, some _ => require (argument = view user) ItsError.invalidArgument.err
  | none, none, none => pure ()
  | _, _, _ => throw ItsError.invalidArgument.err

namespace World

variable (s : World)

/-- Write the roles account of the user, when it is passed. -/
def createUserRolesIfGiven (ctx : Ctx) (resource : Pubkey) (user key : Option Pubkey)
    (bump : Option UInt8) (roles : UInt8) : World :=
  match user, key, bump with
  | some user, some key, some bump => s.createUserRoles ctx key resource user ⟨roles, bump⟩
  | _, _, _ => s

end World

/-- The event that reports a token manager. -/
def tokenManagerDeployedEvent (tokenManager : Pubkey) (tokenId : Bytes32) (ty : TokenManagerType)
    (user : Option Pubkey) : ItsEvent :=
  .tokenManagerDeployed ⟨tokenId, tokenManager, ty.toByte, user.map List.Vector.toList⟩

/-! ## Instructions -/

/-- `mint_initial_supply`. -/
def mintInitialSupply (ctx : Ctx) (a : DeployInterchainToken) (initialSupply : UInt64)
    (s : World) : Except Error World :=
  tokenCall env ctx
    (.mintTo a.tokenProgram a.tokenMint a.deployerAta a.tokenManagerPda initialSupply)
    [a.tokenManagerPda] s

/-- `deploy_interchain_token`. -/
def deployInterchainToken (ctx : Ctx) (a : DeployInterchainToken) (salt : Bytes32)
    (name symbol : String) (decimals : UInt8) (initialSupply : UInt64) (s : World) :
    Except Error World := do
  Gateway.signer a.payer
  Gateway.signer a.deployer
  require (a.tokenProgram = env.token2022ProgramId) (.program .incorrectProgramId)
  let bump ← newTokenManagerPda env a.itsRootPda (env.interchainTokenId a.deployer.key salt)
    a.tokenManagerPda s
  let s ← initMint env ctx a.itsRootPda (env.interchainTokenId a.deployer.key salt) decimals
    a.tokenManagerPda a.tokenProgram a.tokenMint s
  let s ← associatedTokenAccountIfNeeded env ctx a.payer.key a.tokenManagerPda a.tokenMint
    a.tokenProgram a.tokenManagerAta s
  let s ← associatedTokenAccountIfNeeded env ctx a.payer.key a.deployer.key a.tokenMint
    a.tokenProgram a.deployerAta s
  let rolesBump ← newUserRolesPdaIfGiven env a.tokenManagerPda a.minter a.minterRolesPda
    .minterNotProvided s
  let _root ← unpausedRoot env a.itsRootPda s
  metadataAccount env a.tokenMint a.mplTokenMetadataAccount
  distinct [a.tokenManagerAta, a.deployerAta]
  let deploySalt := env.interchainTokenDeployerSalt a.deployer.key salt
  let tokenId := env.interchainTokenIdInternal deploySalt
  require (name.utf8ByteSize ≤ maxNameLength ∧ symbol.utf8ByteSize ≤ maxSymbolLength)
    ItsError.invalidArgument.err
  -- Validate minter accounts and initial supply
  (match a.minter, a.minterRolesPda with
    | some _, some _ => pure ()
    | none, none => require (initialSupply ≠ 0) ItsError.zeroSupplyToken.err
    | _, _ => throw ItsError.invalidAccountData.err)
  let s := s.createUserRolesIfGiven ctx a.tokenManagerPda a.minter a.minterRolesPda rolesBump
    (roles.OPERATOR ||| roles.FLOW_LIMITER ||| roles.MINTER)
  let s ← (if 0 < initialSupply then mintInitialSupply env ctx a initialSupply s else pure s)
  let s ← createTokenMetadata env ctx a.mplTokenMetadataAccount a.tokenMint a.tokenManagerPda
    a.payer.key name symbol s
  let s := s.createTokenManager ctx a.tokenManagerPda
    (TokenManager.initAccount .nativeInterchainToken tokenId a.tokenMint a.tokenManagerAta bump)
  let s := s.emit ctx (tokenManagerDeployedEvent a.tokenManagerPda tokenId .nativeInterchainToken
    a.minter)
  pure (s.emit ctx (.interchainTokenDeployed
    ⟨tokenId, a.tokenMint, name, symbol, decimals, a.minter⟩))

/-- `register_canonical_interchain_token`. -/
def registerCanonicalInterchainToken (ctx : Ctx) (a : RegisterCanonicalInterchainToken)
    (s : World) : Except Error World := do
  Gateway.signer a.payer
  tokenInterface env a.tokenProgram
  let bump ← newTokenManagerPda env a.itsRootPda (env.canonicalInterchainTokenId a.tokenMint)
    a.tokenManagerPda s
  let s ← associatedTokenAccountIfNeeded env ctx a.payer.key a.tokenManagerPda a.tokenMint
    a.tokenProgram a.tokenManagerAta s
  metadataAccount env a.tokenMint a.metadataAccount
  let _root ← unpausedRoot env a.itsRootPda s
  let mint ← mintOfProgram a.tokenProgram a.tokenMint s
  -- Metadata is required for canonical tokens
  (match getTokenMetadata a.tokenMint mint a.metadataAccount s with
    | .ok _ => pure ()
    | .error _ => throw ItsError.invalidAccountData.err)
  let ty : TokenManagerType := if mint.transferFeeConfig.isSome then .lockUnlockFee else .lockUnlock
  let deploySalt := env.canonicalInterchainTokenDeploySalt a.tokenMint
  let tokenId := env.interchainTokenIdInternal deploySalt
  let s := s.createTokenManager ctx a.tokenManagerPda
    (TokenManager.initAccount ty tokenId a.tokenMint a.tokenManagerAta bump)
  pure (s.emit ctx (tokenManagerDeployedEvent a.tokenManagerPda tokenId ty none))

/-- `register_custom_token`. -/
def registerCustomToken (ctx : Ctx) (a : RegisterCustomToken) (salt : Bytes32)
    (tokenManagerType : TokenManagerType) (operator : Option Pubkey) (s : World) :
    Except Error World := do
  Gateway.signer a.payer
  Gateway.signer a.deployer
  tokenInterface env a.tokenProgram
  let bump ← newTokenManagerPda env a.itsRootPda
    (env.interchainTokenIdInternal (env.linkedTokenDeployerSalt a.deployer.key salt))
    a.tokenManagerPda s
  let s ← associatedTokenAccountIfNeeded env ctx a.payer.key a.tokenManagerPda a.tokenMint
    a.tokenProgram a.tokenManagerAta s
  let rolesBump ← newUserRolesPdaIfGiven env a.tokenManagerPda a.operator a.operatorRolesPda
    .operatorNotProvided s
  let _root ← unpausedRoot env a.itsRootPda s
  let mint ← mintOfProgram a.tokenProgram a.tokenMint s
  require (tokenManagerType ≠ .nativeInterchainToken) ItsError.invalidInstructionData.err
  matchingUser id operator a.operator a.operatorRolesPda
  validateMintExtension tokenManagerType mint
  let deploySalt := env.linkedTokenDeployerSalt a.deployer.key salt
  let tokenId := env.interchainTokenIdInternal deploySalt
  let s := s.createTokenManager ctx a.tokenManagerPda
    (TokenManager.initAccount tokenManagerType tokenId a.tokenMint a.tokenManagerAta bump)
  let s := s.createUserRolesIfGiven ctx a.tokenManagerPda a.operator a.operatorRolesPda rolesBump
    (roles.OPERATOR ||| roles.FLOW_LIMITER)
  pure (s.emit ctx (tokenManagerDeployedEvent a.tokenManagerPda tokenId tokenManagerType operator))

/-! ## What success means -/

variable {env} {s : World}

/-- An optional roles account is absent, or new at the address of the user that is given. -/
@[simp] theorem newUserRolesPdaIfGiven_eq_ok {resource : Pubkey} {user key : Option Pubkey}
    {missing : ItsError} {bump : Option UInt8} :
    newUserRolesPdaIfGiven env resource user key missing s = .ok bump ↔
      (key = none ∧ bump = none) ∨ ∃ u k b, user = some u ∧ key = some k ∧ bump = some b ∧
        newUserRolesPda env resource u k s = .ok b := by
  unfold newUserRolesPdaIfGiven
  cases key with
  | none =>
    rw [pure_eq_ok, eq_comm]
    simp
  | some key =>
    simp only [bind_eq_ok, okOr_eq_ok, pure_eq_ok]
    constructor
    · rintro ⟨u, given, b, new, rfl⟩
      exact .inr ⟨u, key, b, given, rfl, rfl, new⟩
    · rintro (⟨absent, -⟩ | ⟨u, k, b, given, same, rfl, new⟩)
      · cases absent
      · cases same
        exact ⟨u, given, b, new, rfl⟩

/-- The argument names the user that is passed, and the roles account comes with the user. -/
@[simp] theorem matchingUser_eq_ok {α : Type} [DecidableEq α] {view : Pubkey → α}
    {argument : Option α} {user rolesPda : Option Pubkey} {u : Unit} :
    matchingUser view argument user rolesPda = .ok u ↔
      argument = user.map view ∧ user.isSome = rolesPda.isSome := by
  unfold matchingUser
  cases argument <;> cases user <;> cases rolesPda <;> simp

end AxelarSolana.Its
