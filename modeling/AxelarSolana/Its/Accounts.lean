import AxelarSolana.Its.World

/-! # Account constraints and calls of other programs

What several instructions share: the checks that Anchor generates for an account of each kind, and
the calls of the token programs. Each comes with the lemma that says what its success means.

* **`itsRootPda`**, **`tokenManagerPda`**, **`userRolesPda`** — accounts of the program that exist,
  and `new…` for those created by `init`.
* **`mintAccount`**, **`associatedTokenAccount`** — accounts of the token programs.
* **`tokenCall`** — a call of a token program, on the record.
* **`associatedTokenAccountIfNeeded`**, **`initMint`**, **`createTokenMetadata`** — the calls that
  set a token up. -/

namespace AxelarSolana.Its

open Fallible

variable (env : Env)

/-! ## Accounts of the program -/

/-- A `Signer` account. -/
def signer (account : AccountMeta) : Except Error Unit :=
  require account.isSigner (.anchor .accountNotSigner)

/-- `program_data` with the payer as the program's upgrade authority. -/
def programData (sysvar : Sysvar) (payer : Pubkey) : Except Error Unit :=
  require (sysvar.upgradeAuthorityAddress env.itsId = some payer) ItsError.invalidAccountData.err

/-- Mutable accounts must be distinct. -/
def distinct (keys : List Pubkey) : Except Error Unit :=
  require keys.Nodup (.anchor .constraintDuplicateMutableAccount)

/-- `its_root_pda` with `seeds = [SEED_PREFIX], bump = its_root_pda.bump`. -/
def itsRootPda (key : Pubkey) (s : World) : Except Error InterchainTokenService := do
  let root ← okOr s.accounts.root (.anchor .accountNotInitialized)
  require (env.createProgramAddress (InterchainTokenService.pdaSeeds ++ [[root.bump]]) env.itsId
    = some key) (.anchor .constraintSeeds)
  pure root

/-- `its_root_pda` with the constraint that the service is not paused. -/
def unpausedRoot (key : Pubkey) (s : World) : Except Error InterchainTokenService := do
  let root ← itsRootPda env key s
  require (root.paused = false) ItsError.paused.err
  pure root

/-- `token_manager_pda` with `seeds = [SEED_PREFIX, its_root_pda, token_id]` and its own bump. -/
def tokenManagerPda (itsRootPda : Pubkey) (tokenId : Bytes32) (key : Pubkey) (s : World) :
    Except Error TokenManager := do
  let tokenManager ← okOr (s.accounts.tokenManagers key) (.anchor .accountNotInitialized)
  require (env.createProgramAddress (TokenManager.pdaSeeds tokenId itsRootPda ++
    [[tokenManager.bump]]) env.itsId = some key) (.anchor .constraintSeeds)
  pure tokenManager

/-- `token_manager_pda` with the seeds of the token id that it holds itself. -/
def ownTokenManagerPda (itsRootPda key : Pubkey) (s : World) : Except Error TokenManager := do
  let tokenManager ← okOr (s.accounts.tokenManagers key) (.anchor .accountNotInitialized)
  require (env.createProgramAddress (TokenManager.pdaSeeds tokenManager.tokenId itsRootPda ++
    [[tokenManager.bump]]) env.itsId = some key) (.anchor .constraintSeeds)
  pure tokenManager

/-- `init` of a token manager: the canonical bump. -/
def newTokenManagerPda (itsRootPda : Pubkey) (tokenId : Bytes32) (key : Pubkey) (s : World) :
    Except Error UInt8 :=
  env.initPda (TokenManager.pdaSeeds tokenId itsRootPda) env.itsId key
    (s.accounts.tokenManagers key = none)

/-- A roles account with `seeds = [SEED_PREFIX, resource, user]` and its own bump. -/
def userRolesPda (resource user key : Pubkey) (s : World) : Except Error UserRoles := do
  let roles ← okOr (s.accounts.userRoles key) (.anchor .accountNotInitialized)
  require (env.createProgramAddress (UserRoles.pdaSeeds resource user ++ [[roles.bump]]) env.itsId
    = some key) (.anchor .constraintSeeds)
  pure roles

/-- `init` of a roles account: the canonical bump. -/
def newUserRolesPda (resource user key : Pubkey) (s : World) : Except Error UInt8 :=
  env.initPda (UserRoles.pdaSeeds resource user) env.itsId key (s.accounts.userRoles key = none)

/-- `init_if_needed` of a roles account: its data, zeroed when it is new, and the canonical
bump. -/
def userRolesPdaIfNeeded (resource user key : Pubkey) (s : World) :
    Except Error (UserRoles × UInt8) := do
  let found ← env.findProgramAddress (UserRoles.pdaSeeds resource user) env.itsId
  require (key = found.1) (.anchor .constraintSeeds)
  pure ((s.accounts.userRoles key).getD ⟨roles.EMPTY, 0⟩, found.2)

/-- A roles account on exit: closed when no role is left. -/
def UserRoles.orClosed (self : UserRoles) : Option UserRoles :=
  if self.hasRoles then some self else none

/-! ## Accounts of the token programs -/

/-- `Interface<TokenInterface>`. -/
def tokenInterface (tokenProgram : Pubkey) : Except Error Unit :=
  require (tokenProgram = env.tokenProgramId ∨ tokenProgram = env.token2022ProgramId)
    (.program .incorrectProgramId)

/-- `InterfaceAccount<Mint>`. -/
def mintAccount (key : Pubkey) (s : World) : Except Error Mint :=
  okOr (s.chain.tokens.mints key) (.anchor .accountNotInitialized)

/-- `InterfaceAccount<Mint>` with `mint::token_program = token_program`. -/
def mintOfProgram (tokenProgram key : Pubkey) (s : World) : Except Error Mint := do
  let mint ← mintAccount key s
  require (mint.owner = tokenProgram) (.anchor .constraintMintTokenProgram)
  pure mint

/-- `InterfaceAccount<TokenAccount>`. -/
def tokenAccount (key : Pubkey) (s : World) : Except Error TokenAccount :=
  okOr (s.chain.tokens.accounts key) (.anchor .accountNotInitialized)

/-- `get_associated_token_address_with_program_id`. -/
def associatedTokenAddress (authority mint tokenProgram : Pubkey) : Except Error Pubkey := do
  let found ← env.findProgramAddress [authority.toList, tokenProgram.toList, mint.toList]
    env.associatedTokenProgramId
  pure found.1

/-- A token account with the `associated_token` constraints. -/
def associatedTokenAccount (authority mint tokenProgram key : Pubkey) (s : World) :
    Except Error TokenAccount := do
  let account ← tokenAccount key s
  require (account.authority = authority) (.anchor .constraintTokenOwner)
  let address ← associatedTokenAddress env authority mint tokenProgram
  require (key = address) (.anchor .constraintAssociated)
  require (account.owner = tokenProgram) (.anchor .constraintTokenTokenProgram)
  pure account

/-! ## Calls of the token programs -/

/-- **A call of a token program**, with the addresses that sign it. -/
def tokenCall (ctx : Ctx) (instruction : TokenInstruction) (signers : List Pubkey) (s : World) :
    Except Error World := do
  let tokens ← env.tokens instruction signers s.chain.tokens
  pure ((s.record ctx (.tokens instruction s.chain.tokens tokens)).withChain
    { s.chain with tokens })

/-- `init_if_needed` of an associated token account. -/
def associatedTokenAccountIfNeeded (ctx : Ctx) (payer authority mint tokenProgram key : Pubkey)
    (s : World) : Except Error World := do
  let s ← (if s.chain.tokens.accounts key = none then
      tokenCall env ctx (.create payer key authority mint tokenProgram) [payer] s
    else pure s)
  let account ← associatedTokenAccount env authority mint tokenProgram key s
  require (account.mint = mint) (.anchor .constraintTokenMint)
  pure s

/-- `init` of the mint of an interchain token, with the token manager as its authority: the account
is created with the signature of its own address. -/
def initMint (ctx : Ctx) (itsRootPda : Pubkey) (tokenId : Bytes32) (decimals : UInt8)
    (tokenManager tokenProgram key : Pubkey) (s : World) : Except Error World := do
  let _bump ← env.initPda (TokenManager.tokenMintSeeds tokenId itsRootPda) env.itsId key
    (s.chain.tokens.mints key = none)
  tokenCall env ctx
    (.initializeMint2 tokenProgram key decimals tokenManager (some tokenManager)) [key] s

/-- An account with the address of `Metadata::find_pda`. -/
def metadataAccount (mint key : Pubkey) : Except Error Unit := do
  let found ← env.findProgramAddress
    [Codec.utf8 "metadata", env.mplTokenMetadataId.toList, mint.toList] env.mplTokenMetadataId
  require (key = found.1) (.anchor .constraintAddress)

/-- `create_token_metadata`: the token manager signs as the mint's authority. -/
def createTokenMetadata (ctx : Ctx) (metadata mint tokenManager payer : Pubkey)
    (name symbol : String) (s : World) : Except Error World :=
  tokenCall env ctx (.createV1 metadata mint tokenManager payer name symbol) [tokenManager, payer] s

/-- `trim_end_matches('\0')`. -/
def trimEndNul (s : String) : String :=
  String.ofList ((s.toList.reverse.dropWhile fun c => c = '\x00').reverse)

/-- `get_token_metadata`: the mint's own metadata when its pointer points at itself, else the
metadata account. -/
def getTokenMetadata (key : Pubkey) (mint : Mint) (metadataAccount : Pubkey) (s : World) :
    Except Error (String × String) :=
  match mint.metadataAddress, mint.tokenMetadata with
  | some address, some metadata =>
    if address = key then pure metadata else metaplex
  | _, _ => metaplex
where
  /-- The fallback on the metadata account. -/
  metaplex : Except Error (String × String) := do
    let metadata ← okOr (s.chain.tokens.metadata metadataAccount)
      ItsError.invalidMetaplexDataAccount.err
    require (metadata.mint = key) ItsError.invalidArgument.err
    pure (trimEndNul metadata.name, trimEndNul metadata.symbol)

/-- `Type::validate_mint_extension_account`. -/
def validateMintExtension (ty : TokenManagerType) (mint : Mint) : Except Error Unit :=
  require (ty.supportsMintExtensions mint.transferFeeConfig.isSome)
    ItsError.tokenManagerMintExtensionMismatch.err

/-- Whether a token manager of a type mints and burns. -/
def TokenManagerType.mints : TokenManagerType → Bool
  | .nativeInterchainToken | .mintBurn | .mintBurnFrom => true
  | .lockUnlock | .lockUnlockFee => false

/-- `validate_token_manager_type`: the manager must be the mint's authority to mint and burn. -/
def validateTokenManagerType (ty : TokenManagerType) (mint : Mint) (tokenManager : Pubkey) :
    Except Error Unit :=
  match mint.mintAuthority, ty.mints with
  | none, true => throw ItsError.invalidInstructionData.err
  | some key, true => require (key = tokenManager) ItsError.invalidInstructionData.err
  | _, false => pure ()

/-- `get_fee_and_decimals`. -/
def getFeeAndDecimals (sysvar : Sysvar) (mint : Mint) (amount : UInt64) :
    Except Error (UInt64 × UInt8) := do
  let feeConfig ← okOr mint.transferFeeConfig (.program .invalidAccountData)
  let fee ← okOr (env.calculateEpochFee feeConfig sysvar.epoch amount)
    ItsError.arithmeticOverflow.err
  pure (fee, mint.decimals)

/-- `get_mint_decimals`. -/
def getMintDecimals (mint : Mint) : Except Error UInt8 := pure mint.decimals

/-! ## What success means -/

variable {env} {s s' : World}

/-- A `Signer` accepts exactly the accounts with the signer flag. -/
@[simp] theorem signer_eq_ok {account : AccountMeta} {u : Unit} :
    signer account = .ok u ↔ account.isSigner = true := require_eq_ok

/-- The program data check accepts exactly the upgrade authority. -/
@[simp] theorem programData_eq_ok {sysvar : Sysvar} {payer : Pubkey} {u : Unit} :
    programData env sysvar payer = .ok u ↔
      sysvar.upgradeAuthorityAddress env.itsId = some payer := require_eq_ok

/-- The duplicate check accepts exactly the lists without duplicates. -/
@[simp] theorem distinct_eq_ok {keys : List Pubkey} {u : Unit} :
    distinct keys = .ok u ↔ keys.Nodup := require_eq_ok

/-- The root account loads when it is stored and the key is the address of its seeds and its bump.
-/
@[simp] theorem itsRootPda_eq_ok {key : Pubkey} {root : InterchainTokenService} :
    itsRootPda env key s = .ok root ↔ s.accounts.root = some root ∧
      env.createProgramAddress (InterchainTokenService.pdaSeeds ++ [[root.bump]]) env.itsId
        = some key := by
  simp only [itsRootPda, bind_eq_ok, okOr_eq_ok, require_eq_ok, pure_eq_ok]
  constructor
  · rintro ⟨_, stored, _, address, rfl⟩
    exact ⟨stored, address⟩
  · rintro ⟨stored, address⟩
    exact ⟨root, stored, (), address, rfl⟩

/-- The pause check adds that the root is not paused. -/
@[simp] theorem unpausedRoot_eq_ok {key : Pubkey} {root : InterchainTokenService} :
    unpausedRoot env key s = .ok root ↔ itsRootPda env key s = .ok root ∧ root.paused = false := by
  simp only [unpausedRoot, bind_eq_ok, require_eq_ok, pure_eq_ok]
  constructor
  · rintro ⟨_, loaded, _, unpaused, rfl⟩
    exact ⟨loaded, unpaused⟩
  · rintro ⟨loaded, unpaused⟩
    exact ⟨root, loaded, (), unpaused, rfl⟩

/-- A token manager loads when it is stored at the key and the key is the address of its token id
and its bump. -/
@[simp] theorem tokenManagerPda_eq_ok {itsRootPda key : Pubkey} {tokenId : Bytes32}
    {tokenManager : TokenManager} :
    tokenManagerPda env itsRootPda tokenId key s = .ok tokenManager ↔
      s.accounts.tokenManagers key = some tokenManager ∧
      env.createProgramAddress (TokenManager.pdaSeeds tokenId itsRootPda ++ [[tokenManager.bump]])
        env.itsId = some key := by
  simp only [tokenManagerPda, bind_eq_ok, okOr_eq_ok, require_eq_ok, pure_eq_ok]
  constructor
  · rintro ⟨_, stored, _, address, rfl⟩
    exact ⟨stored, address⟩
  · rintro ⟨stored, address⟩
    exact ⟨tokenManager, stored, (), address, rfl⟩

/-- With the seeds read from the account itself, the token id is its own. -/
@[simp] theorem ownTokenManagerPda_eq_ok {itsRootPda key : Pubkey} {tokenManager : TokenManager} :
    ownTokenManagerPda env itsRootPda key s = .ok tokenManager ↔
      tokenManagerPda env itsRootPda tokenManager.tokenId key s = .ok tokenManager := by
  simp only [ownTokenManagerPda, tokenManagerPda_eq_ok, bind_eq_ok, okOr_eq_ok, require_eq_ok,
    pure_eq_ok]
  constructor
  · rintro ⟨_, stored, _, address, rfl⟩
    exact ⟨stored, address⟩
  · rintro ⟨stored, address⟩
    exact ⟨tokenManager, stored, (), address, rfl⟩

/-- `init` of a token manager: nothing is stored at the key, which is the canonical address of the
token id. -/
@[simp] theorem newTokenManagerPda_eq_ok {itsRootPda key : Pubkey} {tokenId : Bytes32}
    {bump : UInt8} :
    newTokenManagerPda env itsRootPda tokenId key s = .ok bump ↔
      s.accounts.tokenManagers key = none ∧
      env.findProgramAddress (TokenManager.pdaSeeds tokenId itsRootPda) env.itsId
        = .ok (key, bump) :=
  Syscalls.initPda_eq_ok _

/-- A roles account loads when it is stored at the key and the key is the address of the resource,
the user and its bump. -/
@[simp] theorem userRolesPda_eq_ok {resource user key : Pubkey} {roles : UserRoles} :
    userRolesPda env resource user key s = .ok roles ↔ s.accounts.userRoles key = some roles ∧
      env.createProgramAddress (UserRoles.pdaSeeds resource user ++ [[roles.bump]]) env.itsId
        = some key := by
  simp only [userRolesPda, bind_eq_ok, okOr_eq_ok, require_eq_ok, pure_eq_ok]
  constructor
  · rintro ⟨_, stored, _, address, rfl⟩
    exact ⟨stored, address⟩
  · rintro ⟨stored, address⟩
    exact ⟨roles, stored, (), address, rfl⟩

/-- `init` of a roles account: nothing is stored at the key, which is the canonical address of the
resource and the user. -/
@[simp] theorem newUserRolesPda_eq_ok {resource user key : Pubkey} {bump : UInt8} :
    newUserRolesPda env resource user key s = .ok bump ↔ s.accounts.userRoles key = none ∧
      env.findProgramAddress (UserRoles.pdaSeeds resource user) env.itsId = .ok (key, bump) :=
  Syscalls.initPda_eq_ok _

/-- `init_if_needed` of a roles account: what is stored at the canonical address, or an empty
account. -/
@[simp] theorem userRolesPdaIfNeeded_eq_ok {resource user key : Pubkey} {found : UserRoles × UInt8} :
    userRolesPdaIfNeeded env resource user key s = .ok found ↔
      env.findProgramAddress (UserRoles.pdaSeeds resource user) env.itsId = .ok (key, found.2) ∧
      found.1 = (s.accounts.userRoles key).getD ⟨roles.EMPTY, 0⟩ := by
  obtain ⟨r, bump⟩ := found
  simp only [userRolesPdaIfNeeded, bind_eq_ok, require_eq_ok, pure_eq_ok, Prod.mk.injEq]
  constructor
  · rintro ⟨⟨key', bump'⟩, found, _, rfl, rfl, rfl⟩
    exact ⟨found, rfl⟩
  · rintro ⟨found, rfl⟩
    exact ⟨_, found, (), rfl, rfl, rfl⟩

/-- A mint loads exactly when it is stored. -/
@[simp] theorem mintAccount_eq_ok {key : Pubkey} {mint : Mint} :
    mintAccount key s = .ok mint ↔ s.chain.tokens.mints key = some mint := okOr_eq_ok

/-- A token account loads exactly when it is stored. -/
@[simp] theorem tokenAccount_eq_ok {key : Pubkey} {account : TokenAccount} :
    tokenAccount key s = .ok account ↔ s.chain.tokens.accounts key = some account := okOr_eq_ok

/-- With `mint::token_program`, the mint is owned by this program. -/
@[simp] theorem mintOfProgram_eq_ok {tokenProgram key : Pubkey} {mint : Mint} :
    mintOfProgram tokenProgram key s = .ok mint ↔
      s.chain.tokens.mints key = some mint ∧ mint.owner = tokenProgram := by
  simp only [mintOfProgram, bind_eq_ok, mintAccount_eq_ok, require_eq_ok, pure_eq_ok]
  constructor
  · rintro ⟨_, stored, _, owned, rfl⟩
    exact ⟨stored, owned⟩
  · rintro ⟨stored, owned⟩
    exact ⟨mint, stored, (), owned, rfl⟩

/-- An associated account loads when it is stored at its address, with its authority and its
program. -/
@[simp] theorem associatedTokenAccount_eq_ok {authority mint tokenProgram key : Pubkey}
    {account : TokenAccount} :
    associatedTokenAccount env authority mint tokenProgram key s = .ok account ↔
      s.chain.tokens.accounts key = some account ∧ account.authority = authority ∧
      account.owner = tokenProgram ∧
      associatedTokenAddress env authority mint tokenProgram = .ok key := by
  simp only [associatedTokenAccount, bind_eq_ok, tokenAccount_eq_ok, require_eq_ok, pure_eq_ok]
  constructor
  · rintro ⟨_, stored, _, belongs, _, address, _, rfl, _, owned, rfl⟩
    exact ⟨stored, belongs, owned, address⟩
  · rintro ⟨stored, belongs, owned, address⟩
    exact ⟨account, stored, (), belongs, key, address, (), rfl, (), owned, rfl⟩

/-- **What a call of a token program does**: the call is recorded with the tokens before and after
it. -/
@[simp] theorem tokenCall_eq_ok {ctx : Ctx} {instruction : TokenInstruction}
    {signers : List Pubkey} :
    tokenCall env ctx instruction signers s = .ok s' ↔
      ∃ tokens, env.tokens instruction signers s.chain.tokens = .ok tokens ∧
        s' = (s.record ctx (.tokens instruction s.chain.tokens tokens)).withChain
          { s.chain with tokens } := by
  simp only [tokenCall, bind_eq_ok, pure_eq_ok]
  exact exists_congr fun _ => and_congr_right fun _ => eq_comm

end AxelarSolana.Its
