import AxelarSolana.Its.DestinationSigners
import AxelarSolana.Its.ManagerIntegrity
import AxelarSolana.Its.Outcomes

/-! # Relayers

Whoever relays a message chooses the payer and every account that `execute` is given.

* **`ExecuteInterchainTransfer.Placed`**, **`ExecuteDeployInterchainToken.Placed`**,
  **`ExecuteLinkToken.Placed`** — where the accounts must be for an inner instruction to succeed;
  **`Placed.alike`**: the message and the state leave no choice.
* **`dispatch_agree`** — so the inner instruction that a message stands for leads to worlds that agree.
* **`relayers_do_not_interfere`** — two executions of a message in a state that a run reaches. -/

namespace AxelarSolana.Its

open Fallible Machine

variable {env : Env} {ctx ctx' : Ctx} {s s' t : World}

/-! ## Common parts -/

/-- **The seeds of the token managers**, and those of a token id. -/
inductive World.TokenSeeds (env : Env) (s : World) (tokenId : Bytes32) : List Bytes → Prop
  | stored (key rootKey : Pubkey) (tokenManager : TokenManager)
      (stored : s.accounts.tokenManagers key = some tokenManager) (root : s.RootAt env rootKey) :
      TokenSeeds env s tokenId (TokenManager.pdaSeeds tokenManager.tokenId rootKey)
  | named (rootKey : Pubkey) (root : s.RootAt env rootKey) :
      TokenSeeds env s tokenId (TokenManager.pdaSeeds tokenId rootKey)

/-- The root account that signs is at its address. -/
theorem signingRoot_rootAt {account : AccountMeta} {root : InterchainTokenService}
    (h : signingRoot env account s = .ok root) : s.RootAt env account.pubkey := by
  obtain ⟨loaded, -⟩ := signingRoot_eq_ok.mp h
  obtain ⟨loaded, -⟩ := unpausedRoot_eq_ok.mp loaded
  obtain ⟨stored, address⟩ := itsRootPda_eq_ok.mp loaded
  exact ⟨root, stored, address⟩

/-- An associated token account has one address. -/
theorem associatedTokenAddress_unique {authority mint tokenProgram key key' : Pubkey}
    (h : associatedTokenAddress env authority mint tokenProgram = .ok key)
    (h' : associatedTokenAddress env authority mint tokenProgram = .ok key') : key = key' :=
  Except.ok.inj (h.symm.trans h')

/-- **The seeds of a token manager name its token**, whatever its bump. -/
theorem tokenId_of_pda (canonical : AllCanonical env s) {tokenId : Bytes32} {rootKey key : Pubkey}
    {tokenManager : TokenManager} (apart : env.Apart (s.TokenSeeds env tokenId))
    (root : s.RootAt env rootKey) (stored : s.accounts.tokenManagers key = some tokenManager)
    (address : env.createProgramAddress (TokenManager.pdaSeeds tokenId rootKey ++
      [[tokenManager.bump]]) env.itsId = some key) : tokenManager.tokenId = tokenId := by
  obtain ⟨rootKey', root', found, -⟩ := canonical key tokenManager stored
  have seeds := apart _ _ key (.stored key rootKey' tokenManager stored root')
    (.named rootKey root) (derives_of_find found) ⟨_, address⟩
  simp only [TokenManager.pdaSeeds, List.cons.injEq, and_true, true_and] at seeds
  exact List.Vector.toList_injective seeds.2

/-- Setting up a token account makes no mint. -/
theorem associatedTokenAccountIfNeeded_mint (laws : QuietLaws env.tokens)
    {payer authority mint tokenProgram key : Pubkey}
    (h : associatedTokenAccountIfNeeded env ctx payer authority mint tokenProgram key s = .ok s')
    {address : Pubkey} {m : Mint} (stored : s'.chain.tokens.mints address = some m) :
    ∃ m₀, s.chain.tokens.mints address = some m₀ ∧ m₀.owner = m.owner := by
  simp only [associatedTokenAccountIfNeeded, bind_eq_ok, pure_eq_ok] at h
  obtain ⟨s₁, created, account, -, _, -, rfl⟩ := h
  split at created
  · obtain ⟨tokens, called, rfl⟩ := tokenCall_eq_ok.mp created
    have present : tokens.mints address = some m := stored
    have owners := (laws.quiet called rfl address).2.2
    rw [present, Option.map_some] at owners
    exact Option.map_eq_some_iff.mp owners.symm
  · rw [pure_eq_ok] at created
    subst created
    exact ⟨m, stored, rfl⟩

/-! ## Transfers -/

/-- **Where the accounts of a transfer must be.** -/
structure ExecuteInterchainTransfer.Placed (env : Env) (a : ExecuteInterchainTransfer)
    (destinationAddress : Pubkey) (tokenId : Bytes32) (s : World) : Prop where
  root : s.RootAt env a.itsRootPda.pubkey
  manager : ∃ tokenManager, s.accounts.tokenManagers a.tokenManagerPda.pubkey = some tokenManager ∧
    env.createProgramAddress (TokenManager.pdaSeeds tokenId a.itsRootPda.pubkey ++
      [[tokenManager.bump]]) env.itsId = some a.tokenManagerPda.pubkey ∧
    tokenManager.tokenAddress = a.tokenMint.pubkey
  program : ∃ m, s.chain.tokens.mints a.tokenMint.pubkey = some m ∧
    m.owner = a.tokenProgram.pubkey
  escrow : associatedTokenAddress env a.tokenManagerPda.pubkey a.tokenMint.pubkey
    a.tokenProgram.pubkey = .ok a.tokenManagerAta.pubkey
  destination : a.destination.pubkey = destinationAddress
  authority : destinationAuthority env destinationAddress s
    = .ok a.destinationTokenAuthority.pubkey
  recipient : associatedTokenAddress env a.destinationTokenAuthority.pubkey a.tokenMint.pubkey
    a.tokenProgram.pubkey = .ok a.destinationAta.pubkey

/-- A transfer that goes through has its accounts where they must be. -/
theorem executeInterchainTransfer_placed (laws : QuietLaws env.tokens)
    {a : ExecuteInterchainTransfer} {message : Message} {sourceChain : String}
    {sourceAddress : Bytes} {destinationAddress : Pubkey} {tokenId : Bytes32} {amount : UInt64}
    {data : Bytes}
    (h : executeInterchainTransfer env ctx a message sourceChain sourceAddress destinationAddress
      tokenId amount data s = .ok s') : a.Placed env destinationAddress tokenId s := by
  simp only [executeInterchainTransfer, bind_eq_ok, Prod.exists] at h
  obtain ⟨_, -, _, -, s₁, destinationAta, root, signed, _, destination, mint, minted, tokenManager,
    manager, _, address, escrow, ata, _, -, _, -, _, -, _, authority, _, -, -⟩ := h
  obtain ⟨recipient, -, -, accounts₁, owner₁, -⟩ :=
    associatedTokenAccountIfNeeded_ok destinationAta
  rw [require_eq_ok] at destination address
  rw [associatedTokenAccount_eq_ok] at ata
  rw [mintOfProgram_eq_ok] at minted
  rw [tokenManagerPda_eq_ok, accounts₁] at manager
  obtain ⟨m, stored, owned⟩ := associatedTokenAccountIfNeeded_mint laws destinationAta minted.1
  obtain ⟨r, stored_r, created⟩ := signingRoot_rootAt signed
  simp only [checkDestinationAuthority, bind_eq_ok, require_eq_ok] at authority
  obtain ⟨expected, found, rfl⟩ := authority
  refine
    { root := ⟨r, accounts₁ ▸ stored_r, created⟩
      manager := ⟨tokenManager, manager.1, manager.2, address⟩
      program := ⟨m, stored, owned.trans minted.2⟩
      escrow := ata.2.2.2
      destination
      authority := ?_
      recipient }
  rw [← destination]
  unfold destinationAuthority at found ⊢
  rwa [owner₁] at found

/-- **The message and the state leave no choice.** -/
theorem ExecuteInterchainTransfer.Placed.alike {a a' : ExecuteInterchainTransfer}
    {destinationAddress : Pubkey} {tokenId : Bytes32} (canonical : AllCanonical env s)
    (apart : env.Apart (s.TokenSeeds env tokenId)) (h : a.Placed env destinationAddress tokenId s)
    (h' : a'.Placed env destinationAddress tokenId s) : a.Alike a' := by
  obtain ⟨tokenManager, stored, address, mint⟩ := h.manager
  obtain ⟨tokenManager', stored', address', mint'⟩ := h'.manager
  have token := tokenId_of_pda canonical apart h.root stored address
  have token' := tokenId_of_pda canonical apart h'.root stored' address'
  have sameKey := canonical.unique stored stored' (token.trans token'.symm)
  have sameManager : tokenManager = tokenManager' := by
    rw [← sameKey] at stored'
    exact Option.some.inj (stored.symm.trans stored')
  have sameMint : a.tokenMint.pubkey = a'.tokenMint.pubkey := by
    rw [← mint, ← mint', sameManager]
  have sameProgram : a.tokenProgram.pubkey = a'.tokenProgram.pubkey := by
    obtain ⟨m, minted, owned⟩ := h.program
    obtain ⟨m', minted', owned'⟩ := h'.program
    rw [← sameMint] at minted'
    cases minted.symm.trans minted'
    exact owned.symm.trans owned'
  have sameAuthority : a.destinationTokenAuthority.pubkey = a'.destinationTokenAuthority.pubkey :=
    Except.ok.inj (h.authority.symm.trans h'.authority)
  have escrow := h'.escrow
  rw [← sameKey, ← sameMint, ← sameProgram] at escrow
  have recipient := h'.recipient
  rw [← sameAuthority, ← sameMint, ← sameProgram] at recipient
  exact
    { destination := h.destination.trans h'.destination.symm
      destinationTokenAuthority := sameAuthority
      destinationAta := associatedTokenAddress_unique h.recipient recipient
      tokenMint := sameMint
      tokenManagerPda := sameKey
      tokenManagerAta := associatedTokenAddress_unique h.escrow escrow
      tokenProgram := sameProgram }

/-! ## Roles accounts -/

/-- **Where an optional roles account must be**: given exactly when the user is, at the address that
belongs to the user. -/
structure RolesPlaced (env : Env) (resource : Pubkey) (user key : Option Pubkey) : Prop where
  given : user.isSome = key.isSome
  address : ∀ u k, user = some u → key = some k → ∃ bump,
    env.findProgramAddress (UserRoles.pdaSeeds resource u) env.itsId = .ok (k, bump)

/-- An optional roles account that is created is where it must be. -/
theorem rolesPlaced_of_new {resource : Pubkey} {user key : Option Pubkey} {missing : ItsError}
    {bump : Option UInt8} (given : user.isSome = key.isSome)
    (h : newUserRolesPdaIfGiven env resource user key missing s = .ok bump) :
    RolesPlaced env resource user key := by
  refine ⟨given, ?_⟩
  rintro u k rfl rfl
  rcases newUserRolesPdaIfGiven_eq_ok.mp h with ⟨absent, -⟩ | ⟨u', k', b, same, same', -, new⟩
  · cases absent
  · cases same
    cases same'
    exact ⟨b, (newUserRolesPda_eq_ok.mp new).2⟩

/-- A user has one roles account. -/
theorem RolesPlaced.unique {resource : Pubkey} {user key key' : Option Pubkey}
    (h : RolesPlaced env resource user key) (h' : RolesPlaced env resource user key') :
    key = key' := by
  have both : key.isSome = key'.isSome := h.given.symm.trans h'.given
  cases key with
  | none =>
    cases key' with
    | none => rfl
    | some k' => cases both
  | some k =>
    cases key' with
    | none => cases both
    | some k' =>
      obtain ⟨u, isUser⟩ := Option.isSome_iff_exists.mp h.given
      obtain ⟨bump, found⟩ := h.address u k isUser rfl
      obtain ⟨bump', found'⟩ := h'.address u k' isUser rfl
      rw [found_unique found found']

/-! ## Deployments -/

/-- **Where the accounts of a deployment must be.** -/
structure ExecuteDeployInterchainToken.Placed (env : Env) (a : ExecuteDeployInterchainToken)
    (tokenId : Bytes32) (minter : Bytes) (s : World) : Prop where
  root : s.RootAt env a.itsRootPda.pubkey
  program : a.tokenProgram.pubkey = env.token2022ProgramId
  manager : ∃ bump, env.findProgramAddress (TokenManager.pdaSeeds tokenId a.itsRootPda.pubkey)
    env.itsId = .ok (a.tokenManagerPda.pubkey, bump)
  mint : ∃ bump, env.findProgramAddress (TokenManager.tokenMintSeeds tokenId a.itsRootPda.pubkey)
    env.itsId = .ok (a.tokenMint.pubkey, bump)
  escrow : associatedTokenAddress env a.tokenManagerPda.pubkey a.tokenMint.pubkey
    a.tokenProgram.pubkey = .ok a.tokenManagerAta.pubkey
  minter : (if minter = [] then none else some minter)
    = (a.minter.map AccountMeta.pubkey).map List.Vector.toList
  roles : RolesPlaced env a.tokenManagerPda.pubkey (a.minter.map AccountMeta.pubkey)
    (a.minterRolesPda.map AccountMeta.pubkey)

/-- A deployment that goes through has its accounts where they must be. -/
theorem executeDeployInterchainToken_placed {a : ExecuteDeployInterchainToken} {tokenId : Bytes32}
    {name symbol : String} {decimals : UInt8} {minter : Bytes}
    (h : executeDeployInterchainToken env ctx a tokenId name symbol decimals minter s = .ok s') :
    a.Placed env tokenId minter s := by
  obtain ⟨bump, rolesBump, after, inbound, -, -⟩ := executeDeployInterchainToken_ok h
  obtain ⟨root, signed⟩ := inbound.root
  exact
    { root := signingRoot_rootAt signed
      program := inbound.program
      manager := ⟨bump, (newTokenManagerPda_eq_ok.mp inbound.new).2⟩
      mint := inbound.mint
      escrow := inbound.ata
      minter := inbound.minter
      roles := rolesPlaced_of_new inbound.given inbound.roles }

/-- **The message and the state leave no choice.** -/
theorem ExecuteDeployInterchainToken.Placed.alike {a a' : ExecuteDeployInterchainToken}
    {tokenId : Bytes32} {minter : Bytes} (h : a.Placed env tokenId minter s)
    (h' : a'.Placed env tokenId minter s) : a.Alike a' := by
  have sameRoot := h.root.unique h'.root
  have sameManager : a.tokenManagerPda.pubkey = a'.tokenManagerPda.pubkey := by
    obtain ⟨bump, found⟩ := h.manager
    obtain ⟨bump', found'⟩ := h'.manager
    rw [← sameRoot] at found'
    exact found_unique found found'
  have sameMint : a.tokenMint.pubkey = a'.tokenMint.pubkey := by
    obtain ⟨bump, found⟩ := h.mint
    obtain ⟨bump', found'⟩ := h'.mint
    rw [← sameRoot] at found'
    exact found_unique found found'
  have sameProgram := h.program.trans h'.program.symm
  have sameMinter : a.minter.map AccountMeta.pubkey = a'.minter.map AccountMeta.pubkey :=
    Option.map_injective List.Vector.toList_injective (h.minter.symm.trans h'.minter)
  have escrow := h'.escrow
  rw [← sameManager, ← sameMint, ← sameProgram] at escrow
  have roles := h'.roles
  rw [← sameManager, ← sameMinter] at roles
  exact
    { itsRootPda := sameRoot
      tokenManagerPda := sameManager
      tokenMint := sameMint
      tokenManagerAta := associatedTokenAddress_unique h.escrow escrow
      tokenProgram := sameProgram
      minter := sameMinter
      minterRolesPda := h.roles.unique roles }

/-! ## Links -/

/-- **Where the accounts of a link must be.** -/
structure ExecuteLinkToken.Placed (env : Env) (a : ExecuteLinkToken)
    (tokenId destinationTokenAddress : Bytes32) (linkParams : Bytes) (s : World) : Prop where
  root : s.RootAt env a.itsRootPda.pubkey
  manager : ∃ bump, env.findProgramAddress (TokenManager.pdaSeeds tokenId a.itsRootPda.pubkey)
    env.itsId = .ok (a.tokenManagerPda.pubkey, bump)
  mint : destinationTokenAddress = a.tokenMint.pubkey
  program : ∃ m, s.chain.tokens.mints a.tokenMint.pubkey = some m ∧
    m.owner = a.tokenProgram.pubkey
  escrow : associatedTokenAddress env a.tokenManagerPda.pubkey a.tokenMint.pubkey
    a.tokenProgram.pubkey = .ok a.tokenManagerAta.pubkey
  operator : bytes32FromSlice linkParams = a.operator.map AccountMeta.pubkey
  roles : RolesPlaced env a.tokenManagerPda.pubkey (a.operator.map AccountMeta.pubkey)
    (a.operatorRolesPda.map AccountMeta.pubkey)

/-- A link that goes through has its accounts where they must be. -/
theorem executeLinkToken_placed (laws : QuietLaws env.tokens) {a : ExecuteLinkToken}
    {tokenId destinationTokenAddress : Bytes32} {tokenManagerType : UInt8} {linkParams : Bytes}
    (h : executeLinkToken env ctx a tokenId destinationTokenAddress tokenManagerType linkParams s
      = .ok s') : a.Placed env tokenId destinationTokenAddress linkParams s := by
  obtain ⟨ty, bump, rolesBump, inbound, -, -⟩ := executeLinkToken_ok h
  simp only [executeLinkToken, bind_eq_ok] at h
  obtain ⟨_, -, _, -, _, -, s₁, ata, _, -, _, -, mint, minted, -⟩ := h
  rw [mintOfProgram_eq_ok] at minted
  obtain ⟨m, stored, owned⟩ := associatedTokenAccountIfNeeded_mint laws ata minted.1
  obtain ⟨root, signed⟩ := inbound.root
  exact
    { root := signingRoot_rootAt signed
      manager := ⟨bump, (newTokenManagerPda_eq_ok.mp inbound.new).2⟩
      mint := inbound.mint
      program := ⟨m, stored, owned.trans minted.2⟩
      escrow := inbound.ata
      operator := inbound.operator
      roles := rolesPlaced_of_new inbound.given inbound.roles }

/-- **The message and the state leave no choice.** -/
theorem ExecuteLinkToken.Placed.alike {a a' : ExecuteLinkToken}
    {tokenId destinationTokenAddress : Bytes32} {linkParams : Bytes}
    (h : a.Placed env tokenId destinationTokenAddress linkParams s)
    (h' : a'.Placed env tokenId destinationTokenAddress linkParams s) : a.Alike a' := by
  have sameRoot := h.root.unique h'.root
  have sameManager : a.tokenManagerPda.pubkey = a'.tokenManagerPda.pubkey := by
    obtain ⟨bump, found⟩ := h.manager
    obtain ⟨bump', found'⟩ := h'.manager
    rw [← sameRoot] at found'
    exact found_unique found found'
  have sameMint := h.mint.symm.trans h'.mint
  have sameProgram : a.tokenProgram.pubkey = a'.tokenProgram.pubkey := by
    obtain ⟨m, minted, owned⟩ := h.program
    obtain ⟨m', minted', owned'⟩ := h'.program
    rw [← sameMint] at minted'
    cases minted.symm.trans minted'
    exact owned.symm.trans owned'
  have sameOperator := h.operator.symm.trans h'.operator
  have escrow := h'.escrow
  rw [← sameManager, ← sameMint, ← sameProgram] at escrow
  have roles := h'.roles
  rw [← sameManager, ← sameOperator] at roles
  exact
    { itsRootPda := sameRoot
      tokenManagerPda := sameManager
      tokenMint := sameMint
      tokenManagerAta := associatedTokenAddress_unique h.escrow escrow
      tokenProgram := sameProgram
      operator := sameOperator
      operatorRolesPda := h.roles.unique roles }

/-! ## The inner instruction -/

/-- Worlds that agree have the same root account. -/
theorem World.Agrees.rootAt (h : s.Agrees t) {key : Pubkey} (here : t.RootAt env key) :
    s.RootAt env key := by
  obtain ⟨root, stored, address⟩ := here
  exact ⟨root, h.accounts ▸ stored, address⟩

/-- What places the accounts of a transfer is the same in worlds that agree. -/
theorem ExecuteInterchainTransfer.Placed.congr {a : ExecuteInterchainTransfer}
    {destinationAddress : Pubkey} {tokenId : Bytes32} (agrees : s.Agrees t)
    (h : a.Placed env destinationAddress tokenId t) : a.Placed env destinationAddress tokenId s where
  root := agrees.rootAt h.root
  manager := agrees.accounts ▸ h.manager
  program := agrees.chain ▸ h.program
  escrow := h.escrow
  destination := h.destination
  authority := by
    have authority := h.authority
    unfold destinationAuthority at authority ⊢
    rwa [agrees.chain]
  recipient := h.recipient

/-- Where the accounts of a deployment must be is the same in worlds that agree. -/
theorem ExecuteDeployInterchainToken.Placed.congr {a : ExecuteDeployInterchainToken}
    {tokenId : Bytes32} {minter : Bytes} (agrees : s.Agrees t)
    (h : a.Placed env tokenId minter t) : a.Placed env tokenId minter s :=
  { h with root := agrees.rootAt h.root }

/-- Where the accounts of a link must be is the same in worlds that agree. -/
theorem ExecuteLinkToken.Placed.congr {a : ExecuteLinkToken}
    {tokenId destinationTokenAddress : Bytes32} {linkParams : Bytes} (agrees : s.Agrees t)
    (h : a.Placed env tokenId destinationTokenAddress linkParams t) :
    a.Placed env tokenId destinationTokenAddress linkParams s :=
  { h with
    root := agrees.rootAt h.root
    program := agrees.chain ▸ h.program }

/-- **The inner instruction that a message stands for leads to worlds that agree**, with whatever
accounts it is called. -/
theorem dispatch_agree (laws : QuietLaws env.tokens) (funding : FundingLaws env.tokens)
    (canonical : AllCanonical env s) {inner : Encoding.Message}
    (apart : env.Apart (s.TokenSeeds env inner.tokenId)) (clock : ctx.sysvar = ctx'.sysvar)
    {a a' : Execute} {message : Message} {payload : Bytes} {sourceChain : String}
    (agrees : s.Agrees t) :
    Agree World.Agrees (dispatch env ctx a message payload sourceChain inner s)
      (dispatch env ctx' a' message payload sourceChain inner t) := by
  -- both executions succeed, so the accounts of both are where the message says they must be
  intro s' t' h h'
  cases inner with
  | interchainTransfer transfer =>
    simp only [dispatch, cpiExecuteInterchainTransfer, bind_eq_ok] at h h'
    obtain ⟨destination, parsed, h⟩ := h
    obtain ⟨destination', parsed', h'⟩ := h'
    cases Except.ok.inj (parsed.symm.trans parsed')
    split at h
    case h_2 => exact absurd h throw_ne_ok
    case h_1 =>
      split at h'
      case h_2 => exact absurd h' throw_ne_ok
      case h_1 =>
        rw [bind_eq_ok] at h h'
        obtain ⟨_, -, h⟩ := h
        obtain ⟨_, -, h'⟩ := h'
        have placed := executeInterchainTransfer_placed laws h
        have placed' := (executeInterchainTransfer_placed laws h').congr agrees
        have alike := placed.alike canonical apart placed'
        refine executeInterchainTransfer_agree funding alike ?_ agrees s' t' h h'
        exact clock
  | deployInterchainToken deploy =>
    simp only [dispatch, cpiExecuteDeployInterchainToken] at h h'
    split at h
    case h_2 => exact absurd h throw_ne_ok
    case h_1 =>
      split at h'
      case h_2 => exact absurd h' throw_ne_ok
      case h_1 =>
        rw [bind_eq_ok] at h h'
        obtain ⟨_, -, h⟩ := h
        obtain ⟨_, -, h'⟩ := h'
        have placed := executeDeployInterchainToken_placed h
        have placed' := (executeDeployInterchainToken_placed h').congr agrees
        exact executeDeployInterchainToken_agree funding (placed.alike placed') agrees s' t' h h'
  | linkToken link =>
    simp only [dispatch, cpiExecuteLinkToken, bind_eq_ok] at h h'
    obtain ⟨tokenAddress, parsed, _, -, h⟩ := h
    obtain ⟨tokenAddress', parsed', _, -, h'⟩ := h'
    cases Except.ok.inj (parsed.symm.trans parsed')
    have placed := executeLinkToken_placed laws h
    have placed' := (executeLinkToken_placed laws h').congr agrees
    exact executeLinkToken_agree funding (placed.alike placed') agrees s' t' h h'

/-! ## Execution -/

/-- Two executions of a message validate it in the same way. -/
theorem Accepts.sameGateway {a a' : Execute} {message : Message} {payload : Bytes}
    {sourceChain sourceChain' : String} {inner inner' : Encoding.Message}
    {gateway gateway' : Gateway.GatewayState}
    (h : Accepts env ctx a message payload sourceChain inner gateway s)
    (h' : Accepts env ctx' a' message payload sourceChain' inner' gateway' s)
    (clock : ctx.sysvar = ctx'.sysvar) : gateway = gateway' := by
  obtain ⟨incoming, stored, created⟩ := h.signingPda
  obtain ⟨incoming', stored', created'⟩ := h'.signingPda
  cases stored.symm.trans stored'
  have validated := h.validated
  rw [Option.some.inj (created.symm.trans created'), clock] at validated
  exact Except.ok.inj (validated.symm.trans h'.validated)

/-- **Relayers do not interfere.** In every state that a run reaches, any two successful executions of
a message at the same time, with whatever payer and accounts, leave the same accounts of the program
and the same chain, and report the same events and the same calls of destination programs. -/
theorem relayers_do_not_interfere (env : Env) (laws : QuietLaws env.tokens)
    (funding : FundingLaws env.tokens) (owner : Pubkey → Pubkey) (gas : GasService.GasState)
    (calls : List (Call env)) (sysvar : Sysvar) (message : Message) (payload : Bytes)
    (a a' : Execute)
    (outside : ∀ key ∈ (ItsInstruction.execute a message payload).signers, env.SignsOutside key)
    (outside' : ∀ key ∈ (ItsInstruction.execute a' message payload).signers, env.SignsOutside key)
    (t t' : World)
    (apart : ∀ sourceChain inner, Encoding.HubMessage.codec.decodeAll payload
      = some (.receiveFromHub sourceChain inner) →
      env.Apart ((run (step env) (World.initial owner gas) calls).TokenSeeds env inner.tokenId))
    (executed : step env (.instruction sysvar (.execute a message payload) outside)
      (run (step env) (World.initial owner gas) calls) = .ok t)
    (executed' : step env (.instruction sysvar (.execute a' message payload) outside')
      (run (step env) (World.initial owner gas) calls) = .ok t') : t.Agrees t' := by
  have canonical := canonical_run env owner gas calls
  generalize run (step env) (World.initial owner gas) calls = s at *
  have first : execute env ⟨sysvar, .external, .execute a message payload⟩ a message payload s
      = .ok t := executed
  have second : execute env ⟨sysvar, .external, .execute a' message payload⟩ a' message payload s
      = .ok t' := executed'
  obtain ⟨sourceChain, inner, gateway, accepts, dispatched⟩ := execute_ok first
  obtain ⟨sourceChain', inner', gateway', accepts', dispatched'⟩ := execute_ok second
  cases accepts.decoded.symm.trans accepts'.decoded
  -- both accept the same message, so they leave the same gateway behind
  cases accepts.sameGateway accepts' rfl
  have accepting := (accepting_performs accepts).keep (fun _ _ _ move => move.canonical) canonical
  have agrees :
      (s.accepting ⟨sysvar, .external, .execute a message payload⟩ sourceChain inner gateway).Agrees
        (s.accepting ⟨sysvar, .external, .execute a' message payload⟩ sourceChain inner gateway) :=
    ((World.Agrees.refl s).withChain _).recordSame _
  refine dispatch_agree laws funding accepting ?_ rfl agrees t t' dispatched dispatched'
  refine (apart sourceChain inner accepts.decoded).mono fun seeds named => ?_
  cases named with
  | stored key rootKey tokenManager stored root => exact .stored key rootKey tokenManager stored root
  | named rootKey root => exact .named rootKey root

/-- In the environment of a table the token managers of different ids are at different addresses. -/
theorem tableEnv_tokenSeeds_apart {table : List Bytes}
    {decodePayload : Bytes → Except Error (List AccountMeta × Bytes)} (short : table.length ≤ 256)
    (s : World) (tokenId : Bytes32) : (tableEnv table decodePayload).Apart
      (s.TokenSeeds (tableEnv table decodePayload) tokenId) := by
  rintro x y key hx hy ⟨bump, created⟩ ⟨bump', created'⟩
  have bytes := tableEnv_injective short created created'
  simp only [List.flatten_append, List.append_cancel_right_eq] at bytes
  obtain ⟨same, -⟩ := List.append_inj' bytes rfl
  have pda : ∀ seeds, s.TokenSeeds (tableEnv table decodePayload) tokenId seeds →
      ∃ id rootKey, seeds = TokenManager.pdaSeeds id rootKey := by
    rintro seeds (⟨-, rootKey, tokenManager, -, -⟩ | ⟨rootKey, -⟩)
    · exact ⟨_, rootKey, rfl⟩
    · exact ⟨_, rootKey, rfl⟩
  obtain ⟨id, rootKey, rfl⟩ := pda x hx
  obtain ⟨id', rootKey', rfl⟩ := pda y hy
  obtain ⟨rfl, rfl⟩ := flatten_pair_inj same
  rfl

/-- The accounts of another relayer: another payer, and more privileges than anybody asks for. -/
def lendingRelayed : Execute :=
  { lendingAccounts with
    payer := ⟨sampleWallet 6, true, true⟩
    signingPda := ⟨sampleAddress 10, false, true⟩
    tokenProgram := ⟨sampleProgramId 2, false, true⟩
    remainingAccounts := [⟨lendingProgram, false, true⟩, ⟨sampleAddress 14, false, true⟩,
      ⟨sampleAddress 15, false, true⟩, ⟨sampleAddress 13, false, true⟩,
      ⟨sampleAddress 0, false, false⟩] }

/-- Nobody signs for the service. -/
theorem lendingRelayed_outside : ∀ key ∈
    (ItsInstruction.execute lendingRelayed lendingMessage lendingPayload).signers,
    lendingEnv.SignsOutside key := tableEnv_signsOutside (by decide +kernel)

/-- Two wallets may relay the transfer, with accounts of their own and with one outcome. -/
theorem relayers_do_not_interfere_sample :
    let s := run (step lendingEnv) lendingInitial lendingStart
    ∃ t t', step lendingEnv lendingExecute s = .ok t ∧
      step lendingEnv (.instruction Gateway.sampleSysvar
        (.execute lendingRelayed lendingMessage lendingPayload) lendingRelayed_outside) s = .ok t' ∧
      t.Agrees t' := by
  intro s
  have first : ((step lendingEnv lendingExecute s).toOption.any fun _ => true) = true := by
    decide +kernel
  have second : ((step lendingEnv (.instruction Gateway.sampleSysvar
      (.execute lendingRelayed lendingMessage lendingPayload) lendingRelayed_outside) s).toOption.any
        fun _ => true) = true := by
    decide +kernel
  obtain ⟨t, executed, -⟩ := (Option.any_eq_true _ _).mp first
  obtain ⟨t', executed', -⟩ := (Option.any_eq_true _ _).mp second
  refine ⟨t, t', toOption_eq_some.mp executed, toOption_eq_some.mp executed', ?_⟩
  exact relayers_do_not_interfere lendingEnv tableEnv_laws.toQuietLaws (TokenProgram.funding _) _ _
    lendingStart Gateway.sampleSysvar lendingMessage lendingPayload lendingAccounts lendingRelayed
    lendingAccounts_outside lendingRelayed_outside t t'
    (fun _ inner _ => tableEnv_tokenSeeds_apart (by decide +kernel) _ inner.tokenId)
    (toOption_eq_some.mp executed) (toOption_eq_some.mp executed')

end AxelarSolana.Its
