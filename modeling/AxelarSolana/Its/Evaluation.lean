import AxelarSolana.Its.Effects

/-! # What each instruction does

One lemma for each instruction that is called from outside: its effect, and the moves that make it
up. The three inner instructions and `execute` are in the next file. -/

namespace AxelarSolana.Its

open Fallible

variable {env : Env} {ctx : Ctx} {sysvar : Sysvar} {s s' : World}

/-! ## Administration -/

/-- A successful `initialize` has its effect, in moves. -/
theorem initializeService_ok {a : Initialize} {chainName itsHubAddress : String}
    (h : initializeService env ctx a chainName itsHubAddress s = .ok s') :
    ∃ l, Effect env ctx.sysvar s (.initializeService a chainName itsHubAddress) l s' ∧
      Performs env ctx s l s' := by
  simp only [initializeService, bind_eq_ok, Syscalls.initPda_eq_ok, pure_eq_ok] at h
  obtain ⟨_, -, _, -, bump, ⟨fresh, address⟩, rolesBump, granted, _, -, _, -, rfl⟩ := h
  refine ⟨_, .initialises a chainName itsHubAddress bump rolesBump _ _ fresh address granted rfl,
    performs_createUserRoles.andThen (performs_setRoot ?_)⟩
  intro root stored
  have same : s.accounts.root = some root := stored
  rw [fresh] at same
  cases same

/-- A successful `set_pause_status` has its effect, in moves. -/
theorem setPauseStatus_ok {a : SetPauseStatus} {paused : Bool}
    (h : setPauseStatus env ctx a paused s = .ok s') :
    ∃ l, Effect env ctx.sysvar s (.setPauseStatus a paused) l s' ∧ Performs env ctx s l s' := by
  simp only [setPauseStatus, bind_eq_ok, require_eq_ok, pure_eq_ok, itsRootPda_eq_ok] at h
  obtain ⟨_, -, _, -, root, ⟨stored, -⟩, _, -, _, -, rfl⟩ := h
  refine ⟨_, .pauses a paused root _ _ stored rfl, performs_setRoot fun r hr => ?_⟩
  cases stored.symm.trans hr
  rfl

/-- A successful `set_trusted_chain` has its effect, in moves. -/
theorem setTrustedChain_ok {a : SetTrustedChain} {chainName : String}
    (h : setTrustedChain env ctx a chainName s = .ok s') :
    ∃ l, Effect env ctx.sysvar s (.setTrustedChain a chainName) l s' ∧ Performs env ctx s l s' := by
  simp only [setTrustedChain, bind_eq_ok, require_eq_ok, pure_eq_ok, itsRootPda_eq_ok] at h
  obtain ⟨_, -, root, ⟨stored, -⟩, _, absent, _, -, rfl⟩ := h
  refine ⟨_, .trusts a chainName root _ _ stored absent rfl,
    Performs.andThen (.loud (.emit _) rfl) (performs_setRoot fun r hr => ?_)⟩
  have same : s.accounts.root = some r := hr
  cases stored.symm.trans same
  unfold InterchainTokenService.addTrustedChain
  split <;> rfl

/-- A successful `remove_trusted_chain` has its effect, in moves. -/
theorem removeTrustedChain_ok {a : RemoveTrustedChain} {chainName : String}
    (h : removeTrustedChain env ctx a chainName s = .ok s') :
    ∃ l, Effect env ctx.sysvar s (.removeTrustedChain a chainName) l s' ∧
      Performs env ctx s l s' := by
  simp only [removeTrustedChain, bind_eq_ok, require_eq_ok, pure_eq_ok, itsRootPda_eq_ok] at h
  obtain ⟨_, -, root, ⟨stored, -⟩, _, present, _, -, rfl⟩ := h
  refine ⟨_, .distrusts a chainName root _ _ stored present rfl,
    Performs.andThen (.loud (.emit _) rfl) (performs_setRoot fun r hr => ?_)⟩
  have same : s.accounts.root = some r := hr
  cases stored.symm.trans same
  rfl

/-- A successful `set_flow_limit` has its effect, in moves. -/
theorem setFlowLimit_ok {a : SetFlowLimit} {flowLimit : Option UInt64}
    (h : setFlowLimit env ctx a flowLimit s = .ok s') :
    ∃ l, Effect env ctx.sysvar s (.setFlowLimit a flowLimit) l s' ∧ Performs env ctx s l s' := by
  simp only [setFlowLimit, bind_eq_ok, require_eq_ok, pure_eq_ok, ownTokenManagerPda_eq_ok,
    tokenManagerPda_eq_ok] at h
  obtain ⟨_, -, _, -, root, -, itsRoles, -, _, -, tokenManager, ⟨stored, -⟩, _, -, rfl⟩ := h
  refine ⟨_, .limits _ a.tokenManagerPda tokenManager flowLimit _ rfl stored rfl,
    (performs_emit rfl).andThen (performs_setFlowSlot ?_)⟩
  exact stored

/-- A successful `set_token_manager_flow_limit` has its effect, in moves. -/
theorem setTokenManagerFlowLimit_ok {a : SetTokenManagerFlowLimit} {flowLimit : Option UInt64}
    (h : setTokenManagerFlowLimit env ctx a flowLimit s = .ok s') :
    ∃ l, Effect env ctx.sysvar s (.setTokenManagerFlowLimit a flowLimit) l s' ∧
      Performs env ctx s l s' := by
  simp only [setTokenManagerFlowLimit, bind_eq_ok, require_eq_ok, pure_eq_ok,
    ownTokenManagerPda_eq_ok, tokenManagerPda_eq_ok] at h
  obtain ⟨_, -, _, -, root, -, tokenManager, ⟨stored, -⟩, roles, -, _, -, rfl⟩ := h
  refine ⟨_, .limits _ a.tokenManagerPda tokenManager flowLimit _ rfl stored rfl,
    (performs_emit rfl).andThen (performs_setFlowSlot ?_)⟩
  exact stored

/-- The three transfers of a role have the same body: the role leaves one account and enters
another. -/
theorem transferRole_ok {role : UInt8} {missing : ItsError} {resource : Pubkey} {a : TransferRole}
    (h : transferRole env role missing resource a s = .ok s') :
    ∃ origin destination, RoleMoved env role resource a origin destination s s' ∧
      Performs env ctx s [] s' := by
  simp only [transferRole, bind_eq_ok, require_eq_ok, pure_eq_ok] at h
  obtain ⟨_, -, _, signed, origin, loaded, _, holds, _, apart, destination, received, rfl⟩ := h
  exact ⟨origin, destination,
    { signed := Gateway.signer_eq_ok.mp signed
      loaded
      holds
      apart
      received
      accounts := rfl }, performs_setUserRoles.andThen performs_setUserRoles⟩

/-- A successful `transfer_operatorship` has its effect, in moves. -/
theorem transferOperatorship_ok {a : TransferOperatorship}
    (h : transferOperatorship env a s = .ok s') :
    ∃ l, Effect env sysvar s (.transferOperatorship a) l s' ∧ Performs env ctx s l s' := by
  simp only [transferOperatorship, bind_eq_ok] at h
  obtain ⟨root, loaded, _, -, h⟩ := h
  obtain ⟨origin, destination, moved, performs⟩ := transferRole_ok h
  exact ⟨_, .movesRootRole a _ root origin destination s' rfl loaded moved, performs⟩

/-- A successful `transfer_token_manager_operatorship` has its effect, in moves. -/
theorem transferTokenManagerOperatorship_ok {a : TransferTokenManagerOperatorship}
    (h : transferTokenManagerOperatorship env a s = .ok s') :
    ∃ l, Effect env sysvar s (.transferTokenManagerOperatorship a) l s' ∧
      Performs env ctx s l s' := by
  simp only [transferTokenManagerOperatorship, bind_eq_ok, ownTokenManagerPda_eq_ok,
    tokenManagerPda_eq_ok] at h
  obtain ⟨root, -, tokenManager, ⟨stored, -⟩, _, -, h⟩ := h
  obtain ⟨origin, destination, moved, performs⟩ := transferRole_ok h
  exact ⟨_, .movesRole _ _ _ _ tokenManager origin destination s' rfl stored moved, performs⟩

/-- A successful `transfer_interchain_token_mintership` has its effect, in moves. -/
theorem transferInterchainTokenMintership_ok {a : TransferInterchainTokenMintership}
    (h : transferInterchainTokenMintership env a s = .ok s') :
    ∃ l, Effect env sysvar s (.transferInterchainTokenMintership a) l s' ∧
      Performs env ctx s l s' := by
  simp only [transferInterchainTokenMintership, bind_eq_ok, ownTokenManagerPda_eq_ok,
    tokenManagerPda_eq_ok] at h
  obtain ⟨root, -, tokenManager, ⟨stored, -⟩, h⟩ := h
  obtain ⟨origin, destination, moved, performs⟩ := transferRole_ok h
  exact ⟨_, .movesRole _ _ _ _ tokenManager origin destination s' rfl stored moved, performs⟩

/-- A successful `add_token_manager_flow_limiter` has its effect, in moves. -/
theorem addTokenManagerFlowLimiter_ok {a : AddTokenManagerFlowLimiter}
    (h : addTokenManagerFlowLimiter env a s = .ok s') :
    ∃ l, Effect env sysvar s (.addTokenManagerFlowLimiter a) l s' ∧
      Performs env ctx s l s' := by
  simp only [addTokenManagerFlowLimiter, bind_eq_ok, require_eq_ok, pure_eq_ok,
    ownTokenManagerPda_eq_ok, tokenManagerPda_eq_ok] at h
  obtain ⟨_, -, _, signed, authority, loaded, _, operator, root, -, tokenManager, ⟨stored, -⟩, target,
    received, _, -, rfl⟩ := h
  exact ⟨_, .addsFlowLimiter a tokenManager authority target _ (Gateway.signer_eq_ok.mp signed)
    loaded operator stored received rfl, performs_setUserRoles⟩

/-- A successful `remove_token_manager_flow_limiter` has its effect, in moves. -/
theorem removeTokenManagerFlowLimiter_ok {a : RemoveTokenManagerFlowLimiter}
    (h : removeTokenManagerFlowLimiter env a s = .ok s') :
    ∃ l, Effect env sysvar s (.removeTokenManagerFlowLimiter a) l s' ∧
      Performs env ctx s l s' := by
  simp only [removeTokenManagerFlowLimiter, bind_eq_ok, require_eq_ok, pure_eq_ok,
    ownTokenManagerPda_eq_ok, tokenManagerPda_eq_ok] at h
  obtain ⟨_, -, _, -, authority, -, _, -, root, -, tokenManager, ⟨stored, -⟩, target, loaded, _, -,
    rfl⟩ := h
  exact ⟨_, .removesFlowLimiter a tokenManager target _ stored loaded rfl, performs_setUserRoles⟩

/-- The authority of the mint, from outside the program, passes it to the token manager. -/
theorem handoverMintAuthority_ok {a : HandoverMintAuthority} {tokenId : Bytes32}
    (h : handoverMintAuthority env ctx a tokenId s = .ok s')
    (outside : a.authority.isSigner = true → env.SignsOutside a.authority.key) :
    ∃ l, Effect env ctx.sysvar s (.handoverMintAuthority a tokenId) l s' ∧
      Performs env ctx s l s' := by
  simp only [handoverMintAuthority, bind_eq_ok, require_eq_ok, pure_eq_ok] at h
  obtain ⟨_, -, _, signed, _, -, mint, minted, _, authority, root, loaded, tokenManager, manager, _,
    address, _, type, minter, received, s₁, called, rfl⟩ := h
  have signs := Gateway.signer_eq_ok.mp signed
  obtain ⟨success, accounts, -, performs⟩ := tokenCall_performs called (by
    intro _ key mem
    rw [List.mem_singleton] at mem
    rw [mem]
    exact outside signs)
  refine ⟨_, .handsOver a tokenId mint tokenManager minter _
    { signed := signs
      minted := (mintOfProgram_eq_ok.mp minted).1
      authority
      manager := ⟨root, loaded, manager⟩
      address
      type
      loaded := received
      called := success
      accounts := ?_ }, Performs.andThen performs performs_setUserRoles⟩
  show s₁.accounts.setUserRoles _ _ = _
  rw [accounts]

/-- The token manager of a mint mints for a minter. -/
theorem mintInterchainToken_ok {a : MintInterchainToken} {amount : UInt64}
    (h : mintInterchainToken env ctx a amount s = .ok s') :
    ∃ l, Effect env ctx.sysvar s (.mintInterchainToken a amount) l s' ∧ Performs env ctx s l s' := by
  simp only [mintInterchainToken, bind_eq_ok, require_eq_ok, ownTokenManagerPda_eq_ok,
    tokenManagerPda_eq_ok] at h
  obtain ⟨_, -, mint, -, destination, -, _, -, _, -, root, -, tokenManager, ⟨stored, -⟩, _, same, _,
    -, minterRoles, -, _, -, _, -, called⟩ := h
  obtain ⟨success, accounts, -, performs⟩ := tokenCall_loud called rfl rfl
  exact ⟨_, .mints a amount tokenManager _ s' stored same success accounts, performs⟩

/-! ## Registration -/

/-- The root account does not depend on the tokens. -/
theorem itsRootPda_congr {key : Pubkey} (same : s'.accounts = s.accounts) :
    itsRootPda env key s' = itsRootPda env key s := by
  unfold itsRootPda
  rw [same]

/-- A new token manager does not depend on the tokens. -/
theorem newTokenManagerPda_congr {rootKey key : Pubkey} {tokenId : Bytes32}
    (same : s'.accounts = s.accounts) :
    newTokenManagerPda env rootKey tokenId key s' = newTokenManagerPda env rootKey tokenId key s := by
  unfold newTokenManagerPda
  rw [same]

/-- An optional roles account does not depend on the tokens. -/
theorem newUserRolesPdaIfGiven_congr {resource : Pubkey} {user key : Option Pubkey}
    {missing : ItsError} (same : s'.accounts = s.accounts) :
    newUserRolesPdaIfGiven env resource user key missing s'
      = newUserRolesPdaIfGiven env resource user key missing s := by
  unfold newUserRolesPdaIfGiven newUserRolesPda
  rw [same]

/-- A token manager for a mint that exists. -/
theorem newTokenManager_existing {key rootKey : Pubkey} {ty : TokenManagerType}
    {tokenId : Bytes32} {mint ata tokenProgram : Pubkey} {bump : UInt8} {m : Mint}
    {root : InterchainTokenService}
    (new : newTokenManagerPda env rootKey tokenId key s = .ok bump)
    (loaded : itsRootPda env rootKey s = .ok root)
    (address : associatedTokenAddress env key mint tokenProgram = .ok ata)
    (stored : mintOfProgram tokenProgram mint s = .ok m)
    (supported : ty.supportsMintExtensions m.transferFeeConfig.isSome = true)
    (custom : ty ≠ .nativeInterchainToken) :
    NewTokenManager env key (TokenManager.initAccount ty tokenId mint ata bump) s := by
  rw [newTokenManagerPda_eq_ok] at new
  rw [itsRootPda_eq_ok] at loaded
  rw [mintOfProgram_eq_ok] at stored
  exact ⟨new.1, ⟨root, rootKey, loaded.1, loaded.2, new.2, fun native => absurd native custom⟩,
    tokenProgram, address, .existing m stored.1 stored.2 supported custom⟩

/-- A native token manager, for the mint created before it. -/
theorem newTokenManager_initialised {key rootKey : Pubkey} {tokenId : Bytes32}
    {mint ata tokenProgram : Pubkey} {bump decimals : UInt8} {root : InterchainTokenService}
    {before after : TokenState}
    (new : newTokenManagerPda env rootKey tokenId key s = .ok bump)
    (loaded : itsRootPda env rootKey s = .ok root)
    (address : associatedTokenAddress env key mint tokenProgram = .ok ata)
    (mintOf : ∃ bump, env.findProgramAddress (TokenManager.tokenMintSeeds tokenId rootKey) env.itsId
      = .ok (mint, bump))
    (created : env.tokens (.initializeMint2 tokenProgram mint decimals key (some key)) [mint] before
      = .ok after)
    (since : TokenSteps env after s.chain.tokens) :
    NewTokenManager env key
      (TokenManager.initAccount .nativeInterchainToken tokenId mint ata bump) s := by
  rw [newTokenManagerPda_eq_ok] at new
  rw [itsRootPda_eq_ok] at loaded
  exact ⟨new.1, ⟨root, rootKey, loaded.1, loaded.2, new.2, fun _ => mintOf⟩, tokenProgram, address,
    .initialised decimals before after created since rfl⟩

/-- The roles of the optional user of a registration, and the accounts with them. -/
theorem granted_of_new (ctx : Ctx) (roles : UInt8) {resource : Pubkey} {user key : Option Pubkey}
    {missing : ItsError} {bump : Option UInt8}
    (new : newUserRolesPdaIfGiven env resource user key missing s = .ok bump) :
    ∃ accounts, Granted env s.accounts resource roles
        (userRolesEvents resource user key bump roles) accounts ∧
      (∀ t : World, t.accounts = s.accounts →
        (t.createUserRolesIfGiven ctx resource user key bump roles).accounts = accounts) ∧
      ∀ (t : World) (k : Pubkey) (tokenManager : TokenManager),
        t.accounts = s.accounts.setTokenManager k tokenManager →
        (t.createUserRolesIfGiven ctx resource user key bump roles).accounts
          = accounts.setTokenManager k tokenManager := by
  rw [newUserRolesPdaIfGiven_eq_ok] at new
  rcases new with ⟨rfl, rfl⟩ | ⟨u, k, b, rfl, rfl, rfl, fresh⟩
  · have same : ∀ t : World, t.createUserRolesIfGiven ctx resource user none none roles = t := by
      intro t
      cases user <;> rfl
    have quiet : userRolesEvents resource user none none roles = [] := by
      cases user <;> rfl
    rw [quiet]
    refine ⟨s.accounts, .nobody, fun t start => ?_, fun t k tokenManager start => ?_⟩
    · rw [same, start]
    · rw [same, start]
  · rw [newUserRolesPda_eq_ok] at fresh
    refine ⟨_, .user u k b fresh.1 fresh.2, fun t same => ?_, fun t key tokenManager same => ?_⟩
    · show t.accounts.setUserRoles k (some ⟨roles, b⟩) = _
      rw [same]
    · show t.accounts.setUserRoles k (some ⟨roles, b⟩) = _
      rw [same]
      rfl

/-- A manager at a new address is registered. -/
theorem registered_of_new {key rootKey : Pubkey} {tokenId : Bytes32} (ty : TokenManagerType)
    (mint ata : Pubkey) {bump : UInt8} {root : InterchainTokenService} {granted : List LogEvent}
    {accounts : Accounts} (loaded : itsRootPda env rootKey s = .ok root)
    (new : newTokenManagerPda env rootKey tokenId key s = .ok bump)
    (grants : Granted env s.accounts key (registrationRoles ty) granted accounts)
    (written : s'.accounts
      = accounts.setTokenManager key (TokenManager.initAccount ty tokenId mint ata bump)) :
    Registered env key (TokenManager.initAccount ty tokenId mint ata bump) granted s s' where
  manager := ⟨rootKey, root, loaded, new⟩
  flowSlot := rfl
  accounts := ⟨accounts, grants, written⟩

/-- A manager is registered for a mint, once. -/
theorem registerCanonicalInterchainToken_ok {a : RegisterCanonicalInterchainToken}
    (h : registerCanonicalInterchainToken env ctx a s = .ok s') :
    ∃ l, Effect env ctx.sysvar s (.registerCanonicalInterchainToken a) l s' ∧
      Performs env ctx s l s' := by
  simp only [registerCanonicalInterchainToken, bind_eq_ok, unpausedRoot_eq_ok] at h
  obtain ⟨_, -, _, -, bump, new, s₁, ata, _, -, root, ⟨loaded, -⟩, m, stored, _, -, h⟩ := h
  obtain ⟨address, -, -, accounts, -, quiet⟩ := associatedTokenAccountIfNeeded_ok ata
  rw [← newTokenManagerPda_congr accounts] at new
  rw [pure_eq_ok] at h
  have manager : NewTokenManager env a.tokenManagerPda (TokenManager.initAccount
      (if m.transferFeeConfig.isSome then .lockUnlockFee else .lockUnlock)
      (env.canonicalInterchainTokenId a.tokenMint) a.tokenMint a.tokenManagerAta bump) s₁ := by
    refine newTokenManager_existing new loaded address stored ?_ ?_
    · cases m.transferFeeConfig <;> rfl
    · split <;> exact TokenManagerType.noConfusion
  rw [newTokenManagerPda_congr accounts] at new
  rw [itsRootPda_congr accounts] at loaded
  refine ⟨_, .registers _ a.tokenManagerPda _ [] s' rfl (registered_of_new
    (if m.transferFeeConfig.isSome then .lockUnlockFee else .lockUnlock) a.tokenMint
    a.tokenManagerAta loaded new .nobody ?_), ?_⟩
  · rw [← h, ← accounts]
    rfl
  · rw [← h]
    exact Performs.andThen (quiet.trans (performs_createTokenManager manager)) (performs_emit rfl)

/-- A manager of a chosen type is registered for a mint, with an operator. -/
theorem registerCustomToken_ok {a : RegisterCustomToken} {salt : Bytes32}
    {ty : TokenManagerType} {operator : Option Pubkey}
    (h : registerCustomToken env ctx a salt ty operator s = .ok s') :
    ∃ l, Effect env ctx.sysvar s (.registerCustomToken a salt ty operator) l s' ∧
      Performs env ctx s l s' := by
  simp only [registerCustomToken, bind_eq_ok, unpausedRoot_eq_ok, require_eq_ok, pure_eq_ok] at h
  obtain ⟨_, -, _, -, _, -, bump, new, s₁, ata, rolesBump, newRoles, root, ⟨loaded, -⟩, m, stored, _,
    custom, _, -, _, supported, rfl⟩ := h
  obtain ⟨address, -, -, accounts, -, quiet⟩ := associatedTokenAccountIfNeeded_ok ata
  rw [validateMintExtension, require_eq_ok] at supported
  rw [← newTokenManagerPda_congr accounts] at new
  have manager := newTokenManager_existing new loaded address stored supported custom
  rw [newTokenManagerPda_congr accounts] at new
  rw [itsRootPda_congr accounts] at loaded
  rw [newUserRolesPdaIfGiven_congr accounts] at newRoles
  have granting : registrationRoles ty = roles.OPERATOR ||| roles.FLOW_LIMITER := by
    cases ty with
    | nativeInterchainToken => exact absurd rfl custom
    | _ => rfl
  obtain ⟨accounts', granted, -, written⟩ :=
    granted_of_new ctx (registrationRoles ty) newRoles
  refine ⟨_, .registers _ a.tokenManagerPda _ _ _ rfl
    (registered_of_new ty a.tokenMint a.tokenManagerAta loaded new granted ?_), ?_⟩
  · rw [← granting]
    refine written _ a.tokenManagerPda _ ?_
    rw [← accounts]
    rfl
  · rw [granting]
    refine Performs.andThen (quiet.trans ?_) (performs_emit rfl)
    exact (performs_createTokenManager manager).trans createUserRolesIfGiven_performs

/-- The initial supply is minted when there is one. -/
theorem mintInitialSupply_ok {a : DeployInterchainToken} {initialSupply : UInt64}
    (h : (if 0 < initialSupply then mintInitialSupply env ctx a initialSupply s else pure s)
      = .ok s') :
    (0 < initialSupply → env.tokens (.mintTo a.tokenProgram a.tokenMint a.deployerAta
      a.tokenManagerPda initialSupply) [a.tokenManagerPda] s.chain.tokens
        = .ok s'.chain.tokens) ∧
    TokenSteps env s.chain.tokens s'.chain.tokens ∧ s'.accounts = s.accounts ∧
    Performs env ctx s (initialSupplyEvents a initialSupply s.chain.tokens s'.chain.tokens) s' := by
  by_cases some : 0 < initialSupply
  · rw [if_pos some] at h
    obtain ⟨called, accounts, -, performs⟩ := tokenCall_loud h rfl rfl
    refine ⟨fun _ => called, .single ⟨_, _, rfl, called⟩, accounts, ?_⟩
    rwa [initialSupplyEvents, if_pos some]
  · rw [if_neg some, pure_eq_ok] at h
    subst h
    refine ⟨fun h => absurd h some, .refl, rfl, ?_⟩
    rw [initialSupplyEvents, if_neg some]
    exact .refl s

/-- A mint is created with its manager, a minter and an initial supply. -/
theorem deployInterchainToken_ok {a : DeployInterchainToken} {salt : Bytes32}
    {name symbol : String} {decimals : UInt8} {initialSupply : UInt64}
    (h : deployInterchainToken env ctx a salt name symbol decimals initialSupply s = .ok s') :
    ∃ l, Effect env ctx.sysvar s
        (.deployInterchainToken a salt name symbol decimals initialSupply) l s' ∧
      Performs env ctx s l s' := by
  unfold deployInterchainToken at h
  obtain ⟨_, -, h⟩ := bind_eq_ok.mp h
  obtain ⟨_, signed, h⟩ := bind_eq_ok.mp h
  obtain ⟨_, -, h⟩ := bind_eq_ok.mp h
  obtain ⟨bump, new, h⟩ := bind_eq_ok.mp h
  obtain ⟨s₁, mint, h⟩ := bind_eq_ok.mp h
  obtain ⟨s₂, ata, h⟩ := bind_eq_ok.mp h
  obtain ⟨s₃, deployerAta, h⟩ := bind_eq_ok.mp h
  obtain ⟨rolesBump, newRoles, h⟩ := bind_eq_ok.mp h
  obtain ⟨root, unpaused, h⟩ := bind_eq_ok.mp h
  obtain ⟨_, -, h⟩ := bind_eq_ok.mp h
  obtain ⟨_, -, h⟩ := bind_eq_ok.mp h
  obtain ⟨_, -, h⟩ := bind_eq_ok.mp h
  obtain ⟨_, -, h⟩ := bind_eq_ok.mp h
  obtain ⟨s₄, supply, h⟩ := bind_eq_ok.mp h
  obtain ⟨s₅, metadata, h⟩ := bind_eq_ok.mp h
  rw [pure_eq_ok] at h
  obtain ⟨loaded, -⟩ := unpausedRoot_eq_ok.mp unpaused
  obtain ⟨mintOf, created, accounts₁, -, minting⟩ := initMint_ok mint
  obtain ⟨address, -, steps₂, accounts₂, -, quiet₂⟩ := associatedTokenAccountIfNeeded_ok ata
  obtain ⟨-, belongs, steps₃, accounts₃, -, quiet₃⟩ :=
    associatedTokenAccountIfNeeded_ok deployerAta
  obtain ⟨minted, steps₄, accounts₄, supplied⟩ := mintInitialSupply_ok supply
  obtain ⟨steps₅, accounts₅, -, quiet₅⟩ := createTokenMetadata_ok metadata
  rw [createUserRolesIfGiven_chain] at minted steps₄ supplied
  have since : TokenSteps env s₁.chain.tokens s₃.chain.tokens := steps₂.trans steps₃
  -- the accounts of the program do not change until the roles are granted
  have before : s₃.accounts = s.accounts := (accounts₃.trans accounts₂).trans accounts₁
  rw [itsRootPda_congr before] at loaded
  rw [newUserRolesPdaIfGiven_congr before] at newRoles
  obtain ⟨accounts, granted, written, -⟩ := granted_of_new ctx
    (registrationRoles .nativeInterchainToken) newRoles
  have after : s₅.accounts = accounts := (accounts₅.trans accounts₄).trans (written s₃ before)
  have managers : s₅.accounts.tokenManagers = s.accounts.tokenManagers := by
    rw [accounts₅, accounts₄, createUserRolesIfGiven_tokenManagers, before]
  have root₅ : s₅.accounts.root = s.accounts.root := by
    rw [accounts₅, accounts₄, createUserRolesIfGiven_root, before]
  have new' : newTokenManagerPda env a.itsRootPda (env.interchainTokenId a.deployer.key salt)
      a.tokenManagerPda s₅ = .ok bump := by
    rw [newTokenManagerPda_eq_ok] at new ⊢
    rwa [managers]
  have loaded' : itsRootPda env a.itsRootPda s₅ = .ok root := by
    rw [itsRootPda_eq_ok] at loaded ⊢
    rwa [root₅]
  have manager := newTokenManager_initialised new' loaded' address mintOf created
    ((since.trans steps₄).trans steps₅)
  refine ⟨_, .deploys a salt name symbol decimals initialSupply _ _ s₁.chain.tokens
    s₃.chain.tokens s₄.chain.tokens s' rfl rfl
    { signed := Gateway.signer_eq_ok.mp signed
      created
      since
      belongs
      supply := minted }
    (registered_of_new .nativeInterchainToken a.tokenMint a.tokenManagerAta loaded new granted ?_),
    ?_⟩
  · rw [← h, ← after]
    rfl
  · rw [← h]
    have grants : Performs env ctx s₃
        (userRolesEvents a.tokenManagerPda a.minter a.minterRolesPda rolesBump
          (roles.OPERATOR ||| roles.FLOW_LIMITER ||| roles.MINTER)) _ :=
      createUserRolesIfGiven_performs
    have first := ((minting.andThen quiet₂).andThen quiet₃).trans grants
    have rest := (supplied.andThen quiet₅).trans (performs_createTokenManager manager)
    have whole := first.trans rest
    rw [List.append_assoc, List.singleton_append] at whole
    rw [List.append_assoc]
    exact Performs.andThen (Performs.andThen whole (performs_emit rfl)) (performs_emit rfl)

/-! ## Messages to the hub -/

/-- The flow is all that tracking changes. -/
theorem trackFlow_ok {tokenManager tracked : TokenManager} {sysvar : Sysvar} {amount : UInt64}
    {direction : FlowDirection} (h : tokenManager.trackFlow sysvar amount direction = .ok tracked) :
    ∃ flowSlot, tracked = { tokenManager with flowSlot } := by
  unfold TokenManager.trackFlow at h
  by_cases unlimited : tokenManager.flowSlot.flowLimit = none
  · rw [if_pos unlimited, pure_eq_ok] at h
    exact ⟨tokenManager.flowSlot, h.symm⟩
  · rw [if_neg unlimited] at h
    simp only [bind_eq_ok, pure_eq_ok] at h
    obtain ⟨_, -, flowSlot, -, rfl⟩ := h
    exact ⟨flowSlot, rfl⟩

/-- A manager of a minting type is the authority of its mint when it is registered. -/
theorem validateTokenManagerType_ok {ty : TokenManagerType} {mint : Mint} {tokenManager : Pubkey}
    {u : Unit} (h : validateTokenManagerType ty mint tokenManager = .ok u)
    (mints : ty.mints = true) : mint.mintAuthority = some tokenManager := by
  unfold validateTokenManagerType at h
  rw [mints] at h
  cases authority : mint.mintAuthority with
  | none =>
    rw [authority] at h
    cases h
  | some key =>
    rw [authority] at h
    exact congrArg some (require_eq_ok.mp h)

/-- The fee is that of the mint's configuration at the epoch, the decimals are those of the mint. -/
theorem getFeeAndDecimals_eq_ok {sysvar : Sysvar} {mint : Mint} {amount : UInt64}
    {found : UInt64 × UInt8} :
    getFeeAndDecimals env sysvar mint amount = .ok found ↔
      ∃ feeConfig, mint.transferFeeConfig = some feeConfig ∧
        env.calculateEpochFee feeConfig sysvar.epoch amount = some found.1 ∧
        mint.decimals = found.2 := by
  obtain ⟨fee, decimals⟩ := found
  simp only [getFeeAndDecimals, bind_eq_ok, okOr_eq_ok, pure_eq_ok, Prod.mk.injEq]
  constructor
  · rintro ⟨feeConfig, config, fee', computed, rfl, same⟩
    exact ⟨feeConfig, config, computed, same⟩
  · rintro ⟨feeConfig, config, computed, same⟩
    exact ⟨feeConfig, config, fee, computed, rfl, same⟩

/-- `take_token`. -/
theorem takeToken_ok {a : InterchainTransfer} {tokenManager : TokenManager} {mint : Mint}
    {amount reported : UInt64}
    (h : takeToken env ctx a tokenManager mint amount s = .ok (reported, s'))
    (stored : s.accounts.tokenManagers a.tokenManagerPda = some tokenManager) :
    ∃ instruction tracked, Takes env ctx.sysvar a mint amount tokenManager.ty reported instruction ∧
      env.tokens instruction [a.authority.key] s.chain.tokens = .ok s'.chain.tokens ∧
      tokenManager.trackFlow ctx.sysvar reported .outward = .ok tracked ∧
      s'.accounts = s.accounts.setTokenManager a.tokenManagerPda tracked ∧
      Performs env ctx s [.tokens instruction s.chain.tokens s'.chain.tokens] s' := by
  simp only [takeToken, bind_eq_ok, pure_eq_ok, Prod.exists, Prod.mk.injEq] at h
  obtain ⟨_, valid, reported', s₁, taken, tracked, flow, rfl, rfl⟩ := h
  -- the type of the manager decides which call takes the tokens
  have called : ∃ instruction,
      Takes env ctx.sysvar a mint amount tokenManager.ty reported' instruction ∧
      tokenCall env ctx instruction [a.authority.key] s = .ok s₁ ∧
      TokenInstruction.reassigns instruction = false ∧
      TokenInstruction.loud instruction = true := by
    cases ty : tokenManager.ty with
    | nativeInterchainToken | mintBurn | mintBurnFrom =>
      rw [ty] at taken valid
      simp only [bind_eq_ok, pure_eq_ok, Prod.mk.injEq] at taken
      obtain ⟨s₂, call, rfl, rfl⟩ := taken
      exact ⟨_, .burn rfl (validateTokenManagerType_ok valid rfl), call, rfl, rfl⟩
    | lockUnlock =>
      rw [ty] at taken
      simp only [getMintDecimals, bind_eq_ok, pure_eq_ok, Prod.mk.injEq] at taken
      obtain ⟨decimals, rfl, s₂, call, rfl, rfl⟩ := taken
      exact ⟨_, .lock, call, rfl, rfl⟩
    | lockUnlockFee =>
      rw [ty] at taken
      simp only [bind_eq_ok, getFeeAndDecimals_eq_ok, okOr_eq_ok, pure_eq_ok, Prod.exists,
        Prod.mk.injEq, checkedSub_eq_some] at taken
      obtain ⟨fee, decimals, ⟨feeConfig, config, computed, rfl⟩, s₂, call, _, ⟨fits, rfl⟩, rfl,
        rfl⟩ := taken
      exact ⟨_, .lockWithFee feeConfig fee config computed fits, call, rfl, rfl⟩
  obtain ⟨instruction, takes, call, keeps, loud⟩ := called
  obtain ⟨success, accounts, -, performs⟩ := tokenCall_loud call keeps loud
  refine ⟨instruction, tracked, takes, success, flow, ?_, ?_⟩
  · show s₁.accounts.setTokenManager _ _ = _
    rw [accounts]
  · obtain ⟨flowSlot, rfl⟩ := trackFlow_ok flow
    refine performs.andThen (performs_setFlowSlot ?_)
    rwa [accounts]

/-- Tokens are taken, and the amount taken is sent to the hub. -/
theorem interchainTransfer_ok {a : InterchainTransfer} {tokenId : Bytes32}
    {destinationChain : String} {destinationAddress : Bytes} {amount gasValue : UInt64}
    {callerProgramId : Option Pubkey} {callerPdaSeeds : Option (List Bytes)} {data : Option Bytes}
    (h : interchainTransfer env ctx a tokenId destinationChain destinationAddress amount gasValue
      callerProgramId callerPdaSeeds data s = .ok s') :
    ∃ l, Effect env ctx.sysvar s (.interchainTransfer a tokenId destinationChain destinationAddress
        amount gasValue callerProgramId callerPdaSeeds data) l s' ∧
      Performs env ctx s l s' := by
  simp only [interchainTransfer, processOutboundTransfer, sendToHubWrap, bind_eq_ok, Prod.exists]
    at h
  obtain ⟨_, -, _, signed, root, trusted, tokenManager, manager, _, address, _, -, mint, minted,
    source, stored, _, -, _, belongs, _, -, escrow, ata, _, accounts, _, nonzero, _, -,
    sourceAddress, -, reported, s₁, taken, h⟩ := h
  obtain ⟨instruction, tracked, takes, called, flow, written, performs⟩ :=
    takeToken_ok taken (tokenManagerPda_eq_ok.mp manager).1
  obtain ⟨unchanged, -, sent⟩ := sendToHub_performs h
  rw [require_eq_ok] at address belongs nonzero
  rw [tokenAccount_eq_ok] at stored
  rw [associatedTokenAccount_eq_ok] at ata
  rw [distinct_eq_ok] at accounts
  refine ⟨_, .transfers a tokenId destinationChain destinationAddress amount gasValue reported
    callerProgramId callerPdaSeeds data tokenManager tracked mint instruction sourceAddress.toList
    s₁.chain.tokens s'
    { signed := Gateway.signer_eq_ok.mp signed
      root := ⟨root, trusted⟩
      manager
      address
      minted
      source := ⟨source, stored, belongs⟩
      escrow := ⟨escrow, ata.1, ata.2.1⟩
      ata := ata.2.2.2
      distinct := ?_
      nonzero
      takes
      called
      flow } (unchanged.trans written), (performs.andThen (performs_emit rfl)).trans sent⟩
  simp only [List.nodup_cons, List.mem_cons, not_or] at accounts
  exact accounts.2.2.1.1

/-- A deployment is sent to the hub. -/
theorem deployRemoteInterchainToken_ok {a : DeployRemoteInterchainToken} {salt : Bytes32}
    {destinationChain : String} {gasValue : UInt64}
    (h : deployRemoteInterchainToken env ctx a salt destinationChain gasValue s = .ok s') :
    ∃ l, Effect env ctx.sysvar s (.deployRemoteInterchainToken a salt destinationChain gasValue) l
        s' ∧ Performs env ctx s l s' := by
  simp only [deployRemoteInterchainToken, sendToHubWrap, bind_eq_ok] at h
  obtain ⟨_, -, _, -, mint, -, found, -, _, -, _, -, tokenManager, -, _, -, root, remote,
    ⟨name, symbol⟩, -, h⟩ := h
  obtain ⟨unchanged, -, sent⟩ := sendToHub_performs h
  refine ⟨_, .sends _ _ s' rfl rfl ?_ unchanged, (performs_emit rfl).trans sent⟩
  rintro _ ⟨⟩
  exact ⟨a.itsRootPda, root, remote⟩

/-- A deployment is sent to the hub. -/
theorem deployRemoteCanonicalInterchainToken_ok {a : DeployRemoteCanonicalInterchainToken}
    {destinationChain : String} {gasValue : UInt64}
    (h : deployRemoteCanonicalInterchainToken env ctx a destinationChain gasValue s = .ok s') :
    ∃ l, Effect env ctx.sysvar s (.deployRemoteCanonicalInterchainToken a destinationChain gasValue)
        l s' ∧ Performs env ctx s l s' := by
  simp only [deployRemoteCanonicalInterchainToken, sendToHubWrap, bind_eq_ok] at h
  obtain ⟨_, -, mint, -, _, -, tokenManager, -, _, -, root, remote, ⟨name, symbol⟩, -, h⟩ := h
  obtain ⟨unchanged, -, sent⟩ := sendToHub_performs h
  refine ⟨_, .sends _ _ s' rfl rfl ?_ unchanged, (performs_emit rfl).trans sent⟩
  rintro _ ⟨⟩
  exact ⟨a.itsRootPda, root, remote⟩

/-- A link is sent to the hub. -/
theorem linkToken_ok {a : LinkToken} {salt : Bytes32} {destinationChain : String}
    {destinationTokenAddress : Bytes} {tokenManagerType : TokenManagerType} {linkParams : Bytes}
    {gasValue : UInt64}
    (h : linkToken env ctx a salt destinationChain destinationTokenAddress tokenManagerType
      linkParams gasValue s = .ok s') :
    ∃ l, Effect env ctx.sysvar s (.linkToken a salt destinationChain destinationTokenAddress
        tokenManagerType linkParams gasValue) l s' ∧ Performs env ctx s l s' := by
  simp only [linkToken, sendToHubWrap, bind_eq_ok] at h
  obtain ⟨_, -, _, -, root, remote, tokenManager, -, _, -, _, -, h⟩ := h
  obtain ⟨unchanged, -, sent⟩ := sendToHub_performs h
  refine ⟨_, .sends _ _ s' rfl rfl ?_ unchanged, (performs_emit rfl).trans sent⟩
  rintro _ ⟨⟩
  exact ⟨a.itsRootPda, root, remote⟩

/-- The metadata of a mint is sent to the hub. -/
theorem registerTokenMetadata_ok {a : RegisterTokenMetadata} {gasValue : UInt64}
    (h : registerTokenMetadata env ctx a gasValue s = .ok s') :
    ∃ l, Effect env ctx.sysvar s (.registerTokenMetadata a gasValue) l s' ∧
      Performs env ctx s l s' := by
  simp only [registerTokenMetadata, bind_eq_ok] at h
  obtain ⟨_, -, mint, -, root, -, h⟩ := h
  obtain ⟨unchanged, -, sent⟩ := sendToHub_performs h
  exact ⟨_, .sends _ _ s' rfl rfl (by rintro _ ⟨⟩) unchanged, (performs_emit rfl).trans sent⟩

end AxelarSolana.Its
