import AxelarSolana.Its.Evaluation
import AxelarSolana.Its.HubOrigin

/-! # What an executed message does

* **`Gives`**, **`Inbound`**, **`Invoked`**, **`InboundDeploy`**, **`InboundLink`** — what the three
  inner instructions have checked, with the loud events they report.
* **`Received`** — what a message of the hub does: the inner instruction that `execute` calls for it,
  and its effect. -/

namespace AxelarSolana.Its

open Fallible

variable {env : Env} {ctx : Ctx} {s s' : World}

/-! ## Messages from the hub -/

/-- **The call by which an inbound transfer gives its tokens**, and the amount that is reported:
what is minted or unlocked, less the fee that a mint withholds. -/
inductive Gives (env : Env) (sysvar : Sysvar) (a : ExecuteInterchainTransfer) (mint : Mint)
    (amount : UInt64) : TokenManagerType → UInt64 → TokenInstruction → Prop
  | mint {ty : TokenManagerType} (mints : ty.mints = true)
      (authority : mint.mintAuthority = some a.tokenManagerPda.pubkey) :
      Gives env sysvar a mint amount ty amount
        (.mintTo a.tokenProgram.pubkey a.tokenMint.pubkey a.destinationAta.pubkey
          a.tokenManagerPda.pubkey amount)
  | unlock : Gives env sysvar a mint amount .lockUnlock amount
      (.transferChecked a.tokenProgram.pubkey a.tokenManagerAta.pubkey a.tokenMint.pubkey
        a.destinationAta.pubkey a.tokenManagerPda.pubkey amount mint.decimals)
  | unlockWithFee (feeConfig : TransferFeeConfig) (fee : UInt64)
      (config : mint.transferFeeConfig = some feeConfig)
      (computed : env.calculateEpochFee feeConfig sysvar.epoch amount = some fee)
      (fits : fee ≤ amount) :
      Gives env sysvar a mint amount .lockUnlockFee (amount - fee)
        (.transferCheckedWithFee a.tokenProgram.pubkey a.tokenManagerAta.pubkey a.tokenMint.pubkey
          a.destinationAta.pubkey a.tokenManagerPda.pubkey amount mint.decimals fee)

/-- The call that gives the tokens is a loud event. -/
theorem Gives.loud {sysvar : Sysvar} {a : ExecuteInterchainTransfer} {mint : Mint}
    {amount transferred : UInt64} {ty : TokenManagerType} {instruction : TokenInstruction}
    (h : Gives env sysvar a mint amount ty transferred instruction) :
    TokenInstruction.loud instruction = true := by
  cases h <;> rfl

/-- `handle_give_token_transfer`. -/
theorem handleGiveTokenTransfer_ok {a : ExecuteInterchainTransfer} {tokenManager : TokenManager}
    {mint : Mint} {amount transferred : UInt64}
    (h : handleGiveTokenTransfer env ctx a tokenManager mint amount s = .ok (transferred, s'))
    (stored : s.accounts.tokenManagers a.tokenManagerPda.pubkey = some tokenManager)
    (authority : TokenManagerType.mints tokenManager.ty = true →
      mint.mintAuthority = some a.tokenManagerPda.pubkey) :
    ∃ instruction tracked,
      Gives env ctx.sysvar a mint amount tokenManager.ty transferred instruction ∧
      env.tokens instruction [a.tokenManagerPda.pubkey] s.chain.tokens = .ok s'.chain.tokens ∧
      tokenManager.trackFlow ctx.sysvar amount .inward = .ok tracked ∧
      s'.accounts = s.accounts.setTokenManager a.tokenManagerPda.pubkey tracked ∧
      Performs env ctx s [.tokens instruction s.chain.tokens s'.chain.tokens] s' := by
  simp only [handleGiveTokenTransfer, bind_eq_ok] at h
  obtain ⟨tracked, flow, given⟩ := h
  -- the type of the manager decides which call gives the tokens
  have called : ∃ instruction,
      Gives env ctx.sysvar a mint amount tokenManager.ty transferred instruction ∧
      tokenCall env ctx instruction [a.tokenManagerPda.pubkey]
        (s.setTokenManager a.tokenManagerPda.pubkey tracked) = .ok s' ∧
      TokenInstruction.reassigns instruction = false ∧
      TokenInstruction.loud instruction = true := by
    cases ty : tokenManager.ty with
    | nativeInterchainToken | mintBurn | mintBurnFrom =>
      simp only [ty, bind_eq_ok, pure_eq_ok, Prod.mk.injEq] at given
      obtain ⟨s₂, call, rfl, rfl⟩ := given
      rw [ty] at authority
      exact ⟨_, .mint rfl (authority rfl), call, rfl, rfl⟩
    | lockUnlock =>
      simp only [ty, getMintDecimals, bind_eq_ok, pure_eq_ok, Prod.mk.injEq] at given
      obtain ⟨decimals, rfl, s₂, call, rfl, rfl⟩ := given
      exact ⟨_, .unlock, call, rfl, rfl⟩
    | lockUnlockFee =>
      simp only [ty, bind_eq_ok, getFeeAndDecimals_eq_ok, okOr_eq_ok, pure_eq_ok, Prod.exists,
        Prod.mk.injEq, checkedSub_eq_some] at given
      obtain ⟨fee, decimals, ⟨feeConfig, config, computed, rfl⟩, s₂, call, _, ⟨fits, rfl⟩, rfl,
        rfl⟩ := given
      exact ⟨_, .unlockWithFee feeConfig fee config computed fits, call, rfl, rfl⟩
  obtain ⟨instruction, gives, call, keeps, loud⟩ := called
  obtain ⟨success, accounts, -, performs⟩ := tokenCall_loud call keeps loud
  refine ⟨instruction, tracked, gives, success, flow, accounts, ?_⟩
  obtain ⟨flowSlot, rfl⟩ := trackFlow_ok flow
  exact (performs_setFlowSlot stored).trans performs

/-- **The call of a destination program**: the accounts are those of the transfer, the address that
vouches for it, and those that the payload lists, which are the remaining accounts. -/
structure Invoked (env : Env) (a : ExecuteInterchainTransfer)
    (executePayload : AxelarExecuteWithInterchainTokenPayload) (vouching : AccountMeta)
    (listed : List AccountMeta) (call : DestinationCall) : Prop where
  given : a.interchainTransferExecute = some vouching
  decoded : ∃ data, env.decodePayload executePayload.data = .ok (listed, data) ∧
    call.executePayload = { executePayload with data }
  remaining : listed = a.remainingAccounts
  programId : call.programId = a.destination.pubkey
  accounts : call.accounts =
    [⟨a.tokenProgram.pubkey, false, false⟩, ⟨a.tokenMint.pubkey, false, true⟩,
      ⟨a.destinationTokenAuthority.pubkey, false, false⟩, ⟨a.destinationAta.pubkey, false, true⟩,
      ⟨vouching.pubkey, true, false⟩] ++ listed
  privileges : call.accounts.all (hasPrivileges a.metas vouching.pubkey) = true

/-- A destination program is called with signatures from outside and those that the program gives
it. -/
theorem invokeDestinationProgram_ok {a : ExecuteInterchainTransfer}
    {executePayload : AxelarExecuteWithInterchainTokenPayload}
    (h : invokeDestinationProgram env ctx a executePayload s = .ok s')
    (signable : ∀ m ∈ a.metas, m.isSigner = true → env.Signable a.destination.pubkey m.pubkey)
    (own : ∀ m ∈ a.interchainTransferExecute, env.Signable a.destination.pubkey m.pubkey) :
    ∃ vouching listed call, Invoked env a executePayload vouching listed call ∧
      s'.accounts = s.accounts ∧ Performs env ctx s [.destinationCalled call] s' := by
  simp only [invokeDestinationProgram, bind_eq_ok, okOr_eq_ok, require_eq_ok, pure_eq_ok] at h
  obtain ⟨signer, passed, ⟨destinationAccounts, data⟩, decoded, _, -, _, same, _, privileged, _, -,
    effect, -, chain, run, rfl⟩ := h
  refine ⟨signer, destinationAccounts, _,
    { given := passed
      decoded := ⟨data, decoded, rfl⟩
      remaining := same
      programId := rfl
      accounts := rfl
      privileges := privileged }, rfl, .loud (.callDestination _ effect chain ?_ run) rfl⟩
  intro key mem
  obtain ⟨m, listed, signed, rfl⟩ := mem_signersOf.mp mem
  have privileges := List.all_eq_true.mp privileged m listed
  simp only [hasPrivileges, signed, Bool.not_true, Bool.false_or, Bool.and_eq_true,
    Bool.or_eq_true, decide_eq_true_eq, List.any_eq_true] at privileges
  rcases privileges.1 with same | ⟨n, passed', same, signs⟩
  · rw [same]
    exact own signer passed
  · rw [← same]
    exact signable n passed' signs

/-- `its_root_pda` of an inner instruction. -/
theorem signingRoot_eq_ok {account : AccountMeta} {root : InterchainTokenService} :
    signingRoot env account s = .ok root ↔
      unpausedRoot env account.pubkey s = .ok root ∧ account.isSigner = true := by
  simp only [signingRoot, bind_eq_ok, require_eq_ok, pure_eq_ok]
  constructor
  · rintro ⟨_, loaded, _, signed, rfl⟩
    exact ⟨loaded, signed⟩
  · rintro ⟨loaded, signed⟩
    exact ⟨root, loaded, (), signed, rfl⟩

/-- **What `execute_interchain_transfer` has checked** when it gives its tokens; `before` is the
state of the tokens once the recipient's account exists. -/
structure Inbound (env : Env) (sysvar : Sysvar) (a : ExecuteInterchainTransfer)
    (destinationAddress : Pubkey) (tokenId : Bytes32) (amount transferred : UInt64)
    (tokenManager tracked : TokenManager) (mint : Mint) (instruction : TokenInstruction) (s : World)
    (before after : TokenState) : Prop where
  root : ∃ root, signingRoot env a.itsRootPda s = .ok root
  manager : tokenManagerPda env a.itsRootPda.pubkey tokenId a.tokenManagerPda.pubkey s
    = .ok tokenManager
  address : tokenManager.tokenAddress = a.tokenMint.pubkey
  since : TokenSteps env s.chain.tokens before
  minted : before.mints a.tokenMint.pubkey = some mint ∧ mint.owner = a.tokenProgram.pubkey
  escrow : before.BelongsTo a.tokenManagerAta.pubkey a.tokenManagerPda.pubkey
  ata : associatedTokenAddress env a.tokenManagerPda.pubkey a.tokenMint.pubkey
    a.tokenProgram.pubkey = .ok a.tokenManagerAta.pubkey
  distinct : a.destinationAta.pubkey ≠ a.tokenManagerAta.pubkey
  authority : destinationAuthority env destinationAddress s
    = .ok a.destinationTokenAuthority.pubkey
  recipient : associatedTokenAddress env a.destinationTokenAuthority.pubkey a.tokenMint.pubkey
    a.tokenProgram.pubkey = .ok a.destinationAta.pubkey
  nonzero : amount ≠ 0
  gives : Gives env sysvar a mint amount tokenManager.ty transferred instruction
  called : env.tokens instruction [a.tokenManagerPda.pubkey] before = .ok after
  flow : tokenManager.trackFlow sysvar amount .inward = .ok tracked
  destination : a.destination.pubkey = destinationAddress
  vouching : ∀ m, a.interchainTransferExecute = some m → ∃ bump, env.findProgramAddress
    (InterchainTransferExecute.pdaSeeds destinationAddress) env.itsId = .ok (m.pubkey, bump)

/-- **The call of the destination program**, when a transfer carries data. -/
inductive Called (env : Env) (a : ExecuteInterchainTransfer)
    (executePayload : AxelarExecuteWithInterchainTokenPayload) : List LogEvent → Prop
  | quiet (noData : executePayload.data = []) : Called env a executePayload []
  | invoked (data : executePayload.data ≠ []) (vouching : AccountMeta) (listed : List AccountMeta)
      (call : DestinationCall) (invoked : Invoked env a executePayload vouching listed call) :
      Called env a executePayload [.destinationCalled call]

/-- The destination program is called when there is data. -/
theorem callDestination_ok {a : ExecuteInterchainTransfer}
    (executePayload : AxelarExecuteWithInterchainTokenPayload)
    (h : (if executePayload.data = [] then pure s
      else invokeDestinationProgram env ctx a executePayload s) = .ok s')
    (signable : ∀ m ∈ a.metas, m.isSigner = true → env.Signable a.destination.pubkey m.pubkey)
    (own : ∀ m ∈ a.interchainTransferExecute, env.Signable a.destination.pubkey m.pubkey) :
    ∃ called, Called env a executePayload called ∧ s'.accounts = s.accounts ∧
      Performs env ctx s called s' := by
  by_cases noData : executePayload.data = []
  · rw [if_pos noData, pure_eq_ok] at h
    rw [← h]
    exact ⟨[], .quiet noData, rfl, .refl s⟩
  · rw [if_neg noData] at h
    obtain ⟨vouching, listed, call, invoked, unchanged, performs⟩ :=
      invokeDestinationProgram_ok h signable own
    exact ⟨_, .invoked noData vouching listed call invoked, unchanged, performs⟩

/-- Tokens are given to the recipient, and the amount given is reported. -/
theorem executeInterchainTransfer_ok {a : ExecuteInterchainTransfer} {message : Message}
    {sourceChain : String} {sourceAddress : Bytes} {destinationAddress : Pubkey}
    {tokenId : Bytes32} {amount : UInt64} {data : Bytes}
    (h : executeInterchainTransfer env ctx a message sourceChain sourceAddress destinationAddress
      tokenId amount data s = .ok s')
    (signable : ∀ m ∈ a.metas, m.isSigner = true → env.Signable a.destination.pubkey m.pubkey) :
    ∃ tokenManager tracked mint instruction transferred before after called,
      Inbound env ctx.sysvar a destinationAddress tokenId amount transferred tokenManager tracked
        mint instruction s before after ∧
      Called env a ⟨message.commandId env.toCrates, sourceChain, sourceAddress, tokenId,
        a.tokenMint.pubkey, transferred, data⟩ called ∧
      s'.accounts = s.accounts.setTokenManager a.tokenManagerPda.pubkey tracked ∧
      Performs env ctx s (.tokens instruction before after ::
        .emitted (.interchainTransferReceived ⟨message.commandId env.toCrates, tokenId, sourceChain,
          sourceAddress, destinationAddress, a.destinationAta.pubkey, transferred,
          if data = [] then none else some (env.keccak data)⟩) :: called) s' := by
  simp only [executeInterchainTransfer, bind_eq_ok, Prod.exists] at h
  obtain ⟨_, -, _, -, s₁, destinationAta, root, signed, _, destination, mint, minted, tokenManager,
    manager, _, address, escrow, ata, _, executePda, _, accounts, _, nonzero, _, authority, _, valid,
    transferred, s₂, given, h⟩ := h
  obtain ⟨recipient, -, since, accounts₁, owner₁, quiet⟩ :=
    associatedTokenAccountIfNeeded_ok destinationAta
  obtain ⟨instruction, tracked, gives, called, flow, written, performs⟩ :=
    handleGiveTokenTransfer_ok given (tokenManagerPda_eq_ok.mp manager).1
      (validateTokenManagerType_ok valid)
  rw [require_eq_ok] at destination address nonzero
  rw [distinct_eq_ok] at accounts
  rw [associatedTokenAccount_eq_ok] at ata
  rw [mintOfProgram_eq_ok] at minted
  have vouching : ∀ m, a.interchainTransferExecute = some m → ∃ bump, env.findProgramAddress
      (InterchainTransferExecute.pdaSeeds destinationAddress) env.itsId = .ok (m.pubkey, bump) := by
    intro m passed
    rw [passed] at executePda
    simp only [bind_eq_ok, require_eq_ok] at executePda
    obtain ⟨⟨key, bump⟩, found, same⟩ := executePda
    rw [destination] at found
    exact ⟨bump, same ▸ found⟩
  have received : Performs env ctx s₂ _ (s₂.emit ctx (.interchainTransferReceived
      ⟨message.commandId env.toCrates, tokenId, sourceChain, sourceAddress, destinationAddress,
        a.destinationAta.pubkey, transferred, if data = [] then none else some (env.keccak data)⟩)) :=
    .loud (.emit _) rfl
  have main := (performs.after quiet).trans received
  obtain ⟨destinationCall, isCalled, unchanged, last⟩ := callDestination_ok
    ⟨message.commandId env.toCrates, sourceChain, sourceAddress, tokenId, a.tokenMint.pubkey,
      transferred, data⟩ h signable (by
    -- the address that vouches for the call is one of the program
    intro m passed
    obtain ⟨bump, found⟩ := vouching m passed
    rw [destination]
    exact .inr (.inr ⟨bump, env.createProgramAddress_of_find found⟩))
  refine ⟨tokenManager, tracked, mint, instruction, transferred, s₁.chain.tokens, s₂.chain.tokens,
    destinationCall,
    { root := ⟨root, ?_⟩
      manager := ?_
      address
      since
      minted
      escrow := ⟨escrow, ata.1, ata.2.1⟩
      ata := ata.2.2.2
      distinct := ?_
      authority := ?_
      recipient
      nonzero
      gives
      called
      flow
      destination
      vouching }, isCalled, ?_, main.trans last⟩
  · rw [signingRoot_eq_ok, unpausedRoot_eq_ok, itsRootPda_eq_ok] at signed ⊢
    rwa [accounts₁] at signed
  · rw [tokenManagerPda_eq_ok] at manager ⊢
    rwa [accounts₁] at manager
  · simp only [List.nodup_cons, List.mem_cons, not_or] at accounts
    exact accounts.1.2.2.1
  · simp only [checkDestinationAuthority, bind_eq_ok, require_eq_ok] at authority
    obtain ⟨expected, found, rfl⟩ := authority
    rw [← destination]
    unfold destinationAuthority at found ⊢
    rwa [owner₁] at found
  · rw [unchanged, ← accounts₁]
    exact written

/-- **What `execute_deploy_interchain_token` has checked** when it creates a mint and its
manager. -/
structure InboundDeploy (env : Env) (a : ExecuteDeployInterchainToken) (tokenId : Bytes32)
    (decimals : UInt8) (minter : Bytes) (bump : UInt8) (rolesBump : Option UInt8) (s : World)
    (after : TokenState) : Prop where
  root : ∃ root, signingRoot env a.itsRootPda s = .ok root
  program : a.tokenProgram.pubkey = env.token2022ProgramId
  new : newTokenManagerPda env a.itsRootPda.pubkey tokenId a.tokenManagerPda.pubkey s = .ok bump
  mint : ∃ mintBump, env.findProgramAddress
    (TokenManager.tokenMintSeeds tokenId a.itsRootPda.pubkey) env.itsId
      = .ok (a.tokenMint.pubkey, mintBump)
  ata : associatedTokenAddress env a.tokenManagerPda.pubkey a.tokenMint.pubkey
    a.tokenProgram.pubkey = .ok a.tokenManagerAta.pubkey
  minter : (if minter = [] then none else some minter)
    = (a.minter.map AccountMeta.pubkey).map List.Vector.toList
  given : (a.minter.map AccountMeta.pubkey).isSome
    = (a.minterRolesPda.map AccountMeta.pubkey).isSome
  roles : newUserRolesPdaIfGiven env a.tokenManagerPda.pubkey (a.minter.map AccountMeta.pubkey)
    (a.minterRolesPda.map AccountMeta.pubkey) .minterNotProvided s = .ok rolesBump
  created : env.tokens (.initializeMint2 a.tokenProgram.pubkey a.tokenMint.pubkey decimals
    a.tokenManagerPda.pubkey (some a.tokenManagerPda.pubkey)) [a.tokenMint.pubkey]
      s.chain.tokens = .ok after

/-- A mint is created with its manager, and with a minter when one is named. -/
theorem executeDeployInterchainToken_ok {a : ExecuteDeployInterchainToken} {tokenId : Bytes32}
    {name symbol : String} {decimals : UInt8} {minter : Bytes}
    (h : executeDeployInterchainToken env ctx a tokenId name symbol decimals minter s = .ok s') :
    ∃ bump rolesBump after,
      InboundDeploy env a tokenId decimals minter bump rolesBump s after ∧
      Registered env a.tokenManagerPda.pubkey (TokenManager.initAccount .nativeInterchainToken
        tokenId a.tokenMint.pubkey a.tokenManagerAta.pubkey bump)
        (userRolesEvents a.tokenManagerPda.pubkey (a.minter.map AccountMeta.pubkey)
          (a.minterRolesPda.map AccountMeta.pubkey) rolesBump
          (roles.OPERATOR ||| roles.FLOW_LIMITER ||| roles.MINTER)) s s' ∧
      Performs env ctx s (.tokens (.initializeMint2 a.tokenProgram.pubkey a.tokenMint.pubkey decimals
          a.tokenManagerPda.pubkey (some a.tokenManagerPda.pubkey)) s.chain.tokens after ::
        .tokenManagerCreated a.tokenManagerPda.pubkey (TokenManager.initAccount
          .nativeInterchainToken tokenId a.tokenMint.pubkey a.tokenManagerAta.pubkey bump) ::
        userRolesEvents a.tokenManagerPda.pubkey (a.minter.map AccountMeta.pubkey)
          (a.minterRolesPda.map AccountMeta.pubkey) rolesBump
          (roles.OPERATOR ||| roles.FLOW_LIMITER ||| roles.MINTER)) s' := by
  simp only [executeDeployInterchainToken, bind_eq_ok] at h
  obtain ⟨_, -, _, program, bump, new, s₁, mint, s₂, ata, rolesBump, newRoles, root, signed, _, -,
    name', -, symbol', -, _, user, s₃, metadata, h⟩ := h
  rw [pure_eq_ok] at h
  rw [require_eq_ok] at program
  obtain ⟨mintAddress, created, accounts₁, -, minting⟩ := initMint_ok mint
  obtain ⟨address, -, steps₂, accounts₂, -, quiet₂⟩ := associatedTokenAccountIfNeeded_ok ata
  obtain ⟨steps₃, accounts₃, -, quiet₃⟩ := createTokenMetadata_ok metadata
  have accounts : s₂.accounts = s.accounts := accounts₂.trans accounts₁
  have accounts' : s₃.accounts = s.accounts := accounts₃.trans accounts
  rw [signingRoot_eq_ok, unpausedRoot_eq_ok, itsRootPda_congr accounts] at signed
  obtain ⟨⟨loaded, unpaused⟩, signs⟩ := signed
  rw [newUserRolesPdaIfGiven_congr accounts] at newRoles
  rw [matchingUser_eq_ok] at user
  obtain ⟨granted, grants, -, written⟩ := granted_of_new ctx
    (registrationRoles .nativeInterchainToken) newRoles
  -- the manager is new where it is created, too
  have manager := newTokenManager_initialised ((newTokenManagerPda_congr accounts').trans new)
    ((itsRootPda_congr accounts').trans loaded) address mintAddress created (steps₂.trans steps₃)
  refine ⟨bump, rolesBump, s₁.chain.tokens,
    { root := ⟨root, ?_⟩
      program
      new
      mint := mintAddress
      ata := address
      minter := user.1
      given := by simpa using user.2
      roles := newRoles
      created },
    registered_of_new .nativeInterchainToken a.tokenMint.pubkey a.tokenManagerAta.pubkey loaded new
      grants ?_, ?_⟩
  · rw [signingRoot_eq_ok, unpausedRoot_eq_ok]
    exact ⟨⟨loaded, unpaused⟩, signs⟩
  · rw [← h]
    refine written _ a.tokenManagerPda.pubkey _ ?_
    rw [← accounts']
    rfl
  · rw [← h]
    have minted := (minting.andThen quiet₂).andThen quiet₃
    refine Performs.andThen (Performs.andThen ?_ (performs_emit rfl)) (performs_emit rfl)
    exact (minted.trans (performs_createTokenManager manager)).trans createUserRolesIfGiven_performs

/-- **What `execute_link_token` has checked** when it creates a manager. -/
structure InboundLink (env : Env) (a : ExecuteLinkToken)
    (tokenId destinationTokenAddress : Bytes32) (tokenManagerType : UInt8) (linkParams : Bytes)
    (ty : TokenManagerType) (bump : UInt8) (rolesBump : Option UInt8) (s : World) : Prop where
  root : ∃ root, signingRoot env a.itsRootPda s = .ok root
  new : newTokenManagerPda env a.itsRootPda.pubkey tokenId a.tokenManagerPda.pubkey s = .ok bump
  type : TokenManagerType.tryFrom tokenManagerType = some ty
  custom : ty ≠ .nativeInterchainToken
  mint : destinationTokenAddress = a.tokenMint.pubkey
  ata : associatedTokenAddress env a.tokenManagerPda.pubkey a.tokenMint.pubkey
    a.tokenProgram.pubkey = .ok a.tokenManagerAta.pubkey
  operator : bytes32FromSlice linkParams = a.operator.map AccountMeta.pubkey
  given : (a.operator.map AccountMeta.pubkey).isSome
    = (a.operatorRolesPda.map AccountMeta.pubkey).isSome
  roles : newUserRolesPdaIfGiven env a.tokenManagerPda.pubkey (a.operator.map AccountMeta.pubkey)
    (a.operatorRolesPda.map AccountMeta.pubkey) .operatorNotProvided s = .ok rolesBump

/-- A manager is created for a mint that exists, with an operator when one is named. -/
theorem executeLinkToken_ok {a : ExecuteLinkToken} {tokenId destinationTokenAddress : Bytes32}
    {tokenManagerType : UInt8} {linkParams : Bytes}
    (h : executeLinkToken env ctx a tokenId destinationTokenAddress tokenManagerType linkParams s
      = .ok s') :
    ∃ ty bump rolesBump,
      InboundLink env a tokenId destinationTokenAddress tokenManagerType linkParams ty bump
        rolesBump s ∧
      Registered env a.tokenManagerPda.pubkey (TokenManager.initAccount ty tokenId
        a.tokenMint.pubkey a.tokenManagerAta.pubkey bump)
        (userRolesEvents a.tokenManagerPda.pubkey (a.operator.map AccountMeta.pubkey)
          (a.operatorRolesPda.map AccountMeta.pubkey) rolesBump
          (roles.OPERATOR ||| roles.FLOW_LIMITER)) s s' ∧
      Performs env ctx s (.tokenManagerCreated a.tokenManagerPda.pubkey (TokenManager.initAccount ty
          tokenId a.tokenMint.pubkey a.tokenManagerAta.pubkey bump) ::
        userRolesEvents a.tokenManagerPda.pubkey (a.operator.map AccountMeta.pubkey)
          (a.operatorRolesPda.map AccountMeta.pubkey) rolesBump
          (roles.OPERATOR ||| roles.FLOW_LIMITER)) s' := by
  simp only [executeLinkToken, bind_eq_ok, okOr_eq_ok] at h
  obtain ⟨_, -, _, -, bump, new, s₁, ata, rolesBump, newRoles, root, signed, m, stored, ty, type, _,
    custom, _, same, _, user, _, supported, h⟩ := h
  rw [pure_eq_ok] at h
  obtain ⟨address, -, -, accounts, -, quiet⟩ := associatedTokenAccountIfNeeded_ok ata
  rw [require_eq_ok] at custom same
  rw [matchingUser_eq_ok, Option.map_id] at user
  rw [newUserRolesPdaIfGiven_congr accounts] at newRoles
  rw [signingRoot_eq_ok, unpausedRoot_eq_ok, itsRootPda_congr accounts] at signed
  obtain ⟨⟨loaded, unpaused⟩, signs⟩ := signed
  rw [validateMintExtension, require_eq_ok] at supported
  -- a type with a mint of its own has been excluded, so the operator gets no minter's role
  have granting : registrationRoles ty = roles.OPERATOR ||| roles.FLOW_LIMITER := by
    cases ty with
    | nativeInterchainToken => exact absurd rfl custom
    | _ => rfl
  obtain ⟨granted, grants, -, written⟩ :=
    granted_of_new ctx (registrationRoles ty) newRoles
  have manager := newTokenManager_existing ((newTokenManagerPda_congr accounts).trans new)
    ((itsRootPda_congr accounts).trans loaded) address stored supported custom
  rw [granting] at grants
  refine ⟨ty, bump, rolesBump,
    { root := ⟨root, ?_⟩
      new
      type
      custom
      mint := same
      ata := address
      operator := user.1
      given := user.2
      roles := newRoles },
    registered_of_new ty a.tokenMint.pubkey a.tokenManagerAta.pubkey loaded new
      (by rwa [granting]) ?_, ?_⟩
  · rw [signingRoot_eq_ok, unpausedRoot_eq_ok]
    exact ⟨⟨loaded, unpaused⟩, signs⟩
  · rw [← h, ← granting, same]
    refine written _ a.tokenManagerPda.pubkey _ ?_
    rw [← accounts]
    rfl
  · rw [← h, same]
    refine Performs.andThen ?_ (performs_emit rfl)
    exact (quiet.trans (performs_createTokenManager manager)).trans createUserRolesIfGiven_performs

/-! ## The call of an inner instruction -/

/-- Changing every account changes every meta. -/
theorem ExecuteInterchainTransfer.metas_map {f : AccountMeta → AccountMeta}
    {a : ExecuteInterchainTransfer} : (a.map f).metas = a.metas.map f := by
  cases h : a.interchainTransferExecute <;>
    simp [ExecuteInterchainTransfer.metas, ExecuteInterchainTransfer.map, h]

/-- An inner instruction is called with the signatures that `execute` was given and that of the root
account. -/
theorem invokeSignedWithItsRootPda_ok {a : Execute} {metas : List AccountMeta} {u : Unit}
    (h : invokeSignedWithItsRootPda a metas = .ok u) :
    ∀ m ∈ metas.map (unionPrivileges metas), m.isSigner = true →
      m.pubkey = a.itsRootPda.pubkey ∨ m.pubkey ∈ signersOf a.metas := by
  rw [invokeSignedWithItsRootPda, require_eq_ok] at h
  intro m mem signed
  obtain ⟨n, -, rfl⟩ := List.mem_map.mp mem
  obtain ⟨o, listed, same, signs⟩ := isSigner_unionPrivileges.mp signed
  have privileges := List.all_eq_true.mp h o listed
  simp only [hasPrivileges, signs, Bool.not_true, Bool.false_or, Bool.and_eq_true,
    Bool.or_eq_true, decide_eq_true_eq, List.any_eq_true] at privileges
  show n.pubkey = _ ∨ n.pubkey ∈ _
  rw [← same]
  rcases privileges.1 with key | ⟨p, passed, key, signs'⟩
  · exact .inl key
  · rw [← key]
    exact .inr (mem_signersOf.mpr ⟨p, passed, signs', rfl⟩)

/-- **What a message of the hub does**: the inner instruction that is called for it by `execute` with
the accounts given, with what that has checked and the loud events it reports. -/
inductive Received (env : Env) (sysvar : Sysvar) (outer : Execute) (message : Message)
    (sourceChain : String) (s : World) :
    Encoding.Message → ItsInstruction → List LogEvent → World → Prop
  | transfer (a : ExecuteInterchainTransfer) (transfer : Encoding.InterchainTransfer)
      (destination : Pubkey) (transferred : UInt64) (tokenManager tracked : TokenManager)
      (mint : Mint) (instruction : TokenInstruction) (before after : TokenState)
      (called : List LogEvent) (s' : World)
      (manager : a.tokenManagerPda.pubkey = outer.tokenManagerPda.pubkey)
      (parsed : bytes32FromSlice transfer.destinationAddress = some destination)
      (signers : ∀ m ∈ a.metas, m.isSigner = true →
        m.pubkey = outer.itsRootPda.pubkey ∨ m.pubkey ∈ signersOf outer.metas)
      (inbound : Inbound env sysvar a destination transfer.tokenId transfer.amount transferred
        tokenManager tracked mint instruction s before after)
      (calls : Called env a ⟨message.commandId env.toCrates, sourceChain, transfer.sourceAddress,
        transfer.tokenId, a.tokenMint.pubkey, transferred, transfer.data.getD []⟩ called)
      (accounts : s'.accounts = s.accounts.setTokenManager a.tokenManagerPda.pubkey tracked) :
      Received env sysvar outer message sourceChain s (.interchainTransfer transfer)
        (.executeInterchainTransfer a message sourceChain transfer.sourceAddress destination
          transfer.tokenId transfer.amount (transfer.data.getD []))
        (.tokens instruction before after ::
          .emitted (.interchainTransferReceived ⟨message.commandId env.toCrates, transfer.tokenId,
            sourceChain, transfer.sourceAddress, destination, a.destinationAta.pubkey, transferred,
            if transfer.data.getD [] = [] then none
            else some (env.keccak (transfer.data.getD []))⟩) :: called) s'
  | deploy (a : ExecuteDeployInterchainToken) (deploy : Encoding.DeployInterchainToken)
      (bump : UInt8) (rolesBump : Option UInt8) (after : TokenState) (s' : World)
      (inbound : InboundDeploy env a deploy.tokenId deploy.decimals (deploy.minter.getD []) bump
        rolesBump s after)
      (registered : Registered env a.tokenManagerPda.pubkey (TokenManager.initAccount
        .nativeInterchainToken deploy.tokenId a.tokenMint.pubkey a.tokenManagerAta.pubkey bump)
        (userRolesEvents a.tokenManagerPda.pubkey (a.minter.map AccountMeta.pubkey)
          (a.minterRolesPda.map AccountMeta.pubkey) rolesBump
          (roles.OPERATOR ||| roles.FLOW_LIMITER ||| roles.MINTER)) s s') :
      Received env sysvar outer message sourceChain s (.deployInterchainToken deploy)
        (.executeDeployInterchainToken a deploy.tokenId deploy.name deploy.symbol deploy.decimals
          (deploy.minter.getD []))
        (.tokens (.initializeMint2 a.tokenProgram.pubkey a.tokenMint.pubkey deploy.decimals
            a.tokenManagerPda.pubkey (some a.tokenManagerPda.pubkey)) s.chain.tokens after ::
          .tokenManagerCreated a.tokenManagerPda.pubkey (TokenManager.initAccount
            .nativeInterchainToken deploy.tokenId a.tokenMint.pubkey a.tokenManagerAta.pubkey bump) ::
          userRolesEvents a.tokenManagerPda.pubkey (a.minter.map AccountMeta.pubkey)
            (a.minterRolesPda.map AccountMeta.pubkey) rolesBump
            (roles.OPERATOR ||| roles.FLOW_LIMITER ||| roles.MINTER)) s'
  | link (a : ExecuteLinkToken) (link : Encoding.LinkToken) (destinationTokenAddress : Bytes32)
      (ty : TokenManagerType) (bump : UInt8) (rolesBump : Option UInt8) (s' : World)
      (parsed : bytes32FromSlice link.destinationTokenAddress = some destinationTokenAddress)
      (inbound : InboundLink env a link.tokenId destinationTokenAddress link.tokenManagerType
        (link.params.getD []) ty bump rolesBump s)
      (registered : Registered env a.tokenManagerPda.pubkey (TokenManager.initAccount ty
        link.tokenId a.tokenMint.pubkey a.tokenManagerAta.pubkey bump)
        (userRolesEvents a.tokenManagerPda.pubkey (a.operator.map AccountMeta.pubkey)
          (a.operatorRolesPda.map AccountMeta.pubkey) rolesBump
          (roles.OPERATOR ||| roles.FLOW_LIMITER)) s s') :
      Received env sysvar outer message sourceChain s (.linkToken link)
        (.executeLinkToken a link.tokenId destinationTokenAddress link.tokenManagerType
          (link.params.getD []))
        (.tokenManagerCreated a.tokenManagerPda.pubkey (TokenManager.initAccount ty link.tokenId
            a.tokenMint.pubkey a.tokenManagerAta.pubkey bump) ::
          userRolesEvents a.tokenManagerPda.pubkey (a.operator.map AccountMeta.pubkey)
            (a.operatorRolesPda.map AccountMeta.pubkey) rolesBump
            (roles.OPERATOR ||| roles.FLOW_LIMITER)) s'

/-- The inner instruction that a message stands for is called, with its own context. -/
theorem dispatch_ok {a : Execute} {message : Message} {payload : Bytes} {sourceChain : String}
    {inner : Encoding.Message}
    (h : dispatch env ctx a message payload sourceChain inner s = .ok s')
    (outside : ∀ key ∈ signersOf a.metas, env.SignsOutside key)
    (root : ∃ bump, env.createProgramAddress (InterchainTokenService.pdaSeeds ++ [[bump]]) env.itsId
      = some a.itsRootPda.pubkey) :
    ∃ instruction l, Received env ctx.sysvar a message sourceChain s inner instruction l s' ∧
      Performs env ⟨ctx.sysvar, .execute message payload, instruction⟩ s l s' := by
  cases inner with
  | interchainTransfer transfer =>
    simp only [dispatch, cpiExecuteInterchainTransfer, bind_eq_ok, okOr_eq_ok] at h
    obtain ⟨destination, parsed, h⟩ := h
    split at h
    case h_2 => exact absurd h throw_ne_ok
    case h_1 receiver receiverAuthority destinationAta remaining passed =>
      rw [bind_eq_ok] at h
      obtain ⟨_, invoked, h⟩ := h
      have signers := invokeSignedWithItsRootPda_ok invoked
      rw [← ExecuteInterchainTransfer.metas_map] at signers
      obtain ⟨tokenManager, tracked, mint, instruction, transferred, before, after, called, inbound,
        calls, accounts, performs⟩ := executeInterchainTransfer_ok h (by
          intro m mem signed
          rcases signers m mem signed with same | given
          · rw [same]
            -- the signature that the service adds is that of its root account
            exact .inr (.inl root)
          · exact .inl (outside m.pubkey given))
      exact ⟨_, _, .transfer _ transfer destination transferred tokenManager tracked mint instruction
        before after called s' rfl parsed signers inbound calls accounts, performs⟩
  | deployInterchainToken deploy =>
    simp only [dispatch, cpiExecuteDeployInterchainToken] at h
    split at h
    case h_2 => exact absurd h throw_ne_ok
    case h_1 sysvarInstructions program metadata remaining passed =>
      rw [bind_eq_ok] at h
      obtain ⟨_, -, h⟩ := h
      obtain ⟨bump, rolesBump, after, inbound, registered, performs⟩ :=
        executeDeployInterchainToken_ok h
      exact ⟨_, _, .deploy _ deploy bump rolesBump after s' inbound registered, performs⟩
  | linkToken link =>
    simp only [dispatch, cpiExecuteLinkToken, bind_eq_ok, okOr_eq_ok] at h
    obtain ⟨destinationTokenAddress, parsed, _, -, h⟩ := h
    obtain ⟨ty, bump, rolesBump, inbound, registered, performs⟩ := executeLinkToken_ok h
    exact ⟨_, _, .link _ link destinationTokenAddress ty bump rolesBump s' parsed inbound registered,
      performs⟩

end AxelarSolana.Its
