import AxelarSolana.Its.Execution
import AxelarSolana.Library.Agreement
import AxelarSolana.Solana.TokenProgram

/-! # Outcomes

What is compared when a message is executed by different people: two worlds agree when they differ
in nothing but the accounts that the log names.

* **`World.Agrees`** — the same accounts and chain, the same events and calls of destination
  programs.
* **`ExecuteInterchainTransfer.Alike`**, **`ExecuteDeployInterchainToken.Alike`**,
  **`ExecuteLinkToken.Alike`** — lists of accounts of the same addresses, with any payer, flags and
  further accounts.
* one lemma for each inner instruction: from worlds that agree, with accounts that are alike, it leads
  to worlds that agree. -/

namespace AxelarSolana.Its

open Fallible

/-- Seeds lead to one address. -/
theorem found_unique {env : Env} {seeds : List Bytes} {programId key key' : Pubkey}
    {bump bump' : UInt8} (h : env.findProgramAddress seeds programId = .ok (key, bump))
    (h' : env.findProgramAddress seeds programId = .ok (key', bump')) : key = key' :=
  congrArg Prod.fst (Except.ok.inj (h.symm.trans h'))

/-! ## Worlds that agree -/

/-- **What others see of an execution**: the events, and the calls of destination programs. -/
def LogEvent.isReport : LogEvent → Bool
  | .emitted _ | .destinationCalled _ => true
  | _ => false

/-- **The reports of the log**, oldest first. -/
def World.reports (s : World) : List LogEvent :=
  (s.log.map LogEntry.event).filter LogEvent.isReport

/-- **Two worlds agree** on the accounts of the program, on the chain and on what was reported. -/
structure World.Agrees (s t : World) : Prop where
  accounts : s.accounts = t.accounts
  chain : s.chain = t.chain
  reports : s.reports = t.reports

variable {env : Env} {ctx ctx' : Ctx} {s t : World}

/-- A world agrees with itself. -/
theorem World.Agrees.refl (s : World) : s.Agrees s := ⟨rfl, rfl, rfl⟩

/-- Two entries that report the same. -/
theorem World.Agrees.record (h : s.Agrees t) {e e' : LogEvent}
    (same : [e].filter LogEvent.isReport = [e'].filter LogEvent.isReport) :
    (s.record ctx e).Agrees (t.record ctx' e') where
  accounts := h.accounts
  chain := h.chain
  reports := by
    have before : s.reports = t.reports := h.reports
    simp only [World.reports, World.record, List.map_append, List.filter_append, List.map_cons,
      List.map_nil] at before ⊢
    rw [before, same]

/-- The same entry on both sides. -/
theorem World.Agrees.recordSame (h : s.Agrees t) (e : LogEvent) :
    (s.record ctx e).Agrees (t.record ctx' e) := h.record rfl

/-- Worlds that agree do so after an event each. -/
theorem World.Agrees.emit (h : s.Agrees t) (event : ItsEvent) :
    (s.emit ctx event).Agrees (t.emit ctx' event) := h.recordSame _

/-- Worlds that agree do so with the same chain. -/
theorem World.Agrees.withChain (h : s.Agrees t) (chain : Chain) :
    (s.withChain chain).Agrees (t.withChain chain) := ⟨h.accounts, rfl, h.reports⟩

/-- Worlds that agree do so after the same manager is written. -/
theorem World.Agrees.setTokenManager (h : s.Agrees t) (key : Pubkey) (tokenManager : TokenManager) :
    (s.setTokenManager key tokenManager).Agrees (t.setTokenManager key tokenManager) where
  accounts := by simp only [World.setTokenManager, h.accounts]
  chain := h.chain
  reports := h.reports

/-- Worlds that agree do so after the same roles are written. -/
theorem World.Agrees.setUserRoles (h : s.Agrees t) (key : Pubkey) (roles : Option UserRoles) :
    (s.setUserRoles key roles).Agrees (t.setUserRoles key roles) where
  accounts := by simp only [World.setUserRoles, h.accounts]
  chain := h.chain
  reports := h.reports

/-- Worlds that agree do so after the same manager is created. -/
theorem World.Agrees.createTokenManager (h : s.Agrees t) (key : Pubkey)
    (tokenManager : TokenManager) : (s.createTokenManager ctx key tokenManager).Agrees
      (t.createTokenManager ctx' key tokenManager) :=
  (h.recordSame _).setTokenManager key tokenManager

/-- Worlds that agree do so after the same optional roles account is created. -/
theorem World.Agrees.createUserRolesIfGiven (h : s.Agrees t) (resource : Pubkey)
    (user key : Option Pubkey) (bump : Option UInt8) (roles : UInt8) :
    (s.createUserRolesIfGiven ctx resource user key bump roles).Agrees
      (t.createUserRolesIfGiven ctx' resource user key bump roles) := by
  unfold World.createUserRolesIfGiven
  split
  · exact (h.recordSame _).setUserRoles _ _
  · exact h

/-! ## Calls of the token programs -/

/-- Two calls of a token program that have the same effect. -/
theorem tokenCall_agree {i i' : TokenInstruction} {signers signers' : List Pubkey}
    (same : ∀ u u', env.tokens i signers s.chain.tokens = .ok u →
      env.tokens i' signers' s.chain.tokens = .ok u' → u = u') (h : s.Agrees t) :
    Agree World.Agrees (tokenCall env ctx i signers s) (tokenCall env ctx' i' signers' t) := by
  intro s' t' hs ht
  obtain ⟨u, called, rfl⟩ := tokenCall_eq_ok.mp hs
  obtain ⟨u', called', rfl⟩ := tokenCall_eq_ok.mp ht
  rw [← h.chain] at called' ⊢
  rw [same u u' called called']
  -- the log may name other accounts, but a call of a token program is no report
  have recorded : (s.record ctx (.tokens i s.chain.tokens u')).Agrees
      (t.record ctx' (.tokens i' s.chain.tokens u')) := h.record rfl
  exact recorded.withChain _

/-- The same call on both sides. -/
theorem tokenCall_agree_same {i : TokenInstruction} {signers : List Pubkey} (h : s.Agrees t) :
    Agree World.Agrees (tokenCall env ctx i signers s) (tokenCall env ctx' i signers t) :=
  tokenCall_agree (fun _ _ called called' => Except.ok.inj (called.symm.trans called')) h

/-- Whoever pays for a token account. -/
theorem associatedTokenAccountIfNeeded_agree (funding : FundingLaws env.tokens)
    {payer payer' authority mint tokenProgram key : Pubkey} (h : s.Agrees t) :
    Agree World.Agrees
      (associatedTokenAccountIfNeeded env ctx payer authority mint tokenProgram key s)
      (associatedTokenAccountIfNeeded env ctx' payer' authority mint tokenProgram key t) := by
  unfold associatedTokenAccountIfNeeded
  rw [← h.chain]
  refine .bind (.ite (fun _ => ?_) fun _ => .pure h) fun s₁ t₁ agrees => ?_
  · exact tokenCall_agree (fun _ _ called called' => funding.create called called') h
  · exact .seq fun _ _ _ _ => .seq fun _ _ _ _ => .pure agrees

/-- Creating a mint has the same outcome in worlds that agree. -/
theorem initMint_agree {itsRootPda : Pubkey} {tokenId : Bytes32} {decimals : UInt8}
    {tokenManager tokenProgram key : Pubkey} (h : s.Agrees t) :
    Agree World.Agrees
      (initMint env ctx itsRootPda tokenId decimals tokenManager tokenProgram key s)
      (initMint env ctx' itsRootPda tokenId decimals tokenManager tokenProgram key t) := by
  unfold initMint
  exact .seq fun _ _ _ _ => tokenCall_agree_same h

/-- Whoever pays for the metadata. -/
theorem createTokenMetadata_agree (funding : FundingLaws env.tokens)
    {metadata mint tokenManager payer payer' : Pubkey} {name symbol : String} (h : s.Agrees t) :
    Agree World.Agrees (createTokenMetadata env ctx metadata mint tokenManager payer name symbol s)
      (createTokenMetadata env ctx' metadata mint tokenManager payer' name symbol t) :=
  tokenCall_agree (fun _ _ called called' => funding.createV1 called called') h

/-! ## Transfers -/

/-- **Accounts that are alike**: where a transfer takes place is the same. -/
structure ExecuteInterchainTransfer.Alike (a a' : ExecuteInterchainTransfer) : Prop where
  destination : a.destination.pubkey = a'.destination.pubkey
  destinationTokenAuthority :
    a.destinationTokenAuthority.pubkey = a'.destinationTokenAuthority.pubkey
  destinationAta : a.destinationAta.pubkey = a'.destinationAta.pubkey
  tokenMint : a.tokenMint.pubkey = a'.tokenMint.pubkey
  tokenManagerPda : a.tokenManagerPda.pubkey = a'.tokenManagerPda.pubkey
  tokenManagerAta : a.tokenManagerAta.pubkey = a'.tokenManagerAta.pubkey
  tokenProgram : a.tokenProgram.pubkey = a'.tokenProgram.pubkey

/-- The same amount, and worlds that agree. -/
def SameGift (x y : UInt64 × World) : Prop := x.1 = y.1 ∧ x.2.Agrees y.2

/-- A call of the token program, and the amount that it gives. -/
theorem gift_agree {i : TokenInstruction} {signers : List Pubkey} {amount : UInt64}
    (h : s.Agrees t) : Agree SameGift
      (do let s ← tokenCall env ctx i signers s; pure (amount, s))
      (do let t ← tokenCall env ctx' i signers t; pure (amount, t)) :=
  .bind (tokenCall_agree_same h) fun _ _ agrees => .pure ⟨rfl, agrees⟩

/-- Giving the tokens has the same outcome in worlds that agree, with accounts that are alike. -/
theorem handleGiveTokenTransfer_agree {a a' : ExecuteInterchainTransfer} (alike : a.Alike a')
    (clock : ctx.sysvar = ctx'.sysvar) {tokenManager : TokenManager} {mint : Mint}
    {amount : UInt64} (h : s.Agrees t) : Agree SameGift
      (handleGiveTokenTransfer env ctx a tokenManager mint amount s)
      (handleGiveTokenTransfer env ctx' a' tokenManager mint amount t) := by
  unfold handleGiveTokenTransfer
  rw [alike.tokenManagerPda, alike.tokenMint, alike.destinationAta, alike.tokenManagerAta,
    alike.tokenProgram, clock]
  refine .bind (.of_eq rfl) fun tracked _ same => ?_
  subst same
  have written := h.setTokenManager a'.tokenManagerPda.pubkey tracked
  cases tokenManager.ty with
  | nativeInterchainToken | mintBurn | mintBurnFrom => exact gift_agree written
  | lockUnlock =>
    refine .bind (.of_eq rfl) fun decimals _ same => ?_
    subst same
    exact gift_agree written
  | lockUnlockFee =>
    refine .bind (.of_eq rfl) fun fee _ same => ?_
    subst same
    refine .bind (tokenCall_agree_same written) fun _ _ agrees => ?_
    refine .bind (.of_eq rfl) fun transferred _ same => ?_
    subst same
    exact .pure ⟨rfl, agrees⟩

/-- The call of the destination program, when the address that vouches for it is the same. -/
theorem invokeDestinationProgram_agree {a a' : ExecuteInterchainTransfer} (alike : a.Alike a')
    (vouching : ∀ m ∈ a.interchainTransferExecute, ∀ m' ∈ a'.interchainTransferExecute,
      m.pubkey = m'.pubkey)
    {executePayload : AxelarExecuteWithInterchainTokenPayload} (h : s.Agrees t) :
    Agree World.Agrees (invokeDestinationProgram env ctx a executePayload s)
      (invokeDestinationProgram env ctx' a' executePayload t) := by
  unfold invokeDestinationProgram
  rw [alike.destination, alike.tokenProgram, alike.tokenMint, alike.destinationTokenAuthority,
    alike.destinationAta, ← h.chain]
  refine .seq fun m m' given given' => ?_
  rw [vouching m (okOr_eq_ok.mp given) m' (okOr_eq_ok.mp given')]
  refine .bind (.of_eq rfl) fun listed _ same => ?_
  subst same
  -- the checks of the accounts that were passed
  refine .seq fun _ _ _ _ => .seq fun _ _ _ _ => .seq fun _ _ _ _ => .seq fun _ _ _ _ => ?_
  refine .bind (.of_eq rfl) fun effect _ same => ?_
  subst same
  refine .bind (.of_eq rfl) fun chain _ same => ?_
  subst same
  exact .pure ((h.recordSame _).withChain chain)

/-- The address that vouches for the call of a destination program, when it is passed. -/
theorem vouching_eq_ok {account : Option AccountMeta} {destination : Pubkey} {u : Unit}
    (h : (match account with
      | some account => do
        let found ← env.findProgramAddress (InterchainTransferExecute.pdaSeeds destination)
          env.itsId
        require (account.pubkey = found.1) (.anchor .constraintSeeds)
      | none => pure ()) = .ok u) : ∀ m ∈ account, ∃ bump, env.findProgramAddress
        (InterchainTransferExecute.pdaSeeds destination) env.itsId = .ok (m.pubkey, bump) := by
  rintro m ⟨rfl⟩
  simp only [bind_eq_ok, require_eq_ok] at h
  obtain ⟨⟨key, bump⟩, found, same⟩ := h
  exact ⟨bump, same ▸ found⟩

/-- **Transfers with accounts that are alike lead to worlds that agree.** -/
theorem executeInterchainTransfer_agree (funding : FundingLaws env.tokens)
    {a a' : ExecuteInterchainTransfer} (alike : a.Alike a') (clock : ctx.sysvar = ctx'.sysvar)
    {message : Message} {sourceChain : String} {sourceAddress : Bytes} {destinationAddress : Pubkey}
    {tokenId : Bytes32} {amount : UInt64} {data : Bytes} (h : s.Agrees t) :
    Agree World.Agrees
      (executeInterchainTransfer env ctx a message sourceChain sourceAddress destinationAddress
        tokenId amount data s)
      (executeInterchainTransfer env ctx' a' message sourceChain sourceAddress destinationAddress
        tokenId amount data t) := by
  unfold executeInterchainTransfer
  rw [alike.destination, alike.tokenProgram, alike.tokenMint, alike.destinationTokenAuthority,
    alike.destinationAta, alike.tokenManagerPda, alike.tokenManagerAta]
  refine .seq fun _ _ _ _ => .seq fun _ _ _ _ => ?_
  refine .bind (associatedTokenAccountIfNeeded_agree funding h) fun s₁ t₁ agrees => ?_
  -- the root account and the destination
  refine .seq fun _ _ _ _ => .seq fun _ _ _ _ => .seq fun mint mint' minted minted' => ?_
  refine .seq fun tokenManager tokenManager' manager manager' => ?_
  have sameMint : mint = mint' := by
    rw [mintOfProgram_eq_ok, agrees.chain] at minted
    rw [mintOfProgram_eq_ok] at minted'
    exact Option.some.inj (minted.1.symm.trans minted'.1)
  have sameManager : tokenManager = tokenManager' := by
    rw [tokenManagerPda_eq_ok, agrees.accounts] at manager
    rw [tokenManagerPda_eq_ok] at manager'
    exact Option.some.inj (manager.1.symm.trans manager'.1)
  subst sameMint sameManager
  -- the mint and the escrow account
  refine .seq fun _ _ _ _ => .seq fun _ _ _ _ => .seq fun _ _ pda pda' => ?_
  -- the accounts are distinct, the amount and the authority
  refine .seq fun _ _ _ _ => .seq fun _ _ _ _ => .seq fun _ _ _ _ => .seq fun _ _ _ _ => ?_
  refine .bind (handleGiveTokenTransfer_agree alike clock agrees) fun x y gift => ?_
  obtain ⟨transferred, s₂⟩ := x
  obtain ⟨transferred', t₂⟩ := y
  obtain ⟨same, agrees⟩ := gift
  subst same
  refine .ite (fun _ => .pure (agrees.emit _)) fun _ => ?_
  refine invokeDestinationProgram_agree alike (fun m mem m' mem' => ?_) (agrees.emit _)
  obtain ⟨bump, found⟩ := vouching_eq_ok pda m mem
  obtain ⟨bump', found'⟩ := vouching_eq_ok pda' m' mem'
  exact found_unique found found'

/-! ## Deployments -/

/-- **Accounts that are alike**: where a deployment takes place, and for whom, is the same. -/
structure ExecuteDeployInterchainToken.Alike (a a' : ExecuteDeployInterchainToken) : Prop where
  itsRootPda : a.itsRootPda.pubkey = a'.itsRootPda.pubkey
  tokenManagerPda : a.tokenManagerPda.pubkey = a'.tokenManagerPda.pubkey
  tokenMint : a.tokenMint.pubkey = a'.tokenMint.pubkey
  tokenManagerAta : a.tokenManagerAta.pubkey = a'.tokenManagerAta.pubkey
  tokenProgram : a.tokenProgram.pubkey = a'.tokenProgram.pubkey
  minter : a.minter.map AccountMeta.pubkey = a'.minter.map AccountMeta.pubkey
  minterRolesPda : a.minterRolesPda.map AccountMeta.pubkey
    = a'.minterRolesPda.map AccountMeta.pubkey

/-- The metadata account has one address. -/
theorem metadataAccount_eq_ok {mint key : Pubkey} {u : Unit}
    (h : metadataAccount env mint key = .ok u) : ∃ bump, env.findProgramAddress
      [Codec.utf8 "metadata", env.mplTokenMetadataId.toList, mint.toList] env.mplTokenMetadataId
        = .ok (key, bump) := by
  simp only [metadataAccount, bind_eq_ok, require_eq_ok] at h
  obtain ⟨⟨address, bump⟩, found, rfl⟩ := h
  exact ⟨bump, found⟩

/-- **Deployments with accounts that are alike lead to worlds that agree.** -/
theorem executeDeployInterchainToken_agree (funding : FundingLaws env.tokens)
    {a a' : ExecuteDeployInterchainToken} (alike : a.Alike a') {tokenId : Bytes32}
    {name symbol : String} {decimals : UInt8} {minter : Bytes} (h : s.Agrees t) :
    Agree World.Agrees
      (executeDeployInterchainToken env ctx a tokenId name symbol decimals minter s)
      (executeDeployInterchainToken env ctx' a' tokenId name symbol decimals minter t) := by
  unfold executeDeployInterchainToken
  rw [alike.itsRootPda, alike.tokenManagerPda, alike.tokenMint, alike.tokenManagerAta,
    alike.tokenProgram, alike.minter, alike.minterRolesPda]
  refine .seq fun _ _ _ _ => .seq fun _ _ _ _ => ?_
  refine .bind (.of_eq (newTokenManagerPda_congr h.accounts)) fun bump _ same => ?_
  subst same
  refine .bind (initMint_agree h) fun s₁ t₁ agrees => ?_
  refine .bind (associatedTokenAccountIfNeeded_agree funding agrees) fun s₂ t₂ agrees => ?_
  refine .bind (.of_eq (newUserRolesPdaIfGiven_congr agrees.accounts)) fun rolesBump _ same => ?_
  subst same
  refine .seq fun _ _ _ _ => .seq fun _ _ metadata metadata' => ?_
  obtain ⟨bump₁, found⟩ := metadataAccount_eq_ok metadata
  obtain ⟨bump₁', found'⟩ := metadataAccount_eq_ok metadata'
  have address : a.mplTokenMetadataAccount.pubkey = a'.mplTokenMetadataAccount.pubkey :=
    found_unique found found'
  refine .bind (.of_eq rfl) fun name' _ same => ?_
  subst same
  refine .bind (.of_eq rfl) fun symbol' _ same => ?_
  subst same
  refine .seq fun _ _ _ _ => ?_
  rw [address]
  refine .bind (createTokenMetadata_agree funding agrees) fun s₃ t₃ agrees => ?_
  exact .pure ((((agrees.createTokenManager _ _).createUserRolesIfGiven _ _ _ _ _).emit _).emit _)

/-! ## Links -/

/-- **Accounts that are alike**: where a link takes place, and for whom, is the same. -/
structure ExecuteLinkToken.Alike (a a' : ExecuteLinkToken) : Prop where
  itsRootPda : a.itsRootPda.pubkey = a'.itsRootPda.pubkey
  tokenManagerPda : a.tokenManagerPda.pubkey = a'.tokenManagerPda.pubkey
  tokenMint : a.tokenMint.pubkey = a'.tokenMint.pubkey
  tokenManagerAta : a.tokenManagerAta.pubkey = a'.tokenManagerAta.pubkey
  tokenProgram : a.tokenProgram.pubkey = a'.tokenProgram.pubkey
  operator : a.operator.map AccountMeta.pubkey = a'.operator.map AccountMeta.pubkey
  operatorRolesPda : a.operatorRolesPda.map AccountMeta.pubkey
    = a'.operatorRolesPda.map AccountMeta.pubkey

/-- **Links with accounts that are alike lead to worlds that agree.** -/
theorem executeLinkToken_agree (funding : FundingLaws env.tokens) {a a' : ExecuteLinkToken}
    (alike : a.Alike a') {tokenId destinationTokenAddress : Bytes32} {tokenManagerType : UInt8}
    {linkParams : Bytes} (h : s.Agrees t) :
    Agree World.Agrees
      (executeLinkToken env ctx a tokenId destinationTokenAddress tokenManagerType linkParams s)
      (executeLinkToken env ctx' a' tokenId destinationTokenAddress tokenManagerType linkParams
        t) := by
  unfold executeLinkToken
  rw [alike.itsRootPda, alike.tokenManagerPda, alike.tokenMint, alike.tokenManagerAta,
    alike.tokenProgram, alike.operator, alike.operatorRolesPda]
  refine .seq fun _ _ _ _ => .seq fun _ _ _ _ => ?_
  refine .bind (.of_eq (newTokenManagerPda_congr h.accounts)) fun bump _ same => ?_
  subst same
  refine .bind (associatedTokenAccountIfNeeded_agree funding h) fun s₁ t₁ agrees => ?_
  refine .bind (.of_eq (newUserRolesPdaIfGiven_congr agrees.accounts)) fun rolesBump _ same => ?_
  subst same
  -- the root account and the mint
  refine .seq fun _ _ _ _ => .seq fun _ _ _ _ => ?_
  refine .bind (.of_eq rfl) fun ty _ same => ?_
  subst same
  refine .seq fun _ _ _ _ => .seq fun _ _ _ _ => .seq fun _ _ _ _ => .seq fun _ _ _ _ => ?_
  exact .pure (((agrees.createTokenManager _ _).createUserRolesIfGiven _ _ _ _ _).emit _)

end AxelarSolana.Its
