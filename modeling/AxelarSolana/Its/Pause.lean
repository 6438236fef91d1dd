import AxelarSolana.Its.Environment
import AxelarSolana.Its.TrustedChains

/-! # The pause

* **`ItsInstruction.checksPause`** — the instructions whose accounts carry the constraint that the
  service is not paused; **`process_running`** — none of them succeeds while it is.
* **`Frozen`** — no balance, supply, mint, token manager or gateway event changes.
* **`pause_complete`** — while the service is paused every instruction but `set_pause_status` leaves
  all of that as it is, and only `set_pause_status` ends the pause. -/

namespace AxelarSolana.Its

open Fallible Machine

variable {env : Env} {ctx : Ctx} {s s' : World}

/-! ## Instructions that check the pause -/

/-- **The service is set up and not paused.** -/
def World.Running (s : World) : Prop := ∃ root, s.accounts.root = some root ∧ root.paused = false

/-- Loading the root with the pause check needs a running service. -/
theorem unpausedRoot_running {key : Pubkey} {root : InterchainTokenService}
    (h : unpausedRoot env key s = .ok root) : s.Running := by
  obtain ⟨loaded, unpaused⟩ := unpausedRoot_eq_ok.mp h
  exact ⟨root, (itsRootPda_eq_ok.mp loaded).1, unpaused⟩

/-- Loading the root that must sign needs a running service. -/
theorem signingRoot_running {account : AccountMeta} {root : InterchainTokenService}
    (h : signingRoot env account s = .ok root) : s.Running :=
  unpausedRoot_running (signingRoot_eq_ok.mp h).1

/-- Loading the root that trusts the destination needs a running service. -/
theorem trustingRoot_running {key : Pubkey} {destinationChain : String}
    {root : InterchainTokenService} (h : trustingRoot env key destinationChain s = .ok root) :
    s.Running := by
  simp only [trustingRoot, bind_eq_ok] at h
  obtain ⟨root, loaded, -⟩ := h
  exact unpausedRoot_running loaded

/-- Loading the root for a remote deployment needs a running service. -/
theorem remoteRoot_running {key : Pubkey} {destinationChain : String}
    {root : InterchainTokenService} (h : remoteRoot env key destinationChain s = .ok root) :
    s.Running := by
  simp only [remoteRoot, bind_eq_ok] at h
  obtain ⟨root, loaded, -⟩ := h
  exact unpausedRoot_running loaded

/-- Accounts of the token programs may be created before the root account is checked. -/
theorem World.Running.congr (h : s'.Running) (same : s'.accounts = s.accounts) : s.Running := by
  rwa [World.Running, same] at h

/-- **Whether the accounts of an instruction carry the constraint** `!its_root_pda.paused`. -/
def ItsInstruction.checksPause : ItsInstruction → Bool
  | .deployInterchainToken .. | .deployRemoteInterchainToken .. | .registerTokenMetadata ..
  | .registerCanonicalInterchainToken .. | .deployRemoteCanonicalInterchainToken ..
  | .registerCustomToken .. | .linkToken .. | .execute .. | .executeDeployInterchainToken ..
  | .executeLinkToken .. | .executeInterchainTransfer .. | .interchainTransfer ..
  | .mintInterchainToken .. => true
  | _ => false

/-- `deploy_interchain_token` needs a running service. -/
theorem deployInterchainToken_running {a : DeployInterchainToken} {salt : Bytes32}
    {name symbol : String} {decimals : UInt8} {initialSupply : UInt64}
    (h : deployInterchainToken env ctx a salt name symbol decimals initialSupply s = .ok s') :
    s.Running := by
  unfold deployInterchainToken at h
  obtain ⟨_, -, h⟩ := bind_eq_ok.mp h
  obtain ⟨_, -, h⟩ := bind_eq_ok.mp h
  obtain ⟨_, -, h⟩ := bind_eq_ok.mp h
  obtain ⟨bump, -, h⟩ := bind_eq_ok.mp h
  obtain ⟨s₁, minted, h⟩ := bind_eq_ok.mp h
  obtain ⟨s₂, first, h⟩ := bind_eq_ok.mp h
  obtain ⟨s₃, second, h⟩ := bind_eq_ok.mp h
  obtain ⟨rolesBump, -, h⟩ := bind_eq_ok.mp h
  obtain ⟨root, loaded, -⟩ := bind_eq_ok.mp h
  obtain ⟨-, -, accounts₁, -, -⟩ := initMint_ok minted
  obtain ⟨-, -, -, accounts₂, -, -⟩ := associatedTokenAccountIfNeeded_ok first
  obtain ⟨-, -, -, accounts₃, -, -⟩ := associatedTokenAccountIfNeeded_ok second
  exact (unpausedRoot_running loaded).congr (accounts₃.trans (accounts₂.trans accounts₁))

/-- `register_canonical_interchain_token` needs a running service. -/
theorem registerCanonicalInterchainToken_running {a : RegisterCanonicalInterchainToken}
    (h : registerCanonicalInterchainToken env ctx a s = .ok s') : s.Running := by
  simp only [registerCanonicalInterchainToken, bind_eq_ok] at h
  obtain ⟨_, -, _, -, bump, -, s₁, created, _, -, root, loaded, -⟩ := h
  obtain ⟨-, -, -, accounts, -, -⟩ := associatedTokenAccountIfNeeded_ok created
  exact (unpausedRoot_running loaded).congr accounts

/-- `register_custom_token` needs a running service. -/
theorem registerCustomToken_running {a : RegisterCustomToken} {salt : Bytes32}
    {tokenManagerType : TokenManagerType} {operator : Option Pubkey}
    (h : registerCustomToken env ctx a salt tokenManagerType operator s = .ok s') :
    s.Running := by
  simp only [registerCustomToken, bind_eq_ok] at h
  obtain ⟨_, -, _, -, _, -, bump, -, s₁, created, rolesBump, -, root, loaded, -⟩ := h
  obtain ⟨-, -, -, accounts, -, -⟩ := associatedTokenAccountIfNeeded_ok created
  exact (unpausedRoot_running loaded).congr accounts

/-- `deploy_remote_interchain_token` needs a running service. -/
theorem deployRemoteInterchainToken_running {a : DeployRemoteInterchainToken} {salt : Bytes32}
    {destinationChain : String} {gasValue : UInt64}
    (h : deployRemoteInterchainToken env ctx a salt destinationChain gasValue s = .ok s') :
    s.Running := by
  simp only [deployRemoteInterchainToken, bind_eq_ok] at h
  obtain ⟨_, -, _, -, mint, -, found, -, _, -, _, -, tokenManager, -, _, -, root, loaded, -⟩ := h
  exact remoteRoot_running loaded

/-- `deploy_remote_canonical_interchain_token` needs a running service. -/
theorem deployRemoteCanonicalInterchainToken_running {a : DeployRemoteCanonicalInterchainToken}
    {destinationChain : String} {gasValue : UInt64}
    (h : deployRemoteCanonicalInterchainToken env ctx a destinationChain gasValue s = .ok s') :
    s.Running := by
  simp only [deployRemoteCanonicalInterchainToken, bind_eq_ok] at h
  obtain ⟨_, -, mint, -, _, -, tokenManager, -, _, -, root, loaded, -⟩ := h
  exact remoteRoot_running loaded

/-- `link_token` needs a running service. -/
theorem linkToken_running {a : LinkToken} {salt : Bytes32} {destinationChain : String}
    {destinationTokenAddress : Bytes} {tokenManagerType : TokenManagerType} {linkParams : Bytes}
    {gasValue : UInt64}
    (h : linkToken env ctx a salt destinationChain destinationTokenAddress tokenManagerType
      linkParams gasValue s = .ok s') : s.Running := by
  simp only [linkToken, bind_eq_ok] at h
  obtain ⟨_, -, _, -, root, loaded, -⟩ := h
  exact remoteRoot_running loaded

/-- `register_token_metadata` needs a running service. -/
theorem registerTokenMetadata_running {a : RegisterTokenMetadata} {gasValue : UInt64}
    (h : registerTokenMetadata env ctx a gasValue s = .ok s') : s.Running := by
  simp only [registerTokenMetadata, bind_eq_ok] at h
  obtain ⟨_, -, mint, -, root, loaded, -⟩ := h
  exact unpausedRoot_running loaded

/-- `interchain_transfer` needs a running service. -/
theorem interchainTransfer_running {a : InterchainTransfer} {tokenId : Bytes32}
    {destinationChain : String} {destinationAddress : Bytes} {amount gasValue : UInt64}
    {callerProgramId : Option Pubkey} {callerPdaSeeds : Option (List Bytes)} {data : Option Bytes}
    (h : interchainTransfer env ctx a tokenId destinationChain destinationAddress amount gasValue
      callerProgramId callerPdaSeeds data s = .ok s') : s.Running := by
  simp only [interchainTransfer, bind_eq_ok] at h
  obtain ⟨_, -, _, -, root, loaded, -⟩ := h
  exact trustingRoot_running loaded

/-- `mint_interchain_token` needs a running service. -/
theorem mintInterchainToken_running {a : MintInterchainToken} {amount : UInt64}
    (h : mintInterchainToken env ctx a amount s = .ok s') : s.Running := by
  simp only [mintInterchainToken, bind_eq_ok] at h
  obtain ⟨_, -, mint, -, destination, -, _, -, _, -, root, loaded, -⟩ := h
  exact unpausedRoot_running loaded

/-- `execute_interchain_transfer` needs a running service. -/
theorem executeInterchainTransfer_running {a : ExecuteInterchainTransfer} {message : Message}
    {sourceChain : String} {sourceAddress : Bytes} {destinationAddress : Pubkey}
    {tokenId : Bytes32} {amount : UInt64} {data : Bytes}
    (h : executeInterchainTransfer env ctx a message sourceChain sourceAddress destinationAddress
      tokenId amount data s = .ok s') : s.Running := by
  simp only [executeInterchainTransfer, bind_eq_ok] at h
  obtain ⟨_, -, _, -, s₁, created, root, loaded, -⟩ := h
  obtain ⟨-, -, -, accounts, -, -⟩ := associatedTokenAccountIfNeeded_ok created
  exact (signingRoot_running loaded).congr accounts

/-- `execute_deploy_interchain_token` needs a running service. -/
theorem executeDeployInterchainToken_running {a : ExecuteDeployInterchainToken}
    {tokenId : Bytes32} {name symbol : String} {decimals : UInt8} {minter : Bytes}
    (h : executeDeployInterchainToken env ctx a tokenId name symbol decimals minter s = .ok s') :
    s.Running := by
  simp only [executeDeployInterchainToken, bind_eq_ok] at h
  obtain ⟨_, -, _, -, bump, -, s₁, minted, s₂, created, rolesBump, -, root, loaded, -⟩ := h
  obtain ⟨-, -, accounts₁, -, -⟩ := initMint_ok minted
  obtain ⟨-, -, -, accounts₂, -, -⟩ := associatedTokenAccountIfNeeded_ok created
  exact (signingRoot_running loaded).congr (accounts₂.trans accounts₁)

/-- `execute_link_token` needs a running service. -/
theorem executeLinkToken_running {a : ExecuteLinkToken} {tokenId destinationTokenAddress : Bytes32}
    {tokenManagerType : UInt8} {linkParams : Bytes}
    (h : executeLinkToken env ctx a tokenId destinationTokenAddress tokenManagerType linkParams s
      = .ok s') : s.Running := by
  simp only [executeLinkToken, bind_eq_ok] at h
  obtain ⟨_, -, _, -, bump, -, s₁, created, rolesBump, -, root, loaded, -⟩ := h
  obtain ⟨-, -, -, accounts, -, -⟩ := associatedTokenAccountIfNeeded_ok created
  exact (signingRoot_running loaded).congr accounts

/-- `execute` needs a running service. -/
theorem execute_running {a : Execute} {message : Message} {payload : Bytes}
    (h : execute env ctx a message payload s = .ok s') : s.Running := by
  simp only [execute, bind_eq_ok] at h
  obtain ⟨incoming, -, _, -, config, -, _, -, root, loaded, -⟩ := h
  exact unpausedRoot_running loaded

/-- **No instruction that checks the pause succeeds while the service is paused.** -/
theorem process_running {i : ItsInstruction} (h : process env ctx i s = .ok s')
    (checks : i.checksPause = true) : s.Running := by
  cases i with
  | deployInterchainToken a salt name symbol decimals initialSupply =>
    exact deployInterchainToken_running h
  | deployRemoteInterchainToken a salt destinationChain gasValue =>
    exact deployRemoteInterchainToken_running h
  | registerTokenMetadata a gasValue => exact registerTokenMetadata_running h
  | registerCanonicalInterchainToken a => exact registerCanonicalInterchainToken_running h
  | deployRemoteCanonicalInterchainToken a destinationChain gasValue =>
    exact deployRemoteCanonicalInterchainToken_running h
  | registerCustomToken a salt tokenManagerType operator => exact registerCustomToken_running h
  | linkToken a salt destinationChain destinationTokenAddress tokenManagerType linkParams
      gasValue => exact linkToken_running h
  | execute a message payload => exact execute_running h
  | executeDeployInterchainToken a tokenId name symbol decimals minter =>
    exact executeDeployInterchainToken_running h
  | executeLinkToken a tokenId destinationTokenAddress tokenManagerType linkParams =>
    exact executeLinkToken_running h
  | executeInterchainTransfer a message sourceChain sourceAddress destinationAddress tokenId
      amount data => exact executeInterchainTransfer_running h
  | interchainTransfer a tokenId destinationChain destinationAddress amount gasValue
      callerProgramId callerPdaSeeds data => exact interchainTransfer_running h
  | mintInterchainToken a amount => exact mintInterchainToken_running h
  | _ => cases checks

/-! ## What stays -/

/-- **Nothing moves**: no balance, no supply, no mint, no token manager and no event of the
gateway. -/
structure Frozen (s s' : World) : Prop where
  balance : ∀ account, s'.chain.tokens.balance account = s.chain.tokens.balance account
  supply : ∀ mint, s'.chain.tokens.supply mint = s.chain.tokens.supply mint
  mints : ∀ mint, s'.chain.tokens.mints mint = none ↔ s.chain.tokens.mints mint = none
  tokenManagers : ∀ key, s'.accounts.tokenManagers key = none ↔ s.accounts.tokenManagers key = none
  gateway : s'.chain.gateway = s.chain.gateway

/-- Only the accounts of the program change. -/
theorem Frozen.of_chain (chain : s'.chain = s.chain)
    (managers : ∀ key, s'.accounts.tokenManagers key = none ↔ s.accounts.tokenManagers key = none) :
    Frozen s s' where
  balance _ := by rw [chain]
  supply _ := by rw [chain]
  mints _ := by rw [chain]
  tokenManagers := managers
  gateway := by rw [chain]

/-- A token manager that is written existed. -/
theorem setTokenManager_eq_none {key key' : Pubkey} {tokenManager old : TokenManager}
    (stored : s.accounts.tokenManagers key = some old) :
    (s.setTokenManager key tokenManager).accounts.tokenManagers key' = none ↔
      s.accounts.tokenManagers key' = none := by
  by_cases same : key' = key
  · subst same
    simp [World.setTokenManager, stored]
  · simp [World.setTokenManager, Function.update_of_ne same]

/-- A transfer of a role writes roles accounts only. -/
theorem transferRole_frozen {role : UInt8} {missing : ItsError} {resource : Pubkey}
    {a : TransferRole} (h : transferRole env role missing resource a s = .ok s') : Frozen s s' := by
  simp only [transferRole, bind_eq_ok, pure_eq_ok] at h
  obtain ⟨_, -, _, -, origin, -, _, -, _, -, destination, -, rfl⟩ := h
  exact .of_chain rfl fun _ => Iff.rfl

/-- The only call of a token program sets the authority of a mint. -/
theorem handoverMintAuthority_frozen (laws : QuietLaws env.tokens) {a : HandoverMintAuthority}
    {tokenId : Bytes32} (h : handoverMintAuthority env ctx a tokenId s = .ok s') : Frozen s s' := by
  simp only [handoverMintAuthority, bind_eq_ok, pure_eq_ok, tokenCall_eq_ok] at h
  obtain ⟨_, -, _, -, _, -, mint, -, _, -, root, -, tokenManager, -, _, -, _, -, minter, -, s₁,
    ⟨tokens, called, rfl⟩, rfl⟩ := h
  have quiet := laws.quiet called rfl
  exact
    { balance := fun account => (quiet account).1
      supply := fun mint => (quiet mint).2.1
      mints := laws.mints called rfl
      tokenManagers := fun _ => Iff.rfl
      gateway := rfl }

/-- **Every other instruction moves nothing.** -/
theorem process_frozen (laws : QuietLaws env.tokens) {i : ItsInstruction}
    (h : process env ctx i s = .ok s') (free : i.checksPause = false) : Frozen s s' := by
  cases i with
  | initializeService a chainName itsHubAddress =>
    simp only [process, initializeService, bind_eq_ok, pure_eq_ok] at h
    obtain ⟨_, -, _, -, bump, -, rolesBump, -, _, -, _, -, rfl⟩ := h
    exact .of_chain rfl fun _ => Iff.rfl
  | setPauseStatus a paused =>
    simp only [process, setPauseStatus, bind_eq_ok, pure_eq_ok] at h
    obtain ⟨_, -, _, -, root, -, _, -, _, -, rfl⟩ := h
    exact .of_chain rfl fun _ => Iff.rfl
  | setTrustedChain a chainName =>
    simp only [process, setTrustedChain, bind_eq_ok, pure_eq_ok] at h
    obtain ⟨_, -, root, -, _, -, _, -, rfl⟩ := h
    exact .of_chain rfl fun _ => Iff.rfl
  | removeTrustedChain a chainName =>
    simp only [process, removeTrustedChain, bind_eq_ok, pure_eq_ok] at h
    obtain ⟨_, -, root, -, _, -, _, -, rfl⟩ := h
    exact .of_chain rfl fun _ => Iff.rfl
  | setFlowLimit a flowLimit =>
    simp only [process, setFlowLimit, bind_eq_ok, pure_eq_ok, ownTokenManagerPda_eq_ok,
      tokenManagerPda_eq_ok] at h
    obtain ⟨_, -, _, -, root, -, itsRoles, -, _, -, tokenManager, ⟨stored, -⟩, _, -, rfl⟩ := h
    exact .of_chain rfl fun _ => setTokenManager_eq_none stored
  | setTokenManagerFlowLimit a flowLimit =>
    simp only [process, setTokenManagerFlowLimit, bind_eq_ok, pure_eq_ok, ownTokenManagerPda_eq_ok,
      tokenManagerPda_eq_ok] at h
    obtain ⟨_, -, _, -, root, -, tokenManager, ⟨stored, -⟩, limiter, -, _, -, rfl⟩ := h
    exact .of_chain rfl fun _ => setTokenManager_eq_none stored
  | transferOperatorship a =>
    simp only [process, transferOperatorship, bind_eq_ok] at h
    obtain ⟨root, -, _, -, moved⟩ := h
    exact transferRole_frozen moved
  | transferTokenManagerOperatorship a =>
    simp only [process, transferTokenManagerOperatorship, bind_eq_ok] at h
    obtain ⟨root, -, tokenManager, -, _, -, moved⟩ := h
    exact transferRole_frozen moved
  | transferInterchainTokenMintership a =>
    simp only [process, transferInterchainTokenMintership, bind_eq_ok] at h
    obtain ⟨root, -, tokenManager, -, moved⟩ := h
    exact transferRole_frozen moved
  | addTokenManagerFlowLimiter a =>
    simp only [process, addTokenManagerFlowLimiter, bind_eq_ok, pure_eq_ok] at h
    obtain ⟨_, -, _, -, authority, -, _, -, root, -, tokenManager, -, target, -, _, -, rfl⟩ := h
    exact .of_chain rfl fun _ => Iff.rfl
  | removeTokenManagerFlowLimiter a =>
    simp only [process, removeTokenManagerFlowLimiter, bind_eq_ok, pure_eq_ok] at h
    obtain ⟨_, -, _, -, authority, -, _, -, root, -, tokenManager, -, target, -, _, -, rfl⟩ := h
    exact .of_chain rfl fun _ => Iff.rfl
  | handoverMintAuthority a tokenId => exact handoverMintAuthority_frozen laws h
  | _ => cases free

/-! ## Runs -/

/-- **The service is paused.** -/
def World.Paused (s : World) : Prop := ∃ root, s.accounts.root = some root ∧ root.paused = true

/-- A paused service does not run. -/
theorem World.Paused.not_running (h : s.Paused) : ¬ s.Running := by
  rintro ⟨root, stored, unpaused⟩
  obtain ⟨root', stored', paused⟩ := h
  cases stored.symm.trans stored'
  rw [paused] at unpaused
  cases unpaused

/-- Only `set_pause_status` ends the pause. -/
theorem Configures.paused {call : Call env} (h : Configures s call s') (paused : s.Paused)
    (holds : call.pauses? ≠ some false) : s'.Paused := by
  obtain ⟨root, stored, paused⟩ := paused
  cases h with
  | keeps same events trusts distrusts pauses => exact ⟨root, same.trans stored, paused⟩
  | initialises chainName itsHubAddress bump fresh written events trusts distrusts pauses =>
    cases stored.symm.trans fresh
  | pauses r next stored' written events trusts distrusts pauses =>
    refine ⟨_, written, ?_⟩
    cases next with
    | false => exact absurd pauses holds
    | true => rfl
  | trusts r chainName stored' absent written events trusts distrusts pauses =>
    cases stored.symm.trans stored'
    refine ⟨_, written, ?_⟩
    unfold InterchainTokenService.addTrustedChain
    split <;> exact paused
  | distrusts r chainName stored' present written events trusts distrusts pauses =>
    cases stored.symm.trans stored'
    exact ⟨_, written, paused⟩

/-- The pause lasts as long as no committed call ends it. -/
theorem paused_run {s₀ : World} (paused : s₀.Paused) (later : List (Call env)) :
    (∀ t ∈ trace (step env) s₀ later, t.call.pauses? ≠ some false) →
      (run (step env) s₀ later).Paused := by
  refine run_trace_induction (P := fun (tr : List (Transition World (Call env))) s =>
    (∀ t ∈ tr, t.call.pauses? ≠ some false) → s.Paused) (fun _ => paused) ?_ later
  intro tr s call s' before success holds
  have earlier : s.Paused := before fun t mem => holds t (List.mem_append_left _ mem)
  exact (step_cases success).configures.paused earlier
    (holds _ (List.mem_append_right _ List.mem_cons_self))

/-- **The pause is complete**: while the service is paused no instruction, however it is called,
moves tokens, creates a mint or a token manager, or calls the gateway; and it stays paused until
`set_pause_status` ends the pause. -/
theorem pause_complete (env : Env) (laws : QuietLaws env.tokens) :
    (∀ s : World, s.Paused → ∀ ctx i s', process env ctx i s = .ok s' →
      i.checksPause = false ∧ Frozen s s') ∧
    ∀ owner gas calls later,
      let s := run (step env) (World.initial owner gas) calls
      s.Paused → (∀ t ∈ trace (step env) s later, t.call.pauses? ≠ some false) →
        (run (step env) s later).Paused := by
  constructor
  · intro s paused ctx i s' success
    cases checks : i.checksPause with
    | true => exact absurd (process_running success checks) paused.not_running
    | false => exact ⟨rfl, process_frozen laws success checks⟩
  · intro owner gas calls later s paused
    exact paused_run paused later

/-- The upgrade authority pauses the service. -/
def walletPause : Call walletEnv :=
  tableCall (.setPauseStatus ⟨⟨sampleWallet 3, true⟩, sampleAddress 0⟩ true) rfl

/-- A wallet's token stays where it is while the service is paused, although a limit is set. -/
theorem pause_complete_sample :
    let s := run (step walletEnv) sampleInitial (walletStart "ethereum" ++ [walletPause])
    (commit (step walletEnv) s (walletLimit (some 50))).chain.tokens.balance (sampleAddress 9) = 100 ∧
      (commit (step walletEnv) s (walletLimit (some 50))).Paused := by
  intro s
  have paused : s.Paused := ⟨⟨"hub", "solana", true, ["ethereum"], 255⟩, by decide +kernel, rfl⟩
  obtain ⟨frozen, stays⟩ := pause_complete walletEnv tableEnv_laws.toQuietLaws
  have executed : step walletEnv (walletLimit (some 50)) s
      = .ok (commit (step walletEnv) s (walletLimit (some 50))) :=
    step_eq_commit (by decide +kernel)
  constructor
  · obtain ⟨-, still⟩ := frozen s paused ⟨Gateway.sampleSysvar, .external, .setFlowLimit _ _⟩
      (.setFlowLimit _ _) _ executed
    rw [still.balance]
    decide +kernel
  · exact stays _ _ _ [walletLimit (some 50)] paused (by decide +kernel)

end AxelarSolana.Its
