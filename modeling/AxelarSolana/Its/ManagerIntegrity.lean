import AxelarSolana.Its.Environment
import AxelarSolana.Its.TokenCalls

/-! # The integrity of the token managers

* **`Managed`** — a token manager is at the address of its token id, and holds the address of a mint
  that its type supports and of the account that belongs to both; every move keeps it so.
* **`MintsManaged`** — a mint at the address that belongs to a token id is that of a manager of an
  interchain token of its own.
* **`token_manager_integrity`** — both over every run, and what follows from them. -/

namespace AxelarSolana.Its

open Fallible Machine

variable {env : Env} {ctx : Ctx} {s s' : World} {l : List LogEvent}

/-! ## A token manager in order -/

/-- **A token manager is at the address of its token id**, and the mint of an interchain token of
its own at the address that belongs to the id. -/
def Canonical (env : Env) (s : World) (key : Pubkey) (tokenManager : TokenManager) : Prop :=
  ∃ rootKey, s.RootAt env rootKey ∧
    env.findProgramAddress (TokenManager.pdaSeeds tokenManager.tokenId rootKey) env.itsId
      = .ok (key, tokenManager.bump) ∧
    (tokenManager.ty = .nativeInterchainToken → ∃ bump,
      env.findProgramAddress (TokenManager.tokenMintSeeds tokenManager.tokenId rootKey) env.itsId
        = .ok (tokenManager.tokenAddress, bump))

/-- **A token manager belongs to its address and to its mint.** -/
structure Managed (env : Env) (s : World) (key : Pubkey) (tokenManager : TokenManager) : Prop where
  address : Canonical env s key tokenManager
  mint : ∃ m, s.chain.tokens.mints tokenManager.tokenAddress = some m ∧
    associatedTokenAddress env key tokenManager.tokenAddress m.owner
      = .ok tokenManager.associatedTokenAccount ∧
    tokenManager.ty.supportsMintExtensions m.transferFeeConfig.isSome = true

/-- Only the flow of a manager changes. -/
theorem Canonical.mono {key : Pubkey} {tokenManager : TokenManager}
    (h : Canonical env s key tokenManager) (ext : s.Extends s') (flowSlot : FlowState) :
    Canonical env s' key { tokenManager with flowSlot } := by
  obtain ⟨rootKey, root, address, native⟩ := h
  exact ⟨rootKey, ext.rootAt root, address, native⟩

/-- Only the flow of a manager changes, and mints stay. -/
theorem Managed.mono {key : Pubkey} {tokenManager : TokenManager}
    (h : Managed env s key tokenManager) (ext : s.Extends s')
    (kept : s.chain.tokens.Kept s'.chain.tokens) (flowSlot : FlowState) :
    Managed env s' key { tokenManager with flowSlot } where
  address := h.address.mono ext flowSlot
  mint := by
    obtain ⟨m, stored, account, supported⟩ := h.mint
    obtain ⟨m', stored', owner, fee⟩ := kept _ m stored
    exact ⟨m', stored', owner ▸ account, fee ▸ supported⟩

/-- A manager is created at the address of its token id. -/
theorem NewTokenManager.canonical {key : Pubkey} {tokenManager : TokenManager}
    (h : NewTokenManager env key tokenManager s) : Canonical env s key tokenManager := by
  obtain ⟨root, rootKey, stored, created, address, native⟩ := h.address
  exact ⟨rootKey, ⟨root, stored, created⟩, address, native⟩

/-- A manager that is created is in order. -/
theorem NewTokenManager.managed (laws : TokenLaws env.tokens) {key : Pubkey}
    {tokenManager : TokenManager} (h : NewTokenManager env key tokenManager s) :
    Managed env s key tokenManager where
  address := h.canonical
  mint := by
    obtain ⟨tokenProgram, account, origin⟩ := h.mint
    cases origin with
    | existing m stored owned supported custom => exact ⟨m, stored, owned ▸ account, supported⟩
    | initialised decimals before after created since native =>
      obtain ⟨m₀, stored₀, owner₀, -, fee₀⟩ := laws.initialised created
      obtain ⟨m, stored, owner, fee⟩ := TokenSteps.kept laws since _ m₀ stored₀
      refine ⟨m, stored, ?_, ?_⟩
      · rw [owner, owner₀]
        exact account
      · rw [fee, fee₀, native]
        rfl

/-! ## Every token manager -/

/-- **Every token manager is at the address of its token id.** -/
def AllCanonical (env : Env) (s : World) : Prop :=
  ∀ key tokenManager, s.accounts.tokenManagers key = some tokenManager →
    Canonical env s key tokenManager

/-- **Every token manager is in order.** -/
def AllManaged (env : Env) (s : World) : Prop :=
  ∀ key tokenManager, s.accounts.tokenManagers key = some tokenManager →
    Managed env s key tokenManager

/-- Managers that are in order are at the addresses of their token ids. -/
theorem AllManaged.canonical (h : AllManaged env s) : AllCanonical env s :=
  fun key tokenManager stored => (h key tokenManager stored).address

/-- **What a move does to the token managers**: one that is there was there before, but for its flow,
or is new. -/
theorem Move.tokenManager (h : Move env ctx s l s') {key : Pubkey} {tokenManager : TokenManager}
    (stored' : s'.accounts.tokenManagers key = some tokenManager) :
    (∃ old, s.accounts.tokenManagers key = some old ∧
      tokenManager = { old with flowSlot := tokenManager.flowSlot }) ∨
    NewTokenManager env key tokenManager s := by
  cases present : s.accounts.tokenManagers key with
  | some old =>
    obtain ⟨flowSlot, written⟩ := h.extends.managers key old present
    cases stored'.symm.trans written
    exact .inl ⟨old, rfl, rfl⟩
  | none =>
    cases h with
    | createTokenManager k created new =>
      simp only [World.createTokenManager, World.setTokenManager] at stored'
      by_cases same : key = k
      · subst same
        rw [Function.update_self] at stored'
        cases stored'
        exact .inr new
      · rw [Function.update_of_ne same] at stored'
        cases present.symm.trans stored'
    | setFlowSlot k old flowSlot stored =>
      simp only [World.setTokenManager] at stored'
      have other : key ≠ k := by
        rintro rfl
        cases present.symm.trans stored
      rw [Function.update_of_ne other] at stored'
      cases present.symm.trans stored'
    | _ => cases present.symm.trans stored'

/-- A move keeps every manager at the address of its token id. -/
theorem Move.canonical (h : Move env ctx s l s') (before : AllCanonical env s) :
    AllCanonical env s' := by
  intro key tokenManager stored'
  rcases h.tokenManager stored' with ⟨old, stored, written⟩ | new
  · rw [written]
    exact (before key old stored).mono h.extends tokenManager.flowSlot
  · exact new.canonical.mono h.extends tokenManager.flowSlot

/-- A move keeps every manager in order. -/
theorem Move.managed (laws : TokenLaws env.tokens) (h : Move env ctx s l s')
    (before : AllManaged env s) : AllManaged env s' := by
  intro key tokenManager stored'
  have kept := h.tokenCalls.kept laws
  rcases h.tokenManager stored' with ⟨old, stored, written⟩ | new
  · rw [written]
    exact (before key old stored).mono h.extends kept tokenManager.flowSlot
  · exact (new.managed laws).mono h.extends kept tokenManager.flowSlot

/-- **Every call keeps the token managers at their addresses.** -/
theorem StepCases.canonical {call : Call env} (h : StepCases env s call s')
    (before : AllCanonical env s) : AllCanonical env s' := by
  cases h with
  | external call outside chain run => exact before
  | own sysvar i outside l s' notInner notExecute effect performs =>
    exact performs.keep (fun _ _ _ move => move.canonical) before
  | execute sysvar a message payload outside sourceChain inner gateway i l s' accepts received
      performs =>
    exact performs.keep (fun _ _ _ move => move.canonical)
      ((accepting_performs accepts).keep (fun _ _ _ move => move.canonical) before)

/-- **Every call keeps the token managers in order.** -/
theorem StepCases.managed (laws : TokenLaws env.tokens) {call : Call env}
    (h : StepCases env s call s') (before : AllManaged env s) : AllManaged env s' := by
  cases h with
  | external call outside chain run =>
    intro key tokenManager stored
    have calls : TokenCalls env [] s.chain.tokens chain.tokens :=
      ExternalCall.tokenCalls run fun _ => .outside outside
    have ext : s.Extends (s.withChain chain) := .of_same rfl rfl List.prefix_rfl
    exact (before key tokenManager stored).mono ext (calls.kept laws) tokenManager.flowSlot
  | own sysvar i outside l s' notInner notExecute effect performs =>
    exact performs.keep (fun _ _ _ move => move.managed laws) before
  | execute sysvar a message payload outside sourceChain inner gateway i l s' accepts received
      performs =>
    exact performs.keep (fun _ _ _ move => move.managed laws)
      ((accepting_performs accepts).keep (fun _ _ _ move => move.managed laws) before)

/-- Every manager is at the address of its token id, over every run. -/
theorem canonical_run (env : Env) (owner : Pubkey → Pubkey) (gas : GasService.GasState)
    (calls : List (Call env)) :
    AllCanonical env (run (step env) (World.initial owner gas) calls) := by
  refine run_invariant (P := fun s => AllCanonical env s) ?_ ?_ calls
  · intro key tokenManager stored
    cases stored
  · intro s call s' before success
    exact (step_cases success).canonical before

/-- Every manager is in order, over every run. -/
theorem managed_run (env : Env) (laws : TokenLaws env.tokens) (owner : Pubkey → Pubkey)
    (gas : GasService.GasState) (calls : List (Call env)) :
    AllManaged env (run (step env) (World.initial owner gas) calls) := by
  refine run_invariant (P := fun s => AllManaged env s) ?_ ?_ calls
  · intro key tokenManager stored
    cases stored
  · intro s call s' before success
    exact (step_cases success).managed laws before

/-- **A token id has one manager.** -/
theorem AllCanonical.unique (h : AllCanonical env s) {key key' : Pubkey}
    {tokenManager tokenManager' : TokenManager}
    (stored : s.accounts.tokenManagers key = some tokenManager)
    (stored' : s.accounts.tokenManagers key' = some tokenManager')
    (same : tokenManager.tokenId = tokenManager'.tokenId) : key = key' := by
  obtain ⟨rootKey, root, address, -⟩ := h key tokenManager stored
  obtain ⟨rootKey', root', address', -⟩ := h key' tokenManager' stored'
  rw [root.unique root', same] at address
  have both := address.symm.trans address'
  rw [Except.ok.injEq, Prod.mk.injEq] at both
  exact both.1

/-! ## Mints of interchain tokens -/

/-- **A mint at the address that belongs to a token id** is that of a manager of its own. -/
def MintsManaged (env : Env) (names : List Bytes → Prop) (s : World) : Prop :=
  ∀ tokenId rootKey mint m, names (TokenManager.tokenMintSeeds tokenId rootKey) →
    env.Derives (TokenManager.tokenMintSeeds tokenId rootKey) mint →
    s.chain.tokens.mints mint = some m → ∃ key tokenManager,
      s.accounts.tokenManagers key = some tokenManager ∧
        tokenManager.ty = .nativeInterchainToken ∧ tokenManager.tokenAddress = mint

/-- The manager of an interchain token of its own stays one. -/
theorem World.Extends.native (ext : s.Extends s') {mint : Pubkey}
    (h : ∃ key tokenManager, s.accounts.tokenManagers key = some tokenManager ∧
      tokenManager.ty = .nativeInterchainToken ∧ tokenManager.tokenAddress = mint) :
    ∃ key tokenManager, s'.accounts.tokenManagers key = some tokenManager ∧
      tokenManager.ty = .nativeInterchainToken ∧ tokenManager.tokenAddress = mint := by
  obtain ⟨key, tokenManager, stored, native, address⟩ := h
  obtain ⟨flowSlot, stored'⟩ := ext.managers key tokenManager stored
  exact ⟨key, { tokenManager with flowSlot }, stored', native, address⟩

/-- Whether an event initialises a mint. -/
def LogEvent.initialises (mint : Pubkey) : LogEvent → Prop
  | .tokens (.initializeMint2 _ key _ _ _) _ _ => key = mint
  | _ => False

/-- Granting roles initialises no mint. -/
theorem Granted.not_initialises {accounts accounts' : Accounts} {resource : Pubkey}
    {roles : UInt8} (h : Granted env accounts resource roles l accounts') {e : LogEvent}
    (mem : e ∈ l) (mint : Pubkey) : ¬ e.initialises mint := by
  cases h with
  | nobody => cases mem
  | user user key bump fresh address =>
    cases List.mem_singleton.mp mem
    exact id

/-- Registering a manager initialises no mint. -/
theorem Registered.not_initialises {key : Pubkey} {tokenManager : TokenManager}
    (h : Registered env key tokenManager l s s') {e : LogEvent} (mem : e ∈ l) (mint : Pubkey) :
    ¬ e.initialises mint := by
  obtain ⟨accounts, granted, -⟩ := h.accounts
  exact granted.not_initialises mem mint

/-- The registered manager is stored. -/
theorem Registered.stored {key : Pubkey} {tokenManager : TokenManager}
    (h : Registered env key tokenManager l s s') :
    s'.accounts.tokenManagers key = some tokenManager := by
  obtain ⟨accounts, -, written⟩ := h.accounts
  rw [written]
  exact Function.update_self ..

/-- An outbound transfer initialises no mint. -/
theorem Takes.not_initialises {sysvar : Sysvar} {a : InterchainTransfer} {m : Mint}
    {amount reported : UInt64} {ty : TokenManagerType} {instruction : TokenInstruction}
    (h : Takes env sysvar a m amount ty reported instruction) (before after : TokenState)
    (mint : Pubkey) : ¬ (LogEvent.tokens instruction before after).initialises mint := by
  cases h <;> exact id

/-- An inbound transfer initialises no mint. -/
theorem Gives.not_initialises {sysvar : Sysvar} {a : ExecuteInterchainTransfer} {m : Mint}
    {amount transferred : UInt64} {ty : TokenManagerType} {instruction : TokenInstruction}
    (h : Gives env sysvar a m amount ty transferred instruction) (before after : TokenState)
    (mint : Pubkey) : ¬ (LogEvent.tokens instruction before after).initialises mint := by
  cases h <;> exact id

/-- **Only a deployment initialises a mint**, and it creates its manager. -/
theorem Effect.initialises_mint {sysvar : Sysvar} {i : ItsInstruction}
    (h : Effect env sysvar s i l s') {e : LogEvent} {mint : Pubkey} (mem : e ∈ l)
    (new : e.initialises mint) : ∃ key tokenManager,
      s'.accounts.tokenManagers key = some tokenManager ∧
        tokenManager.ty = .nativeInterchainToken ∧ tokenManager.tokenAddress = mint := by
  cases h with
  | deploys a salt name symbol decimals initialSupply tokenManager granted t₁ t₂ t₃ s' native address
      deployed registered =>
    simp only [List.mem_cons, List.mem_append, List.not_mem_nil, or_false] at mem
    rcases mem with rfl | (granted | supply) | rfl
    · exact ⟨a.tokenManagerPda, tokenManager, registered.stored, native, address.trans new⟩
    · exact absurd new (registered.not_initialises granted mint)
    · unfold initialSupplyEvents at supply
      split at supply
      · cases List.mem_singleton.mp supply
        cases new
      · cases supply
    · cases new
  | registers i key tokenManager granted s' existing registered =>
    rcases List.mem_cons.mp mem with rfl | granted
    · cases new
    · exact absurd new (registered.not_initialises granted mint)
  | transfers a tokenId destinationChain destinationAddress amount gasValue reported
      callerProgramId callerPdaSeeds data tokenManager tracked m instruction sourceAddress after s'
      outbound accounts =>
    rcases List.mem_cons.mp mem with rfl | sent
    · exact absurd new (outbound.takes.not_initialises _ _ mint)
    · cases List.mem_singleton.mp sent
      cases new
  | _ =>
    -- at most one event, and none that initialises a mint
    first
      | (cases List.mem_singleton.mp mem
         cases new)
      | cases mem

/-- **Only a deployment of the hub initialises a mint**, and it creates its manager. -/
theorem Received.initialises_mint {sysvar : Sysvar} {outer : Execute} {message : Message}
    {sourceChain : String} {inner : Encoding.Message} {i : ItsInstruction}
    (h : Received env sysvar outer message sourceChain s inner i l s') {e : LogEvent}
    {mint : Pubkey} (mem : e ∈ l) (new : e.initialises mint) : ∃ key tokenManager,
      s'.accounts.tokenManagers key = some tokenManager ∧
        tokenManager.ty = .nativeInterchainToken ∧ tokenManager.tokenAddress = mint := by
  cases h with
  | transfer a transfer destination transferred tokenManager tracked m instruction before after
      called s' manager parsed signers inbound calls accounts =>
    rcases List.mem_cons.mp mem with rfl | mem
    · exact absurd new (inbound.gives.not_initialises _ _ mint)
    · rcases List.mem_cons.mp mem with rfl | mem
      · cases new
      · cases calls with
        | quiet noData => cases mem
        | invoked data vouching listed call invoked =>
          cases List.mem_singleton.mp mem
          cases new
  | deploy a deploy bump rolesBump after s' inbound registered =>
    rcases List.mem_cons.mp mem with rfl | mem
    · exact ⟨_, _, registered.stored, rfl, new⟩
    · rcases List.mem_cons.mp mem with rfl | granted
      · cases new
      · exact absurd new (registered.not_initialises granted mint)
  | link a link destinationTokenAddress ty bump rolesBump s' parsed inbound registered =>
    rcases List.mem_cons.mp mem with rfl | granted
    · cases new
    · exact absurd new (registered.not_initialises granted mint)

/-- A mint at such an address is created only by its own initialisation. -/
theorem Performs.mint_created (laws : TokenLaws env.tokens) {names : List Bytes → Prop}
    (apart : env.Apart names) (h : Performs env ctx s l s')
    (named : ∀ seeds, s'.Names env seeds → names seeds) {tokenId : Bytes32} {rootKey mint : Pubkey}
    {m : Mint} (name : names (TokenManager.tokenMintSeeds tokenId rootKey))
    (derived : env.Derives (TokenManager.tokenMintSeeds tokenId rootKey) mint)
    (absent : s.chain.tokens.mints mint = none) (present : s'.chain.tokens.mints mint = some m) :
    ∃ e ∈ l, e.initialises mint := by
  rcases h.tokenCalls.created laws absent present with outside | ⟨_, _, _, _, before, after, mem⟩ |
    ⟨call, mem, signable⟩
  · exact absurd outside derived.not_outside
  · exact ⟨_, mem, rfl⟩
  · obtain ⟨entry, logged, called⟩ := h.mem_log mem
    exact absurd signable (apart.not_signable name derived (named _ .root)
      (named _ (.destination entry call logged called)) tokenMintSeeds_ne_root
      tokenMintSeeds_ne_execute)

/-- **Every call keeps the mints of interchain tokens managed.** -/
theorem StepCases.mintsManaged (laws : TokenLaws env.tokens) {names : List Bytes → Prop}
    (apart : env.Apart names) {call : Call env} (h : StepCases env s call s')
    (named : ∀ seeds, s'.Names env seeds → names seeds) (before : MintsManaged env names s) :
    MintsManaged env names s' := by
  intro tokenId rootKey mint m name derived present
  cases absent : s.chain.tokens.mints mint with
  | some m₀ => exact h.extends.native (before tokenId rootKey mint m₀ name derived absent)
  | none =>
    cases h with
    | external call outside chain run =>
      have calls : TokenCalls env [] s.chain.tokens chain.tokens :=
        ExternalCall.tokenCalls run fun _ => .outside outside
      rcases calls.created laws absent present with outside | ⟨_, _, _, _, _, _, mem⟩ | ⟨_, mem, _⟩
      · exact absurd outside derived.not_outside
      · cases mem
      · cases mem
    | own sysvar i outside l s' notInner notExecute effect performs =>
      obtain ⟨e, mem, new⟩ := performs.mint_created laws apart named name derived absent present
      exact effect.initialises_mint mem new
    | execute sysvar a message payload outside sourceChain inner gateway i l s' accepts received
        performs =>
      obtain ⟨e, mem, new⟩ := performs.mint_created laws apart named name derived absent present
      exact received.initialises_mint mem new

/-- A mint at the address of a token id is that of its own manager, over every run. -/
theorem mintsManaged_run (env : Env) (laws : TokenLaws env.tokens) (owner : Pubkey → Pubkey)
    (gas : GasService.GasState) (calls : List (Call env)) {names : List Bytes → Prop}
    (apart : env.Apart names) :
    (∀ seeds, (run (step env) (World.initial owner gas) calls).Names env seeds → names seeds) →
      MintsManaged env names (run (step env) (World.initial owner gas) calls) := by
  refine run_invariant (P := fun s : World =>
    (∀ seeds, s.Names env seeds → names seeds) → MintsManaged env names s) ?_ ?_ calls
  · intro _ tokenId rootKey mint m _ _ present
    cases present
  · intro s call s' before success named
    have step := step_cases success
    exact step.mintsManaged laws apart named
      (before fun seeds name => named seeds (step.extends.names name))

/-! ## Every run -/

/-- **A token manager whose fields agree**: its address is that of its token id, its account that of
the manager and its mint; it is of an interchain token of its own exactly when its mint is the one
that belongs to its token id; and its type agrees with the fee of its mint. -/
structure InOrder (env : Env) (s : World) (key : Pubkey) (tokenManager : TokenManager) : Prop where
  address : ∃ rootKey, s.RootAt env rootKey ∧
    env.findProgramAddress (TokenManager.pdaSeeds tokenManager.tokenId rootKey) env.itsId
      = .ok (key, tokenManager.bump) ∧
    (tokenManager.ty = .nativeInterchainToken ↔ ∃ bump,
      env.findProgramAddress (TokenManager.tokenMintSeeds tokenManager.tokenId rootKey) env.itsId
        = .ok (tokenManager.tokenAddress, bump))
  mint : ∃ m, s.chain.tokens.mints tokenManager.tokenAddress = some m ∧
    associatedTokenAddress env key tokenManager.tokenAddress m.owner
      = .ok tokenManager.associatedTokenAccount ∧
    (tokenManager.ty = .lockUnlock → m.transferFeeConfig = none) ∧
    (tokenManager.ty = .lockUnlockFee → m.transferFeeConfig.isSome = true)

/-- A manager whose mint belongs to its token id is of an interchain token of its own. -/
theorem native_of_mint (apart : env.Apart (s.Names env)) (managed : AllManaged env s)
    (mints : MintsManaged env (s.Names env) s) {key rootKey : Pubkey} {tokenManager : TokenManager}
    (stored : s.accounts.tokenManagers key = some tokenManager) (root : s.RootAt env rootKey)
    (derived : env.Derives (TokenManager.tokenMintSeeds tokenManager.tokenId rootKey)
      tokenManager.tokenAddress) : tokenManager.ty = .nativeInterchainToken := by
  have name := World.Names.tokenMint key rootKey tokenManager stored root
  obtain ⟨m, present, -⟩ := (managed key tokenManager stored).mint
  obtain ⟨key', tokenManager', stored', native, address⟩ :=
    mints tokenManager.tokenId rootKey tokenManager.tokenAddress m name derived present
  -- the mint's own manager has the same token id, so it is the same manager
  obtain ⟨rootKey', root', -, mintOf⟩ := (managed key' tokenManager' stored').address
  obtain ⟨bump, found⟩ := mintOf native
  rw [address, root'.unique root] at found
  have name' := World.Names.tokenMint key' rootKey tokenManager' stored' root
  obtain ⟨same, -⟩ := tokenMintSeeds_inj (apart _ _ _ name name' derived (derives_of_find found))
  have one := managed.canonical.unique stored stored' same
  subst one
  cases stored.symm.trans stored'
  exact native

/-- **The integrity of the token managers**, over every run in which the seeds that the world speaks
about lead to different addresses: every token manager is in order, a token id has one of them, and
later calls change nothing of it but its flow. -/
theorem token_manager_integrity (env : Env) (laws : TokenLaws env.tokens)
    (owner : Pubkey → Pubkey) (gas : GasService.GasState) (calls : List (Call env))
    (apart : env.Apart ((run (step env) (World.initial owner gas) calls).Names env)) :
    let s := run (step env) (World.initial owner gas) calls
    (∀ key tokenManager, s.accounts.tokenManagers key = some tokenManager →
      InOrder env s key tokenManager ∧
      ∀ later, ∃ flowSlot, (run (step env) s later).accounts.tokenManagers key
        = some { tokenManager with flowSlot }) ∧
    ∀ key key' tokenManager tokenManager', s.accounts.tokenManagers key = some tokenManager →
      s.accounts.tokenManagers key' = some tokenManager' →
      tokenManager.tokenId = tokenManager'.tokenId → key = key' := by
  intro s
  have managed : AllManaged env s := managed_run env laws owner gas calls
  have mints : MintsManaged env (s.Names env) s :=
    mintsManaged_run env laws owner gas calls apart fun _ name => name
  constructor
  · intro key tokenManager stored
    constructor
    · obtain ⟨rootKey, root, address, native⟩ := (managed key tokenManager stored).address
      obtain ⟨m, present, account, supported⟩ := (managed key tokenManager stored).mint
      refine ⟨⟨rootKey, root, address, native, ?_⟩,
        ⟨m, present, account, fun lock => ?_, fun lock => ?_⟩⟩
      · rintro ⟨bump, found⟩
        -- a mint at the address of a token id was created with the manager of this id
        exact native_of_mint apart managed mints stored root (derives_of_find found)
      · rw [lock] at supported
        cases fee : m.transferFeeConfig with
        | none => rfl
        | some config =>
          rw [fee] at supported
          cases supported
      · rw [lock] at supported
        cases fee : m.transferFeeConfig with
        | none =>
          rw [fee] at supported
          cases supported
        | some config => rfl
    · intro later
      exact (extends_run s later).managers key tokenManager stored
  · intro key key' tokenManager tokenManager' stored stored' same
    exact managed.canonical.unique stored stored' same

/-- The manager of a wallet's token stays that of the wallet's token when tokens are sent away. -/
theorem token_manager_integrity_sample :
    let s := run (step walletEnv) sampleInitial (walletStart "ethereum")
    (∃ tokenManager, s.accounts.tokenManagers (sampleAddress 1) = some tokenManager ∧
      InOrder walletEnv s (sampleAddress 1) tokenManager) ∧
    ∃ tokenManager, (run (step walletEnv) s
        [walletLimit (some 50), walletTransfer Gateway.sampleSysvar "ethereum" 30]).accounts.tokenManagers
          (sampleAddress 1) = some tokenManager ∧
      tokenManager.flowSlot.flowOut = 30 ∧ tokenManager.tokenAddress = sampleAddress 2 := by
  intro s
  obtain ⟨inOrder, -⟩ := token_manager_integrity walletEnv tableEnv_laws (fun _ => sampleProgramId 4)
    ⟨none, fun _ => 0, []⟩ (walletStart "ethereum") (tableEnv_apart (by decide +kernel) _)
  rw [show run (step walletEnv) (World.initial _ _) (walletStart "ethereum") = s from rfl] at inOrder
  have stored : s.accounts.tokenManagers (sampleAddress 1) = some
      ⟨.nativeInterchainToken, walletTokenId, sampleAddress 2, sampleAddress 3, FlowState.new none 0,
        255⟩ := by decide +kernel
  obtain ⟨order, stays⟩ := inOrder _ _ stored
  obtain ⟨flowSlot, later⟩ := stays
    [walletLimit (some 50), walletTransfer Gateway.sampleSysvar "ethereum" 30]
  have flow : ((run (step walletEnv) s [walletLimit (some 50),
      walletTransfer Gateway.sampleSysvar "ethereum" 30]).accounts.tokenManagers
        (sampleAddress 1)).map (fun tokenManager => tokenManager.flowSlot.flowOut) = some 30 := by
    decide +kernel
  rw [later, Option.map_some] at flow
  exact ⟨⟨_, stored, order⟩, _, later, Option.some.inj flow, rfl⟩

end AxelarSolana.Its
