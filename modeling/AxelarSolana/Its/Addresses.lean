import AxelarSolana.Its.Steps

/-! # Addresses of the program

* **`Derives`**, **`Apart`** — the addresses that seeds lead to; seeds that lead to different ones.
* **`Extends`** — what no call takes back: the root account's address, the token managers but for
  their flow, and the log.
* **`Names`** — the seeds that a world speaks about: those of the root account, of its token managers
  and their mints, of the address that calls the gateway, and of those that vouch for calls of
  destination programs. -/

namespace AxelarSolana.Its

open Fallible Machine

/-- **The seeds lead to an address** of the program, with some bump. -/
def Deployment.Derives (env : Deployment) (seeds : List Bytes) (key : Pubkey) : Prop :=
  env.toSyscalls.Derives env.itsId seeds key

/-- **No two of these seeds lead to the same address** of the program. -/
def Deployment.Apart (env : Deployment) (names : List Bytes → Prop) : Prop :=
  env.toSyscalls.Apart env.itsId names

variable {env : Env} {ctx : Ctx} {s s₁ s' : World} {l : List LogEvent}

/-- An address of the program does not sign outside it. -/
theorem Deployment.Derives.not_outside {seeds : List Bytes} {key : Pubkey}
    (h : env.Derives seeds key) : ¬ env.SignsOutside key := by
  obtain ⟨bump, created⟩ := h
  exact fun outside => outside.2 _ created

/-- An address with other seeds signs for no destination program. -/
theorem Deployment.Apart.not_signable {names : List Bytes → Prop} (apart : env.Apart names)
    {seeds : List Bytes} {key destination : Pubkey} (named : names seeds)
    (derived : env.Derives seeds key) (root : names InterchainTokenService.pdaSeeds)
    (vouching : names (InterchainTransferExecute.pdaSeeds destination))
    (notRoot : seeds ≠ InterchainTokenService.pdaSeeds)
    (notVouching : seeds ≠ InterchainTransferExecute.pdaSeeds destination) :
    ¬ env.Signable destination key := by
  rintro (outside | created | created)
  · exact derived.not_outside outside
  · exact notRoot (apart _ _ key named root derived created)
  · exact notVouching (apart _ _ key named vouching derived created)

/-- The loud events of an instruction are in the log. -/
theorem Performs.mem_log (h : Performs env ctx s l s') {e : LogEvent} (mem : e ∈ l) :
    ∃ entry ∈ s'.log, entry.event = e := by
  obtain ⟨events, log, rfl⟩ := h.log
  refine ⟨ctx.entry e, ?_, rfl⟩
  rw [log]
  exact List.mem_append_right _ (List.mem_map_of_mem (List.mem_of_mem_filter mem))

/-! ## What no call takes back -/

/-- **The root account is at an address.** -/
def World.RootAt (s : World) (env : Env) (rootKey : Pubkey) : Prop :=
  ∃ root, s.accounts.root = some root ∧
    env.createProgramAddress (InterchainTokenService.pdaSeeds ++ [[root.bump]]) env.itsId
      = some rootKey

/-- The root account is at one address. -/
theorem World.RootAt.unique {rootKey rootKey' : Pubkey} (h : s.RootAt env rootKey)
    (h' : s.RootAt env rootKey') : rootKey = rootKey' := by
  obtain ⟨root, stored, address⟩ := h
  obtain ⟨root', stored', address'⟩ := h'
  cases stored.symm.trans stored'
  exact Option.some.inj (address.symm.trans address')

/-- **What no call takes back.** -/
structure World.Extends (s s' : World) : Prop where
  root : ∀ root, s.accounts.root = some root →
    ∃ root', s'.accounts.root = some root' ∧ root'.bump = root.bump
  managers : ∀ key tokenManager, s.accounts.tokenManagers key = some tokenManager →
    ∃ flowSlot, s'.accounts.tokenManagers key = some { tokenManager with flowSlot }
  log : s.log <+: s'.log

/-- Neither the root account nor a token manager is written. -/
theorem World.Extends.of_same (root : s'.accounts.root = s.accounts.root)
    (managers : s'.accounts.tokenManagers = s.accounts.tokenManagers) (log : s.log <+: s'.log) :
    s.Extends s' where
  root r stored := ⟨r, root.trans stored, rfl⟩
  managers key tokenManager stored := ⟨tokenManager.flowSlot, by rw [managers, stored]⟩
  log

/-- A world extends itself. -/
theorem World.Extends.refl (s : World) : s.Extends s := .of_same rfl rfl (List.prefix_rfl)

/-- Extensions compose. -/
theorem World.Extends.trans (h : s.Extends s₁) (h' : s₁.Extends s') : s.Extends s' where
  root root stored := by
    obtain ⟨root₁, stored₁, same₁⟩ := h.root root stored
    obtain ⟨root', stored', same'⟩ := h'.root root₁ stored₁
    exact ⟨root', stored', same'.trans same₁⟩
  managers key tokenManager stored := by
    obtain ⟨flowSlot₁, stored₁⟩ := h.managers key tokenManager stored
    obtain ⟨flowSlot, stored'⟩ := h'.managers key { tokenManager with flowSlot := flowSlot₁ } stored₁
    exact ⟨flowSlot, stored'⟩
  log := h.log.trans h'.log

/-- A move takes nothing back. -/
theorem Move.extends (h : Move env ctx s l s') : s.Extends s' := by
  cases h with
  | setRoot root rootLen bump =>
    exact
      { root := fun r stored => ⟨root, rfl, bump r stored⟩
        managers := fun key tokenManager stored => ⟨tokenManager.flowSlot, stored⟩
        log := List.prefix_rfl }
  | setFlowSlot key tokenManager flowSlot stored =>
    refine ⟨fun root stored => ⟨root, stored, rfl⟩, fun key' old stored' => ?_, List.prefix_rfl⟩
    by_cases same : key' = key
    · subst same
      cases stored.symm.trans stored'
      exact ⟨flowSlot, Function.update_self ..⟩
    · refine ⟨old.flowSlot, ?_⟩
      simp only [World.setTokenManager]
      rwa [Function.update_of_ne same]
  | createTokenManager key tokenManager new =>
    refine ⟨fun root stored => ⟨root, stored, rfl⟩, fun key' old stored' => ?_,
      List.prefix_append ..⟩
    have other : key' ≠ key := by
      rintro rfl
      cases new.fresh.symm.trans stored'
    refine ⟨old.flowSlot, ?_⟩
    simp only [World.createTokenManager, World.setTokenManager]
    rwa [Function.update_of_ne other]
  | setUserRoles | validate => exact .of_same rfl rfl List.prefix_rfl
  | _ => exact .of_same rfl rfl (List.prefix_append ..)

/-- A sequence of moves takes nothing back. -/
theorem Performs.extends (h : Performs env ctx s l s') : s.Extends s' := by
  refine h.keep (P := fun t => s.Extends t) ?_ (.refl s)
  intro _ _ _ move before
  exact before.trans move.extends

/-- **Every call extends the world.** -/
theorem StepCases.extends {call : Call env} (h : StepCases env s call s') : s.Extends s' := by
  cases h with
  | external call outside chain run => exact .of_same rfl rfl List.prefix_rfl
  | own sysvar i outside l s' notInner notExecute effect performs => exact performs.extends
  | execute sysvar a message payload outside sourceChain inner gateway i l s' accepts received
      performs => exact (accepting_performs accepts).extends.trans performs.extends

/-- The world after more calls extends the world before them. -/
theorem extends_run (s : World) (calls : List (Call env)) : s.Extends (run (step env) s calls) := by
  refine run_invariant (P := fun t => s.Extends t) (.refl s) ?_ calls
  intro t call t' before success
  exact before.trans (step_cases success).extends

/-- The root account stays at its address. -/
theorem World.Extends.rootAt (h : s.Extends s') {rootKey : Pubkey} (here : s.RootAt env rootKey) :
    s'.RootAt env rootKey := by
  obtain ⟨root, stored, address⟩ := here
  obtain ⟨root', stored', bump⟩ := h.root root stored
  exact ⟨root', stored', bump ▸ address⟩

/-! ## Seeds -/

/-- **The seeds that a world speaks about.** -/
inductive World.Names (env : Env) (s : World) : List Bytes → Prop
  | root : Names env s InterchainTokenService.pdaSeeds
  | callContract : Names env s [Gateway.CallContractSigner.seedPrefix]
  | tokenManager (key rootKey : Pubkey) (tokenManager : TokenManager)
      (stored : s.accounts.tokenManagers key = some tokenManager) (root : s.RootAt env rootKey) :
      Names env s (TokenManager.pdaSeeds tokenManager.tokenId rootKey)
  | tokenMint (key rootKey : Pubkey) (tokenManager : TokenManager)
      (stored : s.accounts.tokenManagers key = some tokenManager) (root : s.RootAt env rootKey) :
      Names env s (TokenManager.tokenMintSeeds tokenManager.tokenId rootKey)
  | destination (entry : LogEntry) (call : DestinationCall) (mem : entry ∈ s.log)
      (called : entry.event = .destinationCalled call) :
      Names env s (InterchainTransferExecute.pdaSeeds call.programId)

/-- A world that extends another speaks about its seeds, too. -/
theorem World.Extends.names (h : s.Extends s') {seeds : List Bytes} (names : s.Names env seeds) :
    s'.Names env seeds := by
  cases names with
  | root => exact .root
  | callContract => exact .callContract
  | tokenManager key rootKey tokenManager stored root =>
    obtain ⟨flowSlot, stored'⟩ := h.managers key tokenManager stored
    exact .tokenManager key rootKey { tokenManager with flowSlot } stored' (h.rootAt root)
  | tokenMint key rootKey tokenManager stored root =>
    obtain ⟨flowSlot, stored'⟩ := h.managers key tokenManager stored
    exact .tokenMint key rootKey { tokenManager with flowSlot } stored' (h.rootAt root)
  | destination entry call mem called => exact .destination entry call (h.log.subset mem) called

/-! ## Seeds of different kinds -/

/-- The seeds of a mint name the token. -/
theorem tokenMintSeeds_inj {tokenId tokenId' : Bytes32} {rootKey rootKey' : Pubkey}
    (h : TokenManager.tokenMintSeeds tokenId rootKey
      = TokenManager.tokenMintSeeds tokenId' rootKey') : tokenId = tokenId' ∧ rootKey = rootKey' := by
  simp only [TokenManager.tokenMintSeeds, List.cons.injEq, and_true, true_and] at h
  exact ⟨List.Vector.toList_injective h.2, List.Vector.toList_injective h.1⟩

/-- The seeds of a mint are not those of the root account. -/
theorem tokenMintSeeds_ne_root {tokenId : Bytes32} {rootKey : Pubkey} :
    TokenManager.tokenMintSeeds tokenId rootKey ≠ InterchainTokenService.pdaSeeds := by
  simp [TokenManager.tokenMintSeeds, InterchainTokenService.pdaSeeds]

/-- The seeds of a mint are not those by which a destination program is called. -/
theorem tokenMintSeeds_ne_execute {tokenId : Bytes32} {rootKey destination : Pubkey} :
    TokenManager.tokenMintSeeds tokenId rootKey
      ≠ InterchainTransferExecute.pdaSeeds destination := by
  simp [TokenManager.tokenMintSeeds, InterchainTransferExecute.pdaSeeds]

/-- The seeds of a token manager are not those of the root account. -/
theorem tokenManagerSeeds_ne_root {tokenId : Bytes32} {rootKey : Pubkey} :
    TokenManager.pdaSeeds tokenId rootKey ≠ InterchainTokenService.pdaSeeds := by
  simp [TokenManager.pdaSeeds, InterchainTokenService.pdaSeeds]

/-- The seeds of a token manager are not those by which a destination program is called. -/
theorem tokenManagerSeeds_ne_execute {tokenId : Bytes32} {rootKey destination : Pubkey} :
    TokenManager.pdaSeeds tokenId rootKey ≠ InterchainTransferExecute.pdaSeeds destination := by
  simp [TokenManager.pdaSeeds, InterchainTransferExecute.pdaSeeds]

/-- The seeds of the gateway's caller are not those of the root account. -/
theorem callContractSeeds_ne_root :
    [Gateway.CallContractSigner.seedPrefix] ≠ InterchainTokenService.pdaSeeds := by
  decide

/-- The seeds of the gateway's caller are not those by which a destination program is called. -/
theorem callContractSeeds_ne_execute {destination : Pubkey} :
    [Gateway.CallContractSigner.seedPrefix] ≠ InterchainTransferExecute.pdaSeeds destination := by
  simp [InterchainTransferExecute.pdaSeeds]

end AxelarSolana.Its
