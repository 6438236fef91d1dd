import AxelarSolana.Its.ManagerIntegrity
import AxelarSolana.Its.Movements
import AxelarSolana.Its.TokenIds

/-! # What token managers hold

* **`Walleted`** — the associated accounts of an address belong to it: those of a token manager do so
  throughout, because it never signs for anybody else (**`walleted_run`**).
* **`World.HasAuthority`** — a token manager is the authority of its mint: it stays so
  (**`hasAuthority_run`**), and the manager of an interchain token of its own is so from the start
  (**`nativeAuthority_run`**).
* **`TransferNames`** — the seeds that a run with its transfers speaks about: the manager that a transfer
  is given is that of its token id (**`transfer_manager`**). -/

namespace AxelarSolana.Its

open Fallible Machine

variable {env : Env} {ctx : Ctx} {s s' : World} {l : List LogEvent} {t t' : TokenState}

/-! ## Addresses that never sign -/

/-- **An address that signs for nobody**: neither outside the program nor for the destination programs
of a log. -/
def Silent (env : Env) (log : List LogEntry) (key : Pubkey) : Prop :=
  ¬ env.SignsOutside key ∧ ∀ entry ∈ log, ∀ call, entry.event = .destinationCalled call →
    ¬ env.Signable call.programId key

/-- An address that signs for nobody in a log does so in a shorter one. -/
theorem Silent.mono {log log' : List LogEntry} {key : Pubkey} (h : Silent env log' key)
    (sub : log ⊆ log') : Silent env log key :=
  ⟨h.1, fun entry mem => h.2 entry (sub mem)⟩

/-- **A token manager signs for nobody.** -/
theorem AllManaged.silent (managed : AllManaged env s) (apart : env.Apart (s.Names env))
    {key : Pubkey} {tokenManager : TokenManager}
    (stored : s.accounts.tokenManagers key = some tokenManager) : Silent env s.log key := by
  obtain ⟨rootKey, root, address, -⟩ := (managed key tokenManager stored).address
  have derived : env.Derives (TokenManager.pdaSeeds tokenManager.tokenId rootKey) key :=
    derives_of_find address
  refine ⟨derived.not_outside, fun entry mem call called => ?_⟩
  exact apart.not_signable (.tokenManager key rootKey tokenManager stored root) derived .root
    (.destination entry call mem called) tokenManagerSeeds_ne_root tokenManagerSeeds_ne_execute

/-- It does not sign a call that reassigns authorities. -/
theorem Caused.not_signed {instruction : TokenInstruction} {signers : List Pubkey} {key : Pubkey}
    (h : Caused env l instruction signers) (reassigns : instruction.reassigns = true)
    (outside : ¬ env.SignsOutside key)
    (silent : ∀ call, LogEvent.destinationCalled call ∈ l → ¬ env.Signable call.programId key) :
    key ∉ signers := by
  intro mem
  cases h with
  | outside signs => exact outside (signs key mem)
  | own keeps reported =>
    rw [keeps] at reassigns
    cases reassigns
  | destination call called signable => exact silent call called (signable key mem)

/-! ## Accounts of a wallet -/

/-- **The associated accounts of an address belong to it.** -/
def Walleted (env : Env) (wallet : Pubkey) (t : TokenState) : Prop :=
  ∀ mint tokenProgram key a, associatedTokenAddress env wallet mint tokenProgram = .ok key →
    t.accounts key = some a → a.authority = wallet

section Wallets

variable {wallet : Pubkey}

/-- An associated account belongs to no other address. -/
theorem Walleted.eq_of_belongs (h : Walleted env wallet t) {mint tokenProgram key other : Pubkey}
    (address : associatedTokenAddress env wallet mint tokenProgram = .ok key)
    (belongs : t.BelongsTo key other) : other = wallet := by
  obtain ⟨a, stored, rfl⟩ := belongs
  exact h mint tokenProgram key a address stored

/-- One call of a token program that the wallet does not sign, when it reassigns authorities. -/
theorem Walleted.call (wallets : WalletLaws (associatedTokenAddress env) env.tokens)
    (h : Walleted env wallet t) {instruction : TokenInstruction} {signers : List Pubkey}
    (called : env.tokens instruction signers t = .ok t')
    (unsigned : instruction.reassigns = true → wallet ∉ signers) : Walleted env wallet t' := by
  intro mint tokenProgram key a address stored
  cases present : t.accounts key with
  | none => exact wallets.associated called present stored wallet mint tokenProgram address
  | some old =>
    have belongs := h mint tokenProgram key old address present
    by_contra changed
    rw [← belongs] at changed
    obtain ⟨reassigns, signs⟩ := wallets.wallet called present stored changed
    rw [belongs] at signs
    exact unsigned reassigns signs

/-- Calls of token programs that reassign nothing leave the associated accounts of an address. -/
theorem Walleted.steps (wallets : WalletLaws (associatedTokenAddress env) env.tokens)
    (h : Walleted env wallet t) (steps : TokenSteps env t t') : Walleted env wallet t' := by
  induction steps with
  | refl => exact h
  | tail _ last ih =>
    obtain ⟨instruction, signers, keeps, called⟩ := last
    exact ih.call wallets called (by simp [keeps])

/-- Calls that the address does not sign leave its associated accounts. -/
theorem Walleted.calls (wallets : WalletLaws (associatedTokenAddress env) env.tokens)
    (h : Walleted env wallet t) (calls : TokenCalls env l t t')
    (outside : ¬ env.SignsOutside wallet)
    (silent : ∀ call, LogEvent.destinationCalled call ∈ l → ¬ env.Signable call.programId wallet) :
    Walleted env wallet t' := by
  induction calls with
  | refl => exact h
  | tail _ last ih =>
    obtain ⟨instruction, signers, caused, called⟩ := last
    exact ih.call wallets called fun reassigns => caused.not_signed reassigns outside silent

/-- **The associated accounts of an address that never signs belong to it**, from the start on. -/
theorem walleted_run (wallets : WalletLaws (associatedTokenAddress env) env.tokens)
    (owner : Pubkey → Pubkey) (gas : GasService.GasState) (calls : List (Call env)) :
    Silent env (run (step env) (World.initial owner gas) calls).log wallet →
      Walleted env wallet (run (step env) (World.initial owner gas) calls).chain.tokens := by
  refine run_invariant (P := fun s : World =>
    Silent env s.log wallet → Walleted env wallet s.chain.tokens) ?_ ?_ calls
  · intro _ mint tokenProgram key a _ stored
    cases stored
  · intro s call s' before success silent
    have h := step_cases success
    obtain ⟨l, tokenCalls, logged⟩ := h.tokenCalls
    refine (before (silent.mono h.extends.log.subset)).calls wallets tokenCalls silent.1 ?_
    intro destinationCall mem
    obtain ⟨entry, listed, called⟩ := logged destinationCall mem
    exact silent.2 entry listed destinationCall called

end Wallets

/-! ## The authority of a mint -/

/-- **A token manager is the authority of its mint.** -/
def World.HasAuthority (s : World) (key : Pubkey) (tokenManager : TokenManager) : Prop :=
  ∃ m, s.chain.tokens.mints tokenManager.tokenAddress = some m ∧ m.mintAuthority = some key

/-- **An authority that never signs stays it.** -/
theorem hasAuthority_run (laws : TokenLaws env.tokens) {key : Pubkey} {tokenManager : TokenManager}
    (h : s.HasAuthority key tokenManager) (calls : List (Call env)) :
    Silent env (run (step env) s calls).log key →
      (run (step env) s calls).HasAuthority key tokenManager := by
  refine run_invariant (P := fun u : World =>
    Silent env u.log key → u.HasAuthority key tokenManager) (fun _ => h) ?_ calls
  intro u call u' before success silent
  have step := step_cases success
  obtain ⟨m, stored, authority⟩ := before (silent.mono step.extends.log.subset)
  obtain ⟨l, tokenCalls, logged⟩ := step.tokenCalls
  refine tokenCalls.authority_kept laws stored authority silent.1 ?_
  intro destinationCall mem
  obtain ⟨entry, listed, called⟩ := logged destinationCall mem
  exact silent.2 entry listed destinationCall called

/-- **The managers of interchain tokens of their own are the authorities of their mints.** -/
def NativeAuthority (s : World) : Prop :=
  ∀ key tokenManager, s.accounts.tokenManagers key = some tokenManager →
    tokenManager.ty = .nativeInterchainToken → s.HasAuthority key tokenManager

/-- A manager that is created is the authority of the mint created for it. -/
theorem NewTokenManager.hasAuthority (laws : TokenLaws env.tokens) {key : Pubkey}
    {tokenManager : TokenManager} (h : NewTokenManager env key tokenManager s)
    (native : tokenManager.ty = .nativeInterchainToken) : s.HasAuthority key tokenManager := by
  obtain ⟨tokenProgram, -, origin⟩ := h.mint
  cases origin with
  | existing m stored owned supported custom => exact absurd native custom
  | initialised decimals before after created since _ =>
    obtain ⟨m₀, stored₀, -, authority₀, -⟩ := laws.initialised created
    obtain ⟨m, stored, -⟩ := TokenSteps.kept laws since _ m₀ stored₀
    exact ⟨m, stored, (TokenSteps.authority laws since stored₀ stored).trans authority₀⟩

/-- A manager that is there already stays the authority. -/
theorem NativeAuthority.kept (laws : TokenLaws env.tokens) (h : NativeAuthority s)
    (ext : s.Extends s') (calls : TokenCalls env l s.chain.tokens s'.chain.tokens)
    (logged : ∀ call, LogEvent.destinationCalled call ∈ l →
      ∃ entry ∈ s'.log, entry.event = .destinationCalled call)
    {key : Pubkey} {tokenManager : TokenManager} (silent : Silent env s'.log key)
    (present : s.accounts.tokenManagers key ≠ none)
    (stored' : s'.accounts.tokenManagers key = some tokenManager)
    (native : tokenManager.ty = .nativeInterchainToken) : s'.HasAuthority key tokenManager := by
  obtain ⟨old, stored⟩ := Option.ne_none_iff_exists'.mp present
  obtain ⟨flowSlot, written⟩ := ext.managers key old stored
  cases stored'.symm.trans written
  obtain ⟨m, minted, authority⟩ := h key old stored native
  refine calls.authority_kept laws minted authority silent.1 ?_
  intro call mem
  obtain ⟨entry, listed, called⟩ := logged call mem
  exact silent.2 entry listed call called

/-- A move keeps the managers of interchain tokens the authorities of their mints. -/
theorem Move.nativeAuthority (laws : TokenLaws env.tokens) (h : Move env ctx s l s')
    (managed : AllManaged env s') (apart : env.Apart (s'.Names env)) (before : NativeAuthority s) :
    NativeAuthority s' := by
  intro key tokenManager stored' native
  by_cases absent : s.accounts.tokenManagers key = none
  · cases h with
    | createTokenManager k created new =>
      simp only [World.createTokenManager, World.setTokenManager] at stored'
      by_cases same : key = k
      · subst same
        rw [Function.update_self] at stored'
        cases stored'
        exact new.hasAuthority laws native
      · rw [Function.update_of_ne same] at stored'
        cases absent.symm.trans stored'
    | setFlowSlot k old flowSlot stored =>
      simp only [World.setTokenManager] at stored'
      have other : key ≠ k := by
        rintro rfl
        cases absent.symm.trans stored
      rw [Function.update_of_ne other] at stored'
      cases absent.symm.trans stored'
    | _ => cases absent.symm.trans stored'
  · refine before.kept laws h.extends h.tokenCalls (fun call mem => ?_)
      (managed.silent apart stored') absent stored' native
    refine ⟨ctx.entry (.destinationCalled call), ?_, rfl⟩
    rw [h.log]
    exact List.mem_append_right _ (List.mem_map_of_mem mem)

/-- **Every call keeps these authorities.** -/
theorem StepCases.nativeAuthority (laws : TokenLaws env.tokens) {names : List Bytes → Prop}
    (apart : env.Apart names) {call : Call env} (h : StepCases env s call s')
    (named : ∀ seeds, s'.Names env seeds → names seeds)
    (managed : AllManaged env s) (before : NativeAuthority s) : NativeAuthority s' := by
  -- over a sequence of moves, the managers in order and their authority are kept together
  have kept {ctx : Ctx} {u u' : World} {l : List LogEvent} (performs : Performs env ctx u l u')
      (named : ∀ seeds, u'.Names env seeds → names seeds)
      (managed : AllManaged env u) (before : NativeAuthority u) :
      AllManaged env u' ∧ NativeAuthority u' := by
    refine performs.keep (P := fun v => (∀ seeds, v.Names env seeds → names seeds) →
      AllManaged env v ∧ NativeAuthority v) ?_ (fun _ => ⟨managed, before⟩) named
    intro v l v' move before named
    obtain ⟨managed, authority⟩ := before fun seeds name => named seeds (move.extends.names name)
    have managed' := move.managed laws managed
    exact ⟨managed', move.nativeAuthority laws managed' (apart.mono named) authority⟩
  have managed' := h.managed laws managed
  cases h with
  | external call outside chain run =>
    intro key tokenManager stored native
    have ext : s.Extends (s.withChain chain) := .of_same rfl rfl List.prefix_rfl
    have absent : s.accounts.tokenManagers key ≠ none := by
      intro none
      cases none.symm.trans stored
    exact before.kept laws ext (l := []) (ExternalCall.tokenCalls run fun _ => .outside outside)
      (fun _ mem => absurd mem List.not_mem_nil) (managed'.silent (apart.mono named) stored) absent
      stored native
  | own sysvar i outside l s' notInner notExecute effect performs =>
    exact (kept performs named managed before).2
  | execute sysvar a message payload outside sourceChain inner gateway i l s' accepts received
      performs =>
    have accepting := accepting_performs accepts
    obtain ⟨managed₁, before₁⟩ := kept accepting
      (fun seeds name => named seeds (performs.extends.names name)) managed before
    exact (kept performs named managed₁ before₁).2

/-- The managers of interchain tokens are the authorities of their mints, over every run. -/
theorem nativeAuthority_run (env : Env) (laws : TokenLaws env.tokens) (owner : Pubkey → Pubkey)
    (gas : GasService.GasState) (calls : List (Call env)) {names : List Bytes → Prop}
    (apart : env.Apart names) :
    (∀ seeds, (run (step env) (World.initial owner gas) calls).Names env seeds → names seeds) →
      NativeAuthority (run (step env) (World.initial owner gas) calls) := by
  have both : (∀ seeds, (run (step env) (World.initial owner gas) calls).Names env seeds →
      names seeds) → AllManaged env (run (step env) (World.initial owner gas) calls) ∧
        NativeAuthority (run (step env) (World.initial owner gas) calls) := by
    refine run_invariant (P := fun s : World => (∀ seeds, s.Names env seeds → names seeds) →
      AllManaged env s ∧ NativeAuthority s) ?_ ?_ calls
    · intro _
      constructor <;> intro key tokenManager stored <;> cases stored
    · intro s call s' before success named
      have step := step_cases success
      obtain ⟨managed, authority⟩ := before fun seeds name => named seeds (step.extends.names name)
      exact ⟨step.managed laws managed, step.nativeAuthority laws apart named managed authority⟩
  exact fun named => (both named).2

/-! ## The manager of a transfer -/

/-- The transfer that an event of the log sends or accepts. -/
def LogEvent.interchainTransfer? : LogEvent → Option Encoding.InterchainTransfer
  | .sent message => message.sentTransfer?
  | .accepted _ message => message.transfer?
  | _ => none

/-- **The seeds that a run with its transfers speaks about.** -/
inductive TransferNames (env : Env) (s : World) : List Bytes → Prop
  | world (seeds : List Bytes) (named : s.Names env seeds) : TransferNames env s seeds
  | transfer (entry : LogEntry) (transfer : Encoding.InterchainTransfer) (rootKey : Pubkey)
      (mem : entry ∈ s.log) (moved : entry.event.interchainTransfer? = some transfer)
      (root : s.RootAt env rootKey) :
      TransferNames env s (TokenManager.pdaSeeds transfer.tokenId rootKey)

/-- **The manager that a transfer is given is that of its token id**, although its address is only
checked against the token id of the transfer. -/
theorem transfer_manager {w : World} (apart : env.Apart (TransferNames env w))
    (managed : AllManaged env s) (ext : s.Extends w) {rootKey key : Pubkey}
    {tokenManager : TokenManager} {entry : LogEntry} {transfer : Encoding.InterchainTransfer}
    (root : s.RootAt env rootKey)
    (loaded : tokenManagerPda env rootKey transfer.tokenId key s = .ok tokenManager)
    (mem : entry ∈ w.log) (moved : entry.event.interchainTransfer? = some transfer) :
    tokenManager.tokenId = transfer.tokenId := by
  obtain ⟨stored, created⟩ := tokenManagerPda_eq_ok.mp loaded
  obtain ⟨rootKey', root', address, -⟩ := (managed key tokenManager stored).address
  rw [root'.unique root] at address
  have name : TransferNames env w (TokenManager.pdaSeeds tokenManager.tokenId rootKey) :=
    .world _ (ext.names (.tokenManager key rootKey tokenManager stored root))
  have name' : TransferNames env w (TokenManager.pdaSeeds transfer.tokenId rootKey) :=
    .transfer entry transfer rootKey mem moved (ext.rootAt root)
  exact tokenManagerSeeds_inj
    (apart _ _ key name name' (derives_of_find address) ⟨tokenManager.bump, created⟩)

/-- **A transfer that a token manager carries out**, seen from the world after a run: its account holds
the tokens, and it is the authority of its mint when it mints. -/
structure Carries (w : World) (before : TokenState) (key : Pubkey) (tokenManager : TokenManager) :
    Prop where
  stored : w.accounts.tokenManagers key = some tokenManager
  authority : tokenManager.ty.mints = true → w.HasAuthority key tokenManager
  escrow : before.BelongsTo tokenManager.associatedTokenAccount key

section Carries

variable {w : World} {before : TokenState} {key key₀ : Pubkey} {tokenManager tokenManager₀ : TokenManager}

/-- One token id, one manager. -/
theorem Carries.eq_of_tokenId (h : Carries w before key tokenManager) (managed : AllManaged env w)
    (stored₀ : w.accounts.tokenManagers key₀ = some tokenManager₀)
    (same : tokenManager.tokenId = tokenManager₀.tokenId) :
    key = key₀ ∧ tokenManager = tokenManager₀ := by
  have one := managed.canonical.unique h.stored stored₀ same
  subst one
  exact ⟨rfl, Option.some.inj (h.stored.symm.trans stored₀)⟩

/-- One address, one manager. -/
theorem Carries.tokenId_of_eq (h : Carries w before key tokenManager)
    (stored₀ : w.accounts.tokenManagers key₀ = some tokenManager₀) (same : key = key₀) :
    tokenManager.tokenId = tokenManager₀.tokenId := by
  subst same
  rw [Option.some.inj (h.stored.symm.trans stored₀)]

/-- **Only the transfers of its own token** go through the account of a manager that locks. -/
theorem Carries.escrow_iff (h : Carries w before key tokenManager) (managed : AllManaged env w)
    (stored₀ : w.accounts.tokenManagers key₀ = some tokenManager₀)
    (walleted : Walleted env key₀ before) (locks : tokenManager₀.ty.mints = false) :
    (tokenManager.ty.mints = false ∧
      tokenManager.associatedTokenAccount = tokenManager₀.associatedTokenAccount) ↔
      tokenManager.tokenId = tokenManager₀.tokenId := by
  constructor
  · rintro ⟨-, account⟩
    obtain ⟨m, -, address, -⟩ := (managed key₀ tokenManager₀ stored₀).mint
    rw [← account] at address
    exact h.tokenId_of_eq stored₀ (walleted.eq_of_belongs address h.escrow)
  · intro same
    obtain ⟨-, rfl⟩ := h.eq_of_tokenId managed stored₀ same
    exact ⟨locks, rfl⟩

/-- **Only the transfers of its own token** mint and burn where a manager is the authority. -/
theorem Carries.supply_iff (h : Carries w before key tokenManager) (managed : AllManaged env w)
    (stored₀ : w.accounts.tokenManagers key₀ = some tokenManager₀)
    (authority : w.HasAuthority key₀ tokenManager₀) (mints : tokenManager₀.ty.mints = true) :
    (tokenManager.ty.mints = true ∧ tokenManager.tokenAddress = tokenManager₀.tokenAddress) ↔
      tokenManager.tokenId = tokenManager₀.tokenId := by
  constructor
  · rintro ⟨isMinting, address⟩
    obtain ⟨m, stored, isAuthority⟩ := h.authority isMinting
    obtain ⟨m₀, minted, isAuthority₀⟩ := authority
    rw [address] at stored
    cases stored.symm.trans minted
    exact h.tokenId_of_eq stored₀ (Option.some.inj (isAuthority.symm.trans isAuthority₀))
  · intro same
    obtain ⟨-, rfl⟩ := h.eq_of_tokenId managed stored₀ same
    exact ⟨mints, rfl⟩

end Carries

/-! ## What a transfer moves -/

section Takes

variable {sysvar : Sysvar} {a : InterchainTransfer} {mint : Mint} {amount reported : UInt64}
  {ty : TokenManagerType} {instruction : TokenInstruction}

/-- An outbound transfer mints nothing. -/
theorem Takes.minted (h : Takes env sysvar a mint amount ty reported instruction) (k : Pubkey) :
    instruction.minted k = 0 := by
  cases h <;> rfl

/-- What is burnt is reported. -/
theorem Takes.burnt (h : Takes env sysvar a mint amount ty reported instruction) (k : Pubkey) :
    instruction.burnt k = if ty.mints = true ∧ a.tokenMint = k then reported.toNat else 0 := by
  cases h with
  | burn mints authority => simp [TokenInstruction.burnt, mints]
  | lock => simp [TokenInstruction.burnt, TokenManagerType.mints]
  | lockWithFee feeConfig fee config computed fits =>
    simp [TokenInstruction.burnt, TokenManagerType.mints]

/-- An outbound transfer debits the sender's account by the amount, and no other. -/
theorem Takes.debited (h : Takes env sysvar a mint amount ty reported instruction) (k : Pubkey) :
    instruction.debited k = if a.authorityTokenAccount = k then amount.toNat else 0 := by
  cases h <;> rfl

/-- What is locked is reported. -/
theorem Takes.credited (h : Takes env sysvar a mint amount ty reported instruction) (k : Pubkey) :
    instruction.credited k
      = if ty.mints = false ∧ a.tokenManagerAta = k then reported.toNat else 0 := by
  cases h with
  | burn mints authority => simp [TokenInstruction.credited, mints]
  | lock => simp [TokenInstruction.credited, TokenManagerType.mints]
  | lockWithFee feeConfig fee config computed fits =>
    simp [TokenInstruction.credited, TokenManagerType.mints, UInt64.toNat_sub_of_le _ _ fits]

/-- What an outbound transfer says it moves is all that it moves. -/
theorem Takes.saysAll (h : Takes env sysvar a mint amount ty reported instruction)
    (noFee : ty = .lockUnlock → ∀ m, t.mints a.tokenMint = some m → m.transferFeeConfig = none)
    (distinct : a.authorityTokenAccount ≠ a.tokenManagerAta) :
    TokenInstruction.SaysAll t instruction := by
  cases h with
  | burn mints authority => trivial
  | lock => exact noFee rfl
  | lockWithFee feeConfig fee config computed fits => exact distinct

end Takes

section Gives

variable {sysvar : Sysvar} {a : ExecuteInterchainTransfer} {mint : Mint}
  {amount transferred : UInt64} {ty : TokenManagerType} {instruction : TokenInstruction}

/-- An inbound transfer burns nothing. -/
theorem Gives.burnt (h : Gives env sysvar a mint amount ty transferred instruction) (k : Pubkey) :
    instruction.burnt k = 0 := by
  cases h <;> rfl

/-- What the message says is minted. -/
theorem Gives.minted (h : Gives env sysvar a mint amount ty transferred instruction) (k : Pubkey) :
    instruction.minted k
      = if ty.mints = true ∧ a.tokenMint.pubkey = k then amount.toNat else 0 := by
  cases h with
  | mint mints authority => simp [TokenInstruction.minted, mints]
  | unlock => simp [TokenInstruction.minted, TokenManagerType.mints]
  | unlockWithFee feeConfig fee config computed fits =>
    simp [TokenInstruction.minted, TokenManagerType.mints]

/-- What the message says is unlocked. -/
theorem Gives.debited (h : Gives env sysvar a mint amount ty transferred instruction) (k : Pubkey) :
    instruction.debited k
      = if ty.mints = false ∧ a.tokenManagerAta.pubkey = k then amount.toNat else 0 := by
  cases h with
  | mint mints authority => simp [TokenInstruction.debited, mints]
  | unlock => simp [TokenInstruction.debited, TokenManagerType.mints]
  | unlockWithFee feeConfig fee config computed fits =>
    simp [TokenInstruction.debited, TokenManagerType.mints]

/-- What the recipient gets is reported. -/
theorem Gives.credited (h : Gives env sysvar a mint amount ty transferred instruction) (k : Pubkey) :
    instruction.credited k
      = if a.destinationAta.pubkey = k then transferred.toNat else 0 := by
  cases h with
  | mint mints authority => rfl
  | unlock => rfl
  | unlockWithFee feeConfig fee config computed fits =>
    simp [TokenInstruction.credited, UInt64.toNat_sub_of_le _ _ fits]

/-- What an inbound transfer says it moves is all that it moves. -/
theorem Gives.saysAll (h : Gives env sysvar a mint amount ty transferred instruction)
    (noFee : ty = .lockUnlock → ∀ m, t.mints a.tokenMint.pubkey = some m →
      m.transferFeeConfig = none)
    (distinct : a.destinationAta.pubkey ≠ a.tokenManagerAta.pubkey) :
    TokenInstruction.SaysAll t instruction := by
  cases h with
  | mint mints authority => trivial
  | unlock => exact noFee rfl
  | unlockWithFee feeConfig fee config computed fits => exact distinct.symm

end Gives

/-- The mint of a manager that locks without a fee has none. -/
theorem Managed.noFee {key : Pubkey} {tokenManager : TokenManager}
    (h : Managed env s key tokenManager) (kept : s.chain.tokens.Kept t)
    (locks : tokenManager.ty = .lockUnlock) :
    ∀ m, t.mints tokenManager.tokenAddress = some m → m.transferFeeConfig = none := by
  intro m stored
  obtain ⟨m₀, stored₀, -, supported⟩ := h.mint
  obtain ⟨m', stored', -, fee⟩ := kept _ m₀ stored₀
  cases stored.symm.trans stored'
  rw [locks, ← fee] at supported
  cases config : m.transferFeeConfig with
  | none => rfl
  | some config =>
    rw [config] at supported
    cases supported

/-- The account that is derived for a manager is the one that it holds. -/
theorem Managed.escrow_eq {key account : Pubkey} {tokenManager : TokenManager} {m : Mint}
    (h : Managed env s key tokenManager) (kept : s.chain.tokens.Kept t)
    (stored : t.mints tokenManager.tokenAddress = some m)
    (address : associatedTokenAddress env key tokenManager.tokenAddress m.owner = .ok account) :
    tokenManager.associatedTokenAccount = account := by
  obtain ⟨m₀, stored₀, held, -⟩ := h.mint
  obtain ⟨m', stored', owner, -⟩ := kept _ m₀ stored₀
  cases stored.symm.trans stored'
  rw [owner] at address
  exact Except.ok.inj (held.symm.trans address)

section Transfers

variable {sysvar : Sysvar} {tokenId : Bytes32} {tokenManager tracked : TokenManager} {mint : Mint}
  {instruction : TokenInstruction}

section Outbound

variable {a : InterchainTransfer} {destinationChain : String} {amount reported : UInt64}
  {after : TokenState}

/-- An outbound transfer, seen from the world after more calls. -/
theorem Outbound.carries (laws : TokenLaws env.tokens) (managed : AllManaged env s)
    (calls : List (Call env)) (silent : Silent env (run (step env) s calls).log a.tokenManagerPda)
    (h : Outbound env sysvar a tokenId destinationChain amount reported tokenManager tracked mint
      instruction s after) :
    tokenManager.associatedTokenAccount = a.tokenManagerAta ∧ ∃ flowSlot,
      Carries (run (step env) s calls) s.chain.tokens a.tokenManagerPda
        { tokenManager with flowSlot } := by
  obtain ⟨stored, -⟩ := tokenManagerPda_eq_ok.mp h.manager
  obtain ⟨minted, owned⟩ := mintOfProgram_eq_ok.mp h.minted
  have here := managed a.tokenManagerPda tokenManager stored
  have account : tokenManager.associatedTokenAccount = a.tokenManagerAta :=
    here.escrow_eq (.refl _) (h.address ▸ minted) (h.address ▸ owned ▸ h.ata)
  obtain ⟨flowSlot, later⟩ := (extends_run s calls).managers _ tokenManager stored
  refine ⟨account, flowSlot,
    { stored := later
      authority := fun mints => ?_
      escrow := account ▸ h.escrow }⟩
  have authority : s.HasAuthority a.tokenManagerPda { tokenManager with flowSlot } := by
    have takes := h.takes
    have isMinting : tokenManager.ty.mints = true := mints
    generalize tokenManager.ty = ty at takes isMinting
    cases takes with
    | burn _ authority => exact ⟨mint, h.address ▸ minted, authority⟩
    | lock => cases isMinting
    | lockWithFee => cases isMinting
  exact hasAuthority_run laws authority calls silent

/-- The checks of an outbound transfer exclude the cases in which its call moves more than it says.
-/
theorem Outbound.saysAll (managed : AllManaged env s)
    (h : Outbound env sysvar a tokenId destinationChain amount reported tokenManager tracked mint
      instruction s after) : instruction.SaysAll s.chain.tokens := by
  obtain ⟨stored, -⟩ := tokenManagerPda_eq_ok.mp h.manager
  refine h.takes.saysAll (fun locks => ?_) h.distinct
  rw [← h.address]
  exact (managed a.tokenManagerPda tokenManager stored).noFee (.refl _) locks

/-- **What an outbound transfer moves**: the whole amount leaves the account of the sender, and what is
reported arrives in that of a manager that locks. -/
theorem Outbound.balance (movement : MovementLaws env.tokens) (managed : AllManaged env s)
    (h : Outbound env sysvar a tokenId destinationChain amount reported tokenManager tracked mint
      instruction s after) (k : Pubkey) :
    after.balance k + (if a.authorityTokenAccount = k then amount.toNat else 0)
      = s.chain.tokens.balance k
        + if tokenManager.ty.mints = false ∧ a.tokenManagerAta = k then reported.toNat else 0 := by
  rw [← h.takes.debited, ← h.takes.credited]
  exact movement.balance h.called (h.saysAll managed) k

/-- **What is reported is burnt** by a manager that mints. -/
theorem Outbound.supply (movement : MovementLaws env.tokens) (managed : AllManaged env s)
    (h : Outbound env sysvar a tokenId destinationChain amount reported tokenManager tracked mint
      instruction s after) (k : Pubkey) :
    after.supply k + (if tokenManager.ty.mints = true ∧ a.tokenMint = k then reported.toNat else 0)
      = s.chain.tokens.supply k := by
  rw [← h.takes.burnt, movement.supply h.called (h.saysAll managed) k, h.takes.minted, Nat.add_zero]

end Outbound

section Inbound

variable {a : ExecuteInterchainTransfer} {destination : Pubkey} {amount transferred : UInt64}
  {before after : TokenState}

/-- An inbound transfer, seen from the world after more calls. -/
theorem Inbound.carries (laws : TokenLaws env.tokens) {u : World} (managed : AllManaged env s)
    (accounts : u.accounts = s.accounts) (tokens : u.chain.tokens = s.chain.tokens)
    (calls : List (Call env))
    (silent : Silent env (run (step env) s calls).log a.tokenManagerPda.pubkey)
    (h : Inbound env sysvar a destination tokenId amount transferred tokenManager tracked mint
      instruction u before after) :
    tokenManager.associatedTokenAccount = a.tokenManagerAta.pubkey ∧ ∃ flowSlot,
      Carries (run (step env) s calls) before a.tokenManagerPda.pubkey
        { tokenManager with flowSlot } := by
  obtain ⟨stored, -⟩ := tokenManagerPda_eq_ok.mp h.manager
  rw [accounts] at stored
  have since : TokenSteps env s.chain.tokens before := tokens ▸ h.since
  obtain ⟨minted, owned⟩ := h.minted
  have here := managed a.tokenManagerPda.pubkey tokenManager stored
  have account : tokenManager.associatedTokenAccount = a.tokenManagerAta.pubkey :=
    here.escrow_eq (TokenSteps.kept laws since) (h.address ▸ minted) (h.address ▸ owned ▸ h.ata)
  obtain ⟨flowSlot, later⟩ := (extends_run s calls).managers _ tokenManager stored
  refine ⟨account, flowSlot,
    { stored := later
      authority := fun mints => ?_
      escrow := account ▸ h.escrow }⟩
  have authority : s.HasAuthority a.tokenManagerPda.pubkey { tokenManager with flowSlot } := by
    -- the authority is checked once the recipient's account exists
    obtain ⟨m, stored, -⟩ := here.mint
    have gives := h.gives
    have isMinting : tokenManager.ty.mints = true := mints
    generalize tokenManager.ty = ty at gives isMinting
    cases gives with
    | mint _ authority =>
      refine ⟨m, stored, ?_⟩
      rw [← TokenSteps.authority laws since stored (h.address ▸ minted)]
      exact authority
    | unlock => cases isMinting
    | unlockWithFee => cases isMinting
  exact hasAuthority_run laws authority calls silent

/-- The checks of an inbound transfer exclude the cases in which its call moves more than it says.
-/
theorem Inbound.saysAll (laws : TokenLaws env.tokens) {u : World} (managed : AllManaged env s)
    (accounts : u.accounts = s.accounts) (tokens : u.chain.tokens = s.chain.tokens)
    (h : Inbound env sysvar a destination tokenId amount transferred tokenManager tracked mint
      instruction u before after) : instruction.SaysAll before := by
  obtain ⟨stored, -⟩ := tokenManagerPda_eq_ok.mp h.manager
  rw [accounts] at stored
  have since : TokenSteps env s.chain.tokens before := tokens ▸ h.since
  refine h.gives.saysAll (fun locks => ?_) h.distinct
  rw [← h.address]
  exact (managed a.tokenManagerPda.pubkey tokenManager stored).noFee (TokenSteps.kept laws since) locks

/-- **What an inbound transfer moves**: the whole amount leaves the account of a manager that locks,
and what is reported arrives in that of the recipient. -/
theorem Inbound.balance (movement : MovementLaws env.tokens)
    (h : Inbound env sysvar a destination tokenId amount transferred tokenManager tracked mint
      instruction s before after) (saysAll : instruction.SaysAll before) (k : Pubkey) :
    after.balance k
        + (if tokenManager.ty.mints = false ∧ a.tokenManagerAta.pubkey = k then amount.toNat else 0)
      = before.balance k + if a.destinationAta.pubkey = k then transferred.toNat else 0 := by
  rw [← h.gives.debited, ← h.gives.credited]
  exact movement.balance h.called saysAll k

/-- **What the message says is minted** by a manager that mints. -/
theorem Inbound.supply (movement : MovementLaws env.tokens)
    (h : Inbound env sysvar a destination tokenId amount transferred tokenManager tracked mint
      instruction s before after) (saysAll : instruction.SaysAll before) (k : Pubkey) :
    after.supply k = before.supply k
      + if tokenManager.ty.mints = true ∧ a.tokenMint.pubkey = k then amount.toNat else 0 := by
  rw [← h.gives.minted, ← movement.supply h.called saysAll k, h.gives.burnt, Nat.add_zero]

end Inbound

end Transfers

end AxelarSolana.Its
