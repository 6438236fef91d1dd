import AxelarSolana.Its.Escrow
import AxelarSolana.Library.Totals

/-! # Supply and escrow

* **`World.changed`** — what the program changes in a balance or a supply, over the log.
* **`World.sentFor`**, **`World.executedFor`** — the transfers of a token that are sent to the hub and
  executed for it; **`World.putInto`**, **`World.issued`** — what else an account receives, and what is
  minted besides transfers.
* **`Conserved`** — for one manager: its account or its supply changes by what the transfers say.
* **`Movement.escrow`**, **`Movement.supply`**, **`Movement.idle`** — one call changes them by that. -/

namespace AxelarSolana.Its

open Fallible Machine Totals

variable {env : Env} {ctx : Ctx} {s s' : World} {l : List LogEvent}

/-! ## Weights -/

/-- What a call of a token program changes in a quantity. -/
def LogEvent.change (quantity : TokenState → Nat) : LogEvent → Int
  | .tokens _ before after => quantity after - quantity before
  | _ => 0

/-- What the program changes in a quantity. -/
def LogEntry.change (quantity : TokenState → Nat) (entry : LogEntry) : Int :=
  entry.event.change quantity

/-- The amount of a transfer of a token. -/
def Encoding.InterchainTransfer.amountOf (tokenId : Bytes32) (transfer : Encoding.InterchainTransfer) :
    Int :=
  if transfer.tokenId = tokenId then transfer.amount.toNat else 0

/-- The amount of a transfer of a token that is sent to the hub. -/
def LogEntry.sentFor (tokenId : Bytes32) (entry : LogEntry) : Int :=
  match entry.event with
  | .sent message => message.sentTransfer?.elim 0 fun transfer => transfer.amountOf tokenId
  | _ => 0

/-- The amount of a transfer of a token that is executed. -/
def LogEntry.executedFor (tokenId : Bytes32) (entry : LogEntry) : Int :=
  match entry.event with
  | .accepted _ message => message.transfer?.elim 0 fun transfer => transfer.amountOf tokenId
  | _ => 0

/-- What a minter, or an inbound transfer of another token id, puts into an account. -/
def LogEntry.putInto (tokenId : Bytes32) (account : Pubkey) (entry : LogEntry) : Int :=
  match entry.event, entry.instruction with
  | .tokens instruction _ _, .mintInterchainToken _ _ => instruction.credited account
  | .tokens instruction _ _, .executeInterchainTransfer _ _ _ _ _ other _ _ =>
    if other = tokenId then 0 else instruction.credited account
  | _, _ => 0

/-- The initial supply of a mint, and what minters mint. -/
def LogEntry.issued (mint : Pubkey) (entry : LogEntry) : Int :=
  match entry.event, entry.instruction with
  | .tokens instruction _ _, .deployInterchainToken .. => instruction.minted mint
  | .tokens instruction _ _, .mintInterchainToken _ _ => instruction.minted mint
  | _, _ => 0

namespace World

variable (s : World)

/-- **What the program has changed in a quantity**, by its calls of token programs. -/
def changed (quantity : TokenState → Nat) : Int := total (LogEntry.change quantity) s.log

/-- **The amounts sent to the hub** for a token. -/
def sentFor (tokenId : Bytes32) : Int := total (LogEntry.sentFor tokenId) s.log

/-- **The amounts of the transfers executed** for a token. -/
def executedFor (tokenId : Bytes32) : Int := total (LogEntry.executedFor tokenId) s.log

/-- **What minters and transfers of other token ids have put into an account.** -/
def putInto (tokenId : Bytes32) (account : Pubkey) : Int :=
  total (LogEntry.putInto tokenId account) s.log

/-- **The initial supply of a mint and what minters have minted.** -/
def issued (mint : Pubkey) : Int := total (LogEntry.issued mint) s.log

end World

/-- **The tokens of a manager are accounted for.** -/
structure Conserved (s : World) (key : Pubkey) (tokenManager : TokenManager) : Prop where
  escrow : tokenManager.ty.mints = false →
    s.changed (TokenState.balance tokenManager.associatedTokenAccount)
      = s.sentFor tokenManager.tokenId - s.executedFor tokenManager.tokenId
        + s.putInto tokenManager.tokenId tokenManager.associatedTokenAccount
  supply : tokenManager.ty.mints = true → s.HasAuthority key tokenManager →
    s.changed (TokenState.supply tokenManager.tokenAddress)
      = s.executedFor tokenManager.tokenId - s.sentFor tokenManager.tokenId
        + s.issued tokenManager.tokenAddress
  native : tokenManager.ty = .nativeInterchainToken → s.HasAuthority key tokenManager
  idle : tokenManager.ty.mints = true → ¬ s.HasAuthority key tokenManager →
    s.sentFor tokenManager.tokenId = 0 ∧ s.executedFor tokenManager.tokenId = 0

/-! ## What does not count -/

section Still

variable {entry : LogEntry}

/-- An entry that tells of no moved tokens changes no quantity. -/
theorem change_of_still (movement : MovementLaws env.tokens) (still : entry.moves = false)
    (recorded : entry.event.Recorded env) (k : Pubkey) :
    entry.change (TokenState.balance k) = 0 ∧ entry.change (TokenState.supply k) = 0 := by
  obtain ⟨event, instruction, invoker⟩ := entry
  cases event with
  | tokens instruction before after =>
    obtain ⟨signers, called⟩ := recorded
    obtain ⟨balance, supply⟩ := movement.still called still k
    constructor
    · show (after.balance k : Int) - before.balance k = 0
      rw [balance, Int.sub_self]
    · show (after.supply k : Int) - before.supply k = 0
      rw [supply, Int.sub_self]
  | _ => exact ⟨rfl, rfl⟩

/-- An entry that moves nothing sends no transfer. -/
theorem sentFor_of_still (still : entry.moves = false) (tokenId : Bytes32) :
    entry.sentFor tokenId = 0 := by
  obtain ⟨event, instruction, invoker⟩ := entry
  cases event with
  | sent message =>
    have none : message.sentTransfer? = none :=
      Option.isNone_iff_eq_none.mp (Option.isSome_eq_false_iff.mp still)
    simp only [LogEntry.sentFor, none, Option.elim_none]
  | _ => rfl

/-- An entry that moves nothing executes no transfer. -/
theorem executedFor_of_still (still : entry.moves = false) (tokenId : Bytes32) :
    entry.executedFor tokenId = 0 := by
  obtain ⟨event, instruction, invoker⟩ := entry
  cases event with
  | accepted sourceChain message =>
    have none : message.transfer? = none :=
      Option.isNone_iff_eq_none.mp (Option.isSome_eq_false_iff.mp still)
    simp only [LogEntry.executedFor, none, Option.elim_none]
  | _ => rfl

/-- What moves no tokens says that it moves none. -/
theorem says_nothing {instruction : TokenInstruction} (still : instruction.moves = false)
    (k : Pubkey) : instruction.credited k = 0 ∧ instruction.minted k = 0 := by
  cases instruction <;> first | exact ⟨rfl, rfl⟩ | cases still

/-- An entry that moves nothing puts nothing into an account. -/
theorem putInto_of_still (still : entry.moves = false) (tokenId : Bytes32) (account : Pubkey) :
    entry.putInto tokenId account = 0 := by
  obtain ⟨event, instruction, invoker⟩ := entry
  cases event with
  | tokens call before after =>
    have nothing := (says_nothing still account).1
    cases instruction <;> simp [LogEntry.putInto, nothing]
  | _ => rfl

/-- An entry that moves nothing issues nothing. -/
theorem issued_of_still (still : entry.moves = false) (mint : Pubkey) : entry.issued mint = 0 := by
  obtain ⟨event, instruction, invoker⟩ := entry
  cases event with
  | tokens call before after =>
    have nothing := (says_nothing still mint).2
    cases instruction <;> simp [LogEntry.issued, nothing]
  | _ => rfl

end Still

/-! ## What a call moves -/

/-- **What is known in the middle of a run** that ends in a world `w`. -/
structure Within (env : Env) (w s : World) : Prop where
  managed : AllManaged env s
  later : ∃ calls, w = run (step env) s calls
  walleted : ∀ key, Silent env w.log key → Walleted env key s.chain.tokens

/-- **What is known at the end of a run.** -/
structure AtEnd (env : Env) (w : World) : Prop where
  apart : env.Apart (TransferNames env w)
  managed : AllManaged env w

section Moved

variable {w : World} {key₀ : Pubkey} {tokenManager₀ : TokenManager}

/-- The managers of the last world sign for nobody in its log. -/
theorem AtEnd.silent (h : AtEnd env w) {key : Pubkey}
    {tokenManager : TokenManager} (stored : w.accounts.tokenManagers key = some tokenManager) :
    Silent env w.log key :=
  h.managed.silent (h.apart.mono fun _ named => .world _ named) stored

/-- An account of somebody who signs is not that of the manager. -/
theorem AtEnd.not_escrow (h : AtEnd env w)
    (stored₀ : w.accounts.tokenManagers key₀ = some tokenManager₀) {t : TokenState}
    (walleted : Walleted env key₀ t) {account wallet : Pubkey} (belongs : t.BelongsTo account wallet)
    (outside : env.SignsOutside wallet) : account ≠ tokenManager₀.associatedTokenAccount := by
  rintro rfl
  obtain ⟨m, -, address, -⟩ := (h.managed key₀ tokenManager₀ stored₀).mint
  rw [walleted.eq_of_belongs address belongs] at outside
  exact (h.silent stored₀).1 outside

/-- **An outbound transfer**, seen from the end. -/
theorem AtEnd.carries_outbound (h : AtEnd env w) (laws : TokenLaws env.tokens)
    (here : Within env w s) {sysvar : Sysvar} {a : InterchainTransfer} {tokenId : Bytes32}
    {destinationChain : String} {amount reported : UInt64} {tokenManager tracked : TokenManager}
    {mint : Mint} {instruction : TokenInstruction} {after : TokenState}
    (outbound : Outbound env sysvar a tokenId destinationChain amount reported tokenManager tracked
      mint instruction s after) {entry : LogEntry} {transfer : Encoding.InterchainTransfer}
    (mem : entry ∈ w.log) (moved : entry.event.interchainTransfer? = some transfer)
    (same : transfer.tokenId = tokenId) :
    tokenManager.tokenId = tokenId ∧ tokenManager.associatedTokenAccount = a.tokenManagerAta ∧
    ∃ flowSlot, Carries w s.chain.tokens a.tokenManagerPda { tokenManager with flowSlot } := by
  obtain ⟨calls, rfl⟩ := here.later
  subst same
  obtain ⟨stored, -⟩ := tokenManagerPda_eq_ok.mp outbound.manager
  obtain ⟨flowSlot, later⟩ := (extends_run s calls).managers _ tokenManager stored
  obtain ⟨root, trusting⟩ := outbound.root
  have loaded := (unpausedRoot_eq_ok.mp (trustingRoot_ok trusting).1).1
  refine ⟨?_, outbound.carries laws here.managed calls (h.silent later)⟩
  exact transfer_manager h.apart here.managed (extends_run s calls) ⟨root, itsRootPda_eq_ok.mp loaded⟩
    outbound.manager mem moved

/-- **An inbound transfer**, seen from the end. -/
theorem AtEnd.carries_inbound (h : AtEnd env w) (laws : TokenLaws env.tokens)
    (here : Within env w s) {sysvar : Sysvar} {a : ExecuteInterchainTransfer} {destination : Pubkey}
    {amount transferred : UInt64} {tokenManager tracked : TokenManager} {mint : Mint}
    {instruction : TokenInstruction} {u : World} {before after : TokenState} {entry : LogEntry}
    {transfer : Encoding.InterchainTransfer}
    (accounts : u.accounts = s.accounts) (tokens : u.chain.tokens = s.chain.tokens)
    (inbound : Inbound env sysvar a destination transfer.tokenId amount transferred tokenManager
      tracked mint instruction u before after)
    (mem : entry ∈ w.log) (moved : entry.event.interchainTransfer? = some transfer) :
    tokenManager.tokenId = transfer.tokenId ∧
    tokenManager.associatedTokenAccount = a.tokenManagerAta.pubkey ∧
    ∃ flowSlot, Carries w before a.tokenManagerPda.pubkey { tokenManager with flowSlot } := by
  obtain ⟨calls, rfl⟩ := here.later
  obtain ⟨stored, created⟩ := tokenManagerPda_eq_ok.mp inbound.manager
  rw [accounts] at stored
  obtain ⟨flowSlot, later⟩ := (extends_run s calls).managers _ tokenManager stored
  obtain ⟨root, signing⟩ := inbound.root
  have loaded := (unpausedRoot_eq_ok.mp (signingRoot_eq_ok.mp signing).1).1
  rw [itsRootPda_congr accounts] at loaded
  refine ⟨?_, inbound.carries laws here.managed accounts tokens calls (h.silent later)⟩
  exact transfer_manager h.apart here.managed (extends_run s calls) ⟨root, itsRootPda_eq_ok.mp loaded⟩
    (tokenManagerPda_eq_ok.mpr ⟨stored, created⟩) mem moved

/-- **The account of a manager that locks**: what a call moves there is what it says. -/
theorem Movement.escrow (laws : TokenLaws env.tokens) (movement : MovementLaws env.tokens)
    (wallets : WalletLaws (associatedTokenAddress env) env.tokens)
    (atEnd : AtEnd env w) (stored₀ : w.accounts.tokenManagers key₀ = some tokenManager₀)
    (locks : tokenManager₀.ty.mints = false)
    (here : Within env w s) {call : Call env} {moving : List LogEntry}
    (h : Movement env s call moving) (logged : ∀ entry ∈ moving, entry ∈ w.log) :
    total (LogEntry.change (TokenState.balance tokenManager₀.associatedTokenAccount)) moving
      = total (LogEntry.sentFor tokenManager₀.tokenId) moving
        - total (LogEntry.executedFor tokenManager₀.tokenId) moving
        + total (LogEntry.putInto tokenManager₀.tokenId tokenManager₀.associatedTokenAccount)
          moving := by
  have walleted := here.walleted key₀ (atEnd.silent stored₀)
  cases h with
  | still => rfl
  | deploys sysvar a salt name symbol decimals initialSupply before after outside signed since belongs
      called =>
    -- the account that is credited belongs to the deployer, who signs, so it is not the manager's
    have signs := outside _ (mem_signersOfInfos.mpr ⟨a.deployer, by simp, signed, rfl⟩)
    have other := atEnd.not_escrow stored₀ (walleted.steps wallets since) belongs signs
    have balance := movement.balance called trivial tokenManager₀.associatedTokenAccount
    simp only [TokenInstruction.debited, TokenInstruction.credited, if_neg other] at balance
    simp only [total_cons, total_nil, LogEntry.change, LogEvent.change, LogEntry.sentFor,
      LogEntry.executedFor, LogEntry.putInto]
    omega
  | mints sysvar a amount after outside called =>
    have balance := movement.balance called trivial tokenManager₀.associatedTokenAccount
    rw [show TokenInstruction.debited tokenManager₀.associatedTokenAccount _ = 0 from rfl] at balance
    simp only [total_cons, total_nil, LogEntry.change, LogEvent.change, LogEntry.sentFor,
      LogEntry.executedFor, LogEntry.putInto]
    omega
  | takes sysvar a tokenId destinationChain destinationAddress amount gasValue reported
      callerProgramId callerPdaSeeds data tokenManager tracked mint instruction sourceAddress after
      outside outbound =>
    obtain ⟨token, account, flowSlot, carries⟩ := atEnd.carries_outbound laws here outbound
      (logged _ (List.mem_cons_of_mem _ List.mem_cons_self)) rfl rfl
    -- the tokens go into the manager's account exactly when the transfer is of its token id
    have own := carries.escrow_iff atEnd.managed stored₀ walleted locks
    have signs := outside _ (mem_signersOfInfos.mpr ⟨a.authority, by simp, outbound.signed, rfl⟩)
    have other := atEnd.not_escrow stored₀ walleted outbound.source signs
    have balance := outbound.balance movement here.managed tokenManager₀.associatedTokenAccount
    rw [if_neg other, ← account] at balance
    simp only [total_cons, total_nil, LogEntry.change, LogEvent.change, LogEntry.sentFor,
      LogEntry.executedFor, LogEntry.putInto, Encoding.HubMessage.sentTransfer?,
      Option.elim_some, Encoding.InterchainTransfer.amountOf]
    by_cases mine : tokenId = tokenManager₀.tokenId
    · rw [if_pos (own.mpr (token.trans mine))] at balance
      rw [if_pos mine]
      omega
    · rw [if_neg fun both => mine (token.symm.trans (own.mp both))] at balance
      rw [if_neg mine]
      omega
  | gives sysvar outer message payload sourceChain a transfer destination transferred tokenManager
      tracked mint instruction u before after received outside accounts tokens inbound reports =>
    obtain ⟨token, account, flowSlot, carries⟩ := atEnd.carries_inbound laws here accounts tokens
      inbound (logged _ List.mem_cons_self) rfl
    have since : TokenSteps env s.chain.tokens before := tokens ▸ inbound.since
    have own := carries.escrow_iff atEnd.managed stored₀ (walleted.steps wallets since) locks
    have saysAll := inbound.saysAll laws here.managed accounts tokens
    have balance := inbound.balance movement saysAll tokenManager₀.associatedTokenAccount
    rw [← account] at balance
    simp only [total_cons, total_nil, LogEntry.change, LogEvent.change, LogEntry.sentFor,
      LogEntry.executedFor, LogEntry.putInto, Encoding.Message.transfer?, Option.elim_some,
      Encoding.InterchainTransfer.amountOf, inbound.gives.credited]
    by_cases mine : transfer.tokenId = tokenManager₀.tokenId
    · -- the manager does not receive what it gives itself
      have both := own.mpr (token.trans mine)
      have other : a.destinationAta.pubkey ≠ tokenManager₀.associatedTokenAccount := by
        rw [← both.2]
        exact fun same => inbound.distinct (same.trans account)
      rw [if_pos both, if_neg other] at balance
      rw [if_pos mine, if_pos mine]
      omega
    · rw [if_neg fun both => mine (token.symm.trans (own.mp both))] at balance
      rw [if_neg mine, if_neg mine]
      split at balance
      case isTrue into =>
        rw [if_pos into]
        omega
      case isFalse out =>
        rw [if_neg out]
        omega

/-- **The supply of a mint**: what a call changes is what it says. -/
theorem Movement.supply (laws : TokenLaws env.tokens) (movement : MovementLaws env.tokens)
    (atEnd : AtEnd env w) (stored₀ : w.accounts.tokenManagers key₀ = some tokenManager₀)
    (mints : tokenManager₀.ty.mints = true)
    (authority : w.HasAuthority key₀ tokenManager₀) (here : Within env w s) {call : Call env}
    {moving : List LogEntry} (h : Movement env s call moving)
    (logged : ∀ entry ∈ moving, entry ∈ w.log) :
    total (LogEntry.change (TokenState.supply tokenManager₀.tokenAddress)) moving
      = total (LogEntry.executedFor tokenManager₀.tokenId) moving
        - total (LogEntry.sentFor tokenManager₀.tokenId) moving
        + total (LogEntry.issued tokenManager₀.tokenAddress) moving := by
  cases h with
  | still => rfl
  | deploys sysvar a salt name symbol decimals initialSupply before after outside signed since belongs
      called =>
    have supply := movement.supply called trivial tokenManager₀.tokenAddress
    rw [show TokenInstruction.burnt tokenManager₀.tokenAddress _ = 0 from rfl] at supply
    simp only [total_cons, total_nil, LogEntry.change, LogEvent.change, LogEntry.sentFor,
      LogEntry.executedFor, LogEntry.issued]
    omega
  | mints sysvar a amount after outside called =>
    have supply := movement.supply called trivial tokenManager₀.tokenAddress
    rw [show TokenInstruction.burnt tokenManager₀.tokenAddress _ = 0 from rfl] at supply
    simp only [total_cons, total_nil, LogEntry.change, LogEvent.change, LogEntry.sentFor,
      LogEntry.executedFor, LogEntry.issued]
    omega
  | takes sysvar a tokenId destinationChain destinationAddress amount gasValue reported
      callerProgramId callerPdaSeeds data tokenManager tracked mint instruction sourceAddress after
      outside outbound =>
    obtain ⟨token, -, flowSlot, carries⟩ := atEnd.carries_outbound laws here outbound
      (logged _ (List.mem_cons_of_mem _ List.mem_cons_self)) rfl rfl
    have own := carries.supply_iff atEnd.managed stored₀ authority mints
    have supply := outbound.supply movement here.managed tokenManager₀.tokenAddress
    rw [← outbound.address] at supply
    simp only [total_cons, total_nil, LogEntry.change, LogEvent.change, LogEntry.sentFor,
      LogEntry.executedFor, LogEntry.issued, Encoding.HubMessage.sentTransfer?,
      Option.elim_some, Encoding.InterchainTransfer.amountOf]
    by_cases mine : tokenId = tokenManager₀.tokenId
    · rw [if_pos (own.mpr (token.trans mine))] at supply
      rw [if_pos mine]
      omega
    · rw [if_neg fun both => mine (token.symm.trans (own.mp both))] at supply
      rw [if_neg mine]
      omega
  | gives sysvar outer message payload sourceChain a transfer destination transferred tokenManager
      tracked mint instruction u before after received outside accounts tokens inbound reports =>
    obtain ⟨token, -, flowSlot, carries⟩ := atEnd.carries_inbound laws here accounts tokens
      inbound (logged _ List.mem_cons_self) rfl
    have own := carries.supply_iff atEnd.managed stored₀ authority mints
    have saysAll := inbound.saysAll laws here.managed accounts tokens
    have supply := inbound.supply movement saysAll tokenManager₀.tokenAddress
    rw [← inbound.address] at supply
    simp only [total_cons, total_nil, LogEntry.change, LogEvent.change, LogEntry.sentFor,
      LogEntry.executedFor, LogEntry.issued, Encoding.Message.transfer?, Option.elim_some,
      Encoding.InterchainTransfer.amountOf]
    by_cases mine : transfer.tokenId = tokenManager₀.tokenId
    · rw [if_pos (own.mpr (token.trans mine))] at supply
      rw [if_pos mine]
      omega
    · rw [if_neg fun both => mine (token.symm.trans (own.mp both))] at supply
      rw [if_neg mine]
      omega

/-- **A manager that should mint and has no authority** transfers nothing. -/
theorem Movement.idle (laws : TokenLaws env.tokens) (atEnd : AtEnd env w)
    (stored₀ : w.accounts.tokenManagers key₀ = some tokenManager₀)
    (mints : tokenManager₀.ty.mints = true) (noAuthority : ¬ w.HasAuthority key₀ tokenManager₀)
    (here : Within env w s) {call : Call env} {moving : List LogEntry}
    (h : Movement env s call moving) (logged : ∀ entry ∈ moving, entry ∈ w.log) :
    total (LogEntry.sentFor tokenManager₀.tokenId) moving = 0 ∧
    total (LogEntry.executedFor tokenManager₀.tokenId) moving = 0 := by
  -- a transfer of this token id would be carried out by this manager, with its authority
  have refuses {before : TokenState} {key : Pubkey} {tokenManager : TokenManager}
      (carries : Carries w before key tokenManager) :
      tokenManager.tokenId ≠ tokenManager₀.tokenId := by
    intro same
    obtain ⟨rfl, rfl⟩ := carries.eq_of_tokenId atEnd.managed stored₀ same
    exact noAuthority (carries.authority mints)
  cases h with
  | takes sysvar a tokenId destinationChain destinationAddress amount gasValue reported
      callerProgramId callerPdaSeeds data tokenManager tracked mint instruction sourceAddress after
      outside outbound =>
    obtain ⟨token, -, flowSlot, carries⟩ := atEnd.carries_outbound laws here outbound
      (logged _ (List.mem_cons_of_mem _ List.mem_cons_self)) rfl rfl
    have other : tokenId ≠ tokenManager₀.tokenId :=
      fun same => refuses carries (token.trans same)
    refine ⟨?_, rfl⟩
    simp only [total_cons, total_nil, LogEntry.sentFor, Encoding.HubMessage.sentTransfer?,
      Option.elim_some, Encoding.InterchainTransfer.amountOf, if_neg other, Int.add_zero]
  | gives sysvar outer message payload sourceChain a transfer destination transferred tokenManager
      tracked mint instruction u before after received outside accounts tokens inbound reports =>
    obtain ⟨token, -, flowSlot, carries⟩ := atEnd.carries_inbound laws here accounts tokens
      inbound (logged _ List.mem_cons_self) rfl
    have other : transfer.tokenId ≠ tokenManager₀.tokenId :=
      fun same => refuses carries (token.trans same)
    refine ⟨rfl, ?_⟩
    simp only [total_cons, total_nil, LogEntry.executedFor, Encoding.Message.transfer?,
      Option.elim_some, Encoding.InterchainTransfer.amountOf, if_neg other, Int.add_zero]
  | _ => exact ⟨rfl, rfl⟩

end Moved

end AxelarSolana.Its
