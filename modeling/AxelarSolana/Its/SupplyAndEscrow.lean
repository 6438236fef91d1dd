import AxelarSolana.Its.Conservation

/-! # Supply and escrow over a run

* **`TakesSent`**, **`GivesExecuted`** — a transfer takes or gives what it says, by one call of the
  token program, and reports what arrives.
* **`conserved_run`** — the tokens of every manager are accounted for.
* **`StepCases.change`** — the log tells everything that the program changes.
* **`supply_and_escrow`** — all of it, over every run. -/

namespace AxelarSolana.Its

open Fallible Machine Totals

variable {env : Env} {ctx : Ctx} {s s' : World} {l : List LogEvent}

/-! ## What is reported -/

/-- The entries that a committed call adds. -/
def newEntries (t : Transition World (Call env)) : List LogEntry :=
  t.post.log.drop t.pre.log.length

/-- **What arrives of an amount**: all of it, or all but the fee that the mint withholds from the
transfers of a manager that reckons with one. -/
def Arrives (env : Env) (sysvar : Sysvar) (ty : TokenManagerType) (mint : Mint)
    (amount arrived : UInt64) : Prop :=
  (ty ≠ .lockUnlockFee → arrived = amount) ∧
  (ty = .lockUnlockFee → ∃ feeConfig fee, mint.transferFeeConfig = some feeConfig ∧
    env.calculateEpochFee feeConfig sysvar.epoch amount = some fee ∧
    arrived.toNat + fee.toNat = amount.toNat)

/-- What an outbound transfer reports is what arrives of its amount. -/
theorem Takes.arrives {sysvar : Sysvar} {a : InterchainTransfer} {mint : Mint}
    {amount reported : UInt64} {ty : TokenManagerType} {instruction : TokenInstruction}
    (h : Takes env sysvar a mint amount ty reported instruction) :
    Arrives env sysvar ty mint amount reported := by
  cases h with
  | burn mints authority =>
    refine ⟨fun _ => rfl, ?_⟩
    rintro rfl
    cases mints
  | lock => exact ⟨fun _ => rfl, by rintro ⟨⟩⟩
  | lockWithFee feeConfig fee config computed fits =>
    refine ⟨fun other => absurd rfl other, fun _ => ⟨feeConfig, fee, config, computed, ?_⟩⟩
    have whole : fee.toNat ≤ amount.toNat := UInt64.le_iff_toNat_le.mp fits
    rw [UInt64.toNat_sub_of_le _ _ fits]
    omega

/-- What an inbound transfer reports is what arrives of its amount. -/
theorem Gives.arrives {sysvar : Sysvar} {a : ExecuteInterchainTransfer} {mint : Mint}
    {amount transferred : UInt64} {ty : TokenManagerType} {instruction : TokenInstruction}
    (h : Gives env sysvar a mint amount ty transferred instruction) :
    Arrives env sysvar ty mint amount transferred := by
  cases h with
  | mint mints authority =>
    refine ⟨fun _ => rfl, ?_⟩
    rintro rfl
    cases mints
  | unlock => exact ⟨fun _ => rfl, by rintro ⟨⟩⟩
  | unlockWithFee feeConfig fee config computed fits =>
    refine ⟨fun other => absurd rfl other, fun _ => ⟨feeConfig, fee, config, computed, ?_⟩⟩
    have whole : fee.toNat ≤ amount.toNat := UInt64.le_iff_toNat_le.mp fits
    rw [UInt64.toNat_sub_of_le _ _ fits]
    omega

/-- **A transfer that is sent takes what it says**: by one call of the token program, the amount given
to the instruction leaves the account of the sender, and what the message says is burnt, or arrives in
the account of the manager. -/
structure TakesSent (env : Env) (t : Transition World (Call env))
    (transfer : Encoding.InterchainTransfer) (sysvar : Sysvar) (a : InterchainTransfer)
    (amount : UInt64) (tokenManager : TokenManager) (mint : Mint) (instruction : TokenInstruction)
    (after : TokenState) : Prop where
  call : ∃ destinationChain gasValue callerProgramId callerPdaSeeds outside,
    t.call = .instruction sysvar (.interchainTransfer a transfer.tokenId destinationChain
      transfer.destinationAddress amount gasValue callerProgramId callerPdaSeeds transfer.data)
      outside
  manager : t.pre.accounts.tokenManagers a.tokenManagerPda = some tokenManager
  tokenId : tokenManager.tokenId = transfer.tokenId
  minted : t.pre.chain.tokens.mints tokenManager.tokenAddress = some mint
  recorded : .tokens instruction t.pre.chain.tokens after ∈ (newEntries t).map LogEntry.event
  arrives : Arrives env sysvar tokenManager.ty mint amount transfer.amount
  balance : ∀ k, after.balance k + (if a.authorityTokenAccount = k then amount.toNat else 0)
    = t.pre.chain.tokens.balance k
      + if tokenManager.ty.mints = false ∧ tokenManager.associatedTokenAccount = k
        then transfer.amount.toNat else 0
  supply : ∀ k, after.supply k
      + (if tokenManager.ty.mints = true ∧ tokenManager.tokenAddress = k
        then transfer.amount.toNat else 0)
    = t.pre.chain.tokens.supply k

/-- **A transfer that is executed gives what it says**: by one call of the token program, the amount of
the message is minted, or leaves the account of the manager, and what the event reports arrives in the
account that it names. -/
structure GivesExecuted (env : Env) (t : Transition World (Call env))
    (transfer : Encoding.InterchainTransfer) (sysvar : Sysvar) (key : Pubkey)
    (tokenManager : TokenManager) (mint : Mint) (instruction : TokenInstruction)
    (before after : TokenState) (received : InterchainTransferReceived) : Prop where
  call : ∃ outer message payload outside,
    t.call = .instruction sysvar (.execute outer message payload) outside
  manager : t.pre.accounts.tokenManagers key = some tokenManager
  tokenId : tokenManager.tokenId = transfer.tokenId ∧ received.tokenId = transfer.tokenId
  minted : before.mints tokenManager.tokenAddress = some mint
  recorded : .tokens instruction before after ∈ (newEntries t).map LogEntry.event ∧
    .emitted (.interchainTransferReceived received) ∈ (newEntries t).map LogEntry.event
  arrives : Arrives env sysvar tokenManager.ty mint transfer.amount received.amount
  balance : ∀ k, after.balance k
      + (if tokenManager.ty.mints = false ∧ tokenManager.associatedTokenAccount = k
        then transfer.amount.toNat else 0)
    = before.balance k
      + if received.destinationTokenAccount = k then received.amount.toNat else 0
  supply : ∀ k, after.supply k = before.supply k
    + if tokenManager.ty.mints = true ∧ tokenManager.tokenAddress = k
      then transfer.amount.toNat else 0

/-- Whether an instruction may move tokens. -/
def ItsInstruction.movesTokens : ItsInstruction → Bool
  | .deployInterchainToken .. | .mintInterchainToken .. | .interchainTransfer ..
  | .executeInterchainTransfer .. => true
  | _ => false

/-- **Only these instructions move tokens.** -/
theorem Movement.movesTokens {call : Call env} {moving : List LogEntry}
    (h : Movement env s call moving) {entry : LogEntry} (mem : entry ∈ moving)
    {instruction : TokenInstruction} {before after : TokenState}
    (called : entry.event = .tokens instruction before after) :
    entry.instruction.movesTokens = true := by
  cases h with
  | still => cases mem
  | deploys | mints =>
    cases List.mem_singleton.mp mem
    rfl
  | takes =>
    simp only [List.mem_cons, List.not_mem_nil, or_false] at mem
    rcases mem with rfl | rfl
    · rfl
    · rfl
  | gives =>
    simp only [List.mem_cons, List.not_mem_nil, or_false] at mem
    rcases mem with rfl | rfl | rfl
    · cases called
    · rfl
    · rfl

/-! ## The log tells everything -/

/-- Whether an event is the call of a destination program. -/
def LogEvent.callsDestination : LogEvent → Bool
  | .destinationCalled _ => true
  | _ => false

/-- **A move changes what its events tell**, unless it calls a destination program. -/
theorem Move.change (h : Move env ctx s l s') (own : ∀ e ∈ l, e.callsDestination = false)
    (quantity : TokenState → Nat) :
    total (LogEvent.change quantity) l
      = (quantity s'.chain.tokens : Int) - quantity s.chain.tokens := by
  cases h with
  | tokenCall => exact Int.add_zero _
  | callDestination => cases own _ List.mem_cons_self
  | setRoot | setUserRoles | setFlowSlot | validate => exact (Int.sub_self _).symm
  | _ => exact (Int.add_zero _).trans (Int.sub_self _).symm

/-- Without a destination program, the recorded calls account for every change of a quantity. -/
theorem change_of_moves (h : Labelled.Run (Move env ctx) s l s')
    (own : ∀ e ∈ l, e.callsDestination = false) (quantity : TokenState → Nat) :
    total (LogEvent.change quantity) l
      = (quantity s'.chain.tokens : Int) - quantity s.chain.tokens := by
  induction h with
  | refl => exact (Int.sub_self _).symm
  | step first rest ih =>
    have here := first.change (fun e mem => own e (List.mem_append_left _ mem)) quantity
    have later := ih fun e mem => own e (List.mem_append_right _ mem)
    rw [total_append]
    omega

/-- Entries weigh what their events do. -/
theorem total_entries (quantity : TokenState → Nat) (events : List LogEvent) :
    total (LogEntry.change quantity) (events.map ctx.entry)
      = total (LogEvent.change quantity) events := by
  unfold total
  rw [List.map_map]
  rfl

/-- **The log tells everything that the program changes**: an instruction that calls no destination
program changes in the tokens what its new entries tell. -/
theorem StepCases.change {sysvar : Sysvar} {i : ItsInstruction}
    {outside : ∀ key ∈ i.signers, env.SignsOutside key}
    (h : StepCases env s (.instruction sysvar i outside) s') : ∃ entries,
    s'.log = s.log ++ entries ∧
    ((∀ entry ∈ entries, entry.event.callsDestination = false) → ∀ quantity : TokenState → Nat,
      total (LogEntry.change quantity) entries
        = (quantity s'.chain.tokens : Int) - quantity s.chain.tokens) := by
  cases h with
  | own _ _ _ l s' notInner notExecute effect performs =>
    obtain ⟨events, run, -⟩ := performs
    refine ⟨_, log_of_moves run, fun none quantity => ?_⟩
    rw [total_entries]
    exact change_of_moves run (fun e mem => none _ (List.mem_map_of_mem mem)) quantity
  | execute _ a message payload _ sourceChain inner gateway i l s' accepts received performs =>
    obtain ⟨events, run, -⟩ := performs
    refine ⟨(Ctx.entry ⟨sysvar, .external, .execute a message payload⟩ (.accepted sourceChain inner)) ::
      events.map (Ctx.entry ⟨sysvar, .execute message payload, i⟩), ?_, fun none quantity => ?_⟩
    · rw [log_of_moves run]
      exact List.append_assoc ..
    · rw [total_cons, total_entries, change_of_moves run
        (fun e mem => none _ (List.mem_cons_of_mem _ (List.mem_map_of_mem mem))) quantity]
      exact Int.zero_add _

/-! ## Whole runs -/

/-- The world before a committed call. -/
theorem within_run (laws : TokenLaws env.tokens)
    (wallets : WalletLaws (associatedTokenAddress env) env.tokens) (owner : Pubkey → Pubkey)
    (gas : GasService.GasState) (calls : List (Call env)) {t : Transition World (Call env)}
    (mem : t ∈ trace (step env) (World.initial owner gas) calls) :
    Within env (run (step env) (World.initial owner gas) calls) t.pre := by
  obtain ⟨before, after, split⟩ := List.append_of_mem mem
  obtain ⟨calls₁, calls₂, divided, -, here⟩ := exists_calls_of_trace_eq split
  have later : run (step env) (World.initial owner gas) calls
      = run (step env) t.pre (t.call :: calls₂) := by
    rw [divided, run_append, here]
  refine ⟨?_, ⟨_, later⟩, fun key silent => ?_⟩
  · rw [← here]
    exact managed_run env laws owner gas calls₁
  · have earlier : Silent env t.pre.log key := by
      rw [later] at silent
      exact silent.mono (extends_run t.pre _).log.subset
    rw [← here] at earlier ⊢
    exact walleted_run wallets owner gas calls₁ earlier

/-- **A weight that cancels in every movement** cancels in the log of a run. -/
theorem total_moved (owner : Pubkey → Pubkey) (gas : GasService.GasState) (calls : List (Call env))
    (weight : LogEntry → Int)
    (weightless : ∀ entry, entry.moves = false → entry.event.Recorded env → weight entry = 0)
    (cancels : ∀ t ∈ trace (step env) (World.initial owner gas) calls, ∀ moving,
      Movement env t.pre t.call moving →
      (∀ entry ∈ moving, entry ∈ (run (step env) (World.initial owner gas) calls).log) →
      total weight moving = 0) :
    total weight (run (step env) (World.initial owner gas) calls).log = 0 := by
  refine total_run World.log fun t mem => ?_
  obtain ⟨success, -, -, later⟩ := mem_trace_extends mem
  obtain ⟨entries, log, moved, recorded⟩ := (step_cases success).movement
  refine ⟨entries, log, ?_⟩
  rw [total_filter fun entry listed still => weightless entry still (recorded entry listed)]
  refine cancels t mem _ moved fun entry listed => later.log.subset ?_
  rw [log]
  exact List.mem_append_right _ (List.mem_of_mem_filter listed)

section Run

variable {owner : Pubkey → Pubkey} {gas : GasService.GasState} {calls : List (Call env)}

/-- **The tokens of every manager are accounted for** after a run. -/
theorem conserved_run (laws : TokenLaws env.tokens) (movement : MovementLaws env.tokens)
    (wallets : WalletLaws (associatedTokenAddress env) env.tokens) {key : Pubkey}
    {tokenManager : TokenManager}
    (atEnd : AtEnd env (run (step env) (World.initial owner gas) calls))
    (stored : (run (step env) (World.initial owner gas) calls).accounts.tokenManagers key
      = some tokenManager) :
    Conserved (run (step env) (World.initial owner gas) calls) key tokenManager := by
  -- each quantity is a sum over the log: an entry that moves nothing adds nothing to it, and the
  -- movements of a call add up to nothing
  have within {t : Transition World (Call env)}
      (mem : t ∈ trace (step env) (World.initial owner gas) calls) :=
    within_run laws wallets owner gas calls mem
  constructor
  · intro locks
    have sum := total_moved owner gas calls
      (fun entry =>
        entry.change (TokenState.balance tokenManager.associatedTokenAccount)
          + -entry.sentFor tokenManager.tokenId + entry.executedFor tokenManager.tokenId
          + -entry.putInto tokenManager.tokenId tokenManager.associatedTokenAccount)
      (fun entry still recorded => by
        rw [(change_of_still movement still recorded _).1, sentFor_of_still still,
          executedFor_of_still still, putInto_of_still still]
        rfl)
      (fun t mem moving moved logged => by
        have equal := moved.escrow laws movement wallets atEnd stored locks (within mem) logged
        simp only [total_add, total_neg]
        omega)
    simp only [total_add, total_neg] at sum
    simp only [World.changed, World.sentFor, World.executedFor, World.putInto]
    omega
  · intro mints authority
    have sum := total_moved owner gas calls
      (fun entry =>
        entry.change (TokenState.supply tokenManager.tokenAddress)
          + -entry.executedFor tokenManager.tokenId + entry.sentFor tokenManager.tokenId
          + -entry.issued tokenManager.tokenAddress)
      (fun entry still recorded => by
        rw [(change_of_still movement still recorded _).2, sentFor_of_still still,
          executedFor_of_still still, issued_of_still still]
        rfl)
      (fun t mem moving moved logged => by
        have equal := moved.supply laws movement atEnd stored mints authority (within mem) logged
        simp only [total_add, total_neg]
        omega)
    simp only [total_add, total_neg] at sum
    simp only [World.changed, World.sentFor, World.executedFor, World.issued]
    omega
  · intro native
    exact nativeAuthority_run env laws owner gas calls atEnd.apart
      (fun _ named => .world _ named) key tokenManager stored native
  · intro mints noAuthority
    constructor
    · refine total_moved owner gas calls _ (fun entry still _ => sentFor_of_still still _) ?_
      intro t mem moving moved logged
      exact (moved.idle laws atEnd stored mints noAuthority (within mem) logged).1
    · refine total_moved owner gas calls _ (fun entry still _ => executedFor_of_still still _) ?_
      intro t mem moving moved logged
      exact (moved.idle laws atEnd stored mints noAuthority (within mem) logged).2

/-- **The new entries of a committed call** that tell of moved tokens are a movement. -/
theorem newEntries_movement {t : Transition World (Call env)}
    (mem : t ∈ trace (step env) (World.initial owner gas) calls) :
    Movement env t.pre t.call ((newEntries t).filter LogEntry.moves) ∧
    ∀ entry ∈ newEntries t, entry ∈ (run (step env) (World.initial owner gas) calls).log := by
  obtain ⟨success, -, -, later⟩ := mem_trace_extends mem
  obtain ⟨entries, log, moved, -⟩ := (step_cases success).movement
  have same : newEntries t = entries := by rw [newEntries, log, List.drop_left]
  rw [same]
  refine ⟨moved, fun entry listed => later.log.subset ?_⟩
  rw [log]
  exact List.mem_append_right _ listed

/-- **Every transfer that is sent takes what it says.** -/
theorem takesSent_run (laws : TokenLaws env.tokens) (movement : MovementLaws env.tokens)
    (wallets : WalletLaws (associatedTokenAddress env) env.tokens)
    (atEnd : AtEnd env (run (step env) (World.initial owner gas) calls))
    {t : Transition World (Call env)}
    (mem : t ∈ trace (step env) (World.initial owner gas) calls) {entry : LogEntry}
    (new : entry ∈ newEntries t) {destinationChain : String}
    {transfer : Encoding.InterchainTransfer}
    (sent : entry.event = .sent (.sendToHub destinationChain (.interchainTransfer transfer))) :
    ∃ sysvar a amount tokenManager mint instruction after,
      TakesSent env t transfer sysvar a amount tokenManager mint instruction after := by
  have here := within_run laws wallets owner gas calls mem
  obtain ⟨moved, logged⟩ := newEntries_movement mem
  have listed : entry ∈ (newEntries t).filter LogEntry.moves := by
    refine List.mem_filter.mpr ⟨new, ?_⟩
    rw [LogEntry.moves, sent]
    rfl
  have recorded : ∀ e ∈ (newEntries t).filter LogEntry.moves,
      e.event ∈ (newEntries t).map LogEntry.event :=
    fun e among => List.mem_map_of_mem (List.mem_of_mem_filter among)
  obtain ⟨s, call, s'⟩ := t
  generalize (newEntries ⟨s, call, s'⟩).filter LogEntry.moves = moving at moved listed recorded
  cases moved with
  | still => cases listed
  | deploys | mints =>
    cases List.mem_singleton.mp listed
    cases sent
  | gives =>
    simp only [List.mem_cons, List.not_mem_nil, or_false] at listed
    rcases listed with rfl | rfl | rfl <;> cases sent
  | takes sysvar a tokenId chain destinationAddress amount gasValue reported callerProgramId
      callerPdaSeeds data tokenManager tracked mint instruction sourceAddress after outside outbound =>
    simp only [List.mem_cons, List.not_mem_nil, or_false] at listed
    rcases listed with rfl | rfl
    · cases sent
    · cases sent
      obtain ⟨stored, -⟩ := tokenManagerPda_eq_ok.mp outbound.manager
      obtain ⟨tokenId, account, -⟩ := atEnd.carries_outbound laws here outbound
        (logged _ new) rfl rfl
      obtain ⟨minted, -⟩ := mintOfProgram_eq_ok.mp outbound.minted
      refine ⟨sysvar, a, amount, tokenManager, mint, instruction, after,
        { call := ⟨_, gasValue, callerProgramId, callerPdaSeeds, outside, rfl⟩
          manager := stored
          tokenId
          minted := outbound.address ▸ minted
          recorded := recorded _ List.mem_cons_self
          arrives := outbound.takes.arrives
          balance := fun k => ?_
          supply := fun k => ?_ }⟩
      · rw [account]
        exact outbound.balance movement here.managed k
      · rw [outbound.address]
        exact outbound.supply movement here.managed k

/-- **Every transfer that is executed gives what it says.** -/
theorem givesExecuted_run (laws : TokenLaws env.tokens) (movement : MovementLaws env.tokens)
    (wallets : WalletLaws (associatedTokenAddress env) env.tokens)
    (atEnd : AtEnd env (run (step env) (World.initial owner gas) calls))
    {t : Transition World (Call env)}
    (mem : t ∈ trace (step env) (World.initial owner gas) calls) {entry : LogEntry}
    (new : entry ∈ newEntries t) {sourceChain : String} {transfer : Encoding.InterchainTransfer}
    (accepted : entry.event = .accepted sourceChain (.interchainTransfer transfer)) :
    ∃ sysvar key tokenManager mint instruction before after received,
      GivesExecuted env t transfer sysvar key tokenManager mint instruction before after
        received := by
  have here := within_run laws wallets owner gas calls mem
  obtain ⟨moved, logged⟩ := newEntries_movement mem
  -- the call that accepts the message is one of the movements, and only `gives` accepts any
  have listed : entry ∈ (newEntries t).filter LogEntry.moves := by
    refine List.mem_filter.mpr ⟨new, ?_⟩
    rw [LogEntry.moves, accepted]
    rfl
  have recorded : ∀ e ∈ (newEntries t).filter LogEntry.moves,
      e.event ∈ (newEntries t).map LogEntry.event :=
    fun e among => List.mem_map_of_mem (List.mem_of_mem_filter among)
  obtain ⟨s, call, s'⟩ := t
  generalize (newEntries ⟨s, call, s'⟩).filter LogEntry.moves = moving at moved listed recorded
  cases moved with
  | still => cases listed
  | deploys | mints =>
    cases List.mem_singleton.mp listed
    cases accepted
  | takes =>
    simp only [List.mem_cons, List.not_mem_nil, or_false] at listed
    rcases listed with rfl | rfl <;> cases accepted
  | gives sysvar outer message payload chain a given destination transferred tokenManager tracked mint
      instruction u before after received outside accounts tokens inbound reports =>
    simp only [List.mem_cons, List.not_mem_nil, or_false] at listed
    rcases listed with rfl | rfl | rfl
    · cases accepted
      obtain ⟨stored, -⟩ := tokenManagerPda_eq_ok.mp inbound.manager
      rw [accounts] at stored
      obtain ⟨tokenId, account, -⟩ := atEnd.carries_inbound laws here accounts tokens inbound
        (logged _ new) rfl
      obtain ⟨sameId, sameAmount, sameAccount⟩ := reports
      have saysAll := inbound.saysAll laws here.managed accounts tokens
      refine ⟨sysvar, a.tokenManagerPda.pubkey, tokenManager, mint, instruction, before, after,
        received,
        { call := ⟨outer, message, payload, outside, rfl⟩
          manager := stored
          tokenId := ⟨tokenId, sameId⟩
          minted := inbound.address ▸ inbound.minted.1
          recorded := ⟨recorded _ (List.mem_cons_of_mem _ List.mem_cons_self),
            recorded _ (List.mem_cons_of_mem _ (List.mem_cons_of_mem _ List.mem_cons_self))⟩
          arrives := sameAmount ▸ inbound.gives.arrives
          balance := fun k => ?_
          supply := fun k => ?_ }⟩
      · rw [account, sameAmount, sameAccount]
        exact inbound.balance movement saysAll k
      · rw [inbound.address]
        exact inbound.supply movement saysAll k
    · cases accepted
    · cases accepted

/-- **Nothing else moves tokens.** -/
theorem change_of_other (movement : MovementLaws env.tokens) {entry : LogEntry}
    (mem : entry ∈ (run (step env) (World.initial owner gas) calls).log)
    (other : entry.instruction.movesTokens = false) (k : Pubkey) :
    entry.change (TokenState.balance k) = 0 ∧ entry.change (TokenState.supply k) = 0 := by
  have all : ∀ e ∈ (run (step env) (World.initial owner gas) calls).log,
      e.instruction.movesTokens = false →
        e.change (TokenState.balance k) = 0 ∧ e.change (TokenState.supply k) = 0 := by
    refine run_invariant (P := fun s : World => ∀ e ∈ s.log, e.instruction.movesTokens = false →
      e.change (TokenState.balance k) = 0 ∧ e.change (TokenState.supply k) = 0)
      (fun _ mem => absurd mem List.not_mem_nil) ?_ calls
    intro s call s' before success e mem other
    obtain ⟨entries, log, moved, recorded⟩ := (step_cases success).movement
    rw [log] at mem
    rcases List.mem_append.mp mem with old | new
    · exact before e old other
    · cases moves : e.moves with
      | false => exact change_of_still movement moves (recorded e new) k
      | true =>
        obtain ⟨event, instruction, invoker⟩ := e
        cases event with
        | tokens call before after =>
          have listed := moved.movesTokens (List.mem_filter.mpr ⟨new, moves⟩) rfl
          rw [listed] at other
          cases other
        | _ => exact ⟨rfl, rfl⟩
  exact all entry mem other

/-- **What a call changes** is what its new entries tell. -/
theorem newEntries_change {t : Transition World (Call env)}
    (mem : t ∈ trace (step env) (World.initial owner gas) calls) {sysvar : Sysvar}
    {i : ItsInstruction} {outside : ∀ key ∈ i.signers, env.SignsOutside key}
    (called : t.call = .instruction sysvar i outside)
    (none : ∀ entry ∈ newEntries t, entry.event.callsDestination = false)
    (quantity : TokenState → Nat) :
    total (LogEntry.change quantity) (newEntries t)
      = (quantity t.post.chain.tokens : Int) - quantity t.pre.chain.tokens := by
  obtain ⟨success, -, -, -⟩ := mem_trace_extends mem
  have cases := step_cases success
  rw [called] at cases
  obtain ⟨entries, log, changes⟩ := cases.change
  have same : newEntries t = entries := by rw [newEntries, log, List.drop_left]
  rw [same] at none ⊢
  exact changes none quantity

end Run

/-- **Supply and escrow**, over every run in which the seeds that the world and its transfers speak
about lead to different addresses:

* the tokens of every manager are accounted for;
* a transfer that is sent takes what it says, and one that is executed gives what it says;
* no other instruction moves, mints or burns tokens;
* the log from which all this is read is made of what the calls add to it, and an instruction that
  calls no destination program changes what its entries tell. -/
theorem supply_and_escrow (env : Env) (laws : TokenLaws env.tokens)
    (movement : MovementLaws env.tokens)
    (wallets : WalletLaws (associatedTokenAddress env) env.tokens) (owner : Pubkey → Pubkey)
    (gas : GasService.GasState) (calls : List (Call env))
    (apart : env.Apart (TransferNames env (run (step env) (World.initial owner gas) calls))) :
    let s := run (step env) (World.initial owner gas) calls
    let tr := trace (step env) (World.initial owner gas) calls
    (∀ key tokenManager, s.accounts.tokenManagers key = some tokenManager →
      Conserved s key tokenManager) ∧
    (∀ t ∈ tr, ∀ entry ∈ newEntries t,
      (∀ destinationChain transfer,
        entry.event = .sent (.sendToHub destinationChain (.interchainTransfer transfer)) →
        ∃ sysvar a amount tokenManager mint instruction after,
          TakesSent env t transfer sysvar a amount tokenManager mint instruction after) ∧
      (∀ sourceChain transfer, entry.event = .accepted sourceChain (.interchainTransfer transfer) →
        ∃ sysvar key tokenManager mint instruction before after received,
          GivesExecuted env t transfer sysvar key tokenManager mint instruction before after
            received) ∧
      (entry.instruction.movesTokens = false → ∀ k,
        entry.change (TokenState.balance k) = 0 ∧ entry.change (TokenState.supply k) = 0)) ∧
    s.log = tr.flatMap newEntries ∧
    ∀ t ∈ tr, ∀ sysvar i outside, t.call = .instruction sysvar i outside →
      (∀ entry ∈ newEntries t, entry.event.callsDestination = false) → ∀ quantity,
        total (LogEntry.change quantity) (newEntries t)
          = (quantity t.post.chain.tokens : Int) - quantity t.pre.chain.tokens := by
  intro s tr
  have atEnd : AtEnd env s := ⟨apart, managed_run env laws owner gas calls⟩
  refine ⟨fun key tokenManager stored => conserved_run laws movement wallets atEnd stored,
    fun t mem entry new => ⟨?_, ?_, ?_⟩, ?_, ?_⟩
  · intro destinationChain transfer sent
    exact takesSent_run laws movement wallets atEnd mem new sent
  · intro sourceChain transfer accepted
    exact givesExecuted_run laws movement wallets atEnd mem new accepted
  · intro other k
    exact change_of_other movement ((newEntries_movement mem).2 entry new) other k
  · refine log_run World.log fun t mem => ?_
    obtain ⟨success, -, -, -⟩ := mem_trace_extends mem
    exact (step_cases success).extends.log
  · intro t mem sysvar i outside called none quantity
    exact newEntries_change mem called none quantity

/-! ## Managers that share a mint -/

/-- The seeds of a token manager are told apart from the others by their bytes. -/
theorem World.Names.eq_of_flatten_manager {seeds : List Bytes} (h : s.Names env seeds)
    {tokenId : Bytes32} {rootKey : Pubkey}
    (same : seeds.flatten = (TokenManager.pdaSeeds tokenId rootKey).flatten) :
    seeds = TokenManager.pdaSeeds tokenId rootKey := by
  have length := congrArg List.length same
  cases h <;> simp only [length_rootSeeds, length_callContractSeeds, length_tokenManagerSeeds,
    length_tokenMintSeeds, length_executeSeeds, Nat.reduceEqDiff] at length
  obtain ⟨rfl, tokenId⟩ := flatten_pair_inj same
  rw [tokenId]

/-- **In the environment of a table the seeds of a run with its transfers lead to different
addresses.** -/
theorem tableEnv_apart_transfers {table : List Bytes}
    {decodePayload : Bytes → Except Error (List AccountMeta × Bytes)} (short : table.length ≤ 256)
    (s : World) :
    (tableEnv table decodePayload).Apart (TransferNames (tableEnv table decodePayload) s) := by
  refine tableEnv_apart_of short fun x y hx hy same => ?_
  cases hx with
  | world _ named =>
    cases hy with
    | world _ named' => exact named.eq_of_flatten named' same
    | transfer => exact named.eq_of_flatten_manager same
  | transfer =>
    cases hy with
    | world _ named' => exact (named'.eq_of_flatten_manager same.symm).symm
    | transfer =>
      obtain ⟨rfl, tokenId⟩ := flatten_pair_inj same
      rw [tokenId]

/-- The id of a token that the wallet registers. -/
def customTokenId : Bytes32 :=
  sampleDeployment.interchainTokenIdInternal
    (sampleDeployment.linkedTokenDeployerSalt (sampleWallet 1) (Gateway.padTo 32 []))

/-- The payload of the hub's message: five of the wallet's token for the manager at place 11. -/
def sharedPayload : Bytes :=
  (Encoding.HubMessage.codec.encode (.receiveFromHub "ethereum"
    (.interchainTransfer ⟨walletTokenId, [1], (sampleAddress 11).toList, 5, none⟩))).getD []

/-- The message of the hub. -/
def sharedMessage : Message where
  ccId := ⟨"axelar", "1"⟩
  sourceAddress := "hub"
  destinationChain := "solana"
  destinationAddress := "iiiiiiiiiiiiiiiiiiiiiiiiiiiiiiii"
  payloadHash := Gateway.sampleEnv.keccak sharedPayload

/-- **The environment of three managers of one mint**: the table holds the manager of the canonical
token at place 11 and that of a custom token at place 13, each followed by its account. -/
def sharedEnv : Env :=
  tableEnv (tokenTable walletTokenId
    [sampleSeeds [(sampleWallet 1).toList, (sampleProgramId 2).toList, (sampleAddress 2).toList]
        (sampleProgramId 3),
      sampleSeeds (UserRoles.pdaSeeds (sampleAddress 1) (sampleWallet 1)) sampleItsId,
      sampleSeeds (TokenManager.pdaSeeds sampleCanonicalId (sampleAddress 0)) sampleItsId,
      sampleSeeds [(sampleAddress 11).toList, (sampleProgramId 2).toList, (sampleAddress 2).toList]
        (sampleProgramId 3),
      sampleSeeds (TokenManager.pdaSeeds customTokenId (sampleAddress 0)) sampleItsId,
      sampleSeeds [(sampleAddress 13).toList, (sampleProgramId 2).toList, (sampleAddress 2).toList]
        (sampleProgramId 3),
      sampleSeeds (Gateway.ValidateMessageSigner.pdaSeeds
        (sharedMessage.commandId Gateway.sampleEnv.toCrates)) sampleItsId,
      sampleSeeds (Gateway.sampleSession Gateway.sampleLeafHash).pdaSeeds
        Gateway.sampleEnv.gatewayId,
      sampleSeeds [Gateway.IncomingMessage.seedPrefix,
        (sharedMessage.commandId Gateway.sampleEnv.toCrates).toList] Gateway.sampleEnv.gatewayId])
    fun b => .ok ([], b)

/-- The accounts with which the message is executed. -/
def sharedAccounts : Execute where
  signingPda := ⟨sampleAddress 15, false, false⟩
  payer := ⟨sampleWallet 1, true, true⟩
  itsRootPda := ⟨sampleAddress 0, false, false⟩
  tokenManagerPda := ⟨sampleAddress 1, false, true⟩
  tokenMint := ⟨sampleAddress 2, false, true⟩
  tokenManagerAta := ⟨sampleAddress 3, false, true⟩
  tokenProgram := ⟨sampleProgramId 2, false, false⟩
  associatedTokenProgram := ⟨sampleProgramId 3, false, false⟩
  systemProgram := ⟨sampleProgramId 4, false, false⟩
  remainingAccounts := [⟨sampleAddress 11, false, false⟩, ⟨sampleAddress 11, false, false⟩,
    ⟨sampleAddress 12, false, true⟩]

/-- A wallet deploys a token of a hundred with itself as the minter, and registers its mint as a
canonical token and as a custom one that is minted and burnt. Then thirty of the wallet's token are
sent away, and five of them come back for the manager of the canonical token. -/
def sharedCalls : List (Call sharedEnv) :=
  tableGatewayCalls (Gateway.sampleInitialize :: Gateway.sampleSign Gateway.sampleLeafHash ++
    [Gateway.sampleApprove sharedMessage]) rfl ++
  [tableInitializes, tableTrusts "ethereum",
    tableCall (.deployInterchainToken ⟨⟨sampleWallet 1, true⟩, ⟨sampleWallet 1, true⟩,
      sampleAddress 0, sampleAddress 1, sampleAddress 2, sampleAddress 3, sampleProgramId 2,
      sampleAddress 4, sampleAddress 9, some (sampleWallet 1), some (sampleAddress 10)⟩
      (Gateway.padTo 32 []) "name" "symbol" 6 100) rfl,
    tableCall (.registerCanonicalInterchainToken ⟨⟨sampleWallet 1, true⟩, sampleAddress 4,
      sampleAddress 0, sampleAddress 11, sampleAddress 2, sampleAddress 12, sampleProgramId 2⟩) rfl,
    tableCall (.registerCustomToken ⟨⟨sampleWallet 1, true⟩, ⟨sampleWallet 1, true⟩,
      sampleAddress 0, sampleAddress 13, sampleAddress 2, sampleAddress 14, sampleProgramId 2, none,
      none⟩ (Gateway.padTo 32 []) .mintBurn none) rfl,
    tableCall (.interchainTransfer ⟨⟨sampleWallet 1, true⟩, ⟨sampleWallet 1, true⟩,
      sampleAddress 8, sampleAddress 0, sampleAddress 0, sampleAddress 1, sampleProgramId 2,
      sampleAddress 2, sampleAddress 9, sampleAddress 3⟩ walletTokenId "ethereum" [1] 30 0
      none none none) rfl,
    tableCall (.execute sharedAccounts sharedMessage sharedPayload) rfl]

/-- The wallet mints fifty into the account of the canonical token's manager. -/
def sharedMint : Call sharedEnv :=
  tableCall (.mintInterchainToken ⟨sampleAddress 2, sampleAddress 12, sampleAddress 0,
    sampleAddress 1, ⟨sampleWallet 1, true⟩, sampleAddress 10, sampleProgramId 2⟩ 50) rfl

/-- The supply of the mint and the account of the manager that locks, as their managers account for
them: five of thirty have come back, a hundred and fifty were issued, and fifty-five were put in. -/
theorem supply_and_escrow_sample :
    let s := run (step sharedEnv) sampleInitial (sharedCalls ++ [sharedMint])
    s.changed (TokenState.supply (sampleAddress 2)) = 5 - 30 + 150 ∧
    s.changed (TokenState.balance (sampleAddress 12)) = 0 - 0 + 55 := by
  intro s
  obtain ⟨conserved, -⟩ := supply_and_escrow sharedEnv tableEnv_laws tableEnv_movement
    (tableEnv_wallets (by decide +kernel)) (fun _ => sampleProgramId 4) ⟨none, fun _ => 0, []⟩
    (sharedCalls ++ [sharedMint]) (tableEnv_apart_transfers (by decide +kernel) _)
  rw [show run (step sharedEnv) (World.initial _ _) (sharedCalls ++ [sharedMint]) = s from rfl]
    at conserved
  have evaluated : s.accounts.tokenManagers (sampleAddress 1) = some ⟨.nativeInterchainToken,
        walletTokenId, sampleAddress 2, sampleAddress 3, FlowState.new none 0, 255⟩ ∧
      s.accounts.tokenManagers (sampleAddress 11) = some ⟨.lockUnlock, sampleCanonicalId,
        sampleAddress 2, sampleAddress 12, FlowState.new none 0, 255⟩ ∧
      s.executedFor walletTokenId = 5 ∧ s.sentFor walletTokenId = 30 ∧
      s.issued (sampleAddress 2) = 150 ∧ s.sentFor sampleCanonicalId = 0 ∧
      s.executedFor sampleCanonicalId = 0 ∧ s.putInto sampleCanonicalId (sampleAddress 12) = 55 := by
    decide +kernel
  obtain ⟨native, locks, back, away, issued, none, none', putInto⟩ := evaluated
  constructor
  · have accounted := conserved _ _ native
    have supply := accounted.supply rfl (accounted.native rfl)
    rwa [back, away, issued] at supply
  · have escrow := (conserved _ _ locks).escrow rfl
    rwa [none, none', putInto] at escrow

/-- **Managers that share a mint** are paid by each other: five that come back for the token of the
wallet, and then fifty that its minter mints, reach the account of the manager that locks, which
transfers nothing; and the supply changes under the manager that should mint and burn. -/
theorem managers_share_a_mint :
    let s := run (step sharedEnv) sampleInitial sharedCalls
    let s' := run (step sharedEnv) s [sharedMint]
    let locks : TokenManager := ⟨.lockUnlock, sampleCanonicalId, sampleAddress 2, sampleAddress 12,
      FlowState.new none 0, 255⟩
    let mints : TokenManager := ⟨.mintBurn, customTokenId, sampleAddress 2, sampleAddress 14,
      FlowState.new none 0, 255⟩
    s.accounts.tokenManagers (sampleAddress 11) = some locks ∧
    s.accounts.tokenManagers (sampleAddress 13) = some mints ∧
    s.changed (TokenState.balance locks.associatedTokenAccount)
      ≠ s.sentFor locks.tokenId - s.executedFor locks.tokenId ∧
    s'.changed (TokenState.balance locks.associatedTokenAccount)
      = s.changed (TokenState.balance locks.associatedTokenAccount) + 50 ∧
    s'.sentFor locks.tokenId = s.sentFor locks.tokenId ∧
    s'.executedFor locks.tokenId = s.executedFor locks.tokenId ∧
    s.changed (TokenState.supply mints.tokenAddress)
      ≠ s.executedFor mints.tokenId - s.sentFor mints.tokenId + s.issued mints.tokenAddress := by
  intro s s' locks mints
  decide +kernel

end AxelarSolana.Its
