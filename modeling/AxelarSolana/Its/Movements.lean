import AxelarSolana.Its.TokenCalls
import AxelarSolana.Solana.TokenLedger

/-! # Movements of tokens

* **`LogEvent.moves`** — the events that tell of moved tokens: calls of token programs that move some,
  transfers sent to the hub or accepted from it, and the report of an inbound transfer.
* **`LogEvent.Recorded`** — what the log says of a call of a token program has happened.
* **`Movement`** — all that a committed call can move: the initial supply of a new token, what a minter
  mints, what an outbound transfer takes or what an inbound one gives; **`StepCases.movement`**. -/

namespace AxelarSolana.Its

open Fallible Machine

variable {env : Env} {ctx : Ctx} {s s' : World} {l : List LogEvent}

/-! ## Events -/

/-- The transfer in a message from the hub. -/
def Encoding.Message.transfer? : Encoding.Message → Option Encoding.InterchainTransfer
  | .interchainTransfer transfer => some transfer
  | _ => none

/-- **The events that tell of moved tokens.** -/
def LogEvent.moves : LogEvent → Bool
  | .tokens instruction _ _ => instruction.moves
  | .sent message => message.sentTransfer?.isSome
  | .accepted _ message => message.transfer?.isSome
  | .emitted (.interchainTransferReceived _) => true
  | _ => false

/-- The entries that tell of moved tokens. -/
def LogEntry.moves (entry : LogEntry) : Bool := entry.event.moves

/-- Events that move tokens are loud. -/
theorem LogEvent.loud_of_moves {e : LogEvent} (h : e.moves = true) : e.loud = true := by
  cases e with
  | emitted event =>
    cases event with
    | interchainTransferReceived => rfl
    | _ => cases h
  | tokens instruction before after =>
    cases instruction with
    | create | initializeMint2 | setMintAuthority | createV1 => cases h
    | _ => rfl
  | _ => rfl

/-- **A call of a token program that is recorded has succeeded.** -/
def LogEvent.Recorded (env : Env) : LogEvent → Prop
  | .tokens instruction before after => ∃ signers, env.tokens instruction signers before = .ok after
  | _ => True

/-- The calls of token programs that a move records have succeeded. -/
theorem Move.recorded (h : Move env ctx s l s') : ∀ e ∈ l, e.Recorded env := by
  intro e mem
  cases h with
  | tokenCall instruction signers tokens called authorised =>
    cases List.mem_singleton.mp mem
    exact ⟨signers, called⟩
  | setRoot | setUserRoles | setFlowSlot | validate => cases mem
  | _ =>
    cases List.mem_singleton.mp mem
    trivial

/-- **What an instruction adds to the log**, as far as it moves tokens. -/
theorem Performs.movements (h : Performs env ctx s l s') : ∃ events : List LogEvent,
    s'.log = s.log ++ events.map ctx.entry ∧
    events.filter LogEvent.moves = l.filter LogEvent.moves ∧ ∀ e ∈ events, e.Recorded env := by
  obtain ⟨all, run, rfl⟩ := h
  refine ⟨all, log_of_moves run, ?_, ?_⟩
  · rw [List.filter_filter]
    refine List.filter_congr fun e _ => ?_
    cases moves : e.moves with
    | false => rfl
    | true => rw [LogEvent.loud_of_moves moves, Bool.and_self]
  · induction run with
    | refl => exact fun _ mem => absurd mem List.not_mem_nil
    | step first rest ih =>
      intro e mem
      rcases List.mem_append.mp mem with mem | mem
      · exact first.recorded e mem
      · exact ih e mem

/-! ## What a call moves -/

/-- **What a committed call moves**, with the entries that tell of it:

* `deploys` — the initial supply, to an account of the deployer, who signs;
* `mints` — what a minter mints;
* `takes` — an outbound transfer, with the message that is sent for it;
* `gives` — an inbound transfer, with the message that is accepted and the report. -/
inductive Movement (env : Env) (s : World) : Call env → List LogEntry → Prop
  | still (call : Call env) : Movement env s call []
  | deploys (sysvar : Sysvar) (a : DeployInterchainToken) (salt : Bytes32) (name symbol : String)
      (decimals : UInt8) (initialSupply : UInt64) (before after : TokenState)
      (outside : ∀ key ∈ (ItsInstruction.deployInterchainToken a salt name symbol decimals
        initialSupply).signers, env.SignsOutside key)
      (signed : a.deployer.isSigner = true) (since : TokenSteps env s.chain.tokens before)
      (belongs : before.BelongsTo a.deployerAta a.deployer.key)
      (called : env.tokens (.mintTo a.tokenProgram a.tokenMint a.deployerAta a.tokenManagerPda
        initialSupply) [a.tokenManagerPda] before = .ok after) :
      Movement env s (.instruction sysvar _ outside)
        [⟨.tokens (.mintTo a.tokenProgram a.tokenMint a.deployerAta a.tokenManagerPda initialSupply)
          before after, .deployInterchainToken a salt name symbol decimals initialSupply, .external⟩]
  | mints (sysvar : Sysvar) (a : MintInterchainToken) (amount : UInt64) (after : TokenState)
      (outside : ∀ key ∈ (ItsInstruction.mintInterchainToken a amount).signers,
        env.SignsOutside key)
      (called : env.tokens (.mintTo a.tokenProgram a.mint a.destinationAccount a.tokenManagerPda
        amount) [a.tokenManagerPda] s.chain.tokens = .ok after) :
      Movement env s (.instruction sysvar _ outside)
        [⟨.tokens (.mintTo a.tokenProgram a.mint a.destinationAccount a.tokenManagerPda amount)
          s.chain.tokens after, .mintInterchainToken a amount, .external⟩]
  | takes (sysvar : Sysvar) (a : InterchainTransfer) (tokenId : Bytes32) (destinationChain : String)
      (destinationAddress : Bytes) (amount gasValue reported : UInt64)
      (callerProgramId : Option Pubkey) (callerPdaSeeds : Option (List Bytes))
      (data : Option Bytes) (tokenManager tracked : TokenManager) (mint : Mint)
      (instruction : TokenInstruction) (sourceAddress : Bytes) (after : TokenState)
      (outside : ∀ key ∈ (ItsInstruction.interchainTransfer a tokenId destinationChain
        destinationAddress amount gasValue callerProgramId callerPdaSeeds data).signers,
        env.SignsOutside key)
      (outbound : Outbound env sysvar a tokenId destinationChain amount reported tokenManager
        tracked mint instruction s after) :
      Movement env s (.instruction sysvar _ outside)
        [⟨.tokens instruction s.chain.tokens after, .interchainTransfer a tokenId destinationChain
            destinationAddress amount gasValue callerProgramId callerPdaSeeds data, .external⟩,
          ⟨.sent (.sendToHub destinationChain (.interchainTransfer
            ⟨tokenId, sourceAddress, destinationAddress, reported, data⟩)),
            .interchainTransfer a tokenId destinationChain destinationAddress amount gasValue
              callerProgramId callerPdaSeeds data, .external⟩]
  | gives (sysvar : Sysvar) (outer : Execute) (message : Message) (payload : Bytes)
      (sourceChain : String) (a : ExecuteInterchainTransfer)
      (transfer : Encoding.InterchainTransfer) (destination : Pubkey) (transferred : UInt64)
      (tokenManager tracked : TokenManager) (mint : Mint) (instruction : TokenInstruction)
      (t : World) (before after : TokenState) (received : InterchainTransferReceived)
      (outside : ∀ key ∈ (ItsInstruction.execute outer message payload).signers,
        env.SignsOutside key)
      (accounts : t.accounts = s.accounts) (tokens : t.chain.tokens = s.chain.tokens)
      (inbound : Inbound env sysvar a destination transfer.tokenId transfer.amount transferred
        tokenManager tracked mint instruction t before after)
      (reports : received.tokenId = transfer.tokenId ∧ received.amount = transferred ∧
        received.destinationTokenAccount = a.destinationAta.pubkey) :
      Movement env s (.instruction sysvar _ outside)
        [⟨.accepted sourceChain (.interchainTransfer transfer), .execute outer message payload,
            .external⟩,
          ⟨.tokens instruction before after, .executeInterchainTransfer a message sourceChain
            transfer.sourceAddress destination transfer.tokenId transfer.amount
            (transfer.data.getD []), .execute message payload⟩,
          ⟨.emitted (.interchainTransferReceived received), .executeInterchainTransfer a message
            sourceChain transfer.sourceAddress destination transfer.tokenId transfer.amount
            (transfer.data.getD []), .execute message payload⟩]

/-- The call that takes the tokens moves tokens. -/
theorem Takes.moves {sysvar : Sysvar} {a : InterchainTransfer} {mint : Mint}
    {amount reported : UInt64} {ty : TokenManagerType} {instruction : TokenInstruction}
    (h : Takes env sysvar a mint amount ty reported instruction) :
    TokenInstruction.moves instruction = true := by
  cases h <;> rfl

/-- The call that gives the tokens moves tokens. -/
theorem Gives.moves {sysvar : Sysvar} {a : ExecuteInterchainTransfer} {mint : Mint}
    {amount transferred : UInt64} {ty : TokenManagerType} {instruction : TokenInstruction}
    (h : Gives env sysvar a mint amount ty transferred instruction) :
    TokenInstruction.moves instruction = true := by
  cases h <;> rfl

/-- Granting roles moves nothing. -/
theorem Registered.moves_granted {key : Pubkey} {tokenManager : TokenManager}
    (h : Registered env key tokenManager l s s') : l.filter LogEvent.moves = [] := by
  obtain ⟨accounts, granted, -⟩ := h.accounts
  cases granted with
  | nobody => rfl
  | user user key bump fresh address => rfl

/-- The initial supply of a new token. -/
theorem Deployed.movement {sysvar : Sysvar} {a : DeployInterchainToken} {salt : Bytes32}
    {name symbol : String} {decimals : UInt8} {initialSupply : UInt64} {t₁ t₂ t₃ : TokenState}
    (h : Deployed env a decimals initialSupply s.chain.tokens t₁ t₂ t₃)
    (outside : ∀ key ∈ (ItsInstruction.deployInterchainToken a salt name symbol decimals
      initialSupply).signers, env.SignsOutside key) :
    Movement env s (.instruction sysvar _ outside)
      ((initialSupplyEvents a initialSupply t₂ t₃).map (Ctx.entry ⟨sysvar, .external,
        .deployInterchainToken a salt name symbol decimals initialSupply⟩)) := by
  unfold initialSupplyEvents
  by_cases some : 0 < initialSupply
  · rw [if_pos some]
    have since : TokenSteps env s.chain.tokens t₂ :=
      Relation.ReflTransGen.head ⟨_, _, rfl, h.created⟩ h.since
    exact .deploys sysvar a salt name symbol decimals initialSupply t₂ t₃ outside h.signed since
      h.belongs (h.supply some)
  · rw [if_neg some]
    exact .still _

/-- **An instruction called from outside** moves tokens in one of these ways. -/
theorem Effect.movement {sysvar : Sysvar} {i : ItsInstruction} (h : Effect env sysvar s i l s')
    (outside : ∀ key ∈ i.signers, env.SignsOutside key) :
    Movement env s (.instruction sysvar i outside)
      ((l.filter LogEvent.moves).map (Ctx.entry ⟨sysvar, .external, i⟩)) := by
  cases h with
  | deploys a salt name symbol decimals initialSupply tokenManager granted t₁ t₂ t₃ s' native address
      deployed registered =>
    have supply : (initialSupplyEvents a initialSupply t₂ t₃).filter LogEvent.moves
        = initialSupplyEvents a initialSupply t₂ t₃ := by
      unfold initialSupplyEvents
      split <;> rfl
    rw [List.filter_cons_of_neg (by simp [LogEvent.moves, TokenInstruction.moves]),
      List.filter_append, List.filter_append, registered.moves_granted, supply, List.nil_append,
      List.filter_cons_of_neg (by simp [LogEvent.moves]), List.filter_nil, List.append_nil]
    exact deployed.movement outside
  | mints a amount tokenManager after s' stored address called accounts =>
    exact .mints sysvar a amount after outside called
  | transfers a tokenId destinationChain destinationAddress amount gasValue reported
      callerProgramId callerPdaSeeds data tokenManager tracked mint instruction sourceAddress after
      s' outbound accounts =>
    have moves : (LogEvent.tokens instruction s.chain.tokens after).moves = true :=
      outbound.takes.moves
    rw [List.filter_cons_of_pos moves, List.filter_cons_of_pos rfl]
    exact .takes sysvar a tokenId destinationChain destinationAddress amount gasValue reported
      callerProgramId callerPdaSeeds data tokenManager tracked mint instruction sourceAddress after
      outside outbound
  | registers i key tokenManager granted s' existing registered =>
    rw [List.filter_cons_of_neg (by simp [LogEvent.moves]), registered.moves_granted]
    exact .still _
  | sends i message s' outbound noTransfer remote accounts =>
    rw [List.filter_cons_of_neg (by simp [LogEvent.moves, noTransfer])]
    exact .still _
  | _ => exact .still _

/-- **A message from the hub** moves tokens when it is a transfer. -/
theorem Received.movement {t : World} {sysvar : Sysvar} {outer : Execute} {message : Message}
    {payload : Bytes} {sourceChain : String} {inner : Encoding.Message} {i : ItsInstruction}
    (h : Received env sysvar outer message sourceChain t inner i l s')
    (outside : ∀ key ∈ (ItsInstruction.execute outer message payload).signers,
      env.SignsOutside key)
    (accounts : t.accounts = s.accounts) (tokens : t.chain.tokens = s.chain.tokens) :
    Movement env s (.instruction sysvar _ outside)
      (([LogEvent.accepted sourceChain inner].filter LogEvent.moves).map
          (Ctx.entry ⟨sysvar, .external, .execute outer message payload⟩) ++
        (l.filter LogEvent.moves).map (Ctx.entry ⟨sysvar, .execute message payload, i⟩)) := by
  cases h with
  | transfer a transfer destination transferred tokenManager tracked mint instruction before after
      called s' manager parsed signers inbound calls written =>
    have moves : (LogEvent.tokens instruction before after).moves = true := inbound.gives.moves
    have quiet : called.filter LogEvent.moves = [] := by
      cases calls <;> rfl
    rw [List.filter_cons_of_pos rfl, List.filter_cons_of_pos moves, List.filter_cons_of_pos rfl,
      quiet]
    exact .gives sysvar outer message payload sourceChain a transfer destination transferred
      tokenManager tracked mint instruction t before after _ outside accounts tokens inbound
      ⟨rfl, rfl, rfl⟩
  | deploy a deploy bump rolesBump after s' inbound registered =>
    rw [List.filter_cons_of_neg (by simp [LogEvent.moves, Encoding.Message.transfer?]),
      List.filter_cons_of_neg (by simp [LogEvent.moves, TokenInstruction.moves]),
      List.filter_cons_of_neg (by simp [LogEvent.moves]), registered.moves_granted]
    exact .still _
  | link a link destinationTokenAddress ty bump rolesBump s' parsed inbound registered =>
    rw [List.filter_cons_of_neg (by simp [LogEvent.moves, Encoding.Message.transfer?]),
      List.filter_cons_of_neg (by simp [LogEvent.moves]), registered.moves_granted]
    exact .still _

/-- The entries of an instruction that tell of moved tokens. -/
theorem filter_moves_entries (events : List LogEvent) :
    (events.map ctx.entry).filter LogEntry.moves = (events.filter LogEvent.moves).map ctx.entry :=
  List.filter_map ..

/-- **What a committed call adds to the log**: what tells of moved tokens is one of these movements,
and every call of a token program has happened. -/
theorem StepCases.movement {call : Call env} (h : StepCases env s call s') : ∃ entries,
    s'.log = s.log ++ entries ∧ Movement env s call (entries.filter LogEntry.moves) ∧
    ∀ entry ∈ entries, entry.event.Recorded env := by
  cases h with
  | external call outside chain run =>
    exact ⟨[], (List.append_nil _).symm, .still _, fun _ mem => absurd mem List.not_mem_nil⟩
  | own sysvar i outside l s' notInner notExecute effect performs =>
    obtain ⟨events, log, moves, recorded⟩ := performs.movements
    refine ⟨_, log, ?_, ?_⟩
    · rw [filter_moves_entries, moves]
      exact effect.movement outside
    · intro entry mem
      obtain ⟨e, listed, rfl⟩ := List.mem_map.mp mem
      exact recorded e listed
  | execute sysvar a message payload outside sourceChain inner gateway i l s' accepts received
      performs =>
    obtain ⟨events, log, moves, recorded⟩ := performs.movements
    refine ⟨[LogEvent.accepted sourceChain inner].map
        (Ctx.entry ⟨sysvar, .external, .execute a message payload⟩) ++
      events.map (Ctx.entry ⟨sysvar, .execute message payload, i⟩), ?_, ?_, ?_⟩
    · rw [log, ← List.append_assoc]
      rfl
    · rw [List.filter_append, filter_moves_entries, filter_moves_entries, moves]
      exact received.movement outside rfl rfl
    · intro entry mem
      rcases List.mem_append.mp mem with mem | mem
      · cases List.mem_singleton.mp mem
        trivial
      · obtain ⟨e, listed, rfl⟩ := List.mem_map.mp mem
        exact recorded e listed

end AxelarSolana.Its
