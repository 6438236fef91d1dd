import AxelarSolana.Its.Program
import AxelarSolana.Library.Labelled
import AxelarSolana.Library.Machine

/-! # What an instruction is made of

Every instruction of the program is a sequence of moves: it emits an event, writes one of its
accounts, calls a token program, the gateway or a destination program, or creates an account.

* **`Move`** — one move, with the events it adds to the log.
* **`LogEvent.loud`** — the events that the properties speak about: token movements, new mints,
  token managers and roles, messages to and from the hub, changes of the trusted chains, reports of
  inbound transfers and calls of destination programs.
* **`Performs`** — a sequence of moves and the loud events it reports.
* one lemma for each function that several instructions share. -/

namespace AxelarSolana.Its

open Fallible Machine

/-! ## Events -/

/-- **The events that the properties speak about.** -/
def LogEvent.loud : LogEvent → Bool
  | .emitted (.interchainTransferReceived _) => true
  | .emitted (.trustedChainSet _) => true
  | .emitted (.trustedChainRemoved _) => true
  | .emitted _ => false
  | .tokens instruction _ _ => instruction.loud
  | _ => true

/-- The entry of an event. -/
def Ctx.entry (ctx : Ctx) (event : LogEvent) : LogEntry := ⟨event, ctx.instruction, ctx.invoker⟩

/-! ## Moves -/

/-- The addresses that may sign the call of a destination program: those outside the program, the
root account and the address that vouches for the call. -/
def Deployment.Signable (env : Deployment) (destination key : Pubkey) : Prop :=
  env.SignsOutside key ∨
  (∃ bump, env.createProgramAddress (InterchainTokenService.pdaSeeds ++ [[bump]]) env.itsId
    = some key) ∨
  ∃ bump, env.createProgramAddress (InterchainTransferExecute.pdaSeeds destination ++ [[bump]])
    env.itsId = some key

/-- Any number of calls of token programs that reassign nothing. -/
def TokenSteps (env : Env) : TokenState → TokenState → Prop :=
  Relation.ReflTransGen fun t t' => ∃ instruction signers,
    TokenInstruction.reassigns instruction = false ∧ env.tokens instruction signers t = .ok t'

/-- **Where the mint of a new token manager comes from**: it existed, with extensions that the type
supports, or it was created in the same instruction; only then the manager is one of an interchain
token of its own. -/
inductive MintOrigin (env : Env) (t : TokenState) (key : Pubkey) (ty : TokenManagerType)
    (mint tokenProgram : Pubkey) : Prop
  | existing (m : Mint) (stored : t.mints mint = some m) (owned : m.owner = tokenProgram)
      (supported : ty.supportsMintExtensions m.transferFeeConfig.isSome = true)
      (custom : ty ≠ .nativeInterchainToken)
  | initialised (decimals : UInt8) (before after : TokenState)
      (created : env.tokens (.initializeMint2 tokenProgram mint decimals key (some key)) [mint] before
        = .ok after)
      (since : TokenSteps env after t) (native : ty = .nativeInterchainToken)

/-- **A token manager that may be created**: no account exists at its address, which is derived
from the root account's address and its token id, and so is that of the mint of an interchain token
of its own. -/
structure NewTokenManager (env : Env) (key : Pubkey) (tokenManager : TokenManager) (s : World) :
    Prop where
  fresh : s.accounts.tokenManagers key = none
  address : ∃ root rootKey, s.accounts.root = some root ∧
    env.createProgramAddress (InterchainTokenService.pdaSeeds ++ [[root.bump]]) env.itsId
      = some rootKey ∧
    env.findProgramAddress (TokenManager.pdaSeeds tokenManager.tokenId rootKey) env.itsId
      = .ok (key, tokenManager.bump) ∧
    (tokenManager.ty = .nativeInterchainToken → ∃ bump,
      env.findProgramAddress (TokenManager.tokenMintSeeds tokenManager.tokenId rootKey) env.itsId
        = .ok (tokenManager.tokenAddress, bump))
  mint : ∃ tokenProgram,
    associatedTokenAddress env key tokenManager.tokenAddress tokenProgram
      = .ok tokenManager.associatedTokenAccount ∧
    MintOrigin env s.chain.tokens key tokenManager.ty tokenManager.tokenAddress tokenProgram

/-- **A message for the hub leaves**: the gateway is called in the name of the program with the
encoded message, and the gas is paid for. -/
structure SentToHub (env : Env) (ctx : Ctx) (a : GMPAccounts) (message : Encoding.HubMessage)
    (gasValue : UInt64) (payload : Bytes) (before : Chain) (gateway : Gateway.GatewayState)
    (gas : GasService.GasState) : Prop where
  outward : ∀ sourceChain inner, message ≠ .receiveFromHub sourceChain inner
  encoded : Encoding.HubMessage.codec.encode message = some payload
  paid : payForGas a (env.keccak payload) gasValue before.gas = .ok gas
  called : ∃ bump, env.findProgramAddress [Gateway.CallContractSigner.seedPrefix] env.itsId
      = .ok (a.callContractSigningPda, bump) ∧
    Gateway.process env.toEnv ⟨ctx.sysvar, .callContract
      ⟨⟨env.itsId, false⟩, some ⟨a.callContractSigningPda, true⟩⟩ itsHubChainName a.itsHubAddress
      payload bump⟩ before.gateway = .ok gateway

/-- **One move**, with the events it adds to the log. -/
inductive Move (env : Env) (ctx : Ctx) (s : World) : List LogEvent → World → Prop
  | emit (event : ItsEvent) : Move env ctx s [.emitted event] (s.emit ctx event)
  | setRoot (root : InterchainTokenService) (rootLen : Nat)
      (bump : ∀ r, s.accounts.root = some r → root.bump = r.bump) :
      Move env ctx s [] (s.setRoot root rootLen)
  | setUserRoles (key : Pubkey) (roles : Option UserRoles) :
      Move env ctx s [] (s.setUserRoles key roles)
  | setFlowSlot (key : Pubkey) (tokenManager : TokenManager) (flowSlot : FlowState)
      (stored : s.accounts.tokenManagers key = some tokenManager) :
      Move env ctx s [] (s.setTokenManager key { tokenManager with flowSlot })
  | createUserRoles (key resource user : Pubkey) (roles : UserRoles) :
      Move env ctx s [.userRolesCreated key resource user roles]
        (s.createUserRoles ctx key resource user roles)
  | createTokenManager (key : Pubkey) (tokenManager : TokenManager)
      (new : NewTokenManager env key tokenManager s) :
      Move env ctx s [.tokenManagerCreated key tokenManager]
        (s.createTokenManager ctx key tokenManager)
  | tokenCall (instruction : TokenInstruction) (signers : List Pubkey) (tokens : TokenState)
      (called : env.tokens instruction signers s.chain.tokens = .ok tokens)
      (authorised : TokenInstruction.reassigns instruction = true →
        ∀ key ∈ signers, env.SignsOutside key) :
      Move env ctx s [.tokens instruction s.chain.tokens tokens]
        ((s.record ctx (.tokens instruction s.chain.tokens tokens)).withChain
          { s.chain with tokens })
  | send (a : GMPAccounts) (message : Encoding.HubMessage) (gasValue : UInt64) (payload : Bytes)
      (gateway : Gateway.GatewayState) (gas : GasService.GasState)
      (sent : SentToHub env ctx a message gasValue payload s.chain gateway gas) :
      Move env ctx s [.sent message]
        ((s.record ctx (.sent message)).withChain { s.chain with gateway, gas })
  | validate (sysvar : Sysvar) (accounts : Gateway.ValidateMessage) (message : Message)
      (gateway : Gateway.GatewayState)
      (processed : Gateway.process env.toEnv ⟨sysvar, .validateMessage accounts message⟩
        s.chain.gateway = .ok gateway) :
      Move env ctx s [] (s.withChain { s.chain with gateway })
  | accept (sourceChain : String) (message : Encoding.Message) :
      Move env ctx s [.accepted sourceChain message]
        (s.record ctx (.accepted sourceChain message))
  | callDestination (call : DestinationCall) (effect : env.toDeployment.CalledEffect call)
      (chain : Chain)
      (signable : ∀ key ∈ signersOf call.accounts, env.Signable call.programId key)
      (run : effect.1.foldlM (fun chain external => external.run env chain) s.chain = .ok chain) :
      Move env ctx s [.destinationCalled call]
        ((s.record ctx (.destinationCalled call)).withChain chain)

/-- **A sequence of moves**, with the loud events it reports. -/
def Performs (env : Env) (ctx : Ctx) : World → List LogEvent → World → Prop :=
  Labelled.Reports LogEvent.loud (Move env ctx)

variable {env : Env} {ctx : Ctx} {s s₁ s' : World} {l l' : List LogEvent}

/-- Sequences of moves compose, and so do their events. -/
theorem Performs.trans (h : Performs env ctx s l s₁) (h' : Performs env ctx s₁ l' s') :
    Performs env ctx s (l ++ l') s' := Labelled.Reports.trans h h'

/-- A silent beginning. -/
theorem Performs.after (h' : Performs env ctx s₁ l s') (h : Performs env ctx s [] s₁) :
    Performs env ctx s l s' := h.trans h'

/-- A silent end. -/
theorem Performs.andThen (h : Performs env ctx s l s₁) (h' : Performs env ctx s₁ [] s') :
    Performs env ctx s l s' := by
  have both := h.trans h'
  rwa [List.append_nil] at both

/-- A move adds its events to the log, each with its context. -/
theorem Move.log (h : Move env ctx s l s') : s'.log = s.log ++ l.map ctx.entry := by
  cases h <;> simp [World.emit, World.record, World.setRoot, World.setUserRoles,
    World.setTokenManager, World.createUserRoles, World.createTokenManager, World.withChain,
    Ctx.entry]

/-- A run of moves adds the entries of its events. -/
theorem log_of_moves (h : Labelled.Run (Move env ctx) s l s') :
    s'.log = s.log ++ l.map ctx.entry := by
  induction h with
  | refl => simp
  | step first rest ih => rw [ih, first.log, List.map_append, List.append_assoc]

/-- **The log after a sequence of moves**: its new entries are those of the instruction, and the
loud ones are those reported. -/
theorem Performs.log (h : Performs env ctx s l s') :
    ∃ events : List LogEvent, s'.log = s.log ++ events.map ctx.entry ∧
      events.filter LogEvent.loud = l := by
  obtain ⟨all, run, rfl⟩ := h
  exact ⟨all, log_of_moves run, rfl⟩

/-- **What a sequence of moves adds to the log**, as a function sees it that only looks at loud
events. -/
theorem Performs.filterMap {β : Type} {f : LogEvent → Option β}
    (quiet : ∀ e, e.loud = false → f e = none) (h : Performs env ctx s l s') :
    ∃ entries, s'.log = s.log ++ entries ∧
      (entries.map LogEntry.event).filterMap f = l.filterMap f := by
  obtain ⟨events, log, rfl⟩ := h.log
  refine ⟨events.map ctx.entry, log, ?_⟩
  have entries : (events.map ctx.entry).map LogEntry.event = events := by
    rw [List.map_map]
    exact List.map_id events
  rw [entries, List.filterMap_filter]
  refine List.filterMap_congr fun e _ => ?_
  cases loud : e.loud with
  | true => rfl
  | false => exact quiet e loud

/-- **What every move keeps, a sequence of moves keeps.** -/
theorem Performs.keep {P : World → Prop} (h : Performs env ctx s l s')
    (keep : ∀ s l s', Move env ctx s l s' → P s → P s') (hP : P s) : P s' :=
  Labelled.Reports.keep h keep hP

/-! ## Single moves -/

/-- Emitting a quiet event is a move without loud events. -/
theorem performs_emit {event : ItsEvent} (quiet : (LogEvent.emitted event).loud = false) :
    Performs env ctx s [] (s.emit ctx event) :=
  .silent (.emit event) (by simp [quiet])

/-- Writing the root account is a move, when the bump stays. -/
theorem performs_setRoot {root : InterchainTokenService} {rootLen : Nat}
    (bump : ∀ r, s.accounts.root = some r → root.bump = r.bump) :
    Performs env ctx s [] (s.setRoot root rootLen) := .silent (.setRoot root rootLen bump) rfl

/-- Writing a roles account is a move. -/
theorem performs_setUserRoles {key : Pubkey} {roles : Option UserRoles} :
    Performs env ctx s [] (s.setUserRoles key roles) := .silent (.setUserRoles key roles) rfl

/-- Writing the flow of a stored token manager is a move. -/
theorem performs_setFlowSlot {key : Pubkey} {tokenManager : TokenManager} {flowSlot : FlowState}
    (stored : s.accounts.tokenManagers key = some tokenManager) :
    Performs env ctx s [] (s.setTokenManager key { tokenManager with flowSlot }) :=
  .silent (.setFlowSlot key tokenManager flowSlot stored) rfl

/-- Validating a message at the gateway is a move. -/
theorem performs_validate {sysvar : Sysvar} {accounts : Gateway.ValidateMessage}
    {message : Message} {gateway : Gateway.GatewayState}
    (processed : Gateway.process env.toEnv ⟨sysvar, .validateMessage accounts message⟩
      s.chain.gateway = .ok gateway) :
    Performs env ctx s [] (s.withChain { s.chain with gateway }) :=
  .silent (.validate sysvar accounts message gateway processed) rfl

/-- Accepting a message is a move, which reports it. -/
theorem performs_accept {sourceChain : String} {message : Encoding.Message} :
    Performs env ctx s [.accepted sourceChain message]
      (s.record ctx (.accepted sourceChain message)) := .loud (.accept sourceChain message) rfl

/-- Creating a roles account is a move, which reports it. -/
theorem performs_createUserRoles {key resource user : Pubkey} {roles : UserRoles} :
    Performs env ctx s [.userRolesCreated key resource user roles]
      (s.createUserRoles ctx key resource user roles) :=
  .loud (.createUserRoles key resource user roles) rfl

/-- Creating a token manager is a move, which reports it. -/
theorem performs_createTokenManager {key : Pubkey} {tokenManager : TokenManager}
    (new : NewTokenManager env key tokenManager s) :
    Performs env ctx s [.tokenManagerCreated key tokenManager]
      (s.createTokenManager ctx key tokenManager) :=
  .loud (.createTokenManager key tokenManager new) rfl

/-- A call of a token program. -/
theorem tokenCall_performs {instruction : TokenInstruction} {signers : List Pubkey}
    (h : tokenCall env ctx instruction signers s = .ok s')
    (authorised : TokenInstruction.reassigns instruction = true →
      ∀ key ∈ signers, env.SignsOutside key) :
    env.tokens instruction signers s.chain.tokens = .ok s'.chain.tokens ∧
    s'.accounts = s.accounts ∧ s'.chain.owner = s.chain.owner ∧
    Performs env ctx s
      ([LogEvent.tokens instruction s.chain.tokens s'.chain.tokens].filter LogEvent.loud) s' := by
  obtain ⟨tokens, called, rfl⟩ := tokenCall_eq_ok.mp h
  exact ⟨called, rfl, rfl, .single (.tokenCall instruction signers tokens called authorised)⟩

/-- A loud call of a token program that reassigns nothing. -/
theorem tokenCall_loud {instruction : TokenInstruction} {signers : List Pubkey}
    (h : tokenCall env ctx instruction signers s = .ok s')
    (keeps : TokenInstruction.reassigns instruction = false)
    (loud : TokenInstruction.loud instruction = true) :
    env.tokens instruction signers s.chain.tokens = .ok s'.chain.tokens ∧
    s'.accounts = s.accounts ∧ s'.chain.owner = s.chain.owner ∧
    Performs env ctx s [.tokens instruction s.chain.tokens s'.chain.tokens] s' := by
  obtain ⟨called, accounts, owner, performs⟩ := tokenCall_performs h (by simp [keeps])
  refine ⟨called, accounts, owner, ?_⟩
  rwa [List.filter_cons_of_pos (by simpa [LogEvent.loud] using loud)] at performs

/-- A quiet call of a token program that reassigns nothing. -/
theorem tokenCall_quiet {instruction : TokenInstruction} {signers : List Pubkey}
    (h : tokenCall env ctx instruction signers s = .ok s')
    (keeps : TokenInstruction.reassigns instruction = false)
    (quiet : TokenInstruction.loud instruction = false) :
    TokenSteps env s.chain.tokens s'.chain.tokens ∧ s'.accounts = s.accounts ∧
    s'.chain.owner = s.chain.owner ∧ Performs env ctx s [] s' := by
  obtain ⟨called, accounts, owner, performs⟩ := tokenCall_performs h (by simp [keeps])
  refine ⟨.single ⟨instruction, signers, keeps, called⟩, accounts, owner, ?_⟩
  rwa [List.filter_cons_of_neg (by simpa [LogEvent.loud] using quiet)] at performs

/-! ## Shared functions -/

/-- `init_if_needed` of an associated token account. -/
theorem associatedTokenAccountIfNeeded_ok {payer authority mint tokenProgram key : Pubkey}
    (h : associatedTokenAccountIfNeeded env ctx payer authority mint tokenProgram key s = .ok s') :
    associatedTokenAddress env authority mint tokenProgram = .ok key ∧
    s'.chain.tokens.BelongsTo key authority ∧
    TokenSteps env s.chain.tokens s'.chain.tokens ∧ s'.accounts = s.accounts ∧
    s'.chain.owner = s.chain.owner ∧ Performs env ctx s [] s' := by
  simp only [associatedTokenAccountIfNeeded, bind_eq_ok, associatedTokenAccount_eq_ok,
    require_eq_ok, pure_eq_ok] at h
  obtain ⟨s₁, created, account, ⟨stored, belongs, -, address⟩, -, -, rfl⟩ := h
  refine ⟨address, ⟨account, stored, belongs⟩, ?_⟩
  split at created
  · exact tokenCall_quiet created rfl rfl
  · cases created
    exact ⟨.refl, rfl, rfl, .refl s⟩

/-- `init` of the mint of an interchain token. -/
theorem initMint_ok {itsRootPda : Pubkey} {tokenId : Bytes32} {decimals : UInt8}
    {tokenManager tokenProgram key : Pubkey}
    (h : initMint env ctx itsRootPda tokenId decimals tokenManager tokenProgram key s = .ok s') :
    (∃ bump, env.findProgramAddress (TokenManager.tokenMintSeeds tokenId itsRootPda) env.itsId
      = .ok (key, bump)) ∧
    env.tokens (.initializeMint2 tokenProgram key decimals tokenManager (some tokenManager)) [key]
      s.chain.tokens = .ok s'.chain.tokens ∧
    s'.accounts = s.accounts ∧ s'.chain.owner = s.chain.owner ∧
    Performs env ctx s [.tokens (.initializeMint2 tokenProgram key decimals tokenManager
      (some tokenManager)) s.chain.tokens s'.chain.tokens] s' := by
  simp only [initMint, bind_eq_ok, Syscalls.initPda_eq_ok] at h
  obtain ⟨bump, ⟨-, address⟩, called⟩ := h
  exact ⟨⟨bump, address⟩, tokenCall_loud called rfl rfl⟩

/-- `create_token_metadata`. -/
theorem createTokenMetadata_ok {metadata mint tokenManager payer : Pubkey} {name symbol : String}
    (h : createTokenMetadata env ctx metadata mint tokenManager payer name symbol s = .ok s') :
    TokenSteps env s.chain.tokens s'.chain.tokens ∧ s'.accounts = s.accounts ∧
    s'.chain.owner = s.chain.owner ∧ Performs env ctx s [] s' := tokenCall_quiet h rfl rfl

/-- The event of an optional roles account. -/
def userRolesEvents (resource : Pubkey) (user key : Option Pubkey) (bump : Option UInt8)
    (roles : UInt8) : List LogEvent :=
  match user, key, bump with
  | some user, some key, some bump => [.userRolesCreated key resource user ⟨roles, bump⟩]
  | _, _, _ => []

/-- Writing the roles account, when it is passed. -/
theorem createUserRolesIfGiven_performs {resource : Pubkey} {user key : Option Pubkey}
    {bump : Option UInt8} {roles : UInt8} :
    Performs env ctx s (userRolesEvents resource user key bump roles)
      (s.createUserRolesIfGiven ctx resource user key bump roles) := by
  cases user with
  | none => exact .refl s
  | some user =>
    cases key with
    | none => exact .refl s
    | some key =>
      cases bump with
      | none => exact .refl s
      | some bump => exact performs_createUserRoles

/-- An optional roles account leaves the rest of the chain. -/
@[simp] theorem createUserRolesIfGiven_chain {resource : Pubkey} {user key : Option Pubkey}
    {bump : Option UInt8} {roles : UInt8} :
    (s.createUserRolesIfGiven ctx resource user key bump roles).chain = s.chain := by
  unfold World.createUserRolesIfGiven
  split <;> rfl

/-- An optional roles account leaves the root account. -/
@[simp] theorem createUserRolesIfGiven_root {resource : Pubkey} {user key : Option Pubkey}
    {bump : Option UInt8} {roles : UInt8} :
    (s.createUserRolesIfGiven ctx resource user key bump roles).accounts.root
      = s.accounts.root := by
  unfold World.createUserRolesIfGiven
  split <;> rfl

/-- An optional roles account leaves the token managers. -/
@[simp] theorem createUserRolesIfGiven_tokenManagers {resource : Pubkey} {user key : Option Pubkey}
    {bump : Option UInt8} {roles : UInt8} :
    (s.createUserRolesIfGiven ctx resource user key bump roles).accounts.tokenManagers
      = s.accounts.tokenManagers := by
  unfold World.createUserRolesIfGiven
  split <;> rfl

/-- `send_to_hub`. -/
theorem sendToHub_ok {a : GMPAccounts} {message : Encoding.HubMessage} {gasValue : UInt64}
    (h : sendToHub env ctx a message gasValue s = .ok s') :
    ∃ payload gateway gas, SentToHub env ctx a message gasValue payload s.chain gateway gas ∧
      s' = (s.record ctx (.sent message)).withChain { s.chain with gateway, gas } := by
  simp only [sendToHub, bind_eq_ok, okOr_eq_ok, require_eq_ok, pure_eq_ok] at h
  obtain ⟨_, outward, payload, encoded, gas, paid, ⟨found, bump⟩, address, _, rfl, gateway,
    processed, rfl⟩ := h
  refine ⟨payload, gateway, gas,
    { outward := ?_
      encoded
      paid
      called := ⟨bump, address, processed⟩ }, rfl⟩
  rintro sourceChain inner rfl
  exact absurd outward throw_ne_ok

/-- Sending to the hub leaves accounts and tokens, and reports the message. -/
theorem sendToHub_performs {a : GMPAccounts} {message : Encoding.HubMessage} {gasValue : UInt64}
    (h : sendToHub env ctx a message gasValue s = .ok s') :
    s'.accounts = s.accounts ∧ s'.chain.tokens = s.chain.tokens ∧
    Performs env ctx s [.sent message] s' := by
  obtain ⟨payload, gateway, gas, sent, rfl⟩ := sendToHub_ok h
  exact ⟨rfl, rfl, .loud (.send a message gasValue payload gateway gas sent) rfl⟩

end AxelarSolana.Its
