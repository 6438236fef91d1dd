import AxelarSolana.Governance.History

/-! # Who may act

Every entry of the log is the word of somebody who may give it:

* **`ByMessage`** — an approved message of the configured governance contract, executed by the
  gateway just then, whose own payload gives the command and the proposal hash.
* **`ByProposal`** — the call of a proposal under execution that lists `governance_config` as a
  signer.
* **`OperatorSigned`** — the signature of the current operator.
* **`Authorised`** — which of these each event needs.
* **`governance_authority`** — over any run every entry is authorised, a message gives at most one
  entry, accounts and configuration change only with such an entry, as the log stands for, and an
  unknown command changes nothing. -/

namespace AxelarSolana.Governance

open Fallible Machine History

/-- **The word of a message**: it comes from the configured address and chain, its payload decodes
to the command and the hash of the entry, and the gateway has just taken it from approved to
executed. -/
structure ByMessage (env : Env) (e : LogEntry) (command : GovernanceCommand) (hash : Bytes32)
    (message : Message) (payload : Bytes) : Prop where
  invoker : e.invoker = .gmp message payload
  source : ∃ config, e.accounts.config = some config ∧
    env.hashv [Codec.utf8 message.sourceAddress] = config.addressHash ∧
    env.hashv [Codec.utf8 message.ccId.chain] = config.chainHash
  payloadHash : env.keccak payload = message.payloadHash
  decoded : ∃ cmdPayload target callData,
    calculateGmpContext env payload = .ok (cmdPayload, target, callData, hash) ∧
    cmdPayload.command = command
  executed : ∃ gateway destination caller,
    Gateway.Execution env.toEnv message destination caller gateway e.gateway

/-- **The word of a proposal**: the entry before is the beginning of its execution, and it lists
`governance_config` as a signer. -/
structure ByProposal (env : Env) (before : List LogEntry) (e : LogEntry)
    (data : ExecuteProposalData) : Prop where
  invoker : e.invoker = .proposal data
  executing : ∃ b kind hash, before.getLast? = some b ∧
    b.event = ExecutionKind.began hash data kind ∧
    ExecutableProposal.hashFromData env.toSyscalls data = .ok hash
  listed : ∃ config key, e.accounts.config = some config ∧
    configAddress env config.bump = some key ∧
    ∃ m ∈ data.callData.solanaAccounts, m.pubkey = key ∧ m.isSigner = true

/-- **The signature of the current operator.** -/
def OperatorSigned (e : LogEntry) : Prop :=
  ∃ config, e.accounts.config = some config ∧ config.operator ∈ e.signers

/-- **What each event needs.** -/
structure Authorised (env : Env) (before : List LogEntry) (e : LogEntry) : Prop where
  commands : ∀ command hash, e.event.command? = some (command, hash) →
    (∃ message payload, ByMessage env e command hash message payload) ∨
      ∃ data, ByProposal env before e data
  withdrawals : ∀ receiver amount, e.event = .tokensWithdrawn receiver amount →
    ∃ data, ByProposal env before e data
  operatorship : ∀ old new, e.event = .emitted (.operatorshipTransferred old new) →
    OperatorSigned e ∨ ∃ data, ByProposal env before e data
  updates : ∀ config, e.event = .configUpdated config → OperatorSigned e
  initialisation : ∀ config, e.event = .configInitialized config → e.accounts.config = none

variable {env : Env} {ctx : Ctx} {instruction : GovernanceInstruction} {s s' : World}

/-! ## The caller of an instruction -/

/-- **Where an instruction is called from**, other than the GMP entry point: from outside, without
the signature of `governance_config`; or from a proposal whose execution has just begun. -/
inductive Source (env : Env) (s : World) : Ctx → Prop
  | external (sysvar : Sysvar) (accounts : List AccountMeta)
      (unsigned : ∀ key ∈ (Ctx.mk sysvar .external accounts).signers,
        isConfigAddress env key = false) :
      Source env s ⟨sysvar, .external, accounts⟩
  | proposal (sysvar : Sysvar) (data : ExecuteProposalData) (kind : ExecutionKind)
      (hash : Bytes32) (b : LogEntry)
      (hashed : ExecutableProposal.hashFromData env.toSyscalls data = .ok hash)
      (last : s.log.getLast? = some b) (began : b.event = kind.began hash data) :
      Source env s ⟨sysvar, .proposal data, mergePrivileges data.instruction.accounts⟩

/-- The call of a proposal under execution. -/
theorem source_of_begins {kind : ExecutionKind} {data : ExecuteProposalData} {hash : Bytes32}
    {config : GovernanceConfig} {key : Pubkey} {proposal : ExecutableProposal}
    (begins : Begins env kind ctx data hash config key proposal s) (l : Pubkey → Nat) :
    Source env ((kind.beginning ctx hash data s).withLamports l)
      ⟨ctx.sysvar, .proposal data, mergePrivileges data.instruction.accounts⟩ :=
  .proposal ctx.sysvar data kind hash (s.entry ctx (kind.began hash data)) begins.hash_eq
    (by simp [ExecutionKind.beginning]) rfl

/-- **Where `governance_config` signs**, a proposal under execution lists it as a signer. -/
theorem Source.byProposal (source : Source env s ctx) {config : GovernanceConfig}
    (stored : s.accounts.config = some config) (signed : ConfigSigned env ctx config)
    (e : LogEvent) : ∃ data, ByProposal env s.log (s.entry ctx e) data := by
  obtain ⟨key, address, signed⟩ := signed
  cases source with
  | external sysvar accounts unsigned =>
    have := isConfigAddress_of_configAddress address
    rw [unsigned key signed] at this
    cases this
  | proposal sysvar data kind hash b hashed last began =>
    refine ⟨data, rfl, ⟨b, kind, hash, last, began, hashed⟩, config, key, stored, address, ?_⟩
    obtain ⟨a, mem, signs, same⟩ := mem_signers_mergePrivileges.mp signed
    rw [instruction_accounts_eq] at mem
    obtain ⟨m, listed, rfl⟩ := List.mem_map.mp mem
    exact ⟨m, listed, same, signs⟩

/-! ## Authorised entries -/

/-- An event that needs nobody's word. -/
theorem authorised_of_free {before : List LogEntry} {e : LogEntry}
    (command : e.event.command? = none)
    (withdrawal : ∀ receiver amount, e.event ≠ .tokensWithdrawn receiver amount)
    (transfer : ∀ old new, e.event ≠ .emitted (.operatorshipTransferred old new))
    (update : ∀ config, e.event ≠ .configUpdated config)
    (initial : ∀ config, e.event ≠ .configInitialized config) : Authorised env before e where
  commands _ _ h := by
    rw [command] at h
    cases h
  withdrawals receiver amount h := absurd h (withdrawal receiver amount)
  operatorship old new h := absurd h (transfer old new)
  updates config h := absurd h (update config)
  initialisation config h := absurd h (initial config)

/-- The beginning and the end of an execution need nobody's word. -/
theorem ExecutionKind.authorised_began (kind : ExecutionKind) {before : List LogEntry}
    {hash : Bytes32} {data : ExecuteProposalData} {e : LogEntry}
    (h : e.event = kind.began hash data) : Authorised env before e := by
  cases kind <;> exact authorised_of_free (by rw [h]; rfl) (by rw [h]; simp [began])
    (by rw [h]; simp [began]) (by rw [h]; simp [began]) (by rw [h]; simp [began])

/-- An execution needs nobody's authority but that of the proposal, so its entry is authorised. -/
theorem ExecutionKind.authorised_executed (kind : ExecutionKind) {before : List LogEntry}
    {hash : Bytes32} {data : ExecuteProposalData} {eta : UInt64} {e : LogEntry}
    (h : e.event = .emitted (kind.executed hash data eta)) : Authorised env before e := by
  cases kind <;> exact authorised_of_free (by rw [h]; rfl) (by rw [h]; simp [executed])
    (by rw [h]; simp [executed]) (by rw [h]; simp [executed]) (by rw [h]; simp [executed])

/-- An event carried out by a command. -/
theorem authorised_of_command {before : List LogEntry} {e : LogEntry}
    {command : GovernanceCommand} {hash : Bytes32}
    (h : e.event.command? = some (command, hash))
    (word : (∃ message payload, ByMessage env e command hash message payload) ∨
      ∃ data, ByProposal env before e data) : Authorised env before e where
  commands command' hash' h' := by
    rw [h] at h'
    cases h'
    exact word
  withdrawals receiver amount h' := by
    rw [h'] at h
    cases h
  operatorship old new h' := by
    rw [h'] at h
    cases h
  updates config h' := by
    rw [h'] at h
    cases h
  initialisation config h' := by
    rw [h'] at h
    cases h

/-- **An instruction called from outside or by a proposal** leaves an authorised entry. -/
theorem Effect.authorised (source : Source env s ctx) {l : Pubkey → Nat}
    (h : Effect env ctx s l instruction s') :
    ∃ e, s'.log = s.log ++ [s.entry ctx e] ∧ Authorised env s.log (s.entry ctx e) := by
  cases h with
  | initializeConfig params config authority key fresh =>
    refine ⟨_, rfl, ⟨?_, ?_, ?_, ?_, fun _ _ => fresh⟩⟩ <;> simp [LogEvent.command?]
  | updateConfig params config stored signed =>
    refine ⟨_, rfl, ⟨?_, ?_, ?_, fun _ _ => ⟨config, stored, signed⟩, ?_⟩⟩ <;>
      simp [LogEvent.command?]
  | transferOperatorship newOperator config stored signed =>
    refine ⟨_, rfl, ⟨?_, ?_, fun _ _ _ => ?_, ?_, ?_⟩⟩
    case refine_3 =>
      rcases signed with signed | signed
      · exact .inl ⟨config, stored, signed⟩
      · exact .inr (source.byProposal stored signed _)
    all_goals simp [LogEvent.command?]
  | withdrawTokens amount config receiver stored signed =>
    have word := source.byProposal stored signed (.tokensWithdrawn receiver amount)
    refine ⟨_, rfl, ⟨?_, fun _ _ _ => word, ?_, ?_, ?_⟩⟩ <;> simp [LogEvent.command?]
  | scheduleTimelockProposal hash eta nativeValue target callData config proposal stored signed =>
    exact ⟨_, rfl, authorised_of_command rfl (.inr (source.byProposal stored signed _))⟩
  | cancelTimelockProposal hash nativeValue target callData config proposal stored signed =>
    exact ⟨_, rfl, authorised_of_command rfl (.inr (source.byProposal stored signed _))⟩
  | approveOperatorProposal hash nativeValue target callData config proposal stored signed =>
    exact ⟨_, rfl, authorised_of_command rfl (.inr (source.byProposal stored signed _))⟩
  | cancelOperatorProposal hash nativeValue target callData config proposal stored signed =>
    exact ⟨_, rfl, authorised_of_command rfl (.inr (source.byProposal stored signed _))⟩

/-! ## Messages -/

/-- **What an accepted message leaves**: one entry, authorised by that message, and one more
execution at the gateway. -/
theorem Accepted.evaluates {message : Message} {payload : Bytes} {config : GovernanceConfig}
    {hash : Bytes32} {accounts : List AccountMeta} {gateway : Gateway.GatewayState}
    (h : Accepted env ctx message payload config hash accounts instruction s gateway)
    (inner : Evaluates env ⟨ctx.sysvar, .gmp message payload, accounts⟩ instruction
      { s with gateway } s') :
    ∃ e : LogEntry, s'.log = s.log ++ [e] ∧ e.invoker = .gmp message payload ∧
      Authorised env s.log e ∧ s'.gateway = gateway ∧
      ∀ c, Gateway.executions c gateway = Gateway.executions c s.gateway +
        if message.commandId env.toCrates = c then 1 else 0 := by
  obtain ⟨key, payloadHash, validated⟩ := h.gateway_step
  obtain ⟨destination, execution⟩ := Gateway.execution_of_process validated
  obtain ⟨cmdPayload, target, callData, decoded, dispatched⟩ := h.decoded
  obtain ⟨e, command, logged⟩ := dispatched.effect inner
  refine ⟨_, logged.log, rfl, authorised_of_command command (.inl ⟨message, payload, ?_⟩),
    logged.gateway, execution.executions_eq⟩
  exact
    { invoker := rfl
      source := ⟨config, h.stored, h.source, h.chain⟩
      payloadHash
      decoded := ⟨cmdPayload, target, callData, decoded, rfl⟩
      executed := ⟨s.gateway, destination, _, execution⟩ }

/-- **Every entry that an evaluation leaves is authorised.** -/
theorem Evaluates.authorised (source : Source env s ctx)
    (h : Evaluates env ctx instruction s s') (before : Justified (Authorised env) s.log) :
    Justified (Authorised env) s'.log := by
  induction h with
  | effect l effect =>
    obtain ⟨e, log, authorised⟩ := effect.authorised source
    rw [log]
    exact justified_append.mpr ⟨before, authorised⟩
  | execute accepted inner ih =>
    obtain ⟨e, log, -, authorised, -, -⟩ := accepted.evaluates inner
    rw [World.setConfig_log, log]
    exact justified_append.mpr ⟨before, authorised⟩
  | @proposal kind ctx data hash config key proposal s s₁ instruction l l' begins _ _ _ inner ih =>
    have first : Justified (Authorised env) (kind.beginning ctx hash data s).log :=
      justified_append.mpr ⟨before, kind.authorised_began rfl⟩
    have call := ih (source_of_begins begins l) first
    rw [World.withLamports_log, (kind.ending_logged ctx hash data config proposal.eta s₁).log]
    exact justified_append.mpr ⟨call, kind.authorised_executed rfl⟩
  | @external kind ctx data hash config key proposal s gateway l begins _ calls =>
    have first : Justified (Authorised env) (kind.beginning ctx hash data s).log :=
      justified_append.mpr ⟨before, kind.authorised_began rfl⟩
    rw [World.withLamports_log, (kind.ending_logged ctx hash data config proposal.eta
      { kind.beginning ctx hash data s with gateway }).log]
    exact justified_append.mpr ⟨first, kind.authorised_executed rfl⟩

/-! ## Each message at most once -/

/-- The command id of the message that an entry was made for. -/
def LogEntry.commandId? (env : Env) (e : LogEntry) : Option Bytes32 :=
  match e.invoker with
  | .gmp message _ => some (message.commandId env.toCrates)
  | _ => none

/-- **How many entries** were made for messages of a command id. -/
def messageEntries (env : Env) (c : Bytes32) (log : List LogEntry) : Nat :=
  log.countP fun e => e.commandId? env = some c

/-- Appending an entry counts it if and only if it carries the message's command id. -/
theorem messageEntries_append (env : Env) (c : Bytes32) (log : List LogEntry) (e : LogEntry) :
    messageEntries env c (log ++ [e]) =
      messageEntries env c log + if e.commandId? env = some c then 1 else 0 := by
  unfold messageEntries
  rw [List.countP_append]
  by_cases h : e.commandId? env = some c <;> simp [h]

/-- **Entries for messages do not outnumber executions at the gateway**, counted from where the
evaluation started. -/
theorem Evaluates.messageEntries_le (source : Source env s ctx)
    (h : Evaluates env ctx instruction s s') (c : Bytes32)
    (before : messageEntries env c s.log ≤ Gateway.executions c s.gateway) :
    messageEntries env c s'.log ≤ Gateway.executions c s'.gateway := by
  -- no entry made outside the GMP entry point counts
  have silent : ∀ {t : World} {ctx : Ctx} {e : LogEvent}, Source env t ctx → ∀ u : World,
      (u.entry ctx e).commandId? env ≠ some c := by
    intro t ctx e source u
    cases source <;> simp [World.entry, LogEntry.commandId?]
  induction h with
  | effect l effect =>
    obtain ⟨e, logged⟩ := effect.logged
    rw [logged.log, logged.gateway, messageEntries_append, if_neg (silent source _)]
    exact before
  | @execute ctx message payload s s₁ config hash accounts instruction gateway accepted inner ih =>
    obtain ⟨e, log, invoker, -, same, executed⟩ := accepted.evaluates inner
    have id : e.commandId? env = some (message.commandId env.toCrates) := by
      rw [LogEntry.commandId?, invoker]
    rw [World.setConfig_log, World.setConfig_gateway, log, same, executed c,
      messageEntries_append, id]
    by_cases own : message.commandId env.toCrates = c
    · rw [if_pos (congrArg some own), if_pos own]
      omega
    · rw [if_neg (fun h => own (Option.some.inj h)), if_neg own]
      omega
  | @proposal kind ctx data hash config key proposal s s₁ instruction l l' begins _ _ _ inner ih =>
    have call := ih (source_of_begins begins l) (by
      rw [World.withLamports_log, World.withLamports_gateway, ExecutionKind.beginning,
        World.record_log, messageEntries_append, if_neg (silent source _)]
      exact before)
    have last := kind.ending_logged ctx hash data config proposal.eta s₁
    rw [World.withLamports_log, World.withLamports_gateway, last.log, last.gateway,
      messageEntries_append, if_neg (silent source _)]
    exact call
  | @external kind ctx data hash config key proposal s gateway l begins _ calls =>
    have last := kind.ending_logged ctx hash data config proposal.eta
      { kind.beginning ctx hash data s with gateway }
    rw [World.withLamports_log, World.withLamports_gateway, last.log, last.gateway,
      messageEntries_append, if_neg (silent source _), ExecutionKind.beginning, World.record_log,
      messageEntries_append, if_neg (silent source _)]
    exact before.trans (Gateway.executions_steps calls c)

/-! ## The configuration -/

/-- **What an evaluation does to the configuration**: nothing, unless it creates it, the current
operator signs, or `governance_config` itself signs and only the operator is replaced. -/
theorem Evaluates.config_cases (h : Evaluates env ctx instruction s s') :
    s'.accounts.config = s.accounts.config ∨ s.accounts.config = none ∨
      ∃ config config', s.accounts.config = some config ∧ s'.accounts.config = some config' ∧
        (config.operator ∈ ctx.signers ∨ ConfigSigned env ctx config ∧
          config' = { config with operator := config'.operator }) := by
  cases h with
  | effect l effect =>
    cases effect with
    | initializeConfig params config authority key fresh => exact .inr (.inl fresh)
    | updateConfig params config stored signed =>
      exact .inr (.inr ⟨config, _, stored, rfl, .inl signed⟩)
    | transferOperatorship newOperator config stored signed =>
      refine .inr (.inr ⟨config, _, stored, rfl, ?_⟩)
      rcases signed with signed | signed
      · exact .inl signed
      · exact .inr ⟨signed, rfl⟩
    | _ => exact .inl rfl
  | execute accepted inner =>
    left
    rw [accepted.stored]
    rfl
  | @proposal kind ctx data hash config key proposal s s₁ instruction l l' begins =>
    left
    rw [begins.stored]
    cases kind <;> rfl
  | @external kind ctx data hash config key proposal s gateway l begins =>
    left
    rw [begins.stored]
    cases kind <;> rfl

/-- Called from outside, the configuration changes only when it is created or by the signature of
the current operator. -/
theorem Evaluates.config_external {sysvar : Sysvar} {accounts : List AccountMeta}
    (h : Evaluates env ⟨sysvar, .external, accounts⟩ instruction s s')
    (unsigned : ∀ key ∈ (Ctx.mk sysvar .external accounts).signers,
      isConfigAddress env key = false)
    (changed : s'.accounts.config ≠ s.accounts.config) :
    s.accounts.config = none ∨ ∃ config, s.accounts.config = some config ∧
      config.operator ∈ (Ctx.mk sysvar .external accounts).signers := by
  rcases h.config_cases with same | fresh | ⟨config, config', stored, -, signed | ⟨signed, -⟩⟩
  · exact absurd same changed
  · exact .inl fresh
  · exact .inr ⟨config, stored, signed⟩
  · obtain ⟨key, address, signed⟩ := signed
    have := isConfigAddress_of_configAddress address
    rw [unsigned key signed] at this
    cases this

/-! ## Unknown commands -/

/-- A message with an unknown command is refused. -/
theorem process_execute_invalid {depth : Nat} {message : Message} {payload : Bytes}
    {cmdPayload : GovernanceCommandPayload} {target : Pubkey}
    {callData : ExecuteProposalCallData} {hash : Bytes32}
    (decoded : calculateGmpContext env payload = .ok (cmdPayload, target, callData, hash))
    (unknown : cmdPayload.command = .invalid) :
    process env depth ctx (.execute message payload) s ≠ .ok s' := by
  intro h
  cases depth with
  | zero => exact absurd h throw_ne_ok
  | succ depth =>
    obtain ⟨config, hash', accounts, instruction, gateway, s₁, accepted, -, -⟩ := execute_ok h
    obtain ⟨cmdPayload', target', callData', decoded', dispatched⟩ := accepted.decoded
    rw [decoded] at decoded'
    cases decoded'
    obtain ⟨eta, nativeValue, callData, target, -, called⟩ := dispatched
    rw [unknown] at called
    exact called

/-! ## Runs -/

/-- **What every reachable world satisfies.** -/
structure AuthorityInvariant (env : Env) (s : World) : Prop where
  authorised : Justified (Authorised env) s.log
  messages : ∀ c, messageEntries env c s.log ≤ Gateway.executions c s.gateway
  records : Gateway.EventsMatchRecords s.gateway

/-- The empty log is authorised. -/
theorem authorityInvariant_initial (env : Env) (l : Pubkey → Nat) :
    AuthorityInvariant env (World.initial l) where
  authorised := justified_nil
  messages _ := Nat.zero_le _
  records := Gateway.eventsMatchRecords_initial

/-- Every committed call keeps it. -/
theorem AuthorityInvariant.step {call : Call} (inv : AuthorityInvariant env s)
    (h : step env call s = .ok s') : AuthorityInvariant env s' := by
  cases step_evaluates h with
  | governance sysvar accounts instruction s' unsigned evaluates =>
    have source : Source env s ⟨sysvar, .external, mergePrivileges accounts⟩ :=
      .external sysvar _ unsigned
    exact
      { authorised := evaluates.authorised source inv.authorised
        messages := fun c => evaluates.messageEntries_le source c (inv.messages c)
        records := evaluates.gateway_steps.keep
          (fun _ _ _ records processed => records.process processed) inv.records }
  | gateway call gateway processed =>
    exact
      { authorised := inv.authorised
        messages := fun c => (inv.messages c).trans (Gateway.executions_mono processed c)
        records := inv.records.process processed }
  | balances l => exact ⟨inv.authorised, inv.messages, inv.records⟩

/-- **Governance authority.** For every run of governance, the gateway and everything around them:

1. every entry of the log is authorised: proposals and operator markers are created and cancelled,
   tokens withdrawn, and operator and configuration changed, only on the word of a message, of a
   proposal under execution, or of the current operator, as each event requires;
2. at most one entry is made for each gateway message;
3. in every committed call, a proposal account or operator marker changes only with an entry for
   its hash, and the stored configuration only when it is created or the current operator signs the
   call;
4. the proposal accounts and operator markers are those that the log leaves open, so that an entry
   for an execution closes them and opens none;
5. a message whose payload carries none of the four commands changes nothing, in any world. -/
theorem governance_authority (env : Env) (l : Pubkey → Nat) (calls : List Call) :
    let tr := trace (step env) (World.initial l) calls
    let s := run (step env) (World.initial l) calls
    Justified (Authorised env) s.log ∧
    (∀ c, messageEntries env c s.log ≤ 1) ∧
    (∀ t ∈ tr,
      (∃ entries, Frame t.pre t.post entries) ∧
      (t.post.accounts.config ≠ t.pre.accounts.config → t.pre.accounts.config = none ∨
        ∃ sysvar accounts instruction config,
          t.call = .governance sysvar accounts instruction ∧
          t.pre.accounts.config = some config ∧
          ∃ a ∈ accounts, a.isSigner = true ∧ a.pubkey = config.operator)) ∧
    AccountsMatchLog s ∧
    (∀ (u : World) sysvar accounts message payload cmdPayload target callData hash,
      calculateGmpContext env payload = .ok (cmdPayload, target, callData, hash) →
      cmdPayload.command = .invalid →
      commit (step env) u (.governance sysvar accounts (.execute message payload)) = u) := by
  intro tr s
  have inv : AuthorityInvariant env s :=
    run_invariant (authorityInvariant_initial env l) (fun _ _ _ inv h => inv.step h) calls
  refine ⟨inv.authorised, ?_, ?_, accountsMatchLog_run env l calls, ?_⟩
  · intro c
    exact (inv.messages c).trans (inv.records.executions_le_one c)
  · intro t mem
    obtain ⟨pre, call, post⟩ := t
    have stepped : StepCases env pre call post := step_evaluates (step_of_mem_trace mem)
    cases stepped with
    | governance sysvar accounts instruction s' unsigned evaluates =>
      refine ⟨evaluates.frame, fun changed => ?_⟩
      -- nobody outside signs for `governance_config`, so a change is that of the operator
      rcases evaluates.config_external unsigned changed with fresh | ⟨config, stored, signed⟩
      · exact .inl fresh
      · exact .inr ⟨sysvar, accounts, instruction, config, rfl, stored,
          mem_signers_mergePrivileges.mp signed⟩
    | gateway call gateway processed =>
      exact ⟨⟨[], by simp, fun _ _ => rfl, fun _ _ => rfl⟩, fun changed => absurd rfl changed⟩
    | balances l =>
      exact ⟨⟨[], by simp, fun _ _ => rfl, fun _ _ => rfl⟩, fun changed => absurd rfl changed⟩
  · intro u sysvar accounts message payload cmdPayload target callData hash decoded unknown
    cases h : step env (.governance sysvar accounts (.execute message payload)) u with
    | error e => exact commit_error h
    | ok u' =>
      simp only [step, bind_eq_ok] at h
      obtain ⟨_, -, h⟩ := h
      exact absurd h (process_execute_invalid decoded unknown)

end AxelarSolana.Governance
