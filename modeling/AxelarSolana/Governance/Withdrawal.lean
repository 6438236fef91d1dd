import AxelarSolana.Governance.Timelock

/-! # Withdrawing a scheduled proposal

Scheduling may replace the time that the message asks for by a later one; cancelling compares the
time of its message with the one that is stored.

* **`executeChecks`** — the part of `execute` before its own instruction is called: what makes a
  message an authorised command.
* **`finalEta`** — the time at which a scheduling opens its proposal.
* **`execute_cancel_iff`** — an authorised cancellation closes the proposal exactly when it names
  the stored time.
* **`cancelling_undoes_scheduling`** — both joined. -/

namespace AxelarSolana.Governance

open Fallible Machine

/-! ## Authorised commands -/

/-- **An authorised command**: what `execute` knows when it turns to its own instruction. -/
structure AuthorisedCommand where
  config : GovernanceConfig
  accounts : ExecuteAccounts
  gateway : Gateway.GatewayState
  cmdPayload : GovernanceCommandPayload
  proposalHash : Bytes32

variable (env : Env)

/-- **The checks of `execute`** before it calls its own instruction. -/
def executeChecks (ctx : Ctx) (message : Message) (payload : Bytes) (s : World) :
    Except Error AuthorisedCommand := do
  let incoming ← s.gateway.loadIncoming (message.commandId env.toCrates)
  let signingPda ← ctx.account 1
  require (env.createProgramAddress (Gateway.ValidateMessageSigner.pdaSeeds
      (message.commandId env.toCrates) ++ [[incoming.signingPdaBump]]) env.governanceId
    = some signingPda.pubkey) (.anchor .constraintSeeds)
  let systemProgram ← ctx.account 5
  let payer ← ctx.account 6
  signer payer
  let governanceConfig ← ctx.account 7
  let config ← governanceConfigAccount env governanceConfig s
  let proposalPda ← ctx.account 8
  let operatorProposalPda ← ctx.account 9
  let governanceEventAuthority ← ctx.account 10
  let axelarGovernanceProgram ← ctx.account 11
  ensureAuthorizedGmpCommand env config message
  let gateway ← Gateway.validateMessageRaw env.toEnv ctx.sysvar signingPda.pubkey message payload
    s.gateway
  let (cmdPayload, _, _, proposalHash) ← calculateGmpContext env payload
  pure
    { config
      accounts :=
        { systemProgram, payer, governanceConfig, proposalPda, operatorProposalPda,
          governanceEventAuthority, axelarGovernanceProgram }
      gateway
      cmdPayload
      proposalHash }

variable {env} {ctx : Ctx} {message : Message} {payload : Bytes} {s s' : World}
  {command : AuthorisedCommand}

/-- `execute` makes its checks and then calls the function of the command. -/
theorem execute_eq_checks {invoke : Entry} : execute env invoke ctx message payload s = (do
    let command ← executeChecks env ctx message payload s
    let s' ← processProposalGmp invoke ctx message payload command.accounts command.proposalHash
      command.cmdPayload { s with gateway := command.gateway }
    pure (s'.setConfig command.config)) := by
  simp only [execute, executeChecks, bind_assoc, pure_bind]

/-- What the checks have read. -/
theorem executeChecks_ok (h : executeChecks env ctx message payload s = .ok command) :
    s.accounts.config = some command.config ∧
      configAddress env command.config.bump = some command.accounts.governanceConfig.pubkey ∧
      ∃ target callData, calculateGmpContext env payload
        = .ok (command.cmdPayload, target, callData, command.proposalHash) := by
  simp only [executeChecks, bind_eq_ok, governanceConfigAccount_eq_ok, pure_eq_ok] at h
  obtain ⟨incoming, -, signingPda, -, _, -, systemProgram, -, payer, -, _, -, a, -, config,
    ⟨stored, address⟩, proposalPda, -, operatorProposalPda, -, authority, -, program, -, _, -,
    gateway, -, ⟨cmdPayload, target, callData, hash⟩, decoded, rfl⟩ := h
  exact ⟨stored, address, target, callData, decoded⟩

/-! ## The time of a scheduling -/

/-- **The time at which a proposal opens**: the requested one, but no earlier than the delay after
the clock, which is read as an unsigned number. -/
def finalEta (sysvar : Sysvar) (delay : UInt32) (eta : U256) : Nat :=
  max eta.toNat (sysvar.unixTimestamp.toUInt64.toNat + delay.toNat)

/-- `at_least_default_eta_delay` takes the larger of the two times. -/
theorem toNat_atLeastDefaultEtaDelay {sysvar : Sysvar} {eta result : UInt64} {delay : UInt32}
    (h : atLeastDefaultEtaDelay sysvar eta delay = .ok result) :
    result.toNat = max eta.toNat (sysvar.unixTimestamp.toUInt64.toNat + delay.toNat) := by
  simp only [atLeastDefaultEtaDelay, bind_eq_ok, require_eq_ok, pure_eq_ok] at h
  obtain ⟨_, fits, rfl⟩ := h
  have minimum : (sysvar.unixTimestamp.toUInt64 + delay.toUInt64).toNat
      = sysvar.unixTimestamp.toUInt64.toNat + delay.toNat := by
    rw [UInt64.toNat_add, UInt32.toNat_toUInt64, Nat.mod_eq_of_lt fits]
  split
  case isTrue early =>
    rw [UInt64.lt_iff_toNat_lt, minimum] at early
    omega
  case isFalse late =>
    rw [UInt64.lt_iff_toNat_lt, minimum] at late
    omega

/-- **What an accepted scheduling stores.** -/
theorem scheduled_eta {depth : Nat} {cmdPayload : GovernanceCommandPayload} {target : Pubkey}
    {callData : ExecuteProposalCallData} {hash : Bytes32}
    (decoded : calculateGmpContext env payload = .ok (cmdPayload, target, callData, hash))
    (schedules : cmdPayload.command = .scheduleTimeLockProposal)
    (h : process env depth ctx (.execute message payload) s = .ok s') :
    ∃ config proposal, s.accounts.config = some config ∧
      s'.accounts.proposals hash = some proposal ∧
      proposal.eta.toNat = finalEta ctx.sysvar config.minimumProposalEtaDelay cmdPayload.eta := by
  cases depth with
  | zero => exact absurd h throw_ne_ok
  | succ depth =>
    obtain ⟨config, hash', accounts, instruction, gateway, s₁, accepted, called, rfl⟩ :=
      execute_ok h
    obtain ⟨cmdPayload', target', callData', decoded', dispatched⟩ := accepted.decoded
    rw [decoded] at decoded'
    cases decoded'
    obtain ⟨eta, nativeValue, callData, target, extracted, own⟩ := dispatched
    rw [schedules] at own
    subst own
    simp only [extractProposalData, bind_eq_ok, require_eq_ok, pure_eq_ok, Prod.mk.injEq]
      at extracted
    obtain ⟨_, fits, rfl, -⟩ := extracted
    obtain ⟨l, effect⟩ := (process_evaluates called).effect_of_leaf (by simp) (by
      rintro (_ | _) <;> simp [ExecutionKind.instruction])
    cases effect with
    | scheduleTimelockProposal hash eta nativeValue target callData config' proposal stored signed
        fresh delayed =>
      refine ⟨config', proposal, stored, ?_, ?_⟩
      · simp [World.setConfig, World.setProposal, World.withLamports]
      · rw [toNat_atLeastDefaultEtaDelay delayed, UInt64.toNat_ofNat', Nat.mod_eq_of_lt fits]
        rfl

/-! ## Cancelling -/

/-- **A cancellation signed by `governance_config`** for the account of a pending proposal compares
the two times, and closes the proposal when they are the same. -/
theorem cancelTimelockProposal_eq {a proposalPda : AccountMeta} {config : GovernanceConfig}
    {proposal : ExecutableProposal} {hash : Bytes32} {eta : UInt64}
    {nativeValue target callData : Bytes} (first : ctx.accounts[0]? = some a)
    (stored : s.accounts.config = some config)
    (address : configAddress env config.bump = some a.pubkey) (signed : a.isSigner = true)
    (second : ctx.accounts[1]? = some proposalPda)
    (pending : s.accounts.proposals hash = some proposal)
    (here : env.createProgramAddress (ExecutableProposal.pdaSeeds hash ++ [[proposal.bump]])
      env.governanceId = some proposalPda.pubkey) :
    cancelTimelockProposal env ctx hash eta nativeValue target callData s = (do
      require (eta = proposal.eta) GovernanceError.invalidArgument.err
      pure ((closeAccount proposalPda.pubkey a.pubkey ((s.record ctx (.emitted
        (.proposalCancelled hash target callData nativeValue eta))).setConfig config)).setProposal
          hash none)) := by
  have config : governanceConfigAccount env a s = pure config :=
    governanceConfigAccount_eq_ok.mpr ⟨stored, address⟩
  have proposal : proposalAccount env proposalPda hash s = pure proposal :=
    proposalAccount_eq_ok.mpr ⟨pending, here⟩
  have account : ctx.account 0 = pure a := Ctx.account_eq_ok.mpr first
  have account' : ctx.account 1 = pure proposalPda := Ctx.account_eq_ok.mpr second
  have signs : require (a.isSigner = true) (Error.anchor .constraintSigner) = pure () :=
    require_pos signed
  unfold cancelTimelockProposal
  simp only [account, config, signs, account', proposal, pure_bind]

/-- The time of a payload fits and is the given one. -/
theorem extractProposalData_eq_ok {cmdPayload : GovernanceCommandPayload} {eta : UInt64}
    {nativeValue callData target : Bytes} :
    extractProposalData cmdPayload = .ok (eta, nativeValue, callData, target) ↔
      cmdPayload.eta.toNat = eta.toNat ∧ nativeValue = (leBytes32 cmdPayload.nativeValue).toList ∧
        callData = cmdPayload.callData ∧ target = cmdPayload.target := by
  simp only [extractProposalData, bind_eq_ok, require_eq_ok, pure_eq_ok, Prod.mk.injEq]
  constructor
  · rintro ⟨_, fits, rfl, rfl, rfl, rfl⟩
    rw [UInt64.toNat_ofNat', Nat.mod_eq_of_lt fits]
    exact ⟨rfl, rfl, rfl, rfl⟩
  · rintro ⟨same, rfl, rfl, rfl⟩
    have fits : cmdPayload.eta.toNat < 2 ^ 64 := by
      rw [same]
      exact eta.toNat_lt
    refine ⟨(), fits, ?_, rfl, rfl, rfl⟩
    rw [same, UInt64.ofNat_toNat]

/-- What the entry point hands to a cancellation. -/
def cancelCtx (ctx : Ctx) (message : Message) (payload : Bytes) (a : ExecuteAccounts) : Ctx where
  sysvar := ctx.sysvar
  invoker := .gmp message payload
  accounts := [{ a.governanceConfig with isSigner := true }, a.proposalPda,
    a.governanceEventAuthority, a.axelarGovernanceProgram]

/-- An authorised cancellation is handed on with the data of its payload. -/
theorem execute_cancel_eq {depth : Nat}
    (authorised : executeChecks env ctx message payload s = .ok command)
    (cancels : command.cmdPayload.command = .cancelTimeLockProposal) :
    process env (depth + 2) ctx (.execute message payload) s = (do
      let (eta, nativeValue, callData, target) ← extractProposalData command.cmdPayload
      let s' ← cancelTimelockProposal env (cancelCtx ctx message payload command.accounts)
        command.proposalHash eta nativeValue target callData { s with gateway := command.gateway }
      pure (s'.setConfig command.config)) := by
  have authorised : executeChecks env ctx message payload s = pure command := authorised
  change execute env (process env (depth + 1)) ctx message payload s = _
  rw [execute_eq_checks, authorised, pure_bind, processProposalGmp, cancels, bind_assoc]
  rfl

/-- **An authorised cancellation of a pending proposal** succeeds exactly when it names the stored
time, and closes the proposal. -/
theorem execute_cancel_iff {depth : Nat} {proposal : ExecutableProposal}
    (authorised : executeChecks env ctx message payload s = .ok command)
    (cancels : command.cmdPayload.command = .cancelTimeLockProposal)
    (pending : s.accounts.proposals command.proposalHash = some proposal)
    (here : env.createProgramAddress
      (ExecutableProposal.pdaSeeds command.proposalHash ++ [[proposal.bump]]) env.governanceId
        = some command.accounts.proposalPda.pubkey) :
    (∃ s', process env (depth + 2) ctx (.execute message payload) s = .ok s' ∧
      s'.accounts = { s.accounts with
        proposals := Function.update s.accounts.proposals command.proposalHash none }) ↔
    command.cmdPayload.eta.toNat = proposal.eta.toNat := by
  obtain ⟨stored, address, -⟩ := executeChecks_ok authorised
  -- the cancellation itself always succeeds here, so the extraction of the data decides
  have cancelled := fun eta nativeValue target callData => @cancelTimelockProposal_eq env
    (cancelCtx ctx message payload command.accounts) { s with gateway := command.gateway } _ _ _ _ _
    eta nativeValue target callData rfl stored address rfl rfl pending here
  simp only [execute_cancel_eq authorised cancels, cancelled]
  constructor
  · rintro ⟨s', ran, -⟩
    simp only [bind_eq_ok, require_eq_ok] at ran
    obtain ⟨⟨eta, nativeValue, callData, target⟩, extracted, _, ⟨_, same, -⟩, -⟩ := ran
    have same : eta = proposal.eta := same
    rw [← same]
    exact (extractProposalData_eq_ok.mp extracted).1
  · intro same
    have extracted := extractProposalData_eq_ok.mpr ⟨same, rfl, rfl, rfl⟩
    refine ⟨_, bind_eq_ok.mpr ⟨_, extracted, bind_eq_ok.mpr ⟨_, bind_eq_ok.mpr
      ⟨(), require_pos rfl, rfl⟩, rfl⟩⟩, ?_⟩
    simp only [World.setConfig, World.setProposal, closeAccount, World.moveLamports, World.record]
    rw [stored]

/-- The hash of a proposal is that of its target, call data and native value. -/
theorem proposalHash_eq {payload' : Bytes} {P P' : GovernanceCommandPayload}
    {target target' : Pubkey} {callData callData' : ExecuteProposalCallData} {hash hash' : Bytes32}
    (decoded : calculateGmpContext env payload = .ok (P, target, callData, hash))
    (decoded' : calculateGmpContext env payload' = .ok (P', target', callData', hash'))
    (targets : P'.target = P.target) (calls : P'.callData = P.callData)
    (values : P'.nativeValue = P.nativeValue) : hash' = hash := by
  simp only [calculateGmpContext, bind_eq_ok, okOr_eq_ok, pure_eq_ok, Prod.mk.injEq]
    at decoded decoded'
  obtain ⟨_, -, target₁, read, callData₁, read₁, hash₁, hashed, rfl, -, -, rfl⟩ := decoded
  obtain ⟨_, -, target₂, read', callData₂, read₁', hash₂, hashed', rfl, -, -, rfl⟩ := decoded'
  rw [targets, read] at read'
  cases read'
  rw [calls, read₁] at read₁'
  cases read₁'
  rw [values, hashed] at hashed'
  exact (Except.ok.inj hashed').symm

/-- **Cancelling undoes scheduling, by the time that was stored.** While a scheduled proposal is
pending, an authorised cancellation with its target, call data and native value closes it exactly
when it names the later of the requested time and the delay after the clock; so the time that was
requested serves exactly when it was not replaced. -/
theorem cancelling_undoes_scheduling (env : Env) {depth depth' : Nat} {ctx ctx' : Ctx}
    {message message' : Message} {payload payload' : Bytes} {s s' t : World}
    {P : GovernanceCommandPayload} {target : Pubkey} {callData : ExecuteProposalCallData}
    {hash : Bytes32} {command : AuthorisedCommand}
    (decoded : calculateGmpContext env payload = .ok (P, target, callData, hash))
    (schedules : P.command = .scheduleTimeLockProposal)
    (scheduled : process env depth ctx (.execute message payload) s = .ok s')
    (pending : t.accounts.proposals hash = s'.accounts.proposals hash)
    (authorised : executeChecks env ctx' message' payload' t = .ok command)
    (cancels : command.cmdPayload.command = .cancelTimeLockProposal)
    (targets : command.cmdPayload.target = P.target)
    (calls : command.cmdPayload.callData = P.callData)
    (values : command.cmdPayload.nativeValue = P.nativeValue)
    (here : ∀ proposal, t.accounts.proposals hash = some proposal →
      env.createProgramAddress (ExecutableProposal.pdaSeeds hash ++ [[proposal.bump]])
        env.governanceId = some command.accounts.proposalPda.pubkey) :
    ∃ config, s.accounts.config = some config ∧
      ((∃ t', process env (depth' + 2) ctx' (.execute message' payload') t = .ok t' ∧
          t'.accounts = { t.accounts with
            proposals := Function.update t.accounts.proposals hash none }) ↔
        command.cmdPayload.eta.toNat =
          finalEta ctx.sysvar config.minimumProposalEtaDelay P.eta) ∧
      (command.cmdPayload.eta = P.eta →
        ((∃ t', process env (depth' + 2) ctx' (.execute message' payload') t = .ok t' ∧
            t'.accounts = { t.accounts with
              proposals := Function.update t.accounts.proposals hash none }) ↔
          ctx.sysvar.unixTimestamp.toUInt64.toNat + config.minimumProposalEtaDelay.toNat
            ≤ P.eta.toNat)) := by
  obtain ⟨config, proposal, stored, opened, eta⟩ := scheduled_eta decoded schedules scheduled
  obtain ⟨-, -, _, _, decoded'⟩ := executeChecks_ok authorised
  -- both payloads name the same call, so they are hashed to the same proposal
  have hashes : command.proposalHash = hash :=
    proposalHash_eq decoded decoded' targets calls values
  have waiting := pending.trans opened
  subst hashes
  have decides : (∃ t', process env (depth' + 2) ctx' (.execute message' payload') t = .ok t' ∧
      t'.accounts = { t.accounts with
        proposals := Function.update t.accounts.proposals command.proposalHash none }) ↔
      command.cmdPayload.eta.toNat = proposal.eta.toNat :=
    execute_cancel_iff authorised cancels waiting (here proposal waiting)
  rw [eta] at decides
  refine ⟨config, stored, decides, fun own => decides.trans ?_⟩
  rw [own, finalEta]
  omega

/-! ## A sample proposal

It is scheduled at time 200 with the time 0, which is replaced by 3800. -/

/-- The accounts that a call of governance is given. -/
def Call.accounts : Call → List AccountMeta
  | .governance _ accounts _ => accounts
  | _ => []

/-- What a sample command is called with. -/
def sampleCtx (time : Int64) (id : String) (command : UInt8) (eta : Nat) : Ctx where
  sysvar := sampleSysvarAt time
  invoker := .external
  accounts := mergePrivileges ((sampleCommand time id command eta).flatMap Call.accounts)

/-- The message of the sample scheduling is approved. -/
def sampleScheduleApproved : World :=
  run (step sampleEnv) (World.initial fun _ => 0) (sampleStart ++ (sampleCommand 200 "1" 0 0).take 1)

/-- The sample proposal is scheduled, and a cancellation with a time is approved. -/
def samplePending (eta : Nat) : World :=
  run (step sampleEnv) (World.initial fun _ => 0)
    (sampleStart ++ sampleCommand 200 "1" 0 0 ++ (sampleCommand 300 "2" 1 eta).take 1)

/-- The payload of a sample command. -/
def sampleCmdPayload (command : GovernanceCommand) (eta : Nat) : GovernanceCommandPayload where
  command
  target := sampleProposal.targetAddress.toList
  callData := (ExecuteProposalCallData.codec.encode sampleProposal.callData).getD []
  nativeValue := 0
  eta := BitVec.ofNat 256 eta

/-- The payload of the sample decodes to its command and its proposal. -/
theorem sample_decoded : calculateGmpContext sampleEnv (samplePayload 0 0) =
    .ok (sampleCmdPayload .scheduleTimeLockProposal 0, sampleProposal.targetAddress,
      sampleProposal.callData, sampleHash) := by
  decide +kernel

/-- The sample scheduling stores the time 3800. -/
theorem sample_scheduled : ∃ s', process sampleEnv 5 (sampleCtx 200 "1" 0 0)
    (.execute (sampleMessage "1" (samplePayload 0 0)) (samplePayload 0 0)) sampleScheduleApproved
      = .ok s' ∧ s'.accounts.proposals sampleHash = some ⟨3800, 255, 255⟩ := by
  have stored : (process sampleEnv 5 (sampleCtx 200 "1" 0 0)
      (.execute (sampleMessage "1" (samplePayload 0 0)) (samplePayload 0 0)) sampleScheduleApproved).map
        (fun s' => s'.accounts.proposals sampleHash) = .ok (some ⟨3800, 255, 255⟩) := by
    decide +kernel
  exact map_eq_ok.mp stored

/-- A sample cancellation is authorised, by the time that was asked for or by the one that is
stored. -/
theorem sample_authorised {eta : Nat} (h : eta = 0 ∨ eta = 3800) : ∃ command,
    executeChecks sampleEnv (sampleCtx 300 "2" 1 eta) (sampleMessage "2" (samplePayload 1 eta))
      (samplePayload 1 eta) (samplePending eta) = .ok command ∧
    command.cmdPayload = sampleCmdPayload .cancelTimeLockProposal eta ∧
    command.accounts.proposalPda.pubkey = sampleKey (ExecutableProposal.pdaSeeds sampleHash) := by
  have read : (executeChecks sampleEnv (sampleCtx 300 "2" 1 eta)
      (sampleMessage "2" (samplePayload 1 eta)) (samplePayload 1 eta) (samplePending eta)).map
        (fun command => (command.cmdPayload, command.accounts.proposalPda.pubkey)) =
      .ok (sampleCmdPayload .cancelTimeLockProposal eta,
        sampleKey (ExecutableProposal.pdaSeeds sampleHash)) := by
    rcases h with rfl | rfl <;> decide +kernel
  obtain ⟨command, passed, same⟩ := map_eq_ok.mp read
  obtain ⟨payload, account⟩ := Prod.mk.inj same
  exact ⟨command, passed, payload, account⟩

/-- The sample proposal is pending when the cancellation arrives. -/
theorem sample_pending {eta : Nat} (h : eta = 0 ∨ eta = 3800) :
    (samplePending eta).accounts.proposals sampleHash = some ⟨3800, 255, 255⟩ := by
  rcases h with rfl | rfl <;> decide +kernel

/-- The sample proposal, scheduled for the time 0, cannot be cancelled with the time 0. -/
theorem not_cancelling_undoes_scheduling :
    ¬ ∀ (env : Env) (depth depth' : Nat) (ctx ctx' : Ctx) (message message' : Message)
      (payload payload' : Bytes) (s s' t : World) (P : GovernanceCommandPayload) (target : Pubkey)
      (callData : ExecuteProposalCallData) (hash : Bytes32) (command : AuthorisedCommand),
      calculateGmpContext env payload = .ok (P, target, callData, hash) →
      P.command = .scheduleTimeLockProposal →
      process env depth ctx (.execute message payload) s = .ok s' →
      t.accounts.proposals hash = s'.accounts.proposals hash →
      executeChecks env ctx' message' payload' t = .ok command →
      command.cmdPayload = { P with command := .cancelTimeLockProposal } →
      (∀ proposal, t.accounts.proposals hash = some proposal →
        env.createProgramAddress (ExecutableProposal.pdaSeeds hash ++ [[proposal.bump]])
          env.governanceId = some command.accounts.proposalPda.pubkey) →
      ∃ t', process env (depth' + 2) ctx' (.execute message' payload') t = .ok t' ∧
        t'.accounts = { t.accounts with
          proposals := Function.update t.accounts.proposals hash none } := by
  intro undoes
  obtain ⟨s', scheduled, opened⟩ := sample_scheduled
  obtain ⟨command, authorised, payload, account⟩ := sample_authorised (.inl rfl)
  have pending := sample_pending (.inl rfl)
  have hashes : command.proposalHash = sampleHash := by
    obtain ⟨-, -, _, _, decoded⟩ := executeChecks_ok authorised
    exact proposalHash_eq sample_decoded decoded (by rw [payload]; rfl) (by rw [payload]; rfl)
      (by rw [payload]; rfl)
  have here : sampleEnv.createProgramAddress (ExecutableProposal.pdaSeeds sampleHash ++ [[255]])
      sampleEnv.governanceId = some command.accounts.proposalPda.pubkey := by
    rw [account]
    rfl
  have closed := undoes sampleEnv 5 3 _ _ _ _ _ _ _ _ _ _ _ _ _ command sample_decoded rfl
    scheduled (pending.trans opened.symm) authorised payload (by
      intro proposal stored
      rw [pending] at stored
      cases stored
      exact here)
  rw [← hashes] at closed pending here
  have same := (execute_cancel_iff authorised (by rw [payload]; rfl) pending here).mp closed
  rw [payload] at same
  exact absurd same (by decide)

/-- With the time 3800 it can. -/
theorem cancelling_undoes_scheduling_sample :
    ∃ t', process sampleEnv 5 (sampleCtx 300 "2" 1 3800)
        (.execute (sampleMessage "2" (samplePayload 1 3800)) (samplePayload 1 3800))
        (samplePending 3800) = .ok t' ∧
      t'.accounts = { (samplePending 3800).accounts with
        proposals := Function.update (samplePending 3800).accounts.proposals sampleHash none } := by
  obtain ⟨s', scheduled, opened⟩ := sample_scheduled
  obtain ⟨command, authorised, payload, account⟩ := sample_authorised (.inr rfl)
  have pending := sample_pending (.inr rfl)
  obtain ⟨config, stored, closes, -⟩ := @cancelling_undoes_scheduling sampleEnv _ 3 _ _ _ _ _ _ _ _ _
    _ _ _ _ _ sample_decoded rfl scheduled (pending.trans opened.symm) authorised (by rw [payload]; rfl)
    (by rw [payload]; rfl) (by rw [payload]; rfl) (by rw [payload]; rfl) (by
      intro proposal waiting
      rw [pending] at waiting
      cases waiting
      rw [account]
      rfl)
  refine closes.mpr ?_
  have delay : config.minimumProposalEtaDelay = 3600 := by
    have read : sampleScheduleApproved.accounts.config.map GovernanceConfig.minimumProposalEtaDelay
      = some 3600 := by decide +kernel
    rw [stored] at read
    exact Option.some.inj read
  rw [payload, delay]
  decide +kernel

end AxelarSolana.Governance
