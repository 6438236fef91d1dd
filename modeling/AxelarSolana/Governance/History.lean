import AxelarSolana.Governance.Evaluation
import AxelarSolana.Gateway.MessageLifecycle
import AxelarSolana.Library.History

/-! # The history of governance

What an evaluation does to the log, the accounts and the gateway, and what the accounts therefore
hold after any run.

* **`LogEvent.proposal?`**, **`LogEvent.marker?`** — the proposal account or operator marker that an
  event opens or closes; **`LogEvent.command?`** — the command it carries out.
* **`Evaluates.frame`**, **`Evaluates.gateway_steps`** — the log only grows, an account changes only
  with an entry for it, and the gateway only moves by its own instructions.
* **`AccountsMatchLog`** — the accounts are those that the log stands for.
* **`step_evaluates`** — a committed call evaluates one instruction, moves the gateway, or changes
  balances. -/

namespace AxelarSolana.Governance

open Fallible Machine History

/-! ## What an event stands for -/

namespace LogEvent

/-- The proposal account that an event opens or closes. -/
def proposal? : LogEvent → Option Bytes32
  | .emitted (.proposalScheduled hash _ _ _ _) => some hash
  | .emitted (.proposalCancelled hash _ _ _ _) => some hash
  | .emitted (.proposalExecuted hash _ _ _ _) => some hash
  | .emitted (.operatorProposalExecuted hash _ _ _) => some hash
  | _ => none

/-- The time a proposal is opened with. -/
def eta? : LogEvent → Option UInt64
  | .emitted (.proposalScheduled _ _ _ _ eta) => some eta
  | _ => none

/-- The operator marker that an event opens or closes. -/
def marker? : LogEvent → Option Bytes32
  | .emitted (.operatorProposalApproved hash _ _ _) => some hash
  | .emitted (.operatorProposalCancelled hash _ _ _) => some hash
  | .emitted (.operatorProposalExecuted hash _ _ _) => some hash
  | _ => none

/-- Whether an event opens a marker. -/
def approves : LogEvent → Bool
  | .emitted (.operatorProposalApproved _ _ _ _) => true
  | _ => false

/-- The command that an event carries out, with its proposal hash. -/
def command? : LogEvent → Option (GovernanceCommand × Bytes32)
  | .emitted (.proposalScheduled hash _ _ _ _) => some (.scheduleTimeLockProposal, hash)
  | .emitted (.proposalCancelled hash _ _ _ _) => some (.cancelTimeLockProposal, hash)
  | .emitted (.operatorProposalApproved hash _ _ _) => some (.approveOperatorProposal, hash)
  | .emitted (.operatorProposalCancelled hash _ _ _) => some (.cancelOperatorApproval, hash)
  | _ => none

/-- An event of a command concerns the proposal account of no other hash. -/
theorem proposal?_of_command? {e : LogEvent} {command : GovernanceCommand} {hash hash' : Bytes32}
    (h : e.command? = some (command, hash)) (h' : e.proposal? = some hash') : hash' = hash := by
  unfold command? at h
  split at h <;> simp_all [proposal?]

end LogEvent

/-- The entry opens or closes the proposal account of a hash. -/
def LogEntry.isOfProposal (hash : Bytes32) (e : LogEntry) : Bool := e.event.proposal? = some hash

/-- The entry opens or closes the operator marker of a hash. -/
def LogEntry.isOfMarker (hash : Bytes32) (e : LogEntry) : Bool := e.event.marker? = some hash

/-! ## Runs of evaluations -/

variable {env : Env} {ctx : Ctx} {instruction : GovernanceInstruction} {s s' : World}

/-- The event and the accounts that an evaluation step leaves: one entry, and at each hash either
nothing or what the entry stands for. -/
structure Logged (ctx : Ctx) (e : LogEvent) (s s' : World) : Prop where
  log : s'.log = s.log ++ [s.entry ctx e]
  gateway : s'.gateway = s.gateway
  proposals : ∀ h, if e.proposal? = some h
    then (s'.accounts.proposals h).map ExecutableProposal.eta = e.eta?
    else s'.accounts.proposals h = s.accounts.proposals h
  operatorProposals : ∀ h, s'.accounts.operatorProposals h =
    if e.marker? = some h then e.approves else s.accounts.operatorProposals h

/-- The entry determines the event. -/
theorem Logged.event_eq {e e' : LogEvent} (h : Logged ctx e s s')
    (log : s'.log = s.log ++ [s.entry ctx e']) : e = e' :=
  congrArg LogEntry.event (List.singleton_inj.mp (List.append_cancel_left (h.log.symm.trans log)))

/-- An entry that concerns no account. -/
theorem logged_of_accounts {e : LogEvent} (log : s'.log = s.log ++ [s.entry ctx e])
    (gateway : s'.gateway = s.gateway)
    (proposals : s'.accounts.proposals = s.accounts.proposals)
    (operatorProposals : s'.accounts.operatorProposals = s.accounts.operatorProposals)
    (noProposal : e.proposal? = none) (noMarker : e.marker? = none) : Logged ctx e s s' where
  log
  gateway
  proposals h := by rw [if_neg (by simp [noProposal]), proposals]
  operatorProposals h := by rw [if_neg (by simp [noMarker]), operatorProposals]

/-- Every instruction without calls leaves one entry. -/
theorem Effect.logged {l : Pubkey → Nat} (h : Effect env ctx s l instruction s') :
    ∃ e, Logged ctx e s s' := by
  cases h with
  | initializeConfig | updateConfig | transferOperatorship | withdrawTokens =>
    exact ⟨_, logged_of_accounts rfl rfl rfl rfl rfl rfl⟩
  | scheduleTimelockProposal hash eta nativeValue target callData config proposal =>
    refine ⟨_, rfl, rfl, fun h => ?_, fun h => rfl⟩
    by_cases same : hash = h
    · subst same
      simp [LogEvent.proposal?, LogEvent.eta?, World.setProposal]
    · simp [LogEvent.proposal?, World.setProposal, same, Ne.symm same]
  | cancelTimelockProposal hash nativeValue target callData config proposal =>
    refine ⟨_, rfl, rfl, fun h => ?_, fun h => rfl⟩
    by_cases same : hash = h
    · subst same
      simp [LogEvent.proposal?, LogEvent.eta?, World.setProposal]
    · simp [LogEvent.proposal?, World.setProposal, same, Ne.symm same]
  | approveOperatorProposal hash nativeValue target callData config proposal =>
    refine ⟨_, rfl, rfl, fun h => rfl, fun h => ?_⟩
    by_cases same : hash = h
    · subst same
      simp [LogEvent.marker?, LogEvent.approves, World.setOperatorProposal]
    · simp [LogEvent.marker?, World.setOperatorProposal, same, Ne.symm same]
  | cancelOperatorProposal hash nativeValue target callData config proposal =>
    refine ⟨_, rfl, rfl, fun h => rfl, fun h => ?_⟩
    by_cases same : hash = h
    · subst same
      simp [LogEvent.marker?, LogEvent.approves, World.setOperatorProposal]
    · simp [LogEvent.marker?, World.setOperatorProposal, same, Ne.symm same]

/-- So does the beginning of an execution. -/
theorem ExecutionKind.beginning_logged (kind : ExecutionKind) (ctx : Ctx) (hash : Bytes32)
    (data : ExecuteProposalData) (s : World) :
    Logged ctx (kind.began hash data) s (kind.beginning ctx hash data s) := by
  cases kind <;> exact logged_of_accounts rfl rfl rfl rfl rfl rfl

/-- And so does its end. -/
theorem ExecutionKind.ending_logged (kind : ExecutionKind) (ctx : Ctx) (hash : Bytes32)
    (data : ExecuteProposalData) (config : GovernanceConfig) (eta : UInt64) (s : World) :
    Logged ctx (.emitted (kind.executed hash data eta)) s
      (kind.ending ctx hash data config eta s) := by
  cases kind with
  | timelock =>
    refine ⟨rfl, rfl, fun h => ?_, fun h => rfl⟩
    by_cases same : hash = h
    · subst same
      simp [ending, close, executed, LogEvent.proposal?, LogEvent.eta?, World.setProposal]
    · simp [ending, close, executed, LogEvent.proposal?, World.setProposal, World.setConfig, same,
        Ne.symm same]
  | operator =>
    refine ⟨rfl, rfl, fun h => ?_, fun h => ?_⟩
    · by_cases same : hash = h
      · subst same
        simp [ending, close, executed, LogEvent.proposal?, LogEvent.eta?, World.setProposal,
          World.setOperatorProposal]
      · simp [ending, close, executed, LogEvent.proposal?, World.setProposal, World.setConfig,
          World.setOperatorProposal, same, Ne.symm same]
    · by_cases same : hash = h
      · subst same
        simp [ending, close, executed, LogEvent.marker?, LogEvent.approves,
          World.setOperatorProposal]
      · simp [ending, close, executed, LogEvent.marker?, World.setProposal, World.setConfig,
          World.setOperatorProposal, same, Ne.symm same]

/-- **What a stretch of the log leaves alone**: the accounts of every hash that none of its entries
concerns. -/
structure Frame (s s' : World) (entries : List LogEntry) : Prop where
  log : s'.log = s.log ++ entries
  proposals : ∀ h, (∀ e ∈ entries, e.event.proposal? ≠ some h) →
    s'.accounts.proposals h = s.accounts.proposals h
  operatorProposals : ∀ h, (∀ e ∈ entries, e.event.marker? ≠ some h) →
    s'.accounts.operatorProposals h = s.accounts.operatorProposals h

/-- Frames compose, and so do their entries. -/
theorem Frame.trans {s'' : World} {entries entries' : List LogEntry} (first : Frame s s' entries)
    (second : Frame s' s'' entries') : Frame s s'' (entries ++ entries') where
  log := by rw [second.log, first.log, List.append_assoc]
  proposals h untouched := by
    rw [second.proposals h fun e mem => untouched e (List.mem_append_right _ mem),
      first.proposals h fun e mem => untouched e (List.mem_append_left _ mem)]
  operatorProposals h untouched := by
    rw [second.operatorProposals h fun e mem => untouched e (List.mem_append_right _ mem),
      first.operatorProposals h fun e mem => untouched e (List.mem_append_left _ mem)]

/-- A step that only logs an event has the frame of this one entry. -/
theorem Logged.frame {e : LogEvent} (h : Logged ctx e s s') : Frame s s' [s.entry ctx e] where
  log := h.log
  proposals hash untouched := by
    have other : ¬ e.proposal? = some hash := untouched _ List.mem_cons_self
    have after := h.proposals hash
    rw [if_neg other] at after
    exact after
  operatorProposals hash untouched := by
    have other : ¬ e.marker? = some hash := untouched _ List.mem_cons_self
    rw [h.operatorProposals hash, if_neg other]

/-- **An evaluation only appends to the log**, and changes no account that the new entries do not
concern. -/
theorem Evaluates.frame (h : Evaluates env ctx instruction s s') :
    ∃ entries, Frame s s' entries := by
  induction h with
  | effect l effect =>
    obtain ⟨e, logged⟩ := effect.logged
    exact ⟨_, logged.frame⟩
  | execute accepted inner ih =>
    obtain ⟨entries, frame⟩ := ih
    exact ⟨entries, frame.log, frame.proposals, frame.operatorProposals⟩
  | @proposal kind ctx data hash config key proposal s s₁ instruction l l' begins _ _ _ inner ih =>
    obtain ⟨entries, frame⟩ := ih
    have first := (kind.beginning_logged ctx hash data s).frame
    have call : Frame (kind.beginning ctx hash data s) s₁ entries :=
      ⟨frame.log, frame.proposals, frame.operatorProposals⟩
    have last := (kind.ending_logged ctx hash data config proposal.eta s₁).frame
    have whole := first.trans (call.trans last)
    exact ⟨_, whole.log, whole.proposals, whole.operatorProposals⟩
  | @external kind ctx data hash config key proposal s gateway l begins _ calls =>
    have first := (kind.beginning_logged ctx hash data s).frame
    have call : Frame s { kind.beginning ctx hash data s with gateway } _ :=
      ⟨first.log, first.proposals, first.operatorProposals⟩
    have last := (kind.ending_logged ctx hash data config proposal.eta
      { kind.beginning ctx hash data s with gateway }).frame
    have whole := call.trans last
    exact ⟨_, whole.log, whole.proposals, whole.operatorProposals⟩

/-- The log only grows. -/
theorem Evaluates.log_prefix (h : Evaluates env ctx instruction s s') : s.log <+: s'.log := by
  obtain ⟨entries, frame⟩ := h.frame
  exact ⟨entries, frame.log.symm⟩

/-- A validated message is one step of the gateway. -/
theorem Accepted.gateway_step {message : Message} {payload : Bytes} {config : GovernanceConfig}
    {hash : Bytes32} {accounts : List AccountMeta} {gateway : Gateway.GatewayState}
    (h : Accepted env ctx message payload config hash accounts instruction s gateway) :
    ∃ key, env.keccak payload = message.payloadHash ∧
      Gateway.process env.toEnv ⟨ctx.sysvar, .validateMessage
        ⟨message.commandId env.toCrates, ⟨key, true⟩⟩ message⟩ s.gateway = .ok gateway := by
  obtain ⟨key, validated⟩ := h.validated
  simp only [Gateway.validateMessageRaw, bind_eq_ok, require_eq_ok] at validated
  obtain ⟨_, hash, validated⟩ := validated
  exact ⟨key, hash, validated⟩

/-- **The gateway only moves by its own instructions.** -/
theorem Evaluates.gateway_steps (h : Evaluates env ctx instruction s s') :
    Steps (Gateway.process env.toEnv) s.gateway s'.gateway := by
  induction h with
  | effect l effect =>
    obtain ⟨e, logged⟩ := effect.logged
    rw [logged.gateway]
    exact .refl
  | execute accepted inner ih =>
    obtain ⟨key, -, validated⟩ := accepted.gateway_step
    exact .head ⟨_, validated⟩ ih
  | @proposal kind ctx data hash config key proposal s s₁ instruction l l' begins _ _ _ inner ih =>
    rw [World.withLamports_gateway, (kind.ending_logged ..).gateway]
    exact ih
  | @external kind ctx data hash config key proposal s gateway l begins _ calls =>
    rw [World.withLamports_gateway, (kind.ending_logged ..).gateway]
    exact calls

/-! ## Commands -/

/-- An instruction that is neither the GMP entry point nor an execution calls no other. -/
theorem Evaluates.effect_of_leaf (h : Evaluates env ctx instruction s s')
    (noMessage : ∀ message payload, instruction ≠ .execute message payload)
    (noExecution : ∀ (kind : ExecutionKind) data, instruction ≠ kind.instruction data) :
    ∃ l, Effect env ctx s l instruction s' := by
  cases h with
  | effect l effect => exact ⟨l, effect⟩
  | execute => exact absurd rfl (noMessage _ _)
  | proposal => exact absurd rfl (noExecution _ _)
  | external => exact absurd rfl (noExecution _ _)

/-- What a command calls is such an instruction, and leaves the entry of that command. -/
theorem Dispatches.effect {cmdPayload : GovernanceCommandPayload} {hash : Bytes32}
    (dispatched : Dispatches cmdPayload hash instruction)
    (h : Evaluates env ctx instruction s s') :
    ∃ e, e.command? = some (cmdPayload.command, hash) ∧ Logged ctx e s s' := by
  obtain ⟨eta, nativeValue, callData, target, -, called⟩ := dispatched
  have leaf : (∀ message payload, instruction ≠ .execute message payload) ∧
      ∀ (kind : ExecutionKind) data, instruction ≠ kind.instruction data := by
    constructor
    · rintro message payload rfl
      split at called <;> simp at called
    · rintro kind data rfl
      cases kind <;> split at called <;> simp [ExecutionKind.instruction] at called
  obtain ⟨l, effect⟩ := h.effect_of_leaf leaf.1 leaf.2
  obtain ⟨e, logged⟩ := effect.logged
  cases hc : cmdPayload.command with
  | invalid =>
    rw [hc] at called
    exact called.elim
  | scheduleTimeLockProposal | cancelTimeLockProposal | approveOperatorProposal
  | cancelOperatorApproval =>
    rw [hc] at called
    subst called
    cases effect
    all_goals
      obtain rfl := logged.event_eq rfl
      exact ⟨_, rfl, logged⟩

/-! ## Accounts and log -/

/-- The time of the proposal that the log leaves open at a hash. -/
def openEta (hash : Bytes32) (log : List LogEntry) : Option UInt64 :=
  (last? (LogEntry.isOfProposal hash) log).bind fun e => e.event.eta?

/-- Whether the log leaves an operator marker open at a hash. -/
def openMarker (hash : Bytes32) (log : List LogEntry) : Bool :=
  (last? (LogEntry.isOfMarker hash) log).any fun e => e.event.approves

/-- **The accounts are those that the log stands for.** -/
structure AccountsMatchLog (s : World) : Prop where
  proposals : ∀ h, (s.accounts.proposals h).map ExecutableProposal.eta = openEta h s.log
  operatorProposals : ∀ h, s.accounts.operatorProposals h = openMarker h s.log

/-- At the start there are no accounts and no entries. -/
theorem accountsMatchLog_initial (l : Pubkey → Nat) : AccountsMatchLog (World.initial l) :=
  ⟨fun _ => rfl, fun _ => rfl⟩

/-- The configuration, balances and the gateway do not matter. -/
theorem AccountsMatchLog.congr (inv : AccountsMatchLog s) (log : s'.log = s.log)
    (proposals : s'.accounts.proposals = s.accounts.proposals)
    (operatorProposals : s'.accounts.operatorProposals = s.accounts.operatorProposals) :
    AccountsMatchLog s' where
  proposals h := by rw [proposals, log, inv.proposals h]
  operatorProposals h := by rw [operatorProposals, log, inv.operatorProposals h]

/-- One entry keeps accounts and log together. -/
theorem AccountsMatchLog.logged {e : LogEvent} (inv : AccountsMatchLog s)
    (h : Logged ctx e s s') : AccountsMatchLog s' where
  proposals hash := by
    have after := h.proposals hash
    rw [h.log, openEta]
    by_cases same : e.proposal? = some hash
    · rw [if_pos same] at after
      rw [last?_append_pos (by simp [LogEntry.isOfProposal, same]), after]
      rfl
    · rw [if_neg same] at after
      rw [last?_append_neg (by simp [LogEntry.isOfProposal, same]), after]
      exact inv.proposals hash
  operatorProposals hash := by
    have after := h.operatorProposals hash
    rw [h.log, openMarker]
    by_cases same : e.marker? = some hash
    · rw [if_pos same] at after
      rw [last?_append_pos (by simp [LogEntry.isOfMarker, same]), after]
      rfl
    · rw [if_neg same] at after
      rw [last?_append_neg (by simp [LogEntry.isOfMarker, same]), after]
      exact inv.operatorProposals hash

/-- **Evaluations keep accounts and log together.** -/
theorem AccountsMatchLog.evaluates (inv : AccountsMatchLog s)
    (h : Evaluates env ctx instruction s s') : AccountsMatchLog s' := by
  induction h with
  | effect l effect =>
    obtain ⟨e, logged⟩ := effect.logged
    exact inv.logged logged
  | execute accepted inner ih => exact (ih (inv.congr rfl rfl rfl)).congr rfl rfl rfl
  | @proposal kind ctx data hash config key proposal s s₁ instruction l l' begins _ _ _ inner ih =>
    have before := inv.logged (kind.beginning_logged ctx hash data s)
    have after := ih (before.congr rfl rfl rfl)
    exact (after.logged (kind.ending_logged ctx hash data config proposal.eta s₁)).congr rfl rfl rfl
  | @external kind ctx data hash config key proposal s gateway l begins _ calls =>
    have before := inv.logged (kind.beginning_logged ctx hash data s)
    have after : AccountsMatchLog { kind.beginning ctx hash data s with gateway } :=
      before.congr rfl rfl rfl
    exact (after.logged (kind.ending_logged ctx hash data config proposal.eta _)).congr rfl rfl rfl

/-- The proposal that is pending at a hash was opened by the last entry of that hash. -/
theorem AccountsMatchLog.opened (inv : AccountsMatchLog s) {hash : Bytes32}
    {p : ExecutableProposal} (pending : s.accounts.proposals hash = some p) :
    ∃ e, last? (LogEntry.isOfProposal hash) s.log = some e ∧ e.event.eta? = some p.eta := by
  have h := inv.proposals hash
  rw [pending, Option.map_some, openEta] at h
  exact Option.bind_eq_some_iff.mp h.symm

/-- The marker that stands at a hash was opened by the last entry of that marker. -/
theorem AccountsMatchLog.approved (inv : AccountsMatchLog s) {hash : Bytes32}
    (marked : s.accounts.operatorProposals hash = true) :
    ∃ e, last? (LogEntry.isOfMarker hash) s.log = some e ∧ e.event.approves = true := by
  have h := inv.operatorProposals hash
  rw [marked, openMarker] at h
  exact (Option.any_eq_true _ _).mp h.symm

/-! ## Runs -/

/-- An address created for `governance_config` is recognised as such. -/
theorem isConfigAddress_of_configAddress {bump : UInt8} {key : Pubkey}
    (h : configAddress env bump = some key) : isConfigAddress env key = true := by
  refine List.any_eq_true.mpr ⟨bump.toNat, List.mem_range.mpr bump.toNat_lt, ?_⟩
  rw [UInt8.ofNat_toNat, h, decide_eq_true rfl]

/-- **What one committed call is.** Called from outside, no instruction has the signature of
`governance_config`. -/
inductive StepCases (env : Env) (s : World) : Call → World → Prop
  | governance (sysvar : Sysvar) (accounts : List AccountMeta)
      (instruction : GovernanceInstruction) (s' : World)
      (unsigned : ∀ key ∈ (Ctx.mk sysvar .external (mergePrivileges accounts)).signers,
        isConfigAddress env key = false)
      (evaluates : Evaluates env ⟨sysvar, .external, mergePrivileges accounts⟩ instruction s s') :
      StepCases env s (.governance sysvar accounts instruction) s'
  | gateway (call : Gateway.GatewayCall) (gateway : Gateway.GatewayState)
      (processed : Gateway.process env.toEnv call s.gateway = .ok gateway) :
      StepCases env s (.gateway call) { s with gateway }
  | balances (l : Pubkey → Nat) : StepCases env s (.balances l) (s.withLamports l)

/-- **A committed call is one of the cases of `StepCases`.** -/
theorem step_evaluates {call : Call} (h : step env call s = .ok s') : StepCases env s call s' := by
  cases call with
  | governance sysvar accounts instruction =>
    simp only [step, bind_eq_ok, require_eq_ok] at h
    obtain ⟨_, unsigned, h⟩ := h
    refine .governance sysvar accounts instruction s' ?_ (process_evaluates h)
    intro key signed
    obtain ⟨m, mem, marked, rfl⟩ := mem_signers_mergePrivileges.mp signed
    have := List.all_eq_true.mp unsigned m mem
    rw [marked] at this
    simpa using this
  | gateway call =>
    simp only [step, bind_eq_ok, pure_eq_ok] at h
    obtain ⟨gateway, processed, rfl⟩ := h
    exact .gateway call gateway processed
  | balances l =>
    simp only [step, pure_eq_ok] at h
    rw [← h]
    exact .balances l

/-- **After any run the accounts are those that the log stands for.** -/
theorem accountsMatchLog_run (env : Env) (l : Pubkey → Nat) (calls : List Call) :
    AccountsMatchLog (run (step env) (World.initial l) calls) := by
  refine run_invariant (accountsMatchLog_initial l) (fun s call s' inv h => ?_) calls
  cases step_evaluates h with
  | governance sysvar accounts instruction s' unsigned evaluates => exact inv.evaluates evaluates
  | gateway call gateway processed => exact inv.congr rfl rfl rfl
  | balances l => exact inv.congr rfl rfl rfl

end AxelarSolana.Governance
