import AxelarSolana.Governance.Evaluation

/-! # The configuration across the call of a proposal

An execution reads `governance_config` on entry and writes that copy back on exit. When its call
re-enters governance and changes the configuration, the change is written over.

* **`GovernanceInstruction.written`** — the configuration that an instruction leaves, as a function
  of the one it finds.
* **`Evaluates.config_written`** — an instruction leaves just that.
* **`config_write_back`** — after the execution of a proposal that calls governance, the stored
  configuration is the one its call left exactly when the call left it as it was.
* **`operator_change_lost`** — a proposal to replace the operator succeeds and does not. -/

namespace AxelarSolana.Governance

open Fallible Machine

/-- **The configuration an instruction leaves**, from the one it finds. -/
def GovernanceInstruction.written (config : GovernanceConfig) :
    GovernanceInstruction → GovernanceConfig
  | .updateConfig params => config.withUpdate params
  | .transferOperatorship newOperator => { config with operator := newOperator }
  | _ => config

variable {env : Env} {ctx : Ctx} {instruction : GovernanceInstruction} {s s' : World}

/-- **An instruction leaves what it writes.** In particular the GMP entry point and the executions
leave the configuration that they read. -/
theorem Evaluates.config_written (h : Evaluates env ctx instruction s s')
    {config : GovernanceConfig} (stored : s.accounts.config = some config) :
    s'.accounts.config = some (instruction.written config) := by
  cases h with
  | effect l effect =>
    cases effect with
    | initializeConfig params config' authority key fresh =>
      rw [fresh] at stored
      cases stored
    | updateConfig params config' stored' =>
      rw [stored'] at stored
      cases stored
      rfl
    | transferOperatorship newOperator config' stored' =>
      rw [stored'] at stored
      cases stored
      rfl
    | _ => exact stored
  | execute accepted inner =>
    rw [accepted.stored] at stored
    cases stored
    rfl
  | @proposal kind _ _ _ _ _ _ _ _ _ _ _ begins =>
    rw [begins.stored] at stored
    cases stored
    cases kind <;> rfl
  | @external kind _ _ _ _ _ _ _ _ _ begins =>
    rw [begins.stored] at stored
    cases stored
    cases kind <;> rfl

/-- The inversion of an execution, for both kinds. -/
theorem process_execution_ok {depth : Nat} {kind : ExecutionKind} {data : ExecuteProposalData}
    (h : process env depth ctx (kind.instruction data) s = .ok s') :
    ∃ depth' hash config key proposal s₁, depth = depth' + 1 ∧
      Begins env kind ctx data hash config key proposal s ∧
      executeProposalCpi env (process env depth') ctx data (kind.remaining ctx) key
        (kind.beginning ctx hash data s) = .ok s₁ ∧
      s' = (kind.ending ctx hash data config proposal.eta s₁).withLamports
        (kind.refund ctx key s₁) := by
  cases depth with
  | zero => exact absurd h throw_ne_ok
  | succ depth =>
    cases kind with
    | timelock =>
      obtain ⟨hash, config, key, proposal, s₁, begins, called, ended⟩ :=
        executeTimelockProposal_ok h
      exact ⟨depth, hash, config, key, proposal, s₁, rfl, begins, called, ended⟩
    | operator =>
      obtain ⟨hash, config, key, proposal, s₁, begins, called, ended⟩ :=
        executeOperatorProposal_ok h
      exact ⟨depth, hash, config, key, proposal, s₁, rfl, begins, called, ended⟩

/-- **When the effect of a proposal on the configuration is kept.** For every successful execution
of a proposal that calls governance itself, its call left the configuration that its instruction
writes; after the execution that is the stored configuration if and only if it was so before. -/
theorem config_write_back (env : Env) (depth : Nat) (ctx : Ctx) (kind : ExecutionKind)
    (data : ExecuteProposalData) (instruction : GovernanceInstruction) (s s' : World)
    (config : GovernanceConfig)
    (executed : process env depth ctx (kind.instruction data) s = .ok s')
    (own : data.targetAddress = env.governanceId)
    (decoded : env.decodeInstruction data.callData.callData = some instruction)
    (stored : s.accounts.config = some config) :
    (∃ depth' found left, found.accounts = s.accounts ∧
      process env depth' ⟨ctx.sysvar, .proposal data, mergePrivileges data.instruction.accounts⟩
        instruction found = .ok left ∧
      left.accounts.config = some (instruction.written config)) ∧
    (s'.accounts.config = some (instruction.written config) ↔
      instruction.written config = config) := by
  obtain ⟨depth', hash, config', key, proposal, s₁, -, begins, called, rfl⟩ :=
    process_execution_ok executed
  have same : config' = config := Option.some.inj (begins.stored.symm.trans stored)
  subst same
  constructor
  · obtain ⟨value, s₂, -, paid, called⟩ := executeProposalCpi_ok called
    obtain ⟨l₂, rfl⟩ := paid.withLamports
    have found : ((kind.beginning ctx hash data s).withLamports l₂).accounts = s.accounts := rfl
    rcases (invokeSigned_ok called).2 with ⟨-, inner, decoded', called⟩ | ⟨other, -⟩
    · rw [show data.instruction.data = data.callData.callData from rfl, decoded] at decoded'
      cases decoded'
      refine ⟨depth', _, s₁, found, called, (process_evaluates called).config_written ?_⟩
      rw [found]
      exact stored
    · exact absurd own other
  -- the configuration that was read first is written last, whatever the call has left
  · have after : ((kind.ending ctx hash data config' proposal.eta s₁).withLamports
        (kind.refund ctx key s₁)).accounts.config = some config' := by
      cases kind <;> rfl
    rw [after, Option.some.injEq]
    exact eq_comm

/-- The sample proposal is scheduled. -/
def sampleScheduled : World :=
  run (step sampleEnv) (World.initial fun _ => 0) (sampleStart ++ sampleCommand 200 "1" 0 0)

/-- The configuration of the sample runs. -/
def sampleConfig : GovernanceConfig where
  bump := 255
  chainHash := sampleEnv.hashv [Codec.utf8 "axelar"]
  addressHash := sampleEnv.hashv [Codec.utf8 "governance"]
  minimumProposalEtaDelay := 3600
  operator := sampleOperator

/-- What the sample proposal calls. -/
def sampleInstruction : GovernanceInstruction := .transferOperatorship (Gateway.padTo 32 [6])

/-- Scheduling leaves the configuration of the sample as it was initialised. -/
theorem sampleScheduled_config : sampleScheduled.accounts.config = some sampleConfig := by
  decide +kernel

/-- The execution of the sample proposal succeeds and reports the new operator. -/
theorem sampleExecute_ok : ∃ s', step sampleEnv (sampleExecuteTimelock 3800) sampleScheduled
    = .ok s' ∧ s'.accounts.config = some sampleConfig ∧
      LogEvent.emitted (.operatorshipTransferred sampleOperator.toList
        (Gateway.padTo 32 [6]).toList) ∈ s'.log.map LogEntry.event := by
  have result : ((step sampleEnv (sampleExecuteTimelock 3800) sampleScheduled).toOption.any
      fun s' => s'.accounts.config = some sampleConfig ∧
        LogEvent.emitted (.operatorshipTransferred sampleOperator.toList
          (Gateway.padTo 32 [6]).toList) ∈ s'.log.map LogEntry.event) = true := by
    decide +kernel
  cases h : step sampleEnv (sampleExecuteTimelock 3800) sampleScheduled with
  | error e =>
    rw [h] at result
    cases result
  | ok s' =>
    rw [h] at result
    exact ⟨s', rfl, of_decide_eq_true result⟩

/-- **A change of the operator that is lost.** The sample proposal makes another address the
operator, through the signature of `governance_config`. Its execution succeeds and reports the
change; the configuration stored afterwards is not the one its instruction wrote. -/
theorem operator_change_lost :
    sampleProposal.targetAddress = sampleEnv.governanceId ∧
    sampleEnv.decodeInstruction sampleProposal.callData.callData = some sampleInstruction ∧
    sampleScheduled.accounts.config = some sampleConfig ∧
    ∃ s', step sampleEnv (sampleExecuteTimelock 3800) sampleScheduled = .ok s' ∧
      LogEvent.emitted (.operatorshipTransferred sampleOperator.toList
        (Gateway.padTo 32 [6]).toList) ∈ s'.log.map LogEntry.event ∧
      s'.accounts.config ≠ some (sampleInstruction.written sampleConfig) := by
  obtain ⟨s', executed, config, reported⟩ := sampleExecute_ok
  refine ⟨rfl, rfl, sampleScheduled_config, s', executed, reported, ?_⟩
  rw [config]
  decide +kernel

/-- The sample proposal writes another configuration than the stored one, and so it is lost. -/
theorem config_write_back_sample :
    ∃ s', step sampleEnv (sampleExecuteTimelock 3800) sampleScheduled = .ok s' ∧
      ¬ s'.accounts.config = some (sampleInstruction.written sampleConfig) := by
  obtain ⟨s', executed, -, -⟩ := sampleExecute_ok
  refine ⟨s', executed, fun kept => ?_⟩
  simp only [step, sampleExecuteTimelock, bind_eq_ok] at executed
  obtain ⟨_, -, executed⟩ := executed
  have iff := (config_write_back sampleEnv _ _ .timelock sampleProposal sampleInstruction
    sampleScheduled s' sampleConfig executed rfl rfl sampleScheduled_config).2
  exact absurd (iff.mp kept) (by decide +kernel)

end AxelarSolana.Governance
