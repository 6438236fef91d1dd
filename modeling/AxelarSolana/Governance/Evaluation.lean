import AxelarSolana.Governance.Instructions
import AxelarSolana.Library.Machine
import Mathlib.Logic.Relation

/-! # Evaluation of governance instructions

What a successful instruction does, as a relation between the worlds before and after it. Balances
are left open: they matter to no account, event or record of the gateway.

* **`Effect`** — an instruction that calls no other.
* **`ExecutionKind`**, **`Begins`** — what the two executions of a proposal share, and what each has
  checked before it turns to the call.
* **`Accepted`** — what the GMP entry point has checked before it turns to its own instruction.
* **`Evaluates`** — an instruction together with the calls made below it: the induction principle of
  the governance program.
* **`process_evaluates`** — every successful instruction evaluates. -/

namespace AxelarSolana.Governance

open Fallible

variable (env : Env)

/-! ## Signatures -/

/-- `governance_config` signs. -/
def ConfigSigned (ctx : Ctx) (config : GovernanceConfig) : Prop :=
  ∃ key, configAddress env config.bump = some key ∧ key ∈ ctx.signers

/-- The signers of a merged account list are those that some occurrence marks as such. -/
theorem mem_signers_mergePrivileges {sysvar : Sysvar} {invoker : Invoker}
    {metas : List AccountMeta} {key : Pubkey} :
    key ∈ (Ctx.mk sysvar invoker (mergePrivileges metas)).signers ↔
      ∃ m ∈ metas, m.isSigner = true ∧ m.pubkey = key := by
  rw [Ctx.mem_signers]
  simp only [mergePrivileges, List.mem_map]
  constructor
  · rintro ⟨_, ⟨m, -, rfl⟩, signed, rfl⟩
    obtain ⟨n, mem, same, signed⟩ := isSigner_unionPrivileges.mp signed
    exact ⟨n, mem, signed, same⟩
  · rintro ⟨m, mem, signed, rfl⟩
    exact ⟨_, ⟨m, mem, rfl⟩, isSigner_unionPrivileges.mpr ⟨m, mem, rfl, signed⟩, rfl⟩

/-! ## Instructions that call no other -/

/-- **What an instruction without calls does**: its guards, the event, and the account it writes.
The event is recorded beside the accounts as they were before the write. -/
inductive Effect (ctx : Ctx) (s : World) (lamports : Pubkey → Nat) :
    GovernanceInstruction → World → Prop
  | initializeConfig (params : GovernanceConfigInit) (config : GovernanceConfig)
      (authority key : Pubkey) (fresh : s.accounts.config = none)
      (authorised : ctx.sysvar.upgradeAuthorityAddress env.governanceId = some authority)
      (signed : authority ∈ ctx.signers)
      (address : env.findProgramAddress [GovernanceConfig.seedPrefix] env.governanceId
        = .ok (key, config.bump))
      (contents : config = ⟨config.bump, params.chainHash, params.addressHash,
        params.minimumProposalEtaDelay, params.operator⟩)
      (valid : GovernanceConfig.ValidDelay config.minimumProposalEtaDelay) :
      Effect ctx s lamports (.initializeConfig params)
        (((s.record ctx (.configInitialized config)).setConfig config).withLamports lamports)
  | updateConfig (params : GovernanceConfigUpdate) (config : GovernanceConfig)
      (stored : s.accounts.config = some config) (signed : config.operator ∈ ctx.signers)
      (valid : GovernanceConfig.ValidDelay (config.withUpdate params).minimumProposalEtaDelay) :
      Effect ctx s lamports (.updateConfig params)
        (((s.record ctx (.configUpdated (config.withUpdate params))).setConfig
          (config.withUpdate params)).withLamports lamports)
  | transferOperatorship (newOperator : Bytes32) (config : GovernanceConfig)
      (stored : s.accounts.config = some config)
      (signed : config.operator ∈ ctx.signers ∨ ConfigSigned env ctx config) :
      Effect ctx s lamports (.transferOperatorship newOperator)
        (((s.record ctx (.emitted (.operatorshipTransferred config.operator.toList
          newOperator.toList))).setConfig { config with operator := newOperator }).withLamports
          lamports)
  | withdrawTokens (amount : UInt64) (config : GovernanceConfig) (receiver : Pubkey)
      (stored : s.accounts.config = some config) (signed : ConfigSigned env ctx config) :
      Effect ctx s lamports (.withdrawTokens amount)
        ((s.record ctx (.tokensWithdrawn receiver amount)).withLamports lamports)
  | scheduleTimelockProposal (hash : Bytes32) (eta : UInt64) (nativeValue target callData : Bytes)
      (config : GovernanceConfig) (proposal : ExecutableProposal)
      (stored : s.accounts.config = some config) (signed : ConfigSigned env ctx config)
      (fresh : s.accounts.proposals hash = none)
      (delayed : atLeastDefaultEtaDelay ctx.sysvar eta config.minimumProposalEtaDelay
        = .ok proposal.eta) :
      Effect ctx s lamports (.scheduleTimelockProposal hash eta nativeValue target callData)
        (((s.record ctx (.emitted (.proposalScheduled hash target callData nativeValue
          proposal.eta))).setProposal hash (some proposal)).withLamports lamports)
  | cancelTimelockProposal (hash : Bytes32) (nativeValue target callData : Bytes)
      (config : GovernanceConfig) (proposal : ExecutableProposal)
      (stored : s.accounts.config = some config) (signed : ConfigSigned env ctx config)
      (pending : s.accounts.proposals hash = some proposal) :
      Effect ctx s lamports
        (.cancelTimelockProposal hash proposal.eta nativeValue target callData)
        (((s.record ctx (.emitted (.proposalCancelled hash target callData nativeValue
          proposal.eta))).setProposal hash none).withLamports lamports)
  | approveOperatorProposal (hash : Bytes32) (nativeValue target callData : Bytes)
      (config : GovernanceConfig) (proposal : ExecutableProposal)
      (stored : s.accounts.config = some config) (signed : ConfigSigned env ctx config)
      (pending : s.accounts.proposals hash = some proposal)
      (fresh : s.accounts.operatorProposals hash = false) :
      Effect ctx s lamports (.approveOperatorProposal hash nativeValue target callData)
        (((s.record ctx (.emitted (.operatorProposalApproved hash target callData
          nativeValue))).setOperatorProposal hash true).withLamports lamports)
  | cancelOperatorProposal (hash : Bytes32) (nativeValue target callData : Bytes)
      (config : GovernanceConfig) (proposal : ExecutableProposal)
      (stored : s.accounts.config = some config) (signed : ConfigSigned env ctx config)
      (pending : s.accounts.proposals hash = some proposal)
      (marked : s.accounts.operatorProposals hash = true) :
      Effect ctx s lamports (.cancelOperatorProposal hash nativeValue target callData)
        (((s.record ctx (.emitted (.operatorProposalCancelled hash target callData
          nativeValue))).setOperatorProposal hash false).withLamports lamports)

section

variable {env} {ctx : Ctx} {s s' : World}

/-- The signer check accepts exactly the metas with the signer flag. -/
theorem signer_eq_ok {a : AccountMeta} {u : Unit} : signer a = .ok u ↔ a.isSigner = true :=
  require_eq_ok

/-- The seeds of `governance_config` hold of its address. -/
theorem governanceConfigSeeds_eq_ok {a : AccountMeta} {config : GovernanceConfig} {u : Unit} :
    governanceConfigSeeds env a config = .ok u ↔ configAddress env config.bump = some a.pubkey :=
  require_eq_ok

/-- `governance_config` is found where it is stored, at its address. -/
theorem governanceConfigAccount_eq_ok {a : AccountMeta} {config : GovernanceConfig} :
    governanceConfigAccount env a s = .ok config ↔
      s.accounts.config = some config ∧ configAddress env config.bump = some a.pubkey := by
  simp only [governanceConfigAccount, bind_eq_ok, World.loadConfig_eq_ok, governanceConfigSeeds_eq_ok,
    pure_eq_ok]
  constructor
  · rintro ⟨c, stored, _, address, rfl⟩
    exact ⟨stored, address⟩
  · rintro ⟨stored, address⟩
    exact ⟨config, stored, (), address, rfl⟩

/-- The seeds of a proposal hold of its address. -/
theorem proposalSeeds_eq_ok {a : AccountMeta} {hash : Bytes32} {p : ExecutableProposal} {u : Unit} :
    proposalSeeds env a hash p = .ok u ↔
      env.createProgramAddress (ExecutableProposal.pdaSeeds hash ++ [[p.bump]]) env.governanceId
        = some a.pubkey :=
  require_eq_ok

/-- A proposal is found where it is stored, at its address. -/
theorem proposalAccount_eq_ok {a : AccountMeta} {hash : Bytes32} {p : ExecutableProposal} :
    proposalAccount env a hash s = .ok p ↔ s.accounts.proposals hash = some p ∧
      env.createProgramAddress (ExecutableProposal.pdaSeeds hash ++ [[p.bump]]) env.governanceId
        = some a.pubkey := by
  simp only [proposalAccount, bind_eq_ok, World.loadProposal_eq_ok, proposalSeeds_eq_ok, pure_eq_ok]
  constructor
  · rintro ⟨p', pending, _, address, rfl⟩
    exact ⟨pending, address⟩
  · rintro ⟨pending, address⟩
    exact ⟨p, pending, (), address, rfl⟩

/-- Paying for an account changes balances only. -/
theorem createAccount_ok {payer key : Pubkey} {space : Nat}
    (h : createAccount env payer key space s = .ok s') : ∃ l, s' = s.withLamports l := by
  simp only [createAccount, bind_eq_ok, pure_eq_ok] at h
  obtain ⟨-, -, rfl⟩ := h
  exact ⟨_, rfl⟩

/-- `governance_config` signs when the account at its address does. -/
theorem configSigned_of_account {i : Nat} {a : AccountMeta} {config : GovernanceConfig}
    (account : ctx.accounts[i]? = some a)
    (address : configAddress env config.bump = some a.pubkey) (signed : a.isSigner = true) :
    ConfigSigned env ctx config :=
  ⟨a.pubkey, address, Ctx.mem_signers_of_account account signed⟩

/-- A successful `initialize_config` has its effect. -/
theorem initializeConfig_ok {params : GovernanceConfigInit}
    (h : initializeConfig env ctx params s = .ok s') :
    ∃ l, Effect env ctx s l (.initializeConfig params) s' := by
  simp only [initializeConfig, bind_eq_ok, Ctx.account_eq_ok, signer_eq_ok, require_eq_ok,
    Syscalls.initPda_eq_ok, pure_eq_ok, GovernanceConfig.validateConfig_eq_ok] at h
  obtain ⟨payer, -, _, -, authority, account, _, signed, a, -, bump, ⟨fresh, found⟩, s₁, paid, _,
    authorised, _, valid, rfl⟩ := h
  obtain ⟨l, rfl⟩ := createAccount_ok paid
  exact ⟨l, .initializeConfig params _ authority.pubkey a.pubkey fresh authorised
    (Ctx.mem_signers_of_account account signed) found rfl valid⟩

/-- A successful `update_config` has its effect. -/
theorem updateConfig_ok {params : GovernanceConfigUpdate}
    (h : updateConfig env ctx params s = .ok s') :
    ∃ l, Effect env ctx s l (.updateConfig params) s' := by
  simp only [updateConfig, bind_eq_ok, Ctx.account_eq_ok, signer_eq_ok, require_eq_ok,
    pure_eq_ok, World.loadConfig_eq_ok, GovernanceConfig.update_eq_ok] at h
  obtain ⟨operator, account, _, signed, a, -, config, stored, _, same, found, -, _, -, config',
    ⟨rfl, valid⟩, rfl⟩ := h
  refine ⟨s.lamports, .updateConfig params config stored ?_ valid⟩
  rw [same]
  exact Ctx.mem_signers_of_account account signed

/-- A successful `transfer_operatorship` has its effect. -/
theorem transferOperatorship_ok {newOperator : Bytes32}
    (h : transferOperatorship env ctx newOperator s = .ok s') :
    ∃ l, Effect env ctx s l (.transferOperatorship newOperator) s' := by
  simp only [transferOperatorship, bind_eq_ok, Ctx.account_eq_ok, pure_eq_ok,
    governanceConfigAccount_eq_ok] at h
  obtain ⟨operator, account, a, account', config, ⟨stored, address⟩, _, authorised, rfl⟩ := h
  refine ⟨s.lamports, .transferOperatorship newOperator config stored ?_⟩
  split at authorised
  · have signed := require_eq_ok.mp authorised
    exact .inr (configSigned_of_account account' address signed)
  · simp only [bind_eq_ok, signer_eq_ok, require_eq_ok] at authorised
    obtain ⟨_, signed, same⟩ := authorised
    rw [← same]
    exact .inl (Ctx.mem_signers_of_account account signed)

/-- A successful `withdraw_tokens` has its effect. -/
theorem withdrawTokens_ok {amount : UInt64} (h : withdrawTokens env ctx amount s = .ok s') :
    ∃ l, Effect env ctx s l (.withdrawTokens amount) s' := by
  simp only [withdrawTokens, bind_eq_ok, Ctx.account_eq_ok, require_eq_ok, pure_eq_ok,
    governanceConfigAccount_eq_ok] at h
  obtain ⟨a, account, config, ⟨stored, address⟩, _, signed, receiver, -, _, -, _, -, rfl⟩ := h
  rw [World.setConfig_self (by simpa using stored)]
  exact ⟨_, .withdrawTokens amount config receiver.pubkey stored
    (configSigned_of_account account address signed)⟩

/-- A successful `schedule_timelock_proposal` has its effect. -/
theorem scheduleTimelockProposal_ok {hash : Bytes32} {eta : UInt64}
    {nativeValue target callData : Bytes}
    (h : scheduleTimelockProposal env ctx hash eta nativeValue target callData s = .ok s') :
    ∃ l, Effect env ctx s l (.scheduleTimelockProposal hash eta nativeValue target callData)
      s' := by
  simp only [scheduleTimelockProposal, bind_eq_ok, Ctx.account_eq_ok, signer_eq_ok,
    require_eq_ok, pure_eq_ok, World.loadConfig_eq_ok, Syscalls.initPda_eq_ok,
    governanceConfigSeeds_eq_ok] at h
  obtain ⟨a, account, config, stored, payer, -, _, -, proposalPda, -, bump, ⟨fresh, found⟩, s₁, paid,
    _, address, _, signed, ⟨key', managedBump⟩, managed, finalEta, delayed, rfl⟩ := h
  obtain ⟨l, rfl⟩ := createAccount_ok paid
  exact ⟨l, .scheduleTimelockProposal hash eta nativeValue target callData config
    ⟨finalEta, bump, managedBump⟩ stored (configSigned_of_account account address signed) fresh
    delayed⟩

/-- A successful `cancel_timelock_proposal` has its effect. -/
theorem cancelTimelockProposal_ok {hash : Bytes32} {eta : UInt64}
    {nativeValue target callData : Bytes}
    (h : cancelTimelockProposal env ctx hash eta nativeValue target callData s = .ok s') :
    ∃ l, Effect env ctx s l (.cancelTimelockProposal hash eta nativeValue target callData) s' := by
  simp only [cancelTimelockProposal, bind_eq_ok, Ctx.account_eq_ok, require_eq_ok, pure_eq_ok,
    governanceConfigAccount_eq_ok, proposalAccount_eq_ok] at h
  obtain ⟨a, account, config, ⟨stored, address⟩, _, signed, proposalPda, -, proposal,
    ⟨pending, -⟩, _, rfl, rfl⟩ := h
  rw [World.setConfig_self (by simpa using stored)]
  exact ⟨_, .cancelTimelockProposal hash nativeValue target callData config proposal stored
    (configSigned_of_account account address signed) pending⟩

/-- A successful `approve_operator_proposal` has its effect. -/
theorem approveOperatorProposal_ok {hash : Bytes32} {nativeValue target callData : Bytes}
    (h : approveOperatorProposal env ctx hash nativeValue target callData s = .ok s') :
    ∃ l, Effect env ctx s l (.approveOperatorProposal hash nativeValue target callData) s' := by
  simp only [approveOperatorProposal, bind_eq_ok, Ctx.account_eq_ok, signer_eq_ok,
    require_eq_ok, pure_eq_ok, World.loadConfig_eq_ok, World.loadProposal_eq_ok,
    Syscalls.initPda_eq_ok, governanceConfigSeeds_eq_ok] at h
  obtain ⟨payer, -, _, -, a, account, config, stored, proposalPda, -, proposal, pending, marker, -,
    bump, ⟨fresh, found⟩, s₁, paid, _, address, _, signed, _, -, _, -, rfl⟩ := h
  obtain ⟨l, rfl⟩ := createAccount_ok paid
  exact ⟨l, .approveOperatorProposal hash nativeValue target callData config proposal stored
    (configSigned_of_account account address signed) pending fresh⟩

/-- A successful `cancel_operator_proposal` has its effect. -/
theorem cancelOperatorProposal_ok {hash : Bytes32} {nativeValue target callData : Bytes}
    (h : cancelOperatorProposal env ctx hash nativeValue target callData s = .ok s') :
    ∃ l, Effect env ctx s l (.cancelOperatorProposal hash nativeValue target callData) s' := by
  simp only [cancelOperatorProposal, bind_eq_ok, Ctx.account_eq_ok, require_eq_ok, pure_eq_ok,
    governanceConfigAccount_eq_ok, proposalAccount_eq_ok] at h
  obtain ⟨a, account, config, ⟨stored, address⟩, _, signed, proposalPda, -, proposal,
    ⟨pending, -⟩, marker, -, _, marked, _, -, rfl⟩ := h
  rw [World.setConfig_self (by simpa using stored)]
  exact ⟨_, .cancelOperatorProposal hash nativeValue target callData config proposal stored
    (configSigned_of_account account address signed) pending marked⟩

end

/-! ## The execution of a proposal -/

/-- **The two ways to execute a proposal.** -/
inductive ExecutionKind
  | timelock
  | operator
  deriving DecidableEq, Repr

namespace ExecutionKind

/-- The instruction that executes a proposal. -/
def instruction (data : ExecuteProposalData) : ExecutionKind → GovernanceInstruction
  | .timelock => .executeTimelockProposal data
  | .operator => .executeOperatorProposal data

/-- The entry that marks the moment before the call. -/
def began (hash : Bytes32) (data : ExecuteProposalData) : ExecutionKind → LogEvent
  | .timelock => .timelockBegan hash data
  | .operator => .operatorBegan hash data

/-- The event after the call. -/
def executed (hash : Bytes32) (data : ExecuteProposalData) (eta : UInt64) :
    ExecutionKind → GovernanceEvent
  | .timelock => .proposalExecuted hash data.targetAddress.toList data.callData.callData
      data.nativeValue.toList eta
  | .operator => .operatorProposalExecuted hash data.targetAddress.toList data.callData.callData
      data.nativeValue.toList

/-- What an execution requires of the proposal: its time has come, or the operator signs and an
approval stands. -/
def Ready (ctx : Ctx) (config : GovernanceConfig) (hash : Bytes32) (proposal : ExecutableProposal)
    (s : World) : ExecutionKind → Prop
  | .timelock => ∃ timestamp, tryIntoU64 ctx.sysvar.unixTimestamp = some timestamp ∧
      proposal.eta ≤ timestamp
  | .operator => config.operator ∈ ctx.signers ∧ s.accounts.operatorProposals hash = true

/-- The accounts passed beyond the declared ones. -/
def remaining (ctx : Ctx) : ExecutionKind → List AccountMeta
  | .timelock => ctx.accounts.drop 5
  | .operator => ctx.accounts.drop 7

/-- The addresses of the accounts an execution closes: the proposal, and the operator's marker. -/
def closed (ctx : Ctx) (kind : ExecutionKind) : List Pubkey :=
  let positions := match kind with
    | .timelock => [2]
    | .operator => [2, 4]
  (positions.filterMap fun i => ctx.accounts[i]?).map AccountMeta.pubkey

/-- The accounts an execution closes. -/
def close (hash : Bytes32) (s : World) : ExecutionKind → World
  | .timelock => s.setProposal hash none
  | .operator => (s.setProposal hash none).setOperatorProposal hash false

end ExecutionKind

/-- **What an execution has checked** before it turns to the call of the proposal. -/
structure Begins (kind : ExecutionKind) (ctx : Ctx) (data : ExecuteProposalData) (hash : Bytes32)
    (config : GovernanceConfig) (key : Pubkey) (proposal : ExecutableProposal) (s : World) :
    Prop where
  hash_eq : ExecutableProposal.hashFromData env.toSyscalls data = .ok hash
  stored : s.accounts.config = some config
  address : configAddress env config.bump = some key
  pending : s.accounts.proposals hash = some proposal
  ready : kind.Ready ctx config hash proposal s

/-- **The world when the call of a proposal begins**, before native value is moved. -/
def ExecutionKind.beginning (kind : ExecutionKind) (ctx : Ctx) (hash : Bytes32)
    (data : ExecuteProposalData) (s : World) : World :=
  s.record ctx (kind.began hash data)

/-- **The world when an execution ends**, from the world its call left: the event, the
configuration read on entry written back, and the accounts closed. -/
def ExecutionKind.ending (kind : ExecutionKind) (ctx : Ctx) (hash : Bytes32)
    (data : ExecuteProposalData) (config : GovernanceConfig) (eta : UInt64) (s : World) : World :=
  kind.close hash ((s.record ctx (.emitted (kind.executed hash data eta))).setConfig config)

/-- **The balances when an execution ends**, from the world its call left: those of the accounts that
are closed have gone to `governance_config`. -/
def ExecutionKind.refund (kind : ExecutionKind) (ctx : Ctx) (key : Pubkey) (s : World) :
    Pubkey → Nat :=
  ((kind.closed ctx).foldl (fun s account => closeAccount account key s) s).lamports

/-- **The payment of an execution**: nothing, or the native value from `governance_config` to the
receiver that the proposal names. -/
inductive Pays (data : ExecuteProposalData) (key : Pubkey) (s : World) : UInt64 → World → Prop
  | nothing : Pays data key s 0 s
  | receiver (value : UInt64) (receiver : SolanaAccountMetadata) (positive : 0 < value)
      (named : data.callData.solanaNativeValueReceiverAccount = some receiver)
      (funded : value.toNat ≤ s.lamports key) :
      Pays data key s value (s.moveLamports key receiver.pubkey value.toNat)

section

variable {env} {ctx : Ctx} {data : ExecuteProposalData} {s s' : World} {invoke : Entry}
  {remainingAccounts : List AccountMeta} {key : Pubkey}

/-- A positive native value goes from `governance_config` to the receiver that the proposal names.
-/
theorem manualLamportTransfer_ok {value : UInt64} (positive : 0 < value)
    (h : manualLamportTransfer data remainingAccounts value key s = .ok s') :
    Pays data key s value s' := by
  simp only [manualLamportTransfer, bind_eq_ok, okOr_eq_ok, require_eq_ok, pure_eq_ok] at h
  obtain ⟨receiver, named, target, found, _, funded, rfl⟩ := h
  have same := List.find?_some found
  rw [decide_eq_true_eq] at same
  rw [same]
  exact .receiver value receiver positive named funded

/-- The accounts of the call are those the proposal lists, with their flags. -/
theorem instruction_accounts_eq (data : ExecuteProposalData) :
    data.instruction.accounts =
      data.callData.solanaAccounts.map fun m => ⟨m.pubkey, m.isSigner, m.isWritable⟩ := by
  refine List.map_congr_left fun m _ => ?_
  cases m.isWritable <;> cases m.isSigner <;> rfl

/-- **What an execution does**: the native value is paid, and the call is invoked from the state
after the payment. -/
theorem executeProposalCpi_ok
    (h : executeProposalCpi env invoke ctx data remainingAccounts key s = .ok s') :
    ∃ value s₁, checkedFromU256LeBytesToU64 data.nativeValue = .ok value ∧
      Pays data key s value s₁ ∧
      invokeSigned env invoke ctx data data.instruction remainingAccounts key s₁ = .ok s' := by
  simp only [executeProposalCpi, bind_eq_ok] at h
  obtain ⟨value, read, s₁, paid, called⟩ := h
  refine ⟨value, s₁, read, ?_, called⟩
  split at paid
  case isTrue positive => exact manualLamportTransfer_ok positive paid
  case isFalse zero =>
    have : value = 0 := by
      rw [UInt64.pos_iff_ne_zero] at zero
      exact not_not.mp zero
    rw [pure_eq_ok] at paid
    rw [this, ← paid]
    exact .nothing

/-- A payment changes lamports only. -/
theorem Pays.withLamports {value : UInt64} (h : Pays data key s value s') :
    ∃ l, s' = s.withLamports l := by
  cases h with
  | nothing => exact ⟨s.lamports, rfl⟩
  | receiver receiver positive named funded => exact ⟨_, rfl⟩

/-- What a program outside governance leaves. -/
theorem invokeExternal_ok {instruction : Instruction}
    (h : invokeExternal env instruction key s = .ok s') :
    ∃ l gateway, Machine.Steps (Gateway.process env.toEnv) s.gateway gateway ∧
      s' = { s.withLamports l with gateway } := by
  simp only [invokeExternal, bind_eq_ok, require_eq_ok, pure_eq_ok] at h
  obtain ⟨effect, -, _, -, gateway, calls, rfl⟩ := h
  exact ⟨effect.lamports, gateway, Machine.steps_of_foldlM calls, rfl⟩

/-- The call of a proposal goes into governance or into a program outside; its signers sign the
execution, or are `governance_config`. -/
theorem invokeSigned_ok {instruction : Instruction} {accountInfos : List AccountMeta}
    (h : invokeSigned env invoke ctx data instruction accountInfos key s = .ok s') :
    (∀ m ∈ instruction.accounts, m.isSigner = true → m.pubkey = key ∨ m.pubkey ∈ ctx.signers) ∧
    ((instruction.programId = env.governanceId ∧ ∃ inner,
        env.decodeInstruction instruction.data = some inner ∧
        invoke ⟨ctx.sysvar, .proposal data, mergePrivileges instruction.accounts⟩ inner s
          = .ok s') ∨
      (instruction.programId ≠ env.governanceId ∧
        invokeExternal env instruction key s = .ok s')) := by
  simp only [invokeSigned, bind_eq_ok, require_eq_ok] at h
  obtain ⟨_, -, _, privileges, h⟩ := h
  constructor
  · intro m mem signed
    have allowed := List.all_eq_true.mp privileges m mem
    simp only [hasPrivileges, signed, Bool.not_true, Bool.false_or, Bool.and_eq_true,
      Bool.or_eq_true, decide_eq_true_eq, List.any_eq_true] at allowed
    rcases allowed.1 with same | ⟨a, listed, same, signs⟩
    · exact .inl same
    · exact .inr (Ctx.mem_signers.mpr ⟨a, listed, signs, same⟩)
  · split at h
    case isTrue own =>
      simp only [bind_eq_ok, okOr_eq_ok] at h
      exact .inl ⟨own, h⟩
    case isFalse other => exact .inr ⟨other, h⟩

/-- The inversion of an execution by timelock. -/
theorem executeTimelockProposal_ok
    (h : executeTimelockProposal env invoke ctx data s = .ok s') :
    ∃ hash config key proposal s₁,
      Begins env .timelock ctx data hash config key proposal s ∧
      executeProposalCpi env invoke ctx data (ExecutionKind.timelock.remaining ctx) key
        (ExecutionKind.timelock.beginning ctx hash data s) = .ok s₁ ∧
      s' = (ExecutionKind.timelock.ending ctx hash data config proposal.eta s₁).withLamports
        (ExecutionKind.timelock.refund ctx key s₁) := by
  simp only [executeTimelockProposal, bind_eq_ok, Ctx.account_eq_ok, require_eq_ok, okOr_eq_ok,
    pure_eq_ok, governanceConfigAccount_eq_ok, proposalAccount_eq_ok] at h
  obtain ⟨a, -, config, ⟨stored, address⟩, proposalPda, listed, hash, hashed, proposal,
    ⟨pending, -⟩, timestamp, time, _, due, _, -, _, -, s₁, called, rfl⟩ := h
  refine ⟨hash, config, a.pubkey, proposal, s₁, ⟨hashed, stored, address, pending,
    timestamp, time, due⟩, called, ?_⟩
  simp only [ExecutionKind.refund, ExecutionKind.closed, List.filterMap_cons, listed]
  rfl

/-- The inversion of an execution by the operator. -/
theorem executeOperatorProposal_ok
    (h : executeOperatorProposal env invoke ctx data s = .ok s') :
    ∃ hash config key proposal s₁,
      Begins env .operator ctx data hash config key proposal s ∧
      executeProposalCpi env invoke ctx data (ExecutionKind.operator.remaining ctx) key
        (ExecutionKind.operator.beginning ctx hash data s) = .ok s₁ ∧
      s' = (ExecutionKind.operator.ending ctx hash data config proposal.eta s₁).withLamports
        (ExecutionKind.operator.refund ctx key s₁) := by
  simp only [executeOperatorProposal, bind_eq_ok, Ctx.account_eq_ok, require_eq_ok, pure_eq_ok,
    signer_eq_ok, governanceConfigAccount_eq_ok, proposalAccount_eq_ok] at h
  obtain ⟨a, -, config, ⟨stored, address⟩, proposalPda, listed, hash, hashed, proposal,
    ⟨pending, -⟩, operator, account, _, signed, _, same, marker, listed', _, marked, found, -, _, -,
    _, -, _, -, s₁, called, rfl⟩ := h
  refine ⟨hash, config, a.pubkey, proposal, s₁, ⟨hashed, stored, address, pending, ?_, marked⟩,
    called, ?_⟩
  · rw [← same]
    exact Ctx.mem_signers_of_account account signed
  · simp only [ExecutionKind.refund, ExecutionKind.closed, List.filterMap_cons, listed, listed']
    rfl

end

/-! ## The GMP entry point -/

/-- The own instruction that a command calls. -/
def Dispatches (cmdPayload : GovernanceCommandPayload) (hash : Bytes32)
    (instruction : GovernanceInstruction) : Prop :=
  ∃ eta nativeValue callData target,
    extractProposalData cmdPayload = .ok (eta, nativeValue, callData, target) ∧
    match cmdPayload.command with
    | .scheduleTimeLockProposal =>
      instruction = .scheduleTimelockProposal hash eta nativeValue target callData
    | .cancelTimeLockProposal =>
      instruction = .cancelTimelockProposal hash eta nativeValue target callData
    | .approveOperatorProposal =>
      instruction = .approveOperatorProposal hash nativeValue target callData
    | .cancelOperatorApproval =>
      instruction = .cancelOperatorProposal hash nativeValue target callData
    | .invalid => False

/-- **What the GMP entry point has checked** before it calls its own instruction: the message comes
from the configured address and chain, the gateway has just executed it, and the instruction is
that of the payload's command at the payload's hash. -/
structure Accepted (ctx : Ctx) (message : Message) (payload : Bytes) (config : GovernanceConfig)
    (hash : Bytes32) (accounts : List AccountMeta) (instruction : GovernanceInstruction)
    (s : World) (gateway : Gateway.GatewayState) : Prop where
  stored : s.accounts.config = some config
  source : env.hashv [Codec.utf8 message.sourceAddress] = config.addressHash
  chain : env.hashv [Codec.utf8 message.ccId.chain] = config.chainHash
  validated : ∃ key, Gateway.validateMessageRaw env.toEnv ctx.sysvar key message payload s.gateway
    = .ok gateway
  decoded : ∃ cmdPayload target callData,
    calculateGmpContext env payload = .ok (cmdPayload, target, callData, hash) ∧
    Dispatches cmdPayload hash instruction
  signers : ∀ key ∈ (Ctx.mk ctx.sysvar (.gmp message payload) accounts).signers,
    configAddress env config.bump = some key ∨ key ∈ ctx.signers

section

variable {env} {ctx : Ctx} {s s' : World} {invoke : Entry}

/-- The authority check compares the hashes of the source address and of the source chain with those
of the configuration. -/
theorem ensureAuthorizedGmpCommand_eq_ok {config : GovernanceConfig} {message : Message}
    {u : Unit} : ensureAuthorizedGmpCommand env config message = .ok u ↔
      env.hashv [Codec.utf8 message.sourceAddress] = config.addressHash ∧
      env.hashv [Codec.utf8 message.ccId.chain] = config.chainHash := by
  simp only [ensureAuthorizedGmpCommand, bind_eq_ok, require_eq_ok]
  constructor
  · rintro ⟨_, source, chain⟩
    exact ⟨source, chain⟩
  · rintro ⟨source, chain⟩
    exact ⟨(), source, chain⟩

/-- The accounts handed to an own instruction are those of the entry point, with the signature of
`governance_config` added. -/
theorem processProposalGmp_ok {message : Message} {payload : Bytes} {a : ExecuteAccounts}
    {hash : Bytes32} {cmdPayload : GovernanceCommandPayload}
    (listed : ∀ m ∈ [a.systemProgram, a.payer, a.governanceConfig, a.proposalPda,
      a.operatorProposalPda, a.governanceEventAuthority, a.axelarGovernanceProgram],
      m ∈ ctx.accounts)
    (h : processProposalGmp invoke ctx message payload a hash cmdPayload s = .ok s') :
    ∃ accounts instruction, Dispatches cmdPayload hash instruction ∧
      (∀ key ∈ (Ctx.mk ctx.sysvar (.gmp message payload) accounts).signers,
        key = a.governanceConfig.pubkey ∨ key ∈ ctx.signers) ∧
      invoke ⟨ctx.sysvar, .gmp message payload, accounts⟩ instruction s = .ok s' := by
  -- the inner call passes accounts of this one on, with the signature of `governance_config` added
  have signers : ∀ accounts : List AccountMeta,
      (∀ m ∈ accounts, m = { a.governanceConfig with isSigner := true } ∨ m ∈ ctx.accounts) →
      ∀ key ∈ (Ctx.mk ctx.sysvar (.gmp message payload) accounts).signers,
        key = a.governanceConfig.pubkey ∨ key ∈ ctx.signers := by
    intro accounts sub key mem
    obtain ⟨m, passed, signed, rfl⟩ := Ctx.mem_signers.mp mem
    rcases sub m passed with rfl | own
    · exact .inl rfl
    · exact .inr (Ctx.mem_signers.mpr ⟨m, own, signed, rfl⟩)
  simp only [List.forall_mem_cons, List.not_mem_nil, false_imp_iff, implies_true, and_true]
    at listed
  obtain ⟨systemProgram, payer, -, proposalPda, operatorProposalPda, authority, program⟩ := listed
  simp only [processProposalGmp] at h
  cases hc : cmdPayload.command with
  | invalid =>
    rw [hc] at h
    exact absurd h throw_ne_ok
  | scheduleTimeLockProposal =>
    rw [hc] at h
    simp only [bind_eq_ok] at h
    obtain ⟨⟨eta, nativeValue, callData, target⟩, extracted, called⟩ := h
    refine ⟨_, _, ⟨eta, nativeValue, callData, target, extracted, ?_⟩, signers _ ?_, called⟩
    · rw [hc]
    · simp [systemProgram, payer, proposalPda, authority, program]
  | cancelTimeLockProposal =>
    rw [hc] at h
    simp only [bind_eq_ok] at h
    obtain ⟨⟨eta, nativeValue, callData, target⟩, extracted, called⟩ := h
    refine ⟨_, _, ⟨eta, nativeValue, callData, target, extracted, ?_⟩, signers _ ?_, called⟩
    · rw [hc]
    · simp [proposalPda, authority, program]
  | approveOperatorProposal =>
    rw [hc] at h
    simp only [bind_eq_ok] at h
    obtain ⟨⟨eta, nativeValue, callData, target⟩, extracted, called⟩ := h
    refine ⟨_, _, ⟨eta, nativeValue, callData, target, extracted, ?_⟩, signers _ ?_, called⟩
    · rw [hc]
    · simp [systemProgram, payer, proposalPda, operatorProposalPda, authority, program]
  | cancelOperatorApproval =>
    rw [hc] at h
    simp only [bind_eq_ok] at h
    obtain ⟨⟨eta, nativeValue, callData, target⟩, extracted, called⟩ := h
    refine ⟨_, _, ⟨eta, nativeValue, callData, target, extracted, ?_⟩, signers _ ?_, called⟩
    · rw [hc]
    · simp [proposalPda, operatorProposalPda, authority, program]

/-- **What a delivered command does**: the gateway marks the message executed, the inner instruction
runs, and the configuration read at the start is written back last. -/
theorem execute_ok {message : Message} {payload : Bytes}
    (h : execute env invoke ctx message payload s = .ok s') :
    ∃ config hash accounts instruction gateway s₁,
      Accepted env ctx message payload config hash accounts instruction s gateway ∧
      invoke ⟨ctx.sysvar, .gmp message payload, accounts⟩ instruction { s with gateway } = .ok s₁ ∧
      s' = s₁.setConfig config := by
  simp only [execute, bind_eq_ok, Ctx.account_eq_ok, signer_eq_ok, require_eq_ok, pure_eq_ok,
    governanceConfigAccount_eq_ok, ensureAuthorizedGmpCommand_eq_ok] at h
  obtain ⟨incoming, -, signingPda, -, _, -, systemProgram, h₅, payer, h₆, _, -, a, h₇, config,
    ⟨stored, address⟩, proposalPda, h₈, operatorProposalPda, h₉, authority, h₁₀, program, h₁₁, _,
    ⟨source, chain⟩, gateway, validated, ⟨cmdPayload, target, callData, hash⟩, decoded, s₁,
    processed, rfl⟩ := h
  obtain ⟨accounts, instruction, dispatched, signers, called⟩ := processProposalGmp_ok (by
    simp [List.mem_of_getElem? h₅, List.mem_of_getElem? h₆, List.mem_of_getElem? h₇,
      List.mem_of_getElem? h₈, List.mem_of_getElem? h₉, List.mem_of_getElem? h₁₀,
      List.mem_of_getElem? h₁₁]) processed
  refine ⟨config, hash, accounts, instruction, gateway, s₁, ⟨stored, source, chain,
    ⟨signingPda.pubkey, validated⟩, ⟨cmdPayload, target, callData, decoded, dispatched⟩, ?_⟩,
    called, rfl⟩
  intro key mem
  rcases signers key mem with rfl | mem
  · exact .inl address
  · exact .inr mem

end

/-! ## Evaluation -/

/-- **An instruction with the calls below it.** -/
inductive Evaluates : Ctx → GovernanceInstruction → World → World → Prop
  | effect {ctx : Ctx} {instruction : GovernanceInstruction} {s s' : World} (l : Pubkey → Nat)
      (effect : Effect env ctx s l instruction s') : Evaluates ctx instruction s s'
  | execute {ctx : Ctx} {message : Message} {payload : Bytes} {s s₁ : World}
      {config : GovernanceConfig} {hash : Bytes32} {accounts : List AccountMeta}
      {instruction : GovernanceInstruction} {gateway : Gateway.GatewayState}
      (accepted : Accepted env ctx message payload config hash accounts instruction s gateway)
      (inner : Evaluates ⟨ctx.sysvar, .gmp message payload, accounts⟩ instruction
        { s with gateway } s₁) :
      Evaluates ctx (.execute message payload) s (s₁.setConfig config)
  | proposal {kind : ExecutionKind} {ctx : Ctx} {data : ExecuteProposalData} {hash : Bytes32}
      {config : GovernanceConfig} {key : Pubkey} {proposal : ExecutableProposal} {s s₁ : World}
      {instruction : GovernanceInstruction} (l l' : Pubkey → Nat)
      (begins : Begins env kind ctx data hash config key proposal s)
      (signers : ∀ m ∈ data.instruction.accounts, m.isSigner = true →
        m.pubkey = key ∨ m.pubkey ∈ ctx.signers)
      (own : data.targetAddress = env.governanceId)
      (decoded : env.decodeInstruction data.callData.callData = some instruction)
      (inner : Evaluates ⟨ctx.sysvar, .proposal data,
        mergePrivileges data.instruction.accounts⟩ instruction
        ((kind.beginning ctx hash data s).withLamports l) s₁) :
      Evaluates ctx (kind.instruction data) s
        ((kind.ending ctx hash data config proposal.eta s₁).withLamports l')
  | external {kind : ExecutionKind} {ctx : Ctx} {data : ExecuteProposalData} {hash : Bytes32}
      {config : GovernanceConfig} {key : Pubkey} {proposal : ExecutableProposal} {s : World}
      {gateway : Gateway.GatewayState} (l : Pubkey → Nat)
      (begins : Begins env kind ctx data hash config key proposal s)
      (other : data.targetAddress ≠ env.governanceId)
      (calls : Machine.Steps (Gateway.process env.toEnv) s.gateway gateway) :
      Evaluates ctx (kind.instruction data) s
        ((kind.ending ctx hash data config proposal.eta
          { kind.beginning ctx hash data s with gateway }).withLamports l)

variable {env}

/-- An execution evaluates when the call of its proposal does. -/
theorem evaluates_of_cpi {kind : ExecutionKind} {ctx : Ctx} {data : ExecuteProposalData}
    {hash : Bytes32} {config : GovernanceConfig} {key : Pubkey} {proposal : ExecutableProposal}
    {s s₁ : World} {invoke : Entry} {remainingAccounts : List AccountMeta} (l : Pubkey → Nat)
    (evaluates : ∀ ctx instruction s s', invoke ctx instruction s = .ok s' →
      Evaluates env ctx instruction s s')
    (begins : Begins env kind ctx data hash config key proposal s)
    (called : executeProposalCpi env invoke ctx data remainingAccounts key
      (kind.beginning ctx hash data s) = .ok s₁) :
    Evaluates env ctx (kind.instruction data) s
      ((kind.ending ctx hash data config proposal.eta s₁).withLamports l) := by
  obtain ⟨value, s₂, -, paid, called⟩ := executeProposalCpi_ok called
  obtain ⟨l₂, rfl⟩ := paid.withLamports
  obtain ⟨signers, ⟨own, inner, decoded, called⟩ | ⟨other, called⟩⟩ := invokeSigned_ok called
  · exact .proposal l₂ l begins signers own decoded (evaluates _ _ _ _ called)
  · obtain ⟨l₃, gateway, calls, rfl⟩ := invokeExternal_ok called
    cases kind <;> exact .external l begins other calls

/-- **Every successful instruction evaluates.** -/
theorem process_evaluates {depth : Nat} {ctx : Ctx} {instruction : GovernanceInstruction}
    {s s' : World} (h : process env depth ctx instruction s = .ok s') :
    Evaluates env ctx instruction s s' := by
  -- by induction on the depth of the calls: only the inner call of an execution is one level deeper
  induction depth generalizing ctx instruction s s' with
  | zero => exact absurd h throw_ne_ok
  | succ depth ih =>
    cases instruction with
    | initializeConfig params =>
      obtain ⟨l, effect⟩ := initializeConfig_ok h
      exact .effect l effect
    | updateConfig params =>
      obtain ⟨l, effect⟩ := updateConfig_ok h
      exact .effect l effect
    | execute message payload =>
      obtain ⟨config, hash, accounts, instruction, gateway, s₁, accepted, called, rfl⟩ :=
        execute_ok h
      exact .execute accepted (ih called)
    | scheduleTimelockProposal hash eta nativeValue target callData =>
      obtain ⟨l, effect⟩ := scheduleTimelockProposal_ok h
      exact .effect l effect
    | cancelTimelockProposal hash eta nativeValue target callData =>
      obtain ⟨l, effect⟩ := cancelTimelockProposal_ok h
      exact .effect l effect
    | approveOperatorProposal hash nativeValue target callData =>
      obtain ⟨l, effect⟩ := approveOperatorProposal_ok h
      exact .effect l effect
    | cancelOperatorProposal hash nativeValue target callData =>
      obtain ⟨l, effect⟩ := cancelOperatorProposal_ok h
      exact .effect l effect
    | executeTimelockProposal data =>
      obtain ⟨hash, config, key, proposal, s₁, begins, called, rfl⟩ :=
        executeTimelockProposal_ok h
      exact evaluates_of_cpi _ (fun _ _ _ _ => ih) begins called
    | executeOperatorProposal data =>
      obtain ⟨hash, config, key, proposal, s₁, begins, called, rfl⟩ :=
        executeOperatorProposal_ok h
      exact evaluates_of_cpi _ (fun _ _ _ _ => ih) begins called
    | transferOperatorship newOperator =>
      obtain ⟨l, effect⟩ := transferOperatorship_ok h
      exact .effect l effect
    | withdrawTokens amount =>
      obtain ⟨l, effect⟩ := withdrawTokens_ok h
      exact .effect l effect

end AxelarSolana.Governance
