import AxelarSolana.Governance.ExecutedIsScheduled
import AxelarSolana.Governance.Timelock
import AxelarSolana.Library.Matching

/-! # The funds of governance

`governance_config` holds the lamports that proposals pay out. Only its own program can take from it,
and does so where it moves the native value of a proposal, withdraws, or pays for an account.

* **`cost`** — what an instruction may take from the account that pays for it.
* **`outlay`** — what the execution of a proposal may take: its native value, and the cost of the
  instruction of governance that it calls.
* **`process_spends`** — an instruction, with the calls below it, takes no more than the outlay of the
  proposals that it executes and the cost that it is charged itself.
* **`executions_le_schedules`** — a proposal is executed at most as often as it is scheduled.
* **`governance_spends_by_proposals`** — both, over every run. -/

namespace AxelarSolana.Governance

open Fallible Machine Totals
open Gateway (padTo)

/-! ## What instructions cost -/

/-- **What an instruction may take from the account that pays for it.** -/
def GovernanceInstruction.cost (env : Env) : GovernanceInstruction → Nat
  | .initializeConfig _ => env.minimumBalance GovernanceConfig.space
  | .execute .. =>
    max (env.minimumBalance ExecutableProposal.space) (env.minimumBalance OperatorProposal.space)
  | .scheduleTimelockProposal .. => env.minimumBalance ExecutableProposal.space
  | .approveOperatorProposal .. => env.minimumBalance OperatorProposal.space
  | .withdrawTokens amount => amount.toNat
  | _ => 0

/-- The position of the account that pays. -/
def GovernanceInstruction.payer : GovernanceInstruction → Nat
  | .execute .. => 6
  | .scheduleTimelockProposal .. => 2
  | .approveOperatorProposal .. => 1
  | .withdrawTokens _ => 1
  | _ => 0

/-- Whether an address signs at a position. -/
def Ctx.pays (ctx : Ctx) (key : Pubkey) (i : Nat) : Bool :=
  (ctx.accounts[i]?).any fun a => a.isSigner && a.pubkey = key

/-- **What an instruction may charge to an address.** -/
def GovernanceInstruction.charge (env : Env) (ctx : Ctx) (key : Pubkey)
    (instruction : GovernanceInstruction) : Nat :=
  if ctx.pays key instruction.payer then instruction.cost env else 0

/-- **What the execution of a proposal may take**, by the fields of its event: the native value, and
the cost of the instruction of governance that it calls. -/
def outlay (env : Env) (target callData nativeValue : Bytes) : Nat :=
  LittleEndian.decode nativeValue +
    if target = env.governanceId.toList then
      (env.decodeInstruction callData).elim 0 (GovernanceInstruction.cost env)
    else 0

/-- The outlay of an entry: that of the proposal whose execution it reports. -/
def LogEntry.outlay (env : Env) (e : LogEntry) : Int :=
  match e.event with
  | .emitted (.proposalExecuted _ target callData nativeValue _)
  | .emitted (.operatorProposalExecuted _ target callData nativeValue) =>
    Governance.outlay env target callData nativeValue
  | _ => 0

variable {env : Env} {ctx : Ctx} {key : Pubkey} {s s' : World}

/-- An entry never brings money in. -/
theorem LogEntry.outlay_nonneg (env : Env) (e : LogEntry) : 0 ≤ e.outlay env := by
  unfold LogEntry.outlay
  split <;> omega

/-- The account at the position pays when it signs. -/
theorem Ctx.pays_of_account {i : Nat} {a : AccountMeta} (account : ctx.accounts[i]? = some a)
    (signed : a.isSigner = true) : ctx.pays key i = decide (a.pubkey = key) := by
  rw [Ctx.pays, account, Option.any_some, signed, Bool.true_and]

/-- An address that pays is one of the signers. -/
theorem Ctx.mem_signers_of_pays {i : Nat} (h : ctx.pays key i = true) : key ∈ ctx.signers := by
  rw [Ctx.pays, Option.any_eq_true] at h
  obtain ⟨a, account, pays⟩ := h
  rw [Bool.and_eq_true, decide_eq_true_eq] at pays
  obtain ⟨signed, rfl⟩ := pays
  exact Ctx.mem_signers_of_account account signed

/-- Nothing is charged to an address that does not sign. -/
theorem charge_of_unsigned (unsigned : key ∉ ctx.signers) (instruction : GovernanceInstruction) :
    instruction.charge env ctx key = 0 := by
  rw [GovernanceInstruction.charge, if_neg]
  exact fun pays => unsigned (Ctx.mem_signers_of_pays pays)

/-- What is charged to the account that pays. -/
theorem charge_of_account {instruction : GovernanceInstruction} {a : AccountMeta}
    (account : ctx.accounts[instruction.payer]? = some a) (signed : a.isSigner = true) :
    instruction.charge env ctx key = if a.pubkey = key then instruction.cost env else 0 := by
  rw [GovernanceInstruction.charge, Ctx.pays_of_account account signed]
  by_cases same : a.pubkey = key
  · rw [if_pos (decide_eq_true same), if_pos same]
  · rw [if_neg (by simp [same]), if_neg same]

/-- No address is charged more than the cost of the instruction. -/
theorem charge_le_cost (env : Env) (ctx : Ctx) (key : Pubkey)
    (instruction : GovernanceInstruction) :
    instruction.charge env ctx key ≤ instruction.cost env := by
  unfold GovernanceInstruction.charge
  split <;> omega

/-! ## Lamports -/

/-- A transfer takes from its source only. -/
theorem le_moveLamports (s : World) (key source destination : Pubkey) (amount : Nat) :
    s.lamports key ≤ (s.moveLamports source destination amount).lamports key +
      if source = key then amount else 0 := by
  unfold World.moveLamports
  by_cases received : key = destination
  · subst received
    by_cases paid : source = key
    · subst paid
      simp only [Function.update_self, if_true]
      omega
    · simp only [Function.update_self, Function.update_of_ne (Ne.symm paid), if_neg paid]
      omega
  · by_cases paid : source = key
    · subst paid
      simp only [Function.update_of_ne received, Function.update_self, if_true]
      omega
    · simp only [Function.update_of_ne received, Function.update_of_ne (Ne.symm paid), if_neg paid]
      omega

/-- An account that is closed pays out, also when it is closed to itself. -/
theorem le_closeAccount (s : World) (closed : Pubkey) :
    s.lamports key ≤ (closeAccount closed key s).lamports key := by
  unfold closeAccount World.moveLamports
  by_cases same : closed = key
  · subst same
    simp only [Function.update_self]
    omega
  · simp only [Function.update_self, Function.update_of_ne (Ne.symm same)]
    omega

/-- To create an account takes at most its rent, from the payer. -/
theorem le_createAccount {payer created : Pubkey} {space : Nat}
    (h : createAccount env payer created space s = .ok s') :
    s.lamports key ≤ s'.lamports key + if payer = key then env.minimumBalance space else 0 := by
  simp only [createAccount, bind_eq_ok, pure_eq_ok] at h
  obtain ⟨_, -, rfl⟩ := h
  have moved := le_moveLamports s key payer created
    (env.minimumBalance space - s.lamports created)
  by_cases same : payer = key
  · rw [if_pos same] at moved ⊢
    omega
  · rw [if_neg same] at moved ⊢
    exact moved

/-! ## Instructions that call no other -/

/-- **The configuration is at the address of `governance_config`.** -/
def Anchored (env : Env) (key : Pubkey) (s : World) : Prop :=
  ∀ config, s.accounts.config = some config → configAddress env config.bump = some key

/-- The configuration keeps its bump, which is the one found when it is created. -/
theorem Evaluates.anchored {bump : UInt8} {instruction : GovernanceInstruction}
    (derived : env.findProgramAddress [GovernanceConfig.seedPrefix] env.governanceId
      = .ok (key, bump))
    (h : Evaluates env ctx instruction s s') (before : Anchored env key s) :
    Anchored env key s' := by
  intro config stored'
  cases h with
  | effect l effect =>
    cases effect with
    | initializeConfig params config' authority key' fresh authorised signed address =>
      cases stored'
      rw [derived, Except.ok.injEq, Prod.mk.injEq] at address
      rw [← address.2]
      exact env.createProgramAddress_of_find derived
    | updateConfig params config' stored =>
      cases stored'
      exact before config' stored
    | transferOperatorship newOperator config' stored =>
      cases stored'
      exact before config' stored
    | _ => exact before config stored'
  | execute accepted inner =>
    cases stored'
    exact before config accepted.stored
  | @proposal kind _ _ _ config' _ _ _ _ _ _ _ begins =>
    have same : some config' = some config := by
      cases kind <;> exact stored'
    cases same
    exact before _ begins.stored
  | @external kind _ _ _ config' _ _ _ _ _ begins =>
    have same : some config' = some config := by
      cases kind <;> exact stored'
    cases same
    exact before _ begins.stored

/-- `initialize_config` takes no more from an address than it charges: the rent of the account. -/
theorem initializeConfig_spends {params : GovernanceConfigInit}
    (h : initializeConfig env ctx params s = .ok s') : s.lamports key ≤ s'.lamports key +
      GovernanceInstruction.charge env ctx key (.initializeConfig params) := by
  simp only [initializeConfig, bind_eq_ok, Ctx.account_eq_ok, signer_eq_ok, pure_eq_ok] at h
  obtain ⟨payer, account, _, signed, _, -, _, -, _, -, bump, -, s₁, paid, _, -, _, -, rfl⟩ := h
  rw [charge_of_account account signed]
  have moved : s.lamports key ≤ s₁.lamports key + _ := le_createAccount paid
  exact moved

/-- A withdrawal takes no more from an address than it charges: the amount, which
`governance_config` signs for. -/
theorem withdrawTokens_spends {amount : UInt64} (h : withdrawTokens env ctx amount s = .ok s') :
    s.lamports key ≤ s'.lamports key +
      GovernanceInstruction.charge env ctx key (.withdrawTokens amount) := by
  simp only [withdrawTokens, bind_eq_ok, Ctx.account_eq_ok, require_eq_ok, pure_eq_ok] at h
  obtain ⟨a, account, config, -, _, signed, receiver, -, _, -, _, -, rfl⟩ := h
  rw [charge_of_account account signed]
  exact le_moveLamports _ _ _ _ _

/-- A schedule takes no more from an address than it charges: the rent of the proposal. -/
theorem scheduleTimelockProposal_spends {hash : Bytes32} {eta : UInt64}
    {nativeValue target callData : Bytes}
    (h : scheduleTimelockProposal env ctx hash eta nativeValue target callData s = .ok s') :
    s.lamports key ≤ s'.lamports key + GovernanceInstruction.charge env ctx key
      (.scheduleTimelockProposal hash eta nativeValue target callData) := by
  simp only [scheduleTimelockProposal, bind_eq_ok, Ctx.account_eq_ok, signer_eq_ok,
    pure_eq_ok] at h
  obtain ⟨_, -, config, -, payer, account, _, signed, _, -, bump, -, s₁, paid, _, -, _, -, managed, -,
    finalEta, -, rfl⟩ := h
  rw [charge_of_account account signed]
  have moved : s.lamports key ≤ s₁.lamports key + _ := le_createAccount paid
  exact moved

/-- An approval takes no more from an address than it charges: the rent of the marker. -/
theorem approveOperatorProposal_spends {hash : Bytes32} {nativeValue target callData : Bytes}
    (h : approveOperatorProposal env ctx hash nativeValue target callData s = .ok s') :
    s.lamports key ≤ s'.lamports key + GovernanceInstruction.charge env ctx key
      (.approveOperatorProposal hash nativeValue target callData) := by
  simp only [approveOperatorProposal, bind_eq_ok, Ctx.account_eq_ok, signer_eq_ok,
    pure_eq_ok] at h
  obtain ⟨payer, account, _, signed, _, -, config, -, _, -, proposal, -, _, -, bump, -, s₁, paid, _, -,
    _, -, _, -, _, -, rfl⟩ := h
  rw [charge_of_account account signed]
  have moved : s.lamports key ≤ s₁.lamports key + _ := le_createAccount paid
  exact moved

/-- Closing a proposal pays `governance_config`. -/
theorem cancelTimelockProposal_spends (anchored : Anchored env key s) {hash : Bytes32}
    {eta : UInt64} {nativeValue target callData : Bytes}
    (h : cancelTimelockProposal env ctx hash eta nativeValue target callData s = .ok s') :
    s.lamports key ≤ s'.lamports key := by
  simp only [cancelTimelockProposal, bind_eq_ok, pure_eq_ok, governanceConfigAccount_eq_ok] at h
  obtain ⟨a, -, config, ⟨stored, address⟩, _, -, proposalPda, -, proposal, -, _, -, rfl⟩ := h
  have same : a.pubkey = key := Option.some.inj (address.symm.trans (anchored config stored))
  rw [same]
  exact le_closeAccount _ _

/-- And so does closing an operator marker. -/
theorem cancelOperatorProposal_spends (anchored : Anchored env key s) {hash : Bytes32}
    {nativeValue target callData : Bytes}
    (h : cancelOperatorProposal env ctx hash nativeValue target callData s = .ok s') :
    s.lamports key ≤ s'.lamports key := by
  simp only [cancelOperatorProposal, bind_eq_ok, pure_eq_ok, governanceConfigAccount_eq_ok] at h
  obtain ⟨a, -, config, ⟨stored, address⟩, _, -, _, -, proposal, -, marker, -, _, -, _, -, rfl⟩ := h
  have same : a.pubkey = key := Option.some.inj (address.symm.trans (anchored config stored))
  rw [same]
  exact le_closeAccount _ _

/-! ## The GMP entry point -/

/-- **A command is charged to whom the entry point is charged to.** -/
theorem execute_spends (key : Pubkey) {invoke : Entry} {message : Message} {payload : Bytes}
    (h : execute env invoke ctx message payload s = .ok s') :
    ∃ ctx' instruction gateway s₁, invoke ctx' instruction { s with gateway } = .ok s₁ ∧
      s'.lamports = s₁.lamports ∧ s'.log = s₁.log ∧
      GovernanceInstruction.charge env ctx' key instruction
        ≤ GovernanceInstruction.charge env ctx key (.execute message payload) := by
  simp only [execute, bind_eq_ok, Ctx.account_eq_ok, signer_eq_ok, pure_eq_ok] at h
  obtain ⟨incoming, -, signingPda, -, _, -, systemProgram, -, payer, account, _, signed, a, -,
    config, -, proposalPda, -, operatorProposalPda, -, authority, -, program, -, _, -, gateway, -,
    ⟨cmdPayload, target, callData, hash⟩, -, s₁, processed, rfl⟩ := h
  rw [charge_of_account account signed]
  simp only [processProposalGmp] at processed
  cases command : cmdPayload.command with
  | invalid =>
    rw [command] at processed
    exact absurd processed throw_ne_ok
  | scheduleTimeLockProposal =>
    rw [command] at processed
    simp only [bind_eq_ok] at processed
    obtain ⟨⟨eta, nativeValue, callData, target⟩, -, called⟩ := processed
    refine ⟨_, _, gateway, s₁, called, rfl, rfl, ?_⟩
    rw [charge_of_account rfl signed]
    simp only [GovernanceInstruction.cost]
    split <;> omega
  | approveOperatorProposal =>
    rw [command] at processed
    simp only [bind_eq_ok] at processed
    obtain ⟨⟨eta, nativeValue, callData, target⟩, -, called⟩ := processed
    refine ⟨_, _, gateway, s₁, called, rfl, rfl, ?_⟩
    rw [charge_of_account rfl signed]
    simp only [GovernanceInstruction.cost]
    split <;> omega
  | cancelTimeLockProposal | cancelOperatorApproval =>
    -- what a cancellation costs is nothing
    rw [command] at processed
    simp only [bind_eq_ok] at processed
    obtain ⟨⟨eta, nativeValue, callData, target⟩, -, called⟩ := processed
    exact ⟨_, _, gateway, s₁, called, rfl, rfl, (charge_le_cost env _ key _).trans (Nat.zero_le _)⟩

/-! ## Executions -/

/-- The payment of an execution takes the native value. -/
theorem Pays.spends {data : ExecuteProposalData} {value : UInt64} (h : Pays data key s value s') :
    s.lamports key ≤ s'.lamports key + value.toNat := by
  cases h with
  | nothing => exact Nat.le_add_right _ _
  | receiver _ receiver positive named funded =>
    have moved := le_moveLamports s key key receiver.pubkey value.toNat
    rwa [if_pos rfl] at moved

/-- **What the call of a proposal takes**: the native value before it; then it goes into governance, or
into a program outside, which takes nothing. -/
theorem executeProposalCpi_spends {invoke : Entry} {data : ExecuteProposalData}
    {remainingAccounts : List AccountMeta}
    (h : executeProposalCpi env invoke ctx data remainingAccounts key s = .ok s') :
    ∃ s₁ : World, s₁.log = s.log ∧ s₁.accounts = s.accounts ∧
      s.lamports key ≤ s₁.lamports key + LittleEndian.decode data.nativeValue.toList ∧
      ((data.targetAddress = env.governanceId ∧ ∃ inner,
          env.decodeInstruction data.callData.callData = some inner ∧
          invoke ⟨ctx.sysvar, .proposal data, mergePrivileges data.instruction.accounts⟩ inner s₁
            = .ok s') ∨
        (s'.log = s₁.log ∧ s₁.lamports key ≤ s'.lamports key)) := by
  obtain ⟨value, s₁, read, paid, called⟩ := executeProposalCpi_ok h
  have spends := paid.spends
  rw [← checkedFromU256LeBytesToU64_eq_ok.mp read] at spends
  have frame : s₁.log = s.log ∧ s₁.accounts = s.accounts := by
    obtain ⟨l, rfl⟩ := paid.withLamports
    exact ⟨rfl, rfl⟩
  refine ⟨s₁, frame.1, frame.2, spends, ?_⟩
  rcases (invokeSigned_ok called).2 with own | ⟨other, called⟩
  · exact .inl own
  · -- a program outside does not own `governance_config`
    simp only [invokeExternal, bind_eq_ok, require_eq_ok, pure_eq_ok] at called
    obtain ⟨effect, -, _, kept, gateway, -, rfl⟩ := called
    exact .inr ⟨rfl, kept⟩

/-- What an execution closes pays `governance_config`. -/
theorem le_refund (kind : ExecutionKind) (s : World) : s.lamports key ≤ kind.refund ctx key s key := by
  unfold ExecutionKind.refund
  induction kind.closed ctx generalizing s with
  | nil => exact le_rfl
  | cons account closed ih => exact (le_closeAccount _ _).trans (ih _)

/-- **An execution**: the world it ends in, and what its call was called with. -/
theorem execution_spends {depth : Nat} {kind : ExecutionKind} {data : ExecuteProposalData}
    (anchored : Anchored env key s)
    (h : process env depth ctx (kind.instruction data) s = .ok s') :
    ∃ depth' hash eta remainingAccounts s₁, depth = depth' + 1 ∧
      executeProposalCpi env (process env depth') ctx data remainingAccounts key
        (kind.beginning ctx hash data s) = .ok s₁ ∧
      s₁.lamports key ≤ s'.lamports key ∧
      s'.log = s₁.log ++ [s₁.entry ctx (.emitted (kind.executed hash data eta))] := by
  obtain ⟨depth', hash, config, own, proposal, s₁, rfl, begins, called, rfl⟩ :=
    process_execution_ok h
  have same : own = key := Option.some.inj (begins.address.symm.trans (anchored config begins.stored))
  rw [same] at called ⊢
  exact ⟨depth', hash, proposal.eta, _, s₁, rfl, called, le_refund kind s₁, by cases kind <;> rfl⟩

/-- The outlay that the event of an execution reports. -/
theorem outlay_executed (kind : ExecutionKind) (hash : Bytes32) (data : ExecuteProposalData)
    (eta : UInt64) (s : World) :
    (s.entry ctx (.emitted (kind.executed hash data eta))).outlay env
      = outlay env data.targetAddress.toList data.callData.callData data.nativeValue.toList := by
  cases kind <;> rfl

/-- **An instruction spends** no more than the outlay of the proposals that it executes, with the calls
below it, and what it is charged itself. -/
def Spends (env : Env) (key : Pubkey) (ctx : Ctx) (instruction : GovernanceInstruction)
    (s s' : World) : Prop :=
  ∃ entries, s'.log = s.log ++ entries ∧ (s.lamports key : Int) ≤ s'.lamports key +
    total (LogEntry.outlay env) entries + instruction.charge env ctx key

variable {instruction : GovernanceInstruction}

/-- An instruction that executes nothing. -/
theorem spends_of_charge (h : Evaluates env ctx instruction s s')
    (charged : s.lamports key ≤ s'.lamports key + instruction.charge env ctx key) :
    Spends env key ctx instruction s s' := by
  obtain ⟨entries, frame⟩ := h.frame
  have nonneg : 0 ≤ total (LogEntry.outlay env) entries :=
    total_nonneg fun e _ => e.outlay_nonneg env
  exact ⟨entries, frame.log, by omega⟩

/-- An execution: its event reports what it has paid itself, and what its call may have cost. -/
theorem spends_of_execution {depth : Nat} (kind : ExecutionKind) {data : ExecuteProposalData}
    (anchored : Anchored env key s)
    (below : ∀ ctx instruction s s', Anchored env key s →
      process env depth ctx instruction s = .ok s' → Spends env key ctx instruction s s')
    (h : process env (depth + 1) ctx (kind.instruction data) s = .ok s') :
    Spends env key ctx (kind.instruction data) s s' := by
  obtain ⟨_, hash, eta, remainingAccounts, s₁, same, called, closed, log⟩ :=
    execution_spends anchored h
  cases same
  obtain ⟨s₂, log₂, accounts₂, paid, call⟩ := executeProposalCpi_spends called
  have began : s₂.log = s.log ++ [s.entry ctx (kind.began hash data)] := log₂
  have quiet : (s.entry ctx (kind.began hash data)).outlay env = 0 := by
    cases kind <;> rfl
  have paid : s.lamports key ≤ s₂.lamports key + LittleEndian.decode data.nativeValue.toList := paid
  -- a call of governance itself spends one level below; any other leaves the account
  rcases call with ⟨own, inner, decoded, called⟩ | ⟨log₁, kept⟩
  · have anchored₂ : Anchored env key s₂ := by
      unfold Anchored
      rw [accounts₂]
      exact anchored
    obtain ⟨entries, grows, spends⟩ := below _ inner s₂ s₁ anchored₂ called
    have cost := charge_le_cost env ⟨ctx.sysvar, .proposal data,
      mergePrivileges data.instruction.accounts⟩ key inner
    refine ⟨s.entry ctx (kind.began hash data) :: entries ++
      [s₁.entry ctx (.emitted (kind.executed hash data eta))], ?_, ?_⟩
    · rw [log, grows, began]
      simp
    · rw [total_append, total_cons, total_cons, total_nil, quiet, outlay_executed, outlay,
        if_pos (by rw [own]), decoded, Option.elim_some]
      omega
  · refine ⟨[s.entry ctx (kind.began hash data),
      s₁.entry ctx (.emitted (kind.executed hash data eta))], ?_, ?_⟩
    · rw [log, log₁, began]
      simp
    · rw [total_cons, total_cons, total_nil, quiet, outlay_executed, outlay]
      omega

/-- **Every instruction spends no more than that.** The induction is on the depth of the calls. -/
theorem process_spends {depth : Nat} (anchored : Anchored env key s)
    (h : process env depth ctx instruction s = .ok s') : Spends env key ctx instruction s s' := by
  -- by induction on the depth of the calls: an execution takes its value, and what its call spends
  induction depth generalizing ctx instruction s s' with
  | zero => exact absurd h throw_ne_ok
  | succ depth ih =>
    have evaluates := process_evaluates h
    cases instruction with
    | initializeConfig params => exact spends_of_charge evaluates (initializeConfig_spends h)
    | updateConfig params =>
      apply spends_of_charge evaluates
      change updateConfig env ctx params s = .ok s' at h
      simp only [updateConfig, bind_eq_ok, pure_eq_ok] at h
      obtain ⟨_, -, _, -, _, -, config, -, _, -, found, -, _, -, config', -, rfl⟩ := h
      exact Nat.le_add_right _ _
    | execute message payload =>
      obtain ⟨ctx', inner, gateway, s₁, called, lamports, log, charged⟩ := execute_spends key h
      have anchored' : Anchored env key { s with gateway } := anchored
      obtain ⟨entries, grows, spends⟩ := ih anchored' called
      have before : (s.lamports key : Int) ≤ s₁.lamports key + total (LogEntry.outlay env) entries +
        inner.charge env ctx' key := spends
      refine ⟨entries, log.trans grows, ?_⟩
      rw [lamports]
      omega
    | scheduleTimelockProposal hash eta nativeValue target callData =>
      exact spends_of_charge evaluates (scheduleTimelockProposal_spends h)
    | cancelTimelockProposal hash eta nativeValue target callData =>
      exact spends_of_charge evaluates
        ((cancelTimelockProposal_spends anchored h).trans (Nat.le_add_right _ _))
    | approveOperatorProposal hash nativeValue target callData =>
      exact spends_of_charge evaluates (approveOperatorProposal_spends h)
    | cancelOperatorProposal hash nativeValue target callData =>
      exact spends_of_charge evaluates
        ((cancelOperatorProposal_spends anchored h).trans (Nat.le_add_right _ _))
    | executeTimelockProposal data =>
      exact spends_of_execution .timelock anchored (fun _ _ _ _ before => ih before) h
    | executeOperatorProposal data =>
      exact spends_of_execution .operator anchored (fun _ _ _ _ before => ih before) h
    | transferOperatorship newOperator =>
      apply spends_of_charge evaluates
      change transferOperatorship env ctx newOperator s = .ok s' at h
      simp only [transferOperatorship, bind_eq_ok, pure_eq_ok] at h
      obtain ⟨_, -, _, -, config, -, _, -, rfl⟩ := h
      exact Nat.le_add_right _ _
    | withdrawTokens amount => exact spends_of_charge evaluates (withdrawTokens_spends h)

/-! ## Executions and schedules -/

/-- The proposal whose execution an event reports. -/
def LogEvent.executed? : LogEvent → Option Bytes32
  | .emitted (.proposalExecuted hash _ _ _ _) => some hash
  | .emitted (.operatorProposalExecuted hash _ _ _) => some hash
  | _ => none

/-- The proposal that an event schedules. -/
def LogEvent.scheduled? : LogEvent → Option Bytes32
  | .emitted (.proposalScheduled hash _ _ _ _) => some hash
  | _ => none

/-- The executions of a log, by hash. -/
def executedHashes (log : List LogEntry) : List Bytes32 := log.filterMap fun e => e.event.executed?

/-- The schedules of a log, by hash. -/
def scheduledHashes (log : List LogEntry) : List Bytes32 := log.filterMap fun e => e.event.scheduled?

/-- Only executions have an outlay. -/
theorem outlay_of_not_executed {e : LogEntry} (h : e.event.executed? = none) : e.outlay env = 0 := by
  unfold LogEntry.outlay
  split
  case h_1 event =>
    rw [event] at h
    cases h
  case h_2 event =>
    rw [event] at h
    cases h
  case h_3 => rfl

/-- An appended entry counts as an execution of the hash that it names. -/
theorem count_executedHashes_append (log : List LogEntry) (e : LogEntry) (hash : Bytes32) :
    (executedHashes (log ++ [e])).count hash
      = (executedHashes log).count hash + if e.event.executed? = some hash then 1 else 0 := by
  rw [executedHashes, List.filterMap_append, List.count_append]
  cases here : e.event.executed? with
  | none => simp [executedHashes, here]
  | some hash' => simp [executedHashes, here, List.count_cons]

/-- An appended entry counts as a scheduling of the hash that it names. -/
theorem count_scheduledHashes_append (log : List LogEntry) (e : LogEntry) (hash : Bytes32) :
    (scheduledHashes (log ++ [e])).count hash
      = (scheduledHashes log).count hash + if e.event.scheduled? = some hash then 1 else 0 := by
  rw [scheduledHashes, List.filterMap_append, List.count_append]
  cases here : e.event.scheduled? with
  | none => simp [scheduledHashes, here]
  | some hash' => simp [scheduledHashes, here, List.count_cons]

/-- **Every execution has its schedule**, and so has a proposal that is pending. -/
def Balanced (s : World) : Prop :=
  ∀ hash, (executedHashes s.log).count hash +
    (if (s.accounts.proposals hash).isSome then 1 else 0) ≤ (scheduledHashes s.log).count hash

/-- One entry keeps the balance: it executes only what is pending. -/
theorem Balanced.logged {e : LogEvent} (inv : Balanced s) (h : Logged ctx e s s')
    (pending : ∀ hash, e.executed? = some hash → (s.accounts.proposals hash).isSome = true) :
    Balanced s' := by
  intro hash
  have before := inv hash
  have after := h.proposals hash
  rw [h.log, count_executedHashes_append, count_scheduledHashes_append, World.entry_event]
  by_cases same : e.proposal? = some hash
  · rw [if_pos same] at after
    have isSome : (s'.accounts.proposals hash).isSome = e.eta?.isSome := by
      rw [← after, Option.isSome_map]
    rw [isSome]
    unfold LogEvent.proposal? at same
    split at same
    case h_1 =>
      -- a schedule
      cases same
      simp only [LogEvent.executed?, LogEvent.scheduled?, LogEvent.eta?, reduceCtorEq, if_false,
        if_true, Option.isSome_some]
      omega
    case h_2 =>
      -- a cancellation
      cases same
      simp only [LogEvent.executed?, LogEvent.scheduled?, LogEvent.eta?, reduceCtorEq, if_false,
        Option.isSome_none, Bool.false_eq_true]
      omega
    case h_5 => cases same
    all_goals
      -- an execution
      cases same
      rw [if_pos (pending hash rfl)] at before
      simp only [LogEvent.executed?, LogEvent.scheduled?, LogEvent.eta?, reduceCtorEq, if_false,
        if_true, Option.isSome_none, Bool.false_eq_true]
      omega
  · rw [if_neg same] at after
    have notExecuted : e.executed? ≠ some hash := by
      intro executed
      apply same
      unfold LogEvent.executed? at executed
      split at executed <;> first | exact executed | cases executed
    have notScheduled : e.scheduled? ≠ some hash := by
      intro scheduled
      apply same
      unfold LogEvent.scheduled? at scheduled
      split at scheduled <;> first | exact scheduled | cases scheduled
    rw [after, if_neg notExecuted, if_neg notScheduled]
    omega

/-- The balance of schedulings and executions depends on the log and the proposals only. -/
theorem Balanced.congr (inv : Balanced s) (log : s'.log = s.log)
    (proposals : s'.accounts.proposals = s.accounts.proposals) : Balanced s' := by
  intro hash
  rw [log, proposals]
  exact inv hash

/-- An instruction without calls executes nothing. -/
theorem Effect.not_executed {l : Pubkey → Nat} (h : Effect env ctx s l instruction s')
    {e : LogEvent} (logged : Logged ctx e s s') : e.executed? = none := by
  cases h
  all_goals
    obtain rfl := logged.event_eq rfl
    rfl

/-- A prefix of a log without self references has none. -/
theorem NoSelfReference.mono {log log' : List LogEntry} (h : NoSelfReference env log')
    (sub : log ⊆ log') : NoSelfReference env log := fun b mem => h b (sub mem)

/-- **Evaluations keep the balance**, as long as no proposal names itself. -/
theorem Balanced.evaluates (h : Evaluates env ctx instruction s s')
    (noSelfReference : NoSelfReference env s'.log) (inv : Balanced s) : Balanced s' := by
  induction h with
  | effect l effect =>
    obtain ⟨e, logged⟩ := effect.logged
    refine inv.logged logged fun hash executed => ?_
    rw [effect.not_executed logged] at executed
    cases executed
  | execute accepted inner ih =>
    exact (ih noSelfReference (inv.congr rfl rfl)).congr rfl rfl
  | @proposal kind ctx data hash config key proposal s s₁ instruction l l' begins _ own decoded
      inner ih =>
    have last := kind.ending_logged ctx hash data config proposal.eta s₁
    have earlier : s₁.log ⊆ (kind.ending ctx hash data config proposal.eta s₁).log := by
      rw [last.log]
      exact List.subset_append_left _ _
    have first := inv.logged (kind.beginning_logged ctx hash data s) (by
      cases kind <;> exact fun _ executed => by cases executed)
    have call : Balanced s₁ := ih (noSelfReference.mono earlier) (first.congr rfl rfl)
    refine (call.logged last fun hash' executed => ?_).congr rfl rfl
    have same : hash' = hash := by
      cases kind <;> exact (Option.some.inj executed).symm
    -- the call does not name the proposal, which is still there
    have kept := inner.keeps_proposal begins.pending (by
      refine noSelfReference (s.entry ctx (kind.began hash data)) (earlier ?_) kind hash data rfl own
        _ decoded
      exact inner.log_prefix.subset (List.mem_append_right _ List.mem_cons_self))
    rw [same, kept]
    rfl
  | @external kind ctx data hash config key proposal s gateway l begins _ calls =>
    have first := inv.logged (kind.beginning_logged ctx hash data s) (by
      cases kind <;> exact fun _ executed => by cases executed)
    have call : Balanced { kind.beginning ctx hash data s with gateway } := first.congr rfl rfl
    refine (call.logged (kind.ending_logged ctx hash data config proposal.eta _)
      fun hash' executed => ?_).congr rfl rfl
    have same : hash' = hash := by
      cases kind <;> exact (Option.some.inj executed).symm
    have pending : ({ kind.beginning ctx hash data s with gateway } : World).accounts.proposals hash
        = some proposal := begins.pending
    rw [same, pending]
    rfl

/-- **A proposal is executed at most as often as it is scheduled.** -/
theorem executions_le_schedules (env : Env) (l : Pubkey → Nat) (calls : List Call) :
    NoSelfReference env (run (step env) (World.initial l) calls).log →
      Balanced (run (step env) (World.initial l) calls) := by
  refine run_invariant (P := fun s : World => NoSelfReference env s.log → Balanced s) ?_ ?_ calls
  · intro _ hash
    exact Nat.le_refl 0
  · intro s call s' before success noSelfReference
    cases step_evaluates success with
    | governance sysvar accounts instruction s' unsigned evaluates =>
      exact Balanced.evaluates evaluates noSelfReference
        (before (noSelfReference.mono evaluates.log_prefix.subset))
    | gateway call gateway processed => exact (before noSelfReference).congr rfl rfl
    | balances l => exact (before noSelfReference).congr rfl rfl

/-! ## Runs -/

/-- Whether a call changes balances from outside. -/
def Call.isBalances : Call → Bool
  | .balances _ => true
  | _ => false

/-- `governance_config` stays where it was derived, over every run. -/
theorem anchored_run {bump : UInt8}
    (derived : env.findProgramAddress [GovernanceConfig.seedPrefix] env.governanceId
      = .ok (key, bump)) (l : Pubkey → Nat) (calls : List Call) :
    Anchored env key (run (step env) (World.initial l) calls) := by
  refine run_invariant (P := fun s : World => Anchored env key s) ?_ ?_ calls
  · rintro config ⟨⟩
  · intro s call s' before success
    cases step_evaluates success with
    | governance sysvar accounts instruction s' unsigned evaluates =>
      exact evaluates.anchored derived before
    | gateway call gateway processed => exact before
    | balances l => exact before

/-- **A committed call** by which others change no balances: from outside, `governance_config` is charged
nothing itself. -/
theorem call_spends {bump : UInt8}
    (derived : env.findProgramAddress [GovernanceConfig.seedPrefix] env.governanceId
      = .ok (key, bump)) (l : Pubkey → Nat) (calls : List Call) {t : Transition World Call}
    (mem : t ∈ trace (step env) (World.initial l) calls) (own : t.call.isBalances = false) :
    ∃ entries, t.post.log = t.pre.log ++ entries ∧
      (t.pre.lamports key : Int) ≤ t.post.lamports key + total (LogEntry.outlay env) entries := by
  obtain ⟨before, after, split⟩ := List.append_of_mem mem
  obtain ⟨calls₁, calls₂, -, -, here⟩ := exists_calls_of_trace_eq split
  have anchored := anchored_run derived l calls₁
  rw [here] at anchored
  have success := step_of_mem_trace mem
  obtain ⟨pre, call, post⟩ := t
  cases call with
  | balances l => cases own
  | gateway call =>
    simp only [step, bind_eq_ok, pure_eq_ok] at success
    obtain ⟨gateway, -, rfl⟩ := success
    refine ⟨[], (List.append_nil _).symm, ?_⟩
    rw [total_nil, Int.add_zero]
  | governance sysvar accounts instruction =>
    have cases := step_evaluates success
    simp only [step, bind_eq_ok] at success
    obtain ⟨_, -, processed⟩ := success
    obtain ⟨entries, log, spends⟩ := process_spends anchored processed
    refine ⟨entries, log, ?_⟩
    -- from outside nobody signs for the account, so nothing is charged to it
    have unsigned : key ∉ (Ctx.mk sysvar .external (mergePrivileges accounts)).signers := by
      intro signed
      cases cases with
      | governance _ _ _ _ unsigned =>
        have address := isConfigAddress_of_configAddress (env.createProgramAddress_of_find derived)
        rw [unsigned key signed] at address
        cases address
    rw [charge_of_unsigned unsigned] at spends
    simpa using spends

/-- **Governance spends by executing proposals.** In every run in which others do not take from
`governance_config`:

1. a committed call lowers its balance by at most the outlay of the proposals that it executes;
2. and the run by at most the outlay of all that were executed;
3. as long as no proposal names itself, what leaves it was scheduled: whatever worth proposals are given
   that no execution exceeds, the run takes no more than the worth of what was scheduled. -/
theorem governance_spends_by_proposals (env : Env) (l : Pubkey → Nat) (calls : List Call)
    {key : Pubkey} {bump : UInt8}
    (derived : env.findProgramAddress [GovernanceConfig.seedPrefix] env.governanceId
      = .ok (key, bump))
    (owned : ∀ t ∈ trace (step env) (World.initial l) calls, t.call.isBalances = true →
      t.pre.lamports key ≤ t.post.lamports key) :
    let s := run (step env) (World.initial l) calls
    (∀ t ∈ trace (step env) (World.initial l) calls, (t.pre.lamports key : Int) ≤
      t.post.lamports key + total (LogEntry.outlay env) (t.post.log.drop t.pre.log.length)) ∧
    l key ≤ s.lamports key + total (LogEntry.outlay env) s.log ∧
    (NoSelfReference env s.log → ∀ worth : Bytes32 → Nat,
      (∀ e ∈ s.log, ∀ hash, e.event.executed? = some hash → e.outlay env ≤ worth hash) →
      l key ≤ s.lamports key + total (fun hash => (worth hash : Int)) (scheduledHashes s.log)) := by
  intro s
  -- every call lowers the account by at most the outlay of its entries, balances of others by
  -- nothing
  have spends : ∀ t ∈ trace (step env) (World.initial l) calls, ∃ entries,
      t.post.log = t.pre.log ++ entries ∧
      (t.pre.lamports key : Int) ≤ t.post.lamports key + total (LogEntry.outlay env) entries := by
    intro t mem
    cases others : t.call.isBalances with
    | false => exact call_spends derived l calls mem others
    | true =>
      have kept := owned t mem others
      have success := step_of_mem_trace mem
      obtain ⟨pre, call, post⟩ := t
      cases call with
      | balances l =>
        simp only [step, pure_eq_ok] at success
        subst success
        refine ⟨[], (List.append_nil _).symm, ?_⟩
        rw [total_nil, Int.add_zero]
        exact Int.ofNat_le.mpr kept
      | _ => cases others
  have whole : (l key : Int) ≤ s.lamports key + total (LogEntry.outlay env) s.log := by
    have falls := le_total_run World.log (fun u : World => (u.lamports key : Int)) spends
    have empty : total (LogEntry.outlay env) (World.initial l).log = 0 := rfl
    rw [empty, Int.add_zero] at falls
    exact falls
  refine ⟨?_, whole, ?_⟩
  · intro t mem
    obtain ⟨entries, log, falls⟩ := spends t mem
    rwa [log, List.drop_left]
  · intro noSelfReference worth worthy
    -- what is executed is worth at least its outlay, and is executed at most as often as scheduled
    have executed : total (LogEntry.outlay env) s.log
        ≤ total (fun hash => (worth hash : Int)) (executedHashes s.log) := by
      rw [executedHashes, total_filterMap]
      refine total_le_total fun e mem => ?_
      cases here : e.event.executed? with
      | some hash => exact worthy e mem hash here
      | none => exact (outlay_of_not_executed here).le
    have balanced := executions_le_schedules env l calls noSelfReference
    have scheduled : total (fun hash => (worth hash : Int)) (executedHashes s.log)
        ≤ total (fun hash => (worth hash : Int)) (scheduledHashes s.log) :=
      total_le_of_count (fun hash => Int.natCast_nonneg _) fun hash =>
        (Nat.le_add_right _ _).trans (balanced hash)
    omega

/-- The proposal that pays three lamports is scheduled and executed. -/
def samplePayoutCalls : List Call :=
  samplePayoutSchedule ++ [.governance (sampleSysvarAt 3800) samplePayoutAccounts
    (.executeTimelockProposal samplePayout)]

/-- Of ten lamports seven are left, and three were scheduled. -/
theorem governance_spends_by_proposals_sample :
    let s := run (step payoutEnv) (World.initial fun k => if k = sampleConfigKey then 10 else 0)
      samplePayoutCalls
    s.lamports sampleConfigKey = 7 ∧ (10 : Int) ≤ s.lamports sampleConfigKey + 3 := by
  intro s
  have left : s.lamports sampleConfigKey = 7 ∧ scheduledHashes s.log = [sampleHash] ∧
      (∀ e ∈ s.log, e.outlay payoutEnv ≤ 3) := by
    decide +kernel
  obtain ⟨seven, scheduled, three⟩ := left
  have own : ∀ call ∈ samplePayoutCalls, call.isBalances = false := by decide +kernel
  have derived : payoutEnv.findProgramAddress [GovernanceConfig.seedPrefix] payoutEnv.governanceId
      = .ok (sampleConfigKey, 255) := by
    decide +kernel
  have noSelfReference : NoSelfReference payoutEnv s.log :=
    noSelfReference_of_transfers s.log sampleEnv_transfers
  obtain ⟨-, -, worth⟩ := governance_spends_by_proposals payoutEnv _ samplePayoutCalls derived (by
    intro t mem others
    have called : t.call ∈ samplePayoutCalls :=
      (trace_calls_sublist _ _).subset (List.mem_map_of_mem mem)
    rw [own t.call called] at others
    cases others)
  have bounded := worth noSelfReference (fun _ => 3) fun e mem _ _ => three e mem
  rw [show run (step payoutEnv) (World.initial _) samplePayoutCalls = s from rfl, scheduled] at bounded
  exact ⟨seven, bounded⟩

end AxelarSolana.Governance
