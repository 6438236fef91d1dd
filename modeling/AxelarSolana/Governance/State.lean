import AxelarSolana.Gateway.Instructions

/-! # Governance accounts

The accounts of the governance program, the data of a proposal and its hash, and the world the
program acts in: its own accounts, lamport balances, the gateway, and a log.

* **`GovernanceConfig`**, **`ExecutableProposal`** — the accounts. Proposals and operator markers
  are identified by the proposal hash in their seeds.
* **`ExecuteProposalData`** — the call a proposal stands for, with `calculateHash`.
* **`GovernanceEvent`** — the events of the program; **`LogEntry`** puts beside each what the
  instruction that emitted it was given and what the accounts held.
* **`Env`** — the parameters: third-party code, program addresses and other programs. -/

namespace AxelarSolana.Governance

open Fallible

/-! ## Errors -/

/-- `GovernanceError`, in the order of the source. -/
inductive GovernanceError
  | invalidUpgradeAuthority
  | invalidArgument
  | notOperator
  | arithmeticOverflow
  | unauthorizedChain
  | unauthorizedAddress
  | invalidInstructionData
  | proposalNotReady
  | invalidTargetProgram
  | targetAccountNotFound
  | missingNativeValueReceiver
  | invalidNativeValue
  | unauthorizedOperator
  | missingRequiredSignature
  | governanceConfigMissing
  deriving DecidableEq, Repr

/-- The error code Anchor assigns. -/
def GovernanceError.err (e : GovernanceError) : Error := .custom (6000 + e.ctorIdx)

/-! ## The configuration -/

/-- `GovernanceConfig`. -/
structure GovernanceConfig where
  bump : UInt8
  chainHash : Bytes32
  addressHash : Bytes32
  minimumProposalEtaDelay : UInt32
  operator : Bytes32
  deriving DecidableEq

/-- `GovernanceConfigInit`. -/
structure GovernanceConfigInit where
  chainHash : Bytes32
  addressHash : Bytes32
  minimumProposalEtaDelay : UInt32
  operator : Bytes32
  deriving DecidableEq

/-- `GovernanceConfigUpdate`: the fields to replace. -/
structure GovernanceConfigUpdate where
  chainHash : Option Bytes32
  addressHash : Option Bytes32
  minimumProposalEtaDelay : Option UInt32
  deriving DecidableEq

namespace GovernanceConfig

/-- `GovernanceConfig::SEED_PREFIX`. -/
def seedPrefix : Bytes := Codec.utf8 "governance"

/-- `DISCRIMINATOR.len() + INIT_SPACE`. -/
def space : Nat := 8 + (1 + 32 + 32 + 4 + 32)

/-- `VALID_PROPOSAL_DELAY_RANGE.contains`. -/
def ValidDelay (delay : UInt32) : Prop := 3600 ≤ delay ∧ delay ≤ 86400

instance (delay : UInt32) : Decidable (ValidDelay delay) :=
  inferInstanceAs (Decidable (3600 ≤ delay ∧ delay ≤ 86400))

/-- `validate_config`. -/
def validateConfig (self : GovernanceConfig) : Except Error Unit :=
  require (ValidDelay self.minimumProposalEtaDelay) GovernanceError.invalidArgument.err

/-- The configuration with the given fields replaced. -/
def withUpdate (self : GovernanceConfig) (params : GovernanceConfigUpdate) : GovernanceConfig :=
  { self with
    chainHash := params.chainHash.getD self.chainHash
    addressHash := params.addressHash.getD self.addressHash
    minimumProposalEtaDelay :=
      params.minimumProposalEtaDelay.getD self.minimumProposalEtaDelay }

/-- `update`. -/
def update (self : GovernanceConfig) (params : GovernanceConfigUpdate) :
    Except Error GovernanceConfig := do
  let updated := self.withUpdate params
  updated.validateConfig
  pure updated

/-- A configuration is valid when its minimum delay is. -/
@[simp] theorem validateConfig_eq_ok {c : GovernanceConfig} {u : Unit} :
    c.validateConfig = .ok u ↔ ValidDelay c.minimumProposalEtaDelay := require_eq_ok

/-- An update replaces the given fields and checks the delay that results. -/
theorem update_eq_ok {c c' : GovernanceConfig} {params : GovernanceConfigUpdate} :
    c.update params = .ok c' ↔
      c' = c.withUpdate params ∧ ValidDelay c'.minimumProposalEtaDelay := by
  simp only [update, bind_eq_ok, validateConfig_eq_ok, pure_eq_ok]
  constructor
  · rintro ⟨_, valid, rfl⟩
    exact ⟨rfl, valid⟩
  · rintro ⟨rfl, valid⟩
    exact ⟨(), valid, rfl⟩

end GovernanceConfig

/-! ## Proposals -/

/-- `ExecutableProposal`: the time from which it can be executed, and the bumps of its own address
and of its operator marker. -/
structure ExecutableProposal where
  eta : UInt64
  bump : UInt8
  managedBump : UInt8
  deriving DecidableEq

/-- `ExecutableProposal::SEED_PREFIX`. -/
def ExecutableProposal.seedPrefix : Bytes := Codec.utf8 "proposal"

/-- `ExecutableProposal::pda_seeds`. -/
def ExecutableProposal.pdaSeeds (proposalHash : Bytes32) : List Bytes :=
  [ExecutableProposal.seedPrefix, proposalHash.toList]

/-- `DISCRIMINATOR.len() + INIT_SPACE`. -/
def ExecutableProposal.space : Nat := 8 + (8 + 1 + 1)

/-- `OperatorProposal::SEED_PREFIX`. -/
def OperatorProposal.seedPrefix : Bytes := Codec.utf8 "operator-managed-proposal"

/-- `OperatorProposal::pda_seeds`. -/
def OperatorProposal.pdaSeeds (proposalHash : Bytes32) : List Bytes :=
  [OperatorProposal.seedPrefix, proposalHash.toList]

/-- `DISCRIMINATOR.len() + INIT_SPACE`. -/
def OperatorProposal.space : Nat := 8

/-- `SolanaAccountMetadata`. -/
structure SolanaAccountMetadata where
  pubkey : Bytes32
  isSigner : Bool
  isWritable : Bool
  deriving DecidableEq

/-- `ExecuteProposalCallData`. -/
structure ExecuteProposalCallData where
  solanaAccounts : List SolanaAccountMetadata
  solanaNativeValueReceiverAccount : Option SolanaAccountMetadata
  callData : Bytes
  deriving DecidableEq

/-- `ExecuteProposalData`: the call a proposal stands for. -/
structure ExecuteProposalData where
  targetAddress : Bytes32
  callData : ExecuteProposalCallData
  nativeValue : Bytes32
  deriving DecidableEq

/-- The Borsh form of an account's metadata. -/
def SolanaAccountMetadata.codec : Codec SolanaAccountMetadata :=
  ((Codec.fixed 32).pair (Codec.bool.pair Codec.bool)).refine
    (fun p => some ⟨p.1, p.2.1, p.2.2⟩) (fun m => (m.pubkey, m.isSigner, m.isWritable)) (by
      rintro ⟨p, s, w⟩ ⟨p', s', w'⟩
      simp [eq_comm])

/-- The Borsh form of a proposal's call data. -/
def ExecuteProposalCallData.codec : Codec ExecuteProposalCallData :=
  ((Codec.vec SolanaAccountMetadata.codec).pair
    ((Codec.option SolanaAccountMetadata.codec).pair (Codec.vec Codec.byte))).refine
    (fun p => some ⟨p.1, p.2.1, p.2.2⟩)
    (fun d => (d.solanaAccounts, d.solanaNativeValueReceiverAccount, d.callData)) (by
      rintro ⟨a, r, c⟩ ⟨a', r', c'⟩
      simp [eq_comm])

/-- **The bytes a proposal hash is taken of**: the target, the Borsh vector of the accounts, the
Borsh option of the receiver, the raw call data and the native value. -/
def ExecutableProposal.hashInput (target : Pubkey) (callData : ExecuteProposalCallData)
    (nativeValue : Bytes32) : Except Error Bytes := do
  let solAccountsSer ← okOr ((Codec.vec SolanaAccountMetadata.codec).encode
    callData.solanaAccounts) .panic
  let nativeValueSer ← okOr ((Codec.option SolanaAccountMetadata.codec).encode
    callData.solanaNativeValueReceiverAccount) .panic
  pure (target.toList ++ solAccountsSer ++ nativeValueSer ++ callData.callData
    ++ nativeValue.toList)

/-- `ExecutableProposal::calculate_hash`. -/
def ExecutableProposal.calculateHash (sys : Syscalls) (target : Pubkey)
    (callData : ExecuteProposalCallData) (nativeValue : Bytes32) : Except Error Bytes32 := do
  let input ← ExecutableProposal.hashInput target callData nativeValue
  pure (sys.keccak input)

/-- `ExecutableProposal::hash_from_data`. -/
def ExecutableProposal.hashFromData (sys : Syscalls) (data : ExecuteProposalData) :
    Except Error Bytes32 :=
  ExecutableProposal.calculateHash sys data.targetAddress data.callData data.nativeValue

/-! ## GMP payloads -/

/-- The command of a GMP payload; `invalid` is any byte the ABI enumeration does not name. -/
inductive GovernanceCommand
  | scheduleTimeLockProposal
  | cancelTimeLockProposal
  | approveOperatorProposal
  | cancelOperatorApproval
  | invalid
  deriving DecidableEq, Repr

/-- `GovernanceCommandPayload`. -/
structure GovernanceCommandPayload where
  command : GovernanceCommand
  target : Bytes
  callData : Bytes
  nativeValue : U256
  eta : U256
  deriving DecidableEq

/-- `U256::to_le_bytes`. -/
def leBytes32 (x : U256) : Bytes32 :=
  ⟨LittleEndian.encode 32 x.toNat, LittleEndian.length_encode _ _⟩

/-! ## Instructions -/

/-- **An instruction of the governance program** with its arguments. -/
inductive GovernanceInstruction
  | initializeConfig (params : GovernanceConfigInit)
  | updateConfig (params : GovernanceConfigUpdate)
  | execute (message : Message) (payload : Bytes)
  | scheduleTimelockProposal (proposalHash : Bytes32) (eta : UInt64)
      (nativeValue target callData : Bytes)
  | cancelTimelockProposal (proposalHash : Bytes32) (eta : UInt64)
      (nativeValue target callData : Bytes)
  | approveOperatorProposal (proposalHash : Bytes32) (nativeValue target callData : Bytes)
  | cancelOperatorProposal (proposalHash : Bytes32) (nativeValue target callData : Bytes)
  | executeTimelockProposal (data : ExecuteProposalData)
  | executeOperatorProposal (data : ExecuteProposalData)
  | transferOperatorship (newOperator : Bytes32)
  | withdrawTokens (amount : UInt64)
  deriving DecidableEq

/-! ## Events and the log -/

/-- An event of the governance program. -/
inductive GovernanceEvent
  | proposalScheduled (hash : Bytes32) (targetAddress callData nativeValue : Bytes) (eta : UInt64)
  | operatorProposalApproved (hash : Bytes32) (targetAddress callData nativeValue : Bytes)
  | operatorProposalCancelled (hash : Bytes32) (targetAddress callData nativeValue : Bytes)
  | proposalCancelled (hash : Bytes32) (targetAddress callData nativeValue : Bytes) (eta : UInt64)
  | proposalExecuted (hash : Bytes32) (targetAddress callData nativeValue : Bytes) (eta : UInt64)
  | operatorProposalExecuted (hash : Bytes32) (targetAddress callData nativeValue : Bytes)
  | operatorshipTransferred (oldOperator newOperator : Bytes)
  deriving DecidableEq

/-- **Who called an instruction**: a transaction or another program, the GMP entry point with a
validated message and its payload, or the execution of a proposal. -/
inductive Invoker
  | external
  | gmp (message : Message) (payload : Bytes)
  | proposal (data : ExecuteProposalData)
  deriving DecidableEq

/-- **What the log records**: an event the program emits, or one of the things that it does without
an event. `timelockBegan` and `operatorBegan` mark the moment at which an execution has passed its
checks and turns to the call of the proposal. -/
inductive LogEvent
  | emitted (event : GovernanceEvent)
  | timelockBegan (hash : Bytes32) (data : ExecuteProposalData)
  | operatorBegan (hash : Bytes32) (data : ExecuteProposalData)
  | configInitialized (config : GovernanceConfig)
  | configUpdated (config : GovernanceConfig)
  | tokensWithdrawn (receiver : Pubkey) (amount : UInt64)
  deriving DecidableEq

/-- **The accounts owned by the program.** -/
structure Accounts where
  config : Option GovernanceConfig
  proposals : Bytes32 → Option ExecutableProposal
  operatorProposals : Bytes32 → Bool

/-- **An entry of the log**: the event, the clock, the invoker and the accounts that signed, and
what the program's accounts and the gateway held at that moment. -/
structure LogEntry where
  event : LogEvent
  time : Int64
  invoker : Invoker
  signers : List Pubkey
  accounts : Accounts
  gateway : Gateway.GatewayState

/-- **The world of the governance program.** -/
structure World where
  accounts : Accounts
  lamports : Pubkey → Nat
  gateway : Gateway.GatewayState
  log : List LogEntry

/-- What a program outside the governance program does when it is called: the balances it leaves
and the calls it makes to the gateway. -/
structure ExternalEffect where
  lamports : Pubkey → Nat
  gatewayCalls : List Gateway.GatewayCall

/-- **The parameters of the governance program**, on top of the gateway's:

* `abiDecode` — `GovernanceCommandPayload::abi_decode` with validation;
* `decodeInstruction` — Anchor's dispatch, from instruction data to an instruction;
* `minimumBalance` — the rent-exempt balance of an account of a given size;
* `externalProgram` — what a program other than governance does with the accounts and data it is
  called with. -/
structure Env extends Gateway.Env where
  governanceId : Pubkey
  abiDecode : Bytes → Option GovernanceCommandPayload
  decodeInstruction : Bytes → Option GovernanceInstruction
  minimumBalance : Nat → Nat
  externalProgram : Pubkey → List AccountMeta → Bytes → (Pubkey → Nat) → Gateway.GatewayState →
    Except Error ExternalEffect

/-- **What an instruction is called with** besides its arguments: the chain, the invoker and the
accounts, where every occurrence of an account carries the union of its privileges. -/
structure Ctx where
  sysvar : Sysvar
  invoker : Invoker
  accounts : List AccountMeta

/-- The account at a position. -/
def Ctx.account (ctx : Ctx) (i : Nat) : Except Error AccountMeta :=
  okOr ctx.accounts[i]? (.program .missingAccount)

/-- The addresses that sign. -/
def Ctx.signers (ctx : Ctx) : List Pubkey :=
  (ctx.accounts.filter AccountMeta.isSigner).map AccountMeta.pubkey

/-- Account `i` of a context is the one at that position, if there is one. -/
@[simp] theorem Ctx.account_eq_ok {ctx : Ctx} {i : Nat} {a : AccountMeta} :
    ctx.account i = .ok a ↔ ctx.accounts[i]? = some a := okOr_eq_ok

/-- The signers are the keys of the accounts with the signer flag. -/
theorem Ctx.mem_signers {ctx : Ctx} {key : Pubkey} :
    key ∈ ctx.signers ↔ ∃ a ∈ ctx.accounts, a.isSigner = true ∧ a.pubkey = key := by
  simp [Ctx.signers, and_assoc]

/-- An account with the signer flag is among the signers. -/
theorem Ctx.mem_signers_of_account {ctx : Ctx} {i : Nat} {a : AccountMeta}
    (h : ctx.accounts[i]? = some a) (signed : a.isSigner = true) : a.pubkey ∈ ctx.signers :=
  Ctx.mem_signers.mpr ⟨a, List.mem_of_getElem? h, signed, rfl⟩

namespace World

/-- Before `initialize_config` no account of the program exists. -/
def initial (lamports : Pubkey → Nat) : World where
  accounts := { config := none, proposals := fun _ => none, operatorProposals := fun _ => false }
  lamports
  gateway := Gateway.GatewayState.initial
  log := []

variable (s : World)

/-- `Account<GovernanceConfig>` at the entry of an instruction. -/
def loadConfig : Except Error GovernanceConfig :=
  okOr s.accounts.config (.anchor .accountNotInitialized)

/-- `Account<ExecutableProposal>` at the entry of an instruction. -/
def loadProposal (hash : Bytes32) : Except Error ExecutableProposal :=
  okOr (s.accounts.proposals hash) (.anchor .accountNotInitialized)

/-- Set the balances. -/
def withLamports (lamports : Pubkey → Nat) : World := { s with lamports }

/-- Write the configuration account. -/
def setConfig (c : GovernanceConfig) : World :=
  { s with accounts := { s.accounts with config := some c } }

/-- Write a proposal account. -/
def setProposal (hash : Bytes32) (p : Option ExecutableProposal) : World :=
  { s with
    accounts := { s.accounts with proposals := Function.update s.accounts.proposals hash p } }

/-- Create or close an operator marker. -/
def setOperatorProposal (hash : Bytes32) (present : Bool) : World :=
  { s with
    accounts := { s.accounts with
      operatorProposals := Function.update s.accounts.operatorProposals hash present } }

/-- Move lamports from one account to another: subtract first, then add. -/
def moveLamports (source destination : Pubkey) (amount : Nat) : World :=
  let debited := Function.update s.lamports source (s.lamports source - amount)
  { s with lamports := Function.update debited destination (debited destination + amount) }

/-- The log entry of an event. -/
def entry (ctx : Ctx) (event : LogEvent) : LogEntry where
  event
  time := ctx.sysvar.unixTimestamp
  invoker := ctx.invoker
  signers := ctx.signers
  accounts := s.accounts
  gateway := s.gateway

/-- Append an entry to the log. -/
def record (ctx : Ctx) (event : LogEvent) : World :=
  { s with log := s.log ++ [s.entry ctx event] }

variable {s}

/-- The configuration loads exactly when it exists. -/
@[simp] theorem loadConfig_eq_ok {c : GovernanceConfig} :
    s.loadConfig = .ok c ↔ s.accounts.config = some c := okOr_eq_ok

/-- A proposal loads exactly when it exists. -/
@[simp] theorem loadProposal_eq_ok {h : Bytes32} {p : ExecutableProposal} :
    s.loadProposal h = .ok p ↔ s.accounts.proposals h = some p := okOr_eq_ok

/-- Lamports are kept apart from the accounts' data. -/
@[simp] theorem withLamports_accounts (l : Pubkey → Nat) :
    (s.withLamports l).accounts = s.accounts := rfl

/-- Lamports are kept apart from the gateway. -/
@[simp] theorem withLamports_gateway (l : Pubkey → Nat) :
    (s.withLamports l).gateway = s.gateway := rfl

/-- Lamports are kept apart from the log. -/
@[simp] theorem withLamports_log (l : Pubkey → Nat) : (s.withLamports l).log = s.log := rfl

/-- Writing the configuration back unchanged does nothing. -/
theorem setConfig_self {c : GovernanceConfig} (h : s.accounts.config = some c) :
    s.setConfig c = s := by
  obtain ⟨⟨config, proposals, operatorProposals⟩, lamports, gateway, log⟩ := s
  cases h
  rfl

/-- Moving lamports leaves the accounts' data. -/
@[simp] theorem moveLamports_accounts (a b : Pubkey) (n : Nat) :
    (s.moveLamports a b n).accounts = s.accounts := rfl

/-- Moving lamports leaves the gateway. -/
@[simp] theorem moveLamports_gateway (a b : Pubkey) (n : Nat) :
    (s.moveLamports a b n).gateway = s.gateway := rfl

/-- Moving lamports logs nothing. -/
@[simp] theorem moveLamports_log (a b : Pubkey) (n : Nat) :
    (s.moveLamports a b n).log = s.log := rfl

/-- Recording appends one entry to the log. -/
@[simp] theorem record_log (ctx : Ctx) (e : LogEvent) :
    (s.record ctx e).log = s.log ++ [s.entry ctx e] := rfl

/-- The entry of an event holds this event. -/
@[simp] theorem entry_event (ctx : Ctx) (e : LogEvent) : (s.entry ctx e).event = e := rfl

/-- Recording leaves the accounts. -/
@[simp] theorem record_accounts (ctx : Ctx) (e : LogEvent) :
    (s.record ctx e).accounts = s.accounts := rfl

/-- Recording leaves the gateway. -/
@[simp] theorem record_gateway (ctx : Ctx) (e : LogEvent) :
    (s.record ctx e).gateway = s.gateway := rfl

/-- Recording leaves the lamports. -/
@[simp] theorem record_lamports (ctx : Ctx) (e : LogEvent) :
    (s.record ctx e).lamports = s.lamports := rfl

/-- Writing the configuration leaves the gateway. -/
@[simp] theorem setConfig_gateway (c : GovernanceConfig) : (s.setConfig c).gateway = s.gateway :=
  rfl

/-- Writing the configuration logs nothing. -/
@[simp] theorem setConfig_log (c : GovernanceConfig) : (s.setConfig c).log = s.log := rfl

/-- Writing a proposal leaves the gateway. -/
@[simp] theorem setProposal_gateway (h : Bytes32) (p : Option ExecutableProposal) :
    (s.setProposal h p).gateway = s.gateway := rfl

/-- Writing a proposal logs nothing. -/
@[simp] theorem setProposal_log (h : Bytes32) (p : Option ExecutableProposal) :
    (s.setProposal h p).log = s.log := rfl

/-- Writing an operator proposal leaves the gateway. -/
@[simp] theorem setOperatorProposal_gateway (h : Bytes32) (b : Bool) :
    (s.setOperatorProposal h b).gateway = s.gateway := rfl

/-- Writing an operator proposal logs nothing. -/
@[simp] theorem setOperatorProposal_log (h : Bytes32) (b : Bool) :
    (s.setOperatorProposal h b).log = s.log := rfl

end World

end AxelarSolana.Governance
