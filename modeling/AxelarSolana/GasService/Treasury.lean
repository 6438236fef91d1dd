import AxelarSolana.GasService.PayGas
import AxelarSolana.Operators.Registry

/-! # The gas service

The whole program: payments come in by transfers of the system program, and operators spend what has
come in by editing balances.

* **`Ledger`** — the balances and the reports of the program.
* **`transferLamports`**, **`payOut`** — how lamports leave the treasury.
* **`process`** — its five instructions. -/

namespace AxelarSolana.GasService

open Fallible
open Operators (OperatorsState)

/-! ## Reports -/

/-- `GasAddedEvent`. No token account is ever named. -/
structure GasAddedEvent where
  sender : Pubkey
  messageId : String
  amount : UInt64
  refundAddress : Pubkey
  deriving DecidableEq

/-- `GasCollectedEvent`. -/
structure GasCollectedEvent where
  receiver : Pubkey
  amount : UInt64
  deriving DecidableEq

/-- `GasRefundedEvent`. -/
structure GasRefundedEvent where
  receiver : Pubkey
  messageId : String
  amount : UInt64
  deriving DecidableEq

/-- **The balances and the reports of the program.** -/
structure Ledger extends GasState where
  added : List GasAddedEvent
  collected : List GasCollectedEvent
  refunded : List GasRefundedEvent

/-- **What a build of the program fixes**, on top of the registry of operators, and the rent that the
chain asks for. -/
structure Env extends Operators.Env where
  gasServiceId : Pubkey
  minimumBalance : Nat → Nat

variable (env : Env)

/-- `Treasury::SEED_PREFIX`. -/
def Treasury.seedPrefix : Bytes := Codec.utf8 "gas-service"

/-- `Treasury::INIT_SPACE + Treasury::DISCRIMINATOR.len()`. -/
def Treasury.space : Nat := 1 + 8

/-- `Rent::is_exempt`, for the treasury. -/
def Env.IsExempt (lamports : Nat) : Prop := env.minimumBalance Treasury.space ≤ lamports

instance (lamports : Nat) : Decidable (env.IsExempt lamports) :=
  inferInstanceAs (Decidable (_ ≤ _))

/-! ## How lamports leave the treasury -/

/-- `transfer_lamports_anchor!`: one balance is debited, then the other is credited. -/
def transferLamports (source destination : Pubkey) (amount : UInt64) (lamports : Pubkey → Nat) :
    Except Error (Pubkey → Nat) := do
  require (amount.toNat ≤ lamports source) (.program .insufficientFunds)
  let debited := Function.update lamports source (lamports source - amount.toNat)
  require (debited destination + amount.toNat < 2 ^ 64) (.program .arithmeticOverflow)
  pure (Function.update debited destination (debited destination + amount.toNat))

/-- What `collect_fees` and `refund_fees` share: an operator spends from the treasury, which must
stay rent exempt. -/
def payOut (operator : AccountInfo) (operatorPda treasury receiver : Pubkey) (amount : UInt64)
    (operators : OperatorsState) (s : GasState) : Except Error GasState := do
  require operator.isSigner (.anchor .accountNotSigner)
  let _account ← Operators.operatorPda env.toEnv operator.key operatorPda operators
  let stored ← okOr s.treasury (.anchor .accountNotInitialized)
  require (treasury = stored) (.anchor .constraintSeeds)
  require (amount ≠ 0) (.program .invalidInstructionData)
  let lamports ← transferLamports treasury receiver amount s.lamports
  require (env.IsExempt (lamports treasury)) (.program .invalidAccountData)
  pure { s with lamports }

/-! ## Instructions -/

/-- Accounts of `initialize`. -/
structure Initialize where
  payer : AccountInfo
  operator : AccountInfo
  operatorPda : Pubkey
  treasury : Pubkey
  deriving DecidableEq

/-- Accounts of `add_gas`. -/
structure AddGas where
  sender : AccountInfo
  treasury : Pubkey
  deriving DecidableEq

/-- Accounts of `collect_fees`. -/
structure CollectFees where
  operator : AccountInfo
  operatorPda : Pubkey
  treasury : Pubkey
  receiver : Pubkey
  deriving DecidableEq

/-- Accounts of `refund_fees`. -/
structure RefundFees where
  operator : AccountInfo
  operatorPda : Pubkey
  receiver : Pubkey
  treasury : Pubkey
  deriving DecidableEq

/-- `initialize`: the payer tops the new account up to the rent. -/
def initializeTreasury (a : Initialize) (operators : OperatorsState) (s : Ledger) :
    Except Error Ledger := do
  require a.payer.isSigner (.anchor .accountNotSigner)
  require a.operator.isSigner (.anchor .accountNotSigner)
  let account ← okOr (operators.operators a.operatorPda) (.anchor .accountNotInitialized)
  -- the treasury is created before the constraints of the other accounts are checked
  let _bump ← env.initPda [Treasury.seedPrefix] env.gasServiceId a.treasury (s.treasury = none)
  let lamports ← transferToTreasury a.payer.key a.treasury
    (env.minimumBalance Treasury.space - s.lamports a.treasury) s.lamports
  Operators.operatorSeeds env.toEnv a.operator.key account a.operatorPda
  pure { s with treasury := some a.treasury, lamports }

/-- `add_gas`. -/
def addGas (a : AddGas) (messageId : String) (amount : UInt64) (refundAddress : Pubkey)
    (s : Ledger) : Except Error Ledger := do
  require a.sender.isSigner (.anchor .accountNotSigner)
  let treasury ← okOr s.treasury (.anchor .accountNotInitialized)
  require (a.treasury = treasury) (.anchor .constraintSeeds)
  require (amount ≠ 0) (.program .invalidInstructionData)
  let sender := a.sender.key
  let lamports ← transferToTreasury sender treasury amount.toNat s.lamports
  pure { s with lamports, added := s.added ++ [⟨sender, messageId, amount, refundAddress⟩] }

/-- `collect_native_fees`. -/
def collectFees (a : CollectFees) (amount : UInt64) (operators : OperatorsState) (s : Ledger) :
    Except Error Ledger := do
  let gas ← payOut env a.operator a.operatorPda a.treasury a.receiver amount operators s.toGasState
  pure { s with toGasState := gas, collected := s.collected ++ [⟨a.receiver, amount⟩] }

/-- `refund_native_fees`. -/
def refundFees (a : RefundFees) (messageId : String) (amount : UInt64)
    (operators : OperatorsState) (s : Ledger) : Except Error Ledger := do
  let gas ← payOut env a.operator a.operatorPda a.treasury a.receiver amount operators s.toGasState
  pure { s with toGasState := gas, refunded := s.refunded ++ [⟨a.receiver, messageId, amount⟩] }

/-- An instruction of the program. -/
inductive GasInstruction
  | initializeTreasury (accounts : Initialize)
  | payGas (accounts : PayGas) (destinationChain destinationAddress : String)
      (payloadHash : Bytes32) (amount : UInt64) (refundAddress : Pubkey)
  | addGas (accounts : AddGas) (messageId : String) (amount : UInt64) (refundAddress : Pubkey)
  | collectFees (accounts : CollectFees) (amount : UInt64)
  | refundFees (accounts : RefundFees) (messageId : String) (amount : UInt64)
  deriving DecidableEq

/-- The addresses whose signatures an instruction carries. -/
def GasInstruction.signers : GasInstruction → List Pubkey
  | .initializeTreasury a => signersOfInfos [a.payer, a.operator]
  | .payGas a _ _ _ _ _ => signersOfInfos [a.sender]
  | .addGas a _ _ _ => signersOfInfos [a.sender]
  | .collectFees a _ => signersOfInfos [a.operator]
  | .refundFees a _ _ => signersOfInfos [a.operator]

/-- **One instruction of the program.** -/
def process (instruction : GasInstruction) (operators : OperatorsState) (s : Ledger) :
    Except Error Ledger :=
  match instruction with
  | .initializeTreasury a => initializeTreasury env a operators s
  | .payGas a destinationChain destinationAddress payloadHash amount refundAddress => do
    let gas ← payGas a destinationChain destinationAddress payloadHash amount refundAddress
      s.toGasState
    pure { s with toGasState := gas }
  | .addGas a messageId amount refundAddress => addGas a messageId amount refundAddress s
  | .collectFees a amount => collectFees env a amount operators s
  | .refundFees a messageId amount => refundFees env a messageId amount operators s

/-! ## The chain around the program -/

/-- **The state**: the registry of operators and the ledger. -/
structure GasWorld where
  operators : OperatorsState
  ledger : Ledger

/-- **A call of a run**: an instruction of the program or of the registry, or what others do to the
balances: only its owner debits the treasury, so they can but donate to it. -/
inductive GasCall
  | gas (instruction : GasInstruction)
  | operators (instruction : Operators.OperatorsInstruction)
  | outside (lamports : Pubkey → Nat) (donation : Nat)

/-- **One call.** -/
def step (call : GasCall) (w : GasWorld) : Except Error GasWorld :=
  match call with
  | .gas instruction => do
    let ledger ← process env instruction w.operators w.ledger
    pure { w with ledger }
  | .operators instruction => do
    let operators ← Operators.process env.toEnv instruction w.operators
    pure { w with operators }
  | .outside lamports donation =>
    pure
      { w with
        ledger.lamports := fun key =>
          if w.ledger.treasury = some key then w.ledger.lamports key + donation else lamports key }

/-! ## What success means -/

variable {env}

/-- A transfer to the treasury adds its amount there. -/
theorem transferToTreasury_ok {sender treasury : Pubkey} {amount : Nat}
    {lamports lamports' : Pubkey → Nat}
    (h : transferToTreasury sender treasury amount lamports = .ok lamports') :
    lamports' treasury = lamports treasury + amount := by
  simp only [transferToTreasury, bind_eq_ok, require_eq_ok, pure_eq_ok] at h
  obtain ⟨_, other, _, -, rfl⟩ := h
  rw [Function.update_self, Function.update_of_ne (Ne.symm other)]

/-- **What an edit of the balances leaves at the source**: the amount has gone, unless the source is
the destination itself. -/
theorem transferLamports_ok {source destination : Pubkey} {amount : UInt64}
    {lamports lamports' : Pubkey → Nat}
    (h : transferLamports source destination amount lamports = .ok lamports') :
    lamports' source + (if destination = source then 0 else amount.toNat) = lamports source := by
  simp only [transferLamports, bind_eq_ok, require_eq_ok, pure_eq_ok] at h
  obtain ⟨_, enough, _, -, rfl⟩ := h
  by_cases same : destination = source
  · subst same
    rw [if_pos rfl, Function.update_self, Function.update_self]
    omega
  · rw [if_neg same, Function.update_of_ne (Ne.symm same), Function.update_self]
    omega

/-- **What `collect_fees` and `refund_fees` have checked and done.** -/
structure PaidOut (env : Env) (operator : AccountInfo) (operatorPda treasury receiver : Pubkey)
    (amount : UInt64) (operators : OperatorsState) (s s' : GasState) : Prop where
  signed : operator.isSigner = true
  registered : ∃ account,
    Operators.operatorPda env.toEnv operator.key operatorPda operators = .ok account
  stored : s.treasury = some treasury
  nonzero : amount ≠ 0
  balance : s'.lamports treasury + (if receiver = treasury then 0 else amount.toNat)
    = s.lamports treasury
  exempt : env.IsExempt (s'.lamports treasury)
  kept : s'.treasury = s.treasury ∧ s'.paid = s.paid

/-- What a successful payment has checked and done. -/
theorem payOut_ok {operator : AccountInfo} {operatorPda treasury receiver : Pubkey}
    {amount : UInt64} {operators : OperatorsState} {s s' : GasState}
    (h : payOut env operator operatorPda treasury receiver amount operators s = .ok s') :
    PaidOut env operator operatorPda treasury receiver amount operators s s' := by
  simp only [payOut, bind_eq_ok, require_eq_ok, okOr_eq_ok, pure_eq_ok] at h
  obtain ⟨_, signed, account, registered, _, stored, _, rfl, _, nonzero, lamports, moved, _, exempt,
    rfl⟩ := h
  exact ⟨signed, ⟨account, registered⟩, stored, nonzero, transferLamports_ok moved, exempt, rfl, rfl⟩

end AxelarSolana.GasService
