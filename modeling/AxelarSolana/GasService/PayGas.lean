import AxelarSolana.Solana.Runtime
import Mathlib.Logic.Function.Basic

/-! # Paying for gas

The instruction of the gas service that other programs call: `pay_gas` moves lamports from a payer
to the treasury and reports what was paid for. -/

namespace AxelarSolana.GasService

open Fallible

/-- `GasPaidEvent`. No token account is ever named. -/
structure GasPaidEvent where
  sender : Pubkey
  destinationChain : String
  destinationAddress : String
  payloadHash : Bytes32
  amount : UInt64
  refundAddress : Pubkey
  deriving DecidableEq

/-- **The gas service**: the address of its treasury once it exists, the balances of all accounts
and the payments reported so far. -/
structure GasState where
  treasury : Option Pubkey
  lamports : Pubkey → Nat
  paid : List GasPaidEvent

/-- **`system_program::transfer` to the treasury.** The sender may not carry data, so it is not the
treasury itself. -/
def transferToTreasury (sender treasury : Pubkey) (amount : Nat) (lamports : Pubkey → Nat) :
    Except Error (Pubkey → Nat) := do
  require (sender ≠ treasury) (.program .invalidArgument)
  require (amount ≤ lamports sender) (.custom 1)
  let debited := Function.update lamports sender (lamports sender - amount)
  pure (Function.update debited treasury (debited treasury + amount))

/-- Accounts of `pay_gas`. -/
structure PayGas where
  sender : AccountInfo
  treasury : Pubkey
  deriving DecidableEq

/-- `pay_gas`. -/
def payGas (accounts : PayGas) (destinationChain destinationAddress : String)
    (payloadHash : Bytes32) (amount : UInt64) (refundAddress : Pubkey) (s : GasState) :
    Except Error GasState := do
  require accounts.sender.isSigner (.anchor .accountNotSigner)
  let treasury ← okOr s.treasury (.anchor .accountNotInitialized)
  require (accounts.treasury = treasury) (.anchor .constraintSeeds)
  require (amount ≠ 0) (.program .invalidInstructionData)
  let sender := accounts.sender.key
  let lamports ← transferToTreasury sender treasury amount.toNat s.lamports
  pure
    { s with
      lamports
      paid := s.paid ++
        [⟨sender, destinationChain, destinationAddress, payloadHash, amount, refundAddress⟩] }

end AxelarSolana.GasService
