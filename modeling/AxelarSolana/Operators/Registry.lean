import AxelarSolana.Solana.Runtime
import Mathlib.Logic.Function.Basic

/-! # The registry of operators

The program that says who may spend from the gas treasury.

* **`OperatorRegistry`**, **`OperatorAccount`** — its accounts: one registry with the owner and the
  number of operators, and an account for each operator.
* **`operatorPda`** — how another program checks that a key is an operator.
* **`process`** — its four instructions. -/

namespace AxelarSolana.Operators

open Fallible

/-! ## Accounts -/

/-- `ErrorCode`, in the order of the source. -/
inductive ErrorCode
  | unauthorizedOwner
  | sameOwner
  deriving DecidableEq, Repr

/-- The error code Anchor assigns. -/
def ErrorCode.err (e : ErrorCode) : Error := .custom (6000 + e.ctorIdx)

/-- **The registry.** -/
structure OperatorRegistry where
  owner : Pubkey
  operatorCount : UInt64
  bump : UInt8
  deriving DecidableEq

/-- `OperatorRegistry::SEED_PREFIX`. -/
def OperatorRegistry.seedPrefix : Bytes := Codec.utf8 "operator_registry"

/-- `OperatorRegistry::pda_seeds`. -/
def OperatorRegistry.pdaSeeds : List Bytes := [seedPrefix]

/-- **The account of an operator.** -/
structure OperatorAccount where
  bump : UInt8
  deriving DecidableEq

/-- `OperatorAccount::SEED_PREFIX`. -/
def OperatorAccount.seedPrefix : Bytes := Codec.utf8 "operator"

/-- `OperatorAccount::pda_seeds`. -/
def OperatorAccount.pdaSeeds (operator : Pubkey) : List Bytes := [seedPrefix, operator.toList]

/-- `OwnershipTransferred`. -/
structure OwnershipTransferred where
  oldOwner : Pubkey
  newOwner : Pubkey
  deriving DecidableEq

/-- **The accounts of the program**, with the events so far. -/
structure OperatorsState where
  registry : Option OperatorRegistry
  operators : Pubkey → Option OperatorAccount
  events : List OwnershipTransferred

/-- Before any call. -/
def OperatorsState.initial : OperatorsState := ⟨none, fun _ => none, []⟩

/-- **What a build of the program fixes**, on top of the runtime's functions. -/
structure Env extends Syscalls where
  operatorsId : Pubkey

variable (env : Env)

/-! ## Account constraints -/

/-- `registry` with `seeds = [SEED_PREFIX], bump = registry.bump`. -/
def registrySeeds (registry : OperatorRegistry) (key : Pubkey) : Except Error Unit :=
  require (env.createProgramAddress (OperatorRegistry.pdaSeeds ++ [[registry.bump]]) env.operatorsId
    = some key) (.anchor .constraintSeeds)

/-- The seeds of the account of an operator, with the bump that it holds itself. -/
def operatorSeeds (operator : Pubkey) (account : OperatorAccount) (key : Pubkey) :
    Except Error Unit :=
  require (env.createProgramAddress (OperatorAccount.pdaSeeds operator ++ [[account.bump]])
    env.operatorsId = some key) (.anchor .constraintSeeds)

/-- **`operator_pda`**: the account by which a program that asks for an operator recognises one. -/
def operatorPda (operator key : Pubkey) (s : OperatorsState) : Except Error OperatorAccount := do
  let account ← okOr (s.operators key) (.anchor .accountNotInitialized)
  operatorSeeds env operator account key
  pure account

/-- `init` of the registry: the canonical bump. -/
def newRegistryPda (key : Pubkey) (s : OperatorsState) : Except Error UInt8 :=
  env.initPda OperatorRegistry.pdaSeeds env.operatorsId key (s.registry = none)

/-- `init` of the account of an operator: the canonical bump. -/
def newOperatorPda (operator key : Pubkey) (s : OperatorsState) : Except Error UInt8 :=
  env.initPda (OperatorAccount.pdaSeeds operator) env.operatorsId key (s.operators key = none)

/-! ## Instructions -/

/-- Accounts of `initialize`. -/
structure Initialize where
  payer : AccountInfo
  owner : AccountInfo
  registry : Pubkey
  deriving DecidableEq

/-- Accounts of `add_operator`. -/
structure AddOperator where
  owner : AccountInfo
  operatorToAdd : Pubkey
  registry : Pubkey
  operatorAccount : Pubkey
  deriving DecidableEq

/-- Accounts of `remove_operator`. -/
structure RemoveOperator where
  owner : AccountInfo
  operatorToRemove : Pubkey
  registry : Pubkey
  operatorAccount : Pubkey
  deriving DecidableEq

/-- Accounts of `transfer_owner`. -/
structure TransferOwner where
  owner : AccountInfo
  newOwner : Pubkey
  registry : Pubkey
  deriving DecidableEq

/-- `initialize`. -/
def initializeRegistry (a : Initialize) (s : OperatorsState) : Except Error OperatorsState := do
  require a.payer.isSigner (.anchor .accountNotSigner)
  require a.owner.isSigner (.anchor .accountNotSigner)
  let bump ← newRegistryPda env a.registry s
  pure { s with registry := some ⟨a.owner.key, 0, bump⟩ }

/-- `add_operator`. -/
def addOperator (a : AddOperator) (s : OperatorsState) : Except Error OperatorsState := do
  require a.owner.isSigner (.anchor .accountNotSigner)
  let registry ← okOr s.registry (.anchor .accountNotInitialized)
  let bump ← newOperatorPda env a.operatorToAdd a.operatorAccount s
  require (a.owner.key = registry.owner) ErrorCode.unauthorizedOwner.err
  registrySeeds env registry a.registry
  let operatorCount ← okOr (checkedAdd registry.operatorCount 1) (.program .arithmeticOverflow)
  pure
    { s with
      registry := some { registry with operatorCount }
      operators := Function.update s.operators a.operatorAccount (some ⟨bump⟩) }

/-- `remove_operator`: the account is closed on exit. -/
def removeOperator (a : RemoveOperator) (s : OperatorsState) : Except Error OperatorsState := do
  require a.owner.isSigner (.anchor .accountNotSigner)
  let registry ← okOr s.registry (.anchor .accountNotInitialized)
  let account ← okOr (s.operators a.operatorAccount) (.anchor .accountNotInitialized)
  require (a.owner.key = registry.owner) ErrorCode.unauthorizedOwner.err
  registrySeeds env registry a.registry
  operatorSeeds env a.operatorToRemove account a.operatorAccount
  -- Should never happen if the Operator PDA exists
  let operatorCount ← okOr (checkedSub registry.operatorCount 1) (.program .invalidAccountData)
  pure
    { s with
      registry := some { registry with operatorCount }
      operators := Function.update s.operators a.operatorAccount none }

/-- `transfer_owner`. -/
def transferOwner (a : TransferOwner) (s : OperatorsState) : Except Error OperatorsState := do
  require a.owner.isSigner (.anchor .accountNotSigner)
  let registry ← okOr s.registry (.anchor .accountNotInitialized)
  require (a.owner.key = registry.owner) ErrorCode.unauthorizedOwner.err
  require (a.newOwner ≠ registry.owner) ErrorCode.sameOwner.err
  registrySeeds env registry a.registry
  pure
    { s with
      registry := some { registry with owner := a.newOwner }
      events := s.events ++ [⟨a.owner.key, a.newOwner⟩] }

/-- An instruction of the program. -/
inductive OperatorsInstruction
  | initializeRegistry (accounts : Initialize)
  | addOperator (accounts : AddOperator)
  | removeOperator (accounts : RemoveOperator)
  | transferOwner (accounts : TransferOwner)
  deriving DecidableEq

/-- The addresses whose signatures an instruction carries. -/
def OperatorsInstruction.signers : OperatorsInstruction → List Pubkey
  | .initializeRegistry a => signersOfInfos [a.payer, a.owner]
  | .addOperator a => signersOfInfos [a.owner]
  | .removeOperator a => signersOfInfos [a.owner]
  | .transferOwner a => signersOfInfos [a.owner]

/-- **One instruction of the program.** -/
def process (instruction : OperatorsInstruction) (s : OperatorsState) :
    Except Error OperatorsState :=
  match instruction with
  | .initializeRegistry a => initializeRegistry env a s
  | .addOperator a => addOperator env a s
  | .removeOperator a => removeOperator env a s
  | .transferOwner a => transferOwner env a s

/-! ## What success means -/

variable {env} {s s' : OperatorsState}

/-- **The seeds of an operator's account lead to an address**, with some bump. -/
def Env.Derives (env : Env) (operator key : Pubkey) : Prop :=
  env.toSyscalls.Derives env.operatorsId (OperatorAccount.pdaSeeds operator) key

/-- The seeds of an operator's account lead to its address, with the bump that it holds. -/
@[simp] theorem operatorSeeds_eq_ok {operator key : Pubkey} {account : OperatorAccount} {u : Unit} :
    operatorSeeds env operator account key = .ok u ↔
      env.createProgramAddress (OperatorAccount.pdaSeeds operator ++ [[account.bump]])
        env.operatorsId = some key := by
  simp [operatorSeeds]

/-- What it takes to be accepted as an operator: an account at the address of one's own key. -/
@[simp] theorem operatorPda_eq_ok {operator key : Pubkey} {account : OperatorAccount} :
    operatorPda env operator key s = .ok account ↔ s.operators key = some account ∧
      env.createProgramAddress (OperatorAccount.pdaSeeds operator ++ [[account.bump]])
        env.operatorsId = some key := by
  simp only [operatorPda, bind_eq_ok, okOr_eq_ok, operatorSeeds_eq_ok, pure_eq_ok]
  constructor
  · rintro ⟨stored, present, _, address, rfl⟩
    exact ⟨present, address⟩
  · rintro ⟨present, address⟩
    exact ⟨account, present, (), address, rfl⟩

/-- What it takes to create an operator's account. -/
@[simp] theorem newOperatorPda_eq_ok {operator key : Pubkey} {bump : UInt8} :
    newOperatorPda env operator key s = .ok bump ↔ s.operators key = none ∧
      env.findProgramAddress (OperatorAccount.pdaSeeds operator) env.operatorsId
        = .ok (key, bump) :=
  Syscalls.initPda_eq_ok _

/-- **What a committed instruction has done.** Once there is a registry, its owner signs. -/
inductive Effect (env : Env) (s : OperatorsState) : OperatorsInstruction → OperatorsState → Prop
  | initialises (a : Initialize) (bump : UInt8) (signed : a.owner.isSigner = true)
      (fresh : s.registry = none) :
      Effect env s (.initializeRegistry a) { s with registry := some ⟨a.owner.key, 0, bump⟩ }
  | adds (a : AddOperator) (registry : OperatorRegistry) (bump : UInt8) (operatorCount : UInt64)
      (signed : a.owner.isSigner = true) (stored : s.registry = some registry)
      (owner : a.owner.key = registry.owner) (absent : s.operators a.operatorAccount = none)
      (address : env.findProgramAddress (OperatorAccount.pdaSeeds a.operatorToAdd) env.operatorsId
        = .ok (a.operatorAccount, bump))
      (counted : checkedAdd registry.operatorCount 1 = some operatorCount) :
      Effect env s (.addOperator a)
        { s with
          registry := some { registry with operatorCount }
          operators := Function.update s.operators a.operatorAccount (some ⟨bump⟩) }
  | removes (a : RemoveOperator) (registry : OperatorRegistry) (account : OperatorAccount)
      (operatorCount : UInt64) (signed : a.owner.isSigner = true)
      (stored : s.registry = some registry) (owner : a.owner.key = registry.owner)
      (present : s.operators a.operatorAccount = some account)
      (address : env.createProgramAddress
        (OperatorAccount.pdaSeeds a.operatorToRemove ++ [[account.bump]]) env.operatorsId
          = some a.operatorAccount)
      (counted : checkedSub registry.operatorCount 1 = some operatorCount) :
      Effect env s (.removeOperator a)
        { s with
          registry := some { registry with operatorCount }
          operators := Function.update s.operators a.operatorAccount none }
  | transfers (a : TransferOwner) (registry : OperatorRegistry) (signed : a.owner.isSigner = true)
      (stored : s.registry = some registry) (owner : a.owner.key = registry.owner)
      (other : a.newOwner ≠ registry.owner) :
      Effect env s (.transferOwner a)
        { s with
          registry := some { registry with owner := a.newOwner }
          events := s.events ++ [⟨a.owner.key, a.newOwner⟩] }

/-- **What a committed instruction has done**, instruction by instruction. -/
theorem process_effect {i : OperatorsInstruction} (h : process env i s = .ok s') :
    Effect env s i s' := by
  cases i with
  | initializeRegistry a =>
    simp only [process, initializeRegistry, newRegistryPda, bind_eq_ok, require_eq_ok,
      Syscalls.initPda_eq_ok, pure_eq_ok] at h
    obtain ⟨_, -, _, signed, bump, ⟨fresh, -⟩, rfl⟩ := h
    exact .initialises a bump signed fresh
  | addOperator a =>
    simp only [process, addOperator, bind_eq_ok, require_eq_ok, okOr_eq_ok, newOperatorPda_eq_ok,
      pure_eq_ok] at h
    obtain ⟨_, signed, registry, stored, bump, ⟨absent, address⟩, _, owner, _, -, operatorCount,
      counted, rfl⟩ := h
    exact .adds a registry bump operatorCount signed stored owner absent address counted
  | removeOperator a =>
    simp only [process, removeOperator, bind_eq_ok, require_eq_ok, okOr_eq_ok, operatorSeeds_eq_ok,
      pure_eq_ok] at h
    obtain ⟨_, signed, registry, stored, account, present, _, owner, _, -, _, address, operatorCount,
      counted, rfl⟩ := h
    exact .removes a registry account operatorCount signed stored owner present address counted
  | transferOwner a =>
    simp only [process, transferOwner, bind_eq_ok, require_eq_ok, okOr_eq_ok, pure_eq_ok] at h
    obtain ⟨_, signed, registry, stored, _, owner, _, other, _, -, rfl⟩ := h
    exact .transfers a registry signed stored owner other

end AxelarSolana.Operators
