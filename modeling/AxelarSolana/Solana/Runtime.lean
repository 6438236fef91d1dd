import AxelarSolana.Library.Codec
import AxelarSolana.Library.Fallible

/-! # The Solana runtime the programs rely on

What every program of the repository takes from the runtime and from Anchor:

* **`Syscalls`** — the hash function, the derivation of program addresses and the signature
  recovery, as parameters: their code is not part of the repository.
* **`findProgramAddress`** — the search for the canonical bump, from 255 down to 1.
* **`ValidSeeds`** — the seeds that the runtime accepts.
* **`Derives`**, **`Apart`** — the addresses that seeds lead to; seeds that lead to different ones.
* **`Error`** — the errors of the runtime, of Anchor's account checks and of the programs.
* **`AccountInfo`**, **`AccountMeta`** — an account handed to a program, with its flags, and the
  runtime's handling of the flags in a cross-program call. -/

namespace AxelarSolana

/-- 32 bytes: a hash, a command id, a token id. -/
abbrev Bytes32 := List.Vector UInt8 32

/-- The address of an account. -/
abbrev Pubkey := Bytes32

instance : LawfulBEq Pubkey := inferInstance

/-- `<[u8; 32]>::try_from` on a byte slice: 32 bytes exactly. -/
def bytes32FromSlice (b : Bytes) : Option Bytes32 :=
  if h : b.length = 32 then some ⟨b, h⟩ else none

/-! ## Errors -/

/-- The checks Anchor generates from the `#[account(..)]` constraints. -/
inductive AnchorError
  | constraintSigner
  | constraintSeeds
  | constraintAddress
  | constraintTokenMint
  | constraintTokenOwner
  | constraintTokenTokenProgram
  | constraintMintMintAuthority
  | constraintMintTokenProgram
  | constraintAssociated
  | constraintDuplicateMutableAccount
  | accountNotSigner
  | accountNotInitialized
  | accountOwnedByWrongProgram
  | accountDidNotSerialize
  | instructionDidNotDeserialize
  | instructionFallbackNotFound
  deriving DecidableEq, Repr

/-- The errors of `solana_program::program_error::ProgramError` that the programs report. -/
inductive ProgramError
  | invalidArgument
  | invalidInstructionData
  | invalidAccountData
  | insufficientFunds
  | missingRequiredSignature
  | arithmeticOverflow
  | invalidSeeds
  | incorrectProgramId
  | missingAccount
  | notEnoughAccountKeys
  deriving DecidableEq, Repr

/-- **Why an instruction failed.** A program's own errors are numbered from 6000 in the order of
their declaration, those of the executable interface from 7000; a panic aborts the program. -/
inductive Error
  | anchor (e : AnchorError)
  | program (e : ProgramError)
  | custom (code : Nat)
  | callDepth
  | panic
  deriving DecidableEq, Repr

/-- Anchor's `init` on an account that exists: the system program's `AccountAlreadyInUse`. -/
def Error.accountAlreadyInUse : Error := .custom 0

/-! ## Syscalls -/

/-- **The runtime's functions.** `createProgramAddress` is `none` when the seeds are invalid, in
particular when the candidate address lies on the curve; `pubkeyFromStr` is `none` when the
string is not the base-58 form of 32 bytes. -/
structure Syscalls where
  keccak : Bytes → Bytes32
  createProgramAddress : List Bytes → Pubkey → Option Pubkey
  pubkeyFromStr : String → Option Pubkey
  secp256k1Recover : Bytes32 → UInt8 → Bytes → Option (List.Vector UInt8 64)

variable (sys : Syscalls)

/-- `solana_keccak_hasher::hashv`: the hash of the concatenation. -/
def Syscalls.hashv (parts : List Bytes) : Bytes32 := sys.keccak parts.flatten

/-- `Pubkey::try_find_program_address`: the first bump, from 255 down to 1, whose address is
valid. Bump 0 is never tried. -/
def Syscalls.tryFindProgramAddress (seeds : List Bytes) (programId : Pubkey) :
    Option (Pubkey × UInt8) :=
  (List.range 255).findSome? fun i =>
    let bump : UInt8 := 255 - UInt8.ofNat i
    (sys.createProgramAddress (seeds ++ [[bump]]) programId).map fun key => (key, bump)

/-- `Pubkey::find_program_address`: panics when there is no valid bump. -/
def Syscalls.findProgramAddress (seeds : List Bytes) (programId : Pubkey) :
    Except Error (Pubkey × UInt8) :=
  Fallible.okOr (sys.tryFindProgramAddress seeds programId) .panic

/-- The address found is the one created with the bump found. -/
theorem Syscalls.createProgramAddress_of_find {seeds : List Bytes} {programId key : Pubkey}
    {bump : UInt8} (h : sys.findProgramAddress seeds programId = .ok (key, bump)) :
    sys.createProgramAddress (seeds ++ [[bump]]) programId = some key := by
  simp only [findProgramAddress, Fallible.okOr_eq_ok, tryFindProgramAddress] at h
  obtain ⟨i, -, hi⟩ := List.exists_of_findSome?_eq_some h
  simp only [Option.map_eq_some_iff, Prod.mk.injEq] at hi
  obtain ⟨k, hk, rfl, rfl⟩ := hi
  exact hk

/-- **Anchor's `init`** of an account with `seeds` and the canonical `bump`: the address is checked,
then the account is created, which fails when it is not absent. All accounts of an instruction are
created before the constraints of its other accounts are checked. -/
def Syscalls.initPda (seeds : List Bytes) (programId key : Pubkey) (absent : Prop)
    [Decidable absent] : Except Error UInt8 := do
  let found ← sys.findProgramAddress seeds programId
  Fallible.require (key = found.1) (.anchor .constraintSeeds)
  Fallible.require absent Error.accountAlreadyInUse
  pure found.2

/-- What it takes to create an account: it is absent, and its address is the one found for the
seeds. -/
@[simp] theorem Syscalls.initPda_eq_ok {seeds : List Bytes} {programId key : Pubkey}
    {absent : Prop} [Decidable absent] {bump : UInt8} :
    sys.initPda seeds programId key absent = .ok bump ↔
      absent ∧ sys.findProgramAddress seeds programId = .ok (key, bump) := by
  simp only [initPda, Fallible.bind_eq_ok, Fallible.require_eq_ok, Fallible.pure_eq_ok]
  constructor
  · rintro ⟨⟨key', bump'⟩, found, _, rfl, _, fresh, rfl⟩
    exact ⟨fresh, found⟩
  · rintro ⟨fresh, found⟩
    exact ⟨_, found, (), rfl, (), fresh, rfl⟩

/-- **The seeds that the runtime accepts** together with a bump: `MAX_SEEDS` is 16, and
`MAX_SEED_LEN` is 32. -/
def ValidSeeds (seeds : List Bytes) : Prop :=
  seeds.length ≤ 15 ∧ ∀ seed ∈ seeds, seed.length ≤ 32

/-- **The seeds lead to an address** of a program, with some bump. -/
def Syscalls.Derives (programId : Pubkey) (seeds : List Bytes) (key : Pubkey) : Prop :=
  ∃ bump, sys.createProgramAddress (seeds ++ [[bump]]) programId = some key

/-- **No two of these seeds lead to the same address** of a program. -/
def Syscalls.Apart (programId : Pubkey) (names : List Bytes → Prop) : Prop :=
  ∀ x y key, names x → names y → sys.Derives programId x key → sys.Derives programId y key → x = y

section Derived

variable {sys} {programId : Pubkey}

/-- Seeds lead to the address found for them. -/
theorem derives_of_find {seeds : List Bytes} {key : Pubkey} {bump : UInt8}
    (h : sys.findProgramAddress seeds programId = .ok (key, bump)) :
    sys.Derives programId seeds key :=
  ⟨bump, sys.createProgramAddress_of_find h⟩

/-- Of fewer seeds, no two lead to the same address either. -/
theorem Syscalls.Apart.mono {names names' : List Bytes → Prop} (h : sys.Apart programId names')
    (sub : ∀ x, names x → names' x) : sys.Apart programId names :=
  fun x y key hx hy => h x y key (sub x hx) (sub y hy)

end Derived

/-! ## Accounts -/

/-- `AccountInfo`, as far as the address and the signer flag: the account a caller passes. -/
structure AccountInfo where
  key : Pubkey
  isSigner : Bool
  deriving DecidableEq

/-- The addresses that sign, of accounts that are declared as signers. -/
def signersOfInfos (infos : List AccountInfo) : List Pubkey :=
  (infos.filter AccountInfo.isSigner).map AccountInfo.key

/-- Who signs is declared as a signer, and the other way round. -/
theorem mem_signersOfInfos {infos : List AccountInfo} {key : Pubkey} :
    key ∈ signersOfInfos infos ↔ ∃ a ∈ infos, a.isSigner = true ∧ a.key = key := by
  simp [signersOfInfos, and_assoc]

/-- `AccountMeta`: an account of an instruction with the privileges it is passed with. -/
structure AccountMeta where
  pubkey : Pubkey
  isSigner : Bool
  isWritable : Bool
  deriving DecidableEq

/-- An account with the union of the privileges of all its occurrences in a list. -/
def unionPrivileges (metas : List AccountMeta) (m : AccountMeta) : AccountMeta :=
  { m with
    isSigner := metas.any fun n => n.pubkey = m.pubkey && n.isSigner
    isWritable := metas.any fun n => n.pubkey = m.pubkey && n.isWritable }

/-- An account signs an instruction when one of its occurrences does. -/
theorem isSigner_unionPrivileges {metas : List AccountMeta} {m : AccountMeta} :
    (unionPrivileges metas m).isSigner = true ↔
      ∃ n ∈ metas, n.pubkey = m.pubkey ∧ n.isSigner = true := by
  simp [unionPrivileges]

/-- The accounts of an instruction as it sees them: with the union of the privileges of all
occurrences of an account. -/
def mergePrivileges (metas : List AccountMeta) : List AccountMeta :=
  metas.map (unionPrivileges metas)

/-- The runtime's privilege check of a called instruction's account: a signer must sign the calling
instruction, whose accounts are given, or be the address signed for; a writable account must be
writable for the caller. -/
def hasPrivileges (accounts : List AccountMeta) (signer : Pubkey) (m : AccountMeta) : Bool :=
  (!m.isSigner || m.pubkey = signer ||
    accounts.any fun a => a.pubkey = m.pubkey && a.isSigner) &&
  (!m.isWritable || accounts.any fun a => a.pubkey = m.pubkey && a.isWritable)

/-- **What an instruction reads of the chain** besides its accounts: the clock's
`unix_timestamp` and `epoch`, and the upgrade authority recorded in a program's `ProgramData`. -/
structure Sysvar where
  unixTimestamp : Int64
  epoch : UInt64
  upgradeAuthorityAddress : Pubkey → Option Pubkey

/-! ## Checked arithmetic -/

/-- `u64::checked_add`. -/
def checkedAdd (a b : UInt64) : Option UInt64 :=
  if a.toNat + b.toNat < 2 ^ 64 then some (a + b) else none

/-- `u64::checked_sub`. -/
def checkedSub (a b : UInt64) : Option UInt64 :=
  if b ≤ a then some (a - b) else none

/-- A difference exists when it is not negative. -/
theorem checkedSub_eq_some {a b c : UInt64} : checkedSub a b = some c ↔ b ≤ a ∧ a - b = c := by
  simp [checkedSub]

/-- A sum that exists is the sum of the numbers. -/
theorem toNat_of_checkedAdd {a b c : UInt64} (h : checkedAdd a b = some c) :
    c.toNat = a.toNat + b.toNat := by
  unfold checkedAdd at h
  split at h
  case isTrue fits =>
    cases h
    rw [UInt64.toNat_add, Nat.mod_eq_of_lt fits]
  case isFalse => cases h

/-- A difference that exists adds up again. -/
theorem toNat_of_checkedSub {a b c : UInt64} (h : checkedSub a b = some c) :
    c.toNat + b.toNat = a.toNat := by
  obtain ⟨le, rfl⟩ := checkedSub_eq_some.mp h
  have bound := UInt64.le_iff_toNat_le.mp le
  rw [UInt64.toNat_sub_of_le _ _ le]
  omega

/-- A difference does not exist when it would be negative. -/
theorem checkedSub_eq_none {a b : UInt64} : checkedSub a b = none ↔ a.toNat < b.toNat := by
  simp [checkedSub, UInt64.lt_iff_toNat_lt]

/-- `i64` to `u64` by `try_into`: fails on a negative number. -/
def tryIntoU64 (t : Int64) : Option UInt64 :=
  if 0 ≤ t then some t.toUInt64 else none

/-- A number that is not negative stays the same without its sign. -/
theorem toNat_toUInt64_of_nonneg {t : Int64} (h : 0 ≤ t) : (t.toUInt64.toNat : Int) = t.toInt := by
  have nonneg : 0 ≤ t.toInt := Int64.le_iff_toInt_le.mp h
  rw [Int64.toNat_toUInt64_of_le h]
  exact Int.toNat_of_nonneg nonneg

/-- A clock that converts is not negative, and converts to itself. -/
theorem tryIntoU64_eq_some {t : Int64} {u : UInt64} (h : tryIntoU64 t = some u) :
    (u.toNat : Int) = t.toInt := by
  unfold tryIntoU64 at h
  split at h
  case isTrue nonneg =>
    rw [Option.some.injEq] at h
    rw [← h]
    exact toNat_toUInt64_of_nonneg nonneg
  case isFalse => cases h

end AxelarSolana
