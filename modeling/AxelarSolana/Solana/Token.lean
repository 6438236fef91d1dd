import AxelarSolana.Solana.Runtime

/-! # Mints and token accounts

What the programs see of the token programs, the associated token program and the token metadata
program. Their code is not part of the repository: their accounts are data, and a call to one of
them is a value of `TokenInstruction`, whose effect is a parameter of the models that make it.

* **`Mint`**, **`TokenAccount`**, **`TokenMetadata`** — the accounts.
* **`TokenState`** — all of them, by address.
* **`TokenInstruction`** — an instruction to one of these programs. -/

namespace AxelarSolana

/-! ## Accounts -/

/-- `TransferFee`: the fee from an epoch on. -/
structure TransferFee where
  epoch : UInt64
  maximumFee : UInt64
  transferFeeBasisPoints : UInt16
  deriving DecidableEq

/-- `TransferFeeConfig`: the extension of a mint whose transfers withhold a fee. -/
structure TransferFeeConfig where
  olderTransferFee : TransferFee
  newerTransferFee : TransferFee
  deriving DecidableEq

/-- **A mint**, owned by one of the token programs: its base state and the extensions that are
read. -/
structure Mint where
  owner : Pubkey
  mintAuthority : Option Pubkey
  supply : UInt64
  decimals : UInt8
  freezeAuthority : Option Pubkey
  transferFeeConfig : Option TransferFeeConfig
  metadataAddress : Option Pubkey
  tokenMetadata : Option (String × String)
  deriving DecidableEq

/-- **A token account**, owned by one of the token programs; `authority` is the wallet it belongs
to. -/
structure TokenAccount where
  owner : Pubkey
  mint : Pubkey
  authority : Pubkey
  amount : UInt64
  deriving DecidableEq

/-- A metadata account of the token metadata program: the mint, the name and the symbol. -/
structure TokenMetadata where
  mint : Pubkey
  name : String
  symbol : String
  deriving DecidableEq

/-- **All mints, token accounts and metadata accounts.** -/
structure TokenState where
  mints : Pubkey → Option Mint
  accounts : Pubkey → Option TokenAccount
  metadata : Pubkey → Option TokenMetadata

namespace TokenState

/-- No account exists. -/
def empty : TokenState where
  mints := fun _ => none
  accounts := fun _ => none
  metadata := fun _ => none

/-- **The balance of a token account**, 0 when it does not exist. -/
def balance (account : Pubkey) (t : TokenState) : Nat :=
  (t.accounts account).elim 0 fun a => a.amount.toNat

/-- **The supply of a mint**, 0 when it does not exist. -/
def supply (mint : Pubkey) (t : TokenState) : Nat :=
  (t.mints mint).elim 0 fun m => m.supply.toNat

/-- **The token account belongs to a wallet.** -/
def BelongsTo (t : TokenState) (account authority : Pubkey) : Prop :=
  ∃ a, t.accounts account = some a ∧ a.authority = authority

end TokenState

/-! ## Instructions -/

/-- **An instruction of the programs that own these accounts**, with the accounts it works on:

* `create` — of the associated token program;
* `initializeMint2`, `mintTo`, `burn`, `transferChecked`, `transferCheckedWithFee`,
  `setMintAuthority` — of the token program given first;
* `createV1` — of the token metadata program;
* `other` — any other instruction of one of these programs. -/
inductive TokenInstruction
  | create (payer associatedToken authority mint tokenProgram : Pubkey)
  | initializeMint2 (tokenProgram mint : Pubkey) (decimals : UInt8) (mintAuthority : Pubkey)
      (freezeAuthority : Option Pubkey)
  | mintTo (tokenProgram mint destination authority : Pubkey) (amount : UInt64)
  | burn (tokenProgram mint source authority : Pubkey) (amount : UInt64)
  | transferChecked (tokenProgram source mint destination authority : Pubkey) (amount : UInt64)
      (decimals : UInt8)
  | transferCheckedWithFee (tokenProgram source mint destination authority : Pubkey)
      (amount : UInt64) (decimals : UInt8) (fee : UInt64)
  | setMintAuthority (tokenProgram mint currentAuthority : Pubkey) (newAuthority : Option Pubkey)
  | createV1 (metadata mint authority payer : Pubkey) (name symbol : String)
  | other (programId : Pubkey) (accounts : List AccountMeta) (data : Bytes)
  deriving DecidableEq

namespace TokenInstruction

/-- An instruction of a token program that may change who controls a mint or an account. -/
def reassigns : TokenInstruction → Bool
  | .setMintAuthority .. | .other .. => true
  | _ => false

/-- An instruction of a token program that may change a balance or a supply, or create a mint. -/
def loud : TokenInstruction → Bool
  | .create .. | .setMintAuthority .. | .createV1 .. => false
  | _ => true

end TokenInstruction

end AxelarSolana
