import AxelarSolana.Solana.TokenProgram

/-! # What token instructions move

* **`TokenInstruction.minted`**, **`burnt`**, **`credited`**, **`debited`** — what an instruction says
  that it adds to a supply or a balance, and takes from it.
* **`MovementLaws`** — the token programs do what the instruction says.
* **`WalletLaws`** — a token account stays with its wallet, and the associated account of a wallet is
  the wallet's.
* **`TokenProgram.movement`**, **`TokenProgram.wallets`** — the token program of the samples follows
  these laws. -/

namespace AxelarSolana

open Fallible

/-! ## What an instruction says -/

namespace TokenInstruction

/-- What is added to the supply of a mint. -/
def minted (key : Pubkey) : TokenInstruction → Nat
  | .mintTo _ mint _ _ amount => if mint = key then amount.toNat else 0
  | _ => 0

/-- What is taken from the supply of a mint. -/
def burnt (key : Pubkey) : TokenInstruction → Nat
  | .burn _ mint _ _ amount => if mint = key then amount.toNat else 0
  | _ => 0

/-- What is added to the balance of an account: of a transfer with a fee, what the fee leaves. -/
def credited (key : Pubkey) : TokenInstruction → Nat
  | .mintTo _ _ destination _ amount => if destination = key then amount.toNat else 0
  | .transferChecked _ _ _ destination _ amount _ => if destination = key then amount.toNat else 0
  | .transferCheckedWithFee _ _ _ destination _ amount _ fee =>
    if destination = key then amount.toNat - fee.toNat else 0
  | _ => 0

/-- What is taken from the balance of an account. -/
def debited (key : Pubkey) : TokenInstruction → Nat
  | .burn _ _ source _ amount => if source = key then amount.toNat else 0
  | .transferChecked _ source _ _ _ amount _ => if source = key then amount.toNat else 0
  | .transferCheckedWithFee _ source _ _ _ amount _ _ => if source = key then amount.toNat else 0
  | _ => 0

/-- Whether an instruction may move tokens: those that are modelled mint, burn or transfer them. -/
def moves : TokenInstruction → Bool
  | .create .. | .initializeMint2 .. | .setMintAuthority .. | .createV1 .. => false
  | _ => true

/-- **An instruction that says all that it moves**: no fee is withheld that it does not name, and what
is transferred with a fee goes to another account. -/
def SaysAll (t : TokenState) : TokenInstruction → Prop
  | .transferChecked _ _ mint _ _ _ _ => ∀ m, t.mints mint = some m → m.transferFeeConfig = none
  | .transferCheckedWithFee _ source _ destination _ _ _ _ => source ≠ destination
  | .other .. => False
  | _ => True

end TokenInstruction

/-! ## Laws -/

/-- **The token programs move what an instruction says.** -/
structure MovementLaws
    (tokens : TokenInstruction → List Pubkey → TokenState → Except Error TokenState) : Prop where
  supply : ∀ {instruction signers t t'}, tokens instruction signers t = .ok t' →
    instruction.SaysAll t → ∀ key,
      t'.supply key + instruction.burnt key = t.supply key + instruction.minted key
  balance : ∀ {instruction signers t t'}, tokens instruction signers t = .ok t' →
    instruction.SaysAll t → ∀ key,
      t'.balance key + instruction.debited key = t.balance key + instruction.credited key

/-- What moves no tokens leaves every balance and every supply. -/
theorem MovementLaws.still
    {tokens : TokenInstruction → List Pubkey → TokenState → Except Error TokenState}
    (h : MovementLaws tokens) {instruction : TokenInstruction} {signers : List Pubkey}
    {t t' : TokenState} (called : tokens instruction signers t = .ok t')
    (still : instruction.moves = false) (key : Pubkey) :
    t'.balance key = t.balance key ∧ t'.supply key = t.supply key := by
  cases instruction with
  | create | initializeMint2 | setMintAuthority | createV1 =>
    exact ⟨h.balance called trivial key, h.supply called trivial key⟩
  | _ => cases still

/-- **To whom token accounts belong**, given the addresses of associated accounts:

* `wallet` — an account gets another wallet only by the signature of its wallet, and only by an
  instruction that reassigns authorities;
* `associated` — the account that is created at the address of a wallet's associated account is that
  wallet's.

By `wallet`, a token account belongs to a key or to the address of a program, not to an account with
several signers, for which these sign. -/
structure WalletLaws (associated : Pubkey → Pubkey → Pubkey → Except Error Pubkey)
    (tokens : TokenInstruction → List Pubkey → TokenState → Except Error TokenState) : Prop where
  wallet : ∀ {instruction signers t t' key a a'}, tokens instruction signers t = .ok t' →
    t.accounts key = some a → t'.accounts key = some a' → a'.authority ≠ a.authority →
      instruction.reassigns = true ∧ a.authority ∈ signers
  associated : ∀ {instruction signers t t' key a}, tokens instruction signers t = .ok t' →
    t.accounts key = none → t'.accounts key = some a → ∀ wallet mint tokenProgram,
      associated wallet mint tokenProgram = .ok key → a.authority = wallet

/-! ## A token program that follows them -/

namespace TokenState

variable {t t' : TokenState}

/-- The source pays the amount, and no other balance changes. -/
theorem balance_of_debit {mint source authority : Pubkey} {amount : UInt64} {signers : List Pubkey}
    (h : t.debit mint source authority amount signers = .ok t') (key : Pubkey) :
    t'.balance key + (if source = key then amount.toNat else 0) = t.balance key := by
  simp only [debit, bind_eq_ok, okOr_eq_ok, require_eq_ok, pure_eq_ok] at h
  obtain ⟨account, stored, _, -, _, -, _, enough, rfl⟩ := h
  by_cases same : source = key
  · subst same
    have fits : amount.toNat ≤ account.amount.toNat := UInt64.le_iff_toNat_le.mp enough
    simp only [balance, setAccount, Function.update_self, stored, Option.elim_some, if_true,
      UInt64.toNat_sub_of_le _ _ enough]
    omega
  · simp only [balance, setAccount, Function.update_of_ne (Ne.symm same), if_neg same, Nat.add_zero]

/-- The destination receives the amount, and no other balance changes. -/
theorem balance_of_credit {mint destination : Pubkey} {amount : UInt64}
    (h : t.credit mint destination amount = .ok t') (key : Pubkey) :
    t'.balance key = t.balance key + (if destination = key then amount.toNat else 0) := by
  simp only [credit, bind_eq_ok, okOr_eq_ok, require_eq_ok, pure_eq_ok] at h
  obtain ⟨account, stored, _, -, _, fits, rfl⟩ := h
  by_cases same : destination = key
  · subst same
    simp only [balance, setAccount, Function.update_self, stored, Option.elim_some, if_true,
      UInt64.toNat_add, Nat.mod_eq_of_lt fits]
  · simp only [balance, setAccount, Function.update_of_ne (Ne.symm same), if_neg same, Nat.add_zero]

/-- **Every account was there, and belonged to the same wallet.** -/
def SameWallets (t t' : TokenState) : Prop :=
  ∀ key a', t'.accounts key = some a' → ∃ a, t.accounts key = some a ∧ a'.authority = a.authority

/-- Accounts that are as they were belong to whom they belonged. -/
theorem SameWallets.of_accounts (same : t'.accounts = t.accounts) : t.SameWallets t' :=
  fun _ a' stored => ⟨a', same ▸ stored, rfl⟩

/-- Accounts that belong to the same wallets step by step belong to the same in the end. -/
theorem SameWallets.trans {t₁ : TokenState} (h : t.SameWallets t₁) (h' : t₁.SameWallets t') :
    t.SameWallets t' := by
  intro key a' stored
  obtain ⟨a₁, stored₁, same'⟩ := h' key a' stored
  obtain ⟨a, stored, same⟩ := h key a₁ stored₁
  exact ⟨a, stored, same'.trans same⟩

/-- Another amount in an account. -/
theorem sameWallets_setAccount {key : Pubkey} {a : TokenAccount} (stored : t.accounts key = some a)
    (amount : UInt64) : t.SameWallets (t.setAccount key { a with amount }) := by
  intro key' a' stored'
  by_cases same : key' = key
  · subst same
    simp only [setAccount, Function.update_self, Option.some.injEq] at stored'
    exact ⟨a, stored, by rw [← stored']⟩
  · simp only [setAccount, Function.update_of_ne same] at stored'
    exact ⟨a', stored', rfl⟩

/-- Paying leaves an account with its wallet. -/
theorem sameWallets_of_debit {mint source authority : Pubkey} {amount : UInt64}
    {signers : List Pubkey} (h : t.debit mint source authority amount signers = .ok t') :
    t.SameWallets t' := by
  simp only [debit, bind_eq_ok, okOr_eq_ok, pure_eq_ok] at h
  obtain ⟨account, stored, _, -, _, -, _, -, rfl⟩ := h
  exact sameWallets_setAccount stored _

/-- Receiving leaves an account with its wallet. -/
theorem sameWallets_of_credit {mint destination : Pubkey} {amount : UInt64}
    (h : t.credit mint destination amount = .ok t') : t.SameWallets t' := by
  simp only [credit, bind_eq_ok, okOr_eq_ok, pure_eq_ok] at h
  obtain ⟨account, stored, _, -, _, -, rfl⟩ := h
  exact sameWallets_setAccount stored _

/-- Payments leave every supply. -/
theorem supply_of_mints (same : t'.mints = t.mints) (key : Pubkey) : t'.supply key = t.supply key := by
  unfold supply
  rw [same]

/-- A new supply leaves every balance. -/
theorem resupply_ok {mint : Pubkey} {supply : Mint → Except Error UInt64}
    (h : t.resupply mint supply = .ok t') : ∃ m new, t.mints mint = some m ∧ supply m = .ok new ∧
      t'.accounts = t.accounts ∧ ∀ key, t'.supply key
        = if mint = key then new.toNat else t.supply key := by
  simp only [resupply, bind_eq_ok, okOr_eq_ok, pure_eq_ok] at h
  obtain ⟨m, stored, new, supplied, rfl⟩ := h
  refine ⟨m, new, stored, supplied, rfl, fun key => ?_⟩
  by_cases same : mint = key
  · subst same
    simp only [TokenState.supply, setMint, Function.update_self, Option.elim_some, if_true]
  · simp only [TokenState.supply, setMint, Function.update_of_ne (Ne.symm same), if_neg same]

end TokenState

namespace TokenProgram

variable {associated : Pubkey → Pubkey → Pubkey → Except Error Pubkey}
  {instruction : TokenInstruction} {signers : List Pubkey} {t t' : TokenState}

/-- The supply changes by what an instruction mints and burns. -/
theorem supply_of_process (h : process associated instruction signers t = .ok t') (key : Pubkey) :
    t'.supply key + instruction.burnt key = t.supply key + instruction.minted key := by
  cases instruction with
  | create payer account authority mint tokenProgram =>
    simp only [process, bind_eq_ok, pure_eq_ok] at h
    obtain ⟨address, -, _, -, _, -, rfl⟩ := h
    rfl
  | initializeMint2 tokenProgram mint decimals mintAuthority freezeAuthority =>
    simp only [process, bind_eq_ok, require_eq_ok, pure_eq_ok] at h
    obtain ⟨_, -, _, fresh, rfl⟩ := h
    by_cases same : mint = key
    · subst same
      simp [TokenState.supply, TokenState.setMint, fresh, TokenInstruction.burnt,
        TokenInstruction.minted]
    · simp [TokenState.supply, TokenState.setMint, Function.update_of_ne (Ne.symm same),
        TokenInstruction.burnt, TokenInstruction.minted]
  | mintTo tokenProgram mint destination authority amount =>
    simp only [process, bind_eq_ok] at h
    obtain ⟨t₁, credited, resupplied⟩ := h
    -- the credit of the account leaves the mint, whose supply grows after it
    have mints := TokenState.mints_of_credit credited
    obtain ⟨m, new, stored, supplied, -, supply⟩ := TokenState.resupply_ok resupplied
    simp only [bind_eq_ok, require_eq_ok, pure_eq_ok] at supplied
    obtain ⟨_, -, _, fits, rfl⟩ := supplied
    rw [supply key]
    by_cases same : mint = key
    · subst same
      rw [mints] at stored
      simp only [TokenInstruction.burnt, TokenInstruction.minted, if_true, TokenState.supply, stored,
        Option.elim_some, UInt64.toNat_add, Nat.mod_eq_of_lt fits, Nat.add_zero]
    · simp only [TokenInstruction.burnt, TokenInstruction.minted, if_neg same,
        TokenState.supply_of_mints mints]
  | burn tokenProgram mint source authority amount =>
    simp only [process, bind_eq_ok] at h
    obtain ⟨t₁, debited, resupplied⟩ := h
    -- the debit of the account leaves the mint, whose supply shrinks after it
    have mints := TokenState.mints_of_debit debited
    obtain ⟨m, new, stored, supplied, -, supply⟩ := TokenState.resupply_ok resupplied
    simp only [bind_eq_ok, require_eq_ok, pure_eq_ok] at supplied
    obtain ⟨_, enough, rfl⟩ := supplied
    rw [supply key]
    by_cases same : mint = key
    · subst same
      have fits : amount.toNat ≤ m.supply.toNat := UInt64.le_iff_toNat_le.mp enough
      rw [mints] at stored
      simp only [TokenInstruction.burnt, TokenInstruction.minted, if_true, TokenState.supply, stored,
        Option.elim_some, UInt64.toNat_sub_of_le _ _ enough]
      omega
    · simp only [TokenInstruction.burnt, TokenInstruction.minted, if_neg same,
        TokenState.supply_of_mints mints]
  | transferChecked tokenProgram source mint destination authority amount decimals =>
    simp only [process, bind_eq_ok] at h
    obtain ⟨t₁, debited, credited⟩ := h
    exact TokenState.supply_of_mints
      ((TokenState.mints_of_credit credited).trans (TokenState.mints_of_debit debited)) key
  | transferCheckedWithFee tokenProgram source mint destination authority amount decimals fee =>
    simp only [process, bind_eq_ok] at h
    obtain ⟨_, -, t₁, debited, credited⟩ := h
    exact TokenState.supply_of_mints
      ((TokenState.mints_of_credit credited).trans (TokenState.mints_of_debit debited)) key
  | setMintAuthority tokenProgram mint current new =>
    exact ((laws associated).quiet h rfl key).2.1
  | createV1 metadata mint authority payer name symbol =>
    exact ((laws associated).quiet h rfl key).2.1
  | other programId accounts data => exact absurd h throw_ne_ok

/-- A balance changes by what an instruction moves. -/
theorem balance_of_process (h : process associated instruction signers t = .ok t') (key : Pubkey) :
    t'.balance key + instruction.debited key = t.balance key + instruction.credited key := by
  cases instruction with
  | create payer account authority mint tokenProgram =>
    exact balance_of_quiet h rfl key
  | initializeMint2 tokenProgram mint decimals mintAuthority freezeAuthority =>
    simp only [process, bind_eq_ok, require_eq_ok, pure_eq_ok] at h
    obtain ⟨_, -, _, -, rfl⟩ := h
    rfl
  | mintTo tokenProgram mint destination authority amount =>
    simp only [process, bind_eq_ok] at h
    obtain ⟨t₁, credited, resupplied⟩ := h
    obtain ⟨m, new, -, -, accounts, -⟩ := TokenState.resupply_ok resupplied
    have balance : t'.balance key = t₁.balance key := by
      unfold TokenState.balance
      rw [accounts]
    rw [balance, TokenState.balance_of_credit credited key]
    rfl
  | burn tokenProgram mint source authority amount =>
    simp only [process, bind_eq_ok] at h
    obtain ⟨t₁, debited, resupplied⟩ := h
    obtain ⟨m, new, -, -, accounts, -⟩ := TokenState.resupply_ok resupplied
    have balance : t'.balance key = t₁.balance key := by
      unfold TokenState.balance
      rw [accounts]
    rw [balance]
    exact TokenState.balance_of_debit debited key
  | transferChecked tokenProgram source mint destination authority amount decimals =>
    simp only [process, bind_eq_ok] at h
    obtain ⟨t₁, debited, credited⟩ := h
    have paid := TokenState.balance_of_debit debited key
    have received := TokenState.balance_of_credit credited key
    simp only [TokenInstruction.debited, TokenInstruction.credited]
    omega
  | transferCheckedWithFee tokenProgram source mint destination authority amount decimals fee =>
    simp only [process, bind_eq_ok, require_eq_ok] at h
    obtain ⟨_, fits, t₁, debited, credited⟩ := h
    have paid := TokenState.balance_of_debit debited key
    have received := TokenState.balance_of_credit credited key
    rw [UInt64.toNat_sub_of_le _ _ fits] at received
    simp only [TokenInstruction.debited, TokenInstruction.credited]
    omega
  | setMintAuthority tokenProgram mint current new => exact balance_of_quiet h rfl key
  | createV1 metadata mint authority payer name symbol => exact balance_of_quiet h rfl key
  | other programId accounts data => exact absurd h throw_ne_ok

/-- **It moves what an instruction says.** -/
theorem movement (associated : Pubkey → Pubkey → Pubkey → Except Error Pubkey) :
    MovementLaws (process associated) where
  supply h _ key := supply_of_process h key
  balance h _ key := balance_of_process h key

/-- **An account that is there belongs to the wallet it belonged to**, or it is new and the associated
account of its wallet. -/
theorem accounts_of_process (h : process associated instruction signers t = .ok t') {key : Pubkey}
    {a' : TokenAccount} (stored' : t'.accounts key = some a') :
    (∃ a, t.accounts key = some a ∧ a'.authority = a.authority) ∨
    t.accounts key = none ∧
      ∃ mint tokenProgram, associated a'.authority mint tokenProgram = .ok key := by
  cases instruction with
  | create payer account authority mint tokenProgram =>
    simp only [process, bind_eq_ok, require_eq_ok, pure_eq_ok] at h
    obtain ⟨address, created, _, rfl, _, fresh, rfl⟩ := h
    by_cases same : key = account
    · subst same
      simp only [TokenState.setAccount, Function.update_self, Option.some.injEq] at stored'
      rw [← stored']
      exact .inr ⟨fresh, mint, tokenProgram, created⟩
    · simp only [TokenState.setAccount, Function.update_of_ne same] at stored'
      exact .inl ⟨a', stored', rfl⟩
  | initializeMint2 tokenProgram mint decimals mintAuthority freezeAuthority =>
    simp only [process, bind_eq_ok, pure_eq_ok] at h
    obtain ⟨_, -, _, -, rfl⟩ := h
    exact .inl ⟨a', stored', rfl⟩
  | mintTo tokenProgram mint destination authority amount =>
    simp only [process, bind_eq_ok] at h
    obtain ⟨t₁, credited, resupplied⟩ := h
    obtain ⟨m, new, -, -, accounts, -⟩ := TokenState.resupply_ok resupplied
    exact .inl (((TokenState.sameWallets_of_credit credited).trans (.of_accounts accounts)) key a'
      stored')
  | burn tokenProgram mint source authority amount =>
    simp only [process, bind_eq_ok] at h
    obtain ⟨t₁, debited, resupplied⟩ := h
    obtain ⟨m, new, -, -, accounts, -⟩ := TokenState.resupply_ok resupplied
    exact .inl (((TokenState.sameWallets_of_debit debited).trans (.of_accounts accounts)) key a'
      stored')
  | transferChecked tokenProgram source mint destination authority amount decimals =>
    simp only [process, bind_eq_ok] at h
    obtain ⟨t₁, debited, credited⟩ := h
    exact .inl (((TokenState.sameWallets_of_debit debited).trans
      (TokenState.sameWallets_of_credit credited)) key a' stored')
  | transferCheckedWithFee tokenProgram source mint destination authority amount decimals fee =>
    simp only [process, bind_eq_ok] at h
    obtain ⟨_, -, t₁, debited, credited⟩ := h
    exact .inl (((TokenState.sameWallets_of_debit debited).trans
      (TokenState.sameWallets_of_credit credited)) key a' stored')
  | setMintAuthority tokenProgram mint current new =>
    simp only [process, bind_eq_ok, pure_eq_ok] at h
    obtain ⟨m, -, _, -, rfl⟩ := h
    exact .inl ⟨a', stored', rfl⟩
  | createV1 metadata mint authority payer name symbol =>
    simp only [process, bind_eq_ok, pure_eq_ok] at h
    obtain ⟨m, -, _, -, rfl⟩ := h
    exact .inl ⟨a', stored', rfl⟩
  | other programId accounts data => exact absurd h throw_ne_ok

/-- **It leaves token accounts to their wallets**, when no two wallets share an associated
account. -/
theorem wallets (apart : ∀ {wallet mint tokenProgram wallet' mint' tokenProgram' key},
    associated wallet mint tokenProgram = .ok key →
      associated wallet' mint' tokenProgram' = .ok key → wallet = wallet') :
    WalletLaws associated (process associated) where
  wallet := by
    intro instruction signers t t' key a a' h stored stored' changed
    rcases accounts_of_process h stored' with ⟨a₀, present, same⟩ | ⟨absent, -⟩
    · cases stored.symm.trans present
      exact absurd same changed
    · cases absent.symm.trans stored
  associated := by
    intro instruction signers t t' key a h absent stored wallet mint tokenProgram address
    rcases accounts_of_process h stored with ⟨a', present, -⟩ | ⟨-, mint', tokenProgram', created⟩
    · cases absent.symm.trans present
    · exact apart created address

end TokenProgram

end AxelarSolana
