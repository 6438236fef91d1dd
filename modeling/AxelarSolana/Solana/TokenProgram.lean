import AxelarSolana.Solana.Token
import Mathlib.Logic.Function.Basic

/-! # The behaviour of the token programs

* **`QuietLaws`** — some instructions move no tokens and make no mint.
* **`TokenLaws`** — what results about many instructions rely on: mints stay, only an address that
  signs becomes a mint, and the authority of a mint changes only with its own signature.
* **`FundingLaws`** — who pays for an account is not recorded in it.
* **`TokenState.Kept`** — every mint stays.
* **`TokenProgram.process`** — a token program, an associated token program and a metadata program
  that can be evaluated; **`TokenProgram.laws`** says that they behave so. -/

namespace AxelarSolana

open Fallible

/-! ## Laws -/

/-- **What moves nothing**: to create an account or metadata, or to set an authority, leaves every
balance and supply, and the mints that there are, each with its program. -/
structure QuietLaws
    (tokens : TokenInstruction → List Pubkey → TokenState → Except Error TokenState) : Prop where
  quiet : ∀ {instruction signers t t'}, tokens instruction signers t = .ok t' →
    instruction.loud = false → ∀ key, t'.balance key = t.balance key ∧
      t'.supply key = t.supply key ∧ (t'.mints key).map Mint.owner = (t.mints key).map Mint.owner

/-- Such an instruction creates no mint, and none goes. -/
theorem QuietLaws.mints
    {tokens : TokenInstruction → List Pubkey → TokenState → Except Error TokenState}
    (laws : QuietLaws tokens) {instruction : TokenInstruction} {signers : List Pubkey}
    {t t' : TokenState} (called : tokens instruction signers t = .ok t')
    (quiet : instruction.loud = false) (key : Pubkey) :
    t'.mints key = none ↔ t.mints key = none := by
  rw [← Option.map_eq_none_iff, (laws.quiet called quiet key).2.2, Option.map_eq_none_iff]

/-- **What the token programs, the associated token program and the metadata program do**, given
the addresses that sign:

* `keeps` — a mint stays, with its program and its transfer-fee extension;
* `signs` — a mint is created with the signature of its address;
* `creates` — of the instructions that reassign nothing, only its own initialisation creates it;
* `authority` — the authority of a mint changes only by its own signature, and only by an
  instruction that reassigns authorities;
* `initialised` — a new mint has the authority that the instruction names, and no transfer fee;
* `reassigned` — the authority that is set is the one that the instruction names.

Three things are assumed away. By `keeps`, no mint has an authority that may close it, which
Token-2022 has as an extension. By `authority`, the authority of a mint is a key or the address of a
program, not an account with several signers, for which these sign. By `signs`, the address of a mint
is allocated, for which it signs, together with its initialisation, for which it would not. -/
structure TokenLaws
    (tokens : TokenInstruction → List Pubkey → TokenState → Except Error TokenState) : Prop
    extends QuietLaws tokens where
  keeps : ∀ {instruction signers t t' key m}, tokens instruction signers t = .ok t' →
    t.mints key = some m → ∃ m', t'.mints key = some m' ∧ m'.owner = m.owner ∧
      m'.transferFeeConfig.isSome = m.transferFeeConfig.isSome
  signs : ∀ {instruction signers t t' key m}, tokens instruction signers t = .ok t' →
    t.mints key = none → t'.mints key = some m → key ∈ signers
  creates : ∀ {instruction signers t t' key m}, tokens instruction signers t = .ok t' →
    t.mints key = none → t'.mints key = some m → instruction.reassigns = false →
      ∃ tokenProgram decimals mintAuthority freezeAuthority,
        instruction = .initializeMint2 tokenProgram key decimals mintAuthority freezeAuthority
  authority : ∀ {instruction signers t t' key m m'}, tokens instruction signers t = .ok t' →
    t.mints key = some m → t'.mints key = some m' → m'.mintAuthority ≠ m.mintAuthority →
      instruction.reassigns = true ∧ ∃ current, m.mintAuthority = some current ∧ current ∈ signers
  initialised : ∀ {tokenProgram mint decimals mintAuthority freezeAuthority signers t t'},
    tokens (.initializeMint2 tokenProgram mint decimals mintAuthority freezeAuthority) signers t
      = .ok t' → ∃ m, t'.mints mint = some m ∧ m.owner = tokenProgram ∧
        m.mintAuthority = some mintAuthority ∧ m.transferFeeConfig = none
  reassigned : ∀ {tokenProgram mint current new signers t t'},
    tokens (.setMintAuthority tokenProgram mint current new) signers t = .ok t' →
      ∃ m', t'.mints mint = some m' ∧ m'.mintAuthority = new

/-- **Who pays for an account is not recorded in it**: neither the associated token program nor the
metadata program does more with the payer than take its lamports. -/
structure FundingLaws
    (tokens : TokenInstruction → List Pubkey → TokenState → Except Error TokenState) : Prop where
  create : ∀ {payer payer' account authority mint tokenProgram t u u'},
    tokens (.create payer account authority mint tokenProgram) [payer] t = .ok u →
    tokens (.create payer' account authority mint tokenProgram) [payer'] t = .ok u' → u = u'
  createV1 : ∀ {payer payer' metadata mint authority name symbol t u u'},
    tokens (.createV1 metadata mint authority payer name symbol) [authority, payer] t = .ok u →
    tokens (.createV1 metadata mint authority payer' name symbol) [authority, payer'] t = .ok u' →
    u = u'

/-- **A mint stays**, with its program and its transfer-fee extension. -/
def TokenState.Kept (t t' : TokenState) : Prop :=
  ∀ key m, t.mints key = some m → ∃ m', t'.mints key = some m' ∧ m'.owner = m.owner ∧
    m'.transferFeeConfig.isSome = m.transferFeeConfig.isSome

/-- Where nothing happens, every mint stays. -/
theorem TokenState.Kept.refl (t : TokenState) : t.Kept t := fun _ m stored => ⟨m, stored, rfl, rfl⟩

/-- Mints that stay step by step stay in the end. -/
theorem TokenState.Kept.trans {t t₁ t' : TokenState} (h : t.Kept t₁) (h' : t₁.Kept t') : t.Kept t' := by
  intro key m stored
  obtain ⟨m₁, stored₁, owner₁, fee₁⟩ := h key m stored
  obtain ⟨m', stored', owner', fee'⟩ := h' key m₁ stored₁
  exact ⟨m', stored', owner'.trans owner₁, fee'.trans fee₁⟩

/-! ## A token program -/

namespace TokenState

variable (t : TokenState)

/-- Write a mint. -/
def setMint (key : Pubkey) (mint : Mint) : TokenState :=
  { t with mints := Function.update t.mints key (some mint) }

/-- Write a token account. -/
def setAccount (key : Pubkey) (account : TokenAccount) : TokenState :=
  { t with accounts := Function.update t.accounts key (some account) }

/-- Take an amount from an account whose wallet signs. -/
def debit (mint source authority : Pubkey) (amount : UInt64) (signers : List Pubkey) :
    Except Error TokenState := do
  let account ← okOr (t.accounts source) (.program .invalidAccountData)
  require (account.mint = mint) (.program .invalidAccountData)
  require (account.authority = authority ∧ authority ∈ signers) (.program .missingRequiredSignature)
  require (amount ≤ account.amount) (.program .insufficientFunds)
  pure (t.setAccount source { account with amount := account.amount - amount })

/-- Give an amount to an account. -/
def credit (mint destination : Pubkey) (amount : UInt64) : Except Error TokenState := do
  let account ← okOr (t.accounts destination) (.program .invalidAccountData)
  require (account.mint = mint) (.program .invalidAccountData)
  require (account.amount.toNat + amount.toNat < 2 ^ 64) (.program .arithmeticOverflow)
  pure (t.setAccount destination { account with amount := account.amount + amount })

/-- Change the supply of a mint. -/
def resupply (mint : Pubkey) (supply : Mint → Except Error UInt64) : Except Error TokenState := do
  let m ← okOr (t.mints mint) (.program .invalidAccountData)
  let supply ← supply m
  pure (t.setMint mint { m with supply })

end TokenState

/-- **A token program, an associated token program and a metadata program.** `associated` derives
the address of an associated token account. -/
def TokenProgram.process (associated : Pubkey → Pubkey → Pubkey → Except Error Pubkey)
    (instruction : TokenInstruction) (signers : List Pubkey) (t : TokenState) :
    Except Error TokenState :=
  match instruction with
  | .create _ account authority mint tokenProgram => do
    let address ← associated authority mint tokenProgram
    require (account = address) (.program .invalidSeeds)
    require (t.accounts account = none) Error.accountAlreadyInUse
    pure (t.setAccount account ⟨tokenProgram, mint, authority, 0⟩)
  | .initializeMint2 tokenProgram mint decimals mintAuthority freezeAuthority => do
    require (mint ∈ signers) (.program .missingRequiredSignature)
    require (t.mints mint = none) Error.accountAlreadyInUse
    pure (t.setMint mint
      ⟨tokenProgram, some mintAuthority, 0, decimals, freezeAuthority, none, none, none⟩)
  | .mintTo _ mint destination authority amount => do
    let t ← t.credit mint destination amount
    t.resupply mint fun m => do
      require (m.mintAuthority = some authority ∧ authority ∈ signers)
        (.program .missingRequiredSignature)
      require (m.supply.toNat + amount.toNat < 2 ^ 64) (.program .arithmeticOverflow)
      pure (m.supply + amount)
  | .burn _ mint source authority amount => do
    let t ← t.debit mint source authority amount signers
    t.resupply mint fun m => do
      require (amount ≤ m.supply) (.program .arithmeticOverflow)
      pure (m.supply - amount)
  | .transferChecked _ source mint destination authority amount _ => do
    let t ← t.debit mint source authority amount signers
    t.credit mint destination amount
  | .transferCheckedWithFee _ source mint destination authority amount _ fee => do
    require (fee ≤ amount) (.program .invalidArgument)
    let t ← t.debit mint source authority amount signers
    t.credit mint destination (amount - fee)
  | .setMintAuthority _ mint currentAuthority newAuthority => do
    let m ← okOr (t.mints mint) (.program .invalidAccountData)
    require (m.mintAuthority = some currentAuthority ∧ currentAuthority ∈ signers)
      (.program .missingRequiredSignature)
    pure (t.setMint mint { m with mintAuthority := newAuthority })
  | .createV1 metadata mint authority _ name symbol => do
    let m ← okOr (t.mints mint) (.program .invalidAccountData)
    require (m.mintAuthority = some authority ∧ authority ∈ signers)
      (.program .missingRequiredSignature)
    pure { t with metadata := Function.update t.metadata metadata (some ⟨mint, name, symbol⟩) }
  | .other .. => throw (.program .invalidInstructionData)

/-! ## It follows the laws -/

namespace TokenState

variable {t t' : TokenState}

/-- A token account that pays or receives leaves every mint as it is. -/
theorem mints_of_debit {mint source authority : Pubkey} {amount : UInt64} {signers : List Pubkey}
    (h : t.debit mint source authority amount signers = .ok t') : t'.mints = t.mints := by
  simp only [debit, bind_eq_ok, pure_eq_ok] at h
  obtain ⟨account, -, _, -, _, -, _, -, rfl⟩ := h
  rfl

/-- A token account that receives leaves every mint as it is. -/
theorem mints_of_credit {mint destination : Pubkey} {amount : UInt64}
    (h : t.credit mint destination amount = .ok t') : t'.mints = t.mints := by
  simp only [credit, bind_eq_ok, pure_eq_ok] at h
  obtain ⟨account, -, _, -, _, -, rfl⟩ := h
  rfl

end TokenState

/-- **How the mints change**: not at all, one of them in its supply or its authority, or by one that
is new. -/
inductive MintsChange (instruction : TokenInstruction) (signers : List Pubkey) (t t' : TokenState) :
    Prop
  | keeps (mints : t'.mints = t.mints)
  | updates (mint : Pubkey) (m m' : Mint) (stored : t.mints mint = some m)
      (mints : t'.mints = Function.update t.mints mint (some m')) (owner : m'.owner = m.owner)
      (fee : m'.transferFeeConfig = m.transferFeeConfig)
      (supply : instruction.loud = false → m'.supply = m.supply)
      (authority : m'.mintAuthority ≠ m.mintAuthority → instruction.reassigns = true ∧
        ∃ current, m.mintAuthority = some current ∧ current ∈ signers)
  | initialises (mint : Pubkey) (m : Mint) (loud : instruction.loud = true)
      (own : ∃ tokenProgram decimals mintAuthority freezeAuthority,
        instruction = .initializeMint2 tokenProgram mint decimals mintAuthority freezeAuthority)
      (signed : mint ∈ signers) (fresh : t.mints mint = none)
      (mints : t'.mints = Function.update t.mints mint (some m))

variable {instruction : TokenInstruction} {signers : List Pubkey} {t t' : TokenState}

/-- A mint that exists stays, and only some of its fields change. -/
theorem MintsChange.kept (h : MintsChange instruction signers t t') {key : Pubkey} {m : Mint}
    (stored : t.mints key = some m) : ∃ m', t'.mints key = some m' ∧ m'.owner = m.owner ∧
      m'.transferFeeConfig.isSome = m.transferFeeConfig.isSome ∧
      (instruction.loud = false → m'.supply = m.supply) ∧
      (m'.mintAuthority ≠ m.mintAuthority → instruction.reassigns = true ∧
        ∃ current, m.mintAuthority = some current ∧ current ∈ signers) := by
  cases h with
  | keeps mints => exact ⟨m, mints ▸ stored, rfl, rfl, fun _ => rfl, fun changed => absurd rfl changed⟩
  | updates mint m₁ m' stored₁ mints owner fee supply authority =>
    by_cases same : key = mint
    · subst same
      cases stored.symm.trans stored₁
      exact ⟨m', by rw [mints, Function.update_self], owner, by rw [fee], supply, authority⟩
    · exact ⟨m, by rw [mints, Function.update_of_ne same, stored], rfl, rfl, fun _ => rfl,
        fun changed => absurd rfl changed⟩
  | initialises mint m' loud own signed fresh mints =>
    have other : key ≠ mint := by
      rintro rfl
      cases stored.symm.trans fresh
    exact ⟨m, by rw [mints, Function.update_of_ne other, stored], rfl, rfl, fun _ => rfl,
      fun changed => absurd rfl changed⟩

/-- A new mint is created by its own initialisation, which its address signs. -/
theorem MintsChange.created (h : MintsChange instruction signers t t') {key : Pubkey} {m : Mint}
    (absent : t.mints key = none) (created : t'.mints key = some m) :
    instruction.loud = true ∧ key ∈ signers ∧
      ∃ tokenProgram decimals mintAuthority freezeAuthority,
        instruction = .initializeMint2 tokenProgram key decimals mintAuthority freezeAuthority := by
  cases h with
  | keeps mints => cases absent.symm.trans (mints ▸ created)
  | updates mint m₁ m' stored mints owner fee supply authority =>
    have other : key ≠ mint := by
      rintro rfl
      cases absent.symm.trans stored
    rw [mints, Function.update_of_ne other, absent] at created
    cases created
  | initialises mint m' loud own signed fresh mints =>
    by_cases same : key = mint
    · subst same
      exact ⟨loud, signed, own⟩
    · rw [mints, Function.update_of_ne same, absent] at created
      cases created

namespace TokenProgram

variable {associated : Pubkey → Pubkey → Pubkey → Except Error Pubkey}

/-- A change of the supply updates a mint. -/
theorem mintsChange_of_resupply {t₁ : TokenState} {mint : Pubkey}
    {supply : Mint → Except Error UInt64} (h : t₁.resupply mint supply = .ok t')
    (mints : t₁.mints = t.mints) (loud : instruction.loud = true) :
    MintsChange instruction signers t t' := by
  simp only [TokenState.resupply, bind_eq_ok, okOr_eq_ok, pure_eq_ok] at h
  obtain ⟨m, stored, supply', -, rfl⟩ := h
  rw [mints] at stored
  refine .updates mint m { m with supply := supply' } stored ?_ rfl rfl ?_ fun changed =>
    absurd rfl changed
  · rw [← mints]
    rfl
  · rw [loud]
    rintro ⟨⟩

/-- **Every instruction** changes the mints in one of these ways. -/
theorem mintsChange (h : process associated instruction signers t = .ok t') :
    MintsChange instruction signers t t' := by
  cases instruction with
  | create payer account authority mint tokenProgram =>
    simp only [process, bind_eq_ok, pure_eq_ok] at h
    obtain ⟨address, -, _, -, _, -, rfl⟩ := h
    exact .keeps rfl
  | initializeMint2 tokenProgram mint decimals mintAuthority freezeAuthority =>
    simp only [process, bind_eq_ok, require_eq_ok, pure_eq_ok] at h
    obtain ⟨_, signed, _, fresh, rfl⟩ := h
    exact .initialises mint _ rfl ⟨_, _, _, _, rfl⟩ signed fresh rfl
  | mintTo tokenProgram mint destination authority amount =>
    simp only [process, bind_eq_ok] at h
    obtain ⟨t₁, credited, resupplied⟩ := h
    exact mintsChange_of_resupply resupplied (TokenState.mints_of_credit credited) rfl
  | burn tokenProgram mint source authority amount =>
    simp only [process, bind_eq_ok] at h
    obtain ⟨t₁, debited, resupplied⟩ := h
    exact mintsChange_of_resupply resupplied (TokenState.mints_of_debit debited) rfl
  | transferChecked tokenProgram source mint destination authority amount decimals =>
    simp only [process, bind_eq_ok] at h
    obtain ⟨t₁, debited, credited⟩ := h
    exact .keeps ((TokenState.mints_of_credit credited).trans (TokenState.mints_of_debit debited))
  | transferCheckedWithFee tokenProgram source mint destination authority amount decimals fee =>
    simp only [process, bind_eq_ok] at h
    obtain ⟨_, -, t₁, debited, credited⟩ := h
    exact .keeps ((TokenState.mints_of_credit credited).trans (TokenState.mints_of_debit debited))
  | setMintAuthority tokenProgram mint current new =>
    simp only [process, bind_eq_ok, okOr_eq_ok, require_eq_ok, pure_eq_ok] at h
    obtain ⟨m, stored, _, ⟨authority, signed⟩, rfl⟩ := h
    exact .updates mint m { m with mintAuthority := new } stored rfl rfl rfl (fun _ => rfl)
      fun _ => ⟨rfl, current, authority, signed⟩
  | createV1 metadata mint authority payer name symbol =>
    simp only [process, bind_eq_ok, pure_eq_ok] at h
    obtain ⟨m, -, _, -, rfl⟩ := h
    exact .keeps rfl
  | other programId accounts data => exact absurd h throw_ne_ok

/-- A quiet instruction leaves every balance: an account that it creates has none. -/
theorem balance_of_quiet (h : process associated instruction signers t = .ok t')
    (quiet : instruction.loud = false) (key : Pubkey) : t'.balance key = t.balance key := by
  cases instruction with
  | create payer account authority mint tokenProgram =>
    simp only [process, bind_eq_ok, require_eq_ok, pure_eq_ok] at h
    obtain ⟨address, -, _, -, _, fresh, rfl⟩ := h
    by_cases same : key = account
    · subst same
      simp [TokenState.balance, TokenState.setAccount, fresh]
    · simp [TokenState.balance, TokenState.setAccount, Function.update_of_ne same]
  | setMintAuthority tokenProgram mint current new =>
    simp only [process, bind_eq_ok, pure_eq_ok] at h
    obtain ⟨m, -, _, -, rfl⟩ := h
    rfl
  | createV1 metadata mint authority payer name symbol =>
    simp only [process, bind_eq_ok, pure_eq_ok] at h
    obtain ⟨m, -, _, -, rfl⟩ := h
    rfl
  | _ => cases quiet

/-- **The laws hold.** -/
theorem laws (associated : Pubkey → Pubkey → Pubkey → Except Error Pubkey) :
    TokenLaws (process associated) where
  keeps := by
    intro instruction signers t t' key m h stored
    obtain ⟨m', stored', owner, fee, -⟩ := (mintsChange h).kept stored
    exact ⟨m', stored', owner, fee⟩
  signs := by
    intro instruction signers t t' key m h absent created
    exact ((mintsChange h).created absent created).2.1
  creates := by
    intro instruction signers t t' key m h absent created _
    exact ((mintsChange h).created absent created).2.2
  authority := by
    intro instruction signers t t' key m m' h stored stored' changed
    obtain ⟨m₁, stored₁, -, -, -, authority⟩ := (mintsChange h).kept stored
    cases stored'.symm.trans stored₁
    exact authority changed
  initialised := by
    intro tokenProgram mint decimals mintAuthority freezeAuthority signers t t' h
    simp only [process, bind_eq_ok, pure_eq_ok] at h
    obtain ⟨_, -, _, -, rfl⟩ := h
    exact ⟨_, Function.update_self .., rfl, rfl, rfl⟩
  reassigned := by
    intro tokenProgram mint current new signers t t' h
    simp only [process, bind_eq_ok, pure_eq_ok] at h
    obtain ⟨m, -, _, -, rfl⟩ := h
    exact ⟨_, Function.update_self .., rfl⟩
  quiet := by
    intro instruction signers t t' h quiet key
    refine ⟨balance_of_quiet h quiet key, ?_⟩
    cases stored : t.mints key with
    | some m =>
      obtain ⟨m', stored', owner, -, supply, -⟩ := (mintsChange h).kept stored
      simp [TokenState.supply, stored, stored', supply quiet, owner]
    | none =>
      cases stored' : t'.mints key with
      | none => simp [TokenState.supply, stored, stored']
      | some m' =>
        have loud := ((mintsChange h).created stored stored').1
        rw [quiet] at loud
        cases loud

/-- **It does not record who pays.** -/
theorem funding (associated : Pubkey → Pubkey → Pubkey → Except Error Pubkey) :
    FundingLaws (process associated) where
  create := by
    intro payer payer' account authority mint tokenProgram t u u' h h'
    exact Except.ok.inj (h.symm.trans h')
  createV1 := by
    intro payer payer' metadata mint authority name symbol t u u' h h'
    simp only [process, bind_eq_ok, okOr_eq_ok, pure_eq_ok] at h h'
    obtain ⟨m, -, _, -, rfl⟩ := h
    obtain ⟨m', -, _, -, rfl⟩ := h'
    rfl

end TokenProgram

end AxelarSolana
